/-
`handlerConnectProxy`: the sidecar proxy's watches and deliveries.  Its own cases are the
roots, intentions, intention-upstreams (transparent mode), prepared-query, service-check and
mesh-config deliveries; everything else goes to `handleUpdateUpstreams`.
-/
import ConsulAgent.Upstreams

namespace ConsulAgent

/-- `intentionsWatchID`. -/
def intentionsWatchID : String := "intentions"

/-- `intentionUpstreamsID`. -/
def intentionUpstreamsID : String := "intention-upstreams"

/-- `meshConfigEntryID`. -/
def meshConfigEntryID : String := "mesh"

/-- `svcChecksWatchIDPrefix`, `cachetype.ServiceHTTPChecksName + ":"`. -/
def svcChecksWatchIDPrefix : String := "service-http-checks:"

/-- `preparedQueryIDPrefix`, `string(structs.UpstreamDestTypePreparedQuery) + ":"`. -/
def preparedQueryIDPrefix : String := upstreamDestTypePreparedQuery ++ ":"

/-- `wildcardSID.String()`, the key of the upstream defaults. -/
def wildcardServiceID : String := wildcardSpecifier

namespace handlerConnectProxy

/-- A write to the connect proxy's `ConfigSnapshotUpstreams`. -/
def modifyOwnUpstreams (f : ConfigSnapshotUpstreams → ConfigSnapshotUpstreams) : HandlerM Unit :=
  modifyConnectProxy fun cp => { cp with configSnapshotUpstreams := f cp.configSnapshotUpstreams }

/-- The intentions case: the first match list, when there is one, and the `-Set` flag. -/
def handleIntentions : Result → HandlerM Unit
  | .indexedIntentionMatches matchSets =>
      modifyConnectProxy fun cp =>
        { cp with
          intentions := (match matchSets with
            | first :: _ => first
            | [] => cp.intentions)
          intentionsSet := true }
  | r => fail (invalidTypeForResponse r)

/-- A delivered service without config of its own adopts the wildcard defaults, when there are
some. -/
def adoptWildcardDefaults (svc : ServiceName) : HandlerM Unit := do
  let cfg := (← getSnap).connectProxy.configSnapshotUpstreams.upstreamConfig
  if svc.toString ∉ cfg then
    if let some defaults := cfg.lookup wildcardServiceID then
      modifyOwnUpstreams fun us =>
        { us with upstreamConfig := us.upstreamConfig.insert svc.toString defaults }

/-- One service of an intention-upstreams delivery: it adopts the wildcard defaults when it has
no config of its own, and its chain is watched. -/
def watchIntentionUpstream (s : HandlerState) (svc : ServiceName) : HandlerM Unit := do
  adoptWildcardDefaults svc
  match ← handlerUpstreams.watchDiscoveryChain s svc.toString with
  | some e => fail ("failed to watch discovery chain for " ++ svc.toString ++ ": " ++ e)
  | none => pure ()

/-- The service loop of an intention-upstreams delivery. -/
def watchIntentionUpstreams (s : HandlerState) : List ServiceName → HandlerM Unit
  | [] => pure ()
  | svc :: rest => do
      watchIntentionUpstream s svc
      watchIntentionUpstreams s rest

/-- Whether the cleanup after an intention-upstreams delivery keeps upstream `sn`: it is
configured for a datacenter other than the source's, or it was delivered. -/
def keepsUpstream (s : HandlerState) (cfg : GoMap String Upstream) (seen : List String)
    (sn : String) : Bool :=
  (match cfg.lookup sn with
    | some upstream => upstream.datacenter ≠ "" ∧ upstream.datacenter ≠ s.sourceDatacenter
    | none => false) || sn ∈ seen

/-- The intention-upstreams case: watch a chain for each delivered service, then drop the
bookkeeping of the local upstreams that were not delivered.  Only the chain watch is
cancelled; the other maps lose their entries without their cancel functions being called. -/
def handleIntentionUpstreams (s : HandlerState) : Result → HandlerM Unit
  | .indexedServiceList services => do
      watchIntentionUpstreams s services
      let us := (← getSnap).connectProxy.configSnapshotUpstreams
      let keep := keepsUpstream s us.upstreamConfig (services.map (·.toString))
      modifyOwnUpstreams fun us =>
        { us with
          watchedUpstreams := us.watchedUpstreams.retain keep
          watchedUpstreamEndpoints := us.watchedUpstreamEndpoints.retain keep
          watchedGateways := us.watchedGateways.retain keep
          watchedGatewayEndpoints := us.watchedGatewayEndpoints.retain keep
          watchedDiscoveryChains := us.watchedDiscoveryChains.retain keep
          discoveryChain := us.discoveryChain.retain fun sn =>
            keep sn || sn ∉ us.watchedDiscoveryChains }
      cancelAll (us.watchedDiscoveryChains.dropped keep)
  | r => fail ("invalid type for response " ++ r.goType)

/-- The prepared-query case. -/
def handlePreparedQuery (correlationID : String) : Result → HandlerM Unit
  | .preparedQueryExecuteResponse nodes =>
      let pq := trimPrefix correlationID "upstream:"
      modifyConnectProxy fun cp =>
        { cp with preparedQueryEndpoints := cp.preparedQueryEndpoints.insert pq nodes }
  | r => fail (invalidTypeForResponse r)

/-- The service-checks case. -/
def handleServiceChecks (correlationID : String) : Result → HandlerM Unit
  | .checkTypes checks =>
      let svcID := serviceIDFromString (trimPrefix correlationID svcChecksWatchIDPrefix)
      modifyConnectProxy fun cp =>
        { cp with watchedServiceChecks := cp.watchedServiceChecks.insert svcID checks }
  | r => fail ("invalid type for service checks response: " ++ r.goType ++
      ", want: []structs.CheckType")

/-- The mesh-config case: the entry or nil, and the `-Set` flag. -/
def handleMeshConfig : Result → HandlerM Unit
  | .configEntryResponse none =>
      modifyConnectProxy fun cp => { cp with meshConfig := none, meshConfigSet := true }
  | .configEntryResponse (some (.meshConfig entry)) =>
      modifyConnectProxy fun cp => { cp with meshConfig := some entry, meshConfigSet := true }
  | .configEntryResponse (some entry) => fail ("invalid type for config entry: " ++ entry.goType)
  | r => fail (invalidTypeForResponse r)

/-- `handlerConnectProxy.handleUpdate`. -/
def handleUpdate (s : HandlerState) (u : UpdateEvent) : HandlerM Unit :=
  match u.err with
  | some e => fail ("error filling agent cache: " ++ e)
  | none =>
      if u.correlationID = rootsWatchID then handleRoots u.result
      else if u.correlationID = intentionsWatchID then handleIntentions u.result
      else if u.correlationID = intentionUpstreamsID then handleIntentionUpstreams s u.result
      else if hasPrefix u.correlationID ("upstream:" ++ preparedQueryIDPrefix) then
        handlePreparedQuery u.correlationID u.result
      else if hasPrefix u.correlationID svcChecksWatchIDPrefix then
        handleServiceChecks u.correlationID u.result
      else if u.correlationID = meshConfigEntryID then handleMeshConfig u.result
      else handlerUpstreams.handleUpdateUpstreams s u

/-! ### Subscriptions and Go errors -/

section Errors

open HandlerM handlerUpstreams

theorem keepsSubs_handleIntentions (r : Result) : Keeps ProxyState.subs (handleIntentions r) := by
  cases r <;> exact fun _ => rfl

theorem clean_handleIntentions (r : Result) : Clean (handleIntentions r) := by
  intro w msg w' h
  cases r <;> cases h <;> rfl

theorem keepsSubs_handlePreparedQuery (correlationID : String) (r : Result) :
    Keeps ProxyState.subs (handlePreparedQuery correlationID r) := by
  cases r <;> exact fun _ => rfl

theorem clean_handlePreparedQuery (correlationID : String) (r : Result) :
    Clean (handlePreparedQuery correlationID r) := by
  intro w msg w' h
  cases r <;> cases h <;> rfl

theorem keepsSubs_handleServiceChecks (correlationID : String) (r : Result) :
    Keeps ProxyState.subs (handleServiceChecks correlationID r) := by
  cases r <;> exact fun _ => rfl

theorem clean_handleServiceChecks (correlationID : String) (r : Result) :
    Clean (handleServiceChecks correlationID r) := by
  intro w msg w' h
  cases r <;> cases h <;> rfl

theorem keepsSubs_handleMeshConfig (r : Result) : Keeps ProxyState.subs (handleMeshConfig r) := by
  unfold handleMeshConfig
  split <;> exact fun _ => rfl

theorem clean_handleMeshConfig (r : Result) : Clean (handleMeshConfig r) := by
  intro w msg w' h
  unfold handleMeshConfig at h
  split at h <;> cases h <;> rfl

theorem total_modifyOwnUpstreams (f : ConfigSnapshotUpstreams → ConfigSnapshotUpstreams) :
    Total (modifyOwnUpstreams f) :=
  total_modifyConnectProxy _

theorem total_adoptWildcardDefaults (svc : ServiceName) : Total (adoptWildcardDefaults svc) := by
  refine total_getSnap.bind fun _ => ?_
  dsimp only
  split
  · split
    · exact total_modifyOwnUpstreams _
    · exact total_pure ()
  · exact total_pure ()

variable {s : HandlerState}

theorem noError_watchIntentionUpstreams (hc : s.cache.Accepts)
    (hk : s.kind = .connectProxy ∨ s.kind = .ingressGateway) (services : List ServiceName) :
    NoError (watchIntentionUpstreams s services) := by
  induction services with
  | nil => exact (total_pure ()).noError
  | cons svc rest ih =>
      refine NoError.bind ?_ fun _ => ih
      exact (total_adoptWildcardDefaults svc).noError.bind fun _ =>
        (watchDiscoveryChain_ensures hc hk _).noError_bind fun _ herr => by
          subst herr; exact (total_pure ()).noError

theorem clean_handleIntentionUpstreams (hc : s.cache.Accepts)
    (hk : s.kind = .connectProxy ∨ s.kind = .ingressGateway) (r : Result) :
    Clean (handleIntentionUpstreams s r) := by
  cases r with
  | indexedServiceList services =>
      refine NoError.clean ((noError_watchIntentionUpstreams hc hk services).bind fun _ =>
        total_getSnap.noError.bind fun _ => ?_)
      exact (total_modifyOwnUpstreams _).noError.bind fun _ => (total_cancelAll _).noError
  | _ => exact clean_fail _

/-- Only intention-upstreams and chain deliveries open or cancel subscriptions. -/
theorem keepsSubs_handleUpdate (u : UpdateEvent) (h₁ : u.correlationID ≠ intentionUpstreamsID)
    (h₂ : hasPrefix u.correlationID "discovery-chain:" = false) :
    Keeps ProxyState.subs (handleUpdate s u) := by
  unfold handleUpdate
  split
  · exact keeps_fail _ _
  · exact Keeps.ite (fun _ => keepsSubs_handleRoots _) fun _ =>
      Keeps.ite (fun _ => keepsSubs_handleIntentions _) fun _ =>
      Keeps.ite (fun hc => absurd hc h₁) fun _ =>
      Keeps.ite (fun _ => keepsSubs_handlePreparedQuery _ _) fun _ =>
      Keeps.ite (fun _ => keepsSubs_handleServiceChecks _ _) fun _ =>
      Keeps.ite (fun _ => keepsSubs_handleMeshConfig _) fun _ => keepsSubs_handleUpdateUpstreams u h₂

/-- With accepting collaborators, a Go error from the connect proxy's handler changes nothing,
unless it is a chain delivery with a nil chain. -/
theorem clean_handleUpdate (hs : s.Accepts) (hk : s.kind = .connectProxy) (u : UpdateEvent)
    (hnil : ¬ (hasPrefix u.correlationID "discovery-chain:" = true ∧
      u.result = .discoveryChainResponse none)) :
    Clean (handleUpdate s u) := by
  unfold handleUpdate
  split
  · exact clean_fail _
  · exact Clean.ite (fun _ => clean_handleRoots _) fun _ =>
      Clean.ite (fun _ => clean_handleIntentions _) fun _ =>
      Clean.ite (fun _ => clean_handleIntentionUpstreams hs.1 (.inl hk) _) fun _ =>
      Clean.ite (fun _ => clean_handlePreparedQuery _ _) fun _ =>
      Clean.ite (fun _ => clean_handleServiceChecks _ _) fun _ =>
      Clean.ite (fun _ => clean_handleMeshConfig _) fun _ => clean_handleUpdateUpstreams hs u hnil

end Errors

/-! ## Initial watches -/

/-- One upstream of the registration: wildcard defaults are stored, centrally configured and
(in transparent mode) local upstreams get no watch, the others a prepared-query or a
discovery-chain watch. -/
def initUpstream (s : HandlerState) (u : Upstream) : HandlerM Unit := do
  if u.destinationName = wildcardSpecifier then
    modifyOwnUpstreams fun us =>
      { us with upstreamConfig := us.upstreamConfig.insert u.destinationName u }
  else if u.centrallyConfigured then pure ()
  else
    modifyOwnUpstreams fun us =>
      { us with upstreamConfig := us.upstreamConfig.insert u.identifier u }
    let dc := if u.datacenter ≠ "" then u.datacenter else s.sourceDatacenter
    if s.proxyCfg.mode = .transparent ∧ (dc = "" ∨ dc = s.sourceDatacenter) then pure ()
    else if u.destinationType = upstreamDestTypePreparedQuery then
      watchRootOrFail s.cache ("upstream:" ++ u.identifier)
    else if u.destinationType = upstreamDestTypeService ∨ u.destinationType = "" then
      if let some e := ← notifyRoot s.cache (discoveryChainID u.identifier) then
        fail ("failed to watch discovery chain for " ++ u.identifier ++ ": " ++ e)
    else fail ("unknown upstream type: " ++ goQuote u.destinationType)

/-- The upstream loop of the initial watches. -/
def initUpstreams (s : HandlerState) : List Upstream → HandlerM Unit
  | [] => pure ()
  | u :: rest => do
      initUpstream s u
      initUpstreams s rest

/-- `handlerConnectProxy.initialize`, run from the snapshot of the service instance: make the
passthrough map, watch roots, leaf, intentions and service checks (and, in transparent mode,
intention upstreams and the mesh config), then each upstream. -/
def initWatches (s : HandlerState) : HandlerM Unit := do
  modifyOwnUpstreams fun us => { us with passthroughUpstreams := some ∅ }
  watchRootOrFail s.cache rootsWatchID
  watchRootOrFail s.cache leafWatchID
  watchRootOrFail s.cache intentionsWatchID
  watchRootOrFail s.cache (svcChecksWatchIDPrefix ++ s.proxyCfg.destinationServiceID)
  if s.proxyCfg.mode = .transparent then
    watchRootOrFail s.cache intentionUpstreamsID
    watchRootOrFail s.cache meshConfigEntryID
  initUpstreams s s.proxyCfg.upstreams

end handlerConnectProxy

end ConsulAgent
