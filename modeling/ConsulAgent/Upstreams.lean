/-
`handlerUpstreams`: what connect proxies and ingress gateways share, the discovery-chain, target
and gateway deliveries of their upstreams.
-/
import ConsulAgent.Snapshot

namespace ConsulAgent

/-! ## Shared by the four handlers -/

/-- `rootsWatchID`. -/
def rootsWatchID : String := "roots"

/-- `leafWatchID`. -/
def leafWatchID : String := "leaf"

/-- `gatewayServicesWatchID`. -/
def gatewayServicesWatchID : String := "gateway-services"

/-- Go's `%s` of a service kind. -/
def ServiceKind.goString : ServiceKind → String
  | .typical => ""
  | .connectProxy => "connect-proxy"
  | .meshGateway => "mesh-gateway"
  | .terminatingGateway => "terminating-gateway"
  | .ingressGateway => "ingress-gateway"

/-- `invalid type for response: %T`. -/
def invalidTypeForResponse (r : Result) : String :=
  "invalid type for response: " ++ r.goType

/-- `connect.ServiceSNI`, modelled from the spec: `service.namespace.datacenter.<trust-domain>`,
behind the subset when there is one. -/
def serviceSNI (service subset ns datacenter trustDomain : String) : String :=
  let base := service ++ "." ++ ns ++ "." ++ datacenter ++ "." ++ trustDomain
  if subset = "" then base else subset ++ "." ++ base

/-- The roots case, the same in every handler. -/
def handleRoots : Result → HandlerM Unit
  | .indexedCARoots roots => modifySnap fun snap => { snap with roots := some roots }
  | r => fail (invalidTypeForResponse r)

/-- The correlation id of a chain target's endpoints. -/
def upstreamTargetID (chainID upstreamID : String) : String :=
  "upstream-target:" ++ chainID ++ ":" ++ upstreamID

/-- The correlation id of the mesh gateways of an upstream's datacenter. -/
def meshGatewayUpstreamID (dc upstreamID : String) : String :=
  "mesh-gateway:" ++ dc ++ ":" ++ upstreamID

/-- The correlation id of an upstream's discovery chain. -/
def discoveryChainID (id : String) : String :=
  "discovery-chain:" ++ id

namespace handlerUpstreams

/-- `watchMeshGateway`, with the caller's `context.WithCancel`. -/
def watchMeshGateway (s : HandlerState) (dc upstreamID : String) :
    HandlerM (CancelFunc × Option String) :=
  notifyWithCancel s.cache (meshGatewayUpstreamID dc upstreamID)

/-- `watchUpstreamTarget`: a health watch of one chain target, kept under
`WatchedUpstreams[upstreamID][chainID]`, whose map the caller has made. -/
def watchUpstreamTarget (s : HandlerState) (upstreamID chainID : String) :
    HandlerM (Option String) := do
  let (cancelFn, err) ← notifyWithCancel s.health (upstreamTargetID chainID upstreamID)
  match err with
  | some e => do
      cancel cancelFn
      return some e
  | none => do
      modifyUpstreams fun us =>
        { us with watchedUpstreams := us.watchedUpstreams.setInner upstreamID chainID cancelFn }
      return none

/-- The target loop of `resetWatchesFromChain`. -/
def watchTargets (s : HandlerState) (id : String) : List DiscoveryTarget → HandlerM Unit
  | [] => pure ()
  | target :: rest => do
      match ← watchUpstreamTarget s id target.id with
      | some _ =>
        fail ("failed to watch target " ++ goQuote target.id ++ " for upstream " ++ goQuote id)
      | none => watchTargets s id rest

/-- `needGateways`: the datacenters whose mesh gateways the targets' modes call for. -/
def needGateways (s : HandlerState) : List DiscoveryTarget → GoMap String Unit
  | [] => ∅
  | target :: rest =>
      match target.meshGatewayMode with
      | .remote => (needGateways s rest).insert target.datacenter ()
      | .«local» => (needGateways s rest).insert s.sourceDatacenter ()
      | _ => needGateways s rest

/-- The loop that opens the missing mesh-gateway watches of an upstream. -/
def watchGateways (s : HandlerState) (id : String) : List String → HandlerM Unit
  | [] => pure ()
  | dc :: rest => do
      if dc ∈ (← getSnap).upstreamsOf.watchedGateways.inner id then watchGateways s id rest
      else
        let (cancelFn, err) ← watchMeshGateway s dc id
        match err with
        | some e => do
            cancel cancelFn
            fail e
        | none => do
            modifyUpstreams fun us =>
              { us with watchedGateways := us.watchedGateways.setInner id dc cancelFn }
            watchGateways s id rest

/-- The first loop of `resetWatchesFromChain`: stop every target watch of upstream `id`,
dropping its endpoints. -/
def stopTargets (id : String) : HandlerM Unit := do
  let stopped := (← getSnap).upstreamsOf.watchedUpstreams.inner id
  modifyUpstreams fun us =>
    { us with
      watchedUpstreams := us.watchedUpstreams.insert id ∅
      watchedUpstreamEndpoints := us.watchedUpstreamEndpoints.insert id
        ((us.watchedUpstreamEndpoints.inner id).retain fun t => t ∉ stopped) }
  cancelAll (stopped.entries.map (·.2))

/-- In transparent mode, a watch of the chain's own endpoints when no target is the chain. -/
def watchChainTarget (s : HandlerState) (id : String) (chain : CompiledDiscoveryChain) :
    HandlerM Unit := do
  if !chain.targets.any (·.id == chain.id) && s.proxyCfg.mode == .transparent then
    if (← watchUpstreamTarget s id chain.id).isSome then
      fail ("failed to watch target " ++ goQuote chain.id ++ " for upstream " ++ goQuote id)

/-- The last loop of `resetWatchesFromChain`: stop the mesh-gateway watches of upstream `id`
that no target needs, dropping their endpoints. -/
def stopGateways (id : String) (need : GoMap String Unit) : HandlerM Unit := do
  let gateways := (← getSnap).upstreamsOf.watchedGateways.inner id
  modifyUpstreams fun us =>
    { us with
      watchedGateways := us.watchedGateways.insert id (gateways.retain (· ∈ need))
      watchedGatewayEndpoints := us.watchedGatewayEndpoints.insert id
        ((us.watchedGatewayEndpoints.inner id).retain fun dc => dc ∈ need ∨ dc ∉ gateways) }
  cancelAll (gateways.dropped (· ∈ need))

/-- `resetWatchesFromChain`: drop every target watch of upstream `id`, watch each target of the
new chain (and the chain's own service in transparent mode when no target is it), open the
mesh-gateway watches the targets need and drop the others. -/
def resetWatchesFromChain (s : HandlerState) (id : String) :
    Option CompiledDiscoveryChain → HandlerM Unit
  | none => fail "not possible to arrive here with no discovery chain"
  | some chain => do
      modifyUpstreams fun us =>
        { us with
          watchedUpstreams := us.watchedUpstreams.ensure id
          watchedUpstreamEndpoints := us.watchedUpstreamEndpoints.ensure id
          watchedGateways := us.watchedGateways.ensure id
          watchedGatewayEndpoints := us.watchedGatewayEndpoints.ensure id }
      stopTargets id
      watchTargets s id chain.targets
      watchChainTarget s id chain
      let need := needGateways s chain.targets
      watchGateways s id need.keys
      stopGateways id need

/-- The service a directly dialled instance stands for: a sidecar's destination (its name, or
its id when the name is empty), or the instance's own service. -/
def passthroughDestination (node : CheckServiceNode) : ServiceName :=
  if node.service.kind = .connectProxy then
    ⟨if node.service.destinationServiceName = "" then node.service.destinationServiceID
      else node.service.destinationServiceName⟩
  else node.service.compoundServiceName

/-- One node of an upstream-target delivery: in transparent mode a directly dialled instance
adds its address under its destination, with an SNI made from the current roots. -/
def recordPassthrough (node : CheckServiceNode) : HandlerM Unit := do
  let snap ← getSnap
  if snap.proxy.mode = .transparent ∧ node.service.dialedDirectly then
    let svc := passthroughDestination node
    match snap.roots with
    | none => crash "invalid memory address or nil pointer dereference"
    | some roots =>
        let sni := serviceSNI svc.name "" intentionDefaultNamespace snap.datacenter roots.trustDomain
        match snap.upstreamsOf.passthroughUpstreams with
        | none => crash "assignment to entry in nil map"
        | some passthrough =>
            let entry := (passthrough.lookup svc.toString).getD ⟨sni, []⟩
            modifyUpstreams fun us =>
              { us with passthroughUpstreams := some (passthrough.insert svc.toString
                  { entry with addrs := entry.addrs.insert (node.bestAddress false) }) }

/-- In transparent mode, a directly dialled node faults when the roots or the passthrough map
are still nil. -/
theorem recordPassthrough_faults {node : CheckServiceNode} {w : ProxyState}
    (hmode : w.snap.proxy.mode = .transparent) (hnode : node.service.dialedDirectly = true)
    (hfault : w.snap.roots = none ∨ w.snap.upstreamsOf.passthroughUpstreams = none) :
    ∃ msg, recordPassthrough node w = .error (.panic msg) w := by
  simp only [recordPassthrough, bind, EStateM.bind, getSnap_apply, hmode, hnode, and_self,
    if_true]
  rcases hfault with hroots | hpass
  · exact ⟨_, by rw [hroots]; rfl⟩
  · cases hroots : w.snap.roots with
    | none => exact ⟨_, rfl⟩
    | some roots => exact ⟨_, by simp only [hpass]; rfl⟩

/-- Otherwise it adds the node's address under its destination, with the SNI of the current
trust domain when the destination is new. -/
theorem recordPassthrough_of_direct {node : CheckServiceNode} {w : ProxyState}
    {roots : IndexedCARoots} {passthrough : GoMap String ServicePassthroughAddrs}
    (hmode : w.snap.proxy.mode = .transparent) (hnode : node.service.dialedDirectly = true)
    (hroots : w.snap.roots = some roots)
    (hpass : w.snap.upstreamsOf.passthroughUpstreams = some passthrough) :
    recordPassthrough node w =
      let svc := passthroughDestination node
      let entry := (passthrough.lookup svc.toString).getD
        ⟨serviceSNI svc.name "" intentionDefaultNamespace w.snap.datacenter roots.trustDomain, []⟩
      (modifyUpstreams fun us =>
        { us with passthroughUpstreams := some (passthrough.insert svc.toString
            { entry with addrs := entry.addrs.insert (node.bestAddress false) }) }) w := by
  simp only [recordPassthrough, bind, EStateM.bind, getSnap_apply, hmode, hnode, and_self,
    if_true, hroots, hpass]

/-- The node loop of an upstream-target delivery. -/
def recordPassthroughs : List CheckServiceNode → HandlerM Unit
  | [] => pure ()
  | node :: rest => do
      recordPassthrough node
      recordPassthroughs rest

/-- The leaf branch of `handleUpdateUpstreams`. -/
def handleLeaf : Result → HandlerM Unit
  | .issuedCert leaf => modifyUpstreams fun us => { us with leaf := some leaf }
  | r => fail (invalidTypeForResponse r)

/-- The discovery-chain branch of `handleUpdateUpstreams`, for upstream `svc`. -/
def handleDiscoveryChain (s : HandlerState) (svc : String) : Result → HandlerM Unit
  | .discoveryChainResponse chain => do
      modifyUpstreams fun us => { us with discoveryChain := us.discoveryChain.insert svc chain }
      resetWatchesFromChain s svc chain
  | r => fail (invalidTypeForResponse r)

/-- The upstream-target branch of `handleUpdateUpstreams`. -/
def handleUpstreamTarget (correlationID : String) : Result → HandlerM Unit
  | .indexedCheckServiceNodes nodes =>
      match removeColonPrefix (trimPrefix correlationID "upstream-target:") with
      | (targetID, svc, true) => do
          modifyUpstreams fun us =>
            { us with watchedUpstreamEndpoints :=
                (us.watchedUpstreamEndpoints.ensure svc).setInner svc targetID nodes }
          recordPassthroughs nodes
      | (_, _, false) => fail ("invalid correlation id " ++ goQuote correlationID)
  | r => fail (invalidTypeForResponse r)

/-- The mesh-gateway branch of `handleUpdateUpstreams`. -/
def handleMeshGateway (correlationID : String) : Result → HandlerM Unit
  | .indexedNodesWithGateways nodes =>
      match removeColonPrefix (trimPrefix correlationID "mesh-gateway:") with
      | (dc, svc, true) =>
          modifyUpstreams fun us =>
            { us with watchedGatewayEndpoints :=
                (us.watchedGatewayEndpoints.ensure svc).setInner svc dc nodes }
      | (_, _, false) => fail ("invalid correlation id " ++ goQuote correlationID)
  | r => fail (invalidTypeForResponse r)

/-- `handleUpdateUpstreams`: the deliveries a connect proxy or an ingress gateway routes past its
own cases, dispatched on the correlation id. -/
def handleUpdateUpstreams (s : HandlerState) (u : UpdateEvent) : HandlerM Unit :=
  match u.err with
  | some e => fail ("error filling agent cache: " ++ e)
  | none =>
      if u.correlationID = leafWatchID then handleLeaf u.result
      else if hasPrefix u.correlationID "discovery-chain:" then
        handleDiscoveryChain s (trimPrefix u.correlationID "discovery-chain:") u.result
      else if hasPrefix u.correlationID "upstream-target:" then
        handleUpstreamTarget u.correlationID u.result
      else if hasPrefix u.correlationID "mesh-gateway:" then
        handleMeshGateway u.correlationID u.result
      else fail ("unknown correlation ID: " ++ u.correlationID)

/-- `watchDiscoveryChain`: open the chain watch of upstream `id` unless the connect proxy's map
already holds one, and keep its cancel function in the map of the handler's kind. -/
def watchDiscoveryChain (s : HandlerState) (id : String) : HandlerM (Option String) := do
  if id ∈ (← getSnap).connectProxy.configSnapshotUpstreams.watchedDiscoveryChains then
    return none
  else
    let (cancelFn, err) ← notifyWithCancel s.cache (discoveryChainID id)
    match err with
    | some e => do
        cancel cancelFn
        return some e
    | none =>
        match s.kind with
        | .ingressGateway => do
            modifyIngressGateway fun ig => { ig with configSnapshotUpstreams :=
              { ig.configSnapshotUpstreams with watchedDiscoveryChains :=
                  ig.configSnapshotUpstreams.watchedDiscoveryChains.insert id cancelFn } }
            return none
        | .connectProxy => do
            modifyConnectProxy fun cp => { cp with configSnapshotUpstreams :=
              { cp.configSnapshotUpstreams with watchedDiscoveryChains :=
                  cp.configSnapshotUpstreams.watchedDiscoveryChains.insert id cancelFn } }
            return none
        | kind => do
            cancel cancelFn
            return some ("unsupported kind " ++ kind.goString)

/-! ### What the chain reset leaves alone -/

section ChainReset

open HandlerM

variable {β : Type} {F : ConfigSnapshotUpstreams → β}

/-- `F` does not read the four target and gateway maps that a chain reset rewrites. -/
def IgnoresWatches (F : ConfigSnapshotUpstreams → β) : Prop :=
  ∀ us wu wue wg wge, F { us with
    watchedUpstreams := wu, watchedUpstreamEndpoints := wue
    watchedGateways := wg, watchedGatewayEndpoints := wge } = F us

/-- `F` does not read upstream `u`'s entry of the target-watch map, the one entry the target
loops write. -/
def IgnoresTargetsOf (u : String) (F : ConfigSnapshotUpstreams → β) : Prop :=
  ∀ us m, F { us with watchedUpstreams := us.watchedUpstreams.insert u m } = F us

/-- `F` does not read upstream `u`'s entry of the gateway-watch map, the one entry the gateway
loop writes. -/
def IgnoresGatewaysOf (u : String) (F : ConfigSnapshotUpstreams → β) : Prop :=
  ∀ us m, F { us with watchedGateways := us.watchedGateways.insert u m } = F us

theorem IgnoresWatches.targetsOf (hF : IgnoresWatches F) (u : String) : IgnoresTargetsOf u F :=
  fun us _ => hF us _ _ _ _

theorem IgnoresWatches.gatewaysOf (hF : IgnoresWatches F) (u : String) :
    IgnoresGatewaysOf u F :=
  fun us _ => hF us _ _ _ _

section Loops

variable {u : String}

theorem keeps_watchUpstreamTarget_of (hF : IgnoresTargetsOf u F) (s : HandlerState)
    (chainID : String) :
    Keeps (fun w => F w.snap.upstreamsOf) (watchUpstreamTarget s u chainID) := by
  refine (keeps_notifyWithCancel (F ·.upstreamsOf) _ _).bind fun (_, err) => ?_
  cases err with
  | some e => exact (keeps_cancel (F ·.upstreamsOf) _).bind fun _ => keeps_pure _ _
  | none => exact (keeps_modifyUpstreams fun us => hF us _).bind fun _ => keeps_pure _ _

theorem keeps_watchTargets_of (hF : IgnoresTargetsOf u F) (s : HandlerState)
    (targets : List DiscoveryTarget) :
    Keeps (fun w => F w.snap.upstreamsOf) (watchTargets s u targets) := by
  induction targets with
  | nil => exact keeps_pure _ ()
  | cons target rest ih =>
      refine (keeps_watchUpstreamTarget_of hF s target.id).bind fun err => ?_
      cases err with
      | some e => exact keeps_fail _ _
      | none => exact ih

theorem keeps_watchChainTarget_of (hF : IgnoresTargetsOf u F) (s : HandlerState)
    (chain : CompiledDiscoveryChain) :
    Keeps (fun w => F w.snap.upstreamsOf) (watchChainTarget s u chain) := by
  unfold watchChainTarget
  split
  · refine (keeps_watchUpstreamTarget_of hF s chain.id).bind fun err => ?_
    split
    · exact keeps_fail _ _
    · exact keeps_pure _ ()
  · exact keeps_pure _ ()

theorem keeps_watchGateways_of (hF : IgnoresGatewaysOf u F) (s : HandlerState)
    (dcs : List String) : Keeps (fun w => F w.snap.upstreamsOf) (watchGateways s u dcs) := by
  induction dcs with
  | nil => exact keeps_pure _ ()
  | cons dc rest ih =>
      refine (keeps_getSnap _).bind fun snap => ?_
      split
      · exact ih
      · refine (keeps_notifyWithCancel (F ·.upstreamsOf) _ _).bind fun (_, err) => ?_
        cases err with
        | some e => exact (keeps_cancel (F ·.upstreamsOf) _).bind fun _ => keeps_fail _ _
        | none => exact (keeps_modifyUpstreams fun us => hF us _).bind fun _ => ih

end Loops

theorem keeps_watchUpstreamTarget (hF : IgnoresWatches F) (s : HandlerState)
    (upstreamID chainID : String) :
    Keeps (fun w => F w.snap.upstreamsOf) (watchUpstreamTarget s upstreamID chainID) :=
  keeps_watchUpstreamTarget_of (hF.targetsOf upstreamID) s chainID

theorem keeps_watchTargets (hF : IgnoresWatches F) (s : HandlerState) (id : String)
    (targets : List DiscoveryTarget) :
    Keeps (fun w => F w.snap.upstreamsOf) (watchTargets s id targets) :=
  keeps_watchTargets_of (hF.targetsOf id) s targets

theorem keeps_watchGateways (hF : IgnoresWatches F) (s : HandlerState) (id : String)
    (dcs : List String) : Keeps (fun w => F w.snap.upstreamsOf) (watchGateways s id dcs) :=
  keeps_watchGateways_of (hF.gatewaysOf id) s dcs

theorem keeps_stopTargets (hF : IgnoresWatches F) (id : String) :
    Keeps (fun w => F w.snap.upstreamsOf) (stopTargets id) :=
  (keeps_getSnap _).bind fun _ => (keeps_modifyUpstreams fun us => hF us _ _ _ _).bind fun _ =>
    keeps_cancelAll (F ·.upstreamsOf) _

theorem keeps_watchChainTarget (hF : IgnoresWatches F) (s : HandlerState) (id : String)
    (chain : CompiledDiscoveryChain) :
    Keeps (fun w => F w.snap.upstreamsOf) (watchChainTarget s id chain) :=
  keeps_watchChainTarget_of (hF.targetsOf id) s chain

theorem keeps_stopGateways (hF : IgnoresWatches F) (id : String) (need : GoMap String Unit) :
    Keeps (fun w => F w.snap.upstreamsOf) (stopGateways id need) :=
  (keeps_getSnap _).bind fun _ => (keeps_modifyUpstreams fun us => hF us _ _ _ _).bind fun _ =>
    keeps_cancelAll (F ·.upstreamsOf) _

/-- A chain reset rewrites only the target and gateway maps (and the subscriptions). -/
theorem keeps_resetWatchesFromChain (hF : IgnoresWatches F) (s : HandlerState) (id : String)
    (chain : Option CompiledDiscoveryChain) :
    Keeps (fun w => F w.snap.upstreamsOf) (resetWatchesFromChain s id chain) := by
  cases chain with
  | none => exact keeps_fail _ _
  | some chain =>
      exact (keeps_modifyUpstreams fun us => hF us _ _ _ _).bind fun _ =>
        (keeps_stopTargets hF id).bind fun _ => (keeps_watchTargets hF s id _).bind fun _ =>
        (keeps_watchChainTarget hF s id chain).bind fun _ =>
        (keeps_watchGateways hF s id _).bind fun _ => keeps_stopGateways hF id _

end ChainReset

/-- The passthrough loop writes only the passthrough map. -/
theorem keeps_recordPassthroughs {F : ConfigSnapshotUpstreams → β}
    (hF : ∀ us p, F { us with passthroughUpstreams := p } = F us) (nodes : List CheckServiceNode) :
    HandlerM.Keeps (fun w => F w.snap.upstreamsOf) (recordPassthroughs nodes) := by
  induction nodes with
  | nil => exact HandlerM.keeps_pure _ ()
  | cons node rest ih =>
      refine HandlerM.Keeps.bind ?_ fun _ => ih
      refine (keeps_getSnap _).bind fun snap => ?_
      split
      · split
        · exact HandlerM.keeps_crash _ _
        · split
          · exact HandlerM.keeps_crash _ _
          · exact keeps_modifyUpstreams fun us => hF us _
      · exact HandlerM.keeps_pure _ ()

/-! ### Subscriptions and Go errors -/

section Errors

open HandlerM

theorem keepsSubs_handleRoots (r : Result) : Keeps ProxyState.subs (handleRoots r) := by
  cases r <;> exact fun _ => rfl

theorem clean_handleRoots (r : Result) : Clean (handleRoots r) := by
  intro w msg w' h
  cases r <;> cases h <;> rfl

theorem keepsSubs_recordPassthroughs (nodes : List CheckServiceNode) :
    Keeps ProxyState.subs (recordPassthroughs nodes) := by
  induction nodes with
  | nil => exact keeps_pure _ ()
  | cons node rest ih =>
      refine Keeps.bind ?_ fun _ => ih
      refine (keeps_getSnap _).bind fun snap => ?_
      split
      · split
        · exact keeps_crash _ _
        · split
          · exact keeps_crash _ _
          · exact keepsSubs_modifySnap _
      · exact keeps_pure _ ()

/-- The passthrough loop may fault, but returns no Go error. -/
theorem noError_recordPassthroughs (nodes : List CheckServiceNode) :
    NoError (recordPassthroughs nodes) := by
  induction nodes with
  | nil => exact (total_pure ()).noError
  | cons node rest ih =>
      refine NoError.bind ?_ fun _ => ih
      refine total_getSnap.noError.bind fun snap => ?_
      split
      · split
        · exact noError_crash _
        · split
          · exact noError_crash _
          · exact (total_modifySnap _).noError
      · exact (total_pure ()).noError

theorem keepsSubs_handleLeaf (r : Result) : Keeps ProxyState.subs (handleLeaf r) := by
  cases r <;> exact fun _ => rfl

theorem clean_handleLeaf (r : Result) : Clean (handleLeaf r) := by
  intro w msg w' h
  cases r <;> cases h <;> rfl

theorem keepsSubs_handleUpstreamTarget (correlationID : String) (r : Result) :
    Keeps ProxyState.subs (handleUpstreamTarget correlationID r) := by
  unfold handleUpstreamTarget
  split
  · split
    · exact (keepsSubs_modifySnap _).bind fun _ => keepsSubs_recordPassthroughs _
    · exact keeps_fail _ _
  · exact keeps_fail _ _

theorem clean_handleUpstreamTarget (correlationID : String) (r : Result) :
    Clean (handleUpstreamTarget correlationID r) := by
  unfold handleUpstreamTarget
  split
  · split
    · exact ((total_modifySnap _).noError.bind fun _ => noError_recordPassthroughs _).clean
    · exact clean_fail _
  · exact clean_fail _

theorem keepsSubs_handleMeshGateway (correlationID : String) (r : Result) :
    Keeps ProxyState.subs (handleMeshGateway correlationID r) := by
  unfold handleMeshGateway
  split
  · split
    · exact keepsSubs_modifySnap _
    · exact keeps_fail _ _
  · exact keeps_fail _ _

theorem clean_handleMeshGateway (correlationID : String) (r : Result) :
    Clean (handleMeshGateway correlationID r) := by
  unfold handleMeshGateway
  split
  · split
    · exact (total_modifySnap _).noError.clean
    · exact clean_fail _
  · exact clean_fail _

variable {s : HandlerState}

theorem watchUpstreamTarget_ensures (hs : s.health.Accepts) (upstreamID chainID : String) :
    Ensures (watchUpstreamTarget s upstreamID chainID) (· = none) := by
  refine (notifyWithCancel_ensures hs _).bind fun ⟨_, _⟩ herr => ?_
  subst herr
  exact (total_modifySnap _).ensures.bind fun _ _ => ensures_pure none

theorem noError_watchTargets (hs : s.health.Accepts) (id : String)
    (targets : List DiscoveryTarget) : NoError (watchTargets s id targets) := by
  induction targets with
  | nil => exact (total_pure ()).noError
  | cons target rest ih =>
      exact (watchUpstreamTarget_ensures hs id target.id).noError_bind fun _ herr => by
        subst herr; exact ih

theorem noError_watchChainTarget (hs : s.health.Accepts) (id : String)
    (chain : CompiledDiscoveryChain) : NoError (watchChainTarget s id chain) := by
  unfold watchChainTarget
  split
  · exact (watchUpstreamTarget_ensures hs id chain.id).noError_bind fun _ herr => by
      subst herr; exact (total_pure ()).noError
  · exact (total_pure ()).noError

theorem noError_watchGateways (hc : s.cache.Accepts) (id : String) (dcs : List String) :
    NoError (watchGateways s id dcs) := by
  induction dcs with
  | nil => exact (total_pure ()).noError
  | cons dc rest ih =>
      refine total_getSnap.noError.bind fun snap => ?_
      split
      · exact ih
      · refine (notifyWithCancel_ensures hc _).noError_bind fun ⟨_, _⟩ herr => ?_
        subst herr
        exact (total_modifySnap _).noError.bind fun _ => ih

theorem total_stopTargets (id : String) : Total (stopTargets id) :=
  total_getSnap.bind fun _ => (total_modifySnap _).bind fun _ => total_cancelAll _

theorem total_stopGateways (id : String) (need : GoMap String Unit) :
    Total (stopGateways id need) :=
  total_getSnap.bind fun _ => (total_modifySnap _).bind fun _ => total_cancelAll _

/-- With accepting collaborators, a chain reset returns no Go error. -/
theorem noError_resetWatchesFromChain (hs : s.Accepts) (id : String)
    (chain : CompiledDiscoveryChain) : NoError (resetWatchesFromChain s id (some chain)) :=
  (total_modifySnap _).noError.bind fun _ => (total_stopTargets id).noError.bind fun _ =>
    (noError_watchTargets hs.2 id _).bind fun _ => (noError_watchChainTarget hs.2 id chain).bind
      fun _ => (noError_watchGateways hs.1 id _).bind fun _ => (total_stopGateways id _).noError

/-- A chain delivery with a chain: with accepting collaborators, it returns no Go error. -/
theorem clean_handleDiscoveryChain (hs : s.Accepts) (svc : String) (r : Result)
    (hr : r ≠ .discoveryChainResponse none) : Clean (handleDiscoveryChain s svc r) := by
  cases r with
  | discoveryChainResponse chain =>
      cases chain with
      | none => exact absurd rfl hr
      | some chain =>
          exact ((total_modifySnap _).noError.bind fun _ =>
            noError_resetWatchesFromChain hs svc chain).clean
  | _ => exact clean_fail _

/-- On a connect proxy or an ingress gateway with an accepting cache, `watchDiscoveryChain`
reports no error. -/
theorem watchDiscoveryChain_ensures (hc : s.cache.Accepts)
    (hk : s.kind = .connectProxy ∨ s.kind = .ingressGateway) (id : String) :
    Ensures (watchDiscoveryChain s id) (· = none) := by
  refine total_getSnap.ensures.bind fun _ _ => ?_
  split
  · exact ensures_pure none
  · refine (notifyWithCancel_ensures hc _).bind fun ⟨_, _⟩ herr => ?_
    subst herr
    rcases hk with hk | hk <;> simp only [hk] <;>
      exact (total_modifySnap _).ensures.bind fun _ _ => ensures_pure none

/-- The deliveries `handleUpdateUpstreams` takes open or cancel subscriptions only on chain
ids. -/
theorem keepsSubs_handleUpdateUpstreams (u : UpdateEvent)
    (h : hasPrefix u.correlationID "discovery-chain:" = false) :
    Keeps ProxyState.subs (handleUpdateUpstreams s u) := by
  unfold handleUpdateUpstreams
  split
  · exact keeps_fail _ _
  · exact Keeps.ite (fun _ => keepsSubs_handleLeaf _) fun _ =>
      Keeps.ite (fun hc => absurd hc (Bool.eq_false_iff.1 h)) fun _ =>
      Keeps.ite (fun _ => keepsSubs_handleUpstreamTarget _ _) fun _ =>
      Keeps.ite (fun _ => keepsSubs_handleMeshGateway _ _) fun _ => keeps_fail _ _

/-- With accepting collaborators, a Go error from `handleUpdateUpstreams` changes nothing,
unless it is a chain delivery with a nil chain. -/
theorem clean_handleUpdateUpstreams (hs : s.Accepts) (u : UpdateEvent)
    (hnil : ¬ (hasPrefix u.correlationID "discovery-chain:" = true ∧
      u.result = .discoveryChainResponse none)) :
    Clean (handleUpdateUpstreams s u) := by
  unfold handleUpdateUpstreams
  split
  · exact clean_fail _
  · exact Clean.ite (fun _ => clean_handleLeaf _) fun _ =>
      Clean.ite (fun hc => clean_handleDiscoveryChain hs _ _ fun h => hnil ⟨hc, h⟩) fun _ =>
      Clean.ite (fun _ => clean_handleUpstreamTarget _ _) fun _ =>
      Clean.ite (fun _ => clean_handleMeshGateway _ _) fun _ => clean_fail _

end Errors

end handlerUpstreams

end ConsulAgent
