/-
`handlerTerminatingGateway`: a gateway that terminates mesh traffic for the services linked to
it, with five watches per linked service.
-/
import ConsulAgent.Upstreams

namespace ConsulAgent

/-- `externalServiceIDPrefix`. -/
def externalServiceIDPrefix : String := "external-service:"

/-- `serviceLeafIDPrefix`. -/
def serviceLeafIDPrefix : String := "service-leaf:"

/-- `serviceConfigIDPrefix`. -/
def serviceConfigIDPrefix : String := "service-config:"

/-- `serviceResolverIDPrefix`. -/
def serviceResolverIDPrefix : String := "service-resolver:"

/-- `serviceIntentionsIDPrefix`. -/
def serviceIntentionsIDPrefix : String := "service-intentions:"

/-- `hostnameEndpoints`: the instances whose best address (the WAN one for another datacenter)
is not an IP address.  The warning logged for a mix of both is not modelled. -/
def hostnameEndpoints (parseIP : String → Bool) (localDC : String)
    (nodes : List CheckServiceNode) : List CheckServiceNode :=
  nodes.filter fun n => !parseIP (n.bestAddress (localDC ≠ n.node.datacenter))

/-- The five watches a terminating gateway keeps for each linked service. -/
inductive ServiceWatch
  | externalService
  | intentions
  | leaf
  | config
  | resolver
deriving DecidableEq, Repr

namespace ServiceWatch

/-- The correlation-id prefix of the watch. -/
def idPrefix : ServiceWatch → String
  | .externalService => externalServiceIDPrefix
  | .intentions => serviceIntentionsIDPrefix
  | .leaf => serviceLeafIDPrefix
  | .config => serviceConfigIDPrefix
  | .resolver => serviceResolverIDPrefix

/-- The collaborator the watch is opened on: instances come from `health`. -/
def notifier (s : HandlerState) : ServiceWatch → CacheNotifier
  | .externalService => s.health
  | _ => s.cache

/-- The map of cancel functions of the watch. -/
def watched : ServiceWatch → ConfigSnapshotTerminatingGateway → GoMap ServiceName CancelFunc
  | .externalService, tg => tg.watchedServices
  | .intentions, tg => tg.watchedIntentions
  | .leaf, tg => tg.watchedLeaves
  | .config, tg => tg.watchedConfigs
  | .resolver, tg => tg.watchedResolvers

/-- The same map, replaced. -/
def setWatched : ServiceWatch → GoMap ServiceName CancelFunc →
    ConfigSnapshotTerminatingGateway → ConfigSnapshotTerminatingGateway
  | .externalService, m, tg => { tg with watchedServices := m }
  | .intentions, m, tg => { tg with watchedIntentions := m }
  | .leaf, m, tg => { tg with watchedLeaves := m }
  | .config, m, tg => { tg with watchedConfigs := m }
  | .resolver, m, tg => { tg with watchedResolvers := m }

/-- The mirrored data that goes with a cancelled watch, kept where `keep` holds. -/
def purge : ServiceWatch → (ServiceName → Bool) →
    ConfigSnapshotTerminatingGateway → ConfigSnapshotTerminatingGateway
  | .externalService, keep, tg => { tg with serviceGroups := tg.serviceGroups.retain keep }
  | .intentions, keep, tg => { tg with intentions := tg.intentions.retain keep }
  | .leaf, keep, tg => { tg with serviceLeaves := tg.serviceLeaves.retain keep }
  | .config, keep, tg => { tg with serviceConfigs := tg.serviceConfigs.retain keep }
  | .resolver, keep, tg =>
      { tg with
        serviceResolvers := tg.serviceResolvers.retain keep
        serviceResolversSet := tg.serviceResolversSet.retain keep }

end ServiceWatch

namespace handlerTerminatingGateway

/-- One watch of one linked service: opened unless its map has the service already. -/
def watchService (s : HandlerState) (w : ServiceWatch) (svc : ServiceName) : HandlerM Unit := do
  if svc ∉ w.watched (← getSnap).terminatingGateway then
    let (cancelFn, err) ← notifyWithCancel (w.notifier s) (w.idPrefix ++ svc.toString)
    match err with
    | some e => do
        cancel cancelFn
        fail e
    | none =>
        modifyTerminatingGateway fun tg => w.setWatched ((w.watched tg).insert svc cancelFn) tg

/-- One linked service of a `gateway-services` delivery: its mapping, then its five watches. -/
def watchLinkedService (s : HandlerState) (gs : GatewayService) : HandlerM Unit := do
  modifyTerminatingGateway fun tg =>
    { tg with gatewayServices := tg.gatewayServices.insert gs.service gs }
  watchService s .externalService gs.service
  watchService s .intentions gs.service
  watchService s .leaf gs.service
  watchService s .config gs.service
  watchService s .resolver gs.service

/-- The service loop of a `gateway-services` delivery. -/
def watchLinkedServices (s : HandlerState) : List GatewayService → HandlerM Unit
  | [] => pure ()
  | gs :: rest => do
      watchLinkedService s gs
      watchLinkedServices s rest

/-- A cleanup loop: cancel the watches of the services not listed, with their mirrored data. -/
def cancelUnlisted (w : ServiceWatch) (listed : ServiceName → Bool) : HandlerM Unit := do
  let watched := w.watched (← getSnap).terminatingGateway
  modifyTerminatingGateway fun tg =>
    w.purge (fun sn => listed sn || sn ∉ watched) (w.setWatched ((w.watched tg).retain listed) tg)
  cancelAll (watched.dropped listed)

/-- Cleanup loops one after another. -/
def cancelUnlistedAll (listed : ServiceName → Bool) : List ServiceWatch → HandlerM Unit
  | [] => pure ()
  | w :: ws => do
      cancelUnlisted w listed
      cancelUnlistedAll listed ws

/-- The five cleanup loops, in the order the source runs them. -/
def cleanupOrder : List ServiceWatch :=
  [.externalService, .leaf, .config, .resolver, .intentions]

/-- The `gateway-services` case: watch every listed service, then drop the mappings of the
others and cancel their watches. -/
def handleGatewayServices (s : HandlerState) : Result → HandlerM Unit
  | .indexedGatewayServices services => do
      watchLinkedServices s services
      let listed : ServiceName → Bool := fun sn => sn ∈ services.map (·.service)
      modifyTerminatingGateway fun tg =>
        { tg with
          gatewayServices := tg.gatewayServices.retain listed
          hostnameServices := tg.hostnameServices.retain listed }
      cancelUnlistedAll listed cleanupOrder
  | r => fail (invalidTypeForResponse r)

/-- The external-service case: the instances replace the service's group, and its hostname
endpoints follow; an empty list leaves neither. -/
def handleExternalService (s : HandlerState) (correlationID : String) : Result → HandlerM Unit
  | .indexedCheckServiceNodes nodes => do
      let sn := serviceNameFromString (trimPrefix correlationID externalServiceIDPrefix)
      let dc := (← getSnap).datacenter
      modifyTerminatingGateway fun tg =>
        { tg with
          serviceGroups := tg.serviceGroups.erase sn
          hostnameServices := tg.hostnameServices.erase sn }
      if !nodes.isEmpty then
        modifyTerminatingGateway fun tg =>
          { tg with
            serviceGroups := tg.serviceGroups.insert sn nodes
            hostnameServices := tg.hostnameServices.insert sn (hostnameEndpoints s.parseIP dc nodes) }
  | r => fail (invalidTypeForResponse r)

/-- The service-leaf case. -/
def handleServiceLeaf (correlationID : String) : Result → HandlerM Unit
  | .issuedCert leaf =>
      let sn := serviceNameFromString (trimPrefix correlationID serviceLeafIDPrefix)
      modifyTerminatingGateway fun tg => { tg with serviceLeaves := tg.serviceLeaves.insert sn leaf }
  | r => fail (invalidTypeForResponse r)

/-- The service-config case. -/
def handleServiceConfig (correlationID : String) : Result → HandlerM Unit
  | .serviceConfigResponse cfg =>
      let sn := serviceNameFromString (trimPrefix correlationID serviceConfigIDPrefix)
      modifyTerminatingGateway fun tg => { tg with serviceConfigs := tg.serviceConfigs.insert sn cfg }
  | r => fail (invalidTypeForResponse r)

/-- The service-resolver case: a single resolver entry is stored, and the service's `-Set` flag
is raised whatever the delivery holds. -/
def handleServiceResolver (correlationID : String) : Result → HandlerM Unit
  | .indexedConfigEntries entries =>
      let sn := serviceNameFromString (trimPrefix correlationID serviceResolverIDPrefix)
      modifyTerminatingGateway fun tg =>
        { tg with
          serviceResolvers := (match entries with
            | [.serviceResolver resolver] => tg.serviceResolvers.insert sn resolver
            | _ => tg.serviceResolvers)
          serviceResolversSet := tg.serviceResolversSet.insert sn true }
  | r => fail (invalidTypeForResponse r)

/-- The service-intentions case: the first match list, when there is one. -/
def handleServiceIntentions (correlationID : String) : Result → HandlerM Unit
  | .indexedIntentionMatches matchSets =>
      let sn := serviceNameFromString (trimPrefix correlationID serviceIntentionsIDPrefix)
      match matchSets with
      | first :: _ =>
          modifyTerminatingGateway fun tg => { tg with intentions := tg.intentions.insert sn first }
      | [] => pure ()
  | r => fail (invalidTypeForResponse r)

/-- `handlerTerminatingGateway.handleUpdate`; other correlation ids are ignored. -/
def handleUpdate (s : HandlerState) (u : UpdateEvent) : HandlerM Unit :=
  match u.err with
  | some e => fail ("error filling agent cache: " ++ e)
  | none =>
      if u.correlationID = rootsWatchID then handleRoots u.result
      else if u.correlationID = gatewayServicesWatchID then handleGatewayServices s u.result
      else if hasPrefix u.correlationID externalServiceIDPrefix then
        handleExternalService s u.correlationID u.result
      else if hasPrefix u.correlationID serviceLeafIDPrefix then
        handleServiceLeaf u.correlationID u.result
      else if hasPrefix u.correlationID serviceConfigIDPrefix then
        handleServiceConfig u.correlationID u.result
      else if hasPrefix u.correlationID serviceResolverIDPrefix then
        handleServiceResolver u.correlationID u.result
      else if hasPrefix u.correlationID serviceIntentionsIDPrefix then
        handleServiceIntentions u.correlationID u.result
      else pure ()

/-! ### Bookkeeping and Go errors -/

/-- The parts of a proxy's state that a terminating gateway's subscription bookkeeping lives in:
the subscriptions, the other kinds' parts of the snapshot, and the five watch maps. -/
def tgwBooks (w : ProxyState) :=
  (w.subs, w.snap.connectProxy, w.snap.meshGateway, w.snap.ingressGateway,
    w.snap.terminatingGateway.watchedServices, w.snap.terminatingGateway.watchedIntentions,
    w.snap.terminatingGateway.watchedLeaves, w.snap.terminatingGateway.watchedConfigs,
    w.snap.terminatingGateway.watchedResolvers)

section Errors

open HandlerM

theorem keepsBooks_handleRoots (r : Result) : Keeps tgwBooks (handleRoots r) := by
  cases r <;> exact fun _ => rfl

theorem keepsBooks_handleExternalService (s : HandlerState) (correlationID : String) (r : Result) :
    Keeps tgwBooks (handleExternalService s correlationID r) := by
  unfold handleExternalService
  split
  · dsimp only
    refine (keeps_getSnap _).bind fun _ => Keeps.bind (fun _ => rfl) fun _ => ?_
    split <;> exact fun _ => rfl
  · exact fun _ => rfl

theorem clean_handleExternalService (s : HandlerState) (correlationID : String) (r : Result) :
    Clean (handleExternalService s correlationID r) := by
  unfold handleExternalService
  split
  · dsimp only
    refine (total_getSnap.bind fun _ => (total_modifyTerminatingGateway _).bind fun _ =>
      ?_).noError.clean
    split
    · exact total_modifyTerminatingGateway _
    · exact total_pure ()
  · exact clean_fail _

theorem keepsBooks_handleServiceLeaf (correlationID : String) (r : Result) :
    Keeps tgwBooks (handleServiceLeaf correlationID r) := by
  cases r <;> exact fun _ => rfl

theorem clean_handleServiceLeaf (correlationID : String) (r : Result) :
    Clean (handleServiceLeaf correlationID r) := by
  intro w msg w' h
  cases r <;> cases h <;> rfl

theorem keepsBooks_handleServiceConfig (correlationID : String) (r : Result) :
    Keeps tgwBooks (handleServiceConfig correlationID r) := by
  cases r <;> exact fun _ => rfl

theorem clean_handleServiceConfig (correlationID : String) (r : Result) :
    Clean (handleServiceConfig correlationID r) := by
  intro w msg w' h
  cases r <;> cases h <;> rfl

theorem keepsBooks_handleServiceResolver (correlationID : String) (r : Result) :
    Keeps tgwBooks (handleServiceResolver correlationID r) := by
  cases r <;> exact fun _ => rfl

theorem clean_handleServiceResolver (correlationID : String) (r : Result) :
    Clean (handleServiceResolver correlationID r) := by
  intro w msg w' h
  cases r <;> cases h <;> rfl

theorem keepsBooks_handleServiceIntentions (correlationID : String) (r : Result) :
    Keeps tgwBooks (handleServiceIntentions correlationID r) := by
  unfold handleServiceIntentions
  split
  · dsimp only
    split <;> exact fun _ => rfl
  · exact fun _ => rfl

theorem clean_handleServiceIntentions (correlationID : String) (r : Result) :
    Clean (handleServiceIntentions correlationID r) := by
  unfold handleServiceIntentions
  split
  · dsimp only
    split
    · exact (total_modifyTerminatingGateway _).noError.clean
    · exact (total_pure ()).noError.clean
  · exact clean_fail _

variable {s : HandlerState}

theorem ServiceWatch.notifier_accepts (hs : s.Accepts) (w : ServiceWatch) :
    (w.notifier s).Accepts := by
  cases w
  exacts [hs.2, hs.1, hs.1, hs.1, hs.1]

theorem noError_watchService (hs : s.Accepts) (w : ServiceWatch) (svc : ServiceName) :
    NoError (watchService s w svc) := by
  refine total_getSnap.noError.bind fun _ => ?_
  split
  · refine (notifyWithCancel_ensures (ServiceWatch.notifier_accepts hs w) _).noError_bind
      fun ⟨_, _⟩ herr => ?_
    subst herr
    exact (total_modifyTerminatingGateway _).noError
  · exact (total_pure ()).noError

theorem noError_watchLinkedServices (hs : s.Accepts) (services : List GatewayService) :
    NoError (watchLinkedServices s services) := by
  induction services with
  | nil => exact (total_pure ()).noError
  | cons gs rest ih =>
      refine NoError.bind ?_ fun _ => ih
      exact (total_modifyTerminatingGateway _).noError.bind fun _ =>
        (noError_watchService hs _ _).bind fun _ => (noError_watchService hs _ _).bind fun _ =>
        (noError_watchService hs _ _).bind fun _ => (noError_watchService hs _ _).bind fun _ =>
        noError_watchService hs _ _

theorem total_cancelUnlisted (w : ServiceWatch) (listed : ServiceName → Bool) :
    Total (cancelUnlisted w listed) :=
  total_getSnap.bind fun _ => (total_modifyTerminatingGateway _).bind fun _ => total_cancelAll _

theorem total_cancelUnlistedAll (listed : ServiceName → Bool) (ws : List ServiceWatch) :
    Total (cancelUnlistedAll listed ws) := by
  induction ws with
  | nil => exact total_pure ()
  | cons w ws ih => exact (total_cancelUnlisted w listed).bind fun _ => ih

/-- Two runs of cleanup loops make one run of both lists. -/
theorem cancelUnlistedAll_append {listed : ServiceName → Bool} {ws₁ ws₂ : List ServiceWatch}
    {w w₁ w₂ : ProxyState} (h₁ : cancelUnlistedAll listed ws₁ w = .ok () w₁)
    (h₂ : cancelUnlistedAll listed ws₂ w₁ = .ok () w₂) :
    cancelUnlistedAll listed (ws₁ ++ ws₂) w = .ok () w₂ := by
  induction ws₁ generalizing w with
  | nil => cases h₁; exact h₂
  | cons v ws ih =>
      obtain ⟨⟨⟩, w', hv, hrest⟩ : ∃ a w', cancelUnlisted v listed w = .ok a w' ∧
          cancelUnlistedAll listed ws w' = .ok () w₁ := by
        obtain ⟨a, w', hv⟩ := total_cancelUnlisted v listed w
        exact ⟨a, w', hv, by rwa [cancelUnlistedAll, bind_ok hv] at h₁⟩
      rw [List.cons_append, cancelUnlistedAll, bind_ok hv]
      exact ih hrest

theorem clean_handleGatewayServices (hs : s.Accepts) (r : Result) :
    Clean (handleGatewayServices s r) := by
  cases r with
  | indexedGatewayServices services =>
      exact NoError.clean ((noError_watchLinkedServices hs services).bind fun _ =>
        ((total_modifyTerminatingGateway _).bind fun _ => total_cancelUnlistedAll _ _).noError)
  | _ => exact clean_fail _

/-- Every delivery but a gateway-services one leaves the bookkeeping alone. -/
theorem keepsBooks_handleUpdate (u : UpdateEvent) (h : u.correlationID ≠ gatewayServicesWatchID) :
    Keeps tgwBooks (handleUpdate s u) := by
  unfold handleUpdate
  split
  · exact keeps_fail _ _
  · exact Keeps.ite (fun _ => keepsBooks_handleRoots _) fun _ =>
      Keeps.ite (fun hc => absurd hc h) fun _ =>
      Keeps.ite (fun _ => keepsBooks_handleExternalService _ _ _) fun _ =>
      Keeps.ite (fun _ => keepsBooks_handleServiceLeaf _ _) fun _ =>
      Keeps.ite (fun _ => keepsBooks_handleServiceConfig _ _) fun _ =>
      Keeps.ite (fun _ => keepsBooks_handleServiceResolver _ _) fun _ =>
      Keeps.ite (fun _ => keepsBooks_handleServiceIntentions _ _) fun _ => keeps_pure _ ()

/-- Only gateway-services deliveries open or cancel subscriptions. -/
theorem keepsSubs_handleUpdate (u : UpdateEvent) (h : u.correlationID ≠ gatewayServicesWatchID) :
    Keeps ProxyState.subs (handleUpdate s u) :=
  (keepsBooks_handleUpdate u h).comp Prod.fst

/-- With accepting collaborators, a Go error from the terminating gateway's handler changes
nothing. -/
theorem clean_handleUpdate (hs : s.Accepts) (u : UpdateEvent) : Clean (handleUpdate s u) := by
  unfold handleUpdate
  split
  · exact clean_fail _
  · exact Clean.ite (fun _ => handlerUpstreams.clean_handleRoots _) fun _ =>
      Clean.ite (fun _ => clean_handleGatewayServices hs _) fun _ =>
      Clean.ite (fun _ => clean_handleExternalService _ _ _) fun _ =>
      Clean.ite (fun _ => clean_handleServiceLeaf _ _) fun _ =>
      Clean.ite (fun _ => clean_handleServiceConfig _ _) fun _ =>
      Clean.ite (fun _ => clean_handleServiceResolver _ _) fun _ =>
      Clean.ite (fun _ => clean_handleServiceIntentions _ _) fun _ => (total_pure ()).noError.clean

end Errors

/-- `handlerTerminatingGateway.initialize`: watch roots and the linked services; the maps it
makes are the snapshot's empty ones. -/
def initWatches (s : HandlerState) : HandlerM Unit := do
  watchRootOrFail s.cache rootsWatchID
  watchRootOrFail s.cache gatewayServicesWatchID

end handlerTerminatingGateway

end ConsulAgent
