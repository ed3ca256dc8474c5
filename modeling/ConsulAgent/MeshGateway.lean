/-
`handlerMeshGateway`: a gateway bridging mesh traffic between datacenters.  The service list
and the datacenter list reshape the `connect-service:` and `mesh-gateway:` watches; their
deliveries fill the service and gateway groups.
-/
import ConsulAgent.TerminatingGateway

namespace ConsulAgent

/-- `serviceListWatchID`. -/
def serviceListWatchID : String := "service-list"

/-- `federationStateListGatewaysWatchID`. -/
def federationStateListGatewaysWatchID : String := "federation-state-list-mesh-gateways"

/-- `consulServerListWatchID`. -/
def consulServerListWatchID : String := "consul-server-list"

/-- `datacentersWatchID`. -/
def datacentersWatchID : String := "datacenters"

/-- `serviceResolversWatchID`. -/
def serviceResolversWatchID : String := "service-resolvers"

namespace handlerMeshGateway

/-- The federation-state case: the gateways of every datacenter, and their hostname endpoints
for exactly the delivered datacenters. -/
def handleFedStateGateways (s : HandlerState) : Result → HandlerM Unit
  | .datacenterIndexedCheckServiceNodes dcNodes => do
      let localDC := (← getSnap).datacenter
      modifyMeshGateway fun mg =>
        { mg with
          fedStateGateways := dcNodes
          hostnameDatacenters := (dcNodes.entries.foldl
            (fun m e => m.insert e.1 (hostnameEndpoints s.parseIP localDC e.2))
            mg.hostnameDatacenters).retain (· ∈ dcNodes) }
  | r => fail (invalidTypeForResponse r)

/-- One listed service: its `connect-service:` watch, unless it has one. -/
def watchConnectService (s : HandlerState) (svc : ServiceName) : HandlerM Unit := do
  if svc ∉ (← getSnap).meshGateway.watchedServices then
    let (cancelFn, err) ← notifyWithCancel s.health ("connect-service:" ++ svc.toString)
    match err with
    | some e => do
        cancel cancelFn
        fail e
    | none =>
        modifyMeshGateway fun mg =>
          { mg with watchedServices := mg.watchedServices.insert svc cancelFn }

/-- The service loop of a service-list delivery. -/
def watchConnectServices (s : HandlerState) : List ServiceName → HandlerM Unit
  | [] => pure ()
  | svc :: rest => do
      watchConnectService s svc
      watchConnectServices s rest

/-- The cleanup loop of a service-list delivery: the watches of the services not listed are
deleted and cancelled. -/
def cancelUnlistedServices (listed : ServiceName → Bool) : HandlerM Unit := do
  let watched := (← getSnap).meshGateway.watchedServices
  modifyMeshGateway fun mg => { mg with watchedServices := mg.watchedServices.retain listed }
  cancelAll (watched.dropped listed)

/-- The service-list case: watch the listed services, cancel the others (their service groups
stay), and raise the `-Set` flag. -/
def handleServiceList (s : HandlerState) : Result → HandlerM Unit
  | .indexedServiceList services => do
      watchConnectServices s services
      cancelUnlistedServices fun sn => sn ∈ services
      modifyMeshGateway fun mg => { mg with watchedServicesSet := true }
  | r => fail (invalidTypeForResponse r)

/-- One listed datacenter: its `mesh-gateway:` watch, unless it is the source datacenter or has
one. -/
def watchDatacenter (s : HandlerState) (dc : String) : HandlerM Unit := do
  if dc ≠ s.sourceDatacenter ∧ dc ∉ (← getSnap).meshGateway.watchedDatacenters then
    let (cancelFn, err) ← notifyWithCancel s.cache ("mesh-gateway:" ++ dc)
    match err with
    | some e => do
        cancel cancelFn
        fail e
    | none =>
        modifyMeshGateway fun mg =>
          { mg with watchedDatacenters := mg.watchedDatacenters.insert dc cancelFn }

/-- The datacenter loop of a datacenters delivery. -/
def watchDatacenters (s : HandlerState) : List String → HandlerM Unit
  | [] => pure ()
  | dc :: rest => do
      watchDatacenter s dc
      watchDatacenters s rest

/-- The cleanup loop of a datacenters delivery: the watches of the datacenters not listed are
deleted and cancelled. -/
def cancelUnlistedDatacenters (listed : String → Bool) : HandlerM Unit := do
  let watched := (← getSnap).meshGateway.watchedDatacenters
  modifyMeshGateway fun mg =>
    { mg with watchedDatacenters := mg.watchedDatacenters.retain listed }
  cancelAll (watched.dropped listed)

/-- The datacenters case: a nil list is refused; otherwise watch the listed datacenters and
cancel the watches of the others. -/
def handleDatacenters (s : HandlerState) : Result → HandlerM Unit
  | .datacenters none => fail "invalid response with a nil datacenter list"
  | .datacenters (some datacenters) => do
      watchDatacenters s datacenters
      cancelUnlistedDatacenters fun dc => dc ∈ datacenters
  | r => fail (invalidTypeForResponse r)

/-- The resolvers of a service-resolvers delivery, keyed by name; a later entry of one name
replaces an earlier one. -/
def resolversOf (entries : List ConfigEntry) : GoMap ServiceName ServiceResolverConfigEntry :=
  entries.foldl (fun m entry =>
    match entry with
    | .serviceResolver resolver => m.insert ⟨resolver.name⟩ resolver
    | _ => m) ∅

/-- The service-resolvers case: the map is rebuilt from the delivery. -/
def handleServiceResolvers : Result → HandlerM Unit
  | .indexedConfigEntries entries =>
      modifyMeshGateway fun mg => { mg with serviceResolvers := resolversOf entries }
  | r => fail (invalidTypeForResponse r)

/-- The first sanity-check failure of a consul-server-list delivery. -/
def serverListMismatch (datacenter : String) : List CheckServiceNode → Option String
  | [] => none
  | csn :: rest =>
      if csn.service.service ≠ consulServiceName then
        some ("expected service name " ++ goQuote consulServiceName ++ " but got " ++
          goQuote csn.service.service)
      else if csn.node.datacenter ≠ datacenter then
        some ("expected datacenter " ++ goQuote datacenter ++ " but got " ++
          goQuote csn.node.datacenter)
      else serverListMismatch datacenter rest

/-- The consul-server-list case: the servers, once every instance passed the checks. -/
def handleConsulServerList : Result → HandlerM Unit
  | .indexedCheckServiceNodes nodes => do
      match serverListMismatch (← getSnap).datacenter nodes with
      | some msg => fail msg
      | none => modifyMeshGateway fun mg => { mg with consulServers := nodes }
  | r => fail (invalidTypeForResponse r)

/-- The connect-service case: a non-empty list replaces the group, an empty one deletes it. -/
def handleConnectService (correlationID : String) : Result → HandlerM Unit
  | .indexedCheckServiceNodes nodes =>
      let sn := serviceNameFromString (trimPrefix correlationID "connect-service:")
      modifyMeshGateway fun mg =>
        { mg with serviceGroups :=
            if nodes.isEmpty then mg.serviceGroups.erase sn else mg.serviceGroups.insert sn nodes }
  | r => fail (invalidTypeForResponse r)

/-- The mesh-gateway case: the datacenter's gateways and their hostname endpoints, or neither
for an empty list. -/
def handleMeshGateway (s : HandlerState) (correlationID : String) : Result → HandlerM Unit
  | .indexedNodesWithGateways nodes => do
      let dc := trimPrefix correlationID "mesh-gateway:"
      let localDC := (← getSnap).datacenter
      modifyMeshGateway fun mg =>
        { mg with
          gatewayGroups := mg.gatewayGroups.erase dc
          hostnameDatacenters := mg.hostnameDatacenters.erase dc }
      if !nodes.isEmpty then
        modifyMeshGateway fun mg =>
          { mg with
            gatewayGroups := mg.gatewayGroups.insert dc nodes
            hostnameDatacenters :=
              mg.hostnameDatacenters.insert dc (hostnameEndpoints s.parseIP localDC nodes) }
  | r => fail (invalidTypeForResponse r)

/-- `handlerMeshGateway.handleUpdate`; other correlation ids are ignored. -/
def handleUpdate (s : HandlerState) (u : UpdateEvent) : HandlerM Unit :=
  match u.err with
  | some e => fail ("error filling agent cache: " ++ e)
  | none =>
      if u.correlationID = rootsWatchID then handleRoots u.result
      else if u.correlationID = federationStateListGatewaysWatchID then
        handleFedStateGateways s u.result
      else if u.correlationID = serviceListWatchID then handleServiceList s u.result
      else if u.correlationID = datacentersWatchID then handleDatacenters s u.result
      else if u.correlationID = serviceResolversWatchID then handleServiceResolvers u.result
      else if u.correlationID = consulServerListWatchID then handleConsulServerList u.result
      else if hasPrefix u.correlationID "connect-service:" then
        handleConnectService u.correlationID u.result
      else if hasPrefix u.correlationID "mesh-gateway:" then
        handleMeshGateway s u.correlationID u.result
      else pure ()

/-! ### Bookkeeping and Go errors -/

/-- The parts of a proxy's state that a mesh gateway's subscription bookkeeping lives in: the
subscriptions, the other kinds' parts of the snapshot, and the two watch maps. -/
def meshBooks (w : ProxyState) :=
  (w.subs, w.snap.connectProxy, w.snap.terminatingGateway, w.snap.ingressGateway,
    w.snap.meshGateway.watchedServices, w.snap.meshGateway.watchedDatacenters)

section Errors

open HandlerM

theorem keepsBooks_handleRoots (r : Result) : Keeps meshBooks (handleRoots r) := by
  cases r <;> exact fun _ => rfl

theorem keepsBooks_handleFedStateGateways (s : HandlerState) (r : Result) :
    Keeps meshBooks (handleFedStateGateways s r) := by
  cases r <;> exact fun _ => rfl

theorem clean_handleFedStateGateways (s : HandlerState) (r : Result) :
    Clean (handleFedStateGateways s r) := by
  intro w msg w' h
  cases r <;> cases h <;> rfl

theorem keepsBooks_handleServiceResolvers (r : Result) :
    Keeps meshBooks (handleServiceResolvers r) := by
  cases r <;> exact fun _ => rfl

theorem clean_handleServiceResolvers (r : Result) : Clean (handleServiceResolvers r) := by
  intro w msg w' h
  cases r <;> cases h <;> rfl

theorem keepsBooks_handleConsulServerList (r : Result) :
    Keeps meshBooks (handleConsulServerList r) := by
  cases r with
  | indexedCheckServiceNodes nodes =>
      refine (keeps_getSnap _).bind fun _ => ?_
      split
      · exact keeps_fail _ _
      · exact fun _ => rfl
  | _ => exact fun _ => rfl

theorem clean_handleConsulServerList (r : Result) : Clean (handleConsulServerList r) := by
  cases r with
  | indexedCheckServiceNodes nodes =>
      refine Clean.bind_of_reads (fun w => ⟨w.snap, rfl⟩) fun _ => ?_
      split
      · exact clean_fail _
      · exact (total_modifyMeshGateway _).noError.clean
  | _ => exact clean_fail _

theorem keepsBooks_handleConnectService (correlationID : String) (r : Result) :
    Keeps meshBooks (handleConnectService correlationID r) := by
  cases r <;> exact fun _ => rfl

theorem clean_handleConnectService (correlationID : String) (r : Result) :
    Clean (handleConnectService correlationID r) := by
  intro w msg w' h
  cases r <;> cases h <;> rfl

theorem keepsBooks_handleMeshGateway (s : HandlerState) (correlationID : String) (r : Result) :
    Keeps meshBooks (handleMeshGateway s correlationID r) := by
  unfold handleMeshGateway
  split
  · dsimp only
    refine (keeps_getSnap _).bind fun _ => Keeps.bind (fun _ => rfl) fun _ => ?_
    split <;> exact fun _ => rfl
  · exact fun _ => rfl

theorem clean_handleMeshGateway (s : HandlerState) (correlationID : String) (r : Result) :
    Clean (handleMeshGateway s correlationID r) := by
  unfold handleMeshGateway
  split
  · dsimp only
    refine (total_getSnap.bind fun _ => (total_modifyMeshGateway _).bind fun _ =>
      ?_).noError.clean
    split
    · exact total_modifyMeshGateway _
    · exact total_pure ()
  · exact clean_fail _

variable {s : HandlerState}

theorem noError_watchConnectServices (hs : s.Accepts) (services : List ServiceName) :
    NoError (watchConnectServices s services) := by
  induction services with
  | nil => exact (total_pure ()).noError
  | cons svc rest ih =>
      refine NoError.bind (total_getSnap.noError.bind fun _ => ?_) fun _ => ih
      split
      · refine (notifyWithCancel_ensures hs.2 _).noError_bind fun ⟨_, _⟩ herr => ?_
        subst herr
        exact (total_modifyMeshGateway _).noError
      · exact (total_pure ()).noError

theorem noError_watchDatacenters (hs : s.Accepts) (datacenters : List String) :
    NoError (watchDatacenters s datacenters) := by
  induction datacenters with
  | nil => exact (total_pure ()).noError
  | cons dc rest ih =>
      refine NoError.bind (total_getSnap.noError.bind fun _ => ?_) fun _ => ih
      split
      · refine (notifyWithCancel_ensures hs.1 _).noError_bind fun ⟨_, _⟩ herr => ?_
        subst herr
        exact (total_modifyMeshGateway _).noError
      · exact (total_pure ()).noError

theorem total_cancelUnlistedServices (listed : ServiceName → Bool) :
    Total (cancelUnlistedServices listed) :=
  total_getSnap.bind fun _ => (total_modifyMeshGateway _).bind fun _ => total_cancelAll _

theorem total_cancelUnlistedDatacenters (listed : String → Bool) :
    Total (cancelUnlistedDatacenters listed) :=
  total_getSnap.bind fun _ => (total_modifyMeshGateway _).bind fun _ => total_cancelAll _

theorem clean_handleServiceList (hs : s.Accepts) (r : Result) : Clean (handleServiceList s r) := by
  cases r with
  | indexedServiceList services =>
      exact NoError.clean ((noError_watchConnectServices hs services).bind fun _ =>
        ((total_cancelUnlistedServices _).bind fun _ => total_modifyMeshGateway _).noError)
  | _ => exact clean_fail _

theorem clean_handleDatacenters (hs : s.Accepts) (r : Result) : Clean (handleDatacenters s r) := by
  unfold handleDatacenters
  split
  · exact clean_fail _
  · exact NoError.clean ((noError_watchDatacenters hs _).bind fun _ =>
      (total_cancelUnlistedDatacenters _).noError)
  · exact clean_fail _

/-- Every delivery but a service-list or datacenters one leaves the bookkeeping alone. -/
theorem keepsBooks_handleUpdate (u : UpdateEvent) (h₁ : u.correlationID ≠ serviceListWatchID)
    (h₂ : u.correlationID ≠ datacentersWatchID) : Keeps meshBooks (handleUpdate s u) := by
  unfold handleUpdate
  split
  · exact keeps_fail _ _
  · exact Keeps.ite (fun _ => keepsBooks_handleRoots _) fun _ =>
      Keeps.ite (fun _ => keepsBooks_handleFedStateGateways _ _) fun _ =>
      Keeps.ite (fun h => absurd h h₁) fun _ => Keeps.ite (fun h => absurd h h₂) fun _ =>
      Keeps.ite (fun _ => keepsBooks_handleServiceResolvers _) fun _ =>
      Keeps.ite (fun _ => keepsBooks_handleConsulServerList _) fun _ =>
      Keeps.ite (fun _ => keepsBooks_handleConnectService _ _) fun _ =>
      Keeps.ite (fun _ => keepsBooks_handleMeshGateway _ _ _) fun _ => keeps_pure _ ()

/-- Only service-list and datacenters deliveries open or cancel subscriptions. -/
theorem keepsSubs_handleUpdate (u : UpdateEvent) (h₁ : u.correlationID ≠ serviceListWatchID)
    (h₂ : u.correlationID ≠ datacentersWatchID) : Keeps ProxyState.subs (handleUpdate s u) :=
  (keepsBooks_handleUpdate u h₁ h₂).comp Prod.fst

/-- With accepting collaborators, a Go error from the mesh gateway's handler changes nothing. -/
theorem clean_handleUpdate (hs : s.Accepts) (u : UpdateEvent) : Clean (handleUpdate s u) := by
  unfold handleUpdate
  split
  · exact clean_fail _
  · exact Clean.ite (fun _ => handlerUpstreams.clean_handleRoots _) fun _ =>
      Clean.ite (fun _ => clean_handleFedStateGateways _ _) fun _ =>
      Clean.ite (fun _ => clean_handleServiceList hs _) fun _ =>
      Clean.ite (fun _ => clean_handleDatacenters hs _) fun _ =>
      Clean.ite (fun _ => clean_handleServiceResolvers _) fun _ =>
      Clean.ite (fun _ => clean_handleConsulServerList _) fun _ =>
      Clean.ite (fun _ => clean_handleConnectService _ _) fun _ =>
      Clean.ite (fun _ => clean_handleMeshGateway _ _ _) fun _ => (total_pure ()).noError.clean

end Errors

/-- `handlerMeshGateway.initialize`: roots and the service list, the federation watches when the
gateway's meta asks for WAN federation, the datacenters and the resolvers. -/
def initWatches (s : HandlerState) : HandlerM Unit := do
  watchRootOrFail s.cache rootsWatchID
  watchRootOrFail s.cache serviceListWatchID
  if s.meta.lookup metaWANFederationKey = some "1" then
    watchRootOrFail s.cache federationStateListGatewaysWatchID
    watchRootOrFail s.health consulServerListWatchID
  watchRootOrFail s.cache datacentersWatchID
  watchRootOrFail s.cache serviceResolversWatchID

end handlerMeshGateway

end ConsulAgent
