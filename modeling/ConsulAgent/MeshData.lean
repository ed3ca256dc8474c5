/-
What a mesh gateway stores from its data deliveries next to its watch maps: each is written only
by its own delivery, and each server and resolver it holds passes its checks.
-/
import ConsulAgent.MeshBooks
import ConsulAgent.Deliveries

namespace ConsulAgent

open HandlerM

namespace handlerMeshGateway

/-! ## What the watch cases leave alone -/

/-- The parts of a mesh gateway's snapshot that only its data cases write. -/
def meshData (snap : ConfigSnapshot) :=
  (snap.datacenter, snap.meshGateway.fedStateGateways, snap.meshGateway.gatewayGroups,
    snap.meshGateway.hostnameDatacenters, snap.meshGateway.consulServers,
    snap.meshGateway.serviceResolvers)

theorem keepsData_handleRoots (r : Result) :
    Keeps (fun w => meshData w.snap) (handleRoots r) := by
  cases r <;> exact fun _ => rfl

theorem keepsData_watchConnectServices (s : HandlerState) (services : List ServiceName) :
    Keeps (fun w => meshData w.snap) (watchConnectServices s services) := by
  induction services with
  | nil => exact keeps_pure _ ()
  | cons svc rest ih =>
      refine Keeps.bind (fun w => ?_) fun _ => ih
      rw [finalState_watchConnectService]
      split_ifs
      · rfl
      · split <;> rfl

theorem keepsData_watchDatacenters (s : HandlerState) (dcs : List String) :
    Keeps (fun w => meshData w.snap) (watchDatacenters s dcs) := by
  induction dcs with
  | nil => exact keeps_pure _ ()
  | cons dc rest ih =>
      refine Keeps.bind (fun w => ?_) fun _ => ih
      rw [finalState_watchDatacenter]
      split_ifs
      · split <;> rfl
      · rfl

theorem keepsData_handleServiceList (s : HandlerState) (r : Result) :
    Keeps (fun w => meshData w.snap) (handleServiceList s r) := by
  cases r with
  | indexedServiceList services =>
      refine (keepsData_watchConnectServices s services).bind fun _ =>
        Keeps.bind (fun w => ?_) fun _ _ => rfl
      rw [finalState_cancelUnlistedServices]
      exact keeps_cancelAll meshData _ _
  | _ => exact keeps_fail _ _

theorem keepsData_handleDatacenters (s : HandlerState) (r : Result) :
    Keeps (fun w => meshData w.snap) (handleDatacenters s r) := by
  unfold handleDatacenters
  split
  · exact keeps_fail _ _
  · refine (keepsData_watchDatacenters s _).bind fun _ w => ?_
    rw [finalState_cancelUnlistedDatacenters]
    exact keeps_cancelAll meshData _ _
  · exact keeps_fail _ _

theorem keepsData_handleConnectService (id : String) (r : Result) :
    Keeps (fun w => meshData w.snap) (handleConnectService id r) := by
  cases r <;> exact fun _ => rfl

theorem keepsData_initWatches (s : HandlerState) :
    Keeps (fun w => meshData w.snap) (initWatches s) := by
  have hroot := keeps_watchRootOrFail meshData
  unfold initWatches
  refine (hroot _ _).bind fun _ => (hroot _ _).bind fun _ => Keeps.ite
    (fun _ => (hroot _ _).bind fun _ => (hroot _ _).bind fun _ => ?_)
    (fun _ => (keeps_pure _ ()).bind fun _ => ?_)
  -- the datacenters and resolvers watches, after either branch of the federation test
  all_goals exact (hroot _ _).bind fun _ => hroot _ _

/-! ## The consul-server-list case -/

/-- A server instance the sanity checks accept: a `consul` instance of the datacenter. -/
def ServerChecked (dc : String) (csn : CheckServiceNode) : Prop :=
  csn.service.service = consulServiceName ∧ csn.node.datacenter = dc

theorem serverListMismatch_eq_none {dc : String} {nodes : List CheckServiceNode} :
    serverListMismatch dc nodes = none ↔ ∀ csn ∈ nodes, ServerChecked dc csn := by
  induction nodes with
  | nil => simp [serverListMismatch]
  | cons csn rest ih =>
      rw [serverListMismatch, List.forall_mem_cons, ← ih]
      split_ifs with hs hd
      · simp [ServerChecked, hs]
      · simp [ServerChecked, hd]
      · simp [ServerChecked, not_not.1 hs, not_not.1 hd]

/-- Checked instances before the first that fails do not change what the checks report. -/
theorem serverListMismatch_append {dc : String} {pre : List CheckServiceNode}
    (hpre : ∀ csn ∈ pre, ServerChecked dc csn) (post : List CheckServiceNode) :
    serverListMismatch dc (pre ++ post) = serverListMismatch dc post := by
  induction pre with
  | nil => rfl
  | cons csn rest ih =>
      obtain ⟨⟨hs, hd⟩, hrest⟩ := List.forall_mem_cons.1 hpre
      simp only [List.cons_append, serverListMismatch, hs, hd, ne_eq, not_true_eq_false,
        ↓reduceIte, List.append_eq, ih hrest]

theorem handleUpdate_consulServerList (s : HandlerState) (r : Result) :
    handleUpdate s ⟨consulServerListWatchID, r, none⟩ = handleConsulServerList r := by
  have h₁ : consulServerListWatchID ≠ rootsWatchID := by decide
  have h₂ : consulServerListWatchID ≠ federationStateListGatewaysWatchID := by decide
  have h₃ : consulServerListWatchID ≠ serviceListWatchID := by decide
  have h₄ : consulServerListWatchID ≠ datacentersWatchID := by decide
  have h₅ : consulServerListWatchID ≠ serviceResolversWatchID := by decide
  simp [handleUpdate, h₁, h₂, h₃, h₄, h₅]

/-- Through the mesh gateway's switch, a consul-server-list delivery either stores its list, when
every instance is a `consul` instance of the gateway's datacenter, or is refused with the message
of the first instance that is not, naming its service name, or else its datacenter, and leaves
the state as it was. -/
theorem consul_server_list_checked (s : HandlerState) (nodes : List CheckServiceNode)
    (w : ProxyState) :
    ((∀ csn ∈ nodes, ServerChecked w.snap.datacenter csn) →
      handleUpdate s ⟨consulServerListWatchID, .indexedCheckServiceNodes nodes, none⟩ w =
        .ok () { w with snap := { w.snap with
          meshGateway := { w.snap.meshGateway with consulServers := nodes } } }) ∧
    ∀ pre csn post, nodes = pre ++ csn :: post →
      (∀ c ∈ pre, ServerChecked w.snap.datacenter c) → ¬ ServerChecked w.snap.datacenter csn →
      handleUpdate s ⟨consulServerListWatchID, .indexedCheckServiceNodes nodes, none⟩ w =
        .error (.error (if csn.service.service ≠ consulServiceName then
            "expected service name " ++ goQuote consulServiceName ++ " but got " ++
              goQuote csn.service.service
          else "expected datacenter " ++ goQuote w.snap.datacenter ++ " but got " ++
            goQuote csn.node.datacenter)) w := by
  rw [handleUpdate_consulServerList, handleConsulServerList, bind_ok (getSnap_apply w)]
  refine ⟨fun h => by rw [serverListMismatch_eq_none.2 h]; rfl, fun pre csn post hn hpre hbad => ?_⟩
  rw [hn, serverListMismatch_append hpre, serverListMismatch]
  by_cases hs : csn.service.service = consulServiceName
  · have hd : csn.node.datacenter ≠ w.snap.datacenter := fun hd => hbad ⟨hs, hd⟩
    simp only [hs, hd, ne_eq, not_true_eq_false, not_false_eq_true, ↓reduceIte]
    rfl
  · simp only [hs, ne_eq, not_false_eq_true, ↓reduceIte]
    rfl

/-- A `db` instance delivered as a consul server is refused for its service name. -/
theorem db_server_refused :
    let s := acceptingHandlerState .meshGateway ⟨"mgw", "mgw", .default, []⟩
    let w : ProxyState := ⟨newConfigSnapshotFromServiceInstance s, {}⟩
    handleUpdate s ⟨consulServerListWatchID, .indexedCheckServiceNodes [dbInstance], none⟩ w =
      .error (.error "expected service name \"consul\" but got \"db\"") w := by
  intro s w
  rw [(consul_server_list_checked s [dbInstance] w).2 [] dbInstance [] rfl nofun
    fun hc => absurd hc.1 (by decide)]
  rfl

/-! ## The resolvers -/

end handlerMeshGateway

end ConsulAgent
