/-
The hostname endpoints a terminating or mesh gateway keeps next to its instance lists: over every
run, each hostname list is `hostnameEndpoints` of an instance list held under the same key.
-/
import ConsulAgent.TerminatingBooks
import ConsulAgent.MeshData

namespace ConsulAgent

open HandlerM

namespace GoMap

variable {K V W : Type} [DecidableEq K]

/-- Inserting `g` of every entry of a list with distinct keys: a key of the list maps to `g` of
its value, any other key keeps its value. -/
theorem dlookup_foldl_insert (g : V → W) {l : List (Sigma fun _ : K => V)} (hl : l.NodupKeys)
    (m : GoMap K W) (k : K) :
    (l.foldl (fun m e => m.insert e.1 (g e.2)) m).lookup k =
      (l.dlookup k).elim (m.lookup k) fun v => some (g v) := by
  induction l generalizing m with
  | nil => rfl
  | cons e rest ih =>
    obtain ⟨a, v⟩ := e
    obtain ⟨ha, hrest⟩ := List.nodupKeys_cons.1 hl
    rw [List.foldl_cons, ih hrest]
    by_cases hk : k = a
    · subst hk
      rw [List.dlookup_eq_none.2 ha, List.dlookup_cons_eq]
      exact AList.lookup_insert _
    · rw [List.dlookup_cons_ne _ _ hk, AList.lookup_insert_ne hk]

/-- The same over the entries of a Go map. -/
theorem lookup_foldl_insert (g : V → W) (src : GoMap K V) (m : GoMap K W) (k : K) :
    (src.entries.foldl (fun m e => m.insert e.1 (g e.2)) m).lookup k =
      (src.lookup k).elim (m.lookup k) fun v => some (g v) :=
  dlookup_foldl_insert g src.nodupKeys m k

end GoMap

/-! ## The terminating gateway -/

namespace ServiceWatch

@[simp] theorem serviceGroups_setWatched (v : ServiceWatch) (m : GoMap ServiceName CancelFunc)
    (tg : ConfigSnapshotTerminatingGateway) :
    (v.setWatched m tg).serviceGroups = tg.serviceGroups := by
  cases v <;> rfl

@[simp] theorem hostnameServices_setWatched (v : ServiceWatch) (m : GoMap ServiceName CancelFunc)
    (tg : ConfigSnapshotTerminatingGateway) :
    (v.setWatched m tg).hostnameServices = tg.hostnameServices := by
  cases v <;> rfl

@[simp] theorem hostnameServices_purge (v : ServiceWatch) (keep : ServiceName → Bool)
    (tg : ConfigSnapshotTerminatingGateway) :
    (v.purge keep tg).hostnameServices = tg.hostnameServices := by
  cases v <;> rfl

/-- A cleanup keeps the instances of the services it keeps. -/
theorem lookup_serviceGroups_purge (v : ServiceWatch) {keep : ServiceName → Bool}
    (tg : ConfigSnapshotTerminatingGateway) {sn : ServiceName} (hk : keep sn = true) :
    (v.purge keep tg).serviceGroups.lookup sn = tg.serviceGroups.lookup sn := by
  cases v <;> simp [ServiceWatch.purge, hk]

end ServiceWatch

namespace handlerTerminatingGateway

/-- Every hostname list a terminating gateway holds for a service is `hostnameEndpoints` of the
instances it holds for that service. -/
def HostnamesHeld (parseIP : String → Bool) (w : ProxyState) : Prop :=
  ∀ sn v, w.snap.terminatingGateway.hostnameServices.lookup sn = some v →
    ∃ nodes, w.snap.terminatingGateway.serviceGroups.lookup sn = some nodes ∧
      v = hostnameEndpoints parseIP w.snap.datacenter nodes

/-- The parts of a proxy state `HostnamesHeld` reads. -/
def tgwGroups (w : ProxyState) :=
  (w.snap.datacenter, w.snap.terminatingGateway.serviceGroups,
    w.snap.terminatingGateway.hostnameServices)

namespace HostnamesHeld

variable {parseIP : String → Bool} {w w' : ProxyState}

/-- A step keeps the hostname lists held when each list it leaves is an old one whose
instances it kept, or is computed from the instances it stored. -/
theorem of_lookup (h : HostnamesHeld parseIP w) (hdc : w'.snap.datacenter = w.snap.datacenter)
    (hk : ∀ sn v, w'.snap.terminatingGateway.hostnameServices.lookup sn = some v →
      (w.snap.terminatingGateway.hostnameServices.lookup sn = some v ∧
        w'.snap.terminatingGateway.serviceGroups.lookup sn =
          w.snap.terminatingGateway.serviceGroups.lookup sn) ∨
      ∃ nodes, w'.snap.terminatingGateway.serviceGroups.lookup sn = some nodes ∧
        v = hostnameEndpoints parseIP w.snap.datacenter nodes) :
    HostnamesHeld parseIP w' := by
  intro sn v hv
  rw [hdc]
  rcases hk sn v hv with ⟨hold, hg⟩ | hnew
  · rw [hg]
    exact h sn v hold
  · exact hnew

theorem of_groups (h : HostnamesHeld parseIP w) (he : tgwGroups w' = tgwGroups w) :
    HostnamesHeld parseIP w' := by
  simp only [tgwGroups, Prod.mk.injEq] at he
  exact h.of_lookup he.1 fun sn v hv => .inl ⟨he.2.2 ▸ hv, by rw [he.2.1]⟩

end HostnamesHeld

theorem preserves_of_keepsGroups {parseIP : String → Bool} {x : HandlerM α}
    (hx : Keeps tgwGroups x) : Preserves (HostnamesHeld parseIP) x :=
  fun w h => h.of_groups (hx w)


theorem keepsGroups_watchService (s : HandlerState) (v : ServiceWatch) (svc : ServiceName) :
    Keeps tgwGroups (watchService s v svc) := by
  intro w
  rw [finalState_watchService]
  split_ifs
  · rfl
  · split <;> simp [tgwGroups]

theorem keepsGroups_watchLinkedServices (s : HandlerState) (services : List GatewayService) :
    Keeps tgwGroups (watchLinkedServices s services) := by
  induction services with
  | nil => exact keeps_pure _ ()
  | cons gs rest ih =>
      refine Keeps.bind ?_ fun _ => ih
      exact Keeps.bind (fun _ => rfl) fun _ => (keepsGroups_watchService s _ _).bind fun _ =>
        (keepsGroups_watchService s _ _).bind fun _ => (keepsGroups_watchService s _ _).bind
        fun _ => (keepsGroups_watchService s _ _).bind fun _ => keepsGroups_watchService s _ _

section Cleanup

variable {parseIP : String → Bool} (listed : ServiceName → Bool)

/-- Once the hostname lists of the unlisted services are gone, each cleanup loop keeps the
instances of every service that still has one. -/
theorem hostnames_cancelUnlisted (v : ServiceWatch) :
    Preserves (fun w => HostnamesHeld parseIP w ∧
      ∀ sn, sn ∈ w.snap.terminatingGateway.hostnameServices → listed sn = true)
      (cancelUnlisted v listed) := by
  rintro w ⟨h, hl⟩
  rw [finalState_cancelUnlisted]
  refine ⟨h.of_lookup (by rw [snap_cancelAll]) fun sn x hx => ?_, fun sn hsn => ?_⟩
  · rw [snap_cancelAll] at hx ⊢
    simp only [ServiceWatch.hostnameServices_purge, ServiceWatch.hostnameServices_setWatched] at hx
    refine .inl ⟨hx, ?_⟩
    rw [ServiceWatch.lookup_serviceGroups_purge v _ ?_, ServiceWatch.serviceGroups_setWatched]
    simp [hl sn (AList.lookup_isSome.1 (by rw [hx]; rfl))]
  · rw [snap_cancelAll] at hsn
    exact hl sn (by simpa using hsn)

theorem hostnames_cancelUnlistedAll (ws : List ServiceWatch) :
    Preserves (fun w => HostnamesHeld parseIP w ∧
      ∀ sn, sn ∈ w.snap.terminatingGateway.hostnameServices → listed sn = true)
      (cancelUnlistedAll listed ws) := by
  induction ws with
  | nil => exact fun _ h => h
  | cons v ws ih => exact (hostnames_cancelUnlisted listed v).bind fun _ => ih

end Cleanup

/-- A gateway-services delivery drops the hostname lists of the services it does not list
before any cleanup loop drops their instances. -/
theorem hostnames_handleGatewayServices (s : HandlerState) (r : Result) :
    Preserves (HostnamesHeld s.parseIP) (handleGatewayServices s r) := by
  cases r with
  | indexedGatewayServices services =>
      refine (preserves_of_keepsGroups (keepsGroups_watchLinkedServices s services)).bind
        fun _ w h => ?_
      rw [bind_ok (modifyTerminatingGateway_apply _ w)]
      refine (hostnames_cancelUnlistedAll _ cleanupOrder _ ?_).1
      refine ⟨h.of_lookup rfl fun sn v hv => ?_, fun sn hsn => ((GoMap.mem_retain _ _ _).1 hsn).1⟩
      rw [GoMap.lookup_retain] at hv
      split_ifs at hv
      exact .inl ⟨hv, rfl⟩
  | _ => exact fun _ h => h

/-- An external-service delivery replaces a service's instances and its hostname list
together, or drops both. -/
theorem hostnames_handleExternalService (s : HandlerState) (id : String) (r : Result) :
    Preserves (HostnamesHeld s.parseIP) (handleExternalService s id r) := by
  cases r with
  | indexedCheckServiceNodes nodes =>
      intro w h
      dsimp only [handleExternalService]
      rw [bind_ok (getSnap_apply w), bind_ok (modifyTerminatingGateway_apply _ w)]
      generalize serviceNameFromString (trimPrefix id externalServiceIDPrefix) = sn
      have herase : HostnamesHeld s.parseIP ⟨{ w.snap with terminatingGateway :=
          { w.snap.terminatingGateway with
            serviceGroups := w.snap.terminatingGateway.serviceGroups.erase sn
            hostnameServices := w.snap.terminatingGateway.hostnameServices.erase sn } }, w.subs⟩ :=
        h.of_lookup rfl fun k v hv => by
          by_cases hk : k = sn
          · subst hk
            simp [AList.lookup_erase] at hv
          · exact .inl ⟨by simpa [AList.lookup_erase_ne hk] using hv,
              AList.lookup_erase_ne hk⟩
      split
      · rw [modifyTerminatingGateway_apply]
        dsimp only [finalState]
        refine herase.of_lookup rfl fun k v hv => ?_
        by_cases hk : k = sn
        · subst hk
          simp only [AList.lookup_insert, Option.some.injEq] at hv
          exact .inr ⟨nodes, AList.lookup_insert _, hv.symm⟩
        · exact .inl ⟨by simpa [AList.lookup_insert_ne hk] using hv, AList.lookup_insert_ne hk⟩
      · exact herase
  | _ => exact fun _ h => h

theorem keepsGroups_handleRoots (r : Result) : Keeps tgwGroups (handleRoots r) := by
  cases r <;> exact fun _ => rfl

theorem keepsGroups_handleServiceLeaf (id : String) (r : Result) :
    Keeps tgwGroups (handleServiceLeaf id r) := by
  cases r <;> exact fun _ => rfl

theorem keepsGroups_handleServiceConfig (id : String) (r : Result) :
    Keeps tgwGroups (handleServiceConfig id r) := by
  cases r <;> exact fun _ => rfl

theorem keepsGroups_handleServiceResolver (id : String) (r : Result) :
    Keeps tgwGroups (handleServiceResolver id r) := by
  cases r <;> exact fun _ => rfl

theorem keepsGroups_handleServiceIntentions (id : String) (r : Result) :
    Keeps tgwGroups (handleServiceIntentions id r) := by
  unfold handleServiceIntentions
  split
  · dsimp only
    split <;> exact fun _ => rfl
  · exact fun _ => rfl

theorem keepsGroups_initWatches (s : HandlerState) : Keeps tgwGroups (initWatches s) :=
  have hroot := keeps_watchRootOrFail fun snap => (snap.datacenter,
    snap.terminatingGateway.serviceGroups, snap.terminatingGateway.hostnameServices)
  (hroot _ _).bind fun _ => hroot _ _

/-- Every delivery a terminating gateway takes keeps its hostname lists held. -/
theorem hostnames_handleUpdate (s : HandlerState) (u : UpdateEvent) :
    Preserves (HostnamesHeld s.parseIP) (handleUpdate s u) := by
  unfold handleUpdate
  split
  · exact fun _ h => h
  · exact Preserves.ite (fun _ => preserves_of_keepsGroups (keepsGroups_handleRoots _)) fun _ =>
      Preserves.ite (fun _ => hostnames_handleGatewayServices s _) fun _ =>
      Preserves.ite (fun _ => hostnames_handleExternalService s _ _) fun _ =>
      Preserves.ite (fun _ => preserves_of_keepsGroups (keepsGroups_handleServiceLeaf _ _)) fun _ =>
      Preserves.ite (fun _ => preserves_of_keepsGroups (keepsGroups_handleServiceConfig _ _))
      fun _ => Preserves.ite
        (fun _ => preserves_of_keepsGroups (keepsGroups_handleServiceResolver _ _)) fun _ =>
      Preserves.ite (fun _ => preserves_of_keepsGroups (keepsGroups_handleServiceIntentions _ _))
      fun _ _ h => h

end handlerTerminatingGateway

/-! ## The mesh gateway -/

namespace handlerMeshGateway

/-- Every hostname list a mesh gateway holds for a datacenter is `hostnameEndpoints` of the
gateways it holds for that datacenter, from the federation states or from its `mesh-gateway:`
watch. -/
def HostnamesHeld (parseIP : String → Bool) (w : ProxyState) : Prop :=
  ∀ dc v, w.snap.meshGateway.hostnameDatacenters.lookup dc = some v →
    ∃ nodes, (w.snap.meshGateway.fedStateGateways.lookup dc = some nodes ∨
        w.snap.meshGateway.gatewayGroups.lookup dc = some nodes) ∧
      v = hostnameEndpoints parseIP w.snap.datacenter nodes

/-- The parts of a proxy state the mesh `HostnamesHeld` reads. -/
def meshGroups (w : ProxyState) :=
  (w.snap.datacenter, w.snap.meshGateway.fedStateGateways, w.snap.meshGateway.gatewayGroups,
    w.snap.meshGateway.hostnameDatacenters)

theorem preserves_of_keepsGroups {parseIP : String → Bool} {x : HandlerM α}
    (hx : Keeps meshGroups x) : Preserves (HostnamesHeld parseIP) x := by
  intro w h dc v hv
  have he := hx w
  simp only [meshGroups, Prod.mk.injEq] at he
  obtain ⟨hdc, hf, hg, hh⟩ := he
  rw [hh] at hv
  rw [hdc, hf, hg]
  exact h dc v hv

theorem keepsGroups_of_keepsData {x : HandlerM α} (hx : Keeps (fun w => meshData w.snap) x) :
    Keeps meshGroups x := fun w => by
  have h := hx w
  simp only [meshData, Prod.mk.injEq] at h
  simp only [meshGroups, h]

theorem hostnames_of_keepsData {parseIP : String → Bool} {x : HandlerM α}
    (hx : Keeps (fun w => meshData w.snap) x) : Preserves (HostnamesHeld parseIP) x :=
  preserves_of_keepsGroups (keepsGroups_of_keepsData hx)

theorem keepsGroups_handleServiceResolvers (r : Result) :
    Keeps meshGroups (handleServiceResolvers r) := by
  cases r <;> exact fun _ => rfl

theorem keepsGroups_handleConsulServerList (r : Result) :
    Keeps meshGroups (handleConsulServerList r) := by
  cases r with
  | indexedCheckServiceNodes nodes =>
      refine (keeps_getSnap _).bind fun snap => ?_
      split
      · exact keeps_fail _ _
      · exact fun _ => rfl
  | _ => exact keeps_fail _ _

/-- A federation-state delivery computes the hostname list of exactly the datacenters it
delivers, from the gateways it stores for them. -/
theorem hostnames_handleFedStateGateways (s : HandlerState) (r : Result) :
    Preserves (HostnamesHeld s.parseIP) (handleFedStateGateways s r) := by
  cases r with
  | datacenterIndexedCheckServiceNodes dcNodes =>
      intro w _ dc v hv
      rw [handleFedStateGateways, bind_ok (getSnap_apply w), modifyMeshGateway_apply] at hv ⊢
      dsimp only [finalState] at hv ⊢
      rw [GoMap.lookup_retain] at hv
      split_ifs at hv with hdc
      obtain ⟨nodes, hn⟩ := Option.isSome_iff_exists.1 (AList.lookup_isSome.2 (of_decide_eq_true hdc))
      rw [GoMap.lookup_foldl_insert, hn] at hv
      exact ⟨nodes, .inl hn, (Option.some.inj hv).symm⟩
  | _ => exact fun _ h => h

/-- A mesh-gateway delivery replaces a datacenter's gateways and its hostname list together, or
drops both. -/
theorem hostnames_handleMeshGateway (s : HandlerState) (id : String) (r : Result) :
    Preserves (HostnamesHeld s.parseIP) (handleMeshGateway s id r) := by
  cases r with
  | indexedNodesWithGateways nodes =>
      intro w h
      dsimp only [handleMeshGateway]
      rw [bind_ok (getSnap_apply w), bind_ok (modifyMeshGateway_apply _ w)]
      generalize trimPrefix id "mesh-gateway:" = dc
      have herase : HostnamesHeld s.parseIP ⟨{ w.snap with meshGateway :=
          { w.snap.meshGateway with
            gatewayGroups := w.snap.meshGateway.gatewayGroups.erase dc
            hostnameDatacenters := w.snap.meshGateway.hostnameDatacenters.erase dc } },
          w.subs⟩ := by
        intro k v hv
        by_cases hk : k = dc
        · subst hk
          simp at hv
        · simp only [AList.lookup_erase_ne hk] at hv ⊢
          exact h k v hv
      split
      · rw [modifyMeshGateway_apply]
        intro k v hv
        dsimp only [finalState] at hv ⊢
        by_cases hk : k = dc
        · subst hk
          simp only [AList.lookup_insert, Option.some.injEq] at hv
          exact ⟨nodes, .inr (AList.lookup_insert _), hv.symm⟩
        · simp only [AList.lookup_insert_ne hk] at hv ⊢
          exact herase k v hv
      · exact herase
  | _ => exact fun _ h => h

/-- Every delivery a mesh gateway takes keeps its hostname lists held. -/
theorem hostnames_handleUpdate (s : HandlerState) (u : UpdateEvent) :
    Preserves (HostnamesHeld s.parseIP) (handleUpdate s u) := by
  unfold handleUpdate
  split
  · exact fun _ h => h
  · exact Preserves.ite (fun _ => hostnames_of_keepsData (keepsData_handleRoots _)) fun _ =>
      Preserves.ite (fun _ => hostnames_handleFedStateGateways s _) fun _ =>
      Preserves.ite (fun _ => hostnames_of_keepsData (keepsData_handleServiceList s _)) fun _ =>
      Preserves.ite (fun _ => hostnames_of_keepsData (keepsData_handleDatacenters s _)) fun _ =>
      Preserves.ite (fun _ => preserves_of_keepsGroups (keepsGroups_handleServiceResolvers _))
      fun _ =>
      Preserves.ite (fun _ => preserves_of_keepsGroups (keepsGroups_handleConsulServerList _))
      fun _ =>
      Preserves.ite (fun _ => hostnames_of_keepsData (keepsData_handleConnectService _ _))
      fun _ => Preserves.ite (fun _ => hostnames_handleMeshGateway s _ _) fun _ _ h => h

end handlerMeshGateway

/-! ## Over every run -/

/-- Whatever its collaborators answer and in whatever order deliveries come, every hostname list
a terminating gateway holds for a service is `hostnameEndpoints` of the instances it holds for
that service. -/
theorem terminating_hostnames_held {p : ProxyHandler} (hp : p.handler = .terminatingGateway)
    {w : ProxyState} (hw : Reachable p w) :
    ∀ sn v, w.snap.terminatingGateway.hostnameServices.lookup sn = some v →
      ∃ nodes, w.snap.terminatingGateway.serviceGroups.lookup sn = some nodes ∧
        v = hostnameEndpoints p.handlerState.parseIP w.snap.datacenter nodes := by
  refine Reachable.induction_of_preserves
    (I := handlerTerminatingGateway.HostnamesHeld p.handlerState.parseIP)
    (fun _ _ hv => by cases hv) ?_ (fun u => ?_) hw <;> rw [hp]
  exacts [handlerTerminatingGateway.preserves_of_keepsGroups
    (handlerTerminatingGateway.keepsGroups_initWatches _),
    handlerTerminatingGateway.hostnames_handleUpdate _ u]

theorem tgw_db_hostnames_held :
    ∃ w, Reachable tgwProxy w ∧
      w.snap.terminatingGateway.hostnameServices.lookup ⟨"db"⟩ ≠ none ∧
      ∀ sn v, w.snap.terminatingGateway.hostnameServices.lookup sn = some v →
        ∃ nodes, w.snap.terminatingGateway.serviceGroups.lookup sn = some nodes ∧
          v = hostnameEndpoints tgwProxy.handlerState.parseIP w.snap.datacenter nodes :=
  let ⟨w, hw, hP⟩ := reachable_tgwLinkedDb.exists_of_deliverAll
    [⟨externalServiceIDPrefix ++ "db", .indexedCheckServiceNodes [dbInstance], none⟩]
    (P := fun w => w.snap.terminatingGateway.hostnameServices.lookup ⟨"db"⟩ ≠ none) (by decide)
  ⟨w, hw, hP, terminating_hostnames_held rfl hw⟩

/-- Whatever its collaborators answer and in whatever order deliveries come, every hostname list
a mesh gateway holds for a datacenter is `hostnameEndpoints` of the gateways it holds for that
datacenter, from the federation states or from that datacenter's own watch. -/
theorem mesh_hostnames_held {p : ProxyHandler} (hp : p.handler = .meshGateway)
    {w : ProxyState} (hw : Reachable p w) :
    ∀ dc v, w.snap.meshGateway.hostnameDatacenters.lookup dc = some v →
      ∃ nodes, (w.snap.meshGateway.fedStateGateways.lookup dc = some nodes ∨
          w.snap.meshGateway.gatewayGroups.lookup dc = some nodes) ∧
        v = hostnameEndpoints p.handlerState.parseIP w.snap.datacenter nodes := by
  refine Reachable.induction_of_preserves
    (I := handlerMeshGateway.HostnamesHeld p.handlerState.parseIP)
    (fun _ _ hv => by cases hv) ?_ (fun u => ?_) hw <;> rw [hp]
  exacts [handlerMeshGateway.hostnames_of_keepsData (handlerMeshGateway.keepsData_initWatches _),
    handlerMeshGateway.hostnames_handleUpdate _ u]

/-- A mesh gateway with a hostname list for `dc2` from the federation states and one for `dc3`
from its own watch. -/
theorem mesh_dc_hostnames_held :
    ∃ w, Reachable (ProxyHandler.accepting .meshGateway ⟨"mgw", "mgw", .default, []⟩) w ∧
      (w.snap.meshGateway.hostnameDatacenters.lookup "dc2" ≠ none ∧
        w.snap.meshGateway.hostnameDatacenters.lookup "dc3" ≠ none) ∧
      ∀ dc v, w.snap.meshGateway.hostnameDatacenters.lookup dc = some v →
        ∃ nodes, (w.snap.meshGateway.fedStateGateways.lookup dc = some nodes ∨
            w.snap.meshGateway.gatewayGroups.lookup dc = some nodes) ∧
          v = hostnameEndpoints
            (ProxyHandler.accepting .meshGateway ⟨"mgw", "mgw", .default, []⟩).handlerState.parseIP
            w.snap.datacenter nodes :=
  let ⟨w, hw, hP⟩ := exists_reachable_of_run
    (p := ProxyHandler.accepting .meshGateway ⟨"mgw", "mgw", .default, []⟩)
    [⟨federationStateListGatewaysWatchID,
        .datacenterIndexedCheckServiceNodes ((∅ : GoMap String _).insert "dc2" [dbInstance]), none⟩,
      ⟨"mesh-gateway:dc3", .indexedNodesWithGateways [dbInstance], none⟩]
    (P := fun w => w.snap.meshGateway.hostnameDatacenters.lookup "dc2" ≠ none ∧
      w.snap.meshGateway.hostnameDatacenters.lookup "dc3" ≠ none) (by decide)
  ⟨w, hw, hP, mesh_hostnames_held rfl hw⟩

end ConsulAgent
