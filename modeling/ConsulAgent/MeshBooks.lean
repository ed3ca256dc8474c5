/-
The subscription bookkeeping of a mesh gateway over every run: a child context is live exactly
when a watch entry holds its cancel function.
-/
import ConsulAgent.Books

namespace ConsulAgent

open HandlerM

/-- The watch entries of a mesh gateway: its service watches and its datacenter watches. -/
def meshLook (snap : ConfigSnapshot) : ServiceName ⊕ String → Option CancelFunc
  | .inl svc => snap.meshGateway.watchedServices.lookup svc
  | .inr dc => snap.meshGateway.watchedDatacenters.lookup dc

/-- A mesh gateway's snapshot leaves the other kinds' parts empty. -/
def MeshOnly (snap : ConfigSnapshot) : Prop :=
  snap.connectProxy = {} ∧ snap.terminatingGateway = {} ∧ snap.ingressGateway = {}

/-- The watch entries after a service watch is added for a service that had none. -/
theorem meshLook_insertService {snap : ConfigSnapshot} {svc : ServiceName}
    (hnew : svc ∉ snap.meshGateway.watchedServices) (f₀ : CancelFunc) (k : ServiceName ⊕ String)
    (f : CancelFunc) :
    meshLook { snap with
        meshGateway := { snap.meshGateway with
          watchedServices := snap.meshGateway.watchedServices.insert svc f₀ } } k = some f ↔
      (k = .inl svc ∧ f = f₀) ∨ meshLook snap k = some f := by
  rcases k with sn | dc
  · by_cases hs : sn = svc
    · subst hs
      simp [meshLook, AList.lookup_insert, AList.lookup_eq_none.2 hnew, eq_comm]
    · simp [meshLook, AList.lookup_insert_ne hs, hs]
  · simp [meshLook]

/-- The watch entries after a datacenter watch is added for a datacenter that had none. -/
theorem meshLook_insertDatacenter {snap : ConfigSnapshot} {dc : String}
    (hnew : dc ∉ snap.meshGateway.watchedDatacenters) (f₀ : CancelFunc) (k : ServiceName ⊕ String)
    (f : CancelFunc) :
    meshLook { snap with
        meshGateway := { snap.meshGateway with
          watchedDatacenters := snap.meshGateway.watchedDatacenters.insert dc f₀ } } k = some f ↔
      (k = .inr dc ∧ f = f₀) ∨ meshLook snap k = some f := by
  rcases k with sn | dc'
  · simp [meshLook]
  · by_cases hd : dc' = dc
    · subst hd
      simp [meshLook, AList.lookup_insert, AList.lookup_eq_none.2 hnew, eq_comm]
    · simp [meshLook, AList.lookup_insert_ne hd, hd]

/-- The watch entries after the service cleanup: those of the unlisted services left. -/
theorem meshLook_retainServices (snap : ConfigSnapshot) (listed : ServiceName → Bool)
    (k : ServiceName ⊕ String) (f : CancelFunc) :
    meshLook { snap with
        meshGateway := { snap.meshGateway with
          watchedServices := snap.meshGateway.watchedServices.retain listed } } k = some f ↔
      meshLook snap k = some f ∧ ¬ ∃ sn, k = .inl sn ∧ listed sn = false := by
  rcases k with sn | dc
  · simp only [meshLook, GoMap.lookup_retain]
    split_ifs with hl <;> simp [hl]
  · simp [meshLook]

/-- The watch entries after the datacenter cleanup: those of the unlisted datacenters left. -/
theorem meshLook_retainDatacenters (snap : ConfigSnapshot) (listed : String → Bool)
    (k : ServiceName ⊕ String) (f : CancelFunc) :
    meshLook { snap with
        meshGateway := { snap.meshGateway with
          watchedDatacenters := snap.meshGateway.watchedDatacenters.retain listed } } k = some f ↔
      meshLook snap k = some f ∧ ¬ ∃ dc, k = .inr dc ∧ listed dc = false := by
  rcases k with sn | dc
  · simp [meshLook]
  · simp only [meshLook, GoMap.lookup_retain]
    split_ifs with hl <;> simp [hl]

/-- The cancel functions of a snapshot that has only a mesh gateway's part are those of its
watch entries. -/
theorem mem_cancelHandles_of_meshOnly {snap : ConfigSnapshot} (h : MeshOnly snap)
    (f : CancelFunc) : f ∈ snap.cancelHandles ↔ ∃ k, meshLook snap k = some f := by
  obtain ⟨hcp, htg, hig⟩ := h
  rw [ConfigSnapshot.cancelHandles, hcp, htg, hig]
  simp only [ConfigSnapshotUpstreams.cancelHandles, AList.empty_entries, List.map_nil,
    List.flatMap_nil, List.append_nil, List.flatMap_cons, List.nil_append, Option.toList_none,
    List.mem_append, List.mem_map, Sigma.exists, ← AList.mem_lookup_iff, Option.mem_def,
    exists_eq_right, meshLook, Sum.exists]

namespace handlerMeshGateway

/-- What `meshBooks` keeps, the mesh gateway's bookkeeping invariant reads. -/
theorem meshBooks_reads (w w' : ProxyState) (h : meshBooks w' = meshBooks w) :
    w'.subs = w.subs ∧ (∀ k, meshLook w'.snap k = meshLook w.snap k) ∧
      (MeshOnly w.snap → MeshOnly w'.snap) := by
  simp only [meshBooks, Prod.mk.injEq] at h
  obtain ⟨hsubs, hcp, htg, hig, hws, hwd⟩ := h
  refine ⟨hsubs, fun k => ?_, fun ho => ?_⟩
  · cases k <;> simp only [meshLook, hws, hwd]
  · simpa only [MeshOnly, hcp, htg, hig] using ho

theorem preserves_of_keepsBooks {x : HandlerM α} (hx : Keeps meshBooks x) :
    Preserves (BooksInv meshLook MeshOnly) x :=
  BooksInv.preserves_of_keeps hx meshBooks_reads

/-- One service watch, run to its end: nothing when the service is watched; otherwise a fresh
context, stored with a live subscription, or spent when `Notify` refuses it. -/
theorem finalState_watchConnectService (s : HandlerState) (svc : ServiceName) (w : ProxyState) :
    finalState (watchConnectService s svc w) =
      if svc ∉ w.snap.meshGateway.watchedServices then
        match s.health.notify w.subs.nextContext ("connect-service:" ++ svc.toString) with
        | none =>
            ⟨{ w.snap with
                meshGateway := { w.snap.meshGateway with
                  watchedServices :=
                    w.snap.meshGateway.watchedServices.insert svc ⟨w.subs.nextContext⟩ } },
              w.subs.subscribe ("connect-service:" ++ svc.toString)⟩
        | some _ => ⟨w.snap, w.subs.skip.cancel w.subs.nextContext⟩
      else w := by
  simp only [watchConnectService, bind, EStateM.bind, getSnap_apply]
  split_ifs
  · rfl
  · cases hn : s.health.notify w.subs.nextContext ("connect-service:" ++ svc.toString) <;>
      simp only [notifyWithCancel, EStateM.bind, hn] <;> rfl

/-- One datacenter watch, run to its end: nothing for the source datacenter or a watched one;
otherwise a fresh context, stored with a live subscription, or spent when `Notify` refuses it. -/
theorem finalState_watchDatacenter (s : HandlerState) (dc : String) (w : ProxyState) :
    finalState (watchDatacenter s dc w) =
      if dc ≠ s.sourceDatacenter ∧ dc ∉ w.snap.meshGateway.watchedDatacenters then
        match s.cache.notify w.subs.nextContext ("mesh-gateway:" ++ dc) with
        | none =>
            ⟨{ w.snap with
                meshGateway := { w.snap.meshGateway with
                  watchedDatacenters :=
                    w.snap.meshGateway.watchedDatacenters.insert dc ⟨w.subs.nextContext⟩ } },
              w.subs.subscribe ("mesh-gateway:" ++ dc)⟩
        | some _ => ⟨w.snap, w.subs.skip.cancel w.subs.nextContext⟩
      else w := by
  simp only [watchDatacenter, bind, EStateM.bind, getSnap_apply]
  split_ifs
  · cases hn : s.cache.notify w.subs.nextContext ("mesh-gateway:" ++ dc) <;>
      simp only [notifyWithCancel, EStateM.bind, hn] <;> rfl
  · rfl

theorem finalState_cancelUnlistedServices (listed : ServiceName → Bool) (w : ProxyState) :
    finalState (cancelUnlistedServices listed w) =
      finalState (cancelAll (w.snap.meshGateway.watchedServices.dropped listed)
        ⟨{ w.snap with
            meshGateway := { w.snap.meshGateway with
              watchedServices := w.snap.meshGateway.watchedServices.retain listed } },
          w.subs⟩) := by
  simp only [cancelUnlistedServices, bind, EStateM.bind, getSnap_apply, modifyMeshGateway_apply]

theorem finalState_cancelUnlistedDatacenters (listed : String → Bool) (w : ProxyState) :
    finalState (cancelUnlistedDatacenters listed w) =
      finalState (cancelAll (w.snap.meshGateway.watchedDatacenters.dropped listed)
        ⟨{ w.snap with
            meshGateway := { w.snap.meshGateway with
              watchedDatacenters := w.snap.meshGateway.watchedDatacenters.retain listed } },
          w.subs⟩) := by
  simp only [cancelUnlistedDatacenters, bind, EStateM.bind, getSnap_apply, modifyMeshGateway_apply]

theorem preserves_watchConnectServices (s : HandlerState) (services : List ServiceName) :
    Preserves (BooksInv meshLook MeshOnly) (watchConnectServices s services) := by
  induction services with
  | nil => exact preserves_of_keepsBooks (keeps_pure _ ())
  | cons svc rest ih =>
      refine Preserves.bind (fun w hI => ?_) fun _ => ih
      rw [finalState_watchConnectService]
      by_cases hnew : svc ∈ w.snap.meshGateway.watchedServices
      · rw [if_neg (not_not_intro hnew)]
        exact hI
      · rw [if_pos hnew]
        split
        · exact hI.insert (by exact hI.framed) (meshLook_insertService hnew _) _
        · exact hI.spend

theorem preserves_watchDatacenters (s : HandlerState) (datacenters : List String) :
    Preserves (BooksInv meshLook MeshOnly) (watchDatacenters s datacenters) := by
  induction datacenters with
  | nil => exact preserves_of_keepsBooks (keeps_pure _ ())
  | cons dc rest ih =>
      refine Preserves.bind (fun w hI => ?_) fun _ => ih
      rw [finalState_watchDatacenter]
      split_ifs with hnew
      · split
        · exact hI.insert (by exact hI.framed) (meshLook_insertDatacenter hnew.2 _) _
        · exact hI.spend
      · exact hI

theorem preserves_cancelUnlistedServices (listed : ServiceName → Bool) :
    Preserves (BooksInv meshLook MeshOnly) (cancelUnlistedServices listed) := fun w hI => by
  rw [finalState_cancelUnlistedServices]
  refine hI.cancelDropped (fun k => ∃ sn, k = .inl sn ∧ listed sn = false) rfl hI.framed
    (meshLook_retainServices _ _) fun f => ?_
  rw [GoMap.mem_dropped]
  constructor
  · rintro ⟨sn, h, hl⟩
    exact ⟨.inl sn, h, sn, rfl, hl⟩
  · rintro ⟨_, h, sn, rfl, hl⟩
    exact ⟨sn, h, hl⟩

theorem preserves_cancelUnlistedDatacenters (listed : String → Bool) :
    Preserves (BooksInv meshLook MeshOnly) (cancelUnlistedDatacenters listed) := fun w hI => by
  rw [finalState_cancelUnlistedDatacenters]
  refine hI.cancelDropped (fun k => ∃ dc, k = .inr dc ∧ listed dc = false) rfl hI.framed
    (meshLook_retainDatacenters _ _) fun f => ?_
  rw [GoMap.mem_dropped]
  constructor
  · rintro ⟨dc, h, hl⟩
    exact ⟨.inr dc, h, dc, rfl, hl⟩
  · rintro ⟨_, h, dc, rfl, hl⟩
    exact ⟨dc, h, hl⟩

theorem preserves_handleServiceList (s : HandlerState) (r : Result) :
    Preserves (BooksInv meshLook MeshOnly) (handleServiceList s r) := by
  cases r with
  | indexedServiceList services =>
      simp only [handleServiceList]
      exact (preserves_watchConnectServices s services).bind fun _ =>
        (preserves_cancelUnlistedServices _).bind fun _ => preserves_of_keepsBooks fun _ => rfl
  | _ => exact preserves_of_keepsBooks (keeps_fail _ _)

theorem preserves_handleDatacenters (s : HandlerState) (r : Result) :
    Preserves (BooksInv meshLook MeshOnly) (handleDatacenters s r) := by
  unfold handleDatacenters
  split
  · exact preserves_of_keepsBooks (keeps_fail _ _)
  · exact (preserves_watchDatacenters s _).bind fun _ => preserves_cancelUnlistedDatacenters _
  · exact preserves_of_keepsBooks (keeps_fail _ _)

theorem preserves_handleUpdate (s : HandlerState) (u : UpdateEvent) :
    Preserves (BooksInv meshLook MeshOnly) (handleUpdate s u) := by
  unfold handleUpdate
  split
  · exact preserves_of_keepsBooks (keeps_fail _ _)
  · exact Preserves.ite (fun _ => preserves_of_keepsBooks (keepsBooks_handleRoots _)) fun _ =>
      Preserves.ite (fun _ => preserves_of_keepsBooks (keepsBooks_handleFedStateGateways _ _))
        fun _ =>
      Preserves.ite (fun _ => preserves_handleServiceList _ _) fun _ =>
      Preserves.ite (fun _ => preserves_handleDatacenters _ _) fun _ =>
      Preserves.ite (fun _ => preserves_of_keepsBooks (keepsBooks_handleServiceResolvers _))
        fun _ =>
      Preserves.ite (fun _ => preserves_of_keepsBooks (keepsBooks_handleConsulServerList _))
        fun _ =>
      Preserves.ite (fun _ => preserves_of_keepsBooks (keepsBooks_handleConnectService _ _))
        fun _ =>
      Preserves.ite (fun _ => preserves_of_keepsBooks (keepsBooks_handleMeshGateway _ _ _))
        fun _ => preserves_of_keepsBooks (keeps_pure _ ())

theorem preserves_initWatches (s : HandlerState) :
    Preserves (BooksInv meshLook MeshOnly) (initWatches s) := by
  unfold initWatches
  refine (BooksInv.preserves_watchRootOrFail _ _).bind fun _ =>
    (BooksInv.preserves_watchRootOrFail _ _).bind fun _ => Preserves.ite
      (fun _ => (BooksInv.preserves_watchRootOrFail _ _).bind fun _ =>
        (BooksInv.preserves_watchRootOrFail _ _).bind fun _ => ?_)
      (fun _ => Preserves.bind (fun _ hI => hI) fun _ => ?_)
  -- the datacenters and resolvers watches, after either branch of the federation test
  all_goals exact (BooksInv.preserves_watchRootOrFail _ _).bind fun _ =>
    BooksInv.preserves_watchRootOrFail _ _

end handlerMeshGateway

/-- Whatever its collaborators answer and in whatever order deliveries come, in every reachable
state of a mesh gateway a child context has a live subscription exactly when a watch entry holds
its cancel function. -/
theorem mesh_handles_match {p : ProxyHandler} (hp : p.handler = .meshGateway) {w : ProxyState}
    (hw : Reachable p w) : HandlesMatch w := by
  have hstart : BooksInv meshLook MeshOnly
      ⟨newConfigSnapshotFromServiceInstance p.handlerState, {}⟩ :=
    BooksInv.empty ⟨rfl, rfl, rfl⟩ fun k => by cases k <;> rfl
  have hI := Reachable.induction_of_preserves hstart
    (hp ▸ handlerMeshGateway.preserves_initWatches _)
    (fun u => hp ▸ handlerMeshGateway.preserves_handleUpdate _ u) hw
  exact hI.handlesMatch (mem_cancelHandles_of_meshOnly hI.framed)

/-- A mesh gateway past a service-list delivery naming `db` and a datacenters delivery naming
`dc2`. -/
theorem mesh_listing_handles_match :
    ∃ w, Reachable (ProxyHandler.accepting .meshGateway ⟨"mgw", "mgw", .default, []⟩) w ∧
      1 < w.subs.nextContext ∧ HandlesMatch w := by
  obtain ⟨w, hw, hnext⟩ := exists_reachable_of_run
    (p := ProxyHandler.accepting .meshGateway ⟨"mgw", "mgw", .default, []⟩)
    [⟨serviceListWatchID, .indexedServiceList [⟨"db"⟩], none⟩,
      ⟨datacentersWatchID, .datacenters (some ["dc1", "dc2"]), none⟩]
    (P := fun w => 1 < w.subs.nextContext) (by decide)
  exact ⟨w, hw, hnext, mesh_handles_match rfl hw⟩

end ConsulAgent
