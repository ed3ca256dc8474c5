/-
The subscription bookkeeping of a terminating gateway over every run: a child context is live
exactly when a watch entry holds its cancel function.
-/
import ConsulAgent.Books
import ConsulAgent.Deliveries

namespace ConsulAgent

open HandlerM

/-- The watch entries of a terminating gateway, keyed by watch and service. -/
def tgwLook (snap : ConfigSnapshot) (k : ServiceWatch × ServiceName) : Option CancelFunc :=
  (k.1.watched snap.terminatingGateway).lookup k.2

/-- A terminating gateway's snapshot leaves the other kinds' parts empty. -/
def TgwOnly (snap : ConfigSnapshot) : Prop :=
  snap.connectProxy = {} ∧ snap.meshGateway = {} ∧ snap.ingressGateway = {}

namespace ServiceWatch

theorem watched_setWatched (v v' : ServiceWatch) (m : GoMap ServiceName CancelFunc)
    (tg : ConfigSnapshotTerminatingGateway) :
    v'.watched (v.setWatched m tg) = if v' = v then m else v'.watched tg := by
  cases v <;> cases v' <;> rfl

@[simp] theorem watched_purge (v v' : ServiceWatch) (keep : ServiceName → Bool)
    (tg : ConfigSnapshotTerminatingGateway) : v'.watched (v.purge keep tg) = v'.watched tg := by
  cases v <;> cases v' <;> rfl

end ServiceWatch

/-- The watch entries after one is added for a service that had none. -/
theorem tgwLook_insert {snap : ConfigSnapshot} {v : ServiceWatch} {svc : ServiceName}
    (hnew : svc ∉ v.watched snap.terminatingGateway) (f₀ : CancelFunc)
    (k : ServiceWatch × ServiceName) (f : CancelFunc) :
    tgwLook { snap with
        terminatingGateway := v.setWatched ((v.watched snap.terminatingGateway).insert svc f₀)
          snap.terminatingGateway } k = some f ↔
      (k = (v, svc) ∧ f = f₀) ∨ tgwLook snap k = some f := by
  obtain ⟨v', sn⟩ := k
  simp only [tgwLook, Prod.mk.injEq]
  rw [ServiceWatch.watched_setWatched]
  split_ifs with hv
  · subst hv
    by_cases hs : sn = svc
    · subst hs
      simp [AList.lookup_insert, AList.lookup_eq_none.2 hnew, eq_comm]
    · simp [AList.lookup_insert_ne hs, hs]
  · simp [hv]

/-- The watch entries after a cleanup loop of watch `v`: those of the unlisted services left. -/
theorem tgwLook_retain (snap : ConfigSnapshot) (v : ServiceWatch) (listed keep : ServiceName → Bool)
    (k : ServiceWatch × ServiceName) (f : CancelFunc) :
    tgwLook { snap with
        terminatingGateway := v.purge keep (v.setWatched
          ((v.watched snap.terminatingGateway).retain listed) snap.terminatingGateway) } k =
        some f ↔
      tgwLook snap k = some f ∧ ¬ (k.1 = v ∧ listed k.2 = false) := by
  obtain ⟨v', sn⟩ := k
  simp only [tgwLook]
  rw [ServiceWatch.watched_purge, ServiceWatch.watched_setWatched]
  split_ifs with hv
  · subst hv
    rw [GoMap.lookup_retain]
    split_ifs with hl <;> simp [hl]
  · simp [hv]

/-- The cancel functions the five watch maps hold are the values of the watch entries. -/
theorem mem_watchedHandles (tg : ConfigSnapshotTerminatingGateway) (f : CancelFunc) :
    f ∈ [tg.watchedServices, tg.watchedIntentions, tg.watchedLeaves, tg.watchedConfigs,
        tg.watchedResolvers].flatMap (fun m => m.entries.map (·.2)) ↔
      ∃ v sn, (ServiceWatch.watched v tg).lookup sn = some f := by
  simp only [List.flatMap_cons, List.flatMap_nil, List.append_nil, List.mem_append,
    GoMap.mem_values]
  constructor
  · rintro (⟨sn, h⟩ | ⟨sn, h⟩ | ⟨sn, h⟩ | ⟨sn, h⟩ | ⟨sn, h⟩)
    exacts [⟨.externalService, sn, h⟩, ⟨.intentions, sn, h⟩, ⟨.leaf, sn, h⟩, ⟨.config, sn, h⟩,
      ⟨.resolver, sn, h⟩]
  · rintro ⟨v, sn, h⟩
    cases v
    exacts [.inl ⟨sn, h⟩, .inr (.inl ⟨sn, h⟩), .inr (.inr (.inl ⟨sn, h⟩)),
      .inr (.inr (.inr (.inl ⟨sn, h⟩))), .inr (.inr (.inr (.inr ⟨sn, h⟩)))]

/-- The cancel functions of a snapshot that has only a terminating gateway's part are those of
its watch entries. -/
theorem mem_cancelHandles_of_tgwOnly {snap : ConfigSnapshot} (h : TgwOnly snap) (f : CancelFunc) :
    f ∈ snap.cancelHandles ↔ ∃ k, tgwLook snap k = some f := by
  obtain ⟨hcp, hmg, hig⟩ := h
  simp only [Prod.exists, tgwLook]
  rw [ConfigSnapshot.cancelHandles, hcp, hmg, hig, ← mem_watchedHandles]
  simp only [ConfigSnapshotUpstreams.cancelHandles, AList.empty_entries, List.map_nil,
    List.flatMap_nil, List.append_nil, List.flatMap_cons, List.nil_append, Option.toList_none,
    List.mem_append, List.mem_map, Sigma.exists, exists_eq_right]

namespace handlerTerminatingGateway

/-- One watch of one service, run to its end: nothing when the service is watched; otherwise a
fresh context, stored with a live subscription, or spent when `Notify` refuses it. -/
theorem finalState_watchService (s : HandlerState) (v : ServiceWatch) (svc : ServiceName)
    (w : ProxyState) :
    finalState (watchService s v svc w) =
      if svc ∉ v.watched w.snap.terminatingGateway then
        match (v.notifier s).notify w.subs.nextContext (v.idPrefix ++ svc.toString) with
        | none =>
            ⟨{ w.snap with
                terminatingGateway := v.setWatched
                  ((v.watched w.snap.terminatingGateway).insert svc ⟨w.subs.nextContext⟩)
                  w.snap.terminatingGateway },
              w.subs.subscribe (v.idPrefix ++ svc.toString)⟩
        | some _ => ⟨w.snap, w.subs.skip.cancel w.subs.nextContext⟩
      else w := by
  simp only [watchService, bind, EStateM.bind, getSnap_apply]
  split_ifs
  · rfl
  · cases hn : (v.notifier s).notify w.subs.nextContext (v.idPrefix ++ svc.toString) <;>
      simp only [notifyWithCancel, EStateM.bind, hn] <;> rfl

/-- One cleanup loop, run to its end: the entries of the services not listed leave watch `v`
with their data, and their contexts are cancelled. -/
theorem finalState_cancelUnlisted (v : ServiceWatch) (listed : ServiceName → Bool)
    (w : ProxyState) :
    finalState (cancelUnlisted v listed w) =
      finalState (cancelAll ((v.watched w.snap.terminatingGateway).dropped listed)
        ⟨{ w.snap with
            terminatingGateway := v.purge
              (fun sn => listed sn || sn ∉ v.watched w.snap.terminatingGateway)
              (v.setWatched ((v.watched w.snap.terminatingGateway).retain listed)
                w.snap.terminatingGateway) },
          w.subs⟩) := by
  simp only [cancelUnlisted, bind, EStateM.bind, getSnap_apply, modifyTerminatingGateway_apply]

/-- What `tgwBooks` keeps, the terminating gateway's bookkeeping invariant reads. -/
theorem tgwBooks_reads (w w' : ProxyState) (h : tgwBooks w' = tgwBooks w) :
    w'.subs = w.subs ∧ (∀ k, tgwLook w'.snap k = tgwLook w.snap k) ∧
      (TgwOnly w.snap → TgwOnly w'.snap) := by
  simp only [tgwBooks, Prod.mk.injEq] at h
  obtain ⟨hsubs, hcp, hmg, hig, h₁, h₂, h₃, h₄, h₅⟩ := h
  refine ⟨hsubs, fun ⟨v, sn⟩ => ?_, fun ho => ?_⟩
  · cases v <;> simp only [tgwLook, ServiceWatch.watched, *]
  · simpa only [TgwOnly, hcp, hmg, hig] using ho

theorem preserves_of_keepsBooks {x : HandlerM α} (hx : Keeps tgwBooks x) :
    Preserves (BooksInv tgwLook TgwOnly) x :=
  BooksInv.preserves_of_keeps hx tgwBooks_reads

theorem preserves_watchService (s : HandlerState) (v : ServiceWatch) (svc : ServiceName) :
    Preserves (BooksInv tgwLook TgwOnly) (watchService s v svc) := by
  intro w hI
  rw [finalState_watchService]
  by_cases hnew : svc ∈ v.watched w.snap.terminatingGateway
  · rw [if_neg (not_not_intro hnew)]
    exact hI
  · rw [if_pos hnew]
    split
    · exact hI.insert (by exact hI.framed) (tgwLook_insert hnew _) _
    · exact hI.spend

theorem preserves_watchLinkedService (s : HandlerState) (gs : GatewayService) :
    Preserves (BooksInv tgwLook TgwOnly) (watchLinkedService s gs) := by
  unfold watchLinkedService
  exact Preserves.bind (preserves_of_keepsBooks fun _ => rfl) fun _ =>
    (preserves_watchService s _ _).bind fun _ => (preserves_watchService s _ _).bind fun _ =>
    (preserves_watchService s _ _).bind fun _ => (preserves_watchService s _ _).bind fun _ =>
    preserves_watchService s _ _

theorem preserves_watchLinkedServices (s : HandlerState) (services : List GatewayService) :
    Preserves (BooksInv tgwLook TgwOnly) (watchLinkedServices s services) := by
  induction services with
  | nil => exact preserves_of_keepsBooks (keeps_pure _ ())
  | cons gs rest ih => exact (preserves_watchLinkedService s gs).bind fun _ => ih

theorem preserves_cancelUnlisted (v : ServiceWatch) (listed : ServiceName → Bool) :
    Preserves (BooksInv tgwLook TgwOnly) (cancelUnlisted v listed) := fun w hI => by
  rw [finalState_cancelUnlisted]
  refine hI.cancelDropped (fun k => k.1 = v ∧ listed k.2 = false) rfl hI.framed
    (tgwLook_retain _ _ _ _) fun f => ?_
  rw [GoMap.mem_dropped]
  constructor
  · rintro ⟨sn, h, hl⟩
    exact ⟨(v, sn), h, rfl, hl⟩
  · rintro ⟨⟨v', sn⟩, h, rfl, hl⟩
    exact ⟨sn, h, hl⟩

theorem preserves_cancelUnlistedAll (listed : ServiceName → Bool) (ws : List ServiceWatch) :
    Preserves (BooksInv tgwLook TgwOnly) (cancelUnlistedAll listed ws) := by
  induction ws with
  | nil => exact preserves_of_keepsBooks (keeps_pure _ ())
  | cons v ws ih => exact (preserves_cancelUnlisted v listed).bind fun _ => ih

theorem preserves_handleGatewayServices (s : HandlerState) (r : Result) :
    Preserves (BooksInv tgwLook TgwOnly) (handleGatewayServices s r) := by
  cases r with
  | indexedGatewayServices services =>
      simp only [handleGatewayServices]
      exact (preserves_watchLinkedServices s services).bind fun _ =>
        Preserves.bind (preserves_of_keepsBooks fun _ => rfl) fun _ =>
        preserves_cancelUnlistedAll _ _
  | _ => exact preserves_of_keepsBooks (keeps_fail _ _)

theorem preserves_handleUpdate (s : HandlerState) (u : UpdateEvent) :
    Preserves (BooksInv tgwLook TgwOnly) (handleUpdate s u) := by
  by_cases h : u.correlationID = gatewayServicesWatchID
  · unfold handleUpdate
    split
    · exact preserves_of_keepsBooks (keeps_fail _ _)
    · have hroots : u.correlationID ≠ rootsWatchID := h ▸ by decide
      rw [if_neg hroots, if_pos h]
      exact preserves_handleGatewayServices s u.result
  · exact preserves_of_keepsBooks (keepsBooks_handleUpdate u h)

theorem preserves_initWatches (s : HandlerState) :
    Preserves (BooksInv tgwLook TgwOnly) (initWatches s) :=
  (BooksInv.preserves_watchRootOrFail _ _).bind fun _ => BooksInv.preserves_watchRootOrFail _ _

end handlerTerminatingGateway

/-- Whatever its collaborators answer and in whatever order deliveries come, in every reachable
state of a terminating gateway a child context has a live subscription exactly when a watch
entry holds its cancel function. -/
theorem terminating_handles_match {p : ProxyHandler} (hp : p.handler = .terminatingGateway)
    {w : ProxyState} (hw : Reachable p w) : HandlesMatch w := by
  have hstart : BooksInv tgwLook TgwOnly
      ⟨newConfigSnapshotFromServiceInstance p.handlerState, {}⟩ :=
    BooksInv.empty ⟨rfl, rfl, rfl⟩ fun ⟨v, _⟩ => by cases v <;> rfl
  have hI := Reachable.induction_of_preserves hstart
    (hp ▸ handlerTerminatingGateway.preserves_initWatches _)
    (fun u => hp ▸ handlerTerminatingGateway.preserves_handleUpdate _ u) hw
  exact hI.handlesMatch (mem_cancelHandles_of_tgwOnly hI.framed)

/-- The terminating gateway with `db` linked: five watches open, each held by its entry. -/
theorem tgw_linked_db_handles_match : Reachable tgwProxy tgwLinkedDb ∧ HandlesMatch tgwLinkedDb :=
  ⟨reachable_tgwLinkedDb, terminating_handles_match rfl reachable_tgwLinkedDb⟩

end ConsulAgent
