/-
The premise of the chain reset over whole runs: every step of a connect proxy or an ingress
gateway keeps the handles of every upstream issued, whatever the collaborators answer.
-/
import ConsulAgent.ChainReset

namespace ConsulAgent

open HandlerM

namespace Subscriptions

variable {a : Subscriptions}

theorem Bounded.skip (h : a.Bounded) : a.skip.Bounded :=
  fun c id hmem => Nat.lt_succ_of_lt (h c id hmem)

theorem Bounded.cancel (h : a.Bounded) (ctx : Nat) : (a.cancel ctx).Bounded :=
  fun c id hmem => h c id (List.mem_filter.1 hmem).1

/-- A subscription on the root context, which lies below every child context. -/
theorem Bounded.root (h : a.Bounded) (h0 : 0 < a.nextContext) (id : String) :
    ({ a with live := (0, id) :: a.live } : Subscriptions).Bounded := by
  intro c id' hmem
  rcases List.mem_cons.1 hmem with hc | hmem
  · cases hc
    exact h0
  · exact h c id' hmem

end Subscriptions

namespace handlerUpstreams

/-- Every entry of the map-valued map `m'` is an entry of `m`. -/
def SubHandles (m' m : GoMap String (GoMap String CancelFunc)) : Prop :=
  ∀ u k f, (m'.inner u).lookup k = some f → (m.inner u).lookup k = some f

theorem SubHandles.refl (m : GoMap String (GoMap String CancelFunc)) : SubHandles m m :=
  fun _ _ _ h => h

/-- `m[u] = v`, where `v` keeps only entries of `m[u]`. -/
theorem SubHandles.insert {m : GoMap String (GoMap String CancelFunc)} {u : String}
    {v : GoMap String CancelFunc}
    (hv : ∀ k f, v.lookup k = some f → (m.inner u).lookup k = some f) :
    SubHandles (m.insert u v) m := by
  intro u' k f hf
  rw [GoMap.inner_insert] at hf
  split_ifs at hf with hu
  · exact hu ▸ hv k f hf
  · exact hf

theorem SubHandles.ensure (m : GoMap String (GoMap String CancelFunc)) (u : String) :
    SubHandles (m.ensure u) m :=
  fun u' _ _ hf => GoMap.inner_ensure m u u' ▸ hf

theorem SubHandles.retain (m : GoMap String (GoMap String CancelFunc)) (p : String → Bool) :
    SubHandles (m.retain p) m := by
  intro u k f hf
  rw [GoMap.inner_retain] at hf
  split_ifs at hf
  · exact hf
  · cases hf

/-- Every target and gateway entry of `us'` is an entry of `us`. -/
def Narrows (us' us : ConfigSnapshotUpstreams) : Prop :=
  SubHandles us'.watchedUpstreams us.watchedUpstreams ∧
    SubHandles us'.watchedGateways us.watchedGateways

theorem Narrows.of_eq {us' us : ConfigSnapshotUpstreams}
    (hT : us'.watchedUpstreams = us.watchedUpstreams)
    (hG : us'.watchedGateways = us.watchedGateways) : Narrows us' us :=
  ⟨hT ▸ SubHandles.refl _, hG ▸ SubHandles.refl _⟩

/-- The handles of every upstream are issued, and the root context lies below the first child
context. -/
structure AllHandlesIssued (w : ProxyState) : Prop where
  next_pos : 0 < w.subs.nextContext
  issued : ∀ u, HandlesIssued u w

namespace AllHandlesIssued

variable {w w' : ProxyState}

theorem bounded (hI : AllHandlesIssued w) : w.subs.Bounded :=
  (hI.issued "").bounded

/-- In the snapshot `Watch` starts from, no handle is held. -/
theorem start (s : HandlerState) :
    AllHandlesIssued ⟨newConfigSnapshotFromServiceInstance s, {}⟩ :=
  ⟨Nat.one_pos, HandlesIssued.start s⟩

/-- A step that keeps every handle among the old ones, keeps the live subscriptions on contexts
handed out and never moves `nextContext` back keeps the handles issued. -/
theorem of_narrows (hI : AllHandlesIssued w)
    (hn : Narrows w'.snap.upstreamsOf w.snap.upstreamsOf) (hb : w'.subs.Bounded)
    (hnext : w.subs.nextContext ≤ w'.subs.nextContext) : AllHandlesIssued w' :=
  ⟨Nat.lt_of_lt_of_le hI.next_pos hnext,
    fun u => (hI.issued u).of_sub hb hnext (hn.1 u) (hn.2 u)⟩

/-- A target watch stored under `u` and `k` on the context just opened keeps the handles
issued: its function is above every function held. -/
theorem setTarget (hI : AllHandlesIssued w) (u k : String) {id : String}
    (hsubs : w'.subs = w.subs.subscribe id)
    (hT : w'.snap.upstreamsOf.watchedUpstreams =
      w.snap.upstreamsOf.watchedUpstreams.setInner u k ⟨w.subs.nextContext⟩)
    (hG : w'.snap.upstreamsOf.watchedGateways = w.snap.upstreamsOf.watchedGateways) :
    AllHandlesIssued w' := by
  have hb : w'.subs.Bounded := hsubs ▸ hI.bounded.subscribe id
  have hnext : w'.subs.nextContext = w.subs.nextContext + 1 := by rw [hsubs]; rfl
  refine ⟨by omega, fun u' => ?_⟩
  have hI' := hI.issued u'
  by_cases hu : u' = u
  · subst hu
    have hnew (k' : String) (f : CancelFunc)
        (hf : (w'.snap.upstreamsOf.watchedUpstreams.inner u').lookup k' = some f) :
        f = ⟨w.subs.nextContext⟩ ∨
          (w.snap.upstreamsOf.watchedUpstreams.inner u').lookup k' = some f := by
      rw [hT, GoMap.inner_setInner, if_pos rfl] at hf
      exact (GoMap.eq_or_lookup_of_lookup_insert hf).imp_left And.right
    refine ⟨hb, fun k' f hf => ?_, fun dc f hf => ?_,
      fun dc₁ dc₂ f => hG ▸ hI'.gateway_unique dc₁ dc₂ f, fun k' dc f hk hdc => ?_⟩
    · rcases hnew k' f hf with rfl | hf
      · exact hnext ▸ Nat.lt_succ_self _
      · exact hnext ▸ Nat.lt_succ_of_lt (hI'.target_lt k' f hf)
    · rw [hG] at hf
      exact hnext ▸ Nat.lt_succ_of_lt (hI'.gateway_lt dc f hf)
    · rw [hG] at hdc
      rcases hnew k' f hk with rfl | hk
      · exact Nat.lt_irrefl _ (hI'.gateway_lt dc _ hdc)
      · exact hI'.target_ne_gateway k' dc f hk hdc
  · exact hI'.of_sub hb (by omega)
      (fun _ _ hf => by rwa [hT, GoMap.inner_setInner, if_neg hu] at hf) fun _ _ hf => hG ▸ hf

/-- A gateway watch stored under `u` and `dc` on the context just opened keeps the handles
issued: its function is above every function held. -/
theorem setGateway (hI : AllHandlesIssued w) (u dc : String) {id : String}
    (hsubs : w'.subs = w.subs.subscribe id)
    (hT : w'.snap.upstreamsOf.watchedUpstreams = w.snap.upstreamsOf.watchedUpstreams)
    (hG : w'.snap.upstreamsOf.watchedGateways =
      w.snap.upstreamsOf.watchedGateways.setInner u dc ⟨w.subs.nextContext⟩) :
    AllHandlesIssued w' := by
  have hb : w'.subs.Bounded := hsubs ▸ hI.bounded.subscribe id
  have hnext : w'.subs.nextContext = w.subs.nextContext + 1 := by rw [hsubs]; rfl
  refine ⟨by omega, fun u' => ?_⟩
  have hI' := hI.issued u'
  by_cases hu : u' = u
  · subst hu
    have hnew (dc' : String) (f : CancelFunc)
        (hf : (w'.snap.upstreamsOf.watchedGateways.inner u').lookup dc' = some f) :
        (dc' = dc ∧ f = ⟨w.subs.nextContext⟩) ∨
          (w.snap.upstreamsOf.watchedGateways.inner u').lookup dc' = some f := by
      rw [hG, GoMap.inner_setInner, if_pos rfl] at hf
      exact GoMap.eq_or_lookup_of_lookup_insert hf
    refine ⟨hb, fun k f hf => ?_, fun dc' f hf => ?_, fun dc₁ dc₂ f h₁ h₂ => ?_,
      fun k dc' f hk hdc => ?_⟩
    · rw [hT] at hf
      exact hnext ▸ Nat.lt_succ_of_lt (hI'.target_lt k f hf)
    · rcases hnew dc' f hf with ⟨-, rfl⟩ | hf
      · exact hnext ▸ Nat.lt_succ_self _
      · exact hnext ▸ Nat.lt_succ_of_lt (hI'.gateway_lt dc' f hf)
    · rcases hnew dc₁ f h₁ with ⟨rfl, hf₁⟩ | h₁ <;>
        rcases hnew dc₂ f h₂ with ⟨rfl, hf₂⟩ | h₂
      · rfl
      · subst hf₁
        exact absurd (hI'.gateway_lt _ _ h₂) (Nat.lt_irrefl _)
      · subst hf₂
        exact absurd (hI'.gateway_lt _ _ h₁) (Nat.lt_irrefl _)
      · exact hI'.gateway_unique dc₁ dc₂ f h₁ h₂
    · rw [hT] at hk
      rcases hnew dc' f hdc with ⟨-, rfl⟩ | hdc
      · exact Nat.lt_irrefl _ (hI'.target_lt k _ hk)
      · exact hI'.target_ne_gateway k dc' f hk hdc
  · exact hI'.of_sub hb (by omega) (fun _ _ hf => hT ▸ hf)
      fun _ _ hf => by rwa [hG, GoMap.inner_setInner, if_neg hu] at hf

end AllHandlesIssued

/-! ## Steps -/

section Steps

variable {α β : Type}

theorem preserves_pure (a : α) : Preserves AllHandlesIssued (pure a : HandlerM α) :=
  fun _ hI => hI

theorem preserves_getSnap : Preserves AllHandlesIssued getSnap :=
  fun _ hI => hI

theorem preserves_fail (msg : String) : Preserves AllHandlesIssued (fail msg : HandlerM α) :=
  fun _ hI => hI

theorem preserves_crash (msg : String) : Preserves AllHandlesIssued (crash msg : HandlerM α) :=
  fun _ hI => hI

/-- A snapshot write keeps the handles issued when it only takes target and gateway entries
out. -/
theorem preserves_modifySnap {g : ConfigSnapshot → ConfigSnapshot}
    (h : ∀ snap, Narrows (g snap).upstreamsOf snap.upstreamsOf) :
    Preserves AllHandlesIssued (modifySnap g) :=
  fun w hI => hI.of_narrows (h w.snap) hI.bounded (Nat.le_refl _)

theorem preserves_modifyUpstreams {g : ConfigSnapshotUpstreams → ConfigSnapshotUpstreams}
    (h : ∀ us, Narrows (g us) us) : Preserves AllHandlesIssued (modifyUpstreams g) :=
  preserves_modifySnap fun snap => by
    rw [ConfigSnapshot.upstreamsOf_modifyUpstreams]
    exact h _

/-- A write to the connect proxy's part: in an ingress snapshot the pointer reads the other
part, which it leaves. -/
theorem preserves_modifyConnectProxy {f : ConfigSnapshotConnectProxy → ConfigSnapshotConnectProxy}
    (h : ∀ cp, Narrows (f cp).configSnapshotUpstreams cp.configSnapshotUpstreams) :
    Preserves AllHandlesIssued (modifyConnectProxy f) :=
  preserves_modifySnap fun snap => by
    by_cases hk : snap.kind = .ingressGateway <;>
      simp only [ConfigSnapshot.upstreamsOf, hk, if_true, if_false]
    exacts [Narrows.of_eq rfl rfl, h _]

theorem preserves_modifyIngressGateway
    {f : ConfigSnapshotIngressGateway → ConfigSnapshotIngressGateway}
    (h : ∀ ig, Narrows (f ig).configSnapshotUpstreams ig.configSnapshotUpstreams) :
    Preserves AllHandlesIssued (modifyIngressGateway f) :=
  preserves_modifySnap fun snap => by
    by_cases hk : snap.kind = .ingressGateway <;>
      simp only [ConfigSnapshot.upstreamsOf, hk, if_true, if_false]
    exacts [h _, Narrows.of_eq rfl rfl]

theorem preserves_notifyWithCancel (c : CacheNotifier) (id : String) :
    Preserves AllHandlesIssued (notifyWithCancel c id) := by
  intro w hI
  unfold notifyWithCancel
  split
  · exact hI.of_narrows (Narrows.of_eq rfl rfl) (hI.bounded.subscribe id) (Nat.le_succ _)
  · exact hI.of_narrows (Narrows.of_eq rfl rfl) hI.bounded.skip (Nat.le_succ _)

theorem preserves_cancel (f : CancelFunc) : Preserves AllHandlesIssued (cancel f) :=
  fun _ hI => hI.of_narrows (Narrows.of_eq rfl rfl) (hI.bounded.cancel f.context) (Nat.le_refl _)

theorem preserves_cancelAll (fs : List CancelFunc) : Preserves AllHandlesIssued (cancelAll fs) := by
  induction fs with
  | nil => exact preserves_pure ()
  | cons f rest ih => exact (preserves_cancel f).bind fun _ => ih

theorem preserves_notifyRoot (c : CacheNotifier) (id : String) :
    Preserves AllHandlesIssued (notifyRoot c id) := by
  intro w hI
  unfold notifyRoot
  split
  · exact hI.of_narrows (Narrows.of_eq rfl rfl) (hI.bounded.root hI.next_pos id) (Nat.le_refl _)
  · exact hI

theorem preserves_watchRootOrFail (c : CacheNotifier) (id : String) :
    Preserves AllHandlesIssued (watchRootOrFail c id) :=
  (preserves_notifyRoot c id).bind fun r => by
    cases r
    exacts [preserves_pure (), preserves_fail _]

/-- A watch opened with `WithCancel`: whatever follows a refused `Notify` keeps the handles
issued, and so does what follows an accepted one from the state it leaves, given the handles
were issued before the context was opened. -/
theorem preserves_notifyWithCancel_bind {c : CacheNotifier} {id : String}
    {k : CancelFunc × Option String → HandlerM β}
    (herr : ∀ f e, Preserves AllHandlesIssued (k (f, some e)))
    (hok : ∀ w, AllHandlesIssued w →
      AllHandlesIssued
        (finalState (k (⟨w.subs.nextContext⟩, none) ⟨w.snap, w.subs.subscribe id⟩))) :
    Preserves AllHandlesIssued (notifyWithCancel c id >>= k) := by
  intro w hI
  cases hn : c.notify w.subs.nextContext id with
  | none =>
      have h : notifyWithCancel c id w =
          .ok (⟨w.subs.nextContext⟩, none) ⟨w.snap, w.subs.subscribe id⟩ := by
        simp only [notifyWithCancel, hn]
      rw [bind_ok h]
      exact hok w hI
  | some e =>
      have h : notifyWithCancel c id w =
          .ok (⟨w.subs.nextContext⟩, some e) ⟨w.snap, w.subs.skip⟩ := by
        simp only [notifyWithCancel, hn]
      rw [bind_ok h]
      exact herr _ e _ (hI.of_narrows (Narrows.of_eq rfl rfl) hI.bounded.skip (Nat.le_succ _))

end Steps

/-! ## The upstreams handler -/

section Upstreams

variable (s : HandlerState)

/-- A target watch stores the function of the context it has just opened, or cancels that
context when `Notify` refuses it. -/
theorem preserves_watchUpstreamTarget (u k : String) :
    Preserves AllHandlesIssued (watchUpstreamTarget s u k) :=
  preserves_notifyWithCancel_bind (fun f _ => (preserves_cancel f).bind fun _ => preserves_pure _)
    fun _ hI => by
      dsimp only
      rw [bind_ok (modifyUpstreams_apply _ _)]
      exact preserves_pure none _ (hI.setTarget u k rfl (by simp) (by simp))

theorem preserves_watchTargets (u : String) (ts : List DiscoveryTarget) :
    Preserves AllHandlesIssued (watchTargets s u ts) := by
  induction ts with
  | nil => exact preserves_pure ()
  | cons t rest ih =>
      refine (preserves_watchUpstreamTarget s u t.id).bind fun err => ?_
      cases err
      exacts [ih, preserves_fail _]

theorem preserves_watchChainTarget (u : String) (c : CompiledDiscoveryChain) :
    Preserves AllHandlesIssued (watchChainTarget s u c) := by
  unfold watchChainTarget
  split
  · refine (preserves_watchUpstreamTarget s u c.id).bind fun _ => ?_
    split
    exacts [preserves_fail _, preserves_pure ()]
  · exact preserves_pure ()

/-- The gateway loop does the same for each datacenter it does not watch yet. -/
theorem preserves_watchGateways (u : String) (dcs : List String) :
    Preserves AllHandlesIssued (watchGateways s u dcs) := by
  induction dcs with
  | nil => exact preserves_pure ()
  | cons dc rest ih =>
      refine preserves_getSnap.bind fun _ => Preserves.ite (fun _ => ih) fun _ => ?_
      exact preserves_notifyWithCancel_bind
        (fun f _ => (preserves_cancel f).bind fun _ => preserves_fail _)
        fun _ hI => ih _ (hI.setGateway u dc rfl (by simp) (by simp))

theorem preserves_stopTargets (u : String) : Preserves AllHandlesIssued (stopTargets u) := by
  refine preserves_getSnap.bind fun _ => (preserves_modifyUpstreams fun _ => ?_).bind fun _ =>
    preserves_cancelAll _
  exact ⟨.insert fun _ _ h => by simp at h, .refl _⟩

/-- The gateways the cleanup keeps are read from the snapshot it writes back to. -/
theorem preserves_stopGateways (u : String) (need : GoMap String Unit) :
    Preserves AllHandlesIssued (stopGateways u need) := by
  intro w hI
  simp only [stopGateways, bind, EStateM.bind, getSnap_apply, modifyUpstreams_apply]
  refine preserves_cancelAll _ _ (hI.of_narrows ?_ hI.bounded (Nat.le_refl _))
  rw [ConfigSnapshot.upstreamsOf_modifyUpstreams]
  refine ⟨.refl _, .insert fun dc f hf => ?_⟩
  rw [GoMap.lookup_retain] at hf
  split_ifs at hf
  exact hf

theorem preserves_resetWatchesFromChain (u : String) (c : Option CompiledDiscoveryChain) :
    Preserves AllHandlesIssued (resetWatchesFromChain s u c) := by
  cases c with
  | none => exact preserves_fail _
  | some c =>
      refine (preserves_modifyUpstreams fun _ => ?_).bind fun _ =>
        (preserves_stopTargets u).bind fun _ => (preserves_watchTargets s u _).bind fun _ =>
        (preserves_watchChainTarget s u c).bind fun _ =>
        (preserves_watchGateways s u _).bind fun _ => preserves_stopGateways u _
      exact ⟨.ensure _ u, .ensure _ u⟩

theorem preserves_recordPassthroughs (nodes : List CheckServiceNode) :
    Preserves AllHandlesIssued (recordPassthroughs nodes) := by
  induction nodes with
  | nil => exact preserves_pure ()
  | cons node rest ih =>
      refine Preserves.bind ?_ fun _ => ih
      refine preserves_getSnap.bind fun snap => ?_
      split
      · split
        · exact preserves_crash _
        · split
          · exact preserves_crash _
          · exact preserves_modifyUpstreams fun _ => .of_eq rfl rfl
      · exact preserves_pure ()

/-- Every delivery `handleUpdateUpstreams` takes keeps the handles issued. -/
theorem preserves_handleUpdateUpstreams (u : UpdateEvent) :
    Preserves AllHandlesIssued (handleUpdateUpstreams s u) := by
  unfold handleUpdateUpstreams
  split
  · exact preserves_fail _
  · refine Preserves.ite (fun _ => ?_) fun _ => Preserves.ite (fun _ => ?_) fun _ =>
      Preserves.ite (fun _ => ?_) fun _ => Preserves.ite (fun _ => ?_) fun _ => preserves_fail _
    · unfold handleLeaf
      split
      exacts [preserves_modifyUpstreams fun _ => .of_eq rfl rfl, preserves_fail _]
    · unfold handleDiscoveryChain
      split
      · refine (preserves_modifyUpstreams fun _ => ?_).bind fun _ =>
          preserves_resetWatchesFromChain s _ _
        exact .of_eq rfl rfl
      · exact preserves_fail _
    · unfold handleUpstreamTarget
      split
      · split
        · refine (preserves_modifyUpstreams fun _ => ?_).bind fun _ =>
            preserves_recordPassthroughs _
          exact .of_eq rfl rfl
        · exact preserves_fail _
      · exact preserves_fail _
    · unfold handleMeshGateway
      split
      · split
        exacts [preserves_modifyUpstreams fun _ => .of_eq rfl rfl, preserves_fail _]
      · exact preserves_fail _

/-- `watchDiscoveryChain` stores the chain watch's function in a map of its own, whichever
kind's. -/
theorem preserves_watchDiscoveryChain (id : String) :
    Preserves AllHandlesIssued (watchDiscoveryChain s id) := by
  refine preserves_getSnap.bind fun _ => Preserves.ite (fun _ => preserves_pure _) fun _ => ?_
  refine (preserves_notifyWithCancel _ _).bind fun (f, err) => ?_
  cases err with
  | some e => exact (preserves_cancel f).bind fun _ => preserves_pure _
  | none =>
      dsimp only
      split
      · refine (preserves_modifyIngressGateway fun _ => ?_).bind fun _ => preserves_pure _
        exact .of_eq rfl rfl
      · refine (preserves_modifyConnectProxy fun _ => ?_).bind fun _ => preserves_pure _
        exact .of_eq rfl rfl
      · exact (preserves_cancel f).bind fun _ => preserves_pure _

end Upstreams

end handlerUpstreams

/-! ## The connect proxy -/

namespace handlerConnectProxy

open handlerUpstreams

variable (s : HandlerState)

theorem preserves_handleRoots (r : Result) : Preserves AllHandlesIssued (handleRoots r) := by
  unfold handleRoots
  split
  · refine preserves_modifySnap fun _ => ?_
    exact .of_eq rfl rfl
  · exact preserves_fail _

theorem preserves_modifyOwnUpstreams {f : ConfigSnapshotUpstreams → ConfigSnapshotUpstreams}
    (h : ∀ us, Narrows (f us) us) : Preserves AllHandlesIssued (modifyOwnUpstreams f) :=
  preserves_modifyConnectProxy fun cp => h cp.configSnapshotUpstreams

theorem preserves_adoptWildcardDefaults (svc : ServiceName) :
    Preserves AllHandlesIssued (adoptWildcardDefaults svc) := by
  refine preserves_getSnap.bind fun _ => ?_
  dsimp only
  split
  · split
    · exact preserves_modifyOwnUpstreams fun _ => .of_eq rfl rfl
    · exact preserves_pure ()
  · exact preserves_pure ()

theorem preserves_watchIntentionUpstreams (services : List ServiceName) :
    Preserves AllHandlesIssued (watchIntentionUpstreams s services) := by
  induction services with
  | nil => exact preserves_pure ()
  | cons svc rest ih =>
      refine Preserves.bind ?_ fun _ => ih
      refine (preserves_adoptWildcardDefaults svc).bind fun _ =>
        (preserves_watchDiscoveryChain s _).bind fun err => ?_
      cases err
      exacts [preserves_pure (), preserves_fail _]

/-- The cleanup after an intention-upstreams delivery only takes entries out. -/
theorem preserves_handleIntentionUpstreams (r : Result) :
    Preserves AllHandlesIssued (handleIntentionUpstreams s r) := by
  cases r with
  | indexedServiceList services =>
      refine (preserves_watchIntentionUpstreams s services).bind fun _ =>
        preserves_getSnap.bind fun _ => (preserves_modifyOwnUpstreams fun _ => ?_).bind fun _ =>
        preserves_cancelAll _
      exact ⟨.retain _ _, .retain _ _⟩
  | _ => exact preserves_fail _

/-- Every delivery a connect proxy takes keeps the handles issued. -/
theorem preserves_handleUpdate (u : UpdateEvent) :
    Preserves AllHandlesIssued (handleUpdate s u) := by
  unfold handleUpdate
  split
  · exact preserves_fail _
  · refine Preserves.ite (fun _ => preserves_handleRoots _) fun _ => Preserves.ite (fun _ => ?_)
      fun _ => Preserves.ite (fun _ => preserves_handleIntentionUpstreams s _) fun _ =>
      Preserves.ite (fun _ => ?_) fun _ => Preserves.ite (fun _ => ?_) fun _ =>
      Preserves.ite (fun _ => ?_) fun _ => preserves_handleUpdateUpstreams s u
    -- the connect proxy's own cases write outside the upstreams record, or fail
    all_goals
      first
        | unfold handleIntentions | unfold handlePreparedQuery | unfold handleServiceChecks
        | unfold handleMeshConfig
      split <;> first
        | exact preserves_fail _
        | exact preserves_modifyConnectProxy fun _ => .of_eq rfl rfl

theorem preserves_initUpstream (u : Upstream) : Preserves AllHandlesIssued (initUpstream s u) := by
  refine Preserves.ite (fun _ => ?_) fun _ => Preserves.ite (fun _ => preserves_pure ()) fun _ =>
    (preserves_modifyOwnUpstreams fun _ => ?_).bind fun _ => ?_
  · exact preserves_modifyOwnUpstreams fun _ => .of_eq rfl rfl
  · exact .of_eq rfl rfl
  · dsimp only
    refine Preserves.ite (fun _ => preserves_pure ()) fun _ =>
      Preserves.ite (fun _ => preserves_watchRootOrFail _ _) fun _ =>
      Preserves.ite (fun _ => (preserves_notifyRoot _ _).bind fun err => ?_) fun _ =>
      preserves_fail _
    cases err
    exacts [preserves_pure (), preserves_fail _]

theorem preserves_initWatches : Preserves AllHandlesIssued (initWatches s) := by
  have hups : ∀ us, Preserves AllHandlesIssued (initUpstreams s us) := by
    intro us
    induction us with
    | nil => exact preserves_pure ()
    | cons u rest ih => exact (preserves_initUpstream s u).bind fun _ => ih
  refine (preserves_modifyOwnUpstreams fun _ => ?_).bind fun _ =>
    (preserves_watchRootOrFail _ _).bind fun _ => (preserves_watchRootOrFail _ _).bind fun _ =>
    (preserves_watchRootOrFail _ _).bind fun _ => (preserves_watchRootOrFail _ _).bind fun _ => ?_
  · exact .of_eq rfl rfl
  · dsimp only
    exact Preserves.ite (fun _ => (preserves_watchRootOrFail _ _).bind fun _ =>
      (preserves_watchRootOrFail _ _).bind fun _ => hups _) fun _ =>
      (preserves_pure ()).bind fun _ => hups _

end handlerConnectProxy

/-! ## The ingress gateway -/

namespace handlerIngressGateway

open handlerUpstreams

variable (s : HandlerState)

theorem preserves_watchIngressLeafCert : Preserves AllHandlesIssued (watchIngressLeafCert s) := by
  refine preserves_getSnap.bind fun _ => ?_
  dsimp only
  split
  · refine (preserves_cancelAll _).bind fun _ =>
      (preserves_notifyWithCancel _ _).bind fun (f, err) => ?_
    cases err with
    | some e => exact (preserves_cancel f).bind fun _ => preserves_fail _
    | none => exact preserves_modifyIngressGateway fun _ => .of_eq rfl rfl
  · exact preserves_pure ()

theorem preserves_watchGatewayUpstreams (services : List GatewayService) :
    Preserves AllHandlesIssued (watchGatewayUpstreams s services) := by
  induction services with
  | nil => exact preserves_pure ()
  | cons service rest ih =>
      refine Preserves.bind ?_ fun _ => ih
      refine (preserves_watchDiscoveryChain s _).bind fun err => ?_
      cases err
      exacts [preserves_pure (), preserves_fail _]

/-- Every delivery an ingress gateway takes keeps the handles issued. -/
theorem preserves_handleUpdate (u : UpdateEvent) :
    Preserves AllHandlesIssued (handleUpdate s u) := by
  unfold handleUpdate
  split
  · exact preserves_fail _
  · refine Preserves.ite (fun _ => handlerConnectProxy.preserves_handleRoots _) fun _ =>
      Preserves.ite (fun _ => ?_) fun _ => Preserves.ite (fun _ => ?_) fun _ =>
      preserves_handleUpdateUpstreams s u
    · unfold handleGatewayConfig
      split
      · refine (preserves_modifyIngressGateway fun _ => ?_).bind fun _ =>
          preserves_watchIngressLeafCert s
        exact .of_eq rfl rfl
      · exact preserves_fail _
      · exact preserves_fail _
    · unfold handleGatewayServices
      split
      · refine (preserves_watchGatewayUpstreams s _).bind fun _ =>
          (preserves_modifyIngressGateway fun _ => ?_).bind fun _ => preserves_getSnap.bind fun _ =>
          (preserves_modifyIngressGateway fun _ => ?_).bind fun _ => (preserves_cancelAll _).bind
          fun _ => preserves_watchIngressLeafCert s
        exacts [.of_eq rfl rfl, .of_eq rfl rfl]
      · exact preserves_fail _

theorem preserves_initWatches : Preserves AllHandlesIssued (initWatches s) :=
  (preserves_watchRootOrFail _ _).bind fun _ => (preserves_watchRootOrFail _ _).bind fun _ =>
    preserves_watchRootOrFail _ _

end handlerIngressGateway

namespace handlerUpstreams

end handlerUpstreams

end ConsulAgent
