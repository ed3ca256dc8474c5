/-
The leaf certificate watch of an ingress gateway: whatever its collaborators answer, every live
leaf subscription is on the context of the function `LeafCertWatchCancel` holds.
-/
import ConsulAgent.Routing
import ConsulAgent.Watches

namespace ConsulAgent

@[simp] theorem ConfigSnapshot.leafCertWatchCancel_modifyUpstreams
    (f : ConfigSnapshotUpstreams → ConfigSnapshotUpstreams) (snap : ConfigSnapshot) :
    (snap.modifyUpstreams f).ingressGateway.leafCertWatchCancel =
      snap.ingressGateway.leafCertWatchCancel := by
  cases snap; simp only [ConfigSnapshot.modifyUpstreams]; split_ifs <;> rfl

open HandlerM

namespace handlerUpstreams

/-- A property of proxy states that each primitive step of `handleUpdateUpstreams` keeps: a write
through the upstreams pointer, a target or mesh-gateway subscription on a fresh context, a fresh
context whose `Notify` was refused, and a cancel. -/
structure UpstreamsClosed (I : ProxyState → Prop) : Prop where
  write : ∀ w g, I w → I { w with snap := w.snap.modifyUpstreams g }
  target : ∀ w k u, I w → I { w with subs := w.subs.subscribe (upstreamTargetID k u) }
  gateway : ∀ w dc u, I w → I { w with subs := w.subs.subscribe (meshGatewayUpstreamID dc u) }
  skip : ∀ w, I w → I { w with subs := w.subs.skip }
  cancelled : ∀ w ctx, I w → I { w with subs := w.subs.cancel ctx }

namespace UpstreamsClosed

variable {I : ProxyState → Prop} (hI : UpstreamsClosed I) (s : HandlerState)
include hI

theorem preserves_modifyUpstreams (g : ConfigSnapshotUpstreams → ConfigSnapshotUpstreams) :
    Preserves I (modifyUpstreams g) :=
  fun w => hI.write w g

theorem preserves_cancel (f : CancelFunc) : Preserves I (cancel f) :=
  fun w => hI.cancelled w f.context

theorem preserves_cancelAll (fs : List CancelFunc) : Preserves I (cancelAll fs) := by
  induction fs with
  | nil => exact fun _ h => h
  | cons f rest ih => exact (hI.preserves_cancel f).bind fun _ => ih

/-- A fresh context for a subscription `I` allows, whether `Notify` accepts it or not. -/
theorem preserves_notifyWithCancel {c : CacheNotifier} {id : String}
    (hsub : ∀ w, I w → I { w with subs := w.subs.subscribe id }) :
    Preserves I (notifyWithCancel c id) := by
  intro w h
  unfold notifyWithCancel
  split
  exacts [hsub w h, hI.skip w h]

theorem preserves_watchUpstreamTarget (u k : String) : Preserves I (watchUpstreamTarget s u k) := by
  refine (hI.preserves_notifyWithCancel fun w => hI.target w k u).bind fun (f, err) => ?_
  cases err
  · exact (hI.preserves_modifyUpstreams _).bind fun _ _ h => h
  · exact (hI.preserves_cancel f).bind fun _ _ h => h

theorem preserves_watchTargets (u : String) (ts : List DiscoveryTarget) :
    Preserves I (watchTargets s u ts) := by
  induction ts with
  | nil => exact fun _ h => h
  | cons t rest ih =>
      refine (hI.preserves_watchUpstreamTarget s u t.id).bind fun err => ?_
      cases err
      exacts [ih, fun _ h => h]

theorem preserves_watchChainTarget (u : String) (c : CompiledDiscoveryChain) :
    Preserves I (watchChainTarget s u c) := by
  unfold watchChainTarget
  split
  · refine (hI.preserves_watchUpstreamTarget s u c.id).bind fun _ => ?_
    split <;> exact fun _ h => h
  · exact fun _ h => h

theorem preserves_watchGateways (u : String) (dcs : List String) :
    Preserves I (watchGateways s u dcs) := by
  induction dcs with
  | nil => exact fun _ h => h
  | cons dc rest ih =>
      refine Preserves.bind (x := getSnap) (fun _ h => h) fun _ =>
        Preserves.ite (fun _ => ih) fun _ => ?_
      refine (hI.preserves_notifyWithCancel fun w => hI.gateway w dc u).bind fun (f, err) => ?_
      cases err
      · exact (hI.preserves_modifyUpstreams _).bind fun _ => ih
      · exact (hI.preserves_cancel f).bind fun _ _ h => h

theorem preserves_stopTargets (u : String) : Preserves I (stopTargets u) :=
  Preserves.bind (x := getSnap) (fun _ h => h) fun _ =>
    (hI.preserves_modifyUpstreams _).bind fun _ => hI.preserves_cancelAll _

theorem preserves_stopGateways (u : String) (need : GoMap String Unit) :
    Preserves I (stopGateways u need) :=
  Preserves.bind (x := getSnap) (fun _ h => h) fun _ =>
    (hI.preserves_modifyUpstreams _).bind fun _ => hI.preserves_cancelAll _

theorem preserves_resetWatchesFromChain (u : String) (c : Option CompiledDiscoveryChain) :
    Preserves I (resetWatchesFromChain s u c) := by
  cases c with
  | none => exact fun _ h => h
  | some c =>
      exact (hI.preserves_modifyUpstreams _).bind fun _ => (hI.preserves_stopTargets u).bind
        fun _ => (hI.preserves_watchTargets s u _).bind fun _ =>
        (hI.preserves_watchChainTarget s u c).bind fun _ =>
        (hI.preserves_watchGateways s u _).bind fun _ => hI.preserves_stopGateways u _

theorem preserves_recordPassthroughs (nodes : List CheckServiceNode) :
    Preserves I (recordPassthroughs nodes) := by
  induction nodes with
  | nil => exact fun _ h => h
  | cons node rest ih =>
      refine Preserves.bind ?_ fun _ => ih
      refine Preserves.bind (x := getSnap) (fun _ h => h) fun snap => ?_
      split
      · split
        · exact fun _ h => h
        · split
          exacts [fun _ h => h, hI.preserves_modifyUpstreams _]
      · exact fun _ h => h

/-- Every delivery `handleUpdateUpstreams` takes keeps every property its primitive steps keep. -/
theorem preserves_handleUpdateUpstreams (u : UpdateEvent) :
    Preserves I (handleUpdateUpstreams s u) := by
  unfold handleUpdateUpstreams
  split
  · exact fun _ h => h
  · refine Preserves.ite (fun _ => ?_) fun _ => Preserves.ite (fun _ => ?_) fun _ =>
      Preserves.ite (fun _ => ?_) fun _ => Preserves.ite (fun _ => ?_) fun _ _ h => h
    · unfold handleLeaf
      split
      exacts [hI.preserves_modifyUpstreams _, fun _ h => h]
    · unfold handleDiscoveryChain
      split
      exacts [(hI.preserves_modifyUpstreams _).bind fun _ =>
        hI.preserves_resetWatchesFromChain s _ _, fun _ h => h]
    · unfold handleUpstreamTarget
      split
      · split
        exacts [(hI.preserves_modifyUpstreams _).bind fun _ => hI.preserves_recordPassthroughs _,
          fun _ h => h]
      · exact fun _ h => h
    · unfold handleMeshGateway
      split
      · split
        exacts [hI.preserves_modifyUpstreams _, fun _ h => h]
      · exact fun _ h => h

end UpstreamsClosed

end handlerUpstreams

/-! ## The leaf watch -/

/-- Every live leaf subscription is on the context of the cancel function `LeafCertWatchCancel`
holds. -/
def LeafHeld (w : ProxyState) : Prop :=
  ∀ c, (c, leafWatchID) ∈ w.subs.live →
    w.snap.ingressGateway.leafCertWatchCancel = some ⟨c⟩

namespace LeafHeld

variable {w w' : ProxyState}

/-- A step that keeps the held function and opens no leaf subscription keeps the leaf watch
held. -/
theorem of_live (h : LeafHeld w)
    (hheld : w'.snap.ingressGateway.leafCertWatchCancel = w.snap.ingressGateway.leafCertWatchCancel)
    (hlive : ∀ c, (c, leafWatchID) ∈ w'.subs.live → (c, leafWatchID) ∈ w.subs.live) :
    LeafHeld w' :=
  fun c hc => hheld.trans (h c (hlive c hc))

theorem subscribe (h : LeafHeld w) {id : String} (hid : id ≠ leafWatchID) :
    LeafHeld { w with subs := w.subs.subscribe id } :=
  h.of_live rfl fun _ hc => (List.mem_cons.1 hc).resolve_left fun e => hid (Prod.mk.inj e).2.symm

theorem upstreamsClosed : handlerUpstreams.UpstreamsClosed LeafHeld where
  write w g h := h.of_live (ConfigSnapshot.leafCertWatchCancel_modifyUpstreams g w.snap) fun _ => id
  target _ k u h := h.subscribe (ne_of_hasPrefix (hasPrefix_upstreamTargetID k u) (by decide))
  gateway _ dc u h :=
    h.subscribe (ne_of_hasPrefix (hasPrefix_meshGatewayUpstreamID dc u) (by decide))
  skip _ h := h
  cancelled _ _ h := h.of_live rfl fun _ hc => (List.mem_filter.1 hc).1

theorem preserves_watchRootOrFail (c : CacheNotifier) {id : String} (hid : id ≠ leafWatchID) :
    Preserves LeafHeld (watchRootOrFail c id) := by
  refine Preserves.bind (fun w h => ?_) fun r => ?_
  · unfold notifyRoot
    split
    · exact h.of_live rfl fun _ hc =>
        (List.mem_cons.1 hc).resolve_left fun e => hid (Prod.mk.inj e).2.symm
    · exact h
  · cases r <;> exact fun _ h => h

theorem preserves_modifyIngressGateway
    {f : ConfigSnapshotIngressGateway → ConfigSnapshotIngressGateway}
    (hf : ∀ ig, (f ig).leafCertWatchCancel = ig.leafCertWatchCancel) :
    Preserves LeafHeld (modifyIngressGateway f) :=
  fun _ h => h.of_live (hf _) fun _ => id

/-- `watchDiscoveryChain` opens a chain watch and stores its function in a chain map. -/
theorem preserves_watchDiscoveryChain (s : HandlerState) (id : String) :
    Preserves LeafHeld (handlerUpstreams.watchDiscoveryChain s id) := by
  refine Preserves.bind (x := getSnap) (fun _ h => h) fun _ =>
    Preserves.ite (fun _ _ h => h) fun _ => ?_
  refine (upstreamsClosed.preserves_notifyWithCancel fun _ h =>
    h.subscribe (ne_of_hasPrefix (hasPrefix_discoveryChainID id) (by decide))).bind
    fun (f, err) => ?_
  cases err with
  | some e => exact (upstreamsClosed.preserves_cancel f).bind fun _ _ h => h
  | none =>
      dsimp only
      split
      · refine (preserves_modifyIngressGateway fun _ => ?_).bind fun _ _ h => h
        rfl
      · refine Preserves.bind ?_ fun _ _ h => h
        exact fun _ h => h
      · exact (upstreamsClosed.preserves_cancel f).bind fun _ _ h => h

/-- `watchIngressLeafCert` calls the held function before it opens the next watch, which it then
holds; when `Notify` refuses, no leaf subscription is left live. -/
theorem preserves_watchIngressLeafCert (s : HandlerState) :
    Preserves LeafHeld (handlerIngressGateway.watchIngressLeafCert s) := by
  intro w h
  unfold handlerIngressGateway.watchIngressLeafCert
  rw [bind_ok (getSnap_apply w)]
  dsimp only
  split
  · obtain ⟨_, w₁, h₁⟩ :=
      total_cancelAll w.snap.ingressGateway.leafCertWatchCancel.toList w
    have hnone : ∀ c, (c, leafWatchID) ∉ w₁.subs.live := by
      intro c hc
      have hc := (mem_live_cancelAll _ w c leafWatchID).1 (by rw [h₁]; exact hc)
      exact hc.2 (by rw [h c hc.1]; exact List.mem_singleton_self _)
    rw [bind_ok h₁]
    cases hn : s.cache.notify w₁.subs.nextContext leafWatchID with
    | none =>
        have hN : notifyWithCancel s.cache leafWatchID w₁ =
            .ok (⟨w₁.subs.nextContext⟩, none)
              ⟨w₁.snap, w₁.subs.subscribe leafWatchID⟩ := by
          simp only [notifyWithCancel, hn]
        rw [bind_ok hN]
        intro c hc
        rcases List.mem_cons.1 hc with hc | hc
        · rw [(Prod.mk.inj hc).1]
          rfl
        · exact absurd hc (hnone c)
    | some e =>
        have hN : notifyWithCancel s.cache leafWatchID w₁ =
            .ok (⟨w₁.subs.nextContext⟩, some e) ⟨w₁.snap, w₁.subs.skip⟩ := by
          simp only [notifyWithCancel, hn]
        rw [bind_ok hN]
        exact fun c hc => absurd (List.mem_filter.1 hc).1 (hnone c)
  · exact h

theorem preserves_watchGatewayUpstreams (s : HandlerState) (services : List GatewayService) :
    Preserves LeafHeld (handlerIngressGateway.watchGatewayUpstreams s services) := by
  induction services with
  | nil => exact fun _ h => h
  | cons service rest ih =>
      refine Preserves.bind ?_ fun _ => ih
      refine (preserves_watchDiscoveryChain s _).bind fun err => ?_
      cases err <;> exact fun _ h => h

/-- Every delivery an ingress gateway takes keeps its leaf watch held. -/
theorem preserves_handleUpdate (s : HandlerState) (u : UpdateEvent) :
    Preserves LeafHeld (handlerIngressGateway.handleUpdate s u) := by
  unfold handlerIngressGateway.handleUpdate
  split
  · exact fun _ h => h
  · refine Preserves.ite (fun _ => ?_) fun _ => Preserves.ite (fun _ => ?_) fun _ =>
      Preserves.ite (fun _ => ?_) fun _ => upstreamsClosed.preserves_handleUpdateUpstreams s u
    · unfold handleRoots
      split <;> exact fun _ h => h
    · unfold handlerIngressGateway.handleGatewayConfig
      split
      · refine (preserves_modifyIngressGateway fun _ => ?_).bind fun _ =>
          preserves_watchIngressLeafCert s
        rfl
      · exact fun _ h => h
      · exact fun _ h => h
    · unfold handlerIngressGateway.handleGatewayServices
      split
      · refine (preserves_watchGatewayUpstreams s _).bind fun _ =>
          (preserves_modifyIngressGateway fun _ => ?_).bind fun _ =>
          Preserves.bind (x := getSnap) (fun _ h => h) fun _ =>
          (preserves_modifyIngressGateway fun _ => ?_).bind fun _ =>
          (upstreamsClosed.preserves_cancelAll _).bind fun _ => preserves_watchIngressLeafCert s
        all_goals rfl
      · exact fun _ h => h

theorem preserves_initWatches (s : HandlerState) :
    Preserves LeafHeld (handlerIngressGateway.initWatches s) :=
  (preserves_watchRootOrFail _ (by decide)).bind fun _ =>
    (preserves_watchRootOrFail _ (by decide)).bind fun _ => preserves_watchRootOrFail _ (by decide)

end LeafHeld

/-- Whatever its collaborators answer, an ingress gateway keeps at most one leaf certificate
watch: in every state it reaches, every live leaf subscription is on the context of the function
`LeafCertWatchCancel` holds, so calling that function ends them all. -/
theorem ingress_leaf_watch_held {p : ProxyHandler} (hp : p.handler = .ingressGateway)
    {w : ProxyState} (hw : Reachable p w) :
    (∀ c, (c, leafWatchID) ∈ w.subs.live →
      w.snap.ingressGateway.leafCertWatchCancel = some ⟨c⟩) ∧
    ∀ c c', (c, leafWatchID) ∈ w.subs.live → (c', leafWatchID) ∈ w.subs.live →
      c = c' := by
  have h : LeafHeld w := by
    refine Reachable.induction_of_preserves (fun _ hc => absurd hc (List.not_mem_nil _)) ?_
      (fun u => ?_) hw <;> rw [hp]
    exacts [LeafHeld.preserves_initWatches _, LeafHeld.preserves_handleUpdate _ u]
  refine ⟨h, fun c c' hc hc' => ?_⟩
  simpa using (h c hc).symm.trans (h c' hc')

theorem ingress_relinked_leaf_watch_held :
    ∃ w, Reachable ingressProxy w ∧
      ((2, leafWatchID) ∈ w.subs.live ∧ (1, leafWatchID) ∉ w.subs.live) ∧
      ((∀ c, (c, leafWatchID) ∈ w.subs.live →
        w.snap.ingressGateway.leafCertWatchCancel = some ⟨c⟩) ∧
      ∀ c c', (c, leafWatchID) ∈ w.subs.live → (c', leafWatchID) ∈ w.subs.live →
        c = c') :=
  let ⟨w, hw, hP⟩ := exists_reachable_of_run (p := ingressProxy)
    [⟨gatewayConfigWatchID, .configEntryResponse (some (.ingressGateway true)), none⟩,
      linkServices [], linkServices []]
    (P := fun w => (2, leafWatchID) ∈ w.subs.live ∧ (1, leafWatchID) ∉ w.subs.live)
    (by decide)
  ⟨w, hw, hP, ingress_leaf_watch_held rfl hw⟩

end ConsulAgent
