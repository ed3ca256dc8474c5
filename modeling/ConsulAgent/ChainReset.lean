/-
The chain reset of `handlerUpstreams`, phase by phase: one lemma per phase says what it leaves,
and the result of a discovery-chain delivery is assembled from them.
-/
import ConsulAgent.Routing

namespace ConsulAgent

/-! ## Fresh contexts -/

namespace Subscriptions

/-- Every live subscription is on a context already handed out. -/
def Bounded (a : Subscriptions) : Prop :=
  ∀ c id, (c, id) ∈ a.live → c < a.nextContext

/-- `b` comes from `a` by subscriptions on fresh contexts: each context `a` handed out keeps its
subscriptions. -/
def Extends (a b : Subscriptions) : Prop :=
  a.nextContext ≤ b.nextContext ∧
    ∀ c id, c < a.nextContext → ((c, id) ∈ b.live ↔ (c, id) ∈ a.live)

/-- Cancel function `f` is on a context opened at `n` or later, and that context carries exactly
one subscription, for `id`. -/
def Carries (a : Subscriptions) (n : Nat) (f : CancelFunc) (id : String) : Prop :=
  n ≤ f.context ∧ f.context < a.nextContext ∧ ∀ id', (f.context, id') ∈ a.live ↔ id' = id

variable {a b d : Subscriptions} {n m : Nat} {f : CancelFunc} {x : String}

theorem Extends.refl (a : Subscriptions) : a.Extends a :=
  ⟨Nat.le_refl _, fun _ _ _ => Iff.rfl⟩

theorem Extends.trans (hab : a.Extends b) (hbd : b.Extends d) : a.Extends d :=
  ⟨Nat.le_trans hab.1 hbd.1, fun c id hc =>
    (hbd.2 c id (Nat.lt_of_lt_of_le hc hab.1)).trans (hab.2 c id hc)⟩

theorem Bounded.subscribe (h : a.Bounded) (x : String) : (a.subscribe x).Bounded := by
  intro c id hmem
  rcases List.mem_cons.1 hmem with hc | hmem
  · cases hc
    exact Nat.lt_succ_self _
  · exact Nat.lt_succ_of_lt (h c id hmem)

theorem Carries.mono (hf : a.Carries n f x) (hmn : m ≤ n) : a.Carries m f x :=
  ⟨Nat.le_trans hmn hf.1, hf.2⟩

/-- A change that keeps each old context's subscriptions, except on contexts `P` names, all
opened before `n`, leaves what a context opened since `n` carries. -/
theorem Carries.of_live {P : Nat → Prop} (hf : a.Carries n f x)
    (hnext : a.nextContext ≤ b.nextContext)
    (hlive : ∀ c id, c < a.nextContext → ((c, id) ∈ b.live ↔ (c, id) ∈ a.live ∧ ¬ P c))
    (hP : ∀ c, P c → c < n) : b.Carries n f x :=
  ⟨hf.1, Nat.lt_of_lt_of_le hf.2.1 hnext, fun id => ((hlive _ id hf.2.1).trans
    (and_iff_left fun hc => Nat.lt_irrefl _ (Nat.lt_of_lt_of_le (hP _ hc) hf.1))).trans (hf.2.2 id)⟩

/-- A context carries one subscription: two `Carries` of one cancel function name one id. -/
theorem Carries.id_eq {y : String} (hx : a.Carries n f x) (hy : a.Carries m f y) : x = y :=
  (hy.2.2 x).1 ((hx.2.2 x).2 rfl)

end Subscriptions

namespace handlerUpstreams

open HandlerM Subscriptions

variable {s : HandlerState}

/-! ## What each phase leaves -/

/-- The cancel functions held for upstream `u` were handed out by earlier `WithCancel` calls,
each once, as Go's contexts are: every live subscription and every held cancel function is on a
context already handed out, no two gateway entries hold one function, and no target entry holds
a gateway's. -/
structure HandlesIssued (u : String) (w : ProxyState) : Prop where
  bounded : w.subs.Bounded
  target_lt : ∀ k f, (w.snap.upstreamsOf.watchedUpstreams.inner u).lookup k = some f →
    f.context < w.subs.nextContext
  gateway_lt : ∀ dc f, (w.snap.upstreamsOf.watchedGateways.inner u).lookup dc = some f →
    f.context < w.subs.nextContext
  gateway_unique : ∀ dc₁ dc₂ f,
    (w.snap.upstreamsOf.watchedGateways.inner u).lookup dc₁ = some f →
    (w.snap.upstreamsOf.watchedGateways.inner u).lookup dc₂ = some f → dc₁ = dc₂
  target_ne_gateway : ∀ k dc f,
    (w.snap.upstreamsOf.watchedUpstreams.inner u).lookup k = some f →
    (w.snap.upstreamsOf.watchedGateways.inner u).lookup dc ≠ some f

/-- With no target or gateway entry for `u` and every live subscription on a context handed out,
the handles of `u` are issued. -/
theorem HandlesIssued.of_empty {u : String} {w : ProxyState} (hb : w.subs.Bounded)
    (hT : ∀ k, (w.snap.upstreamsOf.watchedUpstreams.inner u).lookup k = none)
    (hG : ∀ dc, (w.snap.upstreamsOf.watchedGateways.inner u).lookup dc = none) :
    HandlesIssued u w where
  bounded := hb
  target_lt k _ h := by simp [hT k] at h
  gateway_lt dc _ h := by simp [hG dc] at h
  gateway_unique dc _ _ h := by simp [hG dc] at h
  target_ne_gateway k _ _ h := by simp [hT k] at h

/-- In the snapshot `Watch` starts from, the handles of every upstream are issued. -/
theorem HandlesIssued.start (s : HandlerState) (u : String) :
    HandlesIssued u ⟨newConfigSnapshotFromServiceInstance s, {}⟩ := by
  refine .of_empty (fun _ _ h => absurd h (List.not_mem_nil _)) (fun k => ?_) fun dc => ?_ <;>
    by_cases hk : s.kind = .ingressGateway <;>
    simp [newConfigSnapshotFromServiceInstance, ConfigSnapshot.upstreamsOf, GoMap.inner, hk]

/-- A change that keeps every target and gateway entry of `u` among the old ones, keeps the
subscriptions on contexts handed out and never moves `nextContext` back keeps the handles of `u`
issued. -/
theorem HandlesIssued.of_sub {u : String} {w w' : ProxyState} (hI : HandlesIssued u w)
    (hb : w'.subs.Bounded) (hnext : w.subs.nextContext ≤ w'.subs.nextContext)
    (hT : ∀ k f, (w'.snap.upstreamsOf.watchedUpstreams.inner u).lookup k = some f →
      (w.snap.upstreamsOf.watchedUpstreams.inner u).lookup k = some f)
    (hG : ∀ dc f, (w'.snap.upstreamsOf.watchedGateways.inner u).lookup dc = some f →
      (w.snap.upstreamsOf.watchedGateways.inner u).lookup dc = some f) : HandlesIssued u w' :=
  ⟨hb, fun k f hf => Nat.lt_of_lt_of_le (hI.target_lt k f (hT k f hf)) hnext,
    fun dc f hf => Nat.lt_of_lt_of_le (hI.gateway_lt dc f (hG dc f hf)) hnext,
    fun dc₁ dc₂ f h₁ h₂ => hI.gateway_unique dc₁ dc₂ f (hG dc₁ f h₁) (hG dc₂ f h₂),
    fun k dc f hk hdc => hI.target_ne_gateway k dc f (hT k f hk) (hG dc f hdc)⟩

end handlerUpstreams

end ConsulAgent
