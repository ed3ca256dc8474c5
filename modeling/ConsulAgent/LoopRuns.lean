/-
Whole runs of `state.run`: what the loop keeps between moves, derived from its six move shapes,
and that the loop refines the handler's reachable states.
-/
import ConsulAgent.Run
import ConsulAgent.Watches

namespace ConsulAgent

variable {Snap Ev : Type} {env : LoopEnv Snap Ev} {l l' : Loop Snap}

/-! ## What one move can do -/

theorem armIfValid_cases (env : LoopEnv Snap Ev) (l : Loop Snap) :
    (env.valid l.snap = true ∧ l.coalesceTimer = false ∧
      armIfValid env l = { l with coalesceTimer := true, pending := l.pending + 1 }) ∨
    armIfValid env l = l := by
  unfold armIfValid
  split
  · next h =>
    simp only [Bool.and_eq_true, Bool.not_eq_true'] at h
    exact .inl ⟨h.1, h.2, rfl⟩
  · exact .inr rfl

/-- A token's three outcomes: a send, which empties `coalesceTimer`; nothing, when `Clone` fails
or `snapCh` is full while `coalesceTimer` is set; a retry timer, when `snapCh` is full and
`coalesceTimer` is nil. -/
theorem fireTimer_cases (env : LoopEnv Snap Ev) (l : Loop Snap) :
    (∃ copy, env.clone l.snap = some copy ∧ l.snapCh = none ∧
      fireTimer env l =
        { l with snapCh := some copy, lastSent := some l.snap, coalesceTimer := false }) ∨
    ((env.clone l.snap = none ∨ l.snapCh.isSome ∧ l.coalesceTimer = true) ∧ fireTimer env l = l) ∨
    ((env.clone l.snap).isSome ∧ l.snapCh.isSome ∧ l.coalesceTimer = false ∧
      fireTimer env l = { l with coalesceTimer := true, pending := l.pending + 1 }) := by
  unfold fireTimer
  split
  · next hc => exact .inr (.inl ⟨.inl hc, rfl⟩)
  · next copy hc =>
    split
    · next hch => exact .inl ⟨copy, hc, hch, rfl⟩
    · next hch =>
      split
      · next ht => exact .inr (.inl ⟨.inr ⟨by simp [hch], ht⟩, rfl⟩)
      · next ht => exact .inr (.inr ⟨by simp [hc], by simp [hch], by simpa using ht, rfl⟩)

theorem answerRequest_cases (env : LoopEnv Snap Ev) (l : Loop Snap) :
    (env.valid l.snap = false ∧ answerRequest env l = { l with replies := none :: l.replies }) ∨
    (env.valid l.snap = true ∧ env.clone l.snap = none ∧
      answerRequest env l = { l with unanswered := l.unanswered + 1 }) ∨
    (∃ copy, env.valid l.snap = true ∧ env.clone l.snap = some copy ∧
      answerRequest env l = { l with replies := some copy :: l.replies }) := by
  unfold answerRequest
  split
  · next h => exact .inl ⟨by simpa using h, rfl⟩
  · next h =>
    have hv : env.valid l.snap = true := by simpa using h
    split
    · next hc => exact .inr (.inl ⟨hv, hc, rfl⟩)
    · next copy hc => exact .inr (.inr ⟨copy, hv, hc, rfl⟩)

/-- The shapes of a move: `ctx.Done`; a delivery whose handler returned an error, kept with what
it wrote; a delivery handled, then a timer for a valid snapshot; a timer token; a request; a
consumer's read of `snapCh`. -/
inductive LoopMove (env : LoopEnv Snap Ev) (l : Loop Snap) : Loop Snap → Prop
  | done : l.stopped = false → LoopMove env l { l with stopped := true }
  | failed (u : Ev) (s : Snap) : l.stopped = false → env.handleUpdate u l.snap = some (s, true) →
      LoopMove env l { l with snap := s }
  | handled (u : Ev) (s : Snap) : l.stopped = false →
      env.handleUpdate u l.snap = some (s, false) →
      LoopMove env l (armIfValid env { l with snap := s })
  | fire : l.stopped = false → 0 < l.pending →
      LoopMove env l (fireTimer env { l with pending := l.pending - 1 })
  | request : l.stopped = false → LoopMove env l (answerRequest env l)
  | drain : l.snapCh.isSome → LoopMove env l { l with snapCh := none }

theorem loopStep_fire (h : loopStep env l .fire = some l') :
    l.stopped = false ∧ 0 < l.pending ∧ l' = fireTimer env { l with pending := l.pending - 1 } := by
  simp only [loopStep, Bool.or_eq_true, beq_iff_eq, Option.ite_none_left_eq_some, not_or,
    Bool.not_eq_true, Option.some.injEq] at h
  exact ⟨h.1.1, Nat.pos_of_ne_zero h.1.2, h.2.symm⟩

theorem loopMove_of_loopStep {i : LoopInput Ev} (h : loopStep env l i = some l') :
    LoopMove env l l' := by
  cases i with
  | done =>
    simp only [loopStep, Option.ite_none_left_eq_some, Bool.not_eq_true, Option.some.injEq] at h
    exact h.2 ▸ .done h.1
  | update u =>
    simp only [loopStep] at h
    split_ifs at h with hs
    split at h
    · cases h
    · next s hu => cases h; exact .failed u s (Bool.eq_false_iff.2 hs) hu
    · next s hu => cases h; exact .handled u s (Bool.eq_false_iff.2 hs) hu
  | fire =>
    obtain ⟨hs, hp, rfl⟩ := loopStep_fire h
    exact .fire hs hp
  | request =>
    simp only [loopStep, Option.ite_none_left_eq_some, Bool.not_eq_true, Option.some.injEq] at h
    exact h.2 ▸ .request h.1
  | drain =>
    simp only [loopStep] at h
    split at h
    · cases h
    · next hch => cases h; exact .drain (by simp [hch])

/-! ## Timer tokens over whole runs -/

/-- Timer tokens between moves: at most one is out, and only while `coalesceTimer` is set. -/
structure TokenInv (l : Loop Snap) : Prop where
  pending_le_one : l.pending ≤ 1
  timer_of_pending : 0 < l.pending → l.coalesceTimer = true

theorem TokenInv.init (s : Snap) : TokenInv (Loop.init s) :=
  ⟨Nat.zero_le 1, fun h => absurd h (Nat.lt_irrefl 0)⟩

theorem TokenInv.pending_eq_zero (hI : TokenInv l) (ht : l.coalesceTimer = false) : l.pending = 0 :=
  Nat.eq_zero_of_not_pos fun hp => by simp [hI.timer_of_pending hp] at ht

theorem TokenInv.armIfValid (hI : TokenInv l) : TokenInv (armIfValid env l) := by
  rcases armIfValid_cases env l with ⟨-, ht, h⟩ | h <;> rw [h]
  · have := hI.pending_eq_zero ht
    exact ⟨show l.pending + 1 ≤ 1 by omega, fun _ => rfl⟩
  · exact hI

/-- A token is taken only while `coalesceTimer` holds its timer, so the retry branch of the
`sendCh` case is never reached: the token sends, or changes nothing but the count. -/
theorem TokenInv.fire_cases (hI : TokenInv l) (hp : 0 < l.pending) :
    l.pending = 1 ∧
    ((∃ copy, env.clone l.snap = some copy ∧ l.snapCh = none ∧
        fireTimer env { l with pending := l.pending - 1 } =
          { l with
            snapCh := some copy, lastSent := some l.snap, coalesceTimer := false, pending := 0 }) ∨
      ((env.clone l.snap = none ∨ l.snapCh.isSome) ∧
        fireTimer env { l with pending := l.pending - 1 } = { l with pending := 0 })) := by
  have h1 : l.pending = 1 := by have := hI.pending_le_one; omega
  have ht := hI.timer_of_pending hp
  refine ⟨h1, ?_⟩
  rcases fireTimer_cases env { l with pending := l.pending - 1 } with
    ⟨copy, hc, hch, h⟩ | ⟨hun, h⟩ | ⟨-, -, ht', -⟩
  · exact .inl ⟨copy, hc, hch, by rw [h, h1]⟩
  · exact .inr ⟨hun.imp id And.left, by rw [h, h1]⟩
  · simp [ht] at ht'

theorem TokenInv.step (hI : TokenInv l) {i : LoopInput Ev} (h : loopStep env l i = some l') :
    TokenInv l' := by
  cases loopMove_of_loopStep h with
  | done _ => exact ⟨hI.1, hI.2⟩
  | failed _ _ _ _ => exact ⟨hI.1, hI.2⟩
  | handled _ _ _ _ => exact TokenInv.armIfValid ⟨hI.1, hI.2⟩
  | fire _ hp =>
    rcases (hI.fire_cases hp).2 with ⟨_, -, -, h⟩ | ⟨-, h⟩ <;> rw [h] <;>
      exact ⟨Nat.zero_le 1, fun h => absurd h (Nat.lt_irrefl 0)⟩
  | request _ =>
    rcases answerRequest_cases env l with ⟨-, h⟩ | ⟨-, -, h⟩ | ⟨_, -, -, h⟩ <;> rw [h] <;>
      exact ⟨hI.1, hI.2⟩
  | drain _ => exact ⟨hI.1, hI.2⟩

theorem TokenInv.run (hI : TokenInv l) (hrun : Relation.ReflTransGen (LoopStep env) l l') :
    TokenInv l' := by
  induction hrun with
  | refl => exact hI
  | tail _ step ih =>
    obtain ⟨i, hi⟩ := step
    exact ih.step hi

/-- Over every run of the loop `Watch` starts, whatever the handler, `Valid` and `Clone` do and in
whatever order deliveries, tokens, requests, reads and cancellation come, at most one
coalesce-timer token is out, and only while `coalesceTimer` holds its timer. -/
theorem run_holds_one_token (env : LoopEnv Snap Ev) (s : Snap) {l : Loop Snap}
    (hrun : Relation.ReflTransGen (LoopStep env) (Loop.init s) l) :
    l.pending ≤ 1 ∧ (0 < l.pending → l.coalesceTimer = true) :=
  let hI := (TokenInv.init s).run hrun
  ⟨hI.pending_le_one, hI.timer_of_pending⟩

/-- The ingress gateway of the examples in `Run`, holding its first leaf certificate with the
timer armed for it. -/
def ingressLeafArmed : Loop ProxyState :=
  { Loop.init (ingressGatewayHolding (some ⟨"1"⟩)) with coalesceTimer := true, pending := 1 }

theorem ingress_leaf_arms_timer :
    LoopStep (ingressProxy.loopEnv ingressValid some) (Loop.init (ingressGatewayHolding none))
      ingressLeafArmed := by
  have h : (ingressProxy.loopEnv ingressValid some).handleUpdate
      ⟨leafWatchID, .issuedCert ⟨"1"⟩, none⟩ (ingressGatewayHolding none) =
        some (ingressGatewayHolding (some ⟨"1"⟩), false) := by decide
  have hv : (ingressProxy.loopEnv ingressValid some).valid (ingressGatewayHolding (some ⟨"1"⟩)) =
      true := by decide
  exact ⟨.update ⟨leafWatchID, .issuedCert ⟨"1"⟩, none⟩,
    by simp [loopStep, Loop.init, h, armIfValid, hv, ingressLeafArmed]⟩

theorem ingress_leaf_timer_holds_one_token :
    Relation.ReflTransGen (LoopStep (ingressProxy.loopEnv ingressValid some))
        (Loop.init (ingressGatewayHolding none)) ingressLeafArmed ∧
      ingressLeafArmed.pending ≤ 1 ∧
      (0 < ingressLeafArmed.pending → ingressLeafArmed.coalesceTimer = true) :=
  ⟨.single ingress_leaf_arms_timer, run_holds_one_token _ _ (.single ingress_leaf_arms_timer)⟩

/-- Every token the loop takes, in any run from the loop `Watch` starts, either sends a clone of
the snapshot and empties `coalesceTimer`, or finds `Clone` failing or `snapCh` full and leaves the
loop stranded, so that no later run sends again.  The retry timer of the `sendCh` case is never
armed. -/
theorem fire_sends_or_strands (env : LoopEnv Snap Ev) (s : Snap) {l l' : Loop Snap}
    (hrun : Relation.ReflTransGen (LoopStep env) (Loop.init s) l)
    (hfire : loopStep env l .fire = some l') :
    (∃ copy, env.clone l.snap = some copy ∧ l.snapCh = none ∧
      l' = { l with
        snapCh := some copy, lastSent := some l.snap, coalesceTimer := false, pending := 0 }) ∨
    ((env.clone l.snap = none ∨ l.snapCh.isSome) ∧ l' = { l with pending := 0 } ∧
      ∀ l'', Relation.ReflTransGen (LoopStep env) l' l'' →
        Stranded l'' ∧ l''.lastSent = l.lastSent) := by
  have hI := (TokenInv.init s).run hrun
  obtain ⟨-, hp, rfl⟩ := loopStep_fire hfire
  rcases (hI.fire_cases hp).2 with ⟨copy, hc, hch, h⟩ | ⟨hun, h⟩
  · exact .inl ⟨copy, hc, hch, h⟩
  · have hstranded : Stranded { l with pending := 0 } := ⟨hI.timer_of_pending hp, rfl⟩
    rw [h]
    exact .inr ⟨hun, rfl, fun _ hrun' => (run_stranded env hstranded hrun' :)⟩

/-- The first token of the ingress gateway above finds `snapCh` empty and sends. -/
theorem ingress_leaf_token_sends :
    let env := ingressProxy.loopEnv ingressValid some
    let l := ingressLeafArmed
    let l' : Loop ProxyState := { l with
      snapCh := some l.snap, lastSent := some l.snap, coalesceTimer := false, pending := 0 }
    Relation.ReflTransGen (LoopStep env) (Loop.init (ingressGatewayHolding none)) l ∧
      loopStep env l .fire = some l' ∧
      ((∃ copy, env.clone l.snap = some copy ∧ l.snapCh = none ∧
        l' = { l with
          snapCh := some copy, lastSent := some l.snap, coalesceTimer := false, pending := 0 }) ∨
      ((env.clone l.snap = none ∨ l.snapCh.isSome) ∧ l' = { l with pending := 0 } ∧
        ∀ l'', Relation.ReflTransGen (LoopStep env) l' l'' →
          Stranded l'' ∧ l''.lastSent = l.lastSent)) :=
  ⟨.single ingress_leaf_arms_timer, rfl,
    fire_sends_or_strands _ _ (.single ingress_leaf_arms_timer) rfl⟩

/-! ## The loop refines the handler -/

/-- Every snapshot the loop holds or has handed out comes from one with property `R`: its working
snapshot and the one last sent have it, the value in `snapCh` is a clone of one, and every reply
sent is a clone of a valid one. -/
structure LoopHolds (env : LoopEnv Snap Ev) (R : Snap → Prop) (l : Loop Snap) : Prop where
  snap : R l.snap
  lastSent : ∀ s, l.lastSent = some s → R s
  snapCh : ∀ c, l.snapCh = some c → ∃ s, R s ∧ env.clone s = some c
  replies : ∀ c, some c ∈ l.replies → ∃ s, R s ∧ env.valid s = true ∧ env.clone s = some c

section LoopHolds

variable {R : Snap → Prop}

theorem LoopHolds.init {s : Snap} (hs : R s) : LoopHolds env R (Loop.init s) where
  snap := hs
  lastSent _ h := by cases h
  snapCh _ h := by cases h
  replies _ h := by cases h

/-- A property kept by every delivery, returned or failed, holds of everything the loop holds. -/
theorem LoopHolds.step (hR : ∀ u s s' b, R s → env.handleUpdate u s = some (s', b) → R s')
    (hH : LoopHolds env R l) {i : LoopInput Ev} (h : loopStep env l i = some l') :
    LoopHolds env R l' := by
  cases loopMove_of_loopStep h with
  | done _ => exact ⟨hH.1, hH.2, hH.3, hH.4⟩
  | failed u s _ hu => exact ⟨hR u _ s true hH.1 hu, hH.2, hH.3, hH.4⟩
  | handled u s _ hu =>
    have hs : LoopHolds env R { l with snap := s } := ⟨hR u _ s false hH.1 hu, hH.2, hH.3, hH.4⟩
    rcases armIfValid_cases env { l with snap := s } with ⟨-, -, h⟩ | h <;> rw [h]
    exacts [⟨hs.1, hs.2, hs.3, hs.4⟩, hs]
  | fire _ _ =>
    rcases fireTimer_cases env { l with pending := l.pending - 1 } with
      ⟨copy, hc, -, h⟩ | ⟨-, h⟩ | ⟨-, -, -, h⟩ <;> rw [h]
    · refine ⟨hH.1, fun _ h => ?_, fun _ h => ⟨l.snap, hH.1, ?_⟩, hH.4⟩
      · cases h; exact hH.1
      · cases h; exact hc
    all_goals exact ⟨hH.1, hH.2, hH.3, hH.4⟩
  | request _ =>
    rcases answerRequest_cases env l with ⟨-, h⟩ | ⟨-, -, h⟩ | ⟨copy, hv, hc, h⟩ <;> rw [h]
    · exact ⟨hH.1, hH.2, hH.3, fun c h => hH.4 c ((List.mem_cons.1 h).resolve_left
        (Option.some_ne_none c))⟩
    · exact ⟨hH.1, hH.2, hH.3, hH.4⟩
    · refine ⟨hH.1, hH.2, hH.3, fun c h => ?_⟩
      rcases List.mem_cons.1 h with h | h
      · cases h; exact ⟨l.snap, hH.1, hv, hc⟩
      · exact hH.4 c h
  | drain _ => exact ⟨hH.1, hH.2, fun _ h => (by cases h), hH.4⟩

theorem LoopHolds.run (hR : ∀ u s s' b, R s → env.handleUpdate u s = some (s', b) → R s')
    (hH : LoopHolds env R l) (hrun : Relation.ReflTransGen (LoopStep env) l l') :
    LoopHolds env R l' := by
  induction hrun with
  | refl => exact hH
  | tail _ step ih =>
    obtain ⟨i, hi⟩ := step
    exact ih.step hR hi

end LoopHolds

/-- A delivery the loop of a proxy takes, returned or failed, is one of the handler model's. -/
theorem ProxyHandler.deliver_of_loopEnv {p : ProxyHandler} {valid : ProxyState → Bool}
    {clone : ProxyState → Option ProxyState} {u : UpdateEvent} {w w' : ProxyState} {b : Bool}
    (h : (p.loopEnv valid clone).handleUpdate u w = some (w', b)) : p.deliver u w = some w' := by
  simp only [ProxyHandler.loopEnv] at h
  unfold ProxyHandler.deliver
  split at h <;> simp only [Option.some.injEq, Prod.mk.injEq, reduceCtorEq] at h <;>
    rename_i heq <;> simp only [heq, h.1]

/-- The loop of a proxy, started from any state its handler reaches, holds only reachable states
along every run: its snapshot, the last one sent, the clone in `snapCh` and every reply. -/
theorem proxy_loop_refines_handler (p : ProxyHandler) (valid : ProxyState → Bool)
    (clone : ProxyState → Option ProxyState) {w₀ : ProxyState} (hw : Reachable p w₀)
    {l : Loop ProxyState}
    (hrun : Relation.ReflTransGen (LoopStep (p.loopEnv valid clone)) (Loop.init w₀) l) :
    LoopHolds (p.loopEnv valid clone) (Reachable p) l :=
  (LoopHolds.init hw).run (fun u _ _ _ hs h => hs.deliver u (ProxyHandler.deliver_of_loopEnv h))
    hrun

/-- The ingress gateway of `ingressLeafArmed` before its first leaf certificate: its roots, an
ingress config entry with TLS off and an empty gateway-services delivery. -/
theorem reachable_ingressGatewayHolding : Reachable ingressProxy (ingressGatewayHolding none) :=
  @reachable_of_run ingressProxy
    [⟨rootsWatchID, .indexedCARoots ⟨"root-1", "11111111-2222-3333-4444-555555555555.consul"⟩,
        none⟩,
      ⟨gatewayConfigWatchID, .configEntryResponse (some (.ingressGateway false)), none⟩,
      linkServices []] _ (by decide)

/-- The loop of `ingressLeafArmed` once its token has sent the snapshot and a request has been
answered with a clone of it. -/
def ingressLeafAnswered : Loop ProxyState :=
  { ingressLeafArmed with
    pending := 0, coalesceTimer := false
    snapCh := some (ingressGatewayHolding (some ⟨"1"⟩))
    lastSent := some (ingressGatewayHolding (some ⟨"1"⟩))
    replies := [some (ingressGatewayHolding (some ⟨"1"⟩))] }

theorem ingress_token_and_request_refine_handler :
    Relation.ReflTransGen (LoopStep (ingressProxy.loopEnv ingressValid some))
        (Loop.init (ingressGatewayHolding none)) ingressLeafAnswered ∧
      LoopHolds (ingressProxy.loopEnv ingressValid some) (Reachable ingressProxy)
        ingressLeafAnswered := by
  have hv : ingressValid (ingressGatewayHolding (some ⟨"1"⟩)) = true := by decide
  have fire : LoopStep (ingressProxy.loopEnv ingressValid some) ingressLeafArmed
      { ingressLeafAnswered with replies := [] } :=
    ⟨.fire, by simp [loopStep, fireTimer, ProxyHandler.loopEnv, ingressLeafArmed,
      ingressLeafAnswered, Loop.init]⟩
  have request : LoopStep (ingressProxy.loopEnv ingressValid some)
      { ingressLeafAnswered with replies := [] } ingressLeafAnswered :=
    ⟨.request, by simp [loopStep, answerRequest, ProxyHandler.loopEnv, hv, ingressLeafAnswered,
      ingressLeafArmed, Loop.init]⟩
  have hrun := ((Relation.ReflTransGen.single ingress_leaf_arms_timer).tail fire).tail request
  exact ⟨hrun, proxy_loop_refines_handler _ _ _ reachable_ingressGatewayHolding hrun⟩

/-! ## What a token sends -/

/-- The `sendCh` case asks neither `Valid` nor whether the snapshot changed: a timer armed for a
valid snapshot sends a clone of whatever the snapshot is when its token arrives, after a later
delivery that left it invalid or whose handler failed half way. -/
theorem fire_sends_unchecked_snapshot (env : LoopEnv Snap Ev) (l : Loop Snap)
    (hidle : l.coalesceTimer = false ∧ l.snapCh = none ∧ l.stopped = false) (u₁ u₂ : Ev)
    (s₁ s₂ c : Snap) (b : Bool) (h₁ : env.handleUpdate u₁ l.snap = some (s₁, false))
    (hv₁ : env.valid s₁ = true) (h₂ : env.handleUpdate u₂ s₁ = some (s₂, b))
    (hc : env.clone s₂ = some c) :
    ∃ l', Relation.ReflTransGen (LoopStep env) l l' ∧ l'.snap = s₂ ∧ l'.snapCh = some c ∧
      l'.lastSent = some s₂ := by
  obtain ⟨htimer, hch, hstop⟩ := hidle
  let armed : Loop Snap := { l with snap := s₁, coalesceTimer := true, pending := l.pending + 1 }
  have deliver₁ : LoopStep env l armed :=
    ⟨.update u₁, by simp [loopStep, hstop, h₁, armIfValid, hv₁, htimer, armed]⟩
  have deliver₂ : LoopStep env armed { armed with snap := s₂ } :=
    ⟨.update u₂, by cases b <;> simp [loopStep, hstop, h₂, armIfValid, armed]⟩
  have fire : LoopStep env { armed with snap := s₂ }
      { armed with
        snap := s₂, pending := l.pending, snapCh := some c, lastSent := some s₂,
        coalesceTimer := false } :=
    ⟨.fire, by simp [loopStep, hstop, fireTimer, hc, hch, armed]⟩
  exact ⟨_, .tail (.tail (.single deliver₁) deliver₂) fire, rfl, rfl, rfl⟩

/-- The ingress gateway holding its leaf certificate once `api` is linked: the chain watch of `api`
open on context `2`, the leaf watch re-issued on context `3`, and the chain of `api` not yet
known. -/
def ingressRelinkedApi : ProxyState where
  snap :=
    { (ingressGatewayHolding (some ⟨"1"⟩)).snap with
      ingressGateway :=
        { (ingressGatewayHolding (some ⟨"1"⟩)).snap.ingressGateway with
          configSnapshotUpstreams :=
            { leaf := some ⟨"1"⟩
              watchedDiscoveryChains := (∅ : GoMap String _).insert "api" ⟨2⟩ }
          upstreams := (∅ : GoMap IngressListenerKey _).insert ⟨"tcp", 8080⟩
            [makeUpstream ⟨⟨"api"⟩, 8080, "tcp", []⟩]
          leafCertWatchCancel := some ⟨3⟩ } }
  subs := ⟨4, [(3, leafWatchID), (2, discoveryChainID "api"), (0, gatewayServicesWatchID),
    (0, gatewayConfigWatchID), (0, rootsWatchID)]⟩

/-- The ingress gateway takes its leaf certificate, arming a timer, and then links `api` before
the token arrives: the token sends the snapshot, whose listener upstream has no chain yet. -/
example :
    ingressValid ingressRelinkedApi = false ∧
    ∃ l', Relation.ReflTransGen (LoopStep (ingressProxy.loopEnv ingressValid some))
        (Loop.init (ingressGatewayHolding none)) l' ∧
      l'.snap = ingressRelinkedApi ∧ l'.snapCh = some ingressRelinkedApi ∧
      l'.lastSent = some ingressRelinkedApi :=
  ⟨by decide, fire_sends_unchecked_snapshot _ _ ⟨rfl, rfl, rfl⟩
    ⟨leafWatchID, .issuedCert ⟨"1"⟩, none⟩
    (linkServices ["api"]) (ingressGatewayHolding (some ⟨"1"⟩)) ingressRelinkedApi ingressRelinkedApi
    false (by decide) (by decide) (by decide) rfl⟩

end ConsulAgent
