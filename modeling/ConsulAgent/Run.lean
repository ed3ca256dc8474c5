/-
`state.run`: the goroutine that owns one proxy's snapshot, selecting among cancellation, a
delivery, a coalesce-timer token and a snapshot request.  `Valid` and `Clone` are parameters.
-/
import Mathlib.Logic.Relation
import ConsulAgent.State

namespace ConsulAgent

/-- What the loop calls: the handler (the snapshot it leaves and whether it returned an
error, or `none` for a fault), `snap.Valid()` and `snap.Clone()` (`none` when it fails). -/
structure LoopEnv (Snap Ev : Type) where
  handleUpdate : Ev → Snap → Option (Snap × Bool)
  valid : Snap → Bool
  clone : Snap → Option Snap

/-- The loop's state: the snapshot, whether `coalesceTimer` is non-nil, the timer tokens armed
and not yet received on `sendCh`, the contents of `snapCh`, the snapshot the last successful
send was cloned from, the replies sent on request channels (latest first), the requests taken
without a reply, and whether the loop has returned. -/
structure Loop (Snap : Type) where
  snap : Snap
  coalesceTimer : Bool
  pending : Nat
  snapCh : Option Snap
  lastSent : Option Snap
  replies : List (Option Snap)
  unanswered : Nat
  stopped : Bool

/-- What can happen next: the cases of the `select`, and a consumer reading `snapCh`. -/
inductive LoopInput (Ev : Type)
  | done
  | update (u : Ev)
  | fire
  | request
  | drain

variable {Snap Ev : Type}

/-- The loop as `Watch` starts it. -/
def Loop.init (snap : Snap) : Loop Snap :=
  ⟨snap, false, 0, none, none, [], 0, false⟩

/-- The end of a turn that handled a delivery: arm a timer for a valid snapshot unless
`coalesceTimer` is already set. -/
def armIfValid (env : LoopEnv Snap Ev) (l : Loop Snap) : Loop Snap :=
  if env.valid l.snap && !l.coalesceTimer then
    { l with coalesceTimer := true, pending := l.pending + 1 }
  else l

/-- The `sendCh` case once a token is received: clone, then send without blocking; on a full
channel a new timer is armed only when `coalesceTimer` is nil. -/
def fireTimer (env : LoopEnv Snap Ev) (l : Loop Snap) : Loop Snap :=
  match env.clone l.snap with
  | none => l
  | some copy =>
      match l.snapCh with
      | none => { l with snapCh := some copy, lastSent := some l.snap, coalesceTimer := false }
      | some _ =>
          if l.coalesceTimer then l
          else { l with coalesceTimer := true, pending := l.pending + 1 }

/-- The `reqCh` case: nil for an invalid snapshot, else a clone; no reply when `Clone` fails. -/
def answerRequest (env : LoopEnv Snap Ev) (l : Loop Snap) : Loop Snap :=
  if !env.valid l.snap then { l with replies := none :: l.replies }
  else
    match env.clone l.snap with
    | none => { l with unanswered := l.unanswered + 1 }
    | some copy => { l with replies := some copy :: l.replies }

/-- One turn of the loop, or a read of `snapCh`; `none` when that move is not possible. -/
def loopStep (env : LoopEnv Snap Ev) (l : Loop Snap) : LoopInput Ev → Option (Loop Snap)
  | .done => if l.stopped then none else some { l with stopped := true }
  | .update u =>
      if l.stopped then none
      else
        match env.handleUpdate u l.snap with
        | none => none
        | some (snap, true) => some { l with snap := snap }
        | some (snap, false) => some (armIfValid env { l with snap := snap })
  | .fire =>
      if l.stopped || l.pending == 0 then none
      else some (fireTimer env { l with pending := l.pending - 1 })
  | .request => if l.stopped then none else some (answerRequest env l)
  | .drain =>
      match l.snapCh with
      | none => none
      | some _ => some { l with snapCh := none }

/-- One move of a run. -/
def LoopStep (env : LoopEnv Snap Ev) (l l' : Loop Snap) : Prop :=
  ∃ i, loopStep env l i = some l'

/-- The loop of a proxy: its handler on its `ProxyState`, a fault ending the agent. -/
def ProxyHandler.loopEnv (p : ProxyHandler) (valid : ProxyState → Bool)
    (clone : ProxyState → Option ProxyState) : LoopEnv ProxyState UpdateEvent where
  handleUpdate u w :=
    match p.handler.handleUpdate p.handlerState u w with
    | .ok () w' => some (w', false)
    | .error (.error _) w' => some (w', true)
    | .error (.panic _) _ => none
  valid := valid
  clone := clone

/-! ## Timer tokens -/

/-- The obligation the coalescing design states: a valid snapshot other than the last one
sent has exactly one token out, and `coalesceTimer` is set exactly when a token is out. -/
def DeliveryPending (env : LoopEnv Snap Ev) (l : Loop Snap) : Prop :=
  (env.valid l.snap = true → l.lastSent ≠ some l.snap → l.pending = 1) ∧
    (l.coalesceTimer = true ↔ 0 < l.pending)

/-- `coalesceTimer` holds a timer whose token has been received: no turn arms again. -/
def Stranded (l : Loop Snap) : Prop :=
  l.coalesceTimer = true ∧ l.pending = 0

theorem armIfValid_of_timer (env : LoopEnv Snap Ev) {l : Loop Snap}
    (h : l.coalesceTimer = true) : armIfValid env l = l := by
  simp [armIfValid, h]

/-- A token that ends in no send (`Clone` failed, or `snapCh` was full) while `coalesceTimer`
is set changes nothing: the spent timer stays in `coalesceTimer` and none is armed. -/
theorem fireTimer_unsent (env : LoopEnv Snap Ev) {l : Loop Snap} (h : l.coalesceTimer = true)
    (hunsent : env.clone l.snap = none ∨ l.snapCh.isSome) : fireTimer env l = l := by
  unfold fireTimer
  rcases hunsent with hc | hch
  · rw [hc]
  · split
    · rfl
    · obtain ⟨c, hc⟩ := Option.isSome_iff_exists.1 hch
      simp [hc, h]

/-- A stranded loop stays stranded and sends nothing, whatever happens next. -/
theorem loopStep_stranded (env : LoopEnv Snap Ev) {l l' : Loop Snap} {i : LoopInput Ev}
    (hl : Stranded l) (h : loopStep env l i = some l') :
    Stranded l' ∧ l'.lastSent = l.lastSent := by
  obtain ⟨htimer, hpending⟩ := hl
  cases i with
  | done =>
      simp only [loopStep] at h
      split_ifs at h
      cases h
      exact ⟨⟨htimer, hpending⟩, rfl⟩
  | update u =>
      simp only [loopStep] at h
      split_ifs at h
      split at h
      · cases h
      · cases h
        exact ⟨⟨htimer, hpending⟩, rfl⟩
      next snap _ =>
        cases h
        rw [show armIfValid env { l with snap := snap } = _ from armIfValid_of_timer env htimer]
        exact ⟨⟨htimer, hpending⟩, rfl⟩
  | fire => simp [loopStep, hpending] at h
  | request =>
      simp only [loopStep] at h
      split_ifs at h
      cases h
      unfold answerRequest
      split_ifs
      · exact ⟨⟨htimer, hpending⟩, rfl⟩
      · split <;> exact ⟨⟨htimer, hpending⟩, rfl⟩
  | drain =>
      simp only [loopStep] at h
      split at h
      · cases h
      · cases h
        exact ⟨⟨htimer, hpending⟩, rfl⟩

/-- Every run from a stranded loop keeps it stranded and never sends again. -/
theorem run_stranded (env : LoopEnv Snap Ev) {l l' : Loop Snap} (hl : Stranded l)
    (hrun : Relation.ReflTransGen (LoopStep env) l l') :
    Stranded l' ∧ l'.lastSent = l.lastSent := by
  induction hrun with
  | refl => exact ⟨hl, rfl⟩
  | tail _ step ih =>
      obtain ⟨i, hi⟩ := step
      obtain ⟨hstranded, hsent⟩ := loopStep_stranded env ih.1 hi
      exact ⟨hstranded, hsent.trans ih.2⟩

/-- From an idle loop, two valid deliveries, each followed by its timer's token while the
consumer has not yet read the first snapshot: the second token finds `snapCh` full (or its
`Clone` fails) and leaves the spent timer in `coalesceTimer`.  The loop then owes the second
snapshot with no token out, and no later run sends anything again. -/
theorem run_strands_valid_snapshot (env : LoopEnv Snap Ev) (l : Loop Snap)
    (hidle : l.coalesceTimer = false ∧ l.pending = 0 ∧ l.snapCh = none ∧ l.stopped = false)
    (e₁ e₂ : Ev) (s₁ s₂ c₁ : Snap)
    (h₁ : env.handleUpdate e₁ l.snap = some (s₁, false)) (hv₁ : env.valid s₁ = true)
    (hc₁ : env.clone s₁ = some c₁)
    (h₂ : env.handleUpdate e₂ s₁ = some (s₂, false)) (hv₂ : env.valid s₂ = true)
    (hne : s₂ ≠ s₁) :
    ∃ l', Relation.ReflTransGen (LoopStep env) l l' ∧ l'.snap = s₂ ∧ ¬ DeliveryPending env l' ∧
      ∀ l'', Relation.ReflTransGen (LoopStep env) l' l'' → l''.lastSent = some s₁ := by
  obtain ⟨snap, timer, pending, snapCh, lastSent, replies, unanswered, stopped⟩ := l
  obtain ⟨rfl, rfl, rfl, rfl⟩ := hidle
  let armed₁ : Loop Snap := ⟨s₁, true, 1, none, lastSent, replies, unanswered, false⟩
  let sent : Loop Snap := ⟨s₁, false, 0, some c₁, some s₁, replies, unanswered, false⟩
  let armed₂ : Loop Snap := ⟨s₂, true, 1, some c₁, some s₁, replies, unanswered, false⟩
  let owed : Loop Snap := ⟨s₂, true, 0, some c₁, some s₁, replies, unanswered, false⟩
  refine ⟨owed, ?_, rfl, ?_, fun l'' hrun => (run_stranded env ⟨rfl, rfl⟩ hrun).2⟩
  · have deliver₁ : LoopStep env ⟨snap, false, 0, none, lastSent, replies, unanswered, false⟩
        armed₁ := ⟨.update e₁, by simp [loopStep, h₁, armIfValid, hv₁, armed₁]⟩
    have fire₁ : LoopStep env armed₁ sent := ⟨.fire, by simp [loopStep, fireTimer, hc₁, sent]⟩
    have deliver₂ : LoopStep env sent armed₂ :=
      ⟨.update e₂, by simp [loopStep, h₂, armIfValid, hv₂, sent, armed₂]⟩
    have unsent : fireTimer env owed = owed := fireTimer_unsent env rfl (.inr rfl)
    have fire₂ : LoopStep env armed₂ owed := ⟨.fire, by simp [loopStep, unsent]⟩
    exact .tail (.tail (.tail (.single deliver₁) fire₁) deliver₂) fire₂
  · rintro ⟨howed, -⟩
    have := howed hv₂ (fun h => hne (Option.some.inj h).symm)
    simp [owed] at this

/-- The ingress gateway's validity, modelled from the spec (`Valid` is outside the sources):
roots and leaf present, TLS and hosts set, and the chain of every listener upstream known. -/
def ingressValid (w : ProxyState) : Bool :=
  let ig := w.snap.ingressGateway
  w.snap.roots.isSome && ig.tlsSet && ig.hostsSet && ig.configSnapshotUpstreams.leaf.isSome &&
    ig.upstreams.entries.all fun e =>
      e.2.all fun u => decide (u.identifier ∈ ig.configSnapshotUpstreams.discoveryChain)

/-- An ingress gateway of `dc1` past its roots, its config entry (TLS off) and an empty
gateway-services delivery, with leaf watch `1` open and leaf certificate `leaf`. -/
def ingressGatewayHolding (leaf : Option IssuedCert) : ProxyState where
  snap :=
    { kind := .ingressGateway
      datacenter := "dc1"
      proxy := ⟨"", "", .default, []⟩
      roots := some ⟨"root-1", "11111111-2222-3333-4444-555555555555.consul"⟩
      ingressGateway :=
        { configSnapshotUpstreams := { leaf := leaf }
          tlsSet := true
          leafCertWatchCancel := some ⟨1⟩
          hostsSet := true } }
  subs := ⟨2, [(1, leafWatchID), (0, gatewayServicesWatchID), (0, gatewayConfigWatchID),
    (0, rootsWatchID)]⟩

theorem ingress_leaf_rotation_strands_snapshot :
    let env := (ProxyHandler.accepting .ingressGateway ⟨"", "", .default, []⟩).loopEnv
      ingressValid some
    ∃ l', Relation.ReflTransGen (LoopStep env) (Loop.init (ingressGatewayHolding none)) l' ∧
      l'.snap = ingressGatewayHolding (some ⟨"2"⟩) ∧ ¬ DeliveryPending env l' ∧
      ∀ l'', Relation.ReflTransGen (LoopStep env) l' l'' →
        l''.lastSent = some (ingressGatewayHolding (some ⟨"1"⟩)) :=
  run_strands_valid_snapshot _ _ ⟨rfl, rfl, rfl, rfl⟩ ⟨leafWatchID, .issuedCert ⟨"1"⟩, none⟩
    ⟨leafWatchID, .issuedCert ⟨"2"⟩, none⟩ _ _ _ (by decide) (by decide) rfl (by decide)
    (by decide) (by simp [ingressGatewayHolding])

/-! ## Cancellation and requests -/

/-- After `ctx.Done` only a consumer's read of `snapCh` can happen: the loop takes no token
from `sendCh` again. -/
theorem loopStep_of_stopped (env : LoopEnv Snap Ev) {l l' : Loop Snap} {i : LoopInput Ev}
    (hl : l.stopped = true) (h : loopStep env l i = some l') :
    l'.stopped = true ∧ l'.pending = l.pending := by
  cases i with
  | drain =>
    simp only [loopStep] at h
    split at h
    · cases h
    · cases h
      exact ⟨hl, rfl⟩
  | _ => simp [loopStep, hl] at h

theorem run_of_stopped (env : LoopEnv Snap Ev) {l l' : Loop Snap} (hl : l.stopped = true)
    (hrun : Relation.ReflTransGen (LoopStep env) l l') :
    l'.stopped = true ∧ l'.pending = l.pending := by
  induction hrun with
  | refl => exact ⟨hl, rfl⟩
  | tail _ step ih =>
    obtain ⟨i, hi⟩ := step
    obtain ⟨hstop, hpending⟩ := loopStep_of_stopped env ih.1 hi
    exact ⟨hstop, hpending.trans ih.2⟩

/-- Cancellation right after a valid delivery: the delivery arms a coalesce timer, `ctx.Done`
then ends the loop, and the timer's token is never received, so its callback blocks for ever
in its send on the unbuffered `sendCh`. -/
theorem cancel_after_valid_update_blocks_timer (env : LoopEnv Snap Ev) (l : Loop Snap) (u : Ev)
    (s : Snap) (hl : l.stopped = false) (htimer : l.coalesceTimer = false)
    (hu : env.handleUpdate u l.snap = some (s, false)) (hv : env.valid s = true) :
    ∃ l', Relation.ReflTransGen (LoopStep env) l l' ∧ l'.stopped = true ∧ 0 < l'.pending ∧
      ∀ l'', Relation.ReflTransGen (LoopStep env) l' l'' → l''.pending = l'.pending := by
  let armed : Loop Snap := { l with snap := s, coalesceTimer := true, pending := l.pending + 1 }
  have deliver : LoopStep env l armed :=
    ⟨.update u, by simp [loopStep, hl, hu, armIfValid, hv, htimer, armed]⟩
  have cancel : LoopStep env armed { armed with stopped := true } :=
    ⟨.done, by simp [loopStep, hl, armed]⟩
  exact ⟨_, .tail (.single deliver) cancel, rfl, Nat.succ_pos _,
    fun l'' hrun => (run_of_stopped env rfl hrun).2⟩

/-- The ingress gateway of the run above, cancelled right after its first leaf certificate. -/
theorem ingress_cancel_after_leaf_blocks_timer :
    let env := (ProxyHandler.accepting .ingressGateway ⟨"", "", .default, []⟩).loopEnv
      ingressValid some
    ∃ l', Relation.ReflTransGen (LoopStep env) (Loop.init (ingressGatewayHolding none)) l' ∧
      l'.stopped = true ∧ 0 < l'.pending ∧
      ∀ l'', Relation.ReflTransGen (LoopStep env) l' l'' → l''.pending = l'.pending :=
  cancel_after_valid_update_blocks_timer _ _ ⟨leafWatchID, .issuedCert ⟨"1"⟩, none⟩
    (ingressGatewayHolding (some ⟨"1"⟩)) rfl rfl (by decide) (by decide)

theorem armIfValid_unanswered (env : LoopEnv Snap Ev) (l : Loop Snap) :
    (armIfValid env l).unanswered = l.unanswered := by
  unfold armIfValid
  split <;> rfl

theorem fireTimer_unanswered (env : LoopEnv Snap Ev) (l : Loop Snap) :
    (fireTimer env l).unanswered = l.unanswered := by
  unfold fireTimer
  repeat' split
  all_goals rfl

/-- No turn answers a request taken earlier: the count of requests left without a reply never
goes down. -/
theorem loopStep_unanswered_le (env : LoopEnv Snap Ev) {l l' : Loop Snap} {i : LoopInput Ev}
    (h : loopStep env l i = some l') : l.unanswered ≤ l'.unanswered := by
  cases i <;> simp only [loopStep] at h <;> repeat' split at h
  all_goals
    simp only [Option.some.injEq, reduceCtorEq] at h
    try subst h
  all_goals
    first
      | exact Nat.le_refl _
      | rw [armIfValid_unanswered]
      | rw [fireTimer_unanswered]
      | ((unfold answerRequest; repeat' split) <;> simp)

/-- A request that finds a valid snapshot whose `Clone` fails is taken without a reply, the loop
goes on to its next message, and no later turn ever replies on that channel: `CurrentSnapshot`
blocks for ever. -/
theorem clone_failure_drops_request (env : LoopEnv Snap Ev) (l : Loop Snap)
    (hl : l.stopped = false) (hv : env.valid l.snap = true) (hc : env.clone l.snap = none) :
    ∃ l', loopStep env l .request = some l' ∧ l'.replies = l.replies ∧
      l'.unanswered = l.unanswered + 1 ∧ l'.stopped = false ∧
      ∀ l'', Relation.ReflTransGen (LoopStep env) l' l'' → l.unanswered < l''.unanswered := by
  refine ⟨{ l with unanswered := l.unanswered + 1 }, by simp [loopStep, answerRequest, hl, hv, hc],
    rfl, rfl, hl, fun l'' hrun => ?_⟩
  induction hrun with
  | refl => exact Nat.lt_succ_self _
  | tail _ step ih =>
    obtain ⟨i, hi⟩ := step
    exact lt_of_lt_of_le ih (loopStep_unanswered_le env hi)

theorem ingress_clone_failure_drops_request :
    let env := (ProxyHandler.accepting .ingressGateway ⟨"", "", .default, []⟩).loopEnv
      ingressValid fun _ => none
    let l := Loop.init (ingressGatewayHolding (some ⟨"1"⟩))
    ∃ l', loopStep env l .request = some l' ∧ l'.replies = l.replies ∧
      l'.unanswered = l.unanswered + 1 ∧ l'.stopped = false ∧
      ∀ l'', Relation.ReflTransGen (LoopStep env) l' l'' → l.unanswered < l''.unanswered :=
  clone_failure_drops_request _ _ rfl (by decide) rfl

end ConsulAgent
