/-
The one-slot channels the anti-entropy goroutine receives from, `timerNextFullSync`, `SyncFull`
and `SyncChanges`, and the `SyncChanges` triggers that the Resumes ending a pause epoch send.
-/
import ConsulAgent.AntiEntropy.Syncer

namespace ConsulAgent

/-- The channels `Run` receives a sent value from. -/
inductive SyncerChan
  /-- `timerNextFullSync`, filled by the `time.After` of each re-arm. -/
  | timer
  /-- The `SyncFull` trigger. -/
  | full
  /-- The `SyncChanges` trigger. -/
  | changes
  deriving DecidableEq, Repr

namespace SyncerChan

/-- Whether the channel holds a value not yet received. -/
def pending : SyncerChan → Syncer → Bool
  | .timer, s => s.timerPending
  | .full, s => s.fullPending
  | .changes, s => s.changesPending

/-- A move that fills the channel, whatever it held. -/
def fills : SyncerChan → SyncerMove → Bool
  | .timer, .rearm _ | .full, .triggerFull | .changes, .triggerChanges => true
  | _, _ => false

/-- A move that may fill the channel: besides those that fill it, a Resume, which triggers
`SyncChanges` when it ends the last pause. -/
def mayFill (c : SyncerChan) (m : SyncerMove) : Bool :=
  c.fills m || (c == .changes && m == .pauseCall .resume)

/-- The goroutine's receive from the channel, in either `select`. -/
def receives : SyncerChan → SyncerMove → Bool
  | .timer, .timerFired | .full, .fullTriggered _ | .changes, .changesTriggered => true
  | _, _ => false

theorem pending_start (c : SyncerChan) (p : PauseState) : c.pending (Syncer.start p) = false := by
  cases c <;> rfl

variable {cfg : SyncerConfig} {s s' : Syncer} {m : SyncerMove}

/-- What one move does to a channel: a receive empties a full one; a move that may fill it keeps
what it held and fills it when it surely does; every other move leaves it as it was. -/
theorem step_pending (c : SyncerChan) (h : s.step cfg m = some s') :
    c.receives m ∧ c.mayFill m = false ∧ c.pending s ∧ c.pending s' = false ∨
    c.receives m = false ∧ c.mayFill m ∧ (c.pending s → c.pending s') ∧
      (c.fills m → c.pending s') ∨
    c.receives m = false ∧ c.mayFill m = false ∧ c.pending s' = c.pending s := by
  cases m
  case pauseCall pc =>
    simp only [Syncer.step, Syncer.pauseStep] at h
    cases pc
    case resume =>
      obtain ⟨⟨_ | _ | _, p⟩, -, rfl⟩ := Option.map_eq_some'.1 h
      all_goals cases c <;> simp [pending, fills, mayFill, receives]
    all_goals
      obtain ⟨_, -, rfl⟩ := Option.map_eq_some'.1 h
      cases c <;> exact .inr (.inr ⟨rfl, rfl, rfl⟩)
  all_goals
    simp only [Syncer.step] at h
    repeat' split at h
    all_goals simp only [Option.some.injEq, reduceCtorEq] at h
    all_goals (try subst h); cases c
  -- a move that leaves the channel alone, one that fills it, or a receive
  all_goals first
    | exact .inr (.inr ⟨rfl, rfl, rfl⟩)
    | exact .inr (.inl ⟨rfl, rfl, fun _ => rfl, fun _ => rfl⟩)
    | simp_all [pending, mayFill, fills, receives]

/-- One step's count: a receive and the value held after it, against a possible send and the
value held before. -/
theorem count_step (c : SyncerChan) (h : s.step cfg m = some s') :
    (c.receives m).toNat + (c.pending s').toNat ≤ (c.mayFill m).toNat + (c.pending s).toNat := by
  rcases c.step_pending h with ⟨hr, hf, hp, hp'⟩ | ⟨hr, hf, -, -⟩ | ⟨hr, hf, hp⟩
  · rw [hr, hf, hp, hp']
    decide
  · rw [hr, hf, Bool.toNat_true, Bool.toNat_false]
    have := Bool.toNat_le (c.pending s')
    omega
  · rw [hr, hf, hp]

theorem pending_of_fills (c : SyncerChan) (h : s.step cfg m = some s') (hf : c.fills m) :
    c.pending s' := by
  rcases c.step_pending h with ⟨-, hmf, -⟩ | ⟨-, -, -, hfill⟩ | ⟨-, hmf, -⟩
  · simp [mayFill, hf] at hmf
  · exact hfill hf
  · simp [mayFill, hf] at hmf

/-- A value held is still held after a run that does not receive from the channel. -/
theorem exec_pending (c : SyncerChan) {moves : List SyncerMove} (h : s.exec cfg moves = some s')
    (hp : c.pending s) (hr : ∀ x ∈ moves, c.receives x = false) : c.pending s' := by
  induction moves generalizing s with
  | nil => cases h; exact hp
  | cons m ms ih =>
    obtain ⟨s₁, h₁, h₂⟩ := Option.bind_eq_some.1 h
    refine ih h₂ ?_ fun x hx => hr x (List.mem_cons_of_mem _ hx)
    rcases c.step_pending h₁ with ⟨hrm, -⟩ | ⟨-, -, hkeep, -⟩ | ⟨-, -, hkeep⟩
    · simp [hr m (List.mem_cons_self _ _)] at hrm
    · exact hkeep hp
    · exact hkeep ▸ hp

end SyncerChan

namespace Syncer

variable {cfg : SyncerConfig} {s s' : Syncer}

/-- A count that every step keeps, receives and a flag held after against sends and the flag
held before, holds over every run. -/
theorem exec_countP_le {rcv snd : SyncerMove → Bool} {held : Syncer → Bool}
    (hstep : ∀ {t t' : Syncer} {m : SyncerMove}, t.step cfg m = some t' →
      (rcv m).toNat + (held t').toNat ≤ (snd m).toNat + (held t).toNat)
    {moves : List SyncerMove} (h : s.exec cfg moves = some s') :
    moves.countP rcv + (held s').toNat ≤ moves.countP snd + (held s).toNat := by
  induction moves generalizing s with
  | nil => cases h; exact Nat.le_refl _
  | cons m ms ih =>
    obtain ⟨s₁, h₁, h₂⟩ := Option.bind_eq_some.1 h
    have hm := hstep h₁
    have hms := ih h₂
    simp only [List.countP_cons]
    revert hm
    cases rcv m <;> cases snd m <;>
      simp only [Bool.toNat_true, Bool.toNat_false, Bool.false_eq_true, ↓reduceIte] <;> omega

end Syncer

/-- From `Run`'s start, receives and the value held never outnumber the values sent. -/
theorem SyncerChan.countP_receives_le (c : SyncerChan) {cfg : SyncerConfig} {p : PauseState}
    {moves : List SyncerMove} {s : Syncer} (h : (Syncer.start p).exec cfg moves = some s) :
    moves.countP c.receives + (c.pending s).toNat ≤ moves.countP c.mayFill := by
  simpa only [c.pending_start p, Bool.toNat_false, Nat.add_zero] using
    Syncer.exec_countP_le c.count_step h

/-- Over every run, the goroutine receives from each channel at most as many values as were
sent on it, the value still held counting as one more, and a value sent and not received since is
still held. -/
theorem run_receives_only_sent_values (cfg : SyncerConfig) (p : PauseState)
    {moves : List SyncerMove} {s : Syncer} (h : (Syncer.start p).exec cfg moves = some s)
    (c : SyncerChan) :
    moves.countP c.receives + (c.pending s).toNat ≤ moves.countP c.mayFill ∧
    ∀ pre m post, moves = pre ++ m :: post → c.fills m →
      (∀ x ∈ post, c.receives x = false) → c.pending s := by
  refine ⟨c.countP_receives_le h, fun pre m post hm hf hr => ?_⟩
  obtain ⟨s₁, s₂, -, hstep, hpost⟩ := Syncer.exec_append_cons_eq_some (hm ▸ h)
  exact c.exec_pending hpost (c.pending_of_fills hstep hf) hr

/-! ## Partial syncs -/

/-- In `sync`'s `SyncChanges` case: after its receive, before `sync` returns. -/
def SyncerPc.inChangesCase : SyncerPc → Bool
  | .changesCheck | .syncChanges => true
  | _ => false

/-- A call of `State.SyncChanges`. -/
def SyncerMove.callsSyncChanges : SyncerMove → Bool
  | .syncChangesDone _ => true
  | _ => false

/-- A call of `State.SyncChanges` is the goroutine's own move. -/
theorem SyncerMove.isEnv_of_callsSyncChanges {m : SyncerMove} (h : m.callsSyncChanges) :
    m.isEnv = false := by
  cases m <;> first | rfl | simp [callsSyncChanges] at h

theorem SyncerChan.countP_changes_mayFill (moves : List SyncerMove) :
    moves.countP SyncerChan.changes.mayFill =
      moves.count .triggerChanges + moves.count (.pauseCall .resume) := by
  induction moves with
  | nil => rfl
  | cons m ms ih =>
    have hm : (if changes.mayFill m then 1 else 0) =
        (if m == .triggerChanges then 1 else 0) + (if m == .pauseCall .resume then 1 else 0) := by
      cases m
      case pauseCall c => cases c <;> rfl
      all_goals rfl
    rw [List.countP_cons, List.count_cons, List.count_cons, ih, hm]
    omega

/-- The goroutine enters the `SyncChanges` case only by receiving from `SyncChanges`, and a call
of `State.SyncChanges` leaves it. -/
theorem Flow.inChangesCase_le {cfg : SyncerConfig} {pc pc' : SyncerPc} {m : SyncerMove}
    (hf : Flow cfg pc m pc') :
    m.callsSyncChanges.toNat + pc'.inChangesCase.toNat ≤
      (SyncerChan.changes.receives m).toNat + pc.inChangesCase.toNat := by
  cases hf <;> simp [SyncerMove.callsSyncChanges, SyncerPc.inChangesCase, SyncerChan.receives]

namespace Syncer

variable {cfg : SyncerConfig} {s s' : Syncer} {m : SyncerMove}

/-- One step's count of `State.SyncChanges` calls: the goroutine enters the `SyncChanges` case
only by receiving from `SyncChanges`, and a call of `State.SyncChanges` leaves it. -/
theorem inChangesCase_step (h : s.step cfg m = some s') :
    m.callsSyncChanges.toNat + s'.pc.inChangesCase.toNat ≤
      (SyncerChan.changes.receives m).toNat + s.pc.inChangesCase.toNat := by
  cases he : m.isEnv
  · exact (step_flow he h).inChangesCase_le
  · rw [step_pc_of_isEnv he h]
    cases hc : m.callsSyncChanges
    · rw [Bool.toNat_false]
      omega
    · simp [SyncerMove.isEnv_of_callsSyncChanges hc] at he

end Syncer

/-- Over every run of `Run`, interleaved with any moves of the other goroutines, `State.SyncChanges`
is called at most once per `SyncChanges.Trigger()` or `Resume`: triggers that find a value held
are merged into it, and each received value leads to at most one call. -/
theorem run_syncs_changes_once_per_trigger (cfg : SyncerConfig) (p : PauseState)
    {moves : List SyncerMove} {s : Syncer} (h : (Syncer.start p).exec cfg moves = some s) :
    moves.countP SyncerMove.callsSyncChanges ≤
      moves.count .triggerChanges + moves.count (.pauseCall .resume) := by
  have hcalls := Syncer.exec_countP_le Syncer.inChangesCase_step h
  have hrecv := SyncerChan.changes.countP_receives_le h
  rw [SyncerChan.countP_changes_mayFill] at hrecv
  simp only [Syncer.start, SyncerPc.inChangesCase, Bool.toNat_false, Nat.add_zero] at hcalls
  omega

theorem merged_triggers_sync_changes_once :
    let cfg := newStateSyncer (60 * second) (clusterSizeJitter 1000)
    let moves : List SyncerMove := [.rearm 0, .foundActive, .syncFullDone, .loopTest,
      .triggerChanges, .triggerChanges, .changesTriggered, .changesActive, .syncChangesDone none]
    let s : Syncer := { Syncer.start .init with pc := .returned none, timerPending := true }
    (Syncer.start .init).exec cfg moves = some s ∧
      moves.countP SyncerMove.callsSyncChanges ≤
        moves.count .triggerChanges + moves.count (.pauseCall .resume) := by
  intro cfg moves s
  have h : (Syncer.start .init).exec cfg moves = some s := rfl
  exact ⟨h, run_syncs_changes_once_per_trigger cfg .init h⟩

/-! ## Resume triggers -/

/-- The calls of the pause API in a run, in order. -/
def pauseCalls : List SyncerMove → List PauseCall
  | [] => []
  | .pauseCall c :: ms => c :: pauseCalls ms
  | _ :: ms => pauseCalls ms

theorem pauseCalls_append (xs ys : List SyncerMove) :
    pauseCalls (xs ++ ys) = pauseCalls xs ++ pauseCalls ys := by
  induction xs with
  | nil => rfl
  | cons m ms ih => cases m <;> simp [pauseCalls, ih]

namespace Syncer

/-- Whether move `m` from `s` is a Resume that returns true, and so calls
`SyncChanges.Trigger()`. -/
def triggersChanges (s : Syncer) : SyncerMove → Bool
  | .pauseCall .resume => match s.pause.resume with
    | some (.ok true, _) => true
    | _ => false
  | _ => false

/-- The `SyncChanges` triggers that the Resumes of a run issue, up to where the run stops. -/
def resumeTriggers (cfg : SyncerConfig) : Syncer → List SyncerMove → Nat
  | _, [] => 0
  | s, m :: ms => match s.step cfg m with
    | some s' => (if s.triggersChanges m then 1 else 0) + s'.resumeTriggers cfg ms
    | none => 0

variable {cfg : SyncerConfig} {s s' : Syncer}

theorem resumeTriggers_cons {m : SyncerMove} {ms : List SyncerMove} (h : s.step cfg m = some s') :
    s.resumeTriggers cfg (m :: ms) =
      (if s.triggersChanges m then 1 else 0) + s'.resumeTriggers cfg ms := by
  simp only [resumeTriggers, h]

/-- A pause call from a state between calls, a Resume finding the count above zero: the pause
fields move as the call does, and only a Resume that returns true leaves a `SyncChanges` trigger. -/
theorem pauseStep_of_inv (hI : s.pause.Inv) {c : PauseCall}
    (hc : c = .resume → s.pause.paused ≠ 0) :
    ∃ r p, s.pause.call c = some (r, p) ∧ s.pauseStep c = some { s with
        pause := p, changesPending := s.changesPending || s.triggersChanges (.pauseCall c) } ∧
      s.triggersChanges (.pauseCall c) = (r == .resumed true) := by
  obtain ⟨r, p, hcall, -⟩ := hI.call_eq c hc
  refine ⟨r, p, hcall, ?_⟩
  cases c
  case resume =>
    simp only [PauseState.call, Option.bind_eq_some] at hcall
    obtain ⟨⟨_ | b, p'⟩, hres, hx⟩ := hcall
    · cases hx
    · cases hx
      cases b <;> simp [pauseStep, triggersChanges, hres]
  all_goals
    simp only [PauseState.call, Option.map_eq_some'] at hcall
    obtain ⟨_, hx', hx⟩ := hcall
    cases hx
    simp [pauseStep, triggersChanges, PauseState.call, hx']

/-- Over a run from a state between calls in which no Resume finds the count at zero, the pause
fields move as the run's pause calls do, and the Resumes that return true are its triggers. -/
theorem exec_callAll {moves : List SyncerMove} (hI : s.pause.Inv)
    (h : s.exec cfg moves = some s')
    (hz : ∀ pre post, pauseCalls moves = pre ++ .resume :: post →
      s.pause.paused + pauseCount pre ≠ 0) :
    ∃ rs, s.pause.callAll (pauseCalls moves) = some (rs, s'.pause) ∧
      rs.count (.resumed true) = s.resumeTriggers cfg moves := by
  induction moves generalizing s with
  | nil => cases h; exact ⟨[], rfl, rfl⟩
  | cons m ms ih =>
    obtain ⟨s₁, h₁, h₂⟩ := Option.bind_eq_some.1 h
    rw [resumeTriggers_cons h₁]
    cases m
    case pauseCall c =>
      obtain ⟨r, p, hcall, hstep, htr⟩ :=
        pauseStep_of_inv (c := c) hI fun hc => by simpa using hz [] _ (by subst hc; rfl)
      cases h₁.symm.trans hstep
      obtain ⟨hI', hpaused, -⟩ := hI.of_call hcall
      obtain ⟨rs, hrs, hcount⟩ := ih hI' h₂ fun pre post e => by
        have := hz (c :: pre) post (congrArg (c :: ·) e)
        rw [pauseCount_cons] at this
        rw [hpaused]
        omega
      refine ⟨r :: rs, PauseState.callAll_cons_eq_some.2 ⟨r, p, rs, hcall, hrs, rfl⟩, ?_⟩
      rw [List.count_cons, hcount, htr]
      cases r == .resumed true <;> simp [Nat.add_comm]
    all_goals
      have hp : s₁.pause = s.pause := (step_pause h₁).resolve_right (by rintro ⟨_, ⟨⟩, -⟩)
      obtain ⟨rs, hrs, hcount⟩ := ih (hp ▸ hI) h₂ (hp ▸ hz)
      exact ⟨rs, hp ▸ hrs, by simp [triggersChanges, hcount]⟩

end Syncer

/-- The pause refcount over every sequence of calls in which no Resume finds the count at zero,
as `callAll_refcount` states it, and over every run of the syncer whose pause calls they are:
the Resumes of the run issue one `SyncChanges` trigger per epoch closed, and a pause call leaves
a trigger pending exactly when it is a Resume that returns true or one was already pending. -/
theorem pause_resume_refcount (calls : List PauseCall)
    (hcalls : ∀ pre post, calls = pre ++ .resume :: post → pauseCount pre ≠ 0) :
    ((∃ replies p, PauseState.init.callAll calls = some (replies, p) ∧
      p.paused = pauseCount calls ∧ 0 ≤ p.paused ∧ (p.chPaused.isSome ↔ 0 < p.paused) ∧
      (p.isPaused = some true ↔ ∃ ch, p.waitResume = some (some ch)) ∧
      replies.count (.resumed true) + (if 0 < p.paused then 1 else 0) = epochsOpened 0 calls) ∧
    (∀ pre post, calls = pre ++ .resume :: post →
      ∃ rs q r q', PauseState.init.callAll pre = some (rs, q) ∧ q.resume = some (.ok r, q') ∧
        (r = true ↔ q.paused = 1) ∧ q'.paused = q.paused - 1 ∧
        (r = true → ∃ ch, q.chPaused = some ch ∧ ch ∉ q.closed ∧ q'.closed = ch :: q.closed ∧
          q'.chPaused = none) ∧
        (r = false → q'.closed = q.closed)) ∧
    (∀ pre mid post, calls = pre ++ .waitResume :: mid ++ .resume :: post →
      ∀ rs q ch, PauseState.init.callAll pre = some (rs, q) → q.waitResume = some (some ch) →
      ∀ rs' q', q.callAll mid = some (rs', q') → PauseReply.resumed true ∉ rs' →
      ∀ q'', q'.resume = some (.ok true, q'') → ch ∉ q'.closed ∧ q''.closed = ch :: q'.closed)) ∧
    ∀ cfg moves s, (Syncer.start .init).exec cfg moves = some s → pauseCalls moves = calls →
      (∃ replies, PauseState.init.callAll calls = some (replies, s.pause) ∧
        replies.count (.resumed true) = (Syncer.start .init).resumeTriggers cfg moves) ∧
      (Syncer.start .init).resumeTriggers cfg moves + (if 0 < s.pause.paused then 1 else 0) =
        epochsOpened 0 calls ∧
      ∀ pre c post s₁ s₂, moves = pre ++ .pauseCall c :: post →
        (Syncer.start .init).exec cfg pre = some s₁ → s₁.step cfg (.pauseCall c) = some s₂ →
        s₂.changesPending = (s₁.changesPending || s₁.triggersChanges (.pauseCall c)) := by
  refine ⟨callAll_refcount calls hcalls, fun cfg moves s h hm => ?_⟩
  have hz (pre post : List PauseCall) (e : pauseCalls moves = pre ++ .resume :: post) :
      (Syncer.start .init).pause.paused + pauseCount pre ≠ 0 := by
    simpa [Syncer.start, PauseState.init] using hcalls pre post (hm ▸ e)
  obtain ⟨rs, hrs, hcount⟩ := Syncer.exec_callAll PauseState.inv_init h hz
  rw [hm] at hrs
  obtain ⟨hI, -, hmade, hclosed⟩ := PauseState.inv_init.of_callAll hrs
  simp only [PauseState.init, Nat.zero_add, List.length_nil] at hmade hclosed
  refine ⟨⟨rs, hrs, hcount⟩, by rw [← hcount, ← hclosed, ← hI.made_eq, hmade],
    fun pre c post s₁ s₂ e h₁ h₂ => ?_⟩
  have hsplit : pauseCalls moves = pauseCalls pre ++ c :: pauseCalls post := by
    rw [e, pauseCalls_append]
    rfl
  obtain ⟨rs₁, hrs₁, -⟩ := Syncer.exec_callAll PauseState.inv_init h₁ fun pre' post' e' =>
    hz pre' (post' ++ c :: pauseCalls post) (by rw [hsplit, e']; simp)
  obtain ⟨hI₁, hp₁, -⟩ := PauseState.inv_init.of_callAll hrs₁
  obtain ⟨r, p, -, hstep, -⟩ := Syncer.pauseStep_of_inv (c := c) hI₁ fun hc => by
    rw [hp₁]
    exact hz (pauseCalls pre) (pauseCalls post) (by rw [hsplit, hc])
  cases h₂.symm.trans hstep
  rfl

theorem pause_resume_refcount_nested :
    let cfg := newStateSyncer (60 * second) (clusterSizeJitter 1000)
    let moves : List SyncerMove := [.rearm 0, .foundActive, .syncFullDone, .loopTest,
      .pauseCall .pause, .pauseCall .pause, .pauseCall .waitResume, .pauseCall .resume,
      .pauseCall .resume, .changesTriggered]
    let s : Syncer := { Syncer.start .init with
      pc := .changesCheck, timerPending := true, pause := ⟨false, 0, none, 1, [0]⟩ }
    (Syncer.start .init).exec cfg moves = some s ∧
      (Syncer.start .init).resumeTriggers cfg moves + (if 0 < s.pause.paused then 1 else 0) =
        epochsOpened 0 (pauseCalls moves) := by
  intro cfg moves s
  have h : (Syncer.start .init).exec cfg moves = some s := rfl
  exact ⟨h, ((pause_resume_refcount (pauseCalls moves) fun pre post e => by
    simpa using (@resumesAboveZero_iff 0 (pauseCalls moves)).1 rfl pre post e).2
      cfg moves s h rfl).2.1⟩

end ConsulAgent
