/-
The anti-entropy loop: `Run`, `sync` and `fullSync` of a `StateSyncer`, as one goroutine with a
program counter, interleaved with the goroutines that trigger, pause and resume it.
-/
import ConsulAgent.AntiEntropy.Pause
import ConsulAgent.AntiEntropy.ScaleFactor

namespace ConsulAgent

/-- `errShutdown`. -/
def errShutdown : String := "shutdown"

/-- `time.Second`, in nanoseconds, the unit of every duration here. -/
def second : Int := 1000000000

/-- `serverUpIntv`. -/
def serverUpIntv : Int := 3 * second

/-- `retryFailIntv`. -/
def retryFailIntv : Int := 15 * second

/-- The durations of a `StateSyncer` and its `Delayer`: `jitter d j` holds when `Jitter(d)` may
return `j`. -/
structure SyncerConfig where
  interval : Int
  serverUpInterval : Int
  retryFailInterval : Int
  jitter : Int → Int → Bool

/-- `NewStateSyncer`, with the `Delayer` the agent sets. -/
def newStateSyncer (intv : Int) (jitter : Int → Int → Bool) : SyncerConfig :=
  ⟨intv, serverUpIntv, retryFailIntv, jitter⟩

/-- Where `fullSync` is: at the top of its loop with `delay`, about to call `isPaused`, or about
to call `State.SyncFull`. -/
inductive FullSyncPc
  | loop (delay : Int)
  | pauseCheck
  | syncFull
  deriving DecidableEq, Repr

/-- Where the anti-entropy goroutine is. -/
inductive SyncerPc
  /-- In a call of `fullSync`. -/
  | fullSync (pc : FullSyncPc)
  /-- In `sync`, at its `select`. -/
  | select
  /-- In `sync`'s `SyncChanges` case, about to call `isPaused`. -/
  | changesCheck
  /-- About to call `State.SyncChanges`. -/
  | syncChanges
  /-- `fullSync` or `sync` has returned `err` to `Run`. -/
  | returned (err : Option String)
  /-- `Run` has returned. -/
  | done
  deriving DecidableEq, Repr

/-- Blocked in `fullSync`'s `select`: at the top of its loop with a delay other than zero. -/
def SyncerPc.inFullSyncSelect : SyncerPc → Bool
  | .fullSync (.loop d) => d != 0
  | _ => false

/-- Blocked in a `select` that receives from `SyncFull.wait()` and `ShutdownCh`: `fullSync`'s or
`sync`'s. -/
def SyncerPc.selects (pc : SyncerPc) : Bool :=
  pc.inFullSyncSelect || pc == .select

/-- A `StateSyncer` while `Run` runs: the goroutine's place; whether `timerNextFullSync`,
`SyncFull` and `SyncChanges` hold a value not yet received; whether `ShutdownCh` is closed; and the
pause fields. -/
structure Syncer where
  pc : SyncerPc
  timerPending : Bool
  fullPending : Bool
  changesPending : Bool
  shutdown : Bool
  pause : PauseState
  deriving DecidableEq, Repr

/-- The syncer as `Run` finds it at its call of `fullSync(0)`: `timerNextFullSync` nil, no trigger
pending and `ShutdownCh` open, with pause fields `p`. -/
def Syncer.start (p : PauseState) : Syncer :=
  ⟨.fullSync (.loop 0), false, false, false, false, p⟩

/-- A move: of the anti-entropy goroutine, with the values that `Jitter`, `isPaused` and the
state's calls returned, or of another goroutine. -/
inductive SyncerMove
  /-- `timerNextFullSync = time.After(Interval + Jitter(Interval))`, `Jitter` returning `j`. -/
  | rearm (j : Int)
  /-- `isPaused()` in `fullSync` returned true; `retryDelay()` took `Jitter` value `j`. -/
  | foundPaused (j : Int)
  /-- `isPaused()` in `fullSync` returned false. -/
  | foundActive
  /-- `State.SyncFull()` returned `err`; `retryDelay()` took `Jitter` value `j`. -/
  | syncFullFailed (err : String) (j : Int)
  /-- `State.SyncFull()` returned nil. -/
  | syncFullDone
  /-- `<-time.After(delay)` in `fullSync`'s `select`. -/
  | delayElapsed
  /-- `<-s.SyncFull.wait()`, either `select`; `Jitter(serverUpInterval)` returned `j`. -/
  | fullTriggered (j : Int)
  /-- `<-s.timerNextFullSync` in `sync`. -/
  | timerFired
  /-- `<-s.SyncChanges.wait()` in `sync`. -/
  | changesTriggered
  /-- `isPaused()` in `sync` returned true. -/
  | changesSkipped
  /-- `isPaused()` in `sync` returned false. -/
  | changesActive
  /-- `State.SyncChanges()` returned `err`, which is only logged. -/
  | syncChangesDone (err : Option String)
  /-- `<-s.ShutdownCh`, either `select`. -/
  | shutdownReceived
  /-- `Run`'s loop test on the error returned. -/
  | loopTest
  /-- `SyncFull.Trigger()` by another goroutine. -/
  | triggerFull
  /-- `SyncChanges.Trigger()` by another goroutine. -/
  | triggerChanges
  /-- `close(ShutdownCh)` by the application. -/
  | closeShutdown
  /-- A call of the pause API by another goroutine. -/
  | pauseCall (c : PauseCall)
  deriving DecidableEq, Repr

/-- The moves of the other goroutines. -/
def SyncerMove.isEnv : SyncerMove → Bool
  | .triggerFull | .triggerChanges | .closeShutdown | .pauseCall _ => true
  | _ => false

/-- The moves that `fullSync`'s own code makes. -/
def SyncerMove.ofFullSync : SyncerMove → Bool
  | .rearm _ | .foundPaused _ | .foundActive | .syncFullFailed _ _ | .syncFullDone | .delayElapsed
  | .fullTriggered _ | .shutdownReceived => true
  | _ => false

/-- A call of `isPaused` in `fullSync`. -/
def SyncerMove.isPauseCheck : SyncerMove → Bool
  | .foundPaused _ | .foundActive => true
  | _ => false

/-- A call of `State.SyncFull`. -/
def SyncerMove.callsSyncFull : SyncerMove → Bool
  | .syncFullFailed _ _ | .syncFullDone => true
  | _ => false

/-- A pause check is the goroutine's own move. -/
theorem SyncerMove.isEnv_of_isPauseCheck {m : SyncerMove} (h : m.isPauseCheck) :
    m.isEnv = false := by
  cases m <;> first | rfl | simp [isPauseCheck] at h

/-- A call of `State.SyncFull` is the goroutine's own move. -/
theorem SyncerMove.isEnv_of_callsSyncFull {m : SyncerMove} (h : m.callsSyncFull) :
    m.isEnv = false := by
  cases m <;> first | rfl | simp [callsSyncFull] at h

/-- A call of the pause API by another goroutine.  A Resume that returns true then triggers
`SyncChanges`; a Resume that panics leaves its fields behind, for a caller that recovers. -/
def Syncer.pauseStep (s : Syncer) : PauseCall → Option Syncer
  | .resume => s.pause.resume.map fun
    | (.ok r, p) => { s with pause := p, changesPending := s.changesPending || r }
    | (.error _, p) => { s with pause := p }
  | c => (s.pause.call c).map fun (_, p) => { s with pause := p }

/-- One move, when it can be taken from `s`. -/
def Syncer.step (cfg : SyncerConfig) (s : Syncer) : SyncerMove → Option Syncer
  | .rearm j =>
    if s.pc = .fullSync (.loop 0) ∧ cfg.jitter cfg.interval j then
      some { s with pc := .fullSync .pauseCheck, timerPending := true } else none
  | .foundPaused j =>
    if s.pc = .fullSync .pauseCheck ∧ s.pause.isPaused = some true ∧
        cfg.jitter cfg.retryFailInterval j then
      some { s with pc := .fullSync (.loop (cfg.retryFailInterval + j)) } else none
  | .foundActive =>
    if s.pc = .fullSync .pauseCheck ∧ s.pause.isPaused = some false then
      some { s with pc := .fullSync .syncFull } else none
  | .syncFullFailed _ j =>
    if s.pc = .fullSync .syncFull ∧ cfg.jitter cfg.retryFailInterval j then
      some { s with pc := .fullSync (.loop (cfg.retryFailInterval + j)) } else none
  | .syncFullDone =>
    if s.pc = .fullSync .syncFull then some { s with pc := .returned none } else none
  | .delayElapsed =>
    if s.pc.inFullSyncSelect then some { s with pc := .fullSync (.loop 0) } else none
  | .fullTriggered j =>
    if s.pc.selects ∧ s.fullPending ∧ cfg.jitter cfg.serverUpInterval j then
      some { s with pc := .fullSync (.loop j), fullPending := false } else none
  | .timerFired =>
    if s.pc = .select ∧ s.timerPending then
      some { s with pc := .fullSync (.loop 0), timerPending := false } else none
  | .changesTriggered =>
    if s.pc = .select ∧ s.changesPending then
      some { s with pc := .changesCheck, changesPending := false } else none
  | .changesSkipped =>
    if s.pc = .changesCheck ∧ s.pause.isPaused = some true then
      some { s with pc := .returned none } else none
  | .changesActive =>
    if s.pc = .changesCheck ∧ s.pause.isPaused = some false then
      some { s with pc := .syncChanges } else none
  | .syncChangesDone _ =>
    if s.pc = .syncChanges then some { s with pc := .returned none } else none
  | .shutdownReceived =>
    if s.pc.selects ∧ s.shutdown then some { s with pc := .returned (some errShutdown) } else none
  | .loopTest =>
    match s.pc with
    | .returned none => some { s with pc := .select }
    | .returned (some _) => some { s with pc := .done }
    | _ => none
  | .triggerFull => some { s with fullPending := true }
  | .triggerChanges => some { s with changesPending := true }
  | .closeShutdown => if s.shutdown then none else some { s with shutdown := true }
  | .pauseCall c => s.pauseStep c

/-- A run: the moves one after another, when each can be taken. -/
def Syncer.exec (cfg : SyncerConfig) : Syncer → List SyncerMove → Option Syncer
  | s, [] => some s
  | s, m :: ms => (s.step cfg m).bind fun s' => s'.exec cfg ms

/-- The control flow of the anti-entropy goroutine: the move that takes it from one place to the
next, with the `Jitter` values the move used. -/
inductive Flow (cfg : SyncerConfig) : SyncerPc → SyncerMove → SyncerPc → Prop
  | rearm j : cfg.jitter cfg.interval j →
      Flow cfg (.fullSync (.loop 0)) (.rearm j) (.fullSync .pauseCheck)
  | foundPaused j : cfg.jitter cfg.retryFailInterval j →
      Flow cfg (.fullSync .pauseCheck) (.foundPaused j)
        (.fullSync (.loop (cfg.retryFailInterval + j)))
  | foundActive : Flow cfg (.fullSync .pauseCheck) .foundActive (.fullSync .syncFull)
  | syncFullFailed e j : cfg.jitter cfg.retryFailInterval j →
      Flow cfg (.fullSync .syncFull) (.syncFullFailed e j)
        (.fullSync (.loop (cfg.retryFailInterval + j)))
  | syncFullDone : Flow cfg (.fullSync .syncFull) .syncFullDone (.returned none)
  | delayElapsed d : d ≠ 0 → Flow cfg (.fullSync (.loop d)) .delayElapsed (.fullSync (.loop 0))
  | fullTriggered pc j : pc.selects → cfg.jitter cfg.serverUpInterval j →
      Flow cfg pc (.fullTriggered j) (.fullSync (.loop j))
  | timerFired : Flow cfg .select .timerFired (.fullSync (.loop 0))
  | changesTriggered : Flow cfg .select .changesTriggered .changesCheck
  | changesSkipped : Flow cfg .changesCheck .changesSkipped (.returned none)
  | changesActive : Flow cfg .changesCheck .changesActive .syncChanges
  | syncChangesDone e : Flow cfg .syncChanges (.syncChangesDone e) (.returned none)
  | shutdownReceived pc : pc.selects →
      Flow cfg pc .shutdownReceived (.returned (some errShutdown))
  | loopNil : Flow cfg (.returned none) .loopTest .select
  | loopErr e : Flow cfg (.returned (some e)) .loopTest .done

namespace Syncer

variable {cfg : SyncerConfig} {s s' : Syncer} {m : SyncerMove}

theorem inFullSyncSelect_iff {pc : SyncerPc} :
    pc.inFullSyncSelect = true ↔ ∃ d, d ≠ 0 ∧ pc = .fullSync (.loop d) := by
  rcases pc with (_ | _ | _) | _ | _ | _ | _ | _ <;> simp [SyncerPc.inFullSyncSelect]

/-- What a move of the goroutine can do to its place. -/
theorem step_flow (hm : m.isEnv = false) (h : s.step cfg m = some s') : Flow cfg s.pc m s'.pc := by
  cases m <;> simp only [step, SyncerMove.isEnv, Bool.true_eq_false, Option.ite_none_right_eq_some,
    Option.some.injEq] at h hm
  case rearm j => obtain ⟨⟨hpc, hj⟩, rfl⟩ := h; exact hpc ▸ .rearm j hj
  case foundPaused j => obtain ⟨⟨hpc, -, hj⟩, rfl⟩ := h; exact hpc ▸ .foundPaused j hj
  case foundActive => obtain ⟨⟨hpc, -⟩, rfl⟩ := h; exact hpc ▸ .foundActive
  case syncFullFailed e j => obtain ⟨⟨hpc, hj⟩, rfl⟩ := h; exact hpc ▸ .syncFullFailed e j hj
  case syncFullDone => obtain ⟨hpc, rfl⟩ := h; exact hpc ▸ .syncFullDone
  case delayElapsed =>
    obtain ⟨hpc, rfl⟩ := h
    obtain ⟨d, hd, hpc⟩ := inFullSyncSelect_iff.1 hpc
    exact hpc ▸ .delayElapsed d hd
  case fullTriggered j => obtain ⟨⟨hpc, -, hj⟩, rfl⟩ := h; exact .fullTriggered _ j hpc hj
  case timerFired => obtain ⟨⟨hpc, -⟩, rfl⟩ := h; exact hpc ▸ .timerFired
  case changesTriggered => obtain ⟨⟨hpc, -⟩, rfl⟩ := h; exact hpc ▸ .changesTriggered
  case changesSkipped => obtain ⟨⟨hpc, -⟩, rfl⟩ := h; exact hpc ▸ .changesSkipped
  case changesActive => obtain ⟨⟨hpc, -⟩, rfl⟩ := h; exact hpc ▸ .changesActive
  case syncChangesDone e => obtain ⟨hpc, rfl⟩ := h; exact hpc ▸ .syncChangesDone e
  case shutdownReceived => obtain ⟨⟨hpc, -⟩, rfl⟩ := h; exact .shutdownReceived _ hpc
  case loopTest =>
    split at h <;> simp only [reduceCtorEq, Option.some.injEq] at h <;> subst h <;> rename_i hpc
    · exact hpc ▸ .loopNil
    · exact hpc ▸ .loopErr _

/-- The other goroutines never move the anti-entropy goroutine. -/
theorem step_pc_of_isEnv (hm : m.isEnv = true) (h : s.step cfg m = some s') : s'.pc = s.pc := by
  cases m <;> simp only [SyncerMove.isEnv, reduceCtorEq] at hm <;>
    simp only [step, Option.some.injEq, Option.ite_none_left_eq_some] at h
  · exact h ▸ rfl
  · exact h ▸ rfl
  · exact h.2 ▸ rfl
  · rename_i c
    cases c <;> simp only [pauseStep, Option.map_eq_some'] at h <;> obtain ⟨_, -, rfl⟩ := h
    · rfl
    · split <;> rfl
    · rfl
    · rfl

theorem exec_cons : s.exec cfg (m :: ms) = (s.step cfg m).bind fun s' => s'.exec cfg ms := rfl

theorem exec_append {xs ys : List SyncerMove} :
    s.exec cfg (xs ++ ys) = (s.exec cfg xs).bind fun s' => s'.exec cfg ys := by
  induction xs generalizing s with
  | nil => rfl
  | cons x xs ih =>
    simp only [List.cons_append, exec_cons]
    cases s.step cfg x <;> simp [ih]

theorem exec_snoc {xs : List SyncerMove} :
    s.exec cfg (xs ++ [m]) = (s.exec cfg xs).bind fun s' => s'.step cfg m := by
  rw [exec_append]
  cases s.exec cfg xs <;> simp [exec_cons, exec]

theorem exec_append_cons_eq_some {xs ys : List SyncerMove} (h : s.exec cfg (xs ++ m :: ys) = some s') :
    ∃ s₁ s₂, s.exec cfg xs = some s₁ ∧ s₁.step cfg m = some s₂ ∧
      s₂.exec cfg ys = some s' := by
  rw [exec_append] at h
  obtain ⟨s₁, h₁, h⟩ := Option.bind_eq_some.1 h
  obtain ⟨s₂, h₂, h⟩ := Option.bind_eq_some.1 h
  exact ⟨s₁, s₂, h₁, h₂, h⟩

theorem exec_snoc_eq_some {xs : List SyncerMove} (h : s.exec cfg (xs ++ [m]) = some s') :
    ∃ s₀, s.exec cfg xs = some s₀ ∧ s₀.step cfg m = some s' := by
  rw [exec_snoc] at h
  exact Option.bind_eq_some.1 h

end Syncer

/-- The anti-entropy goroutine's own moves of a run, in order. -/
def ownMoves (moves : List SyncerMove) : List SyncerMove :=
  moves.filter fun m => !m.isEnv

@[simp] theorem ownMoves_nil : ownMoves [] = [] := rfl

theorem ownMoves_snoc (moves : List SyncerMove) (m : SyncerMove) :
    ownMoves (moves ++ [m]) = ownMoves moves ++ (if m.isEnv then [] else [m]) := by
  cases h : m.isEnv <;> simp [ownMoves, List.filter_append, h]

/-! ### Run returns only on shutdown -/

/-- `fullSync` or `sync` has returned an error to `Run`, or `Run` has returned. -/
def SyncerPc.ending : SyncerPc → Bool
  | .returned (some _) | .done => true
  | _ => false

theorem SyncerPc.selects_eq_false_of_ending {pc : SyncerPc} (h : pc.ending) :
    pc.selects = false := by
  cases pc with
  | fullSync p => cases p <;> simp [SyncerPc.ending] at h
  | returned e => rfl
  | _ => simp_all [SyncerPc.ending, SyncerPc.selects, SyncerPc.inFullSyncSelect]

namespace Flow

variable {cfg : SyncerConfig} {pc pc' : SyncerPc} {m : SyncerMove}

/-- Only the `ShutdownCh` case returns an error, and the error is `errShutdown`. -/
theorem returned_some (hf : Flow cfg pc m pc') {e : String} (he : pc' = .returned (some e)) :
    m = .shutdownReceived ∧ e = errShutdown := by
  cases hf <;> simp_all

/-- `Run` returns only from its loop test, on an error. -/
theorem into_done (hf : Flow cfg pc m pc') (he : pc' = .done) :
    m = .loopTest ∧ ∃ e, pc = .returned (some e) := by
  cases hf <;> simp_all

/-- Once an error is returned, the goroutine only runs `Run`'s loop test. -/
theorem of_ending (hf : Flow cfg pc m pc') (h : pc.ending) : m = .loopTest ∧ pc'.ending := by
  cases hf with
  | fullTriggered _ _ hsel => simp [SyncerPc.selects_eq_false_of_ending h] at hsel
  | shutdownReceived _ hsel => simp [SyncerPc.selects_eq_false_of_ending h] at hsel
  | loopErr => exact ⟨rfl, rfl⟩
  | _ => simp [SyncerPc.ending] at h

theorem into_ending (hf : Flow cfg pc m pc') (h : pc.ending = false) (h' : pc'.ending) :
    m = .shutdownReceived := by
  cases hf <;> simp_all [SyncerPc.ending]

end Flow

namespace Syncer

variable {cfg : SyncerConfig} {s s' : Syncer}

/-- From an ending place, every move of a run is the loop test or another goroutine's. -/
theorem exec_of_ending {moves : List SyncerMove} (hs : s.pc.ending) (h : s.exec cfg moves = some s') :
    s'.pc.ending ∧ ∀ m ∈ moves, m = .loopTest ∨ m.isEnv := by
  induction moves generalizing s with
  | nil => cases h; exact ⟨hs, by simp⟩
  | cons m ms ih =>
    obtain ⟨s₁, h₁, h₂⟩ := Option.bind_eq_some.1 h
    have hm : s₁.pc.ending ∧ (m = .loopTest ∨ m.isEnv) := by
      cases hm : m.isEnv
      · have := (step_flow hm h₁).of_ending hs
        exact ⟨this.2, .inl this.1⟩
      · exact ⟨step_pc_of_isEnv hm h₁ ▸ hs, .inr rfl⟩
    obtain ⟨he, hall⟩ := ih hm.1 h₂
    exact ⟨he, List.forall_mem_cons.2 ⟨hm.2, hall⟩⟩

/-- A run from a place that is not ending reaches an ending one only by receiving from
`ShutdownCh`, after which only the loop test and the other goroutines move. -/
theorem exec_into_ending {moves : List SyncerMove} (hs : s.pc.ending = false)
    (h : s.exec cfg moves = some s') (h' : s'.pc.ending) :
    ∃ pre post, moves = pre ++ .shutdownReceived :: post ∧ ∀ m ∈ post, m = .loopTest ∨ m.isEnv := by
  induction moves generalizing s with
  | nil => cases h; simp_all
  | cons m ms ih =>
    obtain ⟨s₁, h₁, h₂⟩ := Option.bind_eq_some.1 h
    cases e₁ : s₁.pc.ending
    · obtain ⟨pre, post, rfl, hpost⟩ := ih e₁ h₂
      exact ⟨m :: pre, post, rfl, hpost⟩
    · have hm : m.isEnv = false := by
        cases hm : m.isEnv
        · rfl
        · simp_all [step_pc_of_isEnv hm h₁]
      exact ⟨[], ms, by rw [(step_flow hm h₁).into_ending hs e₁]; rfl, (exec_of_ending e₁ h₂).2⟩

end Syncer

/-- `Run` ends only on shutdown: in every run, whatever the triggers, timers, pause calls and
results of the state, `Run` has returned only after a receive from `ShutdownCh`, the goroutine's
last move before its loop test, and a failed sync is never returned. -/
theorem run_returns_only_after_shutdown (cfg : SyncerConfig) :
    (∀ (s s' : Syncer) m e, m.isEnv = false → s.step cfg m = some s' →
      s'.pc = .returned (some e) → m = .shutdownReceived ∧ e = errShutdown) ∧
    (∀ (s s' : Syncer) m, m.isEnv = false → s.step cfg m = some s' → s'.pc = .done →
      m = .loopTest ∧ ∃ e, s.pc = .returned (some e)) ∧
    (∀ (s s' : Syncer) moves, s.pc = .fullSync (.loop 0) → s.exec cfg moves = some s' →
      s'.pc = .done → ∃ pre post, moves = pre ++ .shutdownReceived :: post ∧
        ∀ m ∈ post, m = .loopTest ∨ m.isEnv) :=
  ⟨fun _ _ _ _ hm h he => (Syncer.step_flow hm h).returned_some he,
    fun _ _ _ hm h he => (Syncer.step_flow hm h).into_done he,
    fun _ _ _ hs h he => Syncer.exec_into_ending (by rw [hs]; rfl) h (by rw [he]; rfl)⟩

/-- A run in which `Run` returns: one full sync, then the application closes `ShutdownCh`. -/
theorem run_returns_after_shutdown_received :
    let cfg := newStateSyncer (60 * second) (clusterSizeJitter 1000)
    let moves : List SyncerMove := [.rearm 0, .foundActive, .syncFullDone, .loopTest,
      .closeShutdown, .shutdownReceived, .loopTest]
    ∃ s', (Syncer.start .init).exec cfg moves = some s' ∧ s'.pc = .done ∧
      ∃ pre post, moves = pre ++ .shutdownReceived :: post ∧
        ∀ m ∈ post, m = .loopTest ∨ m.isEnv := by
  intro cfg moves
  have h : (Syncer.start .init).exec cfg moves =
      some { Syncer.start .init with pc := .done, timerPending := true, shutdown := true } := rfl
  exact ⟨_, h, rfl, (run_returns_only_after_shutdown cfg).2.2 _ _ moves rfl h rfl⟩

/-! ### `fullSync` calls the state only when active, and waits after each attempt -/

/-- Past a pause check and before the next delay expiry or `SyncFull` trigger: waiting on a
positive delay, about to call `State.SyncFull`, or returned. -/
def SyncerPc.settled : SyncerPc → Prop
  | .fullSync (.loop d) => 0 < d
  | .fullSync .syncFull => True
  | .returned _ => True
  | _ => False

namespace Flow

variable {cfg : SyncerConfig} {pc pc' : SyncerPc} {m : SyncerMove}

/-- `isPaused` is called in `fullSync` only right after a re-arm. -/
theorem into_pauseCheck (hf : Flow cfg pc m (.fullSync .pauseCheck)) : ∃ j, m = .rearm j := by
  cases hf
  exact ⟨_, rfl⟩

/-- `State.SyncFull` is reached only from a pause check that found the syncer active. -/
theorem into_syncFull (hf : Flow cfg pc m (.fullSync .syncFull)) :
    m = .foundActive ∧ pc = .fullSync .pauseCheck := by
  cases hf
  exact ⟨rfl, rfl⟩

theorem source_of_callsSyncFull (hf : Flow cfg pc m pc') (hm : m.callsSyncFull) :
    pc = .fullSync .syncFull := by
  cases hf <;> simp_all [SyncerMove.callsSyncFull]

/-- Of `fullSync`'s moves, only a `State.SyncFull` that returned nil returns nil. -/
theorem into_returned_none (hf : Flow cfg pc m (.returned none)) (hm : m.ofFullSync) :
    m = .syncFullDone := by
  cases hf <;> simp_all [SyncerMove.ofFullSync]

/-- A paused or failed attempt sets the delay to `retryFailInterval + Jitter(retryFailInterval)`. -/
theorem retry_of_attempt (hf : Flow cfg pc m pc') {j : Int}
    (hm : m = .foundPaused j ∨ ∃ e, m = .syncFullFailed e j) :
    pc' = .fullSync (.loop (cfg.retryFailInterval + j)) ∧ cfg.jitter cfg.retryFailInterval j := by
  rcases hm with rfl | ⟨e, rfl⟩ <;> cases hf <;> exact ⟨rfl, ‹_›⟩

theorem not_settled_of_isPauseCheck (hf : Flow cfg pc m pc') (hm : m.isPauseCheck) :
    ¬ pc.settled := by
  cases hf <;> simp_all [SyncerMove.isPauseCheck, SyncerPc.settled]

section Jitter

variable (hjitter : ∀ b j, cfg.jitter b j = true → 0 ≤ j) (hretry : 0 < cfg.retryFailInterval)
include hjitter hretry

/-- A pause check leaves `fullSync` waiting on `retryFailInterval + Jitter(retryFailInterval)`,
which is positive, or about to call `State.SyncFull`. -/
theorem settled_of_isPauseCheck (hf : Flow cfg pc m pc') (hm : m.isPauseCheck) : pc'.settled := by
  cases hf with
  | foundPaused j hj =>
    have := hjitter _ _ hj
    show 0 < cfg.retryFailInterval + j
    omega
  | foundActive => trivial
  | _ => simp [SyncerMove.isPauseCheck] at hm

/-- Until a delay expires or `SyncFull` is triggered, `fullSync` stays settled: a failed call
waits on a positive delay again. -/
theorem settled_of_settled (hf : Flow cfg pc m pc') (hs : pc.settled) (hm : m.ofFullSync)
    (hwait : m ≠ .delayElapsed) (htrig : ∀ j, m ≠ .fullTriggered j) : pc'.settled := by
  cases hf with
  | syncFullFailed e j hj =>
    have := hjitter _ _ hj
    show 0 < cfg.retryFailInterval + j
    omega
  | syncFullDone => trivial
  | shutdownReceived => trivial
  | delayElapsed => exact absurd rfl hwait
  | fullTriggered _ j => exact absurd rfl (htrig j)
  | _ => simp_all [SyncerMove.ofFullSync, SyncerPc.settled]

end Jitter

end Flow

namespace Syncer

variable {cfg : SyncerConfig} {s s' : Syncer}

/-- In a run that starts neither at the pause check nor at the call of `State.SyncFull`, the
goroutine reaches the pause check only by a re-arm, and the call only by a re-arm followed by a
pause check that found the syncer active. -/
theorem exec_own_of_pauseCheck {moves : List SyncerMove} (hs₁ : s.pc ≠ .fullSync .pauseCheck)
    (hs₂ : s.pc ≠ .fullSync .syncFull) (h : s.exec cfg moves = some s') :
    (s'.pc = .fullSync .pauseCheck → ∃ own j, ownMoves moves = own ++ [.rearm j]) ∧
    (s'.pc = .fullSync .syncFull → ∃ own j, ownMoves moves = own ++ [.rearm j, .foundActive]) := by
  induction moves using List.reverseRecOn generalizing s' with
  | nil =>
    cases h
    exact ⟨fun e => absurd e hs₁, fun e => absurd e hs₂⟩
  | append_singleton pre m ih =>
    obtain ⟨s₀, h₀, hm⟩ := exec_snoc_eq_some h
    rw [ownMoves_snoc]
    cases he : m.isEnv
    · have hf := step_flow he hm
      simp only [Bool.false_eq_true, if_false]
      refine ⟨fun e => ?_, fun e => ?_⟩
      · obtain ⟨j, rfl⟩ := (e ▸ hf).into_pauseCheck
        exact ⟨ownMoves pre, j, rfl⟩
      · obtain ⟨rfl, h₀pc⟩ := (e ▸ hf).into_syncFull
        obtain ⟨own, j, hown⟩ := (ih h₀).1 h₀pc
        exact ⟨own, j, by simp [hown]⟩
    · simp only [if_true, List.append_nil]
      rw [step_pc_of_isEnv he hm]
      exact ih h₀

/-- A run of `fullSync`'s own moves that has returned nil ended with a `State.SyncFull` call that
returned nil, other goroutines aside. -/
theorem exec_own_of_returned_none {moves : List SyncerMove} (hs : s.pc ≠ .returned none)
    (hmoves : ∀ m ∈ moves, m.ofFullSync ∨ m.isEnv) (h : s.exec cfg moves = some s')
    (h' : s'.pc = .returned none) : ∃ own, ownMoves moves = own ++ [.syncFullDone] := by
  induction moves using List.reverseRecOn generalizing s' with
  | nil => cases h; exact absurd h' hs
  | append_singleton pre m ih =>
    obtain ⟨s₀, h₀, hm⟩ := exec_snoc_eq_some h
    have hpre : ∀ x ∈ pre, x.ofFullSync ∨ x.isEnv := fun x hx => hmoves x (by simp [hx])
    rw [ownMoves_snoc]
    cases he : m.isEnv
    · have hof : m.ofFullSync := by simpa [he] using hmoves m (by simp)
      have hf := step_flow he hm
      rw [h'] at hf
      rw [hf.into_returned_none hof]
      exact ⟨ownMoves pre, by simp⟩
    · simp only [if_true, List.append_nil]
      exact ih hpre h₀ (step_pc_of_isEnv he hm ▸ h')

/-- From a settled place, a run of `fullSync`'s moves and other goroutines' with no delay expiry
and no `SyncFull` trigger stays settled. -/
theorem exec_settled (hjitter : ∀ b j, cfg.jitter b j = true → 0 ≤ j)
    (hretry : 0 < cfg.retryFailInterval) {mid : List SyncerMove} (hs : s.pc.settled)
    (hmid : ∀ x ∈ mid,
      (x.ofFullSync ∨ x.isEnv) ∧ x ≠ .delayElapsed ∧ ∀ j, x ≠ .fullTriggered j)
    (h : s.exec cfg mid = some s') : s'.pc.settled := by
  induction mid generalizing s with
  | nil => cases h; exact hs
  | cons x xs ih =>
    obtain ⟨s₁, h₁, h₂⟩ := Option.bind_eq_some.1 h
    obtain ⟨hx, hwait, htrig⟩ := hmid x (List.mem_cons_self _ _)
    refine ih ?_ (fun y hy => hmid y (List.mem_cons_of_mem _ hy)) h₂
    cases he : x.isEnv
    · exact (step_flow he h₁).settled_of_settled hjitter hretry hs (by simpa [he] using hx) hwait htrig
    · exact step_pc_of_isEnv he h₁ ▸ hs

end Syncer

/-- `fullSync`, over every run with a nonnegative `Jitter` and a positive `retryFailInterval`:
`State.SyncFull` is called only after a re-arm and a pause check that found the syncer active,
and every paused or failed attempt waits a positive delay or a `SyncFull` trigger. -/
theorem fullSync_syncs_only_when_active (cfg : SyncerConfig)
    (hjitter : ∀ b j, cfg.jitter b j = true → 0 ≤ j) (hretry : 0 < cfg.retryFailInterval)
    {s s' : Syncer} {d : Int} (hs : s.pc = .fullSync (.loop d)) {moves : List SyncerMove}
    (hmoves : ∀ m ∈ moves, m.ofFullSync ∨ m.isEnv) (h : s.exec cfg moves = some s') :
    (∀ pre m post, moves = pre ++ m :: post → m.callsSyncFull →
      ∃ own j, ownMoves pre = own ++ [.rearm j, .foundActive]) ∧
    (s'.pc = .returned none → ∃ own, ownMoves moves = own ++ [.syncFullDone]) ∧
    (∀ pre m post j, moves = pre ++ m :: post →
      (m = .foundPaused j ∨ ∃ e, m = .syncFullFailed e j) →
      0 < cfg.retryFailInterval + j ∧ ∃ s₁, s.exec cfg (pre ++ [m]) = some s₁ ∧
        s₁.pc = .fullSync (.loop (cfg.retryFailInterval + j))) ∧
    (∀ pre m₁ mid m₂ post, moves = pre ++ m₁ :: mid ++ m₂ :: post → m₁.isPauseCheck →
      m₂.isPauseCheck → ∃ x ∈ mid, x = .delayElapsed ∨ ∃ j, x = .fullTriggered j) := by
  refine ⟨fun pre m post e hm => ?_, Syncer.exec_own_of_returned_none (by simp [hs]) hmoves h,
    fun pre m post j e hm => ?_, fun pre m₁ mid m₂ post e h₁ h₂ => ?_⟩
  · obtain ⟨s₁, s₂, hpre, hstep, -⟩ := Syncer.exec_append_cons_eq_some (e ▸ h)
    exact (Syncer.exec_own_of_pauseCheck (by simp [hs]) (by simp [hs]) hpre).2
      ((Syncer.step_flow (SyncerMove.isEnv_of_callsSyncFull hm) hstep).source_of_callsSyncFull hm)
  · obtain ⟨s₁, s₂, hpre, hstep, -⟩ := Syncer.exec_append_cons_eq_some (e ▸ h)
    have hown : m.isEnv = false := by rcases hm with rfl | ⟨_, rfl⟩ <;> rfl
    have hpc := (Syncer.step_flow hown hstep).retry_of_attempt hm
    exact ⟨by have := hjitter _ _ hpc.2; omega, s₂, by rw [Syncer.exec_snoc, hpre]; exact hstep, hpc.1⟩
  · by_contra hno
    push_neg at hno
    rw [show pre ++ m₁ :: mid ++ m₂ :: post = pre ++ m₁ :: (mid ++ m₂ :: post) by simp] at e
    obtain ⟨s₁, s₂, -, hstep₁, hrest⟩ := Syncer.exec_append_cons_eq_some (e ▸ h)
    obtain ⟨s₃, s₄, hmid, hstep₂, -⟩ := Syncer.exec_append_cons_eq_some hrest
    have hsettled := Syncer.exec_settled hjitter hretry
      ((Syncer.step_flow (SyncerMove.isEnv_of_isPauseCheck h₁) hstep₁).settled_of_isPauseCheck
        hjitter hretry h₁)
      (fun x hx => ⟨hmoves x (by rw [e]; simp [hx]), (hno x hx).1, (hno x hx).2⟩) hmid
    exact (Syncer.step_flow (SyncerMove.isEnv_of_isPauseCheck h₂) hstep₂).not_settled_of_isPauseCheck
      h₂ hsettled

theorem fullSync_syncs_only_when_active_first_sync :
    ∃ own, ownMoves [.rearm 0, .foundActive, .syncFullDone] = own ++ [.syncFullDone] :=
  (@fullSync_syncs_only_when_active (newStateSyncer (60 * second) (clusterSizeJitter 1000))
    (fun _ _ h => (clusterSizeJitter_bounds h).1) (by decide) (Syncer.start .init)
    { Syncer.start .init with pc := .returned none, timerPending := true } 0 rfl
    [.rearm 0, .foundActive, .syncFullDone] (by decide) rfl).2.1 rfl

namespace Syncer

variable {cfg : SyncerConfig} {s s' : Syncer}

/-- Only the pause calls of other goroutines change the pause fields. -/
theorem step_pause {m : SyncerMove} (h : s.step cfg m = some s') :
    s'.pause = s.pause ∨ ∃ c, m = .pauseCall c ∧ s.pauseStep c = some s' := by
  cases m
  case pauseCall c => exact .inr ⟨c, rfl, h⟩
  all_goals
    left
    simp only [step] at h
    repeat' split at h
    all_goals (simp only [Option.some.injEq, reduceCtorEq] at h; try (subst h; rfl))

theorem pauseStep_of_locked (hl : s.pause.locked) (c : PauseCall) : s.pauseStep c = none := by
  cases c <;> simp [pauseStep, PauseState.call, PauseState.pause, PauseState.resume,
    PauseState.isPaused, PauseState.waitResume, PauseState.lock, hl]

/-- With `pauseLock` held, as a panicking Resume leaves it, no move releases it, and no call of
`isPaused` by the goroutine returns. -/
theorem step_of_locked {m : SyncerMove} (hl : s.pause.locked) (h : s.step cfg m = some s') :
    s'.pause.locked ∧ m.isPauseCheck = false ∧ m ≠ .changesSkipped ∧ m ≠ .changesActive := by
  have hnone : s.pause.isPaused = none := by simp [PauseState.isPaused, PauseState.lock, hl]
  refine ⟨?_, ?_, ?_, ?_⟩
  · rcases step_pause h with e | ⟨c, rfl, hc⟩
    · exact e ▸ hl
    · simp [pauseStep_of_locked hl] at hc
  · cases m <;> first | rfl | simp [step, hnone] at h
  · rintro rfl
    simp [step, hnone] at h
  · rintro rfl
    simp [step, hnone] at h

/-- After a Resume has panicked, the anti-entropy goroutine never passes a pause check again:
every later run keeps `pauseLock` held and has no move of `isPaused`. -/
theorem exec_of_locked {moves : List SyncerMove} (hl : s.pause.locked)
    (h : s.exec cfg moves = some s') :
    s'.pause.locked ∧ ∀ m ∈ moves, m.isPauseCheck = false ∧ m ≠ .changesSkipped ∧
      m ≠ .changesActive := by
  induction moves generalizing s with
  | nil => cases h; exact ⟨hl, by simp⟩
  | cons m ms ih =>
    obtain ⟨s₁, h₁, h₂⟩ := Option.bind_eq_some.1 h
    obtain ⟨hl₁, hm⟩ := step_of_locked hl h₁
    obtain ⟨hl', hall⟩ := ih hl₁ h₂
    exact ⟨hl', List.forall_mem_cons.2 ⟨hm, hall⟩⟩

/-! ## The next full sync -/

/-- Wherever the goroutine is, except at the top of `fullSync`'s loop with delay zero, where its
next move arms one, `timerNextFullSync` holds a timer not yet received. -/
def TimerArmed (s : Syncer) : Prop :=
  s.pc ≠ .fullSync (.loop 0) → s.timerPending = true

/-- Only a re-arm and a receive from `timerNextFullSync` change whether it holds a timer. -/
theorem step_timerPending {m : SyncerMove} (h : s.step cfg m = some s') (hr : ∀ j, m ≠ .rearm j)
    (ht : m ≠ .timerFired) : s'.timerPending = s.timerPending := by
  cases m
  case rearm j => exact absurd rfl (hr j)
  case timerFired => exact absurd rfl ht
  case pauseCall c =>
    cases c <;> simp only [step, pauseStep, Option.map_eq_some'] at h <;> obtain ⟨_, -, rfl⟩ := h
    · rfl
    · split <;> rfl
    · rfl
    · rfl
  all_goals
    simp only [step] at h
    repeat' split at h
    all_goals (simp only [Option.some.injEq, reduceCtorEq] at h; try (subst h; rfl))

/-- The top of `fullSync`'s loop with delay zero is left only by arming the timer. -/
theorem rearm_of_flow_zero {m : SyncerMove} {pc' : SyncerPc}
    (hf : Flow cfg (.fullSync (.loop 0)) m pc') : ∃ j, m = .rearm j := by
  cases hf with
  | rearm j _ => exact ⟨j, rfl⟩
  | delayElapsed _ hd => exact absurd rfl hd
  | fullTriggered _ _ hsel _ => simp [SyncerPc.selects, SyncerPc.inFullSyncSelect] at hsel
  | shutdownReceived _ hsel => simp [SyncerPc.selects, SyncerPc.inFullSyncSelect] at hsel

theorem TimerArmed.step {m : SyncerMove} (hs : s.TimerArmed) (h : s.step cfg m = some s') :
    s'.TimerArmed := by
  intro hpc'
  by_cases hr : ∃ j, m = .rearm j
  · obtain ⟨j, rfl⟩ := hr
    simp only [Syncer.step, Option.ite_none_right_eq_some, Option.some.injEq] at h
    obtain ⟨-, rfl⟩ := h
    rfl
  by_cases ht : m = .timerFired
  · subst ht
    simp only [Syncer.step, Option.ite_none_right_eq_some, Option.some.injEq] at h
    obtain ⟨-, rfl⟩ := h
    exact absurd rfl hpc'
  rw [step_timerPending h (fun j e => hr ⟨j, e⟩) ht]
  refine hs fun hpc => ?_
  cases henv : m.isEnv
  · exact hr (rearm_of_flow_zero (hpc ▸ step_flow henv h))
  · exact hpc' (step_pc_of_isEnv henv h ▸ hpc)

theorem TimerArmed.exec {moves : List SyncerMove} (hs : s.TimerArmed)
    (h : s.exec cfg moves = some s') : s'.TimerArmed := by
  induction moves generalizing s with
  | nil => cases h; exact hs
  | cons m ms ih =>
    obtain ⟨s₁, h₁, h₂⟩ := Option.bind_eq_some.1 h
    exact ih (hs.step h₁) h₂

end Syncer

/-- Over every run of `Run`, interleaved with any moves of the other goroutines, the next full sync
is never lost: away from the top of `fullSync`'s loop with delay zero, where the goroutine arms it
next, `timerNextFullSync` holds a timer not yet received, so that in `sync`'s `select` its case
can always be taken, and starts `fullSync(0)`. -/
theorem run_keeps_next_full_sync (cfg : SyncerConfig) (p : PauseState) {moves : List SyncerMove}
    {s : Syncer} (h : (Syncer.start p).exec cfg moves = some s) :
    (s.pc ≠ .fullSync (.loop 0) → s.timerPending = true) ∧
      (s.pc = .select →
        s.step cfg .timerFired =
          some { s with pc := .fullSync (.loop 0), timerPending := false }) := by
  have hs : s.TimerArmed := Syncer.TimerArmed.exec (fun h => absurd rfl h) h
  refine ⟨hs, fun hpc => ?_⟩
  simp [Syncer.step, hpc, hs (by rw [hpc]; decide)]

theorem first_sync_keeps_next_full_sync :
    let cfg := newStateSyncer (60 * second) (clusterSizeJitter 1000)
    let s : Syncer := { Syncer.start .init with pc := .select, timerPending := true }
    (Syncer.start .init).exec cfg [.rearm 0, .foundActive, .syncFullDone, .loopTest] = some s ∧
      (s.pc ≠ .fullSync (.loop 0) → s.timerPending = true) ∧
      (s.pc = .select →
        s.step cfg .timerFired = some { s with pc := .fullSync (.loop 0), timerPending := false }) :=
  have h : (Syncer.start .init).exec (newStateSyncer (60 * second) (clusterSizeJitter 1000))
      [.rearm 0, .foundActive, .syncFullDone, .loopTest] =
        some { Syncer.start .init with pc := .select, timerPending := true } := rfl
  ⟨h, run_keeps_next_full_sync _ _ h⟩

/-! ## Partial syncs -/

/-- In `sync` or about to enter it: at its `select`, in its `SyncChanges` case, or returned nil to
`Run`. -/
def SyncerPc.inSync : SyncerPc → Bool
  | .select | .changesCheck | .syncChanges | .returned none => true
  | _ => false

namespace Flow

variable {cfg : SyncerConfig} {pc pc' : SyncerPc} {m : SyncerMove}

/-- `sync` is entered only from a `fullSync` whose `State.SyncFull` call returned nil. -/
theorem syncFullDone_of_inSync (hf : Flow cfg pc m pc') (h : pc.inSync = false)
    (h' : pc'.inSync) : m = .syncFullDone := by
  cases hf <;> simp_all [SyncerPc.inSync]

/-- `sync`'s `SyncChanges` case is entered only from its `select`. -/
theorem into_changesCheck (hf : Flow cfg pc m .changesCheck) :
    m = .changesTriggered ∧ pc = .select := by
  cases hf
  exact ⟨rfl, rfl⟩

/-- `State.SyncChanges` is reached only from a pause check in `sync` that found the syncer
active. -/
theorem into_syncChanges (hf : Flow cfg pc m .syncChanges) :
    m = .changesActive ∧ pc = .changesCheck := by
  cases hf
  exact ⟨rfl, rfl⟩

end Flow

namespace Syncer

variable {cfg : SyncerConfig} {s s' : Syncer}

/-- Only a `SyncChanges.Trigger()` and a Resume give `SyncChanges` a pending value. -/
theorem changesPending_of_step {m : SyncerMove} (h : s.step cfg m = some s')
    (h' : s'.changesPending) :
    s.changesPending ∨ m = .triggerChanges ∨ m = .pauseCall .resume := by
  cases m
  case triggerChanges => exact .inr (.inl rfl)
  case pauseCall c =>
    cases c
    case resume => exact .inr (.inr rfl)
    all_goals
      simp only [step, pauseStep, Option.map_eq_some'] at h
      obtain ⟨_, -, rfl⟩ := h
      exact .inl h'
  all_goals
    left
    simp only [step] at h
    repeat' split at h
    all_goals
      simp only [Option.some.injEq, reduceCtorEq] at h
      try (subst h; first | exact h' | simp at h')

/-- From no pending value, a run gives `SyncChanges` one only by a trigger or a Resume. -/
theorem trigger_of_changesPending {moves : List SyncerMove} (hp : s.changesPending = false)
    (h : s.exec cfg moves = some s') (h' : s'.changesPending) :
    .triggerChanges ∈ moves ∨ .pauseCall .resume ∈ moves := by
  induction moves generalizing s with
  | nil => cases h; simp_all
  | cons m ms ih =>
    obtain ⟨s₁, h₁, h₂⟩ := Option.bind_eq_some.1 h
    cases hp₁ : s₁.changesPending
    · rcases ih hp₁ h₂ with hm | hm <;> simp [hm]
    · rcases changesPending_of_step h₁ hp₁ with hs | rfl | rfl
      · simp_all
      · simp
      · simp

/-- A run from outside `sync` enters it only through a `State.SyncFull` call that returned nil. -/
theorem syncFullDone_of_inSync {moves : List SyncerMove} (hs : s.pc.inSync = false)
    (h : s.exec cfg moves = some s') (h' : s'.pc.inSync) : .syncFullDone ∈ moves := by
  induction moves generalizing s with
  | nil => cases h; simp_all
  | cons m ms ih =>
    obtain ⟨s₁, h₁, h₂⟩ := Option.bind_eq_some.1 h
    cases hs₁ : s₁.pc.inSync
    · exact List.mem_cons_of_mem _ (ih hs₁ h₂)
    · cases he : m.isEnv
      · rw [(step_flow he h₁).syncFullDone_of_inSync hs hs₁]
        exact List.mem_cons_self _ _
      · simp_all [step_pc_of_isEnv he h₁]

/-- In a run that starts outside `sync`'s `SyncChanges` case with no pending value, the goroutine
reaches the case only by receiving a `SyncChanges` trigger, and `State.SyncChanges` only by such a
receive followed by a pause check that found the syncer active; and the trigger was sent. -/
theorem exec_own_of_syncChanges {moves : List SyncerMove} (hs₁ : s.pc ≠ .changesCheck)
    (hs₂ : s.pc ≠ .syncChanges) (hp : s.changesPending = false)
    (h : s.exec cfg moves = some s') :
    (s'.pc = .changesCheck → (∃ own, ownMoves moves = own ++ [.changesTriggered]) ∧
      (.triggerChanges ∈ moves ∨ .pauseCall .resume ∈ moves)) ∧
    (s'.pc = .syncChanges →
      (∃ own, ownMoves moves = own ++ [.changesTriggered, .changesActive]) ∧
      (.triggerChanges ∈ moves ∨ .pauseCall .resume ∈ moves)) := by
  induction moves using List.reverseRecOn generalizing s' with
  | nil =>
    cases h
    exact ⟨fun e => absurd e hs₁, fun e => absurd e hs₂⟩
  | append_singleton pre m ih =>
    obtain ⟨s₀, h₀, hm⟩ := exec_snoc_eq_some h
    have hmem : ∀ x, x ∈ pre → x ∈ pre ++ [m] := fun x hx => List.mem_append_left _ hx
    rw [ownMoves_snoc]
    cases he : m.isEnv
    · have hf := step_flow he hm
      simp only [Bool.false_eq_true, if_false]
      refine ⟨fun e => ?_, fun e => ?_⟩
      · obtain ⟨rfl, hpc⟩ := (e ▸ hf).into_changesCheck
        simp only [step, hpc, true_and, Option.ite_none_right_eq_some] at hm
        exact ⟨⟨ownMoves pre, rfl⟩,
          (trigger_of_changesPending hp h₀ hm.1).imp (hmem _) (hmem _)⟩
      · obtain ⟨rfl, hpc⟩ := (e ▸ hf).into_syncChanges
        obtain ⟨⟨own, hown⟩, htrig⟩ := (ih h₀).1 hpc
        exact ⟨⟨own, by simp [hown]⟩, htrig.imp (hmem _) (hmem _)⟩
    · simp only [if_true, List.append_nil]
      rw [step_pc_of_isEnv he hm]
      exact ⟨fun e => ((ih h₀).1 e).imp id (Or.imp (hmem _) (hmem _)),
        fun e => ((ih h₀).2 e).imp id (Or.imp (hmem _) (hmem _))⟩

end Syncer

/-- Over every run of `Run`, interleaved with any moves of the other goroutines, `State.SyncChanges`
is called only in `sync`: after a `State.SyncFull` call has returned nil, right after the goroutine
received a `SyncChanges` trigger in `sync`'s `select` and its pause check found the syncer active,
and only once some goroutine called `SyncChanges.Trigger()` or `Resume`. -/
theorem sync_changes_only_after_full_sync (cfg : SyncerConfig) (p : PauseState)
    {moves : List SyncerMove} {s : Syncer} (h : (Syncer.start p).exec cfg moves = some s) :
    ∀ pre e post, moves = pre ++ .syncChangesDone e :: post →
      .syncFullDone ∈ pre ∧
        (∃ own, ownMoves pre = own ++ [.changesTriggered, .changesActive]) ∧
        (.triggerChanges ∈ pre ∨ .pauseCall .resume ∈ pre) := by
  intro pre e post hm
  obtain ⟨s₁, s₂, hpre, hstep, -⟩ := Syncer.exec_append_cons_eq_some (hm ▸ h)
  have hpc : s₁.pc = .syncChanges := by
    simp only [Syncer.step, Option.ite_none_right_eq_some] at hstep
    exact hstep.1
  exact ⟨Syncer.syncFullDone_of_inSync (s := Syncer.start p) rfl hpre (by rw [hpc]; rfl),
    (Syncer.exec_own_of_syncChanges (s := Syncer.start p) nofun nofun rfl hpre).2 hpc⟩

theorem first_partial_sync_after_full_sync :
    let moves : List SyncerMove := [.rearm 0, .foundActive, .syncFullDone, .loopTest,
      .triggerChanges, .changesTriggered, .changesActive]
    (Syncer.start .init).exec (newStateSyncer (60 * second) (clusterSizeJitter 1000))
        (moves ++ [.syncChangesDone none]) =
      some { Syncer.start .init with pc := .returned none, timerPending := true } ∧
    .syncFullDone ∈ moves ∧
      (∃ own, ownMoves moves = own ++ [.changesTriggered, .changesActive]) ∧
      (.triggerChanges ∈ moves ∨ .pauseCall .resume ∈ moves) :=
  have h : (Syncer.start .init).exec (newStateSyncer (60 * second) (clusterSizeJitter 1000))
      ([.rearm 0, .foundActive, .syncFullDone, .loopTest, .triggerChanges, .changesTriggered,
        .changesActive] ++ [.syncChangesDone none]) =
        some { Syncer.start .init with pc := .returned none, timerPending := true } := rfl
  ⟨h, sync_changes_only_after_full_sync _ _ h _ none [] rfl⟩

end ConsulAgent
