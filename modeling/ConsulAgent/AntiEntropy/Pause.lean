/-
The pause refcount of the anti-entropy syncer: `Pause`, `Resume`, `isPaused` and `WaitResume`,
each atomic under `pauseLock`, so that any interleaving of calls is a sequence of whole calls.
-/
import Mathlib.Data.List.Basic

namespace ConsulAgent

/-- The pause fields of a `StateSyncer`: `pauseLock`, `paused` and `chPaused`.  Channels are
numbered in the order `make` creates them (`made` so far), and `closed` lists the closed ones,
last first. -/
structure PauseState where
  locked : Bool
  paused : Int
  chPaused : Option Nat
  made : Nat
  closed : List Nat
  deriving DecidableEq, Repr

namespace PauseState

/-- A new syncer: `pauseLock` free, `paused` zero, `chPaused` nil. -/
def init : PauseState := ⟨false, 0, none, 0, []⟩

/-- `pauseLock.Lock()`: `none` while another call holds the lock, where the caller blocks. -/
def lock (p : PauseState) : Option PauseState :=
  if p.locked then none else some { p with locked := true }

/-- `pauseLock.Unlock()`. -/
def unlock (p : PauseState) : PauseState := { p with locked := false }

/-- `s.chPaused = make(chan struct{})`. -/
def makeChPaused (p : PauseState) : PauseState :=
  { p with chPaused := some p.made, made := p.made + 1 }

/-- `close(s.chPaused)`: closing a nil or a closed channel panics. -/
def closeChPaused (p : PauseState) : Except String PauseState :=
  match p.chPaused with
  | none => .error "close of nil channel"
  | some ch =>
    if ch ∈ p.closed then .error "close of closed channel"
    else .ok { p with closed := ch :: p.closed }

/-- `Pause`. -/
def pause (p : PauseState) : Option PauseState :=
  p.lock.map fun p =>
    let p := { p with paused := p.paused + 1 }
    let p := if p.chPaused = none then p.makeChPaused else p
    p.unlock

/-- `isPaused`; the deferred `Unlock` leaves the fields as they were. -/
def isPaused (p : PauseState) : Option Bool :=
  p.lock.map fun p => p.paused != 0

/-- `WaitResume`. -/
def waitResume (p : PauseState) : Option (Option Nat) :=
  p.lock.map fun p => p.chPaused

/-- `Resume` up to its `SyncChanges.Trigger()`: `.ok resumed` or the panic, and the fields it
leaves.  There is no deferred `Unlock`, so a panic leaves `pauseLock` held. -/
def resume (p : PauseState) : Option (Except String Bool × PauseState) :=
  p.lock.map fun p =>
    let p := { p with paused := p.paused - 1 }
    if p.paused < 0 then (.error "unbalanced pause/resume", p)
    else if p.paused = 0 then
      match p.closeChPaused with
      | .error e => (.error e, p)
      | .ok p => (.ok true, { p with chPaused := none }.unlock)
    else (.ok false, p.unlock)

variable {p : PauseState}

theorem pause_eq (hl : p.locked = false) :
    p.pause = some (if p.chPaused = none
      then { p with paused := p.paused + 1, chPaused := some p.made, made := p.made + 1 }
      else { p with paused := p.paused + 1 }) := by
  cases p
  subst hl
  simp only [pause, lock, Bool.false_eq_true, if_false, Option.map_some', makeChPaused, unlock]
  split <;> rfl

theorem isPaused_eq (hl : p.locked = false) : p.isPaused = some (p.paused != 0) := by
  simp [isPaused, lock, hl]

theorem waitResume_eq (hl : p.locked = false) : p.waitResume = some p.chPaused := by
  simp [waitResume, lock, hl]

/-- A Resume at zero or below: the count is decremented, and the panic leaves the lock held. -/
theorem resume_of_nonpos (hl : p.locked = false) (h : p.paused ≤ 0) :
    p.resume = some (.error "unbalanced pause/resume",
      { p with locked := true, paused := p.paused - 1 }) := by
  simp only [resume, lock, hl, Bool.false_eq_true, if_false, Option.map_some']
  rw [if_pos (show p.paused - 1 < 0 by omega)]

theorem resume_of_one_lt (hl : p.locked = false) (h : 1 < p.paused) :
    p.resume = some (.ok false, { p with paused := p.paused - 1 }) := by
  obtain ⟨locked, paused, chPaused, made, closed⟩ := p
  simp only at hl h
  subst hl
  simp only [resume, lock, Bool.false_eq_true, if_false, Option.map_some']
  rw [if_neg (show ¬ paused - 1 < 0 by omega), if_neg (show paused - 1 ≠ 0 by omega)]
  rfl

theorem resume_of_one (hl : p.locked = false) (h : p.paused = 1) {ch : Nat}
    (hch : p.chPaused = some ch) (hfresh : ch ∉ p.closed) :
    p.resume =
      some (.ok true, { p with paused := 0, chPaused := none, closed := ch :: p.closed }) := by
  cases p
  subst hl h hch
  simp [resume, lock, unlock, closeChPaused, hfresh]

/-- While another call holds `pauseLock`, every call blocks. -/
theorem lock_eq_none_of_locked (hl : p.locked = true) : p.lock = none := by
  simp [lock, hl]

end PauseState

/-- A call of the pause API, from any goroutine. -/
inductive PauseCall
  | pause
  | resume
  | isPaused
  | waitResume
  deriving DecidableEq, Repr

/-- What a call returned.  A `resumed true` is also the `SyncChanges` trigger that `Resume`
issues after releasing the lock. -/
inductive PauseReply
  | paused
  | resumed (r : Bool)
  | isPaused (b : Bool)
  | waitResume (ch : Option Nat)
  deriving DecidableEq, Repr

namespace PauseState

/-- One call that returns: its reply and the fields after it; `none` when it blocks or panics. -/
def call (p : PauseState) : PauseCall → Option (PauseReply × PauseState)
  | .pause => p.pause.map fun p => (.paused, p)
  | .resume => p.resume.bind fun
    | (.ok r, p) => some (.resumed r, p)
    | (.error _, _) => none
  | .isPaused => p.isPaused.map fun b => (.isPaused b, p)
  | .waitResume => p.waitResume.map fun ch => (.waitResume ch, p)

/-- A sequence of calls, one after another, that all return: the replies in order and the fields
after the last. -/
def callAll (p : PauseState) : List PauseCall → Option (List PauseReply × PauseState)
  | [] => some ([], p)
  | c :: cs => (p.call c).bind fun (r, p') => (callAll p' cs).map fun (rs, q) => (r :: rs, q)

theorem callAll_cons_eq_some {c : PauseCall} {cs : List PauseCall} {rs q} :
    callAll p (c :: cs) = some (rs, q) ↔
      ∃ r p' rs', p.call c = some (r, p') ∧ callAll p' cs = some (rs', q) ∧ rs = r :: rs' := by
  simp only [callAll, Option.bind_eq_some, Option.map_eq_some', Prod.exists, Prod.mk.injEq]
  constructor
  · rintro ⟨r, p', hc, rs', q', hcs, rfl, rfl⟩
    exact ⟨r, p', rs', hc, hcs, rfl⟩
  · rintro ⟨r, p', rs', hc, hcs, rfl⟩
    exact ⟨r, p', hc, rs', q, hcs, rfl, rfl⟩

end PauseState

/-- The count a sequence of calls leaves: its Pauses minus its Resumes. -/
def pauseCount (calls : List PauseCall) : Int :=
  (calls.count .pause : Int) - calls.count .resume

/-- The pause epochs a sequence of calls opens, from count `n`: its Pauses that find the count
at zero. -/
def epochsOpened : Int → List PauseCall → Nat
  | _, [] => 0
  | n, .pause :: cs => (if n = 0 then 1 else 0) + epochsOpened (n + 1) cs
  | n, .resume :: cs => epochsOpened (n - 1) cs
  | n, _ :: cs => epochsOpened n cs

@[simp] theorem pauseCount_nil : pauseCount [] = 0 := rfl

theorem pauseCount_cons (c : PauseCall) (cs : List PauseCall) :
    pauseCount (c :: cs) =
      pauseCount cs + (if c = .pause then 1 else 0) - (if c = .resume then 1 else 0) := by
  cases c <;> simp [pauseCount, List.count_cons] <;> omega

theorem pauseCount_append (xs ys : List PauseCall) :
    pauseCount (xs ++ ys) = pauseCount xs + pauseCount ys := by
  simp only [pauseCount, List.count_append]
  omega

/-- Whether no Resume of a sequence finds the count, started at `n`, at zero: the hypothesis of
`callAll_refcount` as a check. -/
def resumesAboveZero : Int → List PauseCall → Bool
  | _, [] => true
  | n, c :: cs => (c != .resume || n != 0) &&
    resumesAboveZero (n + (if c = .pause then 1 else 0) - (if c = .resume then 1 else 0)) cs

theorem resumesAboveZero_iff {n : Int} {cs : List PauseCall} :
    resumesAboveZero n cs = true ↔
      ∀ pre post, cs = pre ++ .resume :: post → n + pauseCount pre ≠ 0 := by
  induction cs generalizing n with
  | nil => simp [resumesAboveZero]
  | cons c cs ih =>
    simp only [resumesAboveZero, Bool.and_eq_true, ih, List.cons_eq_append_iff]
    constructor
    · rintro ⟨hc, h⟩ pre post (⟨rfl, e⟩ | ⟨pre', rfl, e⟩)
      · cases e
        simpa using hc
      · have := h pre' post e
        rw [pauseCount_cons]
        omega
    · intro h
      refine ⟨?_, fun pre post e => ?_⟩
      · cases c <;> simp
        simpa using h [] cs (.inl ⟨rfl, rfl⟩)
      · have := h (c :: pre) post (.inr ⟨pre, rfl, e⟩)
        rw [pauseCount_cons] at this
        omega

namespace PauseState

/-- The pause fields between calls.  The lock is free, the count is not negative, `chPaused` is
set exactly while the count is positive and is then the last channel made and still open, and
the channels made are the closed ones and the open one. -/
structure Inv (p : PauseState) : Prop where
  unlocked : p.locked = false
  nonneg : 0 ≤ p.paused
  isSome_iff : p.chPaused.isSome ↔ 0 < p.paused
  last_open : ∀ ch, p.chPaused = some ch → ch + 1 = p.made ∧ ch ∉ p.closed
  closed_lt : ∀ ch ∈ p.closed, ch < p.made
  made_eq : p.made = p.closed.length + if 0 < p.paused then 1 else 0

theorem inv_init : Inv init where
  unlocked := rfl
  nonneg := Int.le_refl 0
  isSome_iff := by simp [init]
  last_open _ h := by simp [init] at h
  closed_lt _ h := by simp [init] at h
  made_eq := rfl

variable {p : PauseState}

theorem Inv.chPaused_eq_none (hI : Inv p) (h : p.paused = 0) : p.chPaused = none := by
  simpa [h] using hI.isSome_iff

theorem Inv.exists_chPaused (hI : Inv p) (h : 0 < p.paused) : ∃ ch, p.chPaused = some ch :=
  Option.isSome_iff_exists.1 (hI.isSome_iff.2 h)

/-- A Pause that opens an epoch makes a fresh channel. -/
theorem Inv.pause_open (hI : Inv p) (h0 : p.paused = 0) :
    Inv { p with paused := p.paused + 1, chPaused := some p.made, made := p.made + 1 } where
  unlocked := hI.unlocked
  nonneg := by simp only; omega
  isSome_iff := by simp only [Option.isSome_some, true_iff]; omega
  last_open ch h := by
    cases h
    exact ⟨rfl, fun hm => Nat.lt_irrefl _ (hI.closed_lt _ hm)⟩
  closed_lt ch h := Nat.lt_succ_of_lt (hI.closed_lt ch h)
  made_eq := by simp [hI.made_eq, h0]

theorem Inv.pause_nested (hI : Inv p) (h0 : 0 < p.paused) : Inv { p with paused := p.paused + 1 } where
  unlocked := hI.unlocked
  nonneg := by simp only; omega
  isSome_iff := by simp only [hI.isSome_iff]; omega
  last_open := hI.last_open
  closed_lt := hI.closed_lt
  made_eq := by simp only [hI.made_eq, h0, show 0 < p.paused + 1 by omega, if_true]

/-- The Resume that closes an epoch closes its channel, which was still open. -/
theorem Inv.resume_close (hI : Inv p) (h1 : p.paused = 1) {ch : Nat} (hch : p.chPaused = some ch) :
    Inv { p with paused := 0, chPaused := none, closed := ch :: p.closed } where
  unlocked := hI.unlocked
  nonneg := Int.le_refl 0
  isSome_iff := by simp
  last_open _ h := by cases h
  closed_lt c h := by
    rcases List.mem_cons.1 h with rfl | h
    · exact Nat.lt_of_succ_le (hI.last_open c hch).1.le
    · exact hI.closed_lt c h
  made_eq := by simp [hI.made_eq, h1]

theorem Inv.resume_nested (hI : Inv p) (h1 : 1 < p.paused) :
    Inv { p with paused := p.paused - 1 } where
  unlocked := hI.unlocked
  nonneg := by simp only; omega
  isSome_iff := by simp only [hI.isSome_iff]; omega
  last_open := hI.last_open
  closed_lt := hI.closed_lt
  made_eq := by
    simp only [hI.made_eq, show 0 < p.paused by omega, show 0 < p.paused - 1 by omega, if_true]

/-- A Resume from a state between calls with the count above zero: at one it closes the open
channel of the epoch and returns true; above one it only decrements and returns false. -/
theorem Inv.resume_eq (hI : Inv p) (hp : 0 < p.paused) :
    (p.paused = 1 ∧ ∃ ch, p.chPaused = some ch ∧ ch ∉ p.closed ∧ p.resume =
      some (.ok true, { p with paused := 0, chPaused := none, closed := ch :: p.closed })) ∨
    (1 < p.paused ∧ p.resume = some (.ok false, { p with paused := p.paused - 1 })) := by
  rcases (by omega : p.paused = 1 ∨ 1 < p.paused) with h1 | h1
  · obtain ⟨ch, hch⟩ := hI.exists_chPaused hp
    have hopen := (hI.last_open ch hch).2
    exact .inl ⟨h1, ch, hch, hopen, resume_of_one hI.unlocked h1 hch hopen⟩
  · exact .inr ⟨h1, resume_of_one_lt hI.unlocked h1⟩

/-- Every call from a state between calls, with what it returns and leaves; only a Resume at
count zero fails to return. -/
theorem Inv.call_eq (hI : Inv p) (c : PauseCall) (hc : c = .resume → p.paused ≠ 0) :
    ∃ r p', p.call c = some (r, p') ∧ Inv p' ∧
      p'.paused = p.paused + (if c = .pause then 1 else 0) - (if c = .resume then 1 else 0) ∧
      p'.made = p.made + (if c = .pause ∧ p.paused = 0 then 1 else 0) ∧
      p'.closed.length = p.closed.length + (if r = .resumed true then 1 else 0) := by
  have hl := hI.unlocked
  cases c with
  | pause =>
    by_cases h0 : p.paused = 0
    · exact ⟨.paused, _, by simp [call, pause_eq hl, hI.chPaused_eq_none h0], hI.pause_open h0,
        by simp, by simp [h0], by simp⟩
    · obtain ⟨ch, hch⟩ := hI.exists_chPaused (by have := hI.nonneg; omega)
      exact ⟨.paused, _, by simp [call, pause_eq hl, hch],
        hI.pause_nested (by have := hI.nonneg; omega),
        by simp, by simp [h0], by simp⟩
  | resume =>
    rcases hI.resume_eq (by have := hc rfl; have := hI.nonneg; omega) with
      ⟨h1, ch, hch, -, hres⟩ | ⟨h1, hres⟩
    · exact ⟨.resumed true, _, by simp [call, hres], hI.resume_close h1 hch, by simp [h1], by simp,
        by simp⟩
    · exact ⟨.resumed false, _, by simp [call, hres], hI.resume_nested h1, by simp, by simp, by simp⟩
  | isPaused =>
    exact ⟨.isPaused (p.paused != 0), p, by simp [call, isPaused_eq hl], hI, by simp, by simp,
      by simp⟩
  | waitResume =>
    exact ⟨.waitResume p.chPaused, p, by simp [call, waitResume_eq hl], hI, by simp, by simp,
      by simp⟩

/-- A Resume that returns found the count above zero. -/
theorem Inv.paused_ne_zero_of_resume (hI : Inv p) {x} (h : p.call .resume = some x) :
    p.paused ≠ 0 := fun h0 => by
  simp [call, resume_of_nonpos hI.unlocked (by omega)] at h

/-- A call that returns, from a state between calls, with what it leaves. -/
theorem Inv.of_call {c : PauseCall} {r : PauseReply} {p' : PauseState} (hI : Inv p)
    (h : p.call c = some (r, p')) :
    Inv p' ∧
      p'.paused = p.paused + (if c = .pause then 1 else 0) - (if c = .resume then 1 else 0) ∧
      p'.made = p.made + (if c = .pause ∧ p.paused = 0 then 1 else 0) ∧
      p'.closed.length = p.closed.length + (if r = .resumed true then 1 else 0) := by
  obtain ⟨r₀, p₀, h₀, hspec⟩ := hI.call_eq c fun hr => hI.paused_ne_zero_of_resume (hr ▸ h)
  simp only [h, Option.some.injEq, Prod.mk.injEq] at h₀
  obtain ⟨rfl, rfl⟩ := h₀
  exact hspec

/-- A run of calls that all return, from a state between calls: the count moves by the Pauses
and the Resumes, a channel is made for each epoch opened, and one is closed for each Resume that
returns true. -/
theorem Inv.of_callAll (hI : Inv p) {cs : List PauseCall} {rs : List PauseReply} {q : PauseState}
    (h : p.callAll cs = some (rs, q)) :
    Inv q ∧ q.paused = p.paused + pauseCount cs ∧ q.made = p.made + epochsOpened p.paused cs ∧
      q.closed.length = p.closed.length + rs.count (.resumed true) := by
  induction cs generalizing p rs with
  | nil =>
    simp only [PauseState.callAll, Option.some.injEq, Prod.mk.injEq] at h
    obtain ⟨rfl, rfl⟩ := h
    simp [hI, epochsOpened]
  | cons c cs ih =>
    obtain ⟨r, p', rs', hc, hcs, rfl⟩ := callAll_cons_eq_some.1 h
    obtain ⟨hI', hpaused, hmade, hclosed⟩ := hI.of_call hc
    obtain ⟨hIq, hq₁, hq₂, hq₃⟩ := ih hI' hcs
    refine ⟨hIq, by rw [hq₁, hpaused, pauseCount_cons]; omega, ?_, ?_⟩
    · rw [hq₂, hmade, hpaused]
      cases c <;> simp [epochsOpened, Nat.add_assoc]
    · simp only [hq₃, hclosed, List.count_cons, beq_iff_eq]
      omega

/-- From a state between calls, a sequence of calls in which no Resume finds the count at zero
returns. -/
theorem Inv.callAll_isSome (hI : Inv p) {cs : List PauseCall}
    (hcs : ∀ pre post, cs = pre ++ .resume :: post → p.paused + pauseCount pre ≠ 0) :
    ∃ rs q, p.callAll cs = some (rs, q) := by
  induction cs generalizing p with
  | nil => exact ⟨[], p, rfl⟩
  | cons c cs ih =>
    obtain ⟨r, p', hc, hI', hpaused, -⟩ :=
      hI.call_eq c fun hr => by simpa using hcs [] cs (by rw [hr]; rfl)
    obtain ⟨rs, q, h⟩ := ih hI' fun pre post e => by
      have := hcs (c :: pre) post (by rw [e]; rfl)
      rw [pauseCount_cons] at this
      rw [hpaused]
      omega
    exact ⟨r :: rs, q, callAll_cons_eq_some.2 ⟨r, p', rs, hc, h, rfl⟩⟩

theorem callAll_append {xs ys : List PauseCall} {rs : List PauseReply} {q : PauseState}
    (h : p.callAll (xs ++ ys) = some (rs, q)) :
    ∃ rs₁ rs₂ q₁, p.callAll xs = some (rs₁, q₁) ∧ q₁.callAll ys = some (rs₂, q) ∧
      rs = rs₁ ++ rs₂ := by
  induction xs generalizing p rs with
  | nil => exact ⟨[], rs, p, rfl, h, rfl⟩
  | cons c xs ih =>
    obtain ⟨r, p', rs', hc, hcs, rfl⟩ := callAll_cons_eq_some.1 h
    obtain ⟨rs₁, rs₂, q₁, h₁, h₂, rfl⟩ := ih hcs
    exact ⟨r :: rs₁, rs₂, q₁, callAll_cons_eq_some.2 ⟨r, p', rs₁, hc, h₁, rfl⟩, h₂, rfl⟩

/-- Within an epoch a call other than the Resume that ends it keeps the count positive and
`chPaused` in place. -/
theorem Inv.call_keeps_chPaused (hI : Inv p) (hp : 0 < p.paused) {c : PauseCall} {r : PauseReply}
    {p' : PauseState} (h : p.call c = some (r, p')) (hr : r ≠ .resumed true) :
    0 < p'.paused ∧ p'.chPaused = p.chPaused := by
  obtain ⟨ch, hch⟩ := hI.exists_chPaused hp
  cases c with
  | pause =>
    simp only [call, pause_eq hI.unlocked, hch, reduceCtorEq, if_false, Option.map_some',
      Option.some.injEq, Prod.mk.injEq] at h
    obtain ⟨-, rfl⟩ := h
    exact ⟨by simp only; omega, hch.symm⟩
  | resume =>
    rcases hI.resume_eq hp with ⟨-, ch', -, -, hres⟩ | ⟨h1, hres⟩
    · simp [call, hres] at h
      exact absurd h.1.symm hr
    · simp only [call, hres, Option.some_bind, Option.some.injEq, Prod.mk.injEq] at h
      obtain ⟨-, rfl⟩ := h
      exact ⟨by simp only; omega, rfl⟩
  | isPaused =>
    simp only [call, isPaused_eq hI.unlocked, Option.map_some', Option.some.injEq, Prod.mk.injEq] at h
    exact h.2 ▸ ⟨hp, rfl⟩
  | waitResume =>
    simp only [call, waitResume_eq hI.unlocked, Option.map_some', Option.some.injEq,
      Prod.mk.injEq] at h
    exact h.2 ▸ ⟨hp, rfl⟩

/-- Within an epoch `chPaused` keeps its channel: a run in which no Resume returns true leaves
the count positive and the channel in place. -/
theorem Inv.callAll_keeps_chPaused (hI : Inv p) (hp : 0 < p.paused) {cs : List PauseCall}
    {rs : List PauseReply} {q : PauseState} (h : p.callAll cs = some (rs, q))
    (hrs : PauseReply.resumed true ∉ rs) : 0 < q.paused ∧ q.chPaused = p.chPaused := by
  induction cs generalizing p rs with
  | nil =>
    simp only [PauseState.callAll, Option.some.injEq, Prod.mk.injEq] at h
    obtain ⟨rfl, rfl⟩ := h
    exact ⟨hp, rfl⟩
  | cons c cs ih =>
    obtain ⟨r, p', rs', hc, hcs, rfl⟩ := callAll_cons_eq_some.1 h
    have hp' := hI.call_keeps_chPaused hp hc fun e => hrs (e ▸ List.mem_cons_self _ _)
    obtain ⟨hq, hch⟩ := ih (hI.of_call hc).1 hp'.1 hcs fun h => hrs (List.mem_cons_of_mem _ h)
    exact ⟨hq, hch.trans hp'.2⟩

end PauseState

/-- The pause refcount over every sequence of calls in which no Resume finds the count at zero:
the count and `chPaused` agree, the Resume ending an epoch closes the channel its `WaitResume`s
returned, and the Resumes that return true are the epochs opened less the one still open. -/
theorem callAll_refcount (calls : List PauseCall)
    (hcalls : ∀ pre post, calls = pre ++ .resume :: post → pauseCount pre ≠ 0) :
    (∃ replies p, PauseState.init.callAll calls = some (replies, p) ∧
      p.paused = pauseCount calls ∧ 0 ≤ p.paused ∧ (p.chPaused.isSome ↔ 0 < p.paused) ∧
      (p.isPaused = some true ↔ ∃ ch, p.waitResume = some (some ch)) ∧
      replies.count (.resumed true) + (if 0 < p.paused then 1 else 0) = epochsOpened 0 calls) ∧
    (∀ pre post, calls = pre ++ .resume :: post →
      ∃ rs q r q', PauseState.init.callAll pre = some (rs, q) ∧ q.resume = some (.ok r, q') ∧
        (r = true ↔ q.paused = 1) ∧ q'.paused = q.paused - 1 ∧
        (r = true → ∃ ch, q.chPaused = some ch ∧ ch ∉ q.closed ∧ q'.closed = ch :: q.closed ∧
          q'.chPaused = none) ∧
        (r = false → q'.closed = q.closed)) ∧
    (∀ pre mid post, calls = pre ++ .waitResume :: mid ++ .resume :: post →
      ∀ rs q ch, PauseState.init.callAll pre = some (rs, q) → q.waitResume = some (some ch) →
      ∀ rs' q', q.callAll mid = some (rs', q') → PauseReply.resumed true ∉ rs' →
      ∀ q'', q'.resume = some (.ok true, q'') → ch ∉ q'.closed ∧ q''.closed = ch :: q'.closed) := by
  open PauseState in
  have hrun : ∀ xs ys, calls = xs ++ ys → ∃ rs q, init.callAll xs = some (rs, q) :=
    fun xs ys e => inv_init.callAll_isSome fun pre post e' => by
      simpa [init] using hcalls pre (post ++ ys) (by rw [e, e']; simp)
  open PauseState in
  refine ⟨?_, fun pre post e => ?_, fun pre mid post _ rs q ch hq hch rs' q' hq' hrs' q'' hres => ?_⟩
  · obtain ⟨replies, p, h⟩ := hrun calls [] (by simp)
    obtain ⟨hI, hpaused, hmade, hclosed⟩ := inv_init.of_callAll h
    simp only [init, Int.zero_add, Nat.zero_add, List.length_nil] at hpaused hmade hclosed
    refine ⟨replies, p, h, hpaused, hI.nonneg, hI.isSome_iff, ?_, ?_⟩
    · simp only [isPaused_eq hI.unlocked, waitResume_eq hI.unlocked, Option.some.injEq,
        bne_iff_ne, ne_eq, ← Option.isSome_iff_exists, hI.isSome_iff]
      have := hI.nonneg
      omega
    · rw [← hclosed, ← hI.made_eq, hmade]
  · obtain ⟨rs, q, h⟩ := hrun pre _ e
    obtain ⟨hI, hpaused, -⟩ := inv_init.of_callAll h
    have hp : 0 < q.paused := by
      have := hcalls pre post e
      have := hI.nonneg
      simp only [init, Int.zero_add] at hpaused
      omega
    rcases hI.resume_eq hp with ⟨h1, ch, hch, hopen, hres⟩ | ⟨h1, hres⟩
    · exact ⟨rs, q, true, _, h, hres, by simp [h1], by simp [h1],
        fun _ => ⟨ch, hch, hopen, rfl, rfl⟩, by simp⟩
    · exact ⟨rs, q, false, _, h, hres, by simp; omega, rfl, by simp, fun _ => rfl⟩
  · have hI := (inv_init.of_callAll hq).1
    rw [waitResume_eq hI.unlocked, Option.some.injEq] at hch
    have hp : 0 < q.paused := hI.isSome_iff.1 (by simp [hch])
    obtain ⟨hp', hch'⟩ := hI.callAll_keeps_chPaused hp hq' hrs'
    have hI' := (hI.of_callAll hq').1
    rcases hI'.resume_eq hp' with ⟨-, ch', hch'', hopen, hres'⟩ | ⟨-, hres'⟩
    · rw [hres'] at hres
      cases hres
      obtain rfl : ch' = ch := Option.some.inj (hch''.symm.trans (hch'.trans hch))
      exact ⟨hopen, rfl⟩
    · rw [hres'] at hres
      cases hres

/-- A Resume at count zero, from any state that a sequence of returning calls reaches: it panics
having decremented the count to -1, and with `pauseLock` still held, so that every later call,
the anti-entropy loop's `isPaused` included, blocks. -/
theorem resume_at_zero_leaves_lock_held {calls : List PauseCall} {replies : List PauseReply}
    {p : PauseState} (h : PauseState.init.callAll calls = some (replies, p)) (h0 : p.paused = 0) :
    p.resume = some (.error "unbalanced pause/resume", { p with locked := true, paused := -1 }) ∧
      ∀ c, ({ p with locked := true, paused := -1 } : PauseState).call c = none := by
  have hI := (PauseState.inv_init.of_callAll h).1
  refine ⟨by rw [PauseState.resume_of_nonpos hI.unlocked (by omega), h0]; rfl, fun c => ?_⟩
  cases c <;> simp [PauseState.call, PauseState.pause, PauseState.resume, PauseState.isPaused,
    PauseState.waitResume, PauseState.lock]

theorem resume_at_zero_leaves_lock_held_init :
    PauseState.init.resume = some (.error "unbalanced pause/resume",
      { PauseState.init with locked := true, paused := -1 }) ∧
      ∀ c, ({ PauseState.init with locked := true, paused := -1 } : PauseState).call c = none :=
  @resume_at_zero_leaves_lock_held [] [] _ rfl rfl

/-- A Resume on a new syncer does not leave the pause fields as they were: the count is -1 and
`pauseLock` stays held, so the next `isPaused` blocks. -/
theorem resume_on_new_syncer_unbalances :
    ∃ p, PauseState.init.resume = some (.error "unbalanced pause/resume", p) ∧
      p ≠ PauseState.init ∧ p.paused = -1 ∧ p.locked = true ∧ p.isPaused = none :=
  ⟨_, rfl, by decide, rfl, rfl, rfl⟩

end ConsulAgent
