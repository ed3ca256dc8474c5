/-
The subscription bookkeeping of a handler whose child watches are entries of watch maps: from
its steps alone, a child context is live exactly when an entry holds its cancel function.
-/
import ConsulAgent.Watches

namespace ConsulAgent

open HandlerM

/-- The bookkeeping invariant of the watch entries `look` reads.  Contexts are handed out below
`nextContext`; no two entries hold the same cancel function; and a child context has a live
subscription exactly when an entry holds its cancel function. -/
structure BooksInv {κ : Type} (look : ConfigSnapshot → κ → Option CancelFunc)
    (frame : ConfigSnapshot → Prop) (w : ProxyState) : Prop where
  framed : frame w.snap
  next_pos : 0 < w.subs.nextContext
  live_lt : ∀ c id, (c, id) ∈ w.subs.live → c < w.subs.nextContext
  entry_lt : ∀ k f, look w.snap k = some f → 0 < f.context ∧ f.context < w.subs.nextContext
  entry_unique : ∀ k₁ k₂ f, look w.snap k₁ = some f → look w.snap k₂ = some f → k₁ = k₂
  live_iff : ∀ c, c ≠ 0 → ((∃ id, (c, id) ∈ w.subs.live) ↔ ∃ k, look w.snap k = some ⟨c⟩)

namespace BooksInv

variable {κ : Type} {look : ConfigSnapshot → κ → Option CancelFunc} {frame : ConfigSnapshot → Prop}
  {w : ProxyState}

/-- The invariant reads only the subscriptions, the entries and the frame. -/
theorem of_eq {w' : ProxyState} (hI : BooksInv look frame w) (hsubs : w'.subs = w.subs)
    (hlook : ∀ k, look w'.snap k = look w.snap k) (hframe : frame w'.snap) :
    BooksInv look frame w' := by
  obtain ⟨-, next_pos, live_lt, entry_lt, entry_unique, live_iff⟩ := hI
  refine ⟨hframe, ?_, ?_, ?_, ?_, ?_⟩ <;> simp only [hsubs, hlook] <;> assumption

/-- The snapshot `Watch` starts from, with no subscription and no entry. -/
theorem empty {snap : ConfigSnapshot} (hframe : frame snap) (hempty : ∀ k, look snap k = none) :
    BooksInv look frame ⟨snap, {}⟩ where
  framed := hframe
  next_pos := Nat.one_pos
  live_lt _ _ h := absurd h (List.not_mem_nil _)
  entry_lt k _ h := by simp [hempty k] at h
  entry_unique k _ _ h := by simp [hempty k] at h
  live_iff _ _ :=
    ⟨fun ⟨_, h⟩ => absurd h (List.not_mem_nil _), fun ⟨k, h⟩ => by simp [hempty k] at h⟩

/-- A root subscription, on the handler's own context. -/
theorem subscribeRoot (hI : BooksInv look frame w) (id : String) :
    BooksInv look frame ⟨w.snap, { w.subs with live := (0, id) :: w.subs.live }⟩ := by
  have hlive (c : Nat) (hc : c ≠ 0) (id' : String) :
      (c, id') ∈ (0, id) :: w.subs.live ↔ (c, id') ∈ w.subs.live := by
    simp [hc]
  refine ⟨hI.framed, hI.next_pos, fun c id' h => ?_, hI.entry_lt, hI.entry_unique, fun c hc => ?_⟩
  · rcases List.mem_cons.1 h with h | h
    · cases h
      exact hI.next_pos
    · exact hI.live_lt c id' h
  · simp only [hlive c hc]
    exact hI.live_iff c hc

/-- A watch entry opened on the next context under key `k`, with its live subscription:
`hlook` says that the entries are the old ones and the new one. -/
theorem insert (hI : BooksInv look frame w) {k : κ} {snap : ConfigSnapshot} (hframe : frame snap)
    (hlook : ∀ k' f, look snap k' = some f ↔
      (k' = k ∧ f = ⟨w.subs.nextContext⟩) ∨ look w.snap k' = some f)
    (id : String) : BooksInv look frame ⟨snap, w.subs.subscribe id⟩ where
  framed := hframe
  next_pos := Nat.succ_pos _
  live_lt := by
    intro c id' h
    simp only [Subscriptions.subscribe, List.mem_cons, Prod.mk.injEq] at h ⊢
    rcases h with ⟨rfl, -⟩ | h
    · omega
    · have := hI.live_lt c id' h
      omega
  entry_lt := by
    intro k' f h
    rw [hlook] at h
    simp only [Subscriptions.subscribe]
    rcases h with ⟨-, rfl⟩ | h
    · exact ⟨hI.next_pos, Nat.lt_succ_self _⟩
    · have := hI.entry_lt k' f h
      omega
  entry_unique := by
    intro k₁ k₂ f h₁ h₂
    rw [hlook] at h₁ h₂
    rcases h₁ with ⟨rfl, rfl⟩ | h₁ <;> rcases h₂ with ⟨rfl, hf⟩ | h₂
    · rfl
    · exact absurd (hI.entry_lt _ _ h₂).2 (lt_irrefl _)
    · subst hf
      exact absurd (hI.entry_lt _ _ h₁).2 (lt_irrefl _)
    · exact hI.entry_unique _ _ _ h₁ h₂
  live_iff := by
    intro c hc
    simp only [Subscriptions.subscribe, List.mem_cons, Prod.mk.injEq, hlook]
    constructor
    · rintro ⟨id', ⟨rfl, -⟩ | h⟩
      · exact ⟨k, .inl ⟨rfl, rfl⟩⟩
      · obtain ⟨k', h'⟩ := (hI.live_iff c hc).1 ⟨id', h⟩
        exact ⟨k', .inr h'⟩
    · rintro ⟨k', ⟨-, hf⟩ | h⟩
      · exact ⟨id, .inl ⟨by cases hf; rfl, rfl⟩⟩
      · obtain ⟨id', h'⟩ := (hI.live_iff c hc).2 ⟨k', h⟩
        exact ⟨id', .inr h'⟩

/-- A context spent on a refused `Notify`: it is cancelled before any subscription was made. -/
theorem spend (hI : BooksInv look frame w) :
    BooksInv look frame ⟨w.snap, w.subs.skip.cancel w.subs.nextContext⟩ := by
  have hlive (c : Nat) (id : String) :
      (c, id) ∈ (w.subs.skip.cancel w.subs.nextContext).live ↔ (c, id) ∈ w.subs.live := by
    simp only [Subscriptions.skip, Subscriptions.cancel, List.mem_filter, decide_eq_true_eq,
      and_iff_left_iff_imp]
    exact fun h => (hI.live_lt c id h).ne
  refine ⟨hI.framed, Nat.succ_pos _, fun c id h => ?_, fun k f h => ?_, hI.entry_unique,
    fun c hc => ?_⟩
  · exact Nat.lt_succ_of_lt (hI.live_lt c id ((hlive c id).1 h))
  · exact ⟨(hI.entry_lt k f h).1, Nat.lt_succ_of_lt (hI.entry_lt k f h).2⟩
  · simp only [hlive]
    exact hI.live_iff c hc

/-- A cleanup, after its map update `w₀`: once the entries of the keys in `drop` have left the
maps (`hlook`), calling their cancel functions (`hfs`) restores the invariant. -/
theorem cancelDropped (hI : BooksInv look frame w) {w₀ : ProxyState} {fs : List CancelFunc}
    (drop : κ → Prop) (hsubs : w₀.subs = w.subs) (hframe : frame w₀.snap)
    (hlook : ∀ k f, look w₀.snap k = some f ↔ look w.snap k = some f ∧ ¬ drop k)
    (hfs : ∀ f, f ∈ fs ↔ ∃ k, look w.snap k = some f ∧ drop k) :
    BooksInv look frame (finalState (cancelAll fs w₀)) := by
  have hsnap : (finalState (cancelAll fs w₀)).snap = w₀.snap := keeps_cancelAll id fs w₀
  have hnext : (finalState (cancelAll fs w₀)).subs.nextContext = w.subs.nextContext := by
    rw [nextContext_cancelAll, hsubs]
  have hlive (c : Nat) (id : String) : (c, id) ∈ (finalState (cancelAll fs w₀)).subs.live ↔
      (c, id) ∈ w.subs.live ∧ ⟨c⟩ ∉ fs := by
    rw [mem_live_cancelAll, hsubs]
  refine ⟨hsnap ▸ hframe, hnext ▸ hI.next_pos, fun c id h => ?_, fun k f h => ?_,
    fun k₁ k₂ f h₁ h₂ => ?_, fun c hc => ?_⟩
  · exact hnext ▸ hI.live_lt c id ((hlive c id).1 h).1
  · rw [hsnap, hlook] at h
    exact hnext ▸ hI.entry_lt k f h.1
  · rw [hsnap, hlook] at h₁ h₂
    exact hI.entry_unique _ _ _ h₁.1 h₂.1
  · simp only [hsnap, hlive, hlook, hfs, not_exists, not_and]
    constructor
    · rintro ⟨id, hmem, hnd⟩
      obtain ⟨k, h⟩ := (hI.live_iff c hc).1 ⟨id, hmem⟩
      exact ⟨k, h, hnd k h⟩
    · rintro ⟨k, h, hk⟩
      obtain ⟨id, hmem⟩ := (hI.live_iff c hc).2 ⟨k, h⟩
      exact ⟨id, hmem, fun k' h' => hI.entry_unique k k' _ h h' ▸ hk⟩

/-- When the snapshot's cancel functions are those of the entries, the invariant is the
bookkeeping that `HandlesMatch` asks for. -/
theorem handlesMatch (hI : BooksInv look frame w)
    (hcover : ∀ f, f ∈ w.snap.cancelHandles ↔ ∃ k, look w.snap k = some f) : HandlesMatch w :=
  fun c hc => (hI.live_iff c hc).trans (hcover ⟨c⟩).symm

/-- A step that keeps the subscriptions, the entries and the frame keeps the invariant. -/
theorem preserves_of_keeps {F : ProxyState → β} {x : HandlerM α} (hx : Keeps F x)
    (hF : ∀ w w', F w' = F w → w'.subs = w.subs ∧ (∀ k, look w'.snap k = look w.snap k) ∧
      (frame w.snap → frame w'.snap)) :
    Preserves (BooksInv look frame) x :=
  hx.preserves fun w w' h hI =>
    let ⟨hsubs, hlook, hframe⟩ := hF w w' h
    hI.of_eq hsubs hlook (hframe hI.framed)

theorem preserves_notifyRoot (c : CacheNotifier) (id : String) :
    Preserves (BooksInv look frame) (notifyRoot c id) := by
  intro w hI
  simp only [notifyRoot]
  split
  · exact hI.subscribeRoot id
  · exact hI

theorem preserves_watchRootOrFail (c : CacheNotifier) (id : String) :
    Preserves (BooksInv look frame) (watchRootOrFail c id) := by
  unfold watchRootOrFail
  refine (preserves_notifyRoot c id).bind fun r => ?_
  cases r
  exacts [fun _ hI => hI, fun _ hI => hI]

end BooksInv

end ConsulAgent
