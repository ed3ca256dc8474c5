/-
The parts of Go the proxy configuration handlers lean on: string tests on correlation ids, and
maps whose missing keys read as the zero value.
-/
import Mathlib.Data.List.AList

namespace ConsulAgent

/-! ## Strings -/

/-- `strings.HasPrefix`. -/
def hasPrefix (s pre : String) : Bool :=
  pre.data.isPrefixOf s.data

/-- `strings.TrimPrefix`: `s` without the leading `pre`, or `s` itself when it does not start
with `pre`. -/
def trimPrefix (s pre : String) : String :=
  if hasPrefix s pre then ⟨s.data.drop pre.length⟩ else s

/-- The split at the first colon of `list`, as `strings.Index` finds it. -/
def splitAtColon : List Char → Option (List Char × List Char)
  | [] => none
  | c :: rest =>
      if c = ':' then some ([], rest)
      else (splitAtColon rest).map fun parts => (c :: parts.1, parts.2)

/-- `removeColonPrefix` of `state.go`: the text before and after the first `:`, and `false`
with two empty strings when there is no colon. -/
def removeColonPrefix (s : String) : String × String × Bool :=
  match splitAtColon s.data with
  | none => ("", "", false)
  | some (before, after) => (⟨before⟩, ⟨after⟩, true)

/-- `\xHH`, with Go's lower-case hex digits, for a character below 256. -/
def goHexEscape (n : Nat) : String :=
  "\\x" ++ (Nat.digitChar (n / 16)).toString ++ (Nat.digitChar (n % 16)).toString

/-- One character of a string that `%q` writes (`strconv.appendEscapedRune` with a double quote):
the quote and the backslash escaped, the seven C escapes, `\xHH` for the other ASCII control
characters and DEL.  Characters beyond ASCII are written as they are, as Go writes the printable
ones; Go's `\u` escapes of non-printable ones are not modelled. -/
def goEscapeChar (c : Char) : String :=
  match c.toNat with
  | 34 => "\\\""
  | 92 => "\\\\"
  | 7 => "\\a"
  | 8 => "\\b"
  | 12 => "\\f"
  | 10 => "\\n"
  | 13 => "\\r"
  | 9 => "\\t"
  | 11 => "\\v"
  | n => if n < 32 ∨ n = 127 then goHexEscape n else c.toString

/-- Go's `%q` of a string: its characters escaped, between double quotes. -/
def goQuote (s : String) : String :=
  "\"" ++ String.join (s.data.map goEscapeChar) ++ "\""

example : goQuote "a\"b\n" = "\"a\\\"b\\n\"" := by decide
example : goQuote (String.mk [Char.ofNat 1]) = "\"\\x01\"" := by decide

theorem hasPrefix_iff {s pre : String} : hasPrefix s pre = true ↔ pre.data <+: s.data :=
  List.isPrefixOf_iff_prefix

@[simp] theorem hasPrefix_append (pre rest : String) : hasPrefix (pre ++ rest) pre = true :=
  hasPrefix_iff.2 (by simp)

theorem hasPrefix_of_append {s pre rest : String} (h : hasPrefix s (pre ++ rest) = true) :
    hasPrefix s pre = true :=
  hasPrefix_iff.2 ((List.prefix_append _ _).trans (by simpa using hasPrefix_iff.1 h))

/-- Two prefixes of one id are comparable, so an id with prefix `pre` has no prefix that
diverges from `pre`. -/
theorem hasPrefix_eq_false_of_diverge {s pre other : String} (h : hasPrefix s pre = true)
    (h₁ : hasPrefix pre other = false) (h₂ : hasPrefix other pre = false) :
    hasPrefix s other = false := by
  by_contra hother
  rw [Bool.not_eq_false, hasPrefix_iff] at hother
  rcases List.prefix_or_prefix_of_prefix (hasPrefix_iff.1 h) hother with hp | hp
  · exact absurd (hasPrefix_iff.2 hp) (by simp [h₂])
  · exact absurd (hasPrefix_iff.2 hp) (by simp [h₁])

/-- An id with prefix `pre` is none of the literals that lack it. -/
theorem ne_of_hasPrefix {s pre lit : String} (h : hasPrefix s pre = true)
    (hlit : hasPrefix lit pre = false) : s ≠ lit := by
  rintro rfl
  simp [h] at hlit

@[simp] theorem trimPrefix_append (pre rest : String) : trimPrefix (pre ++ rest) pre = rest := by
  rw [trimPrefix, if_pos (hasPrefix_append pre rest)]
  exact congrArg String.mk (List.drop_left pre.data rest.data)

theorem splitAtColon_append {before : List Char} (after : List Char) (h : ':' ∉ before) :
    splitAtColon (before ++ ':' :: after) = some (before, after) := by
  induction before with
  | nil => simp [splitAtColon]
  | cons c rest ih =>
      simp only [List.mem_cons, not_or] at h
      simp [splitAtColon, Ne.symm h.1, ih h.2]

/-- The encoding `t ++ ":" ++ u` is undone by `removeColonPrefix` whenever `t` has no colon,
whatever `u` holds. -/
theorem removeColonPrefix_append {t : String} (u : String) (h : ':' ∉ t.data) :
    removeColonPrefix (t ++ ":" ++ u) = (t, u, true) := by
  have hsplit := splitAtColon_append u.data h
  simp only [removeColonPrefix, String.data_append]
  simp [hsplit]

/-! ## Maps -/

/-- A Go `map[K]V`. -/
abbrev GoMap (K V : Type) := AList fun _ : K => V

namespace GoMap

variable {K K' V : Type} [DecidableEq K] [DecidableEq K']

/-- Map equality decided on the entries, so that the kernel can evaluate it. -/
instance [DecidableEq V] : DecidableEq (GoMap K V) := fun a b =>
  decidable_of_iff (a.entries = b.entries) AList.ext_iff.symm

/-- `m[k]` for a map-valued map: the inner map, or the empty (nil) map when `k` is missing. -/
def inner (m : GoMap K (GoMap K' V)) (k : K) : GoMap K' V :=
  (m.lookup k).getD ∅

/-- `if _, ok := m[k]; !ok { m[k] = make(...) }`. -/
def ensure (m : GoMap K (GoMap K' V)) (k : K) : GoMap K (GoMap K' V) :=
  if k ∈ m then m else m.insert k ∅

/-- `m[k][k'] = v` once `m[k]` exists. -/
def setInner (m : GoMap K (GoMap K' V)) (k : K) (k' : K') (v : V) : GoMap K (GoMap K' V) :=
  m.insert k ((m.inner k).insert k' v)

/-- A `range` loop that deletes every entry whose key fails `p`; the other entries stay. -/
def retain (p : K → Bool) (m : GoMap K V) : GoMap K V :=
  ⟨m.entries.filter (fun e => p e.1), m.nodupKeys.sublist (List.filter_sublist _)⟩

/-- The values of the entries that `retain p` deletes, in the order the loop visits them. -/
def dropped (p : K → Bool) (m : GoMap K V) : List V :=
  (m.entries.filter (fun e => !p e.1)).map (·.2)

@[simp] theorem lookup_retain (p : K → Bool) (m : GoMap K V) (k : K) :
    (m.retain p).lookup k = if p k then m.lookup k else none := by
  apply Option.ext
  intro v
  rw [AList.mem_lookup_iff]
  simp only [retain, List.mem_filter]
  split_ifs with hk
  · rw [AList.mem_lookup_iff]
    simp [hk]
  · simp [hk]

@[simp] theorem mem_retain (p : K → Bool) (m : GoMap K V) (k : K) :
    k ∈ m.retain p ↔ p k = true ∧ k ∈ m := by
  rw [← AList.lookup_isSome, ← AList.lookup_isSome, lookup_retain]
  split_ifs with hk <;> simp [hk]

theorem mem_dropped (p : K → Bool) (m : GoMap K V) (v : V) :
    v ∈ m.dropped p ↔ ∃ k, m.lookup k = some v ∧ p k = false := by
  simp only [dropped, List.mem_map, List.mem_filter, Bool.not_eq_true']
  constructor
  · rintro ⟨⟨k, v⟩, ⟨hmem, hk⟩, rfl⟩
    exact ⟨k, Option.mem_def.1 (AList.mem_lookup_iff.2 hmem), hk⟩
  · rintro ⟨k, hk, hp⟩
    exact ⟨⟨k, v⟩, ⟨AList.mem_lookup_iff.1 hk, hp⟩, rfl⟩

/-- The values of a map are what its lookups return. -/
theorem mem_values (m : GoMap K V) (v : V) :
    v ∈ m.entries.map (·.2) ↔ ∃ k, m.lookup k = some v := by
  simp only [List.mem_map]
  constructor
  · rintro ⟨⟨k, v⟩, hmem, rfl⟩
    exact ⟨k, Option.mem_def.1 (AList.mem_lookup_iff.2 hmem)⟩
  · rintro ⟨k, hk⟩
    exact ⟨⟨k, v⟩, AList.mem_lookup_iff.1 hk, rfl⟩

omit [DecidableEq K'] in
@[simp] theorem mem_ensure (m : GoMap K (GoMap K' V)) (k k₁ : K) :
    k₁ ∈ m.ensure k ↔ k₁ = k ∨ k₁ ∈ m := by
  unfold ensure
  split_ifs with hk
  · constructor
    · exact Or.inr
    · rintro (rfl | h) <;> assumption
  · exact AList.mem_insert _

omit [DecidableEq K'] in
theorem inner_ensure (m : GoMap K (GoMap K' V)) (k k₁ : K) :
    (m.ensure k).inner k₁ = m.inner k₁ := by
  unfold ensure inner
  split_ifs with hk
  · rfl
  · by_cases h : k₁ = k
    · subst h
      simp [AList.lookup_eq_none.2 hk]
    · simp [AList.lookup_insert_ne h]

omit [DecidableEq K'] in
theorem lookup_ensure_of_ne (m : GoMap K (GoMap K' V)) {k k₁ : K} (h : k₁ ≠ k) :
    (m.ensure k).lookup k₁ = m.lookup k₁ := by
  unfold ensure
  split_ifs
  · rfl
  · exact AList.lookup_insert_ne h

/-- After `m[k] = v`, a key's value is `v` at `k` and its old value elsewhere. -/
theorem eq_or_lookup_of_lookup_insert {m : GoMap K V} {k k' : K} {v f : V}
    (h : (m.insert k v).lookup k' = some f) : (k' = k ∧ f = v) ∨ m.lookup k' = some f := by
  by_cases hk : k' = k
  · subst hk
    rw [AList.lookup_insert] at h
    exact .inl ⟨rfl, (Option.some.inj h).symm⟩
  · rw [AList.lookup_insert_ne hk] at h
    exact .inr h

omit [DecidableEq K'] in
theorem inner_insert (m : GoMap K (GoMap K' V)) (k k₁ : K) (v : GoMap K' V) :
    inner (m.insert k v) k₁ = if k₁ = k then v else m.inner k₁ := by
  unfold inner
  split_ifs with h
  · subst h
    simp [AList.lookup_insert]
  · simp [AList.lookup_insert_ne h]

omit [DecidableEq K'] in
theorem inner_retain (p : K → Bool) (m : GoMap K (GoMap K' V)) (k : K) :
    (m.retain p).inner k = if p k then m.inner k else ∅ := by
  unfold inner
  rw [lookup_retain]
  split_ifs <;> rfl

@[simp] theorem inner_setInner (m : GoMap K (GoMap K' V)) (k k₁ : K) (k' : K') (v : V) :
    (m.setInner k k' v).inner k₁ = if k₁ = k then (m.inner k).insert k' v else m.inner k₁ :=
  inner_insert _ _ _ _

@[simp] theorem mem_setInner (m : GoMap K (GoMap K' V)) (k k₁ : K) (k' : K') (v : V) :
    k₁ ∈ m.setInner k k' v ↔ k₁ = k ∨ k₁ ∈ m :=
  AList.mem_insert _

end GoMap

/-! ## Sets filled from lists -/

section EraseDups

variable {α : Type} [BEq α] [LawfulBEq α]

theorem mem_eraseDups_loop {as bs : List α} {a : α} :
    a ∈ List.eraseDups.loop as bs ↔ a ∈ as ∨ a ∈ bs := by
  induction as generalizing bs with
  | nil => simp [List.eraseDups.loop]
  | cons x xs ih =>
    simp only [List.eraseDups.loop]
    split <;> rename_i h
    · rw [ih, List.mem_cons]
      have hx : x ∈ bs := List.elem_iff.1 h
      constructor
      · rintro (h' | h')
        exacts [.inl (.inr h'), .inr h']
      · rintro ((rfl | h') | h')
        exacts [.inr hx, .inl h', .inr h']
    · rw [ih, List.mem_cons, List.mem_cons]
      tauto

theorem nodup_eraseDups_loop (as : List α) {bs : List α} (hbs : bs.Nodup) :
    (List.eraseDups.loop as bs).Nodup := by
  induction as generalizing bs with
  | nil => simpa [List.eraseDups.loop] using hbs
  | cons x xs ih =>
    simp only [List.eraseDups.loop]
    split <;> rename_i h
    · exact ih hbs
    · exact ih (List.nodup_cons.2 ⟨fun hx => (by rw [List.elem_iff.2 hx] at h; cases h), hbs⟩)

/-- A Go set filled from a list, `map[T]struct{}`, holds exactly the list's elements, each
once; `List.eraseDups` lists them in the order first met, one of the orders a `range` visits. -/
theorem mem_eraseDups {l : List α} {a : α} : a ∈ l.eraseDups ↔ a ∈ l := by
  simp [List.eraseDups, mem_eraseDups_loop]

theorem nodup_eraseDups (l : List α) : l.eraseDups.Nodup :=
  nodup_eraseDups_loop l List.nodup_nil

end EraseDups

end ConsulAgent
