/-
`scaleFactor` and the cluster-size `Delayer` of the anti-entropy syncer, with the model's
`Nat.clog` related to the source's `math.Log2` expression (`scaleFactor_eq_ceil_logb`).
-/
import Mathlib.Analysis.SpecialFunctions.Log.Base

namespace ConsulAgent

/-- `scaleThreshold`: the cluster size above which sync runs are spread apart. -/
def scaleThreshold : Int := 128

/-- `scaleFactor`, with `math.Log2` exact.  `Nat.clog 2 n` is `⌈log₂ n⌉`, and the threshold is a
power of two, so `⌈log₂ nodes − log₂ scaleThreshold⌉` is `⌈log₂ nodes⌉ − log₂ scaleThreshold`. -/
def scaleFactor (nodes : Int) : Int :=
  if nodes ≤ scaleThreshold then 1
  else (Nat.clog 2 nodes.toNat : Int) - Nat.log 2 scaleThreshold.toNat + 1

theorem log_scaleThreshold : Nat.log 2 scaleThreshold.toNat = 7 :=
  Nat.log_pow (by norm_num) 7

/-- From the threshold on, the factor is `⌈log₂ n⌉ − 6` (at the threshold itself both are 1). -/
theorem scaleFactor_eq_clog {n : ℕ} (hn : 128 ≤ n) : scaleFactor n = Nat.clog 2 n - 6 := by
  rcases hn.lt_or_eq with hn | rfl
  · have hlt : ¬ (n : Int) ≤ scaleThreshold := by simp only [scaleThreshold]; omega
    simp only [scaleFactor, hlt, if_false, Int.toNat_natCast, log_scaleThreshold]
    omega
  · have h : Nat.clog 2 128 = 7 := Nat.clog_pow 2 7 (by norm_num)
    simp [scaleFactor, scaleThreshold, h]

/-- Above the threshold `⌈log₂ n⌉ ≥ 8`. -/
theorem eight_le_clog {n : ℕ} (hn : 128 < n) : 8 ≤ Nat.clog 2 n := by
  by_contra h
  have := (Nat.le_pow_iff_clog_le (by norm_num : 1 < 2)).2 (Nat.le_of_lt_succ (not_le.1 h))
  omega

/-- Doubling a cluster adds one to `⌈log₂ n⌉`. -/
theorem clog_two_mul {n : ℕ} (hn : 1 ≤ n) : Nat.clog 2 (2 * n) = Nat.clog 2 n + 1 := by
  have h2 : (1 : ℕ) < 2 := by norm_num
  apply le_antisymm
  · rw [← Nat.le_pow_iff_clog_le h2, pow_succ]
    have := Nat.le_pow_clog h2 n
    omega
  · have hpos : 1 ≤ Nat.clog 2 (2 * n) := by
      by_contra h
      have := (Nat.le_pow_iff_clog_le h2).2 (Nat.le_of_lt_succ (not_le.1 h))
      omega
    have hle := Nat.le_pow_clog h2 (2 * n)
    obtain ⟨k, hk⟩ : ∃ k, Nat.clog 2 (2 * n) = k + 1 := ⟨_, (Nat.sub_add_cancel hpos).symm⟩
    rw [hk, pow_succ] at hle
    have : Nat.clog 2 n ≤ k := (Nat.le_pow_iff_clog_le h2).1 (by omega)
    omega

theorem one_le_scaleFactor (n : Int) : 1 ≤ scaleFactor n := by
  unfold scaleFactor
  split
  · exact le_rfl
  · have := @eight_le_clog n.toNat (by simp only [scaleThreshold] at *; omega)
    rw [log_scaleThreshold]
    omega

/-- `n ≤ 128 · 2^(k−1)`, for `k ≥ 2`, says `⌈log₂ n⌉ ≤ k + 6`. -/
theorem le_scaled_iff {n k : ℕ} (hk : 2 ≤ k) :
    n ≤ 128 * 2 ^ (k - 1) ↔ Nat.clog 2 n ≤ k + 6 := by
  have : 128 * 2 ^ (k - 1) = 2 ^ (k + 6) := by
    obtain ⟨j, rfl⟩ : ∃ j, k = j + 1 := ⟨k - 1, by omega⟩
    rw [show j + 1 + 6 = j + 7 by omega, pow_add]
    simp [mul_comm]
  rw [this]
  exact Nat.le_pow_iff_clog_le (by norm_num)

/-- The factor, with `log₂` taken exactly: 1 up to the threshold, the least `k ≥ 2` with
`n ≤ 128 · 2^(k−1)` above it; monotone, and one more each time the cluster doubles. -/
theorem scaleFactor_closed_form :
    (∀ n : ℕ, n ≤ 128 → scaleFactor n = 1) ∧
    (∀ n : ℕ, 128 < n →
      ∃ k : ℕ, scaleFactor n = k ∧ IsLeast {k : ℕ | 2 ≤ k ∧ n ≤ 128 * 2 ^ (k - 1)} k) ∧
    Monotone scaleFactor ∧
    (∀ n : ℕ, 128 ≤ n → scaleFactor (2 * n : ℕ) = scaleFactor n + 1) := by
  refine ⟨fun n hn => ?_, fun n hn => ?_, fun a b hab => ?_, fun n hn => ?_⟩
  · simp only [scaleFactor, scaleThreshold]
    rw [if_pos (by omega)]
  · have h8 := eight_le_clog hn
    refine ⟨Nat.clog 2 n - 6, by rw [scaleFactor_eq_clog hn.le]; omega, ⟨by omega, ?_⟩, ?_⟩
    · exact (le_scaled_iff (by omega)).2 (by omega)
    · rintro k ⟨hk, hle⟩
      have := (le_scaled_iff hk).1 hle
      omega
  · unfold scaleFactor
    split
    · exact one_le_scaleFactor b
    · have hb : ¬ b ≤ scaleThreshold := fun h => by omega
      rw [if_neg hb]
      have : Nat.clog 2 a.toNat ≤ Nat.clog 2 b.toNat := Nat.clog_mono_right 2 (by omega)
      omega
  · rw [scaleFactor_eq_clog hn, scaleFactor_eq_clog (by omega), clog_two_mul (by omega)]
    push_cast
    ring

/-- The computed factor is the source's expression over the reals,
`⌈log₂ nodes − log₂ 128⌉ + 1`, for every cluster above the threshold. -/
theorem scaleFactor_eq_ceil_logb {n : ℕ} (hn : 128 < n) :
    scaleFactor n = ⌈Real.logb 2 n - Real.logb 2 128⌉ + 1 := by
  have h128 : Real.logb 2 128 = ((7 : ℤ) : ℝ) := by
    rw [show (128 : ℝ) = 2 ^ (7 : ℕ) by norm_num, Real.logb_pow, Real.logb_self_eq_one (by norm_num)]
    norm_num
  have hceil : ⌈Real.logb 2 n⌉ = Nat.clog 2 n := by
    have := @Real.ceil_logb_natCast 2 (n : ℝ) (Nat.cast_nonneg n)
    rw [Nat.cast_ofNat] at this
    rw [this, Int.clog_natCast]
  rw [h128, Int.ceil_sub_int, hceil, scaleFactor_eq_clog hn.le]
  ring

theorem scaleFactor_thousand_eq_ceil_logb :
    128 < 1000 ∧ scaleFactor (1000 : ℕ) = ⌈Real.logb 2 (1000 : ℕ) - Real.logb 2 128⌉ + 1 :=
  ⟨by norm_num, scaleFactor_eq_ceil_logb (by norm_num)⟩

/-- `lib.RandomStagger`, modelled from the spec: a random duration in `[0, intv)`, and `0` when
that range is empty.  `randomStagger intv j` says that `j` is one of its results. -/
def randomStagger (intv j : Int) : Bool :=
  0 ≤ j && (j == 0 || j < intv)

/-- `delayer.Jitter` of `NewClusterSizeDelayer` while the cluster has `size` nodes:
`RandomStagger(scaleFactor(size) * delay)`. -/
def clusterSizeJitter (size delay j : Int) : Bool :=
  randomStagger (scaleFactor size * delay) j

/-- The cluster-size delayer never returns a negative duration, and stays below the scaled base
delay when that is positive. -/
theorem clusterSizeJitter_bounds {size delay j : Int} (h : clusterSizeJitter size delay j = true) :
    0 ≤ j ∧ (0 < scaleFactor size * delay → j < scaleFactor size * delay) := by
  simp only [clusterSizeJitter, randomStagger, Bool.and_eq_true, decide_eq_true_eq,
    Bool.or_eq_true, beq_iff_eq] at h
  omega

end ConsulAgent
