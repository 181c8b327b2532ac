import Mathlib.Algebra.Order.Field.Basic
import Mathlib.Algebra.Order.Group.MinMax
import Mathlib.Algebra.Order.Floor.Semiring
import Mathlib.Tactic.Linarith
import Mathlib.Tactic.Ring

/-!
# A limiter that engages at once and releases slowly

`hold m p c` follows a demand `c` that asks for at least the previous output `p` in its direction,
and otherwise lets the output shrink by at most `m`.  Whatever is asked, one step loses at most `m`
(`sub_le_abs_hold`), changes sign only inside the band of width `m` (`hold_mul_pos`) and never
overshoots (`abs_hold_le`).  Without a demand the output is `max 0 (|p| - n * m)` after `n` steps
(`abs_iterate_hold_zero`).
-/

namespace ReleaseLimiter

variable {K : Type*} [Field K] [LinearOrder K]

/-- The demand `c` asks for at least `p`, in the direction of `p`. -/
def AsksAtLeast (p c : K) : Prop := (0 ≤ p ∧ p ≤ c) ∨ (p ≤ 0 ∧ c ≤ p)

/-- The output after a step with previous output `p` and demand `c`. -/
def hold (m p c : K) : K :=
  if 0 < p then max c (if m < p then p - m else c)
  else if p < 0 then min c (if p < -m then p + m else c)
  else c

/-! ## One step -/

variable {m p c : K}

theorem hold_of_pos (hp : m < p) (h0 : 0 < p) : hold m p c = max c (p - m) := by
  simp [hold, h0, hp]

theorem hold_of_neg (hp : p < -m) (h0 : p < 0) : hold m p c = min c (p + m) := by
  simp [hold, h0, hp, h0.le]

variable [IsStrictOrderedRing K]

/-- Inside the band the demand is followed. -/
theorem hold_of_abs_le (h : |p| ≤ m) : hold m p c = c := by
  obtain ⟨hlo, hhi⟩ := abs_le.mp h
  simp [hold, not_lt.mpr hhi, not_lt.mpr hlo]

/-- Outside the band, by the side the previous output is on. -/
theorem sides_of_lt_abs (hm : 0 ≤ m) (h : m < |p|) : (0 < p ∧ m < p) ∨ (p < 0 ∧ p < -m) := by
  rcases lt_abs.mp h with hp | hp
  · exact .inl ⟨hm.trans_lt hp, hp⟩
  · exact .inr ⟨by linarith, by linarith⟩

theorem hold_of_asksAtLeast (hm : 0 ≤ m) (h : AsksAtLeast p c) : hold m p c = c := by
  by_cases hb : |p| ≤ m
  · exact hold_of_abs_le hb
  · rcases sides_of_lt_abs hm (not_le.mp hb) with ⟨h0, hp⟩ | ⟨h0, hp⟩
    · rw [hold_of_pos hp h0]
      rcases h with ⟨-, hc⟩ | ⟨hneg, -⟩
      · exact max_eq_left (by linarith)
      · exact absurd h0 (not_lt.mpr hneg)
    · rw [hold_of_neg hp h0]
      rcases h with ⟨hpos, -⟩ | ⟨-, hc⟩
      · exact absurd h0 (not_lt.mpr hpos)
      · exact min_eq_left (by linarith)

/-- **No early release.**  Whatever is asked, one step gives up at most `m`. -/
theorem sub_le_abs_hold (hm : 0 ≤ m) : |p| - m ≤ |hold m p c| := by
  by_cases hb : |p| ≤ m
  · exact (sub_nonpos.mpr hb).trans (abs_nonneg _)
  · rcases sides_of_lt_abs hm (not_le.mp hb) with ⟨h0, hp⟩ | ⟨h0, hp⟩
    · rw [hold_of_pos hp h0, abs_of_pos h0]
      exact (le_max_right _ _).trans (le_abs_self _)
    · rw [hold_of_neg hp h0, abs_of_neg h0]
      have hle : min c (p + m) ≤ p + m := min_le_right _ _
      have habs := neg_le_abs (min c (p + m))
      linarith

/-- Outside the band the sign stays. -/
theorem hold_mul_pos (hm : 0 ≤ m) (h : m < |p|) : 0 < hold m p c * p := by
  rcases sides_of_lt_abs hm h with ⟨h0, hp⟩ | ⟨h0, hp⟩
  · rw [hold_of_pos hp h0]
    exact mul_pos (lt_max_of_lt_right (by linarith)) h0
  · rw [hold_of_neg hp h0]
    exact mul_pos_of_neg_of_neg (min_lt_of_right_lt (by linarith)) h0

/-- **No overshoot.** -/
theorem abs_hold_le (hm : 0 ≤ m) : |hold m p c| ≤ max |c| |p| := by
  by_cases hb : |p| ≤ m
  · rw [hold_of_abs_le hb]
    exact le_max_left _ _
  · rcases sides_of_lt_abs hm (not_le.mp hb) with ⟨h0, hp⟩ | ⟨h0, hp⟩
    · rw [hold_of_pos hp h0, abs_of_pos h0, abs_of_pos (lt_max_of_lt_right (by linarith))]
      exact max_le_max (le_abs_self c) (by linarith)
    · rw [hold_of_neg hp h0, abs_of_neg h0, abs_of_neg (min_lt_of_right_lt (by linarith))]
      rw [← max_neg_neg]
      exact max_le_max (neg_le_abs c) (by linarith)

/-! ## Runs -/

/-- Without a demand the output shrinks by `m` and stops at zero. -/
theorem abs_hold_zero (hm : 0 ≤ m) : |hold m p 0| = max 0 (|p| - m) := by
  by_cases hb : |p| ≤ m
  · rw [hold_of_abs_le hb, abs_zero, max_eq_left (sub_nonpos.mpr hb)]
  · rcases sides_of_lt_abs hm (not_le.mp hb) with ⟨h0, hp⟩ | ⟨h0, hp⟩
    · rw [hold_of_pos hp h0, abs_of_pos h0, abs_of_nonneg (le_max_left _ _)]
    · rw [hold_of_neg hp h0, abs_of_neg h0, abs_of_nonpos (min_le_left _ _), ← max_neg_neg]
      congr 1
      · exact neg_zero
      · ring

/-- The outputs of a run: the `n`-th is the one before the `n`-th demand. -/
def outputs (m p : K) (demand : ℕ → K) : ℕ → K
  | 0 => p
  | n + 1 => hold m (outputs m p demand n) (demand n)

/-- The ramp down: `k` steps without a demand. -/
theorem abs_outputs_of_no_demand (hm : 0 ≤ m) (demand : ℕ → K) (n k : ℕ)
    (hzero : ∀ i < k, demand (n + i) = 0) :
    |outputs m p demand (n + k)| = max 0 (|outputs m p demand n| - k * m) := by
  induction k with
  | zero => simp
  | succ k ih =>
    have hlast : outputs m p demand (n + (k + 1)) = hold m (outputs m p demand (n + k)) 0 := by
      rw [← hzero k (Nat.lt_succ_self k)]
      rfl
    rw [hlast, abs_hold_zero hm, ih fun i hi => hzero i (Nat.lt_succ_of_lt hi)]
    push_cast
    -- the step from a bounded ramp: `max 0 (max 0 x - m) = max 0 (x - m)`
    rcases le_total 0 (|outputs m p demand n| - k * m) with h | h
    · rw [max_eq_right h]
      congr 1
      ring
    · rw [max_eq_left h, max_eq_left (by linarith), max_eq_left (by linarith)]

/-- Zero is reached, exactly, once the ramp is as long as the output. -/
theorem outputs_eq_zero_of_no_demand [FloorSemiring K] (hm : 0 < m) (demand : ℕ → K) (n k : ℕ)
    (hzero : ∀ i < k, demand (n + i) = 0) (hk : ⌈|outputs m p demand n| / m⌉₊ ≤ k) :
    outputs m p demand (n + k) = 0 := by
  have hlen : |outputs m p demand n| ≤ k * m := (div_le_iff₀ hm).mp (Nat.ceil_le.mp hk)
  rw [← abs_eq_zero, abs_outputs_of_no_demand hm.le demand n k hzero]
  exact max_eq_left (by linarith)

end ReleaseLimiter
