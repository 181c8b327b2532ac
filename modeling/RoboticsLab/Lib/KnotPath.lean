import Mathlib.Analysis.Normed.Module.Basic
import Mathlib.Tactic.Module

/-!
# A path through equally spaced knots

`between k i a` is the point of the path at `i + a`, on the way from knot `i` to knot `i + 1`.  When no two consecutive
knots are further apart than `c`, the path moves by at most `c` times the parameter (`norm_between_sub_le`).
-/

namespace KnotPath

variable {E : Type*} [NormedAddCommGroup E] [NormedSpace ℝ E] {k : ℕ → E} {c : ℝ} {i j : ℕ} {a b : ℝ}

def between (k : ℕ → E) (i : ℕ) (a : ℝ) : E := (1 - a) • k i + a • k (i + 1)

omit [NormedSpace ℝ E] in
theorem norm_knots_sub_le (h : ∀ i, ‖k (i + 1) - k i‖ ≤ c) (hij : i ≤ j) : ‖k j - k i‖ ≤ c * (j - i) := by
  induction j, hij using Nat.le_induction with
  | base => simp
  | succ j _ ih =>
    calc ‖k (j + 1) - k i‖ = ‖(k (j + 1) - k j) + (k j - k i)‖ := by rw [sub_add_sub_cancel]
      _ ≤ c + c * (j - i) := (norm_add_le _ _).trans (add_le_add (h j) ih)
      _ = c * ((j + 1 : ℕ) - i) := by push_cast; ring

/-- Within one segment. -/
theorem norm_between_sub_between (h : ∀ i, ‖k (i + 1) - k i‖ ≤ c) (hab : a ≤ b) :
    ‖between k i b - between k i a‖ ≤ c * (b - a) := by
  have heq : between k i b - between k i a = (b - a) • (k (i + 1) - k i) := by
    unfold between
    module
  rw [heq, norm_smul, Real.norm_of_nonneg (by linarith), mul_comm]
  exact mul_le_mul_of_nonneg_right (h i) (by linarith)

theorem between_zero : between k i 0 = k i := by simp [between]

theorem between_one : between k i 1 = k (i + 1) := by simp [between]

/-- **The path is Lipschitz.** -/
theorem norm_between_sub_le (h : ∀ i, ‖k (i + 1) - k i‖ ≤ c) (ha : a ≤ 1) (hb : 0 ≤ b) (hij : i ≤ j)
    (hle : (i : ℝ) + a ≤ j + b) : ‖between k j b - between k i a‖ ≤ c * ((j + b) - (i + a)) := by
  rcases Nat.eq_or_lt_of_le hij with rfl | hlt
  · have := norm_between_sub_between (i := i) h (a := a) (b := b) (by linarith)
    rwa [add_sub_add_left_eq_sub]
  · -- to the next knot, from knot to knot, and on
    have h1 := norm_between_sub_between (i := i) h ha
    have h2 := norm_knots_sub_le h (Nat.succ_le_of_lt hlt)
    have h3 := norm_between_sub_between (i := j) h hb
    rw [between_one] at h1
    rw [between_zero] at h3
    rw [Nat.succ_eq_add_one] at h2
    push_cast at h2
    calc ‖between k j b - between k i a‖
        = ‖(between k j b - k j) + (k j - k (i + 1)) + (k (i + 1) - between k i a)‖ := by congr 1; abel
      _ ≤ c * (b - 0) + c * (j - (i + 1)) + c * (1 - a) := (norm_add₃_le).trans (by gcongr)
      _ = c * ((j + b) - (i + a)) := by ring

end KnotPath
