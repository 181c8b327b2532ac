import RoboticsLab.Lib.Numerals
import Mathlib.Algebra.Order.Group.Unbundled.Abs
import Mathlib.Algebra.Order.Field.Basic
import Mathlib.Tactic.Linarith

/-!
# `std::clamp` and bounded steps

`Clamp.clamp v lo hi` is `std::clamp`, by its two comparisons.  For `lo ≤ hi` the result lies in
`[lo, hi]`; it lies between `v` and any point of the range, so clamping a step that starts inside
the range never lengthens it (`abs_clamp_sub_le`).  `copysign` is `std::copysign`.
-/

namespace Clamp

section Order

variable {α : Type*} [LinearOrder α] {v lo hi x : α}

/-- `std::clamp(v, lo, hi)`. -/
def clamp (v lo hi : α) : α := if v < lo then lo else if hi < v then hi else v

theorem le_clamp (h : lo ≤ hi) : lo ≤ clamp v lo hi := by
  unfold clamp
  split
  · exact le_rfl
  · next h1 =>
    split
    · exact h
    · exact not_lt.mp h1

theorem clamp_le (h : lo ≤ hi) : clamp v lo hi ≤ hi := by
  unfold clamp
  split
  · exact h
  · split
    · exact le_rfl
    · next h2 => exact not_lt.mp h2

/-- The result is not beyond `v`, seen from a point of the range. -/
theorem clamp_between (h1 : lo ≤ x) (h2 : x ≤ hi) :
    (x ≤ clamp v lo hi ∧ clamp v lo hi ≤ v) ∨ (v ≤ clamp v lo hi ∧ clamp v lo hi ≤ x) := by
  unfold clamp
  split
  · next hlt => exact Or.inr ⟨hlt.le, h1⟩
  · split
    · next hlt => exact Or.inl ⟨h2, hlt.le⟩
    · rcases le_total x v with h | h
      · exact Or.inl ⟨h, le_rfl⟩
      · exact Or.inr ⟨le_rfl, h⟩

end Order

section Group

variable {α : Type*} [AddCommGroup α] [LinearOrder α] [IsOrderedAddMonoid α] {v lo hi x : α}

/-- Clamping shortens a step that starts in the range. -/
theorem abs_clamp_sub_le (h1 : lo ≤ x) (h2 : x ≤ hi) : |clamp v lo hi - x| ≤ |v - x| := by
  rcases clamp_between (v := v) h1 h2 with ⟨ha, hb⟩ | ⟨ha, hb⟩
  · rw [abs_of_nonneg (sub_nonneg.mpr ha), abs_of_nonneg (sub_nonneg.mpr (ha.trans hb))]
    exact sub_le_sub_right hb x
  · rw [abs_of_nonpos (sub_nonpos.mpr hb), abs_of_nonpos (sub_nonpos.mpr (ha.trans hb))]
    exact neg_le_neg (sub_le_sub_right ha x)

/-- `std::copysign(x, y)` on numbers without a signed zero. -/
def copysign (x y : α) : α := if y < 0 then -|x| else |x|

theorem abs_copysign (x y : α) : |copysign x y| = |x| := by
  unfold copysign
  split
  · rw [abs_neg, abs_abs]
  · rw [abs_abs]

/-- A value clamped to `[-b, b]` is at most `b` in size. -/
theorem abs_clamp_le {b : α} (hb : 0 ≤ b) : |clamp v (-b) b| ≤ b := by
  have hle : -b ≤ b := (neg_nonpos.mpr hb).trans hb
  exact abs_le.mpr ⟨le_clamp hle, clamp_le hle⟩

end Group

end Clamp
