import Mathlib.Algebra.Order.Field.Basic
import Mathlib.Tactic.Linarith
import Mathlib.Tactic.Ring

/-!
# Piecewise-linear interpolation of a list

`polyline xs t` is the value at `t` of the line through the points `(0, x₀), (1, x₁), …`.  On the
segment `[i, i + 1]` it is the linear blend of `xᵢ` and `xᵢ₊₁` (`polyline_segment`), which lies
between the two (`blend_between`).
-/

namespace Polyline

variable {K : Type*} [Field K] [LinearOrder K] [IsStrictOrderedRing K]

def polyline : List K → K → K
  | [], _ => 0
  | [x], _ => x
  | x :: y :: rest, t => if t ≤ 1 then x + t * (y - x) else polyline (y :: rest) (t - 1)

theorem polyline_segment (xs : List K) (i : ℕ) (h : i + 1 < xs.length) {t : K} (h1 : (i : K) ≤ t)
    (h2 : t ≤ i + 1) : polyline xs t = xs[i] + (t - i) * (xs[i + 1] - xs[i]) := by
  induction xs generalizing i t with
  | nil => simp at h
  | cons x xs ih =>
    cases xs with
    | nil => simp at h
    | cons y rest =>
      cases i with
      | zero =>
        have ht : t ≤ 1 := by simpa using h2
        rw [polyline, if_pos ht]
        simp
      | succ i =>
        push_cast at h1 h2
        have hi : (0 : K) ≤ i := Nat.cast_nonneg i
        by_cases ht : t ≤ 1
        · -- the left end of the second segment: `i = 0` and `t = 1`
          have hi0 : (i : K) = 0 := le_antisymm (by linarith) hi
          obtain rfl : i = 0 := by exact_mod_cast hi0
          have ht1 : t = 1 := le_antisymm ht (by linarith)
          rw [polyline, if_pos ht, ht1]
          simp
        · rw [polyline, if_neg ht]
          have hlen : i + 1 < (y :: rest).length := by simpa using h
          rw [ih i hlen (t := t - 1) (by linarith) (by linarith)]
          simp only [List.getElem_cons_succ]
          push_cast
          ring

/-- A blend with weight in `[0, 1]` lies between its ends. -/
theorem blend_between (x y : K) {f : K} (h0 : 0 ≤ f) (h1 : f ≤ 1) :
    min x y ≤ x + f * (y - x) ∧ x + f * (y - x) ≤ max x y := by
  rcases le_total x y with h | h
  · rw [min_eq_left h, max_eq_right h]
    constructor
    · nlinarith
    · nlinarith
  · rw [min_eq_right h, max_eq_left h]
    constructor
    · nlinarith
    · nlinarith

end Polyline
