import RoboticsLab.Lib.Numerals
import Mathlib.Algebra.Order.Field.Basic
import Mathlib.Tactic.FieldSimp
import Mathlib.Tactic.LinearCombination
import Mathlib.Tactic.Linarith
import Mathlib.Tactic.Ring

/-!
# Quadratics on an interval

`quad v a j s = v + a·s + j·s²/2` is the velocity of a motion with constant jerk.  On `[0, h]` it is a
blend of its three Bernstein controls, hence lies between their extrema (`quad_le_of_controls`,
`le_quad_of_controls`); its chord differs from it by `j·h²/8` at most; it is
bounded by its ends and by its extremum, where that lies inside (`abs_quad_le_of_extremum`).

    (1-u)·quad 0 + u·quad h - quad (u·h) = j·h²/2·u·(1-u)                        (chord_sub_quad)
-/

namespace Quadratic

variable {K : Type*} [Field K] [LinearOrder K] [IsStrictOrderedRing K] {v a j h s lo hi u : K}

def quad (v a j s : K) : K := v + s * a + 1 / 2 * s * s * j

/-- The slope of `quad` at `s`. -/
def slopeAt (a j s : K) : K := a + s * j

omit [LinearOrder K] [IsStrictOrderedRing K] in
@[simp] theorem quad_zero (v a j : K) : quad v a j 0 = v := by simp [quad]

/-- A quadratic from a later point on. -/
theorem quad_add (v a j s r : K) : quad v a j (s + r) = quad (quad v a j s) (slopeAt a j s) j r := by
  unfold quad slopeAt
  ring

/-! ## Controls -/

/-- The Bernstein controls on `[0, h]`: the start, the middle control and the end. -/
def control0 (v : K) : K := v
def control1 (v a h : K) : K := v + 1 / 2 * h * a
def control2 (v a j h : K) : K := v + h * a + 1 / 2 * h * h * j

/-- The quadratic is the blend of its controls. -/
theorem quad_eq_blend (hh : h ≠ 0) : quad v a j s =
    (1 - s / h) * (1 - s / h) * control0 v + 2 * (s / h) * (1 - s / h) * control1 v a h +
      s / h * (s / h) * control2 v a j h := by
  unfold quad control0 control1 control2
  field_simp
  ring

theorem blend_le {c0 c1 c2 : K} (h0 : c0 ≤ hi) (h1 : c1 ≤ hi) (h2 : c2 ≤ hi) (hu : 0 ≤ u)
    (hu1 : u ≤ 1) : (1 - u) * (1 - u) * c0 + 2 * u * (1 - u) * c1 + u * u * c2 ≤ hi := by
  have hv : 0 ≤ 1 - u := sub_nonneg.mpr hu1
  have e0 : (1 - u) * (1 - u) * c0 ≤ (1 - u) * (1 - u) * hi :=
    mul_le_mul_of_nonneg_left h0 (mul_nonneg hv hv)
  have e1 : 2 * u * (1 - u) * c1 ≤ 2 * u * (1 - u) * hi :=
    mul_le_mul_of_nonneg_left h1 (mul_nonneg (mul_nonneg zero_le_two hu) hv)
  have e2 : u * u * c2 ≤ u * u * hi := mul_le_mul_of_nonneg_left h2 (mul_nonneg hu hu)
  linarith

theorem quad_le_of_controls (hh : 0 < h) (h0 : control0 v ≤ hi) (h1 : control1 v a h ≤ hi)
    (h2 : control2 v a j h ≤ hi) (hs : 0 ≤ s) (hsh : s ≤ h) : quad v a j s ≤ hi := by
  rw [quad_eq_blend hh.ne']
  exact blend_le h0 h1 h2 (div_nonneg hs hh.le) ((div_le_one hh).mpr hsh)

theorem le_quad_of_controls (hh : 0 < h) (h0 : lo ≤ control0 v) (h1 : lo ≤ control1 v a h)
    (h2 : lo ≤ control2 v a j h) (hs : 0 ≤ s) (hsh : s ≤ h) : lo ≤ quad v a j s := by
  rw [quad_eq_blend hh.ne']
  have hneg := blend_le (neg_le_neg h0) (neg_le_neg h1) (neg_le_neg h2) (div_nonneg hs hh.le)
    ((div_le_one hh).mpr hsh)
  linarith

/-! ## Chords -/

/-- Linear interpolation. -/
def chord (x y u : K) : K := (1 - u) * x + u * y

theorem chord_le {x y : K} (hx : x ≤ hi) (hy : y ≤ hi) (hu : 0 ≤ u) (hu1 : u ≤ 1) :
    chord x y u ≤ hi := by
  have hv : 0 ≤ 1 - u := sub_nonneg.mpr hu1
  have e0 := mul_le_mul_of_nonneg_left hx hv
  have e1 := mul_le_mul_of_nonneg_left hy hu
  unfold chord
  linarith

theorem le_chord {x y : K} (hx : lo ≤ x) (hy : lo ≤ y) (hu : 0 ≤ u) (hu1 : u ≤ 1) :
    lo ≤ chord x y u := by
  have hv : 0 ≤ 1 - u := sub_nonneg.mpr hu1
  have e0 := mul_le_mul_of_nonneg_left hx hv
  have e1 := mul_le_mul_of_nonneg_left hy hu
  unfold chord
  linarith

/-- How far the chord lies above the quadratic. -/
theorem chord_sub_quad (v a j h u : K) :
    chord v (quad v a j h) u - quad v a j (u * h) = j * h * h / 2 * u * (1 - u) := by
  unfold chord quad
  field_simp
  ring

theorem chord_le_chord {x y x' y' : K} (hx : x ≤ x') (hy : y ≤ y') (hu : 0 ≤ u) (hu1 : u ≤ 1) :
    chord x y u ≤ chord x' y' u := by
  have e0 := mul_le_mul_of_nonneg_left hx (sub_nonneg.mpr hu1)
  have e1 := mul_le_mul_of_nonneg_left hy hu
  unfold chord
  exact add_le_add e0 e1

/-- The chord between two points of a quadratic. -/
theorem quad_between (v a j s r u : K) : quad v a j (s + u * (r - s)) =
    chord (quad v a j s) (quad v a j r) u - j * (r - s) * (r - s) / 2 * u * (1 - u) := by
  unfold chord quad
  field_simp
  ring

/-- A headroom of a quarter at each end, for jerks that may differ from the jerk between the ends,
covers the distance to the chord. -/
theorem headroom_covers {d ja jb : K} (hu : 0 ≤ u) (hu1 : u ≤ 1) (hd : 0 ≤ d) (hdh : d ≤ h)
    (hcov : 2 * |j| * u * (1 - u) ≤ (1 - u) * |ja| + u * |jb|) :
    |j * d * d / 2 * u * (1 - u)| ≤ chord (|ja| * h * h / 4) (|jb| * h * h / 4) u := by
  have hu2 : 0 ≤ u * (1 - u) := mul_nonneg hu (sub_nonneg.mpr hu1)
  have hdd : d * d ≤ h * h := mul_self_le_mul_self hd hdh
  have hsplit : j * d * d / 2 * u * (1 - u) = j * (d * d / 2 * (u * (1 - u))) := by ring
  have hfactor : 0 ≤ d * d / 2 * (u * (1 - u)) :=
    mul_nonneg (div_nonneg (mul_self_nonneg d) zero_le_two) hu2
  have hhh := mul_le_mul_of_nonneg_right hcov (mul_self_nonneg h)
  have hgrow := mul_le_mul_of_nonneg_left hdd (mul_nonneg (abs_nonneg j) hu2)
  rw [hsplit, abs_mul, abs_of_nonneg hfactor]
  unfold chord
  linarith

/-! ## Affine functions -/

def AffineOn (f : K → K) (a b : K) : Prop := ∃ c d, ∀ t, a ≤ t → t ≤ b → f t = c + d * t

omit [IsStrictOrderedRing K] in
/-- A chord over an interval, as a function. -/
theorem affineOn_of_chord {f : K → K} {b x y : K}
    (hf : ∀ t, a ≤ t → t ≤ b → f t = chord x y ((t - a) / (b - a))) : AffineOn f a b := by
  refine ⟨x - a * ((y - x) / (b - a)), (y - x) / (b - a), fun t h0 h1 => ?_⟩
  rw [hf t h0 h1]
  unfold chord
  ring

theorem AffineOn.between {f : K → K} {b r : K} (hf : AffineOn f a b) (hs : a ≤ s) (hsr : s ≤ r) (hr : r ≤ b)
    (hu : 0 ≤ u) (hu1 : u ≤ 1) : f (s + u * (r - s)) = chord (f s) (f r) u := by
  obtain ⟨c, d, hcd⟩ := hf
  have h0 : 0 ≤ u * (r - s) := mul_nonneg hu (sub_nonneg.mpr hsr)
  have h1 : u * (r - s) ≤ r - s := mul_le_of_le_one_left (sub_nonneg.mpr hsr) hu1
  rw [hcd s hs (hsr.trans hr), hcd r (hs.trans hsr) hr, hcd _ (by linarith) (by linarith)]
  unfold chord
  ring

/-! ## Extrema -/

/-- The quadratic about its extremum. -/
theorem quad_about_extremum (hj : j ≠ 0) (v a s : K) :
    quad v a j s = quad v a j (-a / j) + 1 / 2 * j * ((s - -a / j) * (s - -a / j)) := by
  unfold quad
  field_simp
  ring

omit [LinearOrder K] [IsStrictOrderedRing K] in
theorem quad_neg (v a j s : K) : quad (-v) (-a) (-j) s = -quad v a j s := by
  unfold quad
  ring

/-- An upper bound on `[0, h]` from the ends and the extremum, where that lies inside. -/
theorem quad_le_of_extremum (h0 : v ≤ hi) (h1 : quad v a j h ≤ hi)
    (he : j ≠ 0 → 0 < -a / j → -a / j < h → quad v a j (-a / j) ≤ hi) (hs : 0 ≤ s) (hsh : s ≤ h) :
    quad v a j s ≤ hi := by
  rcases le_or_gt 0 j with hj | hj
  · -- convex: the chord lies above
    rcases eq_or_lt_of_le (hs.trans hsh) with h0h | hpos
    · obtain rfl : s = 0 := le_antisymm (hsh.trans h0h.symm.le) hs
      simpa using h0
    · have hu : 0 ≤ s / h := div_nonneg hs hpos.le
      have hu1 : s / h ≤ 1 := (div_le_one hpos).mpr hsh
      have hchord := chord_sub_quad v a j h (s / h)
      rw [div_mul_cancel₀ s hpos.ne'] at hchord
      have hgap : 0 ≤ j * h * h / 2 * (s / h) * (1 - s / h) :=
        mul_nonneg (mul_nonneg (div_nonneg (mul_nonneg (mul_nonneg hj hpos.le) hpos.le) zero_le_two) hu)
          (sub_nonneg.mpr hu1)
      have hle := chord_le h0 h1 hu hu1
      linarith
  · -- concave: the value at the extremum, or at the end on its side
    have habout := quad_about_extremum hj.ne v a
    rcases le_or_gt (-a / j) 0 with hleft | hleft
    · have h00 := habout 0
      rw [quad_zero] at h00
      have hsq : (0 - -a / j) * (0 - -a / j) ≤ (s - -a / j) * (s - -a / j) :=
        mul_self_le_mul_self (by linarith) (by linarith)
      have hmul := mul_le_mul_of_nonpos_left hsq (by linarith : 1 / 2 * j ≤ 0)
      have hss := habout s
      linarith
    · rcases lt_or_ge (-a / j) h with hin | hright
      · have hpeak := he hj.ne hleft hin
        have hneg : 1 / 2 * j * ((s - -a / j) * (s - -a / j)) ≤ 0 :=
          mul_nonpos_of_nonpos_of_nonneg (by linarith) (mul_self_nonneg _)
        have hss := habout s
        linarith
      · have hsq : (-a / j - h) * (-a / j - h) ≤ (-a / j - s) * (-a / j - s) :=
          mul_self_le_mul_self (by linarith) (by linarith)
        have hmul := mul_le_mul_of_nonpos_left hsq (by linarith : 1 / 2 * j ≤ 0)
        have hss := habout s
        have hhh := habout h
        have e1 : (s - -a / j) * (s - -a / j) = (-a / j - s) * (-a / j - s) := by ring
        have e2 : (h - -a / j) * (h - -a / j) = (-a / j - h) * (-a / j - h) := by ring
        rw [e1] at hss
        rw [e2] at hhh
        linarith

/-- **The extrema decide.**  The same bound on both sides. -/
theorem abs_quad_le_of_extremum (h0 : |v| ≤ hi) (h1 : |quad v a j h| ≤ hi)
    (he : j ≠ 0 → 0 < -a / j → -a / j < h → |quad v a j (-a / j)| ≤ hi) (hs : 0 ≤ s) (hsh : s ≤ h) :
    |quad v a j s| ≤ hi := by
  obtain ⟨h0l, h0u⟩ := abs_le.mp h0
  obtain ⟨h1l, h1u⟩ := abs_le.mp h1
  refine abs_le.mpr ⟨?_, ?_⟩
  · have hneg : quad (-v) (-a) (-j) s ≤ hi := by
      refine quad_le_of_extremum (by linarith) (by rw [quad_neg]; linarith) ?_ hs hsh
      intro hj hpos hlt
      rw [neg_div_neg_eq] at hpos hlt ⊢
      rw [quad_neg]
      linarith [(abs_le.mp (he (neg_ne_zero.mp hj) hpos hlt)).1]
    rw [quad_neg] at hneg
    linarith
  · exact quad_le_of_extremum h0u h1u (fun hj hpos hlt => (abs_le.mp (he hj hpos hlt)).2) hs hsh

theorem abs_slope_le (h0 : |a| ≤ hi) (h1 : |slopeAt a j h| ≤ hi) (hs : 0 ≤ s) (hsh : s ≤ h) :
    |slopeAt a j s| ≤ hi := by
  obtain ⟨h0l, h0u⟩ := abs_le.mp h0
  obtain ⟨h1l, h1u⟩ := abs_le.mp h1
  unfold slopeAt at h1l h1u ⊢
  refine abs_le.mpr ?_
  rcases le_total 0 j with hj | hj
  · have e0 := mul_nonneg hs hj
    have e1 := mul_le_mul_of_nonneg_right hsh hj
    exact ⟨by linarith, by linarith⟩
  · have e0 := mul_nonpos_of_nonneg_of_nonpos hs hj
    have e1 := mul_le_mul_of_nonpos_right hsh hj
    exact ⟨by linarith, by linarith⟩

end Quadratic
