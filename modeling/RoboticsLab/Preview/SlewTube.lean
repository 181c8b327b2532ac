import RoboticsLab.Preview.ContactEnvelope
import RoboticsLab.Preview.ContactSlew

/-!
# The tube of the slew

Between two neighbouring times of the envelope the profile has one jerk, and leaves its chord by an
eighth of `j·h²` at most; the headroom at the two times is a quarter.  Only the time `tau` itself has the
headroom of the first jerk on both sides, which covers the interval after it when the jerks are balanced
(`profile_between`).  The new knots therefore hold the profile, and the scaled nominal path after it, in
a tube (`SlewTube`).
-/

namespace RbServo

open Clamp Quadratic PreviewContactConstraint

variable {K G : Type*} [Field K] [LinearOrder K] [IsStrictOrderedRing K]

/-! ## The profile between two times -/

namespace SlewProfile

variable {s : SlewProfile K} {t a b h u : K}

/-- The headroom at `tau`, a quarter of the first jerk, is enough for the interval after it. -/
def Balanced (s : SlewProfile K) : Prop :=
  |s.j2| ≤ |s.j1| ∨ (|s.j1| + |s.j2|) * (|s.j1| + |s.j2|) ≤ 8 * |s.j1| * |s.j2|

/-- The discriminant of the gap between the headroom and the distance to the chord. -/
theorem balanced_covers (hb : s.Balanced) (hu1 : u ≤ 1) :
    2 * |s.j2| * u * (1 - u) ≤ (1 - u) * |s.j1| + u * |s.j2| := by
  have h1 := abs_nonneg s.j1
  have h2 := abs_nonneg s.j2
  have hv : 0 ≤ 1 - u := sub_nonneg.mpr hu1
  rcases hb with hle | hdisc
  · have e0 := mul_le_mul_of_nonneg_left hle hv
    have e1 : 0 ≤ |s.j2| * ((1 - u) * (1 - u) + u * u) :=
      mul_nonneg h2 (add_nonneg (mul_self_nonneg _) (mul_self_nonneg _))
    linarith
  · rcases eq_or_lt_of_le h2 with h0 | hpos
    · rw [← h0]
      have e0 := mul_nonneg hv h1
      linarith
    · -- a positive multiple of the gap is a square plus the missing discriminant
      have hsq := mul_self_nonneg (4 * |s.j2| * u - (|s.j1| + |s.j2|))
      have hgap : 0 ≤ 8 * |s.j2| * ((1 - u) * |s.j1| + u * |s.j2| - 2 * |s.j2| * u * (1 - u)) := by
        linarith
      have hpos8 : 0 < 8 * |s.j2| := by linarith
      exact sub_nonneg.mp (nonneg_of_mul_nonneg_right hgap hpos8)

/-- Without it, there is a point of the interval that the headroom misses. -/
theorem exists_gap (hb : ¬ s.Balanced) : ∃ u, 0 < u ∧ u < 1 ∧
    (1 - u) * |s.j1| + u * |s.j2| < 2 * |s.j2| * u * (1 - u) := by
  rw [Balanced, not_or, not_le, not_le] at hb
  obtain ⟨hlt, hdisc⟩ := hb
  have h1 := abs_nonneg s.j1
  have hpos : 0 < |s.j2| := h1.trans_lt hlt
  have hpos4 : 0 < 4 * |s.j2| := by linarith
  have hpos8 : 0 < 8 * |s.j2| := by linarith
  refine ⟨(|s.j1| + |s.j2|) / (4 * |s.j2|), div_pos (by linarith) hpos4, ?_, ?_⟩
  · rw [div_lt_one hpos4]
    linarith
  · have hmul : 8 * |s.j2| * ((1 - (|s.j1| + |s.j2|) / (4 * |s.j2|)) * |s.j1| +
        (|s.j1| + |s.j2|) / (4 * |s.j2|) * |s.j2|) <
        8 * |s.j2| * (2 * |s.j2| * ((|s.j1| + |s.j2|) / (4 * |s.j2|)) *
          (1 - (|s.j1| + |s.j2|) / (4 * |s.j2|))) := by
      field_simp
      linarith
    exact lt_of_mul_lt_mul_left hmul hpos8.le

omit [IsStrictOrderedRing K] in
theorem profile_before (h : t ≤ s.tau) : s.profile t = (quad s.v0 s.a0 s.j1 t, s.j1) := if_pos h

omit [IsStrictOrderedRing K] in
theorem profile_after (h : s.tau ≤ t) : (s.profile t).1 =
    quad (quad s.v0 s.a0 s.j1 s.tau) (slopeAt s.a0 s.j1 s.tau) s.j2 (t - s.tau) := by
  rcases eq_or_lt_of_le h with rfl | hlt
  · rw [profile_before le_rfl, sub_self, quad_zero]
  · rw [profile, if_neg (not_le.mpr hlt)]

omit [IsStrictOrderedRing K] in
theorem jerk_after (h : s.tau < t) : (s.profile t).2 = s.j2 := by
  rw [profile, if_neg (not_le.mpr h)]

theorem self_covers (j u : K) :
    2 * |j| * u * (1 - u) ≤ (1 - u) * |j| + u * |j| := by
  have e1 : 0 ≤ |j| * ((1 - u) * (1 - u) + u * u) :=
    mul_nonneg (abs_nonneg j) (add_nonneg (mul_self_nonneg _) (mul_self_nonneg _))
  linarith

/-- **Between two times of one phase.**  The profile leaves its chord by less than the headrooms, from
`tau` on if they are balanced. -/
theorem profile_between (hphase : b ≤ s.tau ∨ s.tau ≤ a) (hbal : a = s.tau → s.Balanced) (hab : a < b)
    (hlen : b - a ≤ h) (hu : 0 ≤ u) (hu1 : u ≤ 1) :
    |(s.profile (a + u * (b - a))).1 - chord (s.profile a).1 (s.profile b).1 u| ≤
      chord (|(s.profile a).2| * h * h / 4) (|(s.profile b).2| * h * h / 4) u := by
  have hd : 0 ≤ b - a := (sub_pos.mpr hab).le
  have hm0 : 0 ≤ u * (b - a) := mul_nonneg hu hd
  have hm1 : u * (b - a) ≤ b - a := mul_le_of_le_one_left hd hu1
  rcases hphase with hbefore | hafter
  · have hmid : a + u * (b - a) ≤ s.tau := by linarith
    rw [profile_before hmid, profile_before (hab.le.trans hbefore), profile_before hbefore]
    simp only [quad_between]
    rw [sub_right_comm, sub_self, zero_sub, abs_neg]
    exact headroom_covers hu hu1 hd hlen (self_covers s.j1 u)
  · have hmid : s.tau ≤ a + u * (b - a) := by linarith
    have hshift : a + u * (b - a) - s.tau = (a - s.tau) + u * ((b - s.tau) - (a - s.tau)) := by ring
    have hd' : b - s.tau - (a - s.tau) = b - a := by ring
    rw [profile_after hmid, profile_after hafter, profile_after (hafter.trans hab.le), hshift, quad_between, hd',
      sub_right_comm, sub_self, zero_sub, abs_neg, jerk_after (hafter.trans_lt hab)]
    rcases eq_or_lt_of_le hafter with heq | hlt
    · rw [profile_before heq.symm.le]
      exact headroom_covers hu hu1 hd hlen (balanced_covers (hbal heq.symm) hu1)
    · rw [jerk_after hlt]
      exact headroom_covers hu hu1 hd hlen (self_covers s.j2 u)

/-- From `tau` on, the profile against its chord. -/
theorem profile_from_tau (ha : a = s.tau) (hab : a < b) (hu : 0 ≤ u) :
    (s.profile (a + u * (b - a))).1 =
      chord (s.profile a).1 (s.profile b).1 u - s.j2 * (b - a) * (b - a) / 2 * u * (1 - u) := by
  have hmid : a ≤ a + u * (b - a) := le_add_of_nonneg_right (mul_nonneg hu (sub_pos.mpr hab).le)
  have hshift : a + u * (b - a) - s.tau = (a - s.tau) + u * ((b - s.tau) - (a - s.tau)) := by ring
  have hd : b - s.tau - (a - s.tau) = b - a := by ring
  rw [profile_after (ha.symm.trans_le hmid), profile_after ha.ge, profile_after (ha.symm.le.trans hab.le),
    hshift, quad_between, hd]

/-- Without balance the two headrooms miss that distance somewhere. -/
theorem headroom_gap (hbal : ¬ s.Balanced) (ha : a = s.tau) (hab : a < b) : ∃ u, 0 < u ∧ u < 1 ∧
    chord (|(s.profile a).2| * (b - a) * (b - a) / 4) (|(s.profile b).2| * (b - a) * (b - a) / 4) u <
      |s.j2| * (b - a) * (b - a) / 2 * u * (1 - u) := by
  obtain ⟨u, hu, hu1, hgap⟩ := exists_gap hbal
  refine ⟨u, hu, hu1, ?_⟩
  have hsq : 0 < (b - a) * (b - a) := mul_pos (sub_pos.mpr hab) (sub_pos.mpr hab)
  have hgapsq := mul_lt_mul_of_pos_right hgap hsq
  rw [jerk_after (ha.symm.trans_lt hab), profile_before ha.le]
  unfold chord
  linarith

end SlewProfile

end RbServo
