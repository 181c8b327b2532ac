import RoboticsLab.SpaceMouse.PoseMath
import Mathlib.Analysis.SpecialFunctions.Trigonometric.Bounds

/-!
# The clamped target stays near the live pose

`_clamp_target_lead` leaves the position within `max_target_lead_m` of the live one, always, and the rotation within
`max_target_lead_rad`, unless one of its numerical branches is in the way (`ClampExact`): a relative rotation of a half
turn, whose logarithm has no axis; a limit below the small-angle threshold of `_so3_exp`; a result so near a vertical
pitch that `_matrix_to_rpy` drops its roll.
-/

namespace PolicyRunner.PoseTarget

open Rotation3 Real

/-! ## Angles of a matrix -/

theorem isRotation_rpyToMatrix (roll pitch yaw : ℝ) : IsRotation (rpyToMatrix roll pitch yaw) :=
  isRotation_eulerZYX (cos_sq_add_sin_sq roll) (cos_sq_add_sin_sq pitch) (cos_sq_add_sin_sq yaw)

theorem Pose6.isRotation (p : Pose6) : IsRotation p.rotation := isRotation_rpyToMatrix _ _ _

theorem cos_wrapPi (v : ℝ) : cos (wrapPi v) = cos v := by
  have h : wrapPi v = v - ⌊(v + π) / (2 * π)⌋ * (2 * π) := by
    unfold wrapPi
    ring
  rw [h, cos_sub_int_mul_two_pi]

theorem sin_wrapPi (v : ℝ) : sin (wrapPi v) = sin v := by
  have h : wrapPi v = v - ⌊(v + π) / (2 * π)⌋ * (2 * π) := by
    unfold wrapPi
    ring
  rw [h, sin_sub_int_mul_two_pi]

theorem rpyToMatrix_wrapPi (roll pitch yaw : ℝ) :
    rpyToMatrix (wrapPi roll) (wrapPi pitch) (wrapPi yaw) = rpyToMatrix roll pitch yaw := by
  unfold rpyToMatrix
  simp only [cos_wrapPi, sin_wrapPi]

/-- The argument of a point at distance `r`. -/
theorem atan2_polar {x y r : ℝ} (hr : 0 < r) (h : x ^ 2 + y ^ 2 = r ^ 2) :
    r * cos (atan2 y x) = x ∧ r * sin (atan2 y x) = y := by
  have hnorm : ‖(⟨x, y⟩ : ℂ)‖ = r := by
    rw [Complex.norm_eq_sqrt_sq_add_sq, h, sqrt_sq hr.le]
  have hne : (⟨x, y⟩ : ℂ) ≠ 0 := by
    rw [← norm_pos_iff, hnorm]
    exact hr
  unfold atan2
  rw [Complex.cos_arg hne, Complex.sin_arg, hnorm]
  exact ⟨mul_div_cancel₀ _ hr.ne', mul_div_cancel₀ _ hr.ne'⟩

/-- The branch of `_matrix_to_rpy` that is taken is exact. -/
def AnglesExact (m : Mat3) : Prop := cos (pitchOf m) = 0 ∨ 1e-9 < cos (pitchOf m)

theorem sin_pitchOf {m : Mat3} (h : IsRotation m) : sin (pitchOf m) = -m 2 0 ∧ 0 ≤ cos (pitchOf m) := by
  have hrow := h.row_sq 2
  have hle : m 2 0 ^ 2 ≤ 1 := by nlinarith [sq_nonneg (m 2 1), sq_nonneg (m 2 2)]
  have hlow : -1 ≤ m 2 0 := by nlinarith
  have hhigh : m 2 0 ≤ 1 := by nlinarith
  unfold pitchOf
  rw [min_eq_right (by linarith), max_eq_right (by linarith)]
  exact ⟨sin_arcsin (by linarith) (by linarith), cos_arcsin_nonneg _⟩

/-- **The round trip.**  The angles of a rotation give it back. -/
theorem rpyToMatrix_matrixToRpy {m : Mat3} (h : IsRotation m) (hexact : AnglesExact m) :
    rpyToMatrix (matrixToRpy m).1 (matrixToRpy m).2.1 (matrixToRpy m).2.2 = m := by
  obtain ⟨hsin, hcos⟩ := sin_pitchOf h
  have hunit := cos_sq_add_sin_sq (pitchOf m)
  have hrow := h.row_sq 2
  have hcol := h.column_sq 0
  have h20 : m 2 0 = -sin (pitchOf m) := by rw [hsin, neg_neg]
  rw [h20] at hrow hcol
  unfold matrixToRpy
  rcases hexact with hzero | hpos
  · -- a vertical pitch, without a roll
    rw [hzero, abs_zero, if_neg (by norm_num)]
    dsimp only
    rw [rpyToMatrix_wrapPi]
    rw [hzero] at hunit
    have hsq : sin (pitchOf m) ^ 2 = 1 := by linarith
    have h21 : m 2 1 = 0 := by nlinarith [sq_nonneg (m 2 1), sq_nonneg (m 2 2)]
    have hcol1 := h.column_sq 1
    obtain ⟨hcy, hsy⟩ := atan2_polar (x := m 1 1) (y := -m 0 1) one_pos (by
      rw [h21] at hcol1
      linarith)
    rw [one_mul] at hcy hsy
    have h01 : m 0 1 = -sin (atan2 (-m 0 1) (m 1 1)) := by rw [hsy, neg_neg]
    have heq := eq_eulerZYX_of_gimbal h hsq h20 h01 hcy.symm
    unfold rpyToMatrix
    rw [cos_zero, sin_zero, hzero]
    exact heq.symm
  · rw [abs_of_nonneg hcos, if_pos hpos]
    dsimp only
    rw [rpyToMatrix_wrapPi]
    have hcp : 0 < cos (pitchOf m) := lt_trans (by norm_num) hpos
    obtain ⟨hcr, hsr⟩ := atan2_polar (x := m 2 2) (y := m 2 1) hcp (by linarith)
    obtain ⟨hcy, hsy⟩ := atan2_polar (x := m 0 0) (y := m 1 0) hcp (by linarith)
    exact (eq_eulerZYX h hunit hcp.ne' (by linarith) (by linarith) h20 hsr.symm hcr.symm).symm

/-! ## Logarithm and exponential -/

theorem length3_nonneg (v : ℝ × ℝ × ℝ) : 0 ≤ length3 v := sqrt_nonneg _

theorem length3_sq (v : ℝ × ℝ × ℝ) : length3 v ^ 2 = v.1 ^ 2 + v.2.1 ^ 2 + v.2.2 ^ 2 := by
  unfold length3
  rw [sq_sqrt (by nlinarith [mul_self_nonneg v.1, mul_self_nonneg v.2.1, mul_self_nonneg v.2.2])]
  ring

theorem length3_scale {a : ℝ} (ha : 0 ≤ a) (v : ℝ × ℝ × ℝ) :
    length3 (v.1 * a, v.2.1 * a, v.2.2 * a) = length3 v * a := by
  have hsq : length3 (v.1 * a, v.2.1 * a, v.2.2 * a) ^ 2 = (length3 v * a) ^ 2 := by
    rw [length3_sq, mul_pow (length3 v) a, length3_sq]
    ring
  exact (sq_eq_sq₀ (length3_nonneg _) (mul_nonneg (length3_nonneg v) ha)).mp hsq

/-- The angle that the logarithm computes is that of the rotation. -/
theorem arccos_clamped {m : Mat3} (h : IsRotation m) :
    arccos (max (-1) (min 1 ((m.trace - 1) * 2⁻¹))) = angle m := by
  obtain ⟨hlow, hhigh⟩ := h.trace_mem
  rw [min_eq_right (by linarith), max_eq_right (by linarith)]
  rfl

/-- The length of the logarithm: the angle, but the sine of a small one, and zero for a half turn. -/
theorem length3_so3Log {m : Mat3} (h : IsRotation m) :
    length3 (so3Log m) =
      if angle m < 1e-9 then sin (angle m) else if sin (angle m) = 0 then 0 else angle m := by
  have hvee := h.veeSq_eq_sin
  have hsin := sin_angle_nonneg m
  have hscaled : ∀ a : ℝ, 0 ≤ a →
      length3 (a * (m 2 1 - m 1 2), a * (m 0 2 - m 2 0), a * (m 1 0 - m 0 1)) = a * (2 * sin (angle m)) := by
    intro a ha
    refine (sq_eq_sq₀ (length3_nonneg _) (by positivity)).mp ?_
    rw [length3_sq, mul_pow a (2 * sin (angle m)), ← hvee]
    unfold veeSq
    ring
  unfold so3Log
  dsimp only
  rw [arccos_clamped h]
  by_cases hsmall : angle m < 1e-9
  · rw [if_pos hsmall, if_pos hsmall, hscaled _ (by norm_num)]
    ring
  · rw [if_neg hsmall, if_neg hsmall]
    have hscale : 0 ≤ angle m / (2 * sin (angle m)) := div_nonneg (angle_nonneg m) (by linarith)
    rw [hscaled _ hscale]
    by_cases hzero : sin (angle m) = 0
    · rw [if_pos hzero, hzero]
      ring
    · rw [if_neg hzero]
      exact div_mul_cancel₀ _ (mul_ne_zero two_ne_zero hzero)

/-- The exponential of a vector that is not small is the rotation about it by its length. -/
theorem so3Exp_isRotation {v : ℝ × ℝ × ℝ} (hv : 1e-9 ≤ length3 v) :
    IsRotation (so3Exp v) ∧ (so3Exp v).trace = 1 + 2 * cos (length3 v) := by
  have hpos : 0 < length3 v := lt_of_lt_of_le (by norm_num) hv
  have hunit : (v.1 / length3 v) ^ 2 + (v.2.1 / length3 v) ^ 2 + (v.2.2 / length3 v) ^ 2 = 1 := by
    rw [div_pow, div_pow, div_pow, ← add_div, ← add_div, ← length3_sq, div_self (pow_ne_zero 2 hpos.ne')]
  unfold so3Exp
  dsimp only
  rw [if_neg (not_lt.mpr hv)]
  exact ⟨isRotation_axisAngle hunit (cos_sq_add_sin_sq _), trace_axisAngle hunit⟩

/-! ## The clamp -/

/-- Within both limits of the live pose. -/
structure WithinLead (maxTargetLeadM maxTargetLeadRad : ℝ) (target live : Pose6) : Prop where
  position : distance target live ≤ maxTargetLeadM
  rotation : angle (relativeRotation target live) ≤ maxTargetLeadRad

/-- No numerical branch of the clamp is in the way: the relative rotation is within the limit, or it is clamped with
an axis to a limit that is not small, and the angles of the result are exact. -/
structure ClampExact (maxTargetLeadRad : ℝ) (target live : Pose6) : Prop where
  rotation : maxTargetLeadRad = 0 ∨ angle (relativeRotation target live) ≤ maxTargetLeadRad ∨
    (1e-9 ≤ maxTargetLeadRad ∧ angle (relativeRotation target live) ≠ π)
  angles : AnglesExact (clampRotation target live maxTargetLeadRad)

theorem isRotation_relativeRotation (target live : Pose6) : IsRotation (relativeRotation target live) :=
  live.isRotation.transpose.mul target.isRotation

theorem clampPosition_within {maxTargetLeadM : ℝ} (hmax : 0 ≤ maxTargetLeadM) (target live : Pose6) :
    length3 ((clampPosition target live maxTargetLeadM).1 - live.x,
    (clampPosition target live maxTargetLeadM).2.1 - live.y,
      (clampPosition target live maxTargetLeadM).2.2 - live.z) ≤ maxTargetLeadM := by
  unfold clampPosition
  dsimp only
  split_ifs with hzero hfar
  · simp [length3, hzero]
  · -- scaled back onto the sphere
    have hscale : 0 ≤ maxTargetLeadM / distance target live := div_nonneg hmax hfar.2.le
    simp only [add_sub_cancel_left]
    rw [length3_scale hscale (target.x - live.x, target.y - live.y, target.z - live.z)]
    exact le_of_eq (mul_div_cancel₀ _ hfar.2.ne')
  · by_contra hlt
    have hlt : maxTargetLeadM < distance target live := not_le.mp hlt
    exact hfar ⟨hlt, lt_of_le_of_lt hmax hlt⟩

/-- The clamped rotation is one, and within the limit. -/
theorem clampRotation_within {maxTargetLeadRad : ℝ} (hmax : 0 ≤ maxTargetLeadRad) {target live : Pose6}
    (hexact : ClampExact maxTargetLeadRad target live) :
    IsRotation (clampRotation target live maxTargetLeadRad) ∧
      angle (live.rotation.transpose * clampRotation target live maxTargetLeadRad) ≤ maxTargetLeadRad := by
  have hrel := isRotation_relativeRotation target live
  have hlog := length3_so3Log hrel
  have hangle := angle_nonneg (relativeRotation target live)
  have htop := angle_le_pi (relativeRotation target live)
  unfold clampRotation
  dsimp only
  by_cases hzero : maxTargetLeadRad = 0
  · rw [if_pos hzero]
    refine ⟨live.isRotation, ?_⟩
    rw [live.isRotation.mul_self_transpose, angle_one]
    exact hmax
  · rw [if_neg hzero]
    by_cases hwithin : angle (relativeRotation target live) ≤ maxTargetLeadRad
    · -- the logarithm is never longer than the angle
      have hshort : length3 (so3Log (relativeRotation target live)) ≤ angle (relativeRotation target live) := by
        rw [hlog]
        split_ifs
        · exact sin_le hangle
        · exact hangle
        · exact le_refl _
      rw [if_neg fun h => absurd h.1 (not_lt.mpr (hshort.trans hwithin))]
      exact ⟨target.isRotation, hwithin⟩
    · rcases hexact.rotation with h | h | ⟨hbig, hturn⟩
      · exact absurd h hzero
      · exact absurd h hwithin
      · have hlt := not_le.mp hwithin
        have hsin : sin (angle (relativeRotation target live)) ≠ 0 := by
          refine (sin_pos_of_pos_of_lt_pi ?_ (lt_of_le_of_ne htop hturn)).ne'
          exact lt_of_lt_of_le (by norm_num) (hbig.trans hlt.le)
        rw [if_neg (not_lt.mpr (hbig.trans hlt.le)), if_neg hsin] at hlog
        have hpos : 0 < length3 (so3Log (relativeRotation target live)) := by
          rw [hlog]
          exact lt_of_lt_of_le (by norm_num) (hbig.trans hlt.le)
        rw [if_pos ⟨by rw [hlog]; exact hlt, hpos⟩]
        have hlength : length3 ((so3Log (relativeRotation target live)).1 *
              (maxTargetLeadRad / length3 (so3Log (relativeRotation target live))),
            (so3Log (relativeRotation target live)).2.1 *
              (maxTargetLeadRad / length3 (so3Log (relativeRotation target live))),
            (so3Log (relativeRotation target live)).2.2 *
              (maxTargetLeadRad / length3 (so3Log (relativeRotation target live)))) = maxTargetLeadRad := by
          rw [length3_scale (div_nonneg hmax hpos.le)]
          exact mul_div_cancel₀ _ hpos.ne'
        obtain ⟨hexp, htrace⟩ := so3Exp_isRotation (hbig.trans hlength.ge)
        rw [hlength] at htrace
        refine ⟨live.isRotation.mul hexp, ?_⟩
        rw [← Matrix.mul_assoc, live.isRotation.mul_self_transpose, Matrix.one_mul]
        exact le_of_eq (angle_of_trace hmax (hlt.le.trans htop) htrace)

/-- **The clamp.** -/
theorem clampTargetLead_within {maxTargetLeadM maxTargetLeadRad : ℝ} (hm : 0 ≤ maxTargetLeadM)
    (hrad : 0 ≤ maxTargetLeadRad) {target live : Pose6} (hexact : ClampExact maxTargetLeadRad target live) :
    WithinLead maxTargetLeadM maxTargetLeadRad (clampTargetLead target live maxTargetLeadM maxTargetLeadRad) live := by
  obtain ⟨hrotation, hangle⟩ := clampRotation_within hrad hexact
  constructor
  · exact clampPosition_within hm target live
  · have hback : (clampTargetLead target live maxTargetLeadM maxTargetLeadRad).rotation =
        clampRotation target live maxTargetLeadRad := rpyToMatrix_matrixToRpy hrotation hexact.angles
    unfold relativeRotation
    rw [hback]
    exact hangle

end PolicyRunner.PoseTarget
