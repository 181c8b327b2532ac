import Mathlib.Algebra.Group.MinimalAxioms
import Mathlib.Analysis.Quaternion
import Mathlib.Analysis.Normed.Field.UnitBall
import Mathlib.Analysis.SpecialFunctions.Trigonometric.Inverse
import RoboticsLab.Pose.Conditioner

/-!
# Poses with a unit quaternion

`Pose7` is a position and a unit quaternion.  Composition in the local frame makes it a group.  `quatSlerp` is the
quaternion part of `interp_pose`; at its end points `interpPose` gives the two poses back, the second one with either
sign of its quaternion (`interpPose_zero`, `interpPose_one`).
-/

namespace PolicyRunner

open Quaternion

abbrev UnitQuat := Metric.sphere (0 : Quaternion ℝ) 1

abbrev Pose7 := Pose (Fin 3 → ℝ) UnitQuat

/-! ## Rotation -/

/-- The vector as a quaternion without a real part. -/
def pureQuat (v : Fin 3 → ℝ) : Quaternion ℝ := ⟨0, v 0, v 1, v 2⟩

@[simp] theorem re_pureQuat (v : Fin 3 → ℝ) : (pureQuat v).re = 0 := rfl

@[simp] theorem imI_pureQuat (v : Fin 3 → ℝ) : (pureQuat v).imI = v 0 := rfl

@[simp] theorem imJ_pureQuat (v : Fin 3 → ℝ) : (pureQuat v).imJ = v 1 := rfl

@[simp] theorem imK_pureQuat (v : Fin 3 → ℝ) : (pureQuat v).imK = v 2 := rfl

/-- `_quat_rotate_vector`. -/
noncomputable def rotate (q : Quaternion ℝ) (v : Fin 3 → ℝ) : Fin 3 → ℝ :=
  let rotated := q * pureQuat v * star q
  ![rotated.imI, rotated.imJ, rotated.imK]

/-- A rotated vector has no real part. -/
theorem pureQuat_rotate (q : Quaternion ℝ) (v : Fin 3 → ℝ) : pureQuat (rotate q v) = q * pureQuat v * star q := by
  ext
  · simp
    ring
  · rfl
  · rfl
  · rfl

theorem pureQuat_injective {v w : Fin 3 → ℝ} (h : pureQuat v = pureQuat w) : v = w := by
  have h0 := congrArg QuaternionAlgebra.imI h
  have h1 := congrArg QuaternionAlgebra.imJ h
  have h2 := congrArg QuaternionAlgebra.imK h
  ext i
  fin_cases i
  · exact h0
  · exact h1
  · exact h2

theorem pureQuat_add (v w : Fin 3 → ℝ) : pureQuat (v + w) = pureQuat v + pureQuat w := by
  ext <;> simp

theorem rotate_add (q : Quaternion ℝ) (v w : Fin 3 → ℝ) : rotate q (v + w) = rotate q v + rotate q w := by
  apply pureQuat_injective
  rw [pureQuat_rotate, pureQuat_add, pureQuat_add, pureQuat_rotate, pureQuat_rotate, mul_add, add_mul]

theorem rotate_mul (q r : Quaternion ℝ) (v : Fin 3 → ℝ) : rotate (q * r) v = rotate q (rotate r v) := by
  apply pureQuat_injective
  rw [pureQuat_rotate, pureQuat_rotate, pureQuat_rotate, star_mul]
  simp only [mul_assoc]

theorem rotate_one (v : Fin 3 → ℝ) : rotate 1 v = v := by
  apply pureQuat_injective
  rw [pureQuat_rotate, star_one, one_mul, mul_one]

/-! ## The group -/

namespace Pose7

noncomputable instance : Mul Pose7 where
  mul p q := ⟨p.position + rotate p.orientation q.position, p.orientation * q.orientation⟩

noncomputable instance : One Pose7 := ⟨⟨0, 1⟩⟩

noncomputable instance : Inv Pose7 := ⟨fun p => ⟨-rotate (p.orientation⁻¹ : UnitQuat) p.position, p.orientation⁻¹⟩⟩

theorem position_mul (p q : Pose7) : (p * q).position = p.position + rotate p.orientation q.position := rfl

theorem orientation_mul (p q : Pose7) : (p * q).orientation = p.orientation * q.orientation := rfl

theorem ext {p q : Pose7} (h : p.position = q.position) (h' : p.orientation = q.orientation) : p = q := by
  cases p
  cases q
  simp_all

/-- Composition in the local frame: `pose_compose_local` of a delta given as a pose. -/
noncomputable instance : Group Pose7 := Group.ofLeftAxioms
  (by
    intro p q r
    apply ext
    · simp only [position_mul, orientation_mul, Metric.unitSphere.coe_mul, rotate_mul, rotate_add, add_assoc]
    · exact mul_assoc _ _ _)
  (by
    intro p
    apply ext
    · show 0 + rotate 1 p.position = p.position
      rw [rotate_one, zero_add]
    · exact one_mul _)
  (by
    intro p
    apply ext
    · exact neg_add_cancel _
    · exact inv_mul_cancel _)

end Pose7

/-! ## `interp_pose` -/

/-- `_quat_canonical` without a reference. -/
noncomputable def quatCanonical (q : Quaternion ℝ) : UnitQuat :=
  if h : 0 < ‖q‖ then
    ⟨‖q‖⁻¹ • q, by rw [mem_sphere_zero_iff_norm, norm_smul, norm_inv, norm_norm, inv_mul_cancel₀ h.ne']⟩
  else 1

/-- The quaternion of the two signs in the hemisphere of `ref`. -/
noncomputable def quatHemisphere (q ref : UnitQuat) : UnitQuat :=
  if inner ℝ (q : Quaternion ℝ) (ref : Quaternion ℝ) < 0 then -q else q

/-- The quaternion part of `interp_pose`: the normalised mean of nearly parallel quaternions, else `slerp`. -/
noncomputable def quatSlerp (q0 q1 : UnitQuat) (u : ℝ) : UnitQuat :=
  let q0 := quatCanonical q0
  let q1 := quatHemisphere (quatCanonical q1) q0
  let dot := inner ℝ (q0 : Quaternion ℝ) (q1 : Quaternion ℝ)
  if 9995 / 10000 < dot then quatCanonical ((1 - u) • (q0 : Quaternion ℝ) + u • (q1 : Quaternion ℝ))
  else
    let theta := Real.arccos (max (-1) (min 1 dot))
    let s := Real.sin theta
    quatCanonical ((Real.sin ((1 - u) * theta) / s) • (q0 : Quaternion ℝ) +
      (Real.sin (u * theta) / s) • (q1 : Quaternion ℝ))

theorem quatCanonical_coe (q : UnitQuat) : quatCanonical q = q := by
  have hn : ‖(q : Quaternion ℝ)‖ = 1 := norm_eq_of_mem_sphere q
  rw [quatCanonical, dif_pos (by rw [hn]; exact one_pos)]
  apply Subtype.ext
  simp [hn]

theorem quatHemisphere_eq (q ref : UnitQuat) : quatHemisphere q ref = q ∨ quatHemisphere q ref = -q := by
  unfold quatHemisphere
  split_ifs
  · exact .inr rfl
  · exact .inl rfl

theorem inner_quatHemisphere_nonneg (q ref : UnitQuat) :
    0 ≤ inner ℝ (ref : Quaternion ℝ) (quatHemisphere q ref : Quaternion ℝ) := by
  unfold quatHemisphere
  split_ifs with h
  · rw [real_inner_comm] at h
    rw [show ((-q : UnitQuat) : Quaternion ℝ) = -(q : Quaternion ℝ) from rfl, inner_neg_right]
    linarith
  · rw [real_inner_comm] at h
    linarith

/-- Off the nearly parallel branch the quaternions enclose a proper angle. -/
theorem sin_theta_ne_zero {d : ℝ} (h0 : 0 ≤ d) (h1 : ¬ 9995 / 10000 < d) :
    Real.sin (Real.arccos (max (-1) (min 1 d))) ≠ 0 := by
  have hd : d ≤ 9995 / 10000 := not_lt.mp h1
  rw [min_eq_right (by linarith), max_eq_right (by linarith), Real.sin_arccos]
  refine (Real.sqrt_pos.mpr ?_).ne'
  nlinarith

theorem quatSlerp_zero (q0 q1 : UnitQuat) : quatSlerp q0 q1 0 = q0 := by
  unfold quatSlerp
  simp only [quatCanonical_coe]
  split_ifs with h
  · simp [quatCanonical_coe]
  · have hs := sin_theta_ne_zero (inner_quatHemisphere_nonneg q1 q0) h
    simp [div_self hs, quatCanonical_coe]

theorem quatSlerp_one (q0 q1 : UnitQuat) : quatSlerp q0 q1 1 = q1 ∨ quatSlerp q0 q1 1 = -q1 := by
  have hslerp : quatSlerp q0 q1 1 = quatHemisphere q1 q0 := by
    unfold quatSlerp
    simp only [quatCanonical_coe]
    split_ifs with h
    · simp [quatCanonical_coe]
    · have hs := sin_theta_ne_zero (inner_quatHemisphere_nonneg q1 q0) h
      simp [div_self hs, quatCanonical_coe]
  rw [hslerp]
  exact quatHemisphere_eq q1 q0

/-- The same position and the same rotation: `q` and `-q` are one rotation. -/
def SamePose (p q : Pose7) : Prop :=
  p.position = q.position ∧ (p.orientation = q.orientation ∨ p.orientation = -q.orientation)

theorem SamePose.refl (p : Pose7) : SamePose p p := ⟨rfl, .inl rfl⟩

theorem interpPose_zero (p q : Pose7) : interpPose quatSlerp p q 0 = p := by
  apply Pose7.ext
  · simp [interpPose]
  · simp [interpPose, quatSlerp_zero]

theorem interpPose_one (p q : Pose7) : SamePose (interpPose quatSlerp p q 1) q := by
  constructor
  · simp [interpPose]
  · simpa [interpPose] using quatSlerp_one p.orientation q.orientation

end PolicyRunner
