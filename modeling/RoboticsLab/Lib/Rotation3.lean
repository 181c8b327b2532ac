import RoboticsLab.Lib.Numerals
import Mathlib.Analysis.SpecialFunctions.Trigonometric.Inverse
import Mathlib.LinearAlgebra.Matrix.Adjugate
import Mathlib.LinearAlgebra.Matrix.Trace
import Mathlib.Tactic.LinearCombination

/-!
# Rotations of space as matrices

A rotation is a 3×3 matrix with `M * Mᵀ = 1` and determinant one, so each entry is its own cofactor
(`IsRotation.cofactor`).  The angle of a rotation is read off its trace, its axis off the antisymmetric part `vee`,
whose length is `2 sin angle`.

    axisAngle : the rotation about a unit vector, with the cosine and sine of its angle
    eulerZYX  : yaw after pitch after roll, each with its cosine and sine

A rotation whose last row and first column are those of an `eulerZYX` is that one, if the cosine of the pitch is not
zero (`eq_eulerZYX`); with the pitch at a right angle the roll may be taken to be zero (`eq_eulerZYX_of_gimbal`).
-/

namespace Rotation3

open Matrix Real

abbrev Mat3 := Matrix (Fin 3) (Fin 3) ℝ

structure IsRotation (M : Mat3) : Prop where
  mul_transpose : M * Mᵀ = 1
  det : M.det = 1

namespace IsRotation

variable {M N : Mat3}

theorem mul_self_transpose (h : IsRotation M) : Mᵀ * M = 1 := mul_eq_one_comm.mp h.mul_transpose

theorem mul (h : IsRotation M) (h' : IsRotation N) : IsRotation (M * N) := by
  constructor
  · rw [Matrix.transpose_mul, Matrix.mul_assoc, ← Matrix.mul_assoc N, h'.mul_transpose, Matrix.one_mul, h.mul_transpose]
  · rw [det_mul, h.det, h'.det, mul_one]

theorem transpose (h : IsRotation M) : IsRotation Mᵀ := by
  constructor
  · rw [transpose_transpose]
    exact h.mul_self_transpose
  · rw [det_transpose, h.det]

theorem adjugate_eq (h : IsRotation M) : M.adjugate = Mᵀ := by
  have hadj : M * M.adjugate = 1 := by rw [mul_adjugate, h.det, one_smul]
  calc M.adjugate = (Mᵀ * M) * M.adjugate := by rw [h.mul_self_transpose, Matrix.one_mul]
    _ = Mᵀ := by rw [Matrix.mul_assoc, hadj, Matrix.mul_one]

/-- Each entry is its own cofactor. -/
theorem cofactor (h : IsRotation M) (i j : Fin 3) :
    M i j = M (i + 1) (j + 1) * M (i + 2) (j + 2) - M (i + 1) (j + 2) * M (i + 2) (j + 1) := by
  have hadj := congrFun (congrFun h.adjugate_eq j) i
  rw [adjugate_fin_three, transpose_apply] at hadj
  fin_cases i <;> fin_cases j <;> simp at hadj ⊢ <;> linarith

theorem row_sq (h : IsRotation M) (i : Fin 3) : M i 0 ^ 2 + M i 1 ^ 2 + M i 2 ^ 2 = 1 := by
  have hrow := congrFun (congrFun h.mul_transpose i) i
  simp only [mul_apply, Fin.sum_univ_three, transpose_apply, one_apply_eq] at hrow
  linarith

theorem column_sq (h : IsRotation M) (j : Fin 3) : M 0 j ^ 2 + M 1 j ^ 2 + M 2 j ^ 2 = 1 := h.transpose.row_sq j

end IsRotation

/-! ## The angle -/

theorem trace_eq (M : Mat3) : M.trace = M 0 0 + M 1 1 + M 2 2 := by
  rw [Matrix.trace, Fin.sum_univ_three]
  rfl

/-- The squared length of the antisymmetric part. -/
def veeSq (M : Mat3) : ℝ := (M 2 1 - M 1 2) ^ 2 + (M 0 2 - M 2 0) ^ 2 + (M 1 0 - M 0 1) ^ 2

theorem IsRotation.veeSq_eq {M : Mat3} (h : IsRotation M) : veeSq M = (3 - M.trace) * (1 + M.trace) := by
  have h0 := h.cofactor 0 0
  have h1 := h.cofactor 1 1
  have h2 := h.cofactor 2 2
  have r0 := h.row_sq 0
  have r1 := h.row_sq 1
  have r2 := h.row_sq 2
  simp only [Fin.isValue, Fin.reduceAdd] at h0 h1 h2
  rw [trace_eq]
  unfold veeSq
  linear_combination r0 + r1 + r2 - 2 * h0 - 2 * h1 - 2 * h2

theorem IsRotation.trace_mem {M : Mat3} (h : IsRotation M) : -1 ≤ M.trace ∧ M.trace ≤ 3 := by
  have hle : ∀ i : Fin 3, M i i ≤ 1 := by
    intro i
    have hsq : M i i ^ 2 ≤ 1 :=
      match i with
      | 0 => by nlinarith [h.row_sq 0, sq_nonneg (M 0 1), sq_nonneg (M 0 2)]
      | 1 => by nlinarith [h.row_sq 1, sq_nonneg (M 1 0), sq_nonneg (M 1 2)]
      | 2 => by nlinarith [h.row_sq 2, sq_nonneg (M 2 0), sq_nonneg (M 2 1)]
    nlinarith
  have htop : M.trace ≤ 3 := by
    rw [trace_eq]
    linarith [hle 0, hle 1, hle 2]
  have hvee : 0 ≤ veeSq M := by
    unfold veeSq
    positivity
  rw [h.veeSq_eq] at hvee
  refine ⟨?_, htop⟩
  by_contra hlt
  nlinarith [not_le.mp hlt]

/-- The angle of a rotation. -/
noncomputable def angle (M : Mat3) : ℝ := arccos ((M.trace - 1) * 2⁻¹)

theorem IsRotation.cos_angle {M : Mat3} (h : IsRotation M) : cos (angle M) = (M.trace - 1) * 2⁻¹ := by
  obtain ⟨hlow, hhigh⟩ := h.trace_mem
  exact cos_arccos (by linarith) (by linarith)

theorem angle_nonneg (M : Mat3) : 0 ≤ angle M := arccos_nonneg _

theorem angle_le_pi (M : Mat3) : angle M ≤ π := arccos_le_pi _

theorem sin_angle_nonneg (M : Mat3) : 0 ≤ sin (angle M) :=
  sin_nonneg_of_nonneg_of_le_pi (angle_nonneg M) (angle_le_pi M)

/-- The antisymmetric part is `2 sin angle` long. -/
theorem IsRotation.veeSq_eq_sin {M : Mat3} (h : IsRotation M) : veeSq M = (2 * sin (angle M)) ^ 2 := by
  have hsq := sin_sq_add_cos_sq (angle M)
  have hcos := h.cos_angle
  rw [h.veeSq_eq]
  have htrace : M.trace = 1 + 2 * cos (angle M) := by
    rw [hcos]
    ring
  rw [htrace]
  linear_combination -4 * hsq

theorem angle_one : angle 1 = 0 := by
  unfold angle
  rw [trace_eq]
  norm_num

/-- A rotation by `t` has that angle. -/
theorem angle_of_trace {M : Mat3} {t : ℝ} (ht : 0 ≤ t) (htop : t ≤ π) (h : M.trace = 1 + 2 * cos t) : angle M = t := by
  unfold angle
  rw [h, show (1 + 2 * cos t - 1) * 2⁻¹ = cos t by ring, arccos_cos ht htop]

/-! ## Rotation about an axis -/

/-- The rotation about the unit vector `(x, y, z)`, with the cosine and sine of its angle. -/
def axisAngle (x y z c s : ℝ) : Mat3 :=
  !![c + x * x * (1 - c), x * y * (1 - c) - z * s, x * z * (1 - c) + y * s;
     y * x * (1 - c) + z * s, c + y * y * (1 - c), y * z * (1 - c) - x * s;
     z * x * (1 - c) - y * s, z * y * (1 - c) + x * s, c + z * z * (1 - c)]

variable {x y z c s : ℝ}

theorem isRotation_axisAngle (hk : x ^ 2 + y ^ 2 + z ^ 2 = 1) (hcs : c ^ 2 + s ^ 2 = 1) :
    IsRotation (axisAngle x y z c s) := by
  constructor
  · ext i j
    fin_cases i <;> fin_cases j <;> simp [axisAngle, mul_apply, Fin.sum_univ_three] <;> grind
  · simp only [axisAngle, det_fin_three, of_apply, cons_val', cons_val_zero, cons_val_one, cons_val]
    grind

theorem trace_axisAngle (hk : x ^ 2 + y ^ 2 + z ^ 2 = 1) : (axisAngle x y z c s).trace = 1 + 2 * c := by
  rw [trace_eq]
  simp only [axisAngle, of_apply, cons_val', cons_val_zero, cons_val_one, cons_val]
  linear_combination (1 - c) * hk

/-! ## Yaw, pitch and roll -/

/-- Yaw after pitch after roll. -/
def eulerZYX (cr sr cp sp cy sy : ℝ) : Mat3 :=
  !![cy * cp, cy * sp * sr - sy * cr, cy * sp * cr + sy * sr;
     sy * cp, sy * sp * sr + cy * cr, sy * sp * cr - cy * sr;
     -sp, cp * sr, cp * cr]

variable {cr sr cp sp cy sy : ℝ}

theorem isRotation_eulerZYX (hr : cr ^ 2 + sr ^ 2 = 1) (hp : cp ^ 2 + sp ^ 2 = 1) (hy : cy ^ 2 + sy ^ 2 = 1) :
    IsRotation (eulerZYX cr sr cp sp cy sy) := by
  constructor
  · ext i j
    fin_cases i <;> fin_cases j <;> simp [eulerZYX, mul_apply, Fin.sum_univ_three] <;> grind
  · simp only [eulerZYX, det_fin_three, of_apply, cons_val', cons_val_zero, cons_val_one, cons_val]
    grind

/-- The last row and the first column determine a rotation, unless the pitch is at a right angle. -/
theorem eq_eulerZYX {M : Mat3} (h : IsRotation M) (hp : cp ^ 2 + sp ^ 2 = 1) (hcp : cp ≠ 0) (h00 : M 0 0 = cy * cp)
    (h10 : M 1 0 = sy * cp) (h20 : M 2 0 = -sp) (h21 : M 2 1 = cp * sr) (h22 : M 2 2 = cp * cr) :
    M = eulerZYX cr sr cp sp cy sy := by
  have c01 := h.cofactor 0 1
  have c12 := h.cofactor 1 2
  have c02 := h.cofactor 0 2
  have c11 := h.cofactor 1 1
  simp only [Fin.isValue, Fin.reduceAdd] at c01 c12 c02 c11
  rw [h20, h10, h22] at c01
  rw [h20, h00, h21] at c12
  rw [h20, h10, h21] at c02
  rw [h20, h00, h22] at c11
  have hcp2 : cp ^ 2 ≠ 0 := pow_ne_zero 2 hcp
  have e01 : M 0 1 = cy * sp * sr - sy * cr := by
    apply mul_left_cancel₀ hcp2
    linear_combination c01 - sp * c12 + M 0 1 * hp
  have e12 : M 1 2 = sy * sp * cr - cy * sr := by
    apply mul_left_cancel₀ hcp2
    linear_combination c12 - sp * c01 + M 1 2 * hp
  have e02 : M 0 2 = cy * sp * cr + sy * sr := by
    apply mul_left_cancel₀ hcp2
    linear_combination c02 + sp * c11 + M 0 2 * hp
  have e11 : M 1 1 = sy * sp * sr + cy * cr := by
    apply mul_left_cancel₀ hcp2
    linear_combination c11 + sp * c02 + M 1 1 * hp
  ext i j
  fin_cases i <;> fin_cases j <;> simp [eulerZYX, h00, h10, h20, h21, h22, e01, e12, e02, e11]

/-- With the pitch at a right angle the roll may be taken to be zero. -/
theorem eq_eulerZYX_of_gimbal {M : Mat3} (h : IsRotation M) (hsp : sp ^ 2 = 1) (h20 : M 2 0 = -sp) (h01 : M 0 1 = -sy)
    (h11 : M 1 1 = cy) : M = eulerZYX 1 0 0 sp cy sy := by
  have hrow := h.row_sq 2
  have hcol := h.column_sq 0
  rw [h20] at hrow hcol
  have h21 : M 2 1 = 0 := by nlinarith [sq_nonneg (M 2 1), sq_nonneg (M 2 2)]
  have h22 : M 2 2 = 0 := by nlinarith [sq_nonneg (M 2 1), sq_nonneg (M 2 2)]
  have h00 : M 0 0 = 0 := by nlinarith [sq_nonneg (M 0 0), sq_nonneg (M 1 0)]
  have h10 : M 1 0 = 0 := by nlinarith [sq_nonneg (M 0 0), sq_nonneg (M 1 0)]
  have c02 := h.cofactor 0 2
  have c12 := h.cofactor 1 2
  simp only [Fin.isValue, Fin.reduceAdd] at c02 c12
  rw [h10, h11, h20, h21] at c02
  rw [h00, h01, h20, h21] at c12
  have e02 : M 0 2 = cy * sp := by linarith
  have e12 : M 1 2 = sy * sp := by linarith
  ext i j
  fin_cases i <;> fin_cases j <;> simp [eulerZYX, h00, h10, h20, h21, h22, h01, h11, e02, e12]

end Rotation3
