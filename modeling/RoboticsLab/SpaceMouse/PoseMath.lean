import RoboticsLab.Lib.Rotation3
import Mathlib.Algebra.Order.Floor.Ring
import Mathlib.Analysis.SpecialFunctions.Complex.Arg
import Mathlib.Analysis.SpecialFunctions.Pow.Real

/-!
# The pose arithmetic of the SpaceMouse pose target

Poses are a position and roll, pitch and yaw; rotations go through 3×3 matrices.  `_compose_local_delta` moves a target
in its own frame, `_clamp_target_lead` keeps it near the live pose, and `_pose_delta_from_sample` makes the step of a
cap deflection.

Real numbers, with `math.atan2` as the argument of a complex number.
-/

namespace PolicyRunner.PoseTarget

open Rotation3 Real

/-- A stand pose: `(x, y, z, rx, ry, rz)`. -/
structure Pose6 where
  x : ℝ
  y : ℝ
  z : ℝ
  rx : ℝ
  ry : ℝ
  rz : ℝ

/-- A step in the local frame. -/
structure Delta6 where
  x : ℝ
  y : ℝ
  z : ℝ
  rx : ℝ
  ry : ℝ
  rz : ℝ

/-- `has_delta`. -/
def Delta6.Moves (d : Delta6) : Prop := d.x ≠ 0 ∨ d.y ≠ 0 ∨ d.z ≠ 0 ∨ d.rx ≠ 0 ∨ d.ry ≠ 0 ∨ d.rz ≠ 0

/-! ## Rotations -/

/-- `_rpy_to_matrix`. -/
noncomputable def rpyToMatrix (roll pitch yaw : ℝ) : Mat3 :=
  let cr := cos roll
  let sr := sin roll
  let cp := cos pitch
  let sp := sin pitch
  let cy := cos yaw
  let sy := sin yaw
  !![cy * cp, cy * sp * sr - sy * cr, cy * sp * cr + sy * sr;
     sy * cp, sy * sp * sr + cy * cr, sy * sp * cr - cy * sr;
     -sp, cp * sr, cp * cr]

/-- `math.atan2`. -/
noncomputable def atan2 (y x : ℝ) : ℝ := Complex.arg ⟨x, y⟩

/-- `_wrap_pi`; `%` takes the sign of the divisor. -/
noncomputable def wrapPi (value : ℝ) : ℝ := value + π - 2 * π * ⌊(value + π) / (2 * π)⌋ - π

/-- The pitch of `_matrix_to_rpy`. -/
noncomputable def pitchOf (m : Mat3) : ℝ := arcsin (max (-1) (min 1 (-m 2 0)))

/-- `_matrix_to_rpy`. -/
noncomputable def matrixToRpy (m : Mat3) : ℝ × ℝ × ℝ :=
  if 1e-9 < |cos (pitchOf m)| then
    (wrapPi (atan2 (m 2 1) (m 2 2)), wrapPi (pitchOf m), wrapPi (atan2 (m 1 0) (m 0 0)))
  else (wrapPi 0, wrapPi (pitchOf m), wrapPi (atan2 (-m 0 1) (m 1 1)))

/-- `_so3_log`.  With `sin theta` zero the scale is too: Python's is then large, and finite. -/
noncomputable def so3Log (m : Mat3) : ℝ × ℝ × ℝ :=
  let cosTheta := max (-1) (min 1 ((m.trace - 1) * 2⁻¹))
  let theta := arccos cosTheta
  if theta < 1e-9 then (2⁻¹ * (m 2 1 - m 1 2), 2⁻¹ * (m 0 2 - m 2 0), 2⁻¹ * (m 1 0 - m 0 1))
  else
    let scale := theta / (2 * sin theta)
    (scale * (m 2 1 - m 1 2), scale * (m 0 2 - m 2 0), scale * (m 1 0 - m 0 1))

/-- The length of a vector. -/
noncomputable def length3 (v : ℝ × ℝ × ℝ) : ℝ := √(v.1 * v.1 + v.2.1 * v.2.1 + v.2.2 * v.2.2)

/-- `_so3_exp`. -/
noncomputable def so3Exp (v : ℝ × ℝ × ℝ) : Mat3 :=
  let x := v.1
  let y := v.2.1
  let z := v.2.2
  let theta := length3 v
  if theta < 1e-9 then !![1, -z, y; z, 1, -x; -y, x, 1]
  else
    let kx := x / theta
    let ky := y / theta
    let kz := z / theta
    let c := cos theta
    let s := sin theta
    let v1 := 1 - c
    !![c + kx * kx * v1, kx * ky * v1 - kz * s, kx * kz * v1 + ky * s;
       ky * kx * v1 + kz * s, c + ky * ky * v1, ky * kz * v1 - kx * s;
       kz * kx * v1 - ky * s, kz * ky * v1 + kx * s, c + kz * kz * v1]

/-- The rotation of a pose. -/
noncomputable def Pose6.rotation (p : Pose6) : Mat3 := rpyToMatrix p.rx p.ry p.rz

/-! ## Targets -/

/-- `_compose_local_delta`. -/
noncomputable def composeLocalDelta (pose : Pose6) (delta : Delta6) : Pose6 :=
  let rotation := pose.rotation
  let d := rotation.mulVec ![delta.x, delta.y, delta.z]
  let rpy := matrixToRpy (rotation * rpyToMatrix delta.rx delta.ry delta.rz)
  ⟨pose.x + d 0, pose.y + d 1, pose.z + d 2, rpy.1, rpy.2.1, rpy.2.2⟩

/-- The distance between two positions. -/
noncomputable def distance (target live : Pose6) : ℝ :=
  length3 (target.x - live.x, target.y - live.y, target.z - live.z)

/-- The rotation from the live pose to the target. -/
noncomputable def relativeRotation (target live : Pose6) : Mat3 := live.rotation.transpose * target.rotation

/-- The position of `_clamp_target_lead`. -/
noncomputable def clampPosition (target live : Pose6) (maxTargetLeadM : ℝ) : ℝ × ℝ × ℝ :=
  let dist := distance target live
  if maxTargetLeadM = 0 then (live.x, live.y, live.z)
  else if maxTargetLeadM < dist ∧ 0 < dist then
    let scale := maxTargetLeadM / dist
    (live.x + (target.x - live.x) * scale, live.y + (target.y - live.y) * scale, live.z + (target.z - live.z) * scale)
  else (target.x, target.y, target.z)

/-- The rotation of `_clamp_target_lead`. -/
noncomputable def clampRotation (target live : Pose6) (maxTargetLeadRad : ℝ) : Mat3 :=
  let relVec := so3Log (relativeRotation target live)
  let angle := length3 relVec
  if maxTargetLeadRad = 0 then live.rotation
  else if maxTargetLeadRad < angle ∧ 0 < angle then
    let scale := maxTargetLeadRad / angle
    live.rotation * so3Exp (relVec.1 * scale, relVec.2.1 * scale, relVec.2.2 * scale)
  else target.rotation

/-- `_clamp_target_lead`. -/
noncomputable def clampTargetLead (target live : Pose6) (maxTargetLeadM maxTargetLeadRad : ℝ) : Pose6 :=
  let pos := clampPosition target live maxTargetLeadM
  let rpy := matrixToRpy (clampRotation target live maxTargetLeadRad)
  ⟨pos.1, pos.2.1, pos.2.2, rpy.1, rpy.2.1, rpy.2.2⟩

/-! ## Steps -/

/-- `SpaceMouseSample`. -/
structure SpaceMouseSample where
  tx : ℝ
  ty : ℝ
  tz : ℝ
  rx : ℝ
  ry : ℝ
  rz : ℝ
  buttons : List Bool
  timestampMonotonic : ℝ

/-- `_raw_magnitude`. -/
noncomputable def rawMagnitude (s : SpaceMouseSample) : ℝ :=
  max (max (max (max (max |s.tx| |s.ty|) |s.tz|) |s.rx|) |s.ry|) |s.rz|

/-- `_apply_soft_deadband`. -/
noncomputable def applySoftDeadband (value deadband gamma : ℝ) : ℝ :=
  if |value| ≤ deadband then 0
  else
    let sign : ℝ := if value < 0 then -1 else 1
    let magnitude := max 0 (min 1 ((|value| - deadband) / max 1e-12 (1 - deadband)))
    sign * magnitude ^ gamma * (1 - deadband)

/-- `_clamp`. -/
noncomputable def clampStep (value limit : ℝ) : ℝ := max (-limit) (min limit value)

/-- The settings of `_pose_delta_from_sample`; the axis order is a permutation of `rx, ry, rz`. -/
structure StepConfig where
  maxLinearStepM : ℝ
  maxAngularStepRad : ℝ
  deadband : ℝ
  responseCurveGamma : ℝ
  linearAxisSigns : Fin 3 → ℝ
  angularAxisSigns : Fin 3 → ℝ
  angularAxisOrder : Fin 3 → Fin 3

/-- `_pose_delta_from_sample`, clamped by `clamp_pose_delta`. -/
noncomputable def poseDeltaFromSample (cfg : StepConfig) (s : SpaceMouseSample) : Delta6 :=
  let angularSources : Fin 3 → ℝ := ![s.rx, s.ry, s.rz]
  let linear (axis : Fin 3) (value : ℝ) : ℝ :=
    clampStep (applySoftDeadband (cfg.linearAxisSigns axis * value) cfg.deadband cfg.responseCurveGamma *
      cfg.maxLinearStepM) |cfg.maxLinearStepM|
  let angular (axis : Fin 3) : ℝ :=
    clampStep (applySoftDeadband (cfg.angularAxisSigns axis * angularSources (cfg.angularAxisOrder axis)) cfg.deadband
      cfg.responseCurveGamma * cfg.maxAngularStepRad) |cfg.maxAngularStepRad|
  ⟨linear 0 s.tx, linear 1 s.ty, linear 2 s.tz, angular 0, angular 1, angular 2⟩

end PolicyRunner.PoseTarget
