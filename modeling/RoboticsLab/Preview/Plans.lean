import RoboticsLab.Chunk.Window
import Mathlib.Algebra.Module.LinearMap.End
import Mathlib.Algebra.Order.Floor.Defs
import Mathlib.Data.Matrix.Mul

/-!
# Plans, brakes and results of the preview executor

`PreviewPolynomialTrajectory` (`control/preview_trajectory_tracker.cpp`), `PreviewBrakeTrajectory` and
`PreviewAngularContinuation` (`control/preview_brake.cpp`), and the results a planning thread returns,
with their admission test and their transport between gauges (`control/preview_execution_worker.cpp`).
A gauge is the common-frame shift applied since the last reset: positions are moved by a translation,
rotations by a left factor.  Arithmetic is exact; the jerk of a sample, which nothing reads, is left
out.
-/

namespace RbServo

open Gauge

/-! ## Geometry -/

/-- What the executor uses of `math/se3.cpp`, Eigen and Pinocchio.  `slerp` interpolates from its
first argument, so a common left factor passes through. -/
structure MotionSpace (K G : Type*) [Field K] [Group G] where
  sqrt : K → K
  exp3 : Vec3 K → G
  log3 : G → Vec3 K
  /-- `R * v`. -/
  rotate : G →* Module.End K (Vec3 K)
  slerp : G → G → K → G
  slerp_mul : ∀ g a b u, slerp (g * a) (g * b) u = g * slerp a b u
  /-- `previewAngularKinematics`: the body velocity and acceleration of a rotation vector. -/
  angularKinematics : Vec3 K → Vec3 K → Vec3 K → Vec3 K × Vec3 K

section Geometry

variable {K G : Type*} [Field K] [LinearOrder K] [Group G] (sp : MotionSpace K G)

def MotionSpace.norm (v : Vec3 K) : K := sp.sqrt (dot v v)

/-- `angle` of two poses. -/
def MotionSpace.angle (a b : StandPose K G) : K := sp.norm (sp.log3 (a.rotation⁻¹ * b.rotation))

/-- What the cursor reads of a pose. -/
def MotionSpace.poseSpace : PoseSpace (StandPose K G) K where
  sqrt := sp.sqrt
  position x := x.position
  rotationLag ref out := -sp.log3 (ref.rotation⁻¹ * out.rotation)

/-- `math::interpolateLinear` with `slerp_orientation`. -/
def MotionSpace.interpolateLinear (a b : StandPose K G) (s : K) : StandPose K G :=
  let u := Clamp.clamp s 0 1
  ⟨a.position + u • (b.position - a.position), sp.slerp a.rotation b.rotation u⟩

/-- The kinematics of the reference: a pose with its stand linear and body angular derivatives. -/
abbrev Kinematics (K G : Type*) := FollowerOutputKinematics (StandPose K G) K

/-- The lambda `blend`: linear parts as they are, angular parts through the stand frame. -/
def MotionSpace.blend (r ra rb : G) (alpha : K) (a b : Vec6 K) : Vec6 K :=
  ⟨(1 - alpha) • a.linear + alpha • b.linear,
    sp.rotate r⁻¹ ((1 - alpha) • sp.rotate ra a.angular + alpha • sp.rotate rb b.angular)⟩

def MotionSpace.interpolatePreviewKinematics (a b : Kinematics K G) (alpha : K) : Kinematics K G :=
  let pose := sp.interpolateLinear a.pose b.pose alpha
  let blend := sp.blend pose.rotation a.pose.rotation b.pose.rotation alpha
  ⟨pose, blend a.velocity b.velocity, blend a.acceleration b.acceleration⟩

/-- The first stamped state at or after `time`, interpolated with the one before it. -/
def MotionSpace.sampleStamped : Option (K × Kinematics K G) → List (K × Kinematics K G) → K →
    Option (Kinematics K G)
  | _, [], _ => none
  | prev, hi :: rest, time =>
    if hi.1 < time then MotionSpace.sampleStamped (some hi) rest time
    else
      match prev with
      | none => some hi.2
      | some lo =>
        if time = hi.1 then some hi.2
        else some (sp.interpolatePreviewKinematics lo.2 hi.2 ((time - lo.1) / (hi.1 - lo.1)))

end Geometry

/-! ## Samples and plans -/

structure PreviewMotionState (K G : Type*) where
  pose : StandPose K G
  linearVelocity : Vec3 K
  linearAcceleration : Vec3 K
  angularVelocityBody : Vec3 K
  angularAccelerationBody : Vec3 K

section Plans

variable {K G B : Type*} [Field K] [LinearOrder K] [FloorSemiring K] [Group G] (sp : MotionSpace K G)

/-- At rest in a pose. -/
def PreviewMotionState.atRest (pose : StandPose K G) : PreviewMotionState K G := ⟨pose, 0, 0, 0, 0⟩

/-- `shiftSample`: the derivatives of a sample do not see the frame. -/
def PreviewMotionState.shift (f : Fold (Vec3 K) G) (x : PreviewMotionState K G) :
    PreviewMotionState K G := { x with pose := f.move x.pose }

def kMaxHorizonSteps : ℕ := 30

/-- Rows of the six axes at the knots, each with a constant jerk to the next. -/
structure PreviewPolynomialTrajectory (K G : Type*) where
  p : ℕ → Vec6 K
  v : ℕ → Vec6 K
  a : ℕ → Vec6 K
  jerk : ℕ → Vec6 K
  rotation0 : G
  stepSec : K
  count : ℕ
  valid : Bool

/-- A cubic from its value and derivatives at zero. -/
def cubicAt (p v a j : Vec3 K) (s : K) : Vec3 K :=
  p + s • v + (1 / 2 * s * s) • a + (s * s * s / 6) • j

def quadraticAt (v a j : Vec3 K) (s : K) : Vec3 K := v + s • a + (1 / 2 * s * s) • j

namespace PreviewPolynomialTrajectory

def durationSec (t : PreviewPolynomialTrajectory K G) : K := t.count * t.stepSec

def sample (t : PreviewPolynomialTrajectory K G) (time : K) : Option (PreviewMotionState K G) :=
  if t.valid ∧ 1 ≤ t.count ∧ t.count ≤ kMaxHorizonSteps ∧ 0 < t.stepSec ∧ 0 ≤ time ∧
      time ≤ t.count * t.stepSec then
    let k := min ⌊time / t.stepSec⌋₊ (t.count - 1)
    let s := time - k * t.stepSec
    let p := t.p k
    let v := t.v k
    let a := t.a k
    let j := t.jerk k
    let theta := cubicAt p.angular v.angular a.angular j.angular s
    let w := sp.angularKinematics theta (quadraticAt v.angular a.angular j.angular s)
      (a.angular + s • j.angular)
    some {
      pose := ⟨cubicAt p.linear v.linear a.linear j.linear s, t.rotation0 * sp.exp3 theta⟩
      linearVelocity := quadraticAt v.linear a.linear j.linear s
      linearAcceleration := a.linear + s • j.linear
      angularVelocityBody := w.1
      angularAccelerationBody := w.2 }
  else none

/-- The plan in a moved frame. -/
def shift (f : Fold (Vec3 K) G) (t : PreviewPolynomialTrajectory K G) : PreviewPolynomialTrajectory K G :=
  { t with p := fun i => ⟨(t.p i).linear + f.dp, (t.p i).angular⟩, rotation0 := f.dR * t.rotation0 }

end PreviewPolynomialTrajectory

/-! ## Brakes -/

inductive PreviewBrakeStatus
  | inactive
  | invalidInitialState
  | initialOutsideLimits
  | infeasible
  | limitViolation
  | numericalFailure
deriving DecidableEq

/-- A finite stop; `trajectory` is what the third-party generator returned. -/
structure PreviewBrakeTrajectory (K G B : Type*) where
  trajectory : B
  rotation0 : G
  angularBasis : Matrix (Fin 3) (Fin 3) K
  translationOffset : Vec3 K

/-- The brake calculator, and how its trajectories are read: a duration, and the six axes at a time
with their first two derivatives. -/
structure PreviewBrake (K G B : Type*) where
  start : PreviewMotionState K G → Except PreviewBrakeStatus (PreviewBrakeTrajectory K G B)
  getDuration : B → K
  atTime : B → K → Vec6 K × Vec6 K × Vec6 K

variable (bk : PreviewBrake K G B)

namespace PreviewBrakeTrajectory

def durationSec (b : PreviewBrakeTrajectory K G B) : K := bk.getDuration b.trajectory

/-- A finished brake is sampled as an exact hold. -/
def sample (b : PreviewBrakeTrajectory K G B) (time : K) : Option (PreviewMotionState K G) :=
  let duration := b.durationSec bk
  if 0 ≤ time ∧ 0 ≤ duration then
    let x := bk.atTime b.trajectory (min time duration)
    let held := decide (duration ≤ time)
    let v := if held then ⟨0, 0⟩ else x.2.1
    let a := if held then ⟨0, 0⟩ else x.2.2
    let theta := b.angularBasis.mulVec x.1.angular
    let w := sp.angularKinematics theta (b.angularBasis.mulVec v.angular) (b.angularBasis.mulVec a.angular)
    some {
      pose := ⟨x.1.linear + b.translationOffset, b.rotation0 * sp.exp3 theta⟩
      linearVelocity := v.linear
      linearAcceleration := a.linear
      angularVelocityBody := w.1
      angularAccelerationBody := w.2 }
  else none

def shiftCommonFrame (f : Fold (Vec3 K) G) (b : PreviewBrakeTrajectory K G B) :
    PreviewBrakeTrajectory K G B :=
  { b with translationOffset := b.translationOffset + f.dp, rotation0 := f.dR * b.rotation0 }

end PreviewBrakeTrajectory

/-- The angular part of a translation-only stop. -/
inductive PreviewAngularContinuation (K G B : Type*)
  | none
  | polynomial (polynomial : PreviewPolynomialTrajectory K G) (originSec originalValidUntilSec : K)
  | brake (brake : PreviewBrakeTrajectory K G B) (originSec : K)

namespace PreviewAngularContinuation

/-- `none` when the polynomial cannot serve until `expiry`. -/
def retainPolynomial (t : PreviewPolynomialTrajectory K G) (origin expiry : K) :
    Option (PreviewAngularContinuation K G B) :=
  if t.valid ∧ 1 ≤ t.count ∧ t.count ≤ kMaxHorizonSteps ∧ 0 < t.stepSec ∧ 0 ≤ origin ∧ origin < expiry ∧
      expiry ≤ origin + t.durationSec ∧ (t.sample sp 0).isSome ∧
      (t.sample sp (Clamp.clamp (expiry - origin) 0 t.durationSec)).isSome then
    some (.polynomial t origin expiry)
  else Option.none

def startBrake (b : PreviewBrakeTrajectory K G B) (origin : K) : Option (PreviewAngularContinuation K G B) :=
  if 0 ≤ origin ∧ 0 ≤ b.durationSec bk ∧ (b.sample sp bk 0).isSome ∧
      (b.sample sp bk (b.durationSec bk)).isSome then
    some (.brake b origin)
  else Option.none

def retainsPolynomial : PreviewAngularContinuation K G B → Bool
  | .polynomial .. => true
  | _ => false

def needsBrake (time : K) : PreviewAngularContinuation K G B → Bool
  | .polynomial _ _ expiry => decide (expiry ≤ time)
  | _ => false

/-- The angular sample at an absolute time, when there is a descriptor. -/
def angularAt (time : K) : PreviewAngularContinuation K G B → Option (PreviewMotionState K G)
  | .none => Option.none
  | .polynomial t origin expiry =>
    if origin ≤ time ∧ time < expiry then t.sample sp (Clamp.clamp (time - origin) 0 t.durationSec)
    else Option.none
  | .brake b origin =>
    if origin ≤ time then
      b.sample sp bk (if origin + b.durationSec bk ≤ time then b.durationSec bk else time - origin)
    else Option.none

/-- Only the orientation and the angular derivatives change. -/
def sample (c : PreviewAngularContinuation K G B) (time : K) (x : PreviewMotionState K G) :
    Option (PreviewMotionState K G) :=
  if time < 0 then Option.none
  else
    match c with
    | .none => some x
    | _ =>
      (c.angularAt sp bk time).map fun angular =>
        { x with
          pose := ⟨x.pose.position, angular.pose.rotation⟩
          angularVelocityBody := angular.angularVelocityBody
          angularAccelerationBody := angular.angularAccelerationBody }

def terminalHoldAvailableAt (time : K) : PreviewAngularContinuation K G B → Bool
  | .none => decide (0 ≤ time)
  | .polynomial .. => false
  | .brake b origin => decide (0 ≤ time ∧ origin + b.durationSec bk ≤ time)

/-- The translation is ignored: the descriptor never supplies one. -/
def shiftCommonFrame (f : Fold (Vec3 K) G) : PreviewAngularContinuation K G B → PreviewAngularContinuation K G B
  | .none => .none
  | .polynomial t origin expiry => .polynomial { t with rotation0 := f.dR * t.rotation0 } origin expiry
  | .brake b origin => .brake (b.shiftCommonFrame ⟨0, f.dR⟩) origin

end PreviewAngularContinuation

end Plans

/-! ## Requests and results -/

structure PreviewExecutionIdentity where
  epoch : ℕ
  gateRevision : ℕ
  sourceWireSeq : ℕ
  sourceRecvSeq : ℕ
  parentPlanId : ℕ
  requestId : ℕ
deriving DecidableEq

/-- The cumulative shift of the common frame within an epoch. -/
structure PreviewExecutionGauge (K G : Type*) where
  revision : ℕ
  translation : Vec3 K
  rotation : G

structure PreviewExecutionRequest (K G B F : Type*) where
  identity : PreviewExecutionIdentity
  gauge : PreviewExecutionGauge K G
  generatedAtSec : K
  spliceAtSec : K
  validUntilSec : K
  cursorTimeSec : K
  cursorRate : K
  referenceRate : K
  contactGate : K
  contactNormalStand : Vec3 K
  history : List (K × Kinematics K G)
  predecessor : Option (PreviewPolynomialTrajectory K G)
  brakePredecessor : Option (PreviewBrakeTrajectory K G B)
  angularPredecessor : PreviewAngularContinuation K G B
  /-- The origin of the brake or of the plan; `none` on a cold start. -/
  predecessorOriginSec : Option K
  coldStart : Bool
  coldInitial : PreviewMotionState K G
  /-- The copied follower. -/
  follower : F

inductive PreviewExecutionWorkerStatus
  | solved
  | invalidRequest
  | sourceMismatch
  | previewUnavailable
  | spliceUnavailable
  | solveRejected
  | late
  | workerException
deriving DecidableEq

structure PreviewContactConstraint (K : Type*) where
  enabled : Bool
  normalStand : Vec3 K

structure PreviewExecutionResult (K G : Type*) where
  identity : PreviewExecutionIdentity
  gauge : PreviewExecutionGauge K G
  generatedAtSec : K
  spliceAtSec : K
  validUntilSec : K
  completedAtSec : K
  status : PreviewExecutionWorkerStatus
  trajectory : PreviewPolynomialTrajectory K G
  nominalTrajectory : PreviewPolynomialTrajectory K G
  contactAuthority : PreviewContactConstraint K
  phaseReference : List (K × Kinematics K G)

inductive PreviewExecutionAcceptance
  | ready
  | workerRejected
  | epochMismatch
  | gateMismatch
  | sourceMismatch
  | parentMismatch
  | late
  | invalidTiming
deriving DecidableEq

section Results

variable {K G : Type*} [Field K] [LinearOrder K] [Group G] [DecidableEq G] (sp : MotionSpace K G)

/-- The shift that brings data of the gauge `g` to the gauge `current`. -/
def PreviewExecutionGauge.change (g current : PreviewExecutionGauge K G) : Fold (Vec3 K) G :=
  ⟨current.translation - g.translation, current.rotation * g.rotation⁻¹⟩

def Kinematics.shift (f : Fold (Vec3 K) G) (x : Kinematics K G) : Kinematics K G :=
  { x with pose := f.move x.pose }

/-- `accepted()`. -/
def PreviewExecutionResult.accepted (r : PreviewExecutionResult K G) : Bool := decide (r.status = .solved)

def validatePreviewExecutionResult (r : PreviewExecutionResult K G) (now : K)
    (current : PreviewExecutionIdentity) : PreviewExecutionAcceptance :=
  if ¬ r.accepted ∨ ¬ r.trajectory.valid then .workerRejected
  else if r.identity.epoch ≠ current.epoch then .epochMismatch
  else if r.identity.gateRevision ≠ current.gateRevision then .gateMismatch
  else if r.identity.sourceWireSeq ≠ current.sourceWireSeq ∨ r.identity.sourceRecvSeq ≠ current.sourceRecvSeq then
    .sourceMismatch
  else if r.identity.parentPlanId ≠ current.parentPlanId then .parentMismatch
  else if now < r.generatedAtSec ∨ r.completedAtSec < r.generatedAtSec ∨ now < r.completedAtSec ∨
      r.spliceAtSec ≤ r.generatedAtSec ∨ r.validUntilSec ≤ r.spliceAtSec ∨ r.trajectory.durationSec ≤ 0 then
    .invalidTiming
  else if r.spliceAtSec ≤ now ∨ r.validUntilSec ≤ now ∨ r.spliceAtSec ≤ r.completedAtSec then .late
  else .ready

def kPhaseCapacity : ℕ := 256

/-- The result with its geometry moved and its new gauge. -/
def PreviewExecutionResult.moveTo (r : PreviewExecutionResult K G) (current : PreviewExecutionGauge K G) :
    PreviewExecutionResult K G :=
  let f := r.gauge.change current
  { r with
    trajectory := r.trajectory.shift f
    nominalTrajectory := if r.nominalTrajectory.valid then r.nominalTrajectory.shift f else r.nominalTrajectory
    phaseReference := r.phaseReference.map fun e => (e.1, Kinematics.shift f e.2)
    gauge := current }

/-- `none` when the result cannot be transported. -/
def transportPreviewExecutionResult (r : PreviewExecutionResult K G) (current : PreviewExecutionGauge K G)
    (tolerance : K) : Option (PreviewExecutionResult K G) :=
  if tolerance ≤ 0 ∨ ¬ r.accepted ∨ ¬ r.trajectory.valid ∨ r.trajectory.count = 0 ∨
      kMaxHorizonSteps < r.trajectory.count ∨ current.revision < r.gauge.revision then none
  else if r.gauge.revision = current.revision ∧ r.gauge.translation = current.translation ∧
      r.gauge.rotation = current.rotation then some r
  else if (r.gauge.revision = current.revision ∧ (tolerance < sp.norm (r.gauge.change current).dp ∨
      tolerance < sp.norm (sp.log3 (r.gauge.change current).dR))) ∨ kPhaseCapacity < r.phaseReference.length then
    none
  else some (r.moveTo current)

/-- The forecast of a result at a reference time, under its own gauge only. -/
def samplePreviewExecutionPhaseReference (r : PreviewExecutionResult K G) (referenceTime now : K)
    (current : PreviewExecutionIdentity) (gauge : PreviewExecutionGauge K G) (tolerance : K) :
    Option (Kinematics K G) :=
  let last := (r.phaseReference.map Prod.fst).getLastD 0
  if tolerance ≤ 0 ∨ gauge.revision ≠ r.gauge.revision ∨
      tolerance < sp.norm (gauge.translation - r.gauge.translation) ∨
      tolerance < sp.norm (sp.log3 (gauge.rotation⁻¹ * r.gauge.rotation)) ∨
      r.phaseReference.length < 2 ∨ kPhaseCapacity < r.phaseReference.length ∨
      (r.phaseReference.map Prod.fst).headD 0 ≠ 0 ∨ last ≤ 0 ∨
      r.identity.epoch ≠ current.epoch ∨ r.identity.gateRevision ≠ current.gateRevision ∨
      r.identity.sourceWireSeq ≠ current.sourceWireSeq ∨ r.identity.sourceRecvSeq ≠ current.sourceRecvSeq ∨
      now < r.generatedAtSec ∨ now < r.completedAtSec ∨ r.validUntilSec ≤ now ∨
      referenceTime < r.generatedAtSec ∨ r.validUntilSec < referenceTime ∨
      r.generatedAtSec + last < referenceTime then none
  else sp.sampleStamped none r.phaseReference (Clamp.clamp (referenceTime - r.generatedAtSec) 0 last)

end Results

end RbServo
