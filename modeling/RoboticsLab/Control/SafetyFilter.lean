import RoboticsLab.Lib.Clamp
import RoboticsLab.Servo.Types
import Mathlib.Data.List.FinRange

/-!
# `rb_servo/control/safety_filter.cpp`: the joint clamp chain

A desired joint target goes through the hard range, the approach barrier, the velocity limit and the
acceleration limit; `clampMotionDetailed` also records what each stage changed.  The numbers are
those of an ordered field `K` with a square root `sqrt`, used by the barrier alone.
-/

namespace RbServo

open Clamp

/-- `JointArray` over the number type of the joints. -/
abbrev Joints (K : Type*) := Fin kDof → K

/-! ## Configuration -/

structure JointLimitBarrierConfig (K : Type*) [Zero K] where
  enable : Bool := false
  qMinDeg : Joints K := fun _ => 0
  qMaxDeg : Joints K := fun _ => 0
  dSlowDeg : Joints K := fun _ => 0
  aBrakeDegS2 : Joints K := fun _ => 0
  inheritBounds : Bool := true
  standoffDeg : Joints K := fun _ => 0

structure SafetyConfig (K : Type*) [Zero K] [One K] where
  qMinDeg : Joints K := fun _ => 0
  qMaxDeg : Joints K := fun _ => 0
  dqMaxDegS : Joints K := fun _ => 0
  ddqMaxDegS2 : Joints K := fun _ => 0
  ddqMaxDecelRatio : K := 1
  decelOvershootBudgetDeg : K := 0
  jointLimitBarrier : JointLimitBarrierConfig K := {}

structure SafetyClampTelemetry (K : Type*) [Zero K] where
  present : Bool := false
  qBeforeSafetyDeg : Joints K := fun _ => 0
  qAfterJointLimitDeg : Joints K := fun _ => 0
  qAfterVelocityLimitDeg : Joints K := fun _ => 0
  qAfterAccelLimitDeg : Joints K := fun _ => 0
  jointLimitClamped : Bool := false
  velocityClamped : Bool := false
  accelClamped : Bool := false
  jointLimitClampMaxDeltaDeg : K := 0
  velocityClampMaxDeltaDeg : K := 0
  accelClampMaxDeltaDeg : K := 0
  jointLimitLimitedJoint : Int := -1
  velocityLimitedJoint : Int := -1
  accelLimitedJoint : Int := -1

section Filter

variable {K : Type*} [Field K] [LinearOrder K] (c : SafetyConfig K)

/-! ## Range, barrier and velocity -/

/-- The second component is the `clamped` output. -/
def clampJointLimits (q : Joints K) : Joints K × Bool :=
  let out : Joints K := fun i => clamp (q i) (c.qMinDeg i) (c.qMaxDeg i)
  (out, (List.finRange kDof).any fun i => decide (out i ≠ q i))

/-- The step the barrier allows towards a bound at distance `margin`. -/
def barrierAllowed (sqrt : K → K) (aBrake margin dtSec : K) : K :=
  if 0 < margin then min margin (sqrt (2 * aBrake * margin) * dtSec) else 0

/-- The body of the loop of `applyJointLimitBarrier`. -/
def barrierJoint (sqrt : K → K) (dtSec : K) (i : Fin kDof) (q qPrev : K) : K :=
  let cfg := c.jointLimitBarrier
  let lo := if cfg.inheritBounds then c.qMinDeg i else cfg.qMinDeg i
  let hi := if cfg.inheritBounds then c.qMaxDeg i else cfg.qMaxDeg i
  let band := cfg.dSlowDeg i
  let aBrake := cfg.aBrakeDegS2 i
  let step := q - qPrev
  let standoff := max 0 (cfg.standoffDeg i)
  let hiEff := hi - standoff
  let loEff := lo + standoff
  let margin := if 0 < step then hiEff - qPrev else qPrev - loEff
  let allowed := barrierAllowed sqrt aBrake margin dtSec
  if ¬ 0 < band ∨ ¬ 0 < aBrake ∨ ¬ lo < hi then q
  else if step = 0 then q
  else if ¬ loEff < hiEff then q
  else if ¬ margin < band then q
  else if |step| ≤ allowed then q
  else qPrev + if 0 < step then allowed else -allowed

def applyJointLimitBarrier (sqrt : K → K) (q qPrev : Joints K) (dtSec : K) : Joints K :=
  if c.jointLimitBarrier.enable = false ∨ dtSec ≤ 0 then q
  else fun i => barrierJoint c sqrt dtSec i (q i) (qPrev i)

def clampVelocity (q qPrev : Joints K) (dtSec : K) : Joints K :=
  if dtSec ≤ 0 then qPrev
  else fun i =>
    let maxStep := c.dqMaxDegS i * dtSec
    qPrev i + clamp (q i - qPrev i) (-maxStep) maxStep

/-! ## Acceleration -/

def decelRatio : K := max 1 c.ddqMaxDecelRatio

def overshootBudget : K := max 0 c.decelOvershootBudgetDeg

/-- Slowing down, or reversing. -/
def sheddingSpeed (desiredVel prevVel : K) : Bool :=
  decide (|desiredVel| < |prevVel|) || decide (desiredVel * prevVel < 0)

/-- How much the velocity may change this tick: more when it sheds speed. -/
def dvLimit (maxDv desiredVel prevVel : K) : K :=
  if sheddingSpeed desiredVel prevVel then maxDv * decelRatio c else maxDv

/-- The ramp from `prevVel` towards `target`. -/
def rampVel (limit target prevVel : K) : K := prevVel + clamp (target - prevVel) (-limit) limit

/-- The reversal rule: a velocity that crossed zero is one a start from rest may have. -/
def reversalRule (maxDv prevVel vel : K) : K :=
  if prevVel ≠ 0 ∧ vel * prevVel < 0 then copysign (min |vel| maxDv) vel else vel

/-- The bounded anti-overshoot: `out` is the ramp's position, `q` the target of the tick. -/
def limitOvershoot (dtSec limit prevVel q qPrev out : K) : K :=
  let dir : K := if qPrev ≤ q then 1 else -1
  let lead := (out - q) * dir
  if overshootBudget c < lead then
    if decelRatio c ≤ 1 ∧ overshootBudget c ≤ 0 then q
    else
      let clipTarget := q + dir * overshootBudget c
      let clipVel := (clipTarget - qPrev) / dtSec
      let candidate := qPrev + rampVel limit clipVel prevVel * dtSec
      if (candidate - q) * dir < lead then candidate else out
  else out

/-- The output of the acceleration stage before the hard limits. -/
def accelJoint (dtSec : K) (i : Fin kDof) (q qPrev qPrevprev : K) : K :=
  let prevVel := (qPrev - qPrevprev) / dtSec
  let desiredVel := (q - qPrev) / dtSec
  let maxDv := c.ddqMaxDegS2 i * dtSec
  let limit := dvLimit c maxDv desiredVel prevVel
  let vel := reversalRule maxDv prevVel (rampVel limit desiredVel prevVel)
  limitOvershoot c dtSec limit prevVel q qPrev (qPrev + vel * dtSec)

def clampAcceleration (q qPrev qPrevprev : Joints K) (dtSec : K) : Joints K :=
  if dtSec ≤ 0 then qPrev
  else fun i =>
    let out := accelJoint c dtSec i (q i) (qPrev i) (qPrevprev i)
    if c.qMinDeg i < c.qMaxDeg i then clamp out (c.qMinDeg i) (c.qMaxDeg i) else out

/-! ## The chain -/

structure StageDelta (K : Type*) where
  clamped : Bool
  maxDeltaDeg : K
  limitedJoint : Int

def kClampEpsilonDeg : K := 1 / 10 ^ 12

/-- The largest change of a stage, the first joint that has it, and whether it counts. -/
def recordStageDelta (before after : Joints K) : StageDelta K :=
  let best := (List.finRange kDof).foldl
    (fun (best : K × Int) i =>
      if best.1 < |after i - before i| then (|after i - before i|, (i : Int)) else best)
    (0, -1)
  { clamped := decide (kClampEpsilonDeg < best.1)
    maxDeltaDeg := best.1
    limitedJoint := if kClampEpsilonDeg < best.1 then best.2 else -1 }

def clampMotionDetailed (sqrt : K → K) (desired qPrev qPrevprev : Joints K) (dtSec : K) :
    SafetyClampTelemetry K :=
  let limited := applyJointLimitBarrier c sqrt (clampJointLimits c desired).1 qPrev dtSec
  let slowed := clampVelocity c limited qPrev dtSec
  let out := clampAcceleration c slowed qPrev qPrevprev dtSec
  let jointLimit := recordStageDelta desired limited
  let velocity := recordStageDelta limited slowed
  let accel := recordStageDelta slowed out
  { present := true
    qBeforeSafetyDeg := desired
    qAfterJointLimitDeg := limited
    qAfterVelocityLimitDeg := slowed
    qAfterAccelLimitDeg := out
    jointLimitClamped := jointLimit.clamped
    velocityClamped := velocity.clamped
    accelClamped := accel.clamped
    jointLimitClampMaxDeltaDeg := jointLimit.maxDeltaDeg
    velocityClampMaxDeltaDeg := velocity.maxDeltaDeg
    accelClampMaxDeltaDeg := accel.maxDeltaDeg
    jointLimitLimitedJoint := jointLimit.limitedJoint
    velocityLimitedJoint := velocity.limitedJoint
    accelLimitedJoint := accel.limitedJoint }

end Filter

end RbServo
