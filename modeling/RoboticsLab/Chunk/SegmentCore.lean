import RoboticsLab.Lib.Clamp
import RoboticsLab.Preview.ExecutionCursor
import Mathlib.Data.Fin.Tuple.Basic

/-!
# `rb_servo/control/chunk_follower_core.hpp`: one segment of the chunk follower

The six axes are three stand positions and a rotation vector.  A segment is a boundary value problem
from the chained state `p0, v0, a0` to a sample of the reference, with guarded boundary conditions;
the trajectory generator that solves it is a third-party library and a parameter here (`Otg`).
`solve` chains the state from the trajectory it gets, `sample` reads the trajectory that is running.
Arithmetic is exact, over an ordered field `K`.
-/

namespace RbServo

/-- `std::array<double, 6>`: axes 0-2 stand translation, 3-5 the rotation tangent. -/
abbrev Axes (K : Type*) := Fin (3 + 3) → K

section Axes

variable {K : Type*}

def axesOf (linear angular : Vec3 K) : Axes K := Fin.append linear angular

def Axes.linear (x : Axes K) : Vec3 K := fun i => x (Fin.castAdd 3 i)

def Axes.angular (x : Axes K) : Vec3 K := fun i => x (Fin.natAdd 3 i)

@[simp] theorem axesOf_linear (l a : Vec3 K) : (axesOf l a).linear = l := by
  funext i
  exact Fin.append_left l a i

@[simp] theorem axesOf_angular (l a : Vec3 K) : (axesOf l a).angular = a := by
  funext i
  exact Fin.append_right l a i

end Axes

/-! ## Data -/

structure AxisLimit (K : Type*) where
  vMax : K
  aMax : K
  jMax : K

structure BoundarySample (K : Type*) where
  pf : Axes K
  vf : Axes K
  af : Axes K
  signDk : Fin (3 + 3) → ℤ
  signDkp1 : Fin (3 + 3) → ℤ

structure GuardConfig (K : Type*) where
  afDampingBetaLin : K
  afDampingBetaAng : K
  epsClamp : K
  cornerDeadbandLinM : K
  cornerDeadbandAngRad : K
  cornerVelocityScale : K

/-- `ruckig::Result`; `refused` is any other code. -/
inductive RuckigResult
  | working
  | error
  | refused (code : ℤ)
deriving DecidableEq

/-- `ruckig::InputParameter<6>`. -/
structure InputParameter (K : Type*) where
  currentPosition : Axes K
  currentVelocity : Axes K
  currentAcceleration : Axes K
  targetPosition : Axes K
  targetVelocity : Axes K
  targetAcceleration : Axes K
  maxVelocity : Axes K
  maxAcceleration : Axes K
  maxJerk : Axes K
  minimumDuration : K

/-- Position, velocity and acceleration of the axes. -/
structure AxesState (K : Type*) where
  p : Axes K
  v : Axes K
  a : Axes K

/-- `ruckig::Ruckig<6>` and its trajectories. -/
structure Otg (K T : Type*) where
  calculate : InputParameter K → RuckigResult × T
  getDuration : T → K
  getIndependentMinDurations : T → Axes K
  atTime : T → K → AxesState K

structure SegmentSolve (K : Type*) where
  result : RuckigResult
  duration : K
  chainAtSec : K
  alpha : K
  converged : Bool
  corner : Bool
  axisDurationSec : Axes K
  targetVelocity : Axes K
  targetAcceleration : Axes K
  jerkScale : K
  jerkSearchCalculations : ℕ

/-- The trajectory is `none` while `have_traj_` is false. -/
structure ChunkFollowerSegment (K T : Type*) where
  limits : Fin (3 + 3) → AxisLimit K
  dt : K
  guard : GuardConfig K
  preserveCurrentState : Bool
  lastTraj : Option T
  p0 : Axes K
  v0 : Axes K
  a0 : Axes K
  sampleOffset : Axes K
  haveState : Bool

namespace ChunkFollowerSegment

variable {K T : Type*} [Field K] [LinearOrder K]

/-! ## The chained state -/

def create (limits : Fin (3 + 3) → AxisLimit K) (dt : K) (guard : GuardConfig K)
    (preserveCurrentState : Bool) : ChunkFollowerSegment K T where
  limits := limits
  dt := dt
  guard := guard
  preserveCurrentState := preserveCurrentState
  lastTraj := none
  p0 := 0
  v0 := 0
  a0 := 0
  sampleOffset := 0
  haveState := false

def reconfigure (c : ChunkFollowerSegment K T) (limits : Fin (3 + 3) → AxisLimit K) (dt : K)
    (guard : GuardConfig K) (preserveCurrentState : Bool) : ChunkFollowerSegment K T :=
  { c with
    limits := limits
    dt := dt
    guard := guard
    preserveCurrentState := preserveCurrentState
    haveState := false
    lastTraj := none }

def seed (c : ChunkFollowerSegment K T) (p0 v0 a0 : Axes K) : ChunkFollowerSegment K T :=
  { c with p0 := p0, v0 := v0, a0 := a0, haveState := true }

def discardTrajectory (c : ChunkFollowerSegment K T) : ChunkFollowerSegment K T :=
  { c with lastTraj := none, sampleOffset := 0 }

def shiftPosition (c : ChunkFollowerSegment K T) (delta : Axes K) : ChunkFollowerSegment K T :=
  if c.haveState then { c with p0 := c.p0 + delta, sampleOffset := c.sampleOffset + delta } else c

def setDt (c : ChunkFollowerSegment K T) (dt : K) : ChunkFollowerSegment K T := { c with dt := dt }

def sample (c : ChunkFollowerSegment K T) (otg : Otg K T) (t : K) : Option (AxesState K) :=
  c.lastTraj.map fun traj =>
    let x := otg.atTime traj t
    { x with p := x.p + c.sampleOffset }

/-! ## The guarded boundary value problem -/

def clampTo (x c : K) : K := if c < x then c else if x < -c then -c else x

def clampAbs (x lim eps : K) : K := clampTo x (lim * (1 + eps))

def clampInside (x lim eps : K) : K := clampTo x (lim * (1 - eps))

/-- The flanking steps of axis `d` go in opposite directions. -/
def cornerAt (s : BoundarySample K) (d : Fin (3 + 3)) : Bool :=
  s.signDk d != 0 && s.signDkp1 d != 0 && s.signDk d != s.signDkp1 d

def targetAcceleration (c : ChunkFollowerSegment K T) (s : BoundarySample K) (alpha : K)
    (d : Fin (3 + 3)) : K :=
  let beta := if d.val < 3 then c.guard.afDampingBetaLin else c.guard.afDampingBetaAng
  let af := if cornerAt s d then 0 else alpha * alpha * s.af d * beta
  clampInside af (c.limits d).aMax c.guard.epsClamp

def targetVelocity (c : ChunkFollowerSegment K T) (s : BoundarySample K) (alpha : K)
    (d : Fin (3 + 3)) : K :=
  let af := c.targetAcceleration s alpha d
  let vf := if cornerAt s d then alpha * s.vf d * c.guard.cornerVelocityScale else alpha * s.vf d
  let cap := (c.limits d).vMax * (1 - c.guard.epsClamp)
  let margin := af * af / (2 * (c.limits d).jMax)
  let hi := if af < 0 then max 0 (cap - margin) else cap
  let lo := if 0 < af then min 0 (-cap + margin) else -cap
  min (max vf lo) hi

def buildInput (c : ChunkFollowerSegment K T) (s : BoundarySample K) (alpha : K) :
    InputParameter K × Bool :=
  ({ currentPosition := c.p0
     currentVelocity := fun d =>
       if c.preserveCurrentState then c.v0 d
       else clampAbs (c.v0 d) (c.limits d).vMax c.guard.epsClamp
     currentAcceleration := fun d =>
       if c.preserveCurrentState then c.a0 d
       else clampAbs (c.a0 d) (c.limits d).aMax c.guard.epsClamp
     targetPosition := s.pf
     targetVelocity := c.targetVelocity s alpha
     targetAcceleration := c.targetAcceleration s alpha
     maxVelocity := fun d => (c.limits d).vMax
     maxAcceleration := fun d => (c.limits d).aMax
     maxJerk := fun d => (c.limits d).jMax
     minimumDuration := c.dt },
    decide (∃ d, cornerAt s d))

def currentStateWithinLimits (i : InputParameter K) : Bool :=
  decide (∀ d, |i.currentVelocity d| ≤ i.maxVelocity d ∧ |i.currentAcceleration d| ≤ i.maxAcceleration d ∧
    |i.currentVelocity d + Clamp.copysign (i.currentAcceleration d * i.currentAcceleration d /
      (2 * i.maxJerk d)) (i.currentAcceleration d)| ≤ i.maxVelocity d)

/-! ## Solving -/

/-- The state of the bisection over a common jerk scale. -/
structure JerkSearch (K T : Type*) where
  lo : K
  hi : K
  jerkScale : K
  calculations : ℕ
  traj : T

/-- The same problem with every jerk limit scaled. -/
def scaleJerk (i : InputParameter K) (scale : K) : InputParameter K :=
  { i with maxJerk := fun d => i.maxJerk d * scale }

def jerkSearchStep (otg : Otg K T) (i : InputParameter K) (deadline : K) (x : JerkSearch K T) :
    JerkSearch K T :=
  let scale := 1 / 2 * (x.lo + x.hi)
  let candidate := scaleJerk i scale
  if currentStateWithinLimits candidate then
    let r := otg.calculate candidate
    if r.1 = .working ∧ otg.getDuration r.2 ≤ deadline then
      { x with hi := scale, jerkScale := scale, calculations := x.calculations + 1, traj := r.2 }
    else { x with lo := scale, calculations := x.calculations + 1 }
  else { x with lo := scale }

def jerkSearch (otg : Otg K T) (i : InputParameter K) (deadline : K) :
    ℕ → JerkSearch K T → JerkSearch K T
  | 0, x => x
  | n + 1, x => jerkSearch otg i deadline n (jerkSearchStep otg i deadline x)

/-- The trajectory that is used, after the optional search for a smaller jerk. -/
def chooseTrajectory (otg : Otg K T) (i : InputParameter K) (dt : K) (minimizeDeadlineJerk : Bool)
    (traj : T) : JerkSearch K T :=
  let deadline := dt + 1 / 10 ^ 9
  let x : JerkSearch K T := { lo := 0, hi := 1, jerkScale := 1, calculations := 0, traj := traj }
  if minimizeDeadlineJerk ∧ otg.getDuration traj ≤ deadline ∧ currentStateWithinLimits i then
    jerkSearch otg i deadline 6 x
  else x

/-- `SegmentSolve{}` with a result code. -/
def solveFailed (result : RuckigResult) : SegmentSolve K where
  result := result
  duration := 0
  chainAtSec := 0
  alpha := 1
  converged := false
  corner := false
  axisDurationSec := 0
  targetVelocity := 0
  targetAcceleration := 0
  jerkScale := 1
  jerkSearchCalculations := 0

def predictAlpha : K := 1

def solve (c : ChunkFollowerSegment K T) (otg : Otg K T) (s : BoundarySample K) (chainMaxSec : K)
    (minimizeDeadlineJerk : Bool) : SegmentSolve K × ChunkFollowerSegment K T :=
  if c.haveState then
    let i := (c.buildInput s predictAlpha).1
    let r := otg.calculate i
    if r.1 = .working then
      let x := chooseTrajectory otg i c.dt minimizeDeadlineJerk r.2
      let duration := otg.getDuration x.traj
      let chainMax := if c.dt < chainMaxSec then chainMaxSec else c.dt
      let chainAt := min (max duration c.dt) chainMax
      let y := otg.atTime x.traj chainAt
      ({ result := .working
         duration := duration
         chainAtSec := chainAt
         alpha := predictAlpha
         converged := decide (duration ≤ c.dt * (1001 / 1000) + 1 / 10 ^ 9)
         corner := (c.buildInput s predictAlpha).2
         axisDurationSec := otg.getIndependentMinDurations x.traj
         targetVelocity := i.targetVelocity
         targetAcceleration := i.targetAcceleration
         jerkScale := x.jerkScale
         jerkSearchCalculations := x.calculations },
        { c with p0 := y.p, v0 := y.v, a0 := y.a, lastTraj := some x.traj, sampleOffset := 0 })
    else (solveFailed r.1, c)
  else (solveFailed .error, c)

end ChunkFollowerSegment

end RbServo
