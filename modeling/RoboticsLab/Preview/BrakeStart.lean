import RoboticsLab.Preview.ContactConstraint
import Mathlib.Data.List.FinRange

/-!
# `control/preview_brake.cpp`: the start of a brake

`PreviewBrake` plans a stop of the six axes with a third-party trajectory generator, which is a
parameter here: its answer is any profile of constant-jerk pieces for each axis, read as the profile
says.  `start` accepts an answer after its own checks only: each piece within its limits at its ends and
at the extremum of its velocity, the chart angle, and a stop at the end.  Arithmetic is exact.
-/

namespace RbServo

open Quadratic

/-! ## Profiles -/

namespace Ruckig

/-- `ruckig::Profile`: up to two pieces before the profile proper, which has seven. -/
structure Profile (K : Type*) where
  brakeDuration : K
  brakeT : Fin 2 → K
  brakeP : Fin 2 → K
  brakeV : Fin 2 → K
  brakeA : Fin 2 → K
  brakeJ : Fin 2 → K
  t : Fin 7 → K
  tSum : Fin 7 → K
  j : Fin 7 → K
  p : Fin 8 → K
  v : Fin 8 → K
  a : Fin 8 → K

/-- `ruckig::Trajectory<6>`. -/
structure Trajectory (K : Type*) where
  profiles : Fin (3 + 3) → Profile K
  getDuration : K

/-- `ruckig::InputParameter<6>` with the velocity interface; the targets are zero. -/
structure VelocityInput (K : Type*) where
  currentPosition : Axes K
  currentVelocity : Axes K
  currentAcceleration : Axes K
  maxVelocity : Axes K
  maxAcceleration : Axes K
  maxJerk : Axes K

end Ruckig

open Ruckig

/-- The third-party parts: `Ruckig::calculate`, with `none` for an error, the minimum and the maximum of
`get_position_extrema`, and `Quaterniond::FromTwoVectors` as a matrix. -/
structure BrakeLibrary (K : Type*) where
  calculate : VelocityInput K → Option (Trajectory K)
  positionExtrema : Profile K → K × K
  fromTwoVectors : Vec3 K → Vec3 K → Matrix (Fin 3) (Fin 3) K

section Profiles

variable {K : Type*} [Field K] [LinearOrder K]

/-- Position, velocity and acceleration of a piece. -/
def pieceAt (p v a j s : K) : K × K × K :=
  (p + s * v + 1 / 2 * s * s * a + s * s * s / 6 * j, quad v a j s, slopeAt a j s)

namespace Ruckig.Profile

/-- `std::upper_bound` in the sums. -/
def phaseAt (p : Profile K) (time : K) : Option (Fin 7) :=
  (List.finRange 7).find? fun k => decide (time < p.tSum k)

/-- Where a phase starts. -/
def phaseStart (p : Profile K) (k : Fin 7) : K := if k = 0 then 0 else p.tSum (k - 1)

/-- One axis of `Trajectory::at_time`; after its last phase an axis keeps its acceleration. -/
def atTime (p : Profile K) (time : K) : K × K × K :=
  if 0 < p.brakeDuration ∧ time < p.brakeDuration then
    if time < p.brakeT 0 then pieceAt (p.brakeP 0) (p.brakeV 0) (p.brakeA 0) (p.brakeJ 0) time
    else pieceAt (p.brakeP 1) (p.brakeV 1) (p.brakeA 1) (p.brakeJ 1) (time - p.brakeT 0)
  else
    let s := if 0 < p.brakeDuration then time - p.brakeDuration else time
    match p.phaseAt s with
    | some k => pieceAt (p.p k.castSucc) (p.v k.castSucc) (p.a k.castSucc) (p.j k) (s - p.phaseStart k)
    | none => pieceAt (p.p 7) (p.v 7) (p.a 7) 0 (s - p.tSum 6)

/-- `jerkAt`. -/
def jerkAt (p : Profile K) (time : K) : K :=
  if 0 < p.brakeDuration ∧ time < p.brakeDuration then p.brakeJ (if time < p.brakeT 0 then 0 else 1)
  else
    let s := if 0 < p.brakeDuration then time - p.brakeDuration else time
    if p.tSum 6 ≤ s then 0
    else
      match p.phaseAt s with
      | some k => p.j k
      | none => 0

end Ruckig.Profile

namespace Ruckig.Trajectory

def position (tr : Trajectory K) (time : K) : Axes K := fun i => ((tr.profiles i).atTime time).1
def velocity (tr : Trajectory K) (time : K) : Axes K := fun i => ((tr.profiles i).atTime time).2.1
def acceleration (tr : Trajectory K) (time : K) : Axes K := fun i => ((tr.profiles i).atTime time).2.2

def atTime (tr : Trajectory K) (time : K) : Vec6 K × Vec6 K × Vec6 K :=
  (⟨(tr.position time).linear, (tr.position time).angular⟩,
    ⟨(tr.velocity time).linear, (tr.velocity time).angular⟩,
    ⟨(tr.acceleration time).linear, (tr.acceleration time).angular⟩)

end Ruckig.Trajectory

/-- The lambda `bounded`. -/
def bounded (eps value limit : K) : Prop := |value| ≤ limit + eps

instance (eps value limit : K) : Decidable (bounded eps value limit) :=
  inferInstanceAs (Decidable (_ ≤ _))

def boundedInterval (t v a j vmax amax jmax eps : K) : Bool :=
  if t < 0 then false
  else
    let vend := v + a * t + 1 / 2 * j * t * t
    let aend := a + j * t
    if ¬ bounded eps v vmax ∨ ¬ bounded eps vend vmax ∨ ¬ bounded eps a amax ∨ ¬ bounded eps aend amax ∨
        ¬ bounded eps j jmax then false
    else
      let extremum := -a / j
      if j ≠ 0 ∧ 0 < extremum ∧ extremum < t ∧
          ¬ bounded eps (v + a * extremum + 1 / 2 * j * extremum * extremum) vmax then false
      else true

end Profiles

/-! ## The brake -/

section Start

variable {K G : Type*} [Field K] [LinearOrder K] [Group G] (sp : MotionSpace K G) (lib : BrakeLibrary K)

/-- What the constructor keeps. -/
structure BrakeUnit (K : Type*) where
  config : PreviewTrackerConfig K
  maxVelocity : Axes K
  maxAcceleration : Axes K
  maxJerk : Axes K

/-- `max_angular_acceleration - V^2 / 2`. -/
def PreviewTrackerConfig.chartAcceleration (c : PreviewTrackerConfig K) : K :=
  c.maxAngularAccelerationRadS2 - 1 / 2 * c.maxAngularVelocityRadS * c.maxAngularVelocityRadS

def PreviewTrackerConfig.chartJerk (c : PreviewTrackerConfig K) : K :=
  let V := c.maxAngularVelocityRadS
  c.maxAngularJerkRadS3 - 5 / 2 * V * c.chartAcceleration - 5 / 6 * V * V * V

/-- The constructor; `none` when it throws. -/
def BrakeUnit.new (config : PreviewTrackerConfig K) (servoPeriodSec : K) : Option (BrakeUnit K) :=
  if servoPeriodSec ≤ 0 ∨ config.maxLinearVelocityMS ≤ 0 ∨ config.maxLinearAccelerationMS2 ≤ 0 ∨
      config.maxLinearJerkMS3 ≤ 0 ∨ config.maxAngularVelocityRadS ≤ 0 ∨ config.maxAngularAccelerationRadS2 ≤ 0 ∨
      config.maxAngularJerkRadS3 ≤ 0 ∨ config.feasibilityTolerance ≤ 0 ∨
      1 / 10000 < config.feasibilityTolerance ∨ config.maxReferenceChartAngleRad ≤ 0 ∨
      7 / 5 < config.maxReferenceChartAngleRad ∨ config.chartAcceleration ≤ 0 ∨ config.chartJerk ≤ 0 then none
  else
    let cube x : Vec3 K := fun _ => x / sp.sqrt 3
    let unit : BrakeUnit K := {
      config
      maxVelocity := axesOf (fun _ => config.maxLinearVelocityMS) (cube config.maxAngularVelocityRadS)
      maxAcceleration := axesOf (fun _ => config.maxLinearAccelerationMS2) (cube config.chartAcceleration)
      maxJerk := axesOf (fun _ => config.maxLinearJerkMS3) (cube config.chartJerk) }
    -- the warm-up call
    match lib.calculate ⟨0, fun _ => 1 / 1000, 0, unit.maxVelocity, unit.maxAcceleration, unit.maxJerk⟩ with
    | none => none
    | some _ => some unit

/-- The chart, and the state of the axes in it. -/
structure BrakeSeed (K : Type*) where
  angularBasis : Matrix (Fin 3) (Fin 3) K
  velocity : Axes K
  acceleration : Axes K

def kSeedHeadroom : K := 1 / 4

variable (b : BrakeUnit K)

namespace BrakeUnit

/-- The lambda `inside_axis`. -/
def insideAxis (s : BrakeSeed K) (i : Fin (3 + 3)) (headroom : K) : Prop :=
  |s.velocity i| ≤ b.maxVelocity i * (1 + headroom) + b.config.feasibilityTolerance ∧
    |s.acceleration i| ≤ b.maxAcceleration i * (1 + headroom) + b.config.feasibilityTolerance

instance (s : BrakeSeed K) (i : Fin (3 + 3)) (headroom : K) : Decidable (b.insideAxis s i headroom) :=
  inferInstanceAs (Decidable (_ ∧ _))

/-- Frobenius norm and determinant, as Eigen has them. -/
def matrixNorm (m : Matrix (Fin 3) (Fin 3) K) : K :=
  sp.sqrt (dot (m 0) (m 0) + dot (m 1) (m 1) + dot (m 2) (m 2))

def determinant (m : Matrix (Fin 3) (Fin 3) K) : K :=
  m 0 0 * (m 1 1 * m 2 2 - m 1 2 * m 2 1) - m 0 1 * (m 1 0 * m 2 2 - m 1 2 * m 2 0) +
    m 0 2 * (m 1 0 * m 2 1 - m 1 1 * m 2 0)

/-- The identity chart where its cube holds the state, else one turned to balance the velocity. -/
def chooseChart (initial : PreviewMotionState K G) : Except PreviewBrakeStatus (BrakeSeed K) :=
  let omega := initial.angularVelocityBody
  let alpha := initial.angularAccelerationBody
  let plain : BrakeSeed K :=
    ⟨1, axesOf initial.linearVelocity omega, axesOf initial.linearAcceleration alpha⟩
  if ¬ ∀ i : Fin 3, b.insideAxis plain (Fin.castAdd 3 i) kSeedHeadroom then .error .initialOutsideLimits
  else if ∀ i : Fin 3, b.insideAxis plain (Fin.natAdd 3 i) 0 then .ok plain
  else
    let norm := sp.norm omega
    if norm ≤ 0 then .error .initialOutsideLimits
    else
      let basis := (lib.fromTwoVectors ((1 / norm) • omega) fun _ => 1 / sp.sqrt 3).transpose
      if b.config.feasibilityTolerance < matrixNorm sp (basis.transpose * basis - 1) ∨
          b.config.feasibilityTolerance < |determinant basis - 1| then .error .numericalFailure
      else
        let turned : BrakeSeed K := ⟨basis, axesOf initial.linearVelocity (basis.transpose.mulVec omega),
          axesOf initial.linearAcceleration (basis.transpose.mulVec alpha)⟩
        if ∀ i : Fin 3, b.insideAxis turned (Fin.natAdd 3 i) kSeedHeadroom then .ok turned
        else .error .initialOutsideLimits

/-- `v_allow` and `a_allow`: the caps, or what the seed already does. -/
def vAllow (s : BrakeSeed K) (i : Fin (3 + 3)) : K :=
  max (b.maxVelocity i) (|s.velocity i| + s.acceleration i * s.acceleration i / (2 * b.maxJerk i))

def aAllow (s : BrakeSeed K) (i : Fin (3 + 3)) : K := max (b.maxAcceleration i) |s.acceleration i|

/-- The checks of the pieces of one axis. -/
def certifiedAxis (s : BrakeSeed K) (p : Profile K) (i : Fin (3 + 3)) : Prop :=
  (0 < p.brakeDuration → ∀ k : Fin 2, 0 < p.brakeT k →
    boundedInterval (p.brakeT k) (p.brakeV k) (p.brakeA k) (p.brakeJ k) (b.vAllow s i) (b.aAllow s i)
      (b.maxJerk i) b.config.feasibilityTolerance) ∧
  ∀ k : Fin 7, boundedInterval (p.t k) (p.v k.castSucc) (p.a k.castSucc) (p.j k) (b.vAllow s i)
    (b.aAllow s i) (b.maxJerk i) b.config.feasibilityTolerance

instance (s : BrakeSeed K) (p : Profile K) (i : Fin (3 + 3)) : Decidable (b.certifiedAxis s p i) :=
  inferInstanceAs (Decidable (_ ∧ _))

/-- Euclidean norm of six axes. -/
def norm6 (x : Axes K) : K := sp.sqrt (dot x.linear x.linear + dot x.angular x.angular)

/-- The largest angle of each axis; the extrema are taken with the integrated final position. -/
def angularExtent (tr : Trajectory K) : Vec3 K := fun i =>
  let extent := lib.positionExtrema (tr.profiles (Fin.natAdd 3 i))
  max |extent.1| |extent.2|

end BrakeUnit

/-- The library's trajectories as the executor reads them. -/
def ruckigBrake
    (start : PreviewMotionState K G → Except PreviewBrakeStatus (PreviewBrakeTrajectory K G (Trajectory K))) :
    PreviewBrake K G (Trajectory K) := ⟨start, Trajectory.getDuration, Trajectory.atTime⟩

namespace BrakeUnit

/-- `PreviewBrake::start`, after `accepted_.valid = false`: the trajectory to accept, or the status. -/
def certify (initial : PreviewMotionState K G) :
    Except PreviewBrakeStatus (BrakeSeed K × PreviewBrakeTrajectory K G (Trajectory K)) :=
  let eps := b.config.feasibilityTolerance
  if b.config.maxAngularVelocityRadS * (1 + kSeedHeadroom) + eps < sp.norm initial.angularVelocityBody ∨
      b.config.maxAngularAccelerationRadS2 * (1 + kSeedHeadroom) + eps < sp.norm initial.angularAccelerationBody then
    .error .initialOutsideLimits
  else
    match b.chooseChart sp lib initial with
    | .error e => .error e
    | .ok seed =>
      match lib.calculate ⟨axesOf initial.pose.position 0, seed.velocity, seed.acceleration, b.maxVelocity,
          b.maxAcceleration, b.maxJerk⟩ with
      | none => .error .infeasible
      | some tr =>
        let duration := tr.getDuration
        if duration < 0 then .error .numericalFailure
        else if ¬ ∀ i, b.certifiedAxis seed (tr.profiles i) i then .error .limitViolation
        else if b.config.maxReferenceChartAngleRad < sp.norm (angularExtent lib tr) then .error .limitViolation
        else if eps < norm6 sp (tr.velocity duration) ∨ eps < norm6 sp (tr.acceleration duration) then
          .error .numericalFailure
        else
          let candidate : PreviewBrakeTrajectory K G (Trajectory K) :=
            ⟨tr, initial.pose.rotation, seed.angularBasis, 0⟩
          match candidate.sample sp (ruckigBrake fun _ => .error .inactive) duration with
          | none => .error .numericalFailure
          | some terminal =>
            if eps < sp.norm terminal.linearVelocity ∨ eps < sp.norm terminal.linearAcceleration ∨
                eps < sp.norm terminal.angularVelocityBody ∨ eps < sp.norm terminal.angularAccelerationBody then
              .error .numericalFailure
            else .ok (seed, candidate)

end BrakeUnit

/-! ## The object -/

/-- `PreviewBrake`: its limits, `accepted_` with its flag, and `status_`, where `none` is ready. -/
structure BrakeObject (K G : Type*) where
  unit : BrakeUnit K
  accepted : PreviewBrakeTrajectory K G (Trajectory K)
  valid : Bool
  status : Option PreviewBrakeStatus

def BrakeObject.start (o : BrakeObject K G) (initial : PreviewMotionState K G) : BrakeObject K G :=
  let o := { o with valid := false }
  match o.unit.certify sp lib initial with
  | .error e => { o with status := some e }
  | .ok (_, candidate) => { o with accepted := candidate, valid := true, status := none }

/-- The arrays `v`, `a` and `j` of `PreviewBrakeTrajectory::sample`. -/
def chartAt (b : PreviewBrakeTrajectory K G (Trajectory K)) (time : K) : Axes K × Axes K × Axes K :=
  let duration := b.trajectory.getDuration
  let t := min time duration
  (if duration ≤ time then 0 else b.trajectory.velocity t,
    if duration ≤ time then 0 else b.trajectory.acceleration t,
    if duration ≤ time then 0 else fun i => (b.trajectory.profiles i).jerkAt t)

end Start

end RbServo
