import RoboticsLab.Lib.Numerals
import Mathlib.Algebra.Module.Basic
import Mathlib.Algebra.Order.Field.Basic
import Mathlib.Data.List.Basic

/-!
# `OnlineTcpPoseTargetConditioner`

The conditioner plays the step targets of a chunk as a first-order hold: `beginChunk` installs the anchor and the
targets as knots `policy_dt_sec` apart, `sample` interpolates between the two knots around the wall time, and `hold`
emits the last target again.  What is emitted last anchors the next chunk.

    call : Conditioner → ConditionerCall → Conditioner × Option ConditionedTarget

A pose is a position and an orientation.  Positions are in a module over the numbers `K`; `slerp` stands for the
quaternion part of `interp_pose`.  The twist and the delta reported beside a target are left out.
-/

namespace PolicyRunner

structure Pose (E O : Type*) where
  position : E
  orientation : O
deriving DecidableEq

inductive ReanchorMode
  | measuredLegacy
  | lastEmittedContinuous
  | measuredBlend
deriving DecidableEq

/-- The arguments of the constructor, as it checks them. -/
structure ConditionerConfig (K O : Type*) [Zero K] [LT K] where
  reanchorMode : ReanchorMode
  policyDtSec : K
  blendSteps : ℕ
  slerp : O → O → K → O
  /-- The orientation of the pose that is emitted before any other. -/
  identity : O
  policyDtSec_pos : 0 < policyDtSec

/-- `_knots` and `_times` of a chunk. -/
structure ChunkKnots (K E O : Type*) where
  anchor : Pose E O
  body : List (Pose E O)
  tWallStart : K
  body_ne_nil : body ≠ []

structure Conditioner (K E O : Type*) where
  prevEmitted : Option (Pose E O)
  chunk : Option (ChunkKnots K E O)
  chunkId : ℤ
  firstSample : Bool

/-- The state of the constructor and of `reset`. -/
def Conditioner.init (K E O : Type*) : Conditioner K E O := ⟨none, none, -1, false⟩

structure ConditionedTarget (K E O : Type*) where
  pose : Pose E O
  hold : Bool
  stall : Bool
  reanchor : Bool
  chunkId : ℤ
  chunkIndexLo : ℤ
  chunkIndexHi : ℤ
  interpolationAlpha : K

inductive ConditionerError
  | noTargets
  | continuousTargetsRequired
  | continuousTargetsLength
deriving DecidableEq

variable {K E O : Type*} [Field K] [LinearOrder K] [AddCommGroup E] [Module K E] (cfg : ConditionerConfig K O)

/-- `interp_pose`. -/
def interpPose (slerp : O → O → K → O) (p0 p1 : Pose E O) (u : K) : Pose E O :=
  let u := min 1 (max 0 u)
  ⟨(1 - u) • p0.position + u • p1.position, slerp p0.orientation p1.orientation u⟩

/-! ## Knots -/

namespace ChunkKnots

variable (c : ChunkKnots K E O)

omit [Field K] [LinearOrder K] [AddCommGroup E] [Module K E] in
/-- `_times.size`. -/
def size : ℕ := c.body.length + 1

omit [Field K] [LinearOrder K] [AddCommGroup E] [Module K E] in
/-- `_knots[i]`. -/
def knot (i : ℕ) : Pose E O := (c.anchor :: c.body).getD i c.anchor

/-- `_times[i]`. -/
def time (i : ℕ) : K := c.tWallStart + cfg.policyDtSec * i

/-- `np.searchsorted(_times, t, side="right")`. -/
def searchsortedRight (t : K) : ℕ := (List.range c.size).countP fun i => c.time cfg i ≤ t

/-- The wall time of a sample, within the chunk. -/
def clampTime (tWall : K) : K := min (c.time cfg (c.size - 1)) (max (c.time cfg 0) tWall)

/-- The knot below the time. -/
def lo (t : K) : ℕ := min (c.searchsortedRight cfg t - 1) (c.size - 1)

def hi (t : K) : ℕ := min (c.lo cfg t + 1) (c.size - 1)

def alpha (t : K) : K :=
  let denom := c.time cfg (c.hi cfg t) - c.time cfg (c.lo cfg t)
  if 0 < denom then (t - c.time cfg (c.lo cfg t)) / denom else 0

/-- What `sample` interpolates. -/
def poseAt (tWall : K) : Pose E O :=
  let t := c.clampTime cfg tWall
  interpPose cfg.slerp (c.knot (c.lo cfg t)) (c.knot (c.hi cfg t)) (c.alpha cfg t)

end ChunkKnots

/-! ## The methods -/

namespace Conditioner

variable (s : Conditioner K E O)

/-- `_emit`. -/
def emit (pose : Pose E O) (hold stall : Bool) (lo hi : ℤ) (alpha : K) :
    Conditioner K E O × ConditionedTarget K E O :=
  ({ s with firstSample := false, prevEmitted := some pose },
    { pose := pose
      hold := hold
      stall := stall
      reanchor := s.firstSample && !stall
      chunkId := s.chunkId
      chunkIndexLo := lo - 1
      chunkIndexHi := hi - 1
      interpolationAlpha := alpha })

/-- `hold`: the last target again. -/
def hold : Conditioner K E O × ConditionedTarget K E O :=
  s.emit (s.prevEmitted.getD ⟨0, cfg.identity⟩) true true (-1) (-1) 0

def sample (tWall : K) : Conditioner K E O × ConditionedTarget K E O :=
  match s.chunk with
  | none => s.hold cfg
  | some c =>
    let t := c.clampTime cfg tWall
    let lo := c.lo cfg t
    let hi := c.hi cfg t
    s.emit (c.poseAt cfg tWall) (lo = hi) false lo hi (c.alpha cfg t)

end Conditioner

/-- The arguments of `begin_chunk`. -/
structure BeginChunk (K E O : Type*) where
  measuredAnchor : Pose E O
  measuredTargets : List (Pose E O)
  continuousTargets : Option (List (Pose E O))
  tWallStart : K
  chunkId : ℤ

/-- `_require_continuous`. -/
def requireContinuous (continuousTargets : Option (List (Pose E O))) (k : ℕ) :
    Except ConditionerError (List (Pose E O)) :=
  match continuousTargets with
  | none => .error .continuousTargetsRequired
  | some targets => if targets.length = k then .ok targets else .error .continuousTargetsLength

/-- The targets of `measured_blend`: from the continuous to the measured ones over `blend_steps`. -/
def blendTargets (continuous measured : List (Pose E O)) : List (Pose E O) :=
  (continuous.zip measured).mapIdx fun i p =>
    interpPose cfg.slerp p.1 p.2 (min 1 (((i : K) + 1) / (max 1 cfg.blendSteps : ℕ)))

/-- The anchor and the targets that `begin_chunk` installs. -/
def Conditioner.knotsOf (s : Conditioner K E O) (b : BeginChunk K E O) :
    Except ConditionerError (Pose E O × List (Pose E O)) :=
  match cfg.reanchorMode, s.prevEmitted with
  | _, none => .ok (b.measuredAnchor, b.measuredTargets)
  | .measuredLegacy, _ => .ok (b.measuredAnchor, b.measuredTargets)
  | .lastEmittedContinuous, some prev =>
    (requireContinuous b.continuousTargets b.measuredTargets.length).map fun body => (prev, body)
  | .measuredBlend, some prev =>
    (requireContinuous b.continuousTargets b.measuredTargets.length).map fun cont =>
      (prev, blendTargets cfg cont b.measuredTargets)

/-- `begin_chunk`. -/
def Conditioner.beginChunk (s : Conditioner K E O) (b : BeginChunk K E O) :
    Except ConditionerError (Conditioner K E O) :=
  if b.measuredTargets = [] then .error .noTargets
  else
    match s.knotsOf cfg b with
    | .error e => .error e
    | .ok (anchor, body) =>
      if h : body = [] then .error .noTargets
      else .ok { s with chunk := some ⟨anchor, body, b.tWallStart, h⟩, chunkId := b.chunkId, firstSample := true }

/-! ## Runs -/

inductive ConditionerCall (K E O : Type*)
  | beginChunk (b : BeginChunk K E O)
  | sample (tWall : K)
  | hold

/-- A call that raises leaves the conditioner as it was. -/
def Conditioner.call (s : Conditioner K E O) :
    ConditionerCall K E O → Conditioner K E O × Option (ConditionedTarget K E O)
  | .beginChunk b =>
    match s.beginChunk cfg b with
    | .ok s' => (s', none)
    | .error _ => (s, none)
  | .sample t => ((s.sample cfg t).1, some (s.sample cfg t).2)
  | .hold => ((s.hold cfg).1, some (s.hold cfg).2)

/-- A sample: its time, its pose, and the chunk it was taken from. -/
structure SampledPose (K E O : Type*) where
  tWall : K
  pose : Pose E O
  chunk : Option (ChunkKnots K E O)

structure ConditionerRun (K E O : Type*) where
  conditioner : Conditioner K E O
  samples : List (SampledPose K E O)

namespace ConditionerRun

variable (r : ConditionerRun K E O)

def play (call : ConditionerCall K E O) : ConditionerRun K E O :=
  { conditioner := (r.conditioner.call cfg call).1
    samples :=
      match call, (r.conditioner.call cfg call).2 with
      | .sample t, some target => r.samples ++ [⟨t, target.pose, r.conditioner.chunk⟩]
      | _, _ => r.samples }

def after (calls : List (ConditionerCall K E O)) : ConditionerRun K E O :=
  calls.foldl (play cfg) ⟨Conditioner.init K E O, []⟩

theorem after_concat (calls : List (ConditionerCall K E O)) (x : ConditionerCall K E O) :
    after cfg (calls ++ [x]) = (after cfg calls).play cfg x := by simp [after]

omit [Field K] [AddCommGroup E] [Module K E] in
/-- Samples are taken in order, and a chunk starts at or after the samples before it. -/
def InOrder : ConditionerCall K E O → Prop
  | .beginChunk b => ∀ x ∈ r.samples, x.tWall ≤ b.tWallStart
  | .sample t => ∀ x ∈ r.samples, x.tWall ≤ t
  | .hold => True

end ConditionerRun

end PolicyRunner
