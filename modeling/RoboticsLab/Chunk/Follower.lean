import RoboticsLab.Chunk.Window

/-!
# `control/cartesian_chunk_follower.cpp`: the receding-horizon chunk follower

The follower turns the waypoints of the active window into segments, one boundary value problem for
each waypoint, and samples the running segment every servo tick.  Two gates slow the plan (along a
contact direction, and in time), a force fold moves the whole plan, and a Hold pauses it.  A time
that may be a NaN or an infinity is a `Reading`.
-/

namespace RbServo

/-! ## Data -/

structure CartesianChunkFollowerConfig (K : Type*) where
  lin : AxisLimit K
  ang : AxisLimit K
  window : ChunkWindowConfig
  guard : GuardConfig K
  maxProjectionErrorM : K
  maxProjectionErrorRad : K
  maxConsecutiveProjectionErrors : ℤ
  maxActualLeadM : K
  maxActualLeadRad : K
  maxConsecutiveActualLeadErrors : ℤ
  coreTimeStretchEnable : Bool
  coreTimeStretchMaxRatio : K
  freshChunkReplan : Bool
  continuousHoldResume : Bool
  deadlineJerkMinimization : Bool

structure FollowerDiag (K G : Type*) where
  lastSolve : SegmentSolve K
  stall : Bool
  stallCount : ℤ
  segments : ℤ
  segTargetStand : StandPose K G
  segStepIndex : ℤ
  segWireSeq : ℕ
  segRecvSeq : ℕ
  projectionErrorM : K
  projectionErrorRad : K
  consecutiveProjectionErrors : ℤ
  actualLeadM : K
  actualLeadRad : K
  consecutiveActualLeadErrors : ℤ
  infeasibleFault : Bool
  actualLeadFault : Bool
  solveFailureCount : ℤ
  demandedAdvanceMS : K

inductive HoldResumeResult
  | notPaused
  | warmResumed
  | graceExpired
  | diverged
deriving DecidableEq

structure CartesianChunkFollower (K G T : Type*) where
  cfg : CartesianChunkFollowerConfig K
  core : ChunkFollowerSegment K T
  window : ChunkWindow K G
  r0Ref : G
  segDt : K
  segLen : K
  tInSeg : K
  haveSegment : Bool
  freshReplanPending : Bool
  active : Bool
  holdPaused : Bool
  sentReferenceHold : Bool
  holdPauseStartSec : Reading K
  currentGrip : K
  lastPose : StandPose K G
  diag : FollowerDiag K G
  actualLeadCheckedSegment : ℤ
  advanceGate : K
  freeDir : Vec3 K
  planShift : Vec3 K
  foldShift : Vec3 K
  foldRot : G
  planRateGate : K

variable {K G T : Type*} [Field K] [LinearOrder K] [Group G]

def makeLimits (cfg : CartesianChunkFollowerConfig K) : Fin (3 + 3) → AxisLimit K :=
  Fin.append (fun _ => cfg.lin) (fun _ => cfg.ang)

def sgn (x deadband : K) : ℤ := (if deadband < x then 1 else 0) - (if x < -deadband then 1 else 0)

/-- `gate < 0 ? 0 : (gate > 1 ? 1 : gate)`. -/
def clampGate (gate : K) : K := if gate < 0 then 0 else if 1 < gate then 1 else gate

namespace CartesianChunkFollower

variable (sp : RigidSpace K G) (otg : Otg K T)

/-- `cfg.fresh_chunk_replan || cfg.continuous_hold_resume`. -/
def preserves (cfg : CartesianChunkFollowerConfig K) : Bool :=
  cfg.freshChunkReplan || cfg.continuousHoldResume

def initialDiag : FollowerDiag K G where
  lastSolve := ChunkFollowerSegment.solveFailed .error
  stall := false
  stallCount := 0
  segments := 0
  segTargetStand := ⟨0, 1⟩
  segStepIndex := -1
  segWireSeq := 0
  segRecvSeq := 0
  projectionErrorM := 0
  projectionErrorRad := 0
  consecutiveProjectionErrors := 0
  actualLeadM := 0
  actualLeadRad := 0
  consecutiveActualLeadErrors := 0
  infeasibleFault := false
  actualLeadFault := false
  solveFailureCount := 0
  demandedAdvanceMS := 0

def create (cfg : CartesianChunkFollowerConfig K) : CartesianChunkFollower K G T where
  cfg := cfg
  core := .create (makeLimits cfg) (1 / 30) cfg.guard (preserves cfg)
  window := .create cfg.window
  r0Ref := 1
  segDt := 1 / 30
  segLen := 1 / 30
  tInSeg := 0
  haveSegment := false
  freshReplanPending := false
  active := false
  holdPaused := false
  sentReferenceHold := false
  holdPauseStartSec := some 0
  currentGrip := 0
  lastPose := ⟨0, 1⟩
  diag := initialDiag
  actualLeadCheckedSegment := -1
  advanceGate := 1
  freeDir := 0
  planShift := 0
  foldShift := 0
  foldRot := 1
  planRateGate := 1

/-! ## Poses of the plan -/

def tangentPose (s : CartesianChunkFollower K G T) (axes : Axes K) : StandPose K G :=
  ⟨axes.linear, s.r0Ref * sp.exp3 axes.angular⟩

def sampleAt (s : CartesianChunkFollower K G T) (t : K) : StandPose K G :=
  match s.core.sample otg t with
  | none => s.lastPose
  | some x => s.tangentPose sp x.p

def relinearizeAndReseed (s : CartesianChunkFollower K G T) : CartesianChunkFollower K G T :=
  let theta := s.core.p0.angular
  let w := if preserves s.cfg then
      sp.bodyAngularDerivatives theta s.core.v0.angular s.core.a0.angular
    else (s.core.v0.angular, s.core.a0.angular)
  { s with
    r0Ref := s.r0Ref * sp.exp3 theta
    core := s.core.seed (axesOf s.core.p0.linear 0) (axesOf s.core.v0.linear w.1)
      (axesOf s.core.a0.linear w.2) }

/-! ## Segments -/

/-- Axis values of a knot: its folded position, and its rotation seen from the tangent anchor. -/
def knotAxes (s : CartesianChunkFollower K G T) (x : StandPose K G) : Axes K :=
  axesOf (x.position + s.planShift + s.foldShift) (sp.log3 (s.r0Ref⁻¹ * s.foldRot * x.rotation))

def buildSample (s : CartesianChunkFollower K G T) (k : ℕ) : BoundarySample K :=
  let n := s.window.pose.length
  let vm1 := s.knotAxes sp (s.window.poseAt (flankIndex k (-1) n))
  let vk := s.knotAxes sp (s.window.poseAt k)
  let vp1 := s.knotAxes sp (s.window.poseAt (flankIndex k 1 n))
  let dkp1 := vp1 - vk
  let dk := if 0 < k then vk - vm1 else dkp1
  let deadband := fun a : Fin (3 + 3) =>
    max 0 (if a.val < 3 then s.cfg.guard.cornerDeadbandLinM else s.cfg.guard.cornerDeadbandAngRad)
  { pf := vk
    vf := fun a => (dk a + dkp1 a) / (2 * s.segDt)
    af := fun a => if 0 < k then (dkp1 a - dk a) / (s.segDt * s.segDt) else 0
    signDk := fun a => sgn (dk a) (deadband a)
    signDkp1 := fun a => sgn (dkp1 a) (deadband a) }

/-- Target the chained pose at rest. -/
def ringDown (core : ChunkFollowerSegment K T) : SegmentSolve K × ChunkFollowerSegment K T :=
  core.solve otg { pf := core.p0, vf := 0, af := 0, signDk := 0, signDkp1 := 0 } (-1) false

/-- The advance the next knot demands. -/
def demandedAdvance (s : CartesianChunkFollower K G T) (k : ℕ) : Vec3 K :=
  (s.window.poseAt k).position + s.planShift + s.foldShift - s.core.p0.linear

/-- The plan shift after the force gate has removed its share of the advance into the contact. -/
def gatedPlanShift (s : CartesianChunkFollower K G T) (k : ℕ) : Vec3 K :=
  let proj := dot (s.demandedAdvance k) s.freeDir
  if s.advanceGate < 1 ∧ 1 / 10 ^ 18 < dot s.freeDir s.freeDir ∧ proj < 0 then
    let removal := ((1 - s.advanceGate) * proj) • s.freeDir
    let maxStep := s.cfg.lin.vMax * s.segDt
    let removalNorm := sp.norm removal
    if maxStep < removalNorm ∧ 1 / 10 ^ 12 < removalNorm then
      s.planShift - (maxStep / removalNorm) • removal
    else s.planShift - removal
  else s.planShift

/-- The head of `stepToNextSegment`, up to the choice between a knot and the stall. -/
def beginSegment (s : CartesianChunkFollower K G T) : CartesianChunkFollower K G T :=
  let s := if s.haveSegment then s.relinearizeAndReseed sp else s
  let core := if s.cfg.freshChunkReplan then s.core.discardTrajectory else s.core
  { s with segDt := s.window.dt, core := core.setDt s.window.dt }

/-- The knot branch up to the solve: the gripper, the demanded advance and the gate. -/
def aimAtKnot (s : CartesianChunkFollower K G T) : CartesianChunkFollower K G T :=
  let k := s.window.k
  let norm := sp.norm (s.demandedAdvance k)
  { s with
    currentGrip := s.window.gripAt k
    diag := { s.diag with
      demandedAdvanceMS := if 1 / 10 ^ 9 < s.segDt then norm / s.segDt else 0 }
    planShift := s.gatedPlanShift sp k }

/-- How far a segment may be stretched. -/
def chainMaxSec (s : CartesianChunkFollower K G T) : K :=
  if s.cfg.coreTimeStretchEnable then s.segDt * max 1 s.cfg.coreTimeStretchMaxRatio else s.segDt

/-- The solve of a knot, with the ring-down that serves a refused one. -/
def solveKnot (s : CartesianChunkFollower K G T) (sample : BoundarySample K) :
    Bool × SegmentSolve K × ChunkFollowerSegment K T :=
  let r := s.core.solve otg sample s.chainMaxSec
    (s.cfg.freshChunkReplan && s.cfg.deadlineJerkMinimization)
  if r.1.result = .working then (false, r) else (true, ringDown otg r.2)

/-- The book-keeping after the solve; `error` is the distance of the chained state from the knot. -/
def closeKnot (s : CartesianChunkFollower K G T) (failed : Bool) (solve : SegmentSolve K)
    (core : ChunkFollowerSegment K T) (error : Axes K) (target : StandPose K G) :
    CartesianChunkFollower K G T :=
  let errM := sp.norm error.linear
  let errRad := sp.norm error.angular
  let violated := decide (0 < s.cfg.maxProjectionErrorM ∧ 0 < s.cfg.maxProjectionErrorRad ∧
    (s.cfg.maxProjectionErrorM < errM ∨ s.cfg.maxProjectionErrorRad < errRad))
  let consecutive := if violated then s.diag.consecutiveProjectionErrors + 1 else 0
  { s with
    core := core
    segLen := if solve.result = .working ∧ s.segDt < solve.chainAtSec then solve.chainAtSec else s.segDt
    diag := { s.diag with
      lastSolve := solve
      solveFailureCount := if failed then s.diag.solveFailureCount + 1 else s.diag.solveFailureCount
      projectionErrorM := errM
      projectionErrorRad := errRad
      consecutiveProjectionErrors := consecutive
      infeasibleFault := decide (0 < s.cfg.maxConsecutiveProjectionErrors ∧
        s.cfg.maxConsecutiveProjectionErrors ≤ consecutive)
      stall := false
      segTargetStand := target
      segStepIndex := s.window.k
      segWireSeq := s.window.wireSeq
      segRecvSeq := s.window.recvSeq
      segments := s.diag.segments + 1 }
    window := s.window.advance }

def followKnot (s : CartesianChunkFollower K G T) : CartesianChunkFollower K G T :=
  let s := s.aimAtKnot sp
  let sample := s.buildSample sp s.window.k
  let r := s.solveKnot otg sample
  s.closeKnot sp r.1 r.2.1 r.2.2 (sample.pf - r.2.2.p0) (s.tangentPose sp sample.pf)

/-- No knot left: ring down at the chained pose and flag the stall. -/
def stallSegment (s : CartesianChunkFollower K G T) : CartesianChunkFollower K G T :=
  let r := ringDown otg s.core
  { s with
    core := r.2
    segLen := s.segDt
    diag := { s.diag with
      lastSolve := r.1
      stall := true
      projectionErrorM := 0
      projectionErrorRad := 0
      consecutiveProjectionErrors := 0
      stallCount := s.diag.stallCount + 1
      segTargetStand := s.tangentPose sp r.2.p0
      segStepIndex := -1
      segWireSeq := s.window.wireSeq
      segRecvSeq := s.window.recvSeq } }

def stepToNextSegment (s : CartesianChunkFollower K G T) : CartesianChunkFollower K G T :=
  let s := s.beginSegment sp
  let s := if s.window.hasTailStep then s.followKnot sp otg else s.stallSegment sp otg
  { s with haveSegment := true }

/-! ## The servo tick and the gates -/

/-- The plan clock crosses the end of the segment, or there is no segment yet. -/
def crossBoundary (s : CartesianChunkFollower K G T) : CartesianChunkFollower K G T :=
  if ¬ s.haveSegment ∨ s.segLen ≤ s.tInSeg then
    let t := if s.haveSegment then max 0 (s.tInSeg - s.segLen)
      else if s.freshReplanPending then s.tInSeg else 0
    { ({ s with tInSeg := t } : CartesianChunkFollower K G T).stepToNextSegment sp otg with
      freshReplanPending := false }
  else s

/-- One servo tick; the pose it returns is `lastPose`. -/
def tick (s : CartesianChunkFollower K G T) (dtTick : K) : CartesianChunkFollower K G T :=
  if s.active ∧ ¬ s.holdPaused then
    let s := ({ s with tInSeg := s.tInSeg + dtTick * s.planRateGate } :
      CartesianChunkFollower K G T).crossBoundary sp otg
    { s with lastPose := s.sampleAt sp otg (min s.tInSeg s.segLen) }
  else s

def setPlanRateGate (s : CartesianChunkFollower K G T) (gate : K) : CartesianChunkFollower K G T :=
  { s with planRateGate := clampGate gate }

def setAdvanceGate (s : CartesianChunkFollower K G T) (gate : K) (dir : Vec3 K) :
    CartesianChunkFollower K G T :=
  { s with advanceGate := clampGate gate, freeDir := dir }

/-- The follower after the call, and what the call returns. -/
def absorbOffset (s : CartesianChunkFollower K G T) (dp : Vec3 K) (dR : G) :
    CartesianChunkFollower K G T × Bool :=
  if s.active ∧ ¬ s.holdPaused ∧ s.core.haveState then
    let s := { s with
      core := s.core.shiftPosition (axesOf dp 0)
      foldShift := s.foldShift + dp
      r0Ref := dR * s.r0Ref
      foldRot := dR * s.foldRot }
    ({ s with
        lastPose := if s.haveSegment then s.sampleAt sp otg (min s.tInSeg s.segLen)
          else s.tangentPose sp s.core.p0 },
      true)
  else (s, false)

/-! ## Read-back -/

/-- The plan is running and has a chained state. -/
def following (s : CartesianChunkFollower K G T) : Bool := s.active && !s.holdPaused && s.core.haveState

def vec6Of (x : Axes K) : Vec6 K := ⟨x.linear, x.angular⟩

def currentVelocity (s : CartesianChunkFollower K G T) : Option (Vec6 K) :=
  if s.following then some (vec6Of s.core.v0) else none

/-- The running segment at the current time, when there is one. -/
def currentSample (s : CartesianChunkFollower K G T) : Option (AxesState K) :=
  if s.haveSegment then s.core.sample otg (min s.tInSeg s.segLen) else none

def sampledVelocity (s : CartesianChunkFollower K G T) : Option (Vec6 K) :=
  if s.following then
    match s.currentSample otg with
    | some x => some (vec6Of x.v)
    | none => s.currentVelocity
  else none

def sampledAcceleration (s : CartesianChunkFollower K G T) : Option (Vec6 K) :=
  if s.following then
    match s.currentSample otg with
    | some x => some (vec6Of x.a)
    | none => some (vec6Of s.core.a0)
  else none

/-- The derivatives of a state of the axes, on the plan clock. -/
def kinematicsOf (s : CartesianChunkFollower K G T) (x : AxesState K) :
    FollowerOutputKinematics (StandPose K G) K :=
  let w := sp.bodyAngularDerivatives x.p.angular x.v.angular x.a.angular
  let g := s.planRateGate
  { pose := s.lastPose
    velocity := ⟨g • x.v.linear, g • w.1⟩
    acceleration := ⟨(g * g) • x.a.linear, (g * g) • w.2⟩ }

def outputKinematics (s : CartesianChunkFollower K G T) : FollowerOutputKinematics (StandPose K G) K :=
  let rest := { pose := s.lastPose, velocity := ⟨0, 0⟩, acceleration := ⟨0, 0⟩ }
  if s.following then
    if s.haveSegment then
      match s.currentSample otg with
      | some x => s.kinematicsOf sp x
      | none => rest
    else s.kinematicsOf sp ⟨s.core.p0, s.core.v0, s.core.a0⟩
  else rest

/-! ## Frames -/

def submitFrame (s : CartesianChunkFollower K G T) (frame : ChunkFrame K G) (current : StandPose K G) :
    CartesianChunkFollower K G T :=
  let r := s.window.activate sp frame
  if r.2 then
    let s := { s with window := r.1, segDt := r.1.dt, core := s.core.setDt r.1.dt }
    if s.active then s
    else
      { s with
        r0Ref := current.rotation
        core := s.core.seed (axesOf current.position 0) 0 0
        planShift := 0
        foldShift := 0
        foldRot := 1
        haveSegment := false
        tInSeg := 0
        lastPose := current
        currentGrip := s.window.gripAt s.window.k
        active := true }
  else { s with window := r.1 }

def seedFromCurrentSample (s : CartesianChunkFollower K G T) : CartesianChunkFollower K G T :=
  if s.haveSegment ∧ s.core.haveState then
    match s.core.sample otg (min s.tInSeg s.segLen) with
    | none => s
    | some x =>
      let s := { s with lastPose := s.tangentPose sp x.p, core := s.core.seed x.p x.v x.a }
      let s := s.relinearizeAndReseed sp
      { s with
        core := s.core.discardTrajectory
        haveSegment := false
        freshReplanPending := true
        tInSeg := 0 }
  else s

/-- The knots of a delta frame, integrated from `cursor`. -/
def integrateDeltas (cursor : StandPose K G) : List (Vec6 K) → List (StandPose K G)
  | [] => []
  | d :: ds => sp.composeDeltaLocal cursor d :: integrateDeltas (sp.composeDeltaLocal cursor d) ds

/-- The absolute frame a delta frame stands for. -/
def integratedFrame (s : CartesianChunkFollower K G T) (frame : ChunkFrame K G)
    (current : StandPose K G) : ChunkFrame K G :=
  let cursor := if s.active then s.tangentPose sp s.core.p0 else current
  { frame with pose := integrateDeltas sp cursor frame.delta }

/-- The two tests before a delta frame reaches the window. -/
def deltaFrameDropped (cfg : CartesianChunkFollowerConfig K) (frame : ChunkFrame K G) : Bool :=
  frame.delta.isEmpty || frame.delta.length != frame.grip.length ||
    (cfg.freshChunkReplan &&
      (decide ((frame.delta.length : ℤ) - max 0 cfg.window.discardHeadL - max 1 cfg.window.reserveR < 1) ||
        decide (cfg.window.consumeC < 1)))

def submitDeltaFrame (s : CartesianChunkFollower K G T) (frame : ChunkFrame K G)
    (current : StandPose K G) : CartesianChunkFollower K G T :=
  if deltaFrameDropped s.cfg frame then s
  else
    let s := if s.cfg.freshChunkReplan ∧ s.active ∧ ¬ s.holdPaused then s.seedFromCurrentSample sp otg
      else s
    let integrated := s.integratedFrame sp frame current
    ({ s with planShift := 0, foldShift := 0, foldRot := 1 } :
      CartesianChunkFollower K G T).submitFrame sp integrated current

/-! ## Holds, re-anchors and the life cycle -/

def deactivate (s : CartesianChunkFollower K G T) : CartesianChunkFollower K G T :=
  { s with
    active := false
    holdPaused := false
    sentReferenceHold := false
    holdPauseStartSec := some 0
    haveSegment := false
    freshReplanPending := false
    window := s.window.deactivate
    diag := { s.diag with
      consecutiveProjectionErrors := 0
      consecutiveActualLeadErrors := 0
      infeasibleFault := false
      actualLeadFault := false }
    actualLeadCheckedSegment := -1 }

def reconfigure (s : CartesianChunkFollower K G T) (cfg : CartesianChunkFollowerConfig K) :
    CartesianChunkFollower K G T :=
  ({ s with
      cfg := cfg
      core := s.core.reconfigure (makeLimits cfg) s.segDt cfg.guard (preserves cfg)
      window := .create cfg.window } : CartesianChunkFollower K G T).deactivate

def pauseForHold (s : CartesianChunkFollower K G T) (nowSec : Reading K) : CartesianChunkFollower K G T :=
  if s.active ∧ ¬ s.holdPaused then { s with holdPaused := true, holdPauseStartSec := nowSec } else s

/-- The Hold has lasted longer than the grace, or a time is unusable. -/
def graceExpired (start nowSec graceSec : Reading K) : Bool :=
  match start, nowSec, graceSec with
  | some start, some now, some grace =>
    decide (grace ≤ 0) || decide (now - start < 0) || decide (grace < now - start)
  | _, _, _ => true

def expireHoldPause (s : CartesianChunkFollower K G T) (nowSec graceSec : Reading K) :
    CartesianChunkFollower K G T × Bool :=
  if s.holdPaused ∧ graceExpired s.holdPauseStartSec nowSec graceSec then (s.deactivate, true)
  else (s, false)

def resumeFromHold (s : CartesianChunkFollower K G T) (live : StandPose K G)
    (nowSec graceSec : Reading K) (positionToleranceM orientationToleranceRad : K) :
    CartesianChunkFollower K G T × HoldResumeResult :=
  if ¬ s.holdPaused then (s, .notPaused)
  else if graceExpired s.holdPauseStartSec nowSec graceSec then (s.deactivate, .graceExpired)
  else
    let s := { s with holdPaused := false, holdPauseStartSec := some 0 }
    if positionToleranceM < sp.positionDistance s.lastPose live ∨
        orientationToleranceRad < sp.orientationDistanceRad s.lastPose live then (s, .diverged)
    else if s.sentReferenceHold then
      ({ s with
          r0Ref := live.rotation
          core := s.core.seed (axesOf live.position 0) 0 0
          lastPose := live
          haveSegment := false
          tInSeg := 0
          sentReferenceHold := false },
        .warmResumed)
    else (s, .warmResumed)

def holdAtSentReference (s : CartesianChunkFollower K G T) (reference : StandPose K G)
    (nowSec : Reading K) : CartesianChunkFollower K G T :=
  if s.active then
    let s := s.pauseForHold nowSec
    { s with
      sentReferenceHold := true
      r0Ref := reference.rotation
      core := (s.core.seed (axesOf reference.position 0) 0 0).discardTrajectory
      lastPose := reference
      haveSegment := false
      freshReplanPending := false
      tInSeg := 0 }
  else s

def reanchor (s : CartesianChunkFollower K G T) (reference : StandPose K G) :
    CartesianChunkFollower K G T :=
  let keep := s.haveSegment ∧ s.core.haveState
  { s with
    holdPaused := false
    sentReferenceHold := false
    holdPauseStartSec := some 0
    r0Ref := reference.rotation
    core := s.core.seed (axesOf reference.position 0) (if keep then s.core.v0 else 0)
      (if keep then s.core.a0 else 0)
    haveSegment := false
    freshReplanPending := false
    tInSeg := 0
    lastPose := reference
    active := true }

def updateActualLead (s : CartesianChunkFollower K G T) (actual : StandPose K G) :
    CartesianChunkFollower K G T :=
  let leadM := sp.positionDistance s.lastPose actual
  let leadRad := sp.orientationDistanceRad s.lastPose actual
  let d := { s.diag with actualLeadM := leadM, actualLeadRad := leadRad }
  if s.actualLeadCheckedSegment = s.diag.segments then { s with diag := d }
  else
    let violated := decide (0 < s.cfg.maxActualLeadM ∧ 0 < s.cfg.maxActualLeadRad ∧
      (s.cfg.maxActualLeadM < leadM ∨ s.cfg.maxActualLeadRad < leadRad))
    let consecutive := if violated then s.diag.consecutiveActualLeadErrors + 1 else 0
    { s with
      actualLeadCheckedSegment := s.diag.segments
      diag := { d with
        consecutiveActualLeadErrors := consecutive
        actualLeadFault := decide (0 < s.cfg.maxConsecutiveActualLeadErrors ∧
          s.cfg.maxConsecutiveActualLeadErrors ≤ consecutive) } }

end CartesianChunkFollower

/-! ## Calls and reachable states -/

/-- The calls of the public interface that change a follower. -/
inductive FollowerOp (K G : Type*)
  | reconfigure (cfg : CartesianChunkFollowerConfig K)
  | submitFrame (frame : ChunkFrame K G) (current : StandPose K G)
  | submitDeltaFrame (frame : ChunkFrame K G) (current : StandPose K G)
  | tick (dtTick : K)
  | setPlanRateGate (gate : K)
  | setAdvanceGate (gate : K) (dir : Vec3 K)
  | absorbOffset (dp : Vec3 K) (dR : G)
  | deactivate
  | pauseForHold (nowSec : Reading K)
  | expireHoldPause (nowSec graceSec : Reading K)
  | resumeFromHold (live : StandPose K G) (nowSec graceSec : Reading K)
      (positionToleranceM orientationToleranceRad : K)
  | holdAtSentReference (reference : StandPose K G) (nowSec : Reading K)
  | reanchor (reference : StandPose K G)
  | updateActualLead (actual : StandPose K G)

namespace CartesianChunkFollower

variable (sp : RigidSpace K G) (otg : Otg K T)

def apply (s : CartesianChunkFollower K G T) : FollowerOp K G → CartesianChunkFollower K G T
  | .reconfigure cfg => s.reconfigure cfg
  | .submitFrame frame current => s.submitFrame sp frame current
  | .submitDeltaFrame frame current => s.submitDeltaFrame sp otg frame current
  | .tick dtTick => s.tick sp otg dtTick
  | .setPlanRateGate gate => s.setPlanRateGate gate
  | .setAdvanceGate gate dir => s.setAdvanceGate gate dir
  | .absorbOffset dp dR => (s.absorbOffset sp otg dp dR).1
  | .deactivate => s.deactivate
  | .pauseForHold nowSec => s.pauseForHold nowSec
  | .expireHoldPause nowSec graceSec => (s.expireHoldPause nowSec graceSec).1
  | .resumeFromHold live nowSec graceSec pTol oTol => (s.resumeFromHold sp live nowSec graceSec pTol oTol).1
  | .holdAtSentReference reference nowSec => s.holdAtSentReference reference nowSec
  | .reanchor reference => s.reanchor reference
  | .updateActualLead actual => s.updateActualLead sp actual

def run (s : CartesianChunkFollower K G T) (ops : List (FollowerOp K G)) : CartesianChunkFollower K G T :=
  ops.foldl (apply sp otg) s

def Reachable (s : CartesianChunkFollower K G T) : Prop := ∃ cfg ops, s = run sp otg (create cfg) ops

/-! ## A plan that stands still -/

/-- The generator on a problem that starts at rest in its target: the constant trajectory, which
lasts the minimum duration. -/
def restOtg : Otg ℚ (Axes ℚ × ℚ) where
  calculate i := (.working, i.currentPosition, i.minimumDuration)
  getDuration t := t.2
  getIndependentMinDurations _ := 0
  atTime t _ := ⟨t.1, 0, 0⟩

def plainConfig (freshChunkReplan : Bool) : CartesianChunkFollowerConfig ℚ where
  lin := ⟨1, 6, 30⟩
  ang := ⟨2, 12, 60⟩
  window := ⟨6, 8, 2, 3⟩
  guard := ⟨85 / 100, 85 / 100, 1 / 10 ^ 9, 3 / 10 ^ 4, 5 / 10 ^ 4, 1 / 4⟩
  maxProjectionErrorM := 0
  maxProjectionErrorRad := 0
  maxConsecutiveProjectionErrors := 0
  maxActualLeadM := 0
  maxActualLeadRad := 0
  maxConsecutiveActualLeadErrors := 0
  coreTimeStretchEnable := false
  coreTimeStretchMaxRatio := 1
  freshChunkReplan := freshChunkReplan
  continuousHoldResume := false
  deadlineJerkMinimization := false

def homePose {G : Type*} [Group G] : StandPose ℚ G := ⟨0, 1⟩

/-- `n` waypoints at the home pose, with `n` zero deltas. -/
def stillFrame {G : Type*} [Group G] (n : ℕ) : ChunkFrame ℚ G where
  pose := List.replicate n homePose
  grip := List.replicate n 0
  delta := List.replicate n ⟨0, 0⟩
  policyDt := 1 / 30
  wireSeq := 1
  recvSeq := 1
  recvTime := 0

end CartesianChunkFollower

end RbServo
