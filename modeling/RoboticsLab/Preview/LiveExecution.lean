import RoboticsLab.Preview.Plans

/-!
# `control/live_preview_execution.cpp`: the live preview executor

The executor owns at most one plan and at most one brake.  `step` takes what the planning thread has
returned, stages a result that fits the current identity, transports it to the current gauge and
admits it at its splice time; it samples the plan or the brake, runs the reference cursor and asks for
the next plan.  A stop, a recovery or a fault brakes from the last dispatched sample.  `epoch` counts
resets and `gateRevision` losses of authority.  A `double` or a pose that may be unusable is an
`Option`; of the telemetry only the status, the plan id and the count of admissions are kept.
-/

namespace RbServo

open Gauge

/-! ## Data -/

inductive PreviewRecoveryCause
  | backlog
  | history
  | firstPlanTimeout
  | planExpired
  | peer
  | retryTimeout
deriving DecidableEq

inductive PreviewFoldCause
  | unknown
  | force
  | roiFloor
  | geometryHold
deriving DecidableEq

structure LivePreviewConfig (K : Type*) where
  maxResultAgeSec : K
  spliceLeadSec : K
  replanPeriodSec : K
  recoveryEnable : Bool
  feasibilityTolerance : K
  contactRealignSec : K
  phaseLookaheadSec : K
  dispatchAcceptancePositionToleranceM : K
  dispatchAcceptanceRotationToleranceRad : K

structure PreviewDispatchTransaction (K G : Type*) where
  valid : Bool
  epoch : ℕ
  planId : ℕ
  sampleTimeSec : K
  nominal : Option (StandPose K G)
  composed : Option (StandPose K G)
  motion : PreviewMotionState K G
  foldTranslation : Vec3 K
  foldRotation : G

structure LivePreviewOutput (K G : Type*) where
  pose : Option (StandPose K G)
  active : Bool
  fault : Bool
  reason : String

/-- What `step` reads of the follower; `follower` is what a request copies. -/
structure RawFollower (K G F : Type*) where
  active : Bool
  holdPaused : Bool
  outputKinematics : KinematicsReading (StandPose K G) K
  windowWireSeq : ℕ
  windowRecvSeq : ℕ
  follower : F

structure LivePreviewExecution (K G B : Type*) [Zero K] [One K] [LT K] [LE K] where
  config : LivePreviewConfig K
  cursor : PreviewExecutionCursor K
  brakeTrajectory : Option (PreviewBrakeTrajectory K G B)
  angularContinuation : PreviewAngularContinuation K G B
  history : List (K × Kinematics K G)
  /-- The accepted plan, when there is one. -/
  active : Option (PreviewExecutionResult K G)
  staged : Option (PreviewExecutionResult K G)
  phaseReferenceResult : Option (PreviewExecutionResult K G)
  sample : PreviewMotionState K G
  acceptedSample : PreviewMotionState K G
  cold : PreviewMotionState K G
  epoch : ℕ
  gateRevision : ℕ
  requestId : ℕ
  gaugeRevision : ℕ
  initializedAt : K
  lastTime : K
  nextRequestAt : K
  planningStarvedSinceSec : K
  brakeOriginSec : K
  acceptedSampleTimeSec : K
  referenceRateGate : K
  retiredSourceAdvance : Vec3 K
  brakePlanId : ℕ
  acceptedPlanId : ℕ
  foldTranslation : Vec3 K
  foldRotation : G
  brakeReason : String
  stopFaultReason : Option String
  /-- `none` is the cause `None`. -/
  recoveryCause : Option PreviewRecoveryCause
  recoverySeed : Option (PreviewMotionState K G)
  initialized : Bool
  faulted : Bool
  acceptedEpoch : Bool
  stopping : Bool
  stopTerminalDispatched : Bool
  /-- `telemetry_.status`. -/
  status : String
  /-- `telemetry_.plan_id`. -/
  planId : ℕ
  /-- `telemetry_.accepted`, the number of plans admitted. -/
  accepted : ℕ

variable {K G B F : Type*} [Field K] [LinearOrder K] [FloorSemiring K] [Group G] [DecidableEq G]
variable (sp : MotionSpace K G) (bk : PreviewBrake K G B)

namespace LivePreviewExecution

def create (config : LivePreviewConfig K) (cursor : PreviewExecutionCursor K) : LivePreviewExecution K G B where
  config := config
  cursor := cursor
  brakeTrajectory := none
  angularContinuation := .none
  history := []
  active := none
  staged := none
  phaseReferenceResult := none
  sample := .atRest ⟨0, 1⟩
  acceptedSample := .atRest ⟨0, 1⟩
  cold := .atRest ⟨0, 1⟩
  epoch := 1
  gateRevision := 1
  requestId := 0
  gaugeRevision := 0
  initializedAt := 0
  lastTime := 0
  nextRequestAt := 0
  planningStarvedSinceSec := 0
  brakeOriginSec := 0
  acceptedSampleTimeSec := 0
  referenceRateGate := 1
  retiredSourceAdvance := 0
  brakePlanId := 0
  acceptedPlanId := 0
  foldTranslation := 0
  foldRotation := 1
  brakeReason := "braking"
  stopFaultReason := none
  recoveryCause := none
  recoverySeed := none
  initialized := false
  faulted := false
  acceptedEpoch := false
  stopping := false
  stopTerminalDispatched := false
  status := "inactive"
  planId := 0
  accepted := 0

def hasPlan (s : LivePreviewExecution K G B) : Bool := s.active.isSome || s.brakeTrajectory.isSome

def recovering (s : LivePreviewExecution K G B) : Bool := s.recoveryCause.isSome

def gauge (s : LivePreviewExecution K G B) : PreviewExecutionGauge K G :=
  ⟨s.gaugeRevision, s.foldTranslation, s.foldRotation⟩

/-- The plan or brake being executed. -/
def parentPlanId (s : LivePreviewExecution K G B) : ℕ :=
  if s.brakeTrajectory.isSome then s.brakePlanId
  else match s.active with
    | some r => r.identity.requestId
    | none => 0

def identity (s : LivePreviewExecution K G B) (raw : RawFollower K G F) : PreviewExecutionIdentity :=
  ⟨s.epoch, s.gateRevision, raw.windowWireSeq, raw.windowRecvSeq, s.parentPlanId, s.requestId⟩

def setReferenceRateGate (s : LivePreviewExecution K G B) (gate : Reading K) : LivePreviewExecution K G B :=
  { s with referenceRateGate := match gate with | some g => Clamp.clamp g 0 1 | none => 0 }

/-! ## Resets and brakes -/

/-- There is something to invalidate. -/
def live (s : LivePreviewExecution K G B) : Bool :=
  s.initialized || s.staged.isSome || s.hasPlan || s.faulted

def reset (s : LivePreviewExecution K G B) (reason : String) : LivePreviewExecution K G B :=
  { s with
    referenceRateGate := 1
    epoch := if s.live then s.epoch + 1 else s.epoch
    gateRevision := if s.live then s.gateRevision + 1 else s.gateRevision
    staged := none
    initialized := false
    faulted := false
    acceptedEpoch := false
    stopping := false
    stopTerminalDispatched := false
    active := none
    phaseReferenceResult := none
    brakeTrajectory := none
    brakePlanId := 0
    angularContinuation := .none
    stopFaultReason := none
    acceptedSampleTimeSec := 0
    acceptedPlanId := 0
    recoveryCause := none
    recoverySeed := none
    planningStarvedSinceSec := 0
    foldTranslation := 0
    foldRotation := 1
    gaugeRevision := 0
    cursor := s.cursor.clear
    history := []
    status := reason
    planId := 0 }

def fail (s : LivePreviewExecution K G B) (reason : String) : LivePreviewExecution K G B :=
  { s.reset reason with faulted := true }

/-- The failure texts of `calculateBrake`. -/
def brakeFailure : PreviewBrakeStatus → String
  | .invalidInitialState => "brake_invalid_initial"
  | .initialOutsideLimits => "brake_initial_outside_limits"
  | .infeasible => "brake_infeasible"
  | .limitViolation => "brake_limit_violation"
  | .numericalFailure => "brake_numerical_failure"
  | .inactive => "brake_inactive"

/-- The brake and its angular part at an absolute time. -/
def brakeAt (s : LivePreviewExecution K G B) (time : K) : Option (PreviewMotionState K G) :=
  match s.brakeTrajectory with
  | none => none
  | some b => (b.sample sp bk (time - s.brakeOriginSec)).bind (s.angularContinuation.sample sp bk time)

/-- The state after the call, and what the call returns. -/
def sampleBrake (s : LivePreviewExecution K G B) : LivePreviewExecution K G B × Bool :=
  match s.brakeAt sp bk s.lastTime with
  | some x => ({ s with sample := x }, true)
  | none => (s.fail "brake_sample_failed", false)

/-- A new identity for the composite predecessor. -/
def renewBrakeId (s : LivePreviewExecution K G B) : LivePreviewExecution K G B :=
  { s with
    requestId := s.requestId + 1
    brakePlanId := s.requestId + 1
    staged := none
    nextRequestAt := s.lastTime
    planId := s.requestId + 1 }

def beginAngularBrake (s : LivePreviewExecution K G B) : LivePreviewExecution K G B × Bool :=
  if ¬ s.angularContinuation.retainsPolynomial then (s, true)
  else if ¬ s.acceptedEpoch ∨ s.lastTime < s.acceptedSampleTimeSec ∨
      s.config.maxResultAgeSec ≤ s.lastTime - s.acceptedSampleTimeSec then
    (s.fail "angular_brake_stale_seed", false)
  else
    match bk.start { s.acceptedSample with linearVelocity := 0, linearAcceleration := 0 } with
    | .error status => (s.fail (brakeFailure status), false)
    | .ok brake =>
      match PreviewAngularContinuation.startBrake sp bk brake s.acceptedSampleTimeSec with
      | none => (s.fail "angular_brake_export_failed", false)
      | some continuation =>
        ({ s with angularContinuation := continuation } : LivePreviewExecution K G B).renewBrakeId.sampleBrake sp bk

/-- The accepted angular certificate, while a contact stop may keep it. -/
def retainedAngular (s : LivePreviewExecution K G B) : Option (PreviewAngularContinuation K G B) :=
  match s.active with
  | none => none
  | some r =>
    let precision := s.config.feasibilityTolerance
    match r.trajectory.sample sp (s.acceptedSampleTimeSec - r.spliceAtSec) with
    | none => none
    | some source =>
      if s.acceptedEpoch ∧ r.identity.requestId = s.acceptedPlanId ∧ r.spliceAtSec ≤ s.acceptedSampleTimeSec ∧
          s.lastTime < r.validUntilSec ∧ sp.angle source.pose s.acceptedSample.pose ≤ precision ∧
          sp.norm (source.angularVelocityBody - s.acceptedSample.angularVelocityBody) ≤ precision ∧
          sp.norm (source.angularAccelerationBody - s.acceptedSample.angularAccelerationBody) ≤ precision then
        PreviewAngularContinuation.retainPolynomial sp r.trajectory r.spliceAtSec r.validUntilSec
      else none

/-- The state a brake starts from, and its time. -/
def brakeSeed (s : LivePreviewExecution K G B) : PreviewMotionState K G × K :=
  if s.acceptedEpoch then (s.acceptedSample, s.acceptedSampleTimeSec) else (s.cold, s.lastTime)

/-- The part of `beginBrake` that starts a new brake. -/
def startBrake (s : LivePreviewExecution K G B) (reason : String) (contactOnly : Bool) :
    LivePreviewExecution K G B × Bool :=
  let initial := s.brakeSeed.1
  let origin := s.brakeSeed.2
  if s.lastTime < origin ∨ s.config.maxResultAgeSec ≤ s.lastTime - origin then
    (({ s with brakeOriginSec := origin } : LivePreviewExecution K G B).fail "brake_stale_seed", false)
  else
    let kept := if contactOnly then s.retainedAngular sp else none
    let initial := if kept.isSome then
        { initial with angularVelocityBody := 0, angularAccelerationBody := 0 } else initial
    match bk.start initial with
    | .error status =>
      (({ s with brakeOriginSec := origin } : LivePreviewExecution K G B).fail (brakeFailure status), false)
    | .ok brake =>
      let r := ({ s with
        brakeOriginSec := origin
        angularContinuation := kept.getD .none
        brakeTrajectory := some brake } : LivePreviewExecution K G B).sampleBrake sp bk
      if r.2 then
        ({ r.1.renewBrakeId with brakeReason := reason, active := none, status := reason }, true)
      else r

def beginBrake (s : LivePreviewExecution K G B) (reason : String) (contactOnly : Bool) :
    LivePreviewExecution K G B × Bool :=
  if s.brakeTrajectory.isSome then
    let r := if contactOnly then (s, true) else s.beginAngularBrake sp bk
    if r.2 then
      ({ r.1 with brakeReason := reason, status := reason } : LivePreviewExecution K G B).sampleBrake sp bk
    else r
  else if ¬ s.initialized ∨ s.faulted then (s.fail "brake_no_epoch", false)
  else s.startBrake sp bk reason contactOnly

def contactGuardStopped (s : LivePreviewExecution K G B) : LivePreviewExecution K G B × Bool :=
  s.beginBrake sp bk "braking_contact" true

def requestStop (s : LivePreviewExecution K G B) (reason : String) : LivePreviewExecution K G B × Bool :=
  if s.stopping then (s, !s.faulted)
  else if ¬ s.initialized ∨ s.faulted then (s, false)
  else
    let r := ({ s with
      recoveryCause := none
      stopFaultReason := none
      gateRevision := s.gateRevision + 1
      staged := none } : LivePreviewExecution K G B).beginBrake sp bk reason false
    if r.2 then ({ r.1 with stopping := true }, true) else r

def requestRecovery (s : LivePreviewExecution K G B) (cause : Option PreviewRecoveryCause) :
    LivePreviewExecution K G B × Bool :=
  if ¬ s.config.recoveryEnable ∨ cause = none ∨ s.faulted ∨ ¬ s.initialized then (s, false)
  else if s.recovering then (s, true)
  else
    let r := ({ s with
      recoveryCause := cause
      gateRevision := s.gateRevision + 1
      staged := none
      stopFaultReason := none } : LivePreviewExecution K G B).beginBrake sp bk "recovery_braking" false
    if r.2 then ({ r.1 with status := "recovery_braking" }, true) else r

/-! ## Running down a brake -/

/-- The terminal sample of the brake has been dispatched. -/
def terminalAccepted (s : LivePreviewExecution K G B) : Bool :=
  match s.brakeTrajectory with
  | none => false
  | some b => s.acceptedEpoch && decide (s.acceptedPlanId = s.brakePlanId) &&
      s.angularContinuation.terminalHoldAvailableAt bk s.acceptedSampleTimeSec &&
      decide (b.durationSec bk ≤ s.acceptedSampleTimeSec - s.brakeOriginSec)

def stopComplete (s : LivePreviewExecution K G B) : Bool := s.stopping && s.terminalAccepted bk

def recoveryStopped (s : LivePreviewExecution K G B) : Bool := s.recovering && s.terminalAccepted bk

/-- `static_cast<double>(UINT64_MAX) / 1e9`. -/
def clockLimit : K := 2 ^ 64 / 10 ^ 9

/-- A usable time for a brake that is running down. -/
def brakeClock (s : LivePreviewExecution K G B) (now : Reading K) : Option K :=
  match now with
  | none => none
  | some t =>
    if s.faulted ∨ t ≤ 0 ∨ clockLimit ≤ t ∨ t < s.lastTime ∨ s.config.maxResultAgeSec ≤ t - s.lastTime then none
    else some t

/-- The shared body of `stopOutput` and `recoveryOutput`. -/
def brakeOutput (s : LivePreviewExecution K G B) (now : Option K) (failure : String)
    (statusOf : LivePreviewExecution K G B → String) : LivePreviewExecution K G B × LivePreviewOutput K G :=
  match now with
  | none => (s.fail failure, ⟨some s.sample.pose, false, true, failure⟩)
  | some t =>
    let r := ({ s with lastTime := t } : LivePreviewExecution K G B).sampleBrake sp bk
    if r.2 then
      let status := statusOf r.1
      ({ r.1 with status := status }, ⟨some r.1.sample.pose, true, false, status⟩)
    else (r.1, ⟨some s.sample.pose, false, true, r.1.status⟩)

def stopOutput (s : LivePreviewExecution K G B) (now : Reading K) :
    LivePreviewExecution K G B × LivePreviewOutput K G :=
  s.brakeOutput sp bk (if s.stopping then s.brakeClock now else none) "invalid_stop_state"
    fun s => if s.stopComplete bk then "source_stopped" else s.brakeReason

def recoveryOutput (s : LivePreviewExecution K G B) (now : Reading K) :
    LivePreviewExecution K G B × LivePreviewOutput K G :=
  s.brakeOutput sp bk (if s.recovering then s.brakeClock now else none) "invalid_recovery_state"
    fun s => if s.recoveryStopped bk then "recovery_hold" else "recovery_braking"

/-- The dispatched terminal state becomes the seed of the next epoch. -/
def restartRecovery (s : LivePreviewExecution K G B) : LivePreviewExecution K G B × Bool :=
  if s.recoveryStopped bk then
    ({ s.reset "recovery_restart" with recoverySeed := some s.acceptedSample }, true)
  else (s, false)

def seedStationaryRecovery (s : LivePreviewExecution K G B) (now : Reading K)
    (nominal : Option (StandPose K G)) (stationary : Bool) (cause : Option PreviewRecoveryCause) :
    LivePreviewExecution K G B × Bool :=
  match now, nominal with
  | some t, some x =>
    if ¬ s.config.recoveryEnable ∨ cause = none ∨ s.initialized ∨ s.faulted ∨ ¬ stationary ∨ t ≤ 0 ∨
        clockLimit ≤ t then (s, false)
    else
      ({ s with
        initialized := true
        initializedAt := t
        lastTime := t
        cold := .atRest x
        sample := .atRest x
        cursor := s.cursor.reset (some t) } : LivePreviewExecution K G B).requestRecovery sp bk cause
  | _, _ => (s, false)

/-! ## Folds and dispatch -/

/-- The fold of the eagerly moved state; the active plan is transported apart. -/
def foldState (s : LivePreviewExecution K G B) (f : Fold (Vec3 K) G) : LivePreviewExecution K G B :=
  { s with
    brakeTrajectory := s.brakeTrajectory.map (PreviewBrakeTrajectory.shiftCommonFrame f)
    angularContinuation := s.angularContinuation.shiftCommonFrame f
    cold := s.cold.shift f
    sample := s.sample.shift f
    recoverySeed := s.recoverySeed.map (PreviewMotionState.shift f)
    acceptedSample := if s.acceptedEpoch then s.acceptedSample.shift f else s.acceptedSample
    history := s.history.map fun e => (e.1, Kinematics.shift f e.2) }

/-- The new gauge; an untagged fold retires the authority. -/
def bookFold (s : LivePreviewExecution K G B) (f : Fold (Vec3 K) G) (cause : PreviewFoldCause) :
    LivePreviewExecution K G B :=
  { s with
    gateRevision := if cause = .unknown then s.gateRevision + 1 else s.gateRevision
    staged := if cause = .unknown then none else s.staged
    foldTranslation := s.foldTranslation + f.dp
    foldRotation := f.dR * s.foldRotation
    gaugeRevision := s.gaugeRevision + 1 }

/-- A fold that is not finite, or whose quaternion is zero, is `none`. -/
def shiftCommonFrame (s : LivePreviewExecution K G B) (fold : Option (Fold (Vec3 K) G))
    (cause : PreviewFoldCause) : LivePreviewExecution K G B :=
  if ¬ s.initialized ∧ s.recoverySeed = none then s
  else
    match fold with
    | none => s.fail "invalid_fold"
    | some f =>
      let s := s.bookFold f cause
      match s.active with
      | none => s.foldState f
      | some r =>
        match transportPreviewExecutionResult sp r s.gauge s.config.feasibilityTolerance with
        | none => s.fail "invalid_fold"
        | some r => ({ s with active := some r } : LivePreviewExecution K G B).foldState f

/-- The emitted pose with the overlay of its transaction taken off. -/
def withoutOverlay (nominal composed emitted : StandPose K G) : StandPose K G :=
  ⟨emitted.position - (composed.position - nominal.position),
    (composed.rotation * nominal.rotation⁻¹)⁻¹ * emitted.rotation⟩

/-- The tests of a dispatched transaction, by the text of the first that fails. -/
def dispatchFailure (s : LivePreviewExecution K G B) (tx : PreviewDispatchTransaction K G)
    (emitted : Option (StandPose K G)) (posTolerance rotTolerance : Reading K) : Option String :=
  match tx.nominal, tx.composed, emitted, posTolerance, rotTolerance with
  | some nominal, some composed, some emitted, some pos, some rot =>
    let pos := max pos s.config.dispatchAcceptancePositionToleranceM
    let rot := max rot s.config.dispatchAcceptanceRotationToleranceRad
    let precision := s.config.feasibilityTolerance
    let seen := withoutOverlay nominal composed emitted
    if tx.planId = 0 ∨ tx.sampleTimeSec ≤ 0 ∨ s.lastTime < tx.sampleTimeSec ∨
        tx.sampleTimeSec < s.acceptedSampleTimeSec ∨ pos ≤ 0 ∨ rot ≤ 0 then some "invalid_acceptance"
    else if precision < sp.norm (tx.motion.pose.position - nominal.position) ∨
        precision < sp.angle tx.motion.pose nominal then some "invalid_acceptance"
    else if pos < sp.norm (seen.position - nominal.position) ∨ rot < sp.angle seen nominal then
      some "accepted_deviation"
    else none
  | _, _, _, _, _ => some "invalid_acceptance"

/-- The dispatched sample, brought to the current gauge. -/
def acceptTransaction (s : LivePreviewExecution K G B) (tx : PreviewDispatchTransaction K G) :
    LivePreviewExecution K G B :=
  { s with
    acceptedSample := tx.motion.shift ⟨s.foldTranslation - tx.foldTranslation, s.foldRotation * tx.foldRotation⁻¹⟩
    acceptedSampleTimeSec := tx.sampleTimeSec
    acceptedPlanId := tx.planId
    acceptedEpoch := true }

def observeDispatch (s : LivePreviewExecution K G B) (tx : PreviewDispatchTransaction K G)
    (emitted : Option (StandPose K G)) (accepted : Bool) (posTolerance rotTolerance : Reading K) :
    LivePreviewExecution K G B × Bool :=
  if ¬ tx.valid ∨ tx.epoch ≠ s.epoch then (s, true)
  else if ¬ accepted then (s.fail "dispatch_rejected", false)
  else
    match s.dispatchFailure sp tx emitted posTolerance rotTolerance with
    | some reason => (s.fail reason, false)
    | none =>
      let s := s.acceptTransaction tx
      ({ s with stopTerminalDispatched := s.stopTerminalDispatched || s.stopComplete bk }, true)

end LivePreviewExecution

end RbServo
