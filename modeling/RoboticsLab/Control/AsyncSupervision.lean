import RoboticsLab.Control.BackendResult

/-!
# Async-streaming supervision of an arm worker

`updateAsyncSendTelemetryLocked`, `updateAsyncReferenceSupervisionLocked` and `noteAsyncDropLocked`
of `rb_servo/control/arm_worker.cpp`: counters and a supervision state that the result of every
dispatch and of every state read moves.
-/

namespace RbServo

inductive RbpodoAsyncStreamingMode
  | disabled
  | sdkAckWorker
  | socketSendSupervised
deriving DecidableEq

inductive SupervisionState
  | ok
  | warning
  | fault
deriving DecidableEq

inductive CommandPhase
  | unset
  | warmup
  | tracking
  | hold
deriving DecidableEq

/-- The options the supervision reads. -/
structure AsyncOptions where
  streamingEnabled : Bool := false
  streamingMode : RbpodoAsyncStreamingMode := .disabled
  timingRejectToleranceEnabled : Bool := false
  missingAckFaultAfterMs : Double := .fin 100
  maxConsecutiveMissingAck : Int := 10
  referenceSupervisionEnable : Bool := true
  qRefUpdateTimeoutMs : Double := .fin 50
  qRefTargetToleranceDeg : Double := .fin 1

def asyncStreamingEnabled (opts : AsyncOptions) : Bool :=
  opts.streamingEnabled && decide (opts.streamingMode ≠ .disabled)

/-- `static_cast<uint64_t>(max_consecutive_missing_ack)`. -/
def missingAckLimit (opts : AsyncOptions) : Nat := (opts.maxConsecutiveMissingAck % 2 ^ 64).toNat

/-- `RbpodoAsyncStreamingTelemetry`, without the columns that the servo loop fills. -/
structure AsyncTelemetry where
  commandsEnqueuedTotal : Nat := 0
  commandsSentTotal : Nat := 0
  commandsAckedTotal : Nat := 0
  commandsSocketSentTotal : Nat := 0
  commandsDroppedTotal : Nat := 0
  commandsOverwrittenTotal : Nat := 0
  ackTimeoutCount : Nat := 0
  missingAckCount : Nat := 0
  qRefWatchdogMissCount : Nat := 0
  lastCommandSeq : Nat := 0
  lastSentSeq : Nat := 0
  lastAckSeq : Nat := 0
  firstWorkerSendNs : Nat := 0
  lastWorkerSendNs : Nat := 0
  lastQRefUpdateHostTimeNs : Nat := 0
  lastSocketSendHostTimeNs : Nat := 0
  lastAsyncSendDurationUs : Double := .fin 0
  lastAsyncAckDurationUs : Double := .fin 0
  maxAsyncSendDurationUs : Double := .fin 0
  maxAsyncAckDurationUs : Double := .fin 0
  lastControllerAcceptanceSemantics : String := ""
  lastAsyncAcceptanceSemantics : String := ""
  commandPhase : CommandPhase := .unset
  lastSendResult : String := ""
  lastAckResult : String := ""
  lastFailure : String := ""
  workerBacklog : Nat := 0
  maxPendingAgeMsObserved : Double := .fin 0
  supervisionState : SupervisionState := .ok

/-- The async telemetry with the memory its updates use. -/
structure AsyncSupervision where
  telemetry : AsyncTelemetry := {}
  lastAsyncSentRequest : Option (SendServoJRequest Double) := none
  lastAsyncQRefDeg : Option JointArray := none
  lastAsyncReferenceFaultSampleNs : Nat := 0
  consecutiveAsyncTimingRejects : Nat := 0

def AsyncSupervision.state (a : AsyncSupervision) : SupervisionState := a.telemetry.supervisionState

def AsyncSupervision.setState (a : AsyncSupervision) (s : SupervisionState) : AsyncSupervision :=
  { a with telemetry := { a.telemetry with supervisionState := s } }

/-- Move to `s` unless the state is Fault: the guard most of the writers use. -/
def AsyncSupervision.setUnlessFault (a : AsyncSupervision) (s : SupervisionState) :
    AsyncSupervision :=
  if a.state = .fault then a else a.setState s

/-! ## Helpers -/

def finiteJointArray (joints : JointArray) : Bool := decide (∀ j, (joints j).isFinite = true)

/-- The largest joint distance; infinite when some joint is not finite. -/
def maxAbsJointDelta (a b : JointArray) : Double :=
  if finiteJointArray a && finiteJointArray b then
    (List.finRange kDof).foldl (fun m j => Double.max m ((a j).sub (b j)).abs) (.fin 0)
  else .posInf

def timeoutLikeError (kind : BackendErrorKind) : Bool :=
  decide (kind = .transportTimeout) || decide (kind = .commandTimeout)

def errorSummary (error : BackendError) : String :=
  if error.name = "" then error.kind.toString else error.name

def sendResultSummary (result : SendServoJResult) : String :=
  if result.accepted then
    if result.acceptanceSemantics = "" then "accepted" else result.acceptanceSemantics
  else errorSummary result.error

def updateMax (value target : Double) : Double := if value.isFinite then Double.max target value else target

/-! ## Algorithm -/

/-- The result comes from a backend call, not from a check before it. -/
def backendAttempted (result : SendServoJResult) : Bool :=
  decide (result.error.name ≠ "arm_worker_command_expired") &&
    decide (result.error.name ≠ "arm_worker_backend_not_ready") &&
    decide (result.error.name ≠ "arm_worker_not_running")

def recordFailure (a : AsyncSupervision) (error : BackendError) : AsyncSupervision :=
  { a with telemetry := { a.telemetry with
      commandsDroppedTotal := a.telemetry.commandsDroppedTotal + 1
      lastFailure := errorSummary error
      ackTimeoutCount := a.telemetry.ackTimeoutCount + if timeoutLikeError error.kind then 1 else 0 } }

/-- A command that no backend call was made for. -/
def recordNotAttempted (a : AsyncSupervision) (result : SendServoJResult) : AsyncSupervision :=
  (recordFailure a result.error).setState
    (if result.error.name = "arm_worker_backend_not_ready" then .fault else .warning)

def pendingAgeMs (request : SendServoJRequest Double) (timing : BackendTiming) : ℚ :=
  if 0 < request.hostTimeNs ∧ request.hostTimeNs ≤ timing.startNs then
    (timing.startNs - request.hostTimeNs : Nat) / 1000000
  else 0

/-- Counters, times and command phase of an attempted send. -/
def recordSent (a : AsyncSupervision) (request : SendServoJRequest Double)
    (result : SendServoJResult) (timing : BackendTiming) : AsyncSupervision :=
  let startNs := if 0 < timing.startNs then timing.startNs else result.timing.startNs
  let endNs := if 0 < timing.endNs then timing.endNs else result.timing.endNs
  { a with
    telemetry := { a.telemetry with
      commandsSentTotal := a.telemetry.commandsSentTotal + 1
      lastSentSeq := request.commandSeq
      lastSendResult := sendResultSummary result
      lastAsyncSendDurationUs := timing.durationUs
      maxAsyncSendDurationUs := updateMax timing.durationUs a.telemetry.maxAsyncSendDurationUs
      firstWorkerSendNs :=
        if 0 < startNs ∧ a.telemetry.firstWorkerSendNs = 0 then startNs
        else a.telemetry.firstWorkerSendNs
      lastWorkerSendNs := if 0 < endNs then endNs else a.telemetry.lastWorkerSendNs
      commandPhase :=
        match a.lastAsyncSentRequest with
        | none => .warmup
        | some last =>
          if Double.lt (.fin (1 / 10000000)) (maxAbsJointDelta request.qTargetDeg last.qTargetDeg)
          then .tracking else .hold
      maxPendingAgeMsObserved :=
        Double.max a.telemetry.maxPendingAgeMsObserved (.fin (pendingAgeMs request timing)) }
    lastAsyncSentRequest := some request }

def socketSendOnly (result : SendServoJResult) : Bool :=
  decide (result.acceptanceSemantics = "socket_send_only") || decide (result.ackPolicy = .disabled)

def ackObserved (result : SendServoJResult) : Bool :=
  result.accepted && (result.controllerAcceptanceObserved || result.ackObserved ||
    decide (result.acceptanceSemantics = "controller_ack_observed"))

def recordSocketSend (a : AsyncSupervision) (timing : BackendTiming) : AsyncSupervision :=
  { a with
    telemetry := { a.telemetry with
      missingAckCount := 0
      commandsSocketSentTotal := a.telemetry.commandsSocketSentTotal + 1
      lastSocketSendHostTimeNs := timing.endNs
      lastAsyncAcceptanceSemantics := "socket_send_only"
      lastControllerAcceptanceSemantics := "socket_send_only" }
    consecutiveAsyncTimingRejects := 0 }

def recordAck (a : AsyncSupervision) (request : SendServoJRequest Double)
    (result : SendServoJResult) (timing : BackendTiming) : AsyncSupervision :=
  let ackUs := if Double.lt (.fin 0) result.ackWaitDurationUs then result.ackWaitDurationUs
    else timing.durationUs
  let semantics := if result.acceptanceSemantics = "" then "controller_ack_observed"
    else result.acceptanceSemantics
  { a with
    telemetry := { a.telemetry with
      missingAckCount := 0
      commandsAckedTotal := a.telemetry.commandsAckedTotal + 1
      lastAckSeq := request.commandSeq
      lastAsyncAckDurationUs := ackUs
      maxAsyncAckDurationUs := updateMax ackUs a.telemetry.maxAsyncAckDurationUs
      lastAckResult := sendResultSummary result
      lastAsyncAcceptanceSemantics := semantics
      lastControllerAcceptanceSemantics := semantics }
    consecutiveAsyncTimingRejects := 0 }

def recordMissingAck (opts : AsyncOptions) (a : AsyncSupervision) : AsyncSupervision :=
  let a := { a with telemetry := { a.telemetry with
    missingAckCount := a.telemetry.missingAckCount + 1 } }
  if missingAckLimit opts ≤ a.telemetry.missingAckCount then
    { a.setState .fault with
      telemetry := { (a.setState .fault).telemetry with lastFailure := "async_sdk_ack_missing" } }
  else a.setUnlessFault .warning

/-- Socket send, observed acknowledgement, or a missing one. -/
def recordAcceptance (opts : AsyncOptions) (a : AsyncSupervision)
    (request : SendServoJRequest Double) (result : SendServoJResult) (timing : BackendTiming) :
    AsyncSupervision :=
  if socketSendOnly result && result.accepted then recordSocketSend a timing
  else if ackObserved result then recordAck a request result timing
  else if opts.streamingMode = .sdkAckWorker then recordMissingAck opts a
  else a

def recordRejection (opts : AsyncOptions) (a : AsyncSupervision) (result : SendServoJResult) :
    AsyncSupervision :=
  let a := recordFailure a result.error
  if opts.timingRejectToleranceEnabled && decide (result.error.kind = .commandTimeout) then
    let rejects := a.consecutiveAsyncTimingRejects + 1
    let a := { a with
      consecutiveAsyncTimingRejects := rejects
      telemetry := { a.telemetry with missingAckCount := max a.telemetry.missingAckCount rejects } }
    if missingAckLimit opts ≤ rejects then a.setState .fault else a.setUnlessFault .warning
  else { a.setState .fault with consecutiveAsyncTimingRejects := 0 }

/-- An accepted send clears a warning. -/
def recordAccepted (a : AsyncSupervision) : AsyncSupervision :=
  if a.state = .fault then a else { a.setState .ok with consecutiveAsyncTimingRejects := 0 }

/-- `ArmWorker::updateAsyncSendTelemetryLocked`. -/
def updateAsyncSendTelemetry (opts : AsyncOptions) (a : AsyncSupervision)
    (request : SendServoJRequest Double) (result : SendServoJResult) (timing : BackendTiming) :
    AsyncSupervision :=
  if !asyncStreamingEnabled opts then a
  else if !backendAttempted result then recordNotAttempted a result
  else
    let a := recordAcceptance opts (recordSent a request result timing) request result timing
    if !result.accepted then recordRejection opts a result else recordAccepted a

def referenceBaseNs (a : AsyncSupervision) (sent : SendServoJRequest Double) : Nat :=
  if 0 < a.telemetry.lastQRefUpdateHostTimeNs then a.telemetry.lastQRefUpdateHostTimeNs
  else sent.hostTimeNs

/-- The watchdog part of the reference supervision. -/
def referenceWatchdog (opts : AsyncOptions) (a : AsyncSupervision)
    (sent : SendServoJRequest Double) (observedNs : Nat) : AsyncSupervision :=
  let baseNs := referenceBaseNs a sent
  if baseNs = 0 ∨ observedNs < baseNs then a
  else
    let ageMs := Double.fin ((observedNs - baseNs : Nat) / 1000000)
    if ageMs.lt opts.qRefUpdateTimeoutMs then a
    else if a.lastAsyncReferenceFaultSampleNs = observedNs then a
    else
      let a := { a with
        lastAsyncReferenceFaultSampleNs := observedNs
        telemetry := { a.telemetry with
          qRefWatchdogMissCount := a.telemetry.qRefWatchdogMissCount + 1
          lastFailure := "async_q_ref_watchdog_miss" } }
      if opts.missingAckFaultAfterMs.le ageMs || decide (opts.streamingMode = .socketSendSupervised)
      then a.setState .fault
      else a.setUnlessFault .warning

/-- The reference moved since the last valid reading. -/
def qRefChanged (a : AsyncSupervision) (qRefDeg : JointArray) : Bool :=
  match a.lastAsyncQRefDeg with
  | none => true
  | some last => Double.lt (.fin (1 / 1000000)) (maxAbsJointDelta qRefDeg last)

def recordReference (a : AsyncSupervision) (qRefDeg : JointArray) (observedNs : Nat) :
    AsyncSupervision :=
  if qRefChanged a qRefDeg then
    { a with
      lastAsyncQRefDeg := some qRefDeg
      telemetry := { a.telemetry with lastQRefUpdateHostTimeNs := observedNs } }
  else a

def noteReferenceLag (a : AsyncSupervision) : AsyncSupervision :=
  { a with telemetry := { a.telemetry with lastFailure := "async_q_ref_target_lag" } }

def qRefReadable (result : BackendReadResult) : Bool :=
  result.ok && (result.value.qRefValid || result.value.hasValidJointState) &&
    finiteJointArray result.value.qTargetDeg

/-- `ArmWorker::updateAsyncReferenceSupervisionLocked`. -/
def updateAsyncReferenceSupervision (opts : AsyncOptions) (a : AsyncSupervision)
    (result : BackendReadResult) (observedNs : Nat) : AsyncSupervision :=
  match a.lastAsyncSentRequest with
  | none => a
  | some sent =>
    if !asyncStreamingEnabled opts || !opts.referenceSupervisionEnable then a
    else if qRefReadable result then
      let q := result.value.qTargetDeg
      if (maxAbsJointDelta q sent.qTargetDeg).le opts.qRefTargetToleranceDeg then
        (recordReference a q observedNs).setUnlessFault .ok
      else if qRefChanged a q && decide (opts.streamingMode = .sdkAckWorker) then
        (noteReferenceLag (recordReference a q observedNs)).setUnlessFault .warning
      else referenceWatchdog opts (recordReference a q observedNs) sent observedNs
    else referenceWatchdog opts a sent observedNs

/-- `ArmWorker::noteAsyncDropLocked`. -/
def noteAsyncDrop (opts : AsyncOptions) (a : AsyncSupervision) (seq : Nat) (reason : String)
    (state : SupervisionState) : AsyncSupervision :=
  if !asyncStreamingEnabled opts then a
  else
    let a := { a with telemetry := { a.telemetry with
      commandsDroppedTotal := a.telemetry.commandsDroppedTotal + 1
      lastCommandSeq := seq
      lastFailure := reason } }
    if state = .fault ∨ a.state ≠ .fault then a.setState state else a

/-- The async part of an accepted `enqueueAsyncServoJ`. -/
def noteAsyncEnqueue (opts : AsyncOptions) (a : AsyncSupervision) (seq : Nat)
    (commandDropped : Bool) : AsyncSupervision :=
  if !asyncStreamingEnabled opts then a
  else
    let a := { a with telemetry := { a.telemetry with
      commandsEnqueuedTotal := a.telemetry.commandsEnqueuedTotal + 1
      lastCommandSeq := seq
      workerBacklog := 1 } }
    let a := if commandDropped then
        { a with telemetry := { a.telemetry with
          commandsOverwrittenTotal := a.telemetry.commandsOverwrittenTotal + 1
          commandsDroppedTotal := a.telemetry.commandsDroppedTotal + 1
          lastFailure := "async_latest_wins_overwrite" } }
      else a
    a.setUnlessFault .ok

end RbServo
