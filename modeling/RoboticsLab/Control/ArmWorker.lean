import RoboticsLab.Control.AsyncSupervision
import RoboticsLab.Control.QueueSync

/-!
# `rb_servo/control/arm_worker.cpp`: the worker that owns one arm's send cadence

The servo loop refreshes a latest-wins mailbox (`enqueueServoJ`, `enqueueAsyncServoJ`); the worker
thread runs `tick` once per send period: it picks up a lifecycle command or a setpoint, hands the
setpoint to the backend, steps the queue-sync law and stores the results.  The backend's answers and
the clock readings of a tick are its input (`TickInput`).

The worker is generic in the setpoint `α`; `ServoSetpoint` says what it needs of one: the request
that goes to the backend, the blend of two, and a copy without deadline.
-/

namespace RbServo

/-! ## Setpoints -/

class ServoSetpoint (α : Type*) where
  request : α → SendServoJRequest Double
  blend : ℚ → α → α → α
  withoutDeadline : α → α

/-- The source's blend, on doubles. -/
def blendDoubles (frac : ℚ) (a b : SendServoJRequest Double) : SendServoJRequest Double :=
  { b with
    qTargetDeg := fun j =>
      (a.qTargetDeg j).add ((Double.fin frac).mul ((b.qTargetDeg j).sub (a.qTargetDeg j))) }

instance : Zero Double := ⟨.fin 0⟩

instance : ServoSetpoint (SendServoJRequest Double) where
  request r := r
  blend := blendDoubles
  withoutDeadline r := { r with deadlineNs := 0 }

/-! ## State -/

structure ArmWorkerOptions where
  sendPeriodNs : Nat := 0
  queueSync : QueueSync.QueueSyncConfig := {}
  interpolateSetpoints : Bool := false
  lifecycleQueueCapacity : Nat := 4
  async : AsyncOptions := {}

inductive ArmWorkerCommandKind
  | servoJ
  | resetFault
  | stop
  | setFreedrive
deriving DecidableEq

structure ArmWorkerCommand where
  kind : ArmWorkerCommandKind := .servoJ
  commandSeq : Nat := 0
  hostTimeNs : Nat := 0
  deadlineNs : Nat := 0
  freedriveOn : Bool := false
deriving DecidableEq

structure ArmWorkerTelemetry where
  workerCommandDropsTotal : Nat := 0
  workerPendingOverwritesTotal : Nat := 0
  workerLastDroppedSeq : Nat := 0
  workerLastEnqueuedSeq : Nat := 0
  workerLastDispatchedSeq : Nat := 0
  workerLastCompletedSeq : Nat := 0
  workerRepeatedSendsTotal : Nat := 0
  workerWireDispatchesTotal : Nat := 0
  workerLastWireSendStartNs : Nat := 0
  workerLastWireSendEndNs : Nat := 0
  workerInterpActive : Bool := false
  workerInterpDelaySetpoints : ℚ := 0
  workerInterpRebaseTotal : Nat := 0
  workerInterpHoldTotal : Nat := 0

/-- The three places a setpoint is cached in. -/
structure Setpoints (α : Type*) where
  pendingServoJ : Option α := none
  lastServoJ : Option α := none
  interp : SetpointInterpolator α

structure ArmWorker (α : Type*) where
  setpoints : Setpoints α
  lifecycleQueue : List ArmWorkerCommand := []
  sendSuppressed : Bool := false
  /-- Local to `run()`: what the previous tick observed. -/
  suppressedPrev : Bool := false
  /-- Local to `run()`. -/
  backendReady : Bool := false
  running : Bool := false
  stopRequested : Bool := false
  queueSync : QueueSync.QueueSyncController := {}
  queueSyncDecision : QueueSync.QueueSyncDecision := {}
  latestQueueAck : RbpodoQueueAckTelemetry := {}
  telemetry : ArmWorkerTelemetry := {}
  supervision : AsyncSupervision := {}
  lastSendResult : Option ArmSendResult := none

variable {α : Type*}

instance [Inhabited α] : Inhabited (Setpoints α) := ⟨{ interp := default }⟩

instance [Inhabited α] : Inhabited (ArmWorker α) := ⟨{ setpoints := default }⟩

def ownsCadence (opts : ArmWorkerOptions) : Bool := decide (0 < opts.sendPeriodNs)

/-! ## Results -/

def isExpired (request : SendServoJRequest Double) (nowNs : Nat) : Bool :=
  decide (0 < request.deadlineNs) && decide (request.deadlineNs ≤ nowNs)

def expiredResult (request : SendServoJRequest Double) (nowNs : Nat) : SendServoJResult :=
  rejectedSend request
    (backendError .commandTimeout "servo_j request expired before arm worker dispatch" ""
      "arm_worker_command_expired")
    (makeBackendTiming nowNs nowNs)

def deadlineMissedResult (request : SendServoJRequest Double) (timing : BackendTiming) :
    SendServoJResult :=
  rejectedSend request
    (backendError .commandTimeout "servo_j request completed after its command deadline" ""
      "arm_worker_send_result_timeout")
    timing

def notRunningResult (request : SendServoJRequest Double) (nowNs : Nat) : SendServoJResult :=
  rejectedSend request
    (backendError .suppressedByPolicy "servo_j request suppressed because arm worker is not running"
      "" "arm_worker_not_running")
    (makeBackendTiming nowNs nowNs)

def backendNotReadyResult (request : SendServoJRequest Double) (nowNs : Nat) : SendServoJResult :=
  rejectedSend request
    (backendError .suppressedByPolicy "servo_j request suppressed because arm backend is not ready"
      "" "arm_worker_backend_not_ready")
    (makeBackendTiming nowNs nowNs)

def armSendResult (request : SendServoJRequest Double) (result : SendServoJResult)
    (timing : BackendTiming) : ArmSendResult :=
  { request := request
    result :=
      if result.timing.startNs = 0 ∧ result.timing.endNs = 0 then { result with timing := timing }
      else result
    dispatchTiming := timing }

/-- `storeSendResultLocked`. -/
def storeSendResult (opts : ArmWorkerOptions) (w : ArmWorker α) (request : SendServoJRequest Double)
    (result : SendServoJResult) (timing : BackendTiming) : ArmWorker α :=
  { w with
    lastSendResult := some (armSendResult request result timing)
    telemetry := { w.telemetry with workerLastCompletedSeq := request.commandSeq }
    supervision := updateAsyncSendTelemetry opts.async w.supervision request result timing }

/-- `storeImmediateAsyncResultLocked`. -/
def storeImmediateAsyncResult (w : ArmWorker α) (request : SendServoJRequest Double)
    (result : SendServoJResult) (timing : BackendTiming) : ArmWorker α :=
  { w with lastSendResult := some (armSendResult request result timing) }

def storeReadResult (opts : ArmWorkerOptions) (w : ArmWorker α) (result : BackendReadResult)
    (observedNs : Nat) : ArmWorker α :=
  { w with supervision := updateAsyncReferenceSupervision opts.async w.supervision result observedNs }

/-! ## Enqueue -/

section Enqueue

variable [ServoSetpoint α]

open ServoSetpoint

/-- The mailbox already holds a setpoint of another client command. -/
def dropsCommand (w : ArmWorker α) (setpoint : α) : Bool :=
  w.setpoints.pendingServoJ.any fun p =>
    decide ((request p).commandSeq ≠ (request setpoint).commandSeq)

def noteOverwrite (w : ArmWorker α) (setpoint : α) : ArmWorkerTelemetry :=
  match w.setpoints.pendingServoJ with
  | none => w.telemetry
  | some p =>
    let overwritten := { w.telemetry with
      workerPendingOverwritesTotal := w.telemetry.workerPendingOverwritesTotal + 1 }
    if dropsCommand w setpoint then
      { overwritten with
        workerCommandDropsTotal := overwritten.workerCommandDropsTotal + 1
        workerLastDroppedSeq := (request p).commandSeq }
    else overwritten

/-- The setpoint goes to the mailbox and, with rate conversion on, to the interpolator. -/
def Setpoints.put (opts : ArmWorkerOptions) (s : Setpoints α) (setpoint : α) : Setpoints α :=
  { s with
    pendingServoJ := some setpoint
    interp := if opts.interpolateSetpoints && ownsCadence opts then s.interp.push setpoint
      else s.interp }

def acceptSetpoint (opts : ArmWorkerOptions) (w : ArmWorker α) (setpoint : α) : ArmWorker α :=
  { w with
    telemetry := { noteOverwrite w setpoint with
      workerLastEnqueuedSeq := (request setpoint).commandSeq }
    setpoints := w.setpoints.put opts setpoint }

def enqueueServoJ (opts : ArmWorkerOptions) (w : ArmWorker α) (setpoint : α) (nowNs : Nat) :
    ArmWorker α :=
  if !w.running then
    storeSendResult opts w (request setpoint) (notRunningResult (request setpoint) nowNs)
      (makeBackendTiming nowNs nowNs)
  else if isExpired (request setpoint) nowNs then
    storeSendResult opts w (request setpoint) (expiredResult (request setpoint) nowNs)
      (makeBackendTiming nowNs nowNs)
  else acceptSetpoint opts w setpoint

def enqueuedResult (opts : ArmWorkerOptions) (r : SendServoJRequest Double)
    (timing : BackendTiming) : SendServoJResult :=
  { acceptedSend r timing with
    ackPolicy := if opts.async.streamingMode = .socketSendSupervised then .disabled else .wait
    acceptanceSemantics := "async_enqueued" }

def enqueueAsyncServoJ (opts : ArmWorkerOptions) (w : ArmWorker α) (setpoint : α)
    (nowNs endNs : Nat) : ArmWorker α :=
  let r := request setpoint
  if !w.running then
    storeImmediateAsyncResult
      { w with
        supervision := noteAsyncDrop opts.async w.supervision r.commandSeq
          (notRunningResult r nowNs).error.name .fault }
      r (notRunningResult r nowNs) (makeBackendTiming nowNs nowNs)
  else if isExpired r nowNs then
    storeImmediateAsyncResult
      { w with
        supervision := noteAsyncDrop opts.async w.supervision r.commandSeq
          (expiredResult r nowNs).error.name .warning }
      r (expiredResult r nowNs) (makeBackendTiming nowNs nowNs)
  else
    let timing := makeBackendTiming nowNs endNs
    storeImmediateAsyncResult
      { acceptSetpoint opts w setpoint with
        supervision := noteAsyncEnqueue opts.async w.supervision r.commandSeq
          (dropsCommand w setpoint) }
      r (enqueuedResult opts r timing) timing

end Enqueue

/-- The error name of a refused lifecycle command, `none` when it is queued. -/
def enqueueLifecycleCommand (opts : ArmWorkerOptions) (w : ArmWorker α) (command : ArmWorkerCommand)
    (nowNs : Nat) : ArmWorker α × Option String :=
  let command := if command.hostTimeNs = 0 then { command with hostTimeNs := nowNs } else command
  if command.kind = .servoJ then (w, some "arm_worker_lifecycle_wrong_command_kind")
  else if !w.running then (w, some "arm_worker_lifecycle_not_running")
  else if 0 < command.deadlineNs ∧ command.deadlineNs ≤ nowNs then
    (w, some "arm_worker_lifecycle_command_expired")
  else if max opts.lifecycleQueueCapacity 1 ≤ w.lifecycleQueue.length then
    (w, some "arm_worker_lifecycle_queue_full")
  else ({ w with lifecycleQueue := w.lifecycleQueue ++ [command] }, none)

def setSendSuppressed (w : ArmWorker α) (suppressed : Bool) : ArmWorker α :=
  { w with sendSuppressed := suppressed }

/-- `start()` and the head of `run()`: the backend connects and initializes, and the results of
both are stored.  The caches of an earlier run stay. -/
def start (opts : ArmWorkerOptions) (w : ArmWorker α) (backendReady : Bool)
    (startupReads : List (BackendReadResult × Nat)) : ArmWorker α :=
  if w.running then w
  else startupReads.foldl (fun w read => storeReadResult opts w read.1 read.2)
    { w with
      stopRequested := false
      running := true
      suppressedPrev := false
      backendReady := backendReady }

def stop (w : ArmWorker α) : ArmWorker α :=
  if w.running then { w with stopRequested := true } else w

/-! ## One tick of `run()` -/

section Tick

variable [ServoSetpoint α] [Inhabited α]

open ServoSetpoint

/-- What the clock and the backend answer during a tick. -/
structure TickInput where
  nowNs : Nat
  lifecycleOk : Bool := false
  sendStartNs : Nat := 0
  sendEndNs : Nat := 0
  sendResult : SendServoJResult := {}
  silentNowNs : Nat := 0
  readResult : BackendReadResult := {}
  readObservedNs : Nat := 0

/-- Suppression entry drops every cached setpoint. -/
def Setpoints.dropAll (s : Setpoints α) : Setpoints α where
  pendingServoJ := none
  lastServoJ := none
  interp := s.interp.reset

def enterSuppression (w : ArmWorker α) : ArmWorker α :=
  { w with
    setpoints := w.setpoints.dropAll
    telemetry := { w.telemetry with
      workerInterpActive := w.setpoints.interp.reset.telemetry.active
      workerInterpDelaySetpoints := w.setpoints.interp.reset.telemetry.delaySetpoints } }

/-- The edge detection at the head of a tick. -/
def observeSuppression (w : ArmWorker α) : ArmWorker α :=
  { (if w.sendSuppressed && !w.suppressedPrev then enterSuppression w else w) with
    suppressedPrev := w.sendSuppressed }

/-- The send period over the nominal one, with the queue-sync trim. -/
def periodRatio (opts : ArmWorkerOptions) (w : ArmWorker α) : Double :=
  .fin ((opts.sendPeriodNs + w.queueSyncDecision.periodTrimUs * 1000) / opts.sendPeriodNs)

/-- Rate conversion: sample the pushed stream instead of taking the mailbox. -/
def pickupInterpolated (opts : ArmWorkerOptions) (w : ArmWorker α) : ArmWorker α × Option α :=
  let (interp, sampled) := w.setpoints.interp.sample blend (periodRatio opts w)
  let command := sampled.map withoutDeadline
  let dispatched := match w.setpoints.pendingServoJ with
    | some p => (request p).commandSeq
    | none => w.telemetry.workerLastDispatchedSeq
  ({ w with
      setpoints :=
        { pendingServoJ := none
          lastServoJ := command <|> w.setpoints.lastServoJ
          interp := interp }
      telemetry := { w.telemetry with
        workerLastDispatchedSeq := dispatched
        workerInterpActive := interp.telemetry.active
        workerInterpDelaySetpoints := interp.telemetry.delaySetpoints
        workerInterpRebaseTotal := interp.telemetry.rebaseTotal
        workerInterpHoldTotal := interp.telemetry.holdTotal } },
    command)

def pickupMailbox (opts : ArmWorkerOptions) (w : ArmWorker α) (setpoint : α) :
    ArmWorker α × Option α :=
  ({ w with
      setpoints := { w.setpoints with pendingServoJ := none, lastServoJ := some setpoint }
      telemetry := { w.telemetry with workerLastDispatchedSeq := (request setpoint).commandSeq }
      supervision := if asyncStreamingEnabled opts.async then
          { w.supervision with telemetry := { w.supervision.telemetry with
            workerBacklog := 0
            lastSentSeq := (request setpoint).commandSeq } }
        else w.supervision },
    some setpoint)

/-- An empty mailbox repeats the last setpoint. -/
def pickupRepeat (w : ArmWorker α) (setpoint : α) : ArmWorker α × Option α :=
  ({ w with telemetry := { w.telemetry with
      workerRepeatedSendsTotal := w.telemetry.workerRepeatedSendsTotal + 1 } },
    some (withoutDeadline setpoint))

/-- The setpoint of a tick without lifecycle command. -/
def pickupServoJ (opts : ArmWorkerOptions) (w : ArmWorker α) : ArmWorker α × Option α :=
  if w.sendSuppressed then (w, none)
  else if ownsCadence opts && opts.interpolateSetpoints && w.setpoints.interp.hasSetpoint then
    pickupInterpolated opts w
  else
    match w.setpoints.pendingServoJ, w.setpoints.lastServoJ with
    | some setpoint, _ => pickupMailbox opts w setpoint
    | none, some setpoint => if ownsCadence opts then pickupRepeat w setpoint else (w, none)
    | none, none => (w, none)

/-- Run a lifecycle command, unless its deadline passed. -/
def dispatchLifecycle (w : ArmWorker α) (command : ArmWorkerCommand) (input : TickInput) :
    ArmWorker α :=
  if 0 < command.deadlineNs ∧ command.deadlineNs ≤ input.nowNs then w
  else
    match command.kind with
    | .resetFault => { w with backendReady := w.backendReady || input.lifecycleOk }
    | .stop => { w with backendReady := w.backendReady && !input.lifecycleOk }
    | .setFreedrive => w
    | .servoJ => w

/-- Queue-sync step with the RBACK observation of a send. -/
def stepQueueSync (opts : ArmWorkerOptions) (w : ArmWorker α) (obs : QueueSync.Observation) :
    ArmWorker α :=
  { w with
    queueSync := (QueueSync.step opts.queueSync w.queueSync obs).1
    queueSyncDecision := (QueueSync.step opts.queueSync w.queueSync obs).2 }

/-- Hand the setpoint to the backend; the second component is what was handed over. -/
def dispatchServoJ (opts : ArmWorkerOptions) (w : ArmWorker α) (setpoint : α) (input : TickInput) :
    ArmWorker α × Option α :=
  let r := request setpoint
  if isExpired r input.nowNs then
    (storeSendResult opts w r (expiredResult r input.nowNs)
      (makeBackendTiming input.nowNs input.nowNs), none)
  else if !w.backendReady then
    (storeSendResult opts w r (backendNotReadyResult r input.nowNs)
      (makeBackendTiming input.nowNs input.nowNs), none)
  else
    let timing := makeBackendTiming input.sendStartNs input.sendEndNs
    let result := if isExpired r input.sendEndNs then deadlineMissedResult r timing
      else input.sendResult
    let w := storeSendResult opts w r result timing
    let w := { w with telemetry := { w.telemetry with
      workerWireDispatchesTotal := w.telemetry.workerWireDispatchesTotal + 1
      workerLastWireSendStartNs := input.sendStartNs
      workerLastWireSendEndNs := input.sendEndNs } }
    (if ownsCadence opts then
        { stepQueueSync opts w
            { streaming := true
              fillValid := result.queueAck.observed
              fill := result.queueAck.fill
              rbackSequence := result.queueAck.sequence
              nowNs := input.sendEndNs } with
          latestQueueAck := result.queueAck }
      else w,
      some setpoint)

def dispatchPicked (opts : ArmWorkerOptions) (w : ArmWorker α) (command : Option α)
    (input : TickInput) : ArmWorker α × Option α :=
  match command with
  | some setpoint => dispatchServoJ opts w setpoint input
  | none => (w, none)

/-- A cadence tick with the wire suppressed steps the law without a stream. -/
def stepSuppressed (opts : ArmWorkerOptions) (w : ArmWorker α) (input : TickInput) : ArmWorker α :=
  if ownsCadence opts && w.suppressedPrev then
    stepQueueSync opts w
      { streaming := false, fillValid := false, fill := -1, rbackSequence := 0
        nowNs := input.silentNowNs }
  else w

/-- The part of a tick between the pickup lock and the state read. -/
def dispatch (opts : ArmWorkerOptions) (w : ArmWorker α) (input : TickInput) :
    ArmWorker α × Option α :=
  match w.lifecycleQueue with
  | command :: queue =>
    (dispatchLifecycle { w with lifecycleQueue := queue } command input, none)
  | [] =>
    let picked := pickupServoJ opts w
    let sent := dispatchPicked opts picked.1 picked.2 input
    (stepSuppressed opts sent.1 input, sent.2)

/-- The worker thread leaves `run()`. -/
def exitRun (w : ArmWorker α) : ArmWorker α :=
  { w with
    running := false
    setpoints := { w.setpoints with pendingServoJ := none }
    lifecycleQueue := [] }

/-- One pass of the loop in `run()`; the second component is the servo_j handed to the backend. -/
def tick (opts : ArmWorkerOptions) (w : ArmWorker α) (input : TickInput) : ArmWorker α × Option α :=
  if !w.running then (w, none)
  else if w.stopRequested then (exitRun w, none)
  else
    let sent := dispatch opts (observeSuppression w) input
    (storeReadResult opts sent.1 input.readResult input.readObservedNs, sent.2)

/-! ## Runs -/

/-- What the servo loop, the operator and the worker thread do to a worker. -/
inductive WorkerOp (α : Type*)
  | enqueueServoJ (setpoint : α) (nowNs : Nat)
  | enqueueAsyncServoJ (setpoint : α) (nowNs endNs : Nat)
  | enqueueLifecycleCommand (command : ArmWorkerCommand) (nowNs : Nat)
  | setSendSuppressed (suppressed : Bool)
  | start (backendReady : Bool) (startupReads : List (BackendReadResult × Nat))
  | stop
  | tick (input : TickInput)

def ArmWorker.step (opts : ArmWorkerOptions) (w : ArmWorker α) : WorkerOp α → ArmWorker α
  | .enqueueServoJ setpoint nowNs => RbServo.enqueueServoJ opts w setpoint nowNs
  | .enqueueAsyncServoJ setpoint nowNs endNs =>
    RbServo.enqueueAsyncServoJ opts w setpoint nowNs endNs
  | .enqueueLifecycleCommand command nowNs =>
    (RbServo.enqueueLifecycleCommand opts w command nowNs).1
  | .setSendSuppressed suppressed => RbServo.setSendSuppressed w suppressed
  | .start backendReady startupReads => RbServo.start opts w backendReady startupReads
  | .stop => RbServo.stop w
  | .tick input => (RbServo.tick opts w input).1

/-- The worker after a run from its construction. -/
def workerAfter (opts : ArmWorkerOptions) (ops : List (WorkerOp α)) : ArmWorker α :=
  ops.foldl (ArmWorker.step opts) default

@[simp] theorem workerAfter_concat (opts : ArmWorkerOptions) (ops : List (WorkerOp α))
    (op : WorkerOp α) : workerAfter opts (ops ++ [op]) = (workerAfter opts ops).step opts op := by
  simp [workerAfter]

end Tick

end RbServo
