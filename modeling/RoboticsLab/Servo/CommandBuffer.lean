import RoboticsLab.Lib.Binary64
import RoboticsLab.Lib.Fifo
import RoboticsLab.Lib.Runs
import RoboticsLab.Servo.Types

/-!
# `rb_servo/control/command_buffer.cpp`: the slot between the command socket and the control loop

A buffer holds the latest command, a bounded queue of lifecycle commands and a side slot for
external boxes.  `latestOrHold` serves the queue first, skipping entries whose timeout passed, then
the latest command, and falls back to a Hold.  `ReadStep` says everything one read can do:

    ReadStep b now (latestOrHold b now).1 (latestOrHold b now).2.1          (latestOrHold_step)
-/

namespace RbServo

/-! ## Predicates on commands -/

def makeHold (nowNs : Nat) : DualArmCommand :=
  { hostTimeNs := nowNs
    left := { armId := .left, mode := .hold }
    right := { armId := .right, mode := .hold } }

def validTimeout (timeoutSec : Double) : Bool := Double.lt (.fin 0) timeoutSec && timeoutSec.isFinite

def commandTimeoutMs (command : DualArmCommand) : Double :=
  if !validTimeout command.left.timeoutSec || !validTimeout command.right.timeoutSec then .nan
  else ((Double.min command.left.timeoutSec command.right.timeoutSec).mul (.fin 1000)).round

def commandAgeMs (command : DualArmCommand) (nowNs : Nat) : Double :=
  if command.hostTimeNs = 0 ∨ nowNs < command.hostTimeNs then .nan
  else .ofNatDiv (nowNs - command.hostTimeNs) 1000000

def clientSendAgeMs (command : DualArmCommand) (nowNs : Nat) : Double :=
  if command.hasClientSendMonotonicNs = false ∨ command.clientSendMonotonicNs = 0 ∨
      nowNs < command.clientSendMonotonicNs then .nan
  else .ofNatDiv (nowNs - command.clientSendMonotonicNs) 1000000

def isLifecycleMode : ControlMode → Bool
  | .armMotion | .disarmMotion | .emergencyStop | .resetFault | .freedrive => true
  | _ => false

def isLifecycleCommand (command : DualArmCommand) : Bool :=
  isLifecycleMode command.left.mode || isLifecycleMode command.right.mode

def isExternalBoxesCommand (command : DualArmCommand) : Bool :=
  command.left.mode = .setExternalBoxes || command.right.mode = .setExternalBoxes

/-- The command's own timeout, the smaller of the two arms', as `static_cast<uint64_t>` has it. -/
def commandTimeoutNs (command : DualArmCommand) : Nat :=
  ((Double.min command.left.timeoutSec command.right.timeoutSec).mul (.fin 1000000000)).round.toU64

def isUsableCommand (command : DualArmCommand) (nowNs : Nat) : Bool :=
  if !validTimeout command.left.timeoutSec || !validTimeout command.right.timeoutSec then false
  else decide (command.hostTimeNs = 0) ||
    decide (nowNs ≤ addU64 command.hostTimeNs (commandTimeoutNs command))

/-! ## Read telemetry -/

inductive ReadResult
  | unset
  | lifecycle
  | staleLifecycleSkipped
  | noLatestHold
  | staleLatestHold
  | invalidTimeoutLatestHold
  | latestAfterStaleLifecycle
  | latest
deriving DecidableEq

/-- One group of the telemetry's columns (`returned_*`, `latest_*`, `lifecycle_*`,
`external_boxes_*`).  The timeout columns exist for `latest` and `lifecycle`, the client age for
the others; an absent column keeps its default. -/
structure RecordedCommand where
  seq : Nat := 0
  leftMode : ControlMode := .hold
  rightMode : ControlMode := .hold
  hostTimeNs : Nat := 0
  ageMs : Double := .nan
  timeoutMs : Double := .nan
  timeoutValid : Bool := false
  usable : Bool := false
  clientSendAgeMs : Double := .nan
deriving DecidableEq

structure CommandBufferReadTelemetry where
  result : ReadResult := .unset
  pendingLifecycleCount : Nat := 0
  skippedLifecycleCount : Nat := 0
  externalBoxesPending : Bool := false
  externalBoxesConsumed : Bool := false
  externalBoxes : RecordedCommand := {}
  returned : RecordedCommand := {}
  latest : RecordedCommand := {}
  lifecycle : RecordedCommand := {}
deriving DecidableEq

def recordedCommand (command : DualArmCommand) (nowNs : Nat) : RecordedCommand :=
  { seq := command.seq
    leftMode := command.left.mode
    rightMode := command.right.mode
    hostTimeNs := command.hostTimeNs
    ageMs := commandAgeMs command nowNs }

def recordReturned (telemetry : CommandBufferReadTelemetry) (command : DualArmCommand) (nowNs : Nat) :
    CommandBufferReadTelemetry :=
  { telemetry with
    returned := { recordedCommand command nowNs with
      clientSendAgeMs := clientSendAgeMs command nowNs } }

def recordedSlot (command : DualArmCommand) (nowNs : Nat) : RecordedCommand :=
  { recordedCommand command nowNs with
    timeoutMs := commandTimeoutMs command
    timeoutValid := validTimeout command.left.timeoutSec && validTimeout command.right.timeoutSec
    usable := isUsableCommand command nowNs }

def recordLatest (telemetry : CommandBufferReadTelemetry) (command : DualArmCommand) (nowNs : Nat) :
    CommandBufferReadTelemetry :=
  { telemetry with
    latest := { recordedSlot command nowNs with clientSendAgeMs := clientSendAgeMs command nowNs } }

def recordLifecycle (telemetry : CommandBufferReadTelemetry) (command : DualArmCommand)
    (nowNs : Nat) : CommandBufferReadTelemetry :=
  { telemetry with lifecycle := recordedSlot command nowNs }

def recordExternalBoxes (telemetry : CommandBufferReadTelemetry) (command : DualArmCommand)
    (nowNs : Nat) : CommandBufferReadTelemetry :=
  { telemetry with
    externalBoxesConsumed := true
    externalBoxes := { recordedCommand command nowNs with
      clientSendAgeMs := clientSendAgeMs command nowNs } }

/-! ## Algorithm -/

structure CommandBuffer where
  latestCommand : Option DualArmCommand := none
  pendingExternalBoxesCommand : Option DualArmCommand := none
  pendingLifecycleCommands : List DualArmCommand := []
  lastExternalBoxReceiveNs : Nat := 0

def kMaxPendingLifecycleCommands : Nat := 16

def setCommand (b : CommandBuffer) (command : DualArmCommand) : CommandBuffer :=
  if isExternalBoxesCommand command then { b with pendingExternalBoxesCommand := some command }
  else if isLifecycleCommand command then
    { b with
      pendingLifecycleCommands :=
        Fifo.push kMaxPendingLifecycleCommands b.pendingLifecycleCommands command
      latestCommand := some (makeHold command.hostTimeNs) }
  else { b with latestCommand := some command }

def updateLease (b : CommandBuffer) (lease : CommandSourceLeaseState) (nowNs : Nat) : CommandBuffer :=
  let carrier :=
    match b.latestCommand with
    | some command => if isUsableCommand command nowNs then command else makeHold 0
    | none => makeHold 0
  { b with latestCommand := some { carrier with lease := lease } }

def noteExternalBoxReceived (b : CommandBuffer) (receiveTimeNs : Nat) : CommandBuffer :=
  { b with lastExternalBoxReceiveNs := receiveTimeNs }

/-- The telemetry of the skipped and served entries of the lifecycle queue. -/
def recordQueue (nowNs : Nat) : CommandBufferReadTelemetry → List DualArmCommand →
    CommandBufferReadTelemetry
  | telemetry, [] => telemetry
  | telemetry, command :: queue =>
    let telemetry := recordLifecycle telemetry command nowNs
    if isUsableCommand command nowNs then
      recordReturned { telemetry with result := .lifecycle } command nowNs
    else
      recordQueue nowNs
        { telemetry with
          result := .staleLifecycleSkipped
          skippedLifecycleCount := telemetry.skippedLifecycleCount + 1 } queue

/-- The new buffer, the command that is returned, and the telemetry. -/
def latestOrHold (b : CommandBuffer) (nowNs : Nat) :
    CommandBuffer × DualArmCommand × CommandBufferReadTelemetry :=
  let telemetry : CommandBufferReadTelemetry :=
    { pendingLifecycleCount := b.pendingLifecycleCommands.length
      externalBoxesPending := b.pendingExternalBoxesCommand.isSome }
  let (served, queue) := Fifo.take (isUsableCommand · nowNs) b.pendingLifecycleCommands
  let telemetry := recordQueue nowNs telemetry b.pendingLifecycleCommands
  let b := { b with pendingLifecycleCommands := queue }
  match served with
  | some command => (b, command, telemetry)
  | none =>
    match b.latestCommand with
    | none =>
      let hold := makeHold nowNs
      (b, hold, recordReturned { telemetry with result := .noLatestHold } hold nowNs)
    | some command =>
      let telemetry := recordLatest telemetry command nowNs
      if isUsableCommand command nowNs then
        let result := if 0 < telemetry.skippedLifecycleCount then .latestAfterStaleLifecycle
          else .latest
        (b, command, recordReturned { telemetry with result := result } command nowNs)
      else
        let hold := { makeHold nowNs with lease := command.lease }
        let result := if telemetry.latest.timeoutValid then .staleLatestHold
          else .invalidTimeoutLatestHold
        (b, hold, recordReturned { telemetry with result := result } hold nowNs)

def consumeLatestExternalBoxes (b : CommandBuffer) (nowNs : Nat)
    (telemetry : CommandBufferReadTelemetry) :
    CommandBuffer × Option DualArmCommand × CommandBufferReadTelemetry :=
  let telemetry :=
    { telemetry with
      externalBoxesPending :=
        telemetry.externalBoxesPending || b.pendingExternalBoxesCommand.isSome }
  match b.pendingExternalBoxesCommand with
  | none => (b, none, telemetry)
  | some command =>
    ({ b with pendingExternalBoxesCommand := none }, some command,
      recordExternalBoxes telemetry command nowNs)

/-- The command a read returns. -/
def CommandBuffer.read (b : CommandBuffer) (nowNs : Nat) : DualArmCommand := (latestOrHold b nowNs).2.1

/-! ## What one read can do -/

inductive ReadStep (b : CommandBuffer) (nowNs : Nat) : CommandBuffer → DualArmCommand → Prop
  | lifecycle (skipped : List DualArmCommand) (command : DualArmCommand) (rest : List DualArmCommand)
      (hq : b.pendingLifecycleCommands = skipped ++ command :: rest)
      (hskip : ∀ c ∈ skipped, isUsableCommand c nowNs = false)
      (hu : isUsableCommand command nowNs = true) :
      ReadStep b nowNs { b with pendingLifecycleCommands := rest } command
  | empty (hskip : ∀ c ∈ b.pendingLifecycleCommands, isUsableCommand c nowNs = false)
      (hl : b.latestCommand = none) :
      ReadStep b nowNs { b with pendingLifecycleCommands := [] } (makeHold nowNs)
  | latest (command : DualArmCommand)
      (hskip : ∀ c ∈ b.pendingLifecycleCommands, isUsableCommand c nowNs = false)
      (hl : b.latestCommand = some command) (hu : isUsableCommand command nowNs = true) :
      ReadStep b nowNs { b with pendingLifecycleCommands := [] } command
  | stale (command : DualArmCommand)
      (hskip : ∀ c ∈ b.pendingLifecycleCommands, isUsableCommand c nowNs = false)
      (hl : b.latestCommand = some command) (hu : isUsableCommand command nowNs = false) :
      ReadStep b nowNs { b with pendingLifecycleCommands := [] }
        { makeHold nowNs with lease := command.lease }

/-- **One read.**  Every behaviour of `latestOrHold` is one of the four. -/
theorem latestOrHold_step (b : CommandBuffer) (nowNs : Nat) :
    ReadStep b nowNs (latestOrHold b nowNs).1 (b.read nowNs) := by
  unfold CommandBuffer.read latestOrHold
  rcases Fifo.take_cases (isUsableCommand · nowNs) b.pendingLifecycleCommands with
    ⟨skipped, command, rest, hq, hskip, hu, ht⟩ | ⟨hskip, ht⟩
  · rw [ht]
    exact .lifecycle skipped command rest hq hskip hu
  · rw [ht]
    dsimp only
    split
    · next hl => exact .empty hskip hl
    · next command hl =>
      split
      · next hu => exact .latest command hskip hl hu
      · next hu => exact .stale command hskip hl (by simpa using hu)

/-- The queue part of a read, in the queue's own terms. -/
theorem latestOrHold_queue (b : CommandBuffer) (nowNs : Nat) :
    (latestOrHold b nowNs).1.pendingLifecycleCommands =
      (Fifo.take (isUsableCommand · nowNs) b.pendingLifecycleCommands).2 ∧
    ∀ c, (Fifo.take (isUsableCommand · nowNs) b.pendingLifecycleCommands).1 = some c →
      b.read nowNs = c := by
  unfold CommandBuffer.read latestOrHold
  generalize Fifo.take (isUsableCommand · nowNs) b.pendingLifecycleCommands = t
  obtain ⟨served, queue⟩ := t
  cases served with
  | some c => exact ⟨rfl, fun d h => Option.some.inj h⟩
  | none =>
    refine ⟨?_, fun d h => by cases h⟩
    dsimp only
    split
    · rfl
    · split <;> rfl

/-! ## Runs -/

/-- What the receive thread and the control loop do to a buffer. -/
inductive BufferOp
  | setCommand (command : DualArmCommand)
  | updateLease (lease : CommandSourceLeaseState) (nowNs : Nat)
  | noteExternalBoxReceived (receiveTimeNs : Nat)
  | latestOrHold (nowNs : Nat)
  | consumeLatestExternalBoxes (nowNs : Nat)

def CommandBuffer.step (b : CommandBuffer) : BufferOp → CommandBuffer
  | .setCommand command => RbServo.setCommand b command
  | .updateLease lease nowNs => RbServo.updateLease b lease nowNs
  | .noteExternalBoxReceived t => RbServo.noteExternalBoxReceived b t
  | .latestOrHold nowNs => (RbServo.latestOrHold b nowNs).1
  | .consumeLatestExternalBoxes nowNs => (RbServo.consumeLatestExternalBoxes b nowNs {}).1

/-- The buffer after a run. -/
def bufferAfter (ops : List BufferOp) : CommandBuffer := ops.foldl CommandBuffer.step {}

@[simp] theorem bufferAfter_concat (ops : List BufferOp) (op : BufferOp) :
    bufferAfter (ops ++ [op]) = (bufferAfter ops).step op := by
  simp [bufferAfter]

/-- Reads and side-slot traffic leave the latest command alone. -/
theorem latestOrHold_latestCommand (b : CommandBuffer) (nowNs : Nat) :
    (latestOrHold b nowNs).1.latestCommand = b.latestCommand := by
  have hstep := latestOrHold_step b nowNs
  generalize (latestOrHold b nowNs).1 = b' at hstep ⊢
  generalize b.read nowNs = out at hstep
  cases hstep <;> rfl

theorem consumeLatestExternalBoxes_latestCommand (b : CommandBuffer) (nowNs : Nat)
    (telemetry : CommandBufferReadTelemetry) :
    (consumeLatestExternalBoxes b nowNs telemetry).1.latestCommand = b.latestCommand ∧
    (consumeLatestExternalBoxes b nowNs telemetry).1.pendingLifecycleCommands =
      b.pendingLifecycleCommands := by
  unfold consumeLatestExternalBoxes
  dsimp only
  split <;> exact ⟨rfl, rfl⟩

end RbServo
