import RoboticsLab.Stream.Dispatcher
import RoboticsLab.ServoHistory.CommandHistory

/-!
# `next_intent` with the `flow_infer_preview` profile

Each call reads the server's recovery block (`readRecovery`), which it accepts, ignores for an older profile, or
refuses. A new epoch or an entry into braking or paused invalidates the chunks.  Outside of tracking the call
returns a heartbeat without grippers, and in `waiting_fresh` it may activate one candidate; in tracking the
dispatcher runs, streamed or synchronous.

    Source.call : Source → Call → Source × Outcome

What the dispatcher makes of a row (`stepIntent`, `dispatchIntent`) is given with the call.  Logs, resets of the RTC and
of the pose conditioner are left out.
-/

namespace PolicyRunner.Recovery

open ServoHistory (member Numerics observationStamp commandPose)

variable {P R : Type}

/-! ## Commands -/

structure CommandIntent where
  mode : String
  timeoutSec : ℚ
  arm : Arm → Option Json.Object
  coupledTimeout : Bool
  tcpTargetProfile : Option String
  metadata : Option Json.Object

def withoutGripper (value : Json.Object) : Json.Object := value.filter fun m => m.1 ≠ "gripper_target"

/-- `_without_grippers`. -/
def CommandIntent.withoutGrippers (i : CommandIntent) : CommandIntent :=
  { i with arm := fun arm => (i.arm arm).map withoutGripper }

/-- `_pose_target_arm_payload`, without a gripper target. -/
def poseTargetArmPayload : List Double → Except PyError Json.Object
  | [x, y, z, qx, qy, qz, qw] => .ok
      [("mode", .str "TcpPoseTarget"),
       ("tcp_target_stand", .obj
          [("x", .numFloat x), ("y", .numFloat y), ("z", .numFloat z), ("rx", .numFloat (.fin 0)),
           ("ry", .numFloat (.fin 0)), ("rz", .numFloat (.fin 0)),
           ("quaternion_xyzw", .arr [.numFloat qx, .numFloat qy, .numFloat qz, .numFloat qw])])]
  | values =>
    if values.length = 6 then .ok [("mode", .str "TcpPoseTarget"), ("tcp_target_stand", .arr (values.map .numFloat))]
    else .error .valueError

/-! ## Telemetry -/

/-- The states of the server's recovery transaction. -/
inductive RecoveryState
  | tracking
  | braking
  | waitingFresh
  | starting
  | paused
deriving DecidableEq

def RecoveryState.ofString : String → Option RecoveryState
  | "tracking" => some .tracking
  | "braking" => some .braking
  | "waiting_fresh" => some .waitingFresh
  | "starting" => some .starting
  | "paused" => some .paused
  | _ => none

structure Snapshot where
  payload : Json.Object
  receivedMonotonic : Double

/-- `type(value) is int and 0 <= value < 2**64`. -/
def uint64 (v : Json) : Option ℕ :=
  match v.isCount with
  | some n => if n < 2 ^ 64 then some n else none
  | none => none

/-- A finite number, not a Boolean; numpy takes integers of 64 bits. -/
def finiteNumber : Json → Option ℚ
  | .numUnsigned n => if n < 2 ^ 64 then some n else none
  | .numInteger i => if -2 ^ 63 ≤ i ∧ i < 2 ^ 64 then some i else none
  | .numFloat (.fin q) => some q
  | _ => none

/-- The profiles named `flow_infer_preview`. -/
def matchingProfiles (payload : Json.Object) : List Json.Object :=
  ((payload.getD "chunk_execution_profiles").isArray.getD []).filterMap fun p =>
    match p.isObject with
    | some profile => if (profile.getD "name").isString = some "flow_infer_preview" then some profile else none
    | none => none

/-- `(round(now_monotonic * 1e9) - stamp) * 1e-9`. -/
def ageSec (now : ℚ) (stamp : ℕ) : ℚ := (pyRound (now * 10 ^ 9) - stamp : ℤ) / 10 ^ 9

/-- The part of the block that the source keeps. -/
structure RecoveryBlock where
  state : RecoveryState
  epoch : ℕ
  minObservationTimeNs : ℕ
  maxAgeSec : ℚ

/-- The age bound of the profile and the receive time of the snapshot, where both are finite numbers. -/
def freshness (profile : Json.Object) (snapshot : Snapshot) : Option (ℚ × ℚ) := do
  let maxAge ← finiteNumber (profile.getD "gripper_state_max_age_sec")
  match snapshot.receivedMonotonic with
  | .fin received => if 0 < maxAge then some (maxAge, received) else none
  | _ => none

/-- The checks of `_update_preview_recovery` on an advertised block. -/
def validBlock (profile block : Json.Object) (snapshot : Snapshot) (now : ℚ) : Option RecoveryBlock := do
  let epoch ← uint64 (block.getD "epoch")
  let minObservation ← uint64 (block.getD "min_observation_time_ns")
  let sample ← uint64 (block.getD "sample_time_ns")
  let _ ← uint64 (block.getD "attempts")
  let state ← (block.getD "state").isString.bind RecoveryState.ofString
  let _ ← (block.getD "reason").isString
  let (maxAge, received) ← freshness profile snapshot
  if 0 < sample ∧ (0 ≤ ageSec now sample ∧ ageSec now sample ≤ maxAge) ∧ 0 ≤ now - received ∧ now - received ≤ maxAge ∧
      ((state = .waitingFresh ∨ state = .starting) → 0 < minObservation ∧ minObservation ≤ sample)
  then some ⟨state, epoch, minObservation, maxAge⟩ else none

inductive Reading
  | older
  | refused
  | block (b : RecoveryBlock)

/-- What `_update_preview_recovery` makes of a snapshot. -/
def readRecovery (previouslyEnabled : Bool) (snapshot : Snapshot) (now : ℚ) : Reading :=
  let block := (snapshot.payload.getD "preview_recovery").isObject
  let announced := (block.map fun b => (b.getD "enabled").isTrue).getD false
  match matchingProfiles snapshot.payload, block with
  | [profile], some b =>
    if (profile.getD "preview_recovery").isTrue then
      if announced then
        match validBlock profile b snapshot now with
        | some valid => .block valid
        | none => .refused
      else .refused
    else if previouslyEnabled || announced then .refused else .older
  | [profile], none =>
    if (profile.getD "preview_recovery").isTrue || previouslyEnabled then .refused else .older
  | _, _ => if previouslyEnabled || announced then .refused else .older

/-! ## What is required of every snapshot -/

/-- `_require_chunk_execution_profile`. -/
def profileSupported (payload : Json.Object) : Bool :=
  match matchingProfiles payload with
  | [profile] =>
    (profile.getD "enabled").isTrue && (profile.getD "controller").isString = some "delta_preview" &&
      (profile.getD "fresh_chunk_replan").isTrue && (profile.getD "continuous_hold_resume").isTrue &&
      (profile.getD "preview_execution").isTrue &&
      ((finiteNumber (profile.getD "gripper_state_max_age_sec")).map fun q => decide (0 < q)).getD false
  | _ => false

/-- `_require_force_control_tare`, for one arm. -/
def untared (payload : Json.Object) (arm : Arm) : Bool :=
  let side := payload.getD arm.key
  (member (member side "force_control") "enabled").isTrue &&
    !((member (member side "force_torque") "bias_valid").isTrue &&
      (member (member side "force_torque") "tare_state").isString = some "accepted")

/-! ## The source -/

structure Config where
  stream : StreamConfig ℚ
  enableAsyncChunking : Bool
  hasCameras : Bool
  timeoutSec : ℚ

structure Source (P R : Type) where
  stream : ChunkStream P R ℚ
  enabled : Bool
  epoch : Option ℕ
  state : Option RecoveryState
  minObservationTimeNs : ℕ
  stateMaxAgeSec : ℚ
  heartbeat : Option CommandIntent
  currentStepIntent : Option CommandIntent
  gripperAllowed : Arm → Bool
  lastServerMotionEpoch : Option ℤ
  suspended : Arm → Bool
  passive : Bool

def Source.start : Source P R where
  stream := .start 0
  enabled := false
  epoch := none
  state := none
  minObservationTimeNs := 0
  stateMaxAgeSec := 0
  heartbeat := none
  currentStepIntent := none
  gripperAllowed := fun _ => false
  lastServerMotionEpoch := none
  suspended := fun _ => false
  passive := false

/-- One call of `next_intent`. -/
structure Tick (P R : Type) where
  snapshot : Snapshot
  now : ℚ
  frozen : P
  sampled : Sampled R
  recovery : RecoveryMetadata
  gap : SharedAccess → List (ChunkStream.WorkerStep R)
  cameraInputsReady : Bool
  /-- `_current_step_intent` after the dispatcher ran. -/
  stepIntent : Option CommandIntent
  /-- What the dispatcher returns. -/
  dispatchIntent : Option CommandIntent

/-- What a call gives: `dispatched` is the gripper row and the arms it may move, `activated` the candidate that a
recovery activated. -/
structure Outcome (P R : Type) where
  intent : Except PyError (Option CommandIntent)
  row : Option (PolicyRow P R)
  dispatched : Option (R × (Arm → Bool))
  activated : Option (ActiveChunk P R)

def Outcome.only (intent : Except PyError (Option CommandIntent)) : Outcome P R := ⟨intent, none, none, none⟩

namespace Source

/-- The tick is outside of tracking. -/
def Blocked (s : Source P R) : Prop := s.enabled = true ∧ s.state ≠ some .tracking

instance (s : Source P R) : Decidable s.Blocked := inferInstanceAs (Decidable (_ ∧ _))

/-- `_invalidate_policy_chunks`: only a recovery keeps the heartbeat. -/
def invalidatePolicyChunks (s : Source P R) (forRecovery : Bool) : Source P R :=
  { s with
    stream := s.stream.invalidatePolicyChunks
    currentStepIntent := none
    heartbeat := if forRecovery then s.heartbeat else none }

/-- The edges on which the chunks are invalidated. -/
def recoveryEdge (s : Source P R) (b : RecoveryBlock) : Prop :=
  (s.epoch.isSome = true ∧ s.epoch ≠ some b.epoch) ∨ (s.epoch = none ∧ b.state ≠ .tracking) ∨
    ((b.state = .braking ∨ b.state = .paused) ∧ s.state ≠ some b.state)

instance (s : Source P R) (b : RecoveryBlock) : Decidable (s.recoveryEdge b) :=
  inferInstanceAs (Decidable (_ ∨ _ ∨ _))

/-- `_update_preview_recovery`, with the block it accepted. -/
def updatePreviewRecovery (s : Source P R) (b : RecoveryBlock) : Source P R :=
  let s :=
    if s.recoveryEdge b then
      { s with
        stream := { s.stream with activeChunkMetadata := none }
        heartbeat := (s.currentStepIntent.map CommandIntent.withoutGrippers).or s.heartbeat
        }.invalidatePolicyChunks true
    else s
  { s with
    enabled := true
    epoch := some b.epoch
    state := some b.state
    minObservationTimeNs := b.minObservationTimeNs
    stateMaxAgeSec := b.maxAgeSec }

/-- The arm's output in `preview_execution` is active and fresh. -/
def executionActive (payload : Json.Object) (now maxAge : ℚ) (arm : Arm) : Bool :=
  let state := member (payload.getD "preview_execution") arm.key
  match (member state "sample_time_ns").isCount with
  | none => false
  | some stamp =>
    decide (0 < stamp) && (member state "enabled").isTrue && (member state "active").isTrue &&
      (member state "status").isString = some "active" && decide (0 ≤ ageSec now stamp ∧ ageSec now stamp ≤ maxAge)

/-- `_update_preview_gripper_authority`. -/
def updatePreviewGripperAuthority (s : Source P R) (snapshot : Snapshot) (now : ℚ) : Source P R :=
  let allowed : Arm → Bool :=
    if s.Blocked then fun _ => false
    else
      match matchingProfiles snapshot.payload with
      | [profile] =>
        match freshness profile snapshot with
        | none => fun _ => false
        | some (maxAge, received) =>
          if ¬ (0 ≤ now - received ∧ now - received ≤ maxAge) ∨ (snapshot.payload.getD "fault_latched").isTrue ∨
              (snapshot.payload.getD "send_suppressed").isTrue then fun _ => false
          else executionActive snapshot.payload now maxAge
      | _ => fun _ => false
  { s with gripperAllowed := fun arm => allowed arm && (!s.enabled || (allowed .left && allowed .right)) }

/-- `_preview_gripper_arm_allowed`. -/
def previewGripperArmAllowed (s : Source P R) (arm : Arm) : Bool :=
  !s.suspended arm && !decide s.Blocked && s.gripperAllowed arm

/-- `_guard_preview_gripper_intent`. -/
def guardPreviewGripperIntent (s : Source P R) (i : CommandIntent) : CommandIntent :=
  { i with arm := fun arm => if s.previewGripperArmAllowed arm then i.arm arm else (i.arm arm).map withoutGripper }

/-- `int(raw_epoch)`, where it is a number and fits. -/
def motionEpoch (payload : Json.Object) : Option ℤ :=
  match payload.getD "motion_epoch" with
  | .numUnsigned n => some n
  | .numInteger i => some i
  | .numFloat (.fin q) => some (Json.truncate q)
  | _ => none

/-- `_handle_server_motion_epoch`. -/
def handleServerMotionEpoch (s : Source P R) (payload : Json.Object) : Source P R :=
  match motionEpoch payload, s.lastServerMotionEpoch with
  | none, _ => s
  | some epoch, none => { s with lastServerMotionEpoch := some epoch }
  | some epoch, some last =>
    if epoch = last then s else { s with lastServerMotionEpoch := some epoch }.invalidatePolicyChunks false

end Source

/-! ## Recovery -/

/-- `_verified_preview_recovery_heartbeat`: the commanded poses of both arms, or nothing. -/
def verifiedHeartbeat (np : Numerics) (timeoutSec maxAge : ℚ) (snapshot : Snapshot) (now : ℚ) :
    Except PyError (Option CommandIntent) :=
  let payload := snapshot.payload
  if (payload.getD "fault_latched").isTrue ∨ (payload.getD "send_suppressed").isTrue then .ok none
  else
    match payload.getD "motion_state" with
    | .arr _ => .error .typeError
    | .obj _ => .error .typeError
    | state =>
      if state.isString = some "FaultLatched" ∨ state.isString = some "EmergencyLatched" then .ok none
      else
        let read : Except ServoHistory.Failure (Option (List Double × List Double)) := do
          let stamp ← observationStamp (.obj payload)
          if 0 ≤ ageSec now stamp.time ∧ ageSec now stamp.time ≤ maxAge then
            let left ← commandPose np (.obj payload) .left
            let right ← commandPose np (.obj payload) .right
            return some (left, right)
          else return none
        match read with
        | .error (.value _) => .ok none
        | .error (.uncaught .typeError) => .ok none
        | .error (.uncaught .valueError) => .ok none
        | .error (.uncaught .overflowError) => .ok none
        | .error (.uncaught e) => .error e
        | .ok none => .ok none
        | .ok (some (left, right)) => do
          let left ← poseTargetArmPayload left
          let right ← poseTargetArmPayload right
          return some
            { mode := "TcpPoseTarget"
              timeoutSec := timeoutSec
              arm := fun arm => some (match arm with
                | .left => left
                | .right => right)
              coupledTimeout := true
              tcpTargetProfile := some "flow_infer_preview"
              metadata := some [("action_source", .str "flow_infer"),
                ("source_conditioning_mode", .str "preview_recovery_reference")] }

/-- The candidate that `_preview_recovery_intent` activates and keeps. -/
def activatedCandidate (cfg : StreamConfig ℚ) (t : RecoveryTick P R ℚ) (s : ChunkStream P R ℚ) :
    Option (ActiveChunk P R) :=
  if s.candidatePublished then none
  else
    let s := s.interleave (t.gap .take)
    match s.nextChunk with
    | none => none
    | some chunk =>
      if s.takePrefetched.candidateEligible t then (s.takePrefetched.activateChunk cfg chunk t.now false).chunk
      else none

namespace Source

variable (cfg : Config)

def recoveryTick (s : Source P R) (t : Tick P R) : RecoveryTick P R ℚ :=
  ⟨t.now, Json.truncate (t.now * 10 ^ 9), t.frozen, s.epoch.getD 0, s.minObservationTimeNs, t.gap⟩

/-- `_preview_recovery_intent`, outside of tracking. -/
def previewRecoveryIntent (np : Numerics) (t : Tick P R) (s : Source P R) : Source P R × Outcome P R :=
  let heartbeat : Except PyError (Option CommandIntent) :=
    match s.heartbeat with
    | some h => .ok (some h)
    | none => verifiedHeartbeat np cfg.timeoutSec s.stateMaxAgeSec t.snapshot t.now
  match heartbeat with
  | .error e => (s, .only (.error e))
  | .ok heartbeat =>
    let s := { s with heartbeat := heartbeat }
    if s.state = some .waitingFresh then
      ({ s with stream := s.stream.previewRecoveryIntent cfg.stream (s.recoveryTick t) },
        ⟨.ok heartbeat, none, none, activatedCandidate cfg.stream (s.recoveryTick t) s.stream⟩)
    else (s, .only (.ok heartbeat))

/-! ## Dispatch -/

/-- The row at the index, which the synchronous path leaves behind. -/
def syncRow (s : ChunkStream P R ℚ) : ChunkStream P R ℚ × Dispatched P R :=
  match s.chunk with
  | none => (s, .held)
  | some c =>
    match c.rows[s.chunkIndex]?, cfg.stream.gripperStepRow c.rows s.chunkIndex with
    | some step, some gripper => ({ s with chunkIndex := s.chunkIndex + 1 }, .row ⟨c.source, step, gripper⟩)
    | _, _ => (s, .indexError)

/-- The synchronous path of `next_intent`. -/
def nextIntentSync (t : Tick P R) (s : ChunkStream P R ℚ) : ChunkStream P R ℚ × Dispatched P R :=
  let limit := s.currentChunkExecuteLimit cfg.stream
  if cfg.hasCameras ∧ s.chunk.isSome ∧ s.chunkIndex < limit ∧ !t.cameraInputsReady then
    ({ s with chunk := none, chunkIndex := 0 }, .held)
  else if s.chunk.isNone ∨ limit ≤ s.chunkIndex then
    let (chunk, s) := s.sampleAndAlignChunkTimed ⟨t.now, t.frozen, t.sampled, t.recovery, t.gap⟩
    match t.sampled, chunk with
    | .raised, _ => (s, .inferenceRaised)
    | _, none => ({ s with chunk := none }, .held)
    | _, some chunk => syncRow cfg { s with chunk := some ⟨chunk, chunk.rows⟩, chunkIndex := 0 }
  else syncRow cfg s

/-- The synchronous path returns its hold as it is. -/
def dispatchResult (s : Source P R) (t : Tick P R) : Dispatched P R → Outcome P R
  | .held => .only (.ok (if cfg.enableAsyncChunking then t.dispatchIntent.map s.guardPreviewGripperIntent
      else t.dispatchIntent))
  | .row r => ⟨.ok (t.dispatchIntent.map s.guardPreviewGripperIntent), some r,
      some (r.gripper, s.previewGripperArmAllowed), none⟩
  | .inferenceRaised => .only (.error (.other "inference"))
  | .indexError => .only (.error (.other "IndexError"))

def dispatch (t : Tick P R) (s : Source P R) : Source P R × Outcome P R :=
  let p :=
    if cfg.enableAsyncChunking then
      s.stream.nextIntentStreamed cfg.stream ⟨t.now, t.frozen, t.sampled, t.recovery, t.gap⟩
    else nextIntentSync cfg t s.stream
  ({ s with stream := p.1, currentStepIntent := t.stepIntent }, s.dispatchResult cfg t p.2)

/-! ## Calls -/

end Source

/-- `next_intent` before the recovery and the dispatch: it raises, returns because both arms are suspended, or
goes on. -/
inductive Observed (P R : Type)
  | raised (e : PyError)
  | suspended
  | ready (s : Source P R)

namespace Source

variable (cfg : Config)

def observe (t : Tick P R) (s : Source P R) : Observed P R :=
  if !profileSupported t.snapshot.payload ∨ (!s.suspended .left ∧ untared t.snapshot.payload .left) ∨
      (!s.suspended .right ∧ untared t.snapshot.payload .right) then .raised .valueError
  else if s.suspended .left ∧ s.suspended .right then .suspended
  else
    let rest : Source P R → Source P R := fun s =>
      (s.updatePreviewGripperAuthority t.snapshot t.now).handleServerMotionEpoch t.snapshot.payload
    match readRecovery s.enabled t.snapshot t.now with
    | .refused => .raised .valueError
    | .older => .ready (rest s)
    | .block b => .ready (rest (s.updatePreviewRecovery b))

/-- `next_intent`. -/
def nextIntent (np : Numerics) (t : Tick P R) (s : Source P R) : Source P R × Outcome P R :=
  match s.observe t with
  | .raised e => (s, .only (.error e))
  | .suspended => (s, .only (.ok none))
  | .ready s => if s.Blocked then s.previewRecoveryIntent cfg np t else s.dispatch cfg t

end Source

/-- What the source goes through; `initMotion` is an edge of an InitMotion override. -/
inductive Call (P R : Type)
  | nextIntent (t : Tick P R)
  | worker (w : ChunkStream.WorkerStep R)
  | suspend (arms : Arm → Bool) (passive : Bool)
  | initMotion
  | close

namespace Source

def call (cfg : Config) (np : Numerics) (s : Source P R) : Call P R → Source P R × Outcome P R
  | .nextIntent t => s.nextIntent cfg np t
  | .worker w => ({ s with stream := s.stream.workerStep w }, .only (.ok none))
  | .suspend arms passive =>
    let s := if passive && !s.passive then s.invalidatePolicyChunks false else s
    ({ s with suspended := arms, passive := passive }, .only (.ok none))
  | .initMotion => (s.invalidatePolicyChunks false, .only (.ok none))
  | .close => ({ s with stream := s.stream.close }, .only (.ok none))

/-- The state after a run. -/
def after (cfg : Config) (np : Numerics) (xs : List (Call P R)) : Source P R :=
  xs.foldl (fun s x => (s.call cfg np x).1) .start

end Source

end PolicyRunner.Recovery
