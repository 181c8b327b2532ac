import RoboticsLab.Servo.CommandParse
import RoboticsLab.Lib.Numerals
import Mathlib.Data.List.FinRange

/-!
# `rb_servo/network/chunk_frame_receiver.cpp`: whole action chunks from the producer

A datagram is decoded (`JsonReader`), parsed into a `Frame` and stored under the next receiver
number.  An arm's rows are copied into a fixed array row by row, so that a row that fails leaves the
earlier ones in the frame, with a count of zero.  Doubles are exact; `std::sqrt(s) < 1e-6` is
`s < 1e-12`.  `int` values are integers, wrapped where the source adds them.
-/

namespace RbServo

open Json (Object)

namespace ChunkFrameReceiver

def kMaxSteps : ℕ := 64
def kPoseStepDims : ℕ := 8
def kDeltaStepDims : ℕ := 7

/-- `std::numeric_limits<int>::max()`. -/
def intMax : ℤ := 2 ^ 31 - 1

/-! ## Frames -/

structure Steps (dims : ℕ) where
  count : ℤ := 0
  step : Fin kMaxSteps → Fin dims → Double := fun _ _ => .fin 0

abbrev ArmSteps := Steps kPoseStepDims
abbrev ArmDeltaSteps := Steps kDeltaStepDims

structure Diagnostics where
  executeSteps : ℤ := 0
  runwaySteps : ℤ := 0
  inferenceSeq : ℕ := 0
  inferenceQueueWaitMs : Double := .fin 0
  inferenceLatencyMs : Double := .fin 0
  inferenceReadyWaitMs : Double := .fin 0
  inferencePeriodMs : Double := .fin 0
  inferencePeriodJitterMs : Double := .fin 0
  inferenceStallCount : ℕ := 0
  cameraBundleSeq : ℕ := 0
  cameraBundleAgeMs : Double := .fin 0
  cameraMaxSkewMs : Double := .fin 0
  cameraLeftFrameNumber : ℕ := 0
  cameraRightFrameNumber : ℕ := 0
  cameraLeftFrameAgeMs : Double := .fin 0
  cameraRightFrameAgeMs : Double := .fin 0
  cameraLeftFocusScore : Double := .fin 0
  cameraRightFocusScore : Double := .fin 0

structure Frame where
  schemaGeneration : ℤ := 0
  seq : ℕ := 0
  receiverSeq : ℕ := 0
  policyDtSec : Double := .fin 0
  recvSteadySec : Double := .fin 0
  interarrivalSec : Double := .fin 0
  hasLeft : Bool := false
  hasRight : Bool := false
  left : ArmSteps := {}
  right : ArmSteps := {}
  hasLeftDelta : Bool := false
  hasRightDelta : Bool := false
  leftDelta : ArmDeltaSteps := {}
  rightDelta : ArmDeltaSteps := {}
  chunkMetadataPresent : Bool := false
  proprioValid : Bool := false
  observationStepSeq : ℕ := 0
  activationStepSeq : ℕ := 0
  recoveryMetadataPresent : Bool := false
  previewRecoveryEpoch : ℕ := 0
  observationTimeNs : ℕ := 0
  sourceStartIndex : ℤ := 0
  originalHorizon : ℤ := 0
  selectedHorizon : ℤ := 0
  diagnostics : Diagnostics := {}

/-! ## Rows -/

section Rows

variable {dims : ℕ}

/-- The components of a row, copied until one is not a finite number. -/
def readDims (row : List Json) : List (Fin dims) → (Fin dims → Double) → Bool × (Fin dims → Double)
  | [], out => (true, out)
  | d :: ds, out =>
    match (row.getD d .null).isNumber with
    | none => (false, out)
    | some v => if v.isFinite then readDims row ds (Function.update out d v) else (false, out)

def readRow (row : Json) (out : Fin dims → Double) : Bool × (Fin dims → Double) :=
  match row.isArray with
  | none => (false, out)
  | some elems => if elems.length < dims then (false, out) else readDims elems (List.finRange dims) out

/-- The rows of an arm, copied until one fails or is refused by `accept`. -/
def readRows (accept : (Fin dims → Double) → Bool) (rows : List Json) :
    List (Fin kMaxSteps) → (Fin kMaxSteps → Fin dims → Double) → Bool × (Fin kMaxSteps → Fin dims → Double)
  | [], step => (true, step)
  | i :: is, step =>
    let copied := readRow (rows.getD i .null) (step i)
    let step := Function.update step i copied.2
    if copied.1 && accept copied.2 then readRows accept rows is step else (false, step)

/-- `parseArm` and `parseArmDelta`: the return value and `*out`.  The size is cast to an `int`. -/
def parseSteps (accept : (Fin dims → Double) → Bool) (armNode : Json) (out : Steps dims) : Bool × Steps dims :=
  match armNode.isArray with
  | none => (false, out)
  | some rows =>
    let n := toInt32 rows.length
    if n < 1 then (false, out)
    else
      let count := min n kMaxSteps
      let copied := readRows accept rows ((List.finRange kMaxSteps).take count.toNat) out.step
      if copied.1 then (true, { count, step := copied.2 }) else (false, { out with step := copied.2 })

end Rows

def quatNormSq (row : Fin kPoseStepDims → Double) : Double :=
  let sq (d : Fin 8) := (row d).mul (row d)
  (((sq 3).add (sq 4)).add (sq 5)).add (sq 6)

/-- The quaternion of a pose row is not degenerate. -/
def quatOk (row : Fin kPoseStepDims → Double) : Bool := !(quatNormSq row).lt (.fin (1 / 10 ^ 12))

def parseArm (armNode : Json) (out : ArmSteps) : Bool × ArmSteps := parseSteps quatOk armNode out

def parseArmDelta (armNode : Json) (out : ArmDeltaSteps) : Bool × ArmDeltaSteps :=
  parseSteps (fun _ => true) armNode out

/-! ## Optional numbers -/

/-- `get<long long>()` of an integer number. -/
def getLongLong (value : Json) : Option ℤ := value.isNumberInteger.map fun i => i.bmod (2 ^ 64)

/-- A value in the range of a nonnegative `int`. -/
def nonnegativeInt (value : Json) : Option ℤ := (getLongLong value).filter fun v => 0 ≤ v ∧ v ≤ intMax

def parseOptionalNonnegativeInt (object : Object) (key : String) (out : ℤ) : ℤ :=
  (object.lookup key >>= nonnegativeInt).getD out

def parseOptionalUint64 (object : Object) (key : String) (out : ℕ) : ℕ :=
  (object.lookup key >>= Json.isNumberUnsigned).getD out

def parseOptionalFiniteDouble (object : Object) (key : String) (out : Double) : Double :=
  ((object.lookup key >>= isFiniteNumber).filter fun v => (Double.fin 0).le v).getD out

/-- The first of the camera keys that holds an object. -/
def cameraObject (object : Object) : Option Object :=
  ["camera_diagnostics", "camera_timing", "camera"].findSome? fun key => object.lookup key >>= Json.isObject

def parseTimingDiagnostics (timing : Object) (out : Diagnostics) : Diagnostics :=
  { out with
    inferenceSeq := parseOptionalUint64 timing "seq" out.inferenceSeq
    inferenceQueueWaitMs := parseOptionalFiniteDouble timing "queue_wait_ms" out.inferenceQueueWaitMs
    inferenceLatencyMs := parseOptionalFiniteDouble timing "inference_latency_ms" out.inferenceLatencyMs
    inferenceReadyWaitMs := parseOptionalFiniteDouble timing "ready_wait_ms" out.inferenceReadyWaitMs
    inferencePeriodMs := parseOptionalFiniteDouble timing "inference_period_ms" out.inferencePeriodMs
    inferencePeriodJitterMs :=
      parseOptionalFiniteDouble timing "inference_period_jitter_ms" out.inferencePeriodJitterMs
    inferenceStallCount := parseOptionalUint64 timing "stall_count" out.inferenceStallCount }

def parseCameraDiagnostics (camera : Object) (out : Diagnostics) : Diagnostics :=
  { out with
    cameraBundleSeq := parseOptionalUint64 camera "bundle_seq" out.cameraBundleSeq
    cameraBundleAgeMs := parseOptionalFiniteDouble camera "bundle_age_ms" out.cameraBundleAgeMs
    cameraMaxSkewMs := parseOptionalFiniteDouble camera "max_skew_ms" out.cameraMaxSkewMs
    cameraLeftFrameNumber := parseOptionalUint64 camera "left_frame_number" out.cameraLeftFrameNumber
    cameraRightFrameNumber := parseOptionalUint64 camera "right_frame_number" out.cameraRightFrameNumber
    cameraLeftFrameAgeMs := parseOptionalFiniteDouble camera "left_frame_age_ms" out.cameraLeftFrameAgeMs
    cameraRightFrameAgeMs := parseOptionalFiniteDouble camera "right_frame_age_ms" out.cameraRightFrameAgeMs
    cameraLeftFocusScore := parseOptionalFiniteDouble camera "left_focus_score" out.cameraLeftFocusScore
    cameraRightFocusScore := parseOptionalFiniteDouble camera "right_focus_score" out.cameraRightFocusScore }

def parseOptionalDiagnostics (packet : Object) (out : Diagnostics) : Diagnostics :=
  let steps (key : String) (old : ℤ) := parseOptionalNonnegativeInt packet key old
  let out := { out with
    executeSteps := steps "chunk_execute_steps" (steps "execute_steps" out.executeSteps)
    runwaySteps := steps "chunk_overlay_runway_steps" (steps "runway_steps" out.runwaySteps) }
  let timing := packet.lookup "inference_timing" >>= Json.isObject
  let out := timing.elim out fun timing => parseTimingDiagnostics timing out
  ((cameraObject packet).or (timing >>= cameraObject)).elim out fun camera => parseCameraDiagnostics camera out

/-! ## Chunk metadata -/

def hasUint64 (object : Object) (key : String) : Bool := (object.lookup key >>= Json.isNumberUnsigned).isSome

def hasNonnegativeInt (object : Object) (key : String) : Bool := (object.lookup key >>= nonnegativeInt).isSome

/-- `valid` of an object under `proprio`, when both have their types. -/
def proprioFlag (metadata : Object) : Option Bool :=
  metadata.lookup "proprio" >>= Json.isObject >>= fun proprio => proprio.lookup "valid" >>= Json.isBoolean

def requiredFields (metadata : Object) : Bool :=
  hasUint64 metadata "observation_step_seq" && hasUint64 metadata "activation_step_seq" &&
  hasNonnegativeInt metadata "source_start_index" && hasNonnegativeInt metadata "original_horizon" &&
  hasNonnegativeInt metadata "selected_horizon" && (proprioFlag metadata).isSome

/-- The difference is one of `uint64_t`, the sum one of `int`. -/
def alignmentConsistent (frame : Frame) : Bool :=
  decide (frame.observationStepSeq ≤ frame.activationStepSeq) &&
  decide (subU64 frame.activationStepSeq frame.observationStepSeq = u64 frame.sourceStartIndex.toNat) &&
  decide (0 < frame.selectedHorizon) &&
  decide (frame.selectedHorizon ≤ frame.originalHorizon) &&
  decide (toInt32 (frame.sourceStartIndex + frame.selectedHorizon) = frame.originalHorizon)

def readMetadata (metadata : Object) (out : Frame) : Frame :=
  { out with
    observationStepSeq := parseOptionalUint64 metadata "observation_step_seq" out.observationStepSeq
    activationStepSeq := parseOptionalUint64 metadata "activation_step_seq" out.activationStepSeq
    previewRecoveryEpoch := parseOptionalUint64 metadata "preview_recovery_epoch" out.previewRecoveryEpoch
    observationTimeNs := parseOptionalUint64 metadata "observation_time_ns" out.observationTimeNs
    recoveryMetadataPresent :=
      hasUint64 metadata "preview_recovery_epoch" && hasUint64 metadata "observation_time_ns"
    sourceStartIndex := parseOptionalNonnegativeInt metadata "source_start_index" out.sourceStartIndex
    originalHorizon := parseOptionalNonnegativeInt metadata "original_horizon" out.originalHorizon
    selectedHorizon := parseOptionalNonnegativeInt metadata "selected_horizon" out.selectedHorizon
    proprioValid := (proprioFlag metadata).getD out.proprioValid }

def parseChunkMetadata (packet : Object) (out : Frame) : Frame :=
  match packet.lookup "chunk_metadata" >>= Json.isObject with
  | none => out
  | some metadata =>
    let out := readMetadata metadata out
    { out with chunkMetadataPresent := requiredFields metadata && alignmentConsistent out }

/-! ## Packets -/

/-- `get<uint64_t>()` of any number. -/
def getUint64 : Json → Option ℕ
  | .numUnsigned n => some n
  | .numInteger i => some (i % 2 ^ 64).toNat
  | .numFloat d => some d.toU64
  | _ => none

def schemaV3 : String := "robotics_lab.chunk_overlay.v3"

def acceptedSchemas : List String :=
  ["robotics_lab.chunk_overlay.v2", schemaV3, "robotics_lab.chunk_frame.v1"]

/-- An arm that is absent, or fails to parse, is not there. -/
def readArm (packet : Object) (key : String) : Bool × ArmSteps :=
  (packet.lookup key).elim (false, {}) fun node => parseArm node {}

/-- Delta rows may be absent; present ones must parse and belong to a present arm. -/
def readArmDelta (packet : Object) (key : String) (hasArm : Bool) : Option (Bool × ArmDeltaSteps) :=
  match packet.lookup key with
  | none => some (false, {})
  | some node =>
    let delta := parseArmDelta node {}
    if delta.1 && hasArm then some delta else none

/-- `none` where the source returns `false`. -/
def parsePacket (json : JsonReader) (steadyNowSec : Double) (data : List UInt8) : Option Frame := do
  let packet ← json.parse data >>= Json.isObject
  let schema ← packet.lookup "schema_version" >>= Json.isString
  guard (schema ∈ acceptedSchemas)
  let seq ← packet.lookup "seq" >>= getUint64
  let policyDtSec ← packet.lookup "policy_dt_sec" >>= Json.isNumber
  guard (policyDtSec.isFinite && !policyDtSec.le (.fin (1 / 10 ^ 4)))
  let left := readArm packet "left"
  let right := readArm packet "right"
  guard (left.1 || right.1)
  let leftDelta ← readArmDelta packet "left_delta" left.1
  let rightDelta ← readArmDelta packet "right_delta" right.1
  let frame := parseChunkMetadata packet
    { schemaGeneration := if schema = schemaV3 then 3 else 2
      seq, policyDtSec
      hasLeft := left.1, left := left.2, hasRight := right.1, right := right.2
      hasLeftDelta := leftDelta.1, leftDelta := leftDelta.2
      hasRightDelta := rightDelta.1, rightDelta := rightDelta.2
      diagnostics := parseOptionalDiagnostics packet {} }
  return { frame with recvSteadySec := steadyNowSec }

/-! ## The receiver -/

/-- `latest_` and `latest_seq_`. -/
structure Receiver where
  latest : Frame := {}
  latestSeq : ℕ := 0

/-- A datagram, and the steady clock when it is parsed. -/
structure Arrival where
  data : List UInt8
  steadyNowSec : Double

def acceptPacket (json : JsonReader) (s : Receiver) (a : Arrival) : Bool × Receiver :=
  match parsePacket json a.steadyNowSec a.data with
  | none => (false, s)
  | some frame =>
    let receiverSeq := addU64 s.latestSeq 1
    let interarrivalSec :=
      if (Double.fin 0).lt s.latest.recvSteadySec && s.latest.recvSteadySec.le frame.recvSteadySec then
        frame.recvSteadySec.sub s.latest.recvSteadySec
      else frame.interarrivalSec
    let frame := { frame with receiverSeq, interarrivalSec }
    (true, { latest := frame, latestSeq := receiverSeq })

end ChunkFrameReceiver

end RbServo
