import RoboticsLab.Lib.PyValue
import RoboticsLab.Lib.Raising
import Mathlib.Logic.Function.Basic
import Mathlib.Order.Basic

/-!
# `Hdf5EpisodeRecorder`: the episode buffer

`recordFrame` is `Hdf5EpisodeRecorder.record_frame` on an active episode, `recordCameraFrame` its
`_record_camera_frame`.  Both append to the buffer's parallel lists one after another, so an exception keeps what
was appended before it.  A buffer's lists are indexed by `Column` and by the camera's name.

`RecordingSupervisor.recordFrame` swallows the exception and goes on with the same buffer.
-/

namespace PolicyRunner

inductive Side
  | left
  | right
deriving DecidableEq

/-- The dictionary key of a side. -/
def Side.key : Side → String
  | .left => "left"
  | .right => "right"

/-- The per-arm lists of `_EpisodeBuffer`, each with a `_left` and a `_right` one. -/
inductive ArmColumn
  | qpos
  | qsent
  | tcpStand
  | qRef
  | tcpActualStand
  | tcpRefStand
  | tcpActualValid
  | tcpRefValid
  | tcpTrackingSource
  | diagnosticsSuspect
  | sendDurationUs
  | ackPolicy
  | controllerAcceptanceObserved
  | actionTcpTargetStand
  | actionJointTarget
  | actionSpacemouseAxes
  | actionSpacemouseButtons
  | actionDeadman
deriving DecidableEq

/-- The per-frame lists of `_EpisodeBuffer`, the images apart. -/
inductive Column
  | arm (c : ArmColumn) (s : Side)
  | faultLatched
  | stateAgeUs
  | stateHostTimeNs
  | commandSeq
  | actionMode
  | actionSourceId
  | actionHostTimeNs
  | actionSeq
  | bundleSeq
  | bundleTimeNs
  | bundleAgeUs
deriving DecidableEq

/-- The three lists `_record_camera_frame` appends to. -/
def Column.isBundle : Column → Bool
  | .bundleSeq => true
  | .bundleTimeNs => true
  | .bundleAgeUs => true
  | _ => false

inductive Cell
  | floats (values : List Double)
  | flags (values : List Bool)
  | flag (value : Bool)
  | text (value : String)
  | int (value : ℤ)
deriving DecidableEq

/-- A numpy array: its shape, its dtype and its elements in C order. -/
structure Pixels where
  shape : List ℕ
  dtype : String
  data : List ℕ
deriving DecidableEq

/-- `np.ascontiguousarray`: at least one dimension. -/
def Pixels.ascontiguousarray (p : Pixels) : Pixels :=
  if p.shape = [] then { p with shape := [1] } else p

def Pixels.zeros (shape : List ℕ) (dtype : String) : Pixels where
  shape := shape
  dtype := dtype
  data := List.replicate shape.prod 0

/-- A camera bundle.  `frames` is a dictionary: no key occurs twice. -/
structure CameraBundle where
  bundleSeq : ℤ
  bundleTimeNs : ℤ
  frames : List (String × Pixels)
  keys_nodup : (frames.map Prod.fst).Nodup

structure EpisodeBuffer where
  lastAppendedMonotonic : Option ℚ
  columns : Column → List Cell
  images : String → List Pixels
  imageShapes : String → Option (List ℕ)
  imageDtypes : String → Option String

/-- The buffer `start_episode` makes; no `lastAppendedMonotonic` is `float("-inf")`. -/
def EpisodeBuffer.start : EpisodeBuffer where
  lastAppendedMonotonic := none
  columns := fun _ => []
  images := fun _ => []
  imageShapes := fun _ => none
  imageDtypes := fun _ => none

def EpisodeBuffer.frameCount (ep : EpisodeBuffer) : ℕ := (ep.columns (.arm .qpos .left)).length

def EpisodeBuffer.append (c : Column) (v : Cell) (ep : EpisodeBuffer) : EpisodeBuffer :=
  { ep with columns := Function.update ep.columns c (ep.columns c ++ [v]) }

structure Hdf5EpisodeRecorder where
  recordingRateHz : ℚ
  hasCameraClient : Bool
  expectedCameras : List String
  recordZeroOnMissing : Bool
  rate_range : 1 ≤ recordingRateHz ∧ recordingRateHz ≤ 100

def Hdf5EpisodeRecorder.periodSec (r : Hdf5EpisodeRecorder) : ℚ := 1 / r.recordingRateHz

/-- What one call of `record_frame` is given and reads: its arguments, `time.monotonic()`, what the camera
client's `poll` and `latest` return, and `bundle_clock_ns()`. -/
structure FrameCall where
  now : ℚ
  payload : Json.Object
  actionPacket : Option Json.Object
  actionHostTimeNs : Option ℤ
  actionSeq : Option ℤ
  poll : Except PyError (Option CameraBundle)
  latest : Except PyError (Option CameraBundle)
  bundleClockNs : ℤ

/-! ## Conversions -/

section
variable (py : PyText)

def floatList (value : Json) (length : ℕ) : Except PyError (List Double) :=
  match value.isArray with
  | none => .ok (List.replicate length (.fin 0))
  | some items => do
    let out ← (items.take length).mapM (Json.pyFloat py)
    pure (out ++ List.replicate (length - out.length) (.fin 0))

def firstPresent (mapping : Json.Object) : List String → Json
  | [] => .null
  | key :: keys => match mapping.getD key with
    | .null => firstPresent mapping keys
    | v => v

def floatField (o : Json.Object) (key : String) (default : ℚ) : Except PyError Double :=
  (o.getOr key (.numFloat (.fin default))).pyFloat py

def extractTcpPose7 (armState : Json.Object) (key : String) (fallbackKey : Option String) :
    Except PyError (List Double) :=
  let tcp := match (armState.getD key).isObject, fallbackKey with
    | some tcp, _ => some tcp
    | none, some fallback => (armState.getD fallback).isObject
    | none, none => none
  match tcp with
  | none => .ok [.fin 0, .fin 0, .fin 0, .fin 0, .fin 0, .fin 0, .fin 1]
  | some tcp => do
    let x ← floatField py tcp "x" 0
    let y ← floatField py tcp "y" 0
    let z ← floatField py tcp "z" 0
    match tcp.getD "quaternion_xyzw" with
    | .arr [a, b, c, d] =>
      let qx ← a.pyFloat py
      let qy ← b.pyFloat py
      let qz ← c.pyFloat py
      let qw ← d.pyFloat py
      pure [x, y, z, qx, qy, qz, qw]
    | _ =>
      let qx ← floatField py tcp "qx" 0
      let qy ← floatField py tcp "qy" 0
      let qz ← floatField py tcp "qz" 0
      let qw ← floatField py tcp "qw" 1
      pure [x, y, z, qx, qy, qz, qw]

def extractTcpStand7 (armState : Json.Object) : Except PyError (List Double) :=
  extractTcpPose7 py armState "tcp_stand" none

def boolWithFallback (value : Json) (fallback : Bool) : Bool := value.isBoolean.getD fallback

def trackingSource (armState : Json.Object) : String :=
  (firstPresent armState ["tcp_tracking_source", "tcp_tracking_source_recommendation"]).pyStrOrEmpty py

def diagnosticsSuspect (armState : Json.Object) : Bool :=
  match (armState.getD "diagnostics_suspect").isBoolean with
  | some b => b
  | none => ((armState.lookup "lifecycle_state").getD (.str "")).pyStr py = "diagnostics_suspect"

def durationUs (armState : Json.Object) : Except PyError ℤ :=
  let value := match armState.getD "send_duration_us", (armState.getD "backend_timing").isObject with
    | .null, some timing => timing.getD "send_duration_us"
    | v, _ => v
  value.pyIntOrZero py

def dominantActionMode (leftMode rightMode : String) : String :=
  (["TcpPoseTarget", "TcpLinearMove", "JointTarget"].find? fun c => c = leftMode ∨ c = rightMode).getD leftMode

def tcpTargetValues : Json → Except PyError (List Double)
  | .arr items => floatList py (.arr items) 6
  | .obj value => ["x", "y", "z", "rx", "ry", "rz"].mapM fun key => floatField py value key 0
  | _ => .ok (List.replicate 6 (.fin 0))

/-- What `_spacemouse_value` finds in one container. -/
def spacemouseIn (name : String) (container : Json.Object) : Option Json :=
  ((["spacemouse_" ++ name, "spacemouse_raw_" ++ name, "raw_" ++ name].findSome? fun key => container.lookup key).orElse
    fun _ => (Json.dictOrEmpty (container.getD "spacemouse_raw")).lookup name)

def spacemouseValue (armAction packet : Json.Object) (side : Side) (name : String) : Json :=
  ([armAction, Json.dictOrEmpty (packet.getD side.key), packet].findSome? (spacemouseIn name)).getD .null

def spacemouseAxes (armAction packet : Json.Object) (side : Side) : Except PyError (List Double) :=
  floatList py (spacemouseValue armAction packet side "axes") 6

def spacemouseButtons (armAction packet : Json.Object) (side : Side) : List Bool :=
  match (spacemouseValue armAction packet side "buttons").isArray with
  | none => List.replicate 8 false
  | some items =>
    let out := (items.take 8).map Json.pyBool
    out ++ List.replicate (8 - out.length) false

/-! ## The frame's cells, in the order they are appended -/

/-- A pair of appends, the left arm's first. -/
def bothSides (c : ArmColumn) (value : Side → Except PyError Cell) : List (Column × Except PyError Cell) :=
  [(.arm c .left, value .left), (.arm c .right, value .right)]

def stateCells (payload : Json.Object) : List (Column × Except PyError Cell) :=
  let arm := fun s : Side => Json.dictOrEmpty (payload.getD s.key)
  bothSides .qpos (fun s => .floats <$> floatList py ((arm s).getD "q_actual_deg") 6)
  ++ bothSides .qsent (fun s => .floats <$> floatList py ((arm s).getD "q_sent_deg") 6)
  ++ bothSides .tcpStand (fun s => .floats <$> extractTcpStand7 py (arm s))
  ++ bothSides .qRef (fun s => .floats <$> floatList py (firstPresent (arm s) ["q_ref_deg", "q_target_deg"]) 6)
  ++ bothSides .tcpActualStand
    (fun s => .floats <$> extractTcpPose7 py (arm s) "tcp_actual_stand" (some "tcp_stand"))
  ++ bothSides .tcpRefStand (fun s => .floats <$> extractTcpPose7 py (arm s) "tcp_ref_stand" none)
  ++ bothSides .tcpActualValid
    (fun s => .ok (.flag (boolWithFallback ((arm s).getD "tcp_actual_valid") ((arm s).getD "tcp_stand").pyBool)))
  ++ bothSides .tcpRefValid (fun s => .ok (.flag ((arm s).getD "tcp_ref_valid").pyBool))
  ++ bothSides .tcpTrackingSource (fun s => .ok (.text (trackingSource py (arm s))))
  ++ bothSides .diagnosticsSuspect (fun s => .ok (.flag (diagnosticsSuspect py (arm s))))
  ++ bothSides .sendDurationUs (fun s => .int <$> durationUs py (arm s))
  ++ bothSides .ackPolicy
    (fun s => .ok (.text ((firstPresent (arm s) ["ack_policy", "ack_semantics"]).pyStrOrEmpty py)))
  ++ bothSides .controllerAcceptanceObserved
    (fun s => .ok (.flag ((arm s).getD "controller_acceptance_observed").pyBool))
  ++ [(.faultLatched, .ok (.flag (payload.getD "fault_latched").pyBool)),
    (.stateAgeUs, .int <$> (payload.getD "state_age_us").pyIntOrZero py),
    (.stateHostTimeNs, .int <$> (payload.getD "host_time_ns").pyIntOrZero py),
    (.commandSeq, .int <$> (payload.getD "command_seq").pyIntOrZero py)]

def actionCells : Option Json.Object → List (Column × Except PyError Cell)
  | some packet =>
    let act := fun s : Side => Json.dictOrEmpty (packet.getD s.key)
    let mode := fun s : Side => (((act s).lookup "mode").getD (.str "Hold")).pyStr py
    [(.actionMode, .ok (.text (dominantActionMode (mode .left) (mode .right)))),
      (.actionSourceId, .ok (.text ((packet.getD "source_id").pyStrOrEmpty py)))]
    ++ bothSides .actionTcpTargetStand
      (fun s => .floats <$> tcpTargetValues py ((act s).getD "tcp_target_stand"))
    ++ bothSides .actionJointTarget (fun s => .floats <$> floatList py ((act s).getD "q_target_deg") 6)
    ++ bothSides .actionSpacemouseAxes (fun s => .floats <$> spacemouseAxes py (act s) packet s)
    ++ bothSides .actionSpacemouseButtons (fun s => .ok (.flags (spacemouseButtons (act s) packet s)))
    ++ bothSides .actionDeadman (fun s => .ok (.flag ((act s).getD "deadman").pyBool))
  | none =>
    [(.actionMode, .ok (.text "Hold")), (.actionSourceId, .ok (.text ""))]
    ++ bothSides .actionTcpTargetStand (fun _ => .ok (.floats (List.replicate 6 (.fin 0))))
    ++ bothSides .actionJointTarget (fun _ => .ok (.floats (List.replicate 6 (.fin 0))))
    ++ bothSides .actionSpacemouseAxes (fun _ => .ok (.floats (List.replicate 6 (.fin 0))))
    ++ bothSides .actionSpacemouseButtons (fun _ => .ok (.flags (List.replicate 8 false)))
    ++ bothSides .actionDeadman (fun _ => .ok (.flag false))

/-- The appends of one frame before the cameras, with the value each one computes. -/
def frameCells (call : FrameCall) : List (Column × Except PyError Cell) :=
  stateCells py call.payload ++ actionCells py call.actionPacket
  ++ [(.actionHostTimeNs, .ok (.int (call.actionHostTimeNs.getD 0))),
    (.actionSeq, .ok (.int (call.actionSeq.getD 0)))]

end

/-- `ep.c.append(value)`: the value is computed first, and its exception leaves the list alone. -/
def appendCell (cell : Column × Except PyError Cell) : EStateM PyError EpisodeBuffer Unit := fun ep =>
  match cell.2 with
  | .ok v => .ok () (ep.append cell.1 v)
  | .error e => .error e ep

/-! ## Cameras -/

/-- `name.rpartition("_")` with the separator replaced by a dot, if there is one. -/
def dottedKey (name : String) : Option String :=
  match name.toList.reverse.dropWhile (· ≠ '_') with
  | [] => none
  | _ :: base => some (String.ofList (base.reverse ++ '.' :: (name.toList.reverse.takeWhile (· ≠ '_')).reverse))

def resolveFrame (frames : List (String × Pixels)) (name : String) : Option Pixels :=
  match frames.lookup name with
  | some frame => some frame
  | none => if name.toList.contains '.' then none else (dottedKey name).bind fun key => frames.lookup key

/-- `bundle = poll(timeout_ms=0)`, and `latest()` when that gave none. -/
def FrameCall.receive (call : FrameCall) : Except PyError (Option CameraBundle) :=
  match call.poll with
  | .error e => .error e
  | .ok (some bundle) => .ok (some bundle)
  | .ok none => call.latest

def missingBundleAgeUs : ℤ := 2 ^ 62

def bundleCells (clockNs : ℤ) : Option CameraBundle → List (Column × Except PyError Cell)
  | some b => [(.bundleSeq, .ok (.int b.bundleSeq)), (.bundleTimeNs, .ok (.int b.bundleTimeNs)),
    (.bundleAgeUs, .ok (.int ((clockNs - b.bundleTimeNs) / 1000)))]
  | none => [(.bundleSeq, .ok (.int 0)), (.bundleTimeNs, .ok (.int 0)),
    (.bundleAgeUs, .ok (.int missingBundleAgeUs))]

/-- The cameras one frame is taken from: the expected ones, else those of the bundle in sorted order. -/
def Hdf5EpisodeRecorder.cameras (r : Hdf5EpisodeRecorder) (bundle : Option CameraBundle) : List String :=
  match r.expectedCameras, bundle with
  | [], some b => (b.frames.map Prod.fst).mergeSort (fun a b => decide (a ≤ b))
  | cameras, _ => cameras

def frameOf (bundle : Option CameraBundle) (camName : String) : Option Pixels :=
  bundle.bind fun b => (resolveFrame b.frames camName)

def tupleText (shape : List ℕ) : String :=
  match shape with
  | [a] => "(" ++ toString a ++ ",)"
  | _ => "(" ++ ", ".intercalate (shape.map toString) ++ ")"

def EpisodeBuffer.appendImage (camName : String) (p : Pixels) (ep : EpisodeBuffer) : EpisodeBuffer :=
  { ep with images := Function.update ep.images camName (ep.images camName ++ [p]) }

/-- `setdefault` of the camera's shape and dtype. -/
def EpisodeBuffer.noteShape (camName : String) (p : Pixels) (ep : EpisodeBuffer) : EpisodeBuffer :=
  { ep with
    imageShapes := Function.update ep.imageShapes camName (some ((ep.imageShapes camName).getD p.shape))
    imageDtypes := Function.update ep.imageDtypes camName (some ((ep.imageDtypes camName).getD p.dtype)) }

/-- One pass of the camera loop. -/
def Hdf5EpisodeRecorder.recordCamera (r : Hdf5EpisodeRecorder) (bundle : Option CameraBundle)
    (camName : String) : EStateM PyError EpisodeBuffer Unit := fun ep =>
  match frameOf bundle camName with
  | some frame =>
    let pixels := frame.ascontiguousarray
    if pixels.shape.length ≠ 2 ∧ pixels.shape.length ≠ 3 then
      .error (.runtimeError ("camera '" ++ camName ++ "' pixels must have shape H,W (depth/mono) or H,W,C")) ep
    else
      match ep.imageShapes camName with
      | some previous =>
        if previous ≠ pixels.shape then
          .error (.runtimeError ("camera '" ++ camName ++ "' shape changed from " ++ tupleText previous ++
            " to " ++ tupleText pixels.shape)) ep
        else .ok () ((ep.noteShape camName pixels).appendImage camName pixels)
      | none => .ok () ((ep.noteShape camName pixels).appendImage camName pixels)
  | none =>
    if r.recordZeroOnMissing then
      match ep.imageShapes camName with
      | none => .ok () ep
      | some shape =>
        .ok () (ep.appendImage camName (.zeros shape ((ep.imageDtypes camName).getD "uint8")))
    else
      .error (.runtimeError ("camera '" ++ camName ++
        "' missing from bundle and record_zero_on_missing is False")) ep

def Hdf5EpisodeRecorder.recordCameraFrame (r : Hdf5EpisodeRecorder) (call : FrameCall) :
    EStateM PyError EpisodeBuffer Unit :=
  if r.hasCameraClient then
    match call.receive with
    | .error e => throw e
    | .ok bundle => do
      (bundleCells call.bundleClockNs bundle).forM appendCell
      (r.cameras bundle).forM (r.recordCamera bundle)
  else pure ()

/-! ## `record_frame` -/

/-- The rate limiter: `none` is the early return, else the new `last_appended_monotonic`. -/
def Hdf5EpisodeRecorder.due (r : Hdf5EpisodeRecorder) (last : Option ℚ) (now : ℚ) : Option ℚ :=
  match last with
  | none => some now
  | some last =>
    if now - last < r.periodSec - 1 / 1000000 then none
    else some (last + max 1 (Json.truncate ((now - last) / r.periodSec)) * r.periodSec)

def Hdf5EpisodeRecorder.recordFrame (py : PyText) (r : Hdf5EpisodeRecorder) (call : FrameCall) :
    EStateM PyError EpisodeBuffer Unit := fun ep =>
  match r.due ep.lastAppendedMonotonic call.now with
  | none => .ok () ep
  | some last =>
    ((frameCells py call).forM appendCell >>= fun _ => r.recordCameraFrame call)
      { ep with lastAppendedMonotonic := some last }

/-! ## The supervisor -/

structure RecordingSupervisor where
  episode : Option EpisodeBuffer
  frameCount : ℕ
  error : String

def RecordingSupervisor.recordFrame (py : PyText) (r : Hdf5EpisodeRecorder) (sup : RecordingSupervisor)
    (call : FrameCall) : RecordingSupervisor :=
  match sup.episode with
  | none => sup
  | some ep => match r.recordFrame py call ep with
    | .ok _ ep' => { sup with episode := some ep', frameCount := ep'.frameCount }
    | .error e ep' => { sup with episode := some ep', error := "record_failed:" ++ e.name }

end PolicyRunner
