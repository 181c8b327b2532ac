import RoboticsLab.Lib.PyValue
import Mathlib.Data.List.Basic

/-!
# `CameraBundleClient.poll`: the newest message of the queue

A subscription matches topics by prefix, so a call drains the queue and keeps the newest message of the exact topic that
is a JSON object.  Whether that message is complete, and whether its frames can be decoded, is looked at afterwards; an
older complete bundle is gone by then.

A message is a list of byte strings.  `Wire` holds what the interpreter does with them; `decodeFrame` is
`_decode_frame`, which reads the image of a frame from shared memory.
-/

namespace PolicyRunner.CameraBundleClient

open Json

/-! ## The wire -/

abbrev Bytes := List UInt8

abbrev Text := List Char

abbrev Message := List Bytes

inductive Loads
  | value (v : Json)
  | jsonDecodeError
  | raised (e : PyError)

/-- `bytes.decode("utf-8", errors="replace")` and `json.loads`. -/
structure Wire where
  decode : Bytes → Text
  loads : Text → Loads

/-- What `json.loads` gives, a dictionary or nothing. -/
def loadObject (wire : Wire) (text : Text) : Except PyError (Option Object) :=
  match wire.loads text with
  | .value metadata => .ok metadata.isObject
  | .jsonDecodeError => .ok none
  | .raised e => .error e

/-- `_decode_message_for_topic`. -/
def decodeMessageForTopic (wire : Wire) (topicName : Text) : Message → Except PyError (Option Object)
  | [topic, payload] => if wire.decode topic ≠ topicName then .ok none else loadObject wire (wire.decode payload)
  | [part] =>
    let text := wire.decode part
    if (topicName ++ [' ']).isPrefixOf text then loadObject wire (text.drop (topicName.length + 1))
    else loadObject wire text
  | _ => .ok none

/-! ## Bundles -/

structure CameraBundle (F : Type) where
  bundleSeq : ℤ
  bundleTimeNs : ℤ
  hardwareSynced : Bool
  complete : Bool
  receivedMonotonic : Double
  frames : List (String × F)
  syncPolicy : String
  maxTimeDiffMs : Double
  dropCounters : List (String × ℤ)

/-- `_last_poll`; a detail that an outcome does not have is `none`. -/
structure PollRecord where
  outcome : String
  bundleSeq : Option ℤ := none
  frameCount : Option ℕ := none
  cameraName : Option String := none
  errorType : Option String := none
deriving DecidableEq

structure Client (F : Type) where
  closed : Bool
  topic : Text
  healthTopic : Text
  includeDepth : Bool
  includeIr : Bool
  latest : Option (CameraBundle F)
  latestHealth : Option Object
  pollOutcomes : String → ℕ
  lastPoll : PollRecord

/-- What a message that was kept comes to. -/
inductive Verdict (F : Type)
  | refused (record : PollRecord)
  | bundle (b : CameraBundle F)

def colorFormats : List String := ["bgr8", "rgb8", "bgra8", "rgba8"]

def depthFormats : List String := ["z16", "mono16"]

def irFormats : List String := ["y8", "mono8"]

variable {F : Type}

/-- `mapping[key] = value` on the decoded frames. -/
def assign (frames : List (String × F)) (name : String) (frame : F) : List (String × F) :=
  if name ∈ frames.map Prod.fst then frames.map fun entry => if entry.1 = name then (name, frame) else entry
  else frames ++ [(name, frame)]

/-- A stream the client decodes. -/
def wanted (py : PyText) (c : Client F) (frameMeta : Object) : Bool :=
  let fmt := py.lower (((frameMeta.lookup "format").getD (.str "")).pyStr py)
  decide (fmt ∈ colorFormats) || (c.includeDepth && decide (fmt ∈ depthFormats)) ||
    (c.includeIr && decide (fmt ∈ irFormats))

/-- The loop over the frames; a frame that cannot be decoded ends it. -/
def decodeFrames (decodeFrame : String → Object → Except PyError F) (wanted : Object → Bool) :
    Object → List (String × F) → Except PollRecord (List (String × F))
  | [], decoded => .ok decoded
  | (camName, frameMeta) :: rest, decoded =>
    match frameMeta.isObject with
    | none => decodeFrames decodeFrame wanted rest decoded
    | some frameMeta =>
      if !(frameMeta.getD "valid").pyBool || !wanted frameMeta then decodeFrames decodeFrame wanted rest decoded
      else
        match decodeFrame camName frameMeta with
        | .error e =>
          .error { outcome := "frame_decode_error", cameraName := some camName, errorType := some e.name }
        | .ok frame => decodeFrames decodeFrame wanted rest (assign decoded camName frame)

/-- `{str(key): int(value) for key, value in counters.items() if isinstance(value, (int, float))}`. -/
def dropCountersOf (py : PyText) (counters : Json) : Except PyError (List (String × ℤ)) :=
  if counters.pyBool then
    match counters.isObject with
    | none => .error (.other "AttributeError")
    | some members =>
      (members.filter fun m => m.2.isNumber.isSome || m.2.isBoolean.isSome).mapM fun m => do
        let value ← m.2.pyInt py
        pure (m.1, value)
  else .ok []

/-- `float(value or 0.0)`. -/
def floatOrZero (py : PyText) (v : Json) : Except PyError Double := if v.pyBool then v.pyFloat py else .ok (.fin 0)

def bundleOf (py : PyText) (now : Double) (metadata : Object) (decoded : List (String × F)) :
    Except PyError (CameraBundle F) := do
  let bundleSeq ← pyIntOrZero py (metadata.getD "bundle_seq")
  let bundleTimeNs ← pyIntOrZero py (metadata.getD "bundle_time_ns")
  let maxTimeDiffMs ← floatOrZero py (metadata.getD "max_time_diff_ms")
  let dropCounters ← dropCountersOf py (metadata.getD "drop_counters")
  pure
    { bundleSeq := bundleSeq
      bundleTimeNs := bundleTimeNs
      hardwareSynced := (metadata.getD "hardware_synced").pyBool
      complete := true
      receivedMonotonic := now
      frames := decoded
      syncPolicy := pyStrOrEmpty py (metadata.getD "sync_policy")
      maxTimeDiffMs := maxTimeDiffMs
      dropCounters := dropCounters }

/-- What `_poll_locked` makes of the message it kept. -/
def judge (py : PyText) (decodeFrame : String → Object → Except PyError F) (now : Double) (c : Client F)
    (metadata : Object) :
    Except PyError (Verdict F) :=
  if !(metadata.getD "complete").pyBool then do
    let bundleSeq ← pyIntOrZero py (metadata.getD "bundle_seq")
    pure (.refused { outcome := "incomplete_bundle", bundleSeq := some bundleSeq })
  else
    match ((metadata.lookup "frames").getD (.obj [])).isObject with
    | none => .ok (.refused { outcome := "malformed_frames" })
    | some framesMeta =>
      match decodeFrames decodeFrame (wanted py c) framesMeta [] with
      | .error record => .ok (.refused record)
      | .ok decoded =>
        if decoded.isEmpty then .ok (.refused { outcome := "no_decodable_frames" })
        else do
          let b ← bundleOf py now metadata decoded
          pure (.bundle b)

/-! ## The call -/

def Client.setPollOutcome (c : Client F) (record : PollRecord) : Client F :=
  { c with
      pollOutcomes := fun outcome =>
        if outcome = record.outcome then c.pollOutcomes outcome + 1 else c.pollOutcomes outcome
      lastPoll := record }

/-- `_poll_health`, with the messages that wait on the health socket. -/
def pollHealth (wire : Wire) (c : Client F) (waiting : List Message) : Except PyError (Client F) :=
  match waiting.getLast? with
  | none => .ok c
  | some latest =>
    match decodeMessageForTopic wire c.healthTopic latest with
    | .error e => .error e
    | .ok none => .ok c
    | .ok (some decoded) => .ok { c with latestHealth := some decoded }

/-- The drain loop: the kept message, and what is left in the queue. -/
def drain (decode : Message → Except PyError (Option Object)) :
    List Message → Option Object → Except PyError (Option Object) × List Message
  | [], metadata => (.ok metadata, [])
  | parts :: queue, metadata =>
    match decode parts with
    | .error e => (.error e, queue)
    | .ok none => drain decode queue metadata
    | .ok (some candidate) => drain decode queue (some candidate)

/-- The part of `_poll_locked` after the first `_poll_health`; `healthAfter` waits at the second one. -/
def pollBundle (wire : Wire) (py : PyText) (decodeFrame : String → Object → Except PyError F) (now : Double)
    (c : Client F)
    (queue healthAfter : List Message) : Client F × List Message × Except PyError (Option (CameraBundle F)) :=
  if queue.isEmpty then (c.setPollOutcome { outcome := "no_message" }, queue, .ok none)
  else
    match drain (decodeMessageForTopic wire c.topic) queue none with
    | (.error e, rest) => (c, rest, .error e)
    | (.ok none, rest) => (c.setPollOutcome { outcome := "no_exact_topic_message" }, rest, .ok none)
    | (.ok (some metadata), rest) =>
      match judge py decodeFrame now c metadata with
      | .error e => (c, rest, .error e)
      | .ok (.refused record) => (c.setPollOutcome record, rest, .ok none)
      | .ok (.bundle b) =>
        match pollHealth wire c healthAfter with
        | .error e => (c, rest, .error e)
        | .ok c =>
          let record : PollRecord :=
            { outcome := "ok", bundleSeq := some b.bundleSeq, frameCount := some b.frames.length }
          ({ c with latest := some b }.setPollOutcome record, rest, .ok (some b))

/-- `_poll_locked` at a queue: the client afterwards, the messages left and the result.  The socket is readable
unless the queue is empty; `health` and `healthAfter` wait at the two calls of `_poll_health`. -/
def pollLocked (wire : Wire) (py : PyText) (decodeFrame : String → Object → Except PyError F) (now : Double)
    (c : Client F)
    (queue health healthAfter : List Message) : Client F × List Message × Except PyError (Option (CameraBundle F)) :=
  if c.closed then (c, queue, .ok none)
  else
    match pollHealth wire c health with
    | .error e => (c, queue, .error e)
    | .ok c => pollBundle wire py decodeFrame now c queue healthAfter

end PolicyRunner.CameraBundleClient
