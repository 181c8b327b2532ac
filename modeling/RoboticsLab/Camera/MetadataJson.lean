import RoboticsLab.Lib.Utf8
import RoboticsLab.Lib.PyValue

/-!
# `metadata_publisher.cpp`: metadata as JSON texts

A text is written piece by piece into an `ostringstream`, here the list of the pieces.  The stream keeps
`std::fixed` and its precision of three once they are set, and each text sets them with its first `double`, so
`fixed3` prints all of them.  Strings are byte strings; `esc` knows the quote, the backslash and three control
characters.
-/

namespace CameraServer.Metadata

open Utf8 (Bytes)

/-! ## The data -/

/-- A `std::map` with strings as keys. -/
structure StdMap (α : Type) where
  entries : List (Bytes × α)
  sorted : entries.Pairwise fun a b => a.1 < b.1

def StdMap.find {α : Type} (m : StdMap α) (key : Bytes) : Option α := m.entries.lookup key

def StdMap.empty {α : Type} : StdMap α := ⟨[], .nil⟩

structure FrameMeta where
  cameraName : Bytes
  serial : Bytes
  stream : Bytes
  frameNumber : UInt64
  hostArrivalTimeNs : UInt64
  sensorTimestampNs : UInt64
  realsenseTimestampMs : Double
  actualExposureUs : Option Double
  gainLevel : Option Double
  autoExposure : Option Bool
  width : Int32
  height : Int32
  strideBytes : Int32
  format : Bytes
  shmName : Bytes
  ringName : Bytes
  slotIndex : UInt32
  shmOffset : UInt64
  sizeBytes : UInt64
  seq : UInt64
  valid : Bool

structure FrameBundleMeta where
  groupName : Bytes
  bundleSeq : UInt64
  bundleTimeNs : UInt64
  hardwareSynced : Bool
  syncPolicy : Bytes
  maxTimeDiffMs : Double
  complete : Bool
  frames : StdMap FrameMeta
  dropCounters : StdMap UInt64

structure StreamStats where
  frameCount : UInt64
  frameNumberGapDropCount : UInt64
  sharedMemoryWriteErrors : UInt64
  internalQueueDropCount : UInt64
  recorderDropCount : UInt64
  frameNumberGapDropDelta : UInt64
  internalQueueDropDelta : UInt64
  recorderDropDelta : UInt64
  sharedMemoryWriteErrorDelta : UInt64
  lastFrameTimeNs : UInt64
  fpsEstimate : Double
  fpsWindowHz : Double

structure CameraCaptureStats where
  queueDropCount : UInt64
  queueDropDelta : UInt64
  queueDepth : UInt64
  callbackEnqueueUsP95 : Double
  callbackEnqueueUsMax : Double
  queueWaitUsP95 : Double
  queueWaitUsMax : Double
  frameProcessUsP95 : Double
  frameProcessUsMax : Double

structure CameraReconnectStats where
  attemptCount : UInt64
  successCount : UInt64
  disconnectCount : UInt64
  consecutiveFailures : UInt32
  exhausted : Bool
  lastDisconnectTimeNs : UInt64
  lastReconnectTimeNs : UInt64
  lastError : Bytes

structure BundleStats where
  topic : Bytes
  bundleSeq : UInt64
  completeBundleCount : UInt64
  incompleteRetryCount : UInt64
  droppedMasterCount : UInt64
  publishRateHz : Double
  lastSkewMs : Double
  skewP50Ms : Double
  skewP95Ms : Double
  skewMaxMs : Double

structure HealthSnapshot where
  hostTimeNs : UInt64
  uptimeSec : Double
  mode : Bytes
  status : Bytes
  statusReasons : List Bytes
  streamStatus : StdMap Bytes
  cameraConnected : StdMap Bool
  cameraSerial : StdMap Bytes
  realsenseSdkVersion : Bytes
  realsenseBackend : Bytes
  cameraFirmwareVersion : StdMap Bytes
  cameraRecommendedFirmwareVersion : StdMap Bytes
  cameraPhysicalPort : StdMap Bytes
  cameraProductId : StdMap Bytes
  cameraUsbType : StdMap Bytes
  streamStats : StdMap StreamStats
  cameraCaptureStats : StdMap CameraCaptureStats
  cameraReconnectStats : StdMap CameraReconnectStats
  bundleGroups : StdMap BundleStats
  bundleSeq : UInt64
  completeBundleCount : UInt64
  incompleteBundleCount : UInt64
  maxTimeDiffMs : Double
  shmName : Bytes
  shmSizeBytes : UInt64
  metadataPublishCount : UInt64
  metadataPublishErrors : UInt64
  recorderEnabled : Bool
  recorderQueueDepth : UInt64
  recorderDroppedByQueue : UInt64

/-! ## Pieces -/

/-- A literal of the source. -/
def lit (s : String) : Bytes := Utf8.ofAscii s.toList

def escByte (c : UInt8) : Bytes :=
  if c = 0x22 then lit "\\\""
  else if c = 0x5C then lit "\\\\"
  else if c = 0x0A then lit "\\n"
  else if c = 0x0D then lit "\\r"
  else if c = 0x09 then lit "\\t"
  else [c]

def esc (s : Bytes) : Bytes := s.flatMap escByte

/-- `'"' << esc(s) << '"'`. -/
def quoted (s : Bytes) : Bytes := lit "\"" ++ (esc s ++ lit "\"")

/-- `"\"key\":" << value`. -/
def field (key : String) (value : Bytes) : Bytes := lit "\"" ++ (lit key ++ (lit "\":" ++ value))

/-- `'"' << esc(key) << "\":" << value`. -/
def entry (key value : Bytes) : Bytes := quoted key ++ (lit ":" ++ value)

def comma : Bytes := lit ","

/-- A field, and the comma after it, if there is a value. -/
def optionalField {α : Type} (key : String) (print : α → Bytes) : Option α → Bytes
  | some value => field key (print value) ++ comma
  | none => []

def braces (body : Bytes) : Bytes := lit "\x7b" ++ (body ++ lit "\x7d")

def brackets (body : Bytes) : Bytes := lit "[" ++ (body ++ lit "]")

/-- A loop that writes a comma before every piece but the first. -/
def separated : List Bytes → Bytes
  | [] => []
  | [piece] => piece
  | piece :: pieces => piece ++ (comma ++ separated pieces)

def decimal (n : ℕ) : Bytes := Utf8.ofAscii (Nat.toDigits 10 n)

def integer (i : ℤ) : Bytes := if i < 0 then lit "-" ++ decimal i.natAbs else decimal i.natAbs

/-- `(b ? "true" : "false")`. -/
def boolean (b : Bool) : Bytes := if b then lit "true" else lit "false"

/-- The last three decimals of a number of thousandths. -/
def threeDigits (n : ℕ) : List Char := [(n / 100 % 10).digitChar, (n / 10 % 10).digitChar, (n % 10).digitChar]

/-- A `double` under `std::fixed << std::setprecision(3)`, rounded to even on ties. -/
def fixed3 : Double → Bytes
  | .fin q =>
    let n := (pyRound (|q| * 1000)).toNat
    let digits := decimal (n / 1000) ++ (lit "." ++ Utf8.ofAscii (threeDigits n))
    if q < 0 then lit "-" ++ digits else digits
  | .nan => lit "nan"
  | .posInf => lit "inf"
  | .negInf => lit "-inf"

/-! ## Frames and bundles -/

def jsonFrameFields (m : FrameMeta) (includeSchema : Bool) : Bytes := List.flatten
  [if includeSchema then field "schema" (lit "\"camera_server.frame.v1\"") ++ comma else [],
    field "camera_name" (quoted m.cameraName), comma,
    field "serial" (quoted m.serial), comma,
    field "stream" (quoted m.stream), comma,
    field "frame_number" (decimal m.frameNumber.toNat), comma,
    field "host_arrival_time_ns" (decimal m.hostArrivalTimeNs.toNat), comma,
    field "sensor_timestamp_ns" (decimal m.sensorTimestampNs.toNat), comma,
    field "realsense_timestamp_ms" (fixed3 m.realsenseTimestampMs), comma,
    optionalField "actual_exposure_us" fixed3 m.actualExposureUs,
    optionalField "gain_level" fixed3 m.gainLevel,
    optionalField "auto_exposure" boolean m.autoExposure,
    field "width" (integer m.width.toInt), comma,
    field "height" (integer m.height.toInt), comma,
    field "stride_bytes" (integer m.strideBytes.toInt), comma,
    field "format" (quoted m.format), comma,
    field "shm_name" (quoted m.shmName), comma,
    field "ring_name" (quoted m.ringName), comma,
    field "slot_index" (decimal m.slotIndex.toNat), comma,
    field "shm_offset" (decimal m.shmOffset.toNat), comma,
    field "size_bytes" (decimal m.sizeBytes.toNat), comma,
    field "seq" (decimal m.seq.toNat), comma,
    field "valid" (boolean m.valid)]

def bundleToJson (b : FrameBundleMeta) : Bytes := braces (List.flatten
  [field "schema" (lit "\"camera_server.bundle.v1\""), comma,
    field "group_name" (quoted b.groupName), comma,
    field "bundle_seq" (decimal b.bundleSeq.toNat), comma,
    field "bundle_time_ns" (decimal b.bundleTimeNs.toNat), comma,
    field "hardware_synced" (boolean b.hardwareSynced), comma,
    field "sync_policy" (quoted b.syncPolicy), comma,
    field "max_time_diff_ms" (fixed3 b.maxTimeDiffMs), comma,
    field "complete" (boolean b.complete), comma,
    field "frames" (braces (separated (b.frames.entries.map fun e => entry e.1 (braces (jsonFrameFields e.2 false))))),
    comma,
    field "drop_counters" (braces (separated (b.dropCounters.entries.map fun e => entry e.1 (decimal e.2.toNat))))])

/-! ## Health -/

def bundleGroupJson (b : BundleStats) : Bytes := braces (List.flatten
  [field "topic" (quoted b.topic), comma,
    field "bundle_seq" (decimal b.bundleSeq.toNat), comma,
    field "complete_bundle_count" (decimal b.completeBundleCount.toNat), comma,
    field "incomplete_retry_count" (decimal b.incompleteRetryCount.toNat), comma,
    field "dropped_master_count" (decimal b.droppedMasterCount.toNat), comma,
    field "publish_rate_hz" (fixed3 b.publishRateHz), comma,
    field "last_skew_ms" (fixed3 b.lastSkewMs), comma,
    field "skew_p50_ms" (fixed3 b.skewP50Ms), comma,
    field "skew_p95_ms" (fixed3 b.skewP95Ms), comma,
    field "skew_max_ms" (fixed3 b.skewMaxMs)])

def captureJson (c : CameraCaptureStats) : Bytes := braces (List.flatten
  [field "queue_depth" (decimal c.queueDepth.toNat), comma,
    field "queue_drop_count" (decimal c.queueDropCount.toNat), comma,
    field "queue_drop_delta" (decimal c.queueDropDelta.toNat), comma,
    field "callback_enqueue_us_p95" (fixed3 c.callbackEnqueueUsP95), comma,
    field "callback_enqueue_us_max" (fixed3 c.callbackEnqueueUsMax), comma,
    field "queue_wait_us_p95" (fixed3 c.queueWaitUsP95), comma,
    field "queue_wait_us_max" (fixed3 c.queueWaitUsMax), comma,
    field "frame_process_us_p95" (fixed3 c.frameProcessUsP95), comma,
    field "frame_process_us_max" (fixed3 c.frameProcessUsMax)])

def reconnectJson (r : CameraReconnectStats) : Bytes := braces (List.flatten
  [field "attempt_count" (decimal r.attemptCount.toNat), comma,
    field "success_count" (decimal r.successCount.toNat), comma,
    field "disconnect_count" (decimal r.disconnectCount.toNat), comma,
    field "consecutive_failures" (decimal r.consecutiveFailures.toNat), comma,
    field "exhausted" (boolean r.exhausted), comma,
    field "last_disconnect_time_ns" (decimal r.lastDisconnectTimeNs.toNat), comma,
    field "last_reconnect_time_ns" (decimal r.lastReconnectTimeNs.toNat), comma,
    field "last_error" (quoted r.lastError)])

/-- The streams of a camera that the health text goes through. -/
def suffixes : List String := ["color", "depth", "ir_left", "ir_right"]

def streamKey (camera : Bytes) (stream : String) : Bytes := camera ++ (lit "." ++ lit stream)

def dropsJson (s : StreamStats) : Bytes := braces (List.flatten
  [field "frame_number_gap" (decimal s.frameNumberGapDropCount.toNat), comma,
    field "internal_queue" (decimal s.internalQueueDropCount.toNat), comma,
    field "recorder" (decimal s.recorderDropCount.toNat), comma,
    field "total" (decimal (s.frameNumberGapDropCount + s.internalQueueDropCount + s.recorderDropCount).toNat), comma,
    field "frame_number_gap_delta" (decimal s.frameNumberGapDropDelta.toNat), comma,
    field "internal_queue_delta" (decimal s.internalQueueDropDelta.toNat), comma,
    field "recorder_delta" (decimal s.recorderDropDelta.toNat), comma,
    field "shared_memory_write_error_delta" (decimal s.sharedMemoryWriteErrorDelta.toNat)])

def lastFrameAgeMs (hostTimeNs lastFrameTimeNs : UInt64) : Double :=
  if lastFrameTimeNs < hostTimeNs then .fin ((hostTimeNs - lastFrameTimeNs).toNat / 1000000) else .fin 0

/-- The fields of one stream, each after a comma. -/
def streamFields (h : HealthSnapshot) (camera : Bytes) (suffix : String) : Bytes :=
  match h.streamStats.find (streamKey camera suffix) with
  | none => []
  | some s => List.flatten
    [comma, field ("status_" ++ suffix) (quoted ((h.streamStatus.find (streamKey camera suffix)).getD (lit "unknown"))),
      comma, field ("fps_" ++ suffix) (fixed3 s.fpsEstimate),
      comma, field ("fps_window_" ++ suffix) (fixed3 s.fpsWindowHz),
      comma, field ("drop_count_" ++ suffix) (decimal s.frameNumberGapDropCount.toNat),
      comma, field ("drops_" ++ suffix) (dropsJson s),
      comma, field ("frame_count_" ++ suffix) (decimal s.frameCount.toNat),
      comma, field ("last_frame_age_ms_" ++ suffix) (fixed3 (lastFrameAgeMs h.hostTimeNs s.lastFrameTimeNs))]

/-- A comma and a field, if the map has the camera. -/
def foundField {α : Type} (key : String) (print : α → Bytes) : Option α → Bytes
  | some value => comma ++ field key (print value)
  | none => []

/-- `map.count(camera) ? map.at(camera) : ""`. -/
def orEmpty (m : StdMap Bytes) (camera : Bytes) : Bytes := (m.find camera).getD []

def cameraJson (h : HealthSnapshot) (camera : Bytes) (connected : Bool) : Bytes := braces (List.flatten
  [field "serial" (quoted (orEmpty h.cameraSerial camera)), comma,
    field "connected" (boolean connected), comma,
    field "firmware_version" (quoted (orEmpty h.cameraFirmwareVersion camera)), comma,
    field "recommended_firmware_version" (quoted (orEmpty h.cameraRecommendedFirmwareVersion camera)), comma,
    field "physical_port" (quoted (orEmpty h.cameraPhysicalPort camera)), comma,
    field "product_id" (quoted (orEmpty h.cameraProductId camera)), comma,
    field "usb_type" (quoted (orEmpty h.cameraUsbType camera)),
    foundField "capture" captureJson (h.cameraCaptureStats.find camera),
    foundField "reconnect" reconnectJson (h.cameraReconnectStats.find camera),
    (suffixes.map (streamFields h camera)).flatten])

def writeErrors (h : HealthSnapshot) : UInt64 :=
  h.streamStats.entries.foldl (fun n e => n + e.2.sharedMemoryWriteErrors) 0

def healthToJson (h : HealthSnapshot) : Bytes := braces (List.flatten
  [field "schema" (lit "\"camera_server.health.v1\""), comma,
    field "host_time_ns" (decimal h.hostTimeNs.toNat), comma,
    field "uptime_sec" (fixed3 h.uptimeSec), comma,
    field "mode" (quoted h.mode), comma,
    field "status" (quoted h.status), comma,
    field "realsense" (braces (List.flatten
      [field "sdk_version" (quoted h.realsenseSdkVersion), comma, field "backend" (quoted h.realsenseBackend)])), comma,
    field "status_reasons" (brackets (separated (h.statusReasons.map quoted))), comma,
    field "bundle" (braces (List.flatten
      [field "bundle_seq" (decimal h.bundleSeq.toNat), comma,
        field "complete_bundle_count" (decimal h.completeBundleCount.toNat), comma,
        field "incomplete_bundle_count" (decimal h.incompleteBundleCount.toNat), comma,
        field "max_time_diff_ms" (fixed3 h.maxTimeDiffMs)])), comma,
    field "bundle_groups" (braces (separated (h.bundleGroups.entries.map fun e => entry e.1 (bundleGroupJson e.2)))),
    comma,
    field "cameras" (braces (separated (h.cameraConnected.entries.map fun e => entry e.1 (cameraJson h e.1 e.2)))),
    comma,
    field "shared_memory" (braces (List.flatten
      [field "name" (quoted h.shmName), comma,
        field "size_bytes" (decimal h.shmSizeBytes.toNat), comma,
        field "write_errors" (decimal (writeErrors h).toNat)])), comma,
    field "metadata" (braces (List.flatten
      [field "publish_count" (decimal h.metadataPublishCount.toNat), comma,
        field "publish_errors" (decimal h.metadataPublishErrors.toNat)])), comma,
    field "recorder" (braces (List.flatten
      [field "enabled" (boolean h.recorderEnabled), comma,
        field "queue_depth" (decimal h.recorderQueueDepth.toNat), comma,
        field "dropped_by_queue" (decimal h.recorderDroppedByQueue.toNat)]))])

end CameraServer.Metadata
