import RoboticsLab.Camera.ShmRing
import RoboticsLab.Lib.Binary64
import RoboticsLab.Lib.Numerals

/-!
# `camera_server/sync/frame_synchronizer.cpp`: bundles of frames

`pushFrame` is `FrameSynchronizer::push_frame`: the frame goes into the buffer of its stream, and the latest
frame of the master stream is emitted with a frame of every required stream as soon as there are such
frames.  `resetCameraGeneration` drops what is buffered when a camera of the group has restarted.
`validateBundleGroups` is the loop of `validate_config` over the bundle groups.  A `std::map` of buffers or of
selected frames is a function, with no frames for a key that is not in the map.
-/

namespace CameraServer

/-! ## Frames, groups and bundles -/

/-- A `FrameMeta` as the capture thread hands it on. -/
structure StreamFrame extends FrameMeta where
  valid : Bool
  hostArrivalTimeNs_lt : hostArrivalTimeNs < 2 ^ 64

inductive SyncMode
  | software
  | hardware
deriving DecidableEq

structure SyncConfig where
  mode : SyncMode
  bundlePolicy : String
  publishIncompleteBundles : Bool

structure BundleGroupConfig where
  name : String
  topic : String
  masterStream : String
  requiredStreams : List String
  maxBundleTimeDiffMs : Double
  publishIncompleteBundles : Bool

structure FrameBundleMeta where
  groupName : String
  bundleSeq : ℕ
  bundleTimeNs : ℕ
  hardwareSynced : Bool
  syncPolicy : String
  maxTimeDiffMs : Double
  complete : Bool
  frames : String → Option StreamFrame
  dropCounters : List (String × ℕ)

/-- The bundle groups in `validate_config`; `names` and `topics` are those of the groups before. -/
def validateBundleGroups (available : List String) (names topics : List String) :
    List BundleGroupConfig → Except String Unit
  | [] => .ok ()
  | group :: groups =>
    if group.name = "" ∨ group.name ∈ names then
      .error "bundle group names must be non-empty and unique"
    else if group.topic = "" ∨ group.topic ∈ topics then
      .error "bundle group topics must be non-empty and unique"
    else if group.requiredStreams = [] then
      .error ("bundle group " ++ group.name ++ " requires at least one stream")
    else if group.masterStream ∉ group.requiredStreams then
      .error ("bundle group " ++ group.name ++ " master_stream must be required")
    else if group.maxBundleTimeDiffMs.le (.fin 0) then
      .error ("bundle group " ++ group.name ++ " max_bundle_time_diff_ms must be positive")
    else match group.requiredStreams.find? (· ∉ available) with
    | some key => .error ("bundle group " ++ group.name ++ " references unknown stream " ++ key)
    | none => validateBundleGroups available (group.name :: names) (group.topic :: topics) groups

/-! ## Choosing frames -/

def timeDiff (a b : ℕ) : ℕ := if b < a then a - b else b - a

/-- One round of the loop of `nearest_by_timestamp`: the first of the nearest frames is kept. -/
def nearer (targetTimeNs : ℕ) (best : Option StreamFrame) (frame : StreamFrame) : Option StreamFrame :=
  match best with
  | none => some frame
  | some b =>
    if timeDiff frame.hostArrivalTimeNs targetTimeNs < timeDiff b.hostArrivalTimeNs targetTimeNs then some frame
    else some b

def nearestByTimestamp (frames : List StreamFrame) (targetTimeNs : ℕ) : Option StreamFrame :=
  frames.foldl (nearer targetTimeNs) none

def exactFrameNumber (frames : List StreamFrame) (frameNumber : ℕ) : Option StreamFrame :=
  frames.find? fun frame => frame.frameNumber = frameNumber

def trimBuffer (frames : List StreamFrame) (maxSize : ℕ) : List StreamFrame :=
  frames.drop (frames.length - maxSize)

def streamBelongsToCamera (streamKey cameraName : String) : Bool :=
  cameraName.length < streamKey.length && streamKey.toList.take cameraName.length = cameraName.toList &&
    streamKey.toList[cameraName.length]? = some '.'

/-! ## The synchronizer -/

structure SynchronizerConfig where
  sync : SyncConfig
  group : BundleGroupConfig
  statsWindowSec : Double

structure FrameSynchronizer where
  buffers : String → List StreamFrame := fun _ => []
  lastEmittedMasterFrameNumber : ℕ := 0
  bundleSeq : ℕ := 0
  completeBundleCount : ℕ := 0
  incompleteBundleCount : ℕ := 0
  incompleteRetryCount : ℕ := 0
  droppedMasterCount : ℕ := 0
  pendingMasterFrameNumber : ℕ := 0
  lastMaxTimeDiffMs : Double := .fin 0
  completedSamples : List (ℕ × Double) := []

def maxBufferedFrames : ℕ := 64

def uint64Max : ℕ := 2 ^ 64 - 1

namespace FrameSynchronizer

variable (c : SynchronizerConfig) (s : FrameSynchronizer)

/-- The buffers with a new frame. -/
def bufferFrame (frame : StreamFrame) : String → List StreamFrame :=
  Function.update s.buffers frame.ringName (trimBuffer (s.buffers frame.ringName ++ [frame]) maxBufferedFrames)

/-- A master frame that was waiting and is replaced counts as dropped. -/
def notePending (master : StreamFrame) : FrameSynchronizer :=
  if master.frameNumber ≠ 0 ∧ master.frameNumber ≠ s.pendingMasterFrameNumber then
    if s.pendingMasterFrameNumber ≠ 0 ∧ s.lastEmittedMasterFrameNumber < s.pendingMasterFrameNumber then
      { s with
        droppedMasterCount := addU64 s.droppedMasterCount 1
        incompleteBundleCount := addU64 s.incompleteBundleCount 1
        pendingMasterFrameNumber := master.frameNumber }
    else { s with pendingMasterFrameNumber := master.frameNumber }
  else s

/-- What the loop over the required streams has found so far. -/
structure Selection where
  selected : String → Option StreamFrame
  complete : Bool
  minT : ℕ
  maxT : ℕ

def candidate (buffers : String → List StreamFrame) (master : StreamFrame) (key : String) : Option StreamFrame :=
  if key = master.ringName then some master
  else match c.sync.mode with
  | .hardware => exactFrameNumber (buffers key) master.frameNumber
  | .software => nearestByTimestamp (buffers key) master.hostArrivalTimeNs

def selectKey (buffers : String → List StreamFrame) (master : StreamFrame) (sel : Selection) (key : String) :
    Selection :=
  match candidate c buffers master key with
  | none => { sel with complete := false }
  | some frame =>
    if frame.valid then
      { sel with
        selected := Function.update sel.selected key (some frame)
        minT := min sel.minT frame.hostArrivalTimeNs
        maxT := max sel.maxT frame.hostArrivalTimeNs }
    else { sel with complete := false }

def select (buffers : String → List StreamFrame) (master : StreamFrame) : Selection :=
  c.group.requiredStreams.foldl (selectKey c buffers master)
    ⟨Function.update (fun _ => none) master.ringName (some master), true, uint64Max, 0⟩

def Selection.diffMs (sel : Selection) : Double :=
  if sel.minT ≠ uint64Max ∧ sel.minT ≤ sel.maxT then .ofNatDiv (sel.maxT - sel.minT) (10 ^ 6) else .fin 0

/-- All streams were found, and the skew is not over the limit. -/
def Selection.isComplete (sel : Selection) : Bool :=
  sel.complete && !c.group.maxBundleTimeDiffMs.lt sel.diffMs

/-- The samples of the statistics, without those that have left the window. -/
def pruneSamples (sampleTimeNs : ℕ) (samples : List (ℕ × Double)) : List (ℕ × Double) :=
  samples.dropWhile fun sample =>
    sample.1 < sampleTimeNs && (c.statsWindowSec.mul (.fin (10 ^ 9))).round.toU64 < sampleTimeNs - sample.1

/-- What is left of a buffer after a bundle. -/
def pruneBuffer (complete : Bool) (master : StreamFrame) (frames : List StreamFrame) : List StreamFrame :=
  match c.sync.mode with
  | .hardware =>
    let kept := frames.dropWhile fun frame => frame.frameNumber < master.frameNumber
    if complete then kept.dropWhile fun frame => frame.frameNumber ≤ master.frameNumber else kept
  | .software =>
    let limitNs := (c.group.maxBundleTimeDiffMs.mul (.fin (10 ^ 6))).round.toU64
    let horizonNs := if limitNs < master.hostArrivalTimeNs then master.hostArrivalTimeNs - limitNs else 0
    frames.dropWhile fun frame => frame.hostArrivalTimeNs < horizonNs

def pruneBuffers (complete : Bool) (master : StreamFrame) (buffers : String → List StreamFrame) :
    String → List StreamFrame :=
  c.group.requiredStreams.foldl
    (fun buffers key => Function.update buffers key (pruneBuffer c complete master (buffers key))) buffers

def bundleOf (sel : Selection) (master : StreamFrame) (dropCounters : List (String × ℕ)) : FrameBundleMeta where
  groupName := c.group.name
  bundleSeq := addU64 s.bundleSeq 1
  bundleTimeNs := if sel.minT = uint64Max then master.hostArrivalTimeNs else sel.minT + (sel.maxT - sel.minT) / 2
  hardwareSynced := c.sync.mode = .hardware
  syncPolicy := c.sync.bundlePolicy
  maxTimeDiffMs := sel.diffMs
  complete := sel.isComplete c
  frames := sel.selected
  dropCounters := dropCounters

/-- The synchronizer after it has emitted `master` with the selection `sel`. -/
def emitted (sel : Selection) (master : StreamFrame) : FrameSynchronizer :=
  let sampleTimeNs := if sel.maxT = 0 then master.hostArrivalTimeNs else sel.maxT
  { s with
    bundleSeq := addU64 s.bundleSeq 1
    completeBundleCount :=
      if sel.isComplete c then addU64 s.completeBundleCount 1 else s.completeBundleCount
    incompleteBundleCount :=
      if sel.isComplete c then s.incompleteBundleCount else addU64 s.incompleteBundleCount 1
    completedSamples :=
      if sel.isComplete c then pruneSamples c sampleTimeNs (s.completedSamples ++ [(sampleTimeNs, sel.diffMs)])
      else s.completedSamples
    lastEmittedMasterFrameNumber :=
      if master.frameNumber ≠ 0 then master.frameNumber else s.lastEmittedMasterFrameNumber
    buffers := pruneBuffers c (sel.isComplete c) master s.buffers }

/-- `push_frame`. -/
def pushFrame (frame : StreamFrame) (dropCounters : List (String × ℕ)) :
    FrameSynchronizer × Option FrameBundleMeta :=
  if frame.ringName ∉ c.group.requiredStreams then (s, none)
  else
    let s := { s with buffers := s.bufferFrame frame }
    match (s.buffers c.group.masterStream).getLast? with
    | none => (s, none)
    | some master =>
      if master.frameNumber ≠ 0 ∧ master.frameNumber ≤ s.lastEmittedMasterFrameNumber then (s, none)
      else
        let s := s.notePending master
        let sel := select c s.buffers master
        let s := { s with lastMaxTimeDiffMs := sel.diffMs }
        if !sel.isComplete c && !c.sync.publishIncompleteBundles then
          ({ s with incompleteRetryCount := addU64 s.incompleteRetryCount 1 }, none)
        else (s.emitted c sel master, some (s.bundleOf c sel master dropCounters))

/-- A camera of which a required stream is. -/
def affected (cameraName : String) : Bool :=
  c.group.requiredStreams.any fun key => streamBelongsToCamera key cameraName

/-- `reset_camera_generation`. -/
def resetCameraGeneration (cameraName : String) : FrameSynchronizer × Bool :=
  if affected c cameraName then
    ({ s with
      buffers := fun _ => []
      pendingMasterFrameNumber := 0
      completedSamples := []
      lastMaxTimeDiffMs := .fin 0
      lastEmittedMasterFrameNumber :=
        if streamBelongsToCamera c.group.masterStream cameraName then 0 else s.lastEmittedMasterFrameNumber },
      true)
  else (s, false)

end FrameSynchronizer

end CameraServer
