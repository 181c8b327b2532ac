import RoboticsLab.Lib.Fifo
import Mathlib.Logic.Function.Basic

/-!
# The stream statistics of the camera manager

`handle_frame` writes a frame to shared memory, offers it to the recorder and pushes its metadata on the one
queue of all streams, which drops its oldest entry when it is full; `metadata_loop` pops and counts.  The two
share the statistics and the queue, each under its lock, so a call is a row of sections (`Handling`) and so is a
turn of the loop (`MetadataLoop`), and the sections of all streams interleave.  Frames of one stream are handled
one after the other.
-/

namespace CameraServer

/-- `StreamStats`, without the rates and the deltas. -/
structure StreamStats where
  frameCount : ℕ := 0
  frameNumberGapDropCount : ℕ := 0
  sharedMemoryWriteCount : ℕ := 0
  sharedMemoryWriteErrors : ℕ := 0
  internalQueueDropCount : ℕ := 0
  recorderDropCount : ℕ := 0
  lastFrameNumber : ℕ := 0
  firstFrameTimeNs : ℕ := 0
  lastFrameTimeNs : ℕ := 0

/-- What `drop_counters` has for a stream. -/
def StreamStats.totalDrops (st : StreamStats) : ℕ :=
  st.frameNumberGapDropCount + st.internalQueueDropCount + st.recorderDropCount

/-- `ProcessedFrame`: what is read of its metadata.  `ring_name` is the stream's key. -/
structure ProcessedFrame where
  ringName : String
  frameNumber : ℕ
  hostArrivalTimeNs : ℕ

/-- `process_frame_metadata` up to the drop counters. -/
def StreamStats.count (st : StreamStats) (f : ProcessedFrame) : StreamStats where
  frameCount := st.frameCount + 1
  frameNumberGapDropCount :=
    if st.lastFrameNumber ≠ 0 ∧ st.lastFrameNumber + 1 < f.frameNumber then
      st.frameNumberGapDropCount + (f.frameNumber - st.lastFrameNumber - 1)
    else st.frameNumberGapDropCount
  sharedMemoryWriteCount := st.sharedMemoryWriteCount + 1
  sharedMemoryWriteErrors := st.sharedMemoryWriteErrors
  internalQueueDropCount := st.internalQueueDropCount
  recorderDropCount := st.recorderDropCount
  lastFrameNumber := f.frameNumber
  firstFrameTimeNs := if st.firstFrameTimeNs = 0 then f.hostArrivalTimeNs else st.firstFrameTimeNs
  lastFrameTimeNs := f.hostArrivalTimeNs

/-- Where the `handle_frame` of a stream is. -/
inductive Handling
  | idle
  /-- `write_frame` threw. -/
  | writeFailed
  /-- The frame is in shared memory. -/
  | written (frameNumber hostArrivalTimeNs : ℕ)
  /-- The recorder did not accept it, which is not counted yet. -/
  | refused (frameNumber hostArrivalTimeNs : ℕ)
  | recorded (frameNumber hostArrivalTimeNs : ℕ)
  /-- The push dropped an entry, which is not counted yet. -/
  | pushedOut
deriving DecidableEq

/-- Where `metadata_loop` is. -/
inductive MetadataLoop
  | waiting
  | popped (frame : ProcessedFrame)
  /-- `push_frame` and `publish_bundle` with the drop counters of all streams. -/
  | publishing (drops : String → ℕ)

structure FrameFlow where
  stats : String → StreamStats := fun _ => {}
  queue : List ProcessedFrame := []
  handling : String → Handling := fun _ => .idle
  loop : MetadataLoop := .waiting

/-- One section. -/
inductive FrameEvent
  /-- The call, up to `write_frame`; a frame without a payload fails too. -/
  | handleFrame (key : String) (frameNumber hostArrivalTimeNs : ℕ) (written : Bool)
  /-- The recorder; `refused` when it is enabled and does not accept the frame. -/
  | record (key : String) (refused : Bool)
  /-- The next section of the stream's call. -/
  | proceed (key : String)
  /-- The next section of the loop. -/
  | metadataLoop
deriving DecidableEq

namespace FrameFlow

def setHandling (s : FrameFlow) (key : String) (h : Handling) : FrameFlow :=
  { s with handling := Function.update s.handling key h }

def setStats (s : FrameFlow) (key : String) (st : StreamStats) : FrameFlow :=
  { s with stats := Function.update s.stats key st }

def setQueue (s : FrameFlow) (queue : List ProcessedFrame) : FrameFlow := { s with queue := queue }

/-- The next section of `handle_frame`; the queue is open. -/
def proceed (capacity : ℕ) (key : String) (s : FrameFlow) : FrameFlow :=
  match s.handling key with
  | .writeFailed =>
    (s.setStats key { s.stats key with
      sharedMemoryWriteErrors := (s.stats key).sharedMemoryWriteErrors + 1 }).setHandling key .idle
  | .refused n t =>
    (s.setStats key { s.stats key with recorderDropCount := (s.stats key).recorderDropCount + 1 }).setHandling key
      (.recorded n t)
  | .recorded n t =>
    (s.setQueue (Fifo.push capacity s.queue ⟨key, n, t⟩)).setHandling key
      (if capacity ≤ s.queue.length then .pushedOut else .idle)
  | .pushedOut =>
    (s.setStats key { s.stats key with internalQueueDropCount := (s.stats key).internalQueueDropCount + 1 }).setHandling
      key .idle
  | .idle => s
  | .written _ _ => s

/-- The next section of `metadata_loop`. -/
def metadataLoop (s : FrameFlow) : FrameFlow :=
  match s.loop with
  | .waiting => match s.queue with
    | [] => s
    | f :: queue => { s with queue := queue, loop := .popped f }
  | .popped f =>
    let stats := Function.update s.stats f.ringName ((s.stats f.ringName).count f)
    { s with stats := stats, loop := .publishing fun key => (stats key).totalDrops }
  | .publishing _ => { s with loop := .waiting }

/-- A section that is not the next one does nothing. -/
def step (capacity : ℕ) (s : FrameFlow) : FrameEvent → FrameFlow
  | .handleFrame key n t written => match s.handling key with
    | .idle => s.setHandling key (if written then .written n t else .writeFailed)
    | _ => s
  | .record key refused => match s.handling key with
    | .written n t => s.setHandling key (if refused then .refused n t else .recorded n t)
    | _ => s
  | .proceed key => s.proceed capacity key
  | .metadataLoop => s.metadataLoop

end FrameFlow

end CameraServer
