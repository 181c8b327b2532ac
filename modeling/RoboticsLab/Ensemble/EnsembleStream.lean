import RoboticsLab.Stream.Dispatcher
import RoboticsLab.Ensemble.ChunkEnsemble

/-!
# The dispatcher in ensemble stitch mode

`_next_intent_streamed` with a `ChunkEnsembleScheduler`: the chunks of the worker go to the scheduler, and the windows
it returns are activated and played like chunks, each to its end.  A request notes its kick with the scheduler: the
wall of the row being played, or the start of the next window on a tick that stalls or holds.  The fields, the worker
and the activation are those of the chunk stream; `Tick` also says which window a call built.

The knot filter is off, and `anchor` is what the anchor function of the call gives.
-/

namespace PolicyRunner.Ensemble

variable {P G T : Type} [Group G]

structure StreamConfig (G T : Type) where
  stream : PolicyRunner.StreamConfig T
  ensemble : Config G

/-- The stream and the scheduler. -/
structure EnsembleStream (P G T : Type) where
  stream : ChunkStream P (Row G) T
  scheduler : Scheduler G

/-- One call: what the stream reads, and the seed poses. -/
structure EnsembleTick (P G T : Type) where
  tick : StreamTick P (Row G) T
  anchor : Arm → G

/-- What a call leaves and gives: the window it built, if it built one, and the row it emitted. -/
structure Tick (P G T : Type) where
  next : EnsembleStream P G T
  window : Option (Window G)
  out : Dispatched P (Row G)

namespace EnsembleStream

/-- `_ensemble_wall_now`. -/
def ensembleWallNow (e : EnsembleStream P G T) : ℕ :=
  e.scheduler.windowStart - (e.stream.chunk.map fun c => c.rows.length).getD 0 + e.stream.chunkIndex

/-- `_current_chunk_execute_limit`: the whole window. -/
def executeLimit (s : ChunkStream P (Row G) T) : ℕ := (s.chunk.map fun c => c.rows.length).getD 0

/-- `_stream_prefetch_at`. -/
def prefetchAt (cfg : StreamConfig G T) (e : EnsembleStream P G T) : ℕ :=
  if cfg.stream.sequentialStreamInference then executeLimit e.stream else e.scheduler.activeKickAt

/-! ## The end of a call -/

/-- The early request of the next chunk, with its kick. -/
def kickPrefetch (cfg : StreamConfig G T) (t : StreamTick P (Row G) T) (e : EnsembleStream P G T) :
    EnsembleStream P G T :=
  let s := e.stream.interleave (t.gap .kickPending)
  if s.chunk.isNone ∨ s.pending then { e with stream := s }
  else
    let s := s.interleave (t.gap .kickReady)
    if s.nextChunk.isSome ∨ s.chunkIndex < prefetchAt cfg ⟨s, e.scheduler⟩ then { e with stream := s }
    else
      ⟨(s.interleave (t.gap .request)).requestPrefetch t.payload,
        e.scheduler.noteKick (ensembleWallNow ⟨s, e.scheduler⟩)⟩

def finishTick (cfg : StreamConfig G T) (t : StreamTick P (Row G) T) (advanced : Bool) (window : Option (Window G))
    (e : EnsembleStream P G T) : Tick P G T :=
  let e := e.kickPrefetch cfg t
  if advanced then ⟨{ e with stream := (e.stream.emitRow cfg.stream).1 }, window, (e.stream.emitRow cfg.stream).2⟩
  else ⟨e, window, .held⟩

/-- Nothing to play: request a chunk at the next window's start and hold. -/
def requestAndHold (t : StreamTick P (Row G) T) (e : EnsembleStream P G T) : Tick P G T :=
  ⟨⟨(e.stream.interleave (t.gap .request)).requestPrefetch t.payload, e.scheduler.noteKick e.scheduler.windowStart⟩,
    none, .held⟩

variable [Add T] [LE T] [DecidableLE T]

/-- A window as the array that `_activate_chunk` gets. -/
def windowChunk (payload : P) (s : ChunkStream P (Row G) T) (w : Window G) : ActionChunk P (Row G) :=
  ⟨⟨s.generation, s.inferenceSeq, payload, s.emittedPolicySteps⟩, w.rows⟩

/-- Play the window the scheduler returned. -/
def activateWindow (cfg : StreamConfig G T) (t : StreamTick P (Row G) T) (e : EnsembleStream P G T) (w : Window G) :
    Tick P G T :=
  finishTick cfg t true (some w)
    { e with stream := e.stream.activateChunk cfg.stream (windowChunk t.payload e.stream w) t.now false }

/-! ## The branches of a call -/

/-- A chunk that arrives while nothing is played joins the schedule. -/
def join (cfg : StreamConfig G T) (t : EnsembleTick P G T) (chunk : ActionChunk P (Row G)) (e : EnsembleStream P G T) :
    Tick P G T :=
  if !e.scheduler.firstWindowBuilt then
    match e.scheduler.begin cfg.ensemble chunk.rows t.anchor with
    | (scheduler, some w) => activateWindow cfg t.tick { e with scheduler := scheduler } w
    -- the assertion of `begin`
    | (scheduler, none) => ⟨{ e with scheduler := scheduler }, none, .inferenceRaised⟩
  else
    match e.scheduler.advance cfg.ensemble (some chunk.rows) t.anchor with
    | (scheduler, some w) => activateWindow cfg t.tick { e with scheduler := scheduler } w
    | (scheduler, none) => ⟨{ e with scheduler := scheduler }, none, .held⟩

/-- No window is active. -/
def startWindow (cfg : StreamConfig G T) (t : EnsembleTick P G T) (e : EnsembleStream P G T) : Tick P G T :=
  let s := e.stream.interleave (t.tick.gap .take)
  match s.nextChunk with
  | some chunk => join cfg t chunk { e with stream := s.takePrefetched }
  | none =>
    let s := s.takePrefetched.interleave (t.tick.gap .pending)
    if s.pending ∨ cfg.stream.nonblockingStreamInference then requestAndHold t.tick { e with stream := s }
    else
      let (chunk, s) := (s.interleave (t.tick.gap .sample)).sampleAndAlignChunkTimed t.tick
      match t.tick.sampled, chunk with
      | .raised, _ => ⟨{ e with stream := s }, none, .inferenceRaised⟩
      | _, none => requestAndHold t.tick { e with stream := s }
      | _, some chunk => join cfg t chunk { e with stream := s }

/-- The window is played: the next one, or a stall. -/
def reachBoundary (cfg : StreamConfig G T) (t : EnsembleTick P G T) (e : EnsembleStream P G T) : Tick P G T :=
  let s := e.stream.interleave (t.tick.gap .take)
  match e.scheduler.advance cfg.ensemble (s.nextChunk.map ActionChunk.rows) t.anchor with
  | (scheduler, some w) => activateWindow cfg t.tick ⟨s.takePrefetched, scheduler⟩ w
  | (scheduler, none) =>
    requestAndHold t.tick ⟨{ s.takePrefetched with stallCount := s.stallCount + 1, chunk := none }, scheduler⟩

/-- The deadline of the row that is being played has passed. -/
def reachDeadline (cfg : StreamConfig G T) (t : EnsembleTick P G T) (e : EnsembleStream P G T) : Tick P G T :=
  if e.stream.chunkIndex + 1 < executeLimit e.stream then
    finishTick cfg t.tick true none { e with
      stream := { e.stream with
        chunkIndex := e.stream.chunkIndex + 1
        stepDeadline := e.stream.nextStepDeadline cfg.stream t.tick.now } }
  else e.reachBoundary cfg t

/-- `_next_intent_streamed`. -/
def nextIntentStreamed (cfg : StreamConfig G T) (t : EnsembleTick P G T) (e : EnsembleStream P G T) : Tick P G T :=
  match e.stream.chunk with
  | none => e.startWindow cfg t
  | some _ =>
    if e.stream.resumeRowPending then
      finishTick cfg t.tick true none { e with stream := e.stream.resumeRow cfg.stream t.tick.now }
    else if e.stream.stepDeadline ≤ t.tick.now then e.reachDeadline cfg t
    else finishTick cfg t.tick false none e

/-! ## Runs -/

/-- What the source goes through, without invalidations. -/
inductive Call (P G T : Type)
  | nextIntent (t : EnsembleTick P G T)
  | worker (w : ChunkStream.WorkerStep (Row G))
  | close

def call (cfg : StreamConfig G T) (e : EnsembleStream P G T) : Call P G T → Tick P G T
  | .nextIntent t => e.nextIntentStreamed cfg t
  | .worker w => ⟨{ e with stream := e.stream.workerStep w }, none, .held⟩
  | .close => ⟨{ e with stream := e.stream.close }, none, .held⟩

def start (zero : T) : EnsembleStream P G T := ⟨.start zero, .init⟩

end EnsembleStream

/-- A run: where it got to, the windows built and the rows emitted. -/
structure StreamRun (P G T : Type) where
  state : EnsembleStream P G T
  windows : List (Window G)
  emitted : List (Row G)

variable [Add T] [LE T] [DecidableLE T]

def StreamRun.step (cfg : StreamConfig G T) (r : StreamRun P G T) (x : EnsembleStream.Call P G T) : StreamRun P G T :=
  let t := r.state.call cfg x
  ⟨t.next, r.windows ++ t.window.toList, r.emitted ++ (t.out.row?.map PolicyRow.step).toList⟩

def StreamRun.after (cfg : StreamConfig G T) (zero : T) (xs : List (EnsembleStream.Call P G T)) : StreamRun P G T :=
  xs.foldl (StreamRun.step cfg) ⟨.start zero, [], []⟩

end PolicyRunner.Ensemble
