import RoboticsLab.Stream.ChunkStream

/-!
# The dispatcher of the chunk stream

`_next_intent_streamed` on the control thread: it gets a chunk when there is none, plays one row at each step
deadline, replaces the chunk at its execute limit or when a new one is ready, requests the next chunk early, and
emits the row it advanced to.  The worker may run before each access to the shared fields (`StreamTick.gap`).

    call : ChunkStream → SourceCall → ChunkStream × Dispatched
-/

namespace PolicyRunner

variable {P R T : Type}

/-- The accesses to the shared fields within one call. -/
inductive SharedAccess
  | peek
  | readyTake
  | take
  | pending
  | sample
  | kickPending
  | kickReady
  | request
deriving DecidableEq, Repr

/-- One call of `_next_intent_streamed`: `sampled` and `recovery` are what an inline inference would give, `gap`
what the worker does before each access. -/
structure StreamTick (P R T : Type) where
  now : T
  payload : P
  sampled : Sampled R
  recovery : RecoveryMetadata
  gap : SharedAccess → List (ChunkStream.WorkerStep R)

/-- A policy row as it is emitted, and the chunk whose array it was read from. -/
structure PolicyRow (P R : Type) where
  source : ActionChunk P R
  step : R
  gripper : R
deriving DecidableEq, Repr

inductive Dispatched (P R : Type)
  | held
  | row (row : PolicyRow P R)
  | inferenceRaised
  | indexError
deriving DecidableEq, Repr

def Dispatched.row? : Dispatched P R → Option (PolicyRow P R)
  | .row r => some r
  | .held => none
  | .inferenceRaised => none
  | .indexError => none

/-- `_gripper_step_row`. -/
def StreamConfig.gripperStepRow (cfg : StreamConfig T) (rows : List R) (index : ℕ) : Option R :=
  if cfg.gripperLookaheadSteps ≤ 0 ∨ cfg.gripperActionAbsolute = false then rows[index]?
  else rows[min (index + cfg.gripperLookaheadSteps.toNat) (rows.length - 1)]?

namespace ChunkStream

section
variable (cfg : StreamConfig T)

/-- `_current_chunk_execute_limit`. -/
def currentChunkExecuteLimit (s : ChunkStream P R T) : ℕ :=
  match s.chunk with
  | none => 0
  | some c => min cfg.chunkExecuteSteps c.rows.length

/-- `_stream_prefetch_at`. -/
def streamPrefetchAt (s : ChunkStream P R T) : ℕ :=
  let limit := s.currentChunkExecuteLimit cfg
  if cfg.chunkActivationMode = .readyEvent then 0
  else if cfg.sequentialStreamInference then limit
  else
    match cfg.streamPrefetchAt with
    | some at_ => (min at_ ((limit : ℤ) - 1)).toNat
    | none => if limit ≤ 4 then min 1 (limit - 1) else min 2 (limit - 1)

/-- `_sample_and_align_chunk_timed`: the inline inference. -/
def sampleAndAlignChunkTimed (t : StreamTick P R T) (s : ChunkStream P R T) :
    Option (ActionChunk P R) × ChunkStream P R T :=
  let r : StreamRequest P := ⟨s.generation, s.inferenceSeq + 1, t.payload, s.emittedPolicySteps⟩
  let chunk := t.sampled.chunk r
  (chunk, { s with
    inferenceSeq := s.inferenceSeq + 1
    candidateMetadata := chunk.map fun _ => r.metadata none t.recovery })

/-! ## The end of a call -/

/-- The early request of the next chunk. -/
def kickPrefetch (t : StreamTick P R T) (s : ChunkStream P R T) : ChunkStream P R T :=
  let s := s.interleave (t.gap .kickPending)
  if s.chunk.isNone ∨ s.pending then s
  else
    let s := s.interleave (t.gap .kickReady)
    if s.nextChunk.isSome ∨ s.chunkIndex < s.streamPrefetchAt cfg then s
    else (s.interleave (t.gap .request)).requestPrefetch t.payload

/-- The row at the index and the row for the grippers, both of the active chunk. -/
def emitRow (s : ChunkStream P R T) : ChunkStream P R T × Dispatched P R :=
  match s.chunk with
  | none => (s, .held)
  | some c =>
    match c.rows[s.chunkIndex]?, cfg.gripperStepRow c.rows s.chunkIndex with
    | some step, some gripper =>
      ({ s with emittedPolicySteps := s.emittedPolicySteps + 1 }, .row ⟨c.source, step, gripper⟩)
    | _, _ => (s, .indexError)

def finishTick (t : StreamTick P R T) (advanced : Bool) (s : ChunkStream P R T) :
    ChunkStream P R T × Dispatched P R :=
  if advanced then (s.kickPrefetch cfg t).emitRow cfg else (s.kickPrefetch cfg t, .held)

/-- Nothing to play: request a chunk and hold. -/
def requestAndHold (t : StreamTick P R T) (s : ChunkStream P R T) : ChunkStream P R T × Dispatched P R :=
  ((s.interleave (t.gap .request)).requestPrefetch t.payload, .held)

end

variable [Add T] [LE T] [DecidableLE T] (cfg : StreamConfig T)

/-! ## Activation on a ready event -/

/-- The over-freeze guard: the chunk starts with rows that the old plan still has to play. -/
def overFreeze (s : ChunkStream P R T) : Prop :=
  ∃ m ∈ s.nextChunkMetadata, s.nextChunk.isSome ∧
    ∃ delay ∈ m.rtcDelay, (s.emittedPolicySteps : ℤ) - m.observationStepSeq < delay ∧
      s.chunk.isSome ∧ s.chunkIndex + 1 < s.currentChunkExecuteLimit cfg

instance (s : ChunkStream P R T) : Decidable (s.overFreeze cfg) :=
  inferInstanceAs (Decidable (∃ m ∈ s.nextChunkMetadata, s.nextChunk.isSome ∧ ∃ delay ∈ m.rtcDelay, _ ∧ _))

/-- `invalid`: the candidate is of another generation, of the future, or has no row left. -/
def candidateInvalid (chunk : ActionChunk P R) (s : ChunkStream P R T) : Prop :=
  (s.candidateMetadata.map ChunkMetadata.generation).getD s.generation ≠ s.generation ∨
    s.emittedPolicySteps < s.candidateObservation ∨
    chunk.rows.length ≤ s.emittedPolicySteps - s.candidateObservation

instance (chunk : ActionChunk P R) (s : ChunkStream P R T) : Decidable (s.candidateInvalid chunk) :=
  inferInstanceAs (Decidable (_ ∨ _ ∨ _))

/-- `_try_ready_event_activation`. -/
def tryReadyEventActivation (t : StreamTick P R T) (s : ChunkStream P R T) : Bool × ChunkStream P R T :=
  let s := s.interleave (t.gap .peek)
  if s.overFreeze cfg then (false, { s with rtcFreezeGuardWaits := s.rtcFreezeGuardWaits + 1 })
  else
    let s := s.interleave (t.gap .readyTake)
    match s.nextChunk with
    | none => (false, s.takePrefetched)
    | some chunk =>
      let s := { s.takePrefetched with rtcFreezeGuardWaits := 0 }
      if s.candidateInvalid chunk then (false, s.discardCandidate)
      else (true, s.activateChunk cfg chunk t.now true)

/-! ## The branches of a call -/

/-- No chunk is active. -/
def startChunk (t : StreamTick P R T) (s : ChunkStream P R T) : ChunkStream P R T × Dispatched P R :=
  let s := s.interleave (t.gap .take)
  match s.nextChunk with
  | some chunk => (s.takePrefetched.activateChunk cfg chunk t.now false).finishTick cfg t true
  | none =>
    let s := s.takePrefetched.interleave (t.gap .pending)
    if s.pending ∨ cfg.nonblockingStreamInference then s.requestAndHold t
    else
      let (chunk, s) := (s.interleave (t.gap .sample)).sampleAndAlignChunkTimed t
      match t.sampled, chunk with
      | .raised, _ => (s, .inferenceRaised)
      | _, none => s.requestAndHold t
      | _, some chunk => (s.activateChunk cfg chunk t.now false).finishTick cfg t true

/-- The execute limit is reached: the next chunk, or a stall. -/
def reachBoundary (t : StreamTick P R T) (s : ChunkStream P R T) : ChunkStream P R T × Dispatched P R :=
  let s := s.interleave (t.gap .take)
  match s.nextChunk with
  | some chunk => (s.takePrefetched.activateChunk cfg chunk t.now false).finishTick cfg t true
  | none => { s.takePrefetched with stallCount := s.stallCount + 1, chunk := none }.requestAndHold t

/-- The next row of the active chunk, or its boundary. -/
def advanceRow (t : StreamTick P R T) (s : ChunkStream P R T) : ChunkStream P R T × Dispatched P R :=
  if s.chunkIndex + 1 < s.currentChunkExecuteLimit cfg then
    { s with chunkIndex := s.chunkIndex + 1, stepDeadline := s.nextStepDeadline cfg t.now }.finishTick cfg t true
  else s.reachBoundary cfg t

/-- The deadline of the row that is being played has passed. -/
def reachDeadline (t : StreamTick P R T) (s : ChunkStream P R T) : ChunkStream P R T × Dispatched P R :=
  if cfg.chunkActivationMode = .readyEvent then
    match s.tryReadyEventActivation cfg t with
    | (true, s) => s.finishTick cfg t true
    | (false, s) => s.advanceRow cfg t
  else s.advanceRow cfg t

/-- The chunk that was activated during a recovery starts with its first row. -/
def resumeRow (now : T) (s : ChunkStream P R T) : ChunkStream P R T :=
  { s with
    resumeRowPending := false
    candidatePublished := false
    chunkIndex := 0
    stepDeadline := now + cfg.policyDtSec }

/-- `_next_intent_streamed`. -/
def nextIntentStreamed (t : StreamTick P R T) (s : ChunkStream P R T) : ChunkStream P R T × Dispatched P R :=
  match s.chunk with
  | none => s.startChunk cfg t
  | some _ =>
    if s.resumeRowPending then (s.resumeRow cfg t.now).finishTick cfg t true
    else if s.stepDeadline ≤ t.now then s.reachDeadline cfg t
    else s.finishTick cfg t false

/-! ## Preview recovery -/

end ChunkStream

/-- A call of `_preview_recovery_intent` in the state `waiting_fresh`. -/
structure RecoveryTick (P R T : Type) where
  now : T
  nowNs : ℤ
  payload : P
  epoch : ℕ
  minObservationTimeNs : ℤ
  gap : SharedAccess → List (ChunkStream.WorkerStep R)

namespace ChunkStream

/-- `eligible`: inferred in this generation and epoch, from an observation after the stop. -/
def candidateEligible (t : RecoveryTick P R T) (s : ChunkStream P R T) : Prop :=
  ∃ m ∈ s.candidateMetadata, m.generation = s.generation ∧ m.previewRecoveryEpoch = t.epoch ∧
    t.minObservationTimeNs < m.observationTimeNs ∧ (m.observationTimeNs : ℤ) ≤ t.nowNs

instance (t : RecoveryTick P R T) (s : ChunkStream P R T) : Decidable (s.candidateEligible t) :=
  inferInstanceAs (Decidable (∃ m ∈ s.candidateMetadata, _ ∧ _))

variable [Add T] [LE T] [DecidableLE T] (cfg : StreamConfig T)

/-- `_preview_recovery_intent`: it activates one candidate without playing a row. -/
def previewRecoveryIntent (t : RecoveryTick P R T) (s : ChunkStream P R T) : ChunkStream P R T :=
  if s.candidatePublished then s
  else
    let s := s.interleave (t.gap .take)
    match s.nextChunk with
    | none => (s.takePrefetched.interleave (t.gap .request)).requestPrefetch t.payload
    | some chunk =>
      let s := s.takePrefetched
      if s.candidateEligible t then
        let s := s.activateChunk cfg chunk t.now false
        if s.chunk.isSome then { s with candidatePublished := true, resumeRowPending := true }
        else (s.discardCandidate.interleave (t.gap .request)).requestPrefetch t.payload
      else (s.discardCandidate.interleave (t.gap .request)).requestPrefetch t.payload

end ChunkStream

/-! ## Runs -/

/-- What the source goes through.  An invalidation is a motion epoch, an init or a recovery edge. -/
inductive SourceCall (P R T : Type)
  | nextIntent (t : StreamTick P R T)
  | recovery (t : RecoveryTick P R T)
  | invalidate
  | close
  | worker (w : ChunkStream.WorkerStep R)

namespace ChunkStream

variable [Add T] [LE T] [DecidableLE T] (cfg : StreamConfig T)

def call (s : ChunkStream P R T) : SourceCall P R T → ChunkStream P R T × Dispatched P R
  | .nextIntent t => s.nextIntentStreamed cfg t
  | .recovery t => (s.previewRecoveryIntent cfg t, .held)
  | .invalidate => (s.invalidatePolicyChunks, .held)
  | .close => (s.close, .held)
  | .worker w => (s.workerStep w, .held)

def runCalls (s : ChunkStream P R T) (calls : List (SourceCall P R T)) : ChunkStream P R T :=
  calls.foldl (fun s x => (s.call cfg x).1) s

/-- What the calls gave, in order. -/
def dispatched (s : ChunkStream P R T) : List (SourceCall P R T) → List (Dispatched P R)
  | [] => []
  | x :: xs => (s.call cfg x).2 :: dispatched (s.call cfg x).1 xs

/-- The policy rows of a run, in the order in which they were emitted. -/
def emittedRows (s : ChunkStream P R T) (calls : List (SourceCall P R T)) : List (PolicyRow P R) :=
  (s.dispatched cfg calls).filterMap Dispatched.row?

end ChunkStream

end PolicyRunner
