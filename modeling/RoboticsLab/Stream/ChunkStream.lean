import Mathlib.Data.Int.Order.Basic
import Mathlib.Data.List.Basic

/-!
# The chunk stream of the flow policy

`FlowMatchingActionSource` infers action chunks on a worker thread and plays their rows on the control thread.
The two meet in a few fields under one lock: the request, the pending flag, the ready chunk and its metadata, and
the generation, which an invalidation advances.

`WorkerStep` has the worker's three steps: it takes the request, infers outside the lock, and publishes under it.
Each section under the lock is one function here; a call of the control thread that has several of them lets the
worker run in between (`gap`).

The time is any type with `+` and `≤`: the scheduler only adds `policy_dt_sec` and compares.
-/

namespace PolicyRunner

variable {P R T : Type}

/-! ## Requests, chunks and the worker -/

/-- `_stream_request`: what a request freezes.  `P` is the copied payload. -/
structure StreamRequest (P : Type) where
  generation : ℕ
  inferenceSeq : ℕ
  payload : P
  observationStepSeq : ℕ
deriving DecidableEq, Repr

/-- The rows that `_sample_and_align_chunk` returned for a request. -/
structure ActionChunk (P R : Type) where
  request : StreamRequest P
  rows : List R
deriving DecidableEq, Repr

/-- The metadata of a chunk, as far as the scheduler reads it; `rtcDelay` is `rtc_sent["delay"]`. -/
structure ChunkMetadata where
  generation : ℕ
  inferenceSeq : ℕ
  observationStepSeq : ℕ
  rtcDelay : Option ℤ
  previewRecoveryEpoch : ℕ
  observationTimeNs : ℕ
deriving DecidableEq, Repr

/-- What `_sample_and_align_chunk` did. -/
inductive Sampled (R : Type)
  | rows (rows : List R)
  | none
  | raised
deriving DecidableEq, Repr

/-- The local `chunk`: an exception of the worker's inference counts as `None`. -/
def Sampled.chunk (r : StreamRequest P) : Sampled R → Option (ActionChunk P R)
  | .rows rs => some ⟨r, rs⟩
  | .none => Option.none
  | .raised => Option.none

theorem Sampled.chunk_request {r : StreamRequest P} {sampled : Sampled R} {c : ActionChunk P R}
    (h : sampled.chunk r = some c) : c.request = r := by
  cases sampled with
  | rows rs =>
    obtain rfl : (⟨r, rs⟩ : ActionChunk P R) = c := Option.some.inj h
    rfl
  | none => cases h
  | raised => cases h

/-- `_inference_recovery_metadata`, read when the metadata is built. -/
structure RecoveryMetadata where
  previewRecoveryEpoch : ℕ
  observationTimeNs : ℕ
deriving DecidableEq, Repr

def StreamRequest.metadata (r : StreamRequest P) (rtcDelay : Option ℤ) (m : RecoveryMetadata) : ChunkMetadata :=
  ⟨r.generation, r.inferenceSeq, r.observationStepSeq, rtcDelay, m.previewRecoveryEpoch, m.observationTimeNs⟩

/-- Where the worker thread is, with its locals. -/
inductive StreamWorker (P R : Type)
  | waiting
  | inferring (request : StreamRequest P)
  | inferred (request : StreamRequest P) (chunk : Option (ActionChunk P R)) (rtcDelay : Option ℤ)
  | exited
deriving DecidableEq, Repr

/-- The request that the worker works on. -/
def StreamWorker.request : StreamWorker P R → Option (StreamRequest P)
  | .waiting => none
  | .inferring r => some r
  | .inferred r _ _ => some r
  | .exited => none

/-! ## The source -/

/-- `_chunk`: the rows that are left after the alignment, and the chunk they were cut from. -/
structure ActiveChunk (P R : Type) where
  source : ActionChunk P R
  rows : List R
deriving DecidableEq, Repr

inductive ActivationReason
  | startOrResume
  | fixedBoundary
  | readyEvent
deriving DecidableEq, Repr

inductive AlignmentOutcome
  | aligned
  | exhausted
deriving DecidableEq, Repr

/-- `_active_chunk_metadata`: the entries that `_activate_chunk` computes. -/
structure ActiveChunkMetadata where
  activationReason : ActivationReason
  replacedChunkSteps : ℕ
  observationStepSeq : ℕ
  activationStepSeq : ℕ
  sourceStartIndex : ℕ
  originalHorizon : ℕ
  selectedHorizon : ℕ
  alignmentOutcome : AlignmentOutcome
deriving DecidableEq, Repr

/-- The streaming fields of `FlowMatchingActionSource`, and the worker. -/
structure ChunkStream (P R T : Type) where
  -- shared, under `_stream_lock`
  request : Option (StreamRequest P)
  pending : Bool
  nextChunk : Option (ActionChunk P R)
  nextChunkMetadata : Option ChunkMetadata
  generation : ℕ
  inflightGeneration : Option ℕ
  shutdown : Bool
  inferenceSeq : ℕ
  worker : StreamWorker P R
  -- of the control thread
  candidateMetadata : Option ChunkMetadata
  chunk : Option (ActiveChunk P R)
  activeChunkMetadata : Option ActiveChunkMetadata
  chunkIndex : ℕ
  stepDeadline : T
  emittedPolicySteps : ℕ
  stallCount : ℕ
  readyDiscardCount : ℕ
  rtcFreezeGuardWaits : ℕ
  candidatePublished : Bool
  resumeRowPending : Bool

/-- `_ensure_stream_state`; `zero` is `0.0`. -/
def ChunkStream.start (zero : T) : ChunkStream P R T where
  request := none
  pending := false
  nextChunk := none
  nextChunkMetadata := none
  generation := 0
  inflightGeneration := none
  shutdown := false
  inferenceSeq := 0
  worker := .waiting
  candidateMetadata := none
  chunk := none
  activeChunkMetadata := none
  chunkIndex := 0
  stepDeadline := zero
  emittedPolicySteps := 0
  stallCount := 0
  readyDiscardCount := 0
  rtcFreezeGuardWaits := 0
  candidatePublished := false
  resumeRowPending := false

namespace ChunkStream

/-! ## The worker -/

/-- The steps of `_stream_worker`.  `infer` says what the inference did and the delay it left in
`_rtc_last_sent`. -/
inductive WorkerStep (R : Type)
  | takeRequest
  | infer (sampled : Sampled R) (rtcDelay : Option ℤ)
  | publish (recovery : RecoveryMetadata)
deriving DecidableEq, Repr

/-- A step that the worker is not at does nothing. -/
def workerStep (s : ChunkStream P R T) : WorkerStep R → ChunkStream P R T
  | .takeRequest =>
    match s.worker with
    | .waiting =>
      if s.shutdown then { s with worker := .exited }
      else
        match s.request with
        | none => s
        | some r =>
          { s with request := none, inflightGeneration := some r.generation, worker := .inferring r }
    | _ => s
  | .infer sampled rtcDelay =>
    match s.worker with
    | .inferring r => { s with worker := .inferred r (sampled.chunk r) rtcDelay }
    | _ => s
  | .publish recovery =>
    match s.worker with
    | .inferred r chunk rtcDelay =>
      if r.generation ≠ s.generation then
        -- invalidated while it was in flight
        { s with inflightGeneration := none, worker := .waiting }
      else
        { s with
          nextChunk := chunk
          nextChunkMetadata := chunk.map fun _ => r.metadata rtcDelay recovery
          pending := false
          inflightGeneration := none
          worker := .waiting }
    | _ => s

/-- What the worker does while the control thread is between two accesses. -/
def interleave (s : ChunkStream P R T) (steps : List (WorkerStep R)) : ChunkStream P R T :=
  steps.foldl workerStep s

/-- All that a step of the worker can do. -/
inductive WorkerEffect (s : ChunkStream P R T) : WorkerStep R → ChunkStream P R T → Prop
  | idle (w : WorkerStep R) : WorkerEffect s w s
  | exited (h : s.worker = .waiting) : WorkerEffect s .takeRequest { s with worker := .exited }
  | took (r : StreamRequest P) (h : s.worker = .waiting) (hr : s.request = some r) :
    WorkerEffect s .takeRequest
      { s with request := none, inflightGeneration := some r.generation, worker := .inferring r }
  | inferred (r : StreamRequest P) (sampled : Sampled R) (rtcDelay : Option ℤ) (h : s.worker = .inferring r) :
    WorkerEffect s (.infer sampled rtcDelay) { s with worker := .inferred r (sampled.chunk r) rtcDelay }
  | stale (r : StreamRequest P) (chunk : Option (ActionChunk P R)) (rtcDelay : Option ℤ) (m : RecoveryMetadata)
    (h : s.worker = .inferred r chunk rtcDelay) (hg : r.generation ≠ s.generation) :
    WorkerEffect s (.publish m) { s with inflightGeneration := none, worker := .waiting }
  | published (r : StreamRequest P) (chunk : Option (ActionChunk P R)) (rtcDelay : Option ℤ) (m : RecoveryMetadata)
    (h : s.worker = .inferred r chunk rtcDelay) (hg : r.generation = s.generation) :
    WorkerEffect s (.publish m)
      { s with
        nextChunk := chunk
        nextChunkMetadata := chunk.map fun _ => r.metadata rtcDelay m
        pending := false
        inflightGeneration := none
        worker := .waiting }

theorem workerStep_effect (s : ChunkStream P R T) (w : WorkerStep R) : WorkerEffect s w (s.workerStep w) := by
  cases w with
  | takeRequest =>
    dsimp only [workerStep]
    split
    · rename_i hw
      by_cases hs : s.shutdown = true
      · rw [if_pos hs]
        exact .exited hw
      · rw [if_neg hs]
        split
        · exact .idle _
        · rename_i r hr
          exact .took r hw hr
    · exact .idle _
  | infer sampled rtcDelay =>
    dsimp only [workerStep]
    split
    · rename_i r hw
      exact .inferred r sampled rtcDelay hw
    · exact .idle _
  | publish m =>
    dsimp only [workerStep]
    split
    · rename_i r chunk rtcDelay hw
      by_cases hg : r.generation ≠ s.generation
      · rw [if_pos hg]
        exact .stale r chunk rtcDelay m hw hg
      · rw [if_neg hg]
        exact .published r chunk rtcDelay m hw (not_not.mp hg)
    · exact .idle _

/-- An invariant of the worker's steps is one of whatever it does in a gap. -/
theorem interleave_invariant {Q : ChunkStream P R T → Prop} (hQ : ∀ s w, Q s → Q (s.workerStep w))
    {s : ChunkStream P R T} (h : Q s) (steps : List (WorkerStep R)) : Q (s.interleave steps) := by
  unfold interleave
  induction steps generalizing s with
  | nil => exact h
  | cons w steps ih => exact ih (hQ s w h)

/-- The fields that the worker does not write. -/
structure SameControl (s s' : ChunkStream P R T) : Prop where
  generation : s'.generation = s.generation
  candidateMetadata : s'.candidateMetadata = s.candidateMetadata
  chunk : s'.chunk = s.chunk
  chunkIndex : s'.chunkIndex = s.chunkIndex
  stepDeadline : s'.stepDeadline = s.stepDeadline
  emittedPolicySteps : s'.emittedPolicySteps = s.emittedPolicySteps
  candidatePublished : s'.candidatePublished = s.candidatePublished
  resumeRowPending : s'.resumeRowPending = s.resumeRowPending

theorem sameControl_workerStep (s : ChunkStream P R T) (w : WorkerStep R) : SameControl s (s.workerStep w) := by
  have h := s.workerStep_effect w
  revert h
  generalize s.workerStep w = s'
  intro h
  cases h with
  | idle => exact ⟨rfl, rfl, rfl, rfl, rfl, rfl, rfl, rfl⟩
  | exited => exact ⟨rfl, rfl, rfl, rfl, rfl, rfl, rfl, rfl⟩
  | took => exact ⟨rfl, rfl, rfl, rfl, rfl, rfl, rfl, rfl⟩
  | inferred => exact ⟨rfl, rfl, rfl, rfl, rfl, rfl, rfl, rfl⟩
  | stale => exact ⟨rfl, rfl, rfl, rfl, rfl, rfl, rfl, rfl⟩
  | published => exact ⟨rfl, rfl, rfl, rfl, rfl, rfl, rfl, rfl⟩

theorem SameControl.trans {s s' s'' : ChunkStream P R T} (h : SameControl s s') (h' : SameControl s' s'') :
    SameControl s s'' :=
  ⟨h'.1.trans h.1, h'.2.trans h.2, h'.3.trans h.3, h'.4.trans h.4, h'.5.trans h.5, h'.6.trans h.6, h'.7.trans h.7,
    h'.8.trans h.8⟩

theorem sameControl_interleave (s : ChunkStream P R T) (steps : List (WorkerStep R)) :
    SameControl s (s.interleave steps) :=
  interleave_invariant (fun _ w h => h.trans (sameControl_workerStep _ w))
    ⟨rfl, rfl, rfl, rfl, rfl, rfl, rfl, rfl⟩ steps

/-! ## The sections of the control thread -/

/-- `_request_prefetch`. -/
def requestPrefetch (s : ChunkStream P R T) (payload : P) : ChunkStream P R T :=
  if s.shutdown ∨ s.pending ∨ s.nextChunk.isSome then s
  else
    { s with
      inferenceSeq := s.inferenceSeq + 1
      pending := true
      request := some ⟨s.generation, s.inferenceSeq + 1, payload, s.emittedPolicySteps⟩ }

/-- `_take_prefetched`: the state it leaves; it returns the `nextChunk` it found. -/
def takePrefetched (s : ChunkStream P R T) : ChunkStream P R T :=
  { s with
    nextChunk := none
    nextChunkMetadata := none
    candidateMetadata := if s.nextChunk.isSome then s.nextChunkMetadata else s.candidateMetadata }

/-- `_invalidate_policy_chunks`. -/
def invalidatePolicyChunks (s : ChunkStream P R T) : ChunkStream P R T :=
  { s with
    candidatePublished := false
    resumeRowPending := false
    chunk := none
    chunkIndex := 0
    generation := s.generation + 1
    nextChunk := none
    nextChunkMetadata := none
    candidateMetadata := none
    pending := false
    request := none }

/-- The scheduler's flag in `close`. -/
def close (s : ChunkStream P R T) : ChunkStream P R T := { s with shutdown := true }

/-- A candidate that is not activated. -/
def discardCandidate (s : ChunkStream P R T) : ChunkStream P R T :=
  { s with readyDiscardCount := s.readyDiscardCount + 1, candidateMetadata := none }

end ChunkStream

inductive ChunkActivationMode
  | fixedSteps
  | readyEvent
deriving DecidableEq, Repr

/-- The scheduler's settings, in boundary stitch mode and without a knot filter. -/
structure StreamConfig (T : Type) where
  chunkActivationMode : ChunkActivationMode
  policyDtSec : T
  chunkExecuteSteps : ℕ
  streamPrefetchAt : Option ℤ
  sequentialStreamInference : Bool
  nonblockingStreamInference : Bool
  gripperLookaheadSteps : ℤ
  gripperActionAbsolute : Bool

namespace ChunkStream

variable [Add T] [LE T] [DecidableLE T] (cfg : StreamConfig T)

/-- `_next_step_deadline`. -/
def nextStepDeadline (s : ChunkStream P R T) (now : T) : T :=
  if s.stepDeadline + cfg.policyDtSec ≤ now then now + cfg.policyDtSec else s.stepDeadline + cfg.policyDtSec

/-- The `observation_step_seq` that the activation reads. -/
def candidateObservation (s : ChunkStream P R T) : ℕ :=
  (s.candidateMetadata.map ChunkMetadata.observationStepSeq).getD s.emittedPolicySteps

def activationReason (s : ChunkStream P R T) (preserveStepGrid : Bool) : ActivationReason :=
  if s.chunk.isSome then if preserveStepGrid then .readyEvent else .fixedBoundary else .startOrResume

/-- `_activate_chunk`.  The subtraction of the two step counts stops at zero, as the source's `max` does. -/
def activateChunk (chunk : ActionChunk P R) (now : T) (preserveStepGrid : Bool) (s : ChunkStream P R T) :
    ChunkStream P R T :=
  let start := s.emittedPolicySteps - s.candidateObservation
  let metadata : ActiveChunkMetadata :=
    { activationReason := s.activationReason preserveStepGrid
      replacedChunkSteps := if s.chunk.isSome then s.chunkIndex + 1 else 0
      observationStepSeq := s.candidateObservation
      activationStepSeq := s.emittedPolicySteps
      sourceStartIndex := start
      originalHorizon := chunk.rows.length
      selectedHorizon := chunk.rows.length - start
      alignmentOutcome := if chunk.rows.length ≤ start then .exhausted else .aligned }
  if chunk.rows.length ≤ start then
    { s with activeChunkMetadata := some metadata, candidateMetadata := none, chunk := none }
  else
    { s with
      activeChunkMetadata := some metadata
      candidateMetadata := none
      chunk := some ⟨chunk, chunk.rows.drop start⟩
      chunkIndex := 0
      stepDeadline := if preserveStepGrid then s.nextStepDeadline cfg now else now + cfg.policyDtSec }

end ChunkStream

end PolicyRunner
