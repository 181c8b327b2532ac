import RoboticsLab.Stream.Dispatcher
import RoboticsLab.Stream.Interleavings
import Mathlib.Logic.Relation

/-!
# The dispatcher as a sequence of sections

Each call of the dispatcher, with what the worker does meanwhile, is a sequence of sections: a step of the worker, a
request, a take with the activation or the discard of the chunk in hand, an inline inference, and writes of fields that
only the control thread uses.

    Section cfg b s s'  : one section; with b it may set the flags of a recovery's handshake
    Sections cfg b s s' : a sequence of them
    Sections cfg true s (s.nextIntentStreamed cfg t).1, Sections cfg true s (s.previewRecoveryIntent cfg t)

So what each section keeps is kept by a call (`Sections.invariant`).
-/

namespace PolicyRunner.ChunkStream

variable {P R T : Type}

/-- The values that the fields have. -/
def playState (s : ChunkStream P R T) : PlayState T where
  keepsChunk := true
  chunkIndex := s.chunkIndex
  stepDeadline := s.stepDeadline
  emittedPolicySteps := s.emittedPolicySteps
  stallCount := s.stallCount
  readyDiscardCount := s.readyDiscardCount
  rtcFreezeGuardWaits := s.rtcFreezeGuardWaits
  candidatePublished := s.candidatePublished
  resumeRowPending := s.resumeRowPending

variable [Add T] [LE T] [DecidableLE T] (cfg : StreamConfig T)

/-- No section invalidates: that is a call of its own. -/
inductive Section (handshake : Bool) : ChunkStream P R T → ChunkStream P R T → Prop
  | worker (s : ChunkStream P R T) (w : WorkerStep R) : Section handshake s (s.workerStep w)
  | request (s : ChunkStream P R T) (payload : P) : Section handshake s (s.requestPrefetch payload)
  | takeNone {s : ChunkStream P R T} (h : s.nextChunk = none) : Section handshake s s.takePrefetched
  | activate {s : ChunkStream P R T} {chunk : ActionChunk P R} (h : s.nextChunk = some chunk) (now : T)
    (preserveStepGrid : Bool) : Section handshake s (s.takePrefetched.activateChunk cfg chunk now preserveStepGrid)
  | discard {s : ChunkStream P R T} (h : s.nextChunk.isSome = true) :
    Section handshake s s.takePrefetched.discardCandidate
  | inline {s : ChunkStream P R T} {t : StreamTick P R T} {chunk : ActionChunk P R}
    (hcfg : cfg.nonblockingStreamInference = false) (h : (s.sampleAndAlignChunkTimed t).1 = some chunk) (now : T) :
    Section handshake s ((s.sampleAndAlignChunkTimed t).2.activateChunk cfg chunk now false)
  | inlineFailed {s : ChunkStream P R T} {t : StreamTick P R T} (hcfg : cfg.nonblockingStreamInference = false)
    (h : (s.sampleAndAlignChunkTimed t).1 = none) : Section handshake s (s.sampleAndAlignChunkTimed t).2
  | play (s : ChunkStream P R T) (p : PlayState T)
    (h : handshake = true ∨
      (p.candidatePublished = s.candidatePublished ∧ p.resumeRowPending = s.resumeRowPending)) :
    Section handshake s (s.play p)

def Sections (handshake : Bool) : ChunkStream P R T → ChunkStream P R T → Prop :=
  Relation.ReflTransGen (Section cfg handshake)

variable {cfg} {b : Bool} {s s' s'' : ChunkStream P R T}

theorem Section.single (h : Section cfg b s s') : Sections cfg b s s' := Relation.ReflTransGen.single h

theorem Sections.refl (s : ChunkStream P R T) : Sections cfg b s s := Relation.ReflTransGen.refl

theorem Sections.trans (h : Sections cfg b s s') (h' : Sections cfg b s' s'') : Sections cfg b s s'' :=
  Relation.ReflTransGen.trans h h'

/-- **The invariant rule.** -/
theorem Sections.invariant {Q : ChunkStream P R T → Prop} (hQ : ∀ s s', Section cfg b s s' → Q s → Q s')
    (h : Sections cfg b s s') (hs : Q s) : Q s' := by
  induction h with
  | refl => exact hs
  | tail _ hstep ih => exact hQ _ _ hstep ih

theorem sections_interleave (s : ChunkStream P R T) (steps : List (WorkerStep R)) :
    Sections cfg b s (s.interleave steps) :=
  interleave_invariant (fun _ w h => h.trans (Section.worker _ w).single) (.refl s) steps

theorem sections_request (s : ChunkStream P R T) (steps : List (WorkerStep R)) (payload : P) :
    Sections cfg b s ((s.interleave steps).requestPrefetch payload) :=
  (sections_interleave s steps).trans (Section.request _ payload).single

/-- A write of the control thread's own fields that leaves the flags of the handshake. -/
theorem sections_play (s : ChunkStream P R T) (p : PlayState T)
    (h : p.candidatePublished = s.candidatePublished ∧ p.resumeRowPending = s.resumeRowPending) :
    Sections cfg b s (s.play p) :=
  (Section.play s p (.inr h)).single

theorem sections_handshake (s : ChunkStream P R T) (p : PlayState T) : Sections cfg true s (s.play p) :=
  (Section.play s p (.inl rfl)).single

/-! ## The end of a call -/

theorem sections_kickPrefetch (s : ChunkStream P R T) (t : StreamTick P R T) :
    Sections cfg b s (s.kickPrefetch cfg t) := by
  unfold kickPrefetch
  dsimp only
  split
  · exact sections_interleave s _
  · refine (sections_interleave s (t.gap .kickPending)).trans ?_
    split
    · exact sections_interleave _ _
    · exact (sections_interleave _ _).trans (sections_request _ _ _)

theorem sections_emitRow (s : ChunkStream P R T) : Sections cfg b s (s.emitRow cfg).1 := by
  unfold emitRow
  split
  · exact .refl s
  · split
    · exact sections_play s { s.playState with emittedPolicySteps := s.emittedPolicySteps + 1 } ⟨rfl, rfl⟩
    · exact .refl s

theorem sections_finishTick (s : ChunkStream P R T) (t : StreamTick P R T) (advanced : Bool) :
    Sections cfg b s (s.finishTick cfg t advanced).1 := by
  cases advanced with
  | true => exact (sections_kickPrefetch s t).trans (sections_emitRow _)
  | false => exact sections_kickPrefetch s t

/-! ## The branches -/

theorem sections_tryReadyEventActivation (s : ChunkStream P R T) (t : StreamTick P R T) :
    Sections cfg b s (s.tryReadyEventActivation cfg t).2 := by
  unfold tryReadyEventActivation
  dsimp only
  refine (sections_interleave s (t.gap .peek)).trans ?_
  generalize s.interleave (t.gap .peek) = s₁
  split
  · exact sections_play s₁ { s₁.playState with rtcFreezeGuardWaits := s₁.rtcFreezeGuardWaits + 1 } ⟨rfl, rfl⟩
  · refine (sections_interleave s₁ (t.gap .readyTake)).trans ?_
    generalize s₁.interleave (t.gap .readyTake) = s₂
    split
    · rename_i hn
      exact (Section.takeNone hn).single
    · rename_i chunk hc
      -- the counter may as well be reset before the take
      refine (sections_play s₂ { s₂.playState with rtcFreezeGuardWaits := 0 } ⟨rfl, rfl⟩).trans ?_
      split
      · refine (Section.discard ?_).single
        show s₂.nextChunk.isSome = true
        rw [hc]
        rfl
      · exact (Section.activate (s := s₂.play { s₂.playState with rtcFreezeGuardWaits := 0 }) hc t.now true).single

theorem sections_reachBoundary (s : ChunkStream P R T) (t : StreamTick P R T) :
    Sections cfg b s (s.reachBoundary cfg t).1 := by
  unfold reachBoundary
  dsimp only
  refine (sections_interleave s (t.gap .take)).trans ?_
  generalize s.interleave (t.gap .take) = s₁
  split
  · rename_i chunk hc
    exact (Section.activate hc t.now false).single.trans (sections_finishTick _ t true)
  · rename_i hn
    refine (Section.takeNone hn).single.trans (Sections.trans ?_ (sections_request _ (t.gap .request) t.payload))
    exact sections_play s₁.takePrefetched
      { s₁.takePrefetched.playState with keepsChunk := false, stallCount := s₁.stallCount + 1 } ⟨rfl, rfl⟩

theorem sections_advanceRow (s : ChunkStream P R T) (t : StreamTick P R T) :
    Sections cfg b s (s.advanceRow cfg t).1 := by
  unfold advanceRow
  split
  · refine Sections.trans ?_ (sections_finishTick _ t true)
    exact sections_play s
      { s.playState with chunkIndex := s.chunkIndex + 1, stepDeadline := s.nextStepDeadline cfg t.now } ⟨rfl, rfl⟩
  · exact sections_reachBoundary s t

theorem sections_reachDeadline (s : ChunkStream P R T) (t : StreamTick P R T) :
    Sections cfg b s (s.reachDeadline cfg t).1 := by
  unfold reachDeadline
  split
  · have htry : Sections cfg b s (s.tryReadyEventActivation cfg t).2 := sections_tryReadyEventActivation s t
    split
    · rename_i s' hs
      rw [hs] at htry
      exact htry.trans (sections_finishTick _ t true)
    · rename_i s' hs
      rw [hs] at htry
      exact htry.trans (sections_advanceRow _ t)
  · exact sections_advanceRow s t

theorem sections_startChunk (s : ChunkStream P R T) (t : StreamTick P R T) :
    Sections cfg b s (s.startChunk cfg t).1 := by
  unfold startChunk
  dsimp only
  refine (sections_interleave s (t.gap .take)).trans ?_
  generalize s.interleave (t.gap .take) = s₁
  split
  · rename_i chunk hc
    exact (Section.activate hc t.now false).single.trans (sections_finishTick _ t true)
  · rename_i hn
    refine ((Section.takeNone hn).single.trans (sections_interleave _ (t.gap .pending))).trans ?_
    generalize s₁.takePrefetched.interleave (t.gap .pending) = s₂
    split
    · exact sections_request _ _ _
    · rename_i hbusy
      push Not at hbusy
      have hcfg : cfg.nonblockingStreamInference = false := Bool.not_eq_true _ |>.mp hbusy.2
      refine (sections_interleave s₂ (t.gap .sample)).trans ?_
      generalize s₂.interleave (t.gap .sample) = s₃
      have hfst : (s₃.sampleAndAlignChunkTimed t).1 =
        t.sampled.chunk ⟨s₃.generation, s₃.inferenceSeq + 1, t.payload, s₃.emittedPolicySteps⟩ := rfl
      cases hsampled : t.sampled with
      | raised =>
        refine (Section.inlineFailed hcfg ?_).single
        rw [hfst, hsampled]
        rfl
      | none =>
        rw [hsampled] at hfst
        rw [hfst]
        exact (Section.inlineFailed hcfg hfst).single.trans (sections_request _ _ _)
      | rows rows =>
        rw [hsampled] at hfst
        rw [hfst]
        exact (Section.inline hcfg hfst t.now).single.trans (sections_finishTick _ t true)

/-- Without a chunk to resume, a call leaves the flags of the handshake. -/
theorem sections_of_not_resume (s : ChunkStream P R T) (t : StreamTick P R T)
    (h : s.chunk = none ∨ s.resumeRowPending = false) : Sections cfg b s (s.nextIntentStreamed cfg t).1 := by
  unfold nextIntentStreamed
  split
  · exact sections_startChunk s t
  · rename_i c hc
    have hresume : s.resumeRowPending = false := by
      rcases h with hnone | hresume
      · rw [hc] at hnone
        cases hnone
      · exact hresume
    rw [hresume, if_neg Bool.false_ne_true]
    split
    · exact sections_reachDeadline s t
    · exact sections_finishTick s t false

theorem sections_nextIntentStreamed (s : ChunkStream P R T) (t : StreamTick P R T) :
    Sections cfg true s (s.nextIntentStreamed cfg t).1 := by
  by_cases h : s.chunk = none ∨ s.resumeRowPending = false
  · exact sections_of_not_resume s t h
  · push Not at h
    obtain ⟨c, hc⟩ := Option.ne_none_iff_exists'.mp h.1
    unfold nextIntentStreamed
    rw [hc]
    dsimp only
    rw [if_pos (Bool.not_eq_false _ |>.mp h.2)]
    refine Sections.trans ?_ (sections_finishTick _ t true)
    exact sections_handshake s
      { s.playState with
        resumeRowPending := false
        candidatePublished := false
        chunkIndex := 0
        stepDeadline := t.now + cfg.policyDtSec }

theorem sections_previewRecoveryIntent (s : ChunkStream P R T) (t : RecoveryTick P R T) :
    Sections cfg true s (s.previewRecoveryIntent cfg t) := by
  unfold previewRecoveryIntent
  split
  · exact .refl s
  · dsimp only
    refine (sections_interleave s (t.gap .take)).trans ?_
    generalize s.interleave (t.gap .take) = s₁
    split
    · rename_i hn
      exact (Section.takeNone hn).single.trans (sections_request _ _ _)
    · rename_i chunk hc
      split
      · refine (Section.activate hc t.now false).single.trans ?_
        have hnone : (s₁.takePrefetched.activateChunk cfg chunk t.now false).candidateMetadata = none := by
          unfold activateChunk
          dsimp only
          split
          · rfl
          · rfl
        generalize s₁.takePrefetched.activateChunk cfg chunk t.now false = s₂ at hnone ⊢
        split
        · exact sections_handshake s₂ { s₂.playState with candidatePublished := true, resumeRowPending := true }
        · refine Sections.trans ?_ (sections_request _ _ _)
          have hplay : s₂.play { s₂.playState with readyDiscardCount := s₂.readyDiscardCount + 1 } =
              s₂.discardCandidate := by
            unfold discardCandidate
            rw [← hnone]
            rfl
          rw [← hplay]
          exact sections_handshake s₂ _
      · refine (Section.discard ?_).single.trans (sections_request _ _ _)
        rw [hc]
        rfl

/-! ## What sections keep -/

theorem Section.generation (h : Section cfg b s s') : s'.generation = s.generation := by
  cases h with
  | worker w => exact (s.sameControl_workerStep w).generation
  | request payload =>
    unfold requestPrefetch
    split
    · rfl
    · rfl
  | takeNone _ => rfl
  | activate _ _ _ =>
    unfold activateChunk
    dsimp only
    split
    · rfl
    · rfl
  | discard _ => rfl
  | inline _ _ _ =>
    unfold activateChunk
    dsimp only
    split
    · rfl
    · rfl
  | inlineFailed _ _ => rfl
  | play _ _ => rfl

theorem Sections.generation (h : Sections cfg b s s') : s'.generation = s.generation :=
  h.invariant (fun _ _ hsec hg => hsec.generation.trans hg) rfl

/-- Every request is of the current generation or at the worker, every chunk is of the current generation, and a chunk
is ready with the metadata of its request. -/
structure Labelled (s : ChunkStream P R T) : Prop where
  sound : StreamThreads.Sound (fun _ => True) (fun _ => True) ⟨s, none⟩
  ready : ∀ c, s.nextChunk = some c → ∃ rtcDelay m, s.nextChunkMetadata = some (c.request.metadata rtcDelay m)

section
omit [Add T] [LE T] [DecidableLE T]

theorem labelled_start (zero : T) : (start zero : ChunkStream P R T).Labelled :=
  ⟨StreamThreads.sound_start zero, fun c hc => by cases hc⟩

theorem Labelled.workerStep (h : s.Labelled) (w : WorkerStep R) : (s.workerStep w).Labelled := by
  refine ⟨h.sound.worker_step w fun _ _ => trivial, ?_⟩
  have hstep := s.workerStep_effect w
  revert hstep
  generalize s.workerStep w = s'
  intro hstep
  cases hstep with
  | idle => exact h.ready
  | exited => exact h.ready
  | took => exact h.ready
  | inferred => exact h.ready
  | stale => exact h.ready
  | published r chunk d m hw _ =>
    rintro c ⟨rfl⟩
    refine ⟨d, m, ?_⟩
    show (some c).map (fun _ => r.metadata d m) = some (c.request.metadata d m)
    rw [(h.sound.inferred r c d hw).1]
    rfl

theorem Labelled.interleave (h : s.Labelled) (steps : List (WorkerStep R)) : (s.interleave steps).Labelled :=
  interleave_invariant (fun _ w hs => hs.workerStep w) h steps

/-- A step that leaves the shared fields, and may drop the active chunk. -/
theorem Labelled.frame (h : s.Labelled) (hr : s'.request = s.request) (hp : s'.pending = s.pending)
    (hg : s'.generation = s.generation) (hw : s'.worker = s.worker) (hn : s'.nextChunk = s.nextChunk)
    (hm : s'.nextChunkMetadata = s.nextChunkMetadata)
    (ha : ∀ a, s'.chunk = some a → a.source.request.generation = s.generation) : s'.Labelled := by
  refine ⟨h.sound.frame hr hp hg hw ?_ ?_ ?_, ?_⟩
  · intro c hc
    exact hn.symm.trans hc
  · intro c hc
    cases hc
  · intro a hc
    exact ⟨ha a hc, trivial, trivial⟩
  · intro c hc
    rw [hm]
    exact h.ready c (hn.symm.trans hc)

theorem Labelled.active (h : s.Labelled) (a : ActiveChunk P R) (ha : s.chunk = some a) :
    a.source.request.generation = s.generation :=
  (h.sound.active a ha).1

theorem Labelled.takePrefetched (h : s.Labelled) : s.takePrefetched.Labelled := by
  refine ⟨h.sound.frame rfl rfl rfl rfl ?_ ?_ h.sound.active, ?_⟩
  · intro c hc
    cases hc
  · intro c hc
    cases hc
  · intro c hc
    cases hc

theorem Labelled.invalidatePolicyChunks (h : s.Labelled) : s.invalidatePolicyChunks.Labelled :=
  ⟨h.sound.invalidate, fun c hc => by cases hc⟩

end

theorem Labelled.activateChunk (h : s.Labelled) {c : ActionChunk P R} (hc : c.request.generation = s.generation)
    (now : T) (preserveStepGrid : Bool) : (s.activateChunk cfg c now preserveStepGrid).Labelled := by
  unfold ChunkStream.activateChunk
  dsimp only
  split
  · refine h.frame rfl rfl rfl rfl rfl rfl ?_
    intro a ha
    cases ha
  · refine h.frame rfl rfl rfl rfl rfl rfl ?_
    rintro a ⟨rfl⟩
    exact hc

theorem Labelled.section (h : s.Labelled) (hs : Section cfg b s s') : s'.Labelled := by
  cases hs with
  | worker w => exact h.workerStep w
  | request payload =>
    refine ⟨h.sound.requestPrefetch payload fun _ _ _ => trivial, ?_⟩
    unfold requestPrefetch
    split
    · exact h.ready
    · exact h.ready
  | takeNone _ => exact h.takePrefetched
  | activate hn now grid => exact h.takePrefetched.activateChunk (h.sound.ready _ hn).1.1 now grid
  | discard _ => exact h.takePrefetched.frame rfl rfl rfl rfl rfl rfl h.active
  | @inline t chunk _ hsampled now =>
    have hsample : (s.sampleAndAlignChunkTimed t).2.Labelled := h.frame rfl rfl rfl rfl rfl rfl h.active
    refine hsample.activateChunk ?_ now false
    have hchunk : t.sampled.chunk ⟨s.generation, s.inferenceSeq + 1, t.payload, s.emittedPolicySteps⟩ = some chunk :=
      hsampled
    exact congrArg StreamRequest.generation (Sampled.chunk_request hchunk)
  | inlineFailed _ _ => exact h.frame rfl rfl rfl rfl rfl rfl h.active
  | play p _ =>
    refine h.frame rfl rfl rfl rfl rfl rfl fun a ha => h.active a ?_
    have hkeep : (if p.keepsChunk then s.chunk else none) = some a := ha
    split at hkeep
    · exact hkeep
    · cases hkeep

theorem Labelled.sections (h : s.Labelled) (hs : Sections cfg b s s') : s'.Labelled :=
  hs.invariant (fun _ _ hsec hl => hl.section hsec) h

end PolicyRunner.ChunkStream
