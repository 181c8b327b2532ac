import RoboticsLab.Stream.Dispatcher

/-!
# The rows that are executed are timed by the request of their chunk

A request freezes the number `o` of rows emitted so far.  The chunk inferred from it is cut at its activation, so
that row `n - o` is the `n`-th row emitted:

    Timed     : o never exceeds the rows emitted, and the metadata beside a chunk has the o of its request
    Placed    : the row at the index is row n - o of the chunk, n the rows emitted before it
    RowAt n r : r is row n - o of its chunk, pose and gripper

Every call keeps `Timed` and `Placed` and emits at most the row with `RowAt` (`call_done`), so the `n`-th row ever
emitted is row `n - o` of its chunk (`rows_timed`).
-/

namespace PolicyRunner

variable {P R T : Type}

/-! ## The rows of a cut chunk -/

theorem gripperStepRow_drop (cfg : StreamConfig T) (rows : List R) {start index : ℕ} (h : start < rows.length) :
    cfg.gripperStepRow (rows.drop start) index = cfg.gripperStepRow rows (start + index) := by
  unfold StreamConfig.gripperStepRow
  split
  · rw [List.getElem?_drop]
  · rw [List.getElem?_drop, List.length_drop]
    congr 1
    omega

theorem exists_gripperStepRow (cfg : StreamConfig T) {rows : List R} {index : ℕ} (h : index < rows.length) :
    ∃ gripper, cfg.gripperStepRow rows index = some gripper := by
  unfold StreamConfig.gripperStepRow
  split
  · exact ⟨_, List.getElem?_eq_getElem h⟩
  · exact ⟨_, List.getElem?_eq_getElem (by omega)⟩

/-- The row is the `n`-th one of the source: row `n - o` of its chunk. -/
structure PolicyRow.RowAt (cfg : StreamConfig T) (n : ℕ) (r : PolicyRow P R) : Prop where
  observed : r.source.request.observationStepSeq ≤ n
  horizon : n - r.source.request.observationStepSeq < r.source.rows.length
  step : r.source.rows[n - r.source.request.observationStepSeq]? = some r.step
  gripper : cfg.gripperStepRow r.source.rows (n - r.source.request.observationStepSeq) = some r.gripper

namespace ChunkStream

/-! ## The invariants -/

structure Timed (s : ChunkStream P R T) : Prop where
  request : ∀ r, s.request = some r → r.observationStepSeq ≤ s.emittedPolicySteps
  worker : ∀ r, s.worker.request = some r → r.observationStepSeq ≤ s.emittedPolicySteps
  inferred : ∀ r c d, s.worker = .inferred r (some c) d → c.request = r
  ready : ∀ c, s.nextChunk = some c → ∃ m, s.nextChunkMetadata = some m ∧
    m.observationStepSeq = c.request.observationStepSeq ∧ c.request.observationStepSeq ≤ s.emittedPolicySteps

/-- `due`: the row at the index has not been emitted yet. -/
def Placed (due : Bool) (s : ChunkStream P R T) : Prop :=
  ∀ c, s.chunk = some c → ∃ start, c.rows = c.source.rows.drop start ∧ s.chunkIndex < c.rows.length ∧
    c.source.request.observationStepSeq + start + s.chunkIndex + 1 = s.emittedPolicySteps + due.toNat

/-- The candidate's metadata is that of the chunk. -/
def CandidateOf (s : ChunkStream P R T) (c : ActionChunk P R) : Prop :=
  c.request.observationStepSeq ≤ s.emittedPolicySteps ∧
    s.candidateObservation = c.request.observationStepSeq

/-- Within a call, with `n` rows emitted before it. -/
structure Playing (due : Bool) (n : ℕ) (s : ChunkStream P R T) : Prop where
  timed : s.Timed
  placed : s.Placed due
  resume : s.resumeRowPending = false
  emitted : s.emittedPolicySteps = n

/-- Between calls: a chunk that was activated during a recovery has not played its first row. -/
structure Aligned (s : ChunkStream P R T) : Prop where
  timed : s.Timed
  placed : s.Placed s.resumeRowPending
  resume : s.resumeRowPending = true → s.chunk.isSome ∧ s.candidatePublished = true ∧ s.chunkIndex = 0

/-! ## The worker -/

theorem Timed.workerStep {s : ChunkStream P R T} (h : s.Timed) (w : WorkerStep R) : (s.workerStep w).Timed := by
  have hstep := s.workerStep_effect w
  revert hstep
  generalize s.workerStep w = s'
  intro hstep
  cases hstep with
  | idle => exact h
  | exited =>
    exact ⟨h.request, fun r hr => (by cases hr), fun r c d e => (by cases e), h.ready⟩
  | took r hw hr =>
    refine ⟨fun r' e => (by cases e), ?_, fun r c d e => (by cases e), h.ready⟩
    rintro r' ⟨rfl⟩
    exact h.request r hr
  | inferred r sampled d hw =>
    refine ⟨h.request, ?_, ?_, h.ready⟩
    · rintro r' ⟨rfl⟩
      exact h.worker r (by rw [hw]; rfl)
    · intro r' c d' e
      obtain ⟨rfl, hc, -⟩ := StreamWorker.inferred.inj e
      exact Sampled.chunk_request hc
  | stale =>
    exact ⟨h.request, fun r hr => (by cases hr), fun r c d e => (by cases e), h.ready⟩
  | published r chunk d m hw hg =>
    refine ⟨h.request, fun r hr => (by cases hr), fun r c d e => (by cases e), ?_⟩
    rintro c ⟨rfl⟩
    have hc : c.request = r := h.inferred r c d hw
    refine ⟨r.metadata d m, rfl, by rw [hc]; rfl, ?_⟩
    rw [hc]
    exact h.worker r (by rw [hw]; rfl)

theorem Timed.interleave {s : ChunkStream P R T} (h : s.Timed) (steps : List (WorkerStep R)) :
    (s.interleave steps).Timed :=
  interleave_invariant (fun _ w hs => hs.workerStep w) h steps

theorem Placed.of_same {due : Bool} {s s' : ChunkStream P R T} (h : s.Placed due) (hc : s'.chunk = s.chunk)
    (hi : s'.chunkIndex = s.chunkIndex) (he : s'.emittedPolicySteps = s.emittedPolicySteps) : s'.Placed due := by
  unfold Placed
  rw [hc, hi, he]
  exact h

theorem Playing.interleave {due : Bool} {n : ℕ} {s : ChunkStream P R T} (h : s.Playing due n)
    (steps : List (WorkerStep R)) : (s.interleave steps).Playing due n := by
  have hsame := s.sameControl_interleave steps
  refine ⟨h.timed.interleave steps, ?_, hsame.resumeRowPending.trans h.resume,
    hsame.emittedPolicySteps.trans h.emitted⟩
  exact h.placed.of_same hsame.chunk hsame.chunkIndex hsame.emittedPolicySteps

theorem Aligned.workerStep {s : ChunkStream P R T} (h : s.Aligned) (w : WorkerStep R) : (s.workerStep w).Aligned := by
  have hsame := s.sameControl_workerStep w
  refine ⟨h.timed.workerStep w, ?_, ?_⟩
  · rw [hsame.resumeRowPending]
    exact h.placed.of_same hsame.chunk hsame.chunkIndex hsame.emittedPolicySteps
  · rw [hsame.resumeRowPending, hsame.chunk, hsame.candidatePublished, hsame.chunkIndex]
    exact h.resume

/-! ## The sections of the control thread -/

theorem Timed.requestPrefetch {s : ChunkStream P R T} (h : s.Timed) (payload : P) :
    (s.requestPrefetch payload).Timed := by
  unfold ChunkStream.requestPrefetch
  split
  · exact h
  · refine ⟨?_, h.worker, h.inferred, h.ready⟩
    rintro r ⟨rfl⟩
    exact Nat.le_refl _

theorem Timed.takePrefetched {s : ChunkStream P R T} (h : s.Timed) : s.takePrefetched.Timed :=
  ⟨h.request, h.worker, h.inferred, fun c hc => by cases hc⟩

/-- The candidate that a take leaves. -/
theorem Timed.candidateOf {s : ChunkStream P R T} (h : s.Timed) {c : ActionChunk P R} (hc : s.nextChunk = some c) :
    s.takePrefetched.CandidateOf c := by
  obtain ⟨m, hm, ho, hle⟩ := h.ready c hc
  refine ⟨hle, ?_⟩
  simp [candidateObservation, ChunkStream.takePrefetched, hc, hm, ho]

theorem Playing.requestPrefetch {due : Bool} {n : ℕ} {s : ChunkStream P R T} (h : s.Playing due n) (payload : P) :
    (s.requestPrefetch payload).Playing due n := by
  have ht := h.timed.requestPrefetch payload
  unfold ChunkStream.requestPrefetch at ht ⊢
  split
  · exact h
  · rename_i hfree
    rw [if_neg hfree] at ht
    exact ⟨ht, h.placed, h.resume, h.emitted⟩

theorem Playing.takePrefetched {due : Bool} {n : ℕ} {s : ChunkStream P R T} (h : s.Playing due n) :
    s.takePrefetched.Playing due n :=
  ⟨h.timed.takePrefetched, h.placed, h.resume, h.emitted⟩

theorem Playing.aligned {n : ℕ} {s : ChunkStream P R T} (h : s.Playing false n) : s.Aligned := by
  refine ⟨h.timed, ?_, fun hr => ?_⟩
  · rw [h.resume]
    exact h.placed
  · rw [h.resume] at hr
    cases hr

theorem Aligned.playing {s : ChunkStream P R T} (h : s.Aligned) (hr : s.resumeRowPending = false) :
    s.Playing false s.emittedPolicySteps := by
  refine ⟨h.timed, ?_, hr, rfl⟩
  rw [← hr]
  exact h.placed

section
variable [Add T] [LE T] [DecidableLE T] (cfg : StreamConfig T)

/-- **The cut.**  A chunk that is activated has its row `n - o` due. -/
theorem Playing.activateChunk {due : Bool} {n : ℕ} {s : ChunkStream P R T} (h : s.Playing due n)
    {c : ActionChunk P R} (hc : s.CandidateOf c) (now : T) (preserveStepGrid : Bool) :
    (s.activateChunk cfg c now preserveStepGrid).Playing true n := by
  obtain ⟨hle, ho⟩ := hc
  unfold ChunkStream.activateChunk
  dsimp only
  split
  · exact ⟨⟨h.timed.1, h.timed.2, h.timed.3, h.timed.4⟩, fun a ha => (by cases ha), h.resume, h.emitted⟩
  · rename_i hlong
    refine ⟨⟨h.timed.1, h.timed.2, h.timed.3, h.timed.4⟩, ?_, h.resume, h.emitted⟩
    rintro a ⟨rfl⟩
    refine ⟨s.emittedPolicySteps - s.candidateObservation, rfl, ?_, ?_⟩
    · show 0 < (c.rows.drop (s.emittedPolicySteps - s.candidateObservation)).length
      rw [List.length_drop]
      omega
    · show c.request.observationStepSeq + (s.emittedPolicySteps - s.candidateObservation) + 0 + 1 =
        s.emittedPolicySteps + 1
      rw [ho]
      omega

theorem activateChunk_index {s : ChunkStream P R T} {c : ActionChunk P R} {now : T} {preserveStepGrid : Bool}
    (h : (s.activateChunk cfg c now preserveStepGrid).chunk.isSome) :
    (s.activateChunk cfg c now preserveStepGrid).chunkIndex = 0 := by
  unfold ChunkStream.activateChunk at h ⊢
  dsimp only at h ⊢
  split
  · rename_i hexh
    rw [if_pos hexh] at h
    cases h
  · rfl

end

/-! ## The end of a call -/

end ChunkStream

/-- What a call gives, with `n` rows emitted before it and `m` after it. -/
def Dispatched.Outcome (cfg : StreamConfig T) (n m : ℕ) : Dispatched P R → Prop
  | .row r => r.RowAt cfg n ∧ m = n + 1
  | .held => m = n
  | .inferenceRaised => m = n
  | .indexError => False

namespace ChunkStream

section
variable (cfg : StreamConfig T)

/-- The state after a call, and what it gave. -/
def Done (n : ℕ) (p : ChunkStream P R T × Dispatched P R) : Prop :=
  p.1.Aligned ∧ p.2.Outcome cfg n p.1.emittedPolicySteps

theorem Playing.held {n : ℕ} {s : ChunkStream P R T} (h : s.Playing false n) : Done cfg n (s, .held) :=
  ⟨h.aligned, h.emitted⟩

theorem Playing.kickPrefetch {due : Bool} {n : ℕ} {s : ChunkStream P R T} (h : s.Playing due n)
    (t : StreamTick P R T) : (s.kickPrefetch cfg t).Playing due n := by
  unfold ChunkStream.kickPrefetch
  dsimp only
  split
  · exact h.interleave _
  · split
    · exact (h.interleave _).interleave _
    · exact (((h.interleave _).interleave _).interleave _).requestPrefetch _

/-- With an index inside the chunk there is a row to emit. -/
theorem emitRow_eq {s : ChunkStream P R T} {c : ActiveChunk P R} (hc : s.chunk = some c)
    (hindex : s.chunkIndex < c.rows.length) :
    ∃ step gripper, c.rows[s.chunkIndex]? = some step ∧ cfg.gripperStepRow c.rows s.chunkIndex = some gripper ∧
      s.emitRow cfg =
        ({ s with emittedPolicySteps := s.emittedPolicySteps + 1 }, .row ⟨c.source, step, gripper⟩) := by
  obtain ⟨gripper, hg⟩ := exists_gripperStepRow cfg hindex
  refine ⟨c.rows[s.chunkIndex], gripper, List.getElem?_eq_getElem hindex, hg, ?_⟩
  simp only [ChunkStream.emitRow, hc, hg, List.getElem?_eq_getElem hindex]

/-- **The emission.**  The row at the index is row `n - o` of the chunk that the active one was cut from. -/
theorem Playing.emitRow {n : ℕ} {s : ChunkStream P R T} (h : s.Playing true n) : Done cfg n (s.emitRow cfg) := by
  cases hs : s.chunk with
  | none =>
    simp only [ChunkStream.emitRow, hs]
    exact Playing.held cfg ⟨h.timed, fun c hc => (by rw [hs] at hc; cases hc), h.resume, h.emitted⟩
  | some c =>
    obtain ⟨start, hrows, hindex, hcount⟩ := h.placed c hs
    obtain ⟨step, gripper, hstep, hgrip, heq⟩ := emitRow_eq cfg hs hindex
    rw [heq]
    have hn : s.emittedPolicySteps = n := h.emitted
    simp only [Bool.toNat_true] at hcount
    have hrow : n - c.source.request.observationStepSeq = start + s.chunkIndex := by omega
    have hlen : start + s.chunkIndex < c.source.rows.length := by
      rw [hrows, List.length_drop] at hindex
      omega
    refine ⟨Playing.aligned (n := n + 1) ⟨⟨?_, ?_, h.timed.inferred, ?_⟩, ?_, h.resume, ?_⟩, ⟨?_, ?_, ?_, ?_⟩, ?_⟩
    · intro r hr
      exact Nat.le_succ_of_le (h.timed.request r hr)
    · intro r hr
      exact Nat.le_succ_of_le (h.timed.worker r hr)
    · intro d hd
      obtain ⟨m, hm, ho, hle⟩ := h.timed.ready d hd
      exact ⟨m, hm, ho, Nat.le_succ_of_le hle⟩
    · intro d hd
      obtain rfl : c = d := Option.some.inj (hs.symm.trans hd)
      exact ⟨start, hrows, hindex, hcount⟩
    · show s.emittedPolicySteps + 1 = n + 1
      omega
    · show c.source.request.observationStepSeq ≤ n
      omega
    · show n - c.source.request.observationStepSeq < c.source.rows.length
      omega
    · show c.source.rows[n - c.source.request.observationStepSeq]? = some step
      rw [hrow, ← List.getElem?_drop, ← hrows]
      exact hstep
    · show cfg.gripperStepRow c.source.rows (n - c.source.request.observationStepSeq) = some gripper
      rw [hrow, ← gripperStepRow_drop cfg c.source.rows (by omega), ← hrows]
      exact hgrip
    · show s.emittedPolicySteps + 1 = n + 1
      omega

theorem Playing.finishTick {advanced : Bool} {n : ℕ} {s : ChunkStream P R T} (h : s.Playing advanced n)
    (t : StreamTick P R T) : Done cfg n (s.finishTick cfg t advanced) := by
  have hk := h.kickPrefetch cfg t
  cases advanced with
  | true => exact hk.emitRow cfg
  | false => exact hk.held cfg

theorem Playing.requestAndHold {n : ℕ} {s : ChunkStream P R T} (h : s.Playing false n) (t : StreamTick P R T) :
    Done cfg n (s.requestAndHold t) :=
  ((h.interleave _).requestPrefetch _).held cfg

end

/-! ## The branches -/

section
variable [Add T] [LE T] [DecidableLE T] (cfg : StreamConfig T)

theorem Playing.tryReadyEventActivation {n : ℕ} {s : ChunkStream P R T} (h : s.Playing false n)
    (t : StreamTick P R T) :
    (s.tryReadyEventActivation cfg t).2.Playing (s.tryReadyEventActivation cfg t).1 n := by
  unfold ChunkStream.tryReadyEventActivation
  dsimp only
  have h1 := h.interleave (t.gap .peek)
  split
  · exact ⟨⟨h1.timed.1, h1.timed.2, h1.timed.3, h1.timed.4⟩, h1.placed, h1.resume, h1.emitted⟩
  · have h2 := h1.interleave (t.gap .readyTake)
    split
    · exact h2.takePrefetched
    · rename_i c hc
      have hcand := h2.timed.candidateOf hc
      have h3 := h2.takePrefetched
      have h4 : Playing false n
          { ((s.interleave (t.gap .peek)).interleave (t.gap .readyTake)).takePrefetched with
            rtcFreezeGuardWaits := 0 } :=
        ⟨⟨h3.timed.1, h3.timed.2, h3.timed.3, h3.timed.4⟩, h3.placed, h3.resume, h3.emitted⟩
      split
      · exact ⟨⟨h4.timed.1, h4.timed.2, h4.timed.3, h4.timed.4⟩, h4.placed, h4.resume, h4.emitted⟩
      · exact h4.activateChunk cfg hcand t.now true

theorem Playing.reachBoundary {n : ℕ} {s : ChunkStream P R T} (h : s.Playing false n) (t : StreamTick P R T) :
    Done cfg n (s.reachBoundary cfg t) := by
  unfold ChunkStream.reachBoundary
  dsimp only
  have h1 := h.interleave (t.gap .take)
  split
  · rename_i c hc
    exact (h1.takePrefetched.activateChunk cfg (h1.timed.candidateOf hc) t.now false).finishTick cfg t
  · have h2 := h1.takePrefetched
    refine Playing.requestAndHold cfg ?_ t
    exact ⟨⟨h2.timed.1, h2.timed.2, h2.timed.3, h2.timed.4⟩, fun c hc => (by cases hc), h2.resume, h2.emitted⟩

/-- The next row of the same chunk is due. -/
theorem Playing.advanceRow {n : ℕ} {s : ChunkStream P R T} (h : s.Playing false n) (t : StreamTick P R T) :
    Done cfg n (s.advanceRow cfg t) := by
  unfold ChunkStream.advanceRow
  split
  · rename_i hnext
    have hdue : Playing true n
        { s with chunkIndex := s.chunkIndex + 1, stepDeadline := s.nextStepDeadline cfg t.now } := by
      refine ⟨⟨h.timed.1, h.timed.2, h.timed.3, h.timed.4⟩, fun c hc => ?_, h.resume, h.emitted⟩
      have hc' : s.chunk = some c := hc
      obtain ⟨start, hrows, -, hcount⟩ := h.placed c hc'
      refine ⟨start, hrows, ?_, ?_⟩
      · show s.chunkIndex + 1 < c.rows.length
        simp only [currentChunkExecuteLimit, hc'] at hnext
        omega
      · show c.source.request.observationStepSeq + start + (s.chunkIndex + 1) + 1 = s.emittedPolicySteps + 1
        simp only [Bool.toNat_false] at hcount
        omega
    exact hdue.finishTick cfg t
  · exact h.reachBoundary cfg t

theorem Playing.reachDeadline {n : ℕ} {s : ChunkStream P R T} (h : s.Playing false n) (t : StreamTick P R T) :
    Done cfg n (s.reachDeadline cfg t) := by
  unfold ChunkStream.reachDeadline
  split
  · have h1 := h.tryReadyEventActivation cfg t
    split
    · rename_i s' hs
      rw [hs] at h1
      exact h1.finishTick cfg t
    · rename_i s' hs
      rw [hs] at h1
      exact h1.advanceRow cfg t
  · exact h.advanceRow cfg t

omit [Add T] [LE T] [DecidableLE T] in
theorem Playing.sampleAndAlignChunkTimed {n : ℕ} {s : ChunkStream P R T} (h : s.Playing false n)
    (t : StreamTick P R T) : (s.sampleAndAlignChunkTimed t).2.Playing false n ∧
      ∀ c, (s.sampleAndAlignChunkTimed t).1 = some c → (s.sampleAndAlignChunkTimed t).2.CandidateOf c := by
  refine ⟨⟨⟨h.timed.1, h.timed.2, h.timed.3, h.timed.4⟩, h.placed, h.resume, h.emitted⟩, fun c hc => ?_⟩
  unfold ChunkStream.sampleAndAlignChunkTimed at hc ⊢
  dsimp only at hc
  have ho : c.request.observationStepSeq = s.emittedPolicySteps := by
    rw [Sampled.chunk_request hc]
  refine ⟨Nat.le_of_eq ho, ?_⟩
  simp [candidateObservation, hc, StreamRequest.metadata, ho]

theorem Playing.startChunk {n : ℕ} {s : ChunkStream P R T} (h : s.Playing false n) (t : StreamTick P R T) :
    Done cfg n (s.startChunk cfg t) := by
  unfold ChunkStream.startChunk
  dsimp only
  have h1 := h.interleave (t.gap .take)
  split
  · rename_i c hc
    exact (h1.takePrefetched.activateChunk cfg (h1.timed.candidateOf hc) t.now false).finishTick cfg t
  · have h2 := h1.takePrefetched.interleave (t.gap .pending)
    split
    · exact h2.requestAndHold cfg t
    · obtain ⟨h3, hcand⟩ := (h2.interleave (t.gap .sample)).sampleAndAlignChunkTimed t
      split
      · exact ⟨h3.aligned, h3.emitted⟩
      · exact h3.requestAndHold cfg t
      · rename_i c hc _
        exact (h3.activateChunk cfg (hcand c hc) t.now false).finishTick cfg t

omit [LE T] [DecidableLE T] in
/-- The first row of a chunk that was activated during a recovery. -/
theorem Aligned.resumeRow {s : ChunkStream P R T} (h : s.Aligned) (hr : s.resumeRowPending = true) (now : T) :
    (s.resumeRow cfg now).Playing true s.emittedPolicySteps := by
  obtain ⟨-, -, hindex⟩ := h.resume hr
  have hp : s.Placed true := by
    rw [← hr]
    exact h.placed
  exact ⟨⟨h.timed.1, h.timed.2, h.timed.3, h.timed.4⟩, hp.of_same rfl hindex.symm rfl, rfl, rfl⟩

theorem Aligned.nextIntentStreamed {s : ChunkStream P R T} (h : s.Aligned) (t : StreamTick P R T) :
    Done cfg s.emittedPolicySteps (s.nextIntentStreamed cfg t) := by
  unfold ChunkStream.nextIntentStreamed
  split
  · rename_i hc
    have hr : s.resumeRowPending = false := by
      cases hr : s.resumeRowPending with
      | false => rfl
      | true =>
        have := (h.resume hr).1
        rw [hc] at this
        cases this
    exact (h.playing hr).startChunk cfg t
  · by_cases hr : s.resumeRowPending = true
    · rw [if_pos hr]
      exact (h.resumeRow cfg hr t.now).finishTick cfg t
    · rw [if_neg hr]
      have hplay := h.playing (Bool.eq_false_iff.mpr hr)
      split
      · exact hplay.reachDeadline cfg t
      · exact hplay.finishTick cfg t

theorem Aligned.previewRecoveryIntent {s : ChunkStream P R T} (h : s.Aligned) (t : RecoveryTick P R T) :
    Done cfg s.emittedPolicySteps (s.previewRecoveryIntent cfg t, .held) := by
  unfold ChunkStream.previewRecoveryIntent
  by_cases hpub : s.candidatePublished = true
  · rw [if_pos hpub]
    exact ⟨h, rfl⟩
  · rw [if_neg hpub]
    dsimp only
    have hr : s.resumeRowPending = false := by
      cases hr : s.resumeRowPending with
      | false => rfl
      | true => exact absurd (h.resume hr).2.1 hpub
    have h1 := (h.playing hr).interleave (t.gap .take)
    split
    · exact ((h1.takePrefetched.interleave _).requestPrefetch _).held cfg
    · rename_i c hc
      have hcand := h1.timed.candidateOf hc
      split
      · have h2 := h1.takePrefetched.activateChunk cfg hcand t.now false
        split
        · rename_i hsome
          refine ⟨⟨⟨h2.timed.1, h2.timed.2, h2.timed.3, h2.timed.4⟩, h2.placed, fun _ => ⟨hsome, rfl, ?_⟩⟩, h2.emitted⟩
          exact activateChunk_index cfg hsome
        · rename_i hnone
          refine Playing.held cfg (Playing.requestPrefetch (Playing.interleave ?_ _) _)
          refine ⟨⟨h2.timed.1, h2.timed.2, h2.timed.3, h2.timed.4⟩, fun a ha => ?_, h2.resume, h2.emitted⟩
          exact absurd (Option.isSome_iff_exists.mpr ⟨a, ha⟩) hnone
      · have h2 := h1.takePrefetched
        refine Playing.held cfg (Playing.requestPrefetch (Playing.interleave ?_ _) _)
        exact ⟨⟨h2.timed.1, h2.timed.2, h2.timed.3, h2.timed.4⟩, h2.placed, h2.resume, h2.emitted⟩

omit [Add T] [LE T] [DecidableLE T] in
theorem Aligned.invalidatePolicyChunks {s : ChunkStream P R T} (h : s.Aligned) : s.invalidatePolicyChunks.Aligned := by
  refine ⟨⟨fun r hr => (by cases hr), h.timed.worker, h.timed.inferred, fun c hc => (by cases hc)⟩, ?_, fun hr => ?_⟩
  · intro c hc
    cases hc
  · cases hr

/-- **One call.** -/
theorem call_done {s : ChunkStream P R T} (h : s.Aligned) (x : SourceCall P R T) :
    Done cfg s.emittedPolicySteps (s.call cfg x) := by
  cases x with
  | nextIntent t => exact h.nextIntentStreamed cfg t
  | recovery t => exact h.previewRecoveryIntent cfg t
  | invalidate => exact ⟨h.invalidatePolicyChunks, rfl⟩
  | close => exact ⟨⟨⟨h.timed.1, h.timed.2, h.timed.3, h.timed.4⟩, h.placed, h.resume⟩, rfl⟩
  | worker w => exact ⟨h.workerStep w, (s.sameControl_workerStep w).emittedPolicySteps⟩

/-! ## Whole runs -/

omit [Add T] [LE T] [DecidableLE T] in
theorem aligned_start (zero : T) : (start zero : ChunkStream P R T).Aligned := by
  refine ⟨⟨?_, ?_, ?_, ?_⟩, ?_, ?_⟩
  · intro r hr
    cases hr
  · intro r hr
    cases hr
  · intro r c d hw
    cases hw
  · intro c hc
    cases hc
  · intro c hc
    cases hc
  · intro hr
    cases hr

theorem emittedRows_cons (s : ChunkStream P R T) (x : SourceCall P R T) (calls : List (SourceCall P R T)) :
    s.emittedRows cfg (x :: calls) =
      (s.call cfg x).2.row?.toList ++ (s.call cfg x).1.emittedRows cfg calls := by
  unfold emittedRows
  rw [dispatched, List.filterMap_cons]
  cases (s.call cfg x).2.row? with
  | none => rfl
  | some r => rfl

omit [Add T] [LE T] [DecidableLE T] in
theorem outcome_rows {n m : ℕ} {d : Dispatched P R} (h : d.Outcome cfg n m) :
    (∀ r, d.row? = some r → r.RowAt cfg n) ∧ m = n + d.row?.toList.length ∧ d ≠ .indexError := by
  cases d with
  | row r₀ =>
    refine ⟨fun r hr => ?_, h.2, by simp⟩
    obtain rfl : r₀ = r := Option.some.inj hr
    exact h.1
  | held => exact ⟨fun r hr => (by cases hr), h, by simp⟩
  | inferenceRaised => exact ⟨fun r hr => (by cases hr), h, by simp⟩
  | indexError => exact h.elim

/-- **Whole runs.**  From a state with `n` rows emitted, the `k`-th row of a run is at `n + k`. -/
theorem emittedRows_at {s : ChunkStream P R T} (h : s.Aligned) (calls : List (SourceCall P R T)) :
    (∀ (k : ℕ) (r : PolicyRow P R), (s.emittedRows cfg calls)[k]? = some r →
        r.RowAt cfg (s.emittedPolicySteps + k)) ∧
      (s.runCalls cfg calls).emittedPolicySteps = s.emittedPolicySteps + (s.emittedRows cfg calls).length ∧
      .indexError ∉ s.dispatched cfg calls := by
  induction calls generalizing s with
  | nil =>
    refine ⟨fun k r hr => ?_, rfl, List.not_mem_nil⟩
    simp [emittedRows, dispatched] at hr
  | cons x calls ih =>
    obtain ⟨hs, hout⟩ := call_done cfg h x
    obtain ⟨hrow, hm, hne⟩ := outcome_rows cfg hout
    obtain ⟨hrows, hcount, herr⟩ := ih hs
    refine ⟨fun k r hr => ?_, ?_, ?_⟩
    · rw [emittedRows_cons] at hr
      cases hd : (s.call cfg x).2.row? with
      | none =>
        rw [hd] at hr hm
        have := hrows k r hr
        rwa [hm] at this
      | some r₀ =>
        rw [hd] at hr hm
        cases k with
        | zero =>
          obtain rfl : r₀ = r := Option.some.inj hr
          exact hrow r₀ hd
        | succ k =>
          have := hrows k r hr
          rw [hm] at this
          have hk : s.emittedPolicySteps + (some r₀).toList.length + k = s.emittedPolicySteps + (k + 1) := by
            show s.emittedPolicySteps + 1 + k = s.emittedPolicySteps + (k + 1)
            omega
          rwa [hk] at this
    · show ((s.call cfg x).1.runCalls cfg calls).emittedPolicySteps = _
      rw [hcount, emittedRows_cons, List.length_append, hm]
      omega
    · rw [dispatched, List.mem_cons, not_or]
      exact ⟨hne.symm, herr⟩

/-! ## A candidate that cannot be used -/

omit [Add T] [LE T] [DecidableLE T] in
theorem sameControl_requestPrefetch (s : ChunkStream P R T) (payload : P) :
    SameControl s (s.requestPrefetch payload) := by
  unfold requestPrefetch
  split
  · exact ⟨rfl, rfl, rfl, rfl, rfl, rfl, rfl, rfl⟩
  · exact ⟨rfl, rfl, rfl, rfl, rfl, rfl, rfl, rfl⟩

omit [Add T] [LE T] [DecidableLE T] in
theorem sameControl_kickPrefetch (s : ChunkStream P R T) (t : StreamTick P R T) :
    SameControl s (s.kickPrefetch cfg t) := by
  have h1 := s.sameControl_interleave (t.gap .kickPending)
  unfold kickPrefetch
  dsimp only
  split
  · exact h1
  · have h2 := h1.trans (sameControl_interleave _ (t.gap .kickReady))
    split
    · exact h2
    · exact (h2.trans (sameControl_interleave _ (t.gap .request))).trans (sameControl_requestPrefetch _ _)

/-- The ready chunk has no row left at the current step, or is of another generation. -/
def ReadyUnusable (s : ChunkStream P R T) : Prop :=
  ∃ d m, s.nextChunk = some d ∧ s.nextChunkMetadata = some m ∧
    (d.rows.length ≤ s.emittedPolicySteps - m.observationStepSeq ∨ m.generation ≠ s.generation)

/-- An unusable candidate leaves the active chunk at the row it is at. -/
theorem tryReadyEventActivation_unusable (s : ChunkStream P R T) (t : StreamTick P R T)
    (h : ((s.interleave (t.gap .peek)).interleave (t.gap .readyTake)).ReadyUnusable) :
    (s.tryReadyEventActivation cfg t).1 = false ∧ (s.tryReadyEventActivation cfg t).2.chunk = s.chunk ∧
      (s.tryReadyEventActivation cfg t).2.chunkIndex = s.chunkIndex := by
  have h1 := s.sameControl_interleave (t.gap .peek)
  have h2 := h1.trans (sameControl_interleave _ (t.gap .readyTake))
  obtain ⟨d, m, hd, hm, hbad⟩ := h
  unfold tryReadyEventActivation
  dsimp only
  split
  · exact ⟨rfl, h1.chunk, h1.chunkIndex⟩
  · split
    · rename_i hnone
      rw [hd] at hnone
      cases hnone
    · rename_i d' hd'
      obtain rfl : d = d' := Option.some.inj (hd.symm.trans hd')
      rw [if_pos]
      · exact ⟨rfl, h2.chunk, h2.chunkIndex⟩
      · rcases hbad with hrows | hgen
        · right
          right
          simpa [candidateObservation, takePrefetched, hd, hm] using hrows
        · left
          simpa [takePrefetched, hd, hm] using hgen

/-- At the deadline of a row the next row of the active chunk is emitted, whatever unusable candidate is ready. -/
theorem nextIntentStreamed_unusable {s : ChunkStream P R T} {c : ActiveChunk P R} (t : StreamTick P R T)
    (hmode : cfg.chunkActivationMode = .readyEvent) (hc : s.chunk = some c) (hr : s.resumeRowPending = false)
    (hdue : s.stepDeadline ≤ t.now)
    (h : ((s.interleave (t.gap .peek)).interleave (t.gap .readyTake)).ReadyUnusable)
    (hnext : s.chunkIndex + 1 < s.currentChunkExecuteLimit cfg) :
    (s.nextIntentStreamed cfg t).1.chunk = some c ∧ (s.nextIntentStreamed cfg t).1.chunkIndex = s.chunkIndex + 1 ∧
      ∃ r, (s.nextIntentStreamed cfg t).2 = .row r ∧ r.source = c.source ∧
        c.rows[s.chunkIndex + 1]? = some r.step := by
  obtain ⟨hfalse, hchunk, hindex⟩ := s.tryReadyEventActivation_unusable cfg t h
  generalize hs' : (s.tryReadyEventActivation cfg t).2 = s' at hchunk hindex
  have htry : s.tryReadyEventActivation cfg t = (false, s') := Prod.ext hfalse hs'
  have hlimit : s'.currentChunkExecuteLimit cfg = s.currentChunkExecuteLimit cfg := by
    unfold currentChunkExecuteLimit
    rw [hchunk]
  have heq : s.nextIntentStreamed cfg t =
      ({ s' with chunkIndex := s'.chunkIndex + 1, stepDeadline := s'.nextStepDeadline cfg t.now }.kickPrefetch
        cfg t).emitRow cfg := by
    unfold nextIntentStreamed reachDeadline advanceRow
    rw [hc]
    dsimp only
    rw [hr, if_neg Bool.false_ne_true, if_pos hdue, if_pos hmode, htry]
    dsimp only
    rw [hlimit, hindex, if_pos hnext]
    rfl
  have hkick := sameControl_kickPrefetch cfg
    { s' with chunkIndex := s'.chunkIndex + 1, stepDeadline := s'.nextStepDeadline cfg t.now } t
  rw [heq]
  generalize { s' with chunkIndex := s'.chunkIndex + 1, stepDeadline := s'.nextStepDeadline cfg t.now }.kickPrefetch
    cfg t = s'' at hkick ⊢
  have hc'' : s''.chunk = some c := (hkick.chunk.trans hchunk).trans hc
  have hi'' : s''.chunkIndex = s.chunkIndex + 1 := hkick.chunkIndex.trans (by rw [hindex])
  have hlen : s''.chunkIndex < c.rows.length := by
    simp only [currentChunkExecuteLimit, hc] at hnext
    omega
  obtain ⟨step, gripper, hstep, -, hemit⟩ := emitRow_eq cfg hc'' hlen
  rw [hemit]
  rw [hi''] at hstep
  exact ⟨hc'', hi'', ⟨c.source, step, gripper⟩, rfl, rfl, hstep⟩

/-! ## Time alignment -/

/-- The rows of a run: each at its place, none repeated and none left out while one chunk is played. -/
structure RowsTimed (zero : T) (calls : List (SourceCall P R T)) : Prop where
  rows : ∀ (n : ℕ) (r : PolicyRow P R), ((start zero).emittedRows cfg calls)[n]? = some r → r.RowAt cfg n
  counted : ((start zero).runCalls cfg calls).emittedPolicySteps = ((start zero).emittedRows cfg calls).length
  consecutive : ∀ (n k : ℕ) (r r' : PolicyRow P R), ((start zero).emittedRows cfg calls)[n]? = some r →
    ((start zero).emittedRows cfg calls)[n + k]? = some r' → r'.source = r.source →
      r.source.rows[n - r.source.request.observationStepSeq]? = some r.step ∧
        r.source.rows[n - r.source.request.observationStepSeq + k]? = some r'.step
  noIndexError : .indexError ∉ (start zero).dispatched cfg calls

/-- On a ready event, a candidate that is expired or of another generation changes neither the active chunk nor the
row that comes next. -/
def UnusableKeepsRow (P R : Type) : Prop :=
  ∀ (s : ChunkStream P R T) (t : StreamTick P R T) (c : ActiveChunk P R),
    cfg.chunkActivationMode = .readyEvent → s.chunk = some c → s.resumeRowPending = false →
    s.stepDeadline ≤ t.now → ((s.interleave (t.gap .peek)).interleave (t.gap .readyTake)).ReadyUnusable →
      ((s.tryReadyEventActivation cfg t).1 = false ∧ (s.tryReadyEventActivation cfg t).2.chunk = s.chunk ∧
        (s.tryReadyEventActivation cfg t).2.chunkIndex = s.chunkIndex) ∧
      (s.chunkIndex + 1 < s.currentChunkExecuteLimit cfg →
        (s.nextIntentStreamed cfg t).1.chunk = some c ∧
          (s.nextIntentStreamed cfg t).1.chunkIndex = s.chunkIndex + 1 ∧
          ∃ r, (s.nextIntentStreamed cfg t).2 = .row r ∧ r.source = c.source ∧
            c.rows[s.chunkIndex + 1]? = some r.step)

theorem rows_timed (zero : T) (calls : List (SourceCall P R T)) :
    RowsTimed cfg zero calls ∧ UnusableKeepsRow cfg P R := by
  obtain ⟨hrows, hcount, herr⟩ := emittedRows_at cfg (aligned_start zero) calls
  have hat : ∀ (n : ℕ) (r : PolicyRow P R), ((start zero).emittedRows cfg calls)[n]? = some r → r.RowAt cfg n := by
    intro n r hr
    have := hrows n r hr
    rwa [show (start zero : ChunkStream P R T).emittedPolicySteps = 0 from rfl, Nat.zero_add] at this
  refine ⟨⟨hat, by rw [hcount]; exact Nat.zero_add _, ?_, herr⟩, ?_⟩
  · intro n k r r' hr hr' hsame
    have hstep := (hat (n + k) r' hr').step
    have hle := (hat n r hr).observed
    rw [hsame, show n + k - r.source.request.observationStepSeq = n - r.source.request.observationStepSeq + k by
      omega] at hstep
    exact ⟨(hat n r hr).step, hstep⟩
  · intro s t c hmode hc hr hdue hbad
    exact ⟨s.tryReadyEventActivation_unusable cfg t hbad, nextIntentStreamed_unusable cfg t hmode hc hr hdue hbad⟩

end

end ChunkStream

end PolicyRunner
