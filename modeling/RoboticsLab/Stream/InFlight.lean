import RoboticsLab.Stream.Dispatcher

/-!
# One request in flight

Without invalidations the stream has at most one request under way: queued, at the worker, or answered by the chunk
that is ready.  Between two requests the control thread and the worker only move it along or drop it:

    Quiet s s' : what is in flight in s' was in flight in s
    Asked s s' : what is in flight in s' is a new request, numbered after s

A step of the worker, a take and an activation are quiet; `requestPrefetch` does nothing or asks.
-/

namespace PolicyRunner.ChunkStream

variable {P R T : Type} {s s' s'' : ChunkStream P R T} {r : StreamRequest P}

/-- The request is queued, at the worker, or its chunk is ready. -/
def InFlight (s : ChunkStream P R T) (r : StreamRequest P) : Prop :=
  s.request = some r ∨ s.worker.request = some r ∨ s.nextChunk.map ActionChunk.request = some r

/-- The shared fields of a stream that was never invalidated. -/
structure Single (s : ChunkStream P R T) : Prop where
  queued : ∀ r, s.request = some r → s.pending = true
  working : ∀ r, s.worker.request = some r → s.pending = true ∧ s.request = none
  inferred : ∀ r c d, s.worker = .inferred r (some c) d → c.request = r
  ready : s.nextChunk.isSome = true → s.pending = false
  numbered : ∀ r, s.InFlight r → r.inferenceSeq ≤ s.inferenceSeq

structure Quiet (s s' : ChunkStream P R T) : Prop where
  single : s'.Single
  inFlight : ∀ r, s'.InFlight r → s.InFlight r
  request : ∀ r, s'.request = some r → s.request = some r
  seq : s.inferenceSeq ≤ s'.inferenceSeq
  ready : ∀ r, s'.InFlight r → s.nextChunk.isSome = true → s'.nextChunk.isSome = true

structure Asked (s s' : ChunkStream P R T) : Prop where
  single : s'.Single
  fresh : ∀ r, s'.InFlight r → s'.request = some r ∧ s.inferenceSeq < r.inferenceSeq
  seq : s.inferenceSeq ≤ s'.inferenceSeq

theorem single_start (zero : T) : (start zero : ChunkStream P R T).Single := by
  refine ⟨?_, ?_, ?_, ?_, ?_⟩
  · intro r hr
    cases hr
  · intro r hr
    cases hr
  · intro r c d hw
    cases hw
  · intro hready
    cases hready
  · rintro r (hr | hr | hr)
    · cases hr
    · cases hr
    · cases hr

/-- What is in flight shows in the flag or in the ready slot. -/
theorem Single.outstanding (h : s.Single) (hr : s.InFlight r) : s.pending = true ∨ s.nextChunk.isSome = true := by
  rcases hr with hr | hr | hr
  · exact .inl (h.queued r hr)
  · exact .inl (h.working r hr).1
  · obtain ⟨c, hc, -⟩ := Option.map_eq_some_iff.mp hr
    rw [hc]
    exact .inr rfl

theorem Single.quiet (h : s.Single) : Quiet s s :=
  ⟨h, fun _ hr => hr, fun _ hr => hr, Nat.le_refl _, fun _ _ hready => hready⟩

theorem Quiet.trans (q : Quiet s s') (q' : Quiet s' s'') : Quiet s s'' where
  single := q'.single
  inFlight r hr := q.inFlight r (q'.inFlight r hr)
  request r hr := q.request r (q'.request r hr)
  seq := Nat.le_trans q.seq q'.seq
  ready r hr hready := q'.ready r hr (q.ready r (q'.inFlight r hr) hready)

theorem Quiet.asked (q : Quiet s s') (a : Asked s' s'') : Asked s s'' where
  single := a.single
  fresh r hr := ⟨(a.fresh r hr).1, Nat.lt_of_le_of_lt q.seq (a.fresh r hr).2⟩
  seq := Nat.le_trans q.seq a.seq

/-! ## The shared fields alone -/

/-- The same shared fields, perhaps another inference number. -/
structure SameShared (s s' : ChunkStream P R T) : Prop where
  request : s'.request = s.request
  pending : s'.pending = s.pending
  worker : s'.worker = s.worker
  nextChunk : s'.nextChunk = s.nextChunk
  seq : s.inferenceSeq ≤ s'.inferenceSeq

theorem SameShared.inFlight (e : SameShared s s') (r : StreamRequest P) : s'.InFlight r ↔ s.InFlight r := by
  unfold InFlight
  rw [e.request, e.worker, e.nextChunk]

theorem SameShared.single (e : SameShared s s') (h : s.Single) : s'.Single := by
  refine ⟨?_, ?_, ?_, ?_, fun r hr => Nat.le_trans (h.numbered r ((e.inFlight r).mp hr)) e.seq⟩
  · rw [e.request, e.pending]
    exact h.queued
  · rw [e.request, e.pending, e.worker]
    exact h.working
  · rw [e.worker]
    exact h.inferred
  · rw [e.nextChunk, e.pending]
    exact h.ready

theorem SameShared.quiet (e : SameShared s s') (h : s.Single) : Quiet s s' where
  single := e.single h
  inFlight r hr := (e.inFlight r).mp hr
  request r hr := e.request ▸ hr
  seq := e.seq
  ready r _ hready := by rwa [e.nextChunk]

theorem Asked.same (a : Asked s s') (e : SameShared s' s'') : Asked s s'' where
  single := e.single a.single
  fresh r hr := by
    rw [e.request]
    exact a.fresh r ((e.inFlight r).mp hr)
  seq := Nat.le_trans a.seq e.seq

/-! ## The worker -/

/-- The worker has put down what it worked on. -/
theorem Single.emptyHanded (h : s.Single) (hin : ∀ r, s'.InFlight r → s.InFlight r)
    (hrequest : s'.request = s.request) (hpending : s'.pending = s.pending) (hnext : s'.nextChunk = s.nextChunk)
    (hseq : s'.inferenceSeq = s.inferenceSeq) (hworker : s'.worker.request = none) : Quiet s s' := by
  refine ⟨⟨?_, ?_, ?_, ?_, ?_⟩, hin, ?_, ?_, ?_⟩
  · rw [hrequest, hpending]
    exact h.queued
  · intro r hr
    rw [hworker] at hr
    cases hr
  · intro r c d hw
    rw [hw] at hworker
    cases hworker
  · rw [hnext, hpending]
    exact h.ready
  · intro r hr
    rw [hseq]
    exact h.numbered r (hin r hr)
  · intro r hr
    rwa [hrequest] at hr
  · omega
  · intro r _ hready
    rwa [hnext]

theorem Single.workerStep (h : s.Single) (w : WorkerStep R) : Quiet s (s.workerStep w) := by
  have hstep := s.workerStep_effect w
  revert hstep
  generalize s.workerStep w = s'
  intro hstep
  cases hstep with
  | idle => exact h.quiet
  | exited hw =>
    have hin : ∀ r, InFlight { s with worker := .exited } r → s.InFlight r := by
      rintro r (hr | hr | hr)
      · exact .inl hr
      · cases hr
      · exact .inr (.inr hr)
    exact h.emptyHanded hin rfl rfl rfl rfl rfl
  | took r₀ hw hr₀ =>
    refine ⟨⟨?_, ?_, ?_, h.ready, ?_⟩, ?_, ?_, Nat.le_refl _, fun r _ hready => hready⟩
    · intro r hr
      cases hr
    · intro r _
      exact ⟨h.queued r₀ hr₀, rfl⟩
    · intro r c d e
      cases e
    · rintro r (hr | hr | hr)
      · cases hr
      · exact h.numbered r (.inl (hr₀.trans hr))
      · exact h.numbered r (.inr (.inr hr))
    · rintro r (hr | hr | hr)
      · cases hr
      · exact .inl (hr₀.trans hr)
      · exact .inr (.inr hr)
    · intro r hr
      cases hr
  | inferred r₀ sampled d hw =>
    have hworker : s.worker.request = some r₀ := by rw [hw]; rfl
    have hin : ∀ r, InFlight { s with worker := .inferred r₀ (sampled.chunk r₀) d } r → s.InFlight r := by
      rintro r (hr | hr | hr)
      · exact .inl hr
      · exact .inr (.inl (hworker.trans hr))
      · exact .inr (.inr hr)
    refine ⟨⟨h.queued, ?_, ?_, h.ready, fun r hr => h.numbered r (hin r hr)⟩, hin, fun r hr => hr, Nat.le_refl _,
      fun r _ hready => hready⟩
    · intro r _
      exact h.working r₀ hworker
    · intro r c d' e
      obtain ⟨rfl, hc, -⟩ := StreamWorker.inferred.inj e
      exact Sampled.chunk_request hc
  | stale r₀ chunk d m hw hg =>
    have hin : ∀ r, InFlight { s with inflightGeneration := none, worker := .waiting } r → s.InFlight r := by
      rintro r (hr | hr | hr)
      · exact .inl hr
      · cases hr
      · exact .inr (.inr hr)
    exact h.emptyHanded hin rfl rfl rfl rfl rfl
  | published r₀ chunk d m hw hg =>
    have hworker : s.worker.request = some r₀ := by rw [hw]; rfl
    obtain ⟨hbusy, hnone⟩ := h.working r₀ hworker
    have hin : ∀ r, InFlight { s with
        nextChunk := chunk
        nextChunkMetadata := chunk.map fun _ => r₀.metadata d m
        pending := false
        inflightGeneration := none
        worker := .waiting } r → s.InFlight r := by
      rintro r (hr | hr | hr)
      · exact .inl hr
      · cases hr
      · obtain ⟨c, rfl, rfl⟩ := Option.map_eq_some_iff.mp hr
        exact .inr (.inl (by rw [hworker, h.inferred r₀ c d hw]))
    refine ⟨⟨?_, ?_, ?_, fun _ => rfl, fun r hr => h.numbered r (hin r hr)⟩, hin, fun r hr => hr, Nat.le_refl _, ?_⟩
    · intro r hr
      exact absurd (hnone.symm.trans hr) (by simp)
    · intro r hr
      cases hr
    · intro r c d' e
      cases e
    · intro r _ hready
      rw [h.ready hready] at hbusy
      cases hbusy

theorem Single.interleave (h : s.Single) (steps : List (WorkerStep R)) : Quiet s (s.interleave steps) :=
  interleave_invariant (fun _ w q => q.trans (q.single.workerStep w)) h.quiet steps

/-! ## The control thread -/

theorem Single.takePrefetched (h : s.Single) : Quiet s s.takePrefetched := by
  have hin : ∀ r, s.takePrefetched.InFlight r → s.InFlight r := by
    rintro r (hr | hr | hr)
    · exact .inl hr
    · exact .inr (.inl hr)
    · cases hr
  refine ⟨⟨h.queued, h.working, h.inferred, ?_, fun r hr => h.numbered r (hin r hr)⟩, hin, fun r hr => hr,
    Nat.le_refl _, fun r hr hready => ?_⟩
  · intro hready
    cases hready
  · -- the request that is in flight is the one whose chunk was taken
    have hfree := h.ready hready
    rcases hr with hr | hr | hr
    · rw [h.queued r hr] at hfree
      cases hfree
    · rw [(h.working r hr).1] at hfree
      cases hfree
    · cases hr

/-- A taken chunk leaves nothing in flight. -/
theorem Single.taken (h : s.Single) (hready : s.nextChunk.isSome = true) (hr : s.takePrefetched.InFlight r) :
    False := by
  have := h.takePrefetched.ready r hr hready
  cases this

/-- `requestPrefetch` is refused, or asks when nothing is in flight. -/
theorem Single.requestPrefetch (h : s.Single) (payload : P) :
    s.requestPrefetch payload = s ∨ Asked s (s.requestPrefetch payload) := by
  unfold ChunkStream.requestPrefetch
  split
  · exact .inl rfl
  · rename_i hfree
    push Not at hfree
    obtain ⟨-, hpending, hnone⟩ := hfree
    have hidle : ∀ r, s.worker.request ≠ some r := fun r hr => hpending (h.working r hr).1
    right
    refine ⟨⟨fun r _ => rfl, ?_, h.inferred, ?_, ?_⟩, ?_, Nat.le_succ _⟩
    · intro r hr
      exact absurd hr (hidle r)
    · intro hready
      exact absurd hready (by simpa using hnone)
    · rintro r (hr | hr | hr)
      · obtain rfl := Option.some.inj hr
        exact Nat.le_refl _
      · exact absurd hr (hidle r)
      · exact Nat.le_succ_of_le (h.numbered r (.inr (.inr hr)))
    · rintro r (hr | hr | hr)
      · obtain rfl := Option.some.inj hr
        exact ⟨rfl, Nat.lt_succ_self _⟩
      · exact absurd hr (hidle r)
      · have hready : s.nextChunk.isSome = true := by
          obtain ⟨c, hc, -⟩ := Option.map_eq_some_iff.mp hr
          rw [hc]
          rfl
        exact absurd hready (by simpa using hnone)

/-! ## What only touches the control thread -/

theorem sameShared_sampleAndAlignChunkTimed (t : StreamTick P R T) (s : ChunkStream P R T) :
    SameShared s (s.sampleAndAlignChunkTimed t).2 :=
  ⟨rfl, rfl, rfl, rfl, Nat.le_succ _⟩

theorem sameShared_emitRow (cfg : StreamConfig T) (s : ChunkStream P R T) : SameShared s (s.emitRow cfg).1 := by
  unfold emitRow
  split
  · exact ⟨rfl, rfl, rfl, rfl, Nat.le_refl _⟩
  · split
    · exact ⟨rfl, rfl, rfl, rfl, Nat.le_refl _⟩
    · exact ⟨rfl, rfl, rfl, rfl, Nat.le_refl _⟩

theorem emitRow_control (cfg : StreamConfig T) (s : ChunkStream P R T) :
    (s.emitRow cfg).1.chunk = s.chunk ∧ (s.emitRow cfg).1.chunkIndex = s.chunkIndex := by
  unfold emitRow
  split
  · exact ⟨rfl, rfl⟩
  · split
    · exact ⟨rfl, rfl⟩
    · exact ⟨rfl, rfl⟩

theorem sameShared_activateChunk [Add T] [LE T] [DecidableLE T] (cfg : StreamConfig T) (s : ChunkStream P R T)
    (chunk : ActionChunk P R) (now : T) (preserveStepGrid : Bool) :
    SameShared s (s.activateChunk cfg chunk now preserveStepGrid) := by
  unfold activateChunk
  dsimp only
  split
  · exact ⟨rfl, rfl, rfl, rfl, Nat.le_refl _⟩
  · exact ⟨rfl, rfl, rfl, rfl, Nat.le_refl _⟩

end PolicyRunner.ChunkStream
