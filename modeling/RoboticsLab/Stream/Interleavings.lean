import RoboticsLab.Stream.ChunkStream
import RoboticsLab.Lib.Runs

/-!
# The control thread and the worker, interleaved

A run is any order of the control thread's sections and the worker's steps.  The control thread takes a ready
chunk, holds it in a local (`taken`), and activates or discards it before its next section; the worker may run in
between.

    Sound I F : I holds of every request and F of every chunk of the current generation,
                wherever it is: queued, at the worker, ready, taken or active
    Sound I F st → Sound I F (st.step x), unless x invalidates             (Sound.step)
    Sound I F st → Sound I' F' (st.step .invalidate)                       (Sound.invalidate)

With `I` and `F` the events since the last invalidation, a chunk never outlives one (`stream_safe`).
-/

namespace PolicyRunner

open Runs

variable {P R T : Type}

/-- `taken` is the local `chunk` between `_take_prefetched` and the activation. -/
structure StreamThreads (P R T : Type) where
  stream : ChunkStream P R T
  taken : Option (ActionChunk P R)

/-- Values for the fields that only the control thread uses. -/
structure PlayState (T : Type) where
  keepsChunk : Bool
  chunkIndex : ℕ
  stepDeadline : T
  emittedPolicySteps : ℕ
  stallCount : ℕ
  readyDiscardCount : ℕ
  rtcFreezeGuardWaits : ℕ
  candidatePublished : Bool
  resumeRowPending : Bool

/-- The sections of the control thread and the steps of the worker.  `play` is anything the control thread does
with its own fields: it may also drop the active chunk. -/
inductive StreamStep (P R T : Type)
  | request (payload : P)
  | take
  | activate (now : T) (preserveStepGrid : Bool)
  | discard
  | play (p : PlayState T)
  | invalidate
  | close
  | worker (w : ChunkStream.WorkerStep R)

def ChunkStream.play (s : ChunkStream P R T) (p : PlayState T) : ChunkStream P R T :=
  { s with
    chunk := if p.keepsChunk then s.chunk else none
    chunkIndex := p.chunkIndex
    stepDeadline := p.stepDeadline
    emittedPolicySteps := p.emittedPolicySteps
    stallCount := p.stallCount
    readyDiscardCount := p.readyDiscardCount
    rtcFreezeGuardWaits := p.rtcFreezeGuardWaits
    candidatePublished := p.candidatePublished
    resumeRowPending := p.resumeRowPending }

namespace StreamThreads

variable [Add T] [LE T] [DecidableLE T] (cfg : StreamConfig T)

/-- A section that the control thread is not at does nothing: with a chunk in hand it activates or discards. -/
def step (st : StreamThreads P R T) : StreamStep P R T → StreamThreads P R T
  | .request payload => if st.taken.isSome then st else ⟨st.stream.requestPrefetch payload, none⟩
  | .take => if st.taken.isSome then st else ⟨st.stream.takePrefetched, st.stream.nextChunk⟩
  | .activate now preserveStepGrid =>
    match st.taken with
    | none => st
    | some chunk => ⟨st.stream.activateChunk cfg chunk now preserveStepGrid, none⟩
  | .discard => if st.taken.isSome then ⟨st.stream.discardCandidate, none⟩ else st
  | .play p => ⟨st.stream.play p, st.taken⟩
  | .invalidate => if st.taken.isSome then st else ⟨st.stream.invalidatePolicyChunks, none⟩
  | .close => ⟨st.stream.close, st.taken⟩
  | .worker w => ⟨st.stream.workerStep w, st.taken⟩

def run (zero : T) (xs : List (StreamStep P R T)) : StreamThreads P R T :=
  xs.foldl (step cfg) ⟨ChunkStream.start zero, none⟩

/-! ## The events -/

/-- The step issues the request: it puts it into the slot. -/
def Issues (st : StreamThreads P R T) (x : StreamStep P R T) (r : StreamRequest P) : Prop :=
  (∃ payload, x = .request payload) ∧ st.stream.request ≠ some r ∧ (st.step cfg x).stream.request = some r

/-- The step is the worker's inference of the chunk, from the request that it has taken. -/
def Infers (st : StreamThreads P R T) (x : StreamStep P R T) (c : ActionChunk P R) : Prop :=
  st.stream.worker = .inferring c.request ∧ ∃ rtcDelay, x = .worker (.infer (.rows c.rows) rtcDelay)

def Invalidates (st : StreamThreads P R T) (x : StreamStep P R T) : Prop :=
  x = .invalidate ∧ st.taken = none

/-- The request was issued after the last invalidation. -/
def IssuedSince (zero : T) (xs : List (StreamStep P R T)) (r : StreamRequest P) : Prop :=
  Since (fun pre x => (run cfg zero pre).Issues cfg x r) (fun pre x => (run cfg zero pre).Invalidates x) xs

/-- The chunk was inferred after the last invalidation. -/
def InferredSince (zero : T) (xs : List (StreamStep P R T)) (c : ActionChunk P R) : Prop :=
  Since (fun pre x => (run cfg zero pre).Infers x c) (fun pre x => (run cfg zero pre).Invalidates x) xs

/-! ## The invariant -/

variable {I I' : StreamRequest P → Prop} {F F' : ActionChunk P R → Prop} {st : StreamThreads P R T}

/-- A chunk of the current generation whose request and inference meet `I` and `F`. -/
def Current (I : StreamRequest P → Prop) (F : ActionChunk P R → Prop) (s : ChunkStream P R T)
    (c : ActionChunk P R) : Prop :=
  c.request.generation = s.generation ∧ I c.request ∧ F c

structure Sound (I : StreamRequest P → Prop) (F : ActionChunk P R → Prop) (st : StreamThreads P R T) : Prop where
  request : ∀ r, st.stream.request = some r →
    r.generation = st.stream.generation ∧ I r ∧ st.stream.pending = true
  worker : ∀ r, st.stream.worker.request = some r →
    r.generation ≤ st.stream.generation ∧
      (r.generation = st.stream.generation → I r ∧ st.stream.pending = true ∧ st.stream.request = none)
  inferred : ∀ r c d, st.stream.worker = .inferred r (some c) d →
    c.request = r ∧ (r.generation = st.stream.generation → F c)
  ready : ∀ c, st.stream.nextChunk = some c → Current I F st.stream c ∧ st.stream.pending = false
  taken : ∀ c, st.taken = some c → Current I F st.stream c
  active : ∀ a, st.stream.chunk = some a → Current I F st.stream a.source
  busy : st.stream.pending = true → st.stream.request.isSome ∨
    ∃ r, st.stream.worker.request = some r ∧ r.generation = st.stream.generation

omit [Add T] [LE T] [DecidableLE T] in
theorem sound_start (zero : T) : Sound I F (⟨ChunkStream.start zero, none⟩ : StreamThreads P R T) := by
  constructor <;> intros <;> simp_all [ChunkStream.start, StreamWorker.request]

omit [Add T] [LE T] [DecidableLE T] in
theorem Sound.mono (h : Sound I F st) (hI : ∀ r, I r → I' r) (hF : ∀ c, F c → F' c) : Sound I' F' st := by
  have hcur : ∀ c, Current I F st.stream c → Current I' F' st.stream c :=
    fun c hc => ⟨hc.1, hI _ hc.2.1, hF _ hc.2.2⟩
  refine ⟨fun r hr => ?_, fun r hr => ?_, fun r c d hw => ?_, fun c hc => ?_, fun c hc => ?_, fun a ha => ?_, h.busy⟩
  · obtain ⟨hg, hi, hp⟩ := h.request r hr
    exact ⟨hg, hI r hi, hp⟩
  · obtain ⟨hg, hi⟩ := h.worker r hr
    exact ⟨hg, fun e => ⟨hI r (hi e).1, (hi e).2⟩⟩
  · obtain ⟨hc, hf⟩ := h.inferred r c d hw
    exact ⟨hc, fun e => hF c (hf e)⟩
  · exact ⟨hcur c (h.ready c hc).1, (h.ready c hc).2⟩
  · exact hcur c (h.taken c hc)
  · exact hcur a.source (h.active a ha)

/-! ## The steps -/

section
omit [Add T] [LE T] [DecidableLE T]

/-- A step that leaves the shared fields, and may empty the ready slot. -/
theorem Sound.frame (h : Sound I F st) {st' : StreamThreads P R T}
    (hr : st'.stream.request = st.stream.request) (hp : st'.stream.pending = st.stream.pending)
    (hg : st'.stream.generation = st.stream.generation) (hw : st'.stream.worker = st.stream.worker)
    (hn : ∀ c, st'.stream.nextChunk = some c → st.stream.nextChunk = some c)
    (ht : ∀ c, st'.taken = some c → Current I F st.stream c)
    (ha : ∀ a, st'.stream.chunk = some a → Current I F st.stream a.source) : Sound I F st' := by
  have hcur : ∀ c, Current I F st.stream c → Current I F st'.stream c := by
    intro c hc
    exact ⟨hc.1.trans hg.symm, hc.2⟩
  constructor
  · rw [hr, hp, hg]
    exact h.request
  · rw [hr, hp, hg, hw]
    exact h.worker
  · rw [hg, hw]
    exact h.inferred
  · intro c hc
    obtain ⟨hcc, hpp⟩ := h.ready c (hn c hc)
    exact ⟨hcur c hcc, hp.trans hpp⟩
  · intro c hc
    exact hcur c (ht c hc)
  · intro a hc
    exact hcur a.source (ha a hc)
  · rw [hr, hp, hg, hw]
    exact h.busy

theorem Sound.requestPrefetch (h : Sound I F st) (payload : P)
    (hI : ∀ r, (st.stream.requestPrefetch payload).request = some r → st.stream.request ≠ some r → I r) :
    Sound I F ⟨st.stream.requestPrefetch payload, none⟩ := by
  unfold ChunkStream.requestPrefetch at hI ⊢
  split
  · exact h.frame rfl rfl rfl rfl (fun c hc => hc) (fun c hc => by cases hc) h.active
  · rename_i hfree
    rw [if_neg hfree] at hI
    push Not at hfree
    obtain ⟨-, hpend, hnext⟩ := hfree
    constructor
    · rintro r ⟨rfl⟩
      refine ⟨rfl, hI _ rfl fun hold => ?_, rfl⟩
      -- a queued request would have the flag set
      exact hpend (h.request _ hold).2.2
    · intro r hr
      exact ⟨(h.worker r hr).1, fun hg => absurd ((h.worker r hr).2 hg).2.1 hpend⟩
    · exact h.inferred
    · intro c hc
      have hc' : st.stream.nextChunk = some c := hc
      rw [hc'] at hnext
      exact absurd rfl hnext
    · intro c hc
      cases hc
    · exact h.active
    · intro _
      exact .inl rfl

theorem Sound.takePrefetched (h : Sound I F st) : Sound I F ⟨st.stream.takePrefetched, st.stream.nextChunk⟩ := by
  refine h.frame rfl rfl rfl rfl ?_ ?_ h.active
  · intro c hc
    cases hc
  · intro c hc
    exact (h.ready c hc).1

theorem Sound.invalidate (h : Sound I F st) : Sound I' F' ⟨st.stream.invalidatePolicyChunks, none⟩ := by
  constructor
  · intro r hr
    cases hr
  · intro r hr
    -- what the worker still does is of an older generation
    have hg := (h.worker r hr).1
    exact ⟨Nat.le_succ_of_le hg, fun e => absurd e (by show r.generation ≠ st.stream.generation + 1; omega)⟩
  · intro r c d hw
    have hw' : st.stream.worker = .inferred r (some c) d := hw
    refine ⟨(h.inferred r c d hw').1, fun e => absurd e ?_⟩
    have hg := (h.worker r (by rw [hw']; rfl)).1
    show r.generation ≠ st.stream.generation + 1
    omega
  · intro c hc
    cases hc
  · intro c hc
    cases hc
  · intro a ha
    cases ha
  · intro hp
    cases hp

theorem Sound.worker_step (h : Sound I F st) (w : ChunkStream.WorkerStep R)
    (hF : ∀ c, st.Infers (.worker w) c → F c) : Sound I F ⟨st.stream.workerStep w, st.taken⟩ := by
  have hstep := st.stream.workerStep_effect w
  revert hF hstep
  generalize st.stream.workerStep w = s'
  intro hF hstep
  cases hstep with
  | idle => exact h
  | exited hw =>
    refine ⟨h.request, fun r hr => (by cases hr), fun r c d e => (by cases e), h.ready, h.taken, h.active, fun hp => ?_⟩
    rcases h.busy hp with hreq | ⟨r, hr, -⟩
    · exact .inl hreq
    · rw [hw] at hr
      cases hr
  | took r hw hr =>
    obtain ⟨hg, hi, hp⟩ := h.request r hr
    refine ⟨fun r' e => (by cases e), ?_, fun r c d e => (by cases e), h.ready, h.taken, h.active, fun _ => ?_⟩
    · rintro r' ⟨rfl⟩
      exact ⟨Nat.le_of_eq hg, fun _ => ⟨hi, hp, rfl⟩⟩
    · exact .inr ⟨r, rfl, hg⟩
  | inferred r sampled d hw =>
    have hreq : st.stream.worker.request = some r := by rw [hw]; rfl
    refine ⟨h.request, ?_, ?_, h.ready, h.taken, h.active, fun hp => ?_⟩
    · rintro r' ⟨rfl⟩
      exact h.worker r hreq
    · intro r' c d' e
      obtain ⟨rfl, hc, -⟩ := StreamWorker.inferred.inj e
      cases sampled with
      | rows rs =>
        obtain rfl : (⟨r, rs⟩ : ActionChunk P R) = c := Option.some.inj hc
        exact ⟨rfl, fun _ => hF _ ⟨hw, d, rfl⟩⟩
      | none => cases hc
      | raised => cases hc
    · rcases h.busy hp with hq | ⟨r', hr', hg⟩
      · exact .inl hq
      · rw [hreq] at hr'
        exact .inr ⟨r', hr', hg⟩
  | stale r chunk d m hw hg =>
    refine ⟨h.request, fun r hr => (by cases hr), fun r c d e => (by cases e), h.ready, h.taken, h.active, fun hp => ?_⟩
    rcases h.busy hp with hreq | ⟨r', hr', hg'⟩
    · exact .inl hreq
    · rw [hw] at hr'
      obtain rfl : r = r' := Option.some.inj hr'
      exact absurd hg' hg
  | published r chunk d m hw hg =>
    obtain ⟨hi, hp, hq⟩ := (h.worker r (by rw [hw]; rfl)).2 hg
    refine ⟨?_, fun r hr => (by cases hr), fun r c d e => (by cases e), ?_, h.taken, h.active, fun hp => (by cases hp)⟩
    · intro r' hr'
      -- the slot is empty while the worker has the request of this generation
      have hr'' : st.stream.request = some r' := hr'
      rw [hq] at hr''
      cases hr''
    · rintro c ⟨rfl⟩
      obtain ⟨hc, hf⟩ := h.inferred r c d hw
      exact ⟨⟨by rw [hc]; exact hg, by rw [hc]; exact hi, hf hg⟩, rfl⟩

end

theorem Sound.activateChunk (h : Sound I F st) {c : ActionChunk P R} (hc : st.taken = some c) (now : T)
    (preserveStepGrid : Bool) : Sound I F ⟨st.stream.activateChunk cfg c now preserveStepGrid, none⟩ := by
  unfold ChunkStream.activateChunk
  dsimp only
  split
  · refine h.frame rfl rfl rfl rfl (fun c hc => hc) (fun c hc => by cases hc) (fun a ha => by cases ha)
  · refine h.frame rfl rfl rfl rfl (fun c hc => hc) (fun c hc => by cases hc) ?_
    rintro a ⟨rfl⟩
    exact h.taken c hc

/-- **One step.**  A step that does not invalidate keeps the invariant, if `I` and `F` hold of what it issues and
infers. -/
theorem Sound.step (h : Sound I F st) (x : StreamStep P R T) (hx : ¬ st.Invalidates x)
    (hI : ∀ r, st.Issues cfg x r → I r) (hF : ∀ c, st.Infers x c → F c) : Sound I F (st.step cfg x) := by
  cases x with
  | request payload =>
    by_cases ht : st.taken.isSome
    · simpa only [StreamThreads.step, if_pos ht] using h
    · simp only [StreamThreads.step, if_neg ht]
      refine h.requestPrefetch payload fun r hr hne => hI r ⟨⟨payload, rfl⟩, hne, ?_⟩
      simp only [StreamThreads.step, if_neg ht]
      exact hr
  | take =>
    by_cases ht : st.taken.isSome
    · simpa only [StreamThreads.step, if_pos ht] using h
    · simpa only [StreamThreads.step, if_neg ht] using h.takePrefetched
  | activate now preserveStepGrid =>
    simp only [StreamThreads.step]
    split
    · exact h
    · rename_i c hc
      exact h.activateChunk cfg hc now preserveStepGrid
  | discard =>
    by_cases ht : st.taken.isSome
    · simp only [StreamThreads.step, if_pos ht]
      exact h.frame rfl rfl rfl rfl (fun c hc => hc) (fun c hc => by cases hc) h.active
    · simpa only [StreamThreads.step, if_neg ht] using h
  | play p =>
    refine h.frame rfl rfl rfl rfl (fun c hc => hc) h.taken fun a ha => h.active a ?_
    show st.stream.chunk = some a
    have ha' : (if p.keepsChunk then st.stream.chunk else none) = some a := ha
    split at ha'
    · exact ha'
    · cases ha'
  | invalidate =>
    by_cases ht : st.taken.isSome
    · simpa only [StreamThreads.step, if_pos ht] using h
    · exact absurd ⟨rfl, by simpa using ht⟩ hx
  | close => exact h.frame rfl rfl rfl rfl (fun c hc => hc) h.taken h.active
  | worker w => exact h.worker_step w hF

/-! ## Whole runs -/

theorem run_concat (zero : T) (xs : List (StreamStep P R T)) (x : StreamStep P R T) :
    run cfg zero (xs ++ [x]) = (run cfg zero xs).step cfg x := by
  simp [run]

/-- **Whole runs.**  Every request and chunk of the current generation was issued and inferred after the last
invalidation. -/
theorem run_sound (zero : T) (xs : List (StreamStep P R T)) :
    Sound (IssuedSince cfg zero xs) (InferredSince cfg zero xs) (run cfg zero xs) := by
  induction xs using List.reverseRecOn with
  | nil => exact sound_start zero
  | append_singleton xs x ih =>
    rw [run_concat]
    by_cases hx : (run cfg zero xs).Invalidates x
    · obtain ⟨rfl, ht⟩ := hx
      have hstep : (run cfg zero xs).step cfg .invalidate =
          ⟨(run cfg zero xs).stream.invalidatePolicyChunks, none⟩ := by
        simp [StreamThreads.step, ht]
      rw [hstep]
      exact ih.invalidate
    · have hkeep : ∀ Q, Since Q (fun pre x => (run cfg zero pre).Invalidates x) xs →
          Since Q (fun pre x => (run cfg zero pre).Invalidates x) (xs ++ [x]) :=
        fun Q hQ => (since_concat x).mpr (.inr ⟨hQ, hx⟩)
      have hmono : Sound (IssuedSince cfg zero (xs ++ [x])) (InferredSince cfg zero (xs ++ [x])) (run cfg zero xs) :=
        ih.mono (fun r => hkeep _) (fun c => hkeep _)
      refine hmono.step cfg x hx (fun r hr => ?_) fun c hc => ?_
      · exact (since_concat x).mpr (.inl hr)
      · exact (since_concat x).mpr (.inl hc)

/-! ## Safety -/

end StreamThreads

/-- The requests that are queued, at the worker, or answered by the ready chunk. -/
def ChunkStream.outstanding (s : ChunkStream P R T) : List (StreamRequest P) :=
  s.request.toList ++ s.worker.request.toList ++ (s.nextChunk.map ActionChunk.request).toList

theorem length_filter_pair_le {α : Type} (f : α → ℕ) {a b : α} (h : f a ≠ f b) (g : ℕ) :
    ([a, b].filter fun x => f x = g).length ≤ 1 := by
  by_cases ha : f a = g
  · have hb : f b ≠ g := fun e => h (ha.trans e.symm)
    simp [ha, hb]
  · simpa [ha] using List.length_filter_le (fun x => decide (f x = g)) [b]

namespace StreamThreads

section
variable {I : StreamRequest P → Prop} {F : ActionChunk P R → Prop} {st : StreamThreads P R T}

/-- The queued request and the ready chunk exclude each other, and each excludes a request of the current
generation at the worker. -/
theorem Sound.outstanding_le_one (h : Sound I F st) (g : ℕ) :
    (st.stream.outstanding.filter fun r => r.generation = g).length ≤ 1 := by
  unfold ChunkStream.outstanding
  cases hr : st.stream.request with
  | none =>
    cases hn : st.stream.nextChunk with
    | none =>
      cases st.stream.worker.request with
      | none => simp
      | some r => simpa using List.length_filter_le _ [r]
    | some c =>
      obtain ⟨⟨hcg, -⟩, hp⟩ := h.ready c hn
      cases hw : st.stream.worker.request with
      | none => simpa using List.length_filter_le _ [c.request]
      | some r =>
        have hne : r.generation ≠ c.request.generation := by
          intro e
          have := ((h.worker r hw).2 (e.trans hcg)).2.1
          rw [hp] at this
          cases this
        exact length_filter_pair_le StreamRequest.generation hne g
  | some q =>
    obtain ⟨hqg, -, hp⟩ := h.request q hr
    have hn : st.stream.nextChunk = none := by
      cases hn : st.stream.nextChunk with
      | none => rfl
      | some c =>
        have := (h.ready c hn).2
        rw [hp] at this
        cases this
    cases hw : st.stream.worker.request with
    | none => simpa [hn] using List.length_filter_le _ [q]
    | some r =>
      have hne : q.generation ≠ r.generation := by
        intro e
        have := ((h.worker r hw).2 (e.symm.trans hqg)).2.2
        rw [hr] at this
        cases this
      rw [hn]
      exact length_filter_pair_le StreamRequest.generation hne g

theorem Sound.pending_iff (h : Sound I F st) :
    st.stream.pending = true ↔ st.stream.request.isSome ∨
      ∃ r, st.stream.worker.request = some r ∧ r.generation = st.stream.generation := by
  constructor
  · exact h.busy
  · rintro (hr | ⟨r, hr, hg⟩)
    · obtain ⟨r, hr⟩ := Option.isSome_iff_exists.mp hr
      exact (h.request r hr).2.2
    · exact ((h.worker r hr).2 hg).2.1

end

end StreamThreads

/-- A tick that finds no chunk to play can put a request into the slot. -/
def ChunkStream.CanRequest (s : ChunkStream P R T) : Prop :=
  ∀ payload, (s.takePrefetched.requestPrefetch payload).request =
    some ⟨s.generation, s.inferenceSeq + 1, payload, s.emittedPolicySteps⟩

namespace StreamThreads

variable [Add T] [LE T] [DecidableLE T] (cfg : StreamConfig T)

/-- What holds after every run, and of the completion that the worker may publish next. -/
structure StreamSafe (zero : T) (xs : List (StreamStep P R T)) : Prop where
  active : ∀ a, (run cfg zero xs).stream.chunk = some a →
    a.source.request.generation = (run cfg zero xs).stream.generation ∧
      IssuedSince cfg zero xs a.source.request ∧ InferredSince cfg zero xs a.source
  outstanding : ∀ g, ((run cfg zero xs).stream.outstanding.filter fun r => r.generation = g).length ≤ 1
  stale : ∀ r c d m, (run cfg zero xs).stream.worker = .inferred r c d →
    r.generation ≠ (run cfg zero xs).stream.generation →
    (run cfg zero xs).step cfg (.worker (.publish m)) =
      ⟨{ (run cfg zero xs).stream with inflightGeneration := none, worker := .waiting }, (run cfg zero xs).taken⟩
  completed : ∀ r c d m, (run cfg zero xs).stream.worker = .inferred r c d →
    r.generation = (run cfg zero xs).stream.generation →
    (run cfg zero (xs ++ [.worker (.publish m)])).stream.pending = false
  again : (run cfg zero xs).stream.pending = false → (run cfg zero xs).stream.shutdown = false →
    (run cfg zero xs).stream.CanRequest
  pending : (run cfg zero xs).stream.pending = true ↔ (run cfg zero xs).stream.request.isSome ∨
    ∃ r, (run cfg zero xs).stream.worker.request = some r ∧ r.generation = (run cfg zero xs).stream.generation

/-- **No plan outlives an invalidation.** -/
theorem stream_safe (zero : T) (xs : List (StreamStep P R T)) : StreamSafe cfg zero xs := by
  have h := run_sound cfg zero xs
  refine ⟨h.active, h.outstanding_le_one, ?_, ?_, ?_, h.pending_iff⟩
  · intro r c d m hw hg
    simp [StreamThreads.step, ChunkStream.workerStep, hw, hg]
  · intro r c d m hw hg
    rw [run_concat]
    simp [StreamThreads.step, ChunkStream.workerStep, hw, hg]
  · intro hp hs payload
    simp [ChunkStream.takePrefetched, ChunkStream.requestPrefetch, hp, hs]

end StreamThreads

end PolicyRunner
