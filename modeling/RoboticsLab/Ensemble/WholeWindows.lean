import RoboticsLab.Ensemble.EnsembleStream
import RoboticsLab.Ensemble.Telescoping
import RoboticsLab.Stream.RowTiming
import RoboticsLab.Lib.Runs

/-!
# When the windows of the ensemble are executed whole

A window is cut at its activation by the rows emitted since the request of the chunk that was taken with it, although
the scheduler has already placed its rows by their walls (`lag`).  A call that builds a window leaves

    emitted ++ notExecuted  =  what was built before ++ w.rows.drop lag

so a run executes its windows whole exactly when no call builds a window beside a chunk with a positive lag
(`windows_whole_iff`).
-/

namespace PolicyRunner.Ensemble

variable {P G T : Type}

/-! ## The property -/

/-- The rows of the active window after the one being played. -/
def EnsembleStream.notExecuted (e : EnsembleStream P G T) : List (Row G) :=
  (e.stream.chunk.map fun c => c.rows.drop (e.stream.chunkIndex + 1)).getD []

/-- The rows of the windows are the rows emitted and, of the last window, those still to come. -/
structure StreamRun.Whole (r : StreamRun P G T) : Prop where
  rows : r.emitted ++ r.state.notExecuted = r.windows.flatMap Window.rows
  counted : r.state.stream.emittedPolicySteps = r.emitted.length
  wall : r.state.stream.emittedPolicySteps + r.state.notExecuted.length = r.state.scheduler.windowStart

variable [Group G] [Add T] [LE T] [DecidableLE T]

/-- Each window is executed completely and in order, before the next one is built. -/
structure ExecutedWhole (cfg : StreamConfig G T) (zero : T) (xs : List (EnsembleStream.Call P G T)) : Prop where
  whole : ∀ pre, pre <+: xs → (StreamRun.after cfg zero pre).Whole
  before : Runs.EveryStep (fun pre x => ((StreamRun.after cfg zero pre).state.call cfg x).window.isSome = true →
    (StreamRun.after cfg zero pre).emitted = (StreamRun.after cfg zero pre).windows.flatMap Window.rows) xs
  lengths : ∀ i w, (StreamRun.after cfg zero xs).windows[i]? = some w →
    w.rows.length = if i = 0 then 2 * cfg.ensemble.period else cfg.ensemble.period

/-! ## The condition -/

namespace EnsembleStream

/-- The rows emitted since the request of the chunk that is ready, when the call comes to take it. -/
def lag (t : EnsembleTick P G T) (e : EnsembleStream P G T) : ℕ :=
  let s := e.stream.interleave (t.tick.gap .take)
  if s.nextChunk.isSome then
    s.emittedPolicySteps - (s.nextChunkMetadata.map ChunkMetadata.observationStepSeq).getD s.emittedPolicySteps
  else 0

/-- The call takes the ready chunk: nothing is played, or the last row of the window is over. -/
def takes (t : EnsembleTick P G T) (e : EnsembleStream P G T) : Prop :=
  e.stream.chunk = none ∨
    (e.stream.resumeRowPending = false ∧ e.stream.stepDeadline ≤ t.tick.now ∧
      executeLimit e.stream ≤ e.stream.chunkIndex + 1)

/-- With the chunk registered, a plan covers the next window. -/
def coversNext (cfg : StreamConfig G T) (t : EnsembleTick P G T) (e : EnsembleStream P G T)
    (rows : List (Row G)) : Prop :=
  if e.scheduler.firstWindowBuilt then
    ∃ p ∈ (e.scheduler.arrive cfg.ensemble (some rows) t.anchor).plans,
      p.covers e.scheduler.windowStart cfg.ensemble.period = true
  else
    ∃ p ∈ (e.scheduler.register rows 0 t.anchor).plans,
      p.covers e.scheduler.windowStart (2 * cfg.ensemble.period) = true

/-- The call builds a window with a chunk that was requested before the last row was emitted. -/
def Late (cfg : StreamConfig G T) (e : EnsembleStream P G T) : Call P G T → Prop
  | .nextIntent t => e.takes t ∧ 0 < e.lag t ∧
      ∃ chunk ∈ (e.stream.interleave (t.tick.gap .take)).nextChunk, e.coversNext cfg t chunk.rows
  | .worker _ => False
  | .close => False

section
variable (cfg : StreamConfig G T) (t : EnsembleTick P G T) (e : EnsembleStream P G T)

instance : Decidable (e.takes t) := inferInstanceAs (Decidable (_ ∨ _ ∧ _))

instance (rows : List (Row G)) : Decidable (e.coversNext cfg t rows) :=
  inferInstanceAs (Decidable (if e.scheduler.firstWindowBuilt then ∃ p ∈ _, _ else ∃ p ∈ _, _))

instance : (x : Call P G T) → Decidable (e.Late cfg x)
  | .nextIntent t => inferInstanceAs (Decidable (_ ∧ _ ∧ ∃ chunk ∈ _, e.coversNext cfg t (ActionChunk.rows chunk)))
  | .worker _ => inferInstanceAs (Decidable False)
  | .close => inferInstanceAs (Decidable False)

end

end EnsembleStream

/-! ## The scheduler -/

omit [Group G] in
theorem choose_isSome (cfg : Config G) (s : Scheduler G) (length : ℕ) :
    (s.choose cfg length).isSome = true ↔ ∃ p ∈ s.plans, p.covers s.windowStart length = true := by
  rw [← not_iff_not, Bool.not_eq_true, Option.isSome_eq_false_iff, Option.isNone_iff_eq_none, choose_eq_none]
  simp

/-- What `begin` or `advance` leaves, with `plans` once the chunk is registered. -/
structure Scheduled (s : Scheduler G) (plans : List (Plan G)) (length : ℕ) (p : Scheduler G × Option (Window G)) :
    Prop where
  wall : p.1.windowStart = s.windowStart + (p.2.map fun w => w.rows.length).getD 0
  rows : ∀ w, p.2 = some w → w.rows.length = length
  first : p.1.firstWindowBuilt = (s.firstWindowBuilt || p.2.isSome)
  covered : p.2.isSome = true ↔ ∃ q ∈ plans, q.covers s.windowStart length = true

section
variable (cfg : Config G) (s : Scheduler G) (anchor : Arm → G)

/-- One window of the given length, or nothing. -/
theorem buildWindow_cases (length : ℕ) :
    (s.buildWindow cfg length).1.firstWindowBuilt = s.firstWindowBuilt ∧
    ((s.buildWindow cfg length).2.isSome = true ↔ ∃ q ∈ s.plans, q.covers s.windowStart length = true) ∧
    (∀ w, (s.buildWindow cfg length).2 = some w → w.rows.length = length) ∧
    (s.buildWindow cfg length).1.windowStart =
      s.windowStart + ((s.buildWindow cfg length).2.map fun w => w.rows.length).getD 0 := by
  rw [← choose_isSome cfg]
  unfold Scheduler.buildWindow
  cases s.choose cfg length with
  | none => simp
  | some p =>
    refine ⟨rfl, by simp, ?_, ?_⟩
    · rintro w ⟨rfl⟩
      exact length_rowsOf _ _
    · simp

theorem begin_scheduled (raw : List (Row G)) :
    Scheduled s (s.register raw 0 anchor).plans (2 * cfg.period) (s.begin cfg raw anchor) := by
  obtain ⟨hfirst, hcov, hrows, hwall⟩ := buildWindow_cases cfg (s.register raw 0 anchor) (2 * cfg.period)
  unfold Scheduler.begin
  dsimp only
  refine ⟨?_, hrows, ?_, hcov⟩
  · split
    · exact hwall
    · exact hwall
  · split
    · rename_i h
      simp [h]
    · rename_i h
      rw [hfirst, Bool.not_eq_true _ |>.mp h, Bool.or_false]
      rfl

theorem advance_scheduled (raw : Option (List (Row G))) (h : s.firstWindowBuilt = true) :
    Scheduled s (s.arrive cfg raw anchor).plans cfg.period (s.advance cfg raw anchor) := by
  obtain ⟨hfirst, hcov, hrows, hwall⟩ := buildWindow_cases cfg (s.arrive cfg raw anchor) cfg.period
  obtain ⟨harrive, -, -, -, -, hsame, -⟩ := arrive_frame cfg s raw anchor
  rw [harrive] at hcov hwall
  rw [hsame, h] at hfirst
  unfold Scheduler.advance
  dsimp only
  refine ⟨?_, hrows, ?_, hcov⟩
  · split
    · exact hwall
    · exact hwall
  · rw [h, Bool.true_or]
    split
    · exact hfirst
    · exact hfirst

end

/-! ## One call -/

namespace EnsembleStream

/-- Between calls: the index is inside the active window, and no candidate waits beside it. -/
structure Settled (e : EnsembleStream P G T) : Prop where
  resume : e.stream.resumeRowPending = false
  inside : ∀ c, e.stream.chunk = some c → e.stream.chunkIndex < c.rows.length ∧
    e.stream.candidateMetadata = none ∧ e.scheduler.firstWindowBuilt = true

/-- The rows from the index on. -/
def remaining (e : EnsembleStream P G T) : List (Row G) :=
  (e.stream.chunk.map fun c => c.rows.drop e.stream.chunkIndex).getD []

/-- All that matters here, unchanged. -/
structure Untouched (e e' : EnsembleStream P G T) : Prop where
  stream : ChunkStream.SameControl e.stream e'.stream
  wall : e'.scheduler.windowStart = e.scheduler.windowStart
  first : e'.scheduler.firstWindowBuilt = e.scheduler.firstWindowBuilt

section
omit [Group G] [Add T] [LE T] [DecidableLE T]
variable {e e' : EnsembleStream P G T}

theorem Untouched.notExecuted (u : Untouched e e') : e'.notExecuted = e.notExecuted := by
  unfold EnsembleStream.notExecuted
  rw [u.stream.chunk, u.stream.chunkIndex]

theorem Untouched.remaining (u : Untouched e e') : e'.remaining = e.remaining := by
  unfold EnsembleStream.remaining
  rw [u.stream.chunk, u.stream.chunkIndex]

theorem Untouched.settled (u : Untouched e e') (h : e.Settled) : e'.Settled := by
  refine ⟨u.stream.resumeRowPending.trans h.resume, ?_⟩
  rw [u.stream.chunk, u.stream.chunkIndex, u.stream.candidateMetadata, u.first]
  exact h.inside

theorem untouched_request (s : ChunkStream P (Row G) T) (scheduler : Scheduler G) (t : StreamTick P (Row G) T)
    (wall : ℕ) : Untouched ⟨s, scheduler⟩ ⟨(s.interleave (t.gap .request)).requestPrefetch t.payload,
      scheduler.noteKick wall⟩ :=
  ⟨(s.sameControl_interleave _).trans (ChunkStream.sameControl_requestPrefetch _ _), rfl, rfl⟩

theorem Untouched.trans {e'' : EnsembleStream P G T} (u : Untouched e e') (u' : Untouched e' e'') :
    Untouched e e'' :=
  ⟨u.stream.trans u'.stream, u'.wall.trans u.wall, u'.first.trans u.first⟩

theorem untouched_interleave (e : EnsembleStream P G T) (steps : List (ChunkStream.WorkerStep (Row G))) :
    Untouched e { e with stream := e.stream.interleave steps } :=
  ⟨e.stream.sameControl_interleave steps, rfl, rfl⟩

theorem untouched_kickPrefetch (cfg : StreamConfig G T) (t : StreamTick P (Row G) T) (e : EnsembleStream P G T) :
    Untouched e (e.kickPrefetch cfg t) := by
  have h1 := e.untouched_interleave (t.gap .kickPending)
  unfold EnsembleStream.kickPrefetch
  dsimp only
  split
  · exact h1
  · have h2 := h1.trans (untouched_interleave _ (t.gap .kickReady))
    split
    · exact h2
    · exact h2.trans (untouched_request _ _ t _)

/-- The rows a call gave. -/
def given (out : Dispatched P (Row G)) : List (Row G) := (out.row?.map PolicyRow.step).toList

/-- The end of a call that advanced: the row at the index goes out. -/
structure Emits (e : EnsembleStream P G T) (t : Tick P G T) : Prop where
  rows : given t.out ++ t.next.notExecuted = e.remaining
  counted : t.next.stream.emittedPolicySteps = e.stream.emittedPolicySteps + (given t.out).length
  wall : t.next.scheduler.windowStart = e.scheduler.windowStart
  first : t.next.scheduler.firstWindowBuilt = e.scheduler.firstWindowBuilt
  settled : t.next.Settled

theorem Settled.finishTick (h : e.Settled) (cfg : StreamConfig G T) (t : StreamTick P (Row G) T)
    (window : Option (Window G)) : Emits e (e.finishTick cfg t true window) := by
  have u := untouched_kickPrefetch cfg t e
  have hs := u.settled h
  rw [EnsembleStream.finishTick, if_pos rfl]
  generalize e.kickPrefetch cfg t = e' at u hs ⊢
  cases hc : e'.stream.chunk with
  | none =>
    have hemit : e'.stream.emitRow cfg.stream = (e'.stream, .held) := by
      simp only [ChunkStream.emitRow, hc]
    rw [hemit]
    refine ⟨?_, u.stream.emittedPolicySteps, u.wall, u.first, hs⟩
    rw [← u.remaining]
    simp [given, Dispatched.row?, EnsembleStream.notExecuted, EnsembleStream.remaining, hc]
  | some c =>
    obtain ⟨hindex, hnone, hbuilt⟩ := hs.inside c hc
    obtain ⟨step, gripper, hstep, -, hemit⟩ := ChunkStream.emitRow_eq cfg.stream hc hindex
    rw [hemit]
    refine ⟨?_, ?_, u.wall, u.first, hs.resume, fun d hd => ?_⟩
    · rw [← u.remaining]
      simp only [given, Dispatched.row?, EnsembleStream.notExecuted, EnsembleStream.remaining, hc, Option.map_some,
        Option.getD_some, Option.toList_some, List.singleton_append]
      obtain ⟨_, rfl⟩ := List.getElem?_eq_some_iff.mp hstep
      exact (List.drop_eq_getElem_cons hindex).symm
    · show e'.stream.emittedPolicySteps + 1 = _
      rw [u.stream.emittedPolicySteps]
      rfl
    · exact hs.inside d hd

end

/-- What a call does to the rows: `lag` is what the activation cuts off. -/
structure TickSpec (cfg : StreamConfig G T) (e : EnsembleStream P G T) (lag : ℕ) (late : Prop) (t : Tick P G T) :
    Prop where
  rows : given t.out ++ t.next.notExecuted =
    e.notExecuted ++ (t.window.map fun w => w.rows.drop lag).getD []
  counted : t.next.stream.emittedPolicySteps = e.stream.emittedPolicySteps + (given t.out).length
  wall : t.next.scheduler.windowStart = e.scheduler.windowStart + (t.window.map fun w => w.rows.length).getD 0
  before : t.window.isSome = true → e.notExecuted = []
  lengths : ∀ w, t.window = some w →
    w.rows.length = if e.scheduler.firstWindowBuilt then cfg.ensemble.period else 2 * cfg.ensemble.period
  first : t.next.scheduler.firstWindowBuilt = (e.scheduler.firstWindowBuilt || t.window.isSome)
  settled : t.next.Settled
  late : late ↔ t.window.isSome = true ∧ 0 < lag

section
variable {cfg : StreamConfig G T} {e e' : EnsembleStream P G T} {late : Prop}

omit [Group G] [Add T] [LE T] [DecidableLE T] in
theorem Untouched.tickSpec (u : Untouched e e') (h : e.Settled) (lag : ℕ) (hlate : ¬ late) :
    TickSpec cfg e lag late ⟨e', none, .held⟩ where
  rows := by simpa [given, Dispatched.row?] using u.notExecuted
  counted := u.stream.emittedPolicySteps
  wall := u.wall
  before := by simp
  lengths := by simp
  first := by simpa using u.first
  settled := u.settled h
  late := by simp [hlate]

omit [Group G] [Add T] [LE T] [DecidableLE T] in
/-- A call that leaves nothing to play. -/
theorem tickSpec_idle (hdone : e.notExecuted = []) (hnone : e'.stream.chunk = none)
    (hresume : e'.stream.resumeRowPending = false)
    (hcount : e'.stream.emittedPolicySteps = e.stream.emittedPolicySteps)
    (hwall : e'.scheduler.windowStart = e.scheduler.windowStart)
    (hfirst : e'.scheduler.firstWindowBuilt = e.scheduler.firstWindowBuilt)
    {out : Dispatched P (Row G)} (hout : out.row? = none) (lag : ℕ) (hlate : ¬ late) :
    TickSpec cfg e lag late ⟨e', none, out⟩ where
  rows := by
    rw [hdone]
    simp [given, hout, EnsembleStream.notExecuted, hnone]
  counted := by simpa [given, hout] using hcount
  wall := hwall
  before := by simp
  lengths := by simp
  first := by simpa using hfirst
  settled := ⟨hresume, fun c hc => by rw [hnone] at hc; cases hc⟩
  late := by simp [hlate]

omit [Group G] [Add T] [LE T] [DecidableLE T] in
theorem tickSpec_requestAndHold (hdone : e.notExecuted = []) {s : ChunkStream P (Row G) T} {scheduler : Scheduler G}
    (hs : s.chunk = none) (hresume : s.resumeRowPending = false)
    (hcount : s.emittedPolicySteps = e.stream.emittedPolicySteps)
    (hwall : scheduler.windowStart = e.scheduler.windowStart)
    (hfirst : scheduler.firstWindowBuilt = e.scheduler.firstWindowBuilt) (t : StreamTick P (Row G) T) (lag : ℕ)
    (hlate : ¬ late) : TickSpec cfg e lag late (requestAndHold t ⟨s, scheduler⟩) := by
  have u := untouched_request s scheduler t scheduler.windowStart
  exact tickSpec_idle hdone (u.stream.chunk.trans hs) (u.stream.resumeRowPending.trans hresume)
    (u.stream.emittedPolicySteps.trans hcount) hwall hfirst rfl lag hlate

omit [Group G] in
variable (cfg) in
/-- The window that is activated is played from the cut on. -/
theorem settled_activateChunk {e : EnsembleStream P G T} (hresume : e.stream.resumeRowPending = false)
    (hfirst : e.scheduler.firstWindowBuilt = true) (chunk : ActionChunk P (Row G)) (now : T) :
    ({ e with stream := e.stream.activateChunk cfg.stream chunk now false } : EnsembleStream P G T).Settled ∧
    ({ e with stream := e.stream.activateChunk cfg.stream chunk now false } : EnsembleStream P G T).remaining =
      chunk.rows.drop (e.stream.emittedPolicySteps - e.stream.candidateObservation) ∧
    (e.stream.activateChunk cfg.stream chunk now false).emittedPolicySteps = e.stream.emittedPolicySteps := by
  unfold ChunkStream.activateChunk
  dsimp only
  split
  · rename_i hexhausted
    refine ⟨⟨hresume, fun c hc => (by cases hc)⟩, ?_, rfl⟩
    exact (List.drop_eq_nil_of_le hexhausted).symm
  · rename_i hleft
    refine ⟨⟨hresume, ?_⟩, ?_, rfl⟩
    · rintro c ⟨rfl⟩
      refine ⟨?_, rfl, hfirst⟩
      show 0 < (chunk.rows.drop (e.stream.emittedPolicySteps - e.stream.candidateObservation)).length
      rw [List.length_drop]
      omega
    · exact List.drop_zero

omit [Group G] in
/-- **A window.**  It is activated beside the candidate that the call took. -/
theorem tickSpec_activateWindow {plans : List (Plan G)} {length lag : ℕ} {w : Window G}
    (hdone : e.notExecuted = []) (hresume : e'.stream.resumeRowPending = false)
    (hcount : e'.stream.emittedPolicySteps = e.stream.emittedPolicySteps)
    (hlag : e'.stream.emittedPolicySteps - e'.stream.candidateObservation = lag)
    (hw : Scheduled e.scheduler plans length (e'.scheduler, some w))
    (hlength : length = if e.scheduler.firstWindowBuilt then cfg.ensemble.period else 2 * cfg.ensemble.period)
    (t : StreamTick P (Row G) T) (hlate : late ↔ 0 < lag) :
    TickSpec cfg e lag late (e'.activateWindow cfg t w) := by
  have hfirst : e'.scheduler.firstWindowBuilt = true := by simpa using hw.first
  obtain ⟨hsettled, hremaining, hsame⟩ :=
    settled_activateChunk cfg hresume hfirst (windowChunk t.payload e'.stream w) t.now
  have hemits := hsettled.finishTick cfg t (some w)
  rw [hlag] at hremaining
  exact {
    rows := by
      rw [hdone, List.nil_append]
      exact hemits.rows.trans hremaining
    counted := by
      rw [← hcount, ← hsame]
      exact hemits.counted
    wall := hemits.wall.trans hw.wall
    before := fun _ => hdone
    lengths := by
      rintro v ⟨rfl⟩
      rw [← hlength]
      exact hw.rows w rfl
    first := hemits.first.trans hw.first
    settled := hemits.settled
    late := hlate.trans (by simp [activateWindow, EnsembleStream.finishTick]) }

omit [Group G] [Add T] [LE T] [DecidableLE T] in
theorem notExecuted_eq_nil (h : e.stream.chunk = none ∨ executeLimit e.stream ≤ e.stream.chunkIndex + 1) :
    e.notExecuted = [] := by
  unfold EnsembleStream.notExecuted executeLimit at *
  cases hc : e.stream.chunk with
  | none => rfl
  | some c =>
    rw [hc] at h
    exact List.drop_eq_nil_of_le (by simpa using h)

/-- A chunk joins the schedule while nothing is played. -/
theorem tickSpec_join (hnone : e.stream.chunk = none) {s : ChunkStream P (Row G) T} (hs : s.chunk = none)
    (hresume : s.resumeRowPending = false) (hcount : s.emittedPolicySteps = e.stream.emittedPolicySteps) {lag : ℕ}
    (hlag : s.emittedPolicySteps - s.candidateObservation = lag) (t : EnsembleTick P G T)
    (chunk : ActionChunk P (Row G)) (hlate : late ↔ 0 < lag ∧ e.coversNext cfg t chunk.rows) :
    TickSpec cfg e lag late (join cfg t chunk { e with stream := s }) := by
  have hdone : e.notExecuted = [] := notExecuted_eq_nil (.inl hnone)
  unfold join
  unfold coversNext at hlate
  dsimp only
  cases hfirst : e.scheduler.firstWindowBuilt with
  | false =>
    rw [hfirst, if_neg Bool.false_ne_true] at hlate
    have h := begin_scheduled cfg.ensemble e.scheduler t.anchor chunk.rows
    generalize e.scheduler.begin cfg.ensemble chunk.rows t.anchor = p at h ⊢
    obtain ⟨scheduler, window⟩ := p
    rw [← h.covered] at hlate
    cases window with
    | none =>
      refine tickSpec_idle hdone hs hresume hcount h.wall ?_ rfl lag (by simp [hlate])
      simpa using h.first
    | some w => exact tickSpec_activateWindow hdone hresume hcount hlag h (by simp [hfirst]) t.tick (by simp [hlate])
  | true =>
    rw [hfirst, if_pos rfl] at hlate
    have h := advance_scheduled cfg.ensemble e.scheduler t.anchor (some chunk.rows) hfirst
    generalize e.scheduler.advance cfg.ensemble (some chunk.rows) t.anchor = p at h ⊢
    obtain ⟨scheduler, window⟩ := p
    rw [← h.covered] at hlate
    cases window with
    | none =>
      refine tickSpec_idle hdone hs hresume hcount h.wall ?_ rfl lag (by simp [hlate])
      simpa using h.first
    | some w => exact tickSpec_activateWindow hdone hresume hcount hlag h (by simp [hfirst]) t.tick (by simp [hlate])

omit [Group G] [Add T] [LE T] [DecidableLE T] in
/-- What the activation cuts off when the ready chunk is taken. -/
theorem lag_takePrefetched (t : EnsembleTick P G T)
    (h : (e.stream.interleave (t.tick.gap .take)).nextChunk.isSome = true) :
    (e.stream.interleave (t.tick.gap .take)).takePrefetched.emittedPolicySteps -
      (e.stream.interleave (t.tick.gap .take)).takePrefetched.candidateObservation = e.lag t := by
  unfold lag ChunkStream.candidateObservation ChunkStream.takePrefetched
  dsimp only
  rw [if_pos h, if_pos h]

omit [Group G] [Add T] [LE T] [DecidableLE T] in
theorem lag_eq_zero (t : EnsembleTick P G T) (h : (e.stream.interleave (t.tick.gap .take)).nextChunk = none) :
    e.lag t = 0 := by
  unfold lag
  simp [h]

omit [Add T] [DecidableLE T] in
theorem late_iff (t : EnsembleTick P G T) (htakes : e.takes t) {chunk : ActionChunk P (Row G)}
    (h : (e.stream.interleave (t.tick.gap .take)).nextChunk = some chunk) :
    e.Late cfg (.nextIntent t) ↔ 0 < e.lag t ∧ e.coversNext cfg t chunk.rows := by
  unfold Late
  dsimp only
  rw [h]
  simp [htakes]

omit [Add T] [DecidableLE T] in
theorem not_late (t : EnsembleTick P G T) (h : (e.stream.interleave (t.tick.gap .take)).nextChunk = none) :
    ¬ e.Late cfg (.nextIntent t) := by
  unfold Late
  dsimp only
  rw [h]
  simp

/-- Nothing is played: a chunk joins, or the call holds. -/
theorem Settled.startWindow (h : e.Settled) (hnone : e.stream.chunk = none) (t : EnsembleTick P G T) :
    TickSpec cfg e (e.lag t) (e.Late cfg (.nextIntent t)) (e.startWindow cfg t) := by
  have hsame := e.stream.sameControl_interleave (t.tick.gap .take)
  have hdone : e.notExecuted = [] := notExecuted_eq_nil (.inl hnone)
  unfold EnsembleStream.startWindow
  dsimp only
  split
  · rename_i chunk hchunk
    exact tickSpec_join (s := (e.stream.interleave (t.tick.gap .take)).takePrefetched) hnone
      (hsame.chunk.trans hnone) (hsame.resumeRowPending.trans h.resume) hsame.emittedPolicySteps
      (lag_takePrefetched t (by rw [hchunk]; rfl)) t chunk (late_iff t (.inl hnone) hchunk)
  · rename_i hchunk
    have hlate : ¬ e.Late cfg (.nextIntent t) := not_late t hchunk
    have hsame' : ChunkStream.SameControl (e.stream.interleave (t.tick.gap .take)).takePrefetched _ :=
      ChunkStream.sameControl_interleave _ (t.tick.gap .pending)
    generalize (e.stream.interleave (t.tick.gap .take)).takePrefetched.interleave (t.tick.gap .pending) = s at hsame' ⊢
    have hs : s.chunk = none := hsame'.chunk.trans (hsame.chunk.trans hnone)
    have hresume : s.resumeRowPending = false := hsame'.resumeRowPending.trans (hsame.resumeRowPending.trans h.resume)
    have hcount : s.emittedPolicySteps = e.stream.emittedPolicySteps :=
      hsame'.emittedPolicySteps.trans hsame.emittedPolicySteps
    split
    · exact tickSpec_requestAndHold hdone hs hresume hcount rfl rfl t.tick _ hlate
    · have hinline := s.sameControl_interleave (t.tick.gap .sample)
      generalize s.interleave (t.tick.gap .sample) = s₁ at hinline ⊢
      have hs₁ : s₁.chunk = none := hinline.chunk.trans hs
      have hresume₁ : s₁.resumeRowPending = false := hinline.resumeRowPending.trans hresume
      have hcount₁ : s₁.emittedPolicySteps = e.stream.emittedPolicySteps := hinline.emittedPolicySteps.trans hcount
      unfold ChunkStream.sampleAndAlignChunkTimed
      dsimp only
      split
      · refine tickSpec_idle hdone ?_ ?_ ?_ ?_ ?_ rfl _ hlate
        · exact hs₁
        · exact hresume₁
        · exact hcount₁
        · rfl
        · rfl
      · refine tickSpec_requestAndHold hdone ?_ ?_ ?_ rfl rfl t.tick _ hlate
        · exact hs₁
        · exact hresume₁
        · exact hcount₁
      · rename_i chunk hchunk' _
        -- the request of an inline inference is made in the same call
        refine tickSpec_join hnone ?_ ?_ ?_ ?_ t chunk ?_
        · exact hs₁
        · exact hresume₁
        · exact hcount₁
        · rw [lag_eq_zero t hchunk]
          simp [ChunkStream.candidateObservation, hchunk', StreamRequest.metadata]
        · simp [lag_eq_zero t hchunk, hlate]

/-- The window is over: the next one, or a stall. -/
theorem Settled.reachBoundary (h : e.Settled) {c : ActiveChunk P (Row G)} (hc : e.stream.chunk = some c)
    (t : EnsembleTick P G T) (hdue : e.stream.stepDeadline ≤ t.tick.now)
    (hover : executeLimit e.stream ≤ e.stream.chunkIndex + 1) :
    TickSpec cfg e (e.lag t) (e.Late cfg (.nextIntent t)) (e.reachBoundary cfg t) := by
  have hsame := e.stream.sameControl_interleave (t.tick.gap .take)
  have hdone : e.notExecuted = [] := notExecuted_eq_nil (.inr hover)
  obtain ⟨-, hcandidate, hfirst⟩ := h.inside c hc
  have hresume := hsame.resumeRowPending.trans h.resume
  have hw := advance_scheduled cfg.ensemble e.scheduler t.anchor
    ((e.stream.interleave (t.tick.gap .take)).nextChunk.map ActionChunk.rows) hfirst
  have hlate : e.Late cfg (.nextIntent t) ↔ 0 < e.lag t ∧
      (e.scheduler.advance cfg.ensemble ((e.stream.interleave (t.tick.gap .take)).nextChunk.map ActionChunk.rows)
        t.anchor).2.isSome = true := by
    cases hchunk : (e.stream.interleave (t.tick.gap .take)).nextChunk with
    | none => simp [lag_eq_zero t hchunk, not_late t hchunk]
    | some chunk =>
      rw [late_iff t (.inr ⟨h.resume, hdue, hover⟩) hchunk, coversNext, if_pos hfirst]
      rw [hchunk] at hw
      exact and_congr_right fun _ => hw.covered.symm
  have hlag : (e.stream.interleave (t.tick.gap .take)).takePrefetched.emittedPolicySteps -
      (e.stream.interleave (t.tick.gap .take)).takePrefetched.candidateObservation = e.lag t := by
    cases hchunk : (e.stream.interleave (t.tick.gap .take)).nextChunk with
    | none =>
      rw [lag_eq_zero t hchunk]
      simp [ChunkStream.candidateObservation, ChunkStream.takePrefetched, hchunk, hsame.candidateMetadata, hcandidate]
    | some chunk => exact lag_takePrefetched t (by rw [hchunk]; rfl)
  unfold EnsembleStream.reachBoundary
  dsimp only
  generalize e.scheduler.advance cfg.ensemble _ t.anchor = p at hw hlate ⊢
  obtain ⟨scheduler, window⟩ := p
  cases window with
  | none =>
    refine tickSpec_requestAndHold hdone ?_ ?_ ?_ hw.wall ?_ t.tick _ ?_
    · rfl
    · exact hresume
    · exact hsame.emittedPolicySteps
    · simpa using hw.first
    · simp [hlate]
  | some w =>
    refine tickSpec_activateWindow hdone ?_ ?_ hlag hw (by simp [hfirst]) t.tick (by simp [hlate])
    · exact hresume
    · exact hsame.emittedPolicySteps

/-- The next row of the window. -/
theorem Settled.nextRow (h : e.Settled) {c : ActiveChunk P (Row G)} (hc : e.stream.chunk = some c)
    (t : EnsembleTick P G T) (hnext : e.stream.chunkIndex + 1 < executeLimit e.stream) :
    TickSpec cfg e (e.lag t) (e.Late cfg (.nextIntent t)) (EnsembleStream.finishTick cfg t.tick true none { e with
      stream := { e.stream with
        chunkIndex := e.stream.chunkIndex + 1
        stepDeadline := e.stream.nextStepDeadline cfg.stream t.tick.now } }) := by
  have hlength : executeLimit e.stream = c.rows.length := by
    unfold executeLimit
    rw [hc]
    rfl
  have hsettled : ({ e with
      stream := { e.stream with
        chunkIndex := e.stream.chunkIndex + 1
        stepDeadline := e.stream.nextStepDeadline cfg.stream t.tick.now } } : EnsembleStream P G T).Settled := by
    refine ⟨h.resume, fun d hd => ?_⟩
    obtain rfl : c = d := Option.some.inj (hc.symm.trans hd)
    refine ⟨?_, (h.inside c hc).2⟩
    show e.stream.chunkIndex + 1 < c.rows.length
    omega
  have hemits := hsettled.finishTick cfg t.tick none
  refine ⟨?_, hemits.counted, hemits.wall, ?_, ?_, ?_, hemits.settled, ?_⟩
  · exact hemits.rows.trans (List.append_nil _).symm
  · intro hwindow
    cases hwindow
  · intro w hwindow
    cases hwindow
  · rw [hemits.first]
    exact (Bool.or_false _).symm
  · constructor
    · rintro ⟨htakes, -⟩
      rcases htakes with hnone | ⟨-, -, hover⟩
      · rw [hc] at hnone
        cases hnone
      · omega
    · rintro ⟨hwindow, -⟩
      cases hwindow

theorem Settled.nextIntentStreamed (h : e.Settled) (t : EnsembleTick P G T) :
    TickSpec cfg e (e.lag t) (e.Late cfg (.nextIntent t)) (e.nextIntentStreamed cfg t) := by
  unfold EnsembleStream.nextIntentStreamed
  split
  · rename_i hnone
    exact h.startWindow hnone t
  · rename_i c hc
    rw [h.resume, if_neg Bool.false_ne_true]
    by_cases hdue : e.stream.stepDeadline ≤ t.tick.now
    · rw [if_pos hdue, EnsembleStream.reachDeadline]
      by_cases hnext : e.stream.chunkIndex + 1 < executeLimit e.stream
      · rw [if_pos hnext]
        exact h.nextRow hc t hnext
      · rw [if_neg hnext]
        exact h.reachBoundary hc t hdue (by omega)
    · rw [if_neg hdue]
      refine (untouched_kickPrefetch cfg t.tick e).tickSpec h _ ?_
      rintro ⟨htakes, -⟩
      rcases htakes with hnone | ⟨-, hdue', -⟩
      · rw [hc] at hnone
        cases hnone
      · exact hdue hdue'

/-- What a call can cut off. -/
def callLag (e : EnsembleStream P G T) : Call P G T → ℕ
  | .nextIntent t => e.lag t
  | .worker _ => 0
  | .close => 0

variable (cfg) in
/-- **One call.** -/
theorem Settled.call (h : e.Settled) (x : Call P G T) :
    TickSpec cfg e (e.callLag x) (e.Late cfg x) (e.call cfg x) := by
  cases x with
  | nextIntent t => exact h.nextIntentStreamed t
  | worker w =>
    refine Untouched.tickSpec ?_ h 0 not_false
    exact ⟨e.stream.sameControl_workerStep w, rfl, rfl⟩
  | close =>
    refine Untouched.tickSpec ?_ h 0 not_false
    exact ⟨⟨rfl, rfl, rfl, rfl, rfl, rfl, rfl, rfl⟩, rfl, rfl⟩

end

end EnsembleStream

/-! ## Whole runs -/

namespace StreamRun

variable {cfg : StreamConfig G T} {r : StreamRun P G T}

/-- What every run keeps. -/
structure Kept (cfg : StreamConfig G T) (r : StreamRun P G T) : Prop where
  settled : r.state.Settled
  counted : r.state.stream.emittedPolicySteps = r.emitted.length
  built : r.state.scheduler.firstWindowBuilt = !r.windows.isEmpty
  lengths : ∀ i w, r.windows[i]? = some w →
    w.rows.length = if i = 0 then 2 * cfg.ensemble.period else cfg.ensemble.period

omit [Group G] [Add T] [LE T] [DecidableLE T] in
/-- The next window is the first one only when there is none. -/
theorem Kept.lengths_append (k : Kept cfg r) {window : Option (Window G)}
    (h : ∀ w, window = some w →
      w.rows.length = if r.state.scheduler.firstWindowBuilt then cfg.ensemble.period else 2 * cfg.ensemble.period) :
    ∀ i w, (r.windows ++ window.toList)[i]? = some w →
      w.rows.length = if i = 0 then 2 * cfg.ensemble.period else cfg.ensemble.period := by
  intro i w hi
  rcases Nat.lt_or_ge i r.windows.length with hlt | hge
  · rw [List.getElem?_append_left hlt] at hi
    exact k.lengths i w hi
  · rw [List.getElem?_append_right hge] at hi
    cases window with
    | none => simp at hi
    | some v =>
      obtain ⟨hlast, hv⟩ := List.getElem?_eq_some_iff.mp hi
      have hlen : i = r.windows.length := by
        simp only [Option.toList_some, List.length_singleton] at hlast
        omega
      obtain rfl : v = w := by simpa [hlen] using hv
      rw [h v rfl, k.built, hlen]
      cases r.windows <;> rfl

/-- **One call.** -/
theorem Kept.step (k : Kept cfg r) (x : EnsembleStream.Call P G T) : Kept cfg (r.step cfg x) := by
  have t := k.settled.call cfg x
  refine ⟨t.settled, ?_, ?_, k.lengths_append t.lengths⟩
  · show _ = (r.emitted ++ EnsembleStream.given _).length
    rw [List.length_append, ← k.counted]
    exact t.counted
  · show (r.state.call cfg x).next.scheduler.firstWindowBuilt =
      !(r.windows ++ (r.state.call cfg x).window.toList).isEmpty
    rw [t.first, k.built]
    cases r.windows <;> cases (r.state.call cfg x).window <;> rfl

/-- A call keeps the windows whole unless it is late. -/
theorem Whole.step_iff (h : r.Whole) (k : Kept cfg r) (x : EnsembleStream.Call P G T) :
    (r.step cfg x).Whole ↔ ¬ r.state.Late cfg x := by
  have t := k.settled.call cfg x
  have hlength := congrArg List.length t.rows
  simp only [List.length_append] at hlength
  rw [t.late]
  constructor
  · rintro hnext ⟨hwindow, hlag⟩
    obtain ⟨w, hw⟩ := Option.isSome_iff_exists.mp hwindow
    have hpos : 2 ≤ w.rows.length := by
      rw [t.lengths w hw]
      have := cfg.ensemble.two_le_period
      split <;> omega
    have hwall : _ + (r.state.call cfg x).next.notExecuted.length =
      (r.state.call cfg x).next.scheduler.windowStart := hnext.wall
    rw [t.wall, hw] at hwall
    have hcounted : (r.step cfg x).state.stream.emittedPolicySteps = _ := t.counted
    have hbefore := h.wall
    rw [hw] at hlength
    simp only [Option.map_some, Option.getD_some, List.length_drop] at hlength hwall
    omega
  · intro hlate
    have hdrop : ((r.state.call cfg x).window.map fun w => w.rows.drop (r.state.callLag x)).getD [] =
        ((r.state.call cfg x).window.toList).flatMap Window.rows := by
      cases hw : (r.state.call cfg x).window with
      | none => rfl
      | some w =>
        have hzero : r.state.callLag x = 0 := by
          rw [hw] at hlate
          simp only [Option.isSome_some, true_and] at hlate
          omega
        simp [hzero]
    refine ⟨?_, (k.step x).counted, ?_⟩
    · show (r.emitted ++ EnsembleStream.given _) ++ (r.state.call cfg x).next.notExecuted =
        (r.windows ++ _).flatMap Window.rows
      rw [List.append_assoc, t.rows, ← List.append_assoc, h.rows, List.flatMap_append, hdrop]
    · show (r.state.call cfg x).next.stream.emittedPolicySteps + (r.state.call cfg x).next.notExecuted.length =
        (r.state.call cfg x).next.scheduler.windowStart
      rw [t.counted, t.wall, ← h.wall]
      rw [hdrop] at hlength
      have hsum : (((r.state.call cfg x).window.toList).flatMap Window.rows).length =
          ((r.state.call cfg x).window.map fun w => w.rows.length).getD 0 := by
        cases (r.state.call cfg x).window <;> simp
      omega

theorem after_append (cfg : StreamConfig G T) (zero : T) (pre : List (EnsembleStream.Call P G T))
    (x : EnsembleStream.Call P G T) : after cfg zero (pre ++ [x]) = (after cfg zero pre).step cfg x := by
  simp [after]

omit [Group G] [Add T] [LE T] [DecidableLE T] in
theorem kept_start (cfg : StreamConfig G T) (zero : T) :
    Kept cfg (⟨EnsembleStream.start zero, [], []⟩ : StreamRun P G T) where
  settled := ⟨rfl, fun c hc => by cases hc⟩
  counted := rfl
  built := rfl
  lengths := by simp

omit [Group G] [Add T] [LE T] [DecidableLE T] in
theorem whole_start (zero : T) : (⟨EnsembleStream.start zero, [], []⟩ : StreamRun P G T).Whole :=
  ⟨rfl, rfl, rfl⟩

/-- **Whole runs.** -/
theorem kept_after (cfg : StreamConfig G T) (zero : T) (xs : List (EnsembleStream.Call P G T)) :
    Kept cfg (after cfg zero xs) := by
  induction xs using List.reverseRecOn with
  | nil => exact kept_start cfg zero
  | append_singleton xs x ih =>
    rw [after_append]
    exact ih.step x

/-- A run with no late call is whole. -/
theorem whole_after (cfg : StreamConfig G T) (zero : T) {xs : List (EnsembleStream.Call P G T)}
    (h : Runs.EveryStep (fun pre x => ¬ (after cfg zero pre).state.Late cfg x) xs) : (after cfg zero xs).Whole := by
  refine h.invariant (fun pre => (after cfg zero pre).Whole) (whole_start zero) fun pre x hpre hx => ?_
  rw [after_append]
  exact (hpre.step_iff (kept_after cfg zero pre) x).mpr hx

end StreamRun

open StreamRun in
theorem executedWhole_of_not_late (cfg : StreamConfig G T) (zero : T) {xs : List (EnsembleStream.Call P G T)}
    (h : Runs.EveryStep (fun pre x => ¬ (StreamRun.after cfg zero pre).state.Late cfg x) xs) :
    ExecutedWhole cfg zero xs := by
  have hwhole : ∀ pre, pre <+: xs → (StreamRun.after cfg zero pre).Whole := by
    rintro pre ⟨post, rfl⟩
    exact whole_after cfg zero (h.of_append rfl)
  refine ⟨hwhole, ?_, (kept_after cfg zero xs).lengths⟩
  rintro pre x post rfl hwindow
  have t := (kept_after cfg zero pre).settled.call cfg x
  have hrows := (hwhole pre ⟨x :: post, rfl⟩).rows
  rw [t.before hwindow, List.append_nil] at hrows
  exact hrows

open StreamRun in
/-- The windows of a run are executed whole exactly when no call is late. -/
theorem windows_whole_iff (cfg : StreamConfig G T) (zero : T) (xs : List (EnsembleStream.Call P G T)) :
    ExecutedWhole cfg zero xs ↔
      Runs.EveryStep (fun pre x => ¬ (StreamRun.after cfg zero pre).state.Late cfg x) xs := by
  constructor
  · rintro h pre x post rfl
    have hpre := h.whole pre ⟨x :: post, rfl⟩
    have hnext := h.whole (pre ++ [x]) ⟨post, by simp⟩
    rw [after_append] at hnext
    exact (hpre.step_iff (kept_after cfg zero pre) x).mp hnext
  · exact executedWhole_of_not_late cfg zero

/-- A policy step is one unit of time, and the worker's chunks come as they are asked for. -/
def lineStream : StreamConfig (Multiplicative ℤ) ℕ where
  stream := ⟨.fixedSteps, 1, 6, none, false, false, 0, true⟩
  ensemble := lineConfig

def lineTick (now : ℕ) : EnsembleStream.Call Unit (Multiplicative ℤ) ℕ :=
  .nextIntent ⟨⟨now, (), .rows (lineChunk 1).rows, ⟨0, 0⟩, fun _ => []⟩, fun _ => 1⟩

/-- The worker takes the request, infers and publishes. -/
def lineInference : List (EnsembleStream.Call Unit (Multiplicative ℤ) ℕ) :=
  [.worker .takeRequest, .worker (.infer (.rows (lineChunk 3).rows) none), .worker (.publish ⟨0, 0⟩)]

/-- The second chunk is requested at row 2 and is ready before the first window is over. -/
def lineCalls : List (EnsembleStream.Call Unit (Multiplicative ℤ) ℕ) :=
  [lineTick 0, lineTick 1, lineTick 2] ++ lineInference ++ [lineTick 3, lineTick 4]

/-- The second window of a run without any delay is built and dropped. -/
theorem second_window_dropped :
    (StreamRun.after lineStream 0 lineCalls).windows.length = 2 ∧
    (StreamRun.after lineStream 0 lineCalls).state.scheduler.windowStart = 6 ∧
    (StreamRun.after lineStream 0 lineCalls).emitted.length = 4 ∧
    (StreamRun.after lineStream 0 lineCalls).state.notExecuted.length = 0 ∧
    ¬ ExecutedWhole lineStream 0 lineCalls := by
  refine ⟨by decide +kernel, by decide +kernel, by decide +kernel, by decide +kernel, fun h => ?_⟩
  have hwall := (h.whole lineCalls List.prefix_rfl).wall
  revert hwall
  decide +kernel

end PolicyRunner.Ensemble
