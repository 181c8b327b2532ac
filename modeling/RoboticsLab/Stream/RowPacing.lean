import RoboticsLab.Lib.Pacer
import RoboticsLab.Stream.RowTiming

/-!
# The step grid of the chunk stream

The dispatcher emits policy rows at the pace of `_step_deadline`: an active chunk's next row waits for the deadline,
a row and a swap on a ready event keep the grid of the deadlines, and a chunk that starts, resumes or is taken at a
fixed boundary begins a new grid.  So one call of the dispatcher is one tick of a pacer, with the active chunk as its
activity and the rows as its firings.

    StreamBeat : one call as it happened, with the stream before and after
    Paced      : the call is a tick of the pacer, and leaves no row of a recovery pending

The ends of a call that both stitch modes share are here; `nextIntentStreamed_paced` is the boundary mode.
-/

namespace PolicyRunner

variable {P R T : Type}

/-- One call of `_next_intent_streamed` as it happened. -/
structure StreamBeat (P R T : Type) where
  before : ChunkStream P R T
  now : T
  after : ChunkStream P R T
  out : Dispatched P R

namespace StreamBeat

def emits (x : StreamBeat P R T) : Bool := x.out.row?.isSome

/-- Why the chunk was activated whose first row the call emitted. -/
def activation (x : StreamBeat P R T) : Option ActivationReason :=
  if x.emits = true ∧ x.after.chunkIndex = 0 then
    x.after.activeChunkMetadata.map ActiveChunkMetadata.activationReason
  else none

/-- The call activated a chunk and set the deadline from its own time. -/
def restarts (x : StreamBeat P R T) : Bool :=
  x.activation = some .startOrResume ∨ x.activation = some .fixedBoundary

end StreamBeat

namespace ChunkStream

/-- The stream as a pacer. -/
def pacer (s : ChunkStream P R T) : Pacer.State T := ⟨s.chunk.isSome, s.stepDeadline⟩

end ChunkStream

def StreamBeat.toBeat (x : StreamBeat P R T) : Pacer.Beat T :=
  ⟨x.before.pacer, x.now, x.emits, x.restarts, x.after.pacer⟩

/-- The call is a tick of the pacer. -/
structure Paced [Add T] [LE T] [LT T] [DecidableLE T] (cfg : StreamConfig T) (x : StreamBeat P R T) : Prop where
  step : Pacer.Step cfg.policyDtSec x.before.pacer x.now x.emits x.restarts x.after.pacer
  resume : x.after.resumeRowPending = false

namespace ChunkStream

/-! ## What leaves the pace alone -/

/-- The fields that the pace depends on. -/
structure SamePace (s s' : ChunkStream P R T) : Prop where
  chunk : s'.chunk = s.chunk
  chunkIndex : s'.chunkIndex = s.chunkIndex
  stepDeadline : s'.stepDeadline = s.stepDeadline
  activeChunkMetadata : s'.activeChunkMetadata = s.activeChunkMetadata
  resumeRowPending : s'.resumeRowPending = s.resumeRowPending

variable {s s' s'' : ChunkStream P R T}

theorem SamePace.refl (s : ChunkStream P R T) : SamePace s s := ⟨rfl, rfl, rfl, rfl, rfl⟩

theorem SamePace.trans (h : SamePace s s') (h' : SamePace s' s'') : SamePace s s'' :=
  ⟨h'.1.trans h.1, h'.2.trans h.2, h'.3.trans h.3, h'.4.trans h.4, h'.5.trans h.5⟩

theorem SamePace.pacer (h : SamePace s s') : s'.pacer = s.pacer := by
  unfold ChunkStream.pacer
  rw [h.chunk, h.stepDeadline]

theorem samePace_workerStep (s : ChunkStream P R T) (w : WorkerStep R) : SamePace s (s.workerStep w) := by
  have h := s.workerStep_effect w
  revert h
  generalize s.workerStep w = s'
  intro h
  cases h with
  | idle => exact .refl s
  | exited => exact ⟨rfl, rfl, rfl, rfl, rfl⟩
  | took => exact ⟨rfl, rfl, rfl, rfl, rfl⟩
  | inferred => exact ⟨rfl, rfl, rfl, rfl, rfl⟩
  | stale => exact ⟨rfl, rfl, rfl, rfl, rfl⟩
  | published => exact ⟨rfl, rfl, rfl, rfl, rfl⟩

theorem SamePace.interleave (h : SamePace s s') (steps : List (WorkerStep R)) : SamePace s (s'.interleave steps) :=
  interleave_invariant (fun _ w h => h.trans (samePace_workerStep _ w)) h steps

theorem SamePace.takePrefetched (h : SamePace s s') : SamePace s s'.takePrefetched :=
  h.trans ⟨rfl, rfl, rfl, rfl, rfl⟩

theorem SamePace.requestPrefetch (h : SamePace s s') (payload : P) : SamePace s (s'.requestPrefetch payload) := by
  refine h.trans ?_
  unfold ChunkStream.requestPrefetch
  split
  · exact .refl _
  · exact ⟨rfl, rfl, rfl, rfl, rfl⟩

/-! ## The end of a call -/

/-- The call that had `s` to play ends with `p`: it emits the row at the index if a chunk is active. -/
structure Finished (s : ChunkStream P R T) (p : ChunkStream P R T × Dispatched P R) : Prop where
  same : SamePace s p.1
  row : p.2.row?.isSome = s.chunk.isSome

theorem finished_emitRow (cfg : StreamConfig T) (h : SamePace s s')
    (hindex : ∀ c, s.chunk = some c → s.chunkIndex < c.rows.length) : Finished s (s'.emitRow cfg) := by
  cases hc : s.chunk with
  | none =>
    have hnone : s'.chunk = none := h.chunk.trans hc
    simp only [emitRow, hnone]
    exact ⟨h, by rw [hc]; rfl⟩
  | some c =>
    have hlt : s'.chunkIndex < c.rows.length := by
      rw [h.chunkIndex]
      exact hindex c hc
    obtain ⟨step, gripper, -, -, heq⟩ := emitRow_eq cfg (h.chunk.trans hc) hlt
    rw [heq]
    exact ⟨h.trans ⟨rfl, rfl, rfl, rfl, rfl⟩, by rw [hc]; rfl⟩

theorem SamePace.kickPrefetch (h : SamePace s s') (cfg : StreamConfig T) (t : StreamTick P R T) :
    SamePace s (s'.kickPrefetch cfg t) := by
  have h1 := h.interleave (t.gap .kickPending)
  unfold ChunkStream.kickPrefetch
  dsimp only
  split
  · exact h1
  · have h2 := h1.interleave (t.gap .kickReady)
    split
    · exact h2
    · exact (h2.interleave _).requestPrefetch _

theorem finished_finishTick (cfg : StreamConfig T) (t : StreamTick P R T)
    (hindex : ∀ c, s.chunk = some c → s.chunkIndex < c.rows.length) : Finished s (s.finishTick cfg t true) :=
  finished_emitRow cfg ((SamePace.refl s).kickPrefetch cfg t) hindex

/-! ## The ticks -/

variable [Add T] [LE T] [LT T] [DecidableLE T] {cfg : StreamConfig T} {now : T}

omit [Add T] [LE T] [LT T] [DecidableLE T] in
theorem restarts_of_not_emits {x : StreamBeat P R T} (h : x.emits = false) : x.restarts = false := by
  simp [StreamBeat.restarts, StreamBeat.activation, h]

/-- A call that emits nothing and leaves the chunk as it was, before the deadline or without a chunk. -/
theorem paced_silent (h : SamePace s s') (hresume : s.resumeRowPending = false) {out : Dispatched P R}
    (hout : out.row? = none) (hearly : s.chunk.isSome = true → now < s.stepDeadline) :
    Paced cfg ⟨s, now, s', out⟩ := by
  have hemits : StreamBeat.emits ⟨s, now, s', out⟩ = false := by simp [StreamBeat.emits, hout]
  refine ⟨?_, h.resumeRowPending.trans hresume⟩
  rw [restarts_of_not_emits hemits, hemits]
  show Pacer.Step _ s.pacer now false false s'.pacer
  rw [h.pacer]
  unfold ChunkStream.pacer
  cases hc : s.chunk with
  | none => exact .rest
  | some c =>
    rw [hc] at hearly
    exact .wait (hearly rfl)

/-- The deadline has come, and the chunk is dropped. -/
theorem paced_dropped {c : ActiveChunk P R} (hc : s.chunk = some c) (hdue : s.stepDeadline ≤ now)
    (hchunk : s'.chunk = none) (hdeadline : s'.stepDeadline = s.stepDeadline)
    (hresume : s'.resumeRowPending = false) {out : Dispatched P R} (hout : out.row? = none) :
    Paced cfg ⟨s, now, s', out⟩ := by
  have hemits : StreamBeat.emits ⟨s, now, s', out⟩ = false := by simp [StreamBeat.emits, hout]
  refine ⟨?_, hresume⟩
  rw [restarts_of_not_emits hemits, hemits]
  show Pacer.Step _ s.pacer now false false s'.pacer
  unfold ChunkStream.pacer
  rw [hc, hchunk, hdeadline]
  exact .drop hdue

/-- The next row of the active chunk. -/
theorem paced_advanced {m : ChunkStream P R T} {p : ChunkStream P R T × Dispatched P R} {c : ActiveChunk P R}
    (h : SamePace s s') (hresume : s.resumeRowPending = false) (hc : s.chunk = some c) (hdue : s.stepDeadline ≤ now)
    (hm : m = { s' with chunkIndex := s'.chunkIndex + 1, stepDeadline := s'.nextStepDeadline cfg now })
    (hp : Finished m p) : Paced cfg ⟨s, now, p.1, p.2⟩ := by
  subst hm
  have hemits : StreamBeat.emits ⟨s, now, p.1, p.2⟩ = true := by
    show p.2.row?.isSome = true
    rw [hp.row, h.chunk, hc]
    rfl
  have hrestarts : StreamBeat.restarts ⟨s, now, p.1, p.2⟩ = false := by
    have hindex : p.1.chunkIndex = s'.chunkIndex + 1 := hp.same.chunkIndex
    simp [StreamBeat.restarts, StreamBeat.activation, hindex]
  refine ⟨?_, hp.same.resumeRowPending.trans (h.resumeRowPending.trans hresume)⟩
  rw [hemits, hrestarts]
  show Pacer.Step _ s.pacer now true false p.1.pacer
  rw [hp.same.pacer]
  unfold ChunkStream.pacer nextStepDeadline
  rw [h.chunk, h.stepDeadline, hc]
  exact .keep hdue

/-- A chunk is activated at its first row; one that has no row left is dropped. -/
theorem paced_activated {p : ChunkStream P R T × Dispatched P R} {chunk : ActionChunk P R} {grid : Bool}
    (h : SamePace s s') (hresume : s.resumeRowPending = false)
    (hdue : s.chunk.isSome = true → s.stepDeadline ≤ now) (hgrid : grid = true → s.chunk.isSome = true)
    (hp : Finished (s'.activateChunk cfg chunk now grid) p) : Paced cfg ⟨s, now, p.1, p.2⟩ := by
  obtain ⟨hsame, hrow⟩ := hp
  unfold activateChunk at hsame hrow
  dsimp only at hsame hrow
  split at hsame
  · rename_i hexhausted
    rw [if_pos hexhausted] at hrow
    have hnone : p.2.row? = none := Option.isSome_eq_false_iff.mp hrow |> Option.isNone_iff_eq_none.mp
    have hdeadline : p.1.stepDeadline = s.stepDeadline := hsame.stepDeadline.trans h.stepDeadline
    have hresume' : p.1.resumeRowPending = false := hsame.resumeRowPending.trans (h.resumeRowPending.trans hresume)
    cases hc : s.chunk with
    | none =>
      have hemits : StreamBeat.emits ⟨s, now, p.1, p.2⟩ = false := by simp [StreamBeat.emits, hnone]
      refine ⟨?_, hresume'⟩
      rw [restarts_of_not_emits hemits, hemits]
      show Pacer.Step _ s.pacer now false false p.1.pacer
      unfold ChunkStream.pacer
      rw [hc, hsame.chunk, hdeadline]
      exact .rest
    | some c => exact paced_dropped hc (hdue (by rw [hc]; rfl)) hsame.chunk hdeadline hresume' hnone
  · rename_i haligned
    rw [if_neg haligned] at hrow
    have hemits : StreamBeat.emits ⟨s, now, p.1, p.2⟩ = true := hrow
    have hactivation : StreamBeat.activation ⟨s, now, p.1, p.2⟩ = some (s.activationReason grid) := by
      unfold StreamBeat.activation
      rw [if_pos ⟨hemits, hsame.chunkIndex⟩]
      show p.1.activeChunkMetadata.map _ = _
      rw [hsame.activeChunkMetadata]
      unfold activationReason
      rw [h.chunk]
      rfl
    refine ⟨?_, hsame.resumeRowPending.trans (h.resumeRowPending.trans hresume)⟩
    unfold StreamBeat.restarts
    rw [hemits, hactivation]
    show Pacer.Step _ s.pacer now true _ p.1.pacer
    rw [hsame.pacer]
    unfold ChunkStream.pacer nextStepDeadline activationReason
    rw [h.stepDeadline]
    cases hc : s.chunk with
    | none =>
      cases grid with
      | true =>
        rw [hc] at hgrid
        cases hgrid rfl
      | false => exact .start
    | some c =>
      rw [hc] at hdue
      cases grid with
      | true => exact .keep (hdue rfl)
      | false => exact .restart (hdue rfl)

/-! ## The branches of a call -/

omit [LT T] in
theorem activateChunk_row (m : ChunkStream P R T) (chunk : ActionChunk P R) (grid : Bool) :
    ∀ c, (m.activateChunk cfg chunk now grid).chunk = some c →
      (m.activateChunk cfg chunk now grid).chunkIndex < c.rows.length := by
  intro c
  unfold activateChunk
  dsimp only
  split
  · intro hc
    cases hc
  · rename_i haligned
    rintro ⟨rfl⟩
    show 0 < (chunk.rows.drop _).length
    rw [List.length_drop]
    omega

/-- A chunk activated at the deadline or without an active one, and its first row. -/
theorem paced_activation {m : ChunkStream P R T} (t : StreamTick P R T) (chunk : ActionChunk P R) {grid : Bool}
    (h : SamePace s m) (hresume : s.resumeRowPending = false) (hdue : s.chunk.isSome = true → s.stepDeadline ≤ t.now)
    (hgrid : grid = true → s.chunk.isSome = true) :
    Paced cfg ⟨s, t.now, ((m.activateChunk cfg chunk t.now grid).finishTick cfg t true).1,
      ((m.activateChunk cfg chunk t.now grid).finishTick cfg t true).2⟩ :=
  paced_activated h hresume hdue hgrid (finished_finishTick cfg t (activateChunk_row m chunk grid))

theorem paced_hold {m : ChunkStream P R T} (t : StreamTick P R T) (h : SamePace s m)
    (hresume : s.resumeRowPending = false) (hc : s.chunk = none) :
    Paced cfg ⟨s, t.now, (m.requestAndHold t).1, (m.requestAndHold t).2⟩ := by
  refine paced_silent ((h.interleave _).requestPrefetch _) hresume rfl ?_
  intro hsome
  rw [hc] at hsome
  cases hsome

theorem paced_startChunk (t : StreamTick P R T) (hresume : s.resumeRowPending = false) (hc : s.chunk = none) :
    Paced cfg ⟨s, t.now, (s.startChunk cfg t).1, (s.startChunk cfg t).2⟩ := by
  have hidle : s.chunk.isSome = true → s.stepDeadline ≤ t.now := by
    intro hsome
    rw [hc] at hsome
    cases hsome
  have h1 := (SamePace.refl s).interleave (t.gap .take)
  unfold startChunk
  dsimp only
  split
  · exact paced_activation t _ h1.takePrefetched hresume hidle (fun h => (by cases h))
  · have h2 := h1.takePrefetched.interleave (t.gap .pending)
    split
    · exact paced_hold t h2 hresume hc
    · have h3 : SamePace s (sampleAndAlignChunkTimed t
          (((s.interleave (t.gap .take)).takePrefetched.interleave (t.gap .pending)).interleave (t.gap .sample))).2 :=
        (h2.interleave (t.gap .sample)).trans ⟨rfl, rfl, rfl, rfl, rfl⟩
      split
      · refine paced_silent h3 hresume rfl ?_
        intro hsome
        rw [hc] at hsome
        cases hsome
      · exact paced_hold t h3 hresume hc
      · exact paced_activation t _ h3 hresume hidle (fun h => (by cases h))

/-- A stall drops the chunk, then requests the next one. -/
theorem paced_stall {m : ChunkStream P R T} (t : StreamTick P R T) (h : SamePace s m)
    (hresume : s.resumeRowPending = false) {c : ActiveChunk P R} (hc : s.chunk = some c)
    (hdue : s.stepDeadline ≤ t.now) (stalls : ℕ) :
    Paced cfg ⟨s, t.now, ({ m with stallCount := stalls, chunk := none }.requestAndHold t).1, .held⟩ := by
  have h1 := ((SamePace.refl { m with stallCount := stalls, chunk := none }).interleave
    (t.gap .request)).requestPrefetch t.payload
  exact paced_dropped hc hdue h1.chunk (h1.stepDeadline.trans h.stepDeadline)
    (h1.resumeRowPending.trans (h.resumeRowPending.trans hresume)) rfl

theorem paced_reachBoundary {m : ChunkStream P R T} (t : StreamTick P R T) (h : SamePace s m)
    (hresume : s.resumeRowPending = false) {c : ActiveChunk P R} (hc : s.chunk = some c)
    (hdue : s.stepDeadline ≤ t.now) :
    Paced cfg ⟨s, t.now, (m.reachBoundary cfg t).1, (m.reachBoundary cfg t).2⟩ := by
  have h1 := h.interleave (t.gap .take)
  unfold reachBoundary
  dsimp only
  split
  · exact paced_activation t _ h1.takePrefetched hresume (fun _ => hdue) (fun h => (by cases h))
  · exact paced_stall t h1.takePrefetched hresume hc hdue _

theorem paced_advanceRow {m : ChunkStream P R T} (t : StreamTick P R T) (h : SamePace s m)
    (hresume : s.resumeRowPending = false) {c : ActiveChunk P R} (hc : s.chunk = some c)
    (hdue : s.stepDeadline ≤ t.now) :
    Paced cfg ⟨s, t.now, (m.advanceRow cfg t).1, (m.advanceRow cfg t).2⟩ := by
  unfold advanceRow
  split
  · rename_i hnext
    refine paced_advanced h hresume hc hdue rfl (finished_finishTick cfg t ?_)
    intro d hd
    unfold currentChunkExecuteLimit at hnext
    rw [show m.chunk = some d from hd] at hnext
    exact lt_of_lt_of_le hnext (Nat.min_le_right _ _)
  · exact paced_reachBoundary t h hresume hc hdue

omit [LT T] in
/-- A ready event swaps the chunk on the grid, or leaves the pace alone. -/
theorem tryReadyEventActivation_pace (cfg : StreamConfig T) (s : ChunkStream P R T) (t : StreamTick P R T) :
    (∃ m chunk, SamePace s m ∧
        s.tryReadyEventActivation cfg t = (true, m.activateChunk cfg chunk t.now true)) ∨
      ∃ m, SamePace s m ∧ s.tryReadyEventActivation cfg t = (false, m) := by
  have h1 := (SamePace.refl s).interleave (t.gap .peek)
  have h2 := h1.interleave (t.gap .readyTake)
  unfold tryReadyEventActivation
  dsimp only
  split
  · refine .inr ⟨_, ?_, rfl⟩
    exact h1.trans ⟨rfl, rfl, rfl, rfl, rfl⟩
  · split
    · exact .inr ⟨_, h2.takePrefetched, rfl⟩
    · have h3 := h2.takePrefetched
      split
      · refine .inr ⟨_, ?_, rfl⟩
        exact h3.trans ⟨rfl, rfl, rfl, rfl, rfl⟩
      · refine .inl ⟨_, _, ?_, rfl⟩
        exact h3.trans ⟨rfl, rfl, rfl, rfl, rfl⟩

theorem paced_reachDeadline (t : StreamTick P R T) (hresume : s.resumeRowPending = false) {c : ActiveChunk P R}
    (hc : s.chunk = some c) (hdue : s.stepDeadline ≤ t.now) :
    Paced cfg ⟨s, t.now, (s.reachDeadline cfg t).1, (s.reachDeadline cfg t).2⟩ := by
  unfold reachDeadline
  split
  · obtain ⟨m, chunk, hm, heq⟩ | ⟨m, hm, heq⟩ := tryReadyEventActivation_pace cfg s t
    · rw [heq]
      exact paced_activation t chunk hm hresume (fun _ => hdue) (fun _ => by rw [hc]; rfl)
    · rw [heq]
      exact paced_advanceRow t hm hresume hc hdue
  · exact paced_advanceRow t (.refl s) hresume hc hdue

end ChunkStream

/-- **One call.**  The dispatcher ticks at the pace of its deadlines. -/
theorem nextIntentStreamed_paced [Add T] [LinearOrder T] {cfg : StreamConfig T} (s : ChunkStream P R T)
    (t : StreamTick P R T) (hresume : s.resumeRowPending = false) :
    Paced cfg ⟨s, t.now, (s.nextIntentStreamed cfg t).1, (s.nextIntentStreamed cfg t).2⟩ := by
  unfold ChunkStream.nextIntentStreamed
  cases hc : s.chunk with
  | none => exact ChunkStream.paced_startChunk t hresume hc
  | some c =>
    dsimp only
    rw [hresume, if_neg Bool.false_ne_true]
    by_cases hdue : s.stepDeadline ≤ t.now
    · rw [if_pos hdue]
      exact ChunkStream.paced_reachDeadline t hresume hc hdue
    · rw [if_neg hdue]
      exact ChunkStream.paced_silent ((ChunkStream.SamePace.refl s).kickPrefetch cfg t) hresume rfl
        (fun _ => not_le.mp hdue)

end PolicyRunner
