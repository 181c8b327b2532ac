import RoboticsLab.Ensemble.EnsembleStream
import RoboticsLab.Stream.RowPacing

/-!
# Policy rows come at the policy's rate

Runs of `_next_intent_streamed` in both stitch modes, without invalidations: each call is a tick of one pacer.  So the
rows within a time interval `[a, b]` are fewer than `(b - a) / policy_dt + 2`, whatever the swaps, stalls and pauses.

A chunk that starts, resumes or is taken at a fixed boundary begins a grid at its activation; a swap on a ready event
keeps the grid, so its rows are counted from the deadline it met and not from the swap (`swap_keeps_grid`).  While the
calls are less than a period late, the rows come at the first calls at or past the points of the grid.
-/

namespace PolicyRunner

variable {P R G T : Type}

/-! ## Runs -/

/-- A call that neither invalidates the chunks nor activates one during a recovery. -/
def SourceCall.undisturbed : SourceCall P R T → Bool
  | .nextIntent _ => true
  | .worker _ => true
  | .close => true
  | .recovery _ => false
  | .invalidate => false

/-- The calls of `_next_intent_streamed` in a run, in order. -/
def ChunkStream.beats [Add T] [LE T] [DecidableLE T] (cfg : StreamConfig T) :
    ChunkStream P R T → List (SourceCall P R T) → List (StreamBeat P R T)
  | _, [] => []
  | s, .nextIntent t :: xs =>
    ⟨s, t.now, (s.nextIntentStreamed cfg t).1, (s.nextIntentStreamed cfg t).2⟩ ::
      beats cfg (s.nextIntentStreamed cfg t).1 xs
  | s, x :: xs => beats cfg (s.call cfg x).1 xs

/-- The calls in ensemble stitch mode. -/
def Ensemble.EnsembleStream.beats [Group G] [Add T] [LE T] [DecidableLE T] (cfg : Ensemble.StreamConfig G T) :
    Ensemble.EnsembleStream P G T → List (Ensemble.EnsembleStream.Call P G T) →
      List (StreamBeat P (Ensemble.Row G) T)
  | _, [] => []
  | e, .nextIntent t :: xs =>
    ⟨e.stream, t.tick.now, (e.nextIntentStreamed cfg t).next.stream, (e.nextIntentStreamed cfg t).out⟩ ::
      beats cfg (e.nextIntentStreamed cfg t).next xs
  | e, x :: xs => beats cfg (e.call cfg x).next xs

/-! ## The grid of the rows -/

/-- A chunk is active throughout, every call is less than a period late, and none but the last begins a new grid. -/
structure OnGrid [Add T] [LT T] (dt : T) (l : List (StreamBeat P R T)) : Prop where
  active : ∀ z ∈ l, z.after.chunk.isSome = true
  inTime : ∀ z ∈ l, z.now < z.before.stepDeadline + dt
  kept : ∀ z ∈ l.dropLast, z.restarts = false

/-- The call put the rows after it on the grid of `base`: it activated a chunk at `base` and restarted the grid, or
swapped the chunk on a ready event at the deadline `base`. -/
def GridFrom [Add T] [LT T] (dt : T) (x : StreamBeat P R T) (base : T) : Prop :=
  (x.restarts = true ∧ base = x.now) ∨
    (x.activation = some .readyEvent ∧ x.now < x.before.stepDeadline + dt ∧ base = x.before.stepDeadline)

/-- On the grid that starts at a call `x`, a call emits the row `k + 1` after `x` if and only if it is the first one at
or past that point of the grid. -/
def RowsOnGrid [Add T] [Mul T] [NatCast T] [One T] [LE T] [LT T] (dt : T) (grid : StreamBeat P R T → T → Prop)
    (l : List (StreamBeat P R T)) : Prop :=
  ∀ (pre mid post : List (StreamBeat P R T)) (x y : StreamBeat P R T) (base : T) (k : ℕ),
    l = pre ++ x :: (mid ++ y :: post) → grid x base → OnGrid dt (mid ++ [y]) →
      ((y.emits = true ∧ mid.countP StreamBeat.emits = k) ↔
        base + ((k : T) + 1) * dt ≤ y.now ∧ ∀ z ∈ mid, z.now < base + ((k : T) + 1) * dt)

section
variable [Field T] [LinearOrder T] [IsStrictOrderedRing T]

structure NoBursts (dt : T) (l : List (StreamBeat P R T)) : Prop where
  rate : ∀ a b, a ≤ b →
    ((l.countP fun x => x.emits = true ∧ a ≤ x.now ∧ x.now ≤ b : ℕ) : T) < (b - a) / dt + 2
  grid : RowsOnGrid dt (GridFrom dt) l

omit [IsStrictOrderedRing T] in
/-- After a call that begins or keeps a grid, the next row is due one period after the grid's point. -/
theorem deadline_of_gridFrom {dt base : T} {x : StreamBeat P R T} (hgrid : GridFrom dt x base)
    (step : Pacer.Step dt x.before.pacer x.now x.emits x.restarts x.after.pacer) :
    x.after.pacer.active = true ∧ x.after.pacer.deadline = base + dt := by
  rcases hgrid with ⟨hrestarts, rfl⟩ | ⟨hready, hin, rfl⟩
  · rw [hrestarts] at step
    revert step
    generalize x.before.pacer = p, x.after.pacer = p', x.emits = fired
    intro step
    cases step with
    | start => exact ⟨rfl, rfl⟩
    | restart h => exact ⟨rfl, rfl⟩
  · have hrestarts : x.restarts = false := by simp [StreamBeat.restarts, hready]
    have hemits : x.emits = true := by
      unfold StreamBeat.activation at hready
      split at hready
      · rename_i h
        exact h.1
      · cases hready
    rw [hrestarts, hemits] at step
    have hdeadline : x.before.stepDeadline = x.before.pacer.deadline := rfl
    rw [hdeadline] at hin ⊢
    revert step hin
    generalize x.before.pacer = p, x.after.pacer = p'
    intro step hin
    cases step with
    | keep h => exact ⟨rfl, Pacer.nextDeadline_of_lt hin⟩

omit [IsStrictOrderedRing T] in
theorem OnGrid.kept_beats {dt : T} {l : List (StreamBeat P R T)} (h : OnGrid dt l) :
    Pacer.Kept dt (l.map StreamBeat.toBeat) := by
  refine ⟨?_, ?_, ?_⟩
  · intro b hb
    obtain ⟨z, hz, rfl⟩ := List.mem_map.mp hb
    exact h.active z hz
  · intro b hb
    obtain ⟨z, hz, rfl⟩ := List.mem_map.mp hb
    exact h.inTime z hz
  · intro b hb
    rw [← List.map_dropLast] at hb
    obtain ⟨z, hz, rfl⟩ := List.mem_map.mp hb
    exact h.kept z hz

/-- Calls that are ticks of one pacer, in the order of their times. -/
theorem noBursts_of_run {dt : T} (hdt : 0 < dt) {l : List (StreamBeat P R T)} {p : Pacer.State T}
    (h : Pacer.Run dt p (l.map StreamBeat.toBeat)) (hsorted : l.Pairwise fun x y => x.now ≤ y.now) :
    NoBursts dt l := by
  constructor
  · intro a b hab
    have hrate := h.rate hdt (List.pairwise_map.mpr hsorted) hab
    rw [List.countP_map] at hrate
    refine lt_of_le_of_lt (le_of_eq ?_) hrate
    congr 1
    refine List.countP_congr fun x _ => ?_
    rw [decide_eq_true_iff]
    exact (Pacer.Beat.firedIn_iff (x := x.toBeat)).symm
  · intro pre mid post x y base k hl hgrid hon
    rw [hl, List.map_append] at h
    obtain ⟨p, h⟩ := h.of_append
    cases h with
    | cons step rest =>
      obtain ⟨hactive, hdeadline⟩ := deadline_of_gridFrom hgrid step
      have hpoint : x.after.pacer.deadline + (k : T) * dt = base + ((k : T) + 1) * dt := by
        rw [hdeadline]
        ring
      -- the rest of the run is cut after `y`
      have hrest : Pacer.Run dt x.after.pacer ((mid ++ [y]).map StreamBeat.toBeat) := by
        have hcut : mid ++ y :: post = (mid ++ [y]) ++ post := by simp
        rw [hcut, List.map_append] at rest
        exact rest.append_left
      have hfirst := hrest.on_grid hdt hactive hon.kept_beats
        (show (mid ++ [y]).map StreamBeat.toBeat = mid.map StreamBeat.toBeat ++ y.toBeat :: [] by simp) k
      rw [hpoint, List.countP_map, List.forall_mem_map] at hfirst
      exact hfirst

end

/-! ## The boundary mode -/

/-- A run of undisturbed calls is a run of the pacer. -/
theorem ChunkStream.beats_run [Add T] [LinearOrder T] {cfg : StreamConfig T} {s : ChunkStream P R T}
    (hresume : s.resumeRowPending = false) {xs : List (SourceCall P R T)}
    (hxs : ∀ x ∈ xs, x.undisturbed = true) :
    Pacer.Run cfg.policyDtSec s.pacer ((s.beats cfg xs).map StreamBeat.toBeat) := by
  induction xs generalizing s with
  | nil => exact .nil _
  | cons x xs ih =>
    have hrest := fun y hy => hxs y (List.mem_cons_of_mem x hy)
    cases x with
    | nextIntent t =>
      have hpaced : Paced cfg ⟨s, t.now, (s.nextIntentStreamed cfg t).1, (s.nextIntentStreamed cfg t).2⟩ :=
        nextIntentStreamed_paced s t hresume
      exact .cons (b := ⟨s.pacer, t.now, _, _, _⟩) hpaced.step (ih hpaced.resume hrest)
    | worker w =>
      have hsame := s.samePace_workerStep w
      have h := ih (hsame.resumeRowPending.trans hresume) hrest
      rw [hsame.pacer] at h
      exact h
    | close => exact ih (s := s.close) hresume hrest
    | recovery t => cases hxs _ (List.mem_cons_self ..)
    | invalidate => cases hxs _ (List.mem_cons_self ..)

/-! ## The ensemble mode -/

namespace Ensemble.EnsembleStream

theorem samePace_kickPrefetch (cfg : StreamConfig G T) (t : StreamTick P (Row G) T) (e : EnsembleStream P G T) :
    e.stream.SamePace (e.kickPrefetch cfg t).stream := by
  have h1 := (ChunkStream.SamePace.refl e.stream).interleave (t.gap .kickPending)
  unfold kickPrefetch
  dsimp only
  split
  · exact h1
  · have h2 := h1.interleave (t.gap .kickReady)
    split
    · exact h2
    · exact (h2.interleave _).requestPrefetch _

theorem finished_finishTick (cfg : StreamConfig G T) (t : StreamTick P (Row G) T) (window : Option (Window G))
    (e : EnsembleStream P G T) (hindex : ∀ c, e.stream.chunk = some c → e.stream.chunkIndex < c.rows.length) :
    e.stream.Finished ((e.finishTick cfg t true window).next.stream, (e.finishTick cfg t true window).out) :=
  ChunkStream.finished_emitRow cfg.stream (samePace_kickPrefetch cfg t e) hindex

variable [Add T] [LinearOrder T] {cfg : StreamConfig G T} {s : ChunkStream P (Row G) T} {e : EnsembleStream P G T}

/-- The call is a tick of the pacer of the stream `s` that it began with. -/
def PacedTick (cfg : StreamConfig G T) (s : ChunkStream P (Row G) T) (now : T) (p : Tick P G T) : Prop :=
  Paced cfg.stream ⟨s, now, p.next.stream, p.out⟩

theorem paced_requestAndHold (t : StreamTick P (Row G) T) (h : s.SamePace e.stream)
    (hresume : s.resumeRowPending = false) (hc : s.chunk = none) :
    PacedTick cfg s t.now (e.requestAndHold t) := by
  refine ChunkStream.paced_silent ((h.interleave _).requestPrefetch _) hresume rfl ?_
  intro hsome
  rw [hc] at hsome
  cases hsome

theorem paced_activateWindow (t : StreamTick P (Row G) T) (w : Window G) (h : s.SamePace e.stream)
    (hresume : s.resumeRowPending = false) (hdue : s.chunk.isSome = true → s.stepDeadline ≤ t.now) :
    PacedTick cfg s t.now (e.activateWindow cfg t w) := by
  have hfinished := finished_finishTick cfg t (some w)
    { e with stream := e.stream.activateChunk cfg.stream (windowChunk t.payload e.stream w) t.now false }
    (ChunkStream.activateChunk_row _ _ _)
  exact ChunkStream.paced_activated h hresume hdue (fun h => (by cases h)) hfinished

variable [Group G]

theorem paced_join (t : EnsembleTick P G T) (chunk : ActionChunk P (Row G)) (h : s.SamePace e.stream)
    (hresume : s.resumeRowPending = false) (hc : s.chunk = none) :
    PacedTick cfg s t.tick.now (e.join cfg t chunk) := by
  have hidle : ∀ {a : Prop}, s.chunk.isSome = true → a := by
    intro a hsome
    rw [hc] at hsome
    cases hsome
  unfold join
  split
  · split
    · exact paced_activateWindow t.tick _ h hresume hidle
    · exact ChunkStream.paced_silent h hresume rfl hidle
  · split
    · exact paced_activateWindow t.tick _ h hresume hidle
    · exact ChunkStream.paced_silent h hresume rfl hidle

theorem paced_startWindow (t : EnsembleTick P G T) (hresume : e.stream.resumeRowPending = false)
    (hc : e.stream.chunk = none) : PacedTick cfg e.stream t.tick.now (e.startWindow cfg t) := by
  have h1 := (ChunkStream.SamePace.refl e.stream).interleave (t.tick.gap .take)
  unfold startWindow
  dsimp only
  split
  · exact paced_join t _ h1.takePrefetched hresume hc
  · have h2 := h1.takePrefetched.interleave (t.tick.gap .pending)
    split
    · exact paced_requestAndHold t.tick h2 hresume hc
    · have h3 : e.stream.SamePace (ChunkStream.sampleAndAlignChunkTimed t.tick
          (((e.stream.interleave (t.tick.gap .take)).takePrefetched.interleave (t.tick.gap .pending)).interleave
            (t.tick.gap .sample))).2 :=
        (h2.interleave (t.tick.gap .sample)).trans ⟨rfl, rfl, rfl, rfl, rfl⟩
      split
      · refine ChunkStream.paced_silent h3 hresume rfl ?_
        intro hsome
        rw [hc] at hsome
        cases hsome
      · exact paced_requestAndHold t.tick h3 hresume hc
      · exact paced_join t _ h3 hresume hc

theorem paced_reachBoundary (t : EnsembleTick P G T) (hresume : e.stream.resumeRowPending = false)
    {c : ActiveChunk P (Row G)} (hc : e.stream.chunk = some c) (hdue : e.stream.stepDeadline ≤ t.tick.now) :
    PacedTick cfg e.stream t.tick.now (e.reachBoundary cfg t) := by
  have h1 := ((ChunkStream.SamePace.refl e.stream).interleave (t.tick.gap .take)).takePrefetched
  unfold reachBoundary
  dsimp only
  split
  · exact paced_activateWindow t.tick _ h1 hresume (fun _ => hdue)
  · exact ChunkStream.paced_stall t.tick h1 hresume hc hdue _

theorem paced_reachDeadline (t : EnsembleTick P G T) (hresume : e.stream.resumeRowPending = false)
    {c : ActiveChunk P (Row G)} (hc : e.stream.chunk = some c) (hdue : e.stream.stepDeadline ≤ t.tick.now) :
    PacedTick cfg e.stream t.tick.now (e.reachDeadline cfg t) := by
  unfold reachDeadline
  split
  · rename_i hnext
    have hfinished := finished_finishTick cfg t.tick none
      { e with
        stream := { e.stream with
          chunkIndex := e.stream.chunkIndex + 1
          stepDeadline := e.stream.nextStepDeadline cfg.stream t.tick.now } }
      (fun d hd => by
        unfold executeLimit at hnext
        rw [show e.stream.chunk = some d from hd] at hnext
        exact hnext)
    exact ChunkStream.paced_advanced (.refl e.stream) hresume hc hdue rfl hfinished
  · exact paced_reachBoundary t hresume hc hdue

/-- **One call.** -/
theorem paced_nextIntentStreamed (t : EnsembleTick P G T) (hresume : e.stream.resumeRowPending = false) :
    PacedTick cfg e.stream t.tick.now (e.nextIntentStreamed cfg t) := by
  unfold nextIntentStreamed
  cases hc : e.stream.chunk with
  | none => exact paced_startWindow t hresume hc
  | some c =>
    dsimp only
    rw [hresume, if_neg Bool.false_ne_true]
    by_cases hdue : e.stream.stepDeadline ≤ t.tick.now
    · rw [if_pos hdue]
      exact paced_reachDeadline t hresume hc hdue
    · rw [if_neg hdue]
      exact ChunkStream.paced_silent (samePace_kickPrefetch cfg t.tick e) hresume rfl (fun _ => not_le.mp hdue)

theorem beats_run (hresume : e.stream.resumeRowPending = false) (xs : List (Call P G T)) :
    Pacer.Run cfg.stream.policyDtSec e.stream.pacer ((e.beats cfg xs).map StreamBeat.toBeat) := by
  induction xs generalizing e with
  | nil => exact .nil _
  | cons x xs ih =>
    cases x with
    | nextIntent t =>
      have hpaced : PacedTick cfg e.stream t.tick.now (e.nextIntentStreamed cfg t) :=
        paced_nextIntentStreamed t hresume
      exact .cons (b := ⟨e.stream.pacer, t.tick.now, _, _, _⟩) hpaced.step (ih hpaced.resume)
    | worker w =>
      have hsame := e.stream.samePace_workerStep w
      have h := ih (e := { e with stream := e.stream.workerStep w }) (hsame.resumeRowPending.trans hresume)
      rw [hsame.pacer] at h
      exact h
    | close => exact ih (e := { e with stream := e.stream.close }) hresume

end Ensemble.EnsembleStream

/-! ## Both modes -/

section
variable [Field T] [LinearOrder T] [IsStrictOrderedRing T]

/-- **No catch-up bursts, no lateness that accumulates.**  Every run of calls in the order of their times, in either
activation mode and either stitch mode. -/
theorem rows_at_policy_rate :
    (∀ (cfg : StreamConfig T) (s : ChunkStream P R T) (xs : List (SourceCall P R T)),
      0 < cfg.policyDtSec → s.resumeRowPending = false → (∀ x ∈ xs, x.undisturbed = true) →
      (s.beats cfg xs).Pairwise (fun x y => x.now ≤ y.now) → NoBursts cfg.policyDtSec (s.beats cfg xs)) ∧
    ∀ [Group G] (cfg : Ensemble.StreamConfig G T) (e : Ensemble.EnsembleStream P G T)
      (xs : List (Ensemble.EnsembleStream.Call P G T)),
      0 < cfg.stream.policyDtSec → e.stream.resumeRowPending = false →
      (e.beats cfg xs).Pairwise (fun x y => x.now ≤ y.now) → NoBursts cfg.stream.policyDtSec (e.beats cfg xs) := by
  constructor
  · intro cfg s xs hdt hresume hxs hsorted
    exact noBursts_of_run hdt (ChunkStream.beats_run hresume hxs) hsorted
  · intro _ cfg e xs hdt hresume hsorted
    exact noBursts_of_run hdt (Ensemble.EnsembleStream.beats_run hresume xs) hsorted

end

/-! ## A swap on a late tick -/

/-- A tick at `now`; the inline inference gives four rows. -/
def swapTick (now : ℚ) : StreamTick Unit ℕ ℚ := ⟨now, (), .rows [0, 1, 2, 3], ⟨0, 0⟩, fun _ => []⟩

def swapConfig : StreamConfig ℚ where
  chunkActivationMode := .readyEvent
  policyDtSec := 10
  chunkExecuteSteps := 4
  streamPrefetchAt := none
  sequentialStreamInference := false
  nonblockingStreamInference := false
  gripperLookaheadSteps := 0
  gripperActionAbsolute := true

/-- A chunk starts at 0, the next one is ready before the tick at 15, which is 5 late. -/
def lateSwap : List (SourceCall Unit ℕ ℚ) :=
  [.nextIntent (swapTick 0), .worker .takeRequest, .worker (.infer (.rows [10, 11, 12, 13]) none),
    .worker (.publish ⟨0, 0⟩), .nextIntent (swapTick 15), .nextIntent (swapTick 22)]

/-- The swap at 15 meets the deadline 10 and keeps its grid: the row after it is emitted at 22, and not at the first
tick from 25 on. -/
theorem swap_keeps_grid :
    ((ChunkStream.start 0).beats swapConfig lateSwap).Pairwise (fun x y => x.now ≤ y.now) ∧
      ¬ RowsOnGrid swapConfig.policyDtSec (fun x base => x.activation.isSome = true ∧ base = x.now)
        ((ChunkStream.start 0).beats swapConfig lateSwap) := by
  refine ⟨by decide +kernel, ?_⟩
  intro h
  have hrow := (h [_] [] [] _ _ 15 0 rfl ⟨by decide +kernel, by decide +kernel⟩
    ⟨by decide +kernel, by decide +kernel, by decide +kernel⟩).mp ⟨by decide +kernel, rfl⟩
  exact absurd hrow.1 (by decide +kernel)

def windowConfig : Ensemble.StreamConfig (Multiplicative ℤ) ℚ where
  stream := { swapConfig with chunkActivationMode := .fixedSteps }
  ensemble := ⟨2, 6, .none, fun a _ _ => a, by decide, by decide⟩

/-- A window of four rows, from a chunk inferred inline at 0. -/
def windowTicks : List (Ensemble.EnsembleStream.Call Unit (Multiplicative ℤ) ℚ) :=
  [0, 12, 21].map fun now =>
    .nextIntent ⟨⟨now, (), .rows (List.replicate 6 ⟨fun _ => 1, fun _ => 0⟩), ⟨0, 0⟩, fun _ => []⟩, fun _ => 1⟩

/-- The late swap, on the grid of its deadline, and a window of the ensemble. -/
theorem rows_at_policy_rate_lateSwap :
    NoBursts swapConfig.policyDtSec ((ChunkStream.start 0).beats swapConfig lateSwap) ∧
      NoBursts windowConfig.stream.policyDtSec ((Ensemble.EnsembleStream.start 0).beats windowConfig windowTicks) :=
  ⟨rows_at_policy_rate (G := Multiplicative ℤ) |>.1 swapConfig (.start 0) lateSwap (by decide +kernel) rfl (by decide)
      (by decide +kernel),
    (rows_at_policy_rate (P := Unit) (R := ℕ)).2 windowConfig (.start 0) windowTicks (by decide +kernel) rfl
      (by decide +kernel)⟩

end PolicyRunner
