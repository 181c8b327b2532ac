import RoboticsLab.Ensemble.WholeWindows
import RoboticsLab.Stream.InFlight

/-!
# When a chunk is registered at the wall of its own request

The kick of the request in flight is one slot of the scheduler.  The early request of the next chunk writes it when it
asks; a call that stalls or holds writes it even when its own request is refused, because one is already in flight.
Then the chunk of that request is registered at the wall of the stall.

    Tracked k e : the slot has the wall k of the request in flight, or the nominal cadence gives it

A call that does not overwrite the slot keeps `Tracked` of what stays in flight, or asks and notes the wall it is at
(`call_kickStep`), so a run of such calls registers each chunk at the wall of its request (`kicked_at_request`).
-/

namespace PolicyRunner.Ensemble

variable {P G T : Type}

/-! ## The property -/

/-- The wall the control loop is at: of the row being played, else of the next window. -/
def EnsembleStream.wallStep (e : EnsembleStream P G T) : ℕ :=
  if e.stream.chunk.isNone then e.scheduler.windowStart else e.ensembleWallNow

variable [Group G] [Add T] [LE T] [DecidableLE T]

/-- The request was accepted during the run, in a call that was at the wall. -/
def AcceptedAt (cfg : StreamConfig G T) (zero : T) (xs : List (EnsembleStream.Call P G T)) (r : StreamRequest P)
    (wall : ℕ) : Prop :=
  ∃ pre x, pre ++ [x] <+: xs ∧ (StreamRun.after cfg zero pre).state.stream.request ≠ some r ∧
    (StreamRun.after cfg zero (pre ++ [x])).state.stream.request = some r ∧
    wall = (StreamRun.after cfg zero (pre ++ [x])).state.wallStep

/-- The request of the chunk that the call takes and registers. -/
def EnsembleStream.registers (e : EnsembleStream P G T) (r : StreamRequest P) : Call P G T → Prop
  | .nextIntent t => e.takes t ∧ (e.stream.interleave (t.tick.gap .take)).nextChunk.map ActionChunk.request = some r
  | .worker _ => False
  | .close => False

/-- The wall of the plan that was registered last. -/
def Scheduler.kickWall? (s : Scheduler G) : Option ℕ := s.plans.getLast?.map Plan.kickWall

/-- Every prefetched chunk is registered at the wall at which its request was accepted. -/
def KickedAtRequest (cfg : StreamConfig G T) (zero : T) (xs : List (EnsembleStream.Call P G T)) : Prop :=
  Runs.EveryStep (fun pre x => ∀ r, (StreamRun.after cfg zero pre).state.registers r x →
    (∃ wall, AcceptedAt cfg zero pre r wall) ∧
    ∀ wall, AcceptedAt cfg zero pre r wall →
      ((StreamRun.after cfg zero pre).state.call cfg x).next.scheduler.kickWall? = some wall) xs

/-! ## The condition -/

namespace EnsembleStream

/-- A request is in flight when the slot is written, and the slot has another wall. -/
def outOfDate (e : EnsembleStream P G T) (s : ChunkStream P (Row G) T) : Prop :=
  (s.pending = true ∨ s.nextChunk.isSome = true) ∧ e.scheduler.pendingKickWall ≠ some e.scheduler.windowStart

/-- A call that infers a chunk itself: the chunk uses the slot up, and a failure writes it. -/
def inlineOverwrites (cfg : StreamConfig G T) (t : EnsembleTick P G T) (e : EnsembleStream P G T)
    (s : ChunkStream P (Row G) T) : Sampled (Row G) → Prop
  | .rows rows => s.nextChunk.isSome = true ∧ e.scheduler.firstWindowBuilt = true ∧
      (e.scheduler.pendingKickWall ≠ some e.scheduler.windowStart ∨ ¬ e.coversNext cfg t rows)
  | .none => e.outOfDate (s.interleave (t.tick.gap .request))
  | .raised => False

/-- A call with nothing to play. -/
def startOverwrites (cfg : StreamConfig G T) (t : EnsembleTick P G T) (e : EnsembleStream P G T) : Prop :=
  let s := (e.stream.interleave (t.tick.gap .take)).takePrefetched.interleave (t.tick.gap .pending)
  if s.pending ∨ cfg.stream.nonblockingStreamInference then e.outOfDate (s.interleave (t.tick.gap .request))
  else
    e.inlineOverwrites cfg t ((s.interleave (t.tick.gap .sample)).sampleAndAlignChunkTimed t.tick).2 t.tick.sampled

/-- A call at the end of a window that no plan continues. -/
def stallOverwrites (cfg : StreamConfig G T) (t : EnsembleTick P G T) (e : EnsembleStream P G T) : Prop :=
  e.takes t ∧ (∀ p ∈ e.scheduler.plans, p.covers e.scheduler.windowStart cfg.ensemble.period = false) ∧
    let s := e.stream.interleave (t.tick.gap .take)
    e.outOfDate ({ s.takePrefetched with stallCount := s.stallCount + 1, chunk := none }.interleave
      (t.tick.gap .request))

/-- The call writes the slot, or uses it up, while it belongs to a request in flight. -/
def Overwrites (cfg : StreamConfig G T) (e : EnsembleStream P G T) : Call P G T → Prop
  | .nextIntent t => (e.stream.interleave (t.tick.gap .take)).nextChunk = none ∧
      if e.stream.chunk.isNone then e.startOverwrites cfg t else e.stallOverwrites cfg t
  | .worker _ => False
  | .close => False

section
variable (cfg : StreamConfig G T) (t : EnsembleTick P G T) (e : EnsembleStream P G T)

instance (s : ChunkStream P (Row G) T) : Decidable (e.outOfDate s) := inferInstanceAs (Decidable (_ ∧ _))

instance (s : ChunkStream P (Row G) T) : (x : Sampled (Row G)) → Decidable (e.inlineOverwrites cfg t s x)
  | .rows _ => inferInstanceAs (Decidable (_ ∧ _ ∧ (_ ∨ ¬ _)))
  | .none => inferInstanceAs (Decidable (e.outOfDate _))
  | .raised => inferInstanceAs (Decidable False)

instance : Decidable (e.startOverwrites cfg t) :=
  inferInstanceAs (Decidable (if ((e.stream.interleave (t.tick.gap .take)).takePrefetched.interleave
      (t.tick.gap .pending)).pending ∨ cfg.stream.nonblockingStreamInference then e.outOfDate _
    else e.inlineOverwrites cfg t _ _))

instance : Decidable (e.stallOverwrites cfg t) := inferInstanceAs (Decidable (_ ∧ _ ∧ e.outOfDate _))

instance : (x : Call P G T) → Decidable (e.Overwrites cfg x)
  | .nextIntent t => inferInstanceAs (Decidable (_ ∧
      if e.stream.chunk.isNone then e.startOverwrites cfg t else e.stallOverwrites cfg t))
  | .worker _ => inferInstanceAs (Decidable False)
  | .close => inferInstanceAs (Decidable False)

end

/-! ## One call -/

/-- The wall of the request in flight is the one its chunk will be registered at. -/
def Tracked (cfg : StreamConfig G T) (wall : ℕ) (e : EnsembleStream P G T) : Prop :=
  e.scheduler.pendingKickWall = some wall ∨
    (e.scheduler.pendingKickWall = none ∧ e.stream.nextChunk.isSome = true ∧ e.stream.chunk.isSome = true ∧
      wall + cfg.ensemble.period = e.scheduler.windowStart)

/-- What a call does to the slot. -/
structure KickStep (cfg : StreamConfig G T) (e e' : EnsembleStream P G T) : Prop where
  value : e'.scheduler.pendingKickWall = e.scheduler.pendingKickWall ∨ e'.scheduler.pendingKickWall = none ∨
    e'.scheduler.pendingKickWall = some e'.wallStep
  step : (ChunkStream.Quiet e.stream e'.stream ∧
      ∀ r wall, e'.stream.InFlight r → Tracked cfg wall e → Tracked cfg wall e') ∨
    (ChunkStream.Asked e.stream e'.stream ∧ e'.scheduler.pendingKickWall = some e'.wallStep)

section
omit [Group G] [Add T] [LE T] [DecidableLE T]
variable {cfg : StreamConfig G T} {e e' : EnsembleStream P G T}

theorem wallStep_congr (hchunk : e'.stream.chunk = e.stream.chunk) (hindex : e'.stream.chunkIndex = e.stream.chunkIndex)
    (hwall : e'.scheduler.windowStart = e.scheduler.windowStart) : e'.wallStep = e.wallStep := by
  unfold wallStep ensembleWallNow
  rw [hchunk, hindex, hwall]

theorem wallStep_of_none (h : e.stream.chunk = none) : e.wallStep = e.scheduler.windowStart := by
  unfold wallStep
  rw [h]
  rfl

theorem Tracked.quiet {wall : ℕ} {r : StreamRequest P} (h : Tracked cfg wall e)
    (q : ChunkStream.Quiet e.stream e'.stream) (hr : e'.stream.InFlight r)
    (hchunk : e'.stream.chunk = e.stream.chunk)
    (hkick : e'.scheduler.pendingKickWall = e.scheduler.pendingKickWall)
    (hwall : e'.scheduler.windowStart = e.scheduler.windowStart) : Tracked cfg wall e' := by
  unfold Tracked
  rw [hkick, hchunk, hwall]
  rcases h with h | ⟨hnone, hready, hsome, hcadence⟩
  · exact .inl h
  · exact .inr ⟨hnone, q.ready r hr hready, hsome, hcadence⟩

/-- The rest of a call may leave the shared fields and the row alone. -/
theorem KickStep.same (k : KickStep cfg e e') {s : ChunkStream P (Row G) T}
    (hs : ChunkStream.SameShared e'.stream s) (hchunk : s.chunk = e'.stream.chunk)
    (hindex : s.chunkIndex = e'.stream.chunkIndex) : KickStep cfg e { e' with stream := s } := by
  have hwall : ({ e' with stream := s } : EnsembleStream P G T).wallStep = e'.wallStep :=
    wallStep_congr hchunk hindex rfl
  refine ⟨?_, ?_⟩
  · rw [hwall]
    exact k.value
  · rw [hwall]
    rcases k.step with ⟨q, htracked⟩ | ⟨a, hkick⟩
    · have q' := hs.quiet q.single
      refine .inl ⟨q.trans q', fun r wall hr h => ?_⟩
      exact (htracked r wall (q'.inFlight r hr) h).quiet q' hr hchunk rfl rfl
    · exact .inr ⟨a.same hs, hkick⟩

/-- Within a call, before the early request of the next chunk. -/
structure Pending (cfg : StreamConfig G T) (e e' : EnsembleStream P G T) : Prop where
  quiet : ChunkStream.Quiet e.stream e'.stream
  tracked : ∀ r wall, e'.stream.InFlight r → Tracked cfg wall e → Tracked cfg wall e'
  value : e'.scheduler.pendingKickWall = e.scheduler.pendingKickWall ∨ e'.scheduler.pendingKickWall = none

theorem Pending.kickStep (p : Pending cfg e e') : KickStep cfg e e' :=
  ⟨p.value.imp_right .inl, .inl ⟨p.quiet, p.tracked⟩⟩

/-- A state in which nothing is in flight. -/
theorem pending_of_idle (q : ChunkStream.Quiet e.stream e'.stream) (hidle : ∀ r, ¬ e'.stream.InFlight r)
    (hvalue : e'.scheduler.pendingKickWall = e.scheduler.pendingKickWall ∨ e'.scheduler.pendingKickWall = none) :
    Pending cfg e e' :=
  ⟨q, fun r _ hr _ => absurd hr (hidle r), hvalue⟩

theorem Pending.interleave (p : Pending cfg e e') (steps : List (ChunkStream.WorkerStep (Row G))) :
    Pending cfg e { e' with stream := e'.stream.interleave steps } := by
  have q := p.quiet.single.interleave steps
  refine ⟨p.quiet.trans q, fun r wall hr h => ?_, p.value⟩
  exact (p.tracked r wall (q.inFlight r hr) h).quiet q hr (e'.stream.sameControl_interleave steps).chunk rfl rfl

/-- The early request asks when nothing is in flight, and notes the row's wall. -/
theorem Pending.kickPrefetch (p : Pending cfg e e') (t : StreamTick P (Row G) T) :
    KickStep cfg e (e'.kickPrefetch cfg t) := by
  have p₁ := p.interleave (t.gap .kickPending)
  unfold EnsembleStream.kickPrefetch
  dsimp only
  by_cases hbusy : (e'.stream.interleave (t.gap .kickPending)).chunk.isNone = true ∨
      (e'.stream.interleave (t.gap .kickPending)).pending = true
  · rw [if_pos hbusy]
    exact p₁.kickStep
  · rw [if_neg hbusy]
    have p₂ := p₁.interleave (t.gap .kickReady)
    have hready := p₁.quiet.single.interleave (t.gap .kickReady)
    have hsame := (e'.stream.interleave (t.gap .kickPending)).sameControl_interleave (t.gap .kickReady)
    generalize e'.stream.interleave (t.gap .kickPending) = s at *
    generalize s.interleave (t.gap .kickReady) = s₁ at *
    push Not at hbusy
    split
    · exact p₂.kickStep
    · rename_i hnone
      push Not at hnone
      -- a request in flight would show in the flag before, or in the ready slot now
      have hidle : ∀ r, ¬ s₁.InFlight r := by
        intro r hr
        rcases p₁.quiet.single.outstanding (hready.inFlight r hr) with hpending | hsome
        · exact hbusy.2 hpending
        · exact hnone.1 (hready.ready r hr hsome)
      have q₃ := p₂.quiet.single.interleave (t.gap .request)
      have hsame₃ := (s₁.sameControl_interleave (t.gap .request)).trans
        (ChunkStream.sameControl_requestPrefetch _ t.payload)
      have hchunk : s₁.chunk.isNone = false := by
        rw [hsame.chunk]
        exact Bool.not_eq_true _ |>.mp hbusy.1
      have hnow : ensembleWallNow ⟨s₁, e'.scheduler⟩ = wallStep ⟨s₁, e'.scheduler⟩ := by
        simp [wallStep, hchunk]
      have hwall : ensembleWallNow ⟨s₁, e'.scheduler⟩ = wallStep (P := P) (G := G) (T := T)
          ⟨(s₁.interleave (t.gap .request)).requestPrefetch t.payload,
            e'.scheduler.noteKick (ensembleWallNow ⟨s₁, e'.scheduler⟩)⟩ :=
        hnow.trans (wallStep_congr hsame₃.chunk.symm hsame₃.chunkIndex.symm rfl)
      refine ⟨.inr (.inr (congrArg some hwall)), ?_⟩
      rcases q₃.single.requestPrefetch t.payload with hrefused | hasked
      · left
        rw [hrefused]
        exact ⟨p₂.quiet.trans q₃, fun r _ hr _ => absurd (q₃.inFlight r hr) (hidle r)⟩
      · exact .inr ⟨p₂.quiet.asked (q₃.asked hasked), congrArg some hwall⟩

theorem Pending.finishTick (p : Pending cfg e e') (t : StreamTick P (Row G) T) (advanced : Bool)
    (window : Option (Window G)) : KickStep cfg e (e'.finishTick cfg t advanced window).next := by
  have k := p.kickPrefetch t
  unfold EnsembleStream.finishTick
  cases advanced with
  | false => exact k
  | true =>
    have hemit := (e'.kickPrefetch cfg t).stream.emitRow_control cfg.stream
    exact k.same (ChunkStream.sameShared_emitRow cfg.stream _) hemit.1 hemit.2

/-- A call that holds writes the slot. -/
theorem kickStep_requestAndHold {s : ChunkStream P (Row G) T} {scheduler : Scheduler G}
    (q : ChunkStream.Quiet e.stream s) (hnone : s.chunk = none)
    (hwall : scheduler.windowStart = e.scheduler.windowStart) (t : StreamTick P (Row G) T)
    (hslot : ∀ r, (s.interleave (t.gap .request)).InFlight r →
      e.scheduler.pendingKickWall = some e.scheduler.windowStart) :
    KickStep cfg e (requestAndHold t ⟨s, scheduler⟩).next := by
  have q' := q.single.interleave (t.gap .request)
  have u := untouched_request s scheduler t scheduler.windowStart
  have hstep : scheduler.windowStart = (requestAndHold t ⟨s, scheduler⟩).next.wallStep :=
    (wallStep_of_none (u.stream.chunk.trans hnone)).symm
  refine ⟨.inr (.inr (congrArg some hstep)), ?_⟩
  rcases q'.single.requestPrefetch t.payload with hrefused | hasked
  · left
    constructor
    · show ChunkStream.Quiet e.stream ((s.interleave (t.gap .request)).requestPrefetch t.payload)
      rw [hrefused]
      exact q.trans q'
    · intro r wall hr h
      replace hr : ((s.interleave (t.gap .request)).requestPrefetch t.payload).InFlight r := hr
      rw [hrefused] at hr
      have hkick := hslot r hr
      rcases h with h | ⟨h, -⟩
      · rw [h] at hkick
        left
        show some scheduler.windowStart = some wall
        rw [hwall, Option.some.inj hkick]
      · rw [h] at hkick
        cases hkick
  · exact .inr ⟨q.asked (q'.asked hasked), congrArg some hstep⟩

theorem slot_of_not_outOfDate {s : ChunkStream P (Row G) T} (h : ¬ e.outOfDate s) (hs : s.Single) (r : StreamRequest P)
    (hr : s.InFlight r) : e.scheduler.pendingKickWall = some e.scheduler.windowStart := by
  by_contra hne
  exact h ⟨hs.outstanding hr, hne⟩

/-- With nothing to play, only the slot tells the wall. -/
theorem Tracked.of_none {wall : ℕ} (h : Tracked cfg wall e) (hnone : e.stream.chunk = none) :
    e.scheduler.pendingKickWall = some wall := by
  rcases h with h | ⟨-, -, hsome, -⟩
  · exact h
  · rw [hnone] at hsome
    cases hsome

end

/-! ## The scheduler's slot -/

section
variable (cfg : Config G) (s : Scheduler G) (anchor : Arm → G)

theorem buildWindow_slot (length : ℕ) :
    (s.buildWindow cfg length).1.pendingKickWall = s.pendingKickWall ∧
      (s.buildWindow cfg length).1.plans = s.plans := by
  unfold Scheduler.buildWindow
  split
  · exact ⟨rfl, rfl⟩
  · exact ⟨rfl, rfl⟩

theorem register_kickWall (rows : List (Row G)) (wall : ℕ) :
    (s.register rows wall anchor).kickWall? = some wall := by
  unfold Scheduler.kickWall? Scheduler.register
  dsimp only
  split
  · rename_i hlen
    rw [List.getLast?_drop, if_neg (by simp only [List.length_append, List.length_singleton] at hlen ⊢; omega)]
    simp
  · simp

/-- `begin` registers at the first wall and leaves the slot. -/
theorem begin_slot (rows : List (Row G)) :
    (s.begin cfg rows anchor).1.pendingKickWall = s.pendingKickWall ∧
      (s.begin cfg rows anchor).1.kickWall? = some 0 := by
  obtain ⟨hslot, hplans⟩ := buildWindow_slot cfg (s.register rows 0 anchor) (2 * cfg.period)
  have hkick := register_kickWall s anchor rows 0
  unfold Scheduler.begin
  dsimp only
  split
  · refine ⟨hslot, ?_⟩
    rw [← hkick, Scheduler.kickWall?, hplans]
    rfl
  · refine ⟨hslot, ?_⟩
    rw [← hkick, Scheduler.kickWall?, hplans]
    rfl

/-- `advance` registers a chunk at the slot's wall, or at the nominal cadence, and empties the slot. -/
theorem advance_slot (rows : List (Row G)) :
    (s.advance cfg (some rows) anchor).1.pendingKickWall = none ∧
      (s.advance cfg (some rows) anchor).1.kickWall? =
        some (s.pendingKickWall.getD (s.windowStart - cfg.period)) := by
  obtain ⟨hslot, hplans⟩ := buildWindow_slot cfg (s.arrive cfg (some rows) anchor) cfg.period
  have hkick := register_kickWall { s with pendingKickWall := none } anchor rows
    (s.pendingKickWall.getD (s.windowStart - cfg.period))
  unfold Scheduler.advance
  dsimp only
  split
  · refine ⟨hslot, ?_⟩
    rw [← hkick, Scheduler.kickWall?, hplans]
    rfl
  · refine ⟨hslot, ?_⟩
    rw [← hkick, Scheduler.kickWall?, hplans]
    rfl

theorem advance_none_slot : (s.advance cfg none anchor).1.pendingKickWall = s.pendingKickWall := by
  obtain ⟨hslot, -⟩ := buildWindow_slot cfg s cfg.period
  unfold Scheduler.advance
  dsimp only
  split
  · exact hslot
  · exact hslot

end

/-! ## The branches of a call -/

section
variable {cfg : StreamConfig G T} {e : EnsembleStream P G T}

omit [Group G] in
/-- The window that a call activates, with the slot as it was or used up. -/
theorem kickStep_activateWindow {s : ChunkStream P (Row G) T} {scheduler : Scheduler G} {w : Window G}
    (q : ChunkStream.Quiet e.stream s) (t : StreamTick P (Row G) T)
    (htracked : ∀ r wall, s.InFlight r → Tracked cfg wall e → Tracked cfg wall
      ⟨s.activateChunk cfg.stream (windowChunk t.payload s w) t.now false, scheduler⟩)
    (hvalue : scheduler.pendingKickWall = e.scheduler.pendingKickWall ∨ scheduler.pendingKickWall = none) :
    KickStep cfg e (activateWindow cfg t ⟨s, scheduler⟩ w).next := by
  have hsame := ChunkStream.sameShared_activateChunk cfg.stream s (windowChunk t.payload s w) t.now false
  refine Pending.finishTick ⟨q.trans (hsame.quiet q.single), fun r wall hr h => ?_, hvalue⟩ t true (some w)
  exact htracked r wall ((hsame.inFlight r).mp hr) h

/-- A chunk joins the schedule.  What stays in flight beside it keeps its wall: the first window leaves the slot,
and a later one starts at that wall. -/
theorem kickStep_join (hnone : e.stream.chunk = none) {s : ChunkStream P (Row G) T}
    (q : ChunkStream.Quiet e.stream s) (t : EnsembleTick P G T) (chunk : ActionChunk P (Row G))
    (hspare : ∀ r, s.InFlight r → e.scheduler.firstWindowBuilt = true →
      e.scheduler.pendingKickWall = some e.scheduler.windowStart ∧ e.coversNext cfg t chunk.rows ∧
        s.nextChunk.isSome = true ∧ s.emittedPolicySteps - s.candidateObservation = 0) :
    KickStep cfg e (join cfg t chunk { e with stream := s }).next := by
  unfold join
  dsimp only
  cases hfirst : e.scheduler.firstWindowBuilt with
  | false =>
    obtain ⟨hslot, -⟩ := begin_slot cfg.ensemble e.scheduler t.anchor chunk.rows
    generalize e.scheduler.begin cfg.ensemble chunk.rows t.anchor = p at hslot ⊢
    obtain ⟨scheduler, window⟩ := p
    have htracked : ∀ (s' : ChunkStream P (Row G) T) wall, Tracked cfg wall e → Tracked cfg wall ⟨s', scheduler⟩ :=
      fun s' wall h => .inl (hslot.trans (h.of_none hnone))
    cases window with
    | none => exact (Pending.mk q (fun r wall _ h => htracked s wall h) (.inl hslot)).kickStep
    | some w => exact kickStep_activateWindow q t.tick (fun r wall _ h => htracked _ wall h) (.inl hslot)
  | true =>
    obtain ⟨hslot, -⟩ := advance_slot cfg.ensemble e.scheduler t.anchor chunk.rows
    have hw := advance_scheduled cfg.ensemble e.scheduler t.anchor (some chunk.rows) hfirst
    generalize e.scheduler.advance cfg.ensemble (some chunk.rows) t.anchor = p at hslot hw ⊢
    obtain ⟨scheduler, window⟩ := p
    cases window with
    | none =>
      refine (pending_of_idle q (fun r hr => ?_) (.inr hslot)).kickStep
      obtain ⟨-, hcovers, -⟩ := hspare r hr hfirst
      rw [coversNext, if_pos hfirst, ← hw.covered] at hcovers
      cases hcovers
    | some w =>
      refine kickStep_activateWindow q t.tick (fun r wall hr h => ?_) (.inr hslot)
      obtain ⟨hkick, -, hready, hlag⟩ := hspare r hr hfirst
      have hwall : wall = e.scheduler.windowStart :=
        Option.some.inj ((h.of_none hnone).symm.trans hkick)
      have hrows : w.rows.length = cfg.ensemble.period := hw.rows w rfl
      have hlong : ¬ (windowChunk t.tick.payload s w).rows.length ≤ s.emittedPolicySteps - s.candidateObservation := by
        have := cfg.ensemble.two_le_period
        show ¬ w.rows.length ≤ _
        omega
      have hplays : (s.activateChunk cfg.stream (windowChunk t.tick.payload s w)
          t.tick.now false).chunk.isSome = true := by
        unfold ChunkStream.activateChunk
        dsimp only
        rw [if_neg hlong]
        rfl
      refine .inr ⟨hslot, ?_, hplays, ?_⟩
      · rw [(ChunkStream.sameShared_activateChunk cfg.stream s _ _ _).nextChunk]
        exact hready
      · have := hw.wall
        simp only [Option.map_some, Option.getD_some] at this
        show wall + cfg.ensemble.period = scheduler.windowStart
        omega

/-- Nothing is played. -/
theorem kickStep_startWindow (hsingle : e.stream.Single) (hnone : e.stream.chunk = none) (t : EnsembleTick P G T)
    (hslot : ¬ e.Overwrites cfg (.nextIntent t)) : KickStep cfg e (e.startWindow cfg t).next := by
  have q := hsingle.interleave (t.tick.gap .take)
  have hsame := e.stream.sameControl_interleave (t.tick.gap .take)
  unfold EnsembleStream.startWindow
  dsimp only
  split
  · rename_i chunk hchunk
    have hready : (e.stream.interleave (t.tick.gap .take)).nextChunk.isSome = true := by
      rw [hchunk]
      rfl
    refine kickStep_join hnone (q.trans q.single.takePrefetched) t chunk fun r hr => ?_
    exact (q.single.taken hready hr).elim
  · rename_i hchunk
    have hslot' : ¬ e.startOverwrites cfg t := by
      intro h
      refine hslot ⟨hchunk, ?_⟩
      rw [hnone]
      exact h
    have q₁ := (q.trans q.single.takePrefetched).trans (q.single.takePrefetched.single.interleave (t.tick.gap .pending))
    have hs₁ : ((e.stream.interleave (t.tick.gap .take)).takePrefetched.interleave (t.tick.gap .pending)).chunk =
        none :=
      (ChunkStream.sameControl_interleave _ (t.tick.gap .pending)).chunk.trans (hsame.chunk.trans hnone)
    unfold startOverwrites at hslot'
    dsimp only at hslot'
    generalize (e.stream.interleave (t.tick.gap .take)).takePrefetched.interleave (t.tick.gap .pending) = s at *
    by_cases hbusy : s.pending = true ∨ cfg.stream.nonblockingStreamInference = true
    · rw [if_pos hbusy] at hslot' ⊢
      refine kickStep_requestAndHold q₁ hs₁ rfl t.tick ?_
      exact slot_of_not_outOfDate hslot' (q₁.single.interleave _).single
    · rw [if_neg hbusy] at hslot' ⊢
      push Not at hbusy
      have hsample := q₁.single.interleave (t.tick.gap .sample)
      have hinline := (ChunkStream.sameShared_sampleAndAlignChunkTimed t.tick (s.interleave (t.tick.gap .sample))).quiet
        hsample.single
      have q₂ := (q₁.trans hsample).trans hinline
      have hs₂ : ((s.interleave (t.tick.gap .sample)).sampleAndAlignChunkTimed t.tick).2.chunk = none :=
        (s.sameControl_interleave (t.tick.gap .sample)).chunk.trans hs₁
      -- with the flag down, what is in flight is a chunk that came after the take
      have hready : ∀ r, ((s.interleave (t.tick.gap .sample)).sampleAndAlignChunkTimed t.tick).2.InFlight r →
          ((s.interleave (t.tick.gap .sample)).sampleAndAlignChunkTimed t.tick).2.nextChunk.isSome = true := by
        intro r hr
        rcases q₁.single.outstanding ((hsample.trans hinline).inFlight r hr) with hpending | hsome
        · exact absurd hpending hbusy.1
        · exact (hsample.trans hinline).ready r hr hsome
      have hfst : ((s.interleave (t.tick.gap .sample)).sampleAndAlignChunkTimed t.tick).1 =
        t.tick.sampled.chunk ⟨(s.interleave (t.tick.gap .sample)).generation,
          (s.interleave (t.tick.gap .sample)).inferenceSeq + 1, t.tick.payload,
          (s.interleave (t.tick.gap .sample)).emittedPolicySteps⟩ := rfl
      rw [hfst]
      cases hsampled : t.tick.sampled with
      | raised =>
        refine Pending.kickStep ⟨q₂, fun r wall _ h => .inl (h.of_none hnone), .inl rfl⟩
      | none =>
        rw [hsampled] at hslot'
        refine kickStep_requestAndHold q₂ hs₂ rfl t.tick ?_
        exact slot_of_not_outOfDate hslot' (q₂.single.interleave _).single
      | rows rows =>
        rw [hsampled] at hslot'
        refine kickStep_join hnone q₂ t _ fun r hr hfirst => ?_
        simp only [inlineOverwrites, not_and_or, not_or, not_not] at hslot'
        rcases hslot' with hempty | hunbuilt | ⟨hkick, hcovers⟩
        · exact absurd (hready r hr) hempty
        · exact absurd hfirst hunbuilt
        · refine ⟨hkick, hcovers, hready r hr, ?_⟩
          simp [ChunkStream.sampleAndAlignChunkTimed, ChunkStream.candidateObservation, hsampled, Sampled.chunk,
            StreamRequest.metadata]

/-- The window is over. -/
theorem kickStep_reachBoundary (h : e.Settled) (hsingle : e.stream.Single) {c : ActiveChunk P (Row G)}
    (hc : e.stream.chunk = some c) (t : EnsembleTick P G T) (htakes : e.takes t)
    (hslot : ¬ e.Overwrites cfg (.nextIntent t)) : KickStep cfg e (e.reachBoundary cfg t).next := by
  obtain ⟨-, -, hfirst⟩ := h.inside c hc
  have q := hsingle.interleave (t.tick.gap .take)
  have q₁ := q.trans q.single.takePrefetched
  -- the stream of a stall: the same shared fields
  have q₂ : ChunkStream.Quiet (e.stream.interleave (t.tick.gap .take)).takePrefetched
      { (e.stream.interleave (t.tick.gap .take)).takePrefetched with
        stallCount := (e.stream.interleave (t.tick.gap .take)).stallCount + 1, chunk := none } :=
    ChunkStream.SameShared.quiet ⟨rfl, rfl, rfl, rfl, Nat.le_refl _⟩ q₁.single
  have hw := advance_scheduled cfg.ensemble e.scheduler t.anchor
    ((e.stream.interleave (t.tick.gap .take)).nextChunk.map ActionChunk.rows) hfirst
  unfold EnsembleStream.reachBoundary
  dsimp only
  cases hchunk : (e.stream.interleave (t.tick.gap .take)).nextChunk with
  | some chunk =>
    have hready : (e.stream.interleave (t.tick.gap .take)).nextChunk.isSome = true := by
      rw [hchunk]
      rfl
    have hidle : ∀ r, ¬ (e.stream.interleave (t.tick.gap .take)).takePrefetched.InFlight r :=
      fun r hr => q.single.taken hready hr
    rw [hchunk] at hw
    obtain ⟨hempty, -⟩ := advance_slot cfg.ensemble e.scheduler t.anchor chunk.rows
    dsimp only [Option.map_some] at hw ⊢
    generalize e.scheduler.advance cfg.ensemble (some chunk.rows) t.anchor = p at hw hempty ⊢
    obtain ⟨scheduler, window⟩ := p
    cases window with
    | some w => exact kickStep_activateWindow q₁ t.tick (fun r wall hr _ => absurd hr (hidle r)) (.inr hempty)
    | none =>
      refine kickStep_requestAndHold (q₁.trans q₂) rfl hw.wall t.tick fun r hr => ?_
      exact absurd (q₂.inFlight r ((q₂.single.interleave _).inFlight r hr)) (hidle r)
  | none =>
    rw [hchunk] at hw
    have hkept := advance_none_slot cfg.ensemble e.scheduler t.anchor
    dsimp only [Option.map_none] at hw ⊢
    generalize e.scheduler.advance cfg.ensemble none t.anchor = p at hw hkept ⊢
    obtain ⟨scheduler, window⟩ := p
    cases window with
    | some w =>
      refine kickStep_activateWindow q₁ t.tick (fun r wall hr h => ?_) (.inl hkept)
      rcases h with h | ⟨-, hready, -⟩
      · exact .inl (hkept.trans h)
      · have := q.ready r (q.single.takePrefetched.inFlight r hr) hready
        rw [hchunk] at this
        cases this
    | none =>
      refine kickStep_requestAndHold (q₁.trans q₂) rfl hw.wall t.tick ?_
      refine slot_of_not_outOfDate (fun hout => hslot ⟨hchunk, ?_⟩) (q₂.single.interleave _).single
      have hstarved : ∀ p ∈ e.scheduler.plans, p.covers e.scheduler.windowStart cfg.ensemble.period = false := by
        intro p hp
        by_contra hcovers
        have hbuilt := hw.covered.mpr ⟨p, hp, Bool.not_eq_false _ |>.mp hcovers⟩
        cases hbuilt
      rw [hc]
      exact ⟨htakes, hstarved, hout⟩

theorem kickStep_nextIntentStreamed (h : e.Settled) (hsingle : e.stream.Single) (t : EnsembleTick P G T)
    (hslot : ¬ e.Overwrites cfg (.nextIntent t)) : KickStep cfg e (e.nextIntentStreamed cfg t).next := by
  unfold EnsembleStream.nextIntentStreamed
  split
  · rename_i hnone
    exact kickStep_startWindow hsingle hnone t hslot
  · rename_i c hc
    rw [h.resume, if_neg Bool.false_ne_true]
    by_cases hdue : e.stream.stepDeadline ≤ t.tick.now
    · rw [if_pos hdue, EnsembleStream.reachDeadline]
      by_cases hnext : e.stream.chunkIndex + 1 < executeLimit e.stream
      · rw [if_pos hnext]
        have q : ChunkStream.Quiet e.stream { e.stream with
            chunkIndex := e.stream.chunkIndex + 1
            stepDeadline := e.stream.nextStepDeadline cfg.stream t.tick.now } :=
          ChunkStream.SameShared.quiet ⟨rfl, rfl, rfl, rfl, Nat.le_refl _⟩ hsingle
        have p : Pending cfg e { e with
            stream := { e.stream with
              chunkIndex := e.stream.chunkIndex + 1
              stepDeadline := e.stream.nextStepDeadline cfg.stream t.tick.now } } :=
          ⟨q, fun r wall hr h => h.quiet q hr rfl rfl rfl, .inl rfl⟩
        exact p.finishTick t.tick true none
      · rw [if_neg hnext]
        exact kickStep_reachBoundary h hsingle hc t (.inr ⟨h.resume, hdue, by omega⟩) hslot
    · rw [if_neg hdue]
      exact Pending.finishTick ⟨hsingle.quiet, fun r wall _ h => h, .inl rfl⟩ t.tick false none

/-- **One call.** -/
theorem call_kickStep (h : e.Settled) (hsingle : e.stream.Single) (x : Call P G T) (hslot : ¬ e.Overwrites cfg x) :
    KickStep cfg e (e.call cfg x).next := by
  cases x with
  | nextIntent t => exact kickStep_nextIntentStreamed h hsingle t hslot
  | worker w =>
    have q := hsingle.workerStep w
    exact Pending.kickStep
      ⟨q, fun r wall hr h => h.quiet q hr (e.stream.sameControl_workerStep w).chunk rfl rfl, .inl rfl⟩
  | close =>
    have q : ChunkStream.Quiet e.stream e.stream.close :=
      ChunkStream.SameShared.quiet ⟨rfl, rfl, rfl, rfl, Nat.le_refl _⟩ hsingle
    exact Pending.kickStep ⟨q, fun r wall hr h => h.quiet q hr rfl rfl rfl, .inl rfl⟩

omit [Group G] [Add T] [LE T] [DecidableLE T] in
theorem plans_kickPrefetch (cfg : StreamConfig G T) (t : StreamTick P (Row G) T) (e : EnsembleStream P G T) :
    (e.kickPrefetch cfg t).scheduler.plans = e.scheduler.plans := by
  unfold EnsembleStream.kickPrefetch
  dsimp only
  split
  · rfl
  · split
    · rfl
    · rfl

omit [Group G] in
theorem kickWall_activateWindow (t : StreamTick P (Row G) T) (w : Window G) :
    (e.activateWindow cfg t w).next.scheduler.kickWall? = e.scheduler.kickWall? := by
  have hplans := plans_kickPrefetch cfg t
    { e with stream := e.stream.activateChunk cfg.stream (windowChunk t.payload e.stream w) t.now false }
  unfold Scheduler.kickWall?
  exact congrArg (fun plans => plans.getLast?.map Plan.kickWall) hplans

/-- The wall at which a taken chunk is registered. -/
def registered (cfg : StreamConfig G T) (e : EnsembleStream P G T) : ℕ :=
  if e.scheduler.firstWindowBuilt then
    e.scheduler.pendingKickWall.getD (e.scheduler.windowStart - cfg.ensemble.period)
  else 0

theorem kickWall_join (t : EnsembleTick P G T) (chunk : ActionChunk P (Row G)) :
    (join cfg t chunk e).next.scheduler.kickWall? = some (e.registered cfg) := by
  unfold join registered
  cases hfirst : e.scheduler.firstWindowBuilt with
  | false =>
    obtain ⟨-, hkick⟩ := begin_slot cfg.ensemble e.scheduler t.anchor chunk.rows
    generalize e.scheduler.begin cfg.ensemble chunk.rows t.anchor = p at hkick ⊢
    obtain ⟨scheduler, window⟩ := p
    cases window with
    | none => exact hkick
    | some w => exact (kickWall_activateWindow t.tick w).trans hkick
  | true =>
    obtain ⟨-, hkick⟩ := advance_slot cfg.ensemble e.scheduler t.anchor chunk.rows
    generalize e.scheduler.advance cfg.ensemble (some chunk.rows) t.anchor = p at hkick ⊢
    obtain ⟨scheduler, window⟩ := p
    cases window with
    | none => exact hkick
    | some w => exact (kickWall_activateWindow t.tick w).trans hkick

theorem registers_kickWall (h : e.Settled) {x : Call P G T} {r : StreamRequest P} (hx : e.registers r x) :
    (e.call cfg x).next.scheduler.kickWall? = some (e.registered cfg) := by
  cases x with
  | worker w => exact hx.elim
  | close => exact hx.elim
  | nextIntent t =>
    obtain ⟨htakes, hr⟩ := hx
    obtain ⟨chunk, hchunk, -⟩ := Option.map_eq_some_iff.mp hr
    show (e.nextIntentStreamed cfg t).next.scheduler.kickWall? = _
    unfold EnsembleStream.nextIntentStreamed
    split
    · unfold EnsembleStream.startWindow
      dsimp only
      rw [hchunk]
      exact kickWall_join t chunk
    · rename_i c hc
      obtain ⟨-, -, hfirst⟩ := h.inside c hc
      rcases htakes with hnone | ⟨-, hdue, hover⟩
      · rw [hc] at hnone
        cases hnone
      · rw [h.resume, if_neg Bool.false_ne_true, if_pos hdue, EnsembleStream.reachDeadline, if_neg (by omega)]
        obtain ⟨-, hkick⟩ := advance_slot cfg.ensemble e.scheduler t.anchor chunk.rows
        unfold EnsembleStream.reachBoundary registered
        dsimp only
        rw [hchunk, if_pos hfirst, Option.map_some]
        generalize e.scheduler.advance cfg.ensemble (some chunk.rows) t.anchor = p at hkick ⊢
        obtain ⟨scheduler, window⟩ := p
        cases window with
        | none => exact hkick
        | some w => exact (kickWall_activateWindow t.tick w).trans hkick

end

end EnsembleStream

/-! ## Whole runs -/

section
variable {cfg : StreamConfig G T} {zero : T} {pre : List (EnsembleStream.Call P G T)} {x : EnsembleStream.Call P G T}

/-- Each request in flight was accepted once, at the wall that is tracked. -/
structure Attributed (cfg : StreamConfig G T) (zero : T) (pre : List (EnsembleStream.Call P G T)) : Prop where
  single : (StreamRun.after cfg zero pre).state.stream.Single
  unstarted : (StreamRun.after cfg zero pre).state.scheduler.firstWindowBuilt = false →
    (StreamRun.after cfg zero pre).state.scheduler.windowStart = 0 ∧
      ∀ wall, (StreamRun.after cfg zero pre).state.scheduler.pendingKickWall = some wall → wall = 0
  bounded : ∀ r wall, AcceptedAt cfg zero pre r wall →
    r.inferenceSeq ≤ (StreamRun.after cfg zero pre).state.stream.inferenceSeq
  tracked : ∀ r, (StreamRun.after cfg zero pre).state.stream.InFlight r → ∃ wall, AcceptedAt cfg zero pre r wall ∧
    (∀ wall', AcceptedAt cfg zero pre r wall' → wall' = wall) ∧
    EnsembleStream.Tracked cfg wall (StreamRun.after cfg zero pre).state

/-- A request is accepted before the last call or by it. -/
theorem acceptedAt_append {r : StreamRequest P} {wall : ℕ} :
    AcceptedAt cfg zero (pre ++ [x]) r wall ↔ AcceptedAt cfg zero pre r wall ∨
      ((StreamRun.after cfg zero pre).state.stream.request ≠ some r ∧
        (StreamRun.after cfg zero (pre ++ [x])).state.stream.request = some r ∧
        wall = (StreamRun.after cfg zero (pre ++ [x])).state.wallStep) := by
  constructor
  · rintro ⟨pre', y, hprefix, hnot, hrequest, hwall⟩
    rcases List.prefix_concat_iff.mp hprefix with heq | hpre
    · obtain ⟨rfl, hy⟩ := List.append_inj' heq rfl
      obtain rfl : y = x := by simpa using hy
      exact .inr ⟨hnot, hrequest, hwall⟩
    · exact .inl ⟨pre', y, hpre, hnot, hrequest, hwall⟩
  · rintro (⟨pre', y, hprefix, h⟩ | h)
    · exact ⟨pre', y, hprefix.trans (List.prefix_append _ _), h⟩
    · exact ⟨pre, x, List.prefix_rfl, h⟩

theorem attributed_nil (cfg : StreamConfig G T) (zero : T) : Attributed (P := P) cfg zero [] := by
  have hnone : ∀ r, ¬ (StreamRun.after (P := P) cfg zero []).state.stream.InFlight r := by
    rintro r (hr | hr | hr)
    · cases hr
    · cases hr
    · cases hr
  refine ⟨ChunkStream.single_start zero, fun _ => ⟨rfl, fun wall hwall => ?_⟩, ?_, fun r hr => absurd hr (hnone r)⟩
  · cases hwall
  · rintro r wall ⟨pre, x, hprefix, -⟩
    exact absurd hprefix (by simp)

/-- **One call.** -/
theorem Attributed.step (h : Attributed cfg zero pre)
    (hslot : ¬ (StreamRun.after cfg zero pre).state.Overwrites cfg x) :
    Attributed cfg zero (pre ++ [x]) := by
  have kept := StreamRun.kept_after cfg zero pre
  have t := kept.settled.call cfg x
  have k := EnsembleStream.call_kickStep kept.settled h.single x hslot
  have hafter : (StreamRun.after cfg zero (pre ++ [x])).state =
      ((StreamRun.after cfg zero pre).state.call cfg x).next := by
    rw [StreamRun.after_append]
    rfl
  have hunstarted := h.unstarted
  have hnumbered := h.single.numbered
  have haccepted : ∀ r wall, AcceptedAt cfg zero (pre ++ [x]) r wall ↔ AcceptedAt cfg zero pre r wall ∨
      ((StreamRun.after cfg zero pre).state.stream.request ≠ some r ∧
        ((StreamRun.after cfg zero pre).state.call cfg x).next.stream.request = some r ∧
        wall = ((StreamRun.after cfg zero pre).state.call cfg x).next.wallStep) := by
    intro r wall
    rw [acceptedAt_append, hafter]
  have hbounded := h.bounded
  have htracked := h.tracked
  generalize (StreamRun.after cfg zero pre).state = e at *
  have hsingle : (e.call cfg x).next.stream.Single ∧
      e.stream.inferenceSeq ≤ (e.call cfg x).next.stream.inferenceSeq := by
    rcases k.step with ⟨q, -⟩ | ⟨a, -⟩
    · exact ⟨q.single, q.seq⟩
    · exact ⟨a.single, a.seq⟩
  refine ⟨?_, ?_, ?_, ?_⟩
  · rw [hafter]
    exact hsingle.1
  · rw [hafter]
    intro hfirst
    have hnone : (e.call cfg x).next.stream.chunk = none := by
      cases hc : (e.call cfg x).next.stream.chunk with
      | none => rfl
      | some c =>
        obtain ⟨-, -, hbuilt⟩ := t.settled.inside c hc
        rw [hbuilt] at hfirst
        cases hfirst
    have hwall := t.wall
    rw [t.first, Bool.or_eq_false_iff, Option.isSome_eq_false_iff, Option.isNone_iff_eq_none] at hfirst
    obtain ⟨hstart, hslots⟩ := hunstarted hfirst.1
    rw [hfirst.2, hstart] at hwall
    refine ⟨hwall, fun wall hkick => ?_⟩
    rcases k.value with hsame | hempty | hnoted
    · exact hslots wall (hsame.symm.trans hkick)
    · rw [hempty] at hkick
      cases hkick
    · rw [hnoted, EnsembleStream.wallStep_of_none hnone] at hkick
      exact (Option.some.inj hkick).symm.trans hwall
  · rw [hafter]
    intro r wall hr
    rcases (haccepted r wall).mp hr with hold | ⟨-, hnew, -⟩
    · exact Nat.le_trans (hbounded r wall hold) hsingle.2
    · exact hsingle.1.numbered r (.inl hnew)
  · rw [hafter]
    intro r hr
    rcases k.step with ⟨q, hkeeps⟩ | ⟨a, hnoted⟩
    · -- it was in flight before the call, which therefore did not accept it
      obtain ⟨wall, hat, hunique, htrack⟩ := htracked r (q.inFlight r hr)
      refine ⟨wall, (haccepted r wall).mpr (.inl hat), fun wall' hwall' => ?_, hkeeps r wall hr htrack⟩
      rcases (haccepted r wall').mp hwall' with hold | ⟨hnot, hnew, -⟩
      · exact hunique wall' hold
      · exact absurd (q.request r hnew) hnot
    · obtain ⟨hnew, hfresh⟩ := a.fresh r hr
      refine ⟨_, (haccepted r _).mpr (.inr ⟨fun hold => ?_, hnew, rfl⟩), fun wall' hwall' => ?_, .inl hnoted⟩
      · have := hnumbered r (.inl hold)
        omega
      · rcases (haccepted r wall').mp hwall' with hold | ⟨-, -, hwall⟩
        · have := hbounded r wall' hold
          omega
        · exact hwall

/-- A taken chunk is registered at the tracked wall. -/
theorem Attributed.registers (h : Attributed cfg zero pre) {r : StreamRequest P}
    (hx : (StreamRun.after cfg zero pre).state.registers r x) :
    (∃ wall, AcceptedAt cfg zero pre r wall) ∧ ∀ wall, AcceptedAt cfg zero pre r wall →
      ((StreamRun.after cfg zero pre).state.call cfg x).next.scheduler.kickWall? = some wall := by
  have kept := StreamRun.kept_after cfg zero pre
  have hinFlight : (StreamRun.after cfg zero pre).state.stream.InFlight r := by
    cases x with
    | nextIntent t => exact (h.single.interleave (t.tick.gap .take)).inFlight r (.inr (.inr hx.2))
    | worker w => exact hx.elim
    | close => exact hx.elim
  obtain ⟨wall, hat, hunique, htrack⟩ := h.tracked r hinFlight
  refine ⟨⟨wall, hat⟩, fun wall' hwall' => ?_⟩
  rw [hunique wall' hwall', EnsembleStream.registers_kickWall kept.settled hx]
  congr 1
  unfold EnsembleStream.registered
  split
  · rcases htrack with hslot | ⟨hempty, -, -, hcadence⟩
    · rw [hslot]
      rfl
    · rw [hempty]
      show _ - _ = wall
      omega
  · rename_i hfirst
    have hunbuilt := Bool.not_eq_true _ |>.mp hfirst
    rcases htrack with hslot | ⟨-, -, hsome, -⟩
    · exact ((h.unstarted hunbuilt).2 wall hslot).symm
    · obtain ⟨c, hc⟩ := Option.isSome_iff_exists.mp hsome
      exact absurd (kept.settled.inside c hc).2.2 hfirst

/-- In a run that never overwrites the slot, each prefetched chunk is registered at the wall of its request. -/
theorem kicked_at_request (cfg : StreamConfig G T) (zero : T) (xs : List (EnsembleStream.Call P G T))
    (h : Runs.EveryStep (fun pre x => ¬ (StreamRun.after cfg zero pre).state.Overwrites cfg x) xs) :
    KickedAtRequest cfg zero xs := by
  refine h.of_invariant (Attributed cfg zero) (attributed_nil cfg zero) fun pre x hpre hx => ?_
  exact ⟨fun r hr => hpre.registers hr, hpre.step hx⟩

end

/-! ## A stall behind a request in flight -/

/-- Two units of time for each policy step. -/
def halfStream : StreamConfig (Multiplicative ℤ) ℕ where
  stream := ⟨.fixedSteps, 2, 6, none, false, false, 0, true⟩
  ensemble := lineConfig

/-- The worker's inference fails. -/
def failedInference : List (EnsembleStream.Call Unit (Multiplicative ℤ) ℕ) :=
  [.worker (.infer .raised none), .worker (.publish ⟨0, 0⟩)]

/-- The request at wall 2 fails, and one at wall 3 is answered before the window is over. -/
def answeredCalls : List (EnsembleStream.Call Unit (Multiplicative ℤ) ℕ) :=
  [lineTick 0, lineTick 2, lineTick 4, .worker .takeRequest, lineTick 6] ++ failedInference ++ [lineTick 7] ++
    lineInference ++ [lineTick 8]

theorem kicked_at_request_answered :
    (StreamRun.after halfStream 0 answeredCalls).state.scheduler.kickWall? = some 3 ∧
      KickedAtRequest halfStream 0 answeredCalls := by
  refine ⟨by decide +kernel, kicked_at_request halfStream 0 answeredCalls ?_⟩
  exact Runs.everyStep_of_take (by decide +kernel)

/-- A request at wall 3 holds on until the window from the runway is played, and fails; one at wall 5 is in flight
when the call at wall 6 stalls. -/
def stalledCalls : List (EnsembleStream.Call Unit (Multiplicative ℤ) ℕ) :=
  [lineTick 0, lineTick 2, lineTick 4, .worker .takeRequest, lineTick 6] ++ failedInference ++
    [lineTick 7, .worker .takeRequest, lineTick 8, lineTick 10] ++ failedInference ++ [lineTick 11, lineTick 12] ++
    lineInference

/-- All windows are executed whole, and the chunk that was requested at wall 5 is registered at wall 6. -/
theorem stall_moves_kick :
    ExecutedWhole halfStream 0 (stalledCalls ++ [lineTick 13]) ∧
    AcceptedAt halfStream 0 stalledCalls ⟨0, 4, (), 6⟩ 5 ∧
    (StreamRun.after halfStream 0 stalledCalls).state.registers ⟨0, 4, (), 6⟩ (lineTick 13) ∧
    (StreamRun.after halfStream 0 (stalledCalls ++ [lineTick 13])).state.scheduler.kickWall? = some 6 ∧
    ¬ KickedAtRequest halfStream 0 (stalledCalls ++ [lineTick 13]) := by
  have haccepted : AcceptedAt halfStream 0 stalledCalls ⟨0, 4, (), 6⟩ 5 := by
    refine ⟨stalledCalls.take 13, lineTick 11, ⟨stalledCalls.drop 14, rfl⟩, ?_, ?_, ?_⟩
    · decide +kernel
    · decide +kernel
    · decide +kernel
  have hregisters : (StreamRun.after halfStream 0 stalledCalls).state.registers ⟨0, 4, (), 6⟩ (lineTick 13) :=
    ⟨by decide +kernel, by decide +kernel⟩
  refine ⟨executedWhole_of_not_late halfStream 0 (Runs.everyStep_of_take (by decide +kernel)), haccepted, hregisters,
    by decide +kernel, fun h => ?_⟩
  have hkick := (h stalledCalls (lineTick 13) [] rfl _ hregisters).2 5 haccepted
  revert hkick
  decide +kernel

end PolicyRunner.Ensemble
