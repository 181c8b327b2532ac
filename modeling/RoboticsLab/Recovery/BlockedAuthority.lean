import RoboticsLab.Lib.Runs
import RoboticsLab.Recovery.Handshake

/-!
# Outside of tracking the policy has no authority

Over whole runs of `next_intent`, the worker, suspensions, init motions and `close`, with any telemetry:

    authority : outside of tracking a call gives no gripper target, dispatches no row and counts none
    candidate : a chunk that a recovery activates is an eligible candidate, in `waiting_fresh`
    once      : two activations have an invalidation or an emitted row between them
    firstRow  : the first row that is emitted after an activation is the candidate's row 0, in tracking
    resumed   : the streamed dispatcher emits it at the next tick in tracking
    fresh     : a chunk requested before an epoch change or a stop is not active after it

A candidate stays published until its first row is played (`keepsWaiting_call`), which ends the handshake: a server
that goes back to `waiting_fresh` in the same epoch gets another candidate.
-/

namespace PolicyRunner.Recovery

open Runs
open ServoHistory (Numerics)

variable {P R : Type}

namespace Source

variable {cfg : Config} {np : Numerics} {s s' : Source P R}

/-! ## One call -/

/-- The calls other than `next_intent` leave the chunks or invalidate them. -/
theorem steady_call (cfg : Config) (np : Numerics) (s : Source P R) (x : Call P R) (hx : ∀ t, x ≠ .nextIntent t) :
    Steady cfg s (s.call cfg np x).1 ∧ (s.call cfg np x).2 = .only (.ok none) := by
  cases x with
  | nextIntent t => exact absurd rfl (hx t)
  | worker w =>
    have hsame := s.stream.sameControl_workerStep w
    refine ⟨⟨fun hs => ⟨hs.heartbeat, hs.labelled.workerStep w, fun hasync => ?_⟩, .inl hsame, ?_⟩, rfl⟩
    · exact (hs.aligned hasync).workerStep w
    · exact hsame.emittedPolicySteps
  | suspend arms passive =>
    refine ⟨?_, rfl⟩
    unfold call
    dsimp only
    split
    · exact (steady_invalidatePolicyChunks s false).trans (steady_of_eq rfl rfl)
    · exact steady_of_eq rfl rfl
  | initMotion => exact ⟨steady_invalidatePolicyChunks s false, rfl⟩
  | close =>
    refine ⟨⟨fun hs => ⟨hs.heartbeat, ?_, fun hasync => ?_⟩, .inl ?_, rfl⟩, rfl⟩
    · exact hs.labelled.frame rfl rfl rfl rfl rfl rfl hs.labelled.active
    · have h := hs.aligned hasync
      exact ⟨⟨h.timed.1, h.timed.2, h.timed.3, h.timed.4⟩, h.placed, h.resume⟩
    · exact ⟨rfl, rfl, rfl, rfl, rfl, rfl, rfl, rfl⟩

/-- All that a call can do to the stream. -/
inductive Effect (cfg : Config) (s : Source P R) : Source P R × Outcome P R → Prop
  | steady {s' : Source P R} {intent : Except PyError (Option CommandIntent)} (h : Steady cfg s s') :
    Effect cfg s (s', .only intent)
  | recovers {t : Tick P R} {s' : Source P R} {p : Source P R × Outcome P R} (h : Steady cfg s s')
    (hr : Recovers t s' p) : Effect cfg s p
  | dispatches {s' : Source P R} {p : Source P R × Outcome P R} (h : Steady cfg s s') (hd : Dispatches cfg s' p) :
    Effect cfg s p

/-- **One call.** -/
theorem call_effect (np : Numerics) (hs : s.Sound cfg) (x : Call P R) :
    Effect cfg s (s.call cfg np x) ∧ (s.call cfg np x).1.Sound cfg := by
  by_cases hx : ∃ t, x = .nextIntent t
  · obtain ⟨t, rfl⟩ := hx
    have heff := nextIntent_effect cfg np t s
    show Effect cfg s (s.nextIntent cfg np t) ∧ (s.nextIntent cfg np t).1.Sound cfg
    revert heff
    generalize s.nextIntent cfg np t = p
    intro heff
    cases heff with
    | idle intent _ _ => exact ⟨.steady (steady_of_eq rfl rfl), hs⟩
    | recovery ho _ =>
      have hsteady : Steady cfg s _ := (observe_ready ho).1
      have hrec := recovers_previewRecoveryIntent np t (hsteady.sound hs)
      exact ⟨.recovers hsteady hrec.1, hrec.2⟩
    | dispatch ho _ =>
      have hsteady : Steady cfg s _ := (observe_ready ho).1
      have hdisp := dispatches t (hsteady.sound hs)
      exact ⟨.dispatches hsteady hdisp, hdisp.sound⟩
  · have hsteady := steady_call cfg np s x fun t ht => hx ⟨t, ht⟩
    refine ⟨?_, hsteady.1.sound hs⟩
    have heq : s.call cfg np x = ((s.call cfg np x).1, .only (.ok none)) := by rw [← hsteady.2]
    rw [heq]
    exact .steady hsteady.1

theorem generation_le_call (np : Numerics) (hs : s.Sound cfg) (x : Call P R) :
    s.stream.generation ≤ (s.call cfg np x).1.stream.generation := by
  have heff := (call_effect np hs x).1
  revert heff
  generalize s.call cfg np x = p
  intro heff
  cases heff with
  | steady h => exact h.generation_le
  | recovers h hr => exact Nat.le_trans h.generation_le (Nat.le_of_eq hr.generation.symm)
  | dispatches h hd => exact Nat.le_trans h.generation_le (Nat.le_of_eq hd.generation.symm)

theorem Steady.same (h : Steady cfg s s') (hgen : s'.stream.generation = s.stream.generation) :
    ChunkStream.SameControl s.stream s'.stream := by
  rcases h.stream with hsame | ⟨hlt, -⟩
  · exact hsame
  · omega

theorem waiting_of_same {asynchronous : Bool} {s s' : ChunkStream P R ℚ} (h : Waiting asynchronous s)
    (hsame : ChunkStream.SameControl s s') : Waiting asynchronous s' :=
  ⟨hsame.candidatePublished.trans h.1, fun hasync => hsame.resumeRowPending.trans (h.2 hasync)⟩

/-- The candidate is active at its first row. -/
def AtFirstRow (a : ActiveChunk P R) (s : ChunkStream P R ℚ) : Prop := s.chunk = some a ∧ s.chunkIndex = 0

/-- What a call does while a candidate is published. -/
structure KeepsWaiting (cfg : Config) (s : ChunkStream P R ℚ) (p : Source P R × Outcome P R) : Prop where
  activated : p.2.activated = none
  waiting : p.2.row = none → Waiting cfg.enableAsyncChunking p.1.stream
  index : ∀ a, AtFirstRow a s → p.2.row = none → p.1.stream.chunk = some a → AtFirstRow a p.1.stream
  chunk : ∀ a, AtFirstRow a s → p.2.row = none → cfg.enableAsyncChunking = true → p.1.stream.chunk = some a
  row : ∀ a r, AtFirstRow a s → p.2.row = some r → p.1.stream.chunk = some a →
    r.source = a.source ∧ a.rows[0]? = some r.step

theorem keepsWaiting_of_same {s : ChunkStream P R ℚ} {p : Source P R × Outcome P R}
    (h : Waiting cfg.enableAsyncChunking s) (hsame : ChunkStream.SameControl s p.1.stream) (hrow : p.2.row = none)
    (hact : p.2.activated = none) : KeepsWaiting cfg s p := by
  refine ⟨hact, fun _ => waiting_of_same h hsame, ?_, ?_, ?_⟩
  · intro a ha _ hc
    exact ⟨hc, hsame.chunkIndex.trans ha.2⟩
  · intro a ha _ _
    exact hsame.chunk.trans ha.1
  · intro a r _ hr _
    rw [hrow] at hr
    cases hr

/-- **The handshake, one call.**  A published candidate is not published again, and it stays at its first row until a
row is played or the chunks are invalidated; only the synchronous path may drop it. -/
theorem keepsWaiting_call (np : Numerics) (hs : s.Sound cfg) (h : Waiting cfg.enableAsyncChunking s.stream)
    (x : Call P R) (hgen : (s.call cfg np x).1.stream.generation = s.stream.generation) :
    KeepsWaiting cfg s.stream (s.call cfg np x) := by
  have heff := (call_effect np hs x).1
  revert heff hgen
  generalize s.call cfg np x = p
  intro hgen heff
  cases heff with
  | steady hst => exact keepsWaiting_of_same h (hst.same hgen) rfl rfl
  | recovers hst hr =>
    have hsame := hst.same (hr.generation.symm.trans hgen)
    obtain ⟨hstream, hact⟩ := hr.published (hsame.candidatePublished.trans h.1)
    refine keepsWaiting_of_same h ?_ hr.row hact
    rw [hstream]
    exact hsame
  | dispatches hst hd =>
    have hsame := hst.same (hd.generation.symm.trans hgen)
    cases hasync : cfg.enableAsyncChunking with
    | true =>
      -- the dispatcher plays the first row at once
      obtain ⟨a, r, ha, hrow, hsource, hstep, -⟩ := hd.streamed hasync (hsame.resumeRowPending.trans (h.2 hasync))
      have hno : p.2.row ≠ none := by
        rw [hrow]
        exact Option.some_ne_none r
      refine ⟨hd.activated, fun hr => absurd hr hno, fun _ _ hr => absurd hr hno, fun _ _ hr => absurd hr hno, ?_⟩
      intro a' r' ha' hr' _
      obtain rfl : r = r' := Option.some.inj (hrow.symm.trans hr')
      obtain rfl : a = a' := Option.some.inj ((ha.symm.trans hsame.chunk).trans ha'.1)
      exact ⟨hsource, hstep⟩
    | false =>
      have hplays := hd.synchronous hasync
      refine ⟨hd.activated, ?_, ?_, ?_, ?_⟩
      · intro _
        refine ⟨(hplays.published.trans hsame.candidatePublished).trans h.1, fun htrue => ?_⟩
        rw [hasync] at htrue
        cases htrue
      · intro a ha hrow hc
        refine ⟨hc, ?_⟩
        rcases hplays.index hrow with hi | hi
        · exact (hi.trans hsame.chunkIndex).trans ha.2
        · exact hi
      · intro _ _ _ htrue
        rw [hasync] at htrue
        cases htrue
      · intro a r ha hrow hc
        obtain ⟨c, i, hc', hsource, hstep, hi⟩ := hplays.row r hrow
        obtain rfl : c = a := Option.some.inj (hc'.symm.trans hc)
        have hzero : i = 0 := by
          rcases hi with hi | hi
          · exact (hi.trans hsame.chunkIndex).trans ha.2
          · exact hi
        rw [hzero] at hstep
        exact ⟨hsource, hstep⟩

/-- A candidate is activated in a recovery, by a source that has read a block. -/
theorem activated_call (hs : s.Sound cfg) {x : Call P R} {a : ActiveChunk P R}
    (h : (s.call cfg np x).2.activated = some a) : ∃ t s' b, x = .nextIntent t ∧ s.observe t = .ready s' ∧
      Reads b s' ∧ s'.Sound cfg ∧ Recovers t s' (s.call cfg np x) := by
  by_cases hx : ∃ t, x = .nextIntent t
  · obtain ⟨t, rfl⟩ := hx
    have heff := nextIntent_effect cfg np t s
    change (s.nextIntent cfg np t).2.activated = some a at h
    show ∃ t' s' b, _ ∧ _ ∧ _ ∧ _ ∧ Recovers t' s' (s.nextIntent cfg np t)
    revert h heff
    generalize s.nextIntent cfg np t = p
    intro heff h
    cases heff with
    | idle intent _ _ => cases h
    | @recovery s' ho hblocked =>
      obtain ⟨hsteady, hblock, hread⟩ : Steady cfg s s' ∧ _ := observe_ready ho
      obtain ⟨b, hb⟩ := hblock hblocked
      have hsound := hsteady.sound hs
      exact ⟨t, s', b, rfl, ho, (hread b hb).1, hsound, (recovers_previewRecoveryIntent np t hsound).1⟩
    | dispatch ho _ =>
      have hsteady : Steady cfg s _ := (observe_ready ho).1
      rw [(dispatches t (hsteady.sound hs)).activated] at h
      cases h
  · rw [(steady_call cfg np s x fun t ht => hx ⟨t, ht⟩).2] at h
    cases h

/-- The call gives the policy no authority; a chunk that is new after it was activated by the recovery. -/
structure Powerless (s : Source P R) (p : Source P R × Outcome P R) : Prop where
  intent : ∀ i, p.2.intent = .ok (some i) → i.Clean
  row : p.2.row = none
  dispatched : p.2.dispatched = none
  emitted : p.1.stream.emittedPolicySteps = s.stream.emittedPolicySteps
  chunk : ∀ a, p.1.stream.chunk = some a → p.2.activated = some a ∨ s.stream.chunk = some a

theorem Steady.chunk (h : Steady cfg s s') {a : ActiveChunk P R} (ha : s'.stream.chunk = some a) :
    s.stream.chunk = some a := by
  rcases h.stream with hsame | ⟨-, hnone⟩
  · exact hsame.chunk.symm.trans ha
  · rw [hnone] at ha
    cases ha

theorem Recovers.powerless {t : Tick P R} {p : Source P R × Outcome P R} (h : Steady cfg s s') (hr : Recovers t s' p) :
    Powerless s p := by
  refine ⟨hr.intent, hr.row, hr.dispatched, hr.emitted.trans h.emitted, fun a ha => ?_⟩
  cases hact : p.2.activated with
  | none =>
    right
    rcases hr.unchanged hact with hkept | hnone
    · exact h.chunk (hkept.symm.trans ha)
    · rw [hnone] at ha
      cases ha
  | some a' =>
    left
    exact (hr.activates a' hact).2.chunk.symm.trans ha

/-- **No authority, one call.** -/
theorem powerless_nextIntent (np : Numerics) (hs : s.Sound cfg) (t : Tick P R)
    (h : (s.nextIntent cfg np t).1.Blocked ∨
      ∃ b, readRecovery s.enabled t.snapshot t.now = .block b ∧ b.state ≠ .tracking) :
    Powerless s (s.nextIntent cfg np t) := by
  have heff := nextIntent_effect cfg np t s
  revert heff h
  generalize s.nextIntent cfg np t = p
  intro h heff
  cases heff with
  | idle intent hintent _ =>
    exact ⟨fun i hi => absurd hi (hintent i), rfl, rfl, rfl, fun a ha => .inr ha⟩
  | @recovery s' ho hblocked =>
    have hsteady : Steady cfg s s' := (observe_ready ho).1
    exact (recovers_previewRecoveryIntent np t (hsteady.sound hs)).1.powerless hsteady
  | @dispatch s' ho hblocked =>
    exfalso
    obtain ⟨hsteady, -, hread⟩ : Steady cfg s s' ∧ _ := observe_ready ho
    apply hblocked
    rcases h with hafter | ⟨b, hb, hstate⟩
    · exact (dispatches t (hsteady.sound hs)).same.blocked.mp hafter
    · refine ⟨(hread b hb).1.enabled, ?_⟩
      rw [(hread b hb).1.state]
      simpa using hstate

/-! ## Runs -/

variable (cfg np)

theorem after_concat (xs : List (Call P R)) (x : Call P R) :
    after cfg np (xs ++ [x]) = ((after cfg np xs).call cfg np x).1 := by
  unfold after
  rw [List.foldl_append]
  rfl

theorem after_sound (xs : List (Call P R)) : (after cfg np xs).Sound cfg := by
  induction xs using List.reverseRecOn with
  | nil => exact sound_start
  | append_singleton xs x ih =>
    rw [after_concat]
    exact (call_effect np ih x).2

theorem generation_le_append (xs ys : List (Call P R)) :
    (after cfg np xs).stream.generation ≤ (after cfg np (xs ++ ys)).stream.generation := by
  induction ys using List.reverseRecOn with
  | nil => rw [List.append_nil]
  | append_singleton ys y ih =>
    rw [← List.append_assoc, after_concat]
    exact Nat.le_trans ih (generation_le_call np (after_sound cfg np _) y)

/-- What the call after the run gives. -/
def outcome (pre : List (Call P R)) (x : Call P R) : Outcome P R := ((after cfg np pre).call cfg np x).2

/-- The tick's recovery state, in the source or in the telemetry that it reads, is not tracking. -/
def BlockedTick (pre : List (Call P R)) (x : Call P R) : Prop :=
  ∃ t, x = .nextIntent t ∧ ((after cfg np (pre ++ [x])).Blocked ∨
    ∃ b, readRecovery (after cfg np pre).enabled t.snapshot t.now = .block b ∧ b.state ≠ .tracking)

/-- The tick goes on to the dispatcher. -/
def TrackingTick (pre : List (Call P R)) (x : Call P R) : Prop :=
  ∃ t s, x = .nextIntent t ∧ (after cfg np pre).observe t = .ready s ∧ ¬ s.Blocked

/-- The chunks are invalidated: the generation is advanced. -/
def Invalidated (pre : List (Call P R)) (x : Call P R) : Prop :=
  (after cfg np (pre ++ [x])).stream.generation ≠ (after cfg np pre).stream.generation

instance (pre : List (Call P R)) (x : Call P R) : Decidable (Invalidated cfg np pre x) :=
  inferInstanceAs (Decidable (_ ≠ _))

/-- The recovery activates the chunk. -/
def Activated (a : ActiveChunk P R) (pre : List (Call P R)) (x : Call P R) : Prop :=
  (outcome cfg np pre x).activated = some a

def Emitted (pre : List (Call P R)) (x : Call P R) : Prop := (outcome cfg np pre x).row.isSome = true

/-- The handshake is over. -/
def Ended (pre : List (Call P R)) (x : Call P R) : Prop := Invalidated cfg np pre x ∨ Emitted cfg np pre x

/-- The ready chunk that the call takes in a recovery, with the metadata it was published with. -/
def candidate (s : Source P R) (t : Tick P R) : Option (ActionChunk P R × ChunkMetadata) :=
  match s.observe t with
  | .ready s => readyCandidate (t.gap .take) s.stream
  | .raised _ => none
  | .suspended => none

/-- The metadata is that of the chunk's request, of the generation and the epoch, and of an observation after the stop
that is not in the future. -/
structure Eligible (s : Source P R) (now : ℚ) (c : ActionChunk P R) (m : ChunkMetadata) : Prop where
  request : ∃ rtcDelay recovery, m = c.request.metadata rtcDelay recovery
  generation : m.generation = s.stream.generation
  epoch : s.epoch = some m.previewRecoveryEpoch
  afterStop : s.minObservationTimeNs < m.observationTimeNs
  observed : (m.observationTimeNs : ℤ) ≤ Json.truncate (now * 10 ^ 9)

/-- The request is queued, at the worker, or that of the ready or the active chunk. -/
def Requested (s : ChunkStream P R ℚ) (r : StreamRequest P) : Prop :=
  r ∈ s.outstanding ∨ ∃ a, s.chunk = some a ∧ a.source.request = r

/-- The call reads another epoch, or that braking or a pause has begun. -/
def StopsPlans (pre : List (Call P R)) (x : Call P R) : Prop :=
  ∃ t s b, x = .nextIntent t ∧ (after cfg np pre).observe t = .ready s ∧
    readRecovery (after cfg np pre).enabled t.snapshot t.now = .block b ∧
      ((after cfg np pre).epoch.isSome = true ∧ (after cfg np pre).epoch ≠ some b.epoch ∨
        (b.state = .braking ∨ b.state = .paused) ∧ (after cfg np pre).state ≠ some b.state)

/-- What a recovery may do, over a run. -/
structure RecoveryBlocks (xs : List (Call P R)) : Prop where
  authority : EveryStep (fun pre x => BlockedTick cfg np pre x →
    Powerless (after cfg np pre) ((after cfg np pre).call cfg np x)) xs
  candidate : EveryStep (fun pre x => ∀ a, Activated cfg np a pre x → ∃ t m, x = .nextIntent t ∧
    (after cfg np (pre ++ [x])).state = some .waitingFresh ∧ (after cfg np pre).candidate t = some (a.source, m) ∧
      Eligible (after cfg np (pre ++ [x])) t.now a.source m) xs
  once : EveryStep (fun pre x => (∃ a, Activated cfg np a pre x) →
    Since (fun pre y => ∃ a, Activated cfg np a pre y) (Ended cfg np) pre → Invalidated cfg np pre x) xs
  firstRow : EveryStep (fun pre x => ∀ a r, Since (Activated cfg np a) (fun pre y => Emitted cfg np pre y ∨
      (after cfg np (pre ++ [y])).stream.chunk ≠ some a) pre →
    (outcome cfg np pre x).row = some r → (after cfg np (pre ++ [x])).stream.chunk = some a →
      ¬ BlockedTick cfg np pre x ∧ r.source = a.source ∧ a.rows[0]? = some r.step) xs
  resumed : cfg.enableAsyncChunking = true → EveryStep (fun pre x => ∀ a,
    Since (Activated cfg np a) (Ended cfg np) pre → TrackingTick cfg np pre x → ¬ Invalidated cfg np pre x →
      ∃ r, (outcome cfg np pre x).row = some r ∧ r.source = a.source ∧ a.rows[0]? = some r.step) xs
  fresh : ∀ pre x post, xs = pre ++ x :: post → StopsPlans cfg np pre x → ∀ old, old <+: pre →
    ∀ r, Requested (after cfg np old).stream r → ∀ a, (after cfg np xs).stream.chunk = some a → a.source.request ≠ r

/-! ## The parts -/

theorem generation_of_not_invalidated (pre : List (Call P R)) (x : Call P R) (h : ¬ Invalidated cfg np pre x) :
    ((after cfg np pre).call cfg np x).1.stream.generation = (after cfg np pre).stream.generation := by
  rw [← after_concat]
  exact not_not.mp h

variable {cfg np}

theorem request_of_readyCandidate {gap : List (ChunkStream.WorkerStep R)} {s : ChunkStream P R ℚ} {c : ActionChunk P R}
    {m : ChunkMetadata} (hs : s.Labelled) (h : readyCandidate gap s = some (c, m)) :
    ∃ rtcDelay recovery, m = c.request.metadata rtcDelay recovery := by
  unfold readyCandidate at h
  split at h
  · rename_i c' m' hc hm
    obtain ⟨rfl, rfl⟩ := Prod.mk.inj (Option.some.inj h)
    obtain ⟨d, recovery, hready⟩ := (hs.interleave gap).ready _ hc
    exact ⟨d, recovery, Option.some.inj (hm.symm.trans hready)⟩
  · cases h

theorem activated_effect {a : ActiveChunk P R} {pre : List (Call P R)} {x : Call P R} (h : Activated cfg np a pre x) :
    (∃ t m, x = .nextIntent t ∧ (after cfg np (pre ++ [x])).state = some .waitingFresh ∧
      (after cfg np pre).candidate t = some (a.source, m) ∧
        Eligible (after cfg np (pre ++ [x])) t.now a.source m) ∧
      Waiting cfg.enableAsyncChunking (after cfg np (pre ++ [x])).stream ∧
      AtFirstRow a (after cfg np (pre ++ [x])).stream := by
  obtain ⟨t, s', b, rfl, ho, hread, hsound, hrec⟩ := activated_call (after_sound cfg np pre) h
  rw [after_concat]
  obtain ⟨hstate, hact⟩ := hrec.activates a h
  obtain ⟨m, hready, hgen, hepoch, hmin, hnow⟩ := hact.taken
  refine ⟨⟨t, m, rfl, hrec.same.state.trans hstate, ?_, ⟨?_, hgen.trans hrec.generation.symm, ?_, ?_, hnow⟩⟩,
    hact.waiting _, hact.chunk, hact.index⟩
  · unfold candidate
    rw [ho]
    exact hready
  · exact request_of_readyCandidate hsound.labelled hready
  · rw [hrec.same.epoch, hread.epoch, hepoch]
    show some b.epoch = some (s'.epoch.getD 0)
    rw [hread.epoch]
    rfl
  · rw [hrec.same.minObservationTimeNs]
    exact Int.ofNat_lt.mp hmin

theorem powerless_of_blockedTick {pre : List (Call P R)} {x : Call P R} (h : BlockedTick cfg np pre x) :
    Powerless (after cfg np pre) ((after cfg np pre).call cfg np x) := by
  obtain ⟨t, rfl, hblocked⟩ := h
  rw [after_concat] at hblocked
  exact powerless_nextIntent np (after_sound cfg np pre) t hblocked

/-- While the handshake goes on. -/
theorem keepsWaiting_after {pre : List (Call P R)} (h : Waiting cfg.enableAsyncChunking (after cfg np pre).stream)
    (x : Call P R) (hx : ¬ Invalidated cfg np pre x) :
    KeepsWaiting cfg (after cfg np pre).stream ((after cfg np pre).call cfg np x) :=
  keepsWaiting_call np (after_sound cfg np pre) h x (generation_of_not_invalidated cfg np pre x hx)

theorem row_of_not_emitted {pre : List (Call P R)} {x : Call P R} (h : ¬ Emitted cfg np pre x) :
    ((after cfg np pre).call cfg np x).2.row = none :=
  Option.not_isSome_iff_eq_none.mp h

theorem waiting_since {xs : List (Call P R)}
    (h : Since (fun pre y => ∃ a, Activated cfg np a pre y) (Ended cfg np) xs) :
    Waiting cfg.enableAsyncChunking (after cfg np xs).stream := by
  refine h.invariant (fun xs => Waiting cfg.enableAsyncChunking (after cfg np xs).stream) ?_ ?_
  · rintro pre x ⟨a, ha⟩
    exact (activated_effect ha).2.1
  · intro pre x hw hend
    obtain ⟨hinv, hrow⟩ := not_or.mp hend
    rw [after_concat]
    exact (keepsWaiting_after hw x hinv).waiting (row_of_not_emitted hrow)

/-- The chunk of a published candidate is of the generation it was activated in. -/
theorem not_invalidated_of_chunk {pre : List (Call P R)} {x : Call P R} {a : ActiveChunk P R}
    (h : (after cfg np pre).stream.chunk = some a) (h' : (after cfg np (pre ++ [x])).stream.chunk = some a) :
    ¬ Invalidated cfg np pre x := by
  have hbefore := (after_sound cfg np pre).labelled.active a h
  have hafter := (after_sound cfg np (pre ++ [x])).labelled.active a h'
  exact not_not.mpr (hafter.symm.trans hbefore)

/-- With its chunk still active, no row played since its activation. -/
theorem atFirstRow_since {xs : List (Call P R)} {a : ActiveChunk P R}
    (h : Since (Activated cfg np a) (fun pre y => Emitted cfg np pre y ∨
      (after cfg np (pre ++ [y])).stream.chunk ≠ some a) xs) :
    Waiting cfg.enableAsyncChunking (after cfg np xs).stream ∧ AtFirstRow a (after cfg np xs).stream := by
  refine h.invariant
    (fun xs => Waiting cfg.enableAsyncChunking (after cfg np xs).stream ∧ AtFirstRow a (after cfg np xs).stream) ?_ ?_
  · intro pre x ha
    exact (activated_effect ha).2
  · rintro pre x ⟨hw, hfirst⟩ hend
    obtain ⟨hrow, hchunk⟩ := not_or.mp hend
    have hafter := not_not.mp hchunk
    have hkeeps := keepsWaiting_after hw x (not_invalidated_of_chunk hfirst.1 hafter)
    rw [after_concat] at hafter ⊢
    exact ⟨hkeeps.waiting (row_of_not_emitted hrow), hkeeps.index a hfirst (row_of_not_emitted hrow) hafter⟩

/-- The streamed dispatcher keeps the chunk as well. -/
theorem atFirstRow_since_streamed {xs : List (Call P R)} {a : ActiveChunk P R} (hasync : cfg.enableAsyncChunking = true)
    (h : Since (Activated cfg np a) (Ended cfg np) xs) :
    Waiting cfg.enableAsyncChunking (after cfg np xs).stream ∧ AtFirstRow a (after cfg np xs).stream := by
  refine h.invariant
    (fun xs => Waiting cfg.enableAsyncChunking (after cfg np xs).stream ∧ AtFirstRow a (after cfg np xs).stream) ?_ ?_
  · intro pre x ha
    exact (activated_effect ha).2
  · rintro pre x ⟨hw, hfirst⟩ hend
    obtain ⟨hinv, hrow⟩ := not_or.mp hend
    have hkeeps := keepsWaiting_after hw x hinv
    have hnone := row_of_not_emitted hrow
    rw [after_concat]
    exact ⟨hkeeps.waiting hnone, hkeeps.index a hfirst hnone (hkeeps.chunk a hfirst hnone hasync)⟩

/-- **The first row, at the next tick in tracking.** -/
theorem resumed_row {pre : List (Call P R)} {x : Call P R} {a : ActiveChunk P R}
    (hasync : cfg.enableAsyncChunking = true) (hw : Waiting cfg.enableAsyncChunking (after cfg np pre).stream)
    (ha : (after cfg np pre).stream.chunk = some a) (ht : TrackingTick cfg np pre x) (hx : ¬ Invalidated cfg np pre x) :
    ∃ r, (outcome cfg np pre x).row = some r ∧ r.source = a.source ∧ a.rows[0]? = some r.step := by
  obtain ⟨t, s', rfl, ho, hblocked⟩ := ht
  have hsteady : Steady cfg (after cfg np pre) s' := (observe_ready ho).1
  have hcall : (after cfg np pre).call cfg np (.nextIntent t) = s'.dispatch cfg t := by
    show (after cfg np pre).nextIntent cfg np t = s'.dispatch cfg t
    unfold nextIntent
    rw [ho]
    exact if_neg hblocked
  have hgen := generation_of_not_invalidated cfg np pre _ hx
  rw [hcall] at hgen
  have hd := dispatches t (hsteady.sound (after_sound cfg np pre))
  have hsame := hsteady.same (hd.generation.symm.trans hgen)
  obtain ⟨a', r, ha', hrow, hsource, hstep, -⟩ := hd.streamed hasync (hsame.resumeRowPending.trans (hw.2 hasync))
  obtain rfl : a = a' := Option.some.inj ((ha.symm.trans hsame.chunk.symm).trans ha')
  refine ⟨r, ?_, hsource, hstep⟩
  unfold outcome
  rw [hcall]
  exact hrow

/-! ## Requests -/

theorem requested_generation {s : ChunkStream P R ℚ} (hs : s.Labelled) {r : StreamRequest P} (h : Requested s r) :
    r.generation ≤ s.generation := by
  rcases h with hout | ⟨a, ha, rfl⟩
  · unfold ChunkStream.outstanding at hout
    rw [List.mem_append, List.mem_append, Option.mem_toList, Option.mem_toList, Option.mem_toList] at hout
    rcases hout with (hr | hr) | hr
    · exact Nat.le_of_eq (hs.sound.request r hr).1
    · exact (hs.sound.worker r hr).1
    · obtain ⟨c, hc, rfl⟩ := Option.map_eq_some_iff.mp hr
      exact Nat.le_of_eq (hs.sound.ready c hc).1.1
  · exact Nat.le_of_eq (hs.active a ha)

/-- **A stop.**  The call that reads it advances the generation. -/
theorem invalidated_of_stopsPlans {pre : List (Call P R)} {x : Call P R} (h : StopsPlans cfg np pre x) :
    (after cfg np pre).stream.generation < (after cfg np (pre ++ [x])).stream.generation := by
  obtain ⟨t, s', b, rfl, ho, hb, hedge⟩ := h
  have hsound := after_sound cfg np pre
  obtain ⟨hsteady, -, hread⟩ : Steady cfg (after cfg np pre) s' ∧ _ := observe_ready ho
  have hrec : (after cfg np pre).recoveryEdge b := by
    rcases hedge with hepoch | hstop
    · exact .inl hepoch
    · exact .inr (.inr hstop)
  have hlt := (hread b hb).2 hrec
  have hcall : ((after cfg np pre).nextIntent cfg np t).1.stream.generation = s'.stream.generation := by
    unfold nextIntent
    rw [ho]
    dsimp only
    split
    · exact (recovers_previewRecoveryIntent np t (hsteady.sound hsound)).1.generation
    · exact (dispatches t (hsteady.sound hsound)).generation
  rw [after_concat]
  exact hcall.symm ▸ hlt

/-! ## The result -/

/-- **Preview recovery blocks the policy's authority**, over every run. -/
theorem recovery_blocks (cfg : Config) (np : Numerics) (xs : List (Call P R)) : RecoveryBlocks cfg np xs := by
  refine ⟨?_, ?_, ?_, ?_, ?_, ?_⟩
  · intro pre x post _ hblocked
    exact powerless_of_blockedTick hblocked
  · intro pre x post _ a ha
    exact (activated_effect ha).1
  · rintro pre x post - ⟨a, ha⟩ hsince
    by_contra hx
    have hnone := (keepsWaiting_after (waiting_since hsince) x hx).activated
    have hsome : ((after cfg np pre).call cfg np x).2.activated = some a := ha
    rw [hnone] at hsome
    cases hsome
  · intro pre x post _ a r hsince hrow hchunk
    obtain ⟨hw, hfirst⟩ := atFirstRow_since hsince
    have hkeeps := keepsWaiting_after hw x (not_invalidated_of_chunk hfirst.1 hchunk)
    rw [after_concat] at hchunk
    refine ⟨fun hblocked => ?_, hkeeps.row a r hfirst hrow hchunk⟩
    have hnone := (powerless_of_blockedTick hblocked).row
    have hsome : ((after cfg np pre).call cfg np x).2.row = some r := hrow
    rw [hnone] at hsome
    cases hsome
  · intro hasync pre x post _ a hsince ht hx
    obtain ⟨hw, hfirst⟩ := atFirstRow_since_streamed hasync hsince
    exact resumed_row hasync hw hfirst.1 ht hx
  · rintro pre x post rfl hstop old ⟨rest, rfl⟩ r hr a ha rfl
    have hold := requested_generation (after_sound cfg np old).labelled hr
    have hnew := (after_sound cfg np _).labelled.active a ha
    have hlt := invalidated_of_stopsPlans hstop
    have hbefore := generation_le_append cfg np old rest
    have hafter := generation_le_append cfg np (old ++ rest ++ [x]) post
    rw [List.append_assoc _ [x] post] at hafter
    change _ ≤ (after cfg np (old ++ rest ++ x :: post)).stream.generation at hafter
    omega

end Source

/-! ## A second candidate in one epoch -/

/-- A streamed source that replans on every ready chunk, with 100 ms for each row. -/
def readyEventConfig : Config where
  stream := ⟨.readyEvent, 1 / 10, 4, none, false, true, 0, true⟩
  enableAsyncChunking := true
  hasCameras := false
  timeoutSec := 1 / 2

/-- No pose is read in the run. -/
def unreadNumerics : Numerics where
  asarray := fun _ => .error .valueError
  norm := fun _ => .fin 0
  divide := fun v _ => v
  slerp := fun _ v _ => v
  bodyDelta := fun v _ => v

/-- Epoch 1, whose stop was at 1 s, as the server has it at 2 s. -/
def recoveryPayload (state : String) : Json.Object :=
  [("chunk_execution_profiles", .arr [.obj
      [("name", .str "flow_infer_preview"), ("enabled", .bool true), ("controller", .str "delta_preview"),
       ("fresh_chunk_replan", .bool true), ("continuous_hold_resume", .bool true), ("preview_execution", .bool true),
       ("gripper_state_max_age_sec", .numFloat (.fin (1 / 2))), ("preview_recovery", .bool true)]]),
   ("preview_recovery", .obj
      [("enabled", .bool true), ("epoch", .numUnsigned 1), ("min_observation_time_ns", .numUnsigned 1000000000),
       ("sample_time_ns", .numUnsigned 2000000000), ("attempts", .numUnsigned 0), ("state", .str state),
       ("reason", .str "")])]

def recoveryCall (state : String) : Call Unit ℕ :=
  .nextIntent ⟨⟨recoveryPayload state, .fin 2⟩, 2, (), .none, ⟨0, 0⟩, fun _ => [], true, none, none⟩

/-- The worker infers three rows from an observation at 1.5 s. -/
def freshInference : List (Call Unit ℕ) :=
  [.worker .takeRequest, .worker (.infer (.rows [0, 1, 2]) none), .worker (.publish ⟨1, 1500000000⟩)]

/-- A candidate is activated, tracking plays its first row, and the server waits again in the same epoch. -/
def repeatedWait : List (Call Unit ℕ) :=
  [recoveryCall "waiting_fresh"] ++ freshInference ++ [recoveryCall "waiting_fresh", recoveryCall "tracking"] ++
    freshInference

/-- The row ends the handshake: a second candidate is activated with no invalidation after the first. -/
theorem second_candidate_same_epoch :
    ¬ EveryStep (fun pre x => (∃ a, Source.Activated readyEventConfig unreadNumerics a pre x) →
      Since (fun pre y => ∃ a, Source.Activated readyEventConfig unreadNumerics a pre y)
        (Source.Invalidated readyEventConfig unreadNumerics) pre →
      Source.Invalidated readyEventConfig unreadNumerics pre x)
      (repeatedWait ++ [recoveryCall "waiting_fresh"]) := by
  intro h
  have hsecond : ∃ a, Source.Activated readyEventConfig unreadNumerics a repeatedWait (recoveryCall "waiting_fresh") :=
    Option.isSome_iff_exists.mp (by decide +kernel)
  have hfirst : ∃ a, Source.Activated readyEventConfig unreadNumerics a
      ([recoveryCall "waiting_fresh"] ++ freshInference) (recoveryCall "waiting_fresh") :=
    Option.isSome_iff_exists.mp (by decide +kernel)
  have hsince : Since (fun pre y => ∃ a, Source.Activated readyEventConfig unreadNumerics a pre y)
      (Source.Invalidated readyEventConfig unreadNumerics) repeatedWait :=
    ⟨[recoveryCall "waiting_fresh"] ++ freshInference, recoveryCall "waiting_fresh",
      recoveryCall "tracking" :: freshInference, rfl, hfirst, everyStep_of_take (by decide +kernel)⟩
  exact h repeatedWait (recoveryCall "waiting_fresh") [] rfl hsecond hsince (by decide +kernel)

end PolicyRunner.Recovery
