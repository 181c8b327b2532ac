import RoboticsLab.Recovery.PreviewSource
import RoboticsLab.Stream.RowTiming
import RoboticsLab.Stream.Sections

/-!
# What one call of `next_intent` does

A call raises or returns nothing, recovers, or dispatches (`NextIntent`).  Before the last two it observes the
telemetry, which leaves the stream as it is or invalidates its chunks (`Steady`).

    Sound  : the heartbeat has no gripper target, the chunks are of the current generation
    Recovers s' p : a recovery gives no row; it activates at most an eligible candidate (`Activates`)
    Waiting : a candidate is published and its first row is due
-/

namespace PolicyRunner.Recovery

open ServoHistory (member Numerics observationStamp commandPose)

variable {P R : Type}

/-! ## Commands without grippers -/

def CommandIntent.Clean (i : CommandIntent) : Prop :=
  ∀ arm value, i.arm arm = some value → ∀ m ∈ value, m.1 ≠ "gripper_target"

theorem clean_withoutGrippers (i : CommandIntent) : i.withoutGrippers.Clean := by
  intro arm value hv m hm
  have hmap : (i.arm arm).map withoutGripper = some value := hv
  obtain ⟨old, -, rfl⟩ := Option.map_eq_some_iff.mp hmap
  simpa using (List.mem_filter.mp hm).2

theorem clean_poseTargetArmPayload {values : List Double} {value : Json.Object}
    (h : poseTargetArmPayload values = .ok value) : ∀ m ∈ value, m.1 ≠ "gripper_target" := by
  unfold poseTargetArmPayload at h
  split at h
  · cases h
    simp
  · split at h
    · cases h
      simp
    · cases h

theorem clean_verifiedHeartbeat {np : Numerics} {timeoutSec maxAge now : ℚ} {snapshot : Snapshot} {i : CommandIntent}
    (h : verifiedHeartbeat np timeoutSec maxAge snapshot now = .ok (some i)) : i.Clean := by
  unfold verifiedHeartbeat at h
  dsimp only at h
  split at h
  · cases h
  · split at h
    · cases h
    · cases h
    · split at h
      · cases h
      · split at h
        · cases h
        · cases h
        · cases h
        · cases h
        · cases h
        · cases h
        · rename_i left right _
          cases hl : poseTargetArmPayload left with
          | error e =>
            rw [hl] at h
            cases h
          | ok l =>
            cases hr : poseTargetArmPayload right with
            | error e =>
              rw [hl, hr] at h
              cases h
            | ok r =>
              rw [hl, hr] at h
              obtain rfl := Option.some.inj (Except.ok.inj h)
              intro arm value hv
              cases arm with
              | left =>
                obtain rfl : l = value := Option.some.inj hv
                exact clean_poseTargetArmPayload hl
              | right =>
                obtain rfl : r = value := Option.some.inj hv
                exact clean_poseTargetArmPayload hr

/-! ## The candidate -/

section
variable {cfg : StreamConfig ℚ} {t : RecoveryTick P R ℚ} {s : ChunkStream P R ℚ} {a : ActiveChunk P R}

/-- A candidate is published and its first row is due; the synchronous path does not use the second flag. -/
def Waiting (asynchronous : Bool) (s : ChunkStream P R ℚ) : Prop :=
  s.candidatePublished = true ∧ (asynchronous = true → s.resumeRowPending = true)

/-- The ready chunk and the metadata it was published with, when the call takes it. -/
def readyCandidate (gap : List (ChunkStream.WorkerStep R)) (s : ChunkStream P R ℚ) :
    Option (ActionChunk P R × ChunkMetadata) :=
  match (s.interleave gap).nextChunk, (s.interleave gap).nextChunkMetadata with
  | some c, some m => some (c, m)
  | _, _ => none

structure Activates (t : RecoveryTick P R ℚ) (s s' : ChunkStream P R ℚ) (a : ActiveChunk P R) : Prop where
  unpublished : s.candidatePublished = false
  taken : ∃ m, readyCandidate (t.gap .take) s = some (a.source, m) ∧ m.generation = s.generation ∧
    m.previewRecoveryEpoch = t.epoch ∧ t.minObservationTimeNs < m.observationTimeNs ∧
    (m.observationTimeNs : ℤ) ≤ t.nowNs
  chunk : s'.chunk = some a
  index : s'.chunkIndex = 0
  waiting : ∀ asynchronous, Waiting asynchronous s'

theorem activateChunk_source {c : ActionChunk P R} {now : ℚ} {preserveStepGrid : Bool}
    (h : (s.activateChunk cfg c now preserveStepGrid).chunk = some a) : a.source = c := by
  unfold ChunkStream.activateChunk at h
  dsimp only at h
  split at h
  · cases h
  · obtain rfl := Option.some.inj h
    rfl

theorem previewRecoveryIntent_of_published (h : s.candidatePublished = true) :
    s.previewRecoveryIntent cfg t = s ∧ activatedCandidate cfg t s = none := by
  constructor
  · unfold ChunkStream.previewRecoveryIntent
    rw [if_pos h]
  · unfold activatedCandidate
    rw [if_pos h]

theorem activates_of_activatedCandidate (h : activatedCandidate cfg t s = some a) :
    Activates t s (s.previewRecoveryIntent cfg t) a := by
  unfold activatedCandidate at h
  split at h
  · cases h
  · rename_i hpub
    dsimp only at h
    have hsame := s.sameControl_interleave (t.gap .take)
    split at h
    · cases h
    · rename_i chunk hn
      split at h
      · rename_i helig
        obtain ⟨m, hm, hgen, hepoch, hmin, hnow⟩ := helig
        have hsource : a.source = chunk := activateChunk_source h
        have hmeta : (s.interleave (t.gap .take)).nextChunkMetadata = some m := by
          simpa [ChunkStream.takePrefetched, hn] using hm
        have hsome : ((s.interleave (t.gap .take)).takePrefetched.activateChunk cfg chunk t.now false).chunk.isSome :=
          Option.isSome_iff_exists.mpr ⟨a, h⟩
        have heq : s.previewRecoveryIntent cfg t =
            { (s.interleave (t.gap .take)).takePrefetched.activateChunk cfg chunk t.now false with
              candidatePublished := true
              resumeRowPending := true } := by
          unfold ChunkStream.previewRecoveryIntent
          rw [if_neg hpub]
          dsimp only
          rw [hn]
          dsimp only
          rw [if_pos ⟨m, hm, hgen, hepoch, hmin, hnow⟩, if_pos hsome]
        rw [heq]
        refine ⟨Bool.not_eq_true _ |>.mp hpub, ⟨m, ?_, hgen.trans hsame.generation, hepoch, hmin, hnow⟩, h, ?_, ?_⟩
        · unfold readyCandidate
          rw [hn, hmeta, hsource]
        · exact ChunkStream.activateChunk_index cfg hsome
        · exact fun _ => ⟨rfl, fun _ => rfl⟩
      · cases h

theorem activateChunk_emitted (cfg : StreamConfig ℚ) (s : ChunkStream P R ℚ) (c : ActionChunk P R) (now : ℚ)
    (preserveStepGrid : Bool) :
    (s.activateChunk cfg c now preserveStepGrid).emittedPolicySteps = s.emittedPolicySteps := by
  unfold ChunkStream.activateChunk
  dsimp only
  split
  · rfl
  · rfl

/-- A recovery counts no row, and the only chunk it brings in is the candidate. -/
theorem previewRecoveryIntent_control (cfg : StreamConfig ℚ) (t : RecoveryTick P R ℚ) (s : ChunkStream P R ℚ) :
    (s.previewRecoveryIntent cfg t).emittedPolicySteps = s.emittedPolicySteps ∧
      (activatedCandidate cfg t s = none →
        (s.previewRecoveryIntent cfg t).chunk = s.chunk ∨ (s.previewRecoveryIntent cfg t).chunk = none) := by
  unfold ChunkStream.previewRecoveryIntent
  split
  · exact ⟨rfl, fun _ => .inl rfl⟩
  · rename_i hpub
    dsimp only
    have hsame := s.sameControl_interleave (t.gap .take)
    -- what is left at the end of the call, with a chunk `c` and `n` rows
    have hend : ∀ s₁ : ChunkStream P R ℚ,
        ((s₁.interleave (t.gap .request)).requestPrefetch t.payload).chunk = s₁.chunk ∧
          ((s₁.interleave (t.gap .request)).requestPrefetch t.payload).emittedPolicySteps = s₁.emittedPolicySteps := by
      intro s₁
      have hreq := (s₁.sameControl_interleave (t.gap .request)).trans
        ((s₁.interleave (t.gap .request)).sameControl_requestPrefetch t.payload)
      exact ⟨hreq.chunk, hreq.emittedPolicySteps⟩
    split
    · obtain ⟨hc, he⟩ := hend (s.interleave (t.gap .take)).takePrefetched
      exact ⟨he.trans hsame.emittedPolicySteps, fun _ => .inl (hc.trans hsame.chunk)⟩
    · rename_i chunk hn
      split
      · rename_i helig
        have hemit := activateChunk_emitted cfg (s.interleave (t.gap .take)).takePrefetched chunk t.now false
        split
        · rename_i hsome
          have hact : activatedCandidate cfg t s =
              ((s.interleave (t.gap .take)).takePrefetched.activateChunk cfg chunk t.now false).chunk := by
            unfold activatedCandidate
            rw [if_neg hpub]
            dsimp only
            rw [hn]
            exact if_pos helig
          refine ⟨hemit.trans hsame.emittedPolicySteps, fun hnone => ?_⟩
          rw [← hact, hnone] at hsome
          cases hsome
        · rename_i hexhausted
          obtain ⟨hc, he⟩ := hend
            ((s.interleave (t.gap .take)).takePrefetched.activateChunk cfg chunk t.now false).discardCandidate
          refine ⟨(he.trans hemit).trans hsame.emittedPolicySteps, fun _ => .inr ?_⟩
          exact hc.trans (Option.not_isSome_iff_eq_none.mp hexhausted)
      · obtain ⟨hc, he⟩ := hend (s.interleave (t.gap .take)).takePrefetched.discardCandidate
        exact ⟨he.trans hsame.emittedPolicySteps, fun _ => .inl (hc.trans hsame.chunk)⟩

end

/-! ## What holds between calls -/

namespace Source

variable {cfg : Config} {np : Numerics} {t : Tick P R} {s s' s'' : Source P R}

structure Sound (cfg : Config) (s : Source P R) : Prop where
  heartbeat : ∀ h, s.heartbeat = some h → h.Clean
  labelled : s.stream.Labelled
  aligned : cfg.enableAsyncChunking = true → s.stream.Aligned

/-- The control thread's fields are left as they are, or the chunks are invalidated. -/
structure Steady (cfg : Config) (s s' : Source P R) : Prop where
  sound : s.Sound cfg → s'.Sound cfg
  stream : ChunkStream.SameControl s.stream s'.stream ∨
    s.stream.generation < s'.stream.generation ∧ s'.stream.chunk = none
  emitted : s'.stream.emittedPolicySteps = s.stream.emittedPolicySteps

theorem sound_start : (start : Source P R).Sound cfg := by
  refine ⟨?_, ChunkStream.labelled_start 0, fun _ => ChunkStream.aligned_start 0⟩
  intro h hh
  cases hh

theorem Steady.generation_le (h : Steady cfg s s') : s.stream.generation ≤ s'.stream.generation := by
  rcases h.stream with hsame | ⟨hlt, -⟩
  · exact Nat.le_of_eq hsame.generation.symm
  · omega

theorem Steady.trans (h : Steady cfg s s') (h' : Steady cfg s' s'') : Steady cfg s s'' := by
  refine ⟨fun hs => h'.sound (h.sound hs), ?_, h'.emitted.trans h.emitted⟩
  rcases h'.stream with hsame | ⟨hlt, hnone⟩
  · rcases h.stream with hsame₀ | ⟨hlt, hnone⟩
    · exact .inl (hsame₀.trans hsame)
    · exact .inr ⟨hsame.generation ▸ hlt, hsame.chunk.trans hnone⟩
  · have := h.generation_le
    exact .inr ⟨by omega, hnone⟩

/-- The fields that a recovery reads are not part of what holds. -/
theorem steady_of_eq (hstream : s'.stream = s.stream) (hheartbeat : s'.heartbeat = s.heartbeat) : Steady cfg s s' := by
  refine ⟨fun hs => ⟨?_, ?_, ?_⟩, .inl ?_, by rw [hstream]⟩
  · rw [hheartbeat]
    exact hs.heartbeat
  · rw [hstream]
    exact hs.labelled
  · rw [hstream]
    exact hs.aligned
  · rw [hstream]
    exact s.stream.sameControl_interleave []

theorem steady_invalidatePolicyChunks (s : Source P R) (forRecovery : Bool) :
    Steady cfg s (s.invalidatePolicyChunks forRecovery) := by
  refine ⟨fun hs => ⟨?_, ?_, ?_⟩, .inr ⟨Nat.lt_succ_self _, rfl⟩, rfl⟩
  · intro h hh
    have hkept : (if forRecovery then s.heartbeat else none) = some h := hh
    split at hkept
    · exact hs.heartbeat h hkept
    · cases hkept
  · exact hs.labelled.invalidatePolicyChunks
  · exact fun hasync => (hs.aligned hasync).invalidatePolicyChunks

/-- What an edge keeps of the last step is a heartbeat without the grippers. -/
theorem steady_edge (s : Source P R) : Steady cfg s
    ({ s with
      stream := { s.stream with activeChunkMetadata := none }
      heartbeat := (s.currentStepIntent.map CommandIntent.withoutGrippers).or s.heartbeat
      }.invalidatePolicyChunks true) := by
  refine ⟨fun hs => (steady_invalidatePolicyChunks _ true).sound ⟨?_, ?_, ?_⟩, .inr ⟨Nat.lt_succ_self _, rfl⟩, rfl⟩
  · intro h hh
    cases hc : s.currentStepIntent with
    | none =>
      rw [hc] at hh
      exact hs.heartbeat h hh
    | some current =>
      rw [hc] at hh
      obtain rfl : current.withoutGrippers = h := Option.some.inj hh
      exact clean_withoutGrippers current
  · exact hs.labelled.frame rfl rfl rfl rfl rfl rfl hs.labelled.active
  · intro hasync
    have h := hs.aligned hasync
    exact ⟨⟨h.timed.1, h.timed.2, h.timed.3, h.timed.4⟩, h.placed, h.resume⟩

theorem steady_updatePreviewRecovery (s : Source P R) (b : RecoveryBlock) :
    Steady cfg s (s.updatePreviewRecovery b) := by
  unfold updatePreviewRecovery
  dsimp only
  split
  · exact (steady_edge s).trans (steady_of_eq rfl rfl)
  · exact steady_of_eq rfl rfl

theorem generation_of_recoveryEdge {b : RecoveryBlock} (h : s.recoveryEdge b) :
    s.stream.generation < (s.updatePreviewRecovery b).stream.generation := by
  unfold updatePreviewRecovery
  rw [if_pos h]
  exact Nat.lt_succ_self _

/-- The fields that the recovery writes and the rest of the call reads. -/
structure SameRecovery (s s' : Source P R) : Prop where
  enabled : s'.enabled = s.enabled
  state : s'.state = s.state
  epoch : s'.epoch = s.epoch
  minObservationTimeNs : s'.minObservationTimeNs = s.minObservationTimeNs

theorem SameRecovery.blocked (h : SameRecovery s s') : s'.Blocked ↔ s.Blocked := by
  unfold Blocked
  rw [h.enabled, h.state]

/-- The authority of the grippers and the motion epoch. -/
theorem steady_rest (cfg : Config) (s : Source P R) (t : Tick P R) :
    Steady cfg s ((s.updatePreviewGripperAuthority t.snapshot t.now).handleServerMotionEpoch t.snapshot.payload) ∧
      SameRecovery s
        ((s.updatePreviewGripperAuthority t.snapshot t.now).handleServerMotionEpoch t.snapshot.payload) := by
  have hauth : Steady cfg s (s.updatePreviewGripperAuthority t.snapshot t.now) := steady_of_eq rfl rfl
  unfold handleServerMotionEpoch
  split
  · exact ⟨hauth, ⟨rfl, rfl, rfl, rfl⟩⟩
  · exact ⟨hauth.trans (steady_of_eq rfl rfl), ⟨rfl, rfl, rfl, rfl⟩⟩
  · split
    · exact ⟨hauth, ⟨rfl, rfl, rfl, rfl⟩⟩
    · refine ⟨hauth.trans (Steady.trans ?_ (steady_invalidatePolicyChunks _ false)), ⟨rfl, rfl, rfl, rfl⟩⟩
      exact steady_of_eq rfl rfl

/-! ## Observation -/

/-- Once a recovery was enabled, a profile without one is refused. -/
theorem readRecovery_ne_older (snapshot : Snapshot) (now : ℚ) : readRecovery true snapshot now ≠ .older := by
  unfold readRecovery
  dsimp only
  split
  · split
    · split
      · split
        · simp
        · simp
      · simp
    · simp
  · simp
  · simp

/-- The source has the recovery of the block. -/
structure Reads (b : RecoveryBlock) (s : Source P R) : Prop where
  enabled : s.enabled = true
  state : s.state = some b.state
  epoch : s.epoch = some b.epoch

theorem observe_ready (h : s.observe t = .ready s') : Steady cfg s s' ∧
    (s'.Blocked → ∃ b, readRecovery s.enabled t.snapshot t.now = .block b) ∧
    ∀ b, readRecovery s.enabled t.snapshot t.now = .block b →
      Reads b s' ∧ (s.recoveryEdge b → s.stream.generation < s'.stream.generation) := by
  unfold observe at h
  split at h
  · cases h
  · split at h
    · cases h
    · dsimp only at h
      split at h
      · cases h
      · rename_i hread
        obtain rfl := Observed.ready.inj h
        obtain ⟨hrest, hsame⟩ := steady_rest cfg s t
        refine ⟨hrest, fun hblocked => ?_, fun b hb => ?_⟩
        · have henabled : s.enabled = true := (hsame.blocked.mp hblocked).1
          rw [henabled] at hread
          exact absurd hread (readRecovery_ne_older _ _)
        · rw [hread] at hb
          cases hb
      · rename_i b hread
        obtain rfl := Observed.ready.inj h
        obtain ⟨hrest, hsame⟩ := steady_rest cfg (s.updatePreviewRecovery b) t
        refine ⟨(steady_updatePreviewRecovery s b).trans hrest, fun _ => ⟨b, hread⟩, fun b' hb => ?_⟩
        rw [hread] at hb
        obtain rfl := Reading.block.inj hb
        refine ⟨⟨hsame.enabled, hsame.state, hsame.epoch⟩, fun hedge => ?_⟩
        exact Nat.lt_of_lt_of_le (generation_of_recoveryEdge hedge) hrest.generation_le

/-- All that a call of `next_intent` can do. -/
inductive NextIntent (cfg : Config) (np : Numerics) (t : Tick P R) (s : Source P R) :
    Source P R × Outcome P R → Prop
  | idle (intent : Except PyError (Option CommandIntent)) (h : ∀ i, intent ≠ .ok (some i))
    (hobserve : ∀ s', s.observe t ≠ .ready s') : NextIntent cfg np t s (s, .only intent)
  | recovery {s' : Source P R} (h : s.observe t = .ready s') (hblocked : s'.Blocked) :
    NextIntent cfg np t s (s'.previewRecoveryIntent cfg np t)
  | dispatch {s' : Source P R} (h : s.observe t = .ready s') (hblocked : ¬ s'.Blocked) :
    NextIntent cfg np t s (s'.dispatch cfg t)

theorem nextIntent_effect (cfg : Config) (np : Numerics) (t : Tick P R) (s : Source P R) :
    NextIntent cfg np t s (s.nextIntent cfg np t) := by
  unfold nextIntent
  split
  · rename_i e ho
    refine .idle _ ?_ ?_
    · intro i hi
      cases hi
    · intro s' hs'
      rw [ho] at hs'
      cases hs'
  · rename_i ho
    refine .idle _ ?_ ?_
    · intro i hi
      cases hi
    · intro s' hs'
      rw [ho] at hs'
      cases hs'
  · rename_i s' ho
    by_cases hblocked : s'.Blocked
    · rw [if_pos hblocked]
      exact .recovery ho hblocked
    · rw [if_neg hblocked]
      exact .dispatch ho hblocked

/-! ## Recovery -/

/-- What a call outside of tracking gives. -/
structure Recovers (t : Tick P R) (s : Source P R) (p : Source P R × Outcome P R) : Prop where
  row : p.2.row = none
  dispatched : p.2.dispatched = none
  intent : ∀ i, p.2.intent = .ok (some i) → i.Clean
  emitted : p.1.stream.emittedPolicySteps = s.stream.emittedPolicySteps
  generation : p.1.stream.generation = s.stream.generation
  same : SameRecovery s p.1
  unchanged : p.2.activated = none → p.1.stream.chunk = s.stream.chunk ∨ p.1.stream.chunk = none
  published : s.stream.candidatePublished = true → p.1.stream = s.stream ∧ p.2.activated = none
  activates : ∀ a, p.2.activated = some a →
    s.state = some .waitingFresh ∧ Activates (s.recoveryTick t) s.stream p.1.stream a

/-- A call that leaves the stream and returns a heartbeat. -/
theorem recovers_heartbeat {heartbeat : Option CommandIntent} {intent : Except PyError (Option CommandIntent)}
    (h : ∀ i, intent = .ok (some i) → i.Clean) :
    Recovers t s ({ s with heartbeat := heartbeat }, .only intent) := by
  refine ⟨rfl, rfl, h, rfl, rfl, ⟨rfl, rfl, rfl, rfl⟩, fun _ => .inl rfl, fun _ => ⟨rfl, rfl⟩, ?_⟩
  intro a ha
  cases ha

theorem clean_heartbeat {heartbeat : Option CommandIntent} (hs : s.Sound cfg)
    (h : (match s.heartbeat with
      | some h => Except.ok (some h)
      | none => verifiedHeartbeat np cfg.timeoutSec s.stateMaxAgeSec t.snapshot t.now) = .ok heartbeat) :
    ∀ i, heartbeat = some i → i.Clean := by
  rintro i rfl
  split at h
  · rename_i kept hkept
    obtain rfl := Option.some.inj (Except.ok.inj h)
    exact hs.heartbeat kept hkept
  · exact clean_verifiedHeartbeat h

theorem recovers_previewRecoveryIntent (np : Numerics) (t : Tick P R) (hs : s.Sound cfg) :
    Recovers t s (s.previewRecoveryIntent cfg np t) ∧ (s.previewRecoveryIntent cfg np t).1.Sound cfg := by
  unfold previewRecoveryIntent
  dsimp only
  split
  · rename_i e _
    have herror : ∀ i, (Except.error e : Except PyError (Option CommandIntent)) = .ok (some i) → i.Clean := by
      intro i hi
      cases hi
    exact ⟨recovers_heartbeat herror, hs⟩
  · rename_i heartbeat hheart
    have hclean := clean_heartbeat hs hheart
    have hintent : ∀ i, (Except.ok heartbeat : Except PyError (Option CommandIntent)) = .ok (some i) → i.Clean :=
      fun i hi => hclean i (Except.ok.inj hi)
    split
    · rename_i hstate
      obtain ⟨hemit, hkeep⟩ := previewRecoveryIntent_control cfg.stream (s.recoveryTick t) s.stream
      have hsections : ChunkStream.Sections cfg.stream true s.stream
          (s.stream.previewRecoveryIntent cfg.stream (s.recoveryTick t)) :=
        ChunkStream.sections_previewRecoveryIntent s.stream (s.recoveryTick t)
      refine ⟨⟨rfl, rfl, hintent, hemit, hsections.generation, ⟨rfl, rfl, rfl, rfl⟩, hkeep, ?_, ?_⟩, ?_⟩
      · exact fun hpub => previewRecoveryIntent_of_published hpub
      · exact fun a ha => ⟨hstate, activates_of_activatedCandidate ha⟩
      · exact ⟨hclean, hs.labelled.sections hsections, fun hasync =>
          ((hs.aligned hasync).previewRecoveryIntent cfg.stream (s.recoveryTick t)).1⟩
    · exact ⟨recovers_heartbeat hintent, ⟨hclean, hs.labelled, hs.aligned⟩⟩

/-! ## The synchronous dispatcher -/

/-- It leaves the flags of the handshake, and plays the row at the index or the first one of a new chunk. -/
structure PlaysSync (s s' : ChunkStream P R ℚ) (row : Option (PolicyRow P R)) : Prop where
  published : s'.candidatePublished = s.candidatePublished
  generation : s'.generation = s.generation
  labelled : s.Labelled → s'.Labelled
  index : row = none → s'.chunkIndex = s.chunkIndex ∨ s'.chunkIndex = 0
  row : ∀ r, row = some r → ∃ c i, s'.chunk = some c ∧ r.source = c.source ∧ c.rows[i]? = some r.step ∧
    (i = s.chunkIndex ∨ i = 0)

theorem playsSync_held {s s' : ChunkStream P R ℚ} (hpub : s'.candidatePublished = s.candidatePublished)
    (hgen : s'.generation = s.generation) (hl : s.Labelled → s'.Labelled)
    (hindex : s'.chunkIndex = s.chunkIndex ∨ s'.chunkIndex = 0) : PlaysSync s s' none := by
  refine ⟨hpub, hgen, hl, fun _ => hindex, ?_⟩
  intro r hr
  cases hr

theorem playsSync_syncRow (cfg : Config) (s : ChunkStream P R ℚ) :
    PlaysSync s (syncRow cfg s).1 (syncRow cfg s).2.row? := by
  unfold syncRow
  split
  · exact playsSync_held rfl rfl id (.inl rfl)
  · rename_i c hc
    split
    · rename_i step gripper hstep _
      refine ⟨rfl, rfl, fun h => h.frame rfl rfl rfl rfl rfl rfl h.active, ?_, ?_⟩
      · intro hr
        cases hr
      · intro r hr
        obtain rfl := Option.some.inj hr
        exact ⟨c, s.chunkIndex, hc, rfl, hstep, .inl rfl⟩
    · exact playsSync_held rfl rfl id (.inl rfl)

/-- A new chunk starts at its first row. -/
theorem PlaysSync.of_new {s s₁ s' : ChunkStream P R ℚ} {row : Option (PolicyRow P R)} (h : PlaysSync s₁ s' row)
    (hpub : s₁.candidatePublished = s.candidatePublished) (hgen : s₁.generation = s.generation)
    (hl : s.Labelled → s₁.Labelled) (hindex : s₁.chunkIndex = 0) : PlaysSync s s' row := by
  refine ⟨h.published.trans hpub, h.generation.trans hgen, fun hs => h.labelled (hl hs), ?_, ?_⟩
  · intro hr
    rcases h.index hr with hi | hi
    · exact .inr (hi.trans hindex)
    · exact .inr hi
  · intro r hr
    obtain ⟨c, i, hc, hsource, hstep, hi⟩ := h.row r hr
    refine ⟨c, i, hc, hsource, hstep, .inr ?_⟩
    rcases hi with hi | hi
    · exact hi.trans hindex
    · exact hi

theorem playsSync_nextIntentSync (cfg : Config) (t : Tick P R) (s : ChunkStream P R ℚ) :
    PlaysSync s (nextIntentSync cfg t s).1 (nextIntentSync cfg t s).2.row? := by
  unfold nextIntentSync
  dsimp only
  have hsample : s.Labelled →
      (s.sampleAndAlignChunkTimed ⟨t.now, t.frozen, t.sampled, t.recovery, t.gap⟩).2.Labelled :=
    fun h => h.frame rfl rfl rfl rfl rfl rfl h.active
  split
  · refine playsSync_held rfl rfl (fun h => h.frame rfl rfl rfl rfl rfl rfl ?_) (.inr rfl)
    intro a ha
    cases ha
  · split
    · split
      · exact playsSync_held rfl rfl hsample (.inl rfl)
      · refine playsSync_held rfl rfl (fun h => (hsample h).frame rfl rfl rfl rfl rfl rfl ?_) (.inl rfl)
        intro a ha
        cases ha
      · rename_i chunk hc _
        refine (playsSync_syncRow cfg _).of_new rfl rfl (fun h => (hsample h).frame rfl rfl rfl rfl rfl rfl ?_) rfl
        rintro a ⟨rfl⟩
        exact congrArg StreamRequest.generation (Sampled.chunk_request hc)
    · exact playsSync_syncRow cfg s

/-! ## The streamed dispatcher -/

/-- **The first row.**  With a candidate published, the dispatcher plays its first row. -/
theorem nextIntentStreamed_resume {cfg : StreamConfig ℚ} {t : StreamTick P R ℚ} {s : ChunkStream P R ℚ}
    (h : s.Aligned) (hr : s.resumeRowPending = true) :
    ∃ a r, s.chunk = some a ∧ (s.nextIntentStreamed cfg t).2 = .row r ∧ r.source = a.source ∧
      a.rows[0]? = some r.step ∧ (s.nextIntentStreamed cfg t).1.chunk = some a := by
  obtain ⟨hsome, -, hindex⟩ := h.resume hr
  obtain ⟨a, ha⟩ := Option.isSome_iff_exists.mp hsome
  obtain ⟨start, -, hlt, -⟩ := h.placed a ha
  have hkick := (s.resumeRow cfg t.now).sameControl_kickPrefetch cfg t
  have hchunk : ((s.resumeRow cfg t.now).kickPrefetch cfg t).chunk = some a := hkick.chunk.trans ha
  have hzero : ((s.resumeRow cfg t.now).kickPrefetch cfg t).chunkIndex = 0 := hkick.chunkIndex
  have hin : ((s.resumeRow cfg t.now).kickPrefetch cfg t).chunkIndex < a.rows.length := by omega
  obtain ⟨step, gripper, hstep, -, heq⟩ := ChunkStream.emitRow_eq cfg hchunk hin
  have hcall : s.nextIntentStreamed cfg t = ((s.resumeRow cfg t.now).kickPrefetch cfg t).emitRow cfg := by
    unfold ChunkStream.nextIntentStreamed
    rw [ha]
    dsimp only
    rw [if_pos hr]
    rfl
  rw [hcall, heq]
  rw [hzero] at hstep
  exact ⟨a, _, ha, rfl, rfl, hstep, hchunk⟩

/-! ## Dispatch -/

/-- What a call in tracking gives. -/
structure Dispatches (cfg : Config) (s : Source P R) (p : Source P R × Outcome P R) : Prop where
  sound : p.1.Sound cfg
  generation : p.1.stream.generation = s.stream.generation
  same : SameRecovery s p.1
  activated : p.2.activated = none
  streamed : cfg.enableAsyncChunking = true → s.stream.resumeRowPending = true →
    ∃ a r, s.stream.chunk = some a ∧ p.2.row = some r ∧ r.source = a.source ∧ a.rows[0]? = some r.step ∧
      p.1.stream.chunk = some a
  synchronous : cfg.enableAsyncChunking = false → PlaysSync s.stream p.1.stream p.2.row

theorem dispatchResult_row (cfg : Config) (s : Source P R) (t : Tick P R) (d : Dispatched P R) :
    (s.dispatchResult cfg t d).row = d.row? ∧ (s.dispatchResult cfg t d).activated = none := by
  cases d with
  | held => exact ⟨rfl, rfl⟩
  | row r => exact ⟨rfl, rfl⟩
  | inferenceRaised => exact ⟨rfl, rfl⟩
  | indexError => exact ⟨rfl, rfl⟩

theorem dispatches (t : Tick P R) (hs : s.Sound cfg) : Dispatches cfg s (s.dispatch cfg t) := by
  unfold dispatch
  dsimp only
  by_cases hasync : cfg.enableAsyncChunking = true
  · rw [if_pos hasync]
    have haligned := hs.aligned hasync
    have hsections : ChunkStream.Sections cfg.stream true s.stream (s.stream.nextIntentStreamed cfg.stream
        ⟨t.now, t.frozen, t.sampled, t.recovery, t.gap⟩).1 := ChunkStream.sections_nextIntentStreamed s.stream _
    refine ⟨⟨hs.heartbeat, hs.labelled.sections hsections, fun _ => ?_⟩, hsections.generation, ⟨rfl, rfl, rfl, rfl⟩,
      (dispatchResult_row cfg s t _).2, ?_, ?_⟩
    · exact (haligned.nextIntentStreamed cfg.stream _).1
    · intro _ hr
      obtain ⟨a, r, ha, hrow, hsource, hstep, hafter⟩ := nextIntentStreamed_resume haligned hr
      refine ⟨a, r, ha, ?_, hsource, hstep, hafter⟩
      rw [(dispatchResult_row cfg s t _).1, hrow]
      rfl
    · intro hsync
      rw [hasync] at hsync
      cases hsync
  · rw [if_neg hasync]
    have hplays := playsSync_nextIntentSync cfg t s.stream
    refine ⟨⟨hs.heartbeat, hplays.labelled hs.labelled, fun h => absurd h hasync⟩, hplays.generation,
      ⟨rfl, rfl, rfl, rfl⟩, (dispatchResult_row cfg s t _).2, fun h => absurd h hasync, fun _ => ?_⟩
    rw [(dispatchResult_row cfg s t _).1]
    exact hplays

end Source

end PolicyRunner.Recovery
