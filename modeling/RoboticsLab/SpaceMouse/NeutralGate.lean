import RoboticsLab.SpaceMouse.SideRecords

/-!
# The neutral gate

Without a deadman the arm must have read a neutral cap for `startup_neutral_hold_sec` before it gets a pose, and again
after the device was lost.  A read without a sample resets an active arm, and leaves an idle one with the gate it had:
as long as such a read finds the gate of an idle arm shut (`Record.NothingShut`), every pose has its neutral interval.

Every pose is within the lead of the live pose that its last move was clamped to, where the clamp is exact.
-/

namespace PolicyRunner.PoseTarget

/-! ## Observations -/

/-- The device is lost (no sample, a stale one, a raising read) or reassigned. -/
def SideOp.Loses (cfg : SourceConfig) : SideOp → Prop
  | .read now input => match input.read with
    | .raised _ => True
    | .nothing => True
    | .sample s => s.Stale cfg now
  | .resetAll => True
  | .resetEngagement => False
  | .idle => False

/-- When the reader was read. -/
def SideOp.time? : SideOp → Option ℝ
  | .read now _ => some now
  | .resetAll => none
  | .resetEngagement => none
  | .idle => none

/-- A read, if it is one, at or below the deadband. -/
def SideOp.WithinDeadband (cfg : SourceConfig) (op : SideOp) : Prop :=
  ∀ now input, op = .read now input → ∃ s, input.read = .sample s ∧ rawMagnitude s ≤ cfg.deadband

/-- Nothing lost, and each read at or below the deadband. -/
def Neutral (cfg : SourceConfig) (recs : List Record) : Prop :=
  ∀ r ∈ recs, ¬ r.op.Loses cfg ∧ r.op.WithinDeadband cfg

def readTimes (recs : List Record) : List ℝ := recs.filterMap fun r => r.op.time?

/-- Since the last loss, every read is at or below the deadband from a first one to a last one, the hold apart. -/
def GateOpened (cfg : SourceConfig) (recs : List Record) : Prop :=
  ∃ xs ys zs first last, recs = xs ++ ys ++ zs ∧ Neutral cfg ys ∧ (∀ r ∈ zs, ¬ r.op.Loses cfg) ∧
    (readTimes ys).head? = some first ∧ (readTimes ys).getLast? = some last ∧
    cfg.startupNeutralHoldSec ≤ last - first

/-- The record moves the target, for the sample `s` and from the live pose. -/
def Record.Moved (cfg : SourceConfig) (r : Record) (s : SpaceMouseSample) (live : Pose6) : Prop :=
  ∃ now, r.op = .read now ⟨.sample s, some live⟩ ∧ ¬ s.Stale cfg now ∧ MovesTarget cfg r.before s

/-- The target `p` is within the lead of the live pose of the last move. -/
def NearLastMove (cfg : SourceConfig) (recs : List Record) (p : Pose6) : Prop :=
  ∃ pre m post s live, recs = pre ++ m :: post ∧ m.Moved cfg s live ∧ (∀ r ∈ post, ∀ s' live', ¬ r.Moved cfg s' live') ∧
    WithinLead cfg.maxTargetLeadM cfg.maxTargetLeadRad p live

/-- A read without a sample finds the gate of an idle arm shut, and no neutral interval begun. -/
def Record.NothingShut (r : Record) : Prop :=
  ∀ now live, r.op = .read now ⟨.nothing, live⟩ → r.before.active = false → r.before.gate = (false, none)

/-- The clamp of a move is exact. -/
def Record.ExactClamp (cfg : SourceConfig) (r : Record) : Prop :=
  ∀ s live, r.Moved cfg s live → ClampExact cfg.maxTargetLeadRad (composedTarget cfg r.before s live) live

/-! ## The gate -/

theorem readTimes_concat (recs : List Record) (r : Record) :
    readTimes (recs ++ [r]) = readTimes recs ++ r.op.time?.toList := by
  unfold readTimes
  rw [List.filterMap_append]
  cases h : r.op.time? <;> simp [h]

theorem GateOpened.concat {cfg : SourceConfig} {recs : List Record} {r : Record} (h : GateOpened cfg recs)
    (hr : ¬ r.op.Loses cfg) : GateOpened cfg (recs ++ [r]) := by
  obtain ⟨xs, ys, zs, first, last, rfl, hys, hzs, hfirst, hlast, hhold⟩ := h
  refine ⟨xs, ys, zs ++ [r], first, last, List.append_assoc .., hys, ?_, hfirst, hlast, hhold⟩
  intro r' hr'
  rcases List.mem_append.mp hr' with h | h
  · exact hzs r' h
  · rwa [List.mem_singleton.mp h]

/-- A neutral interval begun at `first`. -/
def NeutralSince (cfg : SourceConfig) (recs : List Record) (first : ℝ) : Prop :=
  ∃ xs ys, recs = xs ++ ys ∧ Neutral cfg ys ∧ (readTimes ys).head? = some first

theorem Neutral.concat {cfg : SourceConfig} {recs : List Record} {r : Record} (h : Neutral cfg recs)
    (hr : ¬ r.op.Loses cfg) (hin : r.op.WithinDeadband cfg) : Neutral cfg (recs ++ [r]) := by
  intro r' hr'
  rcases List.mem_append.mp hr' with h' | h'
  · exact h r' h'
  · rw [List.mem_singleton.mp h']
    exact ⟨hr, hin⟩

theorem NeutralSince.concat {cfg : SourceConfig} {recs : List Record} {r : Record} {first : ℝ}
    (h : NeutralSince cfg recs first) (hr : ¬ r.op.Loses cfg) (hin : r.op.WithinDeadband cfg) :
    NeutralSince cfg (recs ++ [r]) first := by
  obtain ⟨xs, ys, rfl, hys, hfirst⟩ := h
  refine ⟨xs, ys ++ [r], List.append_assoc .., hys.concat hr hin, ?_⟩
  rw [readTimes_concat, List.head?_append, hfirst]
  rfl

/-- A neutral read begins an interval, or goes on with the one begun. -/
theorem neutralSince_read {cfg : SourceConfig} {recs : List Record} {r : Record} {since : Option ℝ} {now : ℝ}
    (h : ∀ first, since = some first → NeutralSince cfg recs first) (hr : ¬ r.op.Loses cfg)
    (hin : r.op.WithinDeadband cfg) (htime : r.op.time? = some now) :
    NeutralSince cfg (recs ++ [r]) (since.getD now) := by
  cases since with
  | some first => exact (h first rfl).concat hr hin
  | none =>
    refine ⟨recs, [r], rfl, Neutral.concat (List.forall_mem_nil _) hr hin, ?_⟩
    simp [readTimes, htime]

/-- An interval that the last read closes after the hold. -/
theorem NeutralSince.opened {cfg : SourceConfig} {recs : List Record} {r : Record} {first now : ℝ}
    (h : NeutralSince cfg (recs ++ [r]) first) (htime : r.op.time? = some now)
    (hhold : cfg.startupNeutralHoldSec ≤ now - first) : GateOpened cfg (recs ++ [r]) := by
  obtain ⟨xs, ys, heq, hys, hfirst⟩ := h
  refine ⟨xs, ys, [], first, now, by rw [heq, List.append_nil], hys, by simp, hfirst, ?_, hhold⟩
  -- the interval is not empty, so it ends with `r`
  rcases List.eq_nil_or_concat ys with rfl | ⟨ys, r', rfl⟩
  · simp [readTimes] at hfirst
  · rw [List.concat_eq_append, ← List.append_assoc] at heq
    obtain ⟨-, hlast⟩ := List.append_inj' heq rfl
    rw [List.concat_eq_append, readTimes_concat, ← List.singleton_inj.mp hlast, htime]
    simp

/-- What an arm's gate remembers of its records. -/
structure GateInv (cfg : SourceConfig) (recs : List Record) (st : SideState) : Prop where
  confirmed : st.neutralConfirmed = true → GateOpened cfg recs
  since : st.neutralConfirmed = false → ∀ first, st.neutralSince = some first → NeutralSince cfg recs first

theorem gateInv_shut {cfg : SourceConfig} {recs : List Record} {st : SideState} (h : st.gate = (false, none)) :
    GateInv cfg recs st := by
  obtain ⟨hconfirmed, hsince⟩ := Prod.mk.inj h
  constructor
  · intro h'
    exact absurd h' (by simp [hconfirmed])
  · intro _ first h'
    exact absurd h' (by simp [hsince])

/-- The gate is not touched, and nothing is read. -/
theorem GateInv.idle {cfg : SourceConfig} {recs : List Record} {st st' : SideState} {r : Record}
    (h : GateInv cfg recs st) (hgate : st'.gate = st.gate) (hr : ¬ r.op.Loses cfg) (hin : r.op.WithinDeadband cfg) :
    GateInv cfg (recs ++ [r]) st' := by
  obtain ⟨hconfirmed, hsince⟩ := Prod.mk.inj hgate
  constructor
  · intro h'
    exact (h.confirmed (hconfirmed ▸ h')).concat hr
  · intro h' first hfirst
    exact (h.since (hconfirmed ▸ h') first (hsince ▸ hfirst)).concat hr hin

/-- A fresh sample. -/
theorem GateInv.read {cfg : SourceConfig} (hneutral : cfg.startupRequiresNeutral = true) {recs : List Record}
    {st st' : SideState} {r : Record} {now : ℝ} {s : SpaceMouseSample} {live : Option Pose6} (h : GateInv cfg recs st)
    (hop : r.op = .read now ⟨.sample s, live⟩) (hfresh : ¬ s.Stale cfg now)
    (hgate : st'.gate = (neutralGate cfg (rawMagnitude s) now st).gate) : GateInv cfg (recs ++ [r]) st' := by
  have hr : ¬ r.op.Loses cfg := by
    rw [hop]
    exact hfresh
  have htime : r.op.time? = some now := by
    rw [hop]
    rfl
  rcases neutralGate_cases hneutral (rawMagnitude s) now st with ⟨hopen, hkept⟩ | ⟨-, -, hshut⟩ | ⟨hwait, hraw, hset⟩
  · -- open already
    have hconfirmed : st'.neutralConfirmed = true := (Prod.mk.inj (hgate.trans hkept)).1.trans hopen
    constructor
    · intro _
      exact (h.confirmed hopen).concat hr
    · intro h'
      exact absurd (hconfirmed.symm.trans h') (by simp)
  · exact gateInv_shut (hgate.trans hshut)
  · have hin : r.op.WithinDeadband cfg := by
      intro now' input hread
      rw [hop] at hread
      cases hread
      exact ⟨s, rfl, hraw⟩
    have hbegun := neutralSince_read (h.since hwait) hr hin htime
    obtain ⟨hconfirmed, hsince⟩ := Prod.mk.inj (hgate.trans hset)
    constructor
    · intro h'
      exact hbegun.opened htime (of_decide_eq_true (hconfirmed.symm.trans h'))
    · intro _ first hfirst
      rw [hsince, Option.some.injEq] at hfirst
      exact hfirst ▸ hbegun

/-- **The gate, step by step.** -/
theorem gate_step {cfg : SourceConfig} (hdeadman : cfg.requireDeadman = false)
    (hneutral : cfg.startupRequiresNeutral = true) (arm : Arm) {recs : List Record} {r : Record}
    (h : GateInv cfg recs r.before) (hshut : r.NothingShut) :
    GateInv cfg (recs ++ [r]) (r.op.apply cfg arm r.before).1 ∧
      ((r.op.apply cfg arm r.before).2.pose.isSome = true → GateOpened cfg (recs ++ [r])) := by
  rcases apply_cases cfg arm r.before r.op with ⟨hnone, hlost, -⟩ | ⟨hnone, hkept, -, hop⟩ |
    ⟨now, s, live, hop, hfresh, heq⟩
  · exact ⟨gateInv_shut hlost, fun hsome => absurd hsome (by simp [hnone])⟩
  · refine ⟨?_, fun hsome => absurd hsome (by simp [hnone])⟩
    rcases hop with hop | hop | ⟨now, live, hop, hidle⟩
    · exact h.idle hkept (by simp [hop, SideOp.Loses]) (by simp [hop, SideOp.WithinDeadband])
    · exact h.idle hkept (by simp [hop, SideOp.Loses]) (by simp [hop, SideOp.WithinDeadband])
    · -- no sample for an idle arm: its gate stays, and was shut
      exact gateInv_shut (hkept.trans (hshut now live hop hidle))
  · obtain ⟨hgate, hopen⟩ := gate_read hdeadman hneutral arm s live now r.before
    rw [heq]
    have hinv := h.read hneutral hop hfresh hgate
    exact ⟨hinv, fun hsome => hinv.confirmed (hopen hsome)⟩

/-! ## The lead -/

/-- What an active arm's target is. -/
def LeadInv (cfg : SourceConfig) (recs : List Record) (st : SideState) : Prop :=
  st.active = true → ∃ p, st.targetPose = some p ∧ NearLastMove cfg recs p

theorem NearLastMove.concat {cfg : SourceConfig} {recs : List Record} {p : Pose6} {r : Record}
    (h : NearLastMove cfg recs p) (hr : ∀ s live, ¬ r.Moved cfg s live) : NearLastMove cfg (recs ++ [r]) p := by
  obtain ⟨pre, m, post, s, live, rfl, hm, hpost, hwithin⟩ := h
  refine ⟨pre, m, post ++ [r], s, live, by simp, hm, ?_, hwithin⟩
  intro r' hr'
  rcases List.mem_append.mp hr' with h | h
  · exact hpost r' h
  · rwa [List.mem_singleton.mp h]

theorem leadInv_idle {cfg : SourceConfig} {recs : List Record} {st : SideState} (h : st.active = false) :
    LeadInv cfg recs st := fun hactive => absurd hactive (by simp [h])

/-- An arm that stays active keeps its target, and the record is no move. -/
theorem LeadInv.keep {cfg : SourceConfig} {recs : List Record} {st st' : SideState} {r : Record}
    (h : LeadInv cfg recs st) (hkept : st'.active = true → st'.motion = st.motion)
    (hr : ∀ s live, ¬ r.Moved cfg s live) : LeadInv cfg (recs ++ [r]) st' := by
  intro hactive
  obtain ⟨hon, htarget⟩ := Prod.mk.inj (hkept hactive)
  obtain ⟨p, hp, hnear⟩ := h (hon ▸ hactive)
  exact ⟨p, htarget.trans hp, hnear.concat hr⟩

/-- Only a fresh sample with a live pose moves. -/
theorem not_moved {cfg : SourceConfig} {r : Record}
    (h : ∀ now s live, r.op = .read now ⟨.sample s, some live⟩ → ¬ MovesTarget cfg r.before s) :
    ∀ s live, ¬ r.Moved cfg s live := by
  rintro s live ⟨now, hop, -, hmoves⟩
  exact h now s live hop hmoves

/-- **The lead, step by step.** -/
theorem lead_step {cfg : SourceConfig} (hdeadman : cfg.requireDeadman = false)
    (hneutral : cfg.startupRequiresNeutral = true) (arm : Arm) {recs : List Record} {r : Record}
    (h : LeadInv cfg recs r.before) (hexact : r.ExactClamp cfg) :
    LeadInv cfg (recs ++ [r]) (r.op.apply cfg arm r.before).1 ∧
      ∀ p, (r.op.apply cfg arm r.before).2.pose = some p → NearLastMove cfg (recs ++ [r]) p := by
  rcases apply_cases cfg arm r.before r.op with ⟨hnone, -, hidle⟩ | ⟨hnone, -, hkept, hop⟩ |
    ⟨now, s, live, hop, hfresh, heq⟩
  · exact ⟨leadInv_idle hidle, fun p hp => absurd hp (by simp [hnone])⟩
  · refine ⟨h.keep hkept (not_moved ?_), fun p hp => absurd hp (by simp [hnone])⟩
    rcases hop with hop | hop | ⟨now, live, hop, -⟩
    all_goals simp [hop]
  · have hread : ∀ now' s' live', r.op = .read now' ⟨.sample s', some live'⟩ → s' = s ∧ live = some live' := by
      intro now' s' live' hop'
      rw [hop] at hop'
      cases hop'
      exact ⟨rfl, rfl⟩
    rw [heq]
    rcases motion_read hdeadman hneutral arm s live now r.before with ⟨hstill, hnone, hkept⟩ |
      ⟨livePose, rfl, hmoves, hp, hset⟩ | ⟨hactive, hstill, livePose, hp, hset⟩
    · refine ⟨h.keep hkept (not_moved fun now' s' live' hop' => ?_), fun p hp => absurd hp (by simp [hnone])⟩
      obtain ⟨rfl, rfl⟩ := hread now' s' live' hop'
      exact hstill.resolve_left (by simp)
    · -- a move: clamped to this tick's live pose
      have hmoved : r.Moved cfg s livePose := ⟨now, hop, hfresh, hmoves⟩
      have hwithin := clampTargetLead_within cfg.maxTargetLeadM_nonneg cfg.maxTargetLeadRad_nonneg
        (hexact s livePose hmoved)
      have hnear : NearLastMove cfg (recs ++ [r]) (clampTargetLead (composedTarget cfg r.before s livePose) livePose
          cfg.maxTargetLeadM cfg.maxTargetLeadRad) := ⟨recs, r, [], s, livePose, rfl, hmoved, by simp, hwithin⟩
      refine ⟨fun _ => ⟨_, hset.trans hp, hnear⟩, fun p hp' => ?_⟩
      rw [← Option.some.inj (hp.symm.trans hp')]
      exact hnear
    · -- the active arm's target once more
      obtain ⟨target, htarget, hnear⟩ := h hactive
      rw [htarget, Option.getD_some] at hp
      have hstays : NearLastMove cfg (recs ++ [r]) target := by
        refine hnear.concat (not_moved fun now' s' live' hop' => ?_)
        rw [(hread now' s' live' hop').1]
        exact hstill
      refine ⟨fun _ => ⟨target, hset.trans hp, hstays⟩, fun p hp' => ?_⟩
      rw [← Option.some.inj (hp.symm.trans hp')]
      exact hstays

/-! ## Every run -/

/-- A source without a deadman, with a neutral hold of 0.3 s. -/
def capConfig : SourceConfig where
  maxLinearStepM := 0.001
  maxAngularStepRad := 0.01
  deadband := 0.08
  responseCurveGamma := 3
  linearAxisSigns := fun _ => 1
  angularAxisSigns := fun _ => 1
  angularAxisOrder := id
  maxTargetLeadM := 0.05
  maxTargetLeadRad := 0
  activationDeadband := 0.12
  sampleStaleTimeoutSec := 0.05
  requireDeadman := false
  startupRequiresNeutral := true
  startupNeutralHoldSec := 0.3
  deadmanButton := fun _ => 0
  gripperButtonsEnable := false
  gripperOpenButton := 0
  gripperCloseButton := 1
  gripperOpenPercent := 100
  gripperClosePercent := 10
  maxLinearStepM_nonneg := by norm_num
  maxAngularStepRad_nonneg := by norm_num
  maxTargetLeadM_nonneg := by norm_num
  maxTargetLeadRad_nonneg := by norm_num
  deadband_nonneg := by norm_num
  one_le_responseCurveGamma := by norm_num
  linearAxisSigns_mem := fun _ => .inl rfl
  angularAxisSigns_mem := fun _ => .inl rfl
  angularAxisOrder_bijective := Function.bijective_id
  sampleStaleTimeoutSec_pos := by norm_num
  activationDeadband_nonneg := by norm_num
  startupNeutralHoldSec_nonneg := by norm_num
  gripperButtons_differ := by decide
  gripperOpenPercent_mem := by norm_num
  gripperClosePercent_mem := by norm_num

/-- The cap at `tx`, read at once, with the arm at the origin. -/
def capAt (tx now : ℝ) : Event := .tick now fun _ => ⟨.sample ⟨tx, 0, 0, 0, 0, 0, [], now⟩, some ⟨0, 0, 0, 0, 0, 0⟩⟩

/-- A tick whose readers have no sample. -/
def noSampleAt (now : ℝ) : Event := .tick now fun _ => ⟨.nothing, some ⟨0, 0, 0, 0, 0, 0⟩⟩

/-- A source with both arms in one state. -/
def bothArms (st : SideState) : Source := ⟨st, st, false, false, none⟩

theorem step_bothArms {st st' : SideState} {result : SideResult} {now : ℝ} {input : SideInput}
    (h : ∀ arm, targetFromReader capConfig arm input now st = (st', result)) (hok : result.failure = false) :
    step capConfig (bothArms st) (.tick now fun _ => input) = (bothArms st', intentOf result result) := by
  simp [step, nextIntent, bothArms, h, hok]

/-- The first neutral read begins the hold. -/
theorem neutral_begins (arm : Arm) :
    targetFromReader capConfig arm ⟨.sample ⟨0, 0, 0, 0, 0, 0, [], 0⟩, some ⟨0, 0, 0, 0, 0, 0⟩⟩ 0 .fresh =
      (⟨false, none, false, false, some 0, []⟩, {}) := by
  have hfresh : ¬ (⟨0, 0, 0, 0, 0, 0, [], 0⟩ : SpaceMouseSample).Stale capConfig 0 := by
    norm_num [SpaceMouseSample.Stale, capConfig]
  unfold targetFromReader
  dsimp only
  rw [if_neg hfresh]
  norm_num [targetFromSample, gripperTargetFromButtons, neutralGate, rawMagnitude, capConfig, SideState.fresh]

/-- The one 0.3 s later opens the gate. -/
theorem neutral_opens (arm : Arm) :
    targetFromReader capConfig arm ⟨.sample ⟨0, 0, 0, 0, 0, 0, [], 0.3⟩, some ⟨0, 0, 0, 0, 0, 0⟩⟩ 0.3
      ⟨false, none, false, false, some 0, []⟩ = (⟨false, none, false, true, some 0, []⟩, {}) := by
  have hfresh : ¬ (⟨0, 0, 0, 0, 0, 0, [], 0.3⟩ : SpaceMouseSample).Stale capConfig 0.3 := by
    norm_num [SpaceMouseSample.Stale, capConfig]
  unfold targetFromReader
  dsimp only
  rw [if_neg hfresh]
  norm_num [targetFromSample, gripperTargetFromButtons, neutralGate, rawMagnitude, capConfig]

/-- The deflected cap makes a step. -/
theorem deflected_moves (now : ℝ) :
    (poseDeltaFromSample capConfig.toStepConfig ⟨1, 0, 0, 0, 0, 0, [], now⟩).Moves := by
  refine .inl ?_
  norm_num [poseDeltaFromSample, applySoftDeadband, clampStep, capConfig]

/-- The target that the deflected cap makes of the origin. -/
noncomputable def deflectedTarget (now : ℝ) : Pose6 :=
  clampTargetLead (composedTarget capConfig ⟨false, none, false, true, some 0, []⟩ ⟨1, 0, 0, 0, 0, 0, [], now⟩
    ⟨0, 0, 0, 0, 0, 0⟩) ⟨0, 0, 0, 0, 0, 0⟩ capConfig.maxTargetLeadM capConfig.maxTargetLeadRad

/-- With the gate open, the deflected cap gives a pose. -/
theorem deflected_poses (arm : Arm) (now : ℝ) :
    targetFromReader capConfig arm ⟨.sample ⟨1, 0, 0, 0, 0, 0, [], now⟩, some ⟨0, 0, 0, 0, 0, 0⟩⟩ now
      ⟨false, none, false, true, some 0, []⟩ =
      (⟨true, some (deflectedTarget now), false, true, some 0, []⟩, { pose := some (deflectedTarget now) }) := by
  have hfresh : ¬ (⟨1, 0, 0, 0, 0, 0, [], now⟩ : SpaceMouseSample).Stale capConfig now := by
    norm_num [SpaceMouseSample.Stale, capConfig]
  have hmoves := deflected_moves now
  have hbeyond : ¬ rawMagnitude ⟨1, 0, 0, 0, 0, 0, [], now⟩ ≤ capConfig.activationDeadband := by
    norm_num [rawMagnitude, capConfig]
  unfold targetFromReader
  dsimp only
  rw [if_neg hfresh]
  unfold targetFromSample gripperTargetFromButtons
  dsimp only
  rw [if_pos (show capConfig.gripperButtonsEnable = false from rfl),
    if_neg (show ¬ capConfig.requireDeadman = true from Bool.false_ne_true)]
  dsimp only
  have hgate : neutralGate capConfig (rawMagnitude ⟨1, 0, 0, 0, 0, 0, [], now⟩) now
      ⟨false, none, false, true, some 0, []⟩ = ⟨false, none, false, true, some 0, []⟩ := by
    simp [neutralGate]
  rw [hgate, if_neg (by simp), if_neg fun h => hbeyond h.2]
  unfold advance
  dsimp only
  rw [if_neg fun h => h.2 hmoves, if_pos hmoves]
  rfl

/-- The run that opens the gate, and goes on. -/
theorem records_opened (events : List Event) :
    ∃ r₁ r₂, (∀ now live, r₁.op ≠ .read now ⟨.nothing, live⟩) ∧
      (∀ now live, r₂.op ≠ .read now ⟨.nothing, live⟩) ∧ r₁.before.neutralConfirmed = false ∧
      r₂.before.neutralConfirmed = false ∧
      records capConfig .left (capAt 0 0 :: capAt 0 0.3 :: events) .start =
        r₁ :: r₂ :: records capConfig .left events (bothArms ⟨false, none, false, true, some 0, []⟩) := by
  have hfirst : (step capConfig .start (capAt 0 0)).1 = bothArms ⟨false, none, false, false, some 0, []⟩ := by
    rw [capAt, show Source.start = bothArms .fresh from rfl, step_bothArms neutral_begins rfl]
  have hsecond : (step capConfig (bothArms ⟨false, none, false, false, some 0, []⟩) (capAt 0 0.3)).1 =
      bothArms ⟨false, none, false, true, some 0, []⟩ := by
    rw [capAt, step_bothArms neutral_opens rfl]
  refine ⟨record capConfig .left .start (capAt 0 0),
    record capConfig .left (bothArms ⟨false, none, false, false, some 0, []⟩) (capAt 0 0.3), ?_, ?_, rfl, rfl, ?_⟩
  · simp [record, sideOp, capAt, Source.start]
  · simp [record, sideOp, capAt, bothArms]
  · rw [records, records, hfirst, hsecond]

/-- The deflected cap's record. -/
theorem record_deflected (now : ℝ) :
    (record capConfig .left (bothArms ⟨false, none, false, true, some 0, []⟩) (capAt 1 now)).emitted =
      some (deflectedTarget now) := by
  rw [record, capAt, step_bothArms (deflected_poses · now) rfl]
  rfl

/-- The clamp is exact at the origin. -/
theorem clampExact_origin (target : Pose6) : ClampExact 0 target ⟨0, 0, 0, 0, 0, 0⟩ := by
  refine ⟨.inl rfl, .inr ?_⟩
  have hlive : clampRotation target ⟨0, 0, 0, 0, 0, 0⟩ 0 = rpyToMatrix 0 0 0 := by
    unfold clampRotation
    dsimp only
    rw [if_pos rfl]
    rfl
  have hlevel : rpyToMatrix 0 0 0 2 0 = -Real.sin 0 := rfl
  rw [hlive, pitchOf, hlevel]
  norm_num

theorem not_gateOpened {cfg : SourceConfig} {pre : List Record} {lost r : Record} (hlost : lost.op.Loses cfg)
    (hr : ¬ r.op.WithinDeadband cfg) : ¬ GateOpened cfg (pre ++ [lost] ++ [r]) := by
  rintro ⟨xs, ys, zs, first, last, heq, hys, hzs, hfirst, -, -⟩
  have hlast : ∀ {xs' ys' : List Record} {r' : Record}, xs' ++ [r'] = xs ++ ys' → ys' ≠ [] → r' ∈ ys' := by
    intro xs' ys' r' h hne
    have hmem := List.getLast_mem hne
    have hsame : (xs ++ ys').getLast? = some r' := by rw [← h, List.getLast?_concat]
    rw [List.getLast?_append_of_ne_nil _ hne, List.getLast?_eq_some_getLast hne, Option.some.injEq] at hsame
    exact hsame ▸ hmem
  have hne : ys ≠ [] := by
    rintro rfl
    simp [readTimes] at hfirst
  rcases List.eq_nil_or_concat zs with rfl | ⟨zs, r', rfl⟩
  · rw [List.append_nil] at heq
    exact hr (hys r (hlast heq hne)).2
  · rw [List.concat_eq_append, ← List.append_assoc] at heq
    obtain ⟨hbefore, -⟩ := List.append_inj' heq rfl
    rw [List.append_assoc] at hbefore
    rcases List.mem_append.mp (hlast hbefore (by simp [hne])) with h | h
    · exact (hys lost h).1 hlost
    · exact hzs lost (by simp [h]) hlost

end PolicyRunner.PoseTarget
