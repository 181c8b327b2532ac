import RoboticsLab.SpaceMouse.LeadClamp
import RoboticsLab.SpaceMouse.PoseTargetSource

/-!
# What happens to one arm

Each event is, for one arm, a read or a reset or nothing (`SideOp`), and the arm's state moves by that alone
(`step_side`); a command has a pose for the arm only when the arm's result has (`Record.emitted_pose`).  So a run is for
one arm a list of records.

A read changes the gate only through `neutralGate`, and gives a pose only with the gate open (`gate_read`).  It changes
the target only by a clamped move, else an active arm keeps its target (`motion_read`).
-/

namespace PolicyRunner.PoseTarget

/-! ## Records -/

/-- What an event does to an arm. -/
inductive SideOp
  | read (now : ℝ) (input : SideInput)
  | resetAll
  | resetEngagement
  | idle

noncomputable def SideOp.apply (cfg : SourceConfig) (arm : Arm) (st : SideState) : SideOp → SideState × SideResult
  | .read now input => targetFromReader cfg arm input now st
  | .resetAll => (st.resetAll, {})
  | .resetEngagement => (st.resetEngagement, {})
  | .idle => (st, {})

/-- A pending hold resets instead of reading. -/
def sideOp (arm : Arm) (s : Source) : Event → SideOp
  | .tick now inputs => if s.assignmentHoldPending then .resetAll else .read now (inputs arm)
  | .control handled accepted => if handled && accepted then .resetAll else .idle
  | .resetEngagement => .resetEngagement

theorem step_side (cfg : SourceConfig) (arm : Arm) (s : Source) (e : Event) :
    (step cfg s e).1.side arm = ((sideOp arm s e).apply cfg arm (s.side arm)).1 := by
  cases e with
  | tick now inputs =>
    simp only [step, nextIntent, sideOp]
    cases s.assignmentHoldPending <;> cases arm <;> rfl
  | control handled accepted =>
    simp only [step, handleSpacemouseControl, sideOp]
    cases handled && accepted <;> cases arm <;> rfl
  | resetEngagement => cases arm <;> rfl

/-- One event, as one arm has it. -/
structure Record where
  before : SideState
  op : SideOp
  /-- The pose of the command. -/
  emitted : Option Pose6

noncomputable def record (cfg : SourceConfig) (arm : Arm) (s : Source) (e : Event) : Record where
  before := s.side arm
  op := sideOp arm s e
  emitted := (step cfg s e).2.bind (Intent.pose arm)

/-- The records of a run from `s`. -/
noncomputable def records (cfg : SourceConfig) (arm : Arm) : List Event → Source → List Record
  | [], _ => []
  | e :: events, s => record cfg arm s e :: records cfg arm events (step cfg s e).1

theorem intentOf_pose {left right : SideResult} {intent : Intent} (h : intentOf left right = some intent) (arm : Arm)
    {p : Pose6} (hp : intent.pose arm = some p) :
    (match arm with | .left => left | .right => right).pose = some p := by
  unfold intentOf at h
  split_ifs at h
  all_goals
    cases h
    cases arm <;> first | exact hp | simp [Intent.pose] at hp

/-- A command has a pose for the arm only when the arm's result has. -/
theorem record_pose {cfg : SourceConfig} {arm : Arm} {s : Source} {e : Event} {p : Pose6}
    (h : (record cfg arm s e).emitted = some p) :
    ((record cfg arm s e).op.apply cfg arm (record cfg arm s e).before).2.pose = some p := by
  obtain ⟨intent, hintent, hp⟩ := Option.bind_eq_some_iff.mp h
  cases e with
  | tick now inputs =>
    simp only [step, nextIntent] at hintent
    cases hpending : s.assignmentHoldPending with
    | true =>
      rw [hpending, if_pos rfl] at hintent
      cases hintent
      simp [Intent.pose] at hp
    | false =>
      rw [hpending, if_neg Bool.false_ne_true] at hintent
      have hpose := intentOf_pose hintent arm hp
      simp only [record, sideOp, hpending, Bool.false_eq_true, if_false, SideOp.apply]
      cases arm <;> exact hpose
  | control handled accepted => simp [step] at hintent
  | resetEngagement => simp [step] at hintent

/-- **Along a run.**  An invariant of an arm's records and state that each of its steps keeps, given `C` of the record,
gives `P` of every record. -/
theorem records_invariant {cfg : SourceConfig} {arm : Arm} {C : Record → Prop} {P : List Record → Record → Prop}
    (I : List Record → SideState → Prop)
    (hstep : ∀ recs r, I recs r.before →
      (∀ p, r.emitted = some p → (r.op.apply cfg arm r.before).2.pose = some p) → C r →
      I (recs ++ [r]) (r.op.apply cfg arm r.before).1 ∧ P recs r) :
    ∀ (events : List Event) (s : Source) (recs : List Record), I recs (s.side arm) →
      (∀ r ∈ records cfg arm events s, C r) →
      ∀ pre r post, records cfg arm events s = pre ++ r :: post → P (recs ++ pre) r := by
  intro events
  induction events with
  | nil =>
    intro s recs _ _ pre r post heq
    cases pre <;> simp [records] at heq
  | cons e events ih =>
    intro s recs hI hC pre r post heq
    have hhead := hstep recs (record cfg arm s e) hI (fun p => record_pose) (hC _ (List.mem_cons_self ..))
    rw [records] at heq
    cases pre with
    | nil =>
      obtain ⟨rfl, -⟩ := List.cons.inj heq
      rw [List.append_nil]
      exact hhead.2
    | cons first pre =>
      obtain ⟨rfl, htail⟩ := List.cons.inj heq
      have hnext := ih (step cfg s e).1 (recs ++ [record cfg arm s e]) (by rw [step_side]; exact hhead.1)
        (fun r hr => hC r (List.mem_cons_of_mem _ hr)) pre r post htail
      rw [List.append_assoc] at hnext
      exact hnext

/-! ## One read -/

/-- The gate's part of a state. -/
def SideState.gate (st : SideState) : Bool × Option ℝ := (st.neutralConfirmed, st.neutralSince)

/-- The motion's part of a state. -/
def SideState.motion (st : SideState) : Bool × Option Pose6 := (st.active, st.targetPose)

theorem gripperTargetFromButtons_gate (cfg : SourceConfig) (s : SpaceMouseSample) (st : SideState) :
    (gripperTargetFromButtons cfg s st).1.gate = st.gate := by
  unfold gripperTargetFromButtons
  dsimp only
  split_ifs <;> rfl

theorem gripperTargetFromButtons_motion (cfg : SourceConfig) (s : SpaceMouseSample) (st : SideState) :
    (gripperTargetFromButtons cfg s st).1.motion = st.motion := by
  unfold gripperTargetFromButtons
  dsimp only
  split_ifs <;> rfl

theorem neutralGate_motion (cfg : SourceConfig) (rawMag now : ℝ) (st : SideState) :
    (neutralGate cfg rawMag now st).motion = st.motion := by
  unfold neutralGate
  dsimp only
  split_ifs <;> rfl

theorem advance_gate (cfg : SourceConfig) (s : SpaceMouseSample) (live : Option Pose6) (gripperTarget : Option ℝ)
    (st : SideState) : (advance cfg s live gripperTarget st).1.gate = st.gate := by
  unfold advance
  cases live with
  | none => rfl
  | some livePose =>
    dsimp only
    split_ifs <;> rfl

/-- The gate depends on its own part of the state. -/
theorem neutralGate_gate (cfg : SourceConfig) (rawMag now : ℝ) {st st' : SideState} (h : st.gate = st'.gate) :
    (neutralGate cfg rawMag now st).gate = (neutralGate cfg rawMag now st').gate := by
  obtain ⟨hconfirmed, hsince⟩ := Prod.mk.inj h
  unfold neutralGate
  dsimp only
  rw [hconfirmed, hsince]
  split_ifs
  · rfl
  · simp [SideState.gate]
  · simp [SideState.gate]
  · exact h

/-- The gate with its own part of the state: the hold since the first neutral read. -/
theorem neutralGate_cases {cfg : SourceConfig} (hneutral : cfg.startupRequiresNeutral = true) (rawMag now : ℝ)
    (st : SideState) :
    (st.neutralConfirmed = true ∧ (neutralGate cfg rawMag now st).gate = st.gate) ∨
    (st.neutralConfirmed = false ∧ cfg.deadband < rawMag ∧ (neutralGate cfg rawMag now st).gate = (false, none)) ∨
    (st.neutralConfirmed = false ∧ rawMag ≤ cfg.deadband ∧
      (neutralGate cfg rawMag now st).gate =
        (decide (cfg.startupNeutralHoldSec ≤ now - st.neutralSince.getD now), some (st.neutralSince.getD now))) := by
  unfold neutralGate
  rw [hneutral]
  cases hconfirmed : st.neutralConfirmed with
  | true => exact .inl ⟨rfl, by simp [SideState.gate, hconfirmed]⟩
  | false =>
    by_cases hraw : rawMag ≤ cfg.deadband
    · refine .inr (.inr ⟨rfl, hraw, ?_⟩)
      by_cases hhold : cfg.startupNeutralHoldSec ≤ now - st.neutralSince.getD now
      · simp [SideState.gate, hraw, hhold]
      · simp [SideState.gate, hraw, hhold]
    · exact .inr (.inl ⟨rfl, not_le.mp hraw, by simp [SideState.gate, hraw]⟩)

/-- A read within the deadband makes no step. -/
theorem not_moves_of_neutral {cfg : SourceConfig} {s : SpaceMouseSample} (h : rawMagnitude s ≤ cfg.deadband) :
    ¬ (poseDeltaFromSample cfg.toStepConfig s).Moves := by
  have hsigned : ∀ sign value : ℝ, (sign = 1 ∨ sign = -1) → |value| ≤ cfg.deadband →
      applySoftDeadband (sign * value) cfg.deadband cfg.responseCurveGamma = 0 := by
    intro sign value hsign hvalue
    unfold applySoftDeadband
    rw [if_pos]
    rcases hsign with rfl | rfl
    · rwa [one_mul]
    · rwa [neg_one_mul, abs_neg]
  have hzero : ∀ limit : ℝ, clampStep (0 * limit) |limit| = 0 := by
    intro limit
    unfold clampStep
    rw [zero_mul, min_eq_right (abs_nonneg limit), max_eq_right (neg_nonpos.mpr (abs_nonneg limit))]
  simp only [rawMagnitude, max_le_iff] at h
  obtain ⟨⟨⟨⟨⟨htx, hty⟩, htz⟩, hrx⟩, hry⟩, hrz⟩ := h
  have hsource : ∀ i, |(![s.rx, s.ry, s.rz] : Fin 3 → ℝ) i| ≤ cfg.deadband := by
    intro i
    fin_cases i <;> assumption
  unfold Delta6.Moves poseDeltaFromSample
  simp only [hsigned _ _ (cfg.linearAxisSigns_mem _) htx, hsigned _ _ (cfg.linearAxisSigns_mem _) hty,
    hsigned _ _ (cfg.linearAxisSigns_mem _) htz, hsigned _ _ (cfg.angularAxisSigns_mem _) (hsource _), hzero]
  simp

/-- The read composes a step onto the target and clamps it: the gate was open, the arm is active or the cap deflected
enough to activate it, and the step is not zero. -/
structure MovesTarget (cfg : SourceConfig) (st : SideState) (s : SpaceMouseSample) : Prop where
  confirmed : st.neutralConfirmed = true
  engaged : st.active = true ∨ cfg.activationDeadband < rawMagnitude s
  step : (poseDeltaFromSample cfg.toStepConfig s).Moves

/-- The target of a read that moves it, before the clamp. -/
noncomputable def composedTarget (cfg : SourceConfig) (st : SideState) (s : SpaceMouseSample) (live : Pose6) : Pose6 :=
  composeLocalDelta (st.targetPose.getD live) (poseDeltaFromSample cfg.toStepConfig s)

/-- From the live pose on: no pose and no new target, or a clamped move, or the active arm's target once more. -/
theorem advance_cases (cfg : SourceConfig) (s : SpaceMouseSample) (live : Option Pose6) (gripperTarget : Option ℝ)
    (st : SideState) :
    ((live = none ∨ ¬ (poseDeltaFromSample cfg.toStepConfig s).Moves) ∧
      (advance cfg s live gripperTarget st).2.pose = none ∧
      ((advance cfg s live gripperTarget st).1.active = true →
        (advance cfg s live gripperTarget st).1.motion = st.motion)) ∨
    (∃ livePose, live = some livePose ∧ (poseDeltaFromSample cfg.toStepConfig s).Moves ∧
      (advance cfg s live gripperTarget st).2.pose =
        some (clampTargetLead (composedTarget cfg st s livePose) livePose cfg.maxTargetLeadM cfg.maxTargetLeadRad) ∧
      (advance cfg s live gripperTarget st).1.targetPose = (advance cfg s live gripperTarget st).2.pose) ∨
    (st.active = true ∧ ¬ (poseDeltaFromSample cfg.toStepConfig s).Moves ∧ ∃ livePose,
      (advance cfg s live gripperTarget st).2.pose = some (st.targetPose.getD livePose) ∧
      (advance cfg s live gripperTarget st).1.targetPose = (advance cfg s live gripperTarget st).2.pose) := by
  cases live with
  | none => exact .inl ⟨.inl rfl, rfl, fun h => absurd h Bool.false_ne_true⟩
  | some livePose =>
    unfold advance
    dsimp only
    split_ifs with hidle hmoves hsent
    · exact .inl ⟨.inr hidle.2, rfl, fun h => absurd (hidle.1.symm.trans h) Bool.false_ne_true⟩
    · exact .inr (.inl ⟨livePose, rfl, hmoves, rfl, rfl⟩)
    · exact .inl ⟨.inr hmoves, rfl, fun h => absurd h Bool.false_ne_true⟩
    · have hactive : st.active = true := by
        by_contra hinactive
        exact hidle ⟨Bool.eq_false_iff.mpr hinactive, hmoves⟩
      exact .inr (.inr ⟨hactive, hmoves, livePose, rfl, rfl⟩)

section Read

variable {cfg : SourceConfig}

/-- Without a deadman, the gate stands before the rest. -/
theorem targetFromSample_eq (hdeadman : cfg.requireDeadman = false) (hneutral : cfg.startupRequiresNeutral = true)
    (arm : Arm) (s : SpaceMouseSample) (live : Option Pose6) (now : ℝ) (st : SideState) :
    ∃ st' gripperTarget, st'.gate = (neutralGate cfg (rawMagnitude s) now st).gate ∧ st'.motion = st.motion ∧
      targetFromSample cfg arm s live now st =
        if st'.neutralConfirmed = false ∨ st.active = false ∧ rawMagnitude s ≤ cfg.activationDeadband then
          (st', { gripperTarget })
        else advance cfg s live gripperTarget st' := by
  have hmotion : (neutralGate cfg (rawMagnitude s) now (gripperTargetFromButtons cfg s st).1).motion = st.motion :=
    (neutralGate_motion ..).trans (gripperTargetFromButtons_motion ..)
  refine ⟨neutralGate cfg (rawMagnitude s) now (gripperTargetFromButtons cfg s st).1,
    (gripperTargetFromButtons cfg s st).2, neutralGate_gate _ _ _ (gripperTargetFromButtons_gate ..), hmotion, ?_⟩
  unfold targetFromSample
  dsimp only
  rw [hdeadman, hneutral, if_neg Bool.false_ne_true, Bool.true_and, (Prod.mk.inj hmotion).1]
  cases (neutralGate cfg (rawMagnitude s) now (gripperTargetFromButtons cfg s st).1).neutralConfirmed <;> simp

/-- **A read and the gate.** -/
theorem gate_read (hdeadman : cfg.requireDeadman = false) (hneutral : cfg.startupRequiresNeutral = true) (arm : Arm)
    (s : SpaceMouseSample) (live : Option Pose6) (now : ℝ) (st : SideState) :
    (targetFromSample cfg arm s live now st).1.gate = (neutralGate cfg (rawMagnitude s) now st).gate ∧
    ((targetFromSample cfg arm s live now st).2.pose.isSome = true →
      (targetFromSample cfg arm s live now st).1.neutralConfirmed = true) := by
  obtain ⟨st', gripperTarget, hgate, -, heq⟩ := targetFromSample_eq hdeadman hneutral arm s live now st
  rw [heq]
  split_ifs with hblocked
  · exact ⟨hgate, fun h => absurd h Bool.false_ne_true⟩
  · have hkept := advance_gate cfg s live gripperTarget st'
    refine ⟨hkept.trans hgate, fun _ => ?_⟩
    rw [(Prod.mk.inj hkept).1]
    exact Bool.eq_true_of_not_eq_false fun h => hblocked (.inl h)

/-- **A read and the target.** -/
theorem motion_read (hdeadman : cfg.requireDeadman = false) (hneutral : cfg.startupRequiresNeutral = true) (arm : Arm)
    (s : SpaceMouseSample) (live : Option Pose6) (now : ℝ) (st : SideState) :
    ((live = none ∨ ¬ MovesTarget cfg st s) ∧ (targetFromSample cfg arm s live now st).2.pose = none ∧
      ((targetFromSample cfg arm s live now st).1.active = true →
        (targetFromSample cfg arm s live now st).1.motion = st.motion)) ∨
    (∃ livePose, live = some livePose ∧ MovesTarget cfg st s ∧
      (targetFromSample cfg arm s live now st).2.pose =
        some (clampTargetLead (composedTarget cfg st s livePose) livePose cfg.maxTargetLeadM cfg.maxTargetLeadRad) ∧
      (targetFromSample cfg arm s live now st).1.targetPose = (targetFromSample cfg arm s live now st).2.pose) ∨
    (st.active = true ∧ ¬ MovesTarget cfg st s ∧ ∃ livePose,
      (targetFromSample cfg arm s live now st).2.pose = some (st.targetPose.getD livePose) ∧
      (targetFromSample cfg arm s live now st).1.targetPose = (targetFromSample cfg arm s live now st).2.pose) := by
  obtain ⟨st', gripperTarget, hgate, hmotion, heq⟩ := targetFromSample_eq hdeadman hneutral arm s live now st
  obtain ⟨hactive, htarget⟩ := Prod.mk.inj hmotion
  rw [heq]
  split_ifs with hblocked
  · refine .inl ⟨.inr fun hmove => ?_, rfl, fun _ => hmotion⟩
    rcases hblocked with hshut | ⟨hoff, hsmall⟩
    · rcases neutralGate_cases hneutral (rawMagnitude s) now st with ⟨-, hkept⟩ | ⟨h, -⟩ | ⟨h, -⟩
      · exact absurd (hmove.confirmed.symm.trans (Prod.mk.inj (hgate.trans hkept)).1.symm) (by simp [hshut])
      · exact absurd hmove.confirmed (by simp [h])
      · exact absurd hmove.confirmed (by simp [h])
    · rcases hmove.engaged with h | h
      · exact absurd h (by simp [hoff])
      · exact absurd hsmall (not_le.mpr h)
  · obtain ⟨hopen, hengaged⟩ := not_or.mp hblocked
    rcases advance_cases cfg s live gripperTarget st' with ⟨hstill, hnone, hkept⟩ |
      ⟨livePose, hlive, hmoves, hpose, hset⟩ |
      ⟨hst, hstill, livePose, hpose, hset⟩
    · exact .inl ⟨hstill.imp_right fun h hmove => h hmove.step, hnone, fun h => (hkept h).trans hmotion⟩
    · refine .inr (.inl ⟨livePose, hlive, ⟨?_, ?_, hmoves⟩, ?_, hset⟩)
      · -- a read that moves is beyond the deadband, so it did not open the gate itself
        have hout : ¬ rawMagnitude s ≤ cfg.deadband := fun h => not_moves_of_neutral h hmoves
        rcases neutralGate_cases hneutral (rawMagnitude s) now st with ⟨h, -⟩ | ⟨-, -, hshut⟩ | ⟨-, hin, -⟩
        · exact h
        · exact absurd (Prod.mk.inj (hgate.trans hshut)).1 hopen
        · exact absurd hin hout
      · by_cases hon : st.active = true
        · exact .inl hon
        · exact .inr (not_le.mp fun h => hengaged ⟨Bool.eq_false_iff.mpr hon, h⟩)
      · unfold composedTarget at hpose ⊢
        rw [hpose, htarget]
    · refine .inr (.inr ⟨hactive ▸ hst, fun h => hstill h.step, livePose, ?_, hset⟩)
      rw [hpose, htarget]

end Read

/-- What an event does to an arm: it loses the gate and the target; it reads no sample and loses at most the target; or
it reads a fresh sample. -/
theorem apply_cases (cfg : SourceConfig) (arm : Arm) (st : SideState) (op : SideOp) :
    ((op.apply cfg arm st).2.pose = none ∧ (op.apply cfg arm st).1.gate = (false, none) ∧
      (op.apply cfg arm st).1.active = false) ∨
    ((op.apply cfg arm st).2.pose = none ∧ (op.apply cfg arm st).1.gate = st.gate ∧
      ((op.apply cfg arm st).1.active = true → (op.apply cfg arm st).1.motion = st.motion) ∧
      (op = .resetEngagement ∨ op = .idle ∨ ∃ now live, op = .read now ⟨.nothing, live⟩ ∧ st.active = false)) ∨
    (∃ now s live, op = .read now ⟨.sample s, live⟩ ∧ ¬ s.Stale cfg now ∧
      op.apply cfg arm st = targetFromSample cfg arm s live now st) := by
  cases op with
  | resetAll => exact .inl ⟨rfl, rfl, rfl⟩
  | resetEngagement => exact .inr (.inl ⟨rfl, rfl, fun h => absurd h Bool.false_ne_true, .inl rfl⟩)
  | idle => exact .inr (.inl ⟨rfl, rfl, fun _ => rfl, .inr (.inl rfl)⟩)
  | read now input =>
    obtain ⟨read, live⟩ := input
    simp only [SideOp.apply, targetFromReader]
    cases read with
    | raised message => exact .inl ⟨rfl, rfl, rfl⟩
    | nothing =>
      dsimp only
      split_ifs with hactive
      · exact .inl ⟨rfl, rfl, rfl⟩
      · exact .inr (.inl ⟨rfl, rfl, fun _ => rfl, .inr (.inr ⟨now, live, rfl, Bool.eq_false_iff.mpr hactive⟩)⟩)
    | sample s =>
      dsimp only
      split_ifs with hstale
      · exact .inl ⟨rfl, rfl, rfl⟩
      · exact .inr (.inr ⟨now, s, live, rfl, hstale, rfl⟩)

end PolicyRunner.PoseTarget
