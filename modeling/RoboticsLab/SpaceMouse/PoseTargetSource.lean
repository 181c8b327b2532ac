import RoboticsLab.SpaceMouse.PoseMath

/-!
# The dual SpaceMouse pose target source

One `SideState` an arm, advanced by `_target_from_reader` with what the arm's reader gives and the live pose that the
snapshot has for the arm.  `next_intent` advances both arms, left first, and makes one command of the two results; an
accepted reassignment resets both arms and turns the next tick into a hold.
-/

namespace PolicyRunner.PoseTarget

inductive Arm
  | left
  | right

/-- The settings, as `__init__` checks them. -/
structure SourceConfig extends StepConfig where
  maxTargetLeadM : ℝ
  maxTargetLeadRad : ℝ
  /-- `deadband * 1.5` when it is not given. -/
  activationDeadband : ℝ
  sampleStaleTimeoutSec : ℝ
  requireDeadman : Bool
  startupRequiresNeutral : Bool
  startupNeutralHoldSec : ℝ
  deadmanButton : Arm → ℕ
  gripperButtonsEnable : Bool
  gripperOpenButton : ℕ
  gripperCloseButton : ℕ
  gripperOpenPercent : ℝ
  gripperClosePercent : ℝ
  maxLinearStepM_nonneg : 0 ≤ maxLinearStepM
  maxAngularStepRad_nonneg : 0 ≤ maxAngularStepRad
  maxTargetLeadM_nonneg : 0 ≤ maxTargetLeadM
  maxTargetLeadRad_nonneg : 0 ≤ maxTargetLeadRad
  deadband_nonneg : 0 ≤ deadband
  one_le_responseCurveGamma : 1 ≤ responseCurveGamma
  linearAxisSigns_mem : ∀ axis, linearAxisSigns axis = 1 ∨ linearAxisSigns axis = -1
  angularAxisSigns_mem : ∀ axis, angularAxisSigns axis = 1 ∨ angularAxisSigns axis = -1
  angularAxisOrder_bijective : Function.Bijective angularAxisOrder
  sampleStaleTimeoutSec_pos : 0 < sampleStaleTimeoutSec
  activationDeadband_nonneg : 0 ≤ activationDeadband
  startupNeutralHoldSec_nonneg : 0 ≤ startupNeutralHoldSec
  gripperButtons_differ : gripperOpenButton ≠ gripperCloseButton
  gripperOpenPercent_mem : 0 ≤ gripperOpenPercent ∧ gripperOpenPercent ≤ 100
  gripperClosePercent_mem : 0 ≤ gripperClosePercent ∧ gripperClosePercent ≤ 100

/-- `_SideState`. -/
structure SideState where
  active : Bool
  targetPose : Option Pose6
  neutralPoseSent : Bool
  neutralConfirmed : Bool
  neutralSince : Option ℝ
  lastButtons : List Bool

/-- `_SideState()`. -/
def SideState.fresh : SideState := ⟨false, none, false, false, none, []⟩

/-- `_SideState.reset_engagement`. -/
def SideState.resetEngagement (st : SideState) : SideState :=
  { st with active := false, targetPose := none, neutralPoseSent := false }

/-- `_SideState.reset_all`. -/
def SideState.resetAll (st : SideState) : SideState :=
  { st.resetEngagement with neutralConfirmed := false, neutralSince := none, lastButtons := [] }

/-- `_SideResult`. -/
structure SideResult where
  pose : Option Pose6 := none
  gripperTarget : Option ℝ := none
  released : Bool := false
  failure : Bool := false
  failureMessage : Option String := none

/-- What `reader.read` does. -/
inductive Read
  | raised (message : String)
  | nothing
  | sample (s : SpaceMouseSample)

/-- What a tick gives an arm: the read, and `_tcp_pose_stand` of the snapshot. -/
structure SideInput where
  read : Read
  live : Option Pose6

/-- `_button_active`. -/
def buttonActive (buttons : List Bool) (button : ℕ) : Bool := buttons.getD button false

/-- `_gripper_target_from_buttons`: the buttons kept, and the target. -/
def gripperTargetFromButtons (cfg : SourceConfig) (s : SpaceMouseSample) (st : SideState) : SideState × Option ℝ :=
  if cfg.gripperButtonsEnable = false then (st, none)
  else
    let openDown := buttonActive s.buttons cfg.gripperOpenButton
    let closeDown := buttonActive s.buttons cfg.gripperCloseButton
    let wasOpenDown := buttonActive st.lastButtons cfg.gripperOpenButton
    let wasCloseDown := buttonActive st.lastButtons cfg.gripperCloseButton
    let kept := { st with lastButtons := s.buttons }
    if openDown && closeDown then (kept, none)
    else if openDown && !wasOpenDown then (kept, some cfg.gripperOpenPercent)
    else if closeDown && !wasCloseDown then (kept, some cfg.gripperClosePercent)
    else (kept, none)

/-- The startup-neutral part of `_target_from_reader`. -/
noncomputable def neutralGate (cfg : SourceConfig) (rawMag now : ℝ) (st : SideState) : SideState :=
  if cfg.startupRequiresNeutral && !st.neutralConfirmed then
    if rawMag ≤ cfg.deadband then
      let since := st.neutralSince.getD now
      if cfg.startupNeutralHoldSec ≤ now - since then { st with neutralSince := some since, neutralConfirmed := true }
      else { st with neutralSince := some since }
    else { st with neutralSince := none }
  else st

open Classical in
/-- `_target_from_reader` from the live pose on. -/
noncomputable def advance (cfg : SourceConfig) (s : SpaceMouseSample) (live : Option Pose6)
    (gripperTarget : Option ℝ) (st : SideState) : SideState × SideResult :=
  match live with
  | none => (st.resetEngagement, { released := st.active, gripperTarget })
  | some livePose =>
    let target := st.targetPose.getD livePose
    let latched := { st with targetPose := some target }
    let delta := poseDeltaFromSample cfg.toStepConfig s
    if st.active = false ∧ ¬ delta.Moves then (latched, { gripperTarget })
    else if delta.Moves then
      let moved := clampTargetLead (composeLocalDelta target delta) livePose cfg.maxTargetLeadM cfg.maxTargetLeadRad
      ({ latched with active := true, neutralPoseSent := false, targetPose := some moved },
        { pose := some moved, gripperTarget })
    else if st.neutralPoseSent then (latched.resetEngagement, { released := true, gripperTarget })
    else ({ latched with active := true, neutralPoseSent := true }, { pose := some target, gripperTarget })

/-- `_target_from_reader` once the sample is fresh. -/
noncomputable def targetFromSample (cfg : SourceConfig) (arm : Arm) (s : SpaceMouseSample) (live : Option Pose6)
    (now : ℝ) (st : SideState) : SideState × SideResult :=
  let (st, gripperTarget) := gripperTargetFromButtons cfg s st
  if cfg.requireDeadman then
    if buttonActive s.buttons (cfg.deadmanButton arm) = false then
      (st.resetEngagement, { released := st.active, gripperTarget })
    else advance cfg s live gripperTarget st
  else
    let st := neutralGate cfg (rawMagnitude s) now st
    if cfg.startupRequiresNeutral && !st.neutralConfirmed then (st, { gripperTarget })
    else if st.active = false ∧ rawMagnitude s ≤ cfg.activationDeadband then (st, { gripperTarget })
    else advance cfg s live gripperTarget st

/-- A sample too old to use. -/
def SpaceMouseSample.Stale (cfg : SourceConfig) (now : ℝ) (s : SpaceMouseSample) : Prop :=
  cfg.sampleStaleTimeoutSec < now - s.timestampMonotonic

open Classical in
/-- `_target_from_reader`. -/
noncomputable def targetFromReader (cfg : SourceConfig) (arm : Arm) (input : SideInput) (now : ℝ) (st : SideState) :
    SideState × SideResult :=
  match input.read with
  | .raised message => (st.resetAll, { failure := true, failureMessage := some message })
  | .nothing => if st.active then (st.resetAll, { released := true }) else (st, {})
  | .sample s =>
    if s.Stale cfg now then (st.resetAll, { released := st.active })
    else targetFromSample cfg arm s input.live now st

/-! ## Both arms -/

structure Source where
  left : SideState
  right : SideState
  assignmentHoldPending : Bool
  failed : Bool
  failureMessage : Option String

/-- The source as `__init__` leaves it. -/
def Source.start : Source := ⟨.fresh, .fresh, false, false, none⟩

def Source.side (s : Source) : Arm → SideState
  | .left => s.left
  | .right => s.right

/-- The commands of `next_intent`. -/
inductive Intent
  | hold
  | gripperTarget (left right : Option ℝ)
  | tcpPoseTargetStand (left right : Option Pose6) (leftGripper rightGripper : Option ℝ)

/-- The pose that a command has for an arm. -/
def Intent.pose (arm : Arm) : Intent → Option Pose6
  | .hold => none
  | .gripperTarget _ _ => none
  | .tcpPoseTargetStand left right _ _ => match arm with
    | .left => left
    | .right => right

/-- The command that `next_intent` makes of the two results. -/
def intentOf (left right : SideResult) : Option Intent :=
  if left.failure || right.failure then some .hold
  else if left.pose.isNone && right.pose.isNone then
    if left.gripperTarget.isSome || right.gripperTarget.isSome then
      some (.gripperTarget left.gripperTarget right.gripperTarget)
    else if left.released || right.released then some .hold
    else none
  else some (.tcpPoseTargetStand left.pose right.pose left.gripperTarget right.gripperTarget)

/-- `left.failure_message or right.failure_message`; an empty text counts as none. -/
def firstMessage (left right : Option String) : Option String :=
  match left with
  | some message => if message = "" then right else left
  | none => right

/-- `next_intent`; `inputs` are what the readers and the snapshot give. -/
noncomputable def nextIntent (cfg : SourceConfig) (inputs : Arm → SideInput) (now : ℝ) (s : Source) :
    Source × Option Intent :=
  if s.assignmentHoldPending then
    ({ s with assignmentHoldPending := false, left := s.left.resetAll, right := s.right.resetAll }, some .hold)
  else
    let left := targetFromReader cfg .left (inputs .left) now s.left
    let right := targetFromReader cfg .right (inputs .right) now s.right
    let failed := left.2.failure || right.2.failure
    let failureMessage := if failed then firstMessage left.2.failureMessage right.2.failureMessage else none
    (⟨left.1, right.1, false, failed, failureMessage⟩, intentOf left.2 right.2)

/-- `handle_spacemouse_control`: whether the registry took the command, and its `last_result`. -/
def handleSpacemouseControl (handled accepted : Bool) (s : Source) : Source :=
  if handled && accepted then
    { s with left := s.left.resetAll, right := s.right.resetAll, assignmentHoldPending := true }
  else s

/-- `reset_engagement`. -/
def resetEngagement (s : Source) : Source :=
  { s with left := s.left.resetEngagement, right := s.right.resetEngagement }

/-! ## Runs -/

/-- What happens to a source. -/
inductive Event
  | tick (now : ℝ) (inputs : Arm → SideInput)
  | control (handled accepted : Bool)
  | resetEngagement

/-- An event, with the command a tick makes. -/
noncomputable def step (cfg : SourceConfig) (s : Source) : Event → Source × Option Intent
  | .tick now inputs => nextIntent cfg inputs now s
  | .control handled accepted => (handleSpacemouseControl handled accepted s, none)
  | .resetEngagement => (resetEngagement s, none)

end PolicyRunner.PoseTarget
