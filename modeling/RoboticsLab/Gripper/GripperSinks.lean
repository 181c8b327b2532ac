import RoboticsLab.ArmInit.OverrideController
import RoboticsLab.Lib.Double

/-!
# The two gripper sinks of the flow policy

For each executed policy step, `_integrate_gripper_targets` decides the gripper target of each arm, latches it as the
last one sent and returns it for the motion packet; `_dispatch_gripper_step` then derives the command of the serial
backend again, from the latch and the hold-open flag, and writes it into a copy of the action row.  Storing into a row
converts to the row's dtype: `store`.

    execute : GripperState → ExecutedStep → GripperState × SinkOutputs

Arithmetic is exact, with the IEEE special values.
-/

namespace PolicyRunner.Gripper

/-- The settings of the gripper channel, and `arm_mask`. -/
structure SinkConfig where
  gripperActionAbsolute : Bool
  gripperBinary : Bool
  gripperBinaryThreshold : Double
  gripperOpenPercent : Double
  gripperClosePercent : Double
  gripperCloseBias : Double
  gripperCloseBiasArm : Arm → Option Double
  gripperCloseSnapPercent : Double
  gripperOpenHoldSteps : ℤ
  gripperCommandDeadbandPercent : Double
  gripperCommandSource : String
  armMask : List Double

/-- What one executed policy step reads: the row of `_gripper_step_row`, whether targets may go into the motion packet,
`_preview_gripper_arm_allowed`, and the opening that the payload or the backend reports. -/
structure ExecutedStep where
  row : List Double
  allowTargets : Bool
  armAllowed : Arm → Bool
  current : Arm → Option Double

structure GripperState where
  gripperTargetsByArm : Arm → Option Double
  gripperLastSentByArm : Arm → Option Double
  gripperIntegrateCount : ℕ
  gripperHoldOpenNow : Bool

def GripperState.start : GripperState := ⟨fun _ => none, fun _ => none, 0, false⟩

inductive CommandType
  | target
  | delta
deriving DecidableEq

/-- `GripperCommand`. -/
structure GripperCommand where
  arm : Arm
  value : Double
  commandType : CommandType
  source : String
deriving DecidableEq

/-- The place of an arm in `arm_mask`. -/
def maskIndex : Arm → ℕ
  | .left => 0
  | .right => 1

/-- The gripper entry of an arm in the action row. -/
def stepIndex : Arm → ℕ
  | .left => 6
  | .right => 13

/-- `np.clip`. -/
def clip (v low high : Double) : Double :=
  if Double.lt v low then low else if Double.lt high v then high else v

namespace SinkConfig

variable (cfg : SinkConfig)

/-- `_gripper_close_bias`. -/
def gripperCloseBiasOf (arm : Arm) : Double :=
  if !cfg.gripperActionAbsolute then .fin 0
  else if cfg.gripperBinary then .fin 0
  else (cfg.gripperCloseBiasArm arm).getD cfg.gripperCloseBias

/-- `_map_gripper_opening`. -/
def mapGripperOpening (raw : Double) (arm : Arm) : Double :=
  if cfg.gripperBinary then
    clip (if Double.le cfg.gripperBinaryThreshold raw then cfg.gripperOpenPercent else cfg.gripperClosePercent)
      (.fin 0) (.fin 100)
  else
    let mapped := clip (Double.sub raw (cfg.gripperCloseBiasOf arm)) (.fin 0) (.fin 100)
    if Double.lt (.fin 0) cfg.gripperCloseSnapPercent && Double.lt mapped cfg.gripperCloseSnapPercent then .fin 0
    else mapped

/-- `_gripper_hold_open_value`. -/
def gripperHoldOpenValue : Double :=
  if cfg.gripperBinary then clip cfg.gripperOpenPercent (.fin 0) (.fin 100) else .fin 100

/-- The deadband repeats `last` in place of `value`. -/
def heldBy (last value : Double) : Bool :=
  Double.lt (.fin 0) cfg.gripperCommandDeadbandPercent && !(Double.eq value (.fin 0) || Double.eq last (.fin 0)) &&
    Double.le (Double.abs (Double.sub value last)) cfg.gripperCommandDeadbandPercent

/-- What goes out for `value` when `last` went out before. -/
def sentFor (last : Option Double) (value : Double) : Double :=
  match last with
  | some last => if cfg.heldBy last value then last else value
  | none => value

end SinkConfig

namespace GripperState

variable (cfg : SinkConfig) (s : GripperState)

/-- `_hold_gripper_within_deadband`: the value, and the latch it leaves. -/
def holdGripperWithinDeadband (arm : Arm) (value : Double) : Double × GripperState :=
  match s.gripperLastSentByArm arm with
  | some last =>
    if cfg.heldBy last value then (last, s)
    else (value, { s with gripperLastSentByArm := Function.update s.gripperLastSentByArm arm (some value) })
  | none => (value, { s with gripperLastSentByArm := Function.update s.gripperLastSentByArm arm (some value) })

/-! ## The motion packet -/

/-- The target before the deadband. -/
def integrated (x : ExecutedStep) (arm : Arm) : Double :=
  if s.gripperHoldOpenNow then cfg.gripperHoldOpenValue
  else
    let running := (s.gripperTargetsByArm arm).getD ((x.current arm).getD (.fin 0))
    match x.row[stepIndex arm]? with
    | none => running
    | some raw => if cfg.gripperActionAbsolute then cfg.mapGripperOpening raw arm else Double.add running raw

/-- One pass of the loop of `_integrate_gripper_targets` over the arms. -/
def integrateArm (x : ExecutedStep) (arm : Arm) : Option Double × GripperState :=
  match cfg.armMask[maskIndex arm]? with
  | none => (none, s)
  | some mask =>
    if Double.le mask (.fin 0) || !x.armAllowed arm then (none, s)
    else
      let target := s.integrated cfg x arm
      let s := { s with gripperTargetsByArm := Function.update s.gripperTargetsByArm arm (some target) }
      let (value, s) := s.holdGripperWithinDeadband cfg arm target
      (some value, s)

/-- The step counter and the hold-open flag of this step. -/
def beginStep : GripperState :=
  { s with
    gripperIntegrateCount := s.gripperIntegrateCount + 1
    gripperHoldOpenNow := decide ((s.gripperIntegrateCount : ℤ) < cfg.gripperOpenHoldSteps) }

/-- `_integrate_gripper_targets`. -/
def integrateGripperTargets (x : ExecutedStep) : (Arm → Option Double) × GripperState :=
  let s := s.beginStep cfg
  if !x.allowTargets then (fun _ => none, s)
  else
    let (left, s) := s.integrateArm cfg x .left
    let (right, s) := s.integrateArm cfg x .right
    (fun | .left => left | .right => right, s)

/-! ## The serial backend -/

/-- `_gripper_command_for_dispatch`. -/
def gripperCommandForDispatch (arm : Arm) (raw : Double) : Double :=
  let mapped := cfg.mapGripperOpening raw arm
  if Double.le cfg.gripperCommandDeadbandPercent (.fin 0) then mapped
  else (s.gripperLastSentByArm arm).getD mapped

/-- One arm's entry of the copied row, in the target modes. -/
def dispatchEntry (store : Double → Double) (row : List Double) (arm : Arm) : List Double :=
  match row[stepIndex arm]? with
  | none => row
  | some raw =>
    row.set (stepIndex arm)
      (store (if s.gripperHoldOpenNow then cfg.gripperHoldOpenValue else s.gripperCommandForDispatch cfg arm raw))

/-- The row that is dispatched. -/
def dispatchRow (store : Double → Double) (row : List Double) : List Double :=
  if cfg.gripperActionAbsolute then
    s.dispatchEntry cfg store (s.dispatchEntry cfg store row .left) .right
  else row

/-- `dispatch_mask`. -/
def dispatchMask (cfg : SinkConfig) (x : ExecutedStep) : List Double :=
  [Arm.left, Arm.right].foldl
    (fun mask arm => if x.armAllowed arm then mask else mask.set (maskIndex arm) (.fin 0)) cfg.armMask

end GripperState

/-- One arm's command in `gripper_commands_from_flow_step`. -/
def commandFromFlowStep (row mask : List Double) (commandType : CommandType) (source : String) (arm : Arm) :
    Option GripperCommand :=
  match row[stepIndex arm]?, mask[maskIndex arm]? with
  | some value, some m => if Double.lt (.fin 0) m then some ⟨arm, value, commandType, source⟩ else none
  | _, _ => none

/-- `gripper_commands_from_flow_step`. -/
def gripperCommandsFromFlowStep (row mask : List Double) (commandType : CommandType) (source : String) :
    List GripperCommand :=
  [Arm.left, Arm.right].filterMap (commandFromFlowStep row mask commandType source)

namespace GripperState

variable (cfg : SinkConfig) (store : Double → Double) (s : GripperState)

/-- `_dispatch_gripper_step`: the commands for the gripper backend. -/
def dispatchGripperStep (x : ExecutedStep) : List GripperCommand :=
  gripperCommandsFromFlowStep (s.dispatchRow cfg store x.row) (dispatchMask cfg x)
    (if cfg.gripperActionAbsolute then .target else .delta) cfg.gripperCommandSource

end GripperState

/-- What the two sinks got in one step. -/
structure SinkOutputs where
  targets : Arm → Option Double
  commands : List GripperCommand

namespace GripperState

variable (cfg : SinkConfig) (store : Double → Double)

/-- One executed policy step: the targets, then the dispatch. -/
def execute (s : GripperState) (x : ExecutedStep) : GripperState × SinkOutputs :=
  let (targets, s) := s.integrateGripperTargets cfg x
  (s, ⟨targets, s.dispatchGripperStep cfg store x⟩)

/-- The state after a run, and what the sinks got in its steps. -/
def run (s : GripperState) : List ExecutedStep → GripperState × List SinkOutputs
  | [] => (s, [])
  | x :: xs =>
    let (s, out) := s.execute cfg store x
    let (s, outs) := run s xs
    (s, out :: outs)

end GripperState

end PolicyRunner.Gripper
