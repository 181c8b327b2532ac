import RoboticsLab.Lib.Binary64
import Mathlib.Data.Fintype.Pi

/-!
# `rb_servo/core/types.hpp`: commands of the dual-arm servo server

The records that travel from the command socket to the control loop, with the source's default
values, and the two text tables that produce them (`controlModeFromString`,
`jointTargetProfileFromString`; `none` is the exception the source throws).
-/

namespace RbServo

def kDof : Nat := 6

abbrev JointArray := Fin kDof → Double

inductive ArmId
  | left
  | right
deriving DecidableEq

inductive ControlMode
  | idle
  | hold
  | armMotion
  | disarmMotion
  | jointTarget
  | tcpPoseTarget
  | tcpLinearMove
  | emergencyStop
  | resetFault
  | setSafetyFloorZ
  | tareForceSensor
  | setSafetyFloorEnabled
  | setSafetyRoiBounds
  | setExternalBoxes
  | setUserSafetyFloorPlane
  | freedrive
deriving DecidableEq

inductive JointTargetProfile
  | direct
  | initMotion
deriving DecidableEq

inductive LinearMoveOrientationMode
  | constant
  | slerp
deriving DecidableEq

/-- `std::tolower` on every character (the C locale changes `A`–`Z` only). -/
def lower (s : String) : String := String.ofList (s.toList.map Char.toLower)

def controlModeFromString (mode : String) : Option ControlMode :=
  let m := lower mode
  if m = "idle" then some .idle
  else if m = "hold" then some .hold
  else if m = "armmotion" ∨ m = "arm_motion" ∨ m = "arm" then some .armMotion
  else if m = "disarmmotion" ∨ m = "disarm_motion" ∨ m = "disarm" then some .disarmMotion
  else if m = "jointtarget" ∨ m = "joint_target" then some .jointTarget
  else if m = "tcpposetarget" ∨ m = "tcp_pose_target" then some .tcpPoseTarget
  else if m = "tcplinearmove" ∨ m = "tcp_linear_move" then some .tcpLinearMove
  else if m = "emergencystop" ∨ m = "emergency_stop" ∨ m = "estop" then some .emergencyStop
  else if m = "resetfault" ∨ m = "reset_fault" ∨ m = "reset" then some .resetFault
  else if m = "setsafetyfloorz" ∨ m = "set_safety_floor_z" then some .setSafetyFloorZ
  else if m = "tareforcesensor" ∨ m = "tare_force_sensor" ∨ m = "tare" then some .tareForceSensor
  else if m = "setsafetyfloorenabled" ∨ m = "set_safety_floor_enabled" then
    some .setSafetyFloorEnabled
  else if m = "setsafetyroibounds" ∨ m = "set_safety_roi_bounds" then some .setSafetyRoiBounds
  else if m = "setexternalboxes" ∨ m = "set_external_boxes" then some .setExternalBoxes
  else if m = "setusersafetyfloorplane" ∨ m = "set_user_safety_floor_plane" then
    some .setUserSafetyFloorPlane
  else if m = "freedrive" ∨ m = "free_drive" ∨ m = "directteaching" ∨ m = "direct_teaching" then
    some .freedrive
  else none

def jointTargetProfileFromString (value : String) : Option JointTargetProfile :=
  let v := lower value
  if v = "direct" then some .direct
  else if v = "init_motion" then some .initMotion
  else none

structure Pose6D where
  x : Double := .fin 0
  y : Double := .fin 0
  z : Double := .fin 0
  rx : Double := .fin 0
  ry : Double := .fin 0
  rz : Double := .fin 0
  quaternionXyzw : Option (Fin 4 → Double) := none
deriving DecidableEq

/-- Fields the command parser and the buffer never touch (`arrival_stop_q_deg`,
`compliant_hold`) are left out. -/
structure ArmCommand where
  armId : ArmId := .left
  seq : Nat := 0
  hostTimeNs : Nat := 0
  mode : ControlMode := .hold
  qTargetDeg : JointArray := fun _ => .fin 0
  jointTargetProfile : JointTargetProfile := .direct
  initMotionRequestId : Nat := 0
  tcpTargetStand : Pose6D := {}
  linearMoveDurationSec : Double := .fin 0
  linearMoveLinearSpeedMS : Double := .fin 0
  linearMoveAngularSpeedRadS : Double := .fin 0
  linearMoveOrientationMode : LinearMoveOrientationMode := .constant
  gripperTarget : Double := .fin 0
  hasGripper : Bool := false
  timeoutSec : Double := .ofRat (1 / 5)
  freedriveOn : Bool := false
  hasFreedrive : Bool := false
  hasJointTarget : Bool := false
  hasTcpTarget : Bool := false
  hasLinearMoveDuration : Bool := false
  hasLinearMoveLinearSpeed : Bool := false
  hasLinearMoveAngularSpeed : Bool := false
  hasLinearMoveOrientationMode : Bool := false
deriving DecidableEq

structure CommandSourceMetadata where
  sourceId : String := ""
  sessionId : String := ""
  leaseToken : String := ""
  sourcePriority : Option Int := none
deriving DecidableEq

structure CommandSourceLeaseState where
  enforceLease : Bool := false
  active : Bool := false
  commandRequiresLease : Bool := false
  commandHasLease : Bool := true
  sourceId : String := ""
  sessionId : String := ""
  leaseToken : String := ""
  acquiredTimeNs : Nat := 0
  expiresTimeNs : Nat := 0
  verdict : String := "Ok"
  reason : String := ""
deriving DecidableEq

structure ExternalBoxCommand where
  label : String := ""
  tStandBox : Fin 16 → Double := fun _ => .fin 0
  enable : Bool := true
deriving DecidableEq

structure DualArmCommand where
  seq : Nat := 0
  hostTimeNs : Nat := 0
  source : CommandSourceMetadata := {}
  lease : CommandSourceLeaseState := {}
  left : ArmCommand := {}
  right : ArmCommand := {}
  tcpTargetProfile : String := "default"
  tcpTargetProfileProvided : Bool := false
  clientSendMonotonicNs : Nat := 0
  hasClientSendMonotonicNs : Bool := false
  inputSampleMonotonicNs : Nat := 0
  hasInputSampleMonotonicNs : Bool := false
  actionSource : String := ""
  sourceConditioningMode : String := ""
  tareLeft : Bool := false
  tareRight : Bool := false
  floorZM : Double := .fin 0
  hasFloorZ : Bool := false
  floorEnabled : Bool := false
  hasFloorEnabled : Bool := false
  roiMinM : Fin 3 → Double := fun _ => .fin 0
  roiMaxM : Fin 3 → Double := fun _ => .fin 0
  hasRoiBounds : Bool := false
  externalBoxes : List ExternalBoxCommand := []
  hasExternalBoxes : Bool := false
  userFloorPointM : Fin 3 → Double := fun _ => .fin 0
  userFloorNormal : Fin 3 → Double := fun i => .fin (if i.val = 2 then 1 else 0)
  userFloorMarginM : Double := .fin 0
  userFloorEnable : Bool := false
  hasUserFloorPlane : Bool := false
  leaseAdminOnly : Bool := false
  coupledTimeout : Bool := true
deriving DecidableEq

end RbServo
