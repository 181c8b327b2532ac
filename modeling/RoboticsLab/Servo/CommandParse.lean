import RoboticsLab.Lib.Json
import RoboticsLab.Lib.Numerals
import RoboticsLab.Servo.Types

/-!
# The field readers of `rb_servo/network/command_server.cpp`

Everything `CommandServer::parseMessage` does before it looks at the server's own state: a JSON
object becomes a `ParsedPacket`, or `none` where the source returns `false`.  A reader with an
out-parameter takes the old value and returns the new one; a reader with a `present` flag returns
an `Option` inside the `Option`.
-/

namespace RbServo

open Json (Object)

/-! ## Readers -/

def isFiniteNumber (value : Json) : Option Double :=
  value.isNumber.filter Double.isFinite

/-- An absent key keeps the default, a present one is read. -/
def readOptional {α : Type} (read : Json → Option α) (object : Object) (key : String) (out : α) :
    Option α :=
  match object.lookup key with
  | none => some out
  | some value => read value

def readOptionalNumber (object : Object) (key : String) (out : Double) : Option Double :=
  readOptional isFiniteNumber object key out

def readRequiredNumber (object : Object) (key : String) : Option Double :=
  object.lookup key >>= isFiniteNumber

def readOptionalBool (object : Object) (key : String) (out : Bool) : Option Bool :=
  readOptional Json.isBoolean object key out

def readOptionalString (object : Object) (key : String) (out : String) : Option String :=
  readOptional Json.isString object key out

def readOptionalUint64 (object : Object) (key : String) (out : Nat) : Option Nat :=
  readOptional Json.isNumberUnsigned object key out

/-- `n` finite numbers in an array of size `n`. -/
def readNumbers (n : Nat) (value : Json) : Option (Fin n → Double) := do
  let elems ← value.isArray
  guard (elems.length = n)
  let values ← elems.mapM isFiniteNumber
  return fun i => values.getD i default

/-- `read_vec3` and `read_transform`: the key is required. -/
def readRequiredNumbers (n : Nat) (object : Object) (key : String) : Option (Fin n → Double) :=
  object.lookup key >>= readNumbers n

def readOptionalJointArray (object : Object) (key : String) : Option (Option JointArray) :=
  readOptional (fun value => (readNumbers kDof value).map some) object key none

def readPose6D (value : Json) : Option Pose6D :=
  match value with
  | .arr _ => do
    let v ← readNumbers 6 value
    return { x := v 0, y := v 1, z := v 2, rx := v 3, ry := v 4, rz := v 5 }
  | .obj pose => do
    let x ← readRequiredNumber pose "x"
    let y ← readRequiredNumber pose "y"
    let z ← readRequiredNumber pose "z"
    let rx ← readRequiredNumber pose "rx"
    let ry ← readRequiredNumber pose "ry"
    let rz ← readRequiredNumber pose "rz"
    let quaternion ← readOptional (fun v => (readNumbers 4 v).map some) pose "quaternion_xyzw" none
    if let some w := quaternion then
      let norm2 := (List.finRange 4).foldl (fun (acc : Double) i => acc.add ((w i).mul (w i))) (.fin 0)
      guard (norm2.isFinite && !norm2.le (.fin 0))
    return { x, y, z, rx, ry, rz, quaternionXyzw := quaternion }
  | _ => none

def readOptionalPose6D (object : Object) (key : String) : Option (Option Pose6D) :=
  readOptional (fun value => (readPose6D value).map some) object key none

/-- False when the packet carries the removed `force_control` block. -/
def rejectForceControlObject (object : Object) : Bool := !object.contains "force_control"

def parseLinearMoveOrientationMode (value : String) : Option LinearMoveOrientationMode :=
  let normalized := lower value
  if normalized = "constant" then some .constant
  else if normalized = "slerp" then some .slerp
  else none

def parseArmId (value : String) : Option ArmId :=
  let normalized := lower value
  if normalized = "left" ∨ normalized = "left_robot" then some .left
  else if normalized = "right" ∨ normalized = "right_robot" then some .right
  else none

def readOptionalPositiveNumber (object : Object) (key : String) : Option (Option Double) :=
  readOptional
    (fun value => do
      let v ← isFiniteNumber value
      guard (!v.le (.fin 0))
      return some v)
    object key none

def readOptionalLinearMoveFields (object : Object) (out : ArmCommand) : Option ArmCommand := do
  let duration ← readOptionalPositiveNumber object "duration_sec"
  let linearSpeed ← readOptionalPositiveNumber object "linear_speed_m_s"
  let angularSpeed ← readOptionalPositiveNumber object "angular_speed_rad_s"
  let orientationMode ← readOptionalString object "orientation_mode" ""
  let orientation ←
    if orientationMode = "" then some none
    else (parseLinearMoveOrientationMode orientationMode).map some
  return { out with
    linearMoveDurationSec := duration.getD out.linearMoveDurationSec
    hasLinearMoveDuration := out.hasLinearMoveDuration || duration.isSome
    linearMoveLinearSpeedMS := linearSpeed.getD out.linearMoveLinearSpeedMS
    hasLinearMoveLinearSpeed := out.hasLinearMoveLinearSpeed || linearSpeed.isSome
    linearMoveAngularSpeedRadS := angularSpeed.getD out.linearMoveAngularSpeedRadS
    hasLinearMoveAngularSpeed := out.hasLinearMoveAngularSpeed || angularSpeed.isSome
    linearMoveOrientationMode := orientation.getD out.linearMoveOrientationMode
    hasLinearMoveOrientationMode := out.hasLinearMoveOrientationMode || orientation.isSome }

/-! ## Modes -/

def requiresPayload : ControlMode → Bool
  | .jointTarget | .tcpPoseTarget | .tcpLinearMove => true
  | _ => false

def hasRequiredPayload (command : ArmCommand) : Bool :=
  match command.mode with
  | .jointTarget => command.hasJointTarget
  | .tcpPoseTarget => command.hasTcpTarget
  | .tcpLinearMove =>
    command.hasTcpTarget && (command.hasLinearMoveDuration || command.hasLinearMoveLinearSpeed)
  | _ => true

def isAcquireLeaseModeString (mode : String) : Bool :=
  mode = "AcquireLease" || mode = "acquire_lease" || mode = "acquirelease"

def isReleaseLeaseModeString (mode : String) : Bool :=
  mode = "ReleaseLease" || mode = "release_lease" || mode = "releaselease"

def commandRequiresLease : ControlMode → Bool
  | .armMotion | .disarmMotion | .jointTarget | .tcpPoseTarget | .tcpLinearMove | .resetFault
  | .freedrive => true
  | _ => false

def dualCommandRequiresLease (command : DualArmCommand) : Bool :=
  commandRequiresLease command.left.mode || commandRequiresLease command.right.mode

def commandUsesTcpPoseTarget (command : DualArmCommand) : Bool :=
  command.left.mode = .tcpPoseTarget || command.right.mode = .tcpPoseTarget

def isEmergencyStopCommand (command : DualArmCommand) : Bool :=
  command.left.mode = .emergencyStop || command.right.mode = .emergencyStop

/-! ## Arms -/

/-- `timeout_sec <= 0.0 || !std::isfinite(timeout_sec)` fails. -/
def positiveTimeout (timeoutSec : Double) : Bool :=
  !(timeoutSec.le (.fin 0) || !timeoutSec.isFinite)

/-- `gripper_target` wins over `gripper`; either one marks the setpoint present. -/
def readGripper (object : Object) (out : ArmCommand) : Option ArmCommand :=
  match object.lookup "gripper_target" with
  | some v => (isFiniteNumber v).map fun g => { out with gripperTarget := g, hasGripper := true }
  | none =>
    match object.lookup "gripper" with
    | some v => (isFiniteNumber v).map fun g => { out with gripperTarget := g, hasGripper := true }
    | none => some out

/-- Target pose under either key; a packet with both is malformed. -/
def readTcpTarget (object : Object) : Option (Option Pose6D) := do
  let target ← readOptionalPose6D object "tcp_target_stand"
  let aliasTarget ← readOptionalPose6D object "target_tcp_stand"
  guard (!(target.isSome && aliasTarget.isSome))
  return aliasTarget <|> target

def readArmFields (object : Object) (armId : ArmId) (out : ArmCommand) : Option ArmCommand := do
  let modeText ← readOptionalString object "mode" ""
  let mode ← if modeText = "" then some out.mode else controlModeFromString modeText
  let armName ← readOptionalString object "arm" ""
  guard (armName = "" ∨ parseArmId armName = some armId)
  let timeout ← readOptionalNumber object "timeout_sec" out.timeoutSec
  let out ← readGripper object { out with mode := mode, timeoutSec := timeout }
  let freedriveOn ← readOptionalBool object "freedrive_on" out.freedriveOn
  let joints ← readOptionalJointArray object "q_target_deg"
  let profileText ← readOptionalString object "joint_target_profile" ""
  let profile ←
    if profileText = "" then some out.jointTargetProfile
    else jointTargetProfileFromString profileText
  let requestId ← readOptionalUint64 object "init_motion_request_id" out.initMotionRequestId
  let tcpTarget ← readTcpTarget object
  let out ← readOptionalLinearMoveFields object { out with
    freedriveOn := freedriveOn
    hasFreedrive := object.contains "freedrive_on"
    qTargetDeg := joints.getD out.qTargetDeg
    hasJointTarget := joints.isSome
    jointTargetProfile := profile
    initMotionRequestId := requestId
    tcpTargetStand := tcpTarget.getD out.tcpTargetStand
    hasTcpTarget := tcpTarget.isSome }
  guard (rejectForceControlObject object)
  return out

def parseArmObject (object : Json) (armId : ArmId) (seq receiveTimeNs : Nat)
    (defaultMode : ControlMode) (defaultTimeoutSec : Double) : Option ArmCommand := do
  let out : ArmCommand :=
    { armId := armId, seq := seq, hostTimeNs := receiveTimeNs, mode := defaultMode,
      timeoutSec := defaultTimeoutSec }
  let out ←
    match object with
    | .null => some out
    | .obj fields => readArmFields fields armId out
    | _ => none
  guard (positiveTimeout out.timeoutSec)
  return out

/-! ## Whole packets -/

/-- What `parseMessage` has read when it turns to the server's own state. -/
structure ParsedPacket where
  cmd : DualArmCommand
  acquireLeaseOnly : Bool
  releaseLeaseOnly : Bool

/-- The configuration `parseMessage` reads (constructor of `CommandServer`). -/
structure CommandServerConfig where
  commandTimeoutSec : Double := .ofRat (1 / 5)
  enforceLease : Bool := false
  leaseTimeoutSec : Double := .fin 1
  tcpTargetProfileDefault : String := "default"
  tcpTargetProfiles : List String := ["default"]

/-- `static_cast<int>` of a JSON integer. -/
def toInt32 (i : Int) : Int := Int.bmod i (2 ^ 32)

theorem toInt32_of_range {i : Int} (hlo : -2 ^ 31 ≤ i) (hhi : i < 2 ^ 31) : toInt32 i = i := by
  unfold toInt32
  exact Int.bmod_eq_of_le (by omega) (by omega)

def parseHeader (cfg : CommandServerConfig) (root : Object) (receiveTimeNs : Nat) :
    Option DualArmCommand := do
  let schemaVersion ← readOptionalUint64 root "schema_version" 1
  guard (schemaVersion = 1)
  guard (root.contains "seq")
  let seq ← readOptionalUint64 root "seq" 0
  let coupledTimeout ← readOptionalBool root "coupled_timeout" true
  let sourceId ← readOptionalString root "source_id" ""
  let sessionId ← readOptionalString root "session_id" ""
  let leaseToken ← readOptionalString root "lease_token" ""
  let actionSource ← readOptionalString root "action_source" ""
  let conditioningMode ← readOptionalString root "source_conditioning_mode" ""
  let clientSend ← readOptionalUint64 root "client_send_monotonic_ns" 0
  let inputSample ← readOptionalUint64 root "input_sample_monotonic_ns" 0
  let profile ← readOptionalString root "tcp_target_profile" cfg.tcpTargetProfileDefault
  let priority ←
    readOptional (fun v => v.isNumberInteger.map fun i => some (toInt32 i)) root "source_priority" none
  return {
    seq := seq
    hostTimeNs := receiveTimeNs
    lease := { enforceLease := cfg.enforceLease }
    coupledTimeout := coupledTimeout
    source := { sourceId := sourceId, sessionId := sessionId, leaseToken := leaseToken,
                sourcePriority := priority }
    actionSource := actionSource
    sourceConditioningMode := conditioningMode
    hasClientSendMonotonicNs := root.contains "client_send_monotonic_ns"
    clientSendMonotonicNs := clientSend
    hasInputSampleMonotonicNs := root.contains "input_sample_monotonic_ns"
    inputSampleMonotonicNs := inputSample
    tcpTargetProfileProvided := root.contains "tcp_target_profile"
    tcpTargetProfile := profile }

/-- A malformed box is skipped, not refused: one bad detection does not block the others. -/
def readExternalBox (box : Json) : Option ExternalBoxCommand := do
  let object ← box.isObject
  let label ← object.lookup "label" >>= Json.isString
  let transform ← readRequiredNumbers 16 object "T"
  let enable ← readOptionalBool object "enable" true
  return { label := label, tStandBox := transform, enable := enable }

def readRoiBounds (root : Object) (cmd : DualArmCommand) : Option DualArmCommand :=
  if root.contains "roi_min_m" || root.contains "roi_max_m" then do
    let lo ← readRequiredNumbers 3 root "roi_min_m"
    let hi ← readRequiredNumbers 3 root "roi_max_m"
    return { cmd with roiMinM := lo, roiMaxM := hi, hasRoiBounds := true }
  else some cmd

def readExternalBoxes (root : Object) (cmd : DualArmCommand) : Option DualArmCommand :=
  match root.lookup "boxes" with
  | none => some cmd
  | some value => do
    let boxes ← value.isArray
    return { cmd with externalBoxes := boxes.filterMap readExternalBox, hasExternalBoxes := true }

def readUserFloorPlane (root : Object) (cmd : DualArmCommand) : Option DualArmCommand :=
  if root.contains "user_floor_point_m" || root.contains "user_floor_normal" then do
    let point ← readRequiredNumbers 3 root "user_floor_point_m"
    let normal ← readRequiredNumbers 3 root "user_floor_normal"
    let margin ← readOptionalNumber root "user_floor_margin_m" cmd.userFloorMarginM
    let enable ← readOptionalBool root "user_floor_enable" true
    return { cmd with
      userFloorPointM := point, userFloorNormal := normal, userFloorMarginM := margin,
      userFloorEnable := enable, hasUserFloorPlane := true }
  else some cmd

/-- The top-level payloads of the safety modes. -/
def readSafetyPayloads (root : Object) (cmd : DualArmCommand) : Option DualArmCommand := do
  let tareLeft ← readOptionalBool root "tare_left" cmd.tareLeft
  let tareRight ← readOptionalBool root "tare_right" cmd.tareRight
  let floorZ ← readOptionalNumber root "floor_z_m" cmd.floorZM
  let floorEnabled ← readOptionalBool root "floor_enabled" cmd.floorEnabled
  let cmd ← readRoiBounds root { cmd with
    tareLeft := tareLeft
    tareRight := tareRight
    floorZM := floorZ
    hasFloorZ := root.contains "floor_z_m"
    floorEnabled := floorEnabled
    hasFloorEnabled := root.contains "floor_enabled" }
  let cmd ← readExternalBoxes root cmd
  readUserFloorPlane root cmd

/-- Motion fields at the root of a packet without arm objects: read into the left arm, copied
to the right one.  `force_control` is not looked for here. -/
def readRootMotionFields (root : Object) (left right : ArmCommand) :
    Option (ArmCommand × ArmCommand) := do
  let joints ← readOptionalJointArray root "q_target_deg"
  let profileText ← readOptionalString root "joint_target_profile" ""
  let profile ←
    if profileText = "" then some none
    else (jointTargetProfileFromString profileText).map some
  let tcpTarget ← readTcpTarget root
  let left ← readOptionalLinearMoveFields root { left with
    qTargetDeg := joints.getD left.qTargetDeg
    hasJointTarget := left.hasJointTarget || joints.isSome
    jointTargetProfile := profile.getD left.jointTargetProfile
    tcpTargetStand := tcpTarget.getD left.tcpTargetStand
    hasTcpTarget := left.hasTcpTarget || tcpTarget.isSome }
  return (left, { right with
    qTargetDeg := left.qTargetDeg
    hasJointTarget := right.hasJointTarget || joints.isSome
    jointTargetProfile := profile.getD right.jointTargetProfile
    tcpTargetStand := left.tcpTargetStand
    hasTcpTarget := right.hasTcpTarget || tcpTarget.isSome
    linearMoveDurationSec := left.linearMoveDurationSec
    linearMoveLinearSpeedMS := left.linearMoveLinearSpeedMS
    linearMoveAngularSpeedRadS := left.linearMoveAngularSpeedRadS
    linearMoveOrientationMode := left.linearMoveOrientationMode
    hasLinearMoveDuration := right.hasLinearMoveDuration || left.hasLinearMoveDuration
    hasLinearMoveLinearSpeed := right.hasLinearMoveLinearSpeed || left.hasLinearMoveLinearSpeed
    hasLinearMoveAngularSpeed := right.hasLinearMoveAngularSpeed || left.hasLinearMoveAngularSpeed
    hasLinearMoveOrientationMode :=
      right.hasLinearMoveOrientationMode || left.hasLinearMoveOrientationMode })

/-- Both arm objects, or the motion fields at the root when the packet has neither. -/
def parseArms (root : Object) (seq receiveTimeNs : Nat) (defaultMode : ControlMode)
    (timeoutSec : Double) : Option (ArmCommand × ArmCommand) := do
  let _ ← readOptionalString root "arm" ""
  let leftObject := (root.lookup "left").getD .null
  let rightObject := (root.lookup "right").getD .null
  let left ← parseArmObject leftObject .left seq receiveTimeNs defaultMode timeoutSec
  let right ← parseArmObject rightObject .right seq receiveTimeNs defaultMode timeoutSec
  if !root.contains "left" && !root.contains "right" then readRootMotionFields root left right
  else return (left, right)

/-- `parseMessage` up to the required-payload checks. -/
def parsePacket (cfg : CommandServerConfig) (root : Object) (receiveTimeNs : Nat) :
    Option ParsedPacket := do
  let cmd ← parseHeader cfg root receiveTimeNs
  let modeString ← readOptionalString root "mode" "Hold"
  let acquire := isAcquireLeaseModeString modeString
  let release := isReleaseLeaseModeString modeString
  let defaultMode ←
    if acquire || release then some ControlMode.hold else controlModeFromString modeString
  guard (positiveTimeout cfg.commandTimeoutSec)
  let timeoutSec ← readOptionalNumber root "timeout_sec" cfg.commandTimeoutSec
  guard (positiveTimeout timeoutSec)
  let cmd ← readSafetyPayloads root { cmd with leaseAdminOnly := acquire || release }
  let (left, right) ← parseArms root cmd.seq receiveTimeNs defaultMode timeoutSec
  guard (!requiresPayload left.mode || hasRequiredPayload left)
  guard (!requiresPayload right.mode || hasRequiredPayload right)
  return {
    cmd := { cmd with left := left, right := right }
    acquireLeaseOnly := acquire
    releaseLeaseOnly := release }

end RbServo
