import RoboticsLab.Control.AsyncSupervision
import RoboticsLab.Lib.Numerals

/-!
# `mapRbpodoSystemStateSnapshot`: a controller frame as a robot state

The status words of a frame are shape-checked (`interpretRbpodoDiagnostics`), the first clear fault among them is picked
in a fixed order (`firstClearRbpodoFault`), and both make the error columns of the robot state.  Only the documented low
bits of a word count: sos and ems have six, the collision flags two.
-/

namespace RbServo.Rbpodo

/-! ## Records -/

inductive BackendType
  | rbpodo
  | mock
deriving DecidableEq

inductive RunMode
  | real
  | simulation
  | mock
deriving DecidableEq

/-- The columns the status decoding reads. -/
structure BackendConfig where
  backendType : BackendType
  runMode : RunMode
  operationMode : String
  allowControllerSimulationDiagnosticsSuspect : Bool := false
  controllerSimulationTreatUnreliableStatusFieldsAsUnavailable : Bool := false
  controllerSimulationDemoteSelfCollisionFault : Bool := false
  allowRealMotionWithSuspectDiagnostics : Bool := false
  allowControllerSimulationInitError : Bool := false

structure RbpodoSystemStateSnapshot where
  qActualDeg : JointArray := fun _ => .fin 0
  qTargetDeg : JointArray := fun _ => .fin 0
  robotTimeSec : Double := .fin 0
  realVsSimulationMode : Int32 := 0
  initStateInfo : Int32 := 0
  initError : Int32 := 0
  opStatSosFlag : Int32 := 0
  opStatEmsFlag : Int32 := 0
  opStatSoftEstopOccur : Int32 := 0
  opStatCollisionOccur : Int32 := 0
  opStatSelfCollision : Int32 := 0
  robotState : Int32 := 0
  eft : Fin 6 → Double := fun _ => .fin 0
  eftInFrame : Bool := true
  tcpPos : Fin 6 → Double := fun _ => .fin 0
  tcpRef : Fin 6 → Double := fun _ => .fin 0
  isFreedriveMode : Int32 := 0

structure RbpodoStateDecodeOptions where
  controllerSimulationUnreliableStatusFieldsUnavailable : Bool := false
  realMotionSuspectDiagnosticsAccepted : Bool := false
  demoteSelfCollisionFault : Bool := false

structure RbpodoRawDiagnostics where
  timeSec : Double := .fin 0
  realVsSimulationMode : Int32 := 0
  initStateInfo : Int32 := 0
  initError : Int32 := 0
  opStatSosFlag : Int32 := 0
  opStatEmsFlag : Int32 := 0
  opStatSoftEstopOccur : Int32 := 0
  opStatCollisionOccur : Int32 := 0
  opStatSelfCollision : Int32 := 0

structure RbpodoDiagnosticsSnapshot where
  diagnosticsValid : Bool := true
  diagnosticsSuspect : Bool := false
  reason : String := ""
  errorName : String := ""
  stableErrorCode : Int32 := 0
  raw : RbpodoRawDiagnostics := {}
  unavailableFields : List String := []

structure RbpodoInterpretedFault where
  code : Int32
  name : String

structure Wrench6D where
  fx : Double
  fy : Double
  fz : Double
  tx : Double
  ty : Double
  tz : Double

inductive RobotConnectionState
  | disconnected
  | connected
  | error
deriving DecidableEq

/-- The columns of `RobotState` that the mapping writes. -/
structure RobotState where
  armId : ArmId
  hostTimeNs : ℕ
  robotTimeNs : ℕ
  qActualDeg : JointArray
  qTargetDeg : JointArray
  dqActualDegS : JointArray
  qActualValid : Bool
  qRefValid : Bool
  qRefSource : String
  rbpodoSdkStateSource : String
  rbpodoStateDecodePolicy : String
  hasValidJointState : Bool
  eftWrench : Wrench6D
  eftValid : Bool
  boxTcpPos : Fin 6 → Double
  boxTcpRef : Fin 6 → Double
  boxTcpValid : Bool
  connectionState : RobotConnectionState
  servoEnabled : Bool
  controllerMotionState : Int32
  controllerFreedriveOn : Bool
  hasError : Bool
  faultRecoverable : Option Bool
  lifecycleState : String
  errorCode : Int32
  diagnosticErrorSource : String
  rbpodoDiagnostics : Option RbpodoDiagnosticsSnapshot

/-! ## Gates -/

def expectedSimulationMode (config : BackendConfig) : Bool :=
  let operationMode := lower config.operationMode
  decide (operationMode = "simulation" ∨ operationMode = "sim")

def rbpodoControllerSimulationMotionGateOpen (config : BackendConfig) : Bool :=
  decide (config.backendType = .rbpodo) && decide (config.runMode = .real) && expectedSimulationMode config

def rbpodoSuspectDiagnosticsRealMotionGateOpen (config : BackendConfig) : Bool :=
  decide (config.backendType = .rbpodo) && decide (config.runMode = .real) && !expectedSimulationMode config &&
    config.allowRealMotionWithSuspectDiagnostics

def decodeOptionsForConfig (config : BackendConfig) : RbpodoStateDecodeOptions :=
  let controllerSimUnreliableGate := config.controllerSimulationTreatUnreliableStatusFieldsAsUnavailable &&
    rbpodoControllerSimulationMotionGateOpen config
  let realMotionSuspectGate := rbpodoSuspectDiagnosticsRealMotionGateOpen config
  { controllerSimulationUnreliableStatusFieldsUnavailable := controllerSimUnreliableGate || realMotionSuspectGate
    realMotionSuspectDiagnosticsAccepted := realMotionSuspectGate
    demoteSelfCollisionFault := config.controllerSimulationDemoteSelfCollisionFault &&
      rbpodoControllerSimulationMotionGateOpen config }

/-! ## Diagnostics -/

def kRbpodoDiagnosticsSuspectCode : Int32 := -2001

def kRbpodoSoftEstopCode : Int32 := 1003

def kRbpodoCollisionCode : Int32 := 1004

def kRbpodoSelfCollisionCode : Int32 := 1005

def kRbpodoSuspiciousRawCodeCutoff : Int32 := 1000000

def kRbpodoMinPlausibleNonZeroTimeSec : Double := .fin (1 / 10 ^ 6)

def kRbpodoCollisionOccurMask : Int32 := 0b11

def kRbpodoSelfCollisionMask : Int32 := 0b11

def kRbpodoStatusCodeMask : Int32 := 0b111111

def rbpodoModeFieldIsKnown (realVsSimulationMode : Int32) : Bool :=
  decide (realVsSimulationMode = 0 ∨ realVsSimulationMode = 1)

def appendDiagnosticReason (reason item : String) : String := (if reason = "" then reason else reason ++ "; ") ++ item

def rbpodoBooleanFlagValue (value : Int32) : Bool := decide (value = 0 ∨ value = 1)

def rbpodoSuspiciousRawCode (value : Int32) : Bool :=
  decide (kRbpodoSuspiciousRawCodeCutoff ≤ value ∨ value ≤ -kRbpodoSuspiciousRawCodeCutoff)

def rawDiagnosticsFromSnapshot (snapshot : RbpodoSystemStateSnapshot) : RbpodoRawDiagnostics where
  timeSec := snapshot.robotTimeSec
  realVsSimulationMode := snapshot.realVsSimulationMode
  initStateInfo := snapshot.initStateInfo
  initError := snapshot.initError
  opStatSosFlag := snapshot.opStatSosFlag
  opStatEmsFlag := snapshot.opStatEmsFlag
  opStatSoftEstopOccur := snapshot.opStatSoftEstopOccur
  opStatCollisionOccur := snapshot.opStatCollisionOccur
  opStatSelfCollision := snapshot.opStatSelfCollision

/-- Invalid and suspect, for this reason. -/
def RbpodoDiagnosticsSnapshot.suspect (diagnostics : RbpodoDiagnosticsSnapshot) (item : String) :
    RbpodoDiagnosticsSnapshot :=
  { diagnostics with
      diagnosticsValid := false
      diagnosticsSuspect := true
      reason := appendDiagnosticReason diagnostics.reason item }

def markSuspiciousFlag (diagnostics : RbpodoDiagnosticsSnapshot) (fieldName : String) (value : Int32) :
    RbpodoDiagnosticsSnapshot :=
  if rbpodoBooleanFlagValue value then diagnostics
  else diagnostics.suspect (fieldName ++ " expected 0/1 but was " ++ toString value)

def markUnavailableField (diagnostics : RbpodoDiagnosticsSnapshot) (fieldName : String) : RbpodoDiagnosticsSnapshot :=
  if fieldName ∈ diagnostics.unavailableFields then diagnostics
  else { diagnostics with unavailableFields := diagnostics.unavailableFields ++ [fieldName] }

def markSuspiciousBoundedCode (diagnostics : RbpodoDiagnosticsSnapshot) (fieldName : String)
    (value minValue maxValue : Int32) : RbpodoDiagnosticsSnapshot :=
  if minValue ≤ value ∧ value ≤ maxValue then diagnostics
  else diagnostics.suspect (fieldName ++ " expected " ++ toString minValue ++ ".." ++
    toString maxValue ++ " but was " ++
    toString value)

/-- The nearest integer, the even one of two. -/
def roundHalfEven (x : ℚ) : ℕ :=
  let n := ⌊x⌋.toNat
  if x - n < 1 / 2 then n else if 1 / 2 < x - n then n + 1 else n + n % 2

/-- `std::to_string`: six decimals. -/
def toStringDouble : Double → String
  | .nan => "nan"
  | .negInf => "-inf"
  | .posInf => "inf"
  | .fin q =>
    let n := roundHalfEven (|q| * 10 ^ 6)
    let decimals := toString (n % 10 ^ 6)
    (if q < 0 then "-" else "") ++ toString (n / 10 ^ 6) ++ "." ++
      String.ofList (List.replicate (6 - decimals.length) '0') ++ decimals

/-- `0.0 < t && t < kRbpodoMinPlausibleNonZeroTimeSec`. -/
def timeImplausiblySmall (t : Double) : Bool := Double.lt (.fin 0) t && t.lt kRbpodoMinPlausibleNonZeroTimeSec

/-- The check of the time. -/
def markTime (diagnostics : RbpodoDiagnosticsSnapshot) (t : Double) (unreliableFieldsUnavailable : Bool) :
    RbpodoDiagnosticsSnapshot :=
  if unreliableFieldsUnavailable && (!t.isFinite || t.le (.fin 0) || timeImplausiblySmall t) then
    markUnavailableField diagnostics "robot_time_sec"
  else if !t.isFinite then diagnostics.suspect "time was non-finite"
  else if t.lt (.fin 0) || timeImplausiblySmall t then
    diagnostics.suspect ("time was implausible: " ++ toStringDouble t)
  else diagnostics

/-- The check of the self-collision word. -/
def markSelfCollision (diagnostics : RbpodoDiagnosticsSnapshot) (value : Int32) (unreliableFieldsUnavailable : Bool) :
    RbpodoDiagnosticsSnapshot :=
  if unreliableFieldsUnavailable then markUnavailableField diagnostics "op_stat_self_collision"
  else markSuspiciousFlag diagnostics "op_stat_self_collision" (value &&& kRbpodoSelfCollisionMask)

/-- The check of the mode. -/
def markMode (diagnostics : RbpodoDiagnosticsSnapshot) (mode : Int32) : RbpodoDiagnosticsSnapshot :=
  if rbpodoModeFieldIsKnown mode then diagnostics
  else diagnostics.suspect ("real_vs_simulation_mode unknown: " ++ toString mode)

/-- The code of suspect diagnostics, and the unavailable fields as a reason. -/
def finishDiagnostics (diagnostics : RbpodoDiagnosticsSnapshot) : RbpodoDiagnosticsSnapshot :=
  let coded := if diagnostics.diagnosticsSuspect then
      { diagnostics with
          errorName := "rbpodo_diagnostics_suspect"
          stableErrorCode := kRbpodoDiagnosticsSuspectCode }
    else diagnostics
  if coded.unavailableFields = [] then coded
  else
    { coded with
        reason := appendDiagnosticReason coded.reason
          ("unavailable fields under controller-simulation decode policy: " ++
            String.intercalate "," coded.unavailableFields) }

def interpretRbpodoDiagnostics (snapshot : RbpodoSystemStateSnapshot) (decodeOptions : RbpodoStateDecodeOptions) :
    RbpodoDiagnosticsSnapshot :=
  let unreliableFieldsUnavailable := decodeOptions.controllerSimulationUnreliableStatusFieldsUnavailable
  let diagnostics : RbpodoDiagnosticsSnapshot := { raw := rawDiagnosticsFromSnapshot snapshot }
  let diagnostics := markSuspiciousBoundedCode diagnostics "op_stat_sos_flag"
    (snapshot.opStatSosFlag &&& kRbpodoStatusCodeMask) 0 12
  let diagnostics := markSuspiciousBoundedCode diagnostics "op_stat_ems_flag"
    (snapshot.opStatEmsFlag &&& kRbpodoStatusCodeMask) 0 4
  let diagnostics := markSuspiciousFlag diagnostics "op_stat_soft_estop_occur" snapshot.opStatSoftEstopOccur
  let diagnostics := markSuspiciousFlag diagnostics "op_stat_collision_occur"
    (snapshot.opStatCollisionOccur &&& kRbpodoCollisionOccurMask)
  let diagnostics := markSelfCollision diagnostics snapshot.opStatSelfCollision unreliableFieldsUnavailable
  let diagnostics := markTime diagnostics snapshot.robotTimeSec unreliableFieldsUnavailable
  let diagnostics := markMode diagnostics snapshot.realVsSimulationMode
  finishDiagnostics diagnostics

/-! ## Faults -/

def firstClearRbpodoFault (snapshot : RbpodoSystemStateSnapshot) (diagnostics : RbpodoDiagnosticsSnapshot)
    (decodeOptions : RbpodoStateDecodeOptions) : Option RbpodoInterpretedFault :=
  let sosFlag := snapshot.opStatSosFlag &&& kRbpodoStatusCodeMask
  let emsFlag := snapshot.opStatEmsFlag &&& kRbpodoStatusCodeMask
  if 1 ≤ sosFlag ∧ sosFlag ≤ 12 then some ⟨sosFlag, "rbpodo_sos_flag"⟩
  else if snapshot.initError ≠ 0 then some ⟨snapshot.initError, "rbpodo_init_error"⟩
  else if 1 ≤ emsFlag ∧ emsFlag ≤ 4 then some ⟨emsFlag, "rbpodo_ems_flag"⟩
  else if snapshot.opStatSoftEstopOccur = 1 then some ⟨kRbpodoSoftEstopCode, "rbpodo_soft_estop"⟩
  else if snapshot.opStatCollisionOccur &&& kRbpodoCollisionOccurMask = 1 then
    some ⟨kRbpodoCollisionCode, "rbpodo_collision"⟩
  else if !decodeOptions.demoteSelfCollisionFault ∧ snapshot.opStatSelfCollision &&& kRbpodoSelfCollisionMask = 1 then
    some ⟨kRbpodoSelfCollisionCode, "rbpodo_self_collision"⟩
  -- of a suspect frame only the soft stop, which has no reserved bits, is read raw
  else if diagnostics.diagnosticsSuspect ∧ snapshot.opStatSoftEstopOccur ≠ 0 ∧
      !rbpodoSuspiciousRawCode snapshot.opStatSoftEstopOccur then
    some ⟨snapshot.opStatSoftEstopOccur, "rbpodo_soft_estop_suspect"⟩
  else none

/-! ## The mapping -/

def allFinite (values : Fin 6 → Double) : Bool := decide (∀ i, (values i).isFinite = true)

/-- `mapRbpodoSystemStateSnapshot` with decode options; `nowNs` is the steady clock. -/
def mapSnapshot (nowNs : ℕ) (armId : ArmId) (snapshot : RbpodoSystemStateSnapshot)
    (decodeOptions : RbpodoStateDecodeOptions) : RobotState :=
  let diagnostics := interpretRbpodoDiagnostics snapshot decodeOptions
  let clearFault := firstClearRbpodoFault snapshot diagnostics decodeOptions
  let qActualValid := finiteJointArray snapshot.qActualDeg
  let qRefValid := finiteJointArray snapshot.qTargetDeg
  let hasError := clearFault.isSome || diagnostics.diagnosticsSuspect
  let servoEnabled := decide (snapshot.initStateInfo = 6)
  let hasValidJointState := qActualValid && qRefValid
  { armId := armId
    hostTimeNs := nowNs
    robotTimeNs :=
      if snapshot.robotTimeSec.isFinite && Double.le (.fin 0) snapshot.robotTimeSec then
        (snapshot.robotTimeSec.mul (.fin 1000000000)).round.toU64
      else 0
    qActualDeg := snapshot.qActualDeg
    qTargetDeg := snapshot.qTargetDeg
    dqActualDegS := fun _ => .fin 0
    qActualValid := qActualValid
    qRefValid := qRefValid
    qRefSource := "rbpodo.sdata.jnt_ref"
    rbpodoSdkStateSource := "CobotData.request_data"
    rbpodoStateDecodePolicy :=
      if decodeOptions.realMotionSuspectDiagnosticsAccepted then "real_motion_suspect_diagnostics_accepted"
      else if decodeOptions.controllerSimulationUnreliableStatusFieldsUnavailable then
        "controller_sim_unreliable_fields_unavailable"
      else "bounded_status_codes_with_boolean_safety_flags"
    hasValidJointState := hasValidJointState
    eftWrench := ⟨snapshot.eft 0, snapshot.eft 1, snapshot.eft 2, snapshot.eft 3, snapshot.eft 4, snapshot.eft 5⟩
    eftValid := snapshot.eftInFrame && allFinite snapshot.eft
    boxTcpPos := snapshot.tcpPos
    boxTcpRef := snapshot.tcpRef
    boxTcpValid := snapshot.eftInFrame && allFinite snapshot.tcpPos && allFinite snapshot.tcpRef
    connectionState := .connected
    servoEnabled := servoEnabled
    controllerMotionState := snapshot.robotState
    controllerFreedriveOn := decide (snapshot.isFreedriveMode = 1)
    hasError := hasError
    faultRecoverable := if hasValidJointState && hasError then some true else none
    lifecycleState :=
      if !hasValidJointState then "invalid_joint_state"
      else if diagnostics.diagnosticsSuspect && clearFault.isNone then "diagnostics_suspect"
      else if hasError then "faulted"
      else if servoEnabled then "servo_enabled"
      else "connected_not_motion_ready"
    errorCode :=
      match clearFault with
      | some fault => fault.code
      | none => if diagnostics.diagnosticsSuspect then diagnostics.stableErrorCode else 0
    diagnosticErrorSource :=
      match clearFault with
      | some fault => fault.name
      | none => diagnostics.errorName
    rbpodoDiagnostics := some diagnostics }

def mapRbpodoSystemStateSnapshot (nowNs : ℕ) (armId : ArmId) (snapshot : RbpodoSystemStateSnapshot)
    (config : BackendConfig) : RobotState := mapSnapshot nowNs armId snapshot (decodeOptionsForConfig config)

end RbServo.Rbpodo
