import RoboticsLab.Control.SetpointInterpolator

/-!
# `rb_servo/robot/backend_result.cpp`: errors and results of an arm backend

The records a backend call returns, as far as the arm worker reads them.
-/

namespace RbServo

inductive BackendErrorKind
  | none
  | transportConnectFailed
  | transportWriteFailed
  | transportReadFailed
  | transportTimeout
  | protocolError
  | unsupportedSchema
  | wrongArm
  | wrongEndpoint
  | unknownArm
  | robotDisconnected
  | robotNotInitialized
  | servoDisabled
  | wrongMode
  | robotFault
  | invalidJointState
  | invalidTarget
  | controllerRejected
  | commandTimeout
  | dependencyUnavailable
  | suppressedByPolicy
  | unknown
deriving DecidableEq

def BackendErrorKind.toString : BackendErrorKind → String
  | .none => "None"
  | .transportConnectFailed => "TransportConnectFailed"
  | .transportWriteFailed => "TransportWriteFailed"
  | .transportReadFailed => "TransportReadFailed"
  | .transportTimeout => "TransportTimeout"
  | .protocolError => "ProtocolError"
  | .unsupportedSchema => "UnsupportedSchema"
  | .wrongArm => "WrongArm"
  | .wrongEndpoint => "WrongEndpoint"
  | .unknownArm => "UnknownArm"
  | .robotDisconnected => "RobotDisconnected"
  | .robotNotInitialized => "RobotNotInitialized"
  | .servoDisabled => "ServoDisabled"
  | .wrongMode => "WrongMode"
  | .robotFault => "RobotFault"
  | .invalidJointState => "InvalidJointState"
  | .invalidTarget => "InvalidTarget"
  | .controllerRejected => "ControllerRejected"
  | .commandTimeout => "CommandTimeout"
  | .dependencyUnavailable => "DependencyUnavailable"
  | .suppressedByPolicy => "SuppressedByPolicy"
  | .unknown => "Unknown"

/-- The retry and fault flags are read by the servo loop only. -/
structure BackendError where
  kind : BackendErrorKind := .none
  code : String := ""
  name : String := "None"
  message : String := ""
deriving DecidableEq

def backendError (kind : BackendErrorKind) (message : String) (code name : String) : BackendError :=
  { kind := kind
    code := code
    name := if name = "" then kind.toString else name
    message := message }

structure BackendTiming where
  startNs : Nat := 0
  endNs : Nat := 0
  durationUs : Double := .fin 0
deriving DecidableEq

def makeBackendTiming (startNs endNs : Nat) : BackendTiming :=
  { startNs := startNs
    endNs := endNs
    durationUs := if startNs ≤ endNs then .fin ((endNs - startNs : Nat) / 1000) else .fin 0 }

inductive BackendAckPolicy
  | backendDefault
  | wait
  | disabled
deriving DecidableEq

/-- The RBACK columns the worker feeds to the queue-sync law. -/
structure RbpodoQueueAckTelemetry where
  observed : Bool := false
  fill : Int := -1
  sequence : Nat := 0
deriving DecidableEq

structure SendServoJResult where
  accepted : Bool := false
  error : BackendError := {}
  timing : BackendTiming := {}
  ackPolicy : BackendAckPolicy := .backendDefault
  ackObserved : Bool := false
  controllerAcceptanceObserved : Bool := false
  ackWaitDurationUs : Double := .fin 0
  rbpodoWaitingAck : Bool := false
  acceptanceSemantics : String := "unknown"
  requestedQDeg : JointArray := fun _ => .fin 0
  queueAck : RbpodoQueueAckTelemetry := {}
deriving DecidableEq

def acceptedSend (request : SendServoJRequest Double) (timing : BackendTiming) : SendServoJResult :=
  { accepted := true, timing := timing, requestedQDeg := request.qTargetDeg }

def rejectedSend (request : SendServoJRequest Double) (error : BackendError)
    (timing : BackendTiming) : SendServoJResult :=
  { accepted := false, error := error, timing := timing, requestedQDeg := request.qTargetDeg }

structure ArmSendResult where
  request : SendServoJRequest Double
  result : SendServoJResult
  dispatchTiming : BackendTiming

/-- The columns of `RobotState` that the reference supervision reads. -/
structure RobotState where
  qRefValid : Bool := false
  hasValidJointState : Bool := false
  qTargetDeg : JointArray := fun _ => .fin 0

/-- `BackendResult<RobotState>`. -/
structure BackendReadResult where
  ok : Bool := false
  value : RobotState := {}

end RbServo
