import Mathlib.Order.Basic
import Mathlib.Data.String.Basic
import RoboticsLab.Lib.PyValue

/-!
# `SpaceMouseDeviceRegistry`

The discovery thread opens the matching devices (`scan_once`) and reads them (`poll_once`); `handleControl` assigns
connections to the arms; `sampleForArm` is what the arms read.  The thread takes the lock once for each section and
reads a device outside it, so its progress is part of the state (`DiscoveryThread`), and a step is one section of the
thread or a call from another one:

    step : Registry → RegistryStep → Registry

A connection stands for its reader.  `issued` and `reads` are history: the connection ids given out, and the samples
read, each with the connection whose reader was read.
-/

namespace PolicyRunner.SpaceMouse

structure HidDescriptor where
  path : String
  vendorId : ℤ
  productId : ℤ
  interfaceNumber : ℤ
  product : String
  serial : String
deriving DecidableEq

structure SpaceMouseSample where
  tx : Double
  ty : Double
  tz : Double
  rx : Double
  ry : Double
  rz : Double
  buttons : List Bool
  timestampMonotonic : Double
deriving DecidableEq

structure ConnectedDevice where
  descriptor : HidDescriptor
  connectionId : String
  sample : Option SpaceMouseSample
  activity : Double
  neutral : Bool
  error : String

structure RegistryConfig where
  vendorId : ℤ
  productId : ℤ
  interfaceNumber : ℤ
  neutralThreshold : Double

inductive Arm
  | left
  | right

/-- Where the discovery thread is. -/
inductive DiscoveryThread
  | idle
  | scanning (candidates : List HidDescriptor)
  | polling (paths : List String)
  /-- The device was looked up; its reader is read. -/
  | reading (device : ConnectedDevice) (paths : List String)
  | storing (device : ConnectedDevice) (sample : SpaceMouseSample) (paths : List String)
  | failed (device : ConnectedDevice) (error : String) (paths : List String)

structure Registry where
  /-- In order of insertion; the key of a device is its path. -/
  devices : List ConnectedDevice
  left : Option String
  right : Option String
  generation : ℕ
  connectionCounter : ℕ
  lastCommandSeq : ℤ
  lastResult : String
  lastError : String
  scanError : String
  thread : DiscoveryThread
  issued : List String
  reads : List (String × SpaceMouseSample)

def Registry.init : Registry where
  devices := []
  left := none
  right := none
  generation := 0
  connectionCounter := 0
  lastCommandSeq := 0
  lastResult := ""
  lastError := ""
  scanError := ""
  thread := .idle
  issued := []
  reads := []

/-- `f"sm-{generation}-{connection_counter}"`. -/
def connectionIdOf (generation connectionCounter : ℕ) : String :=
  "sm-" ++ generation.repr ++ "-" ++ connectionCounter.repr

namespace Registry

variable (cfg : RegistryConfig) (py : PyText) (s : Registry)

def findDevice (path : String) : Option ConnectedDevice := s.devices.find? fun d => d.descriptor.path = path

/-- `_disconnect_locked`. -/
def disconnectLocked (path reason : String) : Registry :=
  match s.findDevice path with
  | none => s
  | some device =>
    { s with
      devices := s.devices.filter fun d => d.descriptor.path ≠ path
      left := if s.left = some device.connectionId then none else s.left
      right := if s.right = some device.connectionId then none else s.right
      generation := s.generation + 1
      lastError := reason }

/-! ## `scan_once` -/

/-- `candidates[path] = descriptor`. -/
def putCandidate (candidates : List HidDescriptor) (d : HidDescriptor) : List HidDescriptor :=
  if candidates.any fun c => c.path = d.path then candidates.map fun c => if c.path = d.path then d else c
  else candidates ++ [d]

/-- The descriptors of the enumeration that match, by path. -/
def candidatesOf (found : List HidDescriptor) : List HidDescriptor :=
  (found.filter fun d => d.path ≠ "" ∧ d.vendorId = cfg.vendorId ∧ d.productId = cfg.productId ∧
    d.interfaceNumber = cfg.interfaceNumber).foldl putCandidate []

/-- What the thread does before it takes the lock. -/
def enumerate (found : Except String (List HidDescriptor)) : Registry :=
  match found with
  | .error e => { s with scanError := e }
  | .ok found => { s with scanError := "", thread := .scanning (candidatesOf cfg found) }

/-- A candidate whose path is not connected yet. -/
def connect (readerFactory : String → Except String Unit) (descriptor : HidDescriptor) : Registry :=
  match s.findDevice descriptor.path with
  | some _ => s
  | none =>
    match readerFactory descriptor.path with
    | .error e => { s with scanError := "open_failed:" ++ descriptor.path ++ ":" ++ e }
    | .ok () =>
      let connectionId := connectionIdOf (s.generation + 1) (s.connectionCounter + 1)
      { s with
        connectionCounter := s.connectionCounter + 1
        generation := s.generation + 1
        devices := s.devices ++ [⟨descriptor, connectionId, none, .fin 0, true, ""⟩]
        issued := s.issued ++ [connectionId] }

/-- The devices that were not enumerated. -/
def removeMissing (candidates : List HidDescriptor) : Registry :=
  let removed := (s.devices.map (·.descriptor.path)).filter fun p => !candidates.any fun c => c.path = p
  (removed.mergeSort fun a b => a ≤ b).foldl (fun s p => s.disconnectLocked p "device_removed") s

def connectAll (readerFactory : String → Except String Unit) (candidates : List HidDescriptor) : Registry :=
  (candidates.mergeSort fun a b => a.path ≤ b.path).foldl (fun s c => s.connect readerFactory c) s

/-- The locked section of `scan_once`. -/
def scanLocked (readerFactory : String → Except String Unit) (candidates : List HidDescriptor) : Registry :=
  { (s.removeMissing candidates).connectAll readerFactory candidates with thread := .idle }

/-! ## `poll_once` -/

/-- The next path of the loop: its device is looked up. -/
def lookup (path : String) (paths : List String) : Registry :=
  match s.findDevice path with
  | none => { s with thread := .polling paths }
  | some device => { s with thread := .reading device paths }

/-- The read, outside the lock. -/
def read (device : ConnectedDevice) (paths : List String) (result : Except String (Option SpaceMouseSample)) :
    Registry :=
  match result with
  | .error e => { s with thread := .failed device e paths }
  | .ok none => { s with thread := .polling paths }
  | .ok (some sample) =>
    { s with thread := .storing device sample paths, reads := s.reads ++ [(device.connectionId, sample)] }

def activityOf (sample : SpaceMouseSample) : Double :=
  [sample.ty, sample.tz, sample.rx, sample.ry, sample.rz].foldl (fun m x => m.max x.abs) sample.tx.abs

/-- A sample is stored by the path of the device. -/
def store (path : String) (sample : SpaceMouseSample) (paths : List String) : Registry :=
  { s with
    devices := s.devices.map fun d =>
      if d.descriptor.path = path then
        { d with
          sample := some sample
          activity := activityOf sample
          neutral := (activityOf sample).le cfg.neutralThreshold
          error := "" }
      else d
    thread := .polling paths }

/-! ## Calls from other threads -/

def assigned : Arm → Option String
  | .left => s.left
  | .right => s.right

def sampleForArm (arm : Arm) : Option SpaceMouseSample :=
  (s.devices.find? fun d => some d.connectionId = s.assigned arm).bind (·.sample)

/-- `_reject_locked`. -/
def rejectLocked (reason : String) : Registry := { s with lastResult := "rejected", lastError := reason }

/-- `_optional_connection_id`. -/
def optionalConnectionId (v : Json) : Option String :=
  let text := py.strip (v.pyStrOrEmpty py)
  if text = "" then none else some text

/-- `int(payload.get("status_generation", -1) or -1)`. -/
def statusGeneration (payload : Json.Object) : Except PyError ℤ :=
  (payload.getOr "status_generation" (.numInteger (-1))).pyInt py

def setAssignments (left right : Option String) : Registry :=
  { s with left := left, right := right, generation := s.generation + 1, lastResult := "accepted", lastError := "" }

/-- The locked section of `handle_control`. -/
def controlLocked (payload : Json.Object) (expectedGeneration : ℤ) (command : String)
    (assignmentChangeAllowed : Bool) : Registry :=
  if !assignmentChangeAllowed then s.rejectLocked "active_owner"
  else if expectedGeneration ≠ s.generation then s.rejectLocked "stale_generation"
  else if command = "set" then
    let left := optionalConnectionId py (payload.getD "left_connection_id")
    let right := optionalConnectionId py (payload.getD "right_connection_id")
    if left ≠ none ∧ left = right then s.rejectLocked "duplicate_assignment"
    else if [left, right].any fun v => v ≠ none ∧ v ∉ s.devices.map fun d => some d.connectionId then
      s.rejectLocked "unknown_connection"
    else s.setAssignments left right
  else if command = "swap" then s.setAssignments s.right s.left
  else s.rejectLocked "unsupported_command"

/-- `handle_control`: what it returns, and the registry after it. -/
def handleControl (payload : Json.Object) (assignmentChangeAllowed : Bool) : Except PyError Bool × Registry :=
  if (payload.getD "schema").isString ≠ some "robotics_lab.spacemouse_assignment_cmd.v1" then (.ok false, s)
  else
    match (payload.getOr "seq" (.numInteger 0)).pyInt py, statusGeneration py payload with
    | .error e, _ => (.error e, s)
    | .ok _, .error e => (.error e, s)
    | .ok seq, .ok expectedGeneration =>
      (.ok true, ({ s with lastCommandSeq := seq } : Registry).controlLocked py payload expectedGeneration
        ((payload.getOr "command" (.str "")).pyStr py) assignmentChangeAllowed)

/-! ## `status_block` -/

structure DeviceStatus where
  connectionId : String
  state : String
  arm : String
  product : String
  serial : String
  path : String
  interfaceNumber : ℤ
  activity : Double
  neutral : Bool
  neutralThreshold : Double
  hasSample : Bool
  sampleAgeSec : Option Double
  rawAxes : Option (List Double)
  error : String

structure StatusBlock where
  generation : ℕ
  scanState : String
  scanError : String
  assignmentChangeAllowed : Bool
  blockReason : String
  leftConnectionId : Option String
  rightConnectionId : Option String
  devices : List DeviceStatus
  lastCommandSeq : ℤ
  lastResult : String
  lastError : String

/-- `arm_by_connection`: the later key wins. -/
def armByConnection (connectionId : String) : String :=
  if s.right = some connectionId then "right" else if s.left = some connectionId then "left" else "unassigned"

def deviceStatus (now : Double) (d : ConnectedDevice) : DeviceStatus where
  connectionId := d.connectionId
  state := "connected"
  arm := s.armByConnection d.connectionId
  product := d.descriptor.product
  serial := d.descriptor.serial
  path := d.descriptor.path
  interfaceNumber := d.descriptor.interfaceNumber
  activity := d.activity
  neutral := d.neutral
  neutralThreshold := cfg.neutralThreshold
  hasSample := d.sample.isSome
  sampleAgeSec := d.sample.map fun x => (Double.fin 0).max (now.sub x.timestampMonotonic)
  rawAxes := d.sample.map fun x => [x.tx, x.ty, x.tz, x.rx, x.ry, x.rz]
  error := d.error

def statusBlock (now : Double) (assignmentChangeAllowed : Bool) (blockReason : String) : StatusBlock where
  generation := s.generation
  scanState := if s.scanError = "" then "ready" else "error"
  scanError := s.scanError
  assignmentChangeAllowed := assignmentChangeAllowed
  blockReason := blockReason
  leftConnectionId := s.left
  rightConnectionId := s.right
  devices := (s.devices.mergeSort fun a b => a.connectionId ≤ b.connectionId).map (s.deviceStatus cfg now)
  lastCommandSeq := s.lastCommandSeq
  lastResult := s.lastResult
  lastError := s.lastError

/-- What `close` does once it holds the lock.  The thread it joined may still be at a read. -/
def close : Registry :=
  (s.devices.map (·.descriptor.path)).foldl (fun s p => s.disconnectLocked p "registry_closed") s

end Registry

/-! ## Steps -/

inductive RegistryStep
  | enumerate (found : Except String (List HidDescriptor))
  | scanLocked (readerFactory : String → Except String Unit)
  | startPoll
  | lookup
  | read (result : Except String (Option SpaceMouseSample))
  | settle
  | control (payload : Json.Object) (assignmentChangeAllowed : Bool)
  | close

variable (cfg : RegistryConfig) (py : PyText)

/-- A step of the thread that is not its next one does nothing. -/
def Registry.step (s : Registry) : RegistryStep → Registry
  | .enumerate found =>
    match s.thread with
    | .idle => s.enumerate cfg found
    | _ => s
  | .scanLocked readerFactory =>
    match s.thread with
    | .scanning candidates => s.scanLocked readerFactory candidates
    | _ => s
  | .startPoll =>
    match s.thread with
    | .idle => { s with thread := .polling (s.devices.map (·.descriptor.path)) }
    | _ => s
  | .lookup =>
    match s.thread with
    | .polling [] => { s with thread := .idle }
    | .polling (path :: paths) => s.lookup path paths
    | _ => s
  | .read result =>
    match s.thread with
    | .reading device paths => s.read device paths result
    | _ => s
  | .settle =>
    match s.thread with
    | .storing device sample paths => s.store cfg device.descriptor.path sample paths
    | .failed device e paths =>
      { s.disconnectLocked device.descriptor.path ("read_failed:" ++ e) with thread := .polling paths }
    | _ => s
  | .control payload assignmentChangeAllowed => (s.handleControl py payload assignmentChangeAllowed).2
  | .close => s.close

/-- The registry after the steps of a run. -/
def Registry.after (xs : List RegistryStep) : Registry := xs.foldl (Registry.step cfg py) Registry.init

end PolicyRunner.SpaceMouse
