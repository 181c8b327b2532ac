import RoboticsLab.Lib.Double
import Mathlib.Data.List.FinRange
import Mathlib.Data.Fintype.Basic

/-!
# `camera_server/camera/camera_manager.cpp`: supervisors, start, stop and snapshots

With reconnect enabled every camera has a supervisor thread.  A state holds what the threads share
(`running_`, `connected_`, the device info by serial, the time of the last frame of each camera) and where
each thread is.  One action is one step of one thread: a load of `running_`, a wait, a section under `mu_`, a
call of a device.  `start` and `stop` are called by one thread.  Locks other than `mu_` only exclude
interleavings and are left out.  What a device does, a frame and the time are chosen by the action.
-/

namespace CameraServer

/-! ## Configuration -/

structure CameraStreamConfig where
  enabled : Bool
  width : ℤ
  height : ℤ
  fps : ℤ
  format : String
deriving DecidableEq

structure CameraConfig where
  name : String
  backend : String
  serial : String
  device : String
  required : Bool
  color : CameraStreamConfig
  depth : CameraStreamConfig
  irLeft : CameraStreamConfig
  irRight : CameraStreamConfig
deriving DecidableEq

def enabledStreams (cam : CameraConfig) : List (String × CameraStreamConfig) :=
  [("color", cam.color), ("depth", cam.depth), ("ir_left", cam.irLeft), ("ir_right", cam.irRight)].filter
    fun s => s.2.enabled

def bytesPerPixelForFormat (format : String) : Except String ℕ :=
  if format = "rgb8" ∨ format = "bgr8" then .ok 3
  else if format = "z16" ∨ format = "y16" then .ok 2
  else if format = "y8" ∨ format = "mono8" then .ok 1
  else .error ("unsupported stream format: " ++ format)

def isDisallowedSerialPlaceholder (serial : String) : Bool :=
  let upper := serial.toUpper
  "REPLACE_".toList.isPrefixOf upper.toList || upper == "TODO" || upper == "CHANGEME" || upper == "UNKNOWN"

def validateStreams (cam : CameraConfig) : List (String × CameraStreamConfig) → Except String Unit
  | [] => .ok ()
  | (name, scfg) :: streams =>
    if scfg.width ≤ 0 ∨ scfg.height ≤ 0 then .error (cam.name ++ "." ++ name ++ " dimensions must be positive")
    else if scfg.fps ≤ 0 then .error (cam.name ++ "." ++ name ++ " fps must be positive")
    else match bytesPerPixelForFormat scfg.format with
    | .error e => .error e
    | .ok _ => validateStreams cam streams

/-- The loop of `validate_config` over the cameras. -/
def validateCameras (simulateCameras : Bool) : List CameraConfig → Except String Unit
  | [] => .ok ()
  | cam :: cams =>
    if cam.name = "" then .error "camera name cannot be empty"
    else if cam.backend ≠ "realsense" ∧ cam.backend ≠ "uvc" then
      .error ("camera " ++ cam.name ++ " has unsupported backend: " ++ cam.backend)
    else if cam.backend = "uvc" ∧ cam.required ∧ cam.device = "" then
      .error ("required uvc camera " ++ cam.name ++ " has empty device")
    else if cam.backend = "uvc" ∧ cam.depth.enabled then
      .error ("uvc camera " ++ cam.name ++ " does not support a depth stream")
    else if cam.backend = "uvc" ∧ (cam.irLeft.enabled ∨ cam.irRight.enabled) then
      .error ("uvc camera " ++ cam.name ++ " does not support infrared streams")
    else if cam.backend ≠ "uvc" ∧ cam.required ∧ cam.serial = "" then
      .error ("required camera " ++ cam.name ++ " has empty serial")
    else if cam.backend ≠ "uvc" ∧ isDisallowedSerialPlaceholder cam.serial then
      .error ("camera " ++ cam.name ++ " has invalid serial placeholder: " ++ cam.serial)
    else if cam.backend ≠ "uvc" ∧ !simulateCameras ∧ "MOCK_".toList.isPrefixOf cam.serial.toUpper.toList then
      .error ("camera " ++ cam.name ++ " uses MOCK_* serial but server.simulate_cameras=false")
    else match validateStreams cam (enabledStreams cam) with
    | .error e => .error e
    | .ok _ => validateCameras simulateCameras cams

structure ManagerConfig (n : ℕ) where
  cameras : Fin n → CameraConfig
  simulateCameras : Bool
  maxAttempts : ℕ
  frameTimeoutMs : ℕ

/-! ## Devices -/

structure RealSenseDeviceInfo where
  name : String
  serial : String
  firmwareVersion : String
  recommendedFirmwareVersion : String
  physicalPort : String
  productId : String
  usbType : String
deriving DecidableEq

/-- The device that was started last for a camera: what `active_device_info` reports of it, whether a frame of
it has arrived, and whether it is still delivering (it is not after `stop` or its destructor). -/
structure Pipeline where
  info : Option RealSenseDeviceInfo := none
  produced : Bool := false
  live : Bool := false
deriving DecidableEq

def validatedDeviceInfo (simulateCameras : Bool) (cam : CameraConfig) (info : Option RealSenseDeviceInfo) :
    Except String (Option RealSenseDeviceInfo) :=
  match info with
  | some d =>
    if d.serial = "" ∨ d.serial ≠ cam.serial then
      .error ("active camera serial mismatch for " ++ cam.name ++ ": expected=" ++ cam.serial ++ " actual=" ++
        d.serial)
    else .ok info
  | none =>
    if cam.backend = "realsense" ∧ !simulateCameras then
      .error ("active RealSense device info unavailable for " ++ cam.name)
    else .ok none

/-! ## States -/

/-- Where `supervise_camera` is. -/
inductive Pc
  | absent
  | outerLoop
  | retryCheck
  | retryWait
  | retryCount
  | resetFrameTime
  | clearIdentity
  | openDevice
  | validate
  | innerLoop
  | innerWait
  | loadFrameTime
  | publish
  | checkTimeout
  | timeoutSection
  | closeDevice
  | afterClose
  | failedSection
  | failedClose
  | exited
deriving DecidableEq

/-- A `CameraRuntime`, with the local variables of its supervisor. -/
structure CameraRuntime where
  pc : Pc := .absent
  pipeline : Pipeline := {}
  lastFrameTimeNs : ℕ := 0
  retriesUsed : ℕ := 0
  retry : Bool := false
  recoveryPending : Bool := false
  startNs : ℕ := 0
  deviceInfo : Option RealSenseDeviceInfo := none
  reportedConnected : Bool := false
  timedOut : Bool := false
  lastFrameNs : ℕ := 0
  currentNs : ℕ := 0
  error : String := ""
deriving DecidableEq

structure CameraReconnectStats where
  attemptCount : ℕ := 0
  successCount : ℕ := 0
  disconnectCount : ℕ := 0
  consecutiveFailures : ℕ := 0
  exhausted : Bool := false
  lastDisconnectTimeNs : ℕ := 0
  lastReconnectTimeNs : ℕ := 0
  lastError : String := ""
deriving DecidableEq

/-- Where the thread that calls `start` and `stop` is; `k` is the camera its loop has come to. -/
inductive Control
  | idle
  | startEnsure
  | startFailed
  | startSpawn (k : ℕ)
  | startWait (k : ℕ)
  | stopClear
  | stopJoin (k : ℕ)
  | stopDevice (k : ℕ)
  | stopFinal
deriving DecidableEq

structure CameraManager (n : ℕ) where
  running : Bool := false
  connected : String → Bool := fun _ => false
  realsenseDeviceInfo : String → Option RealSenseDeviceInfo := fun _ => none
  reconnectStats : String → CameraReconnectStats := fun _ => {}
  runtimes : Fin n → CameraRuntime := fun _ => {}
  control : Control := .idle

/-- What an action finds: the time, whether the device call throws, and what the device reports. -/
structure Env where
  nowNs : ℕ := 0
  throws : Option String := none
  info : Option RealSenseDeviceInfo := none

namespace CameraManager

variable {n : ℕ} (cfg : ManagerConfig n) (s : CameraManager n)

/-! ## The supervisor -/

def setRuntime (i : Fin n) (r : CameraRuntime) : CameraManager n :=
  { s with runtimes := Function.update s.runtimes i r }

/-- The identity of a camera is withdrawn: it is not connected, and the entry of its serial is erased. -/
def withdraw (cam : CameraConfig) : CameraManager n :=
  { s with
    connected := Function.update s.connected cam.name false
    realsenseDeviceInfo := Function.update s.realsenseDeviceInfo cam.serial none }

/-- The identity of a camera is published. -/
def publishIdentity (cam : CameraConfig) (info : Option RealSenseDeviceInfo) : CameraManager n :=
  { s with
    connected := Function.update s.connected cam.name true
    realsenseDeviceInfo := Function.update s.realsenseDeviceInfo cam.serial info }

def updateStats (cam : CameraConfig) (f : CameraReconnectStats → CameraReconnectStats) : CameraManager n :=
  { s with reconnectStats := Function.update s.reconnectStats cam.name (f (s.reconnectStats cam.name)) }

def timedOut (r : CameraRuntime) (nowNs : ℕ) : Bool :=
  let referenceNs := if r.lastFrameNs = 0 then r.startNs else r.lastFrameNs
  referenceNs < nowNs && cfg.frameTimeoutMs * 1000000 < nowNs - referenceNs

/-- One step of `supervise_camera`. -/
def superviseCamera (i : Fin n) (x : Env) : CameraManager n :=
  let r := s.runtimes i
  let cam := cfg.cameras i
  match r.pc with
  | .absent => s
  | .exited => s
  | .outerLoop => s.setRuntime i { r with pc := if s.running then .retryCheck else .exited }
  | .retryCheck =>
    if r.retry then
      if cfg.maxAttempts ≠ 0 ∧ cfg.maxAttempts ≤ r.retriesUsed then
        (s.updateStats cam fun st => { st with exhausted := true, consecutiveFailures := r.retriesUsed }).setRuntime i
          { r with pc := .exited }
      else s.setRuntime i { r with pc := .retryWait }
    else s.setRuntime i { r with pc := .resetFrameTime }
  | .retryWait => s.setRuntime i { r with pc := if s.running then .retryCount else .exited }
  | .retryCount =>
    (s.updateStats cam fun st => { st with
      attemptCount := addU64 st.attemptCount 1, consecutiveFailures := r.retriesUsed + 1
      exhausted := false }).setRuntime i
      { r with pc := .resetFrameTime, retriesUsed := r.retriesUsed + 1 }
  | .resetFrameTime => s.setRuntime i { r with pc := .clearIdentity, lastFrameTimeNs := 0 }
  | .clearIdentity => (s.withdraw cam).setRuntime i { r with pc := .openDevice }
  | .openDevice =>
    match x.throws with
    | some e => s.setRuntime i { r with pc := .failedSection, startNs := x.nowNs, error := e }
    | none => s.setRuntime i { r with pc := .validate, startNs := x.nowNs, pipeline := ⟨x.info, false, true⟩ }
  | .validate =>
    -- an exception of `start` or of the check destroys the device
    match x.throws with
    | some e =>
      s.setRuntime i { r with pc := .failedSection, error := e, pipeline := { r.pipeline with live := false } }
    | none =>
      match validatedDeviceInfo cfg.simulateCameras cam r.pipeline.info with
      | .error e =>
        s.setRuntime i { r with pc := .failedSection, error := e, pipeline := { r.pipeline with live := false } }
      | .ok info =>
        s.setRuntime i { r with pc := .innerLoop, deviceInfo := info, reportedConnected := false, timedOut := false }
  | .innerLoop => s.setRuntime i { r with pc := if s.running then .innerWait else .closeDevice }
  | .innerWait => s.setRuntime i { r with pc := if s.running then .loadFrameTime else .closeDevice }
  | .loadFrameTime =>
    s.setRuntime i { r with
      pc := if r.lastFrameTimeNs ≠ 0 ∧ !r.reportedConnected then .publish else .checkTimeout
      lastFrameNs := r.lastFrameTimeNs }
  | .publish =>
    if s.running then
      ((s.publishIdentity cam r.deviceInfo).updateStats cam fun st => { st with
        consecutiveFailures := 0
        exhausted := false
        successCount := if r.recoveryPending then addU64 st.successCount 1 else st.successCount
        lastReconnectTimeNs := if r.recoveryPending then r.lastFrameNs else st.lastReconnectTimeNs }).setRuntime i
        { r with
          pc := .checkTimeout, reportedConnected := true, retriesUsed := 0, retry := false, recoveryPending := false }
    else s.setRuntime i { r with pc := .closeDevice, reportedConnected := true }
  | .checkTimeout =>
    if timedOut cfg r x.nowNs then
      s.setRuntime i { r with
        pc := .timeoutSection, currentNs := x.nowNs, timedOut := true, recoveryPending := true }
    else s.setRuntime i { r with pc := .innerLoop, currentNs := x.nowNs }
  | .timeoutSection =>
    ((s.withdraw cam).updateStats cam fun st => { st with
      disconnectCount := addU64 st.disconnectCount 1
      lastDisconnectTimeNs := r.currentNs
      lastError := "frame timeout after " ++ toString cfg.frameTimeoutMs ++ " ms" }).setRuntime i
      { r with pc := .closeDevice }
  | .closeDevice =>
    match x.throws with
    | some e => s.setRuntime i { r with pc := .failedSection, error := e }
    | none => s.setRuntime i { r with pc := .afterClose, pipeline := { r.pipeline with live := false } }
  | .afterClose =>
    s.setRuntime i (if s.running then { r with pc := .outerLoop, retry := r.timedOut } else { r with pc := .exited })
  | .failedSection =>
    ((s.withdraw cam).updateStats cam fun st => { st with
      lastError := r.error, lastDisconnectTimeNs := x.nowNs }).setRuntime i { r with pc := .failedClose }
  | .failedClose =>
    s.setRuntime i { r with
      pc := .outerLoop, pipeline := { r.pipeline with live := false }, recoveryPending := true, retry := true }

/-! ## Frames -/

/-- The runtime that `handle_frame` finds: the first with the name of the frame's camera. -/
def runtimeNamed (name : String) : Option (Fin n) :=
  (List.finRange n).find? fun j => (cfg.cameras j).name = name

/-- A frame of the device of camera `i`, with its arrival time: only a live device delivers one. -/
def handleFrame (i : Fin n) (hostArrivalTimeNs : ℕ) : CameraManager n :=
  let r := s.runtimes i
  if r.pipeline.live then
    let s := s.setRuntime i { r with pipeline := { r.pipeline with produced := true } }
    match runtimeNamed cfg (cfg.cameras i).name with
    | none => s
    | some j => s.setRuntime j { s.runtimes j with lastFrameTimeNs := hostArrivalTimeNs }
  else s

/-! ## `start` and `stop` -/

/-- `connected_` and the device infos are cleared. -/
def clearAll : CameraManager n :=
  { s with connected := fun _ => false, realsenseDeviceInfo := fun _ => none }

def closePipeline (r : CameraRuntime) : CameraRuntime := { r with pipeline := { r.pipeline with live := false } }

def start : CameraManager n :=
  if s.control = .idle then
    if s.running then s else { s with running := true, control := .startEnsure }
  else s

def stop : CameraManager n :=
  if s.control = .idle then
    if s.running then { s with running := false, control := .stopClear } else s
  else s

/-- The next step of `start` or `stop`. -/
def controlStep (x : Env) : CameraManager n :=
  match s.control with
  | .idle => s
  | .startEnsure =>
    match x.throws with
    | some _ => { s with running := false, control := .startFailed }
    | none => { s with control := .startSpawn 0 }
  | .startFailed => { s.clearAll with runtimes := fun i => closePipeline (s.runtimes i), control := .idle }
  | .startSpawn k =>
    if h : k < n then
      { s.setRuntime ⟨k, h⟩ { s.runtimes ⟨k, h⟩ with
        pc := .outerLoop, retriesUsed := 0, retry := false, recoveryPending := false } with control := .startWait k }
    else { s with control := .idle }
  | .startWait k => { s with control := .startSpawn (k + 1) }
  | .stopClear => { s.clearAll with control := .stopJoin 0 }
  | .stopJoin k =>
    if h : k < n then
      if (s.runtimes ⟨k, h⟩).pc = .absent ∨ (s.runtimes ⟨k, h⟩).pc = .exited then
        { s.setRuntime ⟨k, h⟩ { s.runtimes ⟨k, h⟩ with pc := .absent } with control := .stopDevice k }
      else s
    else { s with control := .stopFinal }
  | .stopDevice k =>
    if h : k < n then
      { s.setRuntime ⟨k, h⟩ (closePipeline (s.runtimes ⟨k, h⟩)) with control := .stopJoin (k + 1) }
    else s
  | .stopFinal => { s.clearAll with control := .idle }

/-! ## Runs and snapshots -/

inductive Action (n : ℕ)
  | supervise (i : Fin n) (x : Env)
  | frame (i : Fin n) (hostArrivalTimeNs : ℕ)
  | start
  | stop
  | control (x : Env)

def act : Action n → CameraManager n
  | .supervise i x => s.superviseCamera cfg i x
  | .frame i t => s.handleFrame cfg i t
  | .start => s.start
  | .stop => s.stop
  | .control x => s.controlStep x

def afterActions (actions : List (Action n)) : CameraManager n := actions.foldl (fun s a => s.act cfg a) {}

/-- The five entries that a snapshot has of a device. -/
structure SessionInfo where
  firmwareVersion : String
  recommendedFirmwareVersion : String
  physicalPort : String
  productId : String
  usbType : String
deriving DecidableEq

def sessionInfo (d : RealSenseDeviceInfo) : SessionInfo :=
  ⟨d.firmwareVersion, d.recommendedFirmwareVersion, d.physicalPort, d.productId, d.usbType⟩

/-- The part of a `HealthSnapshot` about the cameras. -/
structure HealthSnapshot where
  cameraConnected : String → Bool
  cameraReconnectStats : String → CameraReconnectStats
  cameraSerial : String → Option String
  cameraSession : String → Option SessionInfo

/-- The entries of camera `i`, if there is an info for its serial. -/
def addSession (session : String → Option SessionInfo) (i : Fin n) : String → Option SessionInfo :=
  match s.realsenseDeviceInfo (cfg.cameras i).serial with
  | none => session
  | some d => Function.update session (cfg.cameras i).name (some (sessionInfo d))

/-- `snapshot`: the copies are made under `mu_`. -/
def snapshot : HealthSnapshot where
  cameraConnected := s.connected
  cameraReconnectStats := s.reconnectStats
  cameraSerial := (List.finRange n).foldl
    (fun serials i => Function.update serials (cfg.cameras i).name (some (cfg.cameras i).serial)) fun _ => none
  cameraSession := (List.finRange n).foldl (s.addSession cfg) fun _ => none

end CameraManager

end CameraServer
