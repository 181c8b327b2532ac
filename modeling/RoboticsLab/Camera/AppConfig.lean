import RoboticsLab.Camera.CameraManager
import RoboticsLab.Camera.FrameSynchronizer
import RoboticsLab.Camera.ShmSegment

/-!
# `camera_server/config/config.cpp`: the configuration and its validation

`AppConfig` has what `validate_config` and `SharedMemoryRingBuffer::create` read, with the widths of
`config.hpp`; a dimension is an `int`.  The streams of a configuration are its enabled streams, camera by camera.
-/

namespace CameraServer

open Layout

/-! ## `config.hpp` -/

structure ServerConfig where
  name : String
  simulateCameras : Bool

structure SharedMemoryConfig where
  name : String
  sizeMb : UInt64
  ringSlots : UInt32

structure MetadataConfig where
  pubBind : String
  bundleTopic : String

/-- `SyncConfig` as it is parsed: the mode is still a text. -/
structure SyncSettings where
  mode : String
  masterCamera : String
  bundlePolicy : String
  maxBundleTimeDiffMs : Double
  publishIncompleteBundles : Bool

structure HealthConfig where
  publishRateHz : Double
  fpsWindowSec : Double
  warnIfFpsBelow : Double

structure ReconnectConfig where
  enabled : Bool
  retryIntervalMs : UInt32
  frameTimeoutMs : UInt32

/-- A value of a 32-bit `int`. -/
def IsInt (z : ℤ) : Prop := -2 ^ 31 ≤ z ∧ z < 2 ^ 31

structure AppConfig where
  server : ServerConfig
  sharedMemory : SharedMemoryConfig
  metadata : MetadataConfig
  sync : SyncSettings
  bundleGroups : List BundleGroupConfig
  cameras : List CameraConfig
  health : HealthConfig
  reconnect : ReconnectConfig
  dims_isInt : ∀ cam ∈ cameras, ∀ s ∈ enabledStreams cam, IsInt s.2.width ∧ IsInt s.2.height

/-! ## Streams -/

/-- An enabled stream: the names of its camera and of itself, and its settings. -/
structure StreamSpec where
  camera : String
  stream : String
  scfg : CameraStreamConfig
deriving DecidableEq

def StreamSpec.key (s : StreamSpec) : String := streamKey s.camera s.stream

/-- The nested loops over the cameras and their enabled streams. -/
def streamSpecs (cameras : List CameraConfig) : List StreamSpec :=
  cameras.flatMap fun cam => (enabledStreams cam).map fun s => ⟨cam.name, s.1, s.2⟩

def requiredStreamKeys (cfg : AppConfig) : List String := (streamSpecs cfg.cameras).map StreamSpec.key

def effectiveBundleGroups (cfg : AppConfig) : List BundleGroupConfig :=
  if cfg.bundleGroups ≠ [] then cfg.bundleGroups
  else
    [{ name := "default"
       topic := cfg.metadata.bundleTopic
       masterStream := streamKey cfg.sync.masterCamera "color"
       requiredStreams := requiredStreamKeys cfg
       maxBundleTimeDiffMs := cfg.sync.maxBundleTimeDiffMs
       publishIncompleteBundles := cfg.sync.publishIncompleteBundles }]

/-! ## Sizes -/

/-- `align64(width * bpp) * height` in 64 bits: an `int` is converted modulo `2^64`. -/
def alignedBytes (scfg : CameraStreamConfig) (bpp : ℕ) : UInt64 :=
  align64 (UInt64.ofInt scfg.width * UInt64.ofNat bpp) * UInt64.ofInt scfg.height

def alignedPayloadBytes (scfg : CameraStreamConfig) : Except String UInt64 :=
  match bytesPerPixelForFormat scfg.format with
  | .error e => .error e
  | .ok bpp => .ok (alignedBytes scfg bpp)

/-- The sum of `required_shared_memory_bytes`, continued from `total`. -/
def addRequired (ringSlots : UInt32) : UInt64 → List StreamSpec → Except String UInt64
  | total, [] => .ok total
  | total, s :: specs =>
    match alignedPayloadBytes s.scfg with
    | .error e => .error e
    | .ok bytes => addRequired ringSlots (total + ringSlots.toUInt64 * (256 + bytes)) specs

def requiredSharedMemoryBytes (cfg : AppConfig) : Except String UInt64 :=
  match addRequired cfg.sharedMemory.ringSlots 4096 (streamSpecs cfg.cameras) with
  | .error e => .error e
  | .ok total => .ok ((total + 4095) / 4096 * 4096)

def AppConfig.sizeBytes (cfg : AppConfig) : UInt64 := cfg.sharedMemory.sizeMb * 1024 * 1024

/-! ## `validate_config` -/

/-- The checks before the loop over the cameras. -/
def validateSettings (cfg : AppConfig) : Except String Unit :=
  if cfg.server.name ≠ "camera_server" then .error "server.name must be camera_server"
  else if cfg.cameras = [] then .error "at least one camera must be configured"
  else if cfg.sharedMemory.name.toList.head? ≠ some '/' then
    .error "shared_memory.name must be a POSIX shm name starting with '/'"
  else if cfg.sharedMemory.ringSlots < 2 then .error "shared_memory.ring_slots must be >= 2"
  else if cfg.sync.mode ≠ "software" ∧ cfg.sync.mode ≠ "hardware" then
    .error "sync.mode must be software or hardware"
  else if cfg.sync.mode = "software" ∧ cfg.sync.bundlePolicy ≠ "nearest_timestamp" then
    .error "sync.mode=software requires sync.bundle_policy=nearest_timestamp"
  else if cfg.sync.mode = "hardware" ∧ cfg.sync.bundlePolicy ≠ "frame_number" then
    .error "sync.mode=hardware requires sync.bundle_policy=frame_number"
  else if cfg.server.simulateCameras ∧ cfg.sync.mode = "hardware" then
    .error "sync.mode=hardware requires real RealSense devices; mock cameras cannot verify hardware sync"
  else if cfg.sync.bundlePolicy ≠ "nearest_timestamp" ∧ cfg.sync.bundlePolicy ≠ "frame_number" then
    .error "sync.bundle_policy must be nearest_timestamp or frame_number"
  else if cfg.health.publishRateHz.le (.fin 0) ∨ cfg.health.fpsWindowSec.le (.fin 0) ∨
      cfg.health.warnIfFpsBelow.lt (.fin 0) then
    .error "health publish/window/fps thresholds must be positive"
  else if cfg.reconnect.enabled ∧ cfg.reconnect.retryIntervalMs = 0 then
    .error "reconnect.retry_interval_ms must be > 0 when reconnect is enabled"
  else if cfg.reconnect.enabled ∧ cfg.reconnect.frameTimeoutMs < 100 then
    .error "reconnect.frame_timeout_ms must be >= 100 when reconnect is enabled"
  else .ok ()

/-- The checks after the loop over the groups. -/
def validateSize (cfg : AppConfig) : Except String Unit :=
  match requiredSharedMemoryBytes cfg with
  | .error e => .error e
  | .ok required =>
    if cfg.sizeBytes < required then
      .error ("shared memory size insufficient: configured=" ++ toString cfg.sizeBytes ++ " required=" ++
        toString required)
    else if "0.0.0.0".toList <:+: cfg.metadata.pubBind.toList then
      .error "metadata.pub_bind must not default to 0.0.0.0"
    else .ok ()

def validateConfig (cfg : AppConfig) : Except String Unit :=
  match validateSettings cfg with
  | .error e => .error e
  | .ok _ =>
    match validateCameras cfg.server.simulateCameras cfg.cameras with
    | .error e => .error e
    | .ok _ =>
      match validateBundleGroups (requiredStreamKeys cfg) [] [] (effectiveBundleGroups cfg) with
      | .error e => .error e
      | .ok _ => validateSize cfg

end CameraServer
