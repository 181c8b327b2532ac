import RoboticsLab.Camera.AppConfig

/-!
# `SharedMemoryRingBuffer::create`: the layout of a segment

Every stream gets a descriptor, in the order of the configuration, and its slots where the cursor is.  The index
of the descriptor is a `uint32_t` and the cursor a `uint64_t`; both are computed without a check.  A store
outside of the mapping does not return.  The POSIX calls succeed; nothing of length 0 is mapped.
-/

namespace CameraServer

open Layout

/-! ## One stream -/

def channelsForFormat (format : String) : Except String ℕ :=
  if format = "rgb8" ∨ format = "bgr8" then .ok 3
  else if format = "z16" ∨ format = "y16" ∨ format = "y8" ∨ format = "mono8" then .ok 1
  else .error ("unsupported stream format: " ++ format)

def payloadCapacityBytes (scfg : CameraStreamConfig) (bpp : ℕ) : UInt64 := alignedBytes scfg bpp

/-- The descriptor that `add_stream` writes with the cursor at `cursor`. -/
def describe (ringSlots : UInt32) (cursor : UInt64) (s : StreamSpec) : Except String StreamRingHeader :=
  match channelsForFormat s.scfg.format with
  | .error e => .error e
  | .ok channels =>
    match bytesPerPixelForFormat s.scfg.format with
    | .error e => .error e
    | .ok bpp => .ok
      { cameraName := writeCstr 32 s.camera
        streamName := writeCstr 16 s.stream
        format := writeCstr 16 s.scfg.format
        width := UInt32.ofInt s.scfg.width
        height := UInt32.ofInt s.scfg.height
        channels := UInt32.ofNat channels
        bytesPerPixel := UInt32.ofNat bpp
        slotCount := ringSlots
        slotBytes := align64 (sizeofFrameSlotHeader + payloadCapacityBytes s.scfg bpp)
        slotsOffset := cursor }

def StreamRingHeader.span (d : StreamRingHeader) : UInt64 := d.slotBytes * d.slotCount.toUInt64

/-! ## All streams -/

/-- What the loop of `create` carries: the descriptors, the index of the next one, and the cursor. -/
structure RingTable where
  desc : ℕ → StreamRingHeader
  idx : UInt32
  cursor : UInt64

/-- `add_stream`. -/
def addStream (sizeBytes : UInt64) (ringSlots : UInt32) (t : RingTable) (s : StreamSpec) : Except String RingTable :=
  if sizeBytes.toNat < 64 + 104 * (t.idx.toNat + 1) then .error "store outside of the mapping"
  else match describe ringSlots t.cursor s with
  | .error e => .error e
  | .ok d => .ok ⟨Function.update t.desc t.idx.toNat d, t.idx + 1, t.cursor + d.span⟩

/-- Zeroed memory. -/
def zeroDesc : StreamRingHeader :=
  ⟨fun _ => nul, fun _ => nul, fun _ => nul, 0, 0, 0, 0, 0, 0, 0⟩

/-- The number of streams, as `create` adds it up. -/
def streamCount (cameras : List CameraConfig) : UInt32 :=
  cameras.foldl (fun n cam => n + UInt32.ofNat (enabledStreams cam).length) 0

def descriptorsOffset : UInt64 := align64 sizeofShmHeader

def firstCursor (count : UInt32) : UInt64 := align64 (descriptorsOffset + count.toUInt64 * sizeofStreamRingHeader)

/-- The segment with its header and descriptors in place. -/
def AppConfig.segment (cfg : AppConfig) (nowNs : UInt64) (desc : ℕ → StreamRingHeader) : ShmSegment where
  sizeBytes := cfg.sizeBytes
  header := ⟨kMagic, kVersion, streamCount cfg.cameras, cfg.sizeBytes, nowNs, descriptorsOffset⟩
  desc := desc

/-- `create`, at the time `nowNs`. -/
def create (cfg : AppConfig) (nowNs : UInt64) : Except String SharedMemoryRingBuffer :=
  if cfg.sizeBytes = 0 then .error ("mmap failed for " ++ cfg.sharedMemory.name)
  else if kMaxStreams < streamCount cfg.cameras then .error "too many streams for shm layout"
  else match (streamSpecs cfg.cameras).foldlM (addStream cfg.sizeBytes cfg.sharedMemory.ringSlots)
    ⟨fun _ => zeroDesc, 0, firstCursor (streamCount cfg.cameras)⟩ with
  | .error e => .error e
  | .ok t =>
    if cfg.sizeBytes < t.cursor then .error "computed shared memory layout exceeds configured size"
    else match (cfg.segment nowNs t.desc).loadDescriptors with
    | .error e => .error e
    | .ok rings => .ok ⟨cfg.sharedMemory.name, cfg.segment nowNs t.desc, rings⟩

end CameraServer
