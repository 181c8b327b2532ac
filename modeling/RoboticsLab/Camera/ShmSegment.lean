import RoboticsLab.Camera.ShmRing
import RoboticsLab.Lib.Layout
import Mathlib.Data.List.OfFn
import Mathlib.Logic.Function.Basic

/-!
# `camera_server/shm/shared_memory_ring.cpp`: a segment and its rings

A segment is the header, the descriptors from `descriptors_offset` on, and the slots.  The fields have the
widths of `shm_layout.hpp`, so a segment of any content is a `ShmSegment`.  `loadDescriptors` is the check made
once, when the segment is opened; `readSlot` is `read_slot` load by load: a location is a field of a descriptor,
or a field of the slot behind a pointer, and `ShmLoad.range` says where its bytes are.
A character of a name is a byte.
-/

namespace CameraServer

open Layout SharedMemory

/-! ## `shm_layout.hpp` -/

def kMagic : UInt32 := 0x43534D52

def kVersion : UInt32 := 1

def kMaxStreams : UInt32 := 16

def sizeofShmHeader : UInt64 := 40

def sizeofStreamRingHeader : UInt64 := 104

def sizeofFrameSlotHeader : UInt64 := 72

@[simp] theorem kMaxStreams_toNat : kMaxStreams.toNat = 16 := rfl

@[simp] theorem sizeofShmHeader_toNat : sizeofShmHeader.toNat = 40 := rfl

@[simp] theorem sizeofStreamRingHeader_toNat : sizeofStreamRingHeader.toNat = 104 := rfl

@[simp] theorem sizeofFrameSlotHeader_toNat : sizeofFrameSlotHeader.toNat = 72 := rfl

structure ShmHeader where
  magic : UInt32
  version : UInt32
  streamCount : UInt32
  totalSizeBytes : UInt64
  createdTimeNs : UInt64
  descriptorsOffset : UInt64
deriving DecidableEq

structure StreamRingHeader where
  cameraName : Fin 32 → Char
  streamName : Fin 16 → Char
  format : Fin 16 → Char
  width : UInt32
  height : UInt32
  channels : UInt32
  bytesPerPixel : UInt32
  slotCount : UInt32
  slotBytes : UInt64
  slotsOffset : UInt64

/-- A mapped segment; `desc i` is the descriptor at `descriptors_offset + 104 * i`. -/
structure ShmSegment where
  sizeBytes : UInt64
  header : ShmHeader
  desc : ℕ → StreamRingHeader

/-! ## Names -/

def nul : Char := Char.ofNat 0

/-- `strncpy` of `n - 1` characters into zeroed memory. -/
def writeCstr (n : ℕ) (value : String) : Fin n → Char :=
  fun i => ((value.toList.takeWhile (· ≠ nul)).take (n - 1)).getD i nul

def readCstr {n : ℕ} (src : Fin n → Char) : String := String.ofList ((List.ofFn src).takeWhile (· ≠ nul))

def streamKey (camera stream : String) : String := camera ++ "." ++ stream

/-! ## Opening -/

/-- A ring: the index of its descriptor, and the counter of its writer. -/
structure RingInfo where
  desc : ℕ
  nextSlot : UInt32
deriving DecidableEq

abbrev Rings := String → Option RingInfo

def StreamRingHeader.key (d : StreamRingHeader) : String := streamKey (readCstr d.cameraName) (readCstr d.streamName)

/-- The checks of `load_descriptors` on one descriptor. -/
def ShmHeader.checkRing (header : ShmHeader) (d : StreamRingHeader) : Except String Unit :=
  if d.slotCount = 0 ∨ d.slotBytes < sizeofFrameSlotHeader then
    .error "shared memory ring slot metadata is invalid"
  else match checkedMul d.slotCount.toUInt64 d.slotBytes with
  | none => .error "shared memory ring slot span overflows"
  | some slotsBytes =>
    match checkedAdd d.slotsOffset slotsBytes with
    | none => .error "shared memory ring slots out of bounds"
    | some slotsEnd =>
      if header.totalSizeBytes < slotsEnd then .error "shared memory ring slots out of bounds" else .ok ()

namespace ShmSegment

/-- `ptr_range_at`. -/
def ptrRangeAt (seg : ShmSegment) (offset length : UInt64) : Except String UInt64 :=
  match checkedAdd offset length with
  | none => .error "shared memory range out of bounds"
  | some stop => if seg.sizeBytes < stop then .error "shared memory range out of bounds" else .ok offset

/-- The checks of `load_descriptors` on the header; the value is where the descriptors are. -/
def checkHeader (seg : ShmSegment) : Except String UInt64 :=
  if seg.sizeBytes < sizeofShmHeader then .error "shared memory segment is too small for header"
  else if seg.header.magic ≠ kMagic ∨ seg.header.version ≠ kVersion then .error "invalid shared memory magic/version"
  else if kMaxStreams < seg.header.streamCount then .error "shared memory stream count out of range"
  else if seg.header.totalSizeBytes = 0 ∨ seg.sizeBytes < seg.header.totalSizeBytes then
    .error "shared memory total size out of range"
  else match checkedMul seg.header.streamCount.toUInt64 sizeofStreamRingHeader with
  | none => .error "shared memory descriptors size overflows"
  | some descriptorsBytes =>
    match checkedAdd seg.header.descriptorsOffset descriptorsBytes with
    | none => .error "shared memory descriptors out of bounds"
    | some descriptorsEnd =>
      if seg.header.totalSizeBytes < descriptorsEnd then .error "shared memory descriptors out of bounds"
      else seg.ptrRangeAt seg.header.descriptorsOffset descriptorsBytes

/-- One round of the loop of `load_descriptors`. -/
def loadRing (seg : ShmSegment) (rings : Rings) (i : ℕ) : Except String Rings :=
  match seg.header.checkRing (seg.desc i) with
  | .error e => .error e
  | .ok _ => .ok (Function.update rings (seg.desc i).key (some ⟨i, 0⟩))

/-- `load_descriptors`. -/
def loadDescriptors (seg : ShmSegment) : Except String Rings :=
  match seg.checkHeader with
  | .error e => .error e
  | .ok _ => (List.range seg.header.streamCount.toNat).foldlM seg.loadRing fun _ => none

end ShmSegment

/-- What an object holds of the segment it has mapped. -/
structure SharedMemoryRingBuffer where
  name : String
  seg : ShmSegment
  rings : Rings

/-! ## Loads -/

/-- What `read_slot` loads of a descriptor; a name is loaded by the character. -/
inductive DescField
  | cameraName (k : ℕ)
  | streamName (k : ℕ)
  | format (k : ℕ)
  | slotCount
  | slotBytes
  | slotsOffset
deriving DecidableEq

/-- A load: a field of descriptor `index`, or a field of the slot at `pointer`. -/
inductive ShmLoad
  | desc (index : ℕ) (field : DescField)
  | slot (pointer : UInt64) (field : SlotField)
deriving DecidableEq

/-- Where a field is in `StreamRingHeader`. -/
def DescField.range : DescField → ByteRange
  | .cameraName k => ⟨k, 1⟩
  | .streamName k => ⟨32 + k, 1⟩
  | .format k => ⟨48 + k, 1⟩
  | .slotCount => ⟨80, 4⟩
  | .slotBytes => ⟨88, 8⟩
  | .slotsOffset => ⟨96, 8⟩

/-- Where a field is in `FrameSlotHeader`, and the payload behind it. -/
def SlotField.range : SlotField → ByteRange
  | .seqBegin => ⟨0, 8⟩
  | .seqEnd => ⟨8, 8⟩
  | .frameNumber => ⟨16, 8⟩
  | .hostArrivalTimeNs => ⟨24, 8⟩
  | .sensorTimestampNs => ⟨32, 8⟩
  | .writeTimeNs => ⟨40, 8⟩
  | .width => ⟨48, 4⟩
  | .height => ⟨52, 4⟩
  | .strideBytes => ⟨56, 4⟩
  | .sizeBytes => ⟨60, 4⟩
  | .valid => ⟨64, 4⟩
  | .reserved => ⟨68, 4⟩
  | .payload i => ⟨72 + i, 1⟩

/-- The bytes of the mapping that a load touches. -/
def ShmLoad.range (header : ShmHeader) : ShmLoad → ByteRange
  | .desc i f => ⟨header.descriptorsOffset.toNat + 104 * i + f.range.start, f.range.len⟩
  | .slot p f => ⟨p.toNat + f.range.start, f.range.len⟩

/-- The value of a descriptor's field; a name has no character past its end. -/
def StreamRingHeader.value (d : StreamRingHeader) : DescField → ℕ
  | .cameraName k => ((List.ofFn d.cameraName).getD k nul).toNat
  | .streamName k => ((List.ofFn d.streamName).getD k nul).toNat
  | .format k => ((List.ofFn d.format).getD k nul).toNat
  | .slotCount => d.slotCount.toNat
  | .slotBytes => d.slotBytes.toNat
  | .slotsOffset => d.slotsOffset.toNat

/-! ## `read_slot` -/

abbrev ShmReader := Reader ShmLoad ℕ

/-- `read_cstr`, of `n` characters from `k` on. -/
def loadCstr (i : ℕ) (field : ℕ → DescField) : ℕ → ℕ → ShmReader (List Char)
  | 0, _ => .done []
  | n + 1, k => .read (.desc i (field k)) fun v =>
    if v = 0 then .done [] else (loadCstr i field n (k + 1)).bind fun cs => .done (Char.ofNat v :: cs)

/-- `slot_payload_capacity`. -/
def slotPayloadCapacity (i : ℕ) : ShmReader (Except String UInt64) :=
  .read (.desc i .slotBytes) fun slotBytes =>
  if UInt64.ofNat slotBytes < sizeofFrameSlotHeader then .done (.error "shared memory slot size is invalid")
  else .read (.desc i .slotBytes) fun slotBytes =>
  .done (.ok (UInt64.ofNat slotBytes - sizeofFrameSlotHeader))

namespace SharedMemoryRingBuffer

variable (shm : SharedMemoryRingBuffer)

/-- `slot_header`: the pointer to a slot. -/
def slotHeader (i : ℕ) (slotIndex : UInt32) : ShmReader (Except String UInt64) :=
  .read (.desc i .slotCount) fun slotCount =>
  if slotCount ≤ slotIndex.toNat then .done (.error "slot index out of range")
  else .read (.desc i .slotBytes) fun slotBytes =>
  match checkedMul (UInt64.ofNat slotBytes) slotIndex.toUInt64 with
  | none => .done (.error "shared memory slot offset overflows")
  | some slotDelta =>
    .read (.desc i .slotsOffset) fun slotsOffset =>
    match checkedAdd (UInt64.ofNat slotsOffset) slotDelta with
    | none => .done (.error "shared memory slot offset overflows")
    | some slotOffset => .done (shm.seg.ptrRangeAt slotOffset sizeofFrameSlotHeader)

/-- A `ShmReadResult` with all of its metadata. -/
structure ReadResult extends ShmReadResult where
  cameraName : String
  stream : String
  ringName : String
  shmName : String
  slotIndex : UInt32
  shmOffset : UInt64
  format : String

/-- The metadata of a payload that has passed the check: loaded from the descriptor and from the slot. -/
def readMeta (ringName : String) (i : ℕ) (slotIndex : UInt32) (slot : UInt64) (seq : ℕ) (bytes : List UInt8) :
    ShmReader ReadResult :=
  (loadCstr i .cameraName 32 0).bind fun camera =>
  (loadCstr i .streamName 16 0).bind fun stream =>
  .readAll ([.frameNumber, .hostArrivalTimeNs, .sensorTimestampNs, .width, .height, .strideBytes,
    .sizeBytes].map (ShmLoad.slot slot)) fun vals =>
  .read (.desc i .slotsOffset) fun slotsOffset =>
  .read (.desc i .slotBytes) fun slotBytes =>
  (loadCstr i .format 16 0).bind fun format =>
  .done
    { frameNumber := vals.getD 0 0
      hostArrivalTimeNs := vals.getD 1 0
      sensorTimestampNs := vals.getD 2 0
      width := vals.getD 3 0
      height := vals.getD 4 0
      strideBytes := vals.getD 5 0
      sizeBytes := vals.getD 6 0
      seq := seq
      bytes := bytes
      cameraName := String.ofList camera
      stream := String.ofList stream
      ringName := ringName
      shmName := shm.name
      slotIndex := slotIndex
      shmOffset := UInt64.ofNat slotsOffset + UInt64.ofNat slotBytes * slotIndex.toUInt64 + sizeofFrameSlotHeader
      format := String.ofList format }

/-- The retry loop of `read_slot`. -/
def readRetries (ringName : String) (i : ℕ) (slotIndex : UInt32) (slot : UInt64) :
    ℕ → ShmReader (Except String (Option ReadResult))
  | 0 => .done (.ok none)
  | maxRetries + 1 =>
    .read (.slot slot .seqBegin) fun a =>
    if a % 2 = 1 then readRetries ringName i slotIndex slot maxRetries
    else .read (.slot slot .valid) fun valid =>
    if valid = 0 then readRetries ringName i slotIndex slot maxRetries
    else .read (.slot slot .sizeBytes) fun size =>
    (slotPayloadCapacity i).tryBind fun capacity =>
    if capacity.toNat < size then .done (.ok none)
    else (shm.slotHeader i slotIndex).tryBind fun slot' =>
    .readAll ((List.range size).map fun k => .slot slot' (.payload k)) fun bytes =>
    .read (.slot slot .seqEnd) fun b =>
    .read (.slot slot .seqBegin) fun c =>
    if a = b ∧ b = c ∧ b % 2 = 0 then
      (shm.readMeta ringName i slotIndex slot b (bytes.map UInt8.ofNat)).bind fun r => .done (.ok (some r))
    else readRetries ringName i slotIndex slot maxRetries

/-- `read_slot`. -/
def readSlot (ringName : String) (slotIndex : UInt32) (maxRetries : ℕ) :
    ShmReader (Except String (Option ReadResult)) :=
  match shm.rings ringName with
  | none => .done (.ok none)
  | some ring =>
    .read (.desc ring.desc .slotCount) fun slotCount =>
    if slotCount ≤ slotIndex.toNat then .done (.ok none)
    else (shm.slotHeader ring.desc slotIndex).tryBind fun slot =>
    shm.readRetries ringName ring.desc slotIndex slot maxRetries

end SharedMemoryRingBuffer

end CameraServer
