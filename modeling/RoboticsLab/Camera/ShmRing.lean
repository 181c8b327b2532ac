import RoboticsLab.Lib.SharedMemory
import RoboticsLab.Lib.Double

/-!
# `camera_server/shm/shared_memory_ring.cpp` and its readers: one slot

A slot is a `FrameSlotHeader` followed by the payload bytes; a field or a byte is one location and is
loaded or stored in one step.  `writeFrame` is the list of the stores of `write_frame`, in its order;
the readers are `read_slot` of the ring, `read_slot` of `tools/read_latest_bundle.py` and the payload
loop of `CameraBundleClient._decode_frame`, each load by load with all its retries.
-/

namespace CameraServer

open SharedMemory

/-! ## The slot -/

inductive SlotField
  | seqBegin
  | seqEnd
  | frameNumber
  | hostArrivalTimeNs
  | sensorTimestampNs
  | writeTimeNs
  | width
  | height
  | strideBytes
  | sizeBytes
  | valid
  | reserved
  | payload (i : ℕ)
deriving DecidableEq

abbrev SlotMem := SlotField → ℕ

/-- A fresh segment. -/
def zeroSlot : SlotMem := fun _ => 0

/-- `StreamRingHeader`; `payloadCapacity` is `slot_bytes` less the slot header. -/
structure RingDesc where
  width : ℕ
  height : ℕ
  bytesPerPixel : ℕ
  format : String
  slotCount : ℕ
  slotsOffset : ℕ
  payloadCapacity : ℕ

/-- The arguments of one `write_frame` call, and what `now_ns` returns in it. -/
structure FrameArgs where
  frameNumber : ℕ
  hostArrivalTimeNs : ℕ
  sensorTimestampNs : ℕ
  strideBytes : ℕ
  bytes : List UInt8
  writeTimeNs : ℕ

/-! ## Writing -/

/-- The odd sequence value of a write; an odd value left behind is skipped. -/
def beginSeq (begin : ℕ) : ℕ := if begin % 2 = 0 then addU64 begin 1 else addU64 begin 2

def effectiveStride (d : RingDesc) (f : FrameArgs) : ℕ :=
  if f.strideBytes ≠ 0 then f.strideBytes else d.width * d.bytesPerPixel % 2 ^ 32

/-- The `memcpy`, byte by byte. -/
def payloadStores (bytes : List UInt8) : List (SlotField × ℕ) :=
  bytes.zipIdx.map fun b => (.payload b.2, b.1.toNat)

def headerStores (d : RingDesc) (f : FrameArgs) : List (SlotField × ℕ) :=
  [(.frameNumber, f.frameNumber), (.hostArrivalTimeNs, f.hostArrivalTimeNs),
    (.sensorTimestampNs, f.sensorTimestampNs), (.writeTimeNs, f.writeTimeNs), (.width, d.width),
    (.height, d.height), (.strideBytes, effectiveStride d f), (.sizeBytes, f.bytes.length), (.valid, 1)]

/-- What is stored between the two stores of `seq_begin`. -/
def frameBody (d : RingDesc) (f : FrameArgs) (complete : ℕ) : List (SlotField × ℕ) :=
  payloadStores f.bytes ++ (headerStores d f ++ [(.seqEnd, complete)])

/-- The `seq` of the metadata of a write into a slot that holds `m`. -/
def completeSeq (m : SlotMem) : ℕ := addU64 (beginSeq (m .seqBegin)) 1

/-- `write_frame` on a slot that holds `m`; a frame that is too large throws before any store. -/
def writeFrame (d : RingDesc) (m : SlotMem) (f : FrameArgs) : List (SlotField × ℕ) :=
  if d.payloadCapacity < f.bytes.length then []
  else (.seqBegin, beginSeq (m .seqBegin)) ::
    (frameBody d f (completeSeq m) ++ [(.seqBegin, completeSeq m)])

/-- The calls on one slot, one after the other: `write_mutex` serializes them. -/
def writeFrames (d : RingDesc) (m : SlotMem) : List FrameArgs → List (SlotField × ℕ)
  | [] => []
  | f :: fs => writeFrame d m f ++ writeFrames d (after m (writeFrame d m f)) fs

/-! ## Reading -/

abbrev SlotReader := Reader SlotField ℕ

def readPayload {α : Type} (size : ℕ) (next : List UInt8 → SlotReader α) : SlotReader α :=
  .readAll ((List.range size).map .payload) fun vs => next (vs.map UInt8.ofNat)

/-- What `read_slot` returns: the payload, and the fields it reads after the check. -/
structure ShmReadResult where
  frameNumber : ℕ
  hostArrivalTimeNs : ℕ
  sensorTimestampNs : ℕ
  width : ℕ
  height : ℕ
  strideBytes : ℕ
  sizeBytes : ℕ
  seq : ℕ
  bytes : List UInt8

/-- `SharedMemoryRingBuffer::read_slot`. -/
def readSlot (d : RingDesc) : ℕ → SlotReader (Option ShmReadResult)
  | 0 => .done none
  | maxRetries + 1 =>
    .read .seqBegin fun a =>
    if a % 2 = 1 then readSlot d maxRetries
    else .read .valid fun valid =>
    if valid = 0 then readSlot d maxRetries
    else .read .sizeBytes fun size =>
    if d.payloadCapacity < size then .done none
    else readPayload size fun bytes =>
    .read .seqEnd fun b =>
    .read .seqBegin fun c =>
    if a = b ∧ b = c ∧ b % 2 = 0 then
      .readAll [.frameNumber, .hostArrivalTimeNs, .sensorTimestampNs, .width, .height, .strideBytes,
        .sizeBytes] fun vals =>
      .done (some ⟨vals.getD 0 0, vals.getD 1 0, vals.getD 2 0, vals.getD 3 0, vals.getD 4 0,
        vals.getD 5 0, vals.getD 6 0, b, bytes⟩)
    else readSlot d maxRetries

/-- The fields of `struct.Struct("<QQQQQQIIIIII")`, in the order `unpack_from` loads them. -/
def slotHeader : List SlotField :=
  [.seqBegin, .seqEnd, .frameNumber, .hostArrivalTimeNs, .sensorTimestampNs, .writeTimeNs, .width,
    .height, .strideBytes, .sizeBytes, .valid, .reserved]

def slotHeaderSize : ℤ := 72

/-- The retry loop of the two Python readers: they take `seq_end` before the copy.  `mismatch` and
`exhausted` are the texts they raise, `check` is a further check of the slot's size. -/
def unpackRetry (size : ℤ) (mismatch exhausted : String) (check : ℕ → Option String) :
    ℕ → SlotReader (Except String (List UInt8))
  | 0 => .done (.error exhausted)
  | retries + 1 =>
    .read .seqBegin fun start =>
    if start % 2 = 1 then unpackRetry size mismatch exhausted check retries
    else .readAll slotHeader fun vals =>
    if (vals.getD 9 0 : ℤ) ≠ size then .done (.error mismatch)
    else match check (vals.getD 9 0) with
    | some e => .done (.error e)
    | none =>
      readPayload size.toNat fun copy =>
      .read .seqBegin fun reread =>
      if vals.getD 10 0 ≠ 0 ∧ start = vals.getD 1 0 ∧ vals.getD 1 0 = reread ∧ vals.getD 1 0 % 2 = 0 then
        .done (.ok copy)
      else unpackRetry size mismatch exhausted check retries

/-- The metadata of one frame, as a bundle carries it. -/
structure FrameMeta where
  frameNumber : ℕ
  hostArrivalTimeNs : ℕ
  sensorTimestampNs : ℕ
  width : ℕ
  height : ℕ
  strideBytes : ℕ
  format : String
  ringName : String
  slotIndex : ℕ
  shmOffset : ℤ
  sizeBytes : ℤ
  seq : ℕ

/-- `read_slot` of `tools/read_latest_bundle.py` on a mapping of `len` bytes. -/
def toolReadSlot (len : ℕ) (frame : FrameMeta) (retries : ℕ) : SlotReader (Except String (List UInt8)) :=
  let headerOff := frame.shmOffset - slotHeaderSize
  if headerOff < 0 ∨ frame.shmOffset < 0 ∨ frame.sizeBytes < 0 then
    .done (.error ("invalid shm metadata for " ++ frame.ringName))
  else if (len : ℤ) < headerOff + slotHeaderSize ∨ (len : ℤ) < frame.shmOffset + frame.sizeBytes then
    .done (.error ("shm read out of bounds for " ++ frame.ringName))
  else
    unpackRetry frame.sizeBytes ("bundle size does not match shm slot for " ++ frame.ringName)
      ("seqlock failed for " ++ frame.ringName ++ " slot=" ++ toString frame.slotIndex)
      (fun slotSize => if (len : ℤ) < frame.shmOffset + slotSize then
        some ("shm slot size out of bounds for " ++ frame.ringName) else none) retries

/-- The payload of `CameraBundleClient._decode_frame`. -/
def decodeFramePayload (len : ℕ) (cameraName : String) (frame : FrameMeta) :
    SlotReader (Except String (List UInt8)) :=
  let headerOff := frame.shmOffset - slotHeaderSize
  if headerOff < 0 ∨ (len : ℤ) < frame.shmOffset + frame.sizeBytes then
    .done (.error ("shm offsets out of bounds for " ++ cameraName))
  else
    unpackRetry frame.sizeBytes ("shm slot size mismatch for " ++ cameraName)
      ("seqlock retry exhausted for " ++ cameraName) (fun _ => none) 1000

end CameraServer
