import RoboticsLab.Camera.ShmCreate
import Mathlib.Data.List.TakeWhile

/-!
# `SharedMemoryRingBuffer::write_frame`: lookup, slot and metadata

The rings and the slots of an open segment, and one call of `write_frame` on them: the ring is looked up by its key,
the counter of the ring chooses the slot, and the stores into the slot are those of `writeFrame`.  A slot is memory of
its own, as `create` lays it out.  A call that throws has still taken a number of the ring's counter, unless there is
no ring.
-/

namespace CameraServer

open Layout SharedMemory

/-! ## Slots -/

/-- `slot_header`, on the fields of a descriptor. -/
def ShmSegment.slotPointer (seg : ShmSegment) (d : StreamRingHeader) (slotIndex : UInt32) : Except String UInt64 :=
  if d.slotCount ≤ slotIndex then .error "slot index out of range"
  else match checkedMul d.slotBytes slotIndex.toUInt64 with
  | none => .error "shared memory slot offset overflows"
  | some slotDelta =>
    match checkedAdd d.slotsOffset slotDelta with
    | none => .error "shared memory slot offset overflows"
    | some slotOffset => seg.ptrRangeAt slotOffset sizeofFrameSlotHeader

/-- `slot_payload_capacity`. -/
def StreamRingHeader.payloadCapacity (d : StreamRingHeader) : Except String UInt64 :=
  if d.slotBytes < sizeofFrameSlotHeader then .error "shared memory slot size is invalid"
  else .ok (d.slotBytes - sizeofFrameSlotHeader)

/-- The descriptor as the slot's writer sees it. -/
def StreamRingHeader.ringDesc (d : StreamRingHeader) : RingDesc where
  width := d.width.toNat
  height := d.height.toNat
  bytesPerPixel := d.bytesPerPixel.toNat
  format := readCstr d.format
  slotCount := d.slotCount.toNat
  slotsOffset := d.slotsOffset.toNat
  payloadCapacity := (d.slotBytes - sizeofFrameSlotHeader).toNat

/-! ## `write_frame` -/

/-- The arguments of a call; the size of a frame is a `uint32_t`. -/
structure WriteArgs extends FrameArgs where
  cameraName : String
  serial : String
  streamName : String
  realsenseTimestampMs : Double
  size_lt : bytes.length < 2 ^ 32

def WriteArgs.key (a : WriteArgs) : String := streamKey a.cameraName a.streamName

/-- What a call returns. -/
structure WrittenMeta where
  cameraName : String
  serial : String
  stream : String
  frameNumber : ℕ
  hostArrivalTimeNs : ℕ
  sensorTimestampNs : ℕ
  realsenseTimestampMs : Double
  width : ℤ
  height : ℤ
  strideBytes : ℤ
  format : String
  shmName : String
  ringName : String
  slotIndex : UInt32
  shmOffset : UInt64
  sizeBytes : ℕ
  seq : ℕ
  valid : Bool

/-- An open segment and its slots: `slots i k` is slot `k` of the ring of descriptor `i`. -/
structure ShmWriter where
  shm : SharedMemoryRingBuffer
  slots : ℕ → ℕ → SlotMem

namespace ShmWriter

/-- The ring has given a number away. -/
def countUp (w : ShmWriter) (key : String) (ring : RingInfo) : ShmWriter :=
  { w with shm := { w.shm with
      rings := Function.update w.shm.rings key (some { ring with nextSlot := ring.nextSlot + 1 }) } }

def storeSlot (w : ShmWriter) (i k : ℕ) (m : SlotMem) : ShmWriter :=
  { w with slots := Function.update w.slots i (Function.update (w.slots i) k m) }

/-- A `static_cast<int>` of a `uint32_t`. -/
def toInt (n : ℕ) : ℤ := Int.bmod n (2 ^ 32)

/-- The metadata of a frame written into slot `slotIdx` of `d`, which held `m`. -/
def writtenMeta (w : ShmWriter) (d : StreamRingHeader) (slotIdx : UInt32) (m : SlotMem) (a : WriteArgs) :
    WrittenMeta where
  cameraName := a.cameraName
  serial := a.serial
  stream := a.streamName
  frameNumber := a.frameNumber
  hostArrivalTimeNs := a.hostArrivalTimeNs
  sensorTimestampNs := a.sensorTimestampNs
  realsenseTimestampMs := a.realsenseTimestampMs
  width := toInt d.width.toNat
  height := toInt d.height.toNat
  strideBytes := toInt (effectiveStride d.ringDesc a.toFrameArgs)
  format := readCstr d.format
  shmName := w.shm.name
  ringName := a.key
  slotIndex := slotIdx
  shmOffset := d.slotsOffset + d.slotBytes * slotIdx.toUInt64 + sizeofFrameSlotHeader
  sizeBytes := a.bytes.length
  seq := completeSeq m
  valid := true

/-- `write_frame`: the state after the call, and what it returns or throws. -/
def writeFrame (w : ShmWriter) (a : WriteArgs) : ShmWriter × Except String WrittenMeta :=
  match w.shm.rings a.key with
  | none => (w, .error ("unknown shm ring: " ++ a.key))
  | some ring =>
    let d := w.shm.seg.desc ring.desc
    let slotIdx := ring.nextSlot % d.slotCount
    match w.shm.seg.slotPointer d slotIdx with
    | .error e => (w.countUp a.key ring, .error e)
    | .ok _ =>
      match d.payloadCapacity with
      | .error e => (w.countUp a.key ring, .error e)
      | .ok expected =>
        if expected.toNat < a.bytes.length then (w.countUp a.key ring, .error "frame too large for ring slot")
        else
          let m := w.slots ring.desc slotIdx.toNat
          ((w.countUp a.key ring).storeSlot ring.desc slotIdx.toNat
            (after m (CameraServer.writeFrame d.ringDesc m a.toFrameArgs)), .ok (w.writtenMeta d slotIdx m a))

/-- The state after the calls, one after the other; a call may have thrown. -/
def run (w : ShmWriter) (calls : List WriteArgs) : ShmWriter := calls.foldl (fun w a => (w.writeFrame a).1) w

end ShmWriter

/-- The segment that `create` has made: its slots are zero. -/
def SharedMemoryRingBuffer.writer (shm : SharedMemoryRingBuffer) : ShmWriter := ⟨shm, fun _ _ => zeroSlot⟩

/-! ## Names -/

section Names

variable {n : ℕ}

/-- What is left of a name. -/
theorem readCstr_writeCstr (value : String) :
    readCstr (writeCstr (n + 1) value) = String.ofList ((value.toList.takeWhile (· ≠ nul)).take n) := by
  have hle : ((value.toList.takeWhile (· ≠ nul)).take n).length ≤ n + 1 :=
    (List.length_take_le _ _).trans (Nat.le_succ n)
  have hpad : List.ofFn (writeCstr (n + 1) value) = (value.toList.takeWhile (· ≠ nul)).take n ++
      List.replicate (n + 1 - ((value.toList.takeWhile (· ≠ nul)).take n).length) nul := by
    apply List.ext_getElem
    · simp only [List.length_ofFn, List.length_append, List.length_replicate]
      omega
    · intro i h1 h2
      rw [List.getElem_ofFn, writeCstr, Nat.add_sub_cancel]
      rcases Nat.lt_or_ge i ((value.toList.takeWhile (· ≠ nul)).take n).length with hi | hi
      · rw [List.getD_eq_getElem _ _ hi, List.getElem_append_left hi]
      · rw [List.getD_eq_default _ _ hi, List.getElem_append_right hi, List.getElem_replicate]
  have hall : ∀ c ∈ (value.toList.takeWhile (· ≠ nul)).take n, (fun x => decide (x ≠ nul)) c = true := by
    intro c hc
    have := List.mem_takeWhile_imp (p := fun x => decide (x ≠ nul)) (List.mem_of_mem_take hc)
    exact this
  rw [readCstr, hpad, List.takeWhile_append_of_pos hall, List.takeWhile_replicate_eq_filter]
  simp

/-- A name that is read back as it was written: it leaves room for the NUL and has none. -/
def Fits (n : ℕ) (value : String) : Prop := value.toList.length ≤ n ∧ nul ∉ value.toList

instance (value : String) : Decidable (Fits n value) := inferInstanceAs (Decidable (_ ∧ _))

/-- **A name survives** if and only if it fits. -/
theorem readCstr_writeCstr_eq_iff {value : String} : readCstr (writeCstr (n + 1) value) = value ↔ Fits n value := by
  rw [readCstr_writeCstr]
  constructor
  · intro h
    have hl := congrArg String.toList h
    rw [String.toList_ofList] at hl
    refine ⟨?_, ?_⟩
    · rw [← hl]
      exact List.length_take_le _ _
    · rw [← hl]
      intro hmem
      have := List.mem_takeWhile_imp (List.mem_of_mem_take hmem)
      simp at this
  · rintro ⟨hlen, hnul⟩
    have htw : value.toList.takeWhile (· ≠ nul) = value.toList := by
      apply List.takeWhile_eq_self_iff.mpr
      intro c hc
      rw [decide_eq_true_eq]
      rintro rfl
      exact hnul hc
    rw [htw, List.take_of_length_le hlen, String.ofList_toList]

/-- What was read is a name that fits. -/
theorem fits_readCstr (value : String) : Fits n (readCstr (writeCstr (n + 1) value)) := by
  rw [readCstr_writeCstr, Fits, String.toList_ofList]
  refine ⟨List.length_take_le _ _, ?_⟩
  intro hmem
  have := List.mem_takeWhile_imp (List.mem_of_mem_take hmem)
  simp at this

end Names

/-- **A key splits at its last dot**: stream names have none. -/
theorem streamKey_inj {camera camera' stream stream' : String} (hs : '.' ∉ stream.toList)
    (hs' : '.' ∉ stream'.toList) :
    streamKey camera stream = streamKey camera' stream' ↔ camera = camera' ∧ stream = stream' := by
  constructor
  · intro h
    have hl := congrArg (fun k : String => k.toList.reverse) h
    simp only [streamKey, String.toList_append, List.reverse_append, List.append_assoc] at hl
    have hdot : ".".toList.reverse = ['.'] := rfl
    rw [hdot] at hl
    have key : ∀ {xs ys as bs : List Char}, '.' ∉ xs → '.' ∉ ys → xs ++ '.' :: as = ys ++ '.' :: bs →
        xs = ys ∧ as = bs := by
      intro xs ys as bs hx hy h
      induction xs generalizing ys with
      | nil =>
        cases ys with
        | nil =>
          obtain ⟨-, htail⟩ := List.cons.inj h
          exact ⟨rfl, htail⟩
        | cons y ys =>
          obtain ⟨rfl, -⟩ := List.cons.inj h
          exact absurd List.mem_cons_self hy
      | cons x xs ih =>
        cases ys with
        | nil =>
          obtain ⟨rfl, -⟩ := List.cons.inj h
          exact absurd List.mem_cons_self hx
        | cons y ys =>
          obtain ⟨rfl, htail⟩ := List.cons.inj h
          obtain ⟨rfl, hrest⟩ := ih (fun hm => hx (List.mem_cons_of_mem _ hm))
            (fun hm => hy (List.mem_cons_of_mem _ hm)) htail
          exact ⟨rfl, hrest⟩
    obtain ⟨h1, h2⟩ := key (by rwa [List.mem_reverse]) (by rwa [List.mem_reverse]) hl
    exact ⟨String.toList_injective (List.reverse_injective h2), String.toList_injective (List.reverse_injective h1)⟩
  · rintro ⟨rfl, rfl⟩
    rfl

end CameraServer
