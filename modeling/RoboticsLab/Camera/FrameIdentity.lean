import RoboticsLab.Camera.Seqlock

/-!
# The ring of slots, and which frame `_decode_frame` returns

`write_frame` walks round the slots of a ring; the metadata it returns names the slot by its offset and
carries the frame number and the sequence.  `CameraBundleClient._decode_frame` reads the slot at that
offset and checks its size and the seqlock, not the sequence or the frame number: it returns what is in
the slot.  That is the frame of the metadata as long as no later call on the same slot has completed
(`decodeFrame_of_not_overwritten`), and the newer image under the old metadata after that
(`decodeFrame_returns_newer`).
-/

namespace CameraServer

open SharedMemory

/-! ## Writing -/

abbrev RingMem := ℕ × SlotField → ℕ

def zeroRing : RingMem := fun _ => 0

/-- The slot of the next call; `next_slot` is a `uint32_t`. -/
def slotIndexOf (d : RingDesc) (next : ℕ) : ℕ := next % 2 ^ 32 % d.slotCount

def slotBytes (d : RingDesc) : ℕ := d.payloadCapacity + 72

/-- `write_frame` on the ring: its stores. -/
def ringWrite (d : RingDesc) (next : ℕ) (m : RingMem) (f : FrameArgs) : List ((ℕ × SlotField) × ℕ) :=
  storesAt (slotIndexOf d next) (writeFrame d (fun l => m (slotIndexOf d next, l)) f)

/-- The metadata `write_frame` returns. -/
def writeFrameMeta (d : RingDesc) (next : ℕ) (m : RingMem) (f : FrameArgs) (ringName : String) : FrameMeta where
  frameNumber := f.frameNumber
  hostArrivalTimeNs := f.hostArrivalTimeNs
  sensorTimestampNs := f.sensorTimestampNs
  width := d.width
  height := d.height
  strideBytes := effectiveStride d f
  format := d.format
  ringName := ringName
  slotIndex := slotIndexOf d next
  shmOffset := d.slotsOffset + slotBytes d * slotIndexOf d next + 72
  sizeBytes := f.bytes.length
  seq := completeSeq fun l => m (slotIndexOf d next, l)

/-- The calls on the ring; `next_slot` counts a call that throws too. -/
def ringWrites (d : RingDesc) (next : ℕ) (m : RingMem) : List FrameArgs → List ((ℕ × SlotField) × ℕ)
  | [] => []
  | f :: fs => ringWrite d next m f ++ ringWrites d (next + 1) (after m (ringWrite d next m f)) fs

/-! ## Decoding -/

structure CameraFrame where
  cameraName : String
  width : ℕ
  height : ℕ
  pixels : List (List (List ℕ))
  format : String
  frameNumber : ℕ
  hostArrivalTimeNs : ℕ
  sensorTimestampNs : ℕ
deriving DecidableEq

/-- `reshape(height, cols)[:, :width]`, a pixel being `pixel row col`. -/
def pixelRows (height cols : ℕ) (pixel : ℕ → ℕ → List ℕ) : List (List (List ℕ)) :=
  (List.range height).map fun r => (List.range cols).map fun c => pixel r c

def byteAt (payload : List UInt8) (i : ℕ) : ℕ := (payload.getD i 0).toNat

/-- The channels of a colour format, in the order the frame shows them. -/
def channelOrder (format : String) : Option (List ℕ) :=
  if format = "bgr8" then some [2, 1, 0]
  else if format = "rgb8" then some [0, 1, 2]
  else if format = "bgra8" then some [2, 1, 0, 3]
  else if format = "rgba8" then some [0, 1, 2, 3]
  else none

/-- The part of `_decode_frame` after the payload is read. -/
def decodePayload (cameraName : String) (m : FrameMeta) (payload : List UInt8) : Except String CameraFrame :=
  let frame (pixels : List (List (List ℕ))) : CameraFrame :=
    ⟨cameraName, m.width, m.height, pixels, m.format, m.frameNumber, m.hostArrivalTimeNs, m.sensorTimestampNs⟩
  let stride := m.strideBytes
  if payload.length ≠ m.height * stride then
    .error ("payload size " ++ toString payload.length ++ " != height*stride=" ++
      toString (m.height * stride) ++ " for " ++ cameraName)
  else if m.format = "z16" ∨ m.format = "mono16" then
    if stride % 2 ≠ 0 then .error ("odd depth stride " ++ toString stride ++ " for " ++ cameraName)
    else .ok (frame (pixelRows m.height (min m.width (stride / 2)) fun r c =>
      [byteAt payload (r * stride + 2 * c) + 256 * byteAt payload (r * stride + 2 * c + 1)]))
  else if m.format = "y8" ∨ m.format = "mono8" then
    .ok (frame (pixelRows m.height (min m.width stride) fun r c => [byteAt payload (r * stride + c)]))
  else
    match channelOrder m.format with
    | none => .error ("unsupported camera format '" ++ m.format ++ "' for " ++ cameraName)
    | some order =>
      if stride < m.width * order.length then
        .error ("stride " ++ toString stride ++ " < width*channels=" ++ toString (m.width * order.length))
      else .ok (frame (pixelRows m.height m.width fun r c =>
        order.map fun ch => byteAt payload (r * stride + c * order.length + ch)))

/-- The slot whose payload starts at an offset. -/
def slotAt (d : RingDesc) (shmOffset : ℤ) : ℕ := ((shmOffset - 72 - d.slotsOffset) / slotBytes d).toNat

/-- `CameraBundleClient._decode_frame` on a ring. -/
def decodeFrame (d : RingDesc) (len : ℕ) (cameraName : String) (m : FrameMeta) :
    Reader (ℕ × SlotField) ℕ (Except String CameraFrame) :=
  ((decodeFramePayload len cameraName m).finish fun r => r.bind (decodePayload cameraName m)).map
    fun l => (slotAt d m.shmOffset, l)

theorem slotAt_writeFrameMeta (d : RingDesc) (next : ℕ) (m : RingMem) (f : FrameArgs) (ringName : String) :
    slotAt d (writeFrameMeta d next m f ringName).shmOffset = slotIndexOf d next := by
  have hpos : (slotBytes d : ℤ) ≠ 0 := by simp [slotBytes]; omega
  simp only [slotAt, writeFrameMeta]
  rw [show (d.slotsOffset + slotBytes d * slotIndexOf d next + 72 - 72 - d.slotsOffset : ℤ) =
    slotBytes d * slotIndexOf d next by ring, Int.mul_ediv_cancel_left _ hpos]
  exact Int.toNat_natCast _

/-! ## The calls on one slot -/

/-- The calls that go to slot `i`, when `next` is the number of the first call. -/
def slotFrames (d : RingDesc) (i next : ℕ) : List FrameArgs → List FrameArgs
  | [] => []
  | f :: fs => if slotIndexOf d next = i then f :: slotFrames d i (next + 1) fs
      else slotFrames d i (next + 1) fs

theorem slotFrames_append (d : RingDesc) (i next : ℕ) (fs gs : List FrameArgs) :
    slotFrames d i next (fs ++ gs) = slotFrames d i next fs ++ slotFrames d i (next + fs.length) gs := by
  induction fs generalizing next with
  | nil => rfl
  | cons f fs ih =>
    rw [List.cons_append, slotFrames, slotFrames, ih, List.length_cons, Nat.add_right_comm, Nat.add_assoc]
    split <;> rfl

/-- The stores of a slot are those of its own calls. -/
theorem storesOf_ringWrites (d : RingDesc) (i next : ℕ) (m : RingMem) (fs : List FrameArgs) :
    storesOf i (ringWrites d next m fs) = writeFrames d (fun l => m (i, l)) (slotFrames d i next fs) := by
  induction fs generalizing next m with
  | nil => rfl
  | cons f fs ih =>
    rw [ringWrites, storesOf_append, ih, slotFrames]
    split
    · next h =>
      subst h
      rw [ringWrite, storesOf_storesAt, writeFrames]
      congr 2
      ext l
      rw [after_object, storesOf_storesAt]
    · next h =>
      rw [ringWrite, storesOf_storesAt_of_ne h, List.nil_append]
      congr 1
      ext l
      rw [after_object, storesOf_storesAt_of_ne h, after_nil]

/-! ## Completed calls -/

/-- How many calls have stored their even sequence. -/
def completions (stores : List (SlotField × ℕ)) : ℕ :=
  stores.countP fun s => decide (s.1 = .seqBegin) && decide (s.2 % 2 = 0)

@[simp] theorem completions_append (xs ys : List (SlotField × ℕ)) :
    completions (xs ++ ys) = completions xs + completions ys := List.countP_append

/-- How many of the calls have a frame that fits. -/
def fitting (d : RingDesc) (fs : List FrameArgs) : ℕ :=
  fs.countP fun f => decide (f.bytes.length ≤ d.payloadCapacity)

section Completions

variable {d : RingDesc} {m : SlotMem} {f : FrameArgs}

theorem completions_eq_zero {xs : List (SlotField × ℕ)} (h : ∀ s ∈ xs, s.1 ≠ .seqBegin) :
    completions xs = 0 := by
  rw [completions, List.countP_eq_zero]
  intro s hs
  simp [h s hs]

theorem completions_begin (hm : Idle m) {xs : List (SlotField × ℕ)} (h : ∀ s ∈ xs, s.1 ≠ .seqBegin) :
    completions ((.seqBegin, beginSeq (m .seqBegin)) :: xs) = 0 := by
  have hodd : (m .seqBegin + 1) % 2 ≠ 0 := by
    have := hm.1
    omega
  rw [hm.beginSeq, completions, List.countP_cons_of_neg (by simp [hodd])]
  exact completions_eq_zero h

theorem completions_writeFrame (hm : Idle m) (hf : f.bytes.length ≤ d.payloadCapacity) :
    completions (writeFrame d m f) = 1 := by
  have heven : completeSeq m % 2 = 0 := by
    rw [hm.completeSeq]
    have := hm.1
    omega
  rw [writeFrame_of_fits hf, ← List.cons_append, completions_append, completions_begin hm frameBody_ne_seqBegin,
    completions, List.countP_cons_of_pos (by simp [heven])]
  rfl

/-- A call completes exactly when its frame fits. -/
theorem completions_writeFrames (hm : Idle m) (fs : List FrameArgs) :
    completions (writeFrames d m fs) = fitting d fs := by
  induction fs generalizing m with
  | nil => rfl
  | cons f fs ih =>
    rw [writeFrames, completions_append, ih (after_writeFrame_idle hm), fitting, fitting]
    rcases lt_or_ge d.payloadCapacity f.bytes.length with hf | hf
    · rw [writeFrame_of_large hf, List.countP_cons_of_neg (by simpa using hf)]
      exact Nat.zero_add _
    · rw [completions_writeFrame hm hf, List.countP_cons_of_pos (by simpa using hf), Nat.add_comm]

/-- Frames that do not fit store nothing. -/
theorem writeFrames_of_fitting_zero {fs : List FrameArgs} (h : fitting d fs = 0) : writeFrames d m fs = [] := by
  induction fs generalizing m with
  | nil => rfl
  | cons f fs ih =>
    have hf : d.payloadCapacity < f.bytes.length := by
      by_contra hc
      rw [fitting, List.countP_cons_of_pos (by simpa using hc)] at h
      omega
    rw [fitting, List.countP_cons_of_neg (by simpa using hf)] at h
    rw [writeFrames, writeFrame_of_large hf, List.nil_append, after_nil]
    exact ih h

/-- As long as no call after `f` has completed, the slot has the stores of the calls up to `f`. -/
theorem writeFrames_take_of_fitting {before rest : List FrameArgs} {j : ℕ}
    (hf : f.bytes.length ≤ d.payloadCapacity)
    (h : fitting d ((before ++ f :: rest).take j) = fitting d (before ++ [f])) :
    writeFrames d m ((before ++ f :: rest).take j) = writeFrames d m (before ++ [f]) := by
  have hfit : fitting d (before ++ [f]) = fitting d before + 1 := by
    rw [fitting, List.countP_append, List.countP_cons_of_pos (by simpa using hf)]
    rfl
  rcases Nat.lt_or_ge before.length j with hj | hj
  · obtain ⟨i, rfl⟩ := Nat.exists_eq_add_of_lt hj
    have htake : (before ++ f :: rest).take (before.length + i + 1) = (before ++ [f]) ++ rest.take i := by
      rw [List.take_append, List.take_of_length_le (by omega)]
      simp [Nat.add_assoc]
    rw [htake, fitting, List.countP_append] at h
    have hzero : fitting d (rest.take i) = 0 := by
      rw [fitting] at h ⊢
      omega
    rw [htake, writeFrames_append m (before ++ [f]), writeFrames_of_fitting_zero hzero, List.append_nil]
  · exfalso
    rw [List.take_append_of_le_length hj, hfit] at h
    have : fitting d (before.take j) ≤ fitting d before := (List.take_sublist _ _).countP_le
    omega

end Completions

/-! ## The frame a call returns -/

section Slot

variable {d : RingDesc} {f : FrameArgs} {before rest : List FrameArgs} {pre mid todo : List (SlotField × ℕ)}

/-- On the slot: when the call starts after `f` has completed and returns before a later call has, at
most one write starts in between. -/
theorem starts_le_one (hf : f.bytes.length ≤ d.payloadCapacity)
    (hS : writeFrames d zeroSlot (before ++ f :: rest) = pre ++ (mid ++ todo))
    (hpre : writeFrames d zeroSlot (before ++ [f]) <+: pre)
    (hfresh : completions (pre ++ mid) = fitting d (before ++ [f])) : starts mid ≤ 1 := by
  obtain ⟨j, p, hj, hp⟩ := writeFrames_take (d := d) zeroSlot_idle (before ++ f :: rest) (pre ++ mid).length
  have hidle := after_writeFrames_idle (d := d) zeroSlot_idle ((before ++ f :: rest).take j)
  rw [hS, ← List.append_assoc, List.take_left] at hj
  have hpzero : completions p = 0 ∧ starts p ≤ 1 := by
    rcases hp with rfl | ⟨g, k, -, rfl⟩
    · exact ⟨rfl, Nat.zero_le _⟩
    · have hne := fun s hs => frameBody_ne_seqBegin (d := d) (f := g)
        (c := completeSeq (after zeroSlot (writeFrames d zeroSlot ((before ++ f :: rest).take j)))) s
        (List.mem_of_mem_take (i := k) hs)
      refine ⟨completions_begin hidle hne, ?_⟩
      calc starts _ ≤ marks _ := List.countP_mono_left fun s _ hs => by
            simp only [Bool.and_eq_true] at hs
            exact hs.1
        _ = 1 := marks_begin _ _
  rw [hj, completions_append, completions_writeFrames zeroSlot_idle, hpzero.1] at hfresh
  rw [writeFrames_take_of_fitting hf hfresh] at hj
  obtain ⟨q, rfl⟩ := hpre
  rw [List.append_assoc] at hj
  have hpq : q ++ mid = p := List.append_cancel_left hj
  have := hpzero.2
  rw [← hpq, starts_append] at this
  omega

/-- On the slot: what a reader takes in that time is the payload of `f`. -/
theorem Snapshot.of_not_overwritten (hf : f.bytes.length ≤ d.payloadCapacity)
    (hS : writeFrames d zeroSlot (before ++ f :: rest) = pre ++ (mid ++ todo))
    (hpre : writeFrames d zeroSlot (before ++ [f]) <+: pre)
    (hfresh : completions (pre ++ mid) = fitting d (before ++ [f])) {t : ℕ} {bytes : List UInt8}
    (h0 : pre.length ≤ t) (ht : t ≤ (pre ++ mid).length)
    (h : Snapshot (history zeroSlot (pre ++ (mid ++ todo))) t bytes) : bytes = f.bytes := by
  obtain ⟨heven, -, hbytes⟩ := h
  rw [← hS] at heven hbytes
  obtain ⟨j, hj⟩ := boundary_of_even zeroSlot_idle _ t heven
  rw [history, hj] at hbytes
  have htake : (writeFrames d zeroSlot (before ++ f :: rest)).take t = (pre ++ mid).take t := by
    rw [hS, ← List.append_assoc, List.take_append_of_le_length ht]
  -- the calls completed at `t` are at least those of `pre` and at most those of `pre ++ mid`
  have hle : fitting d ((before ++ f :: rest).take j) ≤ fitting d (before ++ [f]) := by
    rw [← completions_writeFrames zeroSlot_idle, ← hj, htake, ← hfresh]
    exact (List.take_sublist _ _).countP_le
  have hge : fitting d (before ++ [f]) ≤ fitting d ((before ++ f :: rest).take j) := by
    rw [← completions_writeFrames zeroSlot_idle, ← completions_writeFrames zeroSlot_idle, ← hj, htake]
    obtain ⟨q, rfl⟩ := hpre
    rw [List.append_assoc, List.take_append, List.take_of_length_le (by simp at h0; omega)]
    exact (List.sublist_append_left _ _).countP_le
  rw [writeFrames_take_of_fitting hf (le_antisymm hle hge), writeFrames_append, after_append] at hbytes
  rw [writeFrames, writeFrames, List.append_nil, slotPayload_writeFrame hf] at hbytes
  exact hbytes

end Slot

section Ring

variable {d : RingDesc} {f : FrameArgs} {before rest : List FrameArgs}
  {pre mid todo : List ((ℕ × SlotField) × ℕ)}

/-- How many calls on slot `i` have completed. -/
def completedCalls (i : ℕ) (stores : List ((ℕ × SlotField) × ℕ)) : ℕ := completions (storesOf i stores)

/-- **Whole runs.**  A call of `_decode_frame` on the metadata of `f`, made after `write_frame` returned it:
if no later call on that slot has completed when it returns a frame, the frame is decoded from the bytes
of `f`. -/
theorem decodeFrame_of_not_overwritten (hf : f.bytes.length ≤ d.payloadCapacity)
    (hS : ringWrites d 0 zeroRing (before ++ f :: rest) = pre ++ (mid ++ todo))
    (hpre : ringWrites d 0 zeroRing (before ++ [f]) <+: pre)
    (hfresh : completedCalls (slotIndexOf d before.length) (pre ++ mid) =
      completedCalls (slotIndexOf d before.length) (ringWrites d 0 zeroRing (before ++ [f])))
    {mem : RingMem} {len : ℕ} {name ringName : String} {frame : CameraFrame}
    (h : Steps ⟨after zeroRing pre, mid ++ todo, decodeFrame d len name (writeFrameMeta d before.length
        (after zeroRing (ringWrites d 0 zeroRing before)) f ringName)⟩ ⟨mem, todo, .done (.ok frame)⟩) :
    decodePayload name (writeFrameMeta d before.length (after zeroRing (ringWrites d 0 zeroRing before)) f
      ringName) f.bytes = .ok frame := by
  generalize hi : slotIndexOf d before.length = i at hfresh
  obtain ⟨k, hk, hr⟩ := h.returns
  rw [decodeFrame, slotAt_writeFrameMeta, hi] at hr
  generalize writeFrameMeta d before.length (after zeroRing (ringWrites d 0 zeroRing before)) f ringName = m at hr ⊢
  -- the calls on the slot, and its stores
  have hframes : ∀ gs, slotFrames d i 0 (before ++ f :: gs) =
      slotFrames d i 0 before ++ f :: slotFrames d i (before.length + 1) gs := by
    intro gs
    rw [slotFrames_append, Nat.zero_add, slotFrames, if_pos hi]
  have hSi : writeFrames d zeroSlot (slotFrames d i 0 before ++ f :: slotFrames d i (before.length + 1) rest) =
      storesOf i pre ++ (storesOf i mid ++ storesOf i todo) := by
    rw [← hframes, ← storesOf_append, ← storesOf_append, ← hS, storesOf_ringWrites]
    rfl
  have hprei : writeFrames d zeroSlot (slotFrames d i 0 before ++ [f]) <+: storesOf i pre := by
    obtain ⟨q, rfl⟩ := hpre
    have h1 := storesOf_ringWrites d i 0 zeroRing (before ++ [f])
    rw [hframes] at h1
    exact ⟨storesOf i q, by rw [storesOf_append, h1]; rfl⟩
  have hfreshi : completions (storesOf i pre ++ storesOf i mid) = fitting d (slotFrames d i 0 before ++ [f]) := by
    rw [← storesOf_append, ← completions_writeFrames zeroSlot_idle]
    rw [completedCalls, completedCalls, storesOf_ringWrites, hframes] at hfresh
    exact hfresh
  -- the run of the reader in the time of the slot
  have hmap : ∀ t l, history zeroRing (pre ++ (mid ++ todo)) t (i, l) =
      history zeroSlot (storesOf i pre ++ (storesOf i mid ++ storesOf i todo))
        (objectTime i (pre ++ (mid ++ todo)) t) l := by
    intro t l
    rw [history_object, storesOf_append, storesOf_append]
    rfl
  have hri := Returns.of_map (fun a b => objectTime_mono i (pre ++ (mid ++ todo))) hmap hr
  have hpt : objectTime i (pre ++ (mid ++ todo)) pre.length = (storesOf i pre).length := by
    rw [objectTime, List.take_left]
  have hkt : objectTime i (pre ++ (mid ++ todo)) k ≤ (storesOf i pre ++ storesOf i mid).length := by
    refine (objectTime_mono i _ hk).trans ?_
    rw [objectTime, ← List.append_assoc, List.take_left, storesOf_append]
  rw [hpt] at hri
  obtain ⟨a, ha, hra⟩ := hri.of_finish
  cases a with
  | error e => exact absurd ha (by simp [Except.bind])
  | ok bytes =>
    have hfew := starts_le_one hf hSi hprei hfreshi
    have hstill := history_still_of_starts hSi (by omega) hkt
    obtain ⟨t, ht0, htk, hs, -⟩ := decodeFramePayload_snapshot hstill hra
    rw [← hs.of_not_overwritten hf hSi hprei hfreshi ht0 (htk.trans hkt)]
    exact ha

end Ring

/-! ## A ring that has come round -/

def greyDesc : RingDesc := ⟨1, 1, 1, "y8", 2, 0, 1⟩

def numberedFrame (n : ℕ) (g : UInt8) : FrameArgs := ⟨n, n, n, 1, [g], 0⟩

/-- The metadata of the first of the frames. -/
def firstMeta : FrameMeta := writeFrameMeta greyDesc 0 zeroRing (numberedFrame 1 10) "head.ir"

def greyCameraFrame (n : ℕ) (g : ℕ) : CameraFrame := ⟨"head", 1, 1, [[[g]]], "y8", n, n, n⟩

theorem decodeFrame_of_not_overwritten_grey :
    decodePayload "head" firstMeta (numberedFrame 1 10).bytes = .ok (greyCameraFrame 1 10) := by
  have hS : ringWrites greyDesc 0 zeroRing ([] ++ numberedFrame 1 10 :: [numberedFrame 2 20]) =
      ringWrites greyDesc 0 zeroRing [numberedFrame 1 10, numberedFrame 2 20] ++ ([] ++ []) := by simp
  have heval : (decodeFrame greyDesc 1000 "head" firstMeta).eval
      (after zeroRing (ringWrites greyDesc 0 zeroRing [numberedFrame 1 10, numberedFrame 2 20])) =
      .ok (greyCameraFrame 1 10) := by rfl
  have hrun := Steps.eval (after zeroRing (ringWrites greyDesc 0 zeroRing
    [numberedFrame 1 10, numberedFrame 2 20])) [] (decodeFrame greyDesc 1000 "head" firstMeta)
  rw [heval] at hrun
  exact decodeFrame_of_not_overwritten (by decide) hS ⟨_, rfl⟩ (by decide) hrun

/-- Three frames on a ring of two slots: the metadata of frame 1 gives the image of frame 3. -/
theorem decodeFrame_returns_newer :
    Steps ⟨after zeroRing (ringWrites greyDesc 0 zeroRing
        [numberedFrame 1 10, numberedFrame 2 20, numberedFrame 3 30]), [],
      decodeFrame greyDesc 1000 "head" firstMeta⟩
      ⟨after zeroRing (ringWrites greyDesc 0 zeroRing
        [numberedFrame 1 10, numberedFrame 2 20, numberedFrame 3 30]), [],
      .done (.ok (greyCameraFrame 1 30))⟩ ∧
    decodePayload "head" firstMeta (numberedFrame 1 10).bytes = .ok (greyCameraFrame 1 10) ∧
    greyCameraFrame 1 30 ≠ greyCameraFrame 1 10 := by
  refine ⟨?_, by rfl, by decide⟩
  have heval : (decodeFrame greyDesc 1000 "head" firstMeta).eval (after zeroRing (ringWrites greyDesc 0 zeroRing
      [numberedFrame 1 10, numberedFrame 2 20, numberedFrame 3 30])) = .ok (greyCameraFrame 1 30) := by rfl
  have hrun := Steps.eval (after zeroRing (ringWrites greyDesc 0 zeroRing
    [numberedFrame 1 10, numberedFrame 2 20, numberedFrame 3 30])) []
    (decodeFrame greyDesc 1000 "head" firstMeta)
  rw [heval] at hrun
  exact hrun

end CameraServer
