import RoboticsLab.Camera.ShmSegment

/-!
# Opening an untrusted segment is in bounds

`loadDescriptors` bounds the descriptors and the slots of every ring by `total_size_bytes`, as exact numbers:
what it multiplies and adds is checked (`loadDescriptors_eq_ok`).  `read_slot` computes inside these bounds, so
while the descriptors stay as they were, each of its loads is a load of bytes of the mapping.

    seg.loadDescriptors = .ok rings → Trace hist n (readSlot …) loads r → the descriptors do not change →
      every load is inside of the mapping ∧ no size or offset wraps              (readSlot_inBounds)
-/

namespace CameraServer

open Layout SharedMemory

/-! ## What is checked -/

/-- The header passes: the descriptors end in the segment. -/
structure ShmSegment.HeaderOk (seg : ShmSegment) : Prop where
  magic : seg.header.magic = kMagic
  version : seg.header.version = kVersion
  headerFits : 40 ≤ seg.sizeBytes.toNat
  streams : seg.header.streamCount.toNat ≤ 16
  total_pos : 0 < seg.header.totalSizeBytes.toNat
  total_le : seg.header.totalSizeBytes.toNat ≤ seg.sizeBytes.toNat
  descriptors : seg.header.descriptorsOffset.toNat + seg.header.streamCount.toNat * 104 ≤
    seg.header.totalSizeBytes.toNat

/-- A descriptor passes: its slots hold a header each, and end in the segment. -/
structure ShmHeader.RingOk (header : ShmHeader) (d : StreamRingHeader) : Prop where
  slots : 0 < d.slotCount.toNat
  slotHeader : 72 ≤ d.slotBytes.toNat
  span : d.slotsOffset.toNat + d.slotCount.toNat * d.slotBytes.toNat ≤ header.totalSizeBytes.toNat

theorem ShmHeader.checkRing_eq_ok {header : ShmHeader} {d : StreamRingHeader} :
    header.checkRing d = .ok () ↔ header.RingOk d := by
  have hpos : d.slotCount = 0 ↔ ¬ 0 < d.slotCount.toNat := by
    rw [← UInt32.toNat_inj, UInt32.toNat_zero]
    omega
  have hbytes : d.slotBytes < sizeofFrameSlotHeader ↔ ¬ 72 ≤ d.slotBytes.toNat := by
    rw [UInt64.lt_iff_toNat_lt, sizeofFrameSlotHeader_toNat, Nat.not_le]
  have hcount : d.slotCount.toUInt64.toNat = d.slotCount.toNat := UInt32.toNat_toUInt64 _
  constructor
  · intro h
    by_cases hmeta : d.slotCount = 0 ∨ d.slotBytes < sizeofFrameSlotHeader
    · rw [ShmHeader.checkRing, if_pos hmeta] at h
      cases h
    rw [ShmHeader.checkRing, if_neg hmeta] at h
    cases hmul : checkedMul d.slotCount.toUInt64 d.slotBytes with
    | none =>
      rw [hmul] at h
      cases h
    | some bytes =>
      cases hadd : checkedAdd d.slotsOffset bytes with
      | none =>
        simp only [hmul, hadd] at h
        cases h
      | some stop =>
        simp only [hmul, hadd] at h
        by_cases hle : header.totalSizeBytes < stop
        · rw [if_pos hle] at h
          cases h
        · have hspan := checked_span.mp ⟨bytes, stop, hmul, hadd, hle⟩
          rw [hcount] at hspan
          rw [hpos, hbytes, not_or, not_not, not_not] at hmeta
          exact ⟨hmeta.1, hmeta.2, hspan⟩
  · rintro ⟨hslots, hslot, hspan⟩
    rw [← hcount] at hspan
    obtain ⟨bytes, stop, hmul, hadd, hle⟩ := checked_span.mpr hspan
    have hmeta : ¬ (d.slotCount = 0 ∨ d.slotBytes < sizeofFrameSlotHeader) := by
      rw [hpos, hbytes]
      omega
    simp only [ShmHeader.checkRing, if_neg hmeta, hmul, hadd, if_neg hle]

/-- **A slot of a ring**: the checked product and sum of `slot_header` succeed, and the slot ends with the
segment at the latest. -/
theorem ShmHeader.RingOk.slot {header : ShmHeader} {d : StreamRingHeader} (h : header.RingOk d) {k : UInt32}
    (hk : k.toNat < d.slotCount.toNat) :
    checkedMul d.slotBytes k.toUInt64 = some (d.slotBytes * k.toUInt64) ∧
    checkedAdd d.slotsOffset (d.slotBytes * k.toUInt64) = some (d.slotsOffset + d.slotBytes * k.toUInt64) ∧
    (d.slotsOffset + d.slotBytes * k.toUInt64).toNat = d.slotsOffset.toNat + d.slotBytes.toNat * k.toNat ∧
    d.slotsOffset.toNat + d.slotBytes.toNat * k.toNat + d.slotBytes.toNat ≤ header.totalSizeBytes.toNat := by
  have hspan := h.span
  have htotal := header.totalSizeBytes.toNat_lt
  have hi : k.toUInt64.toNat = k.toNat := UInt32.toNat_toUInt64 _
  -- the slot ends where the next one starts
  have hend : d.slotBytes.toNat * k.toNat + d.slotBytes.toNat ≤ d.slotCount.toNat * d.slotBytes.toNat := by
    rw [← Nat.mul_succ, Nat.mul_comm d.slotCount.toNat]
    exact Nat.mul_le_mul_left _ hk
  have hmul : checkedMul d.slotBytes k.toUInt64 = some (d.slotBytes * k.toUInt64) := by
    refine checkedMul_eq_some.mpr ⟨?_, rfl⟩
    rw [hi]
    omega
  have hdelta := checkedMul_toNat hmul
  rw [hi] at hdelta
  have hadd : checkedAdd d.slotsOffset (d.slotBytes * k.toUInt64) =
      some (d.slotsOffset + d.slotBytes * k.toUInt64) := by
    refine checkedAdd_eq_some.mpr ⟨?_, rfl⟩
    omega
  have hp := checkedAdd_toNat hadd
  rw [hdelta] at hp
  exact ⟨hmul, hadd, hp, by omega⟩

namespace ShmSegment

variable {seg : ShmSegment}

/-- **A range that is checked** lies inside of the mapping. -/
theorem ptrRangeAt_eq_ok {offset length p : UInt64} :
    seg.ptrRangeAt offset length = .ok p ↔
      p = offset ∧ offset.toNat + length.toNat ≤ seg.sizeBytes.toNat := by
  have hsize := seg.sizeBytes.toNat_lt
  constructor
  · intro h
    unfold ptrRangeAt at h
    split at h
    · cases h
    next stop hadd =>
      split at h
      · cases h
      next hle =>
        rw [UInt64.lt_iff_toNat_lt, checkedAdd_toNat hadd] at hle
        cases h
        exact ⟨rfl, by omega⟩
  · rintro ⟨rfl, h⟩
    have hadd : checkedAdd p length = some (p + length) := checkedAdd_eq_some.mpr ⟨by omega, rfl⟩
    have hle : ¬ seg.sizeBytes < p + length := by
      rw [UInt64.lt_iff_toNat_lt, checkedAdd_toNat hadd]
      omega
    simp only [ptrRangeAt, hadd, if_neg hle]

theorem checkHeader_eq_ok : (∃ p, seg.checkHeader = .ok p) ↔ seg.HeaderOk := by
  have hsize : seg.sizeBytes < sizeofShmHeader ↔ ¬ 40 ≤ seg.sizeBytes.toNat := by
    rw [UInt64.lt_iff_toNat_lt, sizeofShmHeader_toNat, Nat.not_le]
  have hstreams : kMaxStreams < seg.header.streamCount ↔ ¬ seg.header.streamCount.toNat ≤ 16 := by
    rw [UInt32.lt_iff_toNat_lt, kMaxStreams_toNat, Nat.not_le]
  have hzero : seg.header.totalSizeBytes = 0 ↔ ¬ 0 < seg.header.totalSizeBytes.toNat := by
    rw [← UInt64.toNat_inj, UInt64.toNat_zero]
    omega
  have htotal : seg.sizeBytes < seg.header.totalSizeBytes ↔
      ¬ seg.header.totalSizeBytes.toNat ≤ seg.sizeBytes.toNat := by
    rw [UInt64.lt_iff_toNat_lt, Nat.not_le]
  have hcount : seg.header.streamCount.toUInt64.toNat = seg.header.streamCount.toNat := UInt32.toNat_toUInt64 _
  constructor
  · rintro ⟨p, h⟩
    unfold checkHeader at h
    split at h
    · cases h
    next h1 =>
      split at h
      · cases h
      next h2 =>
        split at h
        · cases h
        next h3 =>
          split at h
          · cases h
          next h4 =>
            split at h
            · cases h
            next bytes hmul =>
              split at h
              · cases h
              next stop hadd =>
                split at h
                · cases h
                next hle =>
                  have hspan := checked_span.mp ⟨bytes, stop, hmul, hadd, hle⟩
                  rw [hcount, sizeofStreamRingHeader_toNat] at hspan
                  rw [hsize, not_not] at h1
                  rw [not_or, not_not, not_not] at h2
                  rw [hstreams, not_not] at h3
                  rw [hzero, htotal, not_or, not_not, not_not] at h4
                  exact ⟨h2.1, h2.2, h1, h3, h4.1, h4.2, hspan⟩
  · intro h
    have hspan := h.descriptors
    rw [← hcount, ← sizeofStreamRingHeader_toNat] at hspan
    obtain ⟨bytes, stop, hmul, hadd, hle⟩ := checked_span.mpr hspan
    have h1 : ¬ seg.sizeBytes < sizeofShmHeader := by
      rw [hsize, not_not]
      exact h.headerFits
    have h2 : ¬ (seg.header.magic ≠ kMagic ∨ seg.header.version ≠ kVersion) := by
      simp [h.magic, h.version]
    have h3 : ¬ kMaxStreams < seg.header.streamCount := by
      rw [hstreams, not_not]
      exact h.streams
    have h4 : ¬ (seg.header.totalSizeBytes = 0 ∨ seg.sizeBytes < seg.header.totalSizeBytes) := by
      rw [hzero, htotal, not_or, not_not, not_not]
      exact ⟨h.total_pos, h.total_le⟩
    refine ⟨seg.header.descriptorsOffset, ?_⟩
    simp only [checkHeader, if_neg h1, if_neg h2, if_neg h3, if_neg h4, hmul, hadd, if_neg hle]
    refine ptrRangeAt_eq_ok.mpr ⟨rfl, ?_⟩
    rw [checkedMul_toNat hmul]
    exact hspan.trans h.total_le

/-- The rings after the descriptors `l`. -/
def ringsOf (seg : ShmSegment) (rings : Rings) (l : List ℕ) : Rings :=
  l.foldl (fun rings i => Function.update rings (seg.desc i).key (some ⟨i, 0⟩)) rings

theorem foldlM_loadRing {l : List ℕ} {rings rings' : Rings} :
    l.foldlM seg.loadRing rings = .ok rings' ↔
      (∀ i ∈ l, seg.header.RingOk (seg.desc i)) ∧ rings' = seg.ringsOf rings l := by
  induction l generalizing rings with
  | nil =>
    simp only [List.foldlM_nil, pure, Except.pure, Except.ok.injEq, List.not_mem_nil, false_imp_iff,
      implies_true, true_and]
    exact eq_comm
  | cons i l ih =>
    rw [List.foldlM_cons, List.forall_mem_cons]
    cases hcheck : seg.header.checkRing (seg.desc i) with
    | error e =>
      have hbad : ¬ seg.header.RingOk (seg.desc i) := by
        intro h
        rw [ShmHeader.checkRing_eq_ok.mpr h] at hcheck
        cases hcheck
      simp [loadRing, hcheck, hbad, bind, Except.bind]
    | ok u =>
      have hring : seg.loadRing rings i = .ok (Function.update rings (seg.desc i).key (some ⟨i, 0⟩)) := by
        simp only [loadRing, hcheck]
      rw [hring]
      refine ih.trans ?_
      rw [and_assoc]
      exact (and_iff_right (ShmHeader.checkRing_eq_ok.mp hcheck)).symm

/-- **What `load_descriptors` accepts**, and the rings it makes. -/
theorem loadDescriptors_eq_ok {rings : Rings} :
    seg.loadDescriptors = .ok rings ↔ seg.HeaderOk ∧
      (∀ i < seg.header.streamCount.toNat, seg.header.RingOk (seg.desc i)) ∧
      rings = seg.ringsOf (fun _ => none) (List.range seg.header.streamCount.toNat) := by
  rw [← checkHeader_eq_ok]
  unfold loadDescriptors
  split
  next e he =>
    constructor
    · intro h
      cases h
    · rintro ⟨⟨p, hp⟩, -⟩
      rw [he] at hp
      cases hp
  next p hp =>
    rw [foldlM_loadRing]
    simp only [List.mem_range]
    exact (and_iff_right ⟨p, hp⟩).symm

/-- What holds of the ring of every descriptor holds of every ring. -/
theorem ringsOf_all {P : String → RingInfo → Prop} {l : List ℕ} {rings : Rings}
    (hl : ∀ i ∈ l, P (seg.desc i).key ⟨i, 0⟩) (h : ∀ key ring, rings key = some ring → P key ring) {key : String}
    {ring : RingInfo} (hr : seg.ringsOf rings l key = some ring) : P key ring := by
  induction l generalizing rings with
  | nil => exact h key ring hr
  | cons i l ih =>
    refine ih (fun j hj => hl j (List.mem_cons_of_mem i hj)) ?_ hr
    intro key' ring' h'
    change Function.update rings (seg.desc i).key (some ⟨i, 0⟩) key' = some ring' at h'
    by_cases hk : key' = (seg.desc i).key
    · rw [hk, Function.update_self] at h'
      cases h'
      rw [hk]
      exact hl i List.mem_cons_self
    · rw [Function.update_of_ne hk] at h'
      exact h key' ring' h'

/-- The rings of an accepted segment are rings of its descriptors, under their keys. -/
theorem ring_of_loaded {rings : Rings} (h : seg.loadDescriptors = .ok rings) {key : String} {ring : RingInfo}
    (hr : rings key = some ring) : ring.desc < seg.header.streamCount.toNat ∧ key = (seg.desc ring.desc).key := by
  obtain ⟨-, -, rfl⟩ := loadDescriptors_eq_ok.mp h
  refine ringsOf_all (P := fun key ring => ring.desc < seg.header.streamCount.toNat ∧
    key = (seg.desc ring.desc).key) ?_ ?_ hr
  · intro i hi
    exact ⟨List.mem_range.mp hi, rfl⟩
  · intro key' ring' h'
    cases h'

end ShmSegment

/-! ## The loads of `read_slot` -/

section Loads

variable {shm : SharedMemoryRingBuffer}

/-- A location that is one of the mapping. -/
def ShmSegment.InBounds (seg : ShmSegment) (l : ShmLoad) : Prop :=
  (l.range seg.header).Within ⟨0, seg.sizeBytes.toNat⟩

/-- A load of a descriptor finds the value that it had when the segment was opened. -/
def ShmSegment.Unchanged (seg : ShmSegment) (l : ShmLoad) (v : ℕ) : Prop :=
  ∀ i f, l = .desc i f → i < seg.header.streamCount.toNat → v = (seg.desc i).value f

/-- What the loads of descriptor `i` need: it is in the mapping, and its ring was accepted. -/
structure ShmSegment.Opened (seg : ShmSegment) (i : ℕ) : Prop where
  index : i < seg.header.streamCount.toNat
  header : seg.HeaderOk
  ring : seg.header.RingOk (seg.desc i)

/-- A slot behind a pointer: its header and what it can hold as payload are in the mapping. -/
def ShmSegment.SlotAt (seg : ShmSegment) (i : ℕ) (slotIndex : UInt32) (p : UInt64) : Prop :=
  p.toNat = (seg.desc i).slotsOffset.toNat + (seg.desc i).slotBytes.toNat * slotIndex.toNat ∧
  p.toNat + (seg.desc i).slotBytes.toNat ≤ seg.sizeBytes.toNat ∧ 72 ≤ (seg.desc i).slotBytes.toNat

namespace ShmSegment

variable {seg : ShmSegment} {i : ℕ}

theorem Opened.inBounds (h : seg.Opened i) {f : DescField} (hf : f.range.stop ≤ 104) :
    seg.InBounds (.desc i f) := by
  have hd := h.header.descriptors
  have ht := h.header.total_le
  have hi := h.index
  have hstop : f.range.start + f.range.len ≤ 104 := hf
  refine ⟨Nat.zero_le _, ?_⟩
  simp only [ShmLoad.range, ByteRange.stop]
  omega

/-- **One load of a descriptor**: it is in bounds, and the value is known. -/
theorem Opened.ensures_desc {α : Type} (h : seg.Opened i) {f : DescField} (hf : f.range.stop ≤ 104)
    {next : ℕ → ShmReader α} {Q : α → Prop}
    (hnext : (next ((seg.desc i).value f)).Ensures seg.Unchanged seg.InBounds Q) :
    (Reader.read (.desc i f) next).Ensures seg.Unchanged seg.InBounds Q := by
  apply Reader.ensures_read (h.inBounds hf)
  intro v hv
  rw [hv i f rfl h.index]
  exact hnext

theorem SlotAt.inBounds {slotIndex : UInt32} {p : UInt64} (h : seg.SlotAt i slotIndex p) {f : SlotField}
    (hf : f.range.stop ≤ (seg.desc i).slotBytes.toNat) : seg.InBounds (.slot p f) := by
  obtain ⟨-, hp, -⟩ := h
  have hstop : f.range.start + f.range.len ≤ (seg.desc i).slotBytes.toNat := hf
  refine ⟨Nat.zero_le _, ?_⟩
  simp only [ShmLoad.range, ByteRange.stop]
  omega

/-- A field of the slot's header. -/
theorem SlotAt.inBounds_header {slotIndex : UInt32} {p : UInt64} (h : seg.SlotAt i slotIndex p) {f : SlotField}
    (hf : f.range.stop ≤ 72) : seg.InBounds (.slot p f) := h.inBounds (hf.trans h.2.2)

/-- The characters of a name are loaded from the descriptor. -/
theorem Opened.ensures_loadCstr (h : seg.Opened i) {field : ℕ → DescField} {n k : ℕ}
    (hf : ∀ j < k + n, (field j).range.stop ≤ 104) :
    (loadCstr i field n k).Ensures seg.Unchanged seg.InBounds fun _ => True := by
  induction n generalizing k with
  | zero => trivial
  | succ n ih =>
    apply Reader.ensures_read (h.inBounds (hf k (by omega)))
    intro v _
    split
    · trivial
    · apply (ih fun j hj => hf j (by omega)).bind
      intro cs _
      trivial

theorem Opened.ensures_capacity (h : seg.Opened i) :
    (slotPayloadCapacity i).Ensures seg.Unchanged seg.InBounds fun r =>
      ∃ capacity, r = .ok capacity ∧ capacity.toNat + 72 = (seg.desc i).slotBytes.toNat := by
  have hb : UInt64.ofNat ((seg.desc i).value .slotBytes) = (seg.desc i).slotBytes := UInt64.ofNat_toNat
  have hslot := h.ring.slotHeader
  have hge : ¬ (seg.desc i).slotBytes < sizeofFrameSlotHeader := by
    rw [UInt64.lt_iff_toNat_lt, sizeofFrameSlotHeader_toNat]
    omega
  refine h.ensures_desc (by decide) ?_
  rw [hb, if_neg hge]
  refine h.ensures_desc (by decide) ?_
  rw [hb]
  refine ⟨_, rfl, ?_⟩
  rw [UInt64.toNat_sub_of_le _ _ (UInt64.not_lt.mp hge), sizeofFrameSlotHeader_toNat]
  omega

end ShmSegment

namespace SharedMemoryRingBuffer

variable {i : ℕ} {slotIndex : UInt32}

/-- **`slot_header`** of an index below the slot count does not fail: it points to a slot in the mapping. -/
theorem ensures_slotHeader (h : shm.seg.Opened i) (hidx : slotIndex.toNat < (shm.seg.desc i).slotCount.toNat) :
    (shm.slotHeader i slotIndex).Ensures shm.seg.Unchanged shm.seg.InBounds fun r =>
      ∃ p, r = .ok p ∧ shm.seg.SlotAt i slotIndex p := by
  obtain ⟨hmul, hadd, hp, hend⟩ := h.ring.slot hidx
  have hslot := h.ring.slotHeader
  have htotal := h.header.total_le
  have hb : UInt64.ofNat ((shm.seg.desc i).value .slotBytes) = (shm.seg.desc i).slotBytes := UInt64.ofNat_toNat
  have ho : UInt64.ofNat ((shm.seg.desc i).value .slotsOffset) = (shm.seg.desc i).slotsOffset := UInt64.ofNat_toNat
  have hlt : ¬ (shm.seg.desc i).value .slotCount ≤ slotIndex.toNat := Nat.not_le.mpr hidx
  refine h.ensures_desc (by decide) ?_
  rw [if_neg hlt]
  refine h.ensures_desc (by decide) ?_
  rw [hb]
  simp only [hmul]
  refine h.ensures_desc (by decide) ?_
  rw [ho]
  simp only [hadd]
  refine ⟨_, ShmSegment.ptrRangeAt_eq_ok.mpr ⟨rfl, ?_⟩, hp, ?_, hslot⟩
  · rw [sizeofFrameSlotHeader_toNat]
    omega
  · omega

theorem ensures_readMeta (h : shm.seg.Opened i) {slot : UInt64} (hs : shm.seg.SlotAt i slotIndex slot)
    {ringName : String} {seq : ℕ} {bytes : List UInt8} :
    (shm.readMeta ringName i slotIndex slot seq bytes).Ensures shm.seg.Unchanged shm.seg.InBounds
      fun _ => True := by
  apply (h.ensures_loadCstr ?_).bind
  · intro camera _
    apply (h.ensures_loadCstr ?_).bind
    · intro stream _
      apply Reader.ensures_readAll
      · intro l hl
        obtain ⟨f, hf, rfl⟩ := List.mem_map.mp hl
        apply hs.inBounds_header
        clear hl
        revert f
        decide
      · intro vals _
        refine h.ensures_desc (by decide) ?_
        refine h.ensures_desc (by decide) ?_
        apply (h.ensures_loadCstr ?_).bind
        · intro format _
          trivial
        · intro j hj
          simp only [DescField.range, ByteRange.stop]
          omega
    · intro j hj
      simp only [DescField.range, ByteRange.stop]
      omega
  · intro j hj
    simp only [DescField.range, ByteRange.stop]
    omega

/-- **The retry loop**, for any number of retries. -/
theorem ensures_readRetries (h : shm.seg.Opened i)
    (hidx : slotIndex.toNat < (shm.seg.desc i).slotCount.toNat) {slot : UInt64}
    (hs : shm.seg.SlotAt i slotIndex slot) {ringName : String} (maxRetries : ℕ) :
    (shm.readRetries ringName i slotIndex slot maxRetries).Ensures shm.seg.Unchanged shm.seg.InBounds
      fun r => ∃ res, r = .ok res := by
  induction maxRetries with
  | zero => exact ⟨none, rfl⟩
  | succ n ih =>
    apply Reader.ensures_read (hs.inBounds_header (by decide))
    intro a _
    split
    · exact ih
    apply Reader.ensures_read (hs.inBounds_header (by decide))
    intro valid _
    split
    · exact ih
    apply Reader.ensures_read (hs.inBounds_header (by decide))
    intro size _
    apply h.ensures_capacity.tryBind
    intro capacity hcapacity
    split
    · exact ⟨none, rfl⟩
    next hsize =>
      apply (ensures_slotHeader h hidx).tryBind
      intro slot' hs'
      apply Reader.ensures_readAll
      · intro l hl
        obtain ⟨k, hk, rfl⟩ := List.mem_map.mp hl
        rw [List.mem_range] at hk
        apply hs'.inBounds
        simp only [SlotField.range, ByteRange.stop]
        omega
      · intro bytes _
        apply Reader.ensures_read (hs.inBounds_header (by decide))
        intro b _
        apply Reader.ensures_read (hs.inBounds_header (by decide))
        intro c _
        split
        · apply (ensures_readMeta h hs).bind
          intro r _
          exact ⟨some r, rfl⟩
        · exact ih

/-- `read_slot` of an accepted segment: every load is in bounds, and nothing is thrown. -/
theorem ensures_readSlot (h : shm.seg.loadDescriptors = .ok shm.rings) {ringName : String} {maxRetries : ℕ} :
    (shm.readSlot ringName slotIndex maxRetries).Ensures shm.seg.Unchanged shm.seg.InBounds
      fun r => ∃ res, r = .ok res := by
  unfold readSlot
  split
  · exact ⟨none, rfl⟩
  next ring hring =>
    obtain ⟨hheader, hrings, -⟩ := ShmSegment.loadDescriptors_eq_ok.mp h
    have hlt := (ShmSegment.ring_of_loaded h hring).1
    have ho : shm.seg.Opened ring.desc := ⟨hlt, hheader, hrings _ hlt⟩
    refine ho.ensures_desc (by decide) ?_
    split
    · exact ⟨none, rfl⟩
    next hidx =>
      have hidx : slotIndex.toNat < (shm.seg.desc ring.desc).slotCount.toNat := Nat.lt_of_not_le hidx
      apply (ensures_slotHeader ho hidx).tryBind
      intro slot hs
      exact ensures_readRetries ho hidx hs maxRetries

end SharedMemoryRingBuffer

end Loads

/-! ## The result -/

/-- What is computed from accepted values in 64 bits is exact: the end of the descriptors, the end of the slots
of a ring, the payload of a slot, and its `shm_offset`. -/
structure ShmSegment.Exact (seg : ShmSegment) : Prop where
  descriptors : (seg.header.descriptorsOffset + seg.header.streamCount.toUInt64 * sizeofStreamRingHeader).toNat =
    seg.header.descriptorsOffset.toNat + seg.header.streamCount.toNat * 104
  span : ∀ i < seg.header.streamCount.toNat,
    ((seg.desc i).slotsOffset + (seg.desc i).slotCount.toUInt64 * (seg.desc i).slotBytes).toNat =
      (seg.desc i).slotsOffset.toNat + (seg.desc i).slotCount.toNat * (seg.desc i).slotBytes.toNat
  capacity : ∀ i < seg.header.streamCount.toNat,
    ((seg.desc i).slotBytes - sizeofFrameSlotHeader).toNat + 72 = (seg.desc i).slotBytes.toNat
  offset : ∀ i < seg.header.streamCount.toNat, ∀ k : UInt32, k.toNat < (seg.desc i).slotCount.toNat →
    ((seg.desc i).slotsOffset + (seg.desc i).slotBytes * k.toUInt64 + sizeofFrameSlotHeader).toNat =
      (seg.desc i).slotsOffset.toNat + (seg.desc i).slotBytes.toNat * k.toNat + 72

theorem ShmSegment.exact_of_loaded {seg : ShmSegment} {rings : Rings} (h : seg.loadDescriptors = .ok rings) :
    seg.Exact := by
  obtain ⟨hheader, hrings, -⟩ := ShmSegment.loadDescriptors_eq_ok.mp h
  have htotal := seg.header.totalSizeBytes.toNat_lt
  have exact_span : ∀ {start n size : UInt64}, start.toNat + n.toNat * size.toNat < 2 ^ 64 →
      (start + n * size).toNat = start.toNat + n.toNat * size.toNat := by
    intro start n size hlt
    rw [UInt64.toNat_add, UInt64.toNat_mul]
    rw [Nat.mod_eq_of_lt (a := n.toNat * size.toNat) (by omega), Nat.mod_eq_of_lt hlt]
  refine ⟨?_, ?_, ?_, ?_⟩
  · have hd := hheader.descriptors
    rw [exact_span]
    · rw [UInt32.toNat_toUInt64, sizeofStreamRingHeader_toNat]
    · rw [UInt32.toNat_toUInt64, sizeofStreamRingHeader_toNat]
      omega
  · intro i hi
    have hspan := (hrings i hi).span
    rw [exact_span]
    · rw [UInt32.toNat_toUInt64]
    · rw [UInt32.toNat_toUInt64]
      omega
  · intro i hi
    have hslot := (hrings i hi).slotHeader
    have hle : sizeofFrameSlotHeader ≤ (seg.desc i).slotBytes := by
      rw [UInt64.le_iff_toNat_le, sizeofFrameSlotHeader_toNat]
      exact hslot
    rw [UInt64.toNat_sub_of_le _ _ hle, sizeofFrameSlotHeader_toNat]
    omega
  · intro i hi k hk
    have hslot := (hrings i hi).slotHeader
    obtain ⟨-, -, hp, hend⟩ := (hrings i hi).slot hk
    rw [UInt64.toNat_add, hp, sizeofFrameSlotHeader_toNat, Nat.mod_eq_of_lt (by omega)]

/-- **Opening an untrusted segment is in bounds.**  Whatever the segment holds, if its descriptors are accepted
and do not change, every byte that `read_slot` loads of it, while its slots change in any way, is one of the
mapping, and no size or offset wraps. -/
theorem readSlot_inBounds {shm : SharedMemoryRingBuffer} (h : shm.seg.loadDescriptors = .ok shm.rings)
    (ringName : String) (slotIndex : UInt32) (maxRetries : ℕ) {mem : ℕ → ShmLoad → ℕ}
    (hmem : ∀ t i f, i < shm.seg.header.streamCount.toNat → mem t (.desc i f) = (shm.seg.desc i).value f)
    {n : ℕ} {loads : List (ℕ × ShmLoad)} {r : Except String (Option SharedMemoryRingBuffer.ReadResult)}
    (hrun : Trace mem n (shm.readSlot ringName slotIndex maxRetries) loads r) :
    (∀ x ∈ loads, (x.2.range shm.seg.header).Within ⟨0, shm.seg.sizeBytes.toNat⟩) ∧ shm.seg.Exact := by
  refine ⟨?_, ShmSegment.exact_of_loaded h⟩
  have hA : ∀ t l, shm.seg.Unchanged l (mem t l) := by
    rintro t l i f rfl hi
    exact hmem t i f hi
  exact ((SharedMemoryRingBuffer.ensures_readSlot h).trace hA hrun).2

/-- A segment of one ring with two slots. -/
def oneRing : ShmSegment where
  sizeBytes := 4096
  header := ⟨kMagic, kVersion, 1, 4096, 0, 64⟩
  desc := fun _ => ⟨writeCstr 32 "head", writeCstr 16 "color", writeCstr 16 "y8", 1, 1, 1, 1, 2, 192, 192⟩

/-- The segment opened. -/
def oneRingBuffer : SharedMemoryRingBuffer where
  name := "/frames"
  seg := oneRing
  rings := Function.update (fun _ => none) (oneRing.desc 0).key (some ⟨0, 0⟩)

/-- The descriptors, and a frame of two bytes in every slot. -/
def oneRingMem : ShmLoad → ℕ
  | .desc i f => (oneRing.desc i).value f
  | .slot _ .seqBegin => 2
  | .slot _ .seqEnd => 2
  | .slot _ .valid => 1
  | .slot _ .sizeBytes => 2
  | .slot _ (.payload k) => 7 + k
  | .slot _ _ => 0

theorem oneRing_loaded : oneRingBuffer.seg.loadDescriptors = .ok oneRingBuffer.rings := by
  have hheader : oneRing.HeaderOk :=
    ⟨rfl, rfl, by decide, by decide, by decide, by decide, by decide⟩
  refine ShmSegment.loadDescriptors_eq_ok.mpr ⟨hheader, ?_, rfl⟩
  intro i _
  have hslots : 0 < (2 : UInt32).toNat := by decide
  have hslot : 72 ≤ (192 : UInt64).toNat := by decide
  have hspan : (192 : UInt64).toNat + (2 : UInt32).toNat * (192 : UInt64).toNat ≤ (4096 : UInt64).toNat := by decide
  exact ⟨hslots, hslot, hspan⟩

/-- What `read_slot` does with slot 1 of the ring, the ring once found. -/
def slotOne : ShmReader (Except String (Option SharedMemoryRingBuffer.ReadResult)) :=
  .read (.desc 0 .slotCount) fun slotCount =>
  if slotCount ≤ (1 : UInt32).toNat then .done (.ok none)
  else (oneRingBuffer.slotHeader 0 1).tryBind fun slot =>
  oneRingBuffer.readRetries (oneRing.desc 0).key 0 1 slot 1

/-- A frame of two bytes is read, and its payload with it. -/
theorem readSlot_inBounds_oneRing : ∃ loads r,
    Trace (fun _ => oneRingMem) 0 (oneRingBuffer.readSlot (oneRing.desc 0).key 1 1) loads (.ok (some r)) ∧
      r.bytes = [7, 8] ∧ (0, .slot 384 (.payload 0)) ∈ loads ∧ (0, .slot 384 (.payload 1)) ∈ loads ∧
      ∀ x ∈ loads, (x.2.range oneRing.header).Within ⟨0, 4096⟩ := by
  have hring : oneRingBuffer.rings (oneRing.desc 0).key = some ⟨0, 0⟩ := by
    simp only [oneRingBuffer, Function.update_self]
  have hread : oneRingBuffer.readSlot (oneRing.desc 0).key 1 1 = slotOne := by
    unfold SharedMemoryRingBuffer.readSlot
    rw [hring]
    rfl
  have hrun := Trace.eval oneRingMem 0 slotOne
  have hpayload : ∀ k < 2, (0, ShmLoad.slot 384 (.payload k)) ∈ (slotOne.locations oneRingMem).map ((0 : ℕ), ·) := by
    decide +kernel
  obtain ⟨r, hr, hbytes⟩ : ∃ r, slotOne.eval oneRingMem = .ok (some r) ∧ r.bytes = [7, 8] := ⟨_, rfl, rfl⟩
  rw [hr] at hrun
  rw [hread]
  exact ⟨_, r, hrun, hbytes, hpayload 0 (by decide), hpayload 1 (by decide),
    (readSlot_inBounds oneRing_loaded (oneRing.desc 0).key 1 1 (fun _ _ _ _ => rfl) (hread ▸ hrun)).1⟩

end CameraServer
