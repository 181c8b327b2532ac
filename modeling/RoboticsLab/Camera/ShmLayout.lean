import RoboticsLab.Camera.ShmPlacement
import RoboticsLab.Camera.ShmBounds
import Mathlib.Data.UInt

/-!
# The layout that `create` computes

The cursor is not checked where it is advanced, but every descriptor is checked when it is loaded again; so a
cursor that wrapped does not pass, and the layout is sound.  This needs the descriptors to be loaded again: the
number of streams is a `uint32_t`, and `2^32` streams are loaded as none.

    create cfg now = .ok shm → (LayoutSound cfg ds ↔ fewer than 2^32 streams ∨ no slots)
    validateConfig cfg = .ok () → at most 16 streams → ExactSizes cfg → ∃ shm, create cfg now = .ok shm
                                                                                        (create_layout)
-/

namespace CameraServer

open Layout

/-! ## What `create` has done when it returns -/

/-- The table with the descriptors `ds`, before it is loaded again. -/
def AppConfig.table (cfg : AppConfig) (ds : List StreamRingHeader) : RingTable :=
  (RingTable.mk (fun _ => zeroDesc) 0 (firstCursor (streamCount cfg.cameras))).write ds

/-- `create` has written the descriptors `ds`, and has loaded the segment again. -/
structure Created (cfg : AppConfig) (nowNs : UInt64) (ds : List StreamRingHeader) (shm : SharedMemoryRingBuffer) :
    Prop where
  size_ne : cfg.sizeBytes ≠ 0
  count : (streamCount cfg.cameras).toNat ≤ 16
  placed : placeStreams cfg.sharedMemory.ringSlots (firstCursor (streamCount cfg.cameras))
    (streamSpecs cfg.cameras) = .ok ds
  fits : streamSpecs cfg.cameras ≠ [] →
    64 + 104 * min (streamSpecs cfg.cameras).length (2 ^ 32) ≤ cfg.sizeBytes.toNat
  cursor : (cfg.table ds).cursor.toNat ≤ cfg.sizeBytes.toNat
  loaded : (cfg.segment nowNs (cfg.table ds).desc).loadDescriptors = .ok shm.rings
  shm_eq : shm = ⟨cfg.sharedMemory.name, cfg.segment nowNs (cfg.table ds).desc, shm.rings⟩

theorem create_eq_ok {cfg : AppConfig} {nowNs : UInt64} {shm : SharedMemoryRingBuffer} :
    create cfg nowNs = .ok shm ↔ ∃ ds, Created cfg nowNs ds shm := by
  have hcount : kMaxStreams < streamCount cfg.cameras ↔ ¬ (streamCount cfg.cameras).toNat ≤ 16 := by
    rw [UInt32.lt_iff_toNat_lt, kMaxStreams_toNat, Nat.not_le]
  constructor
  · intro h
    by_cases hsize : cfg.sizeBytes = 0
    · rw [create, if_pos hsize] at h
      cases h
    by_cases hstreams : kMaxStreams < streamCount cfg.cameras
    · rw [create, if_neg hsize, if_pos hstreams] at h
      cases h
    rw [create, if_neg hsize, if_neg hstreams] at h
    rw [hcount, not_not] at hstreams
    split at h
    · cases h
    next t ht =>
      obtain ⟨ds, hds, rfl, hfits⟩ := foldlM_addStream.mp ht
      rw [UInt32.toNat_zero, Nat.zero_add] at hfits
      split at h
      · cases h
      next hcursor =>
        rw [UInt64.lt_iff_toNat_lt, Nat.not_lt] at hcursor
        split at h
        · cases h
        next rings hrings =>
          cases h
          exact ⟨ds, hsize, hstreams, hds, hfits, hcursor, hrings, rfl⟩
  · rintro ⟨ds, h⟩
    have hstreams : ¬ kMaxStreams < streamCount cfg.cameras := by
      rw [hcount, not_not]
      exact h.count
    have ht : (streamSpecs cfg.cameras).foldlM (addStream cfg.sizeBytes cfg.sharedMemory.ringSlots)
        ⟨fun _ => zeroDesc, 0, firstCursor (streamCount cfg.cameras)⟩ = .ok (cfg.table ds) := by
      refine foldlM_addStream.mpr ⟨ds, h.placed, rfl, ?_⟩
      rw [UInt32.toNat_zero, Nat.zero_add]
      exact h.fits
    have hcursor : ¬ cfg.sizeBytes < (cfg.table ds).cursor := by
      rw [UInt64.lt_iff_toNat_lt, Nat.not_lt]
      exact h.cursor
    rw [create, if_neg h.size_ne, if_neg hstreams, ht]
    simp only [if_neg hcursor, h.loaded]
    rw [← h.shm_eq]

theorem firstCursor_toNat {count : UInt32} (h : count.toNat ≤ 16) :
    (firstCursor count).toNat = (64 + 104 * count.toNat + 63) / 64 * 64 := by
  have hoffset : descriptorsOffset.toNat = 64 := rfl
  rw [firstCursor, align64_toNat, UInt64.toNat_add, UInt64.toNat_mul, UInt32.toNat_toUInt64, hoffset,
    sizeofStreamRingHeader_toNat, Nat.mod_eq_of_lt (a := count.toNat * 104) (by omega),
    Nat.mod_eq_of_lt (a := 64 + count.toNat * 104) (by omega), Nat.mod_eq_of_lt (by omega), Nat.mul_comm 104]

/-! ## Sound layouts -/

/-- The parts of a segment: its header, the table of the descriptors, and slot `k` of stream `i`. -/
inductive SegmentPart
  | header
  | table
  | slot (i k : ℕ)
deriving DecidableEq

namespace SegmentPart

/-- The bytes of a part; the table has no more descriptors than an index can count. -/
def range (ds : List StreamRingHeader) : SegmentPart → ByteRange
  | .header => ⟨0, 40⟩
  | .table => ⟨64, 104 * min ds.length (2 ^ 32)⟩
  | .slot i k => (ds.getD i zeroDesc).slot k

def Present (ds : List StreamRingHeader) : SegmentPart → Prop
  | .slot i k => i < ds.length ∧ k < (ds.getD i zeroDesc).slotCount.toNat
  | _ => True

end SegmentPart

/-- **A sound layout**: the parts are apart and in the segment, the slots are aligned, and a slot holds its header
and the padded rows of an image of its stream. -/
structure LayoutSound (cfg : AppConfig) (ds : List StreamRingHeader) : Prop where
  inBounds : ∀ p : SegmentPart, p.Present ds → (p.range ds).Within ⟨0, cfg.sizeBytes.toNat⟩
  apart : ∀ p q : SegmentPart, p.Present ds → q.Present ds → p ≠ q → (p.range ds).Apart (q.range ds)
  aligned : ∀ i k, SegmentPart.Present ds (.slot i k) → 64 ∣ (SegmentPart.range ds (.slot i k)).start
  capacity : ∀ i k s bpp, SegmentPart.Present ds (.slot i k) → (streamSpecs cfg.cameras)[i]? = some s →
    bytesPerPixelForFormat s.scfg.format = .ok bpp →
    72 + paddedBytes s.scfg bpp ≤ (SegmentPart.range ds (.slot i k)).len

theorem slot_within {d : StreamRingHeader} {k : ℕ} (h : k < d.slotCount.toNat) : (d.slot k).Within d.slots :=
  ByteRange.cell_within h

theorem isInt_of_mem {cfg : AppConfig} {s : StreamSpec} (h : s ∈ streamSpecs cfg.cameras) :
    IsInt s.scfg.width ∧ IsInt s.scfg.height := by
  rw [streamSpecs, List.mem_flatMap] at h
  obtain ⟨cam, hcam, h⟩ := h
  obtain ⟨x, hx, rfl⟩ := List.mem_map.mp h
  exact cfg.dims_isInt cam hcam x hx

section Sound

variable {cfg : AppConfig} {nowNs : UInt64} {ds : List StreamRingHeader} {shm : SharedMemoryRingBuffer}

theorem Created.length (h : Created cfg nowNs ds shm) : ds.length = (streamSpecs cfg.cameras).length :=
  length_placeStreams h.placed

theorem Created.cursor_dvd (h : Created cfg nowNs ds shm) : 64 ∣ (firstCursor (streamCount cfg.cameras)).toNat := by
  rw [firstCursor_toNat h.count]
  exact Dvd.intro_left _ rfl

/-- The descriptor of a stream, and what it was written from. -/
theorem Created.described (h : Created cfg nowNs ds shm) {i : ℕ} (hi : i < ds.length) :
    ∃ s ∈ streamSpecs cfg.cameras, (streamSpecs cfg.cameras)[i]? = some s ∧ ∃ c bpp,
      Described cfg.sharedMemory.ringSlots c s bpp (ds.getD i zeroDesc) ∧ 64 ∣ c.toNat := by
  have hall := placed_described h.placed h.cursor_dvd
  have hi' : i < (streamSpecs cfg.cameras).length := by
    rw [← h.length]
    exact hi
  have hget := hall.get hi' hi
  refine ⟨(streamSpecs cfg.cameras)[i], List.getElem_mem hi', List.getElem?_eq_getElem hi', ?_⟩
  rw [List.getD_eq_getElem _ _ hi]
  exact hget

/-- The header and the table, which the slots of an accepted table are behind. -/
theorem Created.table_le (h : Created cfg nowNs ds shm) :
    64 + 104 * min ds.length (2 ^ 32) ≤ cfg.sizeBytes.toNat := by
  rw [h.length]
  by_cases hne : streamSpecs cfg.cameras = []
  · obtain ⟨hheader, -⟩ := ShmSegment.loadDescriptors_eq_ok.mp h.loaded
    have hd := hheader.descriptors
    have ht := hheader.total_le
    have hoffset : (cfg.segment nowNs (cfg.table ds).desc).header.descriptorsOffset.toNat = 64 := rfl
    have hsize : (cfg.segment nowNs (cfg.table ds).desc).sizeBytes = cfg.sizeBytes := rfl
    rw [hoffset] at hd
    rw [hsize] at ht
    rw [hne, List.length_nil]
    omega
  · exact h.fits hne

/-- With fewer than `2^32` streams the table that is loaded again is the table that was written. -/
theorem Created.desc_eq (h : Created cfg nowNs ds shm) (hlt : ds.length < 2 ^ 32) {i : ℕ} (hi : i < ds.length) :
    shm.seg.desc i = ds.getD i zeroDesc := by
  have hidx : (0 : UInt32).toNat = 0 := rfl
  have hd : shm.seg.desc i = (cfg.table ds).desc i := by
    rw [h.shm_eq]
    rfl
  rw [hd, AppConfig.table, RingTable.write_desc (by rw [hidx]; omega), hidx, Nat.zero_add, if_pos ⟨by omega, hi⟩,
    Nat.sub_zero]

theorem Created.count_eq (h : Created cfg nowNs ds shm) (hlt : ds.length < 2 ^ 32) :
    (streamCount cfg.cameras).toNat = ds.length := by
  rw [streamCount_toNat, ← h.length, Nat.mod_eq_of_lt hlt]

/-- Every descriptor that was written has been checked. -/
theorem Created.ringOk (h : Created cfg nowNs ds shm) (hlt : ds.length < 2 ^ 32) {i : ℕ} (hi : i < ds.length) :
    72 ≤ (ds.getD i zeroDesc).slotBytes.toNat ∧ (ds.getD i zeroDesc).slots.stop ≤ cfg.sizeBytes.toNat := by
  obtain ⟨-, hrings, -⟩ := ShmSegment.loadDescriptors_eq_ok.mp h.loaded
  have hi' : i < (streamCount cfg.cameras).toNat := by
    rw [h.count_eq hlt]
    exact hi
  have hring := hrings i hi'
  have hd : (cfg.segment nowNs (cfg.table ds).desc).desc i = ds.getD i zeroDesc := by
    rw [← h.desc_eq hlt hi, h.shm_eq]
  rw [hd] at hring
  refine ⟨hring.slotHeader, ?_⟩
  have hspan := hring.span
  rw [Nat.mul_comm] at hspan
  exact hspan

/-- The layout of fewer than `2^32` streams is sound. -/
theorem Created.layoutSound (h : Created cfg nowNs ds shm) (hlt : ds.length < 2 ^ 32) : LayoutSound cfg ds := by
  have hsize := cfg.sizeBytes.toNat_lt
  have htable := h.table_le
  have hcount := h.count
  have hcursor := firstCursor_toNat hcount
  rw [h.count_eq hlt] at hcount hcursor
  have hstop : ∀ d ∈ ds, d.slots.stop < 2 ^ 64 := by
    intro d hd
    obtain ⟨i, hi, rfl⟩ := List.mem_iff_getElem.mp hd
    have := (h.ringOk hlt hi).2
    rw [List.getD_eq_getElem _ _ hi] at this
    omega
  have hcons := consecutive_slots h.placed hstop
  have hstart : ∀ i, i < ds.length → 64 + 104 * ds.length ≤ (ds.getD i zeroDesc).slots.start := by
    intro i hi
    have := hcons.le_start _ (List.mem_map_of_mem (List.getElem_mem hi))
    rw [List.getD_eq_getElem _ _ hi]
    omega
  have hspans : ∀ i j, i < ds.length → j < ds.length → i ≠ j →
      (ds.getD i zeroDesc).slots.Apart (ds.getD j zeroDesc).slots := by
    have hpair := List.pairwise_iff_getElem.mp hcons.apart
    have key : ∀ i j (hi : i < ds.length) (hj : j < ds.length), i < j → ds[i].slots.Apart ds[j].slots := by
      intro i j hi hj hij
      have := hpair i j (by rw [List.length_map]; exact hi) (by rw [List.length_map]; exact hj) hij
      rwa [List.getElem_map, List.getElem_map] at this
    intro i j hi hj hij
    rw [List.getD_eq_getElem _ _ hi, List.getD_eq_getElem _ _ hj]
    rcases Nat.lt_or_gt_of_ne hij with hij | hij
    · exact key i j hi hj hij
    · exact (key j i hj hi hij).symm
  -- the header and the table end where the slots of any stream start
  have hfront : ∀ {p : SegmentPart} {i k : ℕ}, p.Present ds → SegmentPart.Present ds (.slot i k) →
      (p = .header ∨ p = .table) → (p.range ds).Apart (SegmentPart.range ds (.slot i k)) := by
    rintro p i k - ⟨hi, hk⟩ hp
    left
    have hs := hstart i hi
    have hin := (slot_within hk).1
    rcases hp with rfl | rfl
    · simp only [SegmentPart.range, ByteRange.stop]
      omega
    · simp only [SegmentPart.range, ByteRange.stop]
      omega
  refine ⟨?_, ?_, ?_, ?_⟩
  · intro p hp
    refine ⟨Nat.zero_le _, ?_⟩
    cases p with
    | header =>
      simp only [SegmentPart.range, ByteRange.stop]
      omega
    | table =>
      simp only [SegmentPart.range, ByteRange.stop]
      omega
    | slot i k =>
      have h1 := (slot_within hp.2).2
      have h2 := (h.ringOk hlt hp.1).2
      simp only [SegmentPart.range, ByteRange.stop] at h1 h2 ⊢
      omega
  · intro p q hp hq hne
    cases p with
    | header =>
      cases q with
      | header => exact absurd rfl hne
      | table =>
        left
        simp only [SegmentPart.range, ByteRange.stop]
        omega
      | slot i k => exact hfront hp hq (Or.inl rfl)
    | table =>
      cases q with
      | header =>
        right
        simp only [SegmentPart.range, ByteRange.stop]
        omega
      | table => exact absurd rfl hne
      | slot i k => exact hfront hp hq (Or.inr rfl)
    | slot i k =>
      cases q with
      | header => exact (hfront hq hp (Or.inl rfl)).symm
      | table => exact (hfront hq hp (Or.inr rfl)).symm
      | slot j l =>
        by_cases hij : i = j
        · subst hij
          apply ByteRange.cell_apart
          rintro rfl
          exact hne rfl
        · exact (hspans i j hp.1 hq.1 hij).mono (slot_within hp.2) (slot_within hq.2)
  · rintro i k ⟨hi, hk⟩
    obtain ⟨s, -, -, c, bpp, hd, hc⟩ := h.described hi
    simp only [SegmentPart.range, StreamRingHeader.slot, ByteRange.cell]
    rw [hd.slotsOffset, hd.slotBytes]
    exact Nat.dvd_add hc (Dvd.dvd.mul_right (align64_dvd _) k)
  · rintro i k s bpp ⟨hi, hk⟩ hs hbpp
    obtain ⟨s', hmem, hs', c, bpp', hd, -⟩ := h.described hi
    rw [hs] at hs'
    cases hs'
    have hfmt := hd.format
    rw [hbpp] at hfmt
    cases hfmt
    have hslot := (h.ringOk hlt hi).1
    simp only [SegmentPart.range, StreamRingHeader.slot, ByteRange.cell]
    rw [hd.slotBytes] at hslot ⊢
    exact paddedBytes_le_capacity (isInt_of_mem hmem).1 (isInt_of_mem hmem).2 (bytesPerPixel_le hbpp) hslot

/-- `2^32` streams and more are loaded as few; the slots of the first one then lie in the table. -/
theorem Created.lt_of_layoutSound (h : Created cfg nowNs ds shm) (hs : LayoutSound cfg ds)
    (hslots : cfg.sharedMemory.ringSlots ≠ 0) : ds.length < 2 ^ 32 := by
  by_contra hge
  rw [Nat.not_lt] at hge
  have hpos : 0 < ds.length := by omega
  have hcount := h.count
  have hcursor := firstCursor_toNat hcount
  have hslotCount : 0 < cfg.sharedMemory.ringSlots.toNat := by
    rw [Nat.pos_iff_ne_zero, ne_eq, ← UInt32.toNat_zero, UInt32.toNat_inj]
    exact hslots
  obtain ⟨s, -, hspec, c, bpp, hd, -⟩ := h.described hpos
  have hpresent : SegmentPart.Present ds (.slot 0 0) := by
    refine ⟨hpos, ?_⟩
    rw [hd.slotCount]
    exact hslotCount
  have hcap := hs.capacity 0 0 s bpp hpresent hspec hd.format
  have hoff : (ds.getD 0 zeroDesc).slotsOffset = firstCursor (streamCount cfg.cameras) := by
    have hplaced := h.placed
    cases hspecs : streamSpecs cfg.cameras with
    | nil =>
      rw [hspecs] at hspec
      cases hspec
    | cons s0 specs =>
      rw [hspecs] at hplaced
      obtain ⟨d, ds', hd0, -, rfl⟩ := placeStreams_cons.mp hplaced
      obtain ⟨bpp0, hd0⟩ := describe_ok hd0
      exact hd0.slotsOffset
  have hapart := hs.apart .table (.slot 0 0) trivial hpresent (by decide)
  simp only [SegmentPart.range, StreamRingHeader.slot, ByteRange.cell, ByteRange.Apart, ByteRange.stop, hoff]
    at hcap hapart
  omega

/-- With no slots there is nothing that the header and the table could meet. -/
theorem Created.layoutSound_of_noSlots (h : Created cfg nowNs ds shm) (hslots : cfg.sharedMemory.ringSlots = 0) :
    LayoutSound cfg ds := by
  have htable := h.table_le
  have hnone : ∀ i k, ¬ SegmentPart.Present ds (.slot i k) := by
    rintro i k ⟨hi, hk⟩
    obtain ⟨s, -, -, c, bpp, hd, -⟩ := h.described hi
    rw [hd.slotCount, hslots, UInt32.toNat_zero] at hk
    omega
  refine ⟨?_, ?_, ?_, ?_⟩
  · intro p hp
    refine ⟨Nat.zero_le _, ?_⟩
    cases p with
    | header =>
      simp only [SegmentPart.range, ByteRange.stop]
      omega
    | table =>
      simp only [SegmentPart.range, ByteRange.stop]
      omega
    | slot i k => exact absurd hp (hnone i k)
  · intro p q hp hq hne
    cases p with
    | header =>
      cases q with
      | header => exact absurd rfl hne
      | table =>
        left
        simp only [SegmentPart.range, ByteRange.stop]
        omega
      | slot i k => exact absurd hq (hnone i k)
    | table =>
      cases q with
      | header =>
        right
        simp only [SegmentPart.range, ByteRange.stop]
        omega
      | table => exact absurd rfl hne
      | slot i k => exact absurd hq (hnone i k)
    | slot i k => exact absurd hp (hnone i k)
  · intro i k hp
    exact absurd hp (hnone i k)
  · intro i k s bpp hp
    exact absurd hp (hnone i k)

theorem Created.layoutSound_iff (h : Created cfg nowNs ds shm) :
    LayoutSound cfg ds ↔ (streamSpecs cfg.cameras).length < 2 ^ 32 ∨ cfg.sharedMemory.ringSlots = 0 := by
  rw [← h.length]
  constructor
  · intro hs
    by_cases hslots : cfg.sharedMemory.ringSlots = 0
    · exact Or.inr hslots
    · exact Or.inl (h.lt_of_layoutSound hs hslots)
  · rintro (hlt | hslots)
    · exact h.layoutSound hlt
    · exact h.layoutSound_of_noSlots hslots

end Sound

/-! ## Enough room -/

/-- The padded rows of a stream. -/
def StreamSpec.paddedBytes (s : StreamSpec) : ℕ :=
  match bytesPerPixelForFormat s.scfg.format with
  | .ok bpp => CameraServer.paddedBytes s.scfg bpp
  | .error _ => 0

/-- What a stream needs to be laid out: positive dimensions, and a format that is supported. -/
structure StreamSpec.Valid (s : StreamSpec) : Prop where
  width : 0 < s.scfg.width
  height : 0 < s.scfg.height
  isInt : IsInt s.scfg.width ∧ IsInt s.scfg.height
  format : ∃ bpp, bytesPerPixelForFormat s.scfg.format = .ok bpp

/-- The slots of the streams, as an exact number. -/
def slotsBytes (ringSlots : UInt32) (specs : List StreamSpec) : ℕ :=
  (specs.map fun s => ringSlots.toNat * (s.paddedBytes + 128)).sum

/-- **Room for all slots**: no cursor wraps, and every stream's slots end in it. -/
theorem placeStreams_of_room {ringSlots : UInt32} {bound : ℕ} (hbound : bound < 2 ^ 64) {specs : List StreamSpec}
    (hvalid : ∀ s ∈ specs, s.Valid) (cursor : UInt64) (hroom : cursor.toNat + slotsBytes ringSlots specs ≤ bound) :
    ∃ ds, placeStreams ringSlots cursor specs = .ok ds ∧
      (∀ d ∈ ds, d.slotCount = ringSlots ∧ 72 ≤ d.slotBytes.toNat ∧ d.slots.stop ≤ bound) ∧
      (ds.foldl (fun c d => c + d.span) cursor).toNat = cursor.toNat + slotsBytes ringSlots specs := by
  induction specs generalizing cursor with
  | nil => exact ⟨[], rfl, by simp, rfl⟩
  | cons s specs ih =>
    have hs := hvalid s List.mem_cons_self
    obtain ⟨bpp, hbpp⟩ := hs.format
    obtain ⟨d, hdesc, hd⟩ := exists_describe ringSlots cursor hbpp
    have hpad : s.paddedBytes = CameraServer.paddedBytes s.scfg bpp := by
      rw [StreamSpec.paddedBytes, hbpp]
    have hbytes : d.slotBytes.toNat = s.paddedBytes + 128 := by
      rw [hd.slotBytes, hpad]
      exact slotBytes_toNat hs.isInt.1 hs.isInt.2 (bytesPerPixel_le hbpp) hs.width.le hs.height.le
    have hsum : slotsBytes ringSlots (s :: specs) =
        ringSlots.toNat * (s.paddedBytes + 128) + slotsBytes ringSlots specs := by
      simp [slotsBytes]
    have hstop : d.slots.stop = cursor.toNat + ringSlots.toNat * (s.paddedBytes + 128) := by
      rw [StreamRingHeader.slots, ByteRange.stop, hd.slotsOffset, hd.slotCount, hbytes, Nat.mul_comm]
    have hnext : (cursor + d.span).toNat = d.slots.stop := by
      rw [← hd.slotsOffset]
      exact span_toNat (by omega)
    obtain ⟨ds, hds, hall, hlast⟩ := ih (fun s' hs' => hvalid s' (List.mem_cons_of_mem s hs'))
      (cursor + d.span) (by omega)
    refine ⟨d :: ds, placeStreams_cons.mpr ⟨d, ds, hdesc, hds, rfl⟩, ?_, ?_⟩
    · intro d' hd'
      rcases List.mem_cons.mp hd' with heq | hd'
      · rw [heq]
        exact ⟨hd.slotCount, by omega, by omega⟩
      · exact hall d' hd'
    · rw [List.foldl_cons, hlast]
      omega

/-- **`create` returns** when there is room for the streams, and they are counted right or as none. -/
theorem created_of_room (cfg : AppConfig) (nowNs : UInt64) (hvalid : ∀ s ∈ streamSpecs cfg.cameras, s.Valid)
    (hslots : 0 < cfg.sharedMemory.ringSlots.toNat) (hcount : (streamCount cfg.cameras).toNat ≤ 16)
    (hstreams : (streamSpecs cfg.cameras).length < 2 ^ 32 ∨ (streamCount cfg.cameras).toNat = 0)
    (hfits : 64 + 104 * min (streamSpecs cfg.cameras).length (2 ^ 32) ≤ cfg.sizeBytes.toNat)
    (hroom : (firstCursor (streamCount cfg.cameras)).toNat +
      slotsBytes cfg.sharedMemory.ringSlots (streamSpecs cfg.cameras) ≤ cfg.sizeBytes.toNat) :
    ∃ ds shm, Created cfg nowNs ds shm := by
  have hsize := cfg.sizeBytes.toNat_lt
  obtain ⟨ds, hds, hall, hlast⟩ := placeStreams_of_room hsize hvalid _ hroom
  have hlen := length_placeStreams hds
  have hne : cfg.sizeBytes ≠ 0 := by
    rw [ne_eq, ← UInt64.toNat_inj, UInt64.toNat_zero]
    omega
  have hidx : (0 : UInt32).toNat = 0 := rfl
  have hcountle : (streamCount cfg.cameras).toNat ≤ (streamSpecs cfg.cameras).length := by
    rw [streamCount_toNat]
    exact Nat.mod_le _ _
  have hheader : (cfg.segment nowNs (cfg.table ds).desc).HeaderOk := by
    have htotal : (cfg.segment nowNs (cfg.table ds).desc).header.totalSizeBytes = cfg.sizeBytes := rfl
    have hsz : (cfg.segment nowNs (cfg.table ds).desc).sizeBytes = cfg.sizeBytes := rfl
    have hoff : (cfg.segment nowNs (cfg.table ds).desc).header.descriptorsOffset.toNat = 64 := rfl
    refine ⟨rfl, rfl, ?_, hcount, ?_, ?_, ?_⟩
    · rw [hsz]
      omega
    · rw [htotal]
      omega
    · rw [htotal, hsz]
    · rw [hoff, htotal]
      change 64 + (streamCount cfg.cameras).toNat * 104 ≤ _
      omega
  have hrings : ∀ i < (streamCount cfg.cameras).toNat,
      (cfg.segment nowNs (cfg.table ds).desc).header.RingOk ((cfg.table ds).desc i) := by
    intro i hi
    have hlt : (streamSpecs cfg.cameras).length < 2 ^ 32 := by omega
    have hi' : i < ds.length := by omega
    have hdesc : (cfg.table ds).desc i = ds[i] := by
      rw [AppConfig.table, RingTable.write_desc (by rw [hidx]; omega), hidx, Nat.zero_add,
        if_pos ⟨by omega, hi'⟩, Nat.sub_zero, List.getD_eq_getElem _ _ hi']
    obtain ⟨h1, h2, h3⟩ := hall ds[i] (List.getElem_mem hi')
    rw [hdesc]
    refine ⟨?_, h2, ?_⟩
    · rw [h1]
      exact hslots
    · rw [Nat.mul_comm]
      exact h3
  refine ⟨ds, ⟨cfg.sharedMemory.name, cfg.segment nowNs (cfg.table ds).desc, _⟩,
    ⟨hne, hcount, hds, fun _ => hfits, ?_, ShmSegment.loadDescriptors_eq_ok.mpr ⟨hheader, hrings, rfl⟩, rfl⟩⟩
  rw [AppConfig.table, RingTable.write_cursor, hlast]
  exact hroom

/-! ## Validated configurations -/

theorem validateStreams_ok {cam : CameraConfig} {streams : List (String × CameraStreamConfig)}
    (h : validateStreams cam streams = .ok ()) :
    ∀ s ∈ streams, 0 < s.2.width ∧ 0 < s.2.height ∧ ∃ bpp, bytesPerPixelForFormat s.2.format = .ok bpp := by
  induction streams with
  | nil => simp
  | cons x streams ih =>
    obtain ⟨name, scfg⟩ := x
    rw [validateStreams] at h
    split at h
    · cases h
    next hdims =>
      split at h
      · cases h
      · split at h
        · cases h
        next bpp hbpp =>
          intro s hs
          rcases List.mem_cons.mp hs with rfl | hs
          · exact ⟨by dsimp only; omega, by dsimp only; omega, bpp, hbpp⟩
          · exact ih h s hs

theorem validateCameras_ok {simulateCameras : Bool} {cams : List CameraConfig}
    (h : validateCameras simulateCameras cams = .ok ()) :
    ∀ cam ∈ cams, validateStreams cam (enabledStreams cam) = .ok () := by
  induction cams with
  | nil => simp
  | cons cam cams ih =>
    rw [validateCameras] at h
    split_ifs at h
    split at h
    · cases h
    next hstreams =>
      intro cam' hcam'
      rcases List.mem_cons.mp hcam' with rfl | hcam'
      · exact hstreams
      · exact ih h cam' hcam'

/-- What a validated configuration promises its segment. -/
structure Validated (cfg : AppConfig) : Prop where
  ringSlots : 2 ≤ cfg.sharedMemory.ringSlots.toNat
  streams : ∀ s ∈ streamSpecs cfg.cameras, s.Valid
  size : ∃ required, requiredSharedMemoryBytes cfg = .ok required ∧ required.toNat ≤ cfg.sizeBytes.toNat

/-- A check that has not failed. -/
theorem of_check_ok {c : Prop} [Decidable c] {e : String} {x : Except String Unit}
    (h : (if c then .error e else x) = .ok ()) : ¬ c ∧ x = .ok () := by
  by_cases hc : c
  · rw [if_pos hc] at h
    cases h
  · rw [if_neg hc] at h
    exact ⟨hc, h⟩

theorem validateSettings_ok {cfg : AppConfig} (h : validateSettings cfg = .ok ()) :
    2 ≤ cfg.sharedMemory.ringSlots.toNat := by
  unfold validateSettings at h
  obtain ⟨-, h⟩ := of_check_ok h
  obtain ⟨-, h⟩ := of_check_ok h
  obtain ⟨-, h⟩ := of_check_ok h
  obtain ⟨hslots, -⟩ := of_check_ok h
  rw [UInt32.lt_iff_toNat_lt] at hslots
  exact Nat.not_lt.mp hslots

theorem validated_of_ok {cfg : AppConfig} (h : validateConfig cfg = .ok ()) : Validated cfg := by
  unfold validateConfig at h
  split at h
  · cases h
  next hsettings =>
    split at h
    · cases h
    next hcameras =>
      split at h
      · cases h
      · refine ⟨validateSettings_ok hsettings, ?_, ?_⟩
        · intro s hs
          have hint := isInt_of_mem hs
          rw [streamSpecs, List.mem_flatMap] at hs
          obtain ⟨cam, hcam, hs⟩ := hs
          obtain ⟨x, hx, rfl⟩ := List.mem_map.mp hs
          obtain ⟨hw, hh, hf⟩ := validateStreams_ok (validateCameras_ok hcameras cam hcam) x hx
          exact ⟨hw, hh, hint, hf⟩
        · unfold validateSize at h
          split at h
          · cases h
          next required hreq =>
            split at h
            · cases h
            next hlt =>
              rw [UInt64.lt_iff_toNat_lt, Nat.not_lt] at hlt
              exact ⟨required, hreq, hlt⟩

/-- The sum of `required_shared_memory_bytes` before it is rounded, as an exact number. -/
def exactRequired (cfg : AppConfig) : ℕ :=
  4096 + ((streamSpecs cfg.cameras).map fun s => cfg.sharedMemory.ringSlots.toNat * (256 + s.paddedBytes)).sum

/-- The two sizes that validation compares do not wrap. -/
structure ExactSizes (cfg : AppConfig) : Prop where
  size : cfg.sharedMemory.sizeMb.toNat * 2 ^ 20 < 2 ^ 64
  required : exactRequired cfg + 4095 < 2 ^ 64

theorem addRequired_exact (ringSlots : UInt32) {specs : List StreamSpec} (hvalid : ∀ s ∈ specs, s.Valid)
    (total : UInt64)
    (hlt : total.toNat + (specs.map fun s => ringSlots.toNat * (256 + s.paddedBytes)).sum < 2 ^ 64) :
    ∃ r, addRequired ringSlots total specs = .ok r ∧
      r.toNat = total.toNat + (specs.map fun s => ringSlots.toNat * (256 + s.paddedBytes)).sum := by
  induction specs generalizing total with
  | nil => exact ⟨total, rfl, rfl⟩
  | cons s specs ih =>
    have hs := hvalid s List.mem_cons_self
    obtain ⟨bpp, hbpp⟩ := hs.format
    have hpad : s.paddedBytes = CameraServer.paddedBytes s.scfg bpp := by
      rw [StreamSpec.paddedBytes, hbpp]
    rw [List.map_cons, List.sum_cons] at hlt ⊢
    have hbytes : (alignedBytes s.scfg bpp).toNat = s.paddedBytes := by
      have := paddedBytes_lt hs.isInt.1 hs.isInt.2 (bytesPerPixel_le hbpp)
      rw [alignedBytes_eq, ← paddedBytes_cast bpp hs.width.le hs.height.le, toNat_ofInt, hpad]
      omega
    have hpadlt := paddedBytes_lt hs.isInt.1 hs.isInt.2 (bytesPerPixel_le hbpp)
    rw [← hpad] at hpadlt
    have hterm : (ringSlots.toUInt64 * (256 + alignedBytes s.scfg bpp)).toNat =
        ringSlots.toNat * (256 + s.paddedBytes) := by
      have h256 : (256 : UInt64).toNat = 256 := rfl
      rw [UInt64.toNat_mul, UInt32.toNat_toUInt64, UInt64.toNat_add, hbytes, h256,
        Nat.mod_eq_of_lt (a := 256 + s.paddedBytes) (by omega), Nat.mod_eq_of_lt (by omega)]
    have hnext : (total + ringSlots.toUInt64 * (256 + alignedBytes s.scfg bpp)).toNat =
        total.toNat + ringSlots.toNat * (256 + s.paddedBytes) := by
      rw [UInt64.toNat_add, hterm, Nat.mod_eq_of_lt (by omega)]
    obtain ⟨r, hr, hsum⟩ := ih (fun s' hs' => hvalid s' (List.mem_cons_of_mem s hs'))
      (total + ringSlots.toUInt64 * (256 + alignedBytes s.scfg bpp)) (by omega)
    refine ⟨r, ?_, by omega⟩
    rw [addRequired, alignedPayloadBytes, hbpp]
    exact hr

theorem required_exact {cfg : AppConfig} (hvalid : ∀ s ∈ streamSpecs cfg.cameras, s.Valid) (h : ExactSizes cfg)
    {required : UInt64} (hreq : requiredSharedMemoryBytes cfg = .ok required) :
    exactRequired cfg ≤ required.toNat := by
  have hlt := h.required
  rw [exactRequired] at hlt ⊢
  have h4096 : (4096 : UInt64).toNat = 4096 := rfl
  have h4095 : (4095 : UInt64).toNat = 4095 := rfl
  obtain ⟨r, hr, hsum⟩ := addRequired_exact cfg.sharedMemory.ringSlots hvalid
    4096 (by rw [h4096]; omega)
  rw [requiredSharedMemoryBytes, hr] at hreq
  cases hreq
  rw [UInt64.toNat_mul, UInt64.toNat_div, UInt64.toNat_add, hsum, h4096, h4095]
  omega

/-- The slots take less than validation estimates, by more than the header and 16 descriptors take. -/
theorem slotsBytes_le (ringSlots : UInt32) (specs : List StreamSpec) :
    slotsBytes ringSlots specs ≤ (specs.map fun s => ringSlots.toNat * (256 + s.paddedBytes)).sum := by
  induction specs with
  | nil => exact le_rfl
  | cons s specs ih =>
    rw [slotsBytes, List.map_cons, List.sum_cons, List.map_cons, List.sum_cons]
    have hs : ringSlots.toNat * (s.paddedBytes + 128) ≤ ringSlots.toNat * (256 + s.paddedBytes) :=
      Nat.mul_le_mul_left _ (by omega)
    exact Nat.add_le_add hs ih

/-- **A validated configuration fits**, with at most 16 streams and exact sizes. -/
theorem created_of_validated {cfg : AppConfig} (nowNs : UInt64) (hok : validateConfig cfg = .ok ())
    (hstreams : (streamSpecs cfg.cameras).length ≤ 16) (hexact : ExactSizes cfg) :
    ∃ ds shm, Created cfg nowNs ds shm := by
  have hv := validated_of_ok hok
  obtain ⟨required, hreq, hsize⟩ := hv.size
  have hrequired := required_exact hv.streams hexact hreq
  have hslots := slotsBytes_le cfg.sharedMemory.ringSlots (streamSpecs cfg.cameras)
  have hringSlots := hv.ringSlots
  have hcount : (streamCount cfg.cameras).toNat ≤ 16 := by
    rw [streamCount_toNat]
    exact (Nat.mod_le _ _).trans hstreams
  have hcursor := firstCursor_toNat hcount
  rw [exactRequired] at hrequired
  exact created_of_room cfg nowNs hv.streams (by omega) hcount (by omega) (by omega) (by omega)

/-! ## The result -/

/-- **The layout of a segment.**  When `create` returns, the layout is sound if and only if there are fewer than
`2^32` enabled streams or no slots at all; the descriptors in the segment are then the ones written.  A validated
configuration of at most 16 streams whose sizes do not wrap is never refused. -/
theorem create_layout (cfg : AppConfig) (nowNs : UInt64) :
    (∀ shm : SharedMemoryRingBuffer, create cfg nowNs = .ok shm →
      ∃ ds, placeStreams cfg.sharedMemory.ringSlots (firstCursor (streamCount cfg.cameras))
          (streamSpecs cfg.cameras) = .ok ds ∧
        (ds.length < 2 ^ 32 → ∀ i < ds.length, shm.seg.desc i = ds.getD i zeroDesc) ∧
        (LayoutSound cfg ds ↔
          (streamSpecs cfg.cameras).length < 2 ^ 32 ∨ cfg.sharedMemory.ringSlots = 0)) ∧
    (validateConfig cfg = .ok () → (streamSpecs cfg.cameras).length ≤ 16 → ExactSizes cfg →
      ∃ shm, create cfg nowNs = .ok shm) := by
  constructor
  · intro shm h
    obtain ⟨ds, hc⟩ := create_eq_ok.mp h
    exact ⟨ds, hc.placed, fun hlt i hi => hc.desc_eq hlt hi, hc.layoutSound_iff⟩
  · intro hok hstreams hexact
    obtain ⟨ds, shm, hc⟩ := created_of_validated nowNs hok hstreams hexact
    exact ⟨shm, create_eq_ok.mpr ⟨ds, hc⟩⟩

/-- `n` cameras of the same name with all four streams, of one pixel each, in 2 TiB. -/
def replicaConfig (n : ℕ) : AppConfig where
  server := ⟨"camera_server", true⟩
  sharedMemory := ⟨"/frames", 2 ^ 21, 2⟩
  metadata := ⟨"tcp://127.0.0.1:5600", "camera.bundle"⟩
  sync := ⟨"software", "head", "nearest_timestamp", .fin 10, false⟩
  bundleGroups := []
  cameras := List.replicate n
    { name := "head", backend := "realsense", serial := "MOCK_HEAD", device := "", required := true
      color := ⟨true, 1, 1, 30, "y8"⟩, depth := ⟨true, 1, 1, 30, "y8"⟩
      irLeft := ⟨true, 1, 1, 30, "y8"⟩, irRight := ⟨true, 1, 1, 30, "y8"⟩ }
  health := ⟨.fin 1, .fin 5, .fin 29⟩
  reconnect := ⟨false, 1000, 2000⟩
  dims_isInt := by
    intro cam hcam s hs
    rw [List.eq_of_mem_replicate hcam] at hs
    simp only [enabledStreams, List.filter_cons_of_pos, List.filter_nil, List.mem_cons, List.not_mem_nil,
      or_false] at hs
    rcases hs with rfl | rfl | rfl | rfl <;> exact ⟨⟨by norm_num, by norm_num⟩, by norm_num, by norm_num⟩

/-- The four streams of a camera of `replicaConfig`. -/
def replicaStreams : List StreamSpec :=
  ["color", "depth", "ir_left", "ir_right"].map fun stream => ⟨"head", stream, ⟨true, 1, 1, 30, "y8"⟩⟩

theorem streamSpecs_replica (n : ℕ) :
    streamSpecs (replicaConfig n).cameras = (List.replicate n replicaStreams).flatten := by
  rw [streamSpecs, replicaConfig, List.flatMap_def, List.map_replicate]
  rfl

theorem length_replica (n : ℕ) : (streamSpecs (replicaConfig n).cameras).length = n * 4 := by
  rw [streamSpecs_replica, List.length_flatten, List.map_replicate, List.sum_replicate, nsmul_eq_mul, Nat.cast_id]
  rfl

theorem slotsBytes_replica (n : ℕ) : slotsBytes 2 (streamSpecs (replicaConfig n).cameras) = n * 1536 := by
  have hfour : (replicaStreams.map fun s => (2 : UInt32).toNat * (s.paddedBytes + 128)).sum = 1536 := by decide
  rw [slotsBytes, streamSpecs_replica, List.map_flatten, List.sum_flatten, List.map_map, List.map_replicate,
    List.sum_replicate, nsmul_eq_mul, Nat.cast_id, Function.comp_apply, hfour]

theorem replica_valid {n : ℕ} {s : StreamSpec} (hs : s ∈ streamSpecs (replicaConfig n).cameras) : s.Valid := by
  have hint := isInt_of_mem hs
  rw [streamSpecs_replica, List.mem_flatten] at hs
  obtain ⟨l, hl, hs⟩ := hs
  rw [List.eq_of_mem_replicate hl, replicaStreams, List.mem_map] at hs
  obtain ⟨stream, -, rfl⟩ := hs
  have hformat : bytesPerPixelForFormat "y8" = .ok 1 := by decide
  exact ⟨Int.one_pos, Int.one_pos, hint, 1, hformat⟩

theorem sizeBytes_replica (n : ℕ) : (replicaConfig n).sizeBytes.toNat = 2 ^ 41 := by
  have h : (replicaConfig n).sizeBytes = 2 ^ 21 * 1024 * 1024 := rfl
  rw [h]
  decide

/-- A configuration of one camera is validated, `create` returns, and the layout is sound. -/
theorem create_layout_oneCamera :
    ∃ shm ds, create (replicaConfig 1) 0 = .ok shm ∧ ds.length = 4 ∧ LayoutSound (replicaConfig 1) ds := by
  have hlen := length_replica 1
  have hexact : ExactSizes (replicaConfig 1) := ⟨by decide, by decide +kernel⟩
  obtain ⟨shm, hshm⟩ := (create_layout (replicaConfig 1) 0).2 (by decide +kernel) (by omega) hexact
  obtain ⟨ds, hds, -, hsound⟩ := (create_layout (replicaConfig 1) 0).1 shm hshm
  refine ⟨shm, ds, hshm, ?_, hsound.mpr (Or.inl (by omega))⟩
  rw [length_placeStreams hds, hlen]

/-- **`2^30` cameras**: their `2^32` streams are counted as none, and the slots of the first one are laid over the
descriptors. -/
theorem create_overlaps :
    ∃ shm ds, create (replicaConfig (2 ^ 30)) 0 = .ok shm ∧ placeStreams 2 (firstCursor 0)
      (streamSpecs (replicaConfig (2 ^ 30)).cameras) = .ok ds ∧ ¬ LayoutSound (replicaConfig (2 ^ 30)) ds := by
  have hlen := length_replica (2 ^ 30)
  have hsize := sizeBytes_replica (2 ^ 30)
  have hbytes := slotsBytes_replica (2 ^ 30)
  have hslots : (replicaConfig (2 ^ 30)).sharedMemory.ringSlots = 2 := rfl
  have hcount : streamCount (replicaConfig (2 ^ 30)).cameras = 0 := by
    rw [← UInt32.toNat_inj, streamCount_toNat, hlen]
    rfl
  have hcursor : (firstCursor 0).toNat = 64 := rfl
  have hzero : (0 : UInt32).toNat = 0 := rfl
  obtain ⟨ds, shm, h⟩ := created_of_room (replicaConfig (2 ^ 30)) 0
    (fun s hs => replica_valid hs) (by rw [hslots]; decide) (by rw [hcount, hzero]; omega)
    (Or.inr (by rw [hcount, hzero])) (by omega) (by rw [hslots, hcount, hcursor, hbytes]; omega)
  have hplaced := h.placed
  rw [hcount, hslots] at hplaced
  refine ⟨shm, ds, create_eq_ok.mpr ⟨ds, h⟩, hplaced, ?_⟩
  intro hsound
  have hlt := h.lt_of_layoutSound hsound (by rw [hslots]; decide)
  rw [h.length, hlen] at hlt
  omega

end CameraServer
