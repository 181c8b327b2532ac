import RoboticsLab.Camera.ShmLayout
import RoboticsLab.Camera.ShmWrite
import Mathlib.Data.Fintype.Card
import Mathlib.Tactic.Ring

/-!
# Every configured stream and its ring

`create` writes the names of a stream into fields of 32 and 16 bytes, and `load_descriptors` makes the keys of the rings
from what it reads there; `write_frame` looks a ring up by the names of the configuration.  The two agree when the
names of the cameras fit and are told apart by their streams; then every stream has a ring of its own, and after any
calls a frame of its size is written into one of its slots.

    validateConfig cfg = .ok () → create cfg now = .ok shm →
      (OwnRings cfg shm ↔ StreamsNamed (streamSpecs cfg.cameras))                       (ownRings_iff)
-/

namespace CameraServer

open Layout SharedMemory

/-! ## The property and the condition -/

/-- What is behind the header of a slot. -/
def StreamRingHeader.payload (d : StreamRingHeader) (k : ℕ) : ByteRange :=
  ⟨(d.slot k).start + 72, (d.slot k).len - 72⟩

/-- A frame for a stream: of its names, and of `width * height * bytes_per_pixel` bytes. -/
structure FrameFor (s : StreamSpec) (a : WriteArgs) : Prop where
  cameraName : a.cameraName = s.camera
  streamName : a.streamName = s.stream
  size : ∀ bpp, bytesPerPixelForFormat s.scfg.format = .ok bpp →
    (a.bytes.length : ℤ) = s.scfg.width * s.scfg.height * bpp

/-- **Every stream has a ring of its own**: the rings are those of the streams, under their keys, streams have
different descriptors, and after any calls a frame for stream `i` is written into a slot of descriptor `i`. -/
structure OwnRings (cfg : AppConfig) (shm : SharedMemoryRingBuffer) : Prop where
  own : ∀ s ∈ streamSpecs cfg.cameras, ∃ ring, shm.rings s.key = some ring
  only : ∀ key ring, shm.rings key = some ring → ∃ s ∈ streamSpecs cfg.cameras, key = s.key
  distinct : ∀ (i j : ℕ) (s t : StreamSpec),
    (streamSpecs cfg.cameras)[i]? = some s → (streamSpecs cfg.cameras)[j]? = some t → i ≠ j →
    ∀ r r', shm.rings s.key = some r → shm.rings t.key = some r' → r.desc ≠ r'.desc
  writable : ∀ (i : ℕ) (s : StreamSpec), (streamSpecs cfg.cameras)[i]? = some s →
    ∀ (calls : List WriteArgs) (a : WriteArgs), FrameFor s a → ∃ m k, ((shm.writer.run calls).writeFrame a).2 = .ok m ∧
      k < (shm.seg.desc i).slotCount.toNat ∧ m.sizeBytes = a.bytes.length ∧
      (⟨m.shmOffset.toNat, m.sizeBytes⟩ : ByteRange).Within ((shm.seg.desc i).payload k)

/-- The names of the cameras fit into their field, no stream of a camera is there twice, and the streams can be
counted. -/
structure StreamsNamed (specs : List StreamSpec) : Prop where
  fits : ∀ s ∈ specs, Fits 31 s.camera
  nodup : (specs.map fun s => (s.camera, s.stream)).Nodup
  count : specs.length < 2 ^ 32

/-! ## Keys -/

theorem stream_mem {cameras : List CameraConfig} {s : StreamSpec} (h : s ∈ streamSpecs cameras) :
    s.stream ∈ ["color", "depth", "ir_left", "ir_right"] := by
  rw [streamSpecs, List.mem_flatMap] at h
  obtain ⟨cam, -, h⟩ := h
  obtain ⟨x, hx, rfl⟩ := List.mem_map.mp h
  have hx := List.mem_of_mem_filter hx
  simp only [List.mem_cons, List.not_mem_nil, or_false] at hx ⊢
  rcases hx with rfl | rfl | rfl | rfl <;> simp

/-- The names of streams fit into their field and have no dot. -/
theorem stream_ok {cameras : List CameraConfig} {s : StreamSpec} (h : s ∈ streamSpecs cameras) :
    Fits 15 s.stream ∧ '.' ∉ s.stream.toList := by
  have hall : ∀ stream ∈ ["color", "depth", "ir_left", "ir_right"], Fits 15 stream ∧ '.' ∉ stream.toList := by
    decide
  exact hall _ (stream_mem h)

theorem key_inj {cameras : List CameraConfig} {s t : StreamSpec} (hs : s ∈ streamSpecs cameras)
    (ht : t ∈ streamSpecs cameras) : s.key = t.key ↔ s.camera = t.camera ∧ s.stream = t.stream :=
  streamKey_inj (stream_ok hs).2 (stream_ok ht).2

/-- The key of a descriptor: the camera's name as it is read back. -/
theorem Described.key {ringSlots : UInt32} {c : UInt64} {s : StreamSpec} {bpp : ℕ} {d : StreamRingHeader}
    (h : Described ringSlots c s bpp d) (hs : Fits 15 s.stream) :
    d.key = streamKey (readCstr (writeCstr 32 s.camera)) s.stream := by
  rw [StreamRingHeader.key, h.cameraName, h.streamName, readCstr_writeCstr_eq_iff.mpr hs]

namespace ShmSegment

variable {seg : ShmSegment}

theorem ringsOf_of_forall_ne {l : List ℕ} {rings : Rings} {key : String} (h : ∀ i ∈ l, key ≠ (seg.desc i).key) :
    seg.ringsOf rings l key = rings key := by
  induction l generalizing rings with
  | nil => rfl
  | cons i l ih =>
    have hstep : seg.ringsOf rings (i :: l) key =
        seg.ringsOf (Function.update rings (seg.desc i).key (some ⟨i, 0⟩)) l key := rfl
    rw [hstep, ih fun j hj => h j (List.mem_cons_of_mem i hj)]
    exact Function.update_of_ne (h i List.mem_cons_self) _ _

/-- A descriptor whose key no other one has: its ring is under it. -/
theorem ringsOf_key {l : List ℕ} {rings : Rings} {i : ℕ} (hi : i ∈ l)
    (huniq : ∀ j ∈ l, (seg.desc i).key = (seg.desc j).key → j = i) :
    seg.ringsOf rings l (seg.desc i).key = some ⟨i, 0⟩ := by
  induction l generalizing rings with
  | nil => cases hi
  | cons j l ih =>
    by_cases hmem : i ∈ l
    · exact ih hmem fun k hk => huniq k (List.mem_cons_of_mem j hk)
    · obtain rfl : i = j := by
        rcases List.mem_cons.mp hi with h | h
        · exact h
        · exact absurd h hmem
      have hstep : seg.ringsOf rings (i :: l) (seg.desc i).key =
          seg.ringsOf (Function.update rings (seg.desc i).key (some ⟨i, 0⟩)) l (seg.desc i).key := rfl
      rw [hstep, ringsOf_of_forall_ne, Function.update_self]
      intro k hk hkey
      exact hmem (huniq k (List.mem_cons_of_mem i hk) hkey ▸ hk)

end ShmSegment

/-! ## Writing -/

section Write

variable {w w0 : ShmWriter}

/-- The segment and the rings' descriptors are those of `w0`; the counters and the slots are not looked at. -/
structure SameRings (w0 w : ShmWriter) : Prop where
  seg : w.shm.seg = w0.shm.seg
  rings : ∀ key, (w.shm.rings key).map RingInfo.desc = (w0.shm.rings key).map RingInfo.desc

theorem SameRings.countUp (h : SameRings w0 w) {key : String} {ring : RingInfo} (hr : w.shm.rings key = some ring) :
    SameRings w0 (w.countUp key ring) := by
  refine ⟨h.seg, ?_⟩
  intro key'
  rw [← h.rings]
  by_cases hk : key' = key
  · simp only [ShmWriter.countUp, hk, Function.update_self, hr, Option.map_some]
  · simp only [ShmWriter.countUp, Function.update_of_ne hk]

/-- One call keeps the rings. -/
theorem SameRings.writeFrame (h : SameRings w0 w) (a : WriteArgs) : SameRings w0 (w.writeFrame a).1 := by
  unfold ShmWriter.writeFrame
  split
  · exact h
  next ring hr =>
    have hup := h.countUp hr
    dsimp only
    split
    · exact hup
    · split
      · exact hup
      · split
        · exact hup
        · exact ⟨hup.seg, hup.rings⟩

/-- Any calls keep the rings. -/
theorem SameRings.run (h : SameRings w0 w) (calls : List WriteArgs) : SameRings w0 (w.run calls) := by
  induction calls generalizing w with
  | nil => exact h
  | cons a calls ih => exact ih (h.writeFrame a)

/-- **A frame that fits is written** into a slot of its ring. -/
theorem writeFrame_ok {a : WriteArgs} {ring : RingInfo} {d : StreamRingHeader} (hr : w.shm.rings a.key = some ring)
    (hd : w.shm.seg.desc ring.desc = d) (hring : w.shm.seg.header.RingOk d)
    (htotal : w.shm.seg.header.totalSizeBytes.toNat ≤ w.shm.seg.sizeBytes.toNat)
    (hsize : 72 + a.bytes.length ≤ d.slotBytes.toNat) :
    ∃ m k, (w.writeFrame a).2 = .ok m ∧ k < d.slotCount.toNat ∧ m.sizeBytes = a.bytes.length ∧
      (⟨m.shmOffset.toNat, m.sizeBytes⟩ : ByteRange).Within (d.payload k) := by
  have hk : (ring.nextSlot % d.slotCount).toNat < d.slotCount.toNat := by
    rw [UInt32.toNat_mod]
    exact Nat.mod_lt _ hring.slots
  obtain ⟨hmul, hadd, hp, hend⟩ := hring.slot hk
  have hslot := hring.slotHeader
  have htotal64 := w.shm.seg.header.totalSizeBytes.toNat_lt
  have hindex : ¬ d.slotCount ≤ ring.nextSlot % d.slotCount := by
    rw [UInt32.le_iff_toNat_le]
    omega
  have hpointer : w.shm.seg.slotPointer d (ring.nextSlot % d.slotCount) =
      .ok (d.slotsOffset + d.slotBytes * (ring.nextSlot % d.slotCount).toUInt64) := by
    rw [ShmSegment.slotPointer, if_neg hindex, hmul]
    simp only [hadd]
    refine ShmSegment.ptrRangeAt_eq_ok.mpr ⟨rfl, ?_⟩
    rw [hp, sizeofFrameSlotHeader_toNat]
    omega
  have hheader : ¬ d.slotBytes < sizeofFrameSlotHeader := by
    rw [UInt64.lt_iff_toNat_lt, sizeofFrameSlotHeader_toNat]
    omega
  have hcapacity : d.payloadCapacity = .ok (d.slotBytes - sizeofFrameSlotHeader) := if_neg hheader
  have hroom : ¬ (d.slotBytes - sizeofFrameSlotHeader).toNat < a.bytes.length := by
    rw [UInt64.toNat_sub_of_le _ _ (UInt64.not_lt.mp hheader), sizeofFrameSlotHeader_toNat]
    omega
  have hoffset : (d.slotsOffset + d.slotBytes * (ring.nextSlot % d.slotCount).toUInt64 +
      sizeofFrameSlotHeader).toNat =
      d.slotsOffset.toNat + d.slotBytes.toNat * (ring.nextSlot % d.slotCount).toNat + 72 := by
    rw [UInt64.toNat_add, hp, sizeofFrameSlotHeader_toNat, Nat.mod_eq_of_lt (by omega)]
  refine ⟨w.writtenMeta d (ring.nextSlot % d.slotCount)
    (w.slots ring.desc (ring.nextSlot % d.slotCount).toNat) a, _, ?_, hk, rfl, ?_⟩
  · rw [ShmWriter.writeFrame, hr]
    simp only [hd, hpointer, hcapacity, if_neg hroom]
  · simp only [ShmWriter.writtenMeta, hoffset, StreamRingHeader.payload, StreamRingHeader.slot, ByteRange.cell,
      ByteRange.Within, ByteRange.stop]
    omega

end Write

/-- A frame of the size of its stream fits into the padded rows. -/
theorem frame_le_padded {scfg : CameraStreamConfig} {bpp n : ℕ} (hw : 0 < scfg.width) (hh : 0 < scfg.height)
    (hn : (n : ℤ) = scfg.width * scfg.height * bpp) : n ≤ paddedBytes scfg bpp := by
  have hcast := paddedBytes_cast bpp hw.le hh.le
  have hrow : scfg.width * bpp ≤ 64 * ((scfg.width * bpp + 63) / 64) := by omega
  have hrows := mul_le_mul_of_nonneg_right hrow hh.le
  have heq : (n : ℤ) = scfg.width * bpp * scfg.height := by
    rw [hn]
    ring
  omega

/-! ## The result -/

section Rings

variable {cfg : AppConfig} {nowNs : UInt64} {ds : List StreamRingHeader} {shm : SharedMemoryRingBuffer}

theorem Created.seg_loaded (h : Created cfg nowNs ds shm) : shm.seg.loadDescriptors = .ok shm.rings := by
  have hseg : shm.seg = cfg.segment nowNs (cfg.table ds).desc := by rw [h.shm_eq]
  rw [hseg]
  exact h.loaded

theorem Created.seg_count (h : Created cfg nowNs ds shm) :
    shm.seg.header.streamCount = streamCount cfg.cameras := by
  rw [h.shm_eq]
  rfl

/-- Fewer than `2^32` streams are counted right, and descriptor `i` is that of stream `i`. -/
theorem Created.desc_of_spec (h : Created cfg nowNs ds shm) (hlt : (streamSpecs cfg.cameras).length < 2 ^ 32) {i : ℕ}
    {s : StreamSpec} (hs : (streamSpecs cfg.cameras)[i]? = some s) :
    i < shm.seg.header.streamCount.toNat ∧
      ∃ c bpp, Described cfg.sharedMemory.ringSlots c s bpp (shm.seg.desc i) := by
  have hlen := h.length
  have hi : i < ds.length := by
    rw [hlen]
    exact (List.getElem?_eq_some_iff.mp hs).1
  obtain ⟨s', -, hs', c, bpp, hd, -⟩ := h.described hi
  rw [hs] at hs'
  cases hs'
  refine ⟨?_, c, bpp, ?_⟩
  · rw [h.seg_count, h.count_eq (by omega)]
    exact hi
  · rw [h.desc_eq (by omega) hi]
    exact hd

/-- The stream of a descriptor that was loaded. -/
theorem Created.spec_of_desc (h : Created cfg nowNs ds shm) {i : ℕ} (hi : i < shm.seg.header.streamCount.toNat) :
    ∃ s, (streamSpecs cfg.cameras)[i]? = some s := by
  rw [h.seg_count, streamCount_toNat] at hi
  exact ⟨_, List.getElem?_eq_getElem (hi.trans_le (Nat.mod_le _ _))⟩

/-- The key under which the ring of stream `i` is found. -/
theorem Created.key_of_spec (h : Created cfg nowNs ds shm) (hlt : (streamSpecs cfg.cameras).length < 2 ^ 32) {i : ℕ}
    {s : StreamSpec} (hs : (streamSpecs cfg.cameras)[i]? = some s) :
    (shm.seg.desc i).key = streamKey (readCstr (writeCstr 32 s.camera)) s.stream := by
  obtain ⟨-, c, bpp, hd⟩ := h.desc_of_spec hlt hs
  exact hd.key (stream_ok (List.mem_of_getElem? hs)).1

/-- **The ring of stream `i`** is that of descriptor `i`. -/
theorem Created.ring_of_spec (h : Created cfg nowNs ds shm) (hn : StreamsNamed (streamSpecs cfg.cameras)) {i : ℕ}
    {s : StreamSpec} (hs : (streamSpecs cfg.cameras)[i]? = some s) : shm.rings s.key = some ⟨i, 0⟩ := by
  obtain ⟨-, -, hrings⟩ := ShmSegment.loadDescriptors_eq_ok.mp h.seg_loaded
  have hmem := List.mem_of_getElem? hs
  have hi := (h.desc_of_spec hn.count hs).1
  have hkey : (shm.seg.desc i).key = s.key := by
    rw [h.key_of_spec hn.count hs, readCstr_writeCstr_eq_iff.mpr (hn.fits s hmem)]
    rfl
  rw [hrings, ← hkey]
  apply ShmSegment.ringsOf_key (List.mem_range.mpr hi)
  intro j hj hij
  obtain ⟨t, ht⟩ := h.spec_of_desc (List.mem_range.mp hj)
  have htmem := List.mem_of_getElem? ht
  rw [hkey, h.key_of_spec hn.count ht, readCstr_writeCstr_eq_iff.mpr (hn.fits t htmem)] at hij
  obtain ⟨hcamera, hstream⟩ := (key_inj hmem htmem).mp hij
  have hlen : j < ((streamSpecs cfg.cameras).map fun s => (s.camera, s.stream)).length := by
    rw [List.length_map]
    exact (List.getElem?_eq_some_iff.mp ht).1
  apply (List.getElem?_inj hlen hn.nodup).mp
  rw [List.getElem?_map, List.getElem?_map, ht, hs, Option.map_some, Option.map_some, hcamera, hstream]

/-- Names that fit and differ give every stream a ring of its own. -/
theorem Created.ownRings (h : Created cfg nowNs ds shm) (hv : Validated cfg)
    (hn : StreamsNamed (streamSpecs cfg.cameras)) : OwnRings cfg shm := by
  obtain ⟨hheader, hrings, -⟩ := ShmSegment.loadDescriptors_eq_ok.mp h.seg_loaded
  refine ⟨?_, ?_, ?_, ?_⟩
  · intro s hs
    obtain ⟨i, hi⟩ := List.mem_iff_getElem?.mp hs
    exact ⟨_, h.ring_of_spec hn hi⟩
  · intro key ring hr
    obtain ⟨hi, hkey⟩ := ShmSegment.ring_of_loaded h.seg_loaded hr
    obtain ⟨s, hs⟩ := h.spec_of_desc hi
    have hmem := List.mem_of_getElem? hs
    refine ⟨s, hmem, ?_⟩
    rw [hkey, h.key_of_spec hn.count hs, readCstr_writeCstr_eq_iff.mpr (hn.fits s hmem)]
    rfl
  · intro i j s t hs ht hij r r' hr hr'
    rw [h.ring_of_spec hn hs] at hr
    rw [h.ring_of_spec hn ht] at hr'
    cases hr
    cases hr'
    exact hij
  · intro i s hs calls a ha
    have hmem := List.mem_of_getElem? hs
    obtain ⟨hi, c, bpp, hd⟩ := h.desc_of_spec hn.count hs
    have hsame : SameRings shm.writer (shm.writer.run calls) := SameRings.run ⟨rfl, fun _ => rfl⟩ calls
    have hakey : a.key = s.key := by
      rw [WriteArgs.key, ha.cameraName, ha.streamName]
      rfl
    have hring := hsame.rings a.key
    rw [hakey] at hring
    have hwriter : shm.writer.shm.rings s.key = some ⟨i, 0⟩ := h.ring_of_spec hn hs
    rw [hwriter, Option.map_some, Option.map_eq_some_iff] at hring
    obtain ⟨ring, hr, hri⟩ := hring
    have hseg : (shm.writer.run calls).shm.seg = shm.seg := hsame.seg
    have hvalid := hv.streams s hmem
    have hframe := frame_le_padded hvalid.width hvalid.height (ha.size bpp hd.format)
    have hslot : (shm.seg.desc i).slotBytes.toNat = paddedBytes s.scfg bpp + 128 := by
      rw [hd.slotBytes]
      exact slotBytes_toNat hvalid.isInt.1 hvalid.isInt.2 (bytesPerPixel_le hd.format) hvalid.width.le
        hvalid.height.le
    rw [← hakey] at hr
    refine writeFrame_ok hr ?_ ?_ ?_ ?_
    · rw [hseg, hri]
    · rw [hseg]
      exact hrings i hi
    · rw [hseg]
      exact hheader.total_le
    · omega

/-- More streams than rings: two of them share a descriptor. -/
theorem Created.count_of_ownRings (h : Created cfg nowNs ds shm) (ho : OwnRings cfg shm) :
    (streamSpecs cfg.cameras).length < 2 ^ 32 := by
  by_contra hge
  have hspec : ∀ i : Fin 17, ∃ s, (streamSpecs cfg.cameras)[i.val]? = some s := by
    intro i
    have := i.isLt
    exact ⟨_, List.getElem?_eq_getElem (by omega)⟩
  choose s hs using hspec
  have hring : ∀ i : Fin 17, ∃ ring, shm.rings (s i).key = some ring :=
    fun i => ho.own (s i) (List.mem_of_getElem? (hs i))
  choose r hr using hring
  have hlt : ∀ i, (r i).desc < 16 := by
    intro i
    have h1 := (ShmSegment.ring_of_loaded h.seg_loaded (hr i)).1
    rw [h.seg_count] at h1
    exact h1.trans_le h.count
  have hinj : Function.Injective fun i : Fin 17 => (⟨(r i).desc, hlt i⟩ : Fin 16) := by
    intro i j hij
    by_contra hne
    have hval : i.val ≠ j.val := fun hv => hne (Fin.ext hv)
    exact ho.distinct i j (s i) (s j) (hs i) (hs j) hval (r i) (r j) (hr i) (hr j) (Fin.val_eq_of_eq hij)
  have := Fintype.card_le_of_injective _ hinj
  simp at this

/-- A stream that has a ring has a camera whose name fits. -/
theorem Created.fits_of_ring (h : Created cfg nowNs ds shm) (hlt : (streamSpecs cfg.cameras).length < 2 ^ 32)
    {s : StreamSpec} (hs : s ∈ streamSpecs cfg.cameras) {ring : RingInfo} (hr : shm.rings s.key = some ring) :
    Fits 31 s.camera := by
  obtain ⟨hi, hkey⟩ := ShmSegment.ring_of_loaded h.seg_loaded hr
  obtain ⟨t, ht⟩ := h.spec_of_desc hi
  rw [h.key_of_spec hlt ht, StreamSpec.key,
    streamKey_inj (stream_ok hs).2 (stream_ok (List.mem_of_getElem? ht)).2] at hkey
  rw [hkey.1]
  exact fits_readCstr t.camera

/-- Rings of their own need names that fit and differ. -/
theorem Created.streamsNamed (h : Created cfg nowNs ds shm) (ho : OwnRings cfg shm) :
    StreamsNamed (streamSpecs cfg.cameras) := by
  have hcount := h.count_of_ownRings ho
  refine ⟨?_, ?_, hcount⟩
  · intro s hs
    obtain ⟨ring, hr⟩ := ho.own s hs
    exact h.fits_of_ring hcount hs hr
  · rw [List.nodup_iff_getElem?_ne_getElem?]
    intro i j hij hj heq
    rw [List.length_map] at hj
    have hs := List.getElem?_eq_getElem (l := streamSpecs cfg.cameras) (hij.trans hj)
    have ht := List.getElem?_eq_getElem (l := streamSpecs cfg.cameras) hj
    rw [List.getElem?_map, List.getElem?_map, hs, ht, Option.map_some, Option.map_some, Option.some.injEq,
      Prod.mk.injEq] at heq
    obtain ⟨r, hr⟩ := ho.own _ (List.mem_of_getElem? hs)
    have hkey : ((streamSpecs cfg.cameras)[i]).key = ((streamSpecs cfg.cameras)[j]).key := by
      rw [StreamSpec.key, StreamSpec.key, heq.1, heq.2]
    exact ho.distinct i j _ _ hs ht hij.ne r r hr (hkey ▸ hr) rfl

end Rings

/-- **Every configured stream gets its own writable ring** if and only if the camera names of the enabled streams fit
into 31 bytes and have no NUL, no camera name is there twice with the same stream, and the streams can be counted. -/
theorem ownRings_iff {cfg : AppConfig} (hok : validateConfig cfg = .ok ()) {nowNs : UInt64}
    {shm : SharedMemoryRingBuffer} (h : create cfg nowNs = .ok shm) :
    OwnRings cfg shm ↔ StreamsNamed (streamSpecs cfg.cameras) := by
  obtain ⟨ds, hc⟩ := create_eq_ok.mp h
  constructor
  · intro ho
    exact hc.streamsNamed ho
  · intro hn
    exact hc.ownRings (validated_of_ok hok) hn

/-- One camera of this name with a color stream of one pixel. -/
def oneCamera (name : String) : AppConfig where
  server := ⟨"camera_server", true⟩
  sharedMemory := ⟨"/frames", 1, 2⟩
  metadata := ⟨"tcp://127.0.0.1:5600", "camera.bundle"⟩
  sync := ⟨"software", name, "nearest_timestamp", .fin 10, false⟩
  bundleGroups := []
  cameras :=
    [{ name := name, backend := "realsense", serial := "MOCK_HEAD", device := "", required := true
       color := ⟨true, 1, 1, 30, "rgb8"⟩, depth := ⟨false, 1, 1, 30, "z16"⟩
       irLeft := ⟨false, 1, 1, 30, "y8"⟩, irRight := ⟨false, 1, 1, 30, "y8"⟩ }]
  health := ⟨.fin 1, .fin 5, .fin 29⟩
  reconnect := ⟨false, 1000, 2000⟩
  dims_isInt := by
    intro cam hcam s hs
    rw [List.mem_singleton] at hcam
    rw [hcam, enabledStreams, List.filter_cons_of_pos rfl, List.filter_cons_of_neg Bool.false_ne_true,
      List.filter_cons_of_neg Bool.false_ne_true, List.filter_cons_of_neg Bool.false_ne_true, List.filter_nil,
      List.mem_singleton] at hs
    rw [hs]
    exact ⟨⟨by norm_num, by norm_num⟩, by norm_num, by norm_num⟩

theorem ownRings_iff_head : ∃ shm, create (oneCamera "head") 0 = .ok shm ∧ OwnRings (oneCamera "head") shm := by
  have hok : validateConfig (oneCamera "head") = .ok () := by decide +kernel
  have hexact : ExactSizes (oneCamera "head") := ⟨by decide, by decide +kernel⟩
  obtain ⟨ds, shm, hc⟩ := created_of_validated 0 hok (by decide) hexact
  have hshm := create_eq_ok.mpr ⟨ds, hc⟩
  exact ⟨shm, hshm, (ownRings_iff hok hshm).mpr ⟨by decide, by decide, by decide⟩⟩

/-- **A camera with a name of 32 bytes**: the configuration is validated and `create` returns, but every frame of the
camera is refused. -/
theorem longName_no_ring :
    ∃ shm, validateConfig (oneCamera "wrist_fisheye_left_manipulator_1") = .ok () ∧
      create (oneCamera "wrist_fisheye_left_manipulator_1") 0 = .ok shm ∧
      ¬ OwnRings (oneCamera "wrist_fisheye_left_manipulator_1") shm ∧
      ∀ a : WriteArgs, a.cameraName = "wrist_fisheye_left_manipulator_1" → a.streamName = "color" →
        (shm.writer.writeFrame a).2 = .error "unknown shm ring: wrist_fisheye_left_manipulator_1.color" := by
  have hok : validateConfig (oneCamera "wrist_fisheye_left_manipulator_1") = .ok () := by decide +kernel
  have hexact : ExactSizes (oneCamera "wrist_fisheye_left_manipulator_1") := ⟨by decide, by decide +kernel⟩
  obtain ⟨ds, shm, hc⟩ := created_of_validated 0 hok (by decide) hexact
  have hmem : (⟨"wrist_fisheye_left_manipulator_1", "color", ⟨true, 1, 1, 30, "rgb8"⟩⟩ : StreamSpec) ∈
      streamSpecs (oneCamera "wrist_fisheye_left_manipulator_1").cameras := List.mem_singleton_self _
  have hfits : ¬ Fits 31 "wrist_fisheye_left_manipulator_1" := by decide
  refine ⟨shm, hok, create_eq_ok.mpr ⟨ds, hc⟩, ?_, ?_⟩
  · intro ho
    exact hfits ((hc.streamsNamed ho).fits _ hmem)
  · intro a hcamera hstream
    have hkey : a.key = "wrist_fisheye_left_manipulator_1.color" := by
      rw [WriteArgs.key, hcamera, hstream]
      decide
    cases hr : shm.rings "wrist_fisheye_left_manipulator_1.color" with
    | none =>
      have hnone : shm.writer.shm.rings a.key = none := by
        rw [hkey]
        exact hr
      rw [ShmWriter.writeFrame, hnone, hkey]
      rfl
    | some ring => exact absurd (hc.fits_of_ring (by decide) hmem hr) hfits

end CameraServer
