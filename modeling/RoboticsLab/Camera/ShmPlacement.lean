import RoboticsLab.Camera.ShmCreate
import Mathlib.Tactic.Positivity

/-!
# The descriptors that `create` writes

`placeStreams` is the list of them, one for each enabled stream, and `foldlM_addStream` says that the loop of `create`
stores this list.  A slot is as long as the padded rows of an image and 128 bytes, modulo `2^64`; from a cursor that
does not wrap the spans of the streams are consecutive.

    placeStreams ringSlots cursor specs = .ok ds → all spans end below 2^64 →
      the spans are consecutive from the cursor on                                (consecutive_slots)
-/

namespace CameraServer

open Layout

/-! ## The descriptors of the streams -/

/-- The descriptors that the loop of `create` writes, from the cursor on. -/
def placeStreams (ringSlots : UInt32) : UInt64 → List StreamSpec → Except String (List StreamRingHeader)
  | _, [] => .ok []
  | cursor, s :: specs =>
    match describe ringSlots cursor s with
    | .error e => .error e
    | .ok d =>
      match placeStreams ringSlots (cursor + d.span) specs with
      | .error e => .error e
      | .ok ds => .ok (d :: ds)

/-- A list of descriptors stored one after the other. -/
def RingTable.write (t : RingTable) (ds : List StreamRingHeader) : RingTable :=
  ds.foldl (fun t d => ⟨Function.update t.desc t.idx.toNat d, t.idx + 1, t.cursor + d.span⟩) t

theorem placeStreams_cons {ringSlots : UInt32} {cursor : UInt64} {s : StreamSpec} {specs : List StreamSpec}
    {ds : List StreamRingHeader} :
    placeStreams ringSlots cursor (s :: specs) = .ok ds ↔
      ∃ d ds', describe ringSlots cursor s = .ok d ∧ placeStreams ringSlots (cursor + d.span) specs = .ok ds' ∧
        ds = d :: ds' := by
  rw [placeStreams]
  cases hd : describe ringSlots cursor s with
  | error e => simp
  | ok d =>
    cases hds : placeStreams ringSlots (cursor + d.span) specs with
    | error e => simp [hds]
    | ok ds' => simp [hds, eq_comm]

theorem toNat_add_one (i : UInt32) : (i + 1).toNat = (i.toNat + 1) % 2 ^ 32 := UInt32.toNat_add i 1

theorem addStream_eq_ok {sizeBytes : UInt64} {ringSlots : UInt32} {t t' : RingTable} {s : StreamSpec} :
    addStream sizeBytes ringSlots t s = .ok t' ↔
      64 + 104 * (t.idx.toNat + 1) ≤ sizeBytes.toNat ∧ ∃ d, describe ringSlots t.cursor s = .ok d ∧
        t' = t.write [d] := by
  unfold addStream
  split
  next h =>
    constructor
    · intro h'
      cases h'
    · rintro ⟨h', -⟩
      omega
  next h =>
    rw [Nat.not_lt] at h
    cases hd : describe ringSlots t.cursor s with
    | error e => simp
    | ok d =>
      simp only [Except.ok.injEq, exists_eq_left', h, true_and]
      exact eq_comm

/-- **The loop of `create`**: it ends when the formats are supported and the descriptors fit into the mapping,
of which there are never more than an index can count. -/
theorem foldlM_addStream {sizeBytes : UInt64} {ringSlots : UInt32} {specs : List StreamSpec} {t t' : RingTable} :
    specs.foldlM (addStream sizeBytes ringSlots) t = .ok t' ↔
      ∃ ds, placeStreams ringSlots t.cursor specs = .ok ds ∧ t' = t.write ds ∧
        (specs ≠ [] → 64 + 104 * min (t.idx.toNat + specs.length) (2 ^ 32) ≤ sizeBytes.toNat) := by
  induction specs generalizing t with
  | nil =>
    simp only [List.foldlM_nil, pure, Except.pure, placeStreams, Except.ok.injEq, exists_eq_left', ne_eq,
      not_true_eq_false, false_imp_iff, and_true]
    exact eq_comm
  | cons s specs ih =>
    have hidx := t.idx.toNat_lt
    have hnext : ∀ d, (t.write [d]).idx.toNat = (t.idx.toNat + 1) % 2 ^ 32 := fun d => toNat_add_one t.idx
    rw [List.foldlM_cons, List.length_cons]
    constructor
    · intro h
      cases hs : addStream sizeBytes ringSlots t s with
      | error e =>
        rw [hs] at h
        cases h
      | ok t1 =>
        rw [hs] at h
        obtain ⟨hfit, d, hd, rfl⟩ := addStream_eq_ok.mp hs
        obtain ⟨ds, hds, rfl, hfits⟩ := ih.mp h
        refine ⟨d :: ds, placeStreams_cons.mpr ⟨d, ds, hd, hds, rfl⟩, rfl, ?_⟩
        intro _
        rw [hnext] at hfits
        by_cases hne : specs = []
        · rw [hne, List.length_nil]
          omega
        · have := hfits hne
          omega
    · rintro ⟨ds, hds, rfl, hfits⟩
      obtain ⟨d, ds', hd, hds', rfl⟩ := placeStreams_cons.mp hds
      have hfit := hfits (List.cons_ne_nil s specs)
      have hs : addStream sizeBytes ringSlots t s = .ok (t.write [d]) := by
        refine addStream_eq_ok.mpr ⟨?_, d, hd, rfl⟩
        omega
      rw [hs]
      refine ih.mpr ⟨ds', hds', rfl, ?_⟩
      intro _
      rw [hnext]
      omega

/-! ## The table and the cursor -/

theorem RingTable.write_cursor (t : RingTable) (ds : List StreamRingHeader) :
    (t.write ds).cursor = ds.foldl (fun c d => c + d.span) t.cursor := by
  induction ds generalizing t with
  | nil => rfl
  | cons d ds ih => exact ih (t.write [d])

/-- As long as the index does not wrap, the descriptors stand in the table in their order. -/
theorem RingTable.write_desc {t : RingTable} {ds : List StreamRingHeader} (h : t.idx.toNat + ds.length < 2 ^ 32)
    (i : ℕ) :
    (t.write ds).desc i =
      if t.idx.toNat ≤ i ∧ i < t.idx.toNat + ds.length then ds.getD (i - t.idx.toNat) zeroDesc else t.desc i := by
  induction ds generalizing t with
  | nil =>
    rw [List.length_nil, if_neg (by omega)]
    rfl
  | cons d ds ih =>
    rw [List.length_cons] at h ⊢
    have hnext : (t.write [d]).idx.toNat = t.idx.toNat + 1 := by
      have := toNat_add_one t.idx
      rw [Nat.mod_eq_of_lt (by omega)] at this
      exact this
    have hw : (t.write (d :: ds)).desc i = ((t.write [d]).write ds).desc i := rfl
    rw [hw, ih (by omega), hnext]
    by_cases hi : i = t.idx.toNat
    · have h1 : ¬ (t.idx.toNat + 1 ≤ i ∧ i < t.idx.toNat + 1 + ds.length) := by omega
      have h2 : t.idx.toNat ≤ i ∧ i < t.idx.toNat + (ds.length + 1) := by omega
      rw [if_neg h1, if_pos h2, hi, Nat.sub_self, List.getD_cons_zero]
      exact Function.update_self _ _ _
    · by_cases h1 : t.idx.toNat + 1 ≤ i ∧ i < t.idx.toNat + 1 + ds.length
      · have h2 : t.idx.toNat ≤ i ∧ i < t.idx.toNat + (ds.length + 1) := by omega
        have h3 : i - t.idx.toNat = i - (t.idx.toNat + 1) + 1 := by omega
        rw [if_pos h1, if_pos h2, h3, List.getD_cons_succ]
      · have h2 : ¬ (t.idx.toNat ≤ i ∧ i < t.idx.toNat + (ds.length + 1)) := by omega
        rw [if_neg h1, if_neg h2]
        exact Function.update_of_ne hi _ _

theorem length_placeStreams {ringSlots : UInt32} {cursor : UInt64} {specs : List StreamSpec}
    {ds : List StreamRingHeader} (h : placeStreams ringSlots cursor specs = .ok ds) : ds.length = specs.length := by
  induction specs generalizing cursor ds with
  | nil =>
    cases h
    rfl
  | cons s specs ih =>
    obtain ⟨d, ds', -, hds', rfl⟩ := placeStreams_cons.mp h
    rw [List.length_cons, List.length_cons, ih hds']

theorem streamCount_toNat (cameras : List CameraConfig) :
    (streamCount cameras).toNat = (streamSpecs cameras).length % 2 ^ 32 := by
  have key : ∀ (n : UInt32), (cameras.foldl (fun n cam => n + UInt32.ofNat (enabledStreams cam).length) n).toNat =
      (n.toNat + (streamSpecs cameras).length) % 2 ^ 32 := by
    induction cameras with
    | nil =>
      intro n
      have := n.toNat_lt
      simp only [List.foldl_nil, streamSpecs, List.flatMap_nil, List.length_nil]
      omega
    | cons cam cameras ih =>
      intro n
      have hlen : (streamSpecs (cam :: cameras)).length =
          (enabledStreams cam).length + (streamSpecs cameras).length := by
        simp [streamSpecs]
      rw [List.foldl_cons, ih, hlen, UInt32.toNat_add, UInt32.toNat_ofNat']
      omega
  have := key 0
  rw [streamCount, this, UInt32.toNat_zero, Nat.zero_add]

/-! ## Sizes -/

/-- `height` rows of `width * bpp` bytes rounded up to 64, as an exact number; no rows of a negative size. -/
def paddedBytes (scfg : CameraStreamConfig) (bpp : ℕ) : ℕ :=
  scfg.height.toNat * (64 * ((scfg.width * bpp + 63) / 64)).toNat

theorem bytesPerPixel_le {format : String} {bpp : ℕ} (h : bytesPerPixelForFormat format = .ok bpp) : bpp ≤ 3 := by
  unfold bytesPerPixelForFormat at h
  split at h
  · cases h
    omega
  · split at h
    · cases h
      omega
    · split at h
      · cases h
        omega
      · cases h

theorem channels_of_bytesPerPixel {format : String} {bpp : ℕ} (h : bytesPerPixelForFormat format = .ok bpp) :
    ∃ channels, channelsForFormat format = .ok channels := by
  unfold bytesPerPixelForFormat at h
  unfold channelsForFormat
  split at h
  next h1 => exact ⟨3, if_pos h1⟩
  next h1 =>
    rw [if_neg h1]
    split at h
    next h2 => exact ⟨1, if_pos (by tauto)⟩
    next h2 =>
      split at h
      next h3 => exact ⟨1, if_pos (by tauto)⟩
      · cases h

theorem alignedBytes_eq (scfg : CameraStreamConfig) (bpp : ℕ) :
    alignedBytes scfg bpp = UInt64.ofInt (64 * ((scfg.width * bpp + 63) / 64) * scfg.height) := by
  have hbpp : UInt64.ofNat bpp = UInt64.ofInt bpp := by
    rw [← UInt64.toNat_inj, toNat_ofInt, UInt64.toNat_ofNat']
    omega
  rw [alignedBytes, hbpp, ← UInt64.ofInt_mul, align64_ofInt, ← UInt64.ofInt_mul]

/-- **The bytes of a slot**, modulo `2^64`: the padded rows and 128 bytes for the header. -/
theorem slotBytes_eq (scfg : CameraStreamConfig) (bpp : ℕ) :
    align64 (sizeofFrameSlotHeader + payloadCapacityBytes scfg bpp) =
      UInt64.ofInt (64 * ((scfg.width * bpp + 63) / 64) * scfg.height + 128) := by
  have hheader : sizeofFrameSlotHeader = UInt64.ofInt 72 := rfl
  rw [payloadCapacityBytes, alignedBytes_eq, hheader, ← UInt64.ofInt_add, align64_ofInt, Int.mul_assoc]
  congr 1
  omega

section Padded

variable {scfg : CameraStreamConfig} {bpp : ℕ}

variable (bpp) in
theorem paddedBytes_cast (hw : 0 ≤ scfg.width) (hh : 0 ≤ scfg.height) :
    (paddedBytes scfg bpp : ℤ) = 64 * ((scfg.width * bpp + 63) / 64) * scfg.height := by
  have hrow : 0 ≤ 64 * ((scfg.width * bpp + 63) / 64) := by
    have : 0 ≤ scfg.width * bpp := by positivity
    omega
  rw [paddedBytes, Nat.cast_mul, Int.toNat_of_nonneg hh, Int.toNat_of_nonneg hrow, Int.mul_comm]

/-- Rows of an image whose dimensions are `int`s fit into 64 bits with room to spare. -/
theorem paddedBytes_lt (hw : IsInt scfg.width) (hh : IsInt scfg.height) (hbpp : bpp ≤ 3) :
    paddedBytes scfg bpp + 256 < 2 ^ 64 := by
  have hheight : scfg.height.toNat ≤ 2 ^ 31 := by
    have := hh.2
    omega
  have hrow : (64 * ((scfg.width * bpp + 63) / 64)).toNat ≤ 3 * 2 ^ 31 + 63 := by
    have hle : scfg.width * bpp ≤ 3 * 2 ^ 31 := by
      rcases le_or_gt scfg.width 0 with h0 | h0
      · have : scfg.width * bpp ≤ 0 := mul_nonpos_of_nonpos_of_nonneg h0 (by positivity)
        omega
      · have h1 : scfg.width * bpp ≤ scfg.width * 3 := mul_le_mul_of_nonneg_left (by exact_mod_cast hbpp) h0.le
        have h2 := hw.2
        omega
    omega
  have := Nat.mul_le_mul hheight hrow
  rw [paddedBytes]
  omega

theorem slotBytes_toNat (hw : IsInt scfg.width) (hh : IsInt scfg.height) (hbpp : bpp ≤ 3) (hw0 : 0 ≤ scfg.width)
    (hh0 : 0 ≤ scfg.height) :
    (align64 (sizeofFrameSlotHeader + payloadCapacityBytes scfg bpp)).toNat = paddedBytes scfg bpp + 128 := by
  have hlt := paddedBytes_lt hw hh hbpp
  rw [slotBytes_eq, ← paddedBytes_cast bpp hw0 hh0, toNat_ofInt]
  omega

/-- **A slot holds the padded rows**, whatever the signs of the dimensions, once it holds a slot header. -/
theorem paddedBytes_le_capacity (hw : IsInt scfg.width) (hh : IsInt scfg.height) (hbpp : bpp ≤ 3)
    (hslot : 72 ≤ (align64 (sizeofFrameSlotHeader + payloadCapacityBytes scfg bpp)).toNat) :
    72 + paddedBytes scfg bpp ≤ (align64 (sizeofFrameSlotHeader + payloadCapacityBytes scfg bpp)).toNat := by
  rcases lt_or_ge scfg.width 0 with hw0 | hw0
  · have hrow : (64 * ((scfg.width * bpp + 63) / 64)).toNat = 0 := by
      have : scfg.width * bpp ≤ 0 := mul_nonpos_of_nonpos_of_nonneg hw0.le (by positivity)
      omega
    rw [paddedBytes, hrow]
    exact hslot
  · rcases lt_or_ge scfg.height 0 with hh0 | hh0
    · have hrows : scfg.height.toNat = 0 := by omega
      rw [paddedBytes, hrows, Nat.zero_mul]
      exact hslot
    · rw [slotBytes_toNat hw hh hbpp hw0 hh0]
      omega

end Padded

/-- What `describe` writes. -/
structure Described (ringSlots : UInt32) (cursor : UInt64) (s : StreamSpec) (bpp : ℕ) (d : StreamRingHeader) :
    Prop where
  format : bytesPerPixelForFormat s.scfg.format = .ok bpp
  cameraName : d.cameraName = writeCstr 32 s.camera
  streamName : d.streamName = writeCstr 16 s.stream
  slotCount : d.slotCount = ringSlots
  slotBytes : d.slotBytes = align64 (sizeofFrameSlotHeader + payloadCapacityBytes s.scfg bpp)
  slotsOffset : d.slotsOffset = cursor

theorem describe_ok {ringSlots : UInt32} {cursor : UInt64} {s : StreamSpec} {d : StreamRingHeader}
    (h : describe ringSlots cursor s = .ok d) : ∃ bpp, Described ringSlots cursor s bpp d := by
  unfold describe at h
  split at h
  · cases h
  · split at h
    · cases h
    next bpp hbpp =>
      cases h
      exact ⟨bpp, hbpp, rfl, rfl, rfl, rfl, rfl⟩

theorem exists_describe (ringSlots : UInt32) (cursor : UInt64) {s : StreamSpec} {bpp : ℕ}
    (h : bytesPerPixelForFormat s.scfg.format = .ok bpp) :
    ∃ d, describe ringSlots cursor s = .ok d ∧ Described ringSlots cursor s bpp d := by
  obtain ⟨channels, hc⟩ := channels_of_bytesPerPixel h
  unfold describe
  rw [hc, h]
  exact ⟨_, rfl, h, rfl, rfl, rfl, rfl, rfl⟩

/-! ## Consecutive spans -/

def StreamRingHeader.slot (d : StreamRingHeader) (k : ℕ) : ByteRange :=
  .cell d.slotsOffset.toNat d.slotBytes.toNat k

/-- All slots of a stream. -/
def StreamRingHeader.slots (d : StreamRingHeader) : ByteRange :=
  ⟨d.slotsOffset.toNat, d.slotBytes.toNat * d.slotCount.toNat⟩

theorem span_toNat {d : StreamRingHeader} (h : d.slots.stop < 2 ^ 64) :
    (d.slotsOffset + d.span).toNat = d.slots.stop := by
  have hstop : d.slotsOffset.toNat + d.slotBytes.toNat * d.slotCount.toNat < 2 ^ 64 := h
  have hmul : (d.slotBytes * d.slotCount.toUInt64).toNat = d.slotBytes.toNat * d.slotCount.toNat := by
    rw [UInt64.toNat_mul, UInt32.toNat_toUInt64, Nat.mod_eq_of_lt (by omega)]
  rw [StreamRingHeader.span, UInt64.toNat_add, hmul, Nat.mod_eq_of_lt hstop]
  rfl

/-- **The spans are consecutive** when each of them ends in the segment: then no cursor has wrapped. -/
theorem consecutive_slots {ringSlots : UInt32} {cursor : UInt64} {specs : List StreamSpec}
    {ds : List StreamRingHeader} (h : placeStreams ringSlots cursor specs = .ok ds)
    (hstop : ∀ d ∈ ds, d.slots.stop < 2 ^ 64) :
    ByteRange.Consecutive cursor.toNat (ds.map StreamRingHeader.slots) := by
  induction specs generalizing cursor ds with
  | nil =>
    cases h
    trivial
  | cons s specs ih =>
    obtain ⟨d, ds', hd, hds', rfl⟩ := placeStreams_cons.mp h
    obtain ⟨bpp, hd⟩ := describe_ok hd
    have hd0 := hstop d List.mem_cons_self
    have htail := ih hds' fun d' hd' => hstop d' (List.mem_cons_of_mem d hd')
    rw [← hd.slotsOffset, span_toNat hd0] at htail
    refine ⟨?_, htail⟩
    rw [← hd.slotsOffset]
    rfl

/-- Every stream has a descriptor of its own, with its slots at a multiple of 64. -/
theorem placed_described {ringSlots : UInt32} {cursor : UInt64} {specs : List StreamSpec}
    {ds : List StreamRingHeader} (h : placeStreams ringSlots cursor specs = .ok ds) (hc : 64 ∣ cursor.toNat) :
    List.Forall₂ (fun s d => ∃ c bpp, Described ringSlots c s bpp d ∧ 64 ∣ c.toNat) specs ds := by
  induction specs generalizing cursor ds with
  | nil =>
    cases h
    exact .nil
  | cons s specs ih =>
    obtain ⟨d, ds', hd, hds', rfl⟩ := placeStreams_cons.mp h
    obtain ⟨bpp, hd⟩ := describe_ok hd
    refine .cons ⟨cursor, bpp, hd, hc⟩ (ih hds' ?_)
    have hbytes : 64 ∣ d.slotBytes.toNat := by
      rw [hd.slotBytes]
      exact align64_dvd _
    have hspan : 64 ∣ d.span.toNat := by
      rw [StreamRingHeader.span, UInt64.toNat_mul, UInt32.toNat_toUInt64]
      exact (Nat.dvd_mod_iff (by norm_num)).mpr (Dvd.dvd.mul_right hbytes _)
    rw [UInt64.toNat_add]
    exact (Nat.dvd_mod_iff (by norm_num)).mpr (Nat.dvd_add hc hspan)

end CameraServer
