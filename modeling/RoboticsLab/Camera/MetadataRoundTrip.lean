import RoboticsLab.Camera.BundleClient
import RoboticsLab.Camera.MetadataDocument

/-!
# Do metadata texts decode?

The client decodes a payload with `errors="replace"` and gives it to `json.loads`.  A text is read exactly when
every string in it is `Printable` and every `double` finite: `esc` leaves the other control characters as they
are.  The strings that are read back are the original ones exactly when they are UTF-8.

    BundleDecodes FrameDecodes b ↔ b.Readable, HealthDecodes h ↔ h.Readable               (metadata_decodes_iff)
-/

namespace CameraServer.Metadata

open Utf8 (Bytes)
open Json (Object)
open PolicyRunner.CameraBundleClient (Wire Loads)
open JsonText (setAll collect keys)

/-! ## The reader -/

/-- The decoder and the JSON reader of the client. -/
def pythonWire : Wire where
  decode := Utf8.decodeReplace
  loads text :=
    match JsonText.loads text with
    | .ok v => .value v
    | .error .decode => .jsonDecodeError
    | .error .fuel => .raised (.other "RecursionError")

/-- What the client makes of a payload. -/
def received (payload : Bytes) : Loads := pythonWire.loads (pythonWire.decode payload)

/-- A value, or a `JSONDecodeError`. -/
def loaded : Option Json → Loads
  | some v => .value v
  | none => .jsonDecodeError

theorem received_of_emits {payload : Bytes} {v : Option Json} (h : Emits payload v) : received payload = loaded v := by
  have hloads : pythonWire.loads (pythonWire.decode payload) =
      match JsonText.loads (Utf8.decodeReplace payload) with
      | .ok v => .value v
      | .error .decode => .jsonDecodeError
      | .error .fuel => .raised (.other "RecursionError") := rfl
  rw [received, hloads, h.denotes.loads]
  cases v <;> rfl

theorem loaded_eq_value {v : Option Json} {w : Json} : loaded v = .value w ↔ v = some w := by
  cases v <;> simp [loaded]

/-! ## What is there -/

theorem none_notMem_iff {α : Type} (ms : List (Option α)) : none ∉ ms ↔ ∀ m ∈ ms, m.isSome = true := by
  constructor
  · intro h m hm
    exact Option.isSome_iff_ne_none.mpr fun hnone => h (hnone ▸ hm)
  · intro h hnone
    cases h none hnone

theorem isSome_object (ms : List (Option (String × Json))) :
    (object ms).isSome = true ↔ ∀ m ∈ ms, m.isSome = true := by
  rw [object, Option.isSome_map, JsonText.isSome_setAll, none_notMem_iff]

@[simp]
theorem isSome_member (key : String) (v : Option Json) : (member key v).isSome = v.isSome := Option.isSome_map

theorem isSome_textValue (s : Bytes) : (textValue s).isSome = true ↔ Printable s := by
  rw [textValue]
  split_ifs with h <;> simp [h]

@[simp]
theorem isSome_str (s : Bytes) : (str s).isSome = true ↔ Printable s := by
  rw [str, Option.isSome_map, isSome_textValue]

@[simp]
theorem isSome_doubleValue (d : Double) : (doubleValue d).isSome = d.isFinite := by cases d <;> rfl

theorem isSome_entryMember (key : Bytes) (v : Option Json) :
    (entryMember key v).isSome = true ↔ Printable key ∧ v.isSome = true := by
  rw [entryMember, ← isSome_textValue]
  cases textValue key with
  | none => simp
  | some key => simp [isSome_member]

@[simp]
theorem isSome_entriesValue {α : Type} (value : Bytes × α → Option Json) (m : StdMap α) :
    (entriesValue value m).isSome = true ↔ ∀ e ∈ m.entries, Printable e.1 ∧ (value e).isSome = true := by
  rw [entriesValue, isSome_object, List.forall_mem_map]
  simp only [isSome_entryMember]

@[simp]
theorem isSome_optionalMember {α : Type} (key : String) (value : α → Option Json) (o : Option α) :
    (∀ m ∈ optionalMember key value o, m.isSome = true) ↔ ∀ a ∈ o, (value a).isSome = true := by
  cases o <;> simp [optionalMember, isSome_member]

@[simp]
theorem isSome_stringsValue (ss : List Bytes) : (stringsValue ss).isSome = true ↔ ∀ s ∈ ss, Printable s := by
  rw [stringsValue, Option.isSome_map, JsonText.isSome_collect, none_notMem_iff, List.forall_mem_map]
  simp only [isSome_str]

/-! ## Readable data -/

def IsUtf8 (s : Bytes) : Prop := (Utf8.decode? s).isSome = true

instance (s : Bytes) : Decidable (IsUtf8 s) := inferInstanceAs (Decidable (_ = true))

@[mk_iff]
structure FrameMeta.Readable (m : FrameMeta) : Prop where
  cameraName : Printable m.cameraName
  serial : Printable m.serial
  stream : Printable m.stream
  realsenseTimestampMs : m.realsenseTimestampMs.isFinite = true
  actualExposureUs : ∀ v ∈ m.actualExposureUs, v.isFinite = true
  gainLevel : ∀ v ∈ m.gainLevel, v.isFinite = true
  format : Printable m.format
  shmName : Printable m.shmName
  ringName : Printable m.ringName

/-- The text of the bundle is read. -/
@[mk_iff]
structure FrameBundleMeta.Readable (b : FrameBundleMeta) : Prop where
  groupName : Printable b.groupName
  syncPolicy : Printable b.syncPolicy
  maxTimeDiffMs : b.maxTimeDiffMs.isFinite = true
  frames : ∀ e ∈ b.frames.entries, Printable e.1 ∧ e.2.Readable
  dropCounters : ∀ e ∈ b.dropCounters.entries, Printable e.1

/-- The strings that are read back are texts. -/
def FrameBundleMeta.Utf8Names (b : FrameBundleMeta) : Prop :=
  ∀ e ∈ b.frames.entries, IsUtf8 e.1 ∧ IsUtf8 e.2.format ∧ IsUtf8 e.2.shmName

@[simp]
theorem isSome_natural (n : ℕ) : (natural n).isSome = true := rfl

@[simp]
theorem isSome_frameMembers (m : FrameMeta) : (object (frameMembers m)).isSome = true ↔ m.Readable := by
  rw [isSome_object, frameMembers, FrameMeta.readable_iff, List.forall_mem_append, List.forall_mem_append,
    List.forall_mem_append, List.forall_mem_append]
  simp [and_assoc]

theorem isSome_bundleValue (b : FrameBundleMeta) : (bundleValue b).isSome = true ↔ b.Readable := by
  rw [bundleValue, isSome_object, bundleMembers, FrameBundleMeta.readable_iff]
  simp

@[mk_iff]
structure BundleStats.Readable (b : BundleStats) : Prop where
  topic : Printable b.topic
  publishRateHz : b.publishRateHz.isFinite = true
  lastSkewMs : b.lastSkewMs.isFinite = true
  skewP50Ms : b.skewP50Ms.isFinite = true
  skewP95Ms : b.skewP95Ms.isFinite = true
  skewMaxMs : b.skewMaxMs.isFinite = true

@[mk_iff]
structure CameraCaptureStats.Readable (c : CameraCaptureStats) : Prop where
  callbackEnqueueUsP95 : c.callbackEnqueueUsP95.isFinite = true
  callbackEnqueueUsMax : c.callbackEnqueueUsMax.isFinite = true
  queueWaitUsP95 : c.queueWaitUsP95.isFinite = true
  queueWaitUsMax : c.queueWaitUsMax.isFinite = true
  frameProcessUsP95 : c.frameProcessUsP95.isFinite = true
  frameProcessUsMax : c.frameProcessUsMax.isFinite = true

/-- What the health text says about a stream, if there are statistics of it. -/
def HealthSnapshot.StreamReadable (h : HealthSnapshot) (camera : Bytes) (suffix : String) : Prop :=
  ∀ s ∈ h.streamStats.find (streamKey camera suffix),
    Printable ((h.streamStatus.find (streamKey camera suffix)).getD (lit "unknown")) ∧
      s.fpsEstimate.isFinite = true ∧ s.fpsWindowHz.isFinite = true

@[mk_iff]
structure HealthSnapshot.CameraReadable (h : HealthSnapshot) (camera : Bytes) : Prop where
  serial : Printable (orEmpty h.cameraSerial camera)
  firmwareVersion : Printable (orEmpty h.cameraFirmwareVersion camera)
  recommendedFirmwareVersion : Printable (orEmpty h.cameraRecommendedFirmwareVersion camera)
  physicalPort : Printable (orEmpty h.cameraPhysicalPort camera)
  productId : Printable (orEmpty h.cameraProductId camera)
  usbType : Printable (orEmpty h.cameraUsbType camera)
  capture : ∀ c ∈ h.cameraCaptureStats.find camera, c.Readable
  reconnect : ∀ r ∈ h.cameraReconnectStats.find camera, Printable r.lastError
  streams : ∀ suffix ∈ suffixes, h.StreamReadable camera suffix

/-- The health text is read. -/
@[mk_iff]
structure HealthSnapshot.Readable (h : HealthSnapshot) : Prop where
  uptimeSec : h.uptimeSec.isFinite = true
  mode : Printable h.mode
  status : Printable h.status
  realsenseSdkVersion : Printable h.realsenseSdkVersion
  realsenseBackend : Printable h.realsenseBackend
  statusReasons : ∀ s ∈ h.statusReasons, Printable s
  maxTimeDiffMs : h.maxTimeDiffMs.isFinite = true
  bundleGroups : ∀ e ∈ h.bundleGroups.entries, Printable e.1 ∧ e.2.Readable
  cameras : ∀ e ∈ h.cameraConnected.entries, Printable e.1 ∧ h.CameraReadable e.1
  shmName : Printable h.shmName

@[simp]
theorem isSome_groupMembers (b : BundleStats) : (object (groupMembers b)).isSome = true ↔ b.Readable := by
  rw [isSome_object, groupMembers, BundleStats.readable_iff]
  simp

@[simp]
theorem isSome_captureMembers (c : CameraCaptureStats) : (object (captureMembers c)).isSome = true ↔ c.Readable := by
  rw [isSome_object, captureMembers, CameraCaptureStats.readable_iff]
  simp

@[simp]
theorem isSome_reconnectMembers (r : CameraReconnectStats) :
    (object (reconnectMembers r)).isSome = true ↔ Printable r.lastError := by
  rw [isSome_object, reconnectMembers]
  simp

@[simp]
theorem isSome_dropsMembers (s : StreamStats) : (object (dropsMembers s)).isSome = true := by
  rw [isSome_object, dropsMembers]
  simp

@[simp]
theorem isFinite_lastFrameAgeMs (hostTimeNs lastFrameTimeNs : UInt64) :
    (lastFrameAgeMs hostTimeNs lastFrameTimeNs).isFinite = true := by
  rw [lastFrameAgeMs]
  split_ifs <;> rfl

@[simp]
theorem isSome_streamMembers (h : HealthSnapshot) (camera : Bytes) (suffix : String) :
    (∀ m ∈ streamMembers h camera suffix, m.isSome = true) ↔ h.StreamReadable camera suffix := by
  rw [streamMembers, HealthSnapshot.StreamReadable]
  cases h.streamStats.find (streamKey camera suffix) with
  | none => simp
  | some s => simp

@[simp]
theorem isSome_cameraMembers (h : HealthSnapshot) (camera : Bytes) (connected : Bool) :
    (object (cameraMembers h camera connected)).isSome = true ↔ h.CameraReadable camera := by
  rw [isSome_object, cameraMembers, HealthSnapshot.cameraReadable_iff, List.forall_mem_append, List.forall_mem_append,
    List.forall_mem_append, List.forall_mem_flatMap]
  simp [and_assoc]

theorem isSome_healthValue (h : HealthSnapshot) : (healthValue h).isSome = true ↔ h.Readable := by
  have hrealsense : (object (realsenseMembers h)).isSome = true ↔
      Printable h.realsenseSdkVersion ∧ Printable h.realsenseBackend := by
    rw [isSome_object, realsenseMembers]
    simp
  have hbundle : (object (bundleStatsMembers h)).isSome = true ↔ h.maxTimeDiffMs.isFinite = true := by
    rw [isSome_object, bundleStatsMembers]
    simp
  have hshared : (object (sharedMemoryMembers h)).isSome = true ↔ Printable h.shmName := by
    rw [isSome_object, sharedMemoryMembers]
    simp
  have hmetadata : (object (metadataMembers h)).isSome = true := by
    rw [isSome_object, metadataMembers]
    simp
  have hrecorder : (object (recorderMembers h)).isSome = true := by
    rw [isSome_object, recorderMembers]
    simp
  rw [healthValue, isSome_object, healthMembers, HealthSnapshot.readable_iff]
  simp [hrealsense, hbundle, hshared, hmetadata, hrecorder, and_assoc]

/-! ## What is read back -/

/-- The value is the integer. -/
def IsInt (v : Option Json) (i : ℤ) : Prop := v.bind Json.isNumberInteger = some i

/-- The value is the text that the bytes are in UTF-8. -/
def IsText (v : Option Json) (s : Bytes) : Prop :=
  ∃ text, Utf8.decode? s = some text ∧ v = some (.str (String.ofList text))

/-- The fields of a frame.  The RealSense timestamp has the three decimals that it is printed with. -/
structure FrameDecodes (o : Object) (m : FrameMeta) : Prop where
  frameNumber : IsInt (o.lookup "frame_number") m.frameNumber.toNat
  hostArrivalTimeNs : IsInt (o.lookup "host_arrival_time_ns") m.hostArrivalTimeNs.toNat
  sensorTimestampNs : IsInt (o.lookup "sensor_timestamp_ns") m.sensorTimestampNs.toNat
  realsenseTimestampMs : o.lookup "realsense_timestamp_ms" = doubleValue m.realsenseTimestampMs
  width : IsInt (o.lookup "width") m.width.toInt
  height : IsInt (o.lookup "height") m.height.toInt
  strideBytes : IsInt (o.lookup "stride_bytes") m.strideBytes.toInt
  format : IsText (o.lookup "format") m.format
  shmName : IsText (o.lookup "shm_name") m.shmName
  shmOffset : IsInt (o.lookup "shm_offset") m.shmOffset.toNat
  sizeBytes : IsInt (o.lookup "size_bytes") m.sizeBytes.toNat
  seq : IsInt (o.lookup "seq") m.seq.toNat
  valid : o.lookup "valid" = some (.bool m.valid)

/-- The RealSense timestamp is the original one, too. -/
def FrameDecodesExactly (o : Object) (m : FrameMeta) : Prop :=
  FrameDecodes o m ∧ o.lookup "realsense_timestamp_ms" = some (.numFloat m.realsenseTimestampMs)

/-- The three decimals of a `double` are read as the `double`. -/
def Survives (d : Double) : Prop := ∃ q, d = .fin q ∧ Double.ofRat (thousandths q) = .fin q

structure BundleObject (Frame : Object → FrameMeta → Prop) (o : Object) (b : FrameBundleMeta) : Prop where
  bundleSeq : IsInt (o.lookup "bundle_seq") b.bundleSeq.toNat
  bundleTimeNs : IsInt (o.lookup "bundle_time_ns") b.bundleTimeNs.toNat
  complete : o.lookup "complete" = some (.bool b.complete)
  frames : ∃ frames : Object, o.lookup "frames" = some (.obj frames) ∧ ∀ e ∈ b.frames.entries,
    ∃ key frame, Utf8.decode? e.1 = some key ∧ frames.lookup (String.ofList key) = some (.obj frame) ∧ Frame frame e.2

/-- The bundle's text is an object with the bundle's fields and, under every frame key, the frame's. -/
def BundleDecodes (Frame : Object → FrameMeta → Prop) (b : FrameBundleMeta) : Prop :=
  ∃ o, received (bundleToJson b) = .value (.obj o) ∧ BundleObject Frame o b

def HealthDecodes (h : HealthSnapshot) : Prop := ∃ o, received (healthToJson h) = .value (.obj o)

theorem isInt_of_lookup {v : Option Json} {n : ℕ} (h : v = some (.numUnsigned n)) : IsInt v n := by
  rw [h]
  rfl

theorem isInt_integerValue (i : ℤ) : IsInt (some (integerValue i)) i := by
  rw [integerValue]
  split_ifs with h
  · rfl
  · exact congrArg some (Int.natAbs_of_nonneg (not_lt.mp h))

theorem str_of_decode? {s : Bytes} {text : List Char} (hs : Printable s) (h : Utf8.decode? s = some text) :
    str s = some (.str (String.ofList text)) := by
  rw [str, textValue, if_pos hs, Utf8.decodeReplace_of_decode? h]
  rfl

theorem setAll_of_object {ms : List (Option (String × Json))} {o : Object} (h : object ms = some (.obj o)) :
    setAll [] ms = some o := by
  rw [object, Option.map_eq_some_iff] at h
  obtain ⟨o', hset, ho⟩ := h
  cases ho
  exact hset

/-! ## Frames -/

def frameKeys : List String :=
  ["camera_name", "serial", "stream", "frame_number", "host_arrival_time_ns", "sensor_timestamp_ns",
    "realsense_timestamp_ms", "actual_exposure_us", "gain_level", "auto_exposure", "width", "height", "stride_bytes",
    "format", "shm_name", "ring_name", "slot_index", "shm_offset", "size_bytes", "seq", "valid"]

theorem keys_member {key : String} {v : Option Json} {ms : List (Option (String × Json))} {names : List String}
    (h : (keys ms).Sublist names) : (keys (member key v :: ms)).Sublist (key :: names) := by
  cases v with
  | none => exact h.cons key
  | some v => exact h.cons_cons key

theorem keys_optionalMember {α : Type} {key : String} {value : α → Option Json} {o : Option α}
    {ms : List (Option (String × Json))} {names : List String} (h : (keys ms).Sublist names) :
    (keys (optionalMember key value o ++ ms)).Sublist (key :: names) := by
  cases o with
  | none => exact h.cons key
  | some a => exact keys_member h

theorem keys_frameMembers (m : FrameMeta) : (keys (frameMembers m)).Sublist frameKeys := by
  refine keys_member <| keys_member <| keys_member <| keys_member <| keys_member <| keys_member <| keys_member <|
    keys_optionalMember <| keys_optionalMember <| keys_optionalMember ?_
  exact keys_member <| keys_member <| keys_member <| keys_member <| keys_member <| keys_member <| keys_member <|
    keys_member <| keys_member <| keys_member <| keys_member .slnil

theorem nodup_frameKeys (m : FrameMeta) : (keys (frameMembers m)).Nodup :=
  (keys_frameMembers m).nodup (by simp [frameKeys])

theorem frame_lookup {m : FrameMeta} {o : Object} (h : object (frameMembers m) = some (.obj o)) {key : String}
    {v : Json} (hmem : some (key, v) ∈ frameMembers m) : o.lookup key = some v :=
  JsonText.lookup_setAll (setAll_of_object h) (nodup_frameKeys m) hmem

theorem frame_lookup_str {m : FrameMeta} {o : Object} (h : object (frameMembers m) = some (.obj o)) {key : String}
    {s : Bytes} (hmem : member key (str s) ∈ frameMembers m) (hs : Printable s) (hutf8 : IsUtf8 s) :
    IsText (o.lookup key) s := by
  obtain ⟨text, htext⟩ := Option.isSome_iff_exists.mp hutf8
  rw [str_of_decode? hs htext] at hmem
  exact ⟨text, htext, frame_lookup h hmem⟩

theorem frame_lookup_natural {m : FrameMeta} {o : Object} (h : object (frameMembers m) = some (.obj o)) {key : String}
    {n : ℕ} (hmem : member key (natural n) ∈ frameMembers m) : IsInt (o.lookup key) n :=
  isInt_of_lookup (frame_lookup h hmem)

theorem frame_lookup_integer {m : FrameMeta} {o : Object} (h : object (frameMembers m) = some (.obj o)) {key : String}
    {i : ℤ} (hmem : member key (some (integerValue i)) ∈ frameMembers m) : IsInt (o.lookup key) i := by
  rw [frame_lookup h hmem]
  exact isInt_integerValue i

theorem frame_decodes {m : FrameMeta} {o : Object} (h : object (frameMembers m) = some (.obj o))
    (hformat : IsUtf8 m.format) (hshm : IsUtf8 m.shmName) : FrameDecodes o m := by
  have hreadable : m.Readable := (isSome_frameMembers m).mp (by rw [h]; rfl)
  constructor
  · exact frame_lookup_natural h (by simp [frameMembers])
  · exact frame_lookup_natural h (by simp [frameMembers])
  · exact frame_lookup_natural h (by simp [frameMembers])
  · obtain ⟨v, hv⟩ := Option.isSome_iff_exists.mp
      ((isSome_doubleValue m.realsenseTimestampMs).trans hreadable.realsenseTimestampMs)
    have hmem : member "realsense_timestamp_ms" (doubleValue m.realsenseTimestampMs) ∈ frameMembers m := by
      simp [frameMembers]
    rw [hv] at hmem
    rw [frame_lookup h hmem, hv]
  · exact frame_lookup_integer h (by simp [frameMembers])
  · exact frame_lookup_integer h (by simp [frameMembers])
  · exact frame_lookup_integer h (by simp [frameMembers])
  · exact frame_lookup_str h (by simp [frameMembers]) hreadable.format hformat
  · exact frame_lookup_str h (by simp [frameMembers]) hreadable.shmName hshm
  · exact frame_lookup_natural h (by simp [frameMembers])
  · exact frame_lookup_natural h (by simp [frameMembers])
  · exact frame_lookup_natural h (by simp [frameMembers])
  · exact frame_lookup h (by simp [frameMembers, member])

/-! ## Maps -/

/-- The key that the reader gets. -/
def readKey (key : Bytes) : String := String.ofList (Utf8.decodeReplace key)

theorem keys_entryMember {key : Bytes} {v : Option Json} {ms : List (Option (String × Json))} {names : List String}
    (h : (keys ms).Sublist names) : (keys (entryMember key v :: ms)).Sublist (readKey key :: names) := by
  rw [entryMember, textValue]
  split_ifs
  · exact keys_member h
  · exact h.cons _

section

variable {α : Type} {value : Bytes × α → Option Json}

theorem keys_entries (entries : List (Bytes × α)) :
    (keys (entries.map fun e => entryMember e.1 (value e))).Sublist (entries.map fun e => readKey e.1) := by
  induction entries with
  | nil => exact .slnil
  | cons e entries ih => exact keys_entryMember ih

theorem readKey_of_decode? {key : Bytes} {text : List Char} (h : Utf8.decode? key = some text) :
    readKey key = String.ofList text := by rw [readKey, Utf8.decodeReplace_of_decode? h]

theorem readKey_ne {a b : Bytes} (ha : IsUtf8 a) (hb : IsUtf8 b) (h : a ≠ b) : readKey a ≠ readKey b := by
  obtain ⟨x, hx⟩ := Option.isSome_iff_exists.mp ha
  obtain ⟨y, hy⟩ := Option.isSome_iff_exists.mp hb
  rw [readKey_of_decode? hx, readKey_of_decode? hy]
  intro heq
  obtain rfl : x = y := String.ofList_injective heq
  exact h (Utf8.decode?_injective hx hy)

/-- Keys that are texts are told apart by the reader. -/
theorem nodup_readKeys (m : StdMap α) (h : ∀ e ∈ m.entries, IsUtf8 e.1) :
    (m.entries.map fun e => readKey e.1).Nodup := by
  rw [List.Nodup, List.pairwise_map]
  refine m.sorted.imp_of_mem fun ha hb hlt => readKey_ne (h _ ha) (h _ hb) ?_
  intro heq
  rw [heq] at hlt
  exact List.lt_irrefl _ hlt

theorem entries_lookup {m : StdMap α} {o : Object} (h : entriesValue value m = some (.obj o))
    (hutf8 : ∀ e ∈ m.entries, IsUtf8 e.1) {e : Bytes × α} (he : e ∈ m.entries) :
    ∃ key v, Utf8.decode? e.1 = some key ∧ value e = some v ∧ o.lookup (String.ofList key) = some v := by
  obtain ⟨hprintable, hvalue⟩ := (isSome_entriesValue value m).mp (by rw [h]; rfl) e he
  obtain ⟨key, hkey⟩ := Option.isSome_iff_exists.mp (hutf8 e he)
  obtain ⟨v, hv⟩ := Option.isSome_iff_exists.mp hvalue
  refine ⟨key, v, hkey, hv, ?_⟩
  have hmem : some (String.ofList key, v) ∈ m.entries.map fun e => entryMember e.1 (value e) := by
    refine List.mem_map.mpr ⟨e, he, ?_⟩
    rw [entryMember, textValue, if_pos hprintable, Utf8.decodeReplace_of_decode? hkey, hv]
    rfl
  exact JsonText.lookup_setAll (setAll_of_object h) ((keys_entries m.entries).nodup (nodup_readKeys m hutf8)) hmem

end

/-! ## Bundles -/

def bundleKeys : List String :=
  ["schema", "group_name", "bundle_seq", "bundle_time_ns", "hardware_synced", "sync_policy", "max_time_diff_ms",
    "complete", "frames", "drop_counters"]

theorem keys_bundleMembers (b : FrameBundleMeta) : (keys (bundleMembers b)).Sublist bundleKeys :=
  keys_member <| keys_member <| keys_member <| keys_member <| keys_member <| keys_member <| keys_member <|
    keys_member <| keys_member <| keys_member .slnil

theorem bundle_lookup {b : FrameBundleMeta} {o : Object} (h : bundleValue b = some (.obj o)) {key : String} {v : Json}
    (hmem : some (key, v) ∈ bundleMembers b) : o.lookup key = some v :=
  JsonText.lookup_setAll (setAll_of_object h) ((keys_bundleMembers b).nodup (by simp [bundleKeys])) hmem

theorem object_eq_some {ms : List (Option (String × Json))} {v : Json} (h : object ms = some v) : ∃ o, v = .obj o := by
  rw [object, Option.map_eq_some_iff] at h
  obtain ⟨o, -, ho⟩ := h
  exact ⟨o, ho.symm⟩

theorem received_bundle (b : FrameBundleMeta) (v : Json) :
    received (bundleToJson b) = .value v ↔ bundleValue b = some v := by
  rw [received_of_emits (bundleToJson_emits b), loaded_eq_value]

/-- A readable bundle is read back, with what is asked of its frames. -/
theorem bundleDecodes_of_readable {Frame : Object → FrameMeta → Prop} {b : FrameBundleMeta} (hreadable : b.Readable)
    (hutf8 : ∀ e ∈ b.frames.entries, IsUtf8 e.1)
    (hframe : ∀ e ∈ b.frames.entries, ∀ o, object (frameMembers e.2) = some (.obj o) → Frame o e.2) :
    BundleDecodes Frame b := by
  obtain ⟨v, hv⟩ := Option.isSome_iff_exists.mp ((isSome_bundleValue b).mpr hreadable)
  obtain ⟨o, rfl⟩ := object_eq_some hv
  have hframes : (entriesValue (fun e => object (frameMembers e.2)) b.frames).isSome = true := by
    rw [isSome_entriesValue]
    simpa using hreadable.frames
  obtain ⟨framesValue, hframesValue⟩ := Option.isSome_iff_exists.mp hframes
  obtain ⟨frames, rfl⟩ := object_eq_some hframesValue
  refine ⟨o, (received_bundle b (.obj o)).mpr hv, ?_, ?_, ?_, frames, ?_, fun e he => ?_⟩
  · exact isInt_of_lookup (bundle_lookup hv (by simp [bundleMembers, member, natural]))
  · exact isInt_of_lookup (bundle_lookup hv (by simp [bundleMembers, member, natural]))
  · exact bundle_lookup hv (by simp [bundleMembers, member])
  · have hmem : member "frames" (entriesValue (fun e => object (frameMembers e.2)) b.frames) ∈ bundleMembers b := by
      simp [bundleMembers]
    rw [hframesValue] at hmem
    exact bundle_lookup hv hmem
  · obtain ⟨key, v, hkey, hframeValue, hlookup⟩ := entries_lookup hframesValue hutf8 he
    obtain ⟨frame, rfl⟩ := object_eq_some hframeValue
    exact ⟨key, frame, hkey, hlookup, hframe e he frame hframeValue⟩

/-- A bundle that is read back is readable, and what is asked of a frame holds of what is read under its key. -/
theorem readable_of_bundleDecodes {Frame : Object → FrameMeta → Prop} {b : FrameBundleMeta}
    (h : BundleDecodes Frame b) :
    b.Readable ∧ ∀ e ∈ b.frames.entries, IsUtf8 e.1 ∧ ∃ o, Frame o e.2 := by
  obtain ⟨o, hreceived, hobject⟩ := h
  have hv := (received_bundle b (.obj o)).mp hreceived
  refine ⟨(isSome_bundleValue b).mp (by rw [hv]; rfl), fun e he => ?_⟩
  obtain ⟨frames, -, hframes⟩ := hobject.frames
  obtain ⟨key, frame, hkey, -, hframe⟩ := hframes e he
  exact ⟨Option.isSome_iff_exists.mpr ⟨key, hkey⟩, frame, hframe⟩

theorem isUtf8_of_isText {v : Option Json} {s : Bytes} (h : IsText v s) : IsUtf8 s := by
  obtain ⟨text, htext, -⟩ := h
  exact Option.isSome_iff_exists.mpr ⟨text, htext⟩

theorem bundleDecodes_iff (b : FrameBundleMeta) : BundleDecodes FrameDecodes b ↔ b.Readable ∧ b.Utf8Names := by
  constructor
  · intro h
    obtain ⟨hreadable, hframes⟩ := readable_of_bundleDecodes h
    refine ⟨hreadable, fun e he => ?_⟩
    obtain ⟨hkey, o, hframe⟩ := hframes e he
    exact ⟨hkey, isUtf8_of_isText hframe.format, isUtf8_of_isText hframe.shmName⟩
  · rintro ⟨hreadable, hnames⟩
    refine bundleDecodes_of_readable hreadable (fun e he => (hnames e he).1) fun e he o ho => ?_
    exact frame_decodes ho (hnames e he).2.1 (hnames e he).2.2

theorem doubleValue_eq_iff (d : Double) : doubleValue d = some (.numFloat d) ↔ Survives d := by
  cases d with
  | fin q => simp [doubleValue, Survives]
  | nan => simp [doubleValue, Survives]
  | posInf => simp [doubleValue, Survives]
  | negInf => simp [doubleValue, Survives]

theorem bundleDecodesExactly_iff (b : FrameBundleMeta) :
    BundleDecodes FrameDecodesExactly b ↔
      (b.Readable ∧ b.Utf8Names) ∧ ∀ e ∈ b.frames.entries, Survives e.2.realsenseTimestampMs := by
  constructor
  · intro h
    obtain ⟨hreadable, hframes⟩ := readable_of_bundleDecodes h
    refine ⟨⟨hreadable, fun e he => ?_⟩, fun e he => ?_⟩
    · obtain ⟨hkey, o, hframe, -⟩ := hframes e he
      exact ⟨hkey, isUtf8_of_isText hframe.format, isUtf8_of_isText hframe.shmName⟩
    · obtain ⟨-, o, hframe, hexact⟩ := hframes e he
      exact (doubleValue_eq_iff _).mp (hframe.realsenseTimestampMs.symm.trans hexact)
  · rintro ⟨⟨hreadable, hnames⟩, hsurvives⟩
    refine bundleDecodes_of_readable hreadable (fun e he => (hnames e he).1) fun e he o ho => ?_
    have hframe := frame_decodes ho (hnames e he).2.1 (hnames e he).2.2
    exact ⟨hframe, hframe.realsenseTimestampMs.trans ((doubleValue_eq_iff _).mpr (hsurvives e he))⟩

/-! ## Health -/

theorem healthDecodes_iff (h : HealthSnapshot) : HealthDecodes h ↔ h.Readable := by
  rw [← isSome_healthValue, HealthDecodes, received_of_emits (healthToJson_emits h)]
  constructor
  · rintro ⟨o, ho⟩
    rw [loaded_eq_value.mp ho]
    rfl
  · intro hsome
    obtain ⟨v, hv⟩ := Option.isSome_iff_exists.mp hsome
    obtain ⟨o, rfl⟩ := object_eq_some hv
    exact ⟨o, loaded_eq_value.mpr hv⟩

/-- **Which metadata texts decode.** -/
theorem metadata_decodes_iff (b : FrameBundleMeta) (h : HealthSnapshot) :
    (BundleDecodes FrameDecodes b ↔ b.Readable ∧ b.Utf8Names) ∧
    (BundleDecodes FrameDecodesExactly b ↔
      (b.Readable ∧ b.Utf8Names) ∧ ∀ e ∈ b.frames.entries, Survives e.2.realsenseTimestampMs) ∧
    (HealthDecodes h ↔ h.Readable) :=
  ⟨bundleDecodes_iff b, bundleDecodesExactly_iff b, healthDecodes_iff h⟩

/-- A server with one camera, whose last reconnect failed with `lastError`. -/
def oneCamera (lastError : Bytes) : HealthSnapshot where
  hostTimeNs := 5000000000
  uptimeSec := .fin 5
  mode := lit "capture_only"
  status := lit "degraded"
  statusReasons := [lit "camera_disconnected"]
  streamStatus := .empty
  cameraConnected := ⟨[(lit "head", false)], List.pairwise_singleton _ _⟩
  cameraSerial := .empty
  realsenseSdkVersion := lit "2.55.1"
  realsenseBackend := lit "native"
  cameraFirmwareVersion := .empty
  cameraRecommendedFirmwareVersion := .empty
  cameraPhysicalPort := .empty
  cameraProductId := .empty
  cameraUsbType := .empty
  streamStats := .empty
  cameraCaptureStats := .empty
  cameraReconnectStats := ⟨[(lit "head", ⟨1, 0, 1, 1, false, 4000000000, 0, lastError⟩)], List.pairwise_singleton _ _⟩
  bundleGroups := .empty
  bundleSeq := 0
  completeBundleCount := 0
  incompleteBundleCount := 0
  maxTimeDiffMs := .fin 0
  shmName := lit "/camera_server_frames"
  shmSizeBytes := 0
  metadataPublishCount := 0
  metadataPublishErrors := 0
  recorderEnabled := false
  recorderQueueDepth := 0
  recorderDroppedByQueue := 0

theorem oneCamera_rejected {lastError : Bytes} (h : ¬ Printable lastError) :
    received (healthToJson (oneCamera lastError)) = .jsonDecodeError := by
  have hnone : healthValue (oneCamera lastError) = none := by
    rw [← Option.not_isSome_iff_eq_none, isSome_healthValue]
    intro hreadable
    have hcamera := (hreadable.cameras _ List.mem_cons_self).2
    exact h (hcamera.reconnect _ rfl)
  rw [received_of_emits (healthToJson_emits _), hnone]
  rfl

/-- The reader rejects the text of an error with a terminal's colour code in it. -/
theorem colour_code_rejected :
    received (healthToJson (oneCamera (0x1B :: lit "[31mframe timeout"))) = .jsonDecodeError :=
  oneCamera_rejected (by decide)

end CameraServer.Metadata
