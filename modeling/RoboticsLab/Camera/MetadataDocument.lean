import RoboticsLab.Camera.MetadataJson
import RoboticsLab.Lib.JsonText

/-!
# The document that a metadata text is

`Emits bytes v`: Python's decoder and JSON reader make `v` of the bytes, or a `JSONDecodeError` if there is no
`v`.  Each piece of a text has its rule, and a text's document is put together like the text.  Only two things
keep a document from being read: a string with a control character that `esc` does not know, and a `double` that
is not finite.

    Emits (bundleToJson b) (bundleValue b)                                              (bundleToJson_emits)
    Emits (healthToJson h) (healthValue h)                                              (healthToJson_emits)
-/

namespace CameraServer.Metadata

open Utf8 (Bytes Closed)
open JsonText (Denotes Members Spells setAll collect)

/-! ## Strings -/

/-- Every control character is one that `esc` knows. -/
def Printable (s : Bytes) : Prop := ∀ c ∈ s, 0x20 ≤ c.toNat ∨ c = 0x0A ∨ c = 0x0D ∨ c = 0x09

instance (s : Bytes) : Decidable (Printable s) := List.decidableBAll _ s

/-- The string that the reader gets. -/
def textValue (s : Bytes) : Option String :=
  if Printable s then some (String.ofList (Utf8.decodeReplace s)) else none

theorem escByte_ascii : ∀ n < 0x80, escByte (UInt8.ofNat n) ≠ [] ∧
    ((escByte (UInt8.ofNat n)).all fun x => decide (x.toNat < 0x80)) = true ∧
    (escByte (UInt8.ofNat n)).map (fun x => Char.ofNat x.toNat) = JsonText.escape (Char.ofNat n) := by decide +kernel

theorem escByte_rewrite : Utf8.AsciiRewrite escByte JsonText.escape where
  ne_nil b hb := by simpa using (escByte_ascii b.toNat hb).1
  ascii b hb := by simpa using (escByte_ascii b.toNat hb).2.1
  chars b hb := by simpa using (escByte_ascii b.toNat hb).2.2
  byte b hb := by
    have hne : ∀ n : UInt8, n.toNat < 0x80 → b ≠ n := by
      rintro n hn rfl
      omega
    rw [escByte, if_neg (hne _ (by decide)), if_neg (hne _ (by decide)), if_neg (hne _ (by decide)),
      if_neg (hne _ (by decide)), if_neg (hne _ (by decide))]
  char c hc := by
    have hne : ∀ d : Char, d.toNat < 0x80 → c ≠ d := by
      rintro d hd rfl
      omega
    rw [JsonText.escape, if_neg (hne _ (by decide)), if_neg (hne _ (by decide)), if_neg (hne _ (by decide)),
      if_neg (hne _ (by decide)), if_neg (hne _ (by decide))]

theorem decodeReplace_esc (s : Bytes) : Utf8.decodeReplace (esc s) = (Utf8.decodeReplace s).flatMap JsonText.escape :=
  escByte_rewrite.decodeReplace s

theorem control_ofNat : ∀ n < 0x80, JsonText.Control (Char.ofNat n) ↔
    ¬ (0x20 ≤ (UInt8.ofNat n).toNat ∨ UInt8.ofNat n = 0x0A ∨ UInt8.ofNat n = 0x0D ∨ UInt8.ofNat n = 0x09) := by
      decide +kernel

theorem printable_iff (s : Bytes) : (∀ c ∈ Utf8.decodeReplace s, ¬ JsonText.Control c) ↔ Printable s := by
  constructor
  · intro h b hb
    by_contra hcontrol
    have hlt : b.toNat < 0x80 := by
      rw [not_or] at hcontrol
      omega
    refine h (Char.ofNat b.toNat) ((Utf8.mem_decodeReplace_ascii hlt s).mpr ⟨b, hb, rfl⟩) ?_
    rw [control_ofNat _ hlt, UInt8.ofNat_toNat]
    exact hcontrol
  · intro h c hc hcontrol
    have hlt : c.toNat < 0x80 := Nat.lt_trans hcontrol.1 (by decide)
    rw [← Char.ofNat_toNat c] at hc hcontrol
    obtain ⟨b, hb, heq⟩ := (Utf8.mem_decodeReplace_ascii hlt s).mp hc
    rw [control_ofNat _ hlt, ← heq, UInt8.ofNat_toNat] at hcontrol
    exact hcontrol (h b hb)

theorem spells_esc (s : Bytes) : Spells (Utf8.decodeReplace (esc s)) (textValue s) := by
  have h := JsonText.spells_escape (Utf8.decodeReplace s)
  rw [decodeReplace_esc, textValue]
  simp only [printable_iff] at h
  exact h

/-! ## Pieces -/

/-- The characters of a literal. -/
theorem decodeReplace_lit {s : String} (h : Utf8.Ascii s.toList) (bs : Bytes) :
    Utf8.decodeReplace (lit s ++ bs) = s.toList ++ Utf8.decodeReplace bs := Utf8.decodeReplace_ofAscii h bs

theorem decodeReplace_eq_lit {s : String} (h : Utf8.Ascii s.toList) : Utf8.decodeReplace (lit s) = s.toList :=
  Utf8.decodeReplace_eq_ofAscii h

theorem closed_lit {s : String} (h : Utf8.Ascii s.toList) : Closed (lit s) := Utf8.closed_ofAscii h

theorem decodeReplace_quoted (s bs : Bytes) :
    Utf8.decodeReplace (quoted s ++ bs) = '"' :: (Utf8.decodeReplace (esc s) ++ '"' :: Utf8.decodeReplace bs) := by
  rw [quoted, List.append_assoc, List.append_assoc, decodeReplace_lit (by decide)]
  exact congrArg ('"' :: ·) (Utf8.decodeReplace_append_ascii (esc s) (b := 0x22) (by decide) bs)

theorem closed_quoted (s : Bytes) : Closed (quoted s) := by
  rw [quoted, ← List.append_assoc]
  exact Closed.concat _ (by decide)

structure Emits (bytes : Bytes) (v : Option Json) : Prop where
  closed : Closed bytes
  denotes : Denotes (Utf8.decodeReplace bytes) v

/-- The same for members with commas between them. -/
structure EmitsMembers (bytes : Bytes) (ms : List (Option (String × Json))) : Prop where
  closed : Closed bytes
  members : Members (Utf8.decodeReplace bytes) ms

theorem emits_quoted (s : Bytes) : Emits (quoted s) ((textValue s).map .str) := by
  refine ⟨closed_quoted s, ?_⟩
  have hquoted := decodeReplace_quoted s []
  rw [List.append_nil] at hquoted
  rw [hquoted]
  exact (spells_esc s).denotes

theorem emits_boolean (b : Bool) : Emits (boolean b) (some (.bool b)) := by
  cases b with
  | true => exact ⟨by decide, JsonText.denotes_true⟩
  | false => exact ⟨by decide, JsonText.denotes_false⟩

theorem ascii_of_isDigit {text : List Char} (h : ∀ c ∈ text, c.isDigit = true) : Utf8.Ascii text := by
  intro c hc
  have hdigit := h c hc
  rw [Char.isDigit, Bool.and_eq_true, decide_eq_true_iff, decide_eq_true_iff] at hdigit
  exact Nat.lt_of_le_of_lt hdigit.2 (by decide)

theorem ascii_toDigits (n : ℕ) : Utf8.Ascii (Nat.toDigits 10 n) := ascii_of_isDigit (JsonText.isDigit_toDigits n)

theorem emits_ofAscii {text : List Char} {v : Option Json} (h : Utf8.Ascii text) (hv : Denotes text v) :
    Emits (Utf8.ofAscii text) v := by
  refine ⟨Utf8.closed_ofAscii h, ?_⟩
  rwa [Utf8.decodeReplace_eq_ofAscii h]

theorem emits_decimal (n : ℕ) : Emits (decimal n) (some (.numUnsigned n)) :=
  emits_ofAscii (ascii_toDigits n) (JsonText.denotes_nat n)

/-- An integer, with the reader's kind. -/
def integerValue (i : ℤ) : Json := if i < 0 then .numInteger i else .numUnsigned i.natAbs

theorem emits_integer (i : ℤ) : Emits (integer i) (some (integerValue i)) := by
  rw [integer, integerValue]
  split_ifs with hneg
  · have hascii : Utf8.Ascii ('-' :: Nat.toDigits 10 i.natAbs) :=
      List.forall_mem_cons.mpr ⟨by decide, ascii_toDigits i.natAbs⟩
    have hemits := emits_ofAscii hascii (JsonText.denotes_neg i.natAbs)
    rwa [Int.ofNat_natAbs_of_nonpos hneg.le, neg_neg] at hemits
  · exact emits_decimal i.natAbs

/-- The nearest number of thousandths. -/
def thousandths (q : ℚ) : ℚ :=
  if q < 0 then -((pyRound (|q| * 1000)).toNat / 1000) else (pyRound (|q| * 1000)).toNat / 1000

/-- A printed `double`, unless it is a NaN or an infinity. -/
def doubleValue : Double → Option Json
  | .fin q => some (.numFloat (Double.ofRat (thousandths q)))
  | _ => none

theorem digitsValue_threeDigits (n : ℕ) : JsonText.digitsValue (threeDigits n) = n % 1000 := by
  rw [JsonText.digitsValue, threeDigits, Nat.ofDigitChars_cons_digitChar_of_lt_ten (Nat.mod_lt _ (by decide)),
    Nat.ofDigitChars_cons_digitChar_of_lt_ten (Nat.mod_lt _ (by decide)),
    Nat.ofDigitChars_cons_digitChar_of_lt_ten (Nat.mod_lt _ (by decide)), Nat.ofDigitChars_nil]
  omega

theorem threeDigits_ne_nil (n : ℕ) : threeDigits n ≠ [] := List.cons_ne_nil _ _

theorem isDigit_threeDigits (n : ℕ) : ∀ c ∈ threeDigits n, c.isDigit = true := by
  have hdigit : ∀ d, (d % 10).digitChar.isDigit = true := by
    intro d
    refine JsonText.isDigit_toDigits (d % 10) _ ?_
    rw [Nat.toDigits_of_lt_base (Nat.mod_lt d (by decide))]
    exact List.mem_cons_self
  intro c hc
  simp only [threeDigits, List.mem_cons, List.not_mem_nil, or_false] at hc
  rcases hc with rfl | rfl | rfl <;> exact hdigit _

theorem numberValue_thousandths (q : ℚ) :
    JsonText.numberValue (decide (q < 0)) ((pyRound (|q| * 1000)).toNat / 1000)
        (threeDigits (pyRound (|q| * 1000)).toNat) none = .numFloat (Double.ofRat (thousandths q)) := by
  rw [thousandths]
  generalize (pyRound (|q| * 1000)).toNat = n
  have hvalue : ((n / 1000 : ℕ) + (JsonText.digitsValue (threeDigits n) : ℕ) / 10 ^ (threeDigits n).length : ℚ) *
      10 ^ ((none : Option ℤ).getD 0) = n / 1000 := by
    have hn : ((1000 * (n / 1000) + n % 1000 : ℕ) : ℚ) = n := by rw [Nat.div_add_mod]
    have hlength : (threeDigits n).length = 3 := rfl
    rw [digitsValue_threeDigits, hlength, Option.getD_none, zpow_zero, mul_one]
    push_cast at hn
    linarith
  rw [JsonText.numberValue, if_neg fun h => threeDigits_ne_nil n h.1]
  dsimp only
  rw [hvalue]
  simp only [decide_eq_true_eq]

theorem fixed3_fin (q : ℚ) :
    fixed3 (.fin q) = Utf8.ofAscii (JsonText.signed (decide (q < 0))
      (Nat.toDigits 10 ((pyRound (|q| * 1000)).toNat / 1000) ++
        JsonText.pointed (threeDigits (pyRound (|q| * 1000)).toNat))) := by
  rw [fixed3]
  generalize (pyRound (|q| * 1000)).toNat = n
  have hdigits : decimal (n / 1000) ++ (lit "." ++ Utf8.ofAscii (threeDigits n)) =
      Utf8.ofAscii (Nat.toDigits 10 (n / 1000) ++ JsonText.pointed (threeDigits n)) := by
    rw [JsonText.pointed, if_neg (threeDigits_ne_nil n), decimal, Utf8.ofAscii, Utf8.ofAscii, Utf8.ofAscii,
      List.map_append]
    rfl
  rw [hdigits, JsonText.signed]
  by_cases hneg : q < 0
  · rw [if_pos hneg, if_pos (decide_eq_true hneg)]
    rfl
  · rw [if_neg hneg, if_neg (by simpa using hneg)]

theorem ascii_number (negative : Bool) (n : ℕ) {fraction : List Char} (h : ∀ c ∈ fraction, c.isDigit = true) :
    Utf8.Ascii (JsonText.signed negative (Nat.toDigits 10 n ++ JsonText.pointed fraction)) := by
  have hpointed : Utf8.Ascii (JsonText.pointed fraction) := by
    rw [JsonText.pointed]
    split_ifs
    · exact List.forall_mem_nil _
    · exact List.forall_mem_cons.mpr ⟨by decide, ascii_of_isDigit h⟩
  have hnumber : Utf8.Ascii (Nat.toDigits 10 n ++ JsonText.pointed fraction) :=
    List.forall_mem_append.mpr ⟨ascii_toDigits n, hpointed⟩
  cases negative with
  | true => exact List.forall_mem_cons.mpr ⟨by decide, hnumber⟩
  | false => exact hnumber

theorem emits_fixed3 (d : Double) : Emits (fixed3 d) (doubleValue d) := by
  cases d with
  | fin q =>
    have hdigits := isDigit_threeDigits (pyRound (|q| * 1000)).toNat
    have hnumber := JsonText.denotes_number (decide (q < 0)) ((pyRound (|q| * 1000)).toNat / 1000) hdigits
    rw [numberValue_thousandths] at hnumber
    rw [fixed3_fin]
    exact emits_ofAscii (ascii_number _ _ hdigits) hnumber
  | nan => exact ⟨by decide, JsonText.denotes_scalar (by decide) _ _ fun _ _ => rfl⟩
  | posInf => exact ⟨by decide, JsonText.denotes_scalar (by decide) _ _ fun _ _ => rfl⟩
  | negInf => exact ⟨by decide, JsonText.denotes_scalar (by decide) _ _ fun _ _ => rfl⟩

/-! ## Members -/

def PlainChar (c : Char) : Prop := 0x20 ≤ c.toNat ∧ c.toNat < 0x80 ∧ c ≠ '"' ∧ c ≠ '\\'

instance (c : Char) : Decidable (PlainChar c) := inferInstanceAs (Decidable (_ ∧ _))

instance (text : List Char) : Decidable (∀ c ∈ text, PlainChar c) := List.decidableBAll _ text

/-- A literal of the source that needs no escape. -/
def Plain (key : String) : Prop := ∀ c ∈ key.toList, PlainChar c

theorem plain {text : List Char} (h : text.all (fun c => decide (PlainChar c)) = true) :
    Plain (String.ofList text) := by
  rw [Plain, String.toList_ofList]
  simpa using h

theorem Plain.ascii {key : String} (h : Plain key) : Utf8.Ascii key.toList := fun c hc => (h c hc).2.1

theorem Plain.append {a b : String} (ha : Plain a) (hb : Plain b) : Plain (a ++ b) := by
  rw [Plain, String.toList_append]
  exact List.forall_mem_append.mpr ⟨ha, hb⟩

theorem escByte_plain : ∀ n < 0x80, 0x20 ≤ n → Char.ofNat n ≠ '"' → Char.ofNat n ≠ '\\' →
    escByte (UInt8.ofNat n) = [UInt8.ofNat n] := by decide +kernel

theorem Plain.esc_lit {key : String} (h : Plain key) : esc (lit key) = lit key := by
  rw [esc, lit, Utf8.ofAscii, List.flatMap_map]
  refine (List.flatMap_congr fun c hc => ?_).trans (List.flatMap_pure_eq_map _ _)
  obtain ⟨hge, hlt, hquote, hslash⟩ := h c hc
  exact escByte_plain c.toNat hlt hge (by rwa [Char.ofNat_toNat]) (by rwa [Char.ofNat_toNat])

theorem Plain.textValue_lit {key : String} (h : Plain key) : textValue (lit key) = some key := by
  have hprintable : Printable (lit key) := by
    intro b hb
    obtain ⟨c, hc, rfl⟩ := List.mem_map.mp hb
    obtain ⟨hge, hlt, -⟩ := h c hc
    rw [Utf8.toNat_ofAscii hlt]
    exact Or.inl hge
  rw [textValue, if_pos hprintable, decodeReplace_eq_lit h.ascii, String.ofList_toList]

def member (key : String) (v : Option Json) : Option (String × Json) := v.map fun v => (key, v)

def entryMember (key : Bytes) (v : Option Json) : Option (String × Json) := (textValue key).bind fun key => member key v

theorem emits_entry (key : Bytes) {value : Bytes} {v : Option Json} (h : Emits value v) :
    EmitsMembers (entry key value) [entryMember key v] := by
  refine ⟨(closed_quoted key).append ((closed_lit (by decide)).append h.closed), .one ?_⟩
  rw [entry, decodeReplace_quoted, decodeReplace_lit (by decide)]
  exact ⟨_, _, _, _, rfl, spells_esc key, h.denotes, rfl⟩

theorem field_eq_entry {key : String} (h : Plain key) (value : Bytes) : field key value = entry (lit key) value := by
  have hquote : lit "\":" = lit "\"" ++ lit ":" := by decide
  rw [field, entry, quoted, h.esc_lit, hquote]
  simp only [List.append_assoc]

theorem emits_field {key : String} (hkey : Plain key) {value : Bytes} {v : Option Json} (h : Emits value v) :
    EmitsMembers (field key value) [member key v] := by
  have hentry := emits_entry (lit key) h
  rwa [← field_eq_entry hkey, entryMember, hkey.textValue_lit] at hentry

theorem EmitsMembers.append {a b : Bytes} {xs ys : List (Option (String × Json))} (ha : EmitsMembers a xs)
    (hb : EmitsMembers b ys) : EmitsMembers (a ++ (comma ++ b)) (xs ++ ys) := by
  refine ⟨ha.closed.append ((closed_lit (by decide)).append hb.closed), ?_⟩
  rw [Utf8.decodeReplace_append ha.closed, comma, decodeReplace_lit (by decide)]
  exact ha.members.append hb.members

section

variable {key : String} {value : Bytes} {v : Option Json} {pieces : List Bytes} {ms : List (Option (String × Json))}

theorem EmitsMembers.cons (hkey : Plain key) (h : Emits value v) (hrest : EmitsMembers pieces.flatten ms) :
    EmitsMembers (Metadata.field key value :: comma :: pieces).flatten (member key v :: ms) :=
  (emits_field hkey h).append hrest

theorem EmitsMembers.singleton (hkey : Plain key) (h : Emits value v) :
    EmitsMembers [Metadata.field key value].flatten [member key v] := by
  rw [List.flatten_singleton]
  exact emits_field hkey h

end

theorem EmitsMembers.braces {body : Bytes} {ms : List (Option (String × Json))} (h : EmitsMembers body ms) :
    Emits (Metadata.braces body) ((setAll [] ms).map .obj) := by
  refine ⟨(closed_lit (by decide)).append (h.closed.append (closed_lit (by decide))), ?_⟩
  rw [Metadata.braces, decodeReplace_lit (by decide), Utf8.decodeReplace_append h.closed,
    decodeReplace_eq_lit (by decide)]
  exact Denotes.object h.members

theorem emits_braces_nil : Emits (braces []) (some (.obj [])) := ⟨by decide, JsonText.denotes_empty⟩

section

variable {α : Type} {value : Bytes × α → Bytes} {v : Bytes × α → Option Json}

theorem emits_separated (h : ∀ e, Emits (value e) (v e)) (e : Bytes × α) (entries : List (Bytes × α)) :
    EmitsMembers (separated ((e :: entries).map fun e => entry e.1 (value e)))
      ((e :: entries).map fun e => entryMember e.1 (v e)) := by
  induction entries generalizing e with
  | nil => exact emits_entry e.1 (h e)
  | cons e' entries ih => exact (emits_entry e.1 (h e)).append (ih e')

/-- The entries of a map. -/
theorem emits_map (h : ∀ e, Emits (value e) (v e)) (entries : List (Bytes × α)) :
    Emits (braces (separated (entries.map fun e => entry e.1 (value e))))
      ((setAll [] (entries.map fun e => entryMember e.1 (v e))).map .obj) := by
  cases entries with
  | nil => exact emits_braces_nil
  | cons e entries => exact (emits_separated h e entries).braces

end

/-! ## Frames and bundles -/

def str (s : Bytes) : Option Json := (textValue s).map .str

def natural (n : ℕ) : Option Json := some (.numUnsigned n)

def optionalMember {α : Type} (key : String) (value : α → Option Json) : Option α → List (Option (String × Json))
  | some a => [member key (value a)]
  | none => []

def frameMembers (m : FrameMeta) : List (Option (String × Json)) :=
  [member "camera_name" (str m.cameraName), member "serial" (str m.serial), member "stream" (str m.stream),
    member "frame_number" (natural m.frameNumber.toNat),
    member "host_arrival_time_ns" (natural m.hostArrivalTimeNs.toNat),
    member "sensor_timestamp_ns" (natural m.sensorTimestampNs.toNat),
    member "realsense_timestamp_ms" (doubleValue m.realsenseTimestampMs)] ++
  (optionalMember "actual_exposure_us" doubleValue m.actualExposureUs ++
  (optionalMember "gain_level" doubleValue m.gainLevel ++
  (optionalMember "auto_exposure" (fun b => some (.bool b)) m.autoExposure ++
  [member "width" (some (integerValue m.width.toInt)), member "height" (some (integerValue m.height.toInt)),
    member "stride_bytes" (some (integerValue m.strideBytes.toInt)), member "format" (str m.format),
    member "shm_name" (str m.shmName), member "ring_name" (str m.ringName),
    member "slot_index" (natural m.slotIndex.toNat), member "shm_offset" (natural m.shmOffset.toNat),
    member "size_bytes" (natural m.sizeBytes.toNat), member "seq" (natural m.seq.toNat),
    member "valid" (some (.bool m.valid))])))

theorem EmitsMembers.optionalField {α : Type} {key : String} {print : α → Bytes} {value : α → Option Json}
    {pieces : List Bytes} {ms : List (Option (String × Json))} (hkey : Plain key)
    (h : ∀ a, Emits (print a) (value a)) (o : Option α) (hrest : EmitsMembers pieces.flatten ms) :
    EmitsMembers (Metadata.optionalField key print o :: pieces).flatten (optionalMember key value o ++ ms) := by
  cases o with
  | none => exact hrest
  | some a =>
    have hfield := hrest.cons hkey (h a)
    rw [List.flatten_cons, Metadata.optionalField, List.append_assoc]
    exact hfield

theorem jsonFrameFields_emits (m : FrameMeta) : EmitsMembers (jsonFrameFields m false) (frameMembers m) := by
  rw [jsonFrameFields, if_neg Bool.false_ne_true, List.flatten_cons, List.nil_append]
  exact .cons (plain rfl) (emits_quoted m.cameraName) <| .cons (plain rfl) (emits_quoted m.serial) <|
    .cons (plain rfl) (emits_quoted m.stream) <| .cons (plain rfl) (emits_decimal m.frameNumber.toNat) <|
    .cons (plain rfl) (emits_decimal m.hostArrivalTimeNs.toNat) <|
    .cons (plain rfl) (emits_decimal m.sensorTimestampNs.toNat) <|
    .cons (plain rfl) (emits_fixed3 m.realsenseTimestampMs) <|
    .optionalField (plain rfl) emits_fixed3 m.actualExposureUs <|
    .optionalField (plain rfl) emits_fixed3 m.gainLevel <|
    .optionalField (plain rfl) emits_boolean m.autoExposure <|
    .cons (plain rfl) (emits_integer m.width.toInt) <| .cons (plain rfl) (emits_integer m.height.toInt) <|
    .cons (plain rfl) (emits_integer m.strideBytes.toInt) <| .cons (plain rfl) (emits_quoted m.format) <|
    .cons (plain rfl) (emits_quoted m.shmName) <| .cons (plain rfl) (emits_quoted m.ringName) <|
    .cons (plain rfl) (emits_decimal m.slotIndex.toNat) <|
    .cons (plain rfl) (emits_decimal m.shmOffset.toNat) <|
    .cons (plain rfl) (emits_decimal m.sizeBytes.toNat) <| .cons (plain rfl) (emits_decimal m.seq.toNat) <|
    .singleton (plain rfl) (emits_boolean m.valid)

def object (ms : List (Option (String × Json))) : Option Json := (setAll [] ms).map .obj

def entriesValue {α : Type} (value : Bytes × α → Option Json) (m : StdMap α) : Option Json :=
  object (m.entries.map fun e => entryMember e.1 (value e))

def bundleMembers (b : FrameBundleMeta) : List (Option (String × Json)) :=
  [member "schema" (some (.str "camera_server.bundle.v1")), member "group_name" (str b.groupName),
    member "bundle_seq" (natural b.bundleSeq.toNat), member "bundle_time_ns" (natural b.bundleTimeNs.toNat),
    member "hardware_synced" (some (.bool b.hardwareSynced)), member "sync_policy" (str b.syncPolicy),
    member "max_time_diff_ms" (doubleValue b.maxTimeDiffMs), member "complete" (some (.bool b.complete)),
    member "frames" (entriesValue (fun e => object (frameMembers e.2)) b.frames),
    member "drop_counters" (entriesValue (fun e => natural e.2.toNat) b.dropCounters)]

def bundleValue (b : FrameBundleMeta) : Option Json := object (bundleMembers b)

theorem emits_literal (text s : String) (h : lit text = quoted (lit s)) (hs : Plain s) :
    Emits (lit text) (some (.str s)) := by
  rw [h]
  have hquoted := emits_quoted (lit s)
  rwa [hs.textValue_lit] at hquoted

theorem bundleToJson_emits (b : FrameBundleMeta) : Emits (bundleToJson b) (bundleValue b) := by
  have hmembers : EmitsMembers _ (bundleMembers b) :=
    .cons (plain rfl) (emits_literal "\"camera_server.bundle.v1\"" _ (by decide) (plain rfl)) <|
    .cons (plain rfl) (emits_quoted b.groupName) <| .cons (plain rfl) (emits_decimal b.bundleSeq.toNat) <|
    .cons (plain rfl) (emits_decimal b.bundleTimeNs.toNat) <|
    .cons (plain rfl) (emits_boolean b.hardwareSynced) <| .cons (plain rfl) (emits_quoted b.syncPolicy) <|
    .cons (plain rfl) (emits_fixed3 b.maxTimeDiffMs) <| .cons (plain rfl) (emits_boolean b.complete) <|
    .cons (plain rfl) (emits_map (fun e => (jsonFrameFields_emits e.2).braces) b.frames.entries) <|
    .singleton (plain rfl) (emits_map (fun e => emits_decimal e.2.toNat) b.dropCounters.entries)
  exact hmembers.braces

/-! ## Health -/

def groupMembers (b : BundleStats) : List (Option (String × Json)) :=
  [member "topic" (str b.topic), member "bundle_seq" (natural b.bundleSeq.toNat),
    member "complete_bundle_count" (natural b.completeBundleCount.toNat),
    member "incomplete_retry_count" (natural b.incompleteRetryCount.toNat),
    member "dropped_master_count" (natural b.droppedMasterCount.toNat),
    member "publish_rate_hz" (doubleValue b.publishRateHz), member "last_skew_ms" (doubleValue b.lastSkewMs),
    member "skew_p50_ms" (doubleValue b.skewP50Ms), member "skew_p95_ms" (doubleValue b.skewP95Ms),
    member "skew_max_ms" (doubleValue b.skewMaxMs)]

theorem bundleGroupJson_emits (b : BundleStats) : Emits (bundleGroupJson b) (object (groupMembers b)) := by
  have hmembers : EmitsMembers _ (groupMembers b) :=
    .cons (plain rfl) (emits_quoted b.topic) <| .cons (plain rfl) (emits_decimal b.bundleSeq.toNat) <|
    .cons (plain rfl) (emits_decimal b.completeBundleCount.toNat) <|
    .cons (plain rfl) (emits_decimal b.incompleteRetryCount.toNat) <|
    .cons (plain rfl) (emits_decimal b.droppedMasterCount.toNat) <|
    .cons (plain rfl) (emits_fixed3 b.publishRateHz) <| .cons (plain rfl) (emits_fixed3 b.lastSkewMs) <|
    .cons (plain rfl) (emits_fixed3 b.skewP50Ms) <| .cons (plain rfl) (emits_fixed3 b.skewP95Ms) <|
    .singleton (plain rfl) (emits_fixed3 b.skewMaxMs)
  exact hmembers.braces

def captureMembers (c : CameraCaptureStats) : List (Option (String × Json)) :=
  [member "queue_depth" (natural c.queueDepth.toNat), member "queue_drop_count" (natural c.queueDropCount.toNat),
    member "queue_drop_delta" (natural c.queueDropDelta.toNat),
    member "callback_enqueue_us_p95" (doubleValue c.callbackEnqueueUsP95),
    member "callback_enqueue_us_max" (doubleValue c.callbackEnqueueUsMax),
    member "queue_wait_us_p95" (doubleValue c.queueWaitUsP95),
    member "queue_wait_us_max" (doubleValue c.queueWaitUsMax),
    member "frame_process_us_p95" (doubleValue c.frameProcessUsP95),
    member "frame_process_us_max" (doubleValue c.frameProcessUsMax)]

theorem captureJson_emits (c : CameraCaptureStats) : Emits (captureJson c) (object (captureMembers c)) := by
  have hmembers : EmitsMembers _ (captureMembers c) :=
    .cons (plain rfl) (emits_decimal c.queueDepth.toNat) <|
    .cons (plain rfl) (emits_decimal c.queueDropCount.toNat) <|
    .cons (plain rfl) (emits_decimal c.queueDropDelta.toNat) <|
    .cons (plain rfl) (emits_fixed3 c.callbackEnqueueUsP95) <|
    .cons (plain rfl) (emits_fixed3 c.callbackEnqueueUsMax) <|
    .cons (plain rfl) (emits_fixed3 c.queueWaitUsP95) <| .cons (plain rfl) (emits_fixed3 c.queueWaitUsMax) <|
    .cons (plain rfl) (emits_fixed3 c.frameProcessUsP95) <|
    .singleton (plain rfl) (emits_fixed3 c.frameProcessUsMax)
  exact hmembers.braces

def reconnectMembers (r : CameraReconnectStats) : List (Option (String × Json)) :=
  [member "attempt_count" (natural r.attemptCount.toNat), member "success_count" (natural r.successCount.toNat),
    member "disconnect_count" (natural r.disconnectCount.toNat),
    member "consecutive_failures" (natural r.consecutiveFailures.toNat),
    member "exhausted" (some (.bool r.exhausted)),
    member "last_disconnect_time_ns" (natural r.lastDisconnectTimeNs.toNat),
    member "last_reconnect_time_ns" (natural r.lastReconnectTimeNs.toNat), member "last_error" (str r.lastError)]

theorem reconnectJson_emits (r : CameraReconnectStats) : Emits (reconnectJson r) (object (reconnectMembers r)) := by
  have hmembers : EmitsMembers _ (reconnectMembers r) :=
    .cons (plain rfl) (emits_decimal r.attemptCount.toNat) <|
    .cons (plain rfl) (emits_decimal r.successCount.toNat) <|
    .cons (plain rfl) (emits_decimal r.disconnectCount.toNat) <|
    .cons (plain rfl) (emits_decimal r.consecutiveFailures.toNat) <|
    .cons (plain rfl) (emits_boolean r.exhausted) <|
    .cons (plain rfl) (emits_decimal r.lastDisconnectTimeNs.toNat) <|
    .cons (plain rfl) (emits_decimal r.lastReconnectTimeNs.toNat) <|
    .singleton (plain rfl) (emits_quoted r.lastError)
  exact hmembers.braces

def dropsMembers (s : StreamStats) : List (Option (String × Json)) :=
  [member "frame_number_gap" (natural s.frameNumberGapDropCount.toNat),
    member "internal_queue" (natural s.internalQueueDropCount.toNat),
    member "recorder" (natural s.recorderDropCount.toNat),
    member "total" (natural (s.frameNumberGapDropCount + s.internalQueueDropCount + s.recorderDropCount).toNat),
    member "frame_number_gap_delta" (natural s.frameNumberGapDropDelta.toNat),
    member "internal_queue_delta" (natural s.internalQueueDropDelta.toNat),
    member "recorder_delta" (natural s.recorderDropDelta.toNat),
    member "shared_memory_write_error_delta" (natural s.sharedMemoryWriteErrorDelta.toNat)]

theorem dropsJson_emits (s : StreamStats) : Emits (dropsJson s) (object (dropsMembers s)) := by
  have hmembers : EmitsMembers _ (dropsMembers s) :=
    .cons (plain rfl) (emits_decimal s.frameNumberGapDropCount.toNat) <|
    .cons (plain rfl) (emits_decimal s.internalQueueDropCount.toNat) <|
    .cons (plain rfl) (emits_decimal s.recorderDropCount.toNat) <|
    .cons (plain rfl) (emits_decimal _) <|
    .cons (plain rfl) (emits_decimal s.frameNumberGapDropDelta.toNat) <|
    .cons (plain rfl) (emits_decimal s.internalQueueDropDelta.toNat) <|
    .cons (plain rfl) (emits_decimal s.recorderDropDelta.toNat) <|
    .singleton (plain rfl) (emits_decimal s.sharedMemoryWriteErrorDelta.toNat)
  exact hmembers.braces

/-- Members that come after others. -/
def EmitsRest (bytes : Bytes) (ms : List (Option (String × Json))) : Prop :=
  ∀ (a : Bytes) (xs : List (Option (String × Json))), EmitsMembers a xs → EmitsMembers (a ++ bytes) (xs ++ ms)

theorem EmitsRest.nil : EmitsRest [] [] := by
  intro a xs h
  rwa [List.append_nil, List.append_nil]

theorem EmitsMembers.rest {bytes : Bytes} {ms : List (Option (String × Json))} (h : EmitsMembers bytes ms) :
    EmitsRest (comma ++ bytes) ms := fun _ _ ha => ha.append h

theorem EmitsRest.cons {bytes : Bytes} {pieces : List Bytes} {ms ms' : List (Option (String × Json))}
    (h : EmitsRest bytes ms) (h' : EmitsRest pieces.flatten ms') : EmitsRest (bytes :: pieces).flatten (ms ++ ms') := by
  intro a xs ha
  have hboth := h' _ _ (h a xs ha)
  rwa [List.append_assoc, List.append_assoc] at hboth

theorem EmitsRest.singleton {bytes : Bytes} {ms : List (Option (String × Json))} (h : EmitsRest bytes ms) :
    EmitsRest [bytes].flatten ms := by rwa [List.flatten_singleton]

theorem EmitsRest.flatMap {α : Type} {bytes : α → Bytes} {ms : α → List (Option (String × Json))} (xs : List α)
    (h : ∀ x ∈ xs, EmitsRest (bytes x) (ms x)) : EmitsRest (xs.map bytes).flatten (xs.flatMap ms) := by
  induction xs with
  | nil => exact EmitsRest.nil
  | cons x xs ih =>
    rw [List.map_cons, List.flatMap_cons]
    exact (h x List.mem_cons_self).cons (ih fun y hy => h y (List.mem_cons_of_mem x hy))

/-- A field before the members that are there or not. -/
theorem EmitsMembers.fieldRest {key : String} {value : Bytes} {v : Option Json} {pieces : List Bytes}
    {ms : List (Option (String × Json))} (hkey : Plain key) (h : Emits value v) (hrest : EmitsRest pieces.flatten ms) :
    EmitsMembers (Metadata.field key value :: pieces).flatten (member key v :: ms) := hrest _ _ (emits_field hkey h)

theorem emitsRest_foundField {α : Type} {key : String} {print : α → Bytes} {value : α → Option Json}
    (hkey : Plain key) (h : ∀ a, Emits (print a) (value a)) (o : Option α) :
    EmitsRest (foundField key print o) (optionalMember key value o) := by
  cases o with
  | none => exact EmitsRest.nil
  | some a => exact (emits_field hkey (h a)).rest

def streamMembers (h : HealthSnapshot) (camera : Bytes) (suffix : String) : List (Option (String × Json)) :=
  match h.streamStats.find (streamKey camera suffix) with
  | none => []
  | some s =>
    [member ("status_" ++ suffix) (str ((h.streamStatus.find (streamKey camera suffix)).getD (lit "unknown"))),
      member ("fps_" ++ suffix) (doubleValue s.fpsEstimate),
      member ("fps_window_" ++ suffix) (doubleValue s.fpsWindowHz),
      member ("drop_count_" ++ suffix) (natural s.frameNumberGapDropCount.toNat),
      member ("drops_" ++ suffix) (object (dropsMembers s)),
      member ("frame_count_" ++ suffix) (natural s.frameCount.toNat),
      member ("last_frame_age_ms_" ++ suffix) (doubleValue (lastFrameAgeMs h.hostTimeNs s.lastFrameTimeNs))]

theorem plain_suffix : ∀ suffix ∈ suffixes, Plain suffix := by
  intro suffix h
  simp only [suffixes, List.mem_cons, List.not_mem_nil, or_false] at h
  rcases h with rfl | rfl | rfl | rfl
  · exact plain rfl
  · exact plain rfl
  · exact plain rfl
  · exact plain rfl

theorem streamFields_emits (h : HealthSnapshot) (camera : Bytes) {suffix : String} (hsuffix : suffix ∈ suffixes) :
    EmitsRest (streamFields h camera suffix) (streamMembers h camera suffix) := by
  have hkey : ∀ name : String, Plain name → Plain (name ++ suffix) := fun _ h => h.append (plain_suffix suffix hsuffix)
  rw [streamFields, streamMembers]
  cases h.streamStats.find (streamKey camera suffix) with
  | none => exact EmitsRest.nil
  | some s =>
    exact (EmitsMembers.cons (hkey "status_" (plain rfl)) (emits_quoted _) <|
      .cons (hkey "fps_" (plain rfl)) (emits_fixed3 s.fpsEstimate) <|
      .cons (hkey "fps_window_" (plain rfl)) (emits_fixed3 s.fpsWindowHz) <|
      .cons (hkey "drop_count_" (plain rfl)) (emits_decimal s.frameNumberGapDropCount.toNat) <|
      .cons (hkey "drops_" (plain rfl)) (dropsJson_emits s) <|
      .cons (hkey "frame_count_" (plain rfl)) (emits_decimal s.frameCount.toNat) <|
      .singleton (hkey "last_frame_age_ms_" (plain rfl)) (emits_fixed3 _)).rest

def cameraMembers (h : HealthSnapshot) (camera : Bytes) (connected : Bool) : List (Option (String × Json)) :=
  [member "serial" (str (orEmpty h.cameraSerial camera)), member "connected" (some (.bool connected)),
    member "firmware_version" (str (orEmpty h.cameraFirmwareVersion camera)),
    member "recommended_firmware_version" (str (orEmpty h.cameraRecommendedFirmwareVersion camera)),
    member "physical_port" (str (orEmpty h.cameraPhysicalPort camera)),
    member "product_id" (str (orEmpty h.cameraProductId camera)),
    member "usb_type" (str (orEmpty h.cameraUsbType camera))] ++
  (optionalMember "capture" (fun c => object (captureMembers c)) (h.cameraCaptureStats.find camera) ++
  (optionalMember "reconnect" (fun r => object (reconnectMembers r)) (h.cameraReconnectStats.find camera) ++
  suffixes.flatMap (streamMembers h camera)))

theorem cameraJson_emits (h : HealthSnapshot) (camera : Bytes) (connected : Bool) :
    Emits (cameraJson h camera connected) (object (cameraMembers h camera connected)) := by
  have hcapture : EmitsRest (foundField "capture" captureJson _) _ :=
    emitsRest_foundField (plain rfl) captureJson_emits (h.cameraCaptureStats.find camera)
  have hreconnect : EmitsRest (foundField "reconnect" reconnectJson _) _ :=
    emitsRest_foundField (plain rfl) reconnectJson_emits (h.cameraReconnectStats.find camera)
  have hstreams := EmitsRest.flatMap suffixes fun suffix hsuffix => streamFields_emits h camera hsuffix
  have hmembers : EmitsMembers _ (cameraMembers h camera connected) :=
    .cons (plain rfl) (emits_quoted (orEmpty h.cameraSerial camera)) <|
    .cons (plain rfl) (emits_boolean connected) <|
    .cons (plain rfl) (emits_quoted (orEmpty h.cameraFirmwareVersion camera)) <|
    .cons (plain rfl) (emits_quoted (orEmpty h.cameraRecommendedFirmwareVersion camera)) <|
    .cons (plain rfl) (emits_quoted (orEmpty h.cameraPhysicalPort camera)) <|
    .cons (plain rfl) (emits_quoted (orEmpty h.cameraProductId camera)) <|
    .fieldRest (plain rfl) (emits_quoted (orEmpty h.cameraUsbType camera))
      (hcapture.cons (hreconnect.cons hstreams.singleton))
  exact hmembers.braces

theorem emits_items (s : Bytes) (ss : List Bytes) : Closed (separated ((s :: ss).map quoted)) ∧
    JsonText.Items (Utf8.decodeReplace (separated ((s :: ss).map quoted))) ((s :: ss).map str) := by
  induction ss generalizing s with
  | nil => exact ⟨closed_quoted s, .one (emits_quoted s).denotes⟩
  | cons s' ss ih =>
    obtain ⟨hclosed, hitems⟩ := ih s'
    have hseparated : separated ((s :: s' :: ss).map quoted) =
        quoted s ++ (comma ++ separated ((s' :: ss).map quoted)) := rfl
    rw [hseparated]
    refine ⟨(closed_quoted s).append ((closed_lit (by decide)).append hclosed), ?_⟩
    rw [Utf8.decodeReplace_append (closed_quoted s), comma, decodeReplace_lit (by decide)]
    exact .cons (emits_quoted s).denotes hitems

def stringsValue (ss : List Bytes) : Option Json := (collect [] (ss.map str)).map .arr

theorem emits_strings (ss : List Bytes) : Emits (brackets (separated (ss.map quoted))) (stringsValue ss) := by
  cases ss with
  | nil => exact ⟨by decide, JsonText.denotes_emptyArray⟩
  | cons s ss =>
    obtain ⟨hclosed, hitems⟩ := emits_items s ss
    refine ⟨(closed_lit (by decide)).append (hclosed.append (closed_lit (by decide))), ?_⟩
    rw [brackets, decodeReplace_lit (by decide), Utf8.decodeReplace_append hclosed, decodeReplace_eq_lit (by decide)]
    exact Denotes.array hitems

def realsenseMembers (h : HealthSnapshot) : List (Option (String × Json)) :=
  [member "sdk_version" (str h.realsenseSdkVersion), member "backend" (str h.realsenseBackend)]

def bundleStatsMembers (h : HealthSnapshot) : List (Option (String × Json)) :=
  [member "bundle_seq" (natural h.bundleSeq.toNat),
    member "complete_bundle_count" (natural h.completeBundleCount.toNat),
    member "incomplete_bundle_count" (natural h.incompleteBundleCount.toNat),
    member "max_time_diff_ms" (doubleValue h.maxTimeDiffMs)]

def sharedMemoryMembers (h : HealthSnapshot) : List (Option (String × Json)) :=
  [member "name" (str h.shmName), member "size_bytes" (natural h.shmSizeBytes.toNat),
    member "write_errors" (natural (writeErrors h).toNat)]

def metadataMembers (h : HealthSnapshot) : List (Option (String × Json)) :=
  [member "publish_count" (natural h.metadataPublishCount.toNat),
    member "publish_errors" (natural h.metadataPublishErrors.toNat)]

def recorderMembers (h : HealthSnapshot) : List (Option (String × Json)) :=
  [member "enabled" (some (.bool h.recorderEnabled)), member "queue_depth" (natural h.recorderQueueDepth.toNat),
    member "dropped_by_queue" (natural h.recorderDroppedByQueue.toNat)]

def healthMembers (h : HealthSnapshot) : List (Option (String × Json)) :=
  [member "schema" (some (.str "camera_server.health.v1")), member "host_time_ns" (natural h.hostTimeNs.toNat),
    member "uptime_sec" (doubleValue h.uptimeSec), member "mode" (str h.mode), member "status" (str h.status),
    member "realsense" (object (realsenseMembers h)), member "status_reasons" (stringsValue h.statusReasons),
    member "bundle" (object (bundleStatsMembers h)),
    member "bundle_groups" (entriesValue (fun e => object (groupMembers e.2)) h.bundleGroups),
    member "cameras" (entriesValue (fun e => object (cameraMembers h e.1 e.2)) h.cameraConnected),
    member "shared_memory" (object (sharedMemoryMembers h)), member "metadata" (object (metadataMembers h)),
    member "recorder" (object (recorderMembers h))]

def healthValue (h : HealthSnapshot) : Option Json := object (healthMembers h)

theorem healthToJson_emits (h : HealthSnapshot) : Emits (healthToJson h) (healthValue h) := by
  have hrealsense : EmitsMembers _ (realsenseMembers h) :=
    .cons (plain rfl) (emits_quoted h.realsenseSdkVersion) <|
    .singleton (plain rfl) (emits_quoted h.realsenseBackend)
  have hbundle : EmitsMembers _ (bundleStatsMembers h) :=
    .cons (plain rfl) (emits_decimal h.bundleSeq.toNat) <|
    .cons (plain rfl) (emits_decimal h.completeBundleCount.toNat) <|
    .cons (plain rfl) (emits_decimal h.incompleteBundleCount.toNat) <|
    .singleton (plain rfl) (emits_fixed3 h.maxTimeDiffMs)
  have hshared : EmitsMembers _ (sharedMemoryMembers h) :=
    .cons (plain rfl) (emits_quoted h.shmName) <| .cons (plain rfl) (emits_decimal h.shmSizeBytes.toNat) <|
    .singleton (plain rfl) (emits_decimal (writeErrors h).toNat)
  have hmetadata : EmitsMembers _ (metadataMembers h) :=
    .cons (plain rfl) (emits_decimal h.metadataPublishCount.toNat) <|
    .singleton (plain rfl) (emits_decimal h.metadataPublishErrors.toNat)
  have hrecorder : EmitsMembers _ (recorderMembers h) :=
    .cons (plain rfl) (emits_boolean h.recorderEnabled) <|
    .cons (plain rfl) (emits_decimal h.recorderQueueDepth.toNat) <|
    .singleton (plain rfl) (emits_decimal h.recorderDroppedByQueue.toNat)
  have hmembers : EmitsMembers _ (healthMembers h) :=
    .cons (plain rfl) (emits_literal "\"camera_server.health.v1\"" _ (by decide) (plain rfl)) <|
    .cons (plain rfl) (emits_decimal h.hostTimeNs.toNat) <| .cons (plain rfl) (emits_fixed3 h.uptimeSec) <|
    .cons (plain rfl) (emits_quoted h.mode) <| .cons (plain rfl) (emits_quoted h.status) <|
    .cons (plain rfl) hrealsense.braces <| .cons (plain rfl) (emits_strings h.statusReasons) <|
    .cons (plain rfl) hbundle.braces <|
    .cons (plain rfl) (emits_map (fun e => bundleGroupJson_emits e.2) h.bundleGroups.entries) <|
    .cons (plain rfl) (emits_map (fun e => cameraJson_emits h e.1 e.2) h.cameraConnected.entries) <|
    .cons (plain rfl) hshared.braces <| .cons (plain rfl) hmetadata.braces <|
    .singleton (plain rfl) hrecorder.braces
  exact hmembers.braces

end CameraServer.Metadata
