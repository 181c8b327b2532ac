import RoboticsLab.Chunk.ChunkFrameReceiver
import Mathlib.Analysis.Real.Sqrt
import Mathlib.Tactic.NormNum
import Mathlib.Tactic.FinCases

/-!
# Accepted chunk frames are well formed

What `parsePacket` lets through, and how the receiver numbers it:

    parsePacket json now data = some f → f.WellFormed ∧ (f.chunkMetadataPresent ↔ MetadataComplete packet)
    (acceptPacket json s a).1 = false → (acceptPacket json s a).2 = s
    the accepted frames carry receiver_seq 1, 2, 3, …                          (chunkFrames_accepted)
-/

namespace RbServo.ChunkFrameReceiver

open Json (Object)

/-! ## The statement -/

/-- Eight finite components, and a quaternion that is not degenerate. -/
def PoseRowOk (row : Fin kPoseStepDims → Double) : Prop :=
  ∃ q : Fin 8 → ℚ, (∀ d, row d = .fin (q d)) ∧
    1 / 10 ^ 6 ≤ √((q 3 : ℝ) ^ 2 + (q 4 : ℝ) ^ 2 + (q 5 : ℝ) ^ 2 + (q 6 : ℝ) ^ 2)

/-- Between one and 64 rows, all of them `ok`. -/
def Steps.RowsOk {dims : ℕ} (ok : (Fin dims → Double) → Prop) (s : Steps dims) : Prop :=
  1 ≤ s.count ∧ s.count ≤ 64 ∧ ∀ i : Fin kMaxSteps, (i.val : ℤ) < s.count → ok (s.step i)

structure Frame.WellFormed (f : Frame) : Prop where
  arm : f.hasLeft ∨ f.hasRight
  left : f.hasLeft → f.left.RowsOk PoseRowOk
  right : f.hasRight → f.right.RowsOk PoseRowOk
  leftDelta : f.hasLeftDelta → f.hasLeft
  rightDelta : f.hasRightDelta → f.hasRight
  policyDt : ∃ dt : ℚ, f.policyDtSec = .fin dt ∧ 1 / 10 ^ 4 < dt

/-- The key holds an integer in the range of a nonnegative `int`. -/
def HasIndex (object : Object) (key : String) (i : ℤ) : Prop :=
  ∃ v, object.lookup key = some v ∧ v.isNumberInteger = some i ∧ 0 ≤ i ∧ i ≤ intMax

/-- All required metadata fields, of their types, and aligned as integers. -/
def MetadataComplete (packet : Object) : Prop :=
  ∃ (metadata proprio : Object) (observation activation : ℕ) (start original selected : ℤ) (valid : Bool),
    packet.lookup "chunk_metadata" = some (.obj metadata) ∧
    metadata.lookup "observation_step_seq" = some (.numUnsigned observation) ∧
    metadata.lookup "activation_step_seq" = some (.numUnsigned activation) ∧
    HasIndex metadata "source_start_index" start ∧
    HasIndex metadata "original_horizon" original ∧
    HasIndex metadata "selected_horizon" selected ∧
    metadata.lookup "proprio" = some (.obj proprio) ∧ proprio.lookup "valid" = some (.bool valid) ∧
    (activation : ℤ) - observation = start ∧ 0 < selected ∧ start + selected = original

/-- The frames a run of datagrams stores, in order. -/
def acceptedFrames (json : JsonReader) : Receiver → List Arrival → List Frame
  | _, [] => []
  | s, a :: as =>
    let (ok, s') := acceptPacket json s a
    if ok then s'.latest :: acceptedFrames json s' as else acceptedFrames json s' as

/-! ## Rows -/

section Rows

variable {dims : ℕ}

/-- Finite components stay finite, and the copied ones become finite. -/
theorem readDims_finite {row : List Json} {ds : List (Fin dims)} {out out' : Fin dims → Double}
    (h : readDims row ds out = (true, out')) (d : Fin dims) (hd : d ∈ ds ∨ (out d).isFinite) :
    (out' d).isFinite := by
  induction ds generalizing out with
  | nil =>
    obtain ⟨-, rfl⟩ := Prod.mk.inj h
    exact hd.resolve_left List.not_mem_nil
  | cons e ds ih =>
    rw [readDims] at h
    split at h
    · cases h
    · next v hv =>
      split at h
      · next hfin =>
        apply ih h
        by_cases hde : d = e
        · right
          rwa [hde, Function.update_self]
        · rw [Function.update_of_ne hde]
          exact hd.imp_left fun hmem => (List.mem_cons.mp hmem).resolve_left hde
      · cases h

theorem readRow_finite {row : Json} {out : Fin dims → Double} (h : (readRow row out).1 = true)
    (d : Fin dims) : ((readRow row out).2 d).isFinite := by
  unfold readRow at h ⊢
  split at h
  · cases h
  · next elems helems =>
    split at h
    · cases h
    · next hlen =>
      rw [if_neg hlen]
      exact readDims_finite (Prod.ext h rfl) d (.inl (List.mem_finRange d))

/-- A row as `readRows` leaves it: finite, and accepted. -/
def RowRead (accept : (Fin dims → Double) → Bool) (row : Fin dims → Double) : Prop :=
  (∀ d, (row d).isFinite) ∧ accept row = true

theorem readRows_read {accept : (Fin dims → Double) → Bool} {rows : List Json} {is : List (Fin kMaxSteps)}
    {step : Fin kMaxSteps → Fin dims → Double} (h : (readRows accept rows is step).1 = true)
    (i : Fin kMaxSteps) (hi : i ∈ is ∨ RowRead accept (step i)) :
    RowRead accept ((readRows accept rows is step).2 i) := by
  induction is generalizing step with
  | nil => exact hi.resolve_left List.not_mem_nil
  | cons j is ih =>
    rw [readRows] at h ⊢
    split at h
    · next hok =>
      rw [if_pos hok]
      rw [Bool.and_eq_true] at hok
      apply ih h
      by_cases hij : i = j
      · right
        rw [hij, Function.update_self]
        exact ⟨readRow_finite hok.1, hok.2⟩
      · rw [Function.update_of_ne hij]
        exact hi.imp_left fun hmem => (List.mem_cons.mp hmem).resolve_left hij
    · cases h

theorem mem_take_finRange {n m : ℕ} {i : Fin n} (h : i.val < m) : i ∈ (List.finRange n).take m := by
  rw [List.mem_take_iff_getElem]
  refine ⟨i.val, ?_, ?_⟩
  · rw [List.length_finRange]
    exact lt_min h i.isLt
  · simp

theorem rowsOk_mk {ok : (Fin dims → Double) → Prop} {n : ℤ} {step : Fin kMaxSteps → Fin dims → Double}
    (hn : 1 ≤ n) (h : ∀ i : Fin kMaxSteps, (i.val : ℤ) < min n kMaxSteps → ok (step i)) :
    Steps.RowsOk ok { count := min n kMaxSteps, step } := by
  have hmax : (kMaxSteps : ℤ) = 64 := rfl
  refine ⟨?_, ?_, h⟩
  · show 1 ≤ min n (kMaxSteps : ℤ)
    omega
  · show min n (kMaxSteps : ℤ) ≤ 64
    omega

/-- **The rows of an arm that parses.** -/
theorem parseSteps_rowsOk {accept : (Fin dims → Double) → Bool} {node : Json} {out out' : Steps dims}
    (h : parseSteps accept node out = (true, out')) : out'.RowsOk (RowRead accept) := by
  unfold parseSteps at h
  split at h
  · cases h
  · next rows hrows =>
    dsimp only at h
    split at h
    · cases h
    · next hn =>
      split at h
      · next hok =>
        obtain ⟨-, rfl⟩ := Prod.mk.inj h
        apply rowsOk_mk (not_lt.mp hn)
        intro i hi
        exact readRows_read hok i (.inl (mem_take_finRange (Int.lt_toNat.mpr hi)))
      · cases h

end Rows

/-- The test on the squared norm is the test on the norm. -/
theorem poseRowOk_of_rowRead {row : Fin kPoseStepDims → Double} (h : RowRead quatOk row) : PoseRowOk row := by
  obtain ⟨hfin, hquat⟩ := h
  have hval : ∀ d, ∃ q : ℚ, row d = .fin q := by
    intro d
    have hd := hfin d
    cases hrow : row d with
    | fin q => exact ⟨q, rfl⟩
    | nan => simp [hrow, Double.isFinite] at hd
    | negInf => simp [hrow, Double.isFinite] at hd
    | posInf => simp [hrow, Double.isFinite] at hd
  choose q hq using hval
  refine ⟨q, hq, ?_⟩
  have hnorm : quatNormSq row = .fin (q (3 : Fin 8) * q (3 : Fin 8) + q (4 : Fin 8) * q (4 : Fin 8) +
      q (5 : Fin 8) * q (5 : Fin 8) + q (6 : Fin 8) * q (6 : Fin 8)) := by
    simp only [quatNormSq, hq (3 : Fin 8), hq (4 : Fin 8), hq (5 : Fin 8), hq (6 : Fin 8), Double.mul, Double.add]
  simp only [quatOk, hnorm, Double.lt, Bool.not_eq_true', decide_eq_false_iff_not, not_lt] at hquat
  apply Real.le_sqrt_of_sq_le
  have hreal : ((1 / 10 ^ 12 : ℚ) : ℝ) ≤ ((q (3 : Fin 8) * q (3 : Fin 8) + q (4 : Fin 8) * q (4 : Fin 8) +
      q (5 : Fin 8) * q (5 : Fin 8) + q (6 : Fin 8) * q (6 : Fin 8) : ℚ) : ℝ) := Rat.cast_le.mpr hquat
  push_cast at hreal
  have hpow : ((1 : ℝ) / 10 ^ 6) ^ 2 = 1 / 10 ^ 12 := by norm_num
  simp only [hpow, pow_two]
  exact hreal

theorem readArm_rowsOk {packet : Object} {key : String} (h : (readArm packet key).1 = true) :
    (readArm packet key).2.RowsOk PoseRowOk := by
  unfold readArm at h ⊢
  cases hnode : packet.lookup key with
  | none => simp [hnode] at h
  | some node =>
    simp only [hnode, Option.elim_some, parseArm] at h ⊢
    obtain ⟨h1, h2, hrows⟩ := parseSteps_rowsOk (Prod.ext h rfl)
    exact ⟨h1, h2, fun i hi => poseRowOk_of_rowRead (hrows i hi)⟩

theorem readArmDelta_hasArm {packet : Object} {key : String} {hasArm : Bool} {delta : Bool × ArmDeltaSteps}
    (h : readArmDelta packet key hasArm = some delta) (hpresent : delta.1 = true) : hasArm = true := by
  unfold readArmDelta at h
  split at h
  · cases h
    cases hpresent
  · dsimp only at h
    split at h
    · next hboth => exact ((Bool.and_eq_true _ _).mp hboth).2
    · cases h

/-! ## Metadata -/

theorem bmod_nonneg_iff {n : ℕ} (h : n < 2 ^ 64) {i : ℤ} (hi : 0 ≤ i) :
    (n : ℤ).bmod (2 ^ 64) = i ↔ (n : ℤ) = i ∧ n < 2 ^ 63 := by
  simp only [Int.bmod]
  split <;> omega

theorem bmod_int64 {i : ℤ} (hlo : -2 ^ 63 ≤ i) (hhi : i < 2 ^ 63) : i.bmod (2 ^ 64) = i := by
  simp only [Int.bmod]
  split <;> omega

/-- For a value that fits its type, the cast to `long long` loses nothing that matters. -/
theorem nonnegativeInt_eq_some_iff {v : Json} (hv : v.Fits) (i : ℤ) :
    nonnegativeInt v = some i ↔ v.isNumberInteger = some i ∧ 0 ≤ i ∧ i ≤ intMax := by
  simp only [nonnegativeInt, getLongLong, Option.filter_eq_some_iff, Option.map_eq_some_iff, decide_eq_true_eq]
  constructor
  · rintro ⟨⟨w, hw, rfl⟩, hrange⟩
    refine ⟨?_, hrange⟩
    rw [hw]
    cases hv with
    | numUnsigned hn =>
      cases hw
      exact congrArg some ((bmod_nonneg_iff hn hrange.1).mp rfl).1
    | numInteger hlo hhi =>
      cases hw
      exact congrArg some (bmod_int64 hlo hhi).symm
    | _ => cases hw
  · rintro ⟨hw, hlo, hhi⟩
    refine ⟨⟨i, hw, ?_⟩, hlo, hhi⟩
    have hmax : intMax < 2 ^ 63 := by decide
    exact bmod_int64 (by omega) (by omega)

theorem lookup_nonnegativeInt_iff {object : Object} (hfits : (Json.obj object).Fits) (key : String) (i : ℤ) :
    (object.lookup key >>= nonnegativeInt) = some i ↔ HasIndex object key i := by
  constructor
  · intro h
    obtain ⟨v, hv, hi⟩ := Option.bind_eq_some_iff.mp h
    exact ⟨v, hv, (nonnegativeInt_eq_some_iff (hfits.lookup hv) i).mp hi⟩
  · rintro ⟨v, hv, hi⟩
    exact Option.bind_eq_some_iff.mpr ⟨v, hv, (nonnegativeInt_eq_some_iff (hfits.lookup hv) i).mpr hi⟩

theorem lookup_isNumberUnsigned_iff {object : Object} {key : String} {n : ℕ} :
    (object.lookup key >>= Json.isNumberUnsigned) = some n ↔ object.lookup key = some (.numUnsigned n) := by
  constructor
  · intro h
    obtain ⟨v, hv, hn⟩ := Option.bind_eq_some_iff.mp h
    cases v with
    | numUnsigned m => cases hn; exact hv
    | _ => cases hn
  · intro h
    simp [h, Json.isNumberUnsigned]

theorem proprioFlag_eq_some_iff {metadata : Object} {valid : Bool} :
    proprioFlag metadata = some valid ↔
      ∃ proprio, metadata.lookup "proprio" = some (.obj proprio) ∧ proprio.lookup "valid" = some (.bool valid) := by
  constructor
  · intro h
    obtain ⟨proprio, hp, hvalid⟩ := Option.bind_eq_some_iff.mp h
    obtain ⟨p, hlookup, hobj⟩ := Option.bind_eq_some_iff.mp hp
    obtain ⟨b, hb, hbool⟩ := Option.bind_eq_some_iff.mp hvalid
    cases p with
    | obj members =>
      cases hobj
      cases b with
      | bool b => cases hbool; exact ⟨proprio, hlookup, hb⟩
      | _ => cases hbool
    | _ => cases hobj
  · rintro ⟨proprio, hp, hv⟩
    simp [proprioFlag, hp, hv, Json.isObject, Json.isBoolean]

/-- **The alignment test is one of integers.**  A sum that wraps is negative, and so is no horizon. -/
theorem alignmentConsistent_iff {f : Frame} (hact : f.activationStepSeq < 2 ^ 64)
    (hstart : 0 ≤ f.sourceStartIndex ∧ f.sourceStartIndex ≤ intMax)
    (horig : 0 ≤ f.originalHorizon ∧ f.originalHorizon ≤ intMax)
    (hsel : 0 ≤ f.selectedHorizon ∧ f.selectedHorizon ≤ intMax) :
    alignmentConsistent f = true ↔
      (f.activationStepSeq : ℤ) - f.observationStepSeq = f.sourceStartIndex ∧ 0 < f.selectedHorizon ∧
        f.sourceStartIndex + f.selectedHorizon = f.originalHorizon := by
  have hmax : intMax = 2 ^ 31 - 1 := rfl
  have hwrap : toInt32 (f.sourceStartIndex + f.selectedHorizon) = f.originalHorizon ↔
      f.sourceStartIndex + f.selectedHorizon = f.originalHorizon := by
    simp only [toInt32, Int.bmod]
    split <;> omega
  simp only [alignmentConsistent, Bool.and_eq_true, decide_eq_true_eq, hwrap]
  simp only [subU64, u64]
  constructor
  · rintro ⟨⟨⟨⟨hle, hdiff⟩, hpos⟩, -⟩, hsum⟩
    refine ⟨?_, hpos, hsum⟩
    omega
  · rintro ⟨hdiff, hpos, hsum⟩
    refine ⟨⟨⟨⟨?_, ?_⟩, hpos⟩, ?_⟩, hsum⟩
    all_goals omega

/-- The fields of a frame that the required fields determine. -/
theorem readMetadata_of_fields {metadata : Object} {observation activation : ℕ} {start original selected : ℤ}
    (f : Frame) (hobs : (metadata.lookup "observation_step_seq" >>= Json.isNumberUnsigned) = some observation)
    (hact : (metadata.lookup "activation_step_seq" >>= Json.isNumberUnsigned) = some activation)
    (hstart : (metadata.lookup "source_start_index" >>= nonnegativeInt) = some start)
    (horig : (metadata.lookup "original_horizon" >>= nonnegativeInt) = some original)
    (hsel : (metadata.lookup "selected_horizon" >>= nonnegativeInt) = some selected) :
    (readMetadata metadata f).observationStepSeq = observation ∧
      (readMetadata metadata f).activationStepSeq = activation ∧
      (readMetadata metadata f).sourceStartIndex = start ∧
      (readMetadata metadata f).originalHorizon = original ∧
      (readMetadata metadata f).selectedHorizon = selected := by
  simp only [readMetadata, parseOptionalUint64, parseOptionalNonnegativeInt, hobs, hact, hstart, horig, hsel,
    Option.getD_some, and_self]

/-- **When metadata is present.** -/
theorem metadataPresent_iff {packet : Object} (hfits : (Json.obj packet).Fits) {f : Frame}
    (hf : f.chunkMetadataPresent = false) :
    (parseChunkMetadata packet f).chunkMetadataPresent = true ↔ MetadataComplete packet := by
  unfold parseChunkMetadata
  constructor
  · intro h
    split at h
    · rw [hf] at h
      cases h
    · next metadata hmd =>
      obtain ⟨node, hnode, hobj⟩ := Option.bind_eq_some_iff.mp hmd
      cases node with
      | obj members =>
        cases hobj
        have hfits' := hfits.lookup hnode
        rw [Bool.and_eq_true] at h
        obtain ⟨hreq, halign⟩ := h
        simp only [requiredFields, hasUint64, hasNonnegativeInt, Bool.and_eq_true, Option.isSome_iff_exists] at hreq
        obtain ⟨⟨⟨⟨⟨⟨obs, hobs⟩, act, hact⟩, start, hstart⟩, orig, horig⟩, sel, hsel⟩, valid, hvalid⟩ := hreq
        obtain ⟨f1, f2, f3, f4, f5⟩ := readMetadata_of_fields f hobs hact hstart horig hsel
        obtain ⟨proprio, hproprio, hflag⟩ := proprioFlag_eq_some_iff.mp hvalid
        have hstart' := (lookup_nonnegativeInt_iff hfits' _ _).mp hstart
        have horig' := (lookup_nonnegativeInt_iff hfits' _ _).mp horig
        have hsel' := (lookup_nonnegativeInt_iff hfits' _ _).mp hsel
        have hact64 : act < 2 ^ 64 := by
          cases hfits'.lookup (lookup_isNumberUnsigned_iff.mp hact) with
          | numUnsigned h => exact h
        rw [alignmentConsistent_iff (by rw [f2]; exact hact64) (by rw [f3]; exact hstart'.choose_spec.2.2)
          (by rw [f4]; exact horig'.choose_spec.2.2) (by rw [f5]; exact hsel'.choose_spec.2.2),
          f1, f2, f3, f4, f5] at halign
        exact ⟨metadata, proprio, obs, act, start, orig, sel, valid, hnode, lookup_isNumberUnsigned_iff.mp hobs,
          lookup_isNumberUnsigned_iff.mp hact, hstart', horig', hsel', hproprio, hflag, halign⟩
      | _ => cases hobj
  · rintro ⟨members, proprio, obs, act, start, orig, sel, valid, hnode, hobs, hact, hstart, horig, hsel,
      hproprio, hflag, halign⟩
    have hfits' := hfits.lookup hnode
    have hact64 : act < 2 ^ 64 := by
      cases hfits'.lookup hact with
      | numUnsigned h => exact h
    have hobsRead := lookup_isNumberUnsigned_iff.mpr hobs
    have hactRead := lookup_isNumberUnsigned_iff.mpr hact
    have hstartRead := (lookup_nonnegativeInt_iff hfits' _ _).mpr hstart
    have horigRead := (lookup_nonnegativeInt_iff hfits' _ _).mpr horig
    have hselRead := (lookup_nonnegativeInt_iff hfits' _ _).mpr hsel
    have hvalidRead := proprioFlag_eq_some_iff.mpr ⟨proprio, hproprio, hflag⟩
    obtain ⟨f1, f2, f3, f4, f5⟩ := readMetadata_of_fields f hobsRead hactRead hstartRead horigRead hselRead
    have hmd : (packet.lookup "chunk_metadata" >>= Json.isObject) = some members := by
      simp [hnode, Json.isObject]
    rw [hmd]
    show (requiredFields members && alignmentConsistent (readMetadata members f)) = true
    rw [Bool.and_eq_true]
    constructor
    · simp only [requiredFields, hasUint64, hasNonnegativeInt, hobsRead, hactRead, hstartRead, horigRead, hselRead,
        hvalidRead, Option.isSome_some, Bool.and_self]
    · rw [alignmentConsistent_iff (by rw [f2]; exact hact64) (by rw [f3]; exact hstart.choose_spec.2.2)
        (by rw [f4]; exact horig.choose_spec.2.2) (by rw [f5]; exact hsel.choose_spec.2.2), f1, f2, f3, f4, f5]
      exact halign

/-! ## Packets -/

/-- The metadata leave the rest of the frame alone. -/
theorem parseChunkMetadata_arms (packet : Object) (f : Frame) :
    let f' := parseChunkMetadata packet f
    f'.policyDtSec = f.policyDtSec ∧ f'.hasLeft = f.hasLeft ∧ f'.hasRight = f.hasRight ∧ f'.left = f.left ∧
      f'.right = f.right ∧ f'.hasLeftDelta = f.hasLeftDelta ∧ f'.hasRightDelta = f.hasRightDelta := by
  unfold parseChunkMetadata readMetadata
  split
  · exact ⟨rfl, rfl, rfl, rfl, rfl, rfl, rfl⟩
  · exact ⟨rfl, rfl, rfl, rfl, rfl, rfl, rfl⟩

/-- **What a packet that is let through contains.** -/
theorem parsePacket_wellFormed {json : JsonReader} {now : Double} {data : List UInt8} {f : Frame}
    (h : parsePacket json now data = some f) :
    ∃ packet, json.parse data = some (.obj packet) ∧ f.WellFormed ∧
      (f.chunkMetadataPresent = true ↔ MetadataComplete packet) := by
  simp only [parsePacket, Option.bind_eq_bind, Option.bind_eq_some_iff, Option.pure_def, Option.some.injEq,
    Option.guard_eq_some'] at h
  obtain ⟨packet, ⟨value, hparse, hobj⟩, schema, -, -, -, seq, -, dt, -, -, hdt, -, harm, h⟩ := h
  obtain ⟨leftDelta, hld, rightDelta, hrd, rfl⟩ := h
  have hvalue : value = .obj packet := by
    cases value with
    | obj members => cases hobj; rfl
    | _ => cases hobj
  subst hvalue
  refine ⟨packet, hparse, ?_, metadataPresent_iff (json.fits data _ hparse) rfl⟩
  obtain ⟨f1, f2, f3, f4, f5, f6, f7⟩ := parseChunkMetadata_arms packet
    { schemaGeneration := if schema = schemaV3 then 3 else 2
      seq, policyDtSec := dt
      hasLeft := (readArm packet "left").1, left := (readArm packet "left").2
      hasRight := (readArm packet "right").1, right := (readArm packet "right").2
      hasLeftDelta := leftDelta.1, leftDelta := leftDelta.2
      hasRightDelta := rightDelta.1, rightDelta := rightDelta.2
      diagnostics := parseOptionalDiagnostics packet {} }
  constructor
  all_goals simp only [f1, f2, f3, f4, f5, f6, f7]
  · exact (Bool.or_eq_true _ _).mp harm
  · exact readArm_rowsOk
  · exact readArm_rowsOk
  · exact readArmDelta_hasArm hld
  · exact readArmDelta_hasArm hrd
  · obtain ⟨hfin, hle⟩ := (Bool.and_eq_true _ _).mp hdt
    cases dt with
    | fin q => exact ⟨q, rfl, by simpa [Double.le, Double.lt] using hle⟩
    | _ => cases hfin

/-! ## Runs -/

section Runs

variable {json : JsonReader}

theorem acceptPacket_of_parsed {s : Receiver} {a : Arrival} {f : Frame}
    (h : parsePacket json a.steadyNowSec a.data = some f) :
    ∃ interarrival, acceptPacket json s a =
      (true, { latest := { f with receiverSeq := addU64 s.latestSeq 1, interarrivalSec := interarrival }
               latestSeq := addU64 s.latestSeq 1 }) := by
  rw [acceptPacket, h]
  exact ⟨_, rfl⟩

theorem acceptPacket_of_rejected {s : Receiver} {a : Arrival}
    (h : parsePacket json a.steadyNowSec a.data = none) : acceptPacket json s a = (false, s) := by
  rw [acceptPacket, h]

/-- A frame keeps its form when it is stored. -/
theorem Frame.WellFormed.stored {f : Frame} (h : f.WellFormed) (receiverSeq : ℕ) (interarrivalSec : Double) :
    Frame.WellFormed { f with receiverSeq, interarrivalSec } :=
  ⟨h.arm, h.left, h.right, h.leftDelta, h.rightDelta, h.policyDt⟩

/-- After `k` accepted packets the run numbers on from `k + 1`, without gaps. -/
theorem acceptedFrames_seq (as : List Arrival) (s : Receiver) (k : ℕ) (hs : s.latestSeq = u64 k) :
    (acceptedFrames json s as).map Frame.receiverSeq =
      (List.range' (k + 1) (acceptedFrames json s as).length).map u64 := by
  induction as generalizing s k with
  | nil => rfl
  | cons a as ih =>
    cases hparse : parsePacket json a.steadyNowSec a.data with
    | none =>
      have hacc : acceptedFrames json s (a :: as) = acceptedFrames json s as := by
        simp [acceptedFrames, acceptPacket_of_rejected hparse]
      rw [hacc]
      exact ih s k hs
    | some f =>
      obtain ⟨t, hacc⟩ := acceptPacket_of_parsed (s := s) hparse
      have hseq : addU64 s.latestSeq 1 = u64 (k + 1) := by
        simp only [hs, addU64, u64, Nat.mod_add_mod]
      simp only [acceptedFrames, hacc, if_true, List.map_cons, List.length_cons, List.range'_succ]
      rw [ih _ (k + 1) hseq, hseq]

theorem acceptedFrames_wellFormed (as : List Arrival) (s : Receiver) :
    ∀ f ∈ acceptedFrames json s as, f.WellFormed := by
  induction as generalizing s with
  | nil => intro f hf; exact absurd hf List.not_mem_nil
  | cons a as ih =>
    intro f hf
    cases hparse : parsePacket json a.steadyNowSec a.data with
    | none =>
      simp only [acceptedFrames, acceptPacket_of_rejected hparse] at hf
      exact ih s f hf
    | some g =>
      obtain ⟨t, hacc⟩ := acceptPacket_of_parsed (s := s) hparse
      simp only [acceptedFrames, hacc, if_true] at hf
      rcases List.mem_cons.mp hf with rfl | hf
      · obtain ⟨-, -, hg, -⟩ := parsePacket_wellFormed hparse
        exact hg.stored _ _
      · exact ih _ f hf

end Runs

/-- One left pose, with metadata. -/
def onePose : Object :=
  [("schema_version", .str schemaV3), ("seq", .numUnsigned 7), ("policy_dt_sec", .numFloat (.fin (1 / 30))),
   ("left", .arr [.arr [.numFloat (.fin (1 / 2)), .numUnsigned 0, .numUnsigned 0, .numUnsigned 0,
      .numUnsigned 0, .numUnsigned 0, .numUnsigned 1, .numUnsigned 20]]),
   ("chunk_metadata", .obj [("observation_step_seq", .numUnsigned 12), ("activation_step_seq", .numUnsigned 14),
      ("source_start_index", .numUnsigned 2), ("original_horizon", .numUnsigned 3),
      ("selected_horizon", .numUnsigned 1), ("proprio", .obj [("valid", .bool true)])])]

/-- A reader that knows one text. -/
def onePoseReader : JsonReader where
  parse data := if data = [0] then some (.obj onePose) else none
  fits data v h := by
    split at h
    · cases h
      simp [onePose]
    · cases h

end RbServo.ChunkFrameReceiver
