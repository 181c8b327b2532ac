import RoboticsLab.Lib.Occurrences
import RoboticsLab.Servo.CommandParse
import Mathlib.Data.List.TakeWhile
import Mathlib.Order.Bounds.Basic

/-!
# `foldRbackResponses`: the queue fill in the acknowledgements

The control box answers a command with a text that may hold `RBACK[<n>]`, its queue occupancy.  The fold scans every
drained text for the mark, reads the digits after it into an int and, where a bracket closes them, books the value;
`Faithful` says that the telemetry is that of the list of the tokens.  The int has no bound on the digits it reads.

    Faithful earlier texts out (foldRbackResponses texts out) ↔
      ∀ text ∈ texts, ∀ run ∈ digitRuns text, decimal run < 2^31                      (fold_faithful_iff)
-/

namespace RbServo.Rbpodo

open Occurrences

abbrev Bytes := List UInt8

/-! ## The fold -/

structure RbpodoQueueAckTelemetry where
  observed : Bool := false
  fill : ℤ := -1
  fillMin : ℤ := -1
  fillMax : ℤ := -1
  sequence : UInt64 := 0
  parsedTotal : UInt64 := 0
  drainedTotal : UInt64 := 0
  malformedTotal : UInt64 := 0
  drainedThisSend : UInt64 := 0
  parsedThisSend : UInt64 := 0
deriving DecidableEq

/-- `"RBACK["`. -/
def kToken : Bytes := [82, 66, 65, 67, 75, 91]

/-- `"RBACK"`. -/
def kMention : Bytes := [82, 66, 65, 67, 75]

def isDigit (b : UInt8) : Bool := 48 ≤ b && b ≤ 57

/-- `value * 10 + (raw[cursor] - '0')`. -/
def addDigit (value : ℤ) (b : UInt8) : ℤ := toInt32 (toInt32 (value * 10) + (b.toNat - 48))

/-- The digits from the cursor on: their value, the cursor after them, and whether there was one. -/
def readDigits (raw : Bytes) (value : ℤ) (cursor : ℕ) (hasDigit : Bool) : ℤ × ℕ × Bool :=
  match raw with
  | [] => (value, cursor, hasDigit)
  | b :: raw => if isDigit b then readDigits raw (addDigit value b) (cursor + 1) true else (value, cursor, hasDigit)

/-- A token of this value. -/
def RbpodoQueueAckTelemetry.book (out : RbpodoQueueAckTelemetry) (value : ℤ) : RbpodoQueueAckTelemetry :=
  { out with
      observed := true
      fill := value
      fillMin := if out.fillMin < 0 then value else min out.fillMin value
      fillMax := if out.fillMax < 0 then value else max out.fillMax value
      sequence := out.sequence + 1
      parsedTotal := out.parsedTotal + 1
      parsedThisSend := out.parsedThisSend + 1 }

/-- The accumulated value of a digit string. -/
def accumulate (run : Bytes) : ℤ := run.foldl addDigit 0

theorem readDigits_eq (raw : Bytes) (value : ℤ) (cursor : ℕ) (hasDigit : Bool) :
    readDigits raw value cursor hasDigit = ((raw.takeWhile isDigit).foldl addDigit value,
      cursor + (raw.takeWhile isDigit).length, hasDigit || !(raw.takeWhile isDigit).isEmpty) := by
  induction raw generalizing value cursor hasDigit with
  | nil => simp [readDigits]
  | cons b raw ih =>
    unfold readDigits
    by_cases hb : isDigit b = true
    · rw [if_pos hb, ih, List.takeWhile_cons_of_pos hb]
      simp [Nat.add_comm, Nat.add_left_comm]
    · rw [if_neg hb, List.takeWhile_cons_of_neg hb]
      simp

/-- How far a scan still has to go. -/
def remaining (raw : Bytes) : Option ℕ → ℕ
  | none => 0
  | some pos => raw.length + 2 - min pos raw.length

theorem remaining_some (raw : Bytes) (pos : ℕ) : remaining raw (some pos) = raw.length + 2 - min pos raw.length := rfl

theorem remaining_findFrom_lt (raw : Bytes) {pos cursor : ℕ} (h : pos < cursor) :
    remaining raw (findFrom kToken raw cursor) < remaining raw (some pos) := by
  cases hnext : findFrom kToken raw cursor with
  | none =>
    rw [remaining_some]
    show 0 < raw.length + 2 - min pos raw.length
    omega
  | some next =>
    obtain ⟨hle, hlength, -, -⟩ := findFrom_some hnext
    rw [remaining_some, remaining_some]
    omega

theorem cursor_readDigits {raw : Bytes} {value value' : ℤ} {cursor cursor' : ℕ} {hasDigit hasDigit' : Bool}
    (h : readDigits raw value cursor hasDigit = (value', cursor', hasDigit')) : cursor ≤ cursor' := by
  rw [readDigits_eq] at h
  have hcursor : cursor + (raw.takeWhile isDigit).length = cursor' := congrArg (fun r => r.2.1) h
  omega

/-- The scan of one text from a mark on, with `parsed_any`. -/
def scan (raw : Bytes) (pos : Option ℕ) (out : RbpodoQueueAckTelemetry) (parsedAny : Bool) :
    RbpodoQueueAckTelemetry × Bool :=
  match pos with
  | none => (out, parsedAny)
  | some pos =>
    match _hread : readDigits (raw.drop (pos + kToken.length)) 0 (pos + kToken.length) false with
    | (value, cursor, hasDigit) =>
      if hasDigit && decide (raw[cursor]? = some 93) then scan raw (findFrom kToken raw cursor) (out.book value) true
      else scan raw (findFrom kToken raw (pos + kToken.length)) out parsedAny
termination_by remaining raw pos
decreasing_by
  · have hcursor := cursor_readDigits _hread
    have htoken : kToken.length = 6 := rfl
    exact remaining_findFrom_lt raw (by omega)
  · have htoken : kToken.length = 6 := rfl
    exact remaining_findFrom_lt raw (by omega)

/-- A text was drained. -/
def RbpodoQueueAckTelemetry.drain (out : RbpodoQueueAckTelemetry) : RbpodoQueueAckTelemetry :=
  { out with drainedTotal := out.drainedTotal + 1, drainedThisSend := out.drainedThisSend + 1 }

/-- A text that mentions the acknowledgement did not parse. -/
def RbpodoQueueAckTelemetry.reject (out : RbpodoQueueAckTelemetry) : RbpodoQueueAckTelemetry :=
  { out with malformedTotal := out.malformedTotal + 1 }

/-- One drained text. -/
def foldResponse (out : RbpodoQueueAckTelemetry) (raw : Bytes) : RbpodoQueueAckTelemetry :=
  let (scanned, parsedAny) := scan raw (findFrom kToken raw 0) out.drain false
  if !parsedAny && (findFrom kMention raw 0).isSome then scanned.reject else scanned

def foldRbackResponses (drained : List Bytes) (out : RbpodoQueueAckTelemetry) : RbpodoQueueAckTelemetry :=
  drained.foldl foldResponse out

/-! ## Tokens -/

/-- The digits after a mark. -/
def runAt (text : Bytes) : Option Bytes :=
  if kToken <+: text then some ((text.drop kToken.length).takeWhile isDigit) else none

/-- The digits of a token: there is one, and a bracket after the last. -/
def tokenAt (text : Bytes) : Option Bytes :=
  (runAt text).filter fun run => !run.isEmpty && decide (text[kToken.length + run.length]? = some 93)

/-- The digit runs after the marks of a text. -/
def digitRuns (text : Bytes) : List Bytes := hits runAt text

/-- The digits of the tokens of a text. -/
def tokenDigits (text : Bytes) : List Bytes := hits tokenAt text

def decimal (run : Bytes) : ℕ := run.foldl (fun v b => v * 10 + (b.toNat - 48)) 0

/-- The values of the tokens of a text. -/
def tokens (text : Bytes) : List ℕ := (tokenDigits text).map decimal

/-! ## What the scan meets -/

theorem runAt_of_mark {text : Bytes} (h : kToken <+: text) :
    runAt text = some ((text.drop kToken.length).takeWhile isDigit) := if_pos h

theorem tokenAt_of_no_mark {text : Bytes} (h : ¬ kToken <+: text) : tokenAt text = none := by
  rw [tokenAt, runAt, if_neg h, Option.filter_none]

/-- Between a mark and the byte after its digits there is no other mark. -/
theorem no_mark_inside {raw : Bytes} {pos i : ℕ} (h : kToken <+: raw.drop pos) (hlo : pos < i)
    (hhi : i < pos + kToken.length + ((raw.drop (pos + kToken.length)).takeWhile isDigit).length) :
    ¬ kToken <+: raw.drop i := by
  intro hmark
  have hR : raw[i]? = some 82 := getElem?_of_prefix_drop (i := 0) hmark (by decide)
  rcases lt_or_ge i (pos + kToken.length) with hin | hin
  · have hbyte := getElem?_of_prefix_drop (i := i - pos) h (by omega)
    rw [show pos + (i - pos) = i by omega, hR] at hbyte
    have hlt : i - pos < 6 := by
      have htoken : kToken.length = 6 := rfl
      omega
    have hpos : 0 < i - pos := by omega
    generalize i - pos = j at hbyte hlt hpos
    revert hbyte
    decide +revert
  · have hrun := List.takeWhile_prefix (l := raw.drop (pos + kToken.length)) isDigit
    have hbyte := getElem?_of_prefix_drop (i := i - (pos + kToken.length)) hrun (by omega)
    rw [show pos + kToken.length + (i - (pos + kToken.length)) = i by omega, hR] at hbyte
    have hdigit := List.mem_takeWhile_imp (List.mem_of_getElem? hbyte.symm)
    exact absurd hdigit (by decide)

/-- No mark is left. -/
theorem tokenDigits_of_findFrom_none {raw : Bytes} {pos : ℕ} (h : findFrom kToken raw pos = none) :
    tokenDigits (raw.drop pos) = [] :=
  hits_drop_eq_nil (by decide) fun i hi hle => tokenAt_of_no_mark (findFrom_none h i hi hle)

/-- The tokens from a position on are those from the next mark on. -/
theorem tokenDigits_of_findFrom_some {raw : Bytes} {pos next : ℕ} (h : findFrom kToken raw pos = some next) :
    tokenDigits (raw.drop pos) = tokenDigits (raw.drop next) := by
  obtain ⟨hle, -, -, hbefore⟩ := findFrom_some h
  exact hits_drop_skip hle fun i hi hlt => tokenAt_of_no_mark (hbefore i hi hlt)

/-- The tokens at a mark: its own, if it has one, and those after its digits, or after the mark alone. -/
theorem tokenDigits_at_mark {raw : Bytes} {pos : ℕ} (h : kToken <+: raw.drop pos) :
    let run := (raw.drop (pos + kToken.length)).takeWhile isDigit
    tokenDigits (raw.drop pos) =
      if run ≠ [] ∧ raw[pos + kToken.length + run.length]? = some 93 then
        run :: tokenDigits (raw.drop (pos + kToken.length + run.length))
      else tokenDigits (raw.drop (pos + kToken.length)) := by
  intro run
  have hrun : runAt (raw.drop pos) = some run := by
    rw [runAt_of_mark h, List.drop_drop]
  have htoken : tokenAt (raw.drop pos) =
      if run ≠ [] ∧ raw[pos + kToken.length + run.length]? = some 93 then some run else none := by
    rw [tokenAt, hrun, Option.filter_some, List.getElem?_drop, ← Nat.add_assoc]
    simp
  have hpos : pos < raw.length := by
    by_contra hend
    rw [List.drop_eq_nil_of_le (by omega), List.prefix_nil] at h
    exact absurd h (by decide)
  have hskip : ∀ q, pos < q → q ≤ pos + kToken.length + run.length →
      tokenDigits (raw.drop (pos + 1)) = tokenDigits (raw.drop q) := fun q hq hle =>
    hits_drop_skip hq fun i hi hlt => tokenAt_of_no_mark (no_mark_inside h hi (lt_of_lt_of_le hlt hle))
  have hmark : 0 < kToken.length := by decide
  by_cases hgood : run ≠ [] ∧ raw[pos + kToken.length + run.length]? = some 93
  · rw [if_pos hgood] at htoken ⊢
    rw [← hskip (pos + kToken.length + run.length) (by omega) le_rfl]
    exact hits_drop_of_some hpos htoken
  · rw [if_neg hgood] at htoken ⊢
    rw [← hskip (pos + kToken.length) (by omega) (by omega)]
    exact hits_drop_of_none htoken

/-- **The scan.**  It books the tokens from its position on, in their order, and reports whether there was one. -/
theorem scan_eq (raw : Bytes) (pos : ℕ) (out : RbpodoQueueAckTelemetry) (parsedAny : Bool) :
    scan raw (findFrom kToken raw pos) out parsedAny =
      ((tokenDigits (raw.drop pos)).foldl (fun o run => o.book (accumulate run)) out,
        parsedAny || !(tokenDigits (raw.drop pos)).isEmpty) := by
  induction hrem : remaining raw (findFrom kToken raw pos) using Nat.strong_induction_on
    generalizing pos out parsedAny with
  | _ n ih =>
    cases hnext : findFrom kToken raw pos with
    | none =>
      rw [scan, tokenDigits_of_findFrom_none hnext]
      simp
    | some next =>
      rw [hnext] at hrem
      have hmark := (findFrom_some hnext).2.2.1
      have hlength : 0 < kToken.length := by decide
      rw [tokenDigits_of_findFrom_some hnext, tokenDigits_at_mark hmark, scan, readDigits_eq, Bool.false_or]
      dsimp only
      set run := (raw.drop (next + kToken.length)).takeWhile isDigit
      by_cases hgood : run ≠ [] ∧ raw[next + kToken.length + run.length]? = some 93
      · rw [if_pos hgood, if_pos (by simp [hgood]), ih _ _ _ _ _ rfl]
        · simp [accumulate]
        · rw [← hrem]
          exact remaining_findFrom_lt raw (by omega)
      · rw [if_neg hgood, if_neg (by simpa using hgood), ih _ _ _ _ _ rfl]
        rw [← hrem]
        exact remaining_findFrom_lt raw (by omega)

/-! ## Values -/

/-- A value of an `int`. -/
def IsInt (i : ℤ) : Prop := -2 ^ 31 ≤ i ∧ i < 2 ^ 31

/-- No step of the accumulation leaves the ints. -/
def NoOverflow (run : Bytes) : Prop :=
  ∀ pre b, pre ++ [b] <+: run → IsInt (accumulate pre * 10) ∧ IsInt (accumulate pre * 10 + (b.toNat - 48))

theorem decimal_concat (run : Bytes) (b : UInt8) : decimal (run ++ [b]) = decimal run * 10 + (b.toNat - 48) :=
  List.foldl_concat ..

theorem accumulate_concat (run : Bytes) (b : UInt8) : accumulate (run ++ [b]) = addDigit (accumulate run) b :=
  List.foldl_concat ..

theorem decimal_le_of_prefix {pre run : Bytes} (h : pre <+: run) : decimal pre ≤ decimal run := by
  obtain ⟨post, rfl⟩ := h
  induction post using List.reverseRecOn with
  | nil => rw [List.append_nil]
  | append_singleton post b ih =>
    rw [← List.append_assoc, decimal_concat]
    omega

theorem digit_range {b : UInt8} (h : isDigit b = true) : 48 ≤ b.toNat ∧ b.toNat ≤ 57 := by
  obtain ⟨hlo, hhi⟩ := Bool.and_eq_true_iff.mp h
  exact ⟨UInt8.le_iff_toNat_le.mp (of_decide_eq_true hlo), UInt8.le_iff_toNat_le.mp (of_decide_eq_true hhi)⟩

/-- Below `2^31` the int holds the number that the digits write. -/
theorem accumulate_eq {run : Bytes} (hdigits : ∀ b ∈ run, isDigit b = true) (h : decimal run < 2 ^ 31) :
    accumulate run = decimal run := by
  induction run using List.reverseRecOn with
  | nil => rfl
  | append_singleton run b ih =>
    obtain ⟨hlo, hhi⟩ := digit_range (hdigits b (by simp))
    rw [decimal_concat] at h ⊢
    rw [accumulate_concat, ih (fun c hc => hdigits c (by simp [hc])) (by omega), addDigit,
      toInt32_of_range (i := (decimal run : ℤ) * 10) (by omega) (by omega), toInt32_of_range (by omega) (by omega)]
    omega

/-- **The accumulation.**  It stays in the ints exactly for the digits of a number below `2^31`. -/
theorem noOverflow_iff {run : Bytes} (hdigits : ∀ b ∈ run, isDigit b = true) :
    NoOverflow run ↔ decimal run < 2 ^ 31 := by
  constructor
  · intro h
    induction run using List.reverseRecOn with
    | nil => decide
    | append_singleton run b ih =>
      have hrun :=
        ih (fun c hc => hdigits c (by simp [hc])) fun pre c hpre => h pre c (hpre.trans (List.prefix_append ..))
      obtain ⟨-, -, hlast⟩ := h run b (List.prefix_refl _)
      obtain ⟨hlo, hhi⟩ := digit_range (hdigits b (by simp))
      rw [accumulate_eq (fun c hc => hdigits c (by simp [hc])) hrun] at hlast
      rw [decimal_concat]
      omega
  · intro h pre b hpre
    have hle := decimal_le_of_prefix hpre
    have hmem : ∀ c ∈ pre ++ [b], isDigit c = true := fun c hc => hdigits c (hpre.subset hc)
    obtain ⟨hlo, hhi⟩ := digit_range (hmem b (by simp))
    rw [decimal_concat] at hle
    rw [accumulate_eq (fun c hc => hmem c (by simp [hc])) (by omega)]
    unfold IsInt
    omega

theorem digits_of_mem_runs {text run : Bytes} (h : run ∈ digitRuns text) : ∀ b ∈ run, isDigit b = true := by
  obtain ⟨suffix, -, hrun⟩ := List.mem_filterMap.mp h
  unfold runAt at hrun
  split at hrun
  · obtain rfl := Option.some.inj hrun
    exact fun b hb => List.mem_takeWhile_imp hb
  · cases hrun

/-- The digits of a token follow a mark. -/
theorem mem_runs_of_mem_tokenDigits {text run : Bytes} (h : run ∈ tokenDigits text) : run ∈ digitRuns text := by
  obtain ⟨suffix, hmem, htoken⟩ := List.mem_filterMap.mp h
  exact List.mem_filterMap.mpr ⟨suffix, hmem, (Option.filter_eq_some_iff.mp htoken).1⟩

/-! ## Books -/

/-- Values as ints. -/
def ints (values : List ℕ) : Set ℤ := {z | ∃ v ∈ values, (v : ℤ) = z}

theorem ints_concat (values : List ℕ) (v : ℕ) : ints (values ++ [v]) = insert (v : ℤ) (ints values) := by
  ext z
  simp [ints, or_comm, eq_comm]

/-- `fill_min` and `fill_max` after these values. -/
def RbpodoQueueAckTelemetry.Extrema (out : RbpodoQueueAckTelemetry) (values : List ℕ) : Prop :=
  if values = [] then out.fillMin < 0 ∧ out.fillMax < 0
  else IsLeast (ints values) out.fillMin ∧ IsGreatest (ints values) out.fillMax

theorem RbpodoQueueAckTelemetry.Extrema.book {out : RbpodoQueueAckTelemetry} {values : List ℕ} (h : out.Extrema values)
    (v : ℕ) : (out.book v).Extrema (values ++ [v]) := by
  unfold RbpodoQueueAckTelemetry.Extrema at h ⊢
  rw [if_neg (by simp), ints_concat]
  by_cases hnil : values = []
  · rw [if_pos hnil] at h
    have hints : insert (v : ℤ) (ints values) = {(v : ℤ)} := by
      simp [hnil, ints]
    rw [hints, RbpodoQueueAckTelemetry.book, if_pos h.1, if_pos h.2]
    exact ⟨isLeast_singleton, isGreatest_singleton⟩
  · rw [if_neg hnil] at h
    obtain ⟨hleast, hgreatest⟩ := h
    obtain ⟨m, -, hm⟩ := hleast.1
    obtain ⟨M, -, hM⟩ := hgreatest.1
    rw [RbpodoQueueAckTelemetry.book, if_neg (by omega), if_neg (by omega), min_comm, max_comm]
    exact ⟨hleast.insert _, hgreatest.insert _⟩

/-- `out'` is `out` after these values, with so many malformed texts. -/
structure Books (values : List ℕ) (malformed : ℕ) (out out' : RbpodoQueueAckTelemetry) : Prop where
  sequence : out'.sequence = out.sequence + .ofNat values.length
  parsedTotal : out'.parsedTotal = out.parsedTotal + .ofNat values.length
  parsedThisSend : out'.parsedThisSend = out.parsedThisSend + .ofNat values.length
  fill : out'.fill = (values.getLast?.map fun v => (v : ℤ)).getD out.fill
  extrema : ∀ earlier, out.Extrema earlier → out'.Extrema (earlier ++ values)
  malformedTotal : out'.malformedTotal = out.malformedTotal + .ofNat malformed

theorem Books.refl (out : RbpodoQueueAckTelemetry) : Books [] 0 out out where
  sequence := by simp
  parsedTotal := by simp
  parsedThisSend := by simp
  fill := rfl
  extrema earlier h := by rwa [List.append_nil]
  malformedTotal := by simp

theorem Books.trans {values values' : List ℕ} {malformed malformed' : ℕ} {out out' out'' : RbpodoQueueAckTelemetry}
    (h : Books values malformed out out') (h' : Books values' malformed' out' out'') :
    Books (values ++ values') (malformed + malformed') out out'' where
  sequence := by rw [h'.sequence, h.sequence, List.length_append, UInt64.ofNat_add, UInt64.add_assoc]
  parsedTotal := by rw [h'.parsedTotal, h.parsedTotal, List.length_append, UInt64.ofNat_add, UInt64.add_assoc]
  parsedThisSend := by rw [h'.parsedThisSend, h.parsedThisSend, List.length_append, UInt64.ofNat_add, UInt64.add_assoc]
  fill := by
    rw [h'.fill, h.fill, List.getLast?_append]
    cases values'.getLast? <;> rfl
  extrema earlier hearlier := by
    rw [← List.append_assoc]
    exact h'.extrema _ (h.extrema _ hearlier)
  malformedTotal := by rw [h'.malformedTotal, h.malformedTotal, UInt64.ofNat_add, UInt64.add_assoc]

theorem Books.book (out : RbpodoQueueAckTelemetry) (v : ℕ) : Books [v] 0 out (out.book v) where
  sequence := rfl
  parsedTotal := rfl
  parsedThisSend := rfl
  fill := rfl
  extrema _ h := h.book v
  malformedTotal := by simp [RbpodoQueueAckTelemetry.book]

theorem Books.drain (out : RbpodoQueueAckTelemetry) : Books [] 0 out out.drain :=
  let h := Books.refl out
  ⟨h.sequence, h.parsedTotal, h.parsedThisSend, h.fill, h.extrema, h.malformedTotal⟩

theorem Books.reject (out : RbpodoQueueAckTelemetry) : Books [] 1 out out.reject :=
  let h := Books.refl out
  ⟨h.sequence, h.parsedTotal, h.parsedThisSend, h.fill, h.extrema, rfl⟩

/-- The tokens of one text. -/
theorem books_foldl {runs : List Bytes} (h : ∀ run ∈ runs, accumulate run = decimal run)
    (out : RbpodoQueueAckTelemetry) :
    Books (runs.map decimal) 0 out (runs.foldl (fun o run => o.book (accumulate run)) out) := by
  induction runs generalizing out with
  | nil => exact .refl out
  | cons run runs ih =>
    have hrest := ih (fun r hr => h r (List.mem_cons_of_mem _ hr)) (out.book (accumulate run))
    rw [h run List.mem_cons_self] at hrest
    rw [List.foldl_cons, h run List.mem_cons_self]
    exact (Books.book out (decimal run)).trans hrest

/-! ## The telemetry of the tokens -/

/-- The text mentions the acknowledgement but holds no token. -/
def Malformed (text : Bytes) : Prop := kMention <:+: text ∧ tokens text = []

instance (text : Bytes) : Decidable (Malformed text) := inferInstanceAs (Decidable (_ ∧ _))

/-- **One text.** -/
theorem foldResponse_books (out : RbpodoQueueAckTelemetry) {raw : Bytes}
    (h : ∀ run ∈ digitRuns raw, decimal run < 2 ^ 31) :
    Books (tokens raw) (if Malformed raw then 1 else 0) out (foldResponse out raw) := by
  have hruns : ∀ run ∈ tokenDigits raw, accumulate run = decimal run := fun run hrun =>
    accumulate_eq (digits_of_mem_runs (mem_runs_of_mem_tokenDigits hrun)) (h run (mem_runs_of_mem_tokenDigits hrun))
  have hscan : scan raw (findFrom kToken raw 0) out.drain false =
      ((tokenDigits raw).foldl (fun o run => o.book (accumulate run)) out.drain, !(tokenDigits raw).isEmpty) := by
    rw [scan_eq, List.drop_zero, Bool.false_or]
  have hbooks : Books (tokens raw) 0 out _ := (Books.drain out).trans (books_foldl hruns out.drain)
  have hbad : (!(!(tokenDigits raw).isEmpty) && (findFrom kMention raw 0).isSome) = decide (Malformed raw) := by
    rw [Bool.not_not, Bool.eq_iff_iff, Bool.and_eq_true, List.isEmpty_iff, findFrom_isSome_iff, decide_eq_true_iff,
      Malformed, tokens, List.map_eq_nil_iff, and_comm]
  rw [foldResponse, hscan]
  dsimp only
  rw [hbad]
  by_cases hm : Malformed raw
  · have hnil : tokens raw = tokens raw ++ [] := (List.append_nil _).symm
    rw [if_pos hm, if_pos (decide_eq_true hm), hnil]
    exact hbooks.trans (Books.reject _)
  · rw [if_neg hm, if_neg (by simpa using hm)]
    exact hbooks

/-- **Every list of texts.** -/
theorem foldRbackResponses_books (out : RbpodoQueueAckTelemetry) {texts : List Bytes}
    (h : ∀ text ∈ texts, ∀ run ∈ digitRuns text, decimal run < 2 ^ 31) :
    Books (texts.flatMap tokens) (texts.countP (decide <| Malformed ·)) out (foldRbackResponses texts out) := by
  unfold foldRbackResponses
  induction texts generalizing out with
  | nil => exact .refl out
  | cons text texts ih =>
    have hfirst := foldResponse_books out (h text List.mem_cons_self)
    have hrest := ih (foldResponse out text) fun t ht => h t (List.mem_cons_of_mem _ ht)
    rw [List.foldl_cons, List.flatMap_cons, List.countP_cons, Nat.add_comm]
    simpa using hfirst.trans hrest

/-- What the telemetry owes to the texts. -/
structure Faithful (texts : List Bytes) (out out' : RbpodoQueueAckTelemetry) : Prop where
  books : Books (texts.flatMap tokens) (texts.countP (decide <| Malformed ·)) out out'
  noOverflow : ∀ text ∈ texts, ∀ run ∈ digitRuns text, NoOverflow run

/-- **The queue telemetry.**  It is that of the tokens exactly if the digits after every mark write a number below
`2^31`. -/
theorem fold_faithful_iff (texts : List Bytes) (out : RbpodoQueueAckTelemetry) :
    Faithful texts out (foldRbackResponses texts out) ↔
      ∀ text ∈ texts, ∀ run ∈ digitRuns text, decimal run < 2 ^ 31 := by
  constructor
  · intro h text htext run hrun
    exact (noOverflow_iff (digits_of_mem_runs hrun)).mp (h.noOverflow text htext run hrun)
  · intro h
    exact ⟨foldRbackResponses_books out h, fun text htext run hrun =>
      (noOverflow_iff (digits_of_mem_runs hrun)).mpr (h text htext run hrun)⟩

/-- The text `RBACK[4294967297]`. -/
def overflowing : Bytes := kToken ++ [52, 50, 57, 52, 57, 54, 55, 50, 57, 55, 93]

/-- Its value wraps to one. -/
theorem overflowing_token_unfaithful :
    tokens overflowing = [4294967297] ∧ (foldRbackResponses [overflowing] {}).fill = 1 ∧
      ¬ Faithful [overflowing] {} (foldRbackResponses [overflowing] {}) := by
  have htokens : tokens overflowing = [4294967297] := by decide +kernel
  have hfill : (foldRbackResponses [overflowing] {}).fill = 1 := by
    rw [foldRbackResponses, List.foldl_cons, List.foldl_nil, foldResponse, scan_eq]
    decide +kernel
  refine ⟨htokens, hfill, fun h => ?_⟩
  have hbooked := h.books.fill
  rw [hfill, List.flatMap_singleton, htokens] at hbooked
  exact absurd hbooked (by decide)

end RbServo.Rbpodo
