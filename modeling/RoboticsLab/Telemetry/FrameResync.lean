import RoboticsLab.Lib.Nesting
import Mathlib.Data.List.Basic

/-!
# `_find_json_resync`: the telemetry parser of the gripper

The serial reader appends what it read to `buffer` and calls the parser until it returns `None`.  A call looks for the
first frame mark, counts braces from there to the end of the frame and parses what lies between; a candidate that does
not close is dropped up to the next mark.

    findJsonResync loads : buffer → returned object × buffer
    drain loads          : buffer → returned objects × buffer

`loads` stands for `json.loads`, `none` where it raises.  The buffer is a list of characters.
-/

namespace PolicyRunner.Telemetry

open Nesting

abbrev Text := List Char

/-- `_PIKA_FRAME_MARK`. -/
def frameMark : Text := "\x7b\r\n\"motor\":".toList

/-- `str.find`: where the pattern first occurs. -/
def find (pattern : Text) : Text → Option ℕ
  | [] => if pattern.isPrefixOf [] then some 0 else none
  | c :: cs => if pattern.isPrefixOf (c :: cs) then some 0 else (find pattern cs).map (· + 1)

/-- How a character changes the depth of the brace count. -/
def braceWeight (c : Char) : ℤ := if c = '\x7b' then 1 else if c = '\x7d' then -1 else 0

/-! ## Trailing commas -/

/-- `\s` of a regular expression over `str`. -/
def isSpace (c : Char) : Bool :=
  let n := c.toNat
  (9 ≤ n && n ≤ 13) || (28 ≤ n && n ≤ 32) || n = 0x85 || n = 0xA0 || n = 0x1680 || (0x2000 ≤ n && n ≤ 0x200A) ||
    n = 0x2028 || n = 0x2029 || n = 0x202F || n = 0x205F || n = 0x3000

def closesNext : Text → Bool
  | [] => false
  | c :: _ => c = '\x7d' || c = ']'

/-- `_PIKA_TRAILING_COMMA.sub`: a comma and the space after it go where a closing bracket follows. -/
def dropTrailingCommas : Text → Text
  | [] => []
  | c :: cs =>
    if c = ',' ∧ closesNext (cs.dropWhile isSpace) then dropTrailingCommas (cs.dropWhile isSpace)
    else c :: dropTrailingCommas cs
termination_by text => text.length
decreasing_by
  · have := (List.dropWhile_suffix (l := cs) isSpace).length_le
    simp only [List.length_cons]
    omega
  · simp

theorem dropTrailingCommas_of_no_comma {text : Text} (h : ',' ∉ text) : dropTrailingCommas text = text := by
  induction text with
  | nil => rw [dropTrailingCommas]
  | cons c cs ih =>
    simp only [List.mem_cons, not_or] at h
    rw [dropTrailingCommas, if_neg (fun hcomma => h.1 hcomma.1.symm), ih h.2]

/-- The object of a frame's text. -/
def parse {J : Type} (loads : Text → Option J) (raw : Text) : Option J := loads (dropTrailingCommas raw)

/-! ## Where a pattern occurs -/

variable {pattern text : Text}

theorem find_some {n : ℕ} (h : find pattern text = some n) :
    pattern <+: text.drop n ∧ ∀ i < n, ¬ pattern <+: text.drop i := by
  induction text generalizing n with
  | nil =>
    rw [find] at h
    split at h
    · rename_i hp
      obtain rfl := Option.some.inj h
      exact ⟨List.isPrefixOf_iff_prefix.mp hp, by omega⟩
    · cases h
  | cons c cs ih =>
    rw [find] at h
    split at h
    · rename_i hp
      obtain rfl := Option.some.inj h
      exact ⟨List.isPrefixOf_iff_prefix.mp hp, by omega⟩
    · rename_i hp
      obtain ⟨m, hm, rfl⟩ := Option.map_eq_some_iff.mp h
      obtain ⟨hat, hbefore⟩ := ih hm
      refine ⟨hat, fun i hi => ?_⟩
      cases i with
      | zero => exact fun hpre => hp (List.isPrefixOf_iff_prefix.mpr hpre)
      | succ i => exact hbefore i (by omega)

theorem find_none (h : find pattern text = none) (i : ℕ) (hi : i ≤ text.length) : ¬ pattern <+: text.drop i := by
  induction text generalizing i with
  | nil =>
    rw [find] at h
    split at h
    · cases h
    · rename_i hp
      rw [List.drop_nil]
      exact fun hpre => hp (List.isPrefixOf_iff_prefix.mpr hpre)
  | cons c cs ih =>
    rw [find] at h
    split at h
    · cases h
    · rename_i hp
      cases i with
      | zero => exact fun hpre => hp (List.isPrefixOf_iff_prefix.mpr hpre)
      | succ i => exact ih (Option.map_eq_none_iff.mp h) i (by simpa using hi)

theorem find_lt {n : ℕ} (hne : pattern ≠ []) (h : find pattern text = some n) : n < text.length := by
  by_contra hn
  have hpre := (find_some h).1
  rw [List.drop_eq_nil_of_le (by omega), List.prefix_nil] at hpre
  exact hne hpre

theorem frameMark_ne_nil : frameMark ≠ [] := by decide

/-! ## The parser -/

variable {J : Type} (loads : Text → Option J)

/-- The buffer when it holds no frame mark: a tail is kept, as a mark may be straddling the read boundary. -/
def keepTail (buffer : Text) : Text :=
  if 4096 < buffer.length then buffer.drop (buffer.length - 512) else buffer

/-- `_find_json_resync`. -/
def findJsonResync (buffer : Text) : Option J × Text :=
  match _hs : find frameMark buffer with
  | none => (none, keepTail buffer)
  | some start =>
    match closing braceWeight 0 (buffer.drop start) with
    | none =>
      match find frameMark (buffer.drop (start + 1)) with
      | none => (none, buffer)
      -- a truncated frame: only it is discarded
      | some skipped => findJsonResync (buffer.drop (start + 1 + skipped))
    | some n =>
      match parse loads ((buffer.drop start).take (n + 1)) with
      | some v => (some v, buffer.drop (start + n + 1))
      | none => findJsonResync (buffer.drop (start + n + 1))
termination_by buffer.length
decreasing_by
  · have := find_lt frameMark_ne_nil _hs
    simp only [List.length_drop]
    omega
  · have := find_lt frameMark_ne_nil _hs
    simp only [List.length_drop]
    omega

/-! ### The branches of a call -/

variable {loads} {buffer : Text} {start n : ℕ}

theorem findJsonResync_of_no_mark (hs : find frameMark buffer = none) :
    findJsonResync loads buffer = (none, keepTail buffer) := by
  rw [findJsonResync]
  split
  · rfl
  · rename_i h
    rw [hs] at h
    cases h

theorem findJsonResync_of_open (hs : find frameMark buffer = some start)
    (hc : closing braceWeight 0 (buffer.drop start) = none) :
    findJsonResync loads buffer =
      match find frameMark (buffer.drop (start + 1)) with
      | none => (none, buffer)
      | some skipped => findJsonResync loads (buffer.drop (start + 1 + skipped)) := by
  rw [findJsonResync]
  split
  · rename_i h
    rw [hs] at h
    cases h
  · rename_i s h
    obtain rfl : s = start := Option.some.inj (h.symm.trans hs)
    rw [hc]

theorem findJsonResync_of_closed (hs : find frameMark buffer = some start)
    (hc : closing braceWeight 0 (buffer.drop start) = some n) :
    findJsonResync loads buffer =
      match parse loads ((buffer.drop start).take (n + 1)) with
      | some v => (some v, buffer.drop (start + n + 1))
      | none => findJsonResync loads (buffer.drop (start + n + 1)) := by
  rw [findJsonResync]
  split
  · rename_i h
    rw [hs] at h
    cases h
  · rename_i s h
    obtain rfl : s = start := Option.some.inj (h.symm.trans hs)
    rw [hc]

/-- A call that returns an object takes it from the buffer. -/
theorem findJsonResync_shorter {v : J} {rest : Text} (h : findJsonResync loads buffer = (some v, rest)) :
    rest.length < buffer.length := by
  induction hlen : buffer.length using Nat.strong_induction_on generalizing buffer with
  | _ length ih =>
    cases hs : find frameMark buffer with
    | none =>
      rw [findJsonResync_of_no_mark hs] at h
      cases h
    | some start =>
      have hlt := find_lt frameMark_ne_nil hs
      cases hc : closing braceWeight 0 (buffer.drop start) with
      | none =>
        rw [findJsonResync_of_open hs hc] at h
        split at h
        · cases h
        · rename_i skipped _
          have := ih (buffer.drop (start + 1 + skipped)).length (by rw [List.length_drop]; omega) h rfl
          rw [List.length_drop] at this
          omega
      | some n =>
        rw [findJsonResync_of_closed hs hc] at h
        split at h
        · cases h
          rw [List.length_drop]
          omega
        · have := ih (buffer.drop (start + n + 1)).length (by rw [List.length_drop]; omega) h rfl
          rw [List.length_drop] at this
          omega

variable (loads)

/-- The calls after a read, until one returns `None`. -/
def drain (buffer : Text) : List J × Text :=
  match _h : findJsonResync loads buffer with
  | (none, rest) => ([], rest)
  | (some v, rest) => (v :: (drain rest).1, (drain rest).2)
termination_by buffer.length
decreasing_by
  exact findJsonResync_shorter _h

/-- The reader: each piece is appended to the buffer, which is then drained. -/
def receive (state : List J × Text) (piece : Text) : List J × Text :=
  (state.1 ++ (drain loads (state.2 ++ piece)).1, (drain loads (state.2 ++ piece)).2)

def receiveAll (pieces : List Text) : List J × Text := pieces.foldl (receive loads) ([], [])

end PolicyRunner.Telemetry
