import RoboticsLab.Lib.PyValue

/-!
# Python's reader of JSON texts

`loads` is `json.loads` on a text: the scanner of CPython, in strict mode.  `Denotes text v` says what the scanner makes
of a text that a comma or a closing bracket follows, a value or a `JSONDecodeError`.  It is proved production by
production, so the value of a printed document is put together the way the document is.

    Denotes text v → loads text = v, or JSONDecodeError without one                         (Denotes.loads)
    Members text ms → Denotes ("{" text "}") of the object with these members               (Denotes.object)
-/

namespace JsonText

abbrev Text := List Char

/-! ## Strings -/

def hexDigit (c : Char) : Option ℕ :=
  if '0' ≤ c ∧ c ≤ '9' then some (c.toNat - 48)
  else if 'a' ≤ c ∧ c ≤ 'f' then some (c.toNat - 87)
  else if 'A' ≤ c ∧ c ≤ 'F' then some (c.toNat - 55)
  else none

def hexPoint (a b c d : Char) : Option ℕ := do
  let a ← hexDigit a
  let b ← hexDigit b
  let c ← hexDigit c
  let d ← hexDigit d
  return ((a * 16 + b) * 16 + c) * 16 + d

/-- The character after a backslash. -/
def escaped : Char → Option Char
  | '"' => some '"'
  | '\\' => some '\\'
  | '/' => some '/'
  | 'b' => some '\x08'
  | 'f' => some '\x0c'
  | 'n' => some '\n'
  | 'r' => some '\r'
  | 't' => some '\t'
  | _ => none

/-- The code points of a string after its opening quote, and what follows the closing one. -/
def scanPoints : Text → Option (List ℕ × Text)
  | [] => none
  | c :: rest =>
    if c = '"' then some ([], rest)
    else if c = '\\' then
      match rest with
      | 'u' :: h1 :: h2 :: h3 :: h4 :: rest =>
        match hexPoint h1 h2 h3 h4 with
        | some n => (scanPoints rest).map fun s => (n :: s.1, s.2)
        | none => none
      | e :: rest =>
        match escaped e with
        | some c => (scanPoints rest).map fun s => (c.toNat :: s.1, s.2)
        | none => none
      | [] => none
    else if c.toNat < 0x20 then none
    else (scanPoints rest).map fun s => (c.toNat :: s.1, s.2)

/-- A code point as a character.  A lone surrogate, which Python keeps, is not a `Char`. -/
def ofPoint (n : ℕ) : Char := if n.isValidChar then Char.ofNat n else '\uFFFD'

/-- Two surrogates are one character. -/
def joinSurrogates : List ℕ → Text
  | [] => []
  | [n] => [ofPoint n]
  | hi :: lo :: rest =>
    if (0xD800 ≤ hi ∧ hi < 0xDC00) ∧ 0xDC00 ≤ lo ∧ lo < 0xE000 then
      Char.ofNat (0x10000 + (hi - 0xD800) * 0x400 + (lo - 0xDC00)) :: joinSurrogates rest
    else ofPoint hi :: joinSurrogates (lo :: rest)

/-- A string after its opening quote. -/
def scanString (text : Text) : Option (String × Text) :=
  (scanPoints text).map fun s => (String.ofList (joinSurrogates s.1), s.2)

/-! ## Numbers -/

/-- The digits that the text starts with. -/
def digits (text : Text) : Text := text.takeWhile Char.isDigit

def afterDigits (text : Text) : Text := text.dropWhile Char.isDigit

def digitsValue (ds : Text) : ℕ := Nat.ofDigitChars 10 ds 0

def scanSign : Text → Bool × Text
  | '-' :: rest => (true, rest)
  | text => (false, text)

/-- `0`, or digits that do not start with it. -/
def scanInt : Text → Option (ℕ × Text)
  | '0' :: rest => some (0, rest)
  | text => if digits text = [] then none else some (digitsValue (digits text), afterDigits text)

/-- The digits after a point, if there are any. -/
def scanFraction : Text → Text × Text
  | '.' :: rest => if digits rest = [] then ([], '.' :: rest) else (digits rest, afterDigits rest)
  | text => ([], text)

def scanExponentSign : Text → Bool × Text
  | '+' :: rest => (false, rest)
  | text => scanSign text

def scanExponent : Text → Option ℤ × Text
  | [] => (none, [])
  | c :: rest =>
    if c = 'e' ∨ c = 'E' then
      let (negative, text) := scanExponentSign rest
      if digits text = [] then (none, c :: rest)
      else (some (if negative then -(digitsValue (digits text) : ℤ) else digitsValue (digits text)), afterDigits text)
    else (none, c :: rest)

/-- The value of a literal: `int`, or `float` with a fraction or an exponent. -/
def numberValue (negative : Bool) (n : ℕ) (fraction : Text) (exponent : Option ℤ) : Json :=
  if fraction = [] ∧ exponent = none then if negative then .numInteger (-n) else .numUnsigned n
  else
    let q : ℚ := (n + digitsValue fraction / 10 ^ fraction.length) * 10 ^ (exponent.getD 0)
    .numFloat (.ofRat (if negative then -q else q))

def scanNumber (text : Text) : Option (Json × Text) :=
  let (negative, text) := scanSign text
  (scanInt text).map fun (n, text) =>
    let (fraction, text) := scanFraction text
    let (exponent, text) := scanExponent text
    (numberValue negative n fraction exponent, text)

/-! ## Values -/

inductive Failure
  | decode
  | fuel

def constants : List (Text × Json) :=
  [(['n', 'u', 'l', 'l'], .null), (['t', 'r', 'u', 'e'], .bool true), (['f', 'a', 'l', 's', 'e'], .bool false),
    (['N', 'a', 'N'], .numFloat .nan), (['I', 'n', 'f', 'i', 'n', 'i', 't', 'y'], .numFloat .posInf),
    (['-', 'I', 'n', 'f', 'i', 'n', 'i', 't', 'y'], .numFloat .negInf)]

def scanConstant (text : Text) : Option (Json × Text) :=
  constants.findSome? fun c => if c.1.isPrefixOf text then some (c.2, text.drop c.1.length) else none

def space (c : Char) : Bool := c = ' ' || c = '\t' || c = '\n' || c = '\r'

def skip (text : Text) : Text := text.dropWhile space

/-- A scanner that gave nothing is a `JSONDecodeError`. -/
def orDecodeError {α : Type} : Option α → Except Failure α
  | some a => .ok a
  | none => .error .decode

mutual

/-- `scan_once`, at the first character of a value. -/
def scanOnce : ℕ → Text → Except Failure (Json × Text)
  | 0, _ => .error .fuel
  | _ + 1, '"' :: rest => (orDecodeError (scanString rest)).map fun s => (.str s.1, s.2)
  | fuel + 1, '{' :: rest =>
    match skip rest with
    | '}' :: rest => .ok (.obj [], rest)
    | text => (scanMembers fuel [] text).map fun s => (.obj s.1, s.2)
  | fuel + 1, '[' :: rest =>
    match skip rest with
    | ']' :: rest => .ok (.arr [], rest)
    | text => (scanItems fuel [] text).map fun s => (.arr s.1, s.2)
  | _ + 1, text => orDecodeError ((scanConstant text).or (scanNumber text))

/-- The members after an opening brace or a comma; a key that comes again replaces the value. -/
def scanMembers : ℕ → Json.Object → Text → Except Failure (Json.Object × Text)
  | 0, _, _ => .error .fuel
  | fuel + 1, members, '"' :: rest => do
    let (key, text) ← orDecodeError (scanString rest)
    match skip text with
    | ':' :: rest => do
      let (value, text) ← scanOnce fuel (skip rest)
      match skip text with
      | '}' :: rest => .ok (members.set key value, rest)
      | ',' :: rest => scanMembers fuel (members.set key value) (skip rest)
      | _ => .error .decode
    | _ => .error .decode
  | _ + 1, _, _ => .error .decode

def scanItems : ℕ → List Json → Text → Except Failure (List Json × Text)
  | 0, _, _ => .error .fuel
  | fuel + 1, items, text => do
    let (value, text) ← scanOnce fuel text
    match skip text with
    | ']' :: rest => .ok (items ++ [value], rest)
    | ',' :: rest => scanItems fuel (items ++ [value]) (skip rest)
    | _ => .error .decode

end

/-- `json.loads`: one value, and nothing but white space around it. -/
def loads (text : Text) : Except Failure Json := do
  let (value, rest) ← scanOnce (text.length + 1) (skip text)
  if skip rest = [] then .ok value else .error .decode

/-! ## What a text denotes -/

/-- A scanner's outcome: a value and the rest of the text, or a `JSONDecodeError`. -/
def outcome {α : Type} : Option α → Text → Except Failure (α × Text)
  | some a, rest => .ok (a, rest)
  | none, _ => .error .decode

/-- What may follow a value. -/
def Follows (rest : Text) : Prop := ∀ c ∈ rest.head?, c = ',' ∨ c = '}' ∨ c = ']'

theorem Follows.nil : Follows [] := by simp [Follows]

theorem Follows.comma (rest : Text) : Follows (',' :: rest) := by simp [Follows]

theorem Follows.brace (rest : Text) : Follows ('}' :: rest) := by simp [Follows]

theorem Follows.bracket (rest : Text) : Follows (']' :: rest) := by simp [Follows]

/-- A character that a value can start with. -/
def Opens (c : Char) : Prop := space c = false ∧ c ≠ ']'

instance (c : Char) : Decidable (Opens c) := inferInstanceAs (Decidable (_ ∧ _))

structure Denotes (text : Text) (v : Option Json) : Prop where
  opens : ∃ c rest, text = c :: rest ∧ Opens c
  scan : ∀ fuel rest, text.length ≤ fuel → Follows rest → scanOnce fuel (text ++ rest) = outcome v rest

theorem skip_cons {c : Char} (h : space c = false) (rest : Text) : skip (c :: rest) = c :: rest :=
  List.dropWhile_cons_of_neg (by simp [h])

theorem Denotes.skip {text : Text} {v : Option Json} (h : Denotes text v) (rest : Text) :
    skip (text ++ rest) = text ++ rest := by
  obtain ⟨c, cs, rfl, hc, -⟩ := h.opens
  exact skip_cons hc _

/-- **What is read.**  -/
theorem Denotes.loads {text : Text} {v : Option Json} (h : Denotes text v) :
    loads text = (outcome v []).map Prod.fst := by
  have hskip := h.skip []
  have hscan := h.scan (text.length + 1) [] (Nat.le_succ _) Follows.nil
  rw [List.append_nil] at hskip hscan
  rw [JsonText.loads, hskip, hscan]
  cases v <;> rfl

/-! ## Scalars -/

/-- A character that starts a constant or a number. -/
def Scalar (c : Char) : Prop := Opens c ∧ c ≠ '"' ∧ c ≠ '{' ∧ c ≠ '['

instance (c : Char) : Decidable (Scalar c) := inferInstanceAs (Decidable (_ ∧ _))

theorem scanOnce_scalar {c : Char} (h : Scalar c) (fuel : ℕ) (rest : Text) :
    scanOnce (fuel + 1) (c :: rest) = orDecodeError ((scanConstant (c :: rest)).or (scanNumber (c :: rest))) := by
  obtain ⟨-, hquote, hbrace, hbracket⟩ := h
  rw [scanOnce]
  · rintro _ ⟨⟩
    exact hquote rfl
  · rintro _ ⟨⟩
    exact hbrace rfl
  · rintro _ ⟨⟩
    exact hbracket rfl

theorem denotes_scalar {c : Char} (h : Scalar c) (text : Text) (v : Option Json)
    (hscan : ∀ rest, Follows rest →
      (scanConstant (c :: text ++ rest)).or (scanNumber (c :: text ++ rest)) = v.map fun v => (v, rest)) :
    Denotes (c :: text) v := by
  refine ⟨⟨c, text, rfl, h.1⟩, fun fuel rest hfuel hrest => ?_⟩
  obtain ⟨fuel, rfl⟩ : ∃ n, fuel = n + 1 := Nat.exists_eq_add_one.mpr (by simp at hfuel; omega)
  rw [List.cons_append, scanOnce_scalar h, ← List.cons_append, hscan rest hrest]
  cases v <;> rfl

theorem denotes_true : Denotes ['t', 'r', 'u', 'e'] (some (.bool true)) :=
  denotes_scalar (by decide) _ _ fun _ _ => rfl

theorem denotes_false : Denotes ['f', 'a', 'l', 's', 'e'] (some (.bool false)) :=
  denotes_scalar (by decide) _ _ fun _ _ => rfl

/-! ## Numbers -/

theorem isDigit_of_follows {rest : Text} (h : Follows rest) : ∀ c ∈ rest.head?, c.isDigit = false := by
  intro c hc
  rcases h c hc with rfl | rfl | rfl <;> decide

theorem digits_append {ds rest : Text} (hds : ∀ c ∈ ds, c.isDigit = true)
    (hrest : ∀ c ∈ rest.head?, c.isDigit = false) : digits (ds ++ rest) = ds ∧ afterDigits (ds ++ rest) = rest := by
  rw [digits, afterDigits, List.takeWhile_append_of_pos hds, List.dropWhile_append_of_pos hds]
  cases rest with
  | nil => exact ⟨List.append_nil ds, rfl⟩
  | cons c rest =>
    have hc := hrest c rfl
    rw [List.takeWhile_cons_of_neg (by simp [hc]), List.dropWhile_cons_of_neg (by simp [hc])]
    exact ⟨List.append_nil ds, rfl⟩

theorem isDigit_toDigits (n : ℕ) : ∀ c ∈ Nat.toDigits 10 n, c.isDigit = true := fun _ hc =>
  Nat.isDigit_of_mem_toDigits (by decide) (by decide) hc

theorem toDigits_cons (n : ℕ) : ∃ c ds, Nat.toDigits 10 n = c :: ds ∧ c.isDigit = true := by
  obtain ⟨c, ds, h⟩ := List.exists_cons_of_ne_nil (Nat.toDigits_ne_nil (n := n) (b := 10))
  exact ⟨c, ds, h, isDigit_toDigits n c (h ▸ List.mem_cons_self)⟩

theorem head_toDigits {n : ℕ} (hn : 0 < n) (ds : Text) : Nat.toDigits 10 n ≠ '0' :: ds := by
  induction n using Nat.strong_induction_on generalizing ds with
  | _ n ih =>
    rcases Nat.lt_or_ge n 10 with hlt | hge
    · intro h
      have hvalue := Nat.ofDigitChars_ten_toDigits (n := n)
      rw [Nat.toDigits_of_lt_base hlt, List.cons.injEq] at h
      rw [Nat.toDigits_of_lt_base hlt, h.1] at hvalue
      exact absurd (hvalue.symm.trans rfl) (Nat.ne_of_gt hn)
    · rw [Nat.toDigits_of_base_le (by decide) hge]
      obtain ⟨c, cs, hc, -⟩ := toDigits_cons (n / 10)
      rw [hc]
      rintro ⟨⟩
      exact ih (n / 10) (by omega) (by omega) cs hc

theorem scanInt_toDigits (n : ℕ) {rest : Text} (hrest : ∀ c ∈ rest.head?, c.isDigit = false) :
    scanInt (Nat.toDigits 10 n ++ rest) = some (n, rest) := by
  rcases Nat.eq_zero_or_pos n with rfl | hn
  · rfl
  · obtain ⟨hds, hafter⟩ := digits_append (isDigit_toDigits n) hrest
    rw [scanInt, hds, hafter, if_neg Nat.toDigits_ne_nil, digitsValue, Nat.ofDigitChars_ten_toDigits]
    intro tail htail
    obtain ⟨c, ds, hc, -⟩ := toDigits_cons n
    rw [hc, List.cons_append, List.cons.injEq] at htail
    exact head_toDigits hn ds (by rw [hc, htail.1])

theorem scanFraction_follows {rest : Text} (h : Follows rest) : scanFraction rest = ([], rest) := by
  rw [scanFraction]
  rintro tail rfl
  have hdot := h '.' rfl
  simp at hdot

theorem scanExponent_follows {rest : Text} (h : Follows rest) : scanExponent rest = (none, rest) := by
  cases rest with
  | nil => rfl
  | cons c rest =>
    rw [scanExponent, if_neg]
    rcases h c rfl with rfl | rfl | rfl <;> decide

theorem ne_of_isDigit {c d : Char} (hc : c.isDigit = true) (hd : d.isDigit = false) : d ≠ c := by
  rintro rfl
  rw [hd] at hc
  cases hc

theorem scanConstant_digit {c : Char} (h : c.isDigit = true) (rest : Text) :
    scanConstant (c :: rest) = none ∧ scanConstant ('-' :: c :: rest) = none := by
  have hne := fun d => ne_of_isDigit (d := d) h
  simp [scanConstant, constants, hne 'n' rfl, hne 't' rfl, hne 'f' rfl, hne 'N' rfl, hne 'I' rfl, hne '-' rfl]

theorem scalar_digit {c : Char} (h : c.isDigit = true) : Scalar c := by
  have hne := fun d hd => (ne_of_isDigit (d := d) h hd).symm
  simp [Scalar, Opens, space, hne ' ' rfl, hne '\t' rfl, hne '\n' rfl, hne '\r' rfl, hne ']' rfl,
    hne '"' rfl, hne '{' rfl,
    hne '[' rfl]

/-- A literal's fraction. -/
def pointed (fraction : Text) : Text := if fraction = [] then [] else '.' :: fraction

def signed (negative : Bool) (text : Text) : Text := if negative then '-' :: text else text

theorem scanFraction_pointed {fraction : Text} (hdigits : ∀ c ∈ fraction, c.isDigit = true) {rest : Text}
    (h : Follows rest) : scanFraction (pointed fraction ++ rest) = (fraction, rest) := by
  rw [pointed]
  split_ifs with hnil
  · rw [hnil]
    exact scanFraction_follows h
  · obtain ⟨hds, hafter⟩ := digits_append hdigits (isDigit_of_follows h)
    rw [List.cons_append, scanFraction, hds, hafter, if_neg hnil]

theorem isDigit_pointed (fraction : Text) {rest : Text} (h : Follows rest) :
    ∀ c ∈ (pointed fraction ++ rest).head?, c.isDigit = false := by
  rw [pointed]
  split_ifs
  · exact isDigit_of_follows h
  · rintro _ ⟨⟩
    rfl

theorem scanNumber_signed (negative : Bool) (n : ℕ) {fraction : Text} (hdigits : ∀ c ∈ fraction, c.isDigit = true)
    {rest : Text} (h : Follows rest) :
    scanNumber (signed negative (Nat.toDigits 10 n ++ pointed fraction) ++ rest) =
      some (numberValue negative n fraction none, rest) := by
  have hsign : scanSign (signed negative (Nat.toDigits 10 n ++ pointed fraction) ++ rest) =
      (negative, Nat.toDigits 10 n ++ (pointed fraction ++ rest)) := by
    rw [← List.append_assoc]
    cases negative with
    | true => rfl
    | false =>
      obtain ⟨c, ds, hc, hdigit⟩ := toDigits_cons n
      rw [signed, if_neg (by decide), hc, List.cons_append, List.cons_append, scanSign]
      rintro tail ⟨⟩
      cases hdigit
  rw [scanNumber, hsign]
  dsimp only
  rw [scanInt_toDigits n (isDigit_pointed fraction h), Option.map_some, scanFraction_pointed hdigits h]
  dsimp only
  rw [scanExponent_follows h]

theorem denotes_number (negative : Bool) (n : ℕ) {fraction : Text} (hdigits : ∀ c ∈ fraction, c.isDigit = true) :
    Denotes (signed negative (Nat.toDigits 10 n ++ pointed fraction))
      (some (numberValue negative n fraction none)) := by
  obtain ⟨c, ds, hc, hdigit⟩ := toDigits_cons n
  have hscan (rest : Text) (h : Follows rest) := scanNumber_signed negative n hdigits h
  rw [hc] at hscan ⊢
  cases negative with
  | true =>
    refine denotes_scalar (by decide) _ _ fun rest h => ?_
    rw [List.cons_append, List.cons_append, List.cons_append, (scanConstant_digit hdigit _).2, Option.none_or]
    exact hscan rest h
  | false =>
    refine denotes_scalar (scalar_digit hdigit) _ _ fun rest h => ?_
    rw [List.cons_append, (scanConstant_digit hdigit _).1, Option.none_or]
    exact hscan rest h

theorem denotes_nat (n : ℕ) : Denotes (Nat.toDigits 10 n) (some (.numUnsigned n)) := by
  have h := @denotes_number false n [] (by simp)
  rwa [signed, if_neg (by decide), pointed, if_pos rfl, List.append_nil] at h

theorem denotes_neg (n : ℕ) : Denotes ('-' :: Nat.toDigits 10 n) (some (.numInteger (-n))) := by
  have h := @denotes_number true n [] (by simp)
  rwa [signed, if_pos rfl, pointed, if_pos rfl, List.append_nil] at h

/-! ## Strings -/

/-- What is scanned after a quote of a text that ends with one. -/
def Spells (body : Text) (s : Option String) : Prop :=
  ∀ rest, scanString (body ++ '"' :: rest) = s.map fun s => (s, rest)

theorem Spells.denotes {body : Text} {s : Option String} (h : Spells body s) :
    Denotes ('"' :: (body ++ ['"'])) (s.map .str) := by
  refine ⟨⟨_, _, rfl, by decide⟩, fun fuel rest hfuel _ => ?_⟩
  obtain ⟨fuel, rfl⟩ : ∃ n, fuel = n + 1 := Nat.exists_eq_add_one.mpr (by simp at hfuel; omega)
  rw [List.cons_append, List.append_assoc, List.singleton_append, scanOnce, h rest]
  cases s <;> rfl

/-- A control character other than those with a short escape. -/
def Control (c : Char) : Prop := c.toNat < 0x20 ∧ c ≠ '\n' ∧ c ≠ '\r' ∧ c ≠ '\t'

instance (c : Char) : Decidable (Control c) := inferInstanceAs (Decidable (_ ∧ _))

/-- The short escapes; any other character stands for itself. -/
def escape (c : Char) : Text :=
  if c = '"' then ['\\', '"']
  else if c = '\\' then ['\\', '\\']
  else if c = '\n' then ['\\', 'n']
  else if c = '\r' then ['\\', 'r']
  else if c = '\t' then ['\\', 't']
  else [c]

theorem scanPoints_plain {c : Char} (hquote : c ≠ '"') (hslash : c ≠ '\\') (rest : Text) :
    scanPoints (c :: rest) =
      if c.toNat < 0x20 then none else (scanPoints rest).map fun s => (c.toNat :: s.1, s.2) := by
  rw [scanPoints.eq_def]
  dsimp only
  rw [if_neg hquote, if_neg hslash]

theorem scanPoints_escape {c : Char} (h : ¬ Control c) (rest : Text) :
    scanPoints (escape c ++ rest) = (scanPoints rest).map fun s => (c.toNat :: s.1, s.2) := by
  rw [escape]
  split_ifs with hquote hslash hn hr ht
  · rw [hquote]; rfl
  · rw [hslash]; rfl
  · rw [hn]; rfl
  · rw [hr]; rfl
  · rw [ht]; rfl
  · rw [List.singleton_append, scanPoints_plain hquote hslash, if_neg fun hlt => h ⟨hlt, hn, hr, ht⟩]

theorem scanPoints_control {c : Char} (h : Control c) (rest : Text) : scanPoints (escape c ++ rest) = none := by
  obtain ⟨hlt, hn, hr, ht⟩ := h
  have hquote : c ≠ '"' := by rintro rfl; exact absurd hlt (by decide)
  have hslash : c ≠ '\\' := by rintro rfl; exact absurd hlt (by decide)
  rw [escape, if_neg hquote, if_neg hslash, if_neg hn, if_neg hr, if_neg ht, List.singleton_append,
    scanPoints_plain hquote hslash, if_pos hlt]

theorem ofPoint_toNat (c : Char) : ofPoint c.toNat = c := by
  have hvalid : c.toNat.isValidChar := c.valid
  rw [ofPoint, if_pos hvalid, Char.ofNat_toNat]

theorem joinSurrogates_toNat (text : Text) : joinSurrogates (text.map Char.toNat) = text := by
  induction text with
  | nil => rfl
  | cons c text ih =>
    cases text with
    | nil => rw [List.map_cons, List.map_nil, joinSurrogates, ofPoint_toNat]
    | cons d text =>
      have hvalid : c.toNat.isValidChar := c.valid
      rw [List.map_cons, List.map_cons, joinSurrogates, if_neg, ofPoint_toNat, ← List.map_cons, ih]
      rintro ⟨⟨hge, hlt⟩, -⟩
      rcases hvalid with h | ⟨h, -⟩ <;> omega

instance (text : Text) : Decidable (∀ c ∈ text, ¬ Control c) := List.decidableBAll _ text

/-- The string that the escapes of a text spell, unless it holds a control character. -/
theorem spells_escape (text : Text) :
    Spells (text.flatMap escape) (if ∀ c ∈ text, ¬ Control c then some (String.ofList text) else none) := by
  intro rest
  have hpoints : scanPoints (text.flatMap escape ++ '"' :: rest) =
      if ∀ c ∈ text, ¬ Control c then some (text.map Char.toNat, rest) else none := by
    induction text with
    | nil =>
      rw [if_pos (by simp), List.flatMap_nil, List.nil_append, scanPoints.eq_def]
      rfl
    | cons c text ih =>
      rw [List.flatMap_cons, List.append_assoc]
      by_cases hc : Control c
      · rw [scanPoints_control hc, if_neg fun h => h c List.mem_cons_self hc]
      · rw [scanPoints_escape hc, ih]
        by_cases htext : ∀ d ∈ text, ¬ Control d
        · rw [if_pos htext, if_pos (List.forall_mem_cons (p := fun d => ¬ Control d) |>.mpr ⟨hc, htext⟩)]
          rfl
        · rw [if_neg htext, if_neg fun h => htext fun d hd => h d (List.mem_cons_of_mem c hd)]
          rfl
  rw [scanString, hpoints]
  split_ifs
  · simp [joinSurrogates_toNat]
  · rfl

/-! ## Objects -/

/-- `"key":value`. -/
def Member (text : Text) (m : Option (String × Json)) : Prop :=
  ∃ body key value v, text = '"' :: (body ++ '"' :: ':' :: value) ∧ Spells body key ∧ Denotes value v ∧
    m = key.bind fun key => v.map fun v => (key, v)

/-- Members with commas between them. -/
inductive Members : Text → List (Option (String × Json)) → Prop
  | one {text : Text} {m : Option (String × Json)} (h : Member text m) : Members text [m]
  | cons {text texts : Text} {m : Option (String × Json)} {ms : List (Option (String × Json))} (h : Member text m)
    (hs : Members texts ms) : Members (text ++ ',' :: texts) (m :: ms)

theorem Members.append {a b : Text} {xs ys : List (Option (String × Json))} (ha : Members a xs) (hb : Members b ys) :
    Members (a ++ ',' :: b) (xs ++ ys) := by
  induction ha with
  | one h => exact .cons h hb
  | cons h _ ih =>
    rw [List.append_assoc, List.cons_append]
    exact .cons h ih

theorem Members.opens {text : Text} {ms : List (Option (String × Json))} (h : Members text ms) :
    ∃ rest, text = '"' :: rest := by
  cases h with
  | one h =>
    obtain ⟨_, _, _, _, rfl, -⟩ := h
    exact ⟨_, rfl⟩
  | cons h _ =>
    obtain ⟨_, _, _, _, rfl, -⟩ := h
    exact ⟨_, rfl⟩

/-- The members in the order of the text, or nothing if one of them is not there. -/
def setAll : Json.Object → List (Option (String × Json)) → Option Json.Object
  | o, [] => some o
  | _, none :: _ => none
  | o, some m :: ms => setAll (o.set m.1 m.2) ms

/-- What `scanMembers` does after a member. -/
def afterMember (fuel : ℕ) (members : Json.Object) (m : Option (String × Json)) (text : Text) :
    Except Failure (Json.Object × Text) := do
  let (key, value) ← orDecodeError m
  match skip text with
  | '}' :: rest => .ok (members.set key value, rest)
  | ',' :: rest => scanMembers fuel (members.set key value) (skip rest)
  | _ => .error .decode

theorem Member.scan {text : Text} {m : Option (String × Json)} (h : Member text m) {fuel : ℕ}
    (hfuel : text.length ≤ fuel + 1) (members : Json.Object) {tail : Text} (htail : Follows tail) :
    scanMembers (fuel + 1) members (text ++ tail) = afterMember fuel members m tail := by
  obtain ⟨body, key, value, v, rfl, hkey, hvalue, rfl⟩ := h
  have hlength : value.length ≤ fuel := by simp at hfuel; omega
  have hassoc : '"' :: (body ++ '"' :: ':' :: value) ++ tail = '"' :: (body ++ '"' :: ':' :: (value ++ tail)) := by simp
  rw [hassoc, scanMembers, hkey]
  cases key with
  | none => rfl
  | some key =>
    have hcolon : skip (':' :: (value ++ tail)) = ':' :: (value ++ tail) := skip_cons (by decide) _
    have hscan := hvalue.scan fuel tail hlength htail
    simp only [Option.map_some, orDecodeError, bind, Except.bind, hcolon, hvalue.skip, hscan]
    cases v <;> rfl

theorem Members.scan {text : Text} {ms : List (Option (String × Json))} (h : Members text ms) {fuel : ℕ}
    (hfuel : text.length ≤ fuel) (members : Json.Object) (rest : Text) :
    scanMembers fuel members (text ++ '}' :: rest) = outcome (setAll members ms) rest := by
  induction h generalizing fuel members with
  | @one text m h =>
    obtain ⟨fuel, rfl⟩ : ∃ n, fuel = n + 1 := by
      obtain ⟨_, _, _, _, rfl, -⟩ := h
      exact Nat.exists_eq_add_one.mpr (by simp at hfuel; omega)
    rw [h.scan hfuel members (Follows.brace rest)]
    cases m <;> rfl
  | @cons text texts m ms h hs ih =>
    obtain ⟨fuel, rfl⟩ : ∃ n, fuel = n + 1 := Nat.exists_eq_add_one.mpr (by simp at hfuel; omega)
    have hlength : text.length ≤ fuel + 1 ∧ texts.length ≤ fuel := by
      simp at hfuel
      omega
    rw [List.append_assoc, List.cons_append, h.scan hlength.1 members (Follows.comma _)]
    cases m with
    | none => rfl
    | some m =>
      have hcomma : skip (',' :: (texts ++ '}' :: rest)) = ',' :: (texts ++ '}' :: rest) := skip_cons (by decide) _
      have hnext : skip (texts ++ '}' :: rest) = texts ++ '}' :: rest := by
        obtain ⟨tail, rfl⟩ := hs.opens
        exact skip_cons (by decide) _
      simp only [afterMember, orDecodeError, bind, Except.bind, hcomma, hnext]
      exact ih hlength.2 (members.set m.1 m.2)

theorem scanOnce_members (fuel : ℕ) {text tail : Text} (h : text = '"' :: tail) :
    scanOnce (fuel + 1) ('{' :: text) = (scanMembers fuel [] text).map fun s => (.obj s.1, s.2) := by
  rw [h, scanOnce, skip_cons (by decide)]
  rfl

theorem Denotes.object {text : Text} {ms : List (Option (String × Json))} (h : Members text ms) :
    Denotes ('{' :: (text ++ ['}'])) ((setAll [] ms).map .obj) := by
  refine ⟨⟨_, _, rfl, by decide⟩, fun fuel rest hfuel _ => ?_⟩
  obtain ⟨fuel, rfl⟩ : ∃ n, fuel = n + 1 := Nat.exists_eq_add_one.mpr (by simp at hfuel; omega)
  have hlength : text.length ≤ fuel := by
    simp at hfuel
    omega
  obtain ⟨tail, htail⟩ := h.opens
  rw [List.cons_append, List.append_assoc, List.singleton_append, scanOnce_members fuel (by rw [htail]; rfl),
    h.scan hlength [] rest]
  cases setAll [] ms <;> rfl

theorem denotes_empty : Denotes ['{', '}'] (some (.obj [])) := by
  refine ⟨⟨_, _, rfl, by decide⟩, fun fuel rest hfuel _ => ?_⟩
  obtain ⟨fuel, rfl⟩ : ∃ n, fuel = n + 1 := Nat.exists_eq_add_one.mpr (by simp at hfuel; omega)
  rfl

/-! ## Members of an object -/

theorem lookup_set (o : Json.Object) (key k : String) (value : Json) :
    (o.set key value).lookup k = if k = key then some value else o.lookup k := by
  rw [Json.Object.set]
  split_ifs with hcontains hk hk
  · rw [Json.Object.contains] at hcontains
    induction o with
    | nil => cases hcontains
    | cons m o ih =>
      rw [List.map_cons]
      by_cases hm : m.1 = key
      · rw [if_pos hm, hk, List.lookup_cons_self]
      · rw [List.lookup_cons, beq_eq_false_iff_ne.mpr (Ne.symm hm)] at hcontains
        rw [if_neg hm, List.lookup_cons, beq_eq_false_iff_ne.mpr fun h => hm (h.symm.trans hk)]
        exact ih hcontains
  · clear hcontains
    induction o with
    | nil => rfl
    | cons m o ih =>
      rw [List.map_cons]
      by_cases hm : m.1 = key
      · rw [if_pos hm, List.lookup_cons, List.lookup_cons, beq_eq_false_iff_ne.mpr hk,
          beq_eq_false_iff_ne.mpr fun h => hk (h.trans hm)]
        exact ih
      · rw [if_neg hm, List.lookup_cons, List.lookup_cons, ih]
  · rw [Json.Object.contains, Bool.not_eq_true, Option.isSome_eq_false_iff, Option.isNone_iff_eq_none] at hcontains
    rw [List.lookup_append, hk, hcontains, Option.none_or, List.lookup_cons_self]
  · rw [List.lookup_append, List.lookup_cons, beq_eq_false_iff_ne.mpr hk, List.lookup_nil, Option.or_none]

theorem isSome_setAll (o : Json.Object) (ms : List (Option (String × Json))) :
    (setAll o ms).isSome = true ↔ none ∉ ms := by
  induction ms generalizing o with
  | nil => simp [setAll]
  | cons m ms ih =>
    cases m with
    | none => simp [setAll]
    | some m => simp [setAll, ih]

def keys (ms : List (Option (String × Json))) : List String := ms.filterMap fun m => m.map Prod.fst

theorem lookup_setAll_of_notMem {o o' : Json.Object} {ms : List (Option (String × Json))} (h : setAll o ms = some o')
    {key : String} (hkey : key ∉ keys ms) : o'.lookup key = o.lookup key := by
  induction ms generalizing o with
  | nil =>
    cases h
    rfl
  | cons m ms ih =>
    cases m with
    | none => cases h
    | some m =>
      have hkeys : keys (some m :: ms) = m.1 :: keys ms := rfl
      rw [hkeys, List.mem_cons, not_or] at hkey
      rw [setAll] at h
      rw [ih h hkey.2, lookup_set, if_neg hkey.1]

theorem lookup_setAll {o o' : Json.Object} {ms : List (Option (String × Json))} (h : setAll o ms = some o')
    (hnodup : (keys ms).Nodup) {key : String} {value : Json} (hmem : some (key, value) ∈ ms) :
    o'.lookup key = some value := by
  induction ms generalizing o with
  | nil => exact absurd hmem List.not_mem_nil
  | cons m ms ih =>
    cases m with
    | none => cases h
    | some m =>
      have hkeys : keys (some m :: ms) = m.1 :: keys ms := rfl
      rw [hkeys, List.nodup_cons] at hnodup
      rw [setAll] at h
      rcases List.mem_cons.mp hmem with heq | hmem
      · cases heq
        rw [lookup_setAll_of_notMem h hnodup.1, lookup_set, if_pos rfl]
      · exact ih h hnodup.2 hmem

/-! ## Arrays -/

/-- Values with commas between them. -/
inductive Items : Text → List (Option Json) → Prop
  | one {text : Text} {v : Option Json} (h : Denotes text v) : Items text [v]
  | cons {text texts : Text} {v : Option Json} {vs : List (Option Json)} (h : Denotes text v) (hs : Items texts vs) :
    Items (text ++ ',' :: texts) (v :: vs)

theorem Items.opens {text : Text} {vs : List (Option Json)} (h : Items text vs) :
    ∃ c rest, text = c :: rest ∧ Opens c := by
  cases h with
  | one h => exact h.opens
  | cons h _ =>
    obtain ⟨c, rest, rfl, hc⟩ := h.opens
    exact ⟨c, _, rfl, hc⟩

def collect : List Json → List (Option Json) → Option (List Json)
  | items, [] => some items
  | _, none :: _ => none
  | items, some v :: vs => collect (items ++ [v]) vs

theorem isSome_collect (items : List Json) (vs : List (Option Json)) :
    (collect items vs).isSome = true ↔ none ∉ vs := by
  induction vs generalizing items with
  | nil => simp [collect]
  | cons v vs ih =>
    cases v with
    | none => simp [collect]
    | some v => simp [collect, ih]

theorem Items.scan {text : Text} {vs : List (Option Json)} (h : Items text vs) {fuel : ℕ} (hfuel : text.length < fuel)
    (items : List Json) (rest : Text) :
    scanItems fuel items (text ++ ']' :: rest) = outcome (collect items vs) rest := by
  induction h generalizing fuel items with
  | @one text v h =>
    obtain ⟨fuel, rfl⟩ : ∃ n, fuel = n + 1 := Nat.exists_eq_add_one.mpr (by omega)
    have hbracket : skip (']' :: rest) = ']' :: rest := skip_cons (by decide) _
    rw [scanItems, h.scan fuel _ (by omega) (Follows.bracket rest)]
    cases v with
    | none => rfl
    | some v =>
      simp only [outcome, bind, Except.bind, hbracket]
      rfl
  | @cons text texts v vs h hs ih =>
    obtain ⟨fuel, rfl⟩ : ∃ n, fuel = n + 1 := Nat.exists_eq_add_one.mpr (by omega)
    have hlength : text.length ≤ fuel ∧ texts.length < fuel := by
      obtain ⟨c, cs, rfl, -⟩ := h.opens
      simp at hfuel
      simp
      omega
    rw [List.append_assoc, List.cons_append, scanItems, h.scan fuel _ hlength.1 (Follows.comma _)]
    cases v with
    | none => rfl
    | some v =>
      have hcomma : skip (',' :: (texts ++ ']' :: rest)) = ',' :: (texts ++ ']' :: rest) := skip_cons (by decide) _
      have hnext : skip (texts ++ ']' :: rest) = texts ++ ']' :: rest := by
        obtain ⟨c, tail, rfl, hc⟩ := hs.opens
        exact skip_cons hc.1 _
      simp only [outcome, bind, Except.bind, hcomma, hnext]
      exact ih hlength.2 (items ++ [v])

theorem scanOnce_items (fuel : ℕ) {c : Char} (hc : Opens c) {text tail : Text} (h : text = c :: tail) :
    scanOnce (fuel + 1) ('[' :: text) = (scanItems fuel [] text).map fun s => (.arr s.1, s.2) := by
  rw [h, scanOnce, skip_cons hc.1]
  split
  · rename_i hbracket
    exact absurd (List.cons.inj hbracket).1 hc.2
  · rfl

theorem Denotes.array {text : Text} {vs : List (Option Json)} (h : Items text vs) :
    Denotes ('[' :: (text ++ [']'])) ((collect [] vs).map .arr) := by
  refine ⟨⟨_, _, rfl, by decide⟩, fun fuel rest hfuel _ => ?_⟩
  obtain ⟨fuel, rfl⟩ : ∃ n, fuel = n + 1 := Nat.exists_eq_add_one.mpr (by simp at hfuel; omega)
  have hlength : text.length < fuel := by
    simp at hfuel
    omega
  obtain ⟨c, tail, htail, hc⟩ := h.opens
  rw [List.cons_append, List.append_assoc, List.singleton_append, scanOnce_items fuel hc (by rw [htail]; rfl),
    h.scan hlength [] rest]
  cases collect [] vs <;> rfl

theorem denotes_emptyArray : Denotes ['[', ']'] (some (.arr [])) := by
  refine ⟨⟨_, _, rfl, by decide⟩, fun fuel rest hfuel _ => ?_⟩
  obtain ⟨fuel, rfl⟩ : ∃ n, fuel = n + 1 := Nat.exists_eq_add_one.mpr (by simp at hfuel; omega)
  rfl

end JsonText
