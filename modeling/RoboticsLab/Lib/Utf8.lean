import Mathlib.Data.List.Basic

/-!
# UTF-8

Bytes are read one at a time; `Pending` is the character that is not complete.  An ill-formed part (a byte that
starts no character, or the longest prefix of one that does not go on) is one unit `none`, as in Python's
decoder: `decode?` is `bytes.decode("utf-8")`, `decodeReplace` the one with `errors="replace"`.

    Closed s → decodeReplace (s ++ s') = decodeReplace s ++ decodeReplace s'                (decodeReplace_append)
    decode? s = some text → s = text.flatMap encodeChar                                     (eq_flatMap_of_decode?)
    (∀ b < 0x80, f b has the units g of b) → the units of s.flatMap f are those of s, by g  (unitsFrom_flatMap)
-/

namespace Utf8

abbrev Bytes := List UInt8

abbrev Text := List Char

/-! ## One byte -/

def Tail (b : UInt8) : Prop := 0x80 ≤ b.toNat ∧ b.toNat ≤ 0xBF

/-- The first byte of a longer character. -/
def Lead (b : UInt8) : Prop := 0xC2 ≤ b.toNat ∧ b.toNat ≤ 0xF4

/-- `b` may follow the first byte `a`: no overlong form, no surrogate, nothing above `0x10FFFF`. -/
def Second (a b : UInt8) : Prop :=
  Tail b ∧ (a.toNat = 0xE0 → 0xA0 ≤ b.toNat) ∧ (a.toNat = 0xED → b.toNat ≤ 0x9F) ∧
    (a.toNat = 0xF0 → 0x90 ≤ b.toNat) ∧ (a.toNat = 0xF4 → b.toNat ≤ 0x8F)

instance (b : UInt8) : Decidable (Tail b) := inferInstanceAs (Decidable (_ ∧ _))

instance (b : UInt8) : Decidable (Lead b) := inferInstanceAs (Decidable (_ ∧ _))

instance (a b : UInt8) : Decidable (Second a b) := inferInstanceAs (Decidable (_ ∧ _ ∧ _ ∧ _ ∧ _))

/-- The bytes of a character that is not complete. -/
inductive Pending
  | empty
  | one (a : UInt8) (h : Lead a)
  | two (a b : UInt8) (h : Lead a ∧ 0xE0 ≤ a.toNat ∧ Second a b)
  | three (a b c : UInt8) (h : (Lead a ∧ 0xF0 ≤ a.toNat ∧ Second a b) ∧ Tail c)

def Pending.bytes : Pending → Bytes
  | .empty => []
  | .one a _ => [a]
  | .two a b _ => [a, b]
  | .three a b c _ => [a, b, c]

def char2 (a b : UInt8) : Char := Char.ofNat ((a.toNat - 0xC0) * 64 + (b.toNat - 0x80))

def char3 (a b c : UInt8) : Char :=
  Char.ofNat ((a.toNat - 0xE0) * 4096 + (b.toNat - 0x80) * 64 + (c.toNat - 0x80))

def char4 (a b c d : UInt8) : Char :=
  Char.ofNat ((a.toNat - 0xF0) * 262144 + (b.toNat - 0x80) * 4096 + (c.toNat - 0x80) * 64 + (d.toNat - 0x80))

/-- A byte between characters. -/
def first (b : UInt8) : List (Option Char) × Pending :=
  if b.toNat < 0x80 then ([some (Char.ofNat b.toNat)], .empty)
  else if h : Lead b then ([], .one b h)
  else ([none], .empty)

/-- The pending bytes end here, and `b` is read again. -/
def broken (b : UInt8) : List (Option Char) × Pending := (none :: (first b).1, (first b).2)

/-- The units that a byte completes, and what is pending after it. -/
def Pending.read : Pending → UInt8 → List (Option Char) × Pending
  | .empty, b => first b
  | .one a ha, b =>
    if hb : Second a b then
      if he : 0xE0 ≤ a.toNat then ([], .two a b ⟨ha, he, hb⟩) else ([some (char2 a b)], .empty)
    else broken b
  | .two a b hab, c =>
    if hc : Tail c then
      if hf : 0xF0 ≤ a.toNat then ([], .three a b c ⟨⟨hab.1, hf, hab.2.2⟩, hc⟩) else ([some (char3 a b c)], .empty)
    else broken c
  | .three a b c _, d => if Tail d then ([some (char4 a b c d)], .empty) else broken d

/-- The unit of a character that the text breaks off. -/
def Pending.leftover : Pending → List (Option Char)
  | .empty => []
  | _ => [none]

def unitsFrom : Pending → Bytes → List (Option Char)
  | p, [] => p.leftover
  | p, b :: bs => (p.read b).1 ++ unitsFrom (p.read b).2 bs

def units (bs : Bytes) : List (Option Char) := unitsFrom .empty bs

/-- `bs.decode("utf-8", errors="replace")`. -/
def decodeReplace (bs : Bytes) : Text := (units bs).map fun u => u.getD '\uFFFD'

/-- `bs.decode("utf-8")`. -/
def decode? (bs : Bytes) : Option Text := (units bs).mapM id

example : decode? [0x41, 0xE2, 0x82, 0xAC] = some ['A', '€'] := by decide

example : decodeReplace [0xE2, 0x82, 0x41, 0xC0] = ['\uFFFD', 'A', '\uFFFD'] := by decide

/-! ## ASCII -/

theorem toNat_ofNat {n : ℕ} (h : n.isValidChar) : (Char.ofNat n).toNat = n := by
  rw [Char.ofNat, dif_pos h]
  rfl

theorem toNat_ofNat_ascii {n : ℕ} (h : n < 0x80) : (Char.ofNat n).toNat = n := toNat_ofNat (Or.inl (by omega))

theorem first_ascii {b : UInt8} (h : b.toNat < 0x80) : first b = ([some (Char.ofNat b.toNat)], .empty) := if_pos h

theorem not_tail {b : UInt8} (h : b.toNat < 0x80) : ¬ Tail b := fun ht => absurd ht.1 (by omega)

/-- An ASCII byte ends what is pending. -/
theorem read_ascii (p : Pending) {b : UInt8} (h : b.toNat < 0x80) :
    p.read b = (p.leftover ++ [some (Char.ofNat b.toNat)], .empty) := by
  cases p with
  | empty => exact first_ascii h
  | one a ha => rw [Pending.read, dif_neg fun hs => not_tail h hs.1, broken, first_ascii h]; rfl
  | two a b hab => rw [Pending.read, dif_neg (not_tail h), broken, first_ascii h]; rfl
  | three a b c habc => rw [Pending.read, if_neg (not_tail h), broken, first_ascii h]; rfl

theorem unitsFrom_ascii (p : Pending) {b : UInt8} (h : b.toNat < 0x80) (bs : Bytes) :
    unitsFrom p (b :: bs) = p.leftover ++ some (Char.ofNat b.toNat) :: units bs := by
  rw [unitsFrom, read_ascii p h, List.append_assoc]
  rfl

theorem unitsFrom_append_ascii (p : Pending) (s : Bytes) {b : UInt8} (h : b.toNat < 0x80) (bs : Bytes) :
    unitsFrom p (s ++ b :: bs) = unitsFrom p s ++ some (Char.ofNat b.toNat) :: units bs := by
  induction s generalizing p with
  | nil => exact unitsFrom_ascii p h bs
  | cons a s ih => rw [List.cons_append, unitsFrom, ih, unitsFrom, List.append_assoc]

/-- The last byte is an ASCII one: nothing is pending after the text. -/
def Closed (s : Bytes) : Prop := ∀ b ∈ s.getLast?, b.toNat < 0x80

instance (s : Bytes) : Decidable (Closed s) := Option.decidableForallMem _

theorem Closed.concat (s : Bytes) {b : UInt8} (h : b.toNat < 0x80) : Closed (s ++ [b]) := by
  intro b' hb'
  rw [List.getLast?_concat] at hb'
  rwa [← Option.some.inj hb']

theorem Closed.append {s s' : Bytes} (h : Closed s) (h' : Closed s') : Closed (s ++ s') := by
  intro b hb
  rw [List.getLast?_append, Option.mem_def, Option.or_eq_some_iff] at hb
  rcases hb with hb | ⟨-, hb⟩
  · exact h' b hb
  · exact h b hb

theorem units_append {s : Bytes} (h : Closed s) (s' : Bytes) : units (s ++ s') = units s ++ units s' := by
  rcases List.eq_nil_or_concat s with rfl | ⟨init, b, rfl⟩
  · rfl
  · have hb : b.toNat < 0x80 := h b (by simp)
    rw [List.concat_eq_append, List.append_assoc, units, units, List.singleton_append, unitsFrom_append_ascii _ _ hb,
      unitsFrom_append_ascii _ _ hb, List.append_assoc]
    rfl

theorem decodeReplace_append {s : Bytes} (h : Closed s) (s' : Bytes) :
    decodeReplace (s ++ s') = decodeReplace s ++ decodeReplace s' := by
  rw [decodeReplace, units_append h, List.map_append]
  rfl

theorem decodeReplace_ascii {b : UInt8} (h : b.toNat < 0x80) (bs : Bytes) :
    decodeReplace (b :: bs) = Char.ofNat b.toNat :: decodeReplace bs := by
  rw [decodeReplace, units, unitsFrom_ascii _ h]
  rfl

theorem decodeReplace_append_ascii (s : Bytes) {b : UInt8} (h : b.toNat < 0x80) (bs : Bytes) :
    decodeReplace (s ++ b :: bs) = decodeReplace s ++ Char.ofNat b.toNat :: decodeReplace bs := by
  rw [decodeReplace, units, unitsFrom_append_ascii _ s h, List.map_append]
  rfl

/-- ASCII characters as bytes. -/
def ofAscii (text : Text) : Bytes := text.map fun c => UInt8.ofNat c.toNat

def Ascii (text : Text) : Prop := ∀ c ∈ text, c.toNat < 0x80

instance (text : Text) : Decidable (Ascii text) := List.decidableBAll _ text

theorem toNat_ofAscii {c : Char} (h : c.toNat < 0x80) : (UInt8.ofNat c.toNat).toNat = c.toNat := by
  rw [UInt8.toNat_ofNat', Nat.mod_eq_of_lt (by omega)]

theorem closed_ofAscii {text : Text} (h : Ascii text) : Closed (ofAscii text) := by
  intro b hb
  obtain ⟨c, hc, rfl⟩ := List.mem_map.mp (List.mem_of_getLast? hb)
  rw [toNat_ofAscii (h c hc)]
  exact h c hc

theorem decodeReplace_ofAscii {text : Text} (h : Ascii text) (s : Bytes) :
    decodeReplace (ofAscii text ++ s) = text ++ decodeReplace s := by
  induction text with
  | nil => rfl
  | cons c text ih =>
    have hc := h c List.mem_cons_self
    rw [ofAscii, List.map_cons, List.cons_append, decodeReplace_ascii (by rw [toNat_ofAscii hc]; exact hc),
      toNat_ofAscii hc, Char.ofNat_toNat]
    exact congrArg (c :: ·) (ih fun d hd => h d (List.mem_cons_of_mem c hd))

theorem decodeReplace_eq_ofAscii {text : Text} (h : Ascii text) : decodeReplace (ofAscii text) = text := by
  have htext := decodeReplace_ofAscii h []
  rwa [List.append_nil, show decodeReplace [] = [] from rfl, List.append_nil] at htext

/-! ## Longer characters -/

theorem toNat_char2 {a b : UInt8} (ha : Lead a) (hlt : a.toNat < 0xE0) (hb : Second a b) :
    (char2 a b).toNat = (a.toNat - 0xC0) * 64 + (b.toNat - 0x80) ∧ 0x80 ≤ (char2 a b).toNat := by
  obtain ⟨hlo, -⟩ := ha
  obtain ⟨⟨hblo, hbhi⟩, -⟩ := hb
  have hval : (char2 a b).toNat = (a.toNat - 0xC0) * 64 + (b.toNat - 0x80) := toNat_ofNat (Or.inl (by omega))
  exact ⟨hval, by omega⟩

theorem toNat_char3 {a b c : UInt8} (hge : 0xE0 ≤ a.toNat) (hlt : a.toNat < 0xF0) (hb : Second a b) (hc : Tail c) :
    (char3 a b c).toNat = (a.toNat - 0xE0) * 4096 + (b.toNat - 0x80) * 64 + (c.toNat - 0x80) ∧
      0x800 ≤ (char3 a b c).toNat := by
  obtain ⟨⟨hblo, hbhi⟩, he0, hed, -, -⟩ := hb
  obtain ⟨hclo, hchi⟩ := hc
  have hvalid : ((a.toNat - 0xE0) * 4096 + (b.toNat - 0x80) * 64 + (c.toNat - 0x80)).isValidChar := by
    rw [Nat.isValidChar]
    omega
  have hval := toNat_ofNat hvalid
  exact ⟨hval, by rw [char3, hval]; omega⟩

theorem toNat_char4 {a b c d : UInt8} (ha : Lead a) (hge : 0xF0 ≤ a.toNat) (hb : Second a b) (hc : Tail c)
    (hd : Tail d) :
    (char4 a b c d).toNat =
        (a.toNat - 0xF0) * 262144 + (b.toNat - 0x80) * 4096 + (c.toNat - 0x80) * 64 + (d.toNat - 0x80) ∧
      0x10000 ≤ (char4 a b c d).toNat := by
  obtain ⟨-, hhi⟩ := ha
  obtain ⟨⟨hblo, hbhi⟩, -, -, hf0, hf4⟩ := hb
  obtain ⟨hclo, hchi⟩ := hc
  obtain ⟨hdlo, hdhi⟩ := hd
  have hvalid : ((a.toNat - 0xF0) * 262144 + (b.toNat - 0x80) * 4096 + (c.toNat - 0x80) * 64 +
      (d.toNat - 0x80)).isValidChar := by
    rw [Nat.isValidChar]
    omega
  have hval := toNat_ofNat hvalid
  exact ⟨hval, by rw [char4, hval]; omega⟩

/-- What a byte completes: the ASCII character that it is, or longer ones and ill-formed parts. -/
theorem mem_read {p : Pending} {b : UInt8} {c : Char} (h : some c ∈ (p.read b).1) :
    b.toNat < 0x80 ∧ c = Char.ofNat b.toNat ∨ 0x80 ≤ b.toNat ∧ 0x80 ≤ c.toNat := by
  rcases Nat.lt_or_ge b.toNat 0x80 with hb | hb
  · rw [read_ascii p hb] at h
    refine Or.inl ⟨hb, ?_⟩
    cases p <;> simpa [Pending.leftover] using h
  · have hfirst : some c ∉ (first b).1 := by
      rw [first, if_neg (by omega)]
      split_ifs <;> simp
    have hbroken : some c ∉ (broken b).1 := by simp [broken, hfirst]
    refine Or.inr ⟨hb, ?_⟩
    cases p with
    | empty => exact absurd h hfirst
    | one a ha =>
      rw [Pending.read] at h
      split_ifs at h with hs he
      · simp at h
      · have hchar : c = char2 a b := by simpa using h
        have hlt : a.toNat < 0xE0 := Nat.lt_of_not_le he
        rw [hchar]
        exact (toNat_char2 ha hlt hs).2
      · exact absurd h hbroken
    | two a a' ha =>
      rw [Pending.read] at h
      split_ifs at h with ht hf
      · simp at h
      · have hchar : c = char3 a a' b := by simpa using h
        have hlt : a.toNat < 0xF0 := Nat.lt_of_not_le hf
        rw [hchar]
        exact Nat.le_trans (by decide) (toNat_char3 ha.2.1 hlt ha.2.2 ht).2
      · exact absurd h hbroken
    | three a a' a'' ha =>
      rw [Pending.read] at h
      split_ifs at h with ht
      · have hchar : c = char4 a a' a'' b := by simpa using h
        rw [hchar]
        exact Nat.le_trans (by decide) (toNat_char4 ha.1.1 ha.1.2.1 ha.1.2.2 ha.2 ht).2
      · exact absurd h hbroken

/-- The ASCII characters of a text are the ASCII bytes. -/
theorem mem_units_ascii {n : ℕ} (hn : n < 0x80) (p : Pending) (s : Bytes) :
    some (Char.ofNat n) ∈ unitsFrom p s ↔ ∃ b ∈ s, b.toNat = n := by
  induction s generalizing p with
  | nil => cases p <;> simp [unitsFrom, Pending.leftover]
  | cons b s ih =>
    rw [unitsFrom, List.mem_append, ih]
    constructor
    · rintro (h | ⟨b', hb', rfl⟩)
      · rcases mem_read h with ⟨hb, heq⟩ | ⟨-, hge⟩
        · refine ⟨b, List.mem_cons_self, ?_⟩
          rw [← toNat_ofNat_ascii hb, ← heq, toNat_ofNat_ascii hn]
        · rw [toNat_ofNat_ascii hn] at hge
          omega
      · exact ⟨b', List.mem_cons_of_mem _ hb', rfl⟩
    · rintro ⟨b', hb', rfl⟩
      rcases List.mem_cons.mp hb' with rfl | hb'
      · exact Or.inl (by simp [read_ascii p hn])
      · exact Or.inr ⟨b', hb', rfl⟩

theorem mem_decodeReplace_ascii {n : ℕ} (hn : n < 0x80) (s : Bytes) :
    Char.ofNat n ∈ decodeReplace s ↔ ∃ b ∈ s, b.toNat = n := by
  rw [← mem_units_ascii hn .empty s, decodeReplace, List.mem_map]
  constructor
  · rintro ⟨u, hu, heq⟩
    cases u with
    | none =>
      have hval := congrArg Char.toNat heq
      rw [toNat_ofNat_ascii hn] at hval
      exact absurd hval (by simp; omega)
    | some c => exact heq ▸ hu
  · exact fun h => ⟨_, h, rfl⟩

/-! ## Encoding -/

/-- The character in UTF-8. -/
def encodeChar (c : Char) : Bytes :=
  if c.toNat < 0x80 then [UInt8.ofNat c.toNat]
  else if c.toNat < 0x800 then [UInt8.ofNat (0xC0 + c.toNat / 64), UInt8.ofNat (0x80 + c.toNat % 64)]
  else if c.toNat < 0x10000 then
    [UInt8.ofNat (0xE0 + c.toNat / 4096), UInt8.ofNat (0x80 + c.toNat / 64 % 64), UInt8.ofNat (0x80 + c.toNat % 64)]
  else
    [UInt8.ofNat (0xF0 + c.toNat / 262144), UInt8.ofNat (0x80 + c.toNat / 4096 % 64),
      UInt8.ofNat (0x80 + c.toNat / 64 % 64), UInt8.ofNat (0x80 + c.toNat % 64)]

theorem ofNat_eq {b : UInt8} {n : ℕ} (h : n = b.toNat) : UInt8.ofNat n = b := by
  rw [h, UInt8.ofNat_toNat]

theorem encodeChar_ascii {b : UInt8} (h : b.toNat < 0x80) : encodeChar (Char.ofNat b.toNat) = [b] := by
  rw [encodeChar, toNat_ofNat_ascii h, if_pos h, UInt8.ofNat_toNat]

theorem encodeChar_char2 {a b : UInt8} (ha : Lead a) (hlt : a.toNat < 0xE0) (hb : Second a b) :
    encodeChar (char2 a b) = [a, b] := by
  obtain ⟨hval, hge⟩ := toNat_char2 ha hlt hb
  obtain ⟨hlo, -⟩ := ha
  obtain ⟨⟨hblo, hbhi⟩, -⟩ := hb
  rw [encodeChar, if_neg (by omega), if_pos (by omega), ofNat_eq (b := a) (by omega), ofNat_eq (b := b) (by omega)]

theorem encodeChar_char3 {a b c : UInt8} (hge : 0xE0 ≤ a.toNat) (hlt : a.toNat < 0xF0) (hb : Second a b)
    (hc : Tail c) : encodeChar (char3 a b c) = [a, b, c] := by
  obtain ⟨hval, hmin⟩ := toNat_char3 hge hlt hb hc
  obtain ⟨⟨hblo, hbhi⟩, -⟩ := hb
  obtain ⟨hclo, hchi⟩ := hc
  rw [encodeChar, if_neg (by omega), if_neg (by omega), if_pos (by omega), ofNat_eq (b := a) (by omega),
    ofNat_eq (b := b) (by omega), ofNat_eq (b := c) (by omega)]

theorem encodeChar_char4 {a b c d : UInt8} (ha : Lead a) (hge : 0xF0 ≤ a.toNat) (hb : Second a b) (hc : Tail c)
    (hd : Tail d) : encodeChar (char4 a b c d) = [a, b, c, d] := by
  obtain ⟨hval, hmin⟩ := toNat_char4 ha hge hb hc hd
  obtain ⟨⟨hblo, hbhi⟩, -⟩ := hb
  obtain ⟨hclo, hchi⟩ := hc
  obtain ⟨hdlo, hdhi⟩ := hd
  rw [encodeChar, if_neg (by omega), if_neg (by omega), if_neg (by omega), ofNat_eq (b := a) (by omega),
    ofNat_eq (b := b) (by omega), ofNat_eq (b := c) (by omega), ofNat_eq (b := d) (by omega)]

/-- A byte that breaks nothing off completes one character or none. -/
theorem read_bytes {p : Pending} {b : UInt8} (h : none ∉ (p.read b).1) :
    (∃ c, (p.read b).1 = [some c] ∧ (p.read b).2 = .empty ∧ p.bytes ++ [b] = encodeChar c) ∨
      (p.read b).1 = [] ∧ p.bytes ++ [b] = (p.read b).2.bytes := by
  have hbroken : none ∈ (broken b).1 := List.mem_cons_self
  cases p with
  | empty =>
    rw [Pending.read, first] at h ⊢
    split_ifs at h ⊢ with hascii hlead
    · exact Or.inl ⟨_, rfl, rfl, (encodeChar_ascii hascii).symm⟩
    · exact Or.inr ⟨rfl, rfl⟩
    · exact absurd List.mem_cons_self h
  | one a ha =>
    rw [Pending.read] at h ⊢
    split_ifs at h ⊢ with hs he
    · exact Or.inr ⟨rfl, rfl⟩
    · exact Or.inl ⟨_, rfl, rfl, (encodeChar_char2 ha (Nat.lt_of_not_le he) hs).symm⟩
    · exact absurd hbroken h
  | two a a' ha =>
    rw [Pending.read] at h ⊢
    split_ifs at h ⊢ with ht hf
    · exact Or.inr ⟨rfl, rfl⟩
    · exact Or.inl ⟨_, rfl, rfl, (encodeChar_char3 ha.2.1 (Nat.lt_of_not_le hf) ha.2.2 ht).symm⟩
    · exact absurd hbroken h
  | three a a' a'' ha =>
    rw [Pending.read] at h ⊢
    split_ifs at h ⊢ with ht
    · exact Or.inl ⟨_, rfl, rfl, (encodeChar_char4 ha.1.1 ha.1.2.1 ha.1.2.2 ha.2 ht).symm⟩
    · exact absurd hbroken h

theorem none_notMem_map_some (text : Text) : none ∉ text.map some := by simp

theorem bytes_eq_of_units (p : Pending) (s : Bytes) {text : Text} (h : unitsFrom p s = text.map some) :
    p.bytes ++ s = text.flatMap encodeChar := by
  induction s generalizing p text with
  | nil =>
    cases p with
    | empty => obtain rfl : text = [] := List.map_eq_nil_iff.mp h.symm; rfl
    | one a ha => exact absurd (h ▸ List.mem_singleton_self none) (none_notMem_map_some text)
    | two a b hab => exact absurd (h ▸ List.mem_singleton_self none) (none_notMem_map_some text)
    | three a b c habc => exact absurd (h ▸ List.mem_singleton_self none) (none_notMem_map_some text)
  | cons b s ih =>
    rw [unitsFrom] at h
    have hnone : none ∉ (p.read b).1 := fun hmem =>
      none_notMem_map_some text (h ▸ List.mem_append_left (unitsFrom (p.read b).2 s) hmem)
    rw [← List.singleton_append, ← List.append_assoc]
    rcases read_bytes hnone with ⟨c, hread, hempty, hbytes⟩ | ⟨hread, hbytes⟩
    · rw [hread, hempty, List.singleton_append] at h
      obtain ⟨c', rest, rfl, hc, hrest⟩ := List.map_eq_cons_iff.mp h.symm
      rw [hbytes, List.flatMap_cons, ← ih .empty hrest.symm, Option.some.inj hc]
      rfl
    · rw [hread, List.nil_append] at h
      rw [hbytes, ih _ h]

theorem units_of_decode? {s : Bytes} {text : Text} (h : decode? s = some text) : units s = text.map some := by
  rw [decode?] at h
  generalize units s = us at h
  induction us generalizing text with
  | nil =>
    cases h
    rfl
  | cons u us ih =>
    rw [List.mapM_cons, Option.bind_eq_bind, Option.bind_eq_some_iff] at h
    obtain ⟨c, hc, h⟩ := h
    rw [Option.bind_eq_bind, Option.bind_eq_some_iff] at h
    obtain ⟨rest, hrest, h⟩ := h
    cases h
    rw [List.map_cons, ← ih hrest, ← hc]
    rfl

theorem eq_flatMap_of_decode? {s : Bytes} {text : Text} (h : decode? s = some text) : s = text.flatMap encodeChar :=
  bytes_eq_of_units .empty s (units_of_decode? h)

/-- Texts that are UTF-8 are told apart by what they read as. -/
theorem decode?_injective {s s' : Bytes} {text : Text} (h : decode? s = some text) (h' : decode? s' = some text) :
    s = s' := (eq_flatMap_of_decode? h).trans (eq_flatMap_of_decode? h').symm

theorem decodeReplace_of_decode? {s : Bytes} {text : Text} (h : decode? s = some text) : decodeReplace s = text := by
  rw [decodeReplace, units_of_decode? h, List.map_map]
  exact List.map_id text

/-! ## Rewriting of ASCII characters -/

/-- `f` rewrites the ASCII bytes as `g` the ASCII characters; both keep all others. -/
structure AsciiRewrite (f : UInt8 → Bytes) (g : Char → Text) : Prop where
  ne_nil : ∀ b, b.toNat < 0x80 → f b ≠ []
  ascii : ∀ b, b.toNat < 0x80 → ∀ x ∈ f b, x.toNat < 0x80
  chars : ∀ b, b.toNat < 0x80 → (f b).map (fun x => Char.ofNat x.toNat) = g (Char.ofNat b.toNat)
  byte : ∀ b, 0x80 ≤ b.toNat → f b = [b]
  char : ∀ c, 0x80 ≤ c.toNat → g c = [c]

def rewriteUnit (g : Char → Text) : Option Char → List (Option Char)
  | none => [none]
  | some c => (g c).map some

theorem units_append_of_ascii {xs : Bytes} (h : ∀ x ∈ xs, x.toNat < 0x80) (s : Bytes) :
    units (xs ++ s) = xs.map (fun x => some (Char.ofNat x.toNat)) ++ units s := by
  induction xs with
  | nil => rfl
  | cons x xs ih =>
    rw [List.cons_append, units, unitsFrom_ascii _ (h x List.mem_cons_self),
      ih fun y hy => h y (List.mem_cons_of_mem x hy)]
    rfl

theorem unitsFrom_append_of_ascii (p : Pending) {xs : Bytes} (hne : xs ≠ []) (h : ∀ x ∈ xs, x.toNat < 0x80)
    (s : Bytes) :
    unitsFrom p (xs ++ s) = p.leftover ++ (xs.map (fun x => some (Char.ofNat x.toNat)) ++ units s) := by
  cases xs with
  | nil => exact absurd rfl hne
  | cons x xs =>
    rw [List.cons_append, unitsFrom_ascii p (h x List.mem_cons_self),
      units_append_of_ascii fun y hy => h y (List.mem_cons_of_mem x hy)]
    rfl

variable {f : UInt8 → Bytes} {g : Char → Text}

theorem AsciiRewrite.units (r : AsciiRewrite f g) (p : Pending) (s : Bytes) :
    unitsFrom p (s.flatMap f) = (unitsFrom p s).flatMap (rewriteUnit g) := by
  induction s generalizing p with
  | nil => cases p <;> rfl
  | cons b s ih =>
    rw [List.flatMap_cons]
    rcases Nat.lt_or_ge b.toNat 0x80 with hb | hb
    · have hleft : p.leftover.flatMap (rewriteUnit g) = p.leftover := by cases p <;> rfl
      have hsome : rewriteUnit g (some (Char.ofNat b.toNat)) = (f b).map fun x => some (Char.ofNat x.toNat) := by
        rw [rewriteUnit, ← r.chars b hb, List.map_map]
        rfl
      rw [unitsFrom_append_of_ascii p (r.ne_nil b hb) (r.ascii b hb), unitsFrom_ascii p hb, List.flatMap_append, hleft,
        List.flatMap_cons, hsome, Utf8.units, ih]
      rfl
    · have hkeep : (p.read b).1.flatMap (rewriteUnit g) = (p.read b).1 := by
        have hsingle : ∀ u ∈ (p.read b).1, rewriteUnit g u = [u] := by
          intro u hu
          cases u with
          | none => rfl
          | some c =>
            rcases mem_read hu with ⟨hlt, -⟩ | ⟨-, hc⟩
            · omega
            · rw [rewriteUnit, r.char c hc]
              rfl
        rw [List.flatMap_congr hsingle, List.flatMap_singleton']
      rw [r.byte b hb, List.singleton_append, unitsFrom, ih, unitsFrom, List.flatMap_append, hkeep]

theorem AsciiRewrite.decodeReplace (r : AsciiRewrite f g) (s : Bytes) :
    decodeReplace (s.flatMap f) = (decodeReplace s).flatMap g := by
  rw [Utf8.decodeReplace, Utf8.decodeReplace, Utf8.units, r.units, List.map_flatMap, List.flatMap_map]
  refine List.flatMap_congr fun u _ => ?_
  cases u with
  | none => exact (r.char '\uFFFD' (by decide)).symm
  | some c => simp [rewriteUnit, Function.comp_def]

end Utf8
