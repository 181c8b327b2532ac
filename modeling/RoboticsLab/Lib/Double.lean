import Mathlib.Data.Rat.Floor
import Mathlib.Algebra.Order.Ring.Rat

/-!
# Exact doubles and 64-bit counters

`Double` is a `double` without rounding: a rational number, an infinity or a NaN, with the IEEE
rules for the special values.  Comparisons are Booleans, false as soon as a side is NaN.  `u64`,
`addU64` and `subU64` are `uint64_t` values, sums and differences, which wrap at `2^64`.
-/

inductive Double
  | nan
  | negInf
  | posInf
  | fin (q : ℚ)
deriving DecidableEq

namespace Double

instance : Inhabited Double := ⟨fin 0⟩

def isFinite : Double → Bool
  | fin _ => true
  | _ => false

def lt : Double → Double → Bool
  | fin a, fin b => a < b
  | negInf, fin _ => true
  | negInf, posInf => true
  | fin _, posInf => true
  | _, _ => false

def le : Double → Double → Bool
  | nan, _ => false
  | _, nan => false
  | a, b => !lt b a

/-- The IEEE `==`. -/
def eq (a b : Double) : Bool := le a b && le b a

attribute [local simp] lt le

theorem lt_asymm {a b : Double} (h : lt a b) : lt b a = false := by
  cases a <;> cases b <;> simp_all [le_of_lt]

theorem not_le_of_lt {a b : Double} (h : lt a b) : le b a = false := by
  cases a <;> cases b <;> simp_all

theorem le_of_lt {a b : Double} (h : lt a b) : le a b := by
  have hba := lt_asymm h
  cases a <;> cases b <;> simp_all

theorem lt_of_lt_of_le {a b c : Double} (h : lt a b) (h' : le b c) : lt a c := by
  cases a <;> cases b <;> cases c <;> simp_all
  rename_i p q r
  exact h.trans_le h'

def neg : Double → Double
  | fin a => fin (-a)
  | negInf => posInf
  | posInf => negInf
  | nan => nan

def add : Double → Double → Double
  | fin a, fin b => fin (a + b)
  | nan, _ => nan
  | _, nan => nan
  | posInf, negInf => nan
  | negInf, posInf => nan
  | posInf, _ => posInf
  | _, posInf => posInf
  | negInf, _ => negInf
  | _, negInf => negInf

def sub (a b : Double) : Double := add a (neg b)

/-- The infinity with the sign of `q`; `0 · ∞` is NaN. -/
def signedInf (q : ℚ) : Double := if 0 < q then posInf else if q < 0 then negInf else nan

def mul : Double → Double → Double
  | fin a, fin b => fin (a * b)
  | nan, _ => nan
  | _, nan => nan
  | posInf, fin b => signedInf b
  | fin a, posInf => signedInf a
  | negInf, fin b => signedInf (-b)
  | fin a, negInf => signedInf (-a)
  | posInf, posInf => posInf
  | negInf, negInf => posInf
  | _, _ => negInf

theorem le_trans {a b c : Double} (h : le a b) (h' : le b c) : le a c := by
  cases a <;> cases b <;> cases c <;> simp_all
  rename_i p q r
  exact h.trans h'

theorem le_refl {a : Double} (h : a ≠ nan) : le a a := by
  cases a <;> simp_all

theorem le_of_lt_eq_false {a b : Double} (ha : a ≠ nan) (hb : b ≠ nan) (h : lt b a = false) : le a b := by
  cases a <;> cases b <;> simp_all

theorem ne_nan_of_le {a b : Double} (h : le a b) : a ≠ nan ∧ b ≠ nan := by
  cases a <;> cases b <;> simp_all

def abs : Double → Double
  | fin a => fin |a|
  | nan => nan
  | _ => posInf

/-- `std::min`. -/
def min (a b : Double) : Double := if lt b a then b else a

/-- `std::max`. -/
def max (a b : Double) : Double := if lt a b then b else a

theorem min_le_left {a b : Double} (h : a ≠ nan) : le (min a b) a := by
  unfold min
  split_ifs with hlt
  · exact le_of_lt hlt
  · exact le_refl h

theorem min_le_right {a b : Double} (ha : a ≠ nan) (hb : b ≠ nan) : le (min a b) b := by
  unfold min
  split_ifs with hlt
  · exact le_refl hb
  · exact le_of_lt_eq_false ha hb (Bool.eq_false_of_not_eq_true hlt)

theorem le_min {a b c : Double} (ha : le c a) (hb : le c b) : le c (min a b) := by
  unfold min
  split_ifs
  · exact hb
  · exact ha

theorem le_max_fin {m : ℚ} (z : Double) : le (fin m) (max (fin m) z) := by
  unfold max
  split_ifs with hlt
  · exact le_of_lt hlt
  · exact le_refl (by simp)

end Double

/-- A natural number stored in a `uint64_t`. -/
def u64 (n : ℕ) : ℕ := n % 2 ^ 64

def addU64 (a b : ℕ) : ℕ := u64 (a + b)

def subU64 (a b : ℕ) : ℕ := u64 (a + 2 ^ 64 - b)

/-- `static_cast<uint64_t>` of a double: truncation, for the values it is defined on. -/
def Double.toU64 : Double → ℕ
  | fin q => u64 ⌊q⌋.toNat
  | _ => 0

theorem u64_of_lt {n : ℕ} (h : n < 2 ^ 64) : u64 n = n := Nat.mod_eq_of_lt h
