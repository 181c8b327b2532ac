import Mathlib.Data.Nat.Bitwise
import Mathlib.Order.Basic

/-!
# Layout: byte ranges, alignment, checked 64-bit arithmetic

A `ByteRange` is a start and a length, exact natural numbers.  The machine's side is `UInt64`: sums and products
that are checked (`checkedAdd`, `checkedMul`) are exact when they succeed, and rounding up to 64 is exact
unless it wraps.  Cells of one size, one after the other, are apart and fill their span.

    checkedMul a b = some c → c.toNat = a.toNat * b.toNat                       (checkedMul_toNat)
    align64 (UInt64.ofInt z) = UInt64.ofInt (64 * ⌈z / 64⌉)                      (align64_ofInt)
-/

namespace Layout

/-! ## Byte ranges -/

/-- The bytes `[start, start + len)`. -/
structure ByteRange where
  start : ℕ
  len : ℕ
deriving DecidableEq

namespace ByteRange

def stop (r : ByteRange) : ℕ := r.start + r.len

/-- All bytes of `r` are bytes of `s`. -/
def Within (r s : ByteRange) : Prop := s.start ≤ r.start ∧ r.stop ≤ s.stop

/-- One ends before the other starts. -/
def Apart (r s : ByteRange) : Prop := r.stop ≤ s.start ∨ s.stop ≤ r.start

instance (r s : ByteRange) : Decidable (r.Within s) := inferInstanceAs (Decidable (_ ∧ _))

instance (r s : ByteRange) : Decidable (r.Apart s) := inferInstanceAs (Decidable (_ ∨ _))

theorem Apart.symm {r s : ByteRange} (h : r.Apart s) : s.Apart r := Or.symm h

/-- Parts of ranges that are apart are apart. -/
theorem Apart.mono {r r' s s' : ByteRange} (h : r.Apart s) (hr : r'.Within r) (hs : s'.Within s) : r'.Apart s' := by
  rcases h with h | h
  · left
    exact hr.2.trans (h.trans hs.1)
  · right
    exact hs.2.trans (h.trans hr.1)

/-- Cell `k` of cells of `size` bytes from `start` on. -/
def cell (start size k : ℕ) : ByteRange := ⟨start + size * k, size⟩

theorem cell_within {start size k n : ℕ} (h : k < n) : (cell start size k).Within ⟨start, size * n⟩ := by
  refine ⟨Nat.le_add_right _ _, ?_⟩
  have hk : size * (k + 1) ≤ size * n := Nat.mul_le_mul_left size h
  rw [Nat.mul_succ] at hk
  simp only [stop, cell]
  omega

theorem cell_apart {start size k l : ℕ} (h : k ≠ l) : (cell start size k).Apart (cell start size l) := by
  have key : ∀ {a b : ℕ}, a < b → size * a + size ≤ size * b := by
    intro a b hab
    rw [← Nat.mul_succ]
    exact Nat.mul_le_mul_left size hab
  rcases Nat.lt_or_gt_of_ne h with h | h
  · left
    have := key h
    simp only [stop, cell]
    omega
  · right
    have := key h
    simp only [stop, cell]
    omega

/-- Ranges one after the other, from `c` on. -/
def Consecutive : ℕ → List ByteRange → Prop
  | _, [] => True
  | c, r :: rs => r.start = c ∧ Consecutive r.stop rs

theorem Consecutive.le_start {c : ℕ} {rs : List ByteRange} (h : Consecutive c rs) : ∀ r ∈ rs, c ≤ r.start := by
  induction rs generalizing c with
  | nil => simp
  | cons r rs ih =>
    obtain ⟨rfl, h⟩ := h
    intro s hs
    rcases List.mem_cons.mp hs with rfl | hs
    · exact le_rfl
    · exact (Nat.le_add_right _ _).trans (ih h s hs)

/-- **Consecutive ranges** are apart. -/
theorem Consecutive.apart {c : ℕ} {rs : List ByteRange} (h : Consecutive c rs) : rs.Pairwise Apart := by
  induction rs generalizing c with
  | nil => exact .nil
  | cons r rs ih =>
    obtain ⟨-, h⟩ := h
    refine List.pairwise_cons.mpr ⟨?_, ih h⟩
    intro s hs
    left
    exact h.le_start s hs

end ByteRange

/-! ## Checked arithmetic -/

/-- The sum, unless it wraps. -/
def checkedAdd (a b : UInt64) : Option UInt64 :=
  if 2 ^ 64 - 1 - b.toNat < a.toNat then none else some (a + b)

/-- The product, unless it wraps. -/
def checkedMul (a b : UInt64) : Option UInt64 :=
  if a ≠ 0 ∧ (2 ^ 64 - 1) / a.toNat < b.toNat then none else some (a * b)

theorem checkedAdd_wraps {a b : UInt64} :
    2 ^ 64 - 1 - b.toNat < a.toNat ↔ ¬ a.toNat + b.toNat < 2 ^ 64 := by
  have hb := b.toNat_lt
  omega

theorem checkedMul_wraps {a b : UInt64} :
    (a ≠ 0 ∧ (2 ^ 64 - 1) / a.toNat < b.toNat) ↔ ¬ a.toNat * b.toNat < 2 ^ 64 := by
  rw [ne_eq, ← UInt64.toNat_inj, UInt64.toNat_zero]
  by_cases h0 : a.toNat = 0
  · simp [h0]
  · rw [Nat.div_lt_iff_lt_mul (Nat.pos_of_ne_zero h0), Nat.mul_comm b.toNat]
    omega

/-- **A checked sum** is exact. -/
theorem checkedAdd_eq_some {a b c : UInt64} :
    checkedAdd a b = some c ↔ a.toNat + b.toNat < 2 ^ 64 ∧ a + b = c := by
  unfold checkedAdd
  split
  next h =>
    have hw := checkedAdd_wraps.mp h
    constructor
    · intro h'
      cases h'
    · rintro ⟨h', -⟩
      exact absurd h' hw
  next h =>
    have hw := not_not.mp (mt checkedAdd_wraps.mpr h)
    rw [Option.some.injEq]
    exact (and_iff_right hw).symm

/-- **A checked product** is exact. -/
theorem checkedMul_eq_some {a b c : UInt64} :
    checkedMul a b = some c ↔ a.toNat * b.toNat < 2 ^ 64 ∧ a * b = c := by
  unfold checkedMul
  split
  next h =>
    have hw := checkedMul_wraps.mp h
    constructor
    · intro h'
      cases h'
    · rintro ⟨h', -⟩
      exact absurd h' hw
  next h =>
    have hw := not_not.mp (mt checkedMul_wraps.mpr h)
    rw [Option.some.injEq]
    exact (and_iff_right hw).symm

theorem checkedAdd_toNat {a b c : UInt64} (h : checkedAdd a b = some c) : c.toNat = a.toNat + b.toNat := by
  obtain ⟨hlt, rfl⟩ := checkedAdd_eq_some.mp h
  rw [UInt64.toNat_add, Nat.mod_eq_of_lt hlt]

theorem checkedMul_toNat {a b c : UInt64} (h : checkedMul a b = some c) : c.toNat = a.toNat * b.toNat := by
  obtain ⟨hlt, rfl⟩ := checkedMul_eq_some.mp h
  rw [UInt64.toNat_mul, Nat.mod_eq_of_lt hlt]

/-- **A checked span.**  `n` cells of `size` bytes from `start` on end before `bound`, as exact numbers, when
the product and the sum are checked and compared with it. -/
theorem checked_span {start n size bound : UInt64} :
    (∃ bytes stop, checkedMul n size = some bytes ∧ checkedAdd start bytes = some stop ∧ ¬ bound < stop) ↔
      start.toNat + n.toNat * size.toNat ≤ bound.toNat := by
  constructor
  · rintro ⟨bytes, stop, hmul, hadd, hle⟩
    rw [← checkedMul_toNat hmul, ← checkedAdd_toNat hadd]
    rw [UInt64.lt_iff_toNat_lt] at hle
    exact Nat.not_lt.mp hle
  · intro h
    have hbound := bound.toNat_lt
    have hmul : checkedMul n size = some (n * size) := checkedMul_eq_some.mpr ⟨by omega, rfl⟩
    have hadd : checkedAdd start (n * size) = some (start + n * size) := by
      refine checkedAdd_eq_some.mpr ⟨?_, rfl⟩
      rw [checkedMul_toNat hmul]
      omega
    refine ⟨n * size, start + n * size, hmul, hadd, ?_⟩
    rw [UInt64.lt_iff_toNat_lt, checkedAdd_toNat hadd, checkedMul_toNat hmul]
    omega

/-! ## Alignment -/

/-- `(v + 63) & ~63`. -/
def align64 (v : UInt64) : UInt64 := (v + 63) &&& ~~~63

theorem toNat_and_mask (x : UInt64) : (x &&& ~~~63).toNat = x.toNat / 64 * 64 := by
  have hx := x.toNat_lt
  have hmask : (~~~(63 : UInt64)).toNat = (2 ^ 58 - 1) * 2 ^ 6 := rfl
  rw [UInt64.toNat_and, hmask]
  apply Nat.eq_of_testBit_eq
  intro i
  have h64 : x.toNat / 64 * 64 = x.toNat / 2 ^ 6 * 2 ^ 6 := rfl
  rw [h64, Nat.testBit_and, Nat.testBit_mul_two_pow, Nat.testBit_mul_two_pow, Nat.testBit_div_two_pow,
    Nat.testBit_two_pow_sub_one]
  by_cases hi : 6 ≤ i
  · rw [Nat.sub_add_cancel hi]
    by_cases hi' : i < 64
    · have : i - 6 < 58 := by omega
      simp [hi, this]
    · have : x.toNat.testBit i = false :=
        Nat.testBit_lt_two_pow (hx.trans_le (Nat.pow_le_pow_right (by omega) (by omega)))
      simp [this]
  · simp [hi]

theorem align64_toNat (v : UInt64) : (align64 v).toNat = (v.toNat + 63) % 2 ^ 64 / 64 * 64 := by
  rw [align64, toNat_and_mask, UInt64.toNat_add]
  rfl

theorem align64_dvd (v : UInt64) : 64 ∣ (align64 v).toNat := by
  rw [align64_toNat]
  exact Dvd.intro_left _ rfl

theorem toNat_ofInt (z : ℤ) : (UInt64.ofInt z).toNat = (z % 2 ^ 64).toNat := by
  rw [UInt64.ofInt, UInt64.toNat_ofNat']
  omega

/-- **Rounding up** commutes with the reduction modulo `2^64`. -/
theorem align64_ofInt (z : ℤ) : align64 (UInt64.ofInt z) = UInt64.ofInt (64 * ((z + 63) / 64)) := by
  rw [← UInt64.toNat_inj, align64_toNat, toNat_ofInt, toNat_ofInt]
  omega

end Layout
