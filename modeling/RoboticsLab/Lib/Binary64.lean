import RoboticsLab.Lib.Double
import Mathlib.Algebra.Order.Field.Power
import Mathlib.Data.Int.Log
import Mathlib.Tactic.FieldSimp
import Mathlib.Tactic.Linarith
import Mathlib.Tactic.NormNum
import Mathlib.Tactic.Positivity

/-!
# Rounding to binary64

`nearest q` is the rational that IEEE 754 has for `q` in round to nearest, ties to even, before overflow is
looked at: 53 significant bits, and no bit below `2 ^ (-1074)`.  `Double.ofRat` is the `double` itself, and
`Double.round` makes the exact value of an operation the one that the machine computes.

    0 ≤ p ≤ q → nearest p ≤ nearest q                                                   (nearest_mono)
    2 ^ (-1022) ≤ |q| → |nearest q - q| ≤ |q| / 2 ^ 53                                  (abs_nearest_sub_le)
-/

namespace Binary64

/-- The integer nearest to `q`, of two the even one. -/
def roundHalfEven (q : ℚ) : ℤ :=
  if q - ⌊q⌋ < 1 / 2 then ⌊q⌋
  else if 1 / 2 < q - ⌊q⌋ then ⌊q⌋ + 1
  else if ⌊q⌋ % 2 = 0 then ⌊q⌋ else ⌊q⌋ + 1

/-- The exponent of the last place of a number of the size of `q`. -/
def lastPlace (q : ℚ) : ℤ := max (Int.log 2 |q| - 52) (-1074)

def nearest (q : ℚ) : ℚ := roundHalfEven (q / 2 ^ lastPlace q) * 2 ^ lastPlace q

/-! ## To the nearest integer -/

theorem abs_roundHalfEven_sub_le (q : ℚ) : |(roundHalfEven q : ℚ) - q| ≤ 1 / 2 := by
  have h0 := Int.floor_le q
  have h1 := Int.lt_floor_add_one q
  unfold roundHalfEven
  rw [abs_le]
  split_ifs <;> push_cast <;> constructor <;> linarith

theorem roundHalfEven_intCast (n : ℤ) : roundHalfEven n = n := by
  simp [roundHalfEven]

theorem roundHalfEven_two_pow (n : ℕ) : roundHalfEven (2 ^ n) = 2 ^ n := by
  have := roundHalfEven_intCast (2 ^ n)
  rwa [Int.cast_pow, Int.cast_ofNat] at this

theorem roundHalfEven_eq_or (q : ℚ) : roundHalfEven q = ⌊q⌋ ∨ roundHalfEven q = ⌊q⌋ + 1 := by
  unfold roundHalfEven
  split_ifs <;> simp

theorem roundHalfEven_mono {p q : ℚ} (h : p ≤ q) : roundHalfEven p ≤ roundHalfEven q := by
  rcases (Int.floor_mono h).lt_or_eq with hlt | heq
  · rcases roundHalfEven_eq_or p with hp | hp <;> rcases roundHalfEven_eq_or q with hq | hq <;> omega
  · -- one floor, so the fractions are in order
    unfold roundHalfEven
    rw [← heq]
    split_ifs <;> first | omega | exact absurd ‹_› (by linarith)

theorem roundHalfEven_nonneg {q : ℚ} (h : 0 ≤ q) : 0 ≤ roundHalfEven q := by
  have := roundHalfEven_mono h
  rwa [show (0 : ℚ) = ((0 : ℤ) : ℚ) by simp, roundHalfEven_intCast] at this

/-! ## To 53 bits -/

/-- At any place the error is half of it. -/
theorem abs_roundHalfEven_mul_sub_le (e : ℤ) (q : ℚ) :
    |(roundHalfEven (q / 2 ^ e) : ℚ) * 2 ^ e - q| ≤ 2 ^ e / 2 := by
  have hpos : (0 : ℚ) < 2 ^ e := by positivity
  have hscale : (roundHalfEven (q / 2 ^ e) : ℚ) * 2 ^ e - q =
      ((roundHalfEven (q / 2 ^ e) : ℚ) - q / 2 ^ e) * 2 ^ e := by
    field_simp
  rw [hscale, abs_mul, abs_of_pos hpos]
  have := mul_le_mul_of_nonneg_right (abs_roundHalfEven_sub_le (q / 2 ^ e)) hpos.le
  linarith

theorem lt_two_zpow_lastPlace (q : ℚ) : |q| < 2 ^ (lastPlace q + 53) := by
  have hlog := Int.lt_zpow_succ_log_self one_lt_two |q|
  rw [Nat.cast_ofNat] at hlog
  apply hlog.trans_le
  apply zpow_le_zpow_right₀ one_le_two
  have := le_max_left (Int.log 2 |q| - 52) (-1074)
  unfold lastPlace
  omega

/-- Above the least place a number has all of its 53 bits. -/
theorem two_zpow_lastPlace_le {q : ℚ} (hq : q ≠ 0) (h : -1074 < lastPlace q) : 2 ^ (lastPlace q + 52) ≤ |q| := by
  have hlog := Int.zpow_log_le_self one_lt_two (abs_pos.mpr hq)
  rw [Nat.cast_ofNat] at hlog
  have hplace : lastPlace q + 52 = Int.log 2 |q| := by
    unfold lastPlace at *
    omega
  rwa [hplace]

@[simp] theorem nearest_zero : nearest 0 = 0 := by
  rw [nearest, zero_div, show (0 : ℚ) = ((0 : ℤ) : ℚ) by simp, roundHalfEven_intCast]
  simp

theorem nearest_nonneg {q : ℚ} (h : 0 ≤ q) : 0 ≤ nearest q := by
  have hround : 0 ≤ roundHalfEven (q / 2 ^ lastPlace q) := roundHalfEven_nonneg (by positivity)
  have hround' : (0 : ℚ) ≤ roundHalfEven (q / 2 ^ lastPlace q) := by exact_mod_cast hround
  unfold nearest
  positivity

/-- A power of two at most `q` is at most its rounding at any place that the power has. -/
theorem two_zpow_le_roundHalfEven_mul {q : ℚ} {e : ℤ} {n : ℕ} (h : 2 ^ (e + n) ≤ q) :
    (2 : ℚ) ^ (e + n) ≤ roundHalfEven (q / 2 ^ e) * 2 ^ e := by
  have hpos : (0 : ℚ) < 2 ^ e := by positivity
  rw [zpow_add₀ two_ne_zero, zpow_natCast, mul_comm] at h ⊢
  have hle := roundHalfEven_mono ((le_div_iff₀ hpos).mpr h)
  rw [roundHalfEven_two_pow] at hle
  have hle' : (2 : ℚ) ^ n ≤ roundHalfEven (q / 2 ^ e) := by exact_mod_cast hle
  gcongr

theorem roundHalfEven_mul_le_two_zpow {q : ℚ} {e : ℤ} {n : ℕ} (h : q ≤ 2 ^ (e + n)) :
    roundHalfEven (q / 2 ^ e) * 2 ^ e ≤ (2 : ℚ) ^ (e + n) := by
  have hpos : (0 : ℚ) < 2 ^ e := by positivity
  rw [zpow_add₀ two_ne_zero, zpow_natCast, mul_comm ((2 : ℚ) ^ e)] at h ⊢
  have hle := roundHalfEven_mono ((div_le_iff₀ hpos).mpr h)
  rw [roundHalfEven_two_pow] at hle
  have hle' : (roundHalfEven (q / 2 ^ e) : ℚ) ≤ 2 ^ n := by exact_mod_cast hle
  gcongr

theorem lastPlace_mono {p q : ℚ} (h0 : 0 < p) (h : p ≤ q) : lastPlace p ≤ lastPlace q := by
  have hlog : Int.log 2 |p| ≤ Int.log 2 |q| := by
    rw [abs_of_pos h0, abs_of_pos (h0.trans_le h)]
    exact Int.log_mono_right h0 h
  unfold lastPlace
  omega

/-- **Rounding keeps the order.** -/
theorem nearest_mono {p q : ℚ} (h0 : 0 ≤ p) (h : p ≤ q) : nearest p ≤ nearest q := by
  rcases h0.eq_or_lt with rfl | hp
  · rw [nearest_zero]
    exact nearest_nonneg h
  have hq := hp.trans_le h
  rcases (lastPlace_mono hp h).eq_or_lt with heq | hlt
  · unfold nearest
    rw [heq]
    have hround : roundHalfEven (p / 2 ^ lastPlace q) ≤ roundHalfEven (q / 2 ^ lastPlace q) :=
      roundHalfEven_mono (by gcongr)
    have hround' : (roundHalfEven (p / 2 ^ lastPlace q) : ℚ) ≤ roundHalfEven (q / 2 ^ lastPlace q) := by
      exact_mod_cast hround
    gcongr
  · -- the greatest power of two that is not above `q` lies between the two
    have hleast : -1074 < lastPlace q := (le_max_right _ _ : -1074 ≤ lastPlace p).trans_lt hlt
    have hbelow := two_zpow_lastPlace_le hq.ne' hleast
    have habove := (lt_two_zpow_lastPlace p).le
    rw [abs_of_pos hp] at habove
    rw [abs_of_pos hq] at hbelow
    calc nearest p ≤ 2 ^ (lastPlace p + (53 : ℕ)) := roundHalfEven_mul_le_two_zpow habove
      _ ≤ 2 ^ (lastPlace q + (52 : ℕ)) := zpow_le_zpow_right₀ one_le_two (by push_cast; omega)
      _ ≤ nearest q := two_zpow_le_roundHalfEven_mul hbelow

/-- Half of the last of 53 bits. -/
theorem abs_nearest_sub_le {q : ℚ} (h : 2 ^ (-1022 : ℤ) ≤ |q|) : |nearest q - q| ≤ |q| / 2 ^ 53 := by
  have hq : q ≠ 0 := by
    rintro rfl
    rw [abs_zero] at h
    exact absurd h (not_le.mpr (by positivity))
  have hplace : 2 ^ (lastPlace q + 52) ≤ |q| := by
    rcases (le_max_right _ _ : -1074 ≤ lastPlace q).eq_or_lt with heq | hlt
    · rwa [lastPlace, ← heq]
    · exact two_zpow_lastPlace_le hq hlt
  refine (abs_roundHalfEven_mul_sub_le _ q).trans ?_
  rw [zpow_add₀ two_ne_zero] at hplace
  rw [le_div_iff₀ (by positivity)]
  norm_num at hplace ⊢
  linarith

/-- A natural number of 53 bits is a `double`. -/
theorem nearest_natCast {n : ℕ} (h : n < 2 ^ 53) : nearest n = n := by
  have hplace : lastPlace n ≤ 0 := by
    have hlog : Int.log 2 |(n : ℚ)| ≤ 52 := by
      rw [Nat.abs_cast, Int.log_natCast]
      exact_mod_cast Nat.lt_succ_iff.mp (Nat.log_lt_of_lt_pow' (by decide) h)
    unfold lastPlace
    omega
  have hpos : (0 : ℚ) < 2 ^ lastPlace n := by positivity
  -- the last place divides every integer
  have hwhole : (n : ℚ) / 2 ^ lastPlace n = ((n * 2 ^ (-lastPlace n).toNat : ℕ) : ℤ) := by
    rw [div_eq_mul_inv, ← zpow_neg]
    push_cast
    rw [← zpow_natCast, Int.toNat_of_nonneg (by omega)]
  rw [nearest, hwhole, roundHalfEven_intCast, ← hwhole, div_mul_cancel₀ _ hpos.ne']

theorem nearest_div_mono {m n : ℕ} {d : ℚ} (h : m ≤ n) (hd : 0 ≤ d) :
    nearest (nearest m / d) ≤ nearest (nearest n / d) := by
  have hround := nearest_nonneg (Nat.cast_nonneg m)
  have hcast : (m : ℚ) ≤ n := by exact_mod_cast h
  apply nearest_mono (by positivity)
  gcongr
  exact nearest_mono (Nat.cast_nonneg m) hcast

/-- A quotient above a whole number stays above it, while the numbers have 53 bits. -/
theorem lt_nearest_div {n d m : ℕ} (hd : 0 < d) (hd53 : d < 2 ^ 53) (hn53 : n * d + 1 < 2 ^ 53) (h : n * d < m) :
    (n : ℚ) < nearest (nearest m / d) := by
  have hpos : (0 : ℚ) < d := by exact_mod_cast hd
  refine lt_of_lt_of_le ?_ (nearest_div_mono (Nat.succ_le_of_lt h) hpos.le)
  rw [nearest_natCast hn53]
  have hquot : ((n * d + 1 : ℕ) : ℚ) / d = n + 1 / d := by
    push_cast
    field_simp
  have hnormal : (2 : ℚ) ^ (-1022 : ℤ) ≤ n + 1 / d := by
    have hinv : (2 : ℚ) ^ (-53 : ℤ) ≤ 1 / d := by
      rw [zpow_neg, ← one_div]
      apply one_div_le_one_div_of_le hpos
      exact_mod_cast hd53.le
    calc (2 : ℚ) ^ (-1022 : ℤ) ≤ 2 ^ (-53 : ℤ) := zpow_le_zpow_right₀ one_le_two (by decide)
      _ ≤ 1 / d := hinv
      _ ≤ n + 1 / d := le_add_of_nonneg_left (Nat.cast_nonneg n)
  have hquot0 : (0 : ℚ) ≤ n + 1 / d := by positivity
  have herror := abs_nearest_sub_le (hnormal.trans (le_abs_self _))
  rw [abs_of_nonneg hquot0, abs_le] at herror
  -- the error is less than what the quotient is above `n`
  have hsmall : ((n : ℚ) + 1 / d) / 2 ^ 53 < 1 / d := by
    have hbits : (n : ℚ) * d + 1 < 2 ^ 53 := by exact_mod_cast hn53
    rw [← hquot, div_div, div_lt_div_iff₀ (by positivity) hpos]
    push_cast
    rw [one_mul, mul_comm]
    exact mul_lt_mul_of_pos_left hbits hpos
  rw [hquot]
  linarith [herror.1]

end Binary64

/-! ## Doubles -/

namespace Double

open Binary64

/-- The `double` nearest to `q`, of two the one with the even last place. -/
def ofRat (q : ℚ) : Double :=
  if |nearest q| < 2 ^ 1024 then .fin (nearest q) else if 0 < q then .posInf else .negInf

example : ofRat (1 / 10) = .fin (3602879701896397 / 36028797018963968) := by decide +kernel

theorem ofRat_natCast {n : ℕ} (h : n < 2 ^ 53) : ofRat n = .fin n := by
  have hlt : (n : ℚ) < 2 ^ 1024 := by
    calc (n : ℚ) < 2 ^ 53 := by exact_mod_cast h
      _ ≤ 2 ^ 1024 := pow_le_pow_right₀ one_le_two (by decide)
  rw [ofRat, nearest_natCast h, Nat.abs_cast, if_pos hlt]

/-- The `double` that an operation with this exact value gives. -/
def round : Double → Double
  | fin q => ofRat q
  | d => d

theorem nonneg_of_ofRat {q r : ℚ} (hq : 0 ≤ q) (h : ofRat q = .fin r) : 0 ≤ r := by
  unfold ofRat at h
  split_ifs at h
  cases h
  exact nearest_nonneg hq

/-- The cast to an integer does not go up. -/
theorem toU64_fin_le {q : ℚ} (h : 0 ≤ q) : ((Double.fin q).toU64 : ℚ) ≤ q := by
  have hfloor : 0 ≤ ⌊q⌋ := Int.floor_nonneg.mpr h
  have hcast : ((⌊q⌋.toNat : ℤ) : ℚ) = ⌊q⌋ := by rw [Int.toNat_of_nonneg hfloor]
  have hwrap : (u64 ⌊q⌋.toNat : ℚ) ≤ (⌊q⌋.toNat : ℤ) := by exact_mod_cast Nat.mod_le _ _
  exact hwrap.trans (hcast.trans_le (Int.floor_le q))

/-- `static_cast<double>(n) / d` of an unsigned `n`: the conversion and the division both round. -/
def ofNatDiv (n : ℕ) (d : ℚ) : Double := ofRat (nearest n / d)

theorem ofRat_ne_nan (q : ℚ) : ofRat q ≠ .nan := by
  unfold ofRat
  split_ifs <;> simp

theorem ofRat_mono {p q : ℚ} (h0 : 0 ≤ p) (h : p ≤ q) : (ofRat p).le (ofRat q) := by
  have hp := nearest_nonneg h0
  have hle := nearest_mono h0 h
  unfold ofRat
  rw [abs_of_nonneg hp, abs_of_nonneg (hp.trans hle)]
  by_cases hq : nearest q < 2 ^ 1024
  · rw [if_pos hq, if_pos (hle.trans_lt hq)]
    simpa [le, lt] using hle
  · -- beyond the greatest `double` there is only the infinity
    have hpos : 0 < q := by
      refine (h0.trans h).lt_of_ne ?_
      rintro rfl
      exact hq (by simp)
    rw [if_neg hq, if_pos hpos]
    split_ifs <;> simp [le, lt]

theorem ofNatDiv_mono {m n : ℕ} {d : ℚ} (h : m ≤ n) (hd : 0 ≤ d) : (ofNatDiv m d).le (ofNatDiv n d) := by
  have hround := nearest_nonneg (Nat.cast_nonneg m)
  have hcast : (m : ℚ) ≤ n := by exact_mod_cast h
  apply ofRat_mono (by positivity)
  gcongr
  exact nearest_mono (Nat.cast_nonneg m) hcast

/-- At a whole number the comparison with a quotient is the exact one. -/
theorem lt_ofNatDiv {n d m : ℕ} (hd : 0 < d) (hd53 : d < 2 ^ 53) (hn53 : n * d + 1 < 2 ^ 53) (h : n * d < m) :
    (fin n).lt (ofNatDiv m d) := by
  have hlt := lt_nearest_div hd hd53 hn53 h
  have hpos : 0 < nearest m / d := by
    have hround := nearest_nonneg (Nat.cast_nonneg m)
    refine lt_of_le_of_ne (by positivity) fun hzero => ?_
    rw [← hzero, nearest_zero] at hlt
    exact absurd hlt (not_lt.mpr (Nat.cast_nonneg n))
  unfold ofNatDiv ofRat
  rw [if_pos hpos]
  split_ifs
  · simpa [lt] using hlt
  · rfl

end Double
