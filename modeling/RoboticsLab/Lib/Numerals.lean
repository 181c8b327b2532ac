import Mathlib.Algebra.Order.Field.Basic

/-!
# Numerals over a field

The numerals that definitions over a field write out, each with a named instance: the term of such a
definition then does not depend on where it is elaborated.
-/

namespace Numerals

instance atLeastTwo_2 : Nat.AtLeastTwo 2 := ⟨by decide⟩

instance atLeastTwo_3 : Nat.AtLeastTwo 3 := ⟨by decide⟩

instance atLeastTwo_4 : Nat.AtLeastTwo 4 := ⟨by decide⟩

instance atLeastTwo_5 : Nat.AtLeastTwo 5 := ⟨by decide⟩

instance atLeastTwo_6 : Nat.AtLeastTwo 6 := ⟨by decide⟩

instance atLeastTwo_7 : Nat.AtLeastTwo 7 := ⟨by decide⟩

instance atLeastTwo_8 : Nat.AtLeastTwo 8 := ⟨by decide⟩

instance atLeastTwo_10 : Nat.AtLeastTwo 10 := ⟨by decide⟩

instance atLeastTwo_30 : Nat.AtLeastTwo 30 := ⟨by decide⟩

instance atLeastTwo_100 : Nat.AtLeastTwo 100 := ⟨by decide⟩

instance atLeastTwo_1000 : Nat.AtLeastTwo 1000 := ⟨by decide⟩

instance atLeastTwo_10000 : Nat.AtLeastTwo 10000 := ⟨by decide⟩

instance neZero_2 : NeZero 2 := ⟨Nat.succ_ne_zero 1⟩

instance neZero_3 : NeZero 3 := ⟨Nat.succ_ne_zero 2⟩

instance neZero_6 : NeZero 6 := ⟨Nat.succ_ne_zero 5⟩

instance neZero_7 : NeZero 7 := ⟨Nat.succ_ne_zero 6⟩

instance neZero_8 : NeZero 8 := ⟨Nat.succ_ne_zero 7⟩

end Numerals
