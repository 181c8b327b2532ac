import RoboticsLab.Lib.Binary64
import RoboticsLab.Lib.Json

/-!
# Python's conversions of decoded JSON

`pyBool`, `pyFloat`, `pyInt` and `pyStr` are `bool`, `float`, `int` and `str` of a decoded JSON value, with the
exceptions they raise.  How a string is read as a number, how a value is printed and what `str.strip`, `str.lower`
and a `.nf` format do is a `PyText`.
-/

/-- An exception, by the name of its type. -/
inductive PyError
  | typeError
  | valueError
  | overflowError
  | runtimeError (message : String)
  | other (name : String)
deriving DecidableEq

/-- `type(exc).__name__`. -/
def PyError.name : PyError → String
  | .typeError => "TypeError"
  | .valueError => "ValueError"
  | .overflowError => "OverflowError"
  | .runtimeError _ => "RuntimeError"
  | .other name => name

/-- A computation that returned, taken apart at its first statement. -/
theorem except_bind_ok {ε α β : Type} {x : Except ε α} {f : α → Except ε β} {b : β} (h : x >>= f = .ok b) :
    ∃ a, x = .ok a ∧ f a = .ok b := by
  cases hx : x with
  | error e => simp [hx, bind, Except.bind] at h
  | ok a =>
    rw [hx] at h
    exact ⟨a, rfl, h⟩

/-- A list comprehension raises if one of its items does. -/
theorem mapM_error_iff {ε α β : Type} (f : α → Except ε β) (xs : List α) :
    (∃ e, xs.mapM f = .error e) ↔ ∃ x ∈ xs, ∃ e, f x = .error e := by
  induction xs with
  | nil => simp [pure, Except.pure]
  | cons x xs ih =>
    rw [List.mapM_cons]
    cases hx : f x with
    | error e => simp [bind, Except.bind, hx]
    | ok y =>
      have hrest : (∃ e, (do let ys ← xs.mapM f; pure (y :: ys) : Except ε (List β)) = .error e) ↔
          ∃ e, xs.mapM f = .error e := by
        cases xs.mapM f with
        | error e => simp [bind, Except.bind]
        | ok ys => simp [bind, Except.bind, pure, Except.pure]
      simp only [bind, Except.bind, List.mem_cons, exists_eq_or_imp, hx, reduceCtorEq, exists_false, false_or]
      simp only [bind, Except.bind] at hrest
      rw [← ih]
      exact hrest

structure PyText where
  floatOfString : String → Option Double
  intOfString : String → Option ℤ
  repr : Json → String
  strip : String → String
  lower : String → String
  fixed : ℕ → Double → String

/-- No string is a number, strings are stripped and in lower case, and nothing is printed. -/
def PyText.plain : PyText where
  floatOfString := fun _ => none
  intOfString := fun _ => none
  repr := fun _ => ""
  strip := id
  lower := id
  fixed := fun _ _ => ""

/-- `round` of a float: to the nearest integer, halves to the even one. -/
abbrev pyRound (q : ℚ) : ℤ := Binary64.roundHalfEven q

namespace Json

/-- `value is True`. -/
def isTrue : Json → Bool
  | .bool b => b
  | _ => false

/-- `value is False`. -/
def isFalse : Json → Bool
  | .bool b => !b
  | _ => false

/-- `value == n`: a Boolean counts as 0 or 1. -/
def eqInt (n : ℤ) : Json → Bool
  | .bool b => (if b then 1 else 0) = n
  | .numUnsigned m => (m : ℤ) = n
  | .numInteger i => i = n
  | .numFloat d => d.eq (.fin n)
  | _ => false

/-- `type(value) is int and value >= 0`. -/
def isCount : Json → Option ℕ
  | .numUnsigned n => some n
  | .numInteger i => if 0 ≤ i then some i.toNat else none
  | _ => none

/-- `bool`: the truth value. -/
def pyBool : Json → Bool
  | .null => false
  | .bool b => b
  | .numUnsigned n => n ≠ 0
  | .numInteger i => i ≠ 0
  | .numFloat d => !d.eq (.fin 0)
  | .str s => s ≠ ""
  | .arr elems => !elems.isEmpty
  | .obj members => !members.isEmpty

/-- `float` of an integer: one that rounds to `2^1024` does not fit. -/
def floatOfInt (i : ℤ) : Except PyError Double :=
  if i.natAbs < 2 ^ 1024 - 2 ^ 970 then .ok (.fin i) else .error .overflowError

def pyFloat (py : PyText) : Json → Except PyError Double
  | .null => .error .typeError
  | .bool b => .ok (.fin (if b then 1 else 0))
  | .numUnsigned n => floatOfInt n
  | .numInteger i => floatOfInt i
  | .numFloat d => .ok d
  | .str s => match py.floatOfString s with
    | some d => .ok d
    | none => .error .valueError
  | .arr _ => .error .typeError
  | .obj _ => .error .typeError

/-- `int` of a float: towards zero. -/
def truncate (q : ℚ) : ℤ := if 0 ≤ q then ⌊q⌋ else ⌈q⌉

def pyInt (py : PyText) : Json → Except PyError ℤ
  | .null => .error .typeError
  | .bool b => .ok (if b then 1 else 0)
  | .numUnsigned n => .ok n
  | .numInteger i => .ok i
  | .numFloat (.fin q) => .ok (truncate q)
  | .numFloat .nan => .error .valueError
  | .numFloat _ => .error .overflowError
  | .str s => match py.intOfString s with
    | some i => .ok i
    | none => .error .valueError
  | .arr _ => .error .typeError
  | .obj _ => .error .typeError

def pyStr (py : PyText) : Json → String
  | .str s => s
  | v => py.repr v

/-- `mapping[key] = value`. -/
def Object.set (o : Object) (key : String) (value : Json) : Object :=
  if o.contains key then o.map fun m => if m.1 = key then (key, value) else m else o ++ [(key, value)]

/-- `mapping.get(key)`; a missing key gives `None`. -/
def Object.getD (o : Object) (key : String) : Json := (o.lookup key).getD .null

/-- `value if isinstance(value, dict) else {}`. -/
def dictOrEmpty (v : Json) : Object := v.isObject.getD []

/-- `mapping.get(key, default) or default`. -/
def Object.getOr (o : Object) (key : String) (default : Json) : Json :=
  if ((o.lookup key).getD default).pyBool then (o.lookup key).getD default else default

/-- `str(value or "")`. -/
def pyStrOrEmpty (py : PyText) (v : Json) : String := if v.pyBool then v.pyStr py else ""

/-- `int(value or 0)`. -/
def pyIntOrZero (py : PyText) (v : Json) : Except PyError ℤ := if v.pyBool then v.pyInt py else .ok 0

end Json
