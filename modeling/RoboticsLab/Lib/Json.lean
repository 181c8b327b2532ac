import RoboticsLab.Lib.Double

/-!
# JSON values

The values a JSON reader produces, with the three number kinds of `nlohmann::json` (an integer
literal is unsigned when it has no minus sign).  An object is a list of members; `List.lookup`
reads it.
-/

inductive Json
  | null
  | bool (b : Bool)
  | numUnsigned (n : ℕ)
  | numInteger (i : ℤ)
  | numFloat (d : Double)
  | str (s : String)
  | arr (elems : List Json)
  | obj (members : List (String × Json))

namespace Json

abbrev Object := List (String × Json)

def Object.contains (o : Object) (key : String) : Bool := (o.lookup key).isSome

def isNumber : Json → Option Double
  | numUnsigned n => some (.fin n)
  | numInteger i => some (.fin i)
  | numFloat d => some d
  | _ => none

def isBoolean : Json → Option Bool
  | bool b => some b
  | _ => none

def isString : Json → Option String
  | str s => some s
  | _ => none

def isNumberUnsigned : Json → Option ℕ
  | numUnsigned n => some n
  | _ => none

def isNumberInteger : Json → Option ℤ
  | numUnsigned n => some n
  | numInteger i => some i
  | _ => none

def isArray : Json → Option (List Json)
  | arr elems => some elems
  | _ => none

def isObject : Json → Option Object
  | obj members => some members
  | _ => none

/-! ## The numbers a reader can hold

`number_unsigned_t` is `uint64_t` and `number_integer_t` is `int64_t`; a longer literal is read as
a double.
-/

/-- Every number of the value fits its 64-bit type. -/
inductive Fits : Json → Prop
  | null : Fits .null
  | bool (b : Bool) : Fits (.bool b)
  | numUnsigned {n : ℕ} (h : n < 2 ^ 64) : Fits (.numUnsigned n)
  | numInteger {i : ℤ} (hlo : -2 ^ 63 ≤ i) (hhi : i < 2 ^ 63) : Fits (.numInteger i)
  | numFloat (d : Double) : Fits (.numFloat d)
  | str (s : String) : Fits (.str s)
  | arr {elems : List Json} (h : ∀ e ∈ elems, Fits e) : Fits (.arr elems)
  | obj {members : List (String × Json)} (h : ∀ m ∈ members, Fits m.2) : Fits (.obj members)

@[simp] theorem fits_numUnsigned {n : ℕ} : Fits (.numUnsigned n) ↔ n < 2 ^ 64 := by
  constructor
  · rintro ⟨⟩
    assumption
  · exact .numUnsigned

@[simp] theorem fits_arr {elems : List Json} : Fits (.arr elems) ↔ ∀ e ∈ elems, Fits e := by
  constructor
  · rintro ⟨⟩
    assumption
  · exact .arr

@[simp] theorem fits_obj {members : List (String × Json)} :
    Fits (.obj members) ↔ ∀ m ∈ members, Fits m.2 := by
  constructor
  · rintro ⟨⟩
    assumption
  · exact .obj

attribute [simp] Fits.null Fits.bool Fits.numFloat Fits.str

theorem Fits.lookup {o : Object} (h : Fits (.obj o)) {key : String} {v : Json} (hv : o.lookup key = some v) :
    Fits v := by
  cases h with
  | obj h =>
    induction o with
    | nil => cases hv
    | cons m o ih =>
      rw [List.lookup_cons] at hv
      split at hv
      · cases hv
        exact h m List.mem_cons_self
      · exact ih hv fun m' hm => h m' (List.mem_cons_of_mem _ hm)

end Json

/-- A JSON reader: a partial function from texts to values its number types can hold. -/
structure JsonReader where
  parse : List UInt8 → Option Json
  fits : ∀ data v, parse data = some v → v.Fits
