import Mathlib.Algebra.Group.Defs
import Mathlib.Algebra.Group.Basic

/-!
# Telescoping in a group

`deltas p ts` are the steps from `p` along the positions `ts`; `integrate p ds` are the positions that the steps `ds`
lead to.  Integrating the deltas gives the positions back, also when the deltas are cut into stretches that each start
where the one before ended.

    integrate p (deltas p ts) = ts                                                   (integrate_deltas)
    integrate p (ds ++ es) = integrate p ds ++ integrate (last p (integrate p ds)) es  (integrate_append)
-/

namespace Telescope

variable {G : Type*}

/-- The last of the positions `ts` reached from `p`. -/
def last (p : G) (ts : List G) : G := ts.getLast?.getD p

@[simp] theorem last_nil (p : G) : last p [] = p := rfl

@[simp] theorem last_cons (p t : G) (ts : List G) : last p (t :: ts) = last t ts := by
  simp [last, List.getLast?_cons]

theorem last_append (p : G) (ts us : List G) : last p (ts ++ us) = last (last p ts) us := by
  induction ts generalizing p with
  | nil => rfl
  | cons t ts ih => simpa using ih t

variable [Group G]

def deltas (p : G) : List G → List G
  | [] => []
  | t :: ts => p⁻¹ * t :: deltas t ts

def integrate (p : G) : List G → List G
  | [] => []
  | d :: ds => p * d :: integrate (p * d) ds

@[simp] theorem length_deltas (p : G) (ts : List G) : (deltas p ts).length = ts.length := by
  induction ts generalizing p with
  | nil => rfl
  | cons t ts ih => simp [deltas, ih]

@[simp] theorem length_integrate (p : G) (ds : List G) : (integrate p ds).length = ds.length := by
  induction ds generalizing p with
  | nil => rfl
  | cons d ds ih => simp [integrate, ih]

theorem integrate_deltas (p : G) (ts : List G) : integrate p (deltas p ts) = ts := by
  induction ts generalizing p with
  | nil => rfl
  | cons t ts ih =>
    simp only [deltas, integrate, mul_inv_cancel_left]
    rw [ih t]

theorem integrate_append (p : G) (ds es : List G) :
    integrate p (ds ++ es) = integrate p ds ++ integrate (last p (integrate p ds)) es := by
  induction ds generalizing p with
  | nil => rfl
  | cons d ds ih => simp [integrate, ih]

end Telescope
