import Mathlib.Algebra.Group.Basic

/-!
# Poses and changes of the common frame

A pose is a position and a rotation.  A fold `(d, g)` moves a pose: the position by `d`, the rotation
by `g` from the left.  Two folds do not commute in their rotations: moved first by `e` and then by a
conjugate, a pose ends where the plain order would have put it.

    (fold.after e).move (e.move x) = e.move (fold.move x)                       (Fold.after_move)
-/

namespace Gauge

structure Pose (V G : Type*) where
  position : V
  rotation : G
deriving DecidableEq

/-- A displacement of the common frame. -/
structure Fold (V G : Type*) where
  dp : V
  dR : G

variable {V G : Type*} [AddCommGroup V] [Group G]

/-- The pose moved by the fold. -/
def Fold.move (f : Fold V G) (x : Pose V G) : Pose V G := ⟨x.position + f.dp, f.dR * x.rotation⟩

@[simp] theorem Fold.move_position (f : Fold V G) (x : Pose V G) :
    (f.move x).position = x.position + f.dp := rfl

@[simp] theorem Fold.move_rotation (f : Fold V G) (x : Pose V G) :
    (f.move x).rotation = f.dR * x.rotation := rfl

/-- The fold as it is seen once the fold `e` has moved both poses. -/
def Fold.after (f e : Fold V G) : Fold V G := ⟨f.dp, e.dR * f.dR * e.dR⁻¹⟩

omit [AddCommGroup V] in
@[simp] theorem Fold.after_dp (f e : Fold V G) : (f.after e).dp = f.dp := rfl

omit [AddCommGroup V] in
/-- A rotation moved by the fold and then by `e`. -/
theorem Fold.after_mul (f e : Fold V G) (g : G) : e.dR * (f.dR * g) = (f.after e).dR * (e.dR * g) := by
  rw [after, mul_assoc (e.dR * f.dR), inv_mul_cancel_left, mul_assoc]

/-- **Folds up to conjugation.** -/
theorem Fold.after_move (f e : Fold V G) (x : Pose V G) : (f.after e).move (e.move x) = e.move (f.move x) := by
  have hp : x.position + e.dp + f.dp = x.position + f.dp + e.dp := add_right_comm _ _ _
  have hr : (f.after e).dR * (e.dR * x.rotation) = e.dR * (f.dR * x.rotation) := (f.after_mul e _).symm
  rw [move, move, move, move, after_dp, hp, hr]

/-! ## Folds one after the other -/

/-- No displacement. -/
def Fold.still : Fold V G := ⟨0, 1⟩

/-- First `f`, then `e`. -/
def Fold.andThen (f e : Fold V G) : Fold V G := ⟨f.dp + e.dp, e.dR * f.dR⟩

@[simp] theorem Fold.andThen_still (f : Fold V G) : f.andThen .still = f := by
  cases f
  simp [still, andThen]

theorem Fold.andThen_move (f e : Fold V G) (x : Pose V G) : (f.andThen e).move x = e.move (f.move x) := by
  simp only [andThen, move, add_assoc, mul_assoc]

@[simp] theorem Fold.still_move (x : Pose V G) : Fold.still.move x = x := by
  simp [still, move]

end Gauge
