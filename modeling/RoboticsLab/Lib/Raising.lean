import Mathlib.Tactic.Common

/-!
# Statements that change a state and may raise

A statement is an `EStateM ε σ Unit`: a raised exception keeps the changes made before it.  `post` is the
state a statement leaves, whether it returns or raises.

    (∀ x ∈ xs, R is kept by f x) → R is kept by xs.forM f                              (post_forM)
-/

namespace Raising

variable {ε σ ι α β : Type}

/-- The state after the statement, also when it raised. -/
def post : EStateM.Result ε σ Unit → σ
  | .ok _ s => s
  | .error _ s => s

/-- The statement returned normally. -/
def Returned : EStateM.Result ε σ Unit → Prop
  | .ok _ _ => True
  | .error _ _ => False

instance (r : EStateM.Result ε σ Unit) : Decidable (Returned r) := by
  cases r
  · exact .isTrue trivial
  · exact .isFalse id

@[simp] theorem post_ok (u : Unit) (s : σ) : post (.ok u s : EStateM.Result ε σ Unit) = s := rfl
@[simp] theorem post_error (e : ε) (s : σ) : post (.error e s : EStateM.Result ε σ Unit) = s := rfl
@[simp] theorem returned_ok (u : Unit) (s : σ) : Returned (.ok u s : EStateM.Result ε σ Unit) := trivial
@[simp] theorem not_returned_error (e : ε) (s : σ) : ¬ Returned (.error e s : EStateM.Result ε σ Unit) := id

/-! ## Running statements -/

theorem bind_apply (a : EStateM ε σ α) (f : α → EStateM ε σ β) (s : σ) :
    (a >>= f) s = match a s with
      | .ok x t => f x t
      | .error e t => .error e t := by
  simp only [bind, EStateM.bind]
  cases a s with
  | ok x t => rfl
  | error e t => rfl

theorem pure_apply (x : α) (s : σ) : (pure x : EStateM ε σ α) s = .ok x s := rfl

theorem get_apply (s : σ) : (get : EStateM ε σ σ) s = .ok s s := rfl

theorem modify_apply (f : σ → σ) (s : σ) : (modify f : EStateM ε σ PUnit) s = .ok ⟨⟩ (f s) := rfl

/-! ## One statement after another -/

theorem seq_apply (a b : EStateM ε σ Unit) (s : σ) :
    (a >>= fun _ => b) s = match a s with
      | .ok _ t => b t
      | .error e t => .error e t := by
  rw [bind_apply]
  cases a s with
  | ok u t => rfl
  | error e t => rfl

theorem returned_seq (a b : EStateM ε σ Unit) (s : σ) :
    Returned ((a >>= fun _ => b) s) ↔ Returned (a s) ∧ Returned (b (post (a s))) := by
  rw [seq_apply]
  cases a s with
  | ok u t => simp
  | error e t => simp

theorem post_seq_of_returned {a : EStateM ε σ Unit} {s : σ} (h : Returned (a s)) (b : EStateM ε σ Unit) :
    post ((a >>= fun _ => b) s) = post (b (post (a s))) := by
  rw [seq_apply]
  cases hr : a s with
  | ok u t => rfl
  | error e t => rw [hr] at h; exact absurd h id

theorem post_seq_of_not_returned {a : EStateM ε σ Unit} {s : σ} (h : ¬ Returned (a s))
    (b : EStateM ε σ Unit) : post ((a >>= fun _ => b) s) = post (a s) := by
  rw [seq_apply]
  cases hr : a s with
  | ok u t => rw [hr] at h; exact absurd trivial h
  | error e t => rfl

/-- A relation that both statements keep is kept by their sequence, raised or not. -/
theorem post_seq (R : σ → σ → Prop) (trans : ∀ {s t u}, R s t → R t u → R s u) {a b : EStateM ε σ Unit}
    (ha : ∀ s, R s (post (a s))) (hb : ∀ s, R s (post (b s))) (s : σ) :
    R s (post ((a >>= fun _ => b) s)) := by
  by_cases h : Returned (a s)
  · rw [post_seq_of_returned h]
    exact trans (ha s) (hb _)
  · rw [post_seq_of_not_returned h]
    exact ha s

/-! ## A loop -/

variable (f : ι → EStateM ε σ Unit)

theorem forM_cons_eq (x : ι) (xs : List ι) : (x :: xs).forM f = (f x >>= fun _ => xs.forM f) := rfl

@[simp] theorem forM_nil_eq (s : σ) : ([] : List ι).forM f s = .ok () s := rfl

/-- **Loops.**  What every pass keeps, the loop keeps, also when a pass raises. -/
theorem post_forM (R : σ → σ → Prop) (refl : ∀ s, R s s) (trans : ∀ {s t u}, R s t → R t u → R s u)
    (xs : List ι) (h : ∀ x ∈ xs, ∀ s, R s (post (f x s))) : ∀ s, R s (post (xs.forM f s)) := by
  induction xs with
  | nil => intro s; exact refl s
  | cons x xs ih =>
    rw [forM_cons_eq]
    exact post_seq R trans (h x (by simp)) (ih fun y hy => h y (by simp [hy]))

end Raising
