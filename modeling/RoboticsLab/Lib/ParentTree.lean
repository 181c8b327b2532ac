import Mathlib.Data.List.Chain
import Mathlib.Order.Basic

/-!
# Trees given by parent links

A node of a growing tree knows its parent, which came before it (`Descending`).  `pathTo parent i` is
the way from the root to `i`: `i` is the last node of it, the first has no parent, and each node is the
parent of the next.
-/

namespace ParentTree

/-- The links from `i` towards the root, at most `fuel` nodes. -/
def climb (parent : ℕ → Option ℕ) : ℕ → ℕ → List ℕ
  | 0, _ => []
  | fuel + 1, i =>
    i :: match parent i with
      | some p => climb parent fuel p
      | none => []

def pathTo (parent : ℕ → Option ℕ) (i : ℕ) : List ℕ := (climb parent (i + 1) i).reverse

def Descending (parent : ℕ → Option ℕ) : Prop := ∀ i p, parent i = some p → p < i

variable {parent : ℕ → Option ℕ}

theorem climb_of_le (h : Descending parent) {i fuel : ℕ} (hfuel : i < fuel) :
    climb parent fuel i = climb parent (i + 1) i := by
  induction i using Nat.strong_induction_on generalizing fuel with
  | _ i ih =>
    obtain ⟨fuel, rfl⟩ : ∃ f, fuel = f + 1 := ⟨fuel - 1, by omega⟩
    rw [climb, climb]
    cases hp : parent i with
    | none => rfl
    | some p =>
      have hlt : p < i := h i p hp
      dsimp only
      rw [ih p hlt (by omega : p < fuel), ih p hlt hlt]

theorem pathTo_of_none {i : ℕ} (h : parent i = none) : pathTo parent i = [i] := by
  simp [pathTo, climb, h]

theorem pathTo_of_some (h : Descending parent) {i p : ℕ} (hp : parent i = some p) :
    pathTo parent i = pathTo parent p ++ [i] := by
  rw [pathTo, climb, hp]
  dsimp only
  rw [climb_of_le h (h i p hp), List.reverse_cons]
  rfl

/-- A path is a root or goes one link further. -/
theorem pathTo_cases (h : Descending parent) (i : ℕ) :
    parent i = none ∧ pathTo parent i = [i] ∨
      ∃ p, parent i = some p ∧ p < i ∧ pathTo parent i = pathTo parent p ++ [i] := by
  cases hp : parent i with
  | none => exact Or.inl ⟨rfl, pathTo_of_none hp⟩
  | some p => exact Or.inr ⟨p, rfl, h i p hp, pathTo_of_some h hp⟩

theorem getLast?_pathTo (h : Descending parent) (i : ℕ) : (pathTo parent i).getLast? = some i := by
  rcases pathTo_cases h i with ⟨-, he⟩ | ⟨p, -, -, he⟩ <;> simp [he]

/-- Only the first node of a path has no parent. -/
theorem parent_of_mem_tail (h : Descending parent) {i j : ℕ} (hj : j ∈ (pathTo parent i).tail) :
    ∃ p, parent j = some p := by
  induction i using Nat.strong_induction_on with
  | _ i ih =>
    rcases pathTo_cases h i with ⟨-, he⟩ | ⟨p, hp, hlt, he⟩
    · simp [he] at hj
    · have hne : pathTo parent p ≠ [] := fun h0 => by
        have := getLast?_pathTo h p
        simp [h0] at this
      rw [he, List.tail_append_of_ne_nil hne, List.mem_append, List.mem_singleton] at hj
      rcases hj with hj | rfl
      · exact ih p hlt hj
      · exact ⟨p, hp⟩

theorem le_of_mem_pathTo (h : Descending parent) {i j : ℕ} (hj : j ∈ pathTo parent i) : j ≤ i := by
  induction i using Nat.strong_induction_on with
  | _ i ih =>
    rcases pathTo_cases h i with ⟨-, he⟩ | ⟨p, -, hlt, he⟩
    · rw [he, List.mem_singleton] at hj
      exact hj.le
    · rw [he, List.mem_append, List.mem_singleton] at hj
      rcases hj with hj | rfl
      · exact (ih p hlt hj).trans hlt.le
      · exact le_rfl

theorem self_mem_pathTo (h : Descending parent) (i : ℕ) : i ∈ pathTo parent i :=
  List.mem_of_getLast? (getLast?_pathTo h i)

/-- A property that links pass on from the root side holds from any node of the path on. -/
theorem holds_of_mem_pathTo (h : Descending parent) {P : ℕ → Prop}
    (hlink : ∀ i p, parent i = some p → P p → P i) {i j : ℕ} (hj : j ∈ pathTo parent i) (hP : P j) : P i := by
  induction i using Nat.strong_induction_on with
  | _ i ih =>
    rcases pathTo_cases h i with ⟨-, he⟩ | ⟨p, hp, hlt, he⟩
    · rw [he, List.mem_singleton] at hj
      exact hj ▸ hP
    · rw [he, List.mem_append, List.mem_singleton] at hj
      rcases hj with hj | rfl
      · exact hlink i p hp (ih p hlt hj)
      · exact hP

theorem mem_pathTo_trans (h : Descending parent) {i j k : ℕ} (hjk : j ∈ pathTo parent k) (hij : i ∈ pathTo parent j) :
    i ∈ pathTo parent k := by
  refine holds_of_mem_pathTo h (P := fun k => i ∈ pathTo parent k) (fun k p hp hi => ?_) hjk hij
  rw [pathTo_of_some h hp]
  exact List.mem_append_left _ hi

end ParentTree
