import Mathlib.Algebra.Order.Ring.Defs
import Mathlib.Data.List.Perm.Basic
import Mathlib.Tactic.Linarith

/-!
# Trees that split space by one axis at a time

`Tree ι K β` holds points `ι → K` with a value each.  A node at depth `d` compares the axis
`axis d`: smaller points go left, the others right (`Ordered`).  `search` visits the node, then the
side of the query, and the other side only if `reach` says so of the squared distance to the split.

    search visit reach q t s = es.foldl visit s, es a permutation of the entries of t   (search_eq_foldl)

as long as `reach` gives up only on entries that `visit` would ignore.
-/

namespace Kd

variable {ι K β S : Type*}

inductive Tree (ι K β : Type*)
  | empty
  | node (point : ι → K) (value : β) (axis : ι) (left right : Tree ι K β)

/-- The points with their values: a node before its sides. -/
def Tree.entries : Tree ι K β → List ((ι → K) × β)
  | .empty => []
  | .node p v _ l r => (p, v) :: (l.entries ++ r.entries)

section Insert

variable [LinearOrder K]

def Tree.insert (axis : ℕ → ι) (p : ι → K) (v : β) : ℕ → Tree ι K β → Tree ι K β
  | depth, .empty => .node p v (axis depth) .empty .empty
  | depth, .node p' v' a l r =>
    if p (axis depth) < p' (axis depth) then .node p' v' a (l.insert axis p v (depth + 1)) r
    else .node p' v' a l (r.insert axis p v (depth + 1))

/-- Every node compares the axis of its depth, and its sides keep to theirs. -/
def Tree.Ordered (axis : ℕ → ι) : ℕ → Tree ι K β → Prop
  | _, .empty => True
  | depth, .node p _ a l r =>
    a = axis depth ∧ (∀ e ∈ l.entries, e.1 a < p a) ∧ (∀ e ∈ r.entries, p a ≤ e.1 a) ∧
      l.Ordered axis (depth + 1) ∧ r.Ordered axis (depth + 1)

theorem Tree.entries_insert (axis : ℕ → ι) (p : ι → K) (v : β) (depth : ℕ) (t : Tree ι K β) :
    (t.insert axis p v depth).entries.Perm ((p, v) :: t.entries) := by
  induction t generalizing depth with
  | empty => exact List.Perm.refl _
  | node p' v' a l r ihl ihr =>
    rw [Tree.insert]
    split
    · calc (p', v') :: ((l.insert axis p v (depth + 1)).entries ++ r.entries)
          |>.Perm ((p', v') :: (((p, v) :: l.entries) ++ r.entries)) :=
            ((ihl (depth + 1)).append_right _).cons _
        _ |>.Perm ((p, v) :: (p', v') :: (l.entries ++ r.entries)) := List.Perm.swap _ _ _
    · calc (p', v') :: (l.entries ++ (r.insert axis p v (depth + 1)).entries)
          |>.Perm ((p', v') :: (l.entries ++ ((p, v) :: r.entries))) :=
            ((ihr (depth + 1)).append_left _).cons _
        _ |>.Perm ((p', v') :: (p, v) :: (l.entries ++ r.entries)) := List.perm_middle.cons _
        _ |>.Perm ((p, v) :: (p', v') :: (l.entries ++ r.entries)) := List.Perm.swap _ _ _

theorem Tree.Ordered.insert {axis : ℕ → ι} {depth : ℕ} {t : Tree ι K β} (h : t.Ordered axis depth)
    (p : ι → K) (v : β) : (t.insert axis p v depth).Ordered axis depth := by
  induction t generalizing depth with
  | empty => exact ⟨rfl, by simp [Tree.entries], by simp [Tree.entries], trivial, trivial⟩
  | node p' v' a l r ihl ihr =>
    obtain ⟨rfl, hleft, hright, hl, hr⟩ := h
    rw [Tree.insert]
    split
    · rename_i hlt
      refine ⟨rfl, ?_, hright, ihl hl, hr⟩
      intro e he
      rcases List.mem_cons.mp ((Tree.entries_insert axis p v _ l).mem_iff.mp he) with rfl | he
      · exact hlt
      · exact hleft e he
    · rename_i hge
      refine ⟨rfl, hleft, ?_, hl, ihr hr⟩
      intro e he
      rcases List.mem_cons.mp ((Tree.entries_insert axis p v _ r).mem_iff.mp he) with rfl | he
      · exact not_lt.mp hge
      · exact hright e he

end Insert

section Search

theorem foldl_ignored {visit : S → (ι → K) × β → S} {s : S} {es : List ((ι → K) × β)}
    (h : ∀ e ∈ es, visit s e = s) : es.foldl visit s = s := by
  induction es with
  | nil => rfl
  | cons e es ih =>
    rw [List.foldl_cons, h e List.mem_cons_self]
    exact ih fun e' he' => h e' (List.mem_cons_of_mem e he')

variable [CommRing K] [LinearOrder K]

def Tree.search (visit : S → (ι → K) × β → S) (reach : S → K → Bool) (q : ι → K) : Tree ι K β → S → S
  | .empty, s => s
  | .node p v a l r, s =>
    let s := visit s (p, v)
    let delta := q a - p a
    if delta < 0 then
      let s := l.search visit reach q s
      if reach s (delta * delta) then r.search visit reach q s else s
    else
      let s := r.search visit reach q s
      if reach s (delta * delta) then l.search visit reach q s else s

/-- `reach` gives up on a distance only if `visit` ignores all entries that are at least as far. -/
def Harmless (visit : S → (ι → K) × β → S) (reach : S → K → Bool) (cost : (ι → K) → K)
    (es : List ((ι → K) × β)) : Prop :=
  ∀ (s : S) (d : K), ∀ e ∈ es, reach s d = false → d ≤ cost e.1 → visit s e = s

omit [CommRing K] in
theorem Harmless.mono {visit : S → (ι → K) × β → S} {reach : S → K → Bool} {cost : (ι → K) → K}
    {es es' : List ((ι → K) × β)} (h : Harmless visit reach cost es) (hsub : es' ⊆ es) :
    Harmless visit reach cost es' := fun s d e he => h s d e (hsub he)

/-- What one side contributes, visited or given up. -/
theorem side_eq_foldl {visit : S → (ι → K) × β → S} {reach : S → K → Bool} {cost : (ι → K) → K}
    {side : Tree ι K β} (hharmless : Harmless visit reach cost side.entries) {q : ι → K} {d : K} (s : S)
    (hfar : ∀ e ∈ side.entries, d ≤ cost e.1)
    (ih : ∃ es : List ((ι → K) × β), es.Perm side.entries ∧ side.search visit reach q s = es.foldl visit s) :
    ∃ es : List ((ι → K) × β), es.Perm side.entries ∧
      (if reach s d then side.search visit reach q s else s) = es.foldl visit s := by
  cases hreach : reach s d with
  | true => simpa using ih
  | false =>
    refine ⟨side.entries, List.Perm.refl _, ?_⟩
    rw [if_neg Bool.false_ne_true, foldl_ignored]
    exact fun e he => hharmless s d e he hreach (hfar e he)

variable [IsStrictOrderedRing K]

/-- Beyond a split the distance is at least the distance to it. -/
theorem sq_le_of_beyond {x p y : K} (h : x ≤ p ∧ p ≤ y ∨ y ≤ p ∧ p ≤ x) :
    (x - p) * (x - p) ≤ (x - y) * (x - y) := by
  rcases h with ⟨hx, hy⟩ | ⟨hy, hx⟩ <;> nlinarith

/-- **The search visits every entry**, in some order. -/
theorem Tree.search_eq_foldl {visit : S → (ι → K) × β → S} {reach : S → K → Bool} {q : ι → K}
    {cost : (ι → K) → K} (hcost : ∀ (p : ι → K) (a : ι), (q a - p a) * (q a - p a) ≤ cost p)
    {axis : ℕ → ι} {depth : ℕ} {t : Tree ι K β} (h : t.Ordered axis depth)
    (hharmless : Harmless visit reach cost t.entries) (s : S) :
    ∃ es : List ((ι → K) × β), es.Perm t.entries ∧ t.search visit reach q s = es.foldl visit s := by
  induction t generalizing depth s with
  | empty => exact ⟨[], List.Perm.refl _, rfl⟩
  | node p v a l r ihl ihr =>
    obtain ⟨-, hleft, hright, hl, hr⟩ := h
    have hl' : Harmless visit reach cost l.entries :=
      hharmless.mono fun e he => List.mem_cons_of_mem _ (List.mem_append_left _ he)
    have hr' : Harmless visit reach cost r.entries :=
      hharmless.mono fun e he => List.mem_cons_of_mem _ (List.mem_append_right _ he)
    rw [Tree.search]
    dsimp only
    split
    · rename_i hneg
      obtain ⟨near, hnear, hn⟩ := ihl hl hl' (visit s (p, v))
      have hfar : ∀ e ∈ r.entries, (q a - p a) * (q a - p a) ≤ cost e.1 := fun e he =>
        (sq_le_of_beyond (Or.inl ⟨by linarith, hright e he⟩)).trans (hcost e.1 a)
      obtain ⟨far, hperm, hf⟩ := side_eq_foldl hr' (l.search visit reach q (visit s (p, v))) hfar (ihr hr hr' _)
      refine ⟨(p, v) :: (near ++ far), (hnear.append hperm).cons _, ?_⟩
      rw [hf, List.foldl_cons, List.foldl_append, hn]
    · rename_i hpos
      obtain ⟨near, hnear, hn⟩ := ihr hr hr' (visit s (p, v))
      have hfar : ∀ e ∈ l.entries, (q a - p a) * (q a - p a) ≤ cost e.1 := fun e he =>
        (sq_le_of_beyond (Or.inr ⟨(hleft e he).le, by linarith⟩)).trans (hcost e.1 a)
      obtain ⟨far, hperm, hf⟩ := side_eq_foldl hl' (r.search visit reach q (visit s (p, v))) hfar (ihl hl hl' _)
      refine ⟨(p, v) :: (near ++ far), ((hnear.append hperm).trans List.perm_append_comm).cons _, ?_⟩
      rw [hf, List.foldl_cons, List.foldl_append, hn]

end Search

end Kd
