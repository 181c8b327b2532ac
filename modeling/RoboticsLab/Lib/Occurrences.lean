import Mathlib.Data.List.Infix

/-!
# Occurrences in a text

`findFrom pat text pos` is where `pat` next occurs, from `pos` on.  `hits f text` is what a reader `f` gets from every
suffix of the text, in order: no position skipped, none read twice.

    f none on [p, q) → hits f (text.drop p) = hits f (text.drop q)                    (hits_drop_skip)
    f (text.drop p) = some b → hits f (text.drop p) = b :: hits f (text.drop (p + 1))  (hits_drop_of_some)
-/

namespace Occurrences

variable {α β : Type*}

/-! ## Where a pattern occurs -/

def findFrom [DecidableEq α] (pat text : List α) (pos : ℕ) : Option ℕ :=
  (List.range (text.length + 1)).find? fun p => decide (pos ≤ p) && pat.isPrefixOf (text.drop p)

variable {pat text : List α} {pos p q : ℕ}

theorem findFrom_some [DecidableEq α] (h : findFrom pat text pos = some p) :
    pos ≤ p ∧ p ≤ text.length ∧ pat <+: text.drop p ∧ ∀ i, pos ≤ i → i < p → ¬ pat <+: text.drop i := by
  obtain ⟨hp, hmem, hbefore⟩ := List.find?_range_eq_some.mp h
  rw [Bool.and_eq_true, decide_eq_true_iff, List.isPrefixOf_iff_prefix] at hp
  refine ⟨hp.1, Nat.lt_succ_iff.mp (List.mem_range.mp hmem), hp.2, fun i hi hlt hpre => ?_⟩
  have hnot := hbefore i hlt
  simp [hi, List.isPrefixOf_iff_prefix.mpr hpre] at hnot

theorem findFrom_none [DecidableEq α] (h : findFrom pat text pos = none) (i : ℕ) (hi : pos ≤ i)
    (hle : i ≤ text.length) : ¬ pat <+: text.drop i := by
  intro hpre
  have hnot := List.find?_range_eq_none.mp h i (by omega)
  simp [hi, List.isPrefixOf_iff_prefix.mpr hpre] at hnot

theorem findFrom_isSome_iff [DecidableEq α] : (findFrom pat text 0).isSome = true ↔ pat <:+: text := by
  constructor
  · intro h
    obtain ⟨p, hp⟩ := Option.isSome_iff_exists.mp h
    exact (findFrom_some hp).2.2.1.isInfix.trans (List.drop_suffix p text).isInfix
  · rintro ⟨before, after, rfl⟩
    by_contra h
    refine findFrom_none (Option.not_isSome_iff_eq_none.mp h) before.length (by omega) (by simp) ?_
    rw [List.append_assoc, List.drop_left]
    exact List.prefix_append pat after

/-- What occurs at `p` is the text there. -/
theorem getElem?_of_prefix_drop (h : pat <+: text.drop p) {i : ℕ} (hi : i < pat.length) : text[p + i]? = pat[i]? := by
  obtain ⟨rest, hrest⟩ := h
  rw [← List.getElem?_drop, ← hrest, List.getElem?_append_left hi]

/-! ## Hits -/

def hits (f : List α → Option β) (text : List α) : List β := text.tails.filterMap f

variable {f : List α → Option β}

theorem hits_nil (h : f [] = none) : hits f [] = [] := by
  simp [hits, h]

theorem hits_cons (a : α) (text : List α) : hits f (a :: text) = (f (a :: text)).toList ++ hits f text := by
  unfold hits
  rw [List.tails_cons, List.filterMap_cons]
  cases f (a :: text) <;> rfl

theorem hits_drop_of_some {b : β} (hp : p < text.length) (h : f (text.drop p) = some b) :
    hits f (text.drop p) = b :: hits f (text.drop (p + 1)) := by
  rw [List.drop_eq_getElem_cons hp] at h ⊢
  rw [hits_cons, h]
  rfl

theorem hits_drop_of_none (h : f (text.drop p) = none) : hits f (text.drop p) = hits f (text.drop (p + 1)) := by
  rcases lt_or_ge p text.length with hp | hp
  · rw [List.drop_eq_getElem_cons hp] at h ⊢
    rw [hits_cons, h]
    rfl
  · rw [List.drop_eq_nil_of_le hp, List.drop_eq_nil_of_le (by omega)]

/-- Suffixes without a hit are skipped. -/
theorem hits_drop_skip (hle : p ≤ q) (hnone : ∀ i, p ≤ i → i < q → f (text.drop i) = none) :
    hits f (text.drop p) = hits f (text.drop q) := by
  induction q, hle using Nat.le_induction with
  | base => rfl
  | succ q hpq ih =>
    rw [ih fun i hi hlt => hnone i hi (by omega)]
    exact hits_drop_of_none (hnone q hpq (by omega))

/-- Nothing is hit from `p` on. -/
theorem hits_drop_eq_nil (hnil : f [] = none) (hnone : ∀ i, p ≤ i → i ≤ text.length → f (text.drop i) = none) :
    hits f (text.drop p) = [] := by
  rw [hits_drop_skip (le_max_left p text.length) fun i hi hlt => hnone i hi (by omega),
    List.drop_eq_nil_of_le (le_max_right p text.length), hits_nil hnil]

end Occurrences
