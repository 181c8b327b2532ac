import Mathlib.Algebra.BigOperators.Group.List.Basic
import Mathlib.Algebra.Order.Group.Int
import Mathlib.Data.List.Induction
import Mathlib.Tactic.Linarith

/-!
# Nesting depth of a text

Each letter has a weight: an opening one is positive, a closing one negative.  `depth` is the sum of the weights and
`closing d` the place of the first closing letter that brings the depth, counted from `d`, to 0.

* `Nonneg l`: no prefix of `l` is below depth 0.  Closed under prefixes and `++`.
* `Nest w l`: `l` ends where its depth first returns to 0, so that `closing` finds its end whatever follows
  (`Nest.closing_append`), and a proper prefix of it is open (`Nest.pos`).
* An open text stays open before anything `Nonneg` (`closing_append_eq_none`).
-/

namespace Nesting

variable {α : Type*} (w : α → ℤ)

def depth (l : List α) : ℤ := (l.map w).sum

def closing (d : ℤ) : List α → Option ℕ
  | [] => none
  | c :: cs => if w c < 0 ∧ d + w c = 0 then some 0 else (closing (d + w c) cs).map (· + 1)

@[simp] theorem depth_nil : depth w [] = 0 := rfl

@[simp] theorem depth_cons (c : α) (l : List α) : depth w (c :: l) = w c + depth w l := by simp [depth]

@[simp] theorem depth_append (l m : List α) : depth w (l ++ m) = depth w l + depth w m := by simp [depth]

/-- Above 0 all the way there is nothing to close. -/
theorem closing_eq_none {d : ℤ} {l : List α} (h : ∀ p, p <+: l → p ≠ [] → 0 < d + depth w p) :
    closing w d l = none := by
  induction l generalizing d with
  | nil => rfl
  | cons c l ih =>
    have hc := h [c] ⟨l, rfl⟩ (by simp)
    simp only [depth_cons, depth_nil] at hc
    rw [closing, if_neg (by omega), ih, Option.map_none]
    intro p hp _
    have hcp := h (c :: p) (List.cons_prefix_cons.mpr ⟨rfl, hp⟩) (by simp)
    rw [depth_cons] at hcp
    omega

/-! ## Texts that stay at or above 0 -/

theorem prefix_append_cases {p l m : List α} (h : p <+: l ++ m) : p <+: l ∨ ∃ q, p = l ++ q ∧ q <+: m := by
  rcases List.prefix_or_prefix_of_prefix h (List.prefix_append l m) with hp | ⟨q, rfl⟩
  · exact .inl hp
  · exact .inr ⟨q, rfl, (List.prefix_append_right_inj l).mp h⟩

def Nonneg (l : List α) : Prop := ∀ p, p <+: l → 0 ≤ depth w p

variable {w} {l m : List α}

theorem nonneg_nil : Nonneg w [] := by
  intro p hp
  rw [List.prefix_nil.mp hp, depth_nil]

theorem Nonneg.of_isPrefix (h : Nonneg w l) (hm : m <+: l) : Nonneg w m := fun p hp => h p (hp.trans hm)

theorem Nonneg.append (hl : Nonneg w l) (hm : Nonneg w m) : Nonneg w (l ++ m) := by
  intro p hp
  rcases prefix_append_cases hp with hpl | ⟨q, rfl, hq⟩
  · exact hl p hpl
  · have h1 := hl l List.prefix_rfl
    have h2 := hm q hq
    rw [depth_append]
    omega

theorem nonneg_of_forall (h : ∀ c ∈ l, w c = 0) : Nonneg w l := by
  intro p hp
  have hsum : depth w p = 0 := List.sum_eq_zero fun x hx => by
    obtain ⟨c, hc, rfl⟩ := List.mem_map.mp hx
    exact h c (hp.subset hc)
  omega

/-- What is open is not closed by anything that stays at or above 0. -/
theorem closing_append_eq_none (hl : ∀ p, p <+: l → p ≠ [] → 0 < depth w p) (hne : l ≠ []) (hm : Nonneg w m) :
    closing w 0 (l ++ m) = none := by
  apply closing_eq_none
  intro p hp hpne
  rcases prefix_append_cases hp with hpl | ⟨q, rfl, hq⟩
  · have := hl p hpl hpne
    omega
  · have h1 := hl l List.prefix_rfl hne
    have h2 := hm q hq
    rw [depth_append]
    omega

/-! ## Nested texts -/

variable (w) in
/-- The text starts with an opening letter, and its depth first returns to 0 at its last letter. -/
structure Nest (l : List α) : Prop where
  opens : ∃ c cs, l = c :: cs ∧ 0 < w c
  balanced : depth w l = 0
  first : ∀ p, p <+: l → p ≠ [] → p ≠ l → depth w p ≠ 0

theorem Nest.ne_nil (h : Nest w l) : l ≠ [] := by
  obtain ⟨c, cs, rfl, -⟩ := h.opens
  simp

/-- Letters close one level at most, so a depth that is never 0 stays positive. -/
theorem Nest.pos (h : Nest w l) (hw : ∀ c, -1 ≤ w c) {p : List α} (hp : p <+: l) (hne : p ≠ []) (hpl : p ≠ l) :
    0 < depth w p := by
  induction p using List.reverseRecOn with
  | nil => exact absurd rfl hne
  | append_singleton p c ih =>
    have hnz := h.first _ hp hne hpl
    by_cases hpn : p = []
    · subst hpn
      obtain ⟨b, bs, rfl, hb⟩ := h.opens
      obtain ⟨rfl, -⟩ := List.cons_prefix_cons.mp hp
      simpa using hb
    · have hpre : p <+: l := (List.prefix_append p [c]).trans hp
      have hlt : p ≠ l := by
        rintro rfl
        have := hp.length_le
        simp at this
      have hpos := ih hpre hpn hlt
      have hc := hw c
      rw [depth_append, depth_cons, depth_nil] at hnz ⊢
      omega

theorem Nest.nonneg (h : Nest w l) (hw : ∀ c, -1 ≤ w c) : Nonneg w l := by
  intro p hp
  by_cases hne : p = []
  · simp [hne]
  · by_cases hpl : p = l
    · rw [hpl, h.balanced]
    · exact (h.pos hw hp hne hpl).le

theorem closing_append {d : ℤ} (hd : d + depth w l = 0) (hne : l ≠ [])
    (h : ∀ p, p <+: l → p ≠ l → 0 < d + depth w p) (m : List α) :
    closing w d (l ++ m) = some (l.length - 1) := by
  induction l generalizing d with
  | nil => exact absurd rfl hne
  | cons c l ih =>
    rw [depth_cons] at hd
    have hd0 : 0 < d + depth w [] := h [] List.nil_prefix (by simp)
    rw [depth_nil] at hd0
    rw [List.cons_append, closing]
    by_cases hl : l = []
    · subst hl
      rw [depth_nil] at hd
      rw [if_pos ⟨by omega, by omega⟩]
      rfl
    · -- the text goes on, so its first letter leaves it open
      have hc : 0 < d + depth w [c] := by
        refine h [c] (List.cons_prefix_cons.mpr ⟨rfl, List.nil_prefix⟩) ?_
        simpa using Ne.symm hl
      rw [depth_cons, depth_nil] at hc
      rw [if_neg (by omega), ih (by omega) hl]
      · have : 0 < l.length := List.length_pos_of_ne_nil hl
        simp only [Option.map_some, List.length_cons, Option.some.injEq]
        omega
      · intro p hp hpl
        have := h (c :: p) (List.cons_prefix_cons.mpr ⟨rfl, hp⟩) (by simpa using hpl)
        rw [depth_cons] at this
        omega

theorem closing_cons_of_pos {c : α} (hc : 0 < w c) (d : ℤ) (l : List α) :
    closing w d (c :: l) = (closing w (d + w c) l).map (· + 1) := by
  rw [closing, if_neg (by omega)]

/-- The end of a nested text is found whatever follows it. -/
theorem Nest.closing_append (h : Nest w l) (hw : ∀ c, -1 ≤ w c) (m : List α) :
    closing w 0 (l ++ m) = some (l.length - 1) := by
  obtain ⟨c, cs, rfl, hc⟩ := h.opens
  have hbal := h.balanced
  rw [depth_cons] at hbal
  have hcs : cs ≠ [] := by
    rintro rfl
    rw [depth_nil] at hbal
    omega
  rw [List.cons_append, closing_cons_of_pos hc, Nesting.closing_append (by omega) hcs]
  · have := List.length_pos_of_ne_nil hcs
    simp only [Option.map_some, List.length_cons, Option.some.injEq]
    omega
  · intro p hp hne
    have := h.pos hw (List.cons_prefix_cons.mpr ⟨rfl, hp⟩) (by simp) (by simpa using hne)
    rw [depth_cons] at this
    omega

end Nesting
