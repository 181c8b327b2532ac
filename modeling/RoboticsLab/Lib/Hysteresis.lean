import Mathlib.Data.List.Induction
import Mathlib.Order.Lattice

/-!
# A switch with hysteresis

On below `slow`, off from `release` on, and as it was in between.  Every report brings its own two
thresholds, and a report may also switch off whatever is on.

    on after a run : a report that engages, and since then only reports that keep   (run_iff)
-/

namespace Hysteresis

section

variable {α : Type*} [LinearOrder α]

/-- One reading. -/
def switch (slow release : α) (was : Bool) (d : α) : Bool := d < (if was then release else slow)

inductive Report (α : Type*)
  | reading (slow release d : α)
  | off
deriving DecidableEq

def Report.Engages : Report α → Prop
  | .reading slow _ d => d < slow
  | .off => False

def Report.Keeps : Report α → Prop
  | .reading _ release d => d < release
  | .off => False

def Report.switch (was : Bool) : Report α → Bool
  | .reading slow release d => Hysteresis.switch slow release was d
  | .off => false

def run (was : Bool) (rs : List (Report α)) : Bool := rs.foldl Report.switch was

/-- A report that engages, and only reports that keep since. -/
def Reached (rs : List (Report α)) : Prop :=
  ∃ before r after, rs = before ++ r :: after ∧ r.Engages ∧ ∀ r' ∈ after, r'.Keeps

theorem run_append (was : Bool) (rs rs' : List (Report α)) : run was (rs ++ rs') = run (run was rs) rs' :=
  List.foldl_append

theorem switch_true_iff (r : Report α) : r.switch true = true ↔ r.Keeps := by
  cases r with
  | reading slow release d => exact decide_eq_true_iff
  | off => exact iff_of_false Bool.false_ne_true id

theorem switch_false_iff (r : Report α) : r.switch false = true ↔ r.Engages := by
  cases r with
  | reading slow release d => exact decide_eq_true_iff
  | off => exact iff_of_false Bool.false_ne_true id

theorem Reached.concat {rs : List (Report α)} (h : Reached rs) {last : Report α} (hlast : last.Keeps) :
    Reached (rs ++ [last]) := by
  obtain ⟨before, r, after, rfl, hr, hafter⟩ := h
  refine ⟨before, r, after ++ [last], by simp, hr, fun r' hr' => ?_⟩
  rcases List.mem_append.mp hr' with hr' | hr'
  · exact hafter r' hr'
  · rwa [List.mem_singleton.mp hr']

/-- The report in question is the last one, or an earlier one that the last one keeps. -/
theorem Reached.of_concat {rs : List (Report α)} {last : Report α} (h : Reached (rs ++ [last])) :
    last.Engages ∨ Reached rs ∧ last.Keeps := by
  obtain ⟨before, r, after, hrs, hr, hafter⟩ := h
  rcases List.eq_nil_or_concat after with rfl | ⟨after', last', rfl⟩
  · obtain ⟨-, hlast⟩ := List.append_inj' hrs rfl
    obtain rfl := (List.cons.inj hlast).1
    exact Or.inl hr
  · rw [List.concat_eq_append] at hrs hafter
    rw [← List.cons_append, ← List.append_assoc] at hrs
    obtain ⟨hinit, hlast⟩ := List.append_inj' hrs rfl
    obtain rfl := (List.cons.inj hlast).1
    exact Or.inr ⟨⟨before, r, after', hinit, hr, fun r' hr' => hafter r' (List.mem_append_left _ hr')⟩,
      hafter last (by simp)⟩

/-- **What a run remembers**: the last report outside of the band between its two thresholds. -/
theorem run_iff {rs : List (Report α)} (hband : ∀ r ∈ rs, r.Engages → r.Keeps) : run false rs = true ↔ Reached rs := by
  induction rs using List.reverseRecOn with
  | nil =>
    refine iff_of_false Bool.false_ne_true ?_
    rintro ⟨before, r, after, hrs, -⟩
    simp at hrs
  | append_singleton rs last ih =>
    replace ih := ih fun r hr => hband r (List.mem_append_left _ hr)
    rw [run_append]
    show last.switch (run false rs) = true ↔ Reached (rs ++ [last])
    constructor
    · intro hlast
      cases hwas : run false rs with
      | true =>
        rw [hwas, switch_true_iff] at hlast
        exact (ih.mp hwas).concat hlast
      | false =>
        rw [hwas, switch_false_iff] at hlast
        exact ⟨rs, last, [], rfl, hlast, by simp⟩
    · intro h
      rcases h.of_concat with hlast | ⟨h, hlast⟩
      · cases run false rs with
        | true => exact (switch_true_iff last).mpr (hband last (by simp) hlast)
        | false => exact (switch_false_iff last).mpr hlast
      · rw [ih.mpr h]
        exact (switch_true_iff last).mpr hlast

end

end Hysteresis
