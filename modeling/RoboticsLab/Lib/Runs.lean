import Mathlib.Data.List.Induction

/-!
# Runs: a property of every step, and the invariant rule

A run is the list of the inputs a component receives.  `EveryStep P xs` says that `P` holds at
each step: of the inputs `pre` received before it and of its own input `x`.  The state before the
step is `pre.foldl step s`, so a state invariant is a property of `pre`.

    EveryStep C xs → I [] → (∀ pre x, I pre → C pre x → P pre x ∧ I (pre ++ [x])) → EveryStep P xs
                                                                        (EveryStep.of_invariant)
-/

namespace Runs

variable {ι : Type*} {C P : List ι → ι → Prop} {xs : List ι}

/-- `P` holds at every step of the run `xs`. -/
def EveryStep (P : List ι → ι → Prop) (xs : List ι) : Prop :=
  ∀ pre x post, xs = pre ++ x :: post → P pre x

theorem everyStep_append (ys : List ι) :
    EveryStep P (xs ++ ys) ↔ EveryStep P xs ∧ EveryStep (fun pre => P (xs ++ pre)) ys := by
  constructor
  · intro h
    refine ⟨fun pre x post e => h pre x (post ++ ys) (by rw [e]; simp), fun pre x post e => ?_⟩
    exact h (xs ++ pre) x post (by rw [e]; simp)
  · rintro ⟨h1, h2⟩ pre x post e
    rcases List.append_eq_append_iff.mp e with ⟨as, rfl, hy⟩ | ⟨bs, rfl, hx⟩
    · exact h2 as x post hy
    · cases bs with
      | nil =>
        rw [List.nil_append] at hx
        simpa using h2 [] x post (by simpa using hx.symm)
      | cons b bs =>
        rw [List.cons_append] at hx
        obtain ⟨rfl, -⟩ := List.cons.inj hx
        exact h1 pre x bs rfl

@[simp] theorem everyStep_singleton (x : ι) : EveryStep P [x] ↔ P [] x := by
  constructor
  · intro h; exact h [] x [] rfl
  · intro h pre y post e
    cases pre with
    | nil => obtain ⟨rfl, -⟩ := List.cons.inj e; exact h
    | cons a pre => simp at e

/-- The steps by their numbers, which can be checked one by one. -/
theorem everyStep_of_take (h : ∀ i < xs.length, ∀ x ∈ xs[i]?, P (xs.take i) x) : EveryStep P xs := by
  rintro pre x post rfl
  simpa using h pre.length (by simp) x (by simp)

theorem EveryStep.of_append (h : EveryStep P xs) {pre post : List ι} (e : xs = pre ++ post) :
    EveryStep P pre := by
  subst e
  exact (everyStep_append post).mp h |>.1

theorem EveryStep.imp {Q : List ι → ι → Prop} (h : EveryStep P xs) (hpq : ∀ pre x, P pre x → Q pre x) :
    EveryStep Q xs := fun pre x post e => hpq pre x (h pre x post e)

theorem EveryStep.and {Q : List ι → ι → Prop} (h : EveryStep P xs) (h' : EveryStep Q xs) :
    EveryStep (fun pre x => P pre x ∧ Q pre x) xs :=
  fun pre x post e => ⟨h pre x post e, h' pre x post e⟩

/-- An invariant of the histories holds after the whole run. -/
theorem EveryStep.invariant (I : List ι → Prop) (h : EveryStep C xs) (h0 : I [])
    (hs : ∀ pre x, I pre → C pre x → I (pre ++ [x])) : I xs := by
  induction xs using List.reverseRecOn with
  | nil => exact h0
  | append_singleton xs x ih => exact hs xs x (ih (h.of_append rfl)) (h xs x [] rfl)

/-- **The invariant rule.**  An invariant that each step keeps and that gives `P` at each step. -/
theorem EveryStep.of_invariant (I : List ι → Prop) (h : EveryStep C xs) (h0 : I [])
    (hs : ∀ pre x, I pre → C pre x → P pre x ∧ I (pre ++ [x])) : EveryStep P xs := by
  intro pre x post e
  have hI : I pre := (h.of_append e).invariant I h0 fun pre x hi hc => (hs pre x hi hc).2
  exact (hs pre x hI (h pre x post e)).1

/-! ## Since -/

/-- `P` held at a step of the run, and `Q` at none since. -/
def Since (P Q : List ι → ι → Prop) (xs : List ι) : Prop :=
  ∃ pre x post, xs = pre ++ x :: post ∧ P pre x ∧ EveryStep (fun p y => ¬ Q (pre ++ x :: p) y) post

theorem not_since_nil {Q : List ι → ι → Prop} : ¬ Since P Q [] := by
  rintro ⟨pre, x, post, e, -⟩
  simp at e

theorem since_concat {Q : List ι → ι → Prop} (y : ι) :
    Since P Q (xs ++ [y]) ↔ P xs y ∨ Since P Q xs ∧ ¬ Q xs y := by
  constructor
  · rintro ⟨pre, x, post, e, hP, hQ⟩
    induction post using List.reverseRecOn with
    | nil =>
      obtain ⟨rfl, hy⟩ := List.append_inj' e rfl
      cases hy
      exact .inl hP
    | append_singleton post z _ =>
      rw [← List.cons_append, ← List.append_assoc] at e
      obtain ⟨rfl, hz⟩ := List.append_inj' e rfl
      cases hz
      exact .inr ⟨⟨pre, x, post, rfl, hP, hQ.of_append rfl⟩, hQ post y [] rfl⟩
  · rintro (hP | ⟨⟨pre, x, post, rfl, hP, hQ⟩, hy⟩)
    · exact ⟨xs, y, [], rfl, hP, fun p z q e => by simp at e⟩
    · refine ⟨pre, x, post ++ [y], by simp, hP, ?_⟩
      rw [everyStep_append, everyStep_singleton]
      exact ⟨hQ, by simpa using hy⟩

/-- What `P` establishes, and every step without `Q` keeps, holds while `P` is the last of them. -/
theorem Since.invariant {Q : List ι → ι → Prop} (J : List ι → Prop) (h : Since P Q xs)
    (hP : ∀ pre x, P pre x → J (pre ++ [x])) (hs : ∀ pre x, J pre → ¬ Q pre x → J (pre ++ [x])) : J xs := by
  induction xs using List.reverseRecOn with
  | nil => exact absurd h not_since_nil
  | append_singleton xs x ih =>
    rcases (since_concat x).mp h with hx | ⟨hxs, hq⟩
    · exact hP xs x hx
    · exact hs xs x (ih hxs) hq

/-! ## The inputs that meet a condition -/

section
variable {σ : Type*} (step : σ → ι → σ) (S : σ → ι → Prop) [∀ s x, Decidable (S s x)]

/-- The inputs of the run from `s` that meet `S` in the state they find, in order. -/
def selected (s : σ) : List ι → List ι
  | [] => []
  | x :: xs => if S s x then x :: selected (step s x) xs else selected (step s x) xs

theorem selected_append (s : σ) (xs ys : List ι) :
    selected step S s (xs ++ ys) = selected step S s xs ++ selected step S (xs.foldl step s) ys := by
  induction xs generalizing s with
  | nil => rfl
  | cons y xs ih =>
    simp only [List.cons_append, selected, List.foldl_cons, ih]
    split
    · rfl
    · rfl

variable {step S}

theorem selected_concat_of (s : σ) {xs : List ι} {x : ι} (h : S (xs.foldl step s) x) :
    selected step S s (xs ++ [x]) = selected step S s xs ++ [x] := by
  rw [selected_append]
  simp [selected, h]

theorem selected_concat_of_not (s : σ) {xs : List ι} {x : ι} (h : ¬ S (xs.foldl step s) x) :
    selected step S s (xs ++ [x]) = selected step S s xs := by
  rw [selected_append]
  simp [selected, h]

/-- Where a selected input stands in the selection. -/
theorem selected_split (s : σ) {pre post : List ι} {x : ι} (h : S (pre.foldl step s) x) :
    ∃ rest, selected step S s (pre ++ x :: post) = selected step S s pre ++ x :: rest := by
  refine ⟨selected step S (step (pre.foldl step s) x) post, ?_⟩
  rw [selected_append]
  simp [selected, h]

/-- Where an entry of the selection stands in the run. -/
theorem split_of_selected {s : σ} {kept rest : List ι} {x : ι} (h : selected step S s xs = kept ++ x :: rest) :
    ∃ pre post, xs = pre ++ x :: post ∧ S (pre.foldl step s) x ∧ selected step S s pre = kept := by
  induction xs generalizing s kept with
  | nil => simp [selected] at h
  | cons y ys ih =>
    by_cases hy : S s y
    · simp only [selected, if_pos hy] at h
      cases kept with
      | nil =>
        obtain ⟨rfl, -⟩ := List.cons.inj h
        exact ⟨[], ys, rfl, hy, rfl⟩
      | cons k kept =>
        obtain ⟨rfl, htail⟩ := List.cons.inj h
        obtain ⟨pre, post, rfl, hS, hpre⟩ := ih htail
        refine ⟨y :: pre, post, rfl, hS, ?_⟩
        simp only [selected, if_pos hy, hpre]
    · simp only [selected, if_neg hy] at h
      obtain ⟨pre, post, rfl, hS, hpre⟩ := ih h
      refine ⟨y :: pre, post, rfl, hS, ?_⟩
      simp only [selected, if_neg hy, hpre]

end

/-! ## Clocks -/

/-- The times of the inputs do not decrease. -/
def Clocked (time : ι → ℕ) (xs : List ι) : Prop := (xs.map time).Pairwise (· ≤ ·)

theorem Clocked.everyStep {time : ι → ℕ} (h : Clocked time xs) :
    EveryStep (fun pre x => ∀ y ∈ pre, time y ≤ time x) xs := by
  rintro pre x post rfl y hy
  rw [Clocked, List.map_append, List.pairwise_append] at h
  exact h.2.2 _ (List.mem_map_of_mem hy) _ (by simp)

end Runs
