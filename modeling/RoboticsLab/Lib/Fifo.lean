import Mathlib.Data.List.Basic
import Mathlib.Tactic.Common

/-!
# A bounded FIFO queue whose reader skips unusable entries

`push` appends and drops the oldest entry of a full queue; `take` removes entries up to and
including the first usable one, which it returns.  To say that one entry is returned once, the
entries are numbered in push order (`Numbered`); `map_push` and `map_take` erase the numbers again.
An entry is returned at most once (`served_count_le`).  While it is waiting, with fewer than `cap`
pushes behind it and usable for every reader, the readers are served from the entries before it,
and it is served by the `cap`-th reader at the latest:

    Waiting j a f b s → b + pushes ops < cap → (∀ take in ops, a usable) → Delivery j f (served ops)
                                                                            (Waiting.delivery)
-/

namespace Fifo

variable {α β : Type*} (cap : ℕ)

/-! ## Algorithm -/

/-- Append `a`; a full queue loses its oldest entry first. -/
def push (q : List α) (a : α) : List α := (if cap ≤ q.length then q.tail else q) ++ [a]

/-- The first usable entry and the entries behind it. -/
def take (usable : α → Bool) : List α → Option α × List α
  | [] => (none, [])
  | a :: q => if usable a then (some a, q) else take usable q

inductive Op (α : Type*)
  | push (a : α)
  | take (usable : α → Bool)

/-- A queue whose entries carry their push number; `count` is the next number. -/
structure Numbered (α : Type*) where
  count : ℕ := 0
  queue : List (ℕ × α) := []

def Numbered.step (s : Numbered α) : Op α → Numbered α
  | .push a => { count := s.count + 1, queue := Fifo.push cap s.queue (s.count, a) }
  | .take usable => { s with queue := (Fifo.take (fun x => usable x.2) s.queue).2 }

/-- The numbers the readers of a run are served with, one for each `take`. -/
def served : Numbered α → List (Op α) → List (Option ℕ)
  | _, [] => []
  | s, .push a :: ops => served (s.step cap (.push a)) ops
  | s, .take usable :: ops =>
    (Fifo.take (fun x => usable x.2) s.queue).1.map Prod.fst :: served (s.step cap (.take usable)) ops

def pushes : List (Op α) → ℕ
  | [] => 0
  | .push _ :: ops => pushes ops + 1
  | .take _ :: ops => pushes ops

/-! ## One operation -/

/-- A push keeps an end part of the queue. -/
theorem push_eq_drop (q : List α) (a : α) : ∃ k, push cap q a = q.drop k ++ [a] := by
  unfold push
  by_cases h : cap ≤ q.length
  · exact ⟨1, by rw [if_pos h, List.drop_one]⟩
  · exact ⟨0, by rw [if_neg h, List.drop_zero]⟩

theorem take_cases (usable : α → Bool) (q : List α) :
    (∃ skipped a rest, q = skipped ++ a :: rest ∧ (∀ x ∈ skipped, usable x = false) ∧
      usable a = true ∧ take usable q = (some a, rest)) ∨
    ((∀ x ∈ q, usable x = false) ∧ take usable q = (none, [])) := by
  induction q with
  | nil => right; simp [take]
  | cons a q ih =>
    by_cases ha : usable a = true
    · left
      exact ⟨[], a, q, rfl, by simp, ha, by simp [take, ha]⟩
    · have hskip : take usable (a :: q) = take usable q := by simp [take, ha]
      rw [hskip]
      rcases ih with ⟨skipped, b, rest, rfl, hs, hb, ht⟩ | ⟨hs, ht⟩
      · left
        refine ⟨a :: skipped, b, rest, rfl, ?_, hb, ht⟩
        intro x hx
        rcases List.mem_cons.mp hx with rfl | hx
        · simpa using ha
        · exact hs x hx
      · right
        refine ⟨?_, ht⟩
        intro x hx
        rcases List.mem_cons.mp hx with rfl | hx
        · simpa using ha
        · exact hs x hx

theorem take_suffix (usable : α → Bool) (q : List α) : (take usable q).2 <:+ q := by
  rcases take_cases usable q with ⟨skipped, a, rest, rfl, -, -, ht⟩ | ⟨-, ht⟩
  · rw [ht]
    exact ⟨skipped ++ [a], by simp⟩
  · rw [ht]
    exact List.nil_suffix

theorem map_push (f : α → β) (q : List α) (a : α) :
    (push cap q a).map f = push cap (q.map f) (f a) := by
  unfold push
  rw [List.map_append, List.length_map, List.map_singleton]
  split
  · rw [List.map_tail]
  · rfl

theorem map_take (f : α → β) (usable : β → Bool) (q : List α) :
    take usable (q.map f) =
      ((take (usable ∘ f) q).1.map f, (take (usable ∘ f) q).2.map f) := by
  induction q with
  | nil => rfl
  | cons a q ih =>
    rw [List.map_cons, take, take]
    by_cases ha : usable (f a) = true
    · simp [ha]
    · simp [ha, ih]

theorem length_push_le (hcap : 0 < cap) {q : List α} (hq : q.length ≤ cap) (a : α) :
    (push cap q a).length ≤ cap := by
  unfold push
  split
  · rw [List.length_append, List.length_tail, List.length_singleton]; omega
  · rw [List.length_append, List.length_singleton]; omega

/-- The kept entries of a push are entries of the queue. -/
theorem kept_suffix (q : List α) : (if cap ≤ q.length then q.tail else q) <:+ q := by
  split
  · exact List.tail_suffix q
  · exact List.suffix_refl q

/-! ## Numbers -/

/-- The numbers increase along the queue and are all used, and the queue is within its bound. -/
structure Numbered.Valid (s : Numbered α) : Prop where
  bounded : s.queue.length ≤ cap
  sorted : s.queue.Pairwise (fun x y => x.1 < y.1)
  used : ∀ x ∈ s.queue, x.1 < s.count

theorem Numbered.valid_empty : (({} : Numbered α)).Valid cap where
  bounded := Nat.zero_le _
  sorted := List.Pairwise.nil
  used := by simp

theorem Numbered.Valid.step (hcap : 0 < cap) {s : Numbered α} (h : s.Valid cap) (op : Op α) :
    (s.step cap op).Valid cap := by
  cases op with
  | push a =>
    have hsub := (kept_suffix cap s.queue).sublist
    refine ⟨length_push_le cap hcap h.bounded _, ?_, ?_⟩
    · refine List.pairwise_append.mpr ⟨h.sorted.sublist hsub, List.pairwise_singleton _ _, ?_⟩
      intro x hx y hy
      rw [List.mem_singleton.mp hy]
      exact h.used x (hsub.subset hx)
    · intro x hx
      rcases List.mem_append.mp hx with hx | hx
      · exact Nat.lt_succ_of_lt (h.used x (hsub.subset hx))
      · rw [List.mem_singleton.mp hx]
        exact Nat.lt_succ_self _
  | take usable =>
    have hsub := (take_suffix (fun x : ℕ × α => usable x.2) s.queue).sublist
    exact ⟨Nat.le_trans hsub.length_le h.bounded, h.sorted.sublist hsub, fun x hx => h.used x (hsub.subset hx)⟩

/-- The entry `j` was pushed and is no longer queued. -/
def Numbered.Gone (j : ℕ) (s : Numbered α) : Prop := j < s.count ∧ ∀ x ∈ s.queue, x.1 ≠ j

theorem Numbered.Gone.step {j : ℕ} {s : Numbered α} (h : s.Gone j) (op : Op α) :
    (s.step cap op).Gone j := by
  cases op with
  | push a =>
    refine ⟨Nat.lt_succ_of_lt h.1, ?_⟩
    intro x hx
    rcases List.mem_append.mp hx with hx | hx
    · exact h.2 x ((kept_suffix cap s.queue).subset hx)
    · rw [List.mem_singleton.mp hx]
      exact Nat.ne_of_gt h.1
  | take usable =>
    exact ⟨h.1, fun x hx => h.2 x ((take_suffix _ s.queue).subset hx)⟩

theorem Numbered.Gone.not_served {j : ℕ} {s : Numbered α} (h : s.Gone j) (ops : List (Op α)) :
    some j ∉ served cap s ops := by
  induction ops generalizing s with
  | nil => simp [served]
  | cons op ops ih =>
    cases op with
    | push a => exact ih (h.step cap (.push a))
    | take usable =>
      rw [served, List.mem_cons, not_or]
      refine ⟨?_, ih (h.step cap (.take usable))⟩
      rcases take_cases (fun x : ℕ × α => usable x.2) s.queue with
        ⟨skipped, x, rest, hq, -, -, ht⟩ | ⟨-, ht⟩
      · have hx : x.1 ≠ j := h.2 x (by rw [hq]; simp)
        rw [ht]
        simpa using Ne.symm hx
      · rw [ht]
        simp

/-- An entry that a reader took is gone. -/
theorem Numbered.Valid.gone_of_taken {s : Numbered α} (h : s.Valid cap) {usable : α → Bool}
    {skipped rest : List (ℕ × α)} {x : ℕ × α} (hq : s.queue = skipped ++ x :: rest)
    (ht : Fifo.take (fun x => usable x.2) s.queue = (some x, rest)) :
    (s.step cap (.take usable)).Gone x.1 := by
  have hsorted := h.sorted
  rw [hq, List.pairwise_append] at hsorted
  refine ⟨h.used x (by rw [hq]; simp), ?_⟩
  intro y hy
  have hrest : y ∈ rest := by simpa [Numbered.step, ht] using hy
  exact Nat.ne_of_gt ((List.pairwise_cons.mp hsorted.2.1).1 y hrest)

/-- **At most once.**  Whatever is pushed and read, an entry is served to one reader only. -/
theorem served_count_le (hcap : 0 < cap) {s : Numbered α} (h : s.Valid cap) (j : ℕ)
    (ops : List (Op α)) : (served cap s ops).count (some j) ≤ 1 := by
  induction ops generalizing s with
  | nil => simp [served]
  | cons op ops ih =>
    cases op with
    | push a => exact ih (h.step cap hcap (.push a))
    | take usable =>
      rw [served]
      rcases take_cases (fun x : ℕ × α => usable x.2) s.queue with
        ⟨skipped, x, rest, hq, -, -, ht⟩ | ⟨-, ht⟩
      · by_cases hx : x.1 = j
        · have hgone := h.gone_of_taken cap hq ht
          rw [hx] at hgone
          have hnot := hgone.not_served cap ops
          simp only [ht, Option.map_some, hx, List.count_cons_self, List.count_eq_zero_of_not_mem hnot,
            Nat.zero_add, Nat.le_refl]
        · rw [ht, Option.map_some, List.count_cons_of_ne (by simpa using hx)]
          exact ih (h.step cap hcap (.take usable))
      · rw [ht, Option.map_none, List.count_cons_of_ne (by simp)]
        exact ih (h.step cap hcap (.take usable))

/-! ## Waiting -/

/-- The entry `j` is queued, with at most `f` entries before it, all older, and at most `b` behind. -/
def Numbered.Waiting (j : ℕ) (a : α) (f b : ℕ) (s : Numbered α) : Prop :=
  ∃ front back, s.queue = front ++ (j, a) :: back ∧ (∀ x ∈ front, x.1 < j) ∧
    front.length ≤ f ∧ back.length ≤ b

/-- The readers are served older entries until, by reader `f + 1` at the latest, one is served `j`. -/
def Delivery (j f : ℕ) (outs : List (Option ℕ)) : Prop :=
  (∃ first rest, outs = first ++ some j :: rest ∧ (∀ o ∈ first, ∃ i < j, o = some i) ∧
    first.length ≤ f) ∨
  ((∀ o ∈ outs, ∃ i < j, o = some i) ∧ outs.length ≤ f)

theorem Delivery.older {j f i : ℕ} {outs : List (Option ℕ)} (hi : i < j) (h : Delivery j f outs) :
    Delivery j (f + 1) (some i :: outs) := by
  rcases h with ⟨first, rest, rfl, hfirst, hlen⟩ | ⟨hall, hlen⟩
  · left
    refine ⟨some i :: first, rest, rfl, ?_, by simpa using hlen⟩
    intro o ho
    rcases List.mem_cons.mp ho with rfl | ho
    · exact ⟨i, hi, rfl⟩
    · exact hfirst o ho
  · right
    refine ⟨?_, by simpa using hlen⟩
    intro o ho
    rcases List.mem_cons.mp ho with rfl | ho
    · exact ⟨i, hi, rfl⟩
    · exact hall o ho

/-- A push puts its entry behind everything that is kept. -/
theorem Numbered.Valid.waiting_push (hcap : 0 < cap) {s : Numbered α} (h : s.Valid cap) (a : α) :
    (s.step cap (.push a)).Waiting s.count a (cap - 1) 0 := by
  refine ⟨_, [], rfl, fun x hx => h.used x ((kept_suffix cap s.queue).subset hx), ?_, Nat.le_refl _⟩
  have hlen : (Fifo.push cap s.queue (s.count, a)).length ≤ cap := length_push_le cap hcap h.bounded _
  unfold Fifo.push at hlen
  rw [List.length_append, List.length_singleton] at hlen
  omega

/-- A push keeps the entry waiting until `cap` entries were pushed behind it. -/
theorem Numbered.Waiting.push {j f b : ℕ} {a c : α} {s : Numbered α} (h : s.Waiting j a f b)
    (hb : b + 1 < cap) : (s.step cap (.push c)).Waiting j a f (b + 1) := by
  obtain ⟨front, back, hq, hfront, hf, hback⟩ := h
  show ∃ front' back', Fifo.push cap s.queue (s.count, c) = front' ++ (j, a) :: back' ∧ _
  unfold Fifo.push
  rw [hq]
  split
  · next hfull =>
    cases front with
    | nil => simp only [List.nil_append, List.length_cons] at hfull; omega
    | cons x front =>
      refine ⟨front, back ++ [(s.count, c)], by simp, fun y hy => hfront y (by simp [hy]), ?_, ?_⟩
      · rw [List.length_cons] at hf; omega
      · rw [List.length_append, List.length_singleton]; omega
  · refine ⟨front, back ++ [(s.count, c)], by simp, hfront, hf, ?_⟩
    rw [List.length_append, List.length_singleton]; omega

/-- A reader for whom the waiting entry is usable takes it or an older one. -/
theorem Numbered.Waiting.take {j f b : ℕ} {a : α} {s : Numbered α} (h : s.Waiting j a f b)
    {usable : α → Bool} (ha : usable a = true) :
    (Fifo.take (fun x => usable x.2) s.queue).1.map Prod.fst = some j ∨
    ∃ i < j, ∃ f', f = f' + 1 ∧ (s.step cap (.take usable)).Waiting j a f' b ∧
      (Fifo.take (fun x => usable x.2) s.queue).1.map Prod.fst = some i := by
  obtain ⟨front, back, hq, hfront, hf, hback⟩ := h
  show _ ∨ ∃ i < j, ∃ f', f = f' + 1 ∧ (∃ front' back',
    (Fifo.take (fun x : ℕ × α => usable x.2) s.queue).2 = front' ++ (j, a) :: back' ∧ _) ∧ _
  rw [hq]
  clear hq
  induction front generalizing f with
  | nil => left; simp [Fifo.take, ha]
  | cons x front ih =>
    obtain ⟨f, rfl⟩ : ∃ g, f = g + 1 := ⟨f - 1, by rw [List.length_cons] at hf; omega⟩
    have hlen : front.length ≤ f := by rw [List.length_cons] at hf; omega
    have hold : ∀ y ∈ front, y.1 < j := fun y hy => hfront y (List.mem_cons_of_mem _ hy)
    by_cases hx : usable x.2 = true
    · right
      refine ⟨x.1, hfront x (by simp), f, rfl, ⟨front, back, ?_, hold, hlen, hback⟩, ?_⟩
      · simp [Fifo.take, hx]
      · simp [Fifo.take, hx]
    · have hskip : Fifo.take (fun x : ℕ × α => usable x.2) (x :: front ++ (j, a) :: back) =
          Fifo.take (fun x : ℕ × α => usable x.2) (front ++ (j, a) :: back) := by
        simp [Fifo.take, hx]
      rw [hskip]
      rcases ih hold hlen with h | ⟨i, hi, f', rfl, ⟨front', back', hq', h1, h2, h3⟩, ho⟩
      · exact Or.inl h
      · exact Or.inr ⟨i, hi, f' + 1, rfl, ⟨front', back', hq', h1, by omega, h3⟩, ho⟩

/-- **Delivery.**  While fewer than `cap` entries are pushed behind it and no reader finds it
unusable, a waiting entry is the next one served after the older ones. -/
theorem Numbered.Waiting.delivery {j f b : ℕ} {a : α} {s : Numbered α} (h : s.Waiting j a f b)
    (ops : List (Op α)) (hb : b + pushes ops < cap)
    (ha : ∀ usable, Op.take usable ∈ ops → usable a = true) : Delivery j f (served cap s ops) := by
  induction ops generalizing s f b with
  | nil => right; simp [served]
  | cons op ops ih =>
    have hrest : ∀ usable, Op.take usable ∈ ops → usable a = true :=
      fun usable hu => ha usable (List.mem_cons_of_mem _ hu)
    cases op with
    | push c =>
      rw [pushes] at hb
      exact ih (h.push cap (by omega)) (by omega) hrest
    | take usable =>
      rw [served]
      rw [pushes] at hb
      rcases h.take cap (ha usable (by simp)) with hj | ⟨i, hi, f', rfl, hw, hserved⟩
      · left
        exact ⟨[], _, by rw [hj]; rfl, by simp, Nat.zero_le _⟩
      · rw [hserved]
        exact (ih hw hb hrest).older hi

end Fifo
