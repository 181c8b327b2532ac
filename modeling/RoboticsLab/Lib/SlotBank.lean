import Mathlib.Data.List.Perm.Basic
import Mathlib.Data.List.Range
import Mathlib.Logic.Function.Basic

/-!
# A bank of slots between one writer and one reader

Each slot holds a state word and a content.  The writer claims a free slot, fills it and publishes
it; the reader opens a ready slot, consumes the content and closes the slot, or drops a ready slot
unopened.  A content is `none` while it is being written.  `log`, `gone` and the tickets are for the
proofs only: the published contents in their order, and the number in `log` of each content that is
still to be consumed.

    Inv n b w r → b.gone ++ b.pending n ~ List.range b.log.length                       (Inv.perm)

One lemma for each operation says that it keeps `Inv`.
-/

namespace SlotBank

inductive SlotState
  | free
  | writing
  | ready
  | reading
deriving DecidableEq

structure Slot (α : Type*) where
  state : SlotState := .free
  content : Option α := none
  ticket : Option ℕ := none

structure Bank (α : Type*) where
  slot : ℕ → Slot α := fun _ => {}
  log : List α := []
  gone : List ℕ := []

/-- What the writer holds. -/
inductive Writer (α : Type*)
  | none
  | claimed (i : ℕ)
  | filled (i : ℕ) (a : α)

@[grind] def Writer.slot {α : Type*} : Writer α → Option ℕ
  | .none => Option.none
  | .claimed i => some i
  | .filled i _ => some i

/-- What the reader holds: a slot it has opened, whose content it has consumed or not. -/
inductive Reader
  | none
  | holding (i : ℕ)
  | spent (i : ℕ)

@[grind] def Reader.slot : Reader → Option ℕ
  | .none => Option.none
  | .holding i => some i
  | .spent i => some i

variable {α : Type*} {n i : ℕ} {a : α} {b : Bank α} {w : Writer α} {r : Reader}

namespace Bank

/-! ## Operations -/

def set (b : Bank α) (i : ℕ) (x : Slot α) : Bank α := { b with slot := Function.update b.slot i x }

def setState (b : Bank α) (i : ℕ) (st : SlotState) : Bank α := b.set i { b.slot i with state := st }

def setContent (b : Bank α) (i : ℕ) (c : Option α) : Bank α := b.set i { b.slot i with content := c }

/-- The writer's slot becomes ready; its content gets the next ticket. -/
def publish (b : Bank α) (i : ℕ) (a : α) : Bank α :=
  { b.set i { b.slot i with state := .ready, ticket := some b.log.length } with log := b.log ++ [a] }

/-- The content of slot `i` has been used: its ticket is gone. -/
def consume (b : Bank α) (i : ℕ) : Bank α :=
  { b.set i { b.slot i with ticket := none } with gone := b.gone ++ (b.slot i).ticket.toList }

/-- A ready slot becomes free unopened. -/
def drop (b : Bank α) (i : ℕ) : Bank α := (b.consume i).setState i .free

/-- The tickets still to be consumed. -/
def pending (n : ℕ) (b : Bank α) : List ℕ := (List.range n).filterMap fun i => (b.slot i).ticket

@[simp, grind =] theorem set_slot (x : Slot α) (j : ℕ) : (b.set i x).slot j = if j = i then x else b.slot j := by
  simp only [set, Function.update_apply]

@[simp, grind =] theorem set_log (x : Slot α) : (b.set i x).log = b.log := rfl
@[simp, grind =] theorem set_gone (x : Slot α) : (b.set i x).gone = b.gone := rfl
@[simp, grind =] theorem setState_log (st : SlotState) : (b.setState i st).log = b.log := rfl
@[simp, grind =] theorem setState_gone (st : SlotState) : (b.setState i st).gone = b.gone := rfl
@[simp, grind =] theorem setContent_log (c : Option α) : (b.setContent i c).log = b.log := rfl
@[simp, grind =] theorem setContent_gone (c : Option α) : (b.setContent i c).gone = b.gone := rfl
@[simp, grind =] theorem publish_log : (b.publish i a).log = b.log ++ [a] := rfl
@[simp, grind =] theorem publish_gone : (b.publish i a).gone = b.gone := rfl
@[simp, grind =] theorem consume_log : (b.consume i).log = b.log := rfl
@[simp, grind =] theorem consume_gone : (b.consume i).gone = b.gone ++ (b.slot i).ticket.toList := rfl
@[simp, grind =] theorem drop_log : (b.drop i).log = b.log := rfl
@[simp, grind =] theorem drop_gone : (b.drop i).gone = b.gone ++ (b.slot i).ticket.toList := rfl

@[simp, grind =] theorem setState_slot (st : SlotState) (j : ℕ) :
    (b.setState i st).slot j = if j = i then { b.slot i with state := st } else b.slot j := set_slot _ j

@[simp, grind =] theorem setContent_slot (c : Option α) (j : ℕ) :
    (b.setContent i c).slot j = if j = i then { b.slot i with content := c } else b.slot j := set_slot _ j

@[simp, grind =] theorem publish_slot (j : ℕ) : (b.publish i a).slot j =
    if j = i then { b.slot i with state := .ready, ticket := some b.log.length } else b.slot j :=
  set_slot _ j

@[simp, grind =] theorem consume_slot (j : ℕ) :
    (b.consume i).slot j = if j = i then { b.slot i with ticket := none } else b.slot j := set_slot _ j

@[simp, grind =] theorem drop_slot (j : ℕ) : (b.drop i).slot j =
    if j = i then { b.slot i with state := .free, ticket := none } else b.slot j := by
  by_cases h : j = i <;> simp [drop, h]

theorem setState_ticket (i : ℕ) (st : SlotState) (j : ℕ) :
    ((b.setState i st).slot j).ticket = (b.slot j).ticket := by
  by_cases hj : j = i <;> simp [hj]

theorem setContent_ticket (i : ℕ) (c : Option α) (j : ℕ) :
    ((b.setContent i c).slot j).ticket = (b.slot j).ticket := by
  by_cases hj : j = i <;> simp [hj]

/-! ## Pending tickets -/

theorem pending_congr {b' : Bank α} (h : ∀ j, (b'.slot j).ticket = (b.slot j).ticket) :
    b'.pending n = b.pending n := by
  unfold pending
  simp only [h]

theorem pending_succ : b.pending (n + 1) = b.pending n ++ (b.slot n).ticket.toList := by
  rw [pending, List.range_succ, List.filterMap_append]
  cases h : (b.slot n).ticket <;> simp [pending, h]

/-- Replacing slot `i` replaces its ticket among the pending ones. -/
theorem count_pending_update (b b' : Bank α) (hi : i < n) (hb : ∀ j, j ≠ i → b'.slot j = b.slot j) (t : ℕ) :
    (b'.pending n).count t + (b.slot i).ticket.toList.count t =
      (b.pending n).count t + (b'.slot i).ticket.toList.count t := by
  induction n with
  | zero => omega
  | succ n ih =>
    rw [pending_succ, pending_succ, List.count_append, List.count_append]
    by_cases hn : i = n
    · subst hn
      have : b'.pending i = b.pending i := by
        unfold pending
        apply List.filterMap_congr
        intro j hj
        rw [hb j (by have := List.mem_range.mp hj; omega)]
      rw [this]
      omega
    · rw [hb n (Ne.symm hn)]
      have := ih (by omega)
      omega

end Bank

/-! ## The invariant -/

open Bank

structure Inv (n : ℕ) (b : Bank α) (w : Writer α) (r : Reader) : Prop where
  bounded : ∀ i, (b.slot i).state ≠ .free → i < n
  writing : ∀ i, (b.slot i).state = .writing ↔ w.slot = some i
  reading : ∀ i, (b.slot i).state = .reading ↔ r.slot = some i
  ticket : ∀ i, (b.slot i).ticket ≠ none ↔ (b.slot i).state = .ready ∨ r = .holding i
  content : ∀ i t, (b.slot i).ticket = some t → ∃ a, (b.slot i).content = some a ∧ b.log[t]? = some a
  filled : ∀ i a, w = .filled i a → (b.slot i).content = some a
  inj : ∀ i j t, (b.slot i).ticket = some t → (b.slot j).ticket = some t → i = j
  account : ∀ t, b.gone.count t + (b.pending n).count t = (List.range b.log.length).count t

theorem inv_empty : Inv n ({} : Bank α) .none .none := by
  refine ⟨?_, ?_, ?_, ?_, ?_, ?_, ?_, ?_⟩ <;> simp [Writer.slot, Reader.slot, pending]

/-- **Accounting.**  Every published content is gone or pending, exactly once. -/
theorem Inv.perm (h : Inv n b w r) : (b.gone ++ b.pending n).Perm (List.range b.log.length) := by
  rw [List.perm_iff_count]
  intro t
  rw [List.count_append]
  exact h.account t

theorem Inv.lt_of_ticket (h : Inv n b w r) {t : ℕ} (ht : (b.slot i).ticket = some t) :
    t < b.log.length := by
  obtain ⟨a, -, ha⟩ := h.content i t ht
  exact (List.getElem?_eq_some_iff.mp ha).1

/-- Only slots of the bank hold tickets. -/
theorem Inv.lt_of_ticket_slot (h : Inv n b w r) {t : ℕ} (ht : (b.slot i).ticket = some t) : i < n := by
  rcases (h.ticket i).mp (by simp [ht]) with hi | rfl
  · exact h.bounded i (by simp [hi])
  · exact h.bounded i (by simp [(h.reading i).mpr rfl])

theorem Inv.lt_of_ready (h : Inv n b w r) (hi : (b.slot i).state = .ready) : i < n :=
  h.bounded i (by simp [hi])

/-- A ready slot holds a ticket and the published content of that number. -/
theorem Inv.ready_content (h : Inv n b w r) (hi : (b.slot i).state = .ready) :
    ∃ t a, (b.slot i).ticket = some t ∧ (b.slot i).content = some a ∧ b.log[t]? = some a := by
  obtain ⟨t, ht⟩ := Option.ne_none_iff_exists'.mp ((h.ticket i).mpr (.inl hi))
  obtain ⟨a, hc, ha⟩ := h.content i t ht
  exact ⟨t, a, ht, hc, ha⟩

theorem Inv.holding_content (h : Inv n b w (.holding i)) :
    ∃ t a, (b.slot i).ticket = some t ∧ (b.slot i).content = some a ∧ b.log[t]? = some a := by
  obtain ⟨t, ht⟩ := Option.ne_none_iff_exists'.mp ((h.ticket i).mpr (.inr rfl))
  obtain ⟨a, hc, ha⟩ := h.content i t ht
  exact ⟨t, a, ht, hc, ha⟩

theorem Inv.account_setState (h : Inv n b w r) (st : SlotState) (t : ℕ) : (b.setState i st).gone.count t +
    ((b.setState i st).pending n).count t = (List.range (b.setState i st).log.length).count t := by
  rw [pending_congr (setState_ticket i st)]
  exact h.account t

theorem Inv.account_setContent (h : Inv n b w r) (c : Option α) (t : ℕ) : (b.setContent i c).gone.count t +
    ((b.setContent i c).pending n).count t = (List.range (b.setContent i c).log.length).count t := by
  rw [pending_congr (setContent_ticket i c)]
  exact h.account t

/-- The books are kept by an operation that moves the ticket of slot `i` to `gone`. -/
theorem Inv.account_of_consume (h : Inv n b w r) (b' : Bank α) (hi : i < n) (hl : b'.log = b.log)
    (hg : b'.gone = b.gone ++ (b.slot i).ticket.toList) (hb : ∀ j, j ≠ i → b'.slot j = b.slot j)
    (ht : (b'.slot i).ticket = none) (t : ℕ) :
    b'.gone.count t + (b'.pending n).count t = (List.range b'.log.length).count t := by
  have h1 := h.account t
  have h2 := count_pending_update b b' hi hb t
  rw [ht, Option.toList_none, List.count_nil, Nat.add_zero] at h2
  rw [hl, hg, List.count_append]
  omega

/-! ## Each operation keeps the invariant -/

/-- The compare-exchange `Free → Writing` of the writer. -/
theorem Inv.claim (h : Inv n b .none r) (hi : i < n) (hf : (b.slot i).state = .free) :
    Inv n (b.setState i .writing) (.claimed i) r := by
  have hacc := h.account_setState (i := i) .writing
  obtain ⟨h1, h2, h3, h4, h5, h6, h7, -⟩ := h
  refine ⟨?_, ?_, ?_, ?_, ?_, ?_, ?_, hacc⟩ <;> grind

/-- The writer gives its slot back unfilled. -/
theorem Inv.abandon (h : Inv n b (.claimed i) r) : Inv n (b.setState i .free) .none r := by
  have hacc := h.account_setState (i := i) .free
  obtain ⟨h1, h2, h3, h4, h5, h6, h7, -⟩ := h
  refine ⟨?_, ?_, ?_, ?_, ?_, ?_, ?_, hacc⟩ <;> grind

/-- The writer starts to write its slot. -/
theorem Inv.tear (h : Inv n b (.claimed i) r) : Inv n (b.setContent i none) (.claimed i) r := by
  have hacc := h.account_setContent (i := i) none
  obtain ⟨h1, h2, h3, h4, h5, h6, h7, -⟩ := h
  refine ⟨?_, ?_, ?_, ?_, ?_, ?_, ?_, hacc⟩ <;> grind

/-- The writer has written its slot. -/
theorem Inv.fill (h : Inv n b (.claimed i) r) : Inv n (b.setContent i (some a)) (.filled i a) r := by
  have hacc := h.account_setContent (i := i) (some a)
  obtain ⟨h1, h2, h3, h4, h5, h6, h7, -⟩ := h
  refine ⟨?_, ?_, ?_, ?_, ?_, ?_, ?_, hacc⟩ <;> grind

/-- The reader opens a ready slot. -/
theorem Inv.open (h : Inv n b w .none) (hi : (b.slot i).state = .ready) :
    Inv n (b.setState i .reading) w (.holding i) := by
  have hacc := h.account_setState (i := i) .reading
  obtain ⟨h1, h2, h3, h4, h5, h6, h7, -⟩ := h
  refine ⟨?_, ?_, ?_, ?_, ?_, ?_, ?_, hacc⟩ <;> grind

theorem Inv.close (h : Inv n b w (.spent i)) : Inv n (b.setState i .free) w .none := by
  have hacc := h.account_setState (i := i) .free
  obtain ⟨h1, h2, h3, h4, h5, h6, h7, -⟩ := h
  refine ⟨?_, ?_, ?_, ?_, ?_, ?_, ?_, hacc⟩ <;> grind

theorem Inv.consume (h : Inv n b w (.holding i)) : Inv n (b.consume i) w (.spent i) := by
  have hi : i < n := h.bounded i (by simp [(h.reading i).mpr rfl])
  have hacc := h.account_of_consume (b.consume i) hi rfl rfl (by intro j hj; simp [hj]) (by simp)
  obtain ⟨h1, h2, h3, h4, h5, h6, h7, -⟩ := h
  refine ⟨?_, ?_, ?_, ?_, ?_, ?_, ?_, hacc⟩ <;> grind

theorem Inv.drop (h : Inv n b w r) (hi : (b.slot i).state = .ready) : Inv n (b.drop i) w r := by
  have hacc := h.account_of_consume (b.drop i) (h.lt_of_ready hi) rfl rfl
    (by intro j hj; simp [hj]) (by simp)
  obtain ⟨h1, h2, h3, h4, h5, h6, h7, -⟩ := h
  refine ⟨?_, ?_, ?_, ?_, ?_, ?_, ?_, hacc⟩ <;> grind

/-- The store of `Ready`: the content joins the log under the next ticket. -/
theorem Inv.publish (h : Inv n b (.filled i a) r) : Inv n (b.publish i a) .none r := by
  have hlt : ∀ j t, (b.slot j).ticket = some t → t < b.log.length := fun j t => h.lt_of_ticket
  have hw : (b.slot i).state = .writing := (h.writing i).mpr rfl
  have hn : (b.slot i).ticket = none := by
    by_contra hne
    rcases (h.ticket i).mp hne with h' | h'
    · simp [h'] at hw
    · simp [(h.reading i).mpr (by rw [h']; rfl)] at hw
  have hacc : ∀ t, (b.publish i a).gone.count t + ((b.publish i a).pending n).count t =
      (List.range (b.publish i a).log.length).count t := by
    intro t
    have h1 := h.account t
    have h2 := count_pending_update b (b.publish i a) (h.bounded i (by simp [hw]))
      (by intro j hj; simp [hj]) t
    simp only [hn, publish_slot, if_true, Option.toList_none, Option.toList_some, List.count_nil] at h2
    rw [publish_gone, publish_log, List.length_append, List.length_singleton, List.range_succ,
      List.count_append]
    omega
  obtain ⟨h1, h2, h3, h4, h5, h6, h7, -⟩ := h
  refine ⟨?_, ?_, ?_, ?_, ?_, ?_, ?_, hacc⟩ <;> grind

end SlotBank
