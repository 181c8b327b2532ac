import Mathlib.Data.List.Rotate
import Mathlib.Tactic.Ring

/-!
# Overwrite rings

A ring of fixed capacity with a write head: `push` overwrites the cell under the head and moves the
head on.  Read from the head on, the ring holds the last `capacity` entries of its whole history,
oldest first, behind the entries it was filled with (`rotate_pushAll`).

A count over the ring is a count over the whole history as far as a bound below the capacity can
tell, when the counted entries of the history are a final stretch of it:

    bound < count (last capacity entries) ↔ bound < count (all entries)       (lt_countP_kept_iff)
-/

namespace OverwriteRing

variable {α : Type*}

structure Cells (α : Type*) where
  ring : List α
  head : ℕ
deriving DecidableEq

def Cells.filled (n : ℕ) (a : α) : Cells α := ⟨List.replicate n a, 0⟩

def push (c : Cells α) (x : α) : Cells α where
  ring := c.ring.set c.head x
  head := (c.head + 1) % c.ring.length

def pushAll (c : Cells α) (xs : List α) : Cells α := xs.foldl push c

theorem push_length (c : Cells α) (x : α) : (push c x).ring.length = c.ring.length :=
  List.length_set

/-- **One push**, read from the head on: the oldest entry leaves, the new one comes last. -/
theorem rotate_push (c : Cells α) (x : α) (h : c.head < c.ring.length) :
    (push c x).ring.rotate (push c x).head = (c.ring.rotate c.head).tail ++ [x] := by
  obtain ⟨ring, head⟩ := c
  dsimp only at h
  have hmod : (ring.set head x).rotate ((head + 1) % ring.length) =
      (ring.set head x).rotate (head + 1) := by
    have hlen : (ring.set head x).length = ring.length := List.length_set
    rw [← hlen, List.rotate_mod]
  show (ring.set head x).rotate ((head + 1) % ring.length) = (ring.rotate head).tail ++ [x]
  have hinside : head + 1 ≤ (ring.set head x).length := by
    rw [List.length_set]
    omega
  rw [hmod, List.rotate_eq_drop_append_take hinside,
    List.rotate_eq_drop_append_take h.le, List.set_eq_take_cons_drop x h]
  have htail : (ring.drop head ++ ring.take head).tail = ring.drop (head + 1) ++ ring.take head := by
    rw [List.drop_eq_getElem_cons h]
    rfl
  have htake : (List.take head ring).length = head := List.length_take_of_le h.le
  rw [List.drop_append, List.take_append, List.drop_eq_nil_of_le (by omega), htake,
    List.take_of_length_le (by omega), Nat.add_sub_cancel_left, htail]
  simp

/-- The head stays inside, and the ring keeps its length. -/
theorem pushAll_fits {c : Cells α} (h : c.head < c.ring.length) (xs : List α) :
    (pushAll c xs).head < (pushAll c xs).ring.length ∧
      (pushAll c xs).ring.length = c.ring.length := by
  induction xs using List.reverseRecOn with
  | nil => exact ⟨h, rfl⟩
  | append_singleton xs x ih =>
    unfold pushAll at ih ⊢
    rw [List.foldl_append]
    refine ⟨?_, (push_length _ x).trans ih.2⟩
    rw [List.foldl_cons, List.foldl_nil, push_length]
    exact Nat.mod_lt _ (by omega)

/-- **Every push**: the ring from its head on is the end of the padded history. -/
theorem rotate_pushAll {n : ℕ} (hn : 0 < n) (a : α) (xs : List α) :
    (pushAll (.filled n a) xs).ring.rotate (pushAll (.filled n a) xs).head =
      (List.replicate n a ++ xs).drop xs.length := by
  have hfits : (Cells.filled n a).head < (Cells.filled n a).ring.length := by
    simpa [Cells.filled] using hn
  induction xs using List.reverseRecOn with
  | nil => simp [pushAll, Cells.filled]
  | append_singleton xs x ih =>
    have hstep : pushAll (.filled n a) (xs ++ [x]) = push (pushAll (.filled n a) xs) x := by
      simp [pushAll]
    have hle : xs.length + 1 ≤ (List.replicate n a ++ xs).length := by
      simp
      omega
    rw [hstep, rotate_push _ _ (pushAll_fits hfits xs).1, ih, List.tail_drop, List.length_append,
      List.length_singleton, ← List.append_assoc, List.drop_append_of_le_length hle]

/-- So a count over the ring that leaves the fill out is one over the last `n` entries. -/
theorem countP_pushAll {n : ℕ} (hn : 0 < n) {a : α} {p : α → Bool} (ha : p a = false) (xs : List α) :
    (pushAll (.filled n a) xs).ring.countP p = (xs.drop (xs.length - n)).countP p := by
  have hrotated := (List.rotate_perm (pushAll (.filled n a) xs).ring
    (pushAll (.filled n a) xs).head).countP_eq p
  have hfill : (List.replicate (n - xs.length) a).countP p = 0 :=
    List.countP_eq_zero.mpr fun b hb => by rw [List.eq_of_mem_replicate hb, ha]; decide
  rw [← hrotated, rotate_pushAll hn, List.drop_append, List.drop_replicate, List.length_replicate,
    List.countP_append, hfill, Nat.zero_add]

/-- Entries that were forgotten before a longer final stretch do not change whether a count passes
`bound`, when a counted entry makes every later one counted. -/
theorem lt_countP_kept_iff {forgotten kept : List α} {p : α → Bool} {bound : ℕ}
    (hlong : forgotten ≠ [] → bound < kept.length) (hlater : ∀ x ∈ forgotten, p x = true → ∀ y ∈ kept, p y = true) :
    bound < kept.countP p ↔ bound < (forgotten ++ kept).countP p := by
  rw [List.countP_append]
  by_cases hsome : ∃ x ∈ forgotten, p x = true
  · obtain ⟨x, hx, hpx⟩ := hsome
    have hall : kept.countP p = kept.length := List.countP_eq_length.mpr (hlater x hx hpx)
    have hmany := hlong (List.ne_nil_of_mem hx)
    omega
  · have hnone : forgotten.countP p = 0 :=
      List.countP_eq_zero.mpr fun x hx hpx => hsome ⟨x, hx, hpx⟩
    omega

end OverwriteRing
