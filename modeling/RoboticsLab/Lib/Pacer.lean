import RoboticsLab.Lib.Numerals
import Mathlib.Algebra.Order.Field.Basic
import Mathlib.Tactic.Linarith
import Mathlib.Tactic.Ring

/-!
# Pacers

A pacer is ticked at times of its caller's choice and fires at some of the ticks.  While it is active it has a
deadline, and fires at the first tick at or past it.  The next deadline stays on the grid of the last one, one period
later, unless that has passed already; a restart begins a new grid at the tick itself.

    Step : what one tick does
    Run  : a list of ticks, each from where the last one left the pacer

Whatever the mixture of kept grids, restarts and pauses, the ticks that fire within `[a, b]` are fewer than
`(b - a) / period + 2` (`Run.rate`).  Ticks that are never a whole period late keep one grid: each firing is at the
first tick at or past its point of the grid (`Run.on_grid`).
-/

namespace Pacer

structure State (T : Type) where
  active : Bool
  deadline : T

/-- The deadline after the one that has passed. -/
def nextDeadline {T : Type} [Add T] [LE T] [DecidableLE T] (period deadline now : T) : T :=
  if deadline + period ≤ now then now + period else deadline + period

/-- What a tick does: whether it fires, and whether that restarts the grid. -/
inductive Step {T : Type} [Add T] [LT T] [LE T] [DecidableLE T] (period : T) :
    State T → T → Bool → Bool → State T → Prop
  | rest {d now : T} : Step period ⟨false, d⟩ now false false ⟨false, d⟩
  | start {d now : T} : Step period ⟨false, d⟩ now true true ⟨true, now + period⟩
  | wait {d now : T} (h : now < d) : Step period ⟨true, d⟩ now false false ⟨true, d⟩
  | keep {d now : T} (h : d ≤ now) : Step period ⟨true, d⟩ now true false ⟨true, nextDeadline period d now⟩
  | restart {d now : T} (h : d ≤ now) : Step period ⟨true, d⟩ now true true ⟨true, now + period⟩
  | drop {d now : T} (h : d ≤ now) : Step period ⟨true, d⟩ now false false ⟨false, d⟩

/-- One tick of a run. -/
structure Beat (T : Type) where
  before : State T
  now : T
  fired : Bool
  restarted : Bool
  after : State T

inductive Run {T : Type} [Add T] [LT T] [LE T] [DecidableLE T] (period : T) : State T → List (Beat T) → Prop
  | nil (p : State T) : Run period p []
  | cons {b : Beat T} {bs : List (Beat T)} (step : Step period b.before b.now b.fired b.restarted b.after)
    (rest : Run period b.after bs) : Run period b.before (b :: bs)

variable {T : Type} [Field T] [LinearOrder T] [IsStrictOrderedRing T]
variable {period now : T} {p p' : State T} {fired restarted : Bool}

theorem lt_nextDeadline (hperiod : 0 < period) (deadline : T) : now < nextDeadline period deadline now := by
  unfold nextDeadline
  split
  · linarith
  · rename_i h
    exact not_le.mp h

theorem add_le_nextDeadline (hperiod : 0 < period) (deadline : T) :
    deadline + period ≤ nextDeadline period deadline now := by
  unfold nextDeadline
  split
  · linarith
  · exact le_refl _

omit [IsStrictOrderedRing T] in
/-- A tick that is not a whole period late keeps the grid. -/
theorem nextDeadline_of_lt {deadline : T} (h : now < deadline + period) :
    nextDeadline period deadline now = deadline + period :=
  if_neg (not_le.mpr h)

/-! ## One tick -/

/-- After a tick that fires, the deadline is ahead, and at least a period after the one it met. -/
theorem Step.of_fired (h : Step period p now true restarted p') (hperiod : 0 < period) :
    p'.active = true ∧ now < p'.deadline ∧ (p.deadline ≤ now → p.deadline + period ≤ p'.deadline) := by
  cases h with
  | start => exact ⟨rfl, lt_add_of_pos_right _ hperiod, fun h => add_le_add_left h period⟩
  | keep => exact ⟨rfl, lt_nextDeadline hperiod _, fun _ => add_le_nextDeadline hperiod _⟩
  | restart => exact ⟨rfl, lt_add_of_pos_right _ hperiod, fun h => add_le_add_left h period⟩

omit [IsStrictOrderedRing T] in
theorem Step.of_not_fired (h : Step period p now false restarted p') :
    p'.deadline = p.deadline ∧ (p.active = true → p'.active = false → p.deadline ≤ now) ∧
      (p.active = false → p'.active = false) := by
  cases h with
  | rest => exact ⟨rfl, fun h => (by cases h), fun _ => rfl⟩
  | wait h => exact ⟨rfl, fun _ h => (by cases h), fun h => (by cases h)⟩
  | drop h => exact ⟨rfl, fun _ _ => h, fun h => (by cases h)⟩

omit [IsStrictOrderedRing T] in
/-- An active pacer fires only at its deadline. -/
theorem Step.deadline_le (h : Step period p now true restarted p') (hactive : p.active = true) : p.deadline ≤ now := by
  cases h with
  | start => cases hactive
  | keep h => exact h
  | restart h => exact h

/-! ## The rate -/

/-- The next firing is not before the deadline: the pacer is active, or the deadline has passed. -/
def Held (p : State T) (bs : List (Beat T)) : Prop :=
  p.active = true ∨ ∀ b ∈ bs, p.deadline ≤ b.now

omit [IsStrictOrderedRing T] in
theorem Held.le {p : State T} {b : Beat T} {bs : List (Beat T)} (h : Held p (b :: bs)) (hb : b.before = p)
    (step : Step period b.before b.now true restarted p') : p.deadline ≤ b.now := by
  rcases h with hactive | hpassed
  · rw [← hb] at hactive ⊢
    exact step.deadline_le hactive
  · exact hpassed b (List.mem_cons_self ..)

/-- Held before a tick, held after it. -/
theorem Held.step {b : Beat T} {bs : List (Beat T)} (h : Held b.before (b :: bs)) (hperiod : 0 < period)
    (hsorted : ∀ c ∈ bs, b.now ≤ c.now) (step : Step period b.before b.now b.fired b.restarted b.after) :
    Held b.after bs := by
  cases hf : b.fired with
  | true =>
    rw [hf] at step
    exact .inl (step.of_fired hperiod).1
  | false =>
    rw [hf] at step
    obtain ⟨hdeadline, hdrop, hrest⟩ := step.of_not_fired
    by_cases hafter : b.after.active = true
    · exact .inl hafter
    · right
      intro c hc
      rw [hdeadline]
      rcases h with hactive | hpassed
      · exact (hdrop hactive (Bool.not_eq_true _ ▸ hafter)).trans (hsorted c hc)
      · exact hpassed c (List.mem_cons_of_mem _ hc)

/-- The firing is within the interval. -/
def Beat.firedIn (a b : T) (x : Beat T) : Bool := x.fired && decide (a ≤ x.now) && decide (x.now ≤ b)

omit [Field T] [IsStrictOrderedRing T] in
theorem Beat.firedIn_iff {a b : T} {x : Beat T} : x.firedIn a b = true ↔ x.fired = true ∧ a ≤ x.now ∧ x.now ≤ b := by
  simp [Beat.firedIn, and_assoc]

/-- Up to time `b`, the firings of a held pacer are a period apart, from its deadline on. -/
theorem Run.firings_le {bs : List (Beat T)} (h : Run period p bs) (hperiod : 0 < period) (hheld : Held p bs)
    (hsorted : bs.Pairwise fun x y => x.now ≤ y.now) (a b : T) (hpos : 0 < bs.countP (Beat.firedIn a b)) :
    p.deadline + (bs.countP (Beat.firedIn a b) : T) * period ≤ b + period := by
  induction h with
  | nil => simp at hpos
  | @cons x bs step rest ih =>
    rw [List.pairwise_cons] at hsorted
    have ih := ih (hheld.step hperiod hsorted.1 step) hsorted.2
    have hnext : x.before.deadline ≤ x.after.deadline ∧
        (x.fired = true → x.before.deadline + period ≤ x.after.deadline) := by
      cases hf : x.fired with
      | true =>
        rw [hf] at step
        have hle := (step.of_fired hperiod).2.2 (hheld.le rfl step)
        exact ⟨by linarith, fun _ => hle⟩
      | false =>
        rw [hf] at step
        exact ⟨step.of_not_fired.1.ge, fun h => (by cases h)⟩
    by_cases hx : x.firedIn a b = true
    · obtain ⟨hfired, -, hb⟩ := Beat.firedIn_iff.mp hx
      rw [List.countP_cons_of_pos hx]
      push_cast
      rcases Nat.eq_zero_or_pos (bs.countP (Beat.firedIn a b)) with hzero | hmore
      · -- the only firing up to `b`
        have hle : x.before.deadline ≤ x.now := hheld.le rfl (hfired ▸ step)
        rw [hzero]
        push_cast
        linarith
      · have := ih hmore
        have := hnext.2 hfired
        linarith
    · rw [List.countP_cons_of_neg hx] at hpos ⊢
      have := ih hpos
      linarith [hnext.1]

/-- **No bursts.** -/
theorem Run.rate {bs : List (Beat T)} (h : Run period p bs) (hperiod : 0 < period)
    (hsorted : bs.Pairwise fun x y => x.now ≤ y.now) {a b : T} (hab : a ≤ b) :
    (bs.countP (Beat.firedIn a b) : T) < (b - a) / period + 2 := by
  have hspan : 0 ≤ (b - a) / period := div_nonneg (sub_nonneg.mpr hab) hperiod.le
  induction h with
  | nil =>
    simp only [List.countP_nil, Nat.cast_zero]
    linarith
  | @cons x bs step rest ih =>
    rw [List.pairwise_cons] at hsorted
    by_cases hx : x.firedIn a b = true
    · -- the first firing of the interval: the later ones are a period apart, from a deadline after `a` on
      obtain ⟨hfired, ha, -⟩ := Beat.firedIn_iff.mp hx
      rw [hfired] at step
      obtain ⟨hactive, hahead, -⟩ := step.of_fired hperiod
      rw [List.countP_cons_of_pos hx]
      push_cast
      rcases Nat.eq_zero_or_pos (bs.countP (Beat.firedIn a b)) with hzero | hmore
      · rw [hzero]
        push_cast
        linarith
      · have hlast := rest.firings_le hperiod (.inl hactive) hsorted.2 a b hmore
        have hlt : ((bs.countP (Beat.firedIn a b) : T) - 1) * period < b - a := by linarith
        rw [← lt_div_iff₀ hperiod] at hlt
        linarith
    · rw [List.countP_cons_of_neg hx]
      exact ih hsorted.2

/-! ## The grid -/

/-- The pacer stays active, no tick is a whole period late, and none but the last restarts the grid. -/
structure Kept (period : T) (bs : List (Beat T)) : Prop where
  active : ∀ b ∈ bs, b.after.active = true
  inTime : ∀ b ∈ bs, b.now < b.before.deadline + period
  kept : ∀ b ∈ bs.dropLast, b.restarted = false

omit [IsStrictOrderedRing T] in
theorem Kept.tail {b : Beat T} {bs : List (Beat T)} (h : Kept period (b :: bs)) : Kept period bs := by
  refine ⟨fun c hc => h.active c (List.mem_cons_of_mem _ hc), fun c hc => h.inTime c (List.mem_cons_of_mem _ hc), ?_⟩
  intro c hc
  cases bs with
  | nil => cases hc
  | cons d bs => exact h.kept c (List.mem_cons_of_mem _ hc)

omit [IsStrictOrderedRing T] in
/-- A tick of an active pacer that stays active fires if and only if the deadline has come. -/
theorem Step.fired_iff (h : Step period p now fired restarted p') (hactive : p.active = true)
    (hafter : p'.active = true) : fired = true ↔ p.deadline ≤ now := by
  cases h with
  | rest => cases hactive
  | start => cases hactive
  | wait h => exact ⟨fun h => (by cases h), fun hle => absurd hle (not_le.mpr h)⟩
  | keep h => exact ⟨fun _ => h, fun _ => rfl⟩
  | restart h => exact ⟨fun _ => h, fun _ => rfl⟩
  | drop h => cases hafter

omit [IsStrictOrderedRing T] in
/-- In time and without a restart, the deadline moves by one period with each firing. -/
theorem Step.deadline_eq (h : Step period p now fired false p') (hin : now < p.deadline + period)
    (hafter : p'.active = true) : p'.deadline = p.deadline + if fired = true then period else 0 := by
  cases h with
  | rest => cases hafter
  | wait h => simp
  | keep h => simpa using nextDeadline_of_lt hin
  | drop h => cases hafter

/-- **Lateness does not accumulate.**  After `k` firings, a tick fires if and only if it is the first one at or past
the `k`-th point of the grid. -/
theorem Run.on_grid {bs pre post : List (Beat T)} {b : Beat T} (h : Run period p bs) (hperiod : 0 < period)
    (hactive : p.active = true) (hkept : Kept period bs) (hsplit : bs = pre ++ b :: post) (k : ℕ) :
    (b.fired = true ∧ pre.countP Beat.fired = k) ↔
      p.deadline + k * period ≤ b.now ∧ ∀ c ∈ pre, c.now < p.deadline + k * period := by
  induction h generalizing pre k with
  | nil => simp at hsplit
  | @cons x bs step rest ih =>
    have hafter := hkept.active x (List.mem_cons_self ..)
    have hin := hkept.inTime x (List.mem_cons_self ..)
    have hfired := step.fired_iff hactive hafter
    cases pre with
    | nil =>
      obtain ⟨rfl, -⟩ := List.cons.inj hsplit
      simp only [List.countP_nil, List.not_mem_nil, false_implies, implies_true, and_true]
      constructor
      · rintro ⟨hf, rfl⟩
        simpa using hfired.mp hf
      · intro hle
        have hk : k = 0 := by
          by_contra hne
          have h1 : (1 : T) ≤ k := by exact_mod_cast Nat.one_le_iff_ne_zero.mpr hne
          have : period ≤ k * period := le_mul_of_one_le_left hperiod.le h1
          linarith
        subst hk
        exact ⟨hfired.mpr (by simpa using hle), rfl⟩
    | cons x' pre =>
      obtain ⟨rfl, hrest⟩ := List.cons.inj hsplit
      -- a later tick follows, so this one did not restart the grid
      have hnot : x.restarted = false := by
        apply hkept.kept x
        rw [hrest, List.dropLast_cons_of_ne_nil (by simp)]
        exact List.mem_cons_self ..
      rw [hnot] at step
      have hdeadline := step.deadline_eq hin hafter
      have ih := fun k => ih hafter hkept.tail hrest k
      rw [List.forall_mem_cons, List.countP_cons]
      by_cases hf : x.fired = true
      · rw [if_pos hf] at hdeadline ⊢
        cases k with
        | zero =>
          constructor
          · rintro ⟨-, hcount⟩
            omega
          · rintro ⟨-, hlt, -⟩
            have := hfired.mp hf
            simp only [Nat.cast_zero, zero_mul, add_zero] at hlt
            exact absurd this (not_le.mpr hlt)
        | succ k =>
          have hpoint : x.before.deadline + ((k + 1 : ℕ) : T) * period = x.after.deadline + k * period := by
            rw [hdeadline]
            push_cast
            ring
          have hx : x.now < x.after.deadline + k * period := by
            rw [hdeadline]
            have : 0 ≤ (k : T) * period := mul_nonneg (Nat.cast_nonneg k) hperiod.le
            linarith
          rw [hpoint, Nat.add_right_cancel_iff, ih k]
          exact ⟨fun h => ⟨h.1, hx, h.2⟩, fun h => ⟨h.1, h.2.2⟩⟩
      · rw [if_neg hf, add_zero] at hdeadline ⊢
        have hx : x.now < x.before.deadline + k * period := by
          have hlt : x.now < x.before.deadline := not_le.mp fun hle => hf (hfired.mpr hle)
          have : 0 ≤ (k : T) * period := mul_nonneg (Nat.cast_nonneg k) hperiod.le
          linarith
        rw [ih k, hdeadline]
        exact ⟨fun h => ⟨h.1, hx, h.2⟩, fun h => ⟨h.1, h.2.2⟩⟩

omit [IsStrictOrderedRing T] in
/-- A run may be read from any of its ticks on. -/
theorem Run.of_append {pre bs : List (Beat T)} (h : Run period p (pre ++ bs)) : ∃ p, Run period p bs := by
  induction pre generalizing p with
  | nil => exact ⟨p, h⟩
  | cons b pre ih =>
    cases h with
    | cons step rest => exact ih rest

omit [IsStrictOrderedRing T] in
theorem Run.append_left {bs post : List (Beat T)} (h : Run period p (bs ++ post)) : Run period p bs := by
  induction bs generalizing p with
  | nil => exact .nil p
  | cons b bs ih =>
    cases h with
    | cons step rest => exact .cons step (ih rest)

end Pacer
