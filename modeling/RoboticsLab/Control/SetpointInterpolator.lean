import RoboticsLab.Lib.Double
import RoboticsLab.Lib.Polyline
import RoboticsLab.Lib.Runs
import RoboticsLab.Servo.Types
import Mathlib.Algebra.Order.Floor.Ring

/-!
# `rb_servo/control/setpoint_interpolator.hpp`: setpoint rate conversion

The interpolator keeps the last four setpoints in a ring and a continuous cursor into the sequence
of pushes.  It is generic in the setpoint `α` and in the `blend` of two setpoints; the source's
blend of requests is `blendRequests`.  The ring is a window onto the whole history since the last
reset, and the cursor never leaves it, so a sample is the piecewise-linear interpolation of the
history at the cursor:

    EveryStep (a sample after two pushes satisfies OnPolyline, the cursor only moves forward) ops
                                                                       (sample_onPolyline)
-/

namespace RbServo

open Runs

/-! ## Requests -/

/-- `SendServoJRequest` of `backend_result.hpp`, over the number type of the joints. -/
structure SendServoJRequest (K : Type*) where
  qTargetDeg : Fin kDof → K
  commandSeq : Nat := 0
  hostTimeNs : Nat := 0
  deadlineNs : Nat := 0

instance {K : Type*} [Zero K] : Inhabited (SendServoJRequest K) := ⟨{ qTargetDeg := fun _ => 0 }⟩

/-- The blend of two bracketing setpoints; the metadata is the newer one's. -/
def blendRequests (frac : ℚ) (a b : SendServoJRequest ℚ) : SendServoJRequest ℚ :=
  { b with qTargetDeg := fun j => a.qTargetDeg j + frac * (b.qTargetDeg j - a.qTargetDeg j) }

/-! ## Algorithm -/

namespace SetpointInterpolator

def kRing : Nat := 4

def kMaxDelay : ℚ := 5 / 2

structure Telemetry where
  active : Bool := false
  delaySetpoints : ℚ := 0
  rebaseTotal : Nat := 0
  holdTotal : Nat := 0
deriving DecidableEq

end SetpointInterpolator

open SetpointInterpolator

structure SetpointInterpolator (α : Type*) where
  ring : Fin kRing → α
  head : Nat := 0
  cursor : ℚ := -1
  telemetry : Telemetry := {}

namespace SetpointInterpolator

variable {α : Type*} (blend : ℚ → α → α → α)

instance [Inhabited α] : Inhabited (SetpointInterpolator α) := ⟨{ ring := fun _ => default }⟩

def slot (i : Nat) : Fin kRing := ⟨i % kRing, Nat.mod_lt _ (by decide)⟩

def reset (s : SetpointInterpolator α) : SetpointInterpolator α :=
  { s with
    head := 0
    cursor := -1
    telemetry := { s.telemetry with active := false, delaySetpoints := 0 } }

def push (s : SetpointInterpolator α) (request : α) : SetpointInterpolator α :=
  { s with ring := Function.update s.ring (slot s.head) request, head := s.head + 1 }

def hasSetpoint (s : SetpointInterpolator α) : Bool := decide (0 < s.head)

/-- A ratio that is not a positive finite number counts as 1. -/
def usedRatio (periodRatio : Double) : ℚ :=
  match periodRatio with
  | .fin q => if q ≤ 0 then 1 else q
  | _ => 1

/-- The cursor before it advances: a fresh one starts one setpoint behind the newest. -/
def startCursor (s : SetpointInterpolator α) : ℚ :=
  if s.cursor < 0 then (s.head - 1 : Nat) - 1 else s.cursor

/-- The advanced cursor, pinned at the newest setpoint. -/
def heldCursor (s : SetpointInterpolator α) (ratio : ℚ) : ℚ :=
  if ((s.head - 1 : Nat) : ℚ) < startCursor s + ratio then (s.head - 1 : Nat) else startCursor s + ratio

/-- A cursor that fell too far behind steps to the steady delay. -/
def nextCursor (s : SetpointInterpolator α) (ratio : ℚ) : ℚ :=
  if kMaxDelay < (s.head - 1 : Nat) - heldCursor s ratio then (s.head - 1 : Nat) - 1
  else heldCursor s ratio

def sample (s : SetpointInterpolator α) (periodRatio : Double) : SetpointInterpolator α × Option α :=
  if s.head = 0 then (s, none)
  else if s.head = 1 then
    ({ s with telemetry := { s.telemetry with delaySetpoints := 0 } },
      some (s.ring (slot (s.head - 1))))
  else
    let ratio := usedRatio periodRatio
    let newest : ℚ := (s.head - 1 : Nat)
    let cursor := nextCursor s ratio
    let telemetry : Telemetry :=
      { active := s.telemetry.active || decide (s.cursor < 0)
        delaySetpoints := newest - cursor
        rebaseTotal := s.telemetry.rebaseTotal +
          if kMaxDelay < newest - heldCursor s ratio then 1 else 0
        holdTotal := s.telemetry.holdTotal + if newest < startCursor s + ratio then 1 else 0 }
    let i0 := ⌊cursor⌋.toNat
    let i1 := min (i0 + 1) (s.head - 1)
    ({ s with cursor := cursor, telemetry := telemetry },
      some (blend (cursor - ⌊cursor⌋) (s.ring (slot i0)) (s.ring (slot i1))))

inductive Op (α : Type*)
  | push (request : α)
  | sample (periodRatio : Double)
  | reset

def step (s : SetpointInterpolator α) : Op α → SetpointInterpolator α
  | .push request => s.push request
  | .sample periodRatio => (s.sample blend periodRatio).1
  | .reset => s.reset

def after [Inhabited α] (ops : List (Op α)) : SetpointInterpolator α := ops.foldl (step blend) default

@[simp] theorem after_concat [Inhabited α] (ops : List (Op α)) (op : Op α) :
    after blend (ops ++ [op]) = (after blend ops).step blend op := by
  simp [after]

/-- The complete list of setpoints pushed since the last reset. -/
def pushed (ops : List (Op α)) : List α :=
  ops.foldl (fun ps op => match op with
    | .push request => ps ++ [request]
    | .sample _ => ps
    | .reset => []) []

theorem pushed_concat (ops : List (Op α)) (op : Op α) :
    pushed (ops ++ [op]) = match op with
      | .push request => pushed ops ++ [request]
      | .sample _ => pushed ops
      | .reset => [] := by
  simp [pushed]

/-! ## The cursor -/

theorem usedRatio_pos (periodRatio : Double) : 0 < usedRatio periodRatio := by
  unfold usedRatio
  split
  · split
    · exact one_pos
    · next h => exact not_le.mp h
  · exact one_pos

/-- Where a sample leaves the cursor, when the old one is unset or in `[0, newest]`. -/
theorem nextCursor_spec (s : SetpointInterpolator α) {ratio : ℚ} (hr : 0 < ratio) (hh : 2 ≤ s.head)
    (hle : s.cursor ≤ (s.head - 1 : Nat)) :
    0 ≤ nextCursor s ratio ∧ nextCursor s ratio ≤ (s.head - 1 : Nat) ∧
      ((s.head - 1 : Nat) : ℚ) - nextCursor s ratio ≤ kMaxDelay ∧ s.cursor ≤ nextCursor s ratio := by
  have hnewest : (1 : ℚ) ≤ (s.head - 1 : Nat) := by
    have : 1 ≤ s.head - 1 := by omega
    exact_mod_cast this
  have hdelay : kMaxDelay = 5 / 2 := rfl
  have hstart : 0 ≤ startCursor s ∧ startCursor s ≤ (s.head - 1 : Nat) ∧ s.cursor ≤ startCursor s := by
    unfold startCursor
    split
    · next h => exact ⟨by linarith, by linarith, by linarith⟩
    · next h => exact ⟨not_lt.mp h, hle, le_refl _⟩
  obtain ⟨h1, h2, h3⟩ := hstart
  have hheld : 0 ≤ heldCursor s ratio ∧ heldCursor s ratio ≤ (s.head - 1 : Nat) ∧
      s.cursor ≤ heldCursor s ratio := by
    unfold heldCursor
    split
    · next h => exact ⟨by linarith, le_refl _, by linarith⟩
    · next h => exact ⟨by linarith, not_lt.mp h, by linarith⟩
  obtain ⟨h4, h5, h6⟩ := hheld
  unfold nextCursor
  split
  · next h =>
    rw [hdelay] at h ⊢
    exact ⟨by linarith, by linarith, by linarith, by linarith⟩
  · next h => exact ⟨h4, h5, not_lt.mp h, h6⟩

/-! ## The ring is a window onto the history -/

/-- The four newest setpoints sit in their slots; the cursor is unset or within the history. -/
structure Window (ps : List α) (s : SetpointInterpolator α) : Prop where
  head : s.head = ps.length
  ring : ∀ i (h : i < ps.length), ps.length ≤ i + kRing → s.ring (slot i) = ps[i]
  cursor : s.cursor = -1 ∨ (2 ≤ ps.length ∧ 0 ≤ s.cursor ∧ s.cursor ≤ (ps.length - 1 : Nat))

theorem slot_ne_of_lt {i n : Nat} (h1 : i < n) (h2 : n < i + kRing) : slot i ≠ slot n := by
  intro heq
  have hmod : i % kRing = n % kRing := congrArg Fin.val heq
  unfold kRing at *
  omega

theorem Window.push {ps : List α} {s : SetpointInterpolator α} (h : Window ps s) (request : α) :
    Window (ps ++ [request]) (s.push request) := by
  have hlen : (ps ++ [request]).length = ps.length + 1 := by simp
  refine ⟨?_, ?_, ?_⟩
  · rw [hlen, ← h.head]
    rfl
  · intro i hi hwin
    rw [hlen] at hi hwin
    show Function.update s.ring (slot s.head) request (slot i) = _
    rw [h.head]
    by_cases hlast : i = ps.length
    · subst hlast
      rw [Function.update_self]
      simp
    · have hlt : i < ps.length := by omega
      rw [Function.update_of_ne (slot_ne_of_lt hlt (by omega)), h.ring i hlt (by omega),
        List.getElem_append_left hlt]
  · rw [hlen]
    rcases h.cursor with hc | ⟨h2, hc0, hc1⟩
    · exact Or.inl hc
    · right
      refine ⟨by omega, hc0, hc1.trans ?_⟩
      have : ps.length - 1 ≤ ps.length + 1 - 1 := by omega
      exact_mod_cast this

theorem Window.cursor_le {ps : List α} {s : SetpointInterpolator α} (h : Window ps s) :
    s.cursor ≤ (s.head - 1 : Nat) := by
  rw [h.head]
  rcases h.cursor with hc | ⟨-, -, hc⟩
  · rw [hc]
    have : (0 : ℚ) ≤ (ps.length - 1 : Nat) := Nat.cast_nonneg _
    linarith
  · exact hc

theorem sample_of_two (s : SetpointInterpolator α) (hh : 2 ≤ s.head) (periodRatio : Double) :
    (s.sample blend periodRatio).1.cursor = nextCursor s (usedRatio periodRatio) ∧
    (s.sample blend periodRatio).2 = some (blend
      (nextCursor s (usedRatio periodRatio) - ⌊nextCursor s (usedRatio periodRatio)⌋)
      (s.ring (slot ⌊nextCursor s (usedRatio periodRatio)⌋.toNat))
      (s.ring (slot (min (⌊nextCursor s (usedRatio periodRatio)⌋.toNat + 1) (s.head - 1))))) := by
  unfold SetpointInterpolator.sample
  rw [if_neg (by omega), if_neg (by omega)]
  exact ⟨rfl, rfl⟩

/-- What a sample after two pushes returns, in terms of the whole history. -/
theorem Window.sample {ps : List α} {s : SetpointInterpolator α} (h : Window ps s)
    (hps : 2 ≤ ps.length) (periodRatio : Double) :
    ∃ (i : Nat) (h0 : i < ps.length) (h1 : i + 1 < ps.length) (t : ℚ),
      (s.sample blend periodRatio).1.cursor = t ∧
      0 ≤ t ∧ t ≤ (ps.length - 1 : Nat) ∧ ((ps.length - 1 : Nat) : ℚ) - t ≤ kMaxDelay ∧ s.cursor ≤ t ∧
      (((i : ℚ) ≤ t ∧ t < i + 1 ∧
        (s.sample blend periodRatio).2 = some (blend (t - i) ps[i] ps[i + 1])) ∨
       (t = i + 1 ∧ i + 2 = ps.length ∧
        (s.sample blend periodRatio).2 = some (blend 0 ps[i + 1] ps[i + 1]))) := by
  have hhead : 2 ≤ s.head := by rw [h.head]; exact hps
  obtain ⟨hc0, hc1, hdelay, hmono⟩ :=
    nextCursor_spec s (usedRatio_pos periodRatio) hhead h.cursor_le
  obtain ⟨hcursor, hout⟩ := sample_of_two blend s hhead periodRatio
  rw [hcursor, hout]
  generalize nextCursor s (usedRatio periodRatio) = t at hc0 hc1 hdelay hmono ⊢
  rw [h.head] at hc1 hdelay ⊢
  -- the floor of the cursor is a pushed index within the ring's window
  have hfloor0 : 0 ≤ ⌊t⌋ := Int.floor_nonneg.mpr hc0
  obtain ⟨i, hi⟩ : ∃ i : Nat, ⌊t⌋ = i := ⟨⌊t⌋.toNat, by omega⟩
  have hcast : ((⌊t⌋ : ℤ) : ℚ) = i := by rw [hi]; norm_cast
  have hle : (i : ℚ) ≤ t := by rw [← hcast]; exact Int.floor_le t
  have hlt : t < i + 1 := by rw [← hcast]; exact Int.lt_floor_add_one t
  have hin : i < ps.length := by
    have : (i : ℚ) ≤ (ps.length - 1 : Nat) := hle.trans hc1
    have : i ≤ ps.length - 1 := by exact_mod_cast this
    omega
  have hwin : ps.length ≤ i + kRing := by
    have hq : ((ps.length - 1 : Nat) : ℚ) < (i + 4 : Nat) := by
      have hd : kMaxDelay = 5 / 2 := rfl
      push_cast
      linarith
    have : ps.length - 1 < i + 4 := by exact_mod_cast hq
    unfold kRing
    omega
  rw [hcast, hi, Int.toNat_natCast]
  by_cases hend : i + 1 < ps.length
  · have hmin : min (i + 1) (ps.length - 1) = i + 1 := by omega
    rw [hmin, h.ring i hin hwin, h.ring (i + 1) hend (by omega)]
    exact ⟨i, hin, hend, t, rfl, hc0, hc1, hdelay, hmono, Or.inl ⟨hle, hlt, rfl⟩⟩
  · -- the cursor sits on the newest setpoint
    obtain ⟨k, rfl⟩ : ∃ k, i = k + 1 := ⟨i - 1, by omega⟩
    have hlast : k + 2 = ps.length := by omega
    have hmin : min (k + 1 + 1) (ps.length - 1) = k + 1 := by omega
    have ht : t = k + 1 := by
      have : t ≤ ((k + 1 : Nat) : ℚ) := by
        rw [show k + 1 = ps.length - 1 by omega]
        exact hc1
      push_cast at this hle
      linarith
    rw [hmin, h.ring (k + 1) hin hwin, ht]
    refine ⟨k, by omega, by omega, k + 1, rfl, by rw [← ht]; exact hc0, by rw [← ht]; exact hc1,
      by rw [← ht]; exact hdelay, by rw [← ht]; exact hmono, Or.inr ⟨rfl, hlast, ?_⟩⟩
    push_cast
    rw [sub_self]

theorem Window.sample_state {ps : List α} {s : SetpointInterpolator α} (h : Window ps s)
    (periodRatio : Double) : Window ps (s.sample blend periodRatio).1 := by
  by_cases hps : 2 ≤ ps.length
  · obtain ⟨i, h0, h1, t, ht, ht0, ht1, -⟩ := h.sample blend hps periodRatio
    have hkeep : (s.sample blend periodRatio).1.head = s.head ∧
        (s.sample blend periodRatio).1.ring = s.ring := by
      unfold SetpointInterpolator.sample
      split_ifs <;> exact ⟨rfl, rfl⟩
    refine ⟨hkeep.1.trans h.head, ?_, Or.inr ⟨hps, by rw [ht]; exact ht0, by rw [ht]; exact ht1⟩⟩
    rw [hkeep.2]
    exact h.ring
  · have hhead : s.head = 0 ∨ s.head = 1 := by rw [h.head]; omega
    rcases hhead with h0 | h0
    · unfold SetpointInterpolator.sample
      rw [if_pos h0]
      exact h
    · unfold SetpointInterpolator.sample
      rw [if_neg (by omega), if_pos h0]
      exact ⟨h.head, h.ring, h.cursor⟩

/-- **The ring is always a window** onto the pushes since the last reset. -/
theorem window_after [Inhabited α] (ops : List (Op α)) : Window (pushed ops) (after blend ops) := by
  induction ops using List.reverseRecOn with
  | nil => exact ⟨rfl, fun i hi => absurd hi (Nat.not_lt_zero i), Or.inl rfl⟩
  | append_singleton ops op ih =>
    rw [after_concat, pushed_concat]
    cases op with
    | push request => exact ih.push request
    | sample periodRatio => exact ih.sample_state blend periodRatio
    | reset => exact ⟨rfl, fun i hi => absurd hi (Nat.not_lt_zero i), Or.inl rfl⟩

/-! ## Samples of requests -/

/-- The request is the piecewise-linear interpolation of the pushed setpoints at the cursor, the
cursor trails the newest setpoint by at most `kMaxDelay`, and each joint lies between the two
adjacent setpoints around the cursor. -/
def OnPolyline (ps : List (SendServoJRequest ℚ)) (cursor : ℚ) (out : SendServoJRequest ℚ) : Prop :=
  0 ≤ ((ps.length - 1 : Nat) : ℚ) - cursor ∧ ((ps.length - 1 : Nat) : ℚ) - cursor ≤ 5 / 2 ∧
  (∀ j, out.qTargetDeg j = Polyline.polyline (ps.map (·.qTargetDeg j)) cursor) ∧
  ∃ (i : Nat) (h : i + 1 < ps.length), (i : ℚ) ≤ cursor ∧ cursor ≤ i + 1 ∧
    ∀ j, min (ps[i].qTargetDeg j) (ps[i + 1].qTargetDeg j) ≤ out.qTargetDeg j ∧
      out.qTargetDeg j ≤ max (ps[i].qTargetDeg j) (ps[i + 1].qTargetDeg j)

/-- A blend of neighbours at the cursor's place in their segment. -/
theorem onPolyline_of_segment {ps : List (SendServoJRequest ℚ)} {i : Nat} (h : i + 1 < ps.length)
    {t : ℚ} (h1 : (i : ℚ) ≤ t) (h2 : t ≤ i + 1) (hle : t ≤ (ps.length - 1 : Nat))
    (hdelay : ((ps.length - 1 : Nat) : ℚ) - t ≤ 5 / 2) {out : SendServoJRequest ℚ}
    (hout : ∀ j, out.qTargetDeg j =
      ps[i].qTargetDeg j + (t - i) * (ps[i + 1].qTargetDeg j - ps[i].qTargetDeg j)) :
    OnPolyline ps t out := by
  refine ⟨by linarith, hdelay, fun j => ?_, i, h, h1, h2, fun j => ?_⟩
  · rw [hout j, Polyline.polyline_segment _ i (by simpa using h) h1 h2]
    simp
  · rw [hout j]
    exact Polyline.blend_between _ _ (by linarith) (by linarith)

/-- **Whole runs.**  For every interleaving of pushes, samples with any ratio and resets: a sample
after two pushes lies on the polyline of the complete history, and the cursor never moves back
between resets. -/
theorem sample_onPolyline (ops : List (Op (SendServoJRequest ℚ))) :
    EveryStep (fun pre op =>
      (∀ periodRatio, op = .sample periodRatio → 2 ≤ (pushed pre).length →
        ∃ out, ((after blendRequests pre).sample blendRequests periodRatio).2 = some out ∧
          OnPolyline (pushed pre) ((after blendRequests pre).sample blendRequests periodRatio).1.cursor
            out) ∧
      (op ≠ .reset →
        (after blendRequests pre).cursor ≤ ((after blendRequests pre).step blendRequests op).cursor))
      ops := by
  rintro pre op post -
  have hwin := window_after blendRequests pre
  constructor
  · rintro periodRatio rfl hps
    obtain ⟨i, h0, h1, t, ht, -, hle, hdelay, -, hcase⟩ := hwin.sample blendRequests hps periodRatio
    rw [ht]
    rcases hcase with ⟨hlo, hhi, hout⟩ | ⟨rfl, hlast, hout⟩
    · refine ⟨_, hout, ?_⟩
      exact onPolyline_of_segment h1 hlo hhi.le hle hdelay fun j => rfl
    · refine ⟨_, hout, ?_⟩
      refine onPolyline_of_segment h1 (by linarith) (le_refl _) hle hdelay fun j => ?_
      show (pushed pre)[i + 1].qTargetDeg j + 0 * _ = _
      ring
  · intro hreset
    cases op with
    | reset => exact absurd rfl hreset
    | push request => exact le_refl _
    | sample periodRatio =>
      show _ ≤ ((after blendRequests pre).sample blendRequests periodRatio).1.cursor
      by_cases hps : 2 ≤ (pushed pre).length
      · obtain ⟨i, h0, h1, t, ht, -, -, -, hmono, -⟩ := hwin.sample blendRequests hps periodRatio
        rw [ht]
        exact hmono
      · have hhead : (after blendRequests pre).head < 2 := by rw [hwin.head]; omega
        unfold SetpointInterpolator.sample
        split_ifs
        · exact le_refl _
        · exact le_refl _
        · omega

end SetpointInterpolator

end RbServo
