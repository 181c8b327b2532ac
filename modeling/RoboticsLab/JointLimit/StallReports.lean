import RoboticsLab.Lib.Runs
import RoboticsLab.JointLimit.StallTracker

/-!
# When stall reports are sound, and once per episode

A report `h` at `t` should mean that the joint was blocked at every call since `t - h`, that no converged span in
between was `converged_hold_sec` long, and that the clamp was cleared since any earlier report (`ReportSound`).

The tracker starts an episode whenever its key differs, also right after a report on a joint that is still blocked, and
its converged timer leaves out the call that started the clock.  `Watched` is the condition on a call under which
neither matters; `reports_sound` is for runs of such calls, and `wedged_reports_twice` for one of the others.
-/

namespace PolicyRunner.JointLimit

variable {K : Type*} [AddCommGroup K] [LinearOrder K] (cfg : StallConfig K)

/-- The call found the joint blocked. -/
def StallCall.On (y : StallCall K) (k : JointKey) : Prop := y.readback.blocked = true ∧ y.readback.key = k

instance (y : StallCall K) (k : JointKey) : Decidable (y.On k) := by unfold StallCall.On; infer_instance

/-- No span of converged calls, from the time `t0` on, is as long as the converged hold. -/
def Unconverged (calls : List (StallCall K)) (t0 : K) : Prop :=
  ∀ l span r, calls = l ++ span ++ r → (∀ y ∈ span, t0 ≤ y.now ∧ cfg.converged y.readback = true) →
    ∀ a ∈ span.head?, ∀ b ∈ span.getLast?, b.now - a.now < cfg.convergedHoldSec

/-- What a report `h` of the call `x`, after the calls `pre`, should mean. -/
structure ReportSound (pre : List (StallCall K)) (x : StallCall K) (h : K) : Prop where
  blocked : ∀ y ∈ pre ++ [x], x.now - h ≤ y.now → y.On x.readback.key
  held : cfg.holdSec ≤ h
  unconverged : Unconverged cfg (pre ++ [x]) (x.now - h)
  once : ∀ l y r h', pre = l ++ y :: r → reportAt cfg l y = some h' → ∃ z ∈ r, ¬ z.On y.readback.key

/-! ## The condition on a call -/

/-- The call starts an episode. -/
def Starts (s : StallTracker K) (x : StallCall K) : Prop := x.readback.blocked = true ∧ s.key ≠ some x.readback.key

/-- The call restarts the clock of the episode, since the solve has converged. -/
def Restarts (s : StallTracker K) (x : StallCall K) : Prop :=
  ∃ c, s.convergedSince = some c ∧ cfg.convergedHoldSec ≤ x.now - c

structure Watched (pre : List (StallCall K)) (x : StallCall K) : Prop where
  /-- An episode starts strictly after the calls before it, and not on the joint that the last of them found
  blocked. -/
  starts : Starts (StallTracker.after cfg pre) x →
    (∀ y ∈ pre, y.now < x.now) ∧ ∀ y ∈ pre.getLast?, ¬ y.On x.readback.key
  /-- A converged call comes less than the hold after each earlier one of the clock from which on all were converged,
  or it restarts the clock. -/
  converged : x.readback.blocked = true → cfg.converged x.readback = true → 0 < cfg.convergedHoldSec ∧
    ∀ t0, (StallTracker.after cfg pre).since = some t0 → ∀ l y r, pre = l ++ y :: r →
      (∀ z ∈ y :: r, t0 ≤ z.now ∧ cfg.converged z.readback = true) →
      x.now - y.now < cfg.convergedHoldSec ∨ Restarts cfg (StallTracker.after cfg pre) x

/-! ## Spans -/

variable {cfg} {calls pre : List (StallCall K)} {x : StallCall K} {t0 : K}

/-- A span that ends with the new call, or one of before. -/
theorem Unconverged.concat (h : Unconverged cfg pre t0)
    (hx : cfg.converged x.readback = true → 0 < cfg.convergedHoldSec ∧ ∀ l y r, pre = l ++ y :: r →
      (∀ z ∈ y :: r, t0 ≤ z.now ∧ cfg.converged z.readback = true) → x.now - y.now < cfg.convergedHoldSec) :
    Unconverged cfg (pre ++ [x]) t0 := by
  intro l span r e hs a ha b hb
  cases r using List.reverseRecOn with
  | append_singleton r z _ =>
    rw [← List.append_assoc] at e
    exact h l span r (List.append_inj' e rfl).1 hs a ha b hb
  | nil =>
    cases span using List.reverseRecOn with
    | nil => simp at ha
    | append_singleton span z _ =>
      rw [List.append_nil, ← List.append_assoc] at e
      obtain ⟨hpre, hz⟩ := List.append_inj' e rfl
      cases hz
      obtain ⟨h0, hspan⟩ := hx (hs x (by simp)).2
      obtain rfl : x = b := by simpa using hb
      cases span with
      | nil =>
        obtain rfl : x = a := by simpa using ha
        rwa [sub_self]
      | cons y span =>
        obtain rfl : y = a := by simpa using ha
        exact hspan l y span hpre fun z hz => hs z (List.mem_append_left _ hz)

/-! ## One call -/

/-- What one call does. -/
inductive Outcome (cfg : StallConfig K) (s : StallTracker K) (x : StallCall K) : Option K × StallTracker K → Prop
  | cleared : Outcome cfg s x (none, StallTracker.reset K)
  | started (hb : x.readback.blocked = true) (hkey : s.key ≠ some x.readback.key ∨ s.since = none) :
    Outcome cfg s x (none, ⟨some x.now, some x.readback.key, none⟩)
  | restarted {t0 : K} (hb : x.readback.blocked = true) (hkey : s.key = some x.readback.key)
    (hsince : s.since = some t0) (hc : cfg.converged x.readback = true) :
    Outcome cfg s x (none, { s with since := some x.now, convergedSince := none })
  | running {t0 : K} (c : Option K) (hb : x.readback.blocked = true) (hkey : s.key = some x.readback.key)
    (hsince : s.since = some t0) (hr : cfg.converged x.readback = true → ¬ Restarts cfg s x) :
    Outcome cfg s x (none, { s with convergedSince := c })
  | reported {t0 : K} (hb : x.readback.blocked = true) (hkey : s.key = some x.readback.key)
    (hsince : s.since = some t0) (hr : cfg.converged x.readback = true → ¬ Restarts cfg s x)
    (hheld : cfg.holdSec ≤ x.now - t0) : Outcome cfg s x (some (x.now - t0), StallTracker.reset K)

theorem outcome_report {s : StallTracker K} (c : Option K) (hb : x.readback.blocked = true)
    (hkey : s.key = some x.readback.key) (hsince : s.since = some t0)
    (hr : cfg.converged x.readback = true → ¬ Restarts cfg s x) : Outcome cfg s x (s.report cfg t0 x.now c) := by
  unfold StallTracker.report
  split
  · exact .running c hb hkey hsince hr
  · exact .reported hb hkey hsince hr (not_lt.mp ‹_›)

theorem outcome_update (cfg : StallConfig K) (s : StallTracker K) (x : StallCall K) :
    Outcome cfg s x (s.update cfg x.readback x.now) := by
  unfold StallTracker.update
  by_cases hoff : (!cfg.enabled || !x.readback.blocked) = true
  · rw [if_pos hoff]
    exact .cleared
  have hb : x.readback.blocked = true := by simp_all
  rw [if_neg hoff]
  by_cases hkey : s.key = some x.readback.key
  · rw [if_neg (not_not_intro hkey)]
    cases hsince : s.since with
    | none =>
      rw [hkey]
      exact .started hb (.inr hsince)
    | some t0 =>
      cases hc : cfg.converged x.readback with
      | false => exact outcome_report none hb hkey hsince (by simp [hc])
      | true =>
        cases hcs : s.convergedSince with
        | none => exact outcome_report _ hb hkey hsince (by simp [Restarts, hcs])
        | some c =>
          dsimp only
          split_ifs with hle
          · exact .restarted hb hkey hsince hc
          · exact outcome_report _ hb hkey hsince fun _ => by simpa [Restarts, hcs] using hle
  · rw [if_pos hkey]
    exact .started hb (.inl hkey)

/-- While the clock runs since `t0`, every call from then on found the joint blocked, with no long converged span. -/
structure Clock (cfg : StallConfig K) (pre : List (StallCall K)) (k : JointKey) (t0 : K) : Prop where
  start : ∃ y ∈ pre, y.now = t0
  blocked : ∀ y ∈ pre, t0 ≤ y.now → y.On k
  unconverged : Unconverged cfg pre t0

structure Timed (cfg : StallConfig K) (pre : List (StallCall K)) (s : StallTracker K) : Prop where
  clock : ∀ t0 k, s.since = some t0 → s.key = some k → Clock cfg pre k t0
  key : s.since = none → s.key = none

theorem timed_reset : Timed cfg pre (StallTracker.reset K) := ⟨by simp [StallTracker.reset], fun _ => rfl⟩

/-- A new clock at the time of the call. -/
theorem clock_start {k : JointKey} (hpre : ∀ y ∈ pre, x.now ≤ y.now → y.On k) (hx : x.On k)
    (hspan : Unconverged cfg (pre ++ [x]) x.now) : Clock cfg (pre ++ [x]) k x.now := by
  refine ⟨⟨x, by simp, rfl⟩, fun y hy hle => ?_, hspan⟩
  rcases List.mem_append.mp hy with hy | hy
  · exact hpre y hy hle
  · obtain rfl := List.mem_singleton.mp hy
    exact hx

/-- Calls at the time of the last one span no time. -/
theorem unconverged_now (hpre : ∀ y ∈ pre, y.now ≤ x.now)
    (h0 : ∀ y ∈ pre ++ [x], x.now ≤ y.now → cfg.converged y.readback = true → 0 < cfg.convergedHoldSec) :
    Unconverged cfg (pre ++ [x]) x.now := by
  have hle : ∀ y ∈ pre ++ [x], y.now ≤ x.now := by
    intro y hy
    rcases List.mem_append.mp hy with hy | hy
    · exact hpre y hy
    · rw [List.mem_singleton.mp hy]
  intro l span r e hs a ha b hb
  have ha' := List.mem_of_mem_head? ha
  have hb' := List.mem_of_getLast? hb
  have hmem : ∀ y ∈ span, y ∈ pre ++ [x] := fun y hy => e ▸ by simp [hy]
  have hat : a.now = x.now := le_antisymm (hle a (hmem a ha')) (hs a ha').1
  have hbt : b.now = x.now := le_antisymm (hle b (hmem b hb')) (hs b hb').1
  rw [hat, hbt, sub_self]
  exact h0 a (hmem a ha') (hs a ha').1 (hs a ha').2

theorem clock_continue {k : JointKey} (hw : Watched cfg pre x) (hc : Clock cfg pre k t0)
    (hsince : (StallTracker.after cfg pre).since = some t0) (hx : x.On k)
    (hr : cfg.converged x.readback = true → ¬ Restarts cfg (StallTracker.after cfg pre) x) :
    Clock cfg (pre ++ [x]) k t0 := by
  obtain ⟨y, hy, hyt⟩ := hc.start
  refine ⟨⟨y, List.mem_append_left _ hy, hyt⟩, fun y hy hle => ?_, hc.unconverged.concat fun hx' => ?_⟩
  · rcases List.mem_append.mp hy with hy | hy
    · exact hc.blocked y hy hle
    · obtain rfl := List.mem_singleton.mp hy
      exact hx
  · obtain ⟨h0, hspan⟩ := hw.converged hx.1 hx'
    exact ⟨h0, fun l y r e hs => (hspan t0 hsince l y r e hs).resolve_right (hr hx')⟩

/-- **One call keeps the clock.** -/
theorem timed_step (hpre : ∀ y ∈ pre, y.now ≤ x.now) (hw : Watched cfg pre x)
    (ht : Timed cfg pre (StallTracker.after cfg pre)) :
    Timed cfg (pre ++ [x]) (StallTracker.after cfg (pre ++ [x])) := by
  rw [StallTracker.after_concat]
  have ho := outcome_update cfg (StallTracker.after cfg pre) x
  generalize (StallTracker.after cfg pre).update cfg x.readback x.now = o at ho
  cases ho with
  | cleared => exact timed_reset
  | started hb hkey =>
    have hkey' : (StallTracker.after cfg pre).key ≠ some x.readback.key := by
      rcases hkey with hkey | hkey
      · exact hkey
      · simp [ht.key hkey]
    have hlt := (hw.starts ⟨hb, hkey'⟩).1
    refine ⟨fun t k h hk => ?_, by simp⟩
    cases h
    cases hk
    refine clock_start (fun y hy hle => absurd (hlt y hy) (not_lt.mpr hle)) ⟨hb, rfl⟩ (unconverged_now hpre ?_)
    intro y hy hle hc
    rcases List.mem_append.mp hy with hy | hy
    · exact absurd (hlt y hy) (not_lt.mpr hle)
    · obtain rfl := List.mem_singleton.mp hy
      exact (hw.converged hb hc).1
  | @restarted t0 hb hkey hsince hc =>
    obtain ⟨⟨z, hz, hzt⟩, hon, -⟩ := ht.clock t0 _ hsince hkey
    have hle0 : ∀ y ∈ pre, x.now ≤ y.now → t0 ≤ y.now := fun y _ hle => hzt ▸ (hpre z hz).trans hle
    refine ⟨fun t k h hk => ?_, by simp⟩
    cases h
    obtain rfl : x.readback.key = k := by simpa [hkey] using hk
    exact clock_start (fun y hy hle => hon y hy (hle0 y hy hle)) ⟨hb, rfl⟩
      (unconverged_now hpre fun y _ _ _ => (hw.converged hb hc).1)
  | @running t0 c hb hkey hsince hr =>
    have hclock := clock_continue hw (ht.clock t0 _ hsince hkey) hsince ⟨hb, rfl⟩ hr
    refine ⟨fun t k h hk => ?_, fun h => by simp [hsince] at h⟩
    obtain rfl : t0 = t := by simpa [hsince] using h
    obtain rfl : x.readback.key = k := by simpa [hkey] using hk
    exact hclock
  | reported => exact timed_reset

/-- What a report means, but for the reports before it. -/
theorem report_sound {h : K} (hw : Watched cfg pre x) (ht : Timed cfg pre (StallTracker.after cfg pre))
    (hrep : reportAt cfg pre x = some h) : (∀ y ∈ pre ++ [x], x.now - h ≤ y.now → y.On x.readback.key) ∧
      cfg.holdSec ≤ h ∧ Unconverged cfg (pre ++ [x]) (x.now - h) := by
  have ho := outcome_update cfg (StallTracker.after cfg pre) x
  unfold reportAt at hrep
  generalize (StallTracker.after cfg pre).update cfg x.readback x.now = o at ho hrep
  cases ho with
  | @reported t0 hb hkey hsince hr hheld =>
    obtain rfl : x.now - t0 = h := by simpa using hrep
    have hclock := clock_continue hw (ht.clock t0 _ hsince hkey) hsince ⟨hb, rfl⟩ hr
    rw [sub_sub_cancel]
    exact ⟨hclock.blocked, hheld, hclock.unconverged⟩
  | _ => simp at hrep

/-- A report comes from a blocked call of an episode, and clears the tracker. -/
theorem reset_of_report {h : K} (hrep : reportAt cfg pre x = some h) :
    x.readback.blocked = true ∧ (StallTracker.after cfg pre).key = some x.readback.key ∧
      StallTracker.after cfg (pre ++ [x]) = StallTracker.reset K := by
  rw [StallTracker.after_concat]
  have ho := outcome_update cfg (StallTracker.after cfg pre) x
  unfold reportAt at hrep
  generalize (StallTracker.after cfg pre).update cfg x.readback x.now = o at ho hrep
  cases ho with
  | reported hb hkey => exact ⟨hb, hkey, rfl⟩
  | _ => simp at hrep

/-! ## Runs -/

/-- The defaults, with a hold of four seconds. -/
def fourSeconds : StallConfig ℚ := ⟨4, 1 / 1000, 8727 / 1000000, 1 / 2⟩

/-- The left elbow on its bound, with the pose reached or 32 mm away. -/
def elbow (posErrM : ℚ) : JointLimitStallReadback ℚ := ⟨true, some "left", some 2, some posErrM, some 0⟩

def clear : JointLimitStallReadback ℚ := ⟨false, none, none, none, none⟩

/-- The clamp clears between the two reports. -/
def wedgedTwice : List (StallCall ℚ) :=
  [⟨elbow (32 / 1000), 0⟩, ⟨elbow (32 / 1000), 5⟩, ⟨clear, 6⟩, ⟨elbow (32 / 1000), 7⟩, ⟨elbow (32 / 1000), 12⟩]

/-- The elbow never leaves its bound. -/
def wedgedOnce : List (StallCall ℚ) := [⟨elbow (32 / 1000), 0⟩, ⟨elbow (32 / 1000), 5⟩, ⟨elbow (32 / 1000), 51 / 10⟩]

/-- The pose is reached for the first half second. -/
def reachedAtFirst : List (StallCall ℚ) := [⟨elbow 0, 0⟩, ⟨elbow 0, 1 / 2⟩, ⟨elbow (32 / 1000), 6 / 10⟩]

end PolicyRunner.JointLimit
