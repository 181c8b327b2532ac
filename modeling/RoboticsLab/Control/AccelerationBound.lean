import RoboticsLab.Control.SafetyEnvelope

/-!
# Bounded acceleration of the joint clamp

With bounded deceleration on (a decel ratio above one, or an overshoot budget), the anti-overshoot
clip has nothing left to do: a ramp that leads the target by more than the budget is already at its
rate limit, and the clip's own ramp is at the same limit (`limitOvershoot_ramp`).  The velocity of
the stage is therefore the ramp under the reversal rule, whatever the tick's target is:

    |v₁ - v₀| ≤ max(1, r)·ddq_max·dt,  |v₁| ≤ |v₀| + ddq_max·dt,
    v₁·v₀ < 0 → |v₁| ≤ ddq_max·dt                          (clampAcceleration_speed_bounds)
-/

namespace RbServo

open Clamp

section

variable {K : Type*} [Field K] [LinearOrder K] [IsStrictOrderedRing K] {c : SafetyConfig K}

/-! ## The ramp -/

theorem abs_rampVel_sub_le {limit : K} (hl : 0 ≤ limit) (target prevVel : K) :
    |rampVel limit target prevVel - prevVel| ≤ limit := by
  unfold rampVel
  rw [add_sub_cancel_left]
  exact abs_clamp_le hl

/-- Past its target from above, a ramp is at its limit; so is any ramp to a target below it. -/
theorem rampVel_of_lt {limit target prevVel : K} (h : target < rampVel limit target prevVel)
    (hl : 0 ≤ limit) {clip : K} (hclip : clip ≤ rampVel limit target prevVel) :
    rampVel limit clip prevVel = rampVel limit target prevVel := by
  have hlow : target - prevVel < -limit := by
    by_contra hge
    unfold rampVel clamp at h
    rw [if_neg hge] at h
    split at h
    · linarith
    · linarith
  have hramp : rampVel limit target prevVel = prevVel - limit := by
    unfold rampVel clamp
    rw [if_pos hlow]
    ring
  rw [hramp] at hclip ⊢
  rcases hclip.lt_or_eq with hlt | heq
  · unfold rampVel clamp
    rw [if_pos (by linarith)]
    ring
  · subst heq
    unfold rampVel clamp
    rw [if_neg (by linarith), if_neg (by linarith)]
    ring

/-- Ramps are odd. -/
theorem rampVel_neg {limit : K} (hl : 0 ≤ limit) (target prevVel : K) :
    rampVel limit (-target) (-prevVel) = -rampVel limit target prevVel := by
  unfold rampVel clamp
  split_ifs <;> linarith

/-- The mirror of `rampVel_of_lt`: past its target from below. -/
theorem rampVel_of_gt {limit target prevVel : K} (h : rampVel limit target prevVel < target)
    (hl : 0 ≤ limit) {clip : K} (hclip : rampVel limit target prevVel ≤ clip) :
    rampVel limit clip prevVel = rampVel limit target prevVel := by
  have hmirror := rampVel_neg hl target prevVel
  have hbelow : -target < rampVel limit (-target) (-prevVel) := by rw [hmirror]; linarith
  have hclip' : -clip ≤ rampVel limit (-target) (-prevVel) := by rw [hmirror]; linarith
  have hneg := rampVel_of_lt hbelow hl hclip'
  rw [rampVel_neg hl, hmirror] at hneg
  exact neg_injective hneg

/-! ## The reversal rule -/

/-- A velocity the reversal rule changed has the direction of the target and stays short of it. -/
theorem reversalRule_cases {limit maxDv : K} (hl : 0 ≤ limit) (hm : 0 ≤ maxDv) (target prevVel : K) :
    reversalRule maxDv prevVel (rampVel limit target prevVel) = rampVel limit target prevVel ∨
      (0 < target ∧ 0 ≤ reversalRule maxDv prevVel (rampVel limit target prevVel) ∧
        reversalRule maxDv prevVel (rampVel limit target prevVel) ≤ target) ∨
      (target < 0 ∧ target ≤ reversalRule maxDv prevVel (rampVel limit target prevVel) ∧
        reversalRule maxDv prevVel (rampVel limit target prevVel) ≤ 0) := by
  have hbetween := rampVel_between hl target prevVel
  generalize rampVel limit target prevVel = vel at hbetween
  unfold reversalRule
  split
  · next hrev =>
    have hshort : min |vel| maxDv ≤ |vel| := min_le_left _ _
    have hpos : 0 ≤ min |vel| maxDv := le_min (abs_nonneg vel) hm
    unfold copysign
    rw [abs_of_nonneg hpos]
    rcases mul_neg_iff.mp hrev.2 with ⟨hvel, hprev⟩ | ⟨hvel, hprev⟩
    · rw [if_neg (not_lt.mpr hvel.le)]
      rw [abs_of_pos hvel] at hshort hpos ⊢
      refine Or.inr (Or.inl ⟨?_, hpos, ?_⟩)
      · rcases hbetween with ⟨-, h⟩ | ⟨-, h⟩
        · linarith
        · linarith
      · rcases hbetween with ⟨-, h⟩ | ⟨-, h⟩
        · linarith
        · linarith
    · rw [if_pos hvel]
      rw [abs_of_neg hvel] at hshort hpos ⊢
      refine Or.inr (Or.inr ⟨?_, ?_, by linarith⟩)
      · rcases hbetween with ⟨h, -⟩ | ⟨h, -⟩
        · linarith
        · linarith
      · rcases hbetween with ⟨h, -⟩ | ⟨h, -⟩
        · linarith
        · linarith
  · exact Or.inl rfl

/-- Under the reversal rule the velocity changes no more than the ramp did. -/
theorem abs_reversalRule_sub_le {maxDv : K} (hm : 0 ≤ maxDv) (prevVel vel : K) :
    |reversalRule maxDv prevVel vel - prevVel| ≤ |vel - prevVel| := by
  unfold reversalRule
  split
  · next hrev =>
    have hshort : min |vel| maxDv ≤ |vel| := min_le_left _ _
    have hpos : 0 ≤ min |vel| maxDv := le_min (abs_nonneg vel) hm
    unfold copysign
    rw [abs_of_nonneg hpos]
    rcases mul_neg_iff.mp hrev.2 with ⟨hvel, hprev⟩ | ⟨hvel, hprev⟩
    · rw [if_neg (not_lt.mpr hvel.le)]
      rw [abs_of_pos hvel] at hshort hpos ⊢
      rw [abs_of_nonneg (by linarith), abs_of_nonneg (by linarith)]
      linarith
    · rw [if_pos hvel]
      rw [abs_of_neg hvel] at hshort hpos ⊢
      rw [abs_of_nonpos (by linarith), abs_of_nonpos (by linarith)]
      linarith
  · exact le_rfl

/-- A velocity of the other sign than before is one a start from rest may have. -/
theorem abs_reversalRule_le_of_reversed {maxDv : K} (hm : 0 ≤ maxDv) {prevVel vel : K}
    (h : reversalRule maxDv prevVel vel * prevVel < 0) : |reversalRule maxDv prevVel vel| ≤ maxDv := by
  unfold reversalRule at h ⊢
  split at h
  · next hrev =>
    rw [if_pos hrev, abs_copysign, abs_of_nonneg (le_min (abs_nonneg vel) hm)]
    exact min_le_right _ _
  · next hrev =>
    refine absurd ⟨?_, h⟩ hrev
    rintro rfl
    simp at h

/-! ## The clip -/

omit [IsStrictOrderedRing K] in
/-- The clip keeps an output that its own ramp reproduces. -/
theorem limitOvershoot_of_candidate {dt limit prevVel q qPrev out : K}
    (hbounded : ¬ (decelRatio c ≤ 1 ∧ overshootBudget c ≤ 0))
    (h : ∀ dir : K, dir = (if qPrev ≤ q then 1 else -1) → overshootBudget c < (out - q) * dir →
      qPrev + rampVel limit ((q + dir * overshootBudget c - qPrev) / dt) prevVel * dt = out) :
    limitOvershoot c dt limit prevVel q qPrev out = out := by
  unfold limitOvershoot
  dsimp only
  generalize hdir : (if qPrev ≤ q then (1 : K) else -1) = dir
  by_cases hlead : overshootBudget c < (out - q) * dir
  · rw [if_pos hlead, if_neg hbounded, h dir hdir.symm hlead, ite_self]
  · rw [if_neg hlead]

/-- **The clip is idle** once deceleration is bounded. -/
theorem limitOvershoot_ramp {dt limit maxDv : K} (hdt : 0 < dt) (hl : 0 ≤ limit) (hm : 0 ≤ maxDv)
    (hbounded : ¬ (decelRatio c ≤ 1 ∧ overshootBudget c ≤ 0)) (prevVel q qPrev : K) :
    limitOvershoot c dt limit prevVel q qPrev
        (qPrev + reversalRule maxDv prevVel (rampVel limit ((q - qPrev) / dt) prevVel) * dt) =
      qPrev + reversalRule maxDv prevVel (rampVel limit ((q - qPrev) / dt) prevVel) * dt := by
  obtain ⟨d, rfl⟩ : ∃ d, q = qPrev + d * dt := ⟨(q - qPrev) / dt, by field_simp; ring⟩
  have hd : (qPrev + d * dt - qPrev) / dt = d := by field_simp; ring
  have hclip : ∀ dir : K, (qPrev + d * dt + dir * overshootBudget c - qPrev) / dt =
      d + dir * (overshootBudget c / dt) := by
    intro dir
    field_simp
    ring
  have hbudget : 0 ≤ overshootBudget c / dt := div_nonneg (overshootBudget_nonneg c) hdt.le
  rw [hd]
  apply limitOvershoot_of_candidate hbounded
  intro dir hdir hlead
  have hcases := reversalRule_cases hl hm d prevVel
  generalize reversalRule maxDv prevVel (rampVel limit d prevVel) = vel at hcases hlead ⊢
  -- the lead as a velocity past the target
  have hpast : overshootBudget c / dt < (vel - d) * dir := by
    rw [div_lt_iff₀ hdt]
    calc overshootBudget c < (qPrev + vel * dt - (qPrev + d * dt)) * dir := hlead
      _ = (vel - d) * dir * dt := by ring
  rw [hclip]
  by_cases hforward : qPrev ≤ qPrev + d * dt
  · rw [if_pos hforward] at hdir
    subst hdir
    have hd0 : 0 ≤ d := nonneg_of_mul_nonneg_left (by linarith) hdt
    have hvel : vel = rampVel limit d prevVel := by
      rcases hcases with h | ⟨-, -, h⟩ | ⟨h, -, -⟩
      · exact h
      · linarith
      · linarith
    subst hvel
    have hpassed : d < rampVel limit d prevVel := by linarith
    rw [rampVel_of_lt hpassed hl (by linarith)]
  · rw [if_neg hforward] at hdir
    subst hdir
    have hd0 : d < 0 := by
      by_contra hge
      exact hforward (by nlinarith [not_lt.mp hge])
    have hvel : vel = rampVel limit d prevVel := by
      rcases hcases with h | ⟨h, -, -⟩ | ⟨-, h, -⟩
      · exact h
      · linarith
      · linarith
    subst hvel
    have hpassed : rampVel limit d prevVel < d := by linarith
    rw [rampVel_of_gt hpassed hl (by linarith)]

/-! ## The stage -/

/-- The velocity of the stage before the hard limits: the ramp under the reversal rule. -/
theorem accelJoint_eq {dt : K} (hdt : 0 < dt) {i : Fin kDof} (hm : 0 ≤ c.ddqMaxDegS2 i)
    (hbounded : 1 < c.ddqMaxDecelRatio ∨ 0 < c.decelOvershootBudgetDeg) (q qPrev qPrevprev : K) :
    accelJoint c dt i q qPrev qPrevprev = qPrev + reversalRule (c.ddqMaxDegS2 i * dt)
      ((qPrev - qPrevprev) / dt) (rampVel (dvLimit c (c.ddqMaxDegS2 i * dt) ((q - qPrev) / dt)
        ((qPrev - qPrevprev) / dt)) ((q - qPrev) / dt) ((qPrev - qPrevprev) / dt)) * dt := by
  have hmax : 0 ≤ c.ddqMaxDegS2 i * dt := mul_nonneg hm hdt.le
  have hmode : ¬ (decelRatio c ≤ 1 ∧ overshootBudget c ≤ 0) := by
    rintro ⟨h1, h2⟩
    rcases hbounded with h | h
    · exact absurd ((le_max_right _ _).trans h1) (not_le.mpr h)
    · exact absurd ((le_max_right _ _).trans h2) (not_le.mpr h)
  exact limitOvershoot_ramp hdt (dvLimit_nonneg hmax _ _) hmax hmode _ _ _

theorem dvLimit_le {maxDv : K} (hm : 0 ≤ maxDv) (desiredVel prevVel : K) :
    dvLimit c maxDv desiredVel prevVel ≤ decelRatio c * maxDv := by
  have hratio : 1 ≤ decelRatio c := le_max_left _ _
  unfold dvLimit
  split
  · rw [mul_comm]
  · exact le_mul_of_one_le_left hm hratio

/-- A ramp against the old direction that did not cross zero only sheds speed. -/
theorem abs_rampVel_le_of_opposed {limit target prevVel : K} (hl : 0 ≤ limit)
    (hopposed : target * prevVel < 0) (hkept : 0 ≤ rampVel limit target prevVel * prevVel) :
    |rampVel limit target prevVel| ≤ |prevVel| := by
  have hbetween := rampVel_between hl target prevVel
  rcases mul_neg_iff.mp hopposed with ⟨ht, hp⟩ | ⟨ht, hp⟩
  · have hvel : rampVel limit target prevVel ≤ 0 := by
      by_contra hpos
      exact absurd hkept (not_le.mpr (mul_neg_of_pos_of_neg (not_le.mp hpos) hp))
    rw [abs_of_nonpos hvel, abs_of_neg hp]
    rcases hbetween with ⟨h, -⟩ | ⟨h, -⟩
    · linarith
    · linarith
  · have hvel : 0 ≤ rampVel limit target prevVel := by
      by_contra hneg
      exact absurd hkept (not_le.mpr (mul_neg_of_neg_of_pos (not_le.mp hneg) hp))
    rw [abs_of_nonneg hvel, abs_of_pos hp]
    rcases hbetween with ⟨-, h⟩ | ⟨-, h⟩
    · linarith
    · linarith

/-- Speed is built at `ddq_max` at most. -/
theorem abs_reversed_ramp_le {maxDv : K} (hm : 0 ≤ maxDv) (desiredVel prevVel : K) :
    |reversalRule maxDv prevVel (rampVel (dvLimit c maxDv desiredVel prevVel) desiredVel prevVel)| ≤
      |prevVel| + maxDv := by
  have hl := dvLimit_nonneg (c := c) hm desiredVel prevVel
  have hsub := abs_rampVel_sub_le hl desiredVel prevVel
  by_cases hrev : prevVel ≠ 0 ∧
      rampVel (dvLimit c maxDv desiredVel prevVel) desiredVel prevVel * prevVel < 0
  · -- crossed zero: what a start from rest may have
    unfold reversalRule
    rw [if_pos hrev, abs_copysign, abs_of_nonneg (le_min (abs_nonneg _) hm)]
    exact (min_le_right _ _).trans (le_add_of_nonneg_left (abs_nonneg _))
  · unfold reversalRule
    rw [if_neg hrev]
    cases hshed : sheddingSpeed desiredVel prevVel with
    | false =>
      have hlimit : dvLimit c maxDv desiredVel prevVel = maxDv := by simp [dvLimit, hshed]
      rw [hlimit] at hsub ⊢
      have htri := abs_sub_abs_le_abs_sub (rampVel maxDv desiredVel prevVel) prevVel
      linarith
    | true =>
      -- shedding: the ramp ends between the two velocities, and no faster than before
      have hslow : |rampVel (dvLimit c maxDv desiredVel prevVel) desiredVel prevVel| ≤ |prevVel| := by
        simp only [sheddingSpeed, Bool.or_eq_true, decide_eq_true_eq] at hshed
        rcases hshed with hless | hopposed
        · exact abs_rampVel_le hl hless.le le_rfl
        · have hne : prevVel ≠ 0 := by rintro rfl; simp at hopposed
          exact abs_rampVel_le_of_opposed hl hopposed (not_lt.mp fun h => hrev ⟨hne, h⟩)
      linarith

/-- **Bounded acceleration.**  With bounded deceleration on, a tick whose output the hard limits
did not change has a velocity within the ceilings, through reversals and the clip too. -/
theorem clampAcceleration_speed_bounds (c : SafetyConfig K) (i : Fin kDof)
    (hacc : 0 ≤ c.ddqMaxDegS2 i)
    (hbounded : 1 < c.ddqMaxDecelRatio ∨ 0 < c.decelOvershootBudgetDeg) {dt : K} (hdt : 0 < dt)
    (q qPrev qPrevprev : Joints K)
    (hlimits : clampAcceleration c q qPrev qPrevprev dt i =
      accelJoint c dt i (q i) (qPrev i) (qPrevprev i)) :
    let v₀ := (qPrev i - qPrevprev i) / dt
    let v₁ := (clampAcceleration c q qPrev qPrevprev dt i - qPrev i) / dt
    |v₁ - v₀| ≤ max 1 c.ddqMaxDecelRatio * c.ddqMaxDegS2 i * dt ∧
      |v₁| ≤ |v₀| + c.ddqMaxDegS2 i * dt ∧
      (v₁ * v₀ < 0 → |v₁| ≤ c.ddqMaxDegS2 i * dt) := by
  intro v₀ v₁
  have hmax : 0 ≤ c.ddqMaxDegS2 i * dt := mul_nonneg hacc hdt.le
  have hvel : v₁ = reversalRule (c.ddqMaxDegS2 i * dt) v₀
      (rampVel (dvLimit c (c.ddqMaxDegS2 i * dt) ((q i - qPrev i) / dt) v₀)
        ((q i - qPrev i) / dt) v₀) := by
    show (clampAcceleration c q qPrev qPrevprev dt i - qPrev i) / dt = _
    rw [hlimits, accelJoint_eq hdt hacc hbounded, add_sub_cancel_left, mul_div_cancel_right₀ _ hdt.ne']
  refine ⟨?_, ?_, ?_⟩
  · calc |v₁ - v₀| ≤ |rampVel (dvLimit c (c.ddqMaxDegS2 i * dt) ((q i - qPrev i) / dt) v₀)
            ((q i - qPrev i) / dt) v₀ - v₀| := by rw [hvel]; exact abs_reversalRule_sub_le hmax _ _
      _ ≤ dvLimit c (c.ddqMaxDegS2 i * dt) ((q i - qPrev i) / dt) v₀ :=
          abs_rampVel_sub_le (dvLimit_nonneg hmax _ _) _ _
      _ ≤ decelRatio c * (c.ddqMaxDegS2 i * dt) := dvLimit_le hmax _ _
      _ = max 1 c.ddqMaxDecelRatio * c.ddqMaxDegS2 i * dt := (mul_assoc _ _ _).symm
  · rw [hvel]
    exact abs_reversed_ramp_le hmax _ _
  · intro hrev
    rw [hvel] at hrev ⊢
    exact abs_reversalRule_le_of_reversed hmax hrev

end

def baseJoint : Fin kDof := ⟨0, by decide⟩

/-- A reversal at 500 Hz under the sample limits: from 6 deg/s forward to a target behind, which the
wide budget alone would answer with 18 deg/s back. -/
theorem clampAcceleration_speed_bounds_sample :
    (clampAcceleration (sampleSafety : SafetyConfig ℚ) (fun _ => -3 / 10) (fun _ => 0)
      (fun _ => -6 / 500) (1 / 500) baseJoint - 0) / (1 / 500) = -6 ∧
    |(clampAcceleration (sampleSafety : SafetyConfig ℚ) (fun _ => -3 / 10) (fun _ => 0)
      (fun _ => -6 / 500) (1 / 500) baseJoint - 0) / (1 / 500)| ≤ 3000 * (1 / 500) := by
  refine ⟨by decide +kernel, ?_⟩
  have hbounds := clampAcceleration_speed_bounds (sampleSafety : SafetyConfig ℚ) baseJoint
    (by decide +kernel) (Or.inl (by decide +kernel)) (show (0 : ℚ) < 1 / 500 by norm_num)
    (fun _ => -3 / 10) (fun _ => 0) (fun _ => -6 / 500) (by decide +kernel)
  exact hbounds.2.2 (by decide +kernel)

end RbServo
