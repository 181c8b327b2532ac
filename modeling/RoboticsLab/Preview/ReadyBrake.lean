import RoboticsLab.Preview.BrakeBounds
import Mathlib.Algebra.Group.PUnit
import Mathlib.Analysis.Real.Sqrt
import Mathlib.Data.Fin.VecNotation

/-!
# A ready brake at every instant

`start` is ready only with an answer whose pieces it has checked and whose end is at rest within the
tolerance (`certify_ok`).  From that each axis of the chart stays, at every time, within its cap or what
the seed already does (`start_certified`); the three angular axes together stay within the physical
budget up to `√3` times the tolerance of an axis, and not closer (`swing_exceeds_tolerance`).
-/

namespace RbServo

open Quadratic Ruckig

variable {K G : Type*} [Field K] [LinearOrder K] [Group G] {sp : MotionSpace K G} {lib : BrakeLibrary K}

/-! ## What a start has checked -/

namespace BrakeUnit

variable {b : BrakeUnit K} {initial : PreviewMotionState K G} {seed : BrakeSeed K}
variable {candidate : PreviewBrakeTrajectory K G (Trajectory K)}

theorem certify_ok (h : b.certify sp lib initial = .ok (seed, candidate)) :
    b.chooseChart sp lib initial = .ok seed ∧
      (∃ input, lib.calculate input = some candidate.trajectory) ∧
      0 ≤ candidate.trajectory.getDuration ∧
      (∀ i, b.certifiedAxis seed (candidate.trajectory.profiles i) i) ∧
      norm6 sp (candidate.trajectory.velocity candidate.trajectory.getDuration) ≤ b.config.feasibilityTolerance ∧
      norm6 sp (candidate.trajectory.acceleration candidate.trajectory.getDuration) ≤
        b.config.feasibilityTolerance := by
  unfold certify at h
  simp only at h
  split at h
  · exact absurd h (by simp)
  · split at h
    · exact absurd h (by simp)
    · next s hchart =>
      split at h
      · exact absurd h (by simp)
      · next tr hcalc =>
        split at h
        · exact absurd h (by simp)
        · next hdur =>
          split at h
          · exact absurd h (by simp)
          · next haxes =>
            split at h
            · exact absurd h (by simp)
            · split at h
              · exact absurd h (by simp)
              · next hres =>
                push Not at haxes hres
                split at h
                · exact absurd h (by simp)
                · split at h
                  · exact absurd h (by simp)
                  · obtain ⟨rfl, rfl⟩ := Prod.mk.inj (Except.ok.inj h)
                    exact ⟨hchart, ⟨_, hcalc⟩, not_lt.mp hdur, haxes, hres.1, hres.2⟩

/-- The checks are all there is: an answer that passes them is accepted. -/
theorem certify_of_checks {tr : Trajectory K}
    (hnorm : ¬ (b.config.maxAngularVelocityRadS * (1 + kSeedHeadroom) + b.config.feasibilityTolerance <
        sp.norm initial.angularVelocityBody ∨
      b.config.maxAngularAccelerationRadS2 * (1 + kSeedHeadroom) + b.config.feasibilityTolerance <
        sp.norm initial.angularAccelerationBody))
    (hchart : b.chooseChart sp lib initial = .ok seed) (hcalc : ∀ input, lib.calculate input = some tr)
    (hdur : 0 ≤ tr.getDuration) (haxes : ∀ i, b.certifiedAxis seed (tr.profiles i) i)
    (hangle : sp.norm (angularExtent lib tr) ≤ b.config.maxReferenceChartAngleRad)
    (hres : norm6 sp (tr.velocity tr.getDuration) ≤ b.config.feasibilityTolerance ∧
      norm6 sp (tr.acceleration tr.getDuration) ≤ b.config.feasibilityTolerance)
    (hrest : sp.norm 0 ≤ b.config.feasibilityTolerance) (hkin : ∀ theta, sp.angularKinematics theta 0 0 = (0, 0)) :
    b.certify sp lib initial = .ok (seed, ⟨tr, initial.pose.rotation, seed.angularBasis, 0⟩) := by
  have hsample : (⟨tr, initial.pose.rotation, seed.angularBasis, 0⟩ :
      PreviewBrakeTrajectory K G (Trajectory K)).sample sp (ruckigBrake fun _ => .error .inactive) tr.getDuration =
      some ⟨⟨(tr.position tr.getDuration).linear, initial.pose.rotation *
        sp.exp3 (seed.angularBasis.mulVec (tr.position tr.getDuration).angular)⟩, 0, 0, 0, 0⟩ := by
    simp [PreviewBrakeTrajectory.sample, PreviewBrakeTrajectory.durationSec, ruckigBrake, Trajectory.atTime, hdur,
      hkin]
  unfold certify
  simp only [if_neg hnorm, hchart, hcalc]
  rw [if_neg (not_lt.mpr hdur), if_neg (not_not.mpr haxes), if_neg (not_lt.mpr hangle),
    if_neg (not_or.mpr ⟨not_lt.mpr hres.1, not_lt.mpr hres.2⟩)]
  simp only [hsample]
  rw [if_neg]
  simp only [not_or, not_lt]
  exact ⟨hrest, hrest, hrest, hrest⟩

end BrakeUnit

omit [Field K] [LinearOrder K] in
theorem axesOf_castAdd (l a : Vec3 K) (i : Fin 3) : axesOf l a (Fin.castAdd 3 i) = l i := Fin.append_left l a i

omit [Field K] [LinearOrder K] in
theorem axesOf_natAdd (l a : Vec3 K) (i : Fin 3) : axesOf l a (Fin.natAdd 3 i) = a i := Fin.append_right l a i

/-- The limits of a constructed brake. -/
structure Constructed (sp : MotionSpace K G) (b : BrakeUnit K) : Prop where
  tolerance : 0 < b.config.feasibilityTolerance
  linear : ∀ i : Fin 3, 0 < b.maxVelocity (Fin.castAdd 3 i)
  angularVelocity : 0 < b.config.maxAngularVelocityRadS
  chartAcceleration : 0 < b.config.chartAcceleration
  cubeVelocity : ∀ i : Fin 3, b.maxVelocity (Fin.natAdd 3 i) = b.config.maxAngularVelocityRadS / sp.sqrt 3
  cubeAcceleration : ∀ i : Fin 3, b.maxAcceleration (Fin.natAdd 3 i) = b.config.chartAcceleration / sp.sqrt 3

theorem constructed_of_new {config : PreviewTrackerConfig K} {period : K} {b : BrakeUnit K}
    (h : BrakeUnit.new sp lib config period = some b) : Constructed sp b := by
  unfold BrakeUnit.new at h
  split at h
  · exact absurd h (by simp)
  · next hpos =>
    push Not at hpos
    obtain ⟨-, hv, -, -, hV, -, -, htol, -, -, -, hA, -⟩ := hpos
    simp only at h
    split at h
    · exact absurd h (by simp)
    · obtain rfl := Option.some.inj h
      refine ⟨htol, fun i => ?_, hV, hA, fun i => ?_, fun i => ?_⟩
      · simpa only [axesOf_castAdd] using hv
      · simp only [axesOf_natAdd]
      · simp only [axesOf_natAdd]

/-! ## Every instant -/

variable (sp) in
/-- What a ready brake promises, from the seed in its chart. -/
structure CertifiedBrake (b : BrakeUnit K) (seed : BrakeSeed K)
    (t : PreviewBrakeTrajectory K G (Trajectory K)) : Prop where
  velocity : ∀ time, 0 ≤ time → ∀ i, |(chartAt t time).1 i| ≤
    max (b.maxVelocity i) (|seed.velocity i| + seed.acceleration i * seed.acceleration i / (2 * b.maxJerk i)) +
      b.config.feasibilityTolerance
  acceleration : ∀ time, 0 ≤ time → ∀ i, |(chartAt t time).2.1 i| ≤
    max (b.maxAcceleration i) |seed.acceleration i| + b.config.feasibilityTolerance
  jerk : ∀ time, 0 ≤ time → ∀ i, |(chartAt t time).2.2 i| ≤ b.maxJerk i + b.config.feasibilityTolerance
  rest : ∀ start time, t.durationSec (ruckigBrake start) ≤ time → chartAt t time = (0, 0, 0) ∧
    t.sample sp (ruckigBrake start) time = t.sample sp (ruckigBrake start) (t.durationSec (ruckigBrake start))
  norms : (∀ i : Fin 3, |seed.velocity (Fin.natAdd 3 i)| ≤ b.maxVelocity (Fin.natAdd 3 i) ∧
      seed.acceleration (Fin.natAdd 3 i) = 0) → ∀ time, 0 ≤ time →
    sp.norm (chartAt t time).1.angular ≤
      b.config.maxAngularVelocityRadS + sp.sqrt 3 * b.config.feasibilityTolerance ∧
    sp.norm (chartAt t time).2.1.angular ≤
      b.config.maxAngularAccelerationRadS2 - 1 / 2 * b.config.maxAngularVelocityRadS * b.config.maxAngularVelocityRadS +
        sp.sqrt 3 * b.config.feasibilityTolerance

/-- A sample of a brake is read off its chart. -/
theorem sample_chart (t : PreviewBrakeTrajectory K G (Trajectory K)) (start) (time : K) :
    t.sample sp (ruckigBrake start) time = if 0 ≤ time ∧ 0 ≤ t.trajectory.getDuration then
      let position := t.trajectory.position (min time t.trajectory.getDuration)
      let theta := t.angularBasis.mulVec position.angular
      let w := sp.angularKinematics theta (t.angularBasis.mulVec (chartAt t time).1.angular)
        (t.angularBasis.mulVec (chartAt t time).2.1.angular)
      some {
        pose := ⟨position.linear + t.translationOffset, t.rotation0 * sp.exp3 theta⟩
        linearVelocity := (chartAt t time).1.linear
        linearAcceleration := (chartAt t time).2.1.linear
        angularVelocityBody := w.1
        angularAccelerationBody := w.2 } else none := by
  have hl : (0 : Axes K).linear = 0 := rfl
  have ha : (0 : Axes K).angular = 0 := rfl
  unfold PreviewBrakeTrajectory.sample
  by_cases hd : t.trajectory.getDuration ≤ time
  · simp [PreviewBrakeTrajectory.durationSec, ruckigBrake, chartAt, Trajectory.atTime, hd, hl, ha]
  · simp [PreviewBrakeTrajectory.durationSec, ruckigBrake, chartAt, Trajectory.atTime, hd]

theorem sample_rest (t : PreviewBrakeTrajectory K G (Trajectory K)) (start) {time : K}
    (h0 : 0 ≤ t.trajectory.getDuration) (h : t.trajectory.getDuration ≤ time) :
    t.sample sp (ruckigBrake start) time = t.sample sp (ruckigBrake start) t.trajectory.getDuration := by
  have hchart : chartAt t time = chartAt t t.trajectory.getDuration := by
    simp only [chartAt, if_pos h, if_pos le_rfl]
  rw [sample_chart, sample_chart, hchart, min_eq_right h, min_self]
  simp only [h0, h0.trans h, and_self]

section Certified

variable [IsStrictOrderedRing K]

theorem sqrt_three_pos (hsqrt : sp.IsSqrt) : 0 < sp.sqrt 3 := by
  obtain ⟨h3, h33⟩ := hsqrt 3 (by norm_num)
  refine lt_of_le_of_ne h3 fun h0 => ?_
  rw [← h0, mul_zero] at h33
  norm_num at h33

variable {b : BrakeUnit K} {initial : PreviewMotionState K G} {seed : BrakeSeed K}
variable {candidate : PreviewBrakeTrajectory K G (Trajectory K)}

theorem maxVelocity_nonneg (hsqrt : sp.IsSqrt) (hb : Constructed sp b) (i : Fin (3 + 3)) :
    0 ≤ b.maxVelocity i := by
  cases i using Fin.addCases with
  | left i => exact (hb.linear i).le
  | right i =>
    rw [hb.cubeVelocity i]
    exact div_nonneg hb.angularVelocity.le (sqrt_three_pos hsqrt).le

/-- **Each axis.**  Before the common end by its pieces and its residual, afterwards at rest. -/
theorem chart_bounds (hsqrt : sp.IsSqrt) (hb : Constructed sp b)
    (hlib : ∀ input tr, lib.calculate input = some tr → ∀ i, (tr.profiles i).Consistent)
    (h : b.certify sp lib initial = .ok (seed, candidate)) {time : K} (h0 : 0 ≤ time) (i : Fin (3 + 3)) :
    |(chartAt candidate time).1 i| ≤ b.vAllow seed i + b.config.feasibilityTolerance ∧
      |(chartAt candidate time).2.1 i| ≤ b.aAllow seed i + b.config.feasibilityTolerance ∧
      |(chartAt candidate time).2.2 i| ≤ b.maxJerk i + b.config.feasibilityTolerance := by
  obtain ⟨-, ⟨input, hcalc⟩, -, haxes, hresv, -⟩ := BrakeUnit.certify_ok h
  have hfit : (candidate.trajectory.profiles i).Fits (b.vAllow seed i) (b.aAllow seed i) (b.maxJerk i)
      b.config.feasibilityTolerance := ⟨(haxes i).1, (haxes i).2⟩
  have hallow : 0 ≤ b.vAllow seed i := (maxVelocity_nonneg hsqrt hb i).trans (le_max_left _ _)
  rcases lt_or_ge time candidate.trajectory.getDuration with hlt | hle
  · have hend := (abs_le_norm6 hsqrt _ i).trans hresv
    have hbounds := Profile.atTime_bounds (hlib input _ hcalc i) hfit hallow h0 hlt hend
    simp only [chartAt, if_neg (not_le.mpr hlt), min_eq_left hlt.le]
    exact hbounds
  · obtain ⟨ht, hj, hpiece⟩ := boundedInterval_sound (hfit.phase 0)
    simp only [chartAt, if_pos hle, Pi.zero_apply, abs_zero]
    exact ⟨add_nonneg hallow hb.tolerance.le, (abs_nonneg _).trans (hpiece 0 le_rfl ht).2,
      (abs_nonneg _).trans hj⟩

/-- **A checked answer is certified.**  Each axis as above; the angular ones, with a seed in the cube,
lie in the cube of the caps. -/
theorem certified_of_ok (hsqrt : sp.IsSqrt) (hb : Constructed sp b)
    (hlib : ∀ input tr, lib.calculate input = some tr → ∀ i, (tr.profiles i).Consistent)
    (h : b.certify sp lib initial = .ok (seed, candidate)) : CertifiedBrake sp b seed candidate := by
  have hall := fun time (h0 : 0 ≤ time) i => chart_bounds hsqrt hb hlib h h0 i
  have hdur : 0 ≤ candidate.trajectory.getDuration := (BrakeUnit.certify_ok h).2.2.1
  refine ⟨fun time h0 i => (hall time h0 i).1, fun time h0 i => (hall time h0 i).2.1,
    fun time h0 i => (hall time h0 i).2.2, fun start time hle => ⟨?_, sample_rest _ _ hdur hle⟩, ?_⟩
  · have hle' : candidate.trajectory.getDuration ≤ time := hle
    simp only [chartAt, if_pos hle']
  · intro hseed time h0
    have hv : ∀ i : Fin 3, b.vAllow seed (Fin.natAdd 3 i) = b.config.maxAngularVelocityRadS / sp.sqrt 3 := by
      intro i
      rw [BrakeUnit.vAllow, (hseed i).2, mul_zero, zero_div, add_zero, max_eq_left (hseed i).1, hb.cubeVelocity]
    have ha : ∀ i : Fin 3, b.aAllow seed (Fin.natAdd 3 i) = b.config.chartAcceleration / sp.sqrt 3 := by
      intro i
      have hpos : 0 ≤ b.config.chartAcceleration / sp.sqrt 3 :=
        div_nonneg hb.chartAcceleration.le (sqrt_three_pos hsqrt).le
      rw [BrakeUnit.aAllow, (hseed i).2, abs_zero, hb.cubeAcceleration, max_eq_left hpos]
    have hcubev : ∀ i : Fin 3, |(chartAt candidate time).1.angular i| ≤
        b.config.maxAngularVelocityRadS / sp.sqrt 3 + b.config.feasibilityTolerance := fun i =>
      hv i ▸ (hall time h0 (Fin.natAdd 3 i)).1
    have hcubea : ∀ i : Fin 3, |(chartAt candidate time).2.1.angular i| ≤
        b.config.chartAcceleration / sp.sqrt 3 + b.config.feasibilityTolerance := fun i =>
      ha i ▸ (hall time h0 (Fin.natAdd 3 i)).2.1
    exact ⟨norm_le_of_cube hsqrt hcubev, norm_le_of_cube hsqrt hcubea⟩

/-- **A ready brake is certified at every instant.**  A start that is ready has accepted a trajectory
from a seed in some chart, each axis of which stays within its cap or what the seed already does, and
which is at rest from its duration on; for a seed in the cube of the angular caps without acceleration
the norms stay in the physical budget.  A start that is not ready leaves no valid trajectory. -/
theorem start_certified (hsqrt : sp.IsSqrt)
    (hlib : ∀ input tr, lib.calculate input = some tr → ∀ i, (tr.profiles i).Consistent)
    {config : PreviewTrackerConfig K} {period : K} {o : BrakeObject K G}
    (hnew : BrakeUnit.new sp lib config period = some o.unit) (initial : PreviewMotionState K G) :
    ((o.start sp lib initial).status = none → (o.start sp lib initial).valid = true ∧
      ∃ seed, o.unit.chooseChart sp lib initial = .ok seed ∧
        CertifiedBrake sp o.unit seed (o.start sp lib initial).accepted) ∧
    ((o.start sp lib initial).status ≠ none → (o.start sp lib initial).valid = false) := by
  unfold BrakeObject.start
  simp only
  cases hc : o.unit.certify sp lib initial with
  | error e => exact ⟨fun h => absurd h (by simp), fun _ => rfl⟩
  | ok c =>
    refine ⟨fun _ => ⟨rfl, c.1, (BrakeUnit.certify_ok hc).1, ?_⟩, fun h => absurd rfl h⟩
    exact certified_of_ok hsqrt (constructed_of_new hnew) hlib hc

end Certified

/-! ## A swing within the tolerance -/

/-- The frame of points on a line, with the square root of the reals. -/
noncomputable def realMotion : MotionSpace ℝ Unit where
  sqrt := Real.sqrt
  exp3 _ := 1
  log3 _ := 0
  rotate := 1
  slerp a _ _ := a
  slerp_mul _ _ _ _ := rfl
  angularKinematics _ v a := (v, a)

theorem realMotion_isSqrt : realMotion.IsSqrt := fun x hx => ⟨Real.sqrt_nonneg x, Real.mul_self_sqrt hx⟩

/-- An axis at rest. -/
def restingProfile : Profile K := ⟨0, 0, 0, 0, 0, 0, 0, 0, 0, 0, 0, 0⟩

/-- An axis that gains the tolerance before it stops. -/
def swingProfile : Profile K where
  brakeDuration := 0
  brakeT := 0
  brakeP := 0
  brakeV := 0
  brakeA := 0
  brakeJ := 0
  t := ![1 / 100, 1 / 100, 1 / 2, 1 / 2, 0, 0, 0]
  tSum := ![1 / 100, 1 / 50, 13 / 25, 51 / 50, 51 / 50, 51 / 50, 51 / 50]
  j := ![1, -1, -(5001 / 2500), 5001 / 2500, 0, 0, 0]
  p := ![0, 30001 / 6000000, 10001 / 1000000, 27297 / 125000, 260051 / 1000000, 260051 / 1000000,
    260051 / 1000000, 260051 / 1000000]
  v := ![1 / 2, 10001 / 20000, 5001 / 10000, 5001 / 20000, 0, 0, 0, 0]
  a := ![0, 1 / 100, 0, -(5001 / 5000), 0, 0, 0, 0]

/-- A generator with one answer. -/
def libraryOf (angular : Profile K) (duration : K) : BrakeLibrary K where
  calculate _ := some ⟨Fin.append (fun _ => restingProfile) (fun _ => angular), duration⟩
  positionExtrema p := (0, p.p 7)
  fromTwoVectors _ _ := 1

noncomputable def swingConfig : PreviewTrackerConfig ℝ where
  planningDtSec := 1 / 100
  maxLinearVelocityMS := 1
  maxLinearAccelerationMS2 := 1
  maxLinearJerkMS3 := 1
  contactSlewJerkMS3 := 1
  maxAngularVelocityRadS := Real.sqrt 3 / 2
  maxAngularAccelerationRadS2 := 2 * Real.sqrt 3 + 3 / 8
  maxAngularJerkRadS3 := 10 * Real.sqrt 3 + 15 / 2 + 5 / 16 * Real.sqrt 3
  maxReferenceChartAngleRad := 7 / 5
  feasibilityTolerance := 1 / 10000

noncomputable def swingUnit : BrakeUnit ℝ :=
  ⟨swingConfig, axesOf (fun _ => 1) (fun _ => 1 / 2), axesOf (fun _ => 1) (fun _ => 2),
    axesOf (fun _ => 1) (fun _ => 10)⟩

theorem sqrt_three_sq : Real.sqrt 3 * Real.sqrt 3 = 3 := Real.mul_self_sqrt (by norm_num)

theorem swing_new (angular : Profile ℝ) (duration : ℝ) :
    BrakeUnit.new realMotion (libraryOf angular duration) swingConfig (1 / 500) = some swingUnit := by
  have h33 := sqrt_three_sq
  have h3 : 0 < Real.sqrt 3 := Real.sqrt_pos.mpr (by norm_num)
  have hA : swingConfig.chartAcceleration = 2 * Real.sqrt 3 := by
    simp only [PreviewTrackerConfig.chartAcceleration, swingConfig]
    linear_combination -(1 / 8) * h33
  have hJ : swingConfig.chartJerk = 10 * Real.sqrt 3 := by
    rw [PreviewTrackerConfig.chartJerk, hA]
    simp only [swingConfig]
    linear_combination (-(5 / 2) - 5 / 48 * Real.sqrt 3) * h33
  have hguard : ¬ ((1 / 500 : ℝ) ≤ 0 ∨ swingConfig.maxLinearVelocityMS ≤ 0 ∨
      swingConfig.maxLinearAccelerationMS2 ≤ 0 ∨ swingConfig.maxLinearJerkMS3 ≤ 0 ∨
      swingConfig.maxAngularVelocityRadS ≤ 0 ∨ swingConfig.maxAngularAccelerationRadS2 ≤ 0 ∨
      swingConfig.maxAngularJerkRadS3 ≤ 0 ∨ swingConfig.feasibilityTolerance ≤ 0 ∨
      1 / 10000 < swingConfig.feasibilityTolerance ∨ swingConfig.maxReferenceChartAngleRad ≤ 0 ∨
      7 / 5 < swingConfig.maxReferenceChartAngleRad ∨ swingConfig.chartAcceleration ≤ 0 ∨
      swingConfig.chartJerk ≤ 0) := by
    rw [hA, hJ]
    simp only [swingConfig, not_or, not_le, not_lt]
    refine ⟨by norm_num, by norm_num, by norm_num, by norm_num, by positivity, by positivity, by positivity,
      by norm_num, le_rfl, by norm_num, le_rfl, by positivity, by positivity⟩
  have hcube : ∀ x : ℝ, x * Real.sqrt 3 / Real.sqrt 3 = x := fun x => mul_div_cancel_right₀ x h3.ne'
  have hV : Real.sqrt 3 / 2 / Real.sqrt 3 = 1 / 2 := by
    field_simp
  unfold BrakeUnit.new
  rw [if_neg hguard]
  simp only [libraryOf, hA, hJ, realMotion, hcube]
  simp only [swingUnit, swingConfig, hV]

/-- Half a radian per second about each axis. -/
noncomputable def swingState : PreviewMotionState ℝ Unit := ⟨⟨0, 1⟩, 0, 0, fun _ => 1 / 2, 0⟩

noncomputable def swingSeed : BrakeSeed ℝ := ⟨1, axesOf 0 fun _ => 1 / 2, axesOf 0 0⟩

theorem swing_chart (angular : Profile ℝ) (duration : ℝ) :
    swingUnit.chooseChart realMotion (libraryOf angular duration) swingState = .ok swingSeed := by
  have hlin : ∀ i : Fin 3, swingUnit.insideAxis swingSeed (Fin.castAdd 3 i) kSeedHeadroom := by
    intro i
    simp only [BrakeUnit.insideAxis, swingSeed, swingUnit, swingConfig, axesOf_castAdd, kSeedHeadroom,
      Pi.zero_apply, abs_zero]
    norm_num
  have hang : ∀ i : Fin 3, swingUnit.insideAxis swingSeed (Fin.natAdd 3 i) 0 := by
    intro i
    simp only [BrakeUnit.insideAxis, swingSeed, swingUnit, swingConfig, axesOf_natAdd, Pi.zero_apply, abs_zero]
    norm_num [abs_of_pos]
  have hplain : (⟨1, axesOf swingState.linearVelocity swingState.angularVelocityBody,
      axesOf swingState.linearAcceleration swingState.angularAccelerationBody⟩ : BrakeSeed ℝ) = swingSeed := rfl
  unfold BrakeUnit.chooseChart
  simp only [hplain]
  rw [if_neg (not_not.mpr hlin), if_pos hang]

theorem realMotion_norm_const (x : ℝ) (hx : 0 ≤ x) : realMotion.norm (fun _ => x) = Real.sqrt 3 * x := by
  have hdot : dot (fun _ => x) (fun _ => x) = 3 * (x * x) := by
    unfold dot
    ring
  rw [MotionSpace.norm, hdot]
  exact (Real.sqrt_mul (by norm_num) _).trans (by rw [Real.sqrt_mul_self hx])

theorem swing_allow : (∀ i : Fin 3, swingUnit.vAllow swingSeed (Fin.castAdd 3 i) = 1 ∧
      swingUnit.aAllow swingSeed (Fin.castAdd 3 i) = 1 ∧ swingUnit.maxJerk (Fin.castAdd 3 i) = 1) ∧
    ∀ i : Fin 3, swingUnit.vAllow swingSeed (Fin.natAdd 3 i) = 1 / 2 ∧
      swingUnit.aAllow swingSeed (Fin.natAdd 3 i) = 2 ∧ swingUnit.maxJerk (Fin.natAdd 3 i) = 10 := by
  refine ⟨fun i => ?_, fun i => ?_⟩
  · simp only [BrakeUnit.vAllow, BrakeUnit.aAllow, swingUnit, swingSeed, axesOf_castAdd, Pi.zero_apply]
    norm_num
  · simp only [BrakeUnit.vAllow, BrakeUnit.aAllow, swingUnit, swingSeed, axesOf_natAdd, Pi.zero_apply]
    norm_num [abs_of_pos]

theorem resting_interval {V A J eps : ℝ} (hV : 0 ≤ V) (hA : 0 ≤ A) (hJ : 0 ≤ J) (heps : 0 ≤ eps) :
    boundedInterval 0 0 0 0 V A J eps = true := by
  have h0 : ∀ x : ℝ, 0 ≤ x → bounded eps 0 x := fun x hx => by
    rw [bounded, abs_zero]
    exact add_nonneg hx heps
  simp [boundedInterval, h0 V hV, h0 A hA, h0 J hJ]

/-- The pieces of the swing are within the limits, their ends and extrema included. -/
theorem swing_intervals (k : Fin 7) : boundedInterval (swingProfile.t k) (swingProfile.v k.castSucc)
    (swingProfile.a k.castSucc) (swingProfile.j k) (1 / 2) 2 10 (1 / 10000 : ℝ) = true := by
  fin_cases k <;> norm_num [swingProfile, boundedInterval, bounded, abs_le]

theorem swing_consistent : (swingProfile : Profile ℝ).Consistent where
  brakeT_nonneg _ := le_rfl
  brakeDuration_eq := by simp [swingProfile]
  tSum_zero := by simp [swingProfile]
  tSum_step k := by fin_cases k <;> simp [swingProfile] <;> norm_num
  v_step k := by fin_cases k <;> simp [swingProfile, quad] <;> norm_num
  a_step k := by fin_cases k <;> simp [swingProfile, slopeAt] <;> norm_num

theorem resting_consistent : (restingProfile : Profile ℝ).Consistent where
  brakeT_nonneg _ := le_rfl
  brakeDuration_eq := by simp [restingProfile]
  tSum_zero := rfl
  tSum_step k := by simp [restingProfile]
  v_step k := by simp [restingProfile]
  a_step k := by simp [restingProfile, slopeAt]

theorem libraryOf_consistent {angular : Profile ℝ} (h : angular.Consistent) (duration : ℝ) :
    ∀ input tr, (libraryOf angular duration).calculate input = some tr → ∀ i, (tr.profiles i).Consistent := by
  intro input tr htr i
  obtain rfl := Option.some.inj htr
  cases i using Fin.addCases with
  | left i => simpa only [Fin.append_left] using resting_consistent
  | right i => simpa only [Fin.append_right] using h

theorem resting_atTime (time : ℝ) : (restingProfile : Profile ℝ).atTime time = (0, 0, 0) := by
  have hb : (restingProfile : Profile ℝ).brakeDuration = 0 := rfl
  have hzero : ∀ s : ℝ, pieceAt 0 0 0 0 s = ((0, 0, 0) : ℝ × ℝ × ℝ) := fun s => by
    simp [pieceAt, quad, slopeAt]
  rw [Profile.atTime, hb, if_neg fun h => lt_irrefl _ h.1]
  simp only [lt_irrefl, if_false]
  cases (restingProfile : Profile ℝ).phaseAt time with
  | none => exact hzero _
  | some k => exact hzero _

theorem swing_atTime : ((swingProfile : Profile ℝ).atTime (1 / 50)).2.1 = 5001 / 10000 ∧
    ((swingProfile : Profile ℝ).atTime (51 / 50)).2 = (0, 0) := by
  have hb : (swingProfile : Profile ℝ).brakeDuration = 0 := rfl
  have hrange : List.finRange 7 = [0, 1, 2, 3, 4, 5, 6] := by decide
  have hpeak : (swingProfile : Profile ℝ).phaseAt (1 / 50) = some 2 := by
    rw [Profile.phaseAt, hrange]
    simp [swingProfile, List.find?]
    norm_num
  have hend : (swingProfile : Profile ℝ).phaseAt (51 / 50) = none := by
    rw [Profile.phaseAt, hrange]
    simp [swingProfile, List.find?]
    norm_num
  constructor
  · rw [Profile.atTime, hb, if_neg fun h => lt_irrefl _ h.1]
    simp only [lt_irrefl, if_false, hpeak]
    simp [pieceAt, Profile.phaseStart, swingProfile, quad]
  · rw [Profile.atTime, hb, if_neg fun h => lt_irrefl _ h.1]
    simp only [lt_irrefl, if_false, hend]
    simp [pieceAt, swingProfile, quad, slopeAt]

/-- The trajectory of the swing. -/
noncomputable def swingTrajectory : Trajectory ℝ :=
  ⟨Fin.append (fun _ => restingProfile) (fun _ => swingProfile), 51 / 50⟩

theorem swing_axes (i : Fin (3 + 3)) : swingUnit.certifiedAxis swingSeed (swingTrajectory.profiles i) i := by
  cases i using Fin.addCases with
  | left i =>
    obtain ⟨hv, ha, hj⟩ := swing_allow.1 i
    simp only [swingTrajectory, Fin.append_left, BrakeUnit.certifiedAxis, hv, ha, hj]
    refine ⟨fun h => absurd h (lt_irrefl 0), fun k => ?_⟩
    exact resting_interval zero_le_one zero_le_one zero_le_one (by norm_num [swingUnit, swingConfig])
  | right i =>
    obtain ⟨hv, ha, hj⟩ := swing_allow.2 i
    simp only [swingTrajectory, Fin.append_right, BrakeUnit.certifiedAxis, hv, ha, hj]
    exact ⟨fun h => absurd h (lt_irrefl 0), swing_intervals⟩

theorem swing_velocity {time x : ℝ} (h : ((swingProfile : Profile ℝ).atTime time).2.1 = x) :
    swingTrajectory.velocity time = axesOf 0 fun _ => x := by
  funext i
  cases i using Fin.addCases with
  | left i =>
    simp only [Trajectory.velocity, swingTrajectory, Fin.append_left, resting_atTime, axesOf_castAdd, Pi.zero_apply]
  | right i => simp only [Trajectory.velocity, swingTrajectory, Fin.append_right, h, axesOf_natAdd]

theorem swing_acceleration {time x : ℝ} (h : ((swingProfile : Profile ℝ).atTime time).2.2 = x) :
    swingTrajectory.acceleration time = axesOf 0 fun _ => x := by
  funext i
  cases i using Fin.addCases with
  | left i =>
    simp only [Trajectory.acceleration, swingTrajectory, Fin.append_left, resting_atTime, axesOf_castAdd,
      Pi.zero_apply]
  | right i => simp only [Trajectory.acceleration, swingTrajectory, Fin.append_right, h, axesOf_natAdd]

theorem realMotion_norm_zero : realMotion.norm 0 = 0 := by
  have h0 : (0 : Vec3 ℝ) = fun _ => 0 := rfl
  rw [h0, realMotion_norm_const 0 le_rfl, mul_zero]

theorem realMotion_norm6_zero : BrakeUnit.norm6 realMotion (axesOf 0 fun _ => 0) = 0 := by
  have h0 : (fun _ => 0 : Vec3 ℝ) = 0 := rfl
  have hdot : dot (0 : Vec3 ℝ) 0 + dot (0 : Vec3 ℝ) 0 = 0 := by simp [dot]
  rw [BrakeUnit.norm6, axesOf_linear, axesOf_angular, h0, hdot]
  exact Real.sqrt_zero

theorem swing_certify : swingUnit.certify realMotion (libraryOf swingProfile (51 / 50)) swingState =
    .ok (swingSeed, ⟨swingTrajectory, 1, 1, 0⟩) := by
  have h3 : 0 ≤ Real.sqrt 3 := Real.sqrt_nonneg 3
  have h32 : Real.sqrt 3 ≤ 2 := Real.sqrt_le_iff.mpr ⟨by norm_num, by norm_num⟩
  have hp : (swingProfile : Profile ℝ).p 7 = 260051 / 1000000 := rfl
  have hangle : BrakeUnit.angularExtent (libraryOf (swingProfile : Profile ℝ) (51 / 50)) swingTrajectory =
      fun _ => 260051 / 1000000 := by
    funext i
    simp only [BrakeUnit.angularExtent, libraryOf, swingTrajectory, Fin.append_right, hp]
    norm_num [abs_of_pos]
  have hvel := swing_velocity (congrArg Prod.fst swing_atTime.2)
  have hacc := swing_acceleration (congrArg Prod.snd swing_atTime.2)
  have htol : (0 : ℝ) ≤ swingUnit.config.feasibilityTolerance := by norm_num [swingUnit, swingConfig]
  have hduration : swingTrajectory.getDuration = 51 / 50 := rfl
  refine BrakeUnit.certify_of_checks ?_ (swing_chart _ _) (fun _ => rfl) ?_ swing_axes ?_ ⟨?_, ?_⟩ ?_ fun _ => rfl
  · have homega : swingState.angularVelocityBody = fun _ => 1 / 2 := rfl
    have halpha : swingState.angularAccelerationBody = 0 := rfl
    rw [not_or, not_lt, not_lt, homega, halpha, realMotion_norm_zero, realMotion_norm_const _ (by norm_num)]
    simp only [swingUnit, swingConfig, kSeedHeadroom]
    exact ⟨by linarith, by linarith⟩
  · rw [hduration]
    norm_num
  · rw [hangle, realMotion_norm_const _ (by norm_num)]
    simp only [swingUnit, swingConfig]
    linarith
  · rw [hduration, hvel, realMotion_norm6_zero]
    exact htol
  · rw [hduration, hacc, realMotion_norm6_zero]
    exact htol
  · rw [realMotion_norm_zero]
    exact htol

/-- A brake that has not been started. -/
noncomputable def swingBrake : BrakeObject ℝ Unit :=
  ⟨swingUnit, ⟨⟨fun _ => restingProfile, 0⟩, 1, 1, 0⟩, false, some .inactive⟩

/-- The start is ready. -/
theorem swing_start : swingBrake.start realMotion (libraryOf (swingProfile : Profile ℝ) (51 / 50)) swingState =
    { swingBrake with accepted := ⟨swingTrajectory, 1, 1, 0⟩, valid := true, status := none } := by
  have hc : swingBrake.unit.certify realMotion (libraryOf (swingProfile : Profile ℝ) (51 / 50)) swingState =
      .ok (swingSeed, ⟨swingTrajectory, 1, 1, 0⟩) := swing_certify
  rw [BrakeObject.start, hc]

/-- The brake of a moving seed is ready, and certified. -/
theorem start_certified_swing :
    let o := swingBrake.start realMotion (libraryOf (swingProfile : Profile ℝ) (51 / 50)) swingState
    o.status = none ∧ ∃ seed, CertifiedBrake realMotion swingUnit seed o.accepted := by
  intro o
  have hstatus : o.status = none := by
    show (swingBrake.start realMotion (libraryOf (swingProfile : Profile ℝ) (51 / 50)) swingState).status = none
    rw [swing_start]
  obtain ⟨-, seed, -, hcert⟩ := (start_certified realMotion_isSqrt
    (libraryOf_consistent swing_consistent (51 / 50)) (swing_new swingProfile (51 / 50)) swingState).1 hstatus
  exact ⟨hstatus, seed, hcert⟩

/-- A ready brake from a seed on the caps, without acceleration: after a fiftieth of a second each axis
has gained the tolerance, and the norm `√3` times as much. -/
theorem swing_exceeds_tolerance :
    let lib := libraryOf (swingProfile : Profile ℝ) (51 / 50)
    let o := swingBrake.start realMotion lib swingState
    BrakeUnit.new realMotion lib swingConfig (1 / 500) = some swingBrake.unit ∧
      (∀ input tr, lib.calculate input = some tr → ∀ i, (tr.profiles i).Consistent) ∧
      o.status = none ∧
      (∀ i : Fin 3, |swingState.angularVelocityBody i| ≤ swingBrake.unit.maxVelocity (Fin.natAdd 3 i) ∧
        swingState.angularAccelerationBody i = 0) ∧
      swingConfig.maxAngularVelocityRadS + swingConfig.feasibilityTolerance <
        realMotion.norm (chartAt o.accepted (1 / 50)).1.angular := by
  intro lib o
  have ho : o = { swingBrake with accepted := ⟨swingTrajectory, 1, 1, 0⟩, valid := true, status := none } := by
    exact swing_start
  refine ⟨swing_new _ _, libraryOf_consistent swing_consistent _, by rw [ho], fun i => ⟨?_, rfl⟩, ?_⟩
  · simp only [swingState, swingBrake, swingUnit, axesOf_natAdd]
    norm_num [abs_of_pos]
  · have hnot : ¬ (51 / 50 : ℝ) ≤ 1 / 50 := by norm_num
    have hchart : (chartAt o.accepted (1 / 50)).1 = axesOf 0 fun _ => 5001 / 10000 := by
      rw [ho]
      simp only [chartAt]
      have hd : swingTrajectory.getDuration = 51 / 50 := rfl
      rw [hd, if_neg hnot, min_eq_left (by norm_num)]
      exact swing_velocity swing_atTime.1
    rw [hchart, axesOf_angular, realMotion_norm_const _ (by norm_num)]
    have h31 : 1 < Real.sqrt 3 := Real.lt_sqrt_of_sq_lt (by norm_num)
    simp only [swingConfig]
    linarith

end RbServo
