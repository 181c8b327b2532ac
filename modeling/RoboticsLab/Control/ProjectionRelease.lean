import RoboticsLab.Control.SafetyFilter
import RoboticsLab.Lib.ReleaseLimiter

/-!
# `rb_servo/control/projection_release.hpp`: the release slew of the geometric projection

The projection may take a correction away from the joint targets at once; it may give it back only
at `slew * dt²` a tick.  `projectionReleaseStep` is one tick and `ReleaseRun` feeds it a sequence of
targets.  A joint of a tick is one step of `ReleaseLimiter.hold` (`correctionStep_eq_hold`).
-/

namespace RbServo

open ReleaseLimiter

section Step

variable {K : Type*} [Field K] [LinearOrder K]

/-- The correction of one joint: `c` asked by the projection, `p` applied on the last tick. -/
def correctionStep (maxReleaseDeg c p : K) : K :=
  if p ≠ 0 then
    let sign : K := if 0 < p then 1 else -1
    let along := c * sign
    let floorMag := |p| - maxReleaseDeg
    if 0 < floorMag ∧ along < floorMag then sign * floorMag else c
  else c

/-- `final_q` and `prev_correction_deg` after the call. -/
def projectionReleaseStep (requestedQ finalQ prevCorrectionDeg : Joints K) (dtSec slewDegS2 : K) :
    Joints K × Joints K :=
  if ¬ 0 < slewDegS2 ∨ ¬ 0 < dtSec then (finalQ, fun j => requestedQ j - finalQ j)
  else
    let maxReleaseDeg := slewDegS2 * dtSec * dtSec
    let c : Joints K := fun j => correctionStep maxReleaseDeg (requestedQ j - finalQ j) (prevCorrectionDeg j)
    (fun j => requestedQ j - c j, c)

/-- The ticks of a run: the targets before and after the projection, with the persisted state. -/
structure ReleaseRun (K : Type*) where
  dtSec : K
  slewDegS2 : K
  prevCorrectionDeg : Joints K
  requestedQ : ℕ → Joints K
  projectedQ : ℕ → Joints K

namespace ReleaseRun

variable (r : ReleaseRun K)

/-- `prev_correction_deg` before tick `n`. -/
def persisted : ℕ → Joints K
  | 0 => r.prevCorrectionDeg
  | n + 1 =>
    (projectionReleaseStep (r.requestedQ n) (r.projectedQ n) (persisted n) r.dtSec r.slewDegS2).2

/-- `final_q` after tick `n`. -/
def finalQ (n : ℕ) : Joints K :=
  (projectionReleaseStep (r.requestedQ n) (r.projectedQ n) (r.persisted n) r.dtSec r.slewDegS2).1

/-- The correction the projection asks for at tick `n`. -/
def asked (n : ℕ) (j : Fin kDof) : K := r.requestedQ n j - r.projectedQ n j

/-- The correction that tick `n` applies. -/
def applied (n : ℕ) (j : Fin kDof) : K := r.requestedQ n j - r.finalQ n j

end ReleaseRun

end Step

section Facts

variable {K : Type*} [Field K] [LinearOrder K] [IsStrictOrderedRing K] {m c p : K}

/-- **The law of a joint.** -/
theorem correctionStep_eq_hold (hm : 0 ≤ m) : correctionStep m c p = hold m p c := by
  by_cases hb : |p| ≤ m
  · have hfloor : ¬ 0 < |p| - m := not_lt.mpr (sub_nonpos.mpr hb)
    simp [correctionStep, hfloor, hold_of_abs_le hb]
  · have hfloor : 0 < |p| - m := sub_pos.mpr (not_le.mp hb)
    rcases sides_of_lt_abs hm (not_le.mp hb) with ⟨h0, hp⟩ | ⟨h0, hp⟩
    · rw [hold_of_pos hp h0]
      rw [abs_of_pos h0] at hfloor
      simp only [correctionStep, abs_of_pos h0, h0, h0.ne', hfloor, ne_eq, not_false_eq_true, if_true,
        true_and, mul_one, one_mul]
      split
      · next hlt => exact (max_eq_right hlt.le).symm
      · next hge => exact (max_eq_left (not_lt.mp hge)).symm
    · rw [hold_of_neg hp h0]
      rw [abs_of_neg h0] at hfloor
      simp only [correctionStep, abs_of_neg h0, not_lt.mpr h0.le, h0.ne, hfloor, ne_eq, not_false_eq_true,
        if_true, if_false, true_and, mul_neg, mul_one, neg_mul, one_mul]
      split
      · next hlt => rw [min_eq_right (by linarith)]; ring
      · next hge => exact (min_eq_left (by linarith [not_lt.mp hge])).symm

namespace ReleaseRun

variable {r : ReleaseRun K}

/-- The largest correction a tick may give back. -/
def maxReleaseDeg (r : ReleaseRun K) : K := r.slewDegS2 * r.dtSec ^ 2

theorem maxReleaseDeg_pos (hslew : 0 < r.slewDegS2) (hdt : 0 < r.dtSec) : 0 < r.maxReleaseDeg :=
  mul_pos hslew (pow_pos hdt 2)

omit [IsStrictOrderedRing K] in
/-- What a tick applies is what it persists. -/
theorem applied_eq_persisted (n : ℕ) (j : Fin kDof) : r.applied n j = r.persisted (n + 1) j := by
  simp only [applied, finalQ, persisted, projectionReleaseStep]
  split
  · rfl
  · exact sub_sub_cancel _ _

theorem persisted_succ (hslew : 0 < r.slewDegS2) (hdt : 0 < r.dtSec) (n : ℕ) (j : Fin kDof) :
    r.persisted (n + 1) j = hold r.maxReleaseDeg (r.persisted n j) (r.asked n j) := by
  rw [← correctionStep_eq_hold (maxReleaseDeg_pos hslew hdt).le]
  simp only [persisted, projectionReleaseStep, hslew, hdt, not_true_eq_false, or_self, if_false, asked,
    maxReleaseDeg, pow_two, mul_assoc]

/-- **A joint of a run is a run of the limiter.** -/
theorem persisted_eq_outputs (hslew : 0 < r.slewDegS2) (hdt : 0 < r.dtSec) (j : Fin kDof) (n : ℕ) :
    r.persisted n j = outputs r.maxReleaseDeg (r.prevCorrectionDeg j) (fun i => r.asked i j) n := by
  induction n with
  | zero => rfl
  | succ n ih => rw [persisted_succ hslew hdt, ih, outputs]

/-- **The release is rate-limited.**  At every tick of every run a demand of at least the last
correction is applied as it is; a smaller or reversed one gives back at most `slew * dt²` and keeps
the sign; nothing overshoots; and a ramp without demands ends at zero within
`⌈|c| / (slew * dt²)⌉` ticks. -/
theorem release_limited [FloorSemiring K] (r : ReleaseRun K) (hslew : 0 < r.slewDegS2) (hdt : 0 < r.dtSec)
    (n : ℕ) (j : Fin kDof) :
    (AsksAtLeast (r.persisted n j) (r.asked n j) → r.applied n j = r.asked n j) ∧
    (¬ AsksAtLeast (r.persisted n j) (r.asked n j) → r.slewDegS2 * r.dtSec ^ 2 < |r.persisted n j| →
      |r.persisted n j| - r.slewDegS2 * r.dtSec ^ 2 ≤ |r.applied n j| ∧
        0 < r.applied n j * r.persisted n j) ∧
    |r.applied n j| ≤ max |r.asked n j| |r.persisted n j| ∧
    r.persisted (n + 1) j = r.applied n j ∧
    ∀ k, ⌈|r.persisted n j| / (r.slewDegS2 * r.dtSec ^ 2)⌉₊ ≤ k → (∀ i < k, r.asked (n + i) j = 0) →
      r.persisted (n + k) j = 0 := by
  have hm := maxReleaseDeg_pos hslew hdt
  have happlied : r.applied n j = hold r.maxReleaseDeg (r.persisted n j) (r.asked n j) := by
    rw [applied_eq_persisted, persisted_succ hslew hdt]
  refine ⟨fun h => ?_, fun _ hout => ⟨?_, ?_⟩, ?_, (applied_eq_persisted n j).symm, fun k hk hzero => ?_⟩
  · rw [happlied]
    exact hold_of_asksAtLeast hm.le h
  · rw [happlied]
    exact sub_le_abs_hold hm.le
  · rw [happlied]
    exact hold_mul_pos hm.le hout
  · rw [happlied]
    exact abs_hold_le hm.le
  · rw [persisted_eq_outputs hslew hdt] at hk ⊢
    exact outputs_eq_zero_of_no_demand hm _ n k hzero hk

end ReleaseRun

end Facts

namespace ReleaseRun

/-- A correction of 12.28 deg/s that drops to 3.93 for one tick and is then released. -/
def dropout : ReleaseRun ℚ where
  dtSec := 1 / 500
  slewDegS2 := 400
  prevCorrectionDeg := 0
  requestedQ := fun _ _ => 0
  projectedQ := fun n _ => if n = 0 then -1228 / 50000 else if n = 1 then -393 / 50000 else 0

theorem release_limited_dropout :
    |dropout.persisted 1 (0 : Fin 6)| - 400 * (1 / 500) ^ 2 ≤ |dropout.applied 1 (0 : Fin 6)| ∧
      0 < dropout.applied 1 (0 : Fin 6) * dropout.persisted 1 (0 : Fin 6) ∧
      dropout.persisted (2 + 15) (0 : Fin 6) = 0 := by
  have hslew : (0 : ℚ) < dropout.slewDegS2 := by decide +kernel
  have hdt : (0 : ℚ) < dropout.dtSec := by decide +kernel
  obtain ⟨-, hdrop, -⟩ := release_limited dropout hslew hdt 1 (0 : Fin 6)
  obtain ⟨hfloor, hsign⟩ := hdrop (by unfold AsksAtLeast; decide +kernel) (by decide +kernel)
  obtain ⟨-, -, -, -, hramp⟩ := release_limited dropout hslew hdt 2 (0 : Fin 6)
  refine ⟨hfloor, hsign, hramp 15 (by decide +kernel) fun i _ => ?_⟩
  have hi : 2 + i ≠ 0 ∧ 2 + i ≠ 1 := by omega
  simp [asked, dropout, hi]

end ReleaseRun

end RbServo
