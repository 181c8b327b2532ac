import RoboticsLab.Control.SafetyFilter
import Mathlib.Analysis.Real.Sqrt

/-!
# The closed-loop envelope of the joint clamp chain

Feed the clamp chain its own last two outputs.  The velocity stage bounds the step before the
acceleration stage, which builds a new one: the ramp lies between the old velocity and the bounded
one, the reversal rule shortens it, an accepted overshoot clip falls short of the ramp on one side
and is no faster than the old velocity on the other, and the final range clamp moves the output
towards the previous command.  So one step keeps the envelope (`clampMotionDetailed_envelope`), and

    q₀, q₁ in range, |q₁ - q₀| ≤ dq_max * dt →
      ∀ n, qₙ in range ∧ |qₙ₊₁ - qₙ| ≤ dq_max * dt                         (commands_envelope)
-/

namespace RbServo

open Clamp

variable {K : Type*} [Field K] [LinearOrder K]

/-- Limits the filter can keep. -/
structure SafetyConfig.Valid (c : SafetyConfig K) : Prop where
  range : ∀ i, c.qMinDeg i < c.qMaxDeg i
  velocity : ∀ i, 0 ≤ c.dqMaxDegS i
  acceleration : ∀ i, 0 ≤ c.ddqMaxDegS2 i

def InRange (c : SafetyConfig K) (q : Joints K) : Prop :=
  ∀ i, c.qMinDeg i ≤ q i ∧ q i ≤ c.qMaxDeg i

def StepWithin (c : SafetyConfig K) (dt : K) (qPrev q : Joints K) : Prop :=
  ∀ i, |q i - qPrev i| ≤ c.dqMaxDegS i * dt

/-- The commands of a closed loop: from the third on, the filter's output on the two before. -/
def commands (c : SafetyConfig K) (sqrt : K → K) (dt : K) (desired : ℕ → Joints K)
    (q0 q1 : Joints K) : ℕ → Joints K
  | 0 => q0
  | 1 => q1
  | n + 2 =>
    (clampMotionDetailed c sqrt (desired (n + 1)) (commands c sqrt dt desired q0 q1 (n + 1))
      (commands c sqrt dt desired q0 q1 n) dt).qAfterAccelLimitDeg

theorem overshootBudget_nonneg (c : SafetyConfig K) : 0 ≤ overshootBudget c := le_max_left _ _

/-! ## One joint -/

section Joint

variable [IsStrictOrderedRing K] {c : SafetyConfig K} {dt : K}

/-- A ramp ends between where it starts and its target. -/
theorem rampVel_between {limit : K} (hl : 0 ≤ limit) (target prevVel : K) :
    (prevVel ≤ rampVel limit target prevVel ∧ rampVel limit target prevVel ≤ target) ∨
      (target ≤ rampVel limit target prevVel ∧ rampVel limit target prevVel ≤ prevVel) := by
  unfold rampVel
  have h := clamp_between (v := target - prevVel) (neg_nonpos.mpr hl) hl
  rcases h with ⟨h1, h2⟩ | ⟨h1, h2⟩
  · exact Or.inl ⟨by linarith, by linarith⟩
  · exact Or.inr ⟨by linarith, by linarith⟩

theorem le_rampVel {limit target prevVel b : K} (hl : 0 ≤ limit) (ht : b ≤ target)
    (hp : b ≤ prevVel) : b ≤ rampVel limit target prevVel := by
  rcases rampVel_between hl target prevVel with ⟨h, -⟩ | ⟨h, -⟩
  · exact hp.trans h
  · exact ht.trans h

theorem rampVel_le {limit target prevVel b : K} (hl : 0 ≤ limit) (ht : target ≤ b)
    (hp : prevVel ≤ b) : rampVel limit target prevVel ≤ b := by
  rcases rampVel_between hl target prevVel with ⟨-, h⟩ | ⟨-, h⟩
  · exact h.trans ht
  · exact h.trans hp

theorem abs_rampVel_le {limit target prevVel v : K} (hl : 0 ≤ limit) (ht : |target| ≤ v)
    (hp : |prevVel| ≤ v) : |rampVel limit target prevVel| ≤ v := by
  rw [abs_le] at ht hp ⊢
  exact ⟨le_rampVel hl ht.1 hp.1, rampVel_le hl ht.2 hp.2⟩

theorem abs_reversalRule_le {maxDv : K} (hm : 0 ≤ maxDv) (prevVel vel : K) :
    |reversalRule maxDv prevVel vel| ≤ |vel| := by
  unfold reversalRule
  split
  · rw [abs_copysign, abs_of_nonneg (le_min (abs_nonneg vel) hm)]
    exact min_le_left _ _
  · exact le_rfl

theorem dvLimit_nonneg {maxDv : K} (hm : 0 ≤ maxDv) (desiredVel prevVel : K) :
    0 ≤ dvLimit c maxDv desiredVel prevVel := by
  have hratio : 0 ≤ decelRatio c := zero_le_one.trans (le_max_left _ _)
  unfold dvLimit
  split
  · exact mul_nonneg hm hratio
  · exact hm

/-- The clip's own velocity never points away from the target faster than the old one did. -/
theorem clip_step_ge {limit prevVel clipVel v : K} (hdt : 0 < dt) (hl : 0 ≤ limit) (hv : 0 ≤ v)
    (hp : |prevVel| ≤ v) (hc : 0 ≤ clipVel) : -(v * dt) ≤ rampVel limit clipVel prevVel * dt := by
  have hneg : -v ≤ 0 := neg_nonpos.mpr hv
  have hvel : -v ≤ rampVel limit clipVel prevVel :=
    le_rampVel hl (hneg.trans hc) (abs_le.mp hp).1
  rw [← neg_mul]
  exact mul_le_mul_of_nonneg_right hvel hdt.le

theorem clip_step_le {limit prevVel clipVel v : K} (hdt : 0 < dt) (hl : 0 ≤ limit) (hv : 0 ≤ v)
    (hp : |prevVel| ≤ v) (hc : clipVel ≤ 0) : rampVel limit clipVel prevVel * dt ≤ v * dt := by
  have hvel : rampVel limit clipVel prevVel ≤ v := rampVel_le hl (hc.trans hv) (abs_le.mp hp).2
  exact mul_le_mul_of_nonneg_right hvel hdt.le

/-- The overshoot clip keeps the step bounded. -/
theorem abs_limitOvershoot_sub_le {limit prevVel q qPrev out v : K} (hdt : 0 < dt)
    (hl : 0 ≤ limit) (hp : |prevVel| ≤ v) (hq : |q - qPrev| ≤ v * dt)
    (ho : |out - qPrev| ≤ v * dt) :
    |limitOvershoot c dt limit prevVel q qPrev out - qPrev| ≤ v * dt := by
  have hv : 0 ≤ v := (abs_nonneg prevVel).trans hp
  have hbudget := overshootBudget_nonneg c
  have hout := abs_le.mp ho
  unfold limitOvershoot
  have hdir : ((if qPrev ≤ q then 1 else -1 : K) = 1 ∧ qPrev ≤ q) ∨
      ((if qPrev ≤ q then 1 else -1 : K) = -1 ∧ q ≤ qPrev) := by
    by_cases h : qPrev ≤ q
    · exact Or.inl ⟨if_pos h, h⟩
    · exact Or.inr ⟨if_neg h, (not_le.mp h).le⟩
  generalize (if qPrev ≤ q then 1 else -1 : K) = dir at hdir ⊢
  dsimp only
  split
  · split
    · exact hq
    · split
      · next hacc =>
        -- an accepted candidate lies behind the ramp, seen in the direction of the target
        rw [abs_le]
        rcases hdir with ⟨rfl, hle⟩ | ⟨rfl, hle⟩
        · have hclip : 0 ≤ (q + 1 * overshootBudget c - qPrev) / dt :=
            div_nonneg (by linarith) hdt.le
          have hlow := clip_step_ge hdt hl hv hp hclip
          exact ⟨by linarith, by linarith⟩
        · have hclip : (q + -1 * overshootBudget c - qPrev) / dt ≤ 0 :=
            div_nonpos_of_nonpos_of_nonneg (by linarith) hdt.le
          have hhigh := clip_step_le hdt hl hv hp hclip
          exact ⟨by linarith, by linarith⟩
      · exact ho
  · exact ho

/-- The acceleration stage keeps a step the velocity stage bounded. -/
theorem abs_accelJoint_sub_le {i : Fin kDof} {q qPrev qPrevprev v : K} (hdt : 0 < dt)
    (hddq : 0 ≤ c.ddqMaxDegS2 i) (hq : |q - qPrev| ≤ v * dt) (hprev : |qPrev - qPrevprev| ≤ v * dt) :
    |accelJoint c dt i q qPrev qPrevprev - qPrev| ≤ v * dt := by
  have hmax : 0 ≤ c.ddqMaxDegS2 i * dt := mul_nonneg hddq hdt.le
  have hvel : ∀ {x : K}, |x| ≤ v * dt → |x / dt| ≤ v := by
    intro x hx
    rw [abs_div, abs_of_pos hdt]
    exact (div_le_iff₀ hdt).mpr hx
  have hl := dvLimit_nonneg (c := c) hmax ((q - qPrev) / dt) ((qPrev - qPrevprev) / dt)
  have hramp := abs_rampVel_le hl (hvel hq) (hvel hprev)
  apply abs_limitOvershoot_sub_le hdt hl (hvel hprev) hq
  rw [add_sub_cancel_left, abs_mul, abs_of_pos hdt]
  exact mul_le_mul_of_nonneg_right ((abs_reversalRule_le hmax _ _).trans hramp) hdt.le

end Joint

/-! ## The loop -/

section Loop

variable [IsStrictOrderedRing K] {c : SafetyConfig K} {sqrt : K → K} {dt : K}

theorem clampVelocity_stepWithin (hc : c.Valid) (hdt : 0 < dt) (q qPrev : Joints K) :
    StepWithin c dt qPrev (clampVelocity c q qPrev dt) := by
  intro i
  unfold clampVelocity
  rw [if_neg (not_le.mpr hdt)]
  show |qPrev i + _ - qPrev i| ≤ _
  rw [add_sub_cancel_left]
  exact abs_clamp_le (mul_nonneg (hc.velocity i) hdt.le)

/-- **One step.**  From two commands in the envelope, the filter's output is in it too. -/
theorem clampMotionDetailed_envelope (hc : c.Valid) (hdt : 0 < dt) (desired : Joints K)
    {qPrev qPrevprev : Joints K} (hrange : InRange c qPrev) (hstep : StepWithin c dt qPrevprev qPrev) :
    InRange c (clampMotionDetailed c sqrt desired qPrev qPrevprev dt).qAfterAccelLimitDeg ∧
      StepWithin c dt qPrev
        (clampMotionDetailed c sqrt desired qPrev qPrevprev dt).qAfterAccelLimitDeg := by
  have hvel := clampVelocity_stepWithin hc hdt
    (applyJointLimitBarrier c sqrt (clampJointLimits c desired).1 qPrev dt) qPrev
  show InRange c (clampAcceleration c _ qPrev qPrevprev dt) ∧
    StepWithin c dt qPrev (clampAcceleration c _ qPrev qPrevprev dt)
  unfold clampAcceleration
  rw [if_neg (not_le.mpr hdt)]
  constructor
  · intro i
    dsimp only
    rw [if_pos (hc.range i)]
    exact ⟨le_clamp (hc.range i).le, clamp_le (hc.range i).le⟩
  · intro i
    dsimp only
    rw [if_pos (hc.range i)]
    apply le_trans (abs_clamp_sub_le (hrange i).1 (hrange i).2)
    exact abs_accelJoint_sub_le hdt (hc.acceleration i) (hvel i) (hstep i)

end Loop

/-- **The whole run.**  The commands never leave the range and never move faster than `dq_max`. -/
theorem commands_envelope {c : SafetyConfig ℝ} (hc : c.Valid) {dt : ℝ} (hdt : 0 < dt)
    (desired : ℕ → Joints ℝ) {q0 q1 : Joints ℝ} (h0 : InRange c q0) (h1 : InRange c q1)
    (hstep : StepWithin c dt q0 q1) (n : ℕ) :
    InRange c (commands c Real.sqrt dt desired q0 q1 n) ∧
      StepWithin c dt (commands c Real.sqrt dt desired q0 q1 n)
        (commands c Real.sqrt dt desired q0 q1 (n + 1)) := by
  -- the filter reads the last two commands, so the range of both goes into the induction
  suffices h : InRange c (commands c Real.sqrt dt desired q0 q1 n) ∧
      InRange c (commands c Real.sqrt dt desired q0 q1 (n + 1)) ∧
      StepWithin c dt (commands c Real.sqrt dt desired q0 q1 n)
        (commands c Real.sqrt dt desired q0 q1 (n + 1)) from ⟨h.1, h.2.2⟩
  induction n with
  | zero => exact ⟨h0, h1, hstep⟩
  | succ n ih =>
    obtain ⟨-, hr, hs⟩ := ih
    exact ⟨hr, clampMotionDetailed_envelope hc hdt (desired (n + 1)) hr hs⟩

/-- Bounded deceleration, an overshoot budget and the barrier all on. -/
def sampleSafety : SafetyConfig K where
  qMinDeg _ := -150
  qMaxDeg _ := 150
  dqMaxDegS _ := 180
  ddqMaxDegS2 _ := 3000
  ddqMaxDecelRatio := 4
  decelOvershootBudgetDeg := 1
  jointLimitBarrier := { enable := true, dSlowDeg := fun _ => 5, aBrakeDegS2 := fun _ => 1500 }

theorem commands_envelope_sample :
    (sampleSafety : SafetyConfig ℝ).Valid ∧
      InRange sampleSafety (commands sampleSafety Real.sqrt (1 / 500) (fun _ _ => (200 : ℝ))
        (fun _ => 0) (fun _ => 0) 400) := by
  have hvalid : (sampleSafety : SafetyConfig ℝ).Valid := by
    constructor <;> intro i <;> norm_num [sampleSafety]
  have hrest : InRange (sampleSafety : SafetyConfig ℝ) fun _ => 0 := by
    intro i
    constructor <;> norm_num [sampleSafety]
  have hstill : StepWithin (sampleSafety : SafetyConfig ℝ) (1 / 500) (fun _ => 0) (fun _ => 0) := by
    intro i
    norm_num [sampleSafety]
  exact ⟨hvalid, (commands_envelope hvalid (by norm_num) (fun _ _ => 200) hrest hrest hstill 400).1⟩

end RbServo
