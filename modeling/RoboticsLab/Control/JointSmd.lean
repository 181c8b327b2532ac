import RoboticsLab.Control.SafetyFilter
import Mathlib.Tactic.Linarith
import Mathlib.Tactic.Ring
import Mathlib.Tactic.LinearCombination

/-!
# `rb_servo/control/joint_smd_tracker.hpp`: the joint spring-mass-damper

The published joint target follows its goal as a damped spring, stepped at the servo rate:

    ddq = wn²·(goal - q) - 2·ζ·wn·dq,   dq += ddq·dt,   q += dq·dt

with the goal slewed by the jerk budget, the acceleration and the velocity clamped for each joint,
and a uniform speed cap near a final stop.  From rest, while no clamp and no cap acts, every joint
runs the same scalar recursion for its share of the way: `s` of the travel done, `g` of the goal's
lead, and `u` the last step.  The cone

    0 ≤ u,   0 ≤ s ≤ g ≤ 1,   (1 - x)·u ≤ x·(g - s)          (x = wn·dt ≤ 1/2)

is kept by a step of that recursion (`Share.Cone.step`), so the joints move along the straight line
to the goal, never back and never past it (`smd_straight_profile`).
-/

namespace RbServo

open Clamp

/-! ## Data -/

/-- `enable` is read by the trajectory filter only; `maxJerkDegS3` is `none` when not finite. -/
structure JointTargetSmdConfig (K : Type*) where
  dampingRatio : K
  naturalFrequencyHz : K
  maxVelocityDegS : Joints K
  maxAccelDegS2 : Joints K
  arrivalTaperEnable : Bool
  arrivalDecelDegS2 : K
  arrivalMinSpeedDegS : K
  maxJerkDegS3 : Option K

structure JointSmdTracker (K : Type*) where
  active : Bool
  q : Joints K
  dq : Joints K
  /-- The effective goal, which the departure taper slews towards `goalCmd`. -/
  goal : Joints K
  goalCmd : Joints K
  arrivalStop : Joints K
  hasArrivalStop : Bool

section Algorithm

variable {K : Type*} [Field K] [LinearOrder K]

/-! ## Algorithm -/

/-- A new tracker: inactive, all joints at zero. -/
def JointSmdTracker.new : JointSmdTracker K where
  active := false
  q := fun _ => 0
  dq := fun _ => 0
  goal := fun _ => 0
  goalCmd := fun _ => 0
  arrivalStop := fun _ => 0
  hasArrivalStop := false

variable (cfg : JointTargetSmdConfig K)

/-- A joint velocity that is not finite (`none`) counts as rest. -/
def JointSmdTracker.reset (s : JointSmdTracker K) (qDeg : Joints K) (dqDegS : Fin kDof → Option K) :
    JointSmdTracker K :=
  { s with
    q := qDeg
    dq := fun i => clamp ((dqDegS i).getD 0) (-cfg.maxVelocityDegS i) (cfg.maxVelocityDegS i)
    goal := qDeg
    goalCmd := qDeg
    active := true }

def JointSmdTracker.setGoal (s : JointSmdTracker K) (goalDeg : Joints K) : JointSmdTracker K :=
  { s with goalCmd := goalDeg }

/-- The largest magnitude over the joints, found by the source's loops. -/
def worstJoint (v : Joints K) : K :=
  (List.finRange kDof).foldl (fun worst i => max worst |v i|) 0

/-- The departure taper: the effective goal moves by the jerk budget at most, the same share of the
way for every joint. -/
def slewGoal (wn dt : K) (s : JointSmdTracker K) : JointSmdTracker K :=
  match cfg.maxJerkDegS3 with
  | some jerk =>
    if 0 < jerk ∧ 0 < wn then
      let goalSlew := jerk * dt / (wn * wn)
      let worst := worstJoint fun i => s.goalCmd i - s.goal i
      let scale := if goalSlew < worst then goalSlew / worst else 1
      { s with goal := fun i => s.goal i + scale * (s.goalCmd i - s.goal i) }
    else { s with goal := s.goalCmd }
  | none => { s with goal := s.goalCmd }

/-- The spring's acceleration before its clamp. -/
def springAccel (wn : K) (s : JointSmdTracker K) (i : Fin kDof) : K :=
  wn * wn * (s.goal i - s.q i) - 2 * cfg.dampingRatio * wn * s.dq i

/-- The spring's velocity, its acceleration clamped, before its own clamp. -/
def springVel (wn dt : K) (s : JointSmdTracker K) (i : Fin kDof) : K :=
  s.dq i + clamp (springAccel cfg wn s i) (-cfg.maxAccelDegS2 i) (cfg.maxAccelDegS2 i) * dt

def accelerate (wn dt : K) (s : JointSmdTracker K) : JointSmdTracker K :=
  { s with dq := fun i =>
      clamp (springVel cfg wn dt s i) (-cfg.maxVelocityDegS i) (cfg.maxVelocityDegS i) }

/-- The dominant joint's speed limit on the way into the final stop. -/
def arrivalCap (sqrt : K → K) (s : JointSmdTracker K) : K :=
  let d := worstJoint fun i => s.arrivalStop i - s.q i
  max (sqrt (2 * cfg.arrivalDecelDegS2 * max d 0)) cfg.arrivalMinSpeedDegS

/-- The arrival taper has something to cap. -/
def taperActive (sqrt : K → K) (s : JointSmdTracker K) : Bool :=
  s.hasArrivalStop && cfg.arrivalTaperEnable &&
    decide (arrivalCap cfg sqrt s < worstJoint s.dq) && decide (0 < worstJoint s.dq)

def arrivalTaper (sqrt : K → K) (s : JointSmdTracker K) : JointSmdTracker K :=
  if taperActive cfg sqrt s then
    { s with dq := fun i => s.dq i * (arrivalCap cfg sqrt s / worstJoint s.dq) }
  else s

def integrate (dt : K) (s : JointSmdTracker K) : JointSmdTracker K :=
  { s with q := fun i => s.q i + s.dq i * dt }

/-- `wn`, with the number the source takes for π. -/
def naturalAngularFrequency (pi : K) : K := 2 * pi * cfg.naturalFrequencyHz

/-- `JointSmdTracker::step`, whose result is the new `q`; `dtSec` is `none` when not finite. -/
def JointSmdTracker.step (pi : K) (sqrt : K → K) (s : JointSmdTracker K) (dtSec : Option K) :
    JointSmdTracker K :=
  match dtSec with
  | none => s
  | some dt =>
    if 0 < dt then
      let wn := naturalAngularFrequency cfg pi
      integrate dt (arrivalTaper cfg sqrt (accelerate cfg wn dt (slewGoal cfg wn dt s)))
    else s

end Algorithm

/-! ## The share of the way -/

/-- The scalar recursion that every joint runs: `done` of its travel, `last` the share of the last
step, `lead` the share of the effective goal. -/
structure Share (K : Type*) where
  done : K
  last : K
  lead : K

section Cone

variable {K : Type*} [Field K] [LinearOrder K] [IsStrictOrderedRing K]

def Share.advance (x damping : K) (p : Share K) (lead : K) : Share K :=
  let last := (1 - 2 * damping * x) * p.last + x * x * (lead - p.done)
  { done := p.done + last, last := last, lead := lead }

omit [LinearOrder K] [IsStrictOrderedRing K] in
theorem Share.advance_done (x damping : K) (p : Share K) (lead : K) :
    (p.advance x damping lead).done = p.done + (p.advance x damping lead).last := rfl

/-- The invariant cone: the last step is small against the lead that is left. -/
structure Share.Cone (x : K) (p : Share K) : Prop where
  forward : 0 ≤ p.last
  started : 0 ≤ p.done
  behind : p.done ≤ p.lead
  short : p.lead ≤ 1
  slope : (1 - x) * p.last ≤ x * (p.lead - p.done)

theorem cone_start (x : K) : Share.Cone x ⟨0, 0, 0⟩ :=
  ⟨le_rfl, le_rfl, le_rfl, zero_le_one, by simp⟩

/-- **One step** of the recursion stays in the cone, for every slew of the lead. -/
theorem Share.Cone.step {x damping lead : K} {p : Share K} (h : p.Cone x) (hx : 0 ≤ x)
    (hhalf : x ≤ 1 / 2) (hdamped : 1 ≤ damping) (hstable : 2 * damping * x ≤ 1)
    (hlead : p.lead ≤ lead) (hshort : lead ≤ 1) : (p.advance x damping lead).Cone x := by
  have hgap : 0 ≤ lead - p.done := by linarith [h.behind]
  have hslope : (1 - x) * p.last ≤ x * (lead - p.done) :=
    h.slope.trans (mul_le_mul_of_nonneg_left (by linarith) hx)
  have hlast : 0 ≤ (p.advance x damping lead).last :=
    add_nonneg (mul_nonneg (by linarith) h.forward) (mul_nonneg (mul_nonneg hx hx) hgap)
  -- the new step is at most the share `x` of the lead that was left
  have hsmall : (p.advance x damping lead).last ≤ x * (lead - p.done) := by
    have hfactor : 1 - 2 * damping * x ≤ 1 - 2 * x := by nlinarith
    have hdecay : (1 - 2 * damping * x) * p.last ≤ (1 - 2 * x) * p.last :=
      mul_le_mul_of_nonneg_right hfactor h.forward
    have hcore : (1 - 2 * x) * p.last ≤ (1 - x) * (x * (lead - p.done)) := by
      have hsquare : (1 - 2 * x) * p.last ≤ (1 - x) * ((1 - x) * p.last) := by
        nlinarith [mul_nonneg (mul_nonneg hx hx) h.forward]
      exact hsquare.trans (mul_le_mul_of_nonneg_left hslope (by linarith))
    show (1 - 2 * damping * x) * p.last + x * x * (lead - p.done) ≤ x * (lead - p.done)
    calc (1 - 2 * damping * x) * p.last + x * x * (lead - p.done)
        ≤ (1 - x) * (x * (lead - p.done)) + x * x * (lead - p.done) := by linarith
      _ = x * (lead - p.done) := by ring
  have hdone := Share.advance_done x damping p lead
  refine ⟨hlast, ?_, ?_, hshort, ?_⟩
  · rw [hdone]
    exact add_nonneg h.started hlast
  · show (p.advance x damping lead).done ≤ lead
    rw [hdone]
    nlinarith
  · show (1 - x) * (p.advance x damping lead).last ≤ x * (lead - (p.advance x damping lead).done)
    rw [hdone]
    linarith

end Cone

/-! ## Statement -/

section Profile

variable {K : Type*} [Field K] [LinearOrder K]

/-- The tracker of a move: reset at rest in `q₀`, then given the goal. -/
def fromRest (cfg : JointTargetSmdConfig K) (s : JointSmdTracker K) (q₀ goal : Joints K) :
    JointSmdTracker K :=
  (s.reset cfg q₀ fun _ => some 0).setGoal goal

/-- The tracker after `n` steps of `dt`. -/
def smdAfter (cfg : JointTargetSmdConfig K) (pi : K) (sqrt : K → K) (dt : K) (s : JointSmdTracker K) :
    ℕ → JointSmdTracker K
  | 0 => s
  | n + 1 => (smdAfter cfg pi sqrt dt s n).step cfg pi sqrt (some dt)

/-- Neither clamp changes a joint and the arrival taper has nothing to cap. -/
structure FreeStep (cfg : JointTargetSmdConfig K) (wn : K) (sqrt : K → K) (dt : K)
    (s : JointSmdTracker K) : Prop where
  accel : ∀ i, clamp (springAccel cfg wn (slewGoal cfg wn dt s) i) (-cfg.maxAccelDegS2 i)
    (cfg.maxAccelDegS2 i) = springAccel cfg wn (slewGoal cfg wn dt s) i
  velocity : ∀ i, clamp (springVel cfg wn dt (slewGoal cfg wn dt s) i) (-cfg.maxVelocityDegS i)
    (cfg.maxVelocityDegS i) = springVel cfg wn dt (slewGoal cfg wn dt s) i
  taper : taperActive cfg sqrt (accelerate cfg wn dt (slewGoal cfg wn dt s)) = false

/-- One share `s n` for all joints, from 0, never falling and never past 1; so each joint nears its
goal and stays on its own side of it. -/
structure StraightProfile (q₀ goal : Joints K) (q : ℕ → Joints K) (s : ℕ → K) (N : ℕ) : Prop where
  start : s 0 = 0
  between : ∀ n ≤ N, 0 ≤ s n ∧ s n ≤ 1
  line : ∀ n ≤ N, ∀ i, q n i = q₀ i + s n * (goal i - q₀ i)
  mono : ∀ n < N, s n ≤ s (n + 1)
  nearer : ∀ n < N, ∀ i, |goal i - q (n + 1) i| ≤ |goal i - q n i|
  notPast : ∀ n ≤ N, ∀ i, 0 ≤ (goal i - q n i) * (goal i - q₀ i)

/-- The tracker runs the recursion `p` for each joint. -/
structure Follows (q₀ goal : Joints K) (dt : K) (p : Share K) (s : JointSmdTracker K) : Prop where
  position : ∀ i, s.q i = q₀ i + p.done * (goal i - q₀ i)
  velocity : ∀ i, s.dq i * dt = p.last * (goal i - q₀ i)
  effective : ∀ i, s.goal i = q₀ i + p.lead * (goal i - q₀ i)
  commanded : s.goalCmd = goal

end Profile

/-! ## The taper -/

section Run

variable {K : Type*} [Field K] [LinearOrder K] [IsStrictOrderedRing K]

/-- The departure taper moves every joint by one share of what is left. -/
theorem slewGoal_share (cfg : JointTargetSmdConfig K) (wn : K) {dt : K} (hdt : 0 < dt)
    (s : JointSmdTracker K) :
    ∃ scale : K, 0 ≤ scale ∧ scale ≤ 1 ∧ slewGoal cfg wn dt s =
      { s with goal := fun i => s.goal i + scale * (s.goalCmd i - s.goal i) } := by
  have hwhole : ({ s with goal := s.goalCmd } : JointSmdTracker K) =
      { s with goal := fun i => s.goal i + 1 * (s.goalCmd i - s.goal i) } := by
    congr
    funext i
    ring
  unfold slewGoal
  cases cfg.maxJerkDegS3 with
  | none => exact ⟨1, zero_le_one, le_rfl, hwhole⟩
  | some jerk =>
    dsimp only
    split
    · next hon =>
      have hslew : 0 < jerk * dt / (wn * wn) := div_pos (mul_pos hon.1 hdt) (mul_pos hon.2 hon.2)
      refine ⟨_, ?_, ?_, rfl⟩
      · split
        · next hworst => exact div_nonneg hslew.le (hslew.trans hworst).le
        · exact zero_le_one
      · split
        · next hworst => exact (div_le_one (hslew.trans hworst)).mpr hworst.le
        · exact le_rfl
    · exact ⟨1, zero_le_one, le_rfl, hwhole⟩

/-! ## Runs -/

variable {cfg : JointTargetSmdConfig K} {pi : K} {sqrt : K → K} {dt : K} {q₀ goal : Joints K}

omit [IsStrictOrderedRing K] in
/-- A free step is the spring's own recursion, on the slewed goal. -/
theorem step_free {s : JointSmdTracker K} (hdt : 0 < dt)
    (hfree : FreeStep cfg (naturalAngularFrequency cfg pi) sqrt dt s) :
    let t := slewGoal cfg (naturalAngularFrequency cfg pi) dt s
    let dq : Joints K := fun i => t.dq i + springAccel cfg (naturalAngularFrequency cfg pi) t i * dt
    s.step cfg pi sqrt (some dt) = { t with dq := dq, q := fun i => t.q i + dq i * dt } := by
  intro t dq
  have hvel : accelerate cfg (naturalAngularFrequency cfg pi) dt t = { t with dq := dq } := by
    unfold accelerate
    congr
    funext i
    rw [hfree.velocity i]
    unfold springVel
    rw [hfree.accel i]
  have htaper : arrivalTaper cfg sqrt { t with dq := dq } = { t with dq := dq } := by
    unfold arrivalTaper
    rw [← hvel, hfree.taper]
    rfl
  have hstep : s.step cfg pi sqrt (some dt) = integrate dt (arrivalTaper cfg sqrt
      (accelerate cfg (naturalAngularFrequency cfg pi) dt t)) := by
    simp only [JointSmdTracker.step, hdt, if_true]
    rfl
  rw [hstep, hvel, htaper]
  rfl

/-- **One free step** is one step of the recursion, with the lead slewed. -/
theorem Follows.step {p : Share K} {s : JointSmdTracker K} (h : Follows q₀ goal dt p s) (hdt : 0 < dt)
    (hshort : p.lead ≤ 1) (hfree : FreeStep cfg (naturalAngularFrequency cfg pi) sqrt dt s) :
    ∃ lead, p.lead ≤ lead ∧ lead ≤ 1 ∧
      Follows q₀ goal dt (p.advance (naturalAngularFrequency cfg pi * dt) cfg.dampingRatio lead)
        (s.step cfg pi sqrt (some dt)) := by
  have hstep := step_free hdt hfree
  generalize naturalAngularFrequency cfg pi = wn at hstep hfree ⊢
  obtain ⟨scale, h0, h1, hslew⟩ := slewGoal_share cfg wn hdt s
  refine ⟨p.lead + scale * (1 - p.lead), ?_, ?_, ?_⟩
  · exact le_add_of_nonneg_right (mul_nonneg h0 (by linarith))
  · nlinarith
  · have hgoal : ∀ i, s.goal i + scale * (s.goalCmd i - s.goal i) =
        q₀ i + (p.lead + scale * (1 - p.lead)) * (goal i - q₀ i) := by
      intro i
      rw [h.effective i, h.commanded]
      ring
    have hvel : ∀ i, (s.dq i + (wn * wn * (s.goal i + scale * (s.goalCmd i - s.goal i) - s.q i) -
          2 * cfg.dampingRatio * wn * s.dq i) * dt) * dt =
        (p.advance (wn * dt) cfg.dampingRatio (p.lead + scale * (1 - p.lead))).last *
          (goal i - q₀ i) := by
      intro i
      rw [hgoal i, h.position i]
      show _ = ((1 - 2 * cfg.dampingRatio * (wn * dt)) * p.last +
        wn * dt * (wn * dt) * (p.lead + scale * (1 - p.lead) - p.done)) * (goal i - q₀ i)
      linear_combination (1 - 2 * cfg.dampingRatio * wn * dt) * h.velocity i
    rw [hslew] at hstep
    rw [hstep]
    refine ⟨fun i => ?_, hvel, hgoal, h.commanded⟩
    refine (congrArg (s.q i + ·) (hvel i)).trans ?_
    show s.q i + _ = _
    rw [Share.advance_done, h.position i]
    ring

theorem follows_fromRest (hv : ∀ i, 0 ≤ cfg.maxVelocityDegS i) (s : JointSmdTracker K) :
    Follows q₀ goal dt ⟨0, 0, 0⟩ (fromRest cfg s q₀ goal) := by
  have hrest : ∀ i, (fromRest cfg s q₀ goal).dq i = 0 := by
    intro i
    show clamp 0 (-cfg.maxVelocityDegS i) (cfg.maxVelocityDegS i) = 0
    unfold clamp
    rw [if_neg (by linarith [hv i]), if_neg (by linarith [hv i])]
  refine ⟨fun i => ?_, fun i => ?_, fun i => ?_, rfl⟩
  · simp [fromRest, JointSmdTracker.reset, JointSmdTracker.setGoal]
  · rw [hrest i]
    simp
  · simp [fromRest, JointSmdTracker.reset, JointSmdTracker.setGoal]

/-- **A run of free steps** follows the recursion, inside the cone. -/
theorem exists_shares (hdt : 0 < dt) (hwn : 0 < naturalAngularFrequency cfg pi)
    (hhalf : naturalAngularFrequency cfg pi * dt ≤ 1 / 2) (hdamped : 1 ≤ cfg.dampingRatio)
    (hstable : 2 * cfg.dampingRatio * (naturalAngularFrequency cfg pi * dt) ≤ 1)
    {s : JointSmdTracker K} (hstart : Follows q₀ goal dt ⟨0, 0, 0⟩ s) (N : ℕ)
    (hfree : ∀ n < N, FreeStep cfg (naturalAngularFrequency cfg pi) sqrt dt
      (smdAfter cfg pi sqrt dt s n)) :
    ∃ p : ℕ → Share K, p 0 = ⟨0, 0, 0⟩ ∧
      (∀ n ≤ N, (p n).Cone (naturalAngularFrequency cfg pi * dt) ∧
        Follows q₀ goal dt (p n) (smdAfter cfg pi sqrt dt s n)) ∧
      ∀ n < N, (p (n + 1)).done = (p n).done + (p (n + 1)).last := by
  have hx : 0 ≤ naturalAngularFrequency cfg pi * dt := (mul_pos hwn hdt).le
  induction N with
  | zero =>
    refine ⟨fun _ => ⟨0, 0, 0⟩, rfl, fun n hn => ?_, fun n hn => absurd hn (by omega)⟩
    obtain rfl : n = 0 := by omega
    exact ⟨cone_start _, hstart⟩
  | succ N ih =>
    obtain ⟨p, hp0, hp, hinc⟩ := ih fun n hn => hfree n (by omega)
    obtain ⟨hcone, hfollows⟩ := hp N le_rfl
    obtain ⟨lead, hlead, hshort, hnext⟩ := hfollows.step hdt hcone.short (hfree N (by omega))
    -- the shares so far, and one more
    refine ⟨Function.update p (N + 1)
      ((p N).advance (naturalAngularFrequency cfg pi * dt) cfg.dampingRatio lead), ?_, ?_, ?_⟩
    · rw [Function.update_of_ne (by omega), hp0]
    · intro n hn
      by_cases hlast : n = N + 1
      · subst hlast
        rw [Function.update_self]
        exact ⟨hcone.step hx hhalf hdamped hstable hlead hshort, hnext⟩
      · rw [Function.update_of_ne hlast]
        exact hp n (by omega)
    · intro n hn
      rw [Function.update_of_ne (show n ≠ N + 1 by omega)]
      by_cases hlast : n = N
      · subst hlast
        rw [Function.update_self, Share.advance_done]
      · rw [Function.update_of_ne (by omega)]
        exact hinc n (by omega)

/-- **The profile from rest.**  While no clamp and no arrival taper acts, all joints share one
non-decreasing fraction of their travel, whatever the jerk budget is. -/
theorem smd_straight_profile (cfg : JointTargetSmdConfig K) (pi : K) (sqrt : K → K) (dt : K)
    (hdt : 0 < dt) (hwn : 0 < naturalAngularFrequency cfg pi)
    (hhalf : naturalAngularFrequency cfg pi * dt ≤ 1 / 2) (hdamped : 1 ≤ cfg.dampingRatio)
    (hstable : 2 * cfg.dampingRatio * naturalAngularFrequency cfg pi * dt ≤ 1)
    (hv : ∀ i, 0 ≤ cfg.maxVelocityDegS i) (s : JointSmdTracker K) (q₀ goal : Joints K) (N : ℕ)
    (hfree : ∀ n < N, FreeStep cfg (naturalAngularFrequency cfg pi) sqrt dt
      (smdAfter cfg pi sqrt dt (fromRest cfg s q₀ goal) n)) :
    ∃ share : ℕ → K, StraightProfile q₀ goal
      (fun n => (smdAfter cfg pi sqrt dt (fromRest cfg s q₀ goal) n).q) share N := by
  obtain ⟨p, hp0, hp, hinc⟩ := exists_shares hdt hwn hhalf hdamped (by rwa [mul_assoc] at hstable)
    (follows_fromRest hv s) N hfree
  have hbetween : ∀ n ≤ N, 0 ≤ (p n).done ∧ (p n).done ≤ 1 := fun n hn =>
    ⟨(hp n hn).1.started, (hp n hn).1.behind.trans (hp n hn).1.short⟩
  have hmono : ∀ n < N, (p n).done ≤ (p (n + 1)).done := by
    intro n hn
    rw [hinc n hn]
    exact le_add_of_nonneg_right (hp (n + 1) (by omega)).1.forward
  have hline : ∀ n ≤ N, ∀ i, (smdAfter cfg pi sqrt dt (fromRest cfg s q₀ goal) n).q i =
      q₀ i + (p n).done * (goal i - q₀ i) := fun n hn => (hp n hn).2.position
  -- what is left of a joint's way is the share that is left
  have hleft : ∀ n ≤ N, ∀ i, goal i - (smdAfter cfg pi sqrt dt (fromRest cfg s q₀ goal) n).q i =
      (1 - (p n).done) * (goal i - q₀ i) := by
    intro n hn i
    rw [hline n hn i]
    ring
  refine ⟨fun n => (p n).done, ⟨by rw [hp0], hbetween, hline, hmono, ?_, ?_⟩⟩
  · intro n hn i
    have hnow : 0 ≤ 1 - (p n).done := by linarith [(hbetween n hn.le).2]
    have hnext : 0 ≤ 1 - (p (n + 1)).done := by linarith [(hbetween (n + 1) (by omega)).2]
    rw [hleft (n + 1) (by omega) i, hleft n hn.le i, abs_mul, abs_mul, abs_of_nonneg hnow,
      abs_of_nonneg hnext]
    exact mul_le_mul_of_nonneg_right (by linarith [hmono n hn]) (abs_nonneg _)
  · intro n hn i
    rw [hleft n hn i, mul_assoc]
    exact mul_nonneg (by linarith [(hbetween n hn).2]) (mul_self_nonneg _)

end Run

/-! ## A sample move -/

/-- The default dynamics, with a departure taper and the arrival taper enabled. -/
def sampleSmd : JointTargetSmdConfig ℚ where
  dampingRatio := 1
  naturalFrequencyHz := 4 / 10
  maxVelocityDegS := fun _ => 30
  maxAccelDegS2 := fun _ => 150
  arrivalTaperEnable := true
  arrivalDecelDegS2 := 200
  arrivalMinSpeedDegS := 3
  maxJerkDegS3 := some 500

def sampleGoal : Joints ℚ := fun i => i.val

/-- Three steps of a slewed move at 500 Hz, with π taken as 22/7: free, and short of the goal. -/
theorem smd_straight_profile_sample :
    (smdAfter sampleSmd (22 / 7) id (1 / 500)
      (fromRest sampleSmd .new (fun _ => 0) sampleGoal) 3).q ≠ (fun _ => 0) ∧
    ∃ share : ℕ → ℚ, StraightProfile (fun _ => 0) sampleGoal
      (fun n => (smdAfter sampleSmd (22 / 7) id (1 / 500)
        (fromRest sampleSmd .new (fun _ => 0) sampleGoal) n).q) share 3 := by
  refine ⟨by decide +kernel, ?_⟩
  refine smd_straight_profile sampleSmd (22 / 7) id (1 / 500) (by norm_num) (by decide +kernel)
    (by decide +kernel) (by decide +kernel) (by decide +kernel) (by decide +kernel) .new (fun _ => 0)
    sampleGoal 3 ?_
  have hstep : ∀ n < 3, ∀ s, s = smdAfter sampleSmd (22 / 7) id (1 / 500)
      (fromRest sampleSmd .new (fun _ => 0) sampleGoal) n →
      FreeStep sampleSmd (naturalAngularFrequency sampleSmd (22 / 7)) id (1 / 500) s := by
    rintro n hn s rfl
    refine ⟨?_, ?_, ?_⟩
    · revert n
      decide +kernel
    · revert n
      decide +kernel
    · revert n
      decide +kernel
  exact fun n hn => hstep n hn _ rfl

end RbServo
