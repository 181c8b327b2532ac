import RoboticsLab.Collision.MonitorConfig
import RoboticsLab.Lib.Hysteresis
import RoboticsLab.Lib.Numerals
import RoboticsLab.Servo.Types
import Mathlib.Algebra.Order.Field.Basic
import Mathlib.Data.Finset.Insert
import Mathlib.LinearAlgebra.Matrix.DotProduct
import Mathlib.Tactic.Linarith

/-!
# `buildCollisionConstraints`: one row for each near pair in its band

The monitor reports the pairs that are near; the servo loop turns those in the slow band of their class
into rows `J ⬝ᵥ qdot ≥ -xi` on the commanded joint velocity.  A pair is engaged below `d_slow` and
released above `d_slow + hyst`; the set of engaged pairs is the caller's, from tick to tick.

    a pair below its slow band has its row, engaged before or not       (row_of_near)
    every row is a near pair below its release                          (near_of_row)
    engaged after a run of ticks : the hysteresis of the reports        (engaged_iff_run)

The verdict may be old: `d_now` is the clearance at the pose that the tick starts from, by the pair's own
Jacobian, or by its rate and the age of the verdict where there is no pose.
-/

namespace RbServo.Collision

open Matrix

/-- Joints of the left arm, then of the right arm. -/
abbrev DualVec (K : Type*) := Fin (2 * kDof) → K

structure NearPair (K : Type*) where
  geomA : ℕ
  geomB : ℕ
  category : PairCategory
  dM : K
  /-- `Jn_left` and `Jn_right`. -/
  jn : DualVec K
  rateMS : K

structure CollisionVerdict (K : Type*) where
  valid : Bool
  near : List (NearPair K)
  /-- `q_eval_deg`, where `q_eval_valid`. -/
  qEvalDeg : Option (DualVec K)

structure ConstraintBuildOptions (K : Type*) where
  excludeGripperGripper : Bool
  /-- `left_q_deg` and `right_q_deg`, where both are set. -/
  qDeg : Option (DualVec K)

inductive ConstraintClass
  | other
  | self
  | intraArm
  | external
  | externalBox
  | gripperGripper
deriving DecidableEq

structure VelocityConstraint (K : Type*) where
  J : DualVec K
  xi : K
  dNow : K
  dHard : K
  pairKey : ℕ
  klass : ConstraintClass

def NearPair.pairKey {K : Type*} (p : NearPair K) : ℕ := p.geomA <<< 32 ||| p.geomB

def PairCategory.klass : PairCategory → ConstraintClass
  | .externalBox => .externalBox
  | .external => .external
  | .intraArm => .intraArm
  | .gripperGripper => .gripperGripper
  | .environment | .armStand | .leftRight => .self

section

variable {K : Type*} [Field K]

def kDeg2Rad : K := (314159265358979323846 : ℕ) / 10 ^ 20 / (180 : ℕ)

/-- How far the pose of the tick is from the pose of the evaluation, in rad. -/
def dqRad (v : CollisionVerdict K) (opts : ConstraintBuildOptions K) : Option (DualVec K) :=
  match opts.qDeg, v.qEvalDeg with
  | some q, some qEval => some fun i => (q i - qEval i) * kDeg2Rad
  | _, _ => none

variable [LinearOrder K]

def dNow (dq : Option (DualVec K)) (age : K) (p : NearPair K) : K :=
  match dq with
  | some dq => p.dM + p.jn ⬝ᵥ dq
  | none => p.dM - (if p.rateMS < 0 then -p.rateMS else 0) * age

/-- Force control owns this contact. -/
def gripCovered (opts : ConstraintBuildOptions K) (c : PairCategory) : Bool :=
  c = .gripperGripper && opts.excludeGripperGripper

/-- The pairs that rows are built for. -/
def Enforced (cfg : MonitorConfig K) (opts : ConstraintBuildOptions K) (c : PairCategory) : Prop :=
  onlyReported cfg c = false ∧ (gripCovered opts c = true → 0 < cfg.gripperGripperCoveredDHardM)

/-- The parameters of a row: those of the class, or the covered floor without a slow band. -/
def rowBarrier (cfg : MonitorConfig K) (opts : ConstraintBuildOptions K) (c : PairCategory) : BarrierSet K :=
  if gripCovered opts c then
    { cfg.barrier c with dHardM := cfg.gripperGripperCoveredDHardM, dSlowM := cfg.gripperGripperCoveredDHardM }
  else cfg.barrier c

/-- How fast a pair may close at `margin` above its floor. -/
def allowed (sqrt : K → K) (b : BarrierSet K) (margin : K) : K :=
  if 0 < margin then sqrt (2 * b.aBrakeMS2 * margin) else -b.recoverSpeedMS

variable (sqrt : K → K) (cfg : MonitorConfig K) (opts : ConstraintBuildOptions K) (dq : Option (DualVec K)) (age : K)

def rowOf (p : NearPair K) : VelocityConstraint K :=
  let b := rowBarrier cfg opts p.category
  ⟨p.jn, allowed sqrt b (dNow dq age p - b.dHardM), dNow dq age p, b.dHardM, p.pairKey, p.category.klass⟩

/-- One pass of the loop: the engaged pairs, where the caller keeps them, and the row of this pair. -/
def buildRow (engaged : Option (Finset ℕ)) (p : NearPair K) : Option (Finset ℕ) × Option (VelocityConstraint K) :=
  if onlyReported cfg p.category then (engaged, none)
  else if gripCovered opts p.category = true ∧ cfg.gripperGripperCoveredDHardM ≤ 0 then
    (engaged.map (·.erase p.pairKey), none)
  else
    let b := rowBarrier cfg opts p.category
    if (if engaged.any (p.pairKey ∈ ·) then b.dSlowM + b.hystM else b.dSlowM) ≤ dNow dq age p then
      (engaged.map (·.erase p.pairKey), none)
    else if p.jn ⬝ᵥ p.jn < 1 / 10 ^ 18 then (engaged.map (insert p.pairKey), none) -- not actuated
    else (engaged.map (insert p.pairKey), some (rowOf sqrt cfg opts dq age p))

def buildRows (engaged : Option (Finset ℕ)) : List (NearPair K) → Option (Finset ℕ) × List (VelocityConstraint K)
  | [] => (engaged, [])
  | p :: near =>
    let r := buildRow sqrt cfg opts dq age engaged p
    let rest := buildRows r.1 near
    (rest.1, r.2.toList ++ rest.2)

def buildCollisionConstraints (v : CollisionVerdict K) (cfg : MonitorConfig K) (verdictAge : K)
    (engaged : Option (Finset ℕ)) (opts : ConstraintBuildOptions K) : Option (Finset ℕ) × List (VelocityConstraint K) :=
  if v.valid then buildRows sqrt cfg opts (dqRad v opts) (max 0 verdictAge) engaged v.near else (engaged, [])

end

/-! ## Rows -/

section

variable {K : Type*} [Field K] [LinearOrder K] [IsStrictOrderedRing K] {sqrt : K → K} {cfg : MonitorConfig K}
  {opts : ConstraintBuildOptions K} {dq : Option (DualVec K)} {age : K} {engaged : Option (Finset ℕ)} {p : NearPair K}

omit [IsStrictOrderedRing K] in
/-- What a pass does to a pair that rows are built for. -/
theorem buildRow_enforced (h : Enforced cfg opts p.category) :
    buildRow sqrt cfg opts dq age engaged p =
      if Hysteresis.switch (rowBarrier cfg opts p.category).dSlowM
          ((rowBarrier cfg opts p.category).dSlowM + (rowBarrier cfg opts p.category).hystM)
          (engaged.any (p.pairKey ∈ ·)) (dNow dq age p) then
        (engaged.map (insert p.pairKey),
          if p.jn ⬝ᵥ p.jn < 1 / 10 ^ 18 then none else some (rowOf sqrt cfg opts dq age p))
      else (engaged.map (·.erase p.pairKey), none) := by
  obtain ⟨hreport, hcovered⟩ := h
  have hfloor : ¬ (gripCovered opts p.category = true ∧ cfg.gripperGripperCoveredDHardM ≤ 0) := fun h =>
    absurd h.2 (not_le.mpr (hcovered h.1))
  rw [buildRow, hreport, if_neg Bool.false_ne_true, if_neg hfloor, Hysteresis.switch]
  dsimp only
  by_cases hnear : dNow dq age p < if engaged.any (p.pairKey ∈ ·) then
      (rowBarrier cfg opts p.category).dSlowM + (rowBarrier cfg opts p.category).hystM
    else (rowBarrier cfg opts p.category).dSlowM
  · rw [if_neg (not_le.mpr hnear), if_pos (decide_eq_true hnear)]
    split <;> rfl
  · rw [if_pos (not_lt.mp hnear), if_neg (by simpa using hnear)]

omit [IsStrictOrderedRing K] in
theorem buildRow_of_not_enforced (h : ¬ Enforced cfg opts p.category) :
    (buildRow sqrt cfg opts dq age engaged p).2 = none := by
  rw [Enforced, not_and_or, Bool.not_eq_false, Classical.not_imp, not_lt] at h
  rw [buildRow]
  rcases h with h | ⟨hcovered, hfloor⟩
  · rw [if_pos h]
  · split
    · rfl
    · rw [if_pos ⟨hcovered, hfloor⟩]

omit [IsStrictOrderedRing K] in
theorem mem_buildRows {near : List (NearPair K)} {c : VelocityConstraint K}
    (h : c ∈ (buildRows sqrt cfg opts dq age engaged near).2) :
    ∃ p ∈ near, ∃ engaged', (buildRow sqrt cfg opts dq age engaged' p).2 = some c := by
  induction near generalizing engaged with
  | nil => cases h
  | cons p near ih =>
    rcases List.mem_append.mp h with h | h
    · exact ⟨p, List.mem_cons_self, engaged, Option.mem_toList.mp h⟩
    · obtain ⟨p', hp', hrow⟩ := ih h
      exact ⟨p', List.mem_cons_of_mem p hp', hrow⟩

omit [IsStrictOrderedRing K] in
/-- A row that is built whatever is engaged. -/
theorem mem_buildRows_of_forall {near : List (NearPair K)} (hp : p ∈ near) {c : VelocityConstraint K}
    (h : ∀ engaged', (buildRow sqrt cfg opts dq age engaged' p).2 = some c) :
    c ∈ (buildRows sqrt cfg opts dq age engaged near).2 := by
  induction near generalizing engaged with
  | nil => cases hp
  | cons p' near ih =>
    rcases List.mem_cons.mp hp with rfl | hp
    · exact List.mem_append_left _ (Option.mem_toList.mpr (h engaged))
    · exact List.mem_append_right _ (ih hp)

/-- **A pair below its slow band has its row**, engaged before or not. -/
theorem row_of_near {v : CollisionVerdict K} {verdictAge : K} (hvalid : v.valid = true) (hp : p ∈ v.near)
    (henforced : Enforced cfg opts p.category) (hhyst : 0 ≤ (rowBarrier cfg opts p.category).hystM)
    (hnear : dNow (dqRad v opts) (max 0 verdictAge) p < (rowBarrier cfg opts p.category).dSlowM)
    (hactuated : 1 / 10 ^ 18 ≤ p.jn ⬝ᵥ p.jn) :
    rowOf sqrt cfg opts (dqRad v opts) (max 0 verdictAge) p ∈
      (buildCollisionConstraints sqrt v cfg verdictAge engaged opts).2 := by
  rw [buildCollisionConstraints, if_pos hvalid]
  refine mem_buildRows_of_forall hp fun engaged' => ?_
  have hon : Hysteresis.switch (rowBarrier cfg opts p.category).dSlowM
      ((rowBarrier cfg opts p.category).dSlowM + (rowBarrier cfg opts p.category).hystM)
      (engaged'.any (p.pairKey ∈ ·)) (dNow (dqRad v opts) (max 0 verdictAge) p) = true := by
    rw [Hysteresis.switch, decide_eq_true_iff]
    split
    · linarith
    · exact hnear
  rw [buildRow_enforced henforced, if_pos hon, if_neg (not_lt.mpr hactuated)]

omit [IsStrictOrderedRing K] in
/-- **Every row is a near pair** that rows are built for, below its release. -/
theorem near_of_row {v : CollisionVerdict K} {verdictAge : K} {c : VelocityConstraint K}
    (h : c ∈ (buildCollisionConstraints sqrt v cfg verdictAge engaged opts).2) :
    ∃ p ∈ v.near, Enforced cfg opts p.category ∧ c = rowOf sqrt cfg opts (dqRad v opts) (max 0 verdictAge) p ∧
      1 / 10 ^ 18 ≤ p.jn ⬝ᵥ p.jn ∧
      dNow (dqRad v opts) (max 0 verdictAge) p <
        max (rowBarrier cfg opts p.category).dSlowM
          ((rowBarrier cfg opts p.category).dSlowM + (rowBarrier cfg opts p.category).hystM) := by
  rw [buildCollisionConstraints] at h
  split at h
  · obtain ⟨p, hp, engaged', hrow⟩ := mem_buildRows h
    have henforced : Enforced cfg opts p.category := by
      by_contra hnot
      rw [buildRow_of_not_enforced hnot] at hrow
      cases hrow
    rw [buildRow_enforced henforced] at hrow
    split at hrow
    · rename_i hon
      dsimp only at hrow
      split at hrow
      · cases hrow
      · rename_i hactuated
        refine ⟨p, hp, henforced, (Option.some.inj hrow).symm, not_lt.mp hactuated, ?_⟩
        rw [Hysteresis.switch, decide_eq_true_iff] at hon
        refine hon.trans_le ?_
        split
        · exact le_max_right _ _
        · exact le_max_left _ _
    · cases hrow
  · cases h

/-! ## Engaged pairs -/

variable (sqrt) (cfg) (opts) (dq) (age)

/-- What a near pair tells the switch of its key, by the band in force for it now.  A box that is only reported
says nothing, and a covered contact without a floor switches off. -/
def report (p : NearPair K) : Option (Hysteresis.Report K) :=
  let b := rowBarrier cfg opts p.category
  if onlyReported cfg p.category then none
  else if gripCovered opts p.category = true ∧ cfg.gripperGripperCoveredDHardM ≤ 0 then some .off
  else some (.reading b.dSlowM (b.dSlowM + b.hystM) (dNow dq age p))

def reportsOf (k : ℕ) (p : NearPair K) : List (Hysteresis.Report K) :=
  if p.pairKey = k then (report cfg opts dq age p).toList else []

variable {cfg opts dq age} in
omit [IsStrictOrderedRing K] in
/-- A pass that leaves its own switch on. -/
theorem mem_insert_iff_run {e : Finset ℕ} {p : NearPair K}
    (h : Hysteresis.run (decide (p.pairKey ∈ e)) (reportsOf cfg opts dq age p.pairKey p) = true) (k : ℕ) :
    k ∈ insert p.pairKey e ↔ Hysteresis.run (decide (k ∈ e)) (reportsOf cfg opts dq age k p) = true := by
  by_cases hk : p.pairKey = k
  · subst hk
    exact iff_of_true (Finset.mem_insert_self _ _) h
  · rw [reportsOf, if_neg hk, Finset.mem_insert, or_iff_right (Ne.symm hk)]
    exact decide_eq_true_iff.symm

variable {cfg opts dq age} in
omit [IsStrictOrderedRing K] in
/-- A pass that leaves its own switch off. -/
theorem mem_erase_iff_run {e : Finset ℕ} {p : NearPair K}
    (h : ¬ Hysteresis.run (decide (p.pairKey ∈ e)) (reportsOf cfg opts dq age p.pairKey p) = true) (k : ℕ) :
    k ∈ e.erase p.pairKey ↔ Hysteresis.run (decide (k ∈ e)) (reportsOf cfg opts dq age k p) = true := by
  by_cases hk : p.pairKey = k
  · subst hk
    exact iff_of_false (Finset.notMem_erase _ _) h
  · rw [reportsOf, if_neg hk, Finset.mem_erase, and_iff_right (Ne.symm hk)]
    exact decide_eq_true_iff.symm

omit [IsStrictOrderedRing K] in
/-- A pass decides about its own pair only. -/
theorem buildRow_engaged (e : Finset ℕ) (p : NearPair K) :
    ∃ e', (buildRow sqrt cfg opts dq age (some e) p).1 = some e' ∧
      ∀ k, k ∈ e' ↔ Hysteresis.run (decide (k ∈ e)) (reportsOf cfg opts dq age k p) = true := by
  have hown : ∀ r, report cfg opts dq age p = some r →
      Hysteresis.run (decide (p.pairKey ∈ e)) (reportsOf cfg opts dq age p.pairKey p) =
        r.switch (decide (p.pairKey ∈ e)) := fun r hr => by
    rw [reportsOf, if_pos rfl, hr]
    rfl
  by_cases hreport : onlyReported cfg p.category = true
  · refine ⟨e, by rw [buildRow, if_pos hreport], fun k => ?_⟩
    have hnone : report cfg opts dq age p = none := by rw [report, if_pos hreport]
    rw [reportsOf, hnone, Option.toList_none, ite_self]
    exact decide_eq_true_iff.symm
  by_cases hcovered : gripCovered opts p.category = true ∧ cfg.gripperGripperCoveredDHardM ≤ 0
  · refine ⟨e.erase p.pairKey, by rw [buildRow, if_neg hreport, if_pos hcovered]; rfl, mem_erase_iff_run ?_⟩
    rw [hown .off (by rw [report, if_neg hreport, if_pos hcovered])]
    exact Bool.false_ne_true
  · have henforced : Enforced cfg opts p.category := ⟨Bool.eq_false_of_not_eq_true hreport, fun h =>
      not_le.mp fun hle => hcovered ⟨h, hle⟩⟩
    have hr := hown _ (by rw [report, if_neg hreport, if_neg hcovered])
    rw [buildRow_enforced henforced, Option.any_some]
    split
    · rename_i hon
      refine ⟨_, rfl, mem_insert_iff_run ?_⟩
      rw [hr]
      exact hon
    · rename_i hoff
      refine ⟨_, rfl, mem_erase_iff_run ?_⟩
      rw [hr]
      exact hoff

omit [IsStrictOrderedRing K] in
theorem buildRows_engaged (e : Finset ℕ) (near : List (NearPair K)) :
    ∃ e', (buildRows sqrt cfg opts dq age (some e) near).1 = some e' ∧
      ∀ k, k ∈ e' ↔ Hysteresis.run (decide (k ∈ e)) (near.flatMap (reportsOf cfg opts dq age k)) = true := by
  induction near generalizing e with
  | nil => exact ⟨e, rfl, fun k => decide_eq_true_iff.symm⟩
  | cons p near ih =>
    obtain ⟨e₁, hrow, hk₁⟩ := buildRow_engaged sqrt cfg opts dq age e p
    obtain ⟨e₂, hrows, hk₂⟩ := ih e₁
    refine ⟨e₂, by rw [buildRows]; dsimp only; rw [hrow, hrows], fun k => ?_⟩
    rw [hk₂ k, List.flatMap_cons, Hysteresis.run_append, ← Bool.decide_coe (Hysteresis.run (decide (k ∈ e)) _),
      decide_eq_decide.mpr (hk₁ k)]

end

/-! ## Runs -/

/-- What one tick of the servo loop hands over. -/
structure RowTick (K : Type*) where
  verdict : CollisionVerdict K
  age : K
  opts : ConstraintBuildOptions K

section

variable {K : Type*} [Field K] [LinearOrder K]

/-- `collision_engaged_pairs_` after a run of ticks. -/
def engagedAfter (sqrt : K → K) (cfg : MonitorConfig K) (ticks : List (RowTick K)) : Option (Finset ℕ) :=
  ticks.foldl (fun e t => (buildCollisionConstraints sqrt t.verdict cfg t.age e t.opts).1) (some ∅)

/-- The reports about a key in one tick. -/
def tickReports (cfg : MonitorConfig K) (k : ℕ) (t : RowTick K) : List (Hysteresis.Report K) :=
  if t.verdict.valid then
    t.verdict.near.flatMap (reportsOf cfg t.opts (dqRad t.verdict t.opts) (max 0 t.age) k)
  else []

variable {cfg : MonitorConfig K}

/-- The engaged set is one switch with hysteresis for each key: ticks that do not report it leave it as it is,
and other pairs do not matter. -/
theorem engaged_iff_run (sqrt : K → K) (cfg : MonitorConfig K) (ticks : List (RowTick K)) :
    ∃ e, engagedAfter sqrt cfg ticks = some e ∧
      ∀ k, k ∈ e ↔ Hysteresis.run false (ticks.flatMap (tickReports cfg k)) = true := by
  induction ticks using List.reverseRecOn with
  | nil => exact ⟨∅, rfl, fun k => iff_of_false (Finset.notMem_empty k) Bool.false_ne_true⟩
  | append_singleton ticks t ih =>
    obtain ⟨e, he, hk⟩ := ih
    have hwas : ∀ k, Hysteresis.run false (ticks.flatMap (tickReports cfg k)) = decide (k ∈ e) := fun k => by
      rw [← Bool.decide_coe (Hysteresis.run _ _)]
      exact (decide_eq_decide.mpr (hk k)).symm
    rw [engagedAfter, List.foldl_append, ← engagedAfter, he]
    show ∃ e', (buildCollisionConstraints sqrt t.verdict cfg t.age (some e) t.opts).1 = some e' ∧ _
    simp only [List.flatMap_append, List.flatMap_singleton, Hysteresis.run_append, hwas]
    rw [buildCollisionConstraints]
    split
    · rename_i hvalid
      simp only [tickReports, hvalid, if_true]
      exact buildRows_engaged sqrt cfg t.opts _ _ e t.verdict.near
    · rename_i hinvalid
      simp only [tickReports, hinvalid]
      exact ⟨e, rfl, fun k => decide_eq_true_iff.symm⟩

/-- A reading below the slow band is below the release, too. -/
theorem keeps_of_engages [IsStrictOrderedRing K] (hhyst : ∀ c, 0 ≤ (cfg.barrier c).hystM) {k : ℕ} {t : RowTick K}
    {r : Hysteresis.Report K} (hr : r ∈ tickReports cfg k t) (hslow : r.Engages) : r.Keeps := by
  rw [tickReports] at hr
  split at hr
  · obtain ⟨p, -, hr⟩ := List.mem_flatMap.mp hr
    rw [reportsOf] at hr
    split at hr
    · replace hr := Option.mem_toList.mp hr
      rw [report] at hr
      have hband : 0 ≤ (rowBarrier cfg t.opts p.category).hystM := by
        rw [rowBarrier]
        split
        · exact hhyst _
        · exact hhyst _
      split at hr
      · cases hr
      split at hr
      · rw [← Option.some.inj hr] at hslow
        exact hslow.elim
      · rw [← Option.some.inj hr] at hslow ⊢
        exact hslow.trans_le (le_add_of_nonneg_right hband)
    · cases hr
  · cases hr

/-- **A pair is engaged** after a run exactly when a report has found it below the slow band in force for it, and
no report since has found it at or above the release in force or has switched it off. -/
theorem engaged_iff_reached [IsStrictOrderedRing K] (hhyst : ∀ c, 0 ≤ (cfg.barrier c).hystM) (sqrt : K → K)
    (ticks : List (RowTick K)) : ∃ e, engagedAfter sqrt cfg ticks = some e ∧
      ∀ k, k ∈ e ↔ Hysteresis.Reached (ticks.flatMap (tickReports cfg k)) := by
  obtain ⟨e, he, hk⟩ := engaged_iff_run sqrt cfg ticks
  refine ⟨e, he, fun k => (hk k).trans (Hysteresis.run_iff fun r hr => ?_)⟩
  obtain ⟨t, -, hr⟩ := List.mem_flatMap.mp hr
  exact keeps_of_engages hhyst hr

end

/-- Every class with the same band: floor at 0, slow from 2 on, released at 3. -/
def bandMonitor : MonitorConfig ℚ :=
  ⟨⟨0, 2, 2, 1, 0⟩, ⟨0, 2, 2, 1, 0⟩, ⟨0, 2, 2, 1, 0⟩, ⟨0, 2, 2, 1, 0⟩, ⟨0, 2, 2, 1, 0⟩, ⟨0, 2, 2, 1, 0⟩,
    ⟨0, 2, 2, 1, 0⟩, 0, false, 8⟩

/-- A pair of the two arms. -/
def bandPair (geomB : ℕ) (d : ℚ) : NearPair ℚ := ⟨0, geomB, .leftRight, d, fun _ => 1, 0⟩

/-- The two grippers. -/
def gripPair (d : ℚ) : NearPair ℚ := ⟨0, 2, .gripperGripper, d, fun _ => 1, 0⟩

/-- Both pairs come near; then the arms part a little, and force control takes the grippers over. -/
def bandTicks : List (RowTick ℚ) :=
  [⟨⟨true, [bandPair 1 1, gripPair 1], none⟩, 0, ⟨false, none⟩⟩,
    ⟨⟨true, [bandPair 1 (5 / 2), gripPair 1], none⟩, 0, ⟨true, none⟩⟩]

theorem engaged_iff_reached_bandTicks :
    ∃ e, engagedAfter (fun _ => 2) bandMonitor bandTicks = some e ∧ 1 ∈ e ∧ 2 ∉ e := by
  have harms : bandTicks.flatMap (tickReports bandMonitor 1) = [.reading 2 3 1, .reading 2 3 (5 / 2)] := by
    decide +kernel
  have hgrippers : bandTicks.flatMap (tickReports bandMonitor 2) = [.reading 2 3 1] ++ [.off] := by decide +kernel
  have hhyst : ∀ c, 0 ≤ (bandMonitor.barrier c).hystM := fun c => by cases c <;> decide
  obtain ⟨e, he, hk⟩ := engaged_iff_reached hhyst (fun _ => 2) bandTicks
  refine ⟨e, he, (hk 1).mpr ?_, fun h => ?_⟩
  · rw [harms]
    refine ⟨[], _, _, rfl, (by norm_num : (1 : ℚ) < 2), fun r hr => ?_⟩
    rw [List.mem_singleton.mp hr]
    exact (by norm_num : (5 / 2 : ℚ) < 3)
  · have hreached := (hk 2).mp h
    rw [hgrippers] at hreached
    rcases hreached.of_concat with hoff | ⟨-, hoff⟩
    · exact hoff
    · exact hoff

end RbServo.Collision
