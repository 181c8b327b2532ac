import RoboticsLab.Collision.NearList
import RoboticsLab.Lib.HalfSpaces
import Mathlib.Analysis.SpecialFunctions.Sqrt

/-!
# `solveVelocityProjection`: the command after the rows

The request of the tick, as a joint velocity, is pushed into one row after the other, the closest first,
and clamped to the joint ceilings after every sweep, until no row moves it by more than the tolerance.

    never farther than the request from a velocity that meets every row   (solve_no_farther)
    ceilings hold, and rows up to the tolerance once it has converged     (solve_ceilings, solve_rows)
    a request that does not converge is far from all such velocities      (far_of_not_converged)

A row is a half-space, its sweep the sweep of `HalfSpaces`; the tiny Jacobians are the ones whose length
is overestimated.
-/

namespace RbServo.Collision

open Matrix HalfSpaces

structure VelocityProjectionOptions (K : Type*) where
  minSweeps : ℕ
  maxSweeps : ℕ
  tolRadS : K

structure CollisionProjectionResult (K : Type*) where
  active : Bool
  activePairs : ℕ
  maxCorrectionDegS : K
  leftCorrectionDegS : K
  rightCorrectionDegS : K
  ceilingClamped : Bool
  sweepsUsed : ℕ
  converged : Bool

/-- The joint of an arm, in both arms' vector. -/
def armIndex (arm : ArmId) (j : Fin kDof) : Fin (2 * kDof) :=
  match arm with
  | .left => ⟨j, by have := j.isLt; omega⟩
  | .right => ⟨kDof + j, by have := j.isLt; omega⟩

def armOf (i : Fin (2 * kDof)) : ArmId := if i.val < kDof then .left else .right

def jointOf (i : Fin (2 * kDof)) : Fin kDof := ⟨i % kDof, Nat.mod_lt _ (by decide)⟩

theorem armIndex_eq (i : Fin (2 * kDof)) : armIndex (armOf i) (jointOf i) = i := by
  have hlt := i.isLt
  apply Fin.ext
  rw [armOf, jointOf]
  split
  · rename_i h
    exact Nat.mod_eq_of_lt h
  · rename_i h
    show kDof + i.val % kDof = i.val
    rw [Nat.mod_eq_sub_mod (not_lt.mp h), Nat.mod_eq_of_lt (by omega)]
    omega

section

variable {K : Type*} [Field K] [LinearOrder K]

/-- From one pose to the other in a tick, in rad/s. -/
def speedRadS (prevDeg targetDeg : DualVec K) (dtSec : K) : DualVec K := fun i =>
  (targetDeg i * kDeg2Rad - prevDeg i * kDeg2Rad) / dtSec

/-- One row of a sweep: the velocity, and the largest step of the sweep. -/
def sweepRow (sqrt : K → K) (qs : DualVec K × K) (c : VelocityConstraint K) : DualVec K × K :=
  let ddot := c.J ⬝ᵥ qs.1
  if ddot < -c.xi then
    let jn2 := max (c.J ⬝ᵥ c.J) (1 / 10 ^ 9)
    let alpha := (-c.xi - ddot) / jn2
    (qs.1 + alpha • c.J, max qs.2 (|alpha| * sqrt jn2))
  else qs

def sweepRows (sqrt : K → K) (cons : List (VelocityConstraint K)) (qdot : DualVec K) : DualVec K × K :=
  cons.foldl (sweepRow sqrt) (qdot, 0)

def ceilingRadS (maxJointVelDegS : Fin kDof → K) : DualVec K := fun i => maxJointVelDegS (jointOf i) * kDeg2Rad

def clampCeiling (maxJointVelDegS : Fin kDof → K) (qdot : DualVec K) : DualVec K := fun i =>
  let lim := maxJointVelDegS (jointOf i) * kDeg2Rad
  if 0 < lim then Clamp.clamp (qdot i) (-lim) lim else qdot i

/-- `clampCeiling` changes a joint. -/
def ceilingBinds (maxJointVelDegS : Fin kDof → K) (qdot : DualVec K) : Bool :=
  (List.finRange (2 * kDof)).any fun i => decide (clampCeiling maxJointVelDegS qdot i ≠ qdot i)

/-- What the sweeps leave behind. -/
structure Sweeps (K : Type*) where
  qdot : DualVec K
  sweepsUsed : ℕ
  converged : Bool
  ceilingClamped : Bool

/-- The loop, with so many sweeps left. -/
def sweepLoop (sqrt : K → K) (cons : List (VelocityConstraint K)) (maxJointVelDegS : Fin kDof → K) (minSweeps : ℕ)
    (tol : K) : ℕ → Sweeps K → Sweeps K
  | 0, st => st
  | n + 1, st =>
    let swept := sweepRows sqrt cons st.qdot
    let next : Sweeps K := ⟨clampCeiling maxJointVelDegS swept.1, st.sweepsUsed + 1, st.converged,
      st.ceilingClamped || ceilingBinds maxJointVelDegS swept.1⟩
    if minSweeps ≤ next.sweepsUsed ∧ swept.2 ≤ tol then { next with converged := true }
    else sweepLoop sqrt cons maxJointVelDegS minSweeps tol n next

/-- The targets and the result; `sort` is `std::sort` by `d_now`. -/
def solveVelocityProjection (sqrt : K → K) (sort : List (VelocityConstraint K) → List (VelocityConstraint K))
    (cons : List (VelocityConstraint K)) (prevDeg targetDeg : DualVec K) (dtSec : K)
    (opts : VelocityProjectionOptions K) (maxJointVelDegS : Fin kDof → K) :
    DualVec K × CollisionProjectionResult K :=
  if dtSec ≤ 1 / 10 ^ 6 ∨ cons = [] then (targetDeg, ⟨false, 0, 0, 0, 0, false, 0, false⟩)
  else
    let qdotDes := speedRadS prevDeg targetDeg dtSec
    let minSweeps := max 1 opts.minSweeps
    let maxSweeps := max minSweeps opts.maxSweeps
    let r :=
      sweepLoop sqrt (sort cons) maxJointVelDegS minSweeps (max 0 opts.tolRadS) maxSweeps ⟨qdotDes, 0, false, false⟩
    let dq := r.qdot - qdotDes
    (fun i => (prevDeg i * kDeg2Rad + r.qdot i * dtSec) / kDeg2Rad,
      ⟨true, cons.length, sqrt (dq ⬝ᵥ dq) * (1 / kDeg2Rad),
        sqrt (∑ j, dq (armIndex .left j) ^ 2) * (1 / kDeg2Rad), sqrt (∑ j, dq (armIndex .right j) ^ 2) * (1 / kDeg2Rad),
        r.ceilingClamped, r.sweepsUsed, r.converged⟩)

/-- A velocity that every row and every ceiling admits. -/
structure Admissible (cons : List (VelocityConstraint K)) (maxJointVelDegS : Fin kDof → K) (v : DualVec K) : Prop where
  rows : ∀ c ∈ cons, -c.xi ≤ c.J ⬝ᵥ v
  ceilings : InBox (ceilingRadS maxJointVelDegS) v

end

/-! ## A row is a half-space -/

section

variable {c : VelocityConstraint ℝ} {cons : List (VelocityConstraint ℝ)} {maxJointVelDegS : Fin kDof → ℝ}
  {qdot : DualVec ℝ}

/-- The length of the Jacobian, as the solver takes it. -/
noncomputable def rowSize (c : VelocityConstraint ℝ) : ℝ := Real.sqrt (max (c.J ⬝ᵥ c.J) (1 / 10 ^ 9))

theorem rowSize_mul_self (c : VelocityConstraint ℝ) : rowSize c * rowSize c = max (c.J ⬝ᵥ c.J) (1 / 10 ^ 9) :=
  Real.mul_self_sqrt (le_max_of_le_right (by norm_num))

theorem rowSize_pos (c : VelocityConstraint ℝ) : 0 < rowSize c :=
  Real.sqrt_pos.mpr (lt_max_of_lt_right (by norm_num))

noncomputable def VelocityConstraint.halfSpace (c : VelocityConstraint ℝ) : HalfSpace (Fin (2 * kDof)) ℝ where
  normal := c.J
  bound := -c.xi
  size := rowSize c
  size_pos := rowSize_pos c
  normal_le := (rowSize_mul_self c).symm ▸ le_max_left _ _

theorem sweepRow_eq (qdot : DualVec ℝ) {m : ℝ} (hm : 0 ≤ m) (c : VelocityConstraint ℝ) :
    sweepRow Real.sqrt (qdot, m) c = (c.halfSpace.relax qdot, max m (c.halfSpace.push qdot)) := by
  rw [sweepRow]
  dsimp only
  by_cases hshort : c.J ⬝ᵥ qdot < -c.xi
  · have hexcess : 0 < -c.xi - c.J ⬝ᵥ qdot := sub_pos.mpr hshort
    have hpush : c.halfSpace.push qdot = (-c.xi - c.J ⬝ᵥ qdot) / rowSize c := by
      rw [HalfSpace.push, show c.halfSpace.excess qdot = -c.xi - c.J ⬝ᵥ qdot from rfl, max_eq_right hexcess.le]
      rfl
    have halpha : (-c.xi - c.J ⬝ᵥ qdot) / max (c.J ⬝ᵥ c.J) (1 / 10 ^ 9) = c.halfSpace.push qdot / rowSize c := by
      rw [hpush, div_div, rowSize_mul_self]
    rw [if_pos hshort, halpha, ← rowSize, abs_of_nonneg (div_nonneg (HalfSpace.push_nonneg _ _) (rowSize_pos c).le),
      div_mul_cancel₀ _ (rowSize_pos c).ne']
    rfl
  · have hholds : c.halfSpace.Holds qdot := not_lt.mp hshort
    rw [if_neg hshort, HalfSpace.relax_of_holds hholds, HalfSpace.holds_iff_push.mp hholds, max_eq_left hm]

/-- The sweep over the rows is the sweep over their half-spaces, and its largest step their largest push. -/
theorem sweepRows_eq (cons : List (VelocityConstraint ℝ)) (qdot : DualVec ℝ) :
    (sweepRows Real.sqrt cons qdot).1 = sweep (cons.map VelocityConstraint.halfSpace) qdot ∧
      ∀ tol, 0 ≤ tol → ((sweepRows Real.sqrt cons qdot).2 ≤ tol ↔
        ∀ p ∈ pushes (cons.map VelocityConstraint.halfSpace) qdot, p ≤ tol) := by
  suffices h : ∀ (m : ℝ), 0 ≤ m →
      (cons.foldl (sweepRow Real.sqrt) (qdot, m)).1 = sweep (cons.map VelocityConstraint.halfSpace) qdot ∧
        ∀ tol, (cons.foldl (sweepRow Real.sqrt) (qdot, m)).2 ≤ tol ↔
          m ≤ tol ∧ ∀ p ∈ pushes (cons.map VelocityConstraint.halfSpace) qdot, p ≤ tol by
    obtain ⟨hsweep, hstep⟩ := h 0 le_rfl
    exact ⟨hsweep, fun tol htol => (hstep tol).trans (and_iff_right htol)⟩
  induction cons generalizing qdot with
  | nil => exact fun m _ => ⟨rfl, fun tol => by simp [pushes]⟩
  | cons c cons ih =>
    intro m hm
    obtain ⟨hsweep, hstep⟩ := ih (c.halfSpace.relax qdot) (max m (c.halfSpace.push qdot)) (hm.trans (le_max_left _ _))
    rw [List.foldl_cons, sweepRow_eq qdot hm, List.map_cons]
    refine ⟨hsweep, fun tol => ?_⟩
    rw [hstep, pushes, List.forall_mem_cons, max_le_iff, and_assoc]

theorem clampCeiling_eq (maxJointVelDegS : Fin kDof → ℝ) (qdot : DualVec ℝ) :
    clampCeiling maxJointVelDegS qdot = clampTo (ceilingRadS maxJointVelDegS) qdot := rfl

/-- Where the loop ends: after how many cycles, and why. -/
theorem sweepLoop_spec (cons : List (VelocityConstraint ℝ)) (maxJointVelDegS : Fin kDof → ℝ) (minSweeps : ℕ)
    {tol : ℝ} (htol : 0 ≤ tol) (n : ℕ) (st : Sweeps ℝ) (hst : st.converged = false) :
    let next := cycle (cons.map VelocityConstraint.halfSpace) (ceilingRadS maxJointVelDegS)
    let r := sweepLoop Real.sqrt cons maxJointVelDegS minSweeps tol n st
    ∃ k ≤ n, r.qdot = next^[k] st.qdot ∧ r.sweepsUsed = st.sweepsUsed + k ∧
      (r.converged = true → ∃ j, k = j + 1 ∧ minSweeps ≤ st.sweepsUsed + k ∧
        ∀ p ∈ pushes (cons.map VelocityConstraint.halfSpace) (next^[j] st.qdot), p ≤ tol) ∧
      (r.converged = false → k = n ∧ ∀ j < n, minSweeps ≤ st.sweepsUsed + (j + 1) →
        ∃ p ∈ pushes (cons.map VelocityConstraint.halfSpace) (next^[j] st.qdot), tol < p) := by
  intro next
  induction n generalizing st with
  | zero => exact ⟨0, le_rfl, rfl, rfl, fun h => absurd (hst.symm.trans h) Bool.false_ne_true, fun _ => ⟨rfl, by simp⟩⟩
  | succ n ih =>
    obtain ⟨hsweep, hstep⟩ := sweepRows_eq cons st.qdot
    have hnext : clampCeiling maxJointVelDegS (sweepRows Real.sqrt cons st.qdot).1 = next st.qdot := by
      rw [hsweep, clampCeiling_eq]
      rfl
    rw [sweepLoop]
    dsimp only
    rw [hnext]
    by_cases hstop : minSweeps ≤ st.sweepsUsed + 1 ∧ (sweepRows Real.sqrt cons st.qdot).2 ≤ tol
    · rw [if_pos hstop]
      exact ⟨1, Nat.le_add_left 1 n, rfl, rfl, fun _ => ⟨0, rfl, hstop.1, (hstep tol htol).mp hstop.2⟩,
        fun h => absurd h (by simp)⟩
    · rw [if_neg hstop]
      obtain ⟨k, hk, hqdot, hused, hconverged, hnot⟩ := ih ⟨next st.qdot, st.sweepsUsed + 1, st.converged,
        st.ceilingClamped || ceilingBinds maxJointVelDegS (sweepRows Real.sqrt cons st.qdot).1⟩ hst
      dsimp only at hused hconverged hnot
      refine ⟨k + 1, Nat.succ_le_succ hk, hqdot, by rw [hused]; omega, fun h => ?_, fun h => ?_⟩
      · obtain ⟨j, rfl, hmin, hsmall⟩ := hconverged h
        exact ⟨j + 1, rfl, by omega, hsmall⟩
      · obtain ⟨rfl, hlarge⟩ := hnot h
        refine ⟨rfl, fun j hj hmin => ?_⟩
        cases j with
        | zero =>
          -- the first sweep was long enough to be the last
          by_contra hnone
          push Not at hnone
          exact hstop ⟨hmin, (hstep tol htol).mpr hnone⟩
        | succ j => exact hlarge j (Nat.lt_of_succ_lt_succ hj) (by omega)

/-! ## The solver -/

variable {sort : List (VelocityConstraint ℝ) → List (VelocityConstraint ℝ)} {prevDeg targetDeg : DualVec ℝ} {dtSec : ℝ}
  {opts : VelocityProjectionOptions ℝ}

theorem kDeg2Rad_pos : (0 : ℝ) < kDeg2Rad := by
  rw [kDeg2Rad]
  positivity

/-- What the sweeps of a solve leave behind. -/
noncomputable def solved (sort : List (VelocityConstraint ℝ) → List (VelocityConstraint ℝ))
    (cons : List (VelocityConstraint ℝ)) (prevDeg targetDeg : DualVec ℝ) (dtSec : ℝ)
    (opts : VelocityProjectionOptions ℝ) (maxJointVelDegS : Fin kDof → ℝ) : Sweeps ℝ :=
  sweepLoop Real.sqrt (sort cons) maxJointVelDegS (max 1 opts.minSweeps) (max 0 opts.tolRadS)
    (max (max 1 opts.minSweeps) opts.maxSweeps) ⟨speedRadS prevDeg targetDeg dtSec, 0, false, false⟩

theorem solve_of_inactive (h : dtSec ≤ 1 / 10 ^ 6 ∨ cons = []) :
    solveVelocityProjection Real.sqrt sort cons prevDeg targetDeg dtSec opts maxJointVelDegS =
      (targetDeg, ⟨false, 0, 0, 0, 0, false, 0, false⟩) := by
  rw [solveVelocityProjection, if_pos h]

/-- Where the solver acts, its targets are a tick away at the velocity that the sweeps leave. -/
theorem solve_of_active (h : ¬ (dtSec ≤ 1 / 10 ^ 6 ∨ cons = [])) :
    let r := solveVelocityProjection Real.sqrt sort cons prevDeg targetDeg dtSec opts maxJointVelDegS
    r.2.active = true ∧ r.2.converged = (solved sort cons prevDeg targetDeg dtSec opts maxJointVelDegS).converged ∧
      speedRadS prevDeg r.1 dtSec = (solved sort cons prevDeg targetDeg dtSec opts maxJointVelDegS).qdot := by
  intro r
  have hr : r = solveVelocityProjection Real.sqrt sort cons prevDeg targetDeg dtSec opts maxJointVelDegS := rfl
  rw [solveVelocityProjection, if_neg h] at hr
  have hdt : dtSec ≠ 0 := by
    rintro rfl
    exact h (Or.inl (by norm_num))
  refine ⟨by rw [hr], by rw [hr, solved], ?_⟩
  funext i
  rw [hr, speedRadS, div_mul_cancel₀ _ kDeg2Rad_pos.ne', add_sub_cancel_left, mul_div_cancel_right₀ _ hdt]
  rfl

/-- Where the sweeps of a solve end: `sweepLoop_spec` from the request on. -/
theorem solved_spec (sort : List (VelocityConstraint ℝ) → List (VelocityConstraint ℝ))
    (cons : List (VelocityConstraint ℝ)) (prevDeg targetDeg : DualVec ℝ) (dtSec : ℝ)
    (opts : VelocityProjectionOptions ℝ) (maxJointVelDegS : Fin kDof → ℝ) :
    let hs := (sort cons).map VelocityConstraint.halfSpace
    let next := cycle hs (ceilingRadS maxJointVelDegS)
    let v := speedRadS prevDeg targetDeg dtSec
    let r := solved sort cons prevDeg targetDeg dtSec opts maxJointVelDegS
    ∃ k, r.qdot = next^[k] v ∧
      (r.converged = true → ∃ j, k = j + 1 ∧ max 1 opts.minSweeps ≤ k ∧
        ∀ p ∈ pushes hs (next^[j] v), p ≤ max 0 opts.tolRadS) ∧
      (r.converged = false → k = max (max 1 opts.minSweeps) opts.maxSweeps ∧ ∀ j < k, max 1 opts.minSweeps ≤ j + 1 →
        ∃ p ∈ pushes hs (next^[j] v), max 0 opts.tolRadS < p) := by
  intro hs next v r
  obtain ⟨k, -, hqdot, -, hyes, hno⟩ := sweepLoop_spec (sort cons) maxJointVelDegS (max 1 opts.minSweeps)
    (le_max_left 0 opts.tolRadS) (max (max 1 opts.minSweeps) opts.maxSweeps) ⟨v, 0, false, false⟩ rfl
  simp only [Nat.zero_add] at hyes hno
  refine ⟨k, hqdot, hyes, fun h => ?_⟩
  obtain ⟨rfl, hlarge⟩ := hno h
  exact ⟨rfl, hlarge⟩

theorem mem_halfSpaces (hsort : SortsBy VelocityConstraint.dNow sort) {h : HalfSpace (Fin (2 * kDof)) ℝ} :
    h ∈ (sort cons).map VelocityConstraint.halfSpace ↔ ∃ c ∈ cons, c.halfSpace = h := by
  rw [List.mem_map]
  exact exists_congr fun c => and_congr_left fun _ => (hsort.perm cons).mem_iff

theorem Admissible.holds (hsort : SortsBy VelocityConstraint.dNow sort) {z : DualVec ℝ}
    (hz : Admissible cons maxJointVelDegS z) : ∀ h ∈ (sort cons).map VelocityConstraint.halfSpace, h.Holds z := by
  intro h hh
  obtain ⟨c, hc, rfl⟩ := (mem_halfSpaces hsort).mp hh
  exact hz.rows c hc

theorem sqDist_solve_le (hsort : SortsBy VelocityConstraint.dNow sort) {z : DualVec ℝ}
    (hz : Admissible cons maxJointVelDegS z) :
    sqDist (speedRadS prevDeg
        (solveVelocityProjection Real.sqrt sort cons prevDeg targetDeg dtSec opts maxJointVelDegS).1 dtSec) z ≤
      sqDist (speedRadS prevDeg targetDeg dtSec) z := by
  by_cases h : dtSec ≤ 1 / 10 ^ 6 ∨ cons = []
  · rw [solve_of_inactive h]
  · obtain ⟨k, hqdot, -⟩ := solved_spec sort cons prevDeg targetDeg dtSec opts maxJointVelDegS
    rw [(solve_of_active h).2.2, hqdot]
    exact sqDist_iterate_cycle (hz.holds hsort) hz.ceilings k

/-- A request that every row and ceiling admits is the command. -/
theorem solve_of_admissible (hsort : SortsBy VelocityConstraint.dNow sort)
    (hreq : Admissible cons maxJointVelDegS (speedRadS prevDeg targetDeg dtSec)) :
    (solveVelocityProjection Real.sqrt sort cons prevDeg targetDeg dtSec opts maxJointVelDegS).1 = targetDeg := by
  by_cases h : dtSec ≤ 1 / 10 ^ 6 ∨ cons = []
  · rw [solve_of_inactive h]
  · have hzero := @sqDist_solve_le cons maxJointVelDegS sort prevDeg targetDeg dtSec opts hsort _ hreq
    rw [sqDist_self] at hzero
    have hspeed := sub_eq_zero.mp (dotProduct_self_eq_zero.mp (le_antisymm hzero (sqDist_nonneg _ _)))
    have hdt : dtSec ≠ 0 := by
      rintro rfl
      exact h (Or.inl (by norm_num))
    funext i
    have hi := congrFun hspeed i
    rw [speedRadS, speedRadS, div_left_inj' hdt, sub_left_inj] at hi
    exact mul_right_cancel₀ kDeg2Rad_pos.ne' hi

/-- Every ceiling holds after every sweep. -/
theorem solve_ceilings (h : ¬ (dtSec ≤ 1 / 10 ^ 6 ∨ cons = [])) :
    InBox (ceilingRadS maxJointVelDegS)
      (speedRadS prevDeg (solveVelocityProjection Real.sqrt sort cons prevDeg targetDeg dtSec opts maxJointVelDegS).1
        dtSec) := by
  obtain ⟨k, hqdot, hyes, hno⟩ := solved_spec sort cons prevDeg targetDeg dtSec opts maxJointVelDegS
  have hswept : ∃ j, k = j + 1 := by
    cases hconverged : (solved sort cons prevDeg targetDeg dtSec opts maxJointVelDegS).converged with
    | true =>
      obtain ⟨j, hj, -⟩ := hyes hconverged
      exact ⟨j, hj⟩
    | false =>
      exact ⟨k - 1, by have := (hno hconverged).1; omega⟩
  obtain ⟨j, rfl⟩ := hswept
  rw [(solve_of_active h).2.2, hqdot, Function.iterate_succ_apply']
  exact clampTo_inBox _ _

/-- **Rows hold up to the tolerance** once the sweeps have converged. -/
theorem solve_rows (hsort : SortsBy VelocityConstraint.dNow sort) (h : ¬ (dtSec ≤ 1 / 10 ^ 6 ∨ cons = []))
    (hmin : 2 ≤ opts.minSweeps)
    (hconverged : (solveVelocityProjection Real.sqrt sort cons prevDeg targetDeg dtSec opts
      maxJointVelDegS).2.converged = true) :
    ∀ c ∈ cons, -c.xi - max 0 opts.tolRadS * (rowSize c + 2 * cons.length * norm1 c.J) ≤
      c.J ⬝ᵥ speedRadS prevDeg
        (solveVelocityProjection Real.sqrt sort cons prevDeg targetDeg dtSec opts maxJointVelDegS).1 dtSec := by
  obtain ⟨k, hqdot, hyes, -⟩ := solved_spec sort cons prevDeg targetDeg dtSec opts maxJointVelDegS
  rw [(solve_of_active h).2.1] at hconverged
  obtain ⟨j, rfl, hlate, hsmall⟩ := hyes hconverged
  -- the last sweep starts where an earlier one has clamped
  obtain ⟨i, rfl⟩ : ∃ i, j = i + 1 := ⟨j - 1, by omega⟩
  rw [Function.iterate_succ_apply'] at hsmall
  intro c hc
  have hexcess := excess_cycle_le (le_max_left 0 opts.tolRadS) hsmall (clampTo_inBox _ _) c.halfSpace
    ((mem_halfSpaces hsort).mpr ⟨c, hc, rfl⟩)
  rw [List.length_map, (hsort.perm cons).length_eq] at hexcess
  rw [(solve_of_active h).2.2, hqdot, Function.iterate_succ_apply', Function.iterate_succ_apply']
  have hbound : -c.xi - c.J ⬝ᵥ cycle ((sort cons).map VelocityConstraint.halfSpace) (ceilingRadS maxJointVelDegS)
      (cycle ((sort cons).map VelocityConstraint.halfSpace) (ceilingRadS maxJointVelDegS)
        ((cycle ((sort cons).map VelocityConstraint.halfSpace) (ceilingRadS maxJointVelDegS))^[i]
          (speedRadS prevDeg targetDeg dtSec))) ≤
      max 0 opts.tolRadS * (rowSize c + 2 * cons.length * norm1 c.J) := hexcess
  linarith

/-- Sweeps that have not converged have come a long way. -/
theorem far_of_not_converged (hsort : SortsBy VelocityConstraint.dNow sort)
    (h : ¬ (dtSec ≤ 1 / 10 ^ 6 ∨ cons = []))
    (hnot : (solveVelocityProjection Real.sqrt sort cons prevDeg targetDeg dtSec opts
      maxJointVelDegS).2.converged = false) {z : DualVec ℝ} (hz : Admissible cons maxJointVelDegS z) :
    (max (max 1 opts.minSweeps) opts.maxSweeps + 1 - max 1 opts.minSweeps : ℕ) * max 0 opts.tolRadS ^ 2 ≤
      sqDist (speedRadS prevDeg targetDeg dtSec) z := by
  obtain ⟨k, -, -, hno⟩ := solved_spec sort cons prevDeg targetDeg dtSec opts maxJointVelDegS
  rw [(solve_of_active h).2.1] at hnot
  obtain ⟨rfl, hlarge⟩ := hno hnot
  refine le_trans ?_ (sqDist_iterate_cycle (hz.holds hsort) hz.ceilings (max 1 opts.minSweeps - 1))
  refine mul_sq_le_sqDist (hz.holds hsort) hz.ceilings (le_max_left 0 opts.tolRadS) fun i hi => ?_
  obtain ⟨p, hp, hlt⟩ := hlarge (i + (max 1 opts.minSweeps - 1)) (by omega) (by omega)
  rw [Function.iterate_add_apply] at hp
  exact ⟨p, hp, hlt.le⟩

/-- Nothing is left to sweep for a request that every row and ceiling admits. -/
theorem converged_of_admissible (hsort : SortsBy VelocityConstraint.dNow sort) (htol : 0 < opts.tolRadS)
    (hreq : Admissible cons maxJointVelDegS (speedRadS prevDeg targetDeg dtSec))
    (hactive : (solveVelocityProjection Real.sqrt sort cons prevDeg targetDeg dtSec opts
      maxJointVelDegS).2.active = true) :
    (solveVelocityProjection Real.sqrt sort cons prevDeg targetDeg dtSec opts
      maxJointVelDegS).2.converged = true := by
  have h : ¬ (dtSec ≤ 1 / 10 ^ 6 ∨ cons = []) := fun h => by
    rw [solve_of_inactive h] at hactive
    exact Bool.false_ne_true hactive
  by_contra hnot
  have hfar := far_of_not_converged hsort h (Bool.eq_false_of_not_eq_true hnot) hreq
  rw [sqDist_self, max_eq_right htol.le] at hfar
  have hsweeps : (1 : ℝ) ≤ (max (max 1 opts.minSweeps) opts.maxSweeps + 1 - max 1 opts.minSweeps : ℕ) := by
    exact_mod_cast (by omega : 1 ≤ max (max 1 opts.minSweeps) opts.maxSweeps + 1 - max 1 opts.minSweeps)
  exact absurd hfar (not_le.mpr (mul_pos (zero_lt_one.trans_le hsweeps) (pow_pos htol 2)))

end

/-- A pair at its floor, which may come no closer. -/
def floorRow : VelocityConstraint ℝ := ⟨fun _ => 1, 0, 0, 0, 1, .self⟩

end RbServo.Collision
