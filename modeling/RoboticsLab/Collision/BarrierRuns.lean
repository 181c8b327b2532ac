import RoboticsLab.Collision.Projection
import RoboticsLab.Control.ProjectionRelease

/-!
# Runs of the collision barrier

Tick after tick the near pairs of the last verdict become rows, the request is projected onto them, and the
command is what the next tick starts from.  A pair is followed through a run by its clearance, a function of
the pose that the measured Jacobian tells up to `η` within a tick's reach.

    a row for every pair in its slow band, also from an old verdict   (Follows.row)
    a tick                                                            (Follows.margin_step)
    a run : the floor, up to one tick's overrun and the slack         (barrier_keeps)

A margin `m` closes at no more than `√(2 a m)`, so a tick can brake late by `a dt² / 2` at most.
-/

namespace RbServo.Collision

open Matrix HalfSpaces

/-! ## One tick -/

/-- What the barrier reads of the configuration. -/
structure BarrierConfig (K : Type*) where
  monitor : MonitorConfig K
  opts : VelocityProjectionOptions K
  dqMaxDegS : Fin kDof → K
  dtSec : K
  projectionReleaseSlewDegS2 : K

/-- What it keeps from tick to tick. -/
structure BarrierState (K : Type*) where
  prevSentQDeg : DualVec K
  engagedPairs : Option (Finset ℕ)
  /-- `projection_correction_prev_`. -/
  correctionPrevDeg : DualVec K

structure BarrierTick (K : Type*) where
  stale : Bool
  /-- The pairs of the verdict, measured at `qEvalDeg`. -/
  pairs : List (NearPair K)
  qEvalDeg : DualVec K
  verdictAge : K
  gripperExcluded : Bool
  /-- The rows of the floors, the reach and the region of interest. -/
  otherRows : List (VelocityConstraint K)
  requestedQDeg : DualVec K

/-- One arm of a pose. -/
def armPart {K : Type*} (q : DualVec K) (arm : ArmId) : Joints K := fun j => q (armIndex arm j)

section

variable {K : Type*} [Field K] [LinearOrder K] (sqrt : K → K) (sortPairs : List (NearPair K) → List (NearPair K))
  (sortRows : List (VelocityConstraint K) → List (VelocityConstraint K)) (cfg : BarrierConfig K)

def BarrierTick.buildOpts (t : BarrierTick K) (s : BarrierState K) : ConstraintBuildOptions K :=
  ⟨t.gripperExcluded, some s.prevSentQDeg⟩

/-- The engaged pairs and the rows of a tick; a stale verdict has none. -/
def barrierRows (s : BarrierState K) (t : BarrierTick K) : Option (Finset ℕ) × List (VelocityConstraint K) :=
  if t.stale then (s.engagedPairs, t.otherRows)
  else
    let built :=
      buildCollisionConstraints sqrt (reduce cfg.monitor sortPairs t.pairs t.qEvalDeg) cfg.monitor t.verdictAge
      s.engagedPairs (t.buildOpts s)
    (built.1, t.otherRows ++ built.2)

/-- The collision barrier's part of `applySafety`: a stale verdict holds both arms where they are. -/
def barrierTick (s : BarrierState K) (t : BarrierTick K) : BarrierState K :=
  let rows := barrierRows sqrt sortPairs cfg s t
  let requested := if t.stale then s.prevSentQDeg else t.requestedQDeg
  let projected := if t.stale then requested
    else (solveVelocityProjection sqrt sortRows rows.2 s.prevSentQDeg requested cfg.dtSec cfg.opts cfg.dqMaxDegS).1
  let released := fun arm => projectionReleaseStep (armPart requested arm) (armPart projected arm)
    (armPart s.correctionPrevDeg arm) cfg.dtSec cfg.projectionReleaseSlewDegS2
  ⟨fun i => (released (armOf i)).1 (jointOf i), rows.1, fun i => (released (armOf i)).2 (jointOf i)⟩

/-- The states of a run. -/
def barrierStates (s : BarrierState K) (ticks : ℕ → BarrierTick K) : ℕ → BarrierState K
  | 0 => s
  | n + 1 => barrierTick sqrt sortPairs sortRows cfg (barrierStates s ticks n) (ticks n)

variable {sqrt sortPairs sortRows cfg} {s : BarrierState K} {t : BarrierTick K}

/-- With the release slew off the command is what the projection leaves. -/
theorem barrierTick_prevSent (hslew : ¬ 0 < cfg.projectionReleaseSlewDegS2) :
    (barrierTick sqrt sortPairs sortRows cfg s t).prevSentQDeg =
      if t.stale then s.prevSentQDeg
      else (solveVelocityProjection sqrt sortRows (barrierRows sqrt sortPairs cfg s t).2 s.prevSentQDeg t.requestedQDeg
        cfg.dtSec cfg.opts cfg.dqMaxDegS).1 := by
  funext i
  rw [barrierTick]
  dsimp only
  rw [projectionReleaseStep, if_pos (Or.inl hslew)]
  dsimp only
  rw [armPart, armIndex_eq]
  cases t.stale <;> rfl

/-- At most one row for a pair. -/
theorem length_buildRows_le (opts : ConstraintBuildOptions K) (dq : Option (DualVec K)) (age : K)
    (engaged : Option (Finset ℕ)) (near : List (NearPair K)) (mcfg : MonitorConfig K) :
    (buildRows sqrt mcfg opts dq age engaged near).2.length ≤ near.length := by
  induction near generalizing engaged with
  | nil => exact le_rfl
  | cons p near ih =>
    rw [buildRows]
    dsimp only
    have hone : (buildRow sqrt mcfg opts dq age engaged p).2.toList.length ≤ 1 := by
      cases (buildRow sqrt mcfg opts dq age engaged p).2 <;> simp
    rw [List.length_append, List.length_cons]
    have hrest := ih (buildRow sqrt mcfg opts dq age engaged p).1
    omega

theorem length_barrierRows_le (hsort : SortsBy NearPair.dM sortPairs) :
    (barrierRows sqrt sortPairs cfg s t).2.length ≤ t.otherRows.length + t.pairs.length := by
  rw [barrierRows]
  split
  · exact Nat.le_add_right _ _
  · dsimp only
    rw [List.length_append]
    refine Nat.add_le_add_left ?_ _
    have hvalid : (reduce cfg.monitor sortPairs t.pairs t.qEvalDeg).valid = true := rfl
    rw [buildCollisionConstraints, if_pos hvalid]
    refine (length_buildRows_le _ _ _ _ _ _).trans ?_
    calc (nearList cfg.monitor sortPairs t.pairs).length
        ≤ (sortPairs (t.pairs.filter fun p => !onlyReported cfg.monitor p.category)).length :=
          (nearList_sublist cfg.monitor sortPairs t.pairs).length_le
      _ = (t.pairs.filter fun p => !onlyReported cfg.monitor p.category).length := (hsort.perm _).length_eq
      _ ≤ t.pairs.length := List.length_filter_le _ _

end

/-! ## What a tick keeps of a clearance -/

/-- Braking at the speed that a margin allows uses up no more than the margin and what one tick runs on. -/
theorem neg_le_sub_mul_sqrt {a m : ℝ} (ha : 0 ≤ a) (hm : 0 ≤ m) (dt : ℝ) :
    -(a * dt ^ 2 / 2) ≤ m - dt * Real.sqrt (2 * a * m) := by
  have hr : Real.sqrt (2 * a * m) ^ 2 = 2 * a * m := Real.sq_sqrt (by positivity)
  rcases ha.eq_or_lt with rfl | hpos
  · simpa using hm
  · have hsq : 0 ≤ (Real.sqrt (2 * a * m) - a * dt) ^ 2 := sq_nonneg _
    have hmul : 0 ≤ 2 * a * (m - dt * Real.sqrt (2 * a * m) + a * dt ^ 2 / 2) := by
      linarith [show (Real.sqrt (2 * a * m) - a * dt) ^ 2 =
        Real.sqrt (2 * a * m) ^ 2 - 2 * a * (dt * Real.sqrt (2 * a * m)) + 2 * a * (a * dt ^ 2 / 2) by ring]
    linarith [nonneg_of_mul_nonneg_right hmul (by positivity)]

/-- A pair of the world at a tick: measured by the verdict, with a clearance that its Jacobian tells up to `η`
within the reach of the tick, and a band that is wider than this reach. -/
structure Follows (cfg : BarrierConfig ℝ) (clearance : DualVec ℝ → ℝ) (category : PairCategory) (η ε : ℝ)
    (s : BarrierState ℝ) (t : BarrierTick ℝ) (p : NearPair ℝ) : Prop where
  measured : p ∈ t.pairs
  category_eq : p.category = category
  uncovered : category = .gripperGripper → t.gripperExcluded = false
  actuated : 1 / 10 ^ 18 ≤ p.jn ⬝ᵥ p.jn
  fresh : |p.jn ⬝ᵥ fun i => (s.prevSentQDeg i - t.qEvalDeg i) * kDeg2Rad| ≤ (cfg.monitor.barrier category).hystM
  firstOrder : ∀ q : DualVec ℝ, (∀ i, |q i - s.prevSentQDeg i| ≤ cfg.dqMaxDegS (jointOf i) * cfg.dtSec) →
    |clearance q - (p.dM + p.jn ⬝ᵥ fun i => (q i - t.qEvalDeg i) * kDeg2Rad)| ≤ η
  reach : (∑ i, |p.jn i| * (cfg.dqMaxDegS (jointOf i) * kDeg2Rad)) * cfg.dtSec ≤
    (cfg.monitor.barrier category).dSlowM - (cfg.monitor.barrier category).dHardM
  residual : max 0 cfg.opts.tolRadS * (Real.sqrt (max (p.jn ⬝ᵥ p.jn) (1 / 10 ^ 9)) +
    2 * (t.otherRows.length + t.pairs.length : ℕ) * norm1 p.jn) ≤ ε
  requested : ∀ i, |t.requestedQDeg i - s.prevSentQDeg i| ≤ cfg.dqMaxDegS (jointOf i) * cfg.dtSec

section

variable {sortPairs : List (NearPair ℝ) → List (NearPair ℝ)}
  {sortRows : List (VelocityConstraint ℝ) → List (VelocityConstraint ℝ)} {cfg : BarrierConfig ℝ}
  {clearance : DualVec ℝ → ℝ} {category : PairCategory} {η ε : ℝ} {s : BarrierState ℝ} {t : BarrierTick ℝ}
  {p : NearPair ℝ}

/-- The projection of a tick has converged, where it acts. -/
def Converges (sortPairs : List (NearPair ℝ) → List (NearPair ℝ))
    (sortRows : List (VelocityConstraint ℝ) → List (VelocityConstraint ℝ)) (cfg : BarrierConfig ℝ) (s : BarrierState ℝ)
    (t : BarrierTick ℝ) : Prop :=
  let r := (solveVelocityProjection Real.sqrt sortRows (barrierRows Real.sqrt sortPairs cfg s t).2 s.prevSentQDeg
    t.requestedQDeg cfg.dtSec cfg.opts cfg.dqMaxDegS).2
  r.active = true → r.converged = true

/-- `d_now` of the pair at the pose of the tick. -/
noncomputable def NearPair.now (p : NearPair ℝ) (s : BarrierState ℝ) (t : BarrierTick ℝ) : ℝ :=
  p.dM + p.jn ⬝ᵥ fun i => (s.prevSentQDeg i - t.qEvalDeg i) * kDeg2Rad

/-- A row of the tick for every pair in its slow band. -/
theorem Follows.row (hf : Follows cfg clearance category η ε s t p) (hsort : SortsBy NearPair.dM sortPairs)
    (honly : onlyReported cfg.monitor category = false) (hstale : t.stale = false)
    (hnear : p.now s t < (cfg.monitor.barrier category).dSlowM) :
    ∃ c ∈ (barrierRows Real.sqrt sortPairs cfg s t).2, c.J = p.jn ∧
      c.xi = allowed Real.sqrt (cfg.monitor.barrier category) (p.now s t - (cfg.monitor.barrier category).dHardM) := by
  obtain rfl := hf.category_eq
  have hcovered : gripCovered (t.buildOpts s) p.category = false := by
    rw [gripCovered]
    by_cases hgrip : p.category = .gripperGripper
    · rw [show (t.buildOpts s).excludeGripperGripper = false from hf.uncovered hgrip, Bool.and_false]
    · rw [decide_eq_false hgrip, Bool.false_and]
  have hbarrier : rowBarrier cfg.monitor (t.buildOpts s) p.category = cfg.monitor.barrier p.category := by
    rw [rowBarrier, hcovered, if_neg Bool.false_ne_true]
  have henforced : Enforced cfg.monitor (t.buildOpts s) p.category :=
    ⟨honly, fun h => absurd (hcovered.symm.trans h) Bool.false_ne_true⟩
  have hrow : ∃ c ∈ (buildCollisionConstraints Real.sqrt (reduce cfg.monitor sortPairs t.pairs t.qEvalDeg) cfg.monitor
      t.verdictAge s.engagedPairs (t.buildOpts s)).2, c.J = p.jn ∧ c.dNow = p.now s t ∧
        c.xi = allowed Real.sqrt (rowBarrier cfg.monitor (t.buildOpts s) p.category)
          (c.dNow - (rowBarrier cfg.monitor (t.buildOpts s) p.category).dHardM) :=
    row_of_band hsort hf.measured henforced hf.actuated rfl hf.fresh (by rw [hbarrier]; exact le_rfl)
      (by rw [hbarrier]; exact hnear) t.verdictAge s.engagedPairs
  obtain ⟨c, hc, hJ, hdNow, hxi⟩ := hrow
  rw [hbarrier, hdNow] at hxi
  refine ⟨c, ?_, hJ, hxi⟩
  rw [barrierRows, hstale, if_neg Bool.false_ne_true]
  exact List.mem_append_right _ hc

/-- The speed of a tick obeys the ceilings, whether the projection acts or not. -/
theorem Follows.speed_le (hf : Follows cfg clearance category η ε s t p)
    (sortPairs : List (NearPair ℝ) → List (NearPair ℝ))
    (sortRows : List (VelocityConstraint ℝ) → List (VelocityConstraint ℝ)) (hstale : t.stale = false)
    (hslew : ¬ 0 < cfg.projectionReleaseSlewDegS2) (hdt : 1 / 10 ^ 6 < cfg.dtSec) (hmax : ∀ j, 0 < cfg.dqMaxDegS j)
    (i : Fin (2 * kDof)) :
    |speedRadS s.prevSentQDeg (barrierTick Real.sqrt sortPairs sortRows cfg s t).prevSentQDeg cfg.dtSec i| ≤
      cfg.dqMaxDegS (jointOf i) * kDeg2Rad := by
  have hpos : 0 < cfg.dtSec := lt_trans (by norm_num) hdt
  rw [barrierTick_prevSent hslew, hstale, if_neg Bool.false_ne_true]
  by_cases hcons : (barrierRows Real.sqrt sortPairs cfg s t).2 = []
  · rw [solve_of_inactive (Or.inr hcons), speedRadS, ← sub_mul, abs_div, abs_mul, abs_of_pos hpos,
      abs_of_pos kDeg2Rad_pos, div_le_iff₀ hpos]
    calc |t.requestedQDeg i - s.prevSentQDeg i| * kDeg2Rad ≤ cfg.dqMaxDegS (jointOf i) * cfg.dtSec * kDeg2Rad :=
          mul_le_mul_of_nonneg_right (hf.requested i) kDeg2Rad_pos.le
      _ = cfg.dqMaxDegS (jointOf i) * kDeg2Rad * cfg.dtSec := by ring
  · exact solve_ceilings (not_or.mpr ⟨not_le.mpr hdt, hcons⟩) i (mul_pos (hmax _) kDeg2Rad_pos)

/-- The rows bound how fast the pair closes. -/
theorem Follows.closing_le (hf : Follows cfg clearance category η ε s t p) (hpairs : SortsBy NearPair.dM sortPairs)
    (hrows : SortsBy VelocityConstraint.dNow sortRows) (honly : onlyReported cfg.monitor category = false)
    (hstale : t.stale = false) (hslew : ¬ 0 < cfg.projectionReleaseSlewDegS2) (hdt : 1 / 10 ^ 6 < cfg.dtSec)
    (hmin : 2 ≤ cfg.opts.minSweeps) (hconverges : Converges sortPairs sortRows cfg s t)
    (hnear : p.now s t < (cfg.monitor.barrier category).dSlowM) :
    -allowed Real.sqrt (cfg.monitor.barrier category) (p.now s t - (cfg.monitor.barrier category).dHardM) - ε ≤
      p.jn ⬝ᵥ speedRadS s.prevSentQDeg (barrierTick Real.sqrt sortPairs sortRows cfg s t).prevSentQDeg cfg.dtSec := by
  obtain ⟨c, hc, hJ, hxi⟩ := hf.row hpairs honly hstale hnear
  have hactive : ¬ (cfg.dtSec ≤ 1 / 10 ^ 6 ∨ (barrierRows Real.sqrt sortPairs cfg s t).2 = []) :=
    not_or.mpr ⟨not_le.mpr hdt, List.ne_nil_of_mem hc⟩
  have hrow := solve_rows hrows hactive hmin (hconverges (solve_of_active hactive).1) c hc
  rw [barrierTick_prevSent hslew, hstale, if_neg Bool.false_ne_true]
  rw [hxi, rowSize, hJ] at hrow
  have hlength : ((barrierRows Real.sqrt sortPairs cfg s t).2.length : ℝ) ≤
      (t.otherRows.length + t.pairs.length : ℕ) := Nat.cast_le.mpr (length_barrierRows_le hpairs)
  have hslack := mul_le_mul_of_nonneg_left (mul_le_mul_of_nonneg_right
    (mul_le_mul_of_nonneg_left hlength zero_le_two) (norm1_nonneg p.jn)) (le_max_left 0 cfg.opts.tolRadS)
  linarith [hf.residual]

theorem Follows.eps_nonneg (hf : Follows cfg clearance category η ε s t p) : 0 ≤ ε :=
  (mul_nonneg (le_max_left _ _) (add_nonneg (Real.sqrt_nonneg _)
    (mul_nonneg (mul_nonneg zero_le_two (Nat.cast_nonneg _)) (norm1_nonneg p.jn)))).trans hf.residual

/-- The clearance after the tick, by the speed of the tick. -/
theorem Follows.clearance_next (hf : Follows cfg clearance category η ε s t p) (hpos : 0 < cfg.dtSec)
    {q : DualVec ℝ} (hq : ∀ i, |speedRadS s.prevSentQDeg q cfg.dtSec i| ≤ cfg.dqMaxDegS (jointOf i) * kDeg2Rad) :
    p.now s t + cfg.dtSec * (p.jn ⬝ᵥ speedRadS s.prevSentQDeg q cfg.dtSec) - η ≤ clearance q := by
  have hmove : ∀ i, (q i - s.prevSentQDeg i) * kDeg2Rad =
      cfg.dtSec * speedRadS s.prevSentQDeg q cfg.dtSec i := fun i => by
    rw [speedRadS, mul_div_cancel₀ _ hpos.ne', sub_mul]
  have hwithin : ∀ i, |q i - s.prevSentQDeg i| ≤ cfg.dqMaxDegS (jointOf i) * cfg.dtSec := fun i => by
    refine le_of_mul_le_mul_right ?_ (kDeg2Rad_pos)
    calc |q i - s.prevSentQDeg i| * kDeg2Rad = |(q i - s.prevSentQDeg i) * kDeg2Rad| := by
          rw [abs_mul, abs_of_pos kDeg2Rad_pos]
      _ = cfg.dtSec * |speedRadS s.prevSentQDeg q cfg.dtSec i| := by rw [hmove, abs_mul, abs_of_pos hpos]
      _ ≤ cfg.dtSec * (cfg.dqMaxDegS (jointOf i) * kDeg2Rad) := mul_le_mul_of_nonneg_left (hq i) hpos.le
      _ = cfg.dqMaxDegS (jointOf i) * cfg.dtSec * kDeg2Rad := by ring
  have hsplit : (p.jn ⬝ᵥ fun i => (q i - t.qEvalDeg i) * kDeg2Rad) =
      (p.jn ⬝ᵥ fun i => (s.prevSentQDeg i - t.qEvalDeg i) * kDeg2Rad) +
        cfg.dtSec * (p.jn ⬝ᵥ speedRadS s.prevSentQDeg q cfg.dtSec) := by
    have hsmul : cfg.dtSec * (p.jn ⬝ᵥ speedRadS s.prevSentQDeg q cfg.dtSec) =
        p.jn ⬝ᵥ (cfg.dtSec • speedRadS s.prevSentQDeg q cfg.dtSec) := by rw [dotProduct_smul, smul_eq_mul]
    rw [hsmul, ← dotProduct_add]
    congr 1
    funext i
    rw [Pi.add_apply, Pi.smul_apply, smul_eq_mul, ← hmove i]
    ring
  have hlow := (abs_le.mp (hf.firstOrder q hwithin)).1
  rw [hsplit] at hlow
  rw [NearPair.now]
  linarith

/-- What a tick may cost beyond the braking of a tick: the residual of the rows and the curvature. -/
def BarrierConfig.slack (cfg : BarrierConfig ℝ) (η ε : ℝ) : ℝ := cfg.dtSec * ε + 2 * η

/-- How far below the floor a tick can brake late. -/
noncomputable def BarrierConfig.overrun (cfg : BarrierConfig ℝ) (category : PairCategory) : ℝ :=
  (cfg.monitor.barrier category).aBrakeMS2 * cfg.dtSec ^ 2 / 2

/-- What the slack takes from a pair below its floor in a tick, beyond what it recovers. -/
noncomputable def BarrierConfig.creep (cfg : BarrierConfig ℝ) (category : PairCategory) (η ε : ℝ) : ℝ :=
  max 0 (cfg.slack η ε - cfg.dtSec * (cfg.monitor.barrier category).recoverSpeedMS)

/-- **One tick**: a pair above its floor stays above it up to the overrun and the slack, a pair below goes no
deeper than the creep. -/
theorem Follows.margin_step (hf : Follows cfg clearance category η ε s t p) (hpairs : SortsBy NearPair.dM sortPairs)
    (hrows : SortsBy VelocityConstraint.dNow sortRows) (honly : onlyReported cfg.monitor category = false)
    (hstale : t.stale = false) (hslew : ¬ 0 < cfg.projectionReleaseSlewDegS2) (hdt : 1 / 10 ^ 6 < cfg.dtSec)
    (hmin : 2 ≤ cfg.opts.minSweeps) (hmax : ∀ j, 0 < cfg.dqMaxDegS j)
    (hbrake : 0 ≤ (cfg.monitor.barrier category).aBrakeMS2) (hconverges : Converges sortPairs sortRows cfg s t) :
    min (clearance s.prevSentQDeg - (cfg.monitor.barrier category).dHardM - cfg.creep category η ε)
        (-cfg.overrun category - cfg.slack η ε) ≤
      clearance (barrierTick Real.sqrt sortPairs sortRows cfg s t).prevSentQDeg -
        (cfg.monitor.barrier category).dHardM := by
  have hpos : 0 < cfg.dtSec := lt_trans (by norm_num) hdt
  have hspeed := hf.speed_le sortPairs sortRows hstale hslew hdt hmax
  have hnext := hf.clearance_next hpos hspeed
  have hhere := hf.firstOrder s.prevSentQDeg fun i => by
    rw [sub_self, abs_zero]
    exact (mul_pos (hmax _) hpos).le
  have hη : 0 ≤ η := (abs_nonneg _).trans hhere
  have hε : 0 ≤ cfg.dtSec * ε := mul_nonneg hpos.le hf.eps_nonneg
  have hoverrun : 0 ≤ cfg.overrun category := div_nonneg (mul_nonneg hbrake (sq_nonneg _)) zero_le_two
  have hslack : cfg.slack η ε = cfg.dtSec * ε + 2 * η := rfl
  rcases lt_or_ge (p.now s t) (cfg.monitor.barrier category).dSlowM with hnear | hfar
  · have hclosing := mul_le_mul_of_nonneg_left
      (hf.closing_le hpairs hrows honly hstale hslew hdt hmin hconverges hnear) hpos.le
    rw [allowed] at hclosing
    split at hclosing
    · -- above the floor the pair brakes
      rename_i hmargin
      refine (min_le_right _ _).trans ?_
      have hstop := neg_le_sub_mul_sqrt hbrake hmargin.le cfg.dtSec
      rw [hslack, BarrierConfig.overrun]
      linarith
    · -- below the floor it recovers
      rename_i hmargin
      refine (min_le_left _ _).trans ?_
      have hcreep : cfg.slack η ε - cfg.dtSec * (cfg.monitor.barrier category).recoverSpeedMS ≤
        cfg.creep category η ε :=
        le_max_right _ _
      have hnow := (abs_le.mp hhere).2
      rw [← NearPair.now] at hnow
      rw [hslack] at hcreep
      linarith
  · -- out of the band there may be no row, but the band is wider than a tick
    refine (min_le_right _ _).trans ?_
    have hreach := mul_le_mul_of_nonneg_left (neg_le_of_abs_le (abs_dotProduct_le p.jn hspeed)) hpos.le
    linarith [hf.reach]

/-- A stale verdict holds the pose. -/
theorem barrierTick_stale (hstale : t.stale = true) (hslew : ¬ 0 < cfg.projectionReleaseSlewDegS2) :
    (barrierTick Real.sqrt sortPairs sortRows cfg s t).prevSentQDeg = s.prevSentQDeg := by
  rw [barrierTick_prevSent hslew, if_pos hstale]

/-- **The barrier keeps its floor**: in every run, whatever is requested, a pair that the verdicts follow stays
above its floor up to the overrun and the slack of one tick, or as deep below as it was, and creeps by no more
than the slack that it does not recover. -/
theorem barrier_keeps (hpairs : SortsBy NearPair.dM sortPairs) (hrows : SortsBy VelocityConstraint.dNow sortRows)
    (honly : onlyReported cfg.monitor category = false) (hslew : ¬ 0 < cfg.projectionReleaseSlewDegS2)
    (hdt : 1 / 10 ^ 6 < cfg.dtSec) (hmin : 2 ≤ cfg.opts.minSweeps) (hmax : ∀ j, 0 < cfg.dqMaxDegS j)
    (hbrake : 0 ≤ (cfg.monitor.barrier category).aBrakeMS2) (ticks : ℕ → BarrierTick ℝ) (n : ℕ)
    (hticks : ∀ k < n, (ticks k).stale = false →
      Converges sortPairs sortRows cfg (barrierStates Real.sqrt sortPairs sortRows cfg s ticks k) (ticks k) ∧
      ∃ p, Follows cfg clearance category η ε (barrierStates Real.sqrt sortPairs sortRows cfg s ticks k) (ticks k) p) :
    min (clearance s.prevSentQDeg - (cfg.monitor.barrier category).dHardM) (-cfg.overrun category - cfg.slack η ε) -
        n * cfg.creep category η ε ≤
      clearance (barrierStates Real.sqrt sortPairs sortRows cfg s ticks n).prevSentQDeg -
        (cfg.monitor.barrier category).dHardM := by
  have hcreep : 0 ≤ cfg.creep category η ε := le_max_left _ _
  induction n with
  | zero =>
    rw [Nat.cast_zero, zero_mul, sub_zero]
    exact min_le_left _ _
  | succ n ih =>
    have hbefore := ih fun k hk => hticks k (Nat.lt_succ_of_lt hk)
    have hcast : (0 : ℝ) ≤ n * cfg.creep category η ε := mul_nonneg (Nat.cast_nonneg n) hcreep
    rw [barrierStates, Nat.cast_succ, add_mul, one_mul]
    cases hstale : (ticks n).stale with
    | true =>
      rw [barrierTick_stale hstale hslew]
      linarith
    | false =>
      obtain ⟨hconverges, p, hf⟩ := hticks n (Nat.lt_succ_self n) hstale
      refine le_trans (le_min ?_ ?_)
        (hf.margin_step hpairs hrows honly hstale hslew hdt hmin hmax hbrake hconverges)
      · linarith
      · linarith [min_le_right (clearance s.prevSentQDeg - (cfg.monitor.barrier category).dHardM)
          (-cfg.overrun category - cfg.slack η ε)]

end

/-! ## An example: both arms close a pair by a degree a tick, under a verdict that grows old -/

noncomputable def approachConfig : BarrierConfig ℝ :=
  ⟨⟨⟨0, 2, 2, 1, 0⟩, ⟨0, 2, 2, 1, 0⟩, ⟨0, 2, 2, 1, 0⟩, ⟨0, 2, 2, 1, 0⟩, ⟨0, 2, 2, 1, 0⟩, ⟨0, 2, 2, 1, 0⟩,
    ⟨0, 2, 2, 1, 0⟩, 0, false, 8⟩, ⟨3, 10, 1⟩, fun _ => 1, 1, 0⟩

def approachPair : NearPair ℝ := ⟨0, 1, .leftRight, 1, fun _ => 1, 0⟩

def approachTicks (k : ℕ) : BarrierTick ℝ := ⟨false, [approachPair], 0, k, false, [], fun _ => -(k + 1)⟩

/-- The clearance of a world in which the Jacobian is exact. -/
noncomputable def approachClearance (q : DualVec ℝ) : ℝ :=
  1 + approachPair.jn ⬝ᵥ fun i => (q i - (0 : DualVec ℝ) i) * kDeg2Rad

/-- What convergence leaves open in the row of the pair. -/
noncomputable def approachResidual : ℝ :=
  max 0 approachConfig.opts.tolRadS * (Real.sqrt (max (approachPair.jn ⬝ᵥ approachPair.jn) (1 / 10 ^ 9)) +
    2 * (0 + 1 : ℕ) * norm1 approachPair.jn)

theorem approach_dotProduct (x : ℝ) : (approachPair.jn ⬝ᵥ fun _ => x) = 12 * x := by
  show ∑ _ : Fin (2 * kDof), 1 * x = 12 * x
  rw [Finset.sum_const, Finset.card_univ, Fintype.card_fin, nsmul_eq_mul, one_mul]
  norm_num [kDof]

theorem approach_speed (k : ℕ) :
    speedRadS (fun _ => -(k : ℝ)) (approachTicks k).requestedQDeg approachConfig.dtSec = fun _ => -kDeg2Rad := by
  funext i
  show (-((k : ℝ) + 1) * kDeg2Rad - -(k : ℝ) * kDeg2Rad) / 1 = -kDeg2Rad
  ring

theorem approach_turned {k : ℕ} (hk : k < 3) : 0 ≤ (k : ℝ) * kDeg2Rad ∧ (k : ℝ) * kDeg2Rad ≤ 1 / 25 := by
  have hk' : (k : ℝ) ≤ 2 := by exact_mod_cast (by omega : k ≤ 2)
  have hrad : (kDeg2Rad : ℝ) ≤ 1 / 50 := by norm_num [kDeg2Rad]
  refine ⟨mul_nonneg (Nat.cast_nonneg k) kDeg2Rad_pos.le, ?_⟩
  calc (k : ℝ) * kDeg2Rad ≤ 2 * (1 / 50) := mul_le_mul hk' hrad kDeg2Rad_pos.le zero_le_two
    _ = 1 / 25 := by norm_num

/-- For three ticks the pair may close as fast as it is asked to. -/
theorem approach_admissible {k : ℕ} (hk : k < 3) {s : BarrierState ℝ} (hs : s.prevSentQDeg = fun _ => -(k : ℝ)) :
    Admissible (barrierRows Real.sqrt (fun ps => ps.mergeSort fun p p' => p.dM ≤ p'.dM) approachConfig s
        (approachTicks k)).2
      approachConfig.dqMaxDegS (speedRadS s.prevSentQDeg (approachTicks k).requestedQDeg approachConfig.dtSec) := by
  obtain ⟨-, hturned⟩ := approach_turned hk
  have hrad : (kDeg2Rad : ℝ) ≤ 1 / 50 := by norm_num [kDeg2Rad]
  rw [hs, approach_speed]
  refine ⟨fun c hc => ?_, fun i _ => ?_⟩
  · have hrow : c ∈ (buildCollisionConstraints Real.sqrt (reduce approachConfig.monitor
        (fun ps => ps.mergeSort fun p p' => p.dM ≤ p'.dM) (approachTicks k).pairs (approachTicks k).qEvalDeg)
        approachConfig.monitor (approachTicks k).verdictAge s.engagedPairs ((approachTicks k).buildOpts s)).2 := by
      simpa [barrierRows, approachTicks] using hc
    obtain ⟨p, hp, -, rfl, -⟩ := near_of_row hrow
    obtain rfl : p = approachPair := by
      have hlisted := (nearList_sublist approachConfig.monitor (fun ps => ps.mergeSort fun p p' => p.dM ≤ p'.dM)
        (approachTicks k).pairs).subset hp
      have hmeasured := List.mem_of_mem_filter (((mergeSort_sortsBy NearPair.dM).perm _).mem_iff.mp hlisted)
      exact List.mem_singleton.mp hmeasured
    have hmargin : dNow (dqRad (reduce approachConfig.monitor (fun ps => ps.mergeSort fun p p' => p.dM ≤ p'.dM)
        (approachTicks k).pairs (approachTicks k).qEvalDeg) ((approachTicks k).buildOpts s))
        (max 0 (approachTicks k).verdictAge) approachPair - 0 = 1 - 12 * (k * kDeg2Rad) := by
      show 1 + (approachPair.jn ⬝ᵥ fun i => (s.prevSentQDeg i - 0) * kDeg2Rad) - 0 = 1 - 12 * (k * kDeg2Rad)
      rw [hs, approach_dotProduct]
      ring
    have hfloor : 1 / 4 ≤ 1 - 12 * ((k : ℝ) * kDeg2Rad) := by linarith
    show -allowed Real.sqrt ⟨0, 2, 2, 1, 0⟩ (dNow _ _ approachPair - 0) ≤ approachPair.jn ⬝ᵥ fun _ => -kDeg2Rad
    rw [hmargin, approach_dotProduct, allowed, if_pos (by linarith)]
    have hsqrt : 1 ≤ Real.sqrt (2 * 2 * (1 - 12 * ((k : ℝ) * kDeg2Rad))) := Real.one_le_sqrt.mpr (by linarith)
    linarith
  · show |-(kDeg2Rad : ℝ)| ≤ 1 * kDeg2Rad
    rw [abs_neg, abs_of_pos kDeg2Rad_pos, one_mul]

/-- What is asked for is what is done. -/
theorem approach_states {k : ℕ} (hk : k ≤ 3) :
    (barrierStates Real.sqrt (fun ps => ps.mergeSort fun p p' => p.dM ≤ p'.dM)
      (fun cs => cs.mergeSort fun c c' => c.dNow ≤ c'.dNow) approachConfig ⟨0, none, 0⟩ approachTicks k).prevSentQDeg =
      fun _ => -(k : ℝ) := by
  induction k with
  | zero =>
    funext i
    simp [barrierStates]
  | succ k ih =>
    have hs := ih (Nat.le_of_succ_le hk)
    rw [barrierStates, barrierTick_prevSent (lt_irrefl 0),
      if_neg (show ¬ (approachTicks k).stale = true from Bool.false_ne_true),
      solve_of_admissible (mergeSort_sortsBy VelocityConstraint.dNow) (approach_admissible hk hs)]
    funext i
    show -((k : ℝ) + 1) = -((k + 1 : ℕ) : ℝ)
    rw [Nat.cast_succ]

theorem approach_follows {k : ℕ} (hk : k < 3) {s : BarrierState ℝ} (hs : s.prevSentQDeg = fun _ => -(k : ℝ)) :
    Follows approachConfig approachClearance .leftRight 0 approachResidual s (approachTicks k) approachPair where
  measured := List.mem_singleton_self _
  category_eq := rfl
  uncovered h := absurd h (by decide)
  actuated := by
    rw [show approachPair.jn ⬝ᵥ approachPair.jn = 12 * 1 from approach_dotProduct 1]
    norm_num
  fresh := by
    obtain ⟨hnonneg, hturned⟩ := approach_turned hk
    show |approachPair.jn ⬝ᵥ fun i => (s.prevSentQDeg i - 0) * kDeg2Rad| ≤ 1
    rw [hs, approach_dotProduct, abs_le]
    constructor <;> linarith
  firstOrder q _ := by
    rw [approachClearance]
    exact (abs_eq_zero.mpr (sub_self _)).le
  reach := by
    have hsum : ∑ i : Fin (2 * kDof), |approachPair.jn i| * (approachConfig.dqMaxDegS (jointOf i) * kDeg2Rad) =
        12 * kDeg2Rad := by
      show ∑ _ : Fin (2 * kDof), |(1 : ℝ)| * (1 * kDeg2Rad) = 12 * kDeg2Rad
      rw [Finset.sum_const, Finset.card_univ, Fintype.card_fin, nsmul_eq_mul]
      norm_num [kDof]
    rw [hsum]
    show 12 * kDeg2Rad * 1 ≤ (2 : ℝ) - 0
    rw [kDeg2Rad]
    norm_num
  residual := le_rfl
  requested i := by
    show |-((k : ℝ) + 1) - s.prevSentQDeg i| ≤ 1 * 1
    rw [hs]
    norm_num

theorem barrier_keeps_approach :
    let states := barrierStates Real.sqrt (fun ps => ps.mergeSort fun p p' => p.dM ≤ p'.dM)
      (fun cs => cs.mergeSort fun c c' => c.dNow ≤ c'.dNow) approachConfig ⟨0, none, 0⟩ approachTicks
    (states 3).prevSentQDeg = (fun _ => -3) ∧
      min (approachClearance 0 - (approachConfig.monitor.barrier .leftRight).dHardM)
            (-approachConfig.overrun .leftRight - approachConfig.slack 0 approachResidual) -
          (3 : ℕ) * approachConfig.creep .leftRight 0 approachResidual ≤
        approachClearance (states 3).prevSentQDeg - (approachConfig.monitor.barrier .leftRight).dHardM := by
  have hdt : 1 / 10 ^ 6 < approachConfig.dtSec := by norm_num [approachConfig]
  have hmin : 2 ≤ approachConfig.opts.minSweeps := by norm_num [approachConfig]
  have htol : 0 < approachConfig.opts.tolRadS := by norm_num [approachConfig]
  have hbrake : 0 ≤ (approachConfig.monitor.barrier .leftRight).aBrakeMS2 := zero_le_two
  refine ⟨by simpa using approach_states le_rfl, ?_⟩
  refine barrier_keeps (s := ⟨0, none, 0⟩) (mergeSort_sortsBy NearPair.dM)
    (mergeSort_sortsBy VelocityConstraint.dNow) rfl (lt_irrefl 0) hdt
    hmin (fun _ => zero_lt_one) hbrake approachTicks 3 fun k hk _ => ?_
  have hs := approach_states hk.le
  exact ⟨converged_of_admissible (mergeSort_sortsBy VelocityConstraint.dNow) htol (approach_admissible hk hs),
    approachPair, approach_follows hk hs⟩

end RbServo.Collision
