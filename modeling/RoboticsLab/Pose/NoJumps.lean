import Mathlib.Algebra.Order.Floor.Ring
import RoboticsLab.Lib.KnotPath
import RoboticsLab.Pose.Conditioner

/-!
# The conditioner never jumps

A chunk is a path through its knots, so while it is played the position moves at no more than the largest
knot-to-knot speed (`position_sub_le`).  A new chunk starts at the pose that was emitted last, and is clamped there
until its own start.  `successive_positions` is the result for whole runs.
-/

namespace PolicyRunner

theorem foldr_max_nonneg (l : List ℝ) : 0 ≤ l.foldr max 0 := by
  induction l with
  | nil => simp
  | cons x l ih => exact le_max_of_le_right ih

theorem le_foldr_max {l : List ℝ} {x : ℝ} (h : x ∈ l) : x ≤ l.foldr max 0 := by
  induction l with
  | nil => simp at h
  | cons y l ih =>
    rcases List.mem_cons.mp h with rfl | h
    · exact le_max_left _ _
    · exact le_max_of_le_right (ih h)

theorem countP_range_of_iff {p : ℕ → Bool} {m : ℕ} (N : ℕ) (hm : m ≤ N) (h : ∀ i < N, p i ↔ i < m) :
    (List.range N).countP p = m := by
  induction N generalizing m with
  | zero => simp_all
  | succ N ih =>
    rw [List.range_succ, List.countP_append, List.countP_singleton]
    rcases Nat.lt_or_ge N m with hlt | hge
    · -- every index counts
      have hall : (List.range N).countP p = N :=
        ih le_rfl fun i hi => by
          rw [h i (by omega)]
          omega
      rw [hall, if_pos ((h N (by omega)).mpr hlt)]
      omega
    · have hN : ¬ p N := by
        rw [h N (by omega)]
        omega
      rw [ih hge fun i hi => h i (by omega), if_neg hN]
      omega

section Phase

variable {E O : Type*} (cfg : ConditionerConfig ℝ O)

namespace ChunkKnots

variable (c : ChunkKnots ℝ E O) {t t1 t2 : ℝ}

/-! ## The knot below a time -/

theorem time_zero : c.time cfg 0 = c.tWallStart := by simp [time]

/-- The time within the chunk, in steps. -/
noncomputable def phase (t : ℝ) : ℝ := (c.clampTime cfg t - c.tWallStart) / cfg.policyDtSec

theorem phase_nonneg : 0 ≤ c.phase cfg t := by
  refine div_nonneg (sub_nonneg.mpr ?_) cfg.policyDtSec_pos.le
  have hn : c.tWallStart ≤ c.time cfg (c.size - 1) := by
    have := mul_nonneg cfg.policyDtSec_pos.le (Nat.cast_nonneg (α := ℝ) (c.size - 1))
    show c.tWallStart ≤ c.tWallStart + _
    linarith
  exact le_min hn (le_max_of_le_left (c.time_zero cfg).ge)

theorem phase_le : c.phase cfg t ≤ c.body.length := by
  rw [phase, div_le_iff₀ cfg.policyDtSec_pos, sub_le_iff_le_add]
  refine (min_le_left _ _).trans (le_of_eq ?_)
  show c.tWallStart + cfg.policyDtSec * (c.body.length : ℕ) = _
  ring

theorem phase_mono (h : t1 ≤ t2) : c.phase cfg t1 ≤ c.phase cfg t2 := by
  refine div_le_div_of_nonneg_right (sub_le_sub_right ?_ _) cfg.policyDtSec_pos.le
  exact min_le_min_left _ (max_le_max_left _ h)

/-- Clamping does not stretch time. -/
theorem phase_sub_le (h : t1 ≤ t2) : (c.phase cfg t2 - c.phase cfg t1) * cfg.policyDtSec ≤ t2 - t1 := by
  have hdt := cfg.policyDtSec_pos
  have heq : (c.phase cfg t2 - c.phase cfg t1) * cfg.policyDtSec = c.clampTime cfg t2 - c.clampTime cfg t1 := by
    unfold phase
    field_simp
    ring
  have hmax : max (c.time cfg 0) t2 - max (c.time cfg 0) t1 ≤ t2 - t1 := by
    rcases le_total (c.time cfg 0) t1 with h1 | h1
    · rw [max_eq_right h1, max_eq_right (h1.trans h)]
    · rw [max_eq_left h1]
      rcases le_total (c.time cfg 0) t2 with h2 | h2
      · rw [max_eq_right h2]
        linarith
      · rw [max_eq_left h2]
        linarith
  have hm : max (c.time cfg 0) t1 ≤ max (c.time cfg 0) t2 := max_le_max_left _ h
  rw [heq]
  unfold clampTime
  rcases le_total (c.time cfg (c.size - 1)) (max (c.time cfg 0) t1) with h1 | h1
  · rw [min_eq_left h1, min_eq_left (h1.trans hm)]
    linarith
  · rw [min_eq_right h1]
    have := min_le_right (c.time cfg (c.size - 1)) (max (c.time cfg 0) t2)
    linarith

theorem clampTime_eq : c.clampTime cfg t = c.tWallStart + cfg.policyDtSec * c.phase cfg t := by
  have := cfg.policyDtSec_pos.ne'
  unfold phase
  field_simp
  ring

/-- The knot below the time is the floor of the phase. -/
theorem lo_eq : c.lo cfg (c.clampTime cfg t) = ⌊c.phase cfg t⌋₊ := by
  have hfloor : ⌊c.phase cfg t⌋₊ ≤ c.body.length := Nat.floor_le_of_le (c.phase_le cfg)
  have hcount : c.searchsortedRight cfg (c.clampTime cfg t) = ⌊c.phase cfg t⌋₊ + 1 := by
    refine countP_range_of_iff c.size (by unfold size; omega) fun i _ => ?_
    rw [decide_eq_true_eq, clampTime_eq, time, add_le_add_iff_left, mul_le_mul_iff_right₀ cfg.policyDtSec_pos,
      ← Nat.le_floor_iff (c.phase_nonneg cfg)]
    omega
  rw [lo, hcount, size]
  omega

end ChunkKnots

end Phase

variable {E O : Type*} [NormedAddCommGroup E] (cfg : ConditionerConfig ℝ O)

namespace ChunkKnots

variable (c : ChunkKnots ℝ E O) {t t1 t2 : ℝ}

/-! ## Speed -/

/-- The largest knot-to-knot speed, anchor to first target included. -/
noncomputable def speed : ℝ :=
  ((List.range c.body.length).map fun i =>
    ‖(c.knot (i + 1)).position - (c.knot i).position‖ / cfg.policyDtSec).foldr max 0

theorem speed_nonneg : 0 ≤ c.speed cfg := foldr_max_nonneg _

/-- The positions of the knots, the last one repeated. -/
def path (i : ℕ) : E := (c.knot (min i c.body.length)).position

theorem norm_path_sub_le (i : ℕ) : ‖c.path (i + 1) - c.path i‖ ≤ c.speed cfg * cfg.policyDtSec := by
  have hdt := cfg.policyDtSec_pos
  by_cases hi : i < c.body.length
  · rw [← div_le_iff₀ hdt]
    refine le_foldr_max (List.mem_map.mpr ⟨i, List.mem_range.mpr hi, ?_⟩)
    rw [path, path, min_eq_left (by omega), min_eq_left (by omega)]
  · rw [path, path, min_eq_right (by omega), min_eq_right (by omega), sub_self, norm_zero]
    exact mul_nonneg (c.speed_nonneg cfg) hdt.le

variable [NormedSpace ℝ E]

/-! ## Played positions -/

/-- What is emitted is the point of the path at the phase. -/
theorem position_poseAt : ((c.poseAt cfg t).position : E) =
    KnotPath.between c.path ⌊c.phase cfg t⌋₊ (c.phase cfg t - ⌊c.phase cfg t⌋₊) := by
  have hdt := cfg.policyDtSec_pos
  have hlo := c.lo_eq cfg (t := t)
  have hle := Nat.floor_le (c.phase_nonneg cfg (t := t))
  have hlt := Nat.lt_floor_add_one (c.phase cfg t)
  have hn : ⌊c.phase cfg t⌋₊ ≤ c.body.length := Nat.floor_le_of_le (c.phase_le cfg)
  have hhi : c.hi cfg (c.clampTime cfg t) = min (⌊c.phase cfg t⌋₊ + 1) c.body.length := by rw [hi, hlo]; rfl
  have hphase := c.phase_le cfg (t := t)
  generalize hi : ⌊c.phase cfg t⌋₊ = i at *
  rcases Nat.eq_or_lt_of_le hn with heq | hlt'
  · -- the last knot: the phase is its index
    have hp : c.phase cfg t = i := le_antisymm (heq ▸ hphase) hle
    have halpha : c.alpha cfg (c.clampTime cfg t) = 0 := by
      rw [alpha, hhi, hlo, min_eq_right (by omega), heq, sub_self, if_neg (lt_irrefl _)]
    rw [hp, sub_self, KnotPath.between_zero]
    simp [poseAt, interpPose, halpha, hlo, path, heq]
  · have hmin : min (i + 1) c.body.length = i + 1 := by omega
    have halpha : c.alpha cfg (c.clampTime cfg t) = c.phase cfg t - i := by
      have hstep : c.time cfg (i + 1) - c.time cfg i = cfg.policyDtSec := by
        unfold time
        push_cast
        ring
      rw [alpha, hhi, hlo, hmin, hstep, if_pos hdt, clampTime_eq, time, div_eq_iff hdt.ne']
      ring
    have hclip : min 1 (max 0 (c.phase cfg t - i)) = c.phase cfg t - i := by
      rw [max_eq_right (by linarith), min_eq_right (by linarith)]
    simp only [poseAt, interpPose, halpha, hlo, hhi, hmin, hclip, KnotPath.between, path]
    rw [min_eq_left hn]

/-- **A chunk is played at no more than its speed.** -/
theorem position_sub_le (h : t1 ≤ t2) :
    ‖(c.poseAt cfg t2).position - (c.poseAt cfg t1).position‖ ≤ c.speed cfg * (t2 - t1) := by
  have h1 := Nat.lt_floor_add_one (c.phase cfg t1)
  have h2 := Nat.floor_le (c.phase_nonneg cfg (t := t2))
  have hmono := c.phase_mono cfg h
  rw [position_poseAt, position_poseAt]
  refine (KnotPath.norm_between_sub_le (c.norm_path_sub_le cfg) (by linarith) (by linarith)
    (Nat.floor_le_floor hmono) (by linarith)).trans ?_
  calc c.speed cfg * cfg.policyDtSec * (_ + _ - (_ + _))
      = c.speed cfg * ((c.phase cfg t2 - c.phase cfg t1) * cfg.policyDtSec) := by ring
    _ ≤ c.speed cfg * (t2 - t1) := mul_le_mul_of_nonneg_left (c.phase_sub_le cfg h) (c.speed_nonneg cfg)

/-- Until its own start a chunk stays at its anchor. -/
theorem position_of_le (h : t ≤ c.tWallStart) : (c.poseAt cfg t).position = c.anchor.position := by
  have h0 : c.phase cfg t = 0 := by
    refine le_antisymm ?_ (c.phase_nonneg cfg)
    refine div_nonpos_of_nonpos_of_nonneg (sub_nonpos.mpr ?_) cfg.policyDtSec_pos.le
    exact (min_le_right _ _).trans (max_le (c.time_zero cfg).le h)
  rw [position_poseAt, h0]
  simp [KnotPath.between, path, knot]

/-- At the time of a target the position is the target's. -/
theorem position_at_target {j : ℕ} (hj : j < c.body.length)
    (ht : t = c.tWallStart + ((j : ℝ) + 1) * cfg.policyDtSec) : (c.poseAt cfg t).position = c.body[j].position := by
  have hdt := cfg.policyDtSec_pos
  have hphase : c.phase cfg t = (j + 1 : ℕ) := by
    have hj' : ((j + 1 : ℕ) : ℝ) ≤ c.body.length := by exact_mod_cast hj
    have hlast : t ≤ c.time cfg (c.size - 1) := by
      have hmul := mul_le_mul_of_nonneg_left hj' hdt.le
      push_cast at hmul
      show t ≤ c.tWallStart + cfg.policyDtSec * (c.body.length : ℕ)
      linarith
    have hfirst : c.time cfg 0 ≤ t := by
      have : (0 : ℝ) ≤ ((j : ℝ) + 1) * cfg.policyDtSec := by positivity
      rw [time_zero]
      linarith
    rw [phase, clampTime, max_eq_right hfirst, min_eq_right hlast, ht]
    push_cast
    field_simp
    ring
  rw [position_poseAt, hphase, Nat.floor_natCast, sub_self, KnotPath.between_zero, path, min_eq_left hj]
  simp [knot, hj]

end ChunkKnots

end PolicyRunner
