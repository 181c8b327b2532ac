import RoboticsLab.Ensemble.Telescoping
import RoboticsLab.Pose.PoseGroup

/-!
# The seams of blended windows

On the nominal schedule a chunk is kicked at the kick index of the active window and delivered at the next boundary
(`Run.round`).  The window built there blends the rows `[2 R, 3 R)` of the chunk before with the rows `[R, 2 R)` of the
new one.  The window before ends on row `2 R - 1` of the older chunk, and the new one starts on row `2 R`
(`PlanContinuous`).

    EveryStep (fun pre x => PlanContinuous SamePose (nominal pre) x) deliveries                     (blend_seams)
-/

namespace PolicyRunner.Ensemble

open Telescope

variable {G : Type} {cfg : Config G}

/-! ## The nominal schedule -/

/-- The wall of the kick index of the active window: wall `R` of the first one, then the start. -/
def Run.nominalKick (r : Run G) : ℕ := r.scheduler.lastWindowStart + r.scheduler.activeKickAt

/-- A chunk that is delivered, with the seed poses of the call. -/
structure Delivery (cfg : Config G) where
  chunk : Chunk cfg
  anchor : Arm → G

/-- What two plans and a window have to do with each other when the window blends their rows. -/
structure Blended (cfg : Config G) (prev new : Plan G) (w : Window G) : Prop where
  target : ∀ arm, ∀ j < cfg.period, ∃ p q, (prev.absTargets arm)[2 * cfg.period + j]? = some p ∧
    (new.absTargets arm)[cfg.period + j]? = some q ∧
    (w.targets arm)[j]? = some (cfg.interpPose p q (blendWeight j cfg.period))
  grip : ∀ arm, ∀ j < cfg.period, ∃ a b, (prev.grips arm)[2 * cfg.period + j]? = some a ∧
    (new.grips arm)[cfg.period + j]? = some b ∧
    w.rows[j]?.map (·.grip arm) = some ((1 - blendWeight j cfg.period) * a + blendWeight j cfg.period * b)

/-- The window `v` ends on row `2 R - 1` of the plan. -/
structure EndsOn (Same : G → G → Prop) (cfg : Config G) (p : Plan G) (v : Window G) : Prop where
  target : ∀ arm, ∃ a t, (p.absTargets arm)[2 * cfg.period - 1]? = some a ∧ (v.targets arm).getLast? = some t ∧ Same t a
  grip : ∀ arm, ∃ a, (p.grips arm)[2 * cfg.period - 1]? = some a ∧ v.rows.getLast?.map (·.grip arm) = some a

/-- The window `w` starts on row `2 R` of the plan. -/
structure StartsOn (Same : G → G → Prop) (cfg : Config G) (p : Plan G) (w : Window G) : Prop where
  target : ∀ arm, ∃ a t, (p.absTargets arm)[2 * cfg.period]? = some a ∧ (w.targets arm).head? = some t ∧ Same t a
  grip : ∀ arm, ∃ a, (p.grips arm)[2 * cfg.period]? = some a ∧ w.rows.head?.map (·.grip arm) = some a

variable [Group G]

def Run.round (r : Run G) (x : Delivery cfg) : Run G :=
  (r.step (.noteKick r.nominalKick : Op cfg)).step (.advance (some x.chunk) x.anchor)

def Run.nominal (cfg : Config G) (raw : Chunk cfg) (seed : Arm → G) (xs : List (Delivery cfg)) : Run G :=
  xs.foldl Run.round (.first cfg raw seed)

/-- What `interp_pose` does at its ends, up to the relation `Same`. -/
structure Endpoints (Same : G → G → Prop) (cfg : Config G) : Prop where
  refl : ∀ a, Same a a
  zero : ∀ a b, Same (cfg.interpPose a b 0) a
  one : ∀ a b, Same (cfg.interpPose a b 1) b

/-- The window built when `x` is delivered blends the plan of the chunk before with that of `x`; the window before ends
on row `2 R - 1` of the former, and the new one starts on row `2 R` of it. -/
def PlanContinuous (Same : G → G → Prop) (cfg : Config G) (r : Run G) (x : Delivery cfg) : Prop :=
  ∃ prev new v w, r.scheduler.plans.getLast? = some prev ∧ (r.round x).scheduler.plans.getLast? = some new ∧
    r.windows.getLast? = some v ∧ (r.round x).windows = r.windows ++ [w] ∧
    (new.kickWall = r.nominalKick ∧ new.kickWall = prev.kickWall + cfg.period ∧ w.start = new.kickWall + cfg.period) ∧
    (∀ arm, new.absTargets arm = integrate (new.anchors arm) (x.chunk.rows.map (·.delta arm)) ∧
      new.grips arm = x.chunk.rows.map (·.grip arm)) ∧
    Blended cfg prev new w ∧ EndsOn Same cfg prev v ∧ StartsOn Same cfg prev w

/-! ## Rows of a window -/

section
variable {p new old : Plan G} {arm : Arm} {start length j : ℕ}

omit [Group G] in
theorem getElem?_segment (hj : j < length) :
    (p.segment arm start length)[j]? = (p.absTargets arm)[start - p.kickWall + j]? := by
  rw [Plan.segment, List.getElem?_take_of_lt hj, List.getElem?_drop]

omit [Group G] in
theorem getElem?_gripSegment (hj : j < length) :
    (p.gripSegment arm start length)[j]? = (p.grips arm)[start - p.kickWall + j]? := by
  rw [Plan.gripSegment, List.getElem?_take_of_lt hj, List.getElem?_drop]

omit [Group G] in
theorem getElem?_windowTargets {a b : G} (hj : j < length)
    (ha : (old.absTargets arm)[start - old.kickWall + j]? = some a)
    (hb : (new.absTargets arm)[start - new.kickWall + j]? = some b) :
    (windowTargets cfg new (some old) start length arm)[j]? = some (cfg.interpPose a b (blendWeight j length)) := by
  have hzip : ((old.segment arm start length).zip (new.segment arm start length))[j]? = some (a, b) := by
    rw [List.getElem?_zip_eq_some, getElem?_segment hj, getElem?_segment hj]
    exact ⟨ha, hb⟩
  rw [windowTargets, List.getElem?_zipWith, hzip, List.getElem?_range hj]

omit [Group G] in
theorem getElem?_windowGrips {a b : ℚ} (hj : j < length)
    (ha : (old.grips arm)[start - old.kickWall + j]? = some a)
    (hb : (new.grips arm)[start - new.kickWall + j]? = some b) :
    (windowGrips new (some old) start length arm)[j]? =
      some ((1 - blendWeight j length) * a + blendWeight j length * b) := by
  have hzip : ((old.gripSegment arm start length).zip (new.gripSegment arm start length))[j]? = some (a, b) := by
    rw [List.getElem?_zip_eq_some, getElem?_gripSegment hj, getElem?_gripSegment hj]
    exact ⟨ha, hb⟩
  rw [windowGrips, List.getElem?_zipWith, hzip, List.getElem?_range hj]

theorem grip_rowsOf {delta : Arm → List G} {grip : Arm → List ℚ} {g : ℚ} (hj : j < length)
    (hg : (grip arm)[j]? = some g) : (rowsOf length delta grip)[j]?.map (·.grip arm) = some g := by
  simp [rowsOf, List.getElem?_range hj, List.getD_eq_getElem?_getD, hg]

end

omit [Group G] in
theorem blendWeight_zero (cfg : Config G) : blendWeight 0 cfg.period = 0 := by
  have := cfg.two_le_period
  rw [blendWeight, if_neg (by omega)]
  simp

omit [Group G] in
theorem blendWeight_last (cfg : Config G) : blendWeight (cfg.period - 1) cfg.period = 1 := by
  have h := cfg.two_le_period
  have hpos : (0 : ℚ) < (cfg.period : ℚ) - 1 := by
    have : (2 : ℚ) ≤ cfg.period := by exact_mod_cast h
    linarith
  rw [blendWeight, if_neg (by omega), Nat.cast_sub (by omega), Nat.cast_one, div_self hpos.ne']

/-! ## A window between two plans -/

section
variable {Same : G → G → Prop} {s s' : Scheduler G} {prev new : Plan G} {w : Window G}

omit [Group G] in
theorem Plan.Full.getElem? {p : Plan G} (f : p.Full cfg) (arm : Arm) {i : ℕ} (hi : i < cfg.horizon) :
    ∃ a g, (p.absTargets arm)[i]? = some a ∧ (p.grips arm)[i]? = some g :=
  ⟨_, _, List.getElem?_eq_getElem (by rw [f.targets]; exact hi), List.getElem?_eq_getElem (by rw [f.grips]; exact hi)⟩

/-- **The blend window.** -/
theorem Built.blended (b : Built cfg s cfg.period new (some prev) s' w) (fp : prev.Full cfg) (fn : new.Full cfg)
    (hp : s.windowStart = prev.kickWall + 2 * cfg.period) (hn : s.windowStart = new.kickWall + cfg.period) :
    Blended cfg prev new w := by
  have hH := cfg.three_period_le
  have hsp : s.windowStart - prev.kickWall = 2 * cfg.period := by omega
  have hsn : s.windowStart - new.kickWall = cfg.period := by omega
  constructor
  · intro arm j hj
    obtain ⟨a, -, ha, -⟩ := fp.getElem? arm (i := 2 * cfg.period + j) (by omega)
    obtain ⟨c, -, hc, -⟩ := fn.getElem? arm (i := cfg.period + j) (by omega)
    refine ⟨a, c, ha, hc, ?_⟩
    rw [b.targets]
    exact getElem?_windowTargets hj (by rw [hsp]; exact ha) (by rw [hsn]; exact hc)
  · intro arm j hj
    obtain ⟨-, a, -, ha⟩ := fp.getElem? arm (i := 2 * cfg.period + j) (by omega)
    obtain ⟨-, c, -, hc⟩ := fn.getElem? arm (i := cfg.period + j) (by omega)
    refine ⟨a, c, ha, hc, ?_⟩
    rw [b.rows]
    exact grip_rowsOf hj (getElem?_windowGrips hj (by rw [hsp]; exact ha) (by rw [hsn]; exact hc))

omit [Group G] in
/-- A blend window starts on the older plan. -/
theorem Blended.startsOn (hend : Endpoints Same cfg) (h : Blended cfg prev new w) : StartsOn Same cfg prev w := by
  have hR := cfg.two_le_period
  constructor
  · intro arm
    obtain ⟨p, q, hp, -, ht⟩ := h.target arm 0 (by omega)
    rw [blendWeight_zero] at ht
    exact ⟨p, _, hp, by rw [List.head?_eq_getElem?, ht], hend.zero p q⟩
  · intro arm
    obtain ⟨a, b, ha, -, hg⟩ := h.grip arm 0 (by omega)
    rw [blendWeight_zero, sub_zero, one_mul, zero_mul, add_zero] at hg
    exact ⟨a, ha, by rw [List.head?_eq_getElem?, hg]⟩

omit [Group G] in
/-- And it ends on the newer one. -/
theorem Blended.endsOn (hend : Endpoints Same cfg) (h : Blended cfg prev new w)
    (ht : ∀ arm, (w.targets arm).length = cfg.period) (hr : w.rows.length = cfg.period) : EndsOn Same cfg new w := by
  have hR := cfg.two_le_period
  have hrow : cfg.period + (cfg.period - 1) = 2 * cfg.period - 1 := by omega
  constructor
  · intro arm
    obtain ⟨p, q, -, hq, htar⟩ := h.target arm (cfg.period - 1) (by omega)
    rw [blendWeight_last] at htar
    rw [hrow] at hq
    exact ⟨q, _, hq, by rw [List.getLast?_eq_getElem?, ht, htar], hend.one p q⟩
  · intro arm
    obtain ⟨a, b, -, hb, hg⟩ := h.grip arm (cfg.period - 1) (by omega)
    rw [blendWeight_last, sub_self, zero_mul, one_mul, zero_add] at hg
    rw [hrow] at hb
    exact ⟨b, hb, by rw [List.getLast?_eq_getElem?, hr, hg]⟩

end

/-! ## One round -/

section
variable {Same : G → G → Prop} {r : Run G} {front : List (Plan G)} {prev : Plan G} {v : Window G}

/-- A run on the nominal schedule between two boundaries: its latest plan and window. -/
structure Nominal (Same : G → G → Prop) (cfg : Config G) (r : Run G) (front : List (Plan G)) (prev : Plan G)
    (v : Window G) : Prop where
  plans : r.scheduler.plans = front ++ [prev]
  front_le : front.length ≤ 1
  full : ∀ p ∈ front ++ [prev], p.Full cfg
  start : r.scheduler.windowStart = prev.kickWall + 2 * cfg.period
  kick : r.nominalKick = prev.kickWall + cfg.period
  last : r.windows.getLast? = some v
  ends : EndsOn Same cfg prev v

/-- The plan that `register` adds. -/
def Scheduler.planFor (s : Scheduler G) (rows : List (Row G)) (kick : ℕ) (anchor : Arm → G) : Plan G where
  kickWall := kick
  horizon := rows.length
  absTargets := fun arm => integrate (s.anchorFor arm kick anchor) (rows.map (·.delta arm))
  grips := fun arm => rows.map (·.grip arm)
  anchors := fun arm => s.anchorFor arm kick anchor

/-- With a new plan at most one older one is kept. -/
theorem register_pair {s : Scheduler G} (hs : s.plans = front ++ [prev]) (hf : front.length ≤ 1)
    (rows : List (Row G)) (kick : ℕ) (anchor : Arm → G) :
    (s.register rows kick anchor).plans = [prev, s.planFor rows kick anchor] := by
  match front with
  | [] => simp [Scheduler.register, Scheduler.planFor, hs]
  | [p] => simp [Scheduler.register, Scheduler.planFor, hs]
  | p :: q :: front => simp at hf

/-- The scheduler of a round once its chunk has arrived. -/
def Run.arrived (r : Run G) (x : Delivery cfg) : Scheduler G :=
  (r.scheduler.noteKick r.nominalKick).arrive cfg (some x.chunk.rows) x.anchor

theorem arrived_plans (hr : r.scheduler.plans = front ++ [prev]) (hf : front.length ≤ 1) (x : Delivery cfg) :
    ∃ new, (r.arrived x).plans = [prev, new] ∧ new.kickWall = r.nominalKick ∧ new.Full cfg ∧
      ∀ arm, new.absTargets arm = integrate (new.anchors arm) (x.chunk.rows.map (·.delta arm)) ∧
        new.grips arm = x.chunk.rows.map (·.grip arm) := by
  have hplans := register_pair (s := { r.scheduler.noteKick r.nominalKick with pendingKickWall := none }) hr hf
    x.chunk.rows r.nominalKick x.anchor
  refine ⟨_, hplans, rfl, ⟨x.chunk.length_rows, fun arm => ?_, fun arm => ?_⟩, fun arm => ⟨rfl, rfl⟩⟩
  · simp [Scheduler.planFor, x.chunk.length_rows]
  · simp [Scheduler.planFor, x.chunk.length_rows]

theorem round_eq {x : Delivery cfg} {w : Window G} (hw : ((r.arrived x).buildWindow cfg cfg.period).2 = some w) :
    r.round x = ⟨{ ((r.arrived x).buildWindow cfg cfg.period).1 with activeKickAt := 0 }, r.windows ++ [w]⟩ := by
  unfold Run.arrived at hw ⊢
  unfold Run.round Run.step Scheduler.advance
  dsimp only [Option.map_some]
  simp [hw]

omit [Group G] in
theorem choose_pair {s : Scheduler G} {new : Plan G} (hlin : cfg.blendMode = .linear) (hs : s.plans = [prev, new])
    (fp : prev.Full cfg) (fn : new.Full cfg) (hp : s.windowStart = prev.kickWall + 2 * cfg.period)
    (hn : s.windowStart = new.kickWall + cfg.period) : s.choose cfg cfg.period = some (new, some prev) := by
  have hH := cfg.three_period_le
  have hcp : prev.covers s.windowStart cfg.period = true := by
    rw [Plan.covers_iff, fp.horizon]
    omega
  have hcn : new.covers s.windowStart cfg.period = true := by
    rw [Plan.covers_iff, fn.horizon]
    omega
  have hfilter : (s.plans.reverse.filter fun p => p.covers s.windowStart cfg.period) = [new, prev] := by
    rw [hs]
    simp [hcp, hcn]
  unfold Scheduler.choose
  rw [hfilter, hlin]
  dsimp only
  rw [if_pos (by omega)]

/-- **One round.** -/
theorem Nominal.round (hlin : cfg.blendMode = .linear) (hend : Endpoints Same cfg) (h : Nominal Same cfg r front prev v)
    (x : Delivery cfg) : PlanContinuous Same cfg r x ∧
      ∃ front' prev' v', Nominal Same cfg (r.round x) front' prev' v' := by
  obtain ⟨new, harrive, hkick, fn, hrows⟩ := arrived_plans h.plans h.front_le x
  have fp : prev.Full cfg := h.full prev (by simp)
  have hstart : (r.arrived x).windowStart = prev.kickWall + 2 * cfg.period := h.start
  have hkick' : new.kickWall = prev.kickWall + cfg.period := hkick.trans h.kick
  have hn : (r.arrived x).windowStart = new.kickWall + cfg.period := by omega
  have hfull : ∀ p ∈ (r.arrived x).plans, p.Full cfg := by
    rw [harrive]
    simp [fp, fn]
  obtain ⟨w, hw, b⟩ := buildWindow_of_some hfull (choose_pair hlin harrive fp fn hstart hn)
  have hb := b.blended fp fn hstart hn
  have hr := round_eq hw
  refine ⟨⟨prev, new, v, w, ?_, ?_, h.last, ?_, ⟨hkick, hkick', ?_⟩, hrows, hb, h.ends, hb.startsOn hend⟩,
    [prev], new, w, ?_⟩
  · rw [h.plans]
    simp
  · rw [hr]
    show ((r.arrived x).buildWindow cfg cfg.period).1.plans.getLast? = some new
    rw [b.plans, harrive]
    rfl
  · rw [hr]
  · rw [b.start]
    exact hn
  · rw [hr]
    refine ⟨b.plans.trans harrive, le_rfl, by simp [fp, fn], ?_, ?_, by simp, ?_⟩
    · show ((r.arrived x).buildWindow cfg cfg.period).1.windowStart = _
      rw [b.windowStart]
      omega
    · show ((r.arrived x).buildWindow cfg cfg.period).1.lastWindowStart + 0 = _
      rw [b.lastWindowStart]
      omega
    · refine hb.endsOn hend b.length_targets ?_
      rw [b.rows, length_rowsOf]

end

/-! ## Runs -/

variable {Same : G → G → Prop} {raw : Chunk cfg} {seed : Arm → G}

/-- The first window is the first `2 R` rows of the first chunk. -/
theorem first_nominal (hend : Endpoints Same cfg) (raw : Chunk cfg) (seed : Arm → G) :
    ∃ v, Nominal Same cfg (.first cfg raw seed) [] (firstPlan raw seed) v := by
  have hR := cfg.two_le_period
  have hH := cfg.three_period_le
  obtain ⟨w, s', heq, b⟩ := first_built cfg raw seed
  have hwin : s'.windowStart = 2 * cfg.period := b.windowStart.trans (Nat.zero_add _)
  refine ⟨w, ?_⟩
  rw [heq]
  refine ⟨b.plans, by simp, ?_, ?_, ?_, rfl, ?_⟩
  · simpa using firstPlan_full raw seed
  · show s'.windowStart = 0 + _
    rw [hwin, Nat.zero_add]
  · show s'.lastWindowStart + cfg.period = 0 + _
    rw [b.lastWindowStart]
    rfl
  · constructor
    · intro arm
      obtain ⟨a, -, ha, -⟩ := (firstPlan_full raw seed).getElem? arm (i := 2 * cfg.period - 1) (by omega)
      refine ⟨a, a, ha, ?_, hend.refl a⟩
      rw [List.getLast?_eq_getElem?, b.length_targets, b.targets]
      show ((firstPlan raw seed).segment arm 0 (2 * cfg.period))[2 * cfg.period - 1]? = some a
      rw [getElem?_segment (by omega)]
      simpa [firstPlan] using ha
    · intro arm
      obtain ⟨-, g, -, hg⟩ := (firstPlan_full raw seed).getElem? arm (i := 2 * cfg.period - 1) (by omega)
      refine ⟨g, hg, ?_⟩
      rw [List.getLast?_eq_getElem?, b.rows, length_rowsOf]
      refine grip_rowsOf (by omega) ?_
      show ((firstPlan raw seed).gripSegment arm 0 (2 * cfg.period))[2 * cfg.period - 1]? = some g
      rw [getElem?_gripSegment (by omega)]
      simpa [firstPlan] using hg

theorem nominal_planContinuous (hlin : cfg.blendMode = .linear) (hend : Endpoints Same cfg) (raw : Chunk cfg)
    (seed : Arm → G) (xs : List (Delivery cfg)) :
    Runs.EveryStep (fun pre x => PlanContinuous Same cfg (Run.nominal cfg raw seed pre) x) xs := by
  have htrue : Runs.EveryStep (fun _ _ => True) xs := fun _ _ _ _ => trivial
  refine htrue.of_invariant (fun pre => ∃ front prev v, Nominal Same cfg (Run.nominal cfg raw seed pre) front prev v)
    ⟨[], _, first_nominal hend raw seed⟩ ?_
  rintro pre x ⟨front, prev, v, h⟩ -
  have hstep : Run.nominal cfg raw seed (pre ++ [x]) = (Run.nominal cfg raw seed pre).round x := by
    simp [Run.nominal]
  rw [hstep]
  exact h.round hlin hend x

/-! ## Poses -/

/-- A linear blend of poses by `interp_pose`. -/
noncomputable def poseConfig (period horizon : ℕ) (two_le_period : 2 ≤ period)
    (three_period_le : 3 * period ≤ horizon) :
    Config Pose7 where
  period := period
  horizon := horizon
  blendMode := .linear
  interpPose := fun p q w => interpPose quatSlerp p q (w : ℝ)
  two_le_period := two_le_period
  three_period_le := three_period_le

/-- **No seam steps between plans.** -/
theorem blend_seams {period horizon : ℕ} (h2 : 2 ≤ period) (h3 : 3 * period ≤ horizon)
    (raw : Chunk (poseConfig period horizon h2 h3)) (seed : Arm → Pose7)
    (xs : List (Delivery (poseConfig period horizon h2 h3))) :
    Runs.EveryStep (fun pre x => PlanContinuous SamePose (poseConfig period horizon h2 h3)
      (Run.nominal (poseConfig period horizon h2 h3) raw seed pre) x) xs := by
  refine nominal_planContinuous rfl ⟨SamePose.refl, fun a b => ?_, fun a b => ?_⟩ raw seed xs
  · show SamePose (interpPose quatSlerp a b ((0 : ℚ) : ℝ)) a
    rw [Rat.cast_zero, interpPose_zero]
    exact SamePose.refl a
  · show SamePose (interpPose quatSlerp a b ((1 : ℚ) : ℝ)) b
    rw [Rat.cast_one]
    exact interpPose_one a b

/-- Every row moves the arms by `step` along `x`. -/
noncomputable def fasterChunk {period horizon : ℕ} {two_le_period : 2 ≤ period}
    {three_period_le : 3 * period ≤ horizon} (step : ℝ) :
    Chunk (poseConfig period horizon two_le_period three_period_le) :=
  ⟨List.replicate horizon ⟨fun _ => ⟨![step, 0, 0], 1⟩, fun _ => 0⟩, List.length_replicate⟩

theorem blend_seams_faster : Runs.EveryStep (fun pre x => PlanContinuous SamePose (poseConfig 2 6 le_rfl le_rfl)
      (Run.nominal (poseConfig 2 6 le_rfl le_rfl) (fasterChunk 1) (fun _ => 1) pre) x)
    [⟨fasterChunk 2, fun _ => 1⟩, ⟨fasterChunk 3, fun _ => 1⟩] :=
  blend_seams le_rfl le_rfl (fasterChunk 1) (fun _ => 1) _

end PolicyRunner.Ensemble
