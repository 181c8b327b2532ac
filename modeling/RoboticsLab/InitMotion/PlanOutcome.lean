import RoboticsLab.InitMotion.PlanSound

/-!
# What `plan` returns

    success : from the start to the goal in steps of at most `max_segment_deg`, the other arm at rest
                                                                             (plan_reaches)
    success : after the escape, every waypoint within the edge resolution of a configuration where
              every pair of a moving arm keeps its hard floor                (plan_near_clear)
    failure : the goal's floors, the escape, or the search; a path that the search has found is not
              rejected by the last check, as long as the goal itself is clear   (plan_fails_only)

The goal is accepted on minima (`isClear`) that leave boxes out, and approached on checks that do not
(`clear`): a goal within the external threshold of an enforced box is accepted and never reached
(`plan_goal_clear`).
-/

namespace RbServo.InitMotion

open Collision

/-! ## The goal's own thresholds -/

section

/-- The relaxed threshold stays below the clearance it is relaxed to, if the floor does. -/
theorem relax_lt_iff (dHard threshold : ℚ) (m : Double) :
    Double.lt (.fin (relax dHard threshold m)) m = Double.lt (.fin dHard) m := by
  cases m with
  | fin x =>
    have heps : x - kEndpointEps < x := sub_lt_self x (by norm_num [kEndpointEps])
    have hiff : max dHard (min threshold (x - kEndpointEps)) < x ↔ dHard < x :=
      ⟨fun h => (le_max_left _ _).trans_lt h, fun h => max_lt h ((min_le_right _ _).trans_lt heps)⟩
    exact decide_eq_decide.mpr hiff
  | nan => rfl
  | negInf => rfl
  | posInf => rfl

/-- **The goal is accepted** when it violates no floor and no class is on its floor. -/
theorem isClear_relaxed_iff {K : Type*} [Field K] (p : Planner K) (s : CollisionDistanceSummary) :
    isClear (relaxed p s) s = true ↔ s.hardViolation = false ∧
      Double.lt (.fin p.monitor.self.dHardM) s.selfMinClearanceM = true ∧
      Double.lt (.fin p.monitor.intraArm.dHardM) s.intraArmMinClearanceM = true ∧
      Double.lt (.fin p.monitor.environment.dHardM) s.environmentMinClearanceM = true ∧
      Double.lt (.fin p.monitor.external.dHardM) s.externalMinClearanceM = true := by
  simp only [isClear, relaxed, relax_lt_iff, Bool.and_eq_true, Bool.not_eq_true', and_assoc]

end

/-! ## The goal itself, and failures -/

section

variable {K : Type*} [Field K] [LinearOrder K] [IsStrictOrderedRing K] [FloorSemiring K] {sqrt : K → K} {c : Call K}
  {ch : Chance K} {fuel : ℕ} {start goal : Config K} {r : InitMotionPlanResult K}

omit [IsStrictOrderedRing K] [FloorSemiring K] in
theorem kept_true (c : Call K) (ch : Chance K) (goal : Config K) : Kept c ch goal fun _ => True :=
  ⟨fun _ _ _ _ _ _ _ => trivial, fun _ _ _ _ => trivial, fun _ _ _ _ _ => trivial, trivial⟩

/-- **A path that the search has found passes the last check**, if the goal is clear. -/
theorem finish_found (hgoal : c.clear goal = true) {rrtStart : Config K} {s : Search K}
    (hs : c.rawPath sqrt ch fuel rrtStart goal = some s) {raw : List (Config K)} (hraw : s.raw = some raw)
    (escape : List (Config K)) : (c.finish sqrt ch escape s).success = true := by
  obtain ⟨-, -, -, hchain⟩ :=
    rawPath_spec (kept_true c ch goal).convex (fun _ _ _ => trivial) trivial trivial hs hraw
  have hclear := pathEdgesClear_iff.mpr ((shortened_shortcut c ch raw).chain (hchain hgoal))
  rw [Call.finish, hraw]
  dsimp only
  rw [if_pos hclear]

/-- Where a plan searches from: its start, or the end of its escape. -/
def SearchesFrom (sqrt : K → K) (c : Call K) (ch : Chance K) (start rrtStart : Config K) : Prop :=
  c.clear start = true ∧ rrtStart = start ∨
    c.clear start = false ∧ (c.escape sqrt ch start).getLast? = some rrtStart ∧ c.clear rrtStart = true

/-- The search from `rrtStart` finds no path, or one that the last check rejects; then the goal is not clear. -/
def SearchFails (sqrt : K → K) (c : Call K) (ch : Chance K) (fuel : ℕ) (rrtStart goal : Config K) : Prop :=
  ∃ s, c.rawPath sqrt ch fuel rrtStart goal = some s ∧
    (s.raw = none ∨ c.clear goal = false ∧
      ∃ raw, s.raw = some raw ∧ pathEdgesClear (c.edge sqrt) (c.shortcut sqrt ch raw) = false)

/-- What went wrong in a search that is finished without success. -/
theorem finish_failed {rrtStart : Config K} {escape : List (Config K)}
    (h : (c.rawPath sqrt ch fuel rrtStart goal).map (c.finish sqrt ch escape) = some r) (hr : r.success = false) :
    r.failMode = .rrtBudget ∧ r.waypoints = [] ∧ SearchFails sqrt c ch fuel rrtStart goal := by
  obtain ⟨s, hs, rfl⟩ := Option.map_eq_some_iff.mp h
  cases hraw : s.raw with
  | none =>
    have hfinish : c.finish sqrt ch escape s = { failed .rrtBudget with
        iterations := s.iterations, treeStartSize := s.treeStartSize, treeGoalSize := s.treeGoalSize } := by
      rw [Call.finish, hraw]
    rw [hfinish]
    exact ⟨rfl, rfl, s, hs, Or.inl hraw⟩
  | some raw =>
    have hlow : c.clear goal = false := by
      by_contra hgoal
      rw [finish_found (Bool.eq_true_of_not_eq_false hgoal) hs hraw escape] at hr
      cases hr
    unfold Call.finish at hr ⊢
    rw [hraw] at hr ⊢
    dsimp only at hr ⊢
    split at hr
    · cases hr
    · rename_i hreject
      rw [if_neg hreject]
      exact ⟨rfl, rfl, s, hs, Or.inr ⟨hlow, raw, hraw, Bool.eq_false_of_not_eq_true hreject⟩⟩

/-- **Why a plan fails**: the goal is on a floor, the escape came to nothing, or the search did.  Only a
goal that is not clear itself lets the last check reject a path. -/
theorem plan_fails_only (h : c.plan sqrt ch fuel start goal = some r) (hr : r.success = false) :
    r.waypoints = [] ∧
      ((r.failMode = .goalNotClear ∧ c.isClear goal = false) ∨
        (r.failMode = .escapeFailed ∧ c.clear start = false ∧ c.escape sqrt ch start = []) ∨
        (r.failMode = .rrtBudget ∧
          ∃ rrtStart, SearchesFrom sqrt c ch start rrtStart ∧ SearchFails sqrt c ch fuel rrtStart goal)) := by
  unfold Call.plan at h
  split at h
  · rename_i hgoal
    obtain rfl := Option.some.inj h
    exact ⟨rfl, Or.inl ⟨rfl, by simpa using hgoal⟩⟩
  split at h
  · obtain rfl := Option.some.inj h
    cases hr
  split at h
  · rename_i hclear
    obtain ⟨hmode, hempty, hsearch⟩ := finish_failed h hr
    exact ⟨hempty, Or.inr (Or.inr ⟨hmode, start, Or.inl ⟨hclear, rfl⟩, hsearch⟩)⟩
  rename_i hlow
  have hlow' : c.clear start = false := Bool.eq_false_of_not_eq_true hlow
  dsimp only at h
  split at h
  · rename_i hnone
    obtain rfl := Option.some.inj h
    exact ⟨rfl, Or.inr (Or.inl ⟨rfl, hlow', List.getLast?_eq_none_iff.mp hnone⟩)⟩
  rename_i rrtStart hend
  -- an escape that is not empty ends clear, and so not at the start
  have hne : c.escape sqrt ch start ≠ [] := fun h0 => by
    rw [h0] at hend
    cases hend
  obtain ⟨rest, last, heq, hlast, hclear, -⟩ := escapeToClear_spec hne
  replace heq : c.escape sqrt ch start = start :: rest := heq
  obtain rfl : rrtStart = last := Option.some.inj (hend.symm.trans (heq ▸ hlast))
  split at h
  · rename_i hunused
    exfalso
    rcases hunused with hshort | hlow''
    · rw [heq, List.length_cons] at hshort
      obtain rfl : rest = [] := List.length_eq_zero_iff.mp (by omega)
      obtain rfl := Option.some.inj hlast
      exact Bool.false_ne_true (hlow'.symm.trans hclear)
    · exact Bool.false_ne_true (hlow''.symm.trans hclear)
  · obtain ⟨hmode, hempty, hsearch⟩ := finish_failed h hr
    exact ⟨hempty, Or.inr (Or.inr ⟨hmode, rrtStart, Or.inr ⟨hlow', hend, hclear⟩, hsearch⟩)⟩

omit [IsStrictOrderedRing K] in
theorem finish_failMode (escape : List (Config K)) (s : Search K) :
    (c.finish sqrt ch escape s).failMode = .none ∨ (c.finish sqrt ch escape s).failMode = .rrtBudget := by
  unfold Call.finish
  split
  · exact Or.inr rfl
  · dsimp only
    split
    · exact Or.inl rfl
    · exact Or.inr rfl

omit [IsStrictOrderedRing K] in
theorem plan_failMode (h : c.plan sqrt ch fuel start goal = some r) :
    r.failMode = .goalNotClear ↔ c.isClear goal = false := by
  have hother : c.isClear goal = true → r.failMode ≠ .goalNotClear →
      (r.failMode = .goalNotClear ↔ c.isClear goal = false) := fun hclear hmode => by
    rw [hclear]
    exact iff_of_false hmode (by decide)
  have hfinish : ∀ rrtStart escape, (c.rawPath sqrt ch fuel rrtStart goal).map (c.finish sqrt ch escape) = some r →
      r.failMode ≠ .goalNotClear := fun rrtStart escape hr => by
    obtain ⟨s, -, rfl⟩ := Option.map_eq_some_iff.mp hr
    have hmode : (c.finish sqrt ch escape s).failMode = .none ∨ (c.finish sqrt ch escape s).failMode = .rrtBudget :=
      finish_failMode escape s
    rcases hmode with hmode | hmode <;> rw [hmode] <;> decide
  unfold Call.plan at h
  split at h
  · rename_i hgoal
    obtain rfl := Option.some.inj h
    exact iff_of_true rfl (by simpa using hgoal)
  rename_i hgoal
  refine hother (by simpa using hgoal) ?_
  split at h
  · obtain rfl := Option.some.inj h
    exact fun hmode => by cases hmode
  split at h
  · exact hfinish start [] h
  dsimp only at h
  split at h
  · obtain rfl := Option.some.inj h
    exact fun hmode => by cases hmode
  split at h
  · obtain rfl := Option.some.inj h
    exact fun hmode => by cases hmode
  · exact hfinish _ _ h

/-- **A goal that is not clear is never reached**: its minima may be accepted, but no plan ends there. -/
theorem plan_goal_clear (h : c.plan sqrt ch fuel start goal = some r) (hr : r.success = true) :
    maxActiveAbsDiff start goal c.active ≤ max 0 c.planner.cfg.noopTolDeg ∧ r.waypoints = [split start] ∨
      c.clear goal = true := by
  rcases plan_planned (kept_true c ch goal) trivial h hr with ⟨hnear, hwaypoints, -⟩ | ⟨escape, corners, hplanned, -⟩
  · exact Or.inl ⟨hnear, hwaypoints⟩
  · exact Or.inr (hplanned.corners_clear goal (List.mem_of_getLast? hplanned.goal))

end

/-! ## A small cell -/

/-- One pair of the left arm, at one distance wherever the arms are. -/
def cell (K : Type*) [Field K] (category : PairCategory) (distance : ℚ) : Planner K where
  cfg :=
    { stepSizeRad := 1, edgeResolutionRad := 1, goalBias := 0, sampleMarginDeg := 1
      sampleMarginDegPerJoint := fun _ => 0
      globalSampleFraction := 0, globalSampleMarginDeg := 1, noopTolDeg := 0, maxSegmentDeg := 1, collisionMarginM := 1
      maxIterations := 1000, shortcutPasses := 0, escapeMaxSteps := 0, escapeRestartAttempts := 0, lazyEdges := true }
  monitor := cellMonitor
  limits := ⟨fun _ => -1, fun _ => 1⟩
  jointTargetLiteralAxes := fun _ => true
  pairs := fun _ => [(⟨category, true, false⟩, .fin distance)]
  number := fun d => match d with
    | .fin q => (q : K)
    | _ => 0
  number_fin := fun _ => rfl

/-- Nothing is late, and every draw is zero. -/
def still (K : Type*) [Field K] : Chance K :=
  ⟨fun _ => false, fun _ => ⟨false, fun _ => 0, fun _ => false⟩, fun _ => ⟨false, 0, fun _ => 0⟩, fun _ => (0, 0)⟩

/-- The left arm's. -/
def firstJoint : Fin kCombined := ⟨0, by decide⟩

/-- A cell whose one pair touches at one angle of the first joint, and has room everywhere else. -/
def pocket {K : Type*} [Field K] [DecidableEq K] (angle : K) : Planner K :=
  { cell K .external 3 with
    cfg := { (cell K .external 3).cfg with
      stepSizeRad := 1 / 57, edgeResolutionRad := 1 / 40, goalBias := 1, maxIterations := 1
      escapeRestartAttempts := 1 }
    pairs := fun q => [(⟨.external, true, false⟩, .fin (if q firstJoint = angle then 0 else 3))] }

/-- Nothing is late, and a restart moves every joint by half a degree. -/
def nudged (K : Type*) [Field K] : Chance K :=
  { still K with restarts := fun _ => ⟨false, fun _ => 1 / 2, fun _ => false⟩ }

section

theorem cell_distances : evalDistancesOnly cellMonitor true false [(⟨.external, true, false⟩, .fin 3)] =
    ⟨false, .fin 3, .posInf, .posInf, .fin 3, .posInf, .posInf⟩ := by
  rfl

theorem cell_box_distances : evalDistancesOnly cellMonitor true false [(⟨.externalBox, true, false⟩, .fin 1)] =
    ⟨false, .fin 1, .posInf, .posInf, .posInf, .posInf, .posInf⟩ := by
  rfl

variable {K : Type*} [Field K]

theorem cell_thresholds (goal : Config K) : (Call.towards (cell K .external 3) true false goal).thresholds =
    ⟨1, 1, 1, 1⟩ := by
  rw [Call.towards]
  show relaxed (cell K .external 3) (evalDistancesOnly cellMonitor true false [(⟨.external, true, false⟩, .fin 3)]) = _
  rw [cell_distances]
  norm_num [relaxed, configured, relax, cell, cellMonitor, kEndpointEps]

theorem cell_box_thresholds (goal : Config K) :
    (Call.towards (cell K .externalBox 1) true false goal).thresholds = ⟨1, 1, 1, 1⟩ := by
  rw [Call.towards]
  show relaxed (cell K .externalBox 1) (evalDistancesOnly cellMonitor true false
    [(⟨.externalBox, true, false⟩, .fin 1)]) = _
  rw [cell_box_distances]
  norm_num [relaxed, configured, relax, cell, cellMonitor]

theorem cell_clear (goal q : Config K) : (Call.towards (cell K .external 3) true false goal).clear q = true := by
  rw [Call.clear, cell_thresholds]
  rfl

theorem cell_isClear (goal q : Config K) : (Call.towards (cell K .external 3) true false goal).isClear q = true := by
  rw [Call.isClear, cell_thresholds]
  rfl

variable [LinearOrder K] [IsStrictOrderedRing K]

/-- The left arm has to go from zero to one. -/
theorem cell_far (category : PairCategory) (distance : ℚ) :
    max 0 (cell K category distance).cfg.noopTolDeg < maxActiveAbsDiff (join (fun _ => 0) fun _ => 0)
      (branchGoals (cell K category distance) true false (fun _ => 0) (fun _ => 0) (fun _ => 1) (fun _ => 0))
      (makeActiveMask true false) := by
  have hle := abs_sub_le_maxActiveAbsDiff (join (fun _ => 0) fun _ => 0)
    (branchGoals (cell K category distance) true false (fun _ => 0) (fun _ => 0) (fun _ => 1) (fun _ => 0))
    (show makeActiveMask true false ⟨0, by decide⟩ = true from rfl)
  have hstart : (join (fun _ => 0) (fun _ => 0) : Config K) ⟨0, by decide⟩ = 0 := rfl
  have hgoal : branchGoals (cell K category distance) true false (fun _ => 0) (fun _ => 0) (fun _ => 1) (fun _ => 0)
      ⟨0, by decide⟩ = 1 := rfl
  have hzero : max 0 (cell K category distance).cfg.noopTolDeg = (0 : K) := max_self 0
  rw [hstart, hgoal, zero_sub, abs_neg, abs_one] at hle
  rw [hzero]
  exact one_pos.trans_le hle

theorem cell_start_inLimits (category : PairCategory) (distance : ℚ) (goal : Config K) :
    InLimits (Call.towards (cell K category distance) true false goal) (join (fun _ => 0) fun _ => 0) := by
  intro k _ _
  have h0 : (join (fun _ => 0) (fun _ => 0) : Config K) k = 0 := ite_self _
  rw [h0]
  exact ⟨neg_one_lt_zero.le, zero_le_one⟩

theorem cell_goal_inLimits (category : PairCategory) (distance : ℚ) (goal : Config K) :
    InLimits (Call.towards (cell K category distance) true false goal)
      (branchGoals (cell K category distance) true false (fun _ => 0) (fun _ => 0) (fun _ => 1) fun _ => 0) := by
  intro k hk _
  have hleft : k.val < kDof := by
    by_contra hright
    rw [Call.active, makeActiveMask, if_neg hright] at hk
    cases hk
  have h1 : branchGoals (cell K category distance) true false (fun _ => 0) (fun _ => 0) (fun _ => 1)
    (fun _ => 0) k = 1 := by
    rw [branchGoals, join, if_pos hleft]
    rfl
  rw [h1]
  exact ⟨(neg_one_lt_zero.trans one_pos).le, le_rfl⟩

variable [FloorSemiring K]

/-- The left arm's way from zero to one, in a cell with room. -/
theorem cell_plan (sqrt : K → K) : ∃ r,
    plan sqrt (cell K .external 3) (still K) 0 (fun _ => 0) (fun _ => 0) true (fun _ => 1) false (fun _ => 0) = some r ∧
      r.success = true := by
  set goal := branchGoals (cell K .external 3) true false (fun _ => 0) (fun _ => 0) (fun _ => 1) (fun _ => 0) with hgoal
  set c := Call.towards (cell K .external 3) true false goal with hc
  have hclear : ∀ q, c.clear q = true := cell_clear goal
  have hfar : ¬ maxActiveAbsDiff (join (fun _ => 0) fun _ => 0) goal c.active ≤ max 0 c.planner.cfg.noopTolDeg :=
    not_le.mpr (cell_far .external 3)
  have hedge : c.edge sqrt (join (fun _ => 0) fun _ => 0) goal = true := List.all_eq_true.mpr fun q _ => hclear q
  have hraw : c.rawPath sqrt (still K) 0 (join (fun _ => 0) fun _ => 0) goal =
      some ⟨some [join (fun _ => 0) fun _ => 0, goal], 0, 0, 0⟩ := by rw [Call.rawPath, if_pos hedge]
  refine ⟨c.finish sqrt (still K) [] ⟨some [join (fun _ => 0) fun _ => 0, goal], 0, 0, 0⟩, ?_,
    finish_found (hclear goal) hraw rfl []⟩
  unfold plan
  rw [if_neg (by simp)]
  dsimp only
  rw [← hgoal, ← hc, Call.plan, cell_isClear, Bool.not_true, if_neg Bool.false_ne_true, if_neg hfar,
    if_pos (hclear _), hraw]
  rfl

end

section

variable {K : Type*} [Field K] [LinearOrder K] {angle : K} {goal : Config K}

theorem pocket_thresholds (hgoal : goal firstJoint ≠ angle) :
    (Call.towards (pocket angle) true false goal).thresholds = ⟨1, 1, 1, 1⟩ := by
  have hpairs : (pocket angle).pairs goal = [(⟨.external, true, false⟩, .fin 3)] := by
    show [(_, Double.fin (if goal firstJoint = angle then 0 else 3))] = _
    rw [if_neg hgoal]
  rw [Call.towards, hpairs]
  show relaxed (pocket angle) (evalDistancesOnly cellMonitor true false [(⟨.external, true, false⟩, .fin 3)]) = _
  rw [cell_distances]
  norm_num [relaxed, configured, relax, pocket, cell, cellMonitor, kEndpointEps]

theorem pocket_isClear (hgoal : goal firstJoint ≠ angle) (q : Config K) :
    (Call.towards (pocket angle) true false goal).isClear q = decide (q firstJoint ≠ angle) := by
  rw [Call.isClear, pocket_thresholds hgoal]
  show isClear _ (evalDistancesOnly cellMonitor true false [(_, .fin (if q firstJoint = angle then 0 else 3))]) = _
  by_cases h : q firstJoint = angle
  · rw [if_pos h, decide_eq_false (not_not.mpr h)]
    rfl
  · rw [if_neg h, decide_eq_true h]
    rfl

theorem pocket_clear (hgoal : goal firstJoint ≠ angle) (q : Config K) :
    (Call.towards (pocket angle) true false goal).clear q = decide (q firstJoint ≠ angle) := by
  rw [Call.clear, pocket_thresholds hgoal]
  show clearsThresholds cellMonitor _ true false [(_, .fin (if q firstJoint = angle then 0 else 3))] = _
  by_cases h : q firstJoint = angle
  · rw [if_pos h, decide_eq_false (not_not.mpr h)]
    rfl
  · rw [if_neg h, decide_eq_true h]
    rfl

end

/-! ## Failures -/

section

variable {K : Type*} [Field K] [LinearOrder K] [IsStrictOrderedRing K] [FloorSemiring K] {sqrt : K → K} {p : Planner K}
  {ch : Chance K} {fuel : ℕ} {startLeft startRight goalLeft goalRight : Joints K} {leftActive rightActive : Bool}
  {r : InitMotionPlanResult K}

omit [IsStrictOrderedRing K] in
theorem plan_call (h : plan sqrt p ch fuel startLeft startRight leftActive goalLeft rightActive goalRight = some r)
    (hr : r.success = true) :
    (Call.towards p leftActive rightActive
      (branchGoals p leftActive rightActive startLeft startRight goalLeft goalRight)).plan sqrt ch fuel
      (join startLeft startRight)
      (branchGoals p leftActive rightActive startLeft startRight goalLeft goalRight) = some r := by
  unfold plan at h
  split at h
  · obtain rfl := Option.some.inj h
    cases hr
  · exact h

/-- **A call of `plan` that fails** says why, and has no waypoints. -/
theorem plan_failure (h : plan sqrt p ch fuel startLeft startRight leftActive goalLeft rightActive goalRight = some r)
    (hr : r.success = false) :
    let goal := branchGoals p leftActive rightActive startLeft startRight goalLeft goalRight
    let c := Call.towards p leftActive rightActive goal
    r.waypoints = [] ∧
      ((r.failMode = .nonFinite ∧ leftActive = false ∧ rightActive = false) ∨
        (r.failMode = .goalNotClear ∧ c.isClear goal = false) ∨
        (r.failMode = .escapeFailed ∧ c.clear (join startLeft startRight) = false ∧
          c.escape sqrt ch (join startLeft startRight) = []) ∨
        (r.failMode = .rrtBudget ∧ ∃ rrtStart, SearchesFrom sqrt c ch (join startLeft startRight) rrtStart ∧
          SearchFails sqrt c ch fuel rrtStart goal)) := by
  intro goal c
  unfold plan at h
  split at h
  · rename_i hidle
    obtain rfl := Option.some.inj h
    exact ⟨rfl, Or.inl ⟨rfl, hidle⟩⟩
  · obtain ⟨hempty, hwhy⟩ := plan_fails_only h hr
    exact ⟨hempty, Or.inr hwhy⟩

theorem plan_failure_cell : ∃ r : InitMotionPlanResult ℝ,
    plan Real.sqrt (cell ℝ .external (-1)) (still ℝ) 0 (fun _ => 0) (fun _ => 0) true (fun _ => 1) false (fun _ => 0) =
      some r ∧ r.waypoints = [] := by
  have h : plan Real.sqrt (cell ℝ .external (-1)) (still ℝ) 0 (fun _ => 0) (fun _ => 0) true (fun _ => 1) false
      (fun _ => 0) = some (failed .goalNotClear) := rfl
  exact ⟨_, h, (plan_failure h rfl).1⟩

omit [IsStrictOrderedRing K] in
/-- **What makes a goal unacceptable**: a pair below its floor, or a class with its minimum on it.  The
configured margin is relaxed away. -/
theorem plan_goalNotClear_iff
    (h : plan sqrt p ch fuel startLeft startRight leftActive goalLeft rightActive goalRight = some r)
    (hone : leftActive = true ∨ rightActive = true) :
    let s := evalDistancesOnly p.monitor leftActive rightActive
      (p.pairs (branchGoals p leftActive rightActive startLeft startRight goalLeft goalRight))
    r.failMode = .goalNotClear ↔ ¬ (s.hardViolation = false ∧
      Double.lt (.fin p.monitor.self.dHardM) s.selfMinClearanceM = true ∧
      Double.lt (.fin p.monitor.intraArm.dHardM) s.intraArmMinClearanceM = true ∧
      Double.lt (.fin p.monitor.environment.dHardM) s.environmentMinClearanceM = true ∧
      Double.lt (.fin p.monitor.external.dHardM) s.externalMinClearanceM = true) := by
  intro s
  unfold plan at h
  rw [if_neg (by rintro ⟨hl, hr⟩; simp [hl, hr] at hone)] at h
  rw [plan_failMode h, ← isClear_relaxed_iff p s, Bool.not_eq_true]
  rfl

theorem plan_goalNotClear_iff_cell : ∃ r : InitMotionPlanResult ℝ,
    plan Real.sqrt (cell ℝ .external (-1)) (still ℝ) 0 (fun _ => 0) (fun _ => 0) true (fun _ => 1) false (fun _ => 0) =
      some r ∧ r.failMode = .goalNotClear := by
  have h : plan Real.sqrt (cell ℝ .external (-1)) (still ℝ) 0 (fun _ => 0) (fun _ => 0) true (fun _ => 1) false
      (fun _ => 0) = some (failed .goalNotClear) := rfl
  refine ⟨_, h, (plan_goalNotClear_iff h (Or.inl rfl)).mpr ?_⟩
  rintro ⟨hviolation, -⟩
  cases hviolation

/-- **A goal inside the threshold of a box** is planned for in vain, unless there is nothing to plan. -/
theorem plan_boxed_goal
    (h : plan sqrt p ch fuel startLeft startRight leftActive goalLeft rightActive goalRight = some r)
    (henforced : p.monitor.monitorOnly = false) {pr : Pair × Double}
    (hpr : pr ∈ p.pairs (branchGoals p leftActive rightActive startLeft startRight goalLeft goalRight))
    (hactive : pairActive pr.1 leftActive rightActive = true) (hbox : pr.1.category = .externalBox) {x : ℚ}
    (hx : pr.2 = .fin x)
    (hnear : x ≤ (Call.towards p leftActive rightActive
      (branchGoals p leftActive rightActive startLeft startRight goalLeft goalRight)).thresholds.externalM)
    (hfar : max 0 p.cfg.noopTolDeg < maxActiveAbsDiff (join startLeft startRight)
      (branchGoals p leftActive rightActive startLeft startRight goalLeft goalRight)
      (makeActiveMask leftActive rightActive)) : r.success = false := by
  by_contra hr
  rcases plan_goal_clear (plan_call h (Bool.eq_true_of_not_eq_false hr)) (Bool.eq_true_of_not_eq_false hr) with
    ⟨hdone, -⟩ | hclear
  · exact absurd hdone (not_le.mpr hfar)
  · obtain ⟨y, hy, hpass⟩ := clears_pair hclear hpr hactive
    have hreported : onlyReported p.monitor pr.1.category = false := by
      rw [onlyReported, henforced, Bool.and_false]
    obtain ⟨hplanned, -⟩ := hpass hreported
    obtain rfl := Double.fin.inj (hx.symm.trans hy)
    rw [hbox] at hplanned
    exact absurd hnear (not_le.mpr hplanned)

theorem plan_boxed_goal_cell : ∃ r : InitMotionPlanResult ℝ,
    plan Real.sqrt (cell ℝ .externalBox 1) (still ℝ) 0 (fun _ => 0) (fun _ => 0) true (fun _ => 1) false (fun _ => 0) =
      some r ∧ r.success = false := by
  set goal :=
      branchGoals (cell ℝ .externalBox 1) true false (fun _ => 0) (fun _ => 0) (fun _ => 1) (fun _ => 0) with hgoal
  set c := Call.towards (cell ℝ .externalBox 1) true false goal with hc
  have hthresholds : c.thresholds = ⟨1, 1, 1, 1⟩ := cell_box_thresholds goal
  have hisClear : ∀ q, c.isClear q = true := fun q => by
    rw [Call.isClear, hthresholds]
    rfl
  have hclear : ∀ q, c.clear q = false := fun q => by
    rw [Call.clear, hthresholds]
    rfl
  have hfar : ¬ maxActiveAbsDiff (join (fun _ => 0) fun _ => 0) goal c.active ≤ max 0 c.planner.cfg.noopTolDeg :=
    not_le.mpr (cell_far .externalBox 1)
  -- the climb stops where it starts, and that is not clear
  have hescape : c.escape Real.sqrt (still ℝ) (join (fun _ => 0) fun _ => 0) = [] := by
    have hclimb : climb Real.sqrt c.planner.limits c.active (c.escapeOracle Real.sqrt) c.stepDeg 0
        (still ℝ).escapeLate (join (fun _ => 0) fun _ => 0) = some [join (fun _ => 0) fun _ => 0] := by
      rw [climb]
      exact if_pos (hisClear (join (fun _ => 0) fun _ => 0))
    have hunused : usable (c.escapeOracle Real.sqrt) (some [join (fun _ => 0) fun _ => 0]) = none :=
      if_neg (ne_true_of_eq_false (hclear (join (fun _ => 0) fun _ => 0)))
    show escapeToClear Real.sqrt c.planner.limits c.active (c.escapeOracle Real.sqrt) c.stepDeg 0
      (still ℝ).escapeLate [] (join (fun _ => 0) fun _ => 0) = []
    rw [escapeToClear, hclimb, hunused]
    rfl
  have h : plan Real.sqrt (cell ℝ .externalBox 1) (still ℝ) 0 (fun _ => 0) (fun _ => 0) true (fun _ => 1) false
      (fun _ => 0) = some (failed .escapeFailed) := by
    unfold plan
    rw [if_neg (by simp)]
    dsimp only
    rw [← hgoal, ← hc, Call.plan, hisClear, Bool.not_true, if_neg Bool.false_ne_true, if_neg hfar, hclear,
      if_neg Bool.false_ne_true, hescape]
    rfl
  exact ⟨_, h, plan_boxed_goal h rfl List.mem_cons_self rfl rfl rfl (by rw [← hgoal, ← hc, hthresholds])
    (cell_far .externalBox 1)⟩

end

/-! ## The escape -/

section

variable {K : Type*} [Field K] [LinearOrder K] [IsStrictOrderedRing K] [FloorSemiring K] {sqrt : K → K} {p : Planner K}
  {ch : Chance K} {leftActive rightActive : Bool} {goal start : Config K}

omit [LinearOrder K] [IsStrictOrderedRing K] [FloorSemiring K] in
/-- What the search takes for clear, the climb does: relaxed thresholds are never below the floors. -/
theorem isClear_of_clear {q : Config K} (h : (Call.towards p leftActive rightActive goal).clear q = true) :
    (Call.towards p leftActive rightActive goal).isClear q = true := by
  refine (isClear_eval _ _ _ _ _).mpr fun pr hpr hactive ho => ?_
  obtain ⟨x, hx, hpass⟩ := clears_pair h hpr hactive
  obtain ⟨hplanned, hfloor⟩ := hpass ho
  rw [hx]
  show (decide (_ ≤ x) && (_ || decide (_ < x))) = true
  rw [decide_eq_true hfloor.le, decide_eq_true hplanned, Bool.or_true, Bool.and_true]

/-- **An escape climbs from the start, or jumps**: a restart is one checked edge to its perturbed start, from
where nothing is left to climb. -/
theorem escape_climbs_or_jumps (h : (Call.towards p leftActive rightActive goal).escape sqrt ch start ≠ []) :
    let c := Call.towards p leftActive rightActive goal
    (c.escape sqrt ch start).IsChain (Rises p.limits c.active (c.escapeOracle sqrt)) ∨
      ∃ i < p.cfg.escapeRestartAttempts,
        c.escape sqrt ch start = [start, seeded p.limits c.active start (ch.restarts i).perturb] ∧
        c.edge sqrt start (seeded p.limits c.active start (ch.restarts i).perturb) = true := by
  intro c
  have hsplit : c.escape sqrt ch start = escapeToClear sqrt p.limits c.active (c.escapeOracle sqrt) c.stepDeg
    p.cfg.escapeMaxSteps ch.escapeLate ((List.range p.cfg.escapeRestartAttempts).map ch.restarts) start := rfl
  rw [hsplit] at h ⊢
  rw [escapeToClear] at h ⊢
  split at h
  · rename_i path hused
    exact Or.inl (climb_spec (usable_eq_some.mp hused).1).2.2.2
  · obtain ⟨r, hr, hedge, heq⟩ := escapeRestarts_eq_pair (fun a b hab => isClear_of_clear (edge_end hab)) h
    obtain ⟨i, hi, rfl⟩ := List.mem_map.mp hr
    exact Or.inr ⟨i, List.mem_range.mp hi, heq, hedge⟩

end

section

variable {K : Type*} [Field K] [LinearOrder K] [IsStrictOrderedRing K] [FloorSemiring K] (sqrt : K → K)

/-- Out of the angle at zero, the first joint never comes back to it. -/
theorem pocket_edge {b : Config K} (hb : b firstJoint ≠ 0) :
    (Call.towards (pocket (0 : K)) true false fun _ => 1).edge sqrt (fun _ => 0) b = true := by
  refine List.all_eq_true.mpr fun q hq => ?_
  obtain ⟨i, hi, hn, rfl⟩ := mem_samples.mp hq
  generalize pieces (K := K) _ _ = n at hn ⊢
  have hi' : (i : K) ≠ 0 := by exact_mod_cast (by omega : i ≠ 0)
  have hn' : (n : K) ≠ 0 := by exact_mod_cast (by omega : n ≠ 0)
  have hfirst : lerp (fun _ => 0) b ((i : K) / n) firstJoint ≠ 0 := by
    rw [lerp, zero_add, sub_zero]
    exact mul_ne_zero (div_ne_zero hi' hn') hb
  rw [pocket_clear one_ne_zero, decide_eq_true hfirst]

omit [FloorSemiring K] in
theorem pocket_out : seeded (pocket (0 : K)).limits (makeActiveMask true false) (fun _ => 0)
    ((nudged K).restarts 0).perturb firstJoint = 1 / 2 := by
  have hlimits : Limited (pocket (0 : K)).limits firstJoint := neg_one_lt_zero.trans one_pos
  have hlow : (-1 : K) ≤ 0 + 1 / 2 := neg_one_lt_zero.le.trans (by positivity)
  have hhigh : 0 + 1 / 2 ≤ (1 : K) := by
    rw [zero_add]
    exact half_le_self zero_le_one
  rw [seeded, if_pos (show makeActiveMask true false firstJoint = true from rfl), limitJoint, if_pos hlimits]
  show Clamp.clamp (0 + 1 / 2) (-1) 1 = (1 / 2 : K)
  rw [Clamp.clamp, if_neg (not_lt.mpr hlow), if_neg (not_lt.mpr hhigh), zero_add]

/-- With no step to climb, the restart is what gets out. -/
theorem pocket_jumps :
    let c := Call.towards (pocket (0 : K)) true false fun _ => 1
    c.escape sqrt (nudged K) (fun _ => 0) =
      [fun _ => 0, seeded c.planner.limits c.active (fun _ => 0) ((nudged K).restarts 0).perturb] := by
  intro c
  set out := seeded c.planner.limits c.active (fun _ => 0) ((nudged K).restarts 0).perturb
  have hoff : out firstJoint ≠ 0 := pocket_out.trans_ne (one_div_ne_zero two_ne_zero)
  have hlow : c.isClear (fun _ => 0) = false :=
    (pocket_isClear one_ne_zero _).trans (decide_eq_false (not_not.mpr rfl))
  have hclear : c.isClear out = true := (pocket_isClear one_ne_zero out).trans (decide_eq_true hoff)
  have hstart : climb sqrt c.planner.limits c.active (c.escapeOracle sqrt) c.stepDeg 0 (nudged K).escapeLate
      (fun _ => 0) = none := if_neg (ne_true_of_eq_false hlow)
  have hout : climb sqrt c.planner.limits c.active (c.escapeOracle sqrt) c.stepDeg 0
      ((nudged K).restarts 0).lateSteps out = some [out] := if_pos hclear
  have hused : usable (c.escapeOracle sqrt) (some [out]) = some [out] :=
    if_pos ((pocket_clear one_ne_zero out).trans (decide_eq_true hoff))
  have hlate : ¬ ((nudged K).restarts 0).late = true := Bool.false_ne_true
  have hedge : (c.escapeOracle sqrt).edge (fun _ => 0) out = true := pocket_edge sqrt hoff
  show escapeToClear sqrt c.planner.limits c.active (c.escapeOracle sqrt) c.stepDeg 0 (nudged K).escapeLate
    [(nudged K).restarts 0] (fun _ => 0) = [fun _ => 0, out]
  rw [escapeToClear, hstart]
  show escapeRestarts sqrt c.planner.limits c.active (c.escapeOracle sqrt) c.stepDeg 0 (fun _ => 0)
    [(nudged K).restarts 0] = [fun _ => 0, out]
  rw [escapeRestarts, if_neg hlate, if_pos hedge, hout, hused]

end

theorem escape_climbs_or_jumps_pocket :
    let c := Call.towards (pocket (0 : ℝ)) true false fun _ => 1
    (c.escape Real.sqrt (nudged ℝ) fun _ => 0).length = 2 ∧
    ((c.escape Real.sqrt (nudged ℝ) fun _ => 0).IsChain (Rises c.planner.limits c.active (c.escapeOracle Real.sqrt)) ∨
      ∃ i < 1, c.escape Real.sqrt (nudged ℝ) (fun _ => 0) =
          [fun _ => 0, seeded c.planner.limits c.active (fun _ => 0) ((nudged ℝ).restarts i).perturb] ∧
        c.edge Real.sqrt (fun _ => 0)
          (seeded c.planner.limits c.active (fun _ => 0) ((nudged ℝ).restarts i).perturb) = true) := by
  intro c
  have hjump := pocket_jumps Real.sqrt
  exact ⟨congrArg List.length hjump, escape_climbs_or_jumps (hjump.trans_ne (List.cons_ne_nil _ _))⟩

/-! ## Waypoints -/

theorem join_split {α : Type*} (q : Fin kCombined → α) : join (split q).1 (split q).2 = q := by
  funext k
  by_cases hk : k.val < kDof
  · rw [join, if_pos hk]
    exact congrArg q (Fin.ext (Nat.mod_eq_of_lt hk))
  · have hlt : k.val < 2 * kDof := k.isLt
    have hmod : kDof + k.val % kDof = k.val := by
      rw [Nat.mod_eq_sub_mod (by omega), Nat.mod_eq_of_lt (by omega)]
      omega
    rw [join, if_neg hk]
    exact congrArg q (Fin.ext hmod)

section

variable {K : Type*} [Field K] [LinearOrder K] [IsStrictOrderedRing K] [FloorSemiring K] {sqrt : K → K} {p : Planner K}
  {ch : Chance K} {fuel : ℕ} {startLeft startRight goalLeft goalRight : Joints K} {leftActive rightActive : Bool}
  {r : InitMotionPlanResult K}

omit [LinearOrder K] [IsStrictOrderedRing K] [FloorSemiring K] in
theorem active_towards {goal : Config K} {k : Fin kCombined} [LinearOrder K] :
    (Call.towards p leftActive rightActive goal).active k = if k.val < kDof then leftActive else rightActive := rfl

omit [IsStrictOrderedRing K] [FloorSemiring K] in
/-- The goal of an arm that is not planned is its start. -/
theorem branchGoals_atRest (goal : Config K) (k : Fin kCombined)
    (hk : (Call.towards p leftActive rightActive goal).active k = false) :
    branchGoals p leftActive rightActive startLeft startRight goalLeft goalRight k = join startLeft startRight k := by
  have hside : (if k.val < kDof then leftActive else rightActive) = false := hk
  rw [branchGoals, join, join]
  by_cases hleft : k.val < kDof
  · rw [if_pos hleft] at hside
    rw [if_pos hleft, if_pos hleft, branchGoal, hside, if_neg Bool.false_ne_true]
  · rw [if_neg hleft] at hside
    rw [if_neg hleft, if_neg hleft, branchGoal, hside, if_neg Bool.false_ne_true]

/-- The waypoints of a plan that succeeds, before they are split. -/
theorem plan_waypoints (h : plan sqrt p ch fuel startLeft startRight leftActive goalLeft rightActive goalRight = some r)
    (hr : r.success = true) {P : Config K → Prop}
    (hkept : Kept (Call.towards p leftActive rightActive
      (branchGoals p leftActive rightActive startLeft startRight goalLeft goalRight)) ch
      (branchGoals p leftActive rightActive startLeft startRight goalLeft goalRight) P)
    (hstart : P (join startLeft startRight)) :
    ∃ path, r.waypoints = (densify p.cfg.maxSegmentDeg path).map split ∧ path.head? = some (join startLeft startRight) ∧
      (path = [join startLeft startRight] ∨ path.getLast? =
        some (branchGoals p leftActive rightActive startLeft startRight goalLeft goalRight)) ∧
      ∀ q ∈ densify p.cfg.maxSegmentDeg path, P q := by
  rcases plan_planned hkept hstart (plan_call h hr) hr with ⟨-, hwaypoints, -⟩ | ⟨escape, corners, hplanned, hpoints⟩
  · exact ⟨[join startLeft startRight], hwaypoints, rfl, Or.inl rfl, fun q hq => by
      rw [List.mem_singleton.mp hq]
      exact hstart⟩
  · obtain ⟨hhead, hlast⟩ := hplanned.ends
    exact ⟨_, hplanned.waypoints, hhead, Or.inr hlast, forall_mem_densify _ hpoints hkept.convex⟩

end

/-! ## Clearance -/

/-- The resolution of the edge check, in degrees. -/
def Call.resolution {K : Type*} [Field K] [LinearOrder K] (c : Call K) : K :=
  max (1 / 10 ^ 3) (c.planner.cfg.edgeResolutionRad * kRadToDeg)

section

theorem dist_lerp (a b : Config ℝ) (t t' : ℝ) :
    dist Real.sqrt (lerp a b t) (lerp a b t') = |t - t'| * dist Real.sqrt a b := by
  have hsum : dist2 (lerp a b t) (lerp a b t') = (t - t') * (t - t') * dist2 a b := by
    rw [dist2, dist2, Finset.mul_sum]
    refine Finset.sum_congr rfl fun i _ => ?_
    rw [lerp_sub]
    ring
  rw [dist, dist, hsum, Real.sqrt_mul (mul_self_nonneg _), Real.sqrt_mul_self_eq_abs]

/-- A piece of the unit interval has an end near every point. -/
theorem exists_sample {n : ℕ} (hn : 1 ≤ n) {t : ℝ} (h0 : 0 ≤ t) (h1 : t ≤ 1) :
    ∃ j : ℕ, 1 ≤ j ∧ j ≤ n ∧ |t - (j : ℝ) / n| ≤ 1 / n := by
  have hpos : (0 : ℝ) < n := by exact_mod_cast hn
  have hle : t * n ≤ n := mul_le_of_le_one_left hpos.le h1
  refine ⟨max 1 ⌈t * n⌉₊, le_max_left _ _, max_le hn (Nat.ceil_le.mpr hle), ?_⟩
  have hlow : t * n ≤ (max 1 ⌈t * n⌉₊ : ℕ) := (Nat.le_ceil _).trans (by exact_mod_cast le_max_right _ _)
  have hhigh : ((max 1 ⌈t * n⌉₊ : ℕ) : ℝ) ≤ t * n + 1 := by
    rw [Nat.cast_max, Nat.cast_one]
    exact max_le (by linarith [mul_nonneg h0 hpos.le]) (Nat.ceil_lt_add_one (mul_nonneg h0 hpos.le)).le
  have hdiff : t - ((max 1 ⌈t * n⌉₊ : ℕ) : ℝ) / n = (t * n - (max 1 ⌈t * n⌉₊ : ℕ)) / n := by field_simp
  rw [hdiff, abs_div, abs_of_pos hpos, div_le_div_iff_of_pos_right hpos, abs_le]
  constructor <;> linarith

/-- Near every point of a clear edge there is one that the oracle was asked about. -/
theorem edge_near {c : Call ℝ} {a b : Config ℝ} (h : c.edge Real.sqrt a b = true) {t : ℝ} (h0 : 0 ≤ t) (h1 : t ≤ 1) :
    ∃ q, dist Real.sqrt (lerp a b t) q ≤ c.resolution ∧ c.clear q = true := by
  set n := pieces (dist Real.sqrt a b) c.resolution with hn
  obtain ⟨j, hj, hjn, hnear⟩ := exists_sample (one_le_pieces (dist Real.sqrt a b) c.resolution) h0 h1
  have hres : 0 < c.resolution := lt_of_lt_of_le (by positivity) (le_max_left _ _)
  have hpos : (0 : ℝ) < n := by exact_mod_cast one_le_pieces (dist Real.sqrt a b) c.resolution
  refine ⟨lerp a b ((j : ℝ) / n), ?_, List.all_eq_true.mp h _ (mem_samples.mpr ⟨j, hj, hjn, rfl⟩)⟩
  calc dist Real.sqrt (lerp a b t) (lerp a b ((j : ℝ) / n)) = |t - (j : ℝ) / n| * dist Real.sqrt a b :=
    dist_lerp a b t _
    _ ≤ 1 / n * (n * c.resolution) :=
        mul_le_mul hnear (le_pieces_mul hres) (dist_nonneg a b) (by positivity)
    _ = c.resolution := by field_simp

variable {p : Planner ℝ} {ch : Chance ℝ} {fuel : ℕ} {startLeft startRight goalLeft goalRight : Joints ℝ}
  {leftActive rightActive : Bool} {r : InitMotionPlanResult ℝ}

/-- What is emitted after the escape lies near what was checked. -/
theorem Planned.near {c : Call ℝ} {start goal : Config ℝ} {escape corners : List (Config ℝ)}
    (h : Planned Real.sqrt c ch start goal escape corners r) :
    ∀ w ∈ r.waypoints.drop r.escapeWaypoints, ∃ q, dist Real.sqrt (join w.1 w.2) q ≤ c.resolution ∧
      c.clear q = true := by
  have hfrom : ∀ q ∈ densifyFrom c.planner.cfg.maxSegmentDeg corners,
      ∃ q', dist Real.sqrt q q' ≤ c.resolution ∧ c.clear q' = true :=
    forall_mem_densifyFrom _ (fun a b t hab h0 h1 => edge_near hab h0 h1) h.clear
  obtain ⟨x, hx, hclear⟩ := h.origin
  obtain ⟨rest, rfl⟩ := List.head?_eq_some_iff.mp hx
  rw [h.waypoints, h.escapeWaypoints, ← List.map_drop]
  intro w hw
  obtain ⟨q, hq, rfl⟩ := List.mem_map.mp hw
  rw [join_split]
  rcases h.escaped with ⟨rfl, -⟩ | ⟨-, hhead, hjoin, -⟩
  · rcases List.mem_cons.mp hq with rfl | hq
    · refine ⟨q, ?_, hclear⟩
      have hself : dist2 q q = 0 := by simp [dist2]
      rw [dist, hself, Real.sqrt_zero]
      exact (by positivity : (0 : ℝ) ≤ 1 / 10 ^ 3).trans (le_max_left _ _)
    · exact hfrom q hq
  · obtain ⟨init, rfl⟩ := List.getLast?_eq_some_iff.mp (hjoin.trans hx)
    have hne : (init ++ [x]).isEmpty = false := by simp
    rw [escapeThen, hne, if_neg Bool.false_ne_true, List.tail_cons, List.append_assoc, List.singleton_append,
      densify_append _ init x rest, List.drop_left] at hq
    exact hfrom q hq

/-- **After the escape, no pair of a moving arm is near its floor**, unless there is nothing to plan: every
waypoint lies within the edge resolution of a configuration where each of them keeps more than it, however
far the goal has relaxed the thresholds. -/
theorem plan_near_clear
    (h : plan Real.sqrt p ch fuel startLeft startRight leftActive goalLeft rightActive goalRight = some r)
    (hr : r.success = true) :
    (maxActiveAbsDiff (join startLeft startRight)
        (branchGoals p leftActive rightActive startLeft startRight goalLeft goalRight)
        (makeActiveMask leftActive rightActive) ≤ max 0 p.cfg.noopTolDeg ∧ r.waypoints = [(startLeft, startRight)]) ∨
    ∀ w ∈ r.waypoints.drop r.escapeWaypoints, ∃ q,
      dist Real.sqrt (join w.1 w.2) q ≤ max (1 / 10 ^ 3) (p.cfg.edgeResolutionRad * kRadToDeg) ∧
      ∀ pr ∈ p.pairs q, pairActive pr.1 leftActive rightActive = true → onlyReported p.monitor pr.1.category = false →
        ∃ x, pr.2 = .fin x ∧ hardFloor p.monitor pr.1.category < x := by
  rcases plan_planned (kept_true _ ch _) trivial (plan_call h hr) hr with
    ⟨hnear, hwaypoints, -⟩ | ⟨escape, corners, hplanned, -⟩
  · exact Or.inl ⟨hnear, by rw [hwaypoints, split_join]⟩
  · refine Or.inr fun w hw => ?_
    obtain ⟨q, hnear, hclear⟩ := hplanned.near w hw
    refine ⟨q, hnear, fun pr hpr hactive ho => ?_⟩
    obtain ⟨x, hx, hpass⟩ := clears_pair hclear hpr hactive
    exact ⟨x, hx, (hpass ho).2⟩

theorem plan_near_clear_cell : ∃ r,
    plan Real.sqrt (cell ℝ .external 3) (still ℝ) 0 (fun _ => 0) (fun _ => 0) true (fun _ => 1) false
        (fun _ => 0) = some r ∧
      ∀ w ∈ r.waypoints.drop r.escapeWaypoints, ∃ q,
        dist Real.sqrt (join w.1 w.2) q ≤ max (1 / 10 ^ 3) (1 * kRadToDeg) ∧
        ∀ pr ∈ (cell ℝ .external 3).pairs q, pairActive pr.1 true false = true →
          onlyReported cellMonitor pr.1.category = false →
            ∃ x, pr.2 = .fin x ∧ hardFloor cellMonitor pr.1.category < x := by
  obtain ⟨r, h, hr⟩ := cell_plan Real.sqrt
  refine ⟨r, h, (plan_near_clear h hr).resolve_left ?_⟩
  rintro ⟨hnear, -⟩
  exact absurd hnear (not_le.mpr (cell_far .external 3))

end

end RbServo.InitMotion
