import RoboticsLab.InitMotion.SearchSound

/-!
# What a successful plan is

    corners   : a path of the search to the goal, every edge of it clear at the relaxed thresholds
    waypoints : the escape, then the corners, densified                        (Planned, plan_planned)

A property that segments, steps of the climb and sampled targets keep holds of every waypoint (`Kept`):
the arm that is not planned stays where it is, and the joints of the other stay within their limits.
-/

namespace RbServo.InitMotion

open Collision

section

variable {K : Type*} [Field K] [LinearOrder K] [FloorSemiring K]

/-! ## Statement -/

/-- The escape, and then the corners from where it ends. -/
def escapeThen (escape corners : List (Config K)) : List (Config K) :=
  if escape.isEmpty then corners else escape ++ corners.tail

structure Planned (sqrt : K → K) (c : Call K) (ch : Chance K) (start goal : Config K) (escape corners : List (Config K))
    (r : InitMotionPlanResult K) : Prop where
  escaped : escape = [] ∧ corners.head? = some start ∨
    escape = c.escape sqrt ch start ∧ escape.head? = some start ∧ escape.getLast? = corners.head? ∧
    c.clear start = false
  origin : ∃ x, corners.head? = some x ∧ c.clear x = true
  goal : corners.getLast? = some goal
  clear : corners.IsChain fun a b => c.edge sqrt a b = true
  waypoints : r.waypoints = (densify c.planner.cfg.maxSegmentDeg (escapeThen escape corners)).map split
  escapeWaypoints : r.escapeWaypoints = (densify c.planner.cfg.maxSegmentDeg escape).length

/-- What holds of every point that a plan goes through, wherever it starts. -/
structure Kept (c : Call K) (ch : Chance K) (goal : Config K) (P : Config K → Prop) : Prop where
  convex : Convex P
  moves : ∀ a b, P a → Moves c.planner.limits c.active a b → P b
  target : ∀ i start opposite, P start → P opposite → P (c.target start goal opposite (ch.draws i))
  goal : P goal

end

/-! ## The plan -/

section

variable {K : Type*} [Field K] [LinearOrder K] [FloorSemiring K] {sqrt : K → K} {c : Call K} {ch : Chance K}
  {start goal : Config K} {P : Config K → Prop}

/-- What an escape that is used looks like. -/
theorem escape_spec (hmoves : ∀ a b, P a → Moves c.planner.limits c.active a b → P b) (hstart : P start) {x : Config K}
    (hlast : (c.escape sqrt ch start).getLast? = some x) :
    (c.escape sqrt ch start).head? = some start ∧ ∀ q ∈ c.escape sqrt ch start, P q := by
  have hne : c.escape sqrt ch start ≠ [] := fun h0 => by
    rw [h0] at hlast
    cases hlast
  obtain ⟨rest, -, heq, -, -, hchain, -, -⟩ := escapeToClear_spec hne
  rw [Call.escape, heq]
  exact ⟨rfl, hchain.induction P _ (fun a b hab ha => hmoves a b ha hab) fun _ => hstart⟩

theorem finish_success {escape : List (Config K)} {s : Search K} (h : (c.finish sqrt ch escape s).success = true) :
    ∃ raw, s.raw = some raw ∧ (c.shortcut sqrt ch raw).IsChain (fun a b => c.edge sqrt a b = true) ∧
      (c.finish sqrt ch escape s).waypoints =
        (densify c.planner.cfg.maxSegmentDeg (escapeThen escape (c.shortcut sqrt ch raw))).map split ∧
      (c.finish sqrt ch escape s).escapeWaypoints = (densify c.planner.cfg.maxSegmentDeg escape).length := by
  unfold Call.finish at h ⊢
  cases hraw : s.raw with
  | none =>
    rw [hraw] at h
    cases h
  | some raw =>
    rw [hraw] at h
    dsimp only at h ⊢
    by_cases hclear : pathEdgesClear (c.edge sqrt) (c.shortcut sqrt ch raw) = true
    · rw [if_pos hclear]
      exact ⟨raw, rfl, pathEdgesClear_iff.mp hclear, rfl, rfl⟩
    · rw [if_neg hclear] at h
      cases h

variable [IsStrictOrderedRing K]

/-- A search that is finished successfully. -/
theorem Kept.finish (hkept : Kept c ch goal P) {fuel : ℕ} {rrtStart : Config K} (hstart : P rrtStart)
    {escape : List (Config K)} {r : InitMotionPlanResult K}
    (h : (c.rawPath sqrt ch fuel rrtStart goal).map (c.finish sqrt ch escape) = some r) (hr : r.success = true) :
    ∃ corners, corners.head? = some rrtStart ∧ corners.getLast? = some goal ∧ (∀ q ∈ corners, P q) ∧
      corners.IsChain (fun a b => c.edge sqrt a b = true) ∧
      r.waypoints = (densify c.planner.cfg.maxSegmentDeg (escapeThen escape corners)).map split ∧
      r.escapeWaypoints = (densify c.planner.cfg.maxSegmentDeg escape).length := by
  obtain ⟨s, hs, rfl⟩ := Option.map_eq_some_iff.mp h
  obtain ⟨raw, hraw, hclear, hwaypoints, hescape⟩ := finish_success hr
  obtain ⟨hhead, hlast, hpoints, -⟩ :=
    rawPath_spec hkept.convex (fun i opposite => hkept.target i rrtStart opposite hstart) hstart hkept.goal hs hraw
  have hshort : Shortened (c.edge sqrt) raw (c.shortcut sqrt ch raw) := shortened_shortcut c ch raw
  exact ⟨_, hshort.head.trans hhead, hshort.last.trans hlast, fun q hq => hpoints q (hshort.mem q hq), hclear,
    hwaypoints, hescape⟩

/-- **A plan that succeeds** has nothing to do, or is an escape and corners with clear edges. -/
theorem plan_planned (hkept : Kept c ch goal P) (hstart : P start) {fuel : ℕ} {r : InitMotionPlanResult K}
    (h : c.plan sqrt ch fuel start goal = some r) (hr : r.success = true) :
    (maxActiveAbsDiff start goal c.active ≤ max 0 c.planner.cfg.noopTolDeg ∧ r.waypoints = [split start] ∧
      r.escapeWaypoints = 0) ∨
    ∃ escape corners, Planned sqrt c ch start goal escape corners r ∧ ∀ q ∈ escapeThen escape corners, P q := by
  unfold Call.plan at h
  split at h
  · obtain rfl := Option.some.inj h
    cases hr
  split at h
  · rename_i hnear
    obtain rfl := Option.some.inj h
    exact Or.inl ⟨hnear, rfl, rfl⟩
  refine Or.inr ?_
  split at h
  · rename_i hclear
    obtain ⟨corners, hhead, hlast, hpoints, hchain, hwaypoints, hescape⟩ := hkept.finish hstart h hr
    exact ⟨[], corners, ⟨Or.inl ⟨rfl, hhead⟩, ⟨start, hhead, hclear⟩, hlast, hchain, hwaypoints, hescape⟩, hpoints⟩
  · rename_i hlow
    dsimp only at h
    split at h
    · obtain rfl := Option.some.inj h
      cases hr
    rename_i rrtStart hend
    split at h
    · obtain rfl := Option.some.inj h
      cases hr
    rename_i hused
    have hclear : c.clear rrtStart = true := Bool.eq_true_of_not_eq_false (not_or.mp hused).2
    obtain ⟨hfirst, hpoints⟩ := escape_spec hkept.moves hstart hend
    obtain ⟨corners, hhead, hlast, hcorners, hchain, hwaypoints, hescape⟩ :=
      hkept.finish (hpoints rrtStart (List.mem_of_getLast? hend)) h hr
    have hescaped := hend.trans hhead.symm
    refine ⟨c.escape sqrt ch start, corners, ⟨Or.inr ⟨rfl, hfirst, hescaped, Bool.eq_false_of_not_eq_true hlow⟩,
      ⟨rrtStart, hhead, hclear⟩, hlast, hchain, hwaypoints, hescape⟩, fun q hq => ?_⟩
    unfold escapeThen at hq
    split at hq
    · exact hcorners q hq
    · rcases List.mem_append.mp hq with hq | hq
      · exact hpoints q hq
      · exact hcorners q (List.mem_of_mem_tail hq)

omit [IsStrictOrderedRing K] in
/-- The corners go on where the escape ends. -/
theorem Planned.ends {escape corners : List (Config K)} {r : InitMotionPlanResult K}
    (h : Planned sqrt c ch start goal escape corners r) :
    (escapeThen escape corners).head? = some start ∧ (escapeThen escape corners).getLast? = some goal := by
  rcases h.escaped with ⟨rfl, hhead⟩ | ⟨-, hhead, hjoin, -⟩
  · exact ⟨hhead, h.goal⟩
  · obtain ⟨rest, rfl⟩ := List.head?_eq_some_iff.mp hhead
    have hx : (start :: rest).getLast? = some (rest.getLast?.getD start) := List.getLast?_cons
    obtain ⟨hfirst, hlast, -⟩ := overlap_spec (R := fun _ _ => True) hx (hjoin.symm.trans hx)
    exact ⟨hfirst, hlast.trans h.goal⟩

/-- Every corner is clear, the goal among them. -/
theorem Planned.corners_clear {escape corners : List (Config K)} {r : InitMotionPlanResult K}
    (h : Planned sqrt c ch start goal escape corners r) : ∀ q ∈ corners, c.clear q = true := by
  obtain ⟨x, hx, hclear⟩ := h.origin
  obtain ⟨rest, rfl⟩ := List.head?_eq_some_iff.mp hx
  exact h.clear.induction (fun q => c.clear q = true) _ (fun a b hab _ => edge_end hab) fun _ => hclear

end

/-! ## What every waypoint keeps -/

section

variable {K : Type*} [Field K] [LinearOrder K] {c : Call K} {ch : Chance K} {start goal : Config K}

/-- **The arm at rest** stays where it is. -/
theorem kept_atRest (ch : Chance K) (hgoal : ∀ k, c.active k = false → goal k = start k) :
    Kept c ch goal fun q => ∀ k, c.active k = false → q k = start k := by
  refine ⟨fun a b s ha hb _ _ k hk => ?_, fun a b ha hmoves k hk => ?_,
    fun i from' opposite hfrom hopp k hk => ?_, hgoal⟩
  · rw [lerp_of_eq ((ha k hk).trans (hb k hk).symm), ha k hk]
  · have hb := hmoves k
    rw [hk, if_neg Bool.false_ne_true] at hb
    exact hb.trans (ha k hk)
  · have hsample : ∀ margin : Fin kCombined → K,
        sample (fun k => c.band from' goal (margin k) k) (ch.draws i).u k = start k := fun margin => by
      simp only [sample, Call.band, hk, Bool.false_eq_true, if_false, hfrom k hk, sub_self, mul_zero, add_zero]
    unfold Call.target
    split
    · exact hopp k hk
    split
    · exact hsample fun _ => c.planner.cfg.globalSampleMarginDeg
    · exact hsample fun k => bandMargin c.planner.cfg k

variable [IsStrictOrderedRing K]

/-- A joint that has limits keeps them. -/
def InLimits (c : Call K) (q : Config K) : Prop :=
  ∀ k, c.active k = true → Limited c.planner.limits k →
    c.planner.limits.qMinDeg (armJoint k) ≤ q k ∧ q k ≤ c.planner.limits.qMaxDeg (armJoint k)

theorem band_mem {margin : K} (hmargin : 0 ≤ margin) (hstart : InLimits c start) (hgoal : InLimits c goal)
    {k : Fin kCombined} (hk : c.active k = true) (hlim : Limited c.planner.limits k) {u : K} (hu0 : 0 ≤ u)
    (hu1 : u ≤ 1) :
    let x := (c.band start goal margin k).1 + u * ((c.band start goal margin k).2 - (c.band start goal margin k).1)
    c.planner.limits.qMinDeg (armJoint k) ≤ x ∧ x ≤ c.planner.limits.qMaxDeg (armJoint k) := by
  obtain ⟨hs, hs'⟩ := hstart k hk hlim
  obtain ⟨hg, hg'⟩ := hgoal k hk hlim
  set qMin := c.planner.limits.qMinDeg (armJoint k)
  set qMax := c.planner.limits.qMaxDeg (armJoint k)
  -- both ends of the band lie in the range
  obtain ⟨⟨hlo, hlo'⟩, hhi, hhi'⟩ : (qMin ≤ (c.band start goal margin k).1 ∧ (c.band start goal margin k).1 ≤ qMax) ∧
      qMin ≤ (c.band start goal margin k).2 ∧ (c.band start goal margin k).2 ≤ qMax := by
    have hlow : min (start k) (goal k) ≤ qMax := (min_le_left _ _).trans hs'
    have hhigh : qMin ≤ max (start k) (goal k) := hs.trans (le_max_left _ _)
    have hle : qMin ≤ qMax := hs.trans hs'
    have hlo : qMin ≤ max (min (start k) (goal k) - margin) qMin ∧
        max (min (start k) (goal k) - margin) qMin ≤ qMax :=
      ⟨le_max_right _ _, max_le (by linarith) hle⟩
    have hhi : qMin ≤ min (max (start k) (goal k) + margin) qMax ∧
        min (max (start k) (goal k) + margin) qMax ≤ qMax :=
      ⟨le_min (by linarith) hle, min_le_right _ _⟩
    simp only [Call.band, hk, if_true, hlim]
    split
    · exact ⟨hhi, hlo⟩
    · exact ⟨hlo, hhi⟩
  constructor
  · nlinarith [mul_le_mul_of_nonneg_left hhi hu0, mul_le_mul_of_nonneg_left hlo (sub_nonneg.mpr hu1)]
  · nlinarith [mul_le_mul_of_nonneg_left hhi' hu0, mul_le_mul_of_nonneg_left hlo' (sub_nonneg.mpr hu1)]

/-- **Joint limits**, for samples of the unit interval and margins that are not negative. -/
theorem kept_inLimits {ch : Chance K} (hdraws : ∀ i k, 0 ≤ (ch.draws i).u k ∧ (ch.draws i).u k ≤ 1)
    (hmargin : 0 ≤ c.planner.cfg.sampleMarginDeg) (hglobal : 0 ≤ c.planner.cfg.globalSampleMarginDeg)
    (hgoal : InLimits c goal) : Kept c ch goal (InLimits c) := by
  have hband : ∀ k, 0 ≤ bandMargin c.planner.cfg k := fun k => by
    unfold bandMargin
    split
    · rename_i h
      exact h.2.le
    · exact hmargin
  refine ⟨fun a b s ha hb h0 h1 k hk hlim => ?_, fun a b ha hmoves k hk hlim => ?_,
    fun i from' opposite hfrom hopp => ?_, hgoal⟩
  · obtain ⟨ha, ha'⟩ := ha k hk hlim
    obtain ⟨hb, hb'⟩ := hb k hk hlim
    simp only [lerp]
    constructor
    · nlinarith [mul_le_mul_of_nonneg_left hb h0, mul_le_mul_of_nonneg_left ha (sub_nonneg.mpr h1)]
    · nlinarith [mul_le_mul_of_nonneg_left hb' h0, mul_le_mul_of_nonneg_left ha' (sub_nonneg.mpr h1)]
  · have hb := hmoves k
    rw [if_pos hk] at hb
    exact hb hlim
  · unfold Call.target
    dsimp only
    split
    · exact hopp
    split
    · exact fun k hk hlim => band_mem hglobal hfrom hgoal hk hlim (hdraws i k).1 (hdraws i k).2
    · exact fun k hk hlim => band_mem (hband k) hfrom hgoal hk hlim (hdraws i k).1 (hdraws i k).2

end

end RbServo.InitMotion
