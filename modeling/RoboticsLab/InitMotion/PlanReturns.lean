import RoboticsLab.InitMotion.PlanOutcome

/-!
# Planning comes to an end

`connect` has no bound of its own: it stops because every advance brings its tree closer to the target.
Inside the joint limits all targets are within the limits' diagonal of the roots, which bounds the calls
of one `connect`, and with the number of iterations the size of the trees.

    enough fuel for the diagonal, and a step that outweighs the tolerance : `plan` returns   (plan_returns)
-/

namespace RbServo.InitMotion

section

variable {K : Type*} [Field K] [LinearOrder K] [FloorSemiring K] {sqrt : K → K} {o : Oracle K} {t : RrtTree K}
  {target : Config K} {stepDeg : K}

theorem extend_length : (extend sqrt o t target stepDeg).2.nodes.length ≤ t.nodes.length + 1 := by
  rcases extend_cases sqrt o t target stepDeg with he | ⟨ni, near, qNew, e, -, he⟩
  · rw [he]
    exact Nat.le_succ _
  · rw [he]
    simp [RrtTree.push]

theorem connect_length {fuel : ℕ} {e : Extend} {t' : RrtTree K}
    (h : connect sqrt o stepDeg target fuel t = some (e, t')) :
    t'.nodes.length ≤ t.nodes.length + fuel := by
  induction fuel generalizing t with
  | zero => cases h
  | succ fuel ih =>
    have hlength : (extend sqrt o t target stepDeg).2.nodes.length ≤ t.nodes.length + 1 := extend_length
    rw [connect] at h
    split at h
    · rename_i t₁ he
      rw [he] at hlength
      have := ih h
      dsimp only at hlength
      omega
    · rw [Option.some.inj h] at hlength
      dsimp only at hlength
      omega

theorem length_le_extend : t.nodes.length ≤ (extend sqrt o t target stepDeg).2.nodes.length := by
  rcases extend_cases sqrt o t target stepDeg with he | ⟨ni, near, qNew, e, -, he⟩
  · rw [he]
  · rw [he]
    simp [RrtTree.push]

/-- A search never loses a node. -/
theorem length_le_connect {fuel : ℕ} {e : Extend} {t' : RrtTree K}
    (h : connect sqrt o stepDeg target fuel t = some (e, t')) :
    (extend sqrt o t target stepDeg).2.nodes.length ≤ t'.nodes.length := by
  induction fuel generalizing t with
  | zero => cases h
  | succ fuel ih =>
    rw [connect] at h
    split at h
    · rename_i t₁ he
      rw [he]
      exact length_le_extend.trans (ih h)
    · rw [Option.some.inj h]

omit [FloorSemiring K] in
theorem nearest_reset (root target : Config K) :
    (RrtTree.reset root).kd.nearest target (RrtTree.reset root).nodes = some 0 := by
  simp [KdTree.nearest, RrtTree.reset, KdTree.insert, Kd.Tree.insert, Kd.Tree.search, visit, offer, pick, better]

/-- The first node that a tree grows, edges waiting. -/
theorem extend_reset (hlazy : o.lazyEdges = true) {root : Config K} (hfar : stepDeg < dist sqrt root target)
    (hdistinct : ¬ dist sqrt root target < 1 / 10 ^ 9)
    (hclear : o.clear (lerp root target (stepDeg / dist sqrt root target)) = true) :
    extend sqrt o (RrtTree.reset root) target stepDeg = (.advanced,
      (RrtTree.reset root).push ⟨lerp root target (stepDeg / dist sqrt root target), some 0, false, false⟩) := by
  have hnear : ¬ (dist sqrt root target ≤ stepDeg ∨ dist sqrt root target < 1 / 10 ^ 9) :=
    not_or.mpr ⟨not_le.mpr hfar, hdistinct⟩
  rw [extend, nearest_reset]
  show (if dist sqrt root target ≤ stepDeg ∨ dist sqrt root target < 1 / 10 ^ 9 then _ else _) = _
  have hlisted : edgeKey root (lerp root target (stepDeg / dist sqrt root target)) ∉
      (RrtTree.reset root).blacklistedEdges := List.not_mem_nil
  rw [if_neg hnear, RrtTree.attach, if_neg hlisted, hlazy, if_pos rfl, if_pos hclear]
  rfl

end

section

variable {c : Call ℝ} {ch : Chance ℝ} {start goal : Config ℝ} {fuel : ℕ}

/-! ## Inside the limits -/

/-- The other arm at rest, and the joints of this one within their limits. -/
def InRange (c : Call ℝ) (rest q : Config ℝ) : Prop := (∀ k, c.active k = false → q k = rest k) ∧ InLimits c q

/-- The diagonal of the joint limits of the arms that move. -/
noncomputable def diagonal (c : Call ℝ) : ℝ :=
  Real.sqrt (∑ k, if c.active k then
    (c.planner.limits.qMaxDeg (armJoint k) - c.planner.limits.qMinDeg (armJoint k)) ^ 2 else 0)

theorem dist_le_diagonal (hlimited : ∀ k, c.active k = true → Limited c.planner.limits k) {rest a b : Config ℝ}
    (ha : InRange c rest a) (hb : InRange c rest b) : dist Real.sqrt a b ≤ diagonal c := by
  refine Real.sqrt_le_sqrt (Finset.sum_le_sum fun k _ => ?_)
  by_cases hk : c.active k = true
  · obtain ⟨hlo, hhi⟩ := ha.2 k hk (hlimited k hk)
    obtain ⟨hlo', hhi'⟩ := hb.2 k hk (hlimited k hk)
    rw [if_pos hk, ← sq]
    exact sq_le_sq' (by linarith) (by linarith)
  · have hk' := Bool.eq_false_of_not_eq_true hk
    rw [if_neg hk, ha.1 k hk', hb.1 k hk', sub_self, mul_zero]

theorem kept_inRange (hdraws : ∀ i k, 0 ≤ (ch.draws i).u k ∧ (ch.draws i).u k ≤ 1)
    (hmargin : 0 ≤ c.planner.cfg.sampleMarginDeg) (hglobal : 0 ≤ c.planner.cfg.globalSampleMarginDeg) {rest : Config ℝ}
    (hgoal : InRange c rest goal) : Kept c ch goal (InRange c rest) := by
  have hrest : Kept c ch goal fun q => ∀ k, c.active k = false → q k = rest k := kept_atRest ch hgoal.1
  have hlim : Kept c ch goal (InLimits c) := kept_inLimits hdraws hmargin hglobal hgoal.2
  exact ⟨fun a b s ha hb h0 h1 => ⟨hrest.convex a b s ha.1 hb.1 h0 h1, hlim.convex a b s ha.2 hb.2 h0 h1⟩,
    fun a b ha hmoves => ⟨hrest.moves a b ha.1 hmoves, hlim.moves a b ha.2 hmoves⟩,
    fun i s opp hs hopp => ⟨hrest.target i s opp hs.1 hopp.1, hlim.target i s opp hs.2 hopp.2⟩, hgoal⟩

/-! ## The search -/

/-- A tree of at most `size` nodes, in range. -/
structure Sized (c : Call ℝ) (rest root : Config ℝ) (size : ℕ) (t : RrtTree ℝ) : Prop where
  within : Within (c.oracle Real.sqrt) root (InRange c rest) t
  small : t.nodes.length ≤ size

theorem Sized.root_inRange {rest root : Config ℝ} {size : ℕ} {t : RrtTree ℝ} (h : Sized c rest root size t) :
    InRange c rest root :=
  h.within.points _ (List.mem_of_getElem? h.within.sound.linked.head)

variable {rest : Config ℝ}

/-- One iteration returns, and the trees grow by no more than it can add. -/
theorem grow_returns (hlimited : ∀ k, c.active k = true → Limited c.planner.limits k)
    (hkept : Kept c ch goal (InRange c rest)) (hfuel : 2 * diagonal c ≤ fuel * c.stepDeg) {size : ℕ}
    (htol : 4 * ((size + fuel : ℕ) * eps) ≤ c.stepDeg * c.stepDeg) (hstart : InRange c rest start) (i : ℕ)
    {ri rj : Config ℝ} {ti tj : RrtTree ℝ} (hi : Sized c rest ri size ti) (hj : Sized c rest rj size tj) :
    ∃ met ti' tj', c.grow Real.sqrt (fuel + 1) start goal (ch.draws i) ti tj = some (met, ti', tj') ∧
      Sized c rest ri (size + (fuel + 1)) ti' ∧ Sized c rest rj (size + (fuel + 1)) tj' := by
  have htarget : ∀ opposite, InRange c rest opposite → InRange c rest (c.target start goal opposite (ch.draws i)) :=
    fun opposite => hkept.target i start opposite hstart
  have hreturns : ∃ met ti' tj', c.grow Real.sqrt (fuel + 1) start goal (ch.draws i) ti tj = some (met, ti', tj') ∧
      ti'.nodes.length ≤ size + (fuel + 1) ∧ tj'.nodes.length ≤ size + (fuel + 1) := by
    have hsi := hi.small
    have hsj := hj.small
    unfold Call.grow
    split
    · exact ⟨_, _, _, rfl, by omega, by omega⟩
    rename_i front hfront
    have hlength : (extend Real.sqrt (c.oracle Real.sqrt) ti (c.target start goal front.q (ch.draws i))
        c.stepDeg).2.nodes.length ≤ ti.nodes.length + 1 := extend_length
    have hgrown := hi.within.extend hkept.convex (htarget front.q (hj.within.points front (List.mem_of_head? hfront)))
    split
    · rename_i t he
      rw [he] at hlength
      dsimp only at hlength
      exact ⟨_, _, _, rfl, by omega, by omega⟩
    rename_i e t _ he
    rw [he] at hlength hgrown
    dsimp only at hlength
    split
    · exact ⟨_, _, _, rfl, by omega, by omega⟩
    rename_i back hback
    have hback' := hgrown.points back (List.mem_of_getLast? hback)
    have hclose : 2 * dist Real.sqrt rj back.q ≤ fuel * c.stepDeg :=
      (mul_le_mul_of_nonneg_left (dist_le_diagonal hlimited hj.root_inRange hback') (by norm_num)).trans hfuel
    have hfewer : 4 * ((tj.nodes.length + fuel : ℕ) * (eps : ℝ)) ≤ c.stepDeg * c.stepDeg := by
      refine le_trans ?_ htol
      have hle : ((tj.nodes.length + fuel : ℕ) : ℝ) ≤ (size + fuel : ℕ) := by
        exact_mod_cast Nat.add_le_add_right hsj fuel
      have := mul_le_mul_of_nonneg_right hle (eps_pos (K := ℝ)).le
      linarith
    obtain ⟨⟨e', t'⟩, hconnect⟩ :=
      connect_returns hj.within.sound (oracle_consistent Real.sqrt c) (stepDeg_pos c) hclose hfewer
    have hlength' := connect_length hconnect
    rw [hconnect]
    exact ⟨_, _, _, rfl, by omega, by omega⟩
  obtain ⟨met, ti', tj', hgrow, hli, hlj⟩ := hreturns
  obtain ⟨hwi, hwj, -⟩ := grow_spec hkept.convex htarget hi.within hj.within hgrow
  exact ⟨met, ti', tj', hgrow, ⟨hwi, hli⟩, ⟨hwj, hlj⟩⟩

theorem iterate_returns (hlimited : ∀ k, c.active k = true → Limited c.planner.limits k)
    (hkept : Kept c ch goal (InRange c rest)) (hfuel : 2 * diagonal c ≤ fuel * c.stepDeg) {size : ℕ}
    (htol : 4 * ((size + fuel : ℕ) * eps) ≤ c.stepDeg * c.stepDeg) (hstart : InRange c rest start) (iter i : ℕ)
    {a b : RrtTree ℝ} (ha : Sized c rest start size a) (hb : Sized c rest goal size b) :
    ∃ connected a' b', c.iterate Real.sqrt (fuel + 1) start goal iter (ch.draws i) a b = some (connected, a', b') ∧
      Sized c rest start (size + (fuel + 1)) a' ∧ Sized c rest goal (size + (fuel + 1)) b' := by
  have hmet : ∃ met a' b', (if iter % 2 = 0 then c.grow Real.sqrt (fuel + 1) start goal (ch.draws i) a b
      else (c.grow Real.sqrt (fuel + 1) start goal (ch.draws i) b a).map fun r => (r.1, r.2.2, r.2.1)) =
        some (met, a', b') ∧
      Sized c rest start (size + (fuel + 1)) a' ∧ Sized c rest goal (size + (fuel + 1)) b' := by
    split
    · exact grow_returns hlimited hkept hfuel htol hstart i ha hb
    · obtain ⟨met, b', a', hgrow, hb', ha'⟩ := grow_returns hlimited hkept hfuel htol hstart i hb ha
      exact ⟨met, a', b', by rw [hgrow]; rfl, ha', hb'⟩
  obtain ⟨met, a', b', hgrow, ha', hb'⟩ := hmet
  unfold Call.iterate
  dsimp only
  rw [hgrow]
  cases met with
  | false => exact ⟨false, a', b', rfl, ha', hb'⟩
  | true =>
    obtain ⟨hka, hkb⟩ := validateBoth_keeps ha'.within.sound hb'.within.sound
    rcases hv : validateBoth (c.oracle Real.sqrt) a' b' with ⟨v, a'', b''⟩
    rw [hv] at hka hkb
    exact ⟨v, a'', b'', congrArg some hv, ⟨ha'.within.of_keeps hka, by rw [hka.same.length_eq]; exact ha'.small⟩,
      ⟨hb'.within.of_keeps hkb, by rw [hkb.same.length_eq]; exact hb'.small⟩⟩

/-- The search returns, whatever is drawn. -/
theorem search_returns (hlimited : ∀ k, c.active k = true → Limited c.planner.limits k)
    (hkept : Kept c ch goal (InRange c rest)) (hfuel : 2 * diagonal c ≤ fuel * c.stepDeg)
    (hstart : InRange c rest start)
    (is : List ℕ) {size : ℕ} (htol : 4 * ((size + is.length * (fuel + 1) + fuel : ℕ) * eps) ≤ c.stepDeg * c.stepDeg)
    (iter : ℕ) {a b : RrtTree ℝ} (ha : Sized c rest start size a) (hb : Sized c rest goal size b) :
    ∃ result, c.search Real.sqrt (fuel + 1) start goal iter (is.map ch.draws) a b = some result := by
  induction is generalizing size iter a b with
  | nil => exact ⟨_, rfl⟩
  | cons i is ih =>
    rw [List.map_cons, Call.search]
    split
    · exact ⟨_, rfl⟩
    have hfewer : 4 * ((size + fuel : ℕ) * (eps : ℝ)) ≤ c.stepDeg * c.stepDeg := by
      refine le_trans ?_ htol
      have hle : ((size + fuel : ℕ) : ℝ) ≤ (size + (i :: is).length * (fuel + 1) + fuel : ℕ) := by
        exact_mod_cast Nat.add_le_add_right (Nat.le_add_right _ _) fuel
      have := mul_le_mul_of_nonneg_right hle (eps_pos (K := ℝ)).le
      linarith
    obtain ⟨connected, a', b', hit, ha', hb'⟩ := iterate_returns hlimited hkept hfuel hfewer hstart iter i ha hb
    rw [hit]
    cases connected with
    | true => exact ⟨_, rfl⟩
    | false =>
      refine ih ?_ (iter + 1) ha' hb'
      have hsize : size + (fuel + 1) + is.length * (fuel + 1) + fuel = size + (i :: is).length * (fuel + 1) + fuel := by
        rw [List.length_cons]
        ring
      rwa [hsize]

theorem rawPath_returns (hlimited : ∀ k, c.active k = true → Limited c.planner.limits k)
    (hkept : Kept c ch goal (InRange c rest)) (hfuel : 2 * diagonal c ≤ fuel * c.stepDeg)
    (hstart : InRange c rest start)
    (htol : 4 * ((1 + c.planner.cfg.maxIterations * (fuel + 1) + fuel : ℕ) * eps) ≤ c.stepDeg * c.stepDeg) :
    ∃ s, c.rawPath Real.sqrt ch (fuel + 1) start goal = some s := by
  have hreset : ∀ root, InRange c rest root → Sized c rest root 1 (RrtTree.reset root) := fun root hroot =>
    ⟨⟨treeSound_reset _ root, fun n hn => by rw [List.mem_singleton.mp hn]; exact hroot⟩, le_rfl⟩
  rw [Call.rawPath]
  split
  · exact ⟨_, rfl⟩
  · obtain ⟨⟨connected, k, a, b⟩, hsearch⟩ := search_returns hlimited hkept hfuel hstart
      (List.range c.planner.cfg.maxIterations) (by rwa [List.length_range]) 0 (hreset start hstart)
      (hreset goal hkept.goal)
    rw [hsearch]
    exact ⟨_, rfl⟩

/-- A call returns when the joints of the arms that move have limits, start and goal keep them, and the
step outweighs the tolerance of `nearest` over all nodes that the iterations can add. -/
theorem call_returns (hlimited : ∀ k, c.active k = true → Limited c.planner.limits k)
    (hdraws : ∀ i k, 0 ≤ (ch.draws i).u k ∧ (ch.draws i).u k ≤ 1) (hmargin : 0 ≤ c.planner.cfg.sampleMarginDeg)
    (hglobal : 0 ≤ c.planner.cfg.globalSampleMarginDeg) (hstart : InLimits c start)
    (hgoal : InRange c start goal) (hfuel : 2 * diagonal c ≤ fuel * c.stepDeg)
    (htol : 4 * ((1 + c.planner.cfg.maxIterations * (fuel + 1) + fuel : ℕ) * eps) ≤ c.stepDeg * c.stepDeg) :
    ∃ r, c.plan Real.sqrt ch (fuel + 1) start goal = some r := by
  have hkept := kept_inRange hdraws hmargin hglobal hgoal
  have hrange : InRange c start start := ⟨fun _ _ => rfl, hstart⟩
  have hsearch : ∀ rrtStart, InRange c start rrtStart → ∀ escape,
      ∃ r, (c.rawPath Real.sqrt ch (fuel + 1) rrtStart goal).map (c.finish Real.sqrt ch escape) = some r := by
    intro rrtStart hrrt escape
    obtain ⟨s, hs⟩ := rawPath_returns hlimited hkept hfuel hrrt htol
    exact ⟨_, by rw [hs]; rfl⟩
  unfold Call.plan
  split
  · exact ⟨_, rfl⟩
  split
  · exact ⟨_, rfl⟩
  split
  · exact hsearch start hrange []
  dsimp only
  split
  · exact ⟨_, rfl⟩
  rename_i rrtStart hend
  split
  · exact ⟨_, rfl⟩
  · obtain ⟨-, hpoints⟩ := escape_spec hkept.moves hrange hend
    exact hsearch rrtStart (hpoints rrtStart (List.mem_of_getLast? hend)) _

/-- **Planning returns** when the joints of the arms that move have limits, start and goal keep them, and the
step outweighs the tolerance of `nearest` over all nodes that the iterations can add. -/
theorem plan_returns {p : Planner ℝ} {startLeft startRight goalLeft goalRight : Joints ℝ}
    {leftActive rightActive : Bool} (hc : c = Call.towards p leftActive rightActive
      (branchGoals p leftActive rightActive startLeft startRight goalLeft goalRight))
    (hlimited : ∀ k, c.active k = true → Limited p.limits k)
    (hdraws : ∀ i k, 0 ≤ (ch.draws i).u k ∧ (ch.draws i).u k ≤ 1) (hmargin : 0 ≤ p.cfg.sampleMarginDeg)
    (hglobal : 0 ≤ p.cfg.globalSampleMarginDeg) (hstart : InLimits c (join startLeft startRight))
    (hgoal : InLimits c (branchGoals p leftActive rightActive startLeft startRight goalLeft goalRight))
    (hfuel : 2 * diagonal c ≤ fuel * c.stepDeg)
    (htol : 4 * ((1 + p.cfg.maxIterations * (fuel + 1) + fuel : ℕ) * eps) ≤ c.stepDeg * c.stepDeg) :
    ∃ r, plan Real.sqrt p ch (fuel + 1) startLeft startRight leftActive goalLeft rightActive goalRight = some r := by
  subst hc
  unfold plan
  split
  · exact ⟨_, rfl⟩
  · exact call_returns hlimited hdraws hmargin hglobal hstart ⟨fun k hk => branchGoals_atRest _ k hk, hgoal⟩ hfuel htol

/-! ## A search that connects -/

/-- From zero to one past an angle that touches halfway. -/
noncomputable abbrev halfway : Planner ℝ := pocket (1 / 2)

noncomputable abbrev halfwayGoal : Config ℝ :=
  branchGoals halfway true false (fun _ => 0) (fun _ => 0) (fun _ => 1) fun _ => 0

noncomputable abbrev halfwayCall : Call ℝ := Call.towards halfway true false halfwayGoal

noncomputable abbrev origin : Config ℝ := join (fun _ => 0) fun _ => 0

theorem origin_apply (k : Fin kCombined) : origin k = 0 := ite_self _

theorem halfwayGoal_apply (k : Fin kCombined) : halfwayGoal k = if k.val < kDof then 1 else 0 := by
  rw [halfwayGoal, branchGoals, join]
  split
  · rfl
  · rfl

theorem halfway_clear (q : Config ℝ) : halfwayCall.clear q = decide (q firstJoint ≠ 1 / 2) :=
  pocket_clear (by rw [halfwayGoal_apply]; norm_num [firstJoint, kDof]) q

theorem halfway_length : 2.4 < dist Real.sqrt origin halfwayGoal ∧ dist Real.sqrt origin halfwayGoal < 2.5 := by
  have hsum : dist2 origin halfwayGoal = 6 := by
    have hcount : (Finset.univ.filter fun k : Fin kCombined => k.val < kDof).card = 6 := by decide
    calc dist2 origin halfwayGoal = ∑ k : Fin kCombined, if k.val < kDof then (1 : ℝ) else 0 := by
          refine Finset.sum_congr rfl fun k _ => ?_
          rw [origin_apply, halfwayGoal_apply]
          split <;> norm_num
      _ = 6 := by rw [Finset.sum_boole, hcount, Nat.cast_ofNat]
  rw [dist, hsum]
  exact ⟨Real.lt_sqrt_of_sq_lt (by norm_num), (Real.sqrt_lt' (by norm_num)).mpr (by norm_num)⟩

theorem halfway_step : 1 ≤ halfwayCall.stepDeg ∧ halfwayCall.stepDeg ≤ 1.1 := by
  have hstep : halfwayCall.stepDeg = max (1 / 10 ^ 3) (1 / 57 * kRadToDeg) := rfl
  rw [hstep]
  exact ⟨le_max_of_le_right (by norm_num [kRadToDeg]), max_le (by norm_num) (by norm_num [kRadToDeg])⟩

/-- The one point that the straight edge is asked about is the one that touches. -/
theorem halfway_edge : halfwayCall.edge Real.sqrt origin halfwayGoal = false := by
  obtain ⟨hlow, hhigh⟩ := halfway_length
  have hresolution : max (1 / 10 ^ 3) (halfwayCall.planner.cfg.edgeResolutionRad * kRadToDeg) =
      (1 / 40 * kRadToDeg : ℝ) := by
    show max (1 / 10 ^ 3) (1 / 40 * kRadToDeg) = (1 / 40 * kRadToDeg : ℝ)
    exact max_eq_right (by norm_num [kRadToDeg])
  have hpos : (0 : ℝ) < 1 / 40 * kRadToDeg := by norm_num [kRadToDeg]
  have hpieces : pieces (dist Real.sqrt origin halfwayGoal)
      (max (1 / 10 ^ 3) (halfwayCall.planner.cfg.edgeResolutionRad * kRadToDeg)) = 2 := by
    have hceil : ⌈dist Real.sqrt origin halfwayGoal / (1 / 40 * kRadToDeg)⌉₊ = 2 := by
      refine (Nat.ceil_eq_iff two_ne_zero).mpr ⟨?_, ?_⟩
      · rw [lt_div_iff₀ hpos]
        exact lt_trans (by norm_num [kRadToDeg]) hlow
      · rw [div_le_iff₀ hpos]
        exact hhigh.le.trans (by norm_num [kRadToDeg])
    rw [pieces, hresolution, hceil]
    rfl
  by_contra hedge
  have hall := List.all_eq_true.mp (Bool.eq_true_of_not_eq_false hedge)
  rw [hpieces] at hall
  specialize hall _ (mem_samples.mpr ⟨1, le_rfl, one_le_two, rfl⟩)
  rw [halfway_clear] at hall
  refine of_decide_eq_true hall ?_
  rw [lerp, origin_apply, halfwayGoal_apply]
  norm_num [firstJoint, kDof]

/-- The share of the way that one step goes. -/
noncomputable def halfwayShare : ℝ := halfwayCall.stepDeg / dist Real.sqrt origin halfwayGoal

theorem halfwayShare_lt : halfwayShare < 1 / 2 := by
  rw [halfwayShare, div_lt_iff₀ (by linarith [halfway_length.1])]
  linarith [halfway_step.2, halfway_length.1]

theorem halfwayShare_mul : halfwayShare * dist Real.sqrt origin halfwayGoal = halfwayCall.stepDeg :=
  div_mul_cancel₀ _ (by linarith [halfway_length.1])

/-- Where the first step of the start's tree ends. -/
noncomputable abbrev halfwayFront : Config ℝ := lerp origin halfwayGoal halfwayShare

theorem halfwayFront_firstJoint : halfwayFront firstJoint = halfwayShare := by
  rw [halfwayFront, lerp, origin_apply, halfwayGoal_apply]
  norm_num [firstJoint, kDof]

theorem halfway_extend : extend Real.sqrt (halfwayCall.oracle Real.sqrt) (RrtTree.reset origin) halfwayGoal
    halfwayCall.stepDeg = (.advanced, (RrtTree.reset origin).push ⟨halfwayFront, some 0, false, false⟩) := by
  obtain ⟨hlow, -⟩ := halfway_length
  obtain ⟨-, hstep⟩ := halfway_step
  refine extend_reset rfl (by linarith) (by norm_num; linarith) ?_
  show halfwayCall.clear halfwayFront = true
  rw [halfway_clear, halfwayFront_firstJoint, decide_eq_true halfwayShare_lt.ne]

/-- The way back is as long as what is left. -/
theorem dist_halfwayFront : dist Real.sqrt halfwayGoal halfwayFront =
    (1 - halfwayShare) * dist Real.sqrt origin halfwayGoal := by
  calc dist Real.sqrt halfwayGoal halfwayFront
      = dist Real.sqrt (lerp origin halfwayGoal 1) halfwayFront := by rw [lerp_one]
    _ = (1 - halfwayShare) * dist Real.sqrt origin halfwayGoal := by
        rw [dist_lerp, abs_of_pos (by linarith [halfwayShare_lt])]

/-- Where the first step of the goal's tree ends, beyond halfway. -/
noncomputable abbrev halfwayBack : Config ℝ :=
  lerp halfwayGoal halfwayFront (halfwayCall.stepDeg / dist Real.sqrt halfwayGoal halfwayFront)

theorem halfwayBack_firstJoint : halfwayBack firstJoint = 1 - halfwayShare := by
  have hleft : 1 - halfwayShare ≠ 0 := by linarith [halfwayShare_lt]
  have hlength : dist Real.sqrt origin halfwayGoal ≠ 0 := by linarith [halfway_length.1]
  have hshare : halfwayCall.stepDeg / dist Real.sqrt halfwayGoal halfwayFront =
      halfwayShare / (1 - halfwayShare) := by
    rw [dist_halfwayFront, ← halfwayShare_mul, mul_div_mul_right _ _ hlength]
  rw [halfwayBack, hshare, lerp, halfwayFront_firstJoint, halfwayGoal_apply,
    if_pos (show firstJoint.val < kDof by decide)]
  field_simp
  ring

theorem halfway_extend_back : extend Real.sqrt (halfwayCall.oracle Real.sqrt) (RrtTree.reset halfwayGoal)
    halfwayFront halfwayCall.stepDeg =
      (.advanced, (RrtTree.reset halfwayGoal).push ⟨halfwayBack, some 0, false, false⟩) := by
  obtain ⟨hlow, -⟩ := halfway_length
  obtain ⟨hstep, -⟩ := halfway_step
  have hfar : halfwayCall.stepDeg < dist Real.sqrt halfwayGoal halfwayFront := by
    rw [dist_halfwayFront, ← halfwayShare_mul]
    exact mul_lt_mul_of_pos_right (by linarith [halfwayShare_lt]) (by linarith)
  refine extend_reset rfl hfar (by norm_num; linarith) ?_
  show halfwayCall.clear halfwayBack = true
  rw [halfway_clear, halfwayBack_firstJoint, decide_eq_true (by linarith [halfwayShare_lt])]

/-- The trees step towards one another from both ends, short of halfway. -/
theorem halfway_grow {fuel : ℕ} {met : Bool} {a b : RrtTree ℝ}
    (h : halfwayCall.grow Real.sqrt fuel origin halfwayGoal ((still ℝ).draws 0) (RrtTree.reset origin)
      (RrtTree.reset halfwayGoal) = some (met, a, b)) : 2 ≤ b.nodes.length := by
  have htarget : halfwayCall.target origin halfwayGoal halfwayGoal ((still ℝ).draws 0) = halfwayGoal :=
    if_pos (zero_lt_one' ℝ)
  unfold Call.grow at h
  split at h
  · rename_i hnone
    cases hnone
  rename_i front hfront
  obtain rfl := Option.some.inj hfront
  rw [htarget, halfway_extend] at h
  dsimp only at h
  split at h
  · rename_i hnone
    simp [RrtTree.push] at hnone
  rename_i back hback
  obtain rfl : back = ⟨halfwayFront, some 0, false, false⟩ := by
    simpa [RrtTree.push] using hback.symm
  split at h
  · rename_i e t hconnect
    have hlength := length_le_connect hconnect
    rw [halfway_extend_back] at hlength
    simp only [Option.some.injEq, Prod.mk.injEq] at h
    rw [← h.2.2]
    exact hlength
  · cases h

theorem halfway_rawPath {fuel : ℕ} {s : Search ℝ}
    (h : halfwayCall.rawPath Real.sqrt (still ℝ) fuel origin halfwayGoal = some s) : 2 ≤ s.treeGoalSize := by
  have hiterate : ∀ {connected : Bool} {a b : RrtTree ℝ},
      halfwayCall.iterate Real.sqrt fuel origin halfwayGoal 0 ((still ℝ).draws 0) (RrtTree.reset origin)
        (RrtTree.reset halfwayGoal) = some (connected, a, b) → 2 ≤ b.nodes.length := by
    intro connected a b h
    unfold Call.iterate at h
    rw [if_pos (Nat.zero_mod 2)] at h
    dsimp only at h
    split at h
    · rename_i a' b' hgrow
      have hreset : ∀ root, Within (halfwayCall.oracle Real.sqrt) root (fun _ => True) (RrtTree.reset root) :=
        fun root => ⟨treeSound_reset _ root, fun _ _ => trivial⟩
      obtain ⟨ha, hb, -⟩ := grow_spec (fun _ _ _ _ _ _ _ => trivial) (fun _ _ => trivial) (hreset origin)
        (hreset halfwayGoal) hgrow
      obtain ⟨-, hkept⟩ := validateBoth_keeps ha.sound hb.sound
      rw [Option.some.injEq] at h
      rw [h] at hkept
      rw [hkept.same.length_eq]
      exact halfway_grow hgrow
    · exact halfway_grow h
  rw [Call.rawPath, halfway_edge, if_neg Bool.false_ne_true] at h
  split at h
  · cases h
  rename_i connected iterations a b hsearch
  obtain rfl := Option.some.inj h
  show 2 ≤ b.nodes.length
  have hdraws : (List.range halfwayCall.planner.cfg.maxIterations).map (still ℝ).draws = [(still ℝ).draws 0] := rfl
  rw [hdraws, Call.search, if_neg (show ¬ ((still ℝ).draws 0).late = true from Bool.false_ne_true)] at hsearch
  split at hsearch
  · cases hsearch
  · rename_i hit
    simp only [Option.some.injEq, Prod.mk.injEq] at hsearch
    rw [← hsearch.2.2.2]
    exact hiterate hit
  · rename_i hit
    simp only [Call.search, Option.some.injEq, Prod.mk.injEq] at hsearch
    rw [← hsearch.2.2.2]
    exact hiterate hit

/-- The plan has searched, and `connect` has grown the goal's tree. -/
theorem halfway_connects {fuel : ℕ} {r : InitMotionPlanResult ℝ}
    (h : plan Real.sqrt halfway (still ℝ) fuel (fun _ => 0) (fun _ => 0) true (fun _ => 1) false
    (fun _ => 0) = some r) :
    2 ≤ r.treeGoalSize := by
  have hclear : halfwayCall.clear origin = true := by
    rw [halfway_clear, origin_apply]
    norm_num
  have hoff : halfwayGoal firstJoint ≠ 1 / 2 := by
    rw [halfwayGoal_apply]
    norm_num [firstJoint, kDof]
  have hgoal : halfwayCall.isClear halfwayGoal = true := (pocket_isClear hoff _).trans (decide_eq_true hoff)
  have hfar : ¬ maxActiveAbsDiff origin halfwayGoal halfwayCall.active ≤ max 0 halfwayCall.planner.cfg.noopTolDeg :=
    not_le.mpr (cell_far .external 3)
  unfold plan at h
  rw [if_neg (by simp)] at h
  dsimp only at h
  change halfwayCall.plan Real.sqrt (still ℝ) fuel origin halfwayGoal = some r at h
  rw [Call.plan, hgoal, Bool.not_true, if_neg Bool.false_ne_true, if_neg hfar, if_pos hclear] at h
  obtain ⟨s, hs, rfl⟩ := Option.map_eq_some_iff.mp h
  have hsize := halfway_rawPath hs
  unfold Call.finish
  split
  · exact hsize
  · dsimp only
    split <;> exact hsize

theorem plan_returns_halfway : ∃ r, plan Real.sqrt halfway (still ℝ) 15 (fun _ => 0) (fun _ => 0) true (fun _ => 1)
    false (fun _ => 0) = some r ∧ 2 ≤ r.treeGoalSize := by
  obtain ⟨hstep, -⟩ := halfway_step
  have hdiagonal : diagonal halfwayCall ≤ 7 := by
    refine Real.sqrt_le_iff.mpr ⟨by norm_num, ?_⟩
    calc ∑ k, (if halfwayCall.active k then
          (halfwayCall.planner.limits.qMaxDeg (armJoint k) - halfwayCall.planner.limits.qMinDeg (armJoint k)) ^ 2
          else 0) ≤ ∑ _k : Fin kCombined, (4 : ℝ) := Finset.sum_le_sum fun k _ => by
            split
            · exact (by norm_num : (1 - -1 : ℝ) ^ 2 ≤ 4)
            · norm_num
      _ ≤ 7 ^ 2 := by norm_num [kCombined, kDof]
  have hfuel : 2 * diagonal halfwayCall ≤ (14 : ℕ) * halfwayCall.stepDeg := by
    push_cast
    linarith
  have htol : 4 * ((1 + halfway.cfg.maxIterations * (14 + 1) + 14 : ℕ) * eps) ≤
      halfwayCall.stepDeg * halfwayCall.stepDeg := by
    refine le_trans ?_ (mul_le_mul hstep hstep (by norm_num) (by linarith))
    norm_num [pocket, eps]
  have hstart : InLimits halfwayCall origin := cell_start_inLimits .external 3 halfwayGoal
  have hgoal : InLimits halfwayCall halfwayGoal := cell_goal_inLimits .external 3 halfwayGoal
  have hlimited : ∀ k, halfwayCall.active k = true → Limited halfway.limits k := fun _ _ =>
    neg_one_lt_zero.trans one_pos
  have hdraws : ∀ i k, (0 : ℝ) ≤ ((still ℝ).draws i).u k ∧ ((still ℝ).draws i).u k ≤ 1 := fun _ _ =>
    ⟨le_rfl, zero_le_one⟩
  have hmargin : (0 : ℝ) ≤ halfway.cfg.sampleMarginDeg := zero_le_one
  have hglobal : (0 : ℝ) ≤ halfway.cfg.globalSampleMarginDeg := zero_le_one
  obtain ⟨r, h⟩ := plan_returns (c := halfwayCall) rfl hlimited hdraws hmargin hglobal hstart hgoal hfuel htol
  exact ⟨r, h, halfway_connects h⟩

end

end RbServo.InitMotion
