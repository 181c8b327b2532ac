import RoboticsLab.Collision.VelocityRows

/-!
# The near list of a verdict

`reduce` sorts the measured pairs by their clearance and reports the `max_near_pairs` nearest, and with
them every pair inside the band of its class, however many are nearer.

    the list : the nearest first, every pair in its band, no gap before the last   (nearList_spec)
    an old verdict still has a row for every pair in its slow band, as long as the pair
      has moved by no more than the hysteresis                                      (row_of_band)
-/

namespace RbServo.Collision

open Matrix

/-- What `std::sort` by a key does; elements with the same key may come in any order. -/
structure SortsBy {α K : Type*} [LinearOrder K] (key : α → K) (sort : List α → List α) : Prop where
  perm : ∀ as, (sort as).Perm as
  ascending : ∀ as, (sort as).Pairwise fun a b => key a ≤ key b

theorem mergeSort_sortsBy {α K : Type*} [LinearOrder K] (key : α → K) :
    SortsBy key fun as => as.mergeSort fun a b => key a ≤ key b where
  perm as := List.mergeSort_perm as _
  ascending as := by
    have htrans : ∀ a b c, decide (key a ≤ key b) = true → decide (key b ≤ key c) = true →
      decide (key a ≤ key c) = true :=
      fun a b c hab hbc => decide_eq_true ((of_decide_eq_true hab).trans (of_decide_eq_true hbc))
    have htotal : ∀ a b, (decide (key a ≤ key b) || decide (key b ≤ key a)) = true :=
      fun a b => by simpa using le_total (key a) (key b)
    exact (List.pairwise_mergeSort htrans htotal as).imp fun h => of_decide_eq_true h

section

variable {K : Type*} [Field K] [LinearOrder K]

def inBand (cfg : MonitorConfig K) (p : NearPair K) : Bool :=
  p.dM < nearPairSlowBandM cfg p.category + (cfg.barrier p.category).hystM

/-- The loop over the sorted pairs, after `nearest_taken` of them. -/
def selectNear {α : Type*} (band : α → Bool) (kNearest : ℕ) : ℕ → List α → List α
  | _, [] => []
  | nearestTaken, a :: ds =>
    if !band a && decide (kNearest ≤ nearestTaken) then selectNear band kNearest nearestTaken ds
    else a :: selectNear band kNearest (if nearestTaken < kNearest then nearestTaken + 1 else nearestTaken) ds

def nearList (cfg : MonitorConfig K) (sort : List (NearPair K) → List (NearPair K)) (pairs : List (NearPair K)) :
    List (NearPair K) :=
  selectNear (inBand cfg) cfg.maxNearPairs 0 (sort (pairs.filter fun p => !onlyReported cfg p.category))

/-- The verdict on the pairs measured at `qEval`. -/
def reduce (cfg : MonitorConfig K) (sort : List (NearPair K) → List (NearPair K)) (pairs : List (NearPair K))
    (qEvalDeg : DualVec K) : CollisionVerdict K :=
  ⟨true, nearList cfg sort pairs, some qEvalDeg⟩

/-! ## Selection -/

/-- The nearest, and those in their band among the others. -/
theorem selectNear_eq {α : Type*} (band : α → Bool) (kNearest nearestTaken : ℕ) (ds : List α) :
    selectNear band kNearest nearestTaken ds =
      ds.take (kNearest - nearestTaken) ++ (ds.drop (kNearest - nearestTaken)).filter band := by
  induction ds generalizing nearestTaken with
  | nil => simp [selectNear]
  | cons a ds ih =>
    rw [selectNear, ih, ih]
    by_cases htaken : kNearest ≤ nearestTaken
    · have hzero : kNearest - nearestTaken = 0 := Nat.sub_eq_zero_of_le htaken
      rw [if_neg (not_lt.mpr htaken), hzero, decide_eq_true htaken, Bool.and_true, List.take_zero, List.take_zero,
        List.drop_zero, List.drop_zero, List.nil_append, List.nil_append, List.filter_cons]
      cases band a <;> rfl
    · have hsucc : kNearest - nearestTaken = (kNearest - (nearestTaken + 1)) + 1 := by omega
      rw [if_pos (not_le.mp htaken), decide_eq_false htaken, Bool.and_false, if_neg Bool.false_ne_true, hsucc,
        List.take_succ_cons, List.drop_succ_cons, List.cons_append]

variable {cfg : MonitorConfig K} {sort : List (NearPair K) → List (NearPair K)} {pairs : List (NearPair K)}

omit [Field K] in
theorem mem_sorted (hsort : SortsBy NearPair.dM sort) {p : NearPair K} :
    p ∈ sort (pairs.filter fun p => !onlyReported cfg p.category) ↔
      p ∈ pairs ∧ onlyReported cfg p.category = false := by
  rw [(hsort.perm _).mem_iff, List.mem_filter, Bool.not_eq_true']

theorem mem_nearList_of_inBand (hsort : SortsBy NearPair.dM sort) {p : NearPair K} (hp : p ∈ pairs)
    (hreport : onlyReported cfg p.category = false) (hband : inBand cfg p = true) : p ∈ nearList cfg sort pairs := by
  have hmem := (mem_sorted hsort).mpr ⟨hp, hreport⟩
  rw [nearList, selectNear_eq]
  rw [← List.take_append_drop (cfg.maxNearPairs - 0) (sort _)] at hmem
  rcases List.mem_append.mp hmem with h | h
  · exact List.mem_append_left _ h
  · exact List.mem_append_right _ (List.mem_filter.mpr ⟨h, hband⟩)

theorem nearList_sublist (cfg : MonitorConfig K) (sort : List (NearPair K) → List (NearPair K))
    (pairs : List (NearPair K)) :
    (nearList cfg sort pairs).Sublist (sort (pairs.filter fun p => !onlyReported cfg p.category)) := by
  rw [nearList, selectNear_eq]
  conv_rhs => rw [← List.take_append_drop (cfg.maxNearPairs - 0) (sort _)]
  exact (List.Sublist.refl _).append List.filter_sublist

/-- **The near list**: ascending, with every pair in its band; a pair that is left out is outside of its band,
and as many as `max_near_pairs` are listed that are at least as near. -/
theorem nearList_spec (cfg : MonitorConfig K) (pairs : List (NearPair K)) (hsort : SortsBy NearPair.dM sort) :
    (nearList cfg sort pairs).Pairwise (fun p p' => p.dM ≤ p'.dM) ∧
      (∀ p ∈ nearList cfg sort pairs, p ∈ pairs ∧ onlyReported cfg p.category = false) ∧
      ∀ p ∈ pairs, onlyReported cfg p.category = false → p ∉ nearList cfg sort pairs →
        inBand cfg p = false ∧ ∃ nearer : List (NearPair K), nearer.length = cfg.maxNearPairs ∧
          nearer.Sublist (nearList cfg sort pairs) ∧
          ∀ p' ∈ nearer, p'.dM ≤ p.dM := by
  have hsublist := nearList_sublist cfg sort pairs
  refine ⟨(hsort.ascending _).sublist hsublist, fun p hp => (mem_sorted hsort).mp (hsublist.subset hp),
    fun p hp hreport hout => ⟨?_, ?_⟩⟩
  · by_contra hband
    exact hout (mem_nearList_of_inBand hsort hp hreport (Bool.eq_true_of_not_eq_false hband))
  · have hmem := (mem_sorted hsort).mpr ⟨hp, hreport⟩
    have hlist : nearList cfg sort pairs =
        (sort (pairs.filter fun p => !onlyReported cfg p.category)).take cfg.maxNearPairs ++
          ((sort (pairs.filter fun p => !onlyReported cfg p.category)).drop cfg.maxNearPairs).filter (inBand cfg) := by
      rw [nearList, selectNear_eq, Nat.sub_zero]
    have hascending := hsort.ascending (pairs.filter fun p => !onlyReported cfg p.category)
    generalize sort (pairs.filter fun p => !onlyReported cfg p.category) = ds at hmem hlist hascending
    rw [← List.take_append_drop cfg.maxNearPairs ds] at hmem hascending
    have hlate : p ∈ ds.drop cfg.maxNearPairs := (List.mem_append.mp hmem).resolve_left fun h =>
      hout (by rw [hlist]; exact List.mem_append_left _ h)
    refine ⟨ds.take cfg.maxNearPairs, ?_, ?_, fun p' hp' => (List.pairwise_append.mp hascending).2.2 p' hp' p hlate⟩
    · rw [List.length_take]
      have := List.length_pos_of_mem hlate
      rw [List.length_drop] at this
      omega
    · rw [hlist]
      exact List.sublist_append_left _ _

end

theorem nearList_spec_crowd :
    let cfg := { bandMonitor with maxNearPairs := 1 }
    let near := nearList cfg (fun ps => ps.mergeSort fun p p' => p.dM ≤ p'.dM)
      [bandPair 1 1, bandPair 2 (3 / 2), bandPair 3 5, bandPair 4 6]
    near.map NearPair.dM = [1, 3 / 2] ∧
      ∃ nearer : List (NearPair ℚ), nearer.length = 1 ∧ nearer.Sublist near ∧ ∀ p ∈ nearer, p.dM ≤ 5 := by
  intro cfg near
  have hnear : near.map NearPair.dM = [1, 3 / 2] := by
    show (nearList cfg _ [bandPair 1 1, bandPair 2 (3 / 2), bandPair 3 5, bandPair 4 6]).map NearPair.dM = _
    rw [nearList, List.mergeSort_of_pairwise (by decide +kernel)]
    decide +kernel
  have hout : bandPair 3 5 ∉ near := fun hmem => by
    have hdistance := List.mem_map_of_mem (f := NearPair.dM) hmem
    rw [hnear] at hdistance
    revert hdistance
    decide +kernel
  obtain ⟨-, -, hleft⟩ := nearList_spec cfg [bandPair 1 1, bandPair 2 (3 / 2), bandPair 3 5, bandPair 4 6]
    (mergeSort_sortsBy NearPair.dM)
  exact ⟨hnear, (hleft (bandPair 3 5) (by simp) rfl hout).2⟩

/-! ## Rows of an old verdict -/

section

variable {K : Type*} [Field K] [LinearOrder K] [IsStrictOrderedRing K] {sqrt : K → K} {cfg : MonitorConfig K}
  {sort : List (NearPair K) → List (NearPair K)} {pairs : List (NearPair K)} {opts : ConstraintBuildOptions K}

/-- **No pair in its slow band is without a row**, however many are nearer and however old the verdict is, as
long as the pair has moved by no more than the hysteresis since the evaluation. -/
theorem row_of_band (hsort : SortsBy NearPair.dM sort) {p : NearPair K} (hp : p ∈ pairs)
    (henforced : Enforced cfg opts p.category) (hactuated : 1 / 10 ^ 18 ≤ p.jn ⬝ᵥ p.jn) {q qEval : DualVec K}
    (hq : opts.qDeg = some q) (hmoved : |p.jn ⬝ᵥ fun i => (q i - qEval i) * kDeg2Rad| ≤ (cfg.barrier p.category).hystM)
    (hslow : (rowBarrier cfg opts p.category).dSlowM ≤ nearPairSlowBandM cfg p.category)
    (hnear : p.dM + (p.jn ⬝ᵥ fun i => (q i - qEval i) * kDeg2Rad) < (rowBarrier cfg opts p.category).dSlowM)
    (verdictAge : K) (engaged : Option (Finset ℕ)) :
    ∃ c ∈ (buildCollisionConstraints sqrt (reduce cfg sort pairs qEval) cfg verdictAge engaged opts).2,
      c.J = p.jn ∧ c.dNow = p.dM + (p.jn ⬝ᵥ fun i => (q i - qEval i) * kDeg2Rad) ∧
        c.xi = allowed sqrt (rowBarrier cfg opts p.category) (c.dNow - (rowBarrier cfg opts p.category).dHardM) := by
  have hdq : dqRad (reduce cfg sort pairs qEval) opts = some fun i => (q i - qEval i) * kDeg2Rad := by
    rw [dqRad, hq]
    rfl
  have hhyst : (rowBarrier cfg opts p.category).hystM = (cfg.barrier p.category).hystM := by
    rw [rowBarrier]
    split <;> rfl
  have hlisted : p ∈ (reduce cfg sort pairs qEval).near := by
    refine mem_nearList_of_inBand hsort hp henforced.1 (decide_eq_true ?_)
    linarith [(abs_le.mp hmoved).1]
  have hrow : rowOf sqrt cfg opts (dqRad (reduce cfg sort pairs qEval) opts) (max 0 verdictAge) p ∈
      (buildCollisionConstraints sqrt (reduce cfg sort pairs qEval) cfg verdictAge engaged opts).2 :=
    row_of_near rfl hlisted henforced (by rw [hhyst]; exact (abs_nonneg _).trans hmoved) (by rw [hdq]; exact hnear)
      hactuated
  rw [hdq] at hrow
  exact ⟨_, hrow, rfl, rfl, rfl⟩

end

end RbServo.Collision
