import RoboticsLab.Collision.MonitorConfig
import RoboticsLab.Lib.Double
import Mathlib.Tactic.ByContra

/-!
# `rb_servo/control/collision_monitor.cpp`: three readings of the same distances

`curatePairs` gives every collision pair one category, and each category has a hard floor.  Three loops
read the distances of the pairs: `reduce` for the running barrier, `evalDistancesOnly` and
`clearsThresholds` for the InitMotion planner, the last without computing minima.

    clearsThresholds accepts : the summary passes `isClear`, and boxes and stand keep their distance
                                                                    (clearsThresholds_iff)
    clearsThresholds accepts : `reduce` reports no hard violation   (clears_not_hard)

A pair of grippers has its own floor in `reduce` only: `evalDistancesOnly` and `clearsThresholds` read it
as left-right.
-/

namespace RbServo.Collision

/-- The planner's thresholds; the code refuses those that are not finite. -/
structure Thresholds where
  selfM : ℚ
  externalM : ℚ
  intraArmM : ℚ
  environmentM : ℚ

structure CollisionDistanceSummary where
  hardViolation : Bool
  minClearanceM : Double
  selfMinClearanceM : Double
  intraArmMinClearanceM : Double
  externalMinClearanceM : Double
  environmentMinClearanceM : Double
  armStandMinClearanceM : Double

/-! ## Algorithm -/

def pairActive (p : Pair) (includeLeft includeRight : Bool) : Bool :=
  includeLeft && includeRight || (includeLeft && p.left || includeRight && p.right)

/-- The floors of `evalDistancesOnly` and `clearsThresholds`. -/
def hardFloor (cfg : MonitorConfig ℚ) : PairCategory → ℚ
  | .external => cfg.external.dHardM
  | .externalBox => cfg.externalBox.dHardM
  | .intraArm => cfg.intraArm.dHardM
  | .environment => cfg.environment.dHardM
  | .armStand => armStandOr cfg.armStand.dHardM cfg.self.dHardM
  | .leftRight | .gripperGripper => cfg.self.dHardM

def CollisionDistanceSummary.empty : CollisionDistanceSummary :=
  ⟨false, .posInf, .posInf, .posInf, .posInf, .posInf, .posInf⟩

/-- One pass of `summarizeCurrentDistances`. -/
def CollisionDistanceSummary.take (cfg : MonitorConfig ℚ) (s : CollisionDistanceSummary) (c : PairCategory)
    (d : Double) :
    CollisionDistanceSummary :=
  let s := { s with
    minClearanceM := Double.min s.minClearanceM d
    hardViolation := s.hardViolation || Double.lt d (.fin (hardFloor cfg c)) || !d.isFinite }
  match c with
  | .external => { s with externalMinClearanceM := Double.min s.externalMinClearanceM d }
  | .externalBox => s
  | .intraArm => { s with intraArmMinClearanceM := Double.min s.intraArmMinClearanceM d }
  | .environment => { s with environmentMinClearanceM := Double.min s.environmentMinClearanceM d }
  | .armStand =>
    { s with
      armStandMinClearanceM := Double.min s.armStandMinClearanceM d
      selfMinClearanceM := Double.min s.selfMinClearanceM d }
  | .leftRight | .gripperGripper => { s with selfMinClearanceM := Double.min s.selfMinClearanceM d }

/-- The distances of a configuration are those of its pairs. -/
def evalDistancesOnly (cfg : MonitorConfig ℚ) (includeLeft includeRight : Bool) (pairs : List (Pair × Double)) :
    CollisionDistanceSummary :=
  pairs.foldl
    (fun s p =>
      if !pairActive p.1 includeLeft includeRight || onlyReported cfg p.1.category then s
      else s.take cfg p.1.category p.2)
    .empty

/-- `isClear` of the planner. -/
def isClear (t : Thresholds) (v : CollisionDistanceSummary) : Bool :=
  !v.hardViolation &&
    Double.lt (.fin t.selfM) v.selfMinClearanceM &&
    Double.lt (.fin t.intraArmM) v.intraArmMinClearanceM &&
    Double.lt (.fin t.environmentM) v.environmentMinClearanceM &&
    Double.lt (.fin t.externalM) v.externalMinClearanceM

/-- The threshold that a category takes in `clearsThresholds`, before its floor. -/
def planned (t : Thresholds) : PairCategory → ℚ
  | .external | .externalBox => t.externalM
  | .intraArm => t.intraArmM
  | .environment => t.environmentM
  | .armStand | .leftRight | .gripperGripper => t.selfM

def clearsThresholds (cfg : MonitorConfig ℚ) (t : Thresholds) (includeLeft includeRight : Bool)
    (pairs : List (Pair × Double)) : Bool :=
  pairs.all fun p =>
    !pairActive p.1 includeLeft includeRight ||
      p.2.isFinite && (onlyReported cfg p.1.category ||
        !Double.le p.2 (.fin (max (planned t p.1.category) (hardFloor cfg p.1.category))))

/-- The hard violation that `reduce` reports. -/
def reduceHard (cfg : MonitorConfig ℚ) (pairs : List (Pair × Double)) : Bool :=
  pairs.any fun p => !onlyReported cfg p.1.category && Double.lt p.2 (.fin (nearPairHardFloorM cfg p.1.category))

/-! ## Statement -/

/-- What one pair has to do for `isClear`: boxes have no minimum in the summary, only their floor. -/
def passes (cfg : MonitorConfig ℚ) (t : Thresholds) (c : PairCategory) : Double → Bool
  | .fin x => hardFloor cfg c ≤ x && (c = .externalBox || planned t c < x)
  | _ => false

/-- A planner keeps at least the floors of the classes it has thresholds for. -/
structure Thresholds.AtLeastFloors (cfg : MonitorConfig ℚ) (t : Thresholds) : Prop where
  self : cfg.self.dHardM ≤ t.selfM
  external : cfg.external.dHardM ≤ t.externalM
  intraArm : cfg.intraArm.dHardM ≤ t.intraArmM
  environment : cfg.environment.dHardM ≤ t.environmentM

/-! ## Lemmas -/

theorem lt_min_fin (a : ℚ) (m : Double) (x : ℚ) :
    Double.lt (.fin a) (Double.min m (.fin x)) = (Double.lt (.fin a) m && decide (a < x)) := by
  cases m with
  | nan => rfl
  | negInf => simp [Double.min, Double.lt]
  | posInf => simp [Double.min, Double.lt]
  | fin m =>
    by_cases hxm : x < m
    · have : a < x → a < m := fun h => h.trans hxm
      simp only [Double.min, Double.lt, hxm, decide_true, if_true]
      by_cases hax : a < x <;> simp [hax, this]
    · have : a < m → a < x := fun h => h.trans_le (not_lt.mp hxm)
      simp only [Double.min, Double.lt, hxm, decide_false, Bool.false_eq_true, if_false]
      by_cases ham : a < m <;> simp [ham, this]

theorem take_hardViolation (cfg : MonitorConfig ℚ) (s : CollisionDistanceSummary) (c : PairCategory) (d : Double) :
    (s.take cfg c d).hardViolation = (s.hardViolation || Double.lt d (.fin (hardFloor cfg c)) || !d.isFinite) := by
  cases c <;> rfl

theorem isClear_take_of_not_finite (cfg : MonitorConfig ℚ) (t : Thresholds) (s : CollisionDistanceSummary)
    (c : PairCategory)
    {d : Double} (h : d.isFinite = false) : isClear t (s.take cfg c d) = false := by
  rw [isClear, take_hardViolation, h, Bool.not_false, Bool.or_true, Bool.not_true]
  rfl

/-- One pair more, one pair more to pass. -/
theorem isClear_take (cfg : MonitorConfig ℚ) (t : Thresholds) (s : CollisionDistanceSummary) (c : PairCategory)
    (d : Double) :
    isClear t (s.take cfg c d) = (isClear t s && passes cfg t c d) := by
  cases d with
  | fin x =>
    have hlt : Double.lt (.fin x) (.fin (hardFloor cfg c)) = !decide (hardFloor cfg c ≤ x) := by
      rw [← decide_not]
      exact decide_eq_decide.mpr not_le.symm
    have hfinite : Double.isFinite (.fin x) = true := rfl
    rw [Bool.eq_iff_iff]
    cases c <;>
      simp only [isClear, CollisionDistanceSummary.take, passes, planned, lt_min_fin, hfinite, hlt, Bool.not_or,
        Bool.not_not, Bool.not_true, Bool.not_false, Bool.and_true, Bool.and_eq_true, Bool.or_eq_true, reduceCtorEq,
        decide_false, decide_true, Bool.false_eq_true, false_or, true_or, and_true] <;>
      tauto
  | nan => exact (isClear_take_of_not_finite cfg t s c rfl).trans (Bool.and_false _).symm
  | negInf => exact (isClear_take_of_not_finite cfg t s c rfl).trans (Bool.and_false _).symm
  | posInf => exact (isClear_take_of_not_finite cfg t s c rfl).trans (Bool.and_false _).symm

/-- **The planner's gate on a summary**, pair by pair. -/
theorem isClear_eval (cfg : MonitorConfig ℚ) (t : Thresholds) (includeLeft includeRight : Bool)
    (pairs : List (Pair × Double)) :
    isClear t (evalDistancesOnly cfg includeLeft includeRight pairs) = true ↔
      ∀ p ∈ pairs, pairActive p.1 includeLeft includeRight = true → onlyReported cfg p.1.category = false →
        passes cfg t p.1.category p.2 = true := by
  have hfold : ∀ s, isClear t (pairs.foldl (fun s p =>
      if !pairActive p.1 includeLeft includeRight || onlyReported cfg p.1.category then s
      else s.take cfg p.1.category p.2) s) = true ↔ isClear t s = true ∧ ∀ p ∈ pairs,
        pairActive p.1 includeLeft includeRight = true → onlyReported cfg p.1.category = false →
          passes cfg t p.1.category p.2 = true := by
    induction pairs with
    | nil => simp
    | cons p pairs ih =>
      intro s
      rw [List.foldl_cons, ih, List.forall_mem_cons]
      by_cases hskip : (!pairActive p.1 includeLeft includeRight || onlyReported cfg p.1.category) = true
      · have hvacuous : ¬ (pairActive p.1 includeLeft includeRight = true ∧ onlyReported cfg p.1.category = false) := by
          rintro ⟨ha, ho⟩
          rw [ha, ho] at hskip
          cases hskip
        rw [if_pos hskip]
        tauto
      · obtain ⟨ha, ho⟩ : pairActive p.1 includeLeft includeRight = true ∧ onlyReported cfg p.1.category = false := by
          simpa using hskip
        rw [if_neg hskip, isClear_take, Bool.and_eq_true, ha, ho]
        tauto
  rw [evalDistancesOnly, hfold]
  exact and_iff_right rfl

/-- What `clearsThresholds` asks of a pair that is not only reported. -/
theorem clears_pair {cfg : MonitorConfig ℚ} {t : Thresholds} {includeLeft includeRight : Bool}
    {pairs : List (Pair × Double)}
    (h : clearsThresholds cfg t includeLeft includeRight pairs = true) {p : Pair × Double} (hp : p ∈ pairs)
    (hactive : pairActive p.1 includeLeft includeRight = true) :
    ∃ x, p.2 = .fin x ∧ (onlyReported cfg p.1.category = false →
      planned t p.1.category < x ∧ hardFloor cfg p.1.category < x) := by
  have hpair := List.all_eq_true.mp h p hp
  rw [hactive] at hpair
  obtain ⟨c, d⟩ := p
  cases d with
  | fin x =>
    refine ⟨x, rfl, fun ho => ?_⟩
    rw [ho] at hpair
    simpa [Double.le, Double.lt, Double.isFinite] using hpair
  | nan => simp [Double.isFinite] at hpair
  | negInf => simp [Double.isFinite] at hpair
  | posInf => simp [Double.isFinite] at hpair

theorem passes_eq_true {cfg : MonitorConfig ℚ} {t : Thresholds} {c : PairCategory} {d : Double}
    (h : passes cfg t c d = true) :
    ∃ x, d = .fin x ∧ hardFloor cfg c ≤ x ∧ (c ≠ .externalBox → planned t c < x) := by
  cases d with
  | fin x =>
    simp only [passes, Bool.and_eq_true, Bool.or_eq_true, decide_eq_true_eq] at h
    exact ⟨x, rfl, h.1, h.2.resolve_left⟩
  | nan => cases h
  | negInf => cases h
  | posInf => cases h

theorem clears_fin {cfg : MonitorConfig ℚ} {t : Thresholds} {p : Pair} {x : ℚ}
    (ho : onlyReported cfg p.category = false) (h : max (planned t p.category) (hardFloor cfg p.category) < x) :
    (Double.isFinite (.fin x) &&
      (onlyReported cfg p.category ||
        !Double.le (.fin x) (.fin (max (planned t p.category) (hardFloor cfg p.category))))) = true := by
  simpa [ho, Double.isFinite, Double.le, Double.lt] using h

/-- Where the planner has a threshold of its own, it is at least the floor. -/
theorem hardFloor_le_planned {cfg : MonitorConfig ℚ} {t : Thresholds} (h : t.AtLeastFloors cfg) {c : PairCategory}
    (hbox : c ≠ .externalBox) (hstand : c ≠ .armStand) : hardFloor cfg c ≤ planned t c := by
  cases c with
  | externalBox => exact absurd rfl hbox
  | armStand => exact absurd rfl hstand
  | external => exact h.external
  | intraArm => exact h.intraArm
  | environment => exact h.environment
  | leftRight => exact h.self
  | gripperGripper => exact h.self

/-- **The gate without minima**: it is the gate on the summary, stricter for boxes, which it holds to the
external threshold, and for a stand pair that lies exactly on its floor. -/
theorem clearsThresholds_iff {cfg : MonitorConfig ℚ} {t : Thresholds} (hfloors : t.AtLeastFloors cfg)
    (includeLeft includeRight : Bool) (pairs : List (Pair × Double)) :
    clearsThresholds cfg t includeLeft includeRight pairs = true ↔
      isClear t (evalDistancesOnly cfg includeLeft includeRight pairs) = true ∧
      ∀ p ∈ pairs, pairActive p.1 includeLeft includeRight = true →
        (p.1.category = .externalBox → p.2.isFinite = true ∧ (cfg.monitorOnly = false →
          Double.lt (.fin (max t.externalM cfg.externalBox.dHardM)) p.2 = true)) ∧
        (p.1.category = .armStand → Double.lt (.fin (armStandOr cfg.armStand.dHardM cfg.self.dHardM)) p.2 = true) := by
  rw [isClear_eval]
  constructor
  · intro h
    refine ⟨fun p hp ha ho => ?_, fun p hp ha => ?_⟩
    · obtain ⟨x, hx, hpass⟩ := clears_pair h hp ha
      obtain ⟨hplanned, hfloor⟩ := hpass ho
      simp [hx, passes, hfloor.le, hplanned]
    · obtain ⟨x, hx, hpass⟩ := clears_pair h hp ha
      rw [hx]
      constructor
      · refine fun hbox => ⟨rfl, fun henforced => ?_⟩
        obtain ⟨hplanned, hfloor⟩ := hpass (by simp [onlyReported, henforced])
        rw [hbox] at hplanned hfloor
        simpa [Double.lt] using ⟨hplanned, hfloor⟩
      · intro hstand
        obtain ⟨-, hfloor⟩ := hpass (by simp [onlyReported, hstand])
        rw [hstand] at hfloor
        exact decide_eq_true hfloor
  · rintro ⟨hclear, hextra⟩
    refine List.all_eq_true.mpr fun p hp => ?_
    by_cases ha : pairActive p.1 includeLeft includeRight = true
    · obtain ⟨hbox, hstand⟩ := hextra p hp ha
      rw [ha, Bool.not_true, Bool.false_or]
      by_cases ho : onlyReported cfg p.1.category = true
      · simp only [onlyReported, Bool.and_eq_true, decide_eq_true_eq] at ho
        simp [hbox ho.1, onlyReported, ho]
      have ho' := Bool.eq_false_of_not_eq_true ho
      obtain ⟨x, hx, hfloor, hplanned⟩ := passes_eq_true (hclear p hp ha ho')
      rw [hx] at hbox hstand ⊢
      refine clears_fin ho' ?_
      by_cases hc : p.1.category = .externalBox
      · have henforced : cfg.monitorOnly = false := by simpa [onlyReported, hc] using ho'
        rw [hc]
        exact of_decide_eq_true ((hbox hc).2 henforced)
      by_cases hc' : p.1.category = .armStand
      · rw [hc'] at hplanned ⊢
        exact max_lt (hplanned (by decide)) (of_decide_eq_true (hstand hc'))
      · exact max_lt (hplanned hc) ((hardFloor_le_planned hfloors hc hc').trans_lt (hplanned hc))
    · simp [Bool.eq_false_of_not_eq_true ha]

/-- No floor anywhere. -/
def cellMonitor : MonitorConfig ℚ :=
  ⟨⟨0, 0, 0, 0, 0⟩, ⟨0, 0, 0, 0, 0⟩, ⟨0, 0, 0, 0, 0⟩, ⟨0, 0, 0, 0, 0⟩, ⟨0, 0, 0, 0, 0⟩, ⟨0, 0, 0, 0, 0⟩,
    ⟨0, 0, 0, 0, 0⟩, 0, false, 0⟩

/-- A box at the external threshold: the minima accept it. -/
theorem clearsThresholds_iff_box :
    isClear ⟨1, 1, 1, 1⟩ (evalDistancesOnly cellMonitor true false [(⟨.externalBox, true, false⟩, .fin 1)]) =
        true ∧
      clearsThresholds cellMonitor ⟨1, 1, 1, 1⟩ true false [(⟨.externalBox, true, false⟩, .fin 1)] =
        false := by
  refine ⟨rfl, Bool.eq_false_of_not_eq_true fun h => ?_⟩
  have hfloors : Thresholds.AtLeastFloors cellMonitor ⟨1, 1, 1, 1⟩ :=
    ⟨zero_le_one, zero_le_one, zero_le_one, zero_le_one⟩
  have hbox := (((clearsThresholds_iff hfloors true false _).mp h).2 _ List.mem_cons_self rfl).1 rfl
  exact absurd (hbox.2 rfl) (by decide)

/-- Only a pair of grippers has another floor in the barrier. -/
theorem nearPairHardFloorM_eq (cfg : MonitorConfig ℚ) {c : PairCategory} (hc : c ≠ .gripperGripper) :
    nearPairHardFloorM cfg c = hardFloor cfg c := by
  cases c with
  | gripperGripper => exact absurd rfl hc
  | leftRight => rfl
  | armStand => rfl
  | intraArm => rfl
  | external => rfl
  | externalBox => rfl
  | environment => rfl

/-- **Planned poses and the running barrier**: what both arms' gate accepts is no hard violation for
`reduce`, provided the floor of gripper pairs is not above what the gate asks of them. -/
theorem clears_not_hard {cfg : MonitorConfig ℚ} {t : Thresholds} {pairs : List (Pair × Double)}
    (hgripper : cfg.gripperGripper.dHardM ≤ max t.selfM cfg.self.dHardM)
    (h : clearsThresholds cfg t true true pairs = true) : reduceHard cfg pairs = false := by
  refine List.any_eq_false.mpr fun p hp hhard => ?_
  simp only [Bool.and_eq_true, Bool.not_eq_true'] at hhard
  obtain ⟨x, hx, hpass⟩ := clears_pair h hp rfl
  obtain ⟨hplanned, hfloor⟩ := hpass hhard.1
  have hbelow : x < nearPairHardFloorM cfg p.1.category := by
    simpa [hx, Double.lt] using hhard.2
  by_cases hc : p.1.category = .gripperGripper
  · rw [hc] at hplanned hfloor hbelow
    exact absurd (hbelow.trans_le hgripper) (not_lt.mpr (max_le hplanned.le hfloor.le))
  · rw [nearPairHardFloorM_eq cfg hc] at hbelow
    exact absurd hbelow (not_lt.mpr hfloor.le)

theorem clears_not_hard_grippers :
    reduceHard { cellMonitor with gripperGripper := ⟨1, 1, 1, 0, 0⟩ }
      [(⟨.gripperGripper, true, true⟩, .fin 2)] = false :=
  clears_not_hard (t := ⟨1, 1, 1, 1⟩) (le_max_left _ _) rfl

end RbServo.Collision
