import RoboticsLab.Preview.ContactConstraint
import Mathlib.Algebra.Order.Floor.Semiring
import Mathlib.Algebra.Group.PUnit
import Mathlib.Data.Fin.VecNotation
import Mathlib.Data.Rat.Floor

/-!
# The contact envelope between its samples

`buildContactEnvelope` looks at the three Bernstein controls of each servo interval only, and lets the
two knots of the interval cover them.  Hence each pair of neighbouring knots holds a ceiling and a floor
of the whole interval between them (`Tube`), knots are only widened afterwards, and their linear
interpolation, which lies above the ceiling and below the floor, bounds the closing velocity of the path
at every time (`buildContactEnvelope_certified`).
-/

namespace RbServo

open Clamp Quadratic PreviewContactConstraint

/-! ## Reading a list of knots -/

section Reading

variable {K : Type*} [LinearOrder K] {knots : List (Knot K)} {a b : Knot K} {t : K}

/-- Where `locate` stops: at the first interval that ends at `t` or later, or at the last one. -/
theorem segmentAt_spec (h : segmentAt knots t = some (a, b)) :
    ∃ pre post, knots = pre ++ a :: b :: post ∧ (pre ≠ [] → a.timeSec < t) ∧
      (post ≠ [] → t ≤ b.timeSec) := by
  induction knots with
  | nil => simp [segmentAt] at h
  | cons x rest ih =>
    cases rest with
    | nil => simp [segmentAt] at h
    | cons y rest =>
      rw [segmentAt] at h
      split at h
      · next hgo =>
        obtain ⟨pre, post, he, hpre, hpost⟩ := ih h
        refine ⟨x :: pre, post, by rw [he, List.cons_append], fun _ => ?_, hpost⟩
        cases pre with
        | nil =>
          obtain ⟨rfl, -⟩ := List.cons.inj he
          exact hgo.2
        | cons z pre => exact hpre (List.cons_ne_nil z pre)
      · next hstay =>
        obtain ⟨rfl, rfl⟩ := Prod.mk.inj (Option.some.inj h)
        refine ⟨[], rest, rfl, fun hne => absurd rfl hne, fun hne => ?_⟩
        exact not_lt.mp fun hlt => hstay ⟨hne, hlt⟩

theorem segmentAt_isSome (x y : Knot K) (rest : List (Knot K)) (t : K) :
    ∃ a b, segmentAt (x :: y :: rest) t = some (a, b) := by
  induction rest generalizing x y with
  | nil => exact ⟨x, y, by simp [segmentAt]⟩
  | cons z rest ih =>
    rw [segmentAt]
    split
    · exact ih y z
    · exact ⟨x, y, rfl⟩

/-- The pair around a time, or, at its first knot, the pair before. -/
theorem segmentAt_pair {pre post : List (Knot K)}
    (hinc : (pre ++ a :: b :: post).IsChain fun p q => p.timeSec < q.timeSec) (h1 : a.timeSec ≤ t)
    (h2 : t ≤ b.timeSec) : segmentAt (pre ++ a :: b :: post) t = some (a, b) ∨
      ∃ c ∈ pre, segmentAt (pre ++ a :: b :: post) t = some (c, a) ∧ c.timeSec < a.timeSec ∧ t = a.timeSec := by
  induction pre with
  | nil =>
    refine Or.inl ?_
    rw [List.nil_append, segmentAt, if_neg fun h => absurd h.2 (not_lt.mpr h2)]
  | cons x pre ih =>
    cases pre with
    | nil =>
      obtain ⟨hxa, -⟩ := List.isChain_cons_cons.mp hinc
      rw [List.cons_append, List.nil_append, segmentAt]
      rcases lt_or_eq_of_le h1 with hlt | heq
      · refine Or.inl ?_
        rw [if_pos ⟨List.cons_ne_nil _ _, hlt⟩, segmentAt, if_neg fun h => absurd h.2 (not_lt.mpr h2)]
      · refine Or.inr ⟨x, List.mem_cons_self, ?_, hxa, heq.symm⟩
        rw [if_neg fun h => absurd h.2 (not_lt.mpr heq.ge)]
    | cons y pre =>
      obtain ⟨-, hrest⟩ := List.isChain_cons_cons.mp hinc
      have hya : y.timeSec < a.timeSec := by
        have hpair := ((List.isChain_map Knot.timeSec).mpr hrest).pairwise
        rw [List.map_cons, List.pairwise_cons] at hpair
        exact hpair.1 a.timeSec (List.mem_map_of_mem (List.mem_append_right pre List.mem_cons_self))
      rw [List.cons_append, List.cons_append, segmentAt, if_pos ⟨by simp, hya.trans_le h1⟩]
      rcases ih hrest with h | ⟨c, hc, h⟩
      · exact Or.inl h
      · exact Or.inr ⟨c, List.mem_cons_of_mem x hc, h⟩

omit [LinearOrder K] in
theorem exists_two (h : 2 ≤ knots.length) : ∃ x y rest, knots = x :: y :: rest := by
  cases knots with
  | nil => simp at h
  | cons x rest =>
    cases rest with
    | nil => simp at h
    | cons y rest => exact ⟨x, y, rest, rfl⟩

/-- A time between the first and the last knot is read off a pair around it. -/
theorem segmentAt_around {start stop : K} (hlen : 2 ≤ knots.length) (hfirst : knots.head?.map Knot.timeSec = some start)
    (hlast : knots.getLast?.map Knot.timeSec = some stop) (h0 : start ≤ t) (h1 : t ≤ stop) :
    ∃ pre p q post, knots = pre ++ p :: q :: post ∧ segmentAt knots t = some (p, q) ∧ p.timeSec ≤ t ∧
      t ≤ q.timeSec := by
  obtain ⟨x, y, rest, rfl⟩ := exists_two hlen
  obtain ⟨p, q, hpq⟩ := segmentAt_isSome x y rest t
  obtain ⟨pre, post, he, hpre, hpost⟩ := segmentAt_spec hpq
  refine ⟨pre, p, q, post, he, hpq, ?_, ?_⟩
  · cases pre with
    | nil =>
      obtain ⟨rfl, -⟩ := List.cons.inj he
      have hx : x.timeSec = start := by simpa using hfirst
      exact hx.trans_le h0
    | cons z pre => exact (hpre (List.cons_ne_nil z pre)).le
  · cases post with
    | nil =>
      have hq : q.timeSec = stop := by simpa [he] using hlast
      exact h1.trans_eq hq.symm
    | cons z post => exact hpost (List.cons_ne_nil z post)

end Reading

section Envelope

variable {K G : Type*} [Field K] [LinearOrder K] [IsStrictOrderedRing K] [FloorSemiring K] [Group G]

omit [FloorSemiring K] in
theorem fraction_mem (a b : Knot K) (t : K) : 0 ≤ fraction a b t ∧ fraction a b t ≤ 1 :=
  ⟨le_clamp zero_le_one, clamp_le zero_le_one⟩

omit [FloorSemiring K] in
theorem fraction_end {a b : Knot K} (h : a.timeSec < b.timeSec) : fraction a b b.timeSec = 1 := by
  have h1 : (b.timeSec - a.timeSec) / (b.timeSec - a.timeSec) = 1 := div_self (sub_pos.mpr h).ne'
  unfold fraction clamp
  rw [h1, if_neg (not_lt.mpr zero_le_one), if_neg (lt_irrefl 1)]

omit [FloorSemiring K] in
theorem fraction_start (a b : Knot K) : fraction a b a.timeSec = 0 := by
  unfold fraction clamp
  rw [sub_self, zero_div, if_neg (lt_irrefl 0), if_neg (not_lt.mpr zero_le_one)]

omit [FloorSemiring K] in
/-- Within the pair the fraction is not clamped. -/
theorem fraction_eq {a b : Knot K} {t : K} (h : a.timeSec < b.timeSec) (h1 : a.timeSec ≤ t) (h2 : t ≤ b.timeSec) :
    fraction a b t = (t - a.timeSec) / (b.timeSec - a.timeSec) := by
  have hpos : 0 < b.timeSec - a.timeSec := sub_pos.mpr h
  have h0 : 0 ≤ (t - a.timeSec) / (b.timeSec - a.timeSec) := div_nonneg (sub_nonneg.mpr h1) hpos.le
  have hle : (t - a.timeSec) / (b.timeSec - a.timeSec) ≤ 1 := (div_le_one hpos).mpr (sub_le_sub_right h2 _)
  unfold fraction clamp
  rw [if_neg (not_lt.mpr h0), if_neg (not_lt.mpr hle)]

omit [FloorSemiring K] in
/-- A bound is read off the pair around the time. -/
theorem boundAt_pair {pre post : List (Knot K)} {a b : Knot K} {t : K}
    (hinc : (pre ++ a :: b :: post).IsChain fun p q => p.timeSec < q.timeSec) (h1 : a.timeSec ≤ t)
    (h2 : t ≤ b.timeSec) :
    boundAt (pre ++ a :: b :: post) t = chord a.upperVelocityMS b.upperVelocityMS (fraction a b t) := by
  rcases segmentAt_pair hinc h1 h2 with h | ⟨c, -, h, hca, rfl⟩
  · rw [boundAt, h]
  · simp only [boundAt, h, fraction_end hca, fraction_start, chord]
    ring

omit [FloorSemiring K] in
theorem floorOf_pair {pre post : List (Knot K)} {a b : Knot K} {t x y : K}
    (hinc : (pre ++ a :: b :: post).IsChain fun p q => p.timeSec < q.timeSec)
    (hfin : ∀ k ∈ pre, ∃ z, k.lowerVelocityMS = .fin z) (ha : a.lowerVelocityMS = .fin x)
    (hb : b.lowerVelocityMS = .fin y) (h1 : a.timeSec ≤ t) (h2 : t ≤ b.timeSec) :
    floorOf (pre ++ a :: b :: post) t = .fin (chord x y (fraction a b t)) := by
  rcases segmentAt_pair hinc h1 h2 with h | ⟨c, hc, h, hca, rfl⟩
  · simp only [floorOf, h, ha, hb]
  · obtain ⟨z, hz⟩ := hfin c hc
    simp only [floorOf, h, hz, ha, fraction_end hca, fraction_start, chord, Extended.fin.injEq]
    ring

/-! ## One servo interval -/

omit [FloorSemiring K] in
/-- The bounds of an interval hold on all of it. -/
theorem intervalBounds_hold {g slack v a j dt s : K} (hg : 0 ≤ g) (hslack : 0 ≤ slack) (hdt : 0 < dt)
    (hs : 0 ≤ s) (hsdt : s ≤ dt) : 0 ≤ (intervalBounds g slack v a j dt).1 ∧
      (intervalBounds g slack v a j dt).2 ≤ quad v a j s ∧
      (intervalBounds g slack v a j dt).2 ≤ g * quad v a j s ∧
      g * quad v a j s ≤ (intervalBounds g slack v a j dt).1 := by
  set c0 := control0 v with hc0
  set c1 := control1 v a dt with hc1
  set c2 := control2 v a j dt with hc2
  set hi := max (max c0 c1) c2 with hhi
  set lo := min (min c0 c1) c2 with hlo
  have e : intervalBounds g slack v a j dt = (g * max 0 hi, min (g * lo) lo - slack) := rfl
  have hup : quad v a j s ≤ hi := quad_le_of_controls hdt
    ((le_max_left c0 c1).trans (le_max_left _ c2)) ((le_max_right c0 c1).trans (le_max_left _ c2))
    (le_max_right _ c2) hs hsdt
  have hdown : lo ≤ quad v a j s := le_quad_of_controls hdt
    ((min_le_left _ c2).trans (min_le_left c0 c1)) ((min_le_left _ c2).trans (min_le_right c0 c1))
    (min_le_right _ c2) hs hsdt
  rw [e]
  refine ⟨mul_nonneg hg (le_max_left 0 hi), ?_, ?_, ?_⟩
  · have hm := min_le_right (g * lo) lo
    linarith
  · have hm := min_le_left (g * lo) lo
    have hl := mul_le_mul_of_nonneg_left hdown hg
    linarith
  · exact mul_le_mul_of_nonneg_left (hup.trans (le_max_right 0 hi)) hg

/-! ## The path on a segment -/

variable (sp : MotionSpace K G) (n : Vec3 K) (path : PreviewPolynomialTrajectory K G)

/-- The closing velocity of a path along a normal. -/
def closingVelocity (t : K) : K := ((path.sample sp t).map fun x => dot n x.linearVelocity).getD 0

/-- What `sample` asks of a path. -/
structure Sampled : Prop where
  valid : path.valid = true
  one_le_count : 1 ≤ path.count
  count_le : path.count ≤ kMaxHorizonSteps
  stepSec_pos : 0 < path.stepSec

omit [FloorSemiring K] [IsStrictOrderedRing K] [LinearOrder K] in
theorem dot_quadraticAt (v a j : Vec3 K) (s : K) :
    dot n (quadraticAt v a j s) = quad (dot n v) (dot n a) (dot n j) s := by
  simp only [dot, quadraticAt, quad, Pi.add_apply, Pi.smul_apply, smul_eq_mul]
  ring

omit [FloorSemiring K] [IsStrictOrderedRing K] [LinearOrder K] in
theorem dot_slope (a j : Vec3 K) (s : K) : dot n (a + s • j) = slopeAt (dot n a) (dot n j) s := by
  simp only [dot, slopeAt, Pi.add_apply, Pi.smul_apply, smul_eq_mul]
  ring

variable {sp n path} {segment : ℕ} {t : K} {x : PreviewMotionState K G}

omit [IsStrictOrderedRing K] in
theorem sampled_of_sample (h : path.sample sp t = some x) : Sampled path := by
  unfold PreviewPolynomialTrajectory.sample at h
  split at h
  · next hc => exact ⟨hc.1, hc.2.1, hc.2.2.1, hc.2.2.2.1⟩
  · exact absurd h (by simp)

omit [Group G] in
/-- The row that `sample` reads: the segment of the time, the last one at the end. -/
theorem row_eq (hp : Sampled path) (hseg : segment < path.count) (h1 : segment * path.stepSec ≤ t)
    (h2 : t < (segment + 1 : ℕ) * path.stepSec ∨
      t = (segment + 1 : ℕ) * path.stepSec ∧ segment + 1 = path.count) :
    min ⌊t / path.stepSec⌋₊ (path.count - 1) = segment := by
  have hpos := hp.stepSec_pos
  rcases h2 with hlt | ⟨rfl, hlast⟩
  · have hfloor : ⌊t / path.stepSec⌋₊ = segment := by
      have hq1 : (segment : K) ≤ t / path.stepSec := (le_div_iff₀ hpos).mpr h1
      have hq2 : t / path.stepSec < (segment : K) + 1 := by
        rw [div_lt_iff₀ hpos]
        simpa using hlt
      exact (Nat.floor_eq_iff ((Nat.cast_nonneg segment).trans hq1)).mpr ⟨hq1, hq2⟩
    rw [hfloor]
    omega
  · rw [mul_div_cancel_right₀ _ hpos.ne', Nat.floor_natCast]
    omega

variable (sp) in
/-- On a segment the closing velocity is the quadratic of its row. -/
theorem sample_on_segment (hp : Sampled path) (hseg : segment < path.count)
    (h1 : segment * path.stepSec ≤ t) (h2 : t < (segment + 1 : ℕ) * path.stepSec ∨
      t = (segment + 1 : ℕ) * path.stepSec ∧ segment + 1 = path.count) :
    ∃ x, path.sample sp t = some x ∧
      dot n x.linearVelocity = quad (dot n (path.v segment).linear) (dot n (path.a segment).linear)
        (dot n (path.jerk segment).linear) (t - segment * path.stepSec) ∧
      dot n x.linearAcceleration = slopeAt (dot n (path.a segment).linear)
        (dot n (path.jerk segment).linear) (t - segment * path.stepSec) := by
  have hpos := hp.stepSec_pos
  have ht0 : 0 ≤ t := (mul_nonneg (Nat.cast_nonneg segment) hpos.le).trans h1
  have hle : t ≤ (segment + 1 : ℕ) * path.stepSec := by
    rcases h2 with h | ⟨h, -⟩
    · exact h.le
    · exact h.le
  have hend : t ≤ path.count * path.stepSec :=
    hle.trans (mul_le_mul_of_nonneg_right (Nat.cast_le.mpr hseg) hpos.le)
  have hrow := row_eq hp hseg h1 h2
  unfold PreviewPolynomialTrajectory.sample
  rw [if_pos ⟨hp.valid, hp.one_le_count, hp.count_le, hpos, ht0, hend⟩]
  exact ⟨_, rfl, by simp only [hrow, dot_quadraticAt], by simp only [hrow, dot_slope]⟩

/-- From a sample of a segment on, the closing velocity is the quadratic of that sample. -/
theorem closingVelocity_from (hp : Sampled path) (hseg : segment < path.count) {a : K}
    (h1 : segment * path.stepSec ≤ a) (ha : a < (segment + 1 : ℕ) * path.stepSec)
    (hx : path.sample sp a = some x) (hat : a ≤ t) (h2 : t < (segment + 1 : ℕ) * path.stepSec ∨
      t = (segment + 1 : ℕ) * path.stepSec ∧ segment + 1 = path.count) :
    closingVelocity sp n path t = quad (dot n x.linearVelocity) (dot n x.linearAcceleration)
      (dot n (path.jerk segment).linear) (t - a) := by
  obtain ⟨x', hx', hv, hacc⟩ := sample_on_segment sp (n := n) hp hseg h1 (Or.inl ha)
  obtain rfl : x' = x := Option.some.inj (hx'.symm.trans hx)
  obtain ⟨y, hy, hvy, -⟩ := sample_on_segment sp (n := n) hp hseg (h1.trans hat) h2
  have hsum : t - segment * path.stepSec = (a - segment * path.stepSec) + (t - a) := by ring
  rw [closingVelocity, hy, Option.map_some, Option.getD_some, hvy, hsum, quad_add, ← hv, ← hacc]

/-! ## The tube of a pair of knots -/

/-- A finite lower velocity that is not above `x`. -/
def Extended.AtMost (e : Extended K) (x : K) : Prop := ∃ y, e = .fin y ∧ y ≤ x

omit [Field K] [IsStrictOrderedRing K] [FloorSemiring K] in
theorem Extended.AtMost.min {e : Extended K} {x : K} (h : e.AtMost x) (y : K) :
    (Extended.min e (.fin y)).AtMost x := by
  obtain ⟨z, rfl, hz⟩ := h
  by_cases hlt : y < z
  · exact ⟨y, by simp [Extended.min, Extended.lt, hlt], hlt.le.trans hz⟩
  · exact ⟨z, by simp [Extended.min, Extended.lt, hlt], hz⟩

/-- The two knots cover a ceiling and a floor of the interval from `p` to `q`; the end of the interval
belongs to it at the end of the horizon only, elsewhere to the next one. -/
structure Tube (v : K → K) (g stop : K) (p q : Knot K) : Prop where
  lt : p.timeSec < q.timeSec
  bounds : ∃ hi lo, 0 ≤ hi ∧ hi ≤ p.upperVelocityMS ∧ hi ≤ q.upperVelocityMS ∧
    p.lowerVelocityMS.AtMost lo ∧ q.lowerVelocityMS.AtMost lo ∧
    ∀ t, p.timeSec ≤ t → t ≤ q.timeSec → (t = q.timeSec → t = stop) →
      lo ≤ v t ∧ lo ≤ g * v t ∧ g * v t ≤ hi

variable {v : K → K} {g stop : K}

omit [FloorSemiring K] [IsStrictOrderedRing K] in
/-- Widening the later knot keeps the tube. -/
theorem Tube.widen {p q : Knot K} (h : Tube v g stop p q) (bounds : K × K) :
    Tube v g stop p (RbServo.widen bounds q) where
  lt := h.lt
  bounds := by
    obtain ⟨hi, lo, h0, hp, hq, hlp, hlq, hcov⟩ := h.bounds
    exact ⟨hi, lo, h0, hp, hq.trans (le_max_left _ bounds.1), hlp, hlq.min bounds.2, hcov⟩

/-- What the knots built up to `time` are: each pair is a tube, and the first knot stands at zero,
without a floor while it is alone. -/
structure Covered (v : K → K) (g stop time : K) (b : Built K) : Prop where
  last_time : b.last.timeSec = time
  chain : (b.last :: b.older).IsChain fun q p => Tube v g stop p q
  first : (b.last :: b.older).getLast?.map Knot.timeSec = some 0
  alone : b.older = [] → b.last.lowerVelocityMS = .posInf
  floored : b.older ≠ [] → ∃ y, b.last.lowerVelocityMS = .fin y

omit [Field K] [IsStrictOrderedRing K] [FloorSemiring K] in
/-- The lower velocity of a widened knot: finite, and not above the new floor. -/
theorem atMost_of_widened {e : Extended K} (h : e = .posInf ∨ ∃ y, e = .fin y) (lo : K) :
    (Extended.min e (.fin lo)).AtMost lo := by
  rcases h with rfl | ⟨y, rfl⟩
  · exact ⟨lo, by simp [Extended.min, Extended.lt], le_rfl⟩
  · by_cases hlt : lo < y
    · exact ⟨lo, by simp [Extended.min, Extended.lt, hlt], le_rfl⟩
    · exact ⟨y, by simp [Extended.min, Extended.lt, hlt], not_lt.mp hlt⟩

omit [FloorSemiring K] [IsStrictOrderedRing K] in
/-- **One interval.**  Closing an interval with bounds that hold on it. -/
theorem Covered.close {b : Built K} {time next : K} {bounds : K × K}
    (h : Covered v g stop time b) (hlt : time < next) (h0 : 0 ≤ bounds.1)
    (hb : ∀ t, time ≤ t → t ≤ next → (t = next → t = stop) →
      bounds.2 ≤ v t ∧ bounds.2 ≤ g * v t ∧ g * v t ≤ bounds.1) :
    Covered v g stop next (b.close next bounds) := by
  have hlower : b.last.lowerVelocityMS = .posInf ∨ ∃ y, b.last.lowerVelocityMS = .fin y := by
    by_cases he : b.older = []
    · exact Or.inl (h.alone he)
    · exact Or.inr (h.floored he)
  have htube : Tube v g stop (widen bounds b.last) ⟨next, bounds.1, .fin bounds.2⟩ := by
    refine ⟨h.last_time.trans_lt hlt, bounds.1, bounds.2, h0, le_max_right _ _, le_rfl,
      atMost_of_widened hlower bounds.2, ⟨bounds.2, rfl, le_rfl⟩, fun t h1 h2 h3 => ?_⟩
    exact hb t (h.last_time.symm.trans_le h1) h2 h3
  refine ⟨rfl, List.isChain_cons_cons.mpr ⟨htube, ?_⟩, ?_, fun he => absurd he (List.cons_ne_nil _ _),
    fun _ => ⟨bounds.2, rfl⟩⟩
  · have hchain := h.chain
    cases hold : b.older with
    | nil => exact List.isChain_singleton _
    | cons p rest =>
      rw [hold, List.isChain_cons_cons] at hchain
      exact List.isChain_cons_cons.mpr ⟨hchain.1.widen bounds, hchain.2⟩
  · have hfirst := h.first
    rw [Built.close]
    cases hold : b.older with
    | nil => simpa [hold, widen] using hfirst
    | cons p rest =>
      simp only [hold, List.getLast?_cons_cons] at hfirst ⊢
      exact hfirst

/-! ## The loops -/

variable {slack period : K}

/-- The bounds of an interval of a segment hold of the closing velocity. -/
theorem bounds_on_segment (hg : 0 ≤ g) (hslack : 0 ≤ slack) (hp : Sampled path)
    (hseg : segment < path.count) {a next : K} (h1 : segment * path.stepSec ≤ a) (hlt : a < next)
    (hnext : next ≤ (segment + 1 : ℕ) * path.stepSec) (hx : path.sample sp a = some x) (h2 : a ≤ t)
    (h3 : t ≤ next) (h4 : t = next → t = path.durationSec) :
    let bounds := intervalBounds g slack (dot n x.linearVelocity) (dot n x.linearAcceleration)
      (dot n (path.jerk segment).linear) (next - a)
    bounds.2 ≤ closingVelocity sp n path t ∧ bounds.2 ≤ g * closingVelocity sp n path t ∧
      g * closingVelocity sp n path t ≤ bounds.1 := by
  intro bounds
  have hend : t < (segment + 1 : ℕ) * path.stepSec ∨
      t = (segment + 1 : ℕ) * path.stepSec ∧ segment + 1 = path.count := by
    rcases lt_or_eq_of_le (h3.trans hnext) with h | h
    · exact Or.inl h
    · have hlast : t = path.count * path.stepSec := h4 (le_antisymm h3 (hnext.trans h.ge))
      have hcast := mul_right_cancel₀ hp.stepSec_pos.ne' (h.symm.trans hlast)
      exact Or.inr ⟨h, Nat.cast_injective hcast⟩
  have hv := closingVelocity_from (n := n) hp hseg h1 (hlt.trans_le hnext) hx h2 hend
  have hb := intervalBounds_hold (v := dot n x.linearVelocity) (a := dot n x.linearAcceleration)
    (j := dot n (path.jerk segment).linear) hg hslack (sub_pos.mpr hlt) (sub_nonneg.mpr h2)
    (sub_le_sub_right h3 a)
  rw [hv]
  exact hb.2

/-- What an interval of a segment is closed with: a time before the end of the segment, a sample, and
the bounds from it. -/
structure Closes (sp : MotionSpace K G) (n : Vec3 K) (path : PreviewPolynomialTrajectory K G)
    (g period slack : K) (segment : ℕ) (a : K) (x : PreviewMotionState K G) (b b' : Built K) : Prop where
  segment_lt : segment < path.count
  start_le : segment * path.stepSec ≤ a
  lt_next : a < min (a + period) ((segment + 1 : ℕ) * path.stepSec)
  sample : path.sample sp a = some x
  eq : b' = b.close (min (a + period) ((segment + 1 : ℕ) * path.stepSec))
    (intervalBounds g slack (dot n x.linearVelocity) (dot n x.linearAcceleration)
      (dot n (path.jerk segment).linear) (min (a + period) ((segment + 1 : ℕ) * path.stepSec) - a))

variable {P : K → Built K → Prop}

omit [IsStrictOrderedRing K] in
/-- **One segment.**  What closing an interval keeps holds at the end of the segment: induction on the
knots that still fit. -/
theorem fillSegment_rule (hP : ∀ {a x b b'}, P a b → Closes sp n path g period slack segment a x b b' →
      P (min (a + period) ((segment + 1 : ℕ) * path.stepSec)) b')
    (hseg : segment < path.count) {room room' : ℕ} {a : K} {b b' : Built K}
    (h1 : segment * path.stepSec ≤ a) (h2 : a ≤ (segment + 1 : ℕ) * path.stepSec) (hb : P a b)
    (h : fillSegment sp n path g period slack segment ((segment + 1 : ℕ) * path.stepSec) room a b =
      some (room', b')) : P ((segment + 1 : ℕ) * path.stepSec) b' := by
  induction room generalizing a b with
  | zero =>
    rw [fillSegment] at h
    split at h
    · exact absurd h (by simp)
    · next hdone =>
      obtain ⟨-, rfl⟩ := Prod.mk.inj (Option.some.inj h)
      rwa [← le_antisymm h2 (not_lt.mp hdone)]
  | succ room ih =>
    rw [fillSegment] at h
    split at h
    · by_cases hlt : a < min (a + period) ((segment + 1 : ℕ) * path.stepSec)
      · rw [if_pos hlt] at h
        cases hx : path.sample sp a with
        | none => simp [hx] at h
        | some x =>
          simp only [hx] at h
          exact ih (h1.trans hlt.le) (min_le_right _ _) (hP hb ⟨hseg, h1, hlt, hx, rfl⟩) h
      · rw [if_neg hlt] at h
        exact absurd h (by simp)
    · next hdone =>
      obtain ⟨-, rfl⟩ := Prod.mk.inj (Option.some.inj h)
      rwa [← le_antisymm h2 (not_lt.mp hdone)]

/-- **All segments.** -/
theorem segments_rule (hP : ∀ {segment a x b b'}, P a b → Closes sp n path g period slack segment a x b b' →
      P (min (a + period) ((segment + 1 : ℕ) * path.stepSec)) b')
    (hstep : 0 < path.stepSec) {st st' : ℕ × Built K} {m : ℕ} (hm : m ≤ path.count) (hst : P 0 st.2)
    (h : (List.range m).foldlM (fun (st : ℕ × Built K) segment =>
      fillSegment sp n path g period slack segment ((segment + 1 : ℕ) * path.stepSec) st.1
        (segment * path.stepSec) st.2) st = some st') : P (m * path.stepSec) st'.2 := by
  induction m generalizing st' with
  | zero =>
    obtain rfl := Option.some.inj h
    simpa using hst
  | succ m ih =>
    rw [List.range_succ, List.foldlM_append] at h
    obtain ⟨mid, hmid, hlast⟩ := Option.bind_eq_some_iff.mp h
    rw [List.foldlM_cons] at hlast
    obtain ⟨st'', hfill, hnil⟩ := Option.bind_eq_some_iff.mp hlast
    obtain rfl := Option.some.inj hnil
    have hle : (m : K) * path.stepSec ≤ (m + 1 : ℕ) * path.stepSec :=
      mul_le_mul_of_nonneg_right (Nat.cast_le.mpr m.le_succ) hstep.le
    exact fillSegment_rule hP (Nat.lt_of_succ_le hm) le_rfl hle (ih (Nat.le_of_succ_le hm) hmid) hfill

/-- A closed interval keeps the knots covered. -/
theorem covered_closes (hg : 0 ≤ g) (hslack : 0 ≤ slack) {a : K} {b b' : Built K}
    (hb : Covered (closingVelocity sp n path) g path.durationSec a b)
    (hc : Closes sp n path g period slack segment a x b b') :
    Covered (closingVelocity sp n path) g path.durationSec
      (min (a + period) ((segment + 1 : ℕ) * path.stepSec)) b' := by
  rw [hc.eq]
  refine hb.close hc.lt_next ?_ ?_
  · exact (intervalBounds_hold hg hslack (sub_pos.mpr hc.lt_next) le_rfl (sub_pos.mpr hc.lt_next).le).1
  · exact fun t => bounds_on_segment hg hslack (sampled_of_sample hc.sample) hc.segment_lt hc.start_le hc.lt_next
      (min_le_right _ _) hc.sample

omit [IsStrictOrderedRing K] in
theorem sample_isSome (hp : Sampled path) (h0 : 0 ≤ t) (h1 : t ≤ path.durationSec) :
    (path.sample sp t).isSome := by
  unfold PreviewPolynomialTrajectory.sample
  rw [if_pos ⟨hp.valid, hp.one_le_count, hp.count_le, hp.stepSec_pos, h0, h1⟩]
  rfl

/-! ## Reading the envelope -/

omit [FloorSemiring K] in
/-- **Between two knots.**  The interpolation lies above the ceiling and below the floor. -/
theorem Tube.reads {knots : List (Knot K)} {p q : Knot K} (h : Tube v g stop p q)
    (hs : segmentAt knots t = some (p, q)) (h1 : p.timeSec ≤ t) (h2 : t ≤ q.timeSec)
    (h3 : t = q.timeSec → t = stop) : ∃ lo, floorOf knots t = .fin lo ∧ lo ≤ v t ∧ lo ≤ g * v t ∧
      g * v t ≤ boundAt knots t ∧ 0 ≤ boundAt knots t := by
  obtain ⟨hi, lo, h0, hp, hq, ⟨x, hx, hxlo⟩, ⟨y, hy, hylo⟩, hcov⟩ := h.bounds
  obtain ⟨hv, hgv, hgvhi⟩ := hcov t h1 h2 h3
  obtain ⟨hu, hu1⟩ := fraction_mem p q t
  have hlow : chord x y (fraction p q t) ≤ lo := chord_le hxlo hylo hu hu1
  have hup : hi ≤ chord p.upperVelocityMS q.upperVelocityMS (fraction p q t) := le_chord hp hq hu hu1
  have hb : boundAt knots t = chord p.upperVelocityMS q.upperVelocityMS (fraction p q t) := by
    rw [boundAt, hs]
  exact ⟨_, by simp only [floorOf, hs, hx, hy], hlow.trans hv, hlow.trans hgv, hb ▸ hgvhi.trans hup,
    hb ▸ h0.trans hup⟩

omit [FloorSemiring K] in
/-- **At a knot.**  The interpolation takes its values, which the next pair vouches for. -/
theorem Tube.reads_knot {knots : List (Knot K)} {p q r : Knot K} (h : Tube v g stop p q)
    (hn : Tube v g stop q r) (hs : segmentAt knots q.timeSec = some (p, q)) :
    ∃ lo, floorOf knots q.timeSec = .fin lo ∧ lo ≤ v q.timeSec ∧ lo ≤ g * v q.timeSec ∧
      g * v q.timeSec ≤ boundAt knots q.timeSec ∧ 0 ≤ boundAt knots q.timeSec := by
  obtain ⟨-, -, -, -, -, ⟨x, hx, -⟩, -, -⟩ := h.bounds
  obtain ⟨hi, lo, h0, hq, -, ⟨y, hy, hylo⟩, -, hcov⟩ := hn.bounds
  obtain ⟨hv, hgv, hgvhi⟩ := hcov q.timeSec le_rfl hn.lt.le fun he => absurd he hn.lt.ne
  have hone := fraction_end h.lt
  have hlow : chord x y (fraction p q q.timeSec) = y := by rw [hone, chord]; ring
  have hb : boundAt knots q.timeSec = q.upperVelocityMS := by
    simp only [boundAt, hs, hone, chord]
    ring
  refine ⟨y, ?_, hylo.trans hv, hylo.trans hgv, hb ▸ hgvhi.trans hq, hb ▸ h0.trans hq⟩
  rw [floorOf, hs]
  simp only [hx, hy, hlow]

omit [FloorSemiring K] [IsStrictOrderedRing K] in
/-- Each knot of a tube has its floor under its ceiling. -/
theorem Tube.ordered {p q : Knot K} (h : Tube v g stop p q) :
    p.lowerVelocityMS.AtMost p.upperVelocityMS ∧ q.lowerVelocityMS.AtMost q.upperVelocityMS := by
  obtain ⟨hi, lo, -, hp, hq, ⟨x, hx, hxlo⟩, ⟨y, hy, hylo⟩, hcov⟩ := h.bounds
  obtain ⟨-, hgv, hgvhi⟩ := hcov p.timeSec le_rfl h.lt.le fun he => absurd he h.lt.ne
  have hlohi : lo ≤ hi := hgv.trans hgvhi
  exact ⟨⟨x, hx, hxlo.trans (hlohi.trans hp)⟩, ⟨y, hy, hylo.trans (hlohi.trans hq)⟩⟩

omit [FloorSemiring K] [IsStrictOrderedRing K] in
theorem ordered_of_chain {p q : Knot K} {rest : List (Knot K)}
    (h : (p :: q :: rest).IsChain (Tube v g stop)) :
    ∀ k ∈ p :: q :: rest, k.lowerVelocityMS.AtMost k.upperVelocityMS := by
  induction rest generalizing p q with
  | nil =>
    have hpq := (List.isChain_cons_cons.mp h).1.ordered
    intro k hk
    simp only [List.mem_cons, List.not_mem_nil, or_false] at hk
    rcases hk with rfl | rfl
    · exact hpq.1
    · exact hpq.2
  | cons r rest ih =>
    obtain ⟨hpq, hrest⟩ := List.isChain_cons_cons.mp h
    intro k hk
    rcases List.mem_cons.mp hk with rfl | hk
    · exact hpq.ordered.1
    · exact ih hrest k hk

/-! ## The certificate -/

/-- What an envelope promises of a closing velocity `v` scaled by `g`, up to the time `stop`. -/
structure Certified (v : K → K) (g stop : K) (knots : List (Knot K)) : Prop where
  starts : knots.head?.map Knot.timeSec = some 0
  ends : knots.getLast?.map Knot.timeSec = some stop
  increasing : (knots.map Knot.timeSec).Pairwise (· < ·)
  ordered : ∀ k ∈ knots, k.lowerVelocityMS.AtMost k.upperVelocityMS
  tube : ∀ t, 0 ≤ t → t ≤ stop → ∃ lo, floorOf knots t = .fin lo ∧ lo ≤ v t ∧ lo ≤ g * v t ∧
    g * v t ≤ boundAt knots t ∧ 0 ≤ boundAt knots t

omit [FloorSemiring K] in
/-- A chain of tubes from zero to `stop`. -/
theorem certified_of_chain {p q : Knot K} {rest : List (Knot K)}
    (h : (p :: q :: rest).IsChain (Tube v g stop)) (h0 : p.timeSec = 0)
    (hstop : (p :: q :: rest).getLast?.map Knot.timeSec = some stop) :
    Certified v g stop (p :: q :: rest) where
  starts := by simp [h0]
  ends := hstop
  increasing := by
    have hlt : (p :: q :: rest).IsChain fun a b => a.timeSec < b.timeSec := h.imp fun _ _ ht => ht.lt
    exact ((List.isChain_map Knot.timeSec).mpr hlt).pairwise
  ordered := ordered_of_chain h
  tube := by
    intro t ht0 htstop
    obtain ⟨pre, a, b, post, he, hab, hat, htb⟩ :=
      segmentAt_around (by simp) (by simp [h0]) hstop ht0 htstop
    have hchain := h
    rw [he, List.isChain_append] at hchain
    obtain ⟨htube, hnext⟩ := List.isChain_cons_cons.mp hchain.2.1
    cases post with
    | nil =>
      have hb : b.timeSec = stop := by simpa [he] using hstop
      exact htube.reads hab hat htb fun heq => heq.trans hb
    | cons c post =>
      rcases lt_or_eq_of_le htb with hlt | rfl
      · exact htube.reads hab hat htb fun heq => absurd heq hlt.ne
      · exact htube.reads_knot (List.isChain_cons_cons.mp hnext).1 hab

omit [FloorSemiring K] [IsStrictOrderedRing K] in
/-- A finite floor at the first knot: at least one interval has been closed. -/
theorem older_ne_nil {time : K} {b : Built K} (hc : Covered v g stop time b)
    (hfin : (b.knots.head?.map fun k => k.lowerVelocityMS.isFinite) = some true) : b.older ≠ [] := by
  intro he
  have hinf := hc.alone he
  simp [Built.knots, he, hinf, Extended.isFinite] at hfin

omit [FloorSemiring K] in
/-- The knots of a finished run. -/
theorem certified_of_covered {b : Built K} (hc : Covered v g stop stop b) (hne : b.older ≠ []) :
    Certified v g stop b.knots := by
  have hchain : b.knots.IsChain (Tube v g stop) := by
    rw [Built.knots, List.isChain_reverse]
    exact hc.chain
  have hfirst : b.knots.head?.map Knot.timeSec = some 0 := by
    rw [Built.knots, List.head?_reverse]
    exact hc.first
  have hlast : b.knots.getLast?.map Knot.timeSec = some stop := by
    rw [Built.knots, List.getLast?_reverse]
    simp [hc.last_time]
  obtain ⟨p, q, rest, hk⟩ : ∃ p q rest, b.knots = p :: q :: rest := by
    refine exists_two ?_
    have hpos := List.length_pos_of_ne_nil hne
    simp only [Built.knots, List.length_reverse, List.length_cons]
    omega
  rw [hk] at hchain hfirst hlast ⊢
  exact certified_of_chain hchain (by simpa using hfirst) hlast

omit [IsStrictOrderedRing K] in
/-- **A build that succeeds** has run the loops with arguments in range, and kept the constraint. -/
theorem buildContactEnvelope_spec {contact : PreviewContactConstraint K} {c : Envelope K}
    (h : buildContactEnvelope sp contact path (some g) period (some slack) = some c) :
    0 ≤ g ∧ g ≤ 1 ∧ 0 < period ∧ 0 ≤ slack ∧ 0 < path.stepSec ∧ c.enabled = true ∧
      c.normalStand = contact.normalStand ∧ ∃ st : ℕ × Built K,
        (List.range path.count).foldlM (fun (st : ℕ × Built K) segment =>
          fillSegment sp contact.normalStand path g period slack segment ((segment + 1 : ℕ) * path.stepSec) st.1
            (segment * path.stepSec) st.2) (PreviewContactConstraint.kCapacity - 1, ⟨⟨0, 0, .posInf⟩, []⟩) = some st ∧
        c.knots = st.2.knots ∧ (c.knots.head?.map fun k => k.lowerVelocityMS.isFinite) = some true := by
  unfold buildContactEnvelope at h
  simp only at h
  split at h
  · exact absurd h (by simp)
  · next hguard =>
    push Not at hguard
    obtain ⟨hen, hg, hg1, hperiod, hslack, -, hstep⟩ := hguard
    split at h
    · exact absurd h (by simp)
    · next room built hfold =>
      split at h
      · next hfin =>
        obtain rfl := Option.some.inj h
        exact ⟨hg, hg1, hperiod, hslack, hstep, by simpa using hen, rfl, (room, built), hfold, rfl, hfin⟩
      · exact absurd h (by simp)

/-- **The envelope is certified between its samples.**  Whenever a build succeeds, the path has a
sample at every time of its horizon; the knots run strictly from zero to its end, with floor under
ceiling; and at every time their interpolation bounds the scaled closing velocity from both sides,
the floor also the unscaled one. -/
theorem buildContactEnvelope_certified {contact : PreviewContactConstraint K} {c : Envelope K}
    (h : buildContactEnvelope sp contact path (some g) period (some slack) = some c) :
    (∀ t, 0 ≤ t → t ≤ path.durationSec → (path.sample sp t).isSome) ∧
      Certified (closingVelocity sp contact.normalStand path) g path.durationSec c.knots := by
  obtain ⟨hg, -, -, hslack, hstep, -, -, st, hfold, hknots, hfin⟩ := buildContactEnvelope_spec h
  have hstart : Covered (closingVelocity sp contact.normalStand path) g path.durationSec 0
      (⟨⟨0, 0, .posInf⟩, []⟩ : Built K) :=
    ⟨rfl, List.isChain_singleton _, rfl, fun _ => rfl, fun he => absurd rfl he⟩
  have hcovered := segments_rule (covered_closes hg hslack) hstep le_rfl hstart hfold
  have hsampled : st.2.older ≠ [] → Sampled path :=
    segments_rule (P := fun _ b => b.older ≠ [] → Sampled path)
      (fun _ hc _ => sampled_of_sample hc.sample) hstep le_rfl (fun hne => absurd rfl hne) hfold
  rw [hknots] at hfin ⊢
  have hne := older_ne_nil hcovered hfin
  exact ⟨fun t => sample_isSome (hsampled hne), certified_of_covered hcovered hne⟩

end Envelope

/-! ## A path that starts to brake -/

theorem point_slerp (g a _b : Unit) (_u : ℚ) : g * a = g * a := rfl

/-- The frame of points on a line. -/
def pointMotion : MotionSpace ℚ Unit where
  sqrt x := x
  exp3 _ := 1
  log3 _ := 0
  rotate := 1
  slerp a _ _ := a
  slerp_mul := point_slerp
  angularKinematics _ v a := (v, a)

/-- Along the first axis: an acceleration of one, then a jerk that undoes it. -/
def brakingPath : PreviewPolynomialTrajectory ℚ Unit where
  p _ := ⟨0, 0⟩
  v k := if k = 0 then ⟨0, 0⟩ else ⟨![1 / 10, 0, 0], 0⟩
  a _ := ⟨![1, 0, 0], 0⟩
  jerk k := if k = 0 then ⟨0, 0⟩ else ⟨![-20, 0, 0], 0⟩
  rotation0 := 1
  stepSec := 1 / 10
  count := 2
  valid := true

/-- Half of its closing velocity, on a grid that does not divide the step. -/
theorem buildContactEnvelope_certified_sample : ∃ c,
    buildContactEnvelope pointMotion ⟨true, ![1, 0, 0]⟩ brakingPath (some (1 / 2)) (3 / 50)
      (some (1 / 100)) = some c ∧ c.knots.length = 5 ∧
    ((∀ t, 0 ≤ t → t ≤ brakingPath.durationSec → (brakingPath.sample pointMotion t).isSome) ∧
      Certified (closingVelocity pointMotion ![1, 0, 0] brakingPath) (1 / 2) brakingPath.durationSec
        c.knots) := by
  have hlen : (buildContactEnvelope pointMotion ⟨true, ![1, 0, 0]⟩ brakingPath (some (1 / 2)) (3 / 50)
      (some (1 / 100))).map (fun c => c.knots.length) = some 5 := by decide +kernel
  obtain ⟨c, hc, hk⟩ := Option.map_eq_some_iff.mp hlen
  exact ⟨c, hc, hk, buildContactEnvelope_certified hc⟩

end RbServo
