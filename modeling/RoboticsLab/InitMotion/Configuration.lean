import RoboticsLab.Control.SafetyFilter
import Mathlib.Algebra.BigOperators.Fin
import Mathlib.Algebra.Order.BigOperators.Ring.Finset
import Mathlib.Algebra.Order.Floor.Semiring
import Mathlib.Data.List.Chain
import Mathlib.Tactic.FieldSimp
import Mathlib.Tactic.Ring

/-!
# `rb_servo/control/init_motion_planner.cpp`: configurations and segments

The planner works on the twelve joints of both arms at once.  A segment `from → to` is cut into `n`
equal pieces, and `samples from to n` are their far ends: `edgeClear` asks the oracle about them,
`densify` emits them.

    sampled backwards, a segment has the same samples but for its ends   (mem_samples_swap)
    consecutive points of a densified path are `max_segment_deg` apart   (densify_isChain)
-/

namespace RbServo.InitMotion

def kCombined : ℕ := 2 * kDof

/-- Left arm, then right arm. -/
abbrev Config (K : Type*) := Fin kCombined → K

abbrev ActiveMask := Fin kCombined → Bool

/-- The joint of an arm that a combined index names, `k % kDof`. -/
def armJoint (k : Fin kCombined) : Fin kDof := ⟨k.val % kDof, Nat.mod_lt _ (by decide)⟩

def join {α : Type*} (l r : Fin kDof → α) : Fin kCombined → α := fun k =>
  if k.val < kDof then l (armJoint k) else r (armJoint k)

def split {α : Type*} (c : Fin kCombined → α) : (Fin kDof → α) × (Fin kDof → α) :=
  (fun i => c ⟨i.val, i.isLt.trans (by decide)⟩, fun i => c ⟨kDof + i.val, Nat.add_lt_add_left i.isLt kDof⟩)

def makeActiveMask (leftActive rightActive : Bool) : ActiveMask := fun k =>
  if k.val < kDof then leftActive else rightActive

theorem split_join {α : Type*} (l r : Fin kDof → α) : split (join l r) = (l, r) := by
  refine Prod.ext (funext fun i => ?_) (funext fun i => ?_)
  · have hi : i.val < kDof := i.isLt
    simp only [split, join, hi, if_true, armJoint, Nat.mod_eq_of_lt hi]
  · have hi : ¬ kDof + i.val < kDof := by omega
    simp only [split, join, hi, if_false, armJoint, Nat.add_mod_left, Nat.mod_eq_of_lt i.isLt]

section

variable {K : Type*} [Field K] [LinearOrder K] [FloorSemiring K] (sqrt : K → K)

def kRadToDeg : K := (5729577951308232 : ℕ) / 10 ^ 14

def dist2 (a b : Config K) : K := ∑ i, (a i - b i) * (a i - b i)

def dist (a b : Config K) : K := sqrt (dist2 a b)

def maxActiveAbsDiff (a b : Config K) (active : ActiveMask) : K :=
  (List.finRange kCombined).foldl (fun m i => if active i then max m |a i - b i| else m) 0

def lerp (a b : Config K) (t : K) : Config K := fun i => a i + t * (b i - a i)

/-- The far ends of the `n` pieces of a segment. -/
def samples (a b : Config K) (n : ℕ) : List (Config K) :=
  (List.range n).map fun i => lerp a b (((i + 1 : ℕ) : K) / n)

/-- The pieces of at most `resolution` that a `length` is cut into. -/
def pieces (length resolution : K) : ℕ := max 1 ⌈length / resolution⌉₊

/-- The open segment `(from, to]`. -/
def edgeClear (edgeResolutionRad : K) (clear : Config K → Bool) (a b : Config K) : Bool :=
  (samples a b (pieces (dist sqrt a b) (max (1 / 10 ^ 3) (edgeResolutionRad * kRadToDeg)))).all clear

def pathEdgesClear (edge : Config K → Config K → Bool) : List (Config K) → Bool
  | a :: b :: rest => edge a b && pathEdgesClear edge (b :: rest)
  | _ => true

def maxAbsDiff (a b : Config K) : K := maxActiveAbsDiff b a fun _ => true

/-- One segment of `densify`. -/
def densifySegment (maxSegmentDeg : K) (a b : Config K) : List (Config K) :=
  samples a b (pieces (maxAbsDiff a b) (max (1 / 10 ^ 6) maxSegmentDeg))

/-- What `densify` emits after its first point. -/
def densifyFrom (maxSegmentDeg : K) : List (Config K) → List (Config K)
  | a :: b :: rest => densifySegment maxSegmentDeg a b ++ densifyFrom maxSegmentDeg (b :: rest)
  | _ => []

def densify (maxSegmentDeg : K) : List (Config K) → List (Config K)
  | [] => []
  | a :: rest => a :: densifyFrom maxSegmentDeg (a :: rest)

end

/-! ## Segments -/

section

variable {K : Type*} [Field K]

theorem lerp_zero (a b : Config K) : lerp a b 0 = a := by
  funext i
  simp [lerp]

theorem lerp_one (a b : Config K) : lerp a b 1 = b := by
  funext i
  simp [lerp]

theorem lerp_swap (a b : Config K) (t : K) : lerp b a t = lerp a b (1 - t) := by
  funext i
  simp only [lerp]
  ring

/-- Along a segment one joint moves in proportion. -/
theorem lerp_sub (a b : Config K) (t t' : K) (i : Fin kCombined) :
    lerp a b t i - lerp a b t' i = (t - t') * (b i - a i) := by
  simp only [lerp]
  ring

theorem lerp_of_eq {a b : Config K} {i : Fin kCombined} (h : a i = b i) (t : K) : lerp a b t i = a i := by
  simp [lerp, h]

theorem dist2_comm (a b : Config K) : dist2 a b = dist2 b a := by
  refine Finset.sum_congr rfl fun i _ => ?_
  ring

theorem dist_comm (sqrt : K → K) (a b : Config K) : dist sqrt a b = dist sqrt b a := by
  rw [dist, dist, dist2_comm]

theorem mem_samples {a b : Config K} {n : ℕ} {c : Config K} :
    c ∈ samples a b n ↔ ∃ i, 1 ≤ i ∧ i ≤ n ∧ c = lerp a b ((i : K) / n) := by
  simp only [samples, List.mem_map, List.mem_range]
  constructor
  · rintro ⟨i, hi, rfl⟩
    exact ⟨i + 1, by omega, by omega, rfl⟩
  · rintro ⟨i, h1, hn, rfl⟩
    exact ⟨i - 1, by omega, by rw [Nat.sub_add_cancel h1]⟩

variable [LinearOrder K] [IsStrictOrderedRing K]

/-- The last sample is the end of the segment. -/
theorem samples_eq_concat (a b : Config K) {n : ℕ} (hn : 1 ≤ n) : ∃ inner, samples a b n = inner ++ [b] := by
  obtain ⟨m, rfl⟩ : ∃ m, n = m + 1 := ⟨n - 1, by omega⟩
  have hcast : ((m + 1 : ℕ) : K) ≠ 0 := by exact_mod_cast Nat.succ_ne_zero m
  rw [samples, List.range_succ, List.map_append, List.map_singleton, div_self hcast, lerp_one]
  exact ⟨_, rfl⟩

theorem end_mem_samples (a b : Config K) {n : ℕ} (hn : 1 ≤ n) : b ∈ samples a b n := by
  obtain ⟨inner, h⟩ := samples_eq_concat a b hn
  rw [h]
  exact List.mem_append_right inner (List.mem_singleton_self b)

/-- Backwards, the samples are those of the segment itself, but for the ends. -/
theorem mem_samples_swap {a b c : Config K} {n : ℕ} (h : c ∈ samples b a n) : c = a ∨ c ∈ samples a b n := by
  obtain ⟨i, h1, hn, rfl⟩ := mem_samples.mp h
  rw [lerp_swap]
  rcases Nat.eq_or_lt_of_le hn with rfl | hlt
  · have hcast : (i : K) ≠ 0 := by exact_mod_cast (by omega : i ≠ 0)
    rw [div_self hcast, sub_self, lerp_zero]
    exact Or.inl rfl
  · refine Or.inr (mem_samples.mpr ⟨n - i, by omega, by omega, ?_⟩)
    have hcast : (n : K) ≠ 0 := by exact_mod_cast (by omega : n ≠ 0)
    congr 1
    rw [Nat.cast_sub hn]
    field_simp

theorem samples_isChain (a b : Config K) (n : ℕ) {step : K}
    (hstep : ∀ i, |b i - a i| ≤ n * step) :
    (a :: samples a b n).IsChain fun c d => ∀ i, |d i - c i| ≤ step := by
  have hcut : a :: samples a b n = (List.range (n + 1)).map fun i : ℕ => lerp a b ((i : K) / n) := by
    rw [List.range_succ_eq_map, List.map_cons, List.map_map, Nat.cast_zero, zero_div, lerp_zero]
    rfl
  rw [hcut, List.isChain_map]
  refine (List.isChain_range_succ _ n).mpr ?_
  intro m hm i
  have hn : (0 : K) < n := by exact_mod_cast (by omega : 0 < n)
  have hdiff : ((m + 1 : ℕ) : K) / n - (m : K) / n = 1 / n := by
    rw [Nat.cast_succ]
    ring
  rw [lerp_sub, hdiff, abs_mul, abs_of_pos (by positivity)]
  calc 1 / (n : K) * |b i - a i| ≤ 1 / n * (n * step) :=
        mul_le_mul_of_nonneg_left (hstep i) (by positivity)
    _ = step := by field_simp

end

/-! ## Densified paths -/

section

variable {K : Type*} [LinearOrder K]

theorem le_foldl_max {ι : Type*} (f : ι → K) (p : ι → Bool) (is : List ι) (m : K) :
    m ≤ is.foldl (fun m i => if p i then max m (f i) else m) m ∧
      ∀ i ∈ is, p i → f i ≤ is.foldl (fun m i => if p i then max m (f i) else m) m := by
  induction is generalizing m with
  | nil => exact ⟨le_rfl, by simp⟩
  | cons i is ih =>
    obtain ⟨hle, hmem⟩ := ih (if p i then max m (f i) else m)
    rw [List.foldl_cons]
    refine ⟨le_trans ?_ hle, ?_⟩
    · split
      · exact le_max_left _ _
      · exact le_rfl
    · intro j hj hp
      rcases List.mem_cons.mp hj with rfl | hj
      · refine le_trans ?_ hle
        rw [if_pos hp]
        exact le_max_right _ _
      · exact hmem j hj hp

variable [Field K]

theorem abs_sub_le_maxActiveAbsDiff (a b : Config K) {active : ActiveMask} {i : Fin kCombined}
    (h : active i = true) : |a i - b i| ≤ maxActiveAbsDiff a b active :=
  (le_foldl_max (fun i => |a i - b i|) active _ 0).2 i (List.mem_finRange i) h

theorem abs_sub_le_maxAbsDiff (a b : Config K) (i : Fin kCombined) : |b i - a i| ≤ maxAbsDiff a b :=
  abs_sub_le_maxActiveAbsDiff b a rfl

variable [FloorSemiring K]

theorem one_le_pieces (length resolution : K) : 1 ≤ pieces length resolution := le_max_left _ _

variable [IsStrictOrderedRing K]

theorem le_pieces_mul {length resolution : K} (h : 0 < resolution) :
    length ≤ pieces length resolution * resolution := by
  have hceil : length / resolution ≤ (pieces length resolution : K) :=
    (Nat.le_ceil _).trans (by exact_mod_cast le_max_right _ _)
  exact (div_le_iff₀ h).mp hceil

omit [FloorSemiring K] in
theorem segment_pos (maxSegmentDeg : K) : 0 < max (1 / 10 ^ 6) maxSegmentDeg :=
  lt_of_lt_of_le (by positivity) (le_max_left _ _)

theorem densifySegment_isChain (maxSegmentDeg : K) (a b : Config K) :
    (a :: densifySegment maxSegmentDeg a b).IsChain
      fun c d => ∀ i, |d i - c i| ≤ max (1 / 10 ^ 6) maxSegmentDeg :=
  samples_isChain a b _ fun i =>
    (abs_sub_le_maxAbsDiff a b i).trans (le_pieces_mul (segment_pos maxSegmentDeg))

theorem densify_cons_cons (maxSegmentDeg : K) (a b : Config K) (rest : List (Config K)) :
    ∃ inner, densifySegment maxSegmentDeg a b = inner ++ [b] ∧
      densify maxSegmentDeg (a :: b :: rest) = (a :: inner) ++ densify maxSegmentDeg (b :: rest) := by
  obtain ⟨inner, h⟩ := samples_eq_concat a b (one_le_pieces (maxAbsDiff a b) (max (1 / 10 ^ 6) maxSegmentDeg))
  refine ⟨inner, h, ?_⟩
  rw [densify, densifyFrom, densifySegment, h, densify]
  simp

/-- **No joint moves more than a segment** between two points of a densified path. -/
theorem densify_isChain (maxSegmentDeg : K) (path : List (Config K)) :
    (densify maxSegmentDeg path).IsChain fun c d => ∀ i, |d i - c i| ≤ max (1 / 10 ^ 6) maxSegmentDeg := by
  induction path with
  | nil => exact List.IsChain.nil
  | cons a rest ih =>
    cases rest with
    | nil => exact List.IsChain.singleton a
    | cons b rest =>
      obtain ⟨inner, hsegment, hdensify⟩ := densify_cons_cons maxSegmentDeg a b rest
      rw [hdensify, densify]
      refine List.isChain_split.mpr ⟨?_, ih⟩
      rw [List.cons_append, ← hsegment]
      exact densifySegment_isChain maxSegmentDeg a b

/-- A path that goes on is densified piece by piece. -/
theorem densify_append (maxSegmentDeg : K) (path : List (Config K)) (x : Config K) (rest : List (Config K)) :
    densify maxSegmentDeg (path ++ x :: rest) =
      densify maxSegmentDeg (path ++ [x]) ++ densifyFrom maxSegmentDeg (x :: rest) := by
  induction path with
  | nil => rfl
  | cons a path ih =>
    cases path with
    | nil => simp [densify, densifyFrom]
    | cons b path =>
      obtain ⟨inner, hsegment, hdensify⟩ := densify_cons_cons maxSegmentDeg a b (path ++ x :: rest)
      obtain ⟨inner', hsegment', hdensify'⟩ := densify_cons_cons maxSegmentDeg a b (path ++ [x])
      obtain rfl := List.append_cancel_right (hsegment.symm.trans hsegment')
      simp only [List.cons_append] at ih hdensify hdensify' ⊢
      rw [hdensify, hdensify', ih, List.cons_append, List.append_assoc]

omit [IsStrictOrderedRing K] in
theorem head?_densify (maxSegmentDeg : K) (path : List (Config K)) :
    (densify maxSegmentDeg path).head? = path.head? := by
  cases path <;> rfl

theorem getLast?_densify (maxSegmentDeg : K) (path : List (Config K)) :
    (densify maxSegmentDeg path).getLast? = path.getLast? := by
  induction path with
  | nil => rfl
  | cons a rest ih =>
    cases rest with
    | nil => rfl
    | cons b rest =>
      obtain ⟨inner, -, hdensify⟩ := densify_cons_cons maxSegmentDeg a b rest
      rw [hdensify, List.getLast?_append, ih, List.getLast?_cons_cons]
      cases h : (b :: rest).getLast? with
      | none => simp at h
      | some c => rfl

/-- What holds along every segment of a path holds of what `densify` emits after its first point. -/
theorem forall_mem_densifyFrom {R : Config K → Config K → Prop} {P : Config K → Prop} (maxSegmentDeg : K)
    (hsegment : ∀ a b t, R a b → 0 ≤ t → t ≤ 1 → P (lerp a b t)) {path : List (Config K)} (hchain : path.IsChain R) :
    ∀ c ∈ densifyFrom maxSegmentDeg path, P c := by
  induction path with
  | nil => simp [densifyFrom]
  | cons a rest ih =>
    cases rest with
    | nil => simp [densifyFrom]
    | cons b rest =>
      obtain ⟨hab, hrest⟩ := List.isChain_cons_cons.mp hchain
      rw [densifyFrom]
      intro c hc
      rcases List.mem_append.mp hc with hc | hc
      · obtain ⟨i, -, hi, rfl⟩ := mem_samples.mp hc
        exact hsegment a b _ hab (by positivity) (div_le_one_of_le₀ (by exact_mod_cast hi) (by positivity))
      · exact ih hrest c hc

/-- What holds of the corners and along every segment holds of the densified path. -/
theorem forall_mem_densify {P : Config K → Prop} (maxSegmentDeg : K) {path : List (Config K)}
    (hcorner : ∀ c ∈ path, P c) (hsegment : ∀ a b t, P a → P b → 0 ≤ t → t ≤ 1 → P (lerp a b t)) :
    ∀ c ∈ densify maxSegmentDeg path, P c := by
  cases path with
  | nil => simp [densify]
  | cons a rest =>
    intro c hc
    rcases List.mem_cons.mp hc with rfl | hc
    · exact hcorner c List.mem_cons_self
    · have hchain : (a :: rest).IsChain fun x y => P x ∧ P y :=
        (List.pairwise_of_forall_mem_list fun x hx y hy => ⟨hcorner x hx, hcorner y hy⟩).isChain
      exact forall_mem_densifyFrom maxSegmentDeg (fun x y t hxy => hsegment x y t hxy.1 hxy.2) hchain c hc

end

end RbServo.InitMotion
