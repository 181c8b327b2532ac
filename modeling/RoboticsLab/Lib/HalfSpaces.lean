import RoboticsLab.Lib.Clamp
import Mathlib.Algebra.BigOperators.Fin
import Mathlib.Algebra.Order.BigOperators.Group.List
import Mathlib.LinearAlgebra.Matrix.DotProduct
import Mathlib.Tactic.Abel
import Mathlib.Tactic.Linarith
import Mathlib.Tactic.Positivity
import Mathlib.Tactic.FieldSimp
import Mathlib.Tactic.Ring

/-!
# Projections onto half-spaces, in turn

A point is pushed into one half-space after the other, and into a box after every sweep.  No push takes
it away from a point that lies in all of them, and each takes it closer by at least its own length.

    relax   : one push                              (sqDist_relax)
    sweep   : the half-spaces in turn               (sqDist_sweep, excess_sweep_le)
    clampTo : the box                               (sqDist_clampTo)
    cycle   : a sweep and the box                   (mul_sq_le_sqDist, excess_cycle_le)

The length of the normal may be overestimated; then a push stops short.
-/

namespace HalfSpaces

open Matrix

section

variable {ι K : Type*} [Fintype ι] [Field K] [LinearOrder K]

/-- `bound ≤ normal ⬝ᵥ x`, with `size` at least the length of the normal. -/
structure HalfSpace (ι K : Type*) [Fintype ι] [Field K] [LinearOrder K] where
  normal : ι → K
  bound : K
  size : K
  size_pos : 0 < size
  normal_le : normal ⬝ᵥ normal ≤ size * size

namespace HalfSpace

def Holds (h : HalfSpace ι K) (x : ι → K) : Prop := h.bound ≤ h.normal ⬝ᵥ x

def excess (h : HalfSpace ι K) (x : ι → K) : K := h.bound - h.normal ⬝ᵥ x

/-- The length of the push. -/
def push (h : HalfSpace ι K) (x : ι → K) : K := max 0 (h.excess x) / h.size

def relax (h : HalfSpace ι K) (x : ι → K) : ι → K := x + (h.push x / h.size) • h.normal

end HalfSpace

def sweep (hs : List (HalfSpace ι K)) (x : ι → K) : ι → K := hs.foldl (fun x h => h.relax x) x

/-- The pushes of a sweep, each from where the ones before it lead. -/
def pushes : List (HalfSpace ι K) → (ι → K) → List K
  | [], _ => []
  | h :: hs, x => h.push x :: pushes hs (h.relax x)

/-- A coordinate is free where its limit is not positive. -/
def clampTo (lim : ι → K) (x : ι → K) : ι → K := fun i =>
  if 0 < lim i then Clamp.clamp (x i) (-lim i) (lim i) else x i

def InBox (lim : ι → K) (x : ι → K) : Prop := ∀ i, 0 < lim i → |x i| ≤ lim i

def sqDist (x z : ι → K) : K := (x - z) ⬝ᵥ (x - z)

def norm1 (x : ι → K) : K := ∑ i, |x i|

end

section

variable {ι K : Type*} [Fintype ι] [Field K] [LinearOrder K] [IsStrictOrderedRing K] {h : HalfSpace ι K}
  {hs : List (HalfSpace ι K)} {x y z lim : ι → K}

theorem sqDist_nonneg (x z : ι → K) : 0 ≤ sqDist x z := Finset.sum_nonneg fun _ _ => mul_self_nonneg _

omit [LinearOrder K] [IsStrictOrderedRing K] in
@[simp]
theorem sqDist_self (x : ι → K) : sqDist x x = 0 := by rw [sqDist, sub_self, zero_dotProduct]

/-- A product moves by at most the 1-norm times the largest move of a coordinate. -/
theorem dotProduct_sub_le (n : ι → K) {δ : K} (hmove : ∀ i, |x i - y i| ≤ δ) : n ⬝ᵥ x - n ⬝ᵥ y ≤ norm1 n * δ := by
  rw [← dotProduct_sub, norm1, Finset.sum_mul]
  refine Finset.sum_le_sum fun i _ => (le_abs_self _).trans ?_
  rw [abs_mul]
  exact mul_le_mul_of_nonneg_left (hmove i) (abs_nonneg _)

theorem abs_dotProduct_le (n : ι → K) (hx : ∀ i, |x i| ≤ lim i) : |n ⬝ᵥ x| ≤ ∑ i, |n i| * lim i := by
  refine (Finset.abs_sum_le_sum_abs _ _).trans (Finset.sum_le_sum fun i _ => ?_)
  rw [abs_mul]
  exact mul_le_mul_of_nonneg_left (hx i) (abs_nonneg _)

/-! ## One half-space -/

theorem HalfSpace.push_nonneg (h : HalfSpace ι K) (x : ι → K) : 0 ≤ h.push x :=
  div_nonneg (le_max_left _ _) h.size_pos.le

omit [IsStrictOrderedRing K] in
theorem HalfSpace.excess_le (h : HalfSpace ι K) (x : ι → K) : h.excess x ≤ h.push x * h.size := by
  rw [push, div_mul_cancel₀ _ h.size_pos.ne']
  exact le_max_right _ _

theorem HalfSpace.holds_iff_push : h.Holds x ↔ h.push x = 0 := by
  rw [push, div_eq_zero_iff, or_iff_left h.size_pos.ne', max_eq_left_iff, excess, sub_nonpos, Holds]

theorem HalfSpace.relax_of_holds (hx : h.Holds x) : h.relax x = x := by
  rw [relax, holds_iff_push.mp hx, zero_div, zero_smul, add_zero]

/-- **A push brings a point closer** to every point of the half-space, by at least its length. -/
theorem HalfSpace.sqDist_relax (hz : h.Holds z) : sqDist (h.relax x) z + h.push x ^ 2 ≤ sqDist x z := by
  set α := h.push x / h.size with hα
  have hpush : h.push x = α * h.size := by rw [hα, div_mul_cancel₀ _ h.size_pos.ne']
  have hsq : sqDist (h.relax x) z =
      sqDist x z + 2 * (α * (h.normal ⬝ᵥ x - h.normal ⬝ᵥ z)) + α * α * (h.normal ⬝ᵥ h.normal) := by
    have hmove : h.relax x - z = (x - z) + α • h.normal := by rw [relax, ← hα]; abel
    have hcomm : (x - z) ⬝ᵥ h.normal = h.normal ⬝ᵥ x - h.normal ⬝ᵥ z := by
      rw [dotProduct_comm, dotProduct_sub]
    rw [sqDist, sqDist, hmove, add_dotProduct, dotProduct_add, dotProduct_add, dotProduct_smul, smul_dotProduct,
      smul_dotProduct, dotProduct_smul, hcomm, dotProduct_comm h.normal (x - z), hcomm]
    simp only [smul_eq_mul]
    ring
  have hα0 : 0 ≤ α := div_nonneg (h.push_nonneg x) h.size_pos.le
  -- where there is a push, the point is short of the half-space by all of the excess
  have hshort : α * (h.normal ⬝ᵥ x - h.normal ⬝ᵥ z) ≤ -(α * (α * (h.size * h.size))) := by
    rcases le_or_gt (h.excess x) 0 with hle | hgt
    · have hzero : α = 0 := by rw [hα, push, max_eq_left hle, zero_div, zero_div]
      rw [hzero, zero_mul, zero_mul, neg_zero]
    · have hexcess : α * (h.size * h.size) = h.excess x := by
        rw [hα, push, max_eq_right hgt.le]
        field_simp [h.size_pos.ne']
      rw [hexcess, ← mul_neg]
      refine mul_le_mul_of_nonneg_left ?_ hα0
      rw [excess, neg_sub]
      linarith [show h.bound ≤ h.normal ⬝ᵥ z from hz]
  have hnormal := mul_le_mul_of_nonneg_left h.normal_le (mul_nonneg hα0 hα0)
  rw [hsq, hpush]
  linarith [show (α * h.size) ^ 2 = α * α * (h.size * h.size) by ring]

theorem HalfSpace.abs_normal_le (h : HalfSpace ι K) (i : ι) : |h.normal i| ≤ h.size := by
  refine abs_le_of_sq_le_sq ?_ h.size_pos.le
  rw [sq, sq]
  exact (Finset.single_le_sum (f := fun i => h.normal i * h.normal i) (fun i _ => mul_self_nonneg _)
    (Finset.mem_univ i)).trans h.normal_le

/-- No coordinate moves by more than the push. -/
theorem HalfSpace.abs_relax_sub_le (h : HalfSpace ι K) (x : ι → K) (i : ι) : |h.relax x i - x i| ≤ h.push x := by
  have hmove : h.relax x i - x i = h.push x / h.size * h.normal i := by
    rw [relax, Pi.add_apply, Pi.smul_apply, smul_eq_mul, add_sub_cancel_left]
  rw [hmove, abs_mul, abs_of_nonneg (div_nonneg (h.push_nonneg x) h.size_pos.le)]
  calc h.push x / h.size * |h.normal i| ≤ h.push x / h.size * h.size :=
        mul_le_mul_of_nonneg_left (h.abs_normal_le i) (div_nonneg (h.push_nonneg x) h.size_pos.le)
    _ = h.push x := div_mul_cancel₀ _ h.size_pos.ne'

/-- A push never makes the excess larger. -/
theorem HalfSpace.excess_relax_le (h : HalfSpace ι K) (x : ι → K) : h.excess (h.relax x) ≤ h.push x * h.size := by
  refine le_trans ?_ (h.excess_le x)
  have hnonneg : 0 ≤ h.push x / h.size * (h.normal ⬝ᵥ h.normal) :=
    mul_nonneg (div_nonneg (h.push_nonneg x) h.size_pos.le) (Finset.sum_nonneg fun i _ => mul_self_nonneg (h.normal i))
  rw [excess, excess, relax, dotProduct_add, dotProduct_smul, smul_eq_mul]
  linarith

/-! ## A sweep -/

theorem sqDist_sweep (hz : ∀ h ∈ hs, h.Holds z) :
    sqDist (sweep hs x) z + ((pushes hs x).map (· ^ 2)).sum ≤ sqDist x z := by
  induction hs generalizing x with
  | nil => simp [sweep, pushes]
  | cons h hs ih =>
    have hrest := ih (x := h.relax x) fun h' hh' => hz h' (List.mem_cons_of_mem h hh')
    have hone := HalfSpace.sqDist_relax (x := x) (hz h List.mem_cons_self)
    rw [pushes, List.map_cons, List.sum_cons, sweep, List.foldl_cons, ← sweep]
    linarith

/-- A push counts for its square. -/
theorem sqDist_sweep_of_push (hz : ∀ h ∈ hs, h.Holds z) {p : K} (hp : p ∈ pushes hs x) :
    sqDist (sweep hs x) z + p ^ 2 ≤ sqDist x z := by
  have hle : p ^ 2 ≤ ((pushes hs x).map (· ^ 2)).sum :=
    List.single_le_sum (fun q hq => by
      obtain ⟨r, -, rfl⟩ := List.mem_map.mp hq
      exact sq_nonneg r) _ (List.mem_map_of_mem hp)
  linarith [sqDist_sweep (x := x) hz]

theorem abs_sweep_sub_le {δ : K} (hδ : ∀ p ∈ pushes hs x, p ≤ δ) (i : ι) : |sweep hs x i - x i| ≤ hs.length * δ := by
  induction hs generalizing x with
  | nil => simp [sweep]
  | cons h hs ih =>
    have hrest := ih (x := h.relax x) fun p hp => hδ p (List.mem_cons_of_mem _ hp)
    have hone := (h.abs_relax_sub_le x i).trans (hδ _ List.mem_cons_self)
    rw [sweep, List.foldl_cons, ← sweep, List.length_cons]
    push_cast
    calc |sweep hs (h.relax x) i - x i| = |(sweep hs (h.relax x) i - h.relax x i) + (h.relax x i - x i)| := by
          rw [sub_add_sub_cancel]
      _ ≤ |sweep hs (h.relax x) i - h.relax x i| + |h.relax x i - x i| := abs_add_le _ _
      _ ≤ (hs.length + 1) * δ := by linarith

theorem norm1_nonneg (x : ι → K) : 0 ≤ norm1 x := Finset.sum_nonneg fun _ _ => abs_nonneg _

/-- **After a sweep of small pushes** no half-space is missed by much. -/
theorem excess_sweep_le {δ : K} (hδ0 : 0 ≤ δ) (hδ : ∀ p ∈ pushes hs x, p ≤ δ) :
    ∀ h ∈ hs, h.excess (sweep hs x) ≤ δ * (h.size + hs.length * norm1 h.normal) := by
  induction hs generalizing x with
  | nil => simp
  | cons h₀ hs ih =>
    intro h hh
    have hδ' : ∀ p ∈ pushes hs (h₀.relax x), p ≤ δ := fun p hp => hδ p (List.mem_cons_of_mem _ hp)
    rw [sweep, List.foldl_cons, ← sweep, List.length_cons]
    push_cast
    have hwider : (0 : K) ≤ δ * norm1 h.normal := mul_nonneg hδ0 (norm1_nonneg h.normal)
    rcases List.mem_cons.mp hh with rfl | hh
    · -- after its own push the others move it
      have hown : h.excess (h.relax x) ≤ δ * h.size :=
        (h.excess_relax_le x).trans (mul_le_mul_of_nonneg_right (hδ _ List.mem_cons_self) h.size_pos.le)
      have hmoved : h.excess (sweep hs (h.relax x)) ≤ h.excess (h.relax x) + norm1 h.normal * (hs.length * δ) := by
        have hmove := dotProduct_sub_le (x := h.relax x) (y := sweep hs (h.relax x)) h.normal fun i => by
          rw [abs_sub_comm]
          exact abs_sweep_sub_le hδ' i
        rw [HalfSpace.excess, HalfSpace.excess]
        linarith
      linarith
    · linarith [ih hδ' h hh]

/-! ## The box -/

omit [Fintype ι] in
theorem clampTo_inBox (lim x : ι → K) : InBox lim (clampTo lim x) := fun i hi => by
  rw [clampTo, if_pos hi]
  exact Clamp.abs_clamp_le hi.le

omit [Fintype ι] in
/-- Clamping leads no coordinate away from the box. -/
theorem abs_clampTo_sub_le (hz : InBox lim z) (i : ι) : |clampTo lim x i - z i| ≤ |x i - z i| := by
  rw [clampTo]
  split
  · rename_i hi
    exact Clamp.abs_clamp_sub_le (neg_le_of_abs_le (hz i hi)) (le_of_abs_le (hz i hi))
  · exact le_rfl

theorem sqDist_clampTo (hz : InBox lim z) : sqDist (clampTo lim x) z ≤ sqDist x z :=
  Finset.sum_le_sum fun i _ => by
    simp only [Pi.sub_apply]
    rw [← sq, ← sq]
    exact sq_le_sq.mpr (abs_clampTo_sub_le hz i)

omit [Fintype ι] in
/-- The way into the box is no longer than the way to any of its points. -/
theorem abs_clampTo_sub_self_le (hz : InBox lim z) (i : ι) : |clampTo lim x i - x i| ≤ |z i - x i| := by
  rw [clampTo]
  split
  · rename_i hi
    obtain ⟨hlo, hhi⟩ := abs_le.mp (hz i hi)
    rcases Clamp.clamp_between (v := x i) hlo hhi with ⟨h1, h2⟩ | ⟨h1, h2⟩
    · rw [abs_sub_comm, abs_of_nonneg (sub_nonneg.mpr h2), abs_sub_comm, abs_of_nonneg (sub_nonneg.mpr (h1.trans h2))]
      linarith
    · rw [abs_of_nonneg (sub_nonneg.mpr h1), abs_of_nonneg (sub_nonneg.mpr (h1.trans h2))]
      linarith
  · rw [sub_self, abs_zero]
    exact abs_nonneg _

/-! ## Sweep and box in turn -/

def cycle (hs : List (HalfSpace ι K)) (lim x : ι → K) : ι → K := clampTo lim (sweep hs x)

theorem sqDist_cycle (hz : ∀ h ∈ hs, h.Holds z) (hbox : InBox lim z) : sqDist (cycle hs lim x) z ≤ sqDist x z := by
  have hsum : 0 ≤ ((pushes hs x).map (· ^ 2)).sum := List.sum_nonneg fun q hq => by
    obtain ⟨r, -, rfl⟩ := List.mem_map.mp hq
    exact sq_nonneg r
  exact (sqDist_clampTo hbox).trans (by linarith [sqDist_sweep (x := x) hz])

theorem sqDist_iterate_cycle (hz : ∀ h ∈ hs, h.Holds z) (hbox : InBox lim z) (n : ℕ) :
    sqDist ((cycle hs lim)^[n] x) z ≤ sqDist x z := by
  induction n with
  | zero => exact le_rfl
  | succ n ih =>
    rw [Function.iterate_succ_apply']
    exact (sqDist_cycle hz hbox).trans ih

/-- **Pushes that stay large use up the distance** to the points in all half-spaces and the box. -/
theorem mul_sq_le_sqDist (hz : ∀ h ∈ hs, h.Holds z) (hbox : InBox lim z) {δ : K} (hδ : 0 ≤ δ) {n : ℕ}
    (hlarge : ∀ k < n, ∃ p ∈ pushes hs ((cycle hs lim)^[k] x), δ ≤ p) : n * δ ^ 2 ≤ sqDist x z := by
  induction n generalizing x with
  | zero => simpa using sqDist_nonneg x z
  | succ n ih =>
    obtain ⟨p, hp, hle⟩ := hlarge 0 (Nat.succ_pos n)
    have hrest := ih (x := cycle hs lim x) fun k hk => by
      have hk' := hlarge (k + 1) (Nat.succ_lt_succ hk)
      rwa [Function.iterate_succ_apply] at hk'
    rw [Function.iterate_zero, id_eq] at hp
    have hone := sqDist_sweep_of_push hz hp
    have hclamp := sqDist_clampTo (x := sweep hs x) hbox
    have hsq : δ ^ 2 ≤ p ^ 2 := pow_le_pow_left₀ hδ hle 2
    rw [cycle] at hrest
    push_cast
    linarith

/-- **A cycle of small pushes**, from inside the box, ends near all half-spaces. -/
theorem excess_cycle_le {δ : K} (hδ0 : 0 ≤ δ) (hδ : ∀ p ∈ pushes hs x, p ≤ δ) (hx : InBox lim x) :
    ∀ h ∈ hs, h.excess (cycle hs lim x) ≤ δ * (h.size + 2 * hs.length * norm1 h.normal) := by
  intro h hh
  have hswept := excess_sweep_le hδ0 hδ h hh
  have hmove : ∀ i, |sweep hs x i - cycle hs lim x i| ≤ hs.length * δ := fun i => by
    have hback := abs_clampTo_sub_self_le (x := sweep hs x) hx i
    rw [abs_sub_comm, abs_sub_comm (x i)] at hback
    exact hback.trans (abs_sweep_sub_le hδ i)
  have hclamp := dotProduct_sub_le h.normal hmove
  rw [HalfSpace.excess] at hswept ⊢
  linarith

end

end HalfSpaces
