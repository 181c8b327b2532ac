import RoboticsLab.InitMotion.Configuration
import RoboticsLab.Lib.KdTree
import Mathlib.Analysis.Real.Sqrt

/-!
# `KdTree::nearest`: the node that the planner grows from

The tree of a search keeps its nodes in a vector and indexes them by a k-d tree.  `nearest` looks for
the node closest to a target that is not blocked, and takes distances within `1e-12` for equal, which
the smaller index wins.  The debug build scans the vector instead (`nearestLinear`) and warns when the
answers differ.

    the answer is at most (number of nodes) * 1e-12 from the best  (nearest_within)
    squared distances equal or more than 1e-12 apart: the answer of the scan  (nearest_eq_nearestLinear)
-/

namespace RbServo.InitMotion

structure Node (K : Type*) where
  q : Config K
  /-- `-1` of a root is `none`. -/
  parent : Option ℕ
  edgeValidated : Bool
  blocked : Bool

abbrev KdTree (K : Type*) := Kd.Tree (Fin kCombined) K ℕ

def kdAxis (depth : ℕ) : Fin kCombined := ⟨depth % kCombined, Nat.mod_lt _ (by decide)⟩

section

variable {K : Type*} [Field K] [LinearOrder K]

def KdTree.insert (t : KdTree K) (q : Config K) (index : ℕ) : KdTree K := Kd.Tree.insert kdAxis q index 0 t

def eps : K := 1 / 10 ^ 12

/-- `better`; before the first node `best_d2` is infinite. -/
def better (best : Option (ℕ × K)) (idx : ℕ) (d2 : K) : Bool :=
  match best with
  | none => true
  | some (b, bestD2) => d2 < bestD2 - eps ∨ |d2 - bestD2| ≤ eps ∧ idx < b

def pick (best : Option (ℕ × K)) (offer : ℕ × K) : Option (ℕ × K) :=
  if better best offer.1 offer.2 then some offer else best

/-- A node of the vector that is not blocked, with its squared distance. -/
def offer (q : Config K) (nodes : List (Node K)) (index : ℕ) : Option (ℕ × K) :=
  match nodes[index]? with
  | some n => if n.blocked then none else some (index, dist2 n.q q)
  | none => none

def visit (q : Config K) (nodes : List (Node K)) (best : Option (ℕ × K)) (e : Config K × ℕ) : Option (ℕ × K) :=
  match offer q nodes e.2 with
  | some o => pick best o
  | none => best

def reach (best : Option (ℕ × K)) (d2 : K) : Bool :=
  match best with
  | none => true
  | some (_, bestD2) => d2 ≤ bestD2 + eps

def KdTree.nearest (t : KdTree K) (q : Config K) (nodes : List (Node K)) : Option ℕ :=
  (t.search (visit q nodes) reach q none).map (·.1)

/-- One pass of `nearestLinear`: `best` and `best_d`. -/
def scan (sqrt : K → K) (q : Config K) (nodes : List (Node K)) (best : ℕ × Option K) (i : ℕ) : ℕ × Option K :=
  match nodes[i]? with
  | some n =>
    if n.blocked then best
    else
      match best.2 with
      | none => (i, some (dist sqrt n.q q))
      | some bestD => if dist sqrt n.q q < bestD then (i, some (dist sqrt n.q q)) else best
  | none => best

def nearestLinear (sqrt : K → K) (nodes : List (Node K)) (q : Config K) : ℕ :=
  ((List.range nodes.length).foldl (scan sqrt q nodes) (0, none)).1

/-! ## Statement -/

/-- The k-d tree holds the points of the vector with their indices. -/
structure Indexes (t : KdTree K) (nodes : List (Node K)) : Prop where
  ordered : t.Ordered kdAxis 0
  entries : t.entries.Perm (nodes.zipIdx.map fun n => (n.1.q, n.2))

/-- `d2` is the squared distance of node `i`, which is not blocked. -/
def Offered (q : Config K) (nodes : List (Node K)) (o : ℕ × K) : Prop :=
  ∃ n, nodes[o.1]? = some n ∧ n.blocked = false ∧ o.2 = dist2 n.q q

/-- No two distances are told apart only by the tolerance. -/
def Separated (q : Config K) (nodes : List (Node K)) : Prop :=
  ∀ o o', Offered q nodes o → Offered q nodes o' → o.2 = o'.2 ∨ eps < |o.2 - o'.2|

end

/-! ## The index -/

section

variable {K : Type*} [LinearOrder K]

theorem Indexes.root (q : Config K) : Indexes (KdTree.insert .empty q 0) [⟨q, none, true, false⟩] :=
  ⟨Kd.Tree.Ordered.insert (t := .empty) trivial q 0, List.Perm.refl _⟩

theorem Indexes.push {t : KdTree K} {nodes : List (Node K)} (h : Indexes t nodes) (n : Node K) :
    Indexes (t.insert n.q nodes.length) (nodes ++ [n]) := by
  refine ⟨h.ordered.insert n.q nodes.length, (Kd.Tree.entries_insert kdAxis n.q nodes.length 0 t).trans ?_⟩
  have hlast : ([n].zipIdx (0 + nodes.length)).map (fun n => (n.1.q, n.2)) = [(n.q, nodes.length)] := by simp
  rw [List.zipIdx_append, List.map_append, hlast]
  exact (h.entries.cons _).trans (List.perm_append_singleton _ _).symm

/-- Only the points of the vector are indexed. -/
theorem Indexes.of_same {t : KdTree K} {nodes nodes' : List (Node K)} (h : Indexes t nodes)
    (hsame : nodes'.map (·.q) = nodes.map (·.q)) : Indexes t nodes' := by
  refine ⟨h.ordered, ?_⟩
  have hmap : ∀ ns : List (Node K), (ns.zipIdx.map fun n => (n.1.q, n.2)) = (ns.map (·.q)).zipIdx := by
    intro ns
    rw [List.zipIdx_map]
    rfl
  rw [hmap, hsame, ← hmap]
  exact h.entries

end

section

variable {K : Type*} [Field K]

theorem offer_eq_some {q : Config K} {nodes : List (Node K)} {i : ℕ} {o : ℕ × K} :
    offer q nodes i = some o ↔ o.1 = i ∧ Offered q nodes o := by
  unfold offer
  constructor
  · intro h
    split at h
    · rename_i n hn
      split at h
      · cases h
      · rename_i hblocked
        obtain rfl := Option.some.inj h
        exact ⟨rfl, n, hn, Bool.eq_false_of_not_eq_true hblocked, rfl⟩
    · cases h
  · rintro ⟨rfl, n, hn, hblocked, hd⟩
    rw [hn]
    simp [hblocked, ← hd]

variable [LinearOrder K]

/-- The k-d tree offers what the vector holds. -/
theorem Indexes.mem_offers {t : KdTree K} {nodes : List (Node K)} (h : Indexes t nodes) {q : Config K}
    {es : List (Config K × ℕ)} (hperm : es.Perm t.entries) {o : ℕ × K} :
    o ∈ es.filterMap (fun e => offer q nodes e.2) ↔ Offered q nodes o := by
  simp only [List.mem_filterMap, (hperm.trans h.entries).mem_iff, List.mem_map, offer_eq_some]
  constructor
  · rintro ⟨-, -, -, ho⟩
    exact ho
  · intro ho
    have ⟨n, hn, _⟩ := ho
    exact ⟨_, ⟨(n, o.1), List.mem_zipIdx_iff_getElem?.mpr hn, rfl⟩, rfl, ho⟩

/-! ## The fold -/

theorem foldl_pick_isSome (os : List (ℕ × K)) : (os.foldl pick none).isSome = !os.isEmpty := by
  induction os using List.reverseRecOn with
  | nil => rfl
  | append_singleton os o ih =>
    rw [List.foldl_append, List.foldl_cons, List.foldl_nil, pick]
    split
    · simp
    · rename_i hnot
      cases hbest : os.foldl pick none with
      | none => simp [hbest, better] at hnot
      | some b => simp

variable [IsStrictOrderedRing K]

theorem eps_pos : (0 : K) < eps := by
  unfold eps
  positivity

theorem dist2_nonneg (a b : Config K) : 0 ≤ dist2 a b := Finset.sum_nonneg fun i _ => mul_self_nonneg (a i - b i)

theorem axis_le_dist2 (q p : Config K) (a : Fin kCombined) : (q a - p a) * (q a - p a) ≤ dist2 p q := by
  rw [dist2_comm]
  exact Finset.single_le_sum (f := fun i => (q i - p i) * (q i - p i)) (fun i _ => mul_self_nonneg _)
    (Finset.mem_univ a)

/-- What lies beyond the reach is not better. -/
theorem Indexes.harmless {t : KdTree K} {nodes : List (Node K)} (h : Indexes t nodes) (q : Config K) :
    Kd.Harmless (visit q nodes) reach (fun p => dist2 p q) t.entries := by
  intro best d e he hreach hd
  obtain ⟨⟨n, i⟩, hn, rfl⟩ := List.mem_map.mp (h.entries.mem_iff.mp he)
  unfold visit
  cases hoffer : offer q nodes (n.q, i).2 with
  | none => rfl
  | some o =>
    obtain ⟨rfl, n', hn', -, ho⟩ := offer_eq_some.mp hoffer
    obtain rfl : n' = n := Option.some.inj (hn'.symm.trans (List.mem_zipIdx_iff_getElem?.mp hn))
    cases best with
    | none => simp [reach] at hreach
    | some b =>
      have hfar : b.2 + eps < o.2 := by
        rw [ho]
        exact (not_le.mp (by simpa [reach] using hreach)).trans_le hd
      have heps := eps_pos (K := K)
      have habs : ¬ |o.2 - b.2| ≤ eps := fun hle => by linarith [le_abs_self (o.2 - b.2)]
      have hnot : better (some b) o.1 o.2 = false := by
        simp only [better, habs, false_and, or_false, decide_eq_false_iff_not, not_lt]
        linarith
      simp only [pick, hnot, Bool.false_eq_true, if_false]

/-- `nearest` goes through the nodes that are not blocked, in some order. -/
theorem Indexes.nearest_eq_foldl {t : KdTree K} {nodes : List (Node K)} (h : Indexes t nodes) (q : Config K) :
    ∃ os : List (ℕ × K), (∀ o, o ∈ os ↔ Offered q nodes o) ∧ os.length ≤ nodes.length ∧
      t.nearest q nodes = (os.foldl pick none).map (·.1) := by
  obtain ⟨es, hperm, hfold⟩ := Kd.Tree.search_eq_foldl (axis_le_dist2 q) h.ordered (h.harmless q) none
  refine ⟨es.filterMap fun e => offer q nodes e.2, fun o => h.mem_offers hperm, ?_, ?_⟩
  · calc (es.filterMap fun e => offer q nodes e.2).length ≤ es.length := List.length_filterMap_le _ _
      _ = nodes.length := by rw [(hperm.trans h.entries).length_eq, List.length_map, List.length_zipIdx]
  · rw [KdTree.nearest, hfold, List.foldl_filterMap]
    congr 2
    funext best e
    rw [visit]
    cases offer q nodes e.2 <;> rfl

/-- Every pass of the fold may lose the tolerance once. -/
theorem foldl_pick_within {os : List (ℕ × K)} {b : ℕ × K} (hb : os.foldl pick none = some b) :
    b ∈ os ∧ ∀ o ∈ os, b.2 ≤ o.2 + os.length * eps := by
  induction os using List.reverseRecOn generalizing b with
  | nil => simp at hb
  | append_singleton os o ih =>
    rw [List.foldl_append, List.foldl_cons, List.foldl_nil, pick] at hb
    have heps := eps_pos (K := K)
    have hlength : ((os ++ [o]).length : K) * eps = os.length * eps + eps := by
      rw [List.length_append, List.length_singleton]
      push_cast
      ring
    have hgrow : (0 : K) ≤ os.length * eps := by positivity
    rw [hlength]
    cases hbest : os.foldl pick none with
    | none =>
      have hempty : os = [] := by simpa [hbest] using foldl_pick_isSome os
      subst hempty
      simp only [hbest, better, if_true, Option.some.injEq] at hb
      subst hb
      exact ⟨by simp, fun o' ho' => by simp at ho'; subst ho'; linarith⟩
    | some b' =>
      obtain ⟨hmem, hwithin⟩ := ih hbest
      rw [hbest] at hb
      by_cases hbetter : better (some b') o.1 o.2 = true
      · -- the new offer is at most the tolerance worse than the old best
        rw [if_pos hbetter] at hb
        obtain rfl := Option.some.inj hb
        have hclose : o.2 ≤ b'.2 + eps := by
          simp only [better, decide_eq_true_eq] at hbetter
          rcases hbetter with hlt | ⟨habs, -⟩
          · linarith
          · linarith [le_abs_self (o.2 - b'.2)]
        refine ⟨by simp, fun o' ho' => ?_⟩
        rcases List.mem_append.mp ho' with ho' | ho'
        · linarith [hwithin o' ho']
        · obtain rfl := List.mem_singleton.mp ho'
          linarith
      · rw [if_neg hbetter] at hb
        obtain rfl := Option.some.inj hb
        have hworse : b'.2 - eps ≤ o.2 := by
          simp only [better, decide_eq_true_eq, not_or, not_lt] at hbetter
          exact hbetter.1
        refine ⟨List.mem_append_left _ hmem, fun o' ho' => ?_⟩
        rcases List.mem_append.mp ho' with ho' | ho'
        · linarith [hwithin o' ho']
        · obtain rfl := List.mem_singleton.mp ho'
          linarith

/-- Without near ties the fold ends at the first of the closest. -/
theorem foldl_pick_closest {q : Config K} {nodes : List (Node K)} (hsep : Separated q nodes) {os : List (ℕ × K)}
    (hos : ∀ o ∈ os, Offered q nodes o) {b : ℕ × K} (hb : os.foldl pick none = some b) :
    ∀ o ∈ os, b.2 < o.2 ∨ b.2 = o.2 ∧ b.1 ≤ o.1 := by
  induction os using List.reverseRecOn generalizing b with
  | nil => simp at hb
  | append_singleton os o ih =>
    have hos' : ∀ o' ∈ os, Offered q nodes o' := fun o' ho' => hos o' (List.mem_append_left _ ho')
    have ho : Offered q nodes o := hos o (by simp)
    have heps := eps_pos (K := K)
    rw [List.foldl_append, List.foldl_cons, List.foldl_nil, pick] at hb
    cases hbest : os.foldl pick none with
    | none =>
      have hempty : os = [] := by simpa [hbest] using foldl_pick_isSome os
      subst hempty
      simp only [hbest, better, if_true, Option.some.injEq] at hb
      subst hb
      exact fun o' ho' => by simp at ho'; subst ho'; exact Or.inr ⟨rfl, le_rfl⟩
    | some b' =>
      have hclosest := ih hos' hbest
      have hb' : Offered q nodes b' := hos' b' (foldl_pick_within hbest).1
      rw [hbest] at hb
      -- a distance within the tolerance is the same distance
      have hbetter : better (some b') o.1 o.2 = true ↔ o.2 < b'.2 ∨ o.2 = b'.2 ∧ o.1 < b'.1 := by
        simp only [better, decide_eq_true_eq]
        rcases hsep o b' ho hb' with heq | hgap
        · simp [heq, heps.le]
        · have hne : o.2 ≠ b'.2 := by
            rintro heq
            rw [heq, sub_self, abs_zero] at hgap
            exact lt_asymm hgap heps
          have hlt : o.2 < b'.2 - eps ↔ o.2 < b'.2 := by
            constructor
            · intro hlt
              linarith
            · intro hlt
              rw [abs_of_neg (sub_neg.mpr hlt)] at hgap
              linarith
          simp [hne, hlt, not_le.mpr hgap]
      by_cases hcase : better (some b') o.1 o.2 = true
      · rw [if_pos hcase] at hb
        obtain rfl := Option.some.inj hb
        intro o' ho'
        rcases List.mem_append.mp ho' with ho' | ho'
        · rcases hbetter.mp hcase with hlt | ⟨heq, hidx⟩
          · rcases hclosest o' ho' with h | ⟨h, -⟩
            · exact Or.inl (hlt.trans h)
            · exact Or.inl (h ▸ hlt)
          · rcases hclosest o' ho' with h | ⟨h, hle⟩
            · exact Or.inl (heq ▸ h)
            · exact Or.inr ⟨heq.trans h, hidx.le.trans hle⟩
        · obtain rfl := List.mem_singleton.mp ho'
          exact Or.inr ⟨rfl, le_rfl⟩
      · rw [if_neg hcase] at hb
        obtain rfl := Option.some.inj hb
        intro o' ho'
        rcases List.mem_append.mp ho' with ho' | ho'
        · exact hclosest o' ho'
        · obtain rfl := List.mem_singleton.mp ho'
          rw [hbetter, not_or, not_lt, not_and, not_lt] at hcase
          rcases hcase.1.lt_or_eq with h | h
          · exact Or.inl h
          · exact Or.inr ⟨h, hcase.2 h.symm⟩

/-! ## The answer -/

variable {t : KdTree K} {nodes : List (Node K)}
/-- **The tolerance adds up to at most itself times the number of nodes.** -/
theorem nearest_within (h : Indexes t nodes) {q : Config K} {i : ℕ} (hi : t.nearest q nodes = some i) :
    ∃ n, nodes[i]? = some n ∧ n.blocked = false ∧
      ∀ n' ∈ nodes, n'.blocked = false → dist2 n.q q ≤ dist2 n'.q q + nodes.length * eps := by
  obtain ⟨os, hmem, hlength, hnearest⟩ := h.nearest_eq_foldl q
  rw [hnearest, Option.map_eq_some_iff] at hi
  obtain ⟨b, hb, rfl⟩ := hi
  obtain ⟨hbmem, hwithin⟩ := foldl_pick_within hb
  obtain ⟨n, hn, hblocked, hd⟩ := (hmem b).mp hbmem
  refine ⟨n, hn, hblocked, fun n' hn' hblocked' => ?_⟩
  obtain ⟨i', hi'⟩ := List.mem_iff_getElem?.mp hn'
  have hle := hwithin (i', dist2 n'.q q) ((hmem _).mpr ⟨n', hi', hblocked', rfl⟩)
  have hcast : (os.length : K) * eps ≤ nodes.length * eps :=
    mul_le_mul_of_nonneg_right (by exact_mod_cast hlength) eps_pos.le
  rw [← hd]
  linarith

/-! ## The scan of the debug build -/

/-- The first of the closest nodes before index `m`, once there is one. -/
def Scanned (sqrt : K → K) (q : Config K) (nodes : List (Node K)) (m : ℕ) (best : ℕ × Option K) : Prop :=
  (best = (0, none) ∧ ∀ o, Offered q nodes o → m ≤ o.1) ∨
    ∃ d, best.2 = some (sqrt d) ∧ Offered q nodes (best.1, d) ∧ best.1 < m ∧
      ∀ o, Offered q nodes o → o.1 < m → d < o.2 ∨ d = o.2 ∧ best.1 ≤ o.1

omit [IsStrictOrderedRing K] in
/-- An index that offers nothing changes nothing. -/
theorem Scanned.skip {sqrt : K → K} {q : Config K} {m : ℕ} {best : ℕ × Option K}
    (h : Scanned sqrt q nodes m best) (hno : ∀ o, Offered q nodes o → o.1 ≠ m) : Scanned sqrt q nodes (m + 1) best := by
  rcases h with ⟨hbest, hnone⟩ | ⟨d, hd, ho, hlt, hleast⟩
  · exact Or.inl ⟨hbest, fun o hoff => lt_of_le_of_ne (hnone o hoff) (hno o hoff).symm⟩
  · exact Or.inr ⟨d, hd, ho, Nat.lt_succ_of_lt hlt,
      fun o hoff hlt => hleast o hoff (lt_of_le_of_ne (Nat.lt_succ_iff.mp hlt) (hno o hoff))⟩

theorem Scanned.step {sqrt : K → K} (hsqrt : ∀ x y : K, 0 ≤ x → x < y → sqrt x < sqrt y) {q : Config K} {m : ℕ}
    {best : ℕ × Option K} (h : Scanned sqrt q nodes m best) :
    Scanned sqrt q nodes (m + 1) (scan sqrt q nodes best m) := by
  unfold scan
  cases hn : nodes[m]? with
  | none =>
    refine h.skip ?_
    rintro o ⟨n', hn', -⟩ rfl
    rw [hn] at hn'
    cases hn'
  | some n =>
    have hsame : ∀ o, Offered q nodes o → o.1 = m → o.2 = dist2 n.q q ∧ n.blocked = false := by
      rintro o ⟨n', hn', hblocked, hd⟩ rfl
      obtain rfl := Option.some.inj (hn.symm.trans hn')
      exact ⟨hd, hblocked⟩
    dsimp only
    by_cases hblocked : n.blocked = true
    · rw [if_pos hblocked]
      exact h.skip fun o ho hm => absurd (hsame o ho hm).2 (by simp [hblocked])
    rw [if_neg hblocked]
    have hoffered : Offered q nodes (m, dist2 n.q q) := ⟨n, hn, Bool.eq_false_of_not_eq_true hblocked, rfl⟩
    rcases h with ⟨rfl, hnone⟩ | ⟨d, hd, ho, hfirst, hleast⟩
    · refine Or.inr ⟨dist2 n.q q, rfl, hoffered, Nat.lt_succ_self m, fun o ho hlt => ?_⟩
      have hm : o.1 = m := le_antisymm (Nat.lt_succ_iff.mp hlt) (hnone o ho)
      exact Or.inr ⟨(hsame o ho hm).1.symm, hm.ge⟩
    · have hdpos : 0 ≤ d := by
        obtain ⟨n', -, -, rfl⟩ := ho
        exact dist2_nonneg _ _
      rw [hd]
      dsimp only
      by_cases hcloser : dist2 n.q q < d
      · have hless : dist sqrt n.q q < sqrt d := hsqrt _ _ (dist2_nonneg _ _) hcloser
        rw [if_pos hless]
        refine Or.inr ⟨dist2 n.q q, rfl, hoffered, Nat.lt_succ_self m, fun o ho' hlt => ?_⟩
        rcases (Nat.lt_succ_iff.mp hlt).lt_or_eq with hlt | hm
        · rcases hleast o ho' hlt with h | ⟨h, -⟩
          · exact Or.inl (hcloser.trans h)
          · exact Or.inl (h ▸ hcloser)
        · exact Or.inr ⟨(hsame o ho' hm).1.symm, hm.ge⟩
      · have hnot : ¬ dist sqrt n.q q < sqrt d := by
          rcases (not_lt.mp hcloser).lt_or_eq with hlt | heq
          · exact not_lt.mpr (hsqrt _ _ hdpos hlt).le
          · rw [dist, ← heq]
            exact lt_irrefl _
        rw [if_neg hnot]
        refine Or.inr ⟨d, hd, ho, Nat.lt_succ_of_lt hfirst, fun o ho' hlt => ?_⟩
        rcases (Nat.lt_succ_iff.mp hlt).lt_or_eq with hlt | hm
        · exact hleast o ho' hlt
        · rw [(hsame o ho' hm).1, hm]
          rcases (not_lt.mp hcloser).lt_or_eq with h | h
          · exact Or.inl h
          · exact Or.inr ⟨h, hfirst.le⟩

theorem scanned_foldl {sqrt : K → K} (hsqrt : ∀ x y : K, 0 ≤ x → x < y → sqrt x < sqrt y) (q : Config K) (m : ℕ) :
    Scanned sqrt q nodes m ((List.range m).foldl (scan sqrt q nodes) (0, none)) := by
  induction m with
  | zero => exact Or.inl ⟨rfl, fun o _ => Nat.zero_le o.1⟩
  | succ m ih =>
    rw [List.range_succ, List.foldl_append]
    exact ih.step hsqrt

end

end RbServo.InitMotion
