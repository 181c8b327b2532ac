import RoboticsLab.InitMotion.Plan

/-!
# The path between two search trees

    validated trees that have met : a path from start to goal, its edges clear   (raw_spec)
    shortcuts keep its ends and its edges                                        (shortened_shortcut)

The goal's tree is built backwards, so its edges are checked towards the root and driven away from it.
The samples of an edge are the same both ways but for its ends, and those are nodes: only the root of the
goal's tree has not been checked by the search.
-/

namespace RbServo.InitMotion

open Collision

/-! ## Cutting corners -/

section

/-- Two lists that share a point, joined at it. -/
theorem overlap_spec {α : Type*} {R : α → α → Prop} {xs ys : List α} {x : α} (hx : xs.getLast? = some x)
    (hy : ys.head? = some x) :
    (xs ++ ys.tail).head? = xs.head? ∧ (xs ++ ys.tail).getLast? = ys.getLast? ∧
      (xs.IsChain R → ys.IsChain R → (xs ++ ys.tail).IsChain R) := by
  obtain ⟨zs, rfl⟩ := List.getLast?_eq_some_iff.mp hx
  obtain ⟨ws, rfl⟩ := List.head?_eq_some_iff.mp hy
  rw [List.tail_cons, List.append_assoc, List.singleton_append]
  refine ⟨?_, ?_, fun hxs hys => List.isChain_split.mpr ⟨hxs, hys⟩⟩
  · cases zs <;> rfl
  · rw [List.getLast?_append_of_ne_nil _ (List.cons_ne_nil x ws)]

variable {K : Type*}

theorem pathEdgesClear_iff {edge : Config K → Config K → Bool} {path : List (Config K)} :
    pathEdgesClear edge path = true ↔ path.IsChain fun a b => edge a b = true := by
  induction path with
  | nil => simp [pathEdgesClear]
  | cons a path ih =>
    cases path with
    | nil => simp [pathEdgesClear]
    | cons b path => rw [pathEdgesClear, Bool.and_eq_true, ih, List.isChain_cons_cons]

/-- What a shortcut keeps of a path. -/
structure Shortened (edge : Config K → Config K → Bool) (path short : List (Config K)) : Prop where
  head : short.head? = path.head?
  last : short.getLast? = path.getLast?
  mem : ∀ q ∈ short, q ∈ path
  chain : path.IsChain (fun a b => edge a b = true) → short.IsChain fun a b => edge a b = true

theorem Shortened.refl (edge : Config K → Config K → Bool) (path : List (Config K)) : Shortened edge path path :=
  ⟨rfl, rfl, fun _ hq => hq, id⟩

theorem Shortened.trans {edge : Config K → Config K → Bool} {path short shorter : List (Config K)}
    (h : Shortened edge path short) (h' : Shortened edge short shorter) : Shortened edge path shorter :=
  ⟨h'.head.trans h.head, h'.last.trans h.last, fun q hq => h.mem q (h'.mem q hq), fun hc => h'.chain (h.chain hc)⟩

/-- Between two points of a path with a clear edge, everything else is cut out. -/
theorem shortened_cut {edge : Config K → Config K → Bool} {path : List (Config K)} {i j : ℕ} {a b : Config K}
    (ha : path[i]? = some a) (hb : path[j]? = some b) (hedge : edge a b = true) :
    Shortened edge path (path.take (i + 1) ++ path.drop j) := by
  have htake : (path.take (i + 1)).getLast? = some a := by
    rw [List.getLast?_take, if_neg (Nat.succ_ne_zero i), Nat.add_sub_cancel, ha]
    rfl
  have hdrop : (path.drop j).head? = some b := by rw [List.head?_drop, hb]
  have hi : i < path.length := (List.getElem?_eq_some_iff.mp ha).1
  refine ⟨?_, ?_, fun q hq => ?_, fun hchain => ?_⟩
  · cases path with
    | nil => simp at hi
    | cons x path => rfl
  · have hj : j < path.length := (List.getElem?_eq_some_iff.mp hb).1
    rw [List.getLast?_append, List.getLast?_drop, if_neg (by omega)]
    cases hlast : path.getLast? with
    | none => simp_all
    | some x => rfl
  · rcases List.mem_append.mp hq with hq | hq
    · exact List.mem_of_mem_take hq
    · exact List.mem_of_mem_drop hq
  · refine List.isChain_append.mpr ⟨hchain.take (i + 1), hchain.drop j, fun x hx y hy => ?_⟩
    rw [htake, Option.mem_def, Option.some.injEq] at hx
    rw [hdrop, Option.mem_def, Option.some.injEq] at hy
    rw [← hx, ← hy]
    exact hedge

end

section

variable {K : Type*} [Field K] [LinearOrder K] [FloorSemiring K] {sqrt : K → K}

theorem shortened_pass (edge : Config K → Config K → Bool) (path : List (Config K)) (u : K × K) :
    Shortened edge path (shortcutPass edge path u) := by
  unfold shortcutPass
  split
  · exact Shortened.refl edge path
  dsimp only
  split
  · exact Shortened.refl edge path
  split
  · rename_i a b ha hb
    split
    · rename_i hedge
      exact shortened_cut ha hb hedge
    · exact Shortened.refl edge path
  · exact Shortened.refl edge path

theorem shortened_shortcut (c : Call K) (ch : Chance K) (path : List (Config K)) :
    Shortened (c.edge sqrt) path (c.shortcut sqrt ch path) := by
  unfold Call.shortcut
  generalize (List.range c.planner.cfg.shortcutPasses).map ch.shortcuts = us
  induction us generalizing path with
  | nil => exact Shortened.refl _ path
  | cons u us ih => exact (shortened_pass _ path u).trans (ih _)

end

/-! ## Two trees -/

section

variable {K : Type*}

theorem mem_rootPath {t : RrtTree K} {i : ℕ} {q : Config K} (h : q ∈ rootPath t i) : ∃ n ∈ t.nodes, q = n.q := by
  obtain ⟨j, -, hj⟩ := List.mem_filterMap.mp h
  obtain ⟨n, hn, rfl⟩ := Option.map_eq_some_iff.mp hj
  exact ⟨n, List.mem_of_getElem? hn, rfl⟩

theorem SameShape.getLast? {nodes nodes' : List (Node K)} (h : SameShape nodes nodes') {n : Node K}
    (hn : nodes.getLast? = some n) : ∃ n', nodes'.getLast? = some n' ∧ n'.q = n.q := by
  rw [List.getLast?_eq_getElem?] at hn ⊢
  rw [h.length_eq]
  obtain ⟨n', hn', hq, -⟩ := h.symm.get hn
  exact ⟨n', hn', hq⟩

/-- The last nodes of both trees are at one point. -/
def Met (a b : RrtTree K) : Prop := ∃ n m, a.nodes.getLast? = some n ∧ b.nodes.getLast? = some m ∧ n.q = m.q

theorem Met.of_same {a b a' b' : RrtTree K} (h : Met a b) (ha : SameShape a.nodes a'.nodes)
    (hb : SameShape b.nodes b'.nodes) : Met a' b' := by
  obtain ⟨n, m, hn, hm, hq⟩ := h
  obtain ⟨n', hn', hqn⟩ := ha.getLast? hn
  obtain ⟨m', hm', hqm⟩ := hb.getLast? hm
  exact ⟨n', m', hn', hm', by rw [hqn, hqm, hq]⟩

/-- The path from the root to the last node has clear edges. -/
def Validated (o : Oracle K) (t : RrtTree K) : Prop :=
  (rootPath t (t.nodes.length - 1)).IsChain fun a b => o.edge a b = true

variable [LinearOrder K] {P : Config K → Prop}

/-- A sound tree whose points have a property. -/
structure Within (o : Oracle K) (root : Config K) (P : Config K → Prop) (t : RrtTree K) : Prop where
  sound : TreeSound o root t
  points : ∀ n ∈ t.nodes, P n.q

theorem Within.of_keeps {o : Oracle K} {root : Config K} {t t' : RrtTree K} (h : Within o root P t)
    (hkeeps : Keeps o root t t') : Within o root P t' := by
  refine ⟨hkeeps.sound, fun n' hn' => ?_⟩
  obtain ⟨i, hi⟩ := List.mem_iff_getElem?.mp hn'
  obtain ⟨n, hn, hq, -⟩ := hkeeps.same.get hi
  rw [← hq]
  exact h.points n (List.mem_of_getElem? hn)

/-- The ends of the path to the last node. -/
theorem rootPath_ends {o : Oracle K} {root : Config K} {t : RrtTree K} (h : TreeSound o root t) {n : Node K}
    (hn : t.nodes.getLast? = some n) :
    (rootPath t (t.nodes.length - 1)).head? = some root ∧ (rootPath t (t.nodes.length - 1)).getLast? = some n.q := by
  rw [List.getLast?_eq_getElem?] at hn
  exact ⟨h.linked.head?_rootPath hn, h.linked.getLast?_rootPath hn⟩

variable [Field K] [FloorSemiring K]

theorem validated_last {o : Oracle K} {root : Config K} {t : RrtTree K} (h : TreeSound o root t)
    (hv : (validatePathToRoot o t (t.nodes.length - 1)).1 = true) :
    Validated o (validatePathToRoot o t (t.nodes.length - 1)).2 := by
  have hsame := (validatePathToRoot_keeps h (t.nodes.length - 1)).same
  rw [Validated, hsame.length_eq, hsame.rootPath_eq]
  exact validatePathToRoot_true h hv

theorem validateBoth_keeps {o : Oracle K} {ra rb : Config K} {a b : RrtTree K} (ha : TreeSound o ra a)
    (hb : TreeSound o rb b) : Keeps o ra a (validateBoth o a b).2.1 ∧ Keeps o rb b (validateBoth o a b).2.2 := by
  unfold validateBoth
  dsimp only
  split
  · exact ⟨validatePathToRoot_keeps ha _, validatePathToRoot_keeps hb _⟩
  · exact ⟨validatePathToRoot_keeps ha _, Keeps.refl hb⟩

theorem validateBoth_true {o : Oracle K} {ra rb : Config K} {a b : RrtTree K} (ha : TreeSound o ra a)
    (hb : TreeSound o rb b) (h : (validateBoth o a b).1 = true) :
    Validated o (validateBoth o a b).2.1 ∧ Validated o (validateBoth o a b).2.2 := by
  unfold validateBoth at h ⊢
  dsimp only at h ⊢
  split at h
  · rename_i hva
    rw [if_pos hva]
    exact ⟨validated_last ha hva, validated_last hb h⟩
  · cases h

end

/-! ## Edges -/

section

variable {K : Type*} [Field K] [LinearOrder K] [IsStrictOrderedRing K] [FloorSemiring K] {sqrt : K → K} {c : Call K}

/-- An edge is checked at its end. -/
theorem edge_end {a b : Config K} (h : c.edge sqrt a b = true) : c.clear b = true :=
  List.all_eq_true.mp h b (end_mem_samples a b (one_le_pieces _ _))

theorem oracle_consistent (sqrt : K → K) (c : Call K) : (c.oracle sqrt).Consistent := fun _ _ => edge_end

/-- **Backwards, an edge is as clear** as its other end. -/
theorem edge_swap {a b : Config K} (h : c.edge sqrt a b = true) (ha : c.clear a = true) : c.edge sqrt b a = true := by
  refine List.all_eq_true.mpr fun q hq => ?_
  rw [dist_comm] at hq
  rcases mem_samples_swap hq with rfl | hq
  · exact ha
  · exact List.all_eq_true.mp h q hq

/-! ## The search -/

/-- A property that segments keep. -/
def Convex (P : Config K → Prop) : Prop := ∀ a b s, P a → P b → 0 ≤ s → s ≤ 1 → P (lerp a b s)

omit [FloorSemiring K] in
theorem stepDeg_pos (c : Call K) : 0 < c.stepDeg := lt_of_lt_of_le (by positivity) (le_max_left _ _)

variable {P : Config K → Prop} {start goal : Config K}

theorem Within.extend {root : Config K} {t : RrtTree K} (h : Within (c.oracle sqrt) root P t) (hconvex : Convex P)
    {target : Config K} (htarget : P target) :
    Within (c.oracle sqrt) root P (extend sqrt (c.oracle sqrt) t target c.stepDeg).2 :=
  ⟨h.sound.extend sqrt (oracle_consistent sqrt c) target c.stepDeg,
    extend_forall h.points htarget hconvex (stepDeg_pos c).le⟩

/-- **One iteration** keeps both trees; when it reaches its point, the trees have met. -/
theorem grow_spec (hconvex : Convex P) {d : Draw K}
    (htarget : ∀ opposite, P opposite → P (c.target start goal opposite d))
    {ri rj : Config K} {ti tj : RrtTree K} (hi : Within (c.oracle sqrt) ri P ti) (hj : Within (c.oracle sqrt) rj P tj)
    {fuel : ℕ} {met : Bool} {ti' tj' : RrtTree K} (h : c.grow sqrt fuel start goal d ti tj = some (met, ti', tj')) :
    Within (c.oracle sqrt) ri P ti' ∧ Within (c.oracle sqrt) rj P tj' ∧ (met = true → Met ti' tj') := by
  unfold Call.grow at h
  split at h
  · simp only [Option.some.injEq, Prod.mk.injEq] at h
    obtain ⟨rfl, rfl, rfl⟩ := h
    exact ⟨hi, hj, by simp⟩
  rename_i front hfront
  have hgrown := hi.extend hconvex (htarget front.q (hj.points front (List.mem_of_head? hfront)))
  split at h
  · rename_i t he
    simp only [Option.some.injEq, Prod.mk.injEq] at h
    obtain ⟨rfl, rfl, rfl⟩ := h
    rw [he] at hgrown
    exact ⟨hgrown, hj, by simp⟩
  rename_i e t _ he
  rw [he] at hgrown
  split at h
  · simp only [Option.some.injEq, Prod.mk.injEq] at h
    obtain ⟨rfl, rfl, rfl⟩ := h
    exact ⟨hgrown, hj, by simp⟩
  rename_i back hback
  split at h
  · rename_i e' t' hconnect
    simp only [Option.some.injEq, Prod.mk.injEq] at h
    obtain ⟨rfl, rfl, rfl⟩ := h
    refine ⟨hgrown, connect_keeps (fun t ht => ht.extend hconvex (hgrown.points back (List.mem_of_getLast? hback))) hj
      hconnect, fun hmet => ?_⟩
    rw [of_decide_eq_true hmet] at hconnect
    obtain ⟨m, hm, hq⟩ := connect_reached hconnect
    exact ⟨back, m, hback, hm, hq.symm⟩
  · cases h

theorem iterate_spec (hconvex : Convex P) {d : Draw K}
    (htarget : ∀ opposite, P opposite → P (c.target start goal opposite d))
    {a b : RrtTree K} (ha : Within (c.oracle sqrt) start P a) (hb : Within (c.oracle sqrt) goal P b) {fuel iter : ℕ}
    {connected : Bool} {a' b' : RrtTree K} (h : c.iterate sqrt fuel start goal iter d a b = some (connected, a', b')) :
    Within (c.oracle sqrt) start P a' ∧ Within (c.oracle sqrt) goal P b' ∧
      (connected = true → Met a' b' ∧ Validated (c.oracle sqrt) a' ∧ Validated (c.oracle sqrt) b') := by
  -- the trees, in the roles that they have in this iteration
  have hgrow : ∀ met a' b', (if iter % 2 = 0 then c.grow sqrt fuel start goal d a b
      else (c.grow sqrt fuel start goal d b a).map fun r => (r.1, r.2.2, r.2.1)) = some (met, a', b') →
      Within (c.oracle sqrt) start P a' ∧ Within (c.oracle sqrt) goal P b' ∧ (met = true → Met a' b') := by
    intro met a' b' hg
    split at hg
    · exact grow_spec hconvex htarget ha hb hg
    · obtain ⟨⟨met', b'', a''⟩, hg', he⟩ := Option.map_eq_some_iff.mp hg
      simp only [Prod.mk.injEq] at he
      obtain ⟨rfl, rfl, rfl⟩ := he
      obtain ⟨hb', ha', hmet⟩ := grow_spec hconvex htarget hb ha hg'
      refine ⟨ha', hb', fun hm => ?_⟩
      obtain ⟨n, m, hn, hm', hq⟩ := hmet hm
      exact ⟨m, n, hm', hn, hq.symm⟩
  unfold Call.iterate at h
  dsimp only at h
  split at h
  · rename_i a₁ b₁ hg
    obtain ⟨ha₁, hb₁, hmet⟩ := hgrow true a₁ b₁ hg
    obtain ⟨hka, hkb⟩ := validateBoth_keeps ha₁.sound hb₁.sound
    have hvalid := validateBoth_true ha₁.sound hb₁.sound
    rw [Option.some.injEq] at h
    rw [h] at hka hkb hvalid
    exact ⟨ha₁.of_keeps hka, hb₁.of_keeps hkb, fun hc => ⟨(hmet rfl).of_same hka.same hkb.same, hvalid hc⟩⟩
  · rename_i hnot
    obtain ⟨ha', hb', -⟩ := hgrow connected a' b' h
    refine ⟨ha', hb', fun hconnected => ?_⟩
    rw [hconnected] at h
    exact absurd h (hnot a' b')

/-- **The search**, from trees that are sound. -/
theorem search_spec (hconvex : Convex P) {draws : List (Draw K)}
    (htarget : ∀ d ∈ draws, ∀ opposite, P opposite → P (c.target start goal opposite d)) {fuel iter : ℕ}
    {a b : RrtTree K} (ha : Within (c.oracle sqrt) start P a) (hb : Within (c.oracle sqrt) goal P b)
    {connected : Bool} {k : ℕ} {a' b' : RrtTree K}
    (h : c.search sqrt fuel start goal iter draws a b = some (connected, k, a', b')) :
    Within (c.oracle sqrt) start P a' ∧ Within (c.oracle sqrt) goal P b' ∧
      (connected = true → Met a' b' ∧ Validated (c.oracle sqrt) a' ∧ Validated (c.oracle sqrt) b') := by
  have hdone : ∀ {a b : RrtTree K} {iter : ℕ}, Within (c.oracle sqrt) start P a → Within (c.oracle sqrt) goal P b →
      some (false, iter, a, b) = some (connected, k, a', b') →
      Within (c.oracle sqrt) start P a' ∧ Within (c.oracle sqrt) goal P b' ∧
        (connected = true → Met a' b' ∧ Validated (c.oracle sqrt) a' ∧ Validated (c.oracle sqrt) b') := by
    intro a b iter ha hb he
    simp only [Option.some.injEq, Prod.mk.injEq] at he
    obtain ⟨rfl, -, rfl, rfl⟩ := he
    exact ⟨ha, hb, by simp⟩
  induction draws generalizing iter a b with
  | nil => exact hdone ha hb h
  | cons d draws ih =>
    rw [Call.search] at h
    split at h
    · exact hdone ha hb h
    split at h
    · cases h
    · rename_i a₁ b₁ hit
      simp only [Option.some.injEq, Prod.mk.injEq] at h
      obtain ⟨rfl, -, rfl, rfl⟩ := h
      exact iterate_spec hconvex (htarget d List.mem_cons_self) ha hb hit
    · rename_i a₁ b₁ hit
      obtain ⟨ha₁, hb₁, -⟩ := iterate_spec hconvex (htarget d List.mem_cons_self) ha hb hit
      exact ih (fun d' hd' => htarget d' (List.mem_cons_of_mem d hd')) ha₁ hb₁ h

/-! ## The path between the trees -/

/-- **The path through both trees**: forwards through the start's, backwards through the goal's. -/
theorem raw_spec {a b : RrtTree K} (ha : Within (c.oracle sqrt) start P a) (hb : Within (c.oracle sqrt) goal P b)
    (hmet : Met a b) (hva : Validated (c.oracle sqrt) a) (hvb : Validated (c.oracle sqrt) b) {raw : List (Config K)}
    (hraw : raw = rootPath a (a.nodes.length - 1) ++ (rootPath b (b.nodes.length - 1)).reverse.tail) :
    raw.head? = some start ∧ raw.getLast? = some goal ∧ (∀ q ∈ raw, P q) ∧
      (c.clear goal = true → raw.IsChain fun x y => c.edge sqrt x y = true) := by
  obtain ⟨n, m, hn, hm, hq⟩ := hmet
  obtain ⟨hheadA, hlastA⟩ := rootPath_ends ha.sound hn
  obtain ⟨hheadB, hlastB⟩ := rootPath_ends hb.sound hm
  have hshared : (rootPath b (b.nodes.length - 1)).reverse.head? = some n.q := by
    rw [List.head?_reverse, hlastB, hq]
  obtain ⟨hhead, hlast, hchain⟩ := overlap_spec (R := fun x y => c.edge sqrt x y = true) hlastA hshared
  subst hraw
  refine ⟨hhead.trans hheadA, hlast.trans (by rw [List.getLast?_reverse, hheadB]), fun q hq => ?_, fun hgoal => ?_⟩
  · rcases List.mem_append.mp hq with hq | hq
    · obtain ⟨n, hn, rfl⟩ := mem_rootPath hq
      exact ha.points n hn
    · obtain ⟨n, hn, rfl⟩ := mem_rootPath (List.mem_reverse.mp (List.mem_of_mem_tail hq))
      exact hb.points n hn
  · refine hchain hva ?_
    rw [List.isChain_reverse]
    refine hvb.imp_of_mem_imp fun x y hx hy hxy => edge_swap hxy ?_
    -- the nodes of the goal's tree are clear, and so is its root
    obtain ⟨k, hk, rfl⟩ := mem_rootPath hx
    obtain ⟨i, hi⟩ := List.mem_iff_getElem?.mp hk
    by_cases h0 : i = 0
    · rw [h0, hb.sound.linked.head] at hi
      obtain rfl := Option.some.inj hi
      exact hgoal
    · exact hb.sound.clear i k hi h0

theorem rawPath_spec (hconvex : Convex P) {ch : Chance K}
    (htarget : ∀ i opposite, P opposite → P (c.target start goal opposite (ch.draws i))) (hstart : P start)
    (hgoal : P goal)
    {fuel : ℕ} {s : Search K} (h : c.rawPath sqrt ch fuel start goal = some s) {raw : List (Config K)}
    (hraw : s.raw = some raw) :
    raw.head? = some start ∧ raw.getLast? = some goal ∧ (∀ q ∈ raw, P q) ∧
      (c.clear goal = true → raw.IsChain fun x y => c.edge sqrt x y = true) := by
  have hreset : ∀ root, P root → Within (c.oracle sqrt) root P (RrtTree.reset root) := fun root hroot =>
    ⟨treeSound_reset _ root, fun n hn => by rw [List.mem_singleton.mp hn]; exact hroot⟩
  rw [Call.rawPath] at h
  split at h
  · rename_i hedge
    obtain rfl := Option.some.inj h
    obtain rfl := Option.some.inj hraw
    refine ⟨rfl, rfl, fun q hq => ?_, fun _ => List.isChain_pair.mpr hedge⟩
    rcases List.mem_cons.mp hq with rfl | hq
    · exact hstart
    · rw [List.mem_singleton.mp hq]
      exact hgoal
  split at h
  · cases h
  · rename_i connected k a b hsearch
    obtain rfl := Option.some.inj h
    have hdraws : ∀ d ∈ (List.range c.planner.cfg.maxIterations).map ch.draws, ∀ opposite, P opposite →
        P (c.target start goal opposite d) := by
      intro d hd
      obtain ⟨i, -, rfl⟩ := List.mem_map.mp hd
      exact htarget i
    obtain ⟨ha, hb, hconnected⟩ := search_spec hconvex hdraws (hreset start hstart) (hreset goal hgoal) hsearch
    dsimp only at hraw
    split at hraw
    · rename_i hc
      obtain ⟨hmet, hva, hvb⟩ := hconnected hc
      exact raw_spec ha hb hmet hva hvb (Option.some.inj hraw).symm
    · cases hraw

end

end RbServo.InitMotion
