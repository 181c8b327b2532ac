import RoboticsLab.InitMotion.NearestNode
import RoboticsLab.Lib.ParentTree

/-!
# `RrtTree`: growing, validating and blocking a search tree

`extend` adds one node between the nearest node and a target.  With `lazy_edges` it asks the oracle
about the new node alone; `validatePathToRoot` asks about the edges of a path later, and an edge that
fails is blacklisted and everything beyond it blocked.

    TreeSound : links go back to the root, marked edges are clear, what is beyond a blocked node is blocked
    a fresh tree has it                              (treeSound_reset)
    a new node, a mark and a refused subtree keep it (TreeSound.push, .markValidated, .blockSubtree)
-/

namespace RbServo.InitMotion

open ParentTree

/-- The two roundings of an edge, `edgeKey` before they are printed. -/
abbrev EdgeKey := List ℤ × List ℤ

structure RrtTree (K : Type*) where
  nodes : List (Node K)
  kd : KdTree K
  blacklistedEdges : List EdgeKey

inductive Extend
  | trapped
  | advanced
  | reached
deriving DecidableEq

section

variable {K : Type*} [Field K] [LinearOrder K]

/-! ## Algorithm -/

def RrtTree.reset (rootQ : Config K) : RrtTree K := ⟨[⟨rootQ, none, true, false⟩], KdTree.insert .empty rootQ 0, []⟩

def RrtTree.push (t : RrtTree K) (n : Node K) : RrtTree K :=
  { t with nodes := t.nodes ++ [n], kd := t.kd.insert n.q t.nodes.length }

def RrtTree.parent (t : RrtTree K) (i : ℕ) : Option ℕ := (t.nodes[i]?).bind (·.parent)

def rootPath (t : RrtTree K) (leaf : ℕ) : List (Config K) :=
  (pathTo t.parent leaf).filterMap fun i => (t.nodes[i]?).map (·.q)

/-- The number of nodes that are not blocked. -/
def openCount (nodes : List (Node K)) : ℕ := nodes.countP fun n => !n.blocked

def block (nodes : List (Node K)) (i : ℕ) : List (Node K) := nodes.modify i fun n => { n with blocked := true }

omit [Field K] [LinearOrder K] in
theorem openCount_block_lt {nodes : List (Node K)} {i : ℕ} {n : Node K} (hn : nodes[i]? = some n)
    (hopen : n.blocked = false) : openCount (block nodes i) < openCount nodes := by
  induction nodes generalizing i with
  | nil => simp at hn
  | cons m nodes ih =>
    cases i with
    | zero =>
      obtain rfl := Option.some.inj hn
      simp [openCount, block, hopen]
    | succ i =>
      have := ih hn
      simp only [openCount, block, List.modify_succ_cons, List.countP_cons] at this ⊢
      omega

/-- The children of a node, the last one on top of the stack. -/
def childrenOf (nodes : List (Node K)) (cur : ℕ) : List ℕ :=
  ((List.range nodes.length).filter fun i => 1 ≤ i ∧ (nodes[i]?).bind (·.parent) = some cur).reverse

/-- The loop of `blockSubtree` over its stack. -/
def blockStack (nodes : List (Node K)) : List ℕ → List (Node K)
  | [] => nodes
  | cur :: stack =>
    match h : nodes[cur]? with
    | some n =>
      if hblocked : n.blocked then blockStack nodes stack
      else
        have := openCount_block_lt h (Bool.eq_false_of_not_eq_true hblocked)
        blockStack (block nodes cur) (childrenOf (block nodes cur) cur ++ stack)
    | none => blockStack nodes stack
termination_by stack => (openCount nodes, stack.length)

def blockSubtree (t : RrtTree K) (rootIdx : ℕ) : RrtTree K :=
  if rootIdx = 0 ∨ t.nodes.length ≤ rootIdx then t else { t with nodes := blockStack t.nodes [rootIdx] }

variable [FloorSemiring K] (sqrt : K → K)

/-- Halves away from zero. -/
def llround (x : K) : ℤ := if x < 0 then -(⌊-x + 1 / 2⌋₊ : ℤ) else (⌊x + 1 / 2⌋₊ : ℤ)

def edgeKey (a b : Config K) : EdgeKey :=
  let qa := List.ofFn fun i => llround (a i * 10 ^ 6)
  let qb := List.ofFn fun i => llround (b i * 10 ^ 6)
  if List.lex qb qa (fun x y => decide (x < y)) then (qb, qa) else (qa, qb)

/-- The oracle's questions: one configuration, one edge; and whether edges wait. -/
structure Oracle (K : Type*) where
  clear : Config K → Bool
  edge : Config K → Config K → Bool
  lazyEdges : Bool

variable (o : Oracle K)

/-- Hang `qNew` below node `ni`, unless the edge is blacklisted or not valid. -/
def RrtTree.attach (t : RrtTree K) (ni : ℕ) (near : Node K) (qNew : Config K) (e : Extend) : Extend × RrtTree K :=
  if edgeKey near.q qNew ∈ t.blacklistedEdges then (.trapped, t)
  else if (if o.lazyEdges then o.clear qNew else o.edge near.q qNew) then
    (e, t.push ⟨qNew, some ni, !o.lazyEdges, false⟩)
  else (.trapped, t)

/-- Steer from the nearest node towards `target` by at most `stepDeg`. -/
def extend (t : RrtTree K) (target : Config K) (stepDeg : K) : Extend × RrtTree K :=
  match t.kd.nearest target t.nodes with
  | none => (.trapped, t)
  | some ni =>
    match t.nodes[ni]? with
    | none => (.trapped, t)
    | some near =>
      if dist sqrt near.q target ≤ stepDeg ∨ dist sqrt near.q target < 1 / 10 ^ 9 then
        t.attach o ni near target .reached
      else t.attach o ni near (lerp near.q target (stepDeg / dist sqrt near.q target)) .advanced

/-- `connect`, as far as `fuel` calls of `extend` go. -/
def connect (stepDeg : K) (target : Config K) : ℕ → RrtTree K → Option (Extend × RrtTree K)
  | 0, _ => none
  | fuel + 1, t =>
    match extend sqrt o t target stepDeg with
    | (.advanced, t') => connect stepDeg target fuel t'
    | result => some result

def markValidated (t : RrtTree K) (i : ℕ) : RrtTree K :=
  { t with nodes := t.nodes.modify i fun n => { n with edgeValidated := true } }

/-- The loop of `validatePathToRoot` over the nodes below the root. -/
def validateIds : List ℕ → RrtTree K → Bool × RrtTree K
  | [], t => (true, t)
  | child :: rest, t =>
    match t.nodes[child]?, (t.parent child).bind (t.nodes[·]?) with
    | some n, some p =>
      if n.blocked then (false, t)
      else if n.edgeValidated then validateIds rest t
      else if o.edge p.q n.q then validateIds rest (markValidated t child)
      else (false, blockSubtree { t with blacklistedEdges := edgeKey p.q n.q :: t.blacklistedEdges } child)
    | _, _ => (false, t)

def validatePathToRoot (t : RrtTree K) (leaf : ℕ) : Bool × RrtTree K :=
  if t.nodes.length ≤ leaf then (false, t) else validateIds o (pathTo t.parent leaf).tail t

end

/-! ## Statement -/

section

variable {K : Type*} [Field K] [LinearOrder K]

/-- The way back from every node: an earlier parent, up to the root. -/
structure Linked (root : Config K) (nodes : List (Node K)) : Prop where
  head : nodes[0]? = some ⟨root, none, true, false⟩
  parent : ∀ (i : ℕ) (n : Node K), nodes[i]? = some n → i ≠ 0 → ∃ p, n.parent = some p ∧ p < i

/-- The children of a blocked node are blocked, or wait on the stack. -/
def ClosedBut (nodes : List (Node K)) (stack : List ℕ) : Prop :=
  ∀ (i : ℕ) (n : Node K) (p : ℕ) (m : Node K), nodes[i]? = some n → n.parent = some p → nodes[p]? = some m →
    m.blocked = true → n.blocked = true ∨ i ∈ stack

structure TreeSound (o : Oracle K) (root : Config K) (t : RrtTree K) : Prop where
  linked : Linked root t.nodes
  index : Indexes t.kd t.nodes
  closed : ClosedBut t.nodes []
  clear : ∀ (i : ℕ) (n : Node K), t.nodes[i]? = some n → i ≠ 0 → o.clear n.q = true
  marked : ∀ (i : ℕ) (n : Node K) (p : ℕ) (m : Node K), t.nodes[i]? = some n → n.parent = some p →
    t.nodes[p]? = some m → n.edgeValidated = true → o.edge m.q n.q = true

def Node.shape {K : Type*} (n : Node K) : Config K × Option ℕ := (n.q, n.parent)

/-- `nodes'` is `nodes` with other marks and blocks. -/
def SameShape (nodes nodes' : List (Node K)) : Prop :=
  ∀ i : ℕ, (nodes'[i]?).map Node.shape = (nodes[i]?).map Node.shape

end

/-! ## Shape -/

section

variable {K : Type*}

theorem SameShape.refl (nodes : List (Node K)) : SameShape nodes nodes := fun _ => rfl

theorem SameShape.trans {nodes nodes' nodes'' : List (Node K)} (h : SameShape nodes nodes')
    (h' : SameShape nodes' nodes'') : SameShape nodes nodes'' := fun i => (h' i).trans (h i)

theorem SameShape.get {nodes nodes' : List (Node K)} (h : SameShape nodes nodes') {i : ℕ} {n' : Node K}
    (hn : nodes'[i]? = some n') : ∃ n, nodes[i]? = some n ∧ n.q = n'.q ∧ n.parent = n'.parent := by
  have hi := h i
  rw [hn, Option.map_some] at hi
  obtain ⟨n, hn, he⟩ := Option.map_eq_some_iff.mp hi.symm
  exact ⟨n, hn, congrArg Prod.fst he, congrArg Prod.snd he⟩

theorem SameShape.symm {nodes nodes' : List (Node K)} (h : SameShape nodes nodes') : SameShape nodes' nodes :=
  fun i => (h i).symm

theorem SameShape.points {nodes nodes' : List (Node K)} (h : SameShape nodes nodes') :
    nodes'.map (·.q) = nodes.map (·.q) := by
  refine List.ext_getElem? fun i => ?_
  have hi := congrArg (Option.map Prod.fst) (h i)
  rw [Option.map_map, Option.map_map] at hi
  rw [List.getElem?_map, List.getElem?_map]
  exact hi

theorem SameShape.length_eq {nodes nodes' : List (Node K)} (h : SameShape nodes nodes') :
    nodes'.length = nodes.length := by
  have := congrArg List.length h.points
  rwa [List.length_map, List.length_map] at this

theorem sameShape_modify (nodes : List (Node K)) (i : ℕ) (f : Node K → Node K)
    (hf : ∀ n, (f n).shape = n.shape) : SameShape nodes (nodes.modify i f) := by
  intro j
  rw [List.getElem?_modify]
  cases nodes[j]? with
  | none => rfl
  | some n =>
    rw [Option.map_eq_map, Option.map_some, Option.map_some, Option.map_some]
    split
    · rw [hf n]
    · rfl

theorem SameShape.parent_eq {t t' : RrtTree K} (h : SameShape t.nodes t'.nodes) : t'.parent = t.parent := by
  funext i
  have hi := congrArg (Option.bind · Prod.snd) (h i)
  simpa [RrtTree.parent, Option.bind_map, Function.comp_def, Node.shape] using hi

/-! ## Links -/

variable {root : Config K} {t : RrtTree K}

theorem Linked.of_sameShape {nodes nodes' : List (Node K)} (h : Linked root nodes) (hsame : SameShape nodes nodes')
    (hhead : nodes'[0]? = nodes[0]?) : Linked root nodes' := by
  refine ⟨hhead.trans h.head, fun i n hn hi => ?_⟩
  obtain ⟨n', hn', -, hparent⟩ := hsame.get hn
  rw [← hparent]
  exact h.parent i n' hn' hi

/-- Only the root has no parent, and parents come first. -/
theorem Linked.lt_of_parent {nodes : List (Node K)} (h : Linked root nodes) {i p : ℕ} {n : Node K}
    (hn : nodes[i]? = some n) (hp : n.parent = some p) : p < i := by
  by_cases hi : i = 0
  · rw [hi, h.head] at hn
    obtain rfl := Option.some.inj hn
    cases hp
  · obtain ⟨p', hp', hlt⟩ := h.parent i n hn hi
    obtain rfl := Option.some.inj (hp.symm.trans hp')
    exact hlt

theorem parent_eq_some {i p : ℕ} : t.parent i = some p ↔ ∃ n, t.nodes[i]? = some n ∧ n.parent = some p :=
  Option.bind_eq_some_iff

theorem Linked.descending (h : Linked root t.nodes) : Descending t.parent := by
  intro i p hp
  obtain ⟨n, hn, hparent⟩ := parent_eq_some.mp hp
  exact h.lt_of_parent hn hparent

theorem Linked.get_parent (h : Linked root t.nodes) {i p : ℕ} {n : Node K} (hn : t.nodes[i]? = some n)
    (hp : n.parent = some p) : ∃ m, t.nodes[p]? = some m := by
  have hlt := (h.lt_of_parent hn hp).trans (List.getElem?_eq_some_iff.mp hn).1
  exact ⟨_, List.getElem?_eq_getElem hlt⟩

/-- What lies beyond a blocked node is blocked. -/
theorem blocked_of_mem_pathTo (h : Linked root t.nodes) (hclosed : ClosedBut t.nodes []) {i j : ℕ} {n m : Node K}
    (hj : j ∈ pathTo t.parent i) (hm : t.nodes[j]? = some m) (hblocked : m.blocked = true)
    (hn : t.nodes[i]? = some n) : n.blocked = true := by
  refine holds_of_mem_pathTo h.descending (P := fun k => ∀ n, t.nodes[k]? = some n → n.blocked = true)
    (fun k p hp hP n hn => ?_) hj (fun m' hm' => ?_) n hn
  · obtain ⟨n', hn', hparent⟩ := parent_eq_some.mp hp
    obtain rfl := Option.some.inj (hn.symm.trans hn')
    obtain ⟨m, hm⟩ := h.get_parent hn hparent
    exact (hclosed k n p m hn hparent hm (hP m hm)).resolve_right List.not_mem_nil
  · obtain rfl := Option.some.inj (hm.symm.trans hm')
    exact hblocked

/-! ## Blocking -/

theorem get_block {nodes : List (Node K)} {i cur : ℕ} :
    (block nodes cur)[i]? = (nodes[i]?).map fun n => if cur = i then { n with blocked := true } else n := by
  rw [block, List.getElem?_modify, Option.map_eq_map]

theorem mem_childrenOf {nodes : List (Node K)} {i cur : ℕ} {n : Node K} (hn : nodes[i]? = some n)
    (hparent : n.parent = some cur) (hi : 1 ≤ i) : i ∈ childrenOf nodes cur := by
  have hlt := (List.getElem?_eq_some_iff.mp hn).1
  simp only [childrenOf, List.mem_reverse, List.mem_filter, List.mem_range, hlt, hn, Option.bind_some,
    hparent, hi, and_self, decide_true]

def Node.raise (n : Node K) (b : Bool) : Node K := { n with blocked := n.blocked || b }

/-- What a run over the stack has raised: only nodes beyond the stack, all of the stack, and whatever is
beyond a raised node. -/
structure Raised (parent : ℕ → Option ℕ) (nodes : List (Node K)) (stack : List ℕ) (nodes' : List (Node K))
    (raised : ℕ → Bool) : Prop where
  get : ∀ i : ℕ, nodes'[i]? = (nodes[i]?).map fun n => n.raise (raised i)
  beyond : ∀ i, raised i = true → ∃ j ∈ stack, j ∈ pathTo parent i
  onStack : ∀ j ∈ stack, ∀ n : Node K, nodes'[j]? = some n → n.blocked = true
  closed : ClosedBut nodes stack → ClosedBut nodes' []

/-- An entry of the stack that is no node, or is blocked already. -/
theorem Raised.skip {parent : ℕ → Option ℕ} {nodes nodes' : List (Node K)} {stack : List ℕ} {raised : ℕ → Bool}
    (h : Raised parent nodes stack nodes' raised) {cur : ℕ}
    (hcur : ∀ n : Node K, nodes[cur]? = some n → n.blocked = true) :
    Raised parent nodes (cur :: stack) nodes' raised := by
  refine ⟨h.get, fun i hi => ?_, fun j hj n hn => ?_, fun hclosed => h.closed fun i n p m hn hp hm hb => ?_⟩
  · obtain ⟨j, hj, hpath⟩ := h.beyond i hi
    exact ⟨j, List.mem_cons_of_mem cur hj, hpath⟩
  · rcases List.mem_cons.mp hj with rfl | hj
    · rw [h.get] at hn
      obtain ⟨m, hm, rfl⟩ := Option.map_eq_some_iff.mp hn
      simp [Node.raise, hcur m hm]
    · exact h.onStack j hj n hn
  · rcases hclosed i n p m hn hp hm hb with hb | hi
    · exact Or.inl hb
    · rcases List.mem_cons.mp hi with rfl | hi
      · exact Or.inl (hcur n hn)
      · exact Or.inr hi

/-- An entry that is blocked now, and its children put on the stack. -/
theorem Raised.block {parent : ℕ → Option ℕ} (hdesc : Descending parent) {nodes nodes' : List (Node K)}
    (hparent : ∀ (i : ℕ) (n : Node K), nodes[i]? = some n → parent i = n.parent) {stack : List ℕ} {raised : ℕ → Bool}
    {cur : ℕ} (h : Raised parent (block nodes cur) (childrenOf (block nodes cur) cur ++ stack) nodes' raised) :
    Raised parent nodes (cur :: stack) nodes' (fun i => raised i || cur == i) := by
  refine ⟨fun i => ?_, fun i hi => ?_, fun j hj n hn => ?_, fun hclosed => h.closed fun i n p m hn hp hm hb => ?_⟩
  · rw [h.get, get_block, Option.map_map]
    congr 1
    funext n
    by_cases hi : cur = i
    · simp [Node.raise, hi]
    · simp [Node.raise, hi, beq_eq_false_iff_ne.mpr hi]
  · rw [Bool.or_eq_true, beq_iff_eq] at hi
    rcases hi with hi | rfl
    · obtain ⟨j, hj, hpath⟩ := h.beyond i hi
      rcases List.mem_append.mp hj with hj | hj
      · -- a child of `cur` is on the way, so `cur` is
        refine ⟨cur, List.mem_cons_self, mem_pathTo_trans hdesc hpath ?_⟩
        simp only [childrenOf, List.mem_reverse, List.mem_filter, decide_eq_true_eq, get_block] at hj
        obtain ⟨n, hn, hcur⟩ := Option.bind_eq_some_iff.mp hj.2.2
        obtain ⟨n', hn', rfl⟩ := Option.map_eq_some_iff.mp hn
        have hp : parent j = some cur := by
          rw [hparent j n' hn', ← hcur]
          split <;> rfl
        rw [pathTo_of_some hdesc hp]
        exact List.mem_append_left _ (self_mem_pathTo hdesc cur)
      · exact ⟨j, List.mem_cons_of_mem cur hj, hpath⟩
    · exact ⟨cur, List.mem_cons_self, self_mem_pathTo hdesc cur⟩
  · rcases List.mem_cons.mp hj with rfl | hj
    · rw [h.get, get_block, Option.map_map] at hn
      obtain ⟨m, hm, rfl⟩ := Option.map_eq_some_iff.mp hn
      simp [Node.raise]
    · exact h.onStack j (List.mem_append_right _ hj) n hn
  · rw [get_block] at hn hm
    obtain ⟨n', hn', rfl⟩ := Option.map_eq_some_iff.mp hn
    obtain ⟨m', hm', rfl⟩ := Option.map_eq_some_iff.mp hm
    have hp' : n'.parent = some p := by
      rw [← hp]
      split <;> rfl
    by_cases hcur : cur = i
    · simp [hcur]
    · rw [if_neg hcur]
      by_cases hpc : cur = p
      · subst hpc
        refine Or.inr (List.mem_append_left _ (mem_childrenOf (n := n') ?_ hp' ?_))
        · rw [get_block, hn', Option.map_some, if_neg hcur]
        · exact Nat.one_le_iff_ne_zero.mpr fun h0 => by
            have := hdesc i cur ((hparent i n' hn').trans hp')
            omega
      · rw [if_neg hpc] at hb
        rcases hclosed i n' p m' hn' hp' hm' hb with hb | hi
        · exact Or.inl hb
        · exact Or.inr (List.mem_append_right _ ((List.mem_cons.mp hi).resolve_left fun h => hcur h.symm))

theorem blockStack_blocked {nodes : List (Node K)} {cur : ℕ} (stack : List ℕ)
    (hcur : ∀ n : Node K, nodes[cur]? = some n → n.blocked = true) :
    blockStack nodes (cur :: stack) = blockStack nodes stack := by
  rw [blockStack]
  split
  · rename_i n hn
    rw [dif_pos (hcur n hn)]
  · rfl

theorem blockStack_open {nodes : List (Node K)} {cur : ℕ} {n : Node K} (stack : List ℕ) (hn : nodes[cur]? = some n)
    (hopen : ¬ n.blocked = true) :
    blockStack nodes (cur :: stack) = blockStack (block nodes cur) (childrenOf (block nodes cur) cur ++ stack) := by
  rw [blockStack]
  split
  · rename_i n' hn'
    obtain rfl := Option.some.inj (hn.symm.trans hn')
    rw [dif_neg hopen]
  · rename_i hn'
    rw [hn] at hn'
    cases hn'

theorem blockStack_raised {parent : ℕ → Option ℕ} (hdesc : Descending parent) (nodes : List (Node K)) (stack : List ℕ)
    (hparent : ∀ (i : ℕ) (n : Node K), nodes[i]? = some n → parent i = n.parent) :
    ∃ raised, Raised parent nodes stack (blockStack nodes stack) raised := by
  induction nodes, stack using blockStack.induct with
  | case1 nodes =>
    refine ⟨fun _ => false, ?_⟩
    rw [blockStack]
    exact ⟨fun i => by simp [Node.raise], by simp, by simp, id⟩
  | case2 nodes cur stack n hn hblocked ih =>
    have hcur : ∀ m : Node K, nodes[cur]? = some m → m.blocked = true := fun m hm =>
      Option.some.inj (hn.symm.trans hm) ▸ hblocked
    obtain ⟨raised, h⟩ := ih hparent
    rw [blockStack_blocked stack hcur]
    exact ⟨raised, h.skip hcur⟩
  | case3 nodes cur stack n hn hopen hlt ih =>
    obtain ⟨raised, h⟩ := ih fun i m hm => by
      rw [get_block] at hm
      obtain ⟨m', hm', rfl⟩ := Option.map_eq_some_iff.mp hm
      rw [hparent i m' hm']
      split <;> rfl
    rw [blockStack_open stack hn hopen]
    exact ⟨_, h.block hdesc hparent⟩
  | case4 nodes cur stack hn ih =>
    have hcur : ∀ m : Node K, nodes[cur]? = some m → m.blocked = true := fun m hm => by
      rw [hn] at hm
      cases hm
    obtain ⟨raised, h⟩ := ih hparent
    rw [blockStack_blocked stack hcur]
    exact ⟨raised, h.skip hcur⟩

theorem sameShape_of_raised {parent : ℕ → Option ℕ} {nodes nodes' : List (Node K)} {stack : List ℕ} {raised : ℕ → Bool}
    (h : Raised parent nodes stack nodes' raised) : SameShape nodes nodes' := by
  intro i
  rw [h.get, Option.map_map]
  rfl

theorem get_markValidated {i child : ℕ} {n' : Node K} :
    (markValidated t child).nodes[i]? = some n' ↔
      ∃ n, t.nodes[i]? = some n ∧ n' = if child = i then { n with edgeValidated := true } else n := by
  rw [markValidated, List.getElem?_modify, Option.map_eq_map, Option.map_eq_some_iff]
  simp [eq_comm]

theorem sameShape_markValidated (t : RrtTree K) (child : ℕ) : SameShape t.nodes (markValidated t child).nodes :=
  sameShape_modify t.nodes child _ fun _ => rfl

/-! ## The path to a node -/

theorem rootPath_of_none {i : ℕ} {n : Node K} (hn : t.nodes[i]? = some n) (hp : n.parent = none) :
    rootPath t i = [n.q] := by
  have hparent : t.parent i = none := by rw [RrtTree.parent, hn, Option.bind_some, hp]
  rw [rootPath, pathTo_of_none hparent, List.filterMap_cons, hn]
  rfl

theorem Linked.rootPath_of_some (h : Linked root t.nodes) {i p : ℕ} {n : Node K} (hn : t.nodes[i]? = some n)
    (hp : n.parent = some p) : rootPath t i = rootPath t p ++ [n.q] := by
  rw [rootPath, pathTo_of_some h.descending (parent_eq_some.mpr ⟨n, hn, hp⟩), List.filterMap_append]
  simp [rootPath, hn]

theorem Linked.getLast?_rootPath (h : Linked root t.nodes) {i : ℕ} {n : Node K} (hn : t.nodes[i]? = some n) :
    (rootPath t i).getLast? = some n.q := by
  cases hp : n.parent with
  | none => rw [rootPath_of_none hn hp, List.getLast?_singleton]
  | some p => rw [h.rootPath_of_some hn hp, List.getLast?_concat]

theorem Linked.head?_rootPath (h : Linked root t.nodes) {i : ℕ} {n : Node K} (hn : t.nodes[i]? = some n) :
    (rootPath t i).head? = some root := by
  induction i using Nat.strong_induction_on generalizing n with
  | _ i ih =>
    cases hp : n.parent with
    | none =>
      have h0 : i = 0 := by
        by_contra hi
        obtain ⟨p, hp', -⟩ := h.parent i n hn hi
        rw [hp] at hp'
        cases hp'
      rw [rootPath_of_none hn hp]
      rw [h0, h.head] at hn
      obtain rfl := Option.some.inj hn
      rfl
    | some p =>
      obtain ⟨m, hm⟩ := h.get_parent hn hp
      rw [h.rootPath_of_some hn hp, List.head?_append, ih p (h.lt_of_parent hn hp) hm]
      rfl

/-- A relation along the links of a path holds along its points. -/
theorem Linked.rootPath_isChain (h : Linked root t.nodes) {R : Config K → Config K → Prop} {i : ℕ} {n : Node K}
    (hn : t.nodes[i]? = some n)
    (hR : ∀ j ∈ (pathTo t.parent i).tail, ∀ (n : Node K) (p : ℕ) (m : Node K), t.nodes[j]? = some n →
      n.parent = some p → t.nodes[p]? = some m → R m.q n.q) : (rootPath t i).IsChain R := by
  induction i using Nat.strong_induction_on generalizing n with
  | _ i ih =>
    cases hp : n.parent with
    | none =>
      rw [rootPath_of_none hn hp]
      exact List.IsChain.singleton n.q
    | some p =>
      obtain ⟨m, hm⟩ := h.get_parent hn hp
      have hpath := pathTo_of_some h.descending (parent_eq_some.mpr ⟨n, hn, hp⟩)
      have hne : pathTo t.parent p ≠ [] := List.ne_nil_of_mem (self_mem_pathTo h.descending p)
      rw [hpath, List.tail_append_of_ne_nil hne] at hR
      rw [h.rootPath_of_some hn hp, List.isChain_append]
      refine ⟨ih p (h.lt_of_parent hn hp) hm fun j hj => hR j (List.mem_append_left _ hj),
        List.IsChain.singleton n.q, ?_⟩
      intro x hx y hy
      rw [h.getLast?_rootPath hm] at hx
      simp only [Option.mem_def, Option.some.injEq, List.head?_cons] at hx hy
      rw [← hx, ← hy]
      exact hR i (List.mem_append_right _ (List.mem_singleton_self i)) n p m hn hp hm

theorem SameShape.rootPath_eq {t t' : RrtTree K} (h : SameShape t.nodes t'.nodes) (i : ℕ) :
    rootPath t' i = rootPath t i := by
  rw [rootPath, rootPath, h.parent_eq]
  congr 1
  funext j
  have hj := congrArg (Option.map Prod.fst) (h j)
  rwa [Option.map_map, Option.map_map] at hj

end

/-! ## The invariant -/

section

variable {K : Type*} [LinearOrder K] {o : Oracle K} {root : Config K} {t : RrtTree K}

theorem treeSound_reset (o : Oracle K) (root : Config K) : TreeSound o root (RrtTree.reset root) := by
  have hget : ∀ (i : ℕ) (n : Node K), (RrtTree.reset root).nodes[i]? = some n →
    i = 0 ∧ n = ⟨root, none, true, false⟩ := by
    intro i n hn
    cases i with
    | zero => exact ⟨rfl, (Option.some.inj hn).symm⟩
    | succ i => simp [RrtTree.reset] at hn
  refine ⟨⟨rfl, fun i n hn hi => absurd (hget i n hn).1 hi⟩, Indexes.root root, ?_,
    fun i n hn hi => absurd (hget i n hn).1 hi, ?_⟩
  · intro i n p m hn hp
    rw [(hget i n hn).2] at hp
    cases hp
  · intro i n p m hn hp
    rw [(hget i n hn).2] at hp
    cases hp

theorem get_push {n x : Node K} {i : ℕ} :
    (t.push n).nodes[i]? = some x ↔ t.nodes[i]? = some x ∨ i = t.nodes.length ∧ x = n := by
  rw [RrtTree.push]
  rcases Nat.lt_trichotomy i t.nodes.length with h | h | h
  · simp [List.getElem?_append_left h, h.ne]
  · subst h
    simp [eq_comm]
  · simp [List.getElem?_eq_none h.le, h.ne', h]

/-- **A new node** below one that is not blocked. -/
theorem TreeSound.push (h : TreeSound o root t) {near : Node K} {ni : ℕ} (hnear : t.nodes[ni]? = some near)
    (hopen : near.blocked = false) {q : Config K} {validated : Bool} (hclear : o.clear q = true)
    (hmarked : validated = true → o.edge near.q q = true) :
    TreeSound o root (t.push ⟨q, some ni, validated, false⟩) := by
  have hlt : ni < t.nodes.length := (List.getElem?_eq_some_iff.mp hnear).1
  have hne : t.nodes.length ≠ 0 := by omega
  -- the parent of a node is a node of the tree before
  have hget : ∀ (p : ℕ) (m x : Node K), p < t.nodes.length → t.nodes[p]? = some x →
      (t.push ⟨q, some ni, validated, false⟩).nodes[p]? = some m → m = x := by
    intro p m x hp hx hm
    rcases get_push.mp hm with hm | ⟨rfl, -⟩
    · exact Option.some.inj (hm.symm.trans hx)
    · exact absurd hp (lt_irrefl _)
  refine ⟨⟨get_push.mpr (Or.inl h.linked.head), fun i n hn hi => ?_⟩, h.index.push _, fun i n p m hn hp hm hb => ?_,
    fun i n hn hi => ?_, fun i n p m hn hp hm hv => ?_⟩
  · rcases get_push.mp hn with hn | ⟨rfl, rfl⟩
    · exact h.linked.parent i n hn hi
    · exact ⟨ni, rfl, hlt⟩
  · rcases get_push.mp hn with hn | ⟨rfl, rfl⟩
    · obtain ⟨m', hm'⟩ := h.linked.get_parent hn hp
      obtain rfl := hget p m m' (List.getElem?_eq_some_iff.mp hm').1 hm' hm
      exact h.closed i n p m hn hp hm' hb
    · obtain rfl := Option.some.inj hp
      obtain rfl := hget ni m near hlt hnear hm
      rw [hopen] at hb
      cases hb
  · rcases get_push.mp hn with hn | ⟨rfl, rfl⟩
    · exact h.clear i n hn hi
    · exact hclear
  · rcases get_push.mp hn with hn | ⟨rfl, rfl⟩
    · obtain ⟨m', hm'⟩ := h.linked.get_parent hn hp
      obtain rfl := hget p m m' (List.getElem?_eq_some_iff.mp hm').1 hm' hm
      exact h.marked i n p m hn hp hm' hv
    · obtain rfl := Option.some.inj hp
      obtain rfl := hget ni m near hlt hnear hm
      exact hmarked hv

/-- **An edge that was asked about** and is clear. -/
theorem TreeSound.markValidated (h : TreeSound o root t) {child : ℕ} (h0 : child ≠ 0)
    (hedge : ∀ (n : Node K) (p : ℕ) (m : Node K), t.nodes[child]? = some n → n.parent = some p →
      t.nodes[p]? = some m → o.edge m.q n.q = true) : TreeSound o root (markValidated t child) := by
  have hsame := sameShape_markValidated t child
  have hhead : (InitMotion.markValidated t child).nodes[0]? = t.nodes[0]? := by
    rw [InitMotion.markValidated, List.getElem?_modify]
    cases t.nodes[0]? with
    | none => rfl
    | some n => simp [h0]
  refine ⟨h.linked.of_sameShape hsame hhead, h.index.of_same hsame.points, fun i n' p m' hn' hp hm' hb => ?_,
    fun i n' hn' hi => ?_, fun i n' p m' hn' hp hm' hv => ?_⟩
  · obtain ⟨n, hn, rfl⟩ := get_markValidated.mp hn'
    obtain ⟨m, hm, rfl⟩ := get_markValidated.mp hm'
    have hp' : n.parent = some p := by
      rw [← hp]
      split <;> rfl
    have hb' : m.blocked = true := by
      rw [← hb]
      split <;> rfl
    refine Or.inl (((h.closed i n p m hn hp' hm hb').resolve_right List.not_mem_nil).symm.trans ?_).symm
    split <;> rfl
  · obtain ⟨n, hn, hq, -⟩ := hsame.get hn'
    rw [← hq]
    exact h.clear i n hn hi
  · obtain ⟨n, hn, rfl⟩ := get_markValidated.mp hn'
    obtain ⟨m, hm, hq, -⟩ := hsame.get hm'
    rw [← hq]
    by_cases hi : child = i
    · subst hi
      rw [if_pos rfl] at hp ⊢
      exact hedge n p m hn hp hm
    · rw [if_neg hi] at hp hv ⊢
      exact h.marked i n p m hn hp hm hv

/-- **A refused subtree**: it is blocked, and the rest is as before. -/
theorem TreeSound.blockSubtree (h : TreeSound o root t) {child : ℕ} (h0 : child ≠ 0) (hlt : child < t.nodes.length) :
    TreeSound o root (blockSubtree t child) ∧ SameShape t.nodes (blockSubtree t child).nodes ∧
      (∀ (i : ℕ) (n : Node K), t.nodes[i]? = some n → ∃ n', (blockSubtree t child).nodes[i]? = some n' ∧
        n'.edgeValidated = n.edgeValidated ∧ (n.blocked = true → n'.blocked = true)) ∧
      ∃ n', (InitMotion.blockSubtree t child).nodes[child]? = some n' ∧ n'.blocked = true := by
  have hdesc := h.linked.descending
  obtain ⟨raised, hraised⟩ := blockStack_raised hdesc t.nodes [child] fun i n hn => by
    rw [RrtTree.parent, hn, Option.bind_some]
  have hsame := sameShape_of_raised hraised
  have hnodes : InitMotion.blockSubtree t child = { t with nodes := blockStack t.nodes [child] } := by
    rw [InitMotion.blockSubtree, if_neg]
    omega
  have hclosed : ClosedBut t.nodes [child] := fun i n p m hn hp hm hb =>
    Or.inl ((h.closed i n p m hn hp hm hb).resolve_right List.not_mem_nil)
  have hroot : raised 0 = false := by
    by_contra hne
    obtain ⟨j, hj, hpath⟩ := hraised.beyond 0 (Bool.eq_true_of_not_eq_false hne)
    rw [List.mem_singleton] at hj
    exact h0 (hj ▸ Nat.le_zero.mp (le_of_mem_pathTo hdesc hpath))
  have hhead : (blockStack t.nodes [child])[0]? = t.nodes[0]? := by
    rw [hraised.get, hroot]
    cases t.nodes[0]? with
    | none => rfl
    | some n => simp [Node.raise]
  rw [hnodes]
  refine ⟨⟨h.linked.of_sameShape hsame hhead, h.index.of_same hsame.points, hraised.closed hclosed, ?_, ?_⟩, hsame,
    ?_, ?_⟩
  · intro i n' hn' hi
    obtain ⟨n, hn, hq, -⟩ := hsame.get hn'
    rw [← hq]
    exact h.clear i n hn hi
  · intro i n' p m' hn' hp hm' hv
    dsimp only at hn' hm'
    rw [hraised.get] at hn' hm'
    obtain ⟨n, hn, rfl⟩ := Option.map_eq_some_iff.mp hn'
    obtain ⟨m, hm, rfl⟩ := Option.map_eq_some_iff.mp hm'
    exact h.marked i n p m hn hp hm hv
  · intro i n hn
    exact ⟨n.raise (raised i), by rw [hraised.get, hn]; rfl, rfl, fun hb => by simp [Node.raise, hb]⟩
  · have hchild := List.getElem?_eq_getElem (hsame.length_eq ▸ hlt)
    exact ⟨_, hchild, hraised.onStack child (List.mem_singleton_self child) _ hchild⟩

end

end RbServo.InitMotion
