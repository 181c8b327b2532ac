import RoboticsLab.InitMotion.RrtTree

/-!
# Growing and validating a search tree

What one call of `extend`, `connect` and `validatePathToRoot` does to a sound tree.

    a validated path is clear edge by edge                          (validatePathToRoot_true)
    a refused path is blocked at its end, and stays out of the search   (refused_stays)
    `connect` comes to an end                                       (connect_returns)

`connect` calls `extend` until it is trapped or has reached its target.  Every advance brings the tree
`stepDeg` closer to the target, less what the tolerance of `nearest` gives away; the bound on the number
of nodes keeps that below half a step.
-/

namespace RbServo.InitMotion

open ParentTree

/-! ## Validation -/

section

variable {K : Type*} {o : Oracle K} {root : Config K} {t : RrtTree K}

def Marked (t : RrtTree K) (i : ℕ) : Prop := ∃ n, t.nodes[i]? = some n ∧ n.edgeValidated = true

def Blocked (t : RrtTree K) (i : ℕ) : Prop := ∃ n, t.nodes[i]? = some n ∧ n.blocked = true

theorem marked_markValidated {child : ℕ} {n : Node K} (hn : t.nodes[child]? = some n) :
    Marked (markValidated t child) child :=
  ⟨_, get_markValidated.mpr ⟨n, hn, rfl⟩, by simp⟩

/-- The ids of a path below its root. -/
theorem tail_pathTo_lt (h : Linked root t.nodes) {leaf : ℕ} (hleaf : leaf < t.nodes.length) :
    ∀ i ∈ (pathTo t.parent leaf).tail, i ≠ 0 ∧ i < t.nodes.length := by
  intro i hi
  refine ⟨?_, (le_of_mem_pathTo h.descending (List.mem_of_mem_tail hi)).trans_lt hleaf⟩
  rintro rfl
  obtain ⟨p, hp⟩ := parent_of_mem_tail h.descending hi
  exact absurd (h.descending 0 p hp) (Nat.not_lt_zero p)

variable [LinearOrder K]

/-- What a validation keeps. -/
structure Keeps (o : Oracle K) (root : Config K) (t t' : RrtTree K) : Prop where
  sound : TreeSound o root t'
  same : SameShape t.nodes t'.nodes
  marks : ∀ i, Marked t i → Marked t' i
  blocks : ∀ i, Blocked t i → Blocked t' i

theorem Keeps.refl (h : TreeSound o root t) : Keeps o root t t :=
  ⟨h, SameShape.refl t.nodes, fun _ hi => hi, fun _ hi => hi⟩

theorem Keeps.trans {t' t'' : RrtTree K} (h : Keeps o root t t') (h' : Keeps o root t' t'') : Keeps o root t t'' :=
  ⟨h'.sound, h.same.trans h'.same, fun i hi => h'.marks i (h.marks i hi), fun i hi => h'.blocks i (h.blocks i hi)⟩

/-- An edge asked about that is clear. -/
theorem Keeps.markValidated (h : TreeSound o root t) {child p : ℕ} (h0 : child ≠ 0) {n m : Node K}
    (hn : t.nodes[child]? = some n) (hp : n.parent = some p) (hm : t.nodes[p]? = some m)
    (hedge : o.edge m.q n.q = true) :
    Keeps o root t (markValidated t child) := by
  refine ⟨h.markValidated h0 fun n' p' m' hn' hp' hm' => ?_, sameShape_markValidated t child, fun i hi => ?_,
    fun i hi => ?_⟩
  · obtain rfl := Option.some.inj (hn.symm.trans hn')
    obtain rfl := Option.some.inj (hp.symm.trans hp')
    obtain rfl := Option.some.inj (hm.symm.trans hm')
    exact hedge
  · obtain ⟨n', hn', hv⟩ := hi
    refine ⟨_, get_markValidated.mpr ⟨n', hn', rfl⟩, ?_⟩
    split
    · rfl
    · exact hv
  · obtain ⟨n', hn', hb⟩ := hi
    refine ⟨_, get_markValidated.mpr ⟨n', hn', rfl⟩, ?_⟩
    rw [← hb]
    split <;> rfl

/-- An edge asked about that is not. -/
theorem Keeps.refuse (h : TreeSound o root t) {child : ℕ} (h0 : child ≠ 0) (hlt : child < t.nodes.length)
    (keys : List EdgeKey) :
    Keeps o root t (blockSubtree { t with blacklistedEdges := keys } child) ∧
      Blocked (blockSubtree { t with blacklistedEdges := keys } child) child := by
  have hkeys : TreeSound o root { t with blacklistedEdges := keys } := ⟨h.linked, h.index, h.closed, h.clear, h.marked⟩
  obtain ⟨hsound, hsame, hmarks, hchild⟩ := hkeys.blockSubtree h0 hlt
  refine ⟨⟨hsound, hsame, fun i hi => ?_, fun i hi => ?_⟩, hchild⟩
  · obtain ⟨n, hn, hv⟩ := hi
    obtain ⟨n', hn', hv', -⟩ := hmarks i n hn
    exact ⟨n', hn', hv'.trans hv⟩
  · obtain ⟨n, hn, hb⟩ := hi
    obtain ⟨n', hn', -, hb'⟩ := hmarks i n hn
    exact ⟨n', hn', hb' hb⟩

variable [Field K] [FloorSemiring K]

/-- A run over the ids of a path: all of them marked at the end, or one of them blocked. -/
theorem validateIds_keeps (h : TreeSound o root t) {ids : List ℕ} (hids : ∀ i ∈ ids, i ≠ 0 ∧ i < t.nodes.length) :
    Keeps o root t (validateIds o ids t).2 ∧
      ((validateIds o ids t).1 = true → ∀ i ∈ ids, Marked (validateIds o ids t).2 i) ∧
      ((validateIds o ids t).1 = false →
        ∃ i ∈ ids, Blocked (validateIds o ids t).2 i) := by
  induction ids generalizing t with
  | nil => exact ⟨Keeps.refl h, by simp, by simp [validateIds]⟩
  | cons child rest ih =>
    obtain ⟨h0, hlt⟩ := hids child List.mem_cons_self
    have hn := List.getElem?_eq_getElem hlt
    set n := t.nodes[child] with hndef
    obtain ⟨p, hp, -⟩ := h.linked.parent child n hn h0
    obtain ⟨m, hm⟩ := h.linked.get_parent hn hp
    have hstep : validateIds o (child :: rest) t =
        if n.blocked then (false, t)
        else if n.edgeValidated then validateIds o rest t
        else if o.edge m.q n.q then validateIds o rest (markValidated t child)
        else (false, blockSubtree { t with blacklistedEdges := edgeKey m.q n.q :: t.blacklistedEdges } child) := by
      rw [validateIds, parent_eq_some.mpr ⟨n, hn, hp⟩, Option.bind_some, hn, hm]
    -- what holds of the rest, from a tree where the child is marked
    have hrest : ∀ t' : RrtTree K, Keeps o root t t' → Marked t' child →
        Keeps o root t (validateIds o rest t').2 ∧
          ((validateIds o rest t').1 = true → ∀ i ∈ child :: rest, Marked (validateIds o rest t').2 i) ∧
          ((validateIds o rest t').1 = false → ∃ i ∈ child :: rest, Blocked (validateIds o rest t').2 i) := by
      intro t' hkeeps hmarked
      have hids' : ∀ i ∈ rest, i ≠ 0 ∧ i < t'.nodes.length := fun i hi => by
        rw [hkeeps.same.length_eq]
        exact hids i (List.mem_cons_of_mem child hi)
      obtain ⟨hkeeps', htrue, hfalse⟩ := ih hkeeps.sound hids'
      refine ⟨hkeeps.trans hkeeps', fun hr i hi => ?_, fun hr => ?_⟩
      · rcases List.mem_cons.mp hi with rfl | hi
        · exact hkeeps'.marks i hmarked
        · exact htrue hr i hi
      · obtain ⟨i, hi, hb⟩ := hfalse hr
        exact ⟨i, List.mem_cons_of_mem child hi, hb⟩
    rw [hstep]
    split
    · rename_i hb
      exact ⟨Keeps.refl h, by simp, fun _ => ⟨child, List.mem_cons_self, n, hn, hb⟩⟩
    split
    · rename_i hv
      exact hrest t (Keeps.refl h) ⟨n, hn, hv⟩
    split
    · rename_i hedge
      exact hrest _ (Keeps.markValidated h h0 hn hp hm hedge) (marked_markValidated hn)
    · obtain ⟨hkeeps, hchild⟩ := Keeps.refuse h h0 hlt (edgeKey m.q n.q :: t.blacklistedEdges)
      exact ⟨hkeeps, by simp, fun _ => ⟨child, List.mem_cons_self, hchild⟩⟩

theorem validatePathToRoot_keeps (h : TreeSound o root t) (leaf : ℕ) :
    Keeps o root t (validatePathToRoot o t leaf).2 := by
  rw [validatePathToRoot]
  split
  · exact Keeps.refl h
  · exact (validateIds_keeps h (tail_pathTo_lt h.linked (by omega))).1

/-- **A validated path** is clear along each of its edges. -/
theorem validatePathToRoot_true (h : TreeSound o root t) {leaf : ℕ} (hr : (validatePathToRoot o t leaf).1 = true) :
    (rootPath t leaf).IsChain fun a b => o.edge a b = true := by
  have hkeeps := validatePathToRoot_keeps h leaf
  rw [← hkeeps.same.rootPath_eq]
  have hlt : leaf < t.nodes.length := by
    by_contra hge
    rw [validatePathToRoot, if_pos (by omega)] at hr
    cases hr
  have hn := List.getElem?_eq_getElem (hkeeps.same.length_eq ▸ hlt)
  refine hkeeps.sound.linked.rootPath_isChain hn fun j hj n p m hn hp hm => ?_
  rw [hkeeps.same.parent_eq] at hj
  have hids := validateIds_keeps h (tail_pathTo_lt h.linked hlt)
  rw [validatePathToRoot, if_neg (by omega)] at hr hn hm
  obtain ⟨n', hn', hv⟩ := hids.2.1 hr j hj
  obtain rfl := Option.some.inj (hn.symm.trans hn')
  exact hids.1.sound.marked j n p m hn hp hm hv

/-- **A refused path** has its leaf blocked: the search never returns to it. -/
theorem validatePathToRoot_false (h : TreeSound o root t) {leaf : ℕ} (hlt : leaf < t.nodes.length)
    (hr : (validatePathToRoot o t leaf).1 = false) : Blocked (validatePathToRoot o t leaf).2 leaf := by
  have hkeeps := validatePathToRoot_keeps h leaf
  have hleaf := List.getElem?_eq_getElem (hkeeps.same.length_eq ▸ hlt)
  have hids := validateIds_keeps h (tail_pathTo_lt h.linked hlt)
  rw [← show validatePathToRoot o t leaf = validateIds o (pathTo t.parent leaf).tail t by
    rw [validatePathToRoot, if_neg (by omega)]] at hids
  obtain ⟨i, hi, n, hn, hb⟩ := hids.2.2 hr
  refine ⟨_, hleaf, blocked_of_mem_pathTo hkeeps.sound.linked hkeeps.sound.closed ?_ hn hb hleaf⟩
  rw [hkeeps.same.parent_eq]
  exact List.mem_of_mem_tail hi

end

/-! ## One step -/

section

variable {K : Type*} [Field K] [LinearOrder K] [IsStrictOrderedRing K] [FloorSemiring K] {sqrt : K → K} {o : Oracle K}
  {root : Config K} {t : RrtTree K}

/-- What a call of `extend` that grows the tree has added: `qNew` below `near`. -/
structure Grown (sqrt : K → K) (o : Oracle K) (t : RrtTree K) (target : Config K) (stepDeg : K) (ni : ℕ) (near : Node K)
    (qNew : Config K) (e : Extend) : Prop where
  nearest : t.kd.nearest target t.nodes = some ni
  get : t.nodes[ni]? = some near
  listed : edgeKey near.q qNew ∉ t.blacklistedEdges
  asked : (if o.lazyEdges then o.clear qNew else o.edge near.q qNew) = true
  aim : e = .reached ∧ qNew = target ∨
    e = .advanced ∧ stepDeg < dist sqrt near.q target ∧ qNew = lerp near.q target (stepDeg / dist sqrt near.q target)

omit [IsStrictOrderedRing K] in
theorem extend_cases (sqrt : K → K) (o : Oracle K) (t : RrtTree K) (target : Config K) (stepDeg : K) :
    extend sqrt o t target stepDeg = (.trapped, t) ∨
      ∃ ni near qNew e, Grown sqrt o t target stepDeg ni near qNew e ∧
        extend sqrt o t target stepDeg = (e, t.push ⟨qNew, some ni, !o.lazyEdges, false⟩) := by
  cases hnearest : t.kd.nearest target t.nodes with
  | none => exact Or.inl (by rw [extend, hnearest])
  | some ni =>
    cases hget : t.nodes[ni]? with
    | none => exact Or.inl (by simp only [extend, hnearest, hget])
    | some near =>
      have haim : ∃ qNew e,
          (e = Extend.reached ∧ qNew = target ∨ e = .advanced ∧ stepDeg < dist sqrt near.q target ∧
            qNew = lerp near.q target (stepDeg / dist sqrt near.q target)) ∧
          extend sqrt o t target stepDeg = t.attach o ni near qNew e := by
        by_cases hreached : dist sqrt near.q target ≤ stepDeg ∨ dist sqrt near.q target < 1 / 10 ^ 9
        · exact ⟨target, .reached, Or.inl ⟨rfl, rfl⟩, by simp only [extend, hnearest, hget, hreached, if_true]⟩
        · have hfar := not_le.mp (not_or.mp hreached).1
          refine ⟨_, .advanced, Or.inr ⟨rfl, hfar, rfl⟩, ?_⟩
          simp only [extend, hnearest, hget, hreached, if_false]
      obtain ⟨qNew, e, haim, he⟩ := haim
      rw [RrtTree.attach] at he
      by_cases hlisted : edgeKey near.q qNew ∈ t.blacklistedEdges
      · exact Or.inl (by rw [he, if_pos hlisted])
      rw [if_neg hlisted] at he
      by_cases hasked : (if o.lazyEdges then o.clear qNew else o.edge near.q qNew) = true
      · rw [if_pos hasked] at he
        exact Or.inr ⟨ni, near, qNew, e, ⟨hnearest, hget, hlisted, hasked, haim⟩, he⟩
      · exact Or.inl (by rw [he, if_neg hasked])

theorem Grown.open (h : TreeSound o root t) {target : Config K} {stepDeg : K} {ni : ℕ} {near : Node K} {qNew : Config K}
    {e : Extend} (hg : Grown sqrt o t target stepDeg ni near qNew e) : near.blocked = false := by
  obtain ⟨n, hn, hopen, -⟩ := nearest_within h.index hg.nearest
  obtain rfl := Option.some.inj (hn.symm.trans hg.get)
  exact hopen

/-- The edge check asks about the end of the edge, too. -/
def Oracle.Consistent (o : Oracle K) : Prop := ∀ a b, o.edge a b = true → o.clear b = true

theorem TreeSound.extend (sqrt : K → K) (h : TreeSound o root t) (ho : o.Consistent) (target : Config K) (stepDeg : K) :
    TreeSound o root (extend sqrt o t target stepDeg).2 := by
  rcases extend_cases sqrt o t target stepDeg with he | ⟨ni, near, qNew, e, hg, he⟩
  · rw [he]
    exact h
  · rw [he]
    have hasked := hg.asked
    refine h.push hg.get (Grown.open h hg) ?_ ?_
    · split at hasked
      · exact hasked
      · exact ho near.q qNew hasked
    · intro hlazy
      rwa [if_neg (by simpa using hlazy)] at hasked

/-- A property of the root and the target that holds along every segment between points that have it. -/
theorem extend_forall {P : Config K → Prop} (hP : ∀ n ∈ t.nodes, P n.q) {target : Config K} (htarget : P target)
    (hsegment : ∀ a b s, P a → P b → 0 ≤ s → s ≤ 1 → P (lerp a b s)) {stepDeg : K} (hstep : 0 ≤ stepDeg) :
    ∀ n ∈ (extend sqrt o t target stepDeg).2.nodes, P n.q := by
  rcases extend_cases sqrt o t target stepDeg with he | ⟨ni, near, qNew, e, hg, he⟩
  · rw [he]
    exact hP
  · rw [he]
    intro n hn
    rcases List.mem_append.mp hn with hn | hn
    · exact hP n hn
    · rw [List.mem_singleton.mp hn]
      rcases hg.aim with ⟨-, rfl⟩ | ⟨-, hfar, rfl⟩
      · exact htarget
      · exact hsegment _ _ _ (hP near (List.mem_of_getElem? hg.get)) htarget (div_nonneg hstep (hstep.trans hfar.le))
          (div_le_one_of_le₀ hfar.le (hstep.trans hfar.le))

omit [IsStrictOrderedRing K] in
/-- What is reached is the last node of the tree. -/
theorem extend_reached {target : Config K} {stepDeg : K} (hr : (extend sqrt o t target stepDeg).1 = .reached) :
    ∃ n, (extend sqrt o t target stepDeg).2.nodes.getLast? = some n ∧ n.q = target := by
  rcases extend_cases sqrt o t target stepDeg with he | ⟨ni, near, qNew, e, hg, he⟩
  · rw [he] at hr
    cases hr
  · rw [he] at hr ⊢
    refine ⟨_, List.getLast?_concat, ?_⟩
    rcases hg.aim with ⟨-, hq⟩ | ⟨hadvanced, -⟩
    · exact hq
    · exact absurd (hr.symm.trans hadvanced) (by decide)

/-! ## `connect` -/

omit [IsStrictOrderedRing K] in
/-- A property that every call of `extend` keeps. -/
theorem connect_keeps {P : RrtTree K → Prop} {stepDeg : K} {target : Config K}
    (hP : ∀ t, P t → P (extend sqrt o t target stepDeg).2) {fuel : ℕ} (h : P t) {e : Extend} {t' : RrtTree K}
    (hc : connect sqrt o stepDeg target fuel t = some (e, t')) : P t' := by
  induction fuel generalizing t with
  | zero => simp [connect] at hc
  | succ fuel ih =>
    rw [connect] at hc
    split at hc
    · rename_i t₁ he
      have h₁ := hP t h
      rw [he] at h₁
      exact ih h₁ hc
    · have h₁ := hP t h
      rw [Option.some.inj hc] at h₁
      exact h₁

omit [IsStrictOrderedRing K] in
theorem connect_reached {stepDeg : K} {target : Config K} {fuel : ℕ} {t' : RrtTree K}
    (hc : connect sqrt o stepDeg target fuel t = some (.reached, t')) :
    ∃ n, t'.nodes.getLast? = some n ∧ n.q = target := by
  induction fuel generalizing t with
  | zero => simp [connect] at hc
  | succ fuel ih =>
    rw [connect] at hc
    split at hc
    · exact ih hc
    · have hr := Option.some.inj hc
      have hreached : (extend sqrt o t target stepDeg).1 = .reached := by rw [hr]
      have hlast := extend_reached hreached
      rwa [hr] at hlast

/-! ## Runs -/

/-- What a search does to a tree; `connect` is a run of the first. -/
inductive TreeOp (K : Type*)
  | extend (target : Config K) (stepDeg : K)
  | validate (leaf : ℕ)

def TreeOp.run (sqrt : K → K) (o : Oracle K) : List (TreeOp K) → RrtTree K → RrtTree K
  | [], t => t
  | .extend target stepDeg :: ops, t => run sqrt o ops (InitMotion.extend sqrt o t target stepDeg).2
  | .validate leaf :: ops, t => run sqrt o ops (validatePathToRoot o t leaf).2

omit [IsStrictOrderedRing K] in
theorem run_append (ops ops' : List (TreeOp K)) (t : RrtTree K) :
    TreeOp.run sqrt o (ops ++ ops') t = TreeOp.run sqrt o ops' (TreeOp.run sqrt o ops t) := by
  induction ops generalizing t with
  | nil => rfl
  | cons op ops ih => cases op <;> exact ih _

omit [IsStrictOrderedRing K] in
theorem connect_run {stepDeg : K} {target : Config K} {fuel : ℕ} {e : Extend} {t' : RrtTree K}
    (hc : connect sqrt o stepDeg target fuel t = some (e, t')) : ∃ ops, t' = TreeOp.run sqrt o ops t := by
  refine connect_keeps (P := fun t' => ∃ ops, t' = TreeOp.run sqrt o ops t) ?_ ⟨[], rfl⟩ hc
  rintro _ ⟨ops, rfl⟩
  exact ⟨ops ++ [.extend target stepDeg], by rw [run_append]; rfl⟩

omit [IsStrictOrderedRing K] in
theorem Blocked.extend {i : ℕ} (h : Blocked t i) (target : Config K) (stepDeg : K) :
    Blocked (InitMotion.extend sqrt o t target stepDeg).2 i := by
  rcases extend_cases sqrt o t target stepDeg with he | ⟨ni, near, qNew, e, -, he⟩
  · rw [he]
    exact h
  · obtain ⟨n, hn, hb⟩ := h
    rw [he]
    exact ⟨n, get_push.mpr (Or.inl hn), hb⟩

/-- A run keeps the tree sound, and what is blocked blocked. -/
theorem TreeSound.run (sqrt : K → K) (ho : o.Consistent) (ops : List (TreeOp K)) (h : TreeSound o root t) :
    TreeSound o root (TreeOp.run sqrt o ops t) ∧ ∀ i, Blocked t i → Blocked (TreeOp.run sqrt o ops t) i := by
  induction ops generalizing t with
  | nil => exact ⟨h, fun _ hi => hi⟩
  | cons op ops ih =>
    cases op with
    | extend target stepDeg =>
      obtain ⟨hsound, hblocks⟩ := ih (h.extend sqrt ho target stepDeg)
      exact ⟨hsound, fun i hi => hblocks i (hi.extend target stepDeg)⟩
    | validate leaf =>
      have hkeeps := validatePathToRoot_keeps h leaf
      obtain ⟨hsound, hblocks⟩ := ih hkeeps.sound
      exact ⟨hsound, fun i hi => hblocks i (hkeeps.blocks i hi)⟩

/-- **A refused path stays refused**: whatever the search does afterwards, no node beyond its leaf is open,
and no node beyond its leaf is grown from. -/
theorem refused_stays (ho : o.Consistent) (ops ops' : List (TreeOp K)) {leaf : ℕ}
    (hlt : leaf < (TreeOp.run sqrt o ops (RrtTree.reset root)).nodes.length)
    (hr : (validatePathToRoot o (TreeOp.run sqrt o ops (RrtTree.reset root)) leaf).1 = false) :
    let t := TreeOp.run sqrt o ops' (validatePathToRoot o (TreeOp.run sqrt o ops (RrtTree.reset root)) leaf).2
    ∀ i n, t.nodes[i]? = some n → leaf ∈ pathTo t.parent i →
      n.blocked = true ∧ ∀ target, t.kd.nearest target t.nodes ≠ some i := by
  intro t i n hn hpath
  have hbefore := (TreeSound.run sqrt ho ops (treeSound_reset o root)).1
  have hrefused := validatePathToRoot_false hbefore hlt hr
  obtain ⟨hsound, hblocks⟩ := TreeSound.run sqrt ho ops' (validatePathToRoot_keeps hbefore leaf).sound
  obtain ⟨m, hm, hb⟩ := hblocks leaf hrefused
  have hblocked : n.blocked = true := blocked_of_mem_pathTo hsound.linked hsound.closed hpath hm hb hn
  refine ⟨hblocked, fun target hnearest => ?_⟩
  obtain ⟨n', hn', hopen, -⟩ := nearest_within hsound.index hnearest
  obtain rfl := Option.some.inj (hn.symm.trans hn')
  rw [hblocked] at hopen
  cases hopen

/-- A run moves no node to another parent. -/
theorem run_parent (ho : o.Consistent) (ops : List (TreeOp K)) (h : TreeSound o root t) {i p : ℕ}
    (hp : t.parent i = some p) : (TreeOp.run sqrt o ops t).parent i = some p := by
  induction ops generalizing t with
  | nil => exact hp
  | cons op ops ih =>
    cases op with
    | extend target stepDeg =>
      refine ih (h.extend sqrt ho target stepDeg) ?_
      rcases extend_cases sqrt o t target stepDeg with he | ⟨ni, near, qNew, e, -, he⟩
      · rw [he]
        exact hp
      · obtain ⟨n, hn, hparent⟩ := parent_eq_some.mp hp
        rw [he]
        exact parent_eq_some.mpr ⟨n, get_push.mpr (Or.inl hn), hparent⟩
    | validate leaf =>
      have hkeeps := validatePathToRoot_keeps h leaf
      exact ih hkeeps.sound (by rw [hkeeps.same.parent_eq, hp])

/-- A chain of three nodes, refused at its second one, and two more extends: its third node stays out. -/
theorem refused_stays_pair :
    let o : Oracle ℚ := ⟨fun _ => true, fun _ _ => false, true⟩
    let before := TreeOp.run id o [.extend (fun _ => 3) 1, .extend (fun _ => 3) 1] (RrtTree.reset fun _ => 0)
    let after := TreeOp.run id o [.extend (fun _ => 5) 1, .extend (fun _ => 3) 1] (validatePathToRoot o before 1).2
    ∃ n, after.nodes[2]? = some n ∧ n.blocked = true ∧ ∀ target, after.kd.nearest target after.nodes ≠ some 2 := by
  intro o before after
  have ho : o.Consistent := fun _ _ _ => rfl
  have hlt : 1 < before.nodes.length := by decide +kernel
  have hr : (validatePathToRoot o before 1).1 = false := by decide +kernel
  have hparent : before.parent 2 = some 1 := by decide +kernel
  have hbefore : TreeSound o (fun _ => 0) before := (TreeSound.run id ho _ (treeSound_reset o _)).1
  have hkeeps := validatePathToRoot_keeps hbefore 1
  have hafter : TreeSound o (fun _ => 0) after := (TreeSound.run id ho _ hkeeps.sound).1
  have hparent' : after.parent 2 = some 1 := run_parent ho _ hkeeps.sound (by rw [hkeeps.same.parent_eq, hparent])
  obtain ⟨n, hn, -⟩ := parent_eq_some.mp hparent'
  have hdesc := hafter.linked.descending
  have hpath : 1 ∈ pathTo after.parent 2 := by
    rw [pathTo_of_some hdesc hparent']
    exact List.mem_append_left _ (self_mem_pathTo hdesc 1)
  exact ⟨n, hn, refused_stays ho [.extend (fun _ => 3) 1, .extend (fun _ => 3) 1]
    [.extend (fun _ => 5) 1, .extend (fun _ => 3) 1] hlt hr 2 n hn hpath⟩

end

/-! ## `connect` comes to an end -/

section

theorem dist2_lerp {K : Type*} [Field K] (a b : Config K) (s : K) :
    dist2 (lerp a b s) b = (1 - s) * (1 - s) * dist2 a b := by
  rw [dist2, dist2, Finset.mul_sum]
  refine Finset.sum_congr rfl fun i _ => ?_
  simp only [lerp]
  ring

theorem dist_nonneg (a b : Config ℝ) : 0 ≤ dist Real.sqrt a b := Real.sqrt_nonneg _

theorem dist_mul_self (a b : Config ℝ) : dist Real.sqrt a b * dist Real.sqrt a b = dist2 a b :=
  Real.mul_self_sqrt (dist2_nonneg a b)

/-- A step along the segment is a step less to go. -/
theorem dist_advance {a b : Config ℝ} {stepDeg : ℝ} (hstep : 0 < stepDeg) (hfar : stepDeg < dist Real.sqrt a b) :
    dist Real.sqrt (lerp a b (stepDeg / dist Real.sqrt a b)) b = dist Real.sqrt a b - stepDeg := by
  set d := dist Real.sqrt a b with hd
  have hpos : 0 < d := hstep.trans hfar
  have hrest : 0 ≤ 1 - stepDeg / d := by
    rw [sub_nonneg, div_le_one hpos]
    exact hfar.le
  calc dist Real.sqrt (lerp a b (stepDeg / d)) b
      = Real.sqrt ((1 - stepDeg / d) * (1 - stepDeg / d) * (d * d)) := by rw [dist, dist2_lerp, hd, dist_mul_self]
    _ = (1 - stepDeg / d) * d := by
        rw [← mul_mul_mul_comm, Real.sqrt_mul_self (mul_nonneg hrest hpos.le)]
    _ = d - stepDeg := by field_simp

variable {o : Oracle ℝ} {root : Config ℝ} {t : RrtTree ℝ} {target : Config ℝ} {stepDeg : ℝ}

/-- An advance brings the tree half a step closer, whatever the tolerance gives away. -/
theorem Grown.closer (h : TreeSound o root t) (hstep : 0 < stepDeg) {ni : ℕ} {near : Node ℝ} {qNew : Config ℝ}
    (hg : Grown Real.sqrt o t target stepDeg ni near qNew .advanced) {n : Node ℝ} (hn : n ∈ t.nodes)
    (hopen : n.blocked = false) {r : ℝ} (hr : dist Real.sqrt n.q target ≤ r)
    (htol : 4 * (t.nodes.length * eps) ≤ stepDeg * stepDeg) : dist Real.sqrt qNew target ≤ r - stepDeg / 2 := by
  obtain ⟨near', hnear, -, hwithin⟩ := nearest_within h.index hg.nearest
  obtain rfl := Option.some.inj (hnear.symm.trans hg.get)
  have hr0 : 0 ≤ r := (dist_nonneg n.q target).trans hr
  have hsq : dist Real.sqrt near'.q target * dist Real.sqrt near'.q target ≤ (r + stepDeg / 2) * (r + stepDeg / 2) := by
    have hnr := mul_self_le_mul_self (dist_nonneg n.q target) hr
    have hle := hwithin n hn hopen
    rw [dist_mul_self] at hnr ⊢
    nlinarith [mul_nonneg hr0 hstep.le]
  have hclose := (mul_self_le_mul_self_iff (dist_nonneg near'.q target) (by positivity)).mpr hsq
  rcases hg.aim with ⟨he, -⟩ | ⟨-, hfar, rfl⟩
  · exact absurd he (by decide)
  · rw [dist_advance hstep hfar]
    linarith

theorem connect_returns_of_near (ho : o.Consistent) (hstep : 0 < stepDeg) {fuel : ℕ} (h : TreeSound o root t)
    {n : Node ℝ} (hn : n ∈ t.nodes) (hopen : n.blocked = false) {r : ℝ} (hr : dist Real.sqrt n.q target ≤ r)
    (hfuel : 2 * r ≤ fuel * stepDeg) (htol : 4 * ((t.nodes.length + fuel : ℕ) * eps) ≤ stepDeg * stepDeg) :
    ∃ result, connect Real.sqrt o stepDeg target (fuel + 1) t = some result := by
  induction fuel generalizing t n r with
  | zero =>
    rw [connect]
    split
    · rename_i t' he
      rcases extend_cases Real.sqrt o t target stepDeg with ht | ⟨ni, near, qNew, e, hg, ht⟩
      · exact absurd (ht.symm.trans he) (by simp)
      · obtain ⟨rfl, -⟩ := Prod.mk.inj (ht.symm.trans he)
        have hclose := hg.closer h hstep hn hopen hr (by simpa using htol)
        have := dist_nonneg qNew target
        simp only [Nat.cast_zero, zero_mul] at hfuel
        linarith
    · exact ⟨_, rfl⟩
  | succ fuel ih =>
    rw [connect]
    split
    · rename_i t' he
      rcases extend_cases Real.sqrt o t target stepDeg with ht | ⟨ni, near, qNew, e, hg, ht⟩
      · exact absurd (ht.symm.trans he) (by simp)
      · have hsound := h.extend Real.sqrt ho target stepDeg
        rw [he] at hsound
        obtain ⟨rfl, rfl⟩ := Prod.mk.inj (ht.symm.trans he)
        have hfewer : 4 * ((t.nodes.length : ℝ) * eps) ≤ stepDeg * stepDeg := by
          refine le_trans ?_ htol
          have hlen : (t.nodes.length : ℝ) ≤ (t.nodes.length + (fuel + 1) : ℕ) := by exact_mod_cast Nat.le_add_right _ _
          have := mul_le_mul_of_nonneg_right hlen (eps_pos (K := ℝ)).le
          linarith
        have hclose := hg.closer h hstep hn hopen hr hfewer
        refine ih hsound (List.mem_append_right _ (List.mem_singleton_self _)) rfl hclose ?_ ?_
        · push_cast at hfuel
          linarith
        · have hlen : (t.push ⟨qNew, some ni, !o.lazyEdges, false⟩).nodes.length + fuel =
              t.nodes.length + (fuel + 1) := by
            simp only [RrtTree.push, List.length_append, List.length_singleton]
            omega
          rwa [hlen]
    · exact ⟨_, rfl⟩

/-- **`connect` returns** within twice as many calls as there are steps from the root to the target. -/
theorem connect_returns (h : TreeSound o root t) (ho : o.Consistent) (hstep : 0 < stepDeg) {fuel : ℕ}
    (hfuel : 2 * dist Real.sqrt root target ≤ fuel * stepDeg)
    (htol : 4 * ((t.nodes.length + fuel : ℕ) * eps) ≤ stepDeg * stepDeg) :
    ∃ result, connect Real.sqrt o stepDeg target (fuel + 1) t = some result :=
  connect_returns_of_near ho hstep h (List.mem_of_getElem? h.linked.head) rfl le_rfl hfuel htol

end

end RbServo.InitMotion
