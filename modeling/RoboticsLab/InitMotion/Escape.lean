import RoboticsLab.InitMotion.Configuration

/-!
# `escapeToClear`: out of a near-collision

The search tree cannot leave a start that is below the clearance gate.  `escapeToClearAttempt` climbs
first: the forward-difference gradient of the smallest clearance, and a line search by halves along it,
as often as `escape_max_steps` and the deadline allow.  When that ends too low, `escapeToClear` tries
again from randomly perturbed starts.

    every step of a climb raises the clearance        (climb_spec)
    an escape ends clear, the arm at rest stays there  (escapeToClear_spec)
    a restart goes straight to its perturbed start     (escapeRestarts_eq_pair)
-/

namespace RbServo.InitMotion

structure JointLimits (K : Type*) where
  qMinDeg : Joints K
  qMaxDeg : Joints K

/-- What an escape asks of the oracle: the evaluation's smallest clearance and its verdict, and the two
checks of the search. -/
structure EscapeOracle (K : Type*) where
  minClearance : Config K → K
  isClear : Config K → Bool
  clear : Config K → Bool
  edge : Config K → Config K → Bool

/-- One restart: whether the deadline is over, the perturbation, and the deadline over its steps. -/
structure Restart (K : Type*) where
  late : Bool
  perturb : Config K
  lateSteps : ℕ → Bool

section

variable {K : Type*} [Field K] [LinearOrder K] (sqrt : K → K) (lim : JointLimits K) (active : ActiveMask)
  (e : EscapeOracle K) (stepDeg : K)

/-! ## Algorithm -/

def Limited (k : Fin kCombined) : Prop := lim.qMinDeg (armJoint k) < lim.qMaxDeg (armJoint k)

instance (k : Fin kCombined) : Decidable (Limited lim k) :=
  inferInstanceAs (Decidable (lim.qMinDeg (armJoint k) < lim.qMaxDeg (armJoint k)))

def limitJoint (k : Fin kCombined) (x : K) : K :=
  if Limited lim k then Clamp.clamp x (lim.qMinDeg (armJoint k)) (lim.qMaxDeg (armJoint k)) else x

/-- The perturbation of the forward differences, in degrees. -/
def probe : K := max (1 / 100) (1 / 10 * stepDeg)

def gradient (cur : Config K) : Config K := fun k =>
  if active k then
    let x := cur k + probe stepDeg
    let cp := Function.update cur k (if Limited lim k then min x (lim.qMaxDeg (armJoint k)) else x)
    (e.minClearance cp - e.minClearance cur) / probe stepDeg
  else 0

def stepAlong (cur grad : Config K) (gnorm s : K) : Config K := fun k =>
  if active k then limitJoint lim k (cur k + grad k / gnorm * s) else cur k

def lineSearch (cur grad : Config K) (gnorm : K) : ℕ → K → Option (Config K)
  | 0, _ => none
  | tries + 1, s =>
    let next := stepAlong lim active cur grad gnorm s
    if e.minClearance cur + 1 / 10 ^ 9 < e.minClearance next then some next
    else if s / 2 < 1 / 100 then none
    else lineSearch cur grad gnorm tries (s / 2)

def ascend (cur : Config K) : Option (Config K) :=
  let grad := gradient lim active e stepDeg cur
  let gnorm := sqrt (∑ k, grad k * grad k)
  if gnorm < 1 / 10 ^ 9 then none else lineSearch lim active e cur grad gnorm 8 stepDeg

/-- `escapeToClearAttempt` from `cur` on; `late` is the deadline, step by step. -/
def climb : ℕ → (ℕ → Bool) → Config K → Option (List (Config K))
  | 0, _, cur => if e.isClear cur then some [cur] else none
  | steps + 1, late, cur =>
    if late 0 then if e.isClear cur then some [cur] else none
    else if e.isClear cur then some [cur]
    else
      match ascend sqrt lim active e stepDeg cur with
      | none => if e.isClear cur then some [cur] else none
      | some next => (climb steps (fun i => late (i + 1)) next).map (cur :: ·)

def seeded (start perturb : Config K) : Config K := fun k =>
  if active k then limitJoint lim k (start k + perturb k) else start k

/-- A path that may be used, or `none`. -/
def usable (path : Option (List (Config K))) : Option (List (Config K)) :=
  path.filter fun p => p.getLast?.any e.clear

def escapeRestarts (maxSteps : ℕ) (start : Config K) : List (Restart K) → List (Config K)
  | [] => []
  | r :: rest =>
    if r.late then []
    else if e.edge start (seeded lim active start r.perturb) then
      match usable e (climb sqrt lim active e stepDeg maxSteps r.lateSteps (seeded lim active start r.perturb)) with
      | some restarted => start :: restarted
      | none => escapeRestarts maxSteps start rest
    else escapeRestarts maxSteps start rest

/-- `escapeToClear`; empty on failure. -/
def escapeToClear (maxSteps : ℕ) (late : ℕ → Bool) (restarts : List (Restart K)) (start : Config K) : List (Config K) :=
  match usable e (climb sqrt lim active e stepDeg maxSteps late start) with
  | some path => path
  | none => escapeRestarts sqrt lim active e stepDeg maxSteps start restarts

/-! ## Statement -/

/-- The joints of the arm that moves keep to their limits, and the other arm stays. -/
def Moves (a b : Config K) : Prop :=
  ∀ k, if active k then Limited lim k → lim.qMinDeg (armJoint k) ≤ b k ∧ b k ≤ lim.qMaxDeg (armJoint k) else b k = a k

/-- One step of a climb: off a configuration that is not clear yet, to a larger clearance. -/
structure Rises (a b : Config K) : Prop where
  low : e.isClear a = false
  higher : e.minClearance a + 1 / 10 ^ 9 < e.minClearance b
  moves : Moves lim active a b

end

/-! ## Lemmas -/

section

variable {K : Type*} {lim : JointLimits K} {active : ActiveMask} {e : EscapeOracle K}

theorem usable_eq_some {path : Option (List (Config K))} {p : List (Config K)} :
    usable e path = some p ↔ path = some p ∧ ∃ last, p.getLast? = some last ∧ e.clear last = true := by
  rw [usable, Option.filter_eq_some_iff, Option.any_eq_true]

variable [LinearOrder K]

theorem limitJoint_mem (k : Fin kCombined) (x : K) (h : Limited lim k) :
    lim.qMinDeg (armJoint k) ≤ limitJoint lim k x ∧ limitJoint lim k x ≤ lim.qMaxDeg (armJoint k) := by
  rw [limitJoint, if_pos h]
  exact ⟨Clamp.le_clamp (le_of_lt h), Clamp.clamp_le (le_of_lt h)⟩

theorem moves_limited (a : Config K) (f : Fin kCombined → K) :
    Moves lim active a fun k => if active k then limitJoint lim k (f k) else a k := by
  intro k
  by_cases hk : active k = true
  · simpa only [hk, if_true] using limitJoint_mem k (f k)
  · simp [hk]

variable [Field K] {sqrt : K → K} {stepDeg : K}

theorem lineSearch_spec {cur grad next : Config K} {gnorm : K} {tries : ℕ} {s : K}
    (h : lineSearch lim active e cur grad gnorm tries s = some next) :
    e.minClearance cur + 1 / 10 ^ 9 < e.minClearance next ∧ Moves lim active cur next := by
  induction tries generalizing s with
  | zero => simp [lineSearch] at h
  | succ tries ih =>
    rw [lineSearch] at h
    split at h
    · rename_i hrise
      obtain rfl := Option.some.inj h
      exact ⟨hrise, moves_limited cur fun k => cur k + grad k / gnorm * s⟩
    split at h
    · cases h
    · exact ih h

theorem ascend_spec {cur next : Config K} (h : ascend sqrt lim active e stepDeg cur = some next) :
    e.minClearance cur + 1 / 10 ^ 9 < e.minClearance next ∧ Moves lim active cur next := by
  rw [ascend] at h
  split at h
  · cases h
  · exact lineSearch_spec h

/-- **A climb** rises step by step, up to a configuration that is clear. -/
theorem climb_spec {steps : ℕ} {late : ℕ → Bool} {cur : Config K} {path : List (Config K)}
    (h : climb sqrt lim active e stepDeg steps late cur = some path) :
    path.head? = some cur ∧ (∃ last, path.getLast? = some last ∧ e.isClear last = true) ∧ path.length ≤ steps + 1 ∧
      path.IsChain (Rises lim active e) := by
  have hdone : ∀ {steps : ℕ} {cur : Config K} {path : List (Config K)},
      (if e.isClear cur then some [cur] else none) = some path →
      path.head? = some cur ∧ (∃ last, path.getLast? = some last ∧ e.isClear last = true) ∧ path.length ≤ steps + 1 ∧
        path.IsChain (Rises lim active e) := by
    intro steps cur path h
    split at h
    · rename_i hclear
      obtain rfl := Option.some.inj h
      exact ⟨rfl, ⟨cur, rfl, hclear⟩, by simp, List.IsChain.singleton cur⟩
    · cases h
  induction steps generalizing late cur path with
  | zero => exact hdone h
  | succ steps ih =>
    rw [climb] at h
    split at h
    · exact hdone h
    split at h
    · rename_i hclear
      exact hdone (by rw [if_pos hclear]; exact h)
    rename_i hlow
    split at h
    · cases h
    · rename_i next hnext
      obtain ⟨rest, hrest, rfl⟩ := Option.map_eq_some_iff.mp h
      obtain ⟨hhead, ⟨last, hlast, hclear⟩, hlength, hchain⟩ := ih hrest
      obtain ⟨hrise, hmoves⟩ := ascend_spec hnext
      obtain ⟨tail, rfl⟩ : ∃ tail, rest = next :: tail := by
        cases rest with
        | nil => cases hhead
        | cons a tail => exact ⟨tail, by rw [Option.some.inj hhead]⟩
      refine ⟨rfl, ⟨last, ?_, hclear⟩, by simpa using hlength, ?_⟩
      · rw [List.getLast?_cons_cons, hlast]
      · exact List.isChain_cons_cons.mpr ⟨⟨Bool.eq_false_of_not_eq_true hlow, hrise, hmoves⟩, hchain⟩

/-- What a restart that is used is made of. -/
theorem escapeRestarts_spec {maxSteps : ℕ} {start : Config K} {restarts : List (Restart K)}
    (h : escapeRestarts sqrt lim active e stepDeg maxSteps start restarts ≠ []) :
    ∃ r ∈ restarts, ∃ restarted, e.edge start (seeded lim active start r.perturb) = true ∧
      usable e (climb sqrt lim active e stepDeg maxSteps r.lateSteps (seeded lim active start r.perturb)) =
      some restarted ∧
      escapeRestarts sqrt lim active e stepDeg maxSteps start restarts = start :: restarted := by
  induction restarts with
  | nil => exact absurd rfl h
  | cons r rest ih =>
    rw [escapeRestarts] at h ⊢
    have hlater : escapeRestarts sqrt lim active e stepDeg maxSteps start rest ≠ [] →
        ∃ r' ∈ r :: rest, ∃ restarted, e.edge start (seeded lim active start r'.perturb) = true ∧
          usable e (climb sqrt lim active e stepDeg maxSteps r'.lateSteps (seeded lim active start r'.perturb)) =
            some restarted ∧
          escapeRestarts sqrt lim active e stepDeg maxSteps start rest = start :: restarted := fun hne => by
      obtain ⟨r', hr', hspec⟩ := ih hne
      exact ⟨r', List.mem_cons_of_mem r hr', hspec⟩
    split at h
    · exact absurd rfl h
    rename_i hlate
    rw [if_neg hlate]
    split at h
    · rename_i hedge
      rw [if_pos hedge]
      split at h
      · rename_i restarted hused
        exact ⟨r, List.mem_cons_self, restarted, hedge, hused, rfl⟩
      · exact hlater h
    · rename_i hedge
      rw [if_neg hedge]
      exact hlater h

/-- **An escape** starts at the start and ends clear.  Its steps rise, but for the first step of a
restart, which is a checked edge. -/
theorem escapeToClear_spec {maxSteps : ℕ} {late : ℕ → Bool} {restarts : List (Restart K)} {start : Config K}
    (h : escapeToClear sqrt lim active e stepDeg maxSteps late restarts start ≠ []) :
    ∃ rest last, escapeToClear sqrt lim active e stepDeg maxSteps late restarts start = start :: rest ∧
      (start :: rest).getLast? = some last ∧ e.clear last = true ∧
      (start :: rest).IsChain (Moves lim active) ∧ rest.IsChain (Rises lim active e) ∧
      ((start :: rest).IsChain (Rises lim active e) ∨ ∃ next, rest.head? = some next ∧ e.edge start next = true) := by
  rw [escapeToClear] at h ⊢
  have hsplit : ∀ {cur : Config K} {steps : ℕ} {late : ℕ → Bool} {path : List (Config K)},
      usable e (climb sqrt lim active e stepDeg steps late cur) = some path →
      ∃ rest last, path = cur :: rest ∧ path.getLast? = some last ∧ e.clear last = true ∧
        path.IsChain (Rises lim active e) := by
    intro cur steps late path hused
    obtain ⟨hclimb, last, hlast, hclear⟩ := usable_eq_some.mp hused
    obtain ⟨hhead, -, -, hchain⟩ := climb_spec hclimb
    obtain ⟨rest, rfl⟩ := List.head?_eq_some_iff.mp hhead
    exact ⟨rest, last, rfl, hlast, hclear, hchain⟩
  split at h
  · rename_i path hused
    obtain ⟨rest, last, rfl, hlast, hclear, hchain⟩ := hsplit hused
    exact ⟨rest, last, rfl, hlast, hclear, hchain.imp fun a b hab => hab.moves, hchain.tail, Or.inl hchain⟩
  · obtain ⟨r, -, restarted, hedge, hused, heq⟩ := escapeRestarts_spec h
    obtain ⟨rest, last, rfl, hlast, hclear, hchain⟩ := hsplit hused
    refine ⟨_, last, heq, by rw [List.getLast?_cons_cons, hlast], hclear, ?_, hchain, Or.inr ⟨_, rfl, hedge⟩⟩
    exact List.isChain_cons_cons.mpr ⟨moves_limited start fun k => start k + r.perturb k,
      hchain.imp fun a b hab => hab.moves⟩

/-- **Restarts do not climb**: where the check of an edge implies the verdict at its end, the perturbed
start is clear already. -/
theorem escapeRestarts_eq_pair (hedge : ∀ a b, e.edge a b = true → e.isClear b = true) {maxSteps : ℕ}
    {start : Config K} {restarts : List (Restart K)}
    (h : escapeRestarts sqrt lim active e stepDeg maxSteps start restarts ≠ []) :
    ∃ r ∈ restarts, e.edge start (seeded lim active start r.perturb) = true ∧
      escapeRestarts sqrt lim active e stepDeg maxSteps start restarts =
      [start, seeded lim active start r.perturb] := by
  obtain ⟨r, hr, restarted, hedge', hused, heq⟩ := escapeRestarts_spec h
  have hclear := hedge _ _ hedge'
  obtain ⟨hclimb, -⟩ := usable_eq_some.mp hused
  refine ⟨r, hr, hedge', heq.trans ?_⟩
  cases maxSteps with
  | zero => simp_all [climb]
  | succ steps => simp_all [climb]

end

end RbServo.InitMotion
