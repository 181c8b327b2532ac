import RoboticsLab.Ensemble.Telescoping

/-!
# Where late chunks are anchored

The history holds the executed targets of the last `4 R` walls before the next window (`Remembers`).  A chunk that is
delivered less than `4 R` walls after its kick finds the target executed before the kick and is integrated from it; a
later one is integrated from the last target that was executed.

    EveryStep Allowed ops → EveryStep InTime ops → EveryStep Anchored ops              (late_chunks_anchored)
-/

namespace PolicyRunner.Ensemble

open Telescope

variable {G : Type} {cfg : Config G}

/-- The target executed at a wall: those of the windows, in order, are the targets of the walls from 0 on. -/
def Run.executed (r : Run G) (arm : Arm) (wall : ℕ) : Option G := (r.windows.flatMap (·.targets arm))[wall]?

/-- The kick that a chunk is registered at when it is delivered now. -/
def Scheduler.deliveredKick (cfg : Config G) (s : Scheduler G) : ℕ :=
  s.pendingKickWall.getD (s.windowStart - cfg.period)

/-- A chunk is delivered less than `4 R` walls after its kick. -/
def Run.InTime (cfg : Config G) (r : Run G) : Op cfg → Prop
  | .advance (some _) _ => r.scheduler.windowStart < r.scheduler.deliveredKick cfg + 4 * cfg.period
  | _ => True

variable [Group G]

/-- The plan registered for a chunk kicked at `k ≥ 1` is integrated from the target executed at wall `k - 1`. -/
def Run.Anchored (cfg : Config G) (r : Run G) : Op cfg → Prop
  | .advance (some raw) anchor => 1 ≤ r.scheduler.deliveredKick cfg →
    ∃ p, (r.step (.advance (some raw) anchor : Op cfg)).scheduler.plans.getLast? = some p ∧
      p.kickWall = r.scheduler.deliveredKick cfg ∧
      ∀ arm, ∃ g, r.executed arm (r.scheduler.deliveredKick cfg - 1) = some g ∧
        p.absTargets arm = integrate g (raw.rows.map (·.delta arm))
  | _ => True

/-! ## The history -/

omit [Group G] in
/-- The executed targets of the windows `ws`, without those more than `4 R` walls back. -/
structure Remembers (cfg : Config G) (s : Scheduler G) (ws : List (Window G)) : Prop where
  length : ∀ arm, (ws.flatMap (·.targets arm)).length = s.windowStart
  history : ∀ arm wall, s.history arm wall =
    if wall + 4 * cfg.period < s.windowStart then none else (ws.flatMap (·.targets arm))[wall]?

omit [Group G] in
theorem recordHistory_eq (h : ℕ → Option G) (past targets : List G) (period : ℕ)
    (hh : ∀ wall, h wall = if wall + 4 * period < past.length then none else past[wall]?) (wall : ℕ) :
    recordHistory h targets past.length targets.length period wall =
      if wall + 4 * period < past.length + targets.length then none else (past ++ targets)[wall]? := by
  unfold recordHistory
  split_ifs with hpruned hlate
  · rfl
  · -- the targets of the new window
    have hnone : past[wall]? = none := List.getElem?_eq_none hlate
    rw [hh wall, hnone, ite_self, Option.or_none, List.getElem?_append_right hlate]
  · rw [hh wall, if_neg (by omega), List.getElem?_append_left (by omega)]

theorem buildWindow_history {s : Scheduler G} {length : ℕ} {new : Plan G} {old : Option (Plan G)}
    (h : s.choose cfg length = some (new, old)) (arm : Arm) :
    (s.buildWindow cfg length).1.history arm =
      recordHistory (s.history arm) (windowTargets cfg new old s.windowStart length arm) s.windowStart length
        cfg.period := by
  simp [Scheduler.buildWindow, h]

theorem buildWindow_plans (s : Scheduler G) (length : ℕ) : (s.buildWindow cfg length).1.plans = s.plans := by
  unfold Scheduler.buildWindow
  cases s.choose cfg length with
  | none => rfl
  | some chosen => rfl

theorem Remembers.build {s : Scheduler G} {ws : List (Window G)} {length : ℕ} {new : Plan G} {old : Option (Plan G)}
    {w : Window G} (hs : Remembers cfg s ws) (h : s.choose cfg length = some (new, old))
    (b : Built cfg s length new old (s.buildWindow cfg length).1 w) :
    Remembers cfg (s.buildWindow cfg length).1 (ws ++ [w]) := by
  have hflat : ∀ arm, (ws ++ [w]).flatMap (·.targets arm) = ws.flatMap (·.targets arm) ++ w.targets arm := by
    intro arm
    simp
  constructor
  · intro arm
    rw [hflat, List.length_append, hs.length, b.length_targets, b.windowStart]
  · intro arm wall
    have hrec := recordHistory_eq (s.history arm) (ws.flatMap (·.targets arm)) (w.targets arm) cfg.period
      (by rw [hs.length]; exact hs.history arm) wall
    rw [hs.length, b.length_targets] at hrec
    rw [buildWindow_history h, ← b.targets, hflat, b.windowStart, hrec]

variable {raw : Chunk cfg} {seed : Arm → G}

theorem first_remembers (cfg : Config G) (raw : Chunk cfg) (seed : Arm → G) :
    Remembers cfg (Run.first cfg raw seed).scheduler (Run.first cfg raw seed).windows := by
  have hinit : Remembers cfg ((Scheduler.init : Scheduler G).register raw.rows 0 seed) [] :=
    ⟨fun _ => rfl, fun _ _ => by simp [Scheduler.register, Scheduler.init]⟩
  have hfull : ∀ p ∈ ((Scheduler.init : Scheduler G).register raw.rows 0 seed).plans, p.Full cfg := by
    intro p hp
    obtain rfl := List.mem_singleton.mp hp
    exact firstPlan_full raw seed
  have hchoose := choose_first (s := (Scheduler.init : Scheduler G).register raw.rows 0 seed) raw seed rfl rfl
  obtain ⟨w, hw, b⟩ := buildWindow_of_some hfull hchoose
  have h := hinit.build hchoose b
  unfold Run.first Scheduler.begin
  dsimp only
  rw [hw]
  exact ⟨h.length, h.history⟩

theorem step_remembers {r : Run G} (k : Kicked cfg r.scheduler) (h : Remembers cfg r.scheduler r.windows)
    (op : Op cfg) : Remembers cfg (r.step op).scheduler (r.step op).windows := by
  cases op with
  | noteKick wall => exact ⟨h.length, h.history⟩
  | advance raw anchor =>
    have hreg := k.arrive raw anchor
    obtain ⟨hstart, -, hhist, -⟩ := arrive_frame cfg r.scheduler (raw.map Chunk.rows) anchor
    have harrive : Remembers cfg (r.scheduler.arrive cfg (raw.map Chunk.rows) anchor) r.windows := by
      refine ⟨fun arm => ?_, fun arm wall => ?_⟩
      · rw [hstart]
        exact h.length arm
      · rw [hhist, hstart]
        exact h.history arm wall
    unfold Run.step Scheduler.advance
    dsimp only
    cases hc : (r.scheduler.arrive cfg (raw.map Chunk.rows) anchor).choose cfg cfg.period with
    | none =>
      rw [buildWindow_of_none hc]
      simp only [Option.isSome_none, Bool.false_eq_true, if_false, Option.toList_none, List.append_nil]
      exact ⟨harrive.length, harrive.history⟩
    | some chosen =>
      obtain ⟨w, hw, b⟩ := buildWindow_of_some hreg.full hc
      have hb := harrive.build hc b
      rw [hw]
      simp only [Option.isSome_some, if_true, Option.toList_some]
      exact ⟨hb.length, hb.history⟩

/-! ## The anchor of a delivered chunk -/

omit [Group G] in
theorem getLast?_drop_concat {xs : List (Plan G)} (h : xs ≠ []) (x : Plan G) :
    ((xs ++ [x]).drop 1).getLast? = some x := by
  rw [List.drop_append_of_le_length (List.length_pos_iff.mpr h), List.getLast?_concat]

theorem register_getLast (anchor : Arm → G) (s : Scheduler G) (rows : List (Row G)) (kick : ℕ) :
    ∃ p, (s.register rows kick anchor).plans.getLast? = some p ∧ p.kickWall = kick ∧
      ∀ arm, p.absTargets arm = integrate (s.anchorFor arm kick anchor) (rows.map (·.delta arm)) := by
  unfold Scheduler.register
  dsimp only
  split_ifs with hlen
  · have hne : s.plans ≠ [] := by
      intro hnil
      simp [hnil] at hlen
    exact ⟨_, getLast?_drop_concat hne _, rfl, fun _ => rfl⟩
  · exact ⟨_, List.getLast?_concat, rfl, fun _ => rfl⟩

/-- The plan that an `advance` registers. -/
theorem registered_plan (r : Run G) (raw : Chunk cfg) (anchor : Arm → G) :
    ∃ p, (r.step (.advance (some raw) anchor : Op cfg)).scheduler.plans.getLast? = some p ∧
      p.kickWall = r.scheduler.deliveredKick cfg ∧ ∀ arm, p.absTargets arm =
        integrate (r.scheduler.anchorFor arm (r.scheduler.deliveredKick cfg) anchor) (raw.rows.map (·.delta arm)) := by
  have hplans : (r.step (.advance (some raw) anchor : Op cfg)).scheduler.plans =
      (r.scheduler.arrive cfg (some raw.rows) anchor).plans := by
    unfold Run.step Scheduler.advance
    dsimp only [Option.map_some]
    split_ifs
    · exact buildWindow_plans _ _
    · exact buildWindow_plans _ _
  rw [hplans]
  exact register_getLast anchor _ raw.rows _

omit [Group G] in
/-- In time, the target before the kick is still in the history. -/
theorem anchorFor_executed {r : Run G} (h : Remembers cfg r.scheduler r.windows) {k : ℕ} (hk : 1 ≤ k)
    (hle : k ≤ r.scheduler.windowStart) (htime : r.scheduler.windowStart < k + 4 * cfg.period) (arm : Arm)
    (anchor : Arm → G) : r.executed arm (k - 1) = some (r.scheduler.anchorFor arm k anchor) := by
  have hlen := h.length arm
  have hhist := h.history arm (k - 1)
  rw [if_neg (by omega)] at hhist
  have hlt : k - 1 < (r.windows.flatMap (·.targets arm)).length := by omega
  have hsome : r.executed arm (k - 1) = some (r.windows.flatMap (·.targets arm))[k - 1] :=
    List.getElem?_eq_getElem hlt
  have hhist' : r.scheduler.history arm (k - 1) = r.executed arm (k - 1) := hhist
  rw [Scheduler.anchorFor, if_neg (by omega), hhist', hsome]
  rfl

omit [Group G] in
/-- A kick that is pending, or the nominal one, lies before the next window. -/
theorem Kicked.deliveredKick_le {s : Scheduler G} (k : Kicked cfg s) : s.deliveredKick cfg ≤ s.windowStart := by
  unfold Scheduler.deliveredKick
  cases hp : s.pendingKickWall with
  | none => exact Nat.sub_le _ _
  | some wall =>
    have := (k.pending wall hp).1
    rw [Option.getD_some]
    omega

/-! ## Runs -/

theorem after_remembers {ops : List (Op cfg)}
    (h : Runs.EveryStep (fun pre op => (Run.after cfg raw seed pre).Allowed cfg op) ops) :
    Remembers cfg (Run.after cfg raw seed ops).scheduler (Run.after cfg raw seed ops).windows := by
  refine h.invariant (fun pre => (Chained cfg seed (.after cfg raw seed pre) ∧
    Kicked cfg (Run.after cfg raw seed pre).scheduler) ∧
    Remembers cfg (Run.after cfg raw seed pre).scheduler (Run.after cfg raw seed pre).windows)
    ⟨first_chained cfg raw seed, first_remembers cfg raw seed⟩ ?_ |>.2
  rintro pre op ⟨⟨c, k⟩, hr⟩ hop
  have hstep : Run.after cfg raw seed (pre ++ [op]) = (Run.after cfg raw seed pre).step op := by
    simp [Run.after]
  rw [hstep]
  exact ⟨step_chained c k hop, step_remembers k hr op⟩

/-- **Chunks that are delivered in time are anchored at their kick.** -/
theorem late_chunks_anchored (cfg : Config G) (raw : Chunk cfg) (seed : Arm → G) {ops : List (Op cfg)}
    (h : Runs.EveryStep (fun pre op => (Run.after cfg raw seed pre).Allowed cfg op) ops)
    (htime : Runs.EveryStep (fun pre op => (Run.after cfg raw seed pre).InTime cfg op) ops) :
    Runs.EveryStep (fun pre op => (Run.after cfg raw seed pre).Anchored cfg op) ops := by
  intro pre op post e
  have hpre := h.of_append e
  have hr := after_remembers hpre
  have k := (run_chained hpre).2
  have ht := htime pre op post e
  cases op with
  | noteKick wall => trivial
  | advance chunk anchor =>
    cases chunk with
    | none => trivial
    | some chunk =>
      intro hk
      obtain ⟨p, hp, hkick, habs⟩ := registered_plan (Run.after cfg raw seed pre) chunk anchor
      exact ⟨p, hp, hkick, fun arm => ⟨_, anchorFor_executed hr hk k.deliveredKick_le ht arm anchor, habs arm⟩⟩

/-- As `lineConfig`, with a horizon of six periods. -/
def longConfig : Config (Multiplicative ℤ) := { lineConfig with horizon := 12, three_period_le := by decide }

def longChunk (step : ℤ) : Chunk longConfig := ⟨List.replicate 12 ⟨fun _ => .ofAdd step, fun _ => 0⟩, rfl⟩

/-- The kick at wall 4, the start of the second window, and the three windows after it without a chunk. -/
def longOps : List (Op longConfig) :=
  [.advance none fun _ => 1, .noteKick 4, .advance none fun _ => 1, .advance none fun _ => 1]

/-- Delivered at wall 10, six walls after its kick, the chunk is in time. -/
theorem late_chunks_anchored_long : Runs.EveryStep
    (fun pre op => (Run.after longConfig (longChunk 1) (fun _ => 1) pre).Anchored longConfig op)
    (longOps ++ [.advance (some (longChunk 3)) fun _ => 1]) := by
  refine late_chunks_anchored longConfig (longChunk 1) (fun _ => 1) (Runs.everyStep_of_take fun i hi op hop => ?_)
    (Runs.everyStep_of_take fun i hi op hop => ?_)
  · have hlt : i < 5 := hi
    obtain rfl | rfl | rfl | rfl | rfl : i = 0 ∨ i = 1 ∨ i = 2 ∨ i = 3 ∨ i = 4 := by omega
    · obtain rfl := Option.some.inj hop
      trivial
    · obtain rfl := Option.some.inj hop
      exact ⟨.inr (by decide +kernel), by decide +kernel⟩
    · obtain rfl := Option.some.inj hop
      trivial
    · obtain rfl := Option.some.inj hop
      trivial
    · obtain rfl := Option.some.inj hop
      trivial
  · have hlt : i < 5 := hi
    obtain rfl | rfl | rfl | rfl | rfl : i = 0 ∨ i = 1 ∨ i = 2 ∨ i = 3 ∨ i = 4 := by omega
    · obtain rfl := Option.some.inj hop
      trivial
    · obtain rfl := Option.some.inj hop
      trivial
    · obtain rfl := Option.some.inj hop
      trivial
    · obtain rfl := Option.some.inj hop
      trivial
    · obtain rfl := Option.some.inj hop
      show _ < _
      decide +kernel

/-- One boundary later it is anchored at the target of wall 11 and not at that of wall 3; no window is missing. -/
theorem late_chunk_at_tail :
    (Run.after longConfig (longChunk 1) (fun _ => 1) (longOps ++ [.advance none fun _ => 1])).windows.length = 5 ∧
    ((Run.after longConfig (longChunk 1) (fun _ => 1) (longOps ++ [.advance none fun _ => 1])).step
      (.advance (some (longChunk 3)) fun _ => 1 : Op longConfig)).windows.length = 6 ∧
    ¬ (Run.after longConfig (longChunk 1) (fun _ => 1) (longOps ++ [.advance none fun _ => 1])).Anchored longConfig
      (.advance (some (longChunk 3)) fun _ => 1) := by
  refine ⟨by decide +kernel, by decide +kernel, fun h => ?_⟩
  obtain ⟨p, hp, -, habs⟩ := h (by decide +kernel)
  obtain ⟨g, hg, htargets⟩ := habs .left
  have hexecuted : (Run.after longConfig (longChunk 1) (fun _ => 1) (longOps ++ [.advance none fun _ => 1])).executed
      .left 3 = some (.ofAdd 4) := by decide +kernel
  obtain rfl : Multiplicative.ofAdd 4 = g := Option.some.inj (hexecuted.symm.trans hg)
  -- the targets start at 15, three steps after that of wall 11
  have hhead := congrArg (Option.map fun p => (p.absTargets .left).head?) hp
  rw [Option.map_some, htargets] at hhead
  exact absurd hhead (by decide +kernel)

end PolicyRunner.Ensemble
