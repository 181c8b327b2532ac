import RoboticsLab.Ensemble.ChunkEnsemble
import RoboticsLab.Lib.Runs

/-!
# Ensemble windows telescope

A `Run` is a scheduler with the windows it returned, from `begin` through `noteKick` and `advance`.  A kick is
noted at the start of a window that was built, or at wall `R` of the first one, and not before the kicks of the
chunks that have arrived (`Allowed`).  Each window starts where the one before ends, in walls and in targets
(`Chained`), so that the rows of all windows, composed from the seed, give the targets back.  Seen from the end
of a window the older of two plans is past its old side (`Kicked`): the next window, without a new chunk, is the
latest plan alone, which is what the runway reads.

    EveryStep Allowed ops → integrate (seed arm) (emitted deltas) = window targets      (windows_telescope)
-/

namespace PolicyRunner.Ensemble

open Telescope

variable {G : Type} {cfg : Config G} {s : Scheduler G} {p : Plan G} {arm : Arm} {start length : ℕ}

/-! ## Rows and segments -/

theorem range_map_getD {α : Type} (xs : List α) (d : α) : (List.range xs.length).map (fun j => xs.getD j d) = xs := by
  refine List.ext_getElem (by simp) fun i hi hi' => ?_
  simp [hi']

/-- The plan of a whole chunk. -/
structure Plan.Full (cfg : Config G) (p : Plan G) : Prop where
  horizon : p.horizon = cfg.horizon
  targets : ∀ arm, (p.absTargets arm).length = cfg.horizon
  grips : ∀ arm, (p.grips arm).length = cfg.horizon

theorem Plan.covers_iff : p.covers start length = true ↔
    p.kickWall ≤ start ∧ start - p.kickWall + length ≤ p.horizon := by
  simp [Plan.covers]

theorem Plan.Full.length_segment (f : p.Full cfg) (h : p.covers start length = true) :
    (p.segment arm start length).length = length := by
  have hc := Plan.covers_iff.mp h
  have ht := f.targets arm
  have hh := f.horizon
  simp only [Plan.segment, List.length_take, List.length_drop]
  omega

theorem length_windowTargets {old : Option (Plan G)} (f : p.Full cfg) (h : p.covers start length = true)
    (hold : ∀ o ∈ old, o.Full cfg ∧ o.covers start length = true) :
    (windowTargets cfg p old start length arm).length = length := by
  cases old with
  | none => exact f.length_segment h
  | some o =>
    obtain ⟨fo, ho⟩ := hold o rfl
    simp [windowTargets, f.length_segment h, fo.length_segment ho]

/-! ## The plans of a window -/

theorem choose_some {old : Option (Plan G)} (h : s.choose cfg length = some (p, old)) :
    (p ∈ s.plans ∧ p.covers s.windowStart length = true) ∧
      ∀ o ∈ old, o ∈ s.plans ∧ o.covers s.windowStart length = true := by
  have hmem : ∀ q ∈ s.plans.reverse.filter fun p => p.covers s.windowStart length,
      q ∈ s.plans ∧ q.covers s.windowStart length = true := by
    intro q hq
    simpa using hq
  unfold Scheduler.choose at h
  split at h
  · cases h
  · rename_i new older hfilter
    rw [hfilter] at hmem
    split at h
    · rename_i plan rest
      split_ifs at h
      · cases h
        refine ⟨hmem p (by simp), ?_⟩
        intro o ho
        cases ho
        exact hmem _ (by simp)
      · cases h
        exact ⟨hmem p (by simp), by simp⟩
    · cases h
      exact ⟨hmem p (by simp), by simp⟩

theorem choose_eq_none : s.choose cfg length = none ↔ ∀ q ∈ s.plans, q.covers s.windowStart length = false := by
  unfold Scheduler.choose
  constructor
  · intro h
    split at h
    · rename_i hfilter
      intro q hq
      have := List.filter_eq_nil_iff.mp hfilter q (by simpa using hq)
      simpa using this
    · split at h
      · split_ifs at h
      · cases h
  · intro h
    have hfilter : (s.plans.reverse.filter fun p => p.covers s.windowStart length) = [] :=
      List.filter_eq_nil_iff.mpr fun q hq => by simpa using h q (by simpa using hq)
    rw [hfilter]

/-! ## Building a window -/

variable [Group G]

theorem map_delta_rowsOf {delta : Arm → List G} {grip : Arm → List ℚ} (h : (delta arm).length = length) :
    (rowsOf length delta grip).map (·.delta arm) = delta arm := by
  subst h
  simp only [rowsOf, List.map_map, Function.comp_def]
  exact range_map_getD (delta arm) 1

@[simp] theorem length_rowsOf (delta : Arm → List G) (grip : Arm → List ℚ) :
    (rowsOf length delta grip).length = length := by
  simp [rowsOf]

/-- What a window built from `new` and `old` is and changes. -/
structure Built (cfg : Config G) (s : Scheduler G) (length : ℕ) (new : Plan G) (old : Option (Plan G))
    (s' : Scheduler G) (w : Window G) : Prop where
  start : w.start = s.windowStart
  windowStart : s'.windowStart = s.windowStart + length
  lastWindowStart : s'.lastWindowStart = s.windowStart
  lastWindowLength : s'.lastWindowLength = length
  plans : s'.plans = s.plans
  pending : s'.pendingKickWall = s.pendingKickWall
  targets : w.targets = windowTargets cfg new old s.windowStart length
  length_targets : ∀ arm, (w.targets arm).length = length
  rows : w.rows = rowsOf length (fun arm => deltas ((s.planTail arm).getD (new.anchors arm)) (w.targets arm))
    (windowGrips new old s.windowStart length)
  planTail : ∀ arm, s'.planTail arm = some (last ((s.planTail arm).getD (new.anchors arm)) (w.targets arm))

theorem buildWindow_of_none (h : s.choose cfg length = none) :
    s.buildWindow cfg length = ({ s with lastWindowProvenance := .starved }, none) := by
  simp [Scheduler.buildWindow, h]

theorem buildWindow_of_some {new : Plan G} {old : Option (Plan G)} (full : ∀ q ∈ s.plans, q.Full cfg)
    (h : s.choose cfg length = some (new, old)) :
    ∃ w, (s.buildWindow cfg length).2 = some w ∧ Built cfg s length new old (s.buildWindow cfg length).1 w := by
  obtain ⟨⟨hmem, hcov⟩, hold⟩ := choose_some h
  have hlen : ∀ arm, (windowTargets cfg new old s.windowStart length arm).length = length := fun arm =>
    length_windowTargets (full new hmem) hcov fun o ho => ⟨full o (hold o ho).1, (hold o ho).2⟩
  unfold Scheduler.buildWindow
  rw [h]
  exact ⟨_, rfl, rfl, rfl, rfl, rfl, rfl, rfl, rfl, hlen, rfl, fun arm => rfl⟩

/-- The rows of a window lead from the tail to its targets. -/
theorem Built.delta_rows {new : Plan G} {old : Option (Plan G)} {s' : Scheduler G} {w : Window G}
    (b : Built cfg s length new old s' w) (arm : Arm) :
    w.rows.map (·.delta arm) = deltas ((s.planTail arm).getD (new.anchors arm)) (w.targets arm) := by
  rw [b.rows, map_delta_rowsOf (by simp [b.length_targets arm])]

/-! ## Runs -/

/-- A scheduler and the windows it returned. -/
structure Run (G : Type) where
  scheduler : Scheduler G
  windows : List (Window G)

/-- A raw chunk of the policy: `action_horizon` rows. -/
structure Chunk (cfg : Config G) where
  rows : List (Row G)
  length_rows : rows.length = cfg.horizon

inductive Op (cfg : Config G)
  | noteKick (wall : ℕ)
  | advance (raw : Option (Chunk cfg)) (anchor : Arm → G)

def Run.step (r : Run G) : Op cfg → Run G
  | .noteKick wall => { r with scheduler := r.scheduler.noteKick wall }
  | .advance raw anchor =>
    let (s, window) := r.scheduler.advance cfg (raw.map Chunk.rows) anchor
    ⟨s, r.windows ++ window.toList⟩

/-- The run of `begin`, with the seed poses of the first chunk. -/
def Run.first (cfg : Config G) (raw : Chunk cfg) (seed : Arm → G) : Run G :=
  let (s, window) := Scheduler.init.begin cfg raw.rows seed
  ⟨s, window.toList⟩

def Run.after (cfg : Config G) (raw : Chunk cfg) (seed : Arm → G) (ops : List (Op cfg)) : Run G :=
  ops.foldl Run.step (.first cfg raw seed)

/-- A kick is noted at the start of a window that was built, or at wall `R` of the first one, and not before the kick of
a chunk that has arrived. -/
def Run.Allowed (cfg : Config G) (r : Run G) : Op cfg → Prop
  | .noteKick wall => (wall = cfg.period ∨ ∃ w ∈ r.windows, w.start = wall) ∧
      ∀ p ∈ r.scheduler.plans, p.kickWall ≤ wall
  | .advance _ _ => True

/-- The windows cover the walls from `start` to `stop` without gap or overlap. -/
def Consecutive : ℕ → List (Window G) → ℕ → Prop
  | start, [], stop => start = stop
  | start, w :: ws, stop => w.start = start ∧ Consecutive (start + w.rows.length) ws stop

/-! ## Walls and targets -/

/-- The windows returned so far, in walls and in targets. -/
structure Chained (cfg : Config G) (seed : Arm → G) (r : Run G) : Prop where
  consecutive : Consecutive 0 r.windows r.scheduler.windowStart
  lengths : ∃ n, r.windows.map (·.rows.length) = 2 * cfg.period :: List.replicate n cfg.period
  integrates : ∀ arm, integrate (seed arm) ((r.windows.flatMap (·.rows)).map (·.delta arm)) =
    r.windows.flatMap (·.targets arm)
  tail : ∀ arm, r.scheduler.planTail arm = some (last (seed arm) (r.windows.flatMap (·.targets arm)))
  stop : r.scheduler.lastWindowStart + r.scheduler.lastWindowLength = r.scheduler.windowStart
  nonempty : 0 < r.scheduler.lastWindowLength

/-- The plans and kicks, seen from the next window. -/
structure Kicked (cfg : Config G) (s : Scheduler G) : Prop where
  full : ∀ p ∈ s.plans, p.Full cfg
  nonempty : s.plans ≠ []
  used : ∀ p ∈ s.plans, p.kickWall + 2 * cfg.period ≤ s.windowStart
  older : s.plans.Pairwise fun p q => p.kickWall ≤ q.kickWall ∧ p.kickWall + 2 * cfg.period < s.windowStart
  pending : ∀ wall ∈ s.pendingKickWall, wall + cfg.period ≤ s.windowStart ∧ ∀ p ∈ s.plans, p.kickWall ≤ wall

/-! ## A chunk arrives -/

/-- The plans once a chunk was registered, before its window is built. -/
structure Registered (cfg : Config G) (s : Scheduler G) : Prop where
  full : ∀ p ∈ s.plans, p.Full cfg
  nonempty : s.plans ≠ []
  near : ∀ p ∈ s.plans, p.kickWall + cfg.period ≤ s.windowStart
  older : s.plans.Pairwise fun p q => p.kickWall ≤ q.kickWall ∧ p.kickWall + 2 * cfg.period ≤ s.windowStart
  pending : ∀ wall ∈ s.pendingKickWall, wall + cfg.period ≤ s.windowStart ∧ ∀ p ∈ s.plans, p.kickWall ≤ wall

theorem register_plans (anchor : Arm → G) (s : Scheduler G) (rows : List (Row G)) (kick : ℕ) :
    ∃ k new, (s.register rows kick anchor).plans = (s.plans ++ [new]).drop k ∧ new.kickWall = kick ∧
      new.horizon = rows.length ∧ (∀ arm, (new.absTargets arm).length = rows.length) ∧
      (∀ arm, (new.grips arm).length = rows.length) ∧ k ≤ s.plans.length := by
  unfold Scheduler.register
  dsimp only
  split_ifs with hlen
  · refine ⟨1, _, rfl, rfl, rfl, by simp, by simp, ?_⟩
    simp only [List.length_append, List.length_singleton] at hlen
    omega
  · exact ⟨0, _, rfl, rfl, rfl, by simp, by simp, by simp⟩

/-- Only the plans and the pending kick change when a chunk arrives. -/
theorem arrive_frame (cfg : Config G) (s : Scheduler G) (raw : Option (List (Row G))) (anchor : Arm → G) :
    (s.arrive cfg raw anchor).windowStart = s.windowStart ∧ (s.arrive cfg raw anchor).planTail = s.planTail ∧
      (s.arrive cfg raw anchor).history = s.history ∧
      (s.arrive cfg raw anchor).lastWindowStart = s.lastWindowStart ∧
      (s.arrive cfg raw anchor).lastWindowLength = s.lastWindowLength ∧
      (s.arrive cfg raw anchor).firstWindowBuilt = s.firstWindowBuilt ∧
      (s.arrive cfg raw anchor).activeKickAt = s.activeKickAt := by
  cases raw with
  | none => exact ⟨rfl, rfl, rfl, rfl, rfl, rfl, rfl⟩
  | some raw => exact ⟨rfl, rfl, rfl, rfl, rfl, rfl, rfl⟩

omit [Group G] in
theorem Kicked.registered (h : Kicked cfg s) : Registered cfg s where
  full := h.full
  nonempty := h.nonempty
  near p hp := by
    have := h.used p hp
    omega
  older := h.older.imp fun hpq => ⟨hpq.1, hpq.2.le⟩
  pending := h.pending

theorem Kicked.arrive (h : Kicked cfg s) (raw : Option (Chunk cfg)) (anchor : Arm → G) :
    Registered cfg (s.arrive cfg (raw.map Chunk.rows) anchor) := by
  cases raw with
  | none => exact h.registered
  | some raw =>
    rw [Option.map_some]
    -- the kick of the new chunk is not before the others and lies a period back
    have hkick : s.pendingKickWall.getD (s.windowStart - cfg.period) + cfg.period ≤ s.windowStart ∧
        ∀ p ∈ s.plans, p.kickWall ≤ s.pendingKickWall.getD (s.windowStart - cfg.period) := by
      cases hp : s.pendingKickWall with
      | some wall => exact h.pending wall hp
      | none =>
        obtain ⟨p, hmem⟩ := List.exists_mem_of_ne_nil _ h.nonempty
        have hused := h.used p hmem
        refine ⟨by simp only [Option.getD_none]; omega, fun q hq => ?_⟩
        have := h.used q hq
        simp only [Option.getD_none]
        omega
    obtain ⟨k, new, hplans, hwall, hhor, htar, hgrip, hk⟩ := register_plans anchor
      { s with pendingKickWall := none } raw.rows (s.pendingKickWall.getD (s.windowStart - cfg.period))
    have hplans' : (s.arrive cfg (some raw.rows) anchor).plans = (s.plans ++ [new]).drop k := hplans
    have hfull : new.Full cfg := ⟨hhor.trans raw.length_rows, fun arm => (htar arm).trans raw.length_rows, fun arm =>
      (hgrip arm).trans raw.length_rows⟩
    have hmem : ∀ p ∈ (s.arrive cfg (some raw.rows) anchor).plans, p ∈ s.plans ∨ p = new := by
      intro p hp
      rw [hplans'] at hp
      simpa using List.mem_of_mem_drop hp
    constructor
    · intro p hp
      obtain hp | rfl := hmem p hp
      · exact h.full p hp
      · exact hfull
    · rw [hplans', List.drop_append_of_le_length hk]
      simp
    · intro p hp
      show p.kickWall + cfg.period ≤ s.windowStart
      obtain hp | rfl := hmem p hp
      · have := h.used p hp
        omega
      · rw [hwall]
        exact hkick.1
    · rw [hplans']
      refine List.Pairwise.drop (List.pairwise_append.mpr ⟨?_, by simp, ?_⟩)
      · exact h.older.imp fun hpq => ⟨hpq.1, hpq.2.le⟩
      · intro p hp q hq
        rw [List.mem_singleton.mp hq, hwall]
        exact ⟨hkick.2 p hp, h.used p hp⟩
    · intro wall hw
      cases hw

/-- Once the window is built, or no plan covers it, the older plan is past its old side. -/
theorem Registered.build (h : Registered cfg s) : Kicked cfg (s.buildWindow cfg cfg.period).1 := by
  have hperiod := cfg.two_le_period
  have hhorizon := cfg.three_period_le
  cases hc : s.choose cfg cfg.period with
  | none =>
    rw [buildWindow_of_none hc]
    have hlate : ∀ p ∈ s.plans, p.kickWall + 2 * cfg.period < s.windowStart := by
      intro p hp
      have hcov := choose_eq_none.mp hc p hp
      have hnear := h.near p hp
      rw [← Bool.not_eq_true, Plan.covers_iff, (h.full p hp).horizon] at hcov
      omega
    constructor
    · exact h.full
    · exact h.nonempty
    · exact fun p hp => (hlate p hp).le
    · refine h.older.imp_of_mem fun hp _ hpq => ⟨hpq.1, hlate _ hp⟩
    · exact h.pending
  | some chosen =>
    obtain ⟨w, -, b⟩ := buildWindow_of_some h.full hc
    constructor
    · rw [b.plans]
      exact h.full
    · rw [b.plans]
      exact h.nonempty
    · intro p hp
      rw [b.plans] at hp
      have := h.near p hp
      rw [b.windowStart]
      omega
    · rw [b.plans, b.windowStart]
      refine h.older.imp fun hpq => ⟨hpq.1, ?_⟩
      omega
    · intro wall hw
      rw [b.pending] at hw
      obtain ⟨hwall, hold⟩ := h.pending wall hw
      rw [b.plans, b.windowStart]
      exact ⟨by omega, hold⟩

/-! ## One operation -/

omit [Group G] in
theorem consecutive_concat {a e : ℕ} {ws : List (Window G)} {w : Window G} (h : Consecutive a ws w.start)
    (he : w.start + w.rows.length = e) : Consecutive a (ws ++ [w]) e := by
  induction ws generalizing a with
  | nil =>
    obtain rfl : a = w.start := h
    exact ⟨rfl, he⟩
  | cons v ws ih => exact ⟨h.1, ih h.2⟩

omit [Group G] in
theorem Consecutive.le {a e : ℕ} {ws : List (Window G)} (h : Consecutive a ws e) : a ≤ e := by
  induction ws generalizing a with
  | nil => exact le_of_eq h
  | cons v ws ih =>
    have := ih h.2
    omega

omit [Group G] in
theorem Consecutive.stop_le {a e : ℕ} {ws : List (Window G)} {w : Window G} (h : Consecutive a ws e) (hw : w ∈ ws) :
    w.start + w.rows.length ≤ e := by
  induction ws generalizing a with
  | nil => cases hw
  | cons v ws ih =>
    obtain rfl | hw := List.mem_cons.mp hw
    · rw [h.1]
      exact h.2.le
    · exact ih h.2 hw

variable {seed : Arm → G} {r : Run G}

omit [Group G] in
theorem mem_lengths {ws : List (Window G)} {w : Window G} {m n : ℕ}
    (h : ws.map (·.rows.length) = 2 * m :: List.replicate n m) (hw : w ∈ ws) : m ≤ w.rows.length := by
  have hmem : w.rows.length ∈ 2 * m :: List.replicate n m := h ▸ List.mem_map_of_mem hw
  obtain heq | hrep := List.mem_cons.mp hmem
  · omega
  · exact (List.eq_of_mem_replicate hrep).ge

/-- A kick that is allowed lies a period before the next window. -/
theorem Chained.kick (c : Chained cfg seed r) {wall : ℕ} (h : r.Allowed cfg (.noteKick wall)) :
    wall + cfg.period ≤ r.scheduler.windowStart := by
  obtain ⟨n, hlen⟩ := c.lengths
  obtain ⟨rfl | ⟨w, hw, rfl⟩, -⟩ := h
  · -- the first window covers the walls up to `2 R`
    cases hws : r.windows with
    | nil => simp [hws] at hlen
    | cons w ws =>
      have hcons := c.consecutive
      rw [hws] at hcons hlen
      have hstop := hcons.2.le
      simp only [List.map_cons, List.cons.injEq] at hlen
      omega
  · have hstop := c.consecutive.stop_le hw
    have hge := mem_lengths hlen hw
    omega

/-- The window after the ones returned so far. -/
theorem Chained.append {s : Scheduler G} {new : Plan G} {old : Option (Plan G)} {s' : Scheduler G} {w : Window G}
    (c : Chained cfg seed r) (hstart : s.windowStart = r.scheduler.windowStart)
    (htail : s.planTail = r.scheduler.planTail)
    (b : Built cfg s cfg.period new old s' w) {s'' : Scheduler G} (hs : s''.windowStart = s'.windowStart)
    (ht : s''.planTail = s'.planTail) (hl : s''.lastWindowStart = s'.lastWindowStart)
    (hn : s''.lastWindowLength = s'.lastWindowLength) : Chained cfg seed ⟨s'', r.windows ++ [w]⟩ := by
  have hrows : w.rows.length = cfg.period := by
    rw [b.rows, length_rowsOf]
  have hprev : ∀ arm, (s.planTail arm).getD (new.anchors arm) =
      last (seed arm) (r.windows.flatMap (·.targets arm)) := by
    intro arm
    rw [htail, c.tail arm]
    rfl
  constructor
  · refine consecutive_concat ?_ ?_
    · rw [b.start, hstart]
      exact c.consecutive
    · rw [b.start, hrows, hs, b.windowStart]
  · obtain ⟨n, hlen⟩ := c.lengths
    refine ⟨n + 1, ?_⟩
    rw [List.map_append, hlen, List.replicate_succ']
    simp [hrows]
  · intro arm
    rw [List.flatMap_append, List.flatMap_append, List.map_append, integrate_append, c.integrates arm]
    simp only [List.flatMap_cons, List.flatMap_nil, List.append_nil]
    rw [b.delta_rows arm, hprev arm, integrate_deltas]
  · intro arm
    show s''.planTail arm = _
    rw [ht, b.planTail arm, hprev arm, List.flatMap_append, last_append]
    simp
  · show s''.lastWindowStart + s''.lastWindowLength = s''.windowStart
    rw [hl, hn, hs, b.lastWindowStart, b.lastWindowLength, b.windowStart]
  · show 0 < s''.lastWindowLength
    rw [hn, b.lastWindowLength]
    have := cfg.two_le_period
    omega

/-- **One step.** -/
theorem step_chained {op : Op cfg} (c : Chained cfg seed r) (k : Kicked cfg r.scheduler) (h : r.Allowed cfg op) :
    Chained cfg seed (r.step op) ∧ Kicked cfg (r.step op).scheduler := by
  cases op with
  | noteKick wall =>
    refine ⟨⟨c.consecutive, c.lengths, c.integrates, c.tail, c.stop, c.nonempty⟩, k.full, k.nonempty, k.used, k.older,
      ?_⟩
    intro w hw
    obtain rfl := Option.some.inj hw
    exact ⟨c.kick h, h.2⟩
  | advance raw anchor =>
    have hreg := k.arrive raw anchor
    have hbuild := hreg.build
    obtain ⟨hstart, htail, -, hlast, hlen, -, -⟩ := arrive_frame cfg r.scheduler (raw.map Chunk.rows) anchor
    unfold Run.step Scheduler.advance
    dsimp only
    cases hc : (r.scheduler.arrive cfg (raw.map Chunk.rows) anchor).choose cfg cfg.period with
    | none =>
      rw [buildWindow_of_none hc] at hbuild ⊢
      refine ⟨?_, hbuild⟩
      simp only [Option.isSome_none, Bool.false_eq_true, if_false, Option.toList_none, List.append_nil]
      refine ⟨?_, c.lengths, c.integrates, ?_, ?_, ?_⟩
      · show Consecutive 0 r.windows (r.scheduler.arrive cfg (raw.map Chunk.rows) anchor).windowStart
        rw [hstart]
        exact c.consecutive
      · intro arm
        show (r.scheduler.arrive cfg (raw.map Chunk.rows) anchor).planTail arm = _
        rw [htail]
        exact c.tail arm
      · show (r.scheduler.arrive cfg (raw.map Chunk.rows) anchor).lastWindowStart +
            (r.scheduler.arrive cfg (raw.map Chunk.rows) anchor).lastWindowLength =
          (r.scheduler.arrive cfg (raw.map Chunk.rows) anchor).windowStart
        rw [hlast, hlen, hstart]
        exact c.stop
      · show 0 < (r.scheduler.arrive cfg (raw.map Chunk.rows) anchor).lastWindowLength
        rw [hlen]
        exact c.nonempty
    | some chosen =>
      obtain ⟨w, hw, b⟩ := buildWindow_of_some hreg.full hc
      rw [hw]
      simp only [Option.isSome_some, if_true, Option.toList_some]
      exact ⟨c.append hstart htail b rfl rfl rfl rfl, hbuild.full, hbuild.nonempty, hbuild.used, hbuild.older,
        hbuild.pending⟩

/-! ## Whole runs -/

variable {raw : Chunk cfg}

/-- The plan of the first chunk. -/
def firstPlan (raw : Chunk cfg) (seed : Arm → G) : Plan G where
  kickWall := 0
  horizon := raw.rows.length
  absTargets := fun arm => integrate (seed arm) (raw.rows.map (·.delta arm))
  grips := fun arm => raw.rows.map (·.grip arm)
  anchors := seed

theorem firstPlan_full (raw : Chunk cfg) (seed : Arm → G) : (firstPlan raw seed).Full cfg where
  horizon := raw.length_rows
  targets arm := by simp [firstPlan, raw.length_rows]
  grips arm := by simp [firstPlan, raw.length_rows]

theorem choose_first (raw : Chunk cfg) (seed : Arm → G) (hs : s.plans = [firstPlan raw seed])
    (hstart : s.windowStart = 0) : s.choose cfg (2 * cfg.period) = some (firstPlan raw seed, none) := by
  have hcov : (firstPlan raw seed).covers s.windowStart (2 * cfg.period) = true := by
    have hhorizon := cfg.three_period_le
    rw [Plan.covers_iff, (firstPlan_full raw seed).horizon, hstart]
    exact ⟨le_rfl, by omega⟩
  have hfilter : (s.plans.reverse.filter fun p => p.covers s.windowStart (2 * cfg.period)) = [firstPlan raw seed] := by
    rw [hs]
    simp [hcov]
  unfold Scheduler.choose
  rw [hfilter]
  cases cfg.blendMode <;> rfl

/-- `begin` returns the first window, built from the plan of the first chunk. -/
theorem first_built (cfg : Config G) (raw : Chunk cfg) (seed : Arm → G) :
    ∃ w s', Run.first cfg raw seed = ⟨{ s' with firstWindowBuilt := true, activeKickAt := cfg.period }, [w]⟩ ∧
      Built cfg ((Scheduler.init : Scheduler G).register raw.rows 0 seed) (2 * cfg.period)
        (firstPlan raw seed) none s' w := by
  have hfull : ∀ p ∈ ((Scheduler.init : Scheduler G).register raw.rows 0 seed).plans, p.Full cfg := by
    intro p hp
    obtain rfl := List.mem_singleton.mp hp
    exact firstPlan_full raw seed
  have hchoose := choose_first (s := (Scheduler.init : Scheduler G).register raw.rows 0 seed) raw seed rfl rfl
  obtain ⟨w, hw, b⟩ := buildWindow_of_some hfull hchoose
  refine ⟨w, _, ?_, b⟩
  unfold Run.first Scheduler.begin
  dsimp only
  rw [hw]
  rfl

theorem first_chained (cfg : Config G) (raw : Chunk cfg) (seed : Arm → G) :
    Chained cfg seed (.first cfg raw seed) ∧ Kicked cfg (Run.first cfg raw seed).scheduler := by
  obtain ⟨w, s', heq, b⟩ := first_built cfg raw seed
  have hrows : w.rows.length = 2 * cfg.period := by
    rw [b.rows, length_rowsOf]
  have hstop : s'.windowStart = 2 * cfg.period := b.windowStart.trans (Nat.zero_add _)
  have hplans : s'.plans = [firstPlan raw seed] := b.plans
  rw [heq]
  constructor
  · refine ⟨⟨b.start, by dsimp only; rw [hrows, hstop, Nat.zero_add]; rfl⟩, ⟨0, by simp [hrows]⟩, ?_, ?_, ?_, ?_⟩
    · intro arm
      simp only [List.flatMap_cons, List.flatMap_nil, List.append_nil]
      rw [b.delta_rows arm]
      exact integrate_deltas _ _
    · intro arm
      simp only [List.flatMap_cons, List.flatMap_nil, List.append_nil]
      exact b.planTail arm
    · dsimp only
      rw [b.lastWindowStart, b.lastWindowLength, b.windowStart]
    · have := cfg.two_le_period
      dsimp only
      rw [b.lastWindowLength]
      omega
  · refine ⟨?_, ?_, ?_, ?_, ?_⟩
    · rintro p hp
      obtain rfl := List.mem_singleton.mp (hplans ▸ hp)
      exact firstPlan_full raw seed
    · simp [hplans]
    · rintro p hp
      obtain rfl := List.mem_singleton.mp (hplans ▸ hp)
      exact hstop.ge.trans' (Nat.zero_add _).le
    · dsimp only
      rw [hplans]
      exact List.pairwise_singleton _ _
    · intro wall hwall
      have hnone : s'.pendingKickWall = none := b.pending
      rw [Option.mem_def, hnone] at hwall
      cases hwall

/-- **Whole runs.** -/
theorem run_chained {ops : List (Op cfg)}
    (h : Runs.EveryStep (fun pre op => (Run.after cfg raw seed pre).Allowed cfg op) ops) :
    Chained cfg seed (.after cfg raw seed ops) ∧ Kicked cfg (Run.after cfg raw seed ops).scheduler := by
  refine h.invariant (fun pre => Chained cfg seed (.after cfg raw seed pre) ∧
    Kicked cfg (Run.after cfg raw seed pre).scheduler) (first_chained cfg raw seed) ?_
  rintro pre op ⟨c, k⟩ hop
  have hstep : Run.after cfg raw seed (pre ++ [op]) = (Run.after cfg raw seed pre).step op := by
    simp [Run.after]
  rw [hstep]
  exact step_chained c k hop

/-! ## The runway -/

omit [Group G] in
/-- Without a new chunk the next window is the latest plan's, or there is none. -/
theorem Kicked.choose (k : Kicked cfg s) {front : List (Plan G)} {latest : Plan G}
    (hplans : s.plans = front ++ [latest]) :
    s.choose cfg cfg.period =
      if latest.covers s.windowStart cfg.period then some (latest, none) else none := by
  have hfront : ∀ p ∈ front, p.kickWall ≤ latest.kickWall ∧ p.kickWall + 2 * cfg.period < s.windowStart := by
    have h := k.older
    rw [hplans, List.pairwise_append] at h
    exact fun p hp => h.2.2 p hp latest (by simp)
  have hmem : ∀ p ∈ front, p ∈ s.plans := by
    intro p hp
    rw [hplans]
    simp [hp]
  have hlatest : latest ∈ s.plans := by
    rw [hplans]
    simp
  by_cases hcov : latest.covers s.windowStart cfg.period
  · rw [if_pos hcov]
    have hfilter : (s.plans.reverse.filter fun p => p.covers s.windowStart cfg.period) =
        latest :: (front.reverse.filter fun p => p.covers s.windowStart cfg.period) := by
      rw [hplans, List.reverse_append, List.reverse_singleton, List.singleton_append]
      simp [hcov]
    unfold Scheduler.choose
    rw [hfilter]
    cases cfg.blendMode with
    | none => rfl
    | linear =>
      cases hold : front.reverse.filter fun p => p.covers s.windowStart cfg.period with
      | nil => rfl
      | cons plan rest =>
        have hplan : plan ∈ front := by
          have : plan ∈ front.reverse.filter fun p => p.covers s.windowStart cfg.period := by simp [hold]
          simpa using (List.mem_filter.mp this).1
        have := (hfront plan hplan).2
        dsimp only
        rw [if_neg (by omega)]
  · rw [if_neg hcov]
    rw [choose_eq_none]
    intro p hp
    rw [← Bool.not_eq_true]
    intro hp'
    -- a plan with an earlier kick covers less
    rw [Plan.covers_iff, (k.full latest hlatest).horizon] at hcov
    rw [Plan.covers_iff, (k.full p hp).horizon] at hp'
    have hused := k.used latest hlatest
    rw [hplans, List.mem_append, List.mem_singleton] at hp
    obtain hp | rfl := hp
    · have := (hfront p hp).1
      omega
    · exact hcov hp'

theorem Chained.runway (c : Chained cfg seed r) {latest : Plan G} (hlatest : r.scheduler.plans.getLast? = some latest)
    (length : Option ℕ) :
    r.scheduler.runwaySegment cfg length =
      rowsOf (latest.availableFrom r.scheduler.windowStart (length.getD cfg.period))
        (fun arm => deltas ((r.scheduler.planTail arm).getD (latest.anchors arm))
          (latest.segment arm r.scheduler.windowStart
            (latest.availableFrom r.scheduler.windowStart (length.getD cfg.period))))
        (fun arm => latest.gripSegment arm r.scheduler.windowStart
          (latest.availableFrom r.scheduler.windowStart (length.getD cfg.period))) := by
  have hpos : r.scheduler.lastWindowLength ≠ 0 := c.nonempty.ne'
  simp only [Scheduler.runwaySegment, hlatest, if_neg hpos, c.stop]

omit [Group G] in
theorem Plan.Full.length_available (f : p.Full cfg) (start request : ℕ) :
    (p.segment arm start (p.availableFrom start request)).length = p.availableFrom start request := by
  have ht := f.targets arm
  have hh := f.horizon
  simp only [Plan.segment, List.length_take, List.length_drop, Plan.availableFrom]
  split_ifs <;> omega

/-! ## What holds of every run -/

/-- The windows cover consecutive walls; their rows compose from the seed to their targets; an `advance` that returns
nothing leaves tail, history and window state; and the runway composes from the tail to the latest plan's next targets
and is the next window without a new chunk. -/
theorem windows_telescope (cfg : Config G) (raw : Chunk cfg) (seed : Arm → G) (ops : List (Op cfg))
    (h : Runs.EveryStep (fun pre op => (Run.after cfg raw seed pre).Allowed cfg op) ops) (r : Run G)
    (hr : r = .after cfg raw seed ops) :
    (Consecutive 0 r.windows r.scheduler.windowStart ∧
      ∃ n, r.windows.map (·.rows.length) = 2 * cfg.period :: List.replicate n cfg.period) ∧
    (∀ arm, integrate (seed arm) ((r.windows.flatMap (·.rows)).map (·.delta arm)) =
        r.windows.flatMap (·.targets arm) ∧
      r.scheduler.planTail arm = some (last (seed arm) (r.windows.flatMap (·.targets arm)))) ∧
    (∀ (chunk : Option (Chunk cfg)) anchor s', r.scheduler.advance cfg (chunk.map Chunk.rows) anchor = (s', none) →
      s'.planTail = r.scheduler.planTail ∧ s'.history = r.scheduler.history ∧
      s'.windowStart = r.scheduler.windowStart ∧ s'.lastWindowStart = r.scheduler.lastWindowStart ∧
      s'.lastWindowLength = r.scheduler.lastWindowLength ∧ s'.activeKickAt = r.scheduler.activeKickAt ∧
      s'.firstWindowBuilt = r.scheduler.firstWindowBuilt) ∧
    ∃ latest, r.scheduler.plans.getLast? = some latest ∧
      (∀ length arm, integrate (last (seed arm) (r.windows.flatMap (·.targets arm)))
          ((r.scheduler.runwaySegment cfg length).map (·.delta arm)) =
        latest.segment arm r.scheduler.windowStart
          (latest.availableFrom r.scheduler.windowStart (length.getD cfg.period))) ∧
      ∀ anchor s' w, r.scheduler.advance cfg none anchor = (s', some w) →
        r.scheduler.runwaySegment cfg none = w.rows := by
  subst hr
  obtain ⟨c, k⟩ := run_chained h
  generalize Run.after cfg raw seed ops = r at c k
  refine ⟨⟨c.consecutive, c.lengths⟩, fun arm => ⟨c.integrates arm, c.tail arm⟩, ?_, ?_⟩
  · intro chunk anchor s' hadv
    obtain ⟨hstart, htail, hhist, hlast, hlen, hfirst, hkick⟩ :=
      arrive_frame cfg r.scheduler (chunk.map Chunk.rows) anchor
    unfold Scheduler.advance at hadv
    dsimp only at hadv
    cases hc : (r.scheduler.arrive cfg (chunk.map Chunk.rows) anchor).choose cfg cfg.period with
    | some chosen =>
      obtain ⟨w, hw, -⟩ := buildWindow_of_some (k.arrive chunk anchor).full hc
      rw [hw] at hadv
      cases hadv
    | none =>
      rw [buildWindow_of_none hc] at hadv
      cases hadv
      exact ⟨htail, hhist, hstart, hlast, hlen, hkick, hfirst⟩
  · obtain ⟨front, latest, hplans⟩ := (List.eq_nil_or_concat' r.scheduler.plans).resolve_left k.nonempty
    have hlatest : r.scheduler.plans.getLast? = some latest := by
      rw [hplans]
      simp
    have hfull : latest.Full cfg := k.full latest (by rw [hplans]; simp)
    refine ⟨latest, hlatest, ?_, ?_⟩
    · intro length arm
      rw [c.runway hlatest, map_delta_rowsOf (by rw [length_deltas, hfull.length_available]), c.tail arm]
      exact integrate_deltas _ _
    · intro anchor s' w hadv
      have hchoose := k.choose hplans
      unfold Scheduler.advance at hadv
      dsimp only [Scheduler.arrive] at hadv
      by_cases hcov : latest.covers r.scheduler.windowStart cfg.period
      · rw [if_pos hcov] at hchoose
        obtain ⟨w', hw, b⟩ := buildWindow_of_some k.full hchoose
        rw [hw] at hadv
        obtain rfl : w' = w := Option.some.inj (congrArg Prod.snd hadv)
        -- the latest plan covers the whole period
        have havail : latest.availableFrom r.scheduler.windowStart cfg.period = cfg.period := by
          have hcov' := Plan.covers_iff.mp hcov
          have := cfg.two_le_period
          unfold Plan.availableFrom
          rw [if_neg (by omega)]
          omega
        rw [c.runway hlatest none, b.rows, b.targets, Option.getD_none, havail]
        rfl
      · rw [if_neg hcov] at hchoose
        rw [buildWindow_of_none hchoose] at hadv
        cases hadv

/-! ## A run -/

/-- Poses on a line; a blend switches to the new plan at its last step. -/
def lineConfig : Config (Multiplicative ℤ) where
  period := 2
  horizon := 6
  blendMode := .linear
  interpPose := fun a b w => if w < 1 then a else b
  two_le_period := le_rfl
  three_period_le := le_rfl

def lineChunk (step : ℤ) : Chunk lineConfig := ⟨List.replicate 6 ⟨fun _ => .ofAdd step, fun _ => 0⟩, rfl⟩

/-- The second chunk is kicked at wall `R` and blended into the second window. -/
def lineOps : List (Op lineConfig) := [.noteKick 2, .advance (some (lineChunk 3)) fun _ => 1]

theorem windows_telescope_line :
    (Run.after lineConfig (lineChunk 1) (fun _ => 1) lineOps).scheduler.lastWindowProvenance = .blend ∧
    ∀ arm, integrate 1
        (((Run.after lineConfig (lineChunk 1) (fun _ => 1) lineOps).windows.flatMap (·.rows)).map (·.delta arm)) =
      (Run.after lineConfig (lineChunk 1) (fun _ => 1) lineOps).windows.flatMap (·.targets arm) := by
  refine ⟨by decide +kernel, fun arm => ((windows_telescope lineConfig (lineChunk 1) (fun _ => 1) lineOps ?_ _ rfl
    ).2.1 arm).1⟩
  refine Runs.everyStep_of_take fun i hi x hx => ?_
  have hlt : i < 2 := hi
  obtain rfl | rfl : i = 0 ∨ i = 1 := by omega
  · obtain rfl := Option.some.inj hx
    exact ⟨.inl rfl, by decide +kernel⟩
  · obtain rfl := Option.some.inj hx
    trivial

end PolicyRunner.Ensemble
