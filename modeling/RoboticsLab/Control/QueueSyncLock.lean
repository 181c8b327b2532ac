import RoboticsLab.Control.QueueSync
import RoboticsLab.Lib.Runs

/-!
# What `locked` says about the feedback

`locked` is meant to go false when the RBACK flow stops: it asks for fewer than `stall_cycles`
cycles without a fresh RBACK.  The counter behind that test, `stale_cycles_`, advances in the track
phase only, while the last fill persists through warmup and drain.  A step that enters track on an
old reading therefore reports a lock with the counter at zero (`warmup_exit_locks_on_old_fill`).
It is an `int` that nothing saturates, so after 2^31 steps it is negative and the lock is back
(`lock_after_wrap`).  When every entry into track comes at most `stale_cycles_` steps after a fresh
RBACK, and no step wraps the counter, it bounds the age of the reading from there on:

    EveryStep (LockEntry ∧ StaleFits) ops →
      EveryStep (locked → track ∧ |fill - target| ≤ 1 ∧ Recent) ops   (lockedRecent_of_lockEntry)
-/

namespace RbServo.QueueSync

open Runs

/-! ## Runs -/

inductive QueueSyncOp
  | step (obs : Observation)
  | reset

/-- The controller, and whether each step since the last reset carried a fresh RBACK (newest
first). -/
structure Traced where
  controller : QueueSyncController := {}
  history : List Bool := []

def Traced.step (cfg : QueueSyncConfig) (t : Traced) : QueueSyncOp → Traced
  | .step obs =>
    { controller := (QueueSync.step cfg t.controller obs).1
      history := fresh t.controller obs :: t.history }
  | .reset => { controller := QueueSync.reset t.controller, history := [] }

def tracedAfter (cfg : QueueSyncConfig) (ops : List QueueSyncOp) : Traced :=
  ops.foldl (Traced.step cfg) {}

@[simp] theorem tracedAfter_concat (cfg : QueueSyncConfig) (ops : List QueueSyncOp)
    (op : QueueSyncOp) : tracedAfter cfg (ops ++ [op]) = (tracedAfter cfg ops).step cfg op := by
  simp [tracedAfter]

/-- One of the last `n` steps carried a fresh RBACK. -/
def Recent (n : Int) (history : List Bool) : Prop := true ∈ history.take n.toNat

/-- What a locked decision promises. -/
def LockedRecent (cfg : QueueSyncConfig) (t : Traced) : QueueSyncOp → Prop
  | .step obs => (QueueSync.step cfg t.controller obs).2.locked = true →
      (QueueSync.step cfg t.controller obs).2.phase = .track ∧
      |(QueueSync.step cfg t.controller obs).2.lastFill - cfg.targetFill| ≤ 1 ∧
      Recent cfg.stallCycles (t.step cfg (.step obs)).history
  | .reset => True

/-- The step leaves warmup or drain for track. -/
def entersTrack (cfg : QueueSyncConfig) (s : QueueSyncController) (obs : Observation) : Bool :=
  let fill := (consume s obs).lastFill
  cfg.enable && obs.streaming &&
    ((decide (s.phase = .warmup) && warmupExits cfg fill s.phaseStartNs obs.nowNs &&
        decide (fill ≤ cfg.targetFill + 1)) ||
      (decide (s.phase = .drain) &&
        drainExits cfg (fresh s obs) fill s.phaseStartNs obs.nowNs))

/-- A step that enters track on a known fill near the target, with the counter below
`stall_cycles`, comes at most `stale_cycles_` steps after a fresh RBACK. -/
def LockEntry (cfg : QueueSyncConfig) (t : Traced) : QueueSyncOp → Prop
  | .step obs => entersTrack cfg t.controller obs = true →
      0 ≤ (consume t.controller obs).lastFill →
      |(consume t.controller obs).lastFill - cfg.targetFill| ≤ 1 →
      t.controller.staleCycles < cfg.stallCycles →
      Recent (t.controller.staleCycles + 1) (fresh t.controller obs :: t.history)
  | .reset => True

/-- The step advances `stale_cycles_`. -/
def advancesStale (cfg : QueueSyncConfig) (s : QueueSyncController) (obs : Observation) : Bool :=
  cfg.enable && obs.streaming && decide (s.phase = .track) &&
    !rebased cfg (consume s obs).lastFill && !fresh s obs

/-- A step that advances `stale_cycles_` finds it below the greatest `int`. -/
def StaleFits (cfg : QueueSyncConfig) (t : Traced) : QueueSyncOp → Prop
  | .step obs => advancesStale cfg t.controller obs = true → t.controller.staleCycles < 2 ^ 31 - 1
  | .reset => True

/-! ## Recent steps -/

theorem Recent.mono {m n : Int} {history : List Bool} (h : Recent m history) (hmn : m ≤ n) :
    Recent n history :=
  (List.take_prefix_take_left (show m.toNat ≤ n.toNat by omega)).subset h

theorem recent_cons_true {n : Int} (hn : 0 < n) (history : List Bool) : Recent n (true :: history) := by
  obtain ⟨k, hk⟩ : ∃ k, n.toNat = k + 1 := ⟨n.toNat - 1, by omega⟩
  unfold Recent
  rw [hk, List.take_succ_cons]
  exact List.mem_cons_self

theorem recent_cons_false {n : Int} (hn : 0 ≤ n) (history : List Bool) :
    Recent (n + 1) (false :: history) ↔ Recent n history := by
  have hk : (n + 1).toNat = n.toNat + 1 := by omega
  unfold Recent
  rw [hk, List.take_succ_cons, List.mem_cons]
  simp

/-! ## The invariant -/

/-- In track, on a fill near the target, the counter bounds the age of the reading. -/
structure LockInv (cfg : QueueSyncConfig) (c : PhaseCore) (history : List Bool) : Prop where
  nonneg : 0 ≤ c.staleCycles
  recent : c.phase = .track → 0 ≤ c.lastFill → |c.lastFill - cfg.targetFill| ≤ 1 →
    c.staleCycles < cfg.stallCycles → Recent (c.staleCycles + 1) history

/-- The invariant away from track is about the counter only. -/
theorem lockInv_of_not_track {cfg : QueueSyncConfig} {c : PhaseCore} {history : List Bool}
    (h0 : 0 ≤ c.staleCycles) (hp : c.phase ≠ .track) : LockInv cfg c history :=
  ⟨h0, fun h => absurd h hp⟩

theorem consume_keeps (c : PhaseCore) (obs : Observation) :
    (c.consume obs).phase = c.phase ∧ (c.consume obs).phaseStartNs = c.phaseStartNs ∧
      (c.consume obs).staleCycles = c.staleCycles ∧
      (c.fresh obs = false → (c.consume obs).lastFill = c.lastFill) := by
  unfold PhaseCore.consume
  split
  · next h =>
    refine ⟨rfl, rfl, rfl, ?_⟩
    intro hno
    rw [h] at hno
    cases hno
  · exact ⟨rfl, rfl, rfl, fun _ => rfl⟩

/-- A step that stays in track keeps the counter above the age. -/
theorem LockInv.track {cfg : QueueSyncConfig} {c : PhaseCore} {history : List Bool}
    (h : LockInv cfg c history) (obs : Observation) (hp : c.phase = .track)
    (hfits : c.fresh obs = false → c.staleCycles < 2 ^ 31 - 1) :
    LockInv cfg { c.consume obs with
      staleCycles := if c.fresh obs then 0 else nextStale (c.consume obs).staleCycles }
      (c.fresh obs :: history) := by
  obtain ⟨hphase, -, hstale, hfill⟩ := consume_keeps c obs
  have h0 := h.nonneg
  cases hf : c.fresh obs with
  | true =>
    refine ⟨by simp, fun _ _ _ _ => ?_⟩
    exact recent_cons_true (by simp) history
  | false =>
    simp only [Bool.false_eq_true, if_false, hstale, nextStale_of_lt h0 (hfits hf)]
    refine ⟨show 0 ≤ c.staleCycles + 1 by omega, fun _ hknown hband hstall => ?_⟩
    rw [hfill hf] at hknown hband
    have hstall' : c.staleCycles + 1 < cfg.stallCycles := hstall
    have hold := h.recent hp hknown hband (by omega)
    exact (recent_cons_false (show 0 ≤ c.staleCycles + 1 by omega) history).mpr hold

/-- **One step** keeps the invariant, when an entry into track is recent and the counter fits. -/
theorem LockInv.step {cfg : QueueSyncConfig} {t : Traced} (h : LockInv cfg t.controller.core t.history)
    (obs : Observation) (hentry : LockEntry cfg t (.step obs)) (hfits : StaleFits cfg t (.step obs)) :
    LockInv cfg (t.controller.core.step cfg obs) (fresh t.controller obs :: t.history) := by
  obtain ⟨hphase, hstart, hstale, -⟩ := consume_keeps t.controller.core obs
  have h0 : 0 ≤ (t.controller.core.consume obs).staleCycles := by rw [hstale]; exact h.nonneg
  have hfill : (consume t.controller obs).lastFill = (t.controller.core.consume obs).lastFill :=
    congrArg PhaseCore.lastFill (consume_core t.controller obs)
  unfold PhaseCore.step
  split
  · -- no stream: back to idle
    unfold PhaseCore.silence
    split
    · next hidle => exact lockInv_of_not_track h0 (by rw [hidle]; decide)
    · exact lockInv_of_not_track (le_refl 0) (by intro h; cases h)
  · next hon =>
    simp only [Bool.or_eq_true, Bool.not_eq_true', not_or, Bool.not_eq_false] at hon
    unfold PhaseCore.run
    cases hp : t.controller.phase with
    | idle =>
      have hc : (t.controller.core.consume obs).phase = .idle := hphase.trans hp
      rw [hc]
      exact lockInv_of_not_track h0 (by simp)
    | warmup =>
      have hc : (t.controller.core.consume obs).phase = .warmup := hphase.trans hp
      rw [hc]
      dsimp only
      split
      · next hexit =>
        split
        · exact lockInv_of_not_track h0 (by simp)
        · next hlow =>
          refine ⟨h0, fun _ hknown hband hstall => ?_⟩
          dsimp only at hknown hband hstall ⊢
          rw [hstale] at hstall ⊢
          refine hentry ?_ (by rw [hfill]; exact hknown) (by rw [hfill]; exact hband) hstall
          rw [hstart] at hexit
          simp only [entersTrack, hon.1, hon.2, hp, hfill, decide_true, Bool.true_and,
            Bool.or_eq_true, Bool.and_eq_true, decide_eq_true_eq]
          exact Or.inl ⟨hexit, not_lt.mp hlow⟩
      · exact lockInv_of_not_track h0 (by rw [hc]; decide)
    | drain =>
      have hc : (t.controller.core.consume obs).phase = .drain := hphase.trans hp
      rw [hc]
      dsimp only
      split
      · next hexit =>
        refine ⟨h0, fun _ hknown hband hstall => ?_⟩
        dsimp only at hknown hband hstall ⊢
        rw [hstale] at hstall ⊢
        refine hentry ?_ (by rw [hfill]; exact hknown) (by rw [hfill]; exact hband) hstall
        rw [hstart] at hexit
        have hexit' : drainExits cfg (fresh t.controller obs)
            (t.controller.core.consume obs).lastFill t.controller.phaseStartNs obs.nowNs = true := hexit
        simp [entersTrack, hon.1, hon.2, hp, hfill, hexit']
      · exact lockInv_of_not_track h0 (by rw [hc]; decide)
    | track =>
      have hc : (t.controller.core.consume obs).phase = .track := hphase.trans hp
      rw [hc]
      dsimp only
      split
      · exact lockInv_of_not_track h0 (by simp)
      · next hlow =>
        have htrack := h.track obs hp fun hstill => hfits (by
          have hstill' : fresh t.controller obs = false := hstill
          simp [advancesStale, hon.1, hon.2, hp, hfill, hlow, hstill'])
        simp only [hc] at htrack
        exact htrack

theorem lockInv_tracedAfter (cfg : QueueSyncConfig) (ops : List QueueSyncOp)
    (hsafe : EveryStep (fun pre op => LockEntry cfg (tracedAfter cfg pre) op ∧
      StaleFits cfg (tracedAfter cfg pre) op) ops) :
    LockInv cfg (tracedAfter cfg ops).controller.core (tracedAfter cfg ops).history := by
  refine hsafe.invariant (fun pre => LockInv cfg (tracedAfter cfg pre).controller.core
    (tracedAfter cfg pre).history) ?_ ?_
  · exact lockInv_of_not_track (le_refl 0) (by intro h; cases h)
  · intro pre op hinv hstep
    rw [tracedAfter_concat]
    cases op with
    | step obs =>
      show LockInv cfg (QueueSync.step cfg (tracedAfter cfg pre).controller obs).1.core _
      rw [(step_core cfg _ obs).1]
      exact hinv.step obs hstep.1 hstep.2
    | reset => exact lockInv_of_not_track (le_refl 0) (by intro h; cases h)

/-- **Whole runs.**  When every entry into track is recent and the counter fits, a locked decision is
backed by a fresh RBACK in one of the last `stall_cycles` steps. -/
theorem lockedRecent_of_lockEntry (cfg : QueueSyncConfig) (ops : List QueueSyncOp)
    (hsafe : EveryStep (fun pre op => LockEntry cfg (tracedAfter cfg pre) op ∧
      StaleFits cfg (tracedAfter cfg pre) op) ops) :
    EveryStep (fun pre op => LockedRecent cfg (tracedAfter cfg pre) op) ops := by
  intro pre op post hops
  cases op with
  | reset => trivial
  | step obs =>
    intro hlocked
    have hpre := lockInv_tracedAfter cfg pre (hsafe.of_append hops)
    have hstep := hsafe pre (.step obs) post hops
    have hinv := hpre.step obs hstep.1 hstep.2
    obtain ⟨-, hphase, hfill, hlock⟩ := step_core cfg (tracedAfter cfg pre).controller obs
    rw [hlock] at hlocked
    simp only [PhaseCore.locked, Bool.and_eq_true, decide_eq_true_eq] at hlocked
    obtain ⟨⟨⟨htrack, hknown⟩, hstale⟩, hnear⟩ := hlocked
    have hband : |((tracedAfter cfg pre).controller.core.step cfg obs).lastFill - cfg.targetFill| ≤ 1 := by
      rw [abs_le]
      omega
    refine ⟨hphase.trans htrack, by rw [hfill]; exact hband, ?_⟩
    exact (hinv.recent htrack hknown hband hstale).mono (by omega)

/-- The condition on entries is exact: from a state that entered track on an older reading, steps
without a fresh RBACK end in a locked decision with no fresh RBACK among the last `stall_cycles`
steps. -/
theorem lock_outlives_feedback (cfg : QueueSyncConfig) (c : PhaseCore) (history : List Bool)
    (hp : c.phase = .track) (hknown : 0 ≤ c.lastFill) (hband : |c.lastFill - cfg.targetFill| ≤ 1)
    (h0 : 0 ≤ c.staleCycles) (hstale : c.staleCycles < cfg.stallCycles) (hint : cfg.stallCycles < 2 ^ 31)
    (hkeep : rebased cfg c.lastFill = false) (henable : cfg.enable = true)
    (hold : ¬ Recent (c.staleCycles + 1) history) (obs : Observation)
    (hstream : obs.streaming = true) (hno : obs.fillValid = false) :
    ∃ n : Nat, ((fun c => c.step cfg obs)^[n] c).locked cfg = true ∧
      ¬ Recent cfg.stallCycles (List.replicate n false ++ history) := by
  have hrun : ∀ n : Nat, c.staleCycles + n < 2 ^ 31 → (fun c => PhaseCore.step cfg c obs)^[n] c =
      { c with staleCycles := c.staleCycles + n } := by
    intro n hn
    induction n with
    | zero => simp
    | succ n ih =>
      rw [Function.iterate_succ_apply', ih (by omega)]
      simp only [PhaseCore.step, PhaseCore.consume, PhaseCore.fresh, PhaseCore.run, henable, hstream,
        hno, hp, hkeep, Bool.not_true, Bool.or_self, Bool.false_and, Bool.false_eq_true, if_false]
      rw [nextStale_of_lt (by omega) (by omega)]
      push_cast
      rw [add_assoc]
  have hhistory : ∀ n : Nat, ¬ Recent (c.staleCycles + 1 + n) (List.replicate n false ++ history) := by
    intro n
    induction n with
    | zero => simpa using hold
    | succ n ih =>
      rw [List.replicate_succ, List.cons_append]
      push_cast
      rw [← add_assoc, recent_cons_false (by omega)]
      exact ih
  refine ⟨(cfg.stallCycles - 1 - c.staleCycles).toNat, ?_, ?_⟩
  · rw [hrun _ (by omega)]
    rw [abs_le] at hband
    simp only [PhaseCore.locked, hp, Bool.and_eq_true, decide_eq_true_eq, true_and]
    refine ⟨⟨hknown, ?_⟩, ?_⟩
    · omega
    · omega
  · have hend := hhistory (cfg.stallCycles - 1 - c.staleCycles).toNat
    have hsum : c.staleCycles + 1 + ((cfg.stallCycles - 1 - c.staleCycles).toNat : Int) =
        cfg.stallCycles := by omega
    rwa [hsum] at hend

/-- So is the condition on the counter: a step that wraps it is locked, whatever the age. -/
theorem lock_after_wrap (cfg : QueueSyncConfig) (c : PhaseCore) (hp : c.phase = .track)
    (hknown : 0 ≤ c.lastFill) (hband : |c.lastFill - cfg.targetFill| ≤ 1)
    (hfull : c.staleCycles = 2 ^ 31 - 1) (hstall : 1 ≤ cfg.stallCycles)
    (hkeep : rebased cfg c.lastFill = false) (henable : cfg.enable = true) (obs : Observation)
    (hstream : obs.streaming = true) (hno : obs.fillValid = false) :
    (c.step cfg obs).locked cfg = true := by
  have hwrap : nextStale c.staleCycles = -2 ^ 31 := by
    rw [hfull]
    decide
  rw [abs_le] at hband
  simp only [PhaseCore.step, PhaseCore.consume, PhaseCore.fresh, PhaseCore.run, henable, hstream, hno, hp,
    hkeep, hwrap, Bool.not_true, Bool.or_self, Bool.false_and, Bool.false_eq_true, if_false,
    PhaseCore.locked, Bool.and_eq_true, decide_eq_true_eq, true_and]
  refine ⟨⟨hknown, ?_⟩, ?_⟩
  · omega
  · omega

/-! ## The gap -/

def streamingConfig : QueueSyncConfig := { enable := true }

/-- A streaming step whose last parsed RBACK is number `rback`, with fill 5. -/
def fillFive (rback nowNs : Nat) : QueueSyncOp :=
  .step { streaming := true, fillValid := true, fill := 5, rbackSequence := rback, nowNs := nowNs }

/-- One RBACK in warmup, then nothing: after 25 further steps the warmup timeout enters track. -/
def frozenWarmup : List QueueSyncOp :=
  [fillFive 1 1, fillFive 2 2] ++ List.replicate 25 (fillFive 2 3)

def QueueSyncOp.nowNs : QueueSyncOp → Option Nat
  | .step obs => some obs.nowNs
  | .reset => none

/-- The step that leaves warmup locks on a reading older than `stall_cycles` steps. -/
theorem warmup_exit_locks_on_old_fill :
    ¬ ∀ (cfg : QueueSyncConfig) (ops : List QueueSyncOp), 1 ≤ cfg.stallCycles →
      (ops.filterMap QueueSyncOp.nowNs).Pairwise (· ≤ ·) →
      EveryStep (fun pre op => LockedRecent cfg (tracedAfter cfg pre) op) ops := by
  intro h
  have hrun := h streamingConfig (frozenWarmup ++ [fillFive 2 2000000000]) (by decide)
    (by decide +kernel) frozenWarmup (fillFive 2 2000000000) [] rfl
  have hlocked : (QueueSync.step streamingConfig (tracedAfter streamingConfig frozenWarmup).controller
      { streaming := true, fillValid := true, fill := 5, rbackSequence := 2,
        nowNs := 2000000000 }).2.locked = true := by decide +kernel
  have hold : ¬ true ∈ ((tracedAfter streamingConfig frozenWarmup).step streamingConfig
      (fillFive 2 2000000000)).history.take 25 := by decide +kernel
  exact hold (hrun hlocked).2.2

/-- Entering track on a fresh RBACK: the run is locked and within the condition. -/
theorem lockedRecent_of_lockEntry_sample :
    ((tracedAfter streamingConfig [fillFive 1 1, fillFive 2 2000000000]).controller.counters.locked
      = true) ∧
    LockedRecent streamingConfig (tracedAfter streamingConfig [fillFive 1 1])
      (fillFive 2 2000000000) := by
  refine ⟨by decide +kernel, ?_⟩
  refine lockedRecent_of_lockEntry streamingConfig [fillFive 1 1, fillFive 2 2000000000] ?_
    [fillFive 1 1] (fillFive 2 2000000000) [] rfl
  have hall : EveryStep (fun pre op => LockEntry streamingConfig (tracedAfter streamingConfig pre) op ∧
      StaleFits streamingConfig (tracedAfter streamingConfig pre) op)
      ([fillFive 1 1] ++ [fillFive 2 2000000000]) := by
    rw [everyStep_append, everyStep_singleton, everyStep_singleton]
    refine ⟨⟨fun henter => ?_, fun hadvance => ?_⟩, fun _ _ _ _ => ?_, fun hadvance => ?_⟩
    · exact absurd henter (by decide +kernel)
    · exact absurd hadvance (by decide +kernel)
    · show true ∈ _
      decide +kernel
    · exact absurd hadvance (by decide +kernel)
  exact hall

end RbServo.QueueSync
