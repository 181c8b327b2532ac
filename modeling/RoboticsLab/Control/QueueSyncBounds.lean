import RoboticsLab.Control.QueueSyncLock
import Mathlib.Data.Fin.VecNotation
import Mathlib.Data.Fintype.Basic
import Mathlib.Tactic.FinCases

/-!
# Bounded actuation of the send-cadence law

What one `step` may ask of the send period, by the phase it is taken in:

    silent, disabled, idle, warmup    trim = 0
    drain, and track → drain          drain_adj_us ≤ trim ≤ drain_max_us
    track, fill ≤ protect_fill        trim = protect_adj_us
    track otherwise                   |trim| ≤ adj_clamp_us

The integral stays inside its clamp, through resets and stream gaps too; the event counters never
go back; and while the stream runs the phase moves along `phaseMoves` only:

    integral_clamp_us, adj_clamp_us ≥ 0 → drain_adj_us ≤ drain_max_us →
      EveryStep (Actuated cfg ∘ state) ops                                   (actuated_runs)

A warmup step that finds a developed backlog enters drain with the trim of warmup, which is zero
(`warmup_enters_drain_untrimmed`).
-/

namespace RbServo.QueueSync

open Clamp Runs

/-! ## Statement -/

/-- The seven event counters of a decision. -/
def QueueSyncDecision.events (d : QueueSyncDecision) : Fin 7 → Nat :=
  ![d.underrunEvents, d.warnEvents, d.dipEvents, d.stallEvents, d.highwaterEvents, d.redrainEvents,
    d.noConsumptionEvents]

/-- Where the phase may be after a streaming step. -/
def phaseMoves : Phase → List Phase
  | .idle => [.warmup]
  | .warmup => [.warmup, .drain, .track]
  | .drain => [.drain, .track]
  | .track => [.track, .drain]

/-- What the law relies on in its configuration. -/
structure QueueSyncConfig.Bounded (cfg : QueueSyncConfig) : Prop where
  integral : 0 ≤ cfg.integralClampUs
  adj : 0 ≤ cfg.adjClampUs
  drain : cfg.drainAdjUs ≤ cfg.drainMaxUs

/-- The law runs: it is enabled and the stream is up. -/
def running (cfg : QueueSyncConfig) (obs : Observation) : Bool := cfg.enable && obs.streaming

/-- The decision reports a known fill at or below `protect_fill`. -/
def lowFill (cfg : QueueSyncConfig) (d : QueueSyncDecision) : Bool :=
  d.fillValid && decide (d.lastFill ≤ cfg.protectFill)

/-- One step of the law from `s`, which ended in `s'` with the decision `d`.  `entered` says which
steps into drain are counted as steps of drain. -/
structure ActuatedStep (cfg : QueueSyncConfig) (entered : Phase → Prop) (s : QueueSyncController)
    (obs : Observation) (s' : QueueSyncController) (d : QueueSyncDecision) : Prop where
  integral : |s'.integralUs| ≤ cfg.integralClampUs
  reported : d.integralUs = s'.integralUs ∧ d.phase = s'.phase ∧ d.events = s'.counters.events
  silent : running cfg obs = false → d.periodTrimUs = 0 ∧ s'.phase = .idle
  warmup : s.phase = .idle ∨ s.phase = .warmup → d.periodTrimUs = 0
  drain : running cfg obs = true → s.phase = .drain ∨ (entered s.phase ∧ s'.phase = .drain) →
    cfg.drainAdjUs ≤ d.periodTrimUs ∧ d.periodTrimUs ≤ cfg.drainMaxUs
  protect : running cfg obs = true → s.phase = .track → s'.phase ≠ .drain → lowFill cfg d = true →
    d.periodTrimUs = cfg.protectAdjUs
  track : running cfg obs = true → s.phase = .track → s'.phase ≠ .drain → lowFill cfg d = false →
    |d.periodTrimUs| ≤ cfg.adjClampUs
  events : s.counters.events ≤ s'.counters.events
  moves : running cfg obs = true → s'.phase ∈ phaseMoves s.phase

/-- One call of a run: a reset drops the phase and keeps the integral and the counters. -/
def Actuated (cfg : QueueSyncConfig) (entered : Phase → Prop) (s : QueueSyncController) :
    QueueSyncOp → Prop
  | .step obs => ActuatedStep cfg entered s obs (step cfg s obs).1 (step cfg s obs).2
  | .reset => |(reset s).integralUs| ≤ cfg.integralClampUs ∧
      (reset s).counters.events = s.counters.events ∧ (reset s).phase = .idle

/-! ## Steps that only count -/

/-- From `p` to `q` the integral is kept and no counter goes back. -/
def Counted (p q : QueueSyncController × QueueSyncDecision) : Prop :=
  q.1.integralUs = p.1.integralUs ∧ p.2.events ≤ q.2.events

theorem Counted.trans {p q r : QueueSyncController × QueueSyncDecision} (h : Counted p q)
    (h' : Counted q r) : Counted p r :=
  ⟨h'.1.trans h.1, h.2.trans h'.2⟩

theorem watchConsumption_counted (cfg : QueueSyncConfig) (obs : Observation) (s : QueueSyncController)
    (out : QueueSyncDecision) : Counted (s, out) (watchConsumption cfg obs s out) := by
  unfold watchConsumption
  dsimp only
  split_ifs
  · exact ⟨rfl, le_rfl⟩
  · exact ⟨rfl, le_rfl⟩
  · refine ⟨rfl, fun i => ?_⟩
    fin_cases i <;> simp [QueueSyncDecision.events]
  · exact ⟨rfl, le_rfl⟩
  · exact ⟨rfl, le_rfl⟩

theorem watchHighwater_counted (cfg : QueueSyncConfig) (s : QueueSyncController)
    (out : QueueSyncDecision) : Counted (s, out) (watchHighwater cfg s out) := by
  unfold watchHighwater
  split_ifs
  · exact ⟨rfl, le_rfl⟩
  · refine ⟨rfl, fun i => ?_⟩
    fin_cases i <;> simp [QueueSyncDecision.events]
  · exact ⟨rfl, le_rfl⟩
  · exact ⟨rfl, le_rfl⟩

theorem trackDip_counted (cfg : QueueSyncConfig) (obs : Observation) (s : QueueSyncController)
    (out : QueueSyncDecision) : Counted (s, out) (trackDip cfg obs s out) := by
  unfold trackDip
  by_cases hband : s.lastFill ≤ cfg.warnFill
  · rw [if_pos hband]
    refine ⟨rfl, ?_⟩
    dsimp only
    by_cases hactive : s.warnActive = true
    · rw [if_pos hactive]
    · rw [if_neg hactive]
      intro i
      fin_cases i <;> simp [QueueSyncDecision.events]
  · rw [if_neg hband]
    exact ⟨rfl, le_rfl⟩

theorem trackUnderrun_counted (cfg : QueueSyncConfig) (s : QueueSyncController)
    (out : QueueSyncDecision) : Counted (s, out) (trackUnderrun cfg s out) := by
  unfold trackUnderrun
  split_ifs
  · refine ⟨rfl, fun i => ?_⟩
    fin_cases i <;> simp [QueueSyncDecision.events]
  · exact ⟨rfl, le_rfl⟩
  · exact ⟨rfl, le_rfl⟩

theorem trackRecover_counted (cfg : QueueSyncConfig) (obs : Observation) (s : QueueSyncController)
    (out : QueueSyncDecision) : Counted (s, out) (trackRecover cfg obs s out) := by
  unfold trackRecover
  dsimp only
  split_ifs
  · refine ⟨rfl, fun i => ?_⟩
    fin_cases i <;> simp [QueueSyncDecision.events]
  · exact ⟨rfl, le_rfl⟩
  · exact ⟨rfl, le_rfl⟩

theorem trackBand_counted (cfg : QueueSyncConfig) (obs : Observation) (isFresh : Bool)
    (s : QueueSyncController) (out : QueueSyncDecision) :
    Counted (s, out) (trackBand cfg obs isFresh s out) := by
  unfold trackBand
  split_ifs
  · have htrace : Counted (s, out) ({ s with fillTrace := pushTrace s.fillTrace s.lastFill }, out) :=
      ⟨rfl, le_rfl⟩
    exact ((htrace.trans (trackDip_counted cfg obs _ _)).trans (trackUnderrun_counted cfg _ _)).trans
      (trackRecover_counted cfg obs _ _)
  · exact ⟨rfl, le_rfl⟩

/-- The stall report of a track step, for any test of the staleness counter. -/
theorem stall_events (out : QueueSyncDecision) (stalled : Prop) [Decidable stalled] :
    out.events ≤ (if stalled then { out with stallEvents := out.stallEvents + 1 } else out).events := by
  by_cases h : stalled
  · rw [if_pos h]
    intro i
    fin_cases i <;> simp [QueueSyncDecision.events]
  · rw [if_neg h]

/-! ## The law of each phase -/

section
variable {cfg : QueueSyncConfig} (hcfg : cfg.Bounded)
include hcfg

theorem trackLaw_bounds (isFresh : Bool) (s : QueueSyncController) :
    |(trackLaw cfg isFresh s).1.integralUs| ≤ cfg.integralClampUs ∧
      ((0 ≤ s.lastFill ∧ s.lastFill ≤ cfg.protectFill) →
        (trackLaw cfg isFresh s).2 = cfg.protectAdjUs) ∧
      (¬ (0 ≤ s.lastFill ∧ s.lastFill ≤ cfg.protectFill) →
        |(trackLaw cfg isFresh s).2| ≤ cfg.adjClampUs) := by
  unfold trackLaw
  dsimp only
  refine ⟨abs_clamp_le hcfg.integral, fun hlow => ?_, fun hhigh => ?_⟩
  · simp [hlow]
  · rw [if_neg (by simpa using hhigh)]
    exact abs_clamp_le hcfg.adj

theorem drainTrim_bounds (s : QueueSyncController) :
    cfg.drainAdjUs ≤ drainTrim cfg s ∧ drainTrim cfg s ≤ cfg.drainMaxUs :=
  ⟨le_clamp hcfg.drain, clamp_le hcfg.drain⟩

/-- What a track step that does not rebase the queue does. -/
theorem stepTrack_bounds (obs : Observation) (isFresh : Bool) (s : QueueSyncController)
    (out : QueueSyncDecision) (hkeep : rebased cfg s.lastFill = false) :
    |(stepTrack cfg obs isFresh s out).1.integralUs| ≤ cfg.integralClampUs ∧
      out.events ≤ (stepTrack cfg obs isFresh s out).2.1.events ∧
      ((0 ≤ s.lastFill ∧ s.lastFill ≤ cfg.protectFill) →
        (stepTrack cfg obs isFresh s out).2.2 = cfg.protectAdjUs) ∧
      (¬ (0 ≤ s.lastFill ∧ s.lastFill ≤ cfg.protectFill) →
        |(stepTrack cfg obs isFresh s out).2.2| ≤ cfg.adjClampUs) := by
  have hband := (trackBand_counted cfg obs isFresh s out).2
  have hfill : (trackBand cfg obs isFresh s out).1.lastFill = s.lastFill :=
    congrArg PhaseCore.lastFill (trackBand_core cfg obs isFresh s out)
  have hlaw := trackLaw_bounds hcfg isFresh
    { (trackBand cfg obs isFresh s out).1 with
      staleCycles := if isFresh then 0 else nextStale (trackBand cfg obs isFresh s out).1.staleCycles }
  rw [← hfill]
  unfold stepTrack
  rw [if_neg (by rw [hkeep]; decide)]
  dsimp only at hlaw ⊢
  exact ⟨hlaw.1, hband.trans (stall_events _ _), hlaw.2⟩

end

/-! ## One step -/

/-- The state and the decision after both watches. -/
def watched (cfg : QueueSyncConfig) (obs : Observation) (s : QueueSyncController) :
    QueueSyncController × QueueSyncDecision :=
  let w := watchConsumption cfg obs s { s.counters with periodTrimUs := 0 }
  watchHighwater cfg w.1 w.2

theorem watched_core (cfg : QueueSyncConfig) (obs : Observation) (s : QueueSyncController) :
    (watched cfg obs s).1.core = s.core := by
  unfold watched
  dsimp only
  rw [watchHighwater_core, watchConsumption_core]

theorem watched_counted (cfg : QueueSyncConfig) (obs : Observation) (s : QueueSyncController) :
    Counted (s, s.counters) (watched cfg obs s) := by
  have hzero : Counted (s, s.counters) (s, { s.counters with periodTrimUs := 0 }) := ⟨rfl, le_rfl⟩
  exact (hzero.trans (watchConsumption_counted cfg obs _ _)).trans (watchHighwater_counted cfg _ _)

theorem consume_counted (s : QueueSyncController) (obs : Observation) :
    (consume s obs).integralUs = s.integralUs ∧ (consume s obs).counters = s.counters := by
  unfold consume
  split <;> exact ⟨rfl, rfl⟩

/-- The watches leave the phase machine as the consumed RBACK made it. -/
theorem step_running (cfg : QueueSyncConfig) (s : QueueSyncController) (obs : Observation)
    (hon : running cfg obs = true) :
    ∃ s₁ out, s₁.core = s.core.consume obs ∧ s₁.integralUs = s.integralUs ∧
      s.counters.events ≤ out.events ∧
      step cfg s obs = publish cfg (stepPhase cfg obs (fresh s obs) s₁ out).1
        (stepPhase cfg obs (fresh s obs) s₁ out).2.1 (stepPhase cfg obs (fresh s obs) s₁ out).2.2 := by
  obtain ⟨hi, hcounters⟩ := consume_counted s obs
  have hwatch := watched_counted cfg obs (consume s obs)
  refine ⟨(watched cfg obs (consume s obs)).1, (watched cfg obs (consume s obs)).2, ?_, ?_, ?_, ?_⟩
  · rw [watched_core, consume_core]
  · exact hwatch.1.trans hi
  · rw [← hcounters]
    exact hwatch.2
  · have hoff : (!cfg.enable || !obs.streaming) = false := by
      simpa [running] using hon
    unfold step
    simp only [hoff, Bool.false_eq_true, if_false]
    rfl

theorem step_silent (cfg : QueueSyncConfig) (s : QueueSyncController) (obs : Observation)
    (hoff : running cfg obs = false) : step cfg s obs = stepSilent (consume s obs) := by
  have hsilent : (!cfg.enable || !obs.streaming) = true := by
    rw [← Bool.not_and]
    exact congrArg not hoff
  unfold step
  simp only [hsilent, if_true]

/-- The phase machine moves along `phaseMoves`. -/
theorem run_moves (cfg : QueueSyncConfig) (obs : Observation) (isFresh : Bool) (c : PhaseCore) :
    (c.run cfg obs isFresh).phase ∈ phaseMoves c.phase := by
  unfold PhaseCore.run
  cases hp : c.phase with
  | idle => simp [phaseMoves]
  | warmup =>
    dsimp only
    split
    · dsimp only
      split <;> simp [phaseMoves]
    · simp [hp, phaseMoves]
  | drain =>
    dsimp only
    split
    · simp [phaseMoves]
    · simp [hp, phaseMoves]
  | track =>
    dsimp only
    split
    · simp [phaseMoves]
    · simp [phaseMoves]

/-- **A silent step** asks for nothing and returns to idle. -/
theorem actuated_silent {cfg : QueueSyncConfig} {s : QueueSyncController} {obs : Observation}
    (hint : |s.integralUs| ≤ cfg.integralClampUs) (hoff : running cfg obs = false) :
    ActuatedStep cfg (· = .track) s obs (step cfg s obs).1 (step cfg s obs).2 := by
  have hconsume := consume_counted s obs
  have hkept : (stepSilent (consume s obs)).1.integralUs = s.integralUs ∧
      (stepSilent (consume s obs)).1.counters.events = s.counters.events ∧
      (stepSilent (consume s obs)).1.phase = .idle := by
    rw [← hconsume.1, ← hconsume.2]
    unfold stepSilent
    dsimp only
    split
    · next hidle => exact ⟨rfl, rfl, hidle⟩
    · exact ⟨rfl, rfl, rfl⟩
  have hno : ∀ {p : Prop}, running cfg obs = true → p := fun h => by rw [hoff] at h; cases h
  rw [step_silent cfg s obs hoff]
  exact {
    integral := by rw [hkept.1]; exact hint
    reported := ⟨rfl, hkept.2.2.symm, rfl⟩
    silent := fun _ => ⟨rfl, hkept.2.2⟩
    warmup := fun _ => rfl
    drain := fun h => hno h
    protect := fun h => hno h
    track := fun h => hno h
    events := le_of_eq hkept.2.1.symm
    moves := fun h => hno h }

theorem lowFill_publish (cfg : QueueSyncConfig) (s : QueueSyncController) (out : QueueSyncDecision)
    (trim : ℚ) : lowFill cfg (publish cfg s out trim).2 = true ↔
      0 ≤ s.lastFill ∧ s.lastFill ≤ cfg.protectFill := by
  show (decide (0 ≤ s.lastFill) && decide (s.lastFill ≤ cfg.protectFill)) = true ↔ _
  simp

/-- What `publish` makes of the law's state, decision and trim. -/
theorem actuated_publish {cfg : QueueSyncConfig} {s s' : QueueSyncController} {obs : Observation}
    {out : QueueSyncDecision} {trim : ℚ} (hon : running cfg obs = true)
    (hint : |s'.integralUs| ≤ cfg.integralClampUs) (hevents : s.counters.events ≤ out.events)
    (hmoves : s'.phase ∈ phaseMoves s.phase)
    (hzero : s.phase = .idle ∨ s.phase = .warmup → trim = 0)
    (hdrain : s.phase = .drain ∨ (s.phase = .track ∧ s'.phase = .drain) →
      cfg.drainAdjUs ≤ trim ∧ trim ≤ cfg.drainMaxUs)
    (htrack : s.phase = .track → s'.phase ≠ .drain →
      ((0 ≤ s'.lastFill ∧ s'.lastFill ≤ cfg.protectFill) → trim = cfg.protectAdjUs) ∧
      (¬ (0 ≤ s'.lastFill ∧ s'.lastFill ≤ cfg.protectFill) → |trim| ≤ cfg.adjClampUs)) :
    ActuatedStep cfg (· = .track) s obs (publish cfg s' out trim).1 (publish cfg s' out trim).2 where
  integral := hint
  reported := ⟨rfl, rfl, rfl⟩
  silent h := by rw [hon] at h; cases h
  warmup := hzero
  drain _ := hdrain
  protect _ hp hstay hlow := (htrack hp hstay).1 ((lowFill_publish cfg s' out trim).mp hlow)
  track _ hp hstay hhigh := (htrack hp hstay).2 fun hlow => by
    rw [(lowFill_publish cfg s' out trim).mpr hlow] at hhigh
    cases hhigh
  events := hevents
  moves _ := hmoves

theorem stepWarmup_kept (cfg : QueueSyncConfig) (s : QueueSyncController) (obs : Observation) :
    (stepWarmup cfg s obs).integralUs = s.integralUs := by
  unfold stepWarmup
  split <;> rfl

theorem stepDrain_kept (cfg : QueueSyncConfig) (s : QueueSyncController) (obs : Observation)
    (isFresh : Bool) : (stepDrain cfg s obs isFresh).integralUs = s.integralUs := by
  unfold stepDrain
  split <;> rfl

/-- **A running step** follows the law of its phase. -/
theorem actuated_running {cfg : QueueSyncConfig} (hcfg : cfg.Bounded) {s : QueueSyncController}
    {obs : Observation} (hint : |s.integralUs| ≤ cfg.integralClampUs) (hon : running cfg obs = true) :
    ActuatedStep cfg (· = .track) s obs (step cfg s obs).1 (step cfg s obs).2 := by
  obtain ⟨s₁, out, hcore, hi, hevents, hstep⟩ := step_running cfg s obs hon
  have hphase : s₁.phase = s.phase :=
    (congrArg PhaseCore.phase hcore).trans (consume_keeps s.core obs).1
  have hmoves : (stepPhase cfg obs (fresh s obs) s₁ out).1.phase ∈ phaseMoves s.phase := by
    have hrun : (stepPhase cfg obs (fresh s obs) s₁ out).1.phase =
        (s₁.core.run cfg obs (fresh s obs)).phase :=
      congrArg PhaseCore.phase (stepPhase_core cfg obs (fresh s obs) s₁ out)
    rw [hrun, ← hphase]
    exact run_moves cfg obs (fresh s obs) s₁.core
  rw [← hi] at hint
  rw [hstep]
  cases hp : s.phase with
  | idle =>
    have hlaw : stepPhase cfg obs (fresh s obs) s₁ out =
        ({ s₁ with phase := .warmup, phaseStartNs := obs.nowNs, lastFill := -1 }, out, 0) := by
      simp only [stepPhase, hphase, hp]
    rw [hlaw] at hmoves ⊢
    refine actuated_publish hon hint hevents hmoves (fun _ => rfl) ?_ ?_
    · simp [hp]
    · simp [hp]
  | warmup =>
    have hlaw : stepPhase cfg obs (fresh s obs) s₁ out = (stepWarmup cfg s₁ obs, out, 0) := by
      simp only [stepPhase, hphase, hp]
    rw [hlaw] at hmoves ⊢
    refine actuated_publish hon ?_ hevents hmoves (fun _ => rfl) ?_ ?_
    · rw [stepWarmup_kept]
      exact hint
    · simp [hp]
    · simp [hp]
  | drain =>
    have hlaw : stepPhase cfg obs (fresh s obs) s₁ out =
        (stepDrain cfg s₁ obs (fresh s obs), out, drainTrim cfg s₁) := by
      simp only [stepPhase, hphase, hp]
    rw [hlaw] at hmoves ⊢
    refine actuated_publish hon ?_ hevents hmoves ?_ (fun _ => drainTrim_bounds hcfg s₁) ?_
    · rw [stepDrain_kept]
      exact hint
    · simp [hp]
    · simp [hp]
  | track =>
    have hlaw : stepPhase cfg obs (fresh s obs) s₁ out = stepTrack cfg obs (fresh s obs) s₁ out := by
      simp only [stepPhase, hphase, hp]
    have hcore' := stepTrack_core cfg obs (fresh s obs) s₁ out
    rw [hlaw] at hmoves ⊢
    cases hr : rebased cfg s₁.lastFill with
    | true =>
      -- a rebased queue: the drain's least trim, at once
      have hout : stepTrack cfg obs (fresh s obs) s₁ out =
          ({ s₁ with phase := .drain, phaseStartNs := obs.nowNs },
            { out with redrainEvents := out.redrainEvents + 1 }, cfg.drainAdjUs) := by
        simp only [stepTrack, hr, if_true]
      rw [hout] at hmoves ⊢
      refine actuated_publish hon hint (hevents.trans ?_) hmoves ?_ (fun _ => ⟨le_rfl, hcfg.drain⟩) ?_
      · intro i
        fin_cases i <;> simp [QueueSyncDecision.events]
      · simp [hp]
      · simp
    | false =>
      obtain ⟨hint', hevents', hlow, hhigh⟩ := stepTrack_bounds hcfg obs (fresh s obs) s₁ out hr
      rw [hr] at hcore'
      have hfill : (stepTrack cfg obs (fresh s obs) s₁ out).1.lastFill = s₁.lastFill :=
        congrArg PhaseCore.lastFill hcore'
      have hstay : (stepTrack cfg obs (fresh s obs) s₁ out).1.phase = .track :=
        (congrArg PhaseCore.phase hcore').trans (hphase.trans hp)
      refine actuated_publish hon hint' (hevents.trans hevents') hmoves ?_ ?_ ?_
      · simp [hp]
      · simp [hp, hstay]
      · intro _ _
        rw [hfill]
        exact ⟨hlow, hhigh⟩

/-! ## Runs -/

def controllerAfter (cfg : QueueSyncConfig) (ops : List QueueSyncOp) : QueueSyncController :=
  (tracedAfter cfg ops).controller

/-- **One call** keeps the integral inside its clamp and is actuated within bounds. -/
theorem actuated_call {cfg : QueueSyncConfig} (hcfg : cfg.Bounded) {s : QueueSyncController}
    (hint : |s.integralUs| ≤ cfg.integralClampUs) (op : QueueSyncOp) :
    Actuated cfg (· = .track) s op := by
  cases op with
  | step obs =>
    cases hon : running cfg obs with
    | true => exact actuated_running hcfg hint hon
    | false => exact actuated_silent hint hon
  | reset => exact ⟨hint, rfl, rfl⟩

theorem integral_after {cfg : QueueSyncConfig} {entered : Phase → Prop} {t : Traced} {op : QueueSyncOp}
    (h : Actuated cfg entered t.controller op) :
    |(t.step cfg op).controller.integralUs| ≤ cfg.integralClampUs := by
  cases op with
  | step obs => exact h.integral
  | reset => exact h.1

/-- **Whole runs.**  Every call of every run of steps and resets is actuated within bounds. -/
theorem actuated_runs (cfg : QueueSyncConfig) (hcfg : cfg.Bounded) (ops : List QueueSyncOp) :
    |(controllerAfter cfg ops).integralUs| ≤ cfg.integralClampUs ∧
      EveryStep (fun pre op => Actuated cfg (· = .track) (controllerAfter cfg pre) op) ops := by
  have hinv : ∀ pre : List QueueSyncOp, |(controllerAfter cfg pre).integralUs| ≤ cfg.integralClampUs := by
    intro pre
    induction pre using List.reverseRecOn with
    | nil => simpa [controllerAfter, tracedAfter] using hcfg.integral
    | append_singleton pre op ih =>
      unfold controllerAfter
      rw [tracedAfter_concat]
      exact integral_after (actuated_call hcfg ih op)
  exact ⟨hinv ops, fun pre op _ _ => actuated_call hcfg (hinv pre) op⟩

/-! ## The step that leaves warmup -/

/-- A developed backlog in warmup: the second call sees fill 20 and leaves warmup after 2 s. -/
def developedWarmup : List QueueSyncOp := [fillFive 1 1]

def backlogObservation : Observation :=
  { streaming := true, fillValid := true, fill := 20, rbackSequence := 2, nowNs := 2000000000 }

/-- The warmup step that enters drain returns the trim of warmup, below `drain_adj_us`. -/
theorem warmup_enters_drain_untrimmed :
    ¬ ∀ (cfg : QueueSyncConfig) (ops : List QueueSyncOp), cfg.Bounded →
      EveryStep (fun pre op => Actuated cfg (fun _ => True) (controllerAfter cfg pre) op) ops := by
  intro h
  have hstep : ActuatedStep streamingConfig (fun _ => True)
      (controllerAfter streamingConfig developedWarmup) backlogObservation
      (step streamingConfig (controllerAfter streamingConfig developedWarmup) backlogObservation).1
      (step streamingConfig (controllerAfter streamingConfig developedWarmup) backlogObservation).2 :=
    h streamingConfig (developedWarmup ++ [.step backlogObservation])
      ⟨by decide, by decide, by decide⟩ developedWarmup (.step backlogObservation) [] rfl
  have hdrain := hstep.drain (by decide) (Or.inr ⟨trivial, by decide +kernel⟩)
  have htrim : (step streamingConfig (controllerAfter streamingConfig developedWarmup)
      backlogObservation).2.periodTrimUs = 0 := by decide +kernel
  rw [htrim] at hdrain
  exact absurd hdrain.1 (by decide)

/-- The default law on that run: bounded, and in drain after it. -/
theorem actuated_runs_sample :
    streamingConfig.Bounded ∧
    (controllerAfter streamingConfig (developedWarmup ++ [.step backlogObservation])).phase = .drain ∧
    |(controllerAfter streamingConfig (developedWarmup ++ [.step backlogObservation])).integralUs| ≤
      streamingConfig.integralClampUs := by
  have hcfg : streamingConfig.Bounded := ⟨by decide, by decide, by decide⟩
  have hrun := actuated_runs streamingConfig hcfg (developedWarmup ++ [.step backlogObservation])
  exact ⟨hcfg, by decide +kernel, hrun.1⟩

end RbServo.QueueSync
