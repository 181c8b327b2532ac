import RoboticsLab.Lib.Clamp
import RoboticsLab.Lib.Binary64
import Mathlib.Tactic.Linarith

/-!
# `rb_servo/control/queue_sync_controller.cpp`: the send-cadence law

The controller regulates the fill of a control box's command queue by trimming the send period.  A
step consumes a fresh RBACK, then runs the law of the current phase: idle → warmup → drain or track,
drain → track, and track → drain when the queue is rebased.  Arithmetic on gains and fills is exact.

The phase, the last fill and the staleness counter form a machine of their own (`PhaseCore`), which
the controller follows:

    (step cfg s obs).1.core = s.core.step cfg obs                                  (step_core)
-/

namespace RbServo.QueueSync

open Clamp

def kQueueSyncFillTraceN : Nat := 20

/-- `hold_motion_until_track` is read by the servo loop only. -/
structure QueueSyncConfig where
  enable : Bool := false
  targetFill : Int := 5
  protectFill : Int := 1
  warnFill : Int := 4
  underrunConfirm : Int := 3
  lpfAlpha : ℚ := 1 / 50
  kpAboveUs : ℚ := 6
  kpBelowUs : ℚ := 18
  kiUs : ℚ := 6 / 1000
  integralClampUs : ℚ := 25
  adjClampUs : ℚ := 120
  protectAdjUs : ℚ := -80
  drainAdjUs : ℚ := 200
  drainMaxUs : ℚ := 2000
  drainPerFillUs : ℚ := 4
  redrainFillMargin : Int := 15
  highwaterFill : Int := 500
  warmupMinSec : Double := .fin (2 / 5)
  warmupMaxSec : Double := .fin (6 / 5)
  drainTimeoutSec : Double := .fin 8
  stallCycles : Int := 25
  noConsumptionRisePerSec : Int := 100

inductive Phase
  | idle
  | warmup
  | drain
  | track
deriving DecidableEq

structure QueueSyncDecision where
  periodTrimUs : ℚ := 0
  fillLpf : ℚ := 0
  integralUs : ℚ := 0
  lastFill : Int := -1
  fillValid : Bool := false
  phase : Phase := .idle
  locked : Bool := false
  staleCycles : Int := 0
  underrunEvents : Nat := 0
  warnEvents : Nat := 0
  dipEvents : Nat := 0
  dipLastMin : Int := 0
  dipLastMs : ℚ := 0
  stallEvents : Nat := 0
  highwaterEvents : Nat := 0
  redrainEvents : Nat := 0
  noConsumptionEvents : Nat := 0
  /-- The populated slots of `fill_trace`. -/
  fillTrace : List Int := []
deriving DecidableEq

structure Observation where
  streaming : Bool := false
  fillValid : Bool := false
  fill : Int := -1
  rbackSequence : Nat := 0
  nowNs : Nat := 0
deriving DecidableEq

structure QueueSyncController where
  phase : Phase := .idle
  phaseStartNs : Nat := 0
  lastRbackSequence : Nat := 0
  lastFill : Int := -1
  fillLpf : ℚ := 0
  integralUs : ℚ := 0
  staleCycles : Int := 0
  underrunActive : Bool := false
  highwaterActive : Bool := false
  warnActive : Bool := false
  dipActive : Bool := false
  dipStartNs : Nat := 0
  dipMin : Int := 0
  dipLastMin : Int := 0
  dipLastMs : ℚ := 0
  underrunRun : Int := 0
  fillTrace : List Int := []
  consumptionRefNs : Nat := 0
  consumptionRefFill : Int := -1
  counters : QueueSyncDecision := {}

/-! ## Algorithm -/

def secToNs (sec : Double) : Nat :=
  if !sec.isFinite || sec.le (.fin 0) then 0 else (sec.mul (.fin 1000000000)).round.toU64

/-- The learned integral, the last dip report and the counters survive. -/
def reset (s : QueueSyncController) : QueueSyncController :=
  { integralUs := s.integralUs
    dipLastMin := s.dipLastMin
    dipLastMs := s.dipLastMs
    counters := s.counters }

/-- The observation carries an RBACK that was not consumed yet. -/
def fresh (s : QueueSyncController) (obs : Observation) : Bool :=
  obs.fillValid && obs.rbackSequence != s.lastRbackSequence

def consume (s : QueueSyncController) (obs : Observation) : QueueSyncController :=
  if fresh s obs then { s with lastFill := obs.fill, lastRbackSequence := obs.rbackSequence } else s

/-- A step without a stream: regulation state is dropped when there was any. -/
def stepSilent (s : QueueSyncController) : QueueSyncController × QueueSyncDecision :=
  let s :=
    if s.phase = .idle then s
    else { s with
      phase := .idle
      lastFill := -1
      staleCycles := 0
      consumptionRefNs := 0
      consumptionRefFill := -1
      warnActive := false
      dipActive := false
      underrunActive := false
      underrunRun := 0
      fillTrace := [] }
  let out := { s.counters with
    periodTrimUs := 0
    lastFill := s.lastFill
    fillValid := decide (0 ≤ s.lastFill)
    fillLpf := s.fillLpf
    integralUs := s.integralUs
    phase := .idle
    locked := false
    staleCycles := 0 }
  ({ s with counters := out }, out)

/-- The one-second consumption watch. -/
def watchConsumption (cfg : QueueSyncConfig) (obs : Observation) (s : QueueSyncController)
    (out : QueueSyncDecision) : QueueSyncController × QueueSyncDecision :=
  if s.lastFill < 0 then (s, out)
  else
    let anchored := { s with consumptionRefNs := obs.nowNs, consumptionRefFill := s.lastFill }
    if s.consumptionRefNs = 0 ∨ s.consumptionRefFill < 0 then (anchored, out)
    else if 1000000000 ≤ subU64 obs.nowNs s.consumptionRefNs then
      (anchored,
        if cfg.noConsumptionRisePerSec < s.lastFill - s.consumptionRefFill then
          { out with noConsumptionEvents := out.noConsumptionEvents + 1 }
        else out)
    else (s, out)

/-- The backlog watch, re-armed well below its level. -/
def watchHighwater (cfg : QueueSyncConfig) (s : QueueSyncController) (out : QueueSyncDecision) :
    QueueSyncController × QueueSyncDecision :=
  if s.lastFill < 0 then (s, out)
  else if cfg.highwaterFill ≤ s.lastFill ∧ s.highwaterActive = false then
    ({ s with highwaterActive := true }, { out with highwaterEvents := out.highwaterEvents + 1 })
  else if s.lastFill < cfg.highwaterFill.tdiv 2 then ({ s with highwaterActive := false }, out)
  else (s, out)

/-- The filter starts from the known fill, or from the target. -/
def seededLpf (cfg : QueueSyncConfig) (s : QueueSyncController) : ℚ :=
  if 0 ≤ s.lastFill then s.lastFill else cfg.targetFill

def warmupExits (cfg : QueueSyncConfig) (lastFill : Int) (phaseStartNs nowNs : Nat) : Bool :=
  let dt := subU64 nowNs phaseStartNs
  (decide (cfg.targetFill + 3 ≤ lastFill) && decide (secToNs cfg.warmupMinSec ≤ dt)) ||
    decide (secToNs cfg.warmupMaxSec ≤ dt)

def stepWarmup (cfg : QueueSyncConfig) (s : QueueSyncController) (obs : Observation) :
    QueueSyncController :=
  if warmupExits cfg s.lastFill s.phaseStartNs obs.nowNs then
    { s with
      phase := if cfg.targetFill + 1 < s.lastFill then .drain else .track
      phaseStartNs := obs.nowNs
      fillLpf := seededLpf cfg s }
  else s

def drainExits (cfg : QueueSyncConfig) (isFresh : Bool) (lastFill : Int)
    (phaseStartNs nowNs : Nat) : Bool :=
  (isFresh && decide (0 ≤ lastFill) && decide (lastFill ≤ cfg.targetFill)) ||
    decide (secToNs cfg.drainTimeoutSec ≤ subU64 nowNs phaseStartNs)

def drainTrim (cfg : QueueSyncConfig) (s : QueueSyncController) : ℚ :=
  let excess : ℚ := if 0 ≤ s.lastFill then (s.lastFill - cfg.targetFill : Int) else 0
  clamp (cfg.drainPerFillUs * excess) cfg.drainAdjUs cfg.drainMaxUs

def stepDrain (cfg : QueueSyncConfig) (s : QueueSyncController) (obs : Observation)
    (isFresh : Bool) : QueueSyncController :=
  if drainExits cfg isFresh s.lastFill s.phaseStartNs obs.nowNs then
    { s with phase := .track, phaseStartNs := obs.nowNs, fillLpf := seededLpf cfg s }
  else s

/-- Append to the trace, dropping the oldest entry of a full one. -/
def pushTrace (trace : List Int) (fill : Int) : List Int :=
  if trace.length < kQueueSyncFillTraceN then trace ++ [fill] else trace.tail ++ [fill]

/-- Warn and dip band of a fresh observation. -/
def trackDip (cfg : QueueSyncConfig) (obs : Observation) (s : QueueSyncController)
    (out : QueueSyncDecision) : QueueSyncController × QueueSyncDecision :=
  if s.lastFill ≤ cfg.warnFill then
    ({ s with
        warnActive := true
        dipActive := true
        dipStartNs := if s.dipActive then s.dipStartNs else obs.nowNs
        dipMin := if s.dipActive then min s.lastFill s.dipMin else s.lastFill },
      if s.warnActive then out else { out with warnEvents := out.warnEvents + 1 })
  else (s, out)

/-- Consecutive fresh observations at or below `protect_fill`. -/
def trackUnderrun (cfg : QueueSyncConfig) (s : QueueSyncController) (out : QueueSyncDecision) :
    QueueSyncController × QueueSyncDecision :=
  if s.lastFill ≤ cfg.protectFill then
    if cfg.underrunConfirm ≤ s.underrunRun + 1 ∧ s.underrunActive = false then
      ({ s with underrunRun := s.underrunRun + 1, underrunActive := true },
        { out with underrunEvents := out.underrunEvents + 1 })
    else ({ s with underrunRun := s.underrunRun + 1 }, out)
  else ({ s with underrunRun := 0 }, out)

/-- Recovery to the target ends the episodes. -/
def trackRecover (cfg : QueueSyncConfig) (obs : Observation) (s : QueueSyncController)
    (out : QueueSyncDecision) : QueueSyncController × QueueSyncDecision :=
  if cfg.targetFill ≤ s.lastFill then
    let rearmed := { s with warnActive := false, underrunActive := false, underrunRun := 0 }
    if s.dipActive then
      ({ rearmed with
          dipActive := false
          dipLastMin := s.dipMin
          dipLastMs := (subU64 obs.nowNs s.dipStartNs : Nat) / 1000000 },
        { out with dipEvents := out.dipEvents + 1 })
    else (rearmed, out)
  else (s, out)

/-- The band tests, on fresh observations only. -/
def trackBand (cfg : QueueSyncConfig) (obs : Observation) (isFresh : Bool)
    (s : QueueSyncController) (out : QueueSyncDecision) : QueueSyncController × QueueSyncDecision :=
  if isFresh && decide (0 ≤ s.lastFill) then
    let s := { s with fillTrace := pushTrace s.fillTrace s.lastFill }
    let (s, out) := trackDip cfg obs s out
    let (s, out) := trackUnderrun cfg s out
    trackRecover cfg obs s out
  else (s, out)

/-- The asymmetric PI on the filtered fill; the trim it returns. -/
def trackLaw (cfg : QueueSyncConfig) (isFresh : Bool) (s : QueueSyncController) :
    QueueSyncController × ℚ :=
  let low := decide (0 ≤ s.lastFill) && decide (s.lastFill ≤ cfg.protectFill)
  let fillLpf := if isFresh then s.fillLpf + cfg.lpfAlpha * (s.lastFill - s.fillLpf) else s.fillLpf
  let error := fillLpf - cfg.targetFill
  let integralUs := clamp (s.integralUs + cfg.kiUs * error) (-cfg.integralClampUs) cfg.integralClampUs
  let kp := if 0 ≤ error then cfg.kpAboveUs else cfg.kpBelowUs
  let trim := clamp (kp * error + integralUs) (-cfg.adjClampUs) cfg.adjClampUs
  ({ s with fillLpf := fillLpf, integralUs := integralUs }, if low then cfg.protectAdjUs else trim)

def rebased (cfg : QueueSyncConfig) (lastFill : Int) : Bool :=
  decide (cfg.targetFill + cfg.redrainFillMargin ≤ lastFill)

/-- `stale_cycles_ + 1` of an `int`, which nothing saturates. -/
def nextStale (staleCycles : Int) : Int := Int.bmod (staleCycles + 1) (2 ^ 32)

theorem nextStale_of_lt {staleCycles : Int} (h0 : 0 ≤ staleCycles) (h : staleCycles < 2 ^ 31 - 1) :
    nextStale staleCycles = staleCycles + 1 := by
  unfold nextStale
  exact Int.bmod_eq_of_le (by omega) (by omega)

def stepTrack (cfg : QueueSyncConfig) (obs : Observation) (isFresh : Bool)
    (s : QueueSyncController) (out : QueueSyncDecision) :
    QueueSyncController × QueueSyncDecision × ℚ :=
  if rebased cfg s.lastFill then
    ({ s with phase := .drain, phaseStartNs := obs.nowNs },
      { out with redrainEvents := out.redrainEvents + 1 }, cfg.drainAdjUs)
  else
    let (s, out) := trackBand cfg obs isFresh s out
    let s := { s with staleCycles := if isFresh then 0 else nextStale s.staleCycles }
    let out := if s.staleCycles = cfg.stallCycles then { out with stallEvents := out.stallEvents + 1 }
      else out
    let (s, trim) := trackLaw cfg isFresh s
    (s, out, trim)

/-- The law of the current phase, and the trim it asks for. -/
def stepPhase (cfg : QueueSyncConfig) (obs : Observation) (isFresh : Bool)
    (s : QueueSyncController) (out : QueueSyncDecision) :
    QueueSyncController × QueueSyncDecision × ℚ :=
  match s.phase with
  | .idle => ({ s with phase := .warmup, phaseStartNs := obs.nowNs, lastFill := -1 }, out, 0)
  | .warmup => (stepWarmup cfg s obs, out, 0)
  | .drain => (stepDrain cfg s obs isFresh, out, drainTrim cfg s)
  | .track => stepTrack cfg obs isFresh s out

def lockedNow (cfg : QueueSyncConfig) (s : QueueSyncController) : Bool :=
  decide (s.phase = .track) && decide (0 ≤ s.lastFill) && decide (s.staleCycles < cfg.stallCycles) &&
    decide ((s.lastFill - cfg.targetFill).natAbs ≤ 1)

def publish (cfg : QueueSyncConfig) (s : QueueSyncController) (out : QueueSyncDecision) (trim : ℚ) :
    QueueSyncController × QueueSyncDecision :=
  let out := { out with
    periodTrimUs := trim
    fillLpf := s.fillLpf
    integralUs := s.integralUs
    lastFill := s.lastFill
    fillValid := decide (0 ≤ s.lastFill)
    phase := s.phase
    staleCycles := s.staleCycles
    dipLastMin := s.dipLastMin
    dipLastMs := s.dipLastMs
    fillTrace := s.fillTrace
    locked := lockedNow cfg s }
  ({ s with counters := out }, out)

/-- `QueueSyncController::step`: the new state and the decision. -/
def step (cfg : QueueSyncConfig) (s : QueueSyncController) (obs : Observation) :
    QueueSyncController × QueueSyncDecision :=
  let isFresh := fresh s obs
  let s := consume s obs
  if !cfg.enable || !obs.streaming then stepSilent s
  else
    let (s, out) := watchConsumption cfg obs s { s.counters with periodTrimUs := 0 }
    let (s, out) := watchHighwater cfg s out
    let (s, out, trim) := stepPhase cfg obs isFresh s out
    publish cfg s out trim

/-! ## The phase machine -/

/-- The part of the state that decides phases and freshness. -/
structure PhaseCore where
  phase : Phase := .idle
  phaseStartNs : Nat := 0
  lastRbackSequence : Nat := 0
  lastFill : Int := -1
  staleCycles : Int := 0
deriving DecidableEq

def QueueSyncController.core (s : QueueSyncController) : PhaseCore where
  phase := s.phase
  phaseStartNs := s.phaseStartNs
  lastRbackSequence := s.lastRbackSequence
  lastFill := s.lastFill
  staleCycles := s.staleCycles

def PhaseCore.fresh (c : PhaseCore) (obs : Observation) : Bool :=
  obs.fillValid && obs.rbackSequence != c.lastRbackSequence

def PhaseCore.consume (c : PhaseCore) (obs : Observation) : PhaseCore :=
  if c.fresh obs then { c with lastFill := obs.fill, lastRbackSequence := obs.rbackSequence } else c

/-- The phase machine with a stream, after the RBACK was consumed. -/
def PhaseCore.run (cfg : QueueSyncConfig) (obs : Observation) (isFresh : Bool) (c : PhaseCore) :
    PhaseCore :=
  match c.phase with
  | .idle => { c with phase := .warmup, phaseStartNs := obs.nowNs, lastFill := -1 }
  | .warmup =>
    if warmupExits cfg c.lastFill c.phaseStartNs obs.nowNs then
      { c with
        phase := if cfg.targetFill + 1 < c.lastFill then .drain else .track
        phaseStartNs := obs.nowNs }
    else c
  | .drain =>
    if drainExits cfg isFresh c.lastFill c.phaseStartNs obs.nowNs then
      { c with phase := .track, phaseStartNs := obs.nowNs }
    else c
  | .track =>
    if rebased cfg c.lastFill then { c with phase := .drain, phaseStartNs := obs.nowNs }
    else { c with staleCycles := if isFresh then 0 else nextStale c.staleCycles }

def PhaseCore.silence (c : PhaseCore) : PhaseCore :=
  if c.phase = .idle then c else { c with phase := .idle, lastFill := -1, staleCycles := 0 }

def PhaseCore.step (cfg : QueueSyncConfig) (c : PhaseCore) (obs : Observation) : PhaseCore :=
  if !cfg.enable || !obs.streaming then (c.consume obs).silence
  else (c.consume obs).run cfg obs (c.fresh obs)

def PhaseCore.locked (cfg : QueueSyncConfig) (c : PhaseCore) : Bool :=
  decide (c.phase = .track) && decide (0 ≤ c.lastFill) && decide (c.staleCycles < cfg.stallCycles) &&
    decide ((c.lastFill - cfg.targetFill).natAbs ≤ 1)

theorem consume_core (s : QueueSyncController) (obs : Observation) :
    (consume s obs).core = s.core.consume obs := by
  unfold consume PhaseCore.consume
  show _ = if fresh s obs then _ else _
  split <;> rfl

theorem watchConsumption_core (cfg : QueueSyncConfig) (obs : Observation) (s : QueueSyncController)
    (out : QueueSyncDecision) : (watchConsumption cfg obs s out).1.core = s.core := by
  unfold watchConsumption
  dsimp only
  split_ifs <;> rfl

theorem watchHighwater_core (cfg : QueueSyncConfig) (s : QueueSyncController)
    (out : QueueSyncDecision) : (watchHighwater cfg s out).1.core = s.core := by
  unfold watchHighwater
  split_ifs <;> rfl

theorem trackBand_core (cfg : QueueSyncConfig) (obs : Observation) (isFresh : Bool)
    (s : QueueSyncController) (out : QueueSyncDecision) :
    (trackBand cfg obs isFresh s out).1.core = s.core := by
  have hdip : ∀ s out, (trackDip cfg obs s out).1.core = s.core := by
    intro s out
    unfold trackDip
    split_ifs <;> rfl
  have hunder : ∀ s out, (trackUnderrun cfg s out).1.core = s.core := by
    intro s out
    unfold trackUnderrun
    split_ifs <;> rfl
  have hrec : ∀ s out, (trackRecover cfg obs s out).1.core = s.core := by
    intro s out
    unfold trackRecover
    dsimp only
    split_ifs <;> rfl
  unfold trackBand
  split_ifs
  · rw [hrec, hunder, hdip]
    rfl
  · rfl

theorem stepTrack_core (cfg : QueueSyncConfig) (obs : Observation) (isFresh : Bool)
    (s : QueueSyncController) (out : QueueSyncDecision) :
    (stepTrack cfg obs isFresh s out).1.core =
      if rebased cfg s.lastFill then { s.core with phase := .drain, phaseStartNs := obs.nowNs }
      else { s.core with staleCycles := if isFresh then 0 else nextStale s.staleCycles } := by
  have hband := trackBand_core cfg obs isFresh s out
  have hstale : (trackBand cfg obs isFresh s out).1.staleCycles = s.staleCycles :=
    congrArg PhaseCore.staleCycles hband
  unfold stepTrack
  split
  · rfl
  · rw [← hband, ← hstale]
    rfl

theorem stepPhase_core (cfg : QueueSyncConfig) (obs : Observation) (isFresh : Bool)
    (s : QueueSyncController) (out : QueueSyncDecision) :
    (stepPhase cfg obs isFresh s out).1.core = s.core.run cfg obs isFresh := by
  unfold stepPhase PhaseCore.run
  cases hp : s.phase with
  | idle => simp only [QueueSyncController.core, hp]
  | warmup =>
    simp only [QueueSyncController.core, hp, stepWarmup]
    split <;> simp [hp]
  | drain =>
    simp only [QueueSyncController.core, hp, stepDrain]
    split <;> simp [hp]
  | track =>
    refine (stepTrack_core cfg obs isFresh s out).trans ?_
    simp only [QueueSyncController.core, hp]

/-- **The controller follows the phase machine**, and reports it. -/
theorem step_core (cfg : QueueSyncConfig) (s : QueueSyncController) (obs : Observation) :
    (step cfg s obs).1.core = s.core.step cfg obs ∧
      (step cfg s obs).2.phase = (s.core.step cfg obs).phase ∧
      (step cfg s obs).2.lastFill = (s.core.step cfg obs).lastFill ∧
      (step cfg s obs).2.locked = (s.core.step cfg obs).locked cfg := by
  unfold step PhaseCore.step
  dsimp only
  split
  · have hsilent : (stepSilent (consume s obs)).1.core = (s.core.consume obs).silence := by
      rw [← consume_core]
      unfold stepSilent PhaseCore.silence
      show (if (consume s obs).phase = .idle then _ else _ : QueueSyncController).core =
        if (consume s obs).phase = .idle then _ else _
      split <;> rfl
    have hidle : (s.core.consume obs).silence.phase = .idle := by
      unfold PhaseCore.silence
      split
      · next h => exact h
      · rfl
    refine ⟨hsilent, hidle.symm, ?_, ?_⟩
    · rw [← hsilent]
      rfl
    · simp [PhaseCore.locked, hidle, stepSilent]
  · have hrun := stepPhase_core cfg obs (fresh s obs)
      (watchHighwater cfg (watchConsumption cfg obs (consume s obs)
        { (consume s obs).counters with periodTrimUs := 0 }).1
        (watchConsumption cfg obs (consume s obs)
        { (consume s obs).counters with periodTrimUs := 0 }).2).1
      (watchHighwater cfg (watchConsumption cfg obs (consume s obs)
        { (consume s obs).counters with periodTrimUs := 0 }).1
        (watchConsumption cfg obs (consume s obs)
        { (consume s obs).counters with periodTrimUs := 0 }).2).2
    rw [watchHighwater_core, watchConsumption_core, consume_core] at hrun
    refine ⟨hrun, ?_, ?_, ?_⟩
    · exact congrArg PhaseCore.phase hrun
    · exact congrArg PhaseCore.lastFill hrun
    · exact congrArg (PhaseCore.locked cfg) hrun

end RbServo.QueueSync
