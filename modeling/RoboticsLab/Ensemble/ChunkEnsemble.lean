import RoboticsLab.ArmInit.OverrideController
import RoboticsLab.Lib.Telescope
import RoboticsLab.Lib.Numerals
import Mathlib.Data.Rat.Defs

/-!
# `ChunkEnsembleScheduler`: windows blended from two chunks

Each chunk is registered as a plan: its rows integrated from the executed plan value at its kick step.  A window is
built from the newest plan that covers it, blended with the plan before over the latter's old-side interval, and is
emitted as deltas from the last executed target.  `begin` builds the first window, of `2 R` steps, `advance` each later
one, of `R` steps; `runwaySegment` reads ahead without advancing.

Poses are elements of a group: `pose_compose_local` is the product and `pose_delta_local a b` is `a⁻¹ * b`.  Walls are
policy steps.  Rounding to `float32` is left out.
-/

namespace PolicyRunner.Ensemble

open Telescope

variable {G : Type}

/-- One row of a chunk: a pose delta and an absolute grip for each arm. -/
structure Row (G : Type) where
  delta : Arm → G
  grip : Arm → ℚ

inductive BlendMode
  | linear
  | none
deriving DecidableEq

/-- The arguments of the constructor, as it checks them. -/
structure Config (G : Type) where
  period : ℕ
  horizon : ℕ
  blendMode : BlendMode
  interpPose : G → G → ℚ → G
  two_le_period : 2 ≤ period
  three_period_le : 3 * period ≤ horizon

def blendWeight (j r : ℕ) : ℚ := if r ≤ 1 then 1 else (j : ℚ) / ((r : ℚ) - 1)

/-! ## Plans -/

/-- `_Plan`: `absTargets arm` are the targets of the walls from `kickWall` on. -/
structure Plan (G : Type) where
  kickWall : ℕ
  horizon : ℕ
  absTargets : Arm → List G
  grips : Arm → List ℚ
  anchors : Arm → G

/-- The plan has rows for the whole interval: `segment` does not return `None`. -/
def Plan.covers (p : Plan G) (wallStart length : ℕ) : Bool :=
  p.kickWall ≤ wallStart && wallStart - p.kickWall + length ≤ p.horizon

/-- `segment`, of an interval that the plan covers. -/
def Plan.segment (p : Plan G) (arm : Arm) (wallStart length : ℕ) : List G :=
  ((p.absTargets arm).drop (wallStart - p.kickWall)).take length

def Plan.gripSegment (p : Plan G) (arm : Arm) (wallStart length : ℕ) : List ℚ :=
  ((p.grips arm).drop (wallStart - p.kickWall)).take length

def Plan.availableFrom (p : Plan G) (wallStart maxLength : ℕ) : ℕ :=
  if wallStart < p.kickWall ∨ p.horizon ≤ wallStart - p.kickWall then 0
  else min maxLength (p.horizon - (wallStart - p.kickWall))

/-! ## The scheduler -/

inductive Provenance
  | unset
  | pureFirst
  | blend
  | pureOldRunway
  | pureNew
  | starved
deriving DecidableEq

structure Scheduler (G : Type) where
  /-- Newest last, at most two. -/
  plans : List (Plan G)
  pendingKickWall : Option ℕ
  /-- The wall of the next window to build. -/
  windowStart : ℕ
  lastWindowStart : ℕ
  lastWindowLength : ℕ
  planTail : Arm → Option G
  history : Arm → ℕ → Option G
  firstWindowBuilt : Bool
  activeKickAt : ℕ
  lastWindowProvenance : Provenance

/-- `reset`. -/
def Scheduler.init : Scheduler G where
  plans := []
  pendingKickWall := none
  windowStart := 0
  lastWindowStart := 0
  lastWindowLength := 0
  planTail := fun _ => none
  history := fun _ _ => none
  firstWindowBuilt := false
  activeKickAt := 0
  lastWindowProvenance := .unset

def Scheduler.noteKick (s : Scheduler G) (wallStep : ℕ) : Scheduler G := { s with pendingKickWall := some wallStep }

/-- `_anchor_for`: the executed plan value before the kick step, else the tail, else the caller's seed. -/
def Scheduler.anchorFor (s : Scheduler G) (arm : Arm) (kickWall : ℕ) (anchor : Arm → G) : G :=
  let before := if kickWall = 0 then none else s.history arm (kickWall - 1)
  (before.or (s.planTail arm)).getD (anchor arm)

section
variable [Group G]

def Scheduler.register (s : Scheduler G) (raw : List (Row G)) (kickWall : ℕ) (anchor : Arm → G) : Scheduler G :=
  let plan : Plan G :=
    { kickWall := kickWall
      horizon := raw.length
      absTargets := fun arm => integrate (s.anchorFor arm kickWall anchor) (raw.map (·.delta arm))
      grips := fun arm => raw.map (·.grip arm)
      anchors := fun arm => s.anchorFor arm kickWall anchor }
  let plans := s.plans ++ [plan]
  { s with plans := if 2 < plans.length then plans.drop 1 else plans }

/-- The targets of a window: those of the new plan, blended from the old one where there is one. -/
def windowTargets (cfg : Config G) (new : Plan G) (old : Option (Plan G)) (start length : ℕ) (arm : Arm) : List G :=
  match old with
  | none => new.segment arm start length
  | some old =>
    List.zipWith (fun (j : ℕ) (p : G × G) => cfg.interpPose p.1 p.2 (blendWeight j length)) (List.range length)
      ((old.segment arm start length).zip (new.segment arm start length))

def windowGrips (new : Plan G) (old : Option (Plan G)) (start length : ℕ) (arm : Arm) : List ℚ :=
  match old with
  | none => new.gripSegment arm start length
  | some old =>
    List.zipWith (fun (j : ℕ) (p : ℚ × ℚ) => (1 - blendWeight j length) * p.1 + blendWeight j length * p.2)
      (List.range length) ((old.gripSegment arm start length).zip (new.gripSegment arm start length))

/-- The rows of an array, from its columns. -/
def rowsOf (length : ℕ) (delta : Arm → List G) (grip : Arm → List ℚ) : List (Row G) :=
  (List.range length).map fun j => ⟨fun arm => (delta arm).getD j 1, fun arm => (grip arm).getD j 0⟩

/-- The plan a window is built from and its blend partner. -/
def Scheduler.choose (cfg : Config G) (s : Scheduler G) (length : ℕ) : Option (Plan G × Option (Plan G)) :=
  match s.plans.reverse.filter fun p => p.covers s.windowStart length with
  | [] => none
  | new :: older =>
    match cfg.blendMode, older with
    | .linear, plan :: _ =>
      -- the previous plan is a partner only over its old-side interval
      if 2 * cfg.period ≤ s.windowStart - plan.kickWall ∧
          s.windowStart - plan.kickWall + length ≤ 3 * cfg.period then some (new, some plan)
      else some (new, none)
    | _, _ => some (new, none)

/-- A window: the rows emitted and the targets they lead to. -/
structure Window (G : Type) where
  start : ℕ
  rows : List (Row G)
  targets : Arm → List G

/-- The executed targets by wall, without those no late chunk can refer to. -/
def recordHistory (history : ℕ → Option G) (targets : List G) (start length period : ℕ) : ℕ → Option G := fun wall =>
  if wall + 4 * period < start + length then none
  else if start ≤ wall then (targets[wall - start]?).or (history wall) else history wall

def Scheduler.buildWindow (cfg : Config G) (s : Scheduler G) (length : ℕ) : Scheduler G × Option (Window G) :=
  match s.choose cfg length with
  | none => ({ s with lastWindowProvenance := .starved }, none)
  | some (new, old) =>
    let start := s.windowStart
    let targets := windowTargets cfg new old start length
    let tail := fun arm => (s.planTail arm).getD (new.anchors arm)
    let rows := rowsOf length (fun arm => deltas (tail arm) (targets arm)) (windowGrips new old start length)
    ({ s with
      lastWindowProvenance :=
        if old.isSome then .blend
        else if !s.firstWindowBuilt then .pureFirst
        else if (s.plans.getLast?.map (·.covers start length)).getD false then .pureNew
        else .pureOldRunway
      history := fun arm => recordHistory (s.history arm) (targets arm) start length cfg.period
      planTail := fun arm => some (last (tail arm) (targets arm))
      lastWindowStart := start
      lastWindowLength := length
      windowStart := start + length }, some ⟨start, rows, targets⟩)

/-- The first chunk, registered at wall 0; its window is asserted to exist. -/
def Scheduler.begin (cfg : Config G) (s : Scheduler G) (raw : List (Row G)) (anchor : Arm → G) :
    Scheduler G × Option (Window G) :=
  let (s, window) := (s.register raw 0 anchor).buildWindow cfg (2 * cfg.period)
  (if window.isSome then { s with firstWindowBuilt := true, activeKickAt := cfg.period } else s, window)

/-- The newly arrived chunk, registered at the noted kick or at the nominal cadence. -/
def Scheduler.arrive (cfg : Config G) (s : Scheduler G) (raw : Option (List (Row G))) (anchor : Arm → G) :
    Scheduler G :=
  match raw with
  | none => s
  | some raw =>
    { s with pendingKickWall := none }.register raw (s.pendingKickWall.getD (s.windowStart - cfg.period)) anchor

def Scheduler.advance (cfg : Config G) (s : Scheduler G) (raw : Option (List (Row G))) (anchor : Arm → G) :
    Scheduler G × Option (Window G) :=
  let (s, window) := (s.arrive cfg raw anchor).buildWindow cfg cfg.period
  (if window.isSome then { s with activeKickAt := 0 } else s, window)

/-- `runway_segment`; without a length it reads one period ahead. -/
def Scheduler.runwaySegment (cfg : Config G) (s : Scheduler G) (length : Option ℕ) : List (Row G) :=
  match s.plans.getLast? with
  | none => []
  | some latest =>
    if s.lastWindowLength = 0 then []
    else
      let start := s.lastWindowStart + s.lastWindowLength
      let available := latest.availableFrom start (length.getD cfg.period)
      rowsOf available
        (fun arm => deltas ((s.planTail arm).getD (latest.anchors arm)) (latest.segment arm start available))
        (fun arm => latest.gripSegment arm start available)

end

end PolicyRunner.Ensemble
