import Mathlib.Algebra.Order.Group.Defs
import Mathlib.Algebra.Order.Ring.Rat

/-!
# `JointLimitStallTracker`

`update` takes the readback of one tick and the time, and returns how long the arm has been stuck on one joint limit
once that is `hold_sec`.  The clock (`since`) restarts when the blocked joint changes, and when the solve has held the
commanded pose for `converged_hold_sec`.

    update : StallTracker → JointLimitStallReadback → K → Option K × StallTracker
-/

namespace PolicyRunner.JointLimit

/-- What the tracker reads of a readback. -/
structure JointLimitStallReadback (K : Type*) where
  blocked : Bool
  arm : Option String
  jointIndex : Option ℤ
  posErrM : Option K
  oriErrRad : Option K
deriving DecidableEq

abbrev JointKey := Option String × Option ℤ

structure StallConfig (K : Type*) where
  holdSec : K
  convergedPosErrM : K
  convergedOriErrRad : K
  convergedHoldSec : K

structure StallTracker (K : Type*) where
  since : Option K
  key : Option JointKey
  convergedSince : Option K
deriving DecidableEq

/-- The state of the constructor and of `reset`. -/
def StallTracker.reset (K : Type*) : StallTracker K := ⟨none, none, none⟩

/-- `(readback.arm, readback.joint_index)`. -/
def JointLimitStallReadback.key {K : Type*} (r : JointLimitStallReadback K) : JointKey := (r.arm, r.jointIndex)

variable {K : Type*} [AddCommGroup K] [LinearOrder K] (cfg : StallConfig K)

namespace StallConfig

def enabled : Bool := 0 < cfg.holdSec

omit [AddCommGroup K] in
/-- `_converged`: the solve reached the commanded pose. -/
def converged (r : JointLimitStallReadback K) : Bool :=
  match r.posErrM, r.oriErrRad with
  | some p, some o => p < cfg.convergedPosErrM ∧ o < cfg.convergedOriErrRad
  | _, _ => false

end StallConfig

namespace StallTracker

variable (s : StallTracker K)

/-- The end of `update`: the hold is compared, and a report clears the episode. -/
def report (since now : K) (convergedSince : Option K) : Option K × StallTracker K :=
  if now - since < cfg.holdSec then (none, { s with convergedSince := convergedSince })
  else (some (now - since), reset K)

def update (r : JointLimitStallReadback K) (now : K) : Option K × StallTracker K :=
  if !cfg.enabled || !r.blocked then (none, reset K)
  else if s.key ≠ some r.key then (none, ⟨some now, some r.key, none⟩)
  else
    match s.since with
    | none => (none, { s with since := some now, convergedSince := none })
    | some since =>
      match cfg.converged r, s.convergedSince with
      | true, none => s.report cfg since now (some now)
      | true, some c =>
        if cfg.convergedHoldSec ≤ now - c then (none, { s with since := some now, convergedSince := none })
        else s.report cfg since now (some c)
      | false, _ => s.report cfg since now none

end StallTracker

/-! ## Runs -/

structure StallCall (K : Type*) where
  readback : JointLimitStallReadback K
  now : K
deriving DecidableEq

/-- The tracker after the calls of a run. -/
def StallTracker.after (calls : List (StallCall K)) : StallTracker K :=
  calls.foldl (fun s x => (s.update cfg x.readback x.now).2) (reset K)

/-- What the call `x` returns after the calls `pre`. -/
def reportAt (pre : List (StallCall K)) (x : StallCall K) : Option K :=
  ((StallTracker.after cfg pre).update cfg x.readback x.now).1

theorem StallTracker.after_concat (pre : List (StallCall K)) (x : StallCall K) :
    StallTracker.after cfg (pre ++ [x]) = ((StallTracker.after cfg pre).update cfg x.readback x.now).2 := by
  simp [after]

end PolicyRunner.JointLimit
