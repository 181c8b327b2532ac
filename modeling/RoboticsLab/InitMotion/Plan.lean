import RoboticsLab.Collision.PairGates
import RoboticsLab.Control.ShortestPath
import RoboticsLab.InitMotion.Escape
import RoboticsLab.InitMotion.TreeGrowth

/-!
# `InitMotionPlanner::plan`

A plan goes from the joints of both arms to a goal of one or both: it relaxes the clearance thresholds
down to what the goal itself keeps, refuses a goal that is not clear, escapes from a start that is not,
connects two search trees, cuts corners, checks every edge once more and densifies.

The generator and the clock are a `Chance`: what is drawn, and when a deadline is over.  The collision
distances of a configuration are a parameter, `pairs`.  `connect` runs for `fuel` calls of `extend`, and
a plan is `none` where it needs more.
-/

namespace RbServo.InitMotion

open Collision

structure InitMotionPlannerConfig (K : Type*) where
  stepSizeRad : K
  edgeResolutionRad : K
  goalBias : K
  sampleMarginDeg : K
  sampleMarginDegPerJoint : Joints K
  globalSampleFraction : K
  globalSampleMarginDeg : K
  noopTolDeg : K
  maxSegmentDeg : K
  collisionMarginM : ℚ
  maxIterations : ℕ
  shortcutPasses : ℕ
  escapeMaxSteps : ℕ
  escapeRestartAttempts : ℕ
  lazyEdges : Bool

/-- An iteration of the search: the deadline, the draw of `u` and the draws of `sample`, each from `[0, 1)`. -/
structure Draw (K : Type*) where
  late : Bool
  r : K
  u : Config K

/-- What the clock and the generator decide. -/
structure Chance (K : Type*) where
  escapeLate : ℕ → Bool
  restarts : ℕ → Restart K
  draws : ℕ → Draw K
  shortcuts : ℕ → K × K

inductive FailMode
  | none
  | goalNotClear
  | escapeFailed
  | rrtBudget
  | nonFinite
deriving DecidableEq

structure InitMotionPlanResult (K : Type*) where
  success : Bool
  failMode : FailMode
  waypoints : List (Joints K × Joints K)
  escapeWaypoints : ℕ
  iterations : ℕ
  treeStartSize : ℕ
  treeGoalSize : ℕ

/-- The planner: its configuration, the private monitor and the distances that it measures. -/
structure Planner (K : Type*) [Field K] where
  cfg : InitMotionPlannerConfig K
  monitor : MonitorConfig ℚ
  limits : JointLimits K
  jointTargetLiteralAxes : Fin kDof → Bool
  pairs : Config K → List (Pair × Double)
  /-- A clearance as the climb computes with it. -/
  number : Double → K
  number_fin : ∀ q : ℚ, number (.fin q) = q

/-- One call of `plan`: the arms that move, and the thresholds in force. -/
structure Call (K : Type*) [Field K] where
  planner : Planner K
  leftActive : Bool
  rightActive : Bool
  thresholds : Thresholds

structure Search (K : Type*) where
  raw : Option (List (Config K))
  iterations : ℕ
  treeStartSize : ℕ
  treeGoalSize : ℕ

/-! ## Thresholds and goal -/

def configured {K : Type*} [Field K] (p : Planner K) : Thresholds where
  selfM := p.monitor.self.dHardM + p.cfg.collisionMarginM
  externalM := p.monitor.external.dHardM + p.cfg.collisionMarginM
  intraArmM := p.monitor.intraArm.dHardM + p.cfg.collisionMarginM
  environmentM := p.monitor.environment.dHardM + p.cfg.collisionMarginM

def kEndpointEps : ℚ := 1 / 10 ^ 4

/-- `max(d_hard, min(threshold, m - kEndpointEps))`, which is finite for every `m`. -/
def relax (dHard threshold : ℚ) : Double → ℚ
  | .fin m => max dHard (min threshold (m - kEndpointEps))
  | .negInf => dHard
  | .posInf | .nan => max dHard threshold

def relaxed {K : Type*} [Field K] (p : Planner K) (goal : CollisionDistanceSummary) : Thresholds where
  selfM := relax p.monitor.self.dHardM (configured p).selfM goal.selfMinClearanceM
  externalM := relax p.monitor.external.dHardM (configured p).externalM goal.externalMinClearanceM
  intraArmM := relax p.monitor.intraArm.dHardM (configured p).intraArmM goal.intraArmMinClearanceM
  environmentM := relax p.monitor.environment.dHardM (configured p).environmentM goal.environmentMinClearanceM

section

variable {K : Type*} [Field K] [LinearOrder K]

def nearestBranch (rawTarget reference qMin qMax : K) : K :=
  if qMin < qMax then closestEquivalent rawTarget reference qMin qMax else rawTarget

def branchGoal (p : Planner K) (active : Bool) (start goal : Joints K) : Joints K := fun i =>
  if active then
    if p.jointTargetLiteralAxes i then goal i
    else nearestBranch (goal i) (start i) (p.limits.qMinDeg i) (p.limits.qMaxDeg i)
  else start i

/-! ## One call -/

def Call.active (c : Call K) : ActiveMask := makeActiveMask c.leftActive c.rightActive

def Call.eval (c : Call K) (q : Config K) : CollisionDistanceSummary :=
  evalDistancesOnly c.planner.monitor c.leftActive c.rightActive (c.planner.pairs q)

def Call.clear (c : Call K) (q : Config K) : Bool :=
  clearsThresholds c.planner.monitor c.thresholds c.leftActive c.rightActive (c.planner.pairs q)

def Call.isClear (c : Call K) (q : Config K) : Bool := Collision.isClear c.thresholds (c.eval q)

/-- The step of the trees and of the climb, in degrees. -/
def Call.stepDeg (c : Call K) : K := max (1 / 10 ^ 3) (c.planner.cfg.stepSizeRad * kRadToDeg)

variable [FloorSemiring K] (sqrt : K → K)

def Call.edge (c : Call K) : Config K → Config K → Bool := edgeClear sqrt c.planner.cfg.edgeResolutionRad c.clear

def Call.oracle (c : Call K) : Oracle K := ⟨c.clear, c.edge sqrt, c.planner.cfg.lazyEdges⟩

def Call.escapeOracle (c : Call K) : EscapeOracle K :=
  ⟨fun q => c.planner.number (c.eval q).minClearanceM, c.isClear, c.clear, c.edge sqrt⟩

def Call.escape (c : Call K) (ch : Chance K) (start : Config K) : List (Config K) :=
  escapeToClear sqrt c.planner.limits c.active (c.escapeOracle sqrt) c.stepDeg c.planner.cfg.escapeMaxSteps
    ch.escapeLate ((List.range c.planner.cfg.escapeRestartAttempts).map ch.restarts) start

/-! ## The search -/

/-- The margin of a joint's sampling band. -/
def bandMargin (cfg : InitMotionPlannerConfig K) (k : Fin kCombined) : K :=
  if (List.finRange kDof).any (fun j => decide (0 < cfg.sampleMarginDegPerJoint j)) ∧
      0 < cfg.sampleMarginDegPerJoint (armJoint k) then cfg.sampleMarginDegPerJoint (armJoint k)
  else cfg.sampleMarginDeg

/-- The band of a joint around start and goal, inside its limits: `lo` and `hi`. -/
def Call.band (c : Call K) (start goal : Config K) (margin : K) (k : Fin kCombined) : K × K :=
  if c.active k then
    let a := min (start k) (goal k) - margin
    let b := max (start k) (goal k) + margin
    let lo := if Limited c.planner.limits k then max a (c.planner.limits.qMinDeg (armJoint k)) else a
    let hi := if Limited c.planner.limits k then min b (c.planner.limits.qMaxDeg (armJoint k)) else b
    if hi < lo then (hi, lo) else (lo, hi)
  else (start k, start k)

def sample (band : Fin kCombined → K × K) (u : Config K) : Config K := fun k =>
  (band k).1 + u k * ((band k).2 - (band k).1)

/-- The point that an iteration grows towards. -/
def Call.target (c : Call K) (start goal opposite : Config K) (d : Draw K) : Config K :=
  let cfg := c.planner.cfg
  if d.r < cfg.goalBias then opposite
  else if d.r < cfg.goalBias + cfg.globalSampleFraction then
    sample (c.band start goal cfg.globalSampleMarginDeg) d.u
  else sample (fun k => c.band start goal (bandMargin cfg k) k) d.u

/-- One iteration on the tree that grows and the tree that connects: whether they have met. -/
def Call.grow (c : Call K) (fuel : ℕ) (start goal : Config K) (d : Draw K) (ti tj : RrtTree K) :
    Option (Bool × RrtTree K × RrtTree K) :=
  match tj.nodes.head? with
  | none => some (false, ti, tj) -- no tree is empty
  | some front =>
    match extend sqrt (c.oracle sqrt) ti (c.target start goal front.q d) c.stepDeg with
    | (.trapped, ti) => some (false, ti, tj)
    | (_, ti) =>
      match ti.nodes.getLast? with
      | none => some (false, ti, tj)
      | some back =>
        match connect sqrt (c.oracle sqrt) c.stepDeg back.q fuel tj with
        | some (e, tj) => some (e = .reached, ti, tj)
        | none => none

/-- Both paths validated, the second only when the first is. -/
def validateBoth (o : Oracle K) (a b : RrtTree K) : Bool × RrtTree K × RrtTree K :=
  let va := validatePathToRoot o a (a.nodes.length - 1)
  if va.1 then
    let vb := validatePathToRoot o b (b.nodes.length - 1)
    (vb.1, va.2, vb.2)
  else (false, va.2, b)

/-- The trees in turn: even iterations grow the start's. -/
def Call.iterate (c : Call K) (fuel : ℕ) (start goal : Config K) (iter : ℕ) (d : Draw K) (a b : RrtTree K) :
    Option (Bool × RrtTree K × RrtTree K) :=
  let met :=
    if iter % 2 = 0 then c.grow sqrt fuel start goal d a b
    else (c.grow sqrt fuel start goal d b a).map fun r => (r.1, r.2.2, r.2.1)
  match met with
  | some (true, a, b) => some (validateBoth (c.oracle sqrt) a b)
  | _ => met

/-- The loop from iteration `iter` on: whether and when the trees are connected. -/
def Call.search (c : Call K) (fuel : ℕ) (start goal : Config K) : ℕ → List (Draw K) → RrtTree K → RrtTree K →
    Option (Bool × ℕ × RrtTree K × RrtTree K)
  | iter, [], a, b => some (false, iter, a, b)
  | iter, d :: draws, a, b =>
    if d.late then some (false, iter, a, b)
    else
      match c.iterate sqrt fuel start goal iter d a b with
      | none => none
      | some (true, a, b) => some (true, iter, a, b)
      | some (false, a, b) => c.search fuel start goal (iter + 1) draws a b

/-- The straight edge, or the path through both trees. -/
def Call.rawPath (c : Call K) (ch : Chance K) (fuel : ℕ) (start goal : Config K) : Option (Search K) :=
  if c.edge sqrt start goal then some ⟨some [start, goal], 0, 0, 0⟩
  else
    match c.search sqrt fuel start goal 0 ((List.range c.planner.cfg.maxIterations).map ch.draws) (RrtTree.reset start)
      (RrtTree.reset goal) with
    | none => none
    | some (connected, iterations, a, b) =>
      let raw := rootPath a (a.nodes.length - 1) ++ (rootPath b (b.nodes.length - 1)).reverse.tail
      some ⟨if connected then some raw else none, iterations, a.nodes.length, b.nodes.length⟩

/-! ## The path -/

/-- One pass of `shortcut`, with its two draws. -/
def shortcutPass (edge : Config K → Config K → Bool) (path : List (Config K)) (u : K × K) : List (Config K) :=
  if path.length ≤ 2 then path
  else
    let x := ⌊u.1 * (path.length - 1 : ℕ)⌋₊
    let y := ⌊u.2 * (path.length - 1 : ℕ)⌋₊
    let i := min x y
    let j := max x y
    if j - i < 2 then path
    else
      match path[i]?, path[j]? with
      | some a, some b => if edge a b then path.take (i + 1) ++ path.drop j else path
      | _, _ => path

def Call.shortcut (c : Call K) (ch : Chance K) (path : List (Config K)) : List (Config K) :=
  ((List.range c.planner.cfg.shortcutPasses).map ch.shortcuts).foldl (shortcutPass (c.edge sqrt)) path

def failed (mode : FailMode) : InitMotionPlanResult K := ⟨false, mode, [], 0, 0, 0, 0⟩

/-- From the escape and the search to the waypoints. -/
def Call.finish (c : Call K) (ch : Chance K) (escape : List (Config K)) (s : Search K) : InitMotionPlanResult K :=
  match s.raw with
  | none =>
    { failed .rrtBudget with
      iterations := s.iterations, treeStartSize := s.treeStartSize, treeGoalSize := s.treeGoalSize }
  | some raw =>
    let short := c.shortcut sqrt ch raw
    if pathEdgesClear (c.edge sqrt) short then
      let path := if escape.isEmpty then short else escape ++ short.tail
      { success := true
        failMode := .none
        waypoints := (densify c.planner.cfg.maxSegmentDeg path).map split
        escapeWaypoints := (densify c.planner.cfg.maxSegmentDeg escape).length
        iterations := s.iterations
        treeStartSize := s.treeStartSize
        treeGoalSize := s.treeGoalSize }
    else
      { failed .rrtBudget with
        iterations := s.iterations, treeStartSize := s.treeStartSize, treeGoalSize := s.treeGoalSize }

/-- The plan once its thresholds are relaxed. -/
def Call.plan (c : Call K) (ch : Chance K) (fuel : ℕ) (start goal : Config K) : Option (InitMotionPlanResult K) :=
  if !c.isClear goal then some (failed .goalNotClear)
  else if maxActiveAbsDiff start goal c.active ≤ max 0 c.planner.cfg.noopTolDeg then
    some { (failed .none : InitMotionPlanResult K) with success := true, waypoints := [split start] }
  else if c.clear start then (c.rawPath sqrt ch fuel start goal).map (c.finish sqrt ch [])
  else
    let escape := c.escape sqrt ch start
    match escape.getLast? with
    | none => some (failed .escapeFailed)
    | some rrtStart =>
      if escape.length < 2 ∨ c.clear rrtStart = false then some (failed .escapeFailed)
      else (c.rawPath sqrt ch fuel rrtStart goal).map (c.finish sqrt ch escape)

/-- The goal of both arms: an arm that does not move stays at its start. -/
def branchGoals (p : Planner K) (leftActive rightActive : Bool) (startLeft startRight goalLeft goalRight : Joints K) :
    Config K :=
  join (branchGoal p leftActive startLeft goalLeft) (branchGoal p rightActive startRight goalRight)

/-- The call that moves to `goal`, its thresholds relaxed to what the goal keeps. -/
def Call.towards (p : Planner K) (leftActive rightActive : Bool) (goal : Config K) : Call K :=
  ⟨p, leftActive, rightActive, relaxed p (evalDistancesOnly p.monitor leftActive rightActive (p.pairs goal))⟩

def plan (p : Planner K) (ch : Chance K) (fuel : ℕ) (startLeft startRight : Joints K) (leftActive : Bool)
    (goalLeft : Joints K) (rightActive : Bool) (goalRight : Joints K) : Option (InitMotionPlanResult K) :=
  if leftActive = false ∧ rightActive = false then some (failed .nonFinite)
  else
    let goal := branchGoals p leftActive rightActive startLeft startRight goalLeft goalRight
    (Call.towards p leftActive rightActive goal).plan sqrt ch fuel (join startLeft startRight) goal

end

end RbServo.InitMotion
