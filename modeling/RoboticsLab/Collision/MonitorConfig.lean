import Mathlib.Order.Lattice
import Mathlib.Algebra.Group.Defs

/-!
# `CollisionMonitorConfig`: one set of barrier parameters for each class of pairs

`curatePairs` gives every collision pair one category, and each category has a hard floor, a slow band
above it, a braking rate, a release hysteresis and a recovery speed of its own.  A pair of an arm and the
stand takes what is not set for it from the self class.
-/

namespace RbServo.Collision

inductive PairCategory
  | leftRight
  | armStand
  | intraArm
  | external
  | externalBox
  | gripperGripper
  | environment
deriving DecidableEq

/-- A collision pair: its category, and the arms that it touches. -/
structure Pair where
  category : PairCategory
  left : Bool
  right : Bool

/-- The barrier parameters of one class. -/
structure BarrierSet (K : Type*) where
  dHardM : K
  dSlowM : K
  aBrakeMS2 : K
  hystM : K
  recoverSpeedMS : K

structure MonitorConfig (K : Type*) where
  self : BarrierSet K
  external : BarrierSet K
  externalBox : BarrierSet K
  intraArm : BarrierSet K
  gripperGripper : BarrierSet K
  environment : BarrierSet K
  armStand : BarrierSet K
  gripperGripperCoveredDHardM : K
  /-- Boxes are only reported. -/
  monitorOnly : Bool
  maxNearPairs : ℕ

section

variable {K : Type*} [Zero K] [LinearOrder K]

def armStandOr (value selfValue : K) : K := if 0 < value then value else selfValue

def armStandRecoverOr (value selfValue : K) : K := if 0 ≤ value then value else selfValue

/-- The parameters that the barrier enforces a class with. -/
def MonitorConfig.barrier (cfg : MonitorConfig K) : PairCategory → BarrierSet K
  | .externalBox => cfg.externalBox
  | .external => cfg.external
  | .intraArm => cfg.intraArm
  | .gripperGripper => cfg.gripperGripper
  | .environment => cfg.environment
  | .armStand =>
    { dHardM := armStandOr cfg.armStand.dHardM cfg.self.dHardM
      dSlowM := armStandOr cfg.armStand.dSlowM cfg.self.dSlowM
      aBrakeMS2 := armStandOr cfg.armStand.aBrakeMS2 cfg.self.aBrakeMS2
      hystM := armStandOr cfg.armStand.hystM cfg.self.hystM
      recoverSpeedMS := armStandRecoverOr cfg.armStand.recoverSpeedMS cfg.self.recoverSpeedMS }
  | .leftRight => cfg.self

def nearPairHardFloorM (cfg : MonitorConfig K) (c : PairCategory) : K := (cfg.barrier c).dHardM

def nearPairSlowBandM (cfg : MonitorConfig K) (c : PairCategory) : K := (cfg.barrier c).dSlowM

/-- A box that is only reported. -/
def onlyReported (cfg : MonitorConfig K) (c : PairCategory) : Bool := c = .externalBox && cfg.monitorOnly

end

end RbServo.Collision
