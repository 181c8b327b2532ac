import RoboticsLab.Chunk.SegmentCore
import RoboticsLab.Lib.Gauge
import Mathlib.Algebra.BigOperators.Group.List.Basic

/-!
# `control/chunk_window.cpp`: the window over one chunk of waypoints

`activate` smooths the frame, drops its head and bounds the number of steps to consume; a frame that
leaves no step with a reserve is refused.  A pose is a position and a rotation of an abstract group
`G`; the rotation logarithm, the exponentials and the square root are parameters (`RigidSpace`).
-/

namespace RbServo

/-- `Pose6D`: a stand position and a rotation. -/
abbrev StandPose (K G : Type*) := Gauge.Pose (Vec3 K) G

/-- The geometry the follower uses from `math/se3.cpp` and from Pinocchio. -/
structure RigidSpace (K G : Type*) where
  sqrt : K → K
  exp3 : Vec3 K → G
  log3 : G → Vec3 K
  /-- `pinocchio::exp6` of a body motion. -/
  exp6 : Vec6 K → StandPose K G
  /-- `R * v`. -/
  rotate : G → Vec3 K → Vec3 K
  bodyAngularDerivatives : Vec3 K → Vec3 K → Vec3 K → Vec3 K × Vec3 K

section Geometry

variable {K G : Type*} [Field K] [LinearOrder K] [Group G] (sp : RigidSpace K G)

def dot (u v : Vec3 K) : K := u 0 * v 0 + u 1 * v 1 + u 2 * v 2

def RigidSpace.norm (v : Vec3 K) : K := sp.sqrt (dot v v)

/-- `math::composeDeltaLocal`. -/
def RigidSpace.composeDeltaLocal (x : StandPose K G) (d : Vec6 K) : StandPose K G :=
  let e := sp.exp6 d
  ⟨x.position + sp.rotate x.rotation e.position, x.rotation * e.rotation⟩

/-- `math::positionDistance`. -/
def RigidSpace.positionDistance (x y : StandPose K G) : K := sp.norm (y.position - x.position)

/-- `math::orientationDistanceRad`. -/
def RigidSpace.orientationDistanceRad (x y : StandPose K G) : K :=
  sp.norm (sp.log3 (x.rotation⁻¹ * y.rotation))

end Geometry

/-! ## Data -/

structure ChunkFrame (K G : Type*) where
  pose : List (StandPose K G)
  grip : List K
  delta : List (Vec6 K)
  policyDt : K
  wireSeq : ℕ
  recvSeq : ℕ
  recvTime : K

structure ChunkWindowConfig where
  discardHeadL : ℤ
  consumeC : ℤ
  reserveR : ℤ
  smoothingWindow : ℤ

structure ChunkWindow (K G : Type*) where
  cfg : ChunkWindowConfig
  pose : List (StandPose K G)
  grip : List K
  dt : K
  wireSeq : ℕ
  recvSeq : ℕ
  recv : K
  k : ℕ
  consumed : ℤ
  consumeEff : ℤ
  active : Bool

variable {K G : Type*} [Field K] [LinearOrder K] [Group G]

/-- `std::clamp(static_cast<int>(k) + off, 0, n - 1)`. -/
def flankIndex (k : ℕ) (off : ℤ) (n : ℕ) : ℕ := (Clamp.clamp ((k : ℤ) + off) 0 ((n : ℤ) - 1)).toNat

/-! ## Smoothing -/

/-- The offsets `-half, ..., half`. -/
def smoothingOffsets (half : ℕ) : List ℤ := (List.range (2 * half + 1)).map fun j => (j : ℤ) - half

/-- The waypoint of a frame; the default stands for an index past an empty frame. -/
def waypoint (src : List (StandPose K G)) (i : ℕ) : StandPose K G := src.getD i ⟨0, 1⟩

def smoothOrientation (sp : RigidSpace K G) (src : List (StandPose K G)) (center half : ℕ) : G :=
  let ref := (waypoint src center).rotation
  let offs := smoothingOffsets half
  let acc := (offs.map fun off =>
    sp.log3 (ref⁻¹ * (waypoint src (flankIndex center off src.length)).rotation)).sum
  ref * sp.exp3 fun i => acc i / (offs.length : K)

def smoothPosition (src : List (StandPose K G)) (center half : ℕ) : Vec3 K :=
  let offs := smoothingOffsets half
  let acc := (offs.map fun off => (waypoint src (flankIndex center off src.length)).position).sum
  fun i => acc i / (offs.length : K)

def smooth (sp : RigidSpace K G) (smoothingWindow : ℤ) (src : List (StandPose K G)) :
    List (StandPose K G) :=
  let half := (max 0 ((smoothingWindow - 1) / 2)).toNat
  if 0 < half ∧ 3 ≤ src.length then
    (List.range src.length).map fun i => ⟨smoothPosition src i half, smoothOrientation sp src i half⟩
  else src

namespace ChunkWindow

/-! ## Activation -/

def create (cfg : ChunkWindowConfig) : ChunkWindow K G where
  cfg := cfg
  pose := []
  grip := []
  dt := 1 / 30
  wireSeq := 0
  recvSeq := 0
  recv := 0
  k := 0
  consumed := 0
  consumeEff := 0
  active := false

/-- The consume count of a frame of `n` waypoints, clamped to `L + C + R ≤ n`. -/
def consumeRoom (cfg : ChunkWindowConfig) (n : ℕ) : ℤ :=
  min cfg.consumeC ((n : ℤ) - max 0 cfg.discardHeadL - max 1 cfg.reserveR)

/-- `grip.resize(n, last)`. -/
def resizeGrip (grip : List K) (n : ℕ) : List K :=
  grip.take n ++ List.replicate (n - grip.length) (grip.getLastD 0)

/-- The window after the call, and whether the frame was accepted. -/
def activate (sp : RigidSpace K G) (w : ChunkWindow K G) (frame : ChunkFrame K G) :
    ChunkWindow K G × Bool :=
  let n := frame.pose.length
  let cEff := consumeRoom w.cfg n
  if cEff < 1 then ({ w with active := false }, false)
  else
    ({ w with
        pose := smooth sp w.cfg.smoothingWindow frame.pose
        grip := resizeGrip frame.grip n
        dt := if 1 / 10 ^ 6 < frame.policyDt then frame.policyDt else 1 / 30
        wireSeq := frame.wireSeq
        recvSeq := frame.recvSeq
        recv := frame.recvTime
        k := (max 0 w.cfg.discardHeadL).toNat
        consumed := 0
        consumeEff := cEff
        active := true },
      true)

def deactivate (w : ChunkWindow K G) : ChunkWindow K G := { w with active := false }

/-! ## Consumption -/

def hasTailStep (w : ChunkWindow K G) : Bool := w.active && w.k < w.pose.length

def advance (w : ChunkWindow K G) : ChunkWindow K G := { w with k := w.k + 1, consumed := w.consumed + 1 }

def poseAt (w : ChunkWindow K G) (k : ℕ) : StandPose K G := waypoint w.pose (min k (w.pose.length - 1))

def gripAt (w : ChunkWindow K G) (k : ℕ) : K := w.grip.getD (min k (w.grip.length - 1)) 0

end ChunkWindow

end RbServo
