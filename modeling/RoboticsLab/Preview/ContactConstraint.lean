import RoboticsLab.Lib.Quadratic
import RoboticsLab.Preview.Plans

/-!
# `control/preview_execution_worker.cpp`: the contact authority of a preview plan

A contact constraint bounds the closing velocity of a plan along a contact normal, by a ceiling and a
floor that are linear between its knots.  `buildContactEnvelope` derives them from the Bernstein
controls of a nominal path on the servo grid; `slewContactAuthority` opens them near the splice, along
a profile of two constant jerks.  Arithmetic is exact; an argument that is not finite is `none`.
-/

namespace RbServo

open Clamp Quadratic

/-! ## Data -/

/-- A `double` that is finite or an infinity. -/
inductive Extended (K : Type*)
  | negInf
  | fin (x : K)
  | posInf
deriving DecidableEq

namespace Extended

variable {K : Type*} [LinearOrder K]

def lt : Extended K → Extended K → Bool
  | negInf, negInf => false
  | negInf, _ => true
  | fin x, fin y => decide (x < y)
  | fin _, posInf => true
  | _, _ => false

/-- `std::min`. -/
def min (a b : Extended K) : Extended K := if lt b a then b else a

def isFinite : Extended K → Bool
  | fin _ => true
  | _ => false

end Extended

namespace PreviewContactConstraint

/-- The lower velocity is `-∞` where the authority has no floor. -/
structure Knot (K : Type*) where
  timeSec : K
  upperVelocityMS : K
  lowerVelocityMS : Extended K
deriving DecidableEq

def kCapacity : ℕ := 384

/-- The constraint with its knots, the first `count` ones. -/
structure Envelope (K : Type*) extends PreviewContactConstraint K where
  knots : List (Knot K)

end PreviewContactConstraint

open PreviewContactConstraint

/-- The fields of the tracker's configuration that the slew and the brake read. -/
structure PreviewTrackerConfig (K : Type*) where
  planningDtSec : K
  maxLinearVelocityMS : K
  maxLinearAccelerationMS2 : K
  maxLinearJerkMS3 : K
  contactSlewJerkMS3 : K
  maxAngularVelocityRadS : K
  maxAngularAccelerationRadS2 : K
  maxAngularJerkRadS3 : K
  maxReferenceChartAngleRad : K
  feasibilityTolerance : K

section Authority

variable {K G : Type*} [Field K] [LinearOrder K] [FloorSemiring K] [Group G] (sp : MotionSpace K G)

/-! ## The envelope of a nominal path -/

/-- The knots built so far: the last one, which the next interval may still widen, and the older
ones, newest first. -/
structure Built (K : Type*) where
  last : Knot K
  older : List (Knot K)

def Built.knots (b : Built K) : List (Knot K) := (b.last :: b.older).reverse

/-- Ceiling and floor of one servo interval of length `dt`, from its Bernstein controls. -/
def intervalBounds (gate slack v accel jerk dt : K) : K × K :=
  let c0 := v
  let c1 := v + 1 / 2 * dt * accel
  let c2 := v + dt * accel + 1 / 2 * dt * dt * jerk
  let hi := max (max c0 c1) c2
  let lo := min (min c0 c1) c2
  (gate * max 0 hi, min (gate * lo) lo - slack)

/-- The knot with a ceiling and a floor that also cover `bounds`. -/
def widen (bounds : K × K) (k : Knot K) : Knot K :=
  ⟨k.timeSec, max k.upperVelocityMS bounds.1, .min k.lowerVelocityMS (.fin bounds.2)⟩

/-- Close the interval that ends in `time`: both of its knots cover it. -/
def Built.close (b : Built K) (time : K) (bounds : K × K) : Built K :=
  ⟨⟨time, bounds.1, .fin bounds.2⟩, widen bounds b.last :: b.older⟩

/-- The inner loop of `segment` from time `a` to `stop`; `room` is the number of knots that still fit. -/
def fillSegment (n : Vec3 K) (path : PreviewPolynomialTrajectory K G) (gate period slack : K)
    (segment : ℕ) (stop : K) : ℕ → K → Built K → Option (ℕ × Built K)
  | 0, a, b => if a < stop then none else some (0, b)
  | room + 1, a, b =>
    if a < stop then
      let next := min (a + period) stop
      if a < next then
        match path.sample sp a with
        | none => none
        | some sample =>
          let bounds := intervalBounds gate slack (dot n sample.linearVelocity)
            (dot n sample.linearAcceleration) (dot n (path.jerk segment).linear) (next - a)
          fillSegment n path gate period slack segment stop room next (b.close next bounds)
      else none
    else some (room + 1, b)

/-- The constraint with its envelope, when the call returns true. -/
def buildContactEnvelope (contact : PreviewContactConstraint K)
    (nominalPath : PreviewPolynomialTrajectory K G) (gate : Option K) (servoPeriodSec : K)
    (retreatSlackMS : Option K) : Option (Envelope K) :=
  match gate, retreatSlackMS with
  | some gate, some slack =>
    if contact.enabled = false ∨ gate < 0 ∨ 1 < gate ∨ servoPeriodSec ≤ 0 ∨ slack < 0 ∨
        nominalPath.count = 0 ∨ nominalPath.stepSec ≤ 0 then none
    else
      match (List.range nominalPath.count).foldlM (fun (st : ℕ × Built K) segment =>
          fillSegment sp contact.normalStand nominalPath gate servoPeriodSec slack segment
            ((segment + 1 : ℕ) * nominalPath.stepSec) st.1 (segment * nominalPath.stepSec) st.2)
          (PreviewContactConstraint.kCapacity - 1, ⟨⟨0, 0, .posInf⟩, []⟩) with
      | none => none
      | some (_, built) =>
        if (built.knots.head?.map fun k => k.lowerVelocityMS.isFinite) = some true then
          some { contact with knots := built.knots }
        else none
  | _, _ => none

/-! ## Reading an envelope -/

/-- The interval of knots that `locate` finds. -/
def segmentAt : List (Knot K) → K → Option (Knot K × Knot K)
  | a :: b :: rest, t => if rest ≠ [] ∧ b.timeSec < t then segmentAt (b :: rest) t else some (a, b)
  | _, _ => none

/-- `std::clamp((t - a) / (b - a), 0, 1)`. -/
def fraction (a b : Knot K) (t : K) : K :=
  clamp ((t - a.timeSec) / (b.timeSec - a.timeSec)) 0 1

/-- The lambda `bound`; at fewer than two knots the callers have returned. -/
def boundAt (knots : List (Knot K)) (t : K) : K :=
  match segmentAt knots t with
  | some (a, b) => chord a.upperVelocityMS b.upperVelocityMS (fraction a b t)
  | none => 0

/-- The lambda `floor_of`. -/
def floorOf (knots : List (Knot K)) (t : K) : Extended K :=
  match segmentAt knots t with
  | some (a, b) =>
    match a.lowerVelocityMS, b.lowerVelocityMS with
    | .fin x, .fin y => .fin (chord x y (fraction a b t))
    | _, _ => .negInf
  | none => .negInf

end Authority

end RbServo
