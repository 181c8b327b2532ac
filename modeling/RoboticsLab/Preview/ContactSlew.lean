import RoboticsLab.Preview.ContactConstraint

/-!
# `control/preview_execution_worker.cpp`: the slew of the contact authority

`slewContactAuthority` opens an envelope along a profile from the dispatched closing state: a jerk for
`tau`, then another one for `tau`, landing on the scaled nominal path or, without one, on the envelope.
The new knots are those of the envelope, the end of the profile, and the crossings of the two; each
takes the larger ceiling and the lower floor, with a headroom for the chords between the knots.
-/

namespace RbServo

open Clamp Quadratic PreviewContactConstraint

/-! ## The profile -/

structure SlewProfile (K : Type*) where
  v0 : K
  a0 : K
  tau : K
  j1 : K
  j2 : K
deriving DecidableEq

section Slew

variable {K G : Type*} [Field K] [LinearOrder K] [FloorSemiring K] [Group G] (sp : MotionSpace K G)

namespace SlewProfile

variable (s : SlewProfile K)

/-- `T`. -/
def stop : K := 2 * s.tau

/-- The lambda `profile`: the velocity and `jerk_at`. -/
def profile (t : K) : K × K :=
  if t ≤ s.tau then (quad s.v0 s.a0 s.j1 t, s.j1)
  else (quad (quad s.v0 s.a0 s.j1 s.tau) (slopeAt s.a0 s.j1 s.tau) s.j2 (t - s.tau), s.j2)

variable (h : K)

/-- `slew_ceiling`; `none` is `-∞`. -/
def slewCeiling (t : K) : Option K :=
  if s.stop + 1 / 10 ^ 12 < t then none
  else some (max (s.profile (min t s.stop)).1 0 + |(s.profile (min t s.stop)).2| * h * h / 4)

def slewFloor (t : K) : Extended K :=
  if s.stop + 1 / 10 ^ 12 < t then .posInf
  else .fin ((s.profile (min t s.stop)).1 - |(s.profile (min t s.stop)).2| * h * h / 4)

end SlewProfile

/-! ## The choice of a profile -/

/-- The lambda `slope_of`. -/
def slopeOf (aMax h horizon : K) (f : K → Extended K) (t : K) : K :=
  let next := min (t + h) horizon
  if t < next then
    match f next, f t with
    | .fin y, .fin x => clamp ((y - x) / (next - t)) (-aMax) aMax
    | _, _ => 0
  else 0

/-- The arguments of the call. -/
structure SlewCall (K G : Type*) where
  contact : Envelope K
  v0 : K
  a0 : K
  tracker : PreviewTrackerConfig K
  servoPeriodSec : K
  nominalPath : Option (PreviewPolynomialTrajectory K G)
  gate : K

namespace SlewCall

variable (c : SlewCall K G)

def horizon : K := (c.contact.knots.getLast?.map Knot.timeSec).getD 0

/-- The velocity and the acceleration to land with after `T`; `none` when the path has no sample. -/
def landing (jCap T : K) : Option (K × K) :=
  match c.nominalPath with
  | some path =>
    (path.sample sp (min T c.horizon)).map fun x =>
      (c.gate * dot c.contact.normalStand x.linearVelocity, c.gate * dot c.contact.normalStand x.linearAcceleration)
  | none =>
    let freeT := c.v0 + c.a0 * T
    let envT := boundAt c.contact.knots T
    let slope := slopeOf c.tracker.maxLinearAccelerationMS2 c.servoPeriodSec c.horizon
    if envT < freeT then some (envT, slope (fun t => .fin (boundAt c.contact.knots t)) T)
    else
      match floorOf c.contact.knots T with
      | .fin floorT =>
        if freeT < floorT ∨ c.a0 < 0 ∧
            freeT - c.a0 * c.a0 / (2 * jCap) - jCap * c.servoPeriodSec * c.servoPeriodSec / 4 < floorT then
          some (min floorT envT, slope (floorOf c.contact.knots) T)
        else some (freeT, c.a0)
      | _ => some (freeT, c.a0)

/-- The two jerks that land after twice `tau`, where they and the accelerations fit. -/
def fit (jCap tau : K) (landing : K × K) : Option (SlewProfile K) :=
  let j1 := (landing.1 - c.v0 - 3 / 2 * c.a0 * tau - 1 / 2 * landing.2 * tau) / (tau * tau)
  let j2 := (landing.2 - c.a0) / tau - j1
  if |j1| ≤ jCap ∧ |j2| ≤ jCap ∧ |c.a0 + j1 * tau| ≤ c.tracker.maxLinearAccelerationMS2 ∧
      |landing.2| ≤ c.tracker.maxLinearAccelerationMS2 then some ⟨c.v0, c.a0, tau, j1, j2⟩
  else none

/-- The first profile that fits. -/
def search : List (K × ℕ) → Option (SlewProfile K)
  | [] => none
  | (jCap, m) :: rest =>
    let tau := m * c.tracker.planningDtSec
    match c.landing sp jCap (2 * tau) with
    | none => none
    | some landing =>
      match c.fit jCap tau landing with
      | some s => some s
      | none => search rest

def maxM : ℕ := max 1 ⌊c.horizon / (2 * c.tracker.planningDtSec) + 1 / 10 ^ 9⌋₊

def selectProfile : Option (SlewProfile K) :=
  c.search sp ([c.tracker.contactSlewJerkMS3, c.tracker.maxLinearJerkMS3].flatMap fun jCap =>
    (List.range c.maxM).map fun m => (jCap, m + 1))

/-! ## The new knots -/

variable (s : SlewProfile K)

/-- The times of the envelope with `T`, unless one of them is as good. -/
def mergeTimes (T : K) : Bool → List K → List K
  | _, [] => []
  | inserted, t :: rest =>
    if ¬ inserted ∧ T + 1 / 10 ^ 12 < t then T :: t :: mergeTimes T true rest
    else t :: mergeTimes T (inserted || decide (|t - T| ≤ 1 / 10 ^ 12)) rest

def floorAt (t : K) : Extended K :=
  .min (floorOf c.contact.knots t) (s.slewFloor c.servoPeriodSec t)

/-- `push`. -/
def pushed (t upper : K) (lower : Extended K) : Knot K := ⟨t, upper, .min lower (.fin upper)⟩

/-- The knot of a merged time. -/
def knotAt (t : K) : Knot K :=
  let bb := boundAt c.contact.knots t
  pushed t (match s.slewCeiling c.servoPeriodSec t with | some sb => max bb sb | none => bb) (c.floorAt s t)

/-- The time and the difference `d`, where the ceiling of the slew is finite. -/
def difference (t : K) : Option (K × K) :=
  (s.slewCeiling c.servoPeriodSec t).map fun sb => (t, sb - boundAt c.contact.knots t)

/-- The crossing before a time, if any. -/
def crossing : Option (K × K) → Option (K × K) → List (Knot K)
  | some (prevT, prevD), some (t, d) =>
    if decide (0 < prevD) ≠ decide (0 < d) ∧ prevD ≠ d then
      let tc := prevT + prevD / (prevD - d) * (t - prevT)
      if prevT < tc ∧ tc < t then [pushed tc (boundAt c.contact.knots tc) (c.floorAt s tc)] else []
    else []
  | _, _ => []

def slewKnots : Option (K × K) → List K → List (Knot K)
  | _, [] => []
  | prev, t :: rest =>
    c.crossing s prev (c.difference s t) ++ c.knotAt s t :: slewKnots (c.difference s t) rest

end SlewCall

/-- The checks of the nominal path and of a knot. -/
def tooShort (horizon : K) (path : PreviewPolynomialTrajectory K G) : Bool :=
  decide (path.count = 0 ∨ path.stepSec ≤ 0 ∨ path.count * path.stepSec + 1 / 10 ^ 9 < horizon)

def floorOrdered (k : Knot K) : Bool :=
  match k.lowerVelocityMS with
  | .negInf => true
  | .fin x => decide (x ≤ k.upperVelocityMS)
  | .posInf => false

/-- The constraint with the opened envelope, when the call returns true. -/
def slewContactAuthority (contact : Envelope K) (closingVelocityMS closingAccelerationMS2 : Option K)
    (tracker : PreviewTrackerConfig K) (servoPeriodSec : K)
    (nominalPath : Option (PreviewPolynomialTrajectory K G)) (gate : Option K) : Option (Envelope K) :=
  match closingVelocityMS, closingAccelerationMS2, gate with
  | some v0, some a0, some gate =>
    let c : SlewCall K G := ⟨contact, v0, a0, tracker, servoPeriodSec, nominalPath, gate⟩
    if tracker.maxLinearAccelerationMS2 ≤ 0 ∨ tracker.maxLinearJerkMS3 ≤ 0 ∨ tracker.contactSlewJerkMS3 ≤ 0 ∨
        tracker.maxLinearJerkMS3 < tracker.contactSlewJerkMS3 ∨ tracker.planningDtSec ≤ 0 ∨ servoPeriodSec ≤ 0 ∨
        contact.enabled = false ∨ contact.knots.length < 2 ∨
        PreviewContactConstraint.kCapacity < contact.knots.length ∨ gate < 0 ∨ 1 < gate ∨ c.horizon ≤ 0 then none
    else if nominalPath.any (tooShort c.horizon) ∨ ¬ contact.knots.all floorOrdered then none
    else
      match c.selectProfile sp with
      | none => none
      | some s =>
        let times := SlewCall.mergeTimes s.stop false (contact.knots.map Knot.timeSec)
        -- the arrays have room for so many times and knots
        if PreviewContactConstraint.kCapacity < times.length then none
        else
          let knots := c.slewKnots s none times
          if PreviewContactConstraint.kCapacity < knots.length then none else some { contact with knots }
  | _, _, _ => none

end Slew

end RbServo
