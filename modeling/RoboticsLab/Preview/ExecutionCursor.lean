import RoboticsLab.Lib.Clamp
import Mathlib.Data.Matrix.Mul
import Mathlib.Data.List.FinRange

/-!
# `rb_servo/control/preview_execution_cursor.hpp`: the preview execution cursor

The cursor chooses which reference time the output optimizer follows.  It estimates how far the
output is behind the reference, slows down by the divergence leash and catches up on the backlog
`wall - time`.  A `double` that may be a NaN or an infinity is a `Reading`, `none` when it is not
finite; past the checks the arithmetic is exact, over an ordered field `K`.  The square root and the
two projections of a pose are parameters (`PoseSpace`).

    create c leash = .ok s₀ → (s₀.run ops).active →
      time ≤ wall ∧ wall - time ≤ maxBacklogSec, and what every step from there does
                                                                        (run_cursor_bounded)
-/

namespace RbServo

open Clamp

/-- A `double`: `none` is a NaN or an infinity. -/
abbrev Reading (K : Type*) := Option K

/-- `Eigen::Vector3d`. -/
abbrev Vec3 (K : Type*) := Fin 3 → K

/-! ## Data -/

structure PreviewExecutionCursorConfig (R : Type*) where
  maxBacklogSec : R
  catchupTimeSec : R
  maxRate : R
  translationVelocityFloor : R
  angularVelocityFloor : R
  phaseLookaheadSec : R

structure PlanLeashParams (R : Type*) where
  startM : R
  startRad : R
  fullM : R
  fullRad : R
  minGate : R

/-- A stand linear part and a body angular part. -/
structure Vec6 (K : Type*) where
  linear : Vec3 K
  angular : Vec3 K

structure FollowerOutputKinematics (P K : Type*) where
  pose : P
  velocity : Vec6 K
  acceleration : Vec6 K

/-- Kinematics as they arrive: a part with a component that is not finite is `none`. -/
structure KinematicsReading (P K : Type*) where
  pose : Option P
  velocity : Option (Vec6 K)
  acceleration : Option (Vec6 K)

def kCapacity : ℕ := 5

structure PreviewExecutionPhaseWindow (P K : Type*) where
  relativeTimeSec : Fin kCapacity → Reading K
  reference : Fin kCapacity → KinematicsReading P K
  output : Fin kCapacity → KinematicsReading P K
  count : ℕ

inductive PreviewExecutionCursorStatus
  | ready
  | inactive
  | invalidInput
  | backlogExceeded
deriving DecidableEq

structure PreviewExecutionCursorStep (K : Type*) [Zero K] [One K] where
  valid : Bool := false
  status : PreviewExecutionCursorStatus := .inactive
  timeSec : K := 0
  rate : K := 1
  backlogSec : K := 0
  gate : K := 1
  positiveLagM : K := 0
  positiveLagRad : K := 0
  crossTrackM : K := 0
  crossTrackRad : K := 0
  phaseWindowUsed : Bool := false
  phaseWindowSec : K := 0

/-- What the cursor reads of a pose: its position, and the body rotation by which an output lags a
reference, `-log3(R_ref^T * R_out)`. -/
structure PoseSpace (P K : Type*) where
  sqrt : K → K
  position : P → Vec3 K
  rotationLag : P → P → Vec3 K

/-- The checks of the constructor past finiteness. -/
structure CursorParamsValid {K : Type*} [Zero K] [One K] [LT K] [LE K]
    (c : PreviewExecutionCursorConfig K) (l : PlanLeashParams K) : Prop where
  positive : ∀ v ∈ [c.maxBacklogSec, c.catchupTimeSec, c.maxRate, c.translationVelocityFloor,
    c.angularVelocityFloor, l.startM, l.startRad, l.fullM, l.fullRad, l.minGate], 0 < v
  lookahead : 0 ≤ c.phaseLookaheadSec ∧ c.phaseLookaheadSec ≤ c.maxBacklogSec
  range : 1 ≤ c.maxRate ∧ l.startM < l.fullM ∧ l.startRad < l.fullRad ∧ l.minGate ≤ 1

structure PreviewExecutionCursor (K : Type*) [Zero K] [One K] [LT K] [LE K] where
  cfg : PreviewExecutionCursorConfig K
  leash : PlanLeashParams K
  paramsValid : CursorParamsValid cfg leash
  time : K := 0
  wall : K := 0
  active : Bool := false

section Cursor

variable {P K : Type*} [Field K] [LinearOrder K]

/-! ## Construction -/

/-- The ten parameters the constructor wants finite and positive; `lookahead` is checked apart. -/
def PreviewExecutionCursorConfig.finite (c : PreviewExecutionCursorConfig (Reading K)) (lookahead : K) :
    Option (PreviewExecutionCursorConfig K) := do
  return ⟨← c.maxBacklogSec, ← c.catchupTimeSec, ← c.maxRate, ← c.translationVelocityFloor,
    ← c.angularVelocityFloor, lookahead⟩

def PlanLeashParams.finite (l : PlanLeashParams (Reading K)) : Option (PlanLeashParams K) := do
  return ⟨← l.startM, ← l.startRad, ← l.fullM, ← l.fullRad, ← l.minGate⟩

/-- The constructor; an error is the text it throws. -/
def PreviewExecutionCursor.create (c : PreviewExecutionCursorConfig (Reading K))
    (leash : PlanLeashParams (Reading K)) : Except String (PreviewExecutionCursor K) :=
  let lookahead := c.phaseLookaheadSec.getD 0
  match c.finite lookahead, leash.finite with
  | some cf, some l =>
    if hp : ∀ v ∈ [cf.maxBacklogSec, cf.catchupTimeSec, cf.maxRate, cf.translationVelocityFloor,
        cf.angularVelocityFloor, l.startM, l.startRad, l.fullM, l.fullRad, l.minGate], 0 < v then
      if hl : c.phaseLookaheadSec.isSome ∧ 0 ≤ cf.phaseLookaheadSec ∧
          cf.phaseLookaheadSec ≤ cf.maxBacklogSec then
        if hr : 1 ≤ cf.maxRate ∧ l.startM < l.fullM ∧ l.startRad < l.fullRad ∧ l.minGate ≤ 1 then
          .ok ⟨cf, l, ⟨hp, hl.2, hr⟩, 0, 0, false⟩
        else .error "invalid execution cursor range"
      else .error "invalid execution cursor lookahead"
    else .error "explicit positive execution cursor parameters required"
  | _, _ => .error "explicit positive execution cursor parameters required"

namespace PreviewExecutionCursor

/-- `reset` throws on an epoch that is not finite, and then changes nothing. -/
def reset (s : PreviewExecutionCursor K) : Reading K → PreviewExecutionCursor K
  | some now => { s with time := now, wall := now, active := true }
  | none => s

def clear (s : PreviewExecutionCursor K) : PreviewExecutionCursor K := { s with active := false }

end PreviewExecutionCursor

/-! ## The leash and the lag estimates -/

/-- The lambda `ramp` of `planLeashGate`. -/
def leashRamp (err start full : K) : K :=
  if start < full then clamp (1 - (err - start) / (full - start)) 0 1
  else if start < err then 0 else 1

def planLeashGate (posErrM angErrRad : K) (p : PlanLeashParams K) : K :=
  max (clamp p.minGate 0 1)
    (min (leashRamp posErrM p.startM p.fullM) (leashRamp angErrRad p.startRad p.fullRad))

def finitePreviewState (s : KinematicsReading P K) : Option (FollowerOutputKinematics P K) :=
  match s.pose, s.velocity, s.acceleration with
  | some p, some v, some a => some ⟨p, v, a⟩
  | _, _, _ => none

def PoseSpace.norm (geo : PoseSpace P K) (v : Vec3 K) : K := geo.sqrt (v ⬝ᵥ v)

/-- The part of `err` along `vel`, and the length of the rest; below `floor` there is no direction. -/
def alongCross (geo : PoseSpace P K) (floor : K) (err vel : Vec3 K) : K × K :=
  let speed := geo.norm vel
  if floor ≤ speed then
    let along := err ⬝ᵥ vel / speed
    (along, geo.norm (err - (along / speed) • vel))
  else (0, geo.norm err)

/-- The single-sample lag of `previousOutput` behind `ref`. -/
def sampleLag (geo : PoseSpace P K) (c : PreviewExecutionCursorConfig K)
    (ref : FollowerOutputKinematics P K) (previousOutput : P) (out : PreviewExecutionCursorStep K) :
    PreviewExecutionCursorStep K :=
  let ep := geo.position ref.pose - geo.position previousOutput
  let er := geo.rotationLag ref.pose previousOutput
  let lin := alongCross geo c.translationVelocityFloor ep ref.velocity.linear
  let ang := alongCross geo c.angularVelocityFloor er ref.velocity.angular
  { out with
    positiveLagM := max 0 lin.1
    positiveLagRad := max 0 ang.1
    crossTrackM := lin.2
    crossTrackRad := ang.2 }

/-- The accumulators of the loop over the phase window. -/
structure PhaseIntegral (K : Type*) [Zero K] where
  projectedM : K := 0
  projectedRad : K := 0
  pathM : K := 0
  pathRad : K := 0
  priorProjectionM : K := 0
  priorProjectionRad : K := 0
  priorSpeed : K := 0
  priorOmega : K := 0
  priorTime : K := 0

/-- One iteration; `first` is `k == 0`. -/
def PhaseIntegral.add (geo : PoseSpace P K) (s : PhaseIntegral K) (first : Bool) (t : K)
    (r y : FollowerOutputKinematics P K) : PhaseIntegral K :=
  let delta := geo.position r.pose - geo.position y.pose
  let rotationDelta := geo.rotationLag r.pose y.pose
  let projectionM := delta ⬝ᵥ r.velocity.linear
  let projectionRad := rotationDelta ⬝ᵥ r.velocity.angular
  let speed := geo.norm r.velocity.linear
  let angularSpeed := geo.norm r.velocity.angular
  let halfDt := if first then 0 else 1 / 2 * (t - s.priorTime)
  { projectedM := s.projectedM + halfDt * (s.priorProjectionM + projectionM)
    projectedRad := s.projectedRad + halfDt * (s.priorProjectionRad + projectionRad)
    pathM := s.pathM + halfDt * (s.priorSpeed + speed)
    pathRad := s.pathRad + halfDt * (s.priorOmega + angularSpeed)
    priorProjectionM := projectionM
    priorProjectionRad := projectionRad
    priorSpeed := speed
    priorOmega := angularSpeed
    priorTime := t }

/-- The loop; `none` is one of its returns, which leave the output as it is. -/
def phaseLoop (geo : PoseSpace P K) (lookahead : K) :
    Bool → PhaseIntegral K → List (Reading K × KinematicsReading P K × KinematicsReading P K) →
      Option (PhaseIntegral K)
  | _, s, [] => some s
  | first, s, (t, r, y) :: rest =>
    match t, finitePreviewState r, finitePreviewState y with
    | some t, some r, some y =>
      if t < 0 ∨ lookahead < t ∨ (first = false ∧ t ≤ s.priorTime) then none
      else phaseLoop geo lookahead false (s.add geo first t r y) rest
    | _, _, _ => none

def PreviewExecutionPhaseWindow.samples (w : PreviewExecutionPhaseWindow P K) :
    List (Reading K × KinematicsReading P K × KinematicsReading P K) :=
  ((List.finRange kCapacity).take w.count).map fun k => (w.relativeTimeSec k, w.reference k, w.output k)

/-- A lag per path length over the window, where the path is long enough to have a direction. -/
def windowLag (floor duration projected path : K) : K :=
  if 0 < path ∧ floor * duration ≤ path then max 0 (projected / path) else 0

/-- The window estimate replaces the two lags; `none` when the window is refused. -/
def phaseWindowLag (geo : PoseSpace P K) (c : PreviewExecutionCursorConfig K)
    (w : PreviewExecutionPhaseWindow P K) (out : PreviewExecutionCursorStep K) :
    Option (PreviewExecutionCursorStep K) :=
  if c.phaseLookaheadSec ≤ 0 ∨ w.relativeTimeSec ⟨0, by decide⟩ ≠ some 0 then none
  else
    match phaseLoop geo c.phaseLookaheadSec true {} w.samples with
    | none => none
    | some s =>
      if s.priorTime ≤ 0 then none
      else some { out with
        positiveLagM := windowLag c.translationVelocityFloor s.priorTime s.projectedM s.pathM
        positiveLagRad := windowLag c.angularVelocityFloor s.priorTime s.projectedRad s.pathRad
        phaseWindowUsed := true
        phaseWindowSec := s.priorTime }

/-! ## Stepping -/

namespace PreviewExecutionCursor

/-- The gate, the rate and the new time, once the lags stand in `out`. -/
def advance (s : PreviewExecutionCursor K) (now : K) (out : PreviewExecutionCursorStep K) :
    PreviewExecutionCursor K × PreviewExecutionCursorStep K :=
  let gate := planLeashGate out.positiveLagM out.positiveLagRad s.leash
  let priorBacklog := max 0 (s.wall - s.time)
  let rate := gate * clamp (1 + priorBacklog / s.cfg.catchupTimeSec) 1 s.cfg.maxRate
  let dt := now - s.wall
  let timeSec := min now (s.time + dt * rate)
  let backlogSec := now - timeSec
  let out := { out with gate := gate, rate := rate, timeSec := timeSec, backlogSec := backlogSec }
  if s.cfg.maxBacklogSec < backlogSec then (s, { out with status := .backlogExceeded })
  else ({ s with time := timeSec, wall := now }, { out with valid := true, status := .ready })

def stepImpl (geo : PoseSpace P K) (s : PreviewExecutionCursor K) (now : Reading K)
    (ref : KinematicsReading P K) (previousOutput : Option P)
    (window : Option (PreviewExecutionPhaseWindow P K)) :
    PreviewExecutionCursor K × PreviewExecutionCursorStep K :=
  if s.active = false then (s, {})
  else
    let out : PreviewExecutionCursorStep K := { timeSec := s.time, status := .invalidInput }
    match now, finitePreviewState ref, previousOutput with
    | some now, some ref, some previousOutput =>
      if now < s.wall then (s, out)
      else
        let out := sampleLag geo s.cfg ref previousOutput out
        match window with
        | none => s.advance now out
        | some w =>
          match phaseWindowLag geo s.cfg w out with
          | none => (s, out)
          | some out => s.advance now out
    | _, _, _ => (s, out)

/-- `step` on one reference sample. -/
def stepSample (geo : PoseSpace P K) (s : PreviewExecutionCursor K) (now : Reading K)
    (ref : KinematicsReading P K) (previousOutput : Option P) :
    PreviewExecutionCursor K × PreviewExecutionCursorStep K :=
  s.stepImpl geo now ref previousOutput none

/-- `step` on a phase window. -/
def stepWindow (geo : PoseSpace P K) (s : PreviewExecutionCursor K) (now : Reading K)
    (w : PreviewExecutionPhaseWindow P K) : PreviewExecutionCursor K × PreviewExecutionCursorStep K :=
  if w.count < 2 ∨ kCapacity < w.count then (s, { timeSec := s.time, status := .invalidInput })
  else s.stepImpl geo now (w.reference ⟨0, by decide⟩) (w.output ⟨0, by decide⟩).pose (some w)

end PreviewExecutionCursor

/-! ## Runs -/

/-- One call of `step`, in either form. -/
inductive CursorStepCall (P K : Type*)
  | sample (now : Reading K) (ref : KinematicsReading P K) (previousOutput : Option P)
  | window (now : Reading K) (w : PreviewExecutionPhaseWindow P K)

def CursorStepCall.now : CursorStepCall P K → Reading K
  | .sample now _ _ => now
  | .window now _ => now

inductive CursorOp (P K : Type*)
  | reset (now : Reading K)
  | clear
  | step (call : CursorStepCall P K)

namespace PreviewExecutionCursor

def step (geo : PoseSpace P K) (s : PreviewExecutionCursor K) :
    CursorStepCall P K → PreviewExecutionCursor K × PreviewExecutionCursorStep K
  | .sample now ref previousOutput => s.stepSample geo now ref previousOutput
  | .window now w => s.stepWindow geo now w

def apply (geo : PoseSpace P K) (s : PreviewExecutionCursor K) :
    CursorOp P K → PreviewExecutionCursor K
  | .reset now => s.reset now
  | .clear => s.clear
  | .step call => (s.step geo call).1

def run (geo : PoseSpace P K) (s : PreviewExecutionCursor K) (ops : List (CursorOp P K)) :
    PreviewExecutionCursor K :=
  ops.foldl (apply geo) s

end PreviewExecutionCursor

/-! ## What a step does -/

theorem phaseWindowLag_valid {geo : PoseSpace P K} {c : PreviewExecutionCursorConfig K}
    {w : PreviewExecutionPhaseWindow P K} {out out' : PreviewExecutionCursorStep K}
    (h : phaseWindowLag geo c w out = some out') : out'.valid = out.valid := by
  unfold phaseWindowLag at h
  split at h
  · simp at h
  · split at h
    · simp at h
    · split at h
      · simp at h
      · obtain rfl := Option.some.inj h
        rfl

namespace PreviewExecutionCursor

/-- What a cursor of the class keeps while it is active. -/
def Bounded (s : PreviewExecutionCursor K) : Prop :=
  s.active → s.time ≤ s.wall ∧ s.wall - s.time ≤ s.cfg.maxBacklogSec

/-- What a `step` called at `now` does to the cursor and returns. -/
structure StepSpec (s : PreviewExecutionCursor K) (now : Reading K)
    (r : PreviewExecutionCursor K × PreviewExecutionCursorStep K) : Prop where
  params : r.1.cfg = s.cfg ∧ r.1.leash = s.leash
  refused : r.2.valid = false → r.1.time = s.time ∧ r.1.wall = s.wall ∧ r.1.active = s.active
  advanced : r.2.valid = true → s.active = true ∧ r.1.active = true ∧ r.1.time = r.2.timeSec ∧
    now = some r.1.wall ∧ s.wall ≤ r.1.wall ∧ s.time ≤ r.2.timeSec ∧ r.2.timeSec ≤ r.1.wall ∧
    r.2.backlogSec = r.1.wall - r.1.time ∧ r.2.backlogSec ≤ s.cfg.maxBacklogSec
  rate : r.2.valid = true → s.leash.minGate ≤ r.2.rate ∧ r.2.rate ≤ s.cfg.maxRate
  caughtUp : r.2.valid = true → r.2.gate = 1 → r.1.wall - r.1.time ≤ s.wall - s.time

theorem minGate_pos (s : PreviewExecutionCursor K) : 0 < s.leash.minGate :=
  s.paramsValid.positive _ (by simp)

/-- The catch-up factor is at least one. -/
theorem catchup_mem (s : PreviewExecutionCursor K) (b : K) :
    1 ≤ clamp b 1 s.cfg.maxRate ∧ clamp b 1 s.cfg.maxRate ≤ s.cfg.maxRate :=
  ⟨le_clamp s.paramsValid.range.1, clamp_le s.paramsValid.range.1⟩

/-- A refusal that leaves the cursor as it is. -/
theorem StepSpec.of_refused (s : PreviewExecutionCursor K) (now : Reading K)
    {out : PreviewExecutionCursorStep K} (h : out.valid = false) : StepSpec s now (s, out) where
  params := ⟨rfl, rfl⟩
  refused _ := ⟨rfl, rfl, rfl⟩
  advanced hv := absurd hv (by simp [h])
  rate hv := absurd hv (by simp [h])
  caughtUp hv := absurd hv (by simp [h])

end PreviewExecutionCursor

section Bounds

variable [IsStrictOrderedRing K]

theorem leashRamp_le_one (err start full : K) : leashRamp err start full ≤ 1 := by
  unfold leashRamp
  split
  · exact clamp_le zero_le_one
  · split
    · exact zero_le_one
    · exact le_rfl

/-- The gate stays between the configured floor and one. -/
theorem planLeashGate_mem {p : PlanLeashParams K} (h0 : 0 < p.minGate) (h1 : p.minGate ≤ 1) (e r : K) :
    p.minGate ≤ planLeashGate e r p ∧ planLeashGate e r p ≤ 1 := by
  have hm : clamp p.minGate 0 1 = p.minGate := by
    unfold clamp
    rw [if_neg (not_lt.mpr h0.le), if_neg (not_lt.mpr h1)]
  unfold planLeashGate
  rw [hm]
  constructor
  · exact le_max_left _ _
  · apply max_le h1
    exact (min_le_left _ _).trans (leashRamp_le_one _ _ _)

namespace PreviewExecutionCursor

/-- The last stage: from a cursor that does not lead, at a time that is not before its wall. -/
theorem advance_spec {s : PreviewExecutionCursor K} {now : K} {out : PreviewExecutionCursorStep K}
    (ha : s.active = true) (hlead : s.time ≤ s.wall) (hnow : s.wall ≤ now) (hv : out.valid = false) :
    StepSpec s (some now) (s.advance now out) := by
  obtain ⟨hg0, hg1⟩ := planLeashGate_mem s.minGate_pos s.paramsValid.range.2.2.2
    out.positiveLagM out.positiveLagRad
  obtain ⟨hc0, hc1⟩ := s.catchup_mem (1 + max 0 (s.wall - s.time) / s.cfg.catchupTimeSec)
  unfold advance
  dsimp only
  generalize planLeashGate out.positiveLagM out.positiveLagRad s.leash = g at hg0 hg1 ⊢
  generalize clamp (1 + max 0 (s.wall - s.time) / s.cfg.catchupTimeSec) 1 s.cfg.maxRate = c at hc0 hc1 ⊢
  have hg : 0 < g := s.minGate_pos.trans_le hg0
  have hdt : 0 ≤ now - s.wall := sub_nonneg.mpr hnow
  have hprod : 0 ≤ (now - s.wall) * (g * c) :=
    mul_nonneg hdt (mul_nonneg hg.le (zero_le_one.trans hc0))
  split
  · exact StepSpec.of_refused s _ hv
  · next hb =>
    refine ⟨⟨rfl, rfl⟩, fun h => by simp at h, fun _ => ?_, fun _ => ?_, fun _ h1 => ?_⟩
    · refine ⟨ha, ha, rfl, rfl, hnow, ?_, min_le_left _ _, rfl, not_lt.mp hb⟩
      exact le_min (hlead.trans hnow) (le_add_of_nonneg_right hprod)
    · constructor
      · calc s.leash.minGate ≤ g := hg0
          _ = g * 1 := (mul_one g).symm
          _ ≤ g * c := mul_le_mul_of_nonneg_left hc0 hg.le
      · calc g * c ≤ 1 * c := mul_le_mul_of_nonneg_right hg1 (zero_le_one.trans hc0)
          _ = c := one_mul c
          _ ≤ s.cfg.maxRate := hc1
    · -- with the gate open the rate is at least one, so the reference time gains on the wall
      dsimp only at h1
      rw [h1, one_mul]
      have hrate : (now - s.wall) * 1 ≤ (now - s.wall) * c := mul_le_mul_of_nonneg_left hc0 hdt
      rcases min_cases now (s.time + (now - s.wall) * c) with ⟨hm, -⟩ | ⟨hm, -⟩
      · rw [hm]; linarith
      · rw [hm]; linarith

theorem stepImpl_spec {s : PreviewExecutionCursor K} (hs : s.Bounded) (geo : PoseSpace P K)
    (now : Reading K) (ref : KinematicsReading P K) (previousOutput : Option P)
    (window : Option (PreviewExecutionPhaseWindow P K)) :
    StepSpec s now (s.stepImpl geo now ref previousOutput window) := by
  unfold stepImpl
  split
  · exact StepSpec.of_refused s _ rfl
  · next ha =>
    have ha : s.active = true := by simpa using ha
    dsimp only
    split
    · split
      · exact StepSpec.of_refused s _ rfl
      · next hnow =>
        have hnow := not_lt.mp hnow
        split
        · exact advance_spec ha (hs ha).1 hnow rfl
        · split
          · exact StepSpec.of_refused s _ rfl
          · next hw => exact advance_spec ha (hs ha).1 hnow (phaseWindowLag_valid hw)
    · exact StepSpec.of_refused s _ rfl

/-- **One step.**  Either form of `step`, any inputs. -/
theorem step_spec {s : PreviewExecutionCursor K} (hs : s.Bounded) (geo : PoseSpace P K)
    (call : CursorStepCall P K) : StepSpec s call.now (s.step geo call) := by
  cases call with
  | sample now ref previousOutput => exact stepImpl_spec hs geo now ref previousOutput none
  | window now w =>
    unfold step stepWindow
    dsimp only
    split
    · exact StepSpec.of_refused s _ rfl
    · exact stepImpl_spec hs geo now _ _ _

theorem apply_bounded {s : PreviewExecutionCursor K} (hs : s.Bounded) (geo : PoseSpace P K)
    (op : CursorOp P K) : (s.apply geo op).Bounded := by
  cases op with
  | reset now =>
    cases now with
    | none => exact hs
    | some now =>
      intro _
      have hb : 0 < s.cfg.maxBacklogSec := s.paramsValid.positive _ (by simp)
      exact ⟨le_rfl, (sub_self now).trans_le hb.le⟩
  | clear =>
    intro h
    exact absurd h (by simp [apply, clear])
  | step call =>
    have h := step_spec hs geo call
    intro ha
    cases hv : (s.step geo call).2.valid with
    | false =>
      obtain ⟨ht, hw, hact⟩ := h.refused hv
      show (s.step geo call).1.time ≤ (s.step geo call).1.wall ∧
        (s.step geo call).1.wall - (s.step geo call).1.time ≤ (s.step geo call).1.cfg.maxBacklogSec
      rw [ht, hw, h.params.1]
      exact hs (hact.symm.trans ha)
    | true =>
      obtain ⟨-, -, ht, -, -, -, hle, hb, hmax⟩ := h.advanced hv
      constructor
      · exact ht.trans_le hle
      · exact (hb ▸ hmax).trans_eq (by rw [show (s.apply geo (.step call)).cfg = s.cfg from h.params.1])

/-- **Whole runs.**  Every sequence of calls keeps the bound. -/
theorem run_bounded {s : PreviewExecutionCursor K} (hs : s.Bounded) (geo : PoseSpace P K)
    (ops : List (CursorOp P K)) : (s.run geo ops).Bounded := by
  induction ops generalizing s with
  | nil => exact hs
  | cons op ops ih => exact ih (apply_bounded hs geo op)

/-- No call changes the parameters. -/
theorem apply_params {s : PreviewExecutionCursor K} (hs : s.Bounded) (geo : PoseSpace P K)
    (op : CursorOp P K) : (s.apply geo op).cfg = s.cfg ∧ (s.apply geo op).leash = s.leash := by
  cases op with
  | reset now => cases now <;> exact ⟨rfl, rfl⟩
  | clear => exact ⟨rfl, rfl⟩
  | step call => exact (step_spec hs geo call).params

theorem run_params {s : PreviewExecutionCursor K} (hs : s.Bounded) (geo : PoseSpace P K)
    (ops : List (CursorOp P K)) : (s.run geo ops).cfg = s.cfg ∧ (s.run geo ops).leash = s.leash := by
  induction ops generalizing s with
  | nil => exact ⟨rfl, rfl⟩
  | cons op ops ih =>
    obtain ⟨hc, hl⟩ := apply_params hs geo op
    obtain ⟨hc', hl'⟩ := ih (apply_bounded hs geo op)
    exact ⟨hc'.trans hc, hl'.trans hl⟩

omit [IsStrictOrderedRing K] in
/-- The constructor takes every finite set of parameters that meets its checks. -/
theorem create_finite {c : PreviewExecutionCursorConfig K} {l : PlanLeashParams K}
    (h : CursorParamsValid c l) :
    create ⟨some c.maxBacklogSec, some c.catchupTimeSec, some c.maxRate, some c.translationVelocityFloor,
        some c.angularVelocityFloor, some c.phaseLookaheadSec⟩
      ⟨some l.startM, some l.startRad, some l.fullM, some l.fullRad, some l.minGate⟩ =
      .ok ⟨c, l, h, 0, 0, false⟩ := by
  have hl : (some c.phaseLookaheadSec).isSome = true ∧ 0 ≤ c.phaseLookaheadSec ∧
      c.phaseLookaheadSec ≤ c.maxBacklogSec := ⟨rfl, h.lookahead⟩
  unfold create
  exact (dif_pos h.positive).trans ((dif_pos hl).trans (dif_pos h.range))

omit [IsStrictOrderedRing K] in
/-- A cursor starts inactive. -/
theorem create_bounded {c : PreviewExecutionCursorConfig (Reading K)}
    {leash : PlanLeashParams (Reading K)} {s₀ : PreviewExecutionCursor K}
    (h : create c leash = .ok s₀) : s₀.Bounded := by
  unfold create at h
  dsimp only at h
  split at h
  · split at h
    · split at h
      · split at h
        · obtain rfl := Except.ok.inj h
          intro ha
          simp at ha
        · simp at h
      · simp at h
    · simp at h
  · simp at h

/-- The cursor never leads the wall and never lags more than the allowed backlog; a successful step
moves it forward at a rate between the leash floor and the catch-up limit, a refused one leaves it
as it is, and with an open gate the backlog does not grow. -/
theorem run_cursor_bounded {c : PreviewExecutionCursorConfig (Reading K)}
    {leash : PlanLeashParams (Reading K)} {s₀ : PreviewExecutionCursor K}
    (h : create c leash = .ok s₀) (geo : PoseSpace P K) (ops : List (CursorOp P K)) :
    let s := s₀.run geo ops
    (s.active = true → s.time ≤ s.wall ∧ s.wall - s.time ≤ s₀.cfg.maxBacklogSec) ∧
    ∀ call : CursorStepCall P K, let r := s.step geo call
      (r.2.valid = true → s.time ≤ r.2.timeSec ∧ r.1.time = r.2.timeSec ∧
        s₀.leash.minGate ≤ r.2.rate ∧ r.2.rate ≤ s₀.cfg.maxRate ∧
        (∃ now, call.now = some now ∧ r.2.timeSec ≤ now) ∧
        (r.2.gate = 1 → r.1.wall - r.1.time ≤ s.wall - s.time)) ∧
      (r.2.valid = false → r.1.time = s.time ∧ r.1.wall = s.wall ∧ r.1.active = s.active) := by
  have h0 := create_bounded h
  obtain ⟨hc, hl⟩ := run_params h0 geo ops
  have hb := run_bounded h0 geo ops
  constructor
  · intro ha
    rw [← hc]
    exact hb ha
  · intro call
    have hs := step_spec hb geo call
    constructor
    · intro hv
      obtain ⟨-, -, ht, hnow, -, hmono, hle, -, -⟩ := hs.advanced hv
      obtain ⟨hr0, hr1⟩ := hs.rate hv
      rw [hl] at hr0
      rw [hc] at hr1
      exact ⟨hmono, ht, hr0, hr1, ⟨_, hnow, hle⟩, hs.caughtUp hv⟩
    · exact hs.refused

end PreviewExecutionCursor

end Bounds

end Cursor

namespace PreviewExecutionCursor

/-- Positions on a line, no rotation. -/
def lineSpace : PoseSpace ℚ ℚ where
  sqrt x := x
  position p := fun _ => p
  rotationLag _ _ := 0

def sampleConfig : PreviewExecutionCursorConfig ℚ := ⟨1 / 10, 1 / 4, 3 / 2, 1 / 100, 1 / 100, 0⟩

def sampleLeash : PlanLeashParams ℚ := ⟨1 / 100, 1 / 10, 2 / 100, 2 / 10, 1 / 4⟩

theorem sampleParams_valid : CursorParamsValid sampleConfig sampleLeash := by
  refine ⟨?_, ?_, ?_⟩ <;> norm_num [sampleConfig, sampleLeash]

/-- A reading of a point at rest. -/
def restReading (x : ℚ) : KinematicsReading ℚ ℚ := ⟨some x, some ⟨0, 0⟩, some ⟨0, 0⟩⟩

/-- After a reset at 1 a step at 51/50 is accepted. -/
def sampleCall : CursorStepCall ℚ ℚ := .sample (some (51 / 50)) (restReading 0) (some 0)

theorem run_cursor_bounded_sample :
    let s₀ : PreviewExecutionCursor ℚ := ⟨sampleConfig, sampleLeash, sampleParams_valid, 0, 0, false⟩
    let s := s₀.run lineSpace [.reset (some 1)]
    let r := s.step lineSpace sampleCall
    (s.time ≤ s.wall ∧ s.wall - s.time ≤ 1 / 10) ∧ r.2.valid = true ∧ s.time ≤ r.2.timeSec ∧
      r.2.rate ≤ 3 / 2 := by
  have h := run_cursor_bounded (create_finite sampleParams_valid) lineSpace [.reset (some 1)]
  have hv : (step lineSpace (run lineSpace ⟨sampleConfig, sampleLeash, sampleParams_valid, 0, 0, false⟩
      [.reset (some 1)]) sampleCall).2.valid = true := by decide +kernel
  obtain ⟨hmono, -, -, hrate, -, -⟩ := (h.2 sampleCall).1 hv
  exact ⟨h.1 rfl, hv, hmono, hrate⟩

end PreviewExecutionCursor

end RbServo
