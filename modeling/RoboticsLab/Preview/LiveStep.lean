import RoboticsLab.Preview.LiveExecution

/-!
# `LivePreviewExecution::step` and the calls of the executor

`step` is cut where it can return.  `enter` is its first part, up to the point where a staged result
may be admitted; `admission` admits the staged result; `finish` is the rest.  A part that returns early is an
`.error` with the state and the output it returns.  What the planning thread has returned by the time
of a step, and whether its mailbox takes the new request, are inputs of the step.
-/

namespace RbServo

open Gauge

/-! ## Inputs -/

structure StepInput (K G F : Type*) where
  now : Reading K
  raw : RawFollower K G F
  acceptedNominal : Option (StandPose K G)
  stationary : Bool
  contactGate : Reading K
  contactNormal : Option (Vec3 K)
  /-- The results `tryTake` has ready, each with the clock at which it is observed. -/
  taken : List (PreviewExecutionResult K G × K)
  /-- `trySubmit` finds a free slot. -/
  slotFree : Bool

/-- The inputs of a step past its checks, with the finite state of the follower. -/
structure Tick (K G F : Type*) where
  now : K
  stepDt : K
  raw : RawFollower K G F
  rawSample : Kinematics K G
  contactGate : K
  contactNormal : Vec3 K

variable {K G B F : Type*} [Field K] [LinearOrder K] [FloorSemiring K] [Group G] [DecidableEq G]
variable (sp : MotionSpace K G) (bk : PreviewBrake K G B)

namespace LivePreviewExecution

/-- A part of a step: `.error` is a return. -/
abbrev Flow (K G B : Type*) [Zero K] [One K] [LT K] [LE K] :=
  Except (LivePreviewExecution K G B × LivePreviewOutput K G) (LivePreviewExecution K G B × LivePreviewOutput K G)

/-- `out.fault = true; out.reason = telemetry_.status; return out`. -/
def faultWith (s : LivePreviewExecution K G B) (out : LivePreviewOutput K G) :
    LivePreviewExecution K G B × LivePreviewOutput K G := (s, { out with fault := true, reason := s.status })

/-! ## Entering -/

def kHistoryCapacity : ℕ := 128

def append (s : LivePreviewExecution K G B) (now : K) (state : Kinematics K G) : LivePreviewExecution K G B :=
  let kept := if s.history.length = kHistoryCapacity then s.history.drop 1 else s.history
  { s with history := kept ++ [(now, state)] }

/-- The scalar inputs in range. -/
structure CheckedInput (K G : Type*) where
  now : K
  acceptedNominal : StandPose K G
  contactGate : K
  contactNormal : Vec3 K

def checkInput (s : LivePreviewExecution K G B) (i : StepInput K G F) : Option (CheckedInput K G) :=
  match i.now, i.acceptedNominal, i.contactGate, i.contactNormal with
  | some now, some nominal, some gate, some normal =>
    if now ≤ 0 ∨ clockLimit ≤ now ∨ gate < 0 ∨ 1 < gate ∨
        (normal ≠ 0 ∧ s.config.feasibilityTolerance < |sp.norm normal - 1|) then none
    else some ⟨now, nominal, gate, normal⟩
  | _, _, _, _ => none

/-- The first tick of an epoch starts at rest, from the recovery seed when there is one. -/
def startEpoch (s : LivePreviewExecution K G B) (c : CheckedInput K G) : LivePreviewExecution K G B :=
  let start := s.recoverySeed.getD (.atRest c.acceptedNominal)
  { s with
    initialized := true
    initializedAt := c.now
    lastTime := c.now
    nextRequestAt := c.now
    cold := start
    sample := start
    recoverySeed := none
    cursor := s.cursor.reset (some c.now) }

/-- Past the checks of the input: the follower, the first tick, the tick gap. -/
def enterRunning (s : LivePreviewExecution K G B) (i : StepInput K G F) (c : CheckedInput K G)
    (out : LivePreviewOutput K G) :
    Except (LivePreviewExecution K G B × LivePreviewOutput K G) (LivePreviewExecution K G B × Tick K G F) :=
  if ¬ i.raw.active ∨ i.raw.holdPaused then
    match s.recoverySeed with
    | some x => .error ({ s with status := "waiting" }, { out with pose := some x.pose })
    | none => .error (s.reset "inactive", out)
  else if ¬ s.initialized ∧ ¬ i.stationary then
    .error ({ s with status := "braking" },
      { out with pose := match s.recoverySeed with | some x => some x.pose | none => out.pose })
  else if s.initialized ∧ (c.now ≤ s.lastTime ∨ s.config.maxResultAgeSec ≤ c.now - s.lastTime) then
    .error (faultWith (s.fail "tick_gap") out)
  else
    let s := if s.initialized then s else s.startEpoch c
    let stepDt := max 0 (c.now - s.lastTime)
    let s := { s with lastTime := c.now }
    match finitePreviewState i.raw.outputKinematics with
    | none => .error (faultWith (s.fail "invalid_reference") out)
    | some x => .ok (s.append c.now x, ⟨c.now, stepDt, i.raw, x, c.contactGate, c.contactNormal⟩)

/-! ## Results of the planning thread -/

/-- One result taken from the mailbox. -/
def takeResult (t : Tick K G F) (s : LivePreviewExecution K G B) (e : PreviewExecutionResult K G × K) :
    LivePreviewExecution K G B :=
  let r := e.1
  let id := s.identity t.raw
  let tolerance := s.config.feasibilityTolerance
  let probe := samplePreviewExecutionPhaseReference sp r r.generatedAtSec t.now id s.gauge tolerance
  let s := if probe.isSome then { s with phaseReferenceResult := some r } else s
  if validatePreviewExecutionResult r e.2 id = .ready ∧ s.staged.isNone ∧ s.stopFaultReason.isNone then
    { s with staged := transportPreviewExecutionResult sp r s.gauge tolerance }
  else s

def stagedCurrent (s : LivePreviewExecution K G B) (raw : RawFollower K G F) (r : PreviewExecutionResult K G) :
    Bool :=
  let current := s.identity raw
  decide (r.identity.epoch = current.epoch ∧ r.identity.gateRevision = current.gateRevision ∧
    r.identity.sourceWireSeq = current.sourceWireSeq ∧ r.identity.sourceRecvSeq = current.sourceRecvSeq ∧
    r.identity.parentPlanId = current.parentPlanId)

/-- A staged result of another identity is cancelled. -/
def dropStale (s : LivePreviewExecution K G B) (raw : RawFollower K G F) : LivePreviewExecution K G B :=
  { s with staged := s.staged.filter (s.stagedCurrent raw) }

/-- A staged result of an older gauge is transported. -/
def transportStaged (s : LivePreviewExecution K G B) (now : K) : LivePreviewExecution K G B :=
  match s.staged with
  | none => s
  | some r =>
    if now < r.validUntilSec ∧ r.gauge.revision ≠ s.gaugeRevision then
      { s with staged := transportPreviewExecutionResult sp r s.gauge s.config.feasibilityTolerance }
    else s

/-- Everything `tryTake` has ready is taken, three results at most; the staged one is kept current. -/
def stage (s : LivePreviewExecution K G B) (i : StepInput K G F) (t : Tick K G F) : LivePreviewExecution K G B :=
  (((i.taken.take 3).foldl (takeResult sp t) s).dropStale t.raw).transportStaged sp t.now

/-- The first part of a step, once the advance of the step before is cleared. -/
def enterCleared (s : LivePreviewExecution K G B) (i : StepInput K G F) :
    Except (LivePreviewExecution K G B × LivePreviewOutput K G) (LivePreviewExecution K G B × Tick K G F) :=
  let out : LivePreviewOutput K G := ⟨i.acceptedNominal, false, false, "waiting"⟩
  if s.faulted then .error (faultWith s out)
  else if s.stopping then .error (s.stopOutput sp bk i.now)
  else if s.recovering then .error (s.recoveryOutput sp bk i.now)
  else
    match s.checkInput sp i with
    | none => .error (faultWith (s.fail "invalid_input") out)
    | some c =>
      match s.enterRunning i c out with
      | .error r => .error r
      | .ok r => .ok (r.1.stage sp i r.2, r.2)

/-- The first part of a step. -/
def enter (s : LivePreviewExecution K G B) (i : StepInput K G F) :
    Except (LivePreviewExecution K G B × LivePreviewOutput K G) (LivePreviewExecution K G B × Tick K G F) :=
  ({ s with retiredSourceAdvance := 0 } : LivePreviewExecution K G B).enterCleared sp bk i

/-! ## Admission -/

def contactAllows (s : LivePreviewExecution K G B) (proposed nominal : PreviewMotionState K G) (gate : K)
    (normal : Vec3 K) : Bool :=
  decide (1 ≤ gate ∨ normal = 0 ∨ dot normal proposed.linearVelocity ≤
    gate * max 0 (dot normal nominal.linearVelocity) + s.config.feasibilityTolerance)

/-- The staged result may replace what is running. -/
def admits (s : LivePreviewExecution K G B) (t : Tick K G F) (r : PreviewExecutionResult K G) : Bool :=
  match r.trajectory.sample sp (t.now - r.spliceAtSec) with
  | none => false
  | some candidate =>
    decide (t.now < r.validUntilSec) && (s.brakeTrajectory.isNone ||
      match r.nominalTrajectory.sample sp (t.now - r.spliceAtSec) with
      | none => false
      | some nominal => s.contactAllows candidate nominal t.contactGate t.contactNormal)

/-- The plan the step makes active, if it makes one active. -/
def admitted (s : LivePreviewExecution K G B) (t : Tick K G F) : Option (PreviewExecutionResult K G) :=
  s.staged.filter fun r => decide (r.spliceAtSec ≤ t.now) && s.admits sp t r

def admission (s : LivePreviewExecution K G B) (t : Tick K G F) : LivePreviewExecution K G B :=
  match s.admitted sp t with
  | some r =>
    { s with
      active := some r
      staged := none
      accepted := s.accepted + 1
      planningStarvedSinceSec := 0
      brakeTrajectory := none
      brakePlanId := 0
      angularContinuation := .none
      planId := r.identity.requestId }
  | none => { s with staged := s.staged.filter fun r => decide (t.now < r.spliceAtSec) }

/-! ## Following the plan or the brake -/

/-- A recovery inside a step. -/
def recoverNow (s : LivePreviewExecution K G B) (t : Tick K G F) (out : LivePreviewOutput K G)
    (cause : PreviewRecoveryCause) : LivePreviewExecution K G B × LivePreviewOutput K G :=
  let r := s.requestRecovery sp bk (some cause)
  if r.2 then r.1.recoveryOutput sp bk (some t.now) else faultWith r.1 out

/-- The sample of the plan, while it lasts. -/
def planSample (r : PreviewExecutionResult K G) (now : K) : Option (PreviewMotionState K G) :=
  if now < r.validUntilSec then r.trajectory.sample sp (now - r.spliceAtSec) else none

def followPlan (t : Tick K G F) (s : LivePreviewExecution K G B) (out : LivePreviewOutput K G) : Flow K G B :=
  match s.active with
  | none => .ok (s, out)
  | some r =>
    match planSample sp r t.now with
    | some x => .ok ({ s with sample := x }, out)
    | none =>
      let since := if s.planningStarvedSinceSec = 0 then t.now else s.planningStarvedSinceSec
      let b := ({ s with planningStarvedSinceSec := since } : LivePreviewExecution K G B).beginBrake sp bk
        "braking_expired" false
      if b.2 then .ok (b.1, out) else .error (faultWith b.1 out)

/-- The brake of a latched fault has been dispatched to its end. -/
def stopFaultDue (s : LivePreviewExecution K G B) : Option String :=
  match s.brakeTrajectory, s.stopFaultReason with
  | some b, some reason =>
    if s.acceptedPlanId = s.brakePlanId ∧ s.angularContinuation.terminalHoldAvailableAt bk s.acceptedSampleTimeSec ∧
        b.durationSec bk ≤ s.acceptedSampleTimeSec - s.brakeOriginSec then some reason
    else none
  | _, _ => none

def followBrake (t : Tick K G F) (s : LivePreviewExecution K G B) (out : LivePreviewOutput K G) : Flow K G B :=
  let b := if s.angularContinuation.needsBrake t.now then s.beginAngularBrake sp bk else (s, true)
  let b := if b.2 then b.1.sampleBrake sp bk else b
  if b.2 then
    let s := { b.1 with status := b.1.brakeReason }
    let out := { out with pose := some s.sample.pose, active := true }
    match s.stopFaultDue bk with
    | some reason => .error (s.fail reason, { out with fault := true, active := false, reason := reason })
    | none => .ok (s, out)
  else .error (faultWith b.1 out)

/-- Neither a plan nor a brake: the first plan is awaited, for a while. -/
def awaitPlan (t : Tick K G F) (s : LivePreviewExecution K G B) (out : LivePreviewOutput K G) : Flow K G B :=
  let s := { s with status := "waiting" }
  let out := { out with pose := some s.cold.pose }
  if s.config.maxResultAgeSec ≤ t.now - s.initializedAt then
    if s.config.recoveryEnable then .error (s.recoverNow sp bk t out .firstPlanTimeout)
    else .error (faultWith (s.fail "first_plan_timeout") out)
  else .ok (s, out)

def follow (t : Tick K G F) (s : LivePreviewExecution K G B) (out : LivePreviewOutput K G) : Flow K G B :=
  if s.brakeTrajectory.isSome then s.followBrake sp bk t out
  else if s.active.isSome then
    .ok ({ s with status := "active" }, { out with pose := some s.sample.pose, active := true })
  else s.awaitPlan sp bk t out

/-- An expired plan that nothing replaces. -/
def checkStarved (t : Tick K G F) (s : LivePreviewExecution K G B) (out : LivePreviewOutput K G) : Flow K G B :=
  if s.config.recoveryEnable ∧ 0 < s.planningStarvedSinceSec ∧
      s.config.maxResultAgeSec ≤ t.now - s.planningStarvedSinceSec then
    .error (s.recoverNow sp bk t out .planExpired)
  else .ok (s, out)

/-- The advance of the source that the contact authority refuses. -/
def refusedAdvance (s : LivePreviewExecution K G B) (t : Tick K G F) (n : Vec3 K)
    (nominal : PreviewMotionState K G) : Vec3 K :=
  let refused := (1 - t.contactGate) * (1 - t.contactGate)
  let sourceClosing := max 0 (dot n t.rawSample.velocity.linear)
  let gap := dot n (t.rawSample.pose.position - s.sample.pose.position)
  let pull := max 0 gap / s.config.contactRealignSec
  let blocked := max (max 0 (dot n (nominal.linearVelocity - s.sample.linearVelocity)))
    (refused * (sourceClosing + pull))
  (t.stepDt * blocked) • n

def retireAdvance (t : Tick K G F) (s : LivePreviewExecution K G B) (out : LivePreviewOutput K G) : Flow K G B :=
  match s.active with
  | none => .ok (s, out)
  | some r =>
    if s.brakeTrajectory.isNone ∧ r.contactAuthority.enabled then
      match r.nominalTrajectory.sample sp (t.now - r.spliceAtSec) with
      | none => .error (s.fail "nominal_certificate_unavailable", { out with fault := true, active := false })
      | some nominal =>
        .ok ({ s with retiredSourceAdvance := s.refusedAdvance t r.contactAuthority.normalStand nominal }, out)
    else .ok (s, out)

/-! ## The cursor -/

def historySample (s : LivePreviewExecution K G B) (time : K) : Option (Kinematics K G) :=
  match s.history with
  | [] => none
  | first :: _ => if time < first.1 then none else sp.sampleStamped none s.history time

/-- The lambda `motion_state`. -/
def motionState (x : PreviewMotionState K G) : Kinematics K G :=
  ⟨x.pose, ⟨x.linearVelocity, x.angularVelocityBody⟩, ⟨x.linearAcceleration, x.angularAccelerationBody⟩⟩

def asReading (x : Kinematics K G) : KinematicsReading (StandPose K G) K :=
  ⟨some x.pose, some x.velocity, some x.acceleration⟩

/-- The output predicted at `now + offset`. -/
def predicted (t : Tick K G F) (s : LivePreviewExecution K G B) (offset : K) : Option (PreviewMotionState K G) :=
  if s.brakeTrajectory.isSome then s.brakeAt sp bk (t.now + offset)
  else
    match s.staged.filter fun r => s.stagedCurrent t.raw r && decide (r.gauge.revision = s.gaugeRevision) &&
        decide (r.spliceAtSec ≤ t.now + offset) with
    | some r => planSample sp r (t.now + offset)
    | none => s.active.bind fun r => planSample sp r (t.now + offset)

/-- The samples of the phase window from the `i`-th on, up to the first that is missing. -/
def phaseEntries (t : Tick K G F) (s : LivePreviewExecution K G B) : ℕ → ℕ → List (K × Kinematics K G × Kinematics K G)
  | 0, _ => []
  | n + 1, i =>
    let offset := s.config.phaseLookaheadSec * i / (kCapacity - 1 : ℕ)
    let ref := (s.historySample sp (s.cursor.time + offset)).orElse fun _ =>
      s.phaseReferenceResult.bind fun r => samplePreviewExecutionPhaseReference sp r (s.cursor.time + offset) t.now
        (s.identity t.raw) s.gauge s.config.feasibilityTolerance
    let out := if i = 0 then some s.sample else s.predicted sp bk t offset
    match ref, out with
    | some ref, some x => (offset, ref, motionState x) :: s.phaseEntries t n (i + 1)
    | _, _ => []

def phaseWindow (t : Tick K G F) (s : LivePreviewExecution K G B) : PreviewExecutionPhaseWindow (StandPose K G) K :=
  let entries := if 0 < s.config.phaseLookaheadSec then s.phaseEntries sp bk t kCapacity 0 else []
  { relativeTimeSec := fun k => entries[k.val]?.map (·.1)
    reference := fun k => match entries[k.val]? with | some e => asReading e.2.1 | none => ⟨none, none, none⟩
    output := fun k => match entries[k.val]? with | some e => asReading e.2.2 | none => ⟨none, none, none⟩
    count := entries.length }

/-- A reference that cannot be followed: a recovery, or the brake of a latched fault. -/
def giveUp (t : Tick K G F) (s : LivePreviewExecution K G B) (out : LivePreviewOutput K G)
    (cause : PreviewRecoveryCause) (fault brakeReason : String) :
    LivePreviewExecution K G B × LivePreviewOutput K G :=
  if s.config.recoveryEnable then s.recoverNow sp bk t out cause
  else
    let b := ({ s with stopFaultReason := some fault } : LivePreviewExecution K G B).beginBrake sp bk brakeReason false
    if b.2 then (b.1, { out with pose := some b.1.sample.pose, active := true, reason := b.1.status })
    else (b.1, { out with fault := true, active := false, reason := b.1.status })

def stepCursor (t : Tick K G F) (s : LivePreviewExecution K G B) (out : LivePreviewOutput K G) :
    Except (LivePreviewExecution K G B × LivePreviewOutput K G)
      (LivePreviewExecution K G B × LivePreviewOutput K G × PreviewExecutionCursorStep K) :=
  match s.historySample sp s.cursor.time with
  | none => .error (s.giveUp sp bk t out .history "history_unavailable" "braking_history")
  | some ref =>
    let window := s.phaseWindow sp bk t
    let c := if 2 ≤ window.count then s.cursor.stepWindow sp.poseSpace (some t.now) window
      else s.cursor.stepSample sp.poseSpace (some t.now) (asReading ref) out.pose
    let s := { s with cursor := c.1 }
    if c.2.valid then .ok (s, out, c.2)
    else if c.2.status ≠ .backlogExceeded then
      let s := s.fail "invalid_cursor_state"
      .error (s, { out with fault := true, active := false, reason := s.status })
    else .error (s.giveUp sp bk t out .backlog "backlog_exceeded" "braking_backlog")

/-! ## The next request -/

def makeRequest (t : Tick K G F) (s : LivePreviewExecution K G B) (phase : PreviewExecutionCursorStep K) :
    PreviewExecutionRequest K G B F where
  identity := { s.identity t.raw with requestId := s.requestId + 1 }
  gauge := s.gauge
  generatedAtSec := t.now
  spliceAtSec := t.now + s.config.spliceLeadSec
  validUntilSec := t.now + s.config.maxResultAgeSec
  cursorTimeSec := phase.timeSec
  cursorRate := phase.rate
  referenceRate := s.referenceRateGate
  contactGate := t.contactGate
  contactNormalStand := t.contactNormal
  history := s.history
  predecessor := s.active.map (·.trajectory)
  brakePredecessor := s.brakeTrajectory
  angularPredecessor := s.angularContinuation
  predecessorOriginSec := if s.brakeTrajectory.isSome then some s.brakeOriginSec else s.active.map (·.spliceAtSec)
  coldStart := !s.hasPlan
  coldInitial := s.cold
  follower := t.raw.follower

/-- The end of a step: the request that is submitted, if one is. -/
def askPlan (t : Tick K G F) (slotFree : Bool) (s : LivePreviewExecution K G B)
    (phase : PreviewExecutionCursorStep K) : LivePreviewExecution K G B × Option (PreviewExecutionRequest K G B F) :=
  if s.stopFaultReason.isNone ∧ s.staged.isNone ∧ s.nextRequestAt ≤ t.now then
    let s' := { s with requestId := s.requestId + 1 }
    if slotFree then
      ({ s' with nextRequestAt := t.now + s.config.replanPeriodSec }, some (s.makeRequest t phase))
    else (s', none)
  else (s, none)

/-! ## The step -/

/-- The part after the admission and before the cursor. -/
def proceed (t : Tick K G F) (s : LivePreviewExecution K G B) (out : LivePreviewOutput K G) : Flow K G B := do
  let r ← s.followPlan sp bk t out
  let r ← r.1.follow sp bk t r.2
  let r ← r.1.checkStarved sp bk t r.2
  r.1.retireAdvance sp t r.2

structure StepOutcome (K G B F : Type*) [Zero K] [One K] [LT K] [LE K] where
  exec : LivePreviewExecution K G B
  output : LivePreviewOutput K G
  request : Option (PreviewExecutionRequest K G B F)

/-- The rest of a step after its first part. -/
def finish (t : Tick K G F) (slotFree : Bool) (s : LivePreviewExecution K G B) (out : LivePreviewOutput K G) :
    StepOutcome K G B F :=
  match (s.proceed sp bk t out) with
  | .error r => ⟨r.1, r.2, none⟩
  | .ok r =>
    match r.1.stepCursor sp bk t r.2 with
    | .error r => ⟨r.1, r.2, none⟩
    | .ok (s, out, phase) =>
      let q := s.askPlan t slotFree phase
      ⟨q.1, { out with reason := q.1.status }, q.2⟩

def step (s : LivePreviewExecution K G B) (i : StepInput K G F) : StepOutcome K G B F :=
  match s.enter sp bk i with
  | .error r => ⟨r.1, r.2, none⟩
  | .ok (s, t) => (s.admission sp t).finish sp bk t i.slotFree ⟨i.acceptedNominal, false, false, "waiting"⟩

end LivePreviewExecution

/-! ## Calls and runs -/

/-- The calls that change an executor. -/
inductive LiveOp (K G F : Type*)
  | step (i : StepInput K G F)
  | reset (reason : String)
  | fail (reason : String)
  | shiftCommonFrame (fold : Option (Fold (Vec3 K) G)) (cause : PreviewFoldCause)
  | contactGuardStopped
  | requestStop (reason : String)
  | stopOutput (now : Reading K)
  | requestRecovery (cause : Option PreviewRecoveryCause)
  | seedStationaryRecovery (now : Reading K) (nominal : Option (StandPose K G)) (stationary : Bool)
      (cause : Option PreviewRecoveryCause)
  | setReferenceRateGate (gate : Reading K)
  | recoveryOutput (now : Reading K)
  | restartRecovery
  | observeDispatch (tx : PreviewDispatchTransaction K G) (emitted : Option (StandPose K G)) (accepted : Bool)
      (posTolerance rotTolerance : Reading K)

namespace LivePreviewExecution

def apply (s : LivePreviewExecution K G B) : LiveOp K G F → LivePreviewExecution K G B
  | .step i => (s.step sp bk i).exec
  | .reset reason => s.reset reason
  | .fail reason => s.fail reason
  | .shiftCommonFrame fold cause => s.shiftCommonFrame sp fold cause
  | .contactGuardStopped => (s.contactGuardStopped sp bk).1
  | .requestStop reason => (s.requestStop sp bk reason).1
  | .stopOutput now => (s.stopOutput sp bk now).1
  | .requestRecovery cause => (s.requestRecovery sp bk cause).1
  | .seedStationaryRecovery now nominal stationary cause =>
    (s.seedStationaryRecovery sp bk now nominal stationary cause).1
  | .setReferenceRateGate gate => s.setReferenceRateGate gate
  | .recoveryOutput now => (s.recoveryOutput sp bk now).1
  | .restartRecovery => (s.restartRecovery bk).1
  | .observeDispatch tx emitted accepted pos rot => (s.observeDispatch sp bk tx emitted accepted pos rot).1

def run (s : LivePreviewExecution K G B) (ops : List (LiveOp K G F)) : LivePreviewExecution K G B :=
  ops.foldl (apply sp bk) s

end LivePreviewExecution

end RbServo
