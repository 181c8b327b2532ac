import RoboticsLab.Lib.PyValue
import Mathlib.Logic.Function.Basic

/-!
# `ArmInitOverrideController`: the per-arm InitMotion latch

`handleCommand`, `updateFromSnapshot` and `composeIntent` are the three operations `policy_runner.run` calls on each
tick, `consumeTransitions` the fourth.  A latched arm is `on`; it belongs to this runner or, if `external`, to
another client whose init the server reports.  `updateArm` is one pass of the loop over the arms: it watches the
force sensor (`seeForceTorque`), takes over an external init (`latchExternal`), drops what answers another request,
takes in the reported texts (`takeReadings`) and then acts on the status (`settle`).
-/

namespace PolicyRunner

/-- `_optional_joint6`: six finite values. -/
structure Joint6 where
  values : List Double
  six : values.length = 6
  finite : ∀ x ∈ values, x.isFinite

inductive Arm
  | left
  | right
deriving DecidableEq

def Arm.key : Arm → String
  | .left => "left"
  | .right => "right"

inductive ArmSelector
  | both
  | one (arm : Arm)

def ArmSelector.text : ArmSelector → String
  | .both => "both"
  | .one arm => arm.key

def armsForSelector : ArmSelector → List Arm
  | .both => [.left, .right]
  | .one arm => [arm]

inductive ArmInitAction
  | start
  | cancel
  | toggle
  | config
deriving DecidableEq

/-- A parsed command. -/
structure ArmInitCommand where
  arms : ArmSelector
  action : ArmInitAction
  leftQDeg : Option Joint6
  rightQDeg : Option Joint6
  autoRoiRecover : Option Bool

def ArmInitCommand.qDeg (c : ArmInitCommand) : Arm → Option Joint6
  | .left => c.leftQDeg
  | .right => c.rightQDeg

inductive Transition
  | started
  | done
  | cancelled
  | failed
deriving DecidableEq

/-- The values of `_ArmRuntime.state`. -/
inductive ArmState
  | policy
  | cancelled
  | initRequested
  | initPlanning
  | initExecuting
  | initTare
  | initTareBlocked
  | initDone
  | initFailed
deriving DecidableEq

/-- `state.startswith("init")`. -/
def ArmState.isInit : ArmState → Bool
  | .policy => false
  | .cancelled => false
  | _ => true

/-- The goal's nearest pair, as the server reports it. -/
structure GoalReadings where
  nearestPairNameA : String
  nearestPairNameB : String
  nearestPairCategory : String
  clearanceM : Option Double
  thresholdM : Option Double
  marginDeficitM : Option Double

def GoalReadings.none : GoalReadings := ⟨"", "", "", .none, .none, .none⟩

structure ArmRuntime where
  on : Bool
  qDeg : Option Joint6
  state : ArmState
  fail : Bool
  failMode : String
  message : String
  serverStatus : String
  goal : GoalReadings
  tareWaitStarted : Option Double
  requestId : ℕ
  motionDone : Bool
  ftRequired : Bool
  tareTimedOut : Bool
  tareWaitElapsed : Double
  external : Bool

def ArmRuntime.initial : ArmRuntime where
  on := false
  qDeg := none
  state := .policy
  fail := false
  failMode := ""
  message := ""
  serverStatus := "idle"
  goal := .none
  tareWaitStarted := none
  requestId := 0
  motionDone := false
  ftRequired := false
  tareTimedOut := false
  tareWaitElapsed := .fin 0
  external := false

/-- The constructor's arguments. -/
structure OverrideConfig where
  timeoutSec : Double
  ftTareWaitSec : Double
  autoClearOnDone : Bool
  autoClearOnFailed : Bool
  resumeFlowOnDone : Bool
  resumeFlowOnFailed : Bool
  allowManualCancelAfterFailed : Bool

/-- `self.ft_tare_wait_sec = max(0.0, float(ft_tare_wait_sec))`. -/
def OverrideConfig.tareWait (cfg : OverrideConfig) : Double := Double.max (.fin 0) cfg.ftTareWaitSec

def OverrideConfig.clearsOnDone (cfg : OverrideConfig) : Bool := cfg.autoClearOnDone && cfg.resumeFlowOnDone

def OverrideConfig.clearsOnFailed (cfg : OverrideConfig) : Bool := cfg.autoClearOnFailed || cfg.resumeFlowOnFailed

/-- The controller.  `pending` lists what was added to the sets of `_pending`. -/
structure OverrideController where
  arms : Arm → ArmRuntime
  autoRoiRecover : Bool
  lastCommand : String
  error : String
  changed : Bool
  pending : List (Transition × Arm)

def OverrideController.initial : OverrideController where
  arms := fun _ => .initial
  autoRoiRecover := false
  lastCommand := ""
  error := ""
  changed := false
  pending := []

def OverrideController.externalInitActive (c : OverrideController) : Bool :=
  ((c.arms .left).on && (c.arms .left).external) || ((c.arms .right).on && (c.arms .right).external)

/-! ## Commands -/

def missingError : List Arm → String
  | [arm] => "missing_" ++ arm.key ++ "_init_q_deg"
  | _ => "missing_init_q_deg"

def ArmRuntime.start (requestId : ℕ) (rt : ArmRuntime) : ArmRuntime :=
  { rt with
    requestId := requestId
    external := false
    motionDone := false
    tareWaitStarted := none
    tareTimedOut := false
    tareWaitElapsed := .fin 0
    on := true
    fail := false
    failMode := ""
    state := .initRequested
    message := ""
    serverStatus := "requested"
    goal := .none }

def ArmRuntime.cancel (rt : ArmRuntime) : ArmRuntime :=
  { rt with
    on := false
    fail := false
    failMode := ""
    state := .cancelled
    message := ""
    serverStatus := "cancelled"
    goal := .none }

/-- `max([time.monotonic_ns()] + [request_id + 1 ...])`: one id for every arm of the press. -/
def OverrideController.nextRequestId (c : OverrideController) (nowNs : ℕ) (arms : List Arm) : ℕ :=
  arms.foldl (fun id arm => max id ((c.arms arm).requestId + 1)) nowNs

def OverrideController.startArms (c : OverrideController) (nowNs : ℕ) (arms : List Arm) : OverrideController :=
  match arms.filter fun arm => (c.arms arm).qDeg.isNone with
  | [] =>
    { c with
      arms := fun arm => if arm ∈ arms then (c.arms arm).start (c.nextRequestId nowNs arms) else c.arms arm
      pending := c.pending ++ arms.map fun arm => (.started, arm)
      changed := true }
  | missing => { c with error := missingError missing }

def OverrideController.cancelArms (c : OverrideController) (arms : List Arm) : OverrideController :=
  let shown := arms.filter fun arm => (c.arms arm).on || (c.arms arm).state.isInit
  { c with
    arms := fun arm => if arm ∈ arms then (c.arms arm).cancel else c.arms arm
    pending := c.pending ++ shown.map fun arm => (.cancelled, arm)
    changed := !shown.isEmpty }

/-- What `toggle` stands for. -/
def OverrideController.resolve (c : OverrideController) (cfg : OverrideConfig) (command : ArmInitCommand) :
    ArmInitAction :=
  match command.action with
  | .toggle =>
    let arms := armsForSelector command.arms
    if arms.any (fun arm => (c.arms arm).fail) && !cfg.allowManualCancelAfterFailed then .start
    else if arms.any (fun arm => (c.arms arm).on) then .cancel else .start
  | action => action

def OverrideController.storeQDeg (c : OverrideController) (command : ArmInitCommand) : OverrideController :=
  { c with
    changed := false
    error := ""
    lastCommand := command.arms.text
    arms := fun arm => match command.qDeg arm with
      | some q => { c.arms arm with qDeg := some q }
      | none => c.arms arm }

def OverrideController.handleCommand (c : OverrideController) (cfg : OverrideConfig) (nowNs : ℕ)
    (command : ArmInitCommand) : OverrideController :=
  let c := c.storeQDeg command
  match c.resolve cfg command with
  | .config => match command.autoRoiRecover with
    | none => c
    | some recover => { c with autoRoiRecover := recover, changed := c.autoRoiRecover != recover }
  | .cancel => c.cancelArms (armsForSelector command.arms)
  | _ => c.startArms nowNs (armsForSelector command.arms)

/-! ## Readings of a snapshot -/

/-- A state snapshot of the servo server. -/
structure InitSnapshot where
  payload : Json
  receivedMonotonic : Double

section
variable (py : PyText)

def normStatus (value : Json) : String :=
  let text := py.lower (py.strip (value.pyStrOrEmpty py))
  if text = "" ∨ text = "not_attempted" then ""
  else if text ∈ ["idle", "planning", "executing", "done", "failed"] then text
  else text.map fun ch => if ch = '_' then ' ' else ch

/-- `status in {"planning", "executing"}`. -/
def isMoving (status : String) : Bool := status = "planning" || status = "executing"

def movingState (status : String) : ArmState :=
  if status = "planning" then .initPlanning else .initExecuting

/-- The server's post-InitMotion tare is still in flight, and why. -/
def ftTarePending (payload : Json.Object) (arm : Arm) (required : Bool) : Bool × String :=
  match (payload.getD arm.key).isObject with
  | none => (required, "no arm block")
  | some armBlock => match (armBlock.getD "force_torque").isObject with
    | none => (required, "no force_torque block")
    | some ft =>
      if (ft.getD "enabled").isFalse then (false, "ft disabled")
      else
        let required := required || (ft.getD "enabled").isTrue
        let stage := py.lower (py.strip ((ft.getD "auto_tare_stage").pyStrOrEmpty py))
        let tareState := py.lower (((ft.lookup "tare_state").getD (.str "")).pyStr py)
        let bias := ft.getD "bias_valid"
        if required && !(ft.getD "connected").isTrue then (true, "ft disconnected or unavailable")
        else if stage = "awaiting_init" ∨ stage = "settling" then (true, "auto_tare_stage=" ++ stage)
        else if tareState = "settling" then (true, "tare samples accumulating")
        else if bias.isFalse || (required && !bias.isTrue) then (true, "bias invalid or unavailable")
        else if required && tareState ≠ "accepted" then (true, "tare not accepted")
        else (false, "auto_tare_stage=" ++ (if stage = "" then "idle" else stage) ++ " bias_valid=" ++ bias.pyStr py)

def optionalFloat : Json → Except PyError (Option Double)
  | .bool b => .ok (some (.fin (if b then 1 else 0)))
  | .numUnsigned n => some <$> Json.floatOfInt n
  | .numInteger i => some <$> Json.floatOfInt i
  | .numFloat d => .ok (if d.isFinite then some d else none)
  | _ => .ok none

def goalThresholdM (block : Json.Object) : Except PyError (Option Double) := do
  match ← optionalFloat (block.getD "goal_threshold_m") with
  | some explicit => pure (some explicit)
  | none =>
    if (block.getD "goal_nearest_pair_external").pyBool then
      optionalFloat (block.getD "goal_clear_threshold_external_m")
    else optionalFloat (block.getD "goal_clear_threshold_self_m")

def goalClearanceM (block : Json.Object) : Except PyError (Option Double) :=
  optionalFloat ((block.lookup "goal_nearest_pair_distance_m").getD (block.getD "nearest_pair_distance_m"))

def readGoal (block : Json.Object) : Except PyError GoalReadings := do
  let clearance ← goalClearanceM block
  let threshold ← goalThresholdM block
  let deficit ← optionalFloat (block.getD "goal_clear_margin_deficit_m")
  pure {
    nearestPairNameA := (block.getD "goal_nearest_pair_name_a").pyStrOrEmpty py
    nearestPairNameB := (block.getD "goal_nearest_pair_name_b").pyStrOrEmpty py
    nearestPairCategory := (block.getD "goal_nearest_pair_category").pyStrOrEmpty py
    clearanceM := clearance
    thresholdM := threshold
    marginDeficitM := deficit }

/-- `a or b` on strings. -/
def orElseText (a b : String) : String := if a = "" then b else a

def formatFailedMessage (block : Json.Object) : Except PyError String := do
  if (block.getD "fail_mode").pyStrOrEmpty py ≠ "goal_not_clear" then
    pure ((block.getD "message").pyStrOrEmpty py)
  else
    let nameA := (block.getD "goal_nearest_pair_name_a").pyStrOrEmpty py
    let nameB := (block.getD "goal_nearest_pair_name_b").pyStrOrEmpty py
    let clearance ← goalClearanceM block
    let threshold ← goalThresholdM block
    if nameA ≠ "" ∨ nameB ≠ "" then
      let pair := orElseText nameA "unknown" ++ " <-> " ++ orElseText nameB "unknown"
      match clearance, threshold with
      | some c, some t =>
        pure ("goal_not_clear: pair " ++ pair ++ ", clearance " ++ py.fixed 1 (c.mul (.fin 1000)) ++
          " mm < required " ++ py.fixed 1 (t.mul (.fin 1000)) ++ " mm")
      | _, _ => pure ("goal_not_clear: pair " ++ pair)
    else pure (orElseText ((block.getD "message").pyStrOrEmpty py) "goal_not_clear")

/-- The newer of two readings. -/
def GoalReadings.merge (new old : GoalReadings) : GoalReadings where
  nearestPairNameA := orElseText new.nearestPairNameA old.nearestPairNameA
  nearestPairNameB := orElseText new.nearestPairNameB old.nearestPairNameB
  nearestPairCategory := orElseText new.nearestPairCategory old.nearestPairCategory
  clearanceM := new.clearanceM.or old.clearanceM
  thresholdM := new.thresholdM.or old.thresholdM
  marginDeficitM := new.marginDeficitM.or old.marginDeficitM

/-! ## One arm of a snapshot -/

/-- What one pass of the loop over the arms leaves. -/
structure ArmUpdate where
  rt : ArmRuntime
  error : String
  emitted : List Transition
  changed : Bool
  raised : Option PyError

/-- A pass that ends here. -/
def ArmUpdate.stop (rt : ArmRuntime) (error : String) (emitted : List Transition) (changed : Bool) : ArmUpdate :=
  ⟨rt, error, emitted, changed, none⟩

def ArmRuntime.seeForceTorque (payload : Json.Object) (arm : Arm) (rt : ArmRuntime) : ArmRuntime :=
  match (Json.dictOrEmpty (payload.getD arm.key)).getD "force_torque" with
  | .obj ft =>
    if (Json.Object.getD ft "enabled").isTrue then { rt with ftRequired := true }
    else if (Json.Object.getD ft "enabled").isFalse then { rt with ftRequired := false }
    else rt
  | _ => rt

/-- The acknowledgement is there and is not the arm's request. -/
def ArmRuntime.otherRequest (rt : ArmRuntime) (ack : Json) : Bool :=
  match ack with
  | .null => false
  | ack => !ack.eqInt rt.requestId

/-- The server runs an init this runner has not latched. -/
def ArmRuntime.seesExternal (rt : ArmRuntime) (status : String) (ack : Json) : Bool :=
  isMoving status && (!rt.on || (rt.external && rt.otherRequest ack))

def ArmRuntime.latchExternal (status : String) (ack : Json) (rt : ArmRuntime) : ArmRuntime :=
  { rt with
    on := true
    external := true
    requestId := ack.isCount.getD 0
    motionDone := false
    fail := false
    failMode := ""
    tareWaitStarted := none
    tareTimedOut := false
    tareWaitElapsed := .fin 0
    state := movingState status }

def ArmRuntime.takeReadings (status failMode message : String) (goal : GoalReadings) (rt : ArmRuntime) :
    ArmRuntime :=
  { rt with
    failMode := orElseText failMode rt.failMode
    goal := goal.merge rt.goal
    serverStatus := orElseText status rt.serverStatus
    message := orElseText message rt.message }

def ArmRuntime.markDone (cfg : OverrideConfig) (rt : ArmRuntime) : ArmRuntime :=
  { rt with
    fail := false
    failMode := ""
    message := ""
    serverStatus := "done"
    goal := .none
    on := if cfg.clearsOnDone then false else rt.on
    state := if cfg.clearsOnDone then .policy else .initDone }

def ArmRuntime.markFailed (cfg : OverrideConfig) (message : String) (rt : ArmRuntime) : ArmRuntime :=
  { rt with
    motionDone := false
    fail := true
    message := message
    serverStatus := "failed"
    on := !cfg.clearsOnFailed
    state := if cfg.clearsOnFailed then .policy else .initFailed }

/-- The part of the pass for a motion that is done: wait for the tare, then `_mark_done`. -/
def ArmRuntime.awaitTare (cfg : OverrideConfig) (payload : Json.Object) (arm : Arm) (now : Double) (error : String)
    (rt : ArmRuntime) : ArmUpdate :=
  let rt := { rt with motionDone := true }
  let (pending, why) := ftTarePending py payload arm rt.ftRequired
  if pending && Double.lt (.fin 0) cfg.tareWait then
    let started := rt.tareWaitStarted.getD now
    let waited := now.sub started
    let rt := { rt with tareWaitStarted := some started, tareWaitElapsed := Double.max (.fin 0) waited }
    if Double.lt waited cfg.tareWait then
      .stop { rt with state := .initTare, message := "waiting for F/T tare (" ++ why ++ ")" } error []
        (rt.state ≠ .initTare)
    else
      let error :=
        arm.key ++ " F/T tare did not land within " ++ py.fixed 2 cfg.tareWait ++ " s (" ++ why ++ "); holding"
      .stop { rt with tareTimedOut := true, state := .initTareBlocked, message := error } error [] (!rt.tareTimedOut)
  else
    let elapsed := match rt.tareWaitStarted with
      | some started => if pending then rt.tareWaitElapsed else Double.max (.fin 0) (now.sub started)
      | none => rt.tareWaitElapsed
    let error := if (arm.key ++ " F/T tare").toList.isPrefixOf error.toList then "" else error
    .stop (({ rt with tareWaitElapsed := elapsed, tareWaitStarted := none } : ArmRuntime).markDone cfg) error
      (if rt.state ≠ .initDone then [.done] else []) true

/-- The part of the pass that acts on the status. -/
def ArmRuntime.settle (cfg : OverrideConfig) (payload : Json.Object) (arm : Arm) (now : Double)
    (status prevStatus message failMode : String) (error : String) (rt : ArmRuntime) : ArmUpdate :=
  if !rt.on then
    if status = "done" ∧ isMoving prevStatus then .stop rt error [.done] true else .stop rt error [] false
  else if rt.fail ∧ status ≠ "failed" then .stop rt error [] false
  else if isMoving status ∧ !rt.motionDone then
    .stop { rt with tareWaitStarted := none, state := movingState status } error [] (rt.state ≠ movingState status)
  else if status = "failed" then
    .stop (rt.markFailed cfg (orElseText message (orElseText failMode "init_failed"))) error
      (if rt.fail then [] else [.failed]) true
  else if status = "done" ∨ rt.motionDone then rt.awaitTare py cfg payload arm now error
  else .stop rt error [] false

/-- The block of `init_motion` that is about the arm. -/
def armBlock (block : Json.Object) (arm : Arm) : Json.Object := ((block.getD arm.key).isObject).getD block

/-- One pass of the loop in `update_from_snapshot`. -/
def ArmRuntime.updateArm (cfg : OverrideConfig) (payload block : Json.Object) (arm : Arm) (now : Double)
    (error : String) (rt : ArmRuntime) : ArmUpdate :=
  let b := armBlock block arm
  let status := normStatus py (b.getD "status")
  let ack := b.getD "request_id"
  let rt := rt.seeForceTorque payload arm
  let latched := rt.seesExternal status ack
  let rt := if latched then rt.latchExternal status ack else rt
  let emitted := if latched then [.started] else []
  if rt.on ∧ !rt.motionDone ∧ rt.otherRequest ack then .stop rt error emitted latched
  else
    match (do let goal ← readGoal py b; let text ← formatFailedMessage py b; pure (goal, text)) with
    | .error e => ⟨rt, error, emitted, latched, some e⟩
    | .ok (goal, text) =>
      let failMode := (b.getD "fail_mode").pyStrOrEmpty py
      let message := orElseText text ((b.getD "message").pyStrOrEmpty py)
      let u := (rt.takeReadings status failMode message goal).settle py cfg payload arm now status rt.serverStatus
        message failMode error
      { u with emitted := emitted ++ u.emitted, changed := latched || u.changed }

/-- One arm's pass on the controller. -/
def OverrideController.updateArm (c : OverrideController) (cfg : OverrideConfig) (payload block : Json.Object)
    (now : Double) (arm : Arm) : OverrideController × Bool × Option PyError :=
  let u := (c.arms arm).updateArm py cfg payload block arm now c.error
  ({ c with
    arms := Function.update c.arms arm u.rt
    error := u.error
    pending := c.pending ++ u.emitted.map fun t => (t, arm) }, u.changed, u.raised)

/-- `update_from_snapshot`: left, then right unless the left pass raised. -/
def OverrideController.updateFromSnapshot (c : OverrideController) (cfg : OverrideConfig) (s : InitSnapshot) :
    OverrideController × Option PyError :=
  match s.payload.isObject with
  | none => (c, none)
  | some payload => match (payload.getD "init_motion").isObject with
    | none => (c, none)
    | some block =>
      match c.updateArm py cfg payload block s.receivedMonotonic .left with
      | (c, _, some e) => (c, some e)
      | (c, changedLeft, none) =>
        match c.updateArm py cfg payload block s.receivedMonotonic .right with
        | (c, _, some e) => (c, some e)
        | (c, changedRight, none) => ({ c with changed := c.changed || changedLeft || changedRight }, none)

end

/-! ## The composed intent -/

structure CommandIntent where
  mode : String
  timeoutSec : Double
  left : Option Json.Object
  right : Option Json.Object
  coupledTimeout : Bool
  tcpTargetProfile : Option String
  metadata : Option Json.Object

def CommandIntent.payload (i : CommandIntent) : Arm → Option Json.Object
  | .left => i.left
  | .right => i.right

def holdPayload : Json.Object := [("mode", .str "Hold")]

/-- `_arm_payload`: the policy's payload, with a mode. -/
def armPayload : Option Json.Object → Json.Object
  | none => holdPayload
  | some payload => match payload.getD "mode" with
    | .null => payload.set "mode" (.str "Hold")
    | _ => payload

def initArmPayload (q : Joint6) (requestId : ℕ) : Json.Object :=
  [("mode", .str "JointTarget"), ("q_target_deg", .arr (q.values.map .numFloat)),
    ("joint_target_profile", .str "init_motion"), ("init_motion_request_id", .numUnsigned requestId)]

def mixedTopMode (py : PyText) (left right : Json.Object) : String :=
  let mode := fun o : Json.Object => ((o.lookup "mode").getD (.str "Hold")).pyStr py
  if mode left = mode right then mode left else "Hold"

section
variable (py : PyText)

/-- The intent with the given arm payloads and the policy intent's other fields. -/
def OverrideConfig.withPayloads (cfg : OverrideConfig) (intent : Option CommandIntent) (left right : Json.Object) :
    CommandIntent where
  mode := mixedTopMode py left right
  timeoutSec := (intent.map CommandIntent.timeoutSec).getD cfg.timeoutSec
  left := some left
  right := some right
  coupledTimeout := (intent.map CommandIntent.coupledTimeout).getD true
  tcpTargetProfile := intent.bind CommandIntent.tcpTargetProfile
  metadata := intent.bind CommandIntent.metadata

/-- The arm is latched by this runner and its init is to be sent. -/
def ArmRuntime.isOurs (rt : ArmRuntime) : Bool := rt.on && !rt.external && !rt.fail && !rt.motionDone

/-- What is sent while another client owns an init. -/
def OverrideController.externalInitIntent (c : OverrideController) (cfg : OverrideConfig)
    (intent : Option CommandIntent) : OverrideController × Option CommandIntent :=
  let ours := [Arm.left, .right].filter fun arm => (c.arms arm).isOurs
  match ours, ours.filter fun arm => (c.arms arm).qDeg.isNone with
  | [], _ => (c, none)
  | _, [] =>
    let payload := fun arm => match (c.arms arm).isOurs, (c.arms arm).qDeg with
      | true, some q => initArmPayload q (c.arms arm).requestId
      | _, _ => holdPayload
    (c, some (cfg.withPayloads py intent (payload .left) (payload .right)))
  | _, missing => ({ c with error := missingError missing }, none)

/-- The payload of one arm outside an external init; `none` is the early return for a missing `q_deg`. -/
def ArmRuntime.composedPayload (rt : ArmRuntime) (policy : Option Json.Object) : Option Json.Object :=
  if !rt.on then some (armPayload policy)
  else if rt.fail || rt.motionDone then some holdPayload
  else rt.qDeg.map fun q => initArmPayload q rt.requestId

def OverrideController.composeIntent (c : OverrideController) (cfg : OverrideConfig)
    (intent : Option CommandIntent) : OverrideController × Option CommandIntent :=
  if c.externalInitActive then c.externalInitIntent py cfg intent
  else if !(c.arms .left).on && !(c.arms .right).on then (c, intent)
  else
    match (c.arms .left).composedPayload (intent.bind CommandIntent.left) with
    | none => ({ c with error := "missing_left_init_q_deg" }, intent)
    | some left => match (c.arms .right).composedPayload (intent.bind CommandIntent.right) with
      | none => ({ c with error := "missing_right_init_q_deg" }, intent)
      | some right => (c, some (cfg.withPayloads py intent left right))

/-! ## Runs -/

/-- `consume_transitions`. -/
def OverrideController.consumeTransitions (c : OverrideController) : OverrideController := { c with pending := [] }

inductive OverrideEvent
  | command (nowNs : ℕ) (command : ArmInitCommand)
  | snapshot (snapshot : InitSnapshot)
  | compose (intent : Option CommandIntent)
  | consume

def OverrideController.step (cfg : OverrideConfig) (c : OverrideController) : OverrideEvent → OverrideController
  | .command nowNs command => c.handleCommand cfg nowNs command
  | .snapshot s => (c.updateFromSnapshot py cfg s).1
  | .compose intent => (c.composeIntent py cfg intent).1
  | .consume => c.consumeTransitions

/-- The controller after the events of a run. -/
def OverrideController.run (cfg : OverrideConfig) (events : List OverrideEvent) : OverrideController :=
  events.foldl (OverrideController.step py cfg) .initial

end

end PolicyRunner
