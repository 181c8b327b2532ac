import RoboticsLab.ArmInit.OverrideController
import RoboticsLab.Lib.Fifo

/-!
# `ServoCommandHistory`: the commanded poses of the last packets

`record` takes one packet of the servo server.  A packet that breaks the stream clears the history of both arms
(a remote clock, a stamp that is malformed, ahead or stale, a restart, another motion epoch, a latched fault) or
of one arm (a malformed arm, another reference epoch); a packet that is not newer than the latest one changes
nothing.  `bodyDeltas` reads the pose at the start and at the end of one policy window.  An integer that does
not fit a float is no `ValueError` and passes every handler: such a call is `raised`, with the changes made
before it.

What numpy and scipy compute on arrays and rotations is a `Numerics`.
-/

namespace PolicyRunner.ServoHistory

/-- An exception inside a `try`: one that the handler takes, with its text, or one that passes. -/
inductive Failure
  | value (text : String)
  | uncaught (error : PyError)

structure Numerics where
  /-- `np.asarray(_, dtype=np.float64)`: shape and entries. -/
  asarray : Json → Except PyError (List ℕ × List Double)
  /-- `np.linalg.norm`. -/
  norm : List Double → Double
  /-- An array divided by a number. -/
  divide : List Double → Double → List Double
  /-- `Slerp` between two quaternions. -/
  slerp : ℚ → List Double → List Double → List Double
  /-- The position and the rotation vector of the second pose, seen from the first. -/
  bodyDelta : List Double → List Double → List Double

/-! ## Reading a packet -/

/-- `_unsigned`: a Boolean is not an integer. -/
def unsigned (value : Json) (name : String) (positive : Bool) : Except Failure ℕ :=
  match value with
  | .numUnsigned n => if n < positive.toNat then .error (.value ("missing_or_invalid_" ++ name)) else .ok n
  | .numInteger i =>
    if i < positive.toNat then .error (.value ("missing_or_invalid_" ++ name)) else .ok i.toNat
  | _ => .error (.value ("missing_or_invalid_" ++ name))

structure Stamp where
  time : ℕ
  tick : ℕ
  motion : ℕ

def observationStamp : Json → Except Failure Stamp
  | .obj payload => do
    let time ← unsigned (Json.Object.getD payload "loop_start_time_ns") "loop_start_time_ns" true
    let tick ← unsigned (Json.Object.getD payload "tick") "tick" false
    let motion ← unsigned (Json.Object.getD payload "motion_epoch") "motion_epoch" false
    return ⟨time, tick, motion⟩
  | _ => .error (.value "invalid_state_payload")

/-- `payload.get(key)` of a value that is a dict, else `None`. -/
def member (v : Json) (key : String) : Json := Json.Object.getD v.dictOrEmpty key

def armEpoch (payload : Json) (side : Arm) : Except Failure ℕ :=
  unsigned (member (member (member payload side.key) "force_control") "reference_reset_count")
    (side.key ++ "_reference_reset_count") false

/-- `np.asarray` inside the handler of `command_pose`. -/
def poseArray (np : Numerics) (side : Arm) (v : Json) : Except Failure (List ℕ × List Double) :=
  match np.asarray v with
  | .ok a => .ok a
  | .error .typeError => .error (.value ("invalid_" ++ side.key ++ "_tcp_command_stand"))
  | .error .valueError => .error (.value ("invalid_" ++ side.key ++ "_tcp_command_stand"))
  | .error e => .error (.uncaught e)

/-- `raw[key]`, whose `KeyError` the handler takes. -/
def poseField (side : Arm) (raw : Json.Object) (key : String) : Except Failure Json :=
  match raw.lookup key with
  | some v => .ok v
  | none => .error (.value ("invalid_" ++ side.key ++ "_tcp_command_stand"))

def commandPose (np : Numerics) (payload : Json) (side : Arm) : Except Failure (List Double) :=
  match member (member payload side.key) "tcp_command_stand" with
  | .obj raw => do
    let x ← poseField side raw "x"
    let y ← poseField side raw "y"
    let z ← poseField side raw "z"
    let p ← poseArray np side (.arr [x, y, z])
    let q ← poseArray np side (← poseField side raw "quaternion_xyzw")
    if p.1 ≠ [3] ∨ q.1 ≠ [4] ∨ ¬ (p.2 ++ q.2).all Double.isFinite then
      .error (.value ("invalid_" ++ side.key ++ "_tcp_command_stand"))
    else if (Double.fin (1 / 1000)).lt ((np.norm q.2).sub (.fin 1)).abs then
      .error (.value ("invalid_" ++ side.key ++ "_command_quaternion"))
    else .ok (p.2 ++ np.divide q.2 (np.norm q.2))
  | _ => .error (.value ("missing_" ++ side.key ++ "_tcp_command_stand"))

/-- The reference epoch and the commanded pose of one arm. -/
def readArm (np : Numerics) (payload : Json) (side : Arm) : Except Failure (ℕ × List Double) := do
  let epoch ← armEpoch payload side
  let pose ← commandPose np payload side
  return (epoch, pose)

def faultLatched (payload : Json) : Bool := (member payload "fault_latched").isTrue

/-- The age of a sample stamped `time`, read at `now`; `stale` is the text for an old one. -/
def checkAge (staleTimeoutSec : ℚ) (now : Double) (time : ℕ) (stale : String) : Except Failure Unit :=
  match Json.floatOfInt time with
  | .error e => .error (.uncaught e)
  | .ok ns =>
    let age := now.sub (ns.mul (.fin (1 / 1000000000)))
    if !age.isFinite || age.lt (.fin (-1 / 1000000)) then .error (.value "server_clock_ahead_of_client")
    else if (Double.fin staleTimeoutSec).lt age then .error (.value stale)
    else .ok ()

/-! ## The history -/

structure Sample where
  time : ℕ
  tick : ℕ
  motionEpoch : ℕ
  referenceEpoch : ℕ
  pose : List Double
deriving DecidableEq

/-- The arguments of the constructor, as it checks them. -/
structure Config where
  staleTimeoutSec : ℚ
  maxlen : ℕ
  stale_pos : 0 < staleTimeoutSec
  two_le_maxlen : 2 ≤ maxlen

structure History where
  samples : Arm → List Sample
  latestTimeNs : ℕ
  latestTick : ℤ
  motionEpoch : Option ℕ
  referenceEpoch : Arm → Option ℕ
  generation : ℕ
  lastRejection : String

def History.init : History where
  samples := fun _ => []
  latestTimeNs := 0
  latestTick := -1
  motionEpoch := none
  referenceEpoch := fun _ => none
  generation := 0
  lastRejection := "history_empty"

/-- `_clear_locked`. -/
def History.clear (h : History) (reason : String) : History :=
  { h with samples := fun _ => [], lastRejection := reason }

/-- The arguments of one `record` call. -/
structure Packet where
  payload : Json
  receivedMonotonic : Double
  sameHostClock : Bool

inductive Outcome
  | returned (added : Bool)
  | raised (error : PyError)
deriving DecidableEq

/-- The stamps of an accepted packet; a restart or another motion epoch clears both arms first. -/
def History.advance (h : History) (at_ : Stamp) : History :=
  if (at_.tick : ℤ) < h.latestTick ∨ some at_.motion ≠ h.motionEpoch then
    { h.clear (if (at_.tick : ℤ) < h.latestTick then "server_restart" else "motion_epoch_changed") with
      generation := h.generation + 1
      referenceEpoch := fun _ => none
      latestTimeNs := at_.time
      latestTick := at_.tick
      motionEpoch := some at_.motion }
  else { h with latestTimeNs := at_.time, latestTick := at_.tick, motionEpoch := some at_.motion }

/-- One pass of the loop over the arms. -/
def History.recordArm (np : Numerics) (cfg : Config) (payload : Json) (at_ : Stamp) (h : History) (side : Arm) :
    History × Outcome :=
  match readArm np payload side with
  | .error (.uncaught e) => (h, .raised e)
  | .error (.value text) =>
    ({ h with samples := Function.update h.samples side [], lastRejection := text }, .returned false)
  | .ok (epoch, pose) =>
    let kept := if some epoch ≠ h.referenceEpoch side then [] else h.samples side
    let sample := ⟨at_.time, at_.tick, at_.motion, epoch, pose⟩
    ({ h with
      samples := Function.update h.samples side (Fifo.push cfg.maxlen kept sample)
      referenceEpoch := Function.update h.referenceEpoch side (some epoch) }, .returned true)

/-- The loop: an exception that passes ends it. -/
def History.recordArms (np : Numerics) (cfg : Config) (payload : Json) (at_ : Stamp) (h : History) :
    History × Outcome :=
  match h.recordArm np cfg payload at_ .left with
  | (h, .raised e) => (h, .raised e)
  | (h, .returned left) =>
    match h.recordArm np cfg payload at_ .right with
    | (h, .raised e) => (h, .raised e)
    | (h, .returned right) => (h, .returned (left || right))

def History.record (np : Numerics) (cfg : Config) (h : History) (p : Packet) : History × Outcome :=
  if !p.sameHostClock then (h.clear "unsupported_remote_clock_domain", .returned false)
  else match observationStamp p.payload with
    | .error (.uncaught e) => (h, .raised e)
    | .error (.value text) => (h.clear text, .returned false)
    | .ok at_ =>
      -- a delayed packet cannot clear newer history
      if at_.time ≤ h.latestTimeNs then (h, .returned false)
      else match checkAge cfg.staleTimeoutSec p.receivedMonotonic at_.time "stale_server_sample" with
        | .error (.uncaught e) => (h, .raised e)
        | .error (.value text) => (h.clear text, .returned false)
        | .ok () =>
          if faultLatched p.payload then ((h.advance at_).clear "server_fault_latched", .returned false)
          else (h.advance at_).recordArms np cfg p.payload at_

/-- The history after a sequence of `record` calls. -/
def History.after (np : Numerics) (cfg : Config) (ps : List Packet) : History :=
  ps.foldl (fun h p => (h.record np cfg p).1) .init

/-! ## One policy window -/

/-- The pose at a time and the times of the two samples it lies between. -/
structure Bracketed where
  pose : List Double
  first : ℕ
  second : ℕ

/-- `previous + alpha * (sample - previous)`, entry by entry. -/
def lerp (alpha : ℚ) (previous sample : List Double) : List Double :=
  List.zipWith (fun a b => a.add ((Double.fin alpha).mul (b.sub a))) previous sample

/-- The pose on the way from one sample to the next. -/
def between (np : Numerics) (time : ℤ) (previous s : Sample) : Bracketed :=
  let alpha : ℚ := (time - previous.time) / ((s.time : ℤ) - previous.time)
  ⟨lerp alpha (previous.pose.take 3) (s.pose.take 3) ++ np.slerp alpha (previous.pose.drop 3) (s.pose.drop 3),
    previous.time, s.time⟩

/-- `_at`, with the sample before the list. -/
def poseAt (np : Numerics) (time maxGapNs : ℤ) : Option Sample → List Sample → Except Failure Bracketed
  | _, [] => .error (.value "history_bracket_unavailable")
  | previous, s :: samples =>
    if (s.time : ℤ) = time then .ok ⟨s.pose, s.time, s.time⟩
    else if time < s.time then
      match previous with
      | none => .error (.value "history_bracket_unavailable")
      | some previous =>
        if maxGapNs < (s.time : ℤ) - previous.time then .error (.value "sparse_history_bracket")
        else .ok (between np time previous s)
    else poseAt np time maxGapNs (some s) samples

/-- The arguments of `body_deltas`. -/
structure Observation where
  payload : Json
  policyDtSec : Double
  nowMonotonic : Double
  notBeforeNs : ℤ

/-- The window that the checks common to both arms leave. -/
structure PolicyWindow where
  stamp : Stamp
  windowNs : ℤ

def PolicyWindow.start (w : PolicyWindow) : ℤ := w.stamp.time - w.windowNs

def policyWindow (cfg : Config) (o : Observation) : Except Failure PolicyWindow := do
  let stamp ← observationStamp o.payload
  match o.policyDtSec with
  | .fin dt =>
    if dt ≤ 0 then .error (.value "invalid_policy_dt")
    else
      let w : PolicyWindow := ⟨stamp, pyRound (dt * 1000000000)⟩
      checkAge cfg.staleTimeoutSec o.nowMonotonic stamp.time "stale_observation"
      if faultLatched o.payload then .error (.value "server_fault_latched")
      else if w.start < o.notBeforeNs then .error (.value "window_crosses_policy_reset")
      else .ok w
  | _ => .error (.value "invalid_policy_dt")

/-- The valid result of one arm. -/
structure ArmDelta where
  referenceResetCount : ℕ
  startPose : Bracketed
  endPose : Bracketed
  delta : List Double

def armDelta (np : Numerics) (h : History) (payload : Json) (w : PolicyWindow) (side : Arm) :
    Except Failure ArmDelta := do
  let (epoch, _) ← readArm np payload side
  let samples := (h.samples side).filter fun s => s.time ≤ w.stamp.time
  if samples = [] then .error (.value h.lastRejection)
  else if samples.any fun s => s.motionEpoch ≠ w.stamp.motion ∨ s.referenceEpoch ≠ epoch then
    .error (.value "observation_epoch_mismatch")
  else do
    let previous ← poseAt np w.start w.windowNs none samples
    let current ← poseAt np w.stamp.time w.windowNs none samples
    return ⟨epoch, previous, current, np.bodyDelta previous.pose current.pose⟩

/-- The results by arm, the invalid ones with their reason. -/
abbrev ArmDeltas := Arm → Except String ArmDelta

/-- The inner handler: a failure that it takes makes the arm invalid. -/
def handled {α : Type} : Except Failure α → Except PyError (Except String α)
  | .ok a => .ok (.ok a)
  | .error (.value text) => .ok (.error text)
  | .error (.uncaught e) => .error e

def bodyDeltas (np : Numerics) (cfg : Config) (h : History) (o : Observation) : Except PyError ArmDeltas := do
  match ← handled (policyWindow cfg o) with
  | .error text => return fun _ => .error text
  | .ok w =>
    let left ← handled (armDelta np h o.payload w .left)
    let right ← handled (armDelta np h o.payload w .right)
    return fun side => match side with
      | .left => left
      | .right => right

/-- The array returned for an arm: zeros unless its result is valid. -/
def ArmDeltas.out (d : ArmDeltas) (side : Arm) : List Double :=
  match d side with
  | .ok r => r.delta
  | .error _ => List.replicate 6 (.fin 0)

end PolicyRunner.ServoHistory
