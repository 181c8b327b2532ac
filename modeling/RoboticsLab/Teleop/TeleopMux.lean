import RoboticsLab.ArmInit.OverrideController

/-!
# `TeleopMuxActionSource`: two teleop devices, one owner

The mux polls the SpaceMouse and the UMI grippers on every tick and lets one of them own the whole
robot.  Its sub-sources are arbitrary state machines (`ActionSource`): polling one may raise, and so
may resetting it.  A statement of the mux is an `EStateM`, so what was done before an exception stays
done; an exception that `_spacemouse_intent` does not catch ends the runner's loop.

`calls` is a record kept for the proofs: what was asked of the sub-sources, newest first.
-/

namespace PolicyRunner

/-! ## The sub-sources -/

/-- An exception as the mux sees it: `RuntimeError` and `OSError` are caught around the SpaceMouse. -/
inductive Raised
  | runtimeOrOs
  | other
deriving DecidableEq

inductive Device
  | spacemouse
  | umi
deriving DecidableEq

def Device.other : Device → Device
  | .spacemouse => .umi
  | .umi => .spacemouse

/-- A teleop source with states `S`, polled with the tick's inputs `ι`. -/
structure ActionSource (ι S : Type) where
  nextIntent : ι → EStateM Raised S (Option CommandIntent)
  engaged : S → Bool
  resetEngagement : EStateM Raised S Unit

structure SpaceMouseSource (ι S : Type) extends ActionSource ι S where
  failed : S → Bool
  timeoutSec : S → Double

/-- `CommandIntent.hold`. -/
def CommandIntent.hold (timeoutSec : Double) : CommandIntent where
  mode := "Hold"
  timeoutSec := timeoutSec
  left := some []
  right := some []
  coupledTimeout := true
  tcpTargetProfile := none
  metadata := none

def intentHasGripperTarget : Option CommandIntent → Bool
  | none => false
  | some intent =>
    let has : Option Json.Object → Bool
      | none => false
      | some arm => match arm.getD "gripper_target" with
        | .null => false
        | _ => true
    has intent.left || has intent.right

/-- No intent, or a hold. -/
def noneOrHold : Option CommandIntent → Bool
  | none => true
  | some intent => intent.mode = "Hold"

/-! ## The mux -/

inductive Owner
  | idle
  | device (d : Device)
deriving DecidableEq

/-- What the mux asked of a sub-source. -/
inductive SourceCallRecord
  | produced (d : Device) (intent : Option CommandIntent)
  | raised (d : Device)
  | reset (d : Device)

structure TeleopMux (M U : Type) where
  mouse : M
  umi : U
  owner : Owner := .idle
  spacemouseFailed : Bool := false
  calls : List SourceCallRecord := []

variable {ι M U : Type}

abbrev MuxM (M U α : Type) := EStateM Raised (TeleopMux M U) α

def TeleopMux.log (m : TeleopMux M U) (c : SourceCallRecord) : TeleopMux M U := { m with calls := c :: m.calls }

section

variable (mouse : SpaceMouseSource ι M) (umi : ActionSource ι U)

/-- `self.spacemouse_source.next_intent(snapshot, now_monotonic)`. -/
def pollMouse (x : ι) : MuxM M U (Option CommandIntent) := fun m =>
  match mouse.nextIntent x m.mouse with
  | .ok intent s => .ok intent ({ m with mouse := s }.log (.produced .spacemouse intent))
  | .error e s => .error e ({ m with mouse := s }.log (.raised .spacemouse))

def pollUmi (x : ι) : MuxM M U (Option CommandIntent) := fun m =>
  match umi.nextIntent x m.umi with
  | .ok intent s => .ok intent ({ m with umi := s }.log (.produced .umi intent))
  | .error e s => .error e ({ m with umi := s }.log (.raised .umi))

def resetMouse : MuxM M U Unit := fun m =>
  match mouse.resetEngagement m.mouse with
  | .ok _ s => .ok () ({ m with mouse := s }.log (.reset .spacemouse))
  | .error e s => .error e { m with mouse := s }

def resetUmi : MuxM M U Unit := fun m =>
  match umi.resetEngagement m.umi with
  | .ok _ s => .ok () ({ m with umi := s }.log (.reset .umi))
  | .error e s => .error e { m with umi := s }

def setOwner (owner : Owner) : MuxM M U Unit := modify fun m => { m with owner := owner }

/-- The SpaceMouse reported its failure after the poll. -/
def spacemouseFlagged (intent : Option CommandIntent) :
    MuxM M U (Option CommandIntent × Option CommandIntent) := do
  modify fun m => { m with spacemouseFailed := true }
  resetMouse mouse
  if (← get).owner = .device .spacemouse then
    setOwner .idle
    let timeoutSec := mouse.timeoutSec (← get).mouse
    let hold := if intent.isSome && noneOrHold intent then intent
      else some (CommandIntent.hold timeoutSec)
    return (none, hold)
  return (none, none)

/-- The body of the `try` block of `_spacemouse_intent`. -/
def trySpacemouseIntent (x : ι) : MuxM M U (Option CommandIntent × Option CommandIntent) := do
  let intent ← pollMouse mouse x
  if mouse.failed (← get).mouse then spacemouseFlagged mouse intent
  else return (intent, none)

/-- Its handler. -/
def spacemouseRaised : MuxM M U (Option CommandIntent × Option CommandIntent) := do
  modify fun m => { m with spacemouseFailed := true }
  if (← get).owner = .device .spacemouse then
    setOwner .idle
    return (none, some (CommandIntent.hold (mouse.timeoutSec (← get).mouse)))
  return (none, none)

/-- `_spacemouse_intent`: the intent, and the hold issued when the SpaceMouse fails as the owner. -/
def spacemouseIntent (x : ι) : MuxM M U (Option CommandIntent × Option CommandIntent) := fun m =>
  if m.spacemouseFailed then .ok (none, none) m
  else match trySpacemouseIntent mouse x m with
    | .error .runtimeOrOs m => spacemouseRaised mouse m
    | r => r

/-- Who takes an idle robot. -/
def winner (tieBreak : Device) (spacemouseEngaged umiEngaged : Bool) : Option Device :=
  if spacemouseEngaged && umiEngaged then some tieBreak
  else if spacemouseEngaged then some .spacemouse
  else if umiEngaged then some .umi
  else none

/-- A deflected cap, or a gripper command from its buttons. -/
def spacemouseEngaged (m : TeleopMux M U) (mouseIntent : Option CommandIntent) : Bool :=
  !m.spacemouseFailed && (mouse.engaged m.mouse || intentHasGripperTarget mouseIntent)

/-- The SpaceMouse owns the robot. -/
def mouseOwns (engaged : Bool) (mouseIntent : Option CommandIntent) : MuxM M U (Option CommandIntent) := do
  resetUmi umi
  if !engaged && noneOrHold mouseIntent then setOwner .idle
  return mouseIntent

/-- The UMI grippers own the robot. -/
def umiOwns (engaged : Bool) (umiIntent : Option CommandIntent) : MuxM M U (Option CommandIntent) := do
  resetMouse mouse
  if !engaged && umiIntent.isNone then setOwner .idle
  return umiIntent

/-- The robot is idle. -/
def takeIdle (taker : Option Device) (mouseIntent umiIntent : Option CommandIntent) :
    MuxM M U (Option CommandIntent) :=
  match taker with
  | none => return none
  | some .spacemouse => do
    setOwner (.device .spacemouse)
    resetUmi umi
    return mouseIntent
  | some .umi => do
    setOwner (.device .umi)
    resetMouse mouse
    return umiIntent

/-- `next_intent` once both sub-sources were polled. -/
def arbitrate (tieBreak : Device) (mouseIntent umiIntent : Option CommandIntent) :
    MuxM M U (Option CommandIntent) := fun m =>
  let spacemouseEngaged := spacemouseEngaged mouse m mouseIntent
  let umiEngaged := umi.engaged m.umi
  match m.owner with
  | .device .spacemouse => mouseOwns umi spacemouseEngaged mouseIntent m
  | .device .umi => umiOwns mouse umiEngaged umiIntent m
  | .idle => takeIdle mouse umi (winner tieBreak spacemouseEngaged umiEngaged) mouseIntent umiIntent m

/-- `TeleopMuxActionSource.next_intent`. -/
def muxNextIntent (tieBreak : Device) (x : ι) : MuxM M U (Option CommandIntent) := do
  let (mouseIntent, safetyIntent) ← spacemouseIntent mouse x
  if safetyIntent.isSome then return safetyIntent
  let umiIntent ← pollUmi umi x
  arbitrate mouse umi tieBreak mouseIntent umiIntent

/-- The mux after a run of ticks, when all of them returned. -/
def muxAfter (tieBreak : Device) (m : TeleopMux M U) : List ι → Option (TeleopMux M U)
  | [] => some m
  | x :: xs => match muxNextIntent mouse umi tieBreak x m with
    | .ok _ m => muxAfter tieBreak m xs
    | .error _ _ => none

end

end PolicyRunner
