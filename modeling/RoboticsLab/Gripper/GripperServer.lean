import RoboticsLab.ArmInit.OverrideController

/-!
# `GripperServer`: one control iteration

`step` drains the command packets that arrived (`drainCommands`), turns the latest setpoints into targets
(`effectiveTargets`: the stale policy), lets contact-close drive the jaw further closed (`ContactClose.apply`) and sends
the result, arm by arm.  A packet whose integer does not fit a float raises out of `step`, which ends the loop of
`GripperServer.run`; `steps` is that loop.  The backend enters with what it measures at the step: the opening and the
motor current of each arm, `none` where the reader fails.  Statistics, the latency probe and the published state read
these values and change none of them.
-/

namespace PolicyRunner.Gripper

/-! ## Contact close -/

structure ContactCloseConfig where
  enable : Bool
  armBelowMm : Double
  releaseHysteresisMm : Double
  currentMa : Double
  sustainMs : Double
  creepMmS : Double
  minMm : Double
  squeezeMm : Double

/-- The defaults of the dataclass. -/
def ContactCloseConfig.default : ContactCloseConfig where
  enable := false
  armBelowMm := .fin 10
  releaseHysteresisMm := .fin 3
  currentMa := .fin 300
  sustainMs := .fin 60
  creepMmS := .fin 25
  minMm := .fin 0
  squeezeMm := .fin (1 / 2)

inductive ContactState
  | idle
  | seeking
  | holding
  | empty
deriving DecidableEq

/-- What the controller keeps of one arm. -/
structure ContactArm where
  state : ContactState
  seek : Double
  latched : Option Double
  holdSec : Double

def ContactArm.init : ContactArm := ⟨.idle, .fin 0, none, .fin 0⟩

def ContactArm.reset (c : ContactArm) : ContactArm := { c with state := .idle, latched := none, holdSec := .fin 0 }

/-- The search a command finds; `false` where the command passes through untouched. -/
def ContactArm.enter (cfg : ContactCloseConfig) (c : ContactArm) (cmd : Double) : ContactArm × Bool :=
  if c.state = .idle then
    if cfg.armBelowMm.lt cmd then (c, false)
    else ({ c with state := .seeking, seek := cmd, holdSec := .fin 0 }, true)
  else if (cfg.armBelowMm.add cfg.releaseHysteresisMm).lt cmd then
    -- the policy asked for the jaw back open
    (c.reset, false)
  else (c, true)

/-- One pass of the search: sustained current latches, otherwise the setpoint creeps closed. -/
def ContactArm.search (cfg : ContactCloseConfig) (dt : Double) (measured currentMa : Option Double)
    (c : ContactArm) : ContactArm :=
  let overCurrent := match currentMa with
    | some amps => cfg.currentMa.le amps.abs
    | none => false
  let holdSec := if overCurrent then c.holdSec.add dt else .fin 0
  if overCurrent && (cfg.sustainMs.mul (.fin (1 / 1000))).le holdSec then
    let base := measured.getD c.seek
    { c with holdSec := holdSec, latched := some (cfg.minMm.max (base.sub cfg.squeezeMm)), state := .holding }
  else
    let seek := cfg.minMm.max (c.seek.sub (cfg.creepMmS.mul dt))
    let closed := match measured with
      | some here => seek.le cfg.minMm && here.le (cfg.minMm.add (.fin 1))
      | none => false
    if closed then { c with holdSec := holdSec, seek := seek, state := .empty, latched := some cfg.minMm }
    else { c with holdSec := holdSec, seek := seek }

/-- The value driven for a command inside the band: never above the command. -/
def ContactArm.drive (c : ContactArm) (cmd : Double) : Double :=
  match (if c.state = .holding ∨ c.state = .empty then c.latched else some c.seek) with
  | some target => cmd.min target
  | none => cmd

/-- The body of the loop of `ContactCloseController.apply`. -/
def ContactArm.apply (cfg : ContactCloseConfig) (dt : Double) (measured currentMa : Option Double) (c : ContactArm) :
    Option Double → ContactArm × Option Double
  | none => (c.reset, none)
  | some cmd =>
    let (c, inside) := c.enter cfg cmd
    if inside then
      let c := if c.state = .seeking then c.search cfg dt measured currentMa else c
      (c, some (c.drive cmd))
    else (c, some cmd)

/-- `ContactCloseController`. -/
structure ContactClose where
  arms : Arm → ContactArm
  last : Option Double

def ContactClose.init : ContactClose := ⟨fun _ => .init, none⟩

abbrev Targets := Arm → Option Double

def ContactClose.apply (cfg : ContactCloseConfig) (c : ContactClose) (targets measured currentMa : Targets)
    (now : Double) : ContactClose × Targets :=
  let dt := match c.last with
    | none => .fin 0
    | some last => Double.max (.fin 0) (now.sub last)
  if !cfg.enable then ({ c with last := some now }, targets)
  else
    let out := fun arm => (c.arms arm).apply cfg dt (measured arm) (currentMa arm) (targets arm)
    (⟨fun arm => (out arm).1, some now⟩, fun arm => (out arm).2)

/-! ## Commands -/

/-- A decoded `gripper_cmd.v1` packet. -/
structure GripperMsg where
  deadman : Bool
  hostTimeNs : Option Json
  arms : Targets

/-- `isinstance(stamp, (int, float)) and stamp > 0`. -/
def positiveNumber : Json → Bool
  | .bool b => b
  | .numUnsigned n => 0 < n
  | .numInteger i => 0 < i
  | .numFloat d => (Double.fin 0).lt d
  | _ => false

/-- The setpoint of one arm's block: `none` skips the arm. -/
def parseArmBlock (py : PyText) (block : Json) : Except PyError (Option Double) :=
  match block with
  | .obj members =>
    if !((members.lookup "valid").getD (.bool true)).pyBool then .ok none
    else match (Json.Object.getD members "percent").pyFloat py with
      | .ok pct => .ok (if pct.isFinite then some ((Double.fin 0).max ((Double.fin 100).min pct)) else none)
      | .error .overflowError => .error .overflowError
      | .error _ => .ok none
  | _ => .ok none

/-- The packet's text is `none` where `json.loads` fails. -/
def parseCommand (py : PyText) (data : Option Json) : Except PyError (Option GripperMsg) :=
  match data with
  | some (.obj members) =>
    match Json.Object.getD members "schema" with
    | .str schema =>
      if schema = "robotics_lab.gripper_cmd.v1" then do
        let left ← parseArmBlock py (Json.Object.getD members "left")
        let right ← parseArmBlock py (Json.Object.getD members "right")
        let stamp := Json.Object.getD members "host_time_ns"
        return some
          { deadman := ((members.lookup "deadman").getD (.bool true)).pyBool
            hostTimeNs := if positiveNumber stamp then some stamp else none
            arms := fun arm => match arm with
              | .left => left
              | .right => right }
      else .ok none
    | _ => .ok none
  | _ => .ok none

/-! ## The server -/

/-- The values of `on_stale`; a text other than `open` and `close` holds. -/
inductive OnStale
  | hold
  | open
  | close
deriving DecidableEq

structure GripperServerConfig where
  staleTimeoutSec : Double
  onStale : OnStale
  contactClose : ContactCloseConfig

structure GripperServer where
  cmdTarget : Targets
  cmdTime : Arm → Option Double
  deadman : Bool
  contact : ContactClose

def GripperServer.init : GripperServer := ⟨fun _ => none, fun _ => none, true, .init⟩

/-- `apply_command`; the age of the packet is taken from a stamp that has to fit a float. -/
def applyCommand (py : PyText) (s : GripperServer) (msg : GripperMsg) (now : Double) :
    Except PyError GripperServer := do
  match msg.hostTimeNs with
  | some sentNs => let _ ← sentNs.pyFloat py
  | none => pure ()
  return { s with
    deadman := msg.deadman
    cmdTarget := fun arm => (msg.arms arm).or (s.cmdTarget arm)
    cmdTime := fun arm => if (msg.arms arm).isSome then some now else s.cmdTime arm }

/-- One pass of the loop of `_drain_commands`. -/
def receive (py : PyText) (now : Double) (s : GripperServer) (data : Option Json) : Except PyError GripperServer := do
  match ← parseCommand py data with
  | some msg => applyCommand py s msg now
  | none => return s

def drainCommands (py : PyText) (s : GripperServer) (packets : List (Option Json)) (now : Double) :
    Except PyError GripperServer :=
  packets.foldlM (receive py now) s

/-- The command of the arm is fresh and the deadman engaged. -/
def GripperServer.fresh (cfg : GripperServerConfig) (s : GripperServer) (now : Double) (arm : Arm) : Bool :=
  s.deadman && match s.cmdTime arm with
    | some t => (now.sub t).le cfg.staleTimeoutSec
    | none => false

def effectiveTargets (cfg : GripperServerConfig) (s : GripperServer) (now : Double) : Targets := fun arm =>
  if s.fresh cfg now arm then s.cmdTarget arm
  else match cfg.onStale with
    | .open => some (.fin 100)
    | .close => some (.fin 0)
    | .hold => s.cmdTarget arm

/-- What one `step` reads: the clock, the waiting packets and the backend. -/
structure StepInput where
  now : Double
  packets : List (Option Json)
  measured : Targets
  currentMa : Targets

/-- The state after the step and the values sent to the backend. -/
def step (py : PyText) (cfg : GripperServerConfig) (s : GripperServer) (x : StepInput) :
    Except PyError (GripperServer × Targets) := do
  let s ← drainCommands py s x.packets x.now
  let (contact, drive) :=
    s.contact.apply cfg.contactClose (effectiveTargets cfg s x.now) x.measured x.currentMa x.now
  return ({ s with contact := contact }, drive)

/-- The loop of `run`: the state it reaches and the values sent at each step. -/
def steps (py : PyText) (cfg : GripperServerConfig) (s : GripperServer) :
    List StepInput → Except PyError (GripperServer × List Targets)
  | [] => .ok (s, [])
  | x :: xs => do
    let (s, drive) ← step py cfg s x
    let (s, sent) ← steps py cfg s xs
    return (s, drive :: sent)

end PolicyRunner.Gripper
