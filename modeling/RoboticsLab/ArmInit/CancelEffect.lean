import RoboticsLab.ArmInit.PolicySuspension

/-!
# Cancel and the server's late status

A cancel turns the arm's latch off, and the policy's intent that follows makes the server abandon the move.  Until
the server has seen it, its snapshots still report the cancelled request as planning or executing, and an arm that is
off takes such a report for another client's init: the latch goes on again and the policy is silenced.

    until a new start or another request:
      the latch stays off and the policy is forwarded ↔ no snapshot reports planning or executing  (cancelHolds_iff)
-/

open Runs

namespace PolicyRunner

section
variable (py : PyText) (cfg : OverrideConfig) (arm : Arm)

/-- The snapshot reports planning or executing for the arm. -/
def InitSnapshot.ReportsMoving (s : InitSnapshot) : Prop :=
  ∃ payload block, s.blocks = some (payload, block) ∧ isMoving (blockStatus py block arm) = true

/-- The snapshot acknowledges a request of the arm other than `r`. -/
def InitSnapshot.AcksOther (s : InitSnapshot) (r : ℕ) : Prop :=
  ∃ payload block, s.blocks = some (payload, block) ∧ blockAck block arm ≠ .null ∧
    (blockAck block arm).eqInt r = false

/-- The command starts the arm. -/
def OverrideController.Starts (c : OverrideController) (command : ArmInitCommand) : Prop :=
  (c.storeQDeg command).resolve cfg command = .start ∧ arm ∈ armsForSelector command.arms

/-- The command cancels the arm. -/
def OverrideController.Cancels (c : OverrideController) (command : ArmInitCommand) : Prop :=
  (c.storeQDeg command).resolve cfg command = .cancel ∧ arm ∈ armsForSelector command.arms

/-- Neither a new start of the arm nor a snapshot that acknowledges another request; snapshots return normally. -/
def OverrideController.Undisturbed (r : ℕ) (c : OverrideController) : OverrideEvent → Prop
  | .command _ command => ¬ c.Starts cfg arm command
  | .snapshot s => ¬ s.AcksOther arm r ∧ (c.updateFromSnapshot py cfg s).2 = none
  | .compose _ => True
  | .consume => True

/-- `compose_intent` passes the policy's intent for the arm on. -/
def OverrideController.Forwards (c : OverrideController) (intent : Option CommandIntent) : Prop :=
  (c.composeIntent py cfg intent).2 = intent ∨ ∃ i, (c.composeIntent py cfg intent).2 = some i ∧
    i.payload arm = some (armPayload (intent.bind fun i => i.payload arm))

/-- The cancel stands: the latch is off, and unless another arm's external init is active the policy is forwarded. -/
def OverrideController.CancelHolds (c : OverrideController) : Prop :=
  (c.arms arm).on = false ∧ (c.externalInitActive = false → ∀ intent, c.Forwards py cfg arm intent)

/-! ## One step -/

variable {py cfg arm}

/-- Acting on a status does not turn a latch on. -/
theorem Acts.on_of_on {status : String} {ack : Json} {tare : Bool} {l l' : Latch} {emitted : List Transition}
    (acts : Acts cfg status ack tare l l' emitted) (h : l'.on = true) : l.on = true := by
  cases acts with
  | ignored => exact h
  | moving => exact h
  | failed hon => exact hon
  | waiting hon => exact hon
  | released hon => exact hon

/-- A latch that is off stays off in a step without a start and without a report of a moving arm. -/
theorem off_step (c : OverrideController) (event : OverrideEvent) (hq : c.OffQuiet)
    (hstart : ∀ nowNs command, event = .command nowNs command → ¬ c.Starts cfg arm command)
    (hmoving : ∀ s, event = .snapshot s → ¬ s.ReportsMoving py arm) (hoff : (c.arms arm).on = false) :
    ((OverrideController.step py cfg c event).arms arm).on = false := by
  show ((OverrideController.step py cfg c event).latch arm).on = false
  obtain ⟨same, -⟩ | ⟨nowNs, command, he, hstep⟩ | ⟨s, payload, block, emitted, he, hb, acts, -⟩ :=
    step_cases py cfg c event arm hq
  · rw [same]
    exact hoff
  · revert hstep
    generalize (OverrideController.step py cfg c event).latch arm = l'
    generalize c.added arm (OverrideController.step py cfg c event) = emitted
    intro hstep
    cases hstep with
    | kept => exact hoff
    | cancelled => rfl
    | started id h hc => exact absurd ⟨h, hc⟩ (hstart nowNs command he)
  · have hstill : isMoving (blockStatus py block arm) = false := by
      by_contra h
      exact hmoving s he ⟨payload, block, hb, (Bool.not_eq_false _).mp h⟩
    rw [observe_of_not_moving hstill] at acts
    by_contra hon
    have := acts.on_of_on ((Bool.not_eq_false _).mp hon)
    exact absurd this (by rw [show (c.latch arm).on = false from hoff]; decide)

/-- A report of a moving arm turns a latch that is off on. -/
theorem on_of_reportsMoving (c : OverrideController) (s : InitSnapshot) (hq : c.OffQuiet)
    (hret : (c.updateFromSnapshot py cfg s).2 = none) (hmoving : s.ReportsMoving py arm)
    (hoff : (c.arms arm).on = false) : ((c.updateFromSnapshot py cfg s).1.arms arm).on = true := by
  obtain ⟨payload, block, hb, hm⟩ := hmoving
  cases updateFromSnapshot_step py cfg c s arm hq with
  | skipped _ _ why =>
    rcases why with hnone | hraised
    · rw [hb] at hnone
      cases hnone
    · exact absurd hret hraised
  | passed payload' block' hb' emitted acts =>
    rw [hb] at hb'
    obtain ⟨rfl, rfl⟩ := Prod.mk.inj (Option.some.inj hb')
    have hover : (c.latch arm).observe (blockStatus py block arm) (blockAck block arm)
        = (c.latch arm).takeOver (blockAck block arm) := by
      unfold Latch.observe Latch.seesExternal
      rw [hm, show (c.latch arm).on = false from hoff]
      rfl
    rw [hover] at acts
    have hstatus : blockStatus py block arm = "planning" ∨ blockStatus py block arm = "executing" := by
      simpa [isMoving] using hm
    show ((c.updateFromSnapshot py cfg s).1.latch arm).on = true
    revert acts
    generalize (c.updateFromSnapshot py cfg s).1.latch arm = l'
    intro acts
    cases acts with
    | ignored => rfl
    | moving => rfl
    | failed _ _ hs => rcases hstatus with h | h <;> rw [h] at hs <;> exact absurd hs (by decide)
    | waiting => rfl
    | released _ _ _ hdone =>
      rcases hdone with hs | hs
      · rcases hstatus with h | h <;> rw [h] at hs <;> exact absurd hs (by decide)
      · cases hs

/-! ## Whole runs -/

theorem cancel_step (c : OverrideController) (nowNs : ℕ) {command : ArmInitCommand}
    (h : c.Cancels cfg arm command) : ((c.handleCommand cfg nowNs command).arms arm).on = false := by
  have hstep := handleCommand_step c cfg nowNs command arm
  rw [h.1] at hstep
  show ((c.handleCommand cfg nowNs command).latch arm).on = false
  revert hstep
  generalize (c.handleCommand cfg nowNs command).latch arm = l'
  generalize c.added arm (c.handleCommand cfg nowNs command) = emitted
  intro hstep
  cases hstep with
  | kept hn => exact absurd h.2 (hn rfl)
  | cancelled => rfl
  | started _ hs => cases hs

/-- An arm that is off gets the policy's payload. -/
theorem forwards_of_off (events : List OverrideEvent)
    (hoff : ((OverrideController.run py cfg events).arms arm).on = false)
    (hext : (OverrideController.run py cfg events).externalInitActive = false) (intent : Option CommandIntent) :
    (OverrideController.run py cfg events).Forwards py cfg arm intent := by
  have harmed : ∀ arm, ((OverrideController.run py cfg events).latch arm).Armed := armed_run py events
  unfold OverrideController.Forwards
  obtain ⟨-, he⟩ | ⟨left, right, he, hleft, hright⟩ := composeIntent_inactive py cfg harmed hext intent
  · rw [he]
    exact .inl rfl
  · rw [he]
    refine .inr ⟨_, rfl, ?_⟩
    obtain ⟨p, hp, -, hpolicy⟩ := composedPayload_cases harmed hext arm (intent.bind fun i => i.payload arm)
    rw [← hpolicy hoff, ← hp]
    cases arm with
    | left => exact hleft.symm
    | right => exact hright.symm

variable {pre post : List OverrideEvent} {nowNs : ℕ} {command : ArmInitCommand}

theorem run_after_cancel (p : List OverrideEvent) (event : OverrideEvent) :
    OverrideController.run py cfg (pre ++ .command nowNs command :: (p ++ [event]))
      = OverrideController.step py cfg (OverrideController.run py cfg (pre ++ .command nowNs command :: p)) event := by
  rw [← run_concat]
  congr 1
  simp

/-- **Cancel.**  After a cancel of the arm and until a new start or another request of it, the cancel stands exactly
if no snapshot still reports planning or executing for it. -/
theorem cancelHolds_iff (hcancel : (OverrideController.run py cfg pre).Cancels cfg arm command)
    (hpost : EveryStep (fun p event => (OverrideController.run py cfg (pre ++ .command nowNs command :: p)).Undisturbed
      py cfg arm ((OverrideController.run py cfg pre).arms arm).requestId event) post) :
    (∀ p q, post = p ++ q →
      (OverrideController.run py cfg (pre ++ .command nowNs command :: p)).CancelHolds py cfg arm) ↔
    ∀ s, OverrideEvent.snapshot s ∈ post → ¬ s.ReportsMoving py arm := by
  constructor
  · rintro hholds s hs hmoving
    obtain ⟨p, q, rfl⟩ := List.append_of_mem hs
    have hoff := (hholds p _ rfl).1
    have hon := (hholds (p ++ [.snapshot s]) q (by simp)).1
    rw [run_after_cancel] at hon
    have := on_of_reportsMoving _ s (offQuiet_run py cfg _) (hpost p _ q rfl).2 hmoving hoff
    exact absurd (hon.symm.trans this) (by decide)
  · intro hstill p q e
    have hsteps := (hpost.of_append e).and (fun p' event q' e' => ?_ :
      EveryStep (fun _ event => ∀ s, event = .snapshot s → ¬ s.ReportsMoving py arm) p)
    · have hoff := hsteps.invariant
        (fun p => ((OverrideController.run py cfg (pre ++ .command nowNs command :: p)).arms arm).on = false)
        (by
          show ((OverrideController.run py cfg (pre ++ [.command nowNs command])).arms arm).on = false
          rw [run_concat]
          exact cancel_step _ nowNs hcancel)
        (fun p event hoff hc => by
          rw [run_after_cancel]
          refine off_step _ event (offQuiet_run py cfg _) ?_ hc.2 hoff
          rintro nowNs command rfl
          exact hc.1)
      exact ⟨hoff, forwards_of_off _ hoff⟩
    · rintro s rfl
      exact hstill s (by rw [e, e']; simp)

end

/-! ## A cancel that does not stand -/

def sampleJoint : Joint6 where
  values := List.replicate 6 (.fin 0)
  six := rfl
  finite := by decide

def sampleConfig : OverrideConfig where
  timeoutSec := .fin (1 / 5)
  ftTareWaitSec := .fin 2
  autoClearOnDone := true
  autoClearOnFailed := false
  resumeFlowOnDone := true
  resumeFlowOnFailed := false
  allowManualCancelAfterFailed := true

/-- A press for the left arm. -/
def leftPress (action : ArmInitAction) : ArmInitCommand := ⟨.one .left, action, some sampleJoint, none, none⟩

/-- The server's report about the left arm, without a force sensor. -/
def leftReport (status : String) (ack : ℕ) : InitSnapshot where
  payload := .obj [("init_motion", .obj [
    ("left", .obj [("status", .str status), ("request_id", .numUnsigned ack)]),
    ("right", .obj [("status", .str "idle"), ("request_id", .numUnsigned 0)])])]
  receivedMonotonic := .fin 0

/-- The left arm's own init under request 5, which the server executes. -/
def executingRun : List OverrideEvent :=
  [.command 5 (leftPress .start), .snapshot (leftReport "executing" 5)]

/-- A cancel whose first snapshot is already idle. -/
theorem cancelHolds_idle :
    ((OverrideController.run .plain sampleConfig executingRun).Cancels sampleConfig .left (leftPress .cancel)) ∧
    ((OverrideController.run .plain sampleConfig
      (executingRun ++ .command 6 (leftPress .cancel) :: [.snapshot (leftReport "idle" 5)])).CancelHolds
        .plain sampleConfig .left) := by
  have hcancel : (OverrideController.run .plain sampleConfig executingRun).Cancels sampleConfig .left
      (leftPress .cancel) := ⟨by decide +kernel, by decide⟩
  refine ⟨hcancel, ?_⟩
  have hpost : EveryStep (fun p event =>
      (OverrideController.run .plain sampleConfig (executingRun ++ .command 6 (leftPress .cancel) :: p)).Undisturbed
        .plain sampleConfig .left ((OverrideController.run .plain sampleConfig executingRun).arms .left).requestId
        event) [.snapshot (leftReport "idle" 5)] := by
    rw [everyStep_singleton]
    refine ⟨?_, by decide +kernel⟩
    rintro ⟨payload, block, hb, -, hack⟩
    cases hb
    revert hack
    decide +kernel
  refine (cancelHolds_iff hcancel hpost).mpr ?_ _ [] (by simp)
  rintro s hs ⟨payload, block, hb, hmoving⟩
  cases List.mem_singleton.mp hs
  cases hb
  revert hmoving
  decide +kernel

/-- **A late status.**  The own init of the left arm is cancelled, and the next snapshot still reports it as executing:
the latch is on again, as an external init, and the policy's intent is dropped. -/
theorem late_status_relatches :
    ((OverrideController.run .plain sampleConfig executingRun).arms .left).on = true ∧
    (OverrideController.run .plain sampleConfig executingRun).externalInitActive = false ∧
    ((OverrideController.run .plain sampleConfig executingRun).arms .left).requestId = 5 ∧
    (OverrideController.run .plain sampleConfig executingRun).Cancels sampleConfig .left (leftPress .cancel) ∧
    ((OverrideController.run .plain sampleConfig (executingRun ++ .command 6 (leftPress .cancel) ::
      [.snapshot (leftReport "executing" 5)])).arms .left).on = true ∧
    ((OverrideController.run .plain sampleConfig (executingRun ++ .command 6 (leftPress .cancel) ::
      [.snapshot (leftReport "executing" 5)])).composeIntent .plain sampleConfig
        (some ⟨"TcpPoseTarget", .fin 1, none, none, true, none, none⟩)).2.isNone = true := by
  refine ⟨by decide +kernel, by decide +kernel, by decide +kernel, ⟨by decide +kernel, by decide⟩,
    by decide +kernel, by decide +kernel⟩

end PolicyRunner
