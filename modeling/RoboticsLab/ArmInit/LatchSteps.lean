import RoboticsLab.ArmInit.OverrideController
import RoboticsLab.Lib.Runs

/-!
# What an event does to an arm's latch

`Latch` is the part of an arm's runtime that decides who drives it.  A command starts, cancels or leaves it
(`CommandStep`); one pass of a snapshot takes over an external init or not, and then acts on the status
(`Acts`).  The three lemmas below are all that the results about runs use of the code:

    handleCommand   : CommandStep                                              (handleCommand_step)
    updateArm       : SnapshotStep                                                (updateArm_step)
    updateFromSnapshot : a SnapshotStep of the arm, or nothing, if the snapshot has no block or the left
                      arm's pass raised                                  (updateFromSnapshot_step)
-/

namespace PolicyRunner

/-- `doneShown`: the state is "init done". -/
structure Latch where
  on : Bool
  external : Bool
  fail : Bool
  motionDone : Bool
  doneShown : Bool
  requestId : ℕ
  qDeg : Option Joint6

def ArmRuntime.latch (rt : ArmRuntime) : Latch :=
  ⟨rt.on, rt.external, rt.fail, rt.motionDone, rt.state = .initDone, rt.requestId, rt.qDeg⟩

def OverrideController.latch (c : OverrideController) (arm : Arm) : Latch := (c.arms arm).latch

/-- The transitions of the arm that an operation added to the pending ones. -/
def OverrideController.added (arm : Arm) (c c' : OverrideController) : List Transition :=
  ((c'.pending.drop c.pending.length).filter fun p => p.2 = arm).map Prod.fst

/-! ## Commands -/

def Latch.store (q : Option Joint6) (l : Latch) : Latch := { l with qDeg := q.or l.qDeg }

def Latch.start (requestId : ℕ) (l : Latch) : Latch :=
  { l with
    on := true, external := false, fail := false, motionDone := false, doneShown := false, requestId := requestId }

def Latch.cancel (l : Latch) : Latch := { l with on := false, fail := false, doneShown := false }

/-- What a command does to an arm, and the transitions it adds: it leaves the arm, cancels it or starts a request
with a new id. -/
inductive CommandStep (action : ArmInitAction) (covered : Prop) (l : Latch) : Latch → List Transition → Prop
  | kept (h : action = .cancel → ¬ covered) : CommandStep action covered l l []
  | cancelled (h : action = .cancel) (hc : covered) (emitted : List Transition)
    (he : emitted = [] ∨ emitted = [.cancelled]) : CommandStep action covered l l.cancel emitted
  | started (id : ℕ) (h : action = .start) (hc : covered) (hq : l.qDeg.isSome) (hid : l.requestId < id) :
    CommandStep action covered l (l.start id) [.started]

theorem storeQDeg_latch (c : OverrideController) (command : ArmInitCommand) (arm : Arm) :
    (c.storeQDeg command).latch arm = (c.latch arm).store (command.qDeg arm) := by
  unfold OverrideController.latch OverrideController.storeQDeg Latch.store
  dsimp only
  cases command.qDeg arm with
  | none => rfl
  | some q => rfl

/-- The entries of one arm among those of a press. -/
theorem filter_press (t : Transition) (f : Arm → Bool) (sel : ArmSelector) (arm : Arm) :
    ((((armsForSelector sel).filter f).map fun a => (t, a)).filter fun p => p.2 = arm).map Prod.fst
      = if arm ∈ armsForSelector sel ∧ f arm then [t] else [] := by
  cases sel with
  | both => cases arm <;> cases hl : f .left <;> cases hr : f .right <;> simp [armsForSelector, hl, hr]
  | one a => cases arm <;> cases a <;> cases hl : f .left <;> cases hr : f .right <;> simp [armsForSelector, hl, hr]

theorem cancelArms_step (c : OverrideController) (sel : ArmSelector) (arm : Arm) :
    CommandStep .cancel (arm ∈ armsForSelector sel) (c.latch arm) ((c.cancelArms (armsForSelector sel)).latch arm)
      (c.added arm (c.cancelArms (armsForSelector sel))) := by
  have hadded : c.added arm (c.cancelArms (armsForSelector sel)) =
      if arm ∈ armsForSelector sel ∧ ((c.arms arm).on || (c.arms arm).state.isInit) then [.cancelled] else [] := by
    unfold OverrideController.added OverrideController.cancelArms
    dsimp only
    rw [List.drop_left, filter_press]
  have hlatch : (c.cancelArms (armsForSelector sel)).latch arm =
      if arm ∈ armsForSelector sel then (c.latch arm).cancel else c.latch arm := by
    unfold OverrideController.latch OverrideController.cancelArms
    dsimp only
    split <;> rfl
  rw [hadded, hlatch]
  by_cases harm : arm ∈ armsForSelector sel
  · rw [if_pos harm]
    exact .cancelled rfl harm _ (by split <;> simp)
  · rw [if_neg harm, if_neg (fun h => harm h.1)]
    exact .kept fun _ => harm

theorem requestId_lt_next (c : OverrideController) (nowNs : ℕ) {arms : List Arm} {arm : Arm} (h : arm ∈ arms) :
    (c.latch arm).requestId < c.nextRequestId nowNs arms := by
  have hmono : ∀ (arms : List Arm) (id : ℕ),
      id ≤ arms.foldl (fun id arm => max id ((c.arms arm).requestId + 1)) id := by
    intro arms
    induction arms with
    | nil => intro id; exact le_rfl
    | cons a arms ih => intro id; exact (le_max_left _ _).trans (ih _)
  unfold OverrideController.nextRequestId
  induction arms generalizing nowNs with
  | nil => cases h
  | cons a arms ih =>
    rw [List.foldl_cons]
    rcases List.mem_cons.mp h with rfl | h
    · exact lt_of_lt_of_le (Nat.lt_of_lt_of_le (Nat.lt_succ_self _) (le_max_right _ _)) (hmono arms _)
    · exact ih _ h

/-- A start latches all its arms or, if a pose is missing, none. -/
theorem startArms_step (c : OverrideController) (nowNs : ℕ) (sel : ArmSelector) (arm : Arm) :
    CommandStep .start (arm ∈ armsForSelector sel) (c.latch arm)
      ((c.startArms nowNs (armsForSelector sel)).latch arm)
      (c.added arm (c.startArms nowNs (armsForSelector sel))) := by
  unfold OverrideController.startArms
  split
  · rename_i hmissing
    have hadded := filter_press .started (fun _ => true) sel arm
    rw [List.filter_true] at hadded
    unfold OverrideController.latch OverrideController.added
    dsimp only
    rw [List.drop_left, hadded]
    by_cases harm : arm ∈ armsForSelector sel
    · rw [if_pos harm, if_pos ⟨harm, rfl⟩]
      have hq := List.filter_eq_nil_iff.mp hmissing arm harm
      refine CommandStep.started _ rfl harm ?_ (requestId_lt_next c nowNs harm)
      show (c.arms arm).qDeg.isSome
      cases hq' : (c.arms arm).qDeg with
      | none => simp [hq'] at hq
      | some q => rfl
    · rw [if_neg harm, if_neg (fun h => harm h.1)]
      exact .kept fun _ => harm
  · have hadded : ∀ error, c.added arm { c with error := error } = [] := by
      intro error
      simp [OverrideController.added]
    rw [hadded]
    exact .kept fun h => absurd h (by decide)

/-- The resolved action is never `toggle`. -/
theorem resolve_ne_toggle (c : OverrideController) (cfg : OverrideConfig) (command : ArmInitCommand) :
    c.resolve cfg command ≠ .toggle := by
  unfold OverrideController.resolve
  cases command.action with
  | toggle =>
    dsimp only
    split
    · decide
    · split <;> decide
  | start => simp
  | cancel => simp
  | config => simp

/-- **A command.** -/
theorem handleCommand_step (c : OverrideController) (cfg : OverrideConfig) (nowNs : ℕ) (command : ArmInitCommand)
    (arm : Arm) :
    CommandStep ((c.storeQDeg command).resolve cfg command) (arm ∈ armsForSelector command.arms)
      ((c.latch arm).store (command.qDeg arm)) ((c.handleCommand cfg nowNs command).latch arm)
      (c.added arm (c.handleCommand cfg nowNs command)) := by
  have hadded : ∀ c', c.added arm c' = (c.storeQDeg command).added arm c' := fun _ => rfl
  rw [← storeQDeg_latch, hadded]
  unfold OverrideController.handleCommand
  generalize c.storeQDeg command = c'
  have hkept : ∀ c'' : OverrideController, c''.latch arm = c'.latch arm → c''.pending = c'.pending →
      CommandStep .config (arm ∈ armsForSelector command.arms) (c'.latch arm) (c''.latch arm) (c'.added arm c'') := by
    intro c'' hlatch hpending
    have hnone : c'.added arm c'' = [] := by simp [OverrideController.added, hpending]
    rw [hlatch, hnone]
    exact .kept fun h => absurd h (by decide)
  cases hr : c'.resolve cfg command with
  | config =>
    simp only [hr]
    cases command.autoRoiRecover with
    | none => exact hkept _ rfl rfl
    | some recover => exact hkept _ rfl rfl
  | cancel =>
    simp only [hr]
    exact cancelArms_step c' command.arms arm
  | start =>
    simp only [hr]
    exact startArms_step c' nowNs command.arms arm
  | toggle => exact absurd hr (resolve_ne_toggle c' cfg command)

/-! ## One arm of a snapshot -/

def Latch.otherRequest (l : Latch) (ack : Json) : Bool :=
  match ack with
  | .null => false
  | ack => !ack.eqInt l.requestId

def Latch.seesExternal (l : Latch) (status : String) (ack : Json) : Bool :=
  isMoving status && (!l.on || (l.external && l.otherRequest ack))

def Latch.takeOver (ack : Json) (l : Latch) : Latch :=
  { l with
    on := true, external := true, fail := false, motionDone := false, doneShown := false,
    requestId := ack.isCount.getD 0 }

/-- An init of another client is taken over first. -/
def Latch.observe (status : String) (ack : Json) (l : Latch) : Latch :=
  if l.seesExternal status ack then l.takeOver ack else l

/-- What the rest of a pass does to the latch, and the transitions it adds. -/
inductive Acts (cfg : OverrideConfig) (status : String) (ack : Json) (tare : Bool) (l : Latch) :
    Latch → List Transition → Prop
  | ignored : Acts cfg status ack tare l l []
  | moving (hs : isMoving status) (hmotion : l.motionDone = false) :
    Acts cfg status ack tare l { l with doneShown := false } []
  | failed (hon : l.on) (hack : l.motionDone ∨ l.otherRequest ack = false) (hs : status = "failed") :
    Acts cfg status ack tare l
      { l with motionDone := false, doneShown := false, fail := true, on := !cfg.clearsOnFailed }
      (if l.fail then [] else [.failed])
  | waiting (hon : l.on) (hack : l.motionDone ∨ l.otherRequest ack = false) (hfail : l.fail = false)
    (hdone : status = "done" ∨ l.motionDone) (htare : tare = true) :
    Acts cfg status ack tare l { l with motionDone := true, doneShown := false } []
  | released (hon : l.on) (hack : l.motionDone ∨ l.otherRequest ack = false) (hfail : l.fail = false)
    (hdone : status = "done" ∨ l.motionDone)
    (htare : tare = false ∨ Double.lt (.fin 0) cfg.tareWait = false) :
    Acts cfg status ack tare l
      { l with
        motionDone := true, doneShown := !cfg.clearsOnDone, on := if cfg.clearsOnDone then false else l.on }
      (if l.doneShown then [] else [.done])

/-- While the latch is off no init is under way in the last status. -/
def ArmRuntime.OffQuiet (rt : ArmRuntime) : Prop := rt.on = false → isMoving rt.serverStatus = false

section
variable (py : PyText) (cfg : OverrideConfig) (payload block : Json.Object) (arm : Arm) (now : Double)

theorem seeForceTorque_latch (rt : ArmRuntime) : (rt.seeForceTorque payload arm).latch = rt.latch ∧
    (rt.seeForceTorque payload arm).serverStatus = rt.serverStatus := by
  unfold ArmRuntime.seeForceTorque
  split
  · split
    · exact ⟨rfl, rfl⟩
    · split <;> exact ⟨rfl, rfl⟩
  · exact ⟨rfl, rfl⟩

theorem movingState_ne_initDone (status : String) : movingState status ≠ .initDone := by
  unfold movingState
  split <;> decide

theorem latchExternal_latch (status : String) (ack : Json) (rt : ArmRuntime) :
    (rt.latchExternal status ack).latch = rt.latch.takeOver ack := by
  simp [ArmRuntime.latch, ArmRuntime.latchExternal, Latch.takeOver, movingState_ne_initDone]

theorem markFailed_latch (message : String) (rt : ArmRuntime) : (rt.markFailed cfg message).latch =
    { rt.latch with motionDone := false, doneShown := false, fail := true, on := !cfg.clearsOnFailed } := by
  cases h : cfg.clearsOnFailed <;> simp [ArmRuntime.latch, ArmRuntime.markFailed, h]

theorem markDone_latch (rt : ArmRuntime) : (rt.markDone cfg).latch =
    { rt.latch with
      fail := false, doneShown := !cfg.clearsOnDone, on := if cfg.clearsOnDone then false else rt.on } := by
  cases h : cfg.clearsOnDone <;> simp [ArmRuntime.latch, ArmRuntime.markDone, h]

theorem awaitTare_acts (status : String) (ack : Json) (error : String) (rt : ArmRuntime) (hon : rt.on)
    (hack : rt.motionDone ∨ rt.latch.otherRequest ack = false) (hfail : rt.fail = false)
    (hdone : status = "done" ∨ rt.motionDone) :
    Acts cfg status ack (ftTarePending py payload arm rt.ftRequired).1 rt.latch
      (rt.awaitTare py cfg payload arm now error).rt.latch (rt.awaitTare py cfg payload arm now error).emitted := by
  unfold ArmRuntime.awaitTare
  dsimp only
  split
  · rename_i hpend
    rw [Bool.and_eq_true] at hpend
    split
    · exact .waiting hon hack hfail hdone hpend.1
    · exact .waiting hon hack hfail hdone hpend.1
  · rename_i hpend
    have htare : (ftTarePending py payload arm rt.ftRequired).1 = false ∨
        Double.lt (.fin 0) cfg.tareWait = false := by
      rwa [Bool.and_eq_true, not_and_or, Bool.not_eq_true, Bool.not_eq_true] at hpend
    have hacts := @Acts.released cfg status ack (ftTarePending py payload arm rt.ftRequired).1 rt.latch hon hack hfail
      hdone htare
    rw [ArmUpdate.stop, markDone_latch]
    have hemit : (if rt.state ≠ .initDone then [Transition.done] else []) =
        if rt.latch.doneShown then [] else [.done] := by
      by_cases hstate : rt.state = .initDone
      · simp [ArmRuntime.latch, hstate]
      · simp [ArmRuntime.latch, hstate]
    have hfail' : rt.latch.fail = false := hfail
    rw [hfail'] at hacts
    rw [hemit]
    exact hacts

/-- The part of a pass that acts on the status; `prevStatus` is what was reported before. -/
theorem settle_acts (status prevStatus message failMode error : String) (ack : Json) (rt : ArmRuntime)
    (hack : rt.on = true → rt.motionDone ∨ rt.latch.otherRequest ack = false)
    (hprev : rt.on = false → isMoving prevStatus = false) :
    Acts cfg status ack (ftTarePending py payload arm rt.ftRequired).1 rt.latch
      (rt.settle py cfg payload arm now status prevStatus message failMode error).rt.latch
      (rt.settle py cfg payload arm now status prevStatus message failMode error).emitted := by
  unfold ArmRuntime.settle
  split
  · rename_i hoff
    rw [Bool.not_eq_true'] at hoff
    rw [if_neg (by simp [hprev hoff])]
    exact .ignored
  · rename_i hon
    have hon : rt.on = true := by simpa using hon
    split
    · exact .ignored
    · rename_i hfail
      split
      · rename_i hmoving
        have hmotion : rt.motionDone = false := by simpa using hmoving.2
        have hacts := @Acts.moving cfg status ack (ftTarePending py payload arm rt.ftRequired).1 rt.latch hmoving.1
          hmotion
        have hlatch : ({ rt with tareWaitStarted := none, state := movingState status } : ArmRuntime).latch
            = { rt.latch with doneShown := false } := by
          simp [ArmRuntime.latch, movingState_ne_initDone]
        rw [ArmUpdate.stop, hlatch]
        exact hacts
      · split
        · rename_i hs
          rw [ArmUpdate.stop, markFailed_latch]
          exact .failed hon (hack hon) hs
        · rename_i hs
          have hfail : rt.fail = false := by
            by_contra hf
            exact hfail ⟨by simpa using hf, hs⟩
          split
          · rename_i hdone
            exact awaitTare_acts py cfg payload arm now status ack error rt hon (hack hon) hfail hdone
          · exact .ignored

/-- The status and the acknowledgement a snapshot's block has for the arm. -/
def blockStatus : String := normStatus py ((armBlock block arm).getD "status")

def blockAck : Json := (armBlock block arm).getD "request_id"

/-- The runtime after the pass has looked at the sensor and for an external init. -/
def ArmRuntime.observed (rt : ArmRuntime) : ArmRuntime :=
  if (rt.seeForceTorque payload arm).seesExternal (blockStatus py block arm) (blockAck block arm) then
    (rt.seeForceTorque payload arm).latchExternal (blockStatus py block arm) (blockAck block arm)
  else rt.seeForceTorque payload arm

def startedIf (latched : Bool) : List Transition := if latched then [.started] else []

theorem seesExternal_seeForceTorque (status : String) (ack : Json) (rt : ArmRuntime) :
    (rt.seeForceTorque payload arm).seesExternal status ack = rt.latch.seesExternal status ack := by
  rw [← (seeForceTorque_latch payload arm rt).1]
  rfl

theorem observed_latch (rt : ArmRuntime) :
    (rt.observed py payload block arm).latch = rt.latch.observe (blockStatus py block arm) (blockAck block arm) := by
  unfold ArmRuntime.observed Latch.observe
  rw [seesExternal_seeForceTorque, ← (seeForceTorque_latch payload arm rt).1]
  split
  · exact latchExternal_latch _ _ _
  · rfl

theorem observed_ftRequired (rt : ArmRuntime) :
    (rt.observed py payload block arm).ftRequired = (rt.seeForceTorque payload arm).ftRequired := by
  unfold ArmRuntime.observed
  split
  · rfl
  · rfl

theorem observed_serverStatus (rt : ArmRuntime) :
    (rt.observed py payload block arm).serverStatus = rt.serverStatus := by
  unfold ArmRuntime.observed
  split
  · exact (seeForceTorque_latch payload arm rt).2
  · exact (seeForceTorque_latch payload arm rt).2

/-- `updateArm` with its stages named. -/
theorem updateArm_eq (error : String) (rt : ArmRuntime) :
    rt.updateArm py cfg payload block arm now error =
      let b := armBlock block arm
      let latched := (rt.seeForceTorque payload arm).seesExternal (blockStatus py block arm) (blockAck block arm)
      let rt1 := rt.observed py payload block arm
      if rt1.on ∧ !rt1.motionDone ∧ rt1.otherRequest (blockAck block arm) then
        .stop rt1 error (startedIf latched) latched
      else
        match (do let goal ← readGoal py b; let text ← formatFailedMessage py b; pure (goal, text)) with
        | .error e => ⟨rt1, error, startedIf latched, latched, some e⟩
        | .ok (goal, text) =>
          let failMode := (b.getD "fail_mode").pyStrOrEmpty py
          let message := orElseText text ((b.getD "message").pyStrOrEmpty py)
          let u := (rt1.takeReadings (blockStatus py block arm) failMode message goal).settle py cfg payload arm now
            (blockStatus py block arm) rt1.serverStatus message failMode error
          { u with emitted := startedIf latched ++ u.emitted, changed := latched || u.changed } := rfl

/-- A pass drops the report as another request's, raises, or takes the readings and settles. -/
theorem updateArm_cases (error : String) (rt : ArmRuntime) :
    let u := rt.updateArm py cfg payload block arm now error
    let rt1 := rt.observed py payload block arm
    let emitted := startedIf (rt.latch.seesExternal (blockStatus py block arm) (blockAck block arm))
    (u.rt = rt1 ∧ u.emitted = emitted ∧ (u.raised = none →
      rt1.on = true ∧ rt1.motionDone = false ∧ rt1.latch.otherRequest (blockAck block arm) = true)) ∨
    (rt1.on = true → rt1.motionDone ∨ rt1.latch.otherRequest (blockAck block arm) = false) ∧
      ∃ failMode message goal,
        let v := (rt1.takeReadings (blockStatus py block arm) failMode message goal).settle py cfg payload arm now
          (blockStatus py block arm) rt1.serverStatus message failMode error
        u.rt = v.rt ∧ u.emitted = emitted ++ v.emitted ∧ u.raised = v.raised := by
  intro u rt1 emitted
  have hu := updateArm_eq py cfg payload block arm now error rt
  rw [seesExternal_seeForceTorque] at hu
  change u = _ at hu
  dsimp only at hu
  by_cases hdrop : rt1.on ∧ !rt1.motionDone ∧ rt1.otherRequest (blockAck block arm)
  · left
    rw [if_pos hdrop] at hu
    rw [hu]
    exact ⟨rfl, rfl, fun _ => ⟨hdrop.1, by simpa using hdrop.2.1, hdrop.2.2⟩⟩
  · rw [if_neg hdrop] at hu
    have hack : rt1.on = true → rt1.motionDone ∨ rt1.latch.otherRequest (blockAck block arm) = false := by
      intro hon
      by_cases hm : rt1.motionDone
      · exact .inl hm
      · right
        by_contra hother
        exact hdrop ⟨hon, by simpa using hm, (Bool.not_eq_false _).mp hother⟩
    split at hu
    · left
      rw [hu]
      exact ⟨rfl, rfl, fun h => absurd h (by simp)⟩
    · right
      rename_i goal text _
      refine ⟨hack, ((armBlock block arm).getD "fail_mode").pyStrOrEmpty py,
        orElseText text (((armBlock block arm).getD "message").pyStrOrEmpty py), goal, ?_⟩
      rw [hu]
      exact ⟨rfl, rfl, rfl⟩

/-- An arm that is off after the look for an external init was off, and no init is reported. -/
theorem on_of_observed_off (rt : ArmRuntime) (h : (rt.observed py payload block arm).on = false) :
    rt.on = false ∧ isMoving (blockStatus py block arm) = false := by
  have hl : (rt.latch.observe (blockStatus py block arm) (blockAck block arm)).on = false := by
    rw [← observed_latch]
    exact h
  unfold Latch.observe at hl
  split at hl
  · cases hl
  · rename_i hsees
    refine ⟨hl, ?_⟩
    by_contra hmoving
    apply hsees
    unfold Latch.seesExternal
    rw [hl]
    simpa using hmoving

/-- **One arm of a snapshot.**  An external init is taken over, then the pass acts on the status. -/
theorem updateArm_step (error : String) (rt : ArmRuntime) (hquiet : rt.OffQuiet) :
    ∃ emitted, Acts cfg (blockStatus py block arm) (blockAck block arm)
        (ftTarePending py payload arm (rt.seeForceTorque payload arm).ftRequired).1
        (rt.latch.observe (blockStatus py block arm) (blockAck block arm))
        (rt.updateArm py cfg payload block arm now error).rt.latch emitted ∧
      (rt.updateArm py cfg payload block arm now error).emitted =
        startedIf (rt.latch.seesExternal (blockStatus py block arm) (blockAck block arm)) ++ emitted := by
  obtain ⟨hrt, hemit, -⟩ | ⟨hack, failMode, message, goal, hrt, hemit, -⟩ :=
    updateArm_cases py cfg payload block arm now error rt
  · refine ⟨[], ?_, by rw [hemit, List.append_nil]⟩
    rw [hrt, observed_latch]
    exact .ignored
  · have hacts := settle_acts py cfg payload arm now (blockStatus py block arm)
      (rt.observed py payload block arm).serverStatus message failMode error (blockAck block arm)
      ((rt.observed py payload block arm).takeReadings (blockStatus py block arm) failMode message goal) hack
      (fun hoff => by
        rw [observed_serverStatus]
        exact hquiet (on_of_observed_off py payload block arm rt hoff).1)
    refine ⟨_, ?_, hemit⟩
    rw [hrt, ← observed_latch, ← observed_ftRequired py payload block]
    exact hacts

theorem observe_of_not_moving {status : String} (h : isMoving status = false) (ack : Json) (l : Latch) :
    l.observe status ack = l := by
  unfold Latch.observe Latch.seesExternal
  rw [h]
  rfl

/-- A pass that does not raise takes a failure of the arm's own request. -/
theorem updateArm_failed (error : String) (rt : ArmRuntime) (hs : blockStatus py block arm = "failed")
    (hon : rt.on = true) (hack : rt.latch.otherRequest (blockAck block arm) = false)
    (hret : (rt.updateArm py cfg payload block arm now error).raised = none) :
    (rt.updateArm py cfg payload block arm now error).rt.fail = true := by
  have hlatch : (rt.observed py payload block arm).latch = rt.latch := by
    rw [observed_latch, hs]
    exact observe_of_not_moving (by decide) _ _
  obtain ⟨-, -, hother⟩ | ⟨-, failMode, message, goal, hrt, -⟩ := updateArm_cases py cfg payload block arm now error rt
  · have := (hother hret).2.2
    rw [hlatch, hack] at this
    cases this
  · have hon' : ((rt.observed py payload block arm).takeReadings (blockStatus py block arm) failMode message goal).on
        = true := (congrArg Latch.on hlatch).trans hon
    rw [hrt]
    unfold ArmRuntime.settle
    rw [if_neg (by rw [hon']; decide), if_neg (fun h => h.2 hs),
      if_neg (fun h => by rw [hs] at h; exact absurd h.1 (by decide)),
      if_pos hs]
    rfl

/-! ## The last status of an arm that is off -/

theorem offQuiet_awaitTare (error : String) (rt : ArmRuntime) (hon : rt.on) :
    (rt.awaitTare py cfg payload arm now error).rt.OffQuiet := by
  unfold ArmRuntime.awaitTare
  dsimp only
  split
  · split
    · intro hoff
      exact absurd hoff (by simp [ArmUpdate.stop, hon])
    · intro hoff
      exact absurd hoff (by simp [ArmUpdate.stop, hon])
  · intro _
    rfl

theorem offQuiet_settle (status prevStatus message failMode error : String) (rt : ArmRuntime) (h : rt.OffQuiet) :
    (rt.settle py cfg payload arm now status prevStatus message failMode error).rt.OffQuiet := by
  unfold ArmRuntime.settle
  split
  · split
    · exact h
    · exact h
  · rename_i hon
    have hon : rt.on = true := by simpa using hon
    split
    · exact h
    · split
      · exact h
      · split
        · intro _
          rfl
        · split
          · exact offQuiet_awaitTare py cfg payload arm now error rt hon
          · exact h

theorem offQuiet_updateArm (error : String) (rt : ArmRuntime) (h : rt.OffQuiet) :
    (rt.updateArm py cfg payload block arm now error).rt.OffQuiet := by
  obtain ⟨hrt, -⟩ | ⟨-, failMode, message, goal, hrt, -⟩ := updateArm_cases py cfg payload block arm now error rt
  · rw [hrt]
    intro hoff
    rw [observed_serverStatus]
    exact h (on_of_observed_off py payload block arm rt hoff).1
  · rw [hrt]
    apply offQuiet_settle
    intro hoff
    obtain ⟨hrtoff, hmoving⟩ := on_of_observed_off py payload block arm rt hoff
    show isMoving (orElseText _ (rt.observed py payload block arm).serverStatus) = false
    rw [observed_serverStatus]
    unfold orElseText
    split
    · exact h hrtoff
    · exact hmoving

end

/-! ## The snapshot -/

section
variable (py : PyText) (cfg : OverrideConfig)

/-- The payload of a snapshot and its `init_motion` block. -/
def InitSnapshot.blocks (s : InitSnapshot) : Option (Json.Object × Json.Object) :=
  s.payload.isObject.bind fun payload => ((payload.getD "init_motion").isObject).map fun block => (payload, block)

/-- Every arm that is off has a quiet last status. -/
def OverrideController.OffQuiet (c : OverrideController) : Prop := ∀ arm, (c.arms arm).OffQuiet

theorem added_of_pending {c c' : OverrideController} {left right : List Transition}
    (h : c'.pending = c.pending ++ left.map (fun t => (t, Arm.left)) ++ right.map (fun t => (t, Arm.right))) :
    c.added .left c' = left ∧ c.added .right c' = right := by
  unfold OverrideController.added
  rw [h, List.append_assoc, List.drop_left]
  clear h
  constructor
  · induction left with
    | nil => simp [List.filter_map, Function.comp_def]
    | cons t left ih => simpa using ih
  · induction left with
    | nil => simp [List.filter_map, Function.comp_def]
    | cons t left ih => simpa using ih

/-- The arm's pass of a snapshot with blocks: it is skipped only if the left arm's pass raised. -/
theorem updateFromSnapshot_arm (c : OverrideController) (s : InitSnapshot) {payload block : Json.Object}
    (hb : s.blocks = some (payload, block)) (arm : Arm) :
    let out := c.updateFromSnapshot py cfg s
    (∃ error, let u := (c.arms arm).updateArm py cfg payload block arm s.receivedMonotonic error
      out.1.arms arm = u.rt ∧ c.added arm out.1 = u.emitted ∧ (out.2 = none → u.raised = none)) ∨
    out.1.arms arm = c.arms arm ∧ c.added arm out.1 = [] ∧ out.2 ≠ none := by
  intro out
  obtain ⟨hp, hblock⟩ : s.payload.isObject = some payload ∧ (payload.getD "init_motion").isObject = some block := by
    unfold InitSnapshot.blocks at hb
    cases hp : s.payload.isObject with
    | none => rw [hp] at hb; cases hb
    | some p =>
      rw [hp] at hb
      obtain ⟨b, hb', he⟩ := Option.map_eq_some_iff.mp hb
      cases he
      exact ⟨rfl, hb'⟩
  have hout : out = c.updateFromSnapshot py cfg s := rfl
  unfold OverrideController.updateFromSnapshot at hout
  rw [hp] at hout
  dsimp only at hout
  rw [hblock] at hout
  dsimp only at hout
  unfold OverrideController.updateArm at hout
  dsimp only at hout
  generalize hl : (c.arms .left).updateArm py cfg payload block .left s.receivedMonotonic c.error = ul at hout
  have hright : Function.update c.arms Arm.left ul.rt Arm.right = c.arms .right := by
    rw [Function.update_of_ne]
    decide
  cases hrl : ul.raised with
  | some e =>
    rw [hrl] at hout
    dsimp only at hout
    have hpending : out.1.pending = c.pending ++ ul.emitted.map (fun t => (t, Arm.left)) ++
        ([] : List Transition).map (fun t => (t, Arm.right)) := by
      rw [hout]
      simp
    have hadded := added_of_pending hpending
    cases arm with
    | left =>
      left
      refine ⟨c.error, ?_⟩
      rw [hl]
      refine ⟨by rw [hout]; simp, hadded.1, fun h => ?_⟩
      rw [hout] at h
      cases h
    | right =>
      right
      refine ⟨by rw [hout]; exact hright, hadded.2, ?_⟩
      rw [hout]
      simp
  | none =>
    rw [hrl] at hout
    dsimp only at hout
    rw [hright] at hout
    generalize hr : (c.arms .right).updateArm py cfg payload block .right s.receivedMonotonic ul.error = ur at hout
    have hboth : out.1.arms = Function.update (Function.update c.arms .left ul.rt) .right ur.rt ∧
        out.1.pending = c.pending ++ ul.emitted.map (fun t => (t, Arm.left)) ++
          ur.emitted.map (fun t => (t, Arm.right)) ∧ (out.2 = none → ur.raised = none) := by
      cases hrr : ur.raised with
      | some e =>
        rw [hrr] at hout
        dsimp only at hout
        rw [hout]
        exact ⟨rfl, rfl, fun h => by cases h⟩
      | none =>
        rw [hrr] at hout
        dsimp only at hout
        rw [hout]
        exact ⟨rfl, rfl, fun _ => rfl⟩
    have hadded := added_of_pending hboth.2.1
    left
    cases arm with
    | left =>
      refine ⟨c.error, ?_⟩
      rw [hl]
      refine ⟨?_, hadded.1, fun _ => hrl⟩
      rw [hboth.1, Function.update_of_ne (by decide), Function.update_self]
    | right =>
      refine ⟨ul.error, ?_⟩
      rw [hr]
      refine ⟨?_, hadded.2, hboth.2.2⟩
      rw [hboth.1, Function.update_self]

theorem updateFromSnapshot_none (c : OverrideController) (s : InitSnapshot) (hb : s.blocks = none) :
    c.updateFromSnapshot py cfg s = (c, none) := by
  unfold InitSnapshot.blocks at hb
  unfold OverrideController.updateFromSnapshot
  cases hp : s.payload.isObject with
  | none => rfl
  | some payload =>
    rw [hp] at hb
    dsimp only [Option.bind_some] at hb ⊢
    rw [Option.map_eq_none_iff.mp hb]

/-- What a snapshot does to an arm: nothing, or one pass. -/
inductive SnapshotStep (s : InitSnapshot) (arm : Arm) (c c' : OverrideController) : Prop
  | skipped (same : c'.latch arm = c.latch arm) (added : c.added arm c' = [])
    (why : s.blocks = none ∨ (c.updateFromSnapshot py cfg s).2 ≠ none)
  | passed (payload block : Json.Object) (hb : s.blocks = some (payload, block)) (emitted : List Transition)
    (acts : Acts cfg (blockStatus py block arm) (blockAck block arm)
      (ftTarePending py payload arm ((c.arms arm).seeForceTorque payload arm).ftRequired).1
      ((c.latch arm).observe (blockStatus py block arm) (blockAck block arm)) (c'.latch arm) emitted)
    (added : c.added arm c' =
      startedIf ((c.latch arm).seesExternal (blockStatus py block arm) (blockAck block arm)) ++ emitted)

/-- **A snapshot.** -/
theorem updateFromSnapshot_step (c : OverrideController) (s : InitSnapshot) (arm : Arm) (h : c.OffQuiet) :
    SnapshotStep py cfg s arm c (c.updateFromSnapshot py cfg s).1 := by
  cases hb : s.blocks with
  | none =>
    rw [updateFromSnapshot_none py cfg c s hb]
    exact .skipped rfl (by simp [OverrideController.added]) (.inl hb)
  | some blocks =>
    obtain ⟨payload, block⟩ := blocks
    obtain ⟨error, harm, hadded, -⟩ | ⟨harm, hadded, hraised⟩ := updateFromSnapshot_arm py cfg c s hb arm
    · obtain ⟨emitted, hacts, hemit⟩ := updateArm_step py cfg payload block arm s.receivedMonotonic error
        (c.arms arm) (h arm)
      refine .passed payload block hb emitted ?_ (hadded.trans hemit)
      unfold OverrideController.latch
      rw [harm]
      exact hacts
    · exact .skipped (by unfold OverrideController.latch; rw [harm]) hadded (.inr hraised)

/-- A processed snapshot with a failure of the arm's own request is taken. -/
theorem updateFromSnapshot_failed (c : OverrideController) (s : InitSnapshot) {payload block : Json.Object} {arm : Arm}
    (hb : s.blocks = some (payload, block)) (hs : blockStatus py block arm = "failed")
    (hon : (c.latch arm).on = true) (hack : (c.latch arm).otherRequest (blockAck block arm) = false)
    (hret : (c.updateFromSnapshot py cfg s).2 = none) :
    ((c.updateFromSnapshot py cfg s).1.latch arm).fail = true := by
  obtain ⟨error, harm, -, hraised⟩ | ⟨-, -, hraised⟩ := updateFromSnapshot_arm py cfg c s hb arm
  · show ((c.updateFromSnapshot py cfg s).1.arms arm).fail = true
    rw [harm]
    exact updateArm_failed py cfg payload block arm s.receivedMonotonic error (c.arms arm) hs hon hack (hraised hret)
  · exact absurd hret hraised

theorem offQuiet_updateFromSnapshot (c : OverrideController) (s : InitSnapshot) (h : c.OffQuiet) :
    (c.updateFromSnapshot py cfg s).1.OffQuiet := by
  intro arm
  cases hb : s.blocks with
  | none =>
    rw [updateFromSnapshot_none py cfg c s hb]
    exact h arm
  | some blocks =>
    obtain ⟨payload, block⟩ := blocks
    obtain ⟨error, harm, -⟩ | ⟨harm, -⟩ := updateFromSnapshot_arm py cfg c s hb arm
    · rw [harm]
      exact offQuiet_updateArm py cfg payload block arm s.receivedMonotonic error (c.arms arm) (h arm)
    · rw [harm]
      exact h arm

/-! ## The other operations -/

theorem offQuiet_handleCommand (c : OverrideController) (nowNs : ℕ) (command : ArmInitCommand) (h : c.OffQuiet) :
    (c.handleCommand cfg nowNs command).OffQuiet := by
  have hstore : (c.storeQDeg command).OffQuiet := by
    intro arm
    have hsame : ((c.storeQDeg command).arms arm).on = (c.arms arm).on ∧
        ((c.storeQDeg command).arms arm).serverStatus = (c.arms arm).serverStatus := by
      unfold OverrideController.storeQDeg
      dsimp only
      cases command.qDeg arm with
      | none => exact ⟨rfl, rfl⟩
      | some q => exact ⟨rfl, rfl⟩
    intro hoff
    rw [hsame.2]
    exact h arm (hsame.1 ▸ hoff)
  intro arm
  unfold OverrideController.handleCommand
  dsimp only
  split
  · split
    · exact hstore arm
    · exact hstore arm
  · intro hoff
    unfold OverrideController.cancelArms at hoff ⊢
    dsimp only at hoff ⊢
    split at hoff
    · rename_i harm
      rw [if_pos harm]
      rfl
    · rename_i harm
      rw [if_neg harm]
      exact hstore arm hoff
  · intro hoff
    unfold OverrideController.startArms at hoff ⊢
    split at hoff
    · dsimp only at hoff ⊢
      split at hoff
      · cases hoff
      · rename_i harm
        rw [if_neg harm]
        exact hstore arm hoff
    · exact hstore arm hoff

/-- `compose_intent` writes at most the error text. -/
theorem composeIntent_keeps (c : OverrideController) (intent : Option CommandIntent) :
    (c.composeIntent py cfg intent).1.arms = c.arms ∧ (c.composeIntent py cfg intent).1.pending = c.pending := by
  unfold OverrideController.composeIntent
  split
  · unfold OverrideController.externalInitIntent
    dsimp only
    split <;> exact ⟨rfl, rfl⟩
  · split
    · exact ⟨rfl, rfl⟩
    · split
      · exact ⟨rfl, rfl⟩
      · split <;> exact ⟨rfl, rfl⟩

theorem run_concat (events : List OverrideEvent) (event : OverrideEvent) :
    OverrideController.run py cfg (events ++ [event])
      = OverrideController.step py cfg (OverrideController.run py cfg events) event := by
  unfold OverrideController.run
  rw [List.foldl_append]
  rfl

theorem offQuiet_step (c : OverrideController) (event : OverrideEvent) (h : c.OffQuiet) :
    (OverrideController.step py cfg c event).OffQuiet := by
  cases event with
  | command nowNs command => exact offQuiet_handleCommand cfg c nowNs command h
  | snapshot s => exact offQuiet_updateFromSnapshot py cfg c s h
  | compose intent =>
    intro arm
    show ((c.composeIntent py cfg intent).1.arms arm).OffQuiet
    rw [(composeIntent_keeps py cfg c intent).1]
    exact h arm
  | consume => exact h

theorem offQuiet_run (events : List OverrideEvent) : (OverrideController.run py cfg events).OffQuiet := by
  induction events using List.reverseRecOn with
  | nil =>
    intro arm _
    rfl
  | append_singleton events event ih =>
    rw [run_concat]
    exact offQuiet_step py cfg _ event ih

/-- **One step.**  What an event does to the latch of an arm, and the transitions it adds. -/
theorem step_cases (c : OverrideController) (event : OverrideEvent) (arm : Arm) (hq : c.OffQuiet) :
    let c' := OverrideController.step py cfg c event
    (c'.latch arm = c.latch arm ∧ c.added arm c' = []) ∨
    (∃ nowNs command, event = .command nowNs command ∧
      CommandStep ((c.storeQDeg command).resolve cfg command) (arm ∈ armsForSelector command.arms)
        ((c.latch arm).store (command.qDeg arm)) (c'.latch arm) (c.added arm c')) ∨
    ∃ s payload block emitted, event = .snapshot s ∧ s.blocks = some (payload, block) ∧
      Acts cfg (blockStatus py block arm) (blockAck block arm)
        (ftTarePending py payload arm ((c.arms arm).seeForceTorque payload arm).ftRequired).1
        ((c.latch arm).observe (blockStatus py block arm) (blockAck block arm)) (c'.latch arm) emitted ∧
      c.added arm c' =
        startedIf ((c.latch arm).seesExternal (blockStatus py block arm) (blockAck block arm)) ++ emitted := by
  intro c'
  cases event with
  | command nowNs command => exact .inr (.inl ⟨nowNs, command, rfl, handleCommand_step c cfg nowNs command arm⟩)
  | snapshot s =>
    cases updateFromSnapshot_step py cfg c s arm hq with
    | skipped same added => exact .inl ⟨same, added⟩
    | passed payload block hb emitted acts added =>
      exact .inr (.inr ⟨s, payload, block, emitted, rfl, hb, acts, added⟩)
  | compose intent =>
    obtain ⟨harms, hpending⟩ := composeIntent_keeps py cfg c intent
    refine .inl ⟨?_, ?_⟩
    · show ((c.composeIntent py cfg intent).1.arms arm).latch = (c.arms arm).latch
      rw [harms]
    · show c.added arm (c.composeIntent py cfg intent).1 = []
      simp [OverrideController.added, hpending]
  | consume =>
    refine .inl ⟨rfl, ?_⟩
    show c.added arm c.consumeTransitions = []
    simp [OverrideController.added, OverrideController.consumeTransitions]

end

end PolicyRunner
