import RoboticsLab.Control.ArmWorker

/-!
# Marked setpoints

To say what a servo_j is made of, the worker's run is repeated with marked setpoints: each carries
the places in the run of the enqueues it comes from, and a blend carries those of both its ends.
The worker looks at nothing but the requests, so erasing the marks gives its own run back:

    (sourcedAfter opts ops).map setpoint = workerAfter opts ops        (sourcedAfter_erased)
-/

namespace RbServo

open ServoSetpoint

/-! ## Marked setpoints -/

/-- A setpoint with the places in the run of the enqueues it is made of. -/
structure Sourced where
  setpoint : SendServoJRequest Double
  origins : List Nat := []

instance : Inhabited Sourced := ⟨{ setpoint := default }⟩

instance : ServoSetpoint Sourced where
  request s := s.setpoint
  blend frac a b :=
    { setpoint := blendDoubles frac a.setpoint b.setpoint, origins := a.origins ++ b.origins }
  withoutDeadline s := { s with setpoint := { s.setpoint with deadlineNs := 0 } }

/-- Mark the setpoint that an operation enqueues with the operation's place. -/
def WorkerOp.mark (n : Nat) : WorkerOp (SendServoJRequest Double) → WorkerOp Sourced
  | .enqueueServoJ setpoint nowNs => .enqueueServoJ { setpoint := setpoint, origins := [n] } nowNs
  | .enqueueAsyncServoJ setpoint nowNs endNs =>
    .enqueueAsyncServoJ { setpoint := setpoint, origins := [n] } nowNs endNs
  | .enqueueLifecycleCommand command nowNs => .enqueueLifecycleCommand command nowNs
  | .setSendSuppressed suppressed => .setSendSuppressed suppressed
  | .start backendReady startupReads => .start backendReady startupReads
  | .stop => .stop
  | .tick input => .tick input

variable (opts : ArmWorkerOptions)

/-- The worker of the marked run. -/
def sourcedAfter (ops : List (WorkerOp (SendServoJRequest Double))) : ArmWorker Sourced :=
  workerAfter opts (ops.mapIdx WorkerOp.mark)

theorem sourcedAfter_concat (ops : List (WorkerOp (SendServoJRequest Double)))
    (op : WorkerOp (SendServoJRequest Double)) :
    sourcedAfter opts (ops ++ [op]) = (sourcedAfter opts ops).step opts (op.mark ops.length) := by
  unfold sourcedAfter
  rw [List.mapIdx_concat, workerAfter_concat]

/-! ## Erasing the marks -/

section Map

variable {α β : Type*} (f : α → β)

def SetpointInterpolator.map (s : SetpointInterpolator α) : SetpointInterpolator β where
  ring := f ∘ s.ring
  head := s.head
  cursor := s.cursor
  telemetry := s.telemetry

def Setpoints.map (s : Setpoints α) : Setpoints β where
  pendingServoJ := s.pendingServoJ.map f
  lastServoJ := s.lastServoJ.map f
  interp := s.interp.map f

def ArmWorker.map (w : ArmWorker α) : ArmWorker β where
  setpoints := w.setpoints.map f
  lifecycleQueue := w.lifecycleQueue
  sendSuppressed := w.sendSuppressed
  suppressedPrev := w.suppressedPrev
  backendReady := w.backendReady
  running := w.running
  stopRequested := w.stopRequested
  queueSync := w.queueSync
  queueSyncDecision := w.queueSyncDecision
  latestQueueAck := w.latestQueueAck
  telemetry := w.telemetry
  supervision := w.supervision
  lastSendResult := w.lastSendResult

/-- `f` keeps everything the worker looks at in a setpoint. -/
structure SetpointHom [ServoSetpoint α] [ServoSetpoint β] : Prop where
  request : ∀ a, request (f a) = request a
  blend : ∀ t a b, blend t (f a) (f b) = f (blend t a b)
  withoutDeadline : ∀ a, withoutDeadline (f a) = f (withoutDeadline a)

variable {f}

theorem SetpointInterpolator.push_map (s : SetpointInterpolator α) (a : α) :
    (s.map f).push (f a) = (s.push a).map f := by
  have hring : Function.update (f ∘ s.ring) (slot s.head) (f a) =
      f ∘ Function.update s.ring (slot s.head) a := by
    rw [Function.comp_update]
  show SetpointInterpolator.mk _ _ _ _ = SetpointInterpolator.mk _ _ _ _
  rw [SetpointInterpolator.mk.injEq]
  exact ⟨hring, rfl, rfl, rfl⟩

theorem Setpoints.put_map (s : Setpoints α) (a : α) :
    (s.map f).put opts (f a) = (s.put opts a).map f := by
  unfold Setpoints.put Setpoints.map
  dsimp only
  split
  · rw [SetpointInterpolator.push_map]
    rfl
  · rfl

theorem enqueueLifecycleCommand_map (w : ArmWorker α) (command : ArmWorkerCommand) (nowNs : Nat) :
    (enqueueLifecycleCommand opts (w.map f) command nowNs).1 =
      (enqueueLifecycleCommand opts w command nowNs).1.map f := by
  unfold enqueueLifecycleCommand
  simp only [ArmWorker.map]
  split_ifs <;> rfl

theorem start_map (w : ArmWorker α) (backendReady : Bool)
    (startupReads : List (BackendReadResult × Nat)) :
    start opts (w.map f) backendReady startupReads =
      (start opts w backendReady startupReads).map f := by
  have hfold (w : ArmWorker α) : startupReads.foldl
      (fun w read => storeReadResult opts w read.1 read.2) (w.map f) =
      (startupReads.foldl (fun w read => storeReadResult opts w read.1 read.2) w).map f :=
    List.foldl_hom (ArmWorker.map f) fun _ _ => rfl
  unfold start
  show (if w.running = true then _ else _) = _
  split
  · rfl
  · exact hfold { w with
      stopRequested := false
      running := true
      suppressedPrev := false
      backendReady := backendReady }

theorem stop_map (w : ArmWorker α) : stop (w.map f) = (stop w).map f := by
  unfold stop
  show (if w.running = true then _ else _) = _
  split <;> rfl

theorem observeSuppression_map (w : ArmWorker α) :
    observeSuppression (w.map f) = (observeSuppression w).map f := by
  unfold observeSuppression
  show ({ (if (w.sendSuppressed && !w.suppressedPrev) = true then _ else _ : ArmWorker β) with
    suppressedPrev := w.sendSuppressed } : ArmWorker β) = _
  split <;> rfl

variable [ServoSetpoint α] [ServoSetpoint β]

theorem SetpointInterpolator.sample_map (hf : SetpointHom f) (s : SetpointInterpolator α)
    (ratio : Double) :
    (s.map f).sample ServoSetpoint.blend ratio =
      ((s.sample ServoSetpoint.blend ratio).1.map f, (s.sample ServoSetpoint.blend ratio).2.map f) := by
  unfold SetpointInterpolator.sample
  show (if s.head = 0 then _ else _) = _
  split
  · rfl
  · show (if s.head = 1 then _ else _) = _
    split
    · rfl
    · dsimp only
      rw [Option.map_some, ← hf.blend]
      rfl

theorem dropsCommand_map (hf : SetpointHom f) (w : ArmWorker α) (a : α) :
    dropsCommand (w.map f) (f a) = dropsCommand w a := by
  unfold dropsCommand
  show (w.setpoints.pendingServoJ.map f).any _ = _
  cases w.setpoints.pendingServoJ with
  | none => rfl
  | some p => simp [hf.request]

theorem acceptSetpoint_map (hf : SetpointHom f) (w : ArmWorker α) (a : α) :
    acceptSetpoint opts (w.map f) (f a) = (acceptSetpoint opts w a).map f := by
  have hnote : noteOverwrite (w.map f) (f a) = noteOverwrite w a := by
    unfold noteOverwrite
    rw [dropsCommand_map hf]
    have hpending : (w.map f).setpoints.pendingServoJ = w.setpoints.pendingServoJ.map f := rfl
    rw [hpending]
    cases w.setpoints.pendingServoJ with
    | none => rfl
    | some p => simp only [Option.map_some, hf.request]; rfl
  unfold acceptSetpoint
  rw [hnote, hf.request]
  show ArmWorker.mk _ _ _ _ _ _ _ _ _ _ _ _ _ = _
  rw [show (w.map f).setpoints.put opts (f a) = (w.setpoints.put opts a).map f from
    w.setpoints.put_map opts a]
  rfl

theorem enqueueServoJ_map (hf : SetpointHom f) (w : ArmWorker α) (a : α) (nowNs : Nat) :
    enqueueServoJ opts (w.map f) (f a) nowNs = (enqueueServoJ opts w a nowNs).map f := by
  unfold enqueueServoJ
  rw [hf.request, acceptSetpoint_map opts hf]
  show (if (!w.running) = true then _ else _) = _
  split
  · rfl
  · split
    · rfl
    · rfl

theorem enqueueAsyncServoJ_map (hf : SetpointHom f) (w : ArmWorker α) (a : α) (nowNs endNs : Nat) :
    enqueueAsyncServoJ opts (w.map f) (f a) nowNs endNs =
      (enqueueAsyncServoJ opts w a nowNs endNs).map f := by
  unfold enqueueAsyncServoJ
  rw [hf.request, acceptSetpoint_map opts hf, dropsCommand_map hf]
  show (if (!w.running) = true then _ else _) = _
  split
  · rfl
  · dsimp only
    split
    · rfl
    · rfl

/-! ### Ticks -/

theorem pickupInterpolated_map (hf : SetpointHom f) (w : ArmWorker α) :
    pickupInterpolated opts (w.map f) =
      ((pickupInterpolated opts w).1.map f, (pickupInterpolated opts w).2.map f) := by
  have hsample : (w.map f).setpoints.interp.sample blend (periodRatio opts (w.map f)) = _ :=
    w.setpoints.interp.sample_map hf (periodRatio opts w)
  unfold pickupInterpolated
  rw [hsample]
  generalize w.setpoints.interp.sample blend (periodRatio opts w) = t
  obtain ⟨interp, sampled⟩ := t
  have hpending : (w.map f).setpoints.pendingServoJ = w.setpoints.pendingServoJ.map f := rfl
  rw [hpending]
  cases sampled with
  | none =>
    cases w.setpoints.pendingServoJ with
    | none => rfl
    | some p => simp only [Option.map_some, hf.request]; rfl
  | some a =>
    cases w.setpoints.pendingServoJ with
    | none => simp only [Option.map_some, hf.withoutDeadline]; rfl
    | some p => simp only [Option.map_some, hf.request, hf.withoutDeadline]; rfl

/-- The pickup of the mapped worker is the mapped pickup. -/
theorem pickupServoJ_map (hf : SetpointHom f) (w : ArmWorker α) :
    pickupServoJ opts (w.map f) =
      ((pickupServoJ opts w).1.map f, (pickupServoJ opts w).2.map f) := by
  unfold pickupServoJ
  show (if w.sendSuppressed = true then _ else _) = _
  split
  · rfl
  · show (if (ownsCadence opts && opts.interpolateSetpoints && w.setpoints.interp.hasSetpoint) = true
      then _ else _) = _
    split
    · exact pickupInterpolated_map opts hf w
    · have hpending : (w.map f).setpoints.pendingServoJ = w.setpoints.pendingServoJ.map f := rfl
      have hlast : (w.map f).setpoints.lastServoJ = w.setpoints.lastServoJ.map f := rfl
      rw [hpending, hlast]
      cases w.setpoints.pendingServoJ with
      | some p =>
        simp only [Option.map_some, pickupMailbox, hf.request]
        rfl
      | none =>
        cases w.setpoints.lastServoJ with
        | none => rfl
        | some p =>
          simp only [Option.map_some, Option.map_none]
          split
          · simp only [pickupRepeat, hf.withoutDeadline]
            rfl
          · rfl

theorem dispatchServoJ_map (hf : SetpointHom f) (w : ArmWorker α) (a : α) (input : TickInput) :
    dispatchServoJ opts (w.map f) (f a) input =
      ((dispatchServoJ opts w a input).1.map f, (dispatchServoJ opts w a input).2.map f) := by
  unfold dispatchServoJ
  rw [hf.request]
  dsimp only
  split
  · rfl
  · show (if (!w.backendReady) = true then _ else _) = _
    split
    · rfl
    · split
      · rfl
      · rfl

theorem dispatch_map (hf : SetpointHom f) (w : ArmWorker α) (input : TickInput) :
    dispatch opts (w.map f) input =
      ((dispatch opts w input).1.map f, (dispatch opts w input).2.map f) := by
  have hpicked : ∀ (w : ArmWorker α) (command : Option α),
      dispatchPicked opts (w.map f) (command.map f) input =
        ((dispatchPicked opts w command input).1.map f,
          (dispatchPicked opts w command input).2.map f) := by
    intro w command
    cases command with
    | none => rfl
    | some a => exact dispatchServoJ_map opts hf w a input
  have hsilent : ∀ w : ArmWorker α,
      stepSuppressed opts (w.map f) input = (stepSuppressed opts w input).map f := by
    intro w
    unfold stepSuppressed
    show (if (ownsCadence opts && w.suppressedPrev) = true then _ else _) = _
    split <;> rfl
  unfold dispatch
  have hqueue : (w.map f).lifecycleQueue = w.lifecycleQueue := rfl
  rw [hqueue]
  cases w.lifecycleQueue with
  | cons command queue =>
    dsimp only
    unfold dispatchLifecycle
    split
    · rfl
    · split <;> rfl
  | nil =>
    dsimp only
    rw [pickupServoJ_map opts hf, hpicked, hsilent]

/-- **Erasure.**  A tick of the mapped worker is the mapped tick. -/
theorem tick_map (hf : SetpointHom f) (w : ArmWorker α) (input : TickInput) :
    tick opts (w.map f) input = ((tick opts w input).1.map f, (tick opts w input).2.map f) := by
  unfold tick
  show (if (!w.running) = true then _ else _) = _
  split
  · rfl
  · show (if w.stopRequested = true then _ else _) = _
    split
    · rfl
    · rw [observeSuppression_map, dispatch_map opts hf]
      rfl

end Map

theorem setpointHom_setpoint : SetpointHom Sourced.setpoint where
  request _ := rfl
  blend _ _ _ := rfl
  withoutDeadline _ := rfl

/-- The marked run is the worker's run with marks. -/
theorem sourcedAfter_erased (ops : List (WorkerOp (SendServoJRequest Double))) :
    (sourcedAfter opts ops).map Sourced.setpoint = workerAfter opts ops := by
  have hf := setpointHom_setpoint
  induction ops using List.reverseRecOn with
  | nil => rfl
  | append_singleton ops op ih =>
    rw [sourcedAfter_concat, workerAfter_concat, ← ih]
    cases op with
    | enqueueServoJ setpoint nowNs => exact (enqueueServoJ_map opts hf _ _ nowNs).symm
    | enqueueAsyncServoJ setpoint nowNs endNs =>
      exact (enqueueAsyncServoJ_map opts hf _ _ nowNs endNs).symm
    | enqueueLifecycleCommand command nowNs =>
      exact (enqueueLifecycleCommand_map opts _ command nowNs).symm
    | setSendSuppressed suppressed => rfl
    | start backendReady startupReads => exact (start_map opts _ backendReady startupReads).symm
    | stop => exact (stop_map _).symm
    | tick input =>
      show (tick opts (sourcedAfter opts ops) input).1.map Sourced.setpoint =
        (tick opts ((sourcedAfter opts ops).map Sourced.setpoint) input).1
      rw [tick_map opts hf]

end RbServo
