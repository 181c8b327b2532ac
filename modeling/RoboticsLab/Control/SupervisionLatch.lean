import RoboticsLab.Control.ArmWorker

/-!
# The supervision fault of async streaming as a latch

Ten writers move the supervision state; all but one leave a Fault alone or write Fault.  The
exception is `recordNotAttempted`: a dispatch that was dropped before the backend call because it
expired, or because the worker was not running, writes Warning over a Fault, and the next enqueue
writes Ok (`expired_dispatch_clears_fault`).

    Fault throughout ops ↔ no stored result is named command_expired or not_running
                                                                          (fault_latched_iff)
-/

namespace RbServo

/-- The operations that move the supervision state. -/
inductive SupervisionOp (α : Type*)
  | enqueueAsyncServoJ (setpoint : α) (nowNs endNs : Nat)
  | storeSendResult (request : SendServoJRequest Double) (result : SendServoJResult)
      (timing : BackendTiming)
  | storeReadResult (result : BackendReadResult) (observedNs : Nat)

variable {α : Type*} [ServoSetpoint α] (opts : ArmWorkerOptions)

def ArmWorker.supervise (w : ArmWorker α) : SupervisionOp α → ArmWorker α
  | .enqueueAsyncServoJ setpoint nowNs endNs => enqueueAsyncServoJ opts w setpoint nowNs endNs
  | .storeSendResult request result timing => storeSendResult opts w request result timing
  | .storeReadResult result observedNs => storeReadResult opts w result observedNs

def supervisedAfter (w : ArmWorker α) (ops : List (SupervisionOp α)) : ArmWorker α :=
  ops.foldl (ArmWorker.supervise opts) w

@[simp] theorem supervisedAfter_concat (w : ArmWorker α) (ops : List (SupervisionOp α))
    (op : SupervisionOp α) :
    supervisedAfter opts w (ops ++ [op]) = (supervisedAfter opts w ops).supervise opts op := by
  simp [supervisedAfter]

/-- The dispatch was dropped before the backend call, for a reason other than an unready backend. -/
def droppedBeforeDispatch (result : SendServoJResult) : Bool :=
  decide (result.error.name = "arm_worker_command_expired") ||
    decide (result.error.name = "arm_worker_not_running")

/-- The operation stores no result that was dropped before its dispatch. -/
def KeepsLatch : SupervisionOp α → Prop
  | .storeSendResult _ result _ => droppedBeforeDispatch result = false
  | _ => True

/-! ## The guarded writers -/

@[simp] theorem setState_state (a : AsyncSupervision) (s : SupervisionState) :
    (a.setState s).state = s := rfl

theorem setUnlessFault_state {a : AsyncSupervision} (h : a.state = .fault) (s : SupervisionState) :
    (a.setUnlessFault s).state = .fault := by
  unfold AsyncSupervision.setUnlessFault
  rw [if_pos h]
  exact h

theorem recordAcceptance_state {a : AsyncSupervision} (h : a.state = .fault) (async : AsyncOptions)
    (request : SendServoJRequest Double) (result : SendServoJResult) (timing : BackendTiming) :
    (recordAcceptance async a request result timing).state = .fault := by
  unfold recordAcceptance
  split
  · exact h
  · split
    · exact h
    · split
      · unfold recordMissingAck
        dsimp only
        split
        · rfl
        · refine setUnlessFault_state ?_ .warning
          exact h
      · exact h

theorem recordRejection_state {a : AsyncSupervision} (h : a.state = .fault) (async : AsyncOptions)
    (result : SendServoJResult) : (recordRejection async a result).state = .fault := by
  unfold recordRejection
  dsimp only
  split
  · split
    · rfl
    · refine setUnlessFault_state ?_ .warning
      exact h
  · rfl

theorem referenceWatchdog_state {a : AsyncSupervision} (h : a.state = .fault) (async : AsyncOptions)
    (sent : SendServoJRequest Double) (observedNs : Nat) :
    (referenceWatchdog async a sent observedNs).state = .fault := by
  unfold referenceWatchdog
  dsimp only
  split
  · exact h
  · split
    · exact h
    · split
      · exact h
      · split
        · rfl
        · refine setUnlessFault_state ?_ .warning
          exact h

/-! ## One operation -/

/-- A stored send result keeps the fault, unless it was dropped before its dispatch. -/
theorem updateAsyncSendTelemetry_state {a : AsyncSupervision} (h : a.state = .fault)
    (async : AsyncOptions) (request : SendServoJRequest Double) (result : SendServoJResult)
    (timing : BackendTiming) (hkeep : droppedBeforeDispatch result = false) :
    (updateAsyncSendTelemetry async a request result timing).state = .fault := by
  unfold updateAsyncSendTelemetry
  split
  · exact h
  · split
    · next hno =>
      have hready : result.error.name = "arm_worker_backend_not_ready" := by
        simp only [droppedBeforeDispatch, Bool.or_eq_false_iff, decide_eq_false_iff_not] at hkeep
        simpa [backendAttempted, hkeep.1, hkeep.2] using hno
      unfold recordNotAttempted
      rw [setState_state, if_pos hready]
    · have hsent : (recordSent a request result timing).state = .fault := h
      have hacc := recordAcceptance_state hsent async request result timing
      dsimp only
      split
      · exact recordRejection_state hacc async result
      · unfold recordAccepted
        rw [if_pos hacc]
        exact hacc

/-- A result that was dropped before its dispatch writes Warning. -/
theorem updateAsyncSendTelemetry_warning (a : AsyncSupervision) (async : AsyncOptions)
    (henabled : asyncStreamingEnabled async = true) (request : SendServoJRequest Double)
    (result : SendServoJResult) (timing : BackendTiming)
    (hdrop : droppedBeforeDispatch result = true) :
    (updateAsyncSendTelemetry async a request result timing).state = .warning := by
  have hname : result.error.name = "arm_worker_command_expired" ∨
      result.error.name = "arm_worker_not_running" := by
    simpa [droppedBeforeDispatch] using hdrop
  have hno : backendAttempted result = false := by
    rcases hname with h | h
    · simp [backendAttempted, h]
    · simp [backendAttempted, h]
  unfold updateAsyncSendTelemetry
  simp only [henabled, hno, Bool.not_true, Bool.not_false, Bool.false_eq_true, if_false, if_true]
  unfold recordNotAttempted
  rw [setState_state]
  rcases hname with h | h
  · rw [h, if_neg (by decide)]
  · rw [h, if_neg (by decide)]

theorem updateAsyncReferenceSupervision_state {a : AsyncSupervision} (h : a.state = .fault)
    (async : AsyncOptions) (result : BackendReadResult) (observedNs : Nat) :
    (updateAsyncReferenceSupervision async a result observedNs).state = .fault := by
  unfold updateAsyncReferenceSupervision
  split
  · exact h
  · next sent hsent =>
    split
    · exact h
    · split
      · have hrec : (recordReference a result.value.qTargetDeg observedNs).state = .fault := by
          unfold recordReference
          split
          · exact h
          · exact h
        dsimp only
        split
        · exact setUnlessFault_state hrec .ok
        · split
          · exact setUnlessFault_state (a := noteReferenceLag _) hrec .warning
          · exact referenceWatchdog_state hrec async sent observedNs
      · exact referenceWatchdog_state h async sent observedNs

theorem enqueueAsyncServoJ_state {w : ArmWorker α} (h : w.supervision.state = .fault) (setpoint : α)
    (nowNs endNs : Nat) : (enqueueAsyncServoJ opts w setpoint nowNs endNs).supervision.state = .fault := by
  have hdrop : ∀ seq reason s, (noteAsyncDrop opts.async w.supervision seq reason s).state = .fault := by
    intro seq reason s
    unfold noteAsyncDrop
    dsimp only
    split
    · exact h
    · split
      · next hs =>
        rcases hs with hs | hs
        · exact hs
        · exact absurd h hs
      · exact h
  unfold enqueueAsyncServoJ
  dsimp only
  split
  · exact hdrop _ _ _
  · split
    · exact hdrop _ _ _
    · show (noteAsyncEnqueue opts.async w.supervision _ _).state = .fault
      unfold noteAsyncEnqueue
      dsimp only
      split
      · exact h
      · refine setUnlessFault_state ?_ .ok
        split
        · exact h
        · exact h

/-- **One operation** keeps the fault when it stores no result dropped before its dispatch. -/
theorem supervise_fault {w : ArmWorker α} (h : w.supervision.state = .fault) (op : SupervisionOp α)
    (hkeep : KeepsLatch op) : (w.supervise opts op).supervision.state = .fault := by
  cases op with
  | enqueueAsyncServoJ setpoint nowNs endNs => exact enqueueAsyncServoJ_state opts h setpoint nowNs endNs
  | storeSendResult request result timing =>
    exact updateAsyncSendTelemetry_state h opts.async request result timing hkeep
  | storeReadResult result observedNs =>
    exact updateAsyncReferenceSupervision_state h opts.async result observedNs

/-- **Whole runs.**  From a faulted worker, the fault stays throughout a run exactly when the run
stores no result that was dropped before its dispatch. -/
theorem fault_latched_iff (henabled : asyncStreamingEnabled opts.async = true) (w : ArmWorker α)
    (hfault : w.supervision.state = .fault) (ops : List (SupervisionOp α)) :
    (∀ pre post, ops = pre ++ post → (supervisedAfter opts w pre).supervision.state = .fault) ↔
      ∀ op ∈ ops, KeepsLatch op := by
  constructor
  · intro h op hop
    obtain ⟨pre, post, rfl⟩ := List.append_of_mem hop
    have hafter := h (pre ++ [op]) post (by simp)
    rw [supervisedAfter_concat] at hafter
    cases op with
    | enqueueAsyncServoJ setpoint nowNs endNs => trivial
    | storeReadResult result observedNs => trivial
    | storeSendResult request result timing =>
      show droppedBeforeDispatch result = false
      by_contra hdrop
      have hwarn := updateAsyncSendTelemetry_warning (supervisedAfter opts w pre).supervision opts.async
        henabled request result timing (by simpa using hdrop)
      have hboth := hwarn.symm.trans hafter
      cases hboth
  · rintro h pre post rfl
    induction pre using List.reverseRecOn with
    | nil => exact hfault
    | append_singleton pre op ih =>
      rw [supervisedAfter_concat]
      refine supervise_fault opts (ih ?_) op (h op (by simp))
      intro op' hop'
      exact h op' (by
        rcases List.mem_append.mp hop' with hop' | hop'
        · simp [hop']
        · simp [hop'])

/-! ## The gap -/

def streamingOptions : ArmWorkerOptions :=
  { async := { streamingEnabled := true, streamingMode := .sdkAckWorker } }

def holdRequest : SendServoJRequest Double := { qTargetDeg := fun _ => .fin 0, deadlineNs := 10 }

/-- A worker that a dispatch to an unready backend has faulted. -/
def faultedWorker : ArmWorker (SendServoJRequest Double) :=
  storeSendResult streamingOptions default holdRequest (backendNotReadyResult holdRequest 1)
    (makeBackendTiming 1 1)

/-- A dispatch that expired before the backend call turns the fault into a warning. -/
theorem expired_dispatch_clears_fault :
    ¬ ∀ (opts : ArmWorkerOptions) (w : ArmWorker (SendServoJRequest Double))
        (ops : List (SupervisionOp (SendServoJRequest Double))),
      asyncStreamingEnabled opts.async = true → w.supervision.state = .fault →
      (supervisedAfter opts w ops).supervision.state = .fault := by
  intro h
  have hrun := h streamingOptions faultedWorker
    [.storeSendResult holdRequest (expiredResult holdRequest 20) (makeBackendTiming 20 20)]
    (by decide) (by decide)
  exact absurd hrun (by decide)

theorem fault_latched_iff_sample :
    faultedWorker.supervision.state = .fault ∧
      ∀ pre post, [SupervisionOp.storeSendResult holdRequest
        (deadlineMissedResult holdRequest (makeBackendTiming 1 20)) (makeBackendTiming 1 20)] =
        pre ++ post → (supervisedAfter streamingOptions faultedWorker pre).supervision.state = .fault := by
  refine ⟨by decide, (fault_latched_iff streamingOptions (by decide) faultedWorker (by decide) _).mpr ?_⟩
  intro op hop
  rw [List.mem_singleton.mp hop]
  show droppedBeforeDispatch _ = false
  decide

end RbServo
