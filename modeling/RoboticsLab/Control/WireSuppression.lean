import RoboticsLab.Control.SetpointMarks

/-!
# Wire suppression drops every earlier setpoint

Setpoints are cached in the mailbox, in the interpolator's ring and as the last one sent, and
another thread refills them.  The tick that first sees suppression empties all three, and whatever
is cached later was enqueued later:

    a tick that enters suppression at place k, then any operations →
      every servo_j handed to the backend is made of enqueues after k      (wireSuppressed)
-/

namespace RbServo

open ServoSetpoint

variable (opts : ArmWorkerOptions)

/-! ## What a tick leaves alone -/

section Frames

variable {α : Type*}

/-- What the edge detection goes by. -/
def ArmWorker.edge (w : ArmWorker α) : Bool × Bool := (w.running, w.suppressedPrev)

theorem stepSuppressed_frame (w : ArmWorker α) (input : TickInput) :
    (stepSuppressed opts w input).setpoints = w.setpoints ∧
      (stepSuppressed opts w input).edge = w.edge := by
  unfold stepSuppressed
  split <;> exact ⟨rfl, rfl⟩

theorem dispatchLifecycle_frame (w : ArmWorker α) (command : ArmWorkerCommand) (input : TickInput) :
    (dispatchLifecycle w command input).setpoints = w.setpoints ∧
      (dispatchLifecycle w command input).edge = w.edge := by
  unfold dispatchLifecycle
  split
  · exact ⟨rfl, rfl⟩
  · split <;> exact ⟨rfl, rfl⟩

theorem dispatchServoJ_frame [ServoSetpoint α] (w : ArmWorker α) (a : α) (input : TickInput) :
    (dispatchServoJ opts w a input).1.setpoints = w.setpoints ∧
      (dispatchServoJ opts w a input).1.edge = w.edge := by
  unfold dispatchServoJ
  dsimp only
  split
  · exact ⟨rfl, rfl⟩
  · split
    · exact ⟨rfl, rfl⟩
    · split <;> exact ⟨rfl, rfl⟩

/-- Storing reads keeps whatever does not look at the supervision. -/
theorem foldl_storeReadResult {γ : Type*} (proj : ArmWorker α → γ)
    (h : ∀ w result observedNs, proj (storeReadResult opts w result observedNs) = proj w)
    (w : ArmWorker α) (reads : List (BackendReadResult × Nat)) :
    proj (reads.foldl (fun w read => storeReadResult opts w read.1 read.2) w) = proj w := by
  induction reads generalizing w with
  | nil => rfl
  | cons read reads ih => rw [List.foldl_cons, ih, h]

theorem start_setpoints (w : ArmWorker α) (backendReady : Bool)
    (startupReads : List (BackendReadResult × Nat)) :
    (start opts w backendReady startupReads).setpoints = w.setpoints := by
  unfold start
  split
  · rfl
  · exact foldl_storeReadResult opts ArmWorker.setpoints (fun _ _ _ => rfl) _ startupReads

theorem start_suppressedPrev {w : ArmWorker α} {backendReady : Bool}
    {startupReads : List (BackendReadResult × Nat)}
    (h : (start opts w backendReady startupReads).suppressedPrev = true) :
    w.edge = (true, true) := by
  unfold start at h
  split at h
  · next hrun => exact Prod.ext hrun h
  · rw [foldl_storeReadResult opts ArmWorker.suppressedPrev fun _ _ _ => rfl] at h
    cases h

end Frames

/-! ## What the caches hold -/

section Caches

variable {α : Type*} {P : α → Prop}

/-- Every cached setpoint satisfies `P`. -/
structure Setpoints.All (P : α → Prop) (s : Setpoints α) : Prop where
  pending : ∀ p, s.pendingServoJ = some p → P p
  last : ∀ p, s.lastServoJ = some p → P p
  interp : ∃ ps, SetpointInterpolator.Window ps s.interp ∧ ∀ p ∈ ps, P p

/-- A suppression entry leaves nothing cached. -/
theorem Setpoints.all_dropAll (s : Setpoints α) : s.dropAll.All P := by
  refine ⟨nofun, nofun, [], ?_, nofun⟩
  exact ⟨rfl, fun i hi => absurd hi (Nat.not_lt_zero i), Or.inl rfl⟩

theorem Setpoints.All.put {s : Setpoints α} (h : s.All P) {a : α} (ha : P a) : (s.put opts a).All P := by
  obtain ⟨ps, hwin, hps⟩ := h.interp
  refine ⟨fun p hp => ?_, h.last, ?_⟩
  · obtain rfl : a = p := Option.some.inj hp
    exact ha
  · show ∃ qs, SetpointInterpolator.Window qs
      (if (opts.interpolateSetpoints && ownsCadence opts) = true then _ else _) ∧ _
    split
    · refine ⟨ps ++ [a], hwin.push a, fun p hp => ?_⟩
      rcases List.mem_append.mp hp with hp | hp
      · exact hps p hp
      · rw [List.mem_singleton.mp hp]
        exact ha
    · exact ⟨ps, hwin, hps⟩

theorem observeSuppression_all {w : ArmWorker α} (h : w.setpoints.All P) :
    (observeSuppression w).setpoints.All P := by
  unfold observeSuppression
  show Setpoints.All P
    (if (w.sendSuppressed && !w.suppressedPrev) = true then enterSuppression w else w).setpoints
  split
  · exact w.setpoints.all_dropAll
  · exact h

theorem observeSuppression_sendSuppressed (w : ArmWorker α) :
    (observeSuppression w).sendSuppressed = w.sendSuppressed := by
  unfold observeSuppression
  show (if (w.sendSuppressed && !w.suppressedPrev) = true then enterSuppression w
    else w).sendSuppressed = _
  split <;> rfl

variable [ServoSetpoint α]

/-- `P` passes from setpoints to what the worker makes of them. -/
structure Inherited (P : α → Prop) : Prop where
  blend : ∀ t a b, P a → P b → P (blend t a b)
  withoutDeadline : ∀ a, P a → P (withoutDeadline a)

/-- A sample is made of pushed setpoints. -/
theorem sample_inherits (hP : Inherited P) {ps : List α} {s : SetpointInterpolator α}
    (hwin : SetpointInterpolator.Window ps s) (hps : ∀ p ∈ ps, P p) (ratio : Double) {out : α}
    (hout : (s.sample blend ratio).2 = some out) : P out := by
  by_cases h2 : 2 ≤ ps.length
  · obtain ⟨i, h0, h1, t, -, -, -, -, -, hcase⟩ := hwin.sample blend h2 ratio
    rcases hcase with ⟨-, -, heq⟩ | ⟨-, -, heq⟩
    · rw [heq] at hout
      obtain rfl := Option.some.inj hout
      exact hP.blend _ _ _ (hps _ (List.getElem_mem _)) (hps _ (List.getElem_mem _))
    · rw [heq] at hout
      obtain rfl := Option.some.inj hout
      exact hP.blend _ _ _ (hps _ (List.getElem_mem _)) (hps _ (List.getElem_mem _))
  · unfold SetpointInterpolator.sample at hout
    split at hout
    · cases hout
    · next h0 =>
      have hhead := hwin.head
      have h1 : s.head = 1 := by omega
      rw [if_pos h1] at hout
      obtain rfl := Option.some.inj hout
      have hlen : 0 < ps.length := by omega
      have hslot := hwin.ring 0 hlen (by rw [← hhead, h1]; decide)
      show P (s.ring (SetpointInterpolator.slot (s.head - 1)))
      rw [h1, hslot]
      exact hps _ (List.getElem_mem _)

/-- What a tick picks up, and leaves cached, comes from the caches. -/
theorem pickupServoJ_inherits (hP : Inherited P) {w : ArmWorker α} (h : w.setpoints.All P) :
    (pickupServoJ opts w).1.setpoints.All P ∧ ∀ out, (pickupServoJ opts w).2 = some out → P out := by
  obtain ⟨ps, hwin, hps⟩ := h.interp
  unfold pickupServoJ
  split
  · exact ⟨h, nofun⟩
  · split
    · have hpick : ∀ out, ((w.setpoints.interp.sample blend (periodRatio opts w)).2.map
          withoutDeadline) = some out → P out := by
        intro out hout
        obtain ⟨a, ha, rfl⟩ := Option.map_eq_some_iff.mp hout
        exact hP.withoutDeadline a (sample_inherits hP hwin hps _ ha)
      refine ⟨⟨nofun, fun p hp => ?_, ps, hwin.sample_state blend _, hps⟩, hpick⟩
      change Option.orElse _ (fun _ => w.setpoints.lastServoJ) = some p at hp
      rw [Option.orElse_eq_or] at hp
      rcases Option.or_eq_some_iff.mp hp with hnew | ⟨-, hold⟩
      · exact hpick p hnew
      · exact h.last p hold
    · split
      · next setpoint hp =>
        have hs := h.pending setpoint hp
        refine ⟨⟨nofun, fun p hp => ?_, ps, hwin, hps⟩, fun out hout => ?_⟩
        · obtain rfl : setpoint = p := Option.some.inj hp
          exact hs
        · obtain rfl : setpoint = out := Option.some.inj hout
          exact hs
      · next setpoint hp hl =>
        split
        · refine ⟨h, fun out hout => ?_⟩
          obtain rfl := Option.some.inj hout
          exact hP.withoutDeadline setpoint (h.last setpoint hl)
        · exact ⟨h, nofun⟩
      · exact ⟨h, nofun⟩

theorem dispatchServoJ_handed {w : ArmWorker α} {a out : α} {input : TickInput}
    (h : (dispatchServoJ opts w a input).2 = some out) : out = a := by
  unfold dispatchServoJ at h
  dsimp only at h
  split at h
  · cases h
  · split at h
    · cases h
    · exact (Option.some.inj h).symm

theorem dispatch_inherits (hP : Inherited P) {w : ArmWorker α} (h : w.setpoints.All P)
    (input : TickInput) :
    (dispatch opts w input).1.setpoints.All P ∧
      ∀ out, (dispatch opts w input).2 = some out → P out := by
  obtain ⟨hleft, hpick⟩ := pickupServoJ_inherits opts hP h
  unfold dispatch
  split
  · refine ⟨?_, nofun⟩
    rw [(dispatchLifecycle_frame _ _ input).1]
    exact h
  · dsimp only
    rw [(stepSuppressed_frame opts _ input).1]
    generalize pickupServoJ opts w = picked at hleft hpick
    obtain ⟨left, command⟩ := picked
    cases command with
    | none => exact ⟨hleft, nofun⟩
    | some a =>
      refine ⟨?_, fun out hout => ?_⟩
      · show (dispatchServoJ opts left a input).1.setpoints.All P
        rw [(dispatchServoJ_frame opts left a input).1]
        exact hleft
      · rw [dispatchServoJ_handed opts hout]
        exact hpick a rfl

/-- **Ticks.**  What a tick hands over, and leaves cached, comes from the caches. -/
theorem tick_inherits (hP : Inherited P) {w : ArmWorker α} (h : w.setpoints.All P)
    (input : TickInput) :
    (tick opts w input).1.setpoints.All P ∧ ∀ out, (tick opts w input).2 = some out → P out := by
  unfold tick
  split
  · exact ⟨h, nofun⟩
  · split
    · exact ⟨⟨nofun, h.last, h.interp⟩, nofun⟩
    · exact dispatch_inherits opts hP (observeSuppression_all h) input

theorem enqueueServoJ_all {w : ArmWorker α} (h : w.setpoints.All P) {a : α} (ha : P a)
    (nowNs : Nat) : (enqueueServoJ opts w a nowNs).setpoints.All P := by
  unfold enqueueServoJ
  split
  · exact h
  · split
    · exact h
    · exact h.put opts ha

theorem enqueueAsyncServoJ_all {w : ArmWorker α} (h : w.setpoints.All P) {a : α} (ha : P a)
    (nowNs endNs : Nat) : (enqueueAsyncServoJ opts w a nowNs endNs).setpoints.All P := by
  unfold enqueueAsyncServoJ
  dsimp only
  split
  · exact h
  · split
    · exact h
    · exact h.put opts ha

end Caches

/-! ## Suppressed ticks -/

section Suppressed

variable {α : Type*} [ServoSetpoint α]

/-- The worker's next tick sees the wire suppressed. -/
def ArmWorker.observesSuppression (w : ArmWorker α) : Bool :=
  w.running && !w.stopRequested && w.sendSuppressed

theorem dispatch_of_suppressed {w : ArmWorker α} (h : w.sendSuppressed = true) (input : TickInput) :
    (dispatch opts w input).2 = none ∧ (dispatch opts w input).1.setpoints = w.setpoints := by
  have hpick : pickupServoJ opts w = (w, none) := if_pos h
  unfold dispatch
  split
  · exact ⟨rfl, (dispatchLifecycle_frame _ _ input).1⟩
  · rw [hpick]
    exact ⟨rfl, (stepSuppressed_frame opts w input).1⟩

/-- A tick that reads the flag set hands nothing over. -/
theorem tick_quiet {w : ArmWorker α} (h : w.sendSuppressed = true) (input : TickInput) :
    (tick opts w input).2 = none := by
  have hflag := (observeSuppression_sendSuppressed w).trans h
  unfold tick
  split
  · rfl
  · split
    · rfl
    · exact (dispatch_of_suppressed opts hflag input).1

/-- The tick that enters suppression leaves nothing cached. -/
theorem tick_drops {w : ArmWorker α} (h : w.observesSuppression = true)
    (hprev : w.suppressedPrev = false) (input : TickInput) :
    (tick opts w input).1.setpoints = w.setpoints.dropAll := by
  simp only [ArmWorker.observesSuppression, Bool.and_eq_true, Bool.not_eq_true'] at h
  obtain ⟨⟨hrun, hstop⟩, hsup⟩ := h
  have hflag := (observeSuppression_sendSuppressed w).trans hsup
  unfold tick
  rw [if_neg (by simp [hrun]), if_neg (by simp [hstop])]
  show (dispatch opts (observeSuppression w) input).1.setpoints = _
  rw [(dispatch_of_suppressed opts hflag input).2]
  unfold observeSuppression
  rw [if_pos (by simp [hsup, hprev])]
  rfl

end Suppressed

/-! ## Runs -/

/-- The setpoint an operation enqueues. -/
def WorkerOp.enqueued {α : Type*} : WorkerOp α → Option α
  | .enqueueServoJ setpoint _ => some setpoint
  | .enqueueAsyncServoJ setpoint _ _ => some setpoint
  | _ => none

/-- **One step.**  A cache that satisfies `P` still does after an operation whose setpoint does. -/
theorem step_all {P : Sourced → Prop} (hP : Inherited P) {w : ArmWorker Sourced}
    (h : w.setpoints.All P) (op : WorkerOp (SendServoJRequest Double)) {n : Nat}
    (hn : ∀ r, op.enqueued = some r → P { setpoint := r, origins := [n] }) :
    (w.step opts (op.mark n)).setpoints.All P := by
  cases op with
  | enqueueServoJ setpoint nowNs => exact enqueueServoJ_all opts h (hn setpoint rfl) nowNs
  | enqueueAsyncServoJ setpoint nowNs endNs =>
    exact enqueueAsyncServoJ_all opts h (hn setpoint rfl) nowNs endNs
  | enqueueLifecycleCommand command nowNs =>
    show (enqueueLifecycleCommand opts w command nowNs).1.setpoints.All P
    unfold enqueueLifecycleCommand
    dsimp only
    split_ifs <;> exact h
  | setSendSuppressed suppressed => exact h
  | start backendReady startupReads =>
    show (start opts w backendReady startupReads).setpoints.All P
    rw [start_setpoints]
    exact h
  | stop =>
    show (stop w).setpoints.All P
    unfold stop
    split <;> exact h
  | tick input => exact (tick_inherits opts hP h input).1

/-- **Whole runs.**  What holds of the caches at `pre`, and of every setpoint enqueued after it,
holds of the caches after `pre ++ ops`. -/
theorem sourcedAfter_all {P : Sourced → Prop} (hP : Inherited P)
    {pre : List (WorkerOp (SendServoJRequest Double))} (h : (sourcedAfter opts pre).setpoints.All P)
    (ops : List (WorkerOp (SendServoJRequest Double)))
    (hn : ∀ i op r, ops[i]? = some op → op.enqueued = some r →
      P { setpoint := r, origins := [pre.length + i] }) :
    (sourcedAfter opts (pre ++ ops)).setpoints.All P := by
  induction ops using List.reverseRecOn with
  | nil => rwa [List.append_nil]
  | append_singleton ops op ih =>
    rw [← List.append_assoc, sourcedAfter_concat]
    refine step_all opts hP (ih fun i op' r hi hr => ?_) op fun r hr => ?_
    · refine hn i op' r ?_ hr
      rw [List.getElem?_append_left (List.getElem?_eq_some_iff.mp hi).1]
      exact hi
    · rw [List.length_append]
      refine hn ops.length op r ?_ hr
      rw [List.getElem?_concat_length]

def WorkerOp.isTick {α : Type*} : WorkerOp α → Bool
  | .tick _ => true
  | _ => false

/-- The last tick of the run saw the wire suppressed. -/
def LastTickSuppressed (ops : List (WorkerOp (SendServoJRequest Double))) : Prop :=
  ∃ earlier input since, ops = earlier ++ .tick input :: since ∧
    (∀ op ∈ since, op.isTick = false) ∧
    (workerAfter opts earlier).observesSuppression = true

/-- The next tick is the first to see the wire suppressed. -/
structure EntersSuppression (ops : List (WorkerOp (SendServoJRequest Double))) : Prop where
  observes : (workerAfter opts ops).observesSuppression = true
  first : ¬ LastTickSuppressed opts ops

section Edge

variable {α : Type*}

theorem enqueueLifecycleCommand_edge (w : ArmWorker α) (command : ArmWorkerCommand) (nowNs : Nat) :
    (enqueueLifecycleCommand opts w command nowNs).1.edge = w.edge := by
  unfold enqueueLifecycleCommand
  dsimp only
  split_ifs <;> rfl

theorem stop_edge (w : ArmWorker α) : (stop w).edge = w.edge := by
  unfold stop
  split <;> rfl

variable [ServoSetpoint α]

theorem enqueueServoJ_edge (w : ArmWorker α) (a : α) (nowNs : Nat) :
    (enqueueServoJ opts w a nowNs).edge = w.edge := by
  unfold enqueueServoJ
  split
  · rfl
  · split <;> rfl

theorem enqueueAsyncServoJ_edge (w : ArmWorker α) (a : α) (nowNs endNs : Nat) :
    (enqueueAsyncServoJ opts w a nowNs endNs).edge = w.edge := by
  unfold enqueueAsyncServoJ
  dsimp only
  split
  · rfl
  · split <;> rfl

theorem pickupServoJ_edge (w : ArmWorker α) : (pickupServoJ opts w).1.edge = w.edge := by
  unfold pickupServoJ
  split
  · rfl
  · split
    · rfl
    · split
      · rfl
      · split <;> rfl
      · rfl

theorem dispatch_edge (w : ArmWorker α) (input : TickInput) :
    (dispatch opts w input).1.edge = w.edge := by
  unfold dispatch
  split
  · exact (dispatchLifecycle_frame _ _ input).2
  · rw [(stepSuppressed_frame opts _ input).2, ← pickupServoJ_edge opts w]
    cases (pickupServoJ opts w).2 with
    | none => rfl
    | some a => exact (dispatchServoJ_frame opts _ a input).2

/-- A running worker remembers the flag its last tick saw. -/
theorem tick_edge {w : ArmWorker α} {input : TickInput}
    (h : (tick opts w input).1.edge = (true, true)) : w.observesSuppression = true := by
  unfold tick at h
  split at h
  · next hrun =>
    have h1 : w.running = true := congrArg Prod.fst h
    simp [h1] at hrun
  · next hrun =>
    split at h
    · cases congrArg Prod.fst h
    · next hstop =>
      have hprev : (observeSuppression w).suppressedPrev = true :=
        congrArg Prod.snd ((dispatch_edge opts _ input).symm.trans h)
      have hflag : w.sendSuppressed = true := hprev
      unfold ArmWorker.observesSuppression
      simp_all

end Edge

/-- **The edge.**  The flag a running worker remembers was seen by the last tick of the run. -/
theorem lastTickSuppressed_of_edge (pre : List (WorkerOp (SendServoJRequest Double)))
    (h : (workerAfter opts pre).edge = (true, true)) : LastTickSuppressed opts pre := by
  induction pre using List.reverseRecOn with
  | nil => cases congrArg Prod.fst h
  | append_singleton pre op ih =>
    rw [workerAfter_concat] at h
    -- every operation but a tick passes the remembered flag on
    have hkeep : op.isTick = false → (workerAfter opts pre).edge = (true, true) →
        LastTickSuppressed opts (pre ++ [op]) := by
      intro hop hedge
      obtain ⟨earlier, input, since, rfl, hsince, hobs⟩ := ih hedge
      refine ⟨earlier, input, since ++ [op], by simp, ?_, hobs⟩
      intro op' hop'
      rcases List.mem_append.mp hop' with hop' | hop'
      · exact hsince op' hop'
      · rw [List.mem_singleton.mp hop']
        exact hop
    cases op with
    | enqueueServoJ setpoint nowNs =>
      simp only [ArmWorker.step, enqueueServoJ_edge] at h
      exact hkeep rfl h
    | enqueueAsyncServoJ setpoint nowNs endNs =>
      simp only [ArmWorker.step, enqueueAsyncServoJ_edge] at h
      exact hkeep rfl h
    | enqueueLifecycleCommand command nowNs =>
      simp only [ArmWorker.step, enqueueLifecycleCommand_edge] at h
      exact hkeep rfl h
    | setSendSuppressed suppressed => exact hkeep rfl h
    | start backendReady startupReads =>
      exact hkeep rfl (start_suppressedPrev opts (congrArg Prod.snd h))
    | stop =>
      simp only [ArmWorker.step, stop_edge] at h
      exact hkeep rfl h
    | tick input =>
      refine ⟨pre, input, [], rfl, ?_, tick_edge opts h⟩
      intro op hop
      cases hop

theorem EntersSuppression.suppressedPrev {pre : List (WorkerOp (SendServoJRequest Double))}
    (h : EntersSuppression opts pre) : (workerAfter opts pre).suppressedPrev = false := by
  by_contra hprev
  have hrun : (workerAfter opts pre).running = true := by
    have hobs := h.observes
    simp only [ArmWorker.observesSuppression, Bool.and_eq_true] at hobs
    exact hobs.1.1
  rw [Bool.not_eq_false] at hprev
  exact h.first (lastTickSuppressed_of_edge opts pre (Prod.ext hrun hprev))

/-! ## The wire across a suppression -/

/-- The servo_j handed over by the ticks of a run, and what they are made of. -/
structure WireSuppressed (ops : List (WorkerOp (SendServoJRequest Double))) : Prop where
  /-- Without its marks, what the marked run hands over is what the worker hands over. -/
  erased : ∀ pre input post, ops = pre ++ .tick input :: post →
    (tick opts (workerAfter opts pre) input).2 =
      (tick opts (sourcedAfter opts pre) input).2.map Sourced.setpoint
  /-- It is made of one enqueue or more. -/
  made : ∀ pre input post out, ops = pre ++ .tick input :: post →
    (tick opts (sourcedAfter opts pre) input).2 = some out →
    out.origins ≠ [] ∧ ∀ n ∈ out.origins, ∃ op, pre[n]? = some op ∧ op.enqueued.isSome
  /-- While suppressed, nothing is handed over. -/
  quiet : ∀ pre input post, ops = pre ++ .tick input :: post →
    (workerAfter opts pre).sendSuppressed = true →
    (tick opts (workerAfter opts pre) input).2 = none
  /-- After the tick that enters suppression, nothing enqueued before it is. -/
  dropped : ∀ pre input mid input' post out,
    ops = pre ++ .tick input :: (mid ++ .tick input' :: post) →
    EntersSuppression opts pre →
    (tick opts (sourcedAfter opts (pre ++ .tick input :: mid)) input').2 = some out →
    ∀ n ∈ out.origins, pre.length < n

/-- What holds of the places of two setpoints holds of those of their blend. -/
theorem inherited_origins (Q : Nat → Prop) :
    Inherited fun s : Sourced => s.origins ≠ [] ∧ ∀ n ∈ s.origins, Q n where
  blend := by
    rintro t a b ⟨hne, ha⟩ ⟨-, hb⟩
    refine ⟨fun h => hne (List.append_eq_nil_iff.mp h).1, fun n hn => ?_⟩
    rcases List.mem_append.mp hn with hn | hn
    · exact ha n hn
    · exact hb n hn
  withoutDeadline _ h := h

theorem handed_made (pre : List (WorkerOp (SendServoJRequest Double))) (input : TickInput)
    {out : Sourced} (hout : (tick opts (sourcedAfter opts pre) input).2 = some out) :
    out.origins ≠ [] ∧ ∀ n ∈ out.origins, ∃ op, pre[n]? = some op ∧ op.enqueued.isSome := by
  have hP := inherited_origins fun n => ∃ op, pre[n]? = some op ∧ op.enqueued.isSome
  have hempty : (sourcedAfter opts []).setpoints.All
      fun s => s.origins ≠ [] ∧ ∀ n ∈ s.origins, ∃ op, pre[n]? = some op ∧ op.enqueued.isSome :=
    Setpoints.all_dropAll default
  have hall := sourcedAfter_all opts hP hempty pre
  rw [List.nil_append] at hall
  refine (tick_inherits opts hP (hall ?_) input).2 out hout
  intro i op r hi hr
  refine ⟨List.cons_ne_nil _ _, fun n hn => ⟨op, ?_, by rw [hr]; rfl⟩⟩
  rw [List.mem_singleton.mp hn, List.length_nil, Nat.zero_add]
  exact hi

/-- **Dropped.**  What the worker hands over after it entered suppression was enqueued later. -/
theorem handed_later {pre : List (WorkerOp (SendServoJRequest Double))}
    (h : EntersSuppression opts pre) (input : TickInput)
    (mid : List (WorkerOp (SendServoJRequest Double))) (input' : TickInput) {out : Sourced}
    (hout : (tick opts (sourcedAfter opts (pre ++ .tick input :: mid)) input').2 = some out) :
    ∀ n ∈ out.origins, pre.length < n := by
  have hP := inherited_origins fun n => pre.length < n
  -- the marked worker sees the flags of the worker itself
  have herased := sourcedAfter_erased opts pre
  have hobs : (sourcedAfter opts pre).observesSuppression = true := by
    have := h.observes
    rwa [← herased] at this
  have hprev : (sourcedAfter opts pre).suppressedPrev = false := by
    have := h.suppressedPrev
    rwa [← herased] at this
  have hentry : (sourcedAfter opts (pre ++ [.tick input])).setpoints.All
      fun s => s.origins ≠ [] ∧ ∀ n ∈ s.origins, pre.length < n := by
    rw [sourcedAfter_concat]
    show (tick opts (sourcedAfter opts pre) input).1.setpoints.All _
    rw [tick_drops opts hobs hprev]
    exact Setpoints.all_dropAll _
  have hall := sourcedAfter_all opts hP hentry mid
  rw [List.append_assoc, List.singleton_append] at hall
  refine ((tick_inherits opts hP (hall ?_) input').2 out hout).2
  intro i op r _ _
  refine ⟨List.cons_ne_nil _ _, fun n hn => ?_⟩
  rw [List.mem_singleton.mp hn, List.length_append, List.length_singleton]
  omega

/-- **Wire suppression.**  Over every run of the worker. -/
theorem wireSuppressed (ops : List (WorkerOp (SendServoJRequest Double))) :
    WireSuppressed opts ops where
  erased := by
    intro pre input post _
    rw [← sourcedAfter_erased, tick_map opts setpointHom_setpoint]
  made := by
    intro pre input post out _ hout
    exact handed_made opts pre input hout
  quiet := by
    intro pre input post _ h
    exact tick_quiet opts h input
  dropped := by
    intro pre input mid input' post out _ h hout
    exact handed_later opts h input mid input' hout

/-- A teaching session: before it an empty mailbox repeats the last setpoint, after release nothing
goes out until the enqueue that follows. -/
example :
    let opts : ArmWorkerOptions := { sendPeriodNs := 2000000 }
    let ops : List (WorkerOp (SendServoJRequest Double)) :=
      [.start true [], .enqueueServoJ default 1, .tick { nowNs := 2 }, .setSendSuppressed true,
        .tick { nowNs := 4 }, .setSendSuppressed false, .enqueueServoJ default 6]
    let sent n := (tick opts (sourcedAfter opts (ops.take n)) { nowNs := 7 }).2.map Sourced.origins
    sent 3 = some [1] ∧ sent 4 = none ∧ sent 6 = none ∧ sent 7 = some [6] := by
  decide +kernel

end RbServo
