import RoboticsLab.ArmInit.CancelEffect

/-!
# The release of an init latch

A latch goes off by a cancel or when its own request is done and the tare has landed; after a failure it stays; and a
request adds one done or failed transition.  Two snapshots break this: one that reports another client's init while
the own request is done and waits for its tare (`Overtaken`: the request id is no longer compared), and, where done
does not clear the latch, one that fails or tares again an arm already shown as done (`Reopened`).

    no step is overtaken or reopened → every release, failure and transition is as above     (latch_released)
-/

open Runs

namespace PolicyRunner

section
variable (py : PyText) (cfg : OverrideConfig) (arm : Arm)

/-! ## What a run has seen -/

/-- The latch of the arm after the events. -/
def latchAfter (events : List OverrideEvent) : Latch := (OverrideController.run py cfg events).latch arm

/-- The transitions of the arm the event adds. -/
def addedAt (pre : List OverrideEvent) (event : OverrideEvent) : List Transition :=
  (OverrideController.run py cfg pre).added arm (OverrideController.run py cfg (pre ++ [event]))

/-- The event starts a request of the arm, of this runner or of another client. -/
def StartsAt (pre : List OverrideEvent) (event : OverrideEvent) : Prop := .started ∈ addedAt py cfg arm pre event

/-- The event adds a done or failed transition of the arm. -/
def ContributesAt (pre : List OverrideEvent) (event : OverrideEvent) : Prop :=
  .done ∈ addedAt py cfg arm pre event ∨ .failed ∈ addedAt py cfg arm pre event

/-- The event is a snapshot with this status for the arm, acknowledged with `id`. -/
def Reports (status : String) (id : ℕ) (event : OverrideEvent) : Prop :=
  ∃ s payload block, event = .snapshot s ∧ s.blocks = some (payload, block) ∧ blockStatus py block arm = status ∧
    (blockAck block arm).eqInt id = true

/-- A done of the request has been seen since it started. -/
def DoneSeen (id : ℕ) (events : List OverrideEvent) : Prop :=
  Since (fun _ event => Reports py arm "done" id event) (StartsAt py cfg arm) events

/-- A failure of the request has been seen since it started, in a snapshot that was processed. -/
def FailedSeen (id : ℕ) (events : List OverrideEvent) : Prop :=
  Since (fun pre event => Reports py arm "failed" id event ∧ ∀ s, event = .snapshot s →
    ((OverrideController.run py cfg pre).updateFromSnapshot py cfg s).2 = none) (StartsAt py cfg arm) events

/-- The tare is pending for the arm in the snapshot. -/
def tareAt (pre : List OverrideEvent) (payload : Json.Object) : Bool :=
  (ftTarePending py payload arm
    (((OverrideController.run py cfg pre).arms arm).seeForceTorque payload arm).ftRequired).1

/-- Every snapshot has an integer request id for each arm. -/
def OverrideEvent.IntegerAcks (event : OverrideEvent) : Prop :=
  ∀ s payload block, event = .snapshot s → s.blocks = some (payload, block) →
    ∀ arm, (blockAck block arm).isNumberInteger.isSome

/-! ## The two snapshots that break it -/

/-- The own request is done and its tare has landed, and the server already runs another request. -/
def Overtaken (pre : List OverrideEvent) (event : OverrideEvent) : Prop :=
  ∃ s payload block, event = .snapshot s ∧ s.blocks = some (payload, block) ∧
    (latchAfter py cfg arm pre).on = true ∧ (latchAfter py cfg arm pre).external = false ∧
    (latchAfter py cfg arm pre).motionDone = true ∧ isMoving (blockStatus py block arm) = true ∧
    (latchAfter py cfg arm pre).otherRequest (blockAck block arm) = true ∧
    tareAt py cfg arm pre payload = false ∧ cfg.clearsOnDone = true

/-- The arm is shown as done, and fails or waits for a tare again. -/
def Reopened (pre : List OverrideEvent) (event : OverrideEvent) : Prop :=
  ∃ s payload block, event = .snapshot s ∧ s.blocks = some (payload, block) ∧
    (latchAfter py cfg arm pre).on = true ∧ (latchAfter py cfg arm pre).motionDone = true ∧
    (latchAfter py cfg arm pre).doneShown = true ∧
    (blockStatus py block arm = "failed" ∨ tareAt py cfg arm pre payload = true)

/-- A release is in order: by a cancel of the arm, or on a snapshot after a done of the current request, without
another request under way and without a pending tare. -/
def ReleaseInOrder (pre : List OverrideEvent) (event : OverrideEvent) : Prop :=
  (∃ nowNs command, event = .command nowNs command ∧
    (OverrideController.run py cfg pre).Cancels cfg arm command) ∨
  DoneSeen py cfg arm (latchAfter py cfg arm pre).requestId (pre ++ [event]) ∧
    ∃ s payload block, event = .snapshot s ∧ s.blocks = some (payload, block) ∧
      ¬ (isMoving (blockStatus py block arm) = true ∧
        (latchAfter py cfg arm pre).otherRequest (blockAck block arm) = true) ∧
      tareAt py cfg arm pre payload = false

/-! ## Steps of a run -/

variable {py cfg arm} {pre : List OverrideEvent} {event : OverrideEvent}

/-- A pass over a moving arm whose motion is not done changes neither latch nor request and adds nothing. -/
theorem Acts.of_moving {status : String} {ack : Json} {tare : Bool} {l l' : Latch} {emitted : List Transition}
    (acts : Acts cfg status ack tare l l' emitted) (hs : isMoving status = true) (hm : l.motionDone = false) :
    l'.on = l.on ∧ l'.motionDone = false ∧ l'.fail = l.fail ∧ (l.doneShown = false → l'.doneShown = false) ∧
      emitted = [] := by
  have hstatus : status ≠ "failed" ∧ status ≠ "done" := by
    have : status = "planning" ∨ status = "executing" := by simpa [isMoving] using hs
    rcases this with rfl | rfl <;> decide
  cases acts with
  | ignored => exact ⟨rfl, hm, rfl, id, rfl⟩
  | moving => exact ⟨rfl, hm, rfl, fun _ => rfl, rfl⟩
  | failed _ _ h => exact absurd h hstatus.1
  | waiting _ _ _ hdone => exact absurd hdone (by simp [hstatus.2, hm])
  | released _ _ _ hdone => exact absurd hdone (by simp [hstatus.2, hm])

theorem Acts.started_notMem {status : String} {ack : Json} {tare : Bool} {l l' : Latch} {emitted : List Transition}
    (acts : Acts cfg status ack tare l l' emitted) : .started ∉ emitted := by
  cases acts with
  | ignored => simp
  | moving => simp
  | failed => split <;> simp
  | waiting => simp
  | released => split <;> simp

theorem Acts.requestId_eq {status : String} {ack : Json} {tare : Bool} {l l' : Latch} {emitted : List Transition}
    (acts : Acts cfg status ack tare l l' emitted) : l'.requestId = l.requestId := by
  cases acts <;> rfl

theorem run_cases (py : PyText) (cfg : OverrideConfig) (arm : Arm) (pre : List OverrideEvent)
    (event : OverrideEvent) :
    let l := latchAfter py cfg arm pre
    let l' := latchAfter py cfg arm (pre ++ [event])
    (l' = l ∧ addedAt py cfg arm pre event = []) ∨
    (∃ nowNs command, event = .command nowNs command ∧
      CommandStep (((OverrideController.run py cfg pre).storeQDeg command).resolve cfg command)
        (arm ∈ armsForSelector command.arms) (l.store (command.qDeg arm)) l' (addedAt py cfg arm pre event)) ∨
    ∃ s payload block emitted, event = .snapshot s ∧ s.blocks = some (payload, block) ∧
      Acts cfg (blockStatus py block arm) (blockAck block arm) (tareAt py cfg arm pre payload)
        (l.observe (blockStatus py block arm) (blockAck block arm)) l' emitted ∧
      addedAt py cfg arm pre event =
        startedIf (l.seesExternal (blockStatus py block arm) (blockAck block arm)) ++ emitted := by
  have := step_cases py cfg (OverrideController.run py cfg pre) event arm (offQuiet_run py cfg pre)
  rw [← run_concat] at this
  exact this

/-- A step that starts a request resets the latch. -/
theorem latch_of_startsAt (h : StartsAt py cfg arm pre event) :
    (latchAfter py cfg arm (pre ++ [event])).on = true ∧
    (latchAfter py cfg arm (pre ++ [event])).motionDone = false ∧
    (latchAfter py cfg arm (pre ++ [event])).fail = false ∧
    (latchAfter py cfg arm (pre ++ [event])).doneShown = false ∧ ¬ ContributesAt py cfg arm pre event := by
  unfold StartsAt at h
  unfold ContributesAt
  obtain ⟨-, hadd⟩ | ⟨nowNs, command, -, hstep⟩ | ⟨s, payload, block, emitted, -, -, acts, hadd⟩ :=
    run_cases py cfg arm pre event
  · rw [hadd] at h
    cases h
  · revert hstep h
    generalize latchAfter py cfg arm (pre ++ [event]) = l'
    generalize addedAt py cfg arm pre event = added
    intro h hstep
    cases hstep with
    | kept => cases h
    | cancelled _ _ _ he => rcases he with rfl | rfl <;> simp at h
    | started => exact ⟨rfl, rfl, rfl, rfl, by simp⟩
  · cases hsees : (latchAfter py cfg arm pre).seesExternal (blockStatus py block arm) (blockAck block arm) with
    | false =>
      rw [hadd, hsees] at h
      exact absurd h acts.started_notMem
    | true =>
      have hmoving : isMoving (blockStatus py block arm) = true := by
        unfold Latch.seesExternal at hsees
        exact (Bool.and_eq_true _ _ ▸ hsees).1
      unfold Latch.observe at acts
      rw [if_pos hsees] at acts
      obtain ⟨h1, h2, h3, h4, h5⟩ := acts.of_moving hmoving rfl
      rw [hadd, hsees, h5]
      exact ⟨h1, h2, h3, h4 rfl, by simp [startedIf]⟩

/-- A step that starts no request leaves the latch, cancels it or acts on a status. -/
theorem unstarted_cases (h : ¬ StartsAt py cfg arm pre event) :
    let l := latchAfter py cfg arm pre
    let l' := latchAfter py cfg arm (pre ++ [event])
    (∃ q, l' = { l with qDeg := q } ∧ addedAt py cfg arm pre event = []) ∨
    (∃ q nowNs command, event = .command nowNs command ∧
      (OverrideController.run py cfg pre).Cancels cfg arm command ∧ l' = ({ l with qDeg := q } : Latch).cancel ∧
      ∀ t ∈ addedAt py cfg arm pre event, t = .cancelled) ∨
    ∃ s payload block l₁ added, event = .snapshot s ∧ s.blocks = some (payload, block) ∧
      l.seesExternal (blockStatus py block arm) (blockAck block arm) = false ∧ l' = l₁ ∧
      addedAt py cfg arm pre event = added ∧
      Acts cfg (blockStatus py block arm) (blockAck block arm) (tareAt py cfg arm pre payload) l l₁ added := by
  intro l l'
  unfold StartsAt at h
  obtain ⟨hl, hadd⟩ | ⟨nowNs, command, he, hstep⟩ | ⟨s, payload, block, emitted, he, hb, acts, hadd⟩ :=
    run_cases py cfg arm pre event
  · exact .inl ⟨l.qDeg, hl, hadd⟩
  · revert hstep h
    generalize hl' : latchAfter py cfg arm (pre ++ [event]) = l₁
    generalize addedAt py cfg arm pre event = added
    intro h hstep
    cases hstep with
    | kept => exact .inl ⟨(command.qDeg arm).or l.qDeg, hl', rfl⟩
    | cancelled hact hcov _ hem =>
      refine .inr (.inl ⟨(command.qDeg arm).or l.qDeg, nowNs, command, he, ⟨hact, hcov⟩, hl', ?_⟩)
      rcases hem with rfl | rfl <;> simp
    | started => simp at h
  · cases hsees : l.seesExternal (blockStatus py block arm) (blockAck block arm) with
    | true =>
      rw [hadd, show (latchAfter py cfg arm pre).seesExternal _ _ = true from hsees] at h
      simp [startedIf] at h
    | false =>
      unfold Latch.observe at acts
      rw [if_neg (by rw [show (latchAfter py cfg arm pre).seesExternal _ _ = false from hsees]; decide)] at acts
      rw [show (latchAfter py cfg arm pre).seesExternal _ _ = false from hsees] at hadd
      exact .inr (.inr ⟨s, payload, block, _, emitted, he, hb, hsees, rfl, hadd, acts⟩)

theorem requestId_of_unstarted (h : ¬ StartsAt py cfg arm pre event) :
    (latchAfter py cfg arm (pre ++ [event])).requestId = (latchAfter py cfg arm pre).requestId := by
  obtain ⟨q, hl, -⟩ | ⟨q, _, _, -, -, hl, -⟩ | ⟨s, payload, block, l₁, added, -, -, -, hl, -, acts⟩ := unstarted_cases h
  · rw [hl]
  · rw [hl]
    rfl
  · rw [hl]
    exact acts.requestId_eq

theorem not_startsAt_of_not_moving {s : InitSnapshot} {payload block : Json.Object}
    (hb : s.blocks = some (payload, block)) (hs : isMoving (blockStatus py block arm) = false) :
    ¬ StartsAt py cfg arm pre (.snapshot s) := by
  unfold StartsAt
  obtain ⟨-, hadd⟩ | ⟨nowNs, command, he, -⟩ | ⟨s', payload', block', emitted, he, hb', acts, hadd⟩ :=
    run_cases py cfg arm pre (.snapshot s)
  · rw [hadd]
    simp
  · cases he
  · cases he
    rw [hb] at hb'
    obtain ⟨rfl, rfl⟩ := Prod.mk.inj (Option.some.inj hb')
    have hsees : (latchAfter py cfg arm pre).seesExternal (blockStatus py block arm) (blockAck block arm) = false := by
      unfold Latch.seesExternal
      rw [hs]
      rfl
    rw [hadd, hsees]
    exact acts.started_notMem

/-! ## A done of the own request -/

/-- What a pass needs to take the motion for done. -/
theorem doneSeen_of_acts {s : InitSnapshot} {payload block : Json.Object}
    (ih : (latchAfter py cfg arm pre).on = true → (latchAfter py cfg arm pre).motionDone = true →
      DoneSeen py cfg arm (latchAfter py cfg arm pre).requestId pre)
    (hints : event.IntegerAcks) (hstart : ¬ StartsAt py cfg arm pre event) (he : event = .snapshot s)
    (hb : s.blocks = some (payload, block)) (hon : (latchAfter py cfg arm pre).on = true)
    (hack : (latchAfter py cfg arm pre).motionDone = true ∨
      (latchAfter py cfg arm pre).otherRequest (blockAck block arm) = false)
    (hdone : blockStatus py block arm = "done" ∨ (latchAfter py cfg arm pre).motionDone = true) :
    DoneSeen py cfg arm (latchAfter py cfg arm pre).requestId (pre ++ [event]) := by
  rw [DoneSeen, since_concat]
  cases hm : (latchAfter py cfg arm pre).motionDone with
  | true => exact .inr ⟨ih hon hm, hstart⟩
  | false =>
    rw [hm] at hack hdone
    have hs : blockStatus py block arm = "done" := by simpa using hdone
    have hother : (latchAfter py cfg arm pre).otherRequest (blockAck block arm) = false := by simpa using hack
    refine .inl ⟨s, payload, block, he, hb, hs, ?_⟩
    have hint := hints s payload block he hb arm
    unfold Latch.otherRequest at hother
    cases hv : blockAck block arm with
    | null => rw [hv] at hint; cases hint
    | numUnsigned n => rw [hv] at hother; simpa using hother
    | numInteger i => rw [hv] at hother; simpa using hother
    | bool b => rw [hv] at hint; cases hint
    | numFloat d => rw [hv] at hint; cases hint
    | str t => rw [hv] at hint; cases hint
    | arr t => rw [hv] at hint; cases hint
    | obj t => rw [hv] at hint; cases hint

/-- A latched arm whose motion counts as done has seen the done of its own request. -/
theorem doneSeen_of_motionDone (events : List OverrideEvent) (hints : ∀ e ∈ events, e.IntegerAcks)
    (hon : (latchAfter py cfg arm events).on = true) (hm : (latchAfter py cfg arm events).motionDone = true) :
    DoneSeen py cfg arm (latchAfter py cfg arm events).requestId events := by
  induction events using List.reverseRecOn with
  | nil => cases hon
  | append_singleton pre event ih =>
    have ih := ih fun e he => hints e (by simp [he])
    by_cases hstart : StartsAt py cfg arm pre event
    · rw [(latch_of_startsAt hstart).2.1] at hm
      cases hm
    · rw [requestId_of_unstarted hstart]
      have hkeep : (latchAfter py cfg arm pre).on = true → (latchAfter py cfg arm pre).motionDone = true →
          DoneSeen py cfg arm (latchAfter py cfg arm pre).requestId (pre ++ [event]) := fun hon hm =>
        (since_concat event).mpr (.inr ⟨ih hon hm, hstart⟩)
      obtain ⟨q, hl, -⟩ | ⟨q, _, _, -, -, hl, -⟩ | ⟨s, payload, block, l₁, added, he, hb, -, hl, -, acts⟩ :=
        unstarted_cases hstart
      · rw [hl] at hon hm
        exact hkeep hon hm
      · rw [hl] at hon
        cases hon
      · have hdone := fun hon hack hdone =>
          doneSeen_of_acts ih (hints event (by simp)) hstart he hb hon hack hdone
        rw [hl] at hon hm
        cases acts with
        | ignored => exact hkeep hon hm
        | moving => exact hkeep hon hm
        | failed => cases hm
        | waiting hbefore hack _ hd => exact hdone hbefore hack hd
        | released hbefore hack _ hd => exact hdone hbefore hack hd

/-! ## A failure of the own request -/

theorem off_of_acts {status : String} {ack : Json} {tare : Bool} {l l' : Latch} {emitted : List Transition}
    (acts : Acts cfg status ack tare l l' emitted) (hoff : l.on = false) : l'.on = false := by
  by_contra h
  have := acts.on_of_on ((Bool.not_eq_false _).mp h)
  rw [hoff] at this
  cases this

/-- A latched arm that has seen the failure of its own request is marked. -/
theorem fail_of_failedSeen (events : List OverrideEvent)
    (h : FailedSeen py cfg arm (latchAfter py cfg arm events).requestId events)
    (hon : (latchAfter py cfg arm events).on = true) : (latchAfter py cfg arm events).fail = true := by
  induction events using List.reverseRecOn with
  | nil => exact absurd h not_since_nil
  | append_singleton pre event ih =>
    rw [FailedSeen, since_concat] at h
    rcases h with ⟨⟨s, payload, block, he, hb, hs, hack⟩, hret⟩ | ⟨h, hstart⟩
    · -- the failure itself
      subst he
      have hstart : ¬ StartsAt py cfg arm pre (.snapshot s) :=
        not_startsAt_of_not_moving hb (by rw [hs]; decide)
      rw [requestId_of_unstarted hstart] at hack
      have hother : (latchAfter py cfg arm pre).otherRequest (blockAck block arm) = false := by
        unfold Latch.otherRequest
        split
        · rfl
        · rw [hack]
          rfl
      have hl : latchAfter py cfg arm (pre ++ [.snapshot s])
          = ((OverrideController.run py cfg pre).updateFromSnapshot py cfg s).1.latch arm := by
        unfold latchAfter
        rw [run_concat]
        rfl
      cases hpre : (latchAfter py cfg arm pre).on with
      | true =>
        rw [hl]
        exact updateFromSnapshot_failed py cfg _ s hb hs hpre hother (hret s rfl)
      | false =>
        obtain ⟨q, hl', -⟩ | ⟨q, _, _, -, -, hl', -⟩ | ⟨s', payload', block', l₁, added, -, -, -, hl', -, acts⟩ :=
          unstarted_cases hstart
        · rw [hl'] at hon
          exact absurd hon (by simp [hpre])
        · rw [hl'] at hon
          cases hon
        · rw [hl', off_of_acts acts hpre] at hon
          cases hon
    · rw [requestId_of_unstarted hstart] at h
      have ih := ih h
      obtain ⟨q, hl, -⟩ | ⟨q, _, _, -, -, hl, -⟩ | ⟨s, payload, block, l₁, added, -, -, -, hl, -, acts⟩ :=
        unstarted_cases hstart
      · rw [hl] at hon ⊢
        exact ih hon
      · rw [hl] at hon
        cases hon
      · rw [hl] at hon ⊢
        cases acts with
        | ignored => exact ih hon
        | moving => exact ih hon
        | failed => rfl
        | waiting hbefore _ hfail => exact absurd (ih hbefore) (by simp [hfail])
        | released hbefore _ hfail => exact absurd (ih hbefore) (by simp [hfail])

/-! ## Releases -/

theorem releaseInOrder_of_off (hwait : Double.lt (.fin 0) cfg.tareWait = true) (hfailed : cfg.clearsOnFailed = false)
    (hints : ∀ e ∈ pre ++ [event], e.IntegerAcks) (hover : ¬ Overtaken py cfg arm pre event)
    (hon : (latchAfter py cfg arm pre).on = true) (hoff : (latchAfter py cfg arm (pre ++ [event])).on = false) :
    ReleaseInOrder py cfg arm pre event := by
  have hstart : ¬ StartsAt py cfg arm pre event := by
    intro h
    rw [(latch_of_startsAt h).1] at hoff
    cases hoff
  obtain ⟨q, hl, -⟩ | ⟨q, nowNs, command, he, hcancel, -⟩ |
    ⟨s, payload, block, l₁, added, he, hb, hsees, hl, -, acts⟩ := unstarted_cases hstart
  · rw [hl] at hoff
    exact absurd hon (by rw [show (latchAfter py cfg arm pre).on = false from hoff]; decide)
  · exact .inl ⟨nowNs, command, he, hcancel⟩
  · right
    have hdone := fun hack hdone => doneSeen_of_acts
      (doneSeen_of_motionDone pre fun e he => hints e (by simp [he])) (hints event (by simp)) hstart he
      hb hon hack hdone
    rw [hl] at hoff
    cases acts with
    | ignored => exact absurd hon (by simp [hoff])
    | moving => exact absurd hon (by rw [show (latchAfter py cfg arm pre).on = false from hoff]; decide)
    | failed => simp [hfailed] at hoff
    | waiting => exact absurd hon (by rw [show (latchAfter py cfg arm pre).on = false from hoff]; decide)
    | released _ hack hfail hd htare =>
      have htare : tareAt py cfg arm pre payload = false := htare.resolve_right (by simp [hwait])
      refine ⟨hdone hack hd, s, payload, block, he, hb, ?_, htare⟩
      rintro ⟨hmoving, hother⟩
      cases hext : (latchAfter py cfg arm pre).external with
      | true =>
        unfold Latch.seesExternal at hsees
        rw [hmoving, hext, hother] at hsees
        simp at hsees
      | false =>
        have hclears : cfg.clearsOnDone = true := by
          by_contra hc
          simp [hc, hon] at hoff
        have hmotion : (latchAfter py cfg arm pre).motionDone = true :=
          hack.resolve_right (by simp [hother])
        exact hover ⟨s, payload, block, he, hb, hon, hext, hmotion, hmoving, hother, htare, hclears⟩

/-- No snapshot releases an arm after the failure of its request. -/
theorem on_of_failedSeen (hfailed : cfg.clearsOnFailed = false) {s : InitSnapshot}
    (h : FailedSeen py cfg arm (latchAfter py cfg arm pre).requestId pre)
    (hon : (latchAfter py cfg arm pre).on = true) : (latchAfter py cfg arm (pre ++ [.snapshot s])).on = true := by
  have hfail := fail_of_failedSeen pre h hon
  by_cases hstart : StartsAt py cfg arm pre (.snapshot s)
  · exact (latch_of_startsAt hstart).1
  · obtain ⟨q, hl, -⟩ | ⟨q, _, _, he, -⟩ | ⟨s', payload, block, l₁, added, -, -, -, hl, -, acts⟩ :=
      unstarted_cases hstart
    · rw [hl]
      exact hon
    · cases he
    · rw [hl]
      cases acts with
      | ignored => exact hon
      | moving => exact hon
      | failed => simp [hfailed]
      | waiting => exact hon
      | released _ _ hf => exact absurd hfail (by simp [hf])

/-! ## Done and failed transitions -/

theorem countP_addedAt_le (pre : List OverrideEvent) (event : OverrideEvent) :
    (addedAt py cfg arm pre event).countP (fun t => t = .done || t = .failed) ≤ 1 := by
  by_cases hstart : StartsAt py cfg arm pre event
  · have hnone := (latch_of_startsAt hstart).2.2.2.2
    unfold ContributesAt at hnone
    rw [not_or] at hnone
    have hzero : (addedAt py cfg arm pre event).countP (fun t => t = .done || t = .failed) = 0 := by
      rw [List.countP_eq_zero]
      intro t ht
      simp only [Bool.or_eq_true, decide_eq_true_eq, not_or]
      exact ⟨fun e => hnone.1 (e ▸ ht), fun e => hnone.2 (e ▸ ht)⟩
    omega
  · obtain ⟨q, -, hadd⟩ | ⟨q, _, _, -, -, -, hadd⟩ | ⟨s, payload, block, l₁, added, -, -, -, -, hadd, acts⟩ :=
      unstarted_cases hstart
    · rw [hadd]
      simp
    · have hzero : (addedAt py cfg arm pre event).countP (fun t => t = .done || t = .failed) = 0 := by
        rw [List.countP_eq_zero]
        intro t ht
        rw [hadd t ht]
        decide
      omega
    · rw [hadd]
      cases acts with
      | ignored => simp
      | moving => simp
      | failed => split <;> simp
      | waiting => simp
      | released => split <;> simp

/-- A request that has added its transition has its latch off, or is marked failed, or is shown as done. -/
theorem settled_of_contributed (events : List OverrideEvent)
    (hcond : EveryStep (fun pre event => ¬ Reopened py cfg arm pre event) events)
    (h : Since (ContributesAt py cfg arm) (StartsAt py cfg arm) events) :
    (latchAfter py cfg arm events).on = false ∨ (latchAfter py cfg arm events).fail = true ∨
      (latchAfter py cfg arm events).motionDone = true ∧ (latchAfter py cfg arm events).doneShown = true := by
  induction events using List.reverseRecOn with
  | nil => exact absurd h not_since_nil
  | append_singleton pre event ih =>
    have hopen : ¬ Reopened py cfg arm pre event := hcond pre event [] rfl
    rw [since_concat] at h
    have hstart : ¬ StartsAt py cfg arm pre event := by
      rcases h with h | ⟨-, h⟩
      · exact fun hs => (latch_of_startsAt hs).2.2.2.2 h
      · exact h
    have ih := fun h => ih (hcond.of_append rfl) h
    obtain ⟨q, hl, hadd⟩ | ⟨q, _, _, -, -, hl, -⟩ | ⟨s, payload, block, l₁, added, he, hb, -, hl, hadd, acts⟩ :=
      unstarted_cases hstart
    · have hsince := h.resolve_left (by unfold ContributesAt; rw [hadd]; simp)
      rw [hl]
      exact ih hsince.1
    · rw [hl]
      exact .inl rfl
    · rw [hl]
      have hsettled : ContributesAt py cfg arm pre event ∨ (latchAfter py cfg arm pre).on = false ∨
          (latchAfter py cfg arm pre).fail = true ∨
          (latchAfter py cfg arm pre).motionDone = true ∧ (latchAfter py cfg arm pre).doneShown = true :=
        h.imp id fun h => ih h.1
      unfold ContributesAt at hsettled
      rw [hadd] at hsettled
      cases acts with
      | ignored => exact hsettled.resolve_left (by simp)
      | moving _ hm =>
        rcases hsettled.resolve_left (by simp) with hoff | hfail | ⟨hm', -⟩
        · exact .inl hoff
        · exact .inr (.inl hfail)
        · exact absurd hm' (by simp [hm])
      | failed => exact .inr (.inl rfl)
      | waiting hon _ hfail _ htare =>
        rcases hsettled.resolve_left (by simp) with hoff | hf | ⟨hm, hd⟩
        · exact absurd hon (by simp [hoff])
        · exact absurd hf (by simp [hfail])
        · exact absurd ⟨s, payload, block, he, hb, hon, hm, hd, .inr htare⟩ hopen
      | released hon _ hfail hdone htare =>
        cases hc : cfg.clearsOnDone with
        | true => exact .inl (by simp)
        | false => exact .inr (.inr ⟨rfl, by simp⟩)

/-- A request adds its transition once. -/
theorem not_since_of_contributes (hcond : EveryStep (fun pre event => ¬ Reopened py cfg arm pre event) (pre ++ [event]))
    (h : ContributesAt py cfg arm pre event) : ¬ Since (ContributesAt py cfg arm) (StartsAt py cfg arm) pre := by
  intro hsince
  have hopen : ¬ Reopened py cfg arm pre event := hcond pre event [] rfl
  have hsettled := settled_of_contributed pre (hcond.of_append rfl) hsince
  have hstart : ¬ StartsAt py cfg arm pre event := fun hs => (latch_of_startsAt hs).2.2.2.2 h
  unfold ContributesAt at h
  obtain ⟨q, -, hadd⟩ | ⟨q, _, _, -, -, -, hadd⟩ | ⟨s, payload, block, l₁, added, he, hb, -, -, hadd, acts⟩ :=
    unstarted_cases hstart
  · rw [hadd] at h
    simp at h
  · rcases h with h | h
    · cases hadd _ h
    · cases hadd _ h
  · rw [hadd] at h
    cases acts with
    | ignored => simp at h
    | moving => simp at h
    | failed hon _ hs =>
      rcases hsettled with hoff | hf | ⟨hm, hd⟩
      · exact absurd hon (by simp [hoff])
      · simp [hf] at h
      · exact hopen ⟨s, payload, block, he, hb, hon, hm, hd, .inl hs⟩
    | waiting => simp at h
    | released hon _ hfail =>
      rcases hsettled with hoff | hf | ⟨-, hd⟩
      · exact absurd hon (by simp [hoff])
      · exact absurd hf (by simp [hfail])
      · simp [hd] at h

/-! ## Request ids -/

variable (py cfg arm) in
/-- No request starts under an id that has already added a transition. -/
def FreshIds (events : List OverrideEvent) : Prop :=
  EveryStep (fun pre event => StartsAt py cfg arm pre event →
    ∀ a e b, pre = a ++ e :: b → ContributesAt py cfg arm a e →
    (latchAfter py cfg arm (a ++ [e])).requestId ≠ (latchAfter py cfg arm (pre ++ [event])).requestId) events

/-- With fresh ids, an id that has added a transition is the current one only until the next start. -/
theorem since_of_same_id (events : List OverrideEvent) (hfresh : FreshIds py cfg arm events) (a : List OverrideEvent)
    (e : OverrideEvent) (b : List OverrideEvent) (he : events = a ++ e :: b) (hc : ContributesAt py cfg arm a e)
    (hid : (latchAfter py cfg arm (a ++ [e])).requestId = (latchAfter py cfg arm events).requestId) :
    Since (ContributesAt py cfg arm) (StartsAt py cfg arm) events := by
  induction events using List.reverseRecOn generalizing b with
  | nil => simp at he
  | append_singleton pre event ih =>
    rw [since_concat]
    induction b using List.reverseRecOn with
    | nil =>
      obtain ⟨rfl, hlast⟩ := List.append_inj' he rfl
      cases hlast
      exact .inl hc
    | append_singleton b x _ =>
      rw [← List.cons_append, ← List.append_assoc] at he
      obtain ⟨rfl, hlast⟩ := List.append_inj' he rfl
      cases hlast
      right
      have hstart : ¬ StartsAt py cfg arm (a ++ e :: b) event := fun hs =>
        hfresh (a ++ e :: b) event [] rfl hs a e b rfl hc hid
      rw [requestId_of_unstarted hstart] at hid
      exact ⟨ih (hfresh.of_append rfl) b rfl hid, hstart⟩

/-! ## Whole runs -/

/-- **The release of a latch.**  With a tare wait and failures that stay, in a run of integer acknowledgements in which
no step is overtaken or reopened: every release is in order, no snapshot releases a failed request, and a request adds
at most one done or failed transition, counted from its start and, if ids are fresh, by its id. -/
theorem latch_released {events : List OverrideEvent} (hwait : Double.lt (.fin 0) cfg.tareWait = true)
    (hfailed : cfg.clearsOnFailed = false) (hints : ∀ e ∈ events, e.IntegerAcks)
    (hcond : EveryStep (fun pre event => ¬ Overtaken py cfg arm pre event ∧ ¬ Reopened py cfg arm pre event) events) :
    EveryStep (fun pre event =>
      ((latchAfter py cfg arm pre).on = true → (latchAfter py cfg arm (pre ++ [event])).on = false →
        ReleaseInOrder py cfg arm pre event) ∧
      ((∃ s, event = .snapshot s) → FailedSeen py cfg arm (latchAfter py cfg arm pre).requestId pre →
        (latchAfter py cfg arm pre).on = true → (latchAfter py cfg arm (pre ++ [event])).on = true) ∧
      (addedAt py cfg arm pre event).countP (fun t => t = .done || t = .failed) ≤ 1 ∧
      (ContributesAt py cfg arm pre event → ¬ Since (ContributesAt py cfg arm) (StartsAt py cfg arm) pre) ∧
      (FreshIds py cfg arm events → ContributesAt py cfg arm pre event →
        ∀ a e b, pre = a ++ e :: b → ContributesAt py cfg arm a e →
          (latchAfter py cfg arm (a ++ [e])).requestId ≠
            (latchAfter py cfg arm (pre ++ [event])).requestId)) events := by
  intro pre event post e
  have e' : events = (pre ++ [event]) ++ post := by rw [e]; simp
  have hopen : EveryStep (fun pre event => ¬ Reopened py cfg arm pre event) (pre ++ [event]) :=
    (hcond.of_append e').imp fun _ _ h => h.2
  refine ⟨?_, ?_, countP_addedAt_le pre event, not_since_of_contributes hopen, ?_⟩
  · exact releaseInOrder_of_off hwait hfailed (fun x hx => hints x (by rw [e']; exact List.mem_append_left _ hx))
      (hcond pre event post e).1
  · rintro ⟨s, rfl⟩ hseen hon
    exact on_of_failedSeen hfailed hseen hon
  · rintro hfresh hc a x b rfl hx hid
    have hstart : ¬ StartsAt py cfg arm (a ++ x :: b) event := fun hs => (latch_of_startsAt hs).2.2.2.2 hc
    rw [requestId_of_unstarted hstart] at hid
    exact not_since_of_contributes hopen hc (since_of_same_id _ (hfresh.of_append e) a x b rfl hx hid)

end

/-! ## An own request that is done and another client's init -/

/-- The release of an own init by its done, without a force sensor. -/
theorem releaseInOrder_done :
    (latchAfter .plain sampleConfig .left [.command 5 (leftPress .start)]).on = true ∧
    (latchAfter .plain sampleConfig .left
      [.command 5 (leftPress .start), .snapshot (leftReport "done" 5)]).on = false ∧
    ReleaseInOrder .plain sampleConfig .left [.command 5 (leftPress .start)] (.snapshot (leftReport "done" 5)) := by
  have hon : (latchAfter .plain sampleConfig .left [.command 5 (leftPress .start)]).on = true := by decide +kernel
  have hoff : (latchAfter .plain sampleConfig .left
      [.command 5 (leftPress .start), .snapshot (leftReport "done" 5)]).on = false := by decide +kernel
  refine ⟨hon, hoff, ?_⟩
  have hints : ∀ e ∈ [OverrideEvent.command 5 (leftPress .start), .snapshot (leftReport "done" 5)],
      e.IntegerAcks := by
    rintro e he s payload block rfl hb arm
    simp only [List.mem_cons, reduceCtorEq, OverrideEvent.snapshot.injEq, List.not_mem_nil, or_false, false_or] at he
    subst he
    cases hb
    cases arm <;> decide +kernel
  have hcond : EveryStep (fun pre event => ¬ Overtaken .plain sampleConfig .left pre event ∧
      ¬ Reopened .plain sampleConfig .left pre event)
      ([OverrideEvent.command 5 (leftPress .start)] ++ [.snapshot (leftReport "done" 5)]) := by
    rw [everyStep_append, everyStep_singleton, everyStep_singleton]
    refine ⟨⟨?_, ?_⟩, ?_, ?_⟩
    · rintro ⟨s, payload, block, he, -⟩
      cases he
    · rintro ⟨s, payload, block, he, -⟩
      cases he
    · rintro ⟨s, payload, block, -, -, -, -, hm, -⟩
      exact absurd hm (by decide +kernel)
    · rintro ⟨s, payload, block, -, -, -, hm, -⟩
      exact absurd hm (by decide +kernel)
  exact (latch_released (by decide +kernel) (by decide) hints hcond _ _ [] rfl).1 hon hoff

/-- A report about the left arm with an enabled force sensor in the given tare state. -/
def leftTareReport (status : String) (ack : ℕ) (tareState : String) : InitSnapshot where
  payload := .obj [
    ("init_motion", .obj [
      ("left", .obj [("status", .str status), ("request_id", .numUnsigned ack)]),
      ("right", .obj [("status", .str "idle"), ("request_id", .numUnsigned 0)])]),
    ("left", .obj [("force_torque", .obj [("enabled", .bool true), ("connected", .bool true),
      ("bias_valid", .bool true), ("tare_state", .str tareState)])])]
  receivedMonotonic := .fin 0

/-- The own init 5 is done and waits for its tare. -/
def tareRun : List OverrideEvent :=
  [.command 5 (leftPress .start), .snapshot (leftTareReport "executing" 5 "settling"),
    .snapshot (leftTareReport "done" 5 "settling")]

/-- **An overtaken release.**  The tare lands in a snapshot that already reports another client's request 9 as
executing, and the latch of the own request 5 is released on it. -/
theorem overtaken_release :
    (latchAfter .plain sampleConfig .left tareRun).on = true ∧
    (latchAfter .plain sampleConfig .left tareRun).requestId = 5 ∧
    (latchAfter .plain sampleConfig .left (tareRun ++ [.snapshot (leftTareReport "executing" 9 "accepted")])).on =
      false ∧
    ¬ ReleaseInOrder .plain sampleConfig .left tareRun (.snapshot (leftTareReport "executing" 9 "accepted")) := by
  refine ⟨by decide +kernel, by decide +kernel, by decide +kernel, ?_⟩
  rintro (⟨nowNs, command, he, -⟩ | ⟨-, s, payload, block, he, hb, hnot, -⟩)
  · cases he
  · cases he
    cases hb
    exact hnot ⟨by decide +kernel, by decide +kernel⟩

end PolicyRunner
