import RoboticsLab.Preview.PlanOrigin

/-!
# Requests and the results of a run

A step makes its request in the state it ends in.  The planning thread may answer any request it was
given, at any later time and in any order (`Answered`); under that alone the books of a run stay in
order (`RunBooks`), and within an epoch one number is one plan or brake.

    Answered sp bk s₀ ops → RunBooks sp bk s₀ ops                               (runBooks)
-/

namespace RbServo.LivePreviewExecution

open Gauge Relation Authority

variable {K G B F : Type*} [Field K] [LinearOrder K] [FloorSemiring K] [Group G]
variable {sp : MotionSpace K G} {bk : PreviewBrake K G B} {s : LivePreviewExecution K G B}

/-! ## Parts that do not return -/

/-- A part of a step that goes on has at most braked. -/
def Braked {α β : Type*} (a : Authority K G B) (x : Except α (LivePreviewExecution K G B × β)) : Prop :=
  ∀ r, x = .ok r → ReflTransGen BrakeMove a r.1.authority

theorem braked_followPlan (s : LivePreviewExecution K G B) (t : Tick K G F) (out : LivePreviewOutput K G) :
    Braked s.authority (s.followPlan sp bk t out) := by
  intro r hr
  unfold followPlan at hr
  split at hr
  · obtain rfl := Except.ok.inj hr
    exact .refl
  · split at hr
    · obtain rfl := Except.ok.inj hr
      exact .refl
    · simp only at hr
      generalize (if s.planningStarvedSinceSec = 0 then t.now else s.planningStarvedSinceSec) = since at hr
      split at hr
      · next hb =>
        obtain rfl := Except.ok.inj hr
        have hc := beginBrake_call sp bk ({ s with planningStarvedSinceSec := since } : LivePreviewExecution K G B)
          "braking_expired" false
        exact .single (hc.ok hb)
      · simp at hr

theorem braked_followBrake (hb : s.brakeTrajectory.isSome) (t : Tick K G F) (out : LivePreviewOutput K G) :
    Braked s.authority (s.followBrake sp bk t out) := by
  intro r hr
  have h1 : BrakeCall s (if s.angularContinuation.needsBrake t.now then s.beginAngularBrake sp bk else (s, true)) := by
    split
    · exact beginAngularBrake_call sp bk hb
    · exact ⟨fun _ => .keep, fun h => absurd h (by simp)⟩
  unfold followBrake at hr
  generalize (if s.angularContinuation.needsBrake t.now then s.beginAngularBrake sp bk else (s, true)) = b at h1 hr
  -- The second call samples, and only if the first went well.
  have h2 : BrakeCall s (if b.2 then b.1.sampleBrake sp bk else b) := by
    split
    · next hb => exact BrakeCall.of_sample sp bk (h1.ok hb)
    · exact h1
  simp only at hr
  generalize (if b.2 then b.1.sampleBrake sp bk else b) = c at h2 hr
  split at hr
  · next hc =>
    split at hr
    · simp at hr
    · obtain rfl := Except.ok.inj hr
      exact .single (h2.ok hc)
  · simp at hr

theorem braked_follow (s : LivePreviewExecution K G B) (t : Tick K G F) (out : LivePreviewOutput K G) :
    Braked s.authority (s.follow sp bk t out) := by
  unfold follow
  split
  · next hb => exact braked_followBrake hb t out
  · split
    · intro r hr
      obtain rfl := Except.ok.inj hr
      exact .refl
    · intro r hr
      unfold awaitPlan at hr
      simp only at hr
      split at hr
      · split at hr <;> simp at hr
      · obtain rfl := Except.ok.inj hr
        exact .refl

theorem braked_checkStarved (s : LivePreviewExecution K G B) (t : Tick K G F) (out : LivePreviewOutput K G) :
    Braked s.authority (s.checkStarved sp bk t out) := by
  intro r hr
  unfold checkStarved at hr
  split at hr
  · simp at hr
  · obtain rfl := Except.ok.inj hr
    exact .refl

theorem braked_retireAdvance (s : LivePreviewExecution K G B) (t : Tick K G F) (out : LivePreviewOutput K G) :
    Braked s.authority (s.retireAdvance sp t out) := by
  intro r hr
  unfold retireAdvance at hr
  split at hr
  · obtain rfl := Except.ok.inj hr
    exact .refl
  · split at hr
    · split at hr
      · simp at hr
      · obtain rfl := Except.ok.inj hr
        exact .refl
    · obtain rfl := Except.ok.inj hr
      exact .refl

omit [FloorSemiring K] [Group G] in
/-- Two parts in a row. -/
theorem Braked.bind {a : Authority K G B} {x : Flow K G B}
    {f : LivePreviewExecution K G B × LivePreviewOutput K G → Flow K G B} (h : Braked a x)
    (hf : ∀ r, Braked r.1.authority (f r)) : Braked a (x >>= f) := by
  intro r hr
  cases x with
  | error e => cases hr
  | ok r₀ => exact (h r₀ rfl).trans (hf r₀ r hr)

theorem braked_proceed (s : LivePreviewExecution K G B) (t : Tick K G F) (out : LivePreviewOutput K G) :
    Braked s.authority (s.proceed sp bk t out) := by
  unfold proceed
  apply Braked.bind (braked_followPlan s t out)
  intro r
  apply Braked.bind (braked_follow r.1 t r.2)
  intro r
  apply Braked.bind (braked_checkStarved r.1 t r.2)
  intro r
  exact braked_retireAdvance r.1 t r.2

theorem braked_stepCursor (s : LivePreviewExecution K G B) (t : Tick K G F) (out : LivePreviewOutput K G) :
    Braked s.authority (s.stepCursor sp bk t out) := by
  intro r hr
  unfold stepCursor at hr
  split at hr
  · simp at hr
  · simp only at hr
    generalize (if 2 ≤ (s.phaseWindow sp bk t).count then _ else _) = c at hr
    split at hr
    · obtain rfl := Except.ok.inj hr
      exact .refl
    · split at hr <;> simp at hr

/-! ## Requests -/

omit [Field K] [LinearOrder K] [FloorSemiring K] [Group G] in
theorem BrakeMoves.keep {a a' : Authority K G B} (h : ReflTransGen BrakeMove a a') :
    a'.initialized = a.initialized := by
  induction h with
  | refl => rfl
  | tail _ hm ih =>
    rw [← ih]
    cases hm <;> rfl

/-- A request is made of the state the step ends in, but for its own number. -/
theorem finish_request {t : Tick K G F} {slotFree : Bool} {out : LivePreviewOutput K G}
    {q : PreviewExecutionRequest K G B F} (hq : (s.finish sp bk t slotFree out).request = some q) :
    ∃ (s₂ : LivePreviewExecution K G B) (phase : PreviewExecutionCursorStep K),
      ReflTransGen BrakeMove s.authority s₂.authority ∧ q = s₂.makeRequest t phase ∧
      (s.finish sp bk t slotFree out).exec.authority = { s₂.authority with requestId := s₂.requestId + 1 } := by
  have h1 : Braked s.authority (s.proceed sp bk t out) := braked_proceed s t out
  unfold finish at hq ⊢
  cases hp : s.proceed sp bk t out with
  | error r => simp [hp] at hq
  | ok r =>
    have h2 : Braked r.1.authority (r.1.stepCursor sp bk t r.2) := braked_stepCursor r.1 t r.2
    cases hc : r.1.stepCursor sp bk t r.2 with
    | error e => simp [hp, hc] at hq
    | ok e =>
      simp only [hp, hc] at hq ⊢
      refine ⟨e.1, e.2.2, (h1 r hp).trans (h2 e hc), ?_⟩
      unfold askPlan at hq ⊢
      split at hq
      · next hg =>
        rw [if_pos hg]
        split at hq
        · next hf =>
          rw [if_pos hf]
          exact ⟨(Option.some.inj hq).symm, rfl⟩
        · simp at hq
      · simp at hq

variable [DecidableEq G]

/-- The state in which a step makes its request. -/
structure Requested (sp : MotionSpace K G) (bk : PreviewBrake K G B) (s : LivePreviewExecution K G B)
    (i : StepInput K G F) (q : PreviewExecutionRequest K G B F) (s₂ : LivePreviewExecution K G B) : Prop where
  path : Path sp (i.taken.map Prod.fst) true s.authority s₂.authority
  initialized : s₂.initialized
  request : ∃ t phase, t.raw = i.raw ∧ q = s₂.makeRequest t phase
  exec : (s.step sp bk i).exec.authority = { s₂.authority with requestId := s₂.requestId + 1 }

theorem step_request {i : StepInput K G F} {q : PreviewExecutionRequest K G B F}
    (hq : (s.step sp bk i).request = some q) : ∃ s₂, Requested sp bk s i q s₂ := by
  have hexec : ∀ r, s.enter sp bk i = .ok r → (s.step sp bk i) =
      (r.1.admission sp r.2).finish sp bk r.2 i.slotFree ⟨i.acceptedNominal, false, false, "waiting"⟩ := by
    intro r hr
    rw [step, hr]
  cases h : s.enter sp bk i with
  | error r => simp [step, h] at hq
  | ok r =>
    have he := entered h
    rw [hexec r h] at hq
    obtain ⟨s₂, phase, hm, hreq, hauth⟩ := finish_request hq
    have hp : Path sp (i.taken.map Prod.fst) true (r.1.admission sp r.2).authority s₂.authority :=
      ReflTransGen.mono (fun _ _ hm => Step.brake hm) _ _ hm
    have hinit : (r.1.admission sp r.2).initialized = r.1.initialized := by
      unfold LivePreviewExecution.admission
      split <;> rfl
    refine ⟨s₂, (he.path.admits.trans he.path_admission).trans hp, ?_, ⟨r.2, phase, he.raw, hreq⟩, ?_⟩
    · have hi : s₂.initialized = (r.1.admission sp r.2).initialized := BrakeMoves.keep hm
      rw [hi, hinit]
      exact he.initialized
    · rw [hexec r h]
      exact hauth

/-! ## Admissions -/

/-- The plan a step makes active. -/
def madeActive (sp : MotionSpace K G) (bk : PreviewBrake K G B) (s : LivePreviewExecution K G B)
    (i : StepInput K G F) : Option (PreviewExecutionResult K G) :=
  match s.enter sp bk i with
  | .error _ => none
  | .ok e => e.1.admitted sp e.2

/-! ## The planning thread -/

/-- A request that a step of the run submitted. -/
def Submitted (sp : MotionSpace K G) (bk : PreviewBrake K G B) (s₀ : LivePreviewExecution K G B)
    (ops : List (LiveOp K G F)) (q : PreviewExecutionRequest K G B F) : Prop :=
  ∃ p i m, ops = p ++ .step i :: m ∧ ((run sp bk s₀ p).step sp bk i).request = some q

/-- What the planning thread copies of a request into its result. -/
structure Answers (q : PreviewExecutionRequest K G B F) (r : PreviewExecutionResult K G) : Prop where
  identity : r.identity = q.identity
  gauge : r.gauge = q.gauge
  generatedAtSec : r.generatedAtSec = q.generatedAtSec
  spliceAtSec : r.spliceAtSec = q.spliceAtSec
  validUntilSec : r.validUntilSec = q.validUntilSec

/-- Every result a step takes answers a request submitted before, whichever. -/
def Answered (sp : MotionSpace K G) (bk : PreviewBrake K G B) (s₀ : LivePreviewExecution K G B)
    (ops : List (LiveOp K G F)) : Prop :=
  ∀ p op m, ops = p ++ op :: m → ∀ r ∈ opTaken op, ∃ q, Submitted sp bk s₀ p q ∧ Answers q r

/-- The results a run takes. -/
def takenOf (ops : List (LiveOp K G F)) : List (PreviewExecutionResult K G) := ops.flatMap opTaken

omit [Field K] [LinearOrder K] [FloorSemiring K] [Group G] [DecidableEq G] in
theorem takenOf_concat (ops : List (LiveOp K G F)) (op : LiveOp K G F) :
    takenOf (ops ++ [op]) = takenOf ops ++ opTaken op := by
  simp [takenOf]

variable {s₀ : LivePreviewExecution K G B} {ops : List (LiveOp K G F)} {q : PreviewExecutionRequest K G B F}

theorem Answered.of_append {ops' : List (LiveOp K G F)} (h : Answered sp bk s₀ (ops ++ ops')) :
    Answered sp bk s₀ ops :=
  fun p op m he r hr => h p op (m ++ ops') (by rw [he, List.append_assoc, List.cons_append]) r hr

theorem Submitted.of_concat {op : LiveOp K G F} (h : Submitted sp bk s₀ (ops ++ [op]) q) :
    Submitted sp bk s₀ ops q ∨ ∃ i, op = .step i ∧ ((run sp bk s₀ ops).step sp bk i).request = some q := by
  obtain ⟨p, i, m, he, hq⟩ := h
  rcases List.eq_nil_or_concat m with rfl | ⟨m', op', rfl⟩
  · obtain ⟨rfl, h2⟩ := List.append_inj' he rfl
    obtain rfl := List.singleton_inj.mp h2
    exact .inr ⟨i, rfl, hq⟩
  · have he' : ops ++ [op] = (p ++ .step i :: m') ++ [op'] := by simpa using he
    obtain ⟨rfl, -⟩ := List.append_inj' he' rfl
    exact .inl ⟨p, i, m', rfl, hq⟩

/-! ## Numbers and gauges over a run -/

variable {L : List (PreviewExecutionResult K G)}

omit [LinearOrder K] [FloorSemiring K] [DecidableEq G] in
theorem Booked.extend {a : Authority K G B} (h : Booked L a) {L' : List (PreviewExecutionResult K G)}
    (h' : ∀ r ∈ L', r.identity.parentPlanId < r.identity.requestId ∧ r.identity.requestId ≤ a.requestId) :
    Booked (L ++ L') a where
  taken r hr := (List.mem_append.mp hr).elim (h.taken r) (h' r)
  parent := h.parent
  staged r hr := by
    obtain ⟨⟨r₀, h0, he⟩, hg⟩ := h.staged r hr
    exact ⟨⟨r₀, List.mem_append_left _ h0, he⟩, hg⟩
  active := h.active
  faulted := h.faulted

/-- **One call**, once its results are in the books. -/
theorem booked_apply (h : Booked L s.authority) (op : LiveOp K G F) (hL : ∀ r ∈ opTaken op, r ∈ L) :
    Booked L (s.apply sp bk op).authority := by
  by_cases hs : steps op
  · exact h.path hL (path_apply s hs)
  · cases op with
    | shiftCommonFrame fold cause =>
      have hcall : FoldCall s fold cause (s.shiftCommonFrame sp fold cause).authority :=
        shiftCommonFrame_call s fold cause
      show Booked L (s.shiftCommonFrame sp fold cause).authority
      obtain ⟨-, ha⟩ | ⟨-, ha⟩ | ⟨f, -, ha⟩ | ⟨f, -, x, hx, hn, ha⟩ := hcall
      · rw [ha]
        exact h
      · rw [ha]
        exact h.reset true
      · rw [ha]
        exact ⟨h.taken, Nat.zero_le _, fun r hr => by simp [Authority.fail, Authority.reset] at hr,
          fun r hr => by simp [Authority.fail, Authority.reset] at hr,
          fun hi => by simp [Authority.fail, Authority.reset] at hi⟩
      · rw [ha]
        exact h.fold f cause hx hn
    | observeDispatch tx emitted accepted pos rot =>
      have hcall : DispatchCall sp s tx emitted accepted pos rot
          (s.observeDispatch sp bk tx emitted accepted pos rot).1.authority :=
        observeDispatch_call s tx emitted accepted pos rot
      show Booked L (s.observeDispatch sp bk tx emitted accepted pos rot).1.authority
      obtain ha | ha | ⟨-, -, -, -, ha⟩ := hcall
      · rw [ha]
        exact h
      · rw [ha]
        exact h.reset true
      · rw [ha]
        exact ⟨h.taken, h.parent, h.staged, h.active, h.faulted⟩
    | _ => simp [steps] at hs

/-- The number of a request is new. -/
theorem Requested.numbers {i : StepInput K G F} {s₂ : LivePreviewExecution K G B}
    (h : Requested sp bk s i q s₂) (hb : Booked L s₂.authority) :
    q.identity.parentPlanId < q.identity.requestId ∧
      q.identity.requestId = (s.step sp bk i).exec.authority.requestId := by
  obtain ⟨t, phase, -, rfl⟩ := h.request
  rw [h.exec]
  have hp := hb.parent
  rw [authority_parentPlanId] at hp
  exact ⟨Nat.lt_succ_of_le hp, rfl⟩

/-- What a run keeps in its books. -/
structure RunBooks (sp : MotionSpace K G) (bk : PreviewBrake K G B) (s₀ : LivePreviewExecution K G B)
    (ops : List (LiveOp K G F)) : Prop where
  started : (run sp bk s₀ ops).authority.Started
  booked : Booked (takenOf ops) (run sp bk s₀ ops).authority
  requests : ∀ q, Submitted sp bk s₀ ops q → q.identity.parentPlanId < q.identity.requestId ∧
    q.identity.requestId ≤ (run sp bk s₀ ops).requestId

/-- The results of the next call, booked before it. -/
theorem RunBooks.next {op : LiveOp K G F} (h : RunBooks sp bk s₀ ops) (ha : Answered sp bk s₀ (ops ++ [op])) :
    Booked (takenOf ops ++ opTaken op) (run sp bk s₀ ops).authority := by
  refine Booked.extend h.booked fun r hr => ?_
  obtain ⟨q, hq, hr⟩ := ha ops op [] rfl r hr
  rw [hr.identity]
  exact h.requests q hq

/-- **Whole runs.** -/
theorem runBooks (h0 : RunBooks sp bk s₀ ([] : List (LiveOp K G F))) (ops : List (LiveOp K G F))
    (ha : Answered sp bk s₀ ops) :
    RunBooks sp bk s₀ ops := by
  induction ops using List.reverseRecOn with
  | nil => exact h0
  | append_singleton ops op ih =>
    have h := ih ha.of_append
    have hL : ∀ r ∈ opTaken op, r ∈ takenOf ops ++ opTaken op := fun r hr => List.mem_append_right _ hr
    have hc : Change (opFold op) (run sp bk s₀ ops).authority (run sp bk s₀ (ops ++ [op])).authority := by
      rw [run_concat]
      exact change_apply h.started op
    refine ⟨hc.started, ?_, ?_⟩
    · rw [run_concat, takenOf_concat]
      exact booked_apply (h.next ha) op hL
    · intro q hq
      rcases hq.of_concat with hold | ⟨i, rfl, hnew⟩
      · exact ⟨(h.requests q hold).1, (h.requests q hold).2.trans hc.requestId⟩
      · obtain ⟨s₂, hs₂⟩ := step_request hnew
        obtain ⟨h1, h2⟩ := hs₂.numbers ((h.next ha).path hL hs₂.path)
        rw [run_concat]
        exact ⟨h1, h2.le⟩

theorem runBooks_create (config : LivePreviewConfig K) (cursor : PreviewExecutionCursor K) :
    RunBooks (F := F) sp bk (create config cursor) [] where
  started := started_create config cursor
  booked := by
    refine ⟨by simp [takenOf], Nat.zero_le _, fun r hr => ?_, fun r hr => ?_, fun _ => rfl⟩
    · simp [run, create, authority] at hr
    · simp [run, create, authority] at hr
  requests q hq := by
    obtain ⟨p, i, m, he, -⟩ := hq
    simp at he

/-! ## What is executed, over a run -/

theorem follows_apply (hs : s.authority.Started) (h : Booked L s.authority) (op : LiveOp K G F)
    (hL : ∀ r ∈ opTaken op, r ∈ L) (hi : s.initialized) (he : (s.apply sp bk op).epoch = s.epoch) :
    Follows s.authority (s.apply sp bk op).authority := by
  by_cases hst : steps op
  · exact Follows.path hs h hL hi (path_apply s hst) he
  · have hfail : s.authority.fail.epoch = s.epoch + 1 := if_pos (live_of_initialized hi)
    cases op with
    | shiftCommonFrame fold cause =>
      have hcall : FoldCall s fold cause (s.shiftCommonFrame sp fold cause).authority :=
        shiftCommonFrame_call s fold cause
      have he' : (s.shiftCommonFrame sp fold cause).authority.epoch = s.epoch := he
      show Follows s.authority (s.shiftCommonFrame sp fold cause).authority
      obtain ⟨hi', -⟩ | ⟨-, ha⟩ | ⟨f, hr, ha⟩ | ⟨f, -, x, hx, hn, ha⟩ := hcall
      · simp [hi] at hi'
      · rw [ha] at he'
        omega
      · have hl : (s.authority.fold f cause s.active).fail.epoch = s.epoch + 1 :=
          if_pos (live_of_initialized hi)
        rw [ha] at he'
        omega
      · rw [ha]
        exact Follows.fold f cause hx hn
    | observeDispatch tx emitted accepted pos rot =>
      have hcall : DispatchCall sp s tx emitted accepted pos rot
          (s.observeDispatch sp bk tx emitted accepted pos rot).1.authority :=
        observeDispatch_call s tx emitted accepted pos rot
      have he' : (s.observeDispatch sp bk tx emitted accepted pos rot).1.authority.epoch = s.epoch := he
      show Follows s.authority (s.observeDispatch sp bk tx emitted accepted pos rot).1.authority
      obtain ha | ha | ⟨-, -, -, -, ha⟩ := hcall
      · rw [ha]
        exact .of_eq h rfl rfl rfl
      · rw [ha] at he'
        omega
      · rw [ha]
        exact .of_eq h rfl rfl rfl
    | _ => simp [steps] at hst

theorem follows_run (h0 : RunBooks sp bk s₀ ([] : List (LiveOp K G F))) (p m : List (LiveOp K G F))
    (ha : Answered sp bk s₀ (p ++ m)) (hi : (run sp bk s₀ p).initialized)
    (he : (run sp bk s₀ (p ++ m)).epoch = (run sp bk s₀ p).epoch) :
    Follows (run sp bk s₀ p).authority (run sp bk s₀ (p ++ m)).authority := by
  induction m using List.reverseRecOn with
  | nil =>
    rw [List.append_nil] at ha ⊢
    exact .of_eq (runBooks h0 p ha).booked rfl rfl rfl
  | append_singleton m op ih =>
    rw [← List.append_assoc] at ha he ⊢
    have hb := runBooks h0 (p ++ m) ha.of_append
    have hp := runBooks h0 p ha.of_append.of_append
    have h1 : Change (foldsOf m) (run sp bk s₀ p).authority (run sp bk s₀ (p ++ m)).authority :=
      change_append p m hp.started
    have h2 : Change (opFold op) (run sp bk s₀ (p ++ m)).authority (run sp bk s₀ (p ++ m ++ [op])).authority := by
      rw [run_concat]
      exact change_apply hb.started op
    have hmid : (run sp bk s₀ (p ++ m)).epoch = (run sp bk s₀ p).epoch := by
      have h3 : (run sp bk s₀ p).epoch ≤ (run sp bk s₀ (p ++ m)).epoch := h1.epoch
      have h4 : (run sp bk s₀ (p ++ m)).epoch ≤ (run sp bk s₀ (p ++ m ++ [op])).epoch := h2.epoch
      omega
    refine (ih ha.of_append hmid).trans ?_
    rw [run_concat] at he ⊢
    exact follows_apply hb.started (hb.next ha) op (fun r hr => List.mem_append_right _ hr)
      (h1.initialized hmid hi) (he.trans hmid.symm)

end RbServo.LivePreviewExecution
