import RoboticsLab.Preview.Authority

/-!
# What a call does to the authority

A path of steps never turns a counter back, and within an epoch it keeps the gauge, the brake and a
halt; only folds move the gauge and only dispatches set the last dispatched sample (`Authority.Change`).

    Change s.authority (s.apply sp bk op).authority op                          (authority_apply)
-/

namespace RbServo

open Gauge Relation

variable {K G B F : Type*}

namespace Authority

/-! ## Paths -/

/-- A brake or a halt belongs to an initialized executor. -/
def Started (a : Authority K G B) : Prop := a.halted ∨ a.brake.isSome → a.initialized

/-- What a path of steps does. -/
structure Advances (a a' : Authority K G B) : Prop where
  started : a'.Started
  epoch : a.epoch ≤ a'.epoch
  accepted : a.accepted ≤ a'.accepted
  gateRevision : a.gateRevision ≤ a'.gateRevision
  requestId : a.requestId ≤ a'.requestId
  initialized : a'.epoch = a.epoch → a.initialized → a'.initialized
  gauge : a'.epoch = a.epoch → a.initialized → a'.gauge = a.gauge
  brake : a'.epoch = a.epoch → a'.accepted = a.accepted → ∀ b, a.brake = some b →
    ∃ b', a'.brake = some b' ∧ b'.trajectory = b.trajectory ∧ b'.originSec = b.originSec
  halted : a'.epoch = a.epoch → a.halted → a'.halted ∧ a'.accepted = a.accepted
  dispatched : ∀ x, a'.dispatched = some x → a.dispatched = some x ∧ a'.epoch = a.epoch

variable {a a' a'' : Authority K G B}

theorem Advances.trans (h : Advances a a') (h' : Advances a' a'') : Advances a a'' where
  started := h'.started
  epoch := h.epoch.trans h'.epoch
  accepted := h.accepted.trans h'.accepted
  gateRevision := h.gateRevision.trans h'.gateRevision
  requestId := h.requestId.trans h'.requestId
  initialized he hi := by
    have h1 := h.epoch
    have h2 := h'.epoch
    exact h'.initialized (by omega) (h.initialized (by omega) hi)
  gauge he hi := by
    have h1 := h.epoch
    have h2 := h'.epoch
    rw [h'.gauge (by omega) (h.initialized (by omega) hi), h.gauge (by omega) hi]
  brake he ha b hb := by
    have h1 := h.epoch
    have h2 := h'.epoch
    have h3 := h.accepted
    have h4 := h'.accepted
    obtain ⟨b', hb', ht, ho⟩ := h.brake (by omega) (by omega) b hb
    obtain ⟨b'', hb'', ht', ho'⟩ := h'.brake (by omega) (by omega) b' hb'
    exact ⟨b'', hb'', ht'.trans ht, ho'.trans ho⟩
  halted he hh := by
    have h1 := h.epoch
    have h2 := h'.epoch
    obtain ⟨hh', ha⟩ := h.halted (by omega) hh
    obtain ⟨hh'', ha'⟩ := h'.halted (by omega) hh'
    exact ⟨hh'', ha'.trans ha⟩
  dispatched x hx := by
    obtain ⟨h1, h2⟩ := h'.dispatched x hx
    obtain ⟨h3, h4⟩ := h.dispatched x h1
    exact ⟨h3, h2.trans h4⟩

/-- A change of the staged result and of the number of requests only. -/
theorem Advances.of_staged (h : a.Started) (x : Option (PreviewExecutionResult K G)) {n : ℕ} (hn : a.requestId ≤ n) :
    Advances a { a with staged := x, requestId := n } where
  started := h
  epoch := le_rfl
  accepted := le_rfl
  gateRevision := le_rfl
  requestId := hn
  initialized _ hi := hi
  gauge _ _ := rfl
  brake _ _ b hb := ⟨b, hb, rfl, rfl⟩
  halted _ hh := ⟨hh, rfl⟩
  dispatched _ hx := ⟨hx, rfl⟩

theorem Advances.refl (h : a.Started) : Advances a a := Advances.of_staged h a.staged le_rfl

theorem live_of_initialized (h : a.initialized) : a.live := by simp [live, h]

variable [Field K] [Group G]

/-- A reset of anything that runs opens a new epoch. -/
theorem Advances.reset (h : a.Started) (faulted : Bool) : Advances a { a.reset with faulted := faulted } := by
  have hepoch : a.reset.epoch = if a.live then a.epoch + 1 else a.epoch := rfl
  have hgate : a.reset.gateRevision = if a.live then a.gateRevision + 1 else a.gateRevision := rfl
  have hlive : a.live → a.reset.epoch ≠ a.epoch := by
    intro hl
    rw [hepoch, if_pos hl]
    omega
  constructor
  · intro h'
    simp [Authority.reset] at h'
  · show a.epoch ≤ a.reset.epoch
    rw [hepoch]
    split <;> omega
  · exact le_rfl
  · show a.gateRevision ≤ a.reset.gateRevision
    rw [hgate]
    split <;> omega
  · exact le_rfl
  · intro he hi
    exact absurd he (hlive (live_of_initialized hi))
  · intro he hi
    exact absurd he (hlive (live_of_initialized hi))
  · intro he _ b hb
    exact absurd he (hlive (by simp [live, hb]))
  · intro he hh
    exact absurd he (hlive (live_of_initialized (h (.inl hh))))
  · intro x hx
    simp [Authority.reset] at hx

omit [Field K] [Group G] in
theorem Advances.brakeMove (h : a.Started) (hm : BrakeMove a a') : Advances a a' := by
  cases hm with
  | keep => exact .refl h
  | angular b c hb =>
    have hi : a.initialized := h (.inr (by simp [hb]))
    refine ⟨fun _ => hi, le_rfl, le_rfl, le_rfl, Nat.le_succ _, fun _ _ => hi, fun _ _ => rfl, ?_,
      fun _ hh => ⟨hh, rfl⟩, fun _ hx => ⟨hx, rfl⟩⟩
    intro _ _ b' hb'
    obtain rfl := Option.some.inj (hb.symm.trans hb')
    exact ⟨_, rfl, rfl, rfl⟩
  | brake b o c hi hb =>
    refine ⟨fun _ => hi, le_rfl, le_rfl, le_rfl, Nat.le_succ _, fun _ _ => hi, fun _ _ => rfl, ?_,
      fun _ hh => ⟨hh, rfl⟩, fun _ hx => ⟨hx, rfl⟩⟩
    intro _ _ b' hb'
    simp [hb] at hb'

/-- **One step.** -/
theorem Advances.step [LinearOrder K] [DecidableEq G] {sp : MotionSpace K G}
    {taken : List (PreviewExecutionResult K G)} {adm : Bool} (h : a.Started)
    (hs : Step sp taken adm a a') : Advances a a' := by
  cases hs with
  | reset => exact Advances.reset h false
  | fail => exact Advances.reset h true
  | start hi hf =>
    refine ⟨fun _ => rfl, le_rfl, le_rfl, le_rfl, le_rfl, fun _ _ => rfl, fun _ _ => rfl,
      fun _ _ b hb => ⟨b, hb, rfl, rfl⟩, fun _ hh => ⟨hh, rfl⟩, fun _ hx => ⟨hx, rfl⟩⟩
  | brake hm => exact Advances.brakeMove h hm
  | unstage => exact Advances.of_staged h none le_rfl
  | stage _ _ _ => exact Advances.of_staged h _ le_rfl
  | transport _ _ => exact Advances.of_staged h _ le_rfl
  | admission hr hf hg hh hi _ =>
    refine ⟨fun _ => hi, le_rfl, Nat.le_succ _, le_rfl, le_rfl, fun _ _ => hi, fun _ _ => rfl, ?_, ?_,
      fun _ hx => ⟨hx, rfl⟩⟩
    · intro _ ha
      exact absurd ha (Nat.succ_ne_self _)
    · intro _ hh'
      simp [hh] at hh'
  | retire hi =>
    refine ⟨fun _ => hi, le_rfl, le_rfl, Nat.le_succ _, le_rfl, fun _ _ => hi, fun _ _ => rfl,
      fun _ _ b hb => ⟨b, hb, rfl, rfl⟩, fun _ hh => ⟨rfl, rfl⟩, fun _ hx => ⟨hx, rfl⟩⟩
  | spend => exact Advances.of_staged h a.staged (Nat.le_succ _)

/-- **Whole paths.** -/
theorem Advances.path [LinearOrder K] [DecidableEq G] {sp : MotionSpace K G}
    {taken : List (PreviewExecutionResult K G)} {adm : Bool} (h : a.Started)
    (hp : Path sp taken adm a a') : Advances a a' := by
  induction hp with
  | refl => exact .refl h
  | tail _ hs ih => exact ih.trans (Advances.step ih.started hs)

/-! ## Calls -/

/-- What a call that folds by `f` does, apart from what has been dispatched. -/
structure Change (f : Fold (Vec3 K) G) (a a' : Authority K G B) : Prop where
  started : a'.Started
  epoch : a.epoch ≤ a'.epoch
  accepted : a.accepted ≤ a'.accepted
  gateRevision : a.gateRevision ≤ a'.gateRevision
  requestId : a.requestId ≤ a'.requestId
  initialized : a'.epoch = a.epoch → a.initialized → a'.initialized
  gauge : a'.epoch = a.epoch → a.initialized → a.gauge.revision ≤ a'.gauge.revision ∧
    a'.gauge.translation = a.gauge.translation + f.dp ∧ a'.gauge.rotation = f.dR * a.gauge.rotation
  brake : a'.epoch = a.epoch → a'.accepted = a.accepted → ∀ b, a.brake = some b →
    ∃ b', a'.brake = some b' ∧ b'.trajectory = b.trajectory.shiftCommonFrame f ∧ b'.originSec = b.originSec
  halted : a'.epoch = a.epoch → a.halted → a'.halted ∧ a'.accepted = a.accepted

theorem shiftCommonFrame_still (b : PreviewBrakeTrajectory K G B) : b.shiftCommonFrame .still = b := by
  cases b
  simp [PreviewBrakeTrajectory.shiftCommonFrame, Fold.still]

theorem shiftCommonFrame_andThen (b : PreviewBrakeTrajectory K G B) (f e : Fold (Vec3 K) G) :
    (b.shiftCommonFrame f).shiftCommonFrame e = b.shiftCommonFrame (f.andThen e) := by
  simp only [PreviewBrakeTrajectory.shiftCommonFrame, Fold.andThen, add_assoc, mul_assoc]

theorem Advances.change (h : Advances a a') : Change .still a a' where
  started := h.started
  epoch := h.epoch
  accepted := h.accepted
  gateRevision := h.gateRevision
  requestId := h.requestId
  initialized := h.initialized
  gauge he hi := by
    rw [h.gauge he hi]
    simp [Fold.still]
  brake he ha b hb := by
    obtain ⟨b', h1, h2, h3⟩ := h.brake he ha b hb
    exact ⟨b', h1, h2.trans (shiftCommonFrame_still _).symm, h3⟩
  halted := h.halted

theorem Change.trans {f e : Fold (Vec3 K) G} (h : Change f a a') (h' : Change e a' a'') :
    Change (f.andThen e) a a'' where
  started := h'.started
  epoch := h.epoch.trans h'.epoch
  accepted := h.accepted.trans h'.accepted
  gateRevision := h.gateRevision.trans h'.gateRevision
  requestId := h.requestId.trans h'.requestId
  initialized he hi := by
    have h1 := h.epoch
    have h2 := h'.epoch
    exact h'.initialized (by omega) (h.initialized (by omega) hi)
  gauge he hi := by
    have h1 := h.epoch
    have h2 := h'.epoch
    obtain ⟨hr, ht, hg⟩ := h.gauge (by omega) hi
    obtain ⟨hr', ht', hg'⟩ := h'.gauge (by omega) (h.initialized (by omega) hi)
    refine ⟨hr.trans hr', ?_, ?_⟩
    · rw [ht', ht, Fold.andThen, add_assoc]
    · rw [hg', hg, Fold.andThen, mul_assoc]
  brake he ha b hb := by
    have h1 := h.epoch
    have h2 := h'.epoch
    have h3 := h.accepted
    have h4 := h'.accepted
    obtain ⟨b', hb', ht, ho⟩ := h.brake (by omega) (by omega) b hb
    obtain ⟨b'', hb'', ht', ho'⟩ := h'.brake (by omega) (by omega) b' hb'
    exact ⟨b'', hb'', by rw [ht', ht, shiftCommonFrame_andThen], ho'.trans ho⟩
  halted he hh := by
    have h1 := h.epoch
    have h2 := h'.epoch
    obtain ⟨hh', ha⟩ := h.halted (by omega) hh
    obtain ⟨hh'', ha'⟩ := h'.halted (by omega) hh'
    exact ⟨hh'', ha'.trans ha⟩

/-- A call that ends the epoch. -/
theorem Change.of_epoch (f : Fold (Vec3 K) G) (hs : a'.Started) (he : a.epoch < a'.epoch)
    (ha : a.accepted ≤ a'.accepted) (hg : a.gateRevision ≤ a'.gateRevision) (hr : a.requestId ≤ a'.requestId) :
    Change f a a' where
  started := hs
  epoch := he.le
  accepted := ha
  gateRevision := hg
  requestId := hr
  initialized h := absurd h (Nat.ne_of_gt he)
  gauge h := absurd h (Nat.ne_of_gt he)
  brake h := absurd h (Nat.ne_of_gt he)
  halted h := absurd h (Nat.ne_of_gt he)

/-- Nothing to fold before the first tick. -/
theorem Change.of_uninitialized (f : Fold (Vec3 K) G) (h : a.Started) (hi : a.initialized = false) :
    Change f a a where
  started := h
  epoch := le_rfl
  accepted := le_rfl
  gateRevision := le_rfl
  requestId := le_rfl
  initialized _ hi' := hi'
  gauge _ hi' := by simp [hi] at hi'
  brake _ _ b hb := by
    have hi' := h (.inr (by simp [hb]))
    simp [hi] at hi'
  halted _ hh := ⟨hh, rfl⟩

/-- The authority after a fold; `active` is the transported plan. -/
def fold (a : Authority K G B) (f : Fold (Vec3 K) G) (cause : PreviewFoldCause)
    (active : Option (PreviewExecutionResult K G)) : Authority K G B :=
  { a with
    gateRevision := if cause = .unknown then a.gateRevision + 1 else a.gateRevision
    staged := if cause = .unknown then none else a.staged
    gauge := ⟨a.gauge.revision + 1, a.gauge.translation + f.dp, f.dR * a.gauge.rotation⟩
    brake := a.brake.map fun b =>
      { b with trajectory := b.trajectory.shiftCommonFrame f, angular := b.angular.shiftCommonFrame f }
    active := active }

theorem Change.fold (h : a.Started) (f : Fold (Vec3 K) G) (cause : PreviewFoldCause)
    (active : Option (PreviewExecutionResult K G)) : Change f a (a.fold f cause active) where
  started h' := by
    refine h (h'.imp id fun hb => ?_)
    simpa [Authority.fold] using hb
  epoch := le_rfl
  accepted := le_rfl
  gateRevision := by
    show a.gateRevision ≤ if cause = .unknown then a.gateRevision + 1 else a.gateRevision
    split <;> omega
  requestId := le_rfl
  initialized _ hi := hi
  gauge _ _ := ⟨Nat.le_succ _, rfl, rfl⟩
  brake _ _ b hb := by
    refine ⟨{ b with trajectory := b.trajectory.shiftCommonFrame f, angular := b.angular.shiftCommonFrame f },
      ?_, rfl, rfl⟩
    simp only [Authority.fold, hb, Option.map_some]
  halted _ hh := ⟨hh, rfl⟩

end Authority

namespace LivePreviewExecution

open Authority

variable [Field K] [LinearOrder K] [FloorSemiring K] [Group G] [DecidableEq G]
variable {sp : MotionSpace K G} {bk : PreviewBrake K G B} {s : LivePreviewExecution K G B}

/-- What `shiftCommonFrame` does. -/
inductive FoldCall (s : LivePreviewExecution K G B) (fold : Option (Fold (Vec3 K) G)) (cause : PreviewFoldCause)
    (a' : Authority K G B) : Prop
  | ignored (h : s.initialized = false) (ha : a' = s.authority)
  | refused (h : fold = none) (ha : a' = s.authority.fail)
  | lost (f : Fold (Vec3 K) G) (h : s.active.isSome) (ha : a' = (s.authority.fold f cause s.active).fail)
  | folded (f : Fold (Vec3 K) G) (h : fold = some f) (x : Option (PreviewExecutionResult K G))
      (hx : ∀ r', x = some r' → ∃ r, s.active = some r ∧ Transported r r' (s.authority.fold f cause x).gauge)
      (hn : x = none → s.active = none) (ha : a' = s.authority.fold f cause x)

omit [FloorSemiring K] [DecidableEq G] in
theorem authority_foldState (s : LivePreviewExecution K G B) (f : Fold (Vec3 K) G) (cause : PreviewFoldCause)
    (x : Option (PreviewExecutionResult K G)) :
    (({ s.bookFold f cause with active := x } : LivePreviewExecution K G B).foldState f).authority =
      s.authority.fold f cause x := by
  cases hb : s.brakeTrajectory <;> simp [authority, foldState, bookFold, Authority.fold, hb, recovering, gauge]

omit [FloorSemiring K] in
theorem shiftCommonFrame_call (s : LivePreviewExecution K G B) (fold : Option (Fold (Vec3 K) G))
    (cause : PreviewFoldCause) : FoldCall s fold cause (s.shiftCommonFrame sp fold cause).authority := by
  unfold shiftCommonFrame
  split
  · next h => exact .ignored (by simpa using h.1) rfl
  · split
    · exact .refused rfl (authority_fail _ _)
    · next f =>
      simp only
      split
      · next hn =>
        have hn' : s.active = none := hn
        refine .folded f rfl s.active (by simp [hn']) id ?_
        exact authority_foldState s f cause s.active
      · next r hr =>
        have hr' : s.active = some r := hr
        split
        · refine .lost f (by simp [hr']) ?_
          rw [authority_fail]
          simp [authority, bookFold, Authority.fold, Authority.fail, Authority.reset, Authority.live, hr']
        · next r' ht =>
          refine .folded f rfl (some r') (fun r'' h => ⟨r, hr', ?_⟩) (by simp) (authority_foldState s f cause _)
          obtain rfl := Option.some.inj h
          exact transported ht

variable (sp) in
omit [FloorSemiring K] in
theorem change_shiftCommonFrame (h : s.authority.Started) (fold : Option (Fold (Vec3 K) G))
    (cause : PreviewFoldCause) :
    Change (fold.getD .still) s.authority (s.shiftCommonFrame sp fold cause).authority := by
  have hcall : FoldCall s fold cause (s.shiftCommonFrame sp fold cause).authority := shiftCommonFrame_call s fold cause
  obtain ⟨hi, ha⟩ | ⟨hf, ha⟩ | ⟨f, hr, ha⟩ | ⟨f, hf, x, -, -, ha⟩ := hcall
  · rw [ha]
    exact Change.of_uninitialized _ h hi
  · rw [ha, hf]
    exact (Advances.reset h true).change
  · have hfold := Change.fold h f cause s.active
    have hreset := Advances.reset hfold.started true
    have hepoch : (s.authority.fold f cause s.active).fail.epoch = s.epoch + 1 := by
      have hl : (s.authority.fold f cause s.active).live := by simp [Authority.live, Authority.fold, hr]
      simp only [Authority.fail, Authority.reset, if_pos hl]
      rfl
    rw [ha]
    refine Change.of_epoch _ hreset.started ?_ (hfold.accepted.trans hreset.accepted)
      (hfold.gateRevision.trans hreset.gateRevision) (hfold.requestId.trans hreset.requestId)
    rw [hepoch]
    exact Nat.lt_succ_self _
  · rw [ha, hf]
    exact Change.fold h f cause x

/-- What `observeDispatch` does. -/
inductive DispatchCall (sp : MotionSpace K G) (s : LivePreviewExecution K G B) (tx : PreviewDispatchTransaction K G)
    (emitted : Option (StandPose K G)) (accepted : Bool) (posTolerance rotTolerance : Reading K)
    (a' : Authority K G B) : Prop
  | ignored (h : a' = s.authority)
  | refused (h : a' = s.authority.fail)
  | accepted (hv : tx.valid) (he : tx.epoch = s.epoch) (hd : accepted)
      (hf : s.dispatchFailure sp tx emitted posTolerance rotTolerance = none)
      (h : a' = { s.authority with dispatched := some (tx.planId, tx.sampleTimeSec) })

omit [FloorSemiring K] [DecidableEq G] in
theorem observeDispatch_call (s : LivePreviewExecution K G B) (tx : PreviewDispatchTransaction K G)
    (emitted : Option (StandPose K G)) (accepted : Bool) (pos rot : Reading K) :
    DispatchCall sp s tx emitted accepted pos rot
      (s.observeDispatch sp bk tx emitted accepted pos rot).1.authority := by
  unfold observeDispatch
  split
  · exact .ignored rfl
  · next hv =>
    simp only [not_or, not_not] at hv
    split
    · exact .refused (authority_fail _ _)
    · next hd =>
      split
      · exact .refused (authority_fail _ _)
      · next hf => exact .accepted hv.1 hv.2 (not_not.mp hd) hf rfl

/-- The fold of a call. -/
def opFold : LiveOp K G F → Fold (Vec3 K) G
  | .shiftCommonFrame fold _ => fold.getD .still
  | _ => .still

/-- The results a call takes from the planning thread. -/
def opTaken : LiveOp K G F → List (PreviewExecutionResult K G)
  | .step i => i.taken.map Prod.fst
  | _ => []

/-- The calls that only take steps. -/
def steps : LiveOp K G F → Bool
  | .shiftCommonFrame .. | .observeDispatch .. => false
  | _ => true

theorem path_apply (s : LivePreviewExecution K G B) {op : LiveOp K G F} (h : steps op) :
    Path sp (opTaken op) true s.authority (s.apply sp bk op).authority := by
  cases op with
  | step i => exact step_path s i
  | reset reason => exact path_reset s reason
  | fail reason => exact path_fail s reason
  | shiftCommonFrame fold cause => simp [steps] at h
  | contactGuardStopped => exact (beginBrake_call sp bk s _ _).path
  | requestStop reason => exact path_requestStop s reason
  | stopOutput now => exact path_brakeOutput s _ _ _
  | requestRecovery cause => exact path_requestRecovery s cause
  | seedStationaryRecovery now nominal stationary cause =>
    simp only [apply, seedStationaryRecovery]
    split
    · split
      · exact .refl
      · next t x hf =>
        simp only [not_or] at hf
        have hi : s.authority.initialized = false := Bool.eq_false_of_not_eq_true hf.2.2.1
        have hfault : s.authority.faulted = false := Bool.eq_false_of_not_eq_true hf.2.2.2.1
        exact .head (.start hi hfault) (path_requestRecovery ({ s with
          initialized := true
          initializedAt := t
          lastTime := t
          cold := .atRest x
          sample := .atRest x
          cursor := s.cursor.reset (some t) } : LivePreviewExecution K G B) cause)
    · exact .refl
  | setReferenceRateGate gate => exact .refl
  | recoveryOutput now => exact path_brakeOutput s _ _ _
  | restartRecovery =>
    simp only [apply, restartRecovery]
    split
    · exact path_reset s "recovery_restart"
    · exact .refl
  | observeDispatch tx emitted accepted pos rot => simp [steps] at h

/-- **One call.** -/
theorem change_apply (h : s.authority.Started) (op : LiveOp K G F) :
    Change (opFold op) s.authority (s.apply sp bk op).authority := by
  by_cases hs : steps op
  · have hf : opFold op = .still := by cases op <;> simp [steps, opFold] at hs ⊢
    rw [hf]
    exact (Advances.path h (path_apply s hs)).change
  · cases op with
    | shiftCommonFrame fold cause => exact change_shiftCommonFrame sp h fold cause
    | observeDispatch tx emitted accepted pos rot =>
      have hc : DispatchCall sp s tx emitted accepted pos rot
          (s.observeDispatch sp bk tx emitted accepted pos rot).1.authority :=
        observeDispatch_call s tx emitted accepted pos rot
      show Change .still s.authority (s.observeDispatch sp bk tx emitted accepted pos rot).1.authority
      obtain ha | ha | ⟨-, -, -, -, ha⟩ := hc
      · rw [ha]
        exact (Advances.refl h).change
      · rw [ha]
        exact (Advances.reset h true).change
      · rw [ha]
        obtain ⟨h1, h2, h3, h4, h5, h6, h7, h8, h9⟩ := (Advances.refl h).change
        exact ⟨h1, h2, h3, h4, h5, h6, h7, h8, h9⟩
    | _ => simp [steps] at hs

/-- The sample of a dispatch that was accepted. -/
inductive AcceptsDispatch (sp : MotionSpace K G) (s : LivePreviewExecution K G B) :
    LiveOp K G F → PreviewDispatchTransaction K G → Prop
  | mk (tx : PreviewDispatchTransaction K G) (emitted : Option (StandPose K G)) (pos rot : Reading K)
      (hv : tx.valid) (he : tx.epoch = s.epoch) (hf : s.dispatchFailure sp tx emitted pos rot = none) :
      AcceptsDispatch sp s (.observeDispatch tx emitted true pos rot) tx

/-- What has been dispatched was so before the call, or the call accepts it. -/
theorem dispatched_apply (h : s.authority.Started) (op : LiveOp K G F) {x : ℕ × K}
    (hx : (s.apply sp bk op).authority.dispatched = some x) :
    (s.apply sp bk op).epoch = s.epoch ∧ (s.authority.dispatched = some x ∨
      ∃ tx, AcceptsDispatch sp s op tx ∧ x = (tx.planId, tx.sampleTimeSec)) := by
  by_cases hs : steps op
  · have hp : Path sp (opTaken op) true s.authority (s.apply sp bk op).authority := path_apply s hs
    obtain ⟨h1, h2⟩ := (Advances.path h hp).dispatched x hx
    exact ⟨h2, .inl h1⟩
  · cases op with
    | shiftCommonFrame fold cause =>
      have hcall : FoldCall s fold cause (s.shiftCommonFrame sp fold cause).authority :=
        shiftCommonFrame_call s fold cause
      have hx' : (s.shiftCommonFrame sp fold cause).authority.dispatched = some x := hx
      have hepoch : (s.apply sp bk (.shiftCommonFrame fold cause : LiveOp K G F)).epoch =
        (s.shiftCommonFrame sp fold cause).authority.epoch := rfl
      rw [hepoch]
      obtain ⟨-, ha⟩ | ⟨-, ha⟩ | ⟨f, -, ha⟩ | ⟨f, -, y, -, -, ha⟩ := hcall
      · rw [ha] at hx' ⊢
        exact ⟨rfl, .inl hx'⟩
      · rw [ha] at hx'
        simp [Authority.fail, Authority.reset] at hx'
      · rw [ha] at hx'
        simp [Authority.fail, Authority.reset] at hx'
      · rw [ha] at hx' ⊢
        exact ⟨rfl, .inl hx'⟩
    | observeDispatch tx emitted accepted pos rot =>
      have hcall : DispatchCall sp s tx emitted accepted pos rot
          (s.observeDispatch sp bk tx emitted accepted pos rot).1.authority :=
        observeDispatch_call s tx emitted accepted pos rot
      have hx' : (s.observeDispatch sp bk tx emitted accepted pos rot).1.authority.dispatched = some x := hx
      have hepoch : (s.apply sp bk (.observeDispatch tx emitted accepted pos rot : LiveOp K G F)).epoch =
        (s.observeDispatch sp bk tx emitted accepted pos rot).1.authority.epoch := rfl
      rw [hepoch]
      obtain ha | ha | ⟨hv, he, rfl, hf, ha⟩ := hcall
      · rw [ha] at hx' ⊢
        exact ⟨rfl, .inl hx'⟩
      · rw [ha] at hx'
        simp [Authority.fail, Authority.reset] at hx'
      · rw [ha] at hx' ⊢
        exact ⟨rfl, .inr ⟨tx, ⟨tx, emitted, pos, rot, hv, he, hf⟩, (Option.some.inj hx').symm⟩⟩
    | _ => simp [steps] at hs

/-! ## Runs -/

omit [FloorSemiring K] [DecidableEq G] in
theorem started_create (config : LivePreviewConfig K) (cursor : PreviewExecutionCursor K) :
    (create config cursor : LivePreviewExecution K G B).authority.Started := by
  intro h
  simp [authority, create, recovering] at h

theorem run_concat (s : LivePreviewExecution K G B) (ops : List (LiveOp K G F)) (op : LiveOp K G F) :
    run sp bk s (ops ++ [op]) = (run sp bk s ops).apply sp bk op := by
  rw [run, List.foldl_append]
  rfl

theorem run_append (s : LivePreviewExecution K G B) (ops ops' : List (LiveOp K G F)) :
    run sp bk s (ops ++ ops') = run sp bk (run sp bk s ops) ops' := List.foldl_append

/-- The folds of a run, one after the other. -/
def foldsOf (ops : List (LiveOp K G F)) : Fold (Vec3 K) G := ops.foldl (fun f op => f.andThen (opFold op)) .still

omit [LinearOrder K] [FloorSemiring K] [DecidableEq G] in
theorem foldsOf_concat (ops : List (LiveOp K G F)) (op : LiveOp K G F) :
    foldsOf (ops ++ [op]) = (foldsOf ops).andThen (opFold op) := by
  rw [foldsOf, List.foldl_append]
  rfl

/-- **Whole runs.** -/
theorem change_run (h : s.authority.Started) (ops : List (LiveOp K G F)) :
    Change (foldsOf ops) s.authority (run sp bk s ops).authority := by
  induction ops using List.reverseRecOn with
  | nil => exact (Advances.refl h).change
  | append_singleton ops op ih =>
    rw [run_concat, foldsOf_concat]
    exact ih.trans (change_apply ih.started op)

/-- The second part of a run. -/
theorem change_append (ops ops' : List (LiveOp K G F)) (h : (run sp bk s ops).authority.Started) :
    Change (foldsOf ops') (run sp bk s ops).authority (run sp bk s (ops ++ ops')).authority := by
  rw [run_append s ops ops']
  exact change_run h ops'

end LivePreviewExecution

end RbServo
