import RoboticsLab.Preview.RequestBooks
import Mathlib.Algebra.Group.PUnit
import Mathlib.Data.Rat.Floor

/-!
# No plan from a retired authority is executed

The planning thread may answer any request it was given, at any later time and in any order.  A result
that becomes the active plan answers a request made since the last reset, fault, stop, recovery and
untagged fold, for the frame the follower executes and for the plan or brake being executed, and it
has been moved by exactly the folds since.

    madeActive sp bk (run sp bk s₀ pre) i = some r → ∃ p i₀ m q r₀, LiveAuthority …  (madeActive_liveAuthority)
-/

namespace RbServo.LivePreviewExecution

open Gauge Relation Authority

variable {K G B F : Type*} [Field K] [LinearOrder K] [FloorSemiring K] [Group G] [DecidableEq G]
variable {sp : MotionSpace K G} {bk : PreviewBrake K G B} {s : LivePreviewExecution K G B}

variable {s₀ : LivePreviewExecution K G B} {ops : List (LiveOp K G F)} {q : PreviewExecutionRequest K G B F}

/-! ## Retirement -/

/-- The calls that retire the authority; a recovery has to be enabled and to have a cause. -/
def Retires (s : LivePreviewExecution K G B) : LiveOp K G F → Prop
  | .reset _ | .fail _ | .requestStop _ => True
  | .shiftCommonFrame _ cause => cause = .unknown
  | .requestRecovery cause => s.config.recoveryEnable ∧ cause.isSome
  | _ => False

/-- The executor runs under the authority the request names. -/
structure Unretired (s : LivePreviewExecution K G B) (id : PreviewExecutionIdentity) : Prop where
  initialized : s.initialized
  faulted : s.faulted = false
  stopping : s.stopping = false
  recovering : s.recovering = false
  epoch : s.epoch = id.epoch
  gateRevision : s.gateRevision = id.gateRevision

/-- A call that retires the authority of a running executor shows in its counters. -/
theorem retires_apply {id : PreviewExecutionIdentity} (h : Unretired s id) {op : LiveOp K G F} (hr : Retires s op) :
    s.epoch < (s.apply sp bk op).epoch ∨ s.gateRevision < (s.apply sp bk op).gateRevision := by
  have hlive : s.live := by simp [live, h.initialized]
  have hreset : ∀ reason, (s.reset reason).epoch = s.epoch + 1 := fun _ => if_pos hlive
  cases op with
  | reset reason =>
    left
    show s.epoch < (s.reset reason).epoch
    rw [hreset]
    omega
  | fail reason =>
    left
    show s.epoch < (s.reset reason).epoch
    rw [hreset]
    omega
  | requestStop reason =>
    right
    let s' : LivePreviewExecution K G B := { s with
      recoveryCause := none
      stopFaultReason := none
      gateRevision := s.gateRevision + 1
      staged := none }
    have hp : Path sp [] true s'.authority (s'.beginBrake sp bk reason false).1.authority :=
      (beginBrake_call sp bk s' reason false).path
    have hg : s.gateRevision + 1 ≤ (s'.beginBrake sp bk reason false).1.gateRevision :=
      (Advances.path (fun _ => h.initialized) hp).gateRevision
    have hne : ¬ (¬ s.initialized ∨ s.faulted) := by simp [h.initialized, h.faulted]
    show s.gateRevision < (s.requestStop sp bk reason).1.gateRevision
    rw [requestStop, if_neg (by simp [h.stopping]), if_neg hne]
    simp only
    split
    · exact hg
    · exact hg
  | requestRecovery cause =>
    right
    obtain ⟨hen, hcause⟩ := hr
    let s' : LivePreviewExecution K G B := { s with
      recoveryCause := cause
      gateRevision := s.gateRevision + 1
      staged := none
      stopFaultReason := none }
    have hp : Path sp [] true s'.authority (s'.beginBrake sp bk "recovery_braking" false).1.authority :=
      (beginBrake_call sp bk s' _ false).path
    have hg : s.gateRevision + 1 ≤ (s'.beginBrake sp bk "recovery_braking" false).1.gateRevision :=
      (Advances.path (fun _ => h.initialized) hp).gateRevision
    have hne : ¬ (¬ s.config.recoveryEnable ∨ cause = none ∨ s.faulted ∨ ¬ s.initialized) := by
      simp [hen, h.initialized, h.faulted, Option.isSome_iff_ne_none.mp hcause]
    show s.gateRevision < (s.requestRecovery sp bk cause).1.gateRevision
    rw [requestRecovery, if_neg hne, if_neg (by simp [h.recovering])]
    simp only
    split
    · exact hg
    · exact hg
  | shiftCommonFrame fold cause =>
    have hcause : cause = .unknown := hr
    have hcall : FoldCall s fold cause (s.shiftCommonFrame sp fold cause).authority :=
      shiftCommonFrame_call s fold cause
    show s.epoch < (s.shiftCommonFrame sp fold cause).authority.epoch ∨
      s.gateRevision < (s.shiftCommonFrame sp fold cause).authority.gateRevision
    have hi : s.authority.initialized := h.initialized
    obtain ⟨hi', -⟩ | ⟨-, ha⟩ | ⟨f, -, ha⟩ | ⟨f, -, x, -, -, ha⟩ := hcall
    · simp [h.initialized] at hi'
    · left
      have hfail : s.authority.fail.epoch = s.epoch + 1 := if_pos (live_of_initialized hi)
      rw [ha, hfail]
      omega
    · left
      have hlost : (s.authority.fold f cause s.active).live := live_of_initialized hi
      have hfail : (s.authority.fold f cause s.active).fail.epoch = s.epoch + 1 := if_pos hlost
      rw [ha, hfail]
      omega
    · right
      have hgate : (s.authority.fold f cause x).gateRevision = s.gateRevision + 1 := if_pos hcause
      rw [ha, hgate]
      omega
  | _ => exact False.elim hr

/-- The request `q`, made by the step `i₀` after the run `p`, still holds when the step `i`, after the run
`m`, makes the answer `r₀` active as `r`. -/
structure LiveAuthority (sp : MotionSpace K G) (bk : PreviewBrake K G B) (s₀ : LivePreviewExecution K G B)
    (p : List (LiveOp K G F)) (i₀ : StepInput K G F) (m : List (LiveOp K G F)) (i : StepInput K G F)
    (q : PreviewExecutionRequest K G B F) (r₀ r : PreviewExecutionResult K G) : Prop where
  request : ((run sp bk s₀ p).step sp bk i₀).request = some q
  answers : Answers q r₀
  /-- Since the request the executor has been running, under the authority the request names. -/
  running : ∀ m₁ m₂, m = m₁ ++ m₂ → Unretired (run sp bk s₀ (p ++ .step i₀ :: m₁)) q.identity
  /-- No call since the request retires an authority. -/
  calls : ∀ m₁ op m₂, m = m₁ ++ op :: m₂ → ¬ Retires (run sp bk s₀ (p ++ .step i₀ :: m₁)) op
  /-- The request is for the frame the follower executes. -/
  source : q.identity.sourceWireSeq = i.raw.windowWireSeq ∧ q.identity.sourceRecvSeq = i.raw.windowRecvSeq
  /-- The request is to follow the plan or the brake that is executed, which the folds have moved. -/
  parent : q.identity.parentPlanId = (run sp bk s₀ (p ++ .step i₀ :: m)).parentPlanId
  brake : (run sp bk s₀ (p ++ .step i₀ :: m)).brakeTrajectory =
    q.brakePredecessor.map (PreviewBrakeTrajectory.shiftCommonFrame (foldsOf m))
  angular : q.brakePredecessor.isSome → (run sp bk s₀ (p ++ .step i₀ :: m)).angularContinuation =
    q.angularPredecessor.shiftCommonFrame (foldsOf m)
  plan : (run sp bk s₀ (p ++ .step i₀ :: m)).active.map (·.trajectory) =
    q.predecessor.map (PreviewPolynomialTrajectory.shift (foldsOf m))
  origin : q.predecessorOriginSec = if (run sp bk s₀ (p ++ .step i₀ :: m)).brakeTrajectory.isSome then
    some (run sp bk s₀ (p ++ .step i₀ :: m)).brakeOriginSec
    else (run sp bk s₀ (p ++ .step i₀ :: m)).active.map (·.spliceAtSec)
  /-- The time is in the window of the request. -/
  window : ∃ now, i.now = some now ∧ q.spliceAtSec ≤ now ∧ now < q.validUntilSec
  /-- The plan is the answer, moved by the folds since the request. -/
  identity : r.identity = q.identity ∧ r.spliceAtSec = q.spliceAtSec ∧ r.validUntilSec = q.validUntilSec
  trajectory : r.trajectory = r₀.trajectory.shift (foldsOf m)
  nominal : r.nominalTrajectory =
    if r₀.nominalTrajectory.valid then r₀.nominalTrajectory.shift (foldsOf m) else r₀.nominalTrajectory

/-- A taken result, and the request it answers. -/
theorem Answered.split {pre : List (LiveOp K G F)} {i : StepInput K G F} {r₀ : PreviewExecutionResult K G}
    (ha : Answered sp bk s₀ (pre ++ [.step i])) (h : r₀ ∈ takenOf pre ++ opTaken (.step i : LiveOp K G F)) :
    ∃ p i₀ m q, pre = p ++ .step i₀ :: m ∧ ((run sp bk s₀ p).step sp bk i₀).request = some q ∧ Answers q r₀ := by
  rcases List.mem_append.mp h with hold | hnew
  · obtain ⟨op, hop, hr⟩ := List.mem_flatMap.mp hold
    obtain ⟨p', m', rfl⟩ := List.append_of_mem hop
    obtain ⟨q, ⟨p, i₀, m, rfl, hq⟩, hans⟩ := ha.of_append p' op m' rfl r₀ hr
    exact ⟨p, i₀, m ++ op :: m', q, by simp, hq, hans⟩
  · obtain ⟨q, ⟨p, i₀, m, hpre, hq⟩, hans⟩ := ha pre (.step i) [] rfl r₀ hnew
    exact ⟨p, i₀, m, q, hpre, hq, hans⟩

/-- The state a run reaches with a request. -/
theorem run_request {p : List (LiveOp K G F)} {i₀ : StepInput K G F}
    (hq : ((run sp bk s₀ p).step sp bk i₀).request = some q) :
    ∃ s₂, Requested sp bk (run sp bk s₀ p) i₀ q s₂ ∧
      (run sp bk s₀ (p ++ [.step i₀])).authority = { s₂.authority with requestId := s₂.requestId + 1 } := by
  obtain ⟨s₂, hs₂⟩ := step_request hq
  refine ⟨s₂, hs₂, ?_⟩
  rw [run_concat]
  exact hs₂.exec

/-- What a request names as its predecessor, while it is still executed. -/
structure SamePredecessor (f : Fold (Vec3 K) G) (s x : LivePreviewExecution K G B) : Prop where
  brake : x.brakeTrajectory = s.brakeTrajectory.map (PreviewBrakeTrajectory.shiftCommonFrame f)
  angular : s.brakeTrajectory.isSome → x.angularContinuation = s.angularContinuation.shiftCommonFrame f
  origin : s.brakeTrajectory.isSome → x.brakeOriginSec = s.brakeOriginSec
  active : x.active = s.active.map fun r => r.moveTo x.gauge

omit [FloorSemiring K] [DecidableEq G] in
theorem SamePredecessor.of_follows {x : LivePreviewExecution K G B} (h : Follows s.authority x.authority)
    (he : x.parentPlanId = s.parentPlanId) : SamePredecessor (s.gauge.change x.gauge) s x := by
  have he' : x.authority.parentPlanId = s.authority.parentPlanId := by
    rw [authority_parentPlanId, authority_parentPlanId, he]
  have hbrake := h.brake he'
  have hactive : x.active = s.active.map fun r => r.moveTo x.gauge := h.active he'
  cases hb : s.brakeTrajectory with
  | none =>
    have hx : x.brakeTrajectory = none := by
      have hs : s.authority.brake = none := by simp [authority, hb]
      rw [hs] at hbrake
      simpa [authority] using hbrake
    exact ⟨by simp [hx, hb], by simp [hb], by simp [hb], hactive⟩
  | some b =>
    rw [authority_brake hb] at hbrake
    obtain ⟨b', hb', heq⟩ := Option.map_eq_some_iff.mp hbrake
    obtain ⟨h1, h2, -, h4⟩ := RunningBrake.mk.inj heq
    refine ⟨?_, fun _ => h4, fun _ => h2, hactive⟩
    rw [hb', hb]
    exact congrArg some h1

/-- A request, and the step that makes its answer active. -/
structure Admission (sp : MotionSpace K G) (bk : PreviewBrake K G B) (s₀ : LivePreviewExecution K G B)
    (p : List (LiveOp K G F)) (i₀ : StepInput K G F) (m : List (LiveOp K G F)) (i : StepInput K G F)
    (q : PreviewExecutionRequest K G B F) (r₀ r : PreviewExecutionResult K G) (s₁ : LivePreviewExecution K G B)
    (t : Tick K G F) : Prop where
  books : RunBooks sp bk s₀ ([] : List (LiveOp K G F))
  answered : Answered sp bk s₀ (p ++ .step i₀ :: m)
  request : ((run sp bk s₀ p).step sp bk i₀).request = some q
  answers : Answers q r₀
  entered : Entered sp (run sp bk s₀ (p ++ .step i₀ :: m)) i s₁ t
  staged : s₁.staged = some r
  moved : r = r₀.moveTo s₁.gauge
  splice : r.spliceAtSec ≤ t.now
  valid : t.now < r.validUntilSec

namespace Admission

variable {p m : List (LiveOp K G F)} {i₀ i : StepInput K G F} {r₀ r : PreviewExecutionResult K G}
variable {s₁ : LivePreviewExecution K G B} {t : Tick K G F}

theorem identity (h : Admission sp bk s₀ p i₀ m i q r₀ r s₁ t) : r.identity = q.identity := by
  rw [h.moved]
  exact h.answers.identity

/-- From the request to a state in between, and from there to the admission. -/
theorem changes (h : Admission sp bk s₀ p i₀ m i q r₀ r s₁ t) {m₁ m₂ : List (LiveOp K G F)} (hm : m = m₁ ++ m₂) :
    Change (foldsOf m₁) (run sp bk s₀ (p ++ [.step i₀])).authority
        (run sp bk s₀ (p ++ .step i₀ :: m₁)).authority ∧
      Change (foldsOf m₂) (run sp bk s₀ (p ++ .step i₀ :: m₁)).authority s₁.authority := by
  subst hm
  have hanswered := h.answered
  have hcut : p ++ .step i₀ :: (m₁ ++ m₂) = (p ++ .step i₀ :: m₁) ++ m₂ := by simp
  have hfirst : p ++ .step i₀ :: m₁ = (p ++ [.step i₀]) ++ m₁ := by simp
  rw [hcut] at hanswered
  have hmid := runBooks h.books _ hanswered.of_append
  constructor
  · rw [hfirst] at hanswered ⊢
    exact change_append _ m₁ (runBooks h.books _ hanswered.of_append.of_append).started
  · have hall := runBooks h.books _ hanswered
    have h1 : Change (foldsOf m₂) (run sp bk s₀ (p ++ .step i₀ :: m₁)).authority
        (run sp bk s₀ ((p ++ .step i₀ :: m₁) ++ m₂)).authority := change_append _ m₂ hmid.started
    have h2 := h.entered.path
    rw [hcut] at h2
    have h3 := h1.trans (Advances.path hall.started h2).change
    rwa [Fold.andThen_still] at h3

/-- The state at the request. -/
theorem requested (h : Admission sp bk s₀ p i₀ m i q r₀ r s₁ t) :
    ∃ s₂, Requested sp bk (run sp bk s₀ p) i₀ q s₂ ∧
      (run sp bk s₀ (p ++ [.step i₀])).authority = { s₂.authority with requestId := s₂.requestId + 1 } ∧
      s₂.epoch = q.identity.epoch ∧ s₂.gateRevision = q.identity.gateRevision ∧
      s₂.parentPlanId = q.identity.parentPlanId := by
  obtain ⟨s₂, hs₂, hR⟩ := run_request h.request
  obtain ⟨t₀, phase, -, rfl⟩ := hs₂.request
  exact ⟨s₂, hs₂, hR, rfl, rfl, rfl⟩

theorem fits (h : Admission sp bk s₀ p i₀ m i q r₀ r s₁ t) : s₁.epoch = q.identity.epoch ∧
    s₁.gateRevision = q.identity.gateRevision ∧ s₁.parentPlanId = q.identity.parentPlanId := by
  obtain ⟨h1, h2, h3⟩ := h.entered.fits h.staged
  rw [h.identity] at h1 h2 h3
  rw [authority_parentPlanId] at h3
  exact ⟨h1.symm, h2.symm, h3.symm⟩

/-- Since the request the executor has been running, under one authority. -/
theorem running (h : Admission sp bk s₀ p i₀ m i q r₀ r s₁ t) {m₁ m₂ : List (LiveOp K G F)} (hm : m = m₁ ++ m₂) :
    Unretired (run sp bk s₀ (p ++ .step i₀ :: m₁)) q.identity := by
  obtain ⟨h1, h2⟩ := h.changes hm
  obtain ⟨s₂, hs₂, hR, he, hg, -⟩ := h.requested
  obtain ⟨he₁, hg₁, -⟩ := h.fits
  have hbooked : Booked (takenOf (p ++ .step i₀ :: m₁)) (run sp bk s₀ (p ++ .step i₀ :: m₁)).authority := by
    have hanswered := h.answered
    rw [hm, ← List.cons_append, ← List.append_assoc] at hanswered
    exact (runBooks h.books _ hanswered.of_append).booked
  rw [hR] at h1
  -- The counters are the same at both ends.
  have he1 : s₂.epoch ≤ (run sp bk s₀ (p ++ .step i₀ :: m₁)).epoch := h1.epoch
  have he2 : (run sp bk s₀ (p ++ .step i₀ :: m₁)).epoch ≤ s₁.epoch := h2.epoch
  have hg1 : s₂.gateRevision ≤ (run sp bk s₀ (p ++ .step i₀ :: m₁)).gateRevision := h1.gateRevision
  have hg2 : (run sp bk s₀ (p ++ .step i₀ :: m₁)).gateRevision ≤ s₁.gateRevision := h2.gateRevision
  have hi : (run sp bk s₀ (p ++ .step i₀ :: m₁)).initialized := by
    apply h1.initialized _ hs₂.initialized
    show (run sp bk s₀ (p ++ .step i₀ :: m₁)).epoch = s₂.epoch
    omega
  have hh : (run sp bk s₀ (p ++ .step i₀ :: m₁)).authority.halted = false := by
    by_contra hne
    have hepoch : s₁.epoch = (run sp bk s₀ (p ++ .step i₀ :: m₁)).epoch := by omega
    have hhalt := (h2.halted hepoch (Bool.eq_true_of_not_eq_false hne)).1
    simp [h.entered.running] at hhalt
  obtain ⟨hstop, hrec⟩ := Bool.or_eq_false_iff.mp hh
  exact ⟨hi, hbooked.faulted hi, hstop, hrec, by omega, by omega⟩

theorem calls (h : Admission sp bk s₀ p i₀ m i q r₀ r s₁ t) {m₁ m₂ : List (LiveOp K G F)} {op : LiveOp K G F}
    (hm : m = m₁ ++ op :: m₂) : ¬ Retires (run sp bk s₀ (p ++ .step i₀ :: m₁)) op := by
  intro hr
  have h1 := h.running hm
  have hm' : m = (m₁ ++ [op]) ++ m₂ := by
    rw [hm]
    simp
  have h2 : Unretired (run sp bk s₀ (p ++ .step i₀ :: (m₁ ++ [op]))) q.identity := h.running hm'
  have hrun : run sp bk s₀ (p ++ .step i₀ :: (m₁ ++ [op])) =
      (run sp bk s₀ (p ++ .step i₀ :: m₁)).apply sp bk op := by
    rw [← run_concat]
    simp
  rw [hrun] at h2
  have he := h2.epoch.trans h1.epoch.symm
  have hg := h2.gateRevision.trans h1.gateRevision.symm
  have hlt : (run sp bk s₀ (p ++ .step i₀ :: m₁)).epoch <
        ((run sp bk s₀ (p ++ .step i₀ :: m₁)).apply sp bk op).epoch ∨
      (run sp bk s₀ (p ++ .step i₀ :: m₁)).gateRevision <
        ((run sp bk s₀ (p ++ .step i₀ :: m₁)).apply sp bk op).gateRevision := retires_apply h1 hr
  rcases hlt with hlt | hlt
  · exact absurd he (Nat.ne_of_gt hlt)
  · exact absurd hg (Nat.ne_of_gt hlt)

/-- The change of gauge since the request is the folds since. -/
theorem change_eq (h : Admission sp bk s₀ p i₀ m i q r₀ r s₁ t) :
    q.gauge.change (run sp bk s₀ (p ++ .step i₀ :: m)).gauge = foldsOf m ∧
      s₁.gauge = (run sp bk s₀ (p ++ .step i₀ :: m)).gauge := by
  obtain ⟨h1, -⟩ := h.changes (List.append_nil m).symm
  obtain ⟨s₂, hs₂, hR, he, -⟩ := h.requested
  have hx := h.running (List.append_nil m).symm
  have hs₁ := (Advances.path (runBooks h.books _ h.answered).started h.entered.path).gauge
    (h.fits.1.trans hx.epoch.symm) hx.initialized
  obtain ⟨t₀, phase, -, rfl⟩ := hs₂.request
  rw [hR] at h1
  obtain ⟨-, htrans, hrot⟩ := h1.gauge (hx.epoch.trans he.symm) hs₂.initialized
  exact ⟨PreviewExecutionGauge.change_eq htrans hrot, hs₁⟩

/-- What the request names as its predecessor is what is executed. -/
theorem predecessor (h : Admission sp bk s₀ p i₀ m i q r₀ r s₁ t) :
    ∃ s₂, Requested sp bk (run sp bk s₀ p) i₀ q s₂ ∧
      (run sp bk s₀ (p ++ .step i₀ :: m)).parentPlanId = q.identity.parentPlanId ∧
      SamePredecessor (foldsOf m) s₂ (run sp bk s₀ (p ++ .step i₀ :: m)) := by
  obtain ⟨s₂, hs₂, hR, he, -, hparent⟩ := h.requested
  refine ⟨s₂, hs₂, ?_⟩
  have hx := h.running (List.append_nil m).symm
  have hcut : p ++ .step i₀ :: m = (p ++ [.step i₀]) ++ m := by simp
  have hfollows : Follows s₂.authority (run sp bk s₀ (p ++ .step i₀ :: m)).authority := by
    have hf : Follows (run sp bk s₀ (p ++ [.step i₀])).authority (run sp bk s₀ ((p ++ [.step i₀]) ++ m)).authority := by
      have hRi : (run sp bk s₀ (p ++ [.step i₀])).authority.initialized := by
        rw [hR]
        exact hs₂.initialized
      have hRe : (run sp bk s₀ (p ++ [.step i₀])).authority.epoch = s₂.epoch := by rw [hR]; rfl
      apply follows_run h.books _ m (hcut ▸ h.answered) hRi
      rw [← hcut]
      exact hx.epoch.trans (he.symm.trans hRe.symm)
    rw [hR, ← hcut] at hf
    exact ⟨hf.parent, hf.brake, hf.active⟩
  -- Entering the step changes nothing of what is executed.
  have hp : (run sp bk s₀ (p ++ .step i₀ :: m)).parentPlanId = q.identity.parentPlanId := by
    rw [← h.fits.2.2, ← authority_parentPlanId, ← authority_parentPlanId]
    simp only [Authority.parentPlanId, h.entered.brake, h.entered.active]
  refine ⟨hp, ?_⟩
  have hsame := SamePredecessor.of_follows hfollows (hp.trans hparent.symm)
  have hgauge : s₂.gauge = q.gauge := by
    obtain ⟨t₀, phase, -, rfl⟩ := hs₂.request
    rfl
  rwa [hgauge, h.change_eq.1] at hsame

/-- The plan executed at the request is of the gauge of the request. -/
theorem active_gauge (h : Admission sp bk s₀ p i₀ m i q r₀ r s₁ t) {s₂ : LivePreviewExecution K G B}
    (hs₂ : Requested sp bk (run sp bk s₀ p) i₀ q s₂) {r' : PreviewExecutionResult K G}
    (hr : s₂.active = some r') : r'.gauge = q.gauge := by
  have hanswered := h.answered
  rw [List.append_cons] at hanswered
  have hb := (runBooks h.books p hanswered.of_append.of_append).next hanswered.of_append
  have hb₂ := hb.path (fun r hr => List.mem_append_right _ hr) hs₂.path
  obtain ⟨t₀, phase, -, rfl⟩ := hs₂.request
  exact hb₂.active r' hr

theorem liveAuthority (h : Admission sp bk s₀ p i₀ m i q r₀ r s₁ t) :
    LiveAuthority sp bk s₀ p i₀ m i q r₀ r := by
  obtain ⟨hchange, hgauge⟩ := h.change_eq
  obtain ⟨s₂, hs₂, hparent, hpred⟩ := h.predecessor
  have hsource := h.entered.current r h.staged
  simp only [stagedCurrent, decide_eq_true_eq, h.identity, h.entered.raw] at hsource
  have hmoved : r₀.gauge.change s₁.gauge = foldsOf m := by rw [h.answers.gauge, hgauge, hchange]
  have htimes : r.spliceAtSec = q.spliceAtSec ∧ r.validUntilSec = q.validUntilSec := by
    rw [h.moved]
    exact ⟨h.answers.spliceAtSec, h.answers.validUntilSec⟩
  have hactive : ∀ r', s₂.active = some r' → r'.gauge = q.gauge := fun r' hr => h.active_gauge hs₂ hr
  obtain ⟨t₀, phase, -, hq⟩ := hs₂.request
  have hbrake : q.brakePredecessor = s₂.brakeTrajectory := by rw [hq]; rfl
  refine ⟨h.request, h.answers, fun m₁ m₂ hm => h.running hm, fun m₁ op m₂ hm => h.calls hm,
    ⟨hsource.2.2.1, hsource.2.2.2.1⟩, hparent.symm, ?_, ?_, ?_, ?_, ?_, ⟨h.identity, htimes⟩, ?_, ?_⟩
  · rw [hbrake]
    exact hpred.brake
  · rw [hbrake, hq]
    exact hpred.angular
  · have hplan : q.predecessor = s₂.active.map (·.trajectory) := by rw [hq]; rfl
    rw [hpred.active, hplan, Option.map_map, Option.map_map]
    cases hr : s₂.active with
    | none => rfl
    | some r' =>
      show some (r'.trajectory.shift (r'.gauge.change _)) = some (r'.trajectory.shift _)
      rw [hactive r' hr, hchange]
  · have horigin : q.predecessorOriginSec =
        if s₂.brakeTrajectory.isSome then some s₂.brakeOriginSec else s₂.active.map (·.spliceAtSec) := by
      rw [hq]
      rfl
    rw [horigin, hpred.brake, hpred.active, Option.isSome_map, Option.map_map]
    split
    · next hb => rw [hpred.origin hb]
    · rfl
  · refine ⟨t.now, h.entered.now, ?_, ?_⟩
    · rw [← htimes.1]
      exact h.splice
    · rw [← htimes.2]
      exact h.valid
  · rw [h.moved, ← hmoved]
    rfl
  · rw [h.moved, ← hmoved]
    rfl

end Admission

/-- **No plan from a retired authority.** -/
theorem madeActive_liveAuthority (sp : MotionSpace K G) (bk : PreviewBrake K G B) (config : LivePreviewConfig K)
    (cursor : PreviewExecutionCursor K) (pre : List (LiveOp K G F)) (i : StepInput K G F)
    (r : PreviewExecutionResult K G) (ha : Answered sp bk (create config cursor) (pre ++ [.step i]))
    (hr : madeActive sp bk (run sp bk (create config cursor) pre) i = some r) :
    ∃ p i₀ m q r₀, pre = p ++ .step i₀ :: m ∧ r₀ ∈ takenOf (pre ++ [.step i]) ∧
      LiveAuthority sp bk (create config cursor) p i₀ m i q r₀ r := by
  have h0 : RunBooks sp bk (create config cursor) ([] : List (LiveOp K G F)) := runBooks_create config cursor
  have hL : ∀ r ∈ opTaken (.step i : LiveOp K G F), r ∈ takenOf pre ++ opTaken (.step i : LiveOp K G F) :=
    fun r hr => List.mem_append_right _ hr
  unfold madeActive at hr
  split at hr
  · simp at hr
  · next e henter =>
    have he := entered henter
    obtain ⟨hstaged, hadm⟩ := Option.filter_eq_some_iff.mp hr
    obtain ⟨hsplice, hadm⟩ := Bool.and_eq_true_iff.mp hadm
    have hv : e.2.now < r.validUntilSec := lt_validUntil_of_admits hadm
    have hbooked := ((runBooks h0 pre ha.of_append).next ha).path hL he.path
    obtain ⟨⟨r₀, hr₀, hmove⟩, -, hgauge⟩ := hbooked.staged r hstaged
    have hg : r.gauge = e.1.gauge := hgauge (he.gauge r hstaged hv)
    rw [hg] at hmove
    obtain ⟨p, i₀, m, q, rfl, hq, hans⟩ := ha.split hr₀
    refine ⟨p, i₀, m, q, r₀, rfl, ?_, ?_⟩
    · rw [takenOf_concat]
      exact hr₀
    · have hadmission : Admission sp bk (create config cursor) p i₀ m i q r₀ r e.1 e.2 :=
        ⟨h0, ha.of_append, hq, hans, he, hstaged, hmove, of_decide_eq_true hsplice, hv⟩
      exact hadmission.liveAuthority

/-! ## A run on a line -/

section Line

/-- Positions only. -/
def lineMotion : MotionSpace ℚ Unit where
  sqrt x := x
  exp3 _ := 1
  log3 _ := 0
  rotate := 1
  slerp a _ _ := a
  slerp_mul _ _ _ _ := rfl
  angularKinematics _ v a := (v, a)

/-- A brake that is over at once. -/
def restBrake : PreviewBrake ℚ Unit Unit where
  start x := .ok ⟨(), x.pose.rotation, 1, x.pose.position⟩
  getDuration _ := 0
  atTime _ _ := (⟨0, 0⟩, ⟨0, 0⟩, ⟨0, 0⟩)

/-- Recovery is off. -/
def lineConfig : LivePreviewConfig ℚ where
  maxResultAgeSec := 1 / 5
  spliceLeadSec := 3 / 100
  replanPeriodSec := 1 / 20
  recoveryEnable := false
  feasibilityTolerance := 1 / 1000
  contactRealignSec := 1
  phaseLookaheadSec := 0
  dispatchAcceptancePositionToleranceM := 1 / 1000
  dispatchAcceptanceRotationToleranceRad := 1 / 1000

def lineCursor : PreviewExecutionCursor ℚ :=
  ⟨PreviewExecutionCursor.sampleConfig, PreviewExecutionCursor.sampleLeash,
    PreviewExecutionCursor.sampleParams_valid, 0, 0, false⟩

def lineExec : LivePreviewExecution ℚ Unit Unit := create lineConfig lineCursor

/-- A tick with the follower at rest. -/
def lineTick (now x : ℚ) (taken : List (PreviewExecutionResult ℚ Unit × ℚ)) : StepInput ℚ Unit Unit where
  now := some now
  raw := ⟨true, false, ⟨some ⟨fun _ => x, 1⟩, some ⟨0, 0⟩, some ⟨0, 0⟩⟩, 1, 1, ()⟩
  acceptedNominal := some ⟨fun _ => x, 1⟩
  stationary := true
  contactGate := some 1
  contactNormal := some 0
  taken := taken
  slotFree := true

def holdTrajectory (x : Vec3 ℚ) : PreviewPolynomialTrajectory ℚ Unit :=
  ⟨fun _ => ⟨x, 0⟩, fun _ => ⟨0, 0⟩, fun _ => ⟨0, 0⟩, fun _ => ⟨0, 0⟩, 1, 1 / 5, 1, true⟩

/-- A planning thread whose plan is to stay. -/
def holdPlan (q : PreviewExecutionRequest ℚ Unit Unit Unit) : PreviewExecutionResult ℚ Unit where
  identity := q.identity
  gauge := q.gauge
  generatedAtSec := q.generatedAtSec
  spliceAtSec := q.spliceAtSec
  validUntilSec := q.validUntilSec
  completedAtSec := q.generatedAtSec + 1 / 100
  status := .solved
  trajectory := holdTrajectory q.coldInitial.pose.position
  nominalTrajectory := holdTrajectory q.coldInitial.pose.position
  contactAuthority := ⟨false, 0⟩
  phaseReference := []

/-- The answers to the first tick, observed at the second. -/
def lineAnswers : List (PreviewExecutionResult ℚ Unit × ℚ) :=
  (lineExec.step lineMotion restBrake (lineTick 1 0 [])).request.toList.map fun q => (holdPlan q, 51 / 50)

/-- A request, a call, and the tick that takes the answer. -/
def lineRun (op : LiveOp ℚ Unit Unit) (x : ℚ) : List (LiveOp ℚ Unit Unit) :=
  [.step (lineTick 1 0 []), op, .step (lineTick (51 / 50) x lineAnswers)]

theorem lineRun_answered {op : LiveOp ℚ Unit Unit} (h : opTaken op = []) (x : ℚ) :
    Answered lineMotion restBrake lineExec (lineRun op x ++ [.step (lineTick (26 / 25) x [])]) := by
  intro p op' m he r hr
  match p, he with
  | [], he =>
    obtain ⟨rfl, -⟩ := List.cons.inj he
    simp [opTaken, lineTick] at hr
  | [a], he =>
    obtain ⟨rfl, -⟩ := List.cons.inj (List.cons.inj he).2
    simp [h] at hr
  | [a, b], he =>
    obtain ⟨h1, he⟩ := List.cons.inj he
    obtain ⟨h2, he⟩ := List.cons.inj he
    obtain ⟨rfl, -⟩ := List.cons.inj he
    obtain ⟨e, hmem, rfl⟩ := List.mem_map.mp hr
    obtain ⟨q, hq, rfl⟩ := List.mem_map.mp hmem
    exact ⟨q, ⟨[], lineTick 1 0 [], [b], by rw [← h1]; rfl, Option.mem_toList.mp hq⟩, rfl, rfl, rfl, rfl, rfl⟩
  | [a, b, c], he =>
    obtain ⟨-, he⟩ := List.cons.inj he
    obtain ⟨-, he⟩ := List.cons.inj he
    obtain ⟨-, he⟩ := List.cons.inj he
    obtain ⟨rfl, -⟩ := List.cons.inj he
    simp [opTaken, lineTick] at hr
  | a :: b :: c :: d :: p, he =>
    have hlen := congrArg List.length he
    simp [lineRun] at hlen

/-- A plan that a tagged fold has moved becomes active. -/
theorem madeActive_liveAuthority_line : ∃ r p i₀ m q r₀,
    madeActive lineMotion restBrake
      (run lineMotion restBrake lineExec (lineRun (.shiftCommonFrame (some ⟨fun _ => 1, 1⟩) .force) 1))
      (lineTick (26 / 25) 1 []) = some r ∧
    LiveAuthority lineMotion restBrake lineExec p i₀ m (lineTick (26 / 25) 1 []) q r₀ r := by
  have hsome : (madeActive lineMotion restBrake
      (run lineMotion restBrake lineExec (lineRun (.shiftCommonFrame (some ⟨fun _ => 1, 1⟩) .force) 1))
      (lineTick (26 / 25) 1 [])).isSome := by decide +kernel
  obtain ⟨r, hr⟩ := Option.isSome_iff_exists.mp hsome
  obtain ⟨p, i₀, m, q, r₀, -, -, h⟩ := madeActive_liveAuthority lineMotion restBrake lineConfig lineCursor _ _ r
    (lineRun_answered rfl 1) hr
  exact ⟨r, p, i₀, m, q, r₀, hr, h⟩

/-- A recovery that is refused retires nothing: the plan was requested before it, and becomes active
after it. -/
theorem refusedRecovery_madeActive : ∃ r,
    Answered lineMotion restBrake lineExec (lineRun (.requestRecovery (some .peer)) 0 ++
      [.step (lineTick (26 / 25) 0 [])]) ∧
    madeActive lineMotion restBrake
      (run lineMotion restBrake lineExec (lineRun (.requestRecovery (some .peer)) 0))
      (lineTick (26 / 25) 0 []) = some r ∧
    ¬ ∃ p i₀ m q, lineRun (.requestRecovery (some .peer)) 0 = p ++ .step i₀ :: m ∧
      ((run lineMotion restBrake lineExec p).step lineMotion restBrake i₀).request = some q ∧
      q.identity = r.identity ∧ ∀ cause, LiveOp.requestRecovery cause ∉ m := by
  have hsome : (madeActive lineMotion restBrake
      (run lineMotion restBrake lineExec (lineRun (.requestRecovery (some .peer)) 0))
      (lineTick (26 / 25) 0 [])).isSome := by decide +kernel
  obtain ⟨r, hr⟩ := Option.isSome_iff_exists.mp hsome
  refine ⟨r, lineRun_answered rfl 0, hr, ?_⟩
  rintro ⟨p, i₀, m, q, he, hq, -, hm⟩
  match p, he with
  | [], he =>
    obtain ⟨-, rfl⟩ := List.cons.inj he
    exact hm (some .peer) (by simp)
  | [a], he => simp [lineRun] at he
  | [a, b], he =>
    -- The second tick asks for nothing.
    obtain ⟨ha, he⟩ := List.cons.inj he
    obtain ⟨hb, he⟩ := List.cons.inj he
    have hi := LiveOp.step.inj (List.cons.inj he).1
    rw [← ha, ← hb, ← hi] at hq
    have hnone : ((run lineMotion restBrake lineExec [.step (lineTick 1 0 []), .requestRecovery (some .peer)]).step
        lineMotion restBrake (lineTick (51 / 50) 0 lineAnswers)).request.isNone := by decide +kernel
    rw [hq] at hnone
    simp at hnone
  | a :: b :: c :: p, he =>
    have hlen := congrArg List.length he
    simp [lineRun] at hlen

end Line

end RbServo.LivePreviewExecution
