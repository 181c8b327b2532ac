import RoboticsLab.Preview.LiveStep
import Mathlib.Logic.Relation

/-!
# The authority of the executor

An abstract executor: its counters, its gauge, the brake that runs, the plan that is active or staged
and the last dispatched sample.  It moves by a few steps (`Authority.Step`); what the live executor
samples, times and reports plays no part.  Every call of the live executor is a path of such steps, so
an invariant has to be proved of the steps only.

    Path sp (i.taken.map Prod.fst) true s.authority (s.step sp bk i).exec.authority   (step_path)
-/

namespace RbServo

open Gauge Relation

/-! ## The abstract executor -/

structure RunningBrake (K G B : Type*) where
  trajectory : PreviewBrakeTrajectory K G B
  originSec : K
  planId : ℕ
  angular : PreviewAngularContinuation K G B

structure Authority (K G B : Type*) where
  epoch : ℕ
  accepted : ℕ
  gateRevision : ℕ
  requestId : ℕ
  gauge : PreviewExecutionGauge K G
  initialized : Bool
  faulted : Bool
  /-- Stopping or recovering. -/
  halted : Bool
  brake : Option (RunningBrake K G B)
  active : Option (PreviewExecutionResult K G)
  staged : Option (PreviewExecutionResult K G)
  /-- The plan and the time of the last dispatched sample of the epoch. -/
  dispatched : Option (ℕ × K)

variable {K G B F : Type*} [Field K] [LinearOrder K] [FloorSemiring K] [Group G] [DecidableEq G]

namespace Authority

def live (a : Authority K G B) : Bool :=
  a.initialized || a.staged.isSome || (a.active.isSome || a.brake.isSome) || a.faulted

def reset (a : Authority K G B) : Authority K G B where
  epoch := if a.live then a.epoch + 1 else a.epoch
  accepted := a.accepted
  gateRevision := if a.live then a.gateRevision + 1 else a.gateRevision
  requestId := a.requestId
  gauge := ⟨0, 0, 1⟩
  initialized := false
  faulted := false
  halted := false
  brake := none
  active := none
  staged := none
  dispatched := none

def fail (a : Authority K G B) : Authority K G B := { a.reset with faulted := true }

/-- The plan or brake being executed. -/
def parentPlanId (a : Authority K G B) : ℕ :=
  match a.brake, a.active with
  | some b, _ => b.planId
  | none, some r => r.identity.requestId
  | none, none => 0

/-- The result was asked for by this authority, to follow what is being executed. -/
structure Fits (a : Authority K G B) (r : PreviewExecutionResult K G) : Prop where
  epoch : r.identity.epoch = a.epoch
  gateRevision : r.identity.gateRevision = a.gateRevision
  parentPlanId : r.identity.parentPlanId = a.parentPlanId

/-- The angular part of the brake is replaced, and with it the identity of the predecessor. -/
def renewAngular (a : Authority K G B) (b : RunningBrake K G B) (c : PreviewAngularContinuation K G B) :
    Authority K G B :=
  { a with
    brake := some { b with planId := a.requestId + 1, angular := c }
    requestId := a.requestId + 1
    staged := none }

def brakeWith (a : Authority K G B) (b : PreviewBrakeTrajectory K G B) (origin : K)
    (c : PreviewAngularContinuation K G B) : Authority K G B :=
  { a with
    brake := some ⟨b, origin, a.requestId + 1, c⟩
    requestId := a.requestId + 1
    active := none
    staged := none }

/-- What a request to brake does when it succeeds. -/
inductive BrakeMove (a : Authority K G B) : Authority K G B → Prop
  | keep : BrakeMove a a
  | angular (b : RunningBrake K G B) (c : PreviewAngularContinuation K G B) (h : a.brake = some b) :
      BrakeMove a (a.renewAngular b c)
  | brake (b : PreviewBrakeTrajectory K G B) (origin : K) (c : PreviewAngularContinuation K G B)
      (hi : a.initialized) (h : a.brake = none) : BrakeMove a (a.brakeWith b origin c)

/-- A stop or a recovery: what was asked for so far no longer counts. -/
def retire (a : Authority K G B) : Authority K G B :=
  { a with gateRevision := a.gateRevision + 1, staged := none, halted := true }

def admission (a : Authority K G B) (r : PreviewExecutionResult K G) : Authority K G B :=
  { a with active := some r, staged := none, brake := none, accepted := a.accepted + 1 }

/-- One step; a result is staged only if it is among those the planning thread returned, and admitted
only where admissions are made. -/
inductive Step (sp : MotionSpace K G) (taken : List (PreviewExecutionResult K G)) (admits : Bool)
    (a : Authority K G B) : Authority K G B → Prop
  | reset : Step sp taken admits a a.reset
  | fail : Step sp taken admits a a.fail
  | start (h : a.initialized = false) (hf : a.faulted = false) : Step sp taken admits a { a with initialized := true }
  | brake {a' : Authority K G B} (h : BrakeMove a a') : Step sp taken admits a a'
  | unstage : Step sp taken admits a { a with staged := none }
  | stage {r r' : PreviewExecutionResult K G} {tolerance : K} (hr : r ∈ taken) (hf : a.Fits r)
      (ht : transportPreviewExecutionResult sp r a.gauge tolerance = some r') :
      Step sp taken admits a { a with staged := some r' }
  | transport {r r' : PreviewExecutionResult K G} {tolerance : K} (hr : a.staged = some r)
      (ht : transportPreviewExecutionResult sp r a.gauge tolerance = some r') :
      Step sp taken admits a { a with staged := some r' }
  | admission {r : PreviewExecutionResult K G} (hr : a.staged = some r) (hf : a.Fits r)
      (hg : r.gauge.revision = a.gauge.revision) (hh : a.halted = false) (hi : a.initialized) (ha : admits) :
      Step sp taken admits a (a.admission r)
  | retire (hi : a.initialized) : Step sp taken admits a a.retire
  | spend : Step sp taken admits a { a with requestId := a.requestId + 1 }

/-- A path of steps. -/
abbrev Path (sp : MotionSpace K G) (taken : List (PreviewExecutionResult K G)) (admits : Bool) :
    Authority K G B → Authority K G B → Prop :=
  ReflTransGen (Step sp taken admits)

omit [FloorSemiring K] in
theorem Step.admits {sp : MotionSpace K G} {taken : List (PreviewExecutionResult K G)} {a a' : Authority K G B}
    (h : Step sp taken false a a') : Step sp taken true a a' := by
  cases h with
  | reset => exact .reset
  | fail => exact .fail
  | start h hf => exact .start h hf
  | brake h => exact .brake h
  | unstage => exact .unstage
  | stage hr hf ht => exact .stage hr hf ht
  | transport hr ht => exact .transport hr ht
  | admission _ _ _ _ _ ha => cases ha
  | retire hi => exact .retire hi
  | spend => exact .spend

omit [FloorSemiring K] in
theorem Path.admits {sp : MotionSpace K G} {taken : List (PreviewExecutionResult K G)} {a a' : Authority K G B}
    (h : Path sp taken false a a') : Path sp taken true a a' :=
  ReflTransGen.mono (fun _ _ => Step.admits) a a' h

end Authority

namespace LivePreviewExecution

open Authority

/-- The authority of a live executor. -/
def authority (s : LivePreviewExecution K G B) : Authority K G B where
  epoch := s.epoch
  accepted := s.accepted
  gateRevision := s.gateRevision
  requestId := s.requestId
  gauge := s.gauge
  initialized := s.initialized
  faulted := s.faulted
  halted := s.stopping || s.recovering
  brake := s.brakeTrajectory.map fun b => ⟨b, s.brakeOriginSec, s.brakePlanId, s.angularContinuation⟩
  active := s.active
  staged := s.staged
  dispatched := if s.acceptedEpoch then some (s.acceptedPlanId, s.acceptedSampleTimeSec) else none

variable (sp : MotionSpace K G) (bk : PreviewBrake K G B) {s : LivePreviewExecution K G B}

omit [FloorSemiring K] [Group G] [DecidableEq G] in
theorem authority_live (s : LivePreviewExecution K G B) : s.authority.live = s.live := by
  simp [Authority.live, LivePreviewExecution.live, authority, hasPlan]

omit [FloorSemiring K] [Group G] [DecidableEq G] in
theorem authority_brake {b : PreviewBrakeTrajectory K G B} (h : s.brakeTrajectory = some b) :
    s.authority.brake = some ⟨b, s.brakeOriginSec, s.brakePlanId, s.angularContinuation⟩ := by
  simp [authority, h]

omit [FloorSemiring K] [DecidableEq G] in
theorem authority_reset (s : LivePreviewExecution K G B) (reason : String) :
    (s.reset reason).authority = s.authority.reset := by
  unfold Authority.reset
  rw [authority_live]
  rfl

omit [FloorSemiring K] [DecidableEq G] in
theorem authority_fail (s : LivePreviewExecution K G B) (reason : String) :
    (s.fail reason).authority = s.authority.fail := by
  unfold Authority.fail
  rw [← authority_reset s reason]
  rfl

omit [FloorSemiring K] [Group G] [DecidableEq G] in
theorem authority_parentPlanId (s : LivePreviewExecution K G B) : s.authority.parentPlanId = s.parentPlanId := by
  unfold Authority.parentPlanId LivePreviewExecution.parentPlanId authority
  cases s.brakeTrajectory <;> cases s.active <;> rfl

/-! ## Requests to brake -/

/-- What a call that can fail does: a brake move, or a fault. -/
structure BrakeCall (s : LivePreviewExecution K G B) (r : LivePreviewExecution K G B × Bool) : Prop where
  ok : r.2 = true → BrakeMove s.authority r.1.authority
  failed : r.2 = false → ∃ a, BrakeMove s.authority a ∧ r.1.authority = a.fail

omit [FloorSemiring K] [DecidableEq G] in
theorem BrakeCall.of_fail (s : LivePreviewExecution K G B) {s' : LivePreviewExecution K G B} {reason : String}
    (h : s'.authority = s.authority) : BrakeCall s (s'.fail reason, false) :=
  ⟨fun h => absurd h (by simp), fun _ => ⟨_, .keep, by rw [authority_fail, h]⟩⟩

omit [DecidableEq G] in
theorem sampleBrake_cases (s : LivePreviewExecution K G B) :
    ((s.sampleBrake sp bk).2 = true ∧ (s.sampleBrake sp bk).1.authority = s.authority) ∨
      ((s.sampleBrake sp bk).2 = false ∧ (s.sampleBrake sp bk).1.authority = s.authority.fail) := by
  unfold sampleBrake
  split
  · exact .inl ⟨rfl, rfl⟩
  · exact .inr ⟨rfl, authority_fail _ _⟩

omit [DecidableEq G] in
/-- Sampling after a brake move. -/
theorem BrakeCall.of_sample {s' : LivePreviewExecution K G B} (h : BrakeMove s.authority s'.authority) :
    BrakeCall s (s'.sampleBrake sp bk) := by
  obtain ⟨h2, h1⟩ | ⟨h2, h1⟩ := sampleBrake_cases sp bk s'
  · exact ⟨fun _ => h1 ▸ h, fun hf => absurd (h2.symm.trans hf) (by simp)⟩
  · exact ⟨fun hf => absurd (h2.symm.trans hf) (by simp), fun _ => ⟨_, h, h1⟩⟩

omit [DecidableEq G] in
theorem beginAngularBrake_call (hb : s.brakeTrajectory.isSome) : BrakeCall s (s.beginAngularBrake sp bk) := by
  obtain ⟨b, hb⟩ := Option.isSome_iff_exists.mp hb
  unfold beginAngularBrake
  split
  · exact ⟨fun _ => .keep, fun h => absurd h (by simp)⟩
  · split
    · exact .of_fail s rfl
    · split
      · exact .of_fail s rfl
      · split
        · exact .of_fail s rfl
        · next c _ =>
          apply BrakeCall.of_sample
          have he : ({ s with angularContinuation := c } : LivePreviewExecution K G B).renewBrakeId.authority =
              s.authority.renewAngular ⟨b, s.brakeOriginSec, s.brakePlanId, s.angularContinuation⟩ c := by
            simp [authority, renewBrakeId, Authority.renewAngular, hb, recovering, gauge]
          rw [he]
          exact .angular _ c (authority_brake hb)

omit [DecidableEq G] in
theorem startBrake_call (hi : s.initialized) (hb : s.brakeTrajectory = none) (reason : String)
    (contactOnly : Bool) : BrakeCall s (s.startBrake sp bk reason contactOnly) := by
  have hbrake : s.authority.brake = none := by simp [authority, hb]
  -- While no brake runs, its origin is no part of the authority.
  have horigin : ∀ o, ({ s with brakeOriginSec := o } : LivePreviewExecution K G B).authority = s.authority := by
    intro o
    simp [authority, hb, recovering, gauge]
  unfold startBrake
  simp only
  split
  · exact .of_fail s (horigin _)
  · split
    · exact .of_fail s (horigin _)
    · next b _ =>
      generalize (if contactOnly then s.retainedAngular sp else none).getD PreviewAngularContinuation.none = c
      generalize s.brakeSeed.2 = origin
      unfold sampleBrake
      split
      · refine ⟨fun _ => ?_, fun h => absurd h (by simp)⟩
        rw [if_pos rfl]
        exact .brake b origin c hi hbrake
      · refine ⟨fun h => absurd h (by simp), fun _ => ⟨s.authority, .keep, ?_⟩⟩
        rw [if_neg (by simp), authority_fail]
        simp [Authority.fail, Authority.reset, Authority.live, authority, hi]

omit [DecidableEq G] in
theorem beginBrake_call (s : LivePreviewExecution K G B) (reason : String) (contactOnly : Bool) :
    BrakeCall s (s.beginBrake sp bk reason contactOnly) := by
  by_cases hb : s.brakeTrajectory.isSome
  · rw [beginBrake, if_pos hb]
    have hr : BrakeCall s (if contactOnly then (s, true) else s.beginAngularBrake sp bk) := by
      split
      · exact ⟨fun _ => .keep, fun h => absurd h (by simp)⟩
      · exact beginAngularBrake_call sp bk hb
    generalize (if contactOnly then (s, true) else s.beginAngularBrake sp bk) = r at hr ⊢
    by_cases h2 : r.2
    · simp only [if_pos h2]
      exact BrakeCall.of_sample sp bk (hr.ok h2)
    · simp only [if_neg h2]
      exact hr
  · rw [beginBrake, if_neg hb]
    split
    · exact .of_fail s rfl
    · next hf =>
      obtain ⟨hi, -⟩ := not_or.mp hf
      exact startBrake_call sp bk (not_not.mp hi) (by simpa using hb) reason contactOnly

/-! ## Paths -/

section Paths

variable {sp bk} {taken : List (PreviewExecutionResult K G)} {adm : Bool} {a a' : Authority K G B}

omit [FloorSemiring K] in
theorem BrakeCall.path {r : LivePreviewExecution K G B × Bool} (h : BrakeCall s r) :
    Path sp taken adm s.authority r.1.authority := by
  cases hr : r.2 with
  | true => exact .single (.brake (h.ok hr))
  | false =>
    obtain ⟨a, hm, he⟩ := h.failed hr
    rw [he]
    exact .tail (.single (.brake hm)) .fail

omit [FloorSemiring K] in
theorem path_fail (s : LivePreviewExecution K G B) (reason : String) :
    Path sp taken adm s.authority (s.fail reason).authority := by
  rw [authority_fail]
  exact .single .fail

omit [FloorSemiring K] in
theorem path_reset (s : LivePreviewExecution K G B) (reason : String) :
    Path sp taken adm s.authority (s.reset reason).authority := by
  rw [authority_reset]
  exact .single .reset

theorem path_sampleBrake (s : LivePreviewExecution K G B) :
    Path sp taken adm s.authority (s.sampleBrake sp bk).1.authority := by
  obtain ⟨-, h⟩ | ⟨-, h⟩ := sampleBrake_cases sp bk s
  · rw [h]
  · rw [h]
    exact .single .fail

omit [Field K] [LinearOrder K] [FloorSemiring K] [Group G] [DecidableEq G] in
/-- A stop may be declared before the brake it asks for. -/
theorem declareHalt {halted : Bool}
    (h : BrakeMove { a with gateRevision := a.gateRevision + 1, staged := none, halted := halted } a') :
    BrakeMove a.retire { a' with halted := true } := by
  cases h with
  | keep => exact .keep
  | angular b c h => exact .angular b c h
  | brake b o c hi h => exact .brake b o c hi h

theorem path_requestStop (s : LivePreviewExecution K G B) (reason : String) :
    Path sp taken adm s.authority (s.requestStop sp bk reason).1.authority := by
  unfold requestStop
  split
  · exact .refl
  · split
    · exact .refl
    · next hf =>
      have hi : s.authority.initialized := not_not.mp (not_or.mp hf).1
      have hc := beginBrake_call sp bk ({ s with
        recoveryCause := none
        stopFaultReason := none
        gateRevision := s.gateRevision + 1
        staged := none } : LivePreviewExecution K G B) reason false
      simp only
      generalize beginBrake sp bk _ reason false = r at hc ⊢
      by_cases h2 : r.2
      · rw [if_pos h2]
        have hm : BrakeMove s.authority.retire { r.1.authority with halted := true } := declareHalt (hc.ok h2)
        exact .tail (.single (.retire hi)) (.brake hm)
      · rw [if_neg h2]
        obtain ⟨a, hm, he⟩ := hc.failed (by simpa using h2)
        have hm' : BrakeMove s.authority.retire { a with halted := true } := declareHalt hm
        have he' : r.1.authority = ({ a with halted := true } : Authority K G B).fail := he
        rw [he']
        exact .tail (.tail (.single (.retire hi)) (.brake hm')) .fail

theorem path_requestRecovery (s : LivePreviewExecution K G B) (cause : Option PreviewRecoveryCause) :
    Path sp taken adm s.authority (s.requestRecovery sp bk cause).1.authority := by
  unfold requestRecovery
  split
  · exact .refl
  · next hf =>
    split
    · exact .refl
    · simp only [not_or, not_not] at hf
      obtain ⟨-, hcause, -, hi⟩ := hf
      let s₀ : LivePreviewExecution K G B := { s with
        recoveryCause := cause
        gateRevision := s.gateRevision + 1
        staged := none
        stopFaultReason := none }
      have h0 : s₀.authority = s.authority.retire := by
        have hs : cause.isSome := Option.isSome_iff_ne_none.mpr hcause
        simp [s₀, authority, Authority.retire, recovering, hs, gauge]
      have hc := beginBrake_call sp bk s₀ "recovery_braking" false
      have hp : Path sp taken adm s.authority (s₀.beginBrake sp bk "recovery_braking" false).1.authority :=
        .head (.retire hi) (h0 ▸ hc.path)
      simp only
      split <;> exact hp

theorem path_brakeOutput (s : LivePreviewExecution K G B) (now : Option K) (failure : String)
    (statusOf : LivePreviewExecution K G B → String) :
    Path sp taken adm s.authority (s.brakeOutput sp bk now failure statusOf).1.authority := by
  unfold brakeOutput
  split
  · exact path_fail s failure
  · next t =>
    have hp : Path sp taken adm s.authority
        (({ s with lastTime := t } : LivePreviewExecution K G B).sampleBrake sp bk).1.authority :=
      path_sampleBrake ({ s with lastTime := t } : LivePreviewExecution K G B)
    simp only
    split <;> exact hp

theorem path_recoverNow (s : LivePreviewExecution K G B) (t : Tick K G F) (out : LivePreviewOutput K G)
    (cause : PreviewRecoveryCause) : Path sp taken adm s.authority (s.recoverNow sp bk t out cause).1.authority := by
  have hp : Path sp taken adm s.authority (s.requestRecovery sp bk (some cause)).1.authority :=
    path_requestRecovery s (some cause)
  unfold recoverNow
  simp only
  split
  · exact hp.trans (path_brakeOutput _ _ _ _)
  · exact hp

/-! ## The parts of a step -/

/-- What holds of the state in both outcomes of a part. -/
def Both {α β : Type*} (P : LivePreviewExecution K G B → Prop) :
    Except (LivePreviewExecution K G B × α) (LivePreviewExecution K G B × β) → Prop
  | .error r => P r.1
  | .ok r => P r.1

omit [FloorSemiring K] in
/-- Two parts in a row. -/
theorem Both.path_bind {x : Flow K G B} {f : LivePreviewExecution K G B × LivePreviewOutput K G → Flow K G B}
    (h : Both (fun s' => Path sp taken adm a s'.authority) x)
    (hf : ∀ r, Both (fun s' => Path sp taken adm r.1.authority s'.authority) (f r)) :
    Both (fun s' => Path sp taken adm a s'.authority) (x >>= f) := by
  cases x with
  | error r => exact h
  | ok r =>
    have h' : Path sp taken adm a r.1.authority := h
    have hr := hf r
    show Both _ (f r)
    cases hf' : f r with
    | error r' =>
      rw [hf'] at hr
      exact h'.trans hr
    | ok r' =>
      rw [hf'] at hr
      exact h'.trans hr

theorem path_followPlan (s : LivePreviewExecution K G B) (t : Tick K G F) (out : LivePreviewOutput K G) :
    Both (fun s' => Path sp taken adm s.authority s'.authority) (s.followPlan sp bk t out) := by
  unfold followPlan
  split
  · exact .refl
  · split
    · exact .refl
    · simp only
      generalize (if s.planningStarvedSinceSec = 0 then t.now else s.planningStarvedSinceSec) = since
      have hp : Path sp taken adm s.authority (({ s with planningStarvedSinceSec := since } :
          LivePreviewExecution K G B).beginBrake sp bk "braking_expired" false).1.authority :=
        (beginBrake_call sp bk ({ s with planningStarvedSinceSec := since } : LivePreviewExecution K G B)
          "braking_expired" false).path
      split <;> exact hp

theorem path_followBrake (hb : s.brakeTrajectory.isSome) (t : Tick K G F) (out : LivePreviewOutput K G) :
    Both (fun s' => Path sp taken adm s.authority s'.authority) (s.followBrake sp bk t out) := by
  have h1 : Path sp taken adm s.authority
      (if s.angularContinuation.needsBrake t.now then s.beginAngularBrake sp bk else (s, true)).1.authority := by
    split
    · exact (beginAngularBrake_call sp bk hb).path
    · exact .refl
  unfold followBrake
  generalize (if s.angularContinuation.needsBrake t.now then s.beginAngularBrake sp bk else (s, true)) = b at h1 ⊢
  have h2 : Path sp taken adm s.authority (if b.2 then b.1.sampleBrake sp bk else b).1.authority := by
    split
    · exact h1.trans (path_sampleBrake b.1)
    · exact h1
  simp only
  generalize (if b.2 then b.1.sampleBrake sp bk else b) = c at h2 ⊢
  split
  · split
    · exact h2.trans (path_fail ({ c.1 with status := _ } : LivePreviewExecution K G B) _)
    · exact h2
  · exact h2

theorem path_follow (s : LivePreviewExecution K G B) (t : Tick K G F) (out : LivePreviewOutput K G) :
    Both (fun s' => Path sp taken adm s.authority s'.authority) (s.follow sp bk t out) := by
  unfold follow
  split
  · next hb => exact path_followBrake hb t out
  · split
    · exact .refl
    · unfold awaitPlan
      simp only
      split
      · split
        · exact path_recoverNow ({ s with status := "waiting" } : LivePreviewExecution K G B) _ _ _
        · exact path_fail ({ s with status := "waiting" } : LivePreviewExecution K G B) _
      · exact .refl

theorem path_checkStarved (s : LivePreviewExecution K G B) (t : Tick K G F) (out : LivePreviewOutput K G) :
    Both (fun s' => Path sp taken adm s.authority s'.authority) (s.checkStarved sp bk t out) := by
  unfold checkStarved
  split
  · exact path_recoverNow s _ _ _
  · exact .refl

theorem path_retireAdvance (s : LivePreviewExecution K G B) (t : Tick K G F) (out : LivePreviewOutput K G) :
    Both (fun s' => Path sp taken adm s.authority s'.authority) (s.retireAdvance sp t out) := by
  unfold retireAdvance
  split
  · exact .refl
  · split
    · split
      · exact path_fail s _
      · exact .refl
    · exact .refl

theorem path_proceed (s : LivePreviewExecution K G B) (t : Tick K G F) (out : LivePreviewOutput K G) :
    Both (fun s' => Path sp taken adm s.authority s'.authority) (s.proceed sp bk t out) := by
  unfold proceed
  apply Both.path_bind (path_followPlan s t out)
  intro r
  apply Both.path_bind (path_follow r.1 t r.2)
  intro r
  apply Both.path_bind (path_checkStarved r.1 t r.2)
  intro r
  exact path_retireAdvance r.1 t r.2

theorem path_giveUp (s : LivePreviewExecution K G B) (t : Tick K G F) (out : LivePreviewOutput K G)
    (cause : PreviewRecoveryCause) (fault reason : String) :
    Path sp taken adm s.authority (s.giveUp sp bk t out cause fault reason).1.authority := by
  have hp : Path sp taken adm s.authority (({ s with stopFaultReason := some fault } :
      LivePreviewExecution K G B).beginBrake sp bk reason false).1.authority :=
    (beginBrake_call sp bk ({ s with stopFaultReason := some fault } : LivePreviewExecution K G B) reason false).path
  unfold giveUp
  simp only
  split
  · exact path_recoverNow s _ _ _
  · split <;> exact hp

theorem path_stepCursor (s : LivePreviewExecution K G B) (t : Tick K G F) (out : LivePreviewOutput K G) :
    Both (fun s' => Path sp taken adm s.authority s'.authority) (s.stepCursor sp bk t out) := by
  unfold stepCursor
  split
  · exact path_giveUp s t out _ _ _
  · simp only
    generalize (if 2 ≤ (s.phaseWindow sp bk t).count then _ else _) = c
    split
    · exact .refl
    · split
      · exact path_fail ({ s with cursor := c.1 } : LivePreviewExecution K G B) _
      · exact path_giveUp ({ s with cursor := c.1 } : LivePreviewExecution K G B) t out _ _ _

omit [FloorSemiring K] in
theorem path_askPlan (s : LivePreviewExecution K G B) (t : Tick K G F) (slotFree : Bool)
    (phase : PreviewExecutionCursorStep K) :
    Path sp taken adm s.authority (s.askPlan t slotFree phase).1.authority := by
  have hp : Path sp taken adm s.authority { s.authority with requestId := s.requestId + 1 } := .single .spend
  unfold askPlan
  simp only
  split
  · split <;> exact hp
  · exact .refl

/-- The part after the admission. -/
theorem path_finish (s : LivePreviewExecution K G B) (t : Tick K G F) (slotFree : Bool)
    (out : LivePreviewOutput K G) : Path sp taken adm s.authority (s.finish sp bk t slotFree out).exec.authority := by
  have h1 : Both (fun s' => Path sp taken adm s.authority s'.authority) (s.proceed sp bk t out) := path_proceed s t out
  unfold finish
  cases hp : s.proceed sp bk t out with
  | error r =>
    rw [hp] at h1
    exact h1
  | ok r =>
    rw [hp] at h1
    have h2 : Both (fun s' => Path sp taken adm r.1.authority s'.authority) (r.1.stepCursor sp bk t r.2) :=
      path_stepCursor r.1 t r.2
    cases hc : r.1.stepCursor sp bk t r.2 with
    | error e =>
      rw [hc] at h2
      simp only [hc]
      exact ReflTransGen.trans h1 h2
    | ok e =>
      rw [hc] at h2
      simp only [hc]
      exact (ReflTransGen.trans h1 h2).trans (path_askPlan e.1 t slotFree e.2.2)

/-! ## Entering a step -/

omit [FloorSemiring K] in
theorem path_enterRunning (hfault : ¬ s.faulted) (i : StepInput K G F) (c : CheckedInput K G)
    (out : LivePreviewOutput K G) :
    Both (fun s' => Path sp taken adm s.authority s'.authority) (s.enterRunning i c out) := by
  unfold enterRunning
  split
  · split
    · exact .refl
    · exact path_reset s _
  · split
    · exact .refl
    · split
      · exact path_fail s _
      · have h0 : Path sp taken adm s.authority (if s.initialized then s else s.startEpoch c).authority := by
          split
          · exact .refl
          · next hi =>
            have hf : s.authority.initialized = false := Bool.eq_false_of_not_eq_true hi
            exact .single (.start hf (Bool.eq_false_of_not_eq_true hfault))
        simp only
        generalize (if s.initialized then s else s.startEpoch c) = s₀ at h0 ⊢
        split
        · exact h0.trans (path_fail ({ s₀ with lastTime := c.now } : LivePreviewExecution K G B) _)
        · exact h0

omit [FloorSemiring K] [DecidableEq G] in
/-- Past `enterRunning`, the executor is initialized, and as halted as before. -/
theorem enterRunning_ok {i : StepInput K G F} {c : CheckedInput K G} {out : LivePreviewOutput K G}
    {r : LivePreviewExecution K G B × Tick K G F} (h : s.enterRunning i c out = .ok r) :
    r.1.initialized ∧ r.1.stopping = s.stopping ∧ r.1.recoveryCause = s.recoveryCause ∧ r.2.now = c.now ∧
      r.2.raw = i.raw ∧ r.1.authority.brake = s.authority.brake ∧ r.1.authority.active = s.authority.active := by
  unfold enterRunning at h
  split at h
  · split at h <;> simp at h
  · split at h
    · simp at h
    · split at h
      · simp at h
      · simp only at h
        split at h
        · simp at h
        · obtain rfl := Except.ok.inj h
          cases hi : s.initialized <;> simp [append, startEpoch, authority, hi]

omit [FloorSemiring K] [Group G] [DecidableEq G] in
/-- A result that passes the admission test fits the authority. -/
theorem fits_of_ready {r : PreviewExecutionResult K G} {now : K} {raw : RawFollower K G F}
    (h : validatePreviewExecutionResult r now (s.identity raw) = .ready) : s.authority.Fits r := by
  unfold validatePreviewExecutionResult at h
  split at h
  · simp at h
  · split at h
    · simp at h
    · next h1 =>
      split at h
      · simp at h
      · next h2 =>
        split at h
        · simp at h
        · split at h
          · simp at h
          · next h3 =>
            refine ⟨not_not.mp h1, not_not.mp h2, ?_⟩
            rw [authority_parentPlanId]
            exact not_not.mp h3

omit [FloorSemiring K] in
theorem path_takeResult (s : LivePreviewExecution K G B) (t : Tick K G F) {e : PreviewExecutionResult K G × K}
    (he : e.1 ∈ taken) : Path sp taken adm s.authority (takeResult sp t s e).authority := by
  unfold takeResult
  simp only
  generalize hs₀ : (if (samplePreviewExecutionPhaseReference sp e.1 e.1.generatedAtSec t.now (s.identity t.raw)
    s.gauge s.config.feasibilityTolerance).isSome then { s with phaseReferenceResult := some e.1 } else s) = s₀
  have h0 : s₀.authority = s.authority ∧ s₀.gauge = s.gauge := by
    rw [← hs₀]
    split <;> exact ⟨rfl, rfl⟩
  split
  · next hr =>
    have hf : s₀.authority.Fits e.1 := h0.1 ▸ fits_of_ready hr.1
    cases ht : transportPreviewExecutionResult sp e.1 s₀.gauge s.config.feasibilityTolerance with
    | none => exact h0.1 ▸ .single .unstage
    | some r => exact h0.1 ▸ .single (.stage he hf ht)
  · rw [h0.1]

omit [FloorSemiring K] in
theorem path_takeResults (t : Tick K G F) (es : List (PreviewExecutionResult K G × K))
    (he : ∀ e ∈ es, e.1 ∈ taken) (s : LivePreviewExecution K G B) :
    Path sp taken adm s.authority (es.foldl (takeResult sp t) s).authority := by
  induction es generalizing s with
  | nil => exact .refl
  | cons e es ih =>
    have h1 : Path sp taken adm s.authority (takeResult sp t s e).authority := path_takeResult s t (he e (by simp))
    exact h1.trans (ih (fun e h => he e (List.mem_cons_of_mem _ h)) _)

omit [FloorSemiring K] in
theorem path_dropStale (s : LivePreviewExecution K G B) (raw : RawFollower K G F) :
    Path sp taken adm s.authority (s.dropStale raw).authority := by
  unfold dropStale
  cases hr : s.staged.filter (s.stagedCurrent raw) with
  | none => exact .single .unstage
  | some r =>
    have hs : s.staged = some r := (Option.filter_eq_some_iff.mp hr).1
    rw [← hs]

omit [FloorSemiring K] in
theorem path_transportStaged (s : LivePreviewExecution K G B) (now : K) :
    Path sp taken adm s.authority (s.transportStaged sp now).authority := by
  unfold transportStaged
  split
  · exact .refl
  · next r hr =>
    split
    · cases ht : transportPreviewExecutionResult sp r s.gauge s.config.feasibilityTolerance with
      | none => exact .single .unstage
      | some r' => exact .single (.transport hr ht)
    · exact .refl

variable (sp) in
omit [FloorSemiring K] in
/-- Taking results changes the staged result and the phase reference, nothing else. -/
theorem takeResults_frame (t : Tick K G F) (es : List (PreviewExecutionResult K G × K))
    (s : LivePreviewExecution K G B) :
    ∃ x y, es.foldl (takeResult sp t) s = { s with staged := x, phaseReferenceResult := y } := by
  induction es generalizing s with
  | nil => exact ⟨s.staged, s.phaseReferenceResult, rfl⟩
  | cons e es ih =>
    have h1 : ∃ x y, takeResult sp t s e = { s with staged := x, phaseReferenceResult := y } := by
      unfold takeResult
      simp only
      split <;> split <;> exact ⟨_, _, rfl⟩
    obtain ⟨x, y, h1⟩ := h1
    obtain ⟨x', y', h2⟩ := ih (takeResult sp t s e)
    exact ⟨x', y', by rw [List.foldl_cons, h2, h1]⟩

/-- The transport of a result keeps its identity and its times, and gives it the gauge. -/
structure Transported (r r' : PreviewExecutionResult K G) (g : PreviewExecutionGauge K G) : Prop where
  geometry : r' = r.moveTo g ∨ (r' = r ∧ r.gauge = g)
  revision : r.gauge.revision ≤ g.revision

omit [FloorSemiring K] in
theorem transported {r r' : PreviewExecutionResult K G} {g : PreviewExecutionGauge K G} {tolerance : K}
    (h : transportPreviewExecutionResult sp r g tolerance = some r') : Transported r r' g := by
  unfold transportPreviewExecutionResult at h
  split at h
  · simp at h
  · next h0 =>
    simp only [not_or, not_lt] at h0
    split at h
    · next h1 =>
      obtain rfl := Option.some.inj h
      refine ⟨.inr ⟨rfl, ?_⟩, h0.2.2.2.2.2⟩
      obtain ⟨ha, hb, hc⟩ := h1
      cases hg : r.gauge with
      | mk a b c =>
        rw [hg] at ha hb hc
        rw [show a = g.revision from ha, show b = g.translation from hb, show c = g.rotation from hc]
    · split at h
      · simp at h
      · obtain rfl := Option.some.inj h
        exact ⟨.inl rfl, h0.2.2.2.2.2⟩

omit [LinearOrder K] [FloorSemiring K] [DecidableEq G] in
theorem Transported.identity {r r' : PreviewExecutionResult K G} {g : PreviewExecutionGauge K G}
    (h : Transported r r' g) : r'.identity = r.identity ∧ r'.generatedAtSec = r.generatedAtSec ∧
      r'.spliceAtSec = r.spliceAtSec ∧ r'.validUntilSec = r.validUntilSec ∧ r'.gauge = g := by
  obtain rfl | ⟨rfl, hg⟩ := h.geometry
  · exact ⟨rfl, rfl, rfl, rfl, rfl⟩
  · exact ⟨rfl, rfl, rfl, rfl, hg⟩

/-- The state in which a step decides about the admission. -/
structure Entered (sp : MotionSpace K G) (s : LivePreviewExecution K G B) (i : StepInput K G F)
    (s₁ : LivePreviewExecution K G B) (t : Tick K G F) : Prop where
  path : Path sp (i.taken.map Prod.fst) false s.authority s₁.authority
  initialized : s₁.initialized
  running : s₁.authority.halted = false
  raw : t.raw = i.raw
  now : i.now = some t.now
  /-- What is executed is as before the step. -/
  brake : s₁.authority.brake = s.authority.brake
  active : s₁.authority.active = s.authority.active
  current : ∀ r, s₁.staged = some r → s₁.stagedCurrent t.raw r
  gauge : ∀ r, s₁.staged = some r → t.now < r.validUntilSec → r.gauge.revision = s₁.gaugeRevision

omit [FloorSemiring K] [DecidableEq G] in
theorem checkInput_now {i : StepInput K G F} {c : CheckedInput K G} (h : s.checkInput sp i = some c) :
    i.now = some c.now := by
  unfold checkInput at h
  split at h
  · next hn _ _ _ =>
    split at h
    · simp at h
    · obtain rfl := Option.some.inj h
      exact hn
  · simp at h

variable (sp) in
omit [FloorSemiring K] in
/-- Dropping and transporting leave a staged result of the current identity and gauge. -/
theorem transportStaged_dropStale (s : LivePreviewExecution K G B) (raw : RawFollower K G F) (now : K) :
    ∃ x, (s.dropStale raw).transportStaged sp now = { s with staged := x } ∧ ∀ r, x = some r →
      s.stagedCurrent raw r ∧ (now < r.validUntilSec → r.gauge.revision = s.gaugeRevision) := by
  unfold transportStaged dropStale
  simp only
  split
  · next hn => exact ⟨none, by rw [hn], by simp⟩
  · next r hr =>
    have hc : s.stagedCurrent raw r := (Option.filter_eq_some_iff.mp hr).2
    split
    · refine ⟨transportPreviewExecutionResult sp r s.gauge s.config.feasibilityTolerance, rfl, fun r' ht => ?_⟩
      obtain ⟨hid, -, -, -, hg⟩ := (transported ht).identity
      refine ⟨?_, fun _ => by rw [hg]; rfl⟩
      unfold stagedCurrent at hc ⊢
      rw [hid]
      exact hc
    · next hn =>
      refine ⟨some r, by rw [hr], fun r'' h => ?_⟩
      obtain rfl := Option.some.inj h
      refine ⟨hc, fun hv => ?_⟩
      by_contra hne
      exact hn ⟨hv, hne⟩

omit [FloorSemiring K] in
theorem path_stage (s : LivePreviewExecution K G B) (i : StepInput K G F) (t : Tick K G F) :
    Path sp (i.taken.map Prod.fst) adm s.authority (s.stage sp i t).authority := by
  have hmem : ∀ e ∈ i.taken.take 3, e.1 ∈ i.taken.map Prod.fst :=
    fun e he => List.mem_map_of_mem (List.mem_of_mem_take he)
  exact ((path_takeResults t _ hmem s).trans (path_dropStale _ t.raw)).trans (path_transportStaged _ t.now)

variable (sp) in
omit [FloorSemiring K] in
theorem stage_frame (s : LivePreviewExecution K G B) (i : StepInput K G F) (t : Tick K G F) :
    ∃ x y, s.stage sp i t = { s with staged := x, phaseReferenceResult := y } ∧ ∀ r, x = some r →
      s.stagedCurrent t.raw r ∧ (t.now < r.validUntilSec → r.gauge.revision = s.gaugeRevision) := by
  obtain ⟨x, y, h1⟩ := takeResults_frame sp t (i.taken.take 3) s
  unfold stage
  rw [h1]
  obtain ⟨x', h2, h3⟩ := transportStaged_dropStale sp
    ({ s with staged := x, phaseReferenceResult := y } : LivePreviewExecution K G B) t.raw t.now
  exact ⟨x', y, h2, h3⟩

theorem enteredCleared {i : StepInput K G F} {r : LivePreviewExecution K G B × Tick K G F}
    (h : s.enterCleared sp bk i = .ok r) : Entered sp s i r.1 r.2 := by
  unfold enterCleared at h
  simp only at h
  split at h
  · simp at h
  · next hfault =>
    split at h
    · simp at h
    · next hstop =>
      split at h
      · simp at h
      · next hrec =>
        split at h
        · simp at h
        · next c hc =>
          split at h
          · simp at h
          · next r₀ hr =>
            obtain rfl := Except.ok.inj h
            obtain ⟨hi, hst, hre, hnow, hraw, hbrake, hactive⟩ := enterRunning_ok hr
            have hp : Path sp (i.taken.map Prod.fst) false s.authority r₀.1.authority := by
              have h0 : Both (fun s' => Path sp (i.taken.map Prod.fst) false s.authority s'.authority) _ :=
                path_enterRunning hfault i c ⟨i.acceptedNominal, false, false, "waiting"⟩
              rw [hr] at h0
              exact h0
            obtain ⟨x, y, hs, hx⟩ := stage_frame sp r₀.1 i r₀.2
            have hhalt : r₀.1.authority.halted = false := by
              simp [authority, recovering, hst, hre] at hstop hrec ⊢
              exact ⟨hstop, hrec⟩
            refine ⟨hp.trans (path_stage r₀.1 i r₀.2), ?_, ?_, hraw, ?_, ?_, ?_, ?_, ?_⟩
            · rw [hs]
              exact hi
            · rw [hs]
              exact hhalt
            · rw [hnow]
              exact checkInput_now hc
            · rw [hs]
              exact hbrake
            · rw [hs]
              exact hactive
            · rw [hs]
              exact fun r h => (hx r h).1
            · rw [hs]
              exact fun r h => (hx r h).2

theorem entered {i : StepInput K G F} {r : LivePreviewExecution K G B × Tick K G F}
    (h : s.enter sp bk i = .ok r) : Entered sp s i r.1 r.2 := by
  obtain ⟨h1, h2, h3, h4, h5, h6, h7, h8, h9⟩ := enteredCleared h
  exact ⟨h1, h2, h3, h4, h5, h6, h7, h8, h9⟩

/-- A step that returns before the admission. -/
theorem path_enter_error {i : StepInput K G F} {r : LivePreviewExecution K G B × LivePreviewOutput K G}
    (h : s.enterCleared sp bk i = .error r) : Path sp taken adm s.authority r.1.authority := by
  unfold enterCleared at h
  simp only at h
  split at h
  · obtain rfl := Except.error.inj h
    exact .refl
  · next hfault =>
    split at h
    · obtain rfl := Except.error.inj h
      exact path_brakeOutput _ _ _ _
    · split at h
      · obtain rfl := Except.error.inj h
        exact path_brakeOutput _ _ _ _
      · split at h
        · obtain rfl := Except.error.inj h
          exact path_fail _ _
        · next c hc =>
          have h0 : Both (fun s' => Path sp taken adm s.authority s'.authority) _ :=
            path_enterRunning hfault i c ⟨i.acceptedNominal, false, false, "waiting"⟩
          split at h
          · next r' hr =>
            obtain rfl := Except.error.inj h
            rw [hr] at h0
            exact h0
          · simp at h

/-! ## Admission, and the whole step -/

omit [FloorSemiring K] in
/-- The staged result of an entered step fits the authority. -/
theorem Entered.fits {i : StepInput K G F} {s₁ : LivePreviewExecution K G B} {t : Tick K G F}
    (h : Entered sp s i s₁ t) {r : PreviewExecutionResult K G} (hr : s₁.staged = some r) : s₁.authority.Fits r := by
  have hc := h.current r hr
  simp only [stagedCurrent, decide_eq_true_eq] at hc
  exact ⟨hc.1, hc.2.1, (authority_parentPlanId s₁).symm ▸ hc.2.2.2.2⟩

omit [DecidableEq G] in
theorem lt_validUntil_of_admits {t : Tick K G F} {r : PreviewExecutionResult K G} (h : s.admits sp t r) :
    t.now < r.validUntilSec := by
  unfold admits at h
  split at h
  · simp at h
  · exact of_decide_eq_true (Bool.and_eq_true_iff.mp h).1

theorem Entered.path_admission {i : StepInput K G F} {s₁ : LivePreviewExecution K G B} {t : Tick K G F}
    (h : Entered sp s i s₁ t) : Path sp taken true s₁.authority (s₁.admission sp t).authority := by
  unfold LivePreviewExecution.admission
  split
  · next r hr =>
    obtain ⟨hs, ha⟩ := Option.filter_eq_some_iff.mp hr
    have hv : t.now < r.validUntilSec := lt_validUntil_of_admits (Bool.and_eq_true_iff.mp ha).2
    exact .single (.admission hs (h.fits hs) (h.gauge r hs hv) h.running h.initialized rfl)
  · cases hr : s₁.staged.filter fun r => decide (t.now < r.spliceAtSec) with
    | none => exact .single .unstage
    | some r =>
      have hs : s₁.staged = some r := (Option.filter_eq_some_iff.mp hr).1
      rw [← hs]

/-- **One step.** -/
theorem step_path (s : LivePreviewExecution K G B) (i : StepInput K G F) :
    Path sp (i.taken.map Prod.fst) true s.authority (s.step sp bk i).exec.authority := by
  unfold step
  cases h : s.enter sp bk i with
  | error r => exact path_enter_error (s := { s with retiredSourceAdvance := 0 }) h
  | ok r =>
    have he := entered h
    exact (he.path.admits.trans he.path_admission).trans (path_finish _ _ _ _)

end Paths

end LivePreviewExecution

end RbServo
