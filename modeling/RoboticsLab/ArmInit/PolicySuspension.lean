import RoboticsLab.ArmInit.LatchSteps

/-!
# No policy motion on a latched arm

An arm latched by this runner has a pose to go to (`Armed`): a start refuses without one, and nothing takes a pose
away.  So the branches of `compose_intent` that return the policy's intent for want of a pose are dead, and a
latched arm gets a Hold or its own init.  While another client's init is active, no arm gets anything of the policy.

    compose_intent after any run                                            (composeIntent_suspends)
-/

open Runs

namespace PolicyRunner

/-- Who is latched by this runner has a pose. -/
def Latch.Armed (l : Latch) : Prop := l.on = true → l.external = false → l.qDeg.isSome

/-! ## The invariant -/

section
variable {cfg : OverrideConfig}

theorem Latch.Armed.store {l : Latch} (h : l.Armed) (q : Option Joint6) : (l.store q).Armed := by
  intro hon hext
  show (q.or l.qDeg).isSome
  rw [Option.isSome_or, h hon hext, Bool.or_true]

theorem CommandStep.armed {action : ArmInitAction} {covered : Prop} {l l' : Latch} {emitted : List Transition}
    (step : CommandStep action covered l l' emitted) (h : l.Armed) : l'.Armed := by
  cases step with
  | kept => exact h
  | cancelled =>
    intro hon
    cases hon
  | started id _ _ hq => exact fun _ _ => hq

/-- Taking over and acting on a status moves no pose and no ownership, and turns no latch on but an external one. -/
theorem Acts.armed {status : String} {ack : Json} {tare : Bool} {l l' : Latch} {emitted : List Transition}
    (acts : Acts cfg status ack tare l l' emitted) (h : l.Armed) : l'.Armed := by
  cases acts with
  | ignored => exact h
  | moving => exact h
  | failed hon => exact fun _ hext => h hon hext
  | waiting hon => exact fun _ hext => h hon hext
  | released hon => exact fun _ hext => h hon hext

theorem Latch.Armed.observe {l : Latch} (h : l.Armed) (status : String) (ack : Json) :
    (l.observe status ack).Armed := by
  unfold Latch.observe
  split
  · intro _ hext
    cases hext
  · exact h

/-- **One step.** -/
theorem armed_step (py : PyText) (c : OverrideController) (event : OverrideEvent) (arm : Arm) (hq : c.OffQuiet)
    (h : (c.latch arm).Armed) : ((OverrideController.step py cfg c event).latch arm).Armed := by
  obtain ⟨same, -⟩ | ⟨nowNs, command, -, hstep⟩ | ⟨s, payload, block, emitted, -, -, acts, -⟩ :=
    step_cases py cfg c event arm hq
  · exact same ▸ h
  · exact hstep.armed (h.store _)
  · exact acts.armed (h.observe _ _)

/-- **Whole runs.** -/
theorem armed_run (py : PyText) (events : List OverrideEvent) (arm : Arm) :
    ((OverrideController.run py cfg events).latch arm).Armed := by
  induction events using List.reverseRecOn with
  | nil =>
    intro hon
    cases hon
  | append_singleton events event ih =>
    rw [run_concat]
    exact armed_step py _ event arm (offQuiet_run py cfg events) ih

end

/-! ## The composed intent -/

section
variable (py : PyText) (cfg : OverrideConfig) (c : OverrideController)

/-- The arm holds, or is sent its stored pose under its current request. -/
def HoldOrInit (rt : ArmRuntime) (payload : Option Json.Object) : Prop :=
  payload = some holdPayload ∨ ∃ q ∈ rt.qDeg, payload = some (initArmPayload q rt.requestId)

/-- The arm is sent its stored pose, and it is this runner that latched it. -/
def OwnInit (rt : ArmRuntime) (payload : Option Json.Object) : Prop :=
  rt.on = true ∧ rt.external = false ∧ ∃ q ∈ rt.qDeg, payload = some (initArmPayload q rt.requestId)

/-- The two branches that return the policy's intent. -/
def OverrideController.ReachesLeak (arm : Arm) : Prop :=
  c.externalInitActive = false ∧ (c.arms arm).on = true ∧ (c.arms arm).fail = false ∧
    (c.arms arm).motionDone = false ∧ (c.arms arm).qDeg = none

def CommandIntent.withArms (left right : Option Json.Object) (i : CommandIntent) : CommandIntent :=
  { i with left := left, right := right }

variable {c}

theorem external_eq_false_of_inactive (h : c.externalInitActive = false) {arm : Arm} (hon : (c.arms arm).on = true) :
    (c.arms arm).external = false := by
  unfold OverrideController.externalInitActive at h
  rw [Bool.or_eq_false_iff, Bool.and_eq_false_iff, Bool.and_eq_false_iff] at h
  cases arm with
  | left => exact h.1.resolve_left (by simp [hon])
  | right => exact h.2.resolve_left (by simp [hon])

theorem not_reachesLeak (harmed : ∀ arm, (c.latch arm).Armed) (arm : Arm) : ¬ c.ReachesLeak arm := by
  rintro ⟨hext, hon, -, -, hq⟩
  have hsome := harmed arm hon (external_eq_false_of_inactive hext hon)
  change (c.arms arm).qDeg.isSome at hsome
  rw [hq] at hsome
  cases hsome

/-- The payload of an arm outside an external init. -/
theorem composedPayload_cases (harmed : ∀ arm, (c.latch arm).Armed) (hext : c.externalInitActive = false) (arm : Arm)
    (policy : Option Json.Object) : ∃ p, (c.arms arm).composedPayload policy = some p ∧
      ((c.arms arm).on = true → HoldOrInit (c.arms arm) (some p)) ∧
      ((c.arms arm).on = false → p = armPayload policy) := by
  unfold ArmRuntime.composedPayload
  cases hon : (c.arms arm).on with
  | false => exact ⟨_, rfl, fun h => absurd h (by decide), fun _ => rfl⟩
  | true =>
    by_cases hhold : ((c.arms arm).fail || (c.arms arm).motionDone) = true
    · rw [if_neg (by decide), if_pos hhold]
      exact ⟨_, rfl, fun _ => .inl rfl, fun h => absurd h (by decide)⟩
    · rw [if_neg (by decide), if_neg hhold]
      rw [Bool.not_eq_true, Bool.or_eq_false_iff] at hhold
      cases hq : (c.arms arm).qDeg with
      | none => exact absurd ⟨hext, hon, hhold.1, hhold.2, hq⟩ (not_reachesLeak harmed arm)
      | some q => exact ⟨_, rfl, fun _ => .inr ⟨q, hq, rfl⟩, fun h => absurd h (by decide)⟩

/-- Outside an external init: the policy's intent if no arm is latched, else one made of the arms' payloads. -/
theorem composeIntent_inactive (harmed : ∀ arm, (c.latch arm).Armed) (hext : c.externalInitActive = false)
    (intent : Option CommandIntent) :
    (∀ arm, (c.arms arm).on = false) ∧ c.composeIntent py cfg intent = (c, intent) ∨
    ∃ left right, c.composeIntent py cfg intent = (c, some (cfg.withPayloads py intent left right)) ∧
      (c.arms .left).composedPayload (intent.bind CommandIntent.left) = some left ∧
      (c.arms .right).composedPayload (intent.bind CommandIntent.right) = some right := by
  unfold OverrideController.composeIntent
  rw [if_neg (by rw [hext]; decide)]
  by_cases hoff : (!(c.arms .left).on && !(c.arms .right).on) = true
  · rw [if_pos hoff]
    rw [Bool.and_eq_true, Bool.not_eq_true', Bool.not_eq_true'] at hoff
    refine .inl ⟨fun arm => ?_, rfl⟩
    cases arm with
    | left => exact hoff.1
    | right => exact hoff.2
  · rw [if_neg hoff]
    obtain ⟨left, hleft, -⟩ := composedPayload_cases harmed hext .left (intent.bind CommandIntent.left)
    obtain ⟨right, hright, -⟩ := composedPayload_cases harmed hext .right (intent.bind CommandIntent.right)
    rw [hleft, hright]
    exact .inr ⟨left, right, rfl, rfl, rfl⟩

/-- The payload of one arm during an external init. -/
def ArmRuntime.externalPayload (rt : ArmRuntime) : Json.Object :=
  if rt.isOurs then rt.qDeg.elim holdPayload fun q => initArmPayload q rt.requestId else holdPayload

/-- During an external init: silence, or a Hold or an own init for each arm. -/
theorem externalInitIntent_cases (harmed : ∀ arm, (c.latch arm).Armed) (intent : Option CommandIntent) :
    c.externalInitIntent py cfg intent = (c, none) ∨
    ∃ payload : Arm → Json.Object,
      c.externalInitIntent py cfg intent
        = (c, some (cfg.withPayloads py intent (payload .left) (payload .right))) ∧
      (∀ arm, payload arm = holdPayload ∨ OwnInit (c.arms arm) (some (payload arm))) ∧
      ∃ arm, OwnInit (c.arms arm) (some (payload arm)) := by
  have hq : ∀ arm, (c.arms arm).isOurs = true → (c.arms arm).on = true ∧ (c.arms arm).external = false ∧
      ∃ q, (c.arms arm).qDeg = some q := by
    intro arm hours
    unfold ArmRuntime.isOurs at hours
    simp only [Bool.and_eq_true, Bool.not_eq_true'] at hours
    have hsome := harmed arm hours.1.1.1 hours.1.1.2
    exact ⟨hours.1.1.1, hours.1.1.2, Option.isSome_iff_exists.mp hsome⟩
  have hown : ∀ arm, (c.arms arm).isOurs = true → OwnInit (c.arms arm) (some (c.arms arm).externalPayload) := by
    intro arm hours
    obtain ⟨hon, hext, q, hqd⟩ := hq arm hours
    refine ⟨hon, hext, q, hqd, ?_⟩
    simp [ArmRuntime.externalPayload, hours, hqd]
  have hmissing : ([Arm.left, .right].filter fun arm => (c.arms arm).isOurs).filter
      (fun arm => (c.arms arm).qDeg.isNone) = [] := by
    rw [List.filter_eq_nil_iff]
    intro arm harm
    obtain ⟨-, -, q, hqd⟩ := hq arm (List.mem_filter.mp harm).2
    simp [hqd]
  unfold OverrideController.externalInitIntent
  dsimp only
  rw [hmissing]
  cases hours : [Arm.left, .right].filter fun arm => (c.arms arm).isOurs with
  | nil => exact .inl rfl
  | cons arm rest =>
    refine .inr ⟨fun arm => (c.arms arm).externalPayload, ?_, fun arm => ?_, arm, ?_⟩
    · dsimp only [ArmRuntime.externalPayload]
      cases (c.arms .left).isOurs <;> cases (c.arms .left).qDeg <;> cases (c.arms .right).isOurs <;>
        cases (c.arms .right).qDeg <;> rfl
    · by_cases h : (c.arms arm).isOurs = true
      · exact .inr (hown arm h)
      · left
        simp [ArmRuntime.externalPayload, h]
    · have harm : arm ∈ [Arm.left, .right].filter fun arm => (c.arms arm).isOurs := by
        rw [hours]
        exact List.mem_cons_self
      exact hown arm (List.mem_filter.mp harm).2

theorem externalInitIntent_withArms (intent : Option CommandIntent) (left right : Option Json.Object) :
    c.externalInitIntent py cfg (intent.map (CommandIntent.withArms left right))
      = c.externalInitIntent py cfg intent := by
  unfold OverrideController.externalInitIntent
  cases intent with
  | none => rfl
  | some i => rfl

/-- **No policy motion on a latched arm.**  After any run, `compose_intent` does not reach a branch that returns the
policy's intent for want of a pose, and each latched arm holds or gets its own init.  While an external init is
active the result does not depend on the policy's arm payloads, and there is one only if it carries an init of an arm
this runner latched. -/
theorem composeIntent_suspends (events : List OverrideEvent) (intent : Option CommandIntent) :
    let c := OverrideController.run py cfg events
    let out := c.composeIntent py cfg intent
    (∀ arm, ¬ c.ReachesLeak arm) ∧ out.1 = c ∧
    (∀ i ∈ out.2, ∀ arm, (c.arms arm).on = true → HoldOrInit (c.arms arm) (i.payload arm)) ∧
    (c.externalInitActive = true →
      (∀ left right, (c.composeIntent py cfg (intent.map (CommandIntent.withArms left right))).2 = out.2) ∧
      ∀ i ∈ out.2, (∀ arm, i.payload arm = some holdPayload ∨ OwnInit (c.arms arm) (i.payload arm)) ∧
        ∃ arm, OwnInit (c.arms arm) (i.payload arm)) := by
  intro c out
  have harmed : ∀ arm, (c.latch arm).Armed := armed_run py events
  refine ⟨not_reachesLeak harmed, ?_⟩
  cases hext : c.externalInitActive with
  | false =>
    obtain ⟨hoff, he⟩ | ⟨left, right, he, hleft, hright⟩ := composeIntent_inactive py cfg harmed hext intent
    · have hout : out = (c, intent) := he
      rw [hout]
      exact ⟨rfl, fun i _ arm hon => absurd hon (by simp [hoff arm]), fun h => absurd h (by decide)⟩
    · have hout : out = (c, some (cfg.withPayloads py intent left right)) := he
      rw [hout]
      refine ⟨rfl, ?_, fun h => absurd h (by decide)⟩
      rintro i hi arm hon
      cases hi
      cases arm with
      | left =>
        obtain ⟨p, hp, hinit, -⟩ := composedPayload_cases harmed hext .left (intent.bind CommandIntent.left)
        rw [hleft] at hp
        cases hp
        exact hinit hon
      | right =>
        obtain ⟨p, hp, hinit, -⟩ := composedPayload_cases harmed hext .right (intent.bind CommandIntent.right)
        rw [hright] at hp
        cases hp
        exact hinit hon
  | true =>
    have hcompose : ∀ intent, c.composeIntent py cfg intent = c.externalInitIntent py cfg intent := by
      intro intent
      unfold OverrideController.composeIntent
      rw [if_pos hext]
    have hindep : ∀ left right,
        (c.composeIntent py cfg (intent.map (CommandIntent.withArms left right))).2 = out.2 := by
      intro left right
      rw [hcompose, externalInitIntent_withArms, ← hcompose]
    have hout : out = c.externalInitIntent py cfg intent := hcompose intent
    obtain he | ⟨payload, he, hall, arm, hown⟩ := externalInitIntent_cases py cfg harmed intent
    · rw [he] at hout
      rw [hout]
      refine ⟨rfl, ?_, fun _ => ⟨fun l r => (hindep l r).trans (by rw [hout]), ?_⟩⟩
      · intro i hi
        cases hi
      · intro i hi
        cases hi
    · rw [he] at hout
      have hpayload : ∀ arm, (cfg.withPayloads py intent (payload .left) (payload .right)).payload arm
          = some (payload arm) := by
        intro arm
        cases arm with
        | left => rfl
        | right => rfl
      rw [hout]
      refine ⟨rfl, ?_, fun _ => ⟨fun l r => (hindep l r).trans (by rw [hout]), ?_⟩⟩
      · rintro i hi arm -
        cases hi
        rw [hpayload]
        rcases hall arm with h | ⟨-, -, q, hq, h⟩
        · exact .inl (by rw [h])
        · exact .inr ⟨q, hq, h⟩
      · rintro i hi
        cases hi
        refine ⟨fun arm => ?_, arm, ?_⟩
        · rw [hpayload]
          exact (hall arm).imp (fun h => by rw [h]) id
        · rw [hpayload]
          exact hown

end

end PolicyRunner
