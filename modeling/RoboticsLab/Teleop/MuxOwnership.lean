import RoboticsLab.Lib.Raising
import RoboticsLab.Lib.Runs
import RoboticsLab.Teleop.TeleopMux

/-!
# Exclusive, idle-gated ownership

What a tick of the mux does to the owner, and what a run of ticks makes of it.  The invariant is that
the source that is owned against was reset after it was last polled, and that a failed SpaceMouse does
not own the robot:

    muxNextIntent mouse umi tieBreak x m = .ok out m' → OwnershipInv m →
      OwnershipInv m' ∧ OwnershipStep mouse umi m out m'                          (muxNextIntent_step)
-/

namespace PolicyRunner

open Runs Raising

variable {ι M U : Type}

/-! ## What is promised -/

/-- The call polls the source. -/
def Polls (d : Device) : SourceCallRecord → Prop
  | .produced d' _ => d' = d
  | .raised d' => d' = d
  | .reset _ => False

/-- Each poll of the source is followed by a reset of it (the record is newest first). -/
def ResetSince (d : Device) (calls : List SourceCallRecord) : Prop :=
  ∀ later call earlier, calls = later ++ call :: earlier → Polls d call → .reset d ∈ later

/-- The source owns the robot at the start of the tick, or takes it from idle on the tick. -/
def Drives (d : Device) (m m' : TeleopMux M U) : Prop :=
  m.owner = .device d ∨ m.owner = .idle ∧ m'.owner = .device d

/-- The other source owns the robot at the start or at the end of the tick. -/
def OwnedAgainst (d : Device) (m m' : TeleopMux M U) : Prop :=
  m.owner = .device d.other ∨ m'.owner = .device d.other

/-- The SpaceMouse fails on the tick. -/
def FailsNow (m m' : TeleopMux M U) : Prop := m.spacemouseFailed = false ∧ m'.spacemouseFailed = true

section

variable (mouse : SpaceMouseSource ι M) (umi : ActionSource ι U)

def engagedNow (m : TeleopMux M U) : Device → Bool
  | .spacemouse => mouse.engaged m.mouse
  | .umi => umi.engaged m.umi

/-- The owner lets go: disengaged, with nothing more than a hold, or failed. -/
def Released (d : Device) (m : TeleopMux M U) (out : Option CommandIntent) (m' : TeleopMux M U) : Prop :=
  engagedNow mouse umi m' d = false ∧ noneOrHold out = true ∨ d = .spacemouse ∧ FailsNow m m'

/-- What one tick does with the robot. -/
structure OwnershipStep (m : TeleopMux M U) (out : Option CommandIntent) (m' : TeleopMux M U) : Prop where
  authority : ∀ intent, out = some intent →
    (∃ d new, Drives d m m' ∧ m'.calls = new ++ m.calls ∧ .produced d (some intent) ∈ new) ∨
    m.owner = .device .spacemouse ∧ FailsNow m m' ∧ intent.mode = "Hold"
  handover : ∀ d, m.owner = .device d →
    m'.owner = .device d ∨ m'.owner = .idle ∧ Released mouse umi d m out m'
  guarded : ∀ d, OwnedAgainst d m m' → ResetSince d m'.calls
  failed : m.spacemouseFailed = true → m'.spacemouseFailed = true ∧ m'.owner ≠ .device .spacemouse
  grown : ∃ new, m'.calls = new ++ m.calls

end

/-- A source that is owned against was reset after its last poll, and a failed SpaceMouse does not
own the robot. -/
structure OwnershipInv (m : TeleopMux M U) : Prop where
  guarded : ∀ d, m.owner = .device d.other → ResetSince d m.calls
  failed : m.spacemouseFailed = true → m.owner ≠ .device .spacemouse

/-! ## Records -/

theorem resetSince_reset (d : Device) (calls : List SourceCallRecord) : ResetSince d (.reset d :: calls) := by
  intro later call earlier h hpoll
  cases later with
  | nil =>
    obtain ⟨rfl, -⟩ := List.cons.inj h
    exact hpoll.elim
  | cons first later =>
    obtain ⟨rfl, -⟩ := List.cons.inj h
    exact List.mem_cons_self

theorem ResetSince.cons {d : Device} {calls : List SourceCallRecord} (h : ResetSince d calls)
    {call : SourceCallRecord} (hno : ¬ Polls d call) : ResetSince d (call :: calls) := by
  intro later c earlier heq hpoll
  cases later with
  | nil =>
    obtain ⟨rfl, -⟩ := List.cons.inj heq
    exact absurd hpoll hno
  | cons first later =>
    obtain ⟨-, heq⟩ := List.cons.inj heq
    exact List.mem_cons_of_mem _ (h later c earlier heq hpoll)

theorem ResetSince.append {d : Device} {calls : List SourceCallRecord} (h : ResetSince d calls)
    {new : List SourceCallRecord} (hno : ∀ call ∈ new, ¬ Polls d call) : ResetSince d (new ++ calls) := by
  induction new with
  | nil => exact h
  | cons call new ih =>
    exact (ih fun c hc => hno c (List.mem_cons_of_mem _ hc)).cons (hno call List.mem_cons_self)

/-! ## Polling the SpaceMouse -/

/-- What `_spacemouse_intent` can do when it returns. -/
inductive MousePolled (m : TeleopMux M U) :
    Option CommandIntent × Option CommandIntent → TeleopMux M U → Prop
  | lost (hold : CommandIntent) (s : M) (new : List SourceCallRecord)
      (howner : m.owner = .device .spacemouse) (hok : m.spacemouseFailed = false)
      (hmode : hold.mode = "Hold") (hnew : ∀ call ∈ new, ¬ Polls .umi call) :
      MousePolled m (none, some hold)
        { m with mouse := s, owner := .idle, spacemouseFailed := true, calls := new ++ m.calls }
  | disabled (s : M) (new : List SourceCallRecord)
      (howner : m.spacemouseFailed = true ∨ m.owner ≠ .device .spacemouse)
      (hnew : ∀ call ∈ new, ¬ Polls .umi call) :
      MousePolled m (none, none) { m with mouse := s, spacemouseFailed := true, calls := new ++ m.calls }
  | polled (s : M) (intent : Option CommandIntent) (hok : m.spacemouseFailed = false) :
      MousePolled m (intent, none) { m with mouse := s, calls := .produced .spacemouse intent :: m.calls }

section

variable (mouse : SpaceMouseSource ι M) (umi : ActionSource ι U)

theorem spacemouseRaised_eq (m : TeleopMux M U) :
    spacemouseRaised mouse m =
      if m.owner = .device .spacemouse then
        .ok (none, some (CommandIntent.hold (mouse.timeoutSec m.mouse)))
          { m with owner := .idle, spacemouseFailed := true }
      else .ok (none, none) { m with spacemouseFailed := true } := by
  unfold spacemouseRaised
  by_cases h : m.owner = .device .spacemouse
  · rw [if_pos h]
    simp [bind_apply, modify_apply, get_apply, pure_apply, h, setOwner, -bind_pure_comp]
  · rw [if_neg h]
    simp [bind_apply, modify_apply, get_apply, pure_apply, h]

/-- The handler, from a state that the `try` block reached. -/
theorem spacemouseRaised_cases {m m1 m2 : TeleopMux M U} {r : Option CommandIntent × Option CommandIntent}
    {s : M} {failed : Bool} (new : List SourceCallRecord) (hok : m.spacemouseFailed = false)
    (hm1 : m1 = { m with mouse := s, spacemouseFailed := failed, calls := new ++ m.calls })
    (hnew : ∀ call ∈ new, ¬ Polls .umi call) (h : spacemouseRaised mouse m1 = .ok r m2) :
    MousePolled m r m2 := by
  subst hm1
  rw [spacemouseRaised_eq] at h
  split at h
  · next howner =>
    cases h
    exact .lost _ s new howner hok rfl hnew
  · next howner =>
    cases h
    exact .disabled s new (.inr howner) hnew

/-- The hold issued for a lost SpaceMouse: its own last intent when that is one. -/
def lostHold (timeoutSec : Double) (intent : Option CommandIntent) : Option CommandIntent :=
  if intent.isSome && noneOrHold intent then intent else some (CommandIntent.hold timeoutSec)

theorem lostHold_spec (timeoutSec : Double) (intent : Option CommandIntent) :
    ∃ hold, lostHold timeoutSec intent = some hold ∧ hold.mode = "Hold" := by
  unfold lostHold
  split
  · next h =>
    cases intent with
    | none => simp at h
    | some hold => exact ⟨hold, rfl, by simpa [noneOrHold] using h⟩
  · exact ⟨_, rfl, rfl⟩

theorem spacemouseFlagged_eq (intent : Option CommandIntent) (m : TeleopMux M U) :
    spacemouseFlagged mouse intent m = match mouse.resetEngagement m.mouse with
      | .error e s => .error e { m with mouse := s, spacemouseFailed := true }
      | .ok _ s =>
        if m.owner = .device .spacemouse then
          .ok (none, lostHold (mouse.timeoutSec s) intent)
            { m with mouse := s, owner := .idle, spacemouseFailed := true, calls := .reset .spacemouse :: m.calls }
        else .ok (none, none)
          { m with mouse := s, spacemouseFailed := true, calls := .reset .spacemouse :: m.calls } := by
  unfold spacemouseFlagged
  cases hreset : mouse.resetEngagement m.mouse with
  | error e s =>
    simp [bind_apply, modify_apply, resetMouse, hreset]
  | ok u s =>
    by_cases h : m.owner = .device .spacemouse
    · simp [bind_apply, modify_apply, get_apply, pure_apply, resetMouse, hreset, h, setOwner, TeleopMux.log, lostHold,
        -bind_pure_comp]
    · simp [bind_apply, modify_apply, get_apply, pure_apply, resetMouse, hreset, h, TeleopMux.log]

/-- Calls to the SpaceMouse only. -/
def mouseCall : SourceCallRecord → Bool
  | .produced d _ => d = .spacemouse
  | .raised d => d = .spacemouse
  | .reset d => d = .spacemouse

theorem not_polls_umi {new : List SourceCallRecord} (h : new.all mouseCall = true) :
    ∀ call ∈ new, ¬ Polls .umi call := by
  intro call hcall hpoll
  have hmouse := List.all_eq_true.mp h call hcall
  cases call with
  | produced d intent => simp_all [Polls, mouseCall]
  | raised d => simp_all [Polls, mouseCall]
  | reset d => exact hpoll

theorem spacemouseIntent_cases {x : ι} {m m' : TeleopMux M U}
    {r : Option CommandIntent × Option CommandIntent} (h : spacemouseIntent mouse x m = .ok r m') :
    MousePolled m r m' := by
  unfold spacemouseIntent at h
  split at h
  · next hfailed =>
    cases h
    have hsame : MousePolled m (none, none)
        { m with mouse := m.mouse, spacemouseFailed := true, calls := [] ++ m.calls } :=
      .disabled m.mouse [] (.inl hfailed) (by simp)
    rw [← hfailed] at hsame
    exact hsame
  · next hfailed =>
    rw [Bool.not_eq_true] at hfailed
    unfold trySpacemouseIntent at h
    cases hpoll : mouse.nextIntent x m.mouse with
    | error e s =>
      simp only [bind_apply, pollMouse, hpoll] at h
      cases e with
      | runtimeOrOs =>
        exact spacemouseRaised_cases mouse [.raised .spacemouse] hfailed rfl
          (not_polls_umi (by decide)) h
      | other => cases h
    | ok intent s =>
      simp only [bind_apply, get_apply, pollMouse, hpoll] at h
      by_cases hflag : mouse.failed s = true
      · have hcond : mouse.failed (({ m with mouse := s } : TeleopMux M U).log
            (.produced .spacemouse intent)).mouse = true := hflag
        rw [if_pos hcond, spacemouseFlagged_eq] at h
        dsimp only [TeleopMux.log] at h
        cases hreset : mouse.resetEngagement s with
        | error e s' =>
          rw [hreset] at h
          cases e with
          | runtimeOrOs =>
            exact spacemouseRaised_cases mouse [.produced .spacemouse intent] hfailed rfl
              (not_polls_umi (by simp [mouseCall])) h
          | other => cases h
        | ok u s' =>
          rw [hreset] at h
          have hnew : ∀ call ∈ [SourceCallRecord.reset .spacemouse, .produced .spacemouse intent],
              ¬ Polls .umi call := not_polls_umi (by simp [mouseCall])
          obtain ⟨hold, heq, hmode⟩ := lostHold_spec (mouse.timeoutSec s') intent
          dsimp only at h
          rw [heq] at h
          by_cases howner : m.owner = .device .spacemouse
          · simp only [howner, if_true] at h
            cases h
            exact .lost hold s' [.reset .spacemouse, .produced .spacemouse intent] howner hfailed hmode hnew
          · simp only [howner, if_false] at h
            cases h
            exact .disabled s' [.reset .spacemouse, .produced .spacemouse intent] (.inr howner) hnew
      · have hcond : ¬ mouse.failed (({ m with mouse := s } : TeleopMux M U).log
            (.produced .spacemouse intent)).mouse = true := hflag
        rw [if_neg hcond] at h
        cases h
        exact .polled s intent hfailed

/-! ## Arbitration -/

/-- A returning tick of the owning SpaceMouse. -/
theorem mouseOwns_ok {engaged : Bool} {mouseIntent out : Option CommandIntent} {m m' : TeleopMux M U}
    (h : mouseOwns umi engaged mouseIntent m = .ok out m') :
    out = mouseIntent ∧ ∃ s, m' = { m with
      umi := s
      owner := if !engaged && noneOrHold mouseIntent then .idle else m.owner
      calls := .reset .umi :: m.calls } := by
  unfold mouseOwns at h
  cases hreset : umi.resetEngagement m.umi with
  | error e s =>
    simp only [bind_apply, resetUmi, hreset] at h
    cases h
  | ok u s =>
    simp only [bind_apply, resetUmi, hreset] at h
    split at h
    · next hfree =>
      cases h
      exact ⟨rfl, s, by rw [if_pos hfree]; rfl⟩
    · next hfree =>
      cases h
      exact ⟨rfl, s, by rw [if_neg hfree]; rfl⟩

theorem umiOwns_ok {engaged : Bool} {umiIntent out : Option CommandIntent} {m m' : TeleopMux M U}
    (h : umiOwns mouse engaged umiIntent m = .ok out m') :
    out = umiIntent ∧ ∃ s, m' = { m with
      mouse := s
      owner := if !engaged && umiIntent.isNone then .idle else m.owner
      calls := .reset .spacemouse :: m.calls } := by
  unfold umiOwns at h
  cases hreset : mouse.resetEngagement m.mouse with
  | error e s =>
    simp only [bind_apply, resetMouse, hreset] at h
    cases h
  | ok u s =>
    simp only [bind_apply, resetMouse, hreset] at h
    split at h
    · next hfree =>
      cases h
      exact ⟨rfl, s, by rw [if_pos hfree]; rfl⟩
    · next hfree =>
      cases h
      exact ⟨rfl, s, by rw [if_neg hfree]; rfl⟩

/-- A returning tick of the idle robot: nothing happens, or one source takes it and the other is
reset. -/
theorem takeIdle_ok {taker : Option Device} {mouseIntent umiIntent out : Option CommandIntent}
    {m m' : TeleopMux M U} (h : takeIdle mouse umi taker mouseIntent umiIntent m = .ok out m') :
    (taker = none ∧ out = none ∧ m' = m) ∨
    (taker = some .spacemouse ∧ out = mouseIntent ∧ ∃ s, m' = { m with
      umi := s, owner := .device .spacemouse, calls := .reset .umi :: m.calls }) ∨
    (taker = some .umi ∧ out = umiIntent ∧ ∃ s, m' = { m with
      mouse := s, owner := .device .umi, calls := .reset .spacemouse :: m.calls }) := by
  cases taker with
  | none =>
    cases h
    exact .inl ⟨rfl, rfl, rfl⟩
  | some d =>
    cases d with
    | spacemouse =>
      right; left
      simp only [takeIdle, setOwner, bind_apply, modify_apply, resetUmi] at h
      cases hreset : umi.resetEngagement m.umi with
      | error e s =>
        simp only [hreset] at h
        cases h
      | ok u s =>
        simp only [hreset] at h
        cases h
        exact ⟨rfl, rfl, s, rfl⟩
    | umi =>
      right; right
      simp only [takeIdle, setOwner, bind_apply, modify_apply, resetMouse] at h
      cases hreset : mouse.resetEngagement m.mouse with
      | error e s =>
        simp only [hreset] at h
        cases h
      | ok u s =>
        simp only [hreset] at h
        cases h
        exact ⟨rfl, rfl, s, rfl⟩

theorem pollUmi_ok {x : ι} {m m' : TeleopMux M U} {umiIntent : Option CommandIntent}
    (h : pollUmi umi x m = .ok umiIntent m') :
    ∃ s, m' = { m with umi := s, calls := .produced .umi umiIntent :: m.calls } := by
  unfold pollUmi at h
  split at h
  · next s heq =>
    cases h
    exact ⟨s, rfl⟩
  · cases h

/-- A returning tick: the SpaceMouse was lost, or both sources were polled and the owner decided. -/
theorem muxNextIntent_ok {tieBreak : Device} {x : ι} {m m' : TeleopMux M U} {out : Option CommandIntent}
    (h : muxNextIntent mouse umi tieBreak x m = .ok out m') :
    (∃ mouseIntent hold, out = some hold ∧ MousePolled m (mouseIntent, some hold) m') ∨
    ∃ mouseIntent umiIntent m1 s, MousePolled m (mouseIntent, none) m1 ∧
      arbitrate mouse umi tieBreak mouseIntent umiIntent
        { m1 with umi := s, calls := .produced .umi umiIntent :: m1.calls } = .ok out m' := by
  unfold muxNextIntent at h
  cases hmouse : spacemouseIntent mouse x m with
  | error e m1 =>
    simp only [bind_apply, hmouse] at h
    cases h
  | ok r m1 =>
    obtain ⟨mouseIntent, safety⟩ := r
    have hpolled := spacemouseIntent_cases mouse hmouse
    simp only [bind_apply, hmouse] at h
    cases safety with
    | some hold =>
      cases h
      exact .inl ⟨mouseIntent, hold, rfl, hpolled⟩
    | none =>
      right
      simp only [Option.isSome_none, Bool.false_eq_true, if_false] at h
      rw [bind_apply] at h
      cases humi : pollUmi umi x m1 with
      | error e m2 =>
        rw [humi] at h
        cases h
      | ok umiIntent m2 =>
        rw [humi] at h
        obtain ⟨s, rfl⟩ := pollUmi_ok umi humi
        exact ⟨mouseIntent, umiIntent, m1, s, hpolled, h⟩

/-! ## One tick -/

/-- Losing the SpaceMouse as the owner: one hold, and the robot is idle. -/
theorem ownershipStep_lost {m m' : TeleopMux M U} {mouseIntent : Option CommandIntent} {hold : CommandIntent}
    (hinv : OwnershipInv m) (h : MousePolled m (mouseIntent, some hold) m') :
    OwnershipInv m' ∧ OwnershipStep mouse umi m (some hold) m' := by
  cases h with
  | lost _ s new howner hok hmode hnew =>
    refine ⟨⟨?_, ?_⟩, ⟨?_, ?_, ?_, ?_, ?_⟩⟩
    · intro d hd
      cases hd
    · intro _ hd
      cases hd
    · intro intent heq
      cases heq
      exact .inr ⟨howner, ⟨hok, rfl⟩, hmode⟩
    · intro d hd
      rw [howner] at hd
      cases hd
      exact .inr ⟨rfl, .inr ⟨rfl, hok, rfl⟩⟩
    · rintro d (hd | hd)
      · rw [howner] at hd
        have humi : d = .umi := by
          cases d with
          | spacemouse => cases hd
          | umi => rfl
        subst humi
        exact (hinv.guarded .umi howner).append hnew
      · cases hd
    · intro hfailed
      rw [hok] at hfailed
      cases hfailed
    · exact ⟨new, rfl⟩

/-- What polling both sources leaves for the arbitration. -/
structure Polled (m : TeleopMux M U) (mouseIntent umiIntent : Option CommandIntent)
    (m2 : TeleopMux M U) : Prop where
  owner : m2.owner = m.owner
  disabled : m2.spacemouseFailed = true → mouseIntent = none
  failed : m.spacemouseFailed = true → m2.spacemouseFailed = true
  fresh : m2.spacemouseFailed = true → m.spacemouseFailed = true ∨ m.owner ≠ .device .spacemouse
  calls : ∃ new, m2.calls = new ++ m.calls ∧ .produced .umi umiIntent ∈ new ∧
    (∀ intent, mouseIntent = some intent → .produced .spacemouse (some intent) ∈ new)

theorem polled_of_mousePolled {m m1 : TeleopMux M U} {mouseIntent : Option CommandIntent}
    (h : MousePolled m (mouseIntent, none) m1) (umiIntent : Option CommandIntent) (s : U) :
    Polled m mouseIntent umiIntent { m1 with umi := s, calls := .produced .umi umiIntent :: m1.calls } := by
  cases h with
  | disabled sm new howner hnew =>
    refine ⟨rfl, fun _ => rfl, fun _ => rfl, fun _ => howner, ?_⟩
    exact ⟨.produced .umi umiIntent :: new, rfl, List.mem_cons_self, fun _ h => by cases h⟩
  | polled sm intent hok =>
    refine ⟨rfl, ?_, fun h => h, ?_, ?_⟩
    · intro h
      rw [show m.spacemouseFailed = false from hok] at h
      cases h
    · intro h
      exact .inl h
    · refine ⟨[.produced .umi umiIntent, .produced .spacemouse mouseIntent], rfl, List.mem_cons_self, ?_⟩
      intro i hi
      rw [hi]
      simp

theorem Device.eq_other {d d' : Device} (h : d.other = d') : d = d'.other := by
  subst h
  cases d <;> rfl

/-- One source owns the robot throughout the tick, and the other was reset last. -/
theorem guarded_of_reset (d0 : Device) {m m' : TeleopMux M U} {calls : List SourceCallRecord}
    (h : m.owner = .idle ∨ m.owner = .device d0) (h' : m'.owner = .idle ∨ m'.owner = .device d0)
    (hcalls : m'.calls = .reset d0.other :: calls) (d : Device) (hd : OwnedAgainst d m m') :
    ResetSince d m'.calls := by
  have hother : d.other = d0 := by
    rcases hd with hd | hd
    · rcases h with h | h
      · rw [h] at hd
        cases hd
      · rw [h] at hd
        cases hd
        rfl
    · rcases h' with h' | h'
      · rw [h'] at hd
        cases hd
      · rw [h'] at hd
        cases hd
        rfl
  rw [hcalls, Device.eq_other hother]
  exact resetSince_reset _ _

theorem ownershipStep_mouseOwns {m m2 m' : TeleopMux M U} {mouseIntent umiIntent out : Option CommandIntent}
    (hinv : OwnershipInv m) (hpolled : Polled m mouseIntent umiIntent m2)
    (howner : m.owner = .device .spacemouse)
    (h : mouseOwns umi (spacemouseEngaged mouse m2 mouseIntent) mouseIntent m2 = .ok out m') :
    OwnershipInv m' ∧ OwnershipStep mouse umi m out m' := by
  obtain ⟨rfl, s, rfl⟩ := mouseOwns_ok umi h
  have hwell : m.spacemouseFailed = false := by
    by_contra hfailed
    exact hinv.failed (by simpa using hfailed) howner
  have hwell2 : m2.spacemouseFailed = false := by
    by_contra hfailed
    rcases hpolled.fresh (by simpa using hfailed) with hf | hf
    · rw [hwell] at hf
      cases hf
    · exact hf howner
  obtain ⟨new, hnew, -, hproduced⟩ := hpolled.calls
  generalize hout : (if (!spacemouseEngaged mouse m2 out && noneOrHold out) = true then Owner.idle
    else m2.owner) = owner
  have hend : owner = .idle ∨ owner = .device .spacemouse := by
    rw [← hout]
    split
    · exact .inl rfl
    · exact .inr (hpolled.owner.trans howner)
  refine ⟨⟨?_, ?_⟩, ⟨?_, ?_, ?_, ?_, ?_⟩⟩
  · intro d hd
    exact guarded_of_reset .spacemouse (.inr howner) hend rfl d (.inr hd)
  · intro hfailed
    rw [show m2.spacemouseFailed = true from hfailed] at hwell2
    cases hwell2
  · intro intent hintent
    left
    refine ⟨.spacemouse, .reset .umi :: new, .inl howner, by rw [hnew]; rfl, ?_⟩
    exact List.mem_cons_of_mem _ (hproduced intent hintent)
  · intro d hd
    rw [howner] at hd
    cases hd
    rcases hend with hidle | hown
    · refine .inr ⟨hidle, .inl ?_⟩
      rw [hidle] at hout
      split at hout
      · next hfree =>
        simp only [Bool.and_eq_true, Bool.not_eq_true', spacemouseEngaged, hwell2, Bool.not_false,
          Bool.true_and, Bool.or_eq_false_iff] at hfree
        exact ⟨hfree.1.1, hfree.2⟩
      · rw [hpolled.owner, howner] at hout
        cases hout
    · exact .inl hown
  · intro d hd
    exact guarded_of_reset .spacemouse (.inr howner) hend rfl d hd
  · intro hfailed
    rw [hwell] at hfailed
    cases hfailed
  · exact ⟨.reset .umi :: new, by rw [hnew]; rfl⟩

theorem ownershipStep_umiOwns {m m2 m' : TeleopMux M U} {mouseIntent umiIntent out : Option CommandIntent}
    (hpolled : Polled m mouseIntent umiIntent m2) (howner : m.owner = .device .umi)
    (h : umiOwns mouse (umi.engaged m2.umi) umiIntent m2 = .ok out m') :
    OwnershipInv m' ∧ OwnershipStep mouse umi m out m' := by
  obtain ⟨rfl, s, rfl⟩ := umiOwns_ok mouse h
  obtain ⟨new, hnew, hproduced, -⟩ := hpolled.calls
  generalize hout : (if (!umi.engaged m2.umi && out.isNone) = true then Owner.idle else m2.owner) = owner
  have hend : owner = .idle ∨ owner = .device .umi := by
    rw [← hout]
    split
    · exact .inl rfl
    · exact .inr (hpolled.owner.trans howner)
  have hnot : owner ≠ .device .spacemouse := by
    rintro rfl
    rcases hend with h | h <;> cases h
  refine ⟨⟨?_, fun _ => hnot⟩, ⟨?_, ?_, ?_, ?_, ?_⟩⟩
  · intro d hd
    exact guarded_of_reset .umi (.inr howner) hend rfl d (.inr hd)
  · intro intent hintent
    left
    refine ⟨.umi, .reset .spacemouse :: new, .inl howner, by rw [hnew]; rfl, ?_⟩
    rw [← hintent]
    exact List.mem_cons_of_mem _ hproduced
  · intro d hd
    rw [howner] at hd
    cases hd
    rcases hend with hidle | hown
    · refine .inr ⟨hidle, .inl ?_⟩
      rw [hidle] at hout
      split at hout
      · next hfree =>
        simp only [Bool.and_eq_true, Bool.not_eq_true', Option.isNone_iff_eq_none] at hfree
        refine ⟨hfree.1, ?_⟩
        rw [hfree.2]
        rfl
      · rw [hpolled.owner, howner] at hout
        cases hout
    · exact .inl hown
  · intro d hd
    exact guarded_of_reset .umi (.inr howner) hend rfl d hd
  · intro hfailed
    exact ⟨hpolled.failed hfailed, hnot⟩
  · exact ⟨.reset .spacemouse :: new, by rw [hnew]; rfl⟩

/-- The SpaceMouse takes an idle robot only when it works. -/
theorem winner_spacemouse {tieBreak : Device} {engaged umiEngaged : Bool}
    (h : winner tieBreak engaged umiEngaged = some .spacemouse) : engaged = true := by
  unfold winner at h
  cases engaged with
  | true => rfl
  | false => cases umiEngaged <;> simp at h

theorem ownershipStep_takeIdle {m m2 m' : TeleopMux M U} {mouseIntent umiIntent out : Option CommandIntent}
    {tieBreak : Device} (hpolled : Polled m mouseIntent umiIntent m2) (howner : m.owner = .idle)
    (h : takeIdle mouse umi (winner tieBreak (spacemouseEngaged mouse m2 mouseIntent) (umi.engaged m2.umi))
      mouseIntent umiIntent m2 = .ok out m') :
    OwnershipInv m' ∧ OwnershipStep mouse umi m out m' := by
  have hnone : ∀ d, m.owner ≠ .device d := by
    intro d hd
    rw [howner] at hd
    cases hd
  obtain ⟨new, hnew, hproduced, hmouse⟩ := hpolled.calls
  rcases takeIdle_ok mouse umi h with ⟨-, rfl, rfl⟩ | ⟨htaker, rfl, s, rfl⟩ | ⟨-, rfl, s, rfl⟩
  · -- nobody is engaged
    have hidle : ∀ d, m'.owner ≠ .device d := by
      intro d hd
      exact hnone d (hpolled.owner.symm.trans hd)
    refine ⟨⟨fun d hd => absurd hd (hidle _), fun _ => hidle _⟩, ⟨?_, ?_, ?_, ?_, ⟨new, hnew⟩⟩⟩
    · intro intent hintent
      cases hintent
    · intro d hd
      exact absurd hd (hnone d)
    · rintro d (hd | hd)
      · exact absurd hd (hnone _)
      · exact absurd hd (hidle _)
    · intro hfailed
      exact ⟨hpolled.failed hfailed, hidle _⟩
  · -- the SpaceMouse takes the robot
    have hwell : m2.spacemouseFailed = false := by
      have hengaged := winner_spacemouse htaker
      simp only [spacemouseEngaged, Bool.and_eq_true, Bool.not_eq_true'] at hengaged
      exact hengaged.1
    refine ⟨⟨?_, ?_⟩, ⟨?_, ?_, ?_, ?_, ⟨.reset .umi :: new, by rw [hnew]; rfl⟩⟩⟩
    · intro d hd
      exact guarded_of_reset .spacemouse (.inl howner) (.inr rfl) rfl d (.inr hd)
    · intro hfailed
      rw [show m2.spacemouseFailed = true from hfailed] at hwell
      cases hwell
    · intro intent hintent
      left
      refine ⟨.spacemouse, .reset .umi :: new, .inr ⟨howner, rfl⟩, by rw [hnew]; rfl, ?_⟩
      exact List.mem_cons_of_mem _ (hmouse intent hintent)
    · intro d hd
      exact absurd hd (hnone d)
    · intro d hd
      exact guarded_of_reset .spacemouse (.inl howner) (.inr rfl) rfl d hd
    · intro hfailed
      rw [hpolled.failed hfailed] at hwell
      cases hwell
  · -- the UMI grippers take the robot
    refine ⟨⟨?_, fun _ hd => by cases hd⟩, ⟨?_, ?_, ?_, ?_, ⟨.reset .spacemouse :: new, by rw [hnew]; rfl⟩⟩⟩
    · intro d hd
      exact guarded_of_reset .umi (.inl howner) (.inr rfl) rfl d (.inr hd)
    · intro intent hintent
      left
      refine ⟨.umi, .reset .spacemouse :: new, .inr ⟨howner, rfl⟩, by rw [hnew]; rfl, ?_⟩
      rw [← hintent]
      exact List.mem_cons_of_mem _ hproduced
    · intro d hd
      exact absurd hd (hnone d)
    · intro d hd
      exact guarded_of_reset .umi (.inl howner) (.inr rfl) rfl d hd
    · intro hfailed
      exact ⟨hpolled.failed hfailed, fun hd => by cases hd⟩

/-- **One tick.** -/
theorem muxNextIntent_step {tieBreak : Device} {x : ι} {m m' : TeleopMux M U} {out : Option CommandIntent}
    (hinv : OwnershipInv m) (h : muxNextIntent mouse umi tieBreak x m = .ok out m') :
    OwnershipInv m' ∧ OwnershipStep mouse umi m out m' := by
  rcases muxNextIntent_ok mouse umi h with ⟨mi, hold, rfl, hlost⟩ | ⟨mi, ui, m1, s, hpoll, harb⟩
  · exact ownershipStep_lost mouse umi hinv hlost
  · have hpolled := polled_of_mousePolled hpoll ui s
    generalize ({ m1 with umi := s, calls := .produced .umi ui :: m1.calls } : TeleopMux M U) = m2
      at hpolled harb
    unfold arbitrate at harb
    dsimp only at harb
    rw [hpolled.owner] at harb
    cases howner : m.owner with
    | idle =>
      rw [howner] at harb
      exact ownershipStep_takeIdle mouse umi hpolled howner harb
    | device d =>
      rw [howner] at harb
      cases d with
      | spacemouse => exact ownershipStep_mouseOwns mouse umi hinv hpolled howner harb
      | umi => exact ownershipStep_umiOwns mouse umi hpolled howner harb

/-! ## Runs -/

variable (tieBreak : Device) (m0 : TeleopMux M U)

/-- The tick `x` after the run `pre` returned `out`. -/
def TickAfter (pre : List ι) (x : ι) (m : TeleopMux M U) (out : Option CommandIntent)
    (m' : TeleopMux M U) : Prop :=
  muxAfter mouse umi tieBreak m0 pre = some m ∧ muxNextIntent mouse umi tieBreak x m = .ok out m'

/-- A source that takes the idle robot was reset after each poll of the ticks on which it was owned
against. -/
def TakesOverReset (pre : List ι) (m m' : TeleopMux M U) : Prop :=
  ∀ d, m.owner = .idle → m'.owner = .device d →
    ∀ before y after n out n', pre = before ++ y :: after →
      TickAfter mouse umi tieBreak m0 before y n out n' → OwnedAgainst d n n' →
      ResetSince d n'.calls ∧ ∃ later, m.calls = later ++ n'.calls

/-- Between two ticks that different sources own, the first one let go and left the robot idle. -/
def HandedThroughIdle (before between : List ι) : Prop :=
  ∀ d m m'', muxAfter mouse umi tieBreak m0 before = some m →
    muxAfter mouse umi tieBreak m0 (before ++ between) = some m'' →
    m.owner = .device d → m''.owner = .device d.other →
    ∃ a y b n out n', between = a ++ y :: b ∧ b ≠ [] ∧
      TickAfter mouse umi tieBreak m0 (before ++ a) y n out n' ∧
      n.owner = .device d ∧ n'.owner = .idle ∧ Released mouse umi d n out n'

theorem muxAfter_append (m : TeleopMux M U) (xs ys : List ι) :
    muxAfter mouse umi tieBreak m (xs ++ ys) =
      (muxAfter mouse umi tieBreak m xs).bind fun m' => muxAfter mouse umi tieBreak m' ys := by
  induction xs generalizing m with
  | nil => rfl
  | cons x xs ih =>
    rw [List.cons_append, muxAfter, muxAfter]
    cases muxNextIntent mouse umi tieBreak x m with
    | ok out m' => exact ih m'
    | error e m' => rfl

variable {mouse umi tieBreak m0}

theorem TickAfter.after {pre : List ι} {x : ι} {m m' : TeleopMux M U} {out : Option CommandIntent}
    (h : TickAfter mouse umi tieBreak m0 pre x m out m') :
    muxAfter mouse umi tieBreak m0 (pre ++ [x]) = some m' := by
  rw [muxAfter_append, h.1]
  simp only [Option.bind_some, muxAfter, h.2]

/-- What a longer run adds: ticks from the state the shorter one left. -/
theorem muxAfter_inv {m m' : TeleopMux M U} {xs : List ι} (hinv : OwnershipInv m)
    (h : muxAfter mouse umi tieBreak m xs = some m') :
    OwnershipInv m' ∧ ∃ new, m'.calls = new ++ m.calls := by
  induction xs generalizing m with
  | nil =>
    cases h
    exact ⟨hinv, [], rfl⟩
  | cons x xs ih =>
    unfold muxAfter at h
    split at h
    · next out m1 htick =>
      obtain ⟨hinv1, hstep⟩ := muxNextIntent_step mouse umi hinv htick
      obtain ⟨hinv', new, hnew⟩ := ih hinv1 h
      obtain ⟨first, hfirst⟩ := hstep.grown
      exact ⟨hinv', new ++ first, by rw [hnew, hfirst, List.append_assoc]⟩
    · cases h

theorem ownershipInv_start (s : M) (u : U) : OwnershipInv ({ mouse := s, umi := u } : TeleopMux M U) := by
  constructor
  · intro d hd
    cases hd
  · intro hfailed
    cases hfailed

theorem takesOverReset {pre : List ι} {m m' : TeleopMux M U} (hinv : OwnershipInv m0)
    (hpre : muxAfter mouse umi tieBreak m0 pre = some m) :
    TakesOverReset mouse umi tieBreak m0 pre m m' := by
  intro d _ _ before y after n out n' heq htick hagainst
  have hn := (muxAfter_inv hinv htick.1).1
  obtain ⟨hn', hstep⟩ := muxNextIntent_step mouse umi hn htick.2
  refine ⟨hstep.guarded d hagainst, ?_⟩
  rw [heq, List.append_cons, muxAfter_append, htick.after, Option.bind_some] at hpre
  exact (muxAfter_inv hn' hpre).2

/-- Ownership that leaves a source passes an idle tick. -/
theorem handedThroughIdle (hinv : OwnershipInv m0) (before between : List ι) :
    HandedThroughIdle mouse umi tieBreak m0 before between := by
  intro d m m'' hm hm'' howner hother
  induction between generalizing before m with
  | nil =>
    rw [List.append_nil, hm] at hm''
    cases hm''
    rw [howner] at hother
    cases d <;> cases hother
  | cons x between ih =>
    rw [List.append_cons, muxAfter_append, muxAfter_append, hm] at hm''
    cases htick : muxNextIntent mouse umi tieBreak x m with
    | error e m1 => simp [muxAfter, htick] at hm''
    | ok out m1 =>
      have hafter : TickAfter mouse umi tieBreak m0 before x m out m1 := ⟨hm, htick⟩
      obtain ⟨-, hstep⟩ := muxNextIntent_step mouse umi (muxAfter_inv hinv hm).1 htick
      have hrest : muxAfter mouse umi tieBreak m0 (before ++ [x] ++ between) = some m'' := by
        rw [muxAfter_append, muxAfter_append, hm]
        exact hm''
      rcases hstep.handover d howner with hstay | ⟨hidle, hreleased⟩
      · obtain ⟨a, y, b, n, out', n', rfl, hb, htick', hrel⟩ :=
          ih (before ++ [x]) m1 hafter.after hrest hstay
        refine ⟨x :: a, y, b, n, out', n', rfl, hb, ?_, hrel⟩
        rw [List.append_cons]
        exact htick'
      · refine ⟨[], x, between, m, out, m1, rfl, ?_, ?_, howner, hidle, hreleased⟩
        · -- the robot is idle after `x`, and owned at the end
          rintro rfl
          rw [List.append_nil, hafter.after] at hrest
          cases hrest
          rw [hidle] at hother
          cases hother
        · rw [List.append_nil]
          exact hafter

end

/-- **Whole runs.**  One source at a time drives the robot, it passes through idle, the source that is
owned against is reset after each poll, and a failed SpaceMouse does not come back. -/
theorem teleop_ownership_exclusive (mouse : SpaceMouseSource ι M) (umi : ActionSource ι U)
    (tieBreak : Device) (s : M) (u : U) :
    (∀ pre x m out m', TickAfter mouse umi tieBreak { mouse := s, umi := u } pre x m out m' →
      OwnershipStep mouse umi m out m' ∧
      TakesOverReset mouse umi tieBreak { mouse := s, umi := u } pre m m') ∧
    ∀ before between, HandedThroughIdle mouse umi tieBreak { mouse := s, umi := u } before between := by
  constructor
  · intro pre x m out m' htick
    have hinv := (muxAfter_inv (ownershipInv_start s u) htick.1).1
    exact ⟨(muxNextIntent_step mouse umi hinv htick.2).2,
      takesOverReset (ownershipInv_start s u) htick.1⟩
  · intro before between
    exact handedThroughIdle (ownershipInv_start s u) before between

end PolicyRunner
