import RoboticsLab.ServoHistory.CommandHistory
import RoboticsLab.Lib.Runs

/-!
# What one `record` call does to an arm

A call does one of four things to the samples of an arm (`record_arm`): it changes nothing because the packet is
`Delayed`, it clears them, it appends the sample of the packet (`Records`), to the samples there or to none, or
it raises and leaves them.  What the packet may not be if the samples are kept is `Interrupts`.
-/

namespace PolicyRunner.ServoHistory

section
variable (np : Numerics) (cfg : Config) (h : History) (p : Packet) (side : Arm) (a : Sample)

/-- The packet is from this host and its stamp is not above the latest one. -/
def Delayed : Prop := p.sameHostClock = true ∧ ∃ at_, observationStamp p.payload = .ok at_ ∧ at_.time ≤ h.latestTimeNs

/-- The packet is newer, sound and well formed for the arm, with the sample `a`. -/
structure Records : Prop where
  host : p.sameHostClock = true
  stamp : observationStamp p.payload = .ok ⟨a.time, a.tick, a.motionEpoch⟩
  newer : h.latestTimeNs < a.time
  age : checkAge cfg.staleTimeoutSec p.receivedMonotonic a.time "stale_server_sample" = .ok ()
  fault : faultLatched p.payload = false
  arm : readArm np p.payload side = .ok (a.referenceEpoch, a.pose)

/-- A newer packet that is malformed for the arm or has another reference epoch than `a`. -/
def ArmInterrupts : Prop :=
  match readArm np p.payload side with
  | .ok (epoch, _) => epoch ≠ a.referenceEpoch
  | .error _ => True

/-- The packet is remote, has no valid stamp, or is newer and stale or ahead, restarted, of another epoch than `a`,
faulted or malformed for the arm. -/
def Interrupts : Prop :=
  p.sameHostClock = false ∨
  match observationStamp p.payload with
  | .error _ => True
  | .ok at_ => h.latestTimeNs < at_.time ∧
    (checkAge cfg.staleTimeoutSec p.receivedMonotonic at_.time "stale_server_sample" ≠ .ok () ∨
      (at_.tick : ℤ) < h.latestTick ∨ at_.motion ≠ a.motionEpoch ∨ faultLatched p.payload = true ∨
      ArmInterrupts np p side a)

end

variable {np : Numerics} {cfg : Config} {h h' : History} {p : Packet} {side : Arm} {a : Sample} {out : Outcome}

/-- The samples of an arm are kept by a packet that continues them. -/
theorem Records.not_interrupts {b : Sample} (r : Records np cfg h p side b) (tick : h.latestTick ≤ b.tick)
    (motion : b.motionEpoch = a.motionEpoch) (reference : b.referenceEpoch = a.referenceEpoch) :
    ¬ Interrupts np cfg h p side a := by
  rintro (hhost | hstamp)
  · rw [r.host] at hhost
    cases hhost
  · rw [r.stamp] at hstamp
    obtain ⟨-, hage | htick | hmotion | hfault | harm⟩ := hstamp
    · exact hage r.age
    · dsimp only at htick
      omega
    · exact hmotion motion
    · rw [r.fault] at hfault
      cases hfault
    · rw [ArmInterrupts, r.arm] at harm
      exact harm reference

theorem Delayed.not_interrupts (d : Delayed h p) : ¬ Interrupts np cfg h p side a := by
  obtain ⟨hhost, at_, hstamp, hle⟩ := d
  rintro (hhost' | hstamp')
  · rw [hhost] at hhost'
    cases hhost'
  · rw [hstamp] at hstamp'
    obtain ⟨hlt, -⟩ := hstamp'
    omega

/-! ## The arms -/

theorem recordArm_other (np : Numerics) (cfg : Config) (payload : Json) (at_ : Stamp) (h : History)
    {side other : Arm} (ne : other ≠ side) :
    (h.recordArm np cfg payload at_ side).1.samples other = h.samples other ∧
      (h.recordArm np cfg payload at_ side).1.referenceEpoch other = h.referenceEpoch other := by
  unfold History.recordArm
  split
  · exact ⟨rfl, rfl⟩
  · exact ⟨Function.update_of_ne ne _ _, rfl⟩
  · exact ⟨Function.update_of_ne ne _ _, Function.update_of_ne ne _ _⟩

theorem recordArm_stamps (np : Numerics) (cfg : Config) (payload : Json) (at_ : Stamp) (h : History) (side : Arm) :
    (h.recordArm np cfg payload at_ side).1.latestTimeNs = h.latestTimeNs ∧
      (h.recordArm np cfg payload at_ side).1.latestTick = h.latestTick ∧
      (h.recordArm np cfg payload at_ side).1.motionEpoch = h.motionEpoch := by
  unfold History.recordArm
  split <;> exact ⟨rfl, rfl, rfl⟩

/-- What the loop over the arms leaves of one arm. -/
inductive ArmRecorded (np : Numerics) (cfg : Config) (payload : Json) (at_ : Stamp) (h : History) (side : Arm)
    (h' : History) (out : Outcome) : Prop
  | cleared : h'.samples side = [] → ArmRecorded np cfg payload at_ h side h' out
  | raised {e : PyError} : out = .raised e → h'.samples side = h.samples side →
      h'.referenceEpoch side = h.referenceEpoch side → ArmRecorded np cfg payload at_ h side h' out
  | appended {epoch : ℕ} {pose : List Double} : readArm np payload side = .ok (epoch, pose) →
      h'.samples side = Fifo.push cfg.maxlen (if some epoch ≠ h.referenceEpoch side then [] else h.samples side)
        ⟨at_.time, at_.tick, at_.motion, epoch, pose⟩ →
      h'.referenceEpoch side = some epoch → ArmRecorded np cfg payload at_ h side h' out

theorem recordArm_self (np : Numerics) (cfg : Config) (payload : Json) (at_ : Stamp) (h : History) (side : Arm) :
    ArmRecorded np cfg payload at_ h side (h.recordArm np cfg payload at_ side).1
      (h.recordArm np cfg payload at_ side).2 := by
  unfold History.recordArm
  split
  · exact .raised rfl rfl rfl
  · exact .cleared (Function.update_self ..)
  · rename_i hread
    exact .appended hread (Function.update_self ..) (Function.update_self ..)

section
variable {payload : Json} {at_ : Stamp} {e : PyError} {left : Bool}

theorem recordArms_of_raised (hl : (h.recordArm np cfg payload at_ .left).2 = .raised e) :
    h.recordArms np cfg payload at_ = ((h.recordArm np cfg payload at_ .left).1, .raised e) := by
  unfold History.recordArms
  generalize h.recordArm np cfg payload at_ .left = l at hl ⊢
  obtain ⟨h₁, o⟩ := l
  dsimp only at hl
  subst hl
  rfl

theorem recordArms_of_returned (hl : (h.recordArm np cfg payload at_ .left).2 = .returned left) :
    (h.recordArms np cfg payload at_).1 =
        ((h.recordArm np cfg payload at_ .left).1.recordArm np cfg payload at_ .right).1 ∧
      ∀ e, ((h.recordArm np cfg payload at_ .left).1.recordArm np cfg payload at_ .right).2 = .raised e →
        (h.recordArms np cfg payload at_).2 = .raised e := by
  unfold History.recordArms
  generalize h.recordArm np cfg payload at_ .left = l at hl ⊢
  obtain ⟨h₁, o⟩ := l
  dsimp only at hl
  subst hl
  dsimp only
  generalize h₁.recordArm np cfg payload at_ .right = r
  obtain ⟨h₂, o⟩ := r
  cases o with
  | raised e' => exact ⟨rfl, fun e he => he⟩
  | returned right => exact ⟨rfl, fun e he => by cases he⟩

/-- **Both arms.**  The loop leaves each arm as its own pass does. -/
theorem recordArms_arm (np : Numerics) (cfg : Config) (payload : Json) (at_ : Stamp) (h : History) (side : Arm) :
    ArmRecorded np cfg payload at_ h side (h.recordArms np cfg payload at_).1 (h.recordArms np cfg payload at_).2 := by
  have hself := recordArm_self np cfg payload at_ h .left
  have hother := recordArm_other np cfg payload at_ h (show Arm.right ≠ .left by decide)
  cases hl : (h.recordArm np cfg payload at_ .left).2 with
  | raised e =>
    rw [recordArms_of_raised hl]
    cases side with
    | left => rw [hl] at hself; exact hself
    | right => exact .raised rfl hother.1 hother.2
  | returned l =>
    obtain ⟨heq, hraise⟩ := recordArms_of_returned hl
    rw [heq]
    generalize (h.recordArm np cfg payload at_ .left).1 = h₁ at hself hother hraise ⊢
    cases side with
    | left =>
      -- the pass over the right arm leaves the left one alone
      have hkeep := recordArm_other np cfg payload at_ h₁ (show Arm.left ≠ .right by decide)
      rw [hl] at hself
      cases hself with
      | cleared hs => exact .cleared (hkeep.1.trans hs)
      | raised ho _ _ => cases ho
      | appended hread hs hr => exact .appended hread (hkeep.1.trans hs) (hkeep.2.trans hr)
    | right =>
      have hright := recordArm_self np cfg payload at_ h₁ .right
      cases hright with
      | cleared hs => exact .cleared hs
      | raised ho hs hr => exact .raised (hraise _ ho) (hs.trans hother.1) (hr.trans hother.2)
      | appended hread hs hr => exact .appended hread (by rw [hs, hother.1, hother.2]) hr

theorem recordArms_stamps (np : Numerics) (cfg : Config) (payload : Json) (at_ : Stamp) (h : History) :
    (h.recordArms np cfg payload at_).1.latestTimeNs = h.latestTimeNs ∧
      (h.recordArms np cfg payload at_).1.motionEpoch = h.motionEpoch := by
  obtain ⟨ht, -, hm⟩ := recordArm_stamps np cfg payload at_ h .left
  cases hl : (h.recordArm np cfg payload at_ .left).2 with
  | raised e =>
    rw [recordArms_of_raised hl]
    exact ⟨ht, hm⟩
  | returned l =>
    obtain ⟨ht₁, -, hm₁⟩ := recordArm_stamps np cfg payload at_
      (h.recordArm np cfg payload at_ .left).1 .right
    rw [(recordArms_of_returned hl).1]
    exact ⟨ht₁.trans ht, hm₁.trans hm⟩

end

/-! ## One call -/

/-- The stamps are the packet's; the samples stay only if it continues tick and motion epoch. -/
theorem advance_cases (h : History) (at_ : Stamp) :
    ((h.advance at_).latestTimeNs = at_.time ∧ (h.advance at_).motionEpoch = some at_.motion) ∧
      ((∀ side, (h.advance at_).samples side = [] ∧ (h.advance at_).referenceEpoch side = none) ∨
        (h.latestTick ≤ at_.tick ∧ h.motionEpoch = some at_.motion ∧ (h.advance at_).samples = h.samples ∧
          (h.advance at_).referenceEpoch = h.referenceEpoch)) := by
  unfold History.advance
  by_cases hbreak : (at_.tick : ℤ) < h.latestTick ∨ some at_.motion ≠ h.motionEpoch
  · rw [if_pos hbreak]
    exact ⟨⟨rfl, rfl⟩, .inl fun side => ⟨rfl, rfl⟩⟩
  · rw [if_neg hbreak]
    rw [not_or, not_lt, not_ne_iff] at hbreak
    exact ⟨⟨rfl, rfl⟩, .inr ⟨hbreak.1, hbreak.2.symm, rfl, rfl⟩⟩

/-- What a call does to one arm. -/
inductive ArmStep (np : Numerics) (cfg : Config) (h : History) (p : Packet) (side : Arm) (h' : History)
    (out : Outcome) : Prop
  | delayed : Delayed h p → h' = h → ArmStep np cfg h p side h' out
  | cleared : h'.samples side = [] → h.latestTimeNs ≤ h'.latestTimeNs → ArmStep np cfg h p side h' out
  | raised {e : PyError} : out = .raised e → h'.samples side = h.samples side →
      h'.referenceEpoch side = h.referenceEpoch side → h'.motionEpoch = h.motionEpoch →
      h.latestTimeNs ≤ h'.latestTimeNs → ArmStep np cfg h p side h' out
  | appended {a : Sample} {kept : List Sample} : Records np cfg h p side a →
      (kept = [] ∨ (kept = h.samples side ∧ h.latestTick ≤ a.tick ∧ h.motionEpoch = some a.motionEpoch ∧
        h.referenceEpoch side = some a.referenceEpoch)) →
      h'.samples side = Fifo.push cfg.maxlen kept a → h'.referenceEpoch side = some a.referenceEpoch →
      h'.motionEpoch = some a.motionEpoch → h'.latestTimeNs = a.time → ArmStep np cfg h p side h' out

theorem recordArms_step {at_ : Stamp} (side : Arm) (host : p.sameHostClock = true)
    (stamp : observationStamp p.payload = .ok at_) (newer : h.latestTimeNs < at_.time)
    (age : checkAge cfg.staleTimeoutSec p.receivedMonotonic at_.time "stale_server_sample" = .ok ())
    (fault : faultLatched p.payload = false) :
    ArmStep np cfg h p side ((h.advance at_).recordArms np cfg p.payload at_).1
      ((h.advance at_).recordArms np cfg p.payload at_).2 := by
  obtain ⟨⟨htime, hmotion⟩, hcases⟩ := advance_cases h at_
  obtain ⟨htime', hmotion'⟩ := recordArms_stamps np cfg p.payload at_ (h.advance at_)
  have harm := recordArms_arm np cfg p.payload at_ (h.advance at_) side
  rw [htime] at htime'
  rw [hmotion] at hmotion'
  cases harm with
  | cleared hs => exact .cleared hs (by omega)
  | raised ho hs hr =>
    obtain hnone | ⟨-, hm, hsame, hrsame⟩ := hcases
    · exact .cleared (hs.trans (hnone side).1) (by omega)
    · refine .raised ho (by rw [hs, hsame]) (by rw [hr, hrsame]) (by rw [hmotion', hm]) (by omega)
  | appended hread hs hr =>
    rename_i epoch pose
    refine .appended (a := ⟨at_.time, at_.tick, at_.motion, epoch, pose⟩) ⟨host, stamp, newer, age, fault, hread⟩ ?_
      hs hr hmotion' htime'
    obtain hnone | ⟨ht, hm, hsame, hrsame⟩ := hcases
    · simp [(hnone side).2]
    · rw [hsame, hrsame]
      by_cases hepoch : some epoch = h.referenceEpoch side
      · rw [if_neg (not_not.mpr hepoch)]
        exact .inr ⟨rfl, ht, hm, hepoch.symm⟩
      · exact .inl (if_pos hepoch)

/-- **One step.** -/
theorem record_arm (np : Numerics) (cfg : Config) (h : History) (p : Packet) (side : Arm) :
    ArmStep np cfg h p side (h.record np cfg p).1 (h.record np cfg p).2 := by
  unfold History.record
  cases host : p.sameHostClock with
  | false => exact .cleared rfl le_rfl
  | true =>
    simp only [Bool.not_true, Bool.false_eq_true, if_false]
    cases stamp : observationStamp p.payload with
    | error f =>
      cases f with
      | uncaught e => exact .raised rfl rfl rfl rfl le_rfl
      | value text => exact .cleared rfl le_rfl
    | ok at_ =>
      dsimp only
      by_cases newer : at_.time ≤ h.latestTimeNs
      · rw [if_pos newer]
        exact .delayed ⟨host, at_, stamp, newer⟩ rfl
      · rw [if_neg newer]
        rw [not_le] at newer
        cases age : checkAge cfg.staleTimeoutSec p.receivedMonotonic at_.time "stale_server_sample" with
        | error f =>
          cases f with
          | uncaught e => exact .raised rfl rfl rfl rfl le_rfl
          | value text => exact .cleared rfl le_rfl
        | ok u =>
          cases fault : faultLatched p.payload with
          | true =>
            refine .cleared rfl ?_
            show h.latestTimeNs ≤ (h.advance at_).latestTimeNs
            rw [(advance_cases h at_).1.1]
            exact newer.le
          | false => exact recordArms_step side host stamp newer age fault

end PolicyRunner.ServoHistory
