import RoboticsLab.Preview.AuthorityRuns

/-!
# The stopping clock is never renewed

Once a brake runs, no further stop, contact, expiry, backlog or recovery touches its origin or its
translational trajectory: up to the common-frame shifts they are what they were when the brake began,
until a reset or a fault (which raise `epoch`) or an admission (which raises `accepted`).  A halted
executor admits nothing, and it reports the end of its stop only after a dispatched sample of that
brake, at or past its end, has been accepted.

    StoppingClock sp bk s₀ pre mid                                             (run_stoppingClock)
-/

namespace RbServo.LivePreviewExecution

open Gauge Authority

variable {K G B F : Type*} [Field K] [LinearOrder K] [FloorSemiring K] [Group G] [DecidableEq G]
variable {sp : MotionSpace K G} {bk : PreviewBrake K G B} {s s' : LivePreviewExecution K G B}

/-- Stopping or recovering. -/
def halted (s : LivePreviewExecution K G B) : Bool := s.stopping || s.recovering

/-- What has been dispatched in the epoch was accepted by a call of the run. -/
theorem dispatched_run (h : s.authority.Started) (h0 : s.authority.dispatched = none) (ops : List (LiveOp K G F))
    {x : ℕ × K} (hx : (run sp bk s ops).authority.dispatched = some x) :
    ∃ p op q tx, ops = p ++ op :: q ∧ AcceptsDispatch sp (run sp bk s p) op tx ∧
      (run sp bk s ops).epoch = tx.epoch ∧ x = (tx.planId, tx.sampleTimeSec) := by
  induction ops using List.reverseRecOn with
  | nil => exact absurd (h0.symm.trans hx) (by simp)
  | append_singleton ops op ih =>
    rw [run_concat] at hx ⊢
    have hs : (run sp bk s ops).authority.Started := (change_run h ops).started
    obtain ⟨he, hold | ⟨tx, htx, rfl⟩⟩ := dispatched_apply hs op hx
    · obtain ⟨p, op', q, tx, rfl, htx, hepoch, rfl⟩ := ih hold
      exact ⟨p, op', q ++ [op], tx, by simp, htx, he.trans hepoch, rfl⟩
    · refine ⟨ops, op, [], tx, by simp, htx, ?_, rfl⟩
      obtain ⟨tx, _, _, _, _, hepoch, _⟩ := htx
      exact he.trans hepoch.symm

omit [FloorSemiring K] [Group G] [DecidableEq G] in
/-- The end of a stop has been dispatched: the last accepted sample is one of the brake, past its end. -/
theorem terminalAccepted_spec (h : s.terminalAccepted bk) :
    ∃ b, s.brakeTrajectory = some b ∧
      s.authority.dispatched = some (s.brakePlanId, s.acceptedSampleTimeSec) ∧
      b.durationSec bk ≤ s.acceptedSampleTimeSec - s.brakeOriginSec := by
  unfold terminalAccepted at h
  split at h
  · simp at h
  · next b hb =>
    simp only [Bool.and_eq_true, decide_eq_true_eq] at h
    obtain ⟨⟨⟨he, hid⟩, -⟩, hd⟩ := h
    refine ⟨b, hb, ?_, hd⟩
    simp [authority, he, hid]

/-- The clock of a brake over the run `mid` that follows the run `pre`. -/
structure StoppingClock (sp : MotionSpace K G) (bk : PreviewBrake K G B) (s₀ : LivePreviewExecution K G B)
    (pre mid : List (LiveOp K G F)) : Prop where
  /-- The origin stays, and the trajectory up to the folds, until the next reset, fault or admission. -/
  clock : ∀ b, (run sp bk s₀ pre).brakeTrajectory = some b →
    (run sp bk s₀ (pre ++ mid)).epoch = (run sp bk s₀ pre).epoch →
    (run sp bk s₀ (pre ++ mid)).accepted = (run sp bk s₀ pre).accepted →
    (run sp bk s₀ (pre ++ mid)).brakeTrajectory = some (b.shiftCommonFrame (foldsOf mid)) ∧
      (run sp bk s₀ (pre ++ mid)).brakeOriginSec = (run sp bk s₀ pre).brakeOriginSec
  /-- A halted executor admits nothing until the next reset or fault. -/
  noAdmission : (run sp bk s₀ pre).halted → (run sp bk s₀ (pre ++ mid)).epoch = (run sp bk s₀ pre).epoch →
    (run sp bk s₀ (pre ++ mid)).accepted = (run sp bk s₀ pre).accepted ∧ (run sp bk s₀ (pre ++ mid)).halted
  /-- The end of a stop is reported only after a sample of that brake, past its end, was accepted. -/
  dispatched : (run sp bk s₀ pre).stopComplete bk ∨ (run sp bk s₀ pre).recoveryStopped bk →
    ∃ b p op q tx, (run sp bk s₀ pre).brakeTrajectory = some b ∧ pre = p ++ op :: q ∧
      AcceptsDispatch sp (run sp bk s₀ p) op tx ∧ tx.epoch = (run sp bk s₀ pre).epoch ∧
      tx.planId = (run sp bk s₀ pre).brakePlanId ∧
      b.durationSec bk ≤ tx.sampleTimeSec - (run sp bk s₀ pre).brakeOriginSec
  /-- Every reset and every fault of a braking or halted executor raises the epoch. -/
  resets : (run sp bk s₀ pre).brakeTrajectory.isSome ∨ (run sp bk s₀ pre).halted → ∀ reason,
    ((run sp bk s₀ pre).reset reason).epoch = (run sp bk s₀ pre).epoch + 1 ∧
      ((run sp bk s₀ pre).fail reason).epoch = (run sp bk s₀ pre).epoch + 1

omit [FloorSemiring K] [DecidableEq G] in
theorem reset_epoch (h : s.live) (reason : String) :
    (s.reset reason).epoch = s.epoch + 1 ∧ (s.fail reason).epoch = s.epoch + 1 := by
  have h1 : (s.reset reason).epoch = s.epoch + 1 := if_pos h
  exact ⟨h1, h1⟩

/-- **Every run of the executor**, whatever the planner and the brake calculator return. -/
theorem run_stoppingClock (sp : MotionSpace K G) (bk : PreviewBrake K G B) (config : LivePreviewConfig K)
    (cursor : PreviewExecutionCursor K) (pre mid : List (LiveOp K G F)) :
    StoppingClock sp bk (create config cursor) pre mid := by
  have h0 : (create config cursor : LivePreviewExecution K G B).authority.Started := started_create config cursor
  have hs : (run sp bk (create config cursor) pre).authority.Started := (change_run h0 pre).started
  have hc : Change (foldsOf mid) (run sp bk (create config cursor) pre).authority
      (run sp bk (create config cursor) (pre ++ mid)).authority := change_append pre mid hs
  constructor
  · intro b hb he ha
    obtain ⟨b', hb', ht, ho⟩ := hc.brake he ha _ (authority_brake hb)
    obtain ⟨b'', h1, rfl⟩ := Option.map_eq_some_iff.mp hb'
    exact ⟨h1.trans (congrArg some ht), ho⟩
  · intro hh he
    exact (hc.halted he hh).symm
  · intro h
    have hterm : (run sp bk (create config cursor) pre).terminalAccepted bk := by
      rcases h with h | h
      · exact (Bool.and_eq_true_iff.mp h).2
      · exact (Bool.and_eq_true_iff.mp h).2
    obtain ⟨b, hb, hx, hd⟩ := terminalAccepted_spec hterm
    obtain ⟨p, op, q, tx, hpre, htx, hepoch, hid⟩ := dispatched_run h0 rfl pre hx
    obtain ⟨hid, htime⟩ := Prod.mk.inj hid
    exact ⟨b, p, op, q, tx, hb, hpre, htx, hepoch.symm, hid.symm, htime ▸ hd⟩
  · intro h reason
    apply reset_epoch
    have hi : (run sp bk (create config cursor) pre).initialized := by
      apply hs
      rcases h with hb | hh
      · right
        simpa [authority] using hb
      · left
        exact hh
    simp [live, hi]

end RbServo.LivePreviewExecution
