import RoboticsLab.Servo.CommandBuffer

/-!
# Deadman of the command buffer

A motion command that a read returns is within its own timeout and is the latest one: nothing but
external boxes was stored after it, so lease updates, lifecycle commands and box traffic never
bring an expired or superseded one back.  The exception is a command that mixes a motion mode with
a lifecycle mode on the other arm: it travels through the lifecycle queue
(`mixed_command_is_queued`), where later commands do not replace it.  The timeout is the product
with 1e9 that the double arithmetic gives, which may be above the exact one (`timeout_rounds_up`).

    EveryStep (reads of a motion command satisfy MotionReturn) ops     (motionReturn_of_fitsClock)
-/

namespace RbServo

open Runs

def isMotionMode : ControlMode → Bool
  | .jointTarget | .tcpPoseTarget | .tcpLinearMove => true
  | _ => false

def isMotionCommand (command : DualArmCommand) : Bool :=
  isMotionMode command.left.mode || isMotionMode command.right.mode

/-- `now <= host_time_ns + min(left.timeout, right.timeout) * 1e9`, with the product of doubles. -/
def WithinTimeout (command : DualArmCommand) (nowNs : Nat) : Prop :=
  ∃ l r t : ℚ, command.left.timeoutSec = .fin l ∧ command.right.timeoutSec = .fin r ∧
    Double.ofRat (min l r * 1000000000) = .fin t ∧ (nowNs : ℚ) ≤ command.hostTimeNs + t

/-- The same in exact arithmetic. -/
def WithinExactTimeout (command : DualArmCommand) (nowNs : Nat) : Prop :=
  ∃ l r : ℚ, command.left.timeoutSec = .fin l ∧ command.right.timeoutSec = .fin r ∧
    (nowNs : ℚ) ≤ command.hostTimeNs + min l r * 1000000000

/-- The command carries a receive time, and its deadline fits in 64 bits. -/
def FitsClock (command : DualArmCommand) : Prop :=
  command.hostTimeNs ≠ 0 ∧ ∀ l r : ℚ, command.left.timeoutSec = .fin l →
    command.right.timeoutSec = .fin r →
    ∃ t : ℚ, Double.ofRat (min l r * 1000000000) = .fin t ∧ (command.hostTimeNs : ℚ) + t < 2 ^ 64

/-- `command` is, up to its lease snapshot, the most recent stored command that is neither a
lifecycle nor an external-box command, and no lifecycle command was stored after it. -/
def Current (ops : List BufferOp) (command : DualArmCommand) : Prop :=
  ∃ before stored after, ops = before ++ .setCommand stored :: after ∧
    command = { stored with lease := command.lease } ∧ isExternalBoxesCommand stored = false ∧
    isLifecycleCommand stored = false ∧
    ∀ later, .setCommand later ∈ after → isExternalBoxesCommand later = true

/-- What is known of a motion command that a read at `nowNs` returns after `ops`. -/
structure MotionReturn (ops : List BufferOp) (command : DualArmCommand) (nowNs : Nat) : Prop where
  within : WithinTimeout command nowNs
  current : isLifecycleCommand command = false → Current ops command
  queued : isLifecycleCommand command = true →
    .setCommand command ∈ ops ∧ isExternalBoxesCommand command = false

/-! ## The timeout check -/

theorem fin_of_validTimeout {x : Double} (h : validTimeout x = true) : ∃ q, x = .fin q ∧ 0 < q := by
  cases x with
  | fin q => exact ⟨q, rfl, by simpa [validTimeout, Double.lt, Double.isFinite] using h⟩
  | nan => simp [validTimeout, Double.isFinite] at h
  | posInf => simp [validTimeout, Double.isFinite] at h
  | negInf => simp [validTimeout, Double.isFinite] at h

theorem Double.min_fin (l r : ℚ) : Double.min (.fin l) (.fin r) = .fin (min l r) := by
  unfold Double.min Double.lt
  by_cases h : r < l
  · simp [h, min_eq_right h.le]
  · simp [h, min_eq_left (not_lt.mp h)]

/-- A usable command with a receive time is within its timeout. -/
theorem withinTimeout_of_usable {command : DualArmCommand} {nowNs : Nat}
    (hu : isUsableCommand command nowNs = true) (hfit : FitsClock command) :
    WithinTimeout command nowNs := by
  unfold isUsableCommand at hu
  split at hu
  · cases hu
  · next hvalid =>
    simp only [Bool.or_eq_true, Bool.not_eq_true', not_or, Bool.not_eq_false] at hvalid
    obtain ⟨l, hl, hl0⟩ := fin_of_validTimeout hvalid.1
    obtain ⟨r, hr, hr0⟩ := fin_of_validTimeout hvalid.2
    obtain ⟨t, ht, hlt⟩ := hfit.2 l r hl hr
    have hpos : (0 : ℚ) ≤ min l r * 1000000000 := by
      have := le_min hl0.le hr0.le
      positivity
    have hns : commandTimeoutNs command = (Double.fin t).toU64 := by
      unfold commandTimeoutNs
      rw [hl, hr, Double.min_fin, Double.mul, Double.round, ht]
    have hle : (commandTimeoutNs command : ℚ) ≤ t := by
      rw [hns]
      exact Double.toU64_fin_le (Double.nonneg_of_ofRat hpos ht)
    have hsum : command.hostTimeNs + commandTimeoutNs command < 2 ^ 64 := by
      have hq : ((command.hostTimeNs + commandTimeoutNs command : ℕ) : ℚ) < 2 ^ 64 := by
        push_cast
        linarith
      exact_mod_cast hq
    simp only [Bool.or_eq_true, decide_eq_true_eq] at hu
    rcases hu with h0 | hnow
    · exact absurd h0 hfit.1
    · rw [addU64, u64_of_lt hsum] at hnow
      refine ⟨l, r, t, hl, hr, ht, ?_⟩
      have hq : (nowNs : ℚ) ≤ ((command.hostTimeNs + commandTimeoutNs command : ℕ) : ℚ) := by
        exact_mod_cast hnow
      push_cast at hq
      linarith

/-! ## What the slots hold -/

/-- The motion command in the latest slot is current, and the queue holds stored commands. -/
structure DeadmanInv (ops : List BufferOp) (b : CommandBuffer) : Prop where
  latest : ∀ command, b.latestCommand = some command → isMotionCommand command = true →
    isLifecycleCommand command = false ∧ Current ops command
  queued : ∀ command ∈ b.pendingLifecycleCommands,
    .setCommand command ∈ ops ∧ isExternalBoxesCommand command = false ∧
      isLifecycleCommand command = true

/-- The command stays current through anything but a store of another motion or lifecycle command. -/
theorem Current.concat {ops : List BufferOp} {command : DualArmCommand} (h : Current ops command)
    {op : BufferOp} (hop : ∀ later, op = .setCommand later → isExternalBoxesCommand later = true) :
    Current (ops ++ [op]) command := by
  obtain ⟨before, stored, after, rfl, heq, hbox, hlife, hafter⟩ := h
  refine ⟨before, stored, after ++ [op], by simp, heq, hbox, hlife, ?_⟩
  intro later hlater
  rcases List.mem_append.mp hlater with hlater | hlater
  · exact hafter later hlater
  · exact hop later (List.mem_singleton.mp hlater).symm

theorem Current.relabel {ops : List BufferOp} {command : DualArmCommand} (h : Current ops command)
    (lease : CommandSourceLeaseState) : Current ops { command with lease := lease } := by
  obtain ⟨before, stored, after, hops, heq, hrest⟩ := h
  exact ⟨before, stored, after, hops, by rw [heq], hrest⟩

theorem DeadmanInv.setCommand {ops : List BufferOp} {b : CommandBuffer} (h : DeadmanInv ops b)
    (command : DualArmCommand) :
    DeadmanInv (ops ++ [.setCommand command]) (RbServo.setCommand b command) := by
  have hqueued : ∀ c ∈ b.pendingLifecycleCommands,
      BufferOp.setCommand c ∈ ops ++ [.setCommand command] ∧ isExternalBoxesCommand c = false ∧
        isLifecycleCommand c = true :=
    fun c hc => ⟨List.mem_append_left _ (h.queued c hc).1, (h.queued c hc).2⟩
  unfold RbServo.setCommand
  split
  · next hbox =>
    refine ⟨fun c hc hm => ⟨(h.latest c hc hm).1, (h.latest c hc hm).2.concat ?_⟩, hqueued⟩
    rintro later e
    cases e
    exact hbox
  · next hbox =>
    rw [Bool.not_eq_true] at hbox
    split
    · next hlife =>
      refine ⟨fun c hc hm => ?_, fun c hc => ?_⟩
      · cases hc
        cases hm
      · rcases List.mem_append.mp hc with hc | hc
        · exact hqueued c ((Fifo.kept_suffix _ _).subset hc)
        · rw [List.mem_singleton.mp hc]
          exact ⟨by simp, hbox, hlife⟩
    · next hlife =>
      rw [Bool.not_eq_true] at hlife
      refine ⟨fun c hc _ => ?_, hqueued⟩
      cases hc
      exact ⟨hlife, ops, command, [], rfl, rfl, hbox, hlife, by simp⟩

theorem DeadmanInv.updateLease {ops : List BufferOp} {b : CommandBuffer} (h : DeadmanInv ops b)
    (lease : CommandSourceLeaseState) (nowNs : Nat) :
    DeadmanInv (ops ++ [.updateLease lease nowNs]) (RbServo.updateLease b lease nowNs) := by
  refine ⟨?_, fun c hc => ⟨List.mem_append_left _ (h.queued c hc).1, (h.queued c hc).2⟩⟩
  intro c hc hm
  unfold RbServo.updateLease at hc
  dsimp only at hc
  rw [Option.some.injEq] at hc
  subst hc
  cases hl : b.latestCommand with
  | none => rw [hl] at hm; cases hm
  | some command =>
    rw [hl] at hm
    dsimp only at hm ⊢
    split
    · next hu =>
      rw [if_pos hu] at hm
      have hold := h.latest command hl hm
      exact ⟨hold.1, (hold.2.relabel lease).concat (by rintro later e; cases e)⟩
    · next hu =>
      rw [if_neg hu] at hm
      cases hm

/-- An operation that stores nothing keeps the slots' origin. -/
theorem DeadmanInv.frame {ops : List BufferOp} {b b' : CommandBuffer} (h : DeadmanInv ops b)
    {op : BufferOp} (hop : ∀ later, op ≠ .setCommand later)
    (hlatest : b'.latestCommand = b.latestCommand)
    (hqueue : b'.pendingLifecycleCommands ⊆ b.pendingLifecycleCommands) :
    DeadmanInv (ops ++ [op]) b' := by
  refine ⟨fun c hc hm => ?_, fun c hc => ?_⟩
  · rw [hlatest] at hc
    exact ⟨(h.latest c hc hm).1,
      (h.latest c hc hm).2.concat fun later e => absurd e (hop later)⟩
  · have hold := h.queued c (hqueue hc)
    exact ⟨List.mem_append_left _ hold.1, hold.2⟩

/-- **One step** keeps the origin of the slots. -/
theorem DeadmanInv.step {ops : List BufferOp} {b : CommandBuffer} (h : DeadmanInv ops b)
    (op : BufferOp) : DeadmanInv (ops ++ [op]) (b.step op) := by
  cases op with
  | setCommand command => exact h.setCommand command
  | updateLease lease nowNs => exact h.updateLease lease nowNs
  | noteExternalBoxReceived t =>
    exact h.frame (by intro later e; cases e) rfl (List.Subset.refl _)
  | latestOrHold nowNs =>
    refine h.frame (by intro later e; cases e) (latestOrHold_latestCommand b nowNs) ?_
    show (latestOrHold b nowNs).1.pendingLifecycleCommands ⊆ b.pendingLifecycleCommands
    rw [(latestOrHold_queue b nowNs).1]
    exact (Fifo.take_suffix _ _).subset
  | consumeLatestExternalBoxes nowNs =>
    have hkeep := consumeLatestExternalBoxes_latestCommand b nowNs {}
    refine h.frame (by intro later e; cases e) hkeep.1 ?_
    show (consumeLatestExternalBoxes b nowNs {}).1.pendingLifecycleCommands ⊆ _
    rw [hkeep.2]
    exact List.Subset.refl _

theorem deadmanInv_bufferAfter (ops : List BufferOp) : DeadmanInv ops (bufferAfter ops) := by
  induction ops using List.reverseRecOn with
  | nil =>
    refine ⟨fun c hc => ?_, fun c hc => ?_⟩
    · cases hc
    · cases hc
  | append_singleton ops op ih =>
    rw [bufferAfter_concat]
    exact ih.step op

/-- What a read of a buffer with known origins returns. -/
theorem DeadmanInv.read {ops : List BufferOp} {b : CommandBuffer} (h : DeadmanInv ops b)
    (hfit : ∀ c, .setCommand c ∈ ops → FitsClock c) (nowNs : Nat)
    (hm : isMotionCommand (b.read nowNs) = true) : MotionReturn ops (b.read nowNs) nowNs := by
  have hstep := latestOrHold_step b nowNs
  generalize (latestOrHold b nowNs).1 = b' at hstep
  generalize b.read nowNs = out at hstep hm ⊢
  cases hstep with
  | lifecycle skipped command rest hq hskip hu =>
    have hmem : out ∈ b.pendingLifecycleCommands := by rw [hq]; simp
    obtain ⟨hstored, hbox, hlife⟩ := h.queued out hmem
    refine ⟨withinTimeout_of_usable hu (hfit out hstored), fun hno => ?_, fun _ => ⟨hstored, hbox⟩⟩
    rw [hlife] at hno
    cases hno
  | empty hskip hl => cases hm
  | latest command hskip hl hu =>
    obtain ⟨hlife, hcur⟩ := h.latest out hl hm
    refine ⟨?_, fun _ => hcur, fun hyes => ?_⟩
    · obtain ⟨before, stored, after, hops, heq, -⟩ := hcur
      have hf := hfit stored (by rw [hops]; simp)
      rw [heq] at hu ⊢
      exact withinTimeout_of_usable hu hf
    · rw [hlife] at hyes
      cases hyes
  | stale command hskip hl hu => cases hm

/-- **Whole runs.**  Every motion command that a read returns is within its timeout; it is the
current one, or it also has a lifecycle mode and comes from the lifecycle queue. -/
theorem motionReturn_of_fitsClock (ops : List BufferOp)
    (hfit : ∀ c, .setCommand c ∈ ops → FitsClock c) :
    EveryStep (fun pre op => ∀ nowNs, op = .latestOrHold nowNs →
      isMotionCommand ((bufferAfter pre).read nowNs) = true →
      MotionReturn pre ((bufferAfter pre).read nowNs) nowNs) ops := by
  rintro pre op post rfl nowNs - hm
  exact (deadmanInv_bufferAfter pre).read
    (fun c hc => hfit c (List.mem_append_left _ hc)) nowNs hm

def jointTargetAt (hostTimeNs : Nat) : DualArmCommand :=
  { hostTimeNs := hostTimeNs
    left := { mode := .jointTarget }
    right := { armId := .right, mode := .jointTarget } }

theorem fitsClock_of_timeout {command : DualArmCommand} {q : ℚ} {n : ℕ} (h0 : command.hostTimeNs ≠ 0)
    (hl : command.left.timeoutSec = .fin q) (hr : command.right.timeoutSec = .fin q)
    (hn : Double.ofRat (q * 1000000000) = .fin n) (hlt : command.hostTimeNs + n < 2 ^ 64) :
    FitsClock command := by
  refine ⟨h0, fun l r el er => ⟨n, ?_, by exact_mod_cast hlt⟩⟩
  rw [hl] at el
  rw [hr] at er
  cases el
  cases er
  rw [min_self, hn]

theorem fitsClock_of_default {command : DualArmCommand} (h0 : command.hostTimeNs ≠ 0)
    (h : command.hostTimeNs < 2 ^ 63) (hl : command.left.timeoutSec = .ofRat (1 / 5))
    (hr : command.right.timeoutSec = .ofRat (1 / 5)) : FitsClock command := by
  have hfifth : Double.ofRat (1 / 5) = .fin (Binary64.nearest (1 / 5)) := by decide +kernel
  rw [hfifth] at hl hr
  exact fitsClock_of_timeout (n := 200000000) h0 hl hr (by decide +kernel) (by omega)

theorem motionReturn_of_fitsClock_sample :
    MotionReturn [.setCommand (jointTargetAt 1), .updateLease { active := true } 2]
      { jointTargetAt 1 with lease := { active := true } } 3 := by
  have hfit : ∀ c, BufferOp.setCommand c ∈ [BufferOp.setCommand (jointTargetAt 1),
      .updateLease { active := true } 2, .latestOrHold 3] → FitsClock c := by
    intro c hc
    obtain rfl : c = jointTargetAt 1 := by simpa using hc
    exact fitsClock_of_default (by decide) (by decide) rfl rfl
  have hread : (bufferAfter [.setCommand (jointTargetAt 1), .updateLease { active := true } 2]).read 3
      = { jointTargetAt 1 with lease := { active := true } } := by decide +kernel
  have hrun := motionReturn_of_fitsClock _ hfit
    [.setCommand (jointTargetAt 1), .updateLease { active := true } 2] (.latestOrHold 3) [] rfl 3 rfl
  rw [hread] at hrun
  exact hrun rfl

/-! ## Mixed commands -/

def armAndJointTarget : DualArmCommand :=
  { hostTimeNs := 1
    left := { mode := .armMotion }
    right := { armId := .right, mode := .jointTarget } }

def BufferOp.readTimeNs : BufferOp → Option Nat
  | .latestOrHold nowNs => some nowNs
  | _ => none

/-- What holds of every motion command that a read returns, in runs with times in order. -/
def EveryMotionRead (P : List BufferOp → DualArmCommand → Nat → Prop) : Prop :=
  ∀ ops : List BufferOp, (ops.filterMap BufferOp.readTimeNs).Pairwise (· ≤ ·) →
    (∀ c, .setCommand c ∈ ops → FitsClock c) →
    EveryStep (fun pre op => ∀ nowNs, op = .latestOrHold nowNs →
      isMotionCommand ((bufferAfter pre).read nowNs) = true →
      P pre ((bufferAfter pre).read nowNs) nowNs) ops

/-- ArmMotion beside JointTarget: the read returns a motion command that is no current one. -/
theorem mixed_command_is_queued : ¬EveryMotionRead fun pre command _ => Current pre command := by
  intro h
  have hfit : ∀ c, BufferOp.setCommand c ∈ [BufferOp.setCommand armAndJointTarget,
      .latestOrHold 2] → FitsClock c := by
    intro c hc
    obtain rfl : c = armAndJointTarget := by simpa using hc
    exact fitsClock_of_default (by decide) (by decide) rfl rfl
  have hread : (bufferAfter [.setCommand armAndJointTarget]).read 2 = armAndJointTarget := by
    decide +kernel
  have hrun := h _ (by decide) hfit [.setCommand armAndJointTarget]
    (.latestOrHold 2) [] rfl 2 rfl
  rw [hread] at hrun
  obtain ⟨before, stored, after, hops, heq, -, hlife, -⟩ := hrun rfl
  have hsame : stored.left.mode = .armMotion := by
    have := congrArg (fun c : DualArmCommand => c.left.mode) heq
    exact this.symm
  simp [isLifecycleCommand, hsame, isLifecycleMode] at hlife

/-! ## Timeouts that round up -/

/-- The double of 0.3. -/
def threeTenths : ℚ := 5404319552844595 / 2 ^ 54

def jointTargetWithin (timeoutSec : ℚ) : DualArmCommand :=
  { hostTimeNs := 1
    left := { mode := .jointTarget, timeoutSec := .fin timeoutSec }
    right := { armId := .right, mode := .jointTarget, timeoutSec := .fin timeoutSec } }

/-- A timeout of 0.3 s is a little less than 300000000 ns, and the command is returned at 300000000. -/
theorem timeout_rounds_up : ¬EveryMotionRead fun _ command nowNs => WithinExactTimeout command nowNs := by
  intro h
  have hfit : ∀ c, BufferOp.setCommand c ∈ [BufferOp.setCommand (jointTargetWithin threeTenths),
      .latestOrHold 300000001] → FitsClock c := by
    intro c hc
    obtain rfl : c = jointTargetWithin threeTenths := by simpa using hc
    exact fitsClock_of_timeout (n := 300000000) (by decide) rfl rfl (by decide +kernel) (by decide)
  have hread : (bufferAfter [.setCommand (jointTargetWithin threeTenths)]).read 300000001 =
      jointTargetWithin threeTenths := by
    decide +kernel
  have hrun := h _ (by decide) hfit [.setCommand (jointTargetWithin threeTenths)]
    (.latestOrHold 300000001) [] rfl 300000001 rfl
  rw [hread] at hrun
  obtain ⟨l, r, hl, hr, hnow⟩ := hrun rfl
  cases hl
  cases hr
  norm_num [threeTenths, jointTargetWithin] at hnow

theorem deadman_exceptions :
    (¬EveryMotionRead fun pre command _ => Current pre command) ∧
      ¬EveryMotionRead fun _ command nowNs => WithinExactTimeout command nowNs :=
  ⟨mixed_command_is_queued, timeout_rounds_up⟩

end RbServo
