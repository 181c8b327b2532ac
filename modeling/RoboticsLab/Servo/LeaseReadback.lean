import RoboticsLab.Servo.CommandBuffer
import RoboticsLab.Servo.LeaseExclusive
import RoboticsLab.Servo.StopDelivery

/-!
# The lease readback agrees with the lease authority

The lease lives in the server; clients read it back from the command that `latestOrHold` returns.
Lease-admin packets write the lease onto the buffered command, motion packets carry it, reads of an
expired command keep it.  Two writes lose it: a lifecycle command puts a Hold with an empty lease
into the latest slot (`lifecycle_command_hides_lease`), and an external-box command that acquires
the lease (ArmMotion on its other arm) goes to the side slot only.  Away from these, after every
prefix of a run,

    lease unexpired at t, read not served from the lifecycle queue →
      the read at t carries the active lease with the owner's ids and token
                                                            (readbackAgrees_of_readbackSafe)
-/

namespace RbServo

open Runs

/-! ## Server and buffer together -/

structure System where
  server : CommandServer
  buffer : CommandBuffer := {}

/-- The receive thread handles one datagram; the control loop reads. -/
inductive SystemOp
  | receive (m : Packet)
  | latestOrHold (nowNs : Nat)
  | consumeLatestExternalBoxes (nowNs : Nat)

def SystemOp.timeNs : SystemOp → Nat
  | .receive m => m.receiveTimeNs
  | .latestOrHold nowNs => nowNs
  | .consumeLatestExternalBoxes nowNs => nowNs

/-- What `threadMain` does with a parsed command. -/
def threadMainDispatch (b : CommandBuffer) (cmd : DualArmCommand) (receiveTimeNs : Nat) :
    CommandBuffer :=
  let b := if cmd.leaseAdminOnly then updateLease b cmd.lease receiveTimeNs else setCommand b cmd
  if cmd.hasExternalBoxes then noteExternalBoxReceived b receiveTimeNs else b

variable (parse : String → Option Json) (cfg : CommandServerConfig)

def System.step (s : System) : SystemOp → System
  | .receive m =>
    { server := (parseMessage parse cfg s.server m).1
      buffer :=
        match (parseMessage parse cfg s.server m).2 with
        | some cmd => threadMainDispatch s.buffer cmd m.receiveTimeNs
        | none => s.buffer }
  | .latestOrHold nowNs => { s with buffer := (latestOrHold s.buffer nowNs).1 }
  | .consumeLatestExternalBoxes nowNs =>
    { s with buffer := (consumeLatestExternalBoxes s.buffer nowNs {}).1 }

def systemAfter (ops : List SystemOp) : System :=
  ops.foldl (System.step parse cfg) { server := CommandServer.init cfg }

@[simp] theorem systemAfter_concat (ops : List SystemOp) (op : SystemOp) :
    systemAfter parse cfg (ops ++ [op]) = (systemAfter parse cfg ops).step parse cfg op := by
  simp [systemAfter]

/-- The snapshot is active and names the owner and the token of the recorded lease. -/
def Names (snapshot lease : CommandSourceLeaseState) : Prop :=
  snapshot.active = true ∧ snapshot.sourceId = lease.sourceId ∧
    snapshot.sessionId = lease.sessionId ∧ snapshot.leaseToken = lease.leaseToken

/-- The read at `t` is served from the lifecycle queue. -/
def ServedFromQueue (b : CommandBuffer) (t : Nat) : Prop :=
  ∃ command ∈ b.pendingLifecycleCommands, isUsableCommand command t = true

/-- A read at `t` that is no queued lifecycle command shows the unexpired lease. -/
def ReadbackAgrees (s : System) (t : Nat) : Prop :=
  (currentLeaseState cfg s.server t).active = true → ¬ ServedFromQueue s.buffer t →
    Names (s.buffer.read t).lease s.server.activeLease

/-- The step avoids the two lossy writes: an admitted lifecycle command is stored only while no
lease is held and requests none, and an admitted external-box command requests the lease only from
its owner under its token. -/
def ReadbackSafe (s : System) : SystemOp → Prop
  | .receive m => ∀ p, Admitted parse cfg s.server m p → p.releaseLeaseOnly = false →
      p.cmd.leaseAdminOnly = false →
      (isQueuedCommand p.cmd = true → requestsLease p = false ∧
        (currentLeaseState cfg s.server m.receiveTimeNs).active = false) ∧
      (isExternalBoxesCommand p.cmd = true → requestsLease p = true →
        sourceCanOwnActiveLease (currentLeaseState cfg s.server m.receiveTimeNs) p.cmd.source = true ∧
        providedTokenMatches (currentLeaseState cfg s.server m.receiveTimeNs) p.cmd.source = true)
  | _ => True

/-! ## Tokens -/

theorem generatedLeaseToken_ne_empty (source : CommandSourceMetadata) (nowNs counter : Nat) :
    generatedLeaseToken source nowNs counter ≠ "" := by
  intro h
  have hlen := congrArg String.length h
  simp [generatedLeaseToken, String.length_append] at hlen

theorem grantedLease_token_ne_empty (σ : CommandServer) (cmd : DualArmCommand) (nowNs : Nat) :
    (grantedLease cfg σ cmd nowNs).leaseToken ≠ "" := by
  unfold grantedLease
  dsimp only
  split
  · next hempty =>
    split
    · exact generatedLeaseToken_ne_empty _ _ _
    · next hfresh =>
      intro hlease
      rw [currentLeaseState_leaseToken] at hlease
      simp [needsFreshToken, hempty, hlease] at hfresh
  · next hgiven => exact hgiven

/-- A grant to the owner under its token renews the same lease. -/
theorem grantedLease_of_owner {σ : CommandServer} {cmd : DualArmCommand} {t : Nat}
    (htoken : σ.activeLease.leaseToken ≠ "")
    (hown : sourceCanOwnActiveLease (currentLeaseState cfg σ t) cmd.source = true)
    (hmatch : providedTokenMatches (currentLeaseState cfg σ t) cmd.source = true) :
    (grantedLease cfg σ cmd t).sourceId = σ.activeLease.sourceId ∧
      (grantedLease cfg σ cmd t).sessionId = σ.activeLease.sessionId ∧
      (grantedLease cfg σ cmd t).leaseToken = σ.activeLease.leaseToken := by
  simp only [sourceCanOwnActiveLease, Bool.and_eq_true] at hown
  have hsame := hown.2
  simp only [sameSource, currentLeaseState_sourceId, currentLeaseState_sessionId,
    Bool.and_eq_true, decide_eq_true_eq] at hsame
  refine ⟨hsame.1.symm, hsame.2.symm, ?_⟩
  show (if cmd.source.leaseToken = "" then _ else _) = _
  split
  · next hempty =>
    have hfresh : needsFreshToken (currentLeaseState cfg σ t) cmd.source = false := by
      simp [needsFreshToken, hown.2, htoken]
    rw [hfresh, if_neg (by decide), currentLeaseState_leaseToken]
  · next hgiven =>
    simp only [providedTokenMatches, hgiven, hown.1, currentLeaseState_leaseToken, Bool.true_and,
      decide_false, Bool.false_or, decide_eq_true_eq] at hmatch
    exact hmatch

/-! ## The invariant -/

/-- An active lease has a token, and while it is unexpired the latest slot names it. -/
structure ReadbackInv (s : System) (nowNs : Nat) : Prop where
  token : s.server.activeLease.active = true → s.server.activeLease.leaseToken ≠ ""
  slot : (currentLeaseState cfg s.server nowNs).active = true →
    ∃ command, s.buffer.latestCommand = some command ∧ Names command.lease s.server.activeLease

variable {parse cfg}

/-- The invariant keeps as time passes. -/
theorem ReadbackInv.later {s : System} {t t' : Nat} (h : ReadbackInv cfg s t) (ht : t ≤ t') :
    ReadbackInv cfg s t' :=
  ⟨h.token, fun ha => h.slot (currentLeaseState_active_mono cfg s.server ht ha)⟩

theorem ReadbackInv.agrees {s : System} {t : Nat} (h : ReadbackInv cfg s t) : ReadbackAgrees cfg s t := by
  intro ha hqueue
  obtain ⟨command, hl, hnames⟩ := h.slot ha
  have hstep := latestOrHold_step s.buffer t
  generalize (latestOrHold s.buffer t).1 = b' at hstep
  generalize s.buffer.read t = out at hstep ⊢
  cases hstep with
  | lifecycle skipped command rest hq hskip hu =>
    exact absurd ⟨out, by rw [hq]; simp, hu⟩ hqueue
  | empty hskip hnone => rw [hl] at hnone; cases hnone
  | latest c hskip hc hu =>
    obtain rfl : command = out := Option.some.inj (hl.symm.trans hc)
    exact hnames
  | stale c hskip hc hu =>
    obtain rfl : command = c := Option.some.inj (hl.symm.trans hc)
    exact hnames

/-! ## What a dispatch leaves in the latest slot -/

/-- The four writes. -/
theorem threadMainDispatch_latest (b : CommandBuffer) (cmd : DualArmCommand) (t : Nat) :
    (cmd.leaseAdminOnly = false ∧ isQueuedCommand cmd = true) ∨
    (cmd.leaseAdminOnly = false ∧ isExternalBoxesCommand cmd = true ∧
      (threadMainDispatch b cmd t).latestCommand = b.latestCommand) ∨
    ∃ command, (threadMainDispatch b cmd t).latestCommand = some command ∧
      command.lease = cmd.lease := by
  have hnote : ∀ b' : CommandBuffer, (if cmd.hasExternalBoxes then noteExternalBoxReceived b' t
      else b').latestCommand = b'.latestCommand := by
    intro b'
    split <;> rfl
  unfold threadMainDispatch
  dsimp only
  rw [hnote]
  cases hadmin : cmd.leaseAdminOnly with
  | true => exact Or.inr (Or.inr ⟨_, rfl, rfl⟩)
  | false =>
    simp only [Bool.false_eq_true, if_false]
    unfold setCommand isQueuedCommand
    cases hbox : isExternalBoxesCommand cmd with
    | true => simp
    | false =>
      cases hlife : isLifecycleCommand cmd with
      | true => simp
      | false => right; right; exact ⟨cmd, by simp, rfl⟩

/-- **A datagram** outside the two lossy writes keeps the readback. -/
theorem ReadbackInv.receive {s : System} {t : Nat} (h : ReadbackInv cfg s t) (m : Packet)
    (ht : t ≤ m.receiveTimeNs) (hsafe : ReadbackSafe parse cfg s (.receive m)) :
    ReadbackInv cfg (s.step parse cfg (.receive m)) m.receiveTimeNs := by
  have hlater := h.later ht
  have hstep := parseMessage_step parse cfg s.server m
  unfold System.step
  dsimp only
  generalize (parseMessage parse cfg s.server m).1 = σ' at hstep ⊢
  generalize (parseMessage parse cfg s.server m).2 = out at hstep ⊢
  cases hstep with
  | rejected reason => exact ⟨hlater.token, hlater.slot⟩
  | released p hp hr hown =>
    refine ⟨?_, ?_⟩
    · intro ha
      cases ha
    · intro ha
      rw [currentLeaseState_active] at ha
      cases ha.1
  | granted p hp hr hg =>
    refine ⟨fun _ => grantedLease_token_ne_empty cfg _ _ _, fun _ => ?_⟩
    rcases threadMainDispatch_latest s.buffer (grantLease cfg s.server p.cmd m.receiveTimeNs).2
      m.receiveTimeNs with ⟨hadmin, hq⟩ | ⟨hadmin, hbox, hsame⟩ | ⟨command, hl, hlease⟩
    · -- a lifecycle command is not granted anything while no lease is held
      obtain ⟨hreq, hinactive⟩ := (hsafe p hp hr hadmin).1 hq
      simp [grantsLease, hreq, sourceCanOwnActiveLease, hinactive] at hg
    · -- a box command of the owner renews the lease that the slot already names
      have hown : sourceCanOwnActiveLease (currentLeaseState cfg s.server m.receiveTimeNs)
          p.cmd.source = true ∧ providedTokenMatches
          (currentLeaseState cfg s.server m.receiveTimeNs) p.cmd.source = true := by
        cases hreq : requestsLease p with
        | true => exact (hsafe p hp hr hadmin).2 hbox hreq
        | false =>
          simp only [grantsLease, hreq, Bool.false_or, Bool.and_eq_true] at hg
          exact ⟨hg.1.2, hg.2⟩
      have hactive : (currentLeaseState cfg s.server m.receiveTimeNs).active = true := by
        have := hown.1
        simp only [sourceCanOwnActiveLease, Bool.and_eq_true] at this
        exact this.1
      obtain ⟨command, hl, hact, h1, h2, h3⟩ := hlater.slot hactive
      have htoken := h.token ((currentLeaseState_active cfg s.server _).mp hactive).1
      obtain ⟨g1, g2, g3⟩ := grantedLease_of_owner cfg htoken hown.1 hown.2
      exact ⟨command, hsame.trans hl, hact, h1.trans g1.symm, h2.trans g2.symm, h3.trans g3.symm⟩
    · refine ⟨command, hl, ?_⟩
      rw [hlease]
      exact ⟨rfl, rfl, rfl, rfl⟩
  | passed p hp hr hg =>
    refine ⟨hlater.token, fun ha => ?_⟩
    have hactive : (currentLeaseState cfg s.server m.receiveTimeNs).active = true := ha
    rcases threadMainDispatch_latest s.buffer (passLease cfg s.server p.cmd m.receiveTimeNs).2
      m.receiveTimeNs with ⟨hadmin, hq⟩ | ⟨-, -, hsame⟩ | ⟨command, hl, hlease⟩
    · obtain ⟨-, hinactive⟩ := (hsafe p hp hr hadmin).1 hq
      rw [hactive] at hinactive
      cases hinactive
    · obtain ⟨command, hl, hnames⟩ := hlater.slot hactive
      exact ⟨command, hsame.trans hl, hnames⟩
    · refine ⟨command, hl, ?_⟩
      rw [hlease]
      refine ⟨hactive, ?_, ?_, ?_⟩
      · exact currentLeaseState_sourceId cfg s.server _
      · exact currentLeaseState_sessionId cfg s.server _
      · exact currentLeaseState_leaseToken cfg s.server _

/-- **One step.** -/
theorem ReadbackInv.step {s : System} {t : Nat} (h : ReadbackInv cfg s t) (op : SystemOp)
    (ht : t ≤ op.timeNs) (hsafe : ReadbackSafe parse cfg s op) :
    ReadbackInv cfg (s.step parse cfg op) op.timeNs := by
  cases op with
  | receive m => exact h.receive m ht hsafe
  | latestOrHold nowNs =>
    refine ⟨h.token, fun ha => ?_⟩
    show ∃ command, (latestOrHold s.buffer nowNs).1.latestCommand = some command ∧ _
    rw [latestOrHold_latestCommand]
    exact (h.later ht).slot ha
  | consumeLatestExternalBoxes nowNs =>
    refine ⟨h.token, fun ha => ?_⟩
    show ∃ command, (consumeLatestExternalBoxes s.buffer nowNs {}).1.latestCommand = some command ∧ _
    rw [(consumeLatestExternalBoxes_latestCommand s.buffer nowNs {}).1]
    exact (h.later ht).slot ha

variable (parse cfg)

/-- **Whole runs.**  When no step of a run with non-decreasing times is a lossy write, the readback
agrees after every prefix, at any later time. -/
theorem readbackAgrees_of_readbackSafe (ops : List SystemOp) (hclock : Clocked SystemOp.timeNs ops)
    (hsafe : EveryStep (fun pre op => ReadbackSafe parse cfg (systemAfter parse cfg pre) op) ops)
    (pre post : List SystemOp) (hops : ops = pre ++ post) (t : Nat)
    (ht : ∀ op ∈ pre, op.timeNs ≤ t) : ReadbackAgrees cfg (systemAfter parse cfg pre) t := by
  have hpre := (hclock.everyStep.and hsafe).of_append hops
  have hinv : ∃ now, (∀ t, (∀ op ∈ pre, op.timeNs ≤ t) → now ≤ t) ∧
      ReadbackInv cfg (systemAfter parse cfg pre) now := by
    refine hpre.invariant (fun pre => ∃ now, (∀ t, (∀ op ∈ pre, op.timeNs ≤ t) → now ≤ t) ∧
      ReadbackInv cfg (systemAfter parse cfg pre) now) ?_ ?_
    · refine ⟨0, fun t _ => Nat.zero_le t, ?_, ?_⟩
      · intro ha
        cases ha
      · intro ha
        rw [currentLeaseState_active] at ha
        cases ha.1
    · rintro pre op ⟨now, hnow, hinv⟩ ⟨hle, hstep⟩
      refine ⟨op.timeNs, fun t hall => hall op (by simp), ?_⟩
      rw [systemAfter_concat]
      exact hinv.step op (hnow _ hle) hstep
  obtain ⟨now, hnow, hinv⟩ := hinv
  exact (hinv.later (hnow t ht)).agrees

theorem readbackAgrees_of_readbackSafe_sample :
    (currentLeaseState enforcingConfig (systemAfter sampleParse enforcingConfig
      [.receive guiAcquire, .latestOrHold 2]).server 3).active = true ∧
    ReadbackAgrees enforcingConfig (systemAfter sampleParse enforcingConfig
      [.receive guiAcquire, .latestOrHold 2]) 3 := by
  refine ⟨by decide +kernel, ?_⟩
  refine readbackAgrees_of_readbackSafe sampleParse enforcingConfig
    [.receive guiAcquire, .latestOrHold 2] (by unfold Clocked; decide) ?_ _ [] (by simp) 3 (by decide)
  have hadmin : (packetOf sampleParse enforcingConfig guiAcquire).all
      (fun p => p.cmd.leaseAdminOnly) = true := by decide +kernel
  rintro pre op post e
  cases op with
  | receive m =>
    have hm : SystemOp.receive m ∈ [SystemOp.receive guiAcquire, .latestOrHold 2] := by rw [e]; simp
    obtain rfl : m = guiAcquire := by simpa using hm
    intro p hp _ hno
    rw [hp.packet, Option.all_some, hno] at hadmin
    cases hadmin
  | latestOrHold nowNs => trivial
  | consumeLatestExternalBoxes nowNs => trivial

/-! ## The lost readback -/

def guiArm : Packet where
  message := "\x7b\"seq\":1,\"mode\":\"ArmMotion\",\"source_id\":\"gui\",\"session_id\":\"a\"\x7d"
  receiveTimeNs := 1

/-- What the JSON reader returns on the arm request. -/
def armParse (message : String) : Option Json :=
  if message = guiArm.message then
    some (.obj [("seq", .numUnsigned 1), ("mode", .str "ArmMotion"), ("source_id", .str "gui"),
      ("session_id", .str "a")])
  else none

/-- After an ArmMotion is read, the owner reads back a Hold without its lease. -/
theorem lifecycle_command_hides_lease :
    ¬ ∀ (parse : String → Option Json) (cfg : CommandServerConfig) (ops : List SystemOp),
      Clocked SystemOp.timeNs ops → ∀ pre post, ops = pre ++ post →
      ∀ t, (∀ op ∈ pre, op.timeNs ≤ t) → ReadbackAgrees cfg (systemAfter parse cfg pre) t := by
  intro h
  have hread := h armParse enforcingConfig [.receive guiArm, .latestOrHold 2]
    (by unfold Clocked; decide) [.receive guiArm, .latestOrHold 2] [] rfl 3 (by decide)
  have hactive : (currentLeaseState enforcingConfig (systemAfter armParse enforcingConfig
      [.receive guiArm, .latestOrHold 2]).server 3).active = true := by decide +kernel
  have hqueue : (systemAfter armParse enforcingConfig
      [.receive guiArm, .latestOrHold 2]).buffer.pendingLifecycleCommands = [] := by decide +kernel
  have hlost : ((systemAfter armParse enforcingConfig
      [.receive guiArm, .latestOrHold 2]).buffer.read 3).lease.active = false := by decide +kernel
  have hnames := hread hactive (by rintro ⟨c, hc, -⟩; rw [hqueue] at hc; cases hc)
  rw [hnames.1] at hlost
  cases hlost

end RbServo
