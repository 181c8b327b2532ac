import RoboticsLab.Lib.Runs
import RoboticsLab.Servo.CommandParse

/-!
# `rb_servo/network/command_server.cpp`: replay check and command-source lease

`parseMessage` is the source's function over an arbitrary JSON reader `parse` (`nlohmann::json::parse`
is third-party code): the fields are read by `parsePacket`, then `authorize` checks the sequence
number and the lease and updates the server.  `ServerStep` says everything one call can do:

* `rejected`: nothing but the reject reason changes;
* `released`: the lease is cleared (`ReleaseLease`);
* `granted`: the sender becomes, or stays, the owner;
* `passed`: the packet is accepted and the lease is left alone.

    ServerStep parse cfg σ m (parseMessage parse cfg σ m).1 (parseMessage parse cfg σ m).2
                                                                          (parseMessage_step)
-/

namespace RbServo

/-! ## State -/

structure CommandServer where
  lastAcceptedSeqBySource : String → Option Nat := fun _ => none
  activeLease : CommandSourceLeaseState := {}
  leaseCounter : Nat := 0
  lastRejectReason : String := ""

def CommandServer.init (cfg : CommandServerConfig) : CommandServer :=
  { activeLease := { enforceLease := cfg.enforceLease } }

/-- The ids that name a command source. -/
def CommandSourceMetadata.pair (source : CommandSourceMetadata) : String × String :=
  (source.sourceId, source.sessionId)

/-- A datagram and the time it was received at. -/
structure Packet where
  message : String
  receiveTimeNs : Nat

/-! ## Algorithm -/

def sourceKey (source : CommandSourceMetadata) : String :=
  if source.sourceId = "" ∧ source.sessionId = "" then "__legacy__"
  else source.sourceId ++ "\n" ++ source.sessionId

def sameSource (lease : CommandSourceLeaseState) (source : CommandSourceMetadata) : Bool :=
  lease.sourceId = source.sourceId && lease.sessionId = source.sessionId

def timeoutNs (timeoutSec : Double) : Nat :=
  if timeoutSec.le (.fin 0) || !timeoutSec.isFinite then 0
  else (timeoutSec.mul (.fin 1000000000)).round.toU64

/-- `std::hex` of an unsigned integer. -/
def hexText (n : Nat) : String := String.ofList (Nat.toDigits 16 n)

def generatedLeaseToken (source : CommandSourceMetadata) (nowNs counter : Nat) : String :=
  "lease-" ++ hexText nowNs ++ "-" ++ hexText counter ++
    (if source.sourceId = "" then "" else "-" ++ source.sourceId)

/-- The active lease as it stands at `nowNs`: an expired one is reported inactive. -/
def currentLeaseState (cfg : CommandServerConfig) (σ : CommandServer) (nowNs : Nat) :
    CommandSourceLeaseState :=
  let lease := { σ.activeLease with enforceLease := cfg.enforceLease }
  if lease.active && decide (0 < lease.expiresTimeNs) && decide (lease.expiresTimeNs < nowNs) then
    { lease with active := false, verdict := "Expired", reason := "command source lease expired" }
  else lease

def sourceCanOwnActiveLease (lease : CommandSourceLeaseState) (source : CommandSourceMetadata) :
    Bool := lease.active && sameSource lease source

def providedTokenMatches (lease : CommandSourceLeaseState) (source : CommandSourceMetadata) :
    Bool := source.leaseToken = "" || (lease.active && source.leaseToken = lease.leaseToken)

def requestsLease (p : ParsedPacket) : Bool :=
  p.acquireLeaseOnly || p.cmd.left.mode = .armMotion || p.cmd.right.mode = .armMotion

def requiresLease (cmd : DualArmCommand) : Bool :=
  !isEmergencyStopCommand cmd && dualCommandRequiresLease cmd

def commandHasLease (lease : CommandSourceLeaseState) (cmd : DualArmCommand) : Bool :=
  !requiresLease cmd ||
    (sourceCanOwnActiveLease lease cmd.source && providedTokenMatches lease cmd.source)

/-- The three refusals under enforcement; an EmergencyStop on either arm skips them. -/
def leaseRejection (cfg : CommandServerConfig) (lease : CommandSourceLeaseState)
    (p : ParsedPacket) : Option String :=
  if cfg.enforceLease && !isEmergencyStopCommand p.cmd then
    if lease.active && sourceCanOwnActiveLease lease p.cmd.source &&
        !providedTokenMatches lease p.cmd.source then
      some "command_source_lease_token_mismatch"
    else if requestsLease p && lease.active && !sourceCanOwnActiveLease lease p.cmd.source then
      some ("command_source_lease_conflict: active source_id=" ++ lease.sourceId ++
        " session_id=" ++ lease.sessionId)
    else if requiresLease p.cmd && !requestsLease p && !commandHasLease lease p.cmd then
      some ("command_source_lease_required: active source_id=" ++ lease.sourceId ++
        " session_id=" ++ lease.sessionId)
    else none
  else none

def needsFreshToken (lease : CommandSourceLeaseState) (source : CommandSourceMetadata) : Bool :=
  source.leaseToken = "" && (lease.leaseToken = "" || !sameSource lease source)

/-- The lease the sender holds after a request or a refresh. -/
def grantedLease (cfg : CommandServerConfig) (σ : CommandServer) (cmd : DualArmCommand)
    (nowNs : Nat) : CommandSourceLeaseState :=
  let lease := currentLeaseState cfg σ nowNs
  { enforceLease := cfg.enforceLease
    active := true
    commandRequiresLease := requiresLease cmd
    commandHasLease := true
    sourceId := cmd.source.sourceId
    sessionId := cmd.source.sessionId
    leaseToken :=
      if cmd.source.leaseToken = "" then
        if needsFreshToken lease cmd.source then
          generatedLeaseToken cmd.source nowNs (u64 (σ.leaseCounter + 1))
        else lease.leaseToken
      else cmd.source.leaseToken
    acquiredTimeNs :=
      if σ.activeLease.acquiredTimeNs = 0 ∨ lease.active = false ∨ sameSource lease cmd.source = false
      then nowNs else σ.activeLease.acquiredTimeNs
    expiresTimeNs := addU64 nowNs (timeoutNs cfg.leaseTimeoutSec)
    verdict := "Ok"
    reason := "" }

/-- The lease changes hands or is refreshed. -/
def grantsLease (lease : CommandSourceLeaseState) (p : ParsedPacket) : Bool :=
  requestsLease p || (requiresLease p.cmd && sourceCanOwnActiveLease lease p.cmd.source &&
    providedTokenMatches lease p.cmd.source)

/-- The sequence check: a seq not above the last accepted one of its key is a replay. -/
def isReplay (σ : CommandServer) (source : CommandSourceMetadata) (seq : Nat) : Bool :=
  (σ.lastAcceptedSeqBySource (sourceKey source)).any (seq ≤ ·)

/-- Record the accepted seq under the sender's key. -/
def CommandServer.accept (σ : CommandServer) (cmd : DualArmCommand) : CommandServer :=
  { σ with
    lastAcceptedSeqBySource :=
      Function.update σ.lastAcceptedSeqBySource (sourceKey cmd.source) (some cmd.seq)
    lastRejectReason := "" }

def CommandServer.reject (σ : CommandServer) (reason : String) : CommandServer :=
  { σ with lastRejectReason := reason }

def releaseLease (cfg : CommandServerConfig) (σ : CommandServer) (cmd : DualArmCommand) :
    CommandServer × DualArmCommand :=
  let σ' := { σ.accept cmd with activeLease := { enforceLease := cfg.enforceLease } }
  (σ', { cmd with
    lease := { enforceLease := cfg.enforceLease, commandRequiresLease := false,
               commandHasLease := true } })

def grantLease (cfg : CommandServerConfig) (σ : CommandServer) (cmd : DualArmCommand)
    (nowNs : Nat) : CommandServer × DualArmCommand :=
  let lease := currentLeaseState cfg σ nowNs
  let granted := grantedLease cfg σ cmd nowNs
  let counter := if needsFreshToken lease cmd.source then u64 (σ.leaseCounter + 1) else σ.leaseCounter
  ({ σ.accept cmd with activeLease := granted, leaseCounter := counter },
   { cmd with
     lease := { granted with commandRequiresLease := requiresLease cmd, commandHasLease := true }
     source := { cmd.source with
       leaseToken :=
         if cmd.source.leaseToken = "" then granted.leaseToken else cmd.source.leaseToken } })

def passLease (cfg : CommandServerConfig) (σ : CommandServer) (cmd : DualArmCommand)
    (nowNs : Nat) : CommandServer × DualArmCommand :=
  let lease := currentLeaseState cfg σ nowNs
  (σ.accept cmd,
   { cmd with
     lease := { lease with
       commandRequiresLease := requiresLease cmd, commandHasLease := commandHasLease lease cmd } })

/-- `parseMessage` from the sequence check on. -/
def authorize (cfg : CommandServerConfig) (σ : CommandServer) (p : ParsedPacket) (nowNs : Nat) :
    CommandServer × Option DualArmCommand :=
  if isReplay σ p.cmd.source p.cmd.seq then (σ.reject "", none)
  else
    let lease := currentLeaseState cfg σ nowNs
    match leaseRejection cfg lease p with
    | some reason => (σ.reject reason, none)
    | none =>
      if p.releaseLeaseOnly then
        if lease.active && !sourceCanOwnActiveLease lease p.cmd.source then
          (σ.reject ("command_source_lease_release_denied: active source_id=" ++ lease.sourceId ++
            " session_id=" ++ lease.sessionId), none)
        else ((releaseLease cfg σ p.cmd).1, some (releaseLease cfg σ p.cmd).2)
      else if grantsLease lease p then
        ((grantLease cfg σ p.cmd nowNs).1, some (grantLease cfg σ p.cmd nowNs).2)
      else ((passLease cfg σ p.cmd nowNs).1, some (passLease cfg σ p.cmd nowNs).2)

variable (parse : String → Option Json) (cfg : CommandServerConfig)

/-- The packet the datagram carries, when every field reads well. -/
def packetOf (m : Packet) : Option ParsedPacket :=
  parse m.message >>= Json.isObject >>= fun root => parsePacket cfg root m.receiveTimeNs

/-- `CommandServer::parseMessage`: the new state, and the command when it returns `true`. -/
def parseMessage (σ : CommandServer) (m : Packet) : CommandServer × Option DualArmCommand :=
  match packetOf parse cfg m with
  | none => (σ.reject "", none)
  | some p =>
    if commandUsesTcpPoseTarget p.cmd && !cfg.tcpTargetProfiles.contains p.cmd.tcpTargetProfile then
      (σ.reject "unknown_tcp_target_profile", none)
    else authorize cfg σ p m.receiveTimeNs

/-- The server after a run of datagrams. -/
def serverAfter (ms : List Packet) : CommandServer :=
  ms.foldl (fun σ m => (parseMessage parse cfg σ m).1) (CommandServer.init cfg)

@[simp] theorem serverAfter_concat (ms : List Packet) (m : Packet) :
    serverAfter parse cfg (ms ++ [m]) = (parseMessage parse cfg (serverAfter parse cfg ms) m).1 := by
  simp [serverAfter]

/-- The commands a run of datagrams is answered with, in order. -/
def acceptedFrom : CommandServer → List Packet → List DualArmCommand
  | _, [] => []
  | σ, m :: ms => (parseMessage parse cfg σ m).2.toList ++ acceptedFrom (parseMessage parse cfg σ m).1 ms

def accepted (ms : List Packet) : List DualArmCommand :=
  acceptedFrom parse cfg (CommandServer.init cfg) ms

theorem accepted_concat (ms : List Packet) (m : Packet) :
    accepted parse cfg (ms ++ [m]) =
      accepted parse cfg ms ++ (parseMessage parse cfg (serverAfter parse cfg ms) m).2.toList := by
  unfold accepted serverAfter
  generalize CommandServer.init cfg = σ
  induction ms generalizing σ with
  | nil => simp [acceptedFrom]
  | cons m' ms ih =>
    rw [List.cons_append, acceptedFrom, acceptedFrom, ih, List.foldl_cons, List.append_assoc]

/-! ## What one call can do -/

/-- The datagram passes every check that stands before the lease is touched. -/
structure Admitted (σ : CommandServer) (m : Packet) (p : ParsedPacket) : Prop where
  packet : packetOf parse cfg m = some p
  profile : (commandUsesTcpPoseTarget p.cmd &&
    !cfg.tcpTargetProfiles.contains p.cmd.tcpTargetProfile) = false
  fresh : isReplay σ p.cmd.source p.cmd.seq = false
  lease : leaseRejection cfg (currentLeaseState cfg σ m.receiveTimeNs) p = none

inductive ServerStep (σ : CommandServer) (m : Packet) : CommandServer → Option DualArmCommand → Prop
  | rejected (reason : String) : ServerStep σ m (σ.reject reason) none
  | released (p : ParsedPacket) (hp : Admitted parse cfg σ m p) (hr : p.releaseLeaseOnly = true)
      (hown : (currentLeaseState cfg σ m.receiveTimeNs).active = true →
        sameSource (currentLeaseState cfg σ m.receiveTimeNs) p.cmd.source = true) :
      ServerStep σ m (releaseLease cfg σ p.cmd).1 (some (releaseLease cfg σ p.cmd).2)
  | granted (p : ParsedPacket) (hp : Admitted parse cfg σ m p) (hr : p.releaseLeaseOnly = false)
      (hg : grantsLease (currentLeaseState cfg σ m.receiveTimeNs) p = true) :
      ServerStep σ m (grantLease cfg σ p.cmd m.receiveTimeNs).1
        (some (grantLease cfg σ p.cmd m.receiveTimeNs).2)
  | passed (p : ParsedPacket) (hp : Admitted parse cfg σ m p) (hr : p.releaseLeaseOnly = false)
      (hg : grantsLease (currentLeaseState cfg σ m.receiveTimeNs) p = false) :
      ServerStep σ m (passLease cfg σ p.cmd m.receiveTimeNs).1
        (some (passLease cfg σ p.cmd m.receiveTimeNs).2)

/-- **One call.**  Every behaviour of `parseMessage` is one of the four. -/
theorem parseMessage_step (σ : CommandServer) (m : Packet) :
    ServerStep parse cfg σ m (parseMessage parse cfg σ m).1 (parseMessage parse cfg σ m).2 := by
  unfold parseMessage
  split
  · exact .rejected ""
  · next p hp =>
    split
    · exact .rejected _
    · next hprofile =>
      rw [Bool.not_eq_true] at hprofile
      unfold authorize
      split
      · exact .rejected ""
      · next hseq =>
        rw [Bool.not_eq_true] at hseq
        simp only
        split
        · exact .rejected _
        · next hrej =>
          have hadm : Admitted parse cfg σ m p := ⟨hp, hprofile, hseq, hrej⟩
          split
          · next hr =>
            split
            · exact .rejected _
            · next hden =>
              refine .released p hadm hr fun ha => ?_
              simpa [ha, sourceCanOwnActiveLease] using hden
          · next hr =>
            rw [Bool.not_eq_true] at hr
            split
            · next hg => exact .granted p hadm hr hg
            · next hg => exact .passed p hadm hr (by simpa using hg)

/-- What the call does with an admitted datagram. -/
theorem parseMessage_of_admitted {σ : CommandServer} {m : Packet} {p : ParsedPacket}
    (hp : Admitted parse cfg σ m p) :
    (p.releaseLeaseOnly = true →
      ((currentLeaseState cfg σ m.receiveTimeNs).active = true →
        sameSource (currentLeaseState cfg σ m.receiveTimeNs) p.cmd.source = true) →
      parseMessage parse cfg σ m =
        ((releaseLease cfg σ p.cmd).1, some (releaseLease cfg σ p.cmd).2)) ∧
    (p.releaseLeaseOnly = false →
      grantsLease (currentLeaseState cfg σ m.receiveTimeNs) p = true →
      parseMessage parse cfg σ m =
        ((grantLease cfg σ p.cmd m.receiveTimeNs).1,
          some (grantLease cfg σ p.cmd m.receiveTimeNs).2)) := by
  have heq : parseMessage parse cfg σ m = authorize cfg σ p m.receiveTimeNs := by
    unfold parseMessage
    rw [hp.packet]
    simp only [hp.profile, Bool.false_eq_true, if_false]
  rw [heq]
  unfold authorize
  simp only [hp.fresh, hp.lease, Bool.false_eq_true, if_false]
  refine ⟨fun hr hown => ?_, fun hr hg => ?_⟩
  · rw [if_pos hr, if_neg]
    simpa [sourceCanOwnActiveLease] using fun ha => ⟨ha, hown ha⟩
  · simp [hr, hg]

/-- An accepted command comes from the datagram's packet, is no replay, and its number is recorded
under its sender's key; a refused datagram records nothing. -/
theorem parseMessage_seqs (σ : CommandServer) (m : Packet) :
    ((parseMessage parse cfg σ m).2 = none ∧
      (parseMessage parse cfg σ m).1.lastAcceptedSeqBySource = σ.lastAcceptedSeqBySource) ∨
    ∃ p cmd, packetOf parse cfg m = some p ∧ (parseMessage parse cfg σ m).2 = some cmd ∧
      cmd.source.pair = p.cmd.source.pair ∧ isReplay σ cmd.source cmd.seq = false ∧
      (parseMessage parse cfg σ m).1.lastAcceptedSeqBySource =
        Function.update σ.lastAcceptedSeqBySource (sourceKey cmd.source) (some cmd.seq) := by
  have hstep := parseMessage_step parse cfg σ m
  generalize (parseMessage parse cfg σ m).1 = σ' at hstep ⊢
  generalize (parseMessage parse cfg σ m).2 = out at hstep ⊢
  cases hstep with
  | rejected reason => exact Or.inl ⟨rfl, rfl⟩
  | released p hp => exact Or.inr ⟨p, _, hp.packet, rfl, rfl, hp.fresh, rfl⟩
  | granted p hp => exact Or.inr ⟨p, _, hp.packet, rfl, rfl, hp.fresh, rfl⟩
  | passed p hp => exact Or.inr ⟨p, _, hp.packet, rfl, rfl, hp.fresh, rfl⟩

/-! ## Expiry -/

theorem currentLeaseState_active (σ : CommandServer) (nowNs : Nat) :
    (currentLeaseState cfg σ nowNs).active = true ↔
      σ.activeLease.active = true ∧ ¬ (0 < σ.activeLease.expiresTimeNs ∧
        σ.activeLease.expiresTimeNs < nowNs) := by
  unfold currentLeaseState
  dsimp only
  split
  · next h =>
    simp only [Bool.and_eq_true, decide_eq_true_eq] at h
    simp [h.1.2, h.2]
  · next h =>
    simp only [Bool.and_eq_true, decide_eq_true_eq] at h
    constructor
    · intro ha; exact ⟨ha, fun he => h ⟨⟨ha, he.1⟩, he.2⟩⟩
    · intro ha; exact ha.1

/-- A lease that is active at some time was active before. -/
theorem currentLeaseState_active_mono (σ : CommandServer) {t t' : Nat} (h : t ≤ t')
    (ha : (currentLeaseState cfg σ t').active = true) : (currentLeaseState cfg σ t).active = true := by
  rw [currentLeaseState_active] at ha ⊢
  refine ⟨ha.1, fun he => ha.2 ⟨he.1, by omega⟩⟩

@[simp] theorem currentLeaseState_sourceId (σ : CommandServer) (nowNs : Nat) :
    (currentLeaseState cfg σ nowNs).sourceId = σ.activeLease.sourceId := by
  unfold currentLeaseState; dsimp only; split <;> rfl

@[simp] theorem currentLeaseState_sessionId (σ : CommandServer) (nowNs : Nat) :
    (currentLeaseState cfg σ nowNs).sessionId = σ.activeLease.sessionId := by
  unfold currentLeaseState; dsimp only; split <;> rfl

@[simp] theorem currentLeaseState_leaseToken (σ : CommandServer) (nowNs : Nat) :
    (currentLeaseState cfg σ nowNs).leaseToken = σ.activeLease.leaseToken := by
  unfold currentLeaseState; dsimp only; split <;> rfl

end RbServo
