import RoboticsLab.Servo.PacketFields

/-!
# `CommandServer::parseMessage` statement by statement

`parseMessage` writes the lease, the token counter, the sequence map, the reject reason and
`*out_command` between its early exits.  `parseMessageStatements` is the function with each write at
its place; run from a server state it is the function of `CommandServer`:

    (parseMessageStatements parse cfg m).run mem = … parseMessage parse cfg mem.server m …
                                                                (parseMessageStatements_run)

and so an early exit leaves everything but the reason as it was (`rejected_packet_changes_nothing`).
-/

namespace RbServo

/-! ## The function with its writes -/

/-- What one call can write: the server and the caller's command (`none` is a null pointer). -/
structure CallMemory where
  server : CommandServer
  outCommand : Option DualArmCommand

def CallMemory.setReason (mem : CallMemory) (reason : String) : CallMemory :=
  { mem with server := mem.server.reject reason }

def CallMemory.setLease (mem : CallMemory) (lease : CommandSourceLeaseState) : CallMemory :=
  { mem with server := { mem.server with activeLease := lease } }

def CallMemory.setCounter (mem : CallMemory) (counter : Nat) : CallMemory :=
  { mem with server := { mem.server with leaseCounter := counter } }

def CallMemory.setSeq (mem : CallMemory) (key : String) (seq : Nat) : CallMemory :=
  { mem with server := { mem.server with
    lastAcceptedSeqBySource := Function.update mem.server.lastAcceptedSeqBySource key (some seq) } }

def CallMemory.setOut (mem : CallMemory) (cmd : DualArmCommand) : CallMemory :=
  { mem with outCommand := some cmd }

/-- The token of the granted lease; a generated one takes `++lease_counter_`. -/
def grantToken (lease : CommandSourceLeaseState) (source : CommandSourceMetadata) (nowNs : Nat) :
    StateM CallMemory String := do
  if source.leaseToken = "" then
    if lease.leaseToken = "" || !sameSource lease source then
      let counter := u64 ((← get).server.leaseCounter + 1)
      modify (·.setCounter counter)
      return generatedLeaseToken source nowNs counter
    else return lease.leaseToken
  else return source.leaseToken

/-- The writes to `active_lease_` when the sender becomes, or stays, the owner. -/
def writeGrant (cfg : CommandServerConfig) (lease : CommandSourceLeaseState) (cmd : DualArmCommand)
    (nowNs : Nat) : StateM CallMemory Unit := do
  let token ← grantToken lease cmd.source nowNs
  let before := (← get).server.activeLease
  let renewed := before.acquiredTimeNs = 0 ∨ lease.active = false ∨ sameSource lease cmd.source = false
  modify (·.setLease { before with
    enforceLease := cfg.enforceLease
    active := true
    commandRequiresLease := requiresLease cmd
    commandHasLease := true
    sourceId := cmd.source.sourceId
    sessionId := cmd.source.sessionId
    leaseToken := token
    acquiredTimeNs := if renewed then nowNs else before.acquiredTimeNs
    expiresTimeNs := addU64 nowNs (timeoutNs cfg.leaseTimeoutSec)
    verdict := "Ok"
    reason := "" })

/-- The three refusals under enforcement: `true` where `parseMessage` returns false. -/
def refuseLease (cfg : CommandServerConfig) (lease : CommandSourceLeaseState) (p : ParsedPacket) :
    StateM CallMemory Bool := do
  let canOwn := sourceCanOwnActiveLease lease p.cmd.source
  let tokenMatches := providedTokenMatches lease p.cmd.source
  if cfg.enforceLease && !isEmergencyStopCommand p.cmd then
    if lease.active && canOwn && !tokenMatches then
      modify (·.setReason "command_source_lease_token_mismatch")
      return true
    if requestsLease p && lease.active && !canOwn then
      modify (·.setReason ("command_source_lease_conflict: active source_id=" ++ lease.sourceId ++
        " session_id=" ++ lease.sessionId))
      return true
    if requiresLease p.cmd && !requestsLease p && !commandHasLease lease p.cmd then
      modify (·.setReason ("command_source_lease_required: active source_id=" ++ lease.sourceId ++
        " session_id=" ++ lease.sessionId))
      return true
  return false

/-- The two last writes of an accepted packet. -/
def acceptCommand (key : String) (cmd : DualArmCommand) : StateM CallMemory Bool := do
  modify (·.setOut cmd)
  modify (·.setSeq key cmd.seq)
  return true

def releaseStatements (cfg : CommandServerConfig) (lease : CommandSourceLeaseState)
    (cmd : DualArmCommand) (nowNs : Nat) : StateM CallMemory Bool := do
  if lease.active && !sourceCanOwnActiveLease lease cmd.source then
    modify (·.setReason ("command_source_lease_release_denied: active source_id=" ++ lease.sourceId ++
      " session_id=" ++ lease.sessionId))
    return false
  modify (·.setLease { enforceLease := cfg.enforceLease })
  let cleared := currentLeaseState cfg (← get).server nowNs
  acceptCommand (sourceKey cmd.source)
    { cmd with lease := { cleared with commandRequiresLease := false, commandHasLease := true } }

def grantStatements (cfg : CommandServerConfig) (lease : CommandSourceLeaseState)
    (cmd : DualArmCommand) (nowNs : Nat) : StateM CallMemory Bool := do
  writeGrant cfg lease cmd nowNs
  let granted := (← get).server.activeLease
  let token := if cmd.source.leaseToken = "" then granted.leaseToken else cmd.source.leaseToken
  acceptCommand (sourceKey cmd.source)
    { cmd with
      lease := { granted with commandRequiresLease := requiresLease cmd, commandHasLease := true }
      source := { cmd.source with leaseToken := token } }

def passStatements (cfg : CommandServerConfig) (lease : CommandSourceLeaseState)
    (cmd : DualArmCommand) (nowNs : Nat) : StateM CallMemory Bool := do
  let now := currentLeaseState cfg (← get).server nowNs
  acceptCommand (sourceKey cmd.source)
    { cmd with lease := { now with
        commandRequiresLease := requiresLease cmd, commandHasLease := commandHasLease lease cmd } }

/-- From the lease checks on, with the lease as it stands at `nowNs`. -/
def leaseStatements (cfg : CommandServerConfig) (lease : CommandSourceLeaseState) (p : ParsedPacket)
    (nowNs : Nat) : StateM CallMemory Bool := do
  if ← refuseLease cfg lease p then return false
  if p.releaseLeaseOnly then releaseStatements cfg lease p.cmd nowNs
  else if grantsLease lease p then grantStatements cfg lease p.cmd nowNs
  else passStatements cfg lease p.cmd nowNs

/-- From the sequence check on. -/
def authorizeStatements (cfg : CommandServerConfig) (p : ParsedPacket) (nowNs : Nat) :
    StateM CallMemory Bool := do
  let server := (← get).server
  if isReplay server p.cmd.source p.cmd.seq then return false
  leaseStatements cfg (currentLeaseState cfg server nowNs) p nowNs

/-- `CommandServer::parseMessage` with its writes in order; the value is what it returns. -/
def parseMessageStatements (parse : String → Option Json) (cfg : CommandServerConfig) (m : Packet) :
    StateM CallMemory Bool := do
  if (← get).outCommand.isNone then return false
  modify (·.setReason "")
  let some json := parse m.message | return false
  let some root := json.isObject | return false
  let some p := parsePacket cfg root m.receiveTimeNs | return false
  if commandUsesTcpPoseTarget p.cmd && !cfg.tcpTargetProfiles.contains p.cmd.tcpTargetProfile then
    modify (·.setReason "unknown_tcp_target_profile")
    return false
  authorizeStatements cfg p m.receiveTimeNs

/-! ## The same function -/

/-- The writes of a grant are the granted lease and the counter. -/
theorem writeGrant_run (cfg : CommandServerConfig) (σ : CommandServer) (cmd : DualArmCommand)
    (nowNs : Nat) (out : Option DualArmCommand) :
    (writeGrant cfg (currentLeaseState cfg σ nowNs) cmd nowNs).run
        { server := σ.reject "", outCommand := out } =
      ((), { server := { σ.reject "" with
              activeLease := grantedLease cfg σ cmd nowNs
              leaseCounter :=
                if needsFreshToken (currentLeaseState cfg σ nowNs) cmd.source then
                  u64 (σ.leaseCounter + 1)
                else σ.leaseCounter }
             outCommand := out }) := by
  unfold writeGrant grantToken grantedLease needsFreshToken
  generalize currentLeaseState cfg σ nowNs = lease
  dsimp only
  by_cases htoken : cmd.source.leaseToken = ""
  · by_cases hnew : (decide (lease.leaseToken = "") || !sameSource lease cmd.source) = true
    · simp only [htoken, hnew, if_true, decide_true, Bool.true_and]
      rfl
    · simp only [htoken, hnew, if_true, if_false, decide_true, Bool.true_and, Bool.false_eq_true]
      rfl
  · simp only [htoken, if_false, decide_false, Bool.false_and, Bool.false_eq_true]
    rfl

/-- A refusal writes its reason; otherwise nothing is written. -/
theorem refuseLease_run (cfg : CommandServerConfig) (lease : CommandSourceLeaseState)
    (p : ParsedPacket) (mem : CallMemory) :
    (refuseLease cfg lease p).run mem =
      match leaseRejection cfg lease p with
      | some reason => (true, mem.setReason reason)
      | none => (false, mem) := by
  unfold refuseLease leaseRejection
  dsimp only
  split
  · split
    · rfl
    · split
      · rfl
      · split
        · rfl
        · rfl
  · rfl

/-- The result of a call in terms of what it was called on. -/
def callResult (out : DualArmCommand) (r : CommandServer × Option DualArmCommand) : Bool × CallMemory :=
  (r.2.isSome, { server := r.1, outCommand := some (r.2.getD out) })

theorem releaseStatements_run (cfg : CommandServerConfig) (σ : CommandServer) (cmd : DualArmCommand)
    (nowNs : Nat) (out : DualArmCommand)
    (hown : ((currentLeaseState cfg σ nowNs).active &&
      !sourceCanOwnActiveLease (currentLeaseState cfg σ nowNs) cmd.source) = false) :
    (releaseStatements cfg (currentLeaseState cfg σ nowNs) cmd nowNs).run
        { server := σ.reject "", outCommand := some out } =
      callResult out ((releaseLease cfg σ cmd).1, some (releaseLease cfg σ cmd).2) := by
  unfold releaseStatements
  rw [hown]
  rfl

theorem grantStatements_run (cfg : CommandServerConfig) (σ : CommandServer) (cmd : DualArmCommand)
    (nowNs : Nat) (out : DualArmCommand) :
    (grantStatements cfg (currentLeaseState cfg σ nowNs) cmd nowNs).run
        { server := σ.reject "", outCommand := some out } =
      callResult out ((grantLease cfg σ cmd nowNs).1, some (grantLease cfg σ cmd nowNs).2) := by
  unfold grantStatements
  rw [StateT.run_bind, writeGrant_run]
  rfl

theorem passStatements_run (cfg : CommandServerConfig) (σ : CommandServer) (cmd : DualArmCommand)
    (nowNs : Nat) (out : DualArmCommand) :
    (passStatements cfg (currentLeaseState cfg σ nowNs) cmd nowNs).run
        { server := σ.reject "", outCommand := some out } =
      callResult out ((passLease cfg σ cmd nowNs).1, some (passLease cfg σ cmd nowNs).2) := rfl

theorem leaseStatements_run (cfg : CommandServerConfig) (p : ParsedPacket) (nowNs : Nat)
    (σ : CommandServer) (out : DualArmCommand) (hfresh : isReplay σ p.cmd.source p.cmd.seq = false) :
    (leaseStatements cfg (currentLeaseState cfg σ nowNs) p nowNs).run
        { server := σ.reject "", outCommand := some out } =
      callResult out (authorize cfg σ p nowNs) := by
  unfold leaseStatements authorize
  rw [StateT.run_bind, refuseLease_run, hfresh, if_neg Bool.false_ne_true]
  dsimp only
  cases hlease : leaseRejection cfg (currentLeaseState cfg σ nowNs) p with
  | some reason => rfl
  | none =>
    show (if p.releaseLeaseOnly = true then _ else _ : StateM CallMemory Bool).run _ = _
    by_cases hrelease : p.releaseLeaseOnly = true
    · rw [if_pos hrelease]
      dsimp only
      rw [if_pos hrelease]
      by_cases hown : ((currentLeaseState cfg σ nowNs).active &&
          !sourceCanOwnActiveLease (currentLeaseState cfg σ nowNs) p.cmd.source) = true
      · rw [if_pos hown]
        unfold releaseStatements
        rw [if_pos hown]
        rfl
      · rw [if_neg hown]
        exact releaseStatements_run cfg σ p.cmd nowNs out (by simpa using hown)
    · rw [if_neg hrelease]
      dsimp only
      rw [if_neg hrelease]
      by_cases hgrant : grantsLease (currentLeaseState cfg σ nowNs) p = true
      · rw [if_pos hgrant, if_pos hgrant]
        exact grantStatements_run cfg σ p.cmd nowNs out
      · rw [if_neg hgrant, if_neg hgrant]
        exact passStatements_run cfg σ p.cmd nowNs out

theorem authorizeStatements_run (cfg : CommandServerConfig) (p : ParsedPacket) (nowNs : Nat)
    (σ : CommandServer) (out : DualArmCommand) :
    (authorizeStatements cfg p nowNs).run { server := σ.reject "", outCommand := some out } =
      callResult out (authorize cfg σ p nowNs) := by
  show (if isReplay σ p.cmd.source p.cmd.seq = true then pure false
    else leaseStatements cfg (currentLeaseState cfg σ nowNs) p nowNs : StateM CallMemory Bool).run _ = _
  by_cases hreplay : isReplay σ p.cmd.source p.cmd.seq = true
  · unfold authorize
    rw [if_pos hreplay, if_pos hreplay]
    rfl
  · rw [if_neg hreplay]
    exact leaseStatements_run cfg p nowNs σ out (by simpa using hreplay)

/-- **The same function.**  Run on a caller's command, the statements do what `parseMessage` says. -/
theorem parseMessageStatements_run (parse : String → Option Json) (cfg : CommandServerConfig)
    (m : Packet) (σ : CommandServer) (out : DualArmCommand) :
    (parseMessageStatements parse cfg m).run { server := σ, outCommand := some out } =
      callResult out (parseMessage parse cfg σ m) := by
  unfold parseMessageStatements parseMessage packetOf
  cases hjson : parse m.message with
  | none => rfl
  | some json =>
    cases hobject : json.isObject with
    | none => simp [hobject]; rfl
    | some root =>
      cases hpacket : parsePacket cfg root m.receiveTimeNs with
      | none => simp [hobject, hpacket]; rfl
      | some p =>
        have hauth := authorizeStatements_run cfg p m.receiveTimeNs σ out
        simp only [Option.bind_eq_bind, Option.bind_some, hobject, hpacket]
        split
        · next hprofile =>
          rw [StateT.run_bind]
          rfl
        · rw [← hauth]
          rfl

/-! ## Rejected packets -/

/-- The lease, the token counter, the sequence map and the caller's command are as they were. -/
structure Untouched (before after : CallMemory) : Prop where
  activeLease : after.server.activeLease = before.server.activeLease
  leaseCounter : after.server.leaseCounter = before.server.leaseCounter
  seqs : after.server.lastAcceptedSeqBySource = before.server.lastAcceptedSeqBySource
  outCommand : after.outCommand = before.outCommand

/-- The sequence map changed at the sender's key alone, to the packet's `seq`. -/
def RecordsSender (parse : String → Option Json) (m : Packet) (before after : CommandServer) : Prop :=
  ∃ root source seq, parse m.message = some (.obj root) ∧
    root.lookup "seq" = some (.numUnsigned seq) ∧
    readOptionalString root "source_id" "" = some source.sourceId ∧
    readOptionalString root "session_id" "" = some source.sessionId ∧
    after.lastAcceptedSeqBySource =
      Function.update before.lastAcceptedSeqBySource (sourceKey source) (some seq)

/-- The object and the packet behind a datagram that reads well. -/
theorem packetOf_eq_some {parse : String → Option Json} {cfg : CommandServerConfig} {m : Packet}
    {p : ParsedPacket} (h : packetOf parse cfg m = some p) :
    ∃ root, parse m.message = some (.obj root) ∧ parsePacket cfg root m.receiveTimeNs = some p := by
  simp only [packetOf, Option.bind_eq_bind, Option.bind_eq_some_iff] at h
  obtain ⟨root, ⟨json, hjson, hobject⟩, hpacket⟩ := h
  refine ⟨root, ?_, hpacket⟩
  cases json with
  | obj members =>
    cases hobject
    exact hjson
  | _ => simp [Json.isObject] at hobject

theorem recordsSender_of_accept {parse : String → Option Json} {cfg : CommandServerConfig} {m : Packet}
    {p : ParsedPacket} {σ σ' : CommandServer} (hpacket : packetOf parse cfg m = some p)
    (hseqs : σ'.lastAcceptedSeqBySource = (σ.accept p.cmd).lastAcceptedSeqBySource) :
    RecordsSender parse m σ σ' := by
  obtain ⟨root, hjson, hparse⟩ := packetOf_eq_some hpacket
  obtain ⟨hseq, hsid, hses⟩ := parsePacket_sender hparse
  exact ⟨root, p.cmd.source, p.cmd.seq, hjson, hseq, hsid, hses, hseqs⟩

/-- A call that returns false leaves everything but the reject reason alone, and one that returns
true moves the sequence map at the sender's key only. -/
theorem rejected_packet_changes_nothing (parse : String → Option Json) (cfg : CommandServerConfig)
    (m : Packet) (mem : CallMemory) :
    (((parseMessageStatements parse cfg m).run mem).1 = false →
      Untouched mem ((parseMessageStatements parse cfg m).run mem).2) ∧
    (((parseMessageStatements parse cfg m).run mem).1 = true →
      RecordsSender parse m mem.server ((parseMessageStatements parse cfg m).run mem).2.server) := by
  obtain ⟨σ, out⟩ := mem
  cases out with
  | none =>
    -- a null pointer: the call returns before it writes anything
    constructor
    · intro _
      exact ⟨rfl, rfl, rfl, rfl⟩
    · intro h
      cases h
  | some out =>
    rw [parseMessageStatements_run]
    have hstep := parseMessage_step parse cfg σ m
    generalize parseMessage parse cfg σ m = r at hstep
    obtain ⟨σ', answer⟩ := r
    constructor
    · intro hfalse
      cases hstep with
      | rejected reason => exact ⟨rfl, rfl, rfl, rfl⟩
      | released | granted | passed => cases hfalse
    · intro htrue
      cases hstep with
      | rejected => cases htrue
      | released p hp => exact recordsSender_of_accept hp.packet rfl
      | granted p hp => exact recordsSender_of_accept hp.packet rfl
      | passed p hp => exact recordsSender_of_accept hp.packet rfl

end RbServo
