import RoboticsLab.Servo.CommandServer

/-!
# Who owns the command-source lease

Under enforcement a held lease should leave its owner only through the owner's own `ReleaseLease`.
The refusals that guarantee this are skipped for a packet with EmergencyStop on either arm, while
the branch that hands the lease out is not: such a packet with a lease request beside the stop (an
`AcquireLease` packet, or ArmMotion on the other arm) takes the lease from its owner
(`stop_packet_takes_lease`).  Also, a `ReleaseLease` packet that carries a motion mode is accepted
as a lease-bound command while it clears the lease.

    EveryStep LeaseExclusive ms ↔ EveryStep LeaseSafe ms              (leaseExclusive_iff_leaseSafe)
-/

namespace RbServo

open Runs

/-- `(source_id, session_id)` of the recorded lease, while it is marked active. -/
def CommandServer.owner (σ : CommandServer) : Option (String × String) :=
  if σ.activeLease.active then some (σ.activeLease.sourceId, σ.activeLease.sessionId) else none

variable (parse : String → Option Json) (cfg : CommandServerConfig)

/-- The datagram is a `ReleaseLease` of `owner` that the server accepts. -/
def AcceptedRelease (σ : CommandServer) (m : Packet) (owner : Option (String × String)) : Prop :=
  ∃ p, packetOf parse cfg m = some p ∧ p.releaseLeaseOnly = true ∧
    owner = some p.cmd.source.pair ∧ (parseMessage parse cfg σ m).2.isSome

/-- One call keeps the lease with its owner: an unexpired lease changes hands only by the owner's
accepted release, and an accepted lease-bound command comes from the owner recorded after it. -/
def LeaseExclusive (σ : CommandServer) (m : Packet) : Prop :=
  ((currentLeaseState cfg σ m.receiveTimeNs).active = true →
    (parseMessage parse cfg σ m).1.owner ≠ σ.owner → AcceptedRelease parse cfg σ m σ.owner) ∧
  ∀ cmd, (parseMessage parse cfg σ m).2 = some cmd → dualCommandRequiresLease cmd = true →
    isEmergencyStopCommand cmd = false →
    (parseMessage parse cfg σ m).1.owner = some cmd.source.pair

/-- The datagram does not reach the two gaps: while a lease is unexpired, an admitted stop packet
that also requests the lease comes from its owner; and an admitted `ReleaseLease` packet, from the
owner or with no lease unexpired, carries no lease-bound mode. -/
def LeaseSafe (σ : CommandServer) (m : Packet) : Prop :=
  ∀ p, Admitted parse cfg σ m p →
    ((currentLeaseState cfg σ m.receiveTimeNs).active = true → p.releaseLeaseOnly = false →
      isEmergencyStopCommand p.cmd = true → requestsLease p = true →
      σ.owner = some p.cmd.source.pair) ∧
    (p.releaseLeaseOnly = true →
      ((currentLeaseState cfg σ m.receiveTimeNs).active = true → σ.owner = some p.cmd.source.pair) →
      dualCommandRequiresLease p.cmd = true → isEmergencyStopCommand p.cmd = true)

/-! ## Lemmas -/

theorem sameSource_iff (lease : CommandSourceLeaseState) (source : CommandSourceMetadata) :
    sameSource lease source = true ↔ (lease.sourceId, lease.sessionId) = source.pair := by
  simp [sameSource, CommandSourceMetadata.pair]

theorem owner_of_active {σ : CommandServer} {t : Nat}
    (h : (currentLeaseState cfg σ t).active = true) :
    σ.owner = some ((currentLeaseState cfg σ t).sourceId, (currentLeaseState cfg σ t).sessionId) := by
  rw [currentLeaseState_active] at h
  simp [CommandServer.owner, h.1]

@[simp] theorem owner_reject (σ : CommandServer) (reason : String) :
    (σ.reject reason).owner = σ.owner := rfl

@[simp] theorem owner_grantLease (σ : CommandServer) (cmd : DualArmCommand) (t : Nat) :
    (grantLease cfg σ cmd t).1.owner = some cmd.source.pair := rfl

@[simp] theorem owner_passLease (σ : CommandServer) (cmd : DualArmCommand) (t : Nat) :
    (passLease cfg σ cmd t).1.owner = σ.owner := rfl

/-- Without a stop, the enforced refusals leave a request only to the owner of a live lease. -/
theorem owner_of_request {σ : CommandServer} {p : ParsedPacket} {t : Nat}
    (henf : cfg.enforceLease = true) (hstop : isEmergencyStopCommand p.cmd = false)
    (hrej : leaseRejection cfg (currentLeaseState cfg σ t) p = none)
    (hreq : requestsLease p = true) (ha : (currentLeaseState cfg σ t).active = true) :
    σ.owner = some p.cmd.source.pair := by
  rw [owner_of_active cfg ha, Option.some.injEq, ← sameSource_iff]
  by_contra hne
  rw [Bool.not_eq_true] at hne
  simp [leaseRejection, henf, hstop, sourceCanOwnActiveLease, hne, ha, hreq] at hrej

/-- Without a request, they leave a lease-bound command only to the owner. -/
theorem owner_of_required {σ : CommandServer} {p : ParsedPacket} {t : Nat}
    (henf : cfg.enforceLease = true) (hstop : isEmergencyStopCommand p.cmd = false)
    (hrej : leaseRejection cfg (currentLeaseState cfg σ t) p = none)
    (hreq : requestsLease p = false) (hdual : dualCommandRequiresLease p.cmd = true) :
    (currentLeaseState cfg σ t).active = true ∧ σ.owner = some p.cmd.source.pair := by
  have hlease : commandHasLease (currentLeaseState cfg σ t) p.cmd = true := by
    by_contra hno
    rw [Bool.not_eq_true] at hno
    unfold leaseRejection at hrej
    split_ifs at hrej <;> simp_all [requiresLease]
  simp only [commandHasLease, requiresLease, hstop, hdual, Bool.not_false, Bool.and_true,
    Bool.not_true, Bool.false_or, Bool.and_eq_true, sourceCanOwnActiveLease] at hlease
  refine ⟨hlease.1.1, ?_⟩
  rw [owner_of_active cfg hlease.1.1, Option.some.injEq, ← sameSource_iff]
  exact hlease.1.2

/-- The sender of the datagram is the owner of the unexpired lease. -/
theorem owner_eq_iff_sameSource {σ : CommandServer} {t : Nat} (source : CommandSourceMetadata)
    (ha : (currentLeaseState cfg σ t).active = true) :
    σ.owner = some source.pair ↔ sameSource (currentLeaseState cfg σ t) source = true := by
  rw [owner_of_active cfg ha, Option.some.injEq, sameSource_iff]

/-- The owner after a grant is the owner before it, when there was one. -/
theorem owner_of_grant {σ : CommandServer} {m : Packet} {p : ParsedPacket}
    (henf : cfg.enforceLease = true) (hsafe : LeaseSafe parse cfg σ m)
    (hp : Admitted parse cfg σ m p) (hr : p.releaseLeaseOnly = false)
    (hg : grantsLease (currentLeaseState cfg σ m.receiveTimeNs) p = true)
    (ha : (currentLeaseState cfg σ m.receiveTimeNs).active = true) :
    σ.owner = some p.cmd.source.pair := by
  cases hreq : requestsLease p with
  | true =>
    cases hstop : isEmergencyStopCommand p.cmd with
    | true => exact (hsafe p hp).1 ha hr hstop hreq
    | false => exact owner_of_request cfg henf hstop hp.lease hreq ha
  | false =>
    simp only [grantsLease, hreq, Bool.false_or, Bool.and_eq_true, sourceCanOwnActiveLease] at hg
    rw [owner_eq_iff_sameSource cfg p.cmd.source ha]
    exact hg.1.2.2

/-- **One step.**  A datagram outside the two gaps keeps the lease exclusive. -/
theorem leaseExclusive_step (henf : cfg.enforceLease = true) (σ : CommandServer) (m : Packet)
    (hsafe : LeaseSafe parse cfg σ m) : LeaseExclusive parse cfg σ m := by
  have hstep := parseMessage_step parse cfg σ m
  have hacc : ∀ p, packetOf parse cfg m = some p → p.releaseLeaseOnly = true →
      σ.owner = some p.cmd.source.pair → (parseMessage parse cfg σ m).2.isSome →
      AcceptedRelease parse cfg σ m σ.owner := fun p h1 h2 h3 h4 => ⟨p, h1, h2, h3, h4⟩
  revert hacc
  unfold LeaseExclusive
  generalize (parseMessage parse cfg σ m).1 = σ' at hstep ⊢
  generalize (parseMessage parse cfg σ m).2 = out at hstep ⊢
  intro hacc
  cases hstep with
  | rejected reason => exact ⟨fun _ hne => absurd rfl hne, fun cmd h => by cases h⟩
  | released p hp hr hown =>
    have howner : (currentLeaseState cfg σ m.receiveTimeNs).active = true →
        σ.owner = some p.cmd.source.pair :=
      fun ha => (owner_eq_iff_sameSource cfg p.cmd.source ha).mpr (hown ha)
    refine ⟨fun ha _ => hacc p hp.packet hr (howner ha) rfl, ?_⟩
    rintro cmd h hdual hstop
    cases h
    have hstop' : isEmergencyStopCommand p.cmd = false := hstop
    rw [(hsafe p hp).2 hr howner hdual] at hstop'
    cases hstop'
  | granted p hp hr hg =>
    refine ⟨fun ha hne => absurd ?_ hne, ?_⟩
    · rw [owner_grantLease, owner_of_grant parse cfg henf hsafe hp hr hg ha]
    · rintro cmd h - -
      cases h
      rfl
  | passed p hp hr hg =>
    refine ⟨fun _ hne => absurd rfl hne, ?_⟩
    rintro cmd h hdual hstop
    cases h
    have hreq : requestsLease p = false := by
      simp only [grantsLease, Bool.or_eq_false_iff] at hg
      exact hg.1
    exact (owner_of_required cfg henf hstop hp.lease hreq hdual).2

/-- A datagram in one of the gaps breaks exclusivity. -/
theorem leaseSafe_of_leaseExclusive (σ : CommandServer) (m : Packet)
    (h : LeaseExclusive parse cfg σ m) : LeaseSafe parse cfg σ m := by
  intro p hp
  obtain ⟨hkeep, hbound⟩ := h
  obtain ⟨hrelease, hgrant⟩ := parseMessage_of_admitted parse cfg hp
  refine ⟨fun ha hr _ hreq => ?_, fun hr howner hdual => ?_⟩
  · have hg : grantsLease (currentLeaseState cfg σ m.receiveTimeNs) p = true := by
      simp [grantsLease, hreq]
    by_contra hne
    have howner : (parseMessage parse cfg σ m).1.owner = some p.cmd.source.pair := by
      rw [hgrant hr hg]
      rfl
    obtain ⟨q, hq, hqr, -, -⟩ := hkeep ha (by rw [howner]; exact Ne.symm hne)
    obtain rfl : p = q := Option.some.inj (hp.packet.symm.trans hq)
    rw [hr] at hqr
    cases hqr
  · by_contra hstop
    have hout := hrelease hr fun ha => (owner_eq_iff_sameSource cfg p.cmd.source ha).mp (howner ha)
    have hstop' : isEmergencyStopCommand p.cmd = false := by simpa using hstop
    rw [hout] at hbound
    have hnone := hbound _ rfl hdual hstop'
    cases hnone

/-- **Whole runs.**  The lease is exclusive at every step of a run, whatever the receive times,
exactly when every datagram of it stays outside the two gaps. -/
theorem leaseExclusive_iff_leaseSafe (henf : cfg.enforceLease = true) (ms : List Packet) :
    EveryStep (fun pre m => LeaseExclusive parse cfg (serverAfter parse cfg pre) m) ms ↔
      EveryStep (fun pre m => LeaseSafe parse cfg (serverAfter parse cfg pre) m) ms := by
  constructor
  · intro h
    exact h.imp fun pre m => leaseSafe_of_leaseExclusive parse cfg (serverAfter parse cfg pre) m
  · intro h
    exact h.imp fun pre m => leaseExclusive_step parse cfg henf (serverAfter parse cfg pre) m

/-! ## The gap -/

def guiAcquire : Packet where
  message := "\x7b\"seq\":1,\"mode\":\"AcquireLease\",\"source_id\":\"gui\",\"session_id\":\"a\"\x7d"
  receiveTimeNs := 1

def policyStopAndArm : Packet where
  message := "\x7b\"seq\":1,\"source_id\":\"policy\",\"session_id\":\"b\"," ++
    "\"left\":\x7b\"mode\":\"EmergencyStop\"\x7d,\"right\":\x7b\"mode\":\"ArmMotion\"\x7d\x7d"
  receiveTimeNs := 2

def policyStop : Packet where
  message := "\x7b\"seq\":1,\"mode\":\"EmergencyStop\",\"source_id\":\"policy\",\"session_id\":\"b\"\x7d"
  receiveTimeNs := 2

/-- What the JSON reader returns on the three sample datagrams. -/
def sampleParse (message : String) : Option Json :=
  [(guiAcquire.message, Json.obj [("seq", .numUnsigned 1), ("mode", .str "AcquireLease"),
      ("source_id", .str "gui"), ("session_id", .str "a")]),
   (policyStopAndArm.message, Json.obj [("seq", .numUnsigned 1), ("source_id", .str "policy"),
      ("session_id", .str "b"), ("left", .obj [("mode", .str "EmergencyStop")]),
      ("right", .obj [("mode", .str "ArmMotion")])]),
   (policyStop.message, Json.obj [("seq", .numUnsigned 1), ("mode", .str "EmergencyStop"),
      ("source_id", .str "policy"), ("session_id", .str "b")])].lookup message

def enforcingConfig : CommandServerConfig := { enforceLease := true }

/-- A foreign packet with EmergencyStop on one arm and ArmMotion on the other takes a live lease. -/
theorem stop_packet_takes_lease :
    ¬ ∀ (parse : String → Option Json) (cfg : CommandServerConfig) (ms : List Packet),
      cfg.enforceLease = true → Clocked Packet.receiveTimeNs ms →
      EveryStep (fun pre m => LeaseExclusive parse cfg (serverAfter parse cfg pre) m) ms := by
  intro h
  have hrun := h sampleParse enforcingConfig [guiAcquire, policyStopAndArm] rfl
    (by unfold Clocked; decide)
  obtain ⟨hkeep, -⟩ := hrun [guiAcquire] policyStopAndArm [] rfl
  have hactive : (currentLeaseState enforcingConfig
      (serverAfter sampleParse enforcingConfig [guiAcquire]) 2).active = true := by decide +kernel
  have hmoved : (parseMessage sampleParse enforcingConfig
      (serverAfter sampleParse enforcingConfig [guiAcquire]) policyStopAndArm).1.owner ≠
      (serverAfter sampleParse enforcingConfig [guiAcquire]).owner := by decide +kernel
  obtain ⟨p, hp, hr, -, -⟩ := hkeep hactive hmoved
  have hnot : (packetOf sampleParse enforcingConfig policyStopAndArm).all
      (fun p => !p.releaseLeaseOnly) = true := by decide +kernel
  rw [hp, Option.all_some, hr] at hnot
  cases hnot

/-- A packet without a stop and without a release is outside the gaps. -/
theorem leaseSafe_of_plain {σ : CommandServer} {m : Packet}
    (h : (packetOf parse cfg m).all
      (fun p => !p.releaseLeaseOnly && !(isEmergencyStopCommand p.cmd && requestsLease p)) = true) :
    LeaseSafe parse cfg σ m := by
  intro p hp
  rw [hp.packet, Option.all_some, Bool.and_eq_true, Bool.not_eq_true'] at h
  refine ⟨fun _ _ hstop hreq => ?_, fun hr => ?_⟩
  · simp [hstop, hreq] at h
  · rw [h.1] at hr; cases hr

theorem leaseExclusive_iff_leaseSafe_sample :
    EveryStep (fun pre m => LeaseExclusive sampleParse enforcingConfig
      (serverAfter sampleParse enforcingConfig pre) m) [guiAcquire, policyStop] := by
  refine (leaseExclusive_iff_leaseSafe sampleParse enforcingConfig rfl _).mpr ?_
  have hplain : ∀ m ∈ [guiAcquire, policyStop], (packetOf sampleParse enforcingConfig m).all
      (fun p => !p.releaseLeaseOnly && !(isEmergencyStopCommand p.cmd && requestsLease p)) = true := by
    decide +kernel
  intro pre m post e
  exact leaseSafe_of_plain _ _ (hplain m (by rw [e]; simp))

end RbServo
