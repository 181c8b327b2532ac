import RoboticsLab.Servo.CommandServer

/-!
# What a parsed packet says about its fields

`parsePacket` cut after the mode (`parsePacket_eq`), and the fields that name the sender and the
number of a packet:

    parsePacket cfg root nowNs = some p → root.lookup "seq" = some (.numUnsigned p.cmd.seq) ∧ …
                                                                          (parsePacket_sender)
-/

namespace RbServo

open Json (Object)

/-! ## Cutting the parser -/

/-- The mode of a packet that names none for its arms. -/
def defaultModeOf (modeText : String) : Option ControlMode :=
  if isAcquireLeaseModeString modeText || isReleaseLeaseModeString modeText then some .hold
  else controlModeFromString modeText

/-- `parsePacket` from the timeout on. -/
def parseBody (cfg : CommandServerConfig) (root : Object) (receiveTimeNs : Nat)
    (header : DualArmCommand) (modeText : String) (defaultMode : ControlMode) : Option ParsedPacket := do
  guard (positiveTimeout cfg.commandTimeoutSec)
  let timeoutSec ← readOptionalNumber root "timeout_sec" cfg.commandTimeoutSec
  guard (positiveTimeout timeoutSec)
  let cmd ← readSafetyPayloads root { header with
    leaseAdminOnly := isAcquireLeaseModeString modeText || isReleaseLeaseModeString modeText }
  let (left, right) ← parseArms root cmd.seq receiveTimeNs defaultMode timeoutSec
  guard (!requiresPayload left.mode || hasRequiredPayload left)
  guard (!requiresPayload right.mode || hasRequiredPayload right)
  return {
    cmd := { cmd with left := left, right := right }
    acquireLeaseOnly := isAcquireLeaseModeString modeText
    releaseLeaseOnly := isReleaseLeaseModeString modeText }

theorem parsePacket_eq (cfg : CommandServerConfig) (root : Object) (receiveTimeNs : Nat) :
    parsePacket cfg root receiveTimeNs =
      (parseHeader cfg root receiveTimeNs).bind fun header =>
        (readOptionalString root "mode" "Hold").bind fun modeText =>
          (defaultModeOf modeText).bind (parseBody cfg root receiveTimeNs header modeText) := by
  unfold parsePacket defaultModeOf
  refine congrArg (Option.bind _) (funext fun header => ?_)
  refine congrArg (Option.bind _) (funext fun modeText => ?_)
  dsimp only
  split <;> rfl

/-! ## The sender -/

/-- The safety payloads are beside the packet's number and source. -/
theorem readSafetyPayloads_keeps {root : Json.Object} {cmd cmd' : DualArmCommand}
    (h : readSafetyPayloads root cmd = some cmd') : cmd'.seq = cmd.seq ∧ cmd'.source = cmd.source := by
  have hroi : ∀ {c c'}, readRoiBounds root c = some c' → c'.seq = c.seq ∧ c'.source = c.source := by
    intro c c' hc
    unfold readRoiBounds at hc
    split at hc
    · simp only [Option.bind_eq_bind, Option.bind_eq_some_iff, Option.pure_def, Option.some.injEq] at hc
      obtain ⟨lo, -, hi, -, rfl⟩ := hc
      exact ⟨rfl, rfl⟩
    · cases hc
      exact ⟨rfl, rfl⟩
  have hboxes : ∀ {c c'}, readExternalBoxes root c = some c' → c'.seq = c.seq ∧ c'.source = c.source := by
    intro c c' hc
    unfold readExternalBoxes at hc
    split at hc
    · cases hc
      exact ⟨rfl, rfl⟩
    · simp only [Option.bind_eq_bind, Option.bind_eq_some_iff, Option.pure_def, Option.some.injEq] at hc
      obtain ⟨boxes, -, rfl⟩ := hc
      exact ⟨rfl, rfl⟩
  have hfloor : ∀ {c c'}, readUserFloorPlane root c = some c' → c'.seq = c.seq ∧ c'.source = c.source := by
    intro c c' hc
    unfold readUserFloorPlane at hc
    split at hc
    · simp only [Option.bind_eq_bind, Option.bind_eq_some_iff, Option.pure_def, Option.some.injEq] at hc
      obtain ⟨point, -, normal, -, margin, -, enable, -, rfl⟩ := hc
      exact ⟨rfl, rfl⟩
    · cases hc
      exact ⟨rfl, rfl⟩
  simp only [readSafetyPayloads, Option.bind_eq_bind, Option.bind_eq_some_iff] at h
  obtain ⟨tl, -, tr, -, fz, -, fe, -, c1, h1, c2, h2, h3⟩ := h
  obtain ⟨s1, r1⟩ := hroi h1
  obtain ⟨s2, r2⟩ := hboxes h2
  obtain ⟨s3, r3⟩ := hfloor h3
  exact ⟨s3.trans (s2.trans s1), r3.trans (r2.trans r1)⟩

theorem parseBody_keeps {cfg : CommandServerConfig} {root : Object} {nowNs : Nat}
    {header : DualArmCommand} {modeText : String} {dflt : ControlMode} {p : ParsedPacket}
    (h : parseBody cfg root nowNs header modeText dflt = some p) :
    p.cmd.seq = header.seq ∧ p.cmd.source = header.source := by
  simp only [parseBody, Option.bind_eq_bind, Option.pure_def, Option.bind_eq_some_iff,
    Option.some.injEq] at h
  obtain ⟨u, -, timeoutSec, -, v, -, cmd, hpay, arms, -, w, -, x, -, rfl⟩ := h
  have hkeep := readSafetyPayloads_keeps hpay
  exact hkeep

/-- The number and the sender of a parsed packet stand in its `seq`, `source_id` and `session_id`
fields. -/
theorem parsePacket_sender {cfg : CommandServerConfig} {root : Object} {nowNs : Nat}
    {p : ParsedPacket} (h : parsePacket cfg root nowNs = some p) :
    root.lookup "seq" = some (.numUnsigned p.cmd.seq) ∧
      readOptionalString root "source_id" "" = some p.cmd.source.sourceId ∧
      readOptionalString root "session_id" "" = some p.cmd.source.sessionId := by
  rw [parsePacket_eq] at h
  obtain ⟨header, hheader, h⟩ := Option.bind_eq_some_iff.mp h
  obtain ⟨modeText, -, h⟩ := Option.bind_eq_some_iff.mp h
  obtain ⟨dflt, -, h⟩ := Option.bind_eq_some_iff.mp h
  obtain ⟨hseq, hsource⟩ := parseBody_keeps h
  simp only [parseHeader, Option.bind_eq_bind, Option.bind_eq_some_iff, Option.pure_def,
    Option.some.injEq] at hheader
  obtain ⟨ver, -, u1, -, u2, hcontains, seq, hread, coupled, -, sid, hsid, ses, hses, rest⟩ := hheader
  obtain ⟨tok, -, act, -, cond, -, cs, -, is, -, prof, -, prio, -, rfl⟩ := rest
  rw [hseq, hsource]
  refine ⟨?_, hsid, hses⟩
  have hhas : root.contains "seq" = true := by
    by_contra hno
    simp [hno] at hcontains
  obtain ⟨value, hvalue⟩ := Option.isSome_iff_exists.mp hhas
  rw [hvalue]
  simp only [readOptionalUint64, readOptional, hvalue] at hread
  cases value with
  | numUnsigned n => simpa [Json.isNumberUnsigned] using hread
  | _ => simp [Json.isNumberUnsigned] at hread

end RbServo
