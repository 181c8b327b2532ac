import RoboticsLab.Servo.PacketFields

/-!
# Shorthand packets

A packet without arm objects may carry the motion fields at its root.  `parseMessage` reads that form
in a block of its own, into the left arm, and copies field by field to the right one.  The block reads
what `parseArmObject` reads from an arm object, except that it never looks for `force_control`:

    parsePacket cfg (expanded root) nowNs = parsePacket cfg root nowNs     (no `force_control`)
                                                                       (parsePacket_expanded)

A packet with `force_control` at the root is therefore accepted where the expanded one is refused
(`force_control_at_root`).
-/

namespace RbServo

open Json (Object)

/-! ## The two forms -/

/-- The motion fields that the root form reads, and the one that arm objects may not carry. -/
def motionFields : List String :=
  ["q_target_deg", "joint_target_profile", "tcp_target_stand", "target_tcp_stand", "duration_sec",
    "linear_speed_m_s", "angular_speed_rad_s", "orientation_mode", "force_control"]

/-- The motion fields of a root. -/
def motionMembers (root : Object) : Object :=
  root.filter fun member => decide (member.1 ∈ motionFields)

/-- The packet with its motion fields moved into both arm objects. -/
def expanded (root : Object) : Object :=
  (root.filter fun member => !decide (member.1 ∈ motionFields)) ++
    [("left", .obj (motionMembers root)), ("right", .obj (motionMembers root))]

/-- Two datagrams are accepted alike, and when they are, they give the arms the same commands and
leave the same lease. -/
def MeanSame (parse : String → Option Json) (cfg : CommandServerConfig) (σ : CommandServer)
    (m m' : Packet) : Prop :=
  ((parseMessage parse cfg σ m).2.isSome ↔ (parseMessage parse cfg σ m').2.isSome) ∧
  ∀ cmd cmd', (parseMessage parse cfg σ m).2 = some cmd → (parseMessage parse cfg σ m').2 = some cmd' →
    cmd.left = cmd'.left ∧ cmd.right = cmd'.right ∧ cmd.lease = cmd'.lease ∧
    (parseMessage parse cfg σ m).1.activeLease = (parseMessage parse cfg σ m').1.activeLease ∧
    (parseMessage parse cfg σ m).1.leaseCounter = (parseMessage parse cfg σ m').1.leaseCounter

/-! ## Lookups -/

theorem lookup_filter (object : Object) (keep : String → Bool) (key : String) :
    (object.filter fun member => keep member.1).lookup key =
      if keep key then object.lookup key else none := by
  induction object with
  | nil => simp
  | cons member object ih =>
    obtain ⟨name, value⟩ := member
    by_cases hname : key = name
    · subst hname
      by_cases hkeep : keep key = true
      · simp [hkeep]
      · simp [hkeep, ih]
    · have hne : (key == name) = false := by simpa using hname
      by_cases hkeep : keep name = true
      · simp only [List.filter_cons, hkeep, if_true, List.lookup_cons, hne, ih]
      · simp only [List.filter_cons, hkeep, Bool.false_eq_true, if_false, List.lookup_cons, hne, ih]

theorem motionMembers_lookup (root : Object) (key : String) :
    (motionMembers root).lookup key = if key ∈ motionFields then root.lookup key else none := by
  unfold motionMembers
  rw [lookup_filter root (fun k => decide (k ∈ motionFields))]
  simp

/-- The root reads the same in both forms, but for the arms and the motion fields. -/
theorem expanded_lookup {root : Object} {key : String} (h : key ∉ "left" :: "right" :: motionFields) :
    (expanded root).lookup key = root.lookup key := by
  simp only [List.mem_cons, not_or] at h
  obtain ⟨hleft, hright, hmotion⟩ := h
  unfold expanded
  rw [List.lookup_append, lookup_filter root (fun k => !decide (k ∈ motionFields))]
  have hl : (key == "left") = false := by simpa using hleft
  have hr : (key == "right") = false := by simpa using hright
  simp [hmotion, List.lookup_cons, hl, hr]

theorem expanded_arms {root : Object} (hleft : root.lookup "left" = none)
    (hright : root.lookup "right" = none) :
    (expanded root).lookup "left" = some (.obj (motionMembers root)) ∧
      (expanded root).lookup "right" = some (.obj (motionMembers root)) := by
  constructor
  · unfold expanded
    rw [List.lookup_append, lookup_filter root (fun k => !decide (k ∈ motionFields)), hleft]
    simp
  · unfold expanded
    rw [List.lookup_append, lookup_filter root (fun k => !decide (k ∈ motionFields)), hright]
    simp [List.lookup_cons]

/-! ## What both forms read alike -/

section Alike

variable {root root' : Object}

theorem readOptional_congr {α : Type} (read : Json → Option α) {key : String} (out : α)
    (h : root'.lookup key = root.lookup key) : readOptional read root' key out = readOptional read root key out := by
  unfold readOptional
  rw [h]

/-- Everything but the arms and the motion fields. -/
def AgreeOnRest (root' root : Object) : Prop :=
  ∀ key, key ∉ "left" :: "right" :: motionFields → root'.lookup key = root.lookup key

theorem parseHeader_congr (cfg : CommandServerConfig) (nowNs : Nat) (h : AgreeOnRest root' root) :
    parseHeader cfg root' nowNs = parseHeader cfg root nowNs := by
  unfold parseHeader
  simp only [readOptionalUint64, readOptionalBool, readOptionalString, readOptional, Object.contains,
    h "schema_version" (by decide), h "seq" (by decide), h "coupled_timeout" (by decide),
    h "source_id" (by decide), h "session_id" (by decide), h "lease_token" (by decide),
    h "action_source" (by decide), h "source_conditioning_mode" (by decide),
    h "client_send_monotonic_ns" (by decide), h "input_sample_monotonic_ns" (by decide),
    h "tcp_target_profile" (by decide), h "source_priority" (by decide)]
  rfl

theorem readSafetyPayloads_congr (cmd : DualArmCommand) (h : AgreeOnRest root' root) :
    readSafetyPayloads root' cmd = readSafetyPayloads root cmd := by
  unfold readSafetyPayloads readRoiBounds readExternalBoxes readUserFloorPlane
  simp only [readOptionalBool, readOptionalNumber, readOptional, readRequiredNumbers, Object.contains,
    h "tare_left" (by decide), h "tare_right" (by decide), h "floor_z_m" (by decide),
    h "floor_enabled" (by decide), h "roi_min_m" (by decide), h "roi_max_m" (by decide),
    h "boxes" (by decide), h "user_floor_point_m" (by decide), h "user_floor_normal" (by decide),
    h "user_floor_margin_m" (by decide), h "user_floor_enable" (by decide)]
  rfl

end Alike

/-! ## The motion fields -/

/-- What the motion fields of an object say. -/
structure MotionValues where
  joints : Option JointArray
  profile : Option JointTargetProfile
  tcpTarget : Option Pose6D
  duration : Option Double
  linearSpeed : Option Double
  angularSpeed : Option Double
  orientation : Option LinearMoveOrientationMode

def readProfile (object : Object) : Option (Option JointTargetProfile) := do
  let profileText ← readOptionalString object "joint_target_profile" ""
  if profileText = "" then return none else (jointTargetProfileFromString profileText).map some

def readOrientation (object : Object) : Option (Option LinearMoveOrientationMode) := do
  let orientationMode ← readOptionalString object "orientation_mode" ""
  if orientationMode = "" then return none else (parseLinearMoveOrientationMode orientationMode).map some

def readMotionValues (object : Object) : Option MotionValues := do
  let joints ← readOptionalJointArray object "q_target_deg"
  let profile ← readProfile object
  let tcpTarget ← readTcpTarget object
  let duration ← readOptionalPositiveNumber object "duration_sec"
  let linearSpeed ← readOptionalPositiveNumber object "linear_speed_m_s"
  let angularSpeed ← readOptionalPositiveNumber object "angular_speed_rad_s"
  let orientation ← readOrientation object
  return { joints, profile, tcpTarget, duration, linearSpeed, angularSpeed, orientation }

/-- An arm command with the motion fields written over it. -/
def MotionValues.apply (v : MotionValues) (out : ArmCommand) : ArmCommand :=
  { out with
    qTargetDeg := v.joints.getD out.qTargetDeg
    hasJointTarget := v.joints.isSome
    jointTargetProfile := v.profile.getD out.jointTargetProfile
    tcpTargetStand := v.tcpTarget.getD out.tcpTargetStand
    hasTcpTarget := v.tcpTarget.isSome
    linearMoveDurationSec := v.duration.getD out.linearMoveDurationSec
    hasLinearMoveDuration := out.hasLinearMoveDuration || v.duration.isSome
    linearMoveLinearSpeedMS := v.linearSpeed.getD out.linearMoveLinearSpeedMS
    hasLinearMoveLinearSpeed := out.hasLinearMoveLinearSpeed || v.linearSpeed.isSome
    linearMoveAngularSpeedRadS := v.angularSpeed.getD out.linearMoveAngularSpeedRadS
    hasLinearMoveAngularSpeed := out.hasLinearMoveAngularSpeed || v.angularSpeed.isSome
    linearMoveOrientationMode := v.orientation.getD out.linearMoveOrientationMode
    hasLinearMoveOrientationMode := out.hasLinearMoveOrientationMode || v.orientation.isSome }

/-- The command an arm starts from. -/
def armDefault (armId : ArmId) (seq receiveTimeNs : Nat) (mode : ControlMode) (timeoutSec : Double) :
    ArmCommand :=
  { armId := armId, seq := seq, hostTimeNs := receiveTimeNs, mode := mode, timeoutSec := timeoutSec }

theorem readLinear_eq (object : Object) (out : ArmCommand) :
    readOptionalLinearMoveFields object out =
      (readOptionalPositiveNumber object "duration_sec").bind fun duration =>
        (readOptionalPositiveNumber object "linear_speed_m_s").bind fun linearSpeed =>
          (readOptionalPositiveNumber object "angular_speed_rad_s").bind fun angularSpeed =>
            (readOrientation object).bind fun orientation => some { out with
              linearMoveDurationSec := duration.getD out.linearMoveDurationSec
              hasLinearMoveDuration := out.hasLinearMoveDuration || duration.isSome
              linearMoveLinearSpeedMS := linearSpeed.getD out.linearMoveLinearSpeedMS
              hasLinearMoveLinearSpeed := out.hasLinearMoveLinearSpeed || linearSpeed.isSome
              linearMoveAngularSpeedRadS := angularSpeed.getD out.linearMoveAngularSpeedRadS
              hasLinearMoveAngularSpeed := out.hasLinearMoveAngularSpeed || angularSpeed.isSome
              linearMoveOrientationMode := orientation.getD out.linearMoveOrientationMode
              hasLinearMoveOrientationMode := out.hasLinearMoveOrientationMode || orientation.isSome } := by
  unfold readOptionalLinearMoveFields readOrientation
  simp only [Option.bind_eq_bind, Option.bind_assoc]
  refine congrArg (Option.bind _) (funext fun duration => ?_)
  refine congrArg (Option.bind _) (funext fun linearSpeed => ?_)
  refine congrArg (Option.bind _) (funext fun angularSpeed => ?_)
  refine congrArg (Option.bind _) (funext fun orientationMode => ?_)
  split <;> rfl

/-- An arm object with motion fields only. -/
theorem readArmFields_motion {object : Object} (hplain : ∀ key ∉ motionFields, object.lookup key = none)
    (hforce : object.contains "force_control" = false) (armId : ArmId) (seq receiveTimeNs : Nat)
    (mode : ControlMode) (timeoutSec : Double) :
    readArmFields object armId (armDefault armId seq receiveTimeNs mode timeoutSec) =
      (readMotionValues object).map (·.apply (armDefault armId seq receiveTimeNs mode timeoutSec)) := by
  have habsent : ∀ {α : Type} (read : Json → Option α) (out : α), ∀ key ∉ motionFields,
      readOptional read object key out = some out := by
    intro α read out key hkey
    unfold readOptional
    rw [hplain key hkey]
  have hgripper : ∀ out, readGripper object out = some out := by
    intro out
    simp only [readGripper, hplain "gripper_target" (by decide), hplain "gripper" (by decide)]
  have hfree : object.contains "freedrive_on" = false := by
    simp [Object.contains, hplain "freedrive_on" (by decide)]
  unfold readArmFields
  rw [show readOptionalString object "mode" "" = some "" from habsent _ _ _ (by decide),
    show readOptionalString object "arm" "" = some "" from habsent _ _ _ (by decide)]
  simp only [Option.bind_eq_bind, Option.bind_some, if_true, hgripper, hfree,
    show ∀ out, readOptionalNumber object "timeout_sec" out = some out from fun out =>
      habsent _ _ _ (by decide),
    show ∀ out, readOptionalBool object "freedrive_on" out = some out from fun out =>
      habsent _ _ _ (by decide),
    show ∀ out, readOptionalUint64 object "init_motion_request_id" out = some out from fun out =>
      habsent _ _ _ (by decide),
    show (guard (rejectForceControlObject object = true) : Option Unit) = some () by
      simp [rejectForceControlObject, hforce]]
  unfold readMotionValues readProfile
  simp only [readLinear_eq, Option.bind_eq_bind, Option.bind_assoc, Option.bind_some, Option.pure_def]
  cases readOptionalJointArray object "q_target_deg" with
  | none => rfl
  | some joints =>
    cases readOptionalString object "joint_target_profile" "" with
    | none => rfl
    | some profileText =>
      have harm : ∀ dec : Decidable (True ∨ parseArmId "" = some armId),
          (@guard Option _ (True ∨ parseArmId "" = some armId) dec) = some () := fun dec =>
        if_pos (Or.inl trivial)
      simp only [Option.bind_some, harm]
      by_cases htext : profileText = ""
      · rw [if_pos htext, if_pos htext]
        simp only [Option.bind_some, Option.map_bind, Function.comp_def, Option.map_some]
        rfl
      · rw [if_neg htext, if_neg htext]
        cases jointTargetProfileFromString profileText with
        | none => rfl
        | some profile =>
          simp only [Option.bind_some, Option.map_bind, Function.comp_def, Option.map_some]
          rfl

/-- The root form reads the same values and gives them to both arms. -/
theorem readRootMotionFields_motion (root : Object) (seq receiveTimeNs : Nat) (mode : ControlMode)
    (timeoutSec : Double) :
    readRootMotionFields root (armDefault .left seq receiveTimeNs mode timeoutSec)
        (armDefault .right seq receiveTimeNs mode timeoutSec) =
      (readMotionValues root).map fun v =>
        (v.apply (armDefault .left seq receiveTimeNs mode timeoutSec),
          v.apply (armDefault .right seq receiveTimeNs mode timeoutSec)) := by
  unfold readRootMotionFields readMotionValues readProfile
  simp only [readLinear_eq, Option.bind_eq_bind, Option.bind_assoc, Option.bind_some, Option.pure_def]
  cases readOptionalJointArray root "q_target_deg" with
  | none => rfl
  | some joints =>
    cases readOptionalString root "joint_target_profile" "" with
    | none => rfl
    | some profileText =>
      simp only [Option.bind_some]
      by_cases htext : profileText = ""
      · rw [if_pos htext, if_pos htext]
        simp only [Option.bind_some, Option.map_bind, Function.comp_def, Option.map_some]
        rfl
      · rw [if_neg htext, if_neg htext]
        cases jointTargetProfileFromString profileText with
        | none => rfl
        | some profile =>
          simp only [Option.bind_some, Option.map_bind, Function.comp_def, Option.map_some]
          rfl

/-- The motion fields of a root read alike inside an arm object. -/
theorem readMotionValues_motionMembers (root : Object) :
    readMotionValues (motionMembers root) = readMotionValues root := by
  have h : ∀ key ∈ motionFields, (motionMembers root).lookup key = root.lookup key := by
    intro key hkey
    rw [motionMembers_lookup, if_pos hkey]
  unfold readMotionValues readProfile readOrientation readTcpTarget
  simp only [readOptionalJointArray, readOptionalString, readOptionalPose6D, readOptionalPositiveNumber,
    readOptional, h "q_target_deg" (by decide), h "joint_target_profile" (by decide),
    h "tcp_target_stand" (by decide), h "target_tcp_stand" (by decide), h "duration_sec" (by decide),
    h "linear_speed_m_s" (by decide), h "angular_speed_rad_s" (by decide),
    h "orientation_mode" (by decide)]

/-! ## Whole packets -/

/-- An arm object with `force_control` is refused. -/
theorem readArmFields_force {object : Object} (hforce : object.contains "force_control" = true)
    (armId : ArmId) (out : ArmCommand) : readArmFields object armId out = none := by
  unfold readArmFields
  simp [rejectForceControlObject, hforce]

/-- The arms of the expanded packet are read from the motion fields. -/
theorem parseArms_of_expanded {root : Object} (hleft : root.lookup "left" = none)
    (hright : root.lookup "right" = none) (seq receiveTimeNs : Nat) (mode : ControlMode)
    (timeoutSec : Double) :
    parseArms (expanded root) seq receiveTimeNs mode timeoutSec =
      (readOptionalString root "arm" "").bind fun _ =>
        (parseArmObject (.obj (motionMembers root)) .left seq receiveTimeNs mode timeoutSec).bind fun left =>
          (parseArmObject (.obj (motionMembers root)) .right seq receiveTimeNs mode timeoutSec).bind
            fun right => some (left, right) := by
  obtain ⟨hl, hr⟩ := expanded_arms hleft hright
  have harm : readOptionalString (expanded root) "arm" "" = readOptionalString root "arm" "" :=
    readOptional_congr _ _ (expanded_lookup (by decide))
  unfold parseArms
  rw [harm, hl, hr]
  simp only [Object.contains, hl, hr, Option.getD_some, Option.isSome_some, Bool.not_true, Bool.and_self,
    Bool.false_eq_true, if_false]
  rfl

theorem parseArms_force {root : Object} (hleft : root.lookup "left" = none)
    (hright : root.lookup "right" = none) (hforce : root.contains "force_control" = true)
    (seq receiveTimeNs : Nat) (mode : ControlMode) (timeoutSec : Double) :
    parseArms (expanded root) seq receiveTimeNs mode timeoutSec = none := by
  have hmember : Object.contains (motionMembers root) "force_control" = true := by
    unfold Object.contains
    rw [motionMembers_lookup, if_pos (by decide)]
    exact hforce
  have harm : parseArmObject (.obj (motionMembers root)) .left seq receiveTimeNs mode timeoutSec = none := by
    unfold parseArmObject
    simp only [readArmFields_force hmember]
    rfl
  rw [parseArms_of_expanded hleft hright, harm]
  cases readOptionalString root "arm" "" <;> rfl

theorem parseArms_expanded {root : Object} (hleft : root.lookup "left" = none)
    (hright : root.lookup "right" = none) (hforce : root.contains "force_control" = false)
    (seq receiveTimeNs : Nat) (mode : ControlMode) (timeoutSec : Double) :
    parseArms (expanded root) seq receiveTimeNs mode timeoutSec =
      parseArms root seq receiveTimeNs mode timeoutSec := by
  have hplain : ∀ key ∉ motionFields, (motionMembers root).lookup key = none := by
    intro key hkey
    rw [motionMembers_lookup, if_neg hkey]
  have hmember : Object.contains (motionMembers root) "force_control" = false := by
    unfold Object.contains
    rw [motionMembers_lookup, if_pos (by decide)]
    exact hforce
  -- an arm object of motion fields
  have harm : ∀ armId, parseArmObject (.obj (motionMembers root)) armId seq receiveTimeNs mode timeoutSec =
      (readMotionValues root).bind fun v =>
        if positiveTimeout timeoutSec = true then
          some (v.apply (armDefault armId seq receiveTimeNs mode timeoutSec)) else none := by
    intro armId
    have hfields := readArmFields_motion hplain hmember armId seq receiveTimeNs mode timeoutSec
    rw [readMotionValues_motionMembers] at hfields
    unfold parseArmObject
    show ((readArmFields _ armId (armDefault armId seq receiveTimeNs mode timeoutSec)).bind _ : Option _) = _
    rw [hfields]
    cases readMotionValues root with
    | none => rfl
    | some v =>
      show ((guard (positiveTimeout timeoutSec = true) : Option Unit).bind _ : Option _) = _
      by_cases hpos : positiveTimeout timeoutSec = true
      · simp [hpos]
      · simp [hpos]
  -- and no arm object
  have hnull : ∀ armId, parseArmObject .null armId seq receiveTimeNs mode timeoutSec =
      if positiveTimeout timeoutSec = true then
        some (armDefault armId seq receiveTimeNs mode timeoutSec) else none := by
    intro armId
    unfold parseArmObject
    show ((guard (positiveTimeout timeoutSec = true) : Option Unit).bind _ : Option _) = _
    by_cases hpos : positiveTimeout timeoutSec = true
    · simp [hpos, armDefault]
    · simp [hpos]
  rw [parseArms_of_expanded hleft hright, harm, harm]
  unfold parseArms
  simp only [hleft, hright, Object.contains, Option.getD_none, Option.isSome_none, Bool.not_false,
    Bool.and_self, if_true, hnull, Option.bind_eq_bind]
  cases readOptionalString root "arm" "" with
  | none => rfl
  | some text =>
    by_cases hpos : positiveTimeout timeoutSec = true
    · simp only [hpos, if_true, Option.bind_some, readRootMotionFields_motion]
      cases readMotionValues root <;> rfl
    · simp only [hpos, Bool.false_eq_true, if_false, Option.bind_some, Option.bind_none]
      cases readMotionValues root <;> rfl

section Packets

variable (cfg : CommandServerConfig) {root : Object} (hleft : root.lookup "left" = none)
  (hright : root.lookup "right" = none)

include hleft hright

/-- Both forms of a packet without `force_control` read alike. -/
theorem parsePacket_expanded (hforce : root.contains "force_control" = false) (nowNs : Nat) :
    parsePacket cfg (expanded root) nowNs = parsePacket cfg root nowNs := by
  have hrest : AgreeOnRest (expanded root) root := fun key hkey => expanded_lookup hkey
  rw [parsePacket_eq, parsePacket_eq, parseHeader_congr cfg nowNs hrest]
  rw [show readOptionalString (expanded root) "mode" "Hold" = readOptionalString root "mode" "Hold" from
    readOptional_congr _ _ (hrest "mode" (by decide))]
  have hbody : ∀ header modeText, parseBody cfg (expanded root) nowNs header modeText =
      parseBody cfg root nowNs header modeText := by
    intro header modeText
    funext dflt
    unfold parseBody
    rw [show readOptionalNumber (expanded root) "timeout_sec" cfg.commandTimeoutSec =
      readOptionalNumber root "timeout_sec" cfg.commandTimeoutSec from
      readOptional_congr _ _ (hrest "timeout_sec" (by decide))]
    simp only [readSafetyPayloads_congr _ hrest, parseArms_expanded hleft hright hforce]
  simp only [hbody]

/-- The expanded form of a packet with `force_control` is refused. -/
theorem parsePacket_force (hforce : root.contains "force_control" = true) (nowNs : Nat) :
    parsePacket cfg (expanded root) nowNs = none := by
  have hbody : ∀ header modeText, parseBody cfg (expanded root) nowNs header modeText = fun _ => none := by
    intro header modeText
    funext dflt
    unfold parseBody
    simp [parseArms_force hleft hright hforce]
  rw [parsePacket_eq]
  simp [hbody]

end Packets

/-! ## Same meaning -/

/-- The datagram passes the field readers, the profile check, the sequence check and the lease
checks. -/
def Acceptable (parse : String → Option Json) (cfg : CommandServerConfig) (σ : CommandServer)
    (m : Packet) : Prop :=
  ∃ p, Admitted parse cfg σ m p ∧ (p.releaseLeaseOnly = true →
    (currentLeaseState cfg σ m.receiveTimeNs).active = true →
      sameSource (currentLeaseState cfg σ m.receiveTimeNs) p.cmd.source = true)

theorem parseMessage_isSome_iff (parse : String → Option Json) (cfg : CommandServerConfig)
    (σ : CommandServer) (m : Packet) :
    (parseMessage parse cfg σ m).2.isSome = true ↔ Acceptable parse cfg σ m := by
  constructor
  · intro hsome
    have hstep := parseMessage_step parse cfg σ m
    generalize (parseMessage parse cfg σ m).1 = σ' at hstep
    generalize (parseMessage parse cfg σ m).2 = answer at hstep hsome
    cases hstep with
    | rejected => cases hsome
    | released p hp hr hown => exact ⟨p, hp, fun _ => hown⟩
    | granted p hp hr =>
      refine ⟨p, hp, ?_⟩
      intro h
      rw [hr] at h
      cases h
    | passed p hp hr =>
      refine ⟨p, hp, ?_⟩
      intro h
      rw [hr] at h
      cases h
  · rintro ⟨p, hp, hown⟩
    unfold parseMessage
    simp only [hp.packet, hp.profile, Bool.false_eq_true, if_false]
    unfold authorize
    simp only [hp.fresh, hp.lease, Bool.false_eq_true, if_false]
    by_cases hr : p.releaseLeaseOnly = true
    · rw [if_pos hr, if_neg]
      · rfl
      · simpa [sourceCanOwnActiveLease] using fun ha => ⟨ha, hown hr ha⟩
    · rw [if_neg hr]
      split <;> rfl

/-- The datagram's object, read at its time. -/
theorem packetOf_of_parse {parse : String → Option Json} (cfg : CommandServerConfig) {m : Packet}
    {root : Object} (h : parse m.message = some (.obj root)) :
    packetOf parse cfg m = parsePacket cfg root m.receiveTimeNs := by
  unfold packetOf
  rw [h]
  rfl

/-- **Shorthand and expanded packets** mean the same exactly when the packet carries no
`force_control`, or is refused on its other fields, its number or its lease. -/
theorem meanSame_iff (parse : String → Option Json) (cfg : CommandServerConfig) (σ : CommandServer)
    (root : Object) (hleft : root.lookup "left" = none) (hright : root.lookup "right" = none)
    (m m' : Packet) (hm : parse m.message = some (.obj root))
    (hm' : parse m'.message = some (.obj (expanded root))) (htime : m'.receiveTimeNs = m.receiveTimeNs) :
    MeanSame parse cfg σ m m' ↔
      (root.contains "force_control" = false ∨ ¬ Acceptable parse cfg σ m) := by
  have hp := packetOf_of_parse cfg hm
  have hp' := packetOf_of_parse cfg hm'
  rw [htime] at hp'
  by_cases hforce : root.contains "force_control" = true
  · -- the expanded packet is refused
    have hnone : (parseMessage parse cfg σ m').2 = none := by
      unfold parseMessage
      rw [hp', parsePacket_force cfg hleft hright hforce]
    constructor
    · rintro ⟨hiff, -⟩
      right
      intro hacc
      have hsome := hiff.mp ((parseMessage_isSome_iff parse cfg σ m).mpr hacc)
      rw [hnone] at hsome
      cases hsome
    · rintro (hno | hrefused)
      · rw [hforce] at hno
        cases hno
      · have hnone' : ¬ (parseMessage parse cfg σ m).2.isSome = true := fun h =>
          hrefused ((parseMessage_isSome_iff parse cfg σ m).mp h)
        refine ⟨?_, ?_⟩
        · rw [hnone]
          simpa using hnone'
        · intro cmd cmd' hcmd
          rw [hcmd] at hnone'
          exact absurd rfl hnone'
  · rw [Bool.not_eq_true] at hforce
    have hsame : parseMessage parse cfg σ m' = parseMessage parse cfg σ m := by
      unfold parseMessage
      rw [hp', hp, parsePacket_expanded cfg hleft hright hforce, htime]
    refine ⟨fun _ => .inl hforce, fun _ => ?_⟩
    unfold MeanSame
    rw [hsame]
    refine ⟨Iff.rfl, ?_⟩
    intro cmd cmd' hcmd hcmd'
    rw [hcmd] at hcmd'
    cases hcmd'
    exact ⟨rfl, rfl, rfl, rfl, rfl⟩

/-! ## Two packets -/

/-- A reader that knows a packet in both forms. -/
def readerOf (root : Object) : String → Option Json
  | "short" => some (.obj root)
  | "expanded" => some (.obj (expanded root))
  | _ => none

def holdWithForce : Object := [("seq", .numUnsigned 1), ("force_control", .obj [])]

/-- A hold with `force_control` at its root is accepted; inside the arms it is refused. -/
theorem force_control_at_root :
    ¬ ∀ (parse : String → Option Json) (cfg : CommandServerConfig) (σ : CommandServer) (root : Object),
      root.lookup "left" = none → root.lookup "right" = none → ∀ m m' : Packet,
      parse m.message = some (.obj root) → parse m'.message = some (.obj (expanded root)) →
      m'.receiveTimeNs = m.receiveTimeNs → MeanSame parse cfg σ m m' := by
  intro h
  have hsame := h (readerOf holdWithForce) {} {} holdWithForce rfl rfl ⟨"short", 1⟩ ⟨"expanded", 1⟩ rfl rfl rfl
  have hshort : (parseMessage (readerOf holdWithForce) {} {} ⟨"short", 1⟩).2.isSome = true := by
    decide +kernel
  have hexpanded : (parseMessage (readerOf holdWithForce) {} {} ⟨"expanded", 1⟩).2.isSome = false := by
    decide +kernel
  rw [hsame.1.mp hshort] at hexpanded
  cases hexpanded

/-- A joint target for both arms. -/
def jointTargetPacket : Object :=
  [("seq", .numUnsigned 1), ("mode", .str "JointTarget"),
    ("q_target_deg", .arr (List.replicate 6 (.numUnsigned 10)))]

theorem meanSame_jointTarget :
    (parseMessage (readerOf jointTargetPacket) {} {} ⟨"short", 1⟩).2.isSome = true ∧
    MeanSame (readerOf jointTargetPacket) {} {} ⟨"short", 1⟩ ⟨"expanded", 1⟩ := by
  refine ⟨by decide +kernel, ?_⟩
  exact (meanSame_iff (readerOf jointTargetPacket) {} {} jointTargetPacket (by decide) (by decide)
    ⟨"short", 1⟩ ⟨"expanded", 1⟩ rfl rfl rfl).mpr (.inl (by decide))

end RbServo
