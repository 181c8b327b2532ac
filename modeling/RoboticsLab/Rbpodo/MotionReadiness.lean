import RoboticsLab.Rbpodo.SystemState

/-!
# Asserted faults and the controller-simulation waiver

`rbpodoMotionReadinessError` names one error of a frame, and in controller simulation two names are waived: suspect
diagnostics and an init error.  The waiver is meant for frames without an explicit stop or collision fault, but it looks
at the name only, and both names win over such a fault.

    ReservedIgnored … ∧ (Asserted config snapshot → Blocks …) ↔
      ¬ (Asserted config snapshot ∧ HidesFault config snapshot)
                                                                                        (asserted_blocks_iff)
-/

namespace RbServo.Rbpodo

/-! ## Readiness and waiver -/

def rbpodoModeName (simulationMode : Bool) : String := if simulationMode then "simulation" else "real"

def operationModeMatchesConfig (config : BackendConfig) (snapshot : RbpodoSystemStateSnapshot) : Bool :=
  rbpodoModeFieldIsKnown snapshot.realVsSimulationMode &&
    decide (expectedSimulationMode config = decide (snapshot.realVsSimulationMode = 1))

def rbpodoStateAcquisitionError (mapped : RobotState) : Option BackendError :=
  if mapped.hasValidJointState then none
  else some (backendError .invalidJointState "rbpodo state contained non-finite joint data" ""
    "rbpodo_invalid_joint_state")

/-- The check of the reported fault, of the mode and of the activation. -/
def reportedFaultError (config : BackendConfig) (snapshot : RbpodoSystemStateSnapshot) (mapped : RobotState) :
    Option BackendError :=
  if mapped.hasError then
    some (backendError .robotFault "rbpodo SystemState reported a robot/controller fault" (toString mapped.errorCode)
      (if mapped.diagnosticErrorSource = "" then "rbpodo_robot_fault" else mapped.diagnosticErrorSource))
  else if !operationModeMatchesConfig config snapshot then
    some (backendError .wrongMode
      ("rbpodo controller mode is " ++ rbpodoModeName (decide (snapshot.realVsSimulationMode = 1)) ++
        " but config expects " ++ rbpodoModeName (expectedSimulationMode config))
      (toString snapshot.realVsSimulationMode) "rbpodo_wrong_operation_mode")
  else if !mapped.servoEnabled then
    some (backendError .servoDisabled
      ("rbpodo activation stage is " ++ toString snapshot.initStateInfo ++
        "; expected activation done stage 6 before servo_j")
      (toString snapshot.initStateInfo) "rbpodo_servo_disabled")
  else none

def rbpodoMotionReadinessError (config : BackendConfig) (snapshot : RbpodoSystemStateSnapshot) (mapped : RobotState) :
    Option BackendError :=
  match rbpodoStateAcquisitionError mapped with
  | some acquisitionError => some acquisitionError
  | none =>
    match mapped.rbpodoDiagnostics with
    | some diagnostics =>
      if diagnostics.diagnosticsSuspect then
        some (backendError .robotFault ("rbpodo diagnostics suspect: " ++ diagnostics.reason)
          (toString mapped.errorCode) "rbpodo_diagnostics_suspect")
      else reportedFaultError config snapshot mapped
    | none => reportedFaultError config snapshot mapped

def diagnosticsSuspectControllerSimulationOverrideAllowed (config : BackendConfig) (error : BackendError) : Bool :=
  decide (error.name = "rbpodo_diagnostics_suspect") && rbpodoControllerSimulationMotionGateOpen config &&
    config.allowControllerSimulationDiagnosticsSuspect

def initErrorControllerSimulationOverrideAllowed (config : BackendConfig) (error : BackendError) : Bool :=
  decide (error.name = "rbpodo_init_error") && rbpodoControllerSimulationMotionGateOpen config &&
    config.allowControllerSimulationInitError

def controllerSimulationReadinessOverrideAllowed (config : BackendConfig) (error : BackendError) : Bool :=
  diagnosticsSuspectControllerSimulationOverrideAllowed config error ||
    initErrorControllerSimulationOverrideAllowed config error

/-! ## Suspect shapes -/

/-- A status word, the time or the mode is not shaped as documented. -/
def suspectShape (snapshot : RbpodoSystemStateSnapshot) (unreliableFieldsUnavailable : Bool) : Bool :=
  !decide (0 ≤ snapshot.opStatSosFlag &&& kRbpodoStatusCodeMask ∧
      snapshot.opStatSosFlag &&& kRbpodoStatusCodeMask ≤ 12) ||
    !decide (0 ≤ snapshot.opStatEmsFlag &&& kRbpodoStatusCodeMask ∧
      snapshot.opStatEmsFlag &&& kRbpodoStatusCodeMask ≤ 4) ||
    !rbpodoBooleanFlagValue snapshot.opStatSoftEstopOccur ||
    !rbpodoBooleanFlagValue (snapshot.opStatCollisionOccur &&& kRbpodoCollisionOccurMask) ||
    (!unreliableFieldsUnavailable &&
      !rbpodoBooleanFlagValue (snapshot.opStatSelfCollision &&& kRbpodoSelfCollisionMask)) ||
    (!unreliableFieldsUnavailable && (!snapshot.robotTimeSec.isFinite || snapshot.robotTimeSec.lt (.fin 0) ||
      timeImplausiblySmall snapshot.robotTimeSec)) ||
    !rbpodoModeFieldIsKnown snapshot.realVsSimulationMode

variable (diagnostics : RbpodoDiagnosticsSnapshot)

theorem suspect_markSuspiciousFlag (fieldName : String) (value : Int32) :
    (markSuspiciousFlag diagnostics fieldName value).diagnosticsSuspect =
      (diagnostics.diagnosticsSuspect || !rbpodoBooleanFlagValue value) := by
  unfold markSuspiciousFlag
  cases rbpodoBooleanFlagValue value with
  | true => exact (Bool.or_false _).symm
  | false => exact (Bool.or_true _).symm

theorem suspect_markUnavailableField (fieldName : String) :
    (markUnavailableField diagnostics fieldName).diagnosticsSuspect = diagnostics.diagnosticsSuspect := by
  unfold markUnavailableField
  split <;> rfl

theorem suspect_markSuspiciousBoundedCode (fieldName : String) (value lo hi : Int32) :
    (markSuspiciousBoundedCode diagnostics fieldName value lo hi).diagnosticsSuspect =
      (diagnostics.diagnosticsSuspect || !decide (lo ≤ value ∧ value ≤ hi)) := by
  unfold markSuspiciousBoundedCode
  by_cases h : lo ≤ value ∧ value ≤ hi
  · rw [if_pos h, decide_eq_true h]
    exact (Bool.or_false _).symm
  · rw [if_neg h, decide_eq_false h]
    exact (Bool.or_true _).symm

theorem suspect_markSelfCollision (value : Int32) (unavailable : Bool) :
    (markSelfCollision diagnostics value unavailable).diagnosticsSuspect =
      (diagnostics.diagnosticsSuspect || (!unavailable &&
      !rbpodoBooleanFlagValue (value &&& kRbpodoSelfCollisionMask))) := by
  unfold markSelfCollision
  cases unavailable with
  | true => exact (suspect_markUnavailableField ..).trans (Bool.or_false _).symm
  | false => exact suspect_markSuspiciousFlag ..

/-- With the unreliable fields unavailable no time is suspect: every time that could be is unavailable. -/
theorem suspect_markTime (t : Double) (unavailable : Bool) :
    (markTime diagnostics t unavailable).diagnosticsSuspect =
      (diagnostics.diagnosticsSuspect ||
        (!unavailable && (!t.isFinite || t.lt (.fin 0) || timeImplausiblySmall t))) := by
  unfold markTime
  cases unavailable with
  | true =>
    rw [Bool.true_and, Bool.not_true, Bool.false_and, Bool.or_false]
    split
    · exact suspect_markUnavailableField ..
    · rename_i hfine
      simp only [Bool.or_eq_true, not_or, Bool.not_eq_true, Bool.not_eq_false'] at hfine
      obtain ⟨⟨hfinite, hle⟩, hsmall⟩ := hfine
      have hlt : t.lt (.fin 0) = false := Bool.eq_false_iff.mpr fun h => by simp [Double.le_of_lt h] at hle
      simp [hfinite, hlt, hsmall]
  | false =>
    rw [Bool.false_and, if_neg Bool.false_ne_true, Bool.not_false, Bool.true_and]
    cases t.isFinite with
    | false => exact (Bool.or_true _).symm
    | true =>
      rw [Bool.not_true, Bool.false_or, if_neg Bool.false_ne_true]
      cases t.lt (.fin 0) || timeImplausiblySmall t with
      | true => exact (Bool.or_true _).symm
      | false => exact (Bool.or_false _).symm

theorem suspect_markMode (mode : Int32) :
    (markMode diagnostics mode).diagnosticsSuspect =
      (diagnostics.diagnosticsSuspect || !rbpodoModeFieldIsKnown mode) := by
  unfold markMode
  cases rbpodoModeFieldIsKnown mode with
  | true => exact (Bool.or_false _).symm
  | false => exact (Bool.or_true _).symm

theorem suspect_finishDiagnostics :
    (finishDiagnostics diagnostics).diagnosticsSuspect = diagnostics.diagnosticsSuspect := by
  unfold finishDiagnostics
  dsimp only
  split_ifs <;> rfl

/-- Suspect diagnostics carry the stable code and the stable name. -/
theorem stable_finishDiagnostics (h : diagnostics.diagnosticsSuspect = true) :
    (finishDiagnostics diagnostics).stableErrorCode = kRbpodoDiagnosticsSuspectCode := by
  unfold finishDiagnostics
  rw [if_pos h]
  dsimp only
  split <;> rfl

/-- **The diagnostics** are suspect for the suspect shapes. -/
theorem suspect_interpretRbpodoDiagnostics (snapshot : RbpodoSystemStateSnapshot) (options : RbpodoStateDecodeOptions) :
    (interpretRbpodoDiagnostics snapshot options).diagnosticsSuspect =
      suspectShape snapshot options.controllerSimulationUnreliableStatusFieldsUnavailable := by
  unfold interpretRbpodoDiagnostics suspectShape
  rw [suspect_finishDiagnostics, suspect_markMode, suspect_markTime, suspect_markSelfCollision,
    suspect_markSuspiciousFlag, suspect_markSuspiciousFlag, suspect_markSuspiciousBoundedCode,
    suspect_markSuspiciousBoundedCode, Bool.false_or]

/-! ## Reserved bits -/

/-- The snapshot with other status words. -/
def RbpodoSystemStateSnapshot.withStatus (snapshot : RbpodoSystemStateSnapshot)
    (sos ems collision selfCollision : Int32) :
    RbpodoSystemStateSnapshot :=
  { snapshot with
      opStatSosFlag := sos
      opStatEmsFlag := ems
      opStatCollisionOccur := collision
      opStatSelfCollision := selfCollision }

/-- The documented bits of these status words are those of the snapshot. -/
structure SameDocumentedBits (snapshot : RbpodoSystemStateSnapshot) (sos ems collision selfCollision : Int32) :
    Prop where
  sos : sos &&& kRbpodoStatusCodeMask = snapshot.opStatSosFlag &&& kRbpodoStatusCodeMask
  ems : ems &&& kRbpodoStatusCodeMask = snapshot.opStatEmsFlag &&& kRbpodoStatusCodeMask
  collision : collision &&& kRbpodoCollisionOccurMask = snapshot.opStatCollisionOccur &&& kRbpodoCollisionOccurMask
  selfCollision :
    selfCollision &&& kRbpodoSelfCollisionMask = snapshot.opStatSelfCollision &&& kRbpodoSelfCollisionMask

variable {snapshot : RbpodoSystemStateSnapshot} {sos ems collision selfCollision : Int32}

theorem SameDocumentedBits.suspectShape (h : SameDocumentedBits snapshot sos ems collision selfCollision)
    (unavailable : Bool) :
    Rbpodo.suspectShape (snapshot.withStatus sos ems collision selfCollision) unavailable =
      Rbpodo.suspectShape snapshot unavailable := by
  unfold Rbpodo.suspectShape RbpodoSystemStateSnapshot.withStatus
  dsimp only
  rw [h.sos, h.ems, h.collision, h.selfCollision]

/-- The first clear fault only depends on the documented bits. -/
theorem SameDocumentedBits.firstClearRbpodoFault (h : SameDocumentedBits snapshot sos ems collision selfCollision)
    (options : RbpodoStateDecodeOptions) {diagnostics diagnostics' : RbpodoDiagnosticsSnapshot}
    (hsuspect : diagnostics'.diagnosticsSuspect = diagnostics.diagnosticsSuspect) :
    Rbpodo.firstClearRbpodoFault (snapshot.withStatus sos ems collision selfCollision) diagnostics' options =
      Rbpodo.firstClearRbpodoFault snapshot diagnostics options := by
  unfold Rbpodo.firstClearRbpodoFault RbpodoSystemStateSnapshot.withStatus
  dsimp only
  rw [h.sos, h.ems, h.collision, h.selfCollision, hsuspect]

/-- The reserved bits change no error column of the mapped state. -/
def ReservedIgnored (nowNs : ℕ) (armId : ArmId) (config : BackendConfig) (snapshot : RbpodoSystemStateSnapshot) :
    Prop :=
  ∀ sos ems collision selfCollision, SameDocumentedBits snapshot sos ems collision selfCollision →
    let mapped := mapRbpodoSystemStateSnapshot nowNs armId snapshot config
    let mapped' := mapRbpodoSystemStateSnapshot nowNs armId (snapshot.withStatus sos ems collision selfCollision) config
    mapped'.hasError = mapped.hasError ∧ mapped'.errorCode = mapped.errorCode ∧
      mapped'.lifecycleState = mapped.lifecycleState

theorem stableErrorCode_interpret (snapshot : RbpodoSystemStateSnapshot) (options : RbpodoStateDecodeOptions)
    (h : (interpretRbpodoDiagnostics snapshot options).diagnosticsSuspect = true) :
    (interpretRbpodoDiagnostics snapshot options).stableErrorCode = kRbpodoDiagnosticsSuspectCode := by
  unfold interpretRbpodoDiagnostics at h ⊢
  rw [suspect_finishDiagnostics] at h
  exact stable_finishDiagnostics _ h

theorem reservedIgnored (nowNs : ℕ) (armId : ArmId) (config : BackendConfig) (snapshot : RbpodoSystemStateSnapshot) :
    ReservedIgnored nowNs armId config snapshot := by
  intro sos ems collision selfCollision h
  have hsuspect : (interpretRbpodoDiagnostics (snapshot.withStatus sos ems collision selfCollision)
        (decodeOptionsForConfig config)).diagnosticsSuspect =
      (interpretRbpodoDiagnostics snapshot (decodeOptionsForConfig config)).diagnosticsSuspect := by
    rw [suspect_interpretRbpodoDiagnostics, suspect_interpretRbpodoDiagnostics, h.suspectShape]
  have hfault := h.firstClearRbpodoFault (decodeOptionsForConfig config) hsuspect
  dsimp only
  unfold mapRbpodoSystemStateSnapshot mapSnapshot
  dsimp only
  rw [hfault, hsuspect]
  refine ⟨rfl, ?_, rfl⟩
  cases Rbpodo.firstClearRbpodoFault snapshot (interpretRbpodoDiagnostics snapshot (decodeOptionsForConfig config))
    (decodeOptionsForConfig config) with
  | some fault => rfl
  | none =>
    by_cases hs : (interpretRbpodoDiagnostics snapshot (decodeOptionsForConfig config)).diagnosticsSuspect = true
    · dsimp only
      rw [if_pos hs, if_pos hs, stableErrorCode_interpret _ _ hs, stableErrorCode_interpret _ _ (hsuspect.trans hs)]
    · dsimp only
      rw [if_neg hs, if_neg hs]

/-! ## Asserted faults -/

def SosAsserted (snapshot : RbpodoSystemStateSnapshot) : Prop :=
  1 ≤ snapshot.opStatSosFlag &&& kRbpodoStatusCodeMask ∧ snapshot.opStatSosFlag &&& kRbpodoStatusCodeMask ≤ 12

def EmsAsserted (snapshot : RbpodoSystemStateSnapshot) : Prop :=
  1 ≤ snapshot.opStatEmsFlag &&& kRbpodoStatusCodeMask ∧ snapshot.opStatEmsFlag &&& kRbpodoStatusCodeMask ≤ 4

/-- A documented fault is asserted. -/
def Asserted (config : BackendConfig) (snapshot : RbpodoSystemStateSnapshot) : Prop :=
  SosAsserted snapshot ∨ EmsAsserted snapshot ∨ snapshot.opStatSoftEstopOccur = 1 ∨
    snapshot.opStatCollisionOccur &&& kRbpodoCollisionOccurMask = 1 ∨
    ((decodeOptionsForConfig config).demoteSelfCollisionFault = false ∧
      snapshot.opStatSelfCollision &&& kRbpodoSelfCollisionMask = 1)

/-- The readiness check reports an error, and it is not waived. -/
def Blocks (nowNs : ℕ) (armId : ArmId) (config : BackendConfig) (snapshot : RbpodoSystemStateSnapshot) : Prop :=
  ∃ error, rbpodoMotionReadinessError config snapshot (mapRbpodoSystemStateSnapshot nowNs armId snapshot config) =
    some error ∧ controllerSimulationReadinessOverrideAllowed config error = false

/-- The joints are finite, and the name the frame gets is waived: suspect diagnostics, or an init error that no sos code
precedes. -/
def HidesFault (config : BackendConfig) (snapshot : RbpodoSystemStateSnapshot) : Prop :=
  finiteJointArray snapshot.qActualDeg = true ∧ finiteJointArray snapshot.qTargetDeg = true ∧
    rbpodoControllerSimulationMotionGateOpen config = true ∧
    if suspectShape snapshot (decodeOptionsForConfig config).controllerSimulationUnreliableStatusFieldsUnavailable then
      config.allowControllerSimulationDiagnosticsSuspect = true
    else snapshot.initError ≠ 0 ∧ ¬ SosAsserted snapshot ∧ config.allowControllerSimulationInitError = true

variable {config : BackendConfig}

theorem overrideAllowed_iff (error : BackendError) :
    controllerSimulationReadinessOverrideAllowed config error = true ↔
      rbpodoControllerSimulationMotionGateOpen config = true ∧
        (error.name = "rbpodo_diagnostics_suspect" ∧ config.allowControllerSimulationDiagnosticsSuspect = true ∨
          error.name = "rbpodo_init_error" ∧ config.allowControllerSimulationInitError = true) := by
  unfold controllerSimulationReadinessOverrideAllowed diagnosticsSuspectControllerSimulationOverrideAllowed
    initErrorControllerSimulationOverrideAllowed
  simp only [Bool.or_eq_true, Bool.and_eq_true, decide_eq_true_iff]
  tauto

/-- An asserted fault, or an init error, is a clear fault; its name. -/
theorem firstClearRbpodoFault_of_asserted (h : Asserted config snapshot) (diagnostics : RbpodoDiagnosticsSnapshot) :
    ∃ fault, firstClearRbpodoFault snapshot diagnostics (decodeOptionsForConfig config) = some fault ∧
      fault.name ≠ "" ∧ fault.name ≠ "rbpodo_diagnostics_suspect" ∧
      (fault.name = "rbpodo_init_error" ↔ snapshot.initError ≠ 0 ∧ ¬ SosAsserted snapshot) := by
  unfold firstClearRbpodoFault
  dsimp only
  by_cases hsos : 1 ≤ snapshot.opStatSosFlag &&& kRbpodoStatusCodeMask ∧
      snapshot.opStatSosFlag &&& kRbpodoStatusCodeMask ≤ 12
  · rw [if_pos hsos]
    exact ⟨_, rfl, by simp, by simp, by simp [SosAsserted, hsos]⟩
  · rw [if_neg hsos]
    by_cases hinit : snapshot.initError ≠ 0
    · rw [if_pos hinit]
      exact ⟨_, rfl, by simp, by simp, by simp [SosAsserted, hsos, hinit]⟩
    · rw [if_neg hinit]
      have hiff : ∀ name : String, name ≠ "rbpodo_init_error" →
          (name = "rbpodo_init_error" ↔ snapshot.initError ≠ 0 ∧ ¬ SosAsserted snapshot) :=
        fun name hname => ⟨fun heq => absurd heq hname, fun hboth => absurd hboth.1 hinit⟩
      split_ifs with hems hsoft hcollision hself hraw
      · exact ⟨_, rfl, by simp, by simp, hiff _ (by simp)⟩
      · exact ⟨_, rfl, by simp, by simp, hiff _ (by simp)⟩
      · exact ⟨_, rfl, by simp, by simp, hiff _ (by simp)⟩
      · exact ⟨_, rfl, by simp, by simp, hiff _ (by simp)⟩
      · exact ⟨_, rfl, by simp, by simp, hiff _ (by simp)⟩
      · rcases h with h | h | h | h | h
        · exact absurd h hsos
        · exact absurd h hems
        · exact absurd h hsoft
        · exact absurd h hcollision
        · exact absurd ⟨by simp [h.1], h.2⟩ hself

variable {nowNs : ℕ} {armId : ArmId}

theorem blocks_iff_of_readiness {error : BackendError} (h : rbpodoMotionReadinessError config snapshot
    (mapRbpodoSystemStateSnapshot nowNs armId snapshot config) = some error) :
    Blocks nowNs armId config snapshot ↔ controllerSimulationReadinessOverrideAllowed config error = false := by
  constructor
  · rintro ⟨error', h', hblocked⟩
    obtain rfl := Option.some.inj (h.symm.trans h')
    exact hblocked
  · exact fun hblocked => ⟨error, h, hblocked⟩

/-- Joints that are not finite. -/
theorem readiness_of_not_finite (nowNs : ℕ) (armId : ArmId) (config : BackendConfig)
    (h : (finiteJointArray snapshot.qActualDeg && finiteJointArray snapshot.qTargetDeg) = false) :
    ∃ error, rbpodoMotionReadinessError config snapshot (mapRbpodoSystemStateSnapshot nowNs armId snapshot config) =
      some error ∧ error.name = "rbpodo_invalid_joint_state" := by
  have hvalid : (mapRbpodoSystemStateSnapshot nowNs armId snapshot config).hasValidJointState = false := h
  unfold rbpodoMotionReadinessError rbpodoStateAcquisitionError
  rw [hvalid]
  exact ⟨_, rfl, rfl⟩

/-- Finite joints and a suspect shape. -/
theorem readiness_of_suspect (nowNs : ℕ) (armId : ArmId)
    (h : (finiteJointArray snapshot.qActualDeg && finiteJointArray snapshot.qTargetDeg) = true)
    (hsuspect : suspectShape snapshot
      (decodeOptionsForConfig config).controllerSimulationUnreliableStatusFieldsUnavailable = true) :
    ∃ error, rbpodoMotionReadinessError config snapshot (mapRbpodoSystemStateSnapshot nowNs armId snapshot config) =
      some error ∧ error.name = "rbpodo_diagnostics_suspect" := by
  have hvalid : (mapRbpodoSystemStateSnapshot nowNs armId snapshot config).hasValidJointState = true := h
  have hdiagnostics : (mapRbpodoSystemStateSnapshot nowNs armId snapshot config).rbpodoDiagnostics =
      some (interpretRbpodoDiagnostics snapshot (decodeOptionsForConfig config)) := rfl
  rw [← suspect_interpretRbpodoDiagnostics] at hsuspect
  unfold rbpodoMotionReadinessError rbpodoStateAcquisitionError
  rw [hvalid, hdiagnostics, if_pos rfl]
  dsimp only
  rw [if_pos hsuspect]
  exact ⟨_, rfl, rfl⟩

/-- Finite joints, documented shapes and a clear fault. -/
theorem readiness_of_fault (nowNs : ℕ) (armId : ArmId) {fault : RbpodoInterpretedFault}
    (h : (finiteJointArray snapshot.qActualDeg && finiteJointArray snapshot.qTargetDeg) = true)
    (hshape : ¬ suspectShape snapshot
      (decodeOptionsForConfig config).controllerSimulationUnreliableStatusFieldsUnavailable = true)
    (hfault : firstClearRbpodoFault snapshot (interpretRbpodoDiagnostics snapshot (decodeOptionsForConfig config))
      (decodeOptionsForConfig config) = some fault) (hname : fault.name ≠ "") :
    ∃ error, rbpodoMotionReadinessError config snapshot (mapRbpodoSystemStateSnapshot nowNs armId snapshot config) =
      some error ∧ error.name = fault.name := by
  have hvalid : (mapRbpodoSystemStateSnapshot nowNs armId snapshot config).hasValidJointState = true := h
  have hdiagnostics : (mapRbpodoSystemStateSnapshot nowNs armId snapshot config).rbpodoDiagnostics =
      some (interpretRbpodoDiagnostics snapshot (decodeOptionsForConfig config)) := rfl
  have herror : (mapRbpodoSystemStateSnapshot nowNs armId snapshot config).hasError = true := by
    unfold mapRbpodoSystemStateSnapshot mapSnapshot
    dsimp only
    rw [hfault, Option.isSome_some, Bool.true_or]
  have hsource : (mapRbpodoSystemStateSnapshot nowNs armId snapshot config).diagnosticErrorSource = fault.name := by
    unfold mapRbpodoSystemStateSnapshot mapSnapshot
    dsimp only
    rw [hfault]
  rw [← suspect_interpretRbpodoDiagnostics] at hshape
  unfold rbpodoMotionReadinessError rbpodoStateAcquisitionError
  rw [hvalid, hdiagnostics, if_pos rfl]
  dsimp only
  rw [if_neg hshape, reportedFaultError, if_pos herror, hsource, if_neg hname]
  exact ⟨_, rfl, if_neg hname⟩

/-- **Asserted faults, one frame.** -/
theorem blocks_iff_not_hidesFault (h : Asserted config snapshot) :
    Blocks nowNs armId config snapshot ↔ ¬ HidesFault config snapshot := by
  unfold HidesFault
  cases hfinite : finiteJointArray snapshot.qActualDeg && finiteJointArray snapshot.qTargetDeg with
  | false =>
    obtain ⟨error, herror, hname⟩ := readiness_of_not_finite nowNs armId config hfinite
    rw [blocks_iff_of_readiness herror, ← Bool.not_eq_true, overrideAllowed_iff, hname]
    have hno : ¬ (finiteJointArray snapshot.qActualDeg = true ∧
        finiteJointArray snapshot.qTargetDeg = true) := fun hboth =>
      Bool.false_ne_true (hfinite.symm.trans (Bool.and_eq_true_iff.mpr hboth))
    exact ⟨fun _ hhides => hno ⟨hhides.1, hhides.2.1⟩, fun _ => by simp⟩
  | true =>
    obtain ⟨hactual, htarget⟩ := Bool.and_eq_true_iff.mp hfinite
    rw [hactual, htarget]
    by_cases hsuspect : suspectShape snapshot
        (decodeOptionsForConfig config).controllerSimulationUnreliableStatusFieldsUnavailable = true
    · obtain ⟨error, herror, hname⟩ := readiness_of_suspect nowNs armId hfinite hsuspect
      rw [blocks_iff_of_readiness herror, ← Bool.not_eq_true, overrideAllowed_iff, hname, if_pos hsuspect]
      simp
    · obtain ⟨fault, hfault, hne, hnot, hinit⟩ := firstClearRbpodoFault_of_asserted h
        (interpretRbpodoDiagnostics snapshot (decodeOptionsForConfig config))
      obtain ⟨error, herror, hname⟩ := readiness_of_fault nowNs armId hfinite hsuspect hfault hne
      rw [blocks_iff_of_readiness herror, ← Bool.not_eq_true, overrideAllowed_iff, hname, if_neg hsuspect, hinit]
      simp [hnot, and_assoc]

/-- **Asserted faults.**  The reserved bits never count, and an asserted fault blocks motion exactly if the
frame does not get a waived name. -/
theorem asserted_blocks_iff (nowNs : ℕ) (armId : ArmId) (config : BackendConfig)
    (snapshot : RbpodoSystemStateSnapshot) :
    ReservedIgnored nowNs armId config snapshot ∧ (Asserted config snapshot → Blocks nowNs armId config snapshot) ↔
      ¬ (Asserted config snapshot ∧ HidesFault config snapshot) := by
  rw [not_and]
  constructor
  · rintro ⟨-, h⟩ hasserted
    exact (blocks_iff_not_hidesFault hasserted).mp (h hasserted)
  · intro h
    exact ⟨reservedIgnored nowNs armId config snapshot, fun hasserted =>
      (blocks_iff_not_hidesFault hasserted).mpr (h hasserted)⟩

/-- A virtual control box: its init error is permanent, and both waivers are on. -/
def virtualBox : BackendConfig where
  backendType := .rbpodo
  runMode := .real
  operationMode := "simulation"
  allowControllerSimulationDiagnosticsSuspect := true
  allowControllerSimulationInitError := true

/-- The emergency stop of such a box, beside its init error, and beside an unknown mode. -/
theorem hidden_estop_not_blocked :
    let initFrame : RbpodoSystemStateSnapshot := { realVsSimulationMode := 1, initError := 187, opStatEmsFlag := 1 }
    let suspectFrame : RbpodoSystemStateSnapshot := { realVsSimulationMode := 2, opStatEmsFlag := 1 }
    (Asserted virtualBox initFrame ∧ ¬ Blocks 0 .left virtualBox initFrame) ∧
      Asserted virtualBox suspectFrame ∧ ¬ Blocks 0 .left virtualBox suspectFrame := by
  intro initFrame suspectFrame
  have hinit : Asserted virtualBox initFrame := by
    unfold Asserted SosAsserted EmsAsserted
    decide +kernel
  have hsuspect : Asserted virtualBox suspectFrame := by
    unfold Asserted SosAsserted EmsAsserted
    decide +kernel
  rw [blocks_iff_not_hidesFault hinit, blocks_iff_not_hidesFault hsuspect, not_not, not_not]
  unfold HidesFault SosAsserted
  exact ⟨⟨hinit, by decide +kernel⟩, hsuspect, by decide +kernel⟩

end RbServo.Rbpodo
