import RoboticsLab.Camera.CameraManager
import Mathlib.Data.List.Induction
import Mathlib.Tactic.FinCases

/-!
# Published identity is that of the pipeline

`connected_[name]` becomes true in one section only, after a frame of the pipeline has been seen, and the
info of the pipeline is entered with it; every section that ends a session takes both back (`CameraInv`).
The infos are kept by serial, so a camera that shares its serial with one that reports an info spoils the
entry of the other (`shared_serial_spoils`).  If no two cameras have one name, and those that share a serial
report no info, every snapshot is right.

    names distinct → infos of shared serials are empty → afterActions cfg actions = s →
      connected → a frame of the last pipeline, and its info; not connected → no info;
      stop returned → none connected                                      (snapshot_live)
-/

namespace CameraServer

/-! ## The invariant -/

/-- The cameras that have no supervisor. -/
def Control.joined (running : Bool) (k : ℕ) : Control → Prop
  | .idle => running = false
  | .startEnsure | .startFailed | .stopFinal => True
  | .startSpawn j => j ≤ k
  | .startWait j => j < k
  | .stopClear => False
  | .stopJoin j => k < j
  | .stopDevice j => k ≤ j

/-- `running_` at the steps of `start` and `stop`. -/
def Control.running : Control → Option Bool
  | .idle => none
  | .startEnsure | .startSpawn _ | .startWait _ => some true
  | .startFailed | .stopClear | .stopJoin _ | .stopDevice _ | .stopFinal => some false

def Control.cleared : Control → Bool
  | .stopJoin _ | .stopDevice _ | .stopFinal => true
  | _ => false

namespace CameraManager

variable {n : ℕ} {cfg : ManagerConfig n} {s : CameraManager n}

/-- Another camera has the serial of this one. -/
def SharedSerial (cfg : ManagerConfig n) (i : Fin n) : Prop :=
  ∃ j, j ≠ i ∧ (cfg.cameras j).serial = (cfg.cameras i).serial

/-- A camera that is still reported connected while its supervisor leaves: `stop` is about to clear it. -/
def Leaving (r : CameraRuntime) (connected running : Bool) (control : Control) : Prop :=
  connected → r.pipeline.produced ∧ running = false ∧ control = .stopClear

/-- What holds at each point of `supervise_camera`. -/
def Assertion (r : CameraRuntime) (connected running : Bool) (control : Control) : Prop :=
  match r.pc with
  | .absent | .outerLoop | .retryCheck | .retryWait | .retryCount | .resetFrameTime =>
    r.pipeline.live = false ∧ connected = false
  | .clearIdentity | .openDevice => r.pipeline.live = false ∧ connected = false ∧ r.lastFrameTimeNs = 0
  | .validate => r.pipeline.live ∧ connected = false ∧ (r.lastFrameTimeNs ≠ 0 → r.pipeline.produced)
  | .innerLoop | .innerWait | .loadFrameTime | .checkTimeout | .timeoutSection =>
    r.pipeline.live ∧ r.deviceInfo = r.pipeline.info ∧ (r.lastFrameTimeNs ≠ 0 → r.pipeline.produced) ∧
      (connected → r.pipeline.produced)
  | .publish =>
    r.pipeline.live ∧ r.deviceInfo = r.pipeline.info ∧ (r.lastFrameTimeNs ≠ 0 → r.pipeline.produced) ∧
      r.pipeline.produced
  | .closeDevice | .failedSection => Leaving r connected running control
  | .afterClose | .exited => r.pipeline.live = false ∧ Leaving r connected running control
  | .failedClose => connected = false

structure CameraInv (cfg : ManagerConfig n) (s : CameraManager n) (i : Fin n) : Prop where
  point : Assertion (s.runtimes i) (s.connected (cfg.cameras i).name) s.running s.control
  info : s.realsenseDeviceInfo (cfg.cameras i).serial =
    if s.connected (cfg.cameras i).name then (s.runtimes i).pipeline.info else none
  silent : SharedSerial cfg i → (s.runtimes i).pipeline.info = none

structure Inv (cfg : ManagerConfig n) (s : CameraManager n) : Prop where
  camera : ∀ i, CameraInv cfg s i
  joined : ∀ i : Fin n, s.control.joined s.running i → (s.runtimes i).pc = .absent
  running : ∀ b, s.control.running = some b → s.running = b
  cleared : s.control.cleared → ∀ i, s.connected (cfg.cameras i).name = false

theorem init_inv (cfg : ManagerConfig n) : Inv cfg {} := by
  refine ⟨?_, ?_, ?_, ?_⟩
  · intro i
    exact ⟨⟨rfl, rfl⟩, rfl, fun _ => rfl⟩
  · intro i _
    rfl
  · intro b hb
    simp [Control.running] at hb
  · intro h
    simp [Control.cleared] at h

@[simp] theorem setRuntime_self (s : CameraManager n) (i : Fin n) (r : CameraRuntime) :
    (s.setRuntime i r).runtimes i = r := Function.update_self ..

theorem setRuntime_of_ne {i j : Fin n} (h : j ≠ i) (r : CameraRuntime) :
    (s.setRuntime i r).runtimes j = s.runtimes j := Function.update_of_ne h _ _

/-! ## One camera changes -/

/-- What a step of the supervisor of camera `i` leaves alone. -/
structure OnlyCamera (cfg : ManagerConfig n) (i : Fin n) (s s' : CameraManager n) : Prop where
  runtimes : ∀ j, j ≠ i → s'.runtimes j = s.runtimes j
  connected : ∀ name, name ≠ (cfg.cameras i).name → s'.connected name = s.connected name
  info : ∀ serial, serial ≠ (cfg.cameras i).serial → s'.realsenseDeviceInfo serial = s.realsenseDeviceInfo serial
  running : s'.running = s.running
  control : s'.control = s.control

/-- The other cameras keep their invariant: an entry that they share is empty. -/
theorem OnlyCamera.camera {i j : Fin n} {s' : CameraManager n} (h : OnlyCamera cfg i s s')
    (hnames : Function.Injective fun k => (cfg.cameras k).name) (hi : CameraInv cfg s' i)
    (hj : CameraInv cfg s j) (hne : j ≠ i) : CameraInv cfg s' j := by
  have hr := h.runtimes j hne
  have hc : s'.connected (cfg.cameras j).name = s.connected (cfg.cameras j).name :=
    h.connected _ fun he => hne (hnames he)
  obtain ⟨hpoint, hinfo, hsilent⟩ := hj
  refine ⟨?_, ?_, ?_⟩
  · rw [hr, hc, h.running, h.control]
    exact hpoint
  · rw [hr]
    by_cases hs : (cfg.cameras j).serial = (cfg.cameras i).serial
    · have hi0 : (s'.runtimes i).pipeline.info = none := hi.silent ⟨j, hne, hs⟩
      have hj0 : (s.runtimes j).pipeline.info = none := hsilent ⟨i, Ne.symm hne, hs.symm⟩
      rw [hs, hi.info, hi0, hj0, ite_self, ite_self]
    · rw [h.info _ hs, hc]
      exact hinfo
  · rw [hr]
    exact hsilent

theorem OnlyCamera.inv {i : Fin n} {s' : CameraManager n} (h : OnlyCamera cfg i s s')
    (hnames : Function.Injective fun k => (cfg.cameras k).name) (hs : Inv cfg s) (hi : CameraInv cfg s' i)
    (habsent : (s.runtimes i).pc = .absent → (s'.runtimes i).pc = .absent)
    (hconn : s.running = false → s.connected (cfg.cameras i).name = false →
      s'.connected (cfg.cameras i).name = false) : Inv cfg s' := by
  refine ⟨?_, ?_, ?_, ?_⟩
  · intro j
    by_cases hj : j = i
    · rw [hj]
      exact hi
    · exact h.camera hnames hi (hs.camera j) hj
  · intro j hj
    rw [h.control, h.running] at hj
    have hab := hs.joined j hj
    by_cases hji : j = i
    · subst hji
      exact habsent hab
    · rw [h.runtimes j hji]
      exact hab
  · rw [h.control, h.running]
    exact hs.running
  · rw [h.control]
    intro hcl j
    have hrun : s.running = false := by
      apply hs.running
      cases hctl : s.control <;> rw [hctl] at hcl <;> simp_all [Control.cleared, Control.running]
    by_cases hji : j = i
    · subst hji
      exact hconn hrun (hs.cleared hcl j)
    · rw [h.connected _ fun he => hji (hnames he)]
      exact hs.cleared hcl j

theorem OnlyCamera.refl (cfg : ManagerConfig n) (i : Fin n) (s : CameraManager n) : OnlyCamera cfg i s s :=
  ⟨fun _ _ => rfl, fun _ _ => rfl, fun _ _ => rfl, rfl, rfl⟩

theorem OnlyCamera.setRuntime {i : Fin n} {s' : CameraManager n} (h : OnlyCamera cfg i s s') (r : CameraRuntime) :
    OnlyCamera cfg i s (s'.setRuntime i r) := by
  refine ⟨?_, h.connected, h.info, h.running, h.control⟩
  intro j hj
  rw [setRuntime_of_ne hj]
  exact h.runtimes j hj

theorem OnlyCamera.updateStats {i : Fin n} {s' : CameraManager n} (h : OnlyCamera cfg i s s')
    (f : CameraReconnectStats → CameraReconnectStats) : OnlyCamera cfg i s (s'.updateStats (cfg.cameras i) f) :=
  ⟨h.runtimes, h.connected, h.info, h.running, h.control⟩

theorem OnlyCamera.withdraw {i : Fin n} {s' : CameraManager n} (h : OnlyCamera cfg i s s') :
    OnlyCamera cfg i s (s'.withdraw (cfg.cameras i)) := by
  refine ⟨h.runtimes, ?_, ?_, h.running, h.control⟩
  · intro name hne
    exact (Function.update_of_ne hne _ _).trans (h.connected name hne)
  · intro serial hne
    exact (Function.update_of_ne hne _ _).trans (h.info serial hne)

theorem OnlyCamera.publishIdentity {i : Fin n} {s' : CameraManager n} (h : OnlyCamera cfg i s s')
    (info : Option RealSenseDeviceInfo) : OnlyCamera cfg i s (s'.publishIdentity (cfg.cameras i) info) := by
  refine ⟨h.runtimes, ?_, ?_, h.running, h.control⟩
  · intro name hne
    exact (Function.update_of_ne hne _ _).trans (h.connected name hne)
  · intro serial hne
    exact (Function.update_of_ne hne _ _).trans (h.info serial hne)

theorem superviseCamera_onlyCamera (cfg : ManagerConfig n) (s : CameraManager n) (i : Fin n) (x : Env) :
    OnlyCamera cfg i s (s.superviseCamera cfg i x) := by
  have hs := OnlyCamera.refl cfg i s
  unfold superviseCamera
  dsimp only
  split
  case h_1 => exact hs
  case h_2 => exact hs
  case h_4 =>
    split
    · split
      · exact (hs.updateStats _).setRuntime _
      · exact hs.setRuntime _
    · exact hs.setRuntime _
  case h_6 => exact (hs.updateStats _).setRuntime _
  case h_8 => exact hs.withdraw.setRuntime _
  case h_9 => split <;> exact hs.setRuntime _
  case h_10 =>
    split
    · exact hs.setRuntime _
    · split <;> exact hs.setRuntime _
  case h_14 =>
    split
    · exact ((hs.publishIdentity _).updateStats _).setRuntime _
    · exact hs.setRuntime _
  case h_15 => split <;> exact hs.setRuntime _
  case h_16 => exact (hs.withdraw.updateStats _).setRuntime _
  case h_17 => split <;> exact hs.setRuntime _
  case h_19 => exact (hs.withdraw.updateStats _).setRuntime _
  all_goals exact hs.setRuntime _

/-! ## The supervisor -/

theorem CameraInv.of_runtime {i : Fin n} {r : CameraRuntime}
    (hpoint : Assertion r (s.connected (cfg.cameras i).name) s.running s.control)
    (hinfo : s.realsenseDeviceInfo (cfg.cameras i).serial =
      if s.connected (cfg.cameras i).name then r.pipeline.info else none)
    (hsilent : SharedSerial cfg i → r.pipeline.info = none) : CameraInv cfg (s.setRuntime i r) i := by
  refine ⟨?_, ?_, ?_⟩ <;> rw [setRuntime_self]
  · exact hpoint
  · exact hinfo
  · exact hsilent

/-- A step that changes neither the identity nor what the pipeline reports. -/
theorem CameraInv.goto {i : Fin n} (h : CameraInv cfg s i) {r : CameraRuntime}
    (hp : r.pipeline.info = (s.runtimes i).pipeline.info)
    (hpoint : Assertion r (s.connected (cfg.cameras i).name) s.running s.control) :
    CameraInv cfg (s.setRuntime i r) i := by
  apply CameraInv.of_runtime hpoint
  · rw [hp]
    exact h.info
  · rw [hp]
    exact h.silent

/-- A section that withdraws the identity. -/
theorem CameraInv.withdrawn {i : Fin n} (h : CameraInv cfg s i) {r : CameraRuntime}
    (hp : r.pipeline.info = (s.runtimes i).pipeline.info) (hpoint : Assertion r false s.running s.control) :
    CameraInv cfg ((s.withdraw (cfg.cameras i)).setRuntime i r) i := by
  have hc : (s.withdraw (cfg.cameras i)).connected (cfg.cameras i).name = false := Function.update_self ..
  apply CameraInv.of_runtime
  · rw [hc]
    exact hpoint
  · rw [hc]
    exact Function.update_self ..
  · rw [hp]
    exact h.silent

theorem CameraInv.updateStats {i : Fin n} {r : CameraRuntime} (h : CameraInv cfg (s.setRuntime i r) i)
    (f : CameraReconnectStats → CameraReconnectStats) :
    CameraInv cfg ((s.updateStats (cfg.cameras i) f).setRuntime i r) i := ⟨h.point, h.info, h.silent⟩

theorem validatedDeviceInfo_ok {simulate : Bool} {cam : CameraConfig} {info d : Option RealSenseDeviceInfo}
    (h : validatedDeviceInfo simulate cam info = .ok d) : d = info := by
  unfold validatedDeviceInfo at h
  split at h
  · split at h
    · cases h
    · exact (Except.ok.inj h).symm
  · split at h
    · cases h
    · exact (Except.ok.inj h).symm

/-- **One step** of a supervisor, point by point. -/
theorem superviseCamera_camera {i : Fin n} (h : CameraInv cfg s i)
    (hstop : s.running = false → s.connected (cfg.cameras i).name → s.control = .stopClear) (x : Env)
    (hx : SharedSerial cfg i → x.info = none) : CameraInv cfg (s.superviseCamera cfg i x) i := by
  have hpt := h.point
  unfold superviseCamera
  dsimp only
  split <;> rename_i hpc <;> simp only [Assertion, hpc] at hpt
  case h_1 => exact h
  case h_2 => exact h
  case h_3 =>
    refine h.goto rfl ?_
    by_cases hrun : s.running
    · simp only [hrun, if_true]
      exact hpt
    · simp only [hrun]
      exact ⟨hpt.1, fun hc => absurd hc (by simp [hpt.2])⟩
  case h_4 =>
    split
    · split
      · apply CameraInv.updateStats
        refine h.goto rfl ⟨hpt.1, ?_⟩
        intro hc
        exact absurd hc (by simp [hpt.2])
      · exact h.goto rfl hpt
    · exact h.goto rfl hpt
  case h_5 =>
    refine h.goto rfl ?_
    by_cases hrun : s.running
    · simp only [hrun, if_true]
      exact hpt
    · simp only [hrun]
      exact ⟨hpt.1, fun hc => absurd hc (by simp [hpt.2])⟩
  case h_6 =>
    apply CameraInv.updateStats
    exact h.goto rfl hpt
  case h_7 => exact h.goto rfl ⟨hpt.1, hpt.2, rfl⟩
  case h_8 => exact h.withdrawn rfl ⟨hpt.1, rfl, hpt.2.2⟩
  case h_9 =>
    split
    · exact h.goto rfl fun hc => absurd hc (by simp [hpt.2.1])
    · refine CameraInv.of_runtime ⟨rfl, hpt.2.1, fun h0 => absurd hpt.2.2 h0⟩ ?_ hx
      rw [h.info, hpt.2.1]
      rfl
  case h_10 =>
    split
    · exact h.goto rfl fun hc => absurd hc (by simp [hpt.2.1])
    · split
      · exact h.goto rfl fun hc => absurd hc (by simp [hpt.2.1])
      · next hok =>
        refine h.goto rfl ⟨hpt.1, validatedDeviceInfo_ok hok, hpt.2.2, ?_⟩
        intro hc
        exact absurd hc (by simp [hpt.2.1])
  case h_11 =>
    refine h.goto rfl ?_
    by_cases hrun : s.running
    · simp only [hrun, if_true]
      exact hpt
    · simp only [hrun]
      exact fun hc => ⟨hpt.2.2.2 hc, rfl, hstop (by simpa using hrun) hc⟩
  case h_12 =>
    refine h.goto rfl ?_
    by_cases hrun : s.running
    · simp only [hrun, if_true]
      exact hpt
    · simp only [hrun]
      exact fun hc => ⟨hpt.2.2.2 hc, rfl, hstop (by simpa using hrun) hc⟩
  case h_13 =>
    refine h.goto rfl ?_
    split
    · next hf => exact ⟨hpt.1, hpt.2.1, hpt.2.2.1, hpt.2.2.1 hf.1⟩
    · exact hpt
  case h_14 =>
    split
    · have hc : (s.publishIdentity (cfg.cameras i) (s.runtimes i).deviceInfo).connected (cfg.cameras i).name = true :=
        Function.update_self ..
      refine CameraInv.of_runtime ?_ ?_ h.silent
      · exact ⟨hpt.1, hpt.2.1, hpt.2.2.1, fun _ => hpt.2.2.2⟩
      · show (s.publishIdentity (cfg.cameras i) (s.runtimes i).deviceInfo).realsenseDeviceInfo (cfg.cameras i).serial =
          if (s.publishIdentity (cfg.cameras i) (s.runtimes i).deviceInfo).connected (cfg.cameras i).name then _ else _
        rw [hc, if_pos rfl, ← hpt.2.1]
        exact Function.update_self ..
    · next hrun =>
      have hrun : s.running = false := by simpa using hrun
      exact h.goto rfl fun hc => ⟨hpt.2.2.2, hrun, hstop hrun hc⟩
  case h_15 =>
    split
    · exact h.goto rfl hpt
    · exact h.goto rfl hpt
  case h_16 =>
    apply CameraInv.updateStats
    refine h.withdrawn rfl ?_
    intro hc
    cases hc
  case h_17 =>
    split
    · exact h.goto rfl hpt
    · exact h.goto rfl ⟨rfl, hpt⟩
  case h_18 =>
    refine h.goto (by split <;> rfl) ?_
    split
    · next hrun =>
      refine ⟨hpt.1, ?_⟩
      by_contra hc
      have := (hpt.2 (by simpa using hc)).2.1
      simp [hrun] at this
    · exact hpt
  case h_19 =>
    apply CameraInv.updateStats
    exact h.withdrawn rfl rfl
  case h_20 => exact h.goto rfl ⟨rfl, hpt⟩

/-- A camera that is connected while `running_` is off: `stop` is about to clear it. -/
theorem Inv.stopping (h : Inv cfg s) {i : Fin n} (hrun : s.running = false)
    (hc : s.connected (cfg.cameras i).name) : s.control = .stopClear := by
  have habsent : (s.runtimes i).pc ≠ .absent := by
    intro hpc
    have hpt := (h.camera i).point
    simp only [Assertion, hpc] at hpt
    simp [hpt.2] at hc
  have hjoined := fun hj => habsent (h.joined i hj)
  have hcleared : s.control.cleared = false := by
    by_contra hcl
    simp [h.cleared (by simpa using hcl) i] at hc
  have hon := h.running true
  cases hctl : s.control <;> simp_all [Control.joined, Control.cleared, Control.running]

/-- While `running_` is off no camera becomes connected. -/
theorem superviseCamera_stopped (cfg : ManagerConfig n) (s : CameraManager n) (i : Fin n) (x : Env)
    (hrun : s.running = false) (hc : s.connected (cfg.cameras i).name = false) :
    (s.superviseCamera cfg i x).connected (cfg.cameras i).name = false := by
  have hw : (s.withdraw (cfg.cameras i)).connected (cfg.cameras i).name = false := Function.update_self ..
  unfold superviseCamera
  dsimp only
  split
  case h_4 =>
    split
    · split <;> exact hc
    · exact hc
  case h_8 => exact hw
  case h_9 => split <;> exact hc
  case h_10 =>
    split
    · exact hc
    · split <;> exact hc
  case h_14 =>
    rw [if_neg (by simp [hrun])]
    exact hc
  case h_15 => split <;> exact hc
  case h_16 => exact hw
  case h_17 => split <;> exact hc
  case h_19 => exact hw
  all_goals exact hc

theorem superviseCamera_inv (hnames : Function.Injective fun k => (cfg.cameras k).name) (h : Inv cfg s) (i : Fin n)
    (x : Env) (hx : SharedSerial cfg i → x.info = none) : Inv cfg (s.superviseCamera cfg i x) := by
  have hcam := superviseCamera_camera (h.camera i) (fun hrun hc => h.stopping hrun hc) x hx
  refine (superviseCamera_onlyCamera cfg s i x).inv hnames h hcam ?_ ?_
  · intro hpc
    simp only [superviseCamera, hpc]
  · exact superviseCamera_stopped cfg s i x

/-! ## Frames -/

theorem runtimeNamed_self (hnames : Function.Injective fun k => (cfg.cameras k).name) (i : Fin n) :
    runtimeNamed cfg (cfg.cameras i).name = some i := by
  cases hfind : runtimeNamed cfg (cfg.cameras i).name with
  | none =>
    have := List.find?_eq_none.mp hfind i (List.mem_finRange i)
    simp at this
  | some j =>
    have hj : (cfg.cameras j).name = (cfg.cameras i).name := by simpa using List.find?_some hfind
    rw [hnames hj]

/-- A frame of a live device is one of its pipeline. -/
theorem handleFrame_inv (hnames : Function.Injective fun k => (cfg.cameras k).name) (h : Inv cfg s) (i : Fin n)
    (t : ℕ) : Inv cfg (s.handleFrame cfg i t) := by
  unfold handleFrame
  dsimp only
  split
  · next hlive =>
    simp only [runtimeNamed_self hnames i]
    rw [setRuntime_self]
    refine (((OnlyCamera.refl cfg i s).setRuntime _).setRuntime _).inv hnames h ?_ ?_ ?_
    · have hpt := (h.camera i).point
      refine CameraInv.of_runtime ?_ (h.camera i).info (h.camera i).silent
      show Assertion _ (s.connected (cfg.cameras i).name) s.running s.control
      cases hpc : (s.runtimes i).pc <;>
        simp only [Assertion, Leaving, hpc, hlive] at hpt ⊢ <;> simp_all
    · intro hpc
      have hpt := (h.camera i).point
      simp [Assertion, hpc, hlive] at hpt
    · exact fun _ hc => hc
  · exact h

/-! ## `start` and `stop` -/

/-- Unless `stop` is about to clear, no point depends on where `start` or `stop` is. -/
theorem Assertion.move {r : CameraRuntime} {connected running : Bool} {control : Control}
    (h : Assertion r connected running control) (hne : control ≠ .stopClear) (running' : Bool) (control' : Control) :
    Assertion r connected running' control' := by
  have hleave : Leaving r connected running control → Leaving r connected running' control' := by
    intro hl hc
    exact absurd (hl hc).2.2 hne
  unfold Assertion at h ⊢
  split at h
  case h_16 | h_17 => exact hleave h
  case h_18 | h_19 => exact ⟨h.1, hleave h.2⟩
  all_goals exact h

/-- Every point allows that the camera is not connected. -/
theorem Assertion.disconnect {r : CameraRuntime} {connected running : Bool} {control : Control}
    (h : Assertion r connected running control) (running' : Bool) (control' : Control) :
    Assertion r false running' control' := by
  have hleave : Leaving r false running' control' := by
    intro hc
    cases hc
  unfold Assertion at h ⊢
  split at h
  case h_7 | h_8 | h_9 => exact ⟨h.1, rfl, h.2.2⟩
  case h_10 | h_11 | h_12 | h_13 | h_14 => exact ⟨h.1, h.2.1, h.2.2.1, fun hc => by cases hc⟩
  case h_15 => exact h
  case h_16 | h_17 => exact hleave
  case h_18 | h_19 => exact ⟨h.1, hleave⟩
  case h_20 => rfl
  all_goals exact ⟨h.1, rfl⟩

theorem CameraInv.move {i : Fin n} (h : CameraInv cfg s i) (hne : s.control ≠ .stopClear) (running : Bool)
    (control : Control) : CameraInv cfg { s with running := running, control := control } i :=
  ⟨h.point.move hne running control, h.info, h.silent⟩

theorem CameraInv.clear {i : Fin n} (h : CameraInv cfg s i) (control : Control) :
    CameraInv cfg { s.clearAll with control := control } i :=
  ⟨h.point.disconnect s.running control, rfl, h.silent⟩

theorem start_inv (h : Inv cfg s) : Inv cfg s.start := by
  unfold start
  split
  · next hidle =>
    split
    · exact h
    · next hrun =>
      refine ⟨fun i => (h.camera i).move (by simp [hidle]) true .startEnsure, ?_, ?_, ?_⟩
      · intro i _
        apply h.joined i
        simp [hidle, Control.joined, hrun]
      · intro b hb
        simpa [Control.running] using hb
      · simp [Control.cleared]
  · exact h

theorem stop_inv (h : Inv cfg s) : Inv cfg s.stop := by
  unfold stop
  split
  · next hidle =>
    split
    · refine ⟨fun i => (h.camera i).move (by simp [hidle]) false .stopClear, ?_, ?_, ?_⟩
      · intro i hi
        exact hi.elim
      · intro b hb
        simpa [Control.running] using hb
      · simp [Control.cleared]
    · exact h
  · exact h

theorem CameraInv.spawn {k i : Fin n} (h : CameraInv cfg s i) (hk : (s.runtimes k).pc = .absent) {r : CameraRuntime}
    (hpc : r.pc = .outerLoop) (hp : r.pipeline = (s.runtimes k).pipeline) : CameraInv cfg (s.setRuntime k r) i := by
  by_cases hik : i = k
  · subst hik
    refine h.goto (by rw [hp]) ?_
    have hpt := h.point
    simp only [Assertion, hk] at hpt
    simp only [Assertion, hpc, hp]
    exact hpt
  · refine ⟨?_, ?_, ?_⟩ <;> rw [setRuntime_of_ne hik]
    · exact h.point
    · exact h.info
    · exact h.silent

/-- The runtime of a supervisor that has been joined, or of which the device is closed then. -/
theorem CameraInv.join {k i : Fin n} (h : CameraInv cfg s i) (hc : s.connected (cfg.cameras k).name = false)
    (hk : (s.runtimes k).pc = .absent ∨ (s.runtimes k).pc = .exited) {r : CameraRuntime} (hpc : r.pc = .absent)
    (hlive : (s.runtimes k).pipeline.live = false → r.pipeline.live = false)
    (hp : r.pipeline.info = (s.runtimes k).pipeline.info) : CameraInv cfg (s.setRuntime k r) i := by
  by_cases hik : i = k
  · subst hik
    refine h.goto hp ?_
    have hpt := h.point
    simp only [Assertion, hpc]
    rcases hk with hk | hk <;> simp only [Assertion, hk] at hpt <;> exact ⟨hlive hpt.1, hc⟩
  · refine ⟨?_, ?_, ?_⟩ <;> rw [setRuntime_of_ne hik]
    · exact h.point
    · exact h.info
    · exact h.silent

/-- **One step** of `start` or `stop`. -/
theorem controlStep_inv (h : Inv cfg s) (x : Env) : Inv cfg (s.controlStep x) := by
  have hrun := h.running
  have hjoin := h.joined
  have hclear := h.cleared
  unfold controlStep
  split <;> rename_i hctl <;> simp only [hctl, Control.running, Control.joined, Control.cleared] at hrun hjoin hclear
  case h_1 => exact h
  case h_2 =>
    split
    · refine ⟨fun i => (h.camera i).move (by simp [hctl]) _ _, fun i _ => hjoin i trivial,
      ?_, by simp [Control.cleared]⟩
      intro b hb
      simpa [Control.running] using hb
    · exact ⟨fun i => (h.camera i).move (by simp [hctl]) _ _, fun i _ => hjoin i trivial, hrun,
        by simp [Control.cleared]⟩
  case h_3 =>
    refine ⟨?_, fun i _ => hjoin i trivial, by simp [Control.running], by simp [Control.cleared]⟩
    intro i
    have hi := (h.camera i).clear .idle
    refine ⟨?_, hi.info, hi.silent⟩
    have hab := hjoin i trivial
    show Assertion (closePipeline (s.runtimes i)) false s.running .idle
    simp [Assertion, closePipeline, hab]
  case h_4 k =>
    split
    · next hk =>
      refine ⟨?_, ?_, hrun, by simp [Control.cleared]⟩
      · intro i
        refine CameraInv.move (s := s.setRuntime ⟨k, hk⟩ _) ?_ (by simp [setRuntime, hctl]) _ _
        apply (h.camera i).spawn (hjoin ⟨k, hk⟩ le_rfl) <;> rfl
      · intro i hi
        have hne : i ≠ ⟨k, hk⟩ := by
          rintro rfl
          simp [Control.joined] at hi
        have hle : k ≤ i := Nat.le_of_lt hi
        show ((s.setRuntime ⟨k, hk⟩ _).runtimes i).pc = .absent
        rw [setRuntime_of_ne hne]
        exact hjoin i hle
    · refine ⟨fun i => (h.camera i).move (by simp [hctl]) _ _, ?_, by simp [Control.running], by simp [Control.cleared]⟩
      intro i hi
      rw [hrun true rfl] at hi
      simp [Control.joined] at hi
  case h_5 k =>
    exact ⟨fun i => (h.camera i).move (by simp [hctl]) _ _, fun i hi => hjoin i hi, hrun, by simp [Control.cleared]⟩
  case h_6 =>
    exact ⟨fun i => (h.camera i).clear _, fun i hi => absurd hi (Nat.not_lt_zero _), hrun, fun _ _ => rfl⟩
  case h_7 k =>
    split
    · next hk =>
      split
      · next hpc =>
        refine ⟨?_, ?_, hrun, fun _ => hclear trivial⟩
        · intro i
          refine CameraInv.move (s := s.setRuntime ⟨k, hk⟩ _) ?_ (by simp [setRuntime, hctl]) _ _
          apply (h.camera i).join (hclear trivial _) hpc
          · rfl
          · exact id
          · rfl
        · intro i hi
          have hle : (i : ℕ) ≤ k := hi
          show ((s.setRuntime ⟨k, hk⟩ _).runtimes i).pc = .absent
          by_cases hik : i = ⟨k, hk⟩
          · rw [hik, setRuntime_self]
          · have hne : (i : ℕ) ≠ k := fun he => hik (Fin.ext he)
            rw [setRuntime_of_ne hik]
            exact hjoin i (by omega)
      · exact h
    · next hk =>
      refine ⟨fun i => (h.camera i).move (by simp [hctl]) _ _, ?_, hrun, fun _ => hclear trivial⟩
      intro i _
      apply hjoin i
      omega
  case h_8 k =>
    split
    · next hk =>
      have hpc : (s.runtimes ⟨k, hk⟩).pc = .absent := hjoin ⟨k, hk⟩ le_rfl
      refine ⟨?_, ?_, hrun, fun _ => hclear trivial⟩
      · intro i
        refine CameraInv.move (s := s.setRuntime ⟨k, hk⟩ _) ?_ (by simp [setRuntime, hctl]) _ _
        apply (h.camera i).join (hclear trivial _) (Or.inl hpc)
        · exact hpc
        · exact fun _ => rfl
        · rfl
      · intro i hi
        have hle : (i : ℕ) ≤ k := Nat.lt_succ_iff.mp hi
        show ((s.setRuntime ⟨k, hk⟩ _).runtimes i).pc = .absent
        by_cases hik : i = ⟨k, hk⟩
        · rw [hik, setRuntime_self]
          exact hpc
        · rw [setRuntime_of_ne hik]
          exact hjoin i hle
    · exact h
  case h_9 =>
    exact ⟨fun i => (h.camera i).clear _, fun i _ => hjoin i trivial, by simp [Control.running],
      by simp [Control.cleared]⟩

/-! ## Whole runs -/

theorem act_inv (hnames : Function.Injective fun k => (cfg.cameras k).name) (h : Inv cfg s) (a : Action n)
    (ha : ∀ i x, a = .supervise i x → SharedSerial cfg i → x.info = none) : Inv cfg (s.act cfg a) := by
  cases a with
  | supervise i x => exact superviseCamera_inv hnames h i x (ha i x rfl)
  | frame i t => exact handleFrame_inv hnames h i t
  | start => exact start_inv h
  | stop => exact stop_inv h
  | control x => exact controlStep_inv h x

/-- **Whole runs** keep the invariant, if devices of a shared serial report no info. -/
theorem afterActions_inv (hnames : Function.Injective fun k => (cfg.cameras k).name) (actions : List (Action n))
    (hsilent : ∀ i x, .supervise i x ∈ actions → SharedSerial cfg i → x.info = none) :
    Inv cfg (afterActions cfg actions) := by
  induction actions using List.reverseRecOn with
  | nil => exact init_inv cfg
  | append_singleton actions a ih =>
    rw [afterActions, List.foldl_append]
    refine act_inv hnames (ih fun i x hx => hsilent i x (List.mem_append_left _ hx)) a ?_
    rintro i x rfl
    exact hsilent i x (by simp)

/-- A manager that is not running stays so until `start` is called. -/
theorem act_idle {a : Action n} (ha : a ≠ .start) (hidle : s.control = .idle) (hrun : s.running = false) :
    (s.act cfg a).control = .idle ∧ (s.act cfg a).running = false := by
  cases a with
  | supervise i x =>
    have hs := superviseCamera_onlyCamera cfg s i x
    exact ⟨hs.control.trans hidle, hs.running.trans hrun⟩
  | frame i t =>
    show (s.handleFrame cfg i t).control = .idle ∧ (s.handleFrame cfg i t).running = false
    unfold handleFrame
    dsimp only
    split
    · split <;> exact ⟨hidle, hrun⟩
    · exact ⟨hidle, hrun⟩
  | start => exact absurd rfl ha
  | stop =>
    show s.stop.control = .idle ∧ s.stop.running = false
    rw [stop, if_pos hidle, if_neg (by simp [hrun])]
    exact ⟨hidle, hrun⟩
  | control x =>
    show (s.controlStep x).control = .idle ∧ (s.controlStep x).running = false
    simp only [controlStep, hidle]
    exact ⟨trivial, hrun⟩

theorem foldl_act_idle {actions : List (Action n)} (ha : .start ∉ actions) (hidle : s.control = .idle)
    (hrun : s.running = false) :
    (actions.foldl (fun s a => s.act cfg a) s).control = .idle ∧
      (actions.foldl (fun s a => s.act cfg a) s).running = false := by
  induction actions generalizing s with
  | nil => exact ⟨hidle, hrun⟩
  | cons a actions ih =>
    have hne : a ≠ .start := fun he => ha (by simp [he])
    obtain ⟨h1, h2⟩ : (s.act cfg a).control = .idle ∧ (s.act cfg a).running = false := act_idle hne hidle hrun
    exact ih (fun hm => ha (List.mem_cons_of_mem _ hm)) h1 h2

/-! ## Snapshots -/

theorem addSession_of_ne (hnames : Function.Injective fun k => (cfg.cameras k).name)
    (session : String → Option SessionInfo) {i j : Fin n} (hne : i ≠ j) :
    s.addSession cfg session j (cfg.cameras i).name = session (cfg.cameras i).name := by
  rw [addSession]
  cases s.realsenseDeviceInfo (cfg.cameras j).serial with
  | none => rfl
  | some d => exact Function.update_of_ne (fun he => hne (hnames he)) _ _

theorem foldl_addSession (hnames : Function.Injective fun k => (cfg.cameras k).name) (l : List (Fin n))
    (hl : l.Nodup) (session : String → Option SessionInfo) (i : Fin n) (h0 : session (cfg.cameras i).name = none) :
    l.foldl (s.addSession cfg) session (cfg.cameras i).name =
      if i ∈ l then (s.realsenseDeviceInfo (cfg.cameras i).serial).map sessionInfo else none := by
  induction l using List.reverseRecOn with
  | nil => simpa using h0
  | append_singleton l j ih =>
    obtain ⟨hnd, -, hj⟩ := List.nodup_append.mp hl
    rw [List.foldl_append, List.foldl_cons, List.foldl_nil]
    by_cases hij : i = j
    · subst hij
      have hnot : i ∉ l := fun hm => hj i hm i (by simp) rfl
      have ih' := ih hnd
      rw [if_neg hnot] at ih'
      rw [if_pos (by simp), addSession]
      cases hinfo : s.realsenseDeviceInfo (cfg.cameras i).serial with
      | none => exact ih'
      | some d => exact Function.update_self ..
    · rw [addSession_of_ne hnames _ hij, ih hnd]
      simp [hij]

/-- The entries of a camera in a snapshot. -/
theorem snapshot_session (hnames : Function.Injective fun k => (cfg.cameras k).name) (i : Fin n) :
    (s.snapshot cfg).cameraSession (cfg.cameras i).name =
      (s.realsenseDeviceInfo (cfg.cameras i).serial).map sessionInfo := by
  have h := foldl_addSession (s := s) hnames (List.finRange n) (List.nodup_finRange n) (fun _ => none) i rfl
  rw [if_pos (List.mem_finRange i)] at h
  exact h

/-- A connected camera has a frame of its last pipeline, which is open as long as `stop` is not called. -/
theorem Inv.connected_produced (h : Inv cfg s) {i : Fin n} (hc : s.connected (cfg.cameras i).name) :
    (s.runtimes i).pipeline.produced ∧ (s.running → (s.runtimes i).pipeline.live) := by
  have hpt := (h.camera i).point
  have hleave : Leaving (s.runtimes i) (s.connected (cfg.cameras i).name) s.running s.control →
      (s.runtimes i).pipeline.produced ∧ (s.running → (s.runtimes i).pipeline.live) := by
    intro hl
    obtain ⟨hp, hrun, -⟩ := hl hc
    exact ⟨hp, fun hr => absurd hr (by simp [hrun])⟩
  rw [hc] at hpt hleave
  unfold Assertion at hpt
  split at hpt
  case h_7 | h_8 | h_9 => cases hpt.2.1
  case h_10 | h_11 | h_12 | h_13 | h_14 => exact ⟨hpt.2.2.2 rfl, fun _ => hpt.1⟩
  case h_15 => exact ⟨hpt.2.2.2, fun _ => hpt.1⟩
  case h_16 | h_17 => exact hleave hpt
  case h_18 | h_19 => exact hleave hpt.2
  case h_20 => cases hpt
  all_goals cases hpt.2

/-- Every snapshot of a run: what it says of a connected camera is so of its last pipeline, it says nothing of
the session of another one, and after `stop` has returned no camera is connected until `start` is called. -/
theorem snapshot_live (hnames : Function.Injective fun k => (cfg.cameras k).name) {actions : List (Action n)}
    (hsilent : ∀ i x, .supervise i x ∈ actions → SharedSerial cfg i → x.info = none) :
    (∀ i, ((afterActions cfg actions).snapshot cfg).cameraConnected (cfg.cameras i).name = true →
      ((afterActions cfg actions).runtimes i).pipeline.produced ∧
      ((afterActions cfg actions).running → ((afterActions cfg actions).runtimes i).pipeline.live) ∧
      ((afterActions cfg actions).snapshot cfg).cameraSession (cfg.cameras i).name =
        ((afterActions cfg actions).runtimes i).pipeline.info.map sessionInfo) ∧
    (∀ i, ((afterActions cfg actions).snapshot cfg).cameraConnected (cfg.cameras i).name = false →
      ((afterActions cfg actions).snapshot cfg).cameraSession (cfg.cameras i).name = none) ∧
    ∀ pre post, actions = pre ++ post → (afterActions cfg pre).control = .idle →
      (afterActions cfg pre).running = false → .start ∉ post →
      ∀ i, ((afterActions cfg actions).snapshot cfg).cameraConnected (cfg.cameras i).name = false := by
  have h := afterActions_inv hnames actions hsilent
  have hsnap : ((afterActions cfg actions).snapshot cfg).cameraConnected = (afterActions cfg actions).connected := rfl
  rw [hsnap]
  refine ⟨?_, ?_, ?_⟩
  · intro i hc
    obtain ⟨h1, h2⟩ := h.connected_produced hc
    refine ⟨h1, h2, ?_⟩
    rw [snapshot_session hnames, (h.camera i).info, if_pos hc]
  · intro i hc
    rw [snapshot_session hnames, (h.camera i).info, if_neg (by simpa using hc)]
    rfl
  · rintro pre post rfl hidle hrun hpost i
    have hfold : afterActions cfg (pre ++ post) = post.foldl (fun s a => s.act cfg a) (afterActions cfg pre) :=
      List.foldl_append
    obtain ⟨hidle', hrun'⟩ : (afterActions cfg (pre ++ post)).control = .idle ∧
        (afterActions cfg (pre ++ post)).running = false := by
      rw [hfold]
      exact foldl_act_idle hpost hidle hrun
    by_contra hc
    have hstop := h.stopping hrun' (by simpa using hc)
    rw [hidle'] at hstop
    cases hstop

/-! ## Two cameras -/

def colorStream : CameraStreamConfig := ⟨true, 640, 480, 30, "rgb8"⟩

def offStream : CameraStreamConfig := ⟨false, 640, 480, 30, "rgb8"⟩

def headCamera : CameraConfig := ⟨"head", "realsense", "123", "", true, colorStream, offStream, offStream, offStream⟩

def wristCamera (serial : String) : CameraConfig :=
  ⟨"wrist", "uvc", serial, "/dev/video0", true, colorStream, offStream, offStream, offStream⟩

def twoCameras (wristSerial : String) : ManagerConfig 2 :=
  ⟨fun i => if i = 0 then headCamera else wristCamera wristSerial, false, 0, 2000⟩

def headInfo : RealSenseDeviceInfo := ⟨"D435", "123", "5.16", "5.16", "2-1", "0B07", "3.2"⟩

/-- `start`, and the head camera's supervisor until it has published the camera. -/
def headStreams : List (Action 2) :=
  [.start, .control {}, .control {}] ++ List.replicate 5 (.supervise 0 { info := some headInfo }) ++
    [.supervise 0 {}, .frame 0 7] ++ List.replicate 4 (.supervise 0 {})

theorem twoCameras_names (serial : String) : Function.Injective fun k => ((twoCameras serial).cameras k).name := by
  intro i j hij
  fin_cases i <;> fin_cases j <;> simp_all [twoCameras, headCamera, wristCamera]

/-- With serials of their own: the head camera is published with its info. -/
theorem snapshot_live_head :
    ((afterActions (twoCameras "01.00.00") headStreams).snapshot (twoCameras "01.00.00")).cameraSession "head" =
      some (sessionInfo headInfo) := by
  have hshared : ∀ i, ¬SharedSerial (twoCameras "01.00.00") i := by
    rintro i ⟨j, hji, hs⟩
    fin_cases i <;> fin_cases j <;> simp_all [twoCameras, headCamera, wristCamera]
  have hsilent : ∀ i x, .supervise i x ∈ headStreams → SharedSerial (twoCameras "01.00.00") i → x.info = none :=
    fun i x _ hsh => absurd hsh (hshared i)
  have h := (snapshot_live (twoCameras_names "01.00.00") hsilent).1 0 (by decide +kernel)
  exact h.2.2.trans (by decide +kernel)

/-- The wrist camera has the serial of the head camera, as `validate_config` allows: it is not connected, and
the snapshot has the head camera's device for it. -/
theorem shared_serial_spoils :
    validateCameras false [headCamera, wristCamera "123"] = .ok () ∧
    ((afterActions (twoCameras "123") headStreams).snapshot (twoCameras "123")).cameraConnected "wrist" = false ∧
    ((afterActions (twoCameras "123") headStreams).snapshot (twoCameras "123")).cameraSession "wrist" =
      some (sessionInfo headInfo) := by
  refine ⟨?_, ?_, ?_⟩ <;> decide +kernel

end CameraManager

end CameraServer
