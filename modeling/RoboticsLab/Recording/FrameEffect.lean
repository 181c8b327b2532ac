import RoboticsLab.Recording.EpisodeBuffer
import RoboticsLab.Lib.Runs

/-!
# What one call of `record_frame` appends

For an accepted call that returns normally (`Stored`):

    every state and action list grows by one, the bundle lists with a camera client  (length_of_stored)
    a camera's list grows once per mention of it in the listed cameras, if its frame is there or the
      camera already has images; else it does not grow                                (images_of_stored)

A call that raises may have appended a part of its row.  `after` is the buffer of a run, `accepted` and `stored`
are its accepted calls and those of them that returned.
-/

open Runs Raising

namespace PolicyRunner

/-! ## Cells -/

/-- The parts of the buffer `appendCell` does not touch. -/
def SameImages (ep ep' : EpisodeBuffer) : Prop :=
  ep'.images = ep.images ∧ ep'.imageShapes = ep.imageShapes ∧ ep'.imageDtypes = ep.imageDtypes ∧
    ep'.lastAppendedMonotonic = ep.lastAppendedMonotonic

theorem SameImages.refl (ep : EpisodeBuffer) : SameImages ep ep := ⟨rfl, rfl, rfl, rfl⟩

theorem SameImages.trans {a b c : EpisodeBuffer} (h : SameImages a b) (h' : SameImages b c) : SameImages a c := by
  obtain ⟨h1, h2, h3, h4⟩ := h
  obtain ⟨h1', h2', h3', h4'⟩ := h'
  exact ⟨h1'.trans h1, h2'.trans h2, h3'.trans h3, h4'.trans h4⟩

theorem sameImages_appendCell (cell : Column × Except PyError Cell) (ep : EpisodeBuffer) :
    SameImages ep (post (appendCell cell ep)) := by
  unfold appendCell
  split <;> exact ⟨rfl, rfl, rfl, rfl⟩

theorem sameImages_appendCells (cells : List (Column × Except PyError Cell)) (ep : EpisodeBuffer) :
    SameImages ep (post (cells.forM appendCell ep)) :=
  post_forM appendCell SameImages .refl .trans cells (fun cell _ => sameImages_appendCell cell) ep

theorem length_append (c c' : Column) (v : Cell) (ep : EpisodeBuffer) :
    ((ep.append c v).columns c').length = (ep.columns c').length + if c = c' then 1 else 0 := by
  by_cases h : c = c'
  · subst h
    simp [EpisodeBuffer.append]
  · simp [EpisodeBuffer.append, h, Function.update_of_ne (Ne.symm h)]

/-- No list shrinks. -/
def Grows (ep ep' : EpisodeBuffer) : Prop := ∀ c, (ep.columns c).length ≤ (ep'.columns c).length

theorem Grows.refl (ep : EpisodeBuffer) : Grows ep ep := fun _ => le_rfl

theorem Grows.trans {a b c : EpisodeBuffer} (h : Grows a b) (h' : Grows b c) : Grows a c :=
  fun col => (h col).trans (h' col)

theorem grows_appendCell (cell : Column × Except PyError Cell) (ep : EpisodeBuffer) :
    Grows ep (post (appendCell cell ep)) := by
  intro c
  unfold appendCell
  split
  · simp only [post_ok, length_append]
    omega
  · simp

theorem grows_appendCells (cells : List (Column × Except PyError Cell)) (ep : EpisodeBuffer) :
    Grows ep (post (cells.forM appendCell ep)) :=
  post_forM appendCell Grows .refl .trans cells (fun cell _ => grows_appendCell cell) ep

/-- Cells that are all appended: a list grows by the number of cells that name it. -/
theorem length_appendCells (cells : List (Column × Except PyError Cell)) (ep : EpisodeBuffer)
    (h : Returned (cells.forM appendCell ep)) (c : Column) :
    ((post (cells.forM appendCell ep)).columns c).length
      = (ep.columns c).length + (cells.map Prod.fst).count c := by
  induction cells generalizing ep with
  | nil => simp
  | cons cell cells ih =>
    rw [forM_cons_eq] at h ⊢
    obtain ⟨hcell, hrest⟩ := (returned_seq _ _ _).mp h
    rw [post_seq_of_returned hcell, ih _ hrest]
    obtain ⟨c', v⟩ := cell
    cases v with
    | error e => exact absurd hcell (not_returned_error e ep)
    | ok v =>
      show ((ep.append c' v).columns c).length + _ = _
      rw [length_append, List.map_cons, List.count_cons]
      simp only [beq_iff_eq]
      omega

/-! ## The columns of a frame -/

def bothColumns (c : ArmColumn) : List Column := [.arm c .left, .arm c .right]

@[simp] theorem bothSides_columns (c : ArmColumn) (value : Side → Except PyError Cell) :
    (bothSides c value).map Prod.fst = bothColumns c := rfl

/-- The lists `record_frame` appends to before the cameras, in its order. -/
def frameColumns : List Column :=
  bothColumns .qpos ++ bothColumns .qsent ++ bothColumns .tcpStand ++ bothColumns .qRef
  ++ bothColumns .tcpActualStand ++ bothColumns .tcpRefStand ++ bothColumns .tcpActualValid
  ++ bothColumns .tcpRefValid ++ bothColumns .tcpTrackingSource ++ bothColumns .diagnosticsSuspect
  ++ bothColumns .sendDurationUs ++ bothColumns .ackPolicy ++ bothColumns .controllerAcceptanceObserved
  ++ [.faultLatched, .stateAgeUs, .stateHostTimeNs, .commandSeq]
  ++ ([.actionMode, .actionSourceId] ++ bothColumns .actionTcpTargetStand ++ bothColumns .actionJointTarget
  ++ bothColumns .actionSpacemouseAxes ++ bothColumns .actionSpacemouseButtons ++ bothColumns .actionDeadman)
  ++ [.actionHostTimeNs, .actionSeq]

theorem frameCells_columns (py : PyText) (call : FrameCall) :
    (frameCells py call).map Prod.fst = frameColumns := by
  unfold frameCells stateCells actionCells frameColumns
  cases call.actionPacket with
  | none => simp only [List.map_append, bothSides_columns, List.map_cons, List.map_nil]
  | some packet => simp only [List.map_append, bothSides_columns, List.map_cons, List.map_nil]

/-- Each state and action list is named once. -/
theorem count_frameColumns (c : Column) : frameColumns.count c = if c.isBundle then 0 else 1 := by
  cases c with
  | arm c s => cases c <;> cases s <;> rfl
  | _ => rfl

theorem count_bundleCells (clockNs : ℤ) (bundle : Option CameraBundle) (c : Column) :
    ((bundleCells clockNs bundle).map Prod.fst).count c = if c.isBundle then 1 else 0 := by
  cases bundle <;> cases c <;> rfl

/-! ## Cameras -/

/-- A camera's shape is known once it has an image. -/
def ShapesKnown (ep : EpisodeBuffer) : Prop := ∀ cam, (ep.imageShapes cam).isSome ↔ ep.images cam ≠ []

/-- What one pass of the camera loop does: nothing, or one more image of a camera whose shape is then known. -/
inductive CameraPass (bundle : Option CameraBundle) (cam : String) (ep ep' : EpisodeBuffer) : Prop
  | skipped (same : ep' = ep) (absent : frameOf bundle cam = none) (unknown : ep.imageShapes cam = none)
  | appended (p : Pixels) (images : ep'.images = Function.update ep.images cam (ep.images cam ++ [p]))
    (shapes : ∀ cam', (ep'.imageShapes cam').isSome ↔ cam' = cam ∨ (ep.imageShapes cam').isSome)
    (there : (frameOf bundle cam).isSome ∨ (ep.imageShapes cam).isSome)
    (columns : ep'.columns = ep.columns) (last : ep'.lastAppendedMonotonic = ep.lastAppendedMonotonic)

theorem noteShape_isSome (cam cam' : String) (p : Pixels) (ep : EpisodeBuffer) :
    ((ep.noteShape cam p).imageShapes cam').isSome ↔ cam' = cam ∨ (ep.imageShapes cam').isSome := by
  by_cases h : cam' = cam
  · subst h
    simp [EpisodeBuffer.noteShape]
  · simp [EpisodeBuffer.noteShape, h]

/-- **One pass of the camera loop.**  It raises with the buffer as it was, or it is a `CameraPass`. -/
theorem recordCamera_cases (r : Hdf5EpisodeRecorder) (bundle : Option CameraBundle) (cam : String)
    (ep : EpisodeBuffer) :
    (∃ e, r.recordCamera bundle cam ep = .error e ep) ∨
      ∃ ep', r.recordCamera bundle cam ep = .ok () ep' ∧ CameraPass bundle cam ep ep' := by
  unfold Hdf5EpisodeRecorder.recordCamera
  cases hf : frameOf bundle cam with
  | some frame =>
    have hpass : CameraPass bundle cam ep
        ((ep.noteShape cam frame.ascontiguousarray).appendImage cam frame.ascontiguousarray) :=
      .appended frame.ascontiguousarray rfl (noteShape_isSome cam · _ ep) (.inl (by rw [hf]; rfl)) rfl rfl
    dsimp only
    split
    · exact .inl ⟨_, rfl⟩
    · split
      · split
        · exact .inl ⟨_, rfl⟩
        · exact .inr ⟨_, rfl, hpass⟩
      · exact .inr ⟨_, rfl, hpass⟩
  | none =>
    dsimp only
    split
    · cases hs : ep.imageShapes cam with
      | none => exact .inr ⟨_, rfl, .skipped rfl hf hs⟩
      | some shape =>
        refine .inr ⟨_, rfl, .appended _ rfl (fun cam' => ?_) (.inr (by rw [hs]; rfl)) rfl rfl⟩
        show (ep.imageShapes cam').isSome ↔ _
        constructor
        · exact .inr
        · rintro (rfl | h)
          · rw [hs]; rfl
          · exact h
    · exact .inl ⟨_, rfl⟩

theorem CameraPass.shapesKnown {bundle : Option CameraBundle} {cam : String} {ep ep' : EpisodeBuffer}
    (h : CameraPass bundle cam ep ep') (hk : ShapesKnown ep) : ShapesKnown ep' := by
  cases h with
  | skipped same => exact same ▸ hk
  | appended p images shapes =>
    intro cam'
    rw [shapes, images]
    by_cases he : cam' = cam
    · subst he
      simp
    · simp [he, hk cam']

/-- How many images a camera gains from a bundle whose listed cameras are `cams`. -/
def gain (bundle : Option CameraBundle) (cams : List String) (ep : EpisodeBuffer) (cam : String) : ℕ :=
  if (frameOf bundle cam).isSome ∨ ep.images cam ≠ [] then cams.count cam else 0

/-- A pass on the camera itself leaves the rest of the loop the rest of its gain. -/
theorem CameraPass.length_add_gain {bundle : Option CameraBundle} {cam : String} {ep ep' : EpisodeBuffer}
    (h : CameraPass bundle cam ep ep') (hk : ShapesKnown ep) (cams : List String) (cam' : String) :
    (ep'.images cam').length + gain bundle cams ep' cam'
      = (ep.images cam').length + gain bundle (cam :: cams) ep cam' := by
  unfold gain
  cases h with
  | skipped same absent unknown =>
    subst same
    by_cases he : cam' = cam
    · subst he
      have hnone : ep'.images cam' = [] := by
        by_contra hne
        have hsome := (hk cam').mpr hne
        rw [unknown] at hsome
        exact absurd hsome (by simp)
      simp [absent, hnone]
    · rw [List.count_cons_of_ne (Ne.symm he)]
  | appended p images shapes there =>
    by_cases he : cam' = cam
    · subst he
      have hthere : (frameOf bundle cam').isSome ∨ ep.images cam' ≠ [] := there.imp id (hk cam').mp
      rw [if_pos hthere, if_pos (.inr (by simp [images])), images, List.count_cons_self]
      simp
      omega
    · rw [List.count_cons_of_ne (Ne.symm he), images, Function.update_of_ne he]

/-- **The camera loop.**  Without an exception, each camera gains its `gain`. -/
theorem images_recordCameras (r : Hdf5EpisodeRecorder) (bundle : Option CameraBundle) (cams : List String)
    (ep : EpisodeBuffer) (hk : ShapesKnown ep) (h : Returned (cams.forM (r.recordCamera bundle) ep))
    (cam : String) :
    ((post (cams.forM (r.recordCamera bundle) ep)).images cam).length
      = (ep.images cam).length + gain bundle cams ep cam := by
  induction cams generalizing ep with
  | nil => simp [gain]
  | cons c cams ih =>
    rw [forM_cons_eq] at h ⊢
    obtain ⟨hpass, hrest⟩ := (returned_seq _ _ _).mp h
    rw [post_seq_of_returned hpass]
    obtain ⟨e, he⟩ | ⟨ep', he, hp⟩ := recordCamera_cases r bundle c ep
    · rw [he] at hpass
      exact absurd hpass (not_returned_error e ep)
    · rw [he, post_ok] at hrest ⊢
      rw [ih ep' (hp.shapesKnown hk) hrest]
      exact hp.length_add_gain hk cams cam

/-- The camera loop keeps the lists and the limiter's clock, and the shapes stay known. -/
def CamerasOnly (ep ep' : EpisodeBuffer) : Prop :=
  ep'.columns = ep.columns ∧ ep'.lastAppendedMonotonic = ep.lastAppendedMonotonic ∧
    (ShapesKnown ep → ShapesKnown ep')

theorem CamerasOnly.refl (ep : EpisodeBuffer) : CamerasOnly ep ep := ⟨rfl, rfl, id⟩

theorem CamerasOnly.trans {a b c : EpisodeBuffer} (h : CamerasOnly a b) (h' : CamerasOnly b c) :
    CamerasOnly a c := ⟨h'.1.trans h.1, h'.2.1.trans h.2.1, h'.2.2 ∘ h.2.2⟩

theorem camerasOnly_recordCameras (r : Hdf5EpisodeRecorder) (bundle : Option CameraBundle)
    (cams : List String) (ep : EpisodeBuffer) :
    CamerasOnly ep (post (cams.forM (r.recordCamera bundle) ep)) := by
  apply post_forM _ CamerasOnly .refl .trans
  intro cam _ ep
  obtain ⟨e, he⟩ | ⟨ep', he, hp⟩ := recordCamera_cases r bundle cam ep
  · rw [he]
    exact .refl ep
  · rw [he, post_ok]
    refine ⟨?_, ?_, hp.shapesKnown⟩
    · cases hp with
      | skipped same => rw [same]
      | appended _ _ _ _ columns => exact columns
    · cases hp with
      | skipped same => rw [same]
      | appended _ _ _ _ _ last => exact last

/-! ## One call -/

/-- The bundle the call received. -/
def FrameCall.bundle (call : FrameCall) : Option CameraBundle :=
  match call.receive with
  | .ok bundle => bundle
  | .error _ => none

/-- The cameras the call goes through. -/
def Hdf5EpisodeRecorder.listed (r : Hdf5EpisodeRecorder) (call : FrameCall) : List String :=
  if r.hasCameraClient then r.cameras call.bundle else []

/-- The call's bundle has a frame of the camera. -/
def FrameCall.Present (call : FrameCall) (cam : String) : Prop := (frameOf call.bundle cam).isSome

instance (call : FrameCall) (cam : String) : Decidable (call.Present cam) := by
  unfold FrameCall.Present
  infer_instance

/-- The rate limiter lets the call through. -/
def Hdf5EpisodeRecorder.Accepts (r : Hdf5EpisodeRecorder) (ep : EpisodeBuffer) (call : FrameCall) : Prop :=
  (r.due ep.lastAppendedMonotonic call.now).isSome

instance (r : Hdf5EpisodeRecorder) (ep : EpisodeBuffer) (call : FrameCall) : Decidable (r.Accepts ep call) := by
  unfold Hdf5EpisodeRecorder.Accepts
  infer_instance

variable (py : PyText) (r : Hdf5EpisodeRecorder) {ep : EpisodeBuffer} {call : FrameCall}

theorem recordCameraFrame_noClient (call : FrameCall) (hc : r.hasCameraClient = false) :
    r.recordCameraFrame call = pure () := by
  unfold Hdf5EpisodeRecorder.recordCameraFrame
  rw [hc]
  rfl

/-- The camera part of an accepted call: an exception of the client, or the bundle lists and the camera loop. -/
theorem recordCameraFrame_cases (call : FrameCall) (hc : r.hasCameraClient = true) :
    (∃ e, r.recordCameraFrame call = throw e) ∨
      r.recordCameraFrame call = ((bundleCells call.bundleClockNs call.bundle).forM appendCell >>= fun _ =>
        (r.listed call).forM (r.recordCamera call.bundle)) := by
  unfold Hdf5EpisodeRecorder.recordCameraFrame Hdf5EpisodeRecorder.listed FrameCall.bundle
  rw [if_pos hc, if_pos hc]
  cases call.receive with
  | error e => exact .inl ⟨e, rfl⟩
  | ok bundle => exact .inr rfl

theorem shapesKnown_congr {ep ep' : EpisodeBuffer} (h : SameImages ep ep') (hk : ShapesKnown ep) :
    ShapesKnown ep' := by
  intro cam
  rw [h.1, h.2.1]
  exact hk cam

/-- Raised or not, the camera part shrinks no list, keeps the clock and keeps the shapes known. -/
theorem recordCameraFrame_keeps (ep : EpisodeBuffer) :
    Grows ep (post (r.recordCameraFrame call ep)) ∧
    (post (r.recordCameraFrame call ep)).lastAppendedMonotonic = ep.lastAppendedMonotonic ∧
    (ShapesKnown ep → ShapesKnown (post (r.recordCameraFrame call ep))) := by
  cases hc : r.hasCameraClient with
  | false =>
    rw [recordCameraFrame_noClient r call hc]
    exact ⟨.refl ep, rfl, id⟩
  | true =>
    obtain ⟨e, he⟩ | he := recordCameraFrame_cases r call hc
    · rw [he]
      exact ⟨.refl ep, rfl, id⟩
    · rw [he]
      apply post_seq (fun a b => Grows a b ∧ b.lastAppendedMonotonic = a.lastAppendedMonotonic ∧
        (ShapesKnown a → ShapesKnown b))
      · rintro s t u ⟨h1, h2, h3⟩ ⟨h1', h2', h3'⟩
        exact ⟨h1.trans h1', h2'.trans h2, h3' ∘ h3⟩
      · intro s
        have hsame := sameImages_appendCells (bundleCells call.bundleClockNs call.bundle) s
        exact ⟨grows_appendCells _ s, hsame.2.2.2, shapesKnown_congr hsame⟩
      · intro s
        obtain ⟨hcol, hlast, hk⟩ := camerasOnly_recordCameras r call.bundle (r.listed call) s
        exact ⟨fun c => by rw [hcol], hlast, hk⟩

/-- The camera part of a call that returns. -/
theorem recordCameraFrame_returned (hk : ShapesKnown ep) (h : Returned (r.recordCameraFrame call ep)) :
    (∀ c, ((post (r.recordCameraFrame call ep)).columns c).length
      = (ep.columns c).length + if c.isBundle ∧ r.hasCameraClient then 1 else 0) ∧
    ∀ cam, ((post (r.recordCameraFrame call ep)).images cam).length
      = (ep.images cam).length + if call.Present cam ∨ ep.images cam ≠ [] then (r.listed call).count cam else 0 := by
  cases hc : r.hasCameraClient with
  | false =>
    rw [recordCameraFrame_noClient r call hc]
    refine ⟨fun c => by simp [pure, EStateM.pure], fun cam => ?_⟩
    have hl : r.listed call = [] := by simp [Hdf5EpisodeRecorder.listed, hc]
    simp [pure, EStateM.pure, hl]
  | true =>
    obtain ⟨e, he⟩ | he := recordCameraFrame_cases r call hc
    · rw [he] at h
      exact absurd h (not_returned_error e ep)
    · rw [he] at h ⊢
      obtain ⟨hcells, hloop⟩ := (returned_seq _ _ _).mp h
      rw [post_seq_of_returned hcells]
      have hsame := sameImages_appendCells (bundleCells call.bundleClockNs call.bundle) ep
      refine ⟨fun c => ?_, fun cam => ?_⟩
      · rw [(camerasOnly_recordCameras r call.bundle (r.listed call) _).1, length_appendCells _ _ hcells,
          count_bundleCells]
        simp
      · rw [images_recordCameras r call.bundle (r.listed call) _ (shapesKnown_congr hsame hk) hloop, gain,
          hsame.1]
        rfl

theorem recordFrame_skipped (h : ¬ r.Accepts ep call) : r.recordFrame py call ep = .ok () ep := by
  unfold Hdf5EpisodeRecorder.Accepts at h
  unfold Hdf5EpisodeRecorder.recordFrame
  cases hd : r.due ep.lastAppendedMonotonic call.now with
  | none => rfl
  | some last => rw [hd] at h; exact absurd rfl h

/-- An accepted call: the limiter's clock moves, then the cells, then the cameras. -/
theorem recordFrame_accepted (h : r.Accepts ep call) : ∃ last,
    r.recordFrame py call ep = ((frameCells py call).forM appendCell >>= fun _ => r.recordCameraFrame call)
      { ep with lastAppendedMonotonic := some last } := by
  obtain ⟨last, hd⟩ := Option.isSome_iff_exists.mp h
  refine ⟨last, ?_⟩
  unfold Hdf5EpisodeRecorder.recordFrame
  rw [hd]

/-- The call is accepted and returns normally. -/
def Hdf5EpisodeRecorder.Stored (ep : EpisodeBuffer) (call : FrameCall) : Prop :=
  r.Accepts ep call ∧ Returned (r.recordFrame py call ep)

instance (ep : EpisodeBuffer) (call : FrameCall) : Decidable (r.Stored py ep call) := by
  unfold Hdf5EpisodeRecorder.Stored
  infer_instance

theorem shapesKnown_recordFrame (hk : ShapesKnown ep) : ShapesKnown (post (r.recordFrame py call ep)) := by
  by_cases hacc : r.Accepts ep call
  · obtain ⟨last, he⟩ := recordFrame_accepted py r hacc
    rw [he]
    exact post_seq (fun a b => ShapesKnown a → ShapesKnown b) (fun h h' => h' ∘ h)
      (fun s => shapesKnown_congr (sameImages_appendCells (frameCells py call) s))
      (fun s => (recordCameraFrame_keeps r s).2.2) _ hk
  · rw [recordFrame_skipped py r hacc]
    exact hk

/-- The lists one row of an episode has: the bundle lists only with a camera client. -/
def Hdf5EpisodeRecorder.HasList (c : Column) : Prop := c.isBundle → r.hasCameraClient

instance (c : Column) : Decidable (r.HasList c) := by
  unfold Hdf5EpisodeRecorder.HasList
  infer_instance

/-- A stored call passes through a buffer with the frame's cells and ends with the camera part. -/
theorem stored_cases (hk : ShapesKnown ep) (h : r.Stored py ep call) : ∃ mid : EpisodeBuffer,
    (∀ c, (mid.columns c).length = (ep.columns c).length + if c.isBundle then 0 else 1) ∧
    mid.images = ep.images ∧ ShapesKnown mid ∧ Returned (r.recordCameraFrame call mid) ∧
    post (r.recordFrame py call ep) = post (r.recordCameraFrame call mid) := by
  obtain ⟨hacc, hret⟩ := h
  obtain ⟨last, he⟩ := recordFrame_accepted py r hacc
  rw [he] at hret ⊢
  generalize hs : ({ ep with lastAppendedMonotonic := some last } : EpisodeBuffer) = s at hret ⊢
  have hsame : SameImages s (post ((frameCells py call).forM appendCell s)) :=
    sameImages_appendCells (frameCells py call) s
  have hlen := length_appendCells (frameCells py call) s
  rw [frameCells_columns] at hlen
  have himages : s.images = ep.images := by rw [← hs]
  have hcols : s.columns = ep.columns := by rw [← hs]
  have hks : ShapesKnown s := by
    rw [← hs]
    exact hk
  generalize (frameCells py call).forM appendCell = cells at hret hsame hlen ⊢
  obtain ⟨hcells, hcam⟩ := (returned_seq cells (r.recordCameraFrame call) s).mp hret
  refine ⟨post (cells s), fun c => ?_, hsame.1.trans himages, shapesKnown_congr hsame hks, hcam,
    post_seq_of_returned hcells _⟩
  rw [hlen hcells, count_frameColumns, hcols]

/-- **A stored call, the lists.** -/
theorem length_of_stored (hk : ShapesKnown ep) (h : r.Stored py ep call) (c : Column) :
    ((post (r.recordFrame py call ep)).columns c).length
      = (ep.columns c).length + if r.HasList c then 1 else 0 := by
  obtain ⟨mid, hcols, -, hmid, hcam, he⟩ := stored_cases py r hk h
  rw [he, (recordCameraFrame_returned r hmid hcam).1, hcols]
  by_cases hb : c.isBundle
  · simp [Hdf5EpisodeRecorder.HasList, hb]
  · simp [Hdf5EpisodeRecorder.HasList, hb]

/-- **A stored call, the images.** -/
theorem images_of_stored (hk : ShapesKnown ep) (h : r.Stored py ep call) (cam : String) :
    ((post (r.recordFrame py call ep)).images cam).length = (ep.images cam).length
      + if call.Present cam ∨ ep.images cam ≠ [] then (r.listed call).count cam else 0 := by
  obtain ⟨mid, -, himg, hmid, hcam, he⟩ := stored_cases py r hk h
  rw [he, (recordCameraFrame_returned r hmid hcam).2, himg]

end PolicyRunner
