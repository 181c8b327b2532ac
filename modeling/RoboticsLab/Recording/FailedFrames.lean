import RoboticsLab.Recording.RowAlignment

/-!
# Frames that fail

`RecordingSupervisor.record_frame` swallows what the recorder raises and keeps the episode, with whatever the
failed call had appended.  Nothing has been appended exactly if the first conversion of the frame is the one that
raises: an entry of the left arm's `q_actual_deg` that is no number.

    the call raises → (the lists are as before ↔ LeftPoseUnreadable)              (sameRows_iff_of_raises)
    only such calls raise → stored frames have one index in all lists            (keepsRows_iff_and_indexed)
-/

open Runs Raising

namespace PolicyRunner

/-! ## Runs of the supervisor -/

section
variable (py : PyText) (r : Hdf5EpisodeRecorder)

/-- The supervisor right after `start`. -/
def RecordingSupervisor.started : RecordingSupervisor where
  episode := some .start
  frameCount := 0
  error := ""

def RecordingSupervisor.run (calls : List FrameCall) : RecordingSupervisor :=
  calls.foldl (RecordingSupervisor.recordFrame py r) .started

/-- The recorder raises on the call. -/
def RecordingSupervisor.Raises (sup : RecordingSupervisor) (call : FrameCall) : Prop :=
  ∃ ep ∈ sup.episode, ¬ Returned (r.recordFrame py call ep)

end

/-- The recorded data is the same; the limiter's clock may differ. -/
def SameRows (ep ep' : EpisodeBuffer) : Prop :=
  ep'.columns = ep.columns ∧ ep'.images = ep.images ∧ ep'.imageShapes = ep.imageShapes ∧
    ep'.imageDtypes = ep.imageDtypes

/-- The supervisor's episode goes on with the same recorded data. -/
def RecordingSupervisor.KeepsRows (sup sup' : RecordingSupervisor) : Prop :=
  ∃ ep ∈ sup.episode, ∃ ep' ∈ sup'.episode, SameRows ep ep'

/-- One of the first six entries of the left arm's `q_actual_deg` is not convertible by `float`. -/
def LeftPoseUnreadable (py : PyText) (call : FrameCall) : Prop :=
  ∃ items ∈ ((Json.dictOrEmpty (call.payload.getD "left")).getD "q_actual_deg").isArray,
    ∃ v ∈ items.take 6, ∃ e, v.pyFloat py = .error e

/-! ## The first conversion -/

theorem floatList_error_iff (py : PyText) (value : Json) (n : ℕ) :
    (∃ e, floatList py value n = .error e) ↔
      ∃ items ∈ value.isArray, ∃ v ∈ items.take n, ∃ e, v.pyFloat py = .error e := by
  unfold floatList
  cases value.isArray with
  | none => simp
  | some items =>
    simp only [Option.mem_def, Option.some.injEq, exists_eq_left']
    rw [← mapM_error_iff]
    cases (items.take n).mapM (Json.pyFloat py) with
    | error e => simp [bind, Except.bind]
    | ok out => simp [bind, Except.bind, pure, Except.pure]

/-- The left arm's joints come first. -/
theorem frameCells_head (py : PyText) (call : FrameCall) : ∃ rest, frameCells py call =
    (.arm .qpos .left, .floats <$> floatList py
      ((Json.dictOrEmpty (call.payload.getD "left")).getD "q_actual_deg") 6) :: rest := ⟨_, rfl⟩

/-! ## One call -/

section
variable {py : PyText} {r : Hdf5EpisodeRecorder} {ep : EpisodeBuffer} {call : FrameCall}

/-- A first conversion that raises leaves the lists alone. -/
theorem sameRows_of_unreadable (hacc : r.Accepts ep call) (h : LeftPoseUnreadable py call) :
    ¬ Returned (r.recordFrame py call ep) ∧ SameRows ep (post (r.recordFrame py call ep)) := by
  obtain ⟨last, he⟩ := recordFrame_accepted py r hacc
  obtain ⟨rest, hcells⟩ := frameCells_head py call
  obtain ⟨e, hfloat⟩ := (floatList_error_iff py _ 6).mpr h
  rw [he, hcells, hfloat]
  exact ⟨not_returned_error e _, rfl, rfl, rfl, rfl⟩

/-- A frame whose first conversion succeeds has appended to `qpos_left`, whatever happens later. -/
theorem length_qpos_of_readable (hacc : r.Accepts ep call) (h : ¬ LeftPoseUnreadable py call) :
    (ep.columns (.arm .qpos .left)).length <
      ((post (r.recordFrame py call ep)).columns (.arm .qpos .left)).length := by
  obtain ⟨last, he⟩ := recordFrame_accepted py r hacc
  obtain ⟨rest, hcells⟩ := frameCells_head py call
  generalize frameCells py call = cells at he hcells
  have hgrows : Grows (post (cells.forM appendCell { ep with lastAppendedMonotonic := some last }))
      (post (r.recordFrame py call ep)) := by
    rw [he]
    by_cases hret : Returned (cells.forM appendCell { ep with lastAppendedMonotonic := some last })
    · rw [post_seq_of_returned hret]
      exact (recordCameraFrame_keeps r _).1
    · rw [post_seq_of_not_returned hret]
      exact .refl _
  refine lt_of_lt_of_le ?_ (hgrows (.arm .qpos .left))
  cases hfloat : floatList py ((Json.dictOrEmpty (call.payload.getD "left")).getD "q_actual_deg") 6 with
  | error e => exact absurd ((floatList_error_iff py _ 6).mp ⟨e, hfloat⟩) h
  | ok values =>
    rw [hcells, hfloat]
    refine lt_of_lt_of_le ?_ (grows_appendCells rest
      (EpisodeBuffer.append (.arm .qpos .left) (.floats values) { ep with lastAppendedMonotonic := some last }) _)
    rw [length_append]
    simp

/-- **One failed call.** -/
theorem sameRows_iff_of_raises (h : ¬ Returned (r.recordFrame py call ep)) :
    SameRows ep (post (r.recordFrame py call ep)) ↔ LeftPoseUnreadable py call := by
  have hacc : r.Accepts ep call := by
    by_contra hacc
    rw [recordFrame_skipped py r hacc] at h
    exact h trivial
  constructor
  · intro hsame
    by_contra hread
    have hlt := length_qpos_of_readable hacc hread
    rw [hsame.1] at hlt
    exact absurd hlt (lt_irrefl _)
  · intro hread
    exact (sameRows_of_unreadable hacc hread).2

end

/-! ## Whole runs -/

section
variable (py : PyText) (r : Hdf5EpisodeRecorder)

/-- The supervisor's episode is the recorder's buffer, exceptions included. -/
theorem episode_run (calls : List FrameCall) :
    (RecordingSupervisor.run py r calls).episode = some (r.after py calls) := by
  induction calls using List.reverseRecOn with
  | nil => rfl
  | append_singleton pre call ih =>
    rw [after_concat, RecordingSupervisor.run, List.foldl_append]
    show (RecordingSupervisor.recordFrame py r (RecordingSupervisor.run py r pre) call).episode = _
    unfold RecordingSupervisor.recordFrame
    rw [ih]
    dsimp only
    cases r.recordFrame py call (r.after py pre) with
    | ok u ep' => rfl
    | error e ep' => rfl

/-- Each stored frame has one index in the state, action and bundle lists, and in the list of every steady camera:
the number of frames stored before it. -/
def Hdf5EpisodeRecorder.StoredAtOneIndex (calls : List FrameCall) : Prop :=
  EveryStep (fun pre call => r.Stored py (r.after py pre) call → ∀ d,
    (match d with
      | .column c => r.HasList c
      | .images cam => r.Steady (r.stored py calls) cam) →
    (r.after py pre).len d = (r.stored py pre).length ∧
      (r.after py (pre ++ [call])).len d = (r.stored py pre).length + 1) calls

theorem storedAtOneIndex_of_clean {calls : List FrameCall} (h : EveryStep (r.Clean py) calls) :
    r.StoredAtOneIndex py calls := by
  have hlen : ∀ pre post d, calls = pre ++ post → (match d with
      | .column c => r.HasList c
      | .images cam => r.Steady (r.stored py calls) cam) →
      (r.after py pre).len d = (r.stored py pre).length := by
    intro pre post d e hd
    have hpre := h.of_append e
    cases d with
    | column c =>
      show ((r.after py pre).columns c).length = _
      rw [length_columns py r hpre, if_pos hd]
    | images cam =>
      apply length_images_of_steady py r hpre
      rw [e] at hd
      exact steady_stored_of_append py r hd
  intro pre call post e hs d hd
  refine ⟨hlen pre _ d e hd, ?_⟩
  rw [hlen (pre ++ [call]) post d (by simp [e]) hd, stored_concat py r hs]
  simp

/-- **Failed frames.**  At each call of a run that raises, the lists are as before the call exactly if the left
arm's joints are unreadable.  In a run where no other call raises, every stored frame has one index. -/
theorem keepsRows_iff_and_indexed (calls : List FrameCall) :
    EveryStep (fun pre call => (RecordingSupervisor.run py r pre).Raises py r call →
      ((RecordingSupervisor.run py r pre).KeepsRows (RecordingSupervisor.run py r (pre ++ [call])) ↔
        LeftPoseUnreadable py call)) calls ∧
    (EveryStep (fun pre call => (RecordingSupervisor.run py r pre).Raises py r call →
      LeftPoseUnreadable py call) calls → r.StoredAtOneIndex py calls) := by
  have hkeeps : ∀ pre call, (RecordingSupervisor.run py r pre).KeepsRows (RecordingSupervisor.run py r (pre ++ [call]))
      ↔ SameRows (r.after py pre) (post (r.recordFrame py call (r.after py pre))) := by
    intro pre call
    unfold RecordingSupervisor.KeepsRows
    rw [episode_run, episode_run, after_concat]
    simp
  have hraises : ∀ pre call, (RecordingSupervisor.run py r pre).Raises py r call ↔
      ¬ Returned (r.recordFrame py call (r.after py pre)) := by
    intro pre call
    unfold RecordingSupervisor.Raises
    rw [episode_run]
    simp
  constructor
  · rintro pre call post - hr
    rw [hkeeps]
    exact sameRows_iff_of_raises ((hraises pre call).mp hr)
  · intro honly
    apply storedAtOneIndex_of_clean
    intro pre call post e
    by_cases hret : Returned (r.recordFrame py call (r.after py pre))
    · exact .inl hret
    · have hsame := (sameRows_iff_of_raises hret).mpr (honly pre call post e ((hraises pre call).mpr hret))
      right
      rw [after_concat]
      exact ⟨hsame.1, hsame.2.1⟩

end

/-! ## A missing camera -/

def strictRecorder : Hdf5EpisodeRecorder := { frontCameraRecorder with recordZeroOnMissing := false }

/-- **A failed frame that is kept.**  The camera is missing from the first call, which raises after the state, action
and bundle lists have grown; the second call's state is then row 1 and its image row 0. -/
theorem missing_camera_spoils_rows :
    (RecordingSupervisor.run PyText.plain strictRecorder []).Raises PyText.plain strictRecorder (plainCall 0 none) ∧
    ¬ (RecordingSupervisor.run PyText.plain strictRecorder []).KeepsRows
      (RecordingSupervisor.run PyText.plain strictRecorder [plainCall 0 none]) ∧
    ((strictRecorder.after PyText.plain lateCalls).columns (.arm .qpos .left)).length = 2 ∧
    ((strictRecorder.after PyText.plain lateCalls).images "front").length = 1 := by
  refine ⟨⟨.start, rfl, by decide +kernel⟩, ?_, by decide +kernel, by decide +kernel⟩
  rintro ⟨ep, hep, ep', hep', hsame⟩
  cases hep
  have hlen : (RecordingSupervisor.run PyText.plain strictRecorder [plainCall 0 none]).episode.map
      EpisodeBuffer.frameCount = some 1 := by decide +kernel
  rw [hep'] at hlen
  have hone : (ep'.columns (.arm .qpos .left)).length = 1 := Option.some.inj hlen
  rw [hsame.1] at hone
  exact absurd hone (by decide)

end PolicyRunner
