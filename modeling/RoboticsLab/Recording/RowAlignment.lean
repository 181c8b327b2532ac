import RoboticsLab.Recording.FrameEffect

/-!
# Rows of an episode

`end_episode` writes the lists of the buffer side by side.  `RowsAligned` says that they are one table: all as
long as `frame_count`, with entry `i` of each appended by the `i`-th accepted call.  The state, action and bundle
lists always are.  A camera's list is as soon as the camera appears in the first accepted call and is listed once
in every one; a camera that comes later is not padded for the rows before it.

    calls return normally → (RowsAligned calls ↔ CamerasSteady (accepted calls))      (rowsAligned_iff)
-/

open Runs Raising

namespace PolicyRunner

section
variable (py : PyText) (r : Hdf5EpisodeRecorder)

/-! ## Runs -/

def Hdf5EpisodeRecorder.next (ep : EpisodeBuffer) (call : FrameCall) : EpisodeBuffer :=
  post (r.recordFrame py call ep)

/-- The buffer after the calls of an episode. -/
def Hdf5EpisodeRecorder.after (calls : List FrameCall) : EpisodeBuffer := calls.foldl (r.next py) .start

/-- The calls the rate limiter let through. -/
def Hdf5EpisodeRecorder.accepted (calls : List FrameCall) : List FrameCall :=
  selected (r.next py) r.Accepts .start calls

/-- The accepted calls that returned normally. -/
def Hdf5EpisodeRecorder.stored (calls : List FrameCall) : List FrameCall :=
  selected (r.next py) (r.Stored py) .start calls

/-- Every call returns normally. -/
def Hdf5EpisodeRecorder.ReturnsNormally (calls : List FrameCall) : Prop :=
  EveryStep (fun pre call => Returned (r.recordFrame py call (r.after py pre))) calls

end

/-- What `end_episode` writes one entry per frame of. -/
inductive Dataset
  | column (c : Column)
  | images (cam : String)

def EpisodeBuffer.len (ep : EpisodeBuffer) : Dataset → ℕ
  | .column c => (ep.columns c).length
  | .images cam => (ep.images cam).length

/-- `end_episode` writes the dataset: the bundle lists if `bundle_seq` is not empty, a camera if it has images. -/
def EpisodeBuffer.Written (ep : EpisodeBuffer) : Dataset → Prop
  | .column c => c.isBundle → ep.columns .bundleSeq ≠ []
  | .images cam => ep.images cam ≠ []

section
variable (py : PyText) (r : Hdf5EpisodeRecorder)

/-- The written lists are one table with a row per accepted call: entry `i` is not there before the `i`-th
accepted call, and is there after it. -/
structure Hdf5EpisodeRecorder.RowsAligned (calls : List FrameCall) : Prop where
  count : (r.after py calls).frameCount = (r.accepted py calls).length
  length : ∀ d, (r.after py calls).Written d → (r.after py calls).len d = (r.after py calls).frameCount
  produced : ∀ d, (r.after py calls).Written d → EveryStep (fun pre call =>
    r.Accepts (r.after py pre) call → (r.after py pre).len d ≤ (r.accepted py pre).length ∧
      (r.accepted py pre).length < (r.after py (pre ++ [call])).len d) calls

end

section
variable (r : Hdf5EpisodeRecorder) (kept : List FrameCall) (cam : String)

/-- A frame of the camera was taken in one of the calls. -/
def Hdf5EpisodeRecorder.Seen : Prop := ∃ call ∈ kept, cam ∈ r.listed call ∧ call.Present cam

/-- The camera is listed once in every call, and its frame is there in the first one. -/
def Hdf5EpisodeRecorder.Steady : Prop :=
  (∀ call ∈ kept, (r.listed call).count cam = 1) ∧ ∀ call ∈ kept.head?, call.Present cam

theorem Hdf5EpisodeRecorder.Steady.of_append {r : Hdf5EpisodeRecorder} {kept rest : List FrameCall} {cam : String}
    (h : r.Steady (kept ++ rest) cam) : r.Steady kept cam := by
  constructor
  · intro call hcall
    exact h.1 call (List.mem_append_left rest hcall)
  · intro call hcall
    refine h.2 call ?_
    rw [List.head?_append, hcall]
    rfl

/-- Every camera that is seen at all is steady. -/
def Hdf5EpisodeRecorder.CamerasSteady : Prop := ∀ cam, r.Seen kept cam → r.Steady kept cam

end

/-! ## Clean runs

A call that raises before anything is appended does no harm.  The lemmas are about runs whose calls all return or
leave the lists alone. -/

section
variable (py : PyText) (r : Hdf5EpisodeRecorder) {calls pre : List FrameCall} {call : FrameCall}

/-- The call returns, or its exception finds the lists as they were. -/
def Hdf5EpisodeRecorder.Clean (pre : List FrameCall) (call : FrameCall) : Prop :=
  Returned (r.recordFrame py call (r.after py pre)) ∨
    ((r.after py (pre ++ [call])).columns = (r.after py pre).columns ∧
      (r.after py (pre ++ [call])).images = (r.after py pre).images)

theorem after_concat (pre : List FrameCall) (call : FrameCall) :
    r.after py (pre ++ [call]) = post (r.recordFrame py call (r.after py pre)) := by
  unfold Hdf5EpisodeRecorder.after
  rw [List.foldl_append]
  rfl

theorem shapesKnown_after (calls : List FrameCall) : ShapesKnown (r.after py calls) := by
  induction calls using List.reverseRecOn with
  | nil =>
    intro cam
    show (none : Option (List ℕ)).isSome ↔ ([] : List Pixels) ≠ []
    simp
  | append_singleton pre call ih =>
    rw [after_concat]
    exact shapesKnown_recordFrame py r ih

/-- A clean call is stored, or it changes no list. -/
theorem Hdf5EpisodeRecorder.Clean.cases (h : r.Clean py pre call) :
    r.Stored py (r.after py pre) call ∨
      ¬ r.Stored py (r.after py pre) call ∧ (r.after py (pre ++ [call])).columns = (r.after py pre).columns ∧
        (r.after py (pre ++ [call])).images = (r.after py pre).images := by
  by_cases hs : r.Stored py (r.after py pre) call
  · exact .inl hs
  · refine .inr ⟨hs, ?_⟩
    rcases h with hret | hsame
    · have hacc : ¬ r.Accepts (r.after py pre) call := fun hacc => hs ⟨hacc, hret⟩
      rw [after_concat, recordFrame_skipped py r hacc]
      exact ⟨rfl, rfl⟩
    · exact hsame

theorem stored_concat (h : r.Stored py (r.after py pre) call) :
    r.stored py (pre ++ [call]) = r.stored py pre ++ [call] := selected_concat_of _ h

theorem stored_concat_of_not (h : ¬ r.Stored py (r.after py pre) call) :
    r.stored py (pre ++ [call]) = r.stored py pre := selected_concat_of_not _ h

/-- **The state, action and bundle lists.**  They have a row per stored call. -/
theorem length_columns (h : EveryStep (r.Clean py) calls) (c : Column) :
    ((r.after py calls).columns c).length = if r.HasList c then (r.stored py calls).length else 0 := by
  refine h.invariant (fun pre => ((r.after py pre).columns c).length
    = if r.HasList c then (r.stored py pre).length else 0) ?_ fun pre call ih hclean => ?_
  · show ([] : List Cell).length = if _ then ([] : List FrameCall).length else 0
    simp
  · obtain hs | ⟨hs, hcols, -⟩ := hclean.cases
    · rw [after_concat, length_of_stored py r (shapesKnown_after py r pre) hs, ih, stored_concat py r hs]
      split
      · simp
      · rfl
    · rw [hcols, ih, stored_concat_of_not py r hs]

/-- A camera has images exactly if it was seen in a stored call. -/
theorem images_ne_nil_iff (h : EveryStep (r.Clean py) calls) (cam : String) :
    (r.after py calls).images cam ≠ [] ↔ r.Seen (r.stored py calls) cam := by
  refine h.invariant (fun pre => (r.after py pre).images cam ≠ [] ↔ r.Seen (r.stored py pre) cam) ?_
    fun pre call ih hclean => ?_
  · show ([] : List Pixels) ≠ [] ↔ ∃ call ∈ ([] : List FrameCall), _
    simp
  · obtain hs | ⟨hs, -, himg⟩ := hclean.cases
    · have hlen := images_of_stored py r (shapesKnown_after py r pre) hs cam
      rw [← after_concat] at hlen
      have hseen : r.Seen (r.stored py pre ++ [call]) cam ↔
          r.Seen (r.stored py pre) cam ∨ (cam ∈ r.listed call ∧ call.Present cam) := by
        simp only [Hdf5EpisodeRecorder.Seen, List.mem_append, List.mem_singleton, or_and_right, exists_or,
          exists_eq_left]
      rw [stored_concat py r hs, hseen, ← ih, ← List.length_pos_iff, hlen]
      by_cases hz : (r.after py pre).images cam = []
      · by_cases hp : call.Present cam
        · simp [hz, hp, List.count_pos_iff]
        · simp [hz, hp]
      · simp [hz, List.length_pos_iff.mpr hz]
    · rw [himg, ih, stored_concat_of_not py r hs]

/-- **A steady camera.**  Its list has a row per stored call, after every call. -/
theorem length_images_of_steady (h : EveryStep (r.Clean py) calls) {cam : String}
    (hst : r.Steady (r.stored py calls) cam) :
    ((r.after py calls).images cam).length = (r.stored py calls).length := by
  have hstep : EveryStep (fun pre call => r.Stored py (r.after py pre) call →
      (r.listed call).count cam = 1 ∧ (r.stored py pre = [] → call.Present cam)) calls := by
    rintro pre call post rfl hs
    obtain ⟨rest, hrest⟩ : ∃ rest, r.stored py (pre ++ call :: post) = r.stored py pre ++ call :: rest :=
      selected_split EpisodeBuffer.start hs
    rw [hrest] at hst
    refine ⟨hst.1 call (by simp), fun hnil => hst.2 call ?_⟩
    rw [hnil]
    rfl
  refine (h.and hstep).invariant (fun pre => ((r.after py pre).images cam).length = (r.stored py pre).length) rfl
    fun pre call ih hc => ?_
  obtain hs | ⟨hs, -, himg⟩ := hc.1.cases
  · obtain ⟨hcount, hfirst⟩ := hc.2 hs
    have hthere : call.Present cam ∨ (r.after py pre).images cam ≠ [] := by
      by_cases hnil : r.stored py pre = []
      · exact .inl (hfirst hnil)
      · right
        rw [← List.length_pos_iff, ih]
        exact List.length_pos_iff.mpr hnil
    rw [after_concat, images_of_stored py r (shapesKnown_after py r pre) hs, if_pos hthere, hcount, ih,
      stored_concat py r hs]
    simp
  · rw [himg, ih, stored_concat_of_not py r hs]

/-- A steady camera is steady in the calls so far. -/
theorem steady_stored_of_append {cam : String} {post : List FrameCall}
    (h : r.Steady (r.stored py (pre ++ post)) cam) : r.Steady (r.stored py pre) cam := by
  rw [Hdf5EpisodeRecorder.stored, selected_append] at h
  exact h.of_append

/-- A camera whose list has a row per stored call after every call is steady. -/
theorem steady_of_length_images {cam : String}
    (hlen : ∀ pre post, calls = pre ++ post →
      ((r.after py pre).images cam).length = (r.stored py pre).length) :
    r.Steady (r.stored py calls) cam := by
  -- at a stored call the list grows by one, so the camera is there and is listed once
  have hstep : ∀ pre call post, calls = pre ++ call :: post → r.Stored py (r.after py pre) call →
      (call.Present cam ∨ (r.after py pre).images cam ≠ []) ∧ (r.listed call).count cam = 1 := by
    intro pre call post e hs
    have hbefore := hlen pre (call :: post) e
    have hafter := hlen (pre ++ [call]) post (by simp [e])
    rw [after_concat, images_of_stored py r (shapesKnown_after py r pre) hs, stored_concat py r hs,
      List.length_append, hbefore] at hafter
    split at hafter
    · rename_i hthere
      exact ⟨hthere, by simpa using hafter⟩
    · simp at hafter
  constructor
  · intro call hcall
    obtain ⟨kept, rest, hk⟩ := List.append_of_mem hcall
    obtain ⟨pre, post, e, hs, -⟩ := split_of_selected hk
    exact (hstep pre call post e hs).2
  · intro call hcall
    obtain ⟨rest, hk⟩ : ∃ rest, r.stored py calls = [] ++ call :: rest := by
      cases hc : r.stored py calls with
      | nil => rw [hc] at hcall; cases hcall
      | cons a rest =>
        rw [hc] at hcall
        cases hcall
        exact ⟨rest, rfl⟩
    obtain ⟨pre, post, e, hs, hpre⟩ := split_of_selected hk
    have hnil : (r.after py pre).images cam = [] := by
      rw [← List.length_eq_zero_iff, hlen pre _ e]
      exact List.length_eq_zero_iff.mpr hpre
    exact (hstep pre call post e hs).1.resolve_right (not_not.mpr hnil)

/-! ## Runs that return normally -/

theorem Hdf5EpisodeRecorder.ReturnsNormally.clean (h : r.ReturnsNormally py calls) :
    EveryStep (r.Clean py) calls := h.imp fun _ _ hret => .inl hret

theorem Hdf5EpisodeRecorder.ReturnsNormally.accepted_eq (h : r.ReturnsNormally py calls) :
    r.accepted py calls = r.stored py calls := by
  refine EveryStep.invariant (fun pre => r.accepted py pre = r.stored py pre) h rfl fun pre call ih hret => ?_
  by_cases hacc : r.Accepts (r.after py pre) call
  · rw [stored_concat py r ⟨hacc, hret⟩, ← ih]
    exact selected_concat_of _ hacc
  · rw [stored_concat_of_not py r (fun hs => hacc hs.1), ← ih]
    exact selected_concat_of_not _ hacc

/-- A list that is one entry longer at each accepted call: its length is the number of accepted calls. -/
theorem length_of_produced {d : Dataset}
    (hend : (r.after py calls).len d = (r.accepted py calls).length)
    (hprod : EveryStep (fun pre call => r.Accepts (r.after py pre) call →
      (r.after py pre).len d ≤ (r.accepted py pre).length ∧
        (r.accepted py pre).length < (r.after py (pre ++ [call])).len d) calls)
    (pre post : List FrameCall) (e : calls = pre ++ post) :
    (r.after py pre).len d = (r.accepted py pre).length := by
  have hskip : ∀ pre call, ¬ r.Accepts (r.after py pre) call →
      r.after py (pre ++ [call]) = r.after py pre ∧ r.accepted py (pre ++ [call]) = r.accepted py pre := by
    intro pre call hacc
    refine ⟨?_, selected_concat_of_not _ hacc⟩
    rw [after_concat, recordFrame_skipped py r hacc]
    rfl
  -- forwards: no accepted call leaves its entry out
  have hlow : (r.accepted py pre).length ≤ (r.after py pre).len d := by
    refine (hprod.of_append e).invariant (fun pre => (r.accepted py pre).length ≤ (r.after py pre).len d)
      (Nat.zero_le _) fun pre call ih hp => ?_
    by_cases hacc : r.Accepts (r.after py pre) call
    · have hcount : r.accepted py (pre ++ [call]) = r.accepted py pre ++ [call] := selected_concat_of _ hacc
      have := (hp hacc).2
      rw [hcount, List.length_append, List.length_singleton]
      omega
    · obtain ⟨ha, hc⟩ := hskip pre call hacc
      rw [ha, hc]
      exact ih
  -- backwards: the next accepted call, or the end, bounds the length
  have hhigh : ∀ post pre, calls = pre ++ post → (r.after py pre).len d ≤ (r.accepted py pre).length := by
    intro post
    induction post with
    | nil =>
      intro pre e
      rw [List.append_nil] at e
      exact e ▸ hend.le
    | cons call post ih =>
      intro pre e
      by_cases hacc : r.Accepts (r.after py pre) call
      · exact (hprod pre call post e hacc).1
      · obtain ⟨ha, hc⟩ := hskip pre call hacc
        rw [← ha, ← hc]
        exact ih (pre ++ [call]) (by simp [e])
  exact le_antisymm (hhigh post pre e) hlow

/-- The lists that have a row per stored call after every call are produced row by row. -/
theorem produced_of_length {d : Dataset}
    (hlen : ∀ pre post, calls = pre ++ post → (r.after py pre).len d = (r.accepted py pre).length) :
    EveryStep (fun pre call => r.Accepts (r.after py pre) call →
      (r.after py pre).len d ≤ (r.accepted py pre).length ∧
        (r.accepted py pre).length < (r.after py (pre ++ [call])).len d) calls := by
  intro pre call post e hacc
  have hcount : r.accepted py (pre ++ [call]) = r.accepted py pre ++ [call] := selected_concat_of _ hacc
  rw [hlen pre _ e, hlen (pre ++ [call]) post (by simp [e]), hcount, List.length_append]
  simp

/-- **Rows of an episode.**  In an episode whose calls return normally the written lists are one table exactly if
every camera that is seen is there in the first accepted call and is listed once in each. -/
theorem rowsAligned_iff (h : r.ReturnsNormally py calls) :
    r.RowsAligned py calls ↔ r.CamerasSteady (r.accepted py calls) := by
  have hinit : ∀ pre post, calls = pre ++ post → r.ReturnsNormally py pre := fun pre post e => h.of_append e
  have hcolumns : ∀ c, r.HasList c → ∀ pre post, calls = pre ++ post →
      (r.after py pre).len (.column c) = (r.accepted py pre).length := by
    intro c hc pre post e
    have hpre := hinit pre post e
    rw [hpre.accepted_eq]
    show ((r.after py pre).columns c).length = _
    rw [length_columns py r hpre.clean, if_pos hc]
  have hcount : (r.after py calls).frameCount = (r.accepted py calls).length :=
    hcolumns (.arm .qpos .left) (fun hb => absurd hb (by decide)) calls [] (by simp)
  constructor
  · intro hrows cam hseen
    rw [h.accepted_eq] at hseen ⊢
    have hwritten : (r.after py calls).Written (.images cam) := (images_ne_nil_iff py r h.clean cam).mpr hseen
    apply steady_of_length_images py r
    intro pre post e
    rw [← (hinit pre post e).accepted_eq]
    exact length_of_produced py r ((hrows.length _ hwritten).trans hrows.count) (hrows.produced _ hwritten) pre post e
  · intro hsteady
    have hall : ∀ d, (r.after py calls).Written d → ∀ pre post, calls = pre ++ post →
        (r.after py pre).len d = (r.accepted py pre).length := by
      intro d hd
      cases d with
      | column c =>
        apply hcolumns
        intro hb
        by_contra hclient
        have hempty := length_columns py r h.clean .bundleSeq
        rw [if_neg (fun hl => hclient (hl rfl))] at hempty
        exact hd hb (List.length_eq_zero_iff.mp hempty)
      | images cam =>
        intro pre post e
        have hpre := hinit pre post e
        have hst := hsteady cam (h.accepted_eq ▸ (images_ne_nil_iff py r h.clean cam).mp hd)
        rw [hpre.accepted_eq]
        apply length_images_of_steady py r hpre.clean
        rw [h.accepted_eq, e] at hst
        exact steady_stored_of_append py r hst
    exact ⟨hcount, fun d hd => (hall d hd calls [] (by simp)).trans hcount.symm,
      fun d hd => produced_of_length py r (hall d hd)⟩

end

/-! ## Two episodes with one camera -/

def frontCameraRecorder : Hdf5EpisodeRecorder where
  recordingRateHz := 1
  hasCameraClient := true
  expectedCameras := ["front"]
  recordZeroOnMissing := true
  rate_range := by norm_num

def frontBundle : CameraBundle where
  bundleSeq := 1
  bundleTimeNs := 0
  frames := [("front", ⟨[1, 1], "uint8", [7]⟩)]
  keys_nodup := by decide

/-- A call at the given second with an empty state and no action packet. -/
def plainCall (second : ℚ) (bundle : Option CameraBundle) : FrameCall where
  now := second
  payload := []
  actionPacket := none
  actionHostTimeNs := none
  actionSeq := none
  poll := .ok bundle
  latest := .ok none
  bundleClockNs := 0

/-- The camera is there in the first call and missing in the second. -/
def paddedCalls : List FrameCall := [plainCall 0 (some frontBundle), plainCall 1 none]

/-- The camera is missing in the first call and there in the second. -/
def lateCalls : List FrameCall := [plainCall 0 none, plainCall 1 (some frontBundle)]

theorem rowsAligned_paddedCalls : frontCameraRecorder.ReturnsNormally PyText.plain paddedCalls ∧
    frontCameraRecorder.RowsAligned PyText.plain paddedCalls := by
  have hret : frontCameraRecorder.ReturnsNormally PyText.plain paddedCalls := everyStep_of_take (by decide +kernel)
  refine ⟨hret, (rowsAligned_iff PyText.plain frontCameraRecorder hret).mpr ?_⟩
  rintro cam ⟨call, -, hmem, -⟩
  obtain rfl : cam = "front" := List.mem_singleton.mp hmem
  refine ⟨fun call _ => rfl, ?_⟩
  decide +kernel

/-- **A late camera.**  Two accepted calls return normally, and the camera's only image is at index 0 of its list
though the second call took it. -/
theorem late_camera_shifts_rows : frontCameraRecorder.ReturnsNormally PyText.plain lateCalls ∧
    ¬ frontCameraRecorder.RowsAligned PyText.plain lateCalls := by
  refine ⟨everyStep_of_take (by decide +kernel), fun hrows => ?_⟩
  have hone : ((frontCameraRecorder.after PyText.plain lateCalls).images "front").length = 1 := by decide +kernel
  have htwo : (frontCameraRecorder.after PyText.plain lateCalls).frameCount = 2 := by decide +kernel
  have hwritten : (frontCameraRecorder.after PyText.plain lateCalls).Written (.images "front") := by
    show (frontCameraRecorder.after PyText.plain lateCalls).images "front" ≠ []
    rw [← List.length_pos_iff, hone]
    decide
  have heq := hrows.length _ hwritten
  rw [htwo] at heq
  exact absurd (hone.symm.trans heq) (by decide)

end PolicyRunner
