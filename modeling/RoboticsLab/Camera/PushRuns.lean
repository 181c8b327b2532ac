import RoboticsLab.Camera.BundleSoundness

/-!
# Runs of `push_frame`

What one call does, said once (`PushResult`): it is ignored, waits for a master frame, finds the master
frame emitted already, retries, or emits.  `pushOn` is the algorithm with the buffers it works on and
those it leaves after an emission as parameters; `push_frame` is one case of it (`pushFrame_eq`), the same
algorithm with buffers that only grow (`pushFrameUnbounded`) is another.  `runPushes` is a run without
resets, with the bundles it has emitted.
-/

namespace CameraServer

namespace FrameSynchronizer

/-! ## One call -/

section Call

variable (c : SynchronizerConfig) (s : FrameSynchronizer) (frame : StreamFrame) (drops : List (String × ℕ))

/-- The state of a call that has chosen `sel` for `master`. -/
def noted (buffers : String → List StreamFrame) (master : StreamFrame) (sel : Selection) : FrameSynchronizer :=
  { ({ s with buffers := buffers } : FrameSynchronizer).notePending master with
    buffers := buffers
    lastMaxTimeDiffMs := sel.diffMs }

/-- The master frame may still be emitted. -/
def Open (master : StreamFrame) : Prop :=
  ¬ (master.frameNumber ≠ 0 ∧ master.frameNumber ≤ s.lastEmittedMasterFrameNumber)

variable (buffers : String → List StreamFrame) (after : Bool → StreamFrame → String → List StreamFrame)

/-- The algorithm of `push_frame` on `buffers`; an emission leaves `after` of them. -/
def pushOn : FrameSynchronizer × Option FrameBundleMeta :=
  if frame.ringName ∉ c.group.requiredStreams then (s, none)
  else match (buffers c.group.masterStream).getLast? with
    | none => ({ s with buffers := buffers }, none)
    | some master =>
      if master.frameNumber ≠ 0 ∧ master.frameNumber ≤ s.lastEmittedMasterFrameNumber then
        ({ s with buffers := buffers }, none)
      else
        let sel := select c buffers master
        let s := s.noted buffers master sel
        if !sel.isComplete c && !c.sync.publishIncompleteBundles then
          ({ s with incompleteRetryCount := addU64 s.incompleteRetryCount 1 }, none)
        else
          ({ s.emitted c sel master with buffers := after (sel.isComplete c) master },
            some (s.bundleOf c sel master drops))

/-- `push_frame` trims the buffer of the frame, and prunes the buffers after an emission. -/
theorem pushFrame_eq :
    s.pushFrame c frame drops = s.pushOn c frame drops (s.bufferFrame frame)
      (fun complete master => pruneBuffers c complete master (s.bufferFrame frame)) := by
  by_cases hreq : frame.ringName ∈ c.group.requiredStreams
  · rw [pushFrame, pushOn, if_neg (not_not.mpr hreq), if_neg (not_not.mpr hreq)]
    dsimp only
    cases hlast : (s.bufferFrame frame c.group.masterStream).getLast? with
    | none => rfl
    | some master =>
      dsimp only
      split
      · rfl
      · rw [notePending_buffers]
        rfl
  · rw [pushFrame, pushOn, if_pos hreq, if_pos hreq]

/-- The buffers with a new frame, none of them cut. -/
def growBuffer : String → List StreamFrame :=
  Function.update s.buffers frame.ringName (s.buffers frame.ringName ++ [frame])

/-- `push_frame` with buffers that are never trimmed or pruned. -/
def pushFrameUnbounded : FrameSynchronizer × Option FrameBundleMeta :=
  s.pushOn c frame drops (s.growBuffer frame) fun _ _ => s.growBuffer frame

variable {c s frame drops buffers after} {master : StreamFrame}

theorem pushOn_ignored (hreq : frame.ringName ∉ c.group.requiredStreams) :
    s.pushOn c frame drops buffers after = (s, none) := if_pos hreq

theorem pushOn_waiting (hreq : frame.ringName ∈ c.group.requiredStreams)
    (hlast : (buffers c.group.masterStream).getLast? = none) :
    s.pushOn c frame drops buffers after = ({ s with buffers := buffers }, none) := by
  rw [pushOn, if_neg (not_not.mpr hreq), hlast]

theorem pushOn_closed (hreq : frame.ringName ∈ c.group.requiredStreams)
    (hlast : (buffers c.group.masterStream).getLast? = some master) (hclosed : ¬ s.Open master) :
    s.pushOn c frame drops buffers after = ({ s with buffers := buffers }, none) := by
  rw [pushOn, if_neg (not_not.mpr hreq), hlast]
  exact if_pos (not_not.mp hclosed)

theorem pushOn_retry (hreq : frame.ringName ∈ c.group.requiredStreams)
    (hlast : (buffers c.group.masterStream).getLast? = some master) (hopen : s.Open master)
    (hsel : (select c buffers master).isComplete c = false) (hpub : c.sync.publishIncompleteBundles = false) :
    s.pushOn c frame drops buffers after =
      ({ s.noted buffers master (select c buffers master) with
          incompleteRetryCount := addU64 (s.noted buffers master (select c buffers master)).incompleteRetryCount 1 },
        none) := by
  rw [pushOn, if_neg (not_not.mpr hreq), hlast]
  dsimp only
  rw [if_neg hopen, hsel, hpub]
  rfl

theorem pushOn_emit (hreq : frame.ringName ∈ c.group.requiredStreams)
    (hlast : (buffers c.group.masterStream).getLast? = some master) (hopen : s.Open master)
    (hsel : (select c buffers master).isComplete c = true ∨ c.sync.publishIncompleteBundles = true) :
    s.pushOn c frame drops buffers after =
      ({ (s.noted buffers master (select c buffers master)).emitted c (select c buffers master) master with
          buffers := after ((select c buffers master).isComplete c) master },
        some ((s.noted buffers master (select c buffers master)).bundleOf c (select c buffers master) master
          drops)) := by
  rw [pushOn, if_neg (not_not.mpr hreq), hlast]
  dsimp only
  rw [if_neg hopen, if_neg]
  rcases hsel with h | h
  · simp [h]
  · simp [h]

variable (c s frame drops buffers after)

/-- **What a call can do.** -/
inductive PushResult : FrameSynchronizer × Option FrameBundleMeta → Prop
  | ignored (hreq : frame.ringName ∉ c.group.requiredStreams) : PushResult (s, none)
  | waiting (hreq : frame.ringName ∈ c.group.requiredStreams)
      (hlast : (buffers c.group.masterStream).getLast? = none) : PushResult ({ s with buffers := buffers }, none)
  | closed (master : StreamFrame) (hreq : frame.ringName ∈ c.group.requiredStreams)
      (hlast : (buffers c.group.masterStream).getLast? = some master) (hclosed : ¬ s.Open master) :
      PushResult ({ s with buffers := buffers }, none)
  | retry (master : StreamFrame) (hreq : frame.ringName ∈ c.group.requiredStreams)
      (hlast : (buffers c.group.masterStream).getLast? = some master) (hopen : s.Open master)
      (hsel : (select c buffers master).isComplete c = false) (hpub : c.sync.publishIncompleteBundles = false) :
      PushResult
        ({ s.noted buffers master (select c buffers master) with
            incompleteRetryCount := addU64 (s.noted buffers master (select c buffers master)).incompleteRetryCount 1 },
          none)
  | emit (master : StreamFrame) (hreq : frame.ringName ∈ c.group.requiredStreams)
      (hlast : (buffers c.group.masterStream).getLast? = some master) (hopen : s.Open master)
      (hsel : (select c buffers master).isComplete c = true ∨ c.sync.publishIncompleteBundles = true) :
      PushResult
        ({ (s.noted buffers master (select c buffers master)).emitted c (select c buffers master) master with
            buffers := after ((select c buffers master).isComplete c) master },
          some ((s.noted buffers master (select c buffers master)).bundleOf c (select c buffers master) master drops))

theorem pushOn_result : PushResult c s frame drops buffers after (s.pushOn c frame drops buffers after) := by
  by_cases hreq : frame.ringName ∈ c.group.requiredStreams
  · cases hlast : (buffers c.group.masterStream).getLast? with
    | none =>
      rw [pushOn_waiting hreq hlast]
      exact .waiting hreq hlast
    | some master =>
      by_cases hopen : s.Open master
      · cases hsel : (select c buffers master).isComplete c with
        | true =>
          rw [pushOn_emit hreq hlast hopen (.inl hsel)]
          exact .emit master hreq hlast hopen (.inl hsel)
        | false =>
          cases hpub : c.sync.publishIncompleteBundles with
          | true =>
            rw [pushOn_emit hreq hlast hopen (.inr hpub)]
            exact .emit master hreq hlast hopen (.inr hpub)
          | false =>
            rw [pushOn_retry hreq hlast hopen hsel hpub]
            exact .retry master hreq hlast hopen hsel hpub
      · rw [pushOn_closed hreq hlast hopen]
        exact .closed master hreq hlast hopen
  · rw [pushOn_ignored hreq]
    exact .ignored hreq

end Call

/-! ## Runs -/

/-- A pushed frame, and the drop counters given with it. -/
abbrev Push := StreamFrame × List (String × ℕ)

/-- The state after a run, and the bundles it has emitted. -/
def runPushes (push : FrameSynchronizer → StreamFrame → List (String × ℕ) → FrameSynchronizer × Option FrameBundleMeta)
    (pushes : List Push) : FrameSynchronizer × List FrameBundleMeta :=
  pushes.foldl (fun r p => ((push r.1 p.1 p.2).1, r.2 ++ (push r.1 p.1 p.2).2.toList)) ({}, [])

theorem runPushes_concat
    (push : FrameSynchronizer → StreamFrame → List (String × ℕ) → FrameSynchronizer × Option FrameBundleMeta)
    (pushes : List Push) (p : Push) :
    runPushes push (pushes ++ [p]) =
      ((push (runPushes push pushes).1 p.1 p.2).1,
        (runPushes push pushes).2 ++ (push (runPushes push pushes).1 p.1 p.2).2.toList) := by
  rw [runPushes, List.foldl_append]
  rfl

/-- The frames of a stream, in their order. -/
def streamFrames (key : String) (pushes : List Push) : List StreamFrame :=
  (pushes.map Prod.fst).filter fun f => f.ringName = key

theorem streamFrames_concat (key : String) (pushes : List Push) (p : Push) :
    streamFrames key (pushes ++ [p]) =
      if p.1.ringName = key then streamFrames key pushes ++ [p.1] else streamFrames key pushes := by
  simp only [streamFrames, List.map_append, List.map_singleton, List.filter_append, List.filter_singleton]
  by_cases hkey : p.1.ringName = key
  · simp [hkey]
  · simp [hkey]

theorem mem_streamFrames {key : String} {pushes : List Push} {f : StreamFrame} (h : f ∈ streamFrames key pushes) :
    f.ringName = key := by
  simpa using (List.mem_filter.mp h).2

/-! ## The last frame of a buffer -/

theorem getLast?_of_suffix {α : Type*} {l l' : List α} (h : l <:+ l') :
    l.getLast? = none ∨ l.getLast? = l'.getLast? := by
  obtain ⟨d, rfl⟩ := h
  cases l with
  | nil => exact .inl rfl
  | cons a l =>
    right
    exact (List.getLast?_append_of_ne_nil _ (List.cons_ne_nil a l)).symm

theorem getLast?_trimBuffer (frames : List StreamFrame) (frame : StreamFrame) :
    (trimBuffer (frames ++ [frame]) maxBufferedFrames).getLast? = some frame := by
  rw [trimBuffer, List.drop_append_of_le_length]
  · exact List.getLast?_concat
  · rw [List.length_append, List.length_singleton]
    have hmax : maxBufferedFrames = 64 := rfl
    omega

variable {c : SynchronizerConfig}

theorem pruneBuffer_suffix (complete : Bool) (master : StreamFrame) (frames : List StreamFrame) :
    pruneBuffer c complete master frames <:+ frames := by
  unfold pruneBuffer
  split
  · dsimp only
    split
    · exact (List.dropWhile_suffix _).trans (List.dropWhile_suffix _)
    · exact List.dropWhile_suffix _
  · exact List.dropWhile_suffix _

theorem pruneBuffers_suffix (complete : Bool) (master : StreamFrame) (buffers : String → List StreamFrame)
    (k : String) : pruneBuffers c complete master buffers k <:+ buffers k := by
  rw [pruneBuffers]
  induction c.group.requiredStreams generalizing buffers with
  | nil => exact List.suffix_refl _
  | cons key keys ih =>
    rw [List.foldl_cons]
    refine (ih _).trans ?_
    by_cases hk : k = key
    · rw [hk, Function.update_self]
      exact pruneBuffer_suffix complete master _
    · exact (Function.update_of_ne hk _ buffers).symm ▸ List.suffix_refl (buffers k)

end FrameSynchronizer

end CameraServer
