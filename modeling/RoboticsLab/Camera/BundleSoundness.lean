import RoboticsLab.Camera.FrameSynchronizer
import Mathlib.Data.List.Induction
import Mathlib.Algebra.Order.Field.Basic
import Mathlib.Tactic.Linarith

/-!
# What a bundle holds

The buffers hold frames that were pushed since the last reset that affected the group, each in the buffer
of its stream (`Fresh`), and the gate of `push_frame` lets a master frame pass only when its number is
greater than the last one emitted (`pushFrame_cases`).  So every complete bundle is sound, whatever the order
of arrival, if its time limit is a number; a NaN passes `validate_config` and every comparison with it is
false, so then any skew is complete (`bundle_nan_limit`).  The skew is compared in ms as a `double`, which may round
down to the limit (`skew_rounds_to_limit`); at a whole number of ms it does not.

    validateBundleGroups groups → group ∈ groups → limit is not NaN → run →
      complete bundles are sound, bundle_seq counts, master frame numbers increase     (bundles_sound)
-/

namespace CameraServer

namespace FrameSynchronizer

/-! ## Choosing frames -/

theorem nearestByTimestamp_append (frames : List StreamFrame) (frame : StreamFrame) (target : ℕ) :
    nearestByTimestamp (frames ++ [frame]) target = nearer target (nearestByTimestamp frames target) frame := by
  rw [nearestByTimestamp, List.foldl_append]
  rfl

theorem nearer_ne_none (target : ℕ) (best : Option StreamFrame) (frame : StreamFrame) :
    nearer target best frame ≠ none := by
  unfold nearer
  split
  · simp
  · split <;> simp

theorem nearestByTimestamp_none {frames : List StreamFrame} {target : ℕ}
    (h : nearestByTimestamp frames target = none) : frames = [] := by
  cases frames using List.reverseRecOn with
  | nil => rfl
  | append_singleton fs f =>
    rw [nearestByTimestamp_append] at h
    exact absurd h (nearer_ne_none target _ f)

theorem nearestByTimestamp_spec (frames : List StreamFrame) (target : ℕ) {frame : StreamFrame}
    (h : nearestByTimestamp frames target = some frame) :
    frame ∈ frames ∧ ∀ g ∈ frames,
      timeDiff frame.hostArrivalTimeNs target ≤ timeDiff g.hostArrivalTimeNs target := by
  induction frames using List.reverseRecOn generalizing frame with
  | nil => simp [nearestByTimestamp] at h
  | append_singleton frames f ih =>
    rw [nearestByTimestamp_append] at h
    cases hbest : nearestByTimestamp frames target with
    | none =>
      rw [hbest] at h
      obtain rfl := Option.some.inj h
      simp [nearestByTimestamp_none hbest]
    | some b =>
      rw [hbest, nearer] at h
      obtain ⟨hb, hmin⟩ := ih hbest
      split at h
      · next hlt =>
        obtain rfl := Option.some.inj h
        refine ⟨by simp, ?_⟩
        intro g hg
        rcases List.mem_append.mp hg with hg | hg
        · exact hlt.le.trans (hmin g hg)
        · rw [List.mem_singleton.mp hg]
      · next hle =>
        obtain rfl := Option.some.inj h
        refine ⟨List.mem_append_left _ hb, ?_⟩
        intro g hg
        rcases List.mem_append.mp hg with hg | hg
        · exact hmin g hg
        · rw [List.mem_singleton.mp hg]
          omega

theorem exactFrameNumber_spec {frames : List StreamFrame} {n : ℕ} {frame : StreamFrame}
    (h : exactFrameNumber frames n = some frame) : frame ∈ frames ∧ frame.frameNumber = n :=
  ⟨List.mem_of_find?_eq_some h, by simpa using List.find?_some h⟩

section Select

variable {c : SynchronizerConfig} {buffers : String → List StreamFrame} {master : StreamFrame}

/-- What the loop over the required streams keeps; `keys` are those it has seen. -/
structure Selected (c : SynchronizerConfig) (buffers : String → List StreamFrame) (master : StreamFrame)
    (keys : List String) (sel : Selection) : Prop where
  origin : ∀ k frame, sel.selected k = some frame →
    (k = master.ringName ∧ frame = master) ∨ (k ∈ keys ∧ candidate c buffers master k = some frame ∧ frame.valid)
  found : sel.complete → ∀ k ∈ keys, ∃ frame, sel.selected k = some frame ∧
    candidate c buffers master k = some frame ∧ frame.valid ∧
    sel.minT ≤ frame.hostArrivalTimeNs ∧ frame.hostArrivalTimeNs ≤ sel.maxT
  master : sel.selected master.ringName = some master

theorem selectKey_selected {keys : List String} {sel : Selection} (h : Selected c buffers master keys sel)
    (key : String) : Selected c buffers master (keys ++ [key]) (selectKey c buffers master sel key) := by
  have hskip : Selected c buffers master (keys ++ [key]) { sel with complete := false } := by
    refine ⟨?_, by simp, h.master⟩
    intro k frame hk
    rcases h.origin k frame hk with h1 | ⟨h1, h2⟩
    · exact Or.inl h1
    · exact Or.inr ⟨List.mem_append_left _ h1, h2⟩
  unfold selectKey
  split
  · exact hskip
  · next frame hcand =>
    split
    · next hv =>
      refine ⟨?_, ?_, ?_⟩
      · intro k f hk
        by_cases hkey : k = key
        · subst hkey
          dsimp only at hk
          rw [Function.update_self] at hk
          obtain rfl := Option.some.inj hk
          exact Or.inr ⟨by simp, hcand, hv⟩
        · dsimp only at hk
          rw [Function.update_of_ne hkey] at hk
          rcases h.origin k f hk with h1 | ⟨h1, h2⟩
          · exact Or.inl h1
          · exact Or.inr ⟨List.mem_append_left _ h1, h2⟩
      · intro hc k hk
        dsimp only
        by_cases hkey : k = key
        · subst hkey
          exact ⟨frame, Function.update_self .., hcand, hv, min_le_right _ _, le_max_right _ _⟩
        · have hk : k ∈ keys := by
            rcases List.mem_append.mp hk with hk | hk
            · exact hk
            · exact absurd (List.mem_singleton.mp hk) hkey
          obtain ⟨f, hf, hcf, hvf, hmin, hmax⟩ := h.found hc k hk
          refine ⟨f, ?_, hcf, hvf, (min_le_left _ _).trans hmin, hmax.trans (le_max_left _ _)⟩
          rw [Function.update_of_ne hkey, hf]
      · dsimp only
        by_cases hkey : master.ringName = key
        · -- the candidate of the master's own stream is the master
          subst hkey
          rw [candidate, if_pos rfl] at hcand
          rw [Function.update_self, hcand]
        · rw [Function.update_of_ne hkey, h.master]
    · exact hskip

theorem foldl_selectKey_selected {done : List String} {sel : Selection} (h : Selected c buffers master done sel)
    (keys : List String) :
    Selected c buffers master (done ++ keys) (keys.foldl (selectKey c buffers master) sel) := by
  induction keys generalizing done sel with
  | nil => simpa using h
  | cons key keys ih =>
    rw [List.foldl_cons, List.append_cons]
    exact ih (selectKey_selected h key)

theorem select_selected (c : SynchronizerConfig) (buffers : String → List StreamFrame) (master : StreamFrame) :
    Selected c buffers master c.group.requiredStreams (select c buffers master) := by
  have hstart : Selected c buffers master []
      ⟨Function.update (fun _ => none) master.ringName (some master), true, uint64Max, 0⟩ := by
    refine ⟨?_, by simp, by simp⟩
    intro k frame hk
    dsimp only at hk
    by_cases hkey : k = master.ringName
    · subst hkey
      rw [Function.update_self] at hk
      exact Or.inl ⟨rfl, (Option.some.inj hk).symm⟩
    · rw [Function.update_of_ne hkey] at hk
      simp at hk
  exact foldl_selectKey_selected hstart c.group.requiredStreams

/-- What the first of two frames is later than the second, in ms. -/
def skewMs (f f' : StreamFrame) : Double := .ofNatDiv (f.hostArrivalTimeNs - f'.hostArrivalTimeNs) (10 ^ 6)

/-- The skew of a complete selection is within the limit, if the limit is a number. -/
theorem Selected.skew {sel : Selection} {keys : List String} (h : Selected c buffers master keys sel)
    (hc : sel.isComplete c) (hlimit : c.group.maxBundleTimeDiffMs ≠ .nan) {k k' : String} {f f' : StreamFrame}
    (hk : k ∈ keys) (hk' : k' ∈ keys) (hf : sel.selected k = some f) (hf' : sel.selected k' = some f') :
    (skewMs f f').le c.group.maxBundleTimeDiffMs := by
  rw [Selection.isComplete, Bool.and_eq_true, Bool.not_eq_true'] at hc
  obtain ⟨hcomp, hdiff⟩ := hc
  obtain ⟨g, hg, -, -, hmin, hmax⟩ := h.found hcomp k hk
  obtain ⟨g', hg', -, -, hmin', hmax'⟩ := h.found hcomp k' hk'
  obtain rfl : f = g := Option.some.inj (hf.symm.trans hg)
  obtain rfl : f' = g' := Option.some.inj (hf'.symm.trans hg')
  have hwhole : (skewMs f f').le sel.diffMs := by
    unfold skewMs Selection.diffMs
    split
    · exact Double.ofNatDiv_mono (by omega) (by norm_num)
    · next hmt =>
      -- no time is below the greatest `uint64_t`, so all times are that one
      have hf64 := f.hostArrivalTimeNs_lt
      have hge : 2 ^ 64 - 1 ≤ f'.hostArrivalTimeNs := by
        by_cases h1 : sel.minT = uint64Max
        · rwa [h1, uint64Max] at hmin'
        · exact absurd ⟨h1, by omega⟩ hmt
      rw [show f.hostArrivalTimeNs - f'.hostArrivalTimeNs = 0 by omega]
      decide +kernel
  apply Double.le_of_lt_eq_false (Double.ofRat_ne_nan _) hlimit
  by_contra hlt
  rw [Bool.not_eq_false] at hlt
  rw [Double.lt_of_lt_of_le hlt hwhole] at hdiff
  cases hdiff

end Select

/-! ## One call -/

section Call

variable {c : SynchronizerConfig} {s : FrameSynchronizer} {frame : StreamFrame} {drops : List (String × ℕ)}

/-- The frames of a call are of the buffers it finds. -/
theorem candidate_mem {buffers : String → List StreamFrame} {master f : StreamFrame} {k : String}
    (hm : master ∈ buffers master.ringName) (h : candidate c buffers master k = some f) : f ∈ buffers k := by
  unfold candidate at h
  split at h
  · next hk =>
    obtain rfl := Option.some.inj h
    rw [hk]
    exact hm
  · split at h
    · exact (exactFrameNumber_spec h).1
    · exact (nearestByTimestamp_spec _ _ h).1

theorem pruneBuffer_sublist (complete : Bool) (master : StreamFrame) (frames : List StreamFrame) :
    (pruneBuffer c complete master frames).Sublist frames := by
  unfold pruneBuffer
  split
  · dsimp only
    split
    · exact (List.dropWhile_sublist _).trans (List.dropWhile_sublist _)
    · exact List.dropWhile_sublist _
  · exact List.dropWhile_sublist _

theorem pruneBuffers_sublist (complete : Bool) (master : StreamFrame) (buffers : String → List StreamFrame)
    (k : String) : (pruneBuffers c complete master buffers k).Sublist (buffers k) := by
  rw [pruneBuffers]
  induction c.group.requiredStreams generalizing buffers with
  | nil => exact List.Sublist.refl _
  | cons key keys ih =>
    rw [List.foldl_cons]
    refine (ih _).trans ?_
    by_cases hk : k = key
    · rw [hk, Function.update_self]
      exact pruneBuffer_sublist complete master _
    · rw [Function.update_of_ne hk]

@[simp] theorem notePending_buffers (master : StreamFrame) : (s.notePending master).buffers = s.buffers := by
  unfold notePending
  split
  · split <;> rfl
  · rfl

@[simp] theorem notePending_bundleSeq (master : StreamFrame) : (s.notePending master).bundleSeq = s.bundleSeq := by
  unfold notePending
  split
  · split <;> rfl
  · rfl

@[simp] theorem notePending_lastEmitted (master : StreamFrame) :
    (s.notePending master).lastEmittedMasterFrameNumber = s.lastEmittedMasterFrameNumber := by
  unfold notePending
  split
  · split <;> rfl
  · rfl

/-- The emission of `master` with the frames `sel`. -/
structure Emits (c : SynchronizerConfig) (s : FrameSynchronizer) (frame : StreamFrame) (master : StreamFrame)
    (s' : FrameSynchronizer) (b : FrameBundleMeta) : Prop where
  required : frame.ringName ∈ c.group.requiredStreams
  last : (s.bufferFrame frame c.group.masterStream).getLast? = some master
  gate : master.frameNumber ≠ 0 → s.lastEmittedMasterFrameNumber < master.frameNumber
  frames : b.frames = (select c (s.bufferFrame frame) master).selected
  complete : b.complete = (select c (s.bufferFrame frame) master).isComplete c
  seq : b.bundleSeq = addU64 s.bundleSeq 1
  seq' : s'.bundleSeq = addU64 s.bundleSeq 1
  emitted : master.frameNumber ≠ 0 → s'.lastEmittedMasterFrameNumber = master.frameNumber
  kept : ∀ k, (s'.buffers k).Sublist (s.bufferFrame frame k)

/-- A call that emits nothing. -/
structure Holds (c : SynchronizerConfig) (s : FrameSynchronizer) (frame : StreamFrame)
    (s' : FrameSynchronizer) : Prop where
  buffers : s'.buffers = if frame.ringName ∈ c.group.requiredStreams then s.bufferFrame frame else s.buffers
  seq : s'.bundleSeq = s.bundleSeq
  lastEmitted : s'.lastEmittedMasterFrameNumber = s.lastEmittedMasterFrameNumber

/-- **What `push_frame` can do.** -/
theorem pushFrame_cases (c : SynchronizerConfig) (s : FrameSynchronizer) (frame : StreamFrame)
    (drops : List (String × ℕ)) :
    (∃ s', s.pushFrame c frame drops = (s', none) ∧ Holds c s frame s') ∨
    ∃ s' b master, s.pushFrame c frame drops = (s', some b) ∧ Emits c s frame master s' b := by
  by_cases hreq : frame.ringName ∈ c.group.requiredStreams
  · rw [pushFrame, if_neg (not_not.mpr hreq)]
    dsimp only
    cases hlast : (s.bufferFrame frame c.group.masterStream).getLast? with
    | none => exact Or.inl ⟨_, rfl, by rw [if_pos hreq], rfl, rfl⟩
    | some master =>
      dsimp only
      split
      · exact Or.inl ⟨_, rfl, by rw [if_pos hreq], rfl, rfl⟩
      · next hgate =>
        rw [notePending_buffers]
        dsimp only
        split
        · refine Or.inl ⟨_, rfl, ?_, ?_, ?_⟩
          · rw [if_pos hreq]
          · simp
          · simp
        · refine Or.inr ⟨_, _, master, rfl, hreq, hlast, ?_, rfl, rfl, ?_, ?_, ?_, ?_⟩
          · intro h0
            by_contra hle
            exact hgate ⟨h0, by omega⟩
          · simp [bundleOf]
          · simp [FrameSynchronizer.emitted]
          · intro h0
            simp [FrameSynchronizer.emitted, h0]
          · intro k
            simpa [FrameSynchronizer.emitted] using pruneBuffers_sublist (c := c) _ master (s.bufferFrame frame) k
  · rw [pushFrame, if_pos hreq]
    exact Or.inl ⟨_, rfl, by rw [if_neg hreq], rfl, rfl⟩

end Call

/-! ## Whole runs -/

inductive SyncCall
  | push (frame : StreamFrame) (dropCounters : List (String × ℕ))
  | reset (cameraName : String)

def call (c : SynchronizerConfig) (s : FrameSynchronizer) : SyncCall → FrameSynchronizer × Option FrameBundleMeta
  | .push frame dropCounters => s.pushFrame c frame dropCounters
  | .reset cameraName => ((s.resetCameraGeneration c cameraName).1, none)

def afterCalls (c : SynchronizerConfig) (s : FrameSynchronizer) (calls : List SyncCall) : FrameSynchronizer :=
  calls.foldl (fun s x => (s.call c x).1) s

/-- The bundles emitted by a run, in their order. -/
def bundles (c : SynchronizerConfig) (s : FrameSynchronizer) : List SyncCall → List FrameBundleMeta
  | [] => []
  | x :: xs => (s.call c x).2.toList ++ bundles c (s.call c x).1 xs

/-- The frames pushed since the last reset that affected the group. -/
def sinceReset (c : SynchronizerConfig) (calls : List SyncCall) : List StreamFrame :=
  calls.foldl (fun fresh x => match x with
    | .push frame _ => fresh ++ [frame]
    | .reset cameraName => if affected c cameraName then [] else fresh) []

/-- Every buffered frame is in the buffer of its stream and was pushed since the last reset. -/
def Fresh (fresh : List StreamFrame) (s : FrameSynchronizer) : Prop :=
  ∀ k, ∀ f ∈ s.buffers k, f.ringName = k ∧ f ∈ fresh

section Runs

variable {c : SynchronizerConfig} {s : FrameSynchronizer}

theorem Fresh.bufferFrame {fresh : List StreamFrame} (h : Fresh fresh s) (frame : StreamFrame) :
    ∀ k, ∀ f ∈ s.bufferFrame frame k, f.ringName = k ∧ f ∈ fresh ++ [frame] := by
  intro k f hf
  rw [FrameSynchronizer.bufferFrame] at hf
  by_cases hk : k = frame.ringName
  · subst hk
    rw [Function.update_self, trimBuffer] at hf
    rcases List.mem_append.mp (List.mem_of_mem_drop hf) with hf | hf
    · obtain ⟨h1, h2⟩ := h _ f hf
      exact ⟨h1, List.mem_append_left _ h2⟩
    · obtain rfl := List.mem_singleton.mp hf
      exact ⟨rfl, by simp⟩
  · rw [Function.update_of_ne hk] at hf
    obtain ⟨h1, h2⟩ := h k f hf
    exact ⟨h1, List.mem_append_left _ h2⟩

/-- **One step** keeps the buffers fresh. -/
theorem call_fresh {calls : List SyncCall} (h : Fresh (sinceReset c calls) s) (x : SyncCall) :
    Fresh (sinceReset c (calls ++ [x])) (s.call c x).1 := by
  rw [sinceReset, List.foldl_append]
  cases x with
  | push frame drops =>
    show Fresh (sinceReset c calls ++ [frame]) (s.pushFrame c frame drops).1
    rcases pushFrame_cases c s frame drops with ⟨s', heq, hs'⟩ | ⟨s', b, master, heq, hs'⟩
    · rw [heq]
      intro k f hf
      dsimp only at hf
      rw [hs'.buffers] at hf
      split at hf
      · exact h.bufferFrame frame k f hf
      · obtain ⟨h1, h2⟩ := h k f hf
        exact ⟨h1, List.mem_append_left _ h2⟩
    · rw [heq]
      intro k f hf
      exact h.bufferFrame frame k f ((hs'.kept k).subset hf)
  | reset cameraName =>
    show Fresh (if affected c cameraName then [] else sinceReset c calls) (s.resetCameraGeneration c cameraName).1
    unfold resetCameraGeneration
    split
    · intro k f hf
      simp at hf
    · exact h

/-- **Whole runs** keep the buffers fresh. -/
theorem afterCalls_fresh (c : SynchronizerConfig) (calls : List SyncCall) :
    Fresh (sinceReset c calls) (afterCalls c {} calls) := by
  induction calls using List.reverseRecOn with
  | nil =>
    intro k f hf
    simp [afterCalls] at hf
  | append_singleton calls x ih =>
    rw [afterCalls, List.foldl_append]
    exact call_fresh ih x

/-- Counting on from a counter that has wrapped. -/
theorem map_u64_range' (a n : ℕ) : (List.range' (u64 a + 1) n).map u64 = (List.range' (a + 1) n).map u64 := by
  apply List.ext_getElem (by simp)
  intro i h1 h2
  simp only [List.getElem_map, List.getElem_range', one_mul, u64]
  omega

/-- `bundle_seq` counts the bundles, in 64 bits. -/
theorem bundles_seq (c : SynchronizerConfig) (s : FrameSynchronizer) (calls : List SyncCall) :
    (bundles c s calls).map FrameBundleMeta.bundleSeq =
      (List.range' (s.bundleSeq + 1) (bundles c s calls).length).map u64 := by
  induction calls generalizing s with
  | nil => rfl
  | cons x calls ih =>
    rw [bundles]
    have hstep : (s.call c x).2 = none ∧ (s.call c x).1.bundleSeq = s.bundleSeq ∨
        ∃ b, (s.call c x).2 = some b ∧ b.bundleSeq = addU64 s.bundleSeq 1 ∧
          (s.call c x).1.bundleSeq = addU64 s.bundleSeq 1 := by
      cases x with
      | push frame drops =>
        rcases pushFrame_cases c s frame drops with ⟨s', heq, hs'⟩ | ⟨s', b, master, heq, hs'⟩
        · left
          rw [call, heq]
          exact ⟨rfl, hs'.seq⟩
        · right
          rw [call, heq]
          exact ⟨b, rfl, hs'.seq, hs'.seq'⟩
      | reset cameraName =>
        left
        refine ⟨rfl, ?_⟩
        rw [call, resetCameraGeneration]
        split <;> rfl
    have hrest := ih (s.call c x).1
    rcases hstep with ⟨hb, hseq⟩ | ⟨b, hb, hbseq, hseq⟩
    · rw [hb, Option.toList_none, List.nil_append, hrest, hseq]
    · rw [hb, Option.toList_some, List.singleton_append, List.map_cons, hrest, hseq, hbseq, addU64, map_u64_range',
        List.length_cons, List.range'_succ, List.map_cons]

theorem afterCalls_append (c : SynchronizerConfig) (s : FrameSynchronizer) (xs ys : List SyncCall) :
    afterCalls c s (xs ++ ys) = afterCalls c (afterCalls c s xs) ys := List.foldl_append

theorem mem_sinceReset {calls : List SyncCall} {f : StreamFrame} (h : f ∈ sinceReset c calls) :
    ∃ drops, .push f drops ∈ calls := by
  induction calls using List.reverseRecOn with
  | nil => simp [sinceReset] at h
  | append_singleton calls x ih =>
    rw [sinceReset, List.foldl_append] at h
    have hbefore : f ∈ sinceReset c calls → ∃ drops, SyncCall.push f drops ∈ calls ++ [x] := by
      intro hf
      obtain ⟨drops, hd⟩ := ih hf
      exact ⟨drops, List.mem_append_left _ hd⟩
    cases x with
    | push frame drops =>
      rcases List.mem_append.mp h with h | h
      · exact hbefore h
      · obtain rfl := List.mem_singleton.mp h
        exact ⟨drops, by simp⟩
    | reset cameraName =>
      replace h : f ∈ if affected c cameraName then [] else sinceReset c calls := h
      split at h
      · simp at h
      · exact hbefore h

/-- The master frame of a bundle. -/
theorem Emits.master {fresh : List StreamFrame} {frame master : StreamFrame} {s' : FrameSynchronizer}
    {b : FrameBundleMeta} (h : Emits c s frame master s' b) (hs : Fresh fresh s) :
    master.ringName = c.group.masterStream ∧ master ∈ s.bufferFrame frame master.ringName ∧
      master ∈ fresh ++ [frame] ∧ b.frames c.group.masterStream = some master := by
  have hmem := List.mem_of_getLast? h.last
  obtain ⟨hring, hfresh⟩ := hs.bufferFrame frame _ master hmem
  refine ⟨hring, by rw [hring]; exact hmem, hfresh, ?_⟩
  rw [h.frames, ← hring]
  exact (select_selected c _ master).master

/-- The frame number of the master frame of a bundle. -/
def masterFrameNumber (c : SynchronizerConfig) (b : FrameBundleMeta) : ℕ :=
  ((b.frames c.group.masterStream).map fun m => m.frameNumber).getD 0

/-- **The gate.**  While the master's camera is not reset, the numbers of the master frames increase. -/
theorem bundles_increase (pre mid : List SyncCall)
    (hnum : ∀ f drops, .push f drops ∈ pre ++ mid → f.frameNumber ≠ 0)
    (hmid : ∀ cam, .reset cam ∈ mid → streamBelongsToCamera c.group.masterStream cam = false) :
    ((bundles c (afterCalls c {} pre) mid).map (masterFrameNumber c)).Pairwise (· < ·) ∧
      ∀ n ∈ (bundles c (afterCalls c {} pre) mid).map (masterFrameNumber c),
        (afterCalls c {} pre).lastEmittedMasterFrameNumber < n := by
  induction mid generalizing pre with
  | nil => simp [bundles]
  | cons x mid ih =>
    have hfresh := afterCalls_fresh c pre
    obtain ⟨hinc, hgt⟩ := ih (pre ++ [x]) (by simpa using hnum) fun cam hcam =>
      hmid cam (List.mem_cons_of_mem _ hcam)
    have hafter : afterCalls c {} (pre ++ [x]) = ((afterCalls c {} pre).call c x).1 := by
      rw [afterCalls_append]
      rfl
    rw [hafter] at hinc hgt
    rw [bundles]
    generalize afterCalls c {} pre = s at hfresh hinc hgt
    cases x with
    | push frame drops =>
      rcases pushFrame_cases c s frame drops with ⟨s', heq, hs'⟩ | ⟨s', b, master, heq, hs'⟩
      · rw [call, heq] at hinc hgt ⊢
        dsimp only at hinc hgt ⊢
        rw [hs'.lastEmitted] at hgt
        rw [Option.toList_none, List.nil_append]
        exact ⟨hinc, hgt⟩
      · obtain ⟨-, -, hmem, hframes⟩ := hs'.master hfresh
        have h0 : master.frameNumber ≠ 0 := by
          rcases List.mem_append.mp hmem with hm | hm
          · obtain ⟨drops', hd⟩ := mem_sinceReset hm
            exact hnum master drops' (List.mem_append_left _ hd)
          · rw [List.mem_singleton.mp hm]
            exact hnum frame drops (by simp)
        have hnumb : masterFrameNumber c b = master.frameNumber := by
          rw [masterFrameNumber, hframes]
          rfl
        rw [call, heq] at hinc hgt ⊢
        dsimp only at hinc hgt ⊢
        rw [hs'.emitted h0] at hgt
        have hgate := hs'.gate h0
        rw [Option.toList_some, List.singleton_append, List.map_cons, List.pairwise_cons, hnumb]
        refine ⟨⟨hgt, hinc⟩, ?_⟩
        intro n hn
        rcases List.mem_cons.mp hn with rfl | hn
        · exact hgate
        · exact hgate.trans (hgt n hn)
    | reset cameraName =>
      have hlast : (s.resetCameraGeneration c cameraName).1.lastEmittedMasterFrameNumber =
          s.lastEmittedMasterFrameNumber := by
        unfold resetCameraGeneration
        split
        · exact if_neg (by rw [hmid cameraName (by simp)]; simp)
        · rfl
      rw [call] at hinc hgt ⊢
      dsimp only at hinc hgt ⊢
      rw [hlast] at hgt
      rw [Option.toList_none, List.nil_append]
      exact ⟨hinc, hgt⟩

/-! ## Complete bundles -/

/-- A sound complete bundle; `buffers` is what is buffered when it is made, `fresh` what was pushed since the
last reset that affected the group. -/
structure CompleteBundle (c : SynchronizerConfig) (buffers : String → List StreamFrame)
    (fresh : List StreamFrame) (b : FrameBundleMeta) : Prop where
  keys : ∀ k, (b.frames k).isSome ↔ k ∈ c.group.requiredStreams
  frames : ∀ k f, b.frames k = some f → f.ringName = k ∧ f.valid ∧ f ∈ fresh
  skew : ∀ k f k' f', b.frames k = some f → b.frames k' = some f' →
    (skewMs f f').le c.group.maxBundleTimeDiffMs
  skewNs : ∀ n : ℕ, c.group.maxBundleTimeDiffMs = .fin n → n ≤ 10 ^ 9 → ∀ k f k' f', b.frames k = some f →
    b.frames k' = some f' → f.hostArrivalTimeNs - f'.hostArrivalTimeNs ≤ n * 10 ^ 6
  chosen : ∃ m, b.frames c.group.masterStream = some m ∧
    (c.sync.mode = .hardware → ∀ k f, b.frames k = some f → f.frameNumber = m.frameNumber) ∧
    (c.sync.mode = .software → ∀ k f, b.frames k = some f → ∀ g ∈ buffers k,
      timeDiff f.hostArrivalTimeNs m.hostArrivalTimeNs ≤ timeDiff g.hostArrivalTimeNs m.hostArrivalTimeNs)

/-- The frames of a bundle, complete or not, were pushed since the last reset. -/
theorem Emits.frames_fresh {fresh : List StreamFrame} {frame master : StreamFrame} {s' : FrameSynchronizer}
    {b : FrameBundleMeta} (h : Emits c s frame master s' b) (hs : Fresh fresh s) {k : String} {f : StreamFrame}
    (hf : b.frames k = some f) : f.ringName = k ∧ f ∈ fresh ++ [frame] := by
  obtain ⟨hring, hmem, -, -⟩ := h.master hs
  rw [h.frames] at hf
  rcases (select_selected c _ master).origin k f hf with ⟨rfl, rfl⟩ | ⟨-, hcand, -⟩
  · exact hs.bufferFrame frame _ f hmem
  · exact hs.bufferFrame frame k f (candidate_mem hmem hcand)

theorem Emits.completeBundle {fresh : List StreamFrame} {frame master : StreamFrame} {s' : FrameSynchronizer}
    {b : FrameBundleMeta} (h : Emits c s frame master s' b) (hs : Fresh fresh s)
    (hreq : c.group.masterStream ∈ c.group.requiredStreams) (hlimit : c.group.maxBundleTimeDiffMs ≠ .nan)
    (hc : b.complete) : CompleteBundle c (s.bufferFrame frame) (fresh ++ [frame]) b := by
  obtain ⟨hring, hmem, -, hmaster⟩ := h.master hs
  have hsel := select_selected c (s.bufferFrame frame) master
  have hcomp : (select c (s.bufferFrame frame) master).isComplete c := by rw [← h.complete]; exact hc
  have hall : (select c (s.bufferFrame frame) master).complete := by
    rw [Selection.isComplete, Bool.and_eq_true] at hcomp
    exact hcomp.1
  have hkey : ∀ k f, b.frames k = some f → k ∈ c.group.requiredStreams := by
    intro k f hf
    rw [h.frames] at hf
    rcases hsel.origin k f hf with ⟨rfl, -⟩ | ⟨hk, -⟩
    · rw [hring]
      exact hreq
    · exact hk
  have hcand : ∀ k f, b.frames k = some f → candidate c (s.bufferFrame frame) master k = some f ∧ f.valid := by
    intro k f hf
    obtain ⟨g, hg, hcg, hvg, -⟩ := hsel.found hall k (hkey k f hf)
    rw [h.frames, hg] at hf
    obtain rfl := Option.some.inj hf
    exact ⟨hcg, hvg⟩
  have hskew : ∀ k f k' f', b.frames k = some f → b.frames k' = some f' →
      (skewMs f f').le c.group.maxBundleTimeDiffMs := by
    intro k f k' f' hf hf'
    have hk := hkey k f hf
    have hk' := hkey k' f' hf'
    rw [h.frames] at hf hf'
    exact hsel.skew hcomp hlimit hk hk' hf hf'
  refine ⟨?_, ?_, hskew, ?_, master, hmaster, ?_, ?_⟩
  · intro k
    constructor
    · intro hk
      obtain ⟨f, hf⟩ := Option.isSome_iff_exists.mp hk
      exact hkey k f hf
    · intro hk
      obtain ⟨f, hf, -⟩ := hsel.found hall k hk
      rw [h.frames, hf]
      rfl
  · intro k f hf
    obtain ⟨h1, h2⟩ := h.frames_fresh hs hf
    exact ⟨h1, (hcand k f hf).2, h2⟩
  · intro n hn hn9 k f k' f' hf hf'
    have hle := hskew k f k' f' hf hf'
    rw [hn] at hle
    by_contra hgt
    have hlt : (Double.fin n).lt (skewMs f f') :=
      Double.lt_ofNatDiv (d := 10 ^ 6) (by norm_num) (by norm_num) (by omega) (not_le.mp hgt)
    rw [Double.not_le_of_lt hlt] at hle
    cases hle
  · intro hmode k f hf
    have hcf := (hcand k f hf).1
    rw [candidate, hmode] at hcf
    split at hcf
    · rw [Option.some.inj hcf]
    · exact (exactFrameNumber_spec hcf).2
  · intro hmode k f hf g hg
    have hcf := (hcand k f hf).1
    rw [candidate, hmode] at hcf
    split at hcf
    · obtain rfl := Option.some.inj hcf
      simp [timeDiff]
    · exact (nearestByTimestamp_spec _ _ hcf).2 g hg

end Runs

/-- A group that `validate_config` lets pass requires its master stream. -/
theorem validateBundleGroups_master {available names topics : List String} {groups : List BundleGroupConfig}
    (h : validateBundleGroups available names topics groups = .ok ()) {group : BundleGroupConfig}
    (hg : group ∈ groups) : group.masterStream ∈ group.requiredStreams := by
  induction groups generalizing names topics with
  | nil => simp at hg
  | cons g groups ih =>
    unfold validateBundleGroups at h
    split at h
    · cases h
    split at h
    · cases h
    split at h
    · cases h
    split at h
    · cases h
    · next hreq =>
      split at h
      · cases h
      split at h
      · cases h
      · rcases List.mem_cons.mp hg with rfl | hg
        · exact not_not.mp hreq
        · exact ih h hg

/-- **Whole runs.**  For a group that `validate_config` lets pass and a limit that is a number: every complete
bundle is sound, no bundle mixes frames from before and after a reset, `bundle_seq` counts the bundles in 64 bits,
and between resets of the master's camera the numbers of the master frames increase. -/
theorem bundles_sound {available : List String} {groups : List BundleGroupConfig} {c : SynchronizerConfig}
    (hvalid : validateBundleGroups available [] [] groups = .ok ()) (hgroup : c.group ∈ groups)
    (hlimit : c.group.maxBundleTimeDiffMs ≠ .nan) {calls : List SyncCall}
    (hnum : ∀ f drops, .push f drops ∈ calls → f.frameNumber ≠ 0) :
    (∀ pre frame drops post b, calls = pre ++ .push frame drops :: post →
      ((afterCalls c {} pre).pushFrame c frame drops).2 = some b →
        (b.complete → CompleteBundle c ((afterCalls c {} pre).bufferFrame frame)
          (sinceReset c (pre ++ [.push frame drops])) b) ∧
        ∀ k f, b.frames k = some f → f.ringName = k ∧ f ∈ sinceReset c (pre ++ [.push frame drops])) ∧
    (bundles c {} calls).map FrameBundleMeta.bundleSeq = (List.range' 1 (bundles c {} calls).length).map u64 ∧
    ∀ pre mid post, calls = pre ++ mid ++ post →
      (∀ cam, .reset cam ∈ mid → streamBelongsToCamera c.group.masterStream cam = false) →
      ((bundles c (afterCalls c {} pre) mid).map (masterFrameNumber c)).Pairwise (· < ·) := by
  refine ⟨?_, ?_, ?_⟩
  · intro pre frame drops post b hcalls hb
    have hfresh := afterCalls_fresh c pre
    have hsince : sinceReset c (pre ++ [.push frame drops]) = sinceReset c pre ++ [frame] := by
      rw [sinceReset, List.foldl_append]
      rfl
    rw [hsince]
    rcases pushFrame_cases c (afterCalls c {} pre) frame drops with ⟨s', heq, -⟩ | ⟨s', b', master, heq, hs'⟩
    · rw [heq] at hb
      cases hb
    · rw [heq] at hb
      obtain rfl := Option.some.inj hb
      constructor
      · exact hs'.completeBundle hfresh (validateBundleGroups_master hvalid hgroup) hlimit
      · intro k f hf
        exact hs'.frames_fresh hfresh hf
  · exact bundles_seq c {} calls
  · rintro pre mid post rfl hmid
    exact (bundles_increase pre mid (fun f drops hf => hnum f drops (List.mem_append_left _ hf)) hmid).1

/-! ## Two cameras -/

/-- A frame of a stream. -/
def sampleFrame (ringName : String) (frameNumber : ℕ) (timeMs : UInt32) : StreamFrame where
  frameNumber := frameNumber
  hostArrivalTimeNs := timeMs.toNat * 10 ^ 6
  sensorTimestampNs := 0
  width := 2
  height := 1
  strideBytes := 2
  format := "y8"
  ringName := ringName
  slotIndex := 0
  shmOffset := 72
  sizeBytes := 2
  seq := 2
  valid := true
  hostArrivalTimeNs_lt := by
    have := timeMs.toNat_lt
    omega

def pairGroup (limitMs : Double) : BundleGroupConfig :=
  ⟨"pair", "camera.bundle", "head.color", ["head.color", "wrist.color"], limitMs, false⟩

def pairConfig (mode : SyncMode) (limitMs : Double) : SynchronizerConfig where
  sync := ⟨mode, if mode = .hardware then "frame_number" else "nearest_timestamp", false⟩
  group := pairGroup limitMs
  statsWindowSec := .fin 5

/-- The head camera's frame 1 at 0 ms and the wrist camera's frame 1 at 5 ms. -/
def pairCalls : List SyncCall :=
  [.push (sampleFrame "head.color" 1 0) [], .push (sampleFrame "wrist.color" 1 5) []]

/-- With a limit of 10 ms the second frame completes a bundle. -/
theorem bundles_sound_pair :
    (bundles (pairConfig .software (.fin 10)) {} pairCalls).map FrameBundleMeta.bundleSeq = [1] := by
  have hvalid : validateBundleGroups ["head.color", "wrist.color"] [] [] [pairGroup (.fin 10)] = .ok () := by
    decide +kernel
  have hgroup : (pairConfig .software (.fin 10)).group ∈ [pairGroup (.fin 10)] := by simp [pairConfig]
  have hnum : ∀ f drops, .push f drops ∈ pairCalls → f.frameNumber ≠ 0 := by
    intro f drops hf
    simp only [pairCalls, List.mem_cons, SyncCall.push.injEq, List.not_mem_nil, or_false] at hf
    rcases hf with ⟨rfl, -⟩ | ⟨rfl, -⟩ <;> decide
  have hlimit : (pairConfig .software (.fin 10)).group.maxBundleTimeDiffMs ≠ .nan := by
    simp [pairConfig, pairGroup]
  have h := (bundles_sound hvalid hgroup hlimit hnum).2.1
  rw [h]
  decide +kernel

/-- The skew is within the limit in exact arithmetic. -/
def ExactSkewWithin (limitMs : Double) (b : FrameBundleMeta) : Prop :=
  ∀ k f k' f', b.frames k = some f → b.frames k' = some f' →
    Double.le (.fin (((f.hostArrivalTimeNs : ℚ) - f'.hostArrivalTimeNs) / 10 ^ 6)) limitMs

/-- The limit passes, and two frames further apart make a complete bundle. -/
def PairsBeyondLimit (mode : SyncMode) (limitMs : Double) (head wrist : StreamFrame) : Prop :=
  validateBundleGroups ["head.color", "wrist.color"] [] [] [pairGroup limitMs] = .ok () ∧
  ∃ b, ((afterCalls (pairConfig mode limitMs) {} [.push head []]).pushFrame (pairConfig mode limitMs) wrist []).2 =
      some b ∧
    b.complete ∧ ¬ExactSkewWithin limitMs b

/-- A NaN limit is not `<= 0.0`, so it passes; no skew is above it, so the frames of the two cameras, a second
apart, are a complete bundle. -/
theorem bundle_nan_limit :
    PairsBeyondLimit .hardware .nan (sampleFrame "head.color" 1 0) (sampleFrame "wrist.color" 1 1000) := by
  refine ⟨by decide +kernel, _, rfl, by decide +kernel, ?_⟩
  intro h
  have hskew := h "wrist.color" (sampleFrame "wrist.color" 1 1000) "head.color"
    (sampleFrame "head.color" 1 0) rfl rfl
  simp [Double.le] at hskew

/-- A frame of a stream at a time in ns. -/
def frameAt (ringName : String) (frameNumber : ℕ) (timeNs : UInt64) : StreamFrame :=
  { sampleFrame ringName frameNumber 0 with
    hostArrivalTimeNs := timeNs.toNat
    hostArrivalTimeNs_lt := timeNs.toNat_lt }

/-- 33300000 ns are 33.3 ms, above the `double` of that, and their quotient by 1e6 rounds down to it. -/
theorem skew_rounds_to_limit :
    PairsBeyondLimit .software (.ofRat (333 / 10)) (frameAt "head.color" 1 0) (frameAt "wrist.color" 1 33300000) := by
  refine ⟨by decide +kernel, ?_⟩
  generalize he : ((afterCalls (pairConfig .software (.ofRat (333 / 10))) {}
    [.push (frameAt "head.color" 1 0) []]).pushFrame (pairConfig .software (.ofRat (333 / 10)))
      (frameAt "wrist.color" 1 33300000) []).2 = emitted
  have hcomplete : emitted.map FrameBundleMeta.complete = some true := by
    rw [← he]
    decide +kernel
  have htimes : emitted.map (fun b => ["head.color", "wrist.color"].map fun key =>
      (b.frames key).map fun f => f.hostArrivalTimeNs) = some [some 0, some 33300000] := by
    rw [← he]
    decide +kernel
  obtain ⟨b, rfl, hb⟩ := Option.map_eq_some_iff.mp hcomplete
  simp only [Option.map_some, List.map_cons, List.map_nil, Option.some.injEq, List.cons.injEq, and_true,
    Option.map_eq_some_iff] at htimes
  obtain ⟨⟨head, hhead, hhead0⟩, wrist, hwrist, hwrist0⟩ := htimes
  refine ⟨b, rfl, hb, fun h => ?_⟩
  have hskew := h _ _ _ _ hwrist hhead
  rw [hhead0, hwrist0] at hskew
  revert hskew
  decide +kernel

theorem complete_beyond_limit :
    PairsBeyondLimit .hardware .nan (sampleFrame "head.color" 1 0) (sampleFrame "wrist.color" 1 1000) ∧
    PairsBeyondLimit .software (.ofRat (333 / 10)) (frameAt "head.color" 1 0) (frameAt "wrist.color" 1 33300000) :=
  ⟨bundle_nan_limit, skew_rounds_to_limit⟩

end FrameSynchronizer

end CameraServer
