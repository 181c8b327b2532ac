import RoboticsLab.Camera.PushRuns

/-!
# Master frames are conserved

Every master frame is emitted, dropped or still waiting.  A drop is noticed late, by the next master
frame, from `pending_master_frame_number_` and `last_emitted_master_frame_number_`; the invariant
(`Conserved`) says what the two stand for, and one call keeps it (`Conserved.push`).

    master frames pushed = bundle_seq + dropped_master_count + (1 if the latest is not emitted)
    incomplete_bundle_count = dropped_master_count + incomplete bundles emitted       (master_conserved)
-/

namespace CameraServer

namespace FrameSynchronizer

/-! ## The statement -/

/-- One when the latest master frame is in no bundle. -/
def waitingMasters (c : SynchronizerConfig) (pushes : List Push) (out : List FrameBundleMeta) : ℕ :=
  match (streamFrames c.group.masterStream pushes).getLast? with
  | none => 0
  | some m => if ∃ b ∈ out, masterFrameNumber c b = m.frameNumber then 0 else 1

def incompleteBundles (out : List FrameBundleMeta) : ℕ := (out.filter fun b => !b.complete).length

/-- The numbers of the master frames: nonzero, of 64 bits, increasing. -/
structure MasterNumbers (c : SynchronizerConfig) (pushes : List Push) : Prop where
  increasing : (streamFrames c.group.masterStream pushes).Pairwise fun f g => f.frameNumber < g.frameNumber
  nonzero : ∀ f ∈ streamFrames c.group.masterStream pushes, f.frameNumber ≠ 0
  width : ∀ f ∈ streamFrames c.group.masterStream pushes, f.frameNumber < 2 ^ 64

/-! ## Numbers -/

section Numbers

variable {c : SynchronizerConfig} {pushes : List Push}

/-- The number of the latest master frame, zero before the first. -/
def newestNumber (c : SynchronizerConfig) (pushes : List Push) : ℕ :=
  ((streamFrames c.group.masterStream pushes).getLast?.map fun m => m.frameNumber).getD 0

theorem newestNumber_of_getLast? {m : StreamFrame}
    (h : (streamFrames c.group.masterStream pushes).getLast? = some m) :
    newestNumber c pushes = m.frameNumber := by
  rw [newestNumber, h]
  rfl

theorem MasterNumbers.of_concat {p : Push} (h : MasterNumbers c (pushes ++ [p])) : MasterNumbers c pushes := by
  obtain ⟨hinc, hne, hw⟩ := h
  rw [streamFrames_concat] at hinc hne hw
  by_cases hp : p.1.ringName = c.group.masterStream
  · rw [if_pos hp] at hinc hne hw
    exact ⟨(List.pairwise_append.mp hinc).1, fun f hf => hne f (List.mem_append_left _ hf),
      fun f hf => hw f (List.mem_append_left _ hf)⟩
  · rw [if_neg hp] at hinc hne hw
    exact ⟨hinc, hne, hw⟩

/-- A new master frame has a greater number than the latest. -/
theorem MasterNumbers.newest_lt {p : Push} (h : MasterNumbers c (pushes ++ [p]))
    (hp : p.1.ringName = c.group.masterStream) : newestNumber c pushes < p.1.frameNumber := by
  obtain ⟨hinc, hne, -⟩ := h
  rw [streamFrames_concat, if_pos hp] at hinc hne
  cases hlast : (streamFrames c.group.masterStream pushes).getLast? with
  | none =>
    have h0 := hne p.1 (by simp)
    rw [newestNumber, hlast]
    exact Nat.pos_of_ne_zero h0
  | some m =>
    rw [newestNumber_of_getLast? hlast]
    exact (List.pairwise_append.mp hinc).2.2 m (List.mem_of_getLast? hlast) p.1 (by simp)

/-- So many different numbers fit below the latest. -/
theorem MasterNumbers.length_le (h : MasterNumbers c pushes) :
    (streamFrames c.group.masterStream pushes).length ≤ newestNumber c pushes := by
  induction pushes using List.reverseRecOn with
  | nil => exact Nat.zero_le _
  | append_singleton pushes p ih =>
    have hle := ih h.of_concat
    by_cases hp : p.1.ringName = c.group.masterStream
    · have hlt := h.newest_lt hp
      have hlast : (streamFrames c.group.masterStream (pushes ++ [p])).getLast? = some p.1 := by
        rw [streamFrames_concat, if_pos hp]
        exact List.getLast?_concat
      rw [newestNumber_of_getLast? hlast, streamFrames_concat, if_pos hp, List.length_append, List.length_singleton]
      omega
    · rw [newestNumber, streamFrames_concat, if_neg hp]
      exact hle

theorem MasterNumbers.newest_width (h : MasterNumbers c pushes) : newestNumber c pushes < 2 ^ 64 := by
  cases hlast : (streamFrames c.group.masterStream pushes).getLast? with
  | none =>
    rw [newestNumber, hlast]
    exact Nat.two_pow_pos 64
  | some m =>
    rw [newestNumber_of_getLast? hlast]
    exact h.width m (List.mem_of_getLast? hlast)

end Numbers

/-! ## The invariant -/

/-- What the counters of a synchronizer stand for after the run `pushes` with bundles `out`. -/
structure Conserved (c : SynchronizerConfig) (pushes : List Push) (s : FrameSynchronizer)
    (out : List FrameBundleMeta) : Prop where
  buffered : ∀ m, (s.buffers c.group.masterStream).getLast? = some m →
    (streamFrames c.group.masterStream pushes).getLast? = some m
  emitted_le : s.lastEmittedMasterFrameNumber ≤ newestNumber c pushes
  pending : s.pendingMasterFrameNumber = newestNumber c pushes
  numbers_le : ∀ b ∈ out, masterFrameNumber c b ≤ s.lastEmittedMasterFrameNumber
  lastEmitted : s.lastEmittedMasterFrameNumber = 0 ∨
    ∃ b ∈ out, masterFrameNumber c b = s.lastEmittedMasterFrameNumber
  seq : s.bundleSeq = out.length
  count : (streamFrames c.group.masterStream pushes).length = s.bundleSeq + s.droppedMasterCount +
    if s.lastEmittedMasterFrameNumber < newestNumber c pushes then 1 else 0
  incomplete : s.incompleteBundleCount = s.droppedMasterCount + incompleteBundles out

section Steps

variable {c : SynchronizerConfig} {pushes : List Push} {s : FrameSynchronizer} {out : List FrameBundleMeta} {p : Push}

theorem conserved_nil (c : SynchronizerConfig) : Conserved c [] {} [] where
  buffered m h := by cases h
  emitted_le := Nat.le_refl 0
  pending := rfl
  numbers_le b hb := absurd hb List.not_mem_nil
  lastEmitted := .inl rfl
  seq := rfl
  count := rfl
  incomplete := rfl

theorem incompleteBundles_le (out : List FrameBundleMeta) : incompleteBundles out ≤ out.length :=
  List.length_filter_le _ _

theorem bufferFrame_of_ne {key : String} {frame : StreamFrame} (h : frame.ringName ≠ key) :
    s.bufferFrame frame key = s.buffers key := Function.update_of_ne (Ne.symm h) _ _

theorem getLast?_bufferFrame (s : FrameSynchronizer) (frame : StreamFrame) :
    (s.bufferFrame frame frame.ringName).getLast? = some frame := by
  rw [bufferFrame, Function.update_self]
  exact getLast?_trimBuffer _ _

/-- A frame of another stream leaves the master frames as they were. -/
theorem Conserved.buffer_other (h : Conserved c pushes s out) (hp : p.1.ringName ≠ c.group.masterStream) :
    Conserved c (pushes ++ [p]) { s with buffers := s.bufferFrame p.1 } out := by
  have hframes : streamFrames c.group.masterStream (pushes ++ [p]) = streamFrames c.group.masterStream pushes := by
    rw [streamFrames_concat, if_neg hp]
  have hnew : newestNumber c (pushes ++ [p]) = newestNumber c pushes := by rw [newestNumber, hframes, newestNumber]
  constructor
  · intro m hm
    dsimp only at hm
    rw [bufferFrame_of_ne hp] at hm
    rw [hframes]
    exact h.buffered m hm
  · rw [hnew]; exact h.emitted_le
  · rw [hnew]; exact h.pending
  · exact h.numbers_le
  · exact h.lastEmitted
  · exact h.seq
  · rw [hframes, hnew]; exact h.count
  · exact h.incomplete

/-- **The late count.**  A new master frame replaces the one that waits, which is then counted as dropped. -/
theorem Conserved.note_master (h : Conserved c pushes s out) (hnum : MasterNumbers c (pushes ++ [p]))
    (hp : p.1.ringName = c.group.masterStream) (sel : Selection) :
    Conserved c (pushes ++ [p]) (s.noted (s.bufferFrame p.1) p.1 sel) out := by
  have hlast : (streamFrames c.group.masterStream (pushes ++ [p])).getLast? = some p.1 := by
    rw [streamFrames_concat, if_pos hp]
    exact List.getLast?_concat
  have hnew := newestNumber_of_getLast? hlast
  have hlt := hnum.newest_lt hp
  have hlen := hnum.length_le
  have hwidth := hnum.newest_width
  have hgrow : (streamFrames c.group.masterStream (pushes ++ [p])).length =
      (streamFrames c.group.masterStream pushes).length + 1 := by
    rw [streamFrames_concat, if_pos hp, List.length_append, List.length_singleton]
  have hinc := incompleteBundles_le out
  obtain ⟨hbuf, hemit, hpend, hle, hmem, hseq, hcount, hincomplete⟩ := h
  have hfresh : p.1.frameNumber ≠ 0 ∧ p.1.frameNumber ≠ s.pendingMasterFrameNumber := by omega
  have hbuffered : ∀ m, (s.bufferFrame p.1 c.group.masterStream).getLast? = some m →
      (streamFrames c.group.masterStream (pushes ++ [p])).getLast? = some m := by
    intro m hm
    rw [← hp, getLast?_bufferFrame] at hm
    rw [hlast, hm]
  have hemitted : s.lastEmittedMasterFrameNumber < newestNumber c (pushes ++ [p]) := by omega
  by_cases hdrop : s.pendingMasterFrameNumber ≠ 0 ∧ s.lastEmittedMasterFrameNumber < s.pendingMasterFrameNumber
  · -- a master frame was waiting
    rw [if_pos (by omega)] at hcount
    have hnoted : s.noted (s.bufferFrame p.1) p.1 sel =
        { s with
          buffers := s.bufferFrame p.1
          droppedMasterCount := s.droppedMasterCount + 1
          incompleteBundleCount := s.incompleteBundleCount + 1
          pendingMasterFrameNumber := p.1.frameNumber
          lastMaxTimeDiffMs := sel.diffMs } := by
      have h1 : addU64 s.droppedMasterCount 1 = s.droppedMasterCount + 1 := u64_of_lt (by omega)
      have h2 : addU64 s.incompleteBundleCount 1 = s.incompleteBundleCount + 1 := u64_of_lt (by omega)
      rw [noted, notePending, if_pos hfresh, if_pos hdrop, h1, h2]
    rw [hnoted]
    refine ⟨hbuffered, hemitted.le, hnew.symm, hle, hmem, hseq, ?_, ?_⟩
    · show _ = s.bundleSeq + (s.droppedMasterCount + 1) + if s.lastEmittedMasterFrameNumber < _ then 1 else 0
      rw [if_pos hemitted]
      omega
    · show s.incompleteBundleCount + 1 = s.droppedMasterCount + 1 + incompleteBundles out
      omega
  · -- the one before is emitted, or there was none
    rw [if_neg (by omega)] at hcount
    have hnoted : s.noted (s.bufferFrame p.1) p.1 sel =
        { s with
          buffers := s.bufferFrame p.1
          pendingMasterFrameNumber := p.1.frameNumber
          lastMaxTimeDiffMs := sel.diffMs } := by
      rw [noted, notePending, if_pos hfresh, if_neg hdrop]
    rw [hnoted]
    refine ⟨hbuffered, hemitted.le, hnew.symm, hle, hmem, hseq, ?_, hincomplete⟩
    show _ = s.bundleSeq + s.droppedMasterCount + if s.lastEmittedMasterFrameNumber < _ then 1 else 0
    rw [if_pos hemitted]
    omega

/-- The master frame that a call works on, noted. -/
theorem Conserved.note (h : Conserved c pushes s out) (hnum : MasterNumbers c (pushes ++ [p])) {master : StreamFrame}
    (hlast : (s.bufferFrame p.1 c.group.masterStream).getLast? = some master) (sel : Selection) :
    Conserved c (pushes ++ [p]) (s.noted (s.bufferFrame p.1) master sel) out ∧
      (streamFrames c.group.masterStream (pushes ++ [p])).getLast? = some master := by
  by_cases hp : p.1.ringName = c.group.masterStream
  · have hmaster : master = p.1 := by
      rw [← hp, getLast?_bufferFrame] at hlast
      exact (Option.some.inj hlast).symm
    subst hmaster
    have hnoted := h.note_master hnum hp sel
    exact ⟨hnoted, hnoted.buffered p.1 hlast⟩
  · -- it is the one noted before
    have hother := h.buffer_other hp
    have hnewest := hother.buffered master hlast
    have hpending : master.frameNumber = s.pendingMasterFrameNumber := by
      rw [← newestNumber_of_getLast? hnewest]
      exact hother.pending.symm
    have hnoted : s.noted (s.bufferFrame p.1) master sel =
        { s with buffers := s.bufferFrame p.1, lastMaxTimeDiffMs := sel.diffMs } := by
      rw [noted, notePending, if_neg (by rintro ⟨-, hne⟩; exact hne hpending)]
    rw [hnoted]
    refine ⟨?_, hnewest⟩
    exact ⟨hother.buffered, hother.emitted_le, hother.pending, hother.numbers_le, hother.lastEmitted,
      hother.seq, hother.count, hother.incomplete⟩

/-- An emission moves the latest master frame from the waiting to the emitted ones. -/
theorem Conserved.emit (h : Conserved c pushes s out) (hnum : MasterNumbers c pushes) {master : StreamFrame}
    (hlast : (streamFrames c.group.masterStream pushes).getLast? = some master)
    (hopen : s.lastEmittedMasterFrameNumber < master.frameNumber) {sel : Selection}
    (hmaster : sel.selected master.ringName = some master) {buffers : String → List StreamFrame}
    (hbuf : buffers c.group.masterStream <:+ s.buffers c.group.masterStream) (drops : List (String × ℕ)) :
    Conserved c pushes { s.emitted c sel master with buffers := buffers } (out ++ [s.bundleOf c sel master drops]) := by
  have hnew := newestNumber_of_getLast? hlast
  have hring := mem_streamFrames (List.mem_of_getLast? hlast)
  have hlen := hnum.length_le
  have hwidth := hnum.newest_width
  have hinc := incompleteBundles_le out
  have h0 : master.frameNumber ≠ 0 := by omega
  have hnumber : masterFrameNumber c (s.bundleOf c sel master drops) = master.frameNumber := by
    have hframe : (s.bundleOf c sel master drops).frames c.group.masterStream = some master := by
      rw [← hring]
      exact hmaster
    rw [masterFrameNumber, hframe]
    rfl
  obtain ⟨hbuffered, hemit, hpend, hle, -, hseq, hcount, hincomplete⟩ := h
  rw [hnew, if_pos hopen] at hcount
  have hseq1 : addU64 s.bundleSeq 1 = s.bundleSeq + 1 := u64_of_lt (by omega)
  have hinc1 : addU64 s.incompleteBundleCount 1 = s.incompleteBundleCount + 1 := u64_of_lt (by omega)
  have hlastEmitted : (s.emitted c sel master).lastEmittedMasterFrameNumber = master.frameNumber := if_pos h0
  constructor
  · intro m hm
    rcases getLast?_of_suffix hbuf with hnone | hsame
    · dsimp only at hm
      rw [hnone] at hm
      cases hm
    · exact hbuffered m (hsame.symm.trans hm)
  · dsimp only
    rw [hlastEmitted, hnew]
  · exact hpend
  · intro b hb
    dsimp only
    rw [hlastEmitted]
    rcases List.mem_append.mp hb with hb | hb
    · exact (hle b hb).trans hopen.le
    · rw [List.mem_singleton.mp hb, hnumber]
  · right
    exact ⟨s.bundleOf c sel master drops, by simp, hnumber.trans hlastEmitted.symm⟩
  · show addU64 s.bundleSeq 1 = _
    rw [hseq1, List.length_append, List.length_singleton, hseq]
  · show _ = addU64 s.bundleSeq 1 + s.droppedMasterCount +
      if (s.emitted c sel master).lastEmittedMasterFrameNumber < newestNumber c pushes then 1 else 0
    rw [hlastEmitted, hnew, if_neg (lt_irrefl _), hseq1]
    omega
  · show (if sel.isComplete c then s.incompleteBundleCount else addU64 s.incompleteBundleCount 1) =
      s.droppedMasterCount + incompleteBundles (out ++ [s.bundleOf c sel master drops])
    have hcomplete : (s.bundleOf c sel master drops).complete = sel.isComplete c := rfl
    rw [incompleteBundles, List.filter_append, List.length_append, List.filter_singleton, hcomplete]
    by_cases hc : sel.isComplete c = true
    · simp only [hc, if_true, Bool.not_true, cond_false, List.length_nil]
      exact hincomplete
    · rw [Bool.not_eq_true] at hc
      simp only [hc, if_false, Bool.false_eq_true, Bool.not_false, cond_true, List.length_singleton, hinc1]
      rw [incompleteBundles] at hincomplete
      omega

/-- **One call** conserves the master frames. -/
theorem Conserved.push (hreq : c.group.masterStream ∈ c.group.requiredStreams) (h : Conserved c pushes s out)
    (hnum : MasterNumbers c (pushes ++ [p])) :
    Conserved c (pushes ++ [p]) (s.pushFrame c p.1 p.2).1 (out ++ (s.pushFrame c p.1 p.2).2.toList) := by
  have hresult := pushOn_result c s p.1 p.2 (s.bufferFrame p.1)
    fun complete master => pruneBuffers c complete master (s.bufferFrame p.1)
  rw [← pushFrame_eq] at hresult
  generalize s.pushFrame c p.1 p.2 = r at hresult ⊢
  cases hresult with
  | ignored hignored =>
    have hp : p.1.ringName ≠ c.group.masterStream := by
      intro he
      exact hignored (by rw [he]; exact hreq)
    have hother := h.buffer_other hp
    have hframes : streamFrames c.group.masterStream (pushes ++ [p]) = streamFrames c.group.masterStream pushes := by
      rw [streamFrames_concat, if_neg hp]
    rw [Option.toList_none, List.append_nil]
    exact ⟨fun m hm => by rw [hframes]; exact h.buffered m hm, hother.emitted_le, hother.pending, h.numbers_le,
      h.lastEmitted, h.seq, hother.count, h.incomplete⟩
  | waiting _ hnone =>
    rw [Option.toList_none, List.append_nil]
    by_cases hp : p.1.ringName = c.group.masterStream
    · rw [← hp, getLast?_bufferFrame] at hnone
      cases hnone
    · exact h.buffer_other hp
  | closed master _ hlast hclosed =>
    rw [Option.toList_none, List.append_nil]
    by_cases hp : p.1.ringName = c.group.masterStream
    · -- a new master frame has a greater number than every emitted one
      rw [← hp, getLast?_bufferFrame] at hlast
      obtain rfl := Option.some.inj hlast
      have hlt := hnum.newest_lt hp
      have hle := h.emitted_le
      rw [Open, not_not] at hclosed
      omega
    · exact h.buffer_other hp
  | retry master _ hlast hopen _ _ =>
    obtain ⟨hnoted, -⟩ := h.note hnum hlast (select c (s.bufferFrame p.1) master)
    rw [Option.toList_none, List.append_nil]
    exact ⟨hnoted.buffered, hnoted.emitted_le, hnoted.pending, hnoted.numbers_le, hnoted.lastEmitted,
      hnoted.seq, hnoted.count, hnoted.incomplete⟩
  | emit master _ hlast hopen _ =>
    obtain ⟨hnoted, hnewest⟩ := h.note hnum hlast (select c (s.bufferFrame p.1) master)
    have h0 := hnum.nonzero master (List.mem_of_getLast? hnewest)
    rw [Option.toList_some]
    refine hnoted.emit hnum hnewest ?_ (select_selected c _ master).master ?_ p.2
    · show (({ s with buffers := s.bufferFrame p.1 } : FrameSynchronizer).notePending
      master).lastEmittedMasterFrameNumber
        < master.frameNumber
      rw [notePending_lastEmitted]
      rw [Open] at hopen
      dsimp only
      omega
    · exact pruneBuffers_suffix _ master _ _

end Steps

/-! ## Whole runs -/

section Runs

variable {c : SynchronizerConfig} {pushes : List Push}

theorem runPushes_conserved (hreq : c.group.masterStream ∈ c.group.requiredStreams) (hnum : MasterNumbers c pushes) :
    Conserved c pushes (runPushes (pushFrame c) pushes).1 (runPushes (pushFrame c) pushes).2 := by
  induction pushes using List.reverseRecOn with
  | nil => exact conserved_nil c
  | append_singleton pushes p ih =>
    rw [runPushes_concat]
    exact (ih hnum.of_concat).push hreq hnum

/-- The latest master frame waits exactly while its number is not the last emitted one. -/
theorem Conserved.waiting {s : FrameSynchronizer} {out : List FrameBundleMeta} (h : Conserved c pushes s out)
    (hnum : MasterNumbers c pushes) :
    waitingMasters c pushes out = if s.lastEmittedMasterFrameNumber < newestNumber c pushes then 1 else 0 := by
  unfold waitingMasters
  cases hlast : (streamFrames c.group.masterStream pushes).getLast? with
  | none =>
    have hnew : newestNumber c pushes = 0 := by rw [newestNumber, hlast]; rfl
    simp [hnew]
  | some m =>
    have hnew := newestNumber_of_getLast? hlast
    have h0 := hnum.nonzero m (List.mem_of_getLast? hlast)
    dsimp only
    by_cases hlt : s.lastEmittedMasterFrameNumber < newestNumber c pushes
    · rw [if_pos hlt, if_neg]
      rintro ⟨b, hb, heq⟩
      have hle := h.numbers_le b hb
      omega
    · have hle := h.emitted_le
      rw [if_neg hlt, if_pos]
      rcases h.lastEmitted with hzero | ⟨b, hb, heq⟩
      · omega
      · exact ⟨b, hb, by omega⟩

/-- **Conservation.**  For every group that `validate_config` lets pass, in either mode, and every run
whose master frames have increasing nonzero numbers. -/
theorem master_conserved {available : List String} {groups : List BundleGroupConfig}
    (hvalid : validateBundleGroups available [] [] groups = .ok ()) (hgroup : c.group ∈ groups)
    (hnum : MasterNumbers c pushes) :
    let s := (runPushes (pushFrame c) pushes).1
    let out := (runPushes (pushFrame c) pushes).2
    (streamFrames c.group.masterStream pushes).length =
        s.bundleSeq + s.droppedMasterCount + waitingMasters c pushes out ∧
      s.incompleteBundleCount = s.droppedMasterCount + incompleteBundles out := by
  have h := runPushes_conserved (validateBundleGroups_master hvalid hgroup) hnum
  dsimp only
  rw [h.waiting hnum]
  exact ⟨h.count, h.incomplete⟩

/-- Head frames 1 and 2 arrive before the wrist camera does; the first is dropped. -/
def twoHeads : List Push :=
  [(sampleFrame "head.color" 1 0, []), (sampleFrame "head.color" 2 33, []), (sampleFrame "wrist.color" 1 35, [])]

theorem master_conserved_twoHeads :
    2 = (runPushes (pushFrame (pairConfig .software (.fin 10))) twoHeads).1.bundleSeq +
      (runPushes (pushFrame (pairConfig .software (.fin 10))) twoHeads).1.droppedMasterCount := by
  have hvalid : validateBundleGroups ["head.color", "wrist.color"] [] [] [pairGroup (.fin 10)] = .ok () := by
    decide +kernel
  have hgroup : (pairConfig .software (.fin 10)).group ∈ [pairGroup (.fin 10)] := by simp [pairConfig]
  have hframes : streamFrames (pairConfig .software (.fin 10)).group.masterStream twoHeads =
      [sampleFrame "head.color" 1 0, sampleFrame "head.color" 2 33] := by rfl
  have hnum : MasterNumbers (pairConfig .software (.fin 10)) twoHeads := by
    constructor
    · rw [hframes]
      simp [sampleFrame]
    · rw [hframes]
      simp [sampleFrame]
    · rw [hframes]
      simp [sampleFrame]
  have hcount := (master_conserved hvalid hgroup hnum).1
  rw [hframes] at hcount
  have hwait : waitingMasters (pairConfig .software (.fin 10)) twoHeads
      (runPushes (pushFrame (pairConfig .software (.fin 10))) twoHeads).2 = 0 := by decide +kernel
  rw [hwait] at hcount
  exact hcount

end Runs

end FrameSynchronizer

end CameraServer
