import RoboticsLab.Camera.BundleChoice
import RoboticsLab.Lib.Runs

/-!
# Pruning and trimming the buffers

In software mode the buffers are cut in two ways: a bundle prunes what is further than the limit behind
its master frame, and a buffer keeps its 64 newest frames.  `Tracks` compares the state with that of the
same algorithm with buffers that only grow: a frame that is gone is either pruned, and too old for every
later master frame, or older than the frame its stream gave to the last bundle, and then that frame is
nearer to every later master frame.

    software mode → no incomplete bundles → times in order → room since the last chosen frame →
      a frame beyond the pruning limit is over the time limit →
      bundles = bundles of the unbounded algorithm, and their times do not decrease    (pruning_invisible)

Room for the frames since the last bundle is not enough: a frame that came before it can be the nearest one
to the next master frame (`trimming_visible`).  The two limits agree at a whole number of ms, but not at 4.1
(`pruning_visible`), where the product with 1e6 rounds down and the quotient by it does not.
-/

namespace CameraServer

namespace FrameSynchronizer

/-! ## The statement -/

/-- In every stream the host times do not decrease. -/
def HostOrdered (pushes : List Push) : Prop :=
  (pushes.map Prod.fst).Pairwise fun f g => f.ringName = g.ringName → f.hostArrivalTimeNs ≤ g.hostArrivalTimeNs

/-- The frame a stream gave to the last bundle of a run. -/
def lastChosen (c : SynchronizerConfig) (pushes : List Push) (key : String) : Option StreamFrame :=
  (runPushes (pushFrame c) pushes).2.getLast?.bind fun b => b.frames key

/-- The frames of the stream of `p` from the one it gave to the last bundle on, `p` included. -/
def sinceChosen (c : SynchronizerConfig) (pushes : List Push) (p : Push) : List StreamFrame :=
  (streamFrames p.1.ringName (pushes ++ [p])).filter fun f =>
    (lastChosen c pushes p.1.ringName).all fun g => g.hostArrivalTimeNs ≤ f.hostArrivalTimeNs

/-- The buffer has room for them. -/
def Room (c : SynchronizerConfig) (pushes : List Push) (p : Push) : Prop :=
  (sinceChosen c pushes p).length ≤ maxBufferedFrames

/-- `b'` is not before `b`: in the frame of any stream, and in its own time. -/
structure NotBefore (b b' : FrameBundleMeta) : Prop where
  frames : ∀ key f, b.frames key = some f → ∃ f', b'.frames key = some f' ∧ f.hostArrivalTimeNs ≤ f'.hostArrivalTimeNs
  time : b.bundleTimeNs ≤ b'.bundleTimeNs

theorem NotBefore.trans {b b' b'' : FrameBundleMeta} (h : NotBefore b b') (h' : NotBefore b' b'') :
    NotBefore b b'' := by
  refine ⟨fun key f hf => ?_, h.time.trans h'.time⟩
  obtain ⟨f', hf', hle⟩ := h.frames key f hf
  obtain ⟨f'', hf'', hle'⟩ := h'.frames key f' hf'
  exact ⟨f'', hf'', hle.trans hle'⟩

/-! ## The comparison -/

/-- What holds of the last bundle `b`: its master frame `m`, and of each stream a chosen frame that is still
buffered and nearer to `m` than every earlier frame. -/
structure Anchor (c : SynchronizerConfig) (kept whole : String → List StreamFrame) (b : FrameBundleMeta)
    (m : StreamFrame) : Prop where
  master : b.frames c.group.masterStream = some m
  required : c.group.masterStream ∈ c.group.requiredStreams
  keys : ∀ key f, b.frames key = some f → key ∈ c.group.requiredStreams
  chosen : ∀ key ∈ c.group.requiredStreams, ∃ g, b.frames key = some g ∧ g ∈ kept key ∧
    ∀ f ∈ whole key, f.hostArrivalTimeNs < g.hostArrivalTimeNs →
      timeDiff g.hostArrivalTimeNs m.hostArrivalTimeNs < timeDiff f.hostArrivalTimeNs m.hostArrivalTimeNs
  midway : ∃ lo hi, Midway c b lo hi

/-- The buffers of a run and those that only grew; what a buffer lost is dead since the last bundle. -/
structure Tracks (c : SynchronizerConfig) (pushes : List Push) (last : Option FrameBundleMeta)
    (kept whole : String → List StreamFrame) : Prop where
  history : ∀ key, whole key = if key ∈ c.group.requiredStreams then streamFrames key pushes else []
  lost : ∀ key, ∃ lost, whole key = lost ++ kept key ∧
    ∀ f ∈ lost, ∃ b ∈ last, ∃ m g, b.frames c.group.masterStream = some m ∧ b.frames key = some g ∧
      Dead (limitNs c) m g f
  anchor : ∀ b ∈ last, ∃ m, Anchor c kept whole b m

section Comparison

variable {c : SynchronizerConfig} {pushes : List Push} {p : Push} {last : Option FrameBundleMeta}
  {kept whole : String → List StreamFrame} {s u : FrameSynchronizer}

theorem HostOrdered.of_concat (h : HostOrdered (pushes ++ [p])) : HostOrdered pushes := by
  rw [HostOrdered, List.map_append, List.pairwise_append] at h
  exact h.1

theorem HostOrdered.stream (h : HostOrdered pushes) (key : String) :
    (streamFrames key pushes).Pairwise fun f g => f.hostArrivalTimeNs ≤ g.hostArrivalTimeNs := by
  refine (h.filter _).imp_of_mem ?_
  intro f g hf hg hle
  exact hle ((mem_streamFrames hf).trans (mem_streamFrames hg).symm)

theorem Tracks.ordered (h : Tracks c pushes last kept whole) (ho : HostOrdered pushes) (key : String) :
    (whole key).Pairwise fun f g => f.hostArrivalTimeNs ≤ g.hostArrivalTimeNs := by
  rw [h.history]
  split
  · exact ho.stream key
  · exact List.Pairwise.nil

theorem Tracks.ringName (h : Tracks c pushes last kept whole) {key : String} {f : StreamFrame}
    (hf : f ∈ whole key) : f.ringName = key ∧ key ∈ c.group.requiredStreams := by
  rw [h.history] at hf
  split at hf
  · next hreq => exact ⟨mem_streamFrames hf, hreq⟩
  · exact absurd hf List.not_mem_nil

theorem Tracks.kept_suffix (h : Tracks c pushes last kept whole) (key : String) : kept key <:+ whole key := by
  obtain ⟨lost, heq, -⟩ := h.lost key
  exact ⟨lost, heq.symm⟩

theorem tracks_nil (c : SynchronizerConfig) : Tracks c [] none (fun _ => []) fun _ => [] where
  history key := by split <;> rfl
  lost key := ⟨[], rfl, fun f hf => absurd hf List.not_mem_nil⟩
  anchor b hb := by cases hb

/-- The two algorithms look at the same master frame. -/
theorem Tracks.getLast?_eq (h : Tracks c pushes last kept whole) :
    (kept c.group.masterStream).getLast? = (whole c.group.masterStream).getLast? := by
  rcases getLast?_of_suffix (h.kept_suffix c.group.masterStream) with hnone | hsame
  · obtain ⟨lost, heq, hdead⟩ := h.lost c.group.masterStream
    have hnil : kept c.group.masterStream = [] := List.getLast?_eq_none_iff.mp hnone
    cases lost with
    | nil => rw [heq, List.nil_append]
    | cons f lost =>
      -- a lost frame was lost after a bundle, whose master frame is still buffered
      obtain ⟨b, hb, -⟩ := hdead f List.mem_cons_self
      obtain ⟨m, hm⟩ := h.anchor b hb
      obtain ⟨g, -, hg, -⟩ := hm.chosen _ hm.required
      rw [hnil] at hg
      exact absurd hg List.not_mem_nil
  · exact hsame

/-- A frame that no group needs changes nothing. -/
theorem Tracks.ignore (h : Tracks c pushes last kept whole) (hreq : p.1.ringName ∉ c.group.requiredStreams) :
    Tracks c (pushes ++ [p]) last kept whole := by
  refine ⟨fun key => ?_, h.lost, h.anchor⟩
  rw [h.history]
  by_cases hkey : key ∈ c.group.requiredStreams
  · have hne : p.1.ringName ≠ key := by
      intro he
      exact hreq (by rw [he]; exact hkey)
    rw [if_pos hkey, if_pos hkey, streamFrames_concat, if_neg hne]
  · rw [if_neg hkey, if_neg hkey]

/-- **A new frame.**  What the trimming drops is older than the frame of the last bundle. -/
theorem Tracks.buffer (h : Tracks c pushes last s.buffers u.buffers) (ho : HostOrdered (pushes ++ [p]))
    (hreq : p.1.ringName ∈ c.group.requiredStreams) (hlast : (runPushes (pushFrame c) pushes).2.getLast? = last)
    (hroom : Room c pushes p) :
    Tracks c (pushes ++ [p]) last (s.bufferFrame p.1) (u.growBuffer p.1) := by
  have hgrow : u.growBuffer p.1 p.1.ringName = streamFrames p.1.ringName (pushes ++ [p]) := by
    rw [growBuffer, Function.update_self, h.history, if_pos hreq, streamFrames_concat, if_pos rfl]
  have hother : ∀ {key}, key ≠ p.1.ringName → u.growBuffer p.1 key = u.buffers key ∧
      s.bufferFrame p.1 key = s.buffers key := fun hkey =>
    ⟨Function.update_of_ne hkey _ _, Function.update_of_ne hkey _ _⟩
  have hsorted := ho.stream p.1.ringName
  obtain ⟨lost, heq, hdead⟩ := h.lost p.1.ringName
  have hsplit : streamFrames p.1.ringName (pushes ++ [p]) = lost ++ (s.buffers p.1.ringName ++ [p.1]) := by
    rw [← hgrow, growBuffer, Function.update_self, heq, List.append_assoc]
  -- the newest frame is not earlier than any frame of its stream
  have hnewest : ∀ f ∈ u.buffers p.1.ringName, f.hostArrivalTimeNs ≤ p.1.hostArrivalTimeNs := by
    intro f hf
    rw [hsplit, ← List.append_assoc, ← heq] at hsorted
    exact (List.pairwise_append.mp hsorted).2.2 f hf p.1 (by simp)
  -- what the trimming drops
  have hcut : ∀ f ∈ (s.buffers p.1.ringName ++ [p.1]).take
    ((s.buffers p.1.ringName ++ [p.1]).length - maxBufferedFrames),
      ∃ b ∈ last, ∃ m g, b.frames c.group.masterStream = some m ∧ b.frames p.1.ringName = some g ∧
        f.hostArrivalTimeNs < g.hostArrivalTimeNs := by
    intro f hf
    have hsuffix : (s.buffers p.1.ringName ++ [p.1]).Sublist (streamFrames p.1.ringName (pushes ++ [p])) := by
      rw [hsplit]
      exact List.sublist_append_right _ _
    cases hl : last with
    | none =>
      -- nothing is lost before the first bundle
      rw [Room, sinceChosen, lastChosen, hlast, hl] at hroom
      have hall : (streamFrames p.1.ringName (pushes ++ [p])).length ≤ maxBufferedFrames := by
        simpa using hroom
      have hle := hsuffix.length_le
      rw [show (s.buffers p.1.ringName ++ [p.1]).length - maxBufferedFrames = 0 by omega, List.take_zero] at hf
      exact absurd hf List.not_mem_nil
    | some b =>
      obtain ⟨m, hm⟩ := h.anchor b (by rw [hl]; rfl)
      obtain ⟨g, hg, -, -⟩ := hm.chosen _ hreq
      refine ⟨b, rfl, m, g, hm.master, hg, ?_⟩
      apply lt_of_mem_take (hsorted.sublist hsuffix) _ hf
      rw [Room, sinceChosen, lastChosen, hlast, hl] at hroom
      simp only [Option.bind_some, hg, Option.all_some] at hroom
      exact (hsuffix.filter _).length_le.trans hroom
  constructor
  · intro key
    by_cases hkey : key = p.1.ringName
    · rw [hkey, hgrow, if_pos hreq]
    · rw [(hother hkey).1, h.history, streamFrames_concat, if_neg (Ne.symm hkey)]
  · intro key
    by_cases hkey : key = p.1.ringName
    · subst hkey
      refine ⟨lost ++ (s.buffers p.1.ringName ++ [p.1]).take
        ((s.buffers p.1.ringName ++ [p.1]).length - maxBufferedFrames), ?_, fun f hf => ?_⟩
      · rw [hgrow, hsplit, bufferFrame, Function.update_self, trimBuffer, List.append_assoc, List.take_append_drop]
      · rcases List.mem_append.mp hf with hf | hf
        · exact hdead f hf
        · obtain ⟨b, hb, m, g, hm, hg, hlt⟩ := hcut f hf
          exact ⟨b, hb, m, g, hm, hg, .inr hlt⟩
    · obtain ⟨hu, hs⟩ := hother hkey
      rw [hu, hs]
      exact h.lost key
  · intro b hb
    obtain ⟨m, hm⟩ := h.anchor b hb
    refine ⟨m, hm.master, hm.required, hm.keys, fun key hkey => ?_, hm.midway⟩
    obtain ⟨g, hg, hbuf, hnear⟩ := hm.chosen key hkey
    by_cases hk : key = p.1.ringName
    · subst hk
      refine ⟨g, hg, ?_, fun f hf hlt => ?_⟩
      · -- the chosen frame is not dropped: it is not earlier than itself
        rw [bufferFrame, Function.update_self, trimBuffer]
        have hmem : g ∈ s.buffers p.1.ringName ++ [p.1] := List.mem_append_left _ hbuf
        rw [← List.take_append_drop ((s.buffers p.1.ringName ++ [p.1]).length - maxBufferedFrames)
          (s.buffers p.1.ringName ++ [p.1])] at hmem
        rcases List.mem_append.mp hmem with htake | hdrop
        · obtain ⟨b', hb', m', g', -, hg', hlt⟩ := hcut g htake
          obtain rfl : b = b' := Option.some.inj ((Option.mem_def.mp hb).symm.trans hb')
          obtain rfl : g = g' := Option.some.inj (hg.symm.trans hg')
          exact absurd hlt (lt_irrefl _)
        · exact hdrop
      · rw [growBuffer, Function.update_self] at hf
        rcases List.mem_append.mp hf with hf | hf
        · exact hnear f hf hlt
        · obtain rfl := List.mem_singleton.mp hf
          have hle := hnewest g ((h.kept_suffix _).subset hbuf)
          omega
    · obtain ⟨hu, hs⟩ := hother hk
      rw [hu, hs]
      exact ⟨g, hg, hbuf, hnear⟩

/-! ## One call -/

theorem candidate_software (hmode : c.sync.mode = .software) (buffers : String → List StreamFrame)
    (master : StreamFrame) (key : String) :
    candidate c buffers master key =
      if key = master.ringName then some master
      else nearestByTimestamp (buffers key) master.hostArrivalTimeNs := by
  rw [candidate, hmode]

/-- No master frame is later than the newest. -/
theorem Tracks.le_newest (h : Tracks c pushes last kept whole) (ho : HostOrdered pushes) {master f : StreamFrame}
    {key : String} (hlast : (whole key).getLast? = some master) (hf : f ∈ whole key) :
    f.hostArrivalTimeNs ≤ master.hostArrivalTimeNs := by
  have hsorted := h.ordered ho key
  obtain ⟨init, hinit⟩ := List.getLast?_eq_some_iff.mp hlast
  rw [hinit] at hsorted hf
  rcases List.mem_append.mp hf with hf | hf
  · exact (List.pairwise_append.mp hsorted).2.2 f hf master (by simp)
  · rw [List.mem_singleton.mp hf]

/-- The master frame of the last bundle is still buffered. -/
theorem Anchor.master_mem {b : FrameBundleMeta} {m : StreamFrame} (h : Anchor c kept whole b m) :
    m ∈ kept c.group.masterStream := by
  obtain ⟨g, hg, hmem, -⟩ := h.chosen _ h.required
  obtain rfl : m = g := Option.some.inj (h.master.symm.trans hg)
  exact hmem

/-- **The two algorithms choose alike**, or neither has a complete selection. -/
theorem Tracks.agree (h : Tracks c pushes last kept whole) (ho : HostOrdered pushes)
    (hmode : c.sync.mode = .software) (hcut : CutsBeyondLimit c) {master : StreamFrame}
    (hlast : (whole c.group.masterStream).getLast? = some master) :
    select c kept master = select c whole master ∨
      ((select c kept master).isComplete c = false ∧ (select c whole master).isComplete c = false) := by
  obtain ⟨hring, hreq⟩ := h.ringName (List.mem_of_getLast? hlast)
  by_cases hall : ∀ key ∈ c.group.requiredStreams, candidate c kept master key = candidate c whole master key
  · exact .inl (select_congr hall)
  · right
    push Not at hall
    obtain ⟨key, hkey, hne⟩ := hall
    rw [candidate_software hmode, candidate_software hmode] at hne
    have hnotMaster : key ≠ master.ringName := by
      intro he
      rw [if_pos he, if_pos he] at hne
      exact hne rfl
    rw [if_neg hnotMaster, if_neg hnotMaster] at hne
    obtain ⟨lost, heq, hdead⟩ := h.lost key
    have hlost : lost ≠ [] := by
      rintro rfl
      rw [heq, List.nil_append] at hne
      exact hne rfl
    obtain ⟨x, hx⟩ := List.exists_mem_of_ne_nil lost hlost
    obtain ⟨b, hb, m, g, hm, hg, -⟩ := hdead x hx
    obtain ⟨m', hanchor⟩ := h.anchor b hb
    obtain rfl : m = m' := Option.some.inj (hm.symm.trans hanchor.master)
    obtain ⟨g', hg', hmem, hnear⟩ := hanchor.chosen key hkey
    obtain rfl : g = g' := Option.some.inj (hg.symm.trans hg')
    have hdead' : ∀ f ∈ lost, Dead (limitNs c) m g f := by
      intro f hf
      obtain ⟨b', hb', m', g', hm', hg', hd⟩ := hdead f hf
      obtain rfl : b = b' := Option.some.inj ((Option.mem_def.mp hb).symm.trans hb')
      obtain rfl : m = m' := Option.some.inj (hm.symm.trans hm')
      obtain rfl : g = g' := Option.some.inj (hg.symm.trans hg')
      exact hd
    have hlater := h.le_newest ho hlast ((h.kept_suffix _).subset hanchor.master_mem)
    have hfar : ∀ {buffers : String → List StreamFrame},
        Far (limitNs c) master.hostArrivalTimeNs (nearestByTimestamp (buffers key) master.hostArrivalTimeNs) →
          (select c buffers master).isComplete c = false := by
      intro buffers hf
      by_contra hcomplete
      rw [Bool.not_eq_false] at hcomplete
      obtain ⟨f, hcand, -, hle⟩ := candidate_of_complete hcut (by rw [hring]; exact hreq) hcomplete hkey
      rw [candidate_software hmode, if_neg hnotMaster] at hcand
      exact absurd hle (not_le.mpr (hf f hcand))
    rcases nearest_agrees heq hmem hnear hdead' hlater with hsame | ⟨hfk, hfw⟩
    · exact absurd hsame hne
    · exact ⟨hfar hfk, hfar hfw⟩

/-- What a complete selection takes from a stream: a buffered frame within the limit, nearer to the master's
time than every earlier frame. -/
theorem Tracks.selected (h : Tracks c pushes last kept whole) (ho : HostOrdered pushes)
    (hmode : c.sync.mode = .software) (hcut : CutsBeyondLimit c) {master : StreamFrame}
    (hlast : (whole c.group.masterStream).getLast? = some master)
    (hsame : select c kept master = select c whole master) (hc : (select c kept master).isComplete c = true)
    ⦃key : String⦄ (hkey : key ∈ c.group.requiredStreams) :
    ∃ f, (select c kept master).selected key = some f ∧ f ∈ kept key ∧
      timeDiff f.hostArrivalTimeNs master.hostArrivalTimeNs ≤ limitNs c ∧
      (∀ x ∈ whole key, x.hostArrivalTimeNs < f.hostArrivalTimeNs →
        timeDiff f.hostArrivalTimeNs master.hostArrivalTimeNs < timeDiff x.hostArrivalTimeNs master.hostArrivalTimeNs) ∧
      ∀ x ∈ whole key, timeDiff f.hostArrivalTimeNs master.hostArrivalTimeNs ≤
        timeDiff x.hostArrivalTimeNs master.hostArrivalTimeNs := by
  obtain ⟨hring, hreq⟩ := h.ringName (List.mem_of_getLast? hlast)
  have hmaster : master.ringName ∈ c.group.requiredStreams := by rw [hring]; exact hreq
  have hkeptLast : master ∈ kept master.ringName := by
    rw [hring]
    exact List.mem_of_getLast? (h.getLast?_eq.trans hlast)
  obtain ⟨f, hcand, hf, hle⟩ := candidate_of_complete hcut hmaster hc hkey
  rw [hsame] at hc
  obtain ⟨f', hcand', hf', -⟩ := candidate_of_complete hcut hmaster hc hkey
  obtain rfl : f = f' := Option.some.inj (hf.symm.trans (hsame ▸ hf'))
  refine ⟨f, hf, candidate_mem hkeptLast hcand, hle, ?_⟩
  rw [candidate_software hmode] at hcand'
  split at hcand'
  · next he =>
    obtain rfl := Option.some.inj hcand'
    have hzero : timeDiff master.hostArrivalTimeNs master.hostArrivalTimeNs = 0 := by simp [timeDiff]
    rw [hzero]
    refine ⟨fun x _ hlt => ?_, fun x _ => Nat.zero_le _⟩
    rw [timeDiff_of_le hlt.le]
    omega
  · obtain ⟨pre, post, hsplit, hpre, -⟩ := nearest_split hcand'
    refine ⟨fun x hx hlt => ?_, (nearestByTimestamp_spec _ _ hcand').2⟩
    have hsorted := h.ordered ho key
    rw [hsplit] at hx hsorted
    rcases List.mem_append.mp hx with hx | hx
    · exact hpre x hx
    · rcases List.mem_cons.mp hx with rfl | hx
      · exact absurd hlt (lt_irrefl _)
      · have hge := (List.pairwise_cons.mp (List.pairwise_append.mp hsorted).2.1).1 x hx
        omega

/-- **An emission** starts the comparison afresh, and is not before the last one. -/
theorem Tracks.emit (h : Tracks c pushes last kept whole) (ho : HostOrdered pushes)
    (hmode : c.sync.mode = .software) (hcut : CutsBeyondLimit c)
    {master : StreamFrame} (hlast : (whole c.group.masterStream).getLast? = some master)
    (hsame : select c kept master = select c whole master) (hc : (select c kept master).isComplete c = true)
    (drops : List (String × ℕ)) (complete : Bool) :
    let b := s.bundleOf c (select c kept master) master drops
    Tracks c pushes (some b) (pruneBuffers c complete master kept) whole ∧ ∀ b' ∈ last, NotBefore b' b := by
  dsimp only
  obtain ⟨hring, hreq⟩ := h.ringName (List.mem_of_getLast? hlast)
  have hmaster : master.ringName ∈ c.group.requiredStreams := by rw [hring]; exact hreq
  have hselected := h.selected ho hmode hcut hlast hsame hc
  have hbmaster : (s.bundleOf c (select c kept master) master drops).frames c.group.masterStream = some master := by
    rw [← hring]
    exact (select_selected c kept master).master
  have hkeys : ∀ key f, (s.bundleOf c (select c kept master) master drops).frames key = some f →
      key ∈ c.group.requiredStreams := by
    intro key f hf
    rcases (select_selected c kept master).origin key f hf with ⟨rfl, -⟩ | ⟨hkey, -⟩
    · exact hmaster
    · exact hkey
  -- the frames chosen now are not before those of the last bundle
  have hnot : ∀ b' ∈ last, ∀ key g f, b'.frames key = some g →
      (select c kept master).selected key = some f → g.hostArrivalTimeNs ≤ f.hostArrivalTimeNs := by
    intro b' hb' key g f hg hf
    obtain ⟨m, hm⟩ := h.anchor b' hb'
    have hkey := hm.keys key g hg
    obtain ⟨g', hg', hmem, hnear⟩ := hm.chosen key hkey
    obtain rfl : g = g' := Option.some.inj (hg.symm.trans hg')
    obtain ⟨f', hf', hfmem, -, -, hmin⟩ := hselected hkey
    obtain rfl : f = f' := Option.some.inj (hf.symm.trans hf')
    by_contra hlt
    rw [not_le] at hlt
    have hstrict := hnear f ((h.kept_suffix key).subset hfmem) hlt
    have hlater := h.le_newest ho hlast ((h.kept_suffix _).subset hm.master_mem)
    have hmin' := hmin g ((h.kept_suffix key).subset hmem)
    -- `g` is later than `f` and nearer to `m`, so it is nearer to every later master time
    have hback : timeDiff g.hostArrivalTimeNs master.hostArrivalTimeNs <
        timeDiff f.hostArrivalTimeNs master.hostArrivalTimeNs := timeDiff_lt_of_later hlt hstrict hlater
    omega
  refine ⟨⟨h.history, fun key => ?_, ?_⟩, fun b' hb' => ?_⟩
  · obtain ⟨lost, heq, hdead⟩ := h.lost key
    by_cases hkey : key ∈ c.group.requiredStreams
    · obtain ⟨f, hf, -, -, -⟩ := hselected hkey
      rw [pruneBuffers_software hmode complete master kept hkey]
      refine ⟨lost ++ (kept key).takeWhile fun f => f.hostArrivalTimeNs < horizonNs c master, ?_, fun x hx => ?_⟩
      · rw [List.append_assoc, List.takeWhile_append_dropWhile, heq]
      · refine ⟨_, rfl, master, f, hbmaster, hf, ?_⟩
        rcases List.mem_append.mp hx with hx | hx
        · obtain ⟨b', hb', m, g, hm, hg, hd⟩ := hdead x hx
          rcases hd with ⟨hle, hlim⟩ | hlt
          · obtain ⟨m', hanchor⟩ := h.anchor b' hb'
            obtain rfl : m = m' := Option.some.inj (hm.symm.trans hanchor.master)
            have hlater := h.le_newest ho hlast ((h.kept_suffix _).subset hanchor.master_mem)
            exact .inl ⟨hle.trans hlater, hlim.trans_le (Nat.sub_le_sub_right hlater _)⟩
          · exact .inr (hlt.trans_le (hnot b' hb' key g f hg hf))
        · left
          exact (lt_horizonNs_iff master _).mp (by simpa using List.mem_takeWhile_imp hx)
    · have hnil : whole key = [] := by rw [h.history, if_neg hkey]
      refine ⟨[], ?_, fun x hx => absurd hx List.not_mem_nil⟩
      have hsub : pruneBuffers c complete master kept key <:+ [] := by
        rw [← hnil]
        exact (pruneBuffers_suffix complete master kept key).trans (h.kept_suffix key)
      rw [hnil, List.suffix_nil.mp hsub]
      rfl
  · intro b hb
    obtain rfl := Option.some.inj hb
    refine ⟨master, hbmaster, hreq, hkeys, fun key hkey => ?_, bundleOf_midway s hmaster hc drops⟩
    obtain ⟨f, hf, hmem, hle, hnear, -⟩ := hselected hkey
    refine ⟨f, hf, ?_, hnear⟩
    rw [pruneBuffers_software hmode complete master kept hkey]
    rw [← List.takeWhile_append_dropWhile
      (p := fun f : StreamFrame => decide (f.hostArrivalTimeNs < horizonNs c master)) (l := kept key)] at hmem
    rcases List.mem_append.mp hmem with htake | hdrop
    · have hlow := (lt_horizonNs_iff master f.hostArrivalTimeNs).mp
        (by simpa using List.mem_takeWhile_imp htake)
      rw [timeDiff_of_le hlow.1] at hle
      exact absurd hlow.2 (not_lt.mpr hle)
    · exact hdrop
  · obtain ⟨m, hm⟩ := h.anchor b' hb'
    constructor
    · intro key g hg
      obtain ⟨f, hf, -⟩ := hselected (hm.keys key g hg)
      exact ⟨f, hf, hnot b' hb' key g f hg hf⟩
    · obtain ⟨lo, hi, hmid⟩ := hm.midway
      have hmidway := bundleOf_midway s hmaster hc drops
      obtain ⟨lo', hi', hmid'⟩ := hmidway
      exact hmid.le hmid' hm.keys hkeys fun key g f hg hf => hnot b' hb' key g f hg hf

@[simp] theorem noted_bundleSeq (buffers : String → List StreamFrame) (master : StreamFrame) (sel : Selection) :
    (s.noted buffers master sel).bundleSeq = s.bundleSeq :=
  notePending_bundleSeq (s := { s with buffers := buffers }) master

@[simp] theorem noted_lastEmitted (buffers : String → List StreamFrame) (master : StreamFrame) (sel : Selection) :
    (s.noted buffers master sel).lastEmittedMasterFrameNumber = s.lastEmittedMasterFrameNumber :=
  notePending_lastEmitted (s := { s with buffers := buffers }) master

/-- The comparison of two states, with what a call reads beside the buffers. -/
structure Follows (c : SynchronizerConfig) (pushes : List Push) (last : Option FrameBundleMeta)
    (s u : FrameSynchronizer) : Prop where
  tracks : Tracks c pushes last s.buffers u.buffers
  seq : s.bundleSeq = u.bundleSeq
  lastEmitted : s.lastEmittedMasterFrameNumber = u.lastEmittedMasterFrameNumber

/-- **One call** of the two algorithms. -/
theorem Follows.push (h : Follows c pushes last s u) (ho : HostOrdered (pushes ++ [p]))
    (hmode : c.sync.mode = .software) (hpub : c.sync.publishIncompleteBundles = false)
    (hcut : CutsBeyondLimit c)
    (hlast : (runPushes (pushFrame c) pushes).2.getLast? = last) (hroom : Room c pushes p) :
    (∃ s' u', s.pushFrame c p.1 p.2 = (s', none) ∧ u.pushFrameUnbounded c p.1 p.2 = (u', none) ∧
      Follows c (pushes ++ [p]) last s' u') ∨
    ∃ s' u' b, s.pushFrame c p.1 p.2 = (s', some b) ∧ u.pushFrameUnbounded c p.1 p.2 = (u', some b) ∧
      Follows c (pushes ++ [p]) (some b) s' u' ∧ ∀ b' ∈ last, NotBefore b' b := by
  obtain ⟨htracks, hseq, hemitted⟩ := h
  rw [pushFrame_eq, pushFrameUnbounded]
  by_cases hreq : p.1.ringName ∈ c.group.requiredStreams
  · have hbuf := htracks.buffer ho hreq hlast hroom
    cases hmaster : (u.growBuffer p.1 c.group.masterStream).getLast? with
    | none =>
      left
      rw [pushOn_waiting hreq (hbuf.getLast?_eq.trans hmaster), pushOn_waiting hreq hmaster]
      exact ⟨_, _, rfl, rfl, hbuf, hseq, hemitted⟩
    | some master =>
      have hmaster' := hbuf.getLast?_eq.trans hmaster
      have hgate : s.Open master ↔ u.Open master := by rw [Open, Open, hemitted]
      by_cases hopen : u.Open master
      · rcases hbuf.agree ho hmode hcut hmaster with hsame | ⟨hk, hw⟩
        · cases hc : (select c (s.bufferFrame p.1) master).isComplete c with
          | true =>
            right
            have hcw := hc
            rw [hsame] at hcw
            obtain ⟨hnext, hnot⟩ := hbuf.emit (s := s.noted (s.bufferFrame p.1) master
              (select c (s.bufferFrame p.1) master)) ho hmode hcut hmaster hsame hc p.2 true
            have hbundle : (u.noted (u.growBuffer p.1) master (select c (u.growBuffer p.1) master)).bundleOf c
                (select c (u.growBuffer p.1) master) master p.2 =
              (s.noted (s.bufferFrame p.1) master (select c (s.bufferFrame p.1) master)).bundleOf c
                (select c (s.bufferFrame p.1) master) master p.2 := by
              rw [← hsame]
              simp only [bundleOf, noted_bundleSeq, hseq]
            rw [pushOn_emit hreq hmaster' (hgate.mpr hopen) (.inl hc),
              pushOn_emit hreq hmaster hopen (.inl hcw), hbundle]
            refine ⟨_, _, _, rfl, rfl, ⟨?_, ?_, ?_⟩, hnot⟩
            · rw [hc]
              exact hnext
            · simp only [FrameSynchronizer.emitted, noted_bundleSeq, hseq]
            · simp only [FrameSynchronizer.emitted, noted_lastEmitted, hemitted]
          | false =>
            left
            have hcw := hc
            rw [hsame] at hcw
            rw [pushOn_retry hreq hmaster' (hgate.mpr hopen) hc hpub, pushOn_retry hreq hmaster hopen hcw hpub]
            refine ⟨_, _, rfl, rfl, hbuf, ?_, ?_⟩
            · simp only [noted_bundleSeq, hseq]
            · simp only [noted_lastEmitted, hemitted]
        · left
          rw [pushOn_retry hreq hmaster' (hgate.mpr hopen) hk hpub, pushOn_retry hreq hmaster hopen hw hpub]
          refine ⟨_, _, rfl, rfl, hbuf, ?_, ?_⟩
          · simp only [noted_bundleSeq, hseq]
          · simp only [noted_lastEmitted, hemitted]
      · left
        rw [pushOn_closed hreq hmaster' (fun hs => hopen (hgate.mp hs)), pushOn_closed hreq hmaster hopen]
        exact ⟨_, _, rfl, rfl, hbuf, hseq, hemitted⟩
  · left
    rw [pushOn_ignored hreq, pushOn_ignored hreq]
    exact ⟨_, _, rfl, rfl, htracks.ignore hreq, hseq, hemitted⟩

/-! ## Whole runs -/

/-- A run of the two algorithms: the states, the bundles, and their order. -/
theorem runs_follow (ho : HostOrdered pushes) (hmode : c.sync.mode = .software)
    (hpub : c.sync.publishIncompleteBundles = false) (hcut : CutsBeyondLimit c)
    (hroom : Runs.EveryStep (Room c) pushes) :
    Follows c pushes (runPushes (pushFrame c) pushes).2.getLast? (runPushes (pushFrame c) pushes).1
        (runPushes (pushFrameUnbounded c) pushes).1 ∧
      (runPushes (pushFrame c) pushes).2 = (runPushes (pushFrameUnbounded c) pushes).2 ∧
      (runPushes (pushFrame c) pushes).2.Pairwise NotBefore := by
  induction pushes using List.reverseRecOn with
  | nil => exact ⟨⟨tracks_nil c, rfl, rfl⟩, rfl, List.Pairwise.nil⟩
  | append_singleton pushes p ih =>
    obtain ⟨hfollows, heq, hpair⟩ := ih ho.of_concat (hroom.of_append rfl)
    rw [runPushes_concat, runPushes_concat]
    generalize hr : runPushes (pushFrame c) pushes = r at hfollows heq hpair ⊢
    have hstep := hfollows.push ho hmode hpub hcut (by rw [hr]) (hroom pushes p [] rfl)
    rcases hstep with ⟨s', u', hs', hu', hnext⟩ | ⟨s', u', b, hs', hu', hnext, hnot⟩
    · rw [hs', hu']
      simp only [Option.toList_none, List.append_nil]
      exact ⟨hnext, heq, hpair⟩
    · rw [hs', hu']
      simp only [Option.toList_some, List.getLast?_concat]
      refine ⟨hnext, by rw [heq], List.pairwise_append.mpr ⟨hpair, List.pairwise_singleton _ _, ?_⟩⟩
      intro b₁ hb₁ b₂ hb₂
      obtain rfl := List.mem_singleton.mp hb₂
      -- every earlier bundle is not after the last one
      cases hlast : r.2.getLast? with
      | none =>
        rw [List.getLast?_eq_none_iff.mp hlast] at hb₁
        exact absurd hb₁ List.not_mem_nil
      | some b' =>
        have hb' := hnot b' hlast
        obtain ⟨init, hinit⟩ := List.getLast?_eq_some_iff.mp hlast
        rw [hinit] at hpair hb₁
        rcases List.mem_append.mp hb₁ with hb₁ | hb₁
        · exact ((List.pairwise_append.mp hpair).2.2 b₁ hb₁ b' (by simp)).trans hb'
        · rw [List.mem_singleton.mp hb₁]
          exact hb'

/-- **Pruning is invisible** while each stream has room since the frame it gave to the last bundle and no frame
within the limit is pruned: the bundles are those of the algorithm with buffers that only grow, and from bundle
to bundle no chosen frame and no bundle time goes back. -/
theorem pruning_invisible (hmode : c.sync.mode = .software) (hpub : c.sync.publishIncompleteBundles = false)
    (hcut : CutsBeyondLimit c) (ho : HostOrdered pushes)
    (hroom : Runs.EveryStep (Room c) pushes) :
    (runPushes (pushFrame c) pushes).2 = (runPushes (pushFrameUnbounded c) pushes).2 ∧
      (runPushes (pushFrame c) pushes).2.Pairwise NotBefore :=
  (runs_follow ho hmode hpub hcut hroom).2

/-- The head camera's frame 1 at 0 ms, the wrist camera's at 5 ms, and both again at 33 and 40 ms. -/
def pairPushes : List Push :=
  [(sampleFrame "head.color" 1 0, []), (sampleFrame "wrist.color" 1 5, []),
    (sampleFrame "head.color" 2 33, []), (sampleFrame "wrist.color" 2 40, [])]

theorem pruning_invisible_pair :
    (runPushes (pushFrame (pairConfig .software (.fin 10))) pairPushes).2 =
        (runPushes (pushFrameUnbounded (pairConfig .software (.fin 10))) pairPushes).2 ∧
      (runPushes (pushFrame (pairConfig .software (.fin 10))) pairPushes).2.Pairwise NotBefore := by
  have ho : HostOrdered pairPushes := by unfold HostOrdered; decide +kernel
  have hroom : Runs.EveryStep (Room (pairConfig .software (.fin 10))) pairPushes := by
    apply Runs.everyStep_of_take
    unfold Room
    decide +kernel
  have hcut : CutsBeyondLimit (pairConfig .software (.fin 10)) := cutsBeyondLimit_of_whole (n := 10) (by decide) rfl
  exact pruning_invisible rfl rfl hcut ho hroom

end Comparison

/-! ## Runs in which a cut shows -/

/-- No stream gets more than `limit` frames between two bundles; `n` counts those since the last one. -/
def fewBetween (c : SynchronizerConfig) (limit : ℕ) :
    FrameSynchronizer → (String → ℕ) → List Push → Bool
  | _, _, [] => true
  | s, n, p :: pushes =>
    let n := Function.update n p.1.ringName (n p.1.ringName + 1)
    let r := s.pushFrame c p.1 p.2
    decide (n p.1.ringName ≤ limit) && fewBetween c limit r.1 (if r.2.isSome then fun _ => 0 else n) pushes

/-- No stream gets more frames between two bundles than a buffer holds, and still the bundles are not those of
the algorithm with buffers that only grow. -/
structure CutsShow (c : SynchronizerConfig) (pushes : List Push) : Prop where
  mode : c.sync.mode = .software
  publish : c.sync.publishIncompleteBundles = false
  ordered : HostOrdered pushes
  numbered : (streamFrames c.group.masterStream pushes).Pairwise fun f g => f.frameNumber < g.frameNumber
  few : fewBetween c maxBufferedFrames {} (fun _ => 0) pushes = true
  bundles : (runPushes (pushFrame c) pushes).2 ≠ (runPushes (pushFrameUnbounded c) pushes).2

def tripleGroup : BundleGroupConfig :=
  ⟨"triple", "camera.bundle", "head.color", ["head.color", "wrist.color", "chest.color"], .fin 1000, false⟩

def tripleConfig : SynchronizerConfig where
  sync := ⟨.software, "nearest_timestamp", false⟩
  group := tripleGroup
  statsWindowSec := .fin 5

/-- The wrist frame at 1990 ms comes before the first bundle (head and chest at 0 ms); then 64 wrist frames
come while the head frame at 2000 ms waits for a chest frame. -/
def crowded : List Push :=
  [(sampleFrame "head.color" 1 0, []), (sampleFrame "wrist.color" 1 0, []), (sampleFrame "wrist.color" 2 1990, []),
    (sampleFrame "chest.color" 1 0, []), (sampleFrame "head.color" 2 2000, [])] ++
  (List.range 64).map (fun i => (sampleFrame "wrist.color" (i + 3) (2500 + i.toUInt32), [])) ++
  [(sampleFrame "chest.color" 2 2000, [])]

theorem trimming_visible : CutsShow tripleConfig crowded := by
  refine ⟨rfl, rfl, by unfold HostOrdered; decide +kernel, by decide +kernel, by decide +kernel, ?_⟩
  intro h
  have hwrist := congrArg (List.map fun b => (b.frames "wrist.color").map fun f => f.frameNumber) h
  revert hwrist
  decide +kernel

/-- A wrist frame at 0 ms, and two head frames at 4.1 ms. -/
def atLimit : List Push :=
  [(frameAt "wrist.color" 1 0, []), (frameAt "head.color" 1 4100000, []), (frameAt "head.color" 2 4100000, [])]

/-- The first bundle takes the wrist frame and prunes it, and so the second head frame is left alone. -/
theorem pruning_visible : CutsShow (pairConfig .software (.ofRat (41 / 10))) atLimit := by
  refine ⟨rfl, rfl, by unfold HostOrdered; decide +kernel, by decide +kernel, by decide +kernel, ?_⟩
  intro h
  have hlength := congrArg List.length h
  revert hlength
  decide +kernel

theorem cuts_visible :
    CutsShow tripleConfig crowded ∧ CutsShow (pairConfig .software (.ofRat (41 / 10))) atLimit :=
  ⟨trimming_visible, pruning_visible⟩

end FrameSynchronizer

end CameraServer
