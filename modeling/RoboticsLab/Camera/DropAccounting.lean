import RoboticsLab.Camera.StreamTrack
import Mathlib.Data.PNat.Defs
import Mathlib.Order.Interval.Finset.Nat

/-!
# Where a stream's frames went

In every run the frames of a stream that are in shared memory are counted by `frame_count`, or lost to the queue, or on
their way (`Balance`).  `internal_queue_drop_count` counts the pushes of the stream that found the queue full, whoever
lost the entry: it is the number of the stream's lost frames as long as each such push drops a frame of its own stream.
The gap in the frame numbers then counts an evicted frame once more, so the sum of the counters is at most the frames
lost as long as no push of the stream finds the queue full and no frame fails to be written.
-/

namespace CameraServer

/-! ## History -/

/-- What became of a stream's frames. -/
structure FrameTally where
  written : ℕ := 0
  refused : ℕ := 0
  evicted : ℕ := 0
  /-- Pushes of the stream that found the queue full. -/
  pushedFull : ℕ := 0
  /-- The number of the last frame handled. -/
  lastCall : Option ℕ := none

def FrameTally.add (t : FrameTally) (d : FrameFate) : FrameTally where
  written := t.written + d.written.toNat
  refused := t.refused + d.refused.toNat
  evicted := t.evicted + d.evicted.toNat
  pushedFull := t.pushedFull + d.pushedFull.toNat
  lastCall := d.call.or t.lastCall

structure FrameLedger where
  flow : FrameFlow := {}
  tally : String → FrameTally := fun _ => {}

def FrameLedger.step (capacity : ℕ) (L : FrameLedger) (e : FrameEvent) : FrameLedger where
  flow := L.flow.step capacity e
  tally := fun key => (L.tally key).add (L.flow.fate capacity key e)

/-- The ledger after the events. -/
def frameLedger (capacity : ℕ) (events : List FrameEvent) : FrameLedger :=
  events.foldl (FrameLedger.step capacity) {}

theorem frameLedger_concat (capacity : ℕ) (events : List FrameEvent) (e : FrameEvent) :
    frameLedger capacity (events ++ [e]) = (frameLedger capacity events).step capacity e := List.foldl_concat ..

/-! ## Every run -/

/-- The frame that a call has written and not yet pushed. -/
def Handling.held : Handling → List ℕ
  | .written n _ => [n]
  | .refused n _ => [n]
  | .recorded n _ => [n]
  | .idle => []
  | .writeFailed => []
  | .pushedOut => []

/-- The frames on their way, oldest first. -/
def Track.underway (t : Track) : List ℕ := t.popped ++ t.queued ++ t.handling.held

/-- A drop or a refusal that is not counted yet. -/
def Handling.owesDrop : Handling → ℕ
  | .pushedOut => 1
  | _ => 0

def Handling.owesRefusal : Handling → ℕ
  | .refused _ _ => 1
  | _ => 0

/-- What holds of a stream in every run. -/
structure Balance (t : Track) (c : FrameTally) : Prop where
  frames : c.written = t.stats.frameCount + c.evicted + t.underway.length
  drops : c.pushedFull = t.stats.internalQueueDropCount + t.handling.owesDrop
  refusals : c.refused = t.stats.recorderDropCount + t.handling.owesRefusal

theorem FrameFlow.track_handling (s : FrameFlow) (key : String) : (s.track key).handling = s.handling key := rfl

/-- With nothing under way but in the queue. -/
theorem FrameFlow.underway_track {s : FrameFlow} {key : String} (hidle : s.handling key = .idle)
    (hpopped : ∀ f, s.loop = .popped f → f.ringName ≠ key) : (s.track key).underway = numbersOf key s.queue := by
  unfold Track.underway track
  dsimp only
  rw [hidle]
  cases hloop : s.loop with
  | waiting => exact List.append_nil _
  | popped f =>
    dsimp only
    rw [numbersOf_singleton_of_ne (hpopped f hloop)]
    exact List.append_nil _
  | publishing drops => exact List.append_nil _

theorem Balance.step {t t' : Track} {c : FrameTally} {d : FrameFate} (h : Balance t c) (hstep : TrackStep t d t') :
    Balance t' (c.add d) := by
  obtain ⟨hframes, hdrops, hrefusals⟩ := h
  unfold Track.underway at hframes
  cases hstep with
  | _ =>
    -- one more written or evicted, or one frame further on its way
    constructor <;>
    simp_all [FrameTally.add, Track.underway, Handling.held, Handling.owesDrop, Handling.owesRefusal,
      StreamStats.count] <;> omega

theorem balance_frameLedger {capacity : ℕ} (hcapacity : 0 < capacity) (events : List FrameEvent) (key : String) :
    Balance ((frameLedger capacity events).flow.track key) ((frameLedger capacity events).tally key) := by
  induction events using List.reverseRecOn with
  | nil => exact ⟨rfl, rfl, rfl⟩
  | append_singleton events e ih =>
    rw [frameLedger_concat]
    exact ih.step (FrameFlow.step_track hcapacity key e)

/-! ## Runs in which each stream pays for its own -/

/-- The stream that loses a frame is the one that pushes. -/
def EvictsOwn (capacity : ℕ) (pre : List FrameEvent) (e : FrameEvent) : Prop :=
  (frameLedger capacity pre).flow.evictionOf capacity e = (frameLedger capacity pre).flow.fullPushOf capacity e

theorem fate_evicted (capacity : ℕ) (s : FrameFlow) (key : String) (e : FrameEvent) :
    (s.fate capacity key e).evicted = decide (s.evictionOf capacity e = some key) ∧
    (s.fate capacity key e).pushedFull = decide (s.fullPushOf capacity e = some key) := by
  cases e with
  | handleFrame k n time written =>
    unfold FrameFlow.fate
    dsimp only
    cases s.handling k with
    | idle => by_cases hk : k = key <;> simp [hk, FrameFlow.evictionOf, FrameFlow.fullPushOf]
    | _ => simp [FrameFlow.evictionOf, FrameFlow.fullPushOf]
  | record k refused =>
    unfold FrameFlow.fate
    dsimp only
    cases s.handling k with
    | written n time => by_cases hk : k = key <;> simp [hk, FrameFlow.evictionOf, FrameFlow.fullPushOf]
    | _ => simp [FrameFlow.evictionOf, FrameFlow.fullPushOf]
  | proceed k => exact ⟨rfl, rfl⟩
  | metadataLoop => exact ⟨rfl, rfl⟩

theorem evicted_eq_pushedFull {capacity : ℕ} {events : List FrameEvent}
    (hown : Runs.EveryStep (EvictsOwn capacity) events) (key : String) :
    ((frameLedger capacity events).tally key).evicted = ((frameLedger capacity events).tally key).pushedFull := by
  refine hown.invariant (fun pre => ((frameLedger capacity pre).tally key).evicted =
    ((frameLedger capacity pre).tally key).pushedFull) rfl ?_
  intro pre e ih hstep
  obtain ⟨hevicted, hpushed⟩ := fate_evicted capacity (frameLedger capacity pre).flow key e
  rw [frameLedger_concat]
  show _ + _ = _ + _
  rw [hevicted, hpushed, hstep, ih]

/-! ## Consecutive frame numbers -/

/-- The frame of each call of the stream has the number after the last one's. -/
def Consecutive (capacity : ℕ) (key : String) (pre : List FrameEvent) (e : FrameEvent) : Prop :=
  ∀ n last, ((frameLedger capacity pre).flow.fate capacity key e).call = some n →
    ((frameLedger capacity pre).tally key).lastCall = some last → n = last + 1

/-- No push of the stream finds the queue full, and each of its frames is written. -/
def Unhindered (capacity : ℕ) (key : String) (pre : List FrameEvent) (e : FrameEvent) : Prop :=
  ((frameLedger capacity pre).flow.fate capacity key e).pushedFull = false ∧
    ((frameLedger capacity pre).flow.fate capacity key e).failed = false

/-- The numbers of a stream whose frames are all written: consecutive from `first` on, and in order on their
way; the gaps counted are among the frames before the last one counted. -/
structure InOrder (first : ℕ) (t : Track) (c : FrameTally) : Prop where
  fresh : c.lastCall = none → c.written = 0
  last : ∀ last, c.lastCall = some last → last + 1 = first + c.written
  sorted : t.underway.Pairwise (· < ·)
  bounds : ∀ n ∈ t.underway, first ≤ n ∧ n < first + c.written
  uncounted : t.stats.frameCount = 0 → t.stats.frameNumberGapDropCount = 0 ∧ t.stats.lastFrameNumber = 0
  counted : 0 < t.stats.frameCount → (∀ n ∈ t.underway, t.stats.lastFrameNumber < n) ∧
    t.stats.lastFrameNumber < first + c.written ∧
    t.stats.frameNumberGapDropCount + t.stats.frameCount + first ≤ t.stats.lastFrameNumber + 1

/-- An ascending list between two bounds. -/
theorem length_le_of_sorted {l : List ℕ} {a b : ℕ} (hsorted : l.Pairwise (· < ·)) (hbounds : ∀ n ∈ l, a < n ∧ n < b) :
    l.length ≤ b - a - 1 := by
  have hnodup : l.Nodup := hsorted.imp fun h => h.ne
  rw [← List.toFinset_card_of_nodup hnodup, ← Nat.card_Ioo]
  refine Finset.card_le_card fun n hn => ?_
  rw [Finset.mem_Ioo]
  exact hbounds n (List.mem_toFinset.mp hn)

/-- The gaps counted are evicted frames. -/
theorem InOrder.gaps_le {first : ℕ} {t : Track} {c : FrameTally} (h : InOrder first t c) (hbalance : Balance t c) :
    t.stats.frameNumberGapDropCount ≤ c.evicted := by
  rcases Nat.eq_zero_or_pos t.stats.frameCount with hzero | hpos
  · rw [(h.uncounted hzero).1]
    exact Nat.zero_le _
  · obtain ⟨habove, hlast, hgaps⟩ := h.counted hpos
    have hlength := length_le_of_sorted h.sorted fun n hn => ⟨habove n hn, (h.bounds n hn).2⟩
    have hframes := hbalance.frames
    omega

/-- Frames lost on their way leave the rest in order. -/
theorem InOrder.of_sublist {first : ℕ} {t t' : Track} {c c' : FrameTally} (h : InOrder first t c)
    (hsub : t'.underway.Sublist t.underway) (hwritten : c'.written = c.written) (hlast : c'.lastCall = c.lastCall)
    (hcount : t'.stats.frameCount = t.stats.frameCount)
    (hgap : t'.stats.frameNumberGapDropCount = t.stats.frameNumberGapDropCount)
    (hnumber : t'.stats.lastFrameNumber = t.stats.lastFrameNumber) : InOrder first t' c' := by
  constructor
  · rw [hwritten, hlast]
    exact h.fresh
  · rw [hwritten, hlast]
    exact h.last
  · exact h.sorted.sublist hsub
  · rw [hwritten]
    exact fun n hn => h.bounds n (hsub.subset hn)
  · rw [hcount, hgap, hnumber]
    exact h.uncounted
  · rw [hcount, hgap, hnumber, hwritten]
    intro hpos
    obtain ⟨habove, hrest⟩ := h.counted hpos
    exact ⟨fun n hn => habove n (hsub.subset hn), hrest⟩

/-- The first frame on its way is counted. -/
theorem InOrder.count {first : ℕ} {t t' : Track} {c c' : FrameTally} {f : ProcessedFrame} (h : InOrder first t c)
    (hfront : t.underway = f.frameNumber :: t'.underway) (hstats : t'.stats = t.stats.count f)
    (hwritten : c'.written = c.written) (hlast : c'.lastCall = c.lastCall) : InOrder first t' c' := by
  have hsorted := h.sorted
  have hbounds := h.bounds
  rw [hfront] at hsorted hbounds
  obtain ⟨habove, htail⟩ := List.pairwise_cons.mp hsorted
  obtain ⟨hlow, hhigh⟩ := hbounds f.frameNumber (List.mem_cons_self ..)
  constructor
  · rw [hwritten, hlast]
    exact h.fresh
  · rw [hwritten, hlast]
    exact h.last
  · exact htail
  · rw [hwritten]
    exact fun n hn => hbounds n (List.mem_cons_of_mem _ hn)
  · rw [hstats]
    exact fun hzero => absurd hzero (Nat.succ_ne_zero _)
  · rw [hstats, hwritten]
    intro _
    refine ⟨habove, hhigh, ?_⟩
    show (if t.stats.lastFrameNumber ≠ 0 ∧ t.stats.lastFrameNumber + 1 < f.frameNumber then
      t.stats.frameNumberGapDropCount + (f.frameNumber - t.stats.lastFrameNumber - 1)
      else t.stats.frameNumberGapDropCount) + (t.stats.frameCount + 1) + first ≤ f.frameNumber + 1
    rcases Nat.eq_zero_or_pos t.stats.frameCount with hzero | hpos
    · -- the first one: no gap before it
      obtain ⟨hgap, hnumber⟩ := h.uncounted hzero
      rw [if_neg fun hlast => hlast.1 hnumber]
      omega
    · obtain ⟨hbefore, -, hgaps⟩ := h.counted hpos
      have hnext := hbefore f.frameNumber (by rw [hfront]; exact List.mem_cons_self ..)
      split_ifs <;> omega

/-- A call writes the next frame. -/
theorem InOrder.write {first n : ℕ} {t t' : Track} {c c' : FrameTally} (h : InOrder first t c) (hbalance : Balance t c)
    (hback : t'.underway = t.underway ++ [n]) (hstats : t'.stats = t.stats) (hwritten : c'.written = c.written + 1)
    (hlast : c'.lastCall = some n) (hnext : ∀ last, c.lastCall = some last → n = last + 1) :
    ∃ first', InOrder first' t' c' := by
  cases hcall : c.lastCall with
  | none =>
    -- the first frame of the stream: nothing is on its way, and nothing counted
    have hzero := h.fresh hcall
    have hframes := hbalance.frames
    have hnone : t.underway = [] := List.eq_nil_of_length_eq_zero (by omega)
    have huncounted : t.stats.frameCount = 0 := by omega
    refine ⟨n, ?_⟩
    constructor
    · rw [hlast]
      exact fun h' => absurd h' (Option.some_ne_none n)
    · rw [hlast, hwritten, hzero]
      rintro last ⟨⟩
      rfl
    · rw [hback, hnone]
      exact List.pairwise_singleton _ _
    · rw [hback, hnone, hwritten]
      intro m hm
      rw [List.nil_append, List.mem_singleton] at hm
      omega
    · rw [hstats]
      exact h.uncounted
    · rw [hstats, huncounted]
      exact fun hpos => absurd hpos (lt_irrefl 0)
  | some last =>
    have hn : n = first + c.written := by
      rw [hnext last hcall]
      exact h.last last hcall
    refine ⟨first, ?_⟩
    constructor
    · rw [hlast]
      exact fun h' => absurd h' (Option.some_ne_none n)
    · rw [hlast, hwritten]
      rintro last ⟨⟩
      omega
    · rw [hback]
      refine List.pairwise_append.mpr ⟨h.sorted, List.pairwise_singleton _ _, ?_⟩
      intro m hm m' hm'
      rw [List.mem_singleton.mp hm', hn]
      exact (h.bounds m hm).2
    · rw [hback, hwritten]
      intro m hm
      rcases List.mem_append.mp hm with hm | hm
      · have hbounds := h.bounds m hm
        omega
      · rw [List.mem_singleton.mp hm]
        omega
    · rw [hstats]
      exact h.uncounted
    · rw [hstats, hback, hwritten]
      intro hpos
      obtain ⟨habove, hhigh, hgaps⟩ := h.counted hpos
      refine ⟨fun m hm => ?_, by omega, hgaps⟩
      rcases List.mem_append.mp hm with hm | hm
      · exact habove m hm
      · rw [List.mem_singleton.mp hm]
        omega

theorem InOrder.step {first : ℕ} {t t' : Track} {c : FrameTally} {d : FrameFate} (h : InOrder first t c)
    (hbalance : Balance t c) (hstep : TrackStep t d t') (hfull : d.pushedFull = false) (hfailed : d.failed = false)
    (hnext : ∀ n last, d.call = some n → c.lastCall = some last → n = last + 1) :
    ∃ first', InOrder first' t' (c.add d) := by
  cases hstep with
  | rest => exact ⟨first, h.of_sublist (.refl _) rfl rfl rfl rfl rfl⟩
  | write n time hidle =>
    refine h.write hbalance ?_ rfl rfl rfl (fun last hlast => hnext n last rfl hlast)
    simp [Track.underway, hidle, Handling.held]
  | fail n hidle => exact absurd hfailed Bool.true_eq_false.mp
  | countError hh => exact ⟨first, h.of_sublist (by simp [Track.underway, hh, Handling.held]) rfl rfl rfl rfl rfl⟩
  | accept hh => exact ⟨first, h.of_sublist (by simp [Track.underway, hh, Handling.held]) rfl rfl rfl rfl rfl⟩
  | refuse hh => exact ⟨first, h.of_sublist (by simp [Track.underway, hh, Handling.held]) rfl rfl rfl rfl rfl⟩
  | countRefusal hh => exact ⟨first, h.of_sublist (by simp [Track.underway, hh, Handling.held]) rfl rfl rfl rfl rfl⟩
  | push hh => exact ⟨first, h.of_sublist (by simp [Track.underway, hh, Handling.held]) rfl rfl rfl rfl rfl⟩
  | pushOwn hh hq => exact absurd hfull (by simp)
  | pushOther hh => exact absurd hfull (by simp)
  | evict hq =>
    refine ⟨first, h.of_sublist ?_ rfl rfl rfl rfl rfl⟩
    simp [Track.underway, hq]
  | countEviction hh => exact ⟨first, h.of_sublist (by simp [Track.underway, hh, Handling.held]) rfl rfl rfl rfl rfl⟩
  | pop hp hq => exact ⟨first, h.of_sublist (by simp [Track.underway, hp, hq]) rfl rfl rfl rfl rfl⟩
  | count f hp => exact ⟨first, h.count (by simp [Track.underway, hp]) rfl rfl rfl⟩
  | publish => exact ⟨first, h.of_sublist (.refl _) rfl rfl rfl rfl rfl⟩
  | published => exact ⟨first, h.of_sublist (.refl _) rfl rfl rfl rfl rfl⟩

/-! ## The published counters -/

theorem TrackStep.published_cases {t t' : Track} {d : FrameFate} (h : TrackStep t d t') :
    t'.published = t.published ∨ t'.published = none ∨ t'.published = some t'.stats.totalDrops := by
  cases h with
  | count => exact .inr (.inr rfl)
  | publish => exact .inr (.inr rfl)
  | published => exact .inr (.inl rfl)
  | _ => exact .inl rfl

/-- The frames really lost: evicted from the queue, or refused by the recorder. -/
def FrameTally.lost (c : FrameTally) : ℕ := c.evicted + c.refused

theorem FrameTally.lost_le_add (c : FrameTally) (d : FrameFate) : c.lost ≤ (c.add d).lost := by
  unfold lost add
  dsimp only
  omega

/-- What holds of a stream that pushes to a queue with room and whose frames are all written. -/
structure Unhurt (t : Track) (c : FrameTally) : Prop where
  balance : Balance t c
  inOrder : ∃ first, InOrder first t c
  room : c.pushedFull = 0
  published : ∀ drops, t.published = some drops → drops ≤ c.lost

theorem totalDrops_le_lost {first : ℕ} {t : Track} {c : FrameTally} (hbalance : Balance t c)
    (horder : InOrder first t c)
    (hroom : c.pushedFull = 0) : t.stats.totalDrops ≤ c.lost := by
  have hgaps := horder.gaps_le hbalance
  have hdrops := hbalance.drops
  have hrefusals := hbalance.refusals
  unfold StreamStats.totalDrops FrameTally.lost
  omega

theorem Unhurt.step {t t' : Track} {c : FrameTally} {d : FrameFate} (h : Unhurt t c) (hstep : TrackStep t d t')
    (hfull : d.pushedFull = false) (hfailed : d.failed = false)
    (hnext : ∀ n last, d.call = some n → c.lastCall = some last → n = last + 1) : Unhurt t' (c.add d) := by
  obtain ⟨first, horder⟩ := h.inOrder
  obtain ⟨first', horder'⟩ := horder.step h.balance hstep hfull hfailed hnext
  have hbalance := h.balance.step hstep
  have hroom : (c.add d).pushedFull = 0 := by
    show c.pushedFull + d.pushedFull.toNat = 0
    rw [h.room, hfull]
    rfl
  refine ⟨hbalance, ⟨first', horder'⟩, hroom, fun drops hdrops => ?_⟩
  rcases hstep.published_cases with hsame | hnone | htotal
  · exact (h.published drops (hsame ▸ hdrops)).trans (c.lost_le_add d)
  · exact absurd (hnone.symm.trans hdrops) (by simp)
  · rw [htotal, Option.some.injEq] at hdrops
    rw [← hdrops]
    exact totalDrops_le_lost hbalance horder' hroom

/-! ## The result -/

theorem unhurt_start (key : String) : Unhurt (({} : FrameFlow).track key) {} := by
  refine ⟨⟨rfl, rfl, rfl⟩, ⟨0, ?_⟩, rfl, fun drops hdrops => absurd hdrops (by simp [FrameFlow.track])⟩
  constructor
  · exact fun _ => rfl
  · exact fun last hlast => absurd hlast (Option.some_ne_none last).symm
  · exact List.Pairwise.nil
  · exact fun n hn => absurd hn List.not_mem_nil
  · exact fun _ => ⟨rfl, rfl⟩
  · exact fun hpos => absurd hpos (lt_irrefl 0)

/-- **Drop accounting.**  `BoundedQueue` takes no capacity of 0.  In a run in which each push to the full queue drops a
frame of its own stream, a stream with nothing under way has each written frame counted, dropped or in the queue.  In a
run in which a stream numbers its frames consecutively, finds room for each and has each written, what is published as
its drops are frames it lost. -/
theorem drop_accounting (capacity : ℕ+) (events : List FrameEvent) :
    (Runs.EveryStep (EvictsOwn capacity) events → ∀ key, (frameLedger capacity events).flow.handling key = .idle →
      (∀ f, (frameLedger capacity events).flow.loop = .popped f → f.ringName ≠ key) →
      ((frameLedger capacity events).tally key).written =
        ((frameLedger capacity events).flow.stats key).frameCount +
        ((frameLedger capacity events).flow.stats key).internalQueueDropCount +
        (frameLedger capacity events).flow.queue.countP (·.ringName = key)) ∧
    (∀ key, Runs.EveryStep (Consecutive capacity key) events → Runs.EveryStep (Unhindered capacity key) events →
      ∀ drops, (frameLedger capacity events).flow.loop = .publishing drops →
        drops key ≤ ((frameLedger capacity events).tally key).lost) := by
  constructor
  · intro hown key hidle hpopped
    obtain ⟨hframes, hdrops, -⟩ := balance_frameLedger capacity.pos events key
    have heq := evicted_eq_pushedFull hown key
    have hlength : ((frameLedger capacity events).flow.track key).underway.length =
        (frameLedger capacity events).flow.queue.countP (·.ringName = key) := by
      rw [FrameFlow.underway_track hidle hpopped, numbersOf, List.length_map, ← List.countP_eq_length_filter]
    rw [FrameFlow.track_handling, hidle] at hdrops
    rw [hlength, heq, hdrops] at hframes
    exact hframes
  · intro key hnumbers hfree drops hloop
    have hrun : Unhurt ((frameLedger capacity events).flow.track key) ((frameLedger capacity events).tally key) := by
      refine (hnumbers.and hfree).invariant (fun pre => Unhurt ((frameLedger capacity pre).flow.track key)
        ((frameLedger capacity pre).tally key)) (unhurt_start key) ?_
      intro pre e ih ⟨hnext, hfull, hfailed⟩
      rw [frameLedger_concat]
      exact ih.step (FrameFlow.step_track capacity.pos key e) hfull hfailed hnext
    refine hrun.published (drops key) ?_
    unfold FrameFlow.track
    rw [hloop]

/-! ## Three runs -/

/-- The sections of a call whose frame is written and accepted. -/
def handled (key : String) (n : ℕ) : List FrameEvent := [.handleFrame key n 0 true, .record key false, .proceed key]

/-- `count` frames of one stream from number `first` on. -/
def handledFrom (key : String) (first count : ℕ) : List FrameEvent :=
  (List.range count).flatMap fun i => handled key (first + i)

theorem FrameFlow.published_track {s : FrameFlow} {key : String} {n : ℕ} (h : (s.track key).published = some n) :
    ∃ drops, s.loop = .publishing drops ∧ drops key = n := by
  unfold track at h
  dsimp only at h
  cases hloop : s.loop with
  | waiting => simp [hloop] at h
  | popped f => simp [hloop] at h
  | publishing drops =>
    rw [hloop, Option.some.injEq] at h
    exact ⟨drops, rfl, h⟩

instance (capacity : ℕ) (key : String) (pre : List FrameEvent) (e : FrameEvent) :
    Decidable (Consecutive capacity key pre e) :=
  decidable_of_iff (∀ n ∈ ((frameLedger capacity pre).flow.fate capacity key e).call,
    ∀ last ∈ ((frameLedger capacity pre).tally key).lastCall, n = last + 1)
    ⟨fun h n last hn hlast => h n hn last hlast, fun h n hn last hlast => h n last hn hlast⟩

/-- 32 frames of one stream fill the queue, and one of another pushes the first of them out. -/
def otherPushesOut : List FrameEvent := handledFrom "left" 1 32 ++ handled "right" 1 ++ [.proceed "right"]

/-- One frame is counted; 33 more push their first one out, and the one after that is counted. -/
def gapCountedAgain : List FrameEvent :=
  handled "left" 1 ++ [.metadataLoop, .metadataLoop, .metadataLoop] ++ handledFrom "left" 2 33 ++
    [.proceed "left", .metadataLoop, .metadataLoop]

theorem FrameFlow.step_loop {capacity : ℕ} {s : FrameFlow} {e : FrameEvent} (h : e ≠ .metadataLoop) :
    (s.step capacity e).loop = s.loop := by
  cases e with
  | handleFrame k n time written =>
    unfold step
    dsimp only
    split <;> rfl
  | record k refused =>
    unfold step
    dsimp only
    split <;> rfl
  | proceed k =>
    unfold step proceed
    dsimp only
    split <;> rfl
  | metadataLoop => exact absurd rfl h

/-- Without a turn the loop waits. -/
theorem loop_frameLedger {capacity : ℕ} {events : List FrameEvent} (h : ∀ e ∈ events, e ≠ .metadataLoop) :
    (frameLedger capacity events).flow.loop = .waiting := by
  induction events using List.reverseRecOn with
  | nil => rfl
  | append_singleton events e ih =>
    rw [frameLedger_concat]
    show ((frameLedger capacity events).flow.step capacity e).loop = .waiting
    rw [FrameFlow.step_loop (h e (by simp))]
    exact ih fun e' he' => h e' (List.mem_append_left _ he')

/-- The stream that pushed is charged for the frame of the other, and a frame pushed out by its own stream is charged
twice. -/
theorem drops_miscounted :
    ((frameLedger 32 otherPushesOut).flow.handling "right" = .idle ∧
      (frameLedger 32 otherPushesOut).flow.loop = .waiting ∧
      ((frameLedger 32 otherPushesOut).tally "right").written ≠
        ((frameLedger 32 otherPushesOut).flow.stats "right").frameCount +
        ((frameLedger 32 otherPushesOut).flow.stats "right").internalQueueDropCount +
        (frameLedger 32 otherPushesOut).flow.queue.countP (·.ringName = "right")) ∧
    Runs.EveryStep (Consecutive 32 "left") gapCountedAgain ∧
      ∃ drops, (frameLedger 32 gapCountedAgain).flow.loop = .publishing drops ∧
        ((frameLedger 32 gapCountedAgain).tally "left").lost < drops "left" := by
  refine ⟨⟨by decide +kernel, loop_frameLedger (by decide +kernel), by decide +kernel⟩, ?_, ?_⟩
  · exact Runs.everyStep_of_take (by decide +kernel)
  · have hpublished : ((frameLedger 32 gapCountedAgain).flow.track "left").published = some 2 := by decide +kernel
    obtain ⟨drops, hloop, hdrops⟩ := FrameFlow.published_track hpublished
    refine ⟨drops, hloop, ?_⟩
    rw [hdrops]
    decide +kernel

/-- A frame of each of two streams, and a turn of the loop. -/
def roomForBoth : List FrameEvent := handled "left" 1 ++ handled "right" 1 ++ [.metadataLoop, .metadataLoop]

/-- With room for both. -/
theorem drop_accounting_roomForBoth :
    ((frameLedger 32 roomForBoth).tally "right").written =
      ((frameLedger 32 roomForBoth).flow.stats "right").frameCount +
      ((frameLedger 32 roomForBoth).flow.stats "right").internalQueueDropCount +
      (frameLedger 32 roomForBoth).flow.queue.countP (·.ringName = "right") ∧
    ∃ drops, (frameLedger 32 roomForBoth).flow.loop = .publishing drops ∧
      drops "left" ≤ ((frameLedger 32 roomForBoth).tally "left").lost := by
  have hpublished : ((frameLedger 32 roomForBoth).flow.track "left").published = some 0 := by decide +kernel
  obtain ⟨drops, hloop, -⟩ := FrameFlow.published_track hpublished
  obtain ⟨hall, hleft⟩ := drop_accounting 32 roomForBoth
  constructor
  · refine hall (Runs.everyStep_of_take ?_) "right" (by decide +kernel) fun f hf => ?_
    · unfold EvictsOwn
      decide +kernel
    · exact absurd (hloop.symm.trans hf) (by simp)
  · refine ⟨drops, hloop, hleft "left" (Runs.everyStep_of_take (by decide +kernel))
      (Runs.everyStep_of_take ?_) drops hloop⟩
    unfold Unhindered
    decide +kernel

end CameraServer
