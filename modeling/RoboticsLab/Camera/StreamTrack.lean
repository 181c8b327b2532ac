import RoboticsLab.Camera.FrameStats
import RoboticsLab.Lib.Runs

/-!
# One stream of the shared queue

A stream's track is its own part of the flow: its call, its frames in the loop and in the queue, its statistics.  A
section moves a track in one of a few ways (`TrackStep`), whoever runs it; what becomes of the stream's frames in it is
its fate (`FrameFate`).  `step_track` connects the two: from here on each stream is on its own, and what the streams do
to each other is a fate (`pushOther` charges this stream for another's entry, `evict` loses this stream's entry to
another's push).
-/

namespace CameraServer

/-- The stream's frames, by number. -/
def numbersOf (key : String) (frames : List ProcessedFrame) : List ℕ :=
  (frames.filter fun f => f.ringName = key).map (·.frameNumber)

structure Track where
  handling : Handling
  popped : List ℕ
  queued : List ℕ
  /-- The stream's drop counter in the command being published. -/
  published : Option ℕ
  stats : StreamStats

/-- What a section does to the stream's frames. -/
structure FrameFate where
  /-- The frame is in shared memory. -/
  written : Bool := false
  /-- The frame is not: `write_frame` threw. -/
  failed : Bool := false
  /-- The recorder did not accept the frame. -/
  refused : Bool := false
  /-- The queue dropped a frame of the stream. -/
  evicted : Bool := false
  /-- A push of the stream found the queue full. -/
  pushedFull : Bool := false
  /-- The number of the frame that a call begins with. -/
  call : Option ℕ := none

/-- Sections, as one stream has them. -/
inductive TrackStep : Track → FrameFate → Track → Prop
  | rest (t : Track) : TrackStep t {} t
  | write {t : Track} (n time : ℕ) (h : t.handling = .idle) :
    TrackStep t { written := true, call := some n } { t with handling := .written n time }
  | fail {t : Track} (n : ℕ) (h : t.handling = .idle) :
    TrackStep t { failed := true, call := some n } { t with handling := .writeFailed }
  | countError {t : Track} (h : t.handling = .writeFailed) :
    TrackStep t {} { t with
      handling := .idle
      stats := { t.stats with sharedMemoryWriteErrors := t.stats.sharedMemoryWriteErrors + 1 } }
  | accept {t : Track} {n time : ℕ} (h : t.handling = .written n time) :
    TrackStep t {} { t with handling := .recorded n time }
  | refuse {t : Track} {n time : ℕ} (h : t.handling = .written n time) :
    TrackStep t { refused := true } { t with handling := .refused n time }
  | countRefusal {t : Track} {n time : ℕ} (h : t.handling = .refused n time) :
    TrackStep t {} { t with
      handling := .recorded n time
      stats := { t.stats with recorderDropCount := t.stats.recorderDropCount + 1 } }
  | push {t : Track} {n time : ℕ} (h : t.handling = .recorded n time) :
    TrackStep t {} { t with handling := .idle, queued := t.queued ++ [n] }
  | pushOwn {t : Track} {n time m : ℕ} {rest : List ℕ} (h : t.handling = .recorded n time) (hq : t.queued = m :: rest) :
    TrackStep t { evicted := true, pushedFull := true } { t with handling := .pushedOut, queued := rest ++ [n] }
  | pushOther {t : Track} {n time : ℕ} (h : t.handling = .recorded n time) :
    TrackStep t { pushedFull := true } { t with handling := .pushedOut, queued := t.queued ++ [n] }
  | evict {t : Track} {m : ℕ} {rest : List ℕ} (hq : t.queued = m :: rest) :
    TrackStep t { evicted := true } { t with queued := rest }
  | countEviction {t : Track} (h : t.handling = .pushedOut) :
    TrackStep t {} { t with
      handling := .idle
      stats := { t.stats with internalQueueDropCount := t.stats.internalQueueDropCount + 1 } }
  | pop {t : Track} {m : ℕ} {rest : List ℕ} (hp : t.popped = []) (hq : t.queued = m :: rest) :
    TrackStep t {} { t with popped := [m], queued := rest }
  | count {t : Track} (f : ProcessedFrame) (hp : t.popped = [f.frameNumber]) :
    TrackStep t {} { t with popped := [], stats := t.stats.count f, published := some (t.stats.count f).totalDrops }
  | publish (t : Track) : TrackStep t {} { t with published := some t.stats.totalDrops }
  | published (t : Track) : TrackStep t {} { t with published := none }

namespace FrameFlow

variable (capacity : ℕ) (s : FrameFlow)

def track (key : String) : Track where
  handling := s.handling key
  popped := match s.loop with
    | .popped f => numbersOf key [f]
    | _ => []
  queued := numbersOf key s.queue
  published := match s.loop with
    | .publishing drops => some (drops key)
    | _ => none
  stats := s.stats key

/-- The stream whose push finds the queue full. -/
def fullPushOf : FrameEvent → Option String
  | .proceed key => match s.handling key with
    | .recorded _ _ => if capacity ≤ s.queue.length then some key else none
    | _ => none
  | _ => none

/-- The stream that loses its oldest entry. -/
def evictionOf (e : FrameEvent) : Option String :=
  match s.fullPushOf capacity e with
  | some _ => s.queue.head?.map (·.ringName)
  | none => none

/-- The section's fate for a stream. -/
def fate (key : String) (e : FrameEvent) : FrameFate :=
  match e with
  | .handleFrame k n _ written => match s.handling k with
    | .idle => if k = key then { written := written, failed := !written, call := some n } else {}
    | _ => {}
  | .record k refused => match s.handling k with
    | .written _ _ => if k = key then { refused := refused } else {}
    | _ => {}
  | .proceed k => {
      evicted := s.evictionOf capacity (.proceed k) = some key
      pushedFull := s.fullPushOf capacity (.proceed k) = some key }
  | .metadataLoop => {}

/-! ## The sections of all streams, stream by stream -/

variable {capacity s}

theorem numbersOf_cons_self {key : String} {f : ProcessedFrame} (fs : List ProcessedFrame) (h : f.ringName = key) :
    numbersOf key (f :: fs) = f.frameNumber :: numbersOf key fs := by
  unfold numbersOf
  rw [List.filter_cons_of_pos (by simp [h]), List.map_cons]

theorem numbersOf_cons_of_ne {key : String} {f : ProcessedFrame} (fs : List ProcessedFrame) (h : f.ringName ≠ key) :
    numbersOf key (f :: fs) = numbersOf key fs := by
  unfold numbersOf
  rw [List.filter_cons_of_neg (by simp [h])]

theorem numbersOf_singleton_self {key : String} {f : ProcessedFrame} (h : f.ringName = key) :
    numbersOf key [f] = [f.frameNumber] := numbersOf_cons_self [] h

theorem numbersOf_singleton_of_ne {key : String} {f : ProcessedFrame} (h : f.ringName ≠ key) : numbersOf key [f] = [] :=
  numbersOf_cons_of_ne [] h

theorem numbersOf_concat_self (key : String) (n time : ℕ) (fs : List ProcessedFrame) :
    numbersOf key (fs ++ [⟨key, n, time⟩]) = numbersOf key fs ++ [n] := by
  unfold numbersOf
  rw [List.filter_append, List.map_append]
  simp

theorem numbersOf_concat_of_ne {key k : String} (h : key ≠ k) (n time : ℕ) (fs : List ProcessedFrame) :
    numbersOf key (fs ++ [⟨k, n, time⟩]) = numbersOf key fs := by
  unfold numbersOf
  rw [List.filter_append, List.map_append]
  simp [Ne.symm h]

theorem track_setQueue (key : String) (s : FrameFlow) (queue : List ProcessedFrame) :
    (s.setQueue queue).track key = { s.track key with queued := numbersOf key queue } := rfl

/-- Another stream's call leaves the track alone. -/
theorem track_setHandling_of_ne {key k : String} (h : key ≠ k) (s : FrameFlow) (x : Handling) :
    (s.setHandling k x).track key = s.track key := by
  unfold track setHandling
  dsimp only
  rw [Function.update_of_ne h]

theorem track_setHandling_self (key : String) (s : FrameFlow) (x : Handling) :
    (s.setHandling key x).track key = { s.track key with handling := x } := by
  unfold track setHandling
  dsimp only
  rw [Function.update_self]

theorem track_setStats_of_ne {key k : String} (h : key ≠ k) (s : FrameFlow) (x : StreamStats) :
    (s.setStats k x).track key = s.track key := by
  unfold track setStats
  dsimp only
  rw [Function.update_of_ne h]

theorem track_setStats_self (key : String) (s : FrameFlow) (x : StreamStats) :
    (s.setStats key x).track key = { s.track key with stats := x } := by
  unfold track setStats
  dsimp only
  rw [Function.update_self]

theorem step_track_handleFrame (key k : String) (n time : ℕ) (written : Bool) :
    TrackStep (s.track key) (s.fate capacity key (.handleFrame k n time written))
      ((s.step capacity (.handleFrame k n time written)).track key) := by
  unfold step fate
  cases hk : s.handling k with
  | idle =>
    simp only [hk]
    by_cases hkey : key = k
    · subst hkey
      rw [track_setHandling_self, if_pos rfl]
      cases written with
      | true => exact .write n time hk
      | false => exact .fail n hk
    · rw [track_setHandling_of_ne hkey, if_neg (Ne.symm hkey)]
      exact .rest _
  | _ =>
    simp only [hk]
    exact .rest _

theorem step_track_record (key k : String) (refused : Bool) :
    TrackStep (s.track key) (s.fate capacity key (.record k refused))
      ((s.step capacity (.record k refused)).track key) := by
  unfold step fate
  cases hk : s.handling k with
  | written n time =>
    simp only [hk]
    by_cases hkey : key = k
    · subst hkey
      rw [track_setHandling_self, if_pos rfl]
      cases refused with
      | true => exact .refuse hk
      | false => exact .accept hk
    · rw [track_setHandling_of_ne hkey, if_neg (Ne.symm hkey)]
      exact .rest _
  | _ =>
    simp only [hk]
    exact .rest _

/-- A push finds room. -/
theorem step_track_push {k : String} {n time : ℕ} (hk : s.handling k = .recorded n time)
    (hroom : ¬ capacity ≤ s.queue.length) (key : String) :
    TrackStep (s.track key) (s.fate capacity key (.proceed k)) ((s.proceed capacity k).track key) := by
  have hfate : s.fate capacity key (.proceed k) = {} := by
    simp [fate, evictionOf, fullPushOf, hk, hroom]
  have hpush : s.proceed capacity k = (s.setQueue (s.queue ++ [⟨k, n, time⟩])).setHandling k .idle := by
    unfold proceed Fifo.push
    rw [hk]
    dsimp only
    rw [if_neg hroom, if_neg hroom]
  rw [hfate, hpush]
  by_cases hkey : key = k
  · subst hkey
    rw [track_setHandling_self, track_setQueue, numbersOf_concat_self]
    exact .push hk
  · rw [track_setHandling_of_ne hkey, track_setQueue, numbersOf_concat_of_ne hkey]
    exact .rest _

/-- A push drops the oldest entry. -/
theorem step_track_pushFull {k : String} {n time : ℕ} {f : ProcessedFrame} {queue : List ProcessedFrame}
    (hk : s.handling k = .recorded n time) (hqueue : s.queue = f :: queue) (hfull : capacity ≤ s.queue.length)
    (key : String) :
    TrackStep (s.track key) (s.fate capacity key (.proceed k)) ((s.proceed capacity k).track key) := by
  have hpusher : s.fullPushOf capacity (.proceed k) = some k := by
    unfold fullPushOf
    simp only [hk, if_pos hfull]
  have hfate : s.fate capacity key (.proceed k) = { evicted := f.ringName = key, pushedFull := k = key } := by
    unfold fate evictionOf
    simp [hpusher, hqueue]
  have hpush : s.proceed capacity k = (s.setQueue (queue ++ [⟨k, n, time⟩])).setHandling k .pushedOut := by
    unfold proceed Fifo.push
    rw [hk]
    dsimp only
    rw [if_pos hfull, if_pos hfull, hqueue, List.tail_cons]
  have hqueued : (s.track key).queued = numbersOf key (f :: queue) := by
    rw [← hqueue]
    rfl
  rw [hfate, hpush]
  by_cases hkey : key = k
  · subst hkey
    rw [track_setHandling_self, track_setQueue, numbersOf_concat_self]
    by_cases hf : f.ringName = key
    · rw [numbersOf_cons_self _ hf] at hqueued
      simp only [hf, decide_true]
      exact .pushOwn hk hqueued
    · rw [numbersOf_cons_of_ne _ hf] at hqueued
      simp only [hf, decide_true, decide_false]
      rw [← hqueued]
      exact .pushOther hk
  · rw [track_setHandling_of_ne hkey, track_setQueue, numbersOf_concat_of_ne hkey]
    have hpush' : ¬ k = key := Ne.symm hkey
    by_cases hf : f.ringName = key
    · rw [numbersOf_cons_self _ hf] at hqueued
      simp only [hf, hpush', decide_true, decide_false]
      exact .evict hqueued
    · rw [numbersOf_cons_of_ne _ hf] at hqueued
      simp only [hf, hpush', decide_false]
      rw [← hqueued]
      exact .rest _

theorem step_track_proceed (hcapacity : 0 < capacity) (key k : String) :
    TrackStep (s.track key) (s.fate capacity key (.proceed k)) ((s.proceed capacity k).track key) := by
  cases hk : s.handling k with
  | recorded n time =>
    by_cases hfull : capacity ≤ s.queue.length
    · cases hqueue : s.queue with
      | nil =>
        rw [hqueue, List.length_nil] at hfull
        omega
      | cons f queue => exact step_track_pushFull hk hqueue hfull key
    · exact step_track_push hk hfull key
  | _ =>
    have hfate : s.fate capacity key (.proceed k) = {} := by simp [fate, evictionOf, fullPushOf, hk]
    rw [hfate]
    unfold proceed
    simp only [hk]
    by_cases hkey : key = k
    · subst hkey
      first
        | exact .rest _
        | rw [track_setHandling_self, track_setStats_self]
          first
            | exact .countError hk
            | exact .countRefusal hk
            | exact .countEviction hk
    · first
        | exact .rest _
        | rw [track_setHandling_of_ne hkey, track_setStats_of_ne hkey]
          exact .rest _

theorem step_track_metadataLoop (key : String) :
    TrackStep (s.track key) (s.fate capacity key .metadataLoop) ((s.step capacity .metadataLoop).track key) := by
  show TrackStep (s.track key) {} (s.metadataLoop.track key)
  unfold metadataLoop
  cases hloop : s.loop with
  | waiting =>
    cases hqueue : s.queue with
    | nil => exact .rest _
    | cons f queue =>
      have htrack : s.track key = ⟨s.handling key, [], numbersOf key (f :: queue), none, s.stats key⟩ := by
        simp only [track, hloop, hqueue]
      have hafter : ({ s with queue := queue, loop := .popped f } : FrameFlow).track key =
          ⟨s.handling key, numbersOf key [f], numbersOf key queue, none, s.stats key⟩ := rfl
      simp only [htrack, hafter]
      by_cases hf : f.ringName = key
      · rw [numbersOf_cons_self _ hf, numbersOf_singleton_self hf]
        exact .pop rfl rfl
      · rw [numbersOf_cons_of_ne _ hf, numbersOf_singleton_of_ne hf]
        exact .rest _
  | popped f =>
    have htrack : s.track key = ⟨s.handling key, numbersOf key [f], numbersOf key s.queue, none, s.stats key⟩ := by
      simp only [track, hloop]
    dsimp only
    by_cases hf : f.ringName = key
    · subst hf
      rw [htrack, numbersOf_singleton_self rfl]
      have h := TrackStep.count (t := ⟨s.handling f.ringName, [f.frameNumber], numbersOf f.ringName s.queue, none,
        s.stats f.ringName⟩) f rfl
      simpa [track] using h
    · rw [htrack, numbersOf_singleton_of_ne hf]
      have h := TrackStep.publish ⟨s.handling key, [], numbersOf key s.queue, none, s.stats key⟩
      simpa [track, Function.update_of_ne (Ne.symm hf)] using h
  | publishing drops =>
    have htrack : s.track key = ⟨s.handling key, [], numbersOf key s.queue, some (drops key), s.stats key⟩ := by
      simp only [track, hloop]
    rw [htrack]
    exact .published _

/-- **One section, stream by stream.** -/
theorem step_track (hcapacity : 0 < capacity) (key : String) (e : FrameEvent) :
    TrackStep (s.track key) (s.fate capacity key e) ((s.step capacity e).track key) := by
  cases e with
  | handleFrame k n time written => exact step_track_handleFrame key k n time written
  | record k refused => exact step_track_record key k refused
  | proceed k => exact step_track_proceed hcapacity key k
  | metadataLoop => exact step_track_metadataLoop key

end FrameFlow

end CameraServer
