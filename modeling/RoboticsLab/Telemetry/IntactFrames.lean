import RoboticsLab.Telemetry.FrameResync
import Mathlib.Data.List.Infix

/-!
# Only truncated frames are lost

A stream is a list of tokens: intact frames, proper prefixes of frames, and text without braces.  Before the next
intact frame the buffer holds `Junk`: wherever a frame mark starts in it, the braces stay open whatever follows, as
what follows never closes more than it opens.  So a call skips the junk and takes the frame whole
(`findJsonResync_frame`), and where the frame is still arriving it waits and keeps the part that arrived
(`findJsonResync_wait`).

    pieces.flatten <+: text tokens →
      returned objects = objects of the frames that have arrived whole            (intact_frames_received)

The right-hand side does not mention the cuts.
-/

namespace PolicyRunner.Telemetry

open Nesting

variable {J : Type} {loads : Text → Option J} {f p q v w j : Text}

/-! ## Frames and streams -/

/-- A frame: marked at its start and only there, closed at its last character and not before, and JSON. -/
structure Frame (loads : Text → Option J) (f : Text) : Prop where
  marked : frameMark <+: f
  once : ∀ i, frameMark <+: f.drop i → i = 0
  balanced : depth braceWeight f = 0
  first : ∀ p, p <+: f → p ≠ [] → p ≠ f → depth braceWeight p ≠ 0
  json : (parse loads f).isSome

inductive Token
  | intact (frame : Text)
  | truncated (part : Text)
  | gap (text : Text)
deriving DecidableEq

def Token.text : Token → Text
  | .intact f => f
  | .truncated p => p
  | .gap g => g

def Token.Valid (loads : Text → Option J) : Token → Prop
  | .intact f => Frame loads f
  | .truncated p => ∃ f, Frame loads f ∧ p <+: f ∧ p ≠ f
  | .gap g => ∀ c ∈ g, braceWeight c = 0

def Token.frame? : Token → Option Text
  | .intact f => some f
  | .truncated _ => none
  | .gap _ => none

def text (tokens : List Token) : Text := tokens.flatMap Token.text

/-- The intact frames of a stream. -/
def frames (tokens : List Token) : List Text := tokens.filterMap Token.frame?

/-- The intact frames that lie within the first `n` characters of the stream. -/
def arrived : List Token → ℕ → List Text
  | [], _ => []
  | t :: ts, n => if t.text.length ≤ n then t.frame?.toList ++ arrived ts (n - t.text.length) else []

theorem arrived_of_le {ts : List Token} {n : ℕ} (h : (text ts).length ≤ n) : arrived ts n = frames ts := by
  induction ts generalizing n with
  | nil => rfl
  | cons t ts ih =>
    simp only [text, List.flatMap_cons, List.length_append] at h
    have hts : (text ts).length ≤ n - t.text.length := by
      simp only [text]
      omega
    rw [arrived, if_pos (by omega), ih hts]
    unfold frames
    rw [List.filterMap_cons]
    cases t.frame? with
    | none => rfl
    | some f => rfl

/-! ## Braces and marks -/

theorem neg_one_le_braceWeight (c : Char) : -1 ≤ braceWeight c := by
  unfold braceWeight
  split
  · omega
  · split
    · omega
    · omega

theorem starts_of_mark (h : frameMark <+: w) : ∃ c cs, w = c :: cs ∧ braceWeight c = 1 := by
  obtain ⟨u, rfl⟩ := h
  exact ⟨'\x7b', _, rfl, by decide⟩

/-- A part of the mark has opened a brace. -/
theorem mark_opens (h : p <+: frameMark) (hne : p ≠ []) : 0 < depth braceWeight p := by
  have hall : ∀ r ∈ frameMark.inits, r ≠ [] → 0 < depth braceWeight r := by decide
  exact hall p ((List.mem_inits p frameMark).mpr h) hne

theorem Frame.nest (h : Frame loads f) : Nest braceWeight f where
  opens := by
    obtain ⟨c, cs, rfl, hc⟩ := starts_of_mark h.marked
    exact ⟨c, cs, rfl, by omega⟩
  balanced := h.balanced
  first := h.first

theorem Frame.opens (h : Frame loads f) (hq : q <+: f) (hne : q ≠ f) (p : Text) (hp : p <+: q) (hpne : p ≠ []) :
    0 < depth braceWeight p := by
  refine h.nest.pos neg_one_le_braceWeight (hp.trans hq) hpne ?_
  rintro rfl
  exact hne (hq.eq_of_length_le hp.length_le)

/-! ## Parts of a frame -/

/-- The part of a frame that has arrived, or nothing. -/
structure Partial (q : Text) : Prop where
  opens : ∀ p, p <+: q → p ≠ [] → 0 < depth braceWeight p
  once : ∀ i, frameMark <+: q.drop i → i = 0
  short : ¬ frameMark <+: q → q.length < frameMark.length

theorem partial_nil : Partial [] where
  opens p hp hne := absurd (List.prefix_nil.mp hp) hne
  once i h := by
    rw [List.drop_nil, List.prefix_nil] at h
    exact absurd h frameMark_ne_nil
  short _ := by decide

theorem Frame.part (h : Frame loads f) (hq : q <+: f) (hne : q ≠ f) : Partial q where
  opens := h.opens hq hne
  once i hi := h.once i (hi.trans (List.IsPrefix.drop hq i))
  short hmark := by
    by_contra hlen
    exact hmark (List.prefix_of_prefix_length_le h.marked hq (by omega))

theorem Partial.nonneg (h : Partial q) : Nonneg braceWeight q := by
  intro p hp
  by_cases hne : p = []
  · simp [hne]
  · exact (h.opens p hp hne).le

/-! ## Junk -/

/-- No mark that starts in `j` is ever closed. -/
def Junk (j : Text) : Prop :=
  ∀ v, Nonneg braceWeight v → ∀ i < j.length, frameMark <+: (j ++ v).drop i →
    closing braceWeight 0 ((j ++ v).drop i) = none

theorem junk_nil : Junk [] := by
  intro v _ i hi
  simp at hi

theorem Junk.drop (h : Junk j) (k : ℕ) : Junk (j.drop k) := by
  intro v hv i hi hmark
  rw [List.length_drop] at hi
  have hle : k ≤ j.length := by omega
  rw [← List.drop_append_of_le_length hle, List.drop_drop] at hmark ⊢
  exact h v hv (k + i) (by omega) hmark

theorem Junk.append {k : Text} (hj : Junk j) (hk : Junk k) (hn : Nonneg braceWeight k) : Junk (j ++ k) := by
  intro v hv i hi hmark
  rw [List.append_assoc] at hmark ⊢
  by_cases hij : i < j.length
  · exact hj (k ++ v) (hn.append hv) i hij hmark
  · obtain ⟨d, rfl⟩ := Nat.exists_eq_add_of_le (not_lt.mp hij)
    rw [List.length_append] at hi
    rw [← List.drop_drop, List.drop_left] at hmark ⊢
    exact hk v hv d (by omega) hmark

theorem junk_gap (h : ∀ c ∈ v, braceWeight c = 0) : Junk v := by
  intro u _ i hi hmark
  obtain ⟨c, cs, hcs, hc⟩ := starts_of_mark hmark
  rw [List.drop_append_of_le_length hi.le, List.drop_eq_getElem_cons hi, List.cons_append] at hcs
  obtain ⟨rfl, -⟩ := List.cons.inj hcs
  rw [h _ (List.getElem_mem hi)] at hc
  omega

/-- A mark that starts in a truncated frame is its own, or straddles its end; neither is closed. -/
theorem Partial.junk (h : Partial q) : Junk q := by
  intro v hv i hi hmark
  rw [List.drop_append_of_le_length hi.le] at hmark ⊢
  have hne : q.drop i ≠ [] := by
    rw [Ne, List.drop_eq_nil_iff]
    omega
  refine closing_append_eq_none ?_ hne hv
  rcases List.prefix_or_prefix_of_prefix hmark (List.prefix_append (q.drop i) v) with hin | hout
  · obtain rfl := h.once i hin
    exact h.opens
  · exact fun p hp hpne => mark_opens (hp.trans hout) hpne

/-! ## One call -/

/-- The first mark at or after a place where one is. -/
theorem find_le {n : ℕ} (h : frameMark <+: w.drop n) : ∃ m ≤ n, find frameMark w = some m := by
  cases hf : find frameMark w with
  | none =>
    by_cases hn : n ≤ w.length
    · exact absurd h (find_none hf n hn)
    · rw [List.drop_eq_nil_of_le (by omega), List.prefix_nil] at h
      exact absurd h frameMark_ne_nil
  | some m =>
    refine ⟨m, ?_, rfl⟩
    by_contra hnm
    exact (find_some hf).2 n (by omega) h

/-- **A call skips the junk and returns the object of the frame.** -/
theorem findJsonResync_frame (hj : Junk j) (hf : Frame loads f) (hv : Nonneg braceWeight v) :
    ∃ x, parse loads f = some x ∧ findJsonResync loads (j ++ (f ++ v)) = (some x, v) := by
  obtain ⟨x, hx⟩ := Option.isSome_iff_exists.mp hf.json
  refine ⟨x, hx, ?_⟩
  have hfv := (hf.nest.nonneg neg_one_le_braceWeight).append hv
  induction hlen : j.length using Nat.strong_induction_on generalizing j with
  | _ length ih =>
    have hat : frameMark <+: (j ++ (f ++ v)).drop j.length := by
      rw [List.drop_left]
      exact hf.marked.trans (List.prefix_append f v)
    obtain ⟨s, hs, hfind⟩ := find_le hat
    by_cases hsj : s < j.length
    · -- a mark in the junk: on to the next one, at the frame's at the latest
      have hopen := hj (f ++ v) hfv s hsj (find_some hfind).1
      rw [findJsonResync_of_open hfind hopen]
      have hnext : frameMark <+: ((j ++ (f ++ v)).drop (s + 1)).drop (j.length - (s + 1)) := by
        rw [List.drop_drop, show s + 1 + (j.length - (s + 1)) = j.length by omega]
        exact hat
      obtain ⟨k, hk, hfind'⟩ := find_le hnext
      rw [hfind']
      dsimp only
      rw [List.drop_append_of_le_length (by omega)]
      exact ih (j.drop (s + 1 + k)).length (by rw [List.length_drop]; omega) (hj.drop _) rfl
    · obtain rfl : s = j.length := by omega
      have hpos := List.length_pos_of_ne_nil hf.nest.ne_nil
      have hclose : closing braceWeight 0 ((j ++ (f ++ v)).drop j.length) = some (f.length - 1) := by
        rw [List.drop_left]
        exact hf.nest.closing_append neg_one_le_braceWeight v
      rw [findJsonResync_of_closed hfind hclose, List.drop_left, Nat.sub_add_cancel hpos, List.take_left, hx]
      dsimp only
      rw [show j.length + (f.length - 1) + 1 = j.length + f.length by omega, ← List.drop_drop, List.drop_left,
        List.drop_left]

/-- **A call without a whole frame keeps what may become one.** -/
theorem findJsonResync_wait (loads : Text → Option J) (hj : Junk j) (hq : Partial q) :
    ∃ m, findJsonResync loads (j ++ q) = (none, j.drop m ++ q) := by
  induction hlen : j.length using Nat.strong_induction_on generalizing j with
  | _ length ih =>
    -- a mark at or behind the end of the junk is the frame's
    have hmark : ∀ i, j.length ≤ i → frameMark <+: (j ++ q).drop i → i = j.length := by
      intro i hi h
      obtain ⟨d, rfl⟩ := Nat.exists_eq_add_of_le hi
      rw [← List.drop_drop, List.drop_left] at h
      rw [hq.once d h, Nat.add_zero]
    cases hfind : find frameMark (j ++ q) with
    | none =>
      have hshort : q.length < 11 := hq.short fun h => by
        refine find_none hfind j.length (by simp) ?_
        rwa [List.drop_left]
      rw [findJsonResync_of_no_mark hfind, keepTail]
      split
      · rename_i hlong
        rw [List.length_append] at hlong ⊢
        refine ⟨j.length + q.length - 512, ?_⟩
        rw [List.drop_append_of_le_length (by omega)]
      · exact ⟨0, rfl⟩
    | some s =>
      obtain ⟨hat, -⟩ := find_some hfind
      by_cases hsj : s < j.length
      · rw [findJsonResync_of_open hfind (hj q hq.nonneg s hsj hat)]
        cases hnext : find frameMark ((j ++ q).drop (s + 1)) with
        | none => exact ⟨0, rfl⟩
        | some k =>
          dsimp only
          have hk := (find_some hnext).1
          rw [List.drop_drop] at hk
          have hle : s + 1 + k ≤ j.length := by
            by_contra hgt
            have := hmark _ (by omega) hk
            omega
          rw [List.drop_append_of_le_length hle]
          obtain ⟨m, hm⟩ := ih (j.drop (s + 1 + k)).length (by rw [List.length_drop]; omega) (hj.drop _) rfl
          exact ⟨s + 1 + k + m, by rw [hm, List.drop_drop]⟩
      · obtain rfl : s = j.length := hmark s (by omega) hat
        have hopen : closing braceWeight 0 ((j ++ q).drop j.length) = none := by
          rw [List.drop_left]
          refine closing_eq_none braceWeight fun p hp hne => ?_
          have := hq.opens p hp hne
          omega
        rw [findJsonResync_of_open hfind hopen]
        cases hnext : find frameMark ((j ++ q).drop (j.length + 1)) with
        | none => exact ⟨0, rfl⟩
        | some k =>
          have hk := (find_some hnext).1
          rw [List.drop_drop] at hk
          have := hmark _ (by omega) hk
          omega

/-! ## The calls after a read -/

theorem drain_frame (hj : Junk j) (hf : Frame loads f) (hv : Nonneg braceWeight v) :
    ∃ x, parse loads f = some x ∧ drain loads (j ++ (f ++ v)) = (x :: (drain loads v).1, (drain loads v).2) := by
  obtain ⟨x, hx, hcall⟩ := findJsonResync_frame hj hf hv
  refine ⟨x, hx, ?_⟩
  rw [drain]
  split
  · rename_i h
    rw [hcall] at h
    cases h
  · rename_i h
    rw [hcall] at h
    cases h
    rfl

theorem drain_wait (loads : Text → Option J) (hj : Junk j) (hq : Partial q) :
    ∃ m, drain loads (j ++ q) = ([], j.drop m ++ q) := by
  obtain ⟨m, hcall⟩ := findJsonResync_wait loads hj hq
  refine ⟨m, ?_⟩
  rw [drain]
  split
  · rename_i h
    rw [hcall] at h
    cases h
    rfl
  · rename_i h
    rw [hcall] at h
    cases h

/-! ## The stream -/

theorem Token.Valid.nonneg {t : Token} (h : t.Valid loads) : Nonneg braceWeight t.text := by
  cases t with
  | intact f => exact Frame.nest h |>.nonneg neg_one_le_braceWeight
  | truncated p =>
    obtain ⟨f, hf, hp, -⟩ := h
    exact (hf.nest.nonneg neg_one_le_braceWeight).of_isPrefix hp
  | gap g => exact nonneg_of_forall h

variable {ts ts' ts'' : List Token}

theorem nonneg_text (h : ∀ t ∈ ts, t.Valid loads) : Nonneg braceWeight (text ts) := by
  induction ts with
  | nil => exact nonneg_nil
  | cons t ts ih => exact (h t (by simp)).nonneg.append (ih fun u hu => h u (by simp [hu]))

/-- After the part `w` of the stream `ts`, the buffer goes on with the part `q` of the stream `ts'`. -/
structure Resumes (loads : Text → Option J) (ts : List Token) (w : Text) (ts' : List Token) (q : Text) : Prop where
  valid : ∀ t ∈ ts', t.Valid loads
  text : ∀ rest, text ts = w ++ rest → text ts' = q ++ rest
  arrived : ∀ k, arrived ts (w.length + k) = arrived ts w.length ++ arrived ts' (q.length + k)

theorem Resumes.trans {c q' : Text} (h : Resumes loads ts w ts' q) (h' : Resumes loads ts' (q ++ c) ts'' q') :
    Resumes loads ts (w ++ c) ts'' q' ∧
      Telemetry.arrived ts (w ++ c).length =
        Telemetry.arrived ts w.length ++ Telemetry.arrived ts' (q ++ c).length := by
  have hc := h.arrived c.length
  rw [← List.length_append, ← List.length_append] at hc
  refine ⟨⟨h'.valid, fun rest hrest => ?_, fun k => ?_⟩, hc⟩
  · refine h'.text rest ?_
    rw [List.append_assoc] at hrest ⊢
    exact h.text (c ++ rest) hrest
  · have hk := h'.arrived k
    have hck := h.arrived (c.length + k)
    rw [List.length_append] at hk hc ⊢
    rw [Nat.add_assoc] at hk ⊢
    rw [hck, hk, hc, List.length_append, List.append_assoc]

/-- A token that has arrived whole. -/
theorem Resumes.cons {t : Token} (h : Resumes loads ts w ts' q) : Resumes loads (t :: ts) (t.text ++ w) ts' q where
  valid := h.valid
  text rest hrest := by
    refine h.text rest ?_
    simp only [Telemetry.text, List.flatMap_cons, List.append_assoc] at hrest ⊢
    exact List.append_cancel_left hrest
  arrived k := by
    have hk := h.arrived k
    simp only [Telemetry.arrived, List.length_append]
    rw [if_pos (by omega), if_pos (by omega),
      show t.text.length + w.length + k - t.text.length = w.length + k by omega,
      show t.text.length + w.length - t.text.length = w.length by omega, hk, List.append_assoc]

/-- A frame or a truncated frame that is still arriving. -/
theorem resumes_self (hv : ∀ t ∈ ts, t.Valid loads) (h : Telemetry.arrived ts q.length = []) :
    Resumes loads ts q ts q where
  valid := hv
  text rest hrest := hrest
  arrived k := by rw [h, List.nil_append]

/-- **A read.**  The buffer holds junk and the part `w` of a stream. -/
theorem drain_prefix (hv : ∀ t ∈ ts, t.Valid loads) (hj : Junk j) (hw : w <+: text ts) :
    ∃ j' q ts', (drain loads (j ++ w)).2 = j' ++ q ∧ Junk j' ∧ Resumes loads ts w ts' q ∧
      (drain loads (j ++ w)).1.map some = (arrived ts w.length).map (parse loads) := by
  induction ts generalizing j w with
  | nil =>
    obtain rfl : w = [] := List.prefix_nil.mp hw
    obtain ⟨m, hm⟩ := drain_wait loads hj partial_nil
    refine ⟨j.drop m, [], [], by rw [hm], hj.drop m, ⟨by simp, fun rest h => h, fun k => rfl⟩, by rw [hm]; rfl⟩
  | cons t ts ih =>
    have ht := hv t (by simp)
    have hts : ∀ u ∈ ts, u.Valid loads := fun u hu => hv u (by simp [hu])
    simp only [text, List.flatMap_cons] at hw
    by_cases hlen : t.text.length ≤ w.length
    · -- the token is whole
      have htw := List.prefix_of_prefix_length_le (List.prefix_append t.text _) hw hlen
      obtain ⟨w, rfl⟩ := htw
      have hw' : w <+: text ts := (List.prefix_append_right_inj t.text).mp hw
      have hnw := (nonneg_text hts).of_isPrefix hw'
      have harr : arrived (t :: ts) (t.text ++ w).length = t.frame?.toList ++ arrived ts w.length := by
        rw [arrived, if_pos (by simp), List.length_append, Nat.add_sub_cancel_left]
      have skip (hjunk : Junk t.text) (hnone : t.frame? = none) :
          ∃ j' q ts', (drain loads (j ++ (t.text ++ w))).2 = j' ++ q ∧ Junk j' ∧
            Resumes loads (t :: ts) (t.text ++ w) ts' q ∧
            (drain loads (j ++ (t.text ++ w))).1.map some =
              (arrived (t :: ts) (t.text ++ w).length).map (parse loads) := by
        obtain ⟨j', q, ts', hbuf, hj', hres, hobj⟩ := ih hts (hj.append hjunk ht.nonneg) hw'
        rw [List.append_assoc] at hbuf hobj
        refine ⟨j', q, ts', hbuf, hj', hres.cons, ?_⟩
        rw [hobj, harr, hnone]
        rfl
      cases t with
      | intact f =>
        obtain ⟨x, hx, hdrain⟩ := drain_frame hj ht hnw
        obtain ⟨j', q, ts', hbuf, hj', hres, hobj⟩ := ih hts junk_nil hw'
        rw [List.nil_append] at hbuf hobj
        have hdrain' : drain loads (j ++ ((Token.intact f).text ++ w)) = (x :: (drain loads w).1, (drain loads w).2) :=
          hdrain
        refine ⟨j', q, ts', ?_, hj', hres.cons, ?_⟩
        · rw [hdrain']
          exact hbuf
        · rw [hdrain', harr, List.map_cons, hobj, ← hx]
          rfl
      | truncated p =>
        obtain ⟨f, hf, hp, hne⟩ := ht
        exact skip (hf.part hp hne).junk rfl
      | gap g => exact skip (junk_gap ht) rfl
    · -- a part of the token
      have hpart : w <+: t.text := List.prefix_of_prefix_length_le hw (List.prefix_append _ _) (by omega)
      have harr : arrived (t :: ts) w.length = [] := by rw [arrived, if_neg hlen]
      have wait (hq : Partial w) : ∃ j' q ts', (drain loads (j ++ w)).2 = j' ++ q ∧ Junk j' ∧
          Resumes loads (t :: ts) w ts' q ∧
          (drain loads (j ++ w)).1.map some = (arrived (t :: ts) w.length).map (parse loads) := by
        obtain ⟨m, hm⟩ := drain_wait loads hj hq
        refine ⟨j.drop m, w, t :: ts, by rw [hm], hj.drop m, resumes_self hv harr, ?_⟩
        rw [hm, harr]
        rfl
      have hne : w ≠ t.text := fun h => hlen (by rw [h])
      cases t with
      | intact f => exact wait (Frame.part ht hpart hne)
      | truncated p =>
        obtain ⟨f, hf, hp, -⟩ := ht
        refine wait (hf.part (hpart.trans hp) ?_)
        rintro rfl
        exact hne (hpart.eq_of_length_le hp.length_le)
      | gap g =>
        -- text without braces is junk as far as it has arrived
        obtain ⟨g', rfl⟩ : ∃ g', w ++ g' = g := hpart
        have hg : ∀ c ∈ w, braceWeight c = 0 := fun c hc => ht c (List.mem_append_left g' hc)
        obtain ⟨m, hm⟩ := drain_wait loads (hj.append (junk_gap hg) (nonneg_of_forall hg)) partial_nil
        rw [List.append_nil, List.append_nil] at hm
        refine ⟨(j ++ w).drop m, [], .gap g' :: ts, by rw [hm, List.append_nil],
          (hj.append (junk_gap hg) (nonneg_of_forall hg)).drop m, ⟨?_, fun rest hrest => ?_, fun k => ?_⟩, ?_⟩
        · intro u hu
          rcases List.mem_cons.mp hu with rfl | hu
          · exact fun c hc => ht c (List.mem_append_right w hc)
          · exact hts u hu
        · simp only [text, List.flatMap_cons, Token.text, List.append_assoc] at hrest ⊢
          exact List.append_cancel_left hrest
        · rw [harr, List.nil_append]
          simp only [arrived, Token.text, Token.frame?, List.length_append, List.length_nil, Nat.zero_add]
          by_cases hk : g'.length ≤ k
          · rw [if_pos (by omega), if_pos hk, show w.length + k - (w.length + g'.length) = k - g'.length by omega]
          · rw [if_neg (by omega), if_neg hk]
        · rw [hm, harr]
          rfl

theorem arrived_zero (hv : ∀ t ∈ ts, t.Valid loads) : arrived ts 0 = [] := by
  induction ts with
  | nil => rfl
  | cons t ts ih =>
    rw [arrived]
    split
    · rename_i hlen
      rw [Nat.zero_sub, ih fun u hu => hv u (by simp [hu]), List.append_nil]
      cases t with
      | intact f =>
        have hne := (Frame.nest (hv (.intact f) (by simp))).ne_nil
        exact absurd (List.length_eq_zero_iff.mp (Nat.le_zero.mp hlen)) hne
      | truncated p => rfl
      | gap g => rfl
    · rfl

/-- **Whole runs.**  After any pieces the buffer holds junk and the part of the stream that is still arriving. -/
theorem receiveAll_prefix (hv : ∀ t ∈ ts, t.Valid loads) (pieces : List Text) (hp : pieces.flatten <+: text ts) :
    ∃ j q ts', (receiveAll loads pieces).2 = j ++ q ∧ Junk j ∧ Resumes loads ts pieces.flatten ts' q ∧
      (receiveAll loads pieces).1.map some = (arrived ts pieces.flatten.length).map (parse loads) := by
  induction pieces using List.reverseRecOn with
  | nil =>
    refine ⟨[], [], ts, rfl, junk_nil, resumes_self hv (arrived_zero hv), ?_⟩
    rw [List.flatten_nil, List.length_nil, arrived_zero hv]
    rfl
  | append_singleton pieces c ih =>
    have hflat : (pieces ++ [c]).flatten = pieces.flatten ++ c := by simp
    rw [hflat] at hp ⊢
    obtain ⟨j, q, ts', hbuf, hj, hres, hobj⟩ := ih ((List.prefix_append _ c).trans hp)
    obtain ⟨rest, hrest⟩ := hp
    have htext := hres.text (c ++ rest) (by rw [← hrest, List.append_assoc])
    obtain ⟨j', q', ts'', hbuf', hj', hres', hobj'⟩ := drain_prefix (w := q ++ c) hres.valid hj
      ⟨rest, by rw [htext, List.append_assoc]⟩
    have hstep : receiveAll loads (pieces ++ [c]) = receive loads (receiveAll loads pieces) c := by
      simp [receiveAll]
    rw [← List.append_assoc, ← hbuf] at hbuf' hobj'
    obtain ⟨htrans, harr⟩ := hres.trans hres'
    refine ⟨j', q', ts'', ?_, hj', htrans, ?_⟩
    · rw [hstep]
      exact hbuf'
    · rw [hstep, harr, List.map_append, ← hobj, ← hobj', ← List.map_append]
      rfl

/-- At any time the objects returned are those of the intact frames that have arrived, in order and each once, and at
the end of the stream those of all its intact frames; the cuts do not matter. -/
theorem intact_frames_received (loads : Text → Option J) (tokens : List Token)
    (hv : ∀ t ∈ tokens, t.Valid loads) (pieces : List Text) (hp : pieces.flatten <+: text tokens) :
    (receiveAll loads pieces).1.map some = (arrived tokens pieces.flatten.length).map (parse loads) ∧
      (pieces.flatten = text tokens → (receiveAll loads pieces).1.map some = (frames tokens).map (parse loads)) ∧
      ∀ pieces' : List Text, pieces'.flatten = pieces.flatten →
        (receiveAll loads pieces').1 = (receiveAll loads pieces).1 := by
  have hall : ∀ ps : List Text, ps.flatten <+: text tokens →
      (receiveAll loads ps).1.map some = (arrived tokens ps.flatten.length).map (parse loads) := by
    intro ps hps
    obtain ⟨_, _, _, _, _, _, hobj⟩ := receiveAll_prefix hv ps hps
    exact hobj
  refine ⟨hall pieces hp, fun hend => ?_, fun pieces' hflat => ?_⟩
  · rw [hall pieces hp, arrived_of_le (by rw [hend])]
  · have h := hall pieces' (by rw [hflat]; exact hp)
    rw [hflat, ← hall pieces hp] at h
    exact List.map_injective_iff.mpr (Option.some_injective _) h

def sampleFrame : Text := "\x7b\r\n\"motor\":1\x7d".toList

def sampleLoads (raw : Text) : Option (List (String × ℕ)) :=
  if raw = sampleFrame then some [("motor", 1)] else none

def sampleTokens : List Token := [.truncated "\x7b\r\n\"motor\":".toList, .gap ['\r'], .intact sampleFrame]

theorem parse_sampleFrame : parse sampleLoads sampleFrame = some [("motor", 1)] := by
  rw [parse, dropTrailingCommas_of_no_comma (by decide)]
  rfl

theorem sampleFrame_frame : Frame sampleLoads sampleFrame where
  marked := by decide
  once i hi := by
    have hall : ∀ i < 14, frameMark.isPrefixOf (sampleFrame.drop i) = true → i = 0 := by decide
    by_cases h : i < 14
    · exact hall i h (List.isPrefixOf_iff_prefix.mpr hi)
    · rw [List.drop_eq_nil_of_le (by show 13 ≤ i; omega), List.prefix_nil] at hi
      exact absurd hi frameMark_ne_nil
  balanced := by decide
  first p hp := by
    have hall : ∀ r ∈ sampleFrame.inits, r ≠ [] → r ≠ sampleFrame → depth braceWeight r ≠ 0 := by decide
    exact hall p ((List.mem_inits p sampleFrame).mpr hp)
  json := by rw [parse_sampleFrame]; rfl

theorem sampleTokens_valid : ∀ t ∈ sampleTokens, t.Valid sampleLoads := by
  intro t ht
  simp only [sampleTokens, List.mem_cons, List.not_mem_nil, or_false] at ht
  rcases ht with rfl | rfl | rfl
  · exact ⟨sampleFrame, sampleFrame_frame, by decide, by decide⟩
  · show ∀ c ∈ ['\r'], braceWeight c = 0
    intro c hc
    rw [List.mem_singleton.mp hc]
    rfl
  · exact sampleFrame_frame

/-- A frame behind a truncated one, cut into two reads within its mark. -/
theorem intact_frames_received_sample :
    (receiveAll sampleLoads [(text sampleTokens).take 16, (text sampleTokens).drop 16]).1.map some =
      [some [("motor", 1)]] := by
  have h := (intact_frames_received sampleLoads sampleTokens sampleTokens_valid
    [(text sampleTokens).take 16, (text sampleTokens).drop 16] (by decide)).2.1 (by decide)
  rw [h]
  show [parse sampleLoads sampleFrame] = _
  rw [parse_sampleFrame]

end PolicyRunner.Telemetry
