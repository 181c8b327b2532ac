import RoboticsLab.Camera.PushRuns
import Mathlib.Data.List.DropRight

/-!
# The frames a software bundle chooses

Facts about one selection: the first of the nearest frames is chosen (`nearest_split`), losing frames that
are too old or beaten for good changes no choice that matters (`nearest_agrees`), a complete selection lies
within the limit of its master frame, its bundle time is halfway between its frames (`bundleOf_midway`), and
the pruning cuts exactly what is further than the limit behind the master frame (`lt_horizonNs_iff`).
-/

namespace CameraServer

namespace FrameSynchronizer

/-! ## The nearest frame -/

theorem timeDiff_lt_of_later {a b t t' : ℕ} (hab : a < b) (h : timeDiff b t < timeDiff a t) (ht : t ≤ t') :
    timeDiff b t' < timeDiff a t' := by
  unfold timeDiff at *
  split at h <;> split at h <;> split <;> split <;> omega

theorem timeDiff_of_le {a t : ℕ} (h : a ≤ t) : timeDiff a t = t - a := by
  unfold timeDiff
  split <;> omega

/-- The first of the nearest frames is chosen. -/
theorem nearest_split {frames : List StreamFrame} {t : ℕ} {g : StreamFrame}
    (h : nearestByTimestamp frames t = some g) :
    ∃ pre post, frames = pre ++ g :: post ∧
      (∀ f ∈ pre, timeDiff g.hostArrivalTimeNs t < timeDiff f.hostArrivalTimeNs t) ∧
      ∀ f ∈ post, timeDiff g.hostArrivalTimeNs t ≤ timeDiff f.hostArrivalTimeNs t := by
  induction frames using List.reverseRecOn generalizing g with
  | nil => cases h
  | append_singleton frames f ih =>
    rw [nearestByTimestamp_append] at h
    cases hbest : nearestByTimestamp frames t with
    | none =>
      rw [hbest] at h
      cases h
      exact ⟨frames, [], rfl, by simp [nearestByTimestamp_none hbest], by simp⟩
    | some b =>
      rw [hbest, nearer] at h
      split at h
      · next hlt =>
        cases h
        refine ⟨frames, [], rfl, fun x hx => ?_, by simp⟩
        exact hlt.trans_le ((nearestByTimestamp_spec frames t hbest).2 x hx)
      · next hge =>
        cases h
        obtain ⟨pre, post, rfl, hpre, hpost⟩ := ih hbest
        refine ⟨pre, post ++ [f], by simp, hpre, fun x hx => ?_⟩
        rcases List.mem_append.mp hx with hx | hx
        · exact hpost x hx
        · rw [List.mem_singleton.mp hx]
          exact not_lt.mp hge

theorem nearest_of_split {pre post : List StreamFrame} {t : ℕ} {g : StreamFrame}
    (hpre : ∀ f ∈ pre, timeDiff g.hostArrivalTimeNs t < timeDiff f.hostArrivalTimeNs t)
    (hpost : ∀ f ∈ post, timeDiff g.hostArrivalTimeNs t ≤ timeDiff f.hostArrivalTimeNs t) :
    nearestByTimestamp (pre ++ g :: post) t = some g := by
  induction post using List.reverseRecOn with
  | nil =>
    rw [nearestByTimestamp_append]
    cases hbest : nearestByTimestamp pre t with
    | none => rfl
    | some b => exact if_pos (hpre b (nearestByTimestamp_spec pre t hbest).1)
  | append_singleton post f ih =>
    rw [← List.cons_append, ← List.append_assoc, nearestByTimestamp_append,
      ih fun x hx => hpost x (List.mem_append_left _ hx)]
    exact if_neg (not_lt.mpr (hpost f (by simp)))

/-- A frame that a buffer may lose after a bundle with master frame `m` and chosen frame `g`: it is too old,
or older than `g`. -/
def Dead (limitNs : ℕ) (m g f : StreamFrame) : Prop :=
  (f.hostArrivalTimeNs ≤ m.hostArrivalTimeNs ∧ limitNs < m.hostArrivalTimeNs - f.hostArrivalTimeNs) ∨
    f.hostArrivalTimeNs < g.hostArrivalTimeNs

/-- Too far from the master's time to be in a complete bundle. -/
def Far (limitNs t : ℕ) (o : Option StreamFrame) : Prop :=
  ∀ f ∈ o, limitNs < timeDiff f.hostArrivalTimeNs t

/-- **Losing dead frames changes no choice that matters**, for any later master time `t`. -/
theorem nearest_agrees {limitNs : ℕ} {whole lost kept : List StreamFrame} {m g : StreamFrame} {t : ℕ}
    (hwhole : whole = lost ++ kept) (hg : g ∈ kept)
    (hnear : ∀ f ∈ whole, f.hostArrivalTimeNs < g.hostArrivalTimeNs →
      timeDiff g.hostArrivalTimeNs m.hostArrivalTimeNs < timeDiff f.hostArrivalTimeNs m.hostArrivalTimeNs)
    (hdead : ∀ f ∈ lost, Dead limitNs m g f) (ht : m.hostArrivalTimeNs ≤ t) :
    nearestByTimestamp kept t = nearestByTimestamp whole t ∨
      Far limitNs t (nearestByTimestamp kept t) ∧ Far limitNs t (nearestByTimestamp whole t) := by
  have hgw : g ∈ whole := by rw [hwhole]; exact List.mem_append_right _ hg
  cases hn : nearestByTimestamp whole t with
  | none =>
    rw [nearestByTimestamp_none hn] at hgw
    exact absurd hgw List.not_mem_nil
  | some h =>
    obtain ⟨hmem, hmin⟩ := nearestByTimestamp_spec whole t hn
    obtain ⟨pre, post, hsplit, hpre, hpost⟩ := nearest_split hn
    rw [hwhole] at hsplit
    rcases List.append_eq_append_iff.mp hsplit with ⟨as, rfl, hkept⟩ | ⟨bs, hlost, hrest⟩
    · -- the chosen frame is among the kept ones
      left
      rw [hkept]
      exact nearest_of_split (fun f hf => hpre f (List.mem_append_right _ hf)) hpost
    · cases bs with
      | nil =>
        left
        rw [List.nil_append] at hrest
        rw [← hrest]
        exact nearest_of_split (List.forall_mem_nil _) hpost
      | cons b bs =>
        -- the chosen frame is lost: it can only be too old
        rw [List.cons_append] at hrest
        obtain ⟨rfl, -⟩ := List.cons.inj hrest
        have hfar : limitNs < timeDiff h.hostArrivalTimeNs t := by
          rcases hdead h (by rw [hlost]; simp) with ⟨hle, hlim⟩ | hlt
          · rw [timeDiff_of_le (hle.trans ht)]
            exact hlim.trans_le (Nat.sub_le_sub_right ht _)
          · have hnearer := timeDiff_lt_of_later hlt (hnear h hmem hlt) ht
            exact absurd (hmin g hgw) (not_le.mpr hnearer)
        right
        constructor
        · intro f hf
          have hfk := (nearestByTimestamp_spec kept t hf).1
          exact hfar.trans_le (hmin f (by rw [hwhole]; exact List.mem_append_right _ hfk))
        · intro f hf
          obtain rfl := Option.some.inj hf
          exact hfar

/-! ## Complete selections -/

section Selections

variable {c : SynchronizerConfig} {buffers buffers' : String → List StreamFrame} {master : StreamFrame}

/-- The loop looks at the candidates alone. -/
theorem select_congr
    (h : ∀ key ∈ c.group.requiredStreams, candidate c buffers master key = candidate c buffers' master key) :
    select c buffers master = select c buffers' master := by
  rw [select, select]
  generalize (⟨_, _, _, _⟩ : Selection) = sel
  generalize c.group.requiredStreams = keys at h ⊢
  induction keys generalizing sel with
  | nil => rfl
  | cons key keys ih =>
    rw [List.foldl_cons, List.foldl_cons, selectKey, selectKey, h key List.mem_cons_self]
    exact ih _ fun k hk => h k (List.mem_cons_of_mem _ hk)

/-- How far behind the master frame the pruning begins. -/
def limitNs (c : SynchronizerConfig) : ℕ := (c.group.maxBundleTimeDiffMs.mul (.fin (10 ^ 6))).round.toU64

/-- What is further than that is over the limit in ms as well. -/
def CutsBeyondLimit (c : SynchronizerConfig) : Prop :=
  c.group.maxBundleTimeDiffMs.lt (.ofNatDiv (limitNs c + 1) (10 ^ 6)) = true

/-- A whole number of ms is both limits exactly. -/
theorem cutsBeyondLimit_of_whole {n : ℕ} (hn : n ≤ 10 ^ 9) (h : c.group.maxBundleTimeDiffMs = .fin n) :
    CutsBeyondLimit c := by
  have hns : limitNs c = n * 10 ^ 6 := by
    have hround : (Double.mul (.fin n) (.fin (10 ^ 6))).round = .fin (n * 10 ^ 6 : ℕ) := by
      have hexact := Double.ofRat_natCast (n := n * 10 ^ 6) (by omega)
      rw [← hexact, Double.mul, Double.round]
      push_cast
      rfl
    rw [limitNs, h, hround, Double.toU64, Int.floor_natCast, Int.toNat_natCast, u64_of_lt (by omega)]
  rw [CutsBeyondLimit, hns, h]
  exact Double.lt_ofNatDiv (d := 10 ^ 6) (by norm_num) (by norm_num) (by omega) (Nat.lt_succ_self _)

/-- A complete selection has a candidate of every stream within the limit of the master's time. -/
theorem candidate_of_complete (hcut : CutsBeyondLimit c)
    (hmaster : master.ringName ∈ c.group.requiredStreams) (hc : (select c buffers master).isComplete c = true)
    {key : String} (hkey : key ∈ c.group.requiredStreams) :
    ∃ f, candidate c buffers master key = some f ∧ (select c buffers master).selected key = some f ∧
      timeDiff f.hostArrivalTimeNs master.hostArrivalTimeNs ≤ limitNs c := by
  have hsel := select_selected c buffers master
  have hlimit : c.group.maxBundleTimeDiffMs ≠ .nan := by
    intro hnan
    rw [CutsBeyondLimit, hnan] at hcut
    cases hcut
  have hall : (select c buffers master).complete = true := by
    rw [Selection.isComplete, Bool.and_eq_true] at hc
    exact hc.1
  obtain ⟨f, hf, hcand, -, -⟩ := hsel.found hall key hkey
  refine ⟨f, hcand, hf, ?_⟩
  have hwithin : ∀ {x y : StreamFrame}, (skewMs x y).le c.group.maxBundleTimeDiffMs →
      x.hostArrivalTimeNs - y.hostArrivalTimeNs ≤ limitNs c := by
    intro x y hle
    by_contra hgt
    have hmono : (Double.ofNatDiv (limitNs c + 1) (10 ^ 6)).le (skewMs x y) :=
      Double.ofNatDiv_mono (not_le.mp hgt) (by norm_num)
    rw [Double.not_le_of_lt (Double.lt_of_lt_of_le hcut hmono)] at hle
    cases hle
  have h1 := hwithin (hsel.skew hc hlimit hkey hmaster hf hsel.master)
  have h2 := hwithin (hsel.skew hc hlimit hmaster hkey hsel.master hf)
  unfold timeDiff
  split
  · exact h1
  · exact h2

variable (c buffers master) in
/-- What the loop's bounds come from: where they started, or a candidate. -/
theorem foldl_selectKey_bounds (keys : List String) (sel : Selection) :
    ((keys.foldl (selectKey c buffers master) sel).minT = sel.minT ∨
      ∃ key ∈ keys, ∃ f, candidate c buffers master key = some f ∧
        f.hostArrivalTimeNs = (keys.foldl (selectKey c buffers master) sel).minT) ∧
    ((keys.foldl (selectKey c buffers master) sel).maxT = sel.maxT ∨
      ∃ key ∈ keys, ∃ f, candidate c buffers master key = some f ∧
        f.hostArrivalTimeNs = (keys.foldl (selectKey c buffers master) sel).maxT) := by
  induction keys generalizing sel with
  | nil => exact ⟨.inl rfl, .inl rfl⟩
  | cons key keys ih =>
    rw [List.foldl_cons]
    obtain ⟨hmin, hmax⟩ := ih (selectKey c buffers master sel key)
    have hstep : ((selectKey c buffers master sel key).minT = sel.minT ∨
        ∃ f, candidate c buffers master key = some f ∧
          f.hostArrivalTimeNs = (selectKey c buffers master sel key).minT) ∧
        ((selectKey c buffers master sel key).maxT = sel.maxT ∨
        ∃ f, candidate c buffers master key = some f ∧
          f.hostArrivalTimeNs = (selectKey c buffers master sel key).maxT) := by
      unfold selectKey
      split
      · exact ⟨.inl rfl, .inl rfl⟩
      · next f hf =>
        split
        · constructor
          · rcases min_choice sel.minT f.hostArrivalTimeNs with h | h
            · exact .inl h
            · exact .inr ⟨f, hf, h.symm⟩
          · rcases max_choice sel.maxT f.hostArrivalTimeNs with h | h
            · exact .inl h
            · exact .inr ⟨f, hf, h.symm⟩
        · exact ⟨.inl rfl, .inl rfl⟩
    constructor
    · rcases hmin with h | ⟨k, hk, f, hf, ht⟩
      · rw [h]
        exact hstep.1.imp_right fun ⟨f, hf, ht⟩ => ⟨key, List.mem_cons_self, f, hf, ht⟩
      · exact .inr ⟨k, List.mem_cons_of_mem _ hk, f, hf, ht⟩
    · rcases hmax with h | ⟨k, hk, f, hf, ht⟩
      · rw [h]
        exact hstep.2.imp_right fun ⟨f, hf, ht⟩ => ⟨key, List.mem_cons_self, f, hf, ht⟩
      · exact .inr ⟨k, List.mem_cons_of_mem _ hk, f, hf, ht⟩

/-- The time of a bundle lies halfway between its earliest and its latest frame. -/
structure Midway (c : SynchronizerConfig) (b : FrameBundleMeta) (lo hi : ℕ) : Prop where
  time : b.bundleTimeNs = lo + (hi - lo) / 2
  bounds : ∀ key ∈ c.group.requiredStreams, ∃ f, b.frames key = some f ∧
    lo ≤ f.hostArrivalTimeNs ∧ f.hostArrivalTimeNs ≤ hi
  earliest : ∃ key f, b.frames key = some f ∧ f.hostArrivalTimeNs = lo
  latest : ∃ key f, b.frames key = some f ∧ f.hostArrivalTimeNs = hi

theorem bundleOf_midway (s : FrameSynchronizer) (hmaster : master.ringName ∈ c.group.requiredStreams)
    (hc : (select c buffers master).isComplete c = true) (drops : List (String × ℕ)) :
    ∃ lo hi, Midway c (s.bundleOf c (select c buffers master) master drops) lo hi := by
  have hsel := select_selected c buffers master
  have hall : (select c buffers master).complete = true := by
    rw [Selection.isComplete, Bool.and_eq_true] at hc
    exact hc.1
  obtain ⟨m, hm, -, -, hmin, hmax⟩ := hsel.found hall _ hmaster
  obtain rfl : master = m := Option.some.inj (hsel.master.symm.trans hm)
  have hw := master.hostArrivalTimeNs_lt
  have hu : uint64Max = 2 ^ 64 - 1 := rfl
  have hattained : ∀ {t : ℕ}, (∃ key ∈ c.group.requiredStreams, ∃ f, candidate c buffers master key = some f ∧
      f.hostArrivalTimeNs = t) → ∃ key f, (select c buffers master).selected key = some f ∧
        f.hostArrivalTimeNs = t := by
    rintro t ⟨key, hkey, f, hf, rfl⟩
    obtain ⟨g, hg, hcg, -⟩ := hsel.found hall key hkey
    obtain rfl : f = g := Option.some.inj (hf.symm.trans hcg)
    exact ⟨key, f, hg, rfl⟩
  obtain ⟨hlo, hhi⟩ := foldl_selectKey_bounds c buffers master c.group.requiredStreams
    ⟨Function.update (fun _ => none) master.ringName (some master), true, uint64Max, 0⟩
  rw [← select] at hlo hhi
  refine ⟨(select c buffers master).minT, (select c buffers master).maxT, ?_, ?_, ?_, ?_⟩
  · show (if (select c buffers master).minT = uint64Max then master.hostArrivalTimeNs else _) = _
    split
    · next he =>
      -- all times are the greatest one
      have hle : (select c buffers master).maxT ≤ uint64Max := by
        rcases hhi with h | h
        · rw [h]
          exact Nat.zero_le _
        · obtain ⟨key, f, -, ht⟩ := hattained h
          have := f.hostArrivalTimeNs_lt
          omega
      omega
    · rfl
  · intro key hkey
    obtain ⟨f, hf, -, -, h1, h2⟩ := hsel.found hall key hkey
    exact ⟨f, hf, h1, h2⟩
  · rcases hlo with h | h
    · exact ⟨_, master, hm, by dsimp only at h; omega⟩
    · exact hattained h
  · rcases hhi with h | h
    · exact ⟨_, master, hm, by dsimp only at h; omega⟩
    · exact hattained h

/-- The midpoints follow the frames. -/
theorem Midway.le {b b' : FrameBundleMeta} {lo hi lo' hi' : ℕ} (h : Midway c b lo hi) (h' : Midway c b' lo' hi')
    (hkeys : ∀ key f, b.frames key = some f → key ∈ c.group.requiredStreams)
    (hkeys' : ∀ key f, b'.frames key = some f → key ∈ c.group.requiredStreams)
    (hle : ∀ key f f', b.frames key = some f → b'.frames key = some f' → f.hostArrivalTimeNs ≤ f'.hostArrivalTimeNs) :
    b.bundleTimeNs ≤ b'.bundleTimeNs := by
  obtain ⟨k, f', hf', rfl⟩ := h'.earliest
  obtain ⟨f, hf, hlo, -⟩ := h.bounds k (hkeys' k f' hf')
  obtain ⟨k', g, hg, rfl⟩ := h.latest
  obtain ⟨g', hg', -, hhi⟩ := h'.bounds k' (hkeys k' g hg)
  have h1 := hle k f f' hf hf'
  have h2 := hle k' g g' hg hg'
  obtain ⟨x, hx, hx1, hx2⟩ := h.bounds k' (hkeys k' g hg)
  obtain ⟨y, hy, hy1, hy2⟩ := h'.bounds k' (hkeys k' g hg)
  rw [h.time, h'.time]
  omega

end Selections

/-! ## What is cut -/

section Cuts

variable {c : SynchronizerConfig}

/-- In an ordered list, what a buffer of `n` frames drops is earlier than `t` when few are not. -/
theorem lt_of_mem_take {l : List StreamFrame} {t n : ℕ}
    (hl : l.Pairwise fun f g => f.hostArrivalTimeNs ≤ g.hostArrivalTimeNs)
    (hfew : (l.filter fun f => t ≤ f.hostArrivalTimeNs).length ≤ n) {f : StreamFrame}
    (hf : f ∈ l.take (l.length - n)) : f.hostArrivalTimeNs < t := by
  by_contra hge
  rw [not_lt] at hge
  have hpos : 0 < (l.take (l.length - n)).length := List.length_pos_of_mem hf
  rw [List.length_take] at hpos
  rw [← List.take_append_drop (l.length - n) l, List.pairwise_append] at hl
  have hdrop : (l.drop (l.length - n)).filter (fun f => decide (t ≤ f.hostArrivalTimeNs)) =
      l.drop (l.length - n) := by
    apply List.filter_eq_self.mpr
    intro g hg
    exact decide_eq_true (hge.trans (hl.2.2 f hf g hg))
  have htake : 0 < ((l.take (l.length - n)).filter fun f => decide (t ≤ f.hostArrivalTimeNs)).length :=
    List.length_pos_of_mem (List.mem_filter.mpr ⟨hf, decide_eq_true hge⟩)
  rw [← List.take_append_drop (l.length - n) l, List.filter_append, List.length_append, hdrop,
    List.length_drop] at hfew
  omega

theorem pruneBuffers_of_notMem (complete : Bool) (master : StreamFrame) (buffers : String → List StreamFrame)
    {keys : List String} {key : String} (h : key ∉ keys) :
    keys.foldl (fun buffers key => Function.update buffers key (pruneBuffer c complete master (buffers key))) buffers
      key = buffers key := by
  induction keys generalizing buffers with
  | nil => rfl
  | cons k keys ih =>
    rw [List.mem_cons, not_or] at h
    rw [List.foldl_cons, ih _ h.2, Function.update_of_ne h.1]

/-- The horizon of a bundle. -/
def horizonNs (c : SynchronizerConfig) (master : StreamFrame) : ℕ :=
  if limitNs c < master.hostArrivalTimeNs then master.hostArrivalTimeNs - limitNs c else 0

theorem pruneBuffer_software (hmode : c.sync.mode = .software) (complete : Bool) (master : StreamFrame)
    (frames : List StreamFrame) :
    pruneBuffer c complete master frames = frames.dropWhile fun f => f.hostArrivalTimeNs < horizonNs c master := by
  rw [pruneBuffer, hmode]
  rfl

/-- A required buffer is pruned once, however often its stream is named. -/
theorem pruneBuffers_software (hmode : c.sync.mode = .software) (complete : Bool) (master : StreamFrame)
    (buffers : String → List StreamFrame) {key : String} (hkey : key ∈ c.group.requiredStreams) :
    pruneBuffers c complete master buffers key =
      (buffers key).dropWhile fun f => f.hostArrivalTimeNs < horizonNs c master := by
  rw [pruneBuffers]
  generalize c.group.requiredStreams = keys at hkey ⊢
  induction keys generalizing buffers with
  | nil => exact absurd hkey List.not_mem_nil
  | cons k keys ih =>
    rw [List.foldl_cons]
    by_cases hmem : key ∈ keys
    · rw [ih _ hmem]
      by_cases hk : key = k
      · subst hk
        rw [Function.update_self, pruneBuffer_software hmode, List.dropWhile_idempotent]
      · rw [Function.update_of_ne hk]
    · have hk : key = k := (List.mem_cons.mp hkey).resolve_right hmem
      subst hk
      rw [pruneBuffers_of_notMem complete master _ hmem, Function.update_self, pruneBuffer_software hmode]

/-- What is below the horizon is further than the limit behind the master frame, and nothing else is. -/
theorem lt_horizonNs_iff (master : StreamFrame) (t : ℕ) :
    t < horizonNs c master ↔ t ≤ master.hostArrivalTimeNs ∧ limitNs c < master.hostArrivalTimeNs - t := by
  unfold horizonNs
  split <;> omega

end Cuts

end FrameSynchronizer

end CameraServer
