import RoboticsLab.Preview.SlewGrid

/-!
# The slew and the profile it opens the envelope for

On each interval of the grid the new knots hold the profile, or the scaled nominal path after it
(`OpenedPair.holds`), except between `tau` and the time after it.  There the knot at `tau` has the headroom
of the first jerk while the second one is spent: balanced jerks are covered, and without balance a braking
profile that lies above the envelope is cut (`slewContactAuthority_feasible`).
-/

namespace RbServo

open Clamp Quadratic PreviewContactConstraint

section Feasible

variable {K G : Type*} [Field K] [LinearOrder K] [IsStrictOrderedRing K]

/-! ## What a slew is for -/

/-- The profile, then another motion. -/
def SlewProfile.followed (s : SlewProfile K) (w : K → K) (t : K) : K :=
  if t ≤ s.stop then (s.profile t).1 else w t

/-- The knots hold a velocity between floor and ceiling, wherever it closes. -/
def Holds (f : K → K) (stop : K) (knots : List (Knot K)) : Prop :=
  ∀ t, 0 ≤ t → t ≤ stop → 0 ≤ f t → ∃ lo, floorOf knots t = .fin lo ∧ lo ≤ f t ∧ f t ≤ boundAt knots t

/-- Knots at increasing times, with a ceiling nowhere below another one. -/
structure Raises (stop : K) (before after : List (Knot K)) : Prop where
  increasing : (after.map Knot.timeSec).Pairwise (· < ·)
  raised : ∀ t, 0 ≤ t → t ≤ stop → boundAt before t ≤ boundAt after t

/-! ## One interval -/

/-- What the call knows of its envelope and its profile on the grid; `w` is the scaled nominal path. -/
structure Slewable (c : SlewCall K G) (s : SlewProfile K) (w : K → K) : Prop where
  two_le : 2 ≤ c.contact.knots.length
  starts : c.contact.knots.head?.map Knot.timeSec = some 0
  ends : c.contact.knots.getLast?.map Knot.timeSec = some c.horizon
  increasing : c.contact.knots.IsChain fun p q => p.timeSec < q.timeSec
  finite : ∀ k ∈ c.contact.knots, ∃ z, k.lowerVelocityMS = .fin z
  tube : ∀ t, 0 ≤ t → t ≤ c.horizon → ∃ lo, floorOf c.contact.knots t = .fin lo ∧ lo ≤ w t ∧
    w t ≤ boundAt c.contact.knots t ∧ 0 ≤ boundAt c.contact.knots t
  interval : ∀ {pre a b post}, c.contact.knots = pre ++ a :: b :: post →
    0 ≤ a.timeSec ∧ b.timeSec ≤ c.horizon ∧ b.timeSec - a.timeSec = c.servoPeriodSec
  phase : ∀ {pre a b post}, c.contact.knots = pre ++ a :: b :: post →
    (b.timeSec ≤ s.tau ∨ s.tau ≤ a.timeSec) ∧ (b.timeSec ≤ s.stop ∨ s.stop ≤ a.timeSec)
  tau_pos : 0 < s.tau
  lands : s.stop ≤ c.horizon → (s.profile s.stop).1 = w s.stop

variable {c : SlewCall K G} {s : SlewProfile K} {w : K → K} {a b t : K} {k p q : Knot K}

/-- An affine function between two knots. -/
theorem affine_reads {f : K → K} (hf : AffineOn f a b) (ha : a ≤ p.timeSec) (hpq : p.timeSec < q.timeSec)
    (hb : q.timeSec ≤ b) (h1 : p.timeSec ≤ t) (h2 : t ≤ q.timeSec) :
    f t = chord (f p.timeSec) (f q.timeSec) (fraction p q t) := by
  obtain ⟨hu, hu1⟩ := fraction_mem p q t
  have hbetween := hf.between ha hpq.le hb hu hu1
  rwa [fraction_point hpq h1 h2] at hbetween

omit [Field K] [IsStrictOrderedRing K] in
theorem atMost_min {x : K} {e : Extended K} (he : e ≠ .negInf) : (Extended.min (.fin x) e).AtMost x := by
  cases e with
  | negInf => exact absurd rfl he
  | fin y => exact Extended.AtMost.min ⟨x, rfl, le_rfl⟩ y
  | posInf => exact ⟨x, rfl, le_rfl⟩

omit [IsStrictOrderedRing K] in
theorem slewFloor_ne_negInf (h t : K) : s.slewFloor h t ≠ .negInf := by
  unfold SlewProfile.slewFloor
  split
  · simp
  · simp

theorem slewFloor_before (h : K) (ht : t ≤ s.stop) :
    s.slewFloor h t = .fin ((s.profile t).1 - |(s.profile t).2| * h * h / 4) := by
  have hno : ¬ (s.stop + 1 / 10 ^ 12 < t) := not_lt.mpr (ht.trans (by simp))
  rw [SlewProfile.slewFloor, if_neg hno, min_eq_left ht]

theorem slewCeiling_before (h : K) (ht : t ≤ s.stop) :
    s.slewCeiling h t = some (max (s.profile t).1 0 + |(s.profile t).2| * h * h / 4) := by
  have hno : ¬ (s.stop + 1 / 10 ^ 12 < t) := not_lt.mpr (ht.trans (by simp))
  rw [SlewProfile.slewCeiling, if_neg hno, min_eq_left ht]

omit [IsStrictOrderedRing K] in
/-- The floor of a new knot is under that of the envelope. -/
theorem SlewCall.Opened.floor_envelope (ho : c.Opened s a b k) {z : K}
    (hz : floorOf c.contact.knots k.timeSec = .fin z) : k.lowerVelocityMS.AtMost z := by
  rw [ho.lower, SlewCall.floorAt, hz]
  exact (atMost_min (slewFloor_ne_negInf _ _)).min _

/-- During the profile it is also under the profile, with the headroom. -/
theorem SlewCall.Opened.floor_profile (ho : c.Opened s a b k) {z : K}
    (hz : floorOf c.contact.knots k.timeSec = .fin z) (hb : b ≤ s.stop) :
    k.lowerVelocityMS.AtMost ((s.profile k.timeSec).1 -
      |(s.profile k.timeSec).2| * c.servoPeriodSec * c.servoPeriodSec / 4) := by
  rw [ho.lower, SlewCall.floorAt, hz, slewFloor_before _ (ho.le_end.trans hb)]
  exact (atMost_of_widened (Or.inr ⟨z, rfl⟩) _).min _

omit [LinearOrder K] [IsStrictOrderedRing K] in
theorem chord_add_chord (x y x' y' u : K) : chord x y u + chord x' y' u = chord (x + x') (y + y') u := by
  unfold chord
  ring

/-- **During the profile.**  Floors and ceilings have the headroom that `profile_between` asks for. -/
theorem holds_before (hphase : b ≤ s.tau ∨ s.tau ≤ a) (hbal : a = s.tau → s.Balanced) (hb : b ≤ s.stop)
    (hlen : b - a = c.servoPeriodSec) (hp : c.Opened s a b p) (hq : c.Opened s a b q)
    (hlt : p.timeSec < q.timeSec) {y z : K} (hy : floorOf c.contact.knots p.timeSec = .fin y)
    (hz : floorOf c.contact.knots q.timeSec = .fin z) (h1 : p.timeSec ≤ t) (h2 : t ≤ q.timeSec) :
    ∃ lo lo', p.lowerVelocityMS = .fin lo ∧ q.lowerVelocityMS = .fin lo' ∧
      chord lo lo' (fraction p q t) ≤ (s.profile t).1 ∧
      (s.profile t).1 ≤ chord p.upperVelocityMS q.upperVelocityMS (fraction p q t) := by
  obtain ⟨lo, hlo, hlole⟩ := hp.floor_profile hy hb
  obtain ⟨lo', hlo', hlole'⟩ := hq.floor_profile hz hb
  obtain ⟨hu, hu1⟩ := fraction_mem p q t
  have hab : a < b := hp.start_le.trans_lt (hlt.trans_le hq.le_end)
  refine ⟨lo, lo', hlo, hlo', ?_, ?_⟩
  · -- the two knots themselves, or a crossing, bound the floor
    have hinner : q.timeSec ≤ s.tau ∨ s.tau ≤ p.timeSec :=
      hphase.imp hq.le_end.trans fun h => h.trans hp.start_le
    have htau : p.timeSec = s.tau → s.Balanced := by
      intro heq
      rcases hphase with h | h
      · exact absurd heq ((hlt.trans_le (hq.le_end.trans h)).ne)
      · exact hbal (le_antisymm (hp.start_le.trans heq.le) h)
    have hlen' : q.timeSec - p.timeSec ≤ c.servoPeriodSec :=
      (sub_le_sub hq.le_end hp.start_le).trans hlen.le
    have hbetween := SlewProfile.profile_between hinner htau hlt hlen' hu hu1
    rw [fraction_point hlt h1 h2] at hbetween
    have hle := chord_le_chord (le_sub_iff_add_le.mp hlole) (le_sub_iff_add_le.mp hlole') hu hu1
    rw [← chord_add_chord] at hle
    linarith [(abs_le.mp hbetween).1]
  · -- the chord of the ceilings at the two times of the envelope
    have hpos : 0 < b - a := sub_pos.mpr hab
    have hw : 0 ≤ (t - a) / (b - a) := div_nonneg (sub_nonneg.mpr (hp.start_le.trans h1)) hpos.le
    have hw1 : (t - a) / (b - a) ≤ 1 :=
      (div_le_one hpos).mpr (sub_le_sub_right (h2.trans hq.le_end) a)
    have hpoint : a + (t - a) / (b - a) * (b - a) = t := by
      rw [div_mul_cancel₀ _ hpos.ne', add_sub_cancel]
    have hbetween := SlewProfile.profile_between hphase hbal hab hlen.le hw hw1
    rw [hpoint] at hbetween
    have hceil := fun (r : K) => add_le_add_left (le_max_left (s.profile r).1 0)
      (|(s.profile r).2| * c.servoPeriodSec * c.servoPeriodSec / 4)
    have hle := chord_le_chord (hceil a) (hceil b) hw hw1
    rw [← chord_add_chord] at hle
    have haffine : AffineOn (fun r => chord (max (s.profile a).1 0 + |(s.profile a).2| * c.servoPeriodSec *
        c.servoPeriodSec / 4) (max (s.profile b).1 0 + |(s.profile b).2| * c.servoPeriodSec *
        c.servoPeriodSec / 4) ((r - a) / (b - a))) a b := affineOn_of_chord fun r _ _ => rfl
    have hread := affine_reads haffine hp.start_le hlt hq.le_end h1 h2
    have hsa := slewCeiling_before c.servoPeriodSec (hab.le.trans hb)
    have hsb := slewCeiling_before c.servoPeriodSec hb
    have hup := chord_le_chord (hp.slewed _ _ hsa hsb) (hq.slewed _ _ hsa hsb) hu hu1
    linarith [(abs_le.mp hbetween).2]

/-- The ceiling of the envelope is not lowered. -/
theorem SlewCall.OpenedPair.raised (hs : Slewable c s w) (hpq : c.OpenedPair s p q) (h1 : p.timeSec ≤ t)
    (h2 : t ≤ q.timeSec) :
    boundAt c.contact.knots t ≤ chord p.upperVelocityMS q.upperVelocityMS (fraction p q t) := by
  obtain ⟨pre, a, b, post, hk, hlt, hp, hq⟩ := hpq
  obtain ⟨hu, hu1⟩ := fraction_mem p q t
  have hB : AffineOn (boundAt c.contact.knots) a.timeSec b.timeSec := by
    have hinc := hs.increasing
    rw [hk] at hinc ⊢
    exact boundAt_affine hinc
  rw [affine_reads hB hp.start_le hlt hq.le_end h1 h2]
  exact chord_le_chord hp.raised hq.raised hu hu1

/-- **Two neighbours.**  Before the end of the profile the headroom counts, after it the envelope. -/
theorem SlewCall.OpenedPair.holds (hs : Slewable c s w) (hbal : s.Balanced ∨ c.horizon ≤ s.tau)
    (hpq : c.OpenedPair s p q) (h1 : p.timeSec ≤ t) (h2 : t ≤ q.timeSec) :
    ∃ lo lo', p.lowerVelocityMS = .fin lo ∧ q.lowerVelocityMS = .fin lo' ∧
      chord lo lo' (fraction p q t) ≤ s.followed w t ∧
      s.followed w t ≤ chord p.upperVelocityMS q.upperVelocityMS (fraction p q t) := by
  have hraised := hpq.raised hs h1 h2
  obtain ⟨pre, a, b, post, hk, hlt, hp, hq⟩ := hpq
  obtain ⟨ha0, hbstop, hlen⟩ := hs.interval hk
  obtain ⟨htau, hstop⟩ := hs.phase hk
  obtain ⟨f, hf, hfloor⟩ : ∃ f, AffineOn f a.timeSec b.timeSec ∧
      ∀ t, a.timeSec ≤ t → t ≤ b.timeSec → floorOf c.contact.knots t = .fin (f t) := by
    have hinc := hs.increasing
    have hfin := hs.finite
    rw [hk] at hinc hfin ⊢
    exact floorOf_affine hinc hfin
  have hy := hfloor p.timeSec hp.start_le hp.le_end
  have hz := hfloor q.timeSec hq.start_le hq.le_end
  have hat : a.timeSec ≤ t := hp.start_le.trans h1
  have htb : t ≤ b.timeSec := h2.trans hq.le_end
  rcases hstop with hbefore | hafter
  · rw [SlewProfile.followed, if_pos (htb.trans hbefore)]
    refine holds_before htau (fun heq => ?_) hbefore hlen hp hq hlt hy hz h1 h2
    have hab : a.timeSec < b.timeSec := hp.start_le.trans_lt (hlt.trans_le hq.le_end)
    exact hbal.resolve_right (not_le.mpr (heq.symm.trans_lt (hab.trans_le hbstop)))
  · have hw : s.followed w t = w t := by
      unfold SlewProfile.followed
      split
      · next hle =>
        obtain rfl := le_antisymm hle (hafter.trans hat)
        exact hs.lands (htb.trans hbstop)
      · rfl
    obtain ⟨z, hzt, hzw, hwB, -⟩ := hs.tube t (ha0.trans hat) (htb.trans hbstop)
    obtain ⟨lo, hlo, hlole⟩ := hp.floor_envelope hy
    obtain ⟨lo', hlo', hlole'⟩ := hq.floor_envelope hz
    obtain ⟨hu, hu1⟩ := fraction_mem p q t
    have hft : f t = z := Extended.fin.inj ((hfloor t hat htb).symm.trans hzt)
    refine ⟨lo, lo', hlo, hlo', ?_, ?_⟩
    · rw [hw]
      refine le_trans ?_ hzw
      rw [← hft, affine_reads hf hp.start_le hlt hq.le_end h1 h2]
      exact chord_le_chord hlole hlole' hu hu1
    · rw [hw]
      exact hwB.trans hraised

/-! ## All knots -/

namespace SlewCall

omit [IsStrictOrderedRing K] in
theorem length_le_slewKnots (prev : Option (K × K)) (times : List K) :
    times.length ≤ (c.slewKnots s prev times).length := by
  induction times generalizing prev with
  | nil => exact Nat.zero_le _
  | cons t rest ih =>
    have hrest := ih (c.difference s t)
    simp only [slewKnots, List.length_append, List.length_cons]
    omega

omit [IsStrictOrderedRing K] in
/-- The knots around two neighbouring times. -/
theorem slewKnots_split (prev : Option (K × K)) (before after : List K) (a b : K) : ∃ pre,
    c.slewKnots s prev (before ++ a :: b :: after) = pre ++ c.knotAt s a ::
      (c.crossing s (c.difference s a) (c.difference s b) ++ c.knotAt s b ::
        c.slewKnots s (c.difference s b) after) := by
  induction before generalizing prev with
  | nil => exact ⟨c.crossing s prev (c.difference s a), rfl⟩
  | cons t before ih =>
    obtain ⟨pre, hpre⟩ := ih (c.difference s t)
    refine ⟨c.crossing s prev (c.difference s t) ++ c.knotAt s t :: pre, ?_⟩
    rw [List.cons_append, slewKnots, hpre, List.append_assoc, List.cons_append]

end SlewCall

theorem Slewable.chain (hs : Slewable c s w) :
    (c.slewKnots s none (c.contact.knots.map Knot.timeSec)).IsChain (c.OpenedPair s) := by
  cases hk : c.contact.knots with
  | nil => exact List.isChain_nil
  | cons a rest => exact SlewCall.slewKnots_chain hs.increasing (hk.trans (List.nil_append _).symm)

theorem Slewable.strict (hs : Slewable c s w) :
    (c.slewKnots s none (c.contact.knots.map Knot.timeSec)).IsChain fun p q => p.timeSec < q.timeSec :=
  hs.chain.imp fun _ _ ⟨_, _, _, _, _, hlt, _⟩ => hlt

/-- A time of the horizon is read off two new neighbours. -/
theorem Slewable.reads (hs : Slewable c s w) (h0 : 0 ≤ t) (h1 : t ≤ c.horizon) :
    ∃ p q, c.OpenedPair s p q ∧ p.timeSec ≤ t ∧ t ≤ q.timeSec ∧
      segmentAt (c.slewKnots s none (c.contact.knots.map Knot.timeSec)) t = some (p, q) := by
  have hlen : 2 ≤ (c.slewKnots s none (c.contact.knots.map Knot.timeSec)).length := by
    have hle := SlewCall.length_le_slewKnots (c := c) (s := s) none (c.contact.knots.map Knot.timeSec)
    rw [List.length_map] at hle
    exact hs.two_le.trans hle
  have hfirst : (c.slewKnots s none (c.contact.knots.map Knot.timeSec)).head?.map Knot.timeSec = some 0 := by
    have hstarts := hs.starts
    cases hk : c.contact.knots with
    | nil => simp [hk] at hstarts
    | cons a rest =>
      rw [hk] at hstarts
      exact hstarts
  have hlast : (c.slewKnots s none (c.contact.knots.map Knot.timeSec)).getLast?.map Knot.timeSec =
      some c.horizon := by
    rw [SlewCall.slewKnots_last, List.getLast?_map, hs.ends]
  obtain ⟨pre, p, q, post, he, hseg, hpt, htq⟩ := segmentAt_around hlen hfirst hlast h0 h1
  have hchain := hs.chain
  rw [he, List.isChain_append] at hchain
  exact ⟨p, q, (List.isChain_cons_cons.mp hchain.2.1).1, hpt, htq, hseg⟩

/-- **The tube.**  With balanced jerks the new knots hold the profile. -/
theorem Slewable.holds (hs : Slewable c s w) (hbal : s.Balanced ∨ c.horizon ≤ s.tau) :
    Holds (s.followed w) c.horizon (c.slewKnots s none (c.contact.knots.map Knot.timeSec)) := by
  intro t h0 h1 _
  obtain ⟨p, q, hpq, hpt, htq, hseg⟩ := hs.reads h0 h1
  obtain ⟨lo, lo', hlo, hlo', hle, hge⟩ := hpq.holds hs hbal hpt htq
  refine ⟨chord lo lo' (fraction p q t), ?_, hle, ?_⟩
  · simp only [floorOf, hseg, hlo, hlo']
  · rw [boundAt, hseg]
    exact hge

theorem Slewable.raises (hs : Slewable c s w) :
    Raises c.horizon c.contact.knots (c.slewKnots s none (c.contact.knots.map Knot.timeSec)) where
  increasing := ((List.isChain_map Knot.timeSec).mpr hs.strict).pairwise
  raised t h0 h1 := by
    obtain ⟨p, q, hpq, hpt, htq, hseg⟩ := hs.reads h0 h1
    have hread : boundAt (c.slewKnots s none (c.contact.knots.map Knot.timeSec)) t =
        chord p.upperVelocityMS q.upperVelocityMS (fraction p q t) := by
      rw [boundAt, hseg]
    exact (hpq.raised hs hpt htq).trans hread.ge

/-! ## Without balance -/

/-- The profile closes outside the envelope between `tau` and the next knot: above its ceiling while it
brakes, else below its floor and clear of its ceiling. -/
def Outside (s : SlewProfile K) (h : K) (knots : List (Knot K)) : Prop :=
  ∀ t, s.tau ≤ t → t ≤ s.tau + h → 0 ≤ (s.profile t).1 ∧
    (s.j2 < 0 ∧ boundAt knots t < (s.profile t).1 ∨
      0 < s.j2 ∧ (∃ lo, floorOf knots t = .fin lo ∧ (s.profile t).1 ≤ lo) ∧
        (s.profile t).1 + |(s.profile t).2| * h * h / 4 ≤ boundAt knots t)

omit [IsStrictOrderedRing K] in
/-- The interval of the envelope that starts at `tau`. -/
theorem Slewable.interval_at_tau (hs : Slewable c s w) (htau : s.tau < c.horizon) :
    ∃ pre a b post, c.contact.knots = pre ++ a :: b :: post ∧ a.timeSec = s.tau := by
  obtain ⟨pre, a, b, post, hk, -, hat, htb⟩ :=
    segmentAt_around hs.two_le hs.starts hs.ends hs.tau_pos.le htau.le
  rcases (hs.phase hk).1 with hb | ha
  · cases post with
    | nil =>
      have hend : b.timeSec = c.horizon := by simpa [hk] using hs.ends
      exact absurd htau (not_lt.mpr (hend.symm.trans_le hb))
    | cons d post =>
      refine ⟨pre ++ [a], b, d, post, ?_, le_antisymm hb htb⟩
      rw [hk, List.append_assoc, List.singleton_append]
  · exact ⟨pre, a, b, post, hk, le_antisymm hat ha⟩

/-- Where the two ceilings do not cross, an interval of the envelope is one of the new knots. -/
theorem Slewable.segment (hs : Slewable c s w) {pre post : List (Knot K)} {a b : Knot K}
    (hk : c.contact.knots = pre ++ a :: b :: post) {d e : K}
    (hd : c.difference s a.timeSec = some (a.timeSec, d)) (he : c.difference s b.timeSec = some (b.timeSec, e))
    (hside : 0 < d ↔ 0 < e) (h1 : a.timeSec < t) (h2 : t ≤ b.timeSec) :
    segmentAt (c.slewKnots s none (c.contact.knots.map Knot.timeSec)) t =
      some (c.knotAt s a.timeSec, c.knotAt s b.timeSec) := by
  have hnone : c.crossing s (c.difference s a.timeSec) (c.difference s b.timeSec) = [] := by
    rw [hd, he, SlewCall.crossing, if_neg fun hsign => hsign.1 (decide_eq_decide.mpr hside)]
  have htimes : c.contact.knots.map Knot.timeSec =
      pre.map Knot.timeSec ++ a.timeSec :: b.timeSec :: post.map Knot.timeSec := by
    rw [hk, List.map_append, List.map_cons, List.map_cons]
  obtain ⟨before, hsplit⟩ := SlewCall.slewKnots_split (c := c) (s := s) none (pre.map Knot.timeSec)
    (post.map Knot.timeSec) a.timeSec b.timeSec
  have hstrict := hs.strict
  rw [htimes, hsplit, hnone, List.nil_append] at hstrict ⊢
  rcases segmentAt_pair hstrict h1.le h2 with h | ⟨-, -, -, -, heq⟩
  · exact h
  · exact absurd heq h1.ne'

/-- A new knot above the ceiling of the envelope. -/
theorem knotAt_above (hb : t ≤ s.stop) (hclosing : 0 ≤ (s.profile t).1)
    (habove : boundAt c.contact.knots t < (s.profile t).1) : ∃ d, 0 < d ∧ c.difference s t = some (t, d) ∧
      (c.knotAt s t).upperVelocityMS =
        (s.profile t).1 + |(s.profile t).2| * c.servoPeriodSec * c.servoPeriodSec / 4 := by
  have hroom : 0 ≤ |(s.profile t).2| * c.servoPeriodSec * c.servoPeriodSec / 4 := by
    rw [mul_assoc]
    exact div_nonneg (mul_nonneg (abs_nonneg _) (mul_self_nonneg _)) (by linarith)
  have hceil := slewCeiling_before (s := s) c.servoPeriodSec hb
  rw [max_eq_left hclosing] at hceil
  refine ⟨_, ?_, by rw [SlewCall.difference, hceil, Option.map_some], ?_⟩
  · linarith
  · simp only [SlewCall.knotAt, SlewCall.pushed, hceil]
    exact max_eq_right (by linarith)

/-- A new knot under the floor of the envelope, clear of its ceiling. -/
theorem knotAt_below (hb : t ≤ s.stop) (hclosing : 0 ≤ (s.profile t).1) {lo : K}
    (hlo : floorOf c.contact.knots t = .fin lo) (hle : (s.profile t).1 ≤ lo)
    (hclear : (s.profile t).1 + |(s.profile t).2| * c.servoPeriodSec * c.servoPeriodSec / 4 ≤
      boundAt c.contact.knots t) : ∃ d, d ≤ 0 ∧ c.difference s t = some (t, d) ∧
      (c.knotAt s t).lowerVelocityMS =
        .fin ((s.profile t).1 - |(s.profile t).2| * c.servoPeriodSec * c.servoPeriodSec / 4) := by
  have hroom : 0 ≤ |(s.profile t).2| * c.servoPeriodSec * c.servoPeriodSec / 4 := by
    rw [mul_assoc]
    exact div_nonneg (mul_nonneg (abs_nonneg _) (mul_self_nonneg _)) (by linarith)
  have hceil := slewCeiling_before (s := s) c.servoPeriodSec hb
  rw [max_eq_left hclosing] at hceil
  refine ⟨_, ?_, by rw [SlewCall.difference, hceil, Option.map_some], ?_⟩
  · linarith
  · have hfloor : c.floorAt s t =
        .fin ((s.profile t).1 - |(s.profile t).2| * c.servoPeriodSec * c.servoPeriodSec / 4) := by
      rw [SlewCall.floorAt, hlo, slewFloor_before _ hb, Extended.min]
      split
      · rfl
      · next hno =>
        simp only [Extended.lt, decide_eq_true_eq, not_lt] at hno
        rw [Extended.fin.injEq]
        linarith
    simp only [SlewCall.knotAt, SlewCall.pushed, hceil, hfloor]
    rw [max_eq_left hclear, Extended.min, if_neg]
    simp only [Extended.lt, decide_eq_true_eq, not_lt]
    linarith

/-- **The headroom of the wrong jerk.**  A profile outside the envelope between `tau` and the next knot is
cut there by the chord of its own headrooms. -/
theorem Slewable.cut (hs : Slewable c s w) (htau : s.tau < c.horizon) (hbal : ¬ s.Balanced)
    (hout : Outside s c.servoPeriodSec c.contact.knots) :
    ¬ Holds (s.followed w) c.horizon (c.slewKnots s none (c.contact.knots.map Knot.timeSec)) := by
  obtain ⟨pre, a, b, post, hk, ha⟩ := hs.interval_at_tau htau
  obtain ⟨ha0, hbstop, hlen⟩ := hs.interval hk
  have hlt : a.timeSec < b.timeSec := pair_lt (hk ▸ hs.increasing)
  have hd : 0 < b.timeSec - a.timeSec := sub_pos.mpr hlt
  have hbT : b.timeSec ≤ s.stop := by
    refine (hs.phase hk).2.resolve_right (not_le.mpr ?_)
    have htaupos := hs.tau_pos
    rw [ha, SlewProfile.stop]
    linarith
  have hb : b.timeSec ≤ s.tau + c.servoPeriodSec := by linarith
  obtain ⟨hclosea, houta⟩ := hout a.timeSec ha.ge (hlt.le.trans hb)
  obtain ⟨hcloseb, houtb⟩ := hout b.timeSec (ha.symm.trans_le hlt.le) hb
  obtain ⟨u, hu, hu1, hgap⟩ := SlewProfile.headroom_gap hbal ha hlt
  have hvalue := SlewProfile.profile_from_tau ha hlt hu.le
  rw [hlen] at hgap hvalue
  set t := a.timeSec + u * c.servoPeriodSec with ht
  have h1 : a.timeSec < t := lt_add_of_pos_right _ (mul_pos hu (hlen ▸ hd))
  have h2 : t ≤ b.timeSec := by
    have hle := mul_le_of_le_one_left (hlen ▸ hd.le) hu1.le
    linarith
  have hfollowed : s.followed w t = (s.profile t).1 := if_pos (h2.trans hbT)
  have hfrac : fraction (c.knotAt s a.timeSec) (c.knotAt s b.timeSec) t = u := by
    rw [fraction_eq (a := c.knotAt s a.timeSec) (b := c.knotAt s b.timeSec) hlt h1.le h2]
    change (t - a.timeSec) / (b.timeSec - a.timeSec) = u
    rw [ht, hlen, add_sub_cancel_left, mul_div_cancel_right₀ u (hlen ▸ hd.ne')]
  have hclosing := (hout t (ha.symm.trans_le h1.le) (h2.trans hb)).1
  intro hheld
  obtain ⟨lo, hlo, hlole, hle⟩ := hheld t (ha0.trans h1.le) (h2.trans hbstop) (hfollowed.symm ▸ hclosing)
  rw [hfollowed] at hlole hle
  rcases houta with ⟨hj, haba⟩ | ⟨hj, ⟨la, hla, hlea⟩, hcleara⟩
  · -- braking: the ceiling
    have habb := (houtb.resolve_right fun h => absurd h.1 (not_lt.mpr hj.le)).2
    obtain ⟨d, hd0, hda, hua⟩ := knotAt_above (hlt.le.trans hbT) hclosea haba
    obtain ⟨e, he0, hdb, hub⟩ := knotAt_above hbT hcloseb habb
    have hseg := hs.segment hk hda hdb (iff_of_true hd0 he0) h1 h2
    rw [boundAt, hseg] at hle
    dsimp only at hle
    rw [hua, hub, hfrac, ← chord_add_chord] at hle
    rw [abs_of_neg hj] at hgap
    linarith
  · -- gathering: the floor
    obtain ⟨-, ⟨lb, hlb, hleb⟩, hclearb⟩ := houtb.resolve_left fun h => absurd h.1 (not_lt.mpr hj.le)
    obtain ⟨d, hd0, hda, hua⟩ := knotAt_below (hlt.le.trans hbT) hclosea hla hlea hcleara
    obtain ⟨e, he0, hdb, hub⟩ := knotAt_below hbT hcloseb hlb hleb hclearb
    have hseg := hs.segment hk hda hdb (iff_of_false (not_lt.mpr hd0) (not_lt.mpr he0)) h1 h2
    simp only [floorOf, hseg, hua, hub, hfrac, Extended.fin.injEq] at hlo
    rw [abs_of_pos hj] at hgap
    unfold chord at hlo hgap hvalue
    linarith

/-! ## The call -/

variable [FloorSemiring K] [Group G] {sp : MotionSpace K G} {path : PreviewPolynomialTrajectory K G}
  {contact : PreviewContactConstraint K} {env out : Envelope K} {tracker : PreviewTrackerConfig K}
  {g h slack v0 a0 : K} {k k' : ℕ}

/-- **On the grid.**  The facts of an envelope and of a profile selected for it. -/
theorem slewable_of_build (hbuild : buildContactEnvelope sp contact path (some g) h (some slack) = some env)
    (hstep : path.stepSec = k * h) (hplan : tracker.planningDtSec = k' * h) (hpos : 0 < tracker.planningDtSec)
    (htwo : 2 ≤ env.knots.length)
    (hs : SlewCall.selectProfile sp ⟨env, v0, a0, tracker, h, some path, g⟩ = some s) :
    (⟨env, v0, a0, tracker, h, some path, g⟩ : SlewCall K G).horizon = path.durationSec ∧
      SlewCall.mergeTimes s.stop false (env.knots.map Knot.timeSec) = env.knots.map Knot.timeSec ∧
      Slewable ⟨env, v0, a0, tracker, h, some path, g⟩ s
        fun t => g * closingVelocity sp env.normalStand path t := by
  obtain ⟨-, -, hh, -, -, -, hnormal, -⟩ := buildContactEnvelope_spec hbuild
  have hcert := (buildContactEnvelope_certified hbuild).2
  have hgrid := gridded_of_build hstep hbuild
  have hhorizon : (⟨env, v0, a0, tracker, h, some path, g⟩ : SlewCall K G).horizon = path.durationSec := by
    rw [SlewCall.horizon, hcert.ends, Option.getD_some]
  obtain ⟨m, htau, htaupos, hlands⟩ := selectProfile_spec rfl hpos hs
  have htau' : s.tau = (m * k' : ℕ) * h := by
    rw [htau, Nat.cast_mul, mul_assoc, ← hplan]
  have hstop' : s.stop = (2 * (m * k') : ℕ) * h := by
    rw [SlewProfile.stop, htau', Nat.cast_mul 2, Nat.cast_ofNat, mul_assoc]
  refine ⟨hhorizon, by rw [hstop', mergeTimes_gridded hh hgrid], htwo, hcert.starts,
    hcert.ends.trans (congrArg some hhorizon.symm), ?_, fun x hx => ?_, fun t h0 h1 => ?_,
    fun {pre a b post} hk => ?_, fun {pre a b post} hk => ?_, htaupos, hlands⟩
  · exact (List.isChain_map Knot.timeSec).mp hcert.increasing.isChain
  · obtain ⟨z, hz, -⟩ := hcert.ordered x hx
    exact ⟨z, hz⟩
  · obtain ⟨lo, hlo, -, hgv, hup, hnn⟩ := hcert.tube t h0 (h1.trans hhorizon.le)
    rw [hnormal]
    exact ⟨lo, hlo, hgv, hup, hnn⟩
  · change env.knots = _ at hk
    rw [hk] at hgrid
    obtain ⟨ha, hb, hlt⟩ := gridded_pair hgrid
    rw [hhorizon, ha, hb]
    refine ⟨mul_nonneg (Nat.cast_nonneg _) hh.le, ?_, ?_⟩
    · rw [PreviewPolynomialTrajectory.durationSec, hstep, ← mul_assoc, ← Nat.cast_mul]
      exact mul_le_mul_of_nonneg_right (Nat.cast_le.mpr hlt) hh.le
    · rw [Nat.cast_add_one]
      ring
  · change env.knots = _ at hk
    rw [hk] at hgrid
    rw [htau', hstop']
    exact ⟨gridded_phase hh hgrid (m * k'), gridded_phase hh hgrid (2 * (m * k'))⟩

/-- **The slewed authority and its profile.**  For an envelope built on a servo grid that divides the
planning step, a call that succeeds leaves knots at increasing times with a ceiling nowhere lowered.  They
hold the profile and the scaled nominal path after it if the jerks are balanced, or the second one is never
spent.  Where the profile is outside the envelope after `tau`, they hold it only then. -/
theorem slewContactAuthority_feasible
    (hbuild : buildContactEnvelope sp contact path (some g) h (some slack) = some env)
    (hstep : path.stepSec = k * h) (hplan : tracker.planningDtSec = k' * h)
    (hslew : slewContactAuthority sp env (some v0) (some a0) tracker h (some path) (some g) = some out) :
    ∃ s, SlewCall.selectProfile sp ⟨env, v0, a0, tracker, h, some path, g⟩ = some s ∧
      Raises path.durationSec env.knots out.knots ∧
      (s.Balanced ∨ path.durationSec ≤ s.tau → Holds
        (s.followed fun t => g * closingVelocity sp env.normalStand path t) path.durationSec out.knots) ∧
      (s.tau < path.durationSec → Outside s h env.knots → (Holds
        (s.followed fun t => g * closingVelocity sp env.normalStand path t) path.durationSec out.knots ↔
          s.Balanced)) := by
  obtain ⟨hpos, htwo, s, hs, hout⟩ := slewContactAuthority_spec hslew
  obtain ⟨hhorizon, hmerge, hslewable⟩ := slewable_of_build hbuild hstep hplan hpos htwo hs
  have hraises := hslewable.raises
  have hholds := hslewable.holds
  rw [hmerge] at hout
  rw [hhorizon, ← hout] at hraises hholds
  refine ⟨s, hs, hraises, hholds, fun htau houtside => ⟨fun hheld => ?_, fun hbal => hholds (Or.inl hbal)⟩⟩
  by_contra hbal
  have hcut := hslewable.cut (hhorizon.symm ▸ htau) hbal houtside
  rw [hhorizon, ← hout] at hcut
  exact hcut hheld

end Feasible

/-! ## A profile whose first jerk is zero -/

/-- Along the first axis: an acceleration of ten, then a jerk that reverses it. -/
def steepPath : PreviewPolynomialTrajectory ℚ Unit where
  p _ := ⟨0, 0⟩
  v k := if k = 0 then ⟨![1 / 25, 0, 0], 0⟩ else ⟨![7 / 50, 0, 0], 0⟩
  a _ := ⟨![10, 0, 0], 0⟩
  jerk k := if k = 0 then ⟨0, 0⟩ else ⟨![-2000, 0, 0], 0⟩
  rotation0 := 1
  stepSec := 1 / 100
  count := 2
  valid := true

def steepTracker : PreviewTrackerConfig ℚ where
  planningDtSec := 1 / 100
  maxLinearVelocityMS := 1
  maxLinearAccelerationMS2 := 100
  maxLinearJerkMS3 := 5000
  contactSlewJerkMS3 := 1000
  maxAngularVelocityRadS := 1
  maxAngularAccelerationRadS2 := 1
  maxAngularJerkRadS3 := 1
  maxReferenceChartAngleRad := 1
  feasibilityTolerance := 1 / 10000

def steepEnvelope : Option (Envelope ℚ) :=
  buildContactEnvelope pointMotion ⟨true, ![1, 0, 0]⟩ steepPath (some (1 / 2)) (1 / 500) (some 0)

/-- At half gate, from a closing velocity of 95 mm/s: coasting for 10 ms, then a jerk of -500. -/
theorem slew_cuts_profile : ∃ env out s, steepEnvelope = some env ∧
    steepPath.stepSec = (5 : ℕ) * (1 / 500) ∧ steepTracker.planningDtSec = (5 : ℕ) * (1 / 500) ∧
    slewContactAuthority pointMotion env (some (19 / 200)) (some 0) steepTracker (1 / 500) (some steepPath)
      (some (1 / 2)) = some out ∧
    SlewCall.selectProfile pointMotion ⟨env, 19 / 200, 0, steepTracker, 1 / 500, some steepPath, 1 / 2⟩ = some s ∧
    ¬ Holds (s.followed fun t => 1 / 2 * closingVelocity pointMotion env.normalStand steepPath t)
      steepPath.durationSec out.knots := by
  have hrun : (steepEnvelope.bind fun env =>
      (slewContactAuthority pointMotion env (some (19 / 200)) (some 0) steepTracker (1 / 500) (some steepPath)
        (some (1 / 2))).bind fun out =>
      (SlewCall.selectProfile pointMotion
          ⟨env, 19 / 200, 0, steepTracker, 1 / 500, some steepPath, 1 / 2⟩).map fun s =>
        (s, boundAt out.knots (21 / 2000))) = some (⟨19 / 200, 0, 1 / 100, 0, -500⟩, 759 / 8000) := by
    decide +kernel
  obtain ⟨env, henv, hrun⟩ := Option.bind_eq_some_iff.mp hrun
  obtain ⟨out, hout, hrun⟩ := Option.bind_eq_some_iff.mp hrun
  obtain ⟨s, hs, hpair⟩ := Option.map_eq_some_iff.mp hrun
  obtain ⟨rfl, hbound⟩ := Prod.mk.inj hpair
  refine ⟨env, out, _, henv, by norm_num [steepPath], by norm_num [steepTracker], hout, hs, fun hheld => ?_⟩
  have hfollowed : ∀ w : ℚ → ℚ, SlewProfile.followed ⟨19 / 200, 0, 1 / 100, 0, -500⟩ w (21 / 2000) =
      1519 / 16000 := by
    intro w
    norm_num [SlewProfile.followed, SlewProfile.stop, SlewProfile.profile, quad, slopeAt]
  obtain ⟨-, -, -, hle⟩ := hheld (21 / 2000) (by norm_num)
    (by norm_num [PreviewPolynomialTrajectory.durationSec, steepPath]) (by rw [hfollowed]; norm_num)
  rw [hfollowed, hbound] at hle
  norm_num at hle

theorem slewContactAuthority_feasible_steep : ∃ env out, steepEnvelope = some env ∧
    slewContactAuthority pointMotion env (some (19 / 200)) (some 0) steepTracker (1 / 500) (some steepPath)
      (some (1 / 2)) = some out ∧
    ∃ s, SlewCall.selectProfile pointMotion
        ⟨env, 19 / 200, 0, steepTracker, 1 / 500, some steepPath, 1 / 2⟩ = some s ∧
      Raises steepPath.durationSec env.knots out.knots ∧
      (s.Balanced ∨ steepPath.durationSec ≤ s.tau → Holds
        (s.followed fun t => 1 / 2 * closingVelocity pointMotion env.normalStand steepPath t)
        steepPath.durationSec out.knots) ∧
      (s.tau < steepPath.durationSec → Outside s (1 / 500) env.knots → (Holds
        (s.followed fun t => 1 / 2 * closingVelocity pointMotion env.normalStand steepPath t)
        steepPath.durationSec out.knots ↔ s.Balanced)) := by
  have hlen : (steepEnvelope.bind fun env =>
      (slewContactAuthority pointMotion env (some (19 / 200)) (some 0) steepTracker (1 / 500) (some steepPath)
        (some (1 / 2))).map fun out => out.knots.length) = some 12 := by decide +kernel
  obtain ⟨env, henv, hrun⟩ := Option.bind_eq_some_iff.mp hlen
  obtain ⟨out, hout, -⟩ := Option.map_eq_some_iff.mp hrun
  have hstep : steepPath.stepSec = (5 : ℕ) * (1 / 500) := by norm_num [steepPath]
  have hplan : steepTracker.planningDtSec = (5 : ℕ) * (1 / 500) := by norm_num [steepTracker]
  exact ⟨env, out, henv, hout, slewContactAuthority_feasible henv hstep hplan hout⟩

end RbServo
