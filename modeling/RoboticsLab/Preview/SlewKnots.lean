import RoboticsLab.Preview.SlewTube

/-!
# The knots of the slew

`slewKnots` keeps the times of the envelope and adds crossings between them.  Each new knot stands on or
above both ceilings, that of the envelope and the chord of the slew's own (`Opened`), and two neighbours
belong to one interval of the envelope (`OpenedPair`).
-/

namespace RbServo

open Clamp Quadratic PreviewContactConstraint

variable {K G : Type*} [Field K] [LinearOrder K] [IsStrictOrderedRing K]

/-! ## Intervals of the envelope -/

section Intervals

variable {pre post : List (Knot K)} {p q a b : Knot K} {t : K}

theorem fraction_point (h : p.timeSec < q.timeSec) (h1 : p.timeSec ≤ t) (h2 : t ≤ q.timeSec) :
    p.timeSec + fraction p q t * (q.timeSec - p.timeSec) = t := by
  rw [fraction_eq h h1 h2, div_mul_cancel₀ _ (sub_pos.mpr h).ne']
  ring

variable (hinc : (pre ++ a :: b :: post).IsChain fun p q => p.timeSec < q.timeSec)

include hinc

omit [Field K] [IsStrictOrderedRing K] in
theorem pair_lt : a.timeSec < b.timeSec :=
  (List.isChain_cons_cons.mp (List.isChain_append.mp hinc).2.1).1

theorem boundAt_affine : AffineOn (boundAt (pre ++ a :: b :: post)) a.timeSec b.timeSec := by
  refine affineOn_of_chord (x := a.upperVelocityMS) (y := b.upperVelocityMS) fun t h1 h2 => ?_
  rw [boundAt_pair hinc h1 h2, fraction_eq (pair_lt hinc) h1 h2]

theorem floorOf_affine (hfin : ∀ k ∈ pre ++ a :: b :: post, ∃ z, k.lowerVelocityMS = .fin z) :
    ∃ f, AffineOn f a.timeSec b.timeSec ∧
      ∀ t, a.timeSec ≤ t → t ≤ b.timeSec → floorOf (pre ++ a :: b :: post) t = .fin (f t) := by
  obtain ⟨x, hx⟩ := hfin a (by simp)
  obtain ⟨y, hy⟩ := hfin b (by simp)
  refine ⟨fun t => chord x y ((t - a.timeSec) / (b.timeSec - a.timeSec)),
    affineOn_of_chord fun t _ _ => rfl, fun t h1 h2 => ?_⟩
  have hpre : ∀ k ∈ pre, ∃ z, k.lowerVelocityMS = .fin z := fun k hk => hfin k (List.mem_append_left _ hk)
  rw [floorOf_pair hinc hpre hx hy h1 h2, fraction_eq (pair_lt hinc) h1 h2]

end Intervals

/-! ## One interval -/

namespace SlewCall

variable (c : SlewCall K G) (s : SlewProfile K)

/-- A knot between two times, on or above the ceilings. -/
structure Opened (a b : K) (k : Knot K) : Prop where
  start_le : a ≤ k.timeSec
  le_end : k.timeSec ≤ b
  lower : k.lowerVelocityMS = .min (c.floorAt s k.timeSec) (.fin k.upperVelocityMS)
  raised : boundAt c.contact.knots k.timeSec ≤ k.upperVelocityMS
  slewed : ∀ x y, s.slewCeiling c.servoPeriodSec a = some x → s.slewCeiling c.servoPeriodSec b = some y →
    chord x y ((k.timeSec - a) / (b - a)) ≤ k.upperVelocityMS

variable {c s} {a b : K}

omit [IsStrictOrderedRing K] in
theorem knotAt_upper (t : K) : boundAt c.contact.knots t ≤ (c.knotAt s t).upperVelocityMS ∧
    ∀ x, s.slewCeiling c.servoPeriodSec t = some x → x ≤ (c.knotAt s t).upperVelocityMS := by
  cases hx : s.slewCeiling c.servoPeriodSec t with
  | none => simp [knotAt, pushed, hx]
  | some x => simp [knotAt, pushed, hx]

omit [IsStrictOrderedRing K] in
theorem knotAt_opened_start (h : a < b) : c.Opened s a b (c.knotAt s a) where
  start_le := le_rfl
  le_end := h.le
  lower := rfl
  raised := (knotAt_upper a).1
  slewed x y hx _ := by
    have hu : ((c.knotAt s a).timeSec - a) / (b - a) = 0 := by simp [knotAt, pushed]
    rw [hu]
    simpa [chord] using (knotAt_upper a).2 x hx

theorem knotAt_opened_end (h : a < b) : c.Opened s a b (c.knotAt s b) where
  start_le := h.le
  le_end := le_rfl
  lower := rfl
  raised := (knotAt_upper b).1
  slewed x y _ hy := by
    have hu : ((c.knotAt s b).timeSec - a) / (b - a) = 1 := div_self (sub_pos.mpr h).ne'
    rw [hu]
    simpa [chord] using (knotAt_upper b).2 y hy

/-- At a crossing the two ceilings agree. -/
theorem crossing_opened (hB : AffineOn (boundAt c.contact.knots) a b) {k : Knot K}
    (hk : k ∈ c.crossing s (c.difference s a) (c.difference s b)) :
    a < k.timeSec ∧ k.timeSec < b ∧ c.Opened s a b k := by
  cases hx : s.slewCeiling c.servoPeriodSec a with
  | none => simp [difference, hx, crossing] at hk
  | some x =>
    cases hy : s.slewCeiling c.servoPeriodSec b with
    | none => simp [difference, hx, hy, crossing] at hk
    | some y =>
      simp only [difference, hx, hy, crossing, Option.map_some] at hk
      set d := x - boundAt c.contact.knots a with hd
      set e := y - boundAt c.contact.knots b with he
      split at hk
      · next hsign =>
        split at hk
        · next hin =>
          obtain rfl := List.mem_singleton.mp hk
          set w := d / (d - e) with hw
          obtain ⟨h1, h2⟩ := hin
          have hab : 0 < b - a := sub_pos.mpr (h1.trans h2)
          have hw0 : 0 ≤ w := (pos_of_mul_pos_left (by linarith : 0 < w * (b - a)) hab.le).le
          have hw1 : w ≤ 1 := by
            have hlt : w * (b - a) < 1 * (b - a) := by linarith
            exact (lt_of_mul_lt_mul_right hlt hab.le).le
          have hcross : chord x y w = boundAt c.contact.knots (a + w * (b - a)) := by
            have hcancel : w * (d - e) = d := div_mul_cancel₀ d (sub_ne_zero.mpr hsign.2)
            rw [hB.between le_rfl (h1.trans h2).le le_rfl hw0 hw1]
            unfold chord
            linear_combination -hcancel - (1 - w) * hd - w * he
          have hback : (a + w * (b - a) - a) / (b - a) = w := by
            rw [add_sub_cancel_left, mul_div_cancel_right₀ w hab.ne']
          refine ⟨h1, h2, h1.le, h2.le, rfl, le_rfl, fun x' y' hx' hy' => ?_⟩
          obtain rfl := Option.some.inj (hx.symm.trans hx')
          obtain rfl := Option.some.inj (hy.symm.trans hy')
          show chord x y ((a + w * (b - a) - a) / (b - a)) ≤ boundAt c.contact.knots (a + w * (b - a))
          rw [hback, hcross]
        · exact absurd hk List.not_mem_nil
      · exact absurd hk List.not_mem_nil

omit [IsStrictOrderedRing K] in
theorem crossing_le_one (p q : Option (K × K)) :
    c.crossing s p q = [] ∨ ∃ k, c.crossing s p q = [k] := by
  unfold crossing
  split
  · dsimp only
    split
    · split
      · exact Or.inr ⟨_, rfl⟩
      · exact Or.inl rfl
    · exact Or.inl rfl
  · exact Or.inl rfl

theorem interval_chain (h : a < b) (hB : AffineOn (boundAt c.contact.knots) a b) :
    (c.knotAt s a :: (c.crossing s (c.difference s a) (c.difference s b) ++ [c.knotAt s b])).IsChain
      fun p q => p.timeSec < q.timeSec ∧ c.Opened s a b p ∧ c.Opened s a b q := by
  have hstart := knotAt_opened_start (c := c) (s := s) h
  have hend := knotAt_opened_end (c := c) (s := s) h
  rcases crossing_le_one (c := c) (s := s) (c.difference s a) (c.difference s b) with hnone | ⟨k, hone⟩
  · rw [hnone]
    exact List.isChain_cons_cons.mpr ⟨⟨h, hstart, hend⟩, List.isChain_singleton _⟩
  · obtain ⟨h1, h2, hk⟩ := crossing_opened hB (hone ▸ List.mem_singleton_self k)
    rw [hone]
    exact List.isChain_cons_cons.mpr ⟨⟨h1, hstart, hk⟩,
      List.isChain_cons_cons.mpr ⟨⟨h2, hk, hend⟩, List.isChain_singleton _⟩⟩

/-! ## All knots -/

variable (c s) in
/-- Neighbours among the new knots: both in one interval of the envelope. -/
def OpenedPair (p q : Knot K) : Prop :=
  ∃ pre a b post, c.contact.knots = pre ++ a :: b :: post ∧ p.timeSec < q.timeSec ∧
    c.Opened s a.timeSec b.timeSec p ∧ c.Opened s a.timeSec b.timeSec q

/-- The knots from a time of the envelope on: induction on the later knots. -/
theorem slewKnots_chain (hinc : c.contact.knots.IsChain fun p q => p.timeSec < q.timeSec)
    {pre rest : List (Knot K)} {a : Knot K} (hk : c.contact.knots = pre ++ a :: rest) :
    (c.knotAt s a.timeSec :: c.slewKnots s (c.difference s a.timeSec) (rest.map Knot.timeSec)).IsChain
      (c.OpenedPair s) := by
  induction rest generalizing pre a with
  | nil => exact List.isChain_singleton _
  | cons b rest ih =>
    have hlt : a.timeSec < b.timeSec := pair_lt (hk ▸ hinc)
    have hB : AffineOn (boundAt c.contact.knots) a.timeSec b.timeSec := by
      rw [hk] at hinc ⊢
      exact boundAt_affine hinc
    have hsnoc : c.contact.knots = (pre ++ [a]) ++ b :: rest := by
      rw [hk, List.append_assoc, List.singleton_append]
    have hnext := ih hsnoc
    rw [List.map_cons, slewKnots, ← List.cons_append, List.isChain_split]
    refine ⟨?_, hnext⟩
    exact (interval_chain hlt hB).imp fun p q hpq => ⟨pre, a, b, rest, hk, hpq⟩

omit [IsStrictOrderedRing K] in
theorem slewKnots_last (prev : Option (K × K)) (times : List K) :
    (c.slewKnots s prev times).getLast?.map Knot.timeSec = times.getLast? := by
  induction times generalizing prev with
  | nil => rfl
  | cons t rest ih =>
    have hrest := ih (c.difference s t)
    cases rest with
    | nil => simp [slewKnots, knotAt, pushed]
    | cons t' rest =>
      rw [slewKnots, List.getLast?_append, List.getLast?_cons, List.getLast?_cons_cons]
      cases hl : (c.slewKnots s (c.difference s t) (t' :: rest)).getLast? with
      | none =>
        rw [hl, List.getLast?_cons] at hrest
        exact absurd hrest (by simp)
      | some k =>
        rw [hl] at hrest
        simpa using hrest

end SlewCall

end RbServo
