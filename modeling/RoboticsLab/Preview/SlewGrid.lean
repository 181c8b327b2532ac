import RoboticsLab.Preview.SlewKnots

/-!
# The slew on the servo grid

An envelope built on a servo grid has its knots at the multiples of the period (`gridded_of_build`), so
that an interval between two of them lies on one side of `tau` and of the end of the profile, and no time
is merged into them.  The profile lasts whole planning steps and ends on the scaled nominal path
(`selectProfile_spec`).
-/

namespace RbServo

open Clamp Quadratic PreviewContactConstraint

/-! ## The grid -/

section Grid

variable {K G : Type*} [Field K] [LinearOrder K] [IsStrictOrderedRing K] [FloorSemiring K] [Group G]
variable {sp : MotionSpace K G} {path : PreviewPolynomialTrajectory K G} {h : K}

/-- The knots stand at the first `n + 1` multiples of the period. -/
def Gridded (h : K) (n : ℕ) (knots : List (Knot K)) : Prop :=
  knots.map Knot.timeSec = (List.range (n + 1)).map fun i : ℕ => (i : K) * h

theorem gridded_closes {n : Vec3 K} {g slack : K} {segment k : ℕ} (hh : 0 < h) (hstep : path.stepSec = k * h)
    {a : K} {x : PreviewMotionState K G} {b b' : Built K} (hb : ∃ i : ℕ, a = i * h ∧ Gridded h i b.knots)
    (hc : Closes sp n path g h slack segment a x b b') :
    ∃ i : ℕ, min (a + h) ((segment + 1 : ℕ) * path.stepSec) = i * h ∧ Gridded h i b'.knots := by
  obtain ⟨i, rfl, htimes⟩ := hb
  have hend : ((segment + 1 : ℕ) : K) * path.stepSec = ((segment + 1) * k : ℕ) * h := by
    rw [hstep, Nat.cast_mul]
    ring
  have hnext : (i : K) * h + h = (i + 1 : ℕ) * h := by
    rw [Nat.cast_add_one]
    ring
  have hlt := hc.lt_next.trans_le (min_le_right _ _)
  rw [hend] at hlt
  have hile : i + 1 ≤ (segment + 1) * k := Nat.cast_lt.mp (lt_of_mul_lt_mul_right hlt hh.le)
  have hmin : min ((i : K) * h + h) ((segment + 1 : ℕ) * path.stepSec) = (i + 1 : ℕ) * h := by
    rw [hnext, hend]
    exact min_eq_left (mul_le_mul_of_nonneg_right (Nat.cast_le.mpr hile) hh.le)
  refine ⟨i + 1, hmin, ?_⟩
  rw [hc.eq, hmin]
  simp only [Gridded, Built.close, Built.knots, widen, List.reverse_cons, List.map_append, List.map_cons,
    List.map_nil, List.map_reverse] at htimes ⊢
  rw [htimes, List.range_succ (n := i + 1), List.map_append, List.map_cons, List.map_nil]

/-- **A build on the grid.** -/
theorem gridded_of_build {contact : PreviewContactConstraint K} {env : Envelope K} {g slack : K} {k : ℕ}
    (hstep : path.stepSec = k * h)
    (hbuild : buildContactEnvelope sp contact path (some g) h (some slack) = some env) :
    Gridded h (path.count * k) env.knots := by
  obtain ⟨-, -, hh, -, hpos, -, -, st, hfold, hknots, -⟩ := buildContactEnvelope_spec hbuild
  have hstart : ∃ i : ℕ, (0 : K) = i * h ∧ Gridded h i (⟨⟨0, 0, .posInf⟩, []⟩ : Built K).knots :=
    ⟨0, by simp, by simp [Gridded, Built.knots]⟩
  obtain ⟨i, hi, hgrid⟩ := segments_rule (P := fun a b => ∃ i : ℕ, a = i * h ∧ Gridded h i b.knots)
    (fun hb hc => gridded_closes hh hstep hb hc) hpos le_rfl hstart hfold
  have hcast : ((path.count * k : ℕ) : K) = i := by
    rw [hstep, ← mul_assoc, ← Nat.cast_mul] at hi
    exact mul_right_cancel₀ hh.ne' hi
  rw [hknots, Nat.cast_injective hcast]
  exact hgrid

variable {n : ℕ} {knots pre post : List (Knot K)} {a b : Knot K}

omit [LinearOrder K] [IsStrictOrderedRing K] [FloorSemiring K] in
/-- Two neighbours on the grid. -/
theorem gridded_pair (hgrid : Gridded h n (pre ++ a :: b :: post)) :
    a.timeSec = pre.length * h ∧ b.timeSec = (pre.length + 1 : ℕ) * h ∧ pre.length < n := by
  have hlen := congrArg List.length hgrid
  simp only [List.length_map, List.length_append, List.length_cons, List.length_range] at hlen
  have hat := congrArg (fun l => l[pre.length]?) hgrid
  have hbt := congrArg (fun l => l[pre.length + 1]?) hgrid
  have h1 : pre.length < n + 1 := by omega
  have h2 : pre.length + 1 < n + 1 := by omega
  simp only [List.map_append, List.map_cons, List.getElem?_append_right, List.length_map, le_refl,
    Nat.sub_self, List.getElem?_cons_zero, List.getElem?_map, List.getElem?_range h1, Option.map_some,
    Option.some.injEq] at hat
  simp only [List.map_append, List.map_cons, List.getElem?_append_right, List.length_map,
    Nat.le_add_right, Nat.add_sub_cancel_left, List.getElem?_cons_succ, List.getElem?_cons_zero,
    List.getElem?_map, List.getElem?_range h2, Option.map_some, Option.some.injEq] at hbt
  exact ⟨hat, hbt, by omega⟩

omit [FloorSemiring K] in
/-- No multiple of the period lies inside an interval. -/
theorem gridded_phase (hh : 0 < h) (hgrid : Gridded h n (pre ++ a :: b :: post)) (m : ℕ) :
    b.timeSec ≤ m * h ∨ m * h ≤ a.timeSec := by
  obtain ⟨ha, hb, -⟩ := gridded_pair hgrid
  rw [ha, hb]
  rcases Nat.lt_or_ge pre.length m with hlt | hge
  · exact Or.inl (mul_le_mul_of_nonneg_right (Nat.cast_le.mpr hlt) hh.le)
  · exact Or.inr (mul_le_mul_of_nonneg_right (Nat.cast_le.mpr hge) hh.le)

omit [FloorSemiring K] in
theorem gridded_increasing (hh : 0 < h) (hgrid : Gridded h n knots) :
    (knots.map Knot.timeSec).Pairwise (· < ·) := by
  rw [hgrid, List.pairwise_map]
  refine (List.pairwise_lt_range (n := n + 1)).imp fun hij => ?_
  exact mul_lt_mul_of_pos_right (Nat.cast_lt.mpr hij) hh

/-! ## The merged times -/

omit [IsStrictOrderedRing K] [FloorSemiring K] in
theorem mergeTimes_inserted (T : K) (times : List K) : SlewCall.mergeTimes T true times = times := by
  induction times with
  | nil => rfl
  | cons t rest ih => simp [SlewCall.mergeTimes, ih]

omit [FloorSemiring K] in
/-- Nothing is merged into times that contain the end of the profile, or stay before it. -/
theorem mergeTimes_eq {T : K} {times : List K} (hinc : times.Pairwise (· < ·))
    (hT : T ∈ times ∨ ∀ t ∈ times, t ≤ T) : SlewCall.mergeTimes T false times = times := by
  induction times with
  | nil => rfl
  | cons t rest ih =>
    obtain ⟨hfirst, hrest⟩ := List.pairwise_cons.mp hinc
    have hle : t ≤ T := by
      rcases hT with hmem | hall
      · rcases List.mem_cons.mp hmem with rfl | hmem
        · exact le_rfl
        · exact (hfirst T hmem).le
      · exact hall t List.mem_cons_self
    have hno : ¬ (T + 1 / 10 ^ 12 < t) := not_lt.mpr (hle.trans (by simp))
    rw [SlewCall.mergeTimes, if_neg fun hgo => hno hgo.2]
    by_cases hnear : |t - T| ≤ 1 / 10 ^ 12
    · rw [decide_eq_true hnear, Bool.or_true, mergeTimes_inserted]
    · have htail : T ∈ rest ∨ ∀ x ∈ rest, x ≤ T := by
        rcases hT with hmem | hall
        · refine Or.inl ((List.mem_cons.mp hmem).resolve_left ?_)
          rintro rfl
          simp at hnear
        · exact Or.inr fun x hx => hall x (List.mem_cons_of_mem t hx)
      rw [decide_eq_false hnear, Bool.or_false, ih hrest htail]

omit [FloorSemiring K] in
theorem mergeTimes_gridded (hh : 0 < h) (hgrid : Gridded h n knots) (m : ℕ) :
    SlewCall.mergeTimes (m * h) false (knots.map Knot.timeSec) = knots.map Knot.timeSec := by
  refine mergeTimes_eq (gridded_increasing hh hgrid) ?_
  rw [hgrid]
  rcases Nat.lt_or_ge m (n + 1) with hlt | hge
  · exact Or.inl (List.mem_map_of_mem (List.mem_range.mpr hlt))
  · refine Or.inr fun t ht => ?_
    obtain ⟨i, hi, rfl⟩ := List.mem_map.mp ht
    have him : i ≤ m := (List.mem_range.mp hi).le.trans hge
    exact mul_le_mul_of_nonneg_right (Nat.cast_le.mpr him) hh.le

end Grid

/-! ## A call that succeeds -/

section Call

variable {K G : Type*} [Field K] [LinearOrder K] [IsStrictOrderedRing K] [FloorSemiring K] [Group G]
variable {sp : MotionSpace K G} {c : SlewCall K G} {s : SlewProfile K}

omit [FloorSemiring K] [Group G] in
/-- The end of a profile that fits is its landing. -/
theorem fit_lands {jCap tau : K} {landing : K × K} (htau : 0 < tau) (h : c.fit jCap tau landing = some s) :
    s.tau = tau ∧ (s.profile s.stop).1 = landing.1 := by
  unfold SlewCall.fit at h
  dsimp only at h
  split at h
  · obtain rfl := Option.some.inj h
    refine ⟨rfl, ?_⟩
    rw [SlewProfile.profile_after (by simp only [SlewProfile.stop]; linarith)]
    simp only [SlewProfile.stop, quad, slopeAt]
    field_simp
    ring
  · exact absurd h (by simp)

omit [IsStrictOrderedRing K] in
/-- **The choice.**  Induction on the candidates left. -/
theorem search_spec {l : List (K × ℕ)} (h : c.search sp l = some s) :
    ∃ jCap m landing, (jCap, m) ∈ l ∧ c.landing sp jCap (2 * (m * c.tracker.planningDtSec)) = some landing ∧
      c.fit jCap (m * c.tracker.planningDtSec) landing = some s := by
  induction l with
  | nil => exact absurd h (by simp [SlewCall.search])
  | cons x rest ih =>
    obtain ⟨jCap, m⟩ := x
    rw [SlewCall.search] at h
    split at h
    · exact absurd h (by simp)
    · next landing hl =>
      split at h
      · next s' hf =>
        obtain rfl := Option.some.inj h
        exact ⟨jCap, m, landing, List.mem_cons_self, hl, hf⟩
      · obtain ⟨jCap', m', landing', hmem, hrest⟩ := ih h
        exact ⟨jCap', m', landing', List.mem_cons_of_mem _ hmem, hrest⟩

/-- The profile of a call with a nominal path: whole planning steps, and the scaled closing velocity of
the path at its end. -/
theorem selectProfile_spec {path : PreviewPolynomialTrajectory K G} (hpath : c.nominalPath = some path)
    (hplan : 0 < c.tracker.planningDtSec) (h : c.selectProfile sp = some s) :
    ∃ m : ℕ, s.tau = m * c.tracker.planningDtSec ∧ 0 < s.tau ∧ (s.stop ≤ c.horizon →
      (s.profile s.stop).1 = c.gate * closingVelocity sp c.contact.normalStand path s.stop) := by
  obtain ⟨jCap, m, landing, hmem, hl, hf⟩ := search_spec h
  have hm : 0 < m := by
    obtain ⟨j, -, hj⟩ := List.mem_flatMap.mp hmem
    obtain ⟨i, -, hi⟩ := List.mem_map.mp hj
    obtain ⟨-, rfl⟩ := Prod.mk.inj hi
    exact i.succ_pos
  have htau : 0 < (m : K) * c.tracker.planningDtSec := mul_pos (Nat.cast_pos.mpr hm) hplan
  obtain ⟨hs, hland⟩ := fit_lands htau hf
  refine ⟨m, hs, hs ▸ htau, fun hle => ?_⟩
  rw [hland]
  have hstop : s.stop = 2 * (m * c.tracker.planningDtSec) := congrArg (2 * ·) hs
  rw [SlewCall.landing, hpath, ← hstop, min_eq_left hle] at hl
  obtain ⟨x, hx, rfl⟩ := Option.map_eq_some_iff.mp hl
  rw [closingVelocity, hx, Option.map_some, Option.getD_some]

omit [IsStrictOrderedRing K] in
/-- The knots of a call that succeeds. -/
theorem slewContactAuthority_spec {contact out : Envelope K} {v0 a0 h g : K} {tracker : PreviewTrackerConfig K}
    {nominal : Option (PreviewPolynomialTrajectory K G)}
    (hslew : slewContactAuthority sp contact (some v0) (some a0) tracker h nominal (some g) = some out) :
    0 < tracker.planningDtSec ∧ 2 ≤ contact.knots.length ∧
      ∃ s, SlewCall.selectProfile sp ⟨contact, v0, a0, tracker, h, nominal, g⟩ = some s ∧
        out.knots = SlewCall.slewKnots (⟨contact, v0, a0, tracker, h, nominal, g⟩ : SlewCall K G) s none
          (SlewCall.mergeTimes s.stop false (contact.knots.map Knot.timeSec)) := by
  unfold slewContactAuthority at hslew
  dsimp only at hslew
  split at hslew
  · exact absurd hslew (by simp)
  · next hguard =>
    push Not at hguard
    obtain ⟨-, -, -, -, hplan, -, -, htwo, -⟩ := hguard
    split at hslew
    · exact absurd hslew (by simp)
    · split at hslew
      · exact absurd hslew (by simp)
      · next s hs =>
        split at hslew
        · exact absurd hslew (by simp)
        · split at hslew
          · exact absurd hslew (by simp)
          · obtain rfl := Option.some.inj hslew
            exact ⟨hplan, htwo, s, hs, rfl⟩

end Call

end RbServo
