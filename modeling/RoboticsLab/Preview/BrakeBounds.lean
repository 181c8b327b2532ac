import RoboticsLab.Preview.BrakeStart
import Mathlib.Data.Fintype.Basic
import Mathlib.Tactic.FinCases
import Mathlib.Tactic.NormNum

/-!
# A brake between its knots

`boundedInterval` looks at the ends of a piece and at the extremum of its velocity; that decides the
whole piece (`boundedInterval_sound`).  After its last phase an axis keeps the acceleration it has, up to
the common end, where the residual is checked; its velocity is linear there.  So each axis is within its
limits at every time (`atTime_bounds`), and the cube of the angular limits within a ball.
-/

namespace RbServo

open Quadratic Ruckig

variable {K G : Type*} [Field K] [LinearOrder K] [IsStrictOrderedRing K] [Group G]

/-! ## One piece -/

theorem boundedInterval_sound {t v a j vmax amax jmax eps : K}
    (h : boundedInterval t v a j vmax amax jmax eps = true) :
    0 ≤ t ∧ |j| ≤ jmax + eps ∧ ∀ s, 0 ≤ s → s ≤ t →
      |quad v a j s| ≤ vmax + eps ∧ |slopeAt a j s| ≤ amax + eps := by
  unfold boundedInterval at h
  split at h
  · exact absurd h Bool.false_ne_true
  · next ht =>
    simp only at h
    split at h
    · exact absurd h Bool.false_ne_true
    · next hends =>
      push Not at hends
      obtain ⟨hv, hvend, ha, haend, hj⟩ := hends
      split at h
      · exact absurd h Bool.false_ne_true
      · next hext =>
        push Not at hext
        have hq : ∀ s, v + a * s + 1 / 2 * j * s * s = quad v a j s := fun s => by
          unfold quad
          ring
        have hs : a + j * t = slopeAt a j t := by
          unfold slopeAt
          ring
        simp only [hq, bounded] at hvend hext
        rw [bounded, hs] at haend
        refine ⟨not_lt.mp ht, hj, fun s h0 h1 => ⟨?_, abs_slope_le ha haend h0 h1⟩⟩
        exact abs_quad_le_of_extremum hv hvend hext h0 h1

/-! ## Profiles -/

/-- The stored knots are those of the pieces. -/
structure Ruckig.Profile.Consistent (p : Profile K) : Prop where
  brakeT_nonneg : ∀ k, 0 ≤ p.brakeT k
  brakeDuration_eq : p.brakeDuration = p.brakeT 0 + p.brakeT 1
  tSum_zero : p.tSum 0 = p.t 0
  tSum_step : ∀ k : Fin 6, p.tSum k.succ = p.tSum k.castSucc + p.t k.succ
  v_step : ∀ k : Fin 7, p.v k.succ = quad (p.v k.castSucc) (p.a k.castSucc) (p.j k) (p.t k)
  a_step : ∀ k : Fin 7, p.a k.succ = slopeAt (p.a k.castSucc) (p.j k) (p.t k)

namespace Ruckig.Profile

variable {p : Profile K} {time : K}

omit [Field K] [IsStrictOrderedRing K] in
theorem phaseAt_some {k : Fin 7} (h : p.phaseAt time = some k) :
    time < p.tSum k ∧ ∀ i < k, p.tSum i ≤ time := by
  obtain ⟨hk, i, hi, hik, hlt⟩ := List.find?_eq_some_iff_getElem.mp h
  rw [List.getElem_finRange] at hik
  refine ⟨by simpa using hk, fun m hm => ?_⟩
  have hval : m.val < i := by
    have hm' : m.val < k.val := hm
    rw [← hik] at hm'
    simpa using hm'
  have hlen : i < 7 := by simpa using hi
  have hnot := hlt m.val hval
  simpa [List.getElem_finRange] using hnot

omit [Field K] [IsStrictOrderedRing K] in
theorem phaseAt_none (h : p.phaseAt time = none) (k : Fin 7) : p.tSum k ≤ time := by
  have hk := List.find?_eq_none.mp h k (List.mem_finRange k)
  simpa using hk

theorem succ_sub_one (k : Fin 6) : k.succ - 1 = k.castSucc := by
  revert k
  decide

/-- The local time of a phase. -/
theorem phase_local (hc : p.Consistent) {k : Fin 7} (h : p.phaseAt time = some k) (h0 : 0 ≤ time) :
    0 ≤ time - p.phaseStart k ∧ time - p.phaseStart k ≤ p.t k := by
  obtain ⟨hlt, hbefore⟩ := phaseAt_some h
  cases k using Fin.cases with
  | zero =>
    rw [phaseStart, if_pos rfl, sub_zero, ← hc.tSum_zero]
    exact ⟨h0, hlt.le⟩
  | succ k =>
    rw [phaseStart, if_neg (Fin.succ_ne_zero k), succ_sub_one]
    have hb := hbefore k.castSucc Fin.castSucc_lt_succ
    have hs := hc.tSum_step k
    exact ⟨sub_nonneg.mpr hb, by linarith⟩

/-- What the checks of an axis found. -/
structure Fits (p : Profile K) (V A J eps : K) : Prop where
  brake : 0 < p.brakeDuration → ∀ k, 0 < p.brakeT k →
    boundedInterval (p.brakeT k) (p.brakeV k) (p.brakeA k) (p.brakeJ k) V A J eps = true
  phase : ∀ k, boundedInterval (p.t k) (p.v k.castSucc) (p.a k.castSucc) (p.j k) V A J eps = true

variable {V A J eps stop : K}

/-- Before the profile proper, the first piece or the second one runs, and has been checked. -/
theorem brake_bounds (hc : p.Consistent) (hf : p.Fits V A J eps) (h0 : 0 ≤ time)
    (hb : 0 < p.brakeDuration ∧ time < p.brakeDuration) :
    |(p.atTime time).2.1| ≤ V + eps ∧ |(p.atTime time).2.2| ≤ A + eps ∧ |p.jerkAt time| ≤ J + eps := by
  rw [atTime, jerkAt, if_pos hb, if_pos hb]
  by_cases hfirst : time < p.brakeT 0
  · rw [if_pos hfirst, if_pos hfirst]
    obtain ⟨-, hj, hpiece⟩ := boundedInterval_sound (hf.brake hb.1 0 (h0.trans_lt hfirst))
    exact ⟨(hpiece time h0 hfirst.le).1, (hpiece time h0 hfirst.le).2, hj⟩
  · rw [if_neg hfirst, if_neg hfirst]
    have hsum := hc.brakeDuration_eq
    have hle : p.brakeT 0 ≤ time := not_lt.mp hfirst
    have hlocal : time - p.brakeT 0 < p.brakeT 1 := by linarith [hb.2]
    have hlocal0 : 0 ≤ time - p.brakeT 0 := sub_nonneg.mpr hle
    obtain ⟨-, hj, hpiece⟩ := boundedInterval_sound (hf.brake hb.1 1 (hlocal0.trans_lt hlocal))
    exact ⟨(hpiece _ hlocal0 hlocal.le).1, (hpiece _ hlocal0 hlocal.le).2, hj⟩

/-- The time within the profile proper. -/
theorem proper_nonneg (h0 : 0 ≤ time) (hb : ¬ (0 < p.brakeDuration ∧ time < p.brakeDuration)) :
    0 ≤ if 0 < p.brakeDuration then time - p.brakeDuration else time := by
  split
  · next hpos => exact sub_nonneg.mpr (not_lt.mp fun hlt => hb ⟨hpos, hlt⟩)
  · exact h0

/-- **One axis.**  Every instant before the common end, where the velocity has nearly come to rest. -/
theorem atTime_bounds (hc : p.Consistent) (hf : p.Fits V A J eps) (hV : 0 ≤ V) (h0 : 0 ≤ time)
    (hstop : time < stop) (hend : |(p.atTime stop).2.1| ≤ eps) :
    |(p.atTime time).2.1| ≤ V + eps ∧ |(p.atTime time).2.2| ≤ A + eps ∧ |p.jerkAt time| ≤ J + eps := by
  have hJ : 0 ≤ J + eps := (abs_nonneg _).trans (boundedInterval_sound (hf.phase 0)).2.1
  by_cases hb : 0 < p.brakeDuration ∧ time < p.brakeDuration
  · exact brake_bounds hc hf h0 hb
  · have hs0 := proper_nonneg h0 hb
    have hb' : ¬ (0 < p.brakeDuration ∧ stop < p.brakeDuration) :=
      fun h => hb ⟨h.1, hstop.trans h.2⟩
    rw [atTime, if_neg hb'] at hend
    rw [atTime, jerkAt, if_neg hb, if_neg hb]
    set s := if 0 < p.brakeDuration then time - p.brakeDuration else time with hs
    set e := if 0 < p.brakeDuration then stop - p.brakeDuration else stop with he
    have hse : s ≤ e := by
      rw [hs, he]
      split
      · exact sub_le_sub_right hstop.le _
      · exact hstop.le
    cases hk : p.phaseAt s with
    | some k =>
      obtain ⟨hl0, hl1⟩ := phase_local hc hk hs0
      obtain ⟨-, hj, hpiece⟩ := boundedInterval_sound (hf.phase k)
      simp only [hk]
      refine ⟨(hpiece _ hl0 hl1).1, (hpiece _ hl0 hl1).2, ?_⟩
      split
      · rwa [abs_zero]
      · exact hj
    | none =>
      -- after the last phase: velocity and acceleration of its end
      obtain ⟨ht6, -, hlast⟩ := boundedInterval_sound (hf.phase 6)
      have hend6 := hlast (p.t 6) ht6 le_rfl
      have hv7 : p.v 7 = quad (p.v 6) (p.a 6) (p.j 6) (p.t 6) := hc.v_step 6
      have ha7 : p.a 7 = slopeAt (p.a 6) (p.j 6) (p.t 6) := hc.a_step 6
      have hv : |p.v 7| ≤ V + eps := hv7 ▸ hend6.1
      have ha : |p.a 7| ≤ A + eps := ha7 ▸ hend6.2
      have hbeyond := phaseAt_none hk 6
      have hnone : p.phaseAt e = none := by
        refine List.find?_eq_none.mpr fun k _ => ?_
        simpa using (phaseAt_none hk k).trans hse
      simp only [hnone, pieceAt] at hend
      simp only [hk, if_pos hbeyond, abs_zero, pieceAt]
      refine ⟨?_, ?_, hJ⟩
      · have hstopv : |quad (p.v 7) (p.a 7) 0 (e - p.tSum 6)| ≤ V + eps := hend.trans (le_add_of_nonneg_left hV)
        exact abs_quad_le_of_extremum hv hstopv (fun h => absurd rfl h) (sub_nonneg.mpr hbeyond)
          (sub_le_sub_right hse _)
      · rwa [slopeAt, mul_zero, add_zero]

end Ruckig.Profile

/-! ## Norms -/

/-- What the development uses of a square root. -/
def MotionSpace.IsSqrt (sp : MotionSpace K G) : Prop :=
  ∀ x, 0 ≤ x → 0 ≤ sp.sqrt x ∧ sp.sqrt x * sp.sqrt x = x

variable {sp : MotionSpace K G}

omit [Group G] in
theorem mul_self_le_dot (v : Vec3 K) (i : Fin 3) : v i * v i ≤ dot v v := by
  have h0 := mul_self_nonneg (v 0)
  have h1 := mul_self_nonneg (v 1)
  have h2 := mul_self_nonneg (v 2)
  unfold dot
  fin_cases i
  · show v 0 * v 0 ≤ _
    linarith
  · show v 1 * v 1 ≤ _
    linarith
  · show v 2 * v 2 ≤ _
    linarith

omit [Group G] in
theorem dot_self_nonneg (v : Vec3 K) : 0 ≤ dot v v := (mul_self_nonneg (v 0)).trans (mul_self_le_dot v 0)

theorem abs_le_norm6 (hsqrt : sp.IsSqrt) (x : Axes K) (i : Fin (3 + 3)) : |x i| ≤ BrakeUnit.norm6 sp x := by
  have hl := dot_self_nonneg x.linear
  have ha := dot_self_nonneg x.angular
  obtain ⟨hn, hsq⟩ := hsqrt _ (add_nonneg hl ha)
  have hx : x i * x i ≤ dot x.linear x.linear + dot x.angular x.angular := by
    cases i using Fin.addCases with
    | left i => exact (mul_self_le_dot x.linear i).trans (le_add_of_nonneg_right ha)
    | right i => exact (mul_self_le_dot x.angular i).trans (le_add_of_nonneg_left hl)
  refine (mul_self_le_mul_self_iff (abs_nonneg _) hn).mpr ?_
  rw [abs_mul_abs_self]
  exact hx.trans hsq.ge

/-- A cube of the half edge `c / √3`, widened by `eps`, lies in a ball. -/
theorem norm_le_of_cube (hsqrt : sp.IsSqrt) {v : Vec3 K} {c eps : K}
    (h : ∀ i, |v i| ≤ c / sp.sqrt 3 + eps) : sp.norm v ≤ c + sp.sqrt 3 * eps := by
  obtain ⟨h3, h33⟩ := hsqrt 3 (by norm_num)
  have h3ne : sp.sqrt 3 ≠ 0 := by
    intro h0
    rw [h0, mul_zero] at h33
    norm_num at h33
  set m := c / sp.sqrt 3 + eps with hm
  have hm0 : 0 ≤ m := (abs_nonneg _).trans (h 0)
  have hedge : sp.sqrt 3 * m = c + sp.sqrt 3 * eps := by
    rw [hm, mul_add, mul_div_cancel₀ c h3ne]
  have hsquare : ∀ i, v i * v i ≤ m * m := fun i => by
    rw [← abs_mul_abs_self (v i)]
    exact mul_self_le_mul_self (abs_nonneg _) (h i)
  have hdot : dot v v ≤ sp.sqrt 3 * m * (sp.sqrt 3 * m) := by
    have hsum : dot v v ≤ 3 * (m * m) := by
      have e0 := hsquare 0
      have e1 := hsquare 1
      have e2 := hsquare 2
      unfold dot
      linarith
    calc dot v v ≤ 3 * (m * m) := hsum
      _ = sp.sqrt 3 * sp.sqrt 3 * (m * m) := by rw [h33]
      _ = sp.sqrt 3 * m * (sp.sqrt 3 * m) := by ring
  obtain ⟨hn, hnn⟩ := hsqrt _ (dot_self_nonneg v)
  rw [← hedge]
  refine (mul_self_le_mul_self_iff hn (mul_nonneg h3 hm0)).mpr ?_
  rw [hnn]
  exact hdot

end RbServo
