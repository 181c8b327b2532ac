import RoboticsLab.Lib.Binary64
import RoboticsLab.Lib.OverwriteRing
import RoboticsLab.Lib.Runs
import Mathlib.Tactic.Linarith

/-!
# `rb_servo/control/cartesian_chunk_follower.cpp`: the sliding-window rate budget

`recordAndCheckRateBudget` writes a stamp into a ring the caller owns and counts the stamps of the
ring that lie in the window.  The ring forgets all but its last `capacity` stamps; with stamps that
do not go back and a capacity above the budget, the answer is still the one over the whole history:

    spent ↔ max_in_window < #{t ∈ history | now - t ≤ window}                (rateBudget_exact)

The window is the product `window_sec * 1e9` of doubles, which may be above the exact one
(`window_rounds_up`).
-/

namespace RbServo.RateBudget

open OverwriteRing Runs

/-! ## Algorithm -/

/-- `static_cast<uint64_t>(window_sec * 1e9)`. -/
def windowNs (windowSec : Double) : ℕ := (windowSec.mul (.fin 1000000000)).round.toU64

/-- The loop's test of one stamp.  A backwards clock counts as inside the window. -/
def inWindow (nowNs window stamp : ℕ) : Bool :=
  decide (stamp ≠ 0) && (decide (nowNs < stamp) || decide (nowNs - stamp ≤ window))

/-- The ring with its head after the call, and whether the budget is spent.  A null ring is an empty
one. -/
def recordAndCheckRateBudget (c : Cells ℕ) (nowNs : ℕ) (windowSec : Double) (maxInWindow : ℤ) :
    Cells ℕ × Bool :=
  if c.ring.length = 0 then (c, true)
  else if Double.lt (.fin 0) windowSec = false ∨ maxInWindow ≤ 0 then (c, true)
  else
    let c := push c nowNs
    (c, decide (maxInWindow < c.ring.countP (inWindow nowNs (windowNs windowSec))))

/-! ## Statement -/

/-- The zero-initialised ring after the calls with these stamps. -/
def ringAfter (capacity : ℕ) (windowSec : Double) (maxInWindow : ℤ) (stamps : List ℕ) : Cells ℕ :=
  stamps.foldl (fun c t => (recordAndCheckRateBudget c t windowSec maxInWindow).1)
    (.filled capacity 0)

/-- `t` lies within `p` nanoseconds of `now`. -/
def within (p : ℚ) (now t : ℕ) : Bool := decide ((now : ℚ) - t ≤ p)

/-- With a window of `w` seconds the call answers by the stamps of the whole history within `p`
nanoseconds, the stamp just recorded included. -/
def Exact (capacity : ℕ) (w p : ℚ) (maxInWindow : ℤ) (pre : List ℕ) (now : ℕ) : Prop :=
  (recordAndCheckRateBudget (ringAfter capacity (.fin w) maxInWindow pre) now (.fin w)
      maxInWindow).2 = true ↔
    maxInWindow < (pre ++ [now]).countP (within p now)

/-! ## The window -/

/-- The truncated product agrees with the product on whole nanoseconds. -/
theorem le_windowNs_iff {w p : ℚ} (hw : 0 < w) (hp : Double.ofRat (w * 1000000000) = .fin p)
    (hcast : p < 2 ^ 64) (n : ℕ) : n ≤ windowNs (.fin w) ↔ (n : ℚ) ≤ p := by
  have hpos : 0 ≤ p := Double.nonneg_of_ofRat (by positivity) hp
  have hfloor : 0 ≤ ⌊p⌋ := Int.floor_nonneg.mpr hpos
  have hlt : ⌊p⌋ < 2 ^ 64 := by
    rw [Int.floor_lt]
    exact_mod_cast hcast
  have hns : windowNs (.fin w) = ⌊p⌋.toNat := by
    rw [windowNs, Double.mul, Double.round, hp]
    exact u64_of_lt (by omega)
  rw [hns, Int.le_toNat hfloor, Int.le_floor]
  norm_cast

/-- For a nonzero stamp that is not ahead, the loop's test is the one with the product. -/
theorem inWindow_eq_within {w p : ℚ} (hw : 0 < w) (hp : Double.ofRat (w * 1000000000) = .fin p)
    (hcast : p < 2 ^ 64) {now t : ℕ} (ht : t ≠ 0) (hle : t ≤ now) :
    inWindow now (windowNs (.fin w)) t = within p now t := by
  have hiff := le_windowNs_iff hw hp hcast (now - t)
  rw [Nat.cast_sub hle] at hiff
  unfold inWindow within
  simp [ht, not_lt.mpr hle, hiff]

/-! ## Runs -/

theorem record_eq {c : Cells ℕ} (hc : c.ring.length ≠ 0) {w : ℚ} (hw : 0 < w) {maxInWindow : ℤ}
    (hmax : 1 ≤ maxInWindow) (now : ℕ) :
    recordAndCheckRateBudget c now (.fin w) maxInWindow = (push c now,
      decide (maxInWindow < (push c now).ring.countP (inWindow now (windowNs (.fin w))))) := by
  have hwindow : Double.lt (.fin 0) (.fin w) = true := by
    simpa [Double.lt] using hw
  unfold recordAndCheckRateBudget
  rw [if_neg hc, if_neg (by rw [hwindow]; simp; omega)]

theorem ringAfter_eq {capacity : ℕ} (hcap : 0 < capacity) {w : ℚ} (hw : 0 < w) {maxInWindow : ℤ}
    (hmax : 1 ≤ maxInWindow) (stamps : List ℕ) :
    ringAfter capacity (.fin w) maxInWindow stamps = pushAll (.filled capacity 0) stamps := by
  induction stamps using List.reverseRecOn with
  | nil => rfl
  | append_singleton stamps t ih =>
    have hfits : (Cells.filled capacity (0 : ℕ)).head < (Cells.filled capacity (0 : ℕ)).ring.length := by
      simpa [Cells.filled] using hcap
    have hlen := pushAll_fits hfits stamps
    unfold ringAfter pushAll at ih hlen ⊢
    rw [List.foldl_append, List.foldl_append, ih, List.foldl_cons, List.foldl_nil,
      record_eq (by omega) hw hmax]
    rfl

/-- A stamp no older than one within the window is within it. -/
theorem within_mono {p : ℚ} {now s t : ℕ} (hst : s ≤ t) (h : within p now s = true) :
    within p now t = true := by
  simp only [within, decide_eq_true_eq] at h ⊢
  have hcast : (s : ℚ) ≤ t := Nat.cast_le.mpr hst
  linarith

/-- **Every call** of every run on one zeroed ring answers by the whole history. -/
theorem rateBudget_exact (capacity : ℕ) (w p : ℚ) (maxInWindow : ℤ) (hmax : 1 ≤ maxInWindow)
    (hcap : maxInWindow < capacity) (hw : 0 < w) (hp : Double.ofRat (w * 1000000000) = .fin p)
    (hcast : p < 2 ^ 64) (stamps : List ℕ) (hnonzero : ∀ t ∈ stamps, t ≠ 0)
    (horder : stamps.Pairwise (· ≤ ·)) : EveryStep (Exact capacity w p maxInWindow) stamps := by
  rintro pre now post rfl
  have hpos : 0 < capacity := by omega
  have hfits : (Cells.filled capacity (0 : ℕ)).head < (Cells.filled capacity (0 : ℕ)).ring.length := by
    simpa [Cells.filled] using hpos
  have hlen := pushAll_fits hfits pre
  have hpush : push (pushAll (.filled capacity 0) pre) now =
      pushAll (.filled capacity 0) (pre ++ [now]) := by
    simp [pushAll]
  have hseen : ∀ t ∈ pre ++ [now], t ≠ 0 ∧ t ≤ now := by
    intro t ht
    rw [List.pairwise_append] at horder
    rcases List.mem_append.mp ht with hpre | hnow
    · exact ⟨hnonzero t (by simp [hpre]), horder.2.2 t hpre now (by simp)⟩
    · obtain rfl := List.mem_singleton.mp hnow
      exact ⟨hnonzero t (by simp), le_rfl⟩
  have hsorted : (pre ++ [now]).Pairwise (· ≤ ·) :=
    horder.sublist (List.Sublist.append_left (List.singleton_sublist.mpr (by simp)) pre)
  -- the ring's own count is the exact one over the stamps it kept
  have hring : (pushAll (.filled capacity 0) (pre ++ [now])).ring.countP
        (inWindow now (windowNs (.fin w))) =
      ((pre ++ [now]).drop ((pre ++ [now]).length - capacity)).countP (within p now) := by
    rw [countP_pushAll hpos (by rfl)]
    refine List.countP_congr fun t ht => ?_
    obtain ⟨hne, hle⟩ := hseen t (List.mem_of_mem_drop ht)
    rw [inWindow_eq_within hw hp hcast hne hle]
  -- and the stamps it forgot cannot tip the answer
  have hforgot : maxInWindow.toNat <
        ((pre ++ [now]).drop ((pre ++ [now]).length - capacity)).countP (within p now) ↔
      maxInWindow.toNat < (pre ++ [now]).countP (within p now) := by
    have hsplit := List.take_append_drop ((pre ++ [now]).length - capacity) (pre ++ [now])
    conv_rhs => rw [← hsplit]
    apply lt_countP_kept_iff
    · intro hsome
      have hmore : 0 < (pre ++ [now]).length - capacity := by
        rw [Nat.pos_iff_ne_zero]
        intro hzero
        rw [hzero] at hsome
        exact hsome rfl
      rw [List.length_drop]
      omega
    · intro s hs hin t ht
      rw [← hsplit, List.pairwise_append] at hsorted
      exact within_mono (hsorted.2.2 s hs t ht) hin
  unfold Exact
  rw [ringAfter_eq hpos hw hmax, record_eq (by omega) hw hmax, hpush, hring, decide_eq_true_eq]
  omega

/-- Two recoveries allowed in 5 s, on a ring of three: the fourth call, 5 s after the second, spends
the budget. -/
theorem rateBudget_exact_sample :
    (recordAndCheckRateBudget (ringAfter 3 (.fin 5) 2 [1, 2000000000, 6000000000]) 7000000000
      (.fin 5) 2).2 = true ∧
    EveryStep (Exact 3 5 5000000000 2) [1, 2000000000, 6000000000, 7000000000, 13000000000] :=
  ⟨by decide +kernel, rateBudget_exact 3 5 5000000000 2 (by decide) (by decide) (by norm_num)
    (by decide +kernel) (by norm_num) [1, 2000000000, 6000000000, 7000000000, 13000000000]
    (by decide) (by decide)⟩

/-- The double of 0.3 is below 0.3, and its product with 1e9 rounds to 300000000: a stamp that long
ago counts, and is outside the exact window. -/
theorem window_rounds_up :
    ¬ ∀ (capacity : ℕ) (w : ℚ) (maxInWindow : ℤ), 1 ≤ maxInWindow → maxInWindow < capacity → 0 < w →
      Double.ofRat w = .fin w → w * 1000000000 < 2 ^ 64 →
      ∀ stamps : List ℕ, (∀ t ∈ stamps, t ≠ 0) → stamps.Pairwise (· ≤ ·) →
        EveryStep (Exact capacity w (w * 1000000000) maxInWindow) stamps := by
  intro h
  have hrun := h 2 (5404319552844595 / 2 ^ 54) 1 (by decide) (by decide) (by norm_num)
    (by decide +kernel) (by norm_num) [1, 300000001] (by decide) (by decide) [1] 300000001 [] rfl
  revert hrun
  unfold Exact
  decide +kernel

end RbServo.RateBudget
