import RoboticsLab.Chunk.Window
import RoboticsLab.Lib.Runs
import RoboticsLab.Servo.CommandParse
import Mathlib.Algebra.Group.PUnit

/-!
# The bookkeeping of the chunk window, in ints

`activate` clamps the consume count so that `L + C + R ≤ horizon`, in 32-bit ints: as long as `n - L - R` is one
(`FitsInt`), the clamp is exact, the index runs from `L` in step with the count, and the budget and the tail end where
they should.  `discard_head_steps` and `reserve_steps` have no upper bound: two large ones wrap the clamp to a small
positive number.

    (∀ activate frame in ops, FitsInt cfg frame) → hasStep → k + R < horizon, and from an accepted frame on
      L + budget + R ≤ horizon, hasStep for min(C, horizon - L - R) steps, hasTailStep for horizon - L
                                                                                    (window_bookkeeping)
-/

namespace RbServo

namespace ChunkWindowConfig

/-- `L` of `activate`. -/
def discard (cfg : ChunkWindowConfig) : ℤ := max 0 cfg.discardHeadL

/-- `R` of `activate`. -/
def reserve (cfg : ChunkWindowConfig) : ℤ := max 1 cfg.reserveR

/-- `half` of `activate`; the division is towards zero. -/
def smoothingHalf (cfg : ChunkWindowConfig) : ℕ := (max 0 ((toInt32 (cfg.smoothingWindow - 1)).tdiv 2)).toNat

/-- `c_eff` of `activate` for `n` waypoints. -/
def consumeRoomInt (cfg : ChunkWindowConfig) (n : ℕ) : ℤ :=
  min cfg.consumeC (toInt32 (toInt32 (toInt32 n - cfg.discard) - cfg.reserve))

/-- The number of waypoints, and what `L` and `R` leave of it, are ints. -/
def FitsInt (cfg : ChunkWindowConfig) (n : ℕ) : Prop := n < 2 ^ 31 ∧ -2 ^ 31 ≤ (n : ℤ) - cfg.discard - cfg.reserve

instance (cfg : ChunkWindowConfig) (n : ℕ) : Decidable (cfg.FitsInt n) := inferInstanceAs (Decidable (_ ∧ _))

end ChunkWindowConfig

namespace ChunkWindow

variable {K G : Type*} [Field K] [LinearOrder K] [Group G]

/-! ## The operations -/

/-- The window over an accepted frame; `2 half + 1` waypoints have `half` of them on each side. -/
def opened (sp : RigidSpace K G) (w : ChunkWindow K G) (frame : ChunkFrame K G) : ChunkWindow K G :=
  { w with
      pose := smooth sp (2 * w.cfg.smoothingHalf + 1) frame.pose
      grip := resizeGrip frame.grip frame.pose.length
      dt := if 1 / 10 ^ 6 < frame.policyDt then frame.policyDt else 1 / 30
      wireSeq := frame.wireSeq
      recvSeq := frame.recvSeq
      recv := frame.recvTime
      k := w.cfg.discard.toNat
      consumed := 0
      consumeEff := w.cfg.consumeRoomInt frame.pose.length
      active := true }

/-- The window after `activate`. -/
def activateInt (sp : RigidSpace K G) (w : ChunkWindow K G) (frame : ChunkFrame K G) : ChunkWindow K G :=
  if w.cfg.consumeRoomInt frame.pose.length < 1 then { w with active := false } else w.opened sp frame

/-- The result of `activate`. -/
def Accepts (w : ChunkWindow K G) (frame : ChunkFrame K G) : Prop := ¬ w.cfg.consumeRoomInt frame.pose.length < 1

instance (w : ChunkWindow K G) (frame : ChunkFrame K G) : Decidable (w.Accepts frame) :=
  inferInstanceAs (Decidable (¬ _))

def advanceInt (w : ChunkWindow K G) : ChunkWindow K G :=
  { w with k := w.k + 1, consumed := toInt32 (w.consumed + 1) }

def hasStep (w : ChunkWindow K G) : Bool :=
  w.active && decide (w.consumed < w.consumeEff) && decide (w.k + 1 < w.pose.length)

/-- The calls; `advance` only while there is a tail step. -/
inductive WindowOp (K G : Type*)
  | activate (frame : ChunkFrame K G)
  | advance
  | deactivate

def stepInt (sp : RigidSpace K G) (w : ChunkWindow K G) : WindowOp K G → ChunkWindow K G
  | .activate frame => w.activateInt sp frame
  | .advance => if w.hasTailStep then w.advanceInt else w
  | .deactivate => w.deactivate

def afterInt (sp : RigidSpace K G) (cfg : ChunkWindowConfig) (ops : List (WindowOp K G)) : ChunkWindow K G :=
  ops.foldl (stepInt sp) (create cfg)

/-! ## Sizes -/

/-- Without overflow the clamp is the one of the integers. -/
theorem consumeRoomInt_eq {cfg : ChunkWindowConfig} {n : ℕ} (h : cfg.FitsInt n) :
    cfg.consumeRoomInt n = consumeRoom cfg n := by
  obtain ⟨hn, hroom⟩ := h
  have hdiscard : 0 ≤ cfg.discard := le_max_left 0 _
  have hreserve : 1 ≤ cfg.reserve := le_max_left 1 _
  unfold ChunkWindowConfig.consumeRoomInt consumeRoom
  rw [toInt32_of_range (i := (n : ℤ)) (by omega) (by omega),
    toInt32_of_range (i := (n : ℤ) - cfg.discard) (by omega) (by omega),
    toInt32_of_range hroom (by omega)]
  rfl

omit [LinearOrder K] in
theorem length_smooth (sp : RigidSpace K G) (smoothingWindow : ℤ) (src : List (StandPose K G)) :
    (smooth sp smoothingWindow src).length = src.length := by
  unfold smooth
  dsimp only
  split_ifs
  · rw [List.length_map, List.length_range]
  · rfl

omit [LinearOrder K] [Group G] in
theorem length_resizeGrip (grip : List K) (n : ℕ) : (resizeGrip grip n).length = n := by
  unfold resizeGrip
  rw [List.length_append, List.length_take, List.length_replicate]
  omega

omit [LinearOrder K] in
theorem smooth_congr (sp : RigidSpace K G) {s s' : ℤ} (h : (max 0 ((s - 1) / 2)).toNat = (max 0 ((s' - 1) / 2)).toNat)
    (src : List (StandPose K G)) : smooth sp s src = smooth sp s' src := by
  unfold smooth
  dsimp only
  rw [h]

/-- Without overflow the call is the one on integers. -/
theorem activateInt_eq (sp : RigidSpace K G) {w : ChunkWindow K G} {frame : ChunkFrame K G}
    (h : w.cfg.FitsInt frame.pose.length) (hlo : -2 ^ 31 < w.cfg.smoothingWindow)
    (hhi : w.cfg.smoothingWindow < 2 ^ 31) :
    w.activate sp frame = (w.activateInt sp frame, decide (w.Accepts frame)) := by
  have hhalf : (max 0 ((2 * (w.cfg.smoothingHalf : ℤ) + 1 - 1) / 2)).toNat =
      (max 0 ((w.cfg.smoothingWindow - 1) / 2)).toNat := by
    unfold ChunkWindowConfig.smoothingHalf
    rw [toInt32_of_range (by omega) (by omega)]
    rcases le_or_gt 0 (w.cfg.smoothingWindow - 1) with hpos | hneg
    · rw [Int.tdiv_eq_ediv_of_nonneg hpos]
      omega
    · have hnonpos : (w.cfg.smoothingWindow - 1).tdiv 2 ≤ 0 := by
        rw [← neg_neg (w.cfg.smoothingWindow - 1), Int.neg_tdiv, Int.tdiv_eq_ediv_of_nonneg (by omega)]
        omega
      omega
  have haccepts : w.Accepts frame ↔ ¬ consumeRoom w.cfg frame.pose.length < 1 := by
    rw [Accepts, consumeRoomInt_eq h]
  by_cases hshort : consumeRoom w.cfg frame.pose.length < 1
  · have hrefused : ¬ w.Accepts frame := fun hacc => haccepts.mp hacc hshort
    rw [decide_eq_false hrefused, activate, activateInt, consumeRoomInt_eq h, if_pos hshort, if_pos hshort]
  · rw [decide_eq_true (haccepts.mpr hshort), activate, activateInt, consumeRoomInt_eq h, if_neg hshort, if_neg hshort]
    unfold opened
    rw [consumeRoomInt_eq h, smooth_congr sp hhalf]
    rfl

/-! ## The invariant -/

/-- The index, the count, the budget and the horizon of an active window agree. -/
structure Booked (w : ChunkWindow K G) : Prop where
  grip : w.grip.length = w.pose.length
  budget : w.active = true → w.consumeEff = consumeRoom w.cfg w.pose.length ∧ 1 ≤ w.consumeEff
  index : w.active = true → (w.k : ℤ) = w.cfg.discard + w.consumed ∧ 0 ≤ w.consumed ∧ w.k ≤ w.pose.length
  fits : w.active = true → w.pose.length < 2 ^ 31

theorem consumeRoom_le (cfg : ChunkWindowConfig) (n : ℕ) : cfg.discard + consumeRoom cfg n + cfg.reserve ≤ n := by
  have h := min_le_right cfg.consumeC ((n : ℤ) - cfg.discard - cfg.reserve)
  show cfg.discard + min cfg.consumeC ((n : ℤ) - cfg.discard - cfg.reserve) + cfg.reserve ≤ n
  omega

/-- A frame that is accepted. -/
theorem activateInt_of_accepts (sp : RigidSpace K G) {w : ChunkWindow K G} {frame : ChunkFrame K G}
    (h : w.Accepts frame) :
    w.activateInt sp frame = w.opened sp frame := by
  have hlong : ¬ w.cfg.consumeRoomInt frame.pose.length < 1 := h
  rw [activateInt, if_neg hlong]

/-- A refused one only ends the window. -/
theorem activateInt_of_not_accepts (sp : RigidSpace K G) {w : ChunkWindow K G} {frame : ChunkFrame K G}
    (h : ¬ w.Accepts frame) : w.activateInt sp frame = w.deactivate := by
  have hshort : w.cfg.consumeRoomInt frame.pose.length < 1 := not_not.mp h
  rw [activateInt, if_pos hshort, deactivate]

theorem opened_active (sp : RigidSpace K G) (w : ChunkWindow K G) (frame : ChunkFrame K G) :
    (w.opened sp frame).active = true := rfl

theorem opened_consumed (sp : RigidSpace K G) (w : ChunkWindow K G) (frame : ChunkFrame K G) :
    (w.opened sp frame).consumed = 0 := rfl

theorem opened_cfg (sp : RigidSpace K G) (w : ChunkWindow K G) (frame : ChunkFrame K G) :
    (w.opened sp frame).cfg = w.cfg := by
  simp only [opened]

theorem opened_k (sp : RigidSpace K G) (w : ChunkWindow K G) (frame : ChunkFrame K G) :
    (w.opened sp frame).k = w.cfg.discard.toNat := rfl

theorem opened_consumeEff (sp : RigidSpace K G) (w : ChunkWindow K G) (frame : ChunkFrame K G) :
    (w.opened sp frame).consumeEff = w.cfg.consumeRoomInt frame.pose.length := rfl

theorem length_opened_grip (sp : RigidSpace K G) (w : ChunkWindow K G) (frame : ChunkFrame K G) :
    (w.opened sp frame).grip.length = frame.pose.length := length_resizeGrip frame.grip frame.pose.length

theorem length_opened (sp : RigidSpace K G) (w : ChunkWindow K G) (frame : ChunkFrame K G) :
    (w.opened sp frame).pose.length = frame.pose.length :=
  length_smooth sp (2 * w.cfg.smoothingHalf + 1) frame.pose

theorem booked_opened (sp : RigidSpace K G) {w : ChunkWindow K G} {frame : ChunkFrame K G}
    (h : w.cfg.FitsInt frame.pose.length) (haccepts : w.Accepts frame) : (w.opened sp frame).Booked := by
  have hroom := consumeRoom_le w.cfg frame.pose.length
  have hdiscard : 0 ≤ w.cfg.discard := le_max_left 0 _
  have hreserve : 1 ≤ w.cfg.reserve := le_max_left 1 _
  have hone : 1 ≤ w.cfg.consumeRoomInt frame.pose.length := not_lt.mp haccepts
  rw [consumeRoomInt_eq h] at hone
  constructor
  · rw [length_opened_grip, length_opened]
  · intro _
    rw [opened_consumeEff, opened_cfg, length_opened, consumeRoomInt_eq h]
    exact ⟨rfl, hone⟩
  · intro _
    rw [opened_k, opened_cfg, opened_consumed, length_opened]
    omega
  · intro _
    rw [length_opened]
    exact h.1

omit [Field K] [LinearOrder K] [Group G] in
/-- An inactive window has no step to account for. -/
theorem Booked.of_inactive {w : ChunkWindow K G} (hgrip : w.grip.length = w.pose.length) (hoff : w.active = false) :
    w.Booked := by
  have hnot : ¬ w.active = true := fun h => Bool.false_ne_true (hoff.symm.trans h)
  exact ⟨hgrip, fun h => absurd h hnot, fun h => absurd h hnot, fun h => absurd h hnot⟩

omit [Field K] [LinearOrder K] [Group G] in
theorem Booked.deactivate {w : ChunkWindow K G} (h : w.Booked) : w.deactivate.Booked := .of_inactive h.grip rfl

omit [Field K] [LinearOrder K] [Group G] in
theorem Booked.advance {w : ChunkWindow K G} (h : w.Booked) (htail : w.hasTailStep = true) :
    w.advanceInt.Booked ∧ w.advanceInt.consumed = w.consumed + 1 := by
  obtain ⟨hactive, hk⟩ := Bool.and_eq_true_iff.mp htail
  have hk := of_decide_eq_true hk
  obtain ⟨hindex, hconsumed, -⟩ := h.index hactive
  have hfits := h.fits hactive
  have hdiscard : 0 ≤ w.cfg.discard := le_max_left 0 _
  have hcount : w.advanceInt.consumed = w.consumed + 1 := toInt32_of_range (by omega) (by omega)
  refine ⟨⟨h.grip, h.budget, fun _ => ?_, h.fits⟩, hcount⟩
  rw [hcount]
  show ((w.k + 1 : ℕ) : ℤ) = w.cfg.discard + (w.consumed + 1) ∧ 0 ≤ w.consumed + 1 ∧ w.k + 1 ≤ w.pose.length
  omega

omit [LinearOrder K] [Group G] in
theorem booked_create (cfg : ChunkWindowConfig) : (create cfg : ChunkWindow K G).Booked := .of_inactive rfl rfl

theorem stepInt_advance_of_tail (sp : RigidSpace K G) {w : ChunkWindow K G} (htail : w.hasTailStep = true) :
    w.stepInt sp .advance = w.advanceInt := by
  rw [stepInt, if_pos htail]

theorem stepInt_advance_of_end (sp : RigidSpace K G) {w : ChunkWindow K G} (htail : w.hasTailStep = false) :
    w.stepInt sp .advance = w := by
  rw [stepInt, if_neg (by rw [htail]; exact Bool.false_ne_true)]

/-- **One call.** -/
theorem Booked.stepInt (sp : RigidSpace K G) {w : ChunkWindow K G} (h : w.Booked) (op : WindowOp K G)
    (hfits : ∀ frame, op = .activate frame → w.cfg.FitsInt frame.pose.length) :
    (w.stepInt sp op).Booked ∧ (w.stepInt sp op).cfg = w.cfg := by
  cases op with
  | activate frame =>
    rw [ChunkWindow.stepInt]
    by_cases haccepts : w.Accepts frame
    · rw [activateInt_of_accepts sp haccepts]
      exact ⟨booked_opened sp (hfits frame rfl) haccepts, rfl⟩
    · rw [activateInt_of_not_accepts sp haccepts]
      exact ⟨h.deactivate, rfl⟩
  | advance =>
    rcases Bool.eq_false_or_eq_true w.hasTailStep with htail | hend
    · rw [stepInt_advance_of_tail sp htail]
      exact ⟨(h.advance htail).1, rfl⟩
    · rw [stepInt_advance_of_end sp hend]
      exact ⟨h, rfl⟩
  | deactivate => exact ⟨h.deactivate, rfl⟩

theorem afterInt_concat (sp : RigidSpace K G) (cfg : ChunkWindowConfig) (ops : List (WindowOp K G))
    (op : WindowOp K G) :
    afterInt sp cfg (ops ++ [op]) = (afterInt sp cfg ops).stepInt sp op := List.foldl_concat ..

/-- **Every run.** -/
theorem booked_afterInt (sp : RigidSpace K G) {cfg : ChunkWindowConfig} {ops : List (WindowOp K G)}
    (hfits : ∀ frame, WindowOp.activate frame ∈ ops → cfg.FitsInt frame.pose.length) :
    (afterInt sp cfg ops).Booked ∧ (afterInt sp cfg ops).cfg = cfg := by
  induction ops using List.reverseRecOn with
  | nil => exact ⟨booked_create cfg, rfl⟩
  | append_singleton ops op ih =>
    obtain ⟨hbooked, hcfg⟩ := ih fun frame hmem => hfits frame (List.mem_append_left _ hmem)
    rw [afterInt_concat]
    obtain ⟨hbooked', hcfg'⟩ := hbooked.stepInt sp op fun frame hop => by
      rw [hcfg]
      exact hfits frame (by simp [hop])
    exact ⟨hbooked', hcfg'.trans hcfg⟩

/-! ## Reading the window -/

omit [Field K] [LinearOrder K] [Group G] in
/-- A step leaves a reserve. -/
theorem Booked.reserve_lt {w : ChunkWindow K G} (h : w.Booked) (hactive : w.active = true)
    (hcount : w.consumed < w.consumeEff) : (w.k : ℤ) + w.cfg.reserve < w.pose.length := by
  obtain ⟨hindex, -, -⟩ := h.index hactive
  have hroom := consumeRoom_le w.cfg w.pose.length
  have hbudget := (h.budget hactive).1
  omega

omit [Field K] [LinearOrder K] [Group G] in
/-- A step is one of the budget: the row after it is there anyway. -/
theorem Booked.hasStep_iff {w : ChunkWindow K G} (h : w.Booked) :
    w.hasStep = true ↔ w.active = true ∧ w.consumed < w.consumeEff := by
  unfold hasStep
  rw [Bool.and_eq_true, Bool.and_eq_true, decide_eq_true_iff, decide_eq_true_iff]
  constructor
  · exact fun hstep => hstep.1
  · rintro ⟨hactive, hcount⟩
    have hreserve : 1 ≤ w.cfg.reserve := le_max_left 1 _
    have hlt := h.reserve_lt hactive hcount
    exact ⟨⟨hactive, hcount⟩, by omega⟩

/-- An accepted frame has a row. -/
theorem pose_opened_pos (sp : RigidSpace K G) {w : ChunkWindow K G} {frame : ChunkFrame K G}
    (h : w.cfg.FitsInt frame.pose.length) (haccepts : w.Accepts frame) : 0 < (w.opened sp frame).pose.length := by
  have hbooked := booked_opened sp h haccepts
  have hlt := hbooked.reserve_lt (opened_active ..) (by
    have hone := (hbooked.budget (opened_active ..)).2
    rw [opened_consumed]
    omega)
  have hreserve : 1 ≤ (w.opened sp frame).cfg.reserve := le_max_left 1 _
  omega

/-- A frame was accepted. -/
def EverActivated (sp : RigidSpace K G) (cfg : ChunkWindowConfig) (ops : List (WindowOp K G)) : Prop :=
  Runs.Since (fun pre op => ∃ frame, op = .activate frame ∧ (afterInt sp cfg pre).Accepts frame)
    (fun _ _ => False) ops

/-- Its rows stay. -/
theorem pose_nonempty (sp : RigidSpace K G) {cfg : ChunkWindowConfig} {ops : List (WindowOp K G)}
    (hfits : ∀ frame, WindowOp.activate frame ∈ ops → cfg.FitsInt frame.pose.length)
    (hever : EverActivated sp cfg ops) : 0 < (afterInt sp cfg ops).pose.length := by
  induction ops using List.reverseRecOn with
  | nil => exact absurd hever Runs.not_since_nil
  | append_singleton ops op ih =>
    have hfits' : ∀ frame, WindowOp.activate frame ∈ ops → cfg.FitsInt frame.pose.length :=
      fun frame hmem => hfits frame (List.mem_append_left _ hmem)
    obtain ⟨-, hcfg⟩ := booked_afterInt sp hfits'
    rw [afterInt_concat]
    rcases (Runs.since_concat op).mp hever with ⟨frame, rfl, haccepts⟩ | ⟨hbefore, -⟩
    · rw [stepInt, activateInt_of_accepts sp haccepts]
      exact pose_opened_pos sp (by rw [hcfg]; exact hfits frame (by simp)) haccepts
    · have hold := ih hfits' hbefore
      cases op with
      | activate frame =>
        rw [stepInt]
        by_cases haccepts : (afterInt sp cfg ops).Accepts frame
        · rw [activateInt_of_accepts sp haccepts]
          exact pose_opened_pos sp (by rw [hcfg]; exact hfits frame (by simp)) haccepts
        · rw [activateInt_of_not_accepts sp haccepts]
          exact hold
      | advance =>
        rcases Bool.eq_false_or_eq_true (afterInt sp cfg ops).hasTailStep with htail | hend
        · rw [stepInt_advance_of_tail sp htail]
          exact hold
        · rw [stepInt_advance_of_end sp hend]
          exact hold
      | deactivate => exact hold

/-- The rows that `poseAt` and `gripAt` read are there. -/
def ReadsInBounds (w : ChunkWindow K G) : Prop :=
  ∀ k, w.pose[min k (w.pose.length - 1)]? = some (w.poseAt k) ∧ w.grip[min k (w.grip.length - 1)]? = some (w.gripAt k)

omit [LinearOrder K] in
theorem Booked.readsInBounds {w : ChunkWindow K G} (h : w.Booked) (hpos : 0 < w.pose.length) : w.ReadsInBounds := by
  intro k
  have hgrip := h.grip
  constructor
  · unfold poseAt waypoint
    rw [List.getD_eq_getElem?_getD, List.getElem?_eq_getElem (by omega), Option.getD_some]
  · unfold gripAt
    rw [List.getD_eq_getElem?_getD, List.getElem?_eq_getElem (by omega), Option.getD_some]

/-! ## Advancing -/

/-- `j` calls of `advance`. -/
def advances (j : ℕ) : List (WindowOp K G) := List.replicate j .advance

/-- After an accepted frame the count runs to the end of the rows. -/
theorem consumed_advances (sp : RigidSpace K G) {w : ChunkWindow K G} (h : w.Booked) (hactive : w.active = true)
    (hzero : w.consumed = 0) (j : ℕ) :
    ((advances j).foldl (stepInt sp) w).Booked ∧ ((advances j).foldl (stepInt sp) w).active = true ∧
      ((advances j).foldl (stepInt sp) w).cfg = w.cfg ∧ ((advances j).foldl (stepInt sp) w).pose = w.pose ∧
      ((advances j).foldl (stepInt sp) w).consumeEff = w.consumeEff ∧
      ((advances j).foldl (stepInt sp) w).consumed = min (j : ℤ) (w.pose.length - w.cfg.discard) := by
  induction j with
  | zero =>
    obtain ⟨hindex, -, hk⟩ := h.index hactive
    refine ⟨h, hactive, rfl, rfl, rfl, ?_⟩
    show w.consumed = min ((0 : ℕ) : ℤ) _
    omega
  | succ j ih =>
    have hnext : (advances (j + 1)).foldl (stepInt sp) w = ((advances j).foldl (stepInt sp) w).stepInt sp .advance := by
      unfold advances
      rw [List.replicate_succ', List.foldl_concat]
    rw [hnext]
    generalize (advances j).foldl (stepInt sp) w = v at ih ⊢
    obtain ⟨hbooked, hon, hcfg, hpose, heff, hcount⟩ := ih
    obtain ⟨hindex, -, hk⟩ := hbooked.index hon
    rw [hcfg] at hindex
    rcases Bool.eq_false_or_eq_true v.hasTailStep with htail | hend
    · obtain ⟨hbooked', hcount'⟩ := hbooked.advance htail
      have hlt := of_decide_eq_true (Bool.and_eq_true_iff.mp htail).2
      rw [hpose] at hlt
      rw [stepInt_advance_of_tail sp htail]
      refine ⟨hbooked', hon, hcfg, hpose, heff, ?_⟩
      rw [hcount']
      push_cast
      omega
    · have hlast : ¬ v.k < v.pose.length := fun hlt =>
        Bool.false_ne_true (hend.symm.trans (Bool.and_eq_true_iff.mpr ⟨hon, decide_eq_true hlt⟩))
      rw [hpose] at hlast
      rw [stepInt_advance_of_end sp hend]
      refine ⟨hbooked, hon, hcfg, hpose, heff, ?_⟩
      push_cast
      omega

/-- The window after an accepted frame and `j` calls of `advance`. -/
theorem afterInt_advances (sp : RigidSpace K G) (cfg : ChunkWindowConfig) (ops : List (WindowOp K G))
    (frame : ChunkFrame K G) (j : ℕ) : afterInt sp cfg (ops ++ .activate frame :: advances j) =
      (advances j).foldl (stepInt sp) ((afterInt sp cfg ops).activateInt sp frame) := by
  unfold afterInt
  rw [List.foldl_append, List.foldl_cons]
  rfl

/-- **The window bookkeeping.**  As long as what the head and the reserve leave of every frame is an int: a step
leaves the reserve behind it, the reads are in bounds once a frame was accepted, and an accepted frame gives
`min(C, n - L - R)` steps and `n - L` tail steps. -/
theorem window_bookkeeping (sp : RigidSpace K G) (cfg : ChunkWindowConfig) (ops : List (WindowOp K G))
    (hfits : ∀ frame, WindowOp.activate frame ∈ ops → cfg.FitsInt frame.pose.length) :
    ((afterInt sp cfg ops).hasStep = true →
        ((afterInt sp cfg ops).k : ℤ) + cfg.reserve < (afterInt sp cfg ops).pose.length) ∧
      (EverActivated sp cfg ops → (afterInt sp cfg ops).ReadsInBounds) ∧
      ∀ frame : ChunkFrame K G, cfg.FitsInt frame.pose.length → (afterInt sp cfg ops).Accepts frame → ∀ j : ℕ,
        let w := afterInt sp cfg (ops ++ .activate frame :: advances j)
        let n : ℤ := frame.pose.length
        (w.pose.length = n ∧ 1 ≤ w.consumeEff ∧ cfg.discard + w.consumeEff + cfg.reserve ≤ n) ∧
          (w.hasStep = true ↔ (j : ℤ) < min cfg.consumeC (n - cfg.discard - cfg.reserve)) ∧
          (w.hasTailStep = true ↔ (j : ℤ) < n - cfg.discard) := by
  obtain ⟨hbooked, hcfg⟩ := booked_afterInt sp hfits
  refine ⟨fun hstep => ?_, fun hever => hbooked.readsInBounds (pose_nonempty sp hfits hever), ?_⟩
  · obtain ⟨hactive, hcount⟩ := hbooked.hasStep_iff.mp hstep
    have hlt := hbooked.reserve_lt hactive hcount
    rwa [hcfg] at hlt
  · intro frame hframe haccepts j
    have hopened := booked_opened sp (by rw [hcfg]; exact hframe) haccepts
    obtain ⟨hbooked', hon, hcfg', hpose, heff, hcount⟩ :=
      consumed_advances sp hopened (opened_active ..) (opened_consumed ..) j
    have hbudget := (hbooked'.budget hon).1
    have hone := (hbooked'.budget hon).2
    have hroom := consumeRoom_le cfg frame.pose.length
    dsimp only
    rw [afterInt_advances, activateInt_of_accepts sp haccepts]
    generalize (advances j).foldl (stepInt sp) ((afterInt sp cfg ops).opened sp frame) = v at *
    have hvcfg : v.cfg = cfg := hcfg'.trans ((opened_cfg ..).trans hcfg)
    have hvlength : v.pose.length = frame.pose.length := (congrArg List.length hpose).trans (length_opened ..)
    have hdef : consumeRoom cfg frame.pose.length =
        min cfg.consumeC ((frame.pose.length : ℤ) - cfg.discard - cfg.reserve) :=
      rfl
    have hreserve : 1 ≤ cfg.reserve := le_max_left 1 _
    obtain ⟨hindex, -, hk⟩ := hbooked'.index hon
    rw [hvcfg, hvlength] at hbudget
    rw [hvcfg] at hindex
    rw [length_opened, opened_cfg, hcfg] at hcount
    refine ⟨⟨by rw [hvlength], hone, by omega⟩, ?_, ?_⟩
    · rw [hbooked'.hasStep_iff, hbudget, hdef, hcount]
      constructor
      · intro h
        omega
      · intro h
        exact ⟨hon, by omega⟩
    · unfold hasTailStep
      rw [hon, Bool.true_and, decide_eq_true_iff, hvlength]
      omega

/-- Rotations that are all one. -/
def flatRows : RigidSpace ℚ Unit where
  sqrt x := x
  exp3 _ := 1
  log3 _ := 0
  exp6 d := ⟨d.linear, 1⟩
  rotate _ v := v
  bodyAngularDerivatives _ v a := (v, a)

/-- `n` waypoints at one place. -/
def rows (n : ℕ) : ChunkFrame ℚ Unit := ⟨List.replicate n ⟨0, 1⟩, [], [], 1 / 30, 0, 0, 0⟩

/-- Two rows dropped, three steps, one row kept: eight rows, one step on, and then six rows. -/
theorem window_bookkeeping_rows :
    let cfg : ChunkWindowConfig := ⟨2, 3, 1, 1⟩
    let w := afterInt flatRows cfg [.activate (rows 8), .advance]
    let v := afterInt flatRows cfg ([.activate (rows 8), .advance] ++ .activate (rows 6) :: advances 2)
    (w.hasStep = true ∧ (w.k : ℤ) + cfg.reserve < w.pose.length) ∧ w.ReadsInBounds ∧
      cfg.discard + v.consumeEff + cfg.reserve ≤ 6 ∧ v.hasStep = true ∧ v.hasTailStep = true := by
  have hfits : ∀ frame, WindowOp.activate frame ∈ [WindowOp.activate (rows 8), .advance] →
      (⟨2, 3, 1, 1⟩ : ChunkWindowConfig).FitsInt frame.pose.length := by
    intro frame hmem
    rcases List.mem_cons.mp hmem with heq | hmem
    · rw [WindowOp.activate.inj heq]
      decide +kernel
    · exact absurd hmem (by simp)
  obtain ⟨hstep, hread, hnext⟩ := window_bookkeeping flatRows ⟨2, 3, 1, 1⟩ [.activate (rows 8), .advance] hfits
  have hon : (afterInt flatRows ⟨2, 3, 1, 1⟩ [.activate (rows 8), .advance]).hasStep = true := by decide +kernel
  obtain ⟨⟨-, -, hroom⟩, hsteps, htail⟩ := hnext (rows 6) (by decide +kernel) (by decide +kernel) 2
  refine ⟨⟨hon, hstep hon⟩, hread ⟨[], .activate (rows 8), [.advance], rfl, ⟨rows 8, rfl, by decide +kernel⟩, ?_⟩,
    hroom, hsteps.mpr (by decide +kernel), htail.mpr (by decide +kernel)⟩
  exact fun _ _ _ _ h => h

/-- A head and a reserve of `2^31 - 1` rows leave three of one waypoint. -/
theorem wrapped_room_accepted :
    let w : ChunkWindow ℚ Unit := create ⟨2 ^ 31 - 1, 8, 2 ^ 31 - 1, 1⟩
    w.Accepts (rows 1) ∧ ¬ w.cfg.discard + (w.activateInt flatRows (rows 1)).consumeEff + w.cfg.reserve ≤
      (w.activateInt flatRows (rows 1)).pose.length := by
  decide +kernel

end ChunkWindow

end RbServo
