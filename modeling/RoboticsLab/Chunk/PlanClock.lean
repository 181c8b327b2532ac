import RoboticsLab.Chunk.ForceFold
import RoboticsLab.Lib.Runs
import Mathlib.Tactic.LinearCombination

/-!
# The plan clock of the chunk follower

Every tick adds its gated time to `t_in_seg`; at the end of a segment the remainder is carried over
and the next segment begins, by consuming one step of the window or, when there is none, as a stall.
While nothing re-anchors the plan, the clock is a ledger:

    Σ gated time + t_in_seg (first tick) = Σ completed lengths + t_in_seg         (planClock_ledger)

The first tick of a plan without a segment starts it at `t_in_seg = 0`.  Between ticks `t_in_seg`
lies in the segment, or it is the remainder the last boundary carried over, which never exceeds what
one tick brought in.
-/

namespace RbServo.CartesianChunkFollower

open Runs

variable {K G T : Type*} [Field K] [LinearOrder K] [Group G]
variable (sp : RigidSpace K G) (otg : Otg K T)

/-! ## Statement -/

/-- The tick begins a segment: there is none yet, or its time reaches the end of the running one. -/
def beginsSegment (s : CartesianChunkFollower K G T) (dtTick : K) : Prop :=
  s.haveSegment = false ∨ s.segLen ≤ s.tInSeg + dtTick * s.planRateGate

instance (s : CartesianChunkFollower K G T) (dtTick : K) : Decidable (s.beginsSegment dtTick) :=
  inferInstanceAs (Decidable (_ ∨ _))

/-- From `s` to `s'` one segment began: on one step of the window, or as a stall. -/
def BeganOne (s s' : CartesianChunkFollower K G T) : Prop :=
  (s.window.hasTailStep = true ∧ s'.window = s.window.advance ∧
      s'.diag.segments = s.diag.segments + 1 ∧ s'.diag.stallCount = s.diag.stallCount) ∨
    (s.window.hasTailStep = false ∧ s'.window = s.window ∧ s'.diag.stall = true ∧
      s'.diag.segments = s.diag.segments ∧ s'.diag.stallCount = s.diag.stallCount + 1)

/-- From `s` to `s'` the running segment went on. -/
def WentOn (s s' : CartesianChunkFollower K G T) : Prop :=
  s'.window = s.window ∧ s'.segLen = s.segLen ∧ s'.diag.segments = s.diag.segments ∧
    s'.diag.stallCount = s.diag.stallCount

/-- The account of one tick. -/
def TickAccount (s : CartesianChunkFollower K G T) (dtTick : K) : Prop :=
  if s.beginsSegment dtTick then BeganOne s (s.tick sp otg dtTick)
  else WentOn s (s.tick sp otg dtTick)

/-- The calls between the ticks that neither reset, re-anchor, pause nor freshly re-plan; and ticks
of at most one segment length. -/
def Undisturbed (s : CartesianChunkFollower K G T) : FollowerOp K G → Prop
  | .tick dtTick => 0 ≤ dtTick ∧ dtTick * s.planRateGate ≤ s.segLen
  | .submitDeltaFrame frame _ => deltaFrameDropped s.cfg frame = true ∨ s.cfg.freshChunkReplan = false
  | .reconfigure _ | .deactivate | .pauseForHold _ | .holdAtSentReference _ _ | .reanchor _ => False
  | _ => True

/-- A run of the follower with its ledger: the gated time of each tick, the length of each completed
segment, and the remainder carried over the last boundary. -/
structure PlanClock (K G T : Type*) where
  follower : CartesianChunkFollower K G T
  gated : List K
  completed : List K
  carried : K

def PlanClock.start (s : CartesianChunkFollower K G T) : PlanClock K G T := ⟨s, [], [], s.tInSeg⟩

def PlanClock.call (c : PlanClock K G T) (op : FollowerOp K G) : PlanClock K G T :=
  let s' := c.follower.apply sp otg op
  match op with
  | .tick dtTick =>
    let gated := c.gated ++ [dtTick * c.follower.planRateGate]
    if c.follower.beginsSegment dtTick then
      ⟨s', gated, c.completed ++ [c.follower.segLen], s'.tInSeg⟩
    else ⟨s', gated, c.completed, c.carried⟩
  | _ => { c with follower := s' }

/-- The clock of the run `ops` from the follower `s`. -/
def clockAfter (s : CartesianChunkFollower K G T) (ops : List (FollowerOp K G)) : PlanClock K G T :=
  ops.foldl (PlanClock.call sp otg) (.start s)

/-- The ledger of a clock that was started in `s`. -/
structure PlanClock.Ledger (s : CartesianChunkFollower K G T) (c : PlanClock K G T) : Prop where
  balance : c.gated.sum + s.tInSeg = c.completed.sum + c.follower.tInSeg
  begun : c.follower.diag.segments + c.follower.diag.stallCount =
    s.diag.segments + s.diag.stallCount + c.completed.length
  nonneg : 0 ≤ c.follower.tInSeg
  inside : c.follower.tInSeg < c.follower.segLen ∨ c.follower.tInSeg = c.carried
  carried_le : c.carried ≤ s.tInSeg ∨ ∃ d ∈ c.gated, c.carried ≤ d

/-! ## One segment -/

theorem followKnot_began (s : CartesianChunkFollower K G T) :
    (s.followKnot sp otg).window = s.window.advance ∧
      (s.followKnot sp otg).diag.segments = s.diag.segments + 1 ∧
      (s.followKnot sp otg).diag.stallCount = s.diag.stallCount := ⟨rfl, rfl, rfl⟩

omit [LinearOrder K] in
theorem beginSegment_diag (s : CartesianChunkFollower K G T) :
    (s.beginSegment sp).diag = s.diag ∧ (s.beginSegment sp).window = s.window := by
  unfold beginSegment
  by_cases h : s.haveSegment <;> simp [h, relinearizeAndReseed]

/-- **One boundary** begins one segment. -/
theorem stepToNextSegment_began (s : CartesianChunkFollower K G T) :
    BeganOne s (s.stepToNextSegment sp otg) := by
  obtain ⟨hdiag, hwindow⟩ := beginSegment_diag sp s
  unfold stepToNextSegment BeganOne
  dsimp only
  rw [hwindow]
  cases htail : s.window.hasTailStep with
  | true =>
    rw [if_pos rfl]
    obtain ⟨hw, hseg, hstall⟩ := followKnot_began sp otg (s.beginSegment sp)
    rw [hwindow] at hw
    rw [hdiag] at hseg hstall
    exact Or.inl ⟨rfl, hw, hseg, hstall⟩
  | false =>
    rw [if_neg (by decide)]
    refine Or.inr ⟨rfl, hwindow, rfl, ?_, ?_⟩
    · show (s.beginSegment sp).diag.segments = _
      rw [hdiag]
    · show (s.beginSegment sp).diag.stallCount + 1 = _
      rw [hdiag]

/-! ## One tick -/

variable {sp otg} {s : CartesianChunkFollower K G T}

theorem stepToNextSegment_tInSeg : (s.stepToNextSegment sp otg).tInSeg = s.tInSeg := by
  have hbegin : (s.beginSegment sp).tInSeg = s.tInSeg := by
    unfold beginSegment
    by_cases h : s.haveSegment <;> simp [h, relinearizeAndReseed]
  rw [← hbegin]
  unfold stepToNextSegment
  dsimp only
  split <;> rfl

/-- The time that a segment begun by a tick starts with. -/
def carriedTime (s : CartesianChunkFollower K G T) (dtTick : K) : K :=
  if s.haveSegment then max 0 (s.tInSeg + dtTick * s.planRateGate - s.segLen)
  else if s.freshReplanPending then s.tInSeg + dtTick * s.planRateGate
  else 0

theorem tick_of_running (h : s.running = true) (dtTick : K) :
    let t := ({ s with tInSeg := s.tInSeg + dtTick * s.planRateGate } :
      CartesianChunkFollower K G T).crossBoundary sp otg
    s.tick sp otg dtTick = { t with lastPose := t.sampleAt sp otg (min t.tInSeg t.segLen) } := by
  have hrun : s.active = true ∧ ¬ s.holdPaused = true := by
    simpa [running] using h
  unfold tick
  rw [if_pos hrun]

theorem crossBoundary_begins {dtTick : K} (h : s.beginsSegment dtTick) :
    ({ s with tInSeg := s.tInSeg + dtTick * s.planRateGate } :
        CartesianChunkFollower K G T).crossBoundary sp otg =
      { ({ s with tInSeg := s.carriedTime dtTick } : CartesianChunkFollower K G T).stepToNextSegment sp otg
          with freshReplanPending := false } := by
  have hcross : ¬ s.haveSegment = true ∨ s.segLen ≤ s.tInSeg + dtTick * s.planRateGate :=
    h.imp (fun hno => by rw [hno]; decide) id
  unfold crossBoundary
  dsimp only
  rw [if_pos hcross]
  rfl

theorem crossBoundary_goesOn {dtTick : K} (h : ¬ s.beginsSegment dtTick) :
    ({ s with tInSeg := s.tInSeg + dtTick * s.planRateGate } :
        CartesianChunkFollower K G T).crossBoundary sp otg =
      { s with tInSeg := s.tInSeg + dtTick * s.planRateGate } := by
  have hcross : ¬ (¬ s.haveSegment = true ∨ s.segLen ≤ s.tInSeg + dtTick * s.planRateGate) := by
    rintro (hno | hend)
    · exact h (Or.inl (by simpa using hno))
    · exact h (Or.inr hend)
  unfold crossBoundary
  dsimp only
  rw [if_neg hcross]

variable (sp otg) in
/-- **One tick**: what it begins, and the time it leaves. -/
theorem tick_account (h : s.running = true) (dtTick : K) : TickAccount sp otg s dtTick := by
  unfold TickAccount
  rw [tick_of_running h]
  by_cases hb : s.beginsSegment dtTick
  · rw [if_pos hb, crossBoundary_begins hb]
    exact stepToNextSegment_began sp otg
      ({ s with tInSeg := s.carriedTime dtTick } : CartesianChunkFollower K G T)
  · rw [if_neg hb, crossBoundary_goesOn hb]
    exact ⟨rfl, rfl, rfl, rfl⟩

variable (sp otg) in
theorem tick_time (h : s.running = true) (dtTick : K) :
    (s.tick sp otg dtTick).tInSeg =
        (if s.beginsSegment dtTick then s.carriedTime dtTick
        else s.tInSeg + dtTick * s.planRateGate) ∧
      (s.tick sp otg dtTick).haveSegment = true := by
  rw [tick_of_running h]
  by_cases hb : s.beginsSegment dtTick
  · rw [if_pos hb, crossBoundary_begins hb]
    exact ⟨stepToNextSegment_tInSeg
      (s := ({ s with tInSeg := s.carriedTime dtTick } : CartesianChunkFollower K G T)), rfl⟩
  · rw [if_neg hb, crossBoundary_goesOn hb]
    refine ⟨rfl, ?_⟩
    have hsome := fun hno => hb (Or.inl hno)
    simpa using hsome

/-! ## The calls between ticks -/

/-- The part of a follower that the clock is about. -/
structure ClockView (K : Type*) where
  running : Bool
  haveSegment : Bool
  tInSeg : K
  segLen : K
  segments : ℤ
  stallCount : ℤ

def clockView (s : CartesianChunkFollower K G T) : ClockView K :=
  ⟨s.running, s.haveSegment, s.tInSeg, s.segLen, s.diag.segments, s.diag.stallCount⟩

theorem submitFrame_clockView (h : s.running = true) (frame : ChunkFrame K G) (current : StandPose K G) :
    (s.submitFrame sp frame current).clockView = s.clockView := by
  have hactive : s.active = true := (Bool.and_eq_true_iff.mp h).1
  unfold CartesianChunkFollower.submitFrame
  dsimp only
  split
  · rfl
  · rfl

variable (sp otg) in
/-- A call that does not disturb the plan and is no tick leaves the clock alone. -/
theorem apply_clockView (h : s.running = true) {op : FollowerOp K G} (hop : Undisturbed s op)
    (hno : ∀ dtTick, op ≠ .tick dtTick) : (s.apply sp otg op).clockView = s.clockView := by
  have hpaused : s.holdPaused = false := by
    have := (Bool.and_eq_true_iff.mp h).2
    simpa using this
  cases op with
  | submitFrame frame current => exact submitFrame_clockView h frame current
  | submitDeltaFrame frame current =>
    simp only [CartesianChunkFollower.apply, submitDeltaFrame]
    split
    · rfl
    · next hkept =>
      have hplain : s.cfg.freshChunkReplan = false := hop.resolve_left (by simpa using hkept)
      rw [if_neg (by rw [hplain]; simp)]
      exact submitFrame_clockView (s := { s with planShift := 0, foldShift := 0, foldRot := 1 }) h _
        current
  | tick dtTick => exact absurd rfl (hno dtTick)
  | setPlanRateGate gate => rfl
  | setAdvanceGate gate dir => rfl
  | absorbOffset dp dR =>
    simp only [CartesianChunkFollower.apply, absorbOffset]
    split <;> rfl
  | expireHoldPause now grace =>
    simp only [CartesianChunkFollower.apply, expireHoldPause, hpaused]
    rfl
  | resumeFromHold live now grace pTol oTol =>
    simp only [CartesianChunkFollower.apply, resumeFromHold, hpaused]
    rfl
  | updateActualLead actual =>
    simp only [CartesianChunkFollower.apply, updateActualLead]
    split <;> rfl
  | reconfigure cfg => exact hop.elim
  | deactivate => exact hop.elim
  | pauseForHold now => exact hop.elim
  | holdAtSentReference reference now => exact hop.elim
  | reanchor reference => exact hop.elim

/-! ## The gate -/

theorem clampGate_nonneg [IsStrictOrderedRing K] (gate : K) : 0 ≤ clampGate gate := by
  unfold clampGate
  split
  · exact le_rfl
  · split
    · exact zero_le_one
    · next h _ => exact not_lt.mp h

theorem stepToNextSegment_gate : (s.stepToNextSegment sp otg).planRateGate = s.planRateGate := by
  have hbegin : (s.beginSegment sp).planRateGate = s.planRateGate := by
    unfold beginSegment
    by_cases h : s.haveSegment <;> simp [h, relinearizeAndReseed]
  rw [← hbegin]
  unfold stepToNextSegment
  dsimp only
  split <;> rfl

theorem tick_of_not_running (h : s.running = false) (dtTick : K) : s.tick sp otg dtTick = s := by
  have hstill : ¬ (s.active = true ∧ ¬ s.holdPaused = true) := by
    rintro ⟨ha, hp⟩
    simp [running, ha, hp] at h
  unfold CartesianChunkFollower.tick
  rw [if_neg hstill]

variable (sp otg) in
theorem tick_gate (s : CartesianChunkFollower K G T) (dtTick : K) :
    (s.tick sp otg dtTick).planRateGate = s.planRateGate := by
  cases hr : s.running with
  | true =>
    rw [tick_of_running hr]
    by_cases hb : s.beginsSegment dtTick
    · rw [crossBoundary_begins hb]
      exact stepToNextSegment_gate (s := { s with tInSeg := s.carriedTime dtTick })
    · rw [crossBoundary_goesOn hb]
  | false =>
    rw [tick_of_not_running hr]

section Gate

variable [IsStrictOrderedRing K]

/-- The gate and the time in the segment are never negative. -/
structure ClockInv (s : CartesianChunkFollower K G T) : Prop where
  gate : 0 ≤ s.planRateGate
  time : 0 ≤ s.tInSeg

omit [Group G] in
theorem carriedTime_nonneg (h : ClockInv s) {dtTick : K} (hdt : 0 ≤ dtTick) : 0 ≤ s.carriedTime dtTick := by
  unfold carriedTime
  split
  · exact le_max_left _ _
  · split
    · exact add_nonneg h.time (mul_nonneg hdt h.gate)
    · exact le_rfl

theorem ClockInv.tick (h : ClockInv s) {dtTick : K} (hdt : 0 ≤ dtTick) :
    ClockInv (s.tick sp otg dtTick) := by
  refine ⟨(tick_gate sp otg s dtTick).symm ▸ h.gate, ?_⟩
  cases hr : s.running with
  | true =>
    rw [(tick_time sp otg hr dtTick).1]
    split
    · exact carriedTime_nonneg h hdt
    · exact add_nonneg h.time (mul_nonneg hdt h.gate)
  | false =>
    rw [tick_of_not_running hr]
    exact h.time

omit [IsStrictOrderedRing K] in
theorem ClockInv.submitFrame (h : ClockInv s) (frame : ChunkFrame K G) (current : StandPose K G) :
    ClockInv (s.submitFrame sp frame current) := by
  unfold CartesianChunkFollower.submitFrame
  dsimp only
  split
  · split
    · exact ⟨h.gate, h.time⟩
    · exact ⟨h.gate, le_rfl⟩
  · exact ⟨h.gate, h.time⟩

/-- **One call**, with a tick that does not go back. -/
theorem ClockInv.apply (h : ClockInv s) {op : FollowerOp K G}
    (hop : ∀ dtTick, op = .tick dtTick → 0 ≤ dtTick) : ClockInv (s.apply sp otg op) := by
  cases op with
  | setPlanRateGate gate => exact ⟨clampGate_nonneg gate, h.time⟩
  | submitFrame frame current => exact h.submitFrame frame current
  | submitDeltaFrame frame current =>
    simp only [CartesianChunkFollower.apply, submitDeltaFrame]
    split
    · exact h
    · apply ClockInv.submitFrame
      split
      · unfold seedFromCurrentSample
        split
        · split
          · exact ⟨h.gate, h.time⟩
          · exact ⟨h.gate, le_rfl⟩
        · exact ⟨h.gate, h.time⟩
      · exact ⟨h.gate, h.time⟩
  | tick dtTick => exact h.tick (hop dtTick rfl)
  | absorbOffset dp dR =>
    simp only [CartesianChunkFollower.apply, absorbOffset]
    split <;> exact ⟨h.gate, h.time⟩
  | expireHoldPause now grace =>
    simp only [CartesianChunkFollower.apply, expireHoldPause]
    split <;> exact ⟨h.gate, h.time⟩
  | resumeFromHold live now grace pTol oTol =>
    simp only [CartesianChunkFollower.apply, resumeFromHold]
    split
    · exact h
    · split
      · exact ⟨h.gate, h.time⟩
      · split
        · exact ⟨h.gate, h.time⟩
        · split
          · exact ⟨h.gate, le_rfl⟩
          · exact ⟨h.gate, h.time⟩
  | pauseForHold now =>
    simp only [CartesianChunkFollower.apply, pauseForHold]
    split <;> exact ⟨h.gate, h.time⟩
  | holdAtSentReference reference now =>
    simp only [CartesianChunkFollower.apply, holdAtSentReference, pauseForHold]
    split
    · split <;> exact ⟨h.gate, le_rfl⟩
    · exact h
  | updateActualLead actual =>
    simp only [CartesianChunkFollower.apply, updateActualLead]
    split <;> exact ⟨h.gate, h.time⟩
  | setAdvanceGate gate dir => exact ⟨h.gate, h.time⟩
  | reconfigure cfg => exact ⟨h.gate, h.time⟩
  | deactivate => exact ⟨h.gate, h.time⟩
  | reanchor reference => exact ⟨h.gate, le_rfl⟩

theorem clockInv_run (cfg : CartesianChunkFollowerConfig K) (ops : List (FollowerOp K G))
    (hops : ∀ dtTick, .tick dtTick ∈ ops → 0 ≤ dtTick) : ClockInv (run sp otg (create cfg) ops) := by
  induction ops using List.reverseRecOn with
  | nil => exact ⟨zero_le_one, le_rfl⟩
  | append_singleton ops op ih =>
    rw [run, List.foldl_append, List.foldl_cons, List.foldl_nil]
    refine (ih fun d hd => hops d (List.mem_append_left _ hd)).apply fun d hd => ?_
    exact hops d (List.mem_append_right _ (by rw [hd]; exact List.mem_singleton_self _))

/-! ## The ledger -/

/-- The clock between the calls of a run. -/
structure PlanClock.Running (start : CartesianChunkFollower K G T) (c : PlanClock K G T) : Prop where
  running : c.follower.running = true
  segment : c.follower.haveSegment = true
  gate : 0 ≤ c.follower.planRateGate
  ledger : PlanClock.Ledger start c

/-- A call that is no tick only changes what the clock does not look at. -/
theorem PlanClock.Running.other {start : CartesianChunkFollower K G T} {c : PlanClock K G T}
    (h : c.Running start) {op : FollowerOp K G} (hop : Undisturbed c.follower op)
    (hno : ∀ dtTick, op ≠ .tick dtTick) :
    PlanClock.Running start { c with follower := c.follower.apply sp otg op } := by
  have hview := apply_clockView sp otg h.running hop hno
  have hinv : ClockInv c.follower := ⟨h.gate, h.ledger.nonneg⟩
  obtain ⟨hrun, hseg, hgate, hbalance, hbegun, hpos, hin, hcarried⟩ := h
  have hr : (c.follower.apply sp otg op).running = c.follower.running := congrArg ClockView.running hview
  have hs : (c.follower.apply sp otg op).haveSegment = c.follower.haveSegment :=
    congrArg ClockView.haveSegment hview
  have ht : (c.follower.apply sp otg op).tInSeg = c.follower.tInSeg := congrArg ClockView.tInSeg hview
  have hl : (c.follower.apply sp otg op).segLen = c.follower.segLen := congrArg ClockView.segLen hview
  have hn : (c.follower.apply sp otg op).diag.segments = c.follower.diag.segments :=
    congrArg ClockView.segments hview
  have hst : (c.follower.apply sp otg op).diag.stallCount = c.follower.diag.stallCount :=
    congrArg ClockView.stallCount hview
  refine ⟨hr.trans hrun, hs.trans hseg, (hinv.apply fun d hd => absurd hd (hno d)).gate, ?_⟩
  constructor
  · exact hbalance.trans (congrArg (c.completed.sum + ·) ht.symm)
  · show (c.follower.apply sp otg op).diag.segments + _ = _
    rw [hn, hst]
    exact hbegun
  · exact le_of_le_of_eq hpos ht.symm
  · show (c.follower.apply sp otg op).tInSeg < (c.follower.apply sp otg op).segLen ∨
      (c.follower.apply sp otg op).tInSeg = c.carried
    rw [ht, hl]
    exact hin
  · exact hcarried

/-- A tick that begins a segment completes the running one and carries the remainder. -/
theorem PlanClock.Running.boundary {start : CartesianChunkFollower K G T} {c : PlanClock K G T}
    (h : c.Running start) {dtTick : K}
    (hshort : dtTick * c.follower.planRateGate ≤ c.follower.segLen)
    (hb : c.follower.beginsSegment dtTick) :
    PlanClock.Running start ⟨c.follower.tick sp otg dtTick,
      c.gated ++ [dtTick * c.follower.planRateGate], c.completed ++ [c.follower.segLen],
      (c.follower.tick sp otg dtTick).tInSeg⟩ := by
  obtain ⟨hrun, hseg, hgate, hbalance, hbegun, hpos, hin, hcarried⟩ := h
  obtain ⟨htime, hsegment⟩ := tick_time sp otg hrun dtTick
  have haccount := tick_account sp otg hrun dtTick
  unfold TickAccount at haccount
  rw [if_pos hb] at haccount htime
  have hend : c.follower.segLen ≤ c.follower.tInSeg + dtTick * c.follower.planRateGate :=
    hb.resolve_left (by rw [hseg]; decide)
  -- the remainder is exact: nothing is cut off at zero
  have hrest : (c.follower.tick sp otg dtTick).tInSeg =
      c.follower.tInSeg + dtTick * c.follower.planRateGate - c.follower.segLen := by
    rw [htime]
    unfold carriedTime
    rw [if_pos hseg]
    exact max_eq_right (sub_nonneg.mpr hend)
  have hrun' : (c.follower.apply sp otg (.tick dtTick)).running = true := apply_running hrun rfl
  refine ⟨hrun', hsegment, (tick_gate sp otg c.follower dtTick).symm ▸ hgate, ?_⟩
  constructor
  · show (c.gated ++ [_]).sum + start.tInSeg = (c.completed ++ [_]).sum + _
    rw [List.sum_append, List.sum_append, List.sum_singleton, List.sum_singleton, hrest]
    linear_combination hbalance
  · show (c.follower.tick sp otg dtTick).diag.segments +
      (c.follower.tick sp otg dtTick).diag.stallCount = _
    rw [List.length_append, List.length_singleton]
    push_cast
    rcases haccount with ⟨-, -, hn, hst⟩ | ⟨-, -, -, hn, hst⟩
    · rw [hn, hst]
      linear_combination hbegun
    · rw [hn, hst]
      linear_combination hbegun
  · show 0 ≤ (c.follower.tick sp otg dtTick).tInSeg
    rw [hrest]
    exact sub_nonneg.mpr hend
  · exact Or.inr rfl
  · -- an old remainder only shrinks; else the new one is part of this tick
    show (c.follower.tick sp otg dtTick).tInSeg ≤ start.tInSeg ∨
      ∃ d ∈ c.gated ++ [dtTick * c.follower.planRateGate], (c.follower.tick sp otg dtTick).tInSeg ≤ d
    rw [hrest]
    rcases hin with hin | hin
    · exact Or.inr ⟨dtTick * c.follower.planRateGate, by simp, by linarith⟩
    · rcases hcarried with hc | ⟨d, hd, hc⟩
      · exact Or.inl (by linarith)
      · exact Or.inr ⟨d, by simp [hd], by linarith⟩

/-- A tick inside the segment adds its time. -/
theorem PlanClock.Running.inside {start : CartesianChunkFollower K G T} {c : PlanClock K G T}
    (h : c.Running start) {dtTick : K} (hdt : 0 ≤ dtTick) (hb : ¬ c.follower.beginsSegment dtTick) :
    PlanClock.Running start ⟨c.follower.tick sp otg dtTick,
      c.gated ++ [dtTick * c.follower.planRateGate], c.completed, c.carried⟩ := by
  obtain ⟨hrun, hseg, hgate, hbalance, hbegun, hpos, hin, hcarried⟩ := h
  obtain ⟨htime, hsegment⟩ := tick_time sp otg hrun dtTick
  have haccount := tick_account sp otg hrun dtTick
  unfold TickAccount at haccount
  rw [if_neg hb] at haccount htime
  obtain ⟨-, hlen, hn, hst⟩ := haccount
  have hbefore : c.follower.tInSeg + dtTick * c.follower.planRateGate < c.follower.segLen :=
    not_le.mp fun hle => hb (Or.inr hle)
  have hrun' : (c.follower.apply sp otg (.tick dtTick)).running = true := apply_running hrun rfl
  refine ⟨hrun', hsegment, (tick_gate sp otg c.follower dtTick).symm ▸ hgate, ?_⟩
  constructor
  · show (c.gated ++ [_]).sum + start.tInSeg = c.completed.sum + (c.follower.tick sp otg dtTick).tInSeg
    rw [List.sum_append, List.sum_singleton, htime]
    linear_combination hbalance
  · show (c.follower.tick sp otg dtTick).diag.segments +
      (c.follower.tick sp otg dtTick).diag.stallCount = _
    rw [hn, hst]
    exact hbegun
  · show 0 ≤ (c.follower.tick sp otg dtTick).tInSeg
    rw [htime]
    exact add_nonneg hpos (mul_nonneg hdt hgate)
  · show (c.follower.tick sp otg dtTick).tInSeg < (c.follower.tick sp otg dtTick).segLen ∨ _
    rw [htime, hlen]
    exact Or.inl hbefore
  · rcases hcarried with hc | ⟨d, hd, hc⟩
    · exact Or.inl hc
    · exact Or.inr ⟨d, by simp [hd], hc⟩

/-- **One call** keeps the ledger. -/
theorem PlanClock.Running.call {start : CartesianChunkFollower K G T} {c : PlanClock K G T}
    (h : c.Running start) {op : FollowerOp K G} (hop : Undisturbed c.follower op) :
    (c.call sp otg op).Running start := by
  cases op with
  | tick dtTick =>
    unfold PlanClock.call
    dsimp only
    split
    · next hb => exact h.boundary hop.2 hb
    · next hb => exact h.inside hop.1 hb
  | _ => exact h.other hop (by simp)

/-- **A whole run** keeps the ledger. -/
theorem clockAfter_running {start : CartesianChunkFollower K G T}
    (hstart : (PlanClock.start start).Running start) (ops : List (FollowerOp K G))
    (hops : EveryStep (fun pre op => Undisturbed (clockAfter sp otg start pre).follower op) ops) :
    (clockAfter sp otg start ops).Running start := by
  refine hops.invariant (fun pre => (clockAfter sp otg start pre).Running start) hstart ?_
  intro pre op hpre hop
  have hstep : clockAfter sp otg start (pre ++ [op]) = (clockAfter sp otg start pre).call sp otg op := by
    simp [clockAfter]
  rw [hstep]
  exact hpre.call hop

end Gate

/-- **The plan clock is a ledger.**  From the first tick of a running follower on, through any calls
that do not disturb the plan: no time is lost or invented, every tick begins one segment on one step
of the window or as a stall, or none, and `t_in_seg` stays in the segment up to a carried remainder. -/
theorem planClock_ledger [IsStrictOrderedRing K] (sp : RigidSpace K G) (otg : Otg K T)
    (cfg : CartesianChunkFollowerConfig K) (before : List (FollowerOp K G))
    (hbefore : ∀ dtTick, .tick dtTick ∈ before → 0 ≤ dtTick)
    (hrun : (run sp otg (create cfg) before).running = true) (first : K) (hfirst : 0 ≤ first)
    (ops : List (FollowerOp K G))
    (hops : EveryStep (fun pre op => Undisturbed
      (clockAfter sp otg ((run sp otg (create cfg) before).tick sp otg first) pre).follower op) ops) :
    let s := run sp otg (create cfg) before
    let s₁ := s.tick sp otg first
    (s.haveSegment = false → s.freshReplanPending = false → s₁.tInSeg = 0) ∧
      TickAccount sp otg s first ∧
      (clockAfter sp otg s₁ ops).Ledger s₁ ∧
      EveryStep (fun pre op => ∀ dtTick, op = .tick dtTick →
        TickAccount sp otg (clockAfter sp otg s₁ pre).follower dtTick) ops := by
  intro s s₁
  have hinv : ClockInv s := clockInv_run cfg before hbefore
  have hinv₁ : ClockInv s₁ := hinv.tick hfirst
  obtain ⟨htime, hsegment⟩ := tick_time sp otg hrun first
  have hrun₁ : (s.apply sp otg (.tick first)).running = true := apply_running hrun rfl
  have hstart : (PlanClock.start s₁).Running s₁ :=
    { running := hrun₁
      segment := hsegment
      gate := hinv₁.gate
      ledger := ⟨by simp [PlanClock.start], by simp [PlanClock.start], hinv₁.time, Or.inr rfl,
        Or.inl le_rfl⟩ }
  refine ⟨?_, tick_account sp otg hrun first, (clockAfter_running hstart ops hops).ledger, ?_⟩
  · intro hno hplain
    show (s.tick sp otg first).tInSeg = 0
    have hbegins : s.beginsSegment first := Or.inl hno
    rw [htime, if_pos hbegins]
    unfold carriedTime
    rw [if_neg (by rw [hno]; decide), if_neg (by rw [hplain]; decide)]
  · rintro pre op post hpre dtTick -
    exact tick_account sp otg (clockAfter_running hstart pre (hops.of_append hpre)).running dtTick

/-! ## A slowed plan -/

/-- The first tick of a plan of sixteen waypoints. -/
def firstTick : CartesianChunkFollower ℚ Turn (Axes ℚ × ℚ) :=
  (run turnSpace restOtg (create (plainConfig false)) [.submitFrame (stillFrame 16) homePose]).tick
    turnSpace restOtg (1 / 500)

/-- At half rate, two ticks of a thirtieth complete the first segment. -/
def halfRateOps : List (FollowerOp ℚ Turn) := [.setPlanRateGate (1 / 2), .tick (1 / 30), .tick (1 / 30)]

theorem planClock_ledger_halfRate :
    (clockAfter turnSpace restOtg firstTick halfRateOps).completed = [1 / 30] ∧
      (clockAfter turnSpace restOtg firstTick halfRateOps).Ledger firstTick := by
  refine ⟨by decide +kernel, ?_⟩
  have hops : EveryStep (fun pre op => Undisturbed
      (clockAfter turnSpace restOtg firstTick pre).follower op) halfRateOps := by
    apply everyStep_of_take
    intro i hi op hop
    have hcases : i = 0 ∨ i = 1 ∨ i = 2 := by
      have : i < 3 := hi
      omega
    rcases hcases with rfl | rfl | rfl
    · obtain rfl := Option.some.inj hop
      trivial
    · obtain rfl := Option.some.inj hop
      exact ⟨by norm_num, by decide +kernel⟩
    · obtain rfl := Option.some.inj hop
      exact ⟨by norm_num, by decide +kernel⟩
  exact (planClock_ledger turnSpace restOtg (plainConfig false) [.submitFrame (stillFrame 16) homePose]
    (by simp) (by decide +kernel) (1 / 500) (by norm_num) halfRateOps hops).2.2.1

end RbServo.CartesianChunkFollower
