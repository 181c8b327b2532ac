import RoboticsLab.Chunk.Follower
import Mathlib.Algebra.Group.PUnit

/-!
# A refused frame and the running plan

`submitFrame` returns early on a frame that the window refuses, with the comment "keep prior state";
but `activate` has already cleared the window's active flag, so the plan that was running is lost and
the follower stalls at its next segment boundary.  The outputs stay what they were exactly when the
call returned before it reached the window, the follower is paused, or the plan had no step left.

    SameOutputs s (s.submit sub current) ↔ PlanSpared s sub                (sameOutputs_iff_planSpared)
-/

namespace RbServo.CartesianChunkFollower

variable {K G T : Type*} [Field K] [LinearOrder K] [Group G]
variable {sp : RigidSpace K G} {otg : Otg K T} {s : CartesianChunkFollower K G T}

/-! ## Statement -/

/-- A frame handed to the follower. -/
inductive Submission (K G : Type*)
  | absolute (frame : ChunkFrame K G)
  | delta (frame : ChunkFrame K G)

variable (sp otg) in
def submit (s : CartesianChunkFollower K G T) (current : StandPose K G) :
    Submission K G → CartesianChunkFollower K G T
  | .absolute frame => s.submitFrame sp frame current
  | .delta frame => s.submitDeltaFrame sp otg frame current

variable (sp) in
/-- The window refuses the frame. -/
def Refused (s : CartesianChunkFollower K G T) (current : StandPose K G) : Submission K G → Prop
  | .absolute frame => (s.window.activate sp frame).2 = false
  | .delta frame => (s.window.activate sp (s.integratedFrame sp frame current)).2 = false

/-- The calls that follow. -/
inductive PlanOp (K G : Type*)
  | tick (dtTick : K)
  | setPlanRateGate (gate : K)
  | setAdvanceGate (gate : K) (dir : Vec3 K)
  | absorbOffset (dp : Vec3 K) (dR : G)

def PlanOp.toOp : PlanOp K G → FollowerOp K G
  | .tick dtTick => .tick dtTick
  | .setPlanRateGate gate => .setPlanRateGate gate
  | .setAdvanceGate gate dir => .setAdvanceGate gate dir
  | .absorbOffset dp dR => .absorbOffset dp dR

/-- The emitted pose, the gripper value and the stall flag. -/
def outputs (s : CartesianChunkFollower K G T) : StandPose K G × K × Bool :=
  (s.lastPose, s.currentGrip, s.diag.stall)

variable (sp otg) in
/-- No sequence of calls tells the two followers apart. -/
def SameOutputs (s s' : CartesianChunkFollower K G T) : Prop :=
  ∀ ops : List (PlanOp K G), outputs (run sp otg s' (ops.map PlanOp.toOp)) =
    outputs (run sp otg s (ops.map PlanOp.toOp))

/-- The call returns before it reaches the window. -/
def Submission.dropped (cfg : CartesianChunkFollowerConfig K) : Submission K G → Bool
  | .absolute _ => false
  | .delta frame => deltaFrameDropped cfg frame

/-- The call returns before it reaches the window, the follower is paused, or no step is left. -/
def PlanSpared (s : CartesianChunkFollower K G T) (sub : Submission K G) : Prop :=
  sub.dropped s.cfg ∨ s.holdPaused ∨ ¬ s.window.hasTailStep

/-! ## Reachable states -/

/-- The window belongs to the configuration, and an active window to an active follower. -/
structure WindowInv (s : CartesianChunkFollower K G T) : Prop where
  cfg : s.window.cfg = s.cfg.window
  active : s.window.active → s.active

theorem activate_cfg (w : ChunkWindow K G) (frame : ChunkFrame K G) : (w.activate sp frame).1.cfg = w.cfg := by
  unfold ChunkWindow.activate
  simp only
  split <;> rfl

theorem activate_active (w : ChunkWindow K G) (frame : ChunkFrame K G) :
    (w.activate sp frame).1.active = (w.activate sp frame).2 := by
  unfold ChunkWindow.activate
  simp only
  split <;> rfl

variable (sp) in
omit [LinearOrder K] in
theorem beginSegment_frame (s : CartesianChunkFollower K G T) : (s.beginSegment sp).window = s.window ∧
    (s.beginSegment sp).cfg = s.cfg ∧ (s.beginSegment sp).active = s.active := by
  unfold beginSegment
  by_cases h : s.haveSegment <;> simp [h, relinearizeAndReseed]

variable (sp otg) in
theorem stepToNextSegment_frame (s : CartesianChunkFollower K G T) :
    ((s.stepToNextSegment sp otg).window = s.window ∨ (s.stepToNextSegment sp otg).window = s.window.advance) ∧
      (s.stepToNextSegment sp otg).cfg = s.cfg ∧ (s.stepToNextSegment sp otg).active = s.active := by
  obtain ⟨h1, h2, h3⟩ := beginSegment_frame sp s
  unfold stepToNextSegment
  simp only
  split
  · exact ⟨.inr (congrArg ChunkWindow.advance h1), h2, h3⟩
  · exact ⟨.inl h1, h2, h3⟩

variable (sp otg) in
theorem tick_frame (s : CartesianChunkFollower K G T) (dt : K) :
    ((s.tick sp otg dt).window = s.window ∨ (s.tick sp otg dt).window = s.window.advance) ∧
      (s.tick sp otg dt).cfg = s.cfg ∧ (s.tick sp otg dt).active = s.active := by
  unfold tick crossBoundary
  simp only
  split
  · split
    · exact stepToNextSegment_frame sp otg _
    · exact ⟨.inl rfl, rfl, rfl⟩
  · exact ⟨.inl rfl, rfl, rfl⟩

theorem WindowInv.submitFrame (h : WindowInv s) (frame : ChunkFrame K G) (current : StandPose K G) :
    WindowInv (s.submitFrame sp frame current) := by
  have hcfg : (s.window.activate sp frame).1.cfg = s.cfg.window := by rw [activate_cfg, h.cfg]
  unfold CartesianChunkFollower.submitFrame
  simp only
  split
  · split
    · next ha => exact ⟨hcfg, fun _ => ha⟩
    · exact ⟨hcfg, fun _ => rfl⟩
  · next hr =>
    refine ⟨hcfg, fun ha => ?_⟩
    exact absurd (activate_active s.window frame ▸ ha) hr

omit [Field K] [LinearOrder K] [Group G] in
/-- A change that leaves the window, the configuration and the active flag alone. -/
theorem WindowInv.of_eq {s' : CartesianChunkFollower K G T} (h : WindowInv s) (hw : s'.window = s.window)
    (hc : s'.cfg = s.cfg) (ha : s'.active = s.active) : WindowInv s' := by
  refine ⟨by rw [hw, hc]; exact h.cfg, ?_⟩
  rw [hw, ha]
  exact h.active

variable (sp otg) in
theorem seedFromCurrentSample_frame (s : CartesianChunkFollower K G T) :
    (s.seedFromCurrentSample sp otg).window = s.window ∧ (s.seedFromCurrentSample sp otg).cfg = s.cfg ∧
      (s.seedFromCurrentSample sp otg).active = s.active := by
  unfold seedFromCurrentSample
  split
  · split <;> exact ⟨rfl, rfl, rfl⟩
  · exact ⟨rfl, rfl, rfl⟩

omit [LinearOrder K] [Group G] in
theorem windowInv_deactivate (hc : s.window.cfg = s.cfg.window) : WindowInv s.deactivate :=
  ⟨hc, fun h => by cases h⟩

/-- **One call.** -/
theorem WindowInv.apply (h : WindowInv s) (op : FollowerOp K G) : WindowInv (s.apply sp otg op) := by
  cases op with
  | reconfigure cfg => exact windowInv_deactivate rfl
  | submitFrame frame current => exact h.submitFrame frame current
  | submitDeltaFrame frame current =>
    simp only [CartesianChunkFollower.apply, submitDeltaFrame]
    split
    · exact h
    · apply WindowInv.submitFrame
      split
      · obtain ⟨h1, h2, h3⟩ := seedFromCurrentSample_frame sp otg s
        exact h.of_eq h1 h2 h3
      · exact h.of_eq rfl rfl rfl
  | tick dt =>
    obtain ⟨hw, hc, ha⟩ := tick_frame sp otg s dt
    rcases hw with hw | hw
    · exact h.of_eq hw hc ha
    · refine ⟨?_, ?_⟩
      · rw [CartesianChunkFollower.apply, hw, hc]
        exact h.cfg
      · rw [CartesianChunkFollower.apply, hw, ha]
        exact h.active
  | setPlanRateGate gate => exact h.of_eq rfl rfl rfl
  | setAdvanceGate gate dir => exact h.of_eq rfl rfl rfl
  | absorbOffset dp dR =>
    simp only [CartesianChunkFollower.apply, absorbOffset]
    split <;> exact h.of_eq rfl rfl rfl
  | deactivate => exact windowInv_deactivate h.cfg
  | pauseForHold now =>
    simp only [CartesianChunkFollower.apply, pauseForHold]
    split <;> exact h.of_eq rfl rfl rfl
  | expireHoldPause now grace =>
    simp only [CartesianChunkFollower.apply, expireHoldPause]
    split
    · exact windowInv_deactivate h.cfg
    · exact h
  | resumeFromHold live now grace pTol oTol =>
    simp only [CartesianChunkFollower.apply, resumeFromHold]
    split
    · exact h
    · split
      · exact windowInv_deactivate h.cfg
      · split
        · exact h.of_eq rfl rfl rfl
        · split <;> exact h.of_eq rfl rfl rfl
  | holdAtSentReference reference now =>
    simp only [CartesianChunkFollower.apply, holdAtSentReference, pauseForHold]
    split
    · split <;> exact h.of_eq rfl rfl rfl
    · exact h
  | reanchor reference => exact ⟨h.cfg, fun _ => rfl⟩
  | updateActualLead actual =>
    simp only [CartesianChunkFollower.apply, updateActualLead]
    split <;> exact h.of_eq rfl rfl rfl

theorem WindowInv.of_reachable (hs : Reachable sp otg s) : WindowInv s := by
  obtain ⟨cfg, ops, rfl⟩ := hs
  induction ops using List.reverseRecOn with
  | nil => exact ⟨rfl, fun h => by cases h⟩
  | append_singleton ops op ih =>
    rw [run, List.foldl_append, List.foldl_cons, List.foldl_nil]
    exact ih.apply op

/-! ## What a refused submission changes -/

theorem activate_refused {w : ChunkWindow K G} {frame : ChunkFrame K G}
    (h : (w.activate sp frame).2 = false) :
    w.activate sp frame = (w.deactivate, false) ∧ ChunkWindow.consumeRoom w.cfg frame.pose.length < 1 := by
  unfold ChunkWindow.activate at h ⊢
  simp only at h ⊢
  split at h
  · next hlt => exact ⟨by rw [if_pos hlt]; rfl, hlt⟩
  · cases h

theorem submitFrame_refused {frame : ChunkFrame K G} (current : StandPose K G)
    (h : (s.window.activate sp frame).2 = false) :
    s.submitFrame sp frame current = { s with window := s.window.deactivate } := by
  rw [submitFrame, (activate_refused h).1]
  rfl

omit [LinearOrder K] in
theorem integrateDeltas_length (cursor : StandPose K G) (ds : List (Vec6 K)) :
    (integrateDeltas sp cursor ds).length = ds.length := by
  induction ds generalizing cursor with
  | nil => rfl
  | cons d ds ih => rw [integrateDeltas, List.length_cons, ih, List.length_cons]

/-- In the fresh mode a delta frame that passes the two tests is not refused. -/
theorem not_fresh_of_refused {frame : ChunkFrame K G} {current : StandPose K G} (h : WindowInv s)
    (hd : deltaFrameDropped s.cfg frame = false)
    (hr : (s.window.activate sp (s.integratedFrame sp frame current)).2 = false) :
    s.cfg.freshChunkReplan = false := by
  have hroom := (activate_refused hr).2
  rw [h.cfg] at hroom
  simp only [integratedFrame, integrateDeltas_length, ChunkWindow.consumeRoom] at hroom
  by_contra hf
  rw [Bool.not_eq_false] at hf
  simp only [deltaFrameDropped, hf, Bool.true_and, Bool.or_eq_false_iff, decide_eq_false_iff_not,
    not_lt] at hd
  omega

/-- The plan is switched off: the window is inactive, and the shifts are replaced. -/
def withPlan (s : CartesianChunkFollower K G T) (planShift foldShift : Vec3 K) (foldRot : G) :
    CartesianChunkFollower K G T :=
  { s with
    window := s.window.deactivate
    planShift := planShift
    foldShift := foldShift
    foldRot := foldRot }

def withTime (s : CartesianChunkFollower K G T) (t : K) : CartesianChunkFollower K G T :=
  { s with tInSeg := t }

variable (sp otg) in
theorem submit_of_dropped {current : StandPose K G} {sub : Submission K G} (hd : sub.dropped s.cfg) :
    s.submit sp otg current sub = s := by
  cases sub with
  | absolute frame => cases hd
  | delta frame =>
    rw [submit, submitDeltaFrame]
    exact if_pos hd

variable (otg) in
theorem submit_of_refused {current : StandPose K G} {sub : Submission K G} (h : WindowInv s)
    (hr : Refused sp s current sub) (hd : ¬ sub.dropped s.cfg) :
    ∃ a b g, s.submit sp otg current sub = s.withPlan a b g := by
  cases sub with
  | absolute frame => exact ⟨s.planShift, s.foldShift, s.foldRot, submitFrame_refused current hr⟩
  | delta frame =>
    have hd' : deltaFrameDropped s.cfg frame = false := Bool.eq_false_of_not_eq_true hd
    have hf := not_fresh_of_refused h hd' hr
    refine ⟨0, 0, 1, ?_⟩
    simp only [submit, submitDeltaFrame, hd', hf, Bool.false_eq_true, false_and, if_false]
    exact submitFrame_refused (s := { s with planShift := 0, foldShift := 0, foldRot := 1 }) current hr

/-! ## The outputs stay -/

variable (sp otg) in
theorem apply_of_paused (h : s.holdPaused) (op : PlanOp K G) :
    (s.apply sp otg op.toOp).holdPaused ∧ outputs (s.apply sp otg op.toOp) = outputs s := by
  cases op with
  | tick dt => simp [PlanOp.toOp, apply, tick, h]
  | setPlanRateGate gate => exact ⟨h, rfl⟩
  | setAdvanceGate gate dir => exact ⟨h, rfl⟩
  | absorbOffset dp dR => simp [PlanOp.toOp, apply, absorbOffset, h]

/-- A paused follower emits what it last emitted. -/
theorem run_of_paused (h : s.holdPaused) (ops : List (PlanOp K G)) :
    outputs (run sp otg s (ops.map PlanOp.toOp)) = outputs s := by
  induction ops generalizing s with
  | nil => rfl
  | cons op ops ih =>
    obtain ⟨hp, ho⟩ := apply_of_paused sp otg h op
    rw [List.map_cons, run, List.foldl_cons, ← run, ih hp, ho]

omit [LinearOrder K] in
theorem beginSegment_withPlan (s : CartesianChunkFollower K G T) (a b : Vec3 K) (g : G) :
    (s.withPlan a b g).beginSegment sp = (s.beginSegment sp).withPlan a b g := by
  by_cases h : s.haveSegment
  · have h' : (s.withPlan a b g).haveSegment := h
    unfold beginSegment
    rw [if_pos h, if_pos h']
    rfl
  · have h' : ¬ (s.withPlan a b g).haveSegment := h
    unfold beginSegment
    rw [if_neg h, if_neg h']
    rfl

theorem stepToNextSegment_of_no_tail (h : ¬ s.window.hasTailStep) :
    s.stepToNextSegment sp otg = { (s.beginSegment sp).stallSegment sp otg with haveSegment := true } := by
  have hw : ¬ (s.beginSegment sp).window.hasTailStep := by rwa [(beginSegment_frame sp s).1]
  rw [stepToNextSegment, if_neg hw]

omit [Field K] [LinearOrder K] [Group G] in
theorem not_hasTailStep_withPlan (s : CartesianChunkFollower K G T) (a b : Vec3 K) (g : G) :
    ¬ (s.withPlan a b g).window.hasTailStep := by
  simp [withPlan, ChunkWindow.deactivate, ChunkWindow.hasTailStep]

variable (sp otg) in
/-- Without a step left, a segment boundary does not look at the plan. -/
theorem stepToNextSegment_withPlan (h : ¬ s.window.hasTailStep) (a b : Vec3 K) (g : G) :
    (s.withPlan a b g).stepToNextSegment sp otg = (s.stepToNextSegment sp otg).withPlan a b g := by
  rw [stepToNextSegment_of_no_tail h, stepToNextSegment_of_no_tail (not_hasTailStep_withPlan s a b g),
    beginSegment_withPlan]
  rfl

variable (sp otg) in
theorem crossBoundary_withPlan (h : ¬ s.window.hasTailStep) (a b : Vec3 K) (g : G) :
    (s.withPlan a b g).crossBoundary sp otg = (s.crossBoundary sp otg).withPlan a b g := by
  by_cases hb : ¬ s.haveSegment ∨ s.segLen ≤ s.tInSeg
  · have hb' : ¬ (s.withPlan a b g).haveSegment ∨ (s.withPlan a b g).segLen ≤ (s.withPlan a b g).tInSeg := hb
    rw [crossBoundary, crossBoundary, if_pos hb, if_pos hb']
    let t := if s.haveSegment then max 0 (s.tInSeg - s.segLen)
      else if s.freshReplanPending then s.tInSeg else 0
    have hstep := stepToNextSegment_withPlan sp otg (s := s.withTime t) h a b g
    exact congrArg (fun s : CartesianChunkFollower K G T => { s with freshReplanPending := false }) hstep
  · have hb' : ¬ (¬ (s.withPlan a b g).haveSegment ∨
        (s.withPlan a b g).segLen ≤ (s.withPlan a b g).tInSeg) := hb
    rw [crossBoundary, crossBoundary, if_neg hb, if_neg hb']

theorem tick_withPlan (h : ¬ s.window.hasTailStep) (dt : K) (a b : Vec3 K) (g : G) :
    (s.withPlan a b g).tick sp otg dt = (s.tick sp otg dt).withPlan a b g := by
  by_cases hp : s.active ∧ ¬ s.holdPaused
  · have hp' : (s.withPlan a b g).active ∧ ¬ (s.withPlan a b g).holdPaused := hp
    have hcross := crossBoundary_withPlan sp otg (s := s.withTime (s.tInSeg + dt * s.planRateGate)) h a b g
    rw [tick, tick, if_pos hp, if_pos hp']
    exact congrArg (fun s : CartesianChunkFollower K G T =>
      { s with lastPose := s.sampleAt sp otg (min s.tInSeg s.segLen) }) hcross
  · have hp' : ¬ ((s.withPlan a b g).active ∧ ¬ (s.withPlan a b g).holdPaused) := hp
    rw [tick, tick, if_neg hp, if_neg hp']

theorem not_hasTailStep_tick (h : ¬ s.window.hasTailStep) (dt : K) :
    ¬ (s.tick sp otg dt).window.hasTailStep := by
  rcases (tick_frame sp otg s dt).1 with hw | hw
  · rwa [hw]
  · rw [hw]
    intro ha
    apply h
    rw [ChunkWindow.hasTailStep, Bool.and_eq_true, decide_eq_true_iff] at ha ⊢
    exact ⟨ha.1, Nat.lt_of_succ_lt ha.2⟩

variable (sp otg) in
theorem apply_withPlan (h : ¬ s.window.hasTailStep) (op : PlanOp K G) (a b : Vec3 K) (g : G) :
    ¬ (s.apply sp otg op.toOp).window.hasTailStep ∧
      ∃ a' b' g', (s.withPlan a b g).apply sp otg op.toOp = (s.apply sp otg op.toOp).withPlan a' b' g' := by
  cases op with
  | tick dt => exact ⟨not_hasTailStep_tick h dt, a, b, g, tick_withPlan h dt a b g⟩
  | setPlanRateGate gate => exact ⟨h, a, b, g, rfl⟩
  | setAdvanceGate gate dir => exact ⟨h, a, b, g, rfl⟩
  | absorbOffset dp dR =>
    by_cases hp : s.active ∧ ¬ s.holdPaused ∧ s.core.haveState
    · have hp' : (s.withPlan a b g).active ∧ ¬ (s.withPlan a b g).holdPaused ∧
        (s.withPlan a b g).core.haveState := hp
      simp only [PlanOp.toOp, apply, absorbOffset, if_pos hp, if_pos hp']
      exact ⟨h, a, b + dp, dR * g, rfl⟩
    · have hp' : ¬ ((s.withPlan a b g).active ∧ ¬ (s.withPlan a b g).holdPaused ∧
        (s.withPlan a b g).core.haveState) := hp
      simp only [PlanOp.toOp, apply, absorbOffset, if_neg hp, if_neg hp']
      exact ⟨h, a, b, g, rfl⟩

/-- Without a step left, the plan plays no part in what is emitted. -/
theorem run_withPlan (h : ¬ s.window.hasTailStep) (a b : Vec3 K) (g : G) (ops : List (PlanOp K G)) :
    outputs (run sp otg (s.withPlan a b g) (ops.map PlanOp.toOp)) =
      outputs (run sp otg s (ops.map PlanOp.toOp)) := by
  induction ops generalizing s a b g with
  | nil => rfl
  | cons op ops ih =>
    obtain ⟨ht, a', b', g', he⟩ := apply_withPlan sp otg h op a b g
    rw [List.map_cons, run, run, List.foldl_cons, List.foldl_cons, ← run, ← run, he]
    exact ih ht a' b' g'

/-! ## The outputs change -/

variable (sp otg) in
theorem stepToNextSegment_stall (s : CartesianChunkFollower K G T) :
    (s.stepToNextSegment sp otg).diag.stall = !s.window.hasTailStep := by
  have hw := (beginSegment_frame sp s).1
  unfold stepToNextSegment
  simp only [hw]
  by_cases h : s.window.hasTailStep
  · rw [if_pos h, h]
    rfl
  · rw [if_neg h, Bool.eq_false_of_not_eq_true h]
    rfl

/-- A tick that crosses the end of the segment stalls exactly when no step is left. -/
theorem tick_stall (ha : s.active) (hp : ¬ s.holdPaused) {dt : K}
    (hc : s.segLen ≤ s.tInSeg + dt * s.planRateGate) :
    (s.tick sp otg dt).diag.stall = !s.window.hasTailStep := by
  rw [tick, if_pos ⟨ha, hp⟩, crossBoundary, if_pos (.inr hc)]
  exact stepToNextSegment_stall sp otg _

/-- With a step left, a full-rate tick across the boundary tells the two followers apart. -/
theorem not_sameOutputs_withPlan [IsStrictOrderedRing K] (ha : s.active) (hp : ¬ s.holdPaused)
    (ht : s.window.hasTailStep) (a b : Vec3 K) (g : G) : ¬ SameOutputs sp otg s (s.withPlan a b g) := by
  intro h
  have hgate : clampGate (1 : K) = 1 := by
    rw [clampGate, if_neg (not_lt.mpr zero_le_one), if_neg (lt_irrefl _)]
  have hreach : s.segLen ≤ s.tInSeg + |s.segLen - s.tInSeg| * clampGate 1 := by
    rw [hgate, mul_one]
    linarith [le_abs_self (s.segLen - s.tInSeg)]
  have hstall := congrArg (fun o => o.2.2)
    (h [.setPlanRateGate 1, .tick |s.segLen - s.tInSeg|])
  have h1 : ((s.setPlanRateGate 1).tick sp otg |s.segLen - s.tInSeg|).diag.stall = false := by
    rw [tick_stall (s := s.setPlanRateGate 1) ha hp hreach]
    simpa [setPlanRateGate] using ht
  have h2 : (((s.withPlan a b g).setPlanRateGate 1).tick sp otg |s.segLen - s.tInSeg|).diag.stall = true := by
    rw [tick_stall (s := (s.withPlan a b g).setPlanRateGate 1) ha hp hreach]
    rfl
  exact absurd (h2.symm.trans (hstall.trans h1)) (by decide)

/-! ## The result -/

/-- **Every reachable state, every refused frame.**  No later sequence of ticks, gates and folds tells
that the frame was submitted exactly when the plan was spared. -/
theorem sameOutputs_iff_planSpared [IsStrictOrderedRing K] (sp : RigidSpace K G) (otg : Otg K T)
    (s : CartesianChunkFollower K G T) (hs : Reachable sp otg s) (hw : s.window.active)
    (current : StandPose K G) (sub : Submission K G) (hr : Refused sp s current sub) :
    SameOutputs sp otg s (s.submit sp otg current sub) ↔ PlanSpared s sub := by
  have hinv := WindowInv.of_reachable hs
  by_cases hd : sub.dropped s.cfg
  · rw [submit_of_dropped sp otg hd]
    exact ⟨fun _ => .inl hd, fun _ _ => rfl⟩
  · obtain ⟨a, b, g, he⟩ := submit_of_refused otg hinv hr hd
    rw [he]
    constructor
    · intro h
      by_contra hc
      obtain ⟨hp, ht⟩ := not_or.mp (not_or.mp hc).2
      exact not_sameOutputs_withPlan (hinv.active hw) hp (not_not.mp ht) a b g h
    · rintro (h | hp | ht) ops
      · exact absurd h hd
      · rw [run_of_paused hp, run_of_paused (s := s.withPlan a b g) hp]
        rfl
      · exact run_withPlan ht a b g ops

/-! ## A plan that stands still -/

/-- Positions only: every rotation is the identity. -/
def flatSpace : RigidSpace ℚ Unit where
  sqrt x := x
  exp3 _ := 1
  log3 _ := 0
  exp6 d := ⟨d.linear, 1⟩
  rotate _ v := v
  bodyAngularDerivatives _ v a := (v, a)

/-- A follower two milliseconds into a plan of sixteen waypoints. -/
def runningFollower (freshChunkReplan : Bool) : CartesianChunkFollower ℚ Unit (Axes ℚ × ℚ) :=
  run flatSpace restOtg (create (plainConfig freshChunkReplan))
    [.submitFrame (stillFrame 16) homePose, .tick (1 / 500)]

theorem sameOutputs_iff_planSpared_fresh :
    SameOutputs flatSpace restOtg (runningFollower true)
      ((runningFollower true).submit flatSpace restOtg homePose (.delta (stillFrame 3))) := by
  refine (sameOutputs_iff_planSpared flatSpace restOtg (runningFollower true) ⟨_, _, rfl⟩ ?_ homePose
    (.delta (stillFrame 3)) ?_).mpr (.inl ?_)
  · decide +kernel
  · rw [Refused]
    decide +kernel
  · decide +kernel

/-- Three waypoints are too few for six dropped ones and a reserve of two.  The frame is refused, and
the plan with its ten waypoints left stalls at the next boundary. -/
theorem refused_frame_stalls_plan :
    Reachable flatSpace restOtg (runningFollower false) ∧ (runningFollower false).window.active ∧
      Refused flatSpace (runningFollower false) homePose (.absolute (stillFrame 3)) ∧
      ¬ SameOutputs flatSpace restOtg (runningFollower false)
        ((runningFollower false).submit flatSpace restOtg homePose (.absolute (stillFrame 3))) := by
  refine ⟨⟨_, _, rfl⟩, by decide +kernel, ?_, ?_⟩
  · rw [Refused]
    decide +kernel
  · intro h
    have hstall := congrArg (fun o => o.2.2) (h [.tick (1 / 25)])
    revert hstall
    decide +kernel

end RbServo.CartesianChunkFollower
