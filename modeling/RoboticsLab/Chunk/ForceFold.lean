import RoboticsLab.Chunk.SegmentShift
import RoboticsLab.Lib.Runs
import Mathlib.Algebra.Group.MinimalAxioms
import Mathlib.Data.Fin.VecNotation
import Mathlib.Tactic.FinCases
import Mathlib.Tactic.Ring

/-!
# The force fold moves the plan

`absorbOffset` moves the chained state, the running samples, the tangent anchor and the knots still
to come.  Run next to the follower that did not fold, the folded one emits the same poses moved by
the fold, with the same segments, velocities and stalls.  A later fold `e` that both runs make does
not commute with it: the difference of the two runs becomes the conjugate `e.dR * dR * e.dR⁻¹`.

    MovedOutputs sp otg (seenAfter f ops) (run sp otg s ops)
      (run sp otg (s.absorbOffset sp otg f.dp f.dR).1 ops)             (absorbOffset_movedOutputs)
-/

namespace RbServo.CartesianChunkFollower

open Gauge Runs

variable {K G T : Type*} [Field K] [LinearOrder K] [Group G]
variable (sp : RigidSpace K G) {otg : Otg K T} {s s' : CartesianChunkFollower K G T}
variable {f : Fold (Vec3 K) G}

/-! ## The folded follower -/

/-- `s` moved by the fold, with another core and another displayed target. -/
def moved (f : Fold (Vec3 K) G) (s : CartesianChunkFollower K G T) (core : ChunkFollowerSegment K T)
    (target : StandPose K G) : CartesianChunkFollower K G T :=
  { s with
    core := core
    r0Ref := f.dR * s.r0Ref
    foldShift := s.foldShift + f.dp
    foldRot := f.dR * s.foldRot
    lastPose := f.move s.lastPose
    diag := { s.diag with segTargetStand := target } }

/-- `s'` is `s` moved by the fold. -/
def Folded (otg : Otg K T) (f : Fold (Vec3 K) G) (s s' : CartesianChunkFollower K G T) : Prop :=
  ∃ core target, s' = moved f s core target ∧ CoreShift otg f.dp s.core core

omit [LinearOrder K] in
theorem tangentPose_moved (core : ChunkFollowerSegment K T) (target : StandPose K G) (x : Axes K) :
    (moved f s core target).tangentPose sp (x + liftPosition f.dp) = f.move (s.tangentPose sp x) := by
  simp only [tangentPose, moved, linear_add_lift, angular_add_lift, Fold.move, mul_assoc]

omit [LinearOrder K] in
theorem sampleAt_moved {core : ChunkFollowerSegment K T} (h : CoreShift otg f.dp s.core core)
    (target : StandPose K G) (t : K) :
    (moved f s core target).sampleAt sp otg t = f.move (s.sampleAt sp otg t) := by
  have hs : (moved f s core target).core.sample otg t = (s.core.sample otg t).map (AxesState.translate f.dp) :=
    h.sample t
  rw [sampleAt, sampleAt, hs]
  cases s.core.sample otg t with
  | none => rfl
  | some x => exact tangentPose_moved sp core target x.p

omit [LinearOrder K] in
theorem Folded.relinearizeAndReseed (h : Folded otg f s s') :
    Folded otg f (s.relinearizeAndReseed sp) (s'.relinearizeAndReseed sp) := by
  obtain ⟨core, target, rfl, hc⟩ := h
  refine ⟨_, target, ?_, hc.seed _ _ _⟩
  simp only [CartesianChunkFollower.relinearizeAndReseed, moved, hc.p0, hc.v0, hc.a0, linear_add_lift,
    angular_add_lift, ← axesOf_add_lift, mul_assoc]

/-! ## Knots -/

omit [LinearOrder K] in
/-- The anchor and the knots turn together, so the tangent coordinates stay. -/
theorem knotAxes_moved (core : ChunkFollowerSegment K T) (target x : StandPose K G) :
    (moved f s core target).knotAxes sp x = s.knotAxes sp x + liftPosition f.dp := by
  have hr : (f.dR * s.r0Ref)⁻¹ * (f.dR * s.foldRot) * x.rotation = s.r0Ref⁻¹ * s.foldRot * x.rotation := by
    rw [mul_inv_rev, mul_assoc s.r0Ref⁻¹, inv_mul_cancel_left]
  simp only [knotAxes, moved, hr, ← axesOf_add_lift, add_assoc]

theorem buildSample_moved (core : ChunkFollowerSegment K T) (target : StandPose K G) (k : ℕ) :
    (moved f s core target).buildSample sp k = (s.buildSample sp k).translate f.dp := by
  unfold buildSample
  simp only [knotAxes_moved, add_sub_add_right_eq_sub]
  rfl

omit [LinearOrder K] in
theorem demandedAdvance_moved {core : ChunkFollowerSegment K T} (h : CoreShift otg f.dp s.core core)
    (target : StandPose K G) (k : ℕ) : (moved f s core target).demandedAdvance k = s.demandedAdvance k := by
  have hp : core.p0.linear = s.core.p0.linear + f.dp := by rw [h.p0, linear_add_lift]
  show (s.window.poseAt k).position + s.planShift + (s.foldShift + f.dp) - core.p0.linear = _
  rw [hp, ← add_assoc, add_sub_add_right_eq_sub]
  rfl

/-! ## Segments -/

omit [LinearOrder K] in
theorem Folded.beginSegment (h : Folded otg f s s') : Folded otg f (s.beginSegment sp) (s'.beginSegment sp) := by
  have hhave : s'.haveSegment = s.haveSegment := by
    obtain ⟨core, target, rfl, -⟩ := h
    rfl
  have h1 : Folded otg f (if s.haveSegment then s.relinearizeAndReseed sp else s)
      (if s'.haveSegment then s'.relinearizeAndReseed sp else s') := by
    rw [hhave]
    split
    · exact h.relinearizeAndReseed sp
    · exact h
  unfold CartesianChunkFollower.beginSegment
  generalize (if s.haveSegment then s.relinearizeAndReseed sp else s) = a at h1 ⊢
  generalize (if s'.haveSegment then s'.relinearizeAndReseed sp else s') = b at h1 ⊢
  obtain ⟨core, target, rfl, hc⟩ := h1
  have hd : CoreShift otg f.dp (if a.cfg.freshChunkReplan then a.core.discardTrajectory else a.core)
      (if a.cfg.freshChunkReplan then core.discardTrajectory else core) := by
    split
    · exact hc.discardTrajectory
    · exact hc
  exact ⟨_, target, rfl, hd.setDt a.window.dt⟩

theorem Folded.aimAtKnot (h : Folded otg f s s') : Folded otg f (s.aimAtKnot sp) (s'.aimAtKnot sp) := by
  obtain ⟨core, target, rfl, hc⟩ := h
  have hdem := demandedAdvance_moved hc target s.window.k
  have hgate : (moved f s core target).gatedPlanShift sp s.window.k = s.gatedPlanShift sp s.window.k := by
    unfold gatedPlanShift
    rw [hdem]
    rfl
  refine ⟨core, target, ?_, hc⟩
  unfold CartesianChunkFollower.aimAtKnot
  simp only
  rw [show (moved f s core target).window.k = s.window.k from rfl, hdem, hgate]
  rfl

theorem solveKnot_moved (hotg : otg.TranslationEquivariant) {core : ChunkFollowerSegment K T}
    (h : CoreShift otg f.dp s.core core) (target : StandPose K G) (sample : BoundarySample K) :
    ((moved f s core target).solveKnot otg (sample.translate f.dp)).1 = (s.solveKnot otg sample).1 ∧
      ((moved f s core target).solveKnot otg (sample.translate f.dp)).2.1 = (s.solveKnot otg sample).2.1 ∧
      CoreShift otg f.dp (s.solveKnot otg sample).2.2
        ((moved f s core target).solveKnot otg (sample.translate f.dp)).2.2 := by
  obtain ⟨h1, h2⟩ := h.solve hotg sample s.chainMaxSec
    (s.cfg.freshChunkReplan && s.cfg.deadlineJerkMinimization)
  have hmax : (moved f s core target).chainMaxSec = s.chainMaxSec := rfl
  unfold solveKnot
  simp only [hmax]
  simp only [moved, h1]
  split
  · exact ⟨rfl, h1, h2⟩
  · exact ⟨rfl, (h2.ringDown hotg).1, (h2.ringDown hotg).2⟩

theorem Folded.followKnot (hotg : otg.TranslationEquivariant) (h : Folded otg f s s') :
    Folded otg f (s.followKnot sp otg) (s'.followKnot sp otg) := by
  have haim := h.aimAtKnot sp
  unfold CartesianChunkFollower.followKnot
  generalize s.aimAtKnot sp = a at haim ⊢
  generalize s'.aimAtKnot sp = b at haim ⊢
  obtain ⟨core, target, rfl, hc⟩ := haim
  have hsample := buildSample_moved sp (f := f) (s := a) core target a.window.k
  obtain ⟨h1, h2, h3⟩ := solveKnot_moved hotg hc target (a.buildSample sp a.window.k)
  have herr : ((a.buildSample sp a.window.k).translate f.dp).pf -
      ((moved f a core target).solveKnot otg ((a.buildSample sp a.window.k).translate f.dp)).2.2.p0 =
        (a.buildSample sp a.window.k).pf - (a.solveKnot otg (a.buildSample sp a.window.k)).2.2.p0 := by
    rw [h3.p0]
    exact add_sub_add_right_eq_sub _ _ _
  refine ⟨((moved f a core target).solveKnot otg ((a.buildSample sp a.window.k).translate f.dp)).2.2,
    f.move (a.tangentPose sp (a.buildSample sp a.window.k).pf), ?_, h3⟩
  simp only
  rw [show (moved f a core target).window.k = a.window.k from rfl, hsample, herr, h1, h2]
  have htarget := tangentPose_moved sp (f := f) (s := a) core target (a.buildSample sp a.window.k).pf
  rw [← htarget]
  rfl

theorem Folded.stallSegment (hotg : otg.TranslationEquivariant) (h : Folded otg f s s') :
    Folded otg f (s.stallSegment sp otg) (s'.stallSegment sp otg) := by
  obtain ⟨core, target, rfl, hc⟩ := h
  obtain ⟨h1, h2⟩ := hc.ringDown hotg
  refine ⟨_, f.move (s.tangentPose sp (ringDown otg s.core).2.p0), ?_, h2⟩
  rw [← tangentPose_moved sp core target, ← h2.p0]
  unfold CartesianChunkFollower.stallSegment
  simp only [moved, h1]

theorem Folded.stepToNextSegment (hotg : otg.TranslationEquivariant) (h : Folded otg f s s') :
    Folded otg f (s.stepToNextSegment sp otg) (s'.stepToNextSegment sp otg) := by
  have hbegin := h.beginSegment sp
  unfold CartesianChunkFollower.stepToNextSegment
  generalize s.beginSegment sp = a at hbegin ⊢
  generalize s'.beginSegment sp = b at hbegin ⊢
  have hw : b.window = a.window := by
    obtain ⟨core, target, rfl, -⟩ := hbegin
    rfl
  simp only [hw]
  split
  · obtain ⟨core, target, he, hc⟩ := hbegin.followKnot sp hotg
    rw [he]
    exact ⟨core, target, rfl, hc⟩
  · obtain ⟨core, target, he, hc⟩ := hbegin.stallSegment sp hotg
    rw [he]
    exact ⟨core, target, rfl, hc⟩

theorem Folded.crossBoundary (hotg : otg.TranslationEquivariant) (h : Folded otg f s s') :
    Folded otg f (s.crossBoundary sp otg) (s'.crossBoundary sp otg) := by
  obtain ⟨core, target, rfl, hc⟩ := h
  by_cases hb : ¬ s.haveSegment ∨ s.segLen ≤ s.tInSeg
  · have hb' : ¬ (moved f s core target).haveSegment ∨
        (moved f s core target).segLen ≤ (moved f s core target).tInSeg := hb
    rw [CartesianChunkFollower.crossBoundary, CartesianChunkFollower.crossBoundary, if_pos hb, if_pos hb']
    let t := if s.haveSegment then max 0 (s.tInSeg - s.segLen) else if s.freshReplanPending then s.tInSeg else 0
    have ht : Folded otg f { s with tInSeg := t } { moved f s core target with tInSeg := t } :=
      ⟨core, target, rfl, hc⟩
    obtain ⟨core', target', he, hc'⟩ := ht.stepToNextSegment sp hotg
    refine ⟨core', target', ?_, hc'⟩
    exact congrArg (fun s : CartesianChunkFollower K G T => { s with freshReplanPending := false }) he
  · have hb' : ¬ (¬ (moved f s core target).haveSegment ∨
        (moved f s core target).segLen ≤ (moved f s core target).tInSeg) := hb
    rw [CartesianChunkFollower.crossBoundary, CartesianChunkFollower.crossBoundary, if_neg hb, if_neg hb']
    exact ⟨core, target, rfl, hc⟩

theorem Folded.resample (h : Folded otg f s s') :
    Folded otg f { s with lastPose := s.sampleAt sp otg (min s.tInSeg s.segLen) }
      { s' with lastPose := s'.sampleAt sp otg (min s'.tInSeg s'.segLen) } := by
  obtain ⟨core, target, rfl, hc⟩ := h
  refine ⟨core, target, ?_, hc⟩
  rw [sampleAt_moved sp hc]
  rfl

/-- **One tick.** -/
theorem Folded.tick (hotg : otg.TranslationEquivariant) (h : Folded otg f s s') (dt : K) :
    Folded otg f (s.tick sp otg dt) (s'.tick sp otg dt) := by
  obtain ⟨core, target, rfl, hc⟩ := h
  by_cases hp : s.active ∧ ¬ s.holdPaused
  · have hp' : (moved f s core target).active ∧ ¬ (moved f s core target).holdPaused := hp
    rw [CartesianChunkFollower.tick, CartesianChunkFollower.tick, if_pos hp, if_pos hp']
    have ht : Folded otg f { s with tInSeg := s.tInSeg + dt * s.planRateGate }
        { moved f s core target with tInSeg := s.tInSeg + dt * s.planRateGate } := ⟨core, target, rfl, hc⟩
    exact (ht.crossBoundary sp hotg).resample sp
  · have hp' : ¬ ((moved f s core target).active ∧ ¬ (moved f s core target).holdPaused) := hp
    rw [CartesianChunkFollower.tick, CartesianChunkFollower.tick, if_neg hp, if_neg hp']
    exact ⟨core, target, rfl, hc⟩

/-! ## The emitted pose is the plan's pose -/

/-- Where the plan is: on the running segment, or at the chained state before the first one. -/
def planPose (otg : Otg K T) (s : CartesianChunkFollower K G T) : StandPose K G :=
  if s.haveSegment then s.sampleAt sp otg (min s.tInSeg s.segLen) else s.tangentPose sp s.core.p0

/-- An active follower has a chained state, and what it emits is the pose of its plan. -/
structure PoseInv (otg : Otg K T) (s : CartesianChunkFollower K G T) : Prop where
  haveState : s.active → s.core.haveState
  lastPose : s.active → s.lastPose = planPose sp otg s

variable {sp}

/-- A follower anchored at `x`, before its first segment. -/
theorem PoseInv.of_seed (hexp : sp.exp3 0 = 1) {x : StandPose K G} (hc : s.core.haveState)
    (hp : s.core.p0 = axesOf x.position 0) (hr : s.r0Ref = x.rotation) (hl : s.lastPose = x)
    (hs : s.haveSegment = false) : PoseInv sp otg s := by
  refine ⟨fun _ => hc, fun _ => ?_⟩
  rw [planPose, if_neg (by simp [hs]), tangentPose, hp, hr, hl, axesOf_linear, axesOf_angular, hexp, mul_one]

/-- Fields the emitted pose does not depend on. -/
theorem PoseInv.of_eq (h : PoseInv sp otg s) (ha : s'.active = s.active) (hl : s'.lastPose = s.lastPose)
    (hr : s'.r0Ref = s.r0Ref) (hh : s'.haveSegment = s.haveSegment) (ht : s'.tInSeg = s.tInSeg)
    (hn : s'.segLen = s.segLen) (hp : s'.core.p0 = s.core.p0) (hc : s'.core.haveState = s.core.haveState)
    (hs : ∀ t, s'.core.sample otg t = s.core.sample otg t) : PoseInv sp otg s' := by
  refine ⟨fun h' => hc.trans (h.haveState (ha ▸ h')), fun h' => ?_⟩
  rw [hl, h.lastPose (ha ▸ h')]
  simp only [planPose, sampleAt, tangentPose, hh, ht, hn, hp, hr, hs, hl]

theorem PoseInv.of_inactive (h : s.active = false) : PoseInv sp otg s :=
  ⟨fun h' => absurd h' (by simp [h]), fun h' => absurd h' (by simp [h])⟩

/-- After its pose has been sampled, a follower with a segment emits the pose of its plan. -/
theorem PoseInv.of_sampled (hc : s.core.haveState) (hs : s.haveSegment) :
    PoseInv sp otg { s with lastPose := s.sampleAt sp otg (min s.tInSeg s.segLen) } := by
  refine ⟨fun _ => hc, fun _ => ?_⟩
  rw [planPose, if_pos hs]
  simp only [sampleAt]
  cases s.core.sample otg (min s.tInSeg s.segLen) <;> rfl

/-! ### The chained state stays known -/

theorem solve_haveState (c : ChunkFollowerSegment K T) (x : BoundarySample K) (m : K) (b : Bool) :
    (c.solve otg x m b).2.haveState = c.haveState := by
  unfold ChunkFollowerSegment.solve
  simp only
  split
  · split <;> rfl
  · rfl

omit [LinearOrder K] in
theorem beginSegment_haveState (h : s.core.haveState) : (s.beginSegment sp).core.haveState := by
  have h1 : (if s.haveSegment then s.relinearizeAndReseed sp else s).core.haveState := by
    split
    · rfl
    · exact h
  unfold beginSegment
  generalize (if s.haveSegment then s.relinearizeAndReseed sp else s) = a at h1 ⊢
  show (if a.cfg.freshChunkReplan then a.core.discardTrajectory else a.core).haveState
  split <;> exact h1

theorem stepToNextSegment_haveState (h : s.core.haveState) :
    (s.stepToNextSegment sp otg).core.haveState ∧ (s.stepToNextSegment sp otg).haveSegment := by
  have hb : (s.beginSegment sp).core.haveState := beginSegment_haveState h
  refine ⟨?_, rfl⟩
  unfold stepToNextSegment
  simp only
  split
  · show (solveKnot otg _ _).2.2.haveState = true
    unfold solveKnot
    simp only
    split
    · rw [solve_haveState]
      exact hb
    · rw [ringDown, solve_haveState, solve_haveState]
      exact hb
  · show (ringDown otg _).2.haveState = true
    rw [ringDown, solve_haveState]
    exact hb

theorem crossBoundary_haveState (h : s.core.haveState) :
    (s.crossBoundary sp otg).core.haveState ∧ (s.crossBoundary sp otg).haveSegment := by
  by_cases hb : ¬ s.haveSegment ∨ s.segLen ≤ s.tInSeg
  · rw [crossBoundary, if_pos hb]
    exact stepToNextSegment_haveState (s := { s with tInSeg := _ }) h
  · rw [crossBoundary, if_neg hb]
    exact ⟨h, not_not.mp (not_or.mp hb).1⟩

theorem PoseInv.tick (h : PoseInv sp otg s) (dt : K) : PoseInv sp otg (s.tick sp otg dt) := by
  by_cases hp : s.active ∧ ¬ s.holdPaused
  · rw [CartesianChunkFollower.tick, if_pos hp]
    let s₁ : CartesianChunkFollower K G T := { s with tInSeg := s.tInSeg + dt * s.planRateGate }
    have hx : (s₁.crossBoundary sp otg).core.haveState ∧ (s₁.crossBoundary sp otg).haveSegment :=
      crossBoundary_haveState (h.haveState hp.1)
    exact PoseInv.of_sampled hx.1 hx.2
  · rw [CartesianChunkFollower.tick, if_neg hp]
    exact h

theorem PoseInv.submitFrame (hexp : sp.exp3 0 = 1) (h : PoseInv sp otg s) (frame : ChunkFrame K G)
    (current : StandPose K G) : PoseInv sp otg (s.submitFrame sp frame current) := by
  unfold CartesianChunkFollower.submitFrame
  simp only
  split
  · split
    · exact h.of_eq rfl rfl rfl rfl rfl rfl rfl rfl fun _ => rfl
    · exact PoseInv.of_seed hexp rfl rfl rfl rfl rfl
  · exact h.of_eq rfl rfl rfl rfl rfl rfl rfl rfl fun _ => rfl

theorem PoseInv.seedFromCurrentSample (hexp : sp.exp3 0 = 1) (h : PoseInv sp otg s) :
    PoseInv sp otg (s.seedFromCurrentSample sp otg) := by
  unfold CartesianChunkFollower.seedFromCurrentSample
  split
  · split
    · exact h
    · next x hx =>
      refine PoseInv.of_seed hexp (x := s.tangentPose sp x.p) rfl rfl rfl rfl rfl
  · exact h

theorem PoseInv.absorbOffset (h : PoseInv sp otg s) (dp : Vec3 K) (dR : G) :
    PoseInv sp otg (s.absorbOffset sp otg dp dR).1 := by
  by_cases hp : s.active ∧ ¬ s.holdPaused ∧ s.core.haveState
  · rw [CartesianChunkFollower.absorbOffset, if_pos hp]
    have hc : (s.core.shiftPosition (axesOf dp 0)).haveState := by
      rw [ChunkFollowerSegment.shiftPosition, if_pos hp.2.2]
      exact hp.2.2
    by_cases hs : s.haveSegment
    · simp only [if_pos hs]
      exact PoseInv.of_sampled (s := { s with core := _, foldShift := _, r0Ref := _, foldRot := _ }) hc hs
    · refine ⟨fun _ => hc, fun _ => ?_⟩
      simp only [planPose, if_neg hs]
      rfl
  · rw [CartesianChunkFollower.absorbOffset, if_neg hp]
    exact h

/-- **One call.** -/
theorem PoseInv.apply (hexp : sp.exp3 0 = 1) (h : PoseInv sp otg s) (op : FollowerOp K G) :
    PoseInv sp otg (s.apply sp otg op) := by
  cases op with
  | reconfigure cfg => exact PoseInv.of_inactive rfl
  | submitFrame frame current => exact h.submitFrame hexp frame current
  | submitDeltaFrame frame current =>
    simp only [CartesianChunkFollower.apply, submitDeltaFrame]
    split
    · exact h
    · apply PoseInv.submitFrame hexp
      split
      · exact (h.seedFromCurrentSample hexp).of_eq rfl rfl rfl rfl rfl rfl rfl rfl fun _ => rfl
      · exact h.of_eq rfl rfl rfl rfl rfl rfl rfl rfl fun _ => rfl
  | tick dt => exact h.tick dt
  | setPlanRateGate gate => exact h.of_eq rfl rfl rfl rfl rfl rfl rfl rfl fun _ => rfl
  | setAdvanceGate gate dir => exact h.of_eq rfl rfl rfl rfl rfl rfl rfl rfl fun _ => rfl
  | absorbOffset dp dR => exact h.absorbOffset dp dR
  | deactivate => exact PoseInv.of_inactive rfl
  | pauseForHold now =>
    simp only [CartesianChunkFollower.apply, pauseForHold]
    split
    · exact h.of_eq rfl rfl rfl rfl rfl rfl rfl rfl fun _ => rfl
    · exact h
  | expireHoldPause now grace =>
    simp only [CartesianChunkFollower.apply, expireHoldPause]
    split
    · exact PoseInv.of_inactive rfl
    · exact h
  | resumeFromHold live now grace pTol oTol =>
    simp only [CartesianChunkFollower.apply, resumeFromHold]
    split
    · exact h
    · split
      · exact PoseInv.of_inactive rfl
      · split
        · exact h.of_eq rfl rfl rfl rfl rfl rfl rfl rfl fun _ => rfl
        · split
          · exact PoseInv.of_seed hexp rfl rfl rfl rfl rfl
          · exact h.of_eq rfl rfl rfl rfl rfl rfl rfl rfl fun _ => rfl
  | holdAtSentReference reference now =>
    simp only [CartesianChunkFollower.apply, holdAtSentReference]
    split
    · exact PoseInv.of_seed hexp rfl rfl rfl rfl rfl
    · exact h
  | reanchor reference => exact PoseInv.of_seed hexp rfl rfl rfl rfl rfl
  | updateActualLead actual =>
    simp only [CartesianChunkFollower.apply, updateActualLead]
    split <;> exact h.of_eq rfl rfl rfl rfl rfl rfl rfl rfl fun _ => rfl

theorem PoseInv.of_reachable (hexp : sp.exp3 0 = 1) (hs : Reachable sp otg s) : PoseInv sp otg s := by
  obtain ⟨cfg, ops, rfl⟩ := hs
  induction ops using List.reverseRecOn with
  | nil => exact PoseInv.of_inactive rfl
  | append_singleton ops op ih =>
    rw [run, List.foldl_append, List.foldl_cons, List.foldl_nil]
    exact ih.apply hexp op

/-! ## Later folds -/

/-- The running segment has a trajectory: its solve, or the ring-down after it, was not refused. -/
def OnTrajectory (s : CartesianChunkFollower K G T) : Prop := s.haveSegment → s.core.lastTraj.isSome

/-- On a trajectory the pose of the plan is not the last one emitted. -/
theorem planPose_lastPose (ht : OnTrajectory s) (x : StandPose K G) :
    planPose sp otg { s with lastPose := x } = planPose sp otg s := by
  by_cases hs : s.haveSegment
  · obtain ⟨traj, htraj⟩ := Option.isSome_iff_exists.mp (ht hs)
    rw [planPose, planPose, if_pos hs, if_pos hs]
    simp only [sampleAt, ChunkFollowerSegment.sample, htraj, Option.map_some]
    rfl
  · rw [planPose, planPose, if_neg hs, if_neg hs]
    rfl

theorem planPose_moved {core : ChunkFollowerSegment K T} (h : CoreShift otg f.dp s.core core)
    (target : StandPose K G) : planPose sp otg (moved f s core target) = f.move (planPose sp otg s) := by
  by_cases hs : s.haveSegment
  · have hs' : (moved f s core target).haveSegment := hs
    rw [planPose, planPose, if_pos hs, if_pos hs']
    exact sampleAt_moved sp h target _
  · have hs' : ¬ (moved f s core target).haveSegment := hs
    rw [planPose, planPose, if_neg hs, if_neg hs', ← tangentPose_moved sp core target, ← h.p0]
    rfl

omit [LinearOrder K] in
theorem onTrajectory_moved {core : ChunkFollowerSegment K T} (h : CoreShift otg f.dp s.core core)
    (target : StandPose K G) (ht : OnTrajectory s) : OnTrajectory (moved f s core target) := by
  intro hs
  obtain ⟨traj, htraj⟩ := Option.isSome_iff_exists.mp (ht hs)
  have hx : (core.sample otg 0).isSome = ((s.core.sample otg 0).map (AxesState.translate f.dp)).isSome :=
    congrArg Option.isSome (h.sample 0)
  show core.lastTraj.isSome
  simpa [ChunkFollowerSegment.sample, htraj] using hx

/-- An accepted fold moves the follower. -/
theorem absorbOffset_eq_moved (ha : s.active) (hp : ¬ s.holdPaused) (h : PoseInv sp otg s)
    (ht : OnTrajectory s) (e : Fold (Vec3 K) G) : (s.absorbOffset sp otg e.dp e.dR).1 =
      moved e s (s.core.shiftPosition (liftPosition e.dp)) s.diag.segTargetStand := by
  have hc := h.haveState ha
  have hcore : CoreShift otg e.dp s.core (s.core.shiftPosition (liftPosition e.dp)) :=
    CoreShift.of_shiftPosition hc e.dp
  let m := moved e s (s.core.shiftPosition (liftPosition e.dp)) s.diag.segTargetStand
  have hpose : planPose sp otg { m with lastPose := s.lastPose } = e.move s.lastPose := by
    rw [planPose_lastPose (onTrajectory_moved hcore _ ht), planPose_moved hcore, h.lastPose ha]
  rw [CartesianChunkFollower.absorbOffset, if_pos ⟨ha, hp, hc⟩]
  exact congrArg (fun x => { m with lastPose := x }) hpose

/-- **One later fold.**  The two followers now differ by the conjugate. -/
theorem Folded.absorbOffset (h : Folded otg f s s') (ha : s.active) (hp : ¬ s.holdPaused)
    (hi : PoseInv sp otg s) (ht : OnTrajectory s) (e : Fold (Vec3 K) G) :
    Folded otg (f.after e) (s.absorbOffset sp otg e.dp e.dR).1 (s'.absorbOffset sp otg e.dp e.dR).1 := by
  obtain ⟨core, target, rfl, hc⟩ := h
  have hi' : PoseInv sp otg (moved f s core target) := by
    refine ⟨fun _ => hc.haveState.trans (hi.haveState ha), fun _ => ?_⟩
    rw [planPose_moved hc, ← hi.lastPose ha]
    rfl
  rw [absorbOffset_eq_moved ha hp hi ht,
    absorbOffset_eq_moved (s := moved f s core target) ha hp hi' (onTrajectory_moved hc target ht)]
  refine ⟨core.shiftPosition (liftPosition e.dp), target, ?_, hc.shiftPosition (hi.haveState ha) e.dp⟩
  simp only [moved, ← Fold.after_mul, Fold.after_move, Fold.after_dp, add_right_comm]

theorem Folded.submitFrame (h : Folded otg f s s') (ha : s.active) (frame : ChunkFrame K G)
    (current : StandPose K G) :
    Folded otg f (s.submitFrame sp frame current) (s'.submitFrame sp frame current) := by
  obtain ⟨core, target, rfl, hc⟩ := h
  have ha' : (moved f s core target).active := ha
  unfold CartesianChunkFollower.submitFrame
  simp only [show (moved f s core target).window = s.window from rfl]
  split
  · exact ⟨_, target, rfl, hc.setDt _⟩
  · exact ⟨core, target, rfl, hc⟩

/-! ## Runs -/

/-- The calls after which an active plan keeps its anchor. -/
def keepsAnchor : FollowerOp K G → Bool
  | .tick _ | .setPlanRateGate _ | .setAdvanceGate _ _ | .absorbOffset _ _ | .submitFrame _ _ => true
  | _ => false

def opRotation : FollowerOp K G → G
  | .absorbOffset _ dR => dR
  | _ => 1

/-- The rotation of the folds of a run, the latest on the left. -/
def laterRotation (ops : List (FollowerOp K G)) : G := ops.foldl (fun c op => opRotation op * c) 1

omit [Field K] [LinearOrder K] in
theorem laterRotation_concat (ops : List (FollowerOp K G)) (op : FollowerOp K G) :
    laterRotation (ops ++ [op]) = opRotation op * laterRotation ops := by
  rw [laterRotation, List.foldl_append]
  rfl

/-- The fold as it is seen after a run. -/
def seenAfter (f : Fold (Vec3 K) G) (ops : List (FollowerOp K G)) : Fold (Vec3 K) G :=
  ⟨f.dp, laterRotation ops * f.dR * (laterRotation ops)⁻¹⟩

omit [Field K] [LinearOrder K] in
theorem seenAfter_concat (f : Fold (Vec3 K) G) (ops : List (FollowerOp K G)) (op : FollowerOp K G) :
    seenAfter f (ops ++ [op]) = (seenAfter f ops).after ⟨f.dp, opRotation op⟩ := by
  simp only [seenAfter, Fold.after, laterRotation_concat, mul_inv_rev, mul_assoc]

/-- A later fold finds a trajectory to move. -/
def FoldsTrajectory (s : CartesianChunkFollower K G T) : FollowerOp K G → Prop
  | .absorbOffset _ _ => OnTrajectory s
  | _ => True

/-- Running: active and not paused. -/
def running (s : CartesianChunkFollower K G T) : Bool := s.active && !s.holdPaused

omit [LinearOrder K] in
theorem beginSegment_running : (s.beginSegment sp).running = s.running := by
  unfold beginSegment
  by_cases h : s.haveSegment <;> simp [h, relinearizeAndReseed, running]

theorem stepToNextSegment_running : (s.stepToNextSegment sp otg).running = s.running := by
  rw [← beginSegment_running (s := s)]
  unfold stepToNextSegment
  simp only
  split <;> rfl

/-- A call that keeps the anchor keeps the plan running. -/
theorem apply_running (hs : s.running) {op : FollowerOp K G} (hop : keepsAnchor op) :
    (s.apply sp otg op).running := by
  have ha : s.active := (Bool.and_eq_true_iff.mp hs).1
  cases op with
  | tick dt =>
    simp only [CartesianChunkFollower.apply, CartesianChunkFollower.tick, CartesianChunkFollower.crossBoundary]
    split
    · split
      · exact stepToNextSegment_running.trans hs
      · exact hs
    · exact hs
  | setPlanRateGate gate => exact hs
  | setAdvanceGate gate dir => exact hs
  | absorbOffset dp dR =>
    simp only [CartesianChunkFollower.apply, CartesianChunkFollower.absorbOffset]
    split <;> exact hs
  | submitFrame frame current =>
    simp only [CartesianChunkFollower.apply, CartesianChunkFollower.submitFrame]
    split <;> exact hs
  | _ => exact absurd hop (by simp [keepsAnchor])

/-- Two runs next to each other: the second one is folded. -/
structure SideBySide (sp : RigidSpace K G) (otg : Otg K T) (f : Fold (Vec3 K) G)
    (s s' : CartesianChunkFollower K G T) : Prop where
  folded : Folded otg f s s'
  pose : PoseInv sp otg s
  running : s.running

omit [LinearOrder K] in
theorem Folded.after_one (h : Folded otg f s s') : Folded otg (f.after ⟨f.dp, 1⟩) s s' := by
  have hsame : f.after ⟨f.dp, 1⟩ = f := by simp [Fold.after]
  rw [hsame]
  exact h

/-- **One call.** -/
theorem SideBySide.apply (hexp : sp.exp3 0 = 1) (hotg : otg.TranslationEquivariant)
    (h : SideBySide sp otg f s s') {op : FollowerOp K G} (hop : keepsAnchor op) (ht : FoldsTrajectory s op) :
    SideBySide sp otg (f.after ⟨f.dp, opRotation op⟩) (s.apply sp otg op) (s'.apply sp otg op) := by
  obtain ⟨ha, hp⟩ : s.active ∧ ¬ s.holdPaused := by simpa [CartesianChunkFollower.running] using h.running
  refine ⟨?_, h.pose.apply hexp op, apply_running h.running hop⟩
  cases op with
  | tick dt => exact (h.folded.tick sp hotg dt).after_one
  | setPlanRateGate gate =>
    apply Folded.after_one
    obtain ⟨core, target, rfl, hc⟩ := h.folded
    exact ⟨core, target, rfl, hc⟩
  | setAdvanceGate gate dir =>
    apply Folded.after_one
    obtain ⟨core, target, rfl, hc⟩ := h.folded
    exact ⟨core, target, rfl, hc⟩
  | absorbOffset dp dR => exact h.folded.absorbOffset ha hp h.pose ht ⟨dp, dR⟩
  | submitFrame frame current => exact (h.folded.submitFrame ha frame current).after_one
  | _ => exact absurd hop (by simp [keepsAnchor])

/-- **Whole runs.** -/
theorem SideBySide.run (hexp : sp.exp3 0 = 1) (hotg : otg.TranslationEquivariant)
    (h : SideBySide sp otg f s s') {ops : List (FollowerOp K G)}
    (hops : EveryStep (fun pre op => keepsAnchor op ∧ FoldsTrajectory (run sp otg s pre) op) ops) :
    SideBySide sp otg (seenAfter f ops) (run sp otg s ops) (run sp otg s' ops) := by
  refine hops.invariant
    (fun ops => SideBySide sp otg (seenAfter f ops) (CartesianChunkFollower.run sp otg s ops)
      (CartesianChunkFollower.run sp otg s' ops)) ?_ ?_
  · have h0 : seenAfter f [] = f := by simp [seenAfter, laterRotation]
    rw [h0]
    exact h
  · intro pre op hpre ⟨hop, ht⟩
    rw [seenAfter_concat, CartesianChunkFollower.run, CartesianChunkFollower.run, List.foldl_append,
      List.foldl_append]
    exact hpre.apply hexp hotg hop ht

/-! ## The result -/

/-- `s'` emits what `s` emits moved by the fold, on the same segment of the same frame, with the same
velocities, accelerations and flags. -/
structure MovedOutputs (sp : RigidSpace K G) (otg : Otg K T) (f : Fold (Vec3 K) G)
    (s s' : CartesianChunkFollower K G T) : Prop where
  position : s'.lastPose.position = s.lastPose.position + f.dp
  orientation : s'.lastPose.rotation = f.dR * s.lastPose.rotation
  grip : s'.currentGrip = s.currentGrip
  segments : s'.diag.segments = s.diag.segments
  segStepIndex : s'.diag.segStepIndex = s.diag.segStepIndex
  segWireSeq : s'.diag.segWireSeq = s.diag.segWireSeq
  segRecvSeq : s'.diag.segRecvSeq = s.diag.segRecvSeq
  stall : s'.diag.stall = s.diag.stall
  stallCount : s'.diag.stallCount = s.diag.stallCount
  currentVelocity : s'.currentVelocity = s.currentVelocity
  sampledVelocity : s'.sampledVelocity otg = s.sampledVelocity otg
  sampledAcceleration : s'.sampledAcceleration otg = s.sampledAcceleration otg
  velocity : (s'.outputKinematics sp otg).velocity = (s.outputKinematics sp otg).velocity
  acceleration : (s'.outputKinematics sp otg).acceleration = (s.outputKinematics sp otg).acceleration

omit [LinearOrder K] in
theorem kinematicsOf_moved (core : ChunkFollowerSegment K T) (target : StandPose K G) (x : AxesState K) :
    ((moved f s core target).kinematicsOf sp (x.translate f.dp)).velocity = (s.kinematicsOf sp x).velocity ∧
      ((moved f s core target).kinematicsOf sp (x.translate f.dp)).acceleration =
        (s.kinematicsOf sp x).acceleration := by
  simp only [kinematicsOf, AxesState.translate, angular_add_lift, moved, and_self]

/-- A folded follower emits the moved poses. -/
theorem Folded.movedOutputs (h : Folded otg f s s') : MovedOutputs sp otg f s s' := by
  obtain ⟨core, target, rfl, hc⟩ := h
  let m := moved f s core target
  have hfollow : m.following = s.following := congrArg (s.active && !s.holdPaused && ·) hc.haveState
  have hsample : m.currentSample otg = (s.currentSample otg).map (AxesState.translate f.dp) := by
    rw [currentSample, currentSample]
    show (if s.haveSegment then core.sample otg (min s.tInSeg s.segLen) else none) = _
    split
    · exact hc.sample _
    · rfl
  have hv : m.currentVelocity = s.currentVelocity := by
    rw [currentVelocity, currentVelocity, hfollow]
    exact congrArg (fun v => if s.following then some (vec6Of v) else none) hc.v0
  have hsv : m.sampledVelocity otg = s.sampledVelocity otg := by
    rw [sampledVelocity, sampledVelocity, hfollow, hsample, hv]
    cases s.currentSample otg <;> rfl
  have hsa : m.sampledAcceleration otg = s.sampledAcceleration otg := by
    have ha : m.core.a0 = s.core.a0 := hc.a0
    rw [sampledAcceleration, sampledAcceleration, hfollow, hsample, ha]
    cases s.currentSample otg <;> rfl
  have hk : (m.outputKinematics sp otg).velocity = (s.outputKinematics sp otg).velocity ∧
      (m.outputKinematics sp otg).acceleration = (s.outputKinematics sp otg).acceleration := by
    have hseg : m.haveSegment = s.haveSegment := rfl
    have hcore : (⟨m.core.p0, m.core.v0, m.core.a0⟩ : AxesState K) =
        (⟨s.core.p0, s.core.v0, s.core.a0⟩ : AxesState K).translate f.dp := by
      show (⟨core.p0, core.v0, core.a0⟩ : AxesState K) = _
      rw [hc.p0, hc.v0, hc.a0]
      rfl
    rw [outputKinematics, outputKinematics, hfollow, hseg, hsample, hcore]
    split
    · split
      · cases s.currentSample otg with
        | none => exact ⟨rfl, rfl⟩
        | some x => exact kinematicsOf_moved core target x
      · exact kinematicsOf_moved core target _
    · exact ⟨rfl, rfl⟩
  exact ⟨rfl, rfl, rfl, rfl, rfl, rfl, rfl, rfl, rfl, hv, hsv, hsa, hk.1, hk.2⟩

/-- **Every reachable running state, every fold, every later run.**  Against the run without the fold,
the positions are moved by `dp`, the orientations by `dR` turned by the later folds. -/
theorem absorbOffset_movedOutputs (sp : RigidSpace K G) (hexp : sp.exp3 0 = 1) (otg : Otg K T)
    (hotg : otg.TranslationEquivariant) (s : CartesianChunkFollower K G T) (hs : Reachable sp otg s)
    (hr : s.running) (ht : OnTrajectory s) (f : Fold (Vec3 K) G) (ops : List (FollowerOp K G))
    (hops : EveryStep (fun pre op => keepsAnchor op ∧ FoldsTrajectory (run sp otg s pre) op) ops) :
    MovedOutputs sp otg (seenAfter f ops) (run sp otg s ops)
      (run sp otg (s.absorbOffset sp otg f.dp f.dR).1 ops) := by
  have hi := PoseInv.of_reachable hexp hs
  obtain ⟨ha, hp⟩ : s.active ∧ ¬ s.holdPaused := by simpa [running] using hr
  have h0 : SideBySide sp otg f s (s.absorbOffset sp otg f.dp f.dR).1 := by
    refine ⟨?_, hi, hr⟩
    rw [absorbOffset_eq_moved ha hp hi ht]
    exact ⟨_, _, rfl, CoreShift.of_shiftPosition (hi.haveState ha) f.dp⟩
  exact (h0.run hexp hotg hops).folded.movedOutputs

/-! ## Two turns that do not commute -/

/-- Upper triangular matrices, a group in which the order of two turns matters. -/
structure Turn where
  x : ℚ
  y : ℚ
  z : ℚ
deriving DecidableEq

namespace Turn

instance : Mul Turn := ⟨fun a b => ⟨a.x + b.x, a.y + b.y, a.z + b.z + a.x * b.y⟩⟩
instance : One Turn := ⟨⟨0, 0, 0⟩⟩
instance : Inv Turn := ⟨fun a => ⟨-a.x, -a.y, -a.z + a.x * a.y⟩⟩

theorem mul_def (a b : Turn) : a * b = ⟨a.x + b.x, a.y + b.y, a.z + b.z + a.x * b.y⟩ := rfl

theorem one_def : (1 : Turn) = ⟨0, 0, 0⟩ := rfl

theorem inv_def (a : Turn) : a⁻¹ = ⟨-a.x, -a.y, -a.z + a.x * a.y⟩ := rfl

instance : Group Turn :=
  Group.ofLeftAxioms
    (fun a b c => by simp only [mul_def, mk.injEq]; exact ⟨by ring, by ring, by ring⟩)
    (fun a => by simp only [mul_def, one_def, zero_add, zero_mul, add_zero])
    (fun a => by simp only [mul_def, inv_def, one_def, mk.injEq]; exact ⟨by ring, by ring, by ring⟩)

end Turn

/-- The logarithm of a turn is its coordinates. -/
def turnSpace : RigidSpace ℚ Turn where
  sqrt x := x
  exp3 v := ⟨v 0, v 1, v 2⟩
  log3 g := ![g.x, g.y, g.z]
  exp6 d := ⟨d.linear, ⟨d.angular 0, d.angular 1, d.angular 2⟩⟩
  rotate _ v := v
  bodyAngularDerivatives _ v a := (v, a)

theorem restOtg_translationEquivariant : restOtg.TranslationEquivariant :=
  fun _ _ => ⟨rfl, fun _ => ⟨rfl, rfl, fun _ => rfl⟩⟩

/-- A follower two milliseconds into a plan of sixteen waypoints. -/
def turnFollower : CartesianChunkFollower ℚ Turn (Axes ℚ × ℚ) :=
  run turnSpace restOtg (create (plainConfig true)) [.submitFrame (stillFrame 16) homePose, .tick (1 / 500)]

theorem absorbOffset_movedOutputs_turned :
    MovedOutputs turnSpace restOtg (seenAfter ⟨0, ⟨1, 0, 0⟩⟩ [.absorbOffset 0 ⟨0, 1, 0⟩, .tick (1 / 500)])
      (run turnSpace restOtg turnFollower [.absorbOffset 0 ⟨0, 1, 0⟩, .tick (1 / 500)])
      (run turnSpace restOtg (turnFollower.absorbOffset turnSpace restOtg 0 ⟨1, 0, 0⟩).1
        [.absorbOffset 0 ⟨0, 1, 0⟩, .tick (1 / 500)]) := by
  refine absorbOffset_movedOutputs turnSpace rfl restOtg restOtg_translationEquivariant turnFollower
    ⟨_, _, rfl⟩ ?_ ?_ ⟨0, ⟨1, 0, 0⟩⟩ _ ?_
  · decide +kernel
  · intro _
    decide +kernel
  · rw [← List.singleton_append, everyStep_append]
    refine ⟨?_, ?_⟩
    · rw [everyStep_singleton]
      exact ⟨rfl, fun _ => by decide +kernel⟩
    · rw [everyStep_singleton]
      exact ⟨rfl, trivial⟩

/-- The second turn comes between the first one and the plan. -/
theorem later_fold_turns_shift :
    (∀ v, turnSpace.log3 (turnSpace.exp3 v) = v) ∧ (∀ g, turnSpace.exp3 (turnSpace.log3 g) = g) ∧
      restOtg.TranslationEquivariant ∧ Reachable turnSpace restOtg turnFollower ∧ turnFollower.running ∧
      (run turnSpace restOtg (turnFollower.absorbOffset turnSpace restOtg 0 ⟨1, 0, 0⟩).1
          [.absorbOffset 0 ⟨0, 1, 0⟩, .tick (1 / 500)]).lastPose.rotation ≠
        ⟨1, 0, 0⟩ * (run turnSpace restOtg turnFollower
          [.absorbOffset 0 ⟨0, 1, 0⟩, .tick (1 / 500)]).lastPose.rotation := by
  refine ⟨?_, fun _ => rfl, restOtg_translationEquivariant, ⟨_, _, rfl⟩, ?_, ?_⟩
  · intro v
    ext i
    fin_cases i <;> rfl
  · decide +kernel
  · decide +kernel

end RbServo.CartesianChunkFollower
