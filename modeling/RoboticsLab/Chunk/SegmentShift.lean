import RoboticsLab.Chunk.Follower

/-!
# A segment moved in position

When the trajectory generator is translation-equivariant, a core whose chained position is moved by
`dp` behaves like the core it was, with every position moved by `dp`: the same solves, the same
durations, the same velocities.

    CoreShift otg dp c c' → (c'.solve otg (s.translate dp) m j).1 = (c.solve otg s m j).1 ∧
      CoreShift otg dp (c.solve otg s m j).2 (c'.solve otg (s.translate dp) m j).2  (CoreShift.solve)
-/

namespace RbServo

variable {K T : Type*} [Field K] [LinearOrder K]

/-! ## Moved data -/

/-- A position offset on the first three axes. -/
def liftPosition (dp : Vec3 K) : Axes K := axesOf dp 0

omit [LinearOrder K] in
theorem axesOf_add_lift (l a dp : Vec3 K) : axesOf (l + dp) a = axesOf l a + liftPosition dp := by
  funext d
  induction d using Fin.addCases with
  | left i =>
    show Fin.append (l + dp) a _ = Fin.append l a _ + Fin.append dp 0 _
    rw [Fin.append_left, Fin.append_left, Fin.append_left, Pi.add_apply]
  | right i =>
    show Fin.append (l + dp) a _ = Fin.append l a _ + Fin.append dp 0 _
    rw [Fin.append_right, Fin.append_right, Fin.append_right, Pi.zero_apply, add_zero]

omit [LinearOrder K] in
@[simp] theorem linear_add_lift (x : Axes K) (dp : Vec3 K) : (x + liftPosition dp).linear = x.linear + dp := by
  funext i
  show x _ + Fin.append dp 0 (Fin.castAdd 3 i) = x _ + dp i
  rw [Fin.append_left]

omit [LinearOrder K] in
@[simp] theorem angular_add_lift (x : Axes K) (dp : Vec3 K) : (x + liftPosition dp).angular = x.angular := by
  funext i
  show x _ + Fin.append dp 0 (Fin.natAdd 3 i) = x _
  rw [Fin.append_right, Pi.zero_apply, add_zero]

def AxesState.translate (dp : Vec3 K) (x : AxesState K) : AxesState K := { x with p := x.p + liftPosition dp }

def BoundarySample.translate (dp : Vec3 K) (s : BoundarySample K) : BoundarySample K :=
  { s with pf := s.pf + liftPosition dp }

def InputParameter.translate (dp : Vec3 K) (i : InputParameter K) : InputParameter K :=
  { i with
    currentPosition := i.currentPosition + liftPosition dp
    targetPosition := i.targetPosition + liftPosition dp }

/-! ## The generator -/

/-- Two trajectories that differ by a position offset. -/
structure TrajShift (otg : Otg K T) (dp : Vec3 K) (x y : T) : Prop where
  duration : otg.getDuration y = otg.getDuration x
  independent : otg.getIndependentMinDurations y = otg.getIndependentMinDurations x
  atTime : ∀ t, otg.atTime y t = (otg.atTime x t).translate dp

/-- A problem moved in position has the same answer, moved. -/
def Otg.TranslationEquivariant (otg : Otg K T) : Prop :=
  ∀ (i : InputParameter K) (dp : Vec3 K),
    (otg.calculate (i.translate dp)).1 = (otg.calculate i).1 ∧
      ((otg.calculate i).1 = .working →
        TrajShift otg dp (otg.calculate i).2 (otg.calculate (i.translate dp)).2)

/-! ## The core -/

/-- `c'` is `c` moved by `dp`: its chained position, and whatever it still samples. -/
structure CoreShift (otg : Otg K T) (dp : Vec3 K) (c c' : ChunkFollowerSegment K T) : Prop where
  limits : c'.limits = c.limits
  dt : c'.dt = c.dt
  guard : c'.guard = c.guard
  preserveCurrentState : c'.preserveCurrentState = c.preserveCurrentState
  p0 : c'.p0 = c.p0 + liftPosition dp
  v0 : c'.v0 = c.v0
  a0 : c'.a0 = c.a0
  haveState : c'.haveState = c.haveState
  sample : ∀ t, c'.sample otg t = (c.sample otg t).map (AxesState.translate dp)

namespace ChunkFollowerSegment

variable {otg : Otg K T} {dp : Vec3 K}

omit [LinearOrder K] in
theorem scaleJerk_translate (i : InputParameter K) (scale : K) :
    scaleJerk (i.translate dp) scale = (scaleJerk i scale).translate dp := rfl

theorem currentStateWithinLimits_translate (i : InputParameter K) :
    currentStateWithinLimits (i.translate dp) = currentStateWithinLimits i := rfl

/-- Two bisections side by side. -/
structure SearchShift (otg : Otg K T) (dp : Vec3 K) (x y : JerkSearch K T) : Prop where
  lo : y.lo = x.lo
  hi : y.hi = x.hi
  jerkScale : y.jerkScale = x.jerkScale
  calculations : y.calculations = x.calculations
  traj : TrajShift otg dp x.traj y.traj

theorem SearchShift.step (hotg : otg.TranslationEquivariant) {x y : JerkSearch K T}
    (h : SearchShift otg dp x y) (i : InputParameter K) (deadline : K) :
    SearchShift otg dp (jerkSearchStep otg i deadline x)
      (jerkSearchStep otg (i.translate dp) deadline y) := by
  obtain ⟨h1, h2, h3, h4, h5⟩ := h
  unfold jerkSearchStep
  simp only [h1, h2, scaleJerk_translate]
  generalize scaleJerk i (1 / 2 * (x.lo + x.hi)) = candidate
  obtain ⟨hres, htraj⟩ := hotg candidate dp
  have hgood : ((otg.calculate (candidate.translate dp)).1 = .working ∧
      otg.getDuration (otg.calculate (candidate.translate dp)).2 ≤ deadline) ↔
        ((otg.calculate candidate).1 = .working ∧ otg.getDuration (otg.calculate candidate).2 ≤ deadline) := by
    rw [hres]
    exact and_congr_right fun hw => by rw [(htraj hw).duration]
  simp only [currentStateWithinLimits_translate, hgood]
  split
  · split
    · next hw => exact ⟨rfl, rfl, rfl, congrArg (· + 1) h4, htraj hw.1⟩
    · exact ⟨rfl, rfl, h3, congrArg (· + 1) h4, h5⟩
  · exact ⟨rfl, rfl, h3, h4, h5⟩

theorem SearchShift.run (hotg : otg.TranslationEquivariant) (i : InputParameter K) (deadline : K) (n : ℕ)
    {x y : JerkSearch K T} (h : SearchShift otg dp x y) :
    SearchShift otg dp (jerkSearch otg i deadline n x) (jerkSearch otg (i.translate dp) deadline n y) := by
  induction n generalizing x y with
  | zero => exact h
  | succ n ih => exact ih (h.step hotg i deadline)

theorem chooseTrajectory_shift (hotg : otg.TranslationEquivariant) (i : InputParameter K) (dt : K) (m : Bool)
    {x y : T} (h : TrajShift otg dp x y) :
    SearchShift otg dp (chooseTrajectory otg i dt m x) (chooseTrajectory otg (i.translate dp) dt m y) := by
  have h0 : SearchShift otg dp (⟨0, 1, 1, 0, x⟩ : JerkSearch K T) ⟨0, 1, 1, 0, y⟩ := ⟨rfl, rfl, rfl, rfl, h⟩
  unfold chooseTrajectory
  simp only [h.duration, currentStateWithinLimits_translate]
  split
  · exact h0.run hotg i _ 6
  · exact h0

theorem buildInput_shift {c c' : ChunkFollowerSegment K T} (h : CoreShift otg dp c c') (s : BoundarySample K)
    (alpha : K) : c'.buildInput (s.translate dp) alpha =
      ((c.buildInput s alpha).1.translate dp, (c.buildInput s alpha).2) := by
  have ha : c'.targetAcceleration (s.translate dp) alpha = c.targetAcceleration s alpha := by
    unfold targetAcceleration
    rw [h.guard, h.limits]
    rfl
  have hv : c'.targetVelocity (s.translate dp) alpha = c.targetVelocity s alpha := by
    unfold targetVelocity
    rw [h.guard, h.limits, ha]
    rfl
  unfold buildInput
  rw [ha, hv, h.p0, h.v0, h.a0, h.limits, h.guard, h.preserveCurrentState, h.dt]
  rfl

end ChunkFollowerSegment

namespace CoreShift

open ChunkFollowerSegment

variable {otg : Otg K T} {dp : Vec3 K} {c c' : ChunkFollowerSegment K T}

/-- **One solve.** -/
theorem solve (hotg : otg.TranslationEquivariant) (h : CoreShift otg dp c c') (s : BoundarySample K)
    (chainMax : K) (m : Bool) :
    (c'.solve otg (s.translate dp) chainMax m).1 = (c.solve otg s chainMax m).1 ∧
      CoreShift otg dp (c.solve otg s chainMax m).2 (c'.solve otg (s.translate dp) chainMax m).2 := by
  obtain ⟨hres, htraj⟩ := hotg (c.buildInput s predictAlpha).1 dp
  unfold ChunkFollowerSegment.solve
  simp only [h.haveState, h.dt, buildInput_shift h, hres]
  split
  · split
    · next hw =>
      obtain ⟨-, -, hj, hc, ht⟩ := chooseTrajectory_shift hotg (c.buildInput s predictAlpha).1 c.dt m (htraj hw)
      simp only [ht.duration, ht.independent, ht.atTime, hj, hc]
      refine ⟨rfl, ?_⟩
      refine ⟨h.limits, rfl, h.guard, h.preserveCurrentState, rfl, rfl, rfl, rfl, ?_⟩
      intro t
      simp only [ChunkFollowerSegment.sample, Option.map_some, ht.atTime, AxesState.translate, add_zero]
    · exact ⟨rfl, h⟩
  · exact ⟨rfl, h⟩

theorem ringDown (hotg : otg.TranslationEquivariant) (h : CoreShift otg dp c c') :
    (CartesianChunkFollower.ringDown otg c').1 = (CartesianChunkFollower.ringDown otg c).1 ∧
      CoreShift otg dp (CartesianChunkFollower.ringDown otg c).2 (CartesianChunkFollower.ringDown otg c').2 := by
  unfold CartesianChunkFollower.ringDown
  rw [h.p0]
  exact h.solve hotg ⟨c.p0, 0, 0, 0, 0⟩ (-1) false

omit [LinearOrder K] in
theorem setDt (h : CoreShift otg dp c c') (dt : K) : CoreShift otg dp (c.setDt dt) (c'.setDt dt) :=
  ⟨h.limits, rfl, h.guard, h.preserveCurrentState, h.p0, h.v0, h.a0, h.haveState, h.sample⟩

omit [LinearOrder K] in
theorem discardTrajectory (h : CoreShift otg dp c c') :
    CoreShift otg dp c.discardTrajectory c'.discardTrajectory :=
  ⟨h.limits, h.dt, h.guard, h.preserveCurrentState, h.p0, h.v0, h.a0, h.haveState, fun _ => rfl⟩

omit [LinearOrder K] in
theorem seed (h : CoreShift otg dp c c') (p v a : Axes K) :
    CoreShift otg dp (c.seed p v a) (c'.seed (p + liftPosition dp) v a) :=
  ⟨h.limits, h.dt, h.guard, h.preserveCurrentState, rfl, rfl, rfl, rfl, h.sample⟩

omit [LinearOrder K] in
theorem sample_shiftPosition (hc : c.haveState) (e : Vec3 K) (t : K) :
    (c.shiftPosition (liftPosition e)).sample otg t = (c.sample otg t).map (AxesState.translate e) := by
  rw [ChunkFollowerSegment.shiftPosition, if_pos hc]
  simp only [ChunkFollowerSegment.sample, Option.map_map, Function.comp_def, AxesState.translate, add_assoc]

omit [LinearOrder K] in
/-- One core is moved. -/
theorem of_shiftPosition (hc : c.haveState) (dp : Vec3 K) :
    CoreShift otg dp c (c.shiftPosition (liftPosition dp)) := by
  have hs : ∀ t, (c.shiftPosition (liftPosition dp)).sample otg t = _ := sample_shiftPosition hc dp
  rw [ChunkFollowerSegment.shiftPosition, if_pos hc] at hs ⊢
  exact ⟨rfl, rfl, rfl, rfl, rfl, rfl, rfl, rfl, hs⟩

omit [LinearOrder K] in
/-- Both cores are moved once more. -/
theorem shiftPosition (h : CoreShift otg dp c c') (hc : c.haveState) (e : Vec3 K) :
    CoreShift otg dp (c.shiftPosition (liftPosition e)) (c'.shiftPosition (liftPosition e)) := by
  have hc' : c'.haveState := h.haveState.trans hc
  have hs : ∀ t, (c'.shiftPosition (liftPosition e)).sample otg t =
      ((c.shiftPosition (liftPosition e)).sample otg t).map (AxesState.translate dp) := by
    intro t
    rw [sample_shiftPosition hc, sample_shiftPosition hc', h.sample, Option.map_map, Option.map_map]
    congr 1
    funext x
    simp only [Function.comp_apply, AxesState.translate, add_right_comm]
  rw [ChunkFollowerSegment.shiftPosition, ChunkFollowerSegment.shiftPosition, if_pos hc, if_pos hc'] at hs ⊢
  refine ⟨h.limits, h.dt, h.guard, h.preserveCurrentState, ?_, h.v0, h.a0, h.haveState, hs⟩
  show c'.p0 + _ = _
  rw [h.p0]
  exact add_right_comm _ _ _

end CoreShift

end RbServo
