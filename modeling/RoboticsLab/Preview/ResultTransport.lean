import RoboticsLab.Preview.PlanOrigin
import Mathlib.Algebra.Group.PUnit
import Mathlib.Data.Fin.VecNotation
import Mathlib.Data.Rat.Floor
import Mathlib.Data.Rat.Sqrt

/-!
# The transport of a stored result

`transportPreviewExecutionResult` (`control/preview_execution_worker.cpp`) with every piece that it
writes: the initial state, the rows of two trajectories up to their counts, the forecast and the gauge.
It changes its argument in place, after all checks.  The executor's own model of the call moves whole
trajectories and answers with an option; the two agree on what can be sampled (`transport_refines`).

    transport to h after g  =  transport to h        revisions strictly increasing  (transport_transport)
-/

namespace RbServo

open Gauge

variable {K G : Type*} [Field K] [Group G]

/-! ## Samples in a moved frame -/

/-- A stamped state in a moved frame. -/
def shiftStamped (f : Fold (Vec3 K) G) (e : K × Kinematics K G) : K × Kinematics K G := (e.1, Kinematics.shift f e.2)

namespace PreviewMotionState

theorem shift_still (x : PreviewMotionState K G) : x.shift .still = x := by
  cases x
  simp [shift]

theorem shift_andThen (x : PreviewMotionState K G) (f e : Fold (Vec3 K) G) :
    (x.shift f).shift e = x.shift (f.andThen e) := by
  simp only [shift, Fold.andThen_move]

end PreviewMotionState

theorem cubicAt_add (p v a j d : Vec3 K) (s : K) : cubicAt (p + d) v a j s = cubicAt p v a j s + d := by
  simp only [cubicAt, add_right_comm _ d]

theorem PreviewPolynomialTrajectory.sample_shift [LinearOrder K] [FloorSemiring K] (sp : MotionSpace K G)
    (f : Fold (Vec3 K) G) (t : PreviewPolynomialTrajectory K G) (time : K) :
    (t.shift f).sample sp time = (t.sample sp time).map (PreviewMotionState.shift f) := by
  unfold PreviewPolynomialTrajectory.sample
  by_cases hc : t.valid ∧ 1 ≤ t.count ∧ t.count ≤ kMaxHorizonSteps ∧ 0 < t.stepSec ∧ 0 ≤ time ∧
      time ≤ t.count * t.stepSec
  · have hc' : (t.shift f).valid ∧ 1 ≤ (t.shift f).count ∧ (t.shift f).count ≤ kMaxHorizonSteps ∧
        0 < (t.shift f).stepSec ∧ 0 ≤ time ∧ time ≤ (t.shift f).count * (t.shift f).stepSec := hc
    rw [if_pos hc, if_pos hc']
    simp only [Option.map_some, shift, PreviewMotionState.shift, Fold.move, cubicAt_add, mul_assoc]
  · have hc' : ¬ ((t.shift f).valid ∧ 1 ≤ (t.shift f).count ∧ (t.shift f).count ≤ kMaxHorizonSteps ∧
        0 < (t.shift f).stepSec ∧ 0 ≤ time ∧ time ≤ (t.shift f).count * (t.shift f).stepSec) := hc
    rw [if_neg hc, if_neg hc', Option.map_none]

/-! ## Rows -/

namespace PreviewPolynomialTrajectory

/-- The loop over the rows `0, …, count`, and the rotation. -/
def shiftRows (f : Fold (Vec3 K) G) (t : PreviewPolynomialTrajectory K G) : PreviewPolynomialTrajectory K G :=
  { t with
    p := fun i => if i ≤ t.count then ⟨(t.p i).linear + f.dp, (t.p i).angular⟩ else t.p i
    rotation0 := f.dR * t.rotation0 }

theorem shiftRows_still (t : PreviewPolynomialTrajectory K G) : t.shiftRows .still = t := by
  cases t
  simp [shiftRows, Fold.still]

theorem shiftRows_andThen (t : PreviewPolynomialTrajectory K G) (f e : Fold (Vec3 K) G) :
    (t.shiftRows f).shiftRows e = t.shiftRows (f.andThen e) := by
  have hp : ((t.shiftRows f).shiftRows e).p = (t.shiftRows (f.andThen e)).p := by
    funext i
    by_cases hi : i ≤ t.count
    · simp [shiftRows, hi, Fold.andThen, add_assoc]
    · simp [shiftRows, hi]
  have hr : e.dR * (f.dR * t.rotation0) = e.dR * f.dR * t.rotation0 := (mul_assoc _ _ _).symm
  simp only [shiftRows, PreviewPolynomialTrajectory.mk.injEq, true_and, and_true] at hp ⊢
  exact ⟨hp, hr⟩

/-- A sample reads rows below the count only. -/
theorem sample_shiftRows [LinearOrder K] [FloorSemiring K] (sp : MotionSpace K G) (f : Fold (Vec3 K) G)
    (t : PreviewPolynomialTrajectory K G) (time : K) : (t.shiftRows f).sample sp time = (t.shift f).sample sp time := by
  have hrow : min ⌊time / t.stepSec⌋₊ (t.count - 1) ≤ t.count := (min_le_right _ _).trans t.count.pred_le
  simp only [sample, shiftRows, shift, if_pos hrow]
  rfl

end PreviewPolynomialTrajectory

/-! ## The call -/

/-- A result with the fields that the executor's model leaves out. -/
@[ext]
structure StoredResult (K G : Type*) extends PreviewExecutionResult K G where
  /-- `none` for a brake or a cold splice. -/
  splicedPredecessorTimeSec : Option K
  initial : PreviewMotionState K G

namespace StoredResult

/-! The writes, in the order of the source. -/

def shiftInitial (f : Fold (Vec3 K) G) (r : StoredResult K G) : StoredResult K G :=
  { r with initial := r.initial.shift f }

def shiftTrajectory (f : Fold (Vec3 K) G) (r : StoredResult K G) : StoredResult K G :=
  { r with trajectory := r.trajectory.shiftRows f }

def shiftNominalTrajectory (f : Fold (Vec3 K) G) (r : StoredResult K G) : StoredResult K G :=
  { r with
    nominalTrajectory :=
      if r.nominalTrajectory.valid then r.nominalTrajectory.shiftRows f else r.nominalTrajectory }

def shiftPhaseReference (f : Fold (Vec3 K) G) (r : StoredResult K G) : StoredResult K G :=
  { r with phaseReference := r.phaseReference.map (shiftStamped f) }

def stamp (current : PreviewExecutionGauge K G) (r : StoredResult K G) : StoredResult K G :=
  { r with gauge := current }

def moveTo (r : StoredResult K G) (current : PreviewExecutionGauge K G) : StoredResult K G :=
  let f := r.gauge.change current
  ((((r.shiftInitial f).shiftTrajectory f).shiftNominalTrajectory f).shiftPhaseReference f).stamp current

/-- The checks before the gauges are compared. -/
def Transportable [LinearOrder K] (tolerance : K) (r : StoredResult K G) : Prop :=
  0 < tolerance ∧ r.accepted ∧ r.trajectory.valid ∧ r.trajectory.count ≠ 0 ∧
    r.trajectory.count ≤ kMaxHorizonSteps

instance [LinearOrder K] (tolerance : K) (r : StoredResult K G) : Decidable (r.Transportable tolerance) :=
  inferInstanceAs (Decidable (_ ∧ _))

/-- The flag that the call returns, and its argument afterwards. -/
def transportPreviewExecutionResult [LinearOrder K] [DecidableEq G] (sp : MotionSpace K G) (r : StoredResult K G)
    (current : PreviewExecutionGauge K G) (tolerance : K) : Bool × StoredResult K G :=
  if ¬ r.Transportable tolerance ∨ current.revision < r.gauge.revision then (false, r)
  else if r.gauge.revision = current.revision ∧ r.gauge.translation = current.translation ∧
      r.gauge.rotation = current.rotation then (true, r)
  else if r.gauge.revision = current.revision ∧ (tolerance < sp.norm (r.gauge.change current).dp ∨
      tolerance < sp.norm (sp.log3 (r.gauge.change current).dR)) then (false, r)
  else if kPhaseCapacity < r.phaseReference.length then (false, r)
  else (true, r.moveTo current)

/-! ## Composition of the writes -/

theorem moveTo_self (r : StoredResult K G) : r.moveTo r.gauge = r := by
  have hp : r.phaseReference.map (shiftStamped Fold.still) = r.phaseReference := by
    have hid : (shiftStamped Fold.still : K × Kinematics K G → _) = id := by
      funext e
      rw [shiftStamped, Kinematics.shift_still]
      rfl
    rw [hid, List.map_id]
  simp only [moveTo, PreviewExecutionGauge.change_self, shiftInitial, shiftTrajectory, shiftNominalTrajectory,
    shiftPhaseReference, stamp, PreviewPolynomialTrajectory.shiftRows_still, PreviewMotionState.shift_still,
    ite_self, hp]

theorem moveTo_gauge (r : StoredResult K G) (g : PreviewExecutionGauge K G) : (r.moveTo g).gauge = g := rfl

/-- By way of another gauge. -/
theorem moveTo_moveTo (r : StoredResult K G) (g h : PreviewExecutionGauge K G) :
    (r.moveTo g).moveTo h = r.moveTo h := by
  have hf : (r.gauge.change g).andThen (g.change h) = r.gauge.change h := r.gauge.change_andThen g h
  have hv : ∀ f, (r.nominalTrajectory.shiftRows f).valid = r.nominalTrajectory.valid := fun _ => rfl
  have hs : ∀ e : K × Kinematics K G, shiftStamped (g.change h) (shiftStamped (r.gauge.change g) e) =
      shiftStamped (r.gauge.change h) e := fun e => by
    rw [shiftStamped, shiftStamped, Kinematics.shift_andThen, hf]
    rfl
  cases hn : r.nominalTrajectory.valid <;>
    simp [moveTo, shiftInitial, shiftTrajectory, shiftNominalTrajectory, shiftPhaseReference, stamp, hn, hv, hf,
      hs, PreviewPolynomialTrajectory.shiftRows_andThen, PreviewMotionState.shift_andThen]

end StoredResult

/-! ## When the call moves a result -/

variable [LinearOrder K] [DecidableEq G]

/-- The drift between two gauges is within the tolerance. -/
def PreviewExecutionGauge.Near (sp : MotionSpace K G) (tolerance : K) (g h : PreviewExecutionGauge K G) : Prop :=
  sp.norm (g.change h).dp ≤ tolerance ∧ sp.norm (sp.log3 (g.change h).dR) ≤ tolerance

namespace StoredResult

variable (sp : MotionSpace K G) (r : StoredResult K G) (g h : PreviewExecutionGauge K G) (tolerance : K)

/-- The target is not older; it is the gauge of the result, or a later one, or a small drift of the
same revision. -/
def Goes : Prop :=
  r.Transportable tolerance ∧ r.gauge.revision ≤ g.revision ∧
    (r.gauge = g ∨ (r.gauge.revision < g.revision ∨ r.gauge.Near sp tolerance g) ∧
      r.phaseReference.length ≤ kPhaseCapacity)

variable {sp r g h tolerance}

theorem transport_of_goes (hg : r.Goes sp g tolerance) :
    transportPreviewExecutionResult sp r g tolerance = (true, r.moveTo g) := by
  obtain ⟨ht, hrev, hcase⟩ := hg
  have h1 : ¬ (¬ r.Transportable tolerance ∨ g.revision < r.gauge.revision) := by
    rintro (hn | hlt)
    · exact hn ht
    · exact absurd hrev (Nat.not_le.mpr hlt)
  unfold transportPreviewExecutionResult
  rw [if_neg h1]
  split
  · next heq =>
    obtain ⟨ha, hb, hc⟩ := heq
    have hgauge : r.gauge = g := by
      cases hr : r.gauge
      cases g
      simp_all
    rw [← hgauge, moveTo_self]
  · next hne =>
    obtain rfl | ⟨hfar, hlen⟩ := hcase
    · exact absurd ⟨rfl, rfl, rfl⟩ hne
    · have h3 : ¬ (r.gauge.revision = g.revision ∧ (tolerance < sp.norm (r.gauge.change g).dp ∨
          tolerance < sp.norm (sp.log3 (r.gauge.change g).dR))) := by
        rintro ⟨heq, hdrift⟩
        obtain hlt | ⟨hp, hR⟩ := hfar
        · exact absurd heq hlt.ne
        · rcases hdrift with hd | hd
          · exact absurd hp (not_le.mpr hd)
          · exact absurd hR (not_le.mpr hd)
      rw [if_neg h3, if_neg (Nat.not_lt.mpr hlen)]

theorem transport_of_not_goes (hg : ¬ r.Goes sp g tolerance) :
    transportPreviewExecutionResult sp r g tolerance = (false, r) := by
  unfold transportPreviewExecutionResult
  split
  · rfl
  · next h1 =>
    push Not at h1
    split
    · next heq =>
      refine absurd ⟨h1.1, h1.2, Or.inl ?_⟩ hg
      obtain ⟨ha, hb, hc⟩ := heq
      cases hr : r.gauge
      cases g
      simp_all
    · split
      · rfl
      · next h3 =>
        split
        · rfl
        · next hlen =>
          refine absurd ⟨h1.1, h1.2, Or.inr ⟨?_, Nat.not_lt.mp hlen⟩⟩ hg
          rcases Nat.lt_or_eq_of_le h1.2 with hlt | heq
          · exact Or.inl hlt
          · exact Or.inr ⟨not_lt.mp fun hd => h3 ⟨heq, Or.inl hd⟩, not_lt.mp fun hd => h3 ⟨heq, Or.inr hd⟩⟩

theorem transport_flag : (transportPreviewExecutionResult sp r g tolerance).1 = true ↔ r.Goes sp g tolerance := by
  by_cases hg : r.Goes sp g tolerance
  · simp [transport_of_goes hg, hg]
  · simp [transport_of_not_goes hg, hg]

/-! ## Results that wait through several folds -/

omit [LinearOrder K] [DecidableEq G] in
theorem moveTo_phaseReference (r : StoredResult K G) (g : PreviewExecutionGauge K G) :
    (r.moveTo g).phaseReference = r.phaseReference.map (shiftStamped (r.gauge.change g)) := rfl

omit [DecidableEq G] in
/-- What a moved result asks of the next gauge. -/
theorem goes_moveTo : (r.moveTo g).Goes sp h tolerance ↔
    r.Transportable tolerance ∧ g.revision ≤ h.revision ∧
      (g = h ∨ (g.revision < h.revision ∨ g.Near sp tolerance h) ∧ r.phaseReference.length ≤ kPhaseCapacity) := by
  have ht : (r.moveTo g).Transportable tolerance ↔ r.Transportable tolerance := Iff.rfl
  rw [Goes, ht, moveTo_gauge, moveTo_phaseReference, List.length_map]

/-- **By way of another gauge.**  With revisions that increase the detour is not seen, neither in the
flag nor in the result. -/
theorem transport_transport (h1 : r.gauge.revision < g.revision) (h2 : g.revision < h.revision) :
    transportPreviewExecutionResult sp (transportPreviewExecutionResult sp r g tolerance).2 h tolerance =
      transportPreviewExecutionResult sp r h tolerance := by
  by_cases hg : r.Goes sp g tolerance
  · rw [transport_of_goes hg]
    obtain ⟨ht, -, hcase⟩ := hg
    have hlen : r.phaseReference.length ≤ kPhaseCapacity := by
      obtain rfl | ⟨-, hlen⟩ := hcase
      · exact absurd h1 (lt_irrefl _)
      · exact hlen
    have hnext : (r.moveTo g).Goes sp h tolerance :=
      goes_moveTo.mpr ⟨ht, h2.le, Or.inr ⟨Or.inl h2, hlen⟩⟩
    have hdirect : r.Goes sp h tolerance := ⟨ht, (h1.trans h2).le, Or.inr ⟨Or.inl (h1.trans h2), hlen⟩⟩
    rw [transport_of_goes hnext, transport_of_goes hdirect, moveTo_moveTo]
  · rw [transport_of_not_goes hg]

omit [DecidableEq G] in
/-- **Two steps that were taken.**  The direct transport gives their result or refuses, the latter
exactly when the revision is the same and the two drifts together exceed the tolerance. -/
theorem transport_of_steps (h1 : r.Goes sp g tolerance) (h2 : (r.moveTo g).Goes sp h tolerance) :
    (r.Goes sp h tolerance ↔
      r.gauge = h ∨ r.gauge.revision < h.revision ∨ r.gauge.Near sp tolerance h) := by
  obtain ⟨ht, hrev, hcase⟩ := h1
  obtain ⟨-, hrev', hcase'⟩ := goes_moveTo.mp h2
  have hlen : r.gauge ≠ h → r.phaseReference.length ≤ kPhaseCapacity := by
    intro hne
    obtain rfl | ⟨-, hlen⟩ := hcase
    · obtain rfl | ⟨-, hlen⟩ := hcase'
      · exact absurd rfl hne
      · exact hlen
    · exact hlen
  constructor
  · rintro ⟨-, -, rfl | ⟨hfar, -⟩⟩
    · exact Or.inl rfl
    · exact Or.inr hfar
  · intro hcond
    by_cases he : r.gauge = h
    · exact ⟨ht, hrev.trans hrev', Or.inl he⟩
    · obtain heq | hfar := hcond
      · exact absurd heq he
      · exact ⟨ht, hrev.trans hrev', Or.inr ⟨hfar, hlen he⟩⟩

/-! ## What moves -/

variable [FloorSemiring K]

/-- The second result is the first in the gauge `g`: sample by sample, with everything else as it was. -/
structure Moved (sp : MotionSpace K G) (r r' : StoredResult K G) (g : PreviewExecutionGauge K G) : Prop where
  identity : r'.identity = r.identity
  times : r'.generatedAtSec = r.generatedAtSec ∧ r'.spliceAtSec = r.spliceAtSec ∧
    r'.validUntilSec = r.validUntilSec ∧ r'.completedAtSec = r.completedAtSec ∧
    r'.splicedPredecessorTimeSec = r.splicedPredecessorTimeSec
  status : r'.status = r.status
  contactAuthority : r'.contactAuthority = r.contactAuthority
  gauge : r'.gauge = g
  initial : r'.initial = r.initial.shift (r.gauge.change g)
  trajectory : r'.trajectory = r.trajectory.shiftRows (r.gauge.change g)
  samples : ∀ time, r'.trajectory.sample sp time =
    (r.trajectory.sample sp time).map (PreviewMotionState.shift (r.gauge.change g))
  nominalTrajectory : r.nominalTrajectory.valid = true →
    r'.nominalTrajectory = r.nominalTrajectory.shiftRows (r.gauge.change g)
  nominalSamples : ∀ time, r'.nominalTrajectory.sample sp time =
    (r.nominalTrajectory.sample sp time).map (PreviewMotionState.shift (r.gauge.change g))
  phaseReference : r'.phaseReference = r.phaseReference.map (shiftStamped (r.gauge.change g))

variable (sp) in
omit [DecidableEq G] in
theorem moved_moveTo (r : StoredResult K G) (g : PreviewExecutionGauge K G) : Moved sp r (r.moveTo g) g := by
  have hs : ∀ (t : PreviewPolynomialTrajectory K G) (f : Fold (Vec3 K) G) time,
      (t.shiftRows f).sample sp time = (t.sample sp time).map (PreviewMotionState.shift f) :=
    fun t f time => (t.sample_shiftRows sp f time).trans (t.sample_shift sp f time)
  refine ⟨rfl, ⟨rfl, rfl, rfl, rfl, rfl⟩, rfl, rfl, rfl, rfl, rfl, hs r.trajectory _, fun hv => if_pos hv, ?_, rfl⟩
  intro time
  have hn : (r.moveTo g).nominalTrajectory = if r.nominalTrajectory.valid then
      r.nominalTrajectory.shiftRows (r.gauge.change g) else r.nominalTrajectory := rfl
  rw [hn]
  split
  · exact hs r.nominalTrajectory _ time
  · next hv =>
    -- a plan that is not valid has no samples
    have hnone : r.nominalTrajectory.sample sp time = none := by
      unfold PreviewPolynomialTrajectory.sample
      rw [if_neg fun hc => hv hc.1]
    rw [hnone, Option.map_none]

/-- The executor's model of the call gives a result with the same samples, whenever this one is true. -/
theorem transport_refines (r : StoredResult K G) (g : PreviewExecutionGauge K G) (tolerance : K) :
    (r.Goes sp g tolerance ↔
      (RbServo.transportPreviewExecutionResult sp r.toPreviewExecutionResult g tolerance).isSome) ∧
    ∀ r', RbServo.transportPreviewExecutionResult sp r.toPreviewExecutionResult g tolerance = some r' →
      r'.identity = r.identity ∧ r'.gauge = g ∧ r'.phaseReference = (r.moveTo g).phaseReference ∧
      (∀ time, r'.trajectory.sample sp time = (r.moveTo g).trajectory.sample sp time) ∧
      ∀ time, r'.nominalTrajectory.sample sp time = (r.moveTo g).nominalTrajectory.sample sp time := by
  refine ⟨?_, fun r' hr => ?_⟩
  · have hguard : (tolerance ≤ 0 ∨ ¬ r.accepted ∨ ¬ r.trajectory.valid ∨ r.trajectory.count = 0 ∨
        kMaxHorizonSteps < r.trajectory.count ∨ g.revision < r.gauge.revision) ↔
        (¬ r.Transportable tolerance ∨ g.revision < r.gauge.revision) := by
      rw [Transportable, not_and_or, not_and_or, not_and_or, not_and_or, not_lt, not_not, not_le, or_assoc,
        or_assoc, or_assoc, or_assoc]
    rw [← transport_flag, RbServo.transportPreviewExecutionResult, transportPreviewExecutionResult]
    by_cases h1 : ¬ r.Transportable tolerance ∨ g.revision < r.gauge.revision
    · rw [if_pos h1, if_pos (hguard.mpr h1)]
      simp
    · rw [if_neg h1, if_neg fun h => h1 (hguard.mp h)]
      split
      · simp
      · split
        · next h3 =>
          rw [if_pos (Or.inl h3)]
          simp
        · next h3 =>
          by_cases h4 : kPhaseCapacity < r.phaseReference.length
          · rw [if_pos h4, if_pos (Or.inr h4)]
            simp
          · rw [if_neg h4, if_neg fun h => h.elim h3 h4]
            simp
  · have hm : r' = r.toPreviewExecutionResult.moveTo g := (LivePreviewExecution.transported hr).eq_moveTo
    subst hm
    have hmoved := moved_moveTo sp r g
    refine ⟨rfl, rfl, rfl, fun time => ?_, fun time => ?_⟩
    · exact (r.trajectory.sample_shift sp _ time).trans (hmoved.samples time).symm
    · have hn : (r.moveTo g).nominalTrajectory = if r.nominalTrajectory.valid then
          r.nominalTrajectory.shiftRows (r.gauge.change g) else r.nominalTrajectory := rfl
      have ho : (r.toPreviewExecutionResult.moveTo g).nominalTrajectory = if r.nominalTrajectory.valid then
          r.nominalTrajectory.shift (r.gauge.change g) else r.nominalTrajectory := rfl
      rw [hn, ho]
      split
      · exact (r.nominalTrajectory.sample_shiftRows sp _ time).symm
      · rfl

/-- **Transport.**  A call that refuses leaves the result as it was; one that returns true has moved
every piece by the change of gauge, a nominal plan where it is valid.  Going by way of another gauge
gives the same where revisions increase; and where both steps are taken, unless the direct call refuses,
which is exactly when all revisions agree and the drifts together exceed the tolerance. -/
theorem transport_atomic (r : StoredResult K G) (g h : PreviewExecutionGauge K G) (tolerance : K) :
    let call := transportPreviewExecutionResult sp r g tolerance
    let next := transportPreviewExecutionResult sp call.2 h tolerance
    let direct := transportPreviewExecutionResult sp r h tolerance
    (call.1 = false → call.2 = r) ∧ (call.1 = true → Moved sp r call.2 g) ∧
      (r.gauge.revision < g.revision → g.revision < h.revision → next = direct) ∧
      (call.1 = true → next.1 = true →
        (direct.1 = true ↔ r.gauge = h ∨ r.gauge.revision < h.revision ∨ r.gauge.Near sp tolerance h) ∧
        (direct.1 = true → next.2 = direct.2)) := by
  intro call next direct
  refine ⟨fun hf => ?_, fun ht => ?_, transport_transport, fun h1 h2 => ?_⟩
  · by_cases hg : r.Goes sp g tolerance
    · simp [call, transport_of_goes hg] at hf
    · exact congrArg Prod.snd (transport_of_not_goes hg)
  · have hcall : call = (true, r.moveTo g) := transport_of_goes (transport_flag.mp ht)
    rw [hcall]
    exact moved_moveTo sp r g
  · have hcall : call = (true, r.moveTo g) := transport_of_goes (transport_flag.mp h1)
    have hgoes : (r.moveTo g).Goes sp h tolerance := by
      have hflag := transport_flag.mp h2
      rwa [hcall] at hflag
    have hnext : next = (true, (r.moveTo g).moveTo h) := by
      simp only [next, hcall]
      exact transport_of_goes hgoes
    refine ⟨transport_flag.trans (transport_of_steps (transport_flag.mp h1) hgoes), fun h3 => ?_⟩
    have hdirect : direct = (true, r.moveTo h) := transport_of_goes (transport_flag.mp h3)
    rw [hnext, hdirect, moveTo_moveTo]

/-! ## Two drifts of one revision -/

theorem drift_slerp (g a _b : Unit) (_u : ℚ) : g * a = g * a := rfl

/-- The frame of points on a line. -/
def driftMotion : MotionSpace ℚ Unit where
  sqrt := Rat.sqrt
  exp3 _ := 1
  log3 _ := 0
  rotate := 1
  slerp a _ _ := a
  slerp_mul := drift_slerp
  angularKinematics _ v a := (v, a)

def driftGauge (x : ℚ) : PreviewExecutionGauge ℚ Unit := ⟨0, ![x, 0, 0], 1⟩

/-- A plan that stays at the origin. -/
def restingPlan (valid : Bool) : PreviewPolynomialTrajectory ℚ Unit :=
  ⟨fun _ => ⟨0, 0⟩, fun _ => ⟨0, 0⟩, fun _ => ⟨0, 0⟩, fun _ => ⟨0, 0⟩, 1, 1 / 100, 1, valid⟩

def restingResult : StoredResult ℚ Unit where
  identity := ⟨1, 1, 1, 1, 1, 1⟩
  gauge := driftGauge 0
  generatedAtSec := 1
  spliceAtSec := 51 / 50
  validUntilSec := 6 / 5
  completedAtSec := 101 / 100
  status := .solved
  trajectory := restingPlan true
  nominalTrajectory := restingPlan false
  contactAuthority := ⟨false, 0⟩
  phaseReference := []
  splicedPredecessorTimeSec := none
  initial := .atRest ⟨0, 1⟩

theorem driftMotion_norm (x y : ℚ) :
    driftMotion.norm ((driftGauge x).change (driftGauge y)).dp = |y - x| := by
  have hdot : dot ((driftGauge x).change (driftGauge y)).dp ((driftGauge x).change (driftGauge y)).dp =
      (y - x) * (y - x) := by
    simp [dot, driftGauge, PreviewExecutionGauge.change]
  rw [MotionSpace.norm, hdot]
  exact Rat.sqrt_eq (y - x)

theorem driftGauge_near {x y tolerance : ℚ} (h0 : 0 ≤ tolerance) :
    (driftGauge x).Near driftMotion tolerance (driftGauge y) ↔ |y - x| ≤ tolerance := by
  have hlog : driftMotion.norm (driftMotion.log3 ((driftGauge x).change (driftGauge y)).dR) = 0 := by
    have hdot : dot (0 : Vec3 ℚ) 0 = 0 * 0 := by simp [dot]
    have hzero : Rat.sqrt (0 * 0) = |0| := Rat.sqrt_eq 0
    rw [MotionSpace.norm]
    exact (congrArg Rat.sqrt hdot).trans (hzero.trans abs_zero)
  rw [PreviewExecutionGauge.Near, driftMotion_norm, hlog]
  exact and_iff_left h0

/-- The two steps move the result where the direct transport refuses; a nominal plan that is not valid
stays. -/
theorem drifts_add_up :
    let tolerance : ℚ := 1 / 10 ^ 7
    let first := transportPreviewExecutionResult driftMotion restingResult (driftGauge (3 / 4 / 10 ^ 7)) tolerance
    let second := transportPreviewExecutionResult driftMotion first.2 (driftGauge (3 / 2 / 10 ^ 7)) tolerance
    let direct := transportPreviewExecutionResult driftMotion restingResult (driftGauge (3 / 2 / 10 ^ 7)) tolerance
    first.1 = true ∧ second.1 = true ∧ direct.1 = false ∧
      second.2.initial.pose.position ≠ direct.2.initial.pose.position ∧
      (first.2.nominalTrajectory.p 0).linear = 0 ∧ (first.2.trajectory.p 0).linear = ![3 / 4 / 10 ^ 7, 0, 0] := by
  intro tolerance first second direct
  have hready : restingResult.Transportable tolerance := by
    refine ⟨?_, rfl, rfl, one_ne_zero, by decide⟩
    simp [tolerance]
  have h1 : restingResult.Goes driftMotion (driftGauge (3 / 4 / 10 ^ 7)) tolerance := by
    refine ⟨hready, le_rfl, Or.inr ⟨Or.inr ((driftGauge_near hready.1.le).mpr ?_), Nat.zero_le _⟩⟩
    norm_num [tolerance, abs_of_pos]
  have hfirst : first = (true, restingResult.moveTo (driftGauge (3 / 4 / 10 ^ 7))) := transport_of_goes h1
  have h2 : (restingResult.moveTo (driftGauge (3 / 4 / 10 ^ 7))).Goes driftMotion (driftGauge (3 / 2 / 10 ^ 7))
      tolerance := by
    refine goes_moveTo.mpr ⟨hready, le_rfl, Or.inr ⟨Or.inr ((driftGauge_near hready.1.le).mpr ?_), Nat.zero_le _⟩⟩
    norm_num [tolerance, abs_of_pos]
  have hsecond : second = (true, restingResult.moveTo (driftGauge (3 / 2 / 10 ^ 7))) := by
    have h := transport_of_goes h2
    rw [moveTo_moveTo] at h
    simp only [second, hfirst]
    exact h
  have h3 : ¬ restingResult.Goes driftMotion (driftGauge (3 / 2 / 10 ^ 7)) tolerance := by
    rintro ⟨-, -, heq | ⟨hlt | hnear, -⟩⟩
    · have hx := congrFun (congrArg PreviewExecutionGauge.translation heq) 0
      norm_num [restingResult, driftGauge] at hx
    · exact absurd hlt (lt_irrefl 0)
    · have hd := (driftGauge_near hready.1.le).mp hnear
      norm_num [tolerance, abs_of_pos] at hd
  have hdirect : direct = (false, restingResult) := transport_of_not_goes h3
  rw [hfirst, hsecond, hdirect]
  refine ⟨rfl, rfl, rfl, fun heq => ?_, rfl, ?_⟩
  · have hx := congrFun heq 0
    norm_num [moveTo, shiftInitial, shiftTrajectory, shiftNominalTrajectory, shiftPhaseReference, stamp,
      PreviewMotionState.shift, PreviewMotionState.atRest, restingResult, driftGauge,
      PreviewExecutionGauge.change] at hx
  · decide +kernel

end StoredResult

end RbServo
