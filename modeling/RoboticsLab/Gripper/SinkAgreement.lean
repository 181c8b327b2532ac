import RoboticsLab.Gripper.GripperSinks
import Mathlib.Data.Int.Log
import Mathlib.Data.List.Induction
import Mathlib.Data.Rat.Floor

/-!
# Both gripper sinks get the same decision

In the target modes the serial backend gets, for each arm it drives, the target that went into the motion packet of the
same step, as the action row stores it:

    integrated : the latch holds the target that was returned
    Window     : while the hold-open window lasts, the latch is empty or at the hold-open value
    Stored     : each command is the stored target

A row of a narrower dtype rounds what is stored in it, so the two sinks agree in a step if and only if the values that
go out are representable there (`sinks_agree`).  A preset of 50.1 is not, in a `float32` row (`open_preset_rounded`).
-/

namespace PolicyRunner.Gripper

/-! ## The deadband -/

namespace GripperState

variable {cfg : SinkConfig} {s : GripperState}

theorem holdGripperWithinDeadband_eq (cfg : SinkConfig) (s : GripperState) (arm : Arm) (value : Double) :
    s.holdGripperWithinDeadband cfg arm value =
      (cfg.sentFor (s.gripperLastSentByArm arm) value,
        { s with
          gripperLastSentByArm := Function.update s.gripperLastSentByArm arm
            (some (cfg.sentFor (s.gripperLastSentByArm arm) value)) }) := by
  unfold holdGripperWithinDeadband SinkConfig.sentFor
  cases hlast : s.gripperLastSentByArm arm with
  | none => rfl
  | some last =>
    dsimp only
    split
    · rw [← hlast, Function.update_eq_self]
    · rfl

/-! ## The targets -/

/-- The arms whose targets are integrated. -/
def Active (cfg : SinkConfig) (x : ExecutedStep) (arm : Arm) : Prop :=
  ∃ mask, cfg.armMask[maskIndex arm]? = some mask ∧ Double.le mask (.fin 0) = false ∧ x.armAllowed arm = true

/-- What the loop over the arms decides for one of them. -/
structure Integrated (cfg : SinkConfig) (x : ExecutedStep) (s : GripperState) (arm : Arm)
    (target : Option Double) (s' : GripperState) : Prop where
  active : Active cfg x arm →
    target = some (cfg.sentFor (s.gripperLastSentByArm arm) (s.integrated cfg x arm)) ∧
      s'.gripperLastSentByArm arm = target
  idle : ¬ Active cfg x arm → target = none ∧ s'.gripperLastSentByArm arm = s.gripperLastSentByArm arm

/-- What a pass for one arm leaves alone. -/
structure SameArm (s s' : GripperState) (arm : Arm) : Prop where
  targets : s'.gripperTargetsByArm arm = s.gripperTargetsByArm arm
  lastSent : s'.gripperLastSentByArm arm = s.gripperLastSentByArm arm
  hold : s'.gripperHoldOpenNow = s.gripperHoldOpenNow
  count : s'.gripperIntegrateCount = s.gripperIntegrateCount

theorem integrateArm_integrated (cfg : SinkConfig) (x : ExecutedStep) (s : GripperState) (arm : Arm) :
    Integrated cfg x s arm (s.integrateArm cfg x arm).1 (s.integrateArm cfg x arm).2 ∧
      ∀ other, other ≠ arm → SameArm s (s.integrateArm cfg x arm).2 other := by
  unfold integrateArm
  cases hmask : cfg.armMask[maskIndex arm]? with
  | none =>
    refine ⟨⟨?_, fun _ => ⟨rfl, rfl⟩⟩, fun _ _ => ⟨rfl, rfl, rfl, rfl⟩⟩
    rintro ⟨mask, hm, -, -⟩
    rw [hmask] at hm
    cases hm
  | some mask =>
    dsimp only
    by_cases hidle : (Double.le mask (.fin 0) || !x.armAllowed arm) = true
    · rw [if_pos hidle]
      refine ⟨⟨?_, fun _ => ⟨rfl, rfl⟩⟩, fun _ _ => ⟨rfl, rfl, rfl, rfl⟩⟩
      rintro ⟨mask', hm, hpos, hallowed⟩
      rw [hmask] at hm
      obtain rfl : mask = mask' := Option.some.inj hm
      simp [hpos, hallowed] at hidle
    · rw [if_neg hidle, holdGripperWithinDeadband_eq]
      dsimp only
      refine ⟨⟨fun _ => ⟨rfl, Function.update_self ..⟩, ?_⟩, ?_⟩
      · intro hno
        refine absurd ⟨mask, hmask, ?_⟩ hno
        simpa using hidle
      · intro other hother
        exact ⟨Function.update_of_ne hother _ _, Function.update_of_ne hother _ _, rfl, rfl⟩

theorem SameArm.integrated {s' : GripperState} {arm : Arm} (h : SameArm s s' arm) (cfg : SinkConfig)
    (x : ExecutedStep) : s'.integrated cfg x arm = s.integrated cfg x arm := by
  unfold GripperState.integrated
  rw [h.targets, h.hold]

/-- What `_integrate_gripper_targets` decides for each arm, and the counters it leaves. -/
theorem integrateGripperTargets_integrated (cfg : SinkConfig) (s : GripperState) {x : ExecutedStep}
    (hallow : x.allowTargets = true) :
    (∀ arm, Integrated cfg x (s.beginStep cfg) arm ((s.integrateGripperTargets cfg x).1 arm)
        (s.integrateGripperTargets cfg x).2) ∧
      (s.integrateGripperTargets cfg x).2.gripperHoldOpenNow = (s.beginStep cfg).gripperHoldOpenNow ∧
      (s.integrateGripperTargets cfg x).2.gripperIntegrateCount = s.gripperIntegrateCount + 1 := by
  obtain ⟨hleft, hleftSame⟩ := integrateArm_integrated cfg x (s.beginStep cfg) .left
  obtain ⟨hright, hrightSame⟩ := integrateArm_integrated cfg x ((s.beginStep cfg).integrateArm cfg x .left).2 .right
  have hother := hleftSame .right (by decide)
  have hback := hrightSame .left (by decide)
  unfold integrateGripperTargets
  simp only [hallow, Bool.not_true, Bool.false_eq_true, if_false]
  refine ⟨?_, hback.hold.trans hother.hold, hback.count.trans hother.count⟩
  intro arm
  cases arm with
  | left =>
    refine ⟨fun h => ?_, fun h => ?_⟩
    · obtain ⟨htarget, hlatch⟩ := hleft.active h
      exact ⟨htarget, hback.lastSent.trans hlatch⟩
    · obtain ⟨htarget, hlatch⟩ := hleft.idle h
      exact ⟨htarget, hback.lastSent.trans hlatch⟩
  | right =>
    have hintegrated := hother.integrated cfg x
    refine ⟨fun h => ?_, fun h => ?_⟩
    · obtain ⟨htarget, hlatch⟩ := hright.active h
      rw [hintegrated, hother.lastSent] at htarget
      exact ⟨htarget, hlatch⟩
    · obtain ⟨htarget, hlatch⟩ := hright.idle h
      exact ⟨htarget, hlatch.trans hother.lastSent⟩

/-! ## The commands -/

/-- The serial backend gets a command for the arm, from this entry of the row. -/
structure Driven (cfg : SinkConfig) (x : ExecutedStep) (arm : Arm) (raw : Double) : Prop where
  entry : x.row[stepIndex arm]? = some raw
  mask : ∃ mask, cfg.armMask[maskIndex arm]? = some mask ∧ Double.lt (.fin 0) mask = true
  allowed : x.armAllowed arm = true

theorem Driven.active {x : ExecutedStep} {arm : Arm} {raw : Double} (h : Driven cfg x arm raw) :
    Active cfg x arm := by
  obtain ⟨mask, hmask, hpos⟩ := h.mask
  exact ⟨mask, hmask, Double.not_le_of_lt hpos, h.allowed⟩

theorem dispatchMask_getElem? (cfg : SinkConfig) (x : ExecutedStep) (arm : Arm) :
    (dispatchMask cfg x)[maskIndex arm]? =
      if x.armAllowed arm = true then cfg.armMask[maskIndex arm]?
      else (cfg.armMask[maskIndex arm]?).map fun _ => .fin 0 := by
  have hset : ∀ (l : List Double) (i : ℕ), (l.set i (.fin 0))[i]? = (l[i]?).map fun _ => .fin 0 := by
    intro l i
    rw [List.getElem?_set_self']
    rfl
  unfold dispatchMask
  simp only [List.foldl_cons, List.foldl_nil]
  cases arm with
  | left => cases x.armAllowed .left <;> cases x.armAllowed .right <;> simp [maskIndex, List.getElem?_set_ne, hset]
  | right => cases x.armAllowed .left <;> cases x.armAllowed .right <;> simp [maskIndex, List.getElem?_set_ne, hset]

/-- The entry of an arm in the row that is dispatched. -/
theorem dispatchRow_getElem? (habs : cfg.gripperActionAbsolute = true) (store : Double → Double) (row : List Double)
    (arm : Arm) :
    (s.dispatchRow cfg store row)[stepIndex arm]? =
      (row[stepIndex arm]?).map fun raw => store
        (if s.gripperHoldOpenNow then cfg.gripperHoldOpenValue else s.gripperCommandForDispatch cfg arm raw) := by
  have hself : ∀ (row : List Double) (arm : Arm), (s.dispatchEntry cfg store row arm)[stepIndex arm]? =
      (row[stepIndex arm]?).map fun raw => store
        (if s.gripperHoldOpenNow then cfg.gripperHoldOpenValue else s.gripperCommandForDispatch cfg arm raw) := by
    intro row arm
    unfold dispatchEntry
    cases hraw : row[stepIndex arm]? with
    | none =>
      rw [hraw]
      rfl
    | some raw =>
      obtain ⟨hlt, -⟩ := List.getElem?_eq_some_iff.mp hraw
      rw [List.getElem?_set_self hlt]
      rfl
  have hother : ∀ (row : List Double) (arm other : Arm), other ≠ arm →
      (s.dispatchEntry cfg store row arm)[stepIndex other]? = row[stepIndex other]? := by
    intro row arm other hne
    unfold dispatchEntry
    cases row[stepIndex arm]? with
    | none => rfl
    | some raw =>
      apply List.getElem?_set_ne
      cases arm <;> cases other <;> simp_all [stepIndex]
  unfold dispatchRow
  rw [if_pos habs]
  cases arm with
  | left =>
    rw [hother _ _ _ (by decide)]
    exact hself row .left
  | right =>
    rw [hself, hother _ _ _ (by decide)]

theorem mem_dispatchGripperStep (habs : cfg.gripperActionAbsolute = true) {store : Double → Double}
    {x : ExecutedStep} {c : GripperCommand} (hc : c ∈ s.dispatchGripperStep cfg store x) :
    ∃ raw, Driven cfg x c.arm raw ∧ c.value = store
      (if s.gripperHoldOpenNow then cfg.gripperHoldOpenValue else s.gripperCommandForDispatch cfg c.arm raw) := by
  unfold dispatchGripperStep gripperCommandsFromFlowStep at hc
  obtain ⟨arm, -, hcommand⟩ := List.mem_filterMap.mp hc
  unfold commandFromFlowStep at hcommand
  rw [dispatchRow_getElem? habs, dispatchMask_getElem?] at hcommand
  cases hraw : x.row[stepIndex arm]? with
  | none =>
    rw [hraw] at hcommand
    cases hcommand
  | some raw =>
    cases hmask : cfg.armMask[maskIndex arm]? with
    | none =>
      rw [hraw, hmask] at hcommand
      split at hcommand <;> simp_all
    | some mask =>
      rw [hraw, hmask] at hcommand
      by_cases hallowed : x.armAllowed arm = true
      · rw [if_pos hallowed] at hcommand
        simp only [Option.map_some] at hcommand
        split at hcommand
        · rename_i hpos
          obtain rfl := Option.some.inj hcommand
          exact ⟨raw, ⟨hraw, ⟨mask, hmask, hpos⟩, hallowed⟩, rfl⟩
        · cases hcommand
      · -- a blocked arm has a zero in the dispatch mask
        rw [if_neg hallowed] at hcommand
        simp only [Option.map_some] at hcommand
        rw [if_neg (by simp [Double.lt])] at hcommand
        cases hcommand

/-! ## One step -/

/-- While the hold-open window lasts, the latches are empty or at the hold-open value. -/
def Window (cfg : SinkConfig) (s : GripperState) : Prop :=
  (s.gripperIntegrateCount : ℤ) ≤ cfg.gripperOpenHoldSteps →
    ∀ arm last, s.gripperLastSentByArm arm = some last → last = cfg.gripperHoldOpenValue

/-- The target of the step before the deadband. -/
def asked (cfg : SinkConfig) (s : GripperState) (x : ExecutedStep) (arm : Arm) : Double :=
  (s.beginStep cfg).integrated cfg x arm

theorem asked_eq (habs : cfg.gripperActionAbsolute = true) {x : ExecutedStep} {arm : Arm} {raw : Double}
    (hraw : x.row[stepIndex arm]? = some raw) :
    s.asked cfg x arm =
      if (s.gripperIntegrateCount : ℤ) < cfg.gripperOpenHoldSteps then cfg.gripperHoldOpenValue
      else cfg.mapGripperOpening raw arm := by
  unfold asked integrated beginStep
  dsimp only
  rw [hraw]
  simp only [decide_eq_true_eq, habs, if_true]

/-- In the window an arm's value is the hold-open value, held by the deadband or not. -/
theorem Window.sentFor (h : Window cfg s) (hin : (s.gripperIntegrateCount : ℤ) < cfg.gripperOpenHoldSteps) (arm : Arm) :
    cfg.sentFor (s.gripperLastSentByArm arm) cfg.gripperHoldOpenValue = cfg.gripperHoldOpenValue := by
  unfold SinkConfig.sentFor
  cases hlast : s.gripperLastSentByArm arm with
  | none => rfl
  | some last =>
    dsimp only
    rw [h hin.le arm last hlast, ite_self]

/-- **The window, one step.** -/
theorem Window.execute (h : Window cfg s) (store : Double → Double) {x : ExecutedStep}
    (hallow : x.allowTargets = true) : Window cfg (s.execute cfg store x).1 := by
  obtain ⟨hintegrated, -, hcount⟩ := integrateGripperTargets_integrated cfg s hallow
  intro hle arm last hlast
  have hle : ((s.integrateGripperTargets cfg x).2.gripperIntegrateCount : ℤ) ≤ cfg.gripperOpenHoldSteps := hle
  rw [hcount] at hle
  have hin : (s.gripperIntegrateCount : ℤ) < cfg.gripperOpenHoldSteps := by
    push_cast at hle
    omega
  have hlast : (s.integrateGripperTargets cfg x).2.gripperLastSentByArm arm = some last := hlast
  by_cases hactive : Active cfg x arm
  · obtain ⟨htarget, hlatch⟩ := (hintegrated arm).active hactive
    have hhold : (s.beginStep cfg).integrated cfg x arm = cfg.gripperHoldOpenValue := by
      unfold integrated
      rw [if_pos (show (s.beginStep cfg).gripperHoldOpenNow = true from decide_eq_true hin)]
    rw [hlatch, htarget, hhold] at hlast
    have hsent : cfg.sentFor ((s.beginStep cfg).gripperLastSentByArm arm) cfg.gripperHoldOpenValue =
        cfg.gripperHoldOpenValue := h.sentFor hin arm
    rw [hsent] at hlast
    exact (Option.some.inj hlast).symm
  · rw [((hintegrated arm).idle hactive).2] at hlast
    exact h hin.le arm last hlast

/-- **One step.**  A command is what goes out for the arm's target, stored in the row. -/
theorem execute_stored (habs : cfg.gripperActionAbsolute = true) (store : Double → Double) (h : Window cfg s)
    {x : ExecutedStep} (hallow : x.allowTargets = true) {c : GripperCommand}
    (hc : c ∈ (s.execute cfg store x).2.commands) :
    ∃ raw, Driven cfg x c.arm raw ∧
      (s.execute cfg store x).2.targets c.arm =
        some (cfg.sentFor (s.gripperLastSentByArm c.arm) (s.asked cfg x c.arm)) ∧
      c.value = store (cfg.sentFor (s.gripperLastSentByArm c.arm) (s.asked cfg x c.arm)) := by
  obtain ⟨hintegrated, hhold, -⟩ := integrateGripperTargets_integrated cfg s hallow
  have hc : c ∈ (s.integrateGripperTargets cfg x).2.dispatchGripperStep cfg store x := hc
  obtain ⟨raw, hdriven, hvalue⟩ := mem_dispatchGripperStep habs hc
  obtain ⟨htarget, hlatch⟩ := (hintegrated c.arm).active hdriven.active
  have hasked := asked_eq (s := s) habs hdriven.entry
  refine ⟨raw, hdriven, htarget, ?_⟩
  rw [hvalue]
  congr 1
  rw [hhold, show (s.beginStep cfg).gripperHoldOpenNow =
    decide ((s.gripperIntegrateCount : ℤ) < cfg.gripperOpenHoldSteps) from rfl]
  by_cases hin : (s.gripperIntegrateCount : ℤ) < cfg.gripperOpenHoldSteps
  · rw [if_pos (decide_eq_true hin), hasked, if_pos hin, h.sentFor hin]
  · rw [if_neg (by simpa using hin)]
    rw [if_neg hin] at hasked
    unfold gripperCommandForDispatch
    dsimp only
    by_cases hoff : Double.le cfg.gripperCommandDeadbandPercent (.fin 0) = true
    · -- without a deadband the opening is mapped again
      have hpos : Double.lt (.fin 0) cfg.gripperCommandDeadbandPercent = false := by
        by_contra hlt
        rw [Double.not_le_of_lt (by simpa using hlt)] at hoff
        cases hoff
      have hnot : ∀ last, cfg.heldBy last (s.asked cfg x c.arm) = false := by
        intro last
        simp [SinkConfig.heldBy, hpos]
      rw [if_pos hoff, hasked.symm]
      unfold SinkConfig.sentFor
      cases s.gripperLastSentByArm c.arm with
      | none => rfl
      | some last =>
        dsimp only
        rw [hnot last, if_neg Bool.false_ne_true]
    · -- with one, the latch has the target of this step
      rw [if_neg hoff, hlatch, htarget]
      rfl

/-! ## Whole runs -/

/-- What the run so far gave, then the state before a step, the step, and what it gave. -/
def AtEachStep (cfg : SinkConfig) (store : Double → Double) (xs : List ExecutedStep)
    (Q : List SinkOutputs → GripperState → ExecutedStep → SinkOutputs → Prop) : Prop :=
  ∀ pre x post, xs = pre ++ x :: post →
    Q (start.run cfg store pre).2 (start.run cfg store pre).1 x ((start.run cfg store pre).1.execute cfg store x).2

/-- The last target that was returned for the arm. -/
def lastSent (outs : List SinkOutputs) (arm : Arm) : Option Double :=
  (outs.filterMap fun out => out.targets arm).getLast?

theorem lastSent_snoc (outs : List SinkOutputs) (out : SinkOutputs) (arm : Arm) :
    lastSent (outs ++ [out]) arm = (out.targets arm).or (lastSent outs arm) := by
  unfold lastSent
  rw [List.filterMap_append]
  cases h : out.targets arm with
  | none => simp [h]
  | some target => simp [h]

theorem run_snoc (cfg : SinkConfig) (store : Double → Double) (s : GripperState) (xs : List ExecutedStep)
    (x : ExecutedStep) :
    s.run cfg store (xs ++ [x]) =
      (((s.run cfg store xs).1.execute cfg store x).1,
        (s.run cfg store xs).2 ++ [((s.run cfg store xs).1.execute cfg store x).2]) := by
  induction xs generalizing s with
  | nil => rfl
  | cons y xs ih =>
    show ((((s.execute cfg store y).1).run cfg store (xs ++ [x])).1,
      (s.execute cfg store y).2 :: (((s.execute cfg store y).1).run cfg store (xs ++ [x])).2) = _
    rw [ih]
    rfl

/-- **Whole runs.**  The window, and the latches hold what was returned last. -/
theorem run_latched (cfg : SinkConfig) (store : Double → Double) (xs : List ExecutedStep)
    (hallow : ∀ x ∈ xs, x.allowTargets = true) :
    Window cfg (start.run cfg store xs).1 ∧
      ∀ arm, (start.run cfg store xs).1.gripperLastSentByArm arm = lastSent (start.run cfg store xs).2 arm := by
  induction xs using List.reverseRecOn with
  | nil =>
    refine ⟨fun _ arm last hlast => ?_, fun _ => rfl⟩
    cases hlast
  | append_singleton xs x ih =>
    obtain ⟨hwindow, hlatched⟩ := ih fun y hy => hallow y (List.mem_append_left _ hy)
    have hx := hallow x (List.mem_append_right _ (List.mem_singleton_self x))
    rw [run_snoc]
    refine ⟨hwindow.execute store hx, fun arm => ?_⟩
    obtain ⟨hintegrated, -, -⟩ := integrateGripperTargets_integrated cfg (start.run cfg store xs).1 hx
    show ((start.run cfg store xs).1.integrateGripperTargets cfg x).2.gripperLastSentByArm arm = _
    rw [lastSent_snoc]
    show _ = (((start.run cfg store xs).1.integrateGripperTargets cfg x).1 arm).or _
    by_cases hactive : Active cfg x arm
    · obtain ⟨htarget, hlatch⟩ := (hintegrated arm).active hactive
      rw [hlatch, htarget]
      rfl
    · obtain ⟨htarget, hlatch⟩ := (hintegrated arm).idle hactive
      rw [hlatch, htarget]
      exact hlatched arm

end GripperState

/-! ## The sinks -/

/-- Every command has the value of the target that was returned for its arm. -/
def SinkOutputs.Agree (out : SinkOutputs) : Prop :=
  ∀ c ∈ out.commands, out.targets c.arm = some c.value

/-- Every command has the target of its arm as the row stores it. -/
def SinkOutputs.Stored (store : Double → Double) (out : SinkOutputs) : Prop :=
  ∀ c ∈ out.commands, ∃ target, out.targets c.arm = some target ∧ c.value = store target

/-- The row holds the value unrounded. -/
def Representable (store : Double → Double) (v : Double) : Prop := store v = v

instance (out : SinkOutputs) : Decidable out.Agree := inferInstanceAs (Decidable (∀ c ∈ out.commands, _))

instance (store : Double → Double) (v : Double) : Decidable (Representable store v) :=
  inferInstanceAs (Decidable (_ = _))

/-- The opening that a driven arm asks for, in the hold-open window and after it. -/
def GripperState.opening (cfg : SinkConfig) (s : GripperState) (arm : Arm) (raw : Double) : Double :=
  if (s.gripperIntegrateCount : ℤ) < cfg.gripperOpenHoldSteps then cfg.gripperHoldOpenValue
  else cfg.mapGripperOpening raw arm

/-- For each driven arm: the opening is representable, or the deadband repeats a latched value that is. -/
def GripperState.Exact (cfg : SinkConfig) (store : Double → Double) (s : GripperState) (x : ExecutedStep) : Prop :=
  ∀ arm raw, GripperState.Driven cfg x arm raw →
    match s.gripperLastSentByArm arm with
    | none => Representable store (s.opening cfg arm raw)
    | some last =>
      if cfg.heldBy last (s.opening cfg arm raw) then Representable store last
      else Representable store (s.opening cfg arm raw)

/-- What the deadband makes of the target `asked` when `last` went out before. -/
structure DeadbandKept (cfg : SinkConfig) (last : Option Double) (asked value : Double) : Prop where
  first : last = none → value = asked
  repeated : ∀ l, last = some l → Double.lt (.fin 0) cfg.gripperCommandDeadbandPercent = true →
    Double.le (Double.abs (Double.sub asked l)) cfg.gripperCommandDeadbandPercent = true →
    Double.eq asked (.fin 0) = false → Double.eq l (.fin 0) = false → value = l
  zero : ∀ l, last = some l → (Double.eq asked (.fin 0) = true ∨ Double.eq l (.fin 0) = true) → value = asked
  moved : ∀ l, last = some l → cfg.heldBy l asked = false → value = asked

theorem deadbandKept_sentFor (cfg : SinkConfig) (last : Option Double) (asked : Double) :
    DeadbandKept cfg last asked (cfg.sentFor last asked) := by
  unfold SinkConfig.sentFor
  constructor
  · rintro rfl
    rfl
  · rintro l rfl hon hnear hasked hl
    dsimp only
    rw [if_pos]
    simp [SinkConfig.heldBy, hon, hnear, hasked, hl]
  · rintro l rfl hzero
    dsimp only
    rw [if_neg]
    rcases hzero with h | h
    · simp [SinkConfig.heldBy, h]
    · simp [SinkConfig.heldBy, h]
  · rintro l rfl hmoved
    dsimp only
    rw [hmoved, if_neg Bool.false_ne_true]

namespace GripperState

variable {cfg : SinkConfig} {store : Double → Double} {s : GripperState} {x : ExecutedStep}

/-- Every driven arm gets its command. -/
theorem exists_command (store : Double → Double) (s : GripperState) (habs : cfg.gripperActionAbsolute = true)
    {arm : Arm} {raw : Double}
    (h : Driven cfg x arm raw) : ∃ c ∈ (s.execute cfg store x).2.commands, c.arm = arm := by
  obtain ⟨mask, hmask, hpos⟩ := h.mask
  refine ⟨⟨arm, store (if (s.integrateGripperTargets cfg x).2.gripperHoldOpenNow then cfg.gripperHoldOpenValue
    else (s.integrateGripperTargets cfg x).2.gripperCommandForDispatch cfg arm raw), .target,
    cfg.gripperCommandSource⟩, ?_, rfl⟩
  show _ ∈ (s.integrateGripperTargets cfg x).2.dispatchGripperStep cfg store x
  unfold dispatchGripperStep gripperCommandsFromFlowStep
  refine List.mem_filterMap.mpr ⟨arm, by cases arm <;> decide, ?_⟩
  unfold commandFromFlowStep
  rw [dispatchRow_getElem? habs, dispatchMask_getElem?, h.entry, if_pos h.allowed, hmask, if_pos habs]
  simp only [Option.map_some]
  rw [if_pos hpos]

/-- What goes out is representable. -/
theorem representable_sentFor (cfg : SinkConfig) (store : Double → Double) (last : Option Double) (v : Double) :
    Representable store (cfg.sentFor last v) ↔
      match last with
      | none => Representable store v
      | some last => if cfg.heldBy last v then Representable store last else Representable store v := by
  unfold SinkConfig.sentFor
  cases last with
  | none => rfl
  | some last =>
    dsimp only
    split <;> rfl

/-- **One step.**  The sinks agree if and only if the row holds what goes out. -/
theorem execute_agree_iff (habs : cfg.gripperActionAbsolute = true) (h : Window cfg s)
    (hallow : x.allowTargets = true) : (s.execute cfg store x).2.Agree ↔ s.Exact cfg store x := by
  have hvalue : ∀ {arm raw}, Driven cfg x arm raw → s.asked cfg x arm = s.opening cfg arm raw :=
    fun hdriven => asked_eq habs hdriven.entry
  constructor
  · intro hagree arm raw hdriven
    obtain ⟨c, hc, rfl⟩ := exists_command store s habs hdriven
    obtain ⟨-, -, htarget, hstored⟩ := execute_stored habs store h hallow hc
    have heq := hagree c hc
    rw [htarget, hstored] at heq
    refine (representable_sentFor cfg store _ _).mp ?_
    rw [← hvalue hdriven]
    exact (Option.some.inj heq).symm
  · intro hexact c hc
    obtain ⟨raw, hdriven, htarget, hstored⟩ := execute_stored habs store h hallow hc
    have hrep : Representable store (cfg.sentFor (s.gripperLastSentByArm c.arm) (s.asked cfg x c.arm)) := by
      rw [hvalue hdriven]
      exact (representable_sentFor cfg store _ _).mpr (hexact c.arm raw hdriven)
    rw [htarget, hstored, hrep]

end GripperState

/-! ## Rows of `float32` -/

/-- To the nearest integer, ties to even. -/
def roundHalfEven (x : ℚ) : ℤ :=
  let d := x - ⌊x⌋
  if d < 1 / 2 then ⌊x⌋ else if 1 / 2 < d then ⌊x⌋ + 1 else if ⌊x⌋ % 2 = 0 then ⌊x⌋ else ⌊x⌋ + 1

/-- The conversion to `float32`: 24 significant bits. -/
def float32 : Double → Double
  | .fin q =>
    if q = 0 then .fin 0
    else
      let ulp : ℚ := 2 ^ (max (Int.log 2 |q|) (-126) - 23)
      let r := roundHalfEven (q / ulp) * ulp
      if 2 ^ 128 ≤ r then .posInf else if r ≤ -2 ^ 128 then .negInf else .fin r
  | v => v

/-- Binary mode with an open preset of 50.1. -/
def presetConfig : SinkConfig where
  gripperActionAbsolute := true
  gripperBinary := true
  gripperBinaryThreshold := .fin 50
  gripperOpenPercent := .fin (7050948166601933 / 140737488355328)
  gripperClosePercent := .fin 7
  gripperCloseBias := .fin 0
  gripperCloseBiasArm := fun _ => none
  gripperCloseSnapPercent := .fin 0
  gripperOpenHoldSteps := 0
  gripperCommandDeadbandPercent := .fin 0
  gripperCommandSource := "flow_policy"
  armMask := [.fin 1, .fin 1]

/-- A row with one opening for both grippers. -/
def openingStep (raw : ℚ) : ExecutedStep where
  row := List.replicate 6 (.fin 0) ++ [.fin raw] ++ List.replicate 6 (.fin 0) ++ [.fin raw]
  allowTargets := true
  armAllowed := fun _ => true
  current := fun _ => none

/-- The motion packet gets 50.1, the serial backend the `float32` next to it. -/
theorem open_preset_rounded :
    ¬ GripperState.AtEachStep presetConfig float32 [openingStep 80] (fun _ _ _ out => out.Agree) := by
  intro h
  have hagree : ((GripperState.start.execute presetConfig float32 (openingStep 80)).2).Agree := h [] _ [] rfl
  revert hagree
  decide +kernel

/-- **Both sinks get the same decision.**  In every run of the target modes with targets allowed in the motion packet,
each command is the target of its arm as the row stores it; the sinks agree in all steps if and only if the rows hold
the values that go out; and the targets follow the deadband from the last one returned. -/
theorem sinks_agree (cfg : SinkConfig) (store : Double → Double) (habs : cfg.gripperActionAbsolute = true)
    (xs : List ExecutedStep) (hallow : ∀ x ∈ xs, x.allowTargets = true) :
    GripperState.AtEachStep cfg store xs (fun _ _ _ out => out.Stored store) ∧
      (GripperState.AtEachStep cfg store xs (fun _ _ _ out => out.Agree) ↔
        GripperState.AtEachStep cfg store xs (fun _ s x _ => s.Exact cfg store x)) ∧
      GripperState.AtEachStep cfg store xs (fun outs s x out => ∀ arm value, out.targets arm = some value →
        DeadbandKept cfg (GripperState.lastSent outs arm) (s.asked cfg x arm) value) := by
  have hstep : ∀ {pre x post}, xs = pre ++ x :: post →
      (∀ y ∈ pre, y.allowTargets = true) ∧ x.allowTargets = true := by
    rintro pre x post rfl
    exact ⟨fun y hy => hallow y (List.mem_append_left _ hy),
      hallow x (List.mem_append_right _ (List.mem_cons_self ..))⟩
  refine ⟨?_, ⟨?_, ?_⟩, ?_⟩
  · intro pre x post hsplit c hc
    obtain ⟨hpre, hx⟩ := hstep hsplit
    obtain ⟨-, -, htarget, hstored⟩ :=
      GripperState.execute_stored habs store (GripperState.run_latched cfg store pre hpre).1 hx hc
    exact ⟨_, htarget, hstored⟩
  · intro hagree pre x post hsplit
    obtain ⟨hpre, hx⟩ := hstep hsplit
    exact (GripperState.execute_agree_iff habs (GripperState.run_latched cfg store pre hpre).1 hx).mp
      (hagree pre x post hsplit)
  · intro hexact pre x post hsplit
    obtain ⟨hpre, hx⟩ := hstep hsplit
    exact (GripperState.execute_agree_iff habs (GripperState.run_latched cfg store pre hpre).1 hx).mpr
      (hexact pre x post hsplit)
  · intro pre x post hsplit arm value hvalue
    obtain ⟨hpre, hx⟩ := hstep hsplit
    obtain ⟨hintegrated, -, -⟩ :=
      GripperState.integrateGripperTargets_integrated cfg (GripperState.start.run cfg store pre).1 hx
    have hvalue : ((GripperState.start.run cfg store pre).1.integrateGripperTargets cfg x).1 arm = some value := hvalue
    by_cases hactive : GripperState.Active cfg x arm
    · obtain ⟨htarget, -⟩ := (hintegrated arm).active hactive
      rw [htarget] at hvalue
      obtain rfl := Option.some.inj hvalue
      rw [← (GripperState.run_latched cfg store pre hpre).2 arm]
      exact deadbandKept_sentFor cfg _ _
    · rw [((hintegrated arm).idle hactive).1] at hvalue
      cases hvalue

/-- Absolute mode with a close bias and a deadband: 60 goes out as 59.5, which 62 repeats and 80 leaves. -/
theorem sinks_agree_deadband :
    GripperState.AtEachStep
      { presetConfig with gripperBinary := false, gripperCloseBias := .fin (1 / 2), gripperOpenHoldSteps := 1
                          gripperCommandDeadbandPercent := .fin 5 } float32
      [openingStep 60, openingStep 60, openingStep 62, openingStep 80] (fun _ _ _ out => out.Stored float32) :=
  (sinks_agree _ float32 rfl _ (by decide)).1

end PolicyRunner.Gripper
