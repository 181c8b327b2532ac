import RoboticsLab.Preview.AuthorityRuns

/-!
# Where a plan comes from

A result keeps the identity and the times of the request it answers; all that transport changes is its
geometry, by the change of gauge since (`PreviewExecutionResult.moveTo`).  The executor's numbers keep
plans apart (`Authority.Booked`), so that within an epoch the same parent number means the same plan or
brake, up to the change of gauge.

    Follows a a'                                    within an epoch             (Follows.path)
-/

namespace RbServo

open Gauge Relation

variable {K G B F : Type*} [Field K] [Group G]

/-! ## Transport composes -/

theorem PreviewExecutionGauge.change_self (g : PreviewExecutionGauge K G) : g.change g = .still := by
  simp [change, Fold.still]

theorem PreviewExecutionGauge.change_andThen (g h k : PreviewExecutionGauge K G) :
    (g.change h).andThen (h.change k) = g.change k := by
  simp only [change, Fold.andThen, Fold.mk.injEq]
  constructor
  · exact sub_add_sub_cancel' _ _ _
  · rw [mul_assoc, inv_mul_cancel_left]

/-- A change of gauge, read off the gauges. -/
theorem PreviewExecutionGauge.change_eq {g h : PreviewExecutionGauge K G} {f : Fold (Vec3 K) G}
    (ht : h.translation = g.translation + f.dp) (hr : h.rotation = f.dR * g.rotation) : g.change h = f := by
  cases f
  simp [change, ht, hr]

theorem PreviewPolynomialTrajectory.shift_still (t : PreviewPolynomialTrajectory K G) : t.shift .still = t := by
  cases t
  simp [shift, Fold.still]

theorem PreviewPolynomialTrajectory.shift_andThen (t : PreviewPolynomialTrajectory K G) (f e : Fold (Vec3 K) G) :
    (t.shift f).shift e = t.shift (f.andThen e) := by
  simp only [shift, Fold.andThen, add_assoc, mul_assoc]

theorem Kinematics.shift_still (x : Kinematics K G) : Kinematics.shift .still x = x := by
  simp [Kinematics.shift, Fold.move, Fold.still]

theorem Kinematics.shift_andThen (x : Kinematics K G) (f e : Fold (Vec3 K) G) :
    Kinematics.shift e (Kinematics.shift f x) = Kinematics.shift (f.andThen e) x := by
  simp only [Kinematics.shift, Fold.move, Fold.andThen, add_assoc, mul_assoc]

namespace PreviewExecutionResult

theorem moveTo_self (r : PreviewExecutionResult K G) : r.moveTo r.gauge = r := by
  have hp : (fun e : K × Kinematics K G => (e.1, Kinematics.shift .still e.2)) = id := by
    funext e
    rw [Kinematics.shift_still]
    rfl
  simp only [moveTo, PreviewExecutionGauge.change_self, PreviewPolynomialTrajectory.shift_still, ite_self, hp,
    List.map_id]

/-- By way of another gauge. -/
theorem moveTo_moveTo (r : PreviewExecutionResult K G) (g h : PreviewExecutionGauge K G) :
    (r.moveTo g).moveTo h = r.moveTo h := by
  have hf : (r.gauge.change g).andThen (g.change h) = r.gauge.change h := r.gauge.change_andThen g h
  have hv : ∀ f, (r.nominalTrajectory.shift f).valid = r.nominalTrajectory.valid := fun _ => rfl
  cases hn : r.nominalTrajectory.valid <;>
    simp [moveTo, PreviewPolynomialTrajectory.shift_andThen, Kinematics.shift_andThen, hf, hv, hn]

end PreviewExecutionResult

theorem LivePreviewExecution.Transported.eq_moveTo {r r' : PreviewExecutionResult K G}
    {g : PreviewExecutionGauge K G} (h : LivePreviewExecution.Transported r r' g) : r' = r.moveTo g := by
  obtain h | ⟨rfl, rfl⟩ := h.geometry
  · exact h
  · exact r'.moveTo_self.symm

theorem PreviewAngularContinuation.shiftCommonFrame_still (c : PreviewAngularContinuation K G B) :
    c.shiftCommonFrame .still = c := by
  cases c with
  | none => rfl
  | polynomial t o e => simp [shiftCommonFrame, Fold.still]
  | brake b o => simp [shiftCommonFrame, PreviewBrakeTrajectory.shiftCommonFrame, Fold.still]

theorem PreviewAngularContinuation.shiftCommonFrame_andThen (c : PreviewAngularContinuation K G B)
    (f e : Fold (Vec3 K) G) : (c.shiftCommonFrame f).shiftCommonFrame e = c.shiftCommonFrame (f.andThen e) := by
  cases c with
  | none => rfl
  | polynomial t o d => simp [shiftCommonFrame, Fold.andThen, mul_assoc]
  | brake b o => simp [shiftCommonFrame, PreviewBrakeTrajectory.shiftCommonFrame, Fold.andThen, mul_assoc]

/-- A running brake in a moved frame. -/
def RunningBrake.shift (f : Fold (Vec3 K) G) (b : RunningBrake K G B) : RunningBrake K G B :=
  { b with trajectory := b.trajectory.shiftCommonFrame f, angular := b.angular.shiftCommonFrame f }

theorem RunningBrake.shift_still (b : RunningBrake K G B) : b.shift .still = b := by
  simp only [shift, Authority.shiftCommonFrame_still, PreviewAngularContinuation.shiftCommonFrame_still]

theorem RunningBrake.shift_andThen (b : RunningBrake K G B) (f e : Fold (Vec3 K) G) :
    (b.shift f).shift e = b.shift (f.andThen e) := by
  simp only [shift, Authority.shiftCommonFrame_andThen, PreviewAngularContinuation.shiftCommonFrame_andThen]

namespace Authority

variable {a a' a'' : Authority K G B} {L taken : List (PreviewExecutionResult K G)} {sp : MotionSpace K G}
variable {adm : Bool}

/-! ## Numbers and gauges -/

/-- The books of an executor that has taken the results `L` so far. -/
structure Booked (L : List (PreviewExecutionResult K G)) (a : Authority K G B) : Prop where
  taken : ∀ r ∈ L, r.identity.parentPlanId < r.identity.requestId ∧ r.identity.requestId ≤ a.requestId
  parent : a.parentPlanId ≤ a.requestId
  /-- The staged result was taken, and is of the gauge it names. -/
  staged : ∀ r, a.staged = some r → (∃ r₀ ∈ L, r = r₀.moveTo r.gauge) ∧
    r.gauge.revision ≤ a.gauge.revision ∧ (r.gauge.revision = a.gauge.revision → r.gauge = a.gauge)
  active : ∀ r, a.active = some r → r.gauge = a.gauge
  faulted : a.initialized → a.faulted = false

theorem Booked.reset (h : Booked L a) (faulted : Bool) : Booked L { a.reset with faulted := faulted } where
  taken := h.taken
  parent := Nat.zero_le _
  staged r hr := by simp [Authority.reset] at hr
  active r hr := by simp [Authority.reset] at hr
  faulted hi := by simp [Authority.reset] at hi

/-- Another staged result, and more requests. -/
theorem Booked.of_staged (h : Booked L a) {x : Option (PreviewExecutionResult K G)} {n : ℕ} (hn : a.requestId ≤ n)
    (hx : ∀ r, x = some r → (∃ r₀ ∈ L, r = r₀.moveTo r.gauge) ∧ r.gauge.revision ≤ a.gauge.revision ∧
      (r.gauge.revision = a.gauge.revision → r.gauge = a.gauge)) :
    Booked L { a with staged := x, requestId := n } where
  taken r hr := ⟨(h.taken r hr).1, (h.taken r hr).2.trans hn⟩
  parent := h.parent.trans hn
  staged := hx
  active := h.active
  faulted := h.faulted

theorem Booked.brakeMove (h : Booked L a) (hm : BrakeMove a a') : Booked L a' := by
  have htaken : ∀ r ∈ L, r.identity.parentPlanId < r.identity.requestId ∧
      r.identity.requestId ≤ a.requestId + 1 :=
    fun r hr => ⟨(h.taken r hr).1, (h.taken r hr).2.trans (Nat.le_succ _)⟩
  cases hm with
  | keep => exact h
  | angular b c hb =>
    exact ⟨htaken, le_rfl, fun r hr => by simp [renewAngular] at hr, h.active, h.faulted⟩
  | brake b o c hi hb =>
    exact ⟨htaken, le_rfl, fun r hr => by simp [brakeWith] at hr, fun r hr => by simp [brakeWith] at hr, h.faulted⟩

/-- A result brought to the gauge of the authority. -/
theorem Booked.transported [LinearOrder K] [DecidableEq G] (h : Booked L a) {r₀ r r' : PreviewExecutionResult K G}
    {tolerance : K} (hr₀ : r₀ ∈ L) (hr : r = r₀.moveTo r.gauge)
    (ht : transportPreviewExecutionResult sp r a.gauge tolerance = some r') :
    Booked L { a with staged := some r' } := by
  have hm : r' = r.moveTo a.gauge := (LivePreviewExecution.transported ht).eq_moveTo
  have hg : r'.gauge = a.gauge := by rw [hm]; rfl
  refine h.of_staged le_rfl fun x hx => ?_
  obtain rfl := Option.some.inj hx
  refine ⟨⟨r₀, hr₀, ?_⟩, by rw [hg], fun _ => hg⟩
  rw [hg, hm, hr, PreviewExecutionResult.moveTo_moveTo]

/-- The number of an admitted result is new. -/
theorem Booked.parent_lt (h : Booked L a) {r : PreviewExecutionResult K G} (hr : a.staged = some r) :
    r.identity.parentPlanId < r.identity.requestId ∧ r.identity.requestId ≤ a.requestId := by
  obtain ⟨⟨r₀, hr₀, he⟩, -⟩ := h.staged r hr
  have hid : r.identity = r₀.identity := by
    rw [he]
    rfl
  rw [hid]
  exact h.taken r₀ hr₀

/-- **One step.** -/
theorem Booked.step [LinearOrder K] [DecidableEq G] (h : Booked L a) (hL : ∀ r ∈ taken, r ∈ L)
    (hs : Step sp taken adm a a') : Booked L a' := by
  cases hs with
  | reset => exact h.reset false
  | fail => exact h.reset true
  | start hi hf => exact ⟨h.taken, h.parent, h.staged, h.active, fun _ => hf⟩
  | brake hm => exact h.brakeMove hm
  | unstage => exact h.of_staged le_rfl fun r hr => by simp at hr
  | stage hr hf ht => exact h.transported (hL _ hr) (PreviewExecutionResult.moveTo_self _).symm ht
  | transport hr ht =>
    obtain ⟨⟨r₀, hr₀, he⟩, -⟩ := h.staged _ hr
    exact h.transported hr₀ he ht
  | @admission r hr hf hg hh hi ha =>
    refine ⟨h.taken, (h.parent_lt hr).2, fun r' hr' => by simp [Authority.admission] at hr', ?_, h.faulted⟩
    intro r' hr'
    obtain rfl := Option.some.inj hr'
    exact (h.staged r hr).2.2 hg
  | retire hi => exact ⟨h.taken, h.parent, fun r hr => by simp [Authority.retire] at hr, h.active, h.faulted⟩
  | spend => exact h.of_staged (Nat.le_succ _) h.staged

theorem Booked.path [LinearOrder K] [DecidableEq G] (h : Booked L a) (hL : ∀ r ∈ taken, r ∈ L)
    (hp : Path sp taken adm a a') : Booked L a' := by
  induction hp with
  | refl => exact h
  | tail _ hs ih => exact ih.step hL hs

/-- A fold does not change what is executed. -/
theorem parentPlanId_fold (f : Fold (Vec3 K) G) (cause : PreviewFoldCause) {x : Option (PreviewExecutionResult K G)}
    (hx : ∀ r', x = some r' → ∃ r, a.active = some r ∧
      LivePreviewExecution.Transported r r' (a.fold f cause x).gauge)
    (hn : x = none → a.active = none) : (a.fold f cause x).parentPlanId = a.parentPlanId := by
  cases hb : a.brake with
  | some b => simp [parentPlanId, Authority.fold, hb]
  | none =>
    cases x with
    | none => simp [parentPlanId, Authority.fold, hb, hn rfl]
    | some r' =>
      obtain ⟨r, hr, ht⟩ := hx r' rfl
      simp [parentPlanId, Authority.fold, hb, hr, ht.identity.1]

theorem Booked.fold (h : Booked L a) (f : Fold (Vec3 K) G) (cause : PreviewFoldCause)
    {x : Option (PreviewExecutionResult K G)}
    (hx : ∀ r', x = some r' → ∃ r, a.active = some r ∧
      LivePreviewExecution.Transported r r' (a.fold f cause x).gauge)
    (hn : x = none → a.active = none) : Booked L (a.fold f cause x) := by
  refine ⟨h.taken, (parentPlanId_fold f cause hx hn).le.trans h.parent, ?_, ?_, h.faulted⟩
  · intro r hr
    have hr' : a.staged = some r := by
      simp only [Authority.fold] at hr
      split at hr
      · simp at hr
      · exact hr
    obtain ⟨h1, h2, -⟩ := h.staged r hr'
    refine ⟨h1, h2.trans (Nat.le_succ _), fun he => ?_⟩
    have hlt : r.gauge.revision < (a.fold f cause x).gauge.revision := Nat.lt_succ_of_le h2
    omega
  · intro r' hr'
    obtain ⟨r, -, ht⟩ := hx r' hr'
    exact ht.identity.2.2.2.2

/-! ## What is executed -/

/-- Numbers of plans and brakes only grow, and one number is one plan or brake, in the current gauge. -/
structure Follows (a a' : Authority K G B) : Prop where
  parent : a.parentPlanId ≤ a'.parentPlanId
  brake : a'.parentPlanId = a.parentPlanId → a'.brake = a.brake.map (RunningBrake.shift (a.gauge.change a'.gauge))
  active : a'.parentPlanId = a.parentPlanId → a'.active = a.active.map fun r => r.moveTo a'.gauge

theorem Follows.trans (h : Follows a a') (h' : Follows a' a'') : Follows a a'' where
  parent := h.parent.trans h'.parent
  brake he := by
    have h1 := h.parent
    have h2 := h'.parent
    rw [h'.brake (by omega), h.brake (by omega), Option.map_map]
    congr 1
    funext b
    show (b.shift _).shift _ = b.shift _
    rw [RunningBrake.shift_andThen, PreviewExecutionGauge.change_andThen]
  active he := by
    have h1 := h.parent
    have h2 := h'.parent
    rw [h'.active (by omega), h.active (by omega), Option.map_map]
    congr 1
    funext r
    exact r.moveTo_moveTo _ _

theorem Follows.of_lt (h : a.parentPlanId < a'.parentPlanId) : Follows a a' :=
  ⟨h.le, fun he => absurd he (Nat.ne_of_gt h), fun he => absurd he (Nat.ne_of_gt h)⟩

theorem Follows.of_eq (h : Booked L a) (hb : a'.brake = a.brake) (ha : a'.active = a.active)
    (hg : a'.gauge = a.gauge) : Follows a a' where
  parent := by simp only [parentPlanId, hb, ha, le_refl]
  brake _ := by
    have hs : (RunningBrake.shift .still : RunningBrake K G B → RunningBrake K G B) = id :=
      funext RunningBrake.shift_still
    rw [hb, hg, PreviewExecutionGauge.change_self, hs, Option.map_id, id]
  active _ := by
    rw [ha, hg]
    cases hr : a.active with
    | none => rfl
    | some r =>
      rw [Option.map_some, ← h.active r hr, r.moveTo_self]

/-- **One step.** -/
theorem Follows.step [LinearOrder K] [DecidableEq G] (h : Booked L a) (hi : a.initialized) (hs : Step sp taken adm a a')
    (he : a'.epoch = a.epoch) : Follows a a' := by
  have hreset : a.reset.epoch = a.epoch + 1 := if_pos (live_of_initialized hi)
  cases hs with
  | reset => omega
  | fail =>
    have he' : a.reset.epoch = a.epoch := he
    omega
  | start hi' hf => simp [hi] at hi'
  | brake hm =>
    have hlt := h.parent
    cases hm with
    | keep => exact .of_eq h rfl rfl rfl
    | angular b c hb => exact .of_lt (Nat.lt_succ_of_le hlt)
    | brake b o c _ hb => exact .of_lt (Nat.lt_succ_of_le hlt)
  | unstage => exact .of_eq h rfl rfl rfl
  | stage hr hf ht => exact .of_eq h rfl rfl rfl
  | transport hr ht => exact .of_eq h rfl rfl rfl
  | admission hr hf hg hh _ ha =>
    apply Follows.of_lt
    rw [← hf.parentPlanId]
    exact (h.parent_lt hr).1
  | retire _ => exact .of_eq h rfl rfl rfl
  | spend => exact .of_eq h rfl rfl rfl

/-- **Whole paths.** -/
theorem Follows.path [LinearOrder K] [DecidableEq G] (hs : a.Started) (h : Booked L a) (hL : ∀ r ∈ taken, r ∈ L)
    (hi : a.initialized)
    (hp : Path sp taken adm a a') (he : a'.epoch = a.epoch) : Follows a a' := by
  induction hp with
  | refl => exact .of_eq h rfl rfl rfl
  | @tail b c hp hstep ih =>
    have h1 := Advances.path hs hp
    have h2 := Advances.step h1.started hstep
    have hb : b.epoch = a.epoch := by
      have := h1.epoch
      have := h2.epoch
      omega
    exact (ih hb).trans (Follows.step (h.path hL hp) (h1.initialized hb hi) hstep (he.trans hb.symm))

theorem Follows.fold (f : Fold (Vec3 K) G) (cause : PreviewFoldCause)
    {x : Option (PreviewExecutionResult K G)}
    (hx : ∀ r', x = some r' → ∃ r, a.active = some r ∧
      LivePreviewExecution.Transported r r' (a.fold f cause x).gauge)
    (hn : x = none → a.active = none) : Follows a (a.fold f cause x) where
  parent := (parentPlanId_fold f cause hx hn).ge
  brake _ := by
    have hf : a.gauge.change (a.fold f cause x).gauge = f := PreviewExecutionGauge.change_eq rfl rfl
    rw [hf]
    rfl
  active _ := by
    show x = _
    cases x with
    | none => simp [hn rfl]
    | some r' =>
      obtain ⟨r, hr, ht⟩ := hx r' rfl
      rw [hr, Option.map_some]
      exact congrArg some ht.eq_moveTo

end Authority

end RbServo
