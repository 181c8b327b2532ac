import RoboticsLab.ServoHistory.Uninterrupted
import Mathlib.Data.List.Nodup

/-!
# Policy windows are causal

On samples in order, `poseAt` finds the sample stamped at the time or the two neighbours around it, and nothing else
(`poseAt_iff`).  A valid result of an arm is therefore a function of three samples (`WindowSamples`): the two around the
start of the window and the one stamped at the observation.  While these are in the history the result stays, since
every sample that comes later is newer than the observation.
-/

namespace PolicyRunner.ServoHistory

variable {np : Numerics} {cfg : Config} {samples : List Sample} {time gap : ℤ} {b : Bracketed}

/-! ## Brackets -/

/-- The pose at `time` comes from the sample there, or from two neighbours at most `gap` apart. -/
inductive Bracket (np : Numerics) (time gap : ℤ) (samples : List Sample) : Sample → Sample → Bracketed → Prop
  | exact {s : Sample} : s ∈ samples → (s.time : ℤ) = time → Bracket np time gap samples s s ⟨s.pose, s.time, s.time⟩
  | between {p s : Sample} : p ∈ samples → s ∈ samples → (p.time : ℤ) < time → time < s.time →
      (s.time : ℤ) - p.time ≤ gap → (∀ x ∈ samples, x.time ≤ p.time ∨ s.time ≤ x.time) →
      Bracket np time gap samples p s (between np time p s)

theorem eq_of_time {a c : Sample} (sorted : samples.Pairwise fun a b => a.time < b.time) (ha : a ∈ samples)
    (hc : c ∈ samples) (h : a.time = c.time) : a = c := by
  have hnodup : (samples.map Sample.time).Nodup := List.pairwise_map.mpr (sorted.imp ne_of_lt)
  exact List.inj_on_of_nodup_map hnodup ha hc h

/-- The sample stamped at the time is the pose there. -/
theorem bracket_of_exact {s : Sample} (sorted : samples.Pairwise fun a b => a.time < b.time) (hs : s ∈ samples)
    (ht : (s.time : ℤ) = time) :
    (∃ p q, Bracket np time gap samples p q b) ↔ (⟨s.pose, s.time, s.time⟩ : Bracketed) = b := by
  constructor
  · rintro ⟨p, q, hb⟩
    cases hb with
    | exact hq hqt => rw [eq_of_time sorted hs hq (by omega)]
    | between _ _ hpt hqt _ hno =>
      have := hno s hs
      omega
  · rintro rfl
    exact ⟨s, s, .exact hs ht⟩

/-- Around a time that no sample is stamped at, the bracket is the two samples next to it. -/
theorem bracket_of_between {p s : Sample} (sorted : samples.Pairwise fun a b => a.time < b.time) (hp : p ∈ samples)
    (hs : s ∈ samples) (hpt : (p.time : ℤ) < time) (hst : time < s.time)
    (hno : ∀ x ∈ samples, x.time ≤ p.time ∨ s.time ≤ x.time) :
    (∃ p' s', Bracket np time gap samples p' s' b) ↔ (s.time : ℤ) - p.time ≤ gap ∧ between np time p s = b := by
  constructor
  · rintro ⟨p', s', hb⟩
    cases hb with
    | exact hx hxt =>
      have := hno _ hx
      omega
    | between hp' hs' hpt' hst' hgap hno' =>
      have hnp := hno p' hp'
      have hns := hno s' hs'
      have hnp' := hno' p hp
      have hns' := hno' s hs
      obtain rfl := eq_of_time sorted hp hp' (by omega)
      obtain rfl := eq_of_time sorted hs hs' (by omega)
      exact ⟨hgap, rfl⟩
  · rintro ⟨hgap, rfl⟩
    exact ⟨p, s, .between hp hs hpt hst hgap hno⟩

/-- The loop, past the samples `done` before the time. -/
theorem poseAt_iff_of_done (rest done : List Sample)
    (sorted : (done ++ rest).Pairwise fun a b => a.time < b.time) (before : ∀ x ∈ done, (x.time : ℤ) < time) :
    poseAt np time gap done.getLast? rest = .ok b ↔ ∃ p s, Bracket np time gap (done ++ rest) p s b := by
  induction rest generalizing done with
  | nil =>
    refine ⟨fun h => by simp [poseAt] at h, ?_⟩
    rintro ⟨p, s, hb⟩
    rw [List.append_nil] at hb
    cases hb with
    | exact hs ht => have := before _ hs; omega
    | between _ hs _ hlt _ _ => have := before _ hs; omega
  | cons s rest ih =>
    have hs : s ∈ done ++ s :: rest := by simp
    have hrest : ∀ x ∈ rest, s.time < x.time := by
      intro x hx
      have h := (List.pairwise_append.mp sorted).2.1
      exact (List.pairwise_cons.mp h).1 x hx
    unfold poseAt
    by_cases heq : (s.time : ℤ) = time
    · rw [if_pos heq, bracket_of_exact sorted hs heq, Except.ok.injEq]
    rw [if_neg heq]
    by_cases hlt : time < s.time
    · rw [if_pos hlt]
      rcases List.eq_nil_or_concat' done with rfl | ⟨front, p, rfl⟩
      · -- every sample is later than the time
        have hlate : ∀ x ∈ s :: rest, time < x.time := by
          intro x hx
          obtain rfl | hx := List.mem_cons.mp hx
          · exact hlt
          · have := hrest x hx
            omega
        refine ⟨fun h => by simp at h, ?_⟩
        rintro ⟨p, q, hb⟩
        cases hb with
        | exact hx hxt => have := hlate _ hx; omega
        | between hp _ hpt _ _ _ => have := hlate _ hp; omega
      · have hp : p ∈ (front ++ [p]) ++ s :: rest := by simp
        have hno : ∀ x ∈ (front ++ [p]) ++ s :: rest, x.time ≤ p.time ∨ s.time ≤ x.time := by
          intro x hx
          have hfront := (List.pairwise_append.mp (List.pairwise_append.mp sorted).1).2.2
          simp only [List.mem_append, List.mem_cons, List.not_mem_nil, or_false] at hx
          obtain (hx | rfl) | rfl | hx := hx
          · exact .inl (hfront x hx p (by simp)).le
          · exact .inl le_rfl
          · exact .inr le_rfl
          · exact .inr (hrest x hx).le
        rw [bracket_of_between sorted hp hs (before p (by simp)) hlt hno]
        simp only [List.getLast?_append, List.getLast?_singleton, Option.some_or]
        by_cases hgap : gap < (s.time : ℤ) - p.time
        · simp only [if_pos hgap, reduceCtorEq, false_iff, not_and]
          intro hle
          omega
        · simp only [if_neg hgap, Except.ok.injEq, not_lt.mp hgap, true_and]
    · rw [if_neg hlt]
      have := ih (done ++ [s]) (by simpa using sorted) (by
        intro x hx
        obtain hx | hx := List.mem_append.mp hx
        · exact before x hx
        · rw [List.mem_singleton.mp hx]
          omega)
      simpa using this

/-- **The loop.** -/
theorem poseAt_iff (sorted : samples.Pairwise fun a b => a.time < b.time) :
    poseAt np time gap none samples = .ok b ↔ ∃ p s, Bracket np time gap samples p s b :=
  poseAt_iff_of_done samples [] sorted (by simp)

/-! ## One arm -/

section
variable {h h' : History} {payload : Json} {w : PolicyWindow} {side : Arm} {r : ArmDelta}

/-- The samples of the arm up to the observation. -/
def upTo (h : History) (w : PolicyWindow) (side : Arm) : List Sample :=
  (h.samples side).filter fun s => s.time ≤ w.stamp.time

theorem mem_upTo {s : Sample} : s ∈ upTo h w side ↔ s ∈ h.samples side ∧ s.time ≤ w.stamp.time := by
  simp [upTo]

/-- The parts of a valid result. -/
theorem armDelta_iff :
    armDelta np h payload w side = .ok r ↔ ∃ pose,
      readArm np payload side = .ok (r.referenceResetCount, pose) ∧ upTo h w side ≠ [] ∧
      (∀ s ∈ upTo h w side, s.motionEpoch = w.stamp.motion ∧ s.referenceEpoch = r.referenceResetCount) ∧
      poseAt np w.start w.windowNs none (upTo h w side) = .ok r.startPose ∧
      poseAt np w.stamp.time w.windowNs none (upTo h w side) = .ok r.endPose ∧
      r.delta = np.bodyDelta r.startPose.pose r.endPose.pose := by
  constructor
  · intro hr
    obtain ⟨⟨epoch, pose⟩, hread, hr⟩ := except_bind_ok hr
    dsimp only at hr
    split_ifs at hr with hnil hany
    obtain ⟨first, hfirst, hr⟩ := except_bind_ok hr
    obtain ⟨last, hlast, hr⟩ := except_bind_ok hr
    cases hr
    refine ⟨pose, hread, hnil, ?_, hfirst, hlast, rfl⟩
    intro s hs
    simp only [List.any_eq_true, decide_eq_true_eq, not_exists, not_and, not_or, not_not] at hany
    exact hany s hs
  · rintro ⟨pose, hread, hnil, hepochs, hfirst, hlast, hdelta⟩
    unfold armDelta
    unfold upTo at hnil hepochs hfirst hlast
    have hany : ¬ ((h.samples side).filter fun s => s.time ≤ w.stamp.time).any fun s =>
        s.motionEpoch ≠ w.stamp.motion ∨ s.referenceEpoch ≠ r.referenceResetCount := by
      simp only [List.any_eq_true, decide_eq_true_eq, not_exists, not_and, not_or, not_not]
      exact hepochs
    simp only [hread, bind, Except.bind, if_neg hnil, if_neg hany, hfirst, hlast, ← hdelta]
    rfl

/-- The samples a valid result is computed from: two around the start of the window, one at the observation. -/
structure WindowSamples (np : Numerics) (w : PolicyWindow) (samples : List Sample) (p s e : Sample) (r : ArmDelta) :
    Prop where
  start : Bracket np w.start w.windowNs samples p s r.startPose
  observation : e ∈ samples ∧ e.time = w.stamp.time
  stop : r.endPose = ⟨e.pose, e.time, e.time⟩
  delta : r.delta = np.bodyDelta r.startPose.pose r.endPose.pose

/-- The samples a bracket rests on and where they lie. -/
theorem Bracket.range {p s : Sample} (hb : Bracket np time gap samples p s b) (hgap : 0 ≤ gap) :
    p ∈ samples ∧ s ∈ samples ∧ time - gap ≤ p.time ∧ (p.time : ℤ) ≤ time ∧ time ≤ s.time := by
  cases hb with
  | exact hs ht => exact ⟨hs, hs, by omega, by omega, by omega⟩
  | between hp hs hpt hst hg _ => exact ⟨hp, hs, by omega, by omega, by omega⟩

theorem armDelta_samples (o : Ordered h side) (hr : armDelta np h payload w side = .ok r) :
    ∃ p s e, WindowSamples np w (upTo h w side) p s e r := by
  obtain ⟨pose, -, -, -, hfirst, hlast, hdelta⟩ := armDelta_iff.mp hr
  have hsorted : (upTo h w side).Pairwise fun a b => a.time < b.time := o.increasing.filter _
  obtain ⟨p, s, hb⟩ := (poseAt_iff hsorted).mp hfirst
  obtain ⟨e, e', he⟩ := (poseAt_iff hsorted).mp hlast
  have hexact : (e ∈ upTo h w side ∧ e.time = w.stamp.time) ∧ r.endPose = ⟨e.pose, e.time, e.time⟩ := by
    generalize r.endPose = last at he
    cases he with
    | exact hs ht => exact ⟨⟨hs, by omega⟩, rfl⟩
    | between _ hs _ hst _ _ =>
      -- no sample up to the observation is later than it
      have := (mem_upTo.mp hs).2
      omega
  exact ⟨p, s, e, hb, hexact.1, hexact.2, hdelta⟩

/-- **Causality.**  A valid result stays while its samples are in the history. -/
theorem armDelta_persists {p s e : Sample} (o : Ordered h side) (o' : Ordered h' side) (ext : Extends h h' side)
    (hr : armDelta np h payload w side = .ok r) (ws : WindowSamples np w (upTo h w side) p s e r)
    (hp : p ∈ h'.samples side) (hs : s ∈ h'.samples side) (he : e ∈ h'.samples side) :
    armDelta np h' payload w side = .ok r := by
  obtain ⟨pose, hread, -, hepochs, -, -, hdelta⟩ := armDelta_iff.mp hr
  have hsorted : (upTo h' w side).Pairwise fun a b => a.time < b.time := o'.increasing.filter _
  have hobs := ws.observation
  have hlatest := o.latest e (mem_upTo.mp hobs.1).1
  have hsub : ∀ x ∈ upTo h' w side, x ∈ upTo h w side := by
    intro x hx
    obtain ⟨hxs, hxt⟩ := mem_upTo.mp hx
    obtain hold | hnew := ext.2 x hxs
    · exact mem_upTo.mpr ⟨hold, hxt⟩
    · have := hobs.2
      omega
  have hmem : ∀ x ∈ upTo h w side, x ∈ h'.samples side → x ∈ upTo h' w side := by
    intro x hx hx'
    exact mem_upTo.mpr ⟨hx', (mem_upTo.mp hx).2⟩
  have hemem := hmem e hobs.1 he
  refine armDelta_iff.mpr ⟨pose, hread, List.ne_nil_of_mem hemem, fun x hx => hepochs x (hsub x hx), ?_, ?_, hdelta⟩
  · refine (poseAt_iff hsorted).mpr ⟨p, s, ?_⟩
    have hb := ws.start
    generalize r.startPose = first at hb
    cases hb with
    | exact hm ht => exact .exact (hmem _ hm hp) ht
    | between hpm hsm hpt hst hg hno =>
      exact .between (hmem _ hpm hp) (hmem _ hsm hs) hpt hst hg fun x hx => hno x (hsub x hx)
  · rw [ws.stop]
    exact (poseAt_iff hsorted).mpr ⟨e, e, .exact hemem (by rw [hobs.2])⟩

/-! ## Both arms -/

theorem poseAt_caught (previous : Option Sample) (samples : List Sample) (e : PyError) :
    poseAt np time gap previous samples ≠ .error (.uncaught e) := by
  induction samples generalizing previous with
  | nil => simp [poseAt]
  | cons s samples ih =>
    unfold poseAt
    split_ifs
    · simp
    · cases previous with
      | none => simp
      | some p =>
        dsimp only
        split_ifs <;> simp
    · exact ih (some s)

/-- An exception passes the handler of an arm only out of the observation's own payload. -/
theorem armDelta_uncaught {e : PyError} :
    armDelta np h payload w side = .error (.uncaught e) ↔ readArm np payload side = .error (.uncaught e) := by
  unfold armDelta
  cases hread : readArm np payload side with
  | error f => simp [bind, Except.bind]
  | ok read =>
    simp only [bind, Except.bind, reduceCtorEq, iff_false]
    split_ifs
    · simp
    · simp
    · generalize (h.samples side).filter _ = samples
      cases hfirst : poseAt np w.start w.windowNs none samples with
      | error f =>
        intro hf
        cases hf
        exact poseAt_caught none samples e hfirst
      | ok first =>
        cases hlast : poseAt np w.stamp.time w.windowNs none samples with
        | error f =>
          intro hf
          cases hf
          exact poseAt_caught none samples e hlast
        | ok last => simp [pure, Except.pure]

theorem handled_ok_iff {α : Type} {x : Except Failure α} :
    (∃ v, handled x = .ok v) ↔ ∀ e, x ≠ .error (.uncaught e) := by
  cases x with
  | ok a => simp [handled]
  | error f => cases f <;> simp [handled]

theorem handled_eq_ok {α : Type} {x : Except Failure α} {a : α} : handled x = .ok (.ok a) ↔ x = .ok a := by
  cases x with
  | ok b => simp [handled]
  | error f => cases f <;> simp [handled]

variable {o : Observation} {d : ArmDeltas}

/-- A valid result of an arm is its own. -/
theorem bodyDeltas_arm (hd : bodyDeltas np cfg h o = .ok d) (hr : d side = .ok r) :
    ∃ w, policyWindow cfg o = .ok w ∧ armDelta np h o.payload w side = .ok r := by
  obtain ⟨window, hw, hd⟩ := except_bind_ok hd
  cases window with
  | error text =>
    cases hd
    cases hr
  | ok w =>
    obtain ⟨left, hleft, hd⟩ := except_bind_ok hd
    obtain ⟨right, hright, hd⟩ := except_bind_ok hd
    cases hd
    refine ⟨w, handled_eq_ok.mp hw, ?_⟩
    cases side with
    | left => exact handled_eq_ok.mp (hleft.trans (congrArg _ hr))
    | right => exact handled_eq_ok.mp (hright.trans (congrArg _ hr))

/-- On another history the call returns as well, with the arm's own result there. -/
theorem bodyDeltas_transfer (hd : bodyDeltas np cfg h o = .ok d) (hw : policyWindow cfg o = .ok w)
    (hr : armDelta np h' o.payload w side = .ok r) : ∃ d', bodyDeltas np cfg h' o = .ok d' ∧ d' side = .ok r := by
  obtain ⟨window, hwin, hd⟩ := except_bind_ok hd
  obtain rfl : Except.ok w = window := by
    have hw' : handled (policyWindow cfg o) = .ok (.ok w) := handled_eq_ok.mpr hw
    exact Except.ok.inj (hw'.symm.trans hwin)
  obtain ⟨left, hleft, hd⟩ := except_bind_ok hd
  obtain ⟨right, hright, -⟩ := except_bind_ok hd
  have hother : ∀ arm v, handled (armDelta np h o.payload w arm) = .ok v →
      ∃ v', handled (armDelta np h' o.payload w arm) = .ok v' := by
    intro arm v hv
    rw [handled_ok_iff]
    intro e he
    rw [armDelta_uncaught] at he
    exact handled_ok_iff.mp ⟨v, hv⟩ e (armDelta_uncaught.mpr he)
  obtain ⟨left', hleft'⟩ := hother .left left hleft
  obtain ⟨right', hright'⟩ := hother .right right hright
  refine ⟨_, by simp only [bodyDeltas, handled_eq_ok.mpr hw, hleft', hright', bind, Except.bind]; rfl, ?_⟩
  have hr' := handled_eq_ok.mpr hr
  cases side with
  | left => exact Except.ok.inj (hleft'.symm.trans hr')
  | right => exact Except.ok.inj (hright'.symm.trans hr')

end

/-! ## What holds of every sequence of calls -/

theorem windowNs_nonneg {o : Observation} {w : PolicyWindow} (hw : policyWindow cfg o = .ok w) : 0 ≤ w.windowNs := by
  obtain ⟨stamp, -, hw⟩ := except_bind_ok hw
  cases hdt : o.policyDtSec with
  | fin dt =>
    rw [hdt] at hw
    dsimp only at hw
    by_cases hpos : dt ≤ 0
    · simp [hpos] at hw
    rw [if_neg hpos] at hw
    obtain ⟨u, -, hw⟩ := except_bind_ok hw
    split_ifs at hw
    cases hw
    rw [not_le] at hpos
    exact Binary64.roundHalfEven_nonneg (by positivity)
  | nan => simp [hdt] at hw
  | negInf => simp [hdt] at hw
  | posInf => simp [hdt] at hw

/-- The samples of an arm are one uninterrupted run of packets in order, delayed packets change nothing, and a valid
result of `bodyDeltas` is computed from three samples of that run inside its window and stays while they do. -/
theorem history_uninterrupted_and_causal (np : Numerics) (cfg : Config) (ps : List Packet) (side : Arm) :
    ((History.after np cfg ps).samples side).Pairwise (fun a b => a.time < b.time) ∧
    (∀ a ∈ (History.after np cfg ps).samples side, ∀ b ∈ (History.after np cfg ps).samples side,
      a.motionEpoch = b.motionEpoch ∧ a.referenceEpoch = b.referenceEpoch) ∧
    (∀ a ∈ (History.after np cfg ps).samples side,
      Runs.Since (RecordedAt np cfg side a) (InterruptedAt np cfg side a) ps) ∧
    (∀ p, Delayed (.after np cfg ps) p →
      (History.after np cfg ps).record np cfg p = (.after np cfg ps, .returned false)) ∧
    ∀ o d r, bodyDeltas np cfg (.after np cfg ps) o = .ok d → d side = .ok r →
      ∃ w p s e, policyWindow cfg o = .ok w ∧
        WindowSamples np w (upTo (.after np cfg ps) w side) p s e r ∧
        (∀ x ∈ [p, s, e], x ∈ (History.after np cfg ps).samples side ∧ w.start - w.windowNs ≤ x.time ∧
          x.time ≤ w.stamp.time ∧ x.motionEpoch = w.stamp.motion ∧ x.referenceEpoch = r.referenceResetCount) ∧
        ∀ qs, (∀ x ∈ [p, s, e], x ∈ (History.after np cfg (ps ++ qs)).samples side) →
          ∃ d', bodyDeltas np cfg (.after np cfg (ps ++ qs)) o = .ok d' ∧ d' side = .ok r := by
  have hord := ordered_after np cfg ps side
  refine ⟨hord.increasing, ?_, unbroken_after np cfg ps side, fun p => record_delayed np cfg, ?_⟩
  · intro a ha b hb
    exact ⟨Option.some.inj ((hord.motion a ha).symm.trans (hord.motion b hb)),
      Option.some.inj ((hord.reference a ha).symm.trans (hord.reference b hb))⟩
  · intro o d r hd hr
    obtain ⟨w, hw, harm⟩ := bodyDeltas_arm hd hr
    obtain ⟨p, s, e, ws⟩ := armDelta_samples hord harm
    have hnonneg := windowNs_nonneg hw
    obtain ⟨hp, hs, hpr, hpt, hst⟩ := ws.start.range hnonneg
    obtain ⟨-, -, -, hepochs, -⟩ := armDelta_iff.mp harm
    refine ⟨w, p, s, e, hw, ws, ?_, ?_⟩
    · -- each of the three is a sample up to the observation, and not before the window of the start
      have hrange : ∀ x ∈ [p, s, e], x ∈ upTo (.after np cfg ps) w side ∧ w.start - w.windowNs ≤ x.time := by
        have hobs := ws.observation
        have hstart : w.start = w.stamp.time - w.windowNs := rfl
        simp only [List.mem_cons, List.not_mem_nil, or_false, forall_eq_or_imp, forall_eq]
        exact ⟨⟨hp, hpr⟩, ⟨hs, by omega⟩, hobs.1, by omega⟩
      intro x hx
      obtain ⟨hxs, hxr⟩ := hrange x hx
      obtain ⟨hxm, hxt⟩ := mem_upTo.mp hxs
      exact ⟨hxm, hxr, hxt, hepochs x hxs⟩
    · intro qs hqs
      have hord' := ordered_after np cfg (ps ++ qs) side
      have hext := extends_after np cfg ps qs side
      exact bodyDeltas_transfer hd hw (armDelta_persists hord hord' hext harm ws (hqs p (by simp)) (hqs s (by simp))
        (hqs e (by simp)))

/-! ## Packets that break it -/

/-- `np.asarray` of a flat list of numbers, and rotations about no axis. -/
def sampleNumerics : Numerics where
  asarray := fun v => match v with
    | .arr elems => do
      let values ← elems.mapM (Json.pyFloat .plain)
      return ([values.length], values)
    | _ => .error .typeError
  norm := fun q => (q.map fun x => x.mul x).foldl Double.add (.fin 0)
  divide := fun q _ => q
  slerp := fun _ q _ => q
  bodyDelta := fun p q => List.zipWith Double.sub (q.take 3) (p.take 3) ++ List.replicate 3 (.fin 0)

def sampleConfig : Config := ⟨1 / 2, 2048, by norm_num, by norm_num⟩

def armState (x : Json) : Json :=
  .obj [("tcp_command_stand", .obj [("x", x), ("y", .numFloat (.fin 0)), ("z", .numFloat (.fin 0)),
      ("quaternion_xyzw", .arr [.numFloat (.fin 0), .numFloat (.fin 0), .numFloat (.fin 0), .numFloat (.fin 1)])]),
    ("force_control", .obj [("reference_reset_count", .numUnsigned 0)])]

/-- A server packet at `ns`, received at that time, with the commanded `x` of both arms. -/
def samplePacket (ns tick : ℕ) (fault : Bool) (x : ℚ) (host : Bool) : Packet where
  payload := .obj [("loop_start_time_ns", .numUnsigned ns), ("tick", .numUnsigned tick),
    ("motion_epoch", .numUnsigned 1), ("fault_latched", .bool fault), ("left", armState (.numFloat (.fin x))),
    ("right", armState (.numFloat (.fin x)))]
  receivedMonotonic := .fin (ns / 1000000000)
  sameHostClock := host

theorem observationStamp_samplePacket {ns tick : ℕ} {fault host : Bool} {x : ℚ} (hns : 0 < ns) :
    observationStamp (samplePacket ns tick fault x host).payload = .ok ⟨ns, tick, 1⟩ := by
  have hpos : ¬ ns < 1 := by omega
  simp [observationStamp, samplePacket, Json.Object.getD, List.lookup_cons, unsigned, hpos, bind, Except.bind, pure,
    Except.pure]

def firstPacket : Packet := samplePacket 10000000000 1 false 0 true

/-- A stamp that no float holds, in a packet of a faulted server. -/
def hugePacket : Packet := samplePacket (10 ^ 200 * 10 ^ 200) 2 true 0 true

def lastPacket : Packet := samplePacket 10000000020 3 false 1 true

-- the window of 20 ns between the two packets
example : (bodyDeltas sampleNumerics sampleConfig (.after sampleNumerics sampleConfig [firstPacket, lastPacket])
    ⟨lastPacket.payload, .fin (20 / 1000000000), lastPacket.receivedMonotonic, 0⟩).toOption.map (·.out .left) =
      some [.fin 1, .fin 0, .fin 0, .fin 0, .fin 0, .fin 0] := by
  decide +kernel

/-- A packet with a valid stamp that is not above the latest one changes nothing. -/
def DelayedInert (np : Numerics) (cfg : Config) (ps : List Packet) : Prop :=
  ∀ p at_, observationStamp p.payload = .ok at_ → at_.time ≤ (History.after np cfg ps).latestTimeNs →
    ((History.after np cfg ps).record np cfg p).1 = .after np cfg ps

/-- Since a sample was recorded, no packet interrupted. -/
def NeverBridged (np : Numerics) (cfg : Config) (ps : List Packet) : Prop :=
  ∀ side, ∀ a ∈ (History.after np cfg ps).samples side, Runs.Since (RecordedAt np cfg side a)
    (fun pre p => Interrupts np cfg (.after np cfg pre) p side a) ps

/-- A delayed remote packet clears the history, and a call that raises on a huge stamp leaves samples on both sides of
a fault. -/
theorem remote_clears_and_huge_stamp_bridges :
    ¬ DelayedInert sampleNumerics sampleConfig [firstPacket] ∧
    ¬ NeverBridged sampleNumerics sampleConfig [firstPacket, hugePacket, lastPacket] := by
  constructor
  · intro h
    have hsame := h { firstPacket with sameHostClock := false } ⟨10000000000, 1, 1⟩ rfl (by decide +kernel)
    have hleft := congrArg (fun h => (h.samples .left).length) hsame
    exact absurd hleft (by decide +kernel)
  · intro h
    have hpos : 0 < 10 ^ 200 * 10 ^ 200 := by decide
    have hhuge : observationStamp hugePacket.payload = .ok ⟨10 ^ 200 * 10 ^ 200, 2, 1⟩ := by
      rw [hugePacket, observationStamp_samplePacket hpos]
    have hlast : observationStamp lastPacket.payload = .ok ⟨10000000020, 3, 1⟩ := rfl
    obtain ⟨pre, x, post, e, hrec, hevery⟩ := h .left ⟨10000000000, 1, 1, 0,
      [.fin 0, .fin 0, .fin 0, .fin 0, .fin 0, .fin 0, .fin 1]⟩ (by decide +kernel)
    have hstamp := hrec.stamp
    rcases pre with _ | ⟨y, _ | ⟨z, _ | ⟨u, pre⟩⟩⟩
    · -- recorded by the first packet: the second interrupts
      obtain ⟨rfl, rfl⟩ := List.cons.inj e
      refine hevery [] hugePacket [lastPacket] rfl (.inr ?_)
      rw [hhuge]
      exact ⟨by decide +kernel, .inr (.inr (.inr (.inl rfl)))⟩
    · simp only [List.cons_append, List.nil_append, List.cons.injEq] at e
      obtain ⟨rfl, rfl, rfl⟩ := e
      rw [hhuge] at hstamp
      exact absurd (congrArg (fun s => s.toOption.map Stamp.time) hstamp) (by decide +kernel)
    · simp only [List.cons_append, List.nil_append, List.cons.injEq] at e
      obtain ⟨rfl, rfl, rfl, rfl⟩ := e
      rw [hlast] at hstamp
      exact absurd (congrArg (fun s => s.toOption.map Stamp.time) hstamp) (by decide +kernel)
    · simp at e

end PolicyRunner.ServoHistory
