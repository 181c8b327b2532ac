import RoboticsLab.ServoHistory.RecordSteps

/-!
# One uninterrupted run of packets

The samples of an arm are in order and of one motion and one reference epoch (`Ordered`), and since the packet of each
of them no call that returned was interrupted (`Unbroken`): the samples are one run of packets.  Later calls drop
samples from the front, all of them at an interruption, and append samples that are newer than the latest packet
(`Extends`).

    Ordered (.after np cfg ps) ∧ ∀ a ∈ samples side, Since (recorded as a) (interrupted) ps
                                                                    (ordered_after, unbroken_after)
-/

namespace PolicyRunner.ServoHistory

variable {np : Numerics} {cfg : Config} {h h' : History} {p : Packet} {side : Arm} {a : Sample} {out : Outcome}
variable {ps : List Packet}

theorem after_concat (np : Numerics) (cfg : Config) (ps : List Packet) (p : Packet) :
    History.after np cfg (ps ++ [p]) = ((History.after np cfg ps).record np cfg p).1 := by
  simp [History.after]

/-! ## Order and epochs -/

/-- The samples are in order, not above the latest stamp and of the epochs of the history. -/
structure Ordered (h : History) (side : Arm) : Prop where
  increasing : (h.samples side).Pairwise fun a b => a.time < b.time
  latest : ∀ a ∈ h.samples side, a.time ≤ h.latestTimeNs
  motion : ∀ a ∈ h.samples side, h.motionEpoch = some a.motionEpoch
  reference : ∀ a ∈ h.samples side, h.referenceEpoch side = some a.referenceEpoch

theorem Ordered.of_nil (hs : h.samples side = []) : Ordered h side := by
  constructor <;> simp [hs]

/-- A sample that is newer than the samples kept, of the same epochs. -/
theorem Ordered.push {kept : List Sample} (o : Ordered h side) (newer : h.latestTimeNs < a.time)
    (hkept : kept = [] ∨ (kept = h.samples side ∧ h.motionEpoch = some a.motionEpoch ∧
      h.referenceEpoch side = some a.referenceEpoch)) (hs : h'.samples side = Fifo.push cfg.maxlen kept a)
    (href : h'.referenceEpoch side = some a.referenceEpoch) (hmot : h'.motionEpoch = some a.motionEpoch)
    (hlat : h'.latestTimeNs = a.time) : Ordered h' side := by
  obtain ⟨k, hk⟩ := Fifo.push_eq_drop cfg.maxlen kept a
  rw [hk] at hs
  have hold : ∀ b ∈ kept.drop k, b ∈ h.samples side ∧ b.motionEpoch = a.motionEpoch ∧
      b.referenceEpoch = a.referenceEpoch := by
    intro b hb
    have hbk := List.mem_of_mem_drop hb
    obtain rfl | ⟨rfl, hm, hr⟩ := hkept
    · simp at hbk
    · refine ⟨hbk, ?_, ?_⟩
      · exact Option.some.inj ((o.motion b hbk).symm.trans hm)
      · exact Option.some.inj ((o.reference b hbk).symm.trans hr)
  have hmem : ∀ b ∈ h'.samples side, b ∈ kept.drop k ∨ b = a := by
    intro b hb
    rw [hs] at hb
    simpa using hb
  constructor
  · rw [hs, List.pairwise_append]
    refine ⟨?_, by simp, ?_⟩
    · obtain rfl | ⟨rfl, -⟩ := hkept
      · simp
      · exact o.increasing.drop
    · intro b hb c hc
      have hbl := o.latest b (hold b hb).1
      rw [List.mem_singleton.mp hc]
      omega
  · intro b hb
    obtain hb | rfl := hmem b hb
    · have hbl := o.latest b (hold b hb).1
      omega
    · exact hlat.ge
  · intro b hb
    obtain hb | rfl := hmem b hb
    · rw [hmot, (hold b hb).2.1]
    · exact hmot
  · intro b hb
    obtain hb | rfl := hmem b hb
    · rw [href, (hold b hb).2.2]
    · exact href

/-- **One step.** -/
theorem Ordered.step (o : Ordered h side) (s : ArmStep np cfg h p side h' out) : Ordered h' side := by
  cases s with
  | delayed _ heq => rw [heq]; exact o
  | cleared hs _ => exact .of_nil hs
  | raised _ hs hr hm hl =>
    constructor
    · rw [hs]; exact o.increasing
    · intro a ha
      rw [hs] at ha
      exact (o.latest a ha).trans hl
    · intro a ha
      rw [hs] at ha
      exact hm.trans (o.motion a ha)
    · intro a ha
      rw [hs] at ha
      exact hr.trans (o.reference a ha)
  | appended r hkept hs hr hm hl =>
    refine o.push r.newer ?_ hs hr hm hl
    obtain hnil | ⟨hk, -, hmo, hre⟩ := hkept
    · exact .inl hnil
    · exact .inr ⟨hk, hmo, hre⟩

/-- **Whole runs.** -/
theorem ordered_after (np : Numerics) (cfg : Config) (ps : List Packet) (side : Arm) :
    Ordered (.after np cfg ps) side := by
  induction ps using List.reverseRecOn with
  | nil => exact .of_nil rfl
  | append_singleton ps p ih =>
    rw [after_concat]
    exact ih.step (record_arm np cfg _ p side)

/-! ## No interruption -/

/-- The call after `pre` recorded the sample `a` of the arm. -/
def RecordedAt (np : Numerics) (cfg : Config) (side : Arm) (a : Sample) (pre : List Packet) (p : Packet) : Prop :=
  Records np cfg (.after np cfg pre) p side a

/-- The call after `pre` returned, and its packet interrupts the samples of the epochs of `a`. -/
def InterruptedAt (np : Numerics) (cfg : Config) (side : Arm) (a : Sample) (pre : List Packet) (p : Packet) : Prop :=
  (∀ e, ((History.after np cfg pre).record np cfg p).2 ≠ .raised e) ∧
    Interrupts np cfg (.after np cfg pre) p side a

/-- **Whole runs.**  Since each sample was recorded, no call interrupted. -/
theorem unbroken_after (np : Numerics) (cfg : Config) (ps : List Packet) (side : Arm) :
    ∀ a ∈ (History.after np cfg ps).samples side,
      Runs.Since (RecordedAt np cfg side a) (InterruptedAt np cfg side a) ps := by
  induction ps using List.reverseRecOn with
  | nil => intro a ha; simp [History.after, History.init] at ha
  | append_singleton ps p ih =>
    have hord := ordered_after np cfg ps side
    intro a ha
    rw [after_concat] at ha
    rw [Runs.since_concat]
    have hstep := record_arm np cfg (.after np cfg ps) p side
    unfold RecordedAt InterruptedAt
    generalize (History.after np cfg ps).record np cfg p = r at ha hstep
    cases hstep with
    | delayed d heq =>
      rw [heq] at ha
      exact .inr ⟨ih a ha, fun hi => d.not_interrupts hi.2⟩
    | cleared hs _ =>
      rw [hs] at ha
      simp at ha
    | raised ho hs _ _ _ =>
      rw [hs] at ha
      exact .inr ⟨ih a ha, fun hi => hi.1 _ ho⟩
    | @appended b kept rec hkept hs _ _ _ =>
      obtain ⟨k, hk⟩ := Fifo.push_eq_drop cfg.maxlen kept b
      rw [hs, hk, List.mem_append, List.mem_singleton] at ha
      obtain ha | rfl := ha
      · have hak := List.mem_of_mem_drop ha
        obtain rfl | ⟨rfl, htick, hm, hr⟩ := hkept
        · simp at hak
        · refine .inr ⟨ih a hak, fun hi => rec.not_interrupts htick ?_ ?_ hi.2⟩
          · exact Option.some.inj (hm.symm.trans (hord.motion a hak))
          · exact Option.some.inj (hr.symm.trans (hord.reference a hak))
      · exact .inl rec

/-! ## Later calls -/

/-- What `h'` has of the arm is from `h` or newer than all that `h` saw. -/
def Extends (h h' : History) (side : Arm) : Prop :=
  h.latestTimeNs ≤ h'.latestTimeNs ∧ ∀ a ∈ h'.samples side, a ∈ h.samples side ∨ h.latestTimeNs < a.time

theorem Extends.step {h₀ : History} (ext : Extends h₀ h side) (s : ArmStep np cfg h p side h' out) :
    Extends h₀ h' side := by
  obtain ⟨hlat, hmem⟩ := ext
  cases s with
  | delayed _ heq => rw [heq]; exact ⟨hlat, hmem⟩
  | cleared hs hl => exact ⟨hlat.trans hl, by simp [hs]⟩
  | raised _ hs _ _ hl => exact ⟨hlat.trans hl, by rw [hs]; exact hmem⟩
  | @appended b kept rec hkept hs _ _ hl =>
    have hnew := rec.newer
    refine ⟨by omega, ?_⟩
    intro a ha
    obtain ⟨k, hk⟩ := Fifo.push_eq_drop cfg.maxlen kept b
    rw [hs, hk, List.mem_append, List.mem_singleton] at ha
    obtain ha | rfl := ha
    · have hak := List.mem_of_mem_drop ha
      obtain rfl | ⟨rfl, -⟩ := hkept
      · simp at hak
      · exact hmem a hak
    · exact .inr (by omega)

theorem extends_after (np : Numerics) (cfg : Config) (ps qs : List Packet) (side : Arm) :
    Extends (.after np cfg ps) (.after np cfg (ps ++ qs)) side := by
  induction qs using List.reverseRecOn with
  | nil => rw [List.append_nil]; exact ⟨le_rfl, fun a ha => .inl ha⟩
  | append_singleton qs q ih =>
    rw [← List.append_assoc, after_concat]
    exact ih.step (record_arm np cfg _ q side)

/-- A delayed packet changes nothing. -/
theorem record_delayed (np : Numerics) (cfg : Config) (d : Delayed h p) :
    h.record np cfg p = (h, .returned false) := by
  obtain ⟨hhost, at_, hstamp, hle⟩ := d
  simp [History.record, hhost, hstamp, hle]

end PolicyRunner.ServoHistory
