import RoboticsLab.Gripper.GripperServer

/-!
# Stale setpoints are held

Under `on_stale = hold` the target of an arm is the last setpoint any packet brought for it, whether it is fresh or
stale and whether the deadman is engaged: `cmdTarget` is the whole of the stale policy.  What contact-close makes of it
is a function of its state for the arm (`driven`), and the last value sent is always that function of the present
state.  So a stretch of steps that bring no setpoint for the arm repeats the last value, once contact-close is not
searching (`Quiet`).

    steps py cfg .init xs = .ok (s, sent) →
      s.cmdTarget arm = lastSetpoint py xs arm ∧ lastSent sent arm = driven cfg s arm          (Held.of_steps)
-/

namespace PolicyRunner.Gripper

/-- The valid setpoint a packet brings for the arm. -/
def setpoint (py : PyText) (arm : Arm) (data : Option Json) : Option Double :=
  match parseCommand py data with
  | .ok (some msg) => msg.arms arm
  | _ => none

/-- The setpoints that the packets of a step bring for the arm, in order. -/
def setpoints (py : PyText) (arm : Arm) (x : StepInput) : List Double := x.packets.filterMap (setpoint py arm)

/-- The last valid setpoint received for the arm. -/
def lastSetpoint (py : PyText) (xs : List StepInput) (arm : Arm) : Option Double :=
  (xs.flatMap (setpoints py arm)).getLast?

/-- The last value sent to the backend for the arm. -/
def lastSent (sent : List Targets) (arm : Arm) : Option Double := (sent.filterMap (· arm)).getLast?

/-! ## The packets of a step -/

section
variable {py : PyText} {now : Double} {s s' : GripperServer} {arm : Arm}

theorem applyCommand_ok {msg : GripperMsg} (h : applyCommand py s msg now = .ok s') :
    s'.cmdTarget = (fun arm => (msg.arms arm).or (s.cmdTarget arm)) ∧ s'.contact = s.contact := by
  unfold applyCommand at h
  cases hn : msg.hostTimeNs with
  | none =>
    simp only [hn, pure, Except.pure, Except.ok.injEq] at h
    subst h
    exact ⟨rfl, rfl⟩
  | some ns =>
    simp only [hn] at h
    obtain ⟨d, -, h⟩ := except_bind_ok h
    cases h
    exact ⟨rfl, rfl⟩

/-- **One packet.**  Its setpoint replaces the arm's target, and contact-close is not touched. -/
theorem receive_ok {data : Option Json} (h : receive py now s data = .ok s') :
    s'.cmdTarget arm = (setpoint py arm data).or (s.cmdTarget arm) ∧ s'.contact = s.contact := by
  obtain ⟨msg, hp, h⟩ := except_bind_ok h
  cases msg with
  | none =>
    cases h
    exact ⟨by simp [setpoint, hp], rfl⟩
  | some msg =>
    obtain ⟨ht, hc⟩ := applyCommand_ok h
    exact ⟨by simp [setpoint, hp, ht], hc⟩

/-- **All packets.**  The last of their setpoints is the target. -/
theorem drainCommands_ok {packets : List (Option Json)} (h : drainCommands py s packets now = .ok s') :
    s'.cmdTarget arm = ((packets.filterMap (setpoint py arm)).getLast?).or (s.cmdTarget arm) ∧
      s'.contact = s.contact := by
  unfold drainCommands at h
  induction packets generalizing s with
  | nil =>
    simp only [List.foldlM_nil, pure, Except.pure, Except.ok.injEq] at h
    subst h
    exact ⟨by simp, rfl⟩
  | cons data packets ih =>
    rw [List.foldlM_cons] at h
    obtain ⟨s₁, hr, h⟩ := except_bind_ok h
    obtain ⟨ht, hc⟩ := ih h
    obtain ⟨ht₁, hc₁⟩ := receive_ok hr
    refine ⟨?_, hc.trans hc₁⟩
    rw [ht, ht₁]
    cases hd : setpoint py arm data with
    | none => simp [hd]
    | some d =>
      rw [List.filterMap_cons_some hd, ← List.singleton_append, List.getLast?_append]
      simp

end

/-! ## Contact close on a held command -/

section
variable {cfg : ContactCloseConfig}

/-- What contact-close drives for the command `cmd` in the state `c`, as it left it. -/
def ContactArm.driven (cfg : ContactCloseConfig) (c : ContactArm) (cmd : Double) : Double :=
  if cfg.enable ∧ c.state ≠ .idle then c.drive cmd else cmd

/-- Contact-close is off, or leaves the command `cmd` alone, or has concluded its search. -/
def ContactArm.Quiet (cfg : ContactCloseConfig) (c : ContactArm) (cmd : Double) : Prop :=
  cfg.enable = false ∨ (c.state = .idle ∧ cfg.armBelowMm.lt cmd) ∨
    ((c.state = .holding ∨ c.state = .empty) ∧ (cfg.armBelowMm.add cfg.releaseHysteresisMm).lt cmd = false)

/-- A command passes through untouched exactly where it leaves the search idle. -/
theorem ContactArm.enter_idle (c : ContactArm) (cfg : ContactCloseConfig) (cmd : Double) :
    (c.enter cfg cmd).1.state = .idle ↔ (c.enter cfg cmd).2 = false := by
  unfold ContactArm.enter
  by_cases hi : c.state = .idle
  · by_cases ha : cfg.armBelowMm.lt cmd
    · simp [hi, ha]
    · simp [hi, ha]
  · by_cases hr : (cfg.armBelowMm.add cfg.releaseHysteresisMm).lt cmd
    · simp [hi, hr, ContactArm.reset]
    · simp [hi, hr]

theorem ContactArm.search_ne_idle (dt : Double) (measured currentMa : Option Double) {c : ContactArm}
    (h : c.state = .seeking) : (c.search cfg dt measured currentMa).state ≠ .idle := by
  unfold ContactArm.search
  dsimp only
  split_ifs <;> simp [h]

/-- A pass sends the value driven of the state it leaves. -/
theorem ContactArm.apply_driven (en : cfg.enable = true) (dt : Double) (measured currentMa : Option Double)
    (c : ContactArm) (cmd : Double) :
    (c.apply cfg dt measured currentMa (some cmd)).2 =
      some ((c.apply cfg dt measured currentMa (some cmd)).1.driven cfg cmd) := by
  have hidle := c.enter_idle cfg cmd
  unfold ContactArm.apply
  dsimp only
  by_cases hin : (c.enter cfg cmd).2 = true
  · have hne : (c.enter cfg cmd).1.state ≠ .idle := by
      intro hi
      rw [hidle.mp hi] at hin
      cases hin
    by_cases hs : (c.enter cfg cmd).1.state = .seeking
    · simp [hin, hs, ContactArm.driven, en, ContactArm.search_ne_idle dt measured currentMa hs]
    · simp [hin, hs, ContactArm.driven, en, hne]
  · have hout : (c.enter cfg cmd).2 = false := Bool.not_eq_true _ ▸ hin
    simp [hout, ContactArm.driven, hidle.mpr hout]

/-- **Quiet passes.**  The state stays, and with it the value driven. -/
theorem ContactArm.apply_quiet (en : cfg.enable = true) (dt : Double) (measured currentMa : Option Double)
    {c : ContactArm} {cmd : Double} (q : c.Quiet cfg cmd) :
    c.apply cfg dt measured currentMa (some cmd) = (c, some (c.driven cfg cmd)) := by
  obtain q | ⟨hi, ha⟩ | ⟨hc, hr⟩ := q
  · rw [en] at q
    cases q
  · simp [ContactArm.apply, ContactArm.enter, ContactArm.driven, hi, ha]
  · have hne : c.state ≠ .idle ∧ c.state ≠ .seeking := by
      obtain h | h := hc
      · rw [h]; exact ⟨ContactState.noConfusion, ContactState.noConfusion⟩
      · rw [h]; exact ⟨ContactState.noConfusion, ContactState.noConfusion⟩
    simp [ContactArm.apply, ContactArm.enter, ContactArm.driven, hne, hr, en]

/-- Contact-close only ever closes: the value driven is at most the command. -/
theorem ContactArm.driven_le (c : ContactArm) {cmd : Double} (fin : cmd.isFinite) : (c.driven cfg cmd).le cmd := by
  have hself : cmd.le cmd := by
    cases cmd with
    | fin q => simp [Double.le, Double.lt]
    | nan => cases fin
    | negInf => cases fin
    | posInf => cases fin
  have hmin : ∀ t, (cmd.min t).le cmd := by
    intro t
    unfold Double.min
    split_ifs with hlt
    · exact Double.le_of_lt hlt
    · exact hself
  unfold ContactArm.driven ContactArm.drive
  split_ifs
  · cases c.latched with
    | none => exact hself
    | some t => exact hmin t
  · exact hmin c.seek
  · exact hself

end

/-! ## One step -/

section
variable {py : PyText} {cfg : GripperServerConfig} {s s' : GripperServer} {x : StepInput} {drive : Targets} {arm : Arm}

/-- What contact-close drives for the arm's held setpoint. -/
def driven (cfg : GripperServerConfig) (s : GripperServer) (arm : Arm) : Option Double :=
  (s.cmdTarget arm).map ((s.contact.arms arm).driven cfg.contactClose)

/-- Contact-close is not searching, and the arm's setpoint neither starts a search nor ends a grip. -/
def GripperServer.Quiet (cfg : GripperServerConfig) (s : GripperServer) (arm : Arm) : Prop :=
  ∀ cmd ∈ s.cmdTarget arm, (s.contact.arms arm).Quiet cfg.contactClose cmd

theorem effectiveTargets_hold (hold : cfg.onStale = .hold) (s : GripperServer) (now : Double) :
    effectiveTargets cfg s now = s.cmdTarget := by
  ext1 arm
  unfold effectiveTargets
  split_ifs
  · rfl
  · rw [hold]

/-- The parts of a step that returned. -/
theorem step_parts (hold : cfg.onStale = .hold) (h : step py cfg s x = .ok (s', drive)) (arm : Arm) :
    ∃ t : GripperServer, (t.cmdTarget arm = ((setpoints py arm x).getLast?).or (s.cmdTarget arm) ∧
        t.contact = s.contact) ∧
      s' = { t with contact := (s.contact.apply cfg.contactClose t.cmdTarget x.measured x.currentMa x.now).1 } ∧
      drive = (s.contact.apply cfg.contactClose t.cmdTarget x.measured x.currentMa x.now).2 := by
  obtain ⟨t, hd, h⟩ := except_bind_ok h
  obtain ⟨ht, hc⟩ := drainCommands_ok hd
  rw [effectiveTargets_hold hold, hc] at h
  simp only [pure, Except.pure, Except.ok.injEq, Prod.mk.injEq] at h
  exact ⟨t, ⟨ht, hc⟩, h.1.symm, h.2.symm⟩

/-- **One step.**  The last setpoint becomes the target, and what is sent is what contact-close drives for it. -/
theorem step_sends (hold : cfg.onStale = .hold) (h : step py cfg s x = .ok (s', drive)) (arm : Arm) :
    s'.cmdTarget arm = ((setpoints py arm x).getLast?).or (s.cmdTarget arm) ∧ drive arm = driven cfg s' arm := by
  obtain ⟨t, ⟨ht, -⟩, rfl, rfl⟩ := step_parts hold h arm
  refine ⟨ht, ?_⟩
  unfold driven ContactClose.apply
  dsimp only
  cases en : cfg.contactClose.enable with
  | false =>
    cases hcmd : t.cmdTarget arm with
    | none => simp [hcmd]
    | some cmd => simp [hcmd, ContactArm.driven, en]
  | true =>
    cases hcmd : t.cmdTarget arm with
    | none => simp [hcmd, ContactArm.apply]
    | some cmd => simpa [hcmd] using ContactArm.apply_driven en _ _ _ _ cmd

/-- **Quiet steps.**  Without a setpoint for the arm, a quiet arm stays quiet and what is driven stays. -/
theorem step_quiet (hold : cfg.onStale = .hold) (h : step py cfg s x = .ok (s', drive)) (hx : setpoints py arm x = [])
    (q : s.Quiet cfg arm) : s'.Quiet cfg arm ∧ driven cfg s' arm = driven cfg s arm := by
  obtain ⟨t, ⟨ht, -⟩, rfl, -⟩ := step_parts hold h arm
  rw [hx] at ht
  simp only [List.getLast?_nil, Option.none_or] at ht
  unfold GripperServer.Quiet driven ContactClose.apply at *
  dsimp only
  rw [ht]
  cases hcmd : s.cmdTarget arm with
  | none => simp
  | some cmd =>
    have hq := q cmd hcmd
    cases en : cfg.contactClose.enable with
    | false => simpa [en] using hq
    | true => simpa [ht, hcmd, ContactArm.apply_quiet en _ _ _ hq] using hq

end

/-! ## Valid setpoints -/

theorem parseArmBlock_finite {py : PyText} {block : Json} {p : Double} (h : parseArmBlock py block = .ok (some p)) :
    p.isFinite := by
  unfold parseArmBlock at h
  split at h
  · split_ifs at h with hv
    · cases h
    split at h
    · split_ifs at h with hf
      rename_i pct _
      cases h
      cases pct with
      | fin q =>
        unfold Double.max Double.min
        split_ifs <;> rfl
      | nan => cases hf
      | negInf => cases hf
      | posInf => cases hf
      · cases h
    · cases h
    · cases h
  · cases h

/-- A valid setpoint is a number. -/
theorem setpoint_finite {py : PyText} {arm : Arm} {data : Option Json} {p : Double}
    (h : setpoint py arm data = some p) :
    p.isFinite := by
  unfold setpoint at h
  split at h
  · rename_i msg hmsg
    unfold parseCommand at hmsg
    split at hmsg
    · split at hmsg
      · split_ifs at hmsg
        · obtain ⟨left, hl, hmsg⟩ := except_bind_ok hmsg
          obtain ⟨right, hr, hmsg⟩ := except_bind_ok hmsg
          cases hmsg
          cases arm with
          | left => exact parseArmBlock_finite (hl.trans (congrArg Except.ok h))
          | right => exact parseArmBlock_finite (hr.trans (congrArg Except.ok h))
        · cases hmsg
      · cases hmsg
    · cases hmsg
  · cases h

theorem lastSetpoint_finite {py : PyText} {xs : List StepInput} {arm : Arm} {p : Double}
    (h : lastSetpoint py xs arm = some p) : p.isFinite := by
  have hp := List.mem_of_getLast? h
  simp only [List.mem_flatMap, setpoints, List.mem_filterMap] at hp
  obtain ⟨x, -, data, -, hd⟩ := hp
  exact setpoint_finite hd

/-! ## Runs -/

section
variable {py : PyText} {cfg : GripperServerConfig} {s s' : GripperServer} {sent more : List Targets} {arm : Arm}
variable {xs ys : List StepInput}

/-- After the steps `xs`, which sent `sent`: the setpoint held is the last one received, and the last value sent is
what contact-close drives for it. -/
structure Held (py : PyText) (cfg : GripperServerConfig) (xs : List StepInput) (sent : List Targets)
    (s : GripperServer) (arm : Arm) : Prop where
  target : s.cmdTarget arm = lastSetpoint py xs arm
  value : lastSent sent arm = driven cfg s arm

theorem lastSetpoint_concat (py : PyText) (xs : List StepInput) (x : StepInput) (arm : Arm) :
    lastSetpoint py (xs ++ [x]) arm = ((setpoints py arm x).getLast?).or (lastSetpoint py xs arm) := by
  simp [lastSetpoint, List.flatMap_append, List.getLast?_append]

theorem lastSent_concat (sent : List Targets) (drive : Targets) (arm : Arm) :
    lastSent (sent ++ [drive]) arm = (drive arm).or (lastSent sent arm) := by
  unfold lastSent
  cases hd : drive arm <;> simp [List.filterMap_append, List.getLast?_append, hd]

theorem Held.init (py : PyText) (cfg : GripperServerConfig) (arm : Arm) : Held py cfg [] [] .init arm := ⟨rfl, rfl⟩

theorem Held.step {x : StepInput} {drive : Targets} (held : Held py cfg xs sent s arm) (hold : cfg.onStale = .hold)
    (h : Gripper.step py cfg s x = .ok (s', drive)) : Held py cfg (xs ++ [x]) (sent ++ [drive]) s' arm := by
  obtain ⟨ht, hd⟩ := step_sends hold h arm
  constructor
  · rw [ht, held.target, lastSetpoint_concat]
  · rw [lastSent_concat, hd]
    cases hcmd : s'.cmdTarget arm with
    | some cmd => simp [driven, hcmd]
    | none =>
      -- an arm without a setpoint had none before, so nothing was sent
      have hbefore : s.cmdTarget arm = none := (Option.or_eq_none_iff.mp (ht.symm.trans hcmd)).2
      simp [driven, hcmd, held.value, hbefore]

/-- **Whole runs.** -/
theorem Held.steps (held : Held py cfg xs sent s arm) (hold : cfg.onStale = .hold)
    (h : Gripper.steps py cfg s ys = .ok (s', more)) : Held py cfg (xs ++ ys) (sent ++ more) s' arm := by
  induction ys generalizing xs sent s more with
  | nil =>
    cases h
    simpa using held
  | cons y ys ih =>
    obtain ⟨⟨s₁, drive⟩, h₁, h⟩ := except_bind_ok h
    obtain ⟨⟨s₂, rest⟩, h₂, h⟩ := except_bind_ok h
    cases h
    simpa using ih (held.step hold h₁) h₂

theorem Held.of_steps (hold : cfg.onStale = .hold) (h : Gripper.steps py cfg .init xs = .ok (s, sent)) (arm : Arm) :
    Held py cfg xs sent s arm := by
  simpa using (Held.init py cfg arm).steps hold h

/-- A quiet arm that receives no setpoint is sent what was driven before. -/
theorem steps_quiet (hold : cfg.onStale = .hold) (q : s.Quiet cfg arm) (hys : ∀ y ∈ ys, setpoints py arm y = [])
    (h : Gripper.steps py cfg s ys = .ok (s', more)) : ∀ drive ∈ more, drive arm = driven cfg s arm := by
  induction ys generalizing s more with
  | nil =>
    cases h
    simp
  | cons y ys ih =>
    obtain ⟨⟨s₁, drive⟩, h₁, h⟩ := except_bind_ok h
    obtain ⟨⟨s₂, rest⟩, h₂, h⟩ := except_bind_ok h
    cases h
    obtain ⟨q₁, hd₁⟩ := step_quiet hold h₁ (hys y (by simp)) q
    intro d hd
    rw [List.mem_cons] at hd
    rw [← hd₁]
    obtain rfl | hd := hd
    · exact (step_sends hold h₁ arm).2
    · exact ih q₁ (fun z hz => hys z (by simp [hz])) h₂ d hd

end

/-! ## What holds of every run -/

/-- Whatever the freshness and the deadman, the target is the last setpoint received; an arm without one is sent
nothing; nothing sent is above it; and a quiet arm is sent the same value until the next setpoint. -/
theorem stale_setpoint_held (py : PyText) (cfg : GripperServerConfig) (hold : cfg.onStale = .hold)
    (xs : List StepInput) (s : GripperServer) (sent : List Targets) (h : steps py cfg .init xs = .ok (s, sent))
    (arm : Arm) :
    (∀ now, effectiveTargets cfg s now arm = lastSetpoint py xs arm) ∧
    (lastSetpoint py xs arm = none → ∀ drive ∈ sent, drive arm = none) ∧
    (∀ v, lastSent sent arm = some v → ∃ p, lastSetpoint py xs arm = some p ∧ v.le p) ∧
    ∀ ys s' more, steps py cfg s ys = .ok (s', more) → (∀ y ∈ ys, setpoints py arm y = []) → s.Quiet cfg arm →
      ∀ drive ∈ more, ∀ v, drive arm = some v → lastSent sent arm = some v := by
  have held := Held.of_steps hold h arm
  refine ⟨?_, ?_, ?_, ?_⟩
  · intro now
    rw [effectiveTargets_hold hold, held.target]
  · intro hnone
    have hsent : lastSent sent arm = none := by
      rw [held.value, driven, held.target, hnone]
      rfl
    intro drive hd
    simp only [lastSent, List.getLast?_eq_none_iff, List.filterMap_eq_nil_iff] at hsent
    exact hsent drive hd
  · intro v hv
    rw [held.value, driven, held.target, Option.map_eq_some_iff] at hv
    obtain ⟨p, hp, rfl⟩ := hv
    exact ⟨p, hp, ContactArm.driven_le _ (lastSetpoint_finite hp)⟩
  · intro ys s' more hys hno q drive hd v hv
    rw [held.value, ← steps_quiet hold q hno hys drive hd]
    exact hv

/-! ## Runs that move the gripper -/

/-- A `gripper_cmd.v1` packet with a setpoint for the left arm. -/
def leftPacket (percent : ℚ) (deadman : Bool) : Option Json :=
  some (.obj [("schema", .str "robotics_lab.gripper_cmd.v1"), ("deadman", .bool deadman),
    ("left", .obj [("percent", .numFloat (.fin percent))])])

def releasePacket : Option Json :=
  some (.obj [("schema", .str "robotics_lab.gripper_cmd.v1"), ("deadman", .bool false)])

/-- A step at `now` with the packets that arrived; the jaws are wide open and draw no current. -/
def quietInput (now : ℚ) (packets : List (Option Json)) : StepInput :=
  ⟨.fin now, packets, fun _ => some (.fin 90), fun _ => some (.fin 0)⟩

def sampleConfig (onStale : OnStale) (contact : Bool) : GripperServerConfig :=
  ⟨.fin (1 / 2), onStale, { ContactCloseConfig.default with enable := contact }⟩

/-- A setpoint of 70, then a stale second and a released deadman: the gripper stays at 70. -/
theorem stale_setpoint_held_sample :
    ∃ s sent s' more, steps .plain (sampleConfig .hold true) .init [quietInput 0 [leftPacket 70 true]] = .ok (s, sent) ∧
      steps .plain (sampleConfig .hold true) s [quietInput 1 [], quietInput 2 [releasePacket]] = .ok (s', more) ∧
      s'.fresh (sampleConfig .hold true) (.fin 2) .left = false ∧
      ∀ drive ∈ more, ∀ v, drive .left = some v → lastSent sent .left = some v := by
  refine ⟨_, _, _, _, rfl, rfl, by decide +kernel, ?_⟩
  refine (stale_setpoint_held .plain (sampleConfig .hold true) rfl [quietInput 0 [leftPacket 70 true]] _ _ rfl .left
    ).2.2.2 [quietInput 1 [], quietInput 2 [releasePacket]] _ _ rfl (by decide +kernel) ?_
  intro cmd hcmd
  exact .inr (.inl ⟨by decide +kernel, by revert hcmd; revert cmd; decide +kernel⟩)

/-- At a step that finds the arm stale or the deadman released, the value sent is the last one sent. -/
def HoldsWhileStale (py : PyText) (cfg : GripperServerConfig) (xs : List StepInput) : Prop :=
  ∀ pre x post s sent s' drive, xs = pre ++ x :: post → steps py cfg .init pre = .ok (s, sent) →
    step py cfg s x = .ok (s', drive) → ∀ arm, s'.fresh cfg x.now arm = false →
      ∀ v w, drive arm = some v → lastSent sent arm = some w → v = w

/-- An arm that received no valid setpoint is sent nothing. -/
def SilentUncommanded (py : PyText) (cfg : GripperServerConfig) (xs : List StepInput) : Prop :=
  ∀ s sent, steps py cfg .init xs = .ok (s, sent) → ∀ arm, lastSetpoint py xs arm = none →
    ∀ drive ∈ sent, drive arm = none

/-- A packet with the deadman released moves the gripper, a stale command keeps creeping closed under contact-close,
and `on_stale: open` drives an arm that was never commanded. -/
theorem stale_gripper_moves :
    ¬ HoldsWhileStale .plain (sampleConfig .hold false)
        [quietInput 0 [leftPacket 70 true], quietInput 1 [leftPacket 40 false]] ∧
    ¬ HoldsWhileStale .plain (sampleConfig .hold true) [quietInput 0 [leftPacket 8 true], quietInput 1 []] ∧
    ¬ SilentUncommanded .plain (sampleConfig .open false) [quietInput 0 []] := by
  refine ⟨?_, ?_, ?_⟩
  · intro h
    have hv := h [quietInput 0 [leftPacket 70 true]] _ [] _ _ _ _ rfl rfl rfl .left (by decide +kernel)
      (.fin 40) (.fin 70) (by decide +kernel) (by decide +kernel)
    exact absurd hv (by decide)
  · intro h
    have hv := h [quietInput 0 [leftPacket 8 true]] _ [] _ _ _ _ rfl rfl rfl .left (by decide +kernel)
      (.fin 0) (.fin 8) (by decide +kernel) (by decide +kernel)
    exact absurd hv (by decide)
  · intro h
    have hv := h _ _ rfl .right (by decide +kernel) _ (List.mem_singleton_self _)
    exact absurd hv (by decide +kernel)

end PolicyRunner.Gripper
