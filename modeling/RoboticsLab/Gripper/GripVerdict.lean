import RoboticsLab.Lib.Runs
import RoboticsLab.Gripper.StaleHold

/-!
# The grip verdict of `ContactCloseController`

A call is `Pressed` when the arm is seeking and the current is at the threshold.  While the calls are pressed, the hold
time adds up the intervals before them, the one before the first included (`Streak`, `holdSec_pressed`).  So a verdict
needs a streak that lasts `sustain_ms`, unless that first interval makes up for it (`Spike`): `grip_verdict`.
-/

namespace PolicyRunner.Gripper

/-- A call of `apply`. -/
structure ContactCall where
  now : ℚ
  targets : Targets
  measured : Targets
  currentMa : Targets

variable (cfg : ContactCloseConfig) (arm : Arm)

def ContactClose.call (c : ContactClose) (x : ContactCall) : ContactClose × Targets :=
  c.apply cfg x.targets x.measured x.currentMa (.fin x.now)

/-- The controller after the calls of a run. -/
def ContactClose.after (calls : List ContactCall) : ContactClose := calls.foldl (fun c x => (c.call cfg x).1) .init

def armAfter (calls : List ContactCall) : ContactArm := (ContactClose.after cfg calls).arms arm

/-- What the call `x` returns for the arm. -/
def returned (pre : List ContactCall) (x : ContactCall) : Option Double :=
  ((ContactClose.after cfg pre).call cfg x).2 arm

/-- The arm is seeking at the call. -/
def SeekingAt (pre : List ContactCall) (x : ContactCall) : Prop :=
  cfg.enable = true ∧ ∃ cmd, x.targets arm = some cmd ∧ ((armAfter cfg arm pre).enter cfg cmd).2 = true ∧
    ((armAfter cfg arm pre).enter cfg cmd).1.state = .seeking

/-- The measured current is at or above the threshold. -/
def OverCurrent (x : ContactCall) : Prop := ∃ amps, x.currentMa arm = some amps ∧ cfg.currentMa.le amps.abs = true

def Pressed (pre : List ContactCall) (x : ContactCall) : Prop := SeekingAt cfg arm pre x ∧ OverCurrent cfg arm x

/-- `y :: r` are the last calls, all pressed, and the one before them was not. -/
structure Streak (calls l : List ContactCall) (y : ContactCall) (r : List ContactCall) : Prop where
  split : calls = l ++ y :: r
  pressed : Runs.EveryStep (fun m z => Pressed cfg arm (l ++ m) z) (y :: r)
  first : ∀ l' z, l = l' ++ [z] → ¬ Pressed cfg arm l' z

/-- The time of the last call, for a first call its own. -/
def timeBefore (l : List ContactCall) (y : ContactCall) : ℚ := (l.getLast?.map ContactCall.now).getD y.now

/-- `sustain_ms` have passed in `d` seconds. -/
def Sustained (d : ℚ) : Prop := (cfg.sustainMs.mul (.fin (1 / 1000))).le (.fin d) = true

instance (d : ℚ) : Decidable (Sustained cfg d) := inferInstanceAs (Decidable (_ = true))

/-- The streak reaches `sustain_ms` only with the interval before its first call. -/
def Spike (pre : List ContactCall) (x : ContactCall) : Prop :=
  ∃ l y r, Streak cfg arm (pre ++ [x]) l y r ∧ Sustained cfg (x.now - timeBefore l y) ∧ ¬ Sustained cfg (x.now - y.now)

variable {cfg arm} {pre calls : List ContactCall} {x : ContactCall}

/-! ## One call -/

theorem after_concat_call : ContactClose.after cfg (pre ++ [x]) = ((ContactClose.after cfg pre).call cfg x).1 := by
  simp [ContactClose.after]

theorem last_after (cfg : ContactCloseConfig) (pre : List ContactCall) :
    (ContactClose.after cfg pre).last = pre.getLast?.map fun x => .fin x.now := by
  cases pre using List.reverseRecOn with
  | nil => rfl
  | append_singleton pre x _ =>
    rw [after_concat_call, List.getLast?_concat]
    unfold ContactClose.call ContactClose.apply
    dsimp only
    split_ifs <;> rfl

theorem timeBefore_le (hclock : ∀ y ∈ pre, y.now ≤ x.now) : timeBefore pre x ≤ x.now := by
  cases pre using List.reverseRecOn with
  | nil => exact le_rfl
  | append_singleton pre y _ =>
    rw [timeBefore, List.getLast?_concat]
    exact hclock y (by simp)

theorem max_sub_fin {a b : ℚ} (h : b ≤ a) : Double.max (.fin 0) ((Double.fin a).sub (.fin b)) = .fin (a - b) := by
  simp only [Double.sub, Double.neg, Double.add, Double.max, Double.lt, decide_eq_true_eq, ← sub_eq_add_neg]
  split_ifs with hlt
  · rfl
  · congr 1
    linarith

/-- What the call does, with the interval before it. -/
theorem call_eq (en : cfg.enable = true) (hclock : ∀ y ∈ pre, y.now ≤ x.now) :
    (((ContactClose.after cfg pre).call cfg x).1.arms arm, ((ContactClose.after cfg pre).call cfg x).2 arm) =
      (armAfter cfg arm pre).apply cfg (.fin (x.now - timeBefore pre x)) (x.measured arm) (x.currentMa arm)
        (x.targets arm) := by
  have hle := timeBefore_le hclock
  have hlast := last_after cfg pre
  rw [armAfter]
  cases hl : pre.getLast? with
  | none => simp [ContactClose.call, ContactClose.apply, en, hlast, hl, timeBefore]
  | some y =>
    simp only [timeBefore, hl, Option.map_some, Option.getD_some] at hle ⊢
    simp [ContactClose.call, ContactClose.apply, en, hlast, hl, max_sub_fin hle]

theorem armAfter_concat (arm : Arm) (en : cfg.enable = true) (hclock : ∀ y ∈ pre, y.now ≤ x.now) :
    armAfter cfg arm (pre ++ [x]) = ((armAfter cfg arm pre).apply cfg (.fin (x.now - timeBefore pre x))
      (x.measured arm) (x.currentMa arm) (x.targets arm)).1 := by
  rw [← call_eq en hclock, armAfter, after_concat_call]

theorem returned_eq (arm : Arm) (en : cfg.enable = true) (hclock : ∀ y ∈ pre, y.now ≤ x.now) :
    returned cfg arm pre x = ((armAfter cfg arm pre).apply cfg (.fin (x.now - timeBefore pre x))
      (x.measured arm) (x.currentMa arm) (x.targets arm)).2 := by
  rw [← call_eq en hclock, returned]

/-- Where contact-close is off, nothing happens. -/
theorem armAfter_off (en : cfg.enable = false) (pre : List ContactCall) : armAfter cfg arm pre = .init := by
  induction pre using List.reverseRecOn with
  | nil => rfl
  | append_singleton pre x ih =>
    rw [armAfter] at ih
    rw [armAfter, after_concat_call]
    simp [ContactClose.call, ContactClose.apply, en, ih]

theorem returned_off (en : cfg.enable = false) : returned cfg arm pre x = x.targets arm := by
  simp [returned, ContactClose.call, ContactClose.apply, en]

section
variable {c : ContactArm} {cmd : Double} {dt : Double} {measured currentMa : Option Double}

/-- A call that finds the arm seeking searches. -/
theorem apply_seeking (hin : (c.enter cfg cmd).2 = true) (hs : (c.enter cfg cmd).1.state = .seeking) :
    (c.apply cfg dt measured currentMa (some cmd)).1 = (c.enter cfg cmd).1.search cfg dt measured currentMa := by
  simp [ContactArm.apply, hin, hs]

/-- Any other call leaves the state that it finds, or is idle. -/
theorem apply_not_seeking (h : ¬ ((c.enter cfg cmd).2 = true ∧ (c.enter cfg cmd).1.state = .seeking)) :
    (c.apply cfg dt measured currentMa (some cmd)).1 = (c.enter cfg cmd).1 := by
  unfold ContactArm.apply
  dsimp only
  by_cases hin : (c.enter cfg cmd).2 = true
  · have hs : (c.enter cfg cmd).1.state ≠ .seeking := fun hs => h ⟨hin, hs⟩
    simp [hin, hs]
  · simp [hin]

/-- The state that a command finds. -/
theorem enter_cases (cfg : ContactCloseConfig) (c : ContactArm) (cmd : Double) :
    (c.state = .idle ∧ (c.enter cfg cmd).1 = { c with state := .seeking, seek := cmd, holdSec := .fin 0 }) ∨
      (c.enter cfg cmd).1 = c ∨ (c.enter cfg cmd).1 = c.reset := by
  unfold ContactArm.enter
  split_ifs with hi
  · exact .inr (.inl rfl)
  · exact .inl ⟨hi, rfl⟩
  · exact .inr (.inr rfl)
  · exact .inr (.inl rfl)

theorem search_of_over (dt : Double) (measured : Option Double)
    (hover : ∃ amps, currentMa = some amps ∧ cfg.currentMa.le amps.abs = true)
    (hs : c.state = .seeking) :
    ((c.search cfg dt measured currentMa).state = .holding ∧
        (cfg.sustainMs.mul (.fin (1 / 1000))).le (c.holdSec.add dt) = true) ∨
      (c.search cfg dt measured currentMa).state ≠ .holding ∧
        (c.search cfg dt measured currentMa).holdSec = c.holdSec.add dt := by
  obtain ⟨amps, rfl, hamps⟩ := hover
  unfold ContactArm.search
  simp only [hamps, if_true, Bool.true_and]
  split_ifs with hsus
  · exact .inl ⟨rfl, hsus⟩
  · exact .inr ⟨by simp, rfl⟩
  · exact .inr ⟨by simp [hs], rfl⟩

theorem search_of_not_over (hover : ¬ ∃ amps, currentMa = some amps ∧ cfg.currentMa.le amps.abs = true)
    (hs : c.state = .seeking) :
    (c.search cfg dt measured currentMa).state ≠ .holding ∧ (c.search cfg dt measured currentMa).holdSec = .fin 0 := by
  unfold ContactArm.search
  cases currentMa with
  | none =>
    simp only [Bool.false_and]
    split_ifs <;> simp_all
  | some amps =>
    have hlow : cfg.currentMa.le amps.abs = false := by simpa using hover
    simp only [hlow, Bool.false_and]
    split_ifs <;> simp_all

end

/-! ## The hold time -/

theorem state_ne_idle_of_pressed (hclock : ∀ y ∈ pre, y.now ≤ x.now) (h : Pressed cfg arm pre x) :
    (armAfter cfg arm (pre ++ [x])).state ≠ .idle := by
  obtain ⟨⟨en, cmd, hcmd, hin, hs⟩, -⟩ := h
  rw [armAfter_concat arm en hclock, hcmd, apply_seeking hin hs]
  exact ContactArm.search_ne_idle _ _ _ hs

/-- While the arm seeks, the hold time is that of the streak, up to the last call. -/
def HoldTimed (cfg : ContactCloseConfig) (arm : Arm) (pre : List ContactCall) : Prop :=
  (armAfter cfg arm pre).state = .seeking →
    ((∀ l z, pre = l ++ [z] → ¬ Pressed cfg arm l z) ∧ (armAfter cfg arm pre).holdSec = .fin 0) ∨
      ∃ l y r z, Streak cfg arm pre l y r ∧ pre.getLast? = some z ∧
        (armAfter cfg arm pre).holdSec = .fin (z.now - timeBefore l y)

theorem Streak.concat {l : List ContactCall} {y : ContactCall} {r : List ContactCall}
    (h : Streak cfg arm pre l y r) (hx : Pressed cfg arm pre x) : Streak cfg arm (pre ++ [x]) l y (r ++ [x]) := by
  refine ⟨by rw [h.split]; simp, ?_, h.first⟩
  rw [← List.cons_append, Runs.everyStep_append, Runs.everyStep_singleton, List.append_nil, ← h.split]
  exact ⟨h.pressed, hx⟩

theorem streak_single (hx : Pressed cfg arm pre x) (hpre : ∀ l z, pre = l ++ [z] → ¬ Pressed cfg arm l z) :
    Streak cfg arm (pre ++ [x]) pre x [] :=
  ⟨rfl, (Runs.everyStep_singleton x).mpr (by rwa [List.append_nil]), hpre⟩

/-- **The hold time of a pressed call** reaches back to the call before its streak. -/
theorem holdSec_pressed (hclock : (pre ++ [x]).Pairwise fun y z => y.now ≤ z.now) (hinv : HoldTimed cfg arm pre)
    (hx : Pressed cfg arm pre x) {cmd : Double} (hcmd : x.targets arm = some cmd) :
    ∃ l y r, Streak cfg arm (pre ++ [x]) l y r ∧
      ((armAfter cfg arm pre).enter cfg cmd).1.holdSec.add (.fin (x.now - timeBefore pre x)) =
        .fin (x.now - timeBefore l y) := by
  obtain ⟨hs, hin⟩ : ((armAfter cfg arm pre).enter cfg cmd).1.state = .seeking ∧
      ((armAfter cfg arm pre).enter cfg cmd).2 = true := by
    obtain ⟨-, cmd', hcmd', hin, hs⟩ := hx.1
    obtain rfl : cmd = cmd' := by simpa [hcmd] using hcmd'
    exact ⟨hs, hin⟩
  -- the first pressed call of a streak
  have hfirst : (∀ l z, pre = l ++ [z] → ¬ Pressed cfg arm l z) →
      ((armAfter cfg arm pre).enter cfg cmd).1.holdSec = .fin 0 → ∃ l y r, Streak cfg arm (pre ++ [x]) l y r ∧
        ((armAfter cfg arm pre).enter cfg cmd).1.holdSec.add (.fin (x.now - timeBefore pre x)) =
          .fin (x.now - timeBefore l y) := by
    intro hpre hz
    exact ⟨pre, x, [], streak_single hx hpre, by rw [hz, Double.add, zero_add]⟩
  rcases enter_cases cfg (armAfter cfg arm pre) cmd with ⟨hidle, he⟩ | he | he
  · refine hfirst ?_ (by rw [he])
    rintro l z rfl hz
    have hlz : (l ++ [z]).Pairwise fun y z => y.now ≤ z.now := (List.pairwise_append.mp hclock).1
    exact state_ne_idle_of_pressed (fun y hy => (List.pairwise_append.mp hlz).2.2 y hy z (by simp)) hz hidle
  · rw [he] at hs hfirst ⊢
    rcases hinv hs with ⟨hpre, hz⟩ | ⟨l, y, r, z, hst, hz, hhold⟩
    · exact hfirst hpre hz
    · refine ⟨l, y, r ++ [x], hst.concat hx, ?_⟩
      have hb : timeBefore pre x = z.now := by simp [timeBefore, hz]
      rw [hhold, hb, Double.add]
      congr 1
      ring
  · rw [he] at hs
    cases hs

theorem holdTimed_nil : HoldTimed cfg arm [] := by
  intro h
  cases h

theorem holdTimed_step (hclock : (pre ++ [x]).Pairwise fun y z => y.now ≤ z.now) (hinv : HoldTimed cfg arm pre) :
    HoldTimed cfg arm (pre ++ [x]) := by
  have hx : ∀ y ∈ pre, y.now ≤ x.now := fun y hy => (List.pairwise_append.mp hclock).2.2 y hy x (by simp)
  -- a call that is not pressed ends the streak
  have hnot : ¬ Pressed cfg arm pre x → ∀ l z, pre ++ [x] = l ++ [z] → ¬ Pressed cfg arm l z := by
    intro hp l z e
    obtain ⟨rfl, hz⟩ := List.append_inj' e rfl
    cases hz
    exact hp
  intro hseek
  by_cases en : cfg.enable = true
  · have hcall := armAfter_concat arm en hx
    cases hcmd : x.targets arm with
    | none =>
      rw [hcall, hcmd] at hseek
      cases hseek
    | some cmd =>
      rw [hcmd] at hcall
      by_cases hin : ((armAfter cfg arm pre).enter cfg cmd).2 = true ∧
          ((armAfter cfg arm pre).enter cfg cmd).1.state = .seeking
      · rw [apply_seeking hin.1 hin.2] at hcall
        by_cases hover : OverCurrent cfg arm x
        · have hp : Pressed cfg arm pre x := ⟨⟨en, cmd, hcmd, hin⟩, hover⟩
          obtain ⟨l, y, r, hst, hhold⟩ := holdSec_pressed hclock hinv hp hcmd
          rcases search_of_over (.fin (x.now - timeBefore pre x)) (x.measured arm) hover hin.2 with
            ⟨hh, -⟩ | ⟨-, hh⟩
          · rw [hcall, hh] at hseek
            cases hseek
          · exact .inr ⟨l, y, r, x, hst, by simp, by rw [hcall, hh, hhold]⟩
        · refine .inl ⟨hnot fun hp => hover hp.2, ?_⟩
          rw [hcall]
          exact (search_of_not_over hover hin.2).2
      · -- the state is the one found, and is not seeking
        rw [apply_not_seeking hin] at hcall
        rw [hcall] at hseek
        exfalso
        refine hin ⟨?_, hseek⟩
        by_contra hf
        rw [((armAfter cfg arm pre).enter_idle cfg cmd).mpr (Bool.not_eq_true _ ▸ hf)] at hseek
        cases hseek
  · rw [Bool.not_eq_true] at en
    rw [armAfter_off en] at hseek
    cases hseek

/-! ## The verdict -/

theorem not_sustained_zero (h : (Double.fin 0).lt cfg.sustainMs = true) : ¬ Sustained cfg 0 := by
  unfold Sustained
  cases hs : cfg.sustainMs with
  | fin q =>
    rw [hs] at h
    have hq : 0 < q := by simpa [Double.lt] using h
    simp [Double.mul, Double.le, Double.lt, hq]
  | posInf => simp [Double.mul, Double.signedInf, Double.le, Double.lt]
  | nan => simp [Double.mul, Double.le]
  | negInf =>
    rw [hs] at h
    simp [Double.lt] at h

/-- An arm that enters holding was pressed, and its hold time is sustained. -/
theorem pressed_of_holding (hclock : ∀ y ∈ pre, y.now ≤ x.now) (hne : (armAfter cfg arm pre).state ≠ .holding)
    (hh : (armAfter cfg arm (pre ++ [x])).state = .holding) : Pressed cfg arm pre x ∧ ∃ cmd,
      x.targets arm = some cmd ∧ (cfg.sustainMs.mul (.fin (1 / 1000))).le
        (((armAfter cfg arm pre).enter cfg cmd).1.holdSec.add (.fin (x.now - timeBefore pre x))) = true := by
  by_cases en : cfg.enable = true
  · rw [armAfter_concat arm en hclock] at hh
    cases hcmd : x.targets arm with
    | none =>
      rw [hcmd] at hh
      cases hh
    | some cmd =>
      rw [hcmd] at hh
      by_cases hin : ((armAfter cfg arm pre).enter cfg cmd).2 = true ∧
          ((armAfter cfg arm pre).enter cfg cmd).1.state = .seeking
      · rw [apply_seeking hin.1 hin.2] at hh
        by_cases hover : OverCurrent cfg arm x
        · refine ⟨⟨⟨en, cmd, hcmd, hin⟩, hover⟩, cmd, rfl, ?_⟩
          rcases search_of_over (.fin (x.now - timeBefore pre x)) (x.measured arm) hover hin.2 with
            ⟨-, hsus⟩ | ⟨hno, -⟩
          · exact hsus
          · exact absurd hh hno
        · exact absurd hh (search_of_not_over hover hin.2).1
      · rw [apply_not_seeking hin] at hh
        rcases enter_cases cfg (armAfter cfg arm pre) cmd with ⟨-, he⟩ | he | he
        · rw [he] at hh
          cases hh
        · rw [he] at hh
          exact absurd hh hne
        · rw [he] at hh
          cases hh
  · rw [armAfter_off (Bool.not_eq_true _ ▸ en)] at hh
    cases hh

theorem holding_sustained (hsustain : (Double.fin 0).lt cfg.sustainMs = true)
    (hclock : (pre ++ [x]).Pairwise fun y z => y.now ≤ z.now) (hinv : HoldTimed cfg arm pre)
    (hspike : ¬ Spike cfg arm pre x) (hne : (armAfter cfg arm pre).state ≠ .holding)
    (hh : (armAfter cfg arm (pre ++ [x])).state = .holding) :
    ∃ l y r, pre = l ++ y :: r ∧ Sustained cfg (x.now - y.now) ∧
      Runs.EveryStep (fun m z => Pressed cfg arm (l ++ m) z) (y :: r ++ [x]) := by
  have hx : ∀ y ∈ pre, y.now ≤ x.now := fun y hy => (List.pairwise_append.mp hclock).2.2 y hy x (by simp)
  obtain ⟨hp, cmd, hcmd, hsus⟩ := pressed_of_holding hx hne hh
  obtain ⟨l, y, r, hst, hhold⟩ := holdSec_pressed hclock hinv hp hcmd
  rw [hhold] at hsus
  have hspan : Sustained cfg (x.now - y.now) := by
    by_contra hno
    exact hspike ⟨l, y, r, hst, hsus, hno⟩
  cases r using List.reverseRecOn with
  | nil =>
    -- a streak of one call spans no time
    obtain ⟨-, hy⟩ := List.append_inj' hst.split rfl
    cases hy
    rw [sub_self] at hspan
    exact absurd hspan (not_sustained_zero hsustain)
  | append_singleton r z _ =>
    have hsplit := hst.split
    rw [← List.cons_append, ← List.append_assoc] at hsplit
    obtain ⟨hpre, hz⟩ := List.append_inj' hsplit rfl
    cases hz
    exact ⟨l, y, r, hpre, hspan, hst.pressed⟩

/-! ## The returned target -/

theorem returned_none_iff (hclock : ∀ y ∈ pre, y.now ≤ x.now) :
    returned cfg arm pre x = none ↔ x.targets arm = none := by
  by_cases en : cfg.enable = true
  · rw [returned_eq arm en hclock]
    cases x.targets arm with
    | none => simp [ContactArm.apply]
    | some cmd => simp [ContactArm.apply_driven en]
  · rw [returned_off (Bool.not_eq_true _ ▸ en)]

theorem drive_le (c : ContactArm) {cmd : Double} (h : cmd ≠ .nan) : (c.drive cmd).le cmd := by
  unfold ContactArm.drive
  split
  · exact Double.min_le_left h
  · exact Double.le_refl h

theorem returned_le (hclock : ∀ y ∈ pre, y.now ≤ x.now) {cmd : Double} (hcmd : x.targets arm = some cmd)
    (hn : cmd ≠ .nan) : ∃ v, returned cfg arm pre x = some v ∧ v.le cmd = true := by
  by_cases en : cfg.enable = true
  · rw [returned_eq arm en hclock, hcmd, ContactArm.apply_driven en]
    refine ⟨_, rfl, ?_⟩
    unfold ContactArm.driven
    split_ifs
    · exact drive_le _ hn
    · exact Double.le_refl hn
  · rw [returned_off (Bool.not_eq_true _ ▸ en), hcmd]
    exact ⟨cmd, rfl, Double.le_refl hn⟩

/-! ## The setpoint of a search -/

section
variable {m k : ℚ}

theorem max_sub_le {s : Double} (h : Double.le (.fin m) s) (hk : 0 ≤ k) :
    (Double.max (.fin m) (s.sub (.fin k))).le s := by
  unfold Double.max
  split_ifs
  · cases s <;> simp_all [Double.sub, Double.neg, Double.add, Double.le, Double.lt]
  · exact h

theorem search_seek {c : ContactArm} {dt : Double} {measured currentMa : Option Double}
    (h : (c.search cfg dt measured currentMa).state = .seeking) :
    (c.search cfg dt measured currentMa).seek = cfg.minMm.max (c.seek.sub (cfg.creepMmS.mul dt)) := by
  revert h
  unfold ContactArm.search
  dsimp only
  split_ifs <;> simp

/-- A call that leaves the arm seeking: what it returns, and where its setpoint comes from. -/
theorem seeking_call (hclock : ∀ y ∈ pre, y.now ≤ x.now) (h : (armAfter cfg arm (pre ++ [x])).state = .seeking) :
    ∃ cmd, x.targets arm = some cmd ∧
      returned cfg arm pre x = some (cmd.min (armAfter cfg arm (pre ++ [x])).seek) ∧
      (armAfter cfg arm (pre ++ [x])).seek = cfg.minMm.max (((armAfter cfg arm pre).enter cfg cmd).1.seek.sub
        (cfg.creepMmS.mul (.fin (x.now - timeBefore pre x)))) ∧
      ((armAfter cfg arm pre).state = .seeking → ((armAfter cfg arm pre).enter cfg cmd).1 = armAfter cfg arm pre) := by
  by_cases en : cfg.enable = true
  · have hcall := armAfter_concat arm en hclock
    have hret := returned_eq arm en hclock
    cases hcmd : x.targets arm with
    | none =>
      rw [hcall, hcmd] at h
      cases h
    | some cmd =>
      rw [hcmd] at hcall hret
      have hin : ((armAfter cfg arm pre).enter cfg cmd).2 = true ∧
          ((armAfter cfg arm pre).enter cfg cmd).1.state = .seeking := by
        by_contra hin
        rw [hcall, apply_not_seeking hin] at h
        refine hin ⟨?_, h⟩
        by_contra hf
        rw [((armAfter cfg arm pre).enter_idle cfg cmd).mpr (Bool.not_eq_true _ ▸ hf)] at h
        cases h
      rw [ContactArm.apply_driven en, ← hcall] at hret
      refine ⟨cmd, rfl, ?_, ?_, fun hs => ?_⟩
      · simp [hret, ContactArm.driven, ContactArm.drive, en, h]
      · rw [hcall, apply_seeking hin.1 hin.2] at h ⊢
        exact search_seek h
      · rcases enter_cases cfg (armAfter cfg arm pre) cmd with ⟨hi, -⟩ | he | he
        · rw [hs] at hi
          cases hi
        · exact he
        · rw [he] at hin
          cases hin.2
  · rw [armAfter_off (Bool.not_eq_true _ ▸ en)] at h
    cases h

/-- While a search lasts its setpoint does not rise. -/
theorem seek_descends (hmin : cfg.minMm = .fin m) (hcreep : cfg.creepMmS = .fin k) (hk : 0 ≤ k)
    {l : List ContactCall} {y : ContactCall} (r : List ContactCall)
    (hclock : (l ++ y :: r).Pairwise fun y z => y.now ≤ z.now)
    (h : Runs.EveryStep (fun p z => (armAfter cfg arm (l ++ p ++ [z])).state = .seeking) (y :: r)) :
    Double.le (.fin m) (armAfter cfg arm (l ++ y :: r)).seek ∧
      (armAfter cfg arm (l ++ y :: r)).seek.le (armAfter cfg arm (l ++ [y])).seek := by
  induction r using List.reverseRecOn with
  | nil =>
    have hl : ∀ z ∈ l, z.now ≤ y.now := fun z hz => (List.pairwise_append.mp hclock).2.2 z hz y (by simp)
    have hy : (armAfter cfg arm (l ++ [y])).state = .seeking := by simpa using h [] y [] rfl
    obtain ⟨cmd, -, -, hseek, -⟩ := seeking_call hl hy
    have hle : Double.le (.fin m) (armAfter cfg arm (l ++ [y])).seek := by
      rw [hseek, hmin]
      exact Double.le_max_fin _
    exact ⟨hle, Double.le_refl (Double.ne_nan_of_le hle).2⟩
  | append_singleton r z ih =>
    have hlast : (l ++ y :: (r ++ [z])) = (l ++ y :: r) ++ [z] := by simp
    rw [hlast] at hclock ⊢
    have hz : ∀ w ∈ l ++ y :: r, w.now ≤ z.now := fun w hw => (List.pairwise_append.mp hclock).2.2 w hw z (by simp)
    obtain ⟨hm, hle⟩ := ih (List.pairwise_append.mp hclock).1 (h.of_append (List.cons_append ..).symm)
    have hbefore : (armAfter cfg arm (l ++ y :: r)).state = .seeking := by
      cases r using List.reverseRecOn with
      | nil => simpa using h [] y [z] rfl
      | append_singleton r w _ => simpa using h (y :: r) w [z] (by simp)
    have hafter : (armAfter cfg arm (l ++ y :: r ++ [z])).state = .seeking := h (y :: r) z [] (by simp)
    obtain ⟨cmd, -, -, hseek, henter⟩ := seeking_call hz hafter
    rw [henter hbefore, hmin, hcreep, Double.mul] at hseek
    have hdt : 0 ≤ k * (z.now - timeBefore (l ++ y :: r) z) := mul_nonneg hk (sub_nonneg.mpr (timeBefore_le hz))
    rw [hseek]
    exact ⟨Double.le_max_fin _, Double.le_trans (max_sub_le hm hdt) hle⟩

/-- **Once the setpoint is at or below the command, the returned target does not rise.** -/
theorem returned_descends (hmin : cfg.minMm = .fin m) (hcreep : cfg.creepMmS = .fin k) (hk : 0 ≤ k)
    {l : List ContactCall} {y : ContactCall} {r : List ContactCall} (hpre : pre = l ++ y :: r)
    (hclock : (pre ++ [x]).Pairwise fun y z => y.now ≤ z.now)
    (h : Runs.EveryStep (fun p z => (armAfter cfg arm (l ++ p ++ [z])).state = .seeking) (y :: r ++ [x]))
    {cmd cmd' v w : Double} (hy : y.targets arm = some cmd) (hle : (armAfter cfg arm (l ++ [y])).seek.le cmd)
    (hv : returned cfg arm l y = some v) (hx : x.targets arm = some cmd') (hn : cmd' ≠ .nan)
    (hw : returned cfg arm pre x = some w) : w.le v := by
  subst hpre
  have hl : ∀ z ∈ l, z.now ≤ y.now := fun z hz =>
    (List.pairwise_append.mp (List.pairwise_append.mp hclock).1).2.2 z hz y (by simp)
  have hpre : ∀ z ∈ l ++ y :: r, z.now ≤ x.now := fun z hz => (List.pairwise_append.mp hclock).2.2 z hz x (by simp)
  have hys : (armAfter cfg arm (l ++ [y])).state = .seeking := by simpa using h [] y (r ++ [x]) rfl
  have hxs : (armAfter cfg arm (l ++ y :: r ++ [x])).state = .seeking := h (y :: r) x [] (by simp)
  obtain ⟨c, hc, hret, -⟩ := seeking_call hl hys
  obtain ⟨c', hc', hret', -⟩ := seeking_call hpre hxs
  obtain rfl : cmd = c := by simpa [hy] using hc
  obtain rfl : cmd' = c' := by simpa [hx] using hc'
  obtain rfl : v = cmd.min (armAfter cfg arm (l ++ [y])).seek := by simpa [hv] using hret
  obtain rfl : w = cmd'.min (armAfter cfg arm (l ++ y :: r ++ [x])).seek := by simpa [hw] using hret'
  have hclock' : (l ++ y :: (r ++ [x])).Pairwise fun y z => y.now ≤ z.now := by simpa using hclock
  have hdesc := (seek_descends hmin hcreep hk (r ++ [x]) hclock' h).2
  have e : l ++ y :: (r ++ [x]) = l ++ y :: r ++ [x] := by simp
  rw [e] at hdesc
  have hnan := Double.ne_nan_of_le hdesc
  exact Double.le_trans (Double.min_le_right hn hnan.1)
    (Double.le_trans hdesc (Double.le_min hle (Double.le_refl hnan.2)))

end

/-! ## Runs -/

/-- The defaults, enabled. -/
def contactOn : ContactCloseConfig := { ContactCloseConfig.default with enable := true }

/-- The left arm is told `mm` and draws `ma`. -/
def leftCall (now mm ma : ℚ) : ContactCall where
  now := now
  targets := fun arm => if arm = .left then some (.fin mm) else none
  measured := fun _ => none
  currentMa := fun arm => if arm = .left then some (.fin ma) else none

/-- Contact from the second call on, for 70 ms. -/
def contactCalls : List ContactCall := [leftCall 0 8 100, leftCall (1 / 100) 8 600, leftCall (8 / 100) 8 600]

end PolicyRunner.Gripper
