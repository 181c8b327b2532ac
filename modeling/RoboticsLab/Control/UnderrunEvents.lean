import RoboticsLab.Control.QueueSyncLock

/-!
# What an underrun event says about the queue

`underrun_run_` is meant to count consecutive fresh fills at or below `protect_fill`, so that
`underrun_confirm` of them in a row make one event.  The counter is kept by the band test of the track
phase alone.  A fresh fill that arrives in drain, or that rebases the queue out of track, leaves the
counter standing, and later low fills are counted on top of it (`drain_keeps_old_low_fills`).  When no
fill above `protect_fill` arrives there on a counter that stands, an event is confirmed:

    EveryStep CleanRun ops → EveryStep Confirmed ops                     (confirmed_of_cleanRun)
-/

namespace RbServo.QueueSync

open Runs

/-! ## Runs -/

/-- The controller, and the fills of the fresh observations received while streaming (newest
first). -/
structure Metered where
  controller : QueueSyncController := {}
  fills : List Int := []

def Metered.step (cfg : QueueSyncConfig) (m : Metered) : QueueSyncOp → Metered
  | .step obs =>
    { controller := (QueueSync.step cfg m.controller obs).1
      fills := if obs.streaming && fresh m.controller obs then obs.fill :: m.fills else m.fills }
  | .reset => { m with controller := QueueSync.reset m.controller }

def meteredAfter (cfg : QueueSyncConfig) (ops : List QueueSyncOp) : Metered :=
  ops.foldl (Metered.step cfg) {}

@[simp] theorem meteredAfter_concat (cfg : QueueSyncConfig) (ops : List QueueSyncOp)
    (op : QueueSyncOp) : meteredAfter cfg (ops ++ [op]) = (meteredAfter cfg ops).step cfg op := by
  simp [meteredAfter]

/-- The step raises `underrun_events`. -/
def Counts (cfg : QueueSyncConfig) (s : QueueSyncController) : QueueSyncOp → Prop
  | .step obs => s.counters.underrunEvents < (QueueSync.step cfg s obs).2.underrunEvents
  | .reset => False

/-- A fresh fill at or above the target, a stream gap or a reset. -/
def Rearms (cfg : QueueSyncConfig) (s : QueueSyncController) : QueueSyncOp → Prop
  | .step obs => (fresh s obs = true ∧ cfg.targetFill ≤ obs.fill) ∨ obs.streaming = false
  | .reset => True

/-- The step comes with a fresh observation while streaming, and with it the last
`underrun_confirm` fresh fills received while streaming are all at or below `protect_fill`. -/
def LowFills (cfg : QueueSyncConfig) (m : Metered) : QueueSyncOp → Prop
  | .step obs => fresh m.controller obs = true ∧ obs.streaming = true ∧
      cfg.underrunConfirm.toNat ≤ (m.step cfg (.step obs)).fills.length ∧
      ∀ fill ∈ (m.step cfg (.step obs)).fills.take cfg.underrunConfirm.toNat, fill ≤ cfg.protectFill
  | .reset => False

/-- An increment is confirmed by `underrun_confirm` low fills, and every earlier increment was
followed by a recovery to the target, a gap or a reset (later than the increment itself, when
`protect_fill` is below the target as the loader requires). -/
def Confirmed (cfg : QueueSyncConfig) (pre : List QueueSyncOp) (op : QueueSyncOp) : Prop :=
  Counts cfg (meteredAfter cfg pre).controller op →
    LowFills cfg (meteredAfter cfg pre) op ∧
    ∀ before first between, pre = before ++ first :: between →
      Counts cfg (meteredAfter cfg before).controller first →
      ∃ mid op' rest, first :: between = mid ++ op' :: rest ∧
        Rearms cfg (meteredAfter cfg (before ++ mid)).controller op' ∧
        (cfg.protectFill < cfg.targetFill → mid ≠ [])

/-- A fresh fill above `protect_fill` in drain, or one that rebases the queue out of track, finds
`underrun_run_` at zero. -/
def CleanRun (cfg : QueueSyncConfig) (s : QueueSyncController) : QueueSyncOp → Prop
  | .step obs => obs.streaming = true → fresh s obs = true → cfg.protectFill < obs.fill →
      s.phase = .drain ∨ s.phase = .track ∧ rebased cfg obs.fill = true → s.underrunRun = 0
  | .reset => True

instance (cfg : QueueSyncConfig) (s : QueueSyncController) (op : QueueSyncOp) :
    Decidable (CleanRun cfg s op) :=
  match op with
  | .step obs => inferInstanceAs (Decidable (obs.streaming = true → fresh s obs = true →
      cfg.protectFill < obs.fill →
      s.phase = .drain ∨ s.phase = .track ∧ rebased cfg obs.fill = true → s.underrunRun = 0))
  | .reset => inferInstanceAs (Decidable True)

/-! ## The underrun counter alone -/

/-- The part of the state that decides underrun events. -/
structure UnderrunCore where
  run : Int := 0
  active : Bool := false
  events : Nat := 0
deriving DecidableEq

def QueueSyncController.underrun (s : QueueSyncController) : UnderrunCore where
  run := s.underrunRun
  active := s.underrunActive
  events := s.counters.underrunEvents

/-- The band test on a fresh fill. -/
def UnderrunCore.low (cfg : QueueSyncConfig) (fill : Int) (u : UnderrunCore) : UnderrunCore :=
  if fill ≤ cfg.protectFill then
    if cfg.underrunConfirm ≤ u.run + 1 ∧ u.active = false then
      { run := u.run + 1, active := true, events := u.events + 1 }
    else { u with run := u.run + 1 }
  else { u with run := 0 }

def UnderrunCore.recover (cfg : QueueSyncConfig) (fill : Int) (u : UnderrunCore) : UnderrunCore :=
  if cfg.targetFill ≤ fill then { u with run := 0, active := false } else u

/-- The observation reaches the band test: in track, fresh, not a rebase, with a known fill. -/
def inBand (cfg : QueueSyncConfig) (s : QueueSyncController) (obs : Observation) : Bool :=
  decide (s.phase = .track) && fresh s obs && !rebased cfg obs.fill && decide (0 ≤ obs.fill)

/-- The underrun part of a state under work and of the decision built for it. -/
def underrunOf (p : QueueSyncController × QueueSyncDecision) : UnderrunCore where
  run := p.1.underrunRun
  active := p.1.underrunActive
  events := p.2.underrunEvents

theorem watchConsumption_underrun (cfg : QueueSyncConfig) (obs : Observation)
    (s : QueueSyncController) (out : QueueSyncDecision) :
    underrunOf (watchConsumption cfg obs s out) = underrunOf (s, out) := by
  unfold watchConsumption
  dsimp only
  split_ifs <;> rfl

theorem watchHighwater_underrun (cfg : QueueSyncConfig) (s : QueueSyncController)
    (out : QueueSyncDecision) : underrunOf (watchHighwater cfg s out) = underrunOf (s, out) := by
  unfold watchHighwater
  split_ifs <;> rfl

theorem trackDip_underrun (cfg : QueueSyncConfig) (obs : Observation) (s : QueueSyncController)
    (out : QueueSyncDecision) : underrunOf (trackDip cfg obs s out) = underrunOf (s, out) := by
  unfold trackDip
  split_ifs <;> rfl

theorem trackUnderrun_underrun (cfg : QueueSyncConfig) (s : QueueSyncController)
    (out : QueueSyncDecision) :
    underrunOf (trackUnderrun cfg s out) = (underrunOf (s, out)).low cfg s.lastFill := by
  unfold trackUnderrun UnderrunCore.low
  show _ = if s.lastFill ≤ cfg.protectFill then
    if cfg.underrunConfirm ≤ s.underrunRun + 1 ∧ s.underrunActive = false then _ else _ else _
  split_ifs <;> rfl

theorem trackRecover_underrun (cfg : QueueSyncConfig) (obs : Observation) (s : QueueSyncController)
    (out : QueueSyncDecision) :
    underrunOf (trackRecover cfg obs s out) = (underrunOf (s, out)).recover cfg s.lastFill := by
  unfold trackRecover UnderrunCore.recover
  dsimp only
  split_ifs <;> rfl

theorem trackBand_underrun (cfg : QueueSyncConfig) (obs : Observation) (isFresh : Bool)
    (s : QueueSyncController) (out : QueueSyncDecision) :
    underrunOf (trackBand cfg obs isFresh s out) =
      if isFresh && decide (0 ≤ s.lastFill) then
        ((underrunOf (s, out)).low cfg s.lastFill).recover cfg s.lastFill
      else underrunOf (s, out) := by
  have hdip : ∀ s out, (trackDip cfg obs s out).1.lastFill = s.lastFill := by
    intro s out
    unfold trackDip
    split_ifs <;> rfl
  have hunder : ∀ s out, (trackUnderrun cfg s out).1.lastFill = s.lastFill := by
    intro s out
    unfold trackUnderrun
    split_ifs <;> rfl
  unfold trackBand
  split
  · rw [trackRecover_underrun]
    rw [hunder, hdip]
    rw [show ∀ p : QueueSyncController × QueueSyncDecision, (p.1, p.2) = p from fun p => rfl]
    rw [trackUnderrun_underrun, hdip]
    rw [show ∀ p : QueueSyncController × QueueSyncDecision, (p.1, p.2) = p from fun p => rfl]
    rw [trackDip_underrun]
    rfl
  · rfl

theorem stepPhase_underrun (cfg : QueueSyncConfig) (obs : Observation) (isFresh : Bool)
    (s : QueueSyncController) (out : QueueSyncDecision) :
    underrunOf ((stepPhase cfg obs isFresh s out).1, (stepPhase cfg obs isFresh s out).2.1) =
      if decide (s.phase = .track) && isFresh && !rebased cfg s.lastFill && decide (0 ≤ s.lastFill) then
        ((underrunOf (s, out)).low cfg s.lastFill).recover cfg s.lastFill
      else underrunOf (s, out) := by
  unfold stepPhase
  cases hp : s.phase with
  | idle => rfl
  | warmup =>
    simp only [stepWarmup]
    split <;> rfl
  | drain =>
    simp only [stepDrain]
    split <;> rfl
  | track =>
    simp only [stepTrack]
    split
    · next hr => simp [hr, underrunOf]
    · next hr =>
      have hband := trackBand_underrun cfg obs isFresh s out
      simp only [hr, decide_true, Bool.true_and, Bool.not_false, Bool.and_true]
      rw [← hband]
      split_ifs <;> rfl

/-- **One step of the underrun counter**: the gap clears it, the band test moves it, and nothing else
touches it. -/
theorem step_underrun (cfg : QueueSyncConfig) (s : QueueSyncController) (obs : Observation) :
    (step cfg s obs).1.underrun =
      (if !cfg.enable || !obs.streaming then
        if s.phase = .idle then s.underrun else { s.underrun with run := 0, active := false }
      else if inBand cfg s obs then (s.underrun.low cfg obs.fill).recover cfg obs.fill
      else s.underrun) ∧
    (step cfg s obs).2.underrunEvents = (step cfg s obs).1.underrun.events := by
  have hphase : (consume s obs).phase = s.phase := by
    unfold consume
    split <;> rfl
  have hkeep : (consume s obs).underrun = s.underrun := by
    unfold consume
    split <;> rfl
  unfold step
  dsimp only
  split
  · constructor
    · rw [← hphase, ← hkeep]
      unfold stepSilent
      dsimp only
      split <;> rfl
    · rfl
  · refine ⟨?_, rfl⟩
    generalize hw : watchConsumption cfg obs (consume s obs)
      { (consume s obs).counters with periodTrimUs := 0 } = w
    have hwu := watchConsumption_underrun cfg obs (consume s obs)
      { (consume s obs).counters with periodTrimUs := 0 }
    have hwc := watchConsumption_core cfg obs (consume s obs)
      { (consume s obs).counters with periodTrimUs := 0 }
    rw [hw] at hwu hwc
    generalize hh : watchHighwater cfg w.1 w.2 = h
    have hhu := watchHighwater_underrun cfg w.1 w.2
    have hhc := watchHighwater_core cfg w.1 w.2
    rw [hh] at hhu hhc
    have hcore : h.1.core = (consume s obs).core := hhc.trans hwc
    have hstand : underrunOf (h.1, h.2) = s.underrun := (hhu.trans hwu).trans hkeep
    have hfresh : fresh s obs = true → h.1.lastFill = obs.fill := by
      intro hf
      have hfill : h.1.lastFill = (consume s obs).lastFill := congrArg PhaseCore.lastFill hcore
      rw [hfill]
      unfold consume
      rw [if_pos hf]
    have hsame : h.1.phase = s.phase := (congrArg PhaseCore.phase hcore).trans hphase
    have hp := stepPhase_underrun cfg obs (fresh s obs) h.1 h.2
    rw [hstand, hsame] at hp
    refine Eq.trans hp ?_
    unfold inBand
    cases hf : fresh s obs with
    | true => rw [hfresh hf]
    | false => simp

/-- What a counting step looked like. -/
theorem counts_cases {cfg : QueueSyncConfig} {s : QueueSyncController} {obs : Observation}
    (h : Counts cfg s (.step obs)) :
    cfg.enable = true ∧ obs.streaming = true ∧ inBand cfg s obs = true ∧
      obs.fill ≤ cfg.protectFill ∧ cfg.underrunConfirm ≤ s.underrunRun + 1 ∧
      s.underrunActive = false := by
  obtain ⟨hstep, hevents⟩ := step_underrun cfg s obs
  have hmore : s.underrun.events < (step cfg s obs).1.underrun.events := by
    rw [← hevents]
    exact h
  rw [hstep] at hmore
  split at hmore
  · split at hmore <;> exact absurd hmore (lt_irrefl _)
  · next hon =>
    simp only [Bool.or_eq_true, Bool.not_eq_true', not_or, Bool.not_eq_false] at hon
    split at hmore
    · next hband =>
      have hlow : s.underrun.events < (s.underrun.low cfg obs.fill).events := by
        refine lt_of_lt_of_eq hmore ?_
        unfold UnderrunCore.recover
        split <;> rfl
      unfold UnderrunCore.low at hlow
      split at hlow
      · next hfill =>
        split at hlow
        · next hconf => exact ⟨hon.1, hon.2, hband, hfill, hconf.1, hconf.2⟩
        · exact absurd hlow (lt_irrefl _)
      · exact absurd hlow (lt_irrefl _)
    · exact absurd hmore (lt_irrefl _)

/-! ## The invariant -/

/-- `underrun_run_` stands for that many newest fills, all low. -/
structure UnderrunInv (cfg : QueueSyncConfig) (s : QueueSyncController) (fills : List Int) : Prop where
  nonneg : 0 ≤ s.underrunRun
  quiet : s.phase = .idle ∨ s.phase = .warmup → s.underrunRun = 0
  known : 0 < s.underrunRun → 0 ≤ cfg.protectFill
  covered : s.underrunRun.toNat ≤ fills.length
  low : ∀ fill ∈ fills.take s.underrunRun.toNat, fill ≤ cfg.protectFill

theorem underrunInv_of_zero {cfg : QueueSyncConfig} {s : QueueSyncController} {fills : List Int}
    (h : s.underrunRun = 0) : UnderrunInv cfg s fills := by
  refine ⟨?_, fun _ => h, ?_, ?_, ?_⟩
  · rw [h]
  · intro hpos
    omega
  · simp [h]
  · simp [h]

/-- A stream does not lead back to idle or warmup. -/
theorem run_quiet (cfg : QueueSyncConfig) (obs : Observation) (isFresh : Bool) (c : PhaseCore)
    (h : (c.run cfg obs isFresh).phase = .idle ∨ (c.run cfg obs isFresh).phase = .warmup) :
    c.phase = .idle ∨ c.phase = .warmup := by
  unfold PhaseCore.run at h
  cases hp : c.phase with
  | idle => exact .inl rfl
  | warmup => exact .inr rfl
  | drain =>
    simp only [hp] at h
    split at h <;> simp_all
  | track =>
    simp only [hp] at h
    split at h <;> simp_all

/-- The newest fill is low, or it was above the band and the counter was at zero. -/
theorem low_or_zero {cfg : QueueSyncConfig} {s : QueueSyncController} {fills : List Int}
    (h : UnderrunInv cfg s fills) {obs : Observation} (hclean : CleanRun cfg s (.step obs))
    (hstream : obs.streaming = true) (hfresh : fresh s obs = true) (hout : inBand cfg s obs = false) :
    s.underrunRun = 0 ∨ obs.fill ≤ cfg.protectFill := by
  by_cases hzero : s.underrunRun = 0
  · exact .inl hzero
  · right
    have hpos : 0 < s.underrunRun := lt_of_le_of_ne h.nonneg (Ne.symm hzero)
    have hknown := h.known hpos
    by_contra hhigh
    have hskip := fun hp => hzero (hclean hstream hfresh (not_le.mp hhigh) hp)
    cases hp : s.phase with
    | idle => exact hzero (h.quiet (.inl hp))
    | warmup => exact hzero (h.quiet (.inr hp))
    | drain => exact hskip (.inl hp)
    | track =>
      have hr : rebased cfg obs.fill = false := by
        by_contra hr
        exact hskip (.inr ⟨hp, by simpa using hr⟩)
      simp only [inBand, hp, hfresh, hr, decide_true, Bool.true_and, Bool.not_false,
        decide_eq_false_iff_not] at hout
      omega

/-- A step that leaves the counter alone. -/
theorem UnderrunInv.same {cfg : QueueSyncConfig} {s s' : QueueSyncController} {fills fills' : List Int}
    (h : UnderrunInv cfg s fills)
    (hphase : s'.phase = .idle ∨ s'.phase = .warmup → s.phase = .idle ∨ s.phase = .warmup)
    (hrun : s'.underrunRun = s.underrunRun) (hcovered : s.underrunRun.toNat ≤ fills'.length)
    (hlow : ∀ fill ∈ fills'.take s.underrunRun.toNat, fill ≤ cfg.protectFill) :
    UnderrunInv cfg s' fills' := by
  constructor
  · rw [hrun]; exact h.nonneg
  · intro hp; rw [hrun]; exact h.quiet (hphase hp)
  · rw [hrun]; exact h.known
  · rw [hrun]; exact hcovered
  · rw [hrun]; exact hlow

/-- The band test counts the newest fill, or clears the counter. -/
theorem UnderrunInv.band {cfg : QueueSyncConfig} {s s' : QueueSyncController} {fills : List Int}
    (h : UnderrunInv cfg s fills) {obs : Observation} (hband : inBand cfg s obs = true)
    (hphase : s'.phase = .idle ∨ s'.phase = .warmup → s.phase = .idle ∨ s.phase = .warmup)
    (hrun : s'.underrunRun = ((s.underrun.low cfg obs.fill).recover cfg obs.fill).run) :
    UnderrunInv cfg s' (obs.fill :: fills) := by
  simp only [inBand, Bool.and_eq_true, decide_eq_true_eq, Bool.not_eq_true'] at hband
  obtain ⟨⟨⟨htrack, -⟩, -⟩, hfill0⟩ := hband
  have h0 := h.nonneg
  by_cases hzero : s'.underrunRun = 0
  · exact underrunInv_of_zero hzero
  · have hlow : obs.fill ≤ cfg.protectFill ∧ s'.underrunRun = s.underrunRun + 1 := by
      unfold UnderrunCore.recover at hrun
      split at hrun
      · exact absurd hrun hzero
      · unfold UnderrunCore.low at hrun
        split at hrun
        · next hfill =>
          refine ⟨hfill, ?_⟩
          split at hrun <;> exact hrun
        · exact absurd hrun hzero
    obtain ⟨hfill, hsucc⟩ := hlow
    have hnat : s'.underrunRun.toNat = s.underrunRun.toNat + 1 := by omega
    refine ⟨by omega, ?_, fun _ => by omega, ?_, ?_⟩
    · intro hp
      rcases hphase hp with hp | hp
      · rw [htrack] at hp; cases hp
      · rw [htrack] at hp; cases hp
    · rw [hnat, List.length_cons]
      exact Nat.succ_le_succ h.covered
    · rw [hnat, List.take_succ_cons]
      intro fill hmem
      rcases List.mem_cons.mp hmem with rfl | hmem
      · exact hfill
      · exact h.low fill hmem

/-- **One step** keeps the invariant, when a skipped high fill finds the counter at zero. -/
theorem UnderrunInv.step {cfg : QueueSyncConfig} {m : Metered} (h : UnderrunInv cfg m.controller m.fills)
    (obs : Observation) (hclean : CleanRun cfg m.controller (.step obs)) :
    UnderrunInv cfg (m.step cfg (.step obs)).controller (m.step cfg (.step obs)).fills := by
  obtain ⟨hstep, -⟩ := step_underrun cfg m.controller obs
  have hcore := (step_core cfg m.controller obs).1
  show UnderrunInv cfg (QueueSync.step cfg m.controller obs).1
    (if obs.streaming && fresh m.controller obs then obs.fill :: m.fills else m.fills)
  generalize (QueueSync.step cfg m.controller obs).1 = s' at hstep hcore
  have hrun := congrArg UnderrunCore.run hstep
  change s'.underrunRun = _ at hrun
  by_cases hoff : (!cfg.enable || !obs.streaming) = true
  · rw [if_pos hoff] at hrun
    split at hrun
    · next hidle => exact underrunInv_of_zero (hrun.trans (h.quiet (.inl hidle)))
    · exact underrunInv_of_zero hrun
  · have hphase : s'.phase = .idle ∨ s'.phase = .warmup →
        m.controller.phase = .idle ∨ m.controller.phase = .warmup := by
      have hcs : s'.core = (m.controller.core.consume obs).run cfg obs (m.controller.core.fresh obs) := by
        rw [hcore]
        unfold PhaseCore.step
        rw [if_neg hoff]
      intro hp
      have hq := run_quiet cfg obs _ (m.controller.core.consume obs) (by rw [← hcs]; exact hp)
      rwa [(consume_keeps m.controller.core obs).1] at hq
    rw [if_neg hoff] at hrun
    simp only [Bool.or_eq_true, Bool.not_eq_true', not_or, Bool.not_eq_false] at hoff
    rw [hoff.2, Bool.true_and]
    cases hf : fresh m.controller obs with
    | false =>
      -- no observation: the counter and the fills stand
      have hout : inBand cfg m.controller obs = false := by simp [inBand, hf]
      simp only [hout, Bool.false_eq_true, if_false] at hrun
      rw [if_neg (by simp)]
      exact h.same hphase hrun h.covered h.low
    | true =>
      rw [if_pos rfl]
      cases hband : inBand cfg m.controller obs with
      | true =>
        simp only [hband, if_true] at hrun
        exact h.band hband hphase hrun
      | false =>
        simp only [hband, Bool.false_eq_true, if_false] at hrun
        have hkeep : s'.underrunRun = m.controller.underrunRun := hrun
        rcases low_or_zero h hclean hoff.2 hf hband with hzero | hlow
        · exact underrunInv_of_zero (hkeep.trans hzero)
        · refine h.same hphase hkeep (h.covered.trans (by simp)) ?_
          · intro fill hfill
            have hmem := (List.take_prefix_take_left (l := obs.fill :: m.fills)
              (Nat.le_succ m.controller.underrunRun.toNat)).subset hfill
            rw [List.take_succ_cons, List.mem_cons] at hmem
            rcases hmem with rfl | hmem
            · exact hlow
            · exact h.low fill hmem

theorem underrunInv_meteredAfter (cfg : QueueSyncConfig) (ops : List QueueSyncOp)
    (hclean : EveryStep (fun pre op => CleanRun cfg (meteredAfter cfg pre).controller op) ops) :
    UnderrunInv cfg (meteredAfter cfg ops).controller (meteredAfter cfg ops).fills := by
  refine hclean.invariant (fun pre => UnderrunInv cfg (meteredAfter cfg pre).controller
    (meteredAfter cfg pre).fills) (underrunInv_of_zero rfl) ?_
  intro pre op hinv hstep
  rw [meteredAfter_concat]
  cases op with
  | step obs => exact hinv.step obs hstep
  | reset => exact underrunInv_of_zero rfl

/-- A counting step is backed by `underrun_confirm` low fills. -/
theorem lowFills_of_counts {cfg : QueueSyncConfig} {m : Metered} (h : UnderrunInv cfg m.controller m.fills)
    {op : QueueSyncOp} (hcounts : Counts cfg m.controller op) : LowFills cfg m op := by
  cases op with
  | reset => exact hcounts
  | step obs =>
    obtain ⟨-, hstream, hband, hfill, hconf, -⟩ := counts_cases hcounts
    simp only [inBand, Bool.and_eq_true, decide_eq_true_eq] at hband
    obtain ⟨⟨⟨-, hfresh⟩, -⟩, -⟩ := hband
    have h0 := h.nonneg
    have hle : cfg.underrunConfirm.toNat ≤ m.controller.underrunRun.toNat + 1 := by omega
    have hfills : (m.step cfg (.step obs)).fills = obs.fill :: m.fills := by
      simp [Metered.step, hstream, hfresh]
    refine ⟨hfresh, hstream, ?_, ?_⟩
    · rw [hfills, List.length_cons]
      exact hle.trans (Nat.succ_le_succ h.covered)
    · rw [hfills]
      intro fill hmem
      have hmem' := (List.take_prefix_take_left hle).subset hmem
      rw [List.take_succ_cons, List.mem_cons] at hmem'
      rcases hmem' with rfl | hmem'
      · exact hfill
      · exact h.low fill hmem'

/-! ## Episodes -/

/-- An increment that does not re-arm by itself leaves `underrun_active_` set. -/
theorem active_of_counts {cfg : QueueSyncConfig} {s : QueueSyncController} {obs : Observation}
    (hcounts : Counts cfg s (.step obs)) (hno : ¬ Rearms cfg s (.step obs)) :
    (step cfg s obs).1.underrunActive = true := by
  obtain ⟨henable, hstream, hband, hfill, hconf, hactive⟩ := counts_cases hcounts
  have hfresh : fresh s obs = true := by
    simp only [inBand, Bool.and_eq_true] at hband
    exact hband.1.1.2
  have hbelow : ¬ cfg.targetFill ≤ obs.fill := fun h => hno (.inl ⟨hfresh, h⟩)
  have hstep := congrArg UnderrunCore.active (step_underrun cfg s obs).1
  rw [if_neg (by simp [henable, hstream]), if_pos hband] at hstep
  unfold UnderrunCore.recover at hstep
  rw [if_neg hbelow] at hstep
  unfold UnderrunCore.low at hstep
  rw [if_pos hfill, if_pos ⟨hconf, hactive⟩] at hstep
  exact hstep

/-- Only a recovery, a gap or a reset clears `underrun_active_`. -/
theorem active_of_not_rearms {cfg : QueueSyncConfig} {s : QueueSyncController} {obs : Observation}
    (henable : cfg.enable = true) (hactive : s.underrunActive = true)
    (hno : ¬ Rearms cfg s (.step obs)) : (step cfg s obs).1.underrunActive = true := by
  have hstream : obs.streaming = true := by
    by_contra h
    exact hno (.inr (by simpa using h))
  have hstep := congrArg UnderrunCore.active (step_underrun cfg s obs).1
  rw [if_neg (by simp [henable, hstream])] at hstep
  split at hstep
  · next hband =>
    have hfresh : fresh s obs = true := by
      simp only [inBand, Bool.and_eq_true] at hband
      exact hband.1.1.2
    have hbelow : ¬ cfg.targetFill ≤ obs.fill := fun h => hno (.inl ⟨hfresh, h⟩)
    unfold UnderrunCore.recover at hstep
    rw [if_neg hbelow] at hstep
    refine hstep.trans ?_
    unfold UnderrunCore.low
    split_ifs
    · rfl
    · exact hactive
    · exact hactive
  · exact hstep.trans hactive

theorem active_since (cfg : QueueSyncConfig) (henable : cfg.enable = true) (ops : List QueueSyncOp) :
    Since (fun pre op => Counts cfg (meteredAfter cfg pre).controller op ∧
        ¬ Rearms cfg (meteredAfter cfg pre).controller op)
      (fun pre op => Rearms cfg (meteredAfter cfg pre).controller op) ops →
      (meteredAfter cfg ops).controller.underrunActive = true := by
  induction ops using List.reverseRecOn with
  | nil => intro h; exact absurd h not_since_nil
  | append_singleton ops op ih =>
    rw [since_concat, meteredAfter_concat]
    cases op with
    | reset =>
      rintro (⟨h, -⟩ | ⟨-, hno⟩)
      · exact h.elim
      · exact absurd trivial hno
    | step obs =>
      rintro (⟨hcounts, hno⟩ | ⟨hsince, hno⟩)
      · exact active_of_counts hcounts hno
      · exact active_of_not_rearms henable (ih hsince) hno

/-- Between two increments the episode ended. -/
theorem rearms_between {cfg : QueueSyncConfig} {pre : List QueueSyncOp} {op : QueueSyncOp}
    (hcounts : Counts cfg (meteredAfter cfg pre).controller op) {before between : List QueueSyncOp}
    {first : QueueSyncOp} (hpre : pre = before ++ first :: between)
    (hfirst : Counts cfg (meteredAfter cfg before).controller first) :
    ∃ mid op' rest, first :: between = mid ++ op' :: rest ∧
      Rearms cfg (meteredAfter cfg (before ++ mid)).controller op' ∧
      (cfg.protectFill < cfg.targetFill → mid ≠ []) := by
  cases op with
  | reset => exact hcounts.elim
  | step obs =>
    obtain ⟨henable, -, -, -, -, hactive⟩ := counts_cases hcounts
    by_contra hnone
    have hone : ¬ Rearms cfg (meteredAfter cfg before).controller first := by
      intro hre
      refine hnone ⟨[], first, between, rfl, by simpa using hre, ?_⟩
      intro hband
      -- the increment's own fill is low, hence below the target
      cases first with
      | reset => exact hfirst.elim
      | step obs' =>
        obtain ⟨-, hstream, -, hfill, -, -⟩ := counts_cases hfirst
        rcases hre with ⟨-, htarget⟩ | hgap
        · omega
        · rw [hstream] at hgap; cases hgap
    have hsince := active_since cfg henable pre
      ⟨before, first, between, hpre, ⟨hfirst, hone⟩, ?_⟩
    · rw [hactive] at hsince
      cases hsince
    · rintro p y q rfl hre
      exact hnone ⟨first :: p, y, q, rfl, hre, fun _ => by simp⟩

/-- **Whole runs.**  When no high fill is skipped on a standing counter, each underrun event is
confirmed and begins an episode of its own. -/
theorem confirmed_of_cleanRun (cfg : QueueSyncConfig) (ops : List QueueSyncOp)
    (hclean : EveryStep (fun pre op => CleanRun cfg (meteredAfter cfg pre).controller op) ops) :
    EveryStep (Confirmed cfg) ops := by
  intro pre op post hops hcounts
  refine ⟨?_, ?_⟩
  · exact lowFills_of_counts (underrunInv_meteredAfter cfg pre (hclean.of_append hops)) hcounts
  · intro before first between hpre hfirst
    exact rearms_between hcounts hpre hfirst

/-! ## The gap -/

/-- A streaming step with RBACK number `rback` and the given fill. -/
def reading (rback : Nat) (fill : Int) (nowNs : Nat) : QueueSyncOp :=
  .step { streaming := true, fillValid := true, fill := fill, rbackSequence := rback, nowNs := nowNs }

/-- Two low fills, a rebase to 20, the drain back to 5, and one more low fill. -/
def lowAroundDrain : List QueueSyncOp :=
  [reading 1 5 1, reading 2 5 2000000000, reading 3 0 2000000001, reading 4 0 2000000002,
    reading 5 20 2000000003, reading 6 5 2000000004]

/-- The third low fill is counted on top of the two before the drain. -/
theorem drain_keeps_old_low_fills :
    ¬ ∀ (cfg : QueueSyncConfig) (ops : List QueueSyncOp), 1 ≤ cfg.underrunConfirm →
      EveryStep (Confirmed cfg) ops := by
  intro h
  have hrun := h streamingConfig (lowAroundDrain ++ [reading 7 0 2000000005]) (by decide)
    lowAroundDrain (reading 7 0 2000000005) [] rfl
  have hcounts : Counts streamingConfig (meteredAfter streamingConfig lowAroundDrain).controller
      (reading 7 0 2000000005) := by
    show (_ : Nat) < _
    decide +kernel
  have hfills : 5 ∈ ((meteredAfter streamingConfig lowAroundDrain).step streamingConfig
      (reading 7 0 2000000005)).fills.take 3 := by decide +kernel
  exact absurd ((hrun hcounts).1.2.2.2 5 hfills) (by decide)

/-- Three low fills in a row in track: the run is counted and within the condition. -/
theorem confirmed_of_cleanRun_sample :
    (meteredAfter streamingConfig [reading 1 5 1, reading 2 5 2000000000, reading 3 0 2000000001,
      reading 4 0 2000000002, reading 5 0 2000000003]).controller.counters.underrunEvents = 1 ∧
    EveryStep (Confirmed streamingConfig) [reading 1 5 1, reading 2 5 2000000000,
      reading 3 0 2000000001, reading 4 0 2000000002, reading 5 0 2000000003] := by
  refine ⟨by decide +kernel, confirmed_of_cleanRun streamingConfig _ ?_⟩
  refine everyStep_of_take ?_
  decide +kernel

end RbServo.QueueSync
