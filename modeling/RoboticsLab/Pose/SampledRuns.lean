import Mathlib.Tactic.IntervalCases
import RoboticsLab.Lib.Runs
import RoboticsLab.Pose.NoJumps

/-!
# Runs of the conditioner

`ConditionerRun.after` plays a list of calls and records the samples.  The invariant is that the chunk being played
would repeat, at the time of the last sample, the position that was sampled there (`Continues`).

    successive_positions : EveryStep InOrder calls →
      ‖b.position - a.position‖ ≤ maxSpeed (pre ++ [a, b]) * (b.tWall - a.tWall)
-/

namespace PolicyRunner

variable {E O : Type*} [NormedAddCommGroup E] [NormedSpace ℝ E] (cfg : ConditionerConfig ℝ O)

/-- The largest speed of the chunks that were sampled. -/
noncomputable def maxSpeed (samples : List (SampledPose ℝ E O)) : ℝ :=
  ((samples.filterMap SampledPose.chunk).map (ChunkKnots.speed cfg)).foldr max 0

omit [NormedSpace ℝ E] in
theorem speed_le_maxSpeed {samples : List (SampledPose ℝ E O)} {x : SampledPose ℝ E O} {c : ChunkKnots ℝ E O}
    (hx : x ∈ samples) (hc : x.chunk = some c) : c.speed cfg ≤ maxSpeed cfg samples :=
  le_foldr_max (List.mem_map_of_mem (List.mem_filterMap.mpr ⟨x, hx, hc⟩))

/-! ## One call -/

omit [NormedSpace ℝ E] in
theorem prevEmitted_hold (s : Conditioner ℝ E O) {p : Pose E O} (h : s.prevEmitted = some p) :
    (s.hold cfg).1.prevEmitted = some p ∧ (s.hold cfg).2.pose = p ∧ (s.hold cfg).1.chunk = s.chunk := by
  simp [Conditioner.hold, Conditioner.emit, h]

/-- What a sample emits is emitted last, and the chunk stays. -/
theorem sample_fst (s : Conditioner ℝ E O) (t : ℝ) :
    (s.sample cfg t).1.prevEmitted = some (s.sample cfg t).2.pose ∧ (s.sample cfg t).1.chunk = s.chunk := by
  unfold Conditioner.sample
  cases hc : s.chunk with
  | none => simp [Conditioner.hold, Conditioner.emit, hc]
  | some c => simp [Conditioner.emit, hc]

theorem sample_pose_of_chunk {s : Conditioner ℝ E O} {c : ChunkKnots ℝ E O} (h : s.chunk = some c) (t : ℝ) :
    (s.sample cfg t).2.pose = c.poseAt cfg t := by
  simp [Conditioner.sample, h, Conditioner.emit]

theorem sample_pose_of_none {s : Conditioner ℝ E O} {p : Pose E O} (h : s.chunk = none)
    (hp : s.prevEmitted = some p) (t : ℝ) : (s.sample cfg t).2.pose = p := by
  simp [Conditioner.sample, h, (prevEmitted_hold cfg s hp).2.1]

/-- In the continuous modes a new chunk is anchored at the last pose emitted. -/
theorem beginChunk_ok {s s' : Conditioner ℝ E O} {b : BeginChunk ℝ E O} (hmode : cfg.reanchorMode ≠ .measuredLegacy)
    (h : s.beginChunk cfg b = .ok s') : s'.prevEmitted = s.prevEmitted ∧
      ∃ c, s'.chunk = some c ∧ c.tWallStart = b.tWallStart ∧ ∀ p ∈ s.prevEmitted, c.anchor = p := by
  unfold Conditioner.beginChunk at h
  split at h
  · cases h
  · split at h
    · cases h
    · rename_i anchor body hknots
      split at h
      · cases h
      · cases h
        refine ⟨rfl, _, rfl, rfl, fun p hp => ?_⟩
        rw [Option.mem_def] at hp
        unfold Conditioner.knotsOf at hknots
        rw [hp] at hknots
        split at hknots
        · contradiction
        · contradiction
        · rename_i hprev
          cases hprev
          cases hreq : requireContinuous b.continuousTargets b.measuredTargets.length with
          | error e => simp [hreq, Except.map] at hknots
          | ok body => simp_all [Except.map]
        · rename_i hprev
          cases hprev
          cases hreq : requireContinuous b.continuousTargets b.measuredTargets.length with
          | error e => simp [hreq, Except.map] at hknots
          | ok body => simp_all [Except.map]

/-! ## One call of a run -/

namespace ConditionerRun

variable {r : ConditionerRun ℝ E O}

variable (r) in
/-- The last sample is the last pose emitted, and the chunk being played has its position there. -/
def Continues : Prop :=
  ∀ x ∈ r.samples.getLast?, r.conditioner.prevEmitted = some x.pose ∧
    ∀ c ∈ r.conditioner.chunk, (c.poseAt cfg x.tWall).position = x.pose.position

theorem continues_play {x : ConditionerCall ℝ E O} (hmode : cfg.reanchorMode ≠ .measuredLegacy)
    (h : r.Continues cfg) (hord : r.InOrder x) : (r.play cfg x).Continues cfg := by
  cases x with
  | beginChunk b =>
    intro x hx
    obtain ⟨hprev, hchunk⟩ := h x hx
    cases hb : r.conditioner.beginChunk cfg b with
    | error e => simpa [play, Conditioner.call, hb] using And.intro hprev hchunk
    | ok s' =>
      obtain ⟨hprev', c, hc, hstart, hanchor⟩ := beginChunk_ok cfg hmode hb
      simp only [play, Conditioner.call, hb]
      refine ⟨hprev'.trans hprev, fun d hd => ?_⟩
      rw [hc, Option.mem_def, Option.some.injEq] at hd
      subst hd
      -- the new chunk is clamped at its anchor, which is the last sample
      rw [c.position_of_le cfg (hstart ▸ hord x (List.mem_of_getLast? hx)), hanchor x.pose hprev]
  | sample t =>
    intro x hx
    obtain ⟨hprev', hchunk'⟩ := sample_fst cfg r.conditioner t
    simp only [play, Conditioner.call, List.getLast?_concat, Option.mem_def, Option.some.injEq] at hx ⊢
    subst hx
    refine ⟨hprev', fun c hc => ?_⟩
    rw [hchunk'] at hc
    rw [sample_pose_of_chunk cfg hc]
  | hold =>
    intro x hx
    obtain ⟨hprev, hchunk⟩ := h x hx
    obtain ⟨hprev', -, hchunk'⟩ := prevEmitted_hold cfg _ hprev
    refine ⟨hprev', fun c hc => hchunk c ?_⟩
    simpa [play, Conditioner.call, hchunk'] using hc

/-- The position moves between the last sample and a new one at no more than the speed of the new one's chunk. -/
theorem next_position {t : ℝ} {a : SampledPose ℝ E O} (h : r.Continues cfg) (ha : a ∈ r.samples.getLast?)
    (hle : a.tWall ≤ t) (pre : List (SampledPose ℝ E O)) :
    ‖(r.conditioner.sample cfg t).2.pose.position - a.pose.position‖ ≤
      maxSpeed cfg (pre ++ [a, ⟨t, (r.conditioner.sample cfg t).2.pose, r.conditioner.chunk⟩]) * (t - a.tWall) := by
  obtain ⟨hprev, hchunk⟩ := h a ha
  have hsub : 0 ≤ t - a.tWall := sub_nonneg.mpr hle
  cases hc : r.conditioner.chunk with
  | none =>
    rw [sample_pose_of_none cfg hc hprev, sub_self, norm_zero]
    exact mul_nonneg (foldr_max_nonneg _) hsub
  | some c =>
    rw [sample_pose_of_chunk cfg hc, ← hchunk c hc]
    refine (c.position_sub_le cfg hle).trans (mul_le_mul_of_nonneg_right ?_ hsub)
    refine speed_le_maxSpeed cfg (x := ⟨t, c.poseAt cfg t, some c⟩) ?_ rfl
    simp

/-- The bound between two samples taken one after the other. -/
def Bounded (samples : List (SampledPose ℝ E O)) : Prop :=
  ∀ pre a b post, samples = pre ++ a :: b :: post →
    ‖b.pose.position - a.pose.position‖ ≤ maxSpeed cfg (pre ++ [a, b]) * (b.tWall - a.tWall)

omit [NormedSpace ℝ E] in
theorem bounded_concat {samples : List (SampledPose ℝ E O)} {b : SampledPose ℝ E O} (h : Bounded cfg samples)
    (hb : ∀ pre a, samples = pre ++ [a] →
      ‖b.pose.position - a.pose.position‖ ≤ maxSpeed cfg (pre ++ [a, b]) * (b.tWall - a.tWall)) :
    Bounded cfg (samples ++ [b]) := by
  intro pre a b' post e
  cases post using List.reverseRecOn with
  | nil =>
    have e' : samples ++ [b] = (pre ++ [a]) ++ [b'] := by simpa using e
    obtain ⟨hs, hb'⟩ := List.append_inj' e' rfl
    cases hb'
    exact hb pre a hs
  | append_singleton post c =>
    have e' : samples ++ [b] = (pre ++ a :: b' :: post) ++ [c] := by simpa using e
    exact h pre a b' post (List.append_inj' e' rfl).1

theorem bounded_play {x : ConditionerCall ℝ E O} (h : r.Continues cfg) (hord : r.InOrder x)
    (hs : Bounded cfg r.samples) : Bounded cfg (r.play cfg x).samples := by
  cases x with
  | beginChunk b =>
    cases hb : r.conditioner.beginChunk cfg b with
    | error e => simpa [play, Conditioner.call, hb] using hs
    | ok s' => simpa [play, Conditioner.call, hb] using hs
  | sample t =>
    refine bounded_concat cfg hs fun pre a e => ?_
    refine next_position cfg h ?_ (hord a ?_) pre
    · rw [e]
      simp
    · rw [e]
      simp
  | hold => exact hs

/-- The samples taken at the time of a target. -/
def AtTargets (samples : List (SampledPose ℝ E O)) : Prop :=
  ∀ x ∈ samples, ∀ c, x.chunk = some c → ∀ (j : ℕ) (hj : j < c.body.length),
    x.tWall = c.tWallStart + ((j : ℝ) + 1) * cfg.policyDtSec → x.pose.position = c.body[j].position

theorem atTargets_play {x : ConditionerCall ℝ E O} (h : AtTargets cfg r.samples) :
    AtTargets cfg (r.play cfg x).samples := by
  cases x with
  | beginChunk b =>
    cases hb : r.conditioner.beginChunk cfg b with
    | error e => simpa [play, Conditioner.call, hb] using h
    | ok s' => simpa [play, Conditioner.call, hb] using h
  | sample t =>
    intro y hy c hc j hj ht
    rcases List.mem_append.mp hy with hy | hy
    · exact h y hy c hc j hj ht
    · obtain rfl := List.mem_singleton.mp hy
      show (r.conditioner.sample cfg t).2.pose.position = _
      rw [sample_pose_of_chunk cfg hc]
      exact c.position_at_target cfg hj ht
  | hold => exact h

end ConditionerRun

/-! ## Runs -/

open ConditionerRun in
/-- **The conditioner never jumps.** -/
theorem successive_positions (hmode : cfg.reanchorMode ≠ .measuredLegacy) {calls : List (ConditionerCall ℝ E O)}
    (h : Runs.EveryStep (fun pre x => (ConditionerRun.after cfg pre).InOrder x) calls) :
    (∀ pre a b post, (ConditionerRun.after cfg calls).samples = pre ++ a :: b :: post →
      ‖b.pose.position - a.pose.position‖ ≤ maxSpeed cfg (pre ++ [a, b]) * (b.tWall - a.tWall)) ∧
    (∀ x ∈ (ConditionerRun.after cfg calls).samples, ∀ c, x.chunk = some c → ∀ (j : ℕ) (hj : j < c.body.length),
      x.tWall = c.tWallStart + ((j : ℝ) + 1) * cfg.policyDtSec → x.pose.position = c.body[j].position) := by
  have hall := h.invariant (fun pre => (after cfg pre).Continues cfg ∧ Bounded cfg (after cfg pre).samples ∧
      AtTargets cfg (after cfg pre).samples) ?_ fun pre x hi hx => ?_
  · exact hall.2
  · refine ⟨fun x hx => ?_, fun pre a b post e => ?_, fun x hx => ?_⟩
    · simp [after] at hx
    · simp [after] at e
    · simp [after] at hx
  · obtain ⟨hc, hb, ht⟩ := hi
    rw [after_concat]
    exact ⟨continues_play cfg hmode hc hx, bounded_play cfg hc hx hb, atTargets_play cfg ht⟩

/-- One step of a second, on a line. -/
def lineConfig : ConditionerConfig ℝ Unit := ⟨.lastEmittedContinuous, 1, 0, fun o _ _ => o, (), one_pos⟩

/-- A chunk to 1 that is cut short at half of its step by a chunk to 2, measured elsewhere. -/
noncomputable def lineCalls : List (ConditionerCall ℝ ℝ Unit) :=
  [.beginChunk ⟨⟨0, ()⟩, [⟨1, ()⟩], none, 0, 0⟩, .sample 0, .sample (1 / 2),
    .beginChunk ⟨⟨9, ()⟩, [⟨9, ()⟩], some [⟨2, ()⟩], 1 / 2, 1⟩, .hold, .sample 1]

theorem successive_positions_line :
    (∀ pre a b post, (ConditionerRun.after lineConfig lineCalls).samples = pre ++ a :: b :: post →
      ‖b.pose.position - a.pose.position‖ ≤ maxSpeed lineConfig (pre ++ [a, b]) * (b.tWall - a.tWall)) ∧
    (∀ x ∈ (ConditionerRun.after lineConfig lineCalls).samples, ∀ c, x.chunk = some c →
      ∀ (j : ℕ) (hj : j < c.body.length), x.tWall = c.tWallStart + ((j : ℝ) + 1) * lineConfig.policyDtSec →
        x.pose.position = c.body[j].position) := by
  refine successive_positions lineConfig (by simp [lineConfig]) (Runs.everyStep_of_take fun i hi x hx => ?_)
  have hi : i < 6 := hi
  interval_cases i <;> simp only [lineCalls, List.getElem?_cons_zero, List.getElem?_cons_succ, Option.mem_def,
    Option.some.injEq] at hx <;> subst hx <;>
    simp [lineCalls, ConditionerRun.after, ConditionerRun.play, Conditioner.call, ConditionerRun.InOrder,
      Conditioner.beginChunk, Conditioner.knotsOf, Conditioner.init, lineConfig]
  all_goals norm_num

end PolicyRunner
