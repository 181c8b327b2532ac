import RoboticsLab.Stream.Sections

/-!
# The dispatcher is a run of the interleaved threads

For a source that never infers on the control thread, each section of a call is a run of the interleaved threads, so
each call of the dispatcher is one (`call_reaches`), and what holds of every interleaving holds after every run of
calls (`runCalls_current`).
-/

namespace PolicyRunner

namespace ChunkStream

variable {P R T : Type} [Add T] [LE T] [DecidableLE T] (cfg : StreamConfig T)

/-- The second state follows from the first by sections and steps, with no chunk in hand before and after. -/
def Reaches (s s' : ChunkStream P R T) : Prop :=
  ∃ xs : List (StreamStep P R T), xs.foldl (StreamThreads.step cfg) ⟨s, none⟩ = ⟨s', none⟩

variable {cfg} {b : Bool} {s s' s'' : ChunkStream P R T}

theorem Reaches.refl (s : ChunkStream P R T) : Reaches cfg s s := ⟨[], rfl⟩

theorem Reaches.trans (h : Reaches cfg s s') (h' : Reaches cfg s' s'') : Reaches cfg s s'' := by
  obtain ⟨xs, hx⟩ := h
  obtain ⟨ys, hy⟩ := h'
  exact ⟨xs ++ ys, by rw [List.foldl_append, hx, hy]⟩

/-! ## The sections -/

theorem Section.reaches (hcfg : cfg.nonblockingStreamInference = true) (h : Section cfg b s s') : Reaches cfg s s' := by
  cases h with
  | worker w => exact ⟨[.worker w], rfl⟩
  | request payload => exact ⟨[.request payload], rfl⟩
  | takeNone h => exact ⟨[.take], by simp [StreamThreads.step, h]⟩
  | activate h now grid => exact ⟨[.take, .activate now grid], by simp [StreamThreads.step, h]⟩
  | discard h => exact ⟨[.take, .discard], by simp [StreamThreads.step, h]⟩
  | inline hinline _ now =>
    rw [hcfg] at hinline
    cases hinline
  | inlineFailed hinline _ =>
    rw [hcfg] at hinline
    cases hinline
  | play p _ => exact ⟨[.play p], rfl⟩

theorem Sections.reaches (hcfg : cfg.nonblockingStreamInference = true) (h : Sections cfg b s s') : Reaches cfg s s' :=
  h.invariant (fun _ _ hsec hr => hr.trans (hsec.reaches hcfg)) (.refl s)

/-! ## The calls -/

/-- **One call.** -/
theorem call_reaches (hcfg : cfg.nonblockingStreamInference = true) (s : ChunkStream P R T) (x : SourceCall P R T) :
    Reaches cfg s (s.call cfg x).1 := by
  cases x with
  | nextIntent t => exact (sections_nextIntentStreamed s t).reaches hcfg
  | recovery t => exact (sections_previewRecoveryIntent s t).reaches hcfg
  | invalidate => exact ⟨[.invalidate], rfl⟩
  | close => exact ⟨[.close], rfl⟩
  | worker w => exact ⟨[.worker w], rfl⟩

/-! ## Whole runs -/

theorem reaches_runCalls (hcfg : cfg.nonblockingStreamInference = true) (s : ChunkStream P R T)
    (calls : List (SourceCall P R T)) : Reaches cfg s (s.runCalls cfg calls) := by
  induction calls generalizing s with
  | nil => exact .refl s
  | cons x calls ih => exact (call_reaches hcfg s x).trans (ih _)

/-- **Whole runs.**  After every run of calls the active chunk is of the current generation, and at most one request
of a generation is outstanding. -/
theorem runCalls_current (hcfg : cfg.nonblockingStreamInference = true) (zero : T) (calls : List (SourceCall P R T)) :
    (∀ a, ((start zero).runCalls cfg calls).chunk = some a →
        a.source.request.generation = ((start zero).runCalls cfg calls).generation) ∧
      ∀ g, (((start zero).runCalls cfg calls).outstanding.filter fun r => r.generation = g).length ≤ 1 := by
  obtain ⟨xs, hx⟩ := reaches_runCalls hcfg (start zero) calls
  have h := StreamThreads.run_sound cfg zero xs
  have hrun : StreamThreads.run cfg zero xs = ⟨(start zero).runCalls cfg calls, none⟩ := hx
  rw [hrun] at h
  exact ⟨fun a ha => (h.active a ha).1, h.outstanding_le_one⟩

end ChunkStream

end PolicyRunner
