import Mathlib.Data.List.Induction
import Mathlib.Data.List.Nodup
import Std.Data.String.ToNat
import RoboticsLab.SpaceMouse.Registry

/-!
# The assignments are an injection, locked by the generation

`Consistent` is the invariant of the devices and the assignments, `ThreadSound` what the discovery thread knows of the
device it looked up, and `Advances` what any step does to the generation.  `assignments_locked` puts them together for
every interleaving.
-/

namespace PolicyRunner.SpaceMouse

/-! ## Connection ids -/

theorem not_mem_repr (n : ℕ) : '-' ∉ n.repr.toList := by
  intro h
  rw [Nat.toList_repr] at h
  exact absurd (Nat.isDigit_of_mem_toDigits (by decide) (by decide) h) (by decide)

/-- The counter can be read off the connection id. -/
theorem connectionIdOf_inj {g g' n n' : ℕ} (h : connectionIdOf g n = connectionIdOf g' n') : n = n' := by
  have hl := congrArg String.toList h
  simp only [connectionIdOf, String.toList_append, List.append_assoc] at hl
  have hl := List.append_cancel_left hl
  -- both lists split at their first dash
  have hsplit : ∀ a b : List Char, '-' ∉ a → (a ++ ("-".toList ++ b)).dropWhile (· ≠ '-') = '-' :: b := by
    intro a b ha
    rw [List.dropWhile_append_of_pos fun c hc => by simpa using fun e : c = '-' => ha (e ▸ hc)]
    rfl
  have hd := congrArg (List.dropWhile (· ≠ '-')) hl
  rw [hsplit _ _ (not_mem_repr g), hsplit _ _ (not_mem_repr g'), List.cons.injEq] at hd
  exact Nat.repr_injective (String.toList_inj.mp hd.2)

namespace Registry

variable {s s' t : Registry}

/-! ## The generation -/

/-- What a status says of a device that is not about its samples. -/
def DeviceStatus.identity (d : DeviceStatus) : String × String × String × String × ℤ :=
  (d.connectionId, d.product, d.serial, d.path, d.interfaceNumber)

/-- The connected devices, by descriptor and connection id. -/
def connections (s : Registry) : List (HidDescriptor × String) := s.devices.map fun d => (d.descriptor, d.connectionId)

/-- The generation does not go back, and while it stays nothing it stands for changes. -/
structure Advances (s s' : Registry) : Prop where
  le : s.generation ≤ s'.generation
  same : s'.generation = s.generation → s'.connections = s.connections ∧ s'.left = s.left ∧ s'.right = s.right

theorem Advances.refl (s : Registry) : Advances s s := ⟨le_rfl, fun _ => ⟨rfl, rfl, rfl⟩⟩

theorem Advances.trans (h : Advances s s') (h' : Advances s' t) : Advances s t where
  le := h.le.trans h'.le
  same e := by
    have hst := h.le
    have hst' := h'.le
    obtain ⟨hc, hl, hr⟩ := h.same (by omega)
    obtain ⟨hc', hl', hr'⟩ := h'.same (by omega)
    exact ⟨hc'.trans hc, hl'.trans hl, hr'.trans hr⟩

theorem Advances.of_lt (h : s.generation < s'.generation) : Advances s s' :=
  ⟨h.le, fun e => absurd e h.ne'⟩

theorem Advances.foldl {α : Type} {f : Registry → α → Registry} (h : ∀ s x, Advances s (f s x)) (xs : List α)
    (s : Registry) : Advances s (xs.foldl f s) := by
  induction xs generalizing s with
  | nil => exact Advances.refl s
  | cons x xs ih => exact (h s x).trans (ih (f s x))

theorem disconnectLocked_advances (s : Registry) (path reason : String) :
    Advances s (s.disconnectLocked path reason) := by
  unfold disconnectLocked
  cases s.findDevice path with
  | none => exact Advances.refl s
  | some d => exact Advances.of_lt (Nat.lt_succ_self _)

theorem connect_advances (readerFactory : String → Except String Unit) (s : Registry) (d : HidDescriptor) :
    Advances s (s.connect readerFactory d) := by
  unfold connect
  cases s.findDevice d.path with
  | some _ => exact Advances.refl s
  | none =>
    cases readerFactory d.path with
    | error e => exact ⟨le_rfl, fun _ => ⟨rfl, rfl, rfl⟩⟩
    | ok u => exact Advances.of_lt (Nat.lt_succ_self _)

/-! ## The invariant -/

def ids (s : Registry) : List String := s.devices.map (·.connectionId)

structure Consistent (s : Registry) : Prop where
  paths : (s.devices.map (·.descriptor.path)).Nodup
  ids_nodup : s.ids.Nodup
  left_connected : ∀ c, s.left = some c → c ∈ s.ids
  right_connected : ∀ c, s.right = some c → c ∈ s.ids
  distinct : s.left = s.right → s.left = none
  issued_nodup : s.issued.Nodup
  ids_issued : ∀ c ∈ s.ids, c ∈ s.issued
  counted : ∀ c ∈ s.issued, ∃ g n, n ≤ s.connectionCounter ∧ c = connectionIdOf g n
  samples : ∀ d ∈ s.devices, ∀ x, d.sample = some x → (d.connectionId, x) ∈ s.reads

theorem findDevice_some {path : String} {d : ConnectedDevice} (h : s.findDevice path = some d) :
    d ∈ s.devices ∧ d.descriptor.path = path := by
  have := List.find?_some h
  exact ⟨List.mem_of_find?_eq_some h, by simpa using this⟩

theorem disconnectLocked_consistent (hs : s.Consistent) (path reason : String) :
    (s.disconnectLocked path reason).Consistent := by
  unfold disconnectLocked
  cases hd : s.findDevice path with
  | none => exact hs
  | some d =>
    obtain ⟨hmem, hpath⟩ := findDevice_some hd
    have hsub := (List.filter_sublist (l := s.devices) (p := fun d => d.descriptor.path ≠ path))
    -- an id that is not the device's belongs to a device that stays
    have hstay : ∀ c, c ∈ s.ids → c ≠ d.connectionId →
        c ∈ (s.devices.filter fun d => d.descriptor.path ≠ path).map (·.connectionId) := by
      intro c hc hne
      obtain ⟨e, he, rfl⟩ := List.mem_map.mp hc
      refine List.mem_map.mpr ⟨e, List.mem_filter.mpr ⟨he, ?_⟩, rfl⟩
      rw [decide_eq_true_eq]
      intro hp
      exact hne (congrArg _ (List.inj_on_of_nodup_map hs.paths he hmem (hp.trans hpath.symm)))
    exact
      { paths := hs.paths.sublist (hsub.map _)
        ids_nodup := hs.ids_nodup.sublist (hsub.map _)
        left_connected := by
          intro c hc
          by_cases hl : s.left = some d.connectionId
          · simp [hl] at hc
          · simp only [if_neg hl] at hc
            exact hstay c (hs.left_connected c hc) fun e => hl (e ▸ hc)
        right_connected := by
          intro c hc
          by_cases hr : s.right = some d.connectionId
          · simp [hr] at hc
          · simp only [if_neg hr] at hc
            exact hstay c (hs.right_connected c hc) fun e => hr (e ▸ hc)
        distinct := by
          intro e
          by_cases hl : s.left = some d.connectionId
          · simp [hl]
          · simp only [if_neg hl] at e ⊢
            by_cases hr : s.right = some d.connectionId
            · simpa [hr] using e
            · rw [if_neg hr] at e
              exact hs.distinct e
        issued_nodup := hs.issued_nodup
        ids_issued := fun c hc => hs.ids_issued c ((hsub.map _).subset hc)
        counted := hs.counted
        samples := fun e he => hs.samples e (hsub.subset he) }

theorem connect_consistent (hs : s.Consistent) (readerFactory : String → Except String Unit) (d : HidDescriptor) :
    (s.connect readerFactory d).Consistent := by
  unfold connect
  cases hd : s.findDevice d.path with
  | some _ => exact hs
  | none =>
    cases readerFactory d.path with
    | error e => exact ⟨hs.1, hs.2, hs.3, hs.4, hs.5, hs.6, hs.7, hs.8, hs.9⟩
    | ok u =>
      have hfree : ∀ e ∈ s.devices, e.descriptor.path ≠ d.path := by
        intro e he
        simpa using List.find?_eq_none.mp hd e he
      -- the counter has not been used
      have hnew : connectionIdOf (s.generation + 1) (s.connectionCounter + 1) ∉ s.issued := by
        intro h
        obtain ⟨g, n, hn, e⟩ := hs.counted _ h
        have := connectionIdOf_inj e
        omega
      exact
        { paths := by
            simp only [List.map_append, List.map_cons, List.map_nil]
            refine List.nodup_append.mpr ⟨hs.paths, by simp, ?_⟩
            rintro a ha b hb rfl
            obtain ⟨e, he, rfl⟩ := List.mem_map.mp ha
            exact hfree e he (by simpa using hb)
          ids_nodup := by
            simp only [ids, List.map_append, List.map_cons, List.map_nil]
            refine List.nodup_append.mpr ⟨hs.ids_nodup, by simp, ?_⟩
            rintro a ha b hb rfl
            rw [List.mem_singleton] at hb
            exact hnew (hb ▸ hs.ids_issued a ha)
          left_connected := fun c hc => by
            simpa [ids] using Or.inl (by simpa [ids] using hs.left_connected c hc)
          right_connected := fun c hc => by
            simpa [ids] using Or.inl (by simpa [ids] using hs.right_connected c hc)
          distinct := hs.distinct
          issued_nodup := by
            refine List.nodup_append.mpr ⟨hs.issued_nodup, by simp, ?_⟩
            rintro a ha b hb rfl
            rw [List.mem_singleton] at hb
            exact hnew (hb ▸ ha)
          ids_issued := by
            intro c hc
            simp only [ids, List.map_append, List.map_cons, List.map_nil, List.mem_append] at hc
            exact List.mem_append.mpr (hc.imp (hs.ids_issued c) id)
          counted := by
            intro c hc
            rcases List.mem_append.mp hc with hc | hc
            · obtain ⟨g, n, hn, e⟩ := hs.counted c hc
              exact ⟨g, n, by simp only; omega, e⟩
            · exact ⟨_, _, le_rfl, List.mem_singleton.mp hc⟩
          samples := by
            intro e he x hx
            rcases List.mem_append.mp he with he | he
            · exact hs.samples e he x hx
            · rw [List.mem_singleton] at he
              simp [he] at hx }

theorem Consistent.foldl {α : Type} {f : Registry → α → Registry} (h : ∀ s x, s.Consistent → (f s x).Consistent)
    (xs : List α) (hs : s.Consistent) : (xs.foldl f s).Consistent := by
  induction xs generalizing s with
  | nil => exact hs
  | cons x xs ih => exact ih (h s x hs)

/-! ## What the thread knows -/

/-- A device at the path of `device` is the same connection. -/
def Known (s : Registry) (device : ConnectedDevice) : Prop :=
  ∀ d ∈ s.devices, d.descriptor.path = device.descriptor.path → d.connectionId = device.connectionId

def ThreadSound (s : Registry) : Prop :=
  match s.thread with
  | .reading device _ => s.Known device
  | .storing device sample _ => s.Known device ∧ (device.connectionId, sample) ∈ s.reads
  | _ => True

/-- Calls from other threads do not add devices. -/
structure Keeps (s s' : Registry) : Prop where
  devices : s'.devices ⊆ s.devices
  thread : s'.thread = s.thread
  reads : s'.reads = s.reads

theorem Keeps.refl (s : Registry) : Keeps s s := ⟨List.Subset.refl _, rfl, rfl⟩

theorem Keeps.trans (h : Keeps s s') (h' : Keeps s' t) : Keeps s t :=
  ⟨List.Subset.trans h'.devices h.devices, h'.thread.trans h.thread, h'.reads.trans h.reads⟩

theorem Keeps.foldl {α : Type} {f : Registry → α → Registry} (h : ∀ s x, Keeps s (f s x)) (xs : List α)
    (s : Registry) : Keeps s (xs.foldl f s) := by
  induction xs generalizing s with
  | nil => exact Keeps.refl s
  | cons x xs ih => exact (h s x).trans (ih (f s x))

theorem disconnectLocked_keeps (s : Registry) (path reason : String) : Keeps s (s.disconnectLocked path reason) := by
  unfold disconnectLocked
  cases s.findDevice path with
  | none => exact Keeps.refl s
  | some d => exact ⟨List.filter_subset_self _, rfl, rfl⟩

theorem ThreadSound.of_keeps (hs : s.ThreadSound) (h : Keeps s s') : s'.ThreadSound := by
  unfold ThreadSound at *
  rw [h.thread]
  split
  · rename_i device paths ht
    rw [ht] at hs
    exact fun d hd => hs d (h.devices hd)
  · rename_i device sample paths ht
    rw [ht] at hs
    exact ⟨fun d hd => hs.1 d (h.devices hd), h.reads ▸ hs.2⟩
  · trivial

theorem known_of_mem (hs : s.Consistent) {device : ConnectedDevice} (h : device ∈ s.devices) : s.Known device :=
  fun _ hd hp => congrArg _ (List.inj_on_of_nodup_map hs.paths hd h hp)

/-! ## Commands -/

variable {py : PyText} {payload : Json.Object} {allowed : Bool}

theorem setAssignments_consistent (hs : s.Consistent) {l r : Option String} (hne : l = r → l = none)
    (hl : ∀ c, l = some c → c ∈ s.ids) (hr : ∀ c, r = some c → c ∈ s.ids) : (s.setAssignments l r).Consistent :=
  ⟨hs.1, hs.2, hl, hr, hne, hs.6, hs.7, hs.8, hs.9⟩

/-- What the locked section of a command can do. -/
theorem controlLocked_cases (py : PyText) (payload : Json.Object) (allowed : Bool) (hs : s.Consistent) (g : ℤ)
    (command : String) :
    (∃ reason, s.controlLocked py payload g command allowed = s.rejectLocked reason) ∨
      g = s.generation ∧ ∃ l r, s.controlLocked py payload g command allowed = s.setAssignments l r ∧
        (s.setAssignments l r).Consistent := by
  unfold controlLocked
  dsimp only
  split_ifs with h1 h2 h3 h4 h5 h6
  · exact .inl ⟨_, rfl⟩
  · exact .inl ⟨_, rfl⟩
  · exact .inl ⟨_, rfl⟩
  · exact .inl ⟨_, rfl⟩
  · refine .inr ⟨not_ne_iff.mp h2, _, _, rfl, setAssignments_consistent hs ?_ ?_ ?_⟩
    · intro e
      by_contra hl
      exact h4 ⟨hl, e⟩
    · intro c hc
      simp [hc] at h5
      simpa [ids] using h5.1
    · intro c hc
      simp [hc] at h5
      simpa [ids] using h5.2
  · refine .inr ⟨not_ne_iff.mp h2, _, _, rfl, ?_⟩
    exact setAssignments_consistent hs (fun e => e.trans (hs.distinct e.symm)) hs.right_connected hs.left_connected
  · exact .inl ⟨_, rfl⟩

/-- A command that raises or is not one changes nothing; any other goes through the locked section. -/
theorem handleControl_cases (py : PyText) (s : Registry) (payload : Json.Object) (allowed : Bool) :
    ((s.handleControl py payload allowed).1 ≠ .ok true ∧ (s.handleControl py payload allowed).2 = s) ∨
      ∃ seq g command, statusGeneration py payload = .ok g ∧ s.handleControl py payload allowed =
        (.ok true, ({ s with lastCommandSeq := seq } : Registry).controlLocked py payload g command allowed) := by
  unfold handleControl
  split
  · exact .inl ⟨by simp, rfl⟩
  · split
    · exact .inl ⟨by simp, rfl⟩
    · exact .inl ⟨by simp, rfl⟩
    · rename_i seq g _ hg
      exact .inr ⟨seq, g, _, hg, rfl⟩

theorem Consistent.of_eq (hs : s.Consistent) (hd : s'.devices = s.devices) (hl : s'.left = s.left)
    (hr : s'.right = s.right) (hi : s'.issued = s.issued) (hc : s'.connectionCounter = s.connectionCounter)
    (hreads : s.reads ⊆ s'.reads) : s'.Consistent := by
  obtain ⟨h1, h2, h3, h4, h5, h6, h7, h8, h9⟩ := hs
  unfold ids at *
  constructor <;> simp only [ids, hd, hl, hr, hi, hc] <;> try assumption
  exact fun d hd x hx => hreads (h9 d hd x hx)

theorem handleControl_sound (py : PyText) (payload : Json.Object) (allowed : Bool) (hs : s.Consistent) :
    (s.handleControl py payload allowed).2.Consistent ∧
    Advances s (s.handleControl py payload allowed).2 ∧ Keeps s (s.handleControl py payload allowed).2 := by
  rcases handleControl_cases py s payload allowed with ⟨-, h⟩ | ⟨seq, g, command, -, h⟩
  · rw [h]
    exact ⟨hs, Advances.refl s, Keeps.refl s⟩
  · have hs' : ({ s with lastCommandSeq := seq } : Registry).Consistent :=
      hs.of_eq rfl rfl rfl rfl rfl (List.Subset.refl _)
    rw [h]
    rcases controlLocked_cases py payload allowed hs' g command with
      ⟨reason, e⟩ | ⟨-, l, r, e, hlr⟩
    · rw [e]
      exact ⟨hs.of_eq rfl rfl rfl rfl rfl (List.Subset.refl _), ⟨le_rfl, fun _ => ⟨rfl, rfl, rfl⟩⟩,
        List.Subset.refl _, rfl, rfl⟩
    · rw [e]
      exact ⟨hlr, Advances.of_lt (Nat.lt_succ_self _), List.Subset.refl _, rfl, rfl⟩

/-! ## Steps -/

/-- A sample is stored on the connection it was read from. -/
theorem store_consistent (hs : s.Consistent) {cfg : RegistryConfig} {device : ConnectedDevice}
    {sample : SpaceMouseSample} {paths : List String} (hk : s.Known device)
    (hr : (device.connectionId, sample) ∈ s.reads) :
    (s.store cfg device.descriptor.path sample paths).Consistent ∧
      Advances s (s.store cfg device.descriptor.path sample paths) := by
  have hmap : ∀ {β : Type} (f : ConnectedDevice → β),
      (∀ d x a n e, f ⟨d.descriptor, d.connectionId, x, a, n, e⟩ = f d) →
      (s.store cfg device.descriptor.path sample paths).devices.map f = s.devices.map f := by
    intro β f hf
    simp only [store, List.map_map]
    refine List.map_congr_left fun d _ => ?_
    simp only [Function.comp_apply]
    split
    · exact hf d _ _ _ _
    · rfl
  have hids : (s.store cfg device.descriptor.path sample paths).ids = s.ids := hmap _ fun _ _ _ _ _ => rfl
  refine ⟨⟨?_, ?_, ?_, ?_, hs.distinct, hs.issued_nodup, ?_, hs.counted, ?_⟩, le_rfl, fun _ => ⟨?_, rfl, rfl⟩⟩
  · rw [hmap _ fun _ _ _ _ _ => rfl]
    exact hs.paths
  · rw [hids]
    exact hs.ids_nodup
  · rw [hids]
    exact hs.left_connected
  · rw [hids]
    exact hs.right_connected
  · rw [hids]
    exact hs.ids_issued
  · intro d hd x hx
    obtain ⟨e, he, rfl⟩ := List.mem_map.mp hd
    by_cases hp : e.descriptor.path = device.descriptor.path
    · simp only [if_pos hp, Option.some.injEq] at hx ⊢
      rw [hk e he hp, ← hx]
      exact hr
    · simp only [if_neg hp] at hx ⊢
      exact hs.samples e he x hx
  · exact hmap _ fun _ _ _ _ _ => rfl

theorem scanLocked_sound (hs : s.Consistent) (readerFactory : String → Except String Unit)
    (candidates : List HidDescriptor) : (s.scanLocked readerFactory candidates).Consistent ∧
      Advances s (s.scanLocked readerFactory candidates) := by
  have hremoved : (s.removeMissing candidates).Consistent :=
    Consistent.foldl (fun s p h => disconnectLocked_consistent h p _) _ hs
  have hconnected : ((s.removeMissing candidates).connectAll readerFactory candidates).Consistent :=
    Consistent.foldl (fun s c h => connect_consistent h readerFactory c) _ hremoved
  have h1 : Advances s (s.removeMissing candidates) :=
    Advances.foldl (fun s p => disconnectLocked_advances s p _) _ s
  have h2 : Advances (s.removeMissing candidates) ((s.removeMissing candidates).connectAll readerFactory candidates) :=
    Advances.foldl (connect_advances readerFactory) _ _
  exact ⟨hconnected.of_eq rfl rfl rfl rfl rfl (List.Subset.refl _),
    (h1.trans h2).trans ⟨le_rfl, fun _ => ⟨rfl, rfl, rfl⟩⟩⟩

/-- **One step.** -/
theorem step_sound (cfg : RegistryConfig) (py : PyText) (hs : s.Consistent) (ht : s.ThreadSound) (x : RegistryStep) :
    (s.step cfg py x).Consistent ∧ (s.step cfg py x).ThreadSound ∧ Advances s (s.step cfg py x) := by
  -- a step that touches only the thread and the texts
  have hthread : ∀ t e, ({ s with thread := t, scanError := e } : Registry).Consistent ∧
      Advances s { s with thread := t, scanError := e } := fun t e =>
    ⟨hs.of_eq rfl rfl rfl rfl rfl (List.Subset.refl _), le_rfl, fun _ => ⟨rfl, rfl, rfl⟩⟩
  cases x with
  | enumerate found =>
    simp only [step]
    split
    · cases found with
      | error e => exact ⟨(hthread s.thread e).1, ht, (hthread s.thread e).2⟩
      | ok found => exact ⟨(hthread _ _).1, trivial, (hthread _ _).2⟩
    · exact ⟨hs, ht, Advances.refl s⟩
  | scanLocked readerFactory =>
    simp only [step]
    split
    · exact ⟨(scanLocked_sound hs _ _).1, trivial, (scanLocked_sound hs _ _).2⟩
    · exact ⟨hs, ht, Advances.refl s⟩
  | startPoll =>
    simp only [step]
    split
    · exact ⟨(hthread _ _).1, trivial, (hthread _ _).2⟩
    · exact ⟨hs, ht, Advances.refl s⟩
  | lookup =>
    simp only [step]
    split
    · exact ⟨(hthread _ _).1, trivial, (hthread _ _).2⟩
    · rename_i path paths _
      unfold lookup
      cases hd : s.findDevice path with
      | none => exact ⟨(hthread _ _).1, trivial, (hthread _ _).2⟩
      | some d => exact ⟨(hthread _ _).1, known_of_mem hs (findDevice_some hd).1, (hthread _ _).2⟩
    · exact ⟨hs, ht, Advances.refl s⟩
  | read result =>
    simp only [step]
    split
    · rename_i device paths hth
      have hk : s.Known device := by simpa only [ThreadSound, hth] using ht
      match result with
      | .error e => exact ⟨(hthread _ _).1, trivial, (hthread _ _).2⟩
      | .ok none => exact ⟨(hthread _ _).1, trivial, (hthread _ _).2⟩
      | .ok (some sample) =>
        refine ⟨hs.of_eq rfl rfl rfl rfl rfl (List.subset_append_left _ _), ⟨hk, ?_⟩, le_rfl, fun _ => ⟨rfl, rfl, rfl⟩⟩
        simp [read]
    · exact ⟨hs, ht, Advances.refl s⟩
  | settle =>
    simp only [step]
    split
    · rename_i device sample paths hth
      obtain ⟨hk, hr⟩ : s.Known device ∧ (device.connectionId, sample) ∈ s.reads := by
        simpa only [ThreadSound, hth] using ht
      exact ⟨(store_consistent hs hk hr).1, trivial, (store_consistent hs hk hr).2⟩
    · refine ⟨Consistent.of_eq (disconnectLocked_consistent hs _ _) rfl rfl rfl rfl rfl (List.Subset.refl _), trivial,
        (disconnectLocked_advances s _ _).trans ⟨le_rfl, fun _ => ⟨rfl, rfl, rfl⟩⟩⟩
    · exact ⟨hs, ht, Advances.refl s⟩
  | control payload allowed =>
    obtain ⟨hc, ha, hk⟩ := handleControl_sound py payload allowed hs
    exact ⟨hc, ht.of_keeps hk, ha⟩
  | close =>
    exact ⟨Consistent.foldl (fun s p h => disconnectLocked_consistent h p _) _ hs,
      ht.of_keeps (Keeps.foldl (fun s p => disconnectLocked_keeps s p _) _ s),
      Advances.foldl (fun s p => disconnectLocked_advances s p _) _ s⟩

/-! ## Runs -/

variable (cfg : RegistryConfig) (py : PyText)

theorem after_concat (xs : List RegistryStep) (x : RegistryStep) :
    after cfg py (xs ++ [x]) = (after cfg py xs).step cfg py x := by simp [after]

theorem after_sound (xs : List RegistryStep) : (after cfg py xs).Consistent ∧ (after cfg py xs).ThreadSound := by
  induction xs using List.reverseRecOn with
  | nil => exact ⟨⟨by simp [after, init], by simp [after, init, ids], by simp [after, init], by simp [after, init],
      fun _ => rfl, by simp [after, init], by simp [after, init, ids], by simp [after, init], by simp [after, init]⟩,
      trivial⟩
  | append_singleton xs x ih =>
    rw [after_concat]
    have := step_sound cfg py ih.1 ih.2 x
    exact ⟨this.1, this.2.1⟩

theorem after_advances (xs ys : List RegistryStep) : Advances (after cfg py xs) (after cfg py (xs ++ ys)) := by
  induction ys using List.reverseRecOn with
  | nil =>
    rw [List.append_nil]
    exact Advances.refl _
  | append_singleton ys y ih =>
    have h := after_sound cfg py (xs ++ ys)
    rw [← List.append_assoc, after_concat]
    exact ih.trans (step_sound cfg py h.1 h.2 y).2.2

/-- What an arm reads was read from the connection assigned to it. -/
theorem sampleForArm_read (hs : s.Consistent) {arm : Arm} {x : SpaceMouseSample} (h : s.sampleForArm arm = some x) :
    ∃ c, s.assigned arm = some c ∧ (c, x) ∈ s.reads := by
  obtain ⟨d, hd, hx⟩ := Option.bind_eq_some_iff.mp h
  refine ⟨d.connectionId, ?_, hs.samples d (List.mem_of_find?_eq_some hd) x hx⟩
  have hc := List.find?_some hd
  exact (of_decide_eq_true hc).symm

/-- An accepted command was based on the current generation. -/
theorem statusGeneration_of_accepted (hs : s.Consistent)
    (h : (s.handleControl py payload allowed).1 = .ok true)
    (hr : (s.handleControl py payload allowed).2.lastResult = "accepted") :
    statusGeneration py payload = .ok (s.generation : ℤ) := by
  rcases handleControl_cases py s payload allowed with ⟨hne, -⟩ | ⟨seq, g, command, hg, e⟩
  · exact absurd h hne
  · have hs' : ({ s with lastCommandSeq := seq } : Registry).Consistent :=
      hs.of_eq rfl rfl rfl rfl rfl (List.Subset.refl _)
    rw [e] at hr
    rcases controlLocked_cases py payload allowed hs' g command with
      ⟨reason, er⟩ | ⟨hgen, -⟩
    · rw [er] at hr
      exact absurd hr (by simp [rejectLocked])
    · rw [hg, hgen]

theorem unchanged_of_rejected (hs : s.Consistent) (hr : (s.handleControl py payload allowed).2.lastResult = "rejected")
    (h : (s.handleControl py payload allowed).1 = .ok true) :
    (s.handleControl py payload allowed).2.devices = s.devices ∧
      (s.handleControl py payload allowed).2.left = s.left ∧ (s.handleControl py payload allowed).2.right = s.right ∧
      (s.handleControl py payload allowed).2.generation = s.generation := by
  rcases handleControl_cases py s payload allowed with ⟨hne, -⟩ | ⟨seq, g, command, hg, e⟩
  · exact absurd h hne
  · have hs' : ({ s with lastCommandSeq := seq } : Registry).Consistent :=
      hs.of_eq rfl rfl rfl rfl rfl (List.Subset.refl _)
    rw [e] at hr ⊢
    rcases controlLocked_cases py payload allowed hs' g command with
      ⟨reason, er⟩ | ⟨-, l, r, er, -⟩
    · rw [er]
      exact ⟨rfl, rfl, rfl, rfl⟩
    · rw [er] at hr
      exact absurd hr (by simp [setAssignments])

/-- The devices of a status are the connections, in the order of their ids. -/
theorem identity_statusBlock (s : Registry) (now : Double) (a : Bool) (reason : String) :
    (s.statusBlock cfg now a reason).devices.map DeviceStatus.identity =
      (s.connections.mergeSort fun p q => p.2 ≤ q.2).map fun p =>
        (p.2, p.1.product, p.1.serial, p.1.path, p.1.interfaceNumber) := by
  have hsort : (s.devices.mergeSort fun a b => a.connectionId ≤ b.connectionId).map
      (fun d => (d.descriptor, d.connectionId)) = s.connections.mergeSort fun p q => p.2 ≤ q.2 :=
    List.map_mergeSort fun _ _ _ _ => rfl
  rw [← hsort, statusBlock, List.map_map, List.map_map]
  rfl

/-- **The assignments are an injection, locked by the generation.** -/
theorem assignments_locked (xs : List RegistryStep) :
    ((after cfg py xs).left = (after cfg py xs).right → (after cfg py xs).left = none) ∧
    (∀ arm c, (after cfg py xs).assigned arm = some c → ∃ d ∈ (after cfg py xs).devices, d.connectionId = c) ∧
    (after cfg py xs).issued.Nodup ∧
    (∀ d ∈ (after cfg py xs).devices, d.connectionId ∈ (after cfg py xs).issued) ∧
    (∀ arm x, (after cfg py xs).sampleForArm arm = some x →
      ∃ c, (after cfg py xs).assigned arm = some c ∧ (c, x) ∈ (after cfg py xs).reads) ∧
    (∀ x, ((after cfg py (xs ++ [x])).connections ≠ (after cfg py xs).connections ∨
        (after cfg py (xs ++ [x])).left ≠ (after cfg py xs).left ∨
        (after cfg py (xs ++ [x])).right ≠ (after cfg py xs).right) →
      (after cfg py xs).generation < (after cfg py (xs ++ [x])).generation) ∧
    (∀ payload allowed, ((after cfg py xs).handleControl py payload allowed).1 = .ok true →
      ((after cfg py xs).handleControl py payload allowed).2.lastResult = "accepted" →
      statusGeneration py payload = .ok ((after cfg py xs).generation : ℤ) ∧
      ∀ pre post now a reason, xs = pre ++ post →
        statusGeneration py payload = .ok (((after cfg py pre).statusBlock cfg now a reason).generation : ℤ) →
        ((after cfg py pre).statusBlock cfg now a reason).leftConnectionId = (after cfg py xs).left ∧
        ((after cfg py pre).statusBlock cfg now a reason).rightConnectionId = (after cfg py xs).right ∧
        ((after cfg py pre).statusBlock cfg now a reason).devices.map DeviceStatus.identity =
          ((after cfg py xs).statusBlock cfg now a reason).devices.map DeviceStatus.identity) ∧
    (∀ payload allowed, ((after cfg py xs).handleControl py payload allowed).1 = .ok true →
      ((after cfg py xs).handleControl py payload allowed).2.lastResult = "rejected" →
      ((after cfg py xs).handleControl py payload allowed).2.devices = (after cfg py xs).devices ∧
      ((after cfg py xs).handleControl py payload allowed).2.left = (after cfg py xs).left ∧
      ((after cfg py xs).handleControl py payload allowed).2.right = (after cfg py xs).right ∧
      ((after cfg py xs).handleControl py payload allowed).2.generation = (after cfg py xs).generation) := by
  have hs := (after_sound cfg py xs).1
  refine ⟨hs.distinct, ?_, hs.issued_nodup, ?_, fun arm x h => sampleForArm_read hs h, ?_, ?_,
    fun payload allowed h hr => unchanged_of_rejected py hs hr h⟩
  · intro arm c hc
    have hmem : c ∈ (after cfg py xs).ids := by
      cases arm with
      | left => exact hs.left_connected c hc
      | right => exact hs.right_connected c hc
    simpa [ids] using hmem
  · exact fun d hd => hs.ids_issued _ (List.mem_map_of_mem hd)
  · intro x hne
    have h := after_advances cfg py xs [x]
    refine lt_of_le_of_ne h.le fun e => ?_
    obtain ⟨hc, hl, hr⟩ := h.same e.symm
    rcases hne with hne | hne | hne
    · exact hne hc
    · exact hne hl
    · exact hne hr
  · intro payload allowed h hr
    have hg := statusGeneration_of_accepted py hs h hr
    refine ⟨hg, ?_⟩
    rintro pre post now a reason rfl hpre
    rw [hg] at hpre
    have hgen : (after cfg py (pre ++ post)).generation = (after cfg py pre).generation := by
      simpa [statusBlock] using hpre
    obtain ⟨hc, hl, hr⟩ := (after_advances cfg py pre post).same hgen
    refine ⟨hl.symm, hr.symm, ?_⟩
    rw [identity_statusBlock, identity_statusBlock, hc]

end Registry

end PolicyRunner.SpaceMouse
