import RoboticsLab.Camera.ShmRing
import Mathlib.Data.List.Induction
import Mathlib.Tactic.Linarith

/-!
# The slot seqlock: no torn image

Between two writes `seq_begin` is even, and the next store is the odd `seq_begin` of a write.  So two
loads of `seq_begin` that find one even value have no store between them (`history_still`), unless
`2^63` writes went by and the 64-bit sequence came round.  A reader returns a payload only after two
such loads, and what it copied in between is the slot's content at one time (`Snapshot`).

    Steps ⟨zero after pre, mid ++ todo, reader⟩ ⟨_, todo, done payload⟩ → fewer than 2^63 starts in mid →
      payload is the payload of one completed write                       (seqlock_payload_of_one_write)
-/

namespace CameraServer

open SharedMemory

/-! ## The sequence words -/

/-- How many stores are stores of `seq_begin`. -/
def marks (stores : List (SlotField × ℕ)) : ℕ := stores.countP fun s => decide (s.1 = .seqBegin)

/-- How many writes are started. -/
def starts (stores : List (SlotField × ℕ)) : ℕ :=
  stores.countP fun s => decide (s.1 = .seqBegin) && decide (s.2 % 2 = 1)

@[simp] theorem marks_append (xs ys : List (SlotField × ℕ)) : marks (xs ++ ys) = marks xs + marks ys :=
  List.countP_append

@[simp] theorem starts_append (xs ys : List (SlotField × ℕ)) : starts (xs ++ ys) = starts xs + starts ys :=
  List.countP_append

/-- No write is in progress: the sequence is even. -/
def Idle (m : SlotMem) : Prop := m .seqBegin % 2 = 0 ∧ m .seqBegin < 2 ^ 64

theorem zeroSlot_idle : Idle zeroSlot := by simp [Idle, zeroSlot]

theorem Idle.beginSeq {m : SlotMem} (h : Idle m) : beginSeq (m .seqBegin) = m .seqBegin + 1 := by
  obtain ⟨h1, h2⟩ := h
  have h3 : m .seqBegin + 1 < 2 ^ 64 := by omega
  rw [CameraServer.beginSeq, if_pos h1, addU64, u64_of_lt h3]

theorem Idle.completeSeq {m : SlotMem} (h : Idle m) : completeSeq m = (m .seqBegin + 2) % 2 ^ 64 := by
  rw [CameraServer.completeSeq, h.beginSeq, addU64, u64]

theorem frameBody_ne_seqBegin {d : RingDesc} {f : FrameArgs} {c : ℕ} :
    ∀ s ∈ frameBody d f c, s.1 ≠ .seqBegin := by
  intro s hs
  simp only [frameBody, payloadStores, headerStores, List.mem_append, List.mem_map, List.mem_cons,
    List.not_mem_nil, or_false] at hs
  rcases hs with ⟨b, -, rfl⟩ | hs | rfl
  · simp
  · rcases hs with rfl | rfl | rfl | rfl | rfl | rfl | rfl | rfl | rfl <;> simp
  · simp

theorem marks_eq_zero {xs : List (SlotField × ℕ)} (h : ∀ s ∈ xs, s.1 ≠ .seqBegin) : marks xs = 0 := by
  rw [marks, List.countP_eq_zero]
  intro s hs
  simpa using h s hs

/-! ## One write -/

section Write

variable {d : RingDesc} {m : SlotMem} {f : FrameArgs}

theorem writeFrame_of_fits (h : f.bytes.length ≤ d.payloadCapacity) :
    writeFrame d m f = (.seqBegin, beginSeq (m .seqBegin)) ::
      (frameBody d f (completeSeq m) ++ [(.seqBegin, completeSeq m)]) := if_neg (not_lt.mpr h)

theorem writeFrame_of_large (h : d.payloadCapacity < f.bytes.length) : writeFrame d m f = [] := if_pos h

/-- A part of a write: nothing, a part that has stored the odd sequence only, or all of it. -/
theorem writeFrame_take (n : ℕ) :
    (writeFrame d m f).take n = [] ∨ (writeFrame d m f).take n = writeFrame d m f ∨
    ∃ k, f.bytes.length ≤ d.payloadCapacity ∧ (writeFrame d m f).take n =
      (.seqBegin, beginSeq (m .seqBegin)) :: (frameBody d f (completeSeq m)).take k := by
  rcases lt_or_ge d.payloadCapacity f.bytes.length with h | h
  · left
    rw [writeFrame_of_large h, List.take_nil]
  · rw [writeFrame_of_fits h]
    cases n with
    | zero => exact Or.inl rfl
    | succ k =>
      rcases Nat.lt_or_ge k ((frameBody d f (completeSeq m)).length + 1) with hk | hk
      · right; right
        refine ⟨k, h, ?_⟩
        rw [List.take_succ_cons, List.take_append_of_le_length (by omega)]
      · right; left
        rw [List.take_succ_cons, List.take_of_length_le (by simpa using hk)]

/-- The slot between writes, after a write: idle again, two sequence numbers on. -/
theorem after_writeFrame_seq (hm : Idle m) (h : f.bytes.length ≤ d.payloadCapacity) :
    after m (writeFrame d m f) .seqBegin = (m .seqBegin + 2) % 2 ^ 64 := by
  rw [writeFrame_of_fits h, ← List.cons_append, after_of_last (by simp), hm.completeSeq]

theorem after_writeFrame_idle (hm : Idle m) : Idle (after m (writeFrame d m f)) := by
  rcases lt_or_ge d.payloadCapacity f.bytes.length with h | h
  · rw [writeFrame_of_large h]
    exact hm
  · rw [Idle, after_writeFrame_seq hm h]
    obtain ⟨h1, -⟩ := hm
    exact ⟨by omega, Nat.mod_lt _ (by norm_num)⟩

theorem marks_writeFrame (h : f.bytes.length ≤ d.payloadCapacity) : marks (writeFrame d m f) = 2 := by
  rw [writeFrame_of_fits h, ← List.cons_append, marks_append, ← List.singleton_append, marks_append,
    marks_eq_zero frameBody_ne_seqBegin]
  rfl

theorem marks_begin (v k : ℕ) :
    marks ((.seqBegin, v) :: (frameBody d f (completeSeq m)).take k) = 1 := by
  rw [← List.singleton_append, marks_append,
    marks_eq_zero fun s hs => frameBody_ne_seqBegin s (List.mem_of_mem_take hs)]
  rfl

/-- A begun write has stored its odd sequence. -/
theorem starts_begin (hm : Idle m) (xs : List (SlotField × ℕ)) :
    1 ≤ starts ((.seqBegin, beginSeq (m .seqBegin)) :: xs) := by
  have h : (m .seqBegin + 1) % 2 = 1 := by
    have := hm.1
    omega
  rw [hm.beginSeq, starts, List.countP_cons_of_pos (by simp [h])]
  omega

end Write

/-! ## Many writes -/

section Writes

variable {d : RingDesc}

theorem writeFrames_append (m : SlotMem) (fs gs : List FrameArgs) :
    writeFrames d m (fs ++ gs) = writeFrames d m fs ++ writeFrames d (after m (writeFrames d m fs)) gs := by
  induction fs generalizing m with
  | nil => rfl
  | cons f fs ih =>
    rw [List.cons_append, writeFrames, writeFrames, ih, after_append, List.append_assoc]

theorem after_writeFrames_idle {m : SlotMem} (hm : Idle m) (fs : List FrameArgs) :
    Idle (after m (writeFrames d m fs)) := by
  induction fs generalizing m with
  | nil => exact hm
  | cons f fs ih =>
    rw [writeFrames, after_append]
    exact ih (after_writeFrame_idle hm)

/-- Where a time stands: between two writes, or inside the next one. -/
theorem writeFrames_take {m : SlotMem} (hm : Idle m) (fs : List FrameArgs) (n : ℕ) :
    ∃ j p, (writeFrames d m fs).take n = writeFrames d m (fs.take j) ++ p ∧
      (p = [] ∨ ∃ f k, f.bytes.length ≤ d.payloadCapacity ∧
        p = (.seqBegin, beginSeq (after m (writeFrames d m (fs.take j)) .seqBegin)) ::
          (frameBody d f (completeSeq (after m (writeFrames d m (fs.take j))))).take k) := by
  induction fs generalizing m n with
  | nil => exact ⟨0, [], by simp [writeFrames], Or.inl rfl⟩
  | cons f fs ih =>
    rcases le_total n (writeFrame d m f).length with hn | hn
    · rw [writeFrames, List.take_append_of_le_length hn]
      rcases writeFrame_take (d := d) (m := m) (f := f) n with h | h | ⟨k, hf, h⟩
      · exact ⟨0, [], by simpa [writeFrames] using h, Or.inl rfl⟩
      · exact ⟨1, [], by simp [writeFrames, h], Or.inl rfl⟩
      · exact ⟨0, _, by simpa [writeFrames] using h, Or.inr ⟨f, k, hf, rfl⟩⟩
    · obtain ⟨j, p, h, hp⟩ := ih (after_writeFrame_idle (d := d) (f := f) hm) (n - (writeFrame d m f).length)
      refine ⟨j + 1, p, ?_, ?_⟩
      · rw [writeFrames, List.take_append, List.take_of_length_le hn, h, List.take_succ_cons, writeFrames,
          List.append_assoc]
      · rw [List.take_succ_cons, writeFrames, after_append]
        exact hp

theorem marks_writeFrames_even {m : SlotMem} (hm : Idle m) (fs : List FrameArgs) :
    marks (writeFrames d m fs) % 2 = 0 ∧ after m (writeFrames d m fs) .seqBegin =
      (m .seqBegin + marks (writeFrames d m fs)) % 2 ^ 64 ∧
      marks (writeFrames d m fs) ≤ 2 * starts (writeFrames d m fs) := by
  induction fs generalizing m with
  | nil => exact ⟨rfl, (Nat.mod_eq_of_lt hm.2).symm, Nat.zero_le _⟩
  | cons f fs ih =>
    obtain ⟨h1, h2, h3⟩ := ih (after_writeFrame_idle (d := d) (f := f) hm)
    rw [writeFrames, marks_append, starts_append, after_append, h2]
    rcases lt_or_ge d.payloadCapacity f.bytes.length with hf | hf
    · rw [writeFrame_of_large hf, after_nil] at h1 h2 h3 ⊢
      rw [show marks [] = 0 from rfl, show starts [] = 0 from rfl, Nat.zero_add, Nat.zero_add]
      exact ⟨h1, rfl, h3⟩
    · have hs : 1 ≤ starts (writeFrame d m f) := by
        rw [writeFrame_of_fits hf]
        exact starts_begin hm _
      rw [marks_writeFrame hf, after_writeFrame_seq hm hf]
      omega

/-- The sequence counts the stores of `seq_begin`, and every second one starts a write. -/
theorem marks_take {m : SlotMem} (hm : Idle m) (fs : List FrameArgs) (n : ℕ) :
    after m ((writeFrames d m fs).take n) .seqBegin =
      (m .seqBegin + marks ((writeFrames d m fs).take n)) % 2 ^ 64 ∧
    marks ((writeFrames d m fs).take n) ≤ 2 * starts ((writeFrames d m fs).take n) := by
  obtain ⟨j, p, h, hp⟩ := writeFrames_take (d := d) hm fs n
  obtain ⟨-, h2, h3⟩ := marks_writeFrames_even (d := d) hm (fs.take j)
  have hidle := after_writeFrames_idle (d := d) hm (fs.take j)
  rw [h, marks_append, starts_append, after_append]
  rcases hp with rfl | ⟨f, k, hf, rfl⟩
  · exact ⟨h2, h3⟩
  · have hs := starts_begin hidle
      ((frameBody d f (completeSeq (after m (writeFrames d m (fs.take j))))).take k)
    have hseq := hidle.2
    rw [hidle.beginSeq] at hs
    rw [marks_begin, ← List.nil_append ((SlotField.seqBegin, _) :: _),
      after_of_last fun s hs => frameBody_ne_seqBegin s (List.mem_of_mem_take hs), hidle.beginSeq]
    obtain ⟨heven, -⟩ := hidle
    rw [List.nil_append]
    omega

/-- An even sequence is a time between two writes. -/
theorem boundary_of_even {m : SlotMem} (hm : Idle m) (fs : List FrameArgs) (n : ℕ)
    (h : after m ((writeFrames d m fs).take n) .seqBegin % 2 = 0) :
    ∃ j, (writeFrames d m fs).take n = writeFrames d m (fs.take j) := by
  obtain ⟨j, p, hj, hp⟩ := writeFrames_take (d := d) hm fs n
  rcases hp with rfl | ⟨f, k, hf, rfl⟩
  · exact ⟨j, by simpa using hj⟩
  · have hidle := after_writeFrames_idle (d := d) hm (fs.take j)
    rw [hj, after_append, ← List.nil_append ((SlotField.seqBegin, _) :: _),
      after_of_last fun s hs => frameBody_ne_seqBegin s (List.mem_of_mem_take hs), hidle.beginSeq] at h
    have := hidle.1
    omega

/-- Between writes the next store is a store of `seq_begin`. -/
theorem marks_pos_of_take {m : SlotMem} (fs : List FrameArgs) {n : ℕ} (h0 : 0 < n)
    (hn : n ≤ (writeFrames d m fs).length) : 1 ≤ marks ((writeFrames d m fs).take n) := by
  induction fs generalizing m n with
  | nil =>
    rw [writeFrames, List.length_nil] at hn
    omega
  | cons f fs ih =>
    rw [writeFrames] at hn ⊢
    rcases lt_or_ge d.payloadCapacity f.bytes.length with hf | hf
    · rw [writeFrame_of_large hf] at hn ⊢
      exact ih h0 hn
    · rw [writeFrame_of_fits hf, List.cons_append]
      obtain ⟨n, rfl⟩ := Nat.exists_eq_succ_of_ne_zero h0.ne'
      rw [List.take_succ_cons, marks, List.countP_cons_of_pos (by simp)]
      omega

/-- **No store goes unseen.**  Two times with the same even sequence, and fewer than `2^63` writes
started between them, are the same time. -/
theorem history_still (fs : List FrameArgs) {n k : ℕ} (hnk : n ≤ k)
    (hk : k ≤ (writeFrames d zeroSlot fs).length)
    (heven : history zeroSlot (writeFrames d zeroSlot fs) n .seqBegin % 2 = 0)
    (heq : history zeroSlot (writeFrames d zeroSlot fs) n .seqBegin =
      history zeroSlot (writeFrames d zeroSlot fs) k .seqBegin)
    (hfew : starts (((writeFrames d zeroSlot fs).take k).drop n) < 2 ^ 63) : n = k := by
  obtain ⟨j, hj⟩ := boundary_of_even (d := d) zeroSlot_idle fs n heven
  have hidle := after_writeFrames_idle (d := d) zeroSlot_idle (fs.take j)
  rw [← hj] at hidle
  -- from time `n` on, the stores are those of the frames after the first `j`
  have hsplit : writeFrames d zeroSlot fs = (writeFrames d zeroSlot fs).take n ++
      writeFrames d (after zeroSlot ((writeFrames d zeroSlot fs).take n)) (fs.drop j) := by
    rw [hj, ← writeFrames_append, List.take_append_drop]
  generalize hm : after zeroSlot ((writeFrames d zeroSlot fs).take n) = m at hidle hsplit
  have hlen : ((writeFrames d zeroSlot fs).take n).length = n := by
    rw [List.length_take]
    omega
  have htake : (writeFrames d zeroSlot fs).take k =
      (writeFrames d zeroSlot fs).take n ++ (writeFrames d m (fs.drop j)).take (k - n) := by
    conv_lhs => rw [hsplit]
    rw [List.take_append, List.take_of_length_le (by omega), hlen]
  rw [htake, List.drop_append, hlen, Nat.sub_self, List.drop_zero,
    List.drop_eq_nil_of_le hlen.le, List.nil_append] at hfew
  rw [history, history, htake, after_append, hm] at heq
  obtain ⟨hseq, hmarks⟩ := marks_take (d := d) hidle (fs.drop j) (k - n)
  rw [hseq] at heq
  by_contra hne
  have hpos : 1 ≤ marks ((writeFrames d m (fs.drop j)).take (k - n)) := by
    apply marks_pos_of_take _ (by omega)
    have := congrArg List.length hsplit
    rw [List.length_append, hlen] at this
    omega
  have hlt := hidle.2
  omega

end Writes

/-! ## The content between writes -/

/-- The payload in a slot. -/
def slotPayload (m : SlotMem) : List UInt8 :=
  (List.range (m .sizeBytes)).map fun i => UInt8.ofNat (m (.payload i))

section Content

variable {d : RingDesc} {m : SlotMem} {f : FrameArgs}

theorem mem_payloadStores {bytes : List UInt8} {i v : ℕ} :
    (.payload i, v) ∈ payloadStores bytes ↔ ∃ b, bytes[i]? = some b ∧ b.toNat = v := by
  simp only [payloadStores, List.mem_map, Prod.mk.injEq, SlotField.payload.injEq, Prod.exists,
    List.mem_zipIdx_iff_getElem?]
  constructor
  · rintro ⟨b, _, h, rfl, rfl⟩
    exact ⟨b, h, rfl⟩
  · rintro ⟨b, h, rfl⟩
    exact ⟨b, i, h, rfl, rfl⟩

theorem payloadStores_field {bytes : List UInt8} {s : SlotField × ℕ} (h : s ∈ payloadStores bytes) :
    ∃ i, s.1 = .payload i := by
  obtain ⟨b, -, rfl⟩ := List.mem_map.mp h
  exact ⟨b.2, rfl⟩

/-- What a write stores to a location other than `seq_begin`. -/
theorem mem_writeFrame (hf : f.bytes.length ≤ d.payloadCapacity) {l : SlotField} (hl : l ≠ .seqBegin) {v : ℕ} :
    (l, v) ∈ writeFrame d m f ↔ (l, v) ∈ payloadStores f.bytes ∨ (l, v) ∈ headerStores d f ∨
      (l, v) = (.seqEnd, completeSeq m) := by
  rw [writeFrame_of_fits hf]
  simp [frameBody, hl]

theorem after_writeFrame_header (hf : f.bytes.length ≤ d.payloadCapacity) :
    after m (writeFrame d m f) .sizeBytes = f.bytes.length ∧ after m (writeFrame d m f) .valid = 1 := by
  constructor
  · apply after_of_mem ((mem_writeFrame hf (by simp)).mpr (Or.inr (Or.inl (by simp [headerStores]))))
    rintro ⟨_, v⟩ hs rfl
    rcases (mem_writeFrame hf (by simp)).mp hs with h | h | h
    · obtain ⟨i, hi⟩ := payloadStores_field h
      simp at hi
    · simpa [headerStores] using h
    · simp at h
  · apply after_of_mem ((mem_writeFrame hf (by simp)).mpr (Or.inr (Or.inl (by simp [headerStores]))))
    rintro ⟨_, v⟩ hs rfl
    rcases (mem_writeFrame hf (by simp)).mp hs with h | h | h
    · obtain ⟨i, hi⟩ := payloadStores_field h
      simp at hi
    · simpa [headerStores] using h
    · simp at h

theorem after_writeFrame_payload (hf : f.bytes.length ≤ d.payloadCapacity) {i : ℕ} {b : UInt8}
    (h : f.bytes[i]? = some b) : after m (writeFrame d m f) (.payload i) = b.toNat := by
  apply after_of_mem ((mem_writeFrame hf (by simp)).mpr (Or.inl (mem_payloadStores.mpr ⟨b, h, rfl⟩)))
  rintro ⟨_, v⟩ hs rfl
  rcases (mem_writeFrame hf (by simp)).mp hs with h' | h' | h'
  · obtain ⟨b', hb', rfl⟩ := mem_payloadStores.mp h'
    rw [h] at hb'
    exact congrArg UInt8.toNat (Option.some.inj hb').symm
  · simp [headerStores] at h'
  · simp at h'

/-- After a write the slot holds its bytes. -/
theorem slotPayload_writeFrame (hf : f.bytes.length ≤ d.payloadCapacity) :
    slotPayload (after m (writeFrame d m f)) = f.bytes := by
  rw [slotPayload, (after_writeFrame_header hf).1]
  apply List.ext_getElem (by simp)
  intro i h1 h2
  rw [List.getElem_map, List.getElem_range, after_writeFrame_payload hf (List.getElem?_eq_getElem h2)]
  exact UInt8.ofNat_toNat

/-- **Between writes** a valid slot holds the last frame that fitted. -/
theorem slotPayload_writeFrames (fs : List FrameArgs)
    (hv : after zeroSlot (writeFrames d zeroSlot fs) .valid ≠ 0) :
    ∃ pre f post, fs = pre ++ f :: post ∧ f.bytes.length ≤ d.payloadCapacity ∧
      (∀ g ∈ post, d.payloadCapacity < g.bytes.length) ∧
      slotPayload (after zeroSlot (writeFrames d zeroSlot fs)) = f.bytes := by
  induction fs using List.reverseRecOn with
  | nil => exact absurd rfl hv
  | append_singleton fs g ih =>
    rw [writeFrames_append, after_append] at hv ⊢
    rw [writeFrames, writeFrames, List.append_nil] at hv ⊢
    rcases lt_or_ge d.payloadCapacity g.bytes.length with hg | hg
    · rw [writeFrame_of_large hg, after_nil] at hv ⊢
      obtain ⟨pre, f, post, rfl, hf, hpost, hp⟩ := ih hv
      refine ⟨pre, f, post ++ [g], by simp, hf, ?_, hp⟩
      intro x hx
      rcases List.mem_append.mp hx with hx | hx
      · exact hpost x hx
      · rw [List.mem_singleton.mp hx]
        exact hg
    · exact ⟨fs, g, [], rfl, hg, by simp, slotPayload_writeFrame hg⟩

end Content

/-! ## What a reader sees -/

/-- `bytes` is the content of the slot at time `t`, between two writes. -/
structure Snapshot (hist : ℕ → SlotMem) (t : ℕ) (bytes : List UInt8) : Prop where
  even : hist t .seqBegin % 2 = 0
  valid : hist t .valid ≠ 0
  bytes : bytes = slotPayload (hist t)

/-- Up to time `k`, loads of one even sequence are at one time. -/
def Still (hist : ℕ → SlotMem) (n k : ℕ) : Prop :=
  ∀ u v, n ≤ u → u ≤ v → v ≤ k → hist u .seqBegin % 2 = 0 → hist u .seqBegin = hist v .seqBegin → u = v

theorem Still.mono {hist : ℕ → SlotMem} {n n' k : ℕ} (h : Still hist n k) (hn : n ≤ n') : Still hist n' k :=
  fun u v hu huv hv => h u v (hn.trans hu) huv hv

theorem readPayload_returns {α : Type} {hist : ℕ → SlotMem} {n k size : ℕ}
    {next : List UInt8 → SlotReader α} {r : α} (h : Returns hist n (readPayload size next) k r) :
    ∃ bytes t, n ≤ t ∧ Returns hist t (next bytes) k r ∧
      (n = t → bytes = (List.range size).map fun i => UInt8.ofNat (hist n (.payload i))) := by
  obtain ⟨vs, t, ht, hvs, hr⟩ := Returns.of_readAll h
  refine ⟨_, t, ht, hr, ?_⟩
  rintro rfl
  rw [eq_map_of_loads hvs, List.map_map, List.map_map]
  rfl

/-- **`SharedMemoryRingBuffer::read_slot`** returns a snapshot. -/
theorem readSlot_snapshot {d : RingDesc} {hist : ℕ → SlotMem} {n k : ℕ} (hst : Still hist n k) {retries : ℕ}
    {r : ShmReadResult} (h : Returns hist n (readSlot d retries) k (some r)) :
    ∃ t, n ≤ t ∧ t ≤ k ∧ Snapshot hist t r.bytes := by
  induction retries generalizing n with
  | zero => exact absurd h.of_done (by simp)
  | succ retries ih =>
    have again : ∀ t, n ≤ t → Returns hist t (readSlot d retries) k (some r) →
        ∃ t, n ≤ t ∧ t ≤ k ∧ Snapshot hist t r.bytes := by
      intro t ht hr
      obtain ⟨u, hu, huk, hs⟩ := ih (hst.mono ht) hr
      exact ⟨u, ht.trans hu, huk, hs⟩
    obtain ⟨ta, hta, h⟩ := Returns.of_read h
    split at h
    · exact again _ hta h
    · next hodd =>
      obtain ⟨tv, htv, h⟩ := Returns.of_read h
      split at h
      · exact again _ (hta.trans htv) h
      · next hvalid =>
        obtain ⟨ts, hts, h⟩ := Returns.of_read h
        split at h
        · exact absurd h.of_done (by simp)
        · obtain ⟨bytes, tp, htp, h, hbytes⟩ := readPayload_returns h
          obtain ⟨tb, htb, h⟩ := Returns.of_read h
          obtain ⟨tc, htc, h⟩ := Returns.of_read h
          split at h
          · next heq =>
            obtain ⟨hab, hbc, hb⟩ := heq
            obtain ⟨vals, te, hte, -, hr⟩ := Returns.of_readAll h
            have htck : tc ≤ k := hte.trans hr.le
            have hr : bytes = r.bytes := congrArg ShmReadResult.bytes (Option.some.inj hr.of_done)
            have hac : ta = tc := hst ta tc hta (by omega) htck (by omega) (hab.trans hbc)
            obtain rfl : ta = tv := by omega
            obtain rfl : ta = ts := by omega
            obtain rfl : ta = tp := by omega
            exact ⟨ta, hta, by omega, by omega, hvalid, hr.symm.trans (hbytes rfl)⟩
          · exact again _ (by omega) h

/-- **The Python readers** return a snapshot: their `seq_end` is loaded between the two loads of
`seq_begin` as well. -/
theorem unpackRetry_snapshot {hist : ℕ → SlotMem} {n k : ℕ} (hst : Still hist n k) {size : ℤ}
    {mismatch exhausted : String} {check : ℕ → Option String} {retries : ℕ} {bytes : List UInt8}
    (h : Returns hist n (unpackRetry size mismatch exhausted check retries) k (.ok bytes)) :
    ∃ t, n ≤ t ∧ t ≤ k ∧ Snapshot hist t bytes ∧ (hist t .sizeBytes : ℤ) = size := by
  induction retries generalizing n with
  | zero => exact absurd h.of_done (by simp)
  | succ retries ih =>
    have again : ∀ t, n ≤ t →
        Returns hist t (unpackRetry size mismatch exhausted check retries) k (.ok bytes) →
        ∃ t, n ≤ t ∧ t ≤ k ∧ Snapshot hist t bytes ∧ (hist t .sizeBytes : ℤ) = size := by
      intro t ht hr
      obtain ⟨u, hu, huk, hs⟩ := ih (hst.mono ht) hr
      exact ⟨u, ht.trans hu, huk, hs⟩
    obtain ⟨ta, hta, h⟩ := Returns.of_read h
    split at h
    · exact again _ hta h
    · obtain ⟨vals, tv, htv, hvals, h⟩ := Returns.of_readAll h
      split at h
      · exact absurd h.of_done (by simp)
      · next hsize =>
        split at h
        · exact absurd h.of_done (by simp)
        · obtain ⟨copy, tp, htp, h, hcopy⟩ := readPayload_returns h
          obtain ⟨tc, htc, h⟩ := Returns.of_read h
          split at h
          · next heq =>
            obtain ⟨hvalid, hab, hbc, hb⟩ := heq
            have hr : copy = bytes := Except.ok.inj h.of_done
            have hac : ta = tc := hst ta tc hta (by omega) h.le (by omega) (hab.trans hbc)
            obtain rfl : ta = tv := by omega
            obtain rfl : ta = tp := by omega
            rw [eq_map_of_loads hvals] at hsize hvalid
            have hsz : (hist ta .sizeBytes : ℤ) = size := not_not.mp hsize
            have htk := h.le
            refine ⟨ta, hta, by omega, ⟨by omega, hvalid, ?_⟩, hsz⟩
            rw [← hr, hcopy rfl, ← hsz]
            rfl
          · exact again _ (by omega) h

theorem toolReadSlot_snapshot {hist : ℕ → SlotMem} {n k : ℕ} (hst : Still hist n k) {len : ℕ}
    {frame : FrameMeta} {retries : ℕ} {bytes : List UInt8}
    (h : Returns hist n (toolReadSlot len frame retries) k (.ok bytes)) :
    ∃ t, n ≤ t ∧ t ≤ k ∧ Snapshot hist t bytes ∧ (hist t .sizeBytes : ℤ) = frame.sizeBytes := by
  unfold toolReadSlot at h
  dsimp only at h
  split at h
  · exact absurd h.of_done (by simp)
  · split at h
    · exact absurd h.of_done (by simp)
    · exact unpackRetry_snapshot hst h

theorem decodeFramePayload_snapshot {hist : ℕ → SlotMem} {n k : ℕ} (hst : Still hist n k) {len : ℕ}
    {name : String} {frame : FrameMeta} {bytes : List UInt8}
    (h : Returns hist n (decodeFramePayload len name frame) k (.ok bytes)) :
    ∃ t, n ≤ t ∧ t ≤ k ∧ Snapshot hist t bytes ∧ (hist t .sizeBytes : ℤ) = frame.sizeBytes := by
  unfold decodeFramePayload at h
  dsimp only at h
  split at h
  · exact absurd h.of_done (by simp)
  · exact unpackRetry_snapshot hst h

/-! ## Whole runs -/

section Runs

variable {d : RingDesc} {fs : List FrameArgs} {pre mid todo : List (SlotField × ℕ)}

/-- `bytes` is the payload of a call of `fs` whose stores are all among `done`. -/
def CompletedPayload (d : RingDesc) (fs : List FrameArgs) (done : List (SlotField × ℕ))
    (bytes : List UInt8) : Prop :=
  ∃ before f rest, fs = before ++ f :: rest ∧ f.bytes.length ≤ d.payloadCapacity ∧ f.bytes = bytes ∧
    writeFrames d zeroSlot (before ++ [f]) <+: done

/-- While fewer than `2^63` writes start, the history between the call and the return is still. -/
theorem history_still_of_starts (hS : writeFrames d zeroSlot fs = pre ++ (mid ++ todo))
    (hfew : starts mid < 2 ^ 63) {k : ℕ} (hk : k ≤ (pre ++ mid).length) :
    Still (history zeroSlot (pre ++ (mid ++ todo))) pre.length k := by
  intro u v hu huv hv heven heq
  rw [← hS] at heven heq
  rw [← List.append_assoc] at hS
  have hlen : v ≤ (writeFrames d zeroSlot fs).length := by
    rw [hS, List.length_append]
    omega
  refine history_still fs huv hlen heven heq (lt_of_le_of_lt ?_ hfew)
  apply List.Sublist.countP_le
  -- the stores from `u` to `v` are among those of `mid`
  rw [hS, List.take_append_of_le_length (by omega)]
  calc List.Sublist (((pre ++ mid).take v).drop u) ((pre ++ mid).drop u) := (List.take_sublist _ _).drop u
    List.Sublist _ ((pre ++ mid).drop pre.length) := List.drop_sublist_drop_left _ hu
    _ = mid := List.drop_left

/-- A snapshot is the payload of one completed call. -/
theorem Snapshot.completed {bytes : List UInt8} (hS : writeFrames d zeroSlot fs = pre ++ (mid ++ todo)) {t : ℕ}
    (ht : t ≤ (pre ++ mid).length) (h : Snapshot (history zeroSlot (pre ++ (mid ++ todo))) t bytes) :
    CompletedPayload d fs (pre ++ mid) bytes := by
  obtain ⟨heven, hvalid, hbytes⟩ := h
  rw [← hS] at heven hvalid hbytes
  obtain ⟨j, hj⟩ := boundary_of_even zeroSlot_idle fs t heven
  rw [history, hj] at hvalid hbytes
  obtain ⟨before, f, post, hfs, hf, -, hp⟩ := slotPayload_writeFrames (fs.take j) hvalid
  refine ⟨before, f, post ++ fs.drop j, ?_, hf, (hbytes.trans hp).symm, ?_⟩
  · rw [← List.cons_append, ← List.append_assoc, ← hfs, List.take_append_drop]
  · have h1 : writeFrames d zeroSlot (before ++ [f]) <+: writeFrames d zeroSlot (fs.take j) := by
      have hsplit : before ++ f :: post = (before ++ [f]) ++ post := by simp
      rw [hfs, hsplit, writeFrames_append zeroSlot (before ++ [f]) post]
      exact ⟨_, rfl⟩
    rw [← hj, hS, ← List.append_assoc, List.take_append_of_le_length ht] at h1
    exact h1.trans ⟨_, List.take_append_drop t _⟩

/-- The three readers, called after the stores `pre`; they return after the stores `mid`. -/
theorem seqlock_payload_of_one_write (hS : writeFrames d zeroSlot fs = pre ++ (mid ++ todo))
    (hfew : starts mid < 2 ^ 63) (mem : SlotMem) :
    (∀ retries r, Steps ⟨after zeroSlot pre, mid ++ todo, readSlot d retries⟩ ⟨mem, todo, .done (some r)⟩ →
      CompletedPayload d fs (pre ++ mid) r.bytes) ∧
    (∀ len frame retries bytes, Steps ⟨after zeroSlot pre, mid ++ todo, toolReadSlot len frame retries⟩
        ⟨mem, todo, .done (.ok bytes)⟩ → CompletedPayload d fs (pre ++ mid) bytes) ∧
    (∀ len name frame bytes, Steps ⟨after zeroSlot pre, mid ++ todo, decodeFramePayload len name frame⟩
        ⟨mem, todo, .done (.ok bytes)⟩ → CompletedPayload d fs (pre ++ mid) bytes) := by
  refine ⟨?_, ?_, ?_⟩
  · intro retries r h
    obtain ⟨k, hk, hr⟩ := h.returns
    obtain ⟨t, -, ht, hs⟩ := readSlot_snapshot (history_still_of_starts hS hfew hk) hr
    exact hs.completed hS (ht.trans hk)
  · intro len frame retries bytes h
    obtain ⟨k, hk, hr⟩ := h.returns
    obtain ⟨t, -, ht, hs, -⟩ := toolReadSlot_snapshot (history_still_of_starts hS hfew hk) hr
    exact hs.completed hS (ht.trans hk)
  · intro len name frame bytes h
    obtain ⟨k, hk, hr⟩ := h.returns
    obtain ⟨t, -, ht, hs, -⟩ := decodeFramePayload_snapshot (history_still_of_starts hS hfew hk) hr
    exact hs.completed hS (ht.trans hk)

end Runs

/-! ## The sequence comes round -/

/-- Two grey bytes. -/
def greyFrame (g : UInt8) : FrameArgs := ⟨1, 0, 0, 2, [g, g], 0⟩

def pairDesc : RingDesc := ⟨2, 1, 1, "y8", 2, 0, 2⟩

theorem greyFrame_fits (g : UInt8) : (greyFrame g).bytes.length ≤ pairDesc.payloadCapacity := le_rfl

/-- A slot that holds one frame, and the write of the next. -/
def slotOfSeven : SlotMem := after zeroSlot (writeFrame pairDesc zeroSlot (greyFrame 7))

def writeOfEight : List (SlotField × ℕ) := writeFrame pairDesc slotOfSeven (greyFrame 8)

/-- `read_slot` once it has copied the first byte of the slot. -/
def halfCopied : SlotReader (Option ShmReadResult) := (readSlot pairDesc 2).loads slotOfSeven 4

/-- A write between the two bytes of a copy: the try is thrown away, and the next one returns the new frame. -/
theorem seqlock_payload_of_one_write_overlap : ∃ r,
    Steps ⟨slotOfSeven, writeOfEight, readSlot pairDesc 2⟩ ⟨slotOfSeven, writeOfEight, halfCopied⟩ ∧
    Steps ⟨slotOfSeven, writeOfEight, halfCopied⟩ ⟨after slotOfSeven writeOfEight, [], .done (some r)⟩ ∧
    r.bytes = [8, 8] ∧
    CompletedPayload pairDesc [greyFrame 7, greyFrame 8]
      (writeFrames pairDesc zeroSlot [greyFrame 7, greyFrame 8]) r.bytes := by
  have hS : writeFrames pairDesc zeroSlot [greyFrame 7, greyFrame 8] =
      writeFrame pairDesc zeroSlot (greyFrame 7) ++ (writeOfEight ++ []) := rfl
  have hfew : starts writeOfEight < 2 ^ 63 := by decide
  have hcopy := Steps.loads slotOfSeven writeOfEight 4 (readSlot pairDesc 2)
  have hwrite := Steps.stores slotOfSeven writeOfEight [] halfCopied
  have hread := Steps.eval (after slotOfSeven writeOfEight) [] halfCopied
  have heval : halfCopied.eval (after slotOfSeven writeOfEight) = some ⟨1, 0, 0, 2, 1, 2, 2, 4, [8, 8]⟩ := rfl
  rw [heval] at hread
  rw [List.append_nil] at hwrite
  refine ⟨_, hcopy, hwrite.trans hread, rfl, ?_⟩
  have h := (seqlock_payload_of_one_write hS hfew (after slotOfSeven writeOfEight)).1 2
    ⟨1, 0, 0, 2, 1, 2, 2, 4, [8, 8]⟩
  rw [List.append_nil] at h
  exact h ((hcopy.trans hwrite).trans hread)

theorem after_writeFrame_seqEnd {d : RingDesc} {m : SlotMem} {f : FrameArgs}
    (hf : f.bytes.length ≤ d.payloadCapacity) :
    after m (writeFrame d m f) .seqEnd = after m (writeFrame d m f) .seqBegin := by
  have h1 : after m (writeFrame d m f) .seqBegin = completeSeq m := by
    rw [writeFrame_of_fits hf, ← List.cons_append, after_of_last (by simp)]
  rw [h1]
  apply after_of_mem ((mem_writeFrame hf (by simp)).mpr (Or.inr (Or.inr rfl)))
  rintro ⟨_, v⟩ hs rfl
  rcases (mem_writeFrame hf (by simp)).mp hs with h | h | h
  · obtain ⟨i, hi⟩ := payloadStores_field h
    simp at hi
  · simp [headerStores] at h
  · exact congrArg Prod.snd h

theorem marks_replicate {d : RingDesc} {f : FrameArgs} (hf : f.bytes.length ≤ d.payloadCapacity) (m : SlotMem)
    (n : ℕ) : marks (writeFrames d m (List.replicate n f)) = 2 * n := by
  induction n generalizing m with
  | zero => rfl
  | succ n ih =>
    rw [List.replicate_succ, writeFrames, marks_append, marks_writeFrame hf, ih]
    omega

/-- `n` writes of one frame: the last one is in the slot, and the sequence is `2 * n` further. -/
theorem after_replicate {m : SlotMem} (hm : Idle m) (g : UInt8) {n : ℕ} (hn : 0 < n) :
    let m' := after m (writeFrames pairDesc m (List.replicate n (greyFrame g)))
    m' .seqBegin = (m .seqBegin + 2 * n) % 2 ^ 64 ∧ m' .seqEnd = m' .seqBegin ∧ m' (.payload 1) = g.toNat := by
  obtain ⟨k, rfl⟩ := Nat.exists_eq_succ_of_ne_zero hn.ne'
  refine ⟨?_, ?_, ?_⟩
  · rw [← marks_replicate (greyFrame_fits g) m]
    exact (marks_writeFrames_even hm _).2.1
  · rw [List.replicate_succ', writeFrames_append, after_append, writeFrames, writeFrames, List.append_nil]
    exact after_writeFrame_seqEnd (greyFrame_fits g)
  · rw [List.replicate_succ', writeFrames_append, after_append, writeFrames, writeFrames, List.append_nil]
    exact after_writeFrame_payload (greyFrame_fits g) rfl

/-- What is left of `read_slot` after it has loaded the first of two bytes of a slot with sequence 2. -/
def secondByte : SlotReader (Option ShmReadResult) :=
  .read (.payload 1) fun v =>
  .read .seqEnd fun b =>
  .read .seqBegin fun c =>
  if 2 = b ∧ b = c ∧ b % 2 = 0 then
    .readAll [.frameNumber, .hostArrivalTimeNs, .sensorTimestampNs, .width, .height, .strideBytes,
      .sizeBytes] fun vals =>
    .done (some ⟨vals.getD 0 0, vals.getD 1 0, vals.getD 2 0, vals.getD 3 0, vals.getD 4 0,
      vals.getD 5 0, vals.getD 6 0, b, [0, UInt8.ofNat v]⟩)
  else .done none

theorem secondByte_eval {m : SlotMem} (hb : m .seqBegin = 2) (he : m .seqEnd = 2) (hp : m (.payload 1) = 1) :
    ∃ r, secondByte.eval m = some r ∧ r.bytes = [0, 1] := by
  simp [secondByte, Reader.eval, Reader.readAll, hb, he, hp]

/-- A reader that copies one byte, sleeps through `n` writes and copies the other. -/
theorem torn_of_wrap {n : ℕ} (hn : 0 < n) (hw : (2 + 2 * n) % 2 ^ 64 = 2) :
    ∃ mem r, Steps ⟨zeroSlot, writeFrames pairDesc zeroSlot (greyFrame 0 :: List.replicate n (greyFrame 1)),
        readSlot pairDesc 1⟩ ⟨mem, [], .done (some r)⟩ ∧ r.bytes = [0, 1] := by
  have hidle : Idle (after zeroSlot (writeFrame pairDesc zeroSlot (greyFrame 0))) :=
    after_writeFrame_idle zeroSlot_idle
  have h2 : after zeroSlot (writeFrame pairDesc zeroSlot (greyFrame 0)) .seqBegin = 2 :=
    after_writeFrame_seq zeroSlot_idle (greyFrame_fits 0)
  have hloads : (readSlot pairDesc 1).loads (after zeroSlot (writeFrame pairDesc zeroSlot (greyFrame 0))) 4 =
      secondByte := rfl
  have s1 := fun todo => Steps.stores zeroSlot (writeFrame pairDesc zeroSlot (greyFrame 0)) todo
    (readSlot pairDesc 1)
  rw [writeFrames]
  generalize after zeroSlot (writeFrame pairDesc zeroSlot (greyFrame 0)) = m₁ at hidle h2 hloads s1 ⊢
  obtain ⟨hb, he, hp⟩ := after_replicate hidle 1 hn
  rw [h2, hw] at hb
  obtain ⟨r, hr, hbytes⟩ := secondByte_eval hb (he.trans hb) hp
  generalize writeFrames pairDesc m₁ (List.replicate n (greyFrame 1)) = later at hr ⊢
  have s2 := Steps.loads m₁ later 4 (readSlot pairDesc 1)
  have s3 := Steps.stores m₁ later [] secondByte
  have s4 := Steps.eval (after m₁ later) [] secondByte
  rw [hloads] at s2
  rw [List.append_nil] at s3
  rw [hr] at s4
  exact ⟨_, r, (((s1 later).trans s2).trans s3).trans s4, hbytes⟩

/-- `2^63` writes between the two bytes: the reader returns `[0, 1]`, which nobody wrote. -/
theorem seqlock_torn_after_wrap :
    ∃ mem r, Steps ⟨zeroSlot, writeFrames pairDesc zeroSlot
        (greyFrame 0 :: List.replicate (2 ^ 63) (greyFrame 1)), readSlot pairDesc 1⟩ ⟨mem, [], .done (some r)⟩ ∧
      ∀ f ∈ greyFrame 0 :: List.replicate (2 ^ 63) (greyFrame 1), f.bytes ≠ r.bytes := by
  obtain ⟨mem, r, h, hbytes⟩ := torn_of_wrap (n := 2 ^ 63) (by norm_num) (by norm_num)
  refine ⟨mem, r, h, ?_⟩
  intro f hf
  rw [hbytes]
  rcases List.mem_cons.mp hf with rfl | hf
  · decide
  · rw [List.eq_of_mem_replicate hf]
    decide

end CameraServer
