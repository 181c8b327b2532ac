import RoboticsLab.Camera.Seqlock

/-!
# `SharedMemoryRingBuffer::read_slot`: when the metadata is that of the image

`read_slot` checks the sequence after it has copied the payload and loads the metadata after the check.
The payload is that of one write (`Seqlock`); a write that comes between the check and the loads of
the metadata goes unseen, and the result mixes two calls (`readSlot_mixes_writes`).  While no metadata
field is stored after the last load of `seq_begin`, the whole result is the slot at the time of the check.

    Run ⟨zero after pre, mid ++ todo, readSlot⟩ (evs ++ load seq_begin :: late) ⟨_, todo, done r⟩ →
      no load of seq_begin and no store of a metadata field in late → fewer than 2^63 starts in mid →
      r is the result of one completed write                                (readSlot_of_one_write)
-/

namespace CameraServer

open SharedMemory

/-! ## The slot between writes -/

/-- The fields that `read_slot` loads after its check. -/
def metaFields : List SlotField :=
  [.frameNumber, .hostArrivalTimeNs, .sensorTimestampNs, .width, .height, .strideBytes, .sizeBytes]

/-- What `read_slot` returns on a slot that does not change. -/
def slotResult (m : SlotMem) : ShmReadResult :=
  ⟨m .frameNumber, m .hostArrivalTimeNs, m .sensorTimestampNs, m .width, m .height, m .strideBytes,
    m .sizeBytes, m .seqBegin, slotPayload m⟩

/-- The result of the call `f` into a slot that holds `m`. -/
def callResult (d : RingDesc) (m : SlotMem) (f : FrameArgs) : ShmReadResult :=
  ⟨f.frameNumber, f.hostArrivalTimeNs, f.sensorTimestampNs, d.width, d.height, effectiveStride d f,
    f.bytes.length, completeSeq m, f.bytes⟩

section Content

variable {d : RingDesc} {m : SlotMem} {f : FrameArgs}

/-- A write leaves in a header field what it stored there. -/
theorem after_writeFrame_field (hf : f.bytes.length ≤ d.payloadCapacity) {l : SlotField} {v : ℕ}
    (hl : (l, v) ∈ headerStores d f) : after m (writeFrame d m f) l = v := by
  have hkind : ∀ w, (l, w) ∈ headerStores d f → w = v := by
    intro w hw
    simp only [headerStores, List.mem_cons, Prod.mk.injEq, List.not_mem_nil, or_false] at hl hw
    rcases hl with ⟨rfl, rfl⟩ | ⟨rfl, rfl⟩ | ⟨rfl, rfl⟩ | ⟨rfl, rfl⟩ | ⟨rfl, rfl⟩ | ⟨rfl, rfl⟩ | ⟨rfl, rfl⟩ |
      ⟨rfl, rfl⟩ | ⟨rfl, rfl⟩ <;> simpa using hw
  have hne : l ≠ .seqBegin ∧ l ≠ .seqEnd ∧ ∀ i, l ≠ .payload i := by
    simp only [headerStores, List.mem_cons, Prod.mk.injEq, List.not_mem_nil, or_false] at hl
    rcases hl with ⟨rfl, -⟩ | ⟨rfl, -⟩ | ⟨rfl, -⟩ | ⟨rfl, -⟩ | ⟨rfl, -⟩ | ⟨rfl, -⟩ | ⟨rfl, -⟩ | ⟨rfl, -⟩ |
      ⟨rfl, -⟩ <;> simp
  apply after_of_mem ((mem_writeFrame hf hne.1).mpr (Or.inr (Or.inl hl)))
  rintro ⟨l', w⟩ hs rfl
  rcases (mem_writeFrame hf hne.1).mp hs with h | h | h
  · obtain ⟨i, hi⟩ := payloadStores_field h
    exact absurd hi (hne.2.2 i)
  · exact hkind w h
  · exact absurd (congrArg Prod.fst h) hne.2.1

/-- After a write the slot holds its result. -/
theorem slotResult_writeFrame (hf : f.bytes.length ≤ d.payloadCapacity) :
    slotResult (after m (writeFrame d m f)) = callResult d m f := by
  have hseq : after m (writeFrame d m f) .seqBegin = completeSeq m := by
    rw [writeFrame_of_fits hf, ← List.cons_append, after_of_last (by simp)]
  have hfield := fun l v => after_writeFrame_field (m := m) (l := l) (v := v) hf
  rw [slotResult, slotPayload_writeFrame hf, hseq,
    hfield .frameNumber f.frameNumber (by simp [headerStores]),
    hfield .hostArrivalTimeNs f.hostArrivalTimeNs (by simp [headerStores]),
    hfield .sensorTimestampNs f.sensorTimestampNs (by simp [headerStores]),
    hfield .width d.width (by simp [headerStores]),
    hfield .height d.height (by simp [headerStores]),
    hfield .strideBytes (effectiveStride d f) (by simp [headerStores]),
    hfield .sizeBytes f.bytes.length (by simp [headerStores]), callResult]

/-- Between writes a valid slot is as the last frame that fitted left it. -/
theorem after_writeFrames_valid (fs : List FrameArgs)
    (hv : after zeroSlot (writeFrames d zeroSlot fs) .valid ≠ 0) :
    ∃ before f rest, fs = before ++ f :: rest ∧ f.bytes.length ≤ d.payloadCapacity ∧
      writeFrames d zeroSlot fs = writeFrames d zeroSlot (before ++ [f]) := by
  obtain ⟨before, f, rest, rfl, hf, hrest, -⟩ := slotPayload_writeFrames fs hv
  refine ⟨before, f, rest, rfl, hf, ?_⟩
  have hnone : ∀ m, writeFrames d m rest = [] := by
    intro m
    clear hv
    induction rest generalizing m with
    | nil => rfl
    | cons g rest ih =>
      rw [writeFrames, writeFrame_of_large (hrest g List.mem_cons_self), List.nil_append,
        ih fun x hx => hrest x (List.mem_cons_of_mem _ hx)]
  rw [List.append_cons, writeFrames_append zeroSlot (before ++ [f]), hnone, List.append_nil]

end Content

/-! ## What the reader loads -/

/-- The result with the loaded values of `metaFields`. -/
def metaResult (vals : List ℕ) (seq : ℕ) (bytes : List UInt8) : ShmReadResult :=
  ⟨vals.getD 0 0, vals.getD 1 0, vals.getD 2 0, vals.getD 3 0, vals.getD 4 0, vals.getD 5 0, vals.getD 6 0,
    seq, bytes⟩

/-- `r` is what the slot holds at the time `tc` of the check, but for the metadata: it is loaded by `late`. -/
structure CheckedAt (hist : ℕ → SlotMem) (tc : ℕ) (late : List (ℕ × SlotField)) (r : ShmReadResult) : Prop where
  snapshot : Snapshot hist tc (slotPayload (hist tc))
  fields : late.map Prod.snd = metaFields
  later : ∀ u ∈ late, tc ≤ u.1
  result : r = metaResult (late.map fun u => hist u.1 u.2) (hist tc .seqBegin) (slotPayload (hist tc))

theorem readPayload_trace {α : Type} {hist : ℕ → SlotMem} {n size : ℕ} {next : List UInt8 → SlotReader α}
    {tr : List (ℕ × SlotField)} {r : α} (h : Trace hist n (readPayload size next) tr r) :
    ∃ us tr' bytes t, tr = us ++ tr' ∧ n ≤ t ∧ Trace hist t (next bytes) tr' r ∧
      (n = t → bytes = (List.range size).map fun i => UInt8.ofNat (hist n (.payload i))) := by
  obtain ⟨us, tr', t, rfl, hus, ht, htimes, hr⟩ := Trace.of_readAll h
  refine ⟨us, tr', _, t, rfl, ht, hr, ?_⟩
  rintro rfl
  have hn : (us.map fun u => hist u.1 u.2) = (us.map Prod.snd).map (hist n) := by
    rw [List.map_map]
    apply List.map_congr_left
    intro u hu
    obtain ⟨h1, h2⟩ := htimes u hu
    rw [le_antisymm h2 h1, Function.comp_apply]
  rw [hn, hus, List.map_map, List.map_map]
  rfl

/-- **`read_slot`** returns the slot at its last check, with the metadata of the loads after it. -/
theorem readSlot_checkedAt {d : RingDesc} {hist : ℕ → SlotMem} {n k : ℕ} (hst : Still hist n k) {retries : ℕ}
    {tr : List (ℕ × SlotField)} {r : ShmReadResult} (h : Trace hist n (readSlot d retries) tr (some r))
    (hk : ∀ x ∈ tr, x.1 ≤ k) :
    ∃ early tc late, tr = early ++ (tc, .seqBegin) :: late ∧ CheckedAt hist tc late r := by
  induction retries generalizing n tr with
  | zero => exact absurd h.of_done.1 (by simp)
  | succ retries ih =>
    have again : ∀ t xs ys, n ≤ t → Trace hist t (readSlot d retries) ys (some r) → tr = xs ++ ys →
        ∃ early tc late, tr = early ++ (tc, .seqBegin) :: late ∧ CheckedAt hist tc late r := by
      rintro t xs ys ht hr rfl
      obtain ⟨early, tc, late, rfl, hc⟩ := ih (hst.mono ht) hr fun x hx => hk x (List.mem_append_right _ hx)
      exact ⟨xs ++ early, tc, late, by simp, hc⟩
    obtain ⟨ta, tr₁, htr₁, hta, h⟩ := Trace.of_read h
    split at h
    · exact again ta [(ta, .seqBegin)] tr₁ hta h htr₁
    · next hodd =>
      obtain ⟨tv, tr₂, rfl, htv, h⟩ := Trace.of_read h
      split at h
      · exact again tv [(ta, .seqBegin), (tv, .valid)] tr₂ (hta.trans htv) h htr₁
      · next hvalid =>
        obtain ⟨ts, tr₃, rfl, hts, h⟩ := Trace.of_read h
        split at h
        · exact absurd h.of_done.1 (by simp)
        · obtain ⟨us, tr₄, bytes, tp, rfl, htp, h, hbytes⟩ := readPayload_trace h
          obtain ⟨tb, tr₅, rfl, htb, h⟩ := Trace.of_read h
          obtain ⟨tc, tr₆, rfl, htc, h⟩ := Trace.of_read h
          split at h
          · next heq =>
            obtain ⟨hab, hbc, hb⟩ := heq
            obtain ⟨late, tr₇, te, rfl, hlate, -, hlater, hr⟩ := Trace.of_readAll h
            obtain ⟨hres, rfl⟩ := hr.of_done
            obtain rfl := Option.some.inj hres
            have htck : tc ≤ k := hk (tc, .seqBegin) (by simp [htr₁])
            have hac : ta = tc := hst ta tc hta (by omega) htck (by omega) (hab.trans hbc)
            obtain rfl : ta = tv := by omega
            obtain rfl : ta = ts := by omega
            obtain rfl : ta = tp := by omega
            obtain rfl : ta = tb := by omega
            subst hac
            have hsnap : bytes = slotPayload (hist ta) := hbytes rfl
            refine ⟨(ta, .seqBegin) :: (ta, .valid) :: (ta, .sizeBytes) :: us ++ [(ta, .seqEnd)], ta, late,
              by simpa using htr₁, ⟨by omega, hvalid, rfl⟩, hlate, fun u hu => (hlater u hu).1, ?_⟩
            rw [← hsnap, hab]
            rfl
          · exact again tc ((ta, .seqBegin) :: (tv, .valid) :: (ts, .sizeBytes) :: us ++
              [(tb, .seqEnd), (tc, .seqBegin)]) tr₆ (by omega) h (by simpa using htr₁)

/-! ## Whole runs -/

section Runs

variable {d : RingDesc} {fs : List FrameArgs} {pre mid todo : List (SlotField × ℕ)}

/-- `r` is the result of a call of `fs` whose stores are all among `done`. -/
def CompletedResult (d : RingDesc) (fs : List FrameArgs) (done : List (SlotField × ℕ)) (r : ShmReadResult) : Prop :=
  ∃ before f rest, fs = before ++ f :: rest ∧ f.bytes.length ≤ d.payloadCapacity ∧
    r = callResult d (after zeroSlot (writeFrames d zeroSlot before)) f ∧
    writeFrames d zeroSlot (before ++ [f]) <+: done

/-- What a slot holds between two writes is the result of one completed call. -/
theorem slotResult_completed (hS : writeFrames d zeroSlot fs = pre ++ (mid ++ todo)) {t : ℕ}
    (ht : t ≤ (pre ++ mid).length) {bytes : List UInt8}
    (h : Snapshot (history zeroSlot (pre ++ (mid ++ todo))) t bytes) :
    CompletedResult d fs (pre ++ mid) (slotResult (history zeroSlot (pre ++ (mid ++ todo)) t)) := by
  obtain ⟨heven, hvalid, -⟩ := h
  rw [← hS] at heven hvalid ⊢
  obtain ⟨j, hj⟩ := boundary_of_even zeroSlot_idle fs t heven
  rw [history, hj] at hvalid ⊢
  obtain ⟨before, f, rest, hfs, hf, hlast⟩ := after_writeFrames_valid (fs.take j) hvalid
  refine ⟨before, f, rest ++ fs.drop j, ?_, hf, ?_, ?_⟩
  · rw [← List.cons_append, ← List.append_assoc, ← hfs, List.take_append_drop]
  · rw [hlast, writeFrames_append, after_append, writeFrames, writeFrames, List.append_nil,
      slotResult_writeFrame hf]
  · rw [← hlast, ← hj, hS, ← List.append_assoc, List.take_append_of_le_length ht]
    exact List.take_prefix _ _

/-- A field that is not stored between two times has one value. -/
theorem history_of_not_stored {stores : List (SlotField × ℕ)} {t u : ℕ} (htu : t ≤ u) {l : SlotField}
    (h : ∀ s ∈ (stores.take u).drop t, s.1 ≠ l) : history zeroSlot stores u l = history zeroSlot stores t l := by
  have hsplit : stores.take u = stores.take t ++ (stores.take u).drop t := by
    conv_lhs => rw [← List.take_append_drop t (stores.take u), List.take_take, min_eq_left htu]
  rw [history, history, hsplit, after_append, after_of_not_mem h]

/-- The last of two splittings at an element that does not come again is the same. -/
theorem split_last {α : Type} {x y : α} {xs ys as bs : List α} {P : α → Prop} (hx : P x) (hy : P y)
    (hys : ∀ a ∈ ys, ¬P a) (hbs : ∀ a ∈ bs, ¬P a) (h : xs ++ x :: ys = as ++ y :: bs) : x = y ∧ ys = bs := by
  rcases List.append_eq_append_iff.mp h with ⟨cs, rfl, hcs⟩ | ⟨cs, rfl, hcs⟩
  · cases cs with
    | nil => simpa using hcs
    | cons c cs =>
      obtain ⟨rfl, rfl⟩ := List.cons.inj hcs
      exact absurd hy (hys y (by simp))
  · cases cs with
    | nil => simpa [eq_comm] using hcs
    | cons c cs =>
      obtain ⟨rfl, rfl⟩ := List.cons.inj hcs
      exact absurd hx (hbs x (by simp))

/-- Metadata that is still what it was at the check makes the result the slot's at that time. -/
theorem CheckedAt.eq_slotResult {hist : ℕ → SlotMem} {tc : ℕ} {late : List (ℕ × SlotField)} {r : ShmReadResult}
    (h : CheckedAt hist tc late r) (hquiet : ∀ u ∈ late, hist u.1 u.2 = hist tc u.2) : r = slotResult (hist tc) := by
  have hvals : (late.map fun u => hist u.1 u.2) = metaFields.map (hist tc) := by
    rw [← h.fields, List.map_map]
    exact List.map_congr_left hquiet
  rw [h.result, hvals]
  rfl

/-- Called after the stores `pre`, `read_slot` returns after the stores `mid`; `late` is what happens after
its last load of `seq_begin`. -/
theorem readSlot_of_one_write (hS : writeFrames d zeroSlot fs = pre ++ (mid ++ todo))
    (hfew : starts mid < 2 ^ 63) {mem : SlotMem} {retries : ℕ} {r : ShmReadResult}
    {evs late : List (Event SlotField ℕ)}
    (hrun : Run ⟨after zeroSlot pre, mid ++ todo, readSlot d retries⟩ (evs ++ .load .seqBegin :: late)
      ⟨mem, todo, .done (some r)⟩)
    (hlast : .load .seqBegin ∉ late) (hquiet : ∀ s, .store s ∈ late → s.1 ∉ metaFields) :
    CompletedResult d fs (pre ++ mid) r ∧ r.bytes.length = r.sizeBytes := by
  -- the stores of the run are those before the check and those after it
  have hmid : mid = storesIn evs ++ storesIn late := by
    have htodo := hrun.todo
    rw [storesIn_append, storesIn] at htodo
    exact List.append_cancel_right htodo
  have hlen : (pre ++ mid).length = pre.length + (storesIn evs).length + (storesIn late).length := by
    rw [hmid]
    simp only [List.length_append]
    omega
  have htrace := hrun.trace
  rw [loadsIn_append, loadsIn] at htrace
  have hk : ∀ x ∈ loadsIn pre.length evs ++ (pre.length + (storesIn evs).length, SlotField.seqBegin) ::
      loadsIn (pre.length + (storesIn evs).length) late, x.1 ≤ (pre ++ mid).length := by
    intro x hx
    rcases List.mem_append.mp hx with hx | hx
    · have := (loadsIn_le hx).2
      omega
    · rcases List.mem_cons.mp hx with rfl | hx
      · omega
      · have := (loadsIn_le hx).2
        omega
  obtain ⟨early, tc, loads, hsplit, hchk⟩ :=
    readSlot_checkedAt (history_still_of_starts hS hfew le_rfl) htrace hk
  -- the check of the reader is its last load of `seq_begin`
  have hloads : ∀ x ∈ loads, ¬x.2 = SlotField.seqBegin := by
    intro x hx hseq
    have hmem : x.2 ∈ metaFields := by
      rw [← hchk.fields]
      exact List.mem_map_of_mem hx
    rw [hseq] at hmem
    simp [metaFields] at hmem
  obtain ⟨htc, rfl⟩ := split_last (P := fun x => x.2 = SlotField.seqBegin) rfl rfl
    (fun x hx hseq => hlast (hseq ▸ mem_of_loadsIn hx)) hloads hsplit
  obtain rfl : pre.length + (storesIn evs).length = tc := congrArg Prod.fst htc
  have hr := hchk.eq_slotResult (by
    intro u hu
    apply history_of_not_stored (hchk.later u hu)
    intro s hs hsu
    have hfield : u.2 ∈ metaFields := by
      rw [← hchk.fields]
      exact List.mem_map_of_mem hu
    apply hquiet s _ (hsu ▸ hfield)
    rw [← mem_storesIn]
    have htake : (pre ++ (mid ++ todo)).drop (pre.length + (storesIn evs).length) = storesIn late ++ todo := by
      rw [hmid, List.append_assoc, ← List.append_assoc, List.drop_append_of_le_length (by simp),
        List.drop_of_length_le (by simp), List.nil_append]
    rw [List.drop_take, htake] at hs
    have hle := (loadsIn_le hu).2
    rw [List.take_append_of_le_length (by omega)] at hs
    exact List.mem_of_mem_take hs)
  obtain ⟨before, f, rest, hfs, hf, hres, hpre⟩ := slotResult_completed hS (by omega) hchk.snapshot
  rw [← hr] at hres
  refine ⟨⟨before, f, rest, hfs, hf, hres, hpre⟩, ?_⟩
  rw [hres]
  rfl

end Runs

/-- One complete write, read back without a further one. -/
theorem readSlot_of_one_write_grey :
    CompletedResult pairDesc [greyFrame 7] (writeFrames pairDesc zeroSlot [greyFrame 7])
      ⟨1, 0, 0, 2, 1, 2, 2, 2, [7, 7]⟩ := by
  have hS : writeFrames pairDesc zeroSlot [greyFrame 7] =
      writeFrames pairDesc zeroSlot [greyFrame 7] ++ ([] ++ []) := by simp
  have hrun : Run ⟨after zeroSlot (writeFrames pairDesc zeroSlot [greyFrame 7]), [] ++ [], readSlot pairDesc 1⟩
      ([.load .seqBegin, .load .valid, .load .sizeBytes, .load (.payload 0), .load (.payload 1), .load .seqEnd] ++
        .load .seqBegin :: metaFields.map .load)
      ⟨after zeroSlot (writeFrames pairDesc zeroSlot [greyFrame 7]), [],
        .done (some ⟨1, 0, 0, 2, 1, 2, 2, 2, [7, 7]⟩)⟩ :=
    .load (.load (.load (.load (.load (.load (.load (.load (.load (.load (.load (.load (.load (.load
      (.nil _))))))))))))))
  have h := (readSlot_of_one_write hS (by decide) hrun (by simp [metaFields]) (by simp)).1
  rw [List.append_nil] at h
  exact h

/-! ## A write between the check and the metadata -/

/-- The frame after `greyFrame`, with one byte less. -/
def shortFrame : FrameArgs := ⟨2, 0, 0, 2, [8], 0⟩

/-- The reader copies `[7, 7]` of frame 1 and checks the sequence; frame 2 is written; the reader loads the
metadata.  The result is no frame's, and its size is not that of its bytes. -/
theorem readSlot_mixes_writes :
    ∃ mem r, Steps ⟨zeroSlot, writeFrames pairDesc zeroSlot [greyFrame 7, shortFrame], readSlot pairDesc 1⟩
        ⟨mem, [], .done (some r)⟩ ∧
      (∀ f ∈ [greyFrame 7, shortFrame], ¬(r.bytes = f.bytes ∧ r.frameNumber = f.frameNumber)) ∧
      r.bytes.length ≠ r.sizeBytes := by
  have s1 := Steps.stores zeroSlot (writeFrame pairDesc zeroSlot (greyFrame 7))
    (writeFrame pairDesc (after zeroSlot (writeFrame pairDesc zeroSlot (greyFrame 7))) shortFrame)
    (readSlot pairDesc 1)
  have s2 := Steps.loads (after zeroSlot (writeFrame pairDesc zeroSlot (greyFrame 7)))
    (writeFrame pairDesc (after zeroSlot (writeFrame pairDesc zeroSlot (greyFrame 7))) shortFrame) 7
    (readSlot pairDesc 1)
  have s3 := Steps.stores (after zeroSlot (writeFrame pairDesc zeroSlot (greyFrame 7)))
    (writeFrame pairDesc (after zeroSlot (writeFrame pairDesc zeroSlot (greyFrame 7))) shortFrame) []
    ((readSlot pairDesc 1).loads (after zeroSlot (writeFrame pairDesc zeroSlot (greyFrame 7))) 7)
  have s4 := Steps.eval (after (after zeroSlot (writeFrame pairDesc zeroSlot (greyFrame 7)))
    (writeFrame pairDesc (after zeroSlot (writeFrame pairDesc zeroSlot (greyFrame 7))) shortFrame)) []
    ((readSlot pairDesc 1).loads (after zeroSlot (writeFrame pairDesc zeroSlot (greyFrame 7))) 7)
  rw [List.append_nil] at s3
  refine ⟨_, ⟨2, 0, 0, 2, 1, 2, 1, 2, [7, 7]⟩, ((s1.trans s2).trans s3).trans s4, by decide, by decide⟩

end CameraServer
