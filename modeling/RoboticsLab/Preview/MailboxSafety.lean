import RoboticsLab.Preview.Mailbox
import RoboticsLab.Lib.Runs

/-!
# The mailboxes under every interleaving

The state word of a slot says who may touch its content: `SlotBank.Inv` for both banks, with the
program counters as writer and reader, is kept by every step of either thread.  The planner also
reads slots it has not opened, but only slots it has seen Ready, and those stay Ready until it acts.
`MailboxBooks` follows each content from slot to slot.  Requests are processed in the order of their
tickets because the coalescing loop leaves no older request behind.

    MailboxSafe p (mailboxRun p acts)                                             (mailboxRun_safe)
-/

namespace RbServo

open SlotBank

variable {Q R Ω : Type*} {p : MailboxParams Q R Ω} {s : Mailbox Q R}

/-! ## Who holds which slot -/

/-- The request slot the servo thread is writing. -/
def ServoPc.writer : ServoPc Q R → Writer Q
  | .submitCheck _ i => .claimed i
  | .submitReject i => .claimed i
  | .submitCopy _ i => .claimed i
  | .submitReady q i => .filled i q
  | _ => .none

/-- The result slot the servo thread has opened. -/
def ServoPc.reader : ServoPc Q R → Reader
  | .takeRead i _ => .holding i
  | .takeFree i _ => .spent i
  | _ => .none

/-- The request slot the planner has opened. -/
def WorkerPc.reader : WorkerPc R → Reader
  | .coalesce _ j => .holding j
  | .coalesceRead _ j => .holding j
  | .coalesceFree _ j => .holding j
  | .process j => .holding j
  | .release j _ => .spent j
  | _ => .none

/-- The result slot the planner is writing. -/
def WorkerPc.writer : WorkerPc R → Writer (Processed R)
  | .publishBegin k _ => .claimed k
  | .publishCopy k _ => .claimed k
  | .publishReady k x => .filled k x
  | _ => .none

structure MailboxInv (s : Mailbox Q R) : Prop where
  requests : Inv kSlots s.requests s.servo.writer s.worker.reader
  results : Inv kSlots s.results s.worker.writer s.servo.reader
  watched : ∀ i ∈ s.worker.watched, (s.requests.slot i).state = .ready
  servo_defined : s.servo ≠ .undefined
  worker_defined : s.worker ≠ .undefined

theorem mailboxInv_init : MailboxInv ({} : Mailbox Q R) :=
  ⟨inv_empty, inv_empty, by simp [WorkerPc.watched], by simp, by simp⟩

/-- A slot the planner watches keeps its state word when the servo thread changes slot `i`, unless
slot `i` was Ready itself. -/
theorem watched_of_set {b b' : Bank Q} (i : ℕ) {l : List ℕ} (hw : ∀ j ∈ l, (b.slot j).state = .ready)
    (hi : (b.slot i).state ≠ .ready) (hb : ∀ j, j ≠ i → b'.slot j = b.slot j) :
    ∀ j ∈ l, (b'.slot j).state = .ready := by
  intro j hj
  have hne : j ≠ i := by
    rintro rfl
    exact hi (hw j hj)
  rw [hb j hne]
  exact hw j hj

/-- **One step of the servo thread.** -/
theorem MailboxInv.of_servoStep {s' : Mailbox Q R} (h : MailboxInv s) (hs : ServoStep p s s') :
    MailboxInv s' := by
  obtain ⟨hq, hr, hw, hsd, hwd⟩ := h
  -- the slot the servo thread writes is in state Writing, so the planner does not watch it
  have hown : ∀ i, s.servo.writer.slot = some i → (s.requests.slot i).state ≠ .ready := by
    intro i e
    simp [(hq.writing i).mpr e]
  cases hs with
  | seek pc d h h' =>
    have h0 : ∀ pc : ServoPc Q R, pc.seeks → pc.writer = .none ∧ pc.reader = .none ∧ pc ≠ .undefined := by
      intro pc hpc
      cases pc <;> simp_all [ServoPc.seeks, ServoPc.writer, ServoPc.reader]
    rw [(h0 _ h).1] at hq
    rw [(h0 _ h).2.1] at hr
    exact ⟨(h0 _ h').1 ▸ hq, (h0 _ h').2.1 ▸ hr, hw, (h0 _ h').2.2, hwd⟩
  | claim q i e hi hf =>
    rw [e] at hq hr
    exact ⟨hq.claim hi hf, hr, watched_of_set i hw (by simp [hf]) (by simp +contextual), by simp, hwd⟩
  | begin q i e =>
    rw [e] at hq hr hown
    exact ⟨hq.tear, hr, watched_of_set i hw (hown i rfl) (by simp +contextual), by simp, hwd⟩
  | reject q i d e =>
    rw [e] at hq hr
    exact ⟨hq, hr, hw, by simp, hwd⟩
  | abandon i e =>
    rw [e] at hq hr hown
    exact ⟨hq.abandon, hr, watched_of_set i hw (hown i rfl) (by simp +contextual), by simp, hwd⟩
  | fill q i e =>
    rw [e] at hq hr hown
    exact ⟨hq.fill, hr, watched_of_set i hw (hown i rfl) (by simp +contextual), by simp, hwd⟩
  | ready q i e =>
    rw [e] at hq hr hown
    exact ⟨hq.publish, hr, watched_of_set i hw (hown i rfl) (by simp +contextual), by simp, hwd⟩
  | take e =>
    rw [e] at hq hr
    exact ⟨hq, hr, hw, by simp, hwd⟩
  | grab i found e hf =>
    rw [e] at hq hr
    exact ⟨hq, hr.open hf, hw, by simp, hwd⟩
  | pass i found e hf =>
    rw [e] at hq hr
    exact ⟨hq, hr, hw, by simp, hwd⟩
  | deliver i found e hi =>
    rw [e] at hq hr
    exact ⟨hq, hr, hw, by simp, hwd⟩
  | first i x e hx =>
    rw [e] at hq hr
    exact ⟨hq, hr.consume, hw, by simp, hwd⟩
  | fresher i b x d e hx hf =>
    rw [e] at hq hr
    exact ⟨hq, hr.consume, hw, by simp, hwd⟩
  | older i b x d e hx hf =>
    rw [e] at hq hr
    exact ⟨hq, hr.consume, hw, by simp, hwd⟩
  | torn i found e hx =>
    rw [e] at hr
    obtain ⟨t, x, -, hc, -⟩ := hr.holding_content
    simp [hx] at hc
  | close i found e =>
    rw [e] at hq hr
    exact ⟨hq, hr.close, hw, by simp, hwd⟩
  | stuck e => exact absurd e hsd

/-- **One step of the planner thread.**  It changes request slots it has opened or watches. -/
theorem MailboxInv.of_workerStep {s' : Mailbox Q R} (h : MailboxInv s) (hs : WorkerStep p s s') :
    MailboxInv s' := by
  obtain ⟨hq, hr, hw, hsd, hwd⟩ := h
  cases hs with
  | look pc h h' hl =>
    have h0 : ∀ pc : WorkerPc R, pc.looks → pc.reader = .none ∧ pc.writer = .none ∧ pc ≠ .undefined := by
      intro pc hpc
      cases pc <;> simp_all [WorkerPc.looks, WorkerPc.writer, WorkerPc.reader]
    rw [(h0 _ h).1] at hq
    rw [(h0 _ h).2.1] at hr
    refine ⟨(h0 _ h').1 ▸ hq, (h0 _ h').2.1 ▸ hr, ?_, hsd, (h0 _ h').2.2⟩
    intro i hi
    rcases hl i hi with hi | hi
    · exact hw i hi
    · exact hi
  | scanTorn i j e ht =>
    rw [e] at hw
    obtain ⟨-, q, -, hc, -⟩ := hq.ready_content (hw i (by simp [WorkerPc.watched]))
    obtain ⟨-, q', -, hc', -⟩ := hq.ready_content (hw j (by simp [WorkerPc.watched]))
    exact absurd hc' (fun hc' => ht q q' hc hc')
  | claim j e =>
    rw [e] at hq hr hw
    exact ⟨hq.open (hw j (by simp [WorkerPc.watched])), hr, by simp [WorkerPc.watched], hsd, by simp⟩
  | skip i j e hi =>
    rw [e] at hq hr
    exact ⟨hq, hr, by simp [WorkerPc.watched], hsd, by simp⟩
  | meet i j e hi =>
    rw [e] at hq hr
    exact ⟨hq, hr, by simpa [WorkerPc.watched] using hi, hsd, by simp⟩
  | keep i j q q' e hq1 hq2 hf =>
    rw [e] at hq hr
    exact ⟨hq, hr, by simp [WorkerPc.watched], hsd, by simp⟩
  | outdated i j e =>
    rw [e] at hq hr hw
    exact ⟨hq, hr, hw, hsd, by simp⟩
  | coalesceTorn i j e ht =>
    rw [e] at hq hw
    obtain ⟨-, q, -, hc, -⟩ := hq.ready_content (hw i (by simp [WorkerPc.watched]))
    obtain ⟨-, q', -, hc', -⟩ := hq.holding_content
    exact absurd hc' (fun hc' => ht q q' hc hc')
  | drop i j d e =>
    rw [e] at hq hr hw
    exact ⟨hq.drop (hw i (by simp [WorkerPc.watched])), hr, by simp [WorkerPc.watched], hsd, by simp⟩
  | coalesced i j e hi =>
    rw [e] at hq hr
    exact ⟨hq, hr, by simp [WorkerPc.watched], hsd, by simp⟩
  | process j q w e hc =>
    rw [e] at hq hr
    exact ⟨hq.consume, hr, by simp [WorkerPc.watched], hsd, by simp⟩
  | processTorn j e ht =>
    rw [e] at hq
    obtain ⟨-, q, -, hc, -⟩ := hq.holding_content
    simp [ht] at hc
  | release j x d e =>
    rw [e] at hq hr
    exact ⟨hq.close, hr, by simp [WorkerPc.watched], hsd, by simp⟩
  | occupied k x e =>
    rw [e] at hq hr
    exact ⟨hq, hr, by simp [WorkerPc.watched], hsd, by simp⟩
  | discard k x d e =>
    rw [e] at hq hr
    exact ⟨hq, hr, by simp [WorkerPc.watched], hsd, by simp⟩
  | reserve k x e hk hf =>
    rw [e] at hq hr
    exact ⟨hq, hr.claim hk hf, by simp [WorkerPc.watched], hsd, by simp⟩
  | begin k x e =>
    rw [e] at hq hr
    exact ⟨hq, hr.tear, by simp [WorkerPc.watched], hsd, by simp⟩
  | fill k x e =>
    rw [e] at hq hr
    exact ⟨hq, hr.fill, by simp [WorkerPc.watched], hsd, by simp⟩
  | ready k x e =>
    rw [e] at hq hr
    exact ⟨hq, hr.publish, by simp [WorkerPc.watched], hsd, by simp⟩
  | stuck e => exact absurd e hwd

/-! ## The books -/

/-- A log keeps what it holds when it grows. -/
theorem getElem?_append_of_some {α : Type*} {l l' : List α} {t : ℕ} {a : α} (h : l[t]? = some a) :
    (l ++ l')[t]? = some a := by
  rw [List.getElem?_append_left (List.getElem?_eq_some_iff.mp h).1]
  exact h

/-- The result the current `tryTake` call has chosen so far. -/
def ServoPc.found : ServoPc Q R → Option (Taken R)
  | .take _ found => found
  | .takeRead _ found => found
  | .takeFree _ found => found
  | _ => none

/-- The result the planner has computed and neither published nor dropped. -/
def WorkerPc.carried : WorkerPc R → Option (Processed R)
  | .release _ x => some x
  | .publish _ x => some x
  | .publishBegin _ x => some x
  | .publishCopy _ x => some x
  | .publishReady _ x => some x
  | _ => none

theorem ServoPc.found_of_seeks {pc : ServoPc Q R} (h : pc.seeks) : pc.found = none := by
  cases pc <;> first | rfl | exact Bool.noConfusion h

theorem WorkerPc.carried_of_looks {pc : WorkerPc R} (h : pc.looks) : pc.carried = none := by
  cases pc <;> first | rfl | exact Bool.noConfusion h

structure MailboxBooks (p : MailboxParams Q R Ω) (s : Mailbox Q R) : Prop where
  consumed : (s.processed.map Prod.fst ++ s.coalesced).Perm s.requests.gone
  computed : ∀ x ∈ s.processed, ∃ q w, s.requests.log[x.1]? = some q ∧ x.2 = p.outcome q w
  published : (s.results.log ++ s.worker.carried.toList).Sublist s.processed
  taken : (s.delivered.map Prod.fst ++ s.superseded ++ s.servo.found.toList.map Prod.fst).Perm s.results.gone
  contents : ∀ b ∈ s.delivered ++ s.servo.found.toList, s.results.log[b.1]? = some b.2

theorem mailboxBooks_init : MailboxBooks p ({} : Mailbox Q R) := by
  refine ⟨?_, ?_, ?_, ?_, ?_⟩ <;> simp [WorkerPc.carried, ServoPc.found]

/-- Reading the result of slot `i`: its ticket is gone, and its content is what was published. -/
theorem MailboxInv.taken {i : ℕ} {found : Option (Taken R)} {x : Processed R} (h : MailboxInv s)
    (e : s.servo = .takeRead i found) (hx : (s.results.slot i).content = some x) :
    ∃ t, (s.results.slot i).ticket = some t ∧ (s.results.slot i).ticket.getD 0 = t ∧
      s.results.log[t]? = some x := by
  have hr := h.results
  rw [e] at hr
  obtain ⟨t, y, ht, hc, hl⟩ := hr.holding_content
  rw [hx, Option.some.injEq] at hc
  exact ⟨t, ht, by rw [ht]; rfl, hc ▸ hl⟩

theorem MailboxBooks.of_servoStep {s' : Mailbox Q R} (hb : MailboxBooks p s) (h : MailboxInv s)
    (hs : ServoStep p s s') : MailboxBooks p s' := by
  obtain ⟨h1, h2, h3, h4, h5⟩ := hb
  cases hs with
  | seek pc d e e' =>
    rw [ServoPc.found_of_seeks e] at h4 h5
    have hnone := ServoPc.found_of_seeks e'
    exact ⟨h1, h2, h3, hnone.symm ▸ h4, hnone.symm ▸ h5⟩
  | claim q i e hi hf => rw [e] at h4 h5; exact ⟨h1, h2, h3, h4, h5⟩
  | begin q i e => rw [e] at h4 h5; exact ⟨h1, h2, h3, h4, h5⟩
  | reject q i d e => rw [e] at h4 h5; exact ⟨h1, h2, h3, h4, h5⟩
  | abandon i e => rw [e] at h4 h5; exact ⟨h1, h2, h3, h4, h5⟩
  | fill q i e => rw [e] at h4 h5; exact ⟨h1, h2, h3, h4, h5⟩
  | ready q i e =>
    rw [e] at h4 h5
    refine ⟨h1, ?_, h3, h4, h5⟩
    intro x hx
    obtain ⟨q', w, hq, hr⟩ := h2 x hx
    exact ⟨q', w, getElem?_append_of_some hq, hr⟩
  | take e => rw [e] at h4 h5; exact ⟨h1, h2, h3, h4, h5⟩
  | grab i found e hf => rw [e] at h4 h5; exact ⟨h1, h2, h3, h4, h5⟩
  | pass i found e hf => rw [e] at h4 h5; exact ⟨h1, h2, h3, h4, h5⟩
  | deliver i found e hi =>
    rw [e] at h4 h5
    refine ⟨h1, h2, h3, ?_, by simpa [ServoPc.found] using h5⟩
    refine .trans ?_ h4
    rw [List.perm_iff_count]
    intro t
    simp only [ServoPc.found, List.map_append, List.count_append, Option.toList_none, List.map_nil, List.count_nil]
    omega
  | first i x e hx =>
    obtain ⟨t, ht, hg, hl⟩ := h.taken e hx
    rw [e] at h4 h5
    refine ⟨h1, h2, h3, ?_, ?_⟩
    · simpa [ServoPc.found, ht] using h4.append_right [t]
    · intro b hb
      simp only [ServoPc.found, Option.toList_some, List.mem_append, List.mem_singleton] at hb
      rcases hb with hb | rfl
      · exact h5 b (by simp [hb])
      · simpa [hg] using hl
  | fresher i b x d e hx hf =>
    obtain ⟨t, ht, hg, hl⟩ := h.taken e hx
    rw [e] at h4 h5
    refine ⟨h1, h2, h3, ?_, ?_⟩
    · simpa [ServoPc.found, ht] using h4.append_right [t]
    · intro c hc
      simp only [ServoPc.found, Option.toList_some, List.mem_append, List.mem_singleton] at hc
      rcases hc with hc | rfl
      · exact h5 c (by simp [hc])
      · simpa [hg] using hl
  | older i b x d e hx hf =>
    obtain ⟨t, ht, hg, hl⟩ := h.taken e hx
    rw [e] at h4 h5
    refine ⟨h1, h2, h3, ?_, h5⟩
    refine .trans ?_ (by simpa [ht] using h4.append_right [t])
    rw [List.perm_iff_count]
    intro c
    simp only [ServoPc.found, hg, List.count_append]
    omega
  | torn i found e hx =>
    have hr := h.results
    rw [e] at hr
    obtain ⟨t, x, -, hc, -⟩ := hr.holding_content
    simp [hx] at hc
  | close i found e => rw [e] at h4 h5; exact ⟨h1, h2, h3, h4, h5⟩
  | stuck e => exact ⟨h1, h2, h3, h4, h5⟩

theorem MailboxBooks.of_workerStep {s' : Mailbox Q R} (hb : MailboxBooks p s) (h : MailboxInv s)
    (hs : WorkerStep p s s') : MailboxBooks p s' := by
  obtain ⟨h1, h2, h3, h4, h5⟩ := hb
  cases hs with
  | look pc e e' hw =>
    rw [WorkerPc.carried_of_looks e] at h3
    have hnone := WorkerPc.carried_of_looks e'
    exact ⟨h1, h2, hnone.symm ▸ h3, h4, h5⟩
  | scanTorn i j e ht => rw [e] at h3; exact ⟨h1, h2, h3, h4, h5⟩
  | claim j e => rw [e] at h3; exact ⟨h1, h2, h3, h4, h5⟩
  | skip i j e hi => rw [e] at h3; exact ⟨h1, h2, h3, h4, h5⟩
  | meet i j e hi => rw [e] at h3; exact ⟨h1, h2, h3, h4, h5⟩
  | keep i j q q' e hq hq' hf => rw [e] at h3; exact ⟨h1, h2, h3, h4, h5⟩
  | outdated i j e => rw [e] at h3; exact ⟨h1, h2, h3, h4, h5⟩
  | coalesceTorn i j e ht => rw [e] at h3; exact ⟨h1, h2, h3, h4, h5⟩
  | drop i j d e =>
    rw [e] at h3
    exact ⟨by simpa using h1.append_right (s.requests.slot i).ticket.toList, h2, h3, h4, h5⟩
  | coalesced i j e hi => rw [e] at h3; exact ⟨h1, h2, h3, h4, h5⟩
  | process j q w e hc =>
    have hq := h.requests
    rw [e] at h3 hq
    obtain ⟨t, q', ht, hc', hl⟩ := hq.holding_content
    rw [hc, Option.some.injEq] at hc'
    subst hc'
    refine ⟨?_, ?_, ?_, h4, h5⟩
    · refine .trans ?_ (by simpa [ht] using h1.append_right [t])
      rw [List.perm_iff_count]
      intro c
      simp only [ht, Option.getD_some, List.map_append, List.map_cons, List.map_nil, List.count_append]
      omega
    · intro x hx
      rcases List.mem_append.mp hx with hx | hx
      · exact h2 x hx
      · rw [List.mem_singleton] at hx
        subst hx
        exact ⟨q, w, by simpa [ht] using hl, rfl⟩
    · simpa [WorkerPc.carried] using h3
  | processTorn j e ht => rw [e] at h3; exact ⟨h1, h2, h3, h4, h5⟩
  | release j x d e => rw [e] at h3; exact ⟨h1, h2, h3, h4, h5⟩
  | occupied k x e => rw [e] at h3; exact ⟨h1, h2, h3, h4, h5⟩
  | discard k x d e =>
    rw [e] at h3
    refine ⟨h1, h2, ?_, h4, h5⟩
    exact .trans (by simp [WorkerPc.carried]) h3
  | reserve k x e hk hf => rw [e] at h3; exact ⟨h1, h2, h3, h4, h5⟩
  | begin k x e => rw [e] at h3; exact ⟨h1, h2, h3, h4, h5⟩
  | fill k x e => rw [e] at h3; exact ⟨h1, h2, h3, h4, h5⟩
  | ready k x e =>
    rw [e] at h3
    refine ⟨h1, h2, by simpa [WorkerPc.carried] using h3, h4, ?_⟩
    intro b hb
    exact getElem?_append_of_some (h5 b hb)
  | stuck e => exact ⟨h1, h2, h3, h4, h5⟩

/-! ## The order of processing -/

/-- The requests became Ready in increasing `generated_at_sec`. -/
def SubmittedInOrder (p : MailboxParams Q R Ω) (log : List Q) : Prop :=
  log.Pairwise fun a b => Double.lt (p.generatedAtSec a) (p.generatedAtSec b)

/-- The planner has opened slot `j` and has already cleared slot `i` of older requests. -/
def WorkerPc.cleared : WorkerPc R → ℕ → ℕ → Prop
  | .coalesce i' j', i, j => j = j' ∧ i < i'
  | .coalesceRead i' j', i, j => j = j' ∧ i < i'
  | .coalesceFree i' j', i, j => j = j' ∧ i < i'
  | .process j', _, j => j = j'
  | _, _, _ => False

theorem WorkerPc.reader_of_cleared {pc : WorkerPc R} {i j : ℕ} (h : pc.cleared i j) :
    pc.reader = .holding j := by
  cases pc <;> simp_all [WorkerPc.cleared, WorkerPc.reader]

structure RequestOrder (s : Mailbox Q R) : Prop where
  after : ∀ i t, (s.requests.slot i).ticket = some t → ∀ x ∈ s.processed, x.1 < t
  sorted : (s.processed.map Prod.fst).Pairwise (· < ·)
  cleared : ∀ i j t t', s.worker.cleared i j → i ≠ j → (s.requests.slot i).ticket = some t →
    (s.requests.slot j).ticket = some t' → t' < t

theorem requestOrder_init : RequestOrder ({} : Mailbox Q R) := by
  refine ⟨?_, ?_, ?_⟩ <;> simp

/-- An operation of the servo thread that moves no ticket keeps the order. -/
theorem RequestOrder.of_ticket {s' : Mailbox Q R} (h : RequestOrder s) (hp : s'.processed = s.processed)
    (hw : s'.worker = s.worker) (ht : ∀ i, (s'.requests.slot i).ticket = (s.requests.slot i).ticket) :
    RequestOrder s' := by
  obtain ⟨h1, h2, h3⟩ := h
  refine ⟨?_, by rw [hp]; exact h2, ?_⟩
  · intro i t hi
    rw [hp]
    exact h1 i t (ht i ▸ hi)
  · intro i j t t' hc hij hi hj
    exact h3 i j t t' (hw ▸ hc) hij (ht i ▸ hi) (ht j ▸ hj)

theorem RequestOrder.of_servoStep {s' : Mailbox Q R} (ho : RequestOrder s) (h : MailboxInv s)
    (hb : MailboxBooks p s) (hs : ServoStep p s s') : RequestOrder s' := by
  cases hs with
  | claim q i e hi hf => exact ho.of_ticket rfl rfl (Bank.setState_ticket i _)
  | begin q i e => exact ho.of_ticket rfl rfl (Bank.setContent_ticket i _)
  | abandon i e => exact ho.of_ticket rfl rfl (Bank.setState_ticket i _)
  | fill q i e => exact ho.of_ticket rfl rfl (Bank.setContent_ticket i _)
  | ready q i e =>
    -- the new ticket is larger than every ticket given out so far
    have hlt : ∀ x ∈ s.processed, x.1 < s.requests.log.length := by
      intro x hx
      obtain ⟨q', w, hq, -⟩ := hb.computed x hx
      exact (List.getElem?_eq_some_iff.mp hq).1
    have hw : (s.requests.slot i).state = .writing := (h.requests.writing i).mpr (by rw [e]; rfl)
    refine ⟨?_, ho.sorted, ?_⟩
    · intro k t hk x hx
      by_cases hki : k = i
      · simp only [Bank.publish_slot, hki, if_true, Option.some.injEq] at hk
        exact hk ▸ hlt x hx
      · simp only [Bank.publish_slot, hki, if_false] at hk
        exact ho.after k t hk x hx
    · intro k j t t' hc hkj hk hj
      have hji : j ≠ i := by
        rintro rfl
        have := (h.requests.reading j).mpr (by rw [WorkerPc.reader_of_cleared hc]; rfl)
        simp [hw] at this
      simp only [Bank.publish_slot, hji, if_false] at hj
      by_cases hki : k = i
      · simp only [Bank.publish_slot, hki, if_true, Option.some.injEq] at hk
        exact hk ▸ h.requests.lt_of_ticket hj
      · simp only [Bank.publish_slot, hki, if_false] at hk
        exact ho.cleared k j t t' hc hkj hk hj
  | _ => exact ho.of_ticket rfl rfl fun _ => rfl

/-- A Ready request that the coalescing loop keeps is newer than the selected one. -/
theorem ticket_lt_of_not_le {n i j t t' : ℕ} {b : Bank Q} {w : Writer Q} {r : Reader} {q q' : Q}
    (h : Inv n b w r) (hlog : SubmittedInOrder p b.log) (hij : i ≠ j)
    (hi : (b.slot i).ticket = some t) (hj : (b.slot j).ticket = some t')
    (hq : (b.slot i).content = some q) (hq' : (b.slot j).content = some q')
    (hf : ¬ Double.le (p.generatedAtSec q) (p.generatedAtSec q')) : t' < t := by
  by_contra hle
  have hne : t ≠ t' := by
    rintro rfl
    exact hij (h.inj i j t hi hj)
  have hlt : t < t' := by omega
  obtain ⟨a, ha, hta⟩ := h.content i t hi
  obtain ⟨a', ha', hta'⟩ := h.content j t' hj
  rw [hq, Option.some.injEq] at ha
  rw [hq', Option.some.injEq] at ha'
  subst ha ha'
  obtain ⟨h1, e1⟩ := List.getElem?_eq_some_iff.mp hta
  obtain ⟨h2, e2⟩ := List.getElem?_eq_some_iff.mp hta'
  have := List.pairwise_iff_getElem.mp hlog t t' h1 h2 hlt
  rw [e1, e2] at this
  exact hf (Double.le_of_lt this)

theorem RequestOrder.of_workerStep {s' : Mailbox Q R} (ho : RequestOrder s) (h : MailboxInv s)
    (hlog : SubmittedInOrder p s.requests.log) (hs : WorkerStep p s s') : RequestOrder s' := by
  have hq := h.requests
  cases hs with
  | look pc e e' hw =>
    refine ⟨ho.after, ho.sorted, ?_⟩
    intro i j t t' hc
    exact absurd hc (by cases pc <;> simp_all [WorkerPc.looks, WorkerPc.cleared])
  | claim j e =>
    refine ⟨?_, ho.sorted, ?_⟩
    · intro i t hi
      exact ho.after i t (Bank.setState_ticket j _ i ▸ hi)
    · rintro i j' t t' ⟨-, hlt⟩
      omega
  | skip i j e hi =>
    refine ⟨ho.after, ho.sorted, ?_⟩
    rintro k j' t t' ⟨rfl, hk⟩ hkj hkt hjt
    rw [e] at hq
    replace hkt : (s.requests.slot k).ticket = some t := hkt
    by_cases hki : k = i
    · subst hki
      -- a slot that is not Ready and not the selected one holds no ticket
      rcases (hq.ticket k).mp (by simp [hkt]) with hr | hr
      · exact absurd hr (hi.resolve_left hkj)
      · exact absurd (by simpa [WorkerPc.reader] using hr.symm) hkj
    · exact ho.cleared k j' t t' (by rw [e]; exact ⟨rfl, by omega⟩) hkj hkt hjt
  | meet i j e hi =>
    exact ⟨ho.after, ho.sorted, fun k j' t t' hc => ho.cleared k j' t t' (by rw [e]; exact hc)⟩
  | keep i j q q' e hqi hqj hf =>
    refine ⟨ho.after, ho.sorted, ?_⟩
    rintro k j' t t' ⟨rfl, hk⟩ hkj hkt hjt
    by_cases hki : k = i
    · subst hki
      exact ticket_lt_of_not_le hq hlog hkj hkt hjt hqi hqj hf
    · exact ho.cleared k j' t t' (by rw [e]; exact ⟨rfl, by omega⟩) hkj hkt hjt
  | outdated i j e =>
    exact ⟨ho.after, ho.sorted, fun k j' t t' hc => ho.cleared k j' t t' (by rw [e]; exact hc)⟩
  | drop i j d e =>
    have ht : ∀ k t, ((s.requests.drop i).slot k).ticket = some t → k ≠ i ∧ (s.requests.slot k).ticket = some t := by
      intro k t hk
      by_cases hki : k = i
      · simp [hki] at hk
      · exact ⟨hki, by simpa [hki] using hk⟩
    refine ⟨fun k t hk => ho.after k t (ht k t hk).2, ho.sorted, ?_⟩
    rintro k j' t t' ⟨rfl, hk⟩ hkj hkt hjt
    obtain ⟨hki, hkt⟩ := ht k t hkt
    exact ho.cleared k j' t t' (by rw [e]; exact ⟨rfl, by omega⟩) hkj hkt (ht j' t' hjt).2
  | coalesced i j e hi =>
    refine ⟨ho.after, ho.sorted, ?_⟩
    rintro k j' t t' rfl hkj hkt hjt
    have hk : k < kSlots := hq.lt_of_ticket_slot hkt
    exact ho.cleared k j' t t' (by rw [e]; exact ⟨rfl, by omega⟩) hkj hkt hjt
  | process j q w e hc =>
    rw [e] at hq
    obtain ⟨t, q', ht, -, -⟩ := hq.holding_content
    have hafter := ho.after j t ht
    refine ⟨?_, ?_, ?_⟩
    · intro k tk hk x hx
      by_cases hkj : k = j
      · simp [hkj] at hk
      · simp only [Bank.consume_slot, hkj, if_false] at hk
        rcases List.mem_append.mp hx with hx | hx
        · exact ho.after k tk hk x hx
        · rw [List.mem_singleton] at hx
          subst hx
          simpa [ht] using ho.cleared k j tk t (by rw [e]; rfl) hkj hk ht
    · rw [List.map_append, List.pairwise_append]
      refine ⟨ho.sorted, by simp, ?_⟩
      intro a ha b hb
      obtain ⟨x, hx, rfl⟩ := List.mem_map.mp ha
      simp only [ht, Option.getD_some, List.map_cons, List.map_nil, List.mem_singleton] at hb
      exact hb ▸ hafter x hx
    · intro i j' t t' hc
      exact hc.elim
  | release j x d e =>
    refine ⟨fun i t hi => ho.after i t (Bank.setState_ticket j _ i ▸ hi), ho.sorted, ?_⟩
    intro i j' t t' hc
    exact hc.elim
  | stuck e => exact ho
  | _ =>
    refine ⟨ho.after, ho.sorted, ?_⟩
    intro i j' t t' hc
    exact hc.elim

/-! ## Whole runs -/

theorem mailboxInv_run (acts : List (MailboxAct Q Ω)) :
    MailboxInv (mailboxRun p acts) ∧ MailboxBooks p (mailboxRun p acts) := by
  induction acts using List.reverseRecOn with
  | nil => exact ⟨mailboxInv_init, mailboxBooks_init⟩
  | append_singleton acts a ih =>
    obtain ⟨h, hb⟩ := ih
    rw [mailboxRun, List.foldl_append, List.foldl_cons, List.foldl_nil, ← mailboxRun]
    cases a with
    | servo call =>
      have hs := servoStep_spec p call (mailboxRun p acts)
      exact ⟨h.of_servoStep hs, hb.of_servoStep h hs⟩
    | worker w =>
      have hs := workerStep_spec p w (mailboxRun p acts)
      exact ⟨h.of_workerStep hs, hb.of_workerStep h hs⟩
    | stop =>
      obtain ⟨h1, h2, h3, h4, h5⟩ := h
      obtain ⟨b1, b2, b3, b4, b5⟩ := hb
      exact ⟨⟨h1, h2, h3, h4, h5⟩, ⟨b1, b2, b3, b4, b5⟩⟩

theorem requests_log_mono (s : Mailbox Q R) (a : MailboxAct Q Ω) :
    s.requests.log <+: (mailboxStep p s a).requests.log := by
  cases a with
  | servo call =>
    have hs := servoStep_spec p call s
    rw [mailboxStep]
    generalize servoStep p call s = s' at hs
    cases hs with
    | ready q i e => exact ⟨[q], rfl⟩
    | _ => exact ⟨[], List.append_nil _⟩
  | worker w =>
    have hs := workerStep_spec p w s
    rw [mailboxStep]
    generalize workerStep p w s = s' at hs
    cases hs <;> exact ⟨[], List.append_nil _⟩
  | stop => exact ⟨[], List.append_nil _⟩

theorem requestOrder_run (acts : List (MailboxAct Q Ω))
    (hlog : SubmittedInOrder p (mailboxRun p acts).requests.log) : RequestOrder (mailboxRun p acts) := by
  induction acts using List.reverseRecOn with
  | nil => exact requestOrder_init
  | append_singleton acts a ih =>
    obtain ⟨h, hb⟩ := mailboxInv_run (p := p) acts
    rw [mailboxRun, List.foldl_append, List.foldl_cons, List.foldl_nil, ← mailboxRun] at hlog ⊢
    have hlog' : SubmittedInOrder p (mailboxRun p acts).requests.log :=
      List.Pairwise.sublist (requests_log_mono _ a).sublist hlog
    have ho := ih hlog'
    cases a with
    | servo call => exact ho.of_servoStep h hb (servoStep_spec p call _)
    | worker w => exact ho.of_workerStep h hlog' (workerStep_spec p w _)
    | stop => exact ⟨ho.after, ho.sorted, ho.cleared⟩

/-! ## What the two threads may rely on -/

/-- The request slot the servo thread is copying into. -/
def ServoPc.writesContent : ServoPc Q R → Option ℕ
  | .submitCopy _ i => some i
  | _ => none

/-- The result slot the servo thread is reading. -/
def ServoPc.readsContent : ServoPc Q R → Option ℕ
  | .takeRead i _ => some i
  | _ => none

/-- The result slot the planner is copying into. -/
def WorkerPc.writesContent : WorkerPc R → Option ℕ
  | .publishCopy k _ => some k
  | _ => none

/-- The request slots the planner is reading. -/
def WorkerPc.readsContent : WorkerPc R → List ℕ
  | .scanRead i selected => i :: selected.toList
  | .coalesceRead i j => [i, j]
  | .process j => [j]
  | _ => []

/-- One thread reads a slot's content while the other writes it. -/
def Race (s : Mailbox Q R) : Prop :=
  ∃ i, (s.servo.writesContent = some i ∧ i ∈ s.worker.readsContent) ∨
    (s.worker.writesContent = some i ∧ s.servo.readsContent = some i)

structure MailboxSafe (p : MailboxParams Q R Ω) (s : Mailbox Q R) : Prop where
  noRace : ¬ Race s
  /-- No thread has read a content in the middle of a copy. -/
  servoDefined : s.servo ≠ .undefined
  workerDefined : s.worker ≠ .undefined
  /-- Every request that became Ready has been processed, has been coalesced or waits in its slot:
  exactly one of the three, and once. -/
  requests : (s.processed.map Prod.fst ++ s.coalesced ++ s.requests.pending kSlots).Perm
    (List.range s.requests.log.length)
  /-- Every published result has been delivered, has lost to a fresher one, is the choice of the
  running `tryTake` or waits in its slot: exactly one of the four, and once. -/
  results : (s.delivered.map Prod.fst ++ s.superseded ++ s.servo.found.toList.map Prod.fst ++
    s.results.pending kSlots).Perm (List.range s.results.log.length)
  /-- A delivered result is the outcome of a `process` call on a submitted request. -/
  delivered : ∀ b ∈ s.delivered, b.2 ∈ s.processed ∧
    ∃ q w, s.requests.log[b.2.1]? = some q ∧ b.2.2 = p.outcome q w
  /-- No two delivered results come from the same request. -/
  deliveredOnce : (s.delivered.map fun b => b.2.1).Nodup
  /-- Requests submitted in increasing `generated_at_sec` are processed in increasing order. -/
  ordered : SubmittedInOrder p s.requests.log →
    s.processed.Pairwise fun x y => ∀ q q', s.requests.log[x.1]? = some q →
      s.requests.log[y.1]? = some q' → Double.lt (p.generatedAtSec q) (p.generatedAtSec q')

theorem MailboxInv.not_race (h : MailboxInv s) : ¬ Race s := by
  rintro ⟨i, ⟨hw, hr⟩ | ⟨hw, hr⟩⟩
  · have hrd : (s.requests.slot i).state = .ready ∨ (s.requests.slot i).state = .reading := by
      rw [h.requests.reading i]
      have := h.watched i
      cases hpc : s.worker <;>
        simp_all [WorkerPc.readsContent, WorkerPc.watched, WorkerPc.reader, Reader.slot]
      exact hr.imp (fun e : i = _ => e ▸ this e) Eq.symm
    have hwr : (s.requests.slot i).state = .writing := by
      apply (h.requests.writing i).mpr
      cases hpc : s.servo <;> simp_all [ServoPc.writesContent, ServoPc.writer, Writer.slot]
    simp [hwr] at hrd
  · have hwr : (s.results.slot i).state = .writing := by
      apply (h.results.writing i).mpr
      cases hpc : s.worker <;> simp_all [WorkerPc.writesContent, WorkerPc.writer, Writer.slot]
    have hrd : (s.results.slot i).state = .reading := by
      apply (h.results.reading i).mpr
      cases hpc : s.servo <;> simp_all [ServoPc.readsContent, ServoPc.reader, Reader.slot]
    simp [hwr] at hrd

/-- The published results come from distinct requests. -/
theorem MailboxBooks.published_nodup (hb : MailboxBooks p s) (h : MailboxInv s) :
    (s.results.log.map Prod.fst).Nodup := by
  have hgone : s.requests.gone.Nodup :=
    (List.nodup_append.mp (h.requests.perm.nodup_iff.mpr List.nodup_range)).1
  have hproc : (s.processed.map Prod.fst).Nodup :=
    (List.nodup_append.mp (hb.consumed.nodup_iff.mpr hgone)).1
  refine hproc.sublist (List.Sublist.map _ (.trans ?_ hb.published))
  exact List.sublist_append_left _ _

theorem MailboxBooks.delivered_nodup (hb : MailboxBooks p s) (h : MailboxInv s) :
    (s.delivered.map fun b => b.2.1).Nodup := by
  have hgone : s.results.gone.Nodup :=
    (List.nodup_append.mp (h.results.perm.nodup_iff.mpr List.nodup_range)).1
  have htickets : (s.delivered.map Prod.fst).Nodup := by
    have := (List.nodup_append.mp (hb.taken.nodup_iff.mpr hgone)).1
    exact (List.nodup_append.mp this).1
  have hlog := hb.published_nodup h
  rw [List.Nodup, List.pairwise_map] at htickets ⊢
  apply htickets.imp_of_mem
  intro b c hbm hcm hne heq
  -- the two results stand at different places of a log whose requests are distinct
  have hb1 := hb.contents b (by simp [hbm])
  have hc1 := hb.contents c (by simp [hcm])
  have hlt : b.1 < (s.results.log.map Prod.fst).length := by
    rw [List.length_map]
    exact (List.getElem?_eq_some_iff.mp hb1).1
  apply hne
  apply (List.getElem?_inj hlt hlog).mp
  rw [List.getElem?_map, List.getElem?_map, hb1, hc1, Option.map_some, Option.map_some, heq]

/-- **Whole runs.**  In every state that any interleaving of the two threads reaches, the mailboxes
are safe: no race, nothing lost, nothing twice, nothing mixed up, and requests in order. -/
theorem mailboxRun_safe (p : MailboxParams Q R Ω) (acts : List (MailboxAct Q Ω)) :
    MailboxSafe p (mailboxRun p acts) := by
  obtain ⟨h, hb⟩ := mailboxInv_run (p := p) acts
  set s := mailboxRun p acts with hs
  refine ⟨h.not_race, h.servo_defined, h.worker_defined, ?_, ?_, ?_, hb.delivered_nodup h, ?_⟩
  · exact (hb.consumed.append_right _).trans h.requests.perm
  · exact (hb.taken.append_right _).trans h.results.perm
  · intro b hbm
    have hlog := hb.contents b (by simp [hbm])
    have hpub : b.2 ∈ s.processed := by
      apply hb.published.subset
      exact List.mem_append_left _ (List.mem_of_getElem? hlog)
    exact ⟨hpub, hb.computed b.2 hpub⟩
  · intro hlog
    have hsorted := (requestOrder_run acts (hs ▸ hlog)).sorted
    rw [← hs, List.pairwise_map] at hsorted
    apply hsorted.imp
    intro x y hxy q q' hq hq'
    obtain ⟨h1, e1⟩ := List.getElem?_eq_some_iff.mp hq
    obtain ⟨h2, e2⟩ := List.getElem?_eq_some_iff.mp hq'
    have := List.pairwise_iff_getElem.mp hlog _ _ h1 h2 hxy
    rwa [e1, e2] at this

end RbServo
