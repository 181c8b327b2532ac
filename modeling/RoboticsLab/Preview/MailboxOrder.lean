import RoboticsLab.Preview.MailboxSafety

/-!
# The order in which results are delivered

`tryTake` visits the result slots one by one and keeps the freshest result it takes.  The planner may
publish meanwhile: an older result into a slot the scan has passed, then a newer one into a slot it
has not reached.  The call returns the newer one, and the next call the older one.  When no call
takes a result while an older one lies behind its scan, the delivered results only get fresher.

    EveryStep TakeSafe → PublishedInOrder → TakenInOrder            (takenInOrder_of_takeSafe)
    the schedule of `delivered_goes_back` delivers result 2, then result 1
-/

namespace RbServo

open SlotBank Runs

variable {Q R Ω : Type*} {p : MailboxParams Q R Ω} {s : Mailbox Q R}

/-- The planner published its results in increasing freshness. -/
def PublishedInOrder (p : MailboxParams Q R Ω) (s : Mailbox Q R) : Prop :=
  s.results.log.Pairwise fun x y => freshLt (p.resultKey x.2) (p.resultKey y.2)

/-- The successful `tryTake` calls returned results of increasing freshness. -/
def TakenInOrder (p : MailboxParams Q R Ω) (s : Mailbox Q R) : Prop :=
  s.delivered.Pairwise fun b c => freshLt (p.resultKey b.2.2) (p.resultKey c.2.2)

/-- The result slot the running `tryTake` looks at next. -/
def ServoPc.scanning : ServoPc Q R → Option ℕ
  | .take k _ => some k
  | _ => none

/-- The running `tryTake` does not find the result of slot `k` Ready while an older one is Ready in a
slot it has passed. -/
def FresherBehind (p : MailboxParams Q R Ω) (s : Mailbox Q R) : Prop :=
  ∀ k ∈ s.servo.scanning, (s.results.slot k).state = .ready →
    ∀ i < k, (s.results.slot i).state = .ready → ∀ x ∈ (s.results.slot k).content,
      ∀ y ∈ (s.results.slot i).content, freshLt (p.resultKey x.2) (p.resultKey y.2)

/-- The servo thread steps only where `FresherBehind` holds. -/
def TakeSafe (p : MailboxParams Q R Ω) (s : Mailbox Q R) : MailboxAct Q Ω → Prop
  | .servo _ => FresherBehind p s
  | _ => True

instance (a : MailboxAct Q Ω) : Decidable (TakeSafe p s a) :=
  match a with
  | .servo _ => by unfold TakeSafe FresherBehind; infer_instance
  | .worker _ => isTrue trivial
  | .stop => isTrue trivial

theorem freshLt_asymm {a b : Double × ℕ} (h : freshLt a b) : freshLt b a = false := by
  simp only [freshLt, Bool.or_eq_true, Bool.and_eq_true, decide_eq_true_eq] at h
  rw [freshLt, Bool.or_eq_false_iff, Bool.and_eq_false_iff, decide_eq_false_iff_not]
  rcases h with h | ⟨h, hlt⟩
  · refine ⟨Double.lt_asymm h, .inl ?_⟩
    simp [Double.eq, Double.not_le_of_lt h]
  · refine ⟨?_, .inr (by omega)⟩
    by_contra hba
    have := Double.not_le_of_lt (eq_true_of_ne_false hba)
    simp [Double.eq, this] at h

/-- In a log of increasing freshness the order of two results is that of their tickets. -/
theorem ticket_lt_of_freshLt (hpub : PublishedInOrder p s) {t t' : ℕ} {x y : Processed R}
    (hx : s.results.log[t]? = some x) (hy : s.results.log[t']? = some y) (hne : t ≠ t')
    (hf : freshLt (p.resultKey x.2) (p.resultKey y.2)) : t < t' := by
  by_contra hle
  have hlt : t' < t := by omega
  obtain ⟨h1, e1⟩ := List.getElem?_eq_some_iff.mp hx
  obtain ⟨h2, e2⟩ := List.getElem?_eq_some_iff.mp hy
  have := List.pairwise_iff_getElem.mp hpub t' t h2 h1 hlt
  rw [e1, e2] at this
  simp [freshLt_asymm this] at hf

/-! ## The invariant -/

/-- The slots the running `tryTake` call has passed. -/
def ServoPc.passed : ServoPc Q R → ℕ → Prop
  | .take i _, k => k < i
  | .takeRead i _, k => k < i
  | .takeFree i _, k => k < i
  | _, _ => False

/-- What waits is newer than what was delivered, and what waits in a passed slot is newer than what
the running call holds. -/
structure TakeOrder (s : Mailbox Q R) : Prop where
  sorted : (s.delivered.map Prod.fst).Pairwise (· < ·)
  after : ∀ i t, (s.results.slot i).ticket = some t → ∀ d ∈ s.delivered, d.1 < t
  found : ∀ b ∈ s.servo.found, ∀ d ∈ s.delivered, d.1 < b.1
  passed : ∀ i t, s.servo.passed i → (s.results.slot i).ticket = some t → ∀ b ∈ s.servo.found, b.1 < t
  held : ∀ i j t t', s.servo.passed i → s.servo.reader = .holding j →
    (s.results.slot i).ticket = some t → (s.results.slot j).ticket = some t' → t' < t

theorem takeOrder_init : TakeOrder ({} : Mailbox Q R) := by
  refine ⟨?_, ?_, ?_, ?_, ?_⟩ <;> simp

/-- A step that leaves the results and the call alone. -/
theorem TakeOrder.of_ticket {s' : Mailbox Q R} (h : TakeOrder s) (hd : s'.delivered = s.delivered)
    (hs : s'.servo = s.servo) (ht : ∀ i, (s'.results.slot i).ticket = (s.results.slot i).ticket) :
    TakeOrder s' := by
  obtain ⟨h1, h2, h3, h4, h5⟩ := h
  refine ⟨by rwa [hd], ?_, by rwa [hd, hs], ?_, ?_⟩
  · intro i t hi
    rw [hd]
    exact h2 i t (ht i ▸ hi)
  · intro i t hp hi
    rw [hs] at hp ⊢
    exact h4 i t hp (ht i ▸ hi)
  · intro i j t t' hp hr hi hj
    rw [hs] at hp hr
    exact h5 i j t t' hp hr (ht i ▸ hi) (ht j ▸ hj)

/-- **One step of the planner thread.**  A newly published result gets a ticket above all others. -/
theorem TakeOrder.of_workerStep {s' : Mailbox Q R} (ho : TakeOrder s) (h : MailboxInv s)
    (hb : MailboxBooks p s) (hs : WorkerStep p s s') : TakeOrder s' := by
  cases hs with
  | reserve k x e hk hf => exact ho.of_ticket rfl rfl (Bank.setState_ticket k _)
  | begin k x e => exact ho.of_ticket rfl rfl (Bank.setContent_ticket k _)
  | fill k x e => exact ho.of_ticket rfl rfl (Bank.setContent_ticket k _)
  | ready k x e =>
    have hlt : ∀ b ∈ s.delivered ++ s.servo.found.toList, b.1 < s.results.log.length := by
      intro b hbm
      exact (List.getElem?_eq_some_iff.mp (hb.contents b hbm)).1
    have hw : (s.results.slot k).state = .writing := (h.results.writing k).mpr (by rw [e]; rfl)
    have ht : ∀ i t, ((s.results.publish k x).slot i).ticket = some t →
        (i = k ∧ t = s.results.log.length) ∨ (i ≠ k ∧ (s.results.slot i).ticket = some t) := by
      intro i t hi
      by_cases hik : i = k
      · simp only [Bank.publish_slot, hik, if_true, Option.some.injEq] at hi
        exact .inl ⟨hik, hi.symm⟩
      · simp only [Bank.publish_slot, hik, if_false] at hi
        exact .inr ⟨hik, hi⟩
    refine ⟨ho.sorted, ?_, ho.found, ?_, ?_⟩
    · intro i t hi d hd
      rcases ht i t hi with ⟨-, rfl⟩ | ⟨-, hi⟩
      · exact hlt d (List.mem_append_left _ hd)
      · exact ho.after i t hi d hd
    · intro i t hp hi b hbm
      rcases ht i t hi with ⟨-, rfl⟩ | ⟨-, hi⟩
      · exact hlt b (List.mem_append_right _ (by simpa using hbm))
      · exact ho.passed i t hp hi b hbm
    · intro i j t t' hp hr hi hj
      have hjk : j ≠ k := by
        rintro rfl
        have hrd : (s.results.slot j).state = .reading := (h.results.reading j).mpr (by rw [hr]; rfl)
        simp [hw] at hrd
      have hj : (s.results.slot j).ticket = some t' := ((ht j t' hj).resolve_left fun hj => hjk hj.1).2
      rcases ht i t hi with ⟨-, rfl⟩ | ⟨-, hi⟩
      · exact h.results.lt_of_ticket hj
      · exact ho.held i j t t' hp hr hi hj
  | _ => exact ho.of_ticket rfl rfl fun _ => rfl

/-- Consuming the result of slot `j` leaves the other tickets. -/
theorem ticket_of_consume {α : Type*} {b : Bank α} {i j t : ℕ} (h : ((b.consume j).slot i).ticket = some t) :
    (b.slot i).ticket = some t := by
  by_cases hij : i = j
  · simp [hij] at h
  · simpa [hij] using h

/-- The running call replaces what it has found by `c`, which no passed slot and no delivered result
contradicts, and consumes slot `i`. -/
theorem TakeOrder.of_read {s' : Mailbox Q R} {i : ℕ} {c : Taken R}
    (ho : TakeOrder s) (hd : s'.delivered = s.delivered)
    (he : s'.servo = .takeFree i (some c)) (hr : s'.results = s.results.consume i)
    (hc : (∀ d ∈ s.delivered, d.1 < c.1) ∧
      ∀ k < i, ∀ t, (s.results.slot k).ticket = some t → c.1 < t) : TakeOrder s' := by
  refine ⟨by rw [hd]; exact ho.sorted, ?_, ?_, ?_, ?_⟩
  · intro k t hk
    rw [hr] at hk
    rw [hd]
    exact ho.after k t (ticket_of_consume hk)
  · intro b hb
    rw [he] at hb
    rw [hd]
    obtain rfl : c = b := by simpa [ServoPc.found] using hb
    exact hc.1
  · intro k t hp hk b hb
    rw [he] at hp hb
    rw [hr] at hk
    obtain rfl : c = b := by simpa [ServoPc.found] using hb
    exact hc.2 k hp t (ticket_of_consume hk)
  · intro k j t t' hp hj
    rw [he] at hj
    cases hj

/-- The result in the slot the call has opened is newer than the delivered ones and older than those
in the passed slots. -/
theorem TakeOrder.read_bounds {i : ℕ} {found : Option (Taken R)} {x : Processed R} (ho : TakeOrder s)
    (h : MailboxInv s) (e : s.servo = .takeRead i found) (hx : (s.results.slot i).content = some x) :
    (∀ d ∈ s.delivered, d.1 < (s.results.slot i).ticket.getD 0) ∧
      ∀ k < i, ∀ t, (s.results.slot k).ticket = some t → (s.results.slot i).ticket.getD 0 < t := by
  obtain ⟨t, ht, hg, -⟩ := h.taken e hx
  rw [hg]
  refine ⟨ho.after i t ht, ?_⟩
  intro k hk t' hk'
  exact ho.held k i t' t (by rw [e]; exact hk) (by rw [e]; rfl) hk' ht

/-- **One step of the servo thread.** -/
theorem TakeOrder.of_servoStep {s' : Mailbox Q R} (ho : TakeOrder s) (h : MailboxInv s)
    (hpub : PublishedInOrder p s) (hsafe : FresherBehind p s) (hs : ServoStep p s s') : TakeOrder s' := by
  have hr := h.results
  cases hs with
  | seek pc d e e' =>
    have h0 : ∀ i, ¬ pc.passed i := by
      intro i
      cases pc <;> simp_all [ServoPc.seeks, ServoPc.passed]
    have h1 : pc.found = none := by cases pc <;> simp_all [ServoPc.seeks, ServoPc.found]
    exact ⟨ho.sorted, ho.after, by simp [h1], fun i t hp => absurd hp (h0 i),
      fun i j t t' hp => absurd hp (h0 i)⟩
  | take e =>
    refine ⟨ho.sorted, ho.after, by simp [ServoPc.found], ?_, ?_⟩
    · intro i t hp
      exact absurd hp (Nat.not_lt_zero i)
    · intro i j t t' hp
      exact absurd hp (Nat.not_lt_zero i)
  | grab k found e hf =>
    have ht := Bank.setState_ticket (b := s.results) k .reading
    obtain ⟨h1, h2, h3, h4, -⟩ := ho
    rw [e] at h3 h4 hr
    refine ⟨h1, fun i t hi => h2 i t (ht i ▸ hi), h3, fun i t hp hi => h4 i t hp (ht i ▸ hi), ?_⟩
    intro i j t t' hp hj hi hjt
    obtain rfl : k = j := by simpa [ServoPc.reader] using hj
    rw [ht] at hi hjt
    -- the passed slot is Ready, and by assumption what it holds is newer
    have hi' : (s.results.slot i).state = .ready :=
      ((hr.ticket i).mp (by simp [hi])).resolve_right (by simp [ServoPc.reader])
    obtain ⟨x, hx, hxl⟩ := hr.content k t' hjt
    obtain ⟨y, hy, hyl⟩ := hr.content i t hi
    have hne : t' ≠ t := by
      rintro rfl
      have := hr.inj i k t' hi hjt
      exact absurd hp (by rw [this]; exact lt_irrefl k)
    exact ticket_lt_of_freshLt hpub hxl hyl hne (hsafe k (by rw [e]; rfl) hf i hp hi' x hx y hy)
  | pass k found e hf =>
    obtain ⟨h1, h2, h3, h4, -⟩ := ho
    rw [e] at h3 h4 hr
    refine ⟨h1, h2, h3, ?_, ?_⟩
    · intro i t hp hi
      replace hi : (s.results.slot i).ticket = some t := hi
      rcases Nat.lt_succ_iff_lt_or_eq.mp hp with hp | rfl
      · exact h4 i t hp hi
      · exact absurd ((hr.ticket i).mp (by simp [hi])) (by simp [hf, ServoPc.reader])
    · intro i j t t' hp hj
      cases hj
  | deliver k found e hk =>
    obtain ⟨h1, h2, h3, h4, -⟩ := ho
    rw [e] at h3 h4
    refine ⟨?_, ?_, by simp [ServoPc.found], fun i t hp => hp.elim, fun i j t t' hp => hp.elim⟩
    · rw [List.map_append, List.pairwise_append]
      refine ⟨h1, by cases found <;> simp, ?_⟩
      intro a ha b hb
      obtain ⟨d, hd, rfl⟩ := List.mem_map.mp ha
      obtain ⟨c, hc, rfl⟩ := List.mem_map.mp hb
      exact h3 c (Option.mem_toList.mp hc) d hd
    · intro i t hi d hd
      rcases List.mem_append.mp hd with hd | hd
      · exact h2 i t hi d hd
      · have hik : i < kSlots := hr.lt_of_ticket_slot hi
        exact h4 i t (Nat.lt_of_lt_of_le hik hk) hi d (Option.mem_toList.mp hd)
  | first i x e hx => exact ho.of_read rfl rfl rfl (ho.read_bounds h e hx)
  | fresher i b x d e hx hf => exact ho.of_read rfl rfl rfl (ho.read_bounds h e hx)
  | older i b x d e hx hf =>
    refine ho.of_read rfl rfl rfl ⟨ho.found b (by rw [e]; rfl), ?_⟩
    intro k hk t hk'
    exact ho.passed k t (by rw [e]; exact hk) hk' b (by rw [e]; rfl)
  | torn i found e hx => exact ⟨ho.sorted, ho.after, by simp [ServoPc.found], fun i t hp => hp.elim,
      fun i j t t' hp => hp.elim⟩
  | close k found e =>
    have ht := Bank.setState_ticket (b := s.results) k .free
    obtain ⟨h1, h2, h3, h4, -⟩ := ho
    rw [e] at h3 h4 hr
    refine ⟨h1, fun i t hi => h2 i t (ht i ▸ hi), h3, ?_, ?_⟩
    · intro i t hp hi
      rw [ht] at hi
      rcases Nat.lt_succ_iff_lt_or_eq.mp hp with hp | rfl
      · exact h4 i t hp hi
      · have hrd : (s.results.slot i).state = .reading := (hr.reading i).mpr rfl
        exact absurd ((hr.ticket i).mp (by simp [hi])) (by simp [hrd, ServoPc.reader])
    · intro i j t t' hp hj
      cases hj
  | stuck e => exact ho
  | _ =>
    exact ⟨ho.sorted, ho.after, by simp [ServoPc.found], fun i t hp => hp.elim,
      fun i j t t' hp => hp.elim⟩

/-! ## Whole runs -/

theorem results_log_mono (s : Mailbox Q R) (a : MailboxAct Q Ω) :
    s.results.log <+: (mailboxStep p s a).results.log := by
  cases a with
  | servo call =>
    have hs := servoStep_spec p call s
    rw [mailboxStep]
    generalize servoStep p call s = s' at hs
    cases hs <;> exact ⟨[], List.append_nil _⟩
  | worker w =>
    have hs := workerStep_spec p w s
    rw [mailboxStep]
    generalize workerStep p w s = s' at hs
    cases hs with
    | ready k x e => exact ⟨[x], rfl⟩
    | _ => exact ⟨[], List.append_nil _⟩
  | stop => exact ⟨[], List.append_nil _⟩

theorem takeOrder_run (acts : List (MailboxAct Q Ω)) (hpub : PublishedInOrder p (mailboxRun p acts))
    (hsafe : EveryStep (fun pre a => TakeSafe p (mailboxRun p pre) a) acts) :
    TakeOrder (mailboxRun p acts) := by
  induction acts using List.reverseRecOn with
  | nil => exact takeOrder_init
  | append_singleton acts a ih =>
    obtain ⟨h, hb⟩ := mailboxInv_run (p := p) acts
    have ha := hsafe acts a [] rfl
    rw [mailboxRun, List.foldl_append, List.foldl_cons, List.foldl_nil, ← mailboxRun] at hpub ⊢
    have hpub' : PublishedInOrder p (mailboxRun p acts) :=
      List.Pairwise.sublist (results_log_mono _ a).sublist hpub
    have ho := ih hpub' (hsafe.of_append rfl)
    cases a with
    | servo call => exact ho.of_servoStep h hpub' ha (servoStep_spec p call _)
    | worker w => exact ho.of_workerStep h hb (workerStep_spec p w _)
    | stop => exact ho.of_ticket rfl rfl fun _ => rfl

/-- **Whole runs.**  Results published in increasing freshness are delivered in increasing freshness,
as long as no `tryTake` call takes a result while an older one is Ready behind its scan. -/
theorem takenInOrder_of_takeSafe (p : MailboxParams Q R Ω) (acts : List (MailboxAct Q Ω))
    (hpub : PublishedInOrder p (mailboxRun p acts))
    (hsafe : EveryStep (fun pre a => TakeSafe p (mailboxRun p pre) a) acts) :
    TakenInOrder p (mailboxRun p acts) := by
  obtain ⟨-, hb⟩ := mailboxInv_run (p := p) acts
  have hsorted := (takeOrder_run acts hpub hsafe).sorted
  rw [List.pairwise_map] at hsorted
  apply hsorted.imp_of_mem
  intro b c hbm hcm hlt
  obtain ⟨h1, e1⟩ := List.getElem?_eq_some_iff.mp (hb.contents b (by simp [hbm]))
  obtain ⟨h2, e2⟩ := List.getElem?_eq_some_iff.mp (hb.contents c (by simp [hcm]))
  have := List.pairwise_iff_getElem.mp hpub b.1 c.1 h1 h2 hlt
  rwa [e1, e2] at this

/-- Requests and results that are their own id and time. -/
def countingMailbox : MailboxParams ℕ ℕ Unit where
  generatedAtSec q := .fin q
  requestId q := q
  historyFits _ := true
  canCopySnapshotFrom _ _ := true
  process q _ := some q
  workerException q _ := q
  resultGeneratedAtSec r := .fin r
  resultRequestId r := r
  status _ := 0
  solveStatus _ := none

def servoSteps (call : ServoCall ℕ) (n : ℕ) : List (MailboxAct ℕ Unit) := List.replicate n (.servo call)

def workerSteps (n : ℕ) : List (MailboxAct ℕ Unit) := List.replicate n (.worker ())

/-- Request 1 goes through both mailboxes, then request 2. -/
def forwardSchedule : List (MailboxAct ℕ Unit) :=
  servoSteps (.trySubmit 1) 5 ++ workerSteps 17 ++ servoSteps .tryTake 7 ++
    servoSteps (.trySubmit 2) 5 ++ workerSteps 17 ++ servoSteps .tryTake 7

theorem takenInOrder_of_takeSafe_forward :
    (mailboxRun countingMailbox forwardSchedule).delivered = [(0, 0, 1), (1, 1, 2)] ∧
      TakenInOrder countingMailbox (mailboxRun countingMailbox forwardSchedule) := by
  refine ⟨by decide +kernel, ?_⟩
  refine takenInOrder_of_takeSafe countingMailbox forwardSchedule ?_ (everyStep_of_take ?_)
  · rw [PublishedInOrder]
    decide +kernel
  · decide +kernel

/-! ## A schedule that goes back -/

/-- Request 1 is processed and request 2 submitted.  A `tryTake` call passes slot 0, the planner
publishes result 1 there and result 2 in slot 1, the call takes result 2, and a second call runs. -/
def backwardSchedule : List (MailboxAct ℕ Unit) :=
  servoSteps (.trySubmit 1) 5 ++ workerSteps 13 ++ servoSteps (.trySubmit 2) 5 ++ servoSteps .tryTake 2 ++
    workerSteps 22 ++ servoSteps .tryTake 5 ++ servoSteps .tryTake 7

theorem delivered_goes_back :
    PublishedInOrder countingMailbox (mailboxRun countingMailbox backwardSchedule) ∧
      (mailboxRun countingMailbox backwardSchedule).delivered.map (fun b => b.2.2) = [2, 1] ∧
      ¬ TakenInOrder countingMailbox (mailboxRun countingMailbox backwardSchedule) := by
  refine ⟨?_, by decide +kernel, ?_⟩
  · rw [PublishedInOrder]
    decide +kernel
  · rw [TakenInOrder]
    decide +kernel

end RbServo
