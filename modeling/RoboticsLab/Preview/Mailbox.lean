import RoboticsLab.Lib.Double
import RoboticsLab.Lib.SlotBank

/-!
# `control/preview_execution_worker.cpp`: the two mailboxes

`trySubmit` and `tryTake` run on the servo thread, `run` and `publish` on the planner thread.  They
meet in three request slots and three result slots.  One step of the model is one atomic access to a
slot's state word, or one end of a copy: the program counters `ServoPc` and `WorkerPc` say where the
two threads are, and a run is any list of steps of either.  A thread that reads a content which is
being written has no defined behaviour and goes to `undefined`.

Next to the code's own data the state keeps logs for the statements: a request that becomes Ready
and a result that becomes Ready each get a ticket, and a result carries the ticket of the request
it was computed from.  No step depends on them.
-/

namespace RbServo

open SlotBank

def kSlots : ℕ := 3

/-- What the mailbox reads of a request (with its follower snapshot), of a result, and the solver:
`process` answers from the request and from all else it uses (the clock, its own workspace), and is
`none` when it throws. -/
structure MailboxParams (Q R Ω : Type*) where
  generatedAtSec : Q → Double
  requestId : Q → ℕ
  historyFits : Q → Bool
  canCopySnapshotFrom : ℕ → Q → Bool
  process : Q → Ω → Option R
  workerException : Q → Ω → R
  resultGeneratedAtSec : R → Double
  resultRequestId : R → ℕ
  status : R → ℕ
  solveStatus : R → Option ℕ

/-- A result and the ticket of its request. -/
abbrev Processed (R : Type*) := ℕ × R

/-- A result the servo took, under its own ticket. -/
abbrev Taken (R : Type*) := ℕ × Processed R

inductive ServoPc (Q R : Type*)
  | idle
  | submit (q : Q) (i : ℕ)
  | submitCheck (q : Q) (i : ℕ)
  | submitReject (i : ℕ)
  | submitCopy (q : Q) (i : ℕ)
  | submitReady (q : Q) (i : ℕ)
  | take (i : ℕ) (found : Option (Taken R))
  | takeRead (i : ℕ) (found : Option (Taken R))
  | takeFree (i : ℕ) (found : Option (Taken R))
  | undefined

inductive WorkerPc (R : Type*)
  | poll
  | scan (i : ℕ) (selected : Option ℕ)
  | scanRead (i : ℕ) (selected : Option ℕ)
  | claim (j : ℕ)
  | coalesce (i j : ℕ)
  | coalesceRead (i j : ℕ)
  | coalesceFree (i j : ℕ)
  | process (j : ℕ)
  | release (j : ℕ) (x : Processed R)
  | publish (k : ℕ) (x : Processed R)
  | publishBegin (k : ℕ) (x : Processed R)
  | publishCopy (k : ℕ) (x : Processed R)
  | publishReady (k : ℕ) (x : Processed R)
  | stopped
  | undefined

structure PreviewExecutionWorkerDiagnostics where
  workerStatusCounts : ℕ → ℕ := fun _ => 0
  solveStatusCounts : ℕ → ℕ := fun _ => 0
  requestInvalid : ℕ := 0
  requestMailboxFull : ℕ := 0
  requestCoalesced : ℕ := 0
  resultPublishDropped : ℕ := 0
  resultCoalesced : ℕ := 0

structure Mailbox (Q R : Type*) where
  requests : Bank Q := {}
  results : Bank (Processed R) := {}
  servo : ServoPc Q R := .idle
  worker : WorkerPc R := .poll
  stopping : Bool := false
  diagnostics : PreviewExecutionWorkerDiagnostics := {}
  processed : List (Processed R) := []
  coalesced : List ℕ := []
  delivered : List (Taken R) := []
  superseded : List ℕ := []

inductive ServoCall (Q : Type*)
  | trySubmit (q : Q)
  | tryTake

inductive MailboxAct (Q Ω : Type*)
  | servo (call : ServoCall Q)
  | worker (w : Ω)
  | stop

variable {Q R Ω : Type*} (p : MailboxParams Q R Ω)

/-! ## Freshness -/

/-- `a` is older than `b` in the order both threads choose by: the time, then the request id. -/
def freshLt (a b : Double × ℕ) : Bool :=
  Double.lt a.1 b.1 || (Double.eq a.1 b.1 && a.2 < b.2)

def MailboxParams.requestKey (q : Q) : Double × ℕ := (p.generatedAtSec q, p.requestId q)

def MailboxParams.resultKey (r : R) : Double × ℕ := (p.resultGeneratedAtSec r, p.resultRequestId r)

/-- The result of one pass through the `try` block. -/
def MailboxParams.outcome (q : Q) (w : Ω) : R := (p.process q w).getD (p.workerException q w)

/-! ## The servo thread -/

/-- One step of the servo thread; `call` is the call it makes next when it is between calls. -/
def servoStep (call : ServoCall Q) (s : Mailbox Q R) : Mailbox Q R :=
  let d := s.diagnostics
  match s.servo with
  | .idle =>
    match call with
    | .trySubmit q =>
      if p.historyFits q then { s with servo := .submit q 0 }
      else { s with diagnostics := { d with requestInvalid := d.requestInvalid + 1 } }
    | .tryTake => { s with servo := .take 0 none }
  | .submit q i =>
    if i < kSlots then
      if (s.requests.slot i).state = .free then
        { s with requests := s.requests.setState i .writing, servo := .submitCheck q i }
      else { s with servo := .submit q (i + 1) }
    else { s with servo := .idle, diagnostics := { d with requestMailboxFull := d.requestMailboxFull + 1 } }
  | .submitCheck q i =>
    if p.canCopySnapshotFrom i q then
      { s with requests := s.requests.setContent i none, servo := .submitCopy q i }
    else { s with servo := .submitReject i, diagnostics := { d with requestInvalid := d.requestInvalid + 1 } }
  | .submitReject i => { s with requests := s.requests.setState i .free, servo := .idle }
  | .submitCopy q i => { s with requests := s.requests.setContent i (some q), servo := .submitReady q i }
  | .submitReady q i => { s with requests := s.requests.publish i q, servo := .idle }
  | .take i found =>
    if i < kSlots then
      if (s.results.slot i).state = .ready then
        { s with results := s.results.setState i .reading, servo := .takeRead i found }
      else { s with servo := .take (i + 1) found }
    else { s with servo := .idle, delivered := s.delivered ++ found.toList }
  | .takeRead i found =>
    match (s.results.slot i).content with
    | none => { s with servo := .undefined }
    | some x =>
      let t := (s.results.slot i).ticket.getD 0
      let s := { s with results := s.results.consume i }
      match found with
      | none => { s with servo := .takeFree i (some (t, x)) }
      | some b =>
        let s := { s with diagnostics := { d with resultCoalesced := d.resultCoalesced + 1 } }
        if freshLt (p.resultKey b.2.2) (p.resultKey x.2) then
          { s with servo := .takeFree i (some (t, x)), superseded := s.superseded ++ [b.1] }
        else { s with servo := .takeFree i (some b), superseded := s.superseded ++ [t] }
  | .takeFree i found => { s with results := s.results.setState i .free, servo := .take (i + 1) found }
  | .undefined => s

/-! ## The planner thread -/

def bump (f : ℕ → ℕ) (i : ℕ) : ℕ → ℕ := Function.update f i (f i + 1)

/-- One step of the planner thread; `w` is what `process` uses besides the request. -/
def workerStep (w : Ω) (s : Mailbox Q R) : Mailbox Q R :=
  let d := s.diagnostics
  match s.worker with
  | .poll => if s.stopping then { s with worker := .stopped } else { s with worker := .scan 0 none }
  | .scan i selected =>
    if i < kSlots then
      if (s.requests.slot i).state = .ready then { s with worker := .scanRead i selected }
      else { s with worker := .scan (i + 1) selected }
    else
      match selected with
      | none => { s with worker := .poll }
      | some j => { s with worker := .claim j }
  | .scanRead i selected =>
    match selected with
    | none => { s with worker := .scan (i + 1) (some i) }
    | some j =>
      match (s.requests.slot i).content, (s.requests.slot j).content with
      | some q, some q' =>
        let k := if freshLt (p.requestKey q') (p.requestKey q) then i else j
        { s with worker := .scan (i + 1) (some k) }
      | _, _ => { s with worker := .undefined }
  | .claim j => { s with requests := s.requests.setState j .reading, worker := .coalesce 0 j }
  | .coalesce i j =>
    if i < kSlots then
      if i = j ∨ (s.requests.slot i).state ≠ .ready then { s with worker := .coalesce (i + 1) j }
      else { s with worker := .coalesceRead i j }
    else { s with worker := .process j }
  | .coalesceRead i j =>
    match (s.requests.slot i).content, (s.requests.slot j).content with
    | some q, some q' =>
      if Double.le (p.generatedAtSec q) (p.generatedAtSec q') then { s with worker := .coalesceFree i j }
      else { s with worker := .coalesce (i + 1) j }
    | _, _ => { s with worker := .undefined }
  | .coalesceFree i j =>
    { s with
      requests := s.requests.drop i
      worker := .coalesce (i + 1) j
      coalesced := s.coalesced ++ (s.requests.slot i).ticket.toList
      diagnostics := { d with requestCoalesced := d.requestCoalesced + 1 } }
  | .process j =>
    match (s.requests.slot j).content with
    | none => { s with worker := .undefined }
    | some q =>
      let x := ((s.requests.slot j).ticket.getD 0, p.outcome q w)
      { s with
        requests := s.requests.consume j
        worker := .release j x
        processed := s.processed ++ [x] }
  | .release j x =>
    { s with
      requests := s.requests.setState j .free
      worker := .publish 0 x
      diagnostics := { d with
        workerStatusCounts := bump d.workerStatusCounts (p.status x.2)
        solveStatusCounts := (p.solveStatus x.2).elim d.solveStatusCounts (bump d.solveStatusCounts) } }
  | .publish k x =>
    if k < kSlots then
      if (s.results.slot k).state = .free then
        { s with results := s.results.setState k .writing, worker := .publishBegin k x }
      else { s with worker := .publish (k + 1) x }
    else
      { s with
        worker := .poll
        diagnostics := { d with resultPublishDropped := d.resultPublishDropped + 1 } }
  | .publishBegin k x => { s with results := s.results.setContent k none, worker := .publishCopy k x }
  | .publishCopy k x => { s with results := s.results.setContent k (some x), worker := .publishReady k x }
  | .publishReady k x => { s with results := s.results.publish k x, worker := .poll }
  | .stopped => s
  | .undefined => s

/-! ## What one step can do -/

/-- The servo thread is between calls or looking for a free request slot. -/
def ServoPc.seeks : ServoPc Q R → Bool
  | .idle => true
  | .submit _ _ => true
  | _ => false

/-- The steps of the servo thread. -/
inductive ServoStep (s : Mailbox Q R) : Mailbox Q R → Prop
  | seek (pc : ServoPc Q R) (d) (h : s.servo.seeks) (h' : pc.seeks) :
    ServoStep s { s with servo := pc, diagnostics := d }
  | claim (q : Q) (i : ℕ) (h : s.servo = .submit q i) (hi : i < kSlots)
    (hf : (s.requests.slot i).state = .free) :
    ServoStep s { s with requests := s.requests.setState i .writing, servo := .submitCheck q i }
  | begin (q : Q) (i : ℕ) (h : s.servo = .submitCheck q i) :
    ServoStep s { s with requests := s.requests.setContent i none, servo := .submitCopy q i }
  | reject (q : Q) (i : ℕ) (d) (h : s.servo = .submitCheck q i) :
    ServoStep s { s with servo := .submitReject i, diagnostics := d }
  | abandon (i : ℕ) (h : s.servo = .submitReject i) :
    ServoStep s { s with requests := s.requests.setState i .free, servo := .idle }
  | fill (q : Q) (i : ℕ) (h : s.servo = .submitCopy q i) :
    ServoStep s { s with requests := s.requests.setContent i (some q), servo := .submitReady q i }
  | ready (q : Q) (i : ℕ) (h : s.servo = .submitReady q i) :
    ServoStep s { s with requests := s.requests.publish i q, servo := .idle }
  | take (h : s.servo = .idle) : ServoStep s { s with servo := .take 0 none }
  | grab (i : ℕ) (found) (h : s.servo = .take i found) (hf : (s.results.slot i).state = .ready) :
    ServoStep s { s with results := s.results.setState i .reading, servo := .takeRead i found }
  | pass (i : ℕ) (found) (h : s.servo = .take i found) (hf : (s.results.slot i).state ≠ .ready) :
    ServoStep s { s with servo := .take (i + 1) found }
  | deliver (i : ℕ) (found) (h : s.servo = .take i found) (hi : kSlots ≤ i) :
    ServoStep s { s with servo := .idle, delivered := s.delivered ++ found.toList }
  | first (i : ℕ) (x : Processed R) (h : s.servo = .takeRead i none)
    (hx : (s.results.slot i).content = some x) :
    ServoStep s { s with
      results := s.results.consume i
      servo := .takeFree i (some ((s.results.slot i).ticket.getD 0, x)) }
  | fresher (i : ℕ) (b : Taken R) (x : Processed R) (d) (h : s.servo = .takeRead i (some b))
    (hx : (s.results.slot i).content = some x)
    (hf : freshLt (p.resultKey b.2.2) (p.resultKey x.2)) :
    ServoStep s { s with
      results := s.results.consume i
      servo := .takeFree i (some ((s.results.slot i).ticket.getD 0, x))
      superseded := s.superseded ++ [b.1]
      diagnostics := d }
  | older (i : ℕ) (b : Taken R) (x : Processed R) (d) (h : s.servo = .takeRead i (some b))
    (hx : (s.results.slot i).content = some x)
    (hf : ¬ freshLt (p.resultKey b.2.2) (p.resultKey x.2)) :
    ServoStep s { s with
      results := s.results.consume i
      servo := .takeFree i (some b)
      superseded := s.superseded ++ [(s.results.slot i).ticket.getD 0]
      diagnostics := d }
  | torn (i : ℕ) (found) (h : s.servo = .takeRead i found) (hx : (s.results.slot i).content = none) :
    ServoStep s { s with servo := .undefined }
  | close (i : ℕ) (found) (h : s.servo = .takeFree i found) :
    ServoStep s { s with results := s.results.setState i .free, servo := .take (i + 1) found }
  | stuck (h : s.servo = .undefined) : ServoStep s s

theorem servoStep_spec (call : ServoCall Q) (s : Mailbox Q R) : ServoStep p s (servoStep p call s) := by
  fun_cases servoStep p call s
  case case1 e q hf => exact .seek _ _ (by rw [e]; rfl) rfl
  case case2 d e q hf => exact .seek _ _ (by rw [e]; rfl) (by rw [e]; rfl)
  case case3 e => exact .take e
  case case4 q i e hi hf => exact .claim q i e hi hf
  case case5 q i e hi hf => exact .seek _ _ (by rw [e]; rfl) rfl
  case case6 d q i e hi => exact .seek _ _ (by rw [e]; rfl) rfl
  case case7 q i e hc => exact .begin q i e
  case case8 d q i e hc => exact .reject q i _ e
  case case9 i e => exact .abandon i e
  case case10 q i e => exact .fill q i e
  case case11 q i e => exact .ready q i e
  case case12 i found e hi hf => exact .grab i found e hf
  case case13 i found e hi hf => exact .pass i found e hf
  case case14 i found e hi => exact .deliver i found e (by omega)
  case case15 i found e hc => exact .torn i found e hc
  case case16 i x hx t s' e => exact .first i x e hx
  case case17 d i x hx t s' b s'' hf e => exact .fresher i b x _ e hx hf
  case case18 d i x hx t s' b s'' hf e => exact .older i b x _ e hx hf
  case case19 i found e => exact .close i found e
  case case20 e => exact .stuck e

/-- The planner is at rest or looking for the freshest request. -/
def WorkerPc.looks : WorkerPc R → Bool
  | .poll => true
  | .scan _ _ => true
  | .scanRead _ _ => true
  | .claim _ => true
  | .stopped => true
  | _ => false

/-- The request slots the planner relies on without having opened them: it has seen them Ready. -/
def WorkerPc.watched : WorkerPc R → List ℕ
  | .scan _ selected => selected.toList
  | .scanRead i selected => i :: selected.toList
  | .claim j => [j]
  | .coalesceRead i _ => [i]
  | .coalesceFree i _ => [i]
  | _ => []

/-- The steps of the planner thread. -/
inductive WorkerStep (s : Mailbox Q R) : Mailbox Q R → Prop
  | look (pc : WorkerPc R) (h : s.worker.looks) (h' : pc.looks)
    (hw : ∀ i ∈ pc.watched, i ∈ s.worker.watched ∨ (s.requests.slot i).state = .ready) :
    WorkerStep s { s with worker := pc }
  | scanTorn (i j : ℕ) (h : s.worker = .scanRead i (some j)) (ht : ∀ q q',
    (s.requests.slot i).content = some q → (s.requests.slot j).content = some q' → False) :
    WorkerStep s { s with worker := .undefined }
  | claim (j : ℕ) (h : s.worker = .claim j) :
    WorkerStep s { s with requests := s.requests.setState j .reading, worker := .coalesce 0 j }
  | skip (i j : ℕ) (h : s.worker = .coalesce i j) (hi : i = j ∨ (s.requests.slot i).state ≠ .ready) :
    WorkerStep s { s with worker := .coalesce (i + 1) j }
  | meet (i j : ℕ) (h : s.worker = .coalesce i j) (hi : (s.requests.slot i).state = .ready) :
    WorkerStep s { s with worker := .coalesceRead i j }
  | keep (i j : ℕ) (q q' : Q) (h : s.worker = .coalesceRead i j)
    (hq : (s.requests.slot i).content = some q) (hq' : (s.requests.slot j).content = some q')
    (hf : ¬ Double.le (p.generatedAtSec q) (p.generatedAtSec q')) :
    WorkerStep s { s with worker := .coalesce (i + 1) j }
  | outdated (i j : ℕ) (h : s.worker = .coalesceRead i j) :
    WorkerStep s { s with worker := .coalesceFree i j }
  | coalesceTorn (i j : ℕ) (h : s.worker = .coalesceRead i j) (ht : ∀ q q',
    (s.requests.slot i).content = some q → (s.requests.slot j).content = some q' → False) :
    WorkerStep s { s with worker := .undefined }
  | drop (i j : ℕ) (d) (h : s.worker = .coalesceFree i j) :
    WorkerStep s { s with
      requests := s.requests.drop i
      worker := .coalesce (i + 1) j
      coalesced := s.coalesced ++ (s.requests.slot i).ticket.toList
      diagnostics := d }
  | coalesced (i j : ℕ) (h : s.worker = .coalesce i j) (hi : kSlots ≤ i) :
    WorkerStep s { s with worker := .process j }
  | process (j : ℕ) (q : Q) (w : Ω) (h : s.worker = .process j)
    (hq : (s.requests.slot j).content = some q) :
    WorkerStep s { s with
      requests := s.requests.consume j
      worker := .release j ((s.requests.slot j).ticket.getD 0, p.outcome q w)
      processed := s.processed ++ [((s.requests.slot j).ticket.getD 0, p.outcome q w)] }
  | processTorn (j : ℕ) (h : s.worker = .process j) (ht : (s.requests.slot j).content = none) :
    WorkerStep s { s with worker := .undefined }
  | release (j : ℕ) (x) (d) (h : s.worker = .release j x) :
    WorkerStep s { s with
      requests := s.requests.setState j .free
      worker := .publish 0 x
      diagnostics := d }
  | occupied (k : ℕ) (x) (h : s.worker = .publish k x) :
    WorkerStep s { s with worker := .publish (k + 1) x }
  | discard (k : ℕ) (x) (d) (h : s.worker = .publish k x) :
    WorkerStep s { s with worker := .poll, diagnostics := d }
  | reserve (k : ℕ) (x) (h : s.worker = .publish k x) (hk : k < kSlots)
    (hf : (s.results.slot k).state = .free) :
    WorkerStep s { s with results := s.results.setState k .writing, worker := .publishBegin k x }
  | begin (k : ℕ) (x) (h : s.worker = .publishBegin k x) :
    WorkerStep s { s with results := s.results.setContent k none, worker := .publishCopy k x }
  | fill (k : ℕ) (x) (h : s.worker = .publishCopy k x) :
    WorkerStep s { s with results := s.results.setContent k (some x), worker := .publishReady k x }
  | ready (k : ℕ) (x) (h : s.worker = .publishReady k x) :
    WorkerStep s { s with results := s.results.publish k x, worker := .poll }
  | stuck (h : s.worker = .undefined) : WorkerStep s s

theorem workerStep_spec (w : Ω) (s : Mailbox Q R) : WorkerStep p s (workerStep p w s) := by
  fun_cases workerStep p w s
  case case1 e hs => exact .look _ (by rw [e]; rfl) rfl (by simp [WorkerPc.watched])
  case case2 e hs => exact .look _ (by rw [e]; rfl) rfl (by simp [WorkerPc.watched])
  case case3 i sel e hi hr => exact .look _ (by rw [e]; rfl) rfl (by rw [e]; simp +contextual [WorkerPc.watched, hr])
  case case4 i sel e hi hr => exact .look _ (by rw [e]; rfl) rfl (by rw [e]; simp +contextual [WorkerPc.watched])
  case case5 i hi e => exact .look _ (by rw [e]; rfl) rfl (by simp [WorkerPc.watched])
  case case6 i hi j e => exact .look _ (by rw [e]; rfl) rfl (by rw [e]; simp [WorkerPc.watched])
  case case7 i e => exact .look _ (by rw [e]; rfl) rfl (by rw [e]; simp [WorkerPc.watched])
  case case8 i j q q' hq' hq k e =>
    refine .look _ (by rw [e]; rfl) rfl ?_
    rw [e]
    by_cases hf : freshLt (p.requestKey q') (p.requestKey q) <;> simp [WorkerPc.watched, k, hf]
  case case9 i j ht e => exact .scanTorn i j e ht
  case case10 j e => exact .claim j e
  case case11 i j e hi hr => exact .skip i j e hr
  case case12 i j e hi hr => exact .meet i j e (by simpa using (not_or.mp hr).2)
  case case13 i j e hi => exact .coalesced i j e (by omega)
  case case14 i j e q q' hq' hq hf => exact .outdated i j e
  case case15 i j e q q' hq' hq hf => exact .keep i j q q' e hq hq' hf
  case case16 i j e ht => exact .coalesceTorn i j e ht
  case case17 d i j e => exact .drop i j _ e
  case case18 j e hq => exact .processTorn j e hq
  case case19 j e q hq x => exact .process j q w e hq
  case case20 d j x e => exact .release j x _ e
  case case21 k x e hk hf => exact .reserve k x e hk hf
  case case22 k x e hk hf => exact .occupied k x e
  case case23 d k x e hk => exact .discard k x _ e
  case case24 k x e => exact .begin k x e
  case case25 k x e => exact .fill k x e
  case case26 k x e => exact .ready k x e
  case case27 e => exact .look _ (by rw [e]; rfl) (by rw [e]; rfl) (by simp +contextual)
  case case28 e => exact .stuck e

/-! ## Runs -/

def mailboxStep (s : Mailbox Q R) : MailboxAct Q Ω → Mailbox Q R
  | .servo call => servoStep p call s
  | .worker w => workerStep p w s
  | .stop => { s with stopping := true }

def mailboxRun (acts : List (MailboxAct Q Ω)) : Mailbox Q R := acts.foldl (mailboxStep p) {}

end RbServo
