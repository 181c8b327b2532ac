import RoboticsLab.Servo.CommandBuffer
import RoboticsLab.Servo.CommandParse

/-!
# Delivery of lifecycle commands through the command buffer

The lifecycle queue holds sixteen commands: a seventeenth pushes the oldest one out, and a read
skips entries whose timeout passed, so a stop can be lost (`late_reads_skip_stop`).  Otherwise it
cannot be overtaken: the ledger numbers the queued commands in the order they were stored, and the
reads are served in that order.

    fewer than 16 lifecycle stores behind it, no read after its deadline →
      the reads return older lifecycle commands, then, within 16 reads, the stop
                                                                     (emergencyStop_delivery)
-/

namespace RbServo

/-! ## The ledger -/

/-- The buffer beside its lifecycle queue with numbered entries. -/
structure Ledger where
  buffer : CommandBuffer := {}
  queue : Fifo.Numbered DualArmCommand := {}

/-- The command goes to the lifecycle queue. -/
def isQueuedCommand (command : DualArmCommand) : Bool :=
  !isExternalBoxesCommand command && isLifecycleCommand command

/-- What an operation does to the lifecycle queue. -/
def queueOp : BufferOp → Option (Fifo.Op DualArmCommand)
  | .setCommand command => if isQueuedCommand command then some (.push command) else none
  | .latestOrHold nowNs => some (.take (isUsableCommand · nowNs))
  | _ => none

def Ledger.step (L : Ledger) (op : BufferOp) : Ledger where
  buffer := L.buffer.step op
  queue :=
    match queueOp op with
    | some o => L.queue.step kMaxPendingLifecycleCommands o
    | none => L.queue

def ledgerAfter (ops : List BufferOp) : Ledger := ops.foldl Ledger.step {}

@[simp] theorem ledgerAfter_concat (ops : List BufferOp) (op : BufferOp) :
    ledgerAfter (ops ++ [op]) = (ledgerAfter ops).step op := by
  simp [ledgerAfter]

/-- The lifecycle commands a run stores, in order; the `i`-th one has number `i`. -/
def lifecycleStored (ops : List BufferOp) : List DualArmCommand :=
  ops.filterMap fun
    | .setCommand command => if isQueuedCommand command then some command else none
    | _ => none

/-- The number a read is served with, when it is served from the queue. -/
def Ledger.readNumber (L : Ledger) (nowNs : Nat) : Option ℕ :=
  (Fifo.take (fun x => isUsableCommand x.2 nowNs) L.queue.queue).1.map Prod.fst

/-- The reads of a run: the queue number and the command of each. -/
def readLog : Ledger → List BufferOp → List (Option ℕ × DualArmCommand)
  | _, [] => []
  | L, .latestOrHold nowNs :: ops =>
    (L.readNumber nowNs, L.buffer.read nowNs) :: readLog (L.step (.latestOrHold nowNs)) ops
  | L, op :: ops => readLog (L.step op) ops

/-! ## The ledger follows the buffer -/

/-- The numbered queue is the buffer's queue, and its numbers are those of the stored commands. -/
structure Ledger.Linked (ops : List BufferOp) (L : Ledger) : Prop where
  erase : L.queue.queue.map Prod.snd = L.buffer.pendingLifecycleCommands
  count : L.queue.count = (lifecycleStored ops).length
  stored : ∀ x ∈ L.queue.queue, (lifecycleStored ops)[x.1]? = some x.2
  valid : L.queue.Valid kMaxPendingLifecycleCommands

theorem lifecycleStored_append (ops ops' : List BufferOp) :
    lifecycleStored (ops ++ ops') = lifecycleStored ops ++ lifecycleStored ops' :=
  List.filterMap_append

theorem lifecycleStored_mono {stored later : List DualArmCommand} {i : ℕ} {command : DualArmCommand}
    (h : stored[i]? = some command) : (stored ++ later)[i]? = some command := by
  obtain ⟨hlt, -⟩ := List.getElem?_eq_some_iff.mp h
  rw [List.getElem?_append_left hlt]
  exact h

theorem setCommand_queue (b : CommandBuffer) (command : DualArmCommand) :
    (setCommand b command).pendingLifecycleCommands =
      if isQueuedCommand command then
        Fifo.push kMaxPendingLifecycleCommands b.pendingLifecycleCommands command
      else b.pendingLifecycleCommands := by
  unfold setCommand isQueuedCommand
  cases hbox : isExternalBoxesCommand command with
  | true => simp
  | false =>
    cases hlife : isLifecycleCommand command with
    | true => simp
    | false => simp

theorem Ledger.Linked.push {ops : List BufferOp} {L : Ledger} (h : L.Linked ops)
    {command : DualArmCommand} (hq : isQueuedCommand command = true) :
    (L.step (.setCommand command)).Linked (ops ++ [.setCommand command]) := by
  have hstored : lifecycleStored (ops ++ [.setCommand command]) = lifecycleStored ops ++ [command] := by
    rw [lifecycleStored_append]
    simp [lifecycleStored, hq]
  have hqueue : (L.step (.setCommand command)).queue =
      L.queue.step kMaxPendingLifecycleCommands (.push command) := by
    simp [Ledger.step, queueOp, hq]
  refine ⟨?_, ?_, ?_, ?_⟩
  · rw [hqueue]
    show (Fifo.push _ L.queue.queue (L.queue.count, command)).map Prod.snd =
      (setCommand L.buffer command).pendingLifecycleCommands
    rw [Fifo.map_push, h.erase, setCommand_queue, if_pos hq]
  · rw [hqueue, hstored, List.length_append, List.length_singleton, ← h.count]
    rfl
  · rw [hqueue, hstored]
    intro x hx
    rcases List.mem_append.mp hx with hx | hx
    · have hold := h.stored x ((Fifo.kept_suffix _ _).subset hx)
      exact lifecycleStored_mono hold
    · rw [List.mem_singleton.mp hx, h.count]
      simp
  · rw [hqueue]
    exact h.valid.step _ (by decide) _

theorem Ledger.Linked.take {ops : List BufferOp} {L : Ledger} (h : L.Linked ops) (nowNs : Nat) :
    (L.step (.latestOrHold nowNs)).Linked (ops ++ [.latestOrHold nowNs]) := by
  have hstored : lifecycleStored (ops ++ [.latestOrHold nowNs]) = lifecycleStored ops := by
    rw [lifecycleStored_append]
    simp [lifecycleStored]
  refine ⟨?_, ?_, ?_, h.valid.step _ (by decide) (.take (isUsableCommand · nowNs))⟩
  · show (Fifo.take (fun x => isUsableCommand x.2 nowNs) L.queue.queue).2.map Prod.snd =
      (latestOrHold L.buffer nowNs).1.pendingLifecycleCommands
    rw [(latestOrHold_queue L.buffer nowNs).1, ← h.erase, Fifo.map_take]
    rfl
  · rw [hstored]
    exact h.count
  · rw [hstored]
    exact fun x hx => h.stored x ((Fifo.take_suffix _ _).subset hx)

/-- An operation that leaves the lifecycle queue alone. -/
theorem Ledger.Linked.frame {ops : List BufferOp} {L : Ledger} (h : L.Linked ops) {op : BufferOp}
    (hop : queueOp op = none) (hstored : lifecycleStored [op] = [])
    (hbuf : (L.buffer.step op).pendingLifecycleCommands = L.buffer.pendingLifecycleCommands) :
    (L.step op).Linked (ops ++ [op]) := by
  have hqueue : (L.step op).queue = L.queue := by
    unfold Ledger.step
    rw [hop]
  have hsame : lifecycleStored (ops ++ [op]) = lifecycleStored ops := by
    rw [lifecycleStored_append, hstored, List.append_nil]
  refine ⟨?_, ?_, ?_, ?_⟩
  · rw [hqueue, h.erase]
    exact hbuf.symm
  · rw [hqueue, hsame]
    exact h.count
  · rw [hqueue, hsame]
    exact h.stored
  · rw [hqueue]
    exact h.valid

/-- **One step** keeps the ledger linked to the buffer. -/
theorem Ledger.Linked.step {ops : List BufferOp} {L : Ledger} (h : L.Linked ops) (op : BufferOp) :
    (L.step op).Linked (ops ++ [op]) := by
  cases op with
  | setCommand command =>
    by_cases hq : isQueuedCommand command = true
    · exact h.push hq
    · refine h.frame ?_ ?_ ?_
      · simp [queueOp, hq]
      · simp [lifecycleStored, hq]
      · show (setCommand L.buffer command).pendingLifecycleCommands = _
        rw [setCommand_queue, if_neg hq]
  | updateLease lease nowNs => exact h.frame rfl rfl rfl
  | noteExternalBoxReceived t => exact h.frame rfl rfl rfl
  | latestOrHold nowNs => exact h.take nowNs
  | consumeLatestExternalBoxes nowNs =>
    exact h.frame rfl rfl (consumeLatestExternalBoxes_latestCommand L.buffer nowNs {}).2

theorem linked_ledgerAfter (ops : List BufferOp) : (ledgerAfter ops).Linked ops := by
  induction ops using List.reverseRecOn with
  | nil =>
    refine ⟨rfl, rfl, ?_, Fifo.Numbered.valid_empty _⟩
    intro x hx
    cases hx
  | append_singleton ops op ih =>
    rw [ledgerAfter_concat]
    exact ih.step op

/-- The ledger's buffer is the buffer. -/
theorem ledgerAfter_buffer (ops : List BufferOp) : (ledgerAfter ops).buffer = bufferAfter ops := by
  induction ops using List.reverseRecOn with
  | nil => rfl
  | append_singleton ops op ih =>
    rw [ledgerAfter_concat, bufferAfter_concat, ← ih]
    rfl

/-! ## The read log -/

theorem readLog_append (L : Ledger) (ops ops' : List BufferOp) :
    readLog L (ops ++ ops') = readLog L ops ++ readLog (ops.foldl Ledger.step L) ops' := by
  induction ops generalizing L with
  | nil => rfl
  | cons op ops ih =>
    cases op with
    | latestOrHold nowNs =>
      rw [List.cons_append, readLog, ih, readLog, List.cons_append, List.foldl_cons]
    | setCommand command => exact ih _
    | updateLease lease nowNs => exact ih _
    | noteExternalBoxReceived t => exact ih _
    | consumeLatestExternalBoxes nowNs => exact ih _

/-- The log's numbers are those the readers of the queue are served with. -/
theorem readLog_numbers (L : Ledger) (ops : List BufferOp) :
    (readLog L ops).map Prod.fst =
      Fifo.served kMaxPendingLifecycleCommands L.queue (ops.filterMap queueOp) := by
  induction ops generalizing L with
  | nil => rfl
  | cons op ops ih =>
    cases op with
    | latestOrHold nowNs => rw [readLog, List.map_cons, ih]; rfl
    | setCommand command =>
      rw [readLog, ih]
      by_cases hq : isQueuedCommand command = true
      · simp [queueOp, hq, Fifo.served, Ledger.step]
      · simp [queueOp, hq, Ledger.step]
      · simp
    | updateLease lease nowNs => exact ih _
    | noteExternalBoxReceived t => exact ih _
    | consumeLatestExternalBoxes nowNs => exact ih _

/-- A read with number `i` returns the `i`-th stored lifecycle command. -/
theorem Ledger.Linked.read {ops : List BufferOp} {L : Ledger} (h : L.Linked ops) {nowNs i : Nat}
    (hn : L.readNumber nowNs = some i) :
    (lifecycleStored ops)[i]? = some (L.buffer.read nowNs) := by
  unfold Ledger.readNumber at hn
  obtain ⟨x, hx, rfl⟩ := Option.map_eq_some_iff.mp hn
  have hmem : x ∈ L.queue.queue := by
    rcases Fifo.take_cases (fun x : ℕ × DualArmCommand => isUsableCommand x.2 nowNs) L.queue.queue with
      ⟨skipped, y, rest, hq, -, -, ht⟩ | ⟨-, ht⟩
    · rw [ht] at hx
      obtain rfl : y = x := Option.some.inj hx
      rw [hq]
      simp
    · rw [ht] at hx
      cases hx
  have hread : L.buffer.read nowNs = x.2 := by
    refine (latestOrHold_queue L.buffer nowNs).2 x.2 ?_
    rw [← h.erase, Fifo.map_take]
    show Option.map Prod.snd (Fifo.take (fun x => isUsableCommand x.2 nowNs) L.queue.queue).1 = _
    rw [hx]
    rfl
  rw [hread]
  exact h.stored x hmem

theorem readLog_identified (pre post : List BufferOp) {i : ℕ} {command : DualArmCommand}
    (h : (some i, command) ∈ readLog (ledgerAfter pre) post) :
    (lifecycleStored (pre ++ post))[i]? = some command := by
  induction post generalizing pre with
  | nil => cases h
  | cons op post ih =>
    have hnext : (some i, command) ∈ readLog ((ledgerAfter pre).step op) post →
        (lifecycleStored (pre ++ op :: post))[i]? = some command := by
      rw [← ledgerAfter_concat]
      intro hin
      have := ih (pre ++ [op]) hin
      simpa using this
    cases op with
    | latestOrHold nowNs =>
      rw [readLog, List.mem_cons] at h
      rcases h with h | h
      · obtain ⟨hnum, rfl⟩ := Prod.mk.inj h
        rw [lifecycleStored_append]
        exact lifecycleStored_mono ((linked_ledgerAfter pre).read hnum.symm)
      · exact hnext h
    | setCommand command => exact hnext h
    | updateLease lease nowNs => exact hnext h
    | noteExternalBoxReceived t => exact hnext h
    | consumeLatestExternalBoxes nowNs => exact hnext h

/-! ## Delivery -/

/-- The number of `latestOrHold` calls. -/
def reads (ops : List BufferOp) : ℕ :=
  (ops.filter fun | .latestOrHold _ => true | _ => false).length

theorem length_readLog (L : Ledger) (ops : List BufferOp) : (readLog L ops).length = reads ops := by
  induction ops generalizing L with
  | nil => rfl
  | cons op ops ih =>
    cases op with
    | latestOrHold nowNs => rw [readLog, List.length_cons, ih]; rfl
    | setCommand command => exact ih _
    | updateLease lease nowNs => exact ih _
    | noteExternalBoxReceived t => exact ih _
    | consumeLatestExternalBoxes nowNs => exact ih _

theorem pushes_queueOps (ops : List BufferOp) :
    Fifo.pushes (ops.filterMap queueOp) = (lifecycleStored ops).length := by
  induction ops with
  | nil => rfl
  | cons op ops ih =>
    have hcons : lifecycleStored (op :: ops) = lifecycleStored [op] ++ lifecycleStored ops :=
      lifecycleStored_append [op] ops
    rw [hcons, List.length_append, ← ih]
    cases op with
    | setCommand command =>
      by_cases hq : isQueuedCommand command = true
      · simp [queueOp, lifecycleStored, hq, Fifo.pushes, Nat.add_comm]
      · simp [queueOp, lifecycleStored, hq]
    | latestOrHold nowNs => simp [queueOp, lifecycleStored, Fifo.pushes]
    | updateLease lease nowNs => exact (Nat.zero_add _).symm
    | noteExternalBoxReceived t => exact (Nat.zero_add _).symm
    | consumeLatestExternalBoxes nowNs => exact (Nat.zero_add _).symm

/-- A reader of the queue that some operation of the run stands for. -/
theorem take_of_queueOp {ops : List BufferOp} {usable : DualArmCommand → Bool}
    (h : Fifo.Op.take usable ∈ ops.filterMap queueOp) :
    ∃ nowNs, .latestOrHold nowNs ∈ ops ∧ usable = (isUsableCommand · nowNs) := by
  obtain ⟨op, hop, hq⟩ := List.mem_filterMap.mp h
  cases op with
  | latestOrHold nowNs =>
    refine ⟨nowNs, hop, ?_⟩
    simpa [queueOp] using hq.symm
  | setCommand command =>
    rw [queueOp] at hq
    split at hq
    · cases Option.some.inj hq
    · cases hq
  | updateLease lease nowNs => cases hq
  | noteExternalBoxReceived t => cases hq
  | consumeLatestExternalBoxes nowNs => cases hq

/-- The command numbered `j`, `command`, is returned at most once; and as long as fewer than
sixteen lifecycle commands are stored behind it and no read finds it expired, the reads return older
lifecycle commands until one of the first sixteen returns it. -/
structure DeliveredInOrder (j : ℕ) (command : DualArmCommand) (stored : List DualArmCommand)
    (L : Ledger) (post : List BufferOp) : Prop where
  identified : ∀ i c, (some i, c) ∈ readLog L post → stored[i]? = some c
  atMostOnce : ((readLog L post).map Prod.fst).count (some j) ≤ 1
  inOrder : ∀ mid rest, post = mid ++ rest → (lifecycleStored mid).length < 16 →
    (∀ nowNs, .latestOrHold nowNs ∈ mid → isUsableCommand command nowNs = true) →
    (∃ first later, readLog L mid = first ++ (some j, command) :: later ∧ first.length < 16 ∧
      (∀ entry ∈ first, ∃ i < j, entry.1 = some i)) ∨
    (reads mid < 16 ∧ ∀ entry ∈ readLog L mid, ∃ i < j, entry.1 = some i)

/-- **Delivery of any queued command.** -/
theorem deliveredInOrder_of_queued (pre post : List BufferOp) {command : DualArmCommand}
    (hq : isQueuedCommand command = true) :
    DeliveredInOrder (lifecycleStored pre).length command
      (lifecycleStored (pre ++ .setCommand command :: post))
      (ledgerAfter (pre ++ [.setCommand command])) post := by
  have hpre := linked_ledgerAfter pre
  have hstep : (ledgerAfter (pre ++ [.setCommand command])).queue =
      (ledgerAfter pre).queue.step kMaxPendingLifecycleCommands (.push command) := by
    rw [ledgerAfter_concat]
    simp [Ledger.step, queueOp, hq]
  have hident : ∀ i c, (some i, c) ∈ readLog (ledgerAfter (pre ++ [.setCommand command])) post →
      (lifecycleStored (pre ++ .setCommand command :: post))[i]? = some c := by
    intro i c hic
    have := readLog_identified (pre ++ [.setCommand command]) post hic
    rwa [List.append_assoc, List.singleton_append] at this
  refine ⟨hident, ?_, ?_⟩
  · rw [readLog_numbers]
    exact Fifo.served_count_le _ (by decide) (linked_ledgerAfter _).valid _ _
  · rintro mid rest rfl hfew husable
    have hwait := hpre.valid.waiting_push _ (by decide) command
    rw [← hstep, hpre.count] at hwait
    have hdel := hwait.delivery kMaxPendingLifecycleCommands (mid.filterMap queueOp)
      (by rw [pushes_queueOps, Nat.zero_add]; exact hfew) (by
        intro usable hu
        obtain ⟨nowNs, hmem, rfl⟩ := take_of_queueOp hu
        exact husable nowNs hmem)
    rw [← readLog_numbers] at hdel
    rcases hdel with ⟨first, later, hlog, hfirst, hlen⟩ | ⟨hall, hlen⟩
    · left
      obtain ⟨first', tail, hsplit, rfl, htail⟩ := List.map_eq_append_iff.mp hlog
      obtain ⟨⟨j, c⟩, later', rfl, hj, rfl⟩ := List.map_eq_cons_iff.mp htail
      dsimp only at hj
      subst hj
      have hc : c = command := by
        have hmem : (some (lifecycleStored pre).length, c) ∈
            readLog (ledgerAfter (pre ++ [.setCommand command])) (mid ++ rest) := by
          rw [readLog_append, hsplit]
          simp
        have hget := hident _ _ hmem
        rw [lifecycleStored_append] at hget
        have hhere : lifecycleStored (.setCommand command :: (mid ++ rest)) =
            command :: lifecycleStored (mid ++ rest) := by
          simp [lifecycleStored, hq]
        rw [hhere] at hget
        simpa using hget.symm
      subst hc
      refine ⟨first', later', hsplit, ?_, ?_⟩
      · rw [List.length_map] at hlen
        exact Nat.lt_succ_of_le hlen
      · intro entry he
        exact hfirst entry.1 (List.mem_map_of_mem he)
    · right
      rw [List.length_map, length_readLog] at hlen
      exact ⟨Nat.lt_succ_of_le hlen, fun entry he => hall entry.1 (List.mem_map_of_mem he)⟩

/-- **Stops.**  A stored EmergencyStop command without external boxes on its other arm. -/
theorem emergencyStop_delivery (pre post : List BufferOp) (command : DualArmCommand)
    (hstop : isEmergencyStopCommand command = true) (hbox : isExternalBoxesCommand command = false) :
    DeliveredInOrder (lifecycleStored pre).length command
      (lifecycleStored (pre ++ .setCommand command :: post))
      (ledgerAfter (pre ++ [.setCommand command])) post := by
  refine deliveredInOrder_of_queued pre post ?_
  unfold isEmergencyStopCommand at hstop
  unfold isQueuedCommand isLifecycleCommand
  rcases (by simpa using hstop : command.left.mode = .emergencyStop ∨
    command.right.mode = .emergencyStop) with h | h
  · simp [hbox, h, isLifecycleMode]
  · simp [hbox, h, isLifecycleMode]

def stopAt (hostTimeNs : Nat) : DualArmCommand :=
  { hostTimeNs := hostTimeNs
    left := { mode := .emergencyStop }
    right := { armId := .right, mode := .emergencyStop } }

theorem emergencyStop_delivery_sample :
    DeliveredInOrder 0 (stopAt 1) [stopAt 1, stopAt 2] (ledgerAfter [.setCommand (stopAt 1)])
      [.setCommand (stopAt 2), .latestOrHold 3, .latestOrHold 4] :=
  emergencyStop_delivery [] [.setCommand (stopAt 2), .latestOrHold 3, .latestOrHold 4] (stopAt 1)
    (by decide) (by decide)

/-! ## Lost stops -/

/-- However many reads follow, a stop that the first of them finds expired is never returned. -/
theorem late_reads_skip_stop :
    ¬ ∃ n, ∀ (pre post : List BufferOp) (command : DualArmCommand),
      isEmergencyStopCommand command = true →
      ((pre ++ post).filterMap fun | .latestOrHold t => some t | _ => none).Pairwise (· ≤ ·) →
      n ≤ reads post →
      ((readLog (ledgerAfter (pre ++ [.setCommand command])) post).map Prod.fst).count
        (some (lifecycleStored pre).length) = 1 := by
  rintro ⟨n, h⟩
  have hcount := h [] (.latestOrHold 1000000000 :: List.replicate n (.latestOrHold 1000000000))
    (stopAt 1) (by decide) ?_ ?_
  · -- the first read drops the stop, so its number is gone
    have hgone : ((ledgerAfter [.setCommand (stopAt 1)]).step (.latestOrHold 1000000000)).queue.Gone 0 :=
      ⟨by decide +kernel, by decide +kernel⟩
    have hfirst : (ledgerAfter [.setCommand (stopAt 1)]).readNumber 1000000000 = none := by
      decide +kernel
    rw [List.nil_append, readLog, List.map_cons, hfirst, readLog_numbers,
      List.count_cons_of_ne (by simp)] at hcount
    have hnot := hgone.not_served kMaxPendingLifecycleCommands
      ((List.replicate n (.latestOrHold 1000000000)).filterMap queueOp)
    have hzero := List.count_eq_zero_of_not_mem hnot
    exact absurd (hcount.symm.trans hzero) (by decide)
  · simp
  · simp [reads]

end RbServo
