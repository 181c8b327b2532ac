import RoboticsLab.Camera.BundleClient

/-!
# Is the newest message the newest bundle?

`usable` is the bundle that a message alone would give.  A call returns the last usable message of the queue
only if the message it keeps, the newest exact-topic object, is usable itself, or if no message is: a newer
incomplete bundle, or one without a frame to decode, hides every complete one before it.

    PollsNewestUsable … ↔ NewestCounts …                                               (pollsNewestUsable_iff)
-/

namespace PolicyRunner.CameraBundleClient

open Json

/-! ## The drain loop -/

/-- `json.loads` raises on the message, and not with a `JSONDecodeError`. -/
def Raises (decode : Message → Except PyError (Option Object)) (parts : Message) : Prop := ∃ e, decode parts = .error e

/-- The dictionary of a message. -/
def objectOf (decode : Message → Except PyError (Option Object)) (parts : Message) : Option Object :=
  match decode parts with
  | .ok decoded => decoded
  | .error _ => none

variable {decode : Message → Except PyError (Option Object)}

/-- **The drain.**  The last dictionary is kept and the queue is empty. -/
theorem drain_eq {queue : List Message} (h : ∀ parts ∈ queue, ¬ Raises decode parts) (metadata : Option Object) :
    drain decode queue metadata = (.ok ((queue.filterMap (objectOf decode)).getLast?.or metadata), []) := by
  induction queue generalizing metadata with
  | nil => rfl
  | cons parts queue ih =>
    have hrest := fun m => ih (fun p hp => h p (List.mem_cons_of_mem _ hp)) m
    rw [drain, List.filterMap_cons, objectOf]
    cases hdecode : decode parts with
    | error e => exact absurd ⟨e, hdecode⟩ (h parts List.mem_cons_self)
    | ok decoded =>
      cases decoded with
      | none => exact hrest metadata
      | some candidate =>
        dsimp only
        rw [hrest, List.getLast?_cons]
        cases (queue.filterMap (objectOf decode)).getLast? <;> rfl

theorem drain_raises {queue : List Message} (h : ∃ parts ∈ queue, Raises decode parts) (metadata : Option Object) :
    ∃ e rest, drain decode queue metadata = (.error e, rest) := by
  induction queue generalizing metadata with
  | nil =>
    obtain ⟨parts, hmem, -⟩ := h
    exact absurd hmem List.not_mem_nil
  | cons parts queue ih =>
    rw [drain]
    cases hdecode : decode parts with
    | error e => exact ⟨e, queue, rfl⟩
    | ok decoded =>
      have hlater : ∃ parts ∈ queue, Raises decode parts := by
        obtain ⟨p, hmem, hraises⟩ := h
        rcases List.mem_cons.mp hmem with rfl | hmem
        · obtain ⟨e, he⟩ := hraises
          rw [hdecode] at he
          cases he
        · exact ⟨p, hmem, hraises⟩
      cases decoded with
      | none => exact ih hlater metadata
      | some candidate => exact ih hlater (some candidate)

/-! ## Usable messages -/

section

variable {F : Type} (wire : Wire) (py : PyText) (decodeFrame : String → Object → Except PyError F) (now : Double)
  (c : Client F)

/-- The bundle of a dictionary. -/
def bundleOfObject (metadata : Object) : Option (CameraBundle F) :=
  match judge py decodeFrame now c metadata with
  | .ok (.bundle b) => some b
  | _ => none

/-- The bundle that a message alone gives: of the exact topic, complete, with a frame, and decodable. -/
def usable (parts : Message) : Option (CameraBundle F) :=
  (objectOf (decodeMessageForTopic wire c.topic) parts).bind (bundleOfObject py decodeFrame now c)

/-- The bundle of the last usable message. -/
def lastUsable (queue : List Message) : Option (CameraBundle F) :=
  (queue.filterMap (usable wire py decodeFrame now c)).getLast?

/-- The queue is drained and the last usable message returned; without one, `latest` stays. -/
def ReturnsNewest (queue : List Message)
    (outcome : Client F × List Message × Except PyError (Option (CameraBundle F))) : Prop :=
  outcome.2.1 = [] ∧ outcome.2.2 = .ok (lastUsable wire py decodeFrame now c queue) ∧
    outcome.1.latest = (lastUsable wire py decodeFrame now c queue).or c.latest

def PollsNewestUsable (queue health healthAfter : List Message) : Prop :=
  ReturnsNewest wire py decodeFrame now c queue (pollLocked wire py decodeFrame now c queue health healthAfter)

/-- The health message that is decoded does not raise. -/
def HealthReadable (waiting : List Message) : Prop :=
  ∀ parts ∈ waiting.getLast?, ¬ Raises (decodeMessageForTopic wire c.healthTopic) parts

/-- No message raises, and the newest dictionary of the queue is usable, or no message is. -/
def NewestCounts (queue healthAfter : List Message) : Prop :=
  (∀ parts ∈ queue, ¬ Raises (decodeMessageForTopic wire c.topic) parts) ∧
    ∀ metadata ∈ (queue.filterMap (objectOf (decodeMessageForTopic wire c.topic))).getLast?,
      match judge py decodeFrame now c metadata with
      | .error _ => False
      | .ok (.refused _) => ∀ parts ∈ queue, usable wire py decodeFrame now c parts = none
      | .ok (.bundle _) => HealthReadable wire c healthAfter

theorem lastUsable_eq (queue : List Message) : lastUsable wire py decodeFrame now c queue =
    ((queue.filterMap (objectOf (decodeMessageForTopic wire c.topic))).filterMap
      (bundleOfObject py decodeFrame now c)).getLast? := by
  rw [lastUsable, List.filterMap_filterMap]
  rfl

theorem lastUsable_eq_none_iff (queue : List Message) : lastUsable wire py decodeFrame now c queue = none ↔
    ∀ parts ∈ queue, usable wire py decodeFrame now c parts = none := by
  rw [lastUsable, List.getLast?_eq_none_iff, List.filterMap_eq_nil_iff]

/-- A usable newest dictionary is the last usable message. -/
theorem lastUsable_of_newest {queue : List Message} {metadata : Object} {b : CameraBundle F}
    (h : (queue.filterMap (objectOf (decodeMessageForTopic wire c.topic))).getLast? = some metadata)
    (hb : bundleOfObject py decodeFrame now c metadata = some b) :
    lastUsable wire py decodeFrame now c queue = some b := by
  rw [lastUsable_eq]
  obtain ⟨earlier, hearlier⟩ := List.getLast?_eq_some_iff.mp h
  rw [hearlier, List.filterMap_append, List.filterMap_cons, hb]
  simp

/-- The health messages only move `latest_health`. -/
theorem pollHealth_of_readable {waiting : List Message} (h : HealthReadable wire c waiting) :
    ∃ latestHealth, pollHealth wire c waiting = .ok { c with latestHealth := latestHealth } := by
  unfold pollHealth
  cases hlast : waiting.getLast? with
  | none => exact ⟨c.latestHealth, rfl⟩
  | some latest =>
    have hnot := h latest hlast
    dsimp only
    cases hdecode : decodeMessageForTopic wire c.healthTopic latest with
    | error e => exact absurd ⟨e, hdecode⟩ hnot
    | ok decoded =>
      cases decoded with
      | none => exact ⟨c.latestHealth, rfl⟩
      | some object => exact ⟨some object, rfl⟩

theorem pollHealth_of_not_readable {waiting : List Message} (h : ¬ HealthReadable wire c waiting) :
    ∃ e, pollHealth wire c waiting = .error e := by
  unfold HealthReadable at h
  simp only [not_forall, not_not] at h
  obtain ⟨latest, hlast, e, he⟩ := h
  unfold pollHealth
  rw [hlast]
  dsimp only
  rw [he]
  exact ⟨e, rfl⟩

/-- **The newest message, past the health messages.** -/
theorem pollBundle_iff (queue healthAfter : List Message) :
    ReturnsNewest wire py decodeFrame now c queue (pollBundle wire py decodeFrame now c queue healthAfter) ↔
      NewestCounts wire py decodeFrame now c queue healthAfter := by
  unfold NewestCounts
  by_cases hraises : ∃ parts ∈ queue, Raises (decodeMessageForTopic wire c.topic) parts
  · obtain ⟨e, rest, hdrain⟩ := drain_raises hraises none
    obtain ⟨parts, hmem, hparts⟩ := hraises
    have hempty : ¬ queue.isEmpty = true := fun hnil => by
      rw [List.isEmpty_iff.mp hnil] at hmem
      exact absurd hmem List.not_mem_nil
    rw [pollBundle, if_neg hempty, hdrain]
    exact ⟨fun h => absurd h.2.1 (by simp), fun h => absurd hparts (h.1 parts hmem)⟩
  · have hreads : ∀ parts ∈ queue, ¬ Raises (decodeMessageForTopic wire c.topic) parts := fun parts hmem hparts =>
      hraises ⟨parts, hmem, hparts⟩
    rw [and_iff_right hreads, pollBundle, drain_eq hreads, Option.or_none]
    cases hnewest : (queue.filterMap (objectOf (decodeMessageForTopic wire c.topic))).getLast? with
    | none =>
      have hnone : lastUsable wire py decodeFrame now c queue = none := by
        rw [lastUsable_eq, List.getLast?_eq_none_iff.mp hnewest]
        rfl
      have hreturns : ∀ record, ReturnsNewest wire py decodeFrame now c queue (c.setPollOutcome record, [], .ok none) :=
        fun record => by
          unfold ReturnsNewest
          rw [hnone]
          exact ⟨rfl, rfl, rfl⟩
      refine iff_of_true ?_ (by simp)
      split
      · rename_i hempty
        rw [List.isEmpty_iff.mp hempty] at hreturns ⊢
        exact hreturns _
      · exact hreturns _
    | some metadata =>
      have hempty : ¬ queue.isEmpty = true := fun hnil => by
        rw [List.isEmpty_iff.mp hnil] at hnewest
        cases hnewest
      rw [if_neg hempty]
      simp only [Option.mem_some_iff, forall_eq']
      cases hjudge : judge py decodeFrame now c metadata with
      | error e => exact ⟨fun h => absurd h.2.1 (by simp), False.elim⟩
      | ok verdict =>
        cases verdict with
        | refused record =>
          unfold ReturnsNewest
          rw [← lastUsable_eq_none_iff]
          constructor
          · exact fun h => (Except.ok.inj h.2.1).symm
          · intro hnone
            rw [hnone]
            exact ⟨rfl, rfl, rfl⟩
        | bundle b =>
          have hlast := lastUsable_of_newest wire py decodeFrame now c hnewest (b := b) (by rw [bundleOfObject, hjudge])
          dsimp only
          by_cases hafter : HealthReadable wire c healthAfter
          · obtain ⟨latestHealth, hpoll⟩ := pollHealth_of_readable wire c hafter
            rw [hpoll]
            refine iff_of_true ?_ hafter
            unfold ReturnsNewest
            rw [hlast]
            exact ⟨rfl, rfl, rfl⟩
          · obtain ⟨e, he⟩ := pollHealth_of_not_readable wire c hafter
            rw [he]
            exact ⟨fun h => absurd h.2.1 (by simp), fun h => absurd h hafter⟩

/-- **The newest message.**  A call of `poll` returns the bundle of the last usable message, or `None`, exactly
if nothing raises and the newest dictionary of the exact topic is usable or no message is. -/
theorem pollsNewestUsable_iff (queue health healthAfter : List Message) :
    PollsNewestUsable wire py decodeFrame now c queue health healthAfter ↔
      if c.closed then queue = []
      else HealthReadable wire c health ∧ NewestCounts wire py decodeFrame now c queue healthAfter := by
  unfold PollsNewestUsable
  cases hopen : c.closed with
  | true =>
    rw [pollLocked, if_pos hopen, if_pos rfl]
    constructor
    · exact fun h => h.1
    · rintro rfl
      exact ⟨rfl, rfl, rfl⟩
  | false =>
    rw [pollLocked, hopen, if_neg Bool.false_ne_true, if_neg Bool.false_ne_true]
    by_cases hhealth : HealthReadable wire c health
    · obtain ⟨latestHealth, hpoll⟩ := pollHealth_of_readable wire c hhealth
      rw [hpoll, and_iff_right hhealth]
      exact pollBundle_iff wire py decodeFrame now { c with latestHealth := latestHealth } queue healthAfter
    · obtain ⟨e, he⟩ := pollHealth_of_not_readable wire c hhealth
      rw [he]
      exact ⟨fun h => absurd h.2.1 (by simp), fun h => absurd h.1 hhealth⟩

end

/-! ## A hidden bundle -/

def bytesOf (text : String) : Bytes := text.toList.map fun ch => UInt8.ofNat ch.toNat

/-- A complete bundle of one frame. -/
def completeText : String :=
  "\x7b\"complete\": true, \"frames\": \x7b\"left.color\": \x7b\"valid\": true, \"format\": \"bgr8\"\x7d\x7d\x7d"

def incompleteText : String := "\x7b\"complete\": false\x7d"

/-- ASCII texts, and the two of them that are read here. -/
def asciiWire : Wire where
  decode bytes := bytes.map fun b => Char.ofNat b.toNat
  loads text :=
    if text = completeText.toList then
      .value (.obj [("complete", .bool true), ("frames", .obj [("left.color", .obj [("valid", .bool true),
        ("format", .str "bgr8")])])])
    else if text = incompleteText.toList then .value (.obj [("complete", .bool false)])
    else .jsonDecodeError

/-- A client that has not polled. -/
def newClient : Client Unit where
  closed := false
  topic := "camera.bundle".toList
  healthTopic := "camera.health".toList
  includeDepth := false
  includeIr := false
  latest := none
  latestHealth := none
  pollOutcomes := fun _ => 0
  lastPoll := { outcome := "never_polled" }

/-- An incomplete bundle behind a complete one: the call returns `None`. -/
theorem incomplete_hides_complete :
    let queue := [[bytesOf "camera.bundle", bytesOf completeText], [bytesOf "camera.bundle", bytesOf incompleteText]]
    (lastUsable asciiWire .plain (fun _ _ => .ok ()) (.fin 1) newClient queue).isSome = true ∧
      (pollLocked asciiWire .plain (fun _ _ => .ok ()) (.fin 1) newClient queue [] []).2.2.toOption = some none ∧
      ¬ PollsNewestUsable asciiWire .plain (fun _ _ => .ok ()) (.fin 1) newClient queue [] [] := by
  intro queue
  have husable : (lastUsable asciiWire .plain (fun _ _ => .ok ()) (.fin 1) newClient queue).isSome = true := by
    decide +kernel
  have hresult : (pollLocked asciiWire .plain (fun _ _ => .ok ()) (.fin 1) newClient queue [] []).2.2.toOption =
      some none := by
    rfl
  refine ⟨husable, hresult, fun h => ?_⟩
  rw [h.2.1] at hresult
  have hnone : lastUsable asciiWire .plain (fun _ _ => .ok ()) (.fin 1) newClient queue = none :=
    Option.some.inj hresult
  rw [hnone] at husable
  cases husable

end PolicyRunner.CameraBundleClient
