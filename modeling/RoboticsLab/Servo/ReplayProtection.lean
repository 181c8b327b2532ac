import RoboticsLab.Servo.CommandServer

/-!
# Replay protection per command source

The last accepted sequence number is kept per `sourceKey`, the two ids joined by a newline.  For
each key, and so for each `(source_id, session_id)`, the accepted numbers are strictly increasing
(`keySeqs_increasing`, `ownSeqs_increasing`).  Two different pairs share a key exactly when one is
the other with the separator shifted over a piece of id text (`sourceKey_eq_iff`); JSON ids may
contain newlines, so such pairs exist (`shifted_source_blocks`).  Away from them the check is a
function of the pair's own accepted numbers:

    SeparatorSafe ms source → (isReplay (serverAfter ms) source seq ↔ ∃ n ∈ ownSeqs, seq ≤ n)
                                                                       (isReplay_iff_own)
-/

namespace RbServo

open Runs

/-! ## Keys -/

/-- `p` is `q` with the separator newline moved to the right over `b`. -/
def ShiftsSeparator (p q : String × String) : Prop :=
  ∃ a b c, p = (a ++ "\n" ++ b, c) ∧ q = (a, b ++ "\n" ++ c)

/-- Two pairs of ids that join to the same key text. -/
def Collide (p q : String × String) : Prop := ShiftsSeparator p q ∨ ShiftsSeparator q p

theorem newline_split (x y z w : List Char) (h : x ++ '\n' :: y = z ++ '\n' :: w) :
    (x = z ∧ y = w) ∨ (∃ b, z = x ++ '\n' :: b ∧ y = b ++ '\n' :: w) ∨
      (∃ b, x = z ++ '\n' :: b ∧ w = b ++ '\n' :: y) := by
  rcases List.append_eq_append_iff.mp h with ⟨as, hz, hy⟩ | ⟨bs, hx, hw⟩
  · cases as with
    | nil =>
      simp only [List.nil_append, List.cons.injEq, true_and] at hy
      exact Or.inl ⟨by simpa using hz.symm, hy⟩
    | cons a as =>
      simp only [List.cons_append, List.cons.injEq] at hy
      obtain ⟨rfl, hy⟩ := hy
      exact Or.inr (Or.inl ⟨as, hz, hy⟩)
  · cases bs with
    | nil =>
      simp only [List.nil_append, List.cons.injEq, true_and] at hw
      exact Or.inl ⟨by simpa using hx, hw.symm⟩
    | cons b bs =>
      simp only [List.cons_append, List.cons.injEq] at hw
      obtain ⟨rfl, hw⟩ := hw
      exact Or.inr (Or.inr ⟨bs, hx, hw⟩)

theorem joined_eq_iff (a b c d : String) :
    a ++ "\n" ++ b = c ++ "\n" ++ d ↔ (a, b) = (c, d) ∨ Collide (a, b) (c, d) := by
  constructor
  · intro h
    have hl := congrArg String.toList h
    simp only [String.toList_append, List.append_assoc] at hl
    rcases newline_split _ _ _ _ hl with ⟨h1, h2⟩ | ⟨t, h1, h2⟩ | ⟨t, h1, h2⟩
    · left
      rw [String.toList_injective h1, String.toList_injective h2]
    · right; right
      refine ⟨a, String.ofList t, d, Prod.ext (String.toList_injective ?_) rfl,
        Prod.ext rfl (String.toList_injective ?_)⟩
      · simpa [String.toList_append] using h1
      · simpa [String.toList_append] using h2
    · right; left
      refine ⟨c, String.ofList t, b, Prod.ext (String.toList_injective ?_) rfl,
        Prod.ext rfl (String.toList_injective ?_)⟩
      · simpa [String.toList_append] using h1
      · simpa [String.toList_append] using h2
  · rintro (h | ⟨x, y, z, h1, h2⟩ | ⟨x, y, z, h1, h2⟩)
    · obtain ⟨rfl, rfl⟩ := Prod.mk.inj h; rfl
    · obtain ⟨rfl, rfl⟩ := Prod.mk.inj h1
      obtain ⟨rfl, rfl⟩ := Prod.mk.inj h2
      simp only [String.append_assoc]
    · obtain ⟨rfl, rfl⟩ := Prod.mk.inj h1
      obtain ⟨rfl, rfl⟩ := Prod.mk.inj h2
      simp only [String.append_assoc]

theorem not_collide_empty (p : String × String) : ¬ Collide ("", "") p := by
  rintro (⟨a, b, c, h, -⟩ | ⟨a, b, c, -, h⟩)
  · have := congrArg (fun q : String × String => q.1.toList) h
    simp at this
  · have := congrArg (fun q : String × String => q.2.toList) h
    simp at this

theorem legacy_ne_joined (a b : String) : "__legacy__" ≠ a ++ "\n" ++ b := by
  intro h
  have hmem : '\n' ∈ (a ++ "\n" ++ b).toList := by simp
  rw [← h] at hmem
  exact absurd hmem (by decide)

/-- **Keys.**  Two sources share a key exactly when they are the same pair or collide. -/
theorem sourceKey_eq_iff (s t : CommandSourceMetadata) :
    sourceKey s = sourceKey t ↔ s.pair = t.pair ∨ Collide s.pair t.pair := by
  unfold sourceKey CommandSourceMetadata.pair
  by_cases hs : s.sourceId = "" ∧ s.sessionId = ""
  · by_cases ht : t.sourceId = "" ∧ t.sessionId = ""
    · simp [hs, ht]
    · rw [if_pos hs, if_neg ht, hs.1, hs.2]
      constructor
      · intro h; exact absurd h (legacy_ne_joined _ _)
      · rintro (h | h)
        · obtain ⟨h1, h2⟩ := Prod.mk.inj h
          exact absurd ⟨h1.symm, h2.symm⟩ ht
        · exact absurd h (not_collide_empty _)
  · by_cases ht : t.sourceId = "" ∧ t.sessionId = ""
    · rw [if_neg hs, if_pos ht, ht.1, ht.2]
      constructor
      · intro h; exact absurd h.symm (legacy_ne_joined _ _)
      · rintro (h | h)
        · obtain ⟨h1, h2⟩ := Prod.mk.inj h
          exact absurd ⟨h1, h2⟩ hs
        · exact absurd (Or.symm h) (not_collide_empty _)
    · rw [if_neg hs, if_neg ht]
      exact joined_eq_iff _ _ _ _

/-! ## Accepted numbers -/

/-- The numbers accepted under one key. -/
def keySeqs (key : String) (cmds : List DualArmCommand) : List Nat :=
  (cmds.filter fun c => sourceKey c.source = key).map DualArmCommand.seq

/-- The numbers accepted from one `(source_id, session_id)`. -/
def ownSeqs (pair : String × String) (cmds : List DualArmCommand) : List Nat :=
  (cmds.filter fun c => c.source.pair = pair).map DualArmCommand.seq

variable (parse : String → Option Json) (cfg : CommandServerConfig)

/-- No datagram of the run comes from a pair that collides with `source`. -/
def SeparatorSafe (ms : List Packet) (source : CommandSourceMetadata) : Prop :=
  ∀ m ∈ ms, ∀ p, packetOf parse cfg m = some p → ¬ Collide p.cmd.source.pair source.pair

theorem keySeqs_concat (key : String) (cmds : List DualArmCommand) (cmd : DualArmCommand) :
    keySeqs key (cmds ++ [cmd]) =
      keySeqs key cmds ++ if sourceKey cmd.source = key then [cmd.seq] else [] := by
  unfold keySeqs
  rw [List.filter_append, List.map_append]
  by_cases h : sourceKey cmd.source = key <;> simp [h]

theorem le_getLast_of_pairwise {l : List Nat} (h : l.Pairwise (· < ·)) {n k : Nat} (hn : n ∈ l)
    (hk : l.getLast? = some k) : n ≤ k := by
  obtain ⟨l', rfl⟩ : ∃ l', l = l' ++ [k] := ⟨_, (List.dropLast_append_getLast? k hk).symm⟩
  rcases List.mem_append.mp hn with hn | hn
  · exact Nat.le_of_lt ((List.pairwise_append.mp h).2.2 n hn k (by simp))
  · rw [List.mem_singleton.mp hn]

/-- The map entry of a key is the last number accepted under it. -/
theorem lastAcceptedSeq_eq (ms : List Packet) (key : String) :
    (serverAfter parse cfg ms).lastAcceptedSeqBySource key =
      (keySeqs key (accepted parse cfg ms)).getLast? := by
  induction ms using List.reverseRecOn with
  | nil => rfl
  | append_singleton ms m ih =>
    rw [serverAfter_concat, accepted_concat]
    rcases parseMessage_seqs parse cfg (serverAfter parse cfg ms) m with
      ⟨hout, hmap⟩ | ⟨p, cmd, hp, hout, hsrc, hseq, hmap⟩
    · rw [hout, hmap, ih]; simp
    · rw [hout, hmap, Option.toList_some, keySeqs_concat]
      by_cases hk : sourceKey cmd.source = key
      · subst hk; simp
      · rw [Function.update_of_ne (Ne.symm hk), if_neg hk, List.append_nil, ih]

/-- **Strictly increasing**, under each key. -/
theorem keySeqs_increasing (ms : List Packet) (key : String) :
    (keySeqs key (accepted parse cfg ms)).Pairwise (· < ·) := by
  induction ms using List.reverseRecOn with
  | nil => exact List.Pairwise.nil
  | append_singleton ms m ih =>
    rw [accepted_concat]
    rcases parseMessage_seqs parse cfg (serverAfter parse cfg ms) m with
      ⟨hout, -⟩ | ⟨p, cmd, hp, hout, hsrc, hseq, -⟩
    · rw [hout]; simpa using ih
    · rw [hout, Option.toList_some, keySeqs_concat]
      by_cases hk : sourceKey cmd.source = key
      · subst hk
        rw [if_pos rfl, List.pairwise_append]
        refine ⟨ih, List.pairwise_singleton _ _, fun n hn k hk => ?_⟩
        rw [List.mem_singleton.mp hk]
        -- the replay check compared the new number with the last one, the largest
        rw [isReplay, lastAcceptedSeq_eq] at hseq
        obtain ⟨l, hl⟩ : ∃ l, (keySeqs (sourceKey cmd.source) (accepted parse cfg ms)).getLast? = some l :=
          Option.isSome_iff_exists.mp (by simpa using List.ne_nil_of_mem hn)
        rw [hl] at hseq
        have hlast : n ≤ l := le_getLast_of_pairwise ih hn hl
        simp at hseq
        omega
      · simpa [hk] using ih

theorem isReplay_iff_key (ms : List Packet) (source : CommandSourceMetadata) (seq : Nat) :
    isReplay (serverAfter parse cfg ms) source seq = true ↔
      ∃ n ∈ keySeqs (sourceKey source) (accepted parse cfg ms), seq ≤ n := by
  have hinc := keySeqs_increasing parse cfg ms (sourceKey source)
  rw [isReplay, lastAcceptedSeq_eq, Option.any_eq_true]
  constructor
  · rintro ⟨n, hn, hle⟩
    exact ⟨n, List.mem_of_getLast? hn, by simpa using hle⟩
  · rintro ⟨n, hn, hle⟩
    obtain ⟨l, hl⟩ : ∃ l, (keySeqs (sourceKey source) (accepted parse cfg ms)).getLast? = some l :=
      Option.isSome_iff_exists.mp (by simpa using List.ne_nil_of_mem hn)
    have := le_getLast_of_pairwise hinc hn hl
    exact ⟨l, hl, by simp; omega⟩

/-! ## One source among others -/

theorem ownSeqs_sublist_keySeqs (source : CommandSourceMetadata) (cmds : List DualArmCommand) :
    (ownSeqs source.pair cmds).Sublist (keySeqs (sourceKey source) cmds) := by
  refine List.Sublist.map _ (List.monotone_filter_right cmds fun c hc => ?_)
  rw [decide_eq_true_eq] at hc ⊢
  exact (sourceKey_eq_iff _ _).mpr (Or.inl hc)

/-- **Strictly increasing**, from each `(source_id, session_id)`. -/
theorem ownSeqs_increasing (ms : List Packet) (pair : String × String) :
    (ownSeqs pair (accepted parse cfg ms)).Pairwise (· < ·) :=
  (keySeqs_increasing parse cfg ms _).sublist
    (ownSeqs_sublist_keySeqs { sourceId := pair.1, sessionId := pair.2 } _)

theorem ownSeqs_eq_keySeqs (source : CommandSourceMetadata) (cmds : List DualArmCommand)
    (h : ∀ c ∈ cmds, ¬ Collide c.source.pair source.pair) :
    ownSeqs source.pair cmds = keySeqs (sourceKey source) cmds := by
  unfold ownSeqs keySeqs
  congr 1
  refine List.filter_congr fun c hc => ?_
  rw [decide_eq_decide, sourceKey_eq_iff, or_iff_left (h c hc)]

theorem not_collide_of_separatorSafe (ms : List Packet) (source : CommandSourceMetadata)
    (hsafe : SeparatorSafe parse cfg ms source) :
    ∀ c ∈ accepted parse cfg ms, ¬ Collide c.source.pair source.pair := by
  induction ms using List.reverseRecOn with
  | nil => simp [accepted, acceptedFrom]
  | append_singleton ms m ih =>
    intro c hc
    rw [accepted_concat, List.mem_append] at hc
    rcases hc with hc | hc
    · exact ih (fun m' hm' => hsafe m' (List.mem_append_left _ hm')) c hc
    · rcases parseMessage_seqs parse cfg (serverAfter parse cfg ms) m with
        ⟨hout, -⟩ | ⟨p, cmd, hp, hout, hsrc, -, -⟩
      · rw [hout] at hc; simp at hc
      · rw [hout, Option.toList_some, List.mem_singleton] at hc
        rw [hc, hsrc]
        exact hsafe m (by simp) p hp

/-- Away from colliding ids the check reads the source's own accepted numbers. -/
theorem isReplay_iff_own (ms : List Packet) (source : CommandSourceMetadata) (seq : Nat)
    (hsafe : SeparatorSafe parse cfg ms source) :
    isReplay (serverAfter parse cfg ms) source seq = true ↔
      ∃ n ∈ ownSeqs source.pair (accepted parse cfg ms), seq ≤ n := by
  rw [isReplay_iff_key,
    ownSeqs_eq_keySeqs source _ (not_collide_of_separatorSafe parse cfg ms source hsafe)]

/-- **Replay protection per source.**  In every run the accepted numbers of each source are strictly
increasing.  Two runs without colliding ids that accepted the same numbers from `source`, whatever
they accepted from others, answer its sequence check alike. -/
theorem replay_check_per_source (source : CommandSourceMetadata) (ms ms' : List Packet)
    (hsafe : SeparatorSafe parse cfg ms source) (hsafe' : SeparatorSafe parse cfg ms' source)
    (hown : ownSeqs source.pair (accepted parse cfg ms) =
      ownSeqs source.pair (accepted parse cfg ms')) :
    (∀ pair, (ownSeqs pair (accepted parse cfg ms)).Pairwise (· < ·)) ∧
    ∀ seq, isReplay (serverAfter parse cfg ms) source seq =
      isReplay (serverAfter parse cfg ms') source seq := by
  refine ⟨ownSeqs_increasing parse cfg ms, fun seq => ?_⟩
  rw [Bool.eq_iff_iff, isReplay_iff_own parse cfg ms source seq hsafe,
    isReplay_iff_own parse cfg ms' source seq hsafe', hown]

/-- The condition is exact: once a colliding source is accepted, a number its victim never sent is
refused to the victim. -/
theorem replay_check_blocked (ms : List Packet) (m : Packet) (source : CommandSourceMetadata)
    (cmd : DualArmCommand) (hout : (parseMessage parse cfg (serverAfter parse cfg ms) m).2 = some cmd)
    (hcol : Collide cmd.source.pair source.pair) :
    isReplay (serverAfter parse cfg (ms ++ [m])) source cmd.seq = true ∧
      ∀ n ∈ ownSeqs source.pair (accepted parse cfg ms), n < cmd.seq := by
  have hkey : sourceKey cmd.source = sourceKey source := (sourceKey_eq_iff _ _).mpr (Or.inr hcol)
  rcases parseMessage_seqs parse cfg (serverAfter parse cfg ms) m with
    ⟨hnone, -⟩ | ⟨p, cmd', hp, hout', hsrc, hseq, hmap⟩
  · rw [hout] at hnone; cases hnone
  · obtain rfl : cmd = cmd' := Option.some.inj (hout.symm.trans hout')
    refine ⟨?_, fun n hn => ?_⟩
    · simp [isReplay, hmap, hkey]
    · by_contra hle
      have hmem := (ownSeqs_sublist_keySeqs source (accepted parse cfg ms)).subset hn
      have : isReplay (serverAfter parse cfg ms) cmd.source cmd.seq = true :=
        (isReplay_iff_key parse cfg ms cmd.source cmd.seq).mpr ⟨n, by rw [hkey]; exact hmem, by omega⟩
      rw [hseq] at this
      cases this

/-! ## The gap -/

def shiftedHold : Packet where
  message := "\x7b\"seq\":5,\"source_id\":\"a\\nb\",\"session_id\":\"c\"\x7d"
  receiveTimeNs := 1

def otherHold : Packet where
  message := "\x7b\"seq\":9,\"source_id\":\"gui\",\"session_id\":\"c\"\x7d"
  receiveTimeNs := 1

/-- What the JSON reader returns on the two sample datagrams. -/
def sampleHoldParse (message : String) : Option Json :=
  [(shiftedHold.message, Json.obj [("seq", .numUnsigned 5), ("source_id", .str "a\nb"),
      ("session_id", .str "c")]),
   (otherHold.message, Json.obj [("seq", .numUnsigned 9), ("source_id", .str "gui"),
      ("session_id", .str "c")])].lookup message

def shiftedVictim : CommandSourceMetadata := { sourceId := "a", sessionId := "b\nc" }

/-- A packet of `("a\nb", "c")` uses up the numbers of `("a", "b\nc")`. -/
theorem shifted_source_blocks :
    ¬ ∀ (parse : String → Option Json) (cfg : CommandServerConfig)
        (source : CommandSourceMetadata) (ms ms' : List Packet) (seq : Nat),
      ownSeqs source.pair (accepted parse cfg ms) = ownSeqs source.pair (accepted parse cfg ms') →
      isReplay (serverAfter parse cfg ms) source seq =
        isReplay (serverAfter parse cfg ms') source seq := by
  intro h
  have hsame := h sampleHoldParse {} shiftedVictim [shiftedHold] [] 1 (by decide +kernel)
  exact absurd hsame (by decide +kernel)

/-- The pair of a packet whose source id has no newline collides with no such pair. -/
theorem not_collide_of_no_newline {p q : String × String} (hp : '\n' ∉ p.1.toList)
    (hq : '\n' ∉ q.1.toList) : ¬ Collide p q := by
  rintro (⟨a, b, c, rfl, -⟩ | ⟨a, b, c, rfl, -⟩)
  · simp at hp
  · simp at hq

theorem replay_check_per_source_sample :
    (∀ pair, (ownSeqs pair (accepted sampleHoldParse {} [otherHold])).Pairwise (· < ·)) ∧
    ∀ seq, isReplay (serverAfter sampleHoldParse {} [otherHold]) shiftedVictim seq =
      isReplay (serverAfter sampleHoldParse {} []) shiftedVictim seq := by
  refine replay_check_per_source sampleHoldParse {} shiftedVictim [otherHold] [] ?_ (by simp [SeparatorSafe])
    (by decide +kernel)
  intro m hm p hp
  obtain rfl := List.mem_singleton.mp hm
  have hid : (packetOf sampleHoldParse {} otherHold).all
      (fun p => !p.cmd.source.sourceId.toList.contains '\n') = true := by decide +kernel
  rw [hp, Option.all_some] at hid
  exact not_collide_of_no_newline (by simpa [CommandSourceMetadata.pair] using hid) (by decide)

end RbServo
