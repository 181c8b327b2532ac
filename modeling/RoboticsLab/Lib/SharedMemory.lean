import Mathlib.Data.List.Forall2
import Mathlib.Logic.Relation
import Mathlib.Order.Lattice
import Mathlib.Order.Nat

/-!
# Shared memory: one writer, interleaved with a reader

A memory maps locations to values.  The writer is the list of its stores, one location each; a
reader is a program that loads one location a step and continues with the value (`Reader`).  In
`Step` either side takes its next step, so a run of `Step` is an interleaving under sequential
consistency.  `Returns hist n p k r` is the same from the reader's side: its loads see the memories
`hist t` at times `n ≤ t ≤ k` that do not decrease.

    Steps ⟨after m pre, mid ++ todo, p⟩ ⟨_, todo, done r⟩ →
      ∃ k ≤ |pre ++ mid|, Returns (history m (pre ++ mid ++ todo)) |pre| p k r     (Steps.returns)
-/

namespace SharedMemory

variable {L V α β : Type*}

/-! ## Programs -/

/-- A reader: it loads one location and continues with what it found. -/
inductive Reader (L V α : Type*)
  | done (r : α)
  | read (l : L) (next : V → Reader L V α)

namespace Reader

/-- Load the locations one after the other. -/
def readAll (ls : List L) (next : List V → Reader L V α) : Reader L V α :=
  match ls with
  | [] => next []
  | l :: ls => .read l fun v => readAll ls fun vs => next (v :: vs)

/-- The same program on renamed locations. -/
def map {L' : Type*} (f : L → L') : Reader L V α → Reader L' V α
  | .done r => .done r
  | .read l next => .read (f l) fun v => (next v).map f

/-- Use the result of a program. -/
def finish (g : α → β) : Reader L V α → Reader L V β
  | .done r => .done (g r)
  | .read l next => .read l fun v => (next v).finish g

/-- One program after the other. -/
def bind : Reader L V α → (α → Reader L V β) → Reader L V β
  | .done r, f => f r
  | .read l next, f => .read l fun v => (next v).bind f

/-- The same, where the first program may fail. -/
def tryBind {ε : Type*} (p : Reader L V (Except ε α)) (f : α → Reader L V (Except ε β)) :
    Reader L V (Except ε β) :=
  p.bind fun r =>
    match r with
    | .ok a => f a
    | .error e => .done (.error e)

/-- Where the loads find what `A` allows, they are loads of locations with `P` and the result has `Q`. -/
def Ensures (A : L → V → Prop) (P : L → Prop) (Q : α → Prop) : Reader L V α → Prop
  | .done r => Q r
  | .read l next => P l ∧ ∀ v, A l v → (next v).Ensures A P Q

/-- The program run on a memory that does not change. -/
def eval (m : L → V) : Reader L V α → α
  | .done r => r
  | .read l next => (next (m l)).eval m

/-- The locations that such a run loads. -/
def locations (m : L → V) : Reader L V α → List L
  | .done _ => []
  | .read l next => l :: (next (m l)).locations m

/-- The program after `n` loads of a memory that does not change. -/
def loads (m : L → V) : ℕ → Reader L V α → Reader L V α
  | n + 1, .read l next => (next (m l)).loads m n
  | _, p => p

section Ensures

variable {A : L → V → Prop} {P : L → Prop} {Q : α → Prop}

theorem ensures_read {l : L} {next : V → Reader L V α} (hl : P l)
    (h : ∀ v, A l v → (next v).Ensures A P Q) : (read l next).Ensures A P Q := ⟨hl, h⟩

theorem Ensures.bind {R : β → Prop} {p : Reader L V α} {f : α → Reader L V β} (h : p.Ensures A P Q)
    (hf : ∀ a, Q a → (f a).Ensures A P R) : (p.bind f).Ensures A P R := by
  induction p with
  | done r => exact hf r h
  | read l next ih => exact ⟨h.1, fun v hv => ih v (h.2 v hv)⟩

theorem Ensures.tryBind {ε : Type*} {R : Except ε β → Prop} {p : Reader L V (Except ε α)}
    {f : α → Reader L V (Except ε β)} (h : p.Ensures A P fun r => ∃ a, r = .ok a ∧ Q a)
    (hf : ∀ a, Q a → (f a).Ensures A P R) : (p.tryBind f).Ensures A P R := by
  apply h.bind
  rintro _ ⟨a, rfl, ha⟩
  exact hf a ha

theorem ensures_readAll {ls : List L} {next : List V → Reader L V α} (hP : ∀ l ∈ ls, P l)
    (h : ∀ vs, List.Forall₂ A ls vs → (next vs).Ensures A P Q) : (readAll ls next).Ensures A P Q := by
  induction ls generalizing next with
  | nil => exact h [] .nil
  | cons l ls ih =>
    refine ⟨hP l List.mem_cons_self, fun v hv => ?_⟩
    apply ih fun l' hl' => hP l' (List.mem_cons_of_mem l hl')
    intro vs hvs
    exact h (v :: vs) (.cons hv hvs)

end Ensures

end Reader

/-! ## The reader's side -/

/-- Called at time `n`, the reader returns `r`; its last load is at time `k`. -/
inductive Returns (hist : ℕ → L → V) : ℕ → Reader L V α → ℕ → α → Prop
  | done (n : ℕ) (r : α) : Returns hist n (.done r) n r
  | read {n t k : ℕ} {l : L} {next : V → Reader L V α} {r : α} (h : n ≤ t)
      (h' : Returns hist t (next (hist t l)) k r) : Returns hist n (.read l next) k r

theorem Returns.le {hist : ℕ → L → V} {n k : ℕ} {p : Reader L V α} {r : α} (h : Returns hist n p k r) :
    n ≤ k := by
  induction h with
  | done n r => exact le_rfl
  | read h _ ih => exact h.trans ih

theorem Returns.of_done {hist : ℕ → L → V} {n k : ℕ} {r' r : α} (h : Returns hist n (.done r') k r) :
    r' = r := by
  cases h with
  | done => rfl

theorem Returns.of_read {hist : ℕ → L → V} {n k : ℕ} {l : L} {next : V → Reader L V α} {r : α}
    (h : Returns hist n (.read l next) k r) : ∃ t, n ≤ t ∧ Returns hist t (next (hist t l)) k r := by
  cases h with
  | read ht h' => exact ⟨_, ht, h'⟩

/-- A reader may be called earlier. -/
theorem Returns.mono {hist : ℕ → L → V} {n n' k : ℕ} {p : Reader L V α} {r : α} (hn : n' ≤ n)
    (h : Returns hist n p k r) : ∃ k' ≤ k, Returns hist n' p k' r := by
  cases h with
  | done n r => exact ⟨n', hn, .done n' r⟩
  | read h h' => exact ⟨k, le_rfl, .read (hn.trans h) h'⟩

/-- **The loads of `readAll`.**  Each value is the memory's at some time before the program goes on. -/
theorem Returns.of_readAll {hist : ℕ → L → V} {n k : ℕ} {ls : List L}
    {next : List V → Reader L V α} {r : α} (h : Returns hist n (Reader.readAll ls next) k r) :
    ∃ vs t, n ≤ t ∧ List.Forall₂ (fun l v => ∃ u, n ≤ u ∧ u ≤ t ∧ v = hist u l) ls vs ∧
      Returns hist t (next vs) k r := by
  induction ls generalizing n next with
  | nil => exact ⟨[], n, le_rfl, .nil, h⟩
  | cons l ls ih =>
    obtain ⟨u, hu, h'⟩ := Returns.of_read h
    obtain ⟨vs, t, ht, hvs, hr⟩ := ih h'
    refine ⟨hist u l :: vs, t, hu.trans ht, .cons ⟨u, hu, ht, rfl⟩ ?_, hr⟩
    exact hvs.imp fun l v ⟨w, h1, h2, h3⟩ => ⟨w, hu.trans h1, h2, h3⟩

/-- Loads that are all at one time load the memory of that time. -/
theorem eq_map_of_loads {hist : ℕ → L → V} {n : ℕ} {ls : List L} {vs : List V}
    (h : List.Forall₂ (fun l v => ∃ u, n ≤ u ∧ u ≤ n ∧ v = hist u l) ls vs) : vs = ls.map (hist n) := by
  induction h with
  | nil => rfl
  | cons hv _ ih =>
    obtain ⟨u, h1, h2, rfl⟩ := hv
    obtain rfl := le_antisymm h1 h2
    rw [ih, List.map_cons]

theorem Returns.of_finish {hist : ℕ → L → V} {n k : ℕ} {p : Reader L V α} {g : α → β} {b : β}
    (h : Returns hist n (p.finish g) k b) : ∃ a, g a = b ∧ Returns hist n p k a := by
  induction p generalizing n with
  | done r =>
    cases h with
    | done => exact ⟨r, rfl, .done _ _⟩
  | read l next ih =>
    obtain ⟨t, ht, h'⟩ := Returns.of_read h
    obtain ⟨a, ha, hr⟩ := ih _ h'
    exact ⟨a, ha, .read ht hr⟩

/-- A program on renamed locations, seen in a memory it is the renaming of. -/
theorem Returns.of_map {L' : Type*} {f : L → L'} {hist' : ℕ → L' → V} {hist : ℕ → L → V} {π : ℕ → ℕ}
    (hπ : ∀ a b, a ≤ b → π a ≤ π b) (hh : ∀ t l, hist' t (f l) = hist (π t) l) {p : Reader L V α}
    {n k : ℕ} {r : α} (h : Returns hist' n (p.map f) k r) : Returns hist (π n) p (π k) r := by
  induction p generalizing n with
  | done r' =>
    cases h with
    | done => exact .done _ _
  | read l next ih =>
    obtain ⟨t, ht, h'⟩ := Returns.of_read h
    rw [hh] at h'
    exact .read (hπ _ _ ht) (ih _ h')

/-! ## Events -/

inductive Event (L V : Type*)
  | store (s : L × V)
  | load (l : L)
deriving DecidableEq

/-- What a run stores is what it takes off the writer. -/
def storesIn : List (Event L V) → List (L × V)
  | [] => []
  | .store s :: evs => s :: storesIn evs
  | .load _ :: evs => storesIn evs

/-- The loads of a run that starts at time `n`, with their times. -/
def loadsIn (n : ℕ) : List (Event L V) → List (ℕ × L)
  | [] => []
  | .store _ :: evs => loadsIn (n + 1) evs
  | .load l :: evs => (n, l) :: loadsIn n evs

theorem mem_storesIn {s : L × V} {evs : List (Event L V)} : s ∈ storesIn evs ↔ .store s ∈ evs := by
  induction evs with
  | nil => simp [storesIn]
  | cons e evs ih =>
    cases e with
    | store s' => simp [storesIn, ih]
    | load l => simp [storesIn, ih]

theorem storesIn_append (xs ys : List (Event L V)) : storesIn (xs ++ ys) = storesIn xs ++ storesIn ys := by
  induction xs with
  | nil => rfl
  | cons e xs ih =>
    cases e with
    | store s => simp [storesIn, ih]
    | load l => simp [storesIn, ih]

theorem loadsIn_append (n : ℕ) (xs ys : List (Event L V)) :
    loadsIn n (xs ++ ys) = loadsIn n xs ++ loadsIn (n + (storesIn xs).length) ys := by
  induction xs generalizing n with
  | nil => rfl
  | cons e xs ih =>
    cases e with
    | store s =>
      rw [List.cons_append, loadsIn, loadsIn, storesIn, ih, List.length_cons]
      congr 2
      omega
    | load l =>
      rw [List.cons_append, loadsIn, loadsIn, storesIn, ih, List.cons_append]

theorem loadsIn_le {n : ℕ} {evs : List (Event L V)} {x : ℕ × L} (h : x ∈ loadsIn n evs) :
    n ≤ x.1 ∧ x.1 ≤ n + (storesIn evs).length := by
  induction evs generalizing n with
  | nil => simp [loadsIn] at h
  | cons e evs ih =>
    cases e with
    | store s =>
      obtain ⟨h1, h2⟩ := ih h
      rw [storesIn, List.length_cons]
      omega
    | load l =>
      rcases List.mem_cons.mp h with rfl | h
      · simp
      · exact ih h

theorem mem_of_loadsIn {n : ℕ} {evs : List (Event L V)} {x : ℕ × L} (h : x ∈ loadsIn n evs) :
    .load x.2 ∈ evs := by
  induction evs generalizing n with
  | nil => simp [loadsIn] at h
  | cons e evs ih =>
    cases e with
    | store s => exact List.mem_cons_of_mem _ (ih h)
    | load l =>
      rcases List.mem_cons.mp h with rfl | h
      · exact List.mem_cons_self
      · exact List.mem_cons_of_mem _ (ih h)

/-- Called at time `n`, the reader returns `r` after these loads. -/
inductive Trace (hist : ℕ → L → V) : ℕ → Reader L V α → List (ℕ × L) → α → Prop
  | done (n : ℕ) (r : α) : Trace hist n (.done r) [] r
  | read {n t : ℕ} {l : L} {next : V → Reader L V α} {tr : List (ℕ × L)} {r : α} (h : n ≤ t)
      (h' : Trace hist t (next (hist t l)) tr r) : Trace hist n (.read l next) ((t, l) :: tr) r

theorem Trace.mono {hist : ℕ → L → V} {n n' : ℕ} {p : Reader L V α} {tr : List (ℕ × L)} {r : α} (hn : n' ≤ n)
    (h : Trace hist n p tr r) : Trace hist n' p tr r := by
  cases h with
  | done n r => exact .done n' r
  | read h h' => exact .read (hn.trans h) h'

theorem Trace.of_read {hist : ℕ → L → V} {n : ℕ} {l : L} {next : V → Reader L V α} {tr : List (ℕ × L)}
    {r : α} (h : Trace hist n (.read l next) tr r) :
    ∃ t tr', tr = (t, l) :: tr' ∧ n ≤ t ∧ Trace hist t (next (hist t l)) tr' r := by
  cases h with
  | read ht h' => exact ⟨_, _, rfl, ht, h'⟩

theorem Trace.of_done {hist : ℕ → L → V} {n : ℕ} {r' r : α} {tr : List (ℕ × L)}
    (h : Trace hist n (.done r') tr r) : r' = r ∧ tr = [] := by
  cases h with
  | done => exact ⟨rfl, rfl⟩

theorem Trace.eval (m : L → V) (n : ℕ) (p : Reader L V α) :
    Trace (fun _ => m) n p ((p.locations m).map (n, ·)) (p.eval m) := by
  induction p with
  | done r => exact .done n r
  | read l next ih => exact .read le_rfl (ih (m l))

/-- **Ensured loads**, in a memory that changes within `A`. -/
theorem Reader.Ensures.trace {A : L → V → Prop} {P : L → Prop} {Q : α → Prop} {p : Reader L V α}
    (h : p.Ensures A P Q) {hist : ℕ → L → V} (hA : ∀ t l, A l (hist t l)) {n : ℕ} {tr : List (ℕ × L)} {r : α}
    (ht : Trace hist n p tr r) : Q r ∧ ∀ x ∈ tr, P x.2 := by
  induction ht with
  | done n r => exact ⟨h, by simp⟩
  | read _ _ ih =>
    obtain ⟨hr, htr⟩ := ih (h.2 _ (hA _ _))
    refine ⟨hr, ?_⟩
    intro x hx
    rcases List.mem_cons.mp hx with rfl | hx
    · exact h.1
    · exact htr x hx

theorem Trace.of_readAll {hist : ℕ → L → V} {n : ℕ} {ls : List L} {next : List V → Reader L V α}
    {tr : List (ℕ × L)} {r : α} (h : Trace hist n (Reader.readAll ls next) tr r) :
    ∃ us tr' t, tr = us ++ tr' ∧ us.map Prod.snd = ls ∧ n ≤ t ∧ (∀ u ∈ us, n ≤ u.1 ∧ u.1 ≤ t) ∧
      Trace hist t (next (us.map fun u => hist u.1 u.2)) tr' r := by
  induction ls generalizing n next tr with
  | nil => exact ⟨[], tr, n, rfl, rfl, le_rfl, by simp, h⟩
  | cons l ls ih =>
    obtain ⟨v, tr, rfl, hv, h'⟩ := Trace.of_read h
    obtain ⟨us, tr', t, rfl, rfl, ht, hus, hr⟩ := ih h'
    refine ⟨(v, l) :: us, tr', t, rfl, rfl, hv.trans ht, ?_, hr⟩
    rintro u hu
    rcases List.mem_cons.mp hu with rfl | hu
    · exact ⟨hv, ht⟩
    · exact ⟨hv.trans (hus u hu).1, (hus u hu).2⟩

/-! ## Interleavings -/

section Memory

variable [DecidableEq L]

/-- The memory after a list of stores. -/
def after (m : L → V) (stores : List (L × V)) : L → V :=
  stores.foldl (fun m s => Function.update m s.1 s.2) m

@[simp] theorem after_nil (m : L → V) : after m [] = m := rfl

theorem after_append (m : L → V) (xs ys : List (L × V)) : after m (xs ++ ys) = after (after m xs) ys := by
  simp [after]

theorem after_cons (m : L → V) (s : L × V) (xs : List (L × V)) :
    after m (s :: xs) = after (Function.update m s.1 s.2) xs := rfl

/-- A location that is not stored keeps its value. -/
theorem after_of_not_mem {m : L → V} {stores : List (L × V)} {l : L} (h : ∀ s ∈ stores, s.1 ≠ l) :
    after m stores l = m l := by
  induction stores generalizing m with
  | nil => rfl
  | cons s xs ih =>
    rw [after_cons, ih fun x hx => h x (List.mem_cons_of_mem _ hx)]
    exact Function.update_of_ne (h s List.mem_cons_self).symm _ _

/-- A location to which one value is stored holds it. -/
theorem after_of_mem {m : L → V} {stores : List (L × V)} {l : L} {v : V} (hmem : (l, v) ∈ stores)
    (h : ∀ s ∈ stores, s.1 = l → s.2 = v) : after m stores l = v := by
  induction stores generalizing m with
  | nil => simp at hmem
  | cons s xs ih =>
    rw [after_cons]
    by_cases hx : (l, v) ∈ xs
    · exact ih hx fun s' hs' => h s' (List.mem_cons_of_mem _ hs')
    · obtain rfl : (l, v) = s := (List.mem_cons.mp hmem).resolve_right hx
      rw [after_of_not_mem]
      · exact Function.update_self _ _ _
      · rintro ⟨l', v'⟩ hs' rfl
        obtain rfl : v' = v := h _ (List.mem_cons_of_mem _ hs') rfl
        exact hx hs'

/-- The last store to a location decides its value. -/
theorem after_of_last {m : L → V} {xs ys : List (L × V)} {l : L} {v : V} (h : ∀ s ∈ ys, s.1 ≠ l) :
    after m (xs ++ (l, v) :: ys) l = v := by
  rw [after_append, after_cons, after_of_not_mem h]
  exact Function.update_self _ _ _

structure Sys (L V α : Type*) where
  mem : L → V
  todo : List (L × V)
  reader : Reader L V α

/-- Either side takes its next step. -/
inductive Step : Sys L V α → Sys L V α → Prop
  | store (m : L → V) (s : L × V) (todo : List (L × V)) (p : Reader L V α) :
      Step ⟨m, s :: todo, p⟩ ⟨Function.update m s.1 s.2, todo, p⟩
  | load (m : L → V) (todo : List (L × V)) (l : L) (next : V → Reader L V α) :
      Step ⟨m, todo, .read l next⟩ ⟨m, todo, next (m l)⟩

def Steps : Sys L V α → Sys L V α → Prop := Relation.ReflTransGen Step

/-- The writer can run ahead. -/
theorem Steps.stores (m : L → V) (xs todo : List (L × V)) (p : Reader L V α) :
    Steps ⟨m, xs ++ todo, p⟩ ⟨after m xs, todo, p⟩ := by
  induction xs generalizing m with
  | nil => exact Relation.ReflTransGen.refl
  | cons s xs ih => exact Relation.ReflTransGen.head (Step.store m s (xs ++ todo) p) (ih _)

/-- The reader can take some steps. -/
theorem Steps.loads (m : L → V) (todo : List (L × V)) (n : ℕ) (p : Reader L V α) :
    Steps ⟨m, todo, p⟩ ⟨m, todo, p.loads m n⟩ := by
  induction n generalizing p with
  | zero =>
    cases p with
    | done r => exact Relation.ReflTransGen.refl
    | read l next => exact Relation.ReflTransGen.refl
  | succ n ih =>
    cases p with
    | done r => exact Relation.ReflTransGen.refl
    | read l next => exact Relation.ReflTransGen.head (Step.load m todo l next) (ih _)

/-- The reader can run to its end. -/
theorem Steps.eval (m : L → V) (todo : List (L × V)) (p : Reader L V α) :
    Steps ⟨m, todo, p⟩ ⟨m, todo, .done (p.eval m)⟩ := by
  induction p with
  | done r => exact Relation.ReflTransGen.refl
  | read l next ih => exact Relation.ReflTransGen.head (Step.load m todo l next) (ih (m l))

/-- The memory after the first `n` stores. -/
def history (m : L → V) (stores : List (L × V)) (n : ℕ) : L → V := after m (stores.take n)

/-- Stores are only used up. -/
theorem Steps.todo_length {a b : Sys L V α} (h : Steps a b) : b.todo.length ≤ a.todo.length := by
  induction h with
  | refl => exact le_rfl
  | tail _ hst ih =>
    cases hst with
    | store => exact (Nat.le_succ _).trans ih
    | load => exact ih

/-- **Whole runs.**  An interleaving in which the reader returns, seen from the reader. -/
theorem Steps.returns {m : L → V} {pre mid todo : List (L × V)} {p : Reader L V α} {mem : L → V}
    {r : α} (h : Steps ⟨after m pre, mid ++ todo, p⟩ ⟨mem, todo, .done r⟩) :
    ∃ k ≤ (pre ++ mid).length, Returns (history m (pre ++ (mid ++ todo))) pre.length p k r := by
  generalize hs : (⟨after m pre, mid ++ todo, p⟩ : Sys L V α) = s at h
  induction h using Relation.ReflTransGen.head_induction_on generalizing pre mid p with
  | refl =>
    have hp : p = .done r := congrArg Sys.reader hs
    subst hp
    exact ⟨pre.length, by simp, .done _ _⟩
  | head hst hrest ih =>
    subst hs
    generalize hmt : mid ++ todo = mt at hst
    cases hst with
    | load _ _ l next =>
      subst hmt
      obtain ⟨k, hk, hr⟩ := ih rfl
      refine ⟨k, hk, .read le_rfl ?_⟩
      rw [history, List.take_left]
      exact hr
    | store _ s rest =>
      cases mid with
      | nil =>
        rw [List.nil_append] at hmt
        have hlen := Steps.todo_length hrest
        rw [hmt] at hlen
        exact absurd hlen (by simp)
      | cons s' mid =>
        obtain ⟨rfl, rfl⟩ := List.cons.inj hmt
        have hs : (⟨after m (pre ++ [s']), mid ++ todo, p⟩ : Sys L V α) =
            ⟨Function.update (after m pre) s'.1 s'.2, mid ++ todo, p⟩ := by
          rw [after_append]
          rfl
        obtain ⟨k, hk, hr⟩ := ih hs
        rw [List.append_assoc, List.singleton_append] at hr hk
        have hle : pre.length ≤ (pre ++ [s']).length := by simp
        obtain ⟨k', hk', hr'⟩ := hr.mono hle
        exact ⟨k', hk'.trans hk, hr'⟩

/-! ## Runs with their events -/

/-- A run of `Step` and what was stored and loaded in it. -/
inductive Run : Sys L V α → List (Event L V) → Sys L V α → Prop
  | nil (s : Sys L V α) : Run s [] s
  | store {m : L → V} {s : L × V} {todo : List (L × V)} {p : Reader L V α} {evs : List (Event L V)}
      {t : Sys L V α} (h : Run ⟨Function.update m s.1 s.2, todo, p⟩ evs t) :
      Run ⟨m, s :: todo, p⟩ (.store s :: evs) t
  | load {m : L → V} {todo : List (L × V)} {l : L} {next : V → Reader L V α} {evs : List (Event L V)}
      {t : Sys L V α} (h : Run ⟨m, todo, next (m l)⟩ evs t) :
      Run ⟨m, todo, .read l next⟩ (.load l :: evs) t

theorem Run.todo {s t : Sys L V α} {evs : List (Event L V)} (h : Run s evs t) :
    s.todo = storesIn evs ++ t.todo := by
  induction h with
  | nil s => rfl
  | store _ ih => exact congrArg (_ :: ·) ih
  | load _ ih => exact ih

/-- **Whole runs**, with the loads of the reader and their times. -/
theorem Run.trace {m : L → V} {pre mid todo : List (L × V)} {p : Reader L V α} {mem : L → V} {r : α}
    {evs : List (Event L V)} (h : Run ⟨after m pre, mid ++ todo, p⟩ evs ⟨mem, todo, .done r⟩) :
    Trace (history m (pre ++ (mid ++ todo))) pre.length p (loadsIn pre.length evs) r := by
  generalize hs : (⟨after m pre, mid ++ todo, p⟩ : Sys L V α) = s at h
  generalize ht : (⟨mem, todo, .done r⟩ : Sys L V α) = t at h
  induction h generalizing pre mid p with
  | nil s =>
    subst ht
    have hp : p = .done r := congrArg Sys.reader hs
    rw [hp]
    exact .done _ _
  | load h ih =>
    obtain ⟨rfl, rfl, rfl⟩ := Sys.mk.inj hs
    refine .read le_rfl ?_
    rw [history, List.take_left]
    exact ih rfl ht
  | store h ih =>
    subst ht
    obtain ⟨rfl, hmt, rfl⟩ := Sys.mk.inj hs
    cases mid with
    | nil =>
      -- the writer cannot take a store and have it left
      have hlen := congrArg List.length (hmt.trans (congrArg (_ :: ·) (Run.todo h)))
      simp only [List.nil_append, List.length_cons, List.length_append] at hlen
      omega
    | cons s' mid =>
      obtain ⟨rfl, rfl⟩ := List.cons.inj hmt
      have hs : (⟨after m (pre ++ [s']), mid ++ todo, p⟩ : Sys L V α) =
          ⟨Function.update (after m pre) s'.1 s'.2, mid ++ todo, p⟩ := by
        rw [after_append]
        rfl
      have hr := ih hs rfl
      rw [List.append_assoc, List.singleton_append, List.length_append] at hr
      exact hr.mono (by simp)

end Memory

/-! ## A memory of several objects -/

section Objects

variable {I : Type*} [DecidableEq I]

/-- The stores to the object `i`. -/
def storesOf (i : I) (stores : List ((I × L) × V)) : List (L × V) :=
  stores.filterMap fun s => if s.1.1 = i then some (s.1.2, s.2) else none

@[simp] theorem storesOf_append (i : I) (xs ys : List ((I × L) × V)) :
    storesOf i (xs ++ ys) = storesOf i xs ++ storesOf i ys := List.filterMap_append

theorem storesOf_cons_self (i : I) (l : L) (v : V) (xs : List ((I × L) × V)) :
    storesOf i (((i, l), v) :: xs) = (l, v) :: storesOf i xs :=
  List.filterMap_cons_some (if_pos rfl)

theorem storesOf_cons_of_ne {i j : I} (h : j ≠ i) (l : L) (v : V) (xs : List ((I × L) × V)) :
    storesOf i (((j, l), v) :: xs) = storesOf i xs :=
  List.filterMap_cons_none (if_neg h)

/-- The same stores, to the object `i`. -/
def storesAt (i : I) (stores : List (L × V)) : List ((I × L) × V) :=
  stores.map fun s => ((i, s.1), s.2)

theorem storesOf_storesAt (i : I) (xs : List (L × V)) : storesOf i (storesAt i xs) = xs := by
  induction xs with
  | nil => rfl
  | cons s xs ih =>
    rw [storesAt, List.map_cons, storesOf_cons_self]
    exact congrArg (s :: ·) ih

theorem storesOf_storesAt_of_ne {i j : I} (h : j ≠ i) (xs : List (L × V)) :
    storesOf i (storesAt j xs) = [] := by
  rw [storesOf, List.filterMap_eq_nil_iff]
  rintro s hs
  obtain ⟨s', -, rfl⟩ := List.mem_map.mp hs
  exact if_neg h

/-- The time of the object `i`: how many of the first `t` stores are to it. -/
def objectTime (i : I) (stores : List ((I × L) × V)) (t : ℕ) : ℕ := (storesOf i (stores.take t)).length

theorem storesOf_take (i : I) (stores : List ((I × L) × V)) (t : ℕ) :
    storesOf i (stores.take t) = (storesOf i stores).take (objectTime i stores t) := by
  have h : storesOf i stores = storesOf i (stores.take t) ++ storesOf i (stores.drop t) := by
    rw [← storesOf_append, List.take_append_drop]
  rw [h, objectTime, List.take_left]

theorem objectTime_mono (i : I) (stores : List ((I × L) × V)) {a b : ℕ} (h : a ≤ b) :
    objectTime i stores a ≤ objectTime i stores b :=
  ((List.take_sublist_take_left h).filterMap _).length_le

variable [DecidableEq L]

/-- An object holds what was stored to it. -/
theorem after_object (m : I × L → V) (stores : List ((I × L) × V)) (i : I) (l : L) :
    after m stores (i, l) = after (fun l => m (i, l)) (storesOf i stores) l := by
  induction stores generalizing m with
  | nil => rfl
  | cons s xs ih =>
    obtain ⟨⟨j, l'⟩, v⟩ := s
    rw [after_cons, ih]
    by_cases hj : j = i
    · subst hj
      rw [storesOf_cons_self, after_cons]
      congr 1
      ext x
      by_cases hx : x = l'
      · subst hx
        rw [Function.update_self, Function.update_self]
      · rw [Function.update_of_ne hx, Function.update_of_ne (by simpa using hx)]
    · rw [storesOf_cons_of_ne hj]
      congr 1
      ext x
      exact Function.update_of_ne (by simp [Ne.symm hj]) _ _

/-- The history of an object, in its own time. -/
theorem history_object (m : I × L → V) (stores : List ((I × L) × V)) (i : I) (t : ℕ) (l : L) :
    history m stores t (i, l) =
      history (fun l => m (i, l)) (storesOf i stores) (objectTime i stores t) l := by
  rw [history, history, after_object, storesOf_take]

end Objects

end SharedMemory
