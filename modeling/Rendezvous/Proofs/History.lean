import Rendezvous.Proofs.Transition
import Mathlib.Data.List.Induction

/-!
# Runs and their histories

A run carries out a list of operations one after another.  What a maintainer wants to know of the
store after it ("who waits", "which id is in force") is told by the history of the run: the list
of what was done, oldest first, without a look at the tables.

Nearly every such statement speaks of the latest operation of some kind and of what came after it.
`latest?` finds both.  Its one equation is for a list that is longer by one element at its end, so
that all proofs about histories are inductions that take the last operation off.

* `lastAdmission?`: the latest accepted registration of an identity in a list of operations;
* `history`: the operations of a run with their outcomes and effects.
-/

namespace Rendezvous

/-! ## The latest element of some kind -/

section Latest

variable {α : Type} {p : α → Bool}

/-- The last element of a list that passes a test, with the elements behind it. -/
def latest? (p : α → Bool) : List α → Option (α × List α)
  | [] => none
  | x :: rest =>
    match latest? p rest with
    | some found => some found
    | none => if p x then some (x, rest) else none

/-- One more element at the end is the latest, or else stands behind the latest. -/
theorem latest?_append_singleton (p : α → Bool) (l : List α) (x : α) :
    latest? p (l ++ [x]) =
      if p x then some (x, []) else (latest? p l).map fun r => (r.1, r.2 ++ [x]) := by
  -- on the front of the list, where `latest?` recurses, although the new element is at the end
  induction l with
  | nil => simp [latest?]
  | cons y l ih =>
    rw [List.cons_append, latest?, latest?, ih]
    by_cases hx : p x
    · simp [hx]
    · cases latest? p l with
      | none => by_cases hy : p y <;> simp [hx, hy]
      | some found => simp [hx]

/-- Nothing is found exactly if nothing passes. -/
theorem latest?_eq_none_iff {l : List α} : latest? p l = none ↔ ∀ x ∈ l, ¬p x := by
  induction l with
  | nil => simp [latest?]
  | cons y l ih =>
    rw [latest?, List.forall_mem_cons, ← ih]
    cases latest? p l with
    | none => by_cases hy : p y <;> simp [hy]
    | some found => simp

/-- What is found passes the test, and nothing behind it does. -/
theorem latest?_eq_some_iff {l later : List α} {x : α} :
    latest? p l = some (x, later) ↔
      ∃ earlier, l = earlier ++ x :: later ∧ p x ∧ ∀ y ∈ later, ¬p y := by
  constructor
  · intro h
    induction l with
    | nil => simp [latest?] at h
    | cons y l ih =>
      rw [latest?] at h
      cases hl : latest? p l with
      | some found =>
        -- found further on, so that `y` is one of the earlier ones
        rw [hl] at h
        obtain ⟨earlier, hsplit, hx⟩ := ih (hl.trans h)
        exact ⟨y :: earlier, by rw [hsplit, List.cons_append], hx⟩
      | none =>
        by_cases hy : p y
        · simp only [hl, hy, if_true, Option.some.injEq, Prod.mk.injEq] at h
          obtain ⟨rfl, rfl⟩ := h
          exact ⟨[], rfl, hy, latest?_eq_none_iff.mp hl⟩
        · simp [hl, hy] at h
  · rintro ⟨earlier, rfl, hx, hlater⟩
    induction earlier with
    | nil => rw [List.nil_append, latest?, latest?_eq_none_iff.mpr hlater]; simp [hx]
    | cons y earlier ih => rw [List.cons_append, latest?, ih]

/-- The latest element of a list of images is the image of the latest. -/
theorem latest?_map {β : Type} (p : β → Bool) (f : α → β) (l : List α) :
    latest? p (l.map f) = (latest? (fun x => p (f x)) l).map fun r => (f r.1, r.2.map f) := by
  induction l with
  | nil => rfl
  | cons x l ih =>
    rw [List.map_cons, latest?, latest?, ih]
    cases latest? (fun x => p (f x)) l with
    | none => by_cases hx : p (f x) <;> simp [hx]
    | some found => rfl

end Latest

/-! ## Runs -/

namespace Store

/-- The store after a list of operations. -/
def run (s : Store) (cs : List Command) : Store := cs.foldl (fun s c => (s.apply c).store) s

@[simp] theorem run_nil (s : Store) : s.run [] = s := rfl

@[simp] theorem run_cons (s : Store) (c : Command) (cs : List Command) :
    s.run (c :: cs) = (s.apply c).store.run cs := rfl

theorem run_append_singleton (s : Store) (cs : List Command) (c : Command) :
    s.run (cs ++ [c]) = ((s.run cs).apply c).store := by
  rw [run, List.foldl_append]
  rfl

/-! ### Accepted registrations -/

/-- A registration with both of its identities. -/
structure Admission where
  /-- The endpoint that registered. -/
  who : Endpoint
  /-- The peer it asked for. -/
  peer : Text
  /-- The reading of the clock that it took. -/
  now : Float

/-- What the tables record of an accepted registration. -/
def Admission.sighting (a : Admission) : Sighting := ⟨a.who, a.now⟩

@[simp] theorem Admission.sighting_endpoint (a : Admission) : a.sighting.endpoint = a.who := rfl

/-- The registration that an operation is, if it lacks neither identity. -/
def Command.admission? : Command → Option Admission
  | .register who peer supply =>
    if who.uid = [] ∨ peer = [] then none else some ⟨who, peer, supply.now⟩
  | _ => none

/-- The latest accepted registration of an identity in a list of operations. -/
def lastAdmission? (cs : List Command) (u : Text) : Option Admission :=
  (latest? (·.who.uid = u) (cs.filterMap Command.admission?)).map Prod.fst

/-- The endpoint of an identity: that of its latest accepted registration. -/
def lastEndpoint? (cs : List Command) (u : Text) : Option Endpoint :=
  (lastAdmission? cs u).map (·.who)

/-- The peer for which an identity asked last. -/
def lastAsked? (cs : List Command) (u : Text) : Option Text :=
  (lastAdmission? cs u).map (·.peer)

/-- An operation that admits an identity is its latest admission... -/
theorem lastAdmission?_of_admits {c : Command} {a : Admission} (cs : List Command)
    (h : c.admission? = some a) : lastAdmission? (cs ++ [c]) a.who.uid = some a := by
  simp [lastAdmission?, List.filterMap_append, h, latest?_append_singleton]

/-- ... and one that does not changes nothing. -/
theorem lastAdmission?_of_not_admits {c : Command} {u : Text} (cs : List Command)
    (h : ∀ a, c.admission? = some a → a.who.uid ≠ u) :
    lastAdmission? (cs ++ [c]) u = lastAdmission? cs u := by
  cases hc : c.admission? with
  | none => simp [lastAdmission?, List.filterMap_append, hc]
  | some a =>
    simp [lastAdmission?, List.filterMap_append, hc, latest?_append_singleton, h a hc,
      Option.map_map, Function.comp_def]

/-- The peer that an admission names is the one asked for last... -/
theorem lastAsked?_of_admits {c : Command} {a : Admission} (cs : List Command)
    (h : c.admission? = some a) : lastAsked? (cs ++ [c]) a.who.uid = some a.peer := by
  rw [lastAsked?, lastAdmission?_of_admits cs h]
  rfl

/-- ... until the identity is admitted again. -/
theorem lastAsked?_of_not_admits {c : Command} {u : Text} (cs : List Command)
    (h : ∀ a, c.admission? = some a → a.who.uid ≠ u) :
    lastAsked? (cs ++ [c]) u = lastAsked? cs u := by
  rw [lastAsked?, lastAdmission?_of_not_admits cs h, lastAsked?]

/-- The latest admission of an identity is one of its own. -/
theorem uid_of_lastAdmission? {cs : List Command} {u : Text} {a : Admission}
    (h : lastAdmission? cs u = some a) : a.who.uid = u := by
  obtain ⟨r, hr, rfl⟩ := Option.map_eq_some_iff.mp h
  obtain ⟨_, _, hp, _⟩ := latest?_eq_some_iff.mp hr
  exact of_decide_eq_true hp

/-! ### Histories -/

/-- An operation that was carried out. -/
structure Deed where
  /-- The operation. -/
  command : Command
  /-- The timeout in force. -/
  timeout : Float
  /-- How it ended. -/
  outcome : Outcome
  /-- What it did to the world, in order. -/
  effects : List Effect
  /-- How many match ids it drew. -/
  drawn : Nat

/-- The record of an operation on a store. -/
def deed (s : Store) (c : Command) : Deed :=
  ⟨c, s.peerTimeout, (s.apply c).outcome, (s.apply c).effects, (s.apply c).drawn⟩

/-- What an operation sent, with the recipients, in order. -/
def Deed.sent (d : Deed) : List (Payload × Endpoint) := Effect.deliveries d.effects

/-- What a run did, oldest first. -/
def history (s : Store) : List Command → List Deed
  | [] => []
  | c :: rest => s.deed c :: history (s.apply c).store rest

@[simp] theorem history_nil (s : Store) : s.history [] = [] := rfl

theorem run_append (s : Store) (cs₁ cs₂ : List Command) :
    s.run (cs₁ ++ cs₂) = (s.run cs₁).run cs₂ :=
  List.foldl_append

theorem history_append (s : Store) (cs₁ cs₂ : List Command) :
    s.history (cs₁ ++ cs₂) = s.history cs₁ ++ (s.run cs₁).history cs₂ := by
  -- the store on which the run starts moves with its first operation
  induction cs₁ generalizing s with
  | nil => rfl
  | cons c cs₁ ih => rw [List.cons_append, history, history, ih, List.cons_append, run_cons]

theorem history_append_singleton (s : Store) (cs : List Command) (c : Command) :
    s.history (cs ++ [c]) = s.history cs ++ [(s.run cs).deed c] :=
  history_append s cs [c]

@[simp] theorem length_history (s : Store) (cs : List Command) :
    (s.history cs).length = cs.length := by
  induction cs generalizing s with
  | nil => rfl
  | cons c cs ih => rw [history, List.length_cons, ih, List.length_cons]

/-- A history that is cut in two is the history of a run and that of a run from where the first has
    ended. -/
theorem history_eq_append {s : Store} {cs : List Command} {before after : List Deed}
    (h : s.history cs = before ++ after) :
    ∃ cs₁ cs₂, cs = cs₁ ++ cs₂ ∧ before = s.history cs₁ ∧ after = (s.run cs₁).history cs₂ := by
  induction before generalizing s cs with
  | nil => exact ⟨[], cs, rfl, rfl, h.symm⟩
  | cons d before ih =>
    cases cs with
    | nil => nomatch h
    | cons c cs =>
      obtain ⟨rfl, hrest⟩ := List.cons.inj h
      obtain ⟨cs₁, cs₂, rfl, rfl, rfl⟩ := ih hrest
      exact ⟨c :: cs₁, cs₂, rfl, rfl, rfl⟩

/-- The first entry of a history is the record of the first operation. -/
theorem history_eq_cons {s : Store} {cs : List Command} {d : Deed} {after : List Deed}
    (h : s.history cs = d :: after) :
    ∃ c cs', cs = c :: cs' ∧ d = s.deed c ∧ after = (s.apply c).store.history cs' := by
  cases cs with
  | nil => nomatch h
  | cons c cs' =>
    obtain ⟨rfl, rfl⟩ := List.cons.inj h
    exact ⟨c, cs', rfl, rfl, rfl⟩

/-- Each entry of a history is the record of an operation on the store that those before it have
    left. -/
theorem history_eq_append_cons {s : Store} {cs : List Command} {before after : List Deed} {d : Deed}
    (h : s.history cs = before ++ d :: after) :
    ∃ cs₁ c cs₂, cs = cs₁ ++ c :: cs₂ ∧ before = s.history cs₁ ∧ d = (s.run cs₁).deed c := by
  obtain ⟨cs₁, rest, rfl, rfl, hrest⟩ := history_eq_append h
  obtain ⟨c, cs₂, rfl, rfl, -⟩ := history_eq_cons hrest.symm
  exact ⟨cs₁, c, cs₂, rfl, rfl, rfl⟩

/-- In particular it is the record of one of the operations of the run. -/
theorem exists_deed_of_mem_history {s : Store} {cs : List Command} {d : Deed}
    (h : d ∈ s.history cs) : ∃ s' : Store, ∃ c ∈ cs, d = s'.deed c := by
  obtain ⟨before, after, hsplit⟩ := List.append_of_mem h
  obtain ⟨cs₁, c, cs₂, rfl, -, rfl⟩ := history_eq_append_cons hsplit
  exact ⟨s.run cs₁, c, List.mem_append_right _ List.mem_cons_self, rfl⟩

/-! ### Matches and teardowns -/

/-- A match: its id, the identity whose registration made it, and the one that waited. -/
structure Pairing where
  /-- The id under which the two were matched. -/
  matchId : Text
  /-- The identity that registered. -/
  registrant : Text
  /-- The peer that it named. -/
  target : Text
  deriving DecidableEq

/-- The match that an operation made. -/
def Deed.pairing? (d : Deed) : Option Pairing :=
  match d.command, d.outcome with
  | .register who peer _, .registered (.matched m _) => some ⟨m, who.uid, peer⟩
  | _, _ => none

/-- The matches of a history, oldest first. -/
def pairings (h : List Deed) : List Pairing := h.filterMap Deed.pairing?

/-- Whether an operation matched an identity, as the registrant or as the peer it named. -/
def Deed.pairs (u : Text) (d : Deed) : Bool :=
  d.pairing?.any fun p => p.registrant = u || p.target = u

/-- Whether an operation was a kill that names an identity and whose peer was told. -/
def Deed.tearsDown (u : Text) (d : Deed) : Bool :=
  match d.command, d.outcome with
  | .kill uid peer _, .killed .notified => uid = u || peer = u
  | _, _ => false

/-! ### A run with three identities -/

/-- Two partners, one of whom is then matched with a third. -/
def rematched : List Command :=
  [ .register ⟨"a", "10.0.0.1", 1001⟩ "b" (.of 1000 1000 1000 "match-1"),
    .register ⟨"b", "10.0.0.2", 1002⟩ "a" (.of 1000 1000 1000 "match-1"),
    .register ⟨"b", "10.0.0.2", 1002⟩ "c" (.of 1000 1000 1000 "match-2"),
    .register ⟨"c", "10.0.0.3", 1003⟩ "b" (.of 1000 1000 1000 "match-2") ]

end Store

end Rendezvous
