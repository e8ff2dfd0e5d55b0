import Rendezvous.Proofs.Origin

/-!
# Who waits and who is active

Entries come and go in many ways: a registration enters its registrant into both tables, a match
takes two identities out of the one and puts the target back into the other, a kill takes two out
of the active table, and a sweep removes what is too old.  Yet the history tells in two sentences
who stands in a table.

* An identity waits if its latest accepted registration ended in waiting and since then nobody has
  asked for it and no sweep has found that registration too old.
* It is active if since it was last made active no kill has taken it out and no sweep has found
  its latest accepted registration too old.

Both are of the form "`Q` since `p`" (`Since`), which has one equation for a list that is longer by
one element at its end.  `waiting_apply` and `active_apply` are the same equations for the tables
and one operation, so that each sentence is an induction over runs.  The waiting table comes first:
a match takes from it the entry that it puts back.

* `membership_by_history`: the two sentences, for every run.
-/

namespace Rendezvous

/-! ## Since the latest element of some kind -/

section Since

variable {α : Type} {p : α → Bool} {P Q : α → Prop}

/-- The last element that passes a test satisfies `P`, and all elements behind it satisfy `Q`. -/
def Since (p : α → Bool) (P Q : α → Prop) (l : List α) : Prop :=
  ∃ x later, latest? p l = some (x, later) ∧ P x ∧ ∀ y ∈ later, Q y

/-- One more element is the latest, or else it satisfies `Q` like those before it. -/
theorem since_append_singleton (l : List α) (x : α) :
    Since p P Q (l ++ [x]) ↔ if p x then P x else Since p P Q l ∧ Q x := by
  rw [Since, latest?_append_singleton]
  by_cases hx : p x
  · simp [hx]
  · cases hl : latest? p l with
    | none => simp [hx, hl, Since]
    | some found =>
      obtain ⟨y, later⟩ := found
      simp [hx, hl, Since, or_imp, forall_and, and_assoc]

end Since

namespace Store

variable {s : Store} {c : Command} {h : List Deed} {d : Deed} {u : Text} {seen : Sighting}

/-! ## Events in the life of an identity -/

/-- What an accepted registration told of its registrant. -/
def Deed.sighting? (d : Deed) : Option Sighting := d.command.admission?.map (·.sighting)

/-- Whether an operation was an accepted registration of an identity. -/
def Deed.registers (u : Text) (d : Deed) : Bool :=
  d.command.admission?.any fun a => a.who.uid = u

/-- Whether an operation was an accepted registration that asked for an identity. -/
def Deed.seeks (u : Text) (d : Deed) : Bool :=
  d.command.admission?.any fun a => a.peer = u

/-- Whether an operation matched an identity as the peer that its registrant named. -/
def Deed.targets (u : Text) (d : Deed) : Bool := d.pairing?.any fun p => p.target = u

/-- Whether an operation made an identity active. -/
def Deed.activates (u : Text) (d : Deed) : Bool := d.registers u || d.targets u

/-- Whether an operation was a kill that names an identity and was neither rejected nor stale. -/
def Deed.deactivates (u : Text) (d : Deed) : Bool :=
  match d.command, d.outcome with
  | .kill uid peer _, .killed .unpaired => uid = u || peer = u
  | .kill uid peer _, .killed .notified => uid = u || peer = u
  | _, _ => false

/-- Whether an operation was a sweep that found a sighting too old. -/
def Deed.expires (seen? : Option Sighting) (d : Deed) : Bool :=
  match d.command with
  | .sweep now => seen?.any (expired now d.timeout)
  | _ => false

/-! ## Membership by history -/

/-- What the latest accepted registration of an identity told. -/
def lastSighting? (h : List Deed) (u : Text) : Option Sighting :=
  (latest? (Deed.registers u) h).bind fun r => r.1.sighting?

/-- The latest accepted registration of an identity ended in waiting, and since then nobody has
    asked for the identity and no sweep has found the registration too old. -/
def StillWaits (h : List Deed) (u : Text) : Prop :=
  Since (Deed.registers u) (fun d => d.outcome = .registered .waiting)
    (fun d => ¬d.seeks u ∧ ¬d.expires (lastSighting? h u)) h

/-- An identity was made active, and since it last was no kill has taken it out and no sweep has
    found its latest accepted registration too old. -/
def StillActive (h : List Deed) (u : Text) : Prop :=
  Since (Deed.activates u) (fun _ => True)
    (fun d => ¬d.deactivates u ∧ ¬d.expires (lastSighting? h u)) h

theorem lastSighting?_append_singleton (h : List Deed) (d : Deed) (u : Text) :
    lastSighting? (h ++ [d]) u = if d.registers u then d.sighting? else lastSighting? h u := by
  rw [lastSighting?, latest?_append_singleton, lastSighting?]
  by_cases hr : d.registers u
  · simp [hr]
  · cases latest? (Deed.registers u) h <;> simp [hr]

theorem stillWaits_append_singleton (h : List Deed) (d : Deed) (u : Text) :
    StillWaits (h ++ [d]) u ↔
      if d.registers u then d.outcome = .registered .waiting
      else StillWaits h u ∧ ¬d.seeks u ∧ ¬d.expires (lastSighting? h u) := by
  rw [StillWaits, since_append_singleton, lastSighting?_append_singleton]
  by_cases hr : d.registers u
  · simp only [hr, if_true]
  · simp only [hr, Bool.false_eq_true, if_false, StillWaits]

theorem stillActive_append_singleton (h : List Deed) (d : Deed) (u : Text) :
    StillActive (h ++ [d]) u ↔
      if d.activates u then True
      else StillActive h u ∧ ¬d.deactivates u ∧ ¬d.expires (lastSighting? h u) := by
  rw [StillActive, since_append_singleton, lastSighting?_append_singleton]
  by_cases ha : d.activates u
  · simp only [ha, if_true]
  · have hr : ¬d.registers u := fun hr => ha (by simp [Deed.activates, hr])
    simp only [ha, hr, Bool.false_eq_true, if_false, StillActive]

/-! ## One operation -/

section Register

variable {who : Endpoint} {peer : Text} {supply : Supply} {timeout : Float} {o : Outcome}
  {es : List Effect} {drawn : Nat}

theorem sighting?_register (named : who.uid ≠ [] ∧ peer ≠ []) :
    Deed.sighting? ⟨.register who peer supply, timeout, o, es, drawn⟩ = some ⟨who, supply.now⟩ := by
  rw [Deed.sighting?, admission?_register supply named]
  rfl

theorem registers_register (named : who.uid ≠ [] ∧ peer ≠ []) :
    Deed.registers u ⟨.register who peer supply, timeout, o, es, drawn⟩ = decide (who.uid = u) := by
  rw [Deed.registers, admission?_register supply named]
  rfl

theorem seeks_register (named : who.uid ≠ [] ∧ peer ≠ []) :
    Deed.seeks u ⟨.register who peer supply, timeout, o, es, drawn⟩ = decide (peer = u) := by
  rw [Deed.seeks, admission?_register supply named]
  rfl

end Register

theorem get?_unexpired_iff {now timeout : Float} {t : Table Text Sighting} :
    (unexpired now timeout t).get? u = some seen ↔
      t.get? u = some seen ∧ expired now timeout seen = false := by
  rw [get?_unexpired, Option.filter_eq_some_iff]
  simp

/-- An entry waits if it has just been told to wait, or if it waited before and nobody asked for it
    and it is not too old. -/
theorem waiting_apply (s : Store) (c : Command) (u : Text) (seen : Sighting) :
    (s.apply c).store.waiting.get? u = some seen ↔
      if (s.deed c).registers u then
        (s.deed c).sighting? = some seen ∧ (s.deed c).outcome = .registered .waiting
      else s.waiting.get? u = some seen ∧ ¬(s.deed c).seeks u ∧
        ¬(s.deed c).expires (some seen) := by
  have t := apply_transition s c
  rw [deed]
  generalize s.apply c = r at t
  cases t with
  | @rejected who peer supply missing =>
    simp [Deed.registers, Deed.seeks, Deed.expires, admission?_register_of_missing supply missing]
  | @waits who peer supply named absent =>
    rw [sight_waiting] at absent ⊢
    rw [registers_register named, sighting?_register named, seeks_register named]
    by_cases hu : who.uid = u
    · simp [hu]
    · -- whoever has been asked for does not wait
      have hp : s.waiting.get? u = some seen → peer ≠ u := by
        rintro hw rfl
        rw [if_neg hu, hw] at absent
        exact Option.some_ne_none seen absent
      simpa [hu, Deed.expires] using hp
  | @matched who peer supply target named found =>
    rw [join_waiting, sight_waiting, registers_register named, seeks_register named]
    by_cases hu : who.uid = u
    · simp [hu]
    · by_cases hp : peer = u <;> simp [hu, hp, Deed.expires]
  | @swept now =>
    show (unexpired now s.peerTimeout s.waiting).get? u = some seen ↔ _
    rw [get?_unexpired_iff]
    simp [Deed.registers, Deed.seeks, Deed.expires, Command.admission?]
  | killRejected | stale | unpaired | notified | timeoutSet =>
    simp [Deed.registers, Deed.seeks, Deed.expires, Command.admission?]

/-- An identity is active with the entry that it has just told, with its waiting entry if it has
    just been the target of a match, or with the entry of before if no kill has just taken it out
    and it is not too old. -/
theorem active_apply (s : Store) (c : Command) (u : Text) (seen : Sighting) :
    (s.apply c).store.active.get? u = some seen ↔
      if (s.deed c).registers u then (s.deed c).sighting? = some seen
      else if (s.deed c).targets u then s.waiting.get? u = some seen
      else s.active.get? u = some seen ∧ ¬(s.deed c).deactivates u ∧
        ¬(s.deed c).expires (some seen) := by
  have t := apply_transition s c
  rw [deed]
  generalize s.apply c = r at t
  cases t with
  | @rejected who peer supply missing =>
    simp [Deed.registers, Deed.targets, Deed.pairing?, Deed.deactivates, Deed.expires,
      admission?_register_of_missing supply missing]
  | @waits who peer supply named absent =>
    rw [sight_active, registers_register named, sighting?_register named]
    by_cases hu : who.uid = u <;> simp [hu, Deed.targets, Deed.pairing?, Deed.deactivates,
      Deed.expires]
  | @matched who peer supply target named found =>
    rw [sight_waiting] at found
    rw [join_active, sight_active, registers_register named, sighting?_register named]
    by_cases hu : who.uid = u
    · -- the registrant, which may be its own target
      subst hu
      by_cases hp : peer = who.uid
      · rw [if_pos hp.symm] at found
        simp [hp, ← found]
      · simp [hp]
    · by_cases hp : peer = u
      · -- the target, whose waiting entry is put back
        subst hp
        rw [if_neg hu] at found
        simp [hu, found, Deed.targets, Deed.pairing?]
      · simp [hu, hp, Deed.targets, Deed.pairing?, Deed.deactivates, Deed.expires]
  | @unpaired uid peer m named fresh inactive =>
    rw [deactivate_active]
    by_cases hu : uid = u ∨ peer = u <;>
      simp [Deed.registers, Deed.targets, Deed.pairing?, Deed.deactivates, Deed.expires,
        Command.admission?, hu]
  | @notified uid peer m survivor named fresh active =>
    rw [unbind_active, deactivate_active]
    by_cases hu : uid = u ∨ peer = u <;>
      simp [Deed.registers, Deed.targets, Deed.pairing?, Deed.deactivates, Deed.expires,
        Command.admission?, hu]
  | @swept now =>
    show (unexpired now s.peerTimeout s.active).get? u = some seen ↔ _
    rw [get?_unexpired_iff]
    simp [Deed.registers, Deed.targets, Deed.pairing?, Deed.deactivates, Deed.expires,
      Command.admission?]
  | killRejected | stale | timeoutSet =>
    simp [Deed.registers, Deed.targets, Deed.pairing?, Deed.deactivates, Deed.expires,
      Command.admission?]

theorem Deed.exists_sighting (hr : d.registers u) : ∃ seen, d.sighting? = some seen := by
  obtain ⟨a, ha, -⟩ := (Option.any_eq_true _ _).mp hr
  exact ⟨a.sighting, by rw [Deed.sighting?, ha]; rfl⟩

/-- The target of a match has waited, unless it is the registrant. -/
theorem waiting_of_targets (ht : (s.deed c).targets u) (hr : ¬(s.deed c).registers u) :
    ∃ seen, s.waiting.get? u = some seen := by
  have t := apply_transition s c
  rw [deed] at ht hr
  generalize s.apply c = r at t ht hr
  cases t with
  | @matched who peer supply target named found =>
    rw [registers_register named, decide_eq_true_iff] at hr
    have hp : peer = u := by simpa [Deed.targets, Deed.pairing?] using ht
    rw [sight_waiting, hp, if_neg hr] at found
    exact ⟨target, found⟩
  | rejected | waits | killRejected | stale | unpaired | notified | swept | timeoutSet =>
    nomatch ht

/-! ## Runs -/

/-- Whether an entry is too old can be asked of the entry or of the latest registration. -/
theorem stands_unexpired_iff {last? : Option Sighting} {stands kept : Prop} :
    (last? = some seen ∧ stands) ∧ kept ∧ ¬d.expires (some seen) ↔
      last? = some seen ∧ stands ∧ kept ∧ ¬d.expires last? := by
  constructor
  · rintro ⟨⟨hlast, hstands⟩, hkept, hexpires⟩
    exact ⟨hlast, hstands, hkept, hlast ▸ hexpires⟩
  · rintro ⟨hlast, hstands, hkept, hexpires⟩
    exact ⟨⟨hlast, hstands⟩, hkept, hlast ▸ hexpires⟩

/-- What waits after a run is the latest accepted registration, if it still waits. -/
theorem waiting_run (timeout : Float) (cs : List Command) (u : Text) (seen : Sighting) :
    ((empty timeout).run cs).waiting.get? u = some seen ↔
      lastSighting? ((empty timeout).history cs) u = some seen ∧
        StillWaits ((empty timeout).history cs) u := by
  induction cs using List.reverseRecOn with
  | nil => exact ⟨fun h => (nomatch h), fun h => (nomatch h.1)⟩
  | append_singleton cs c ih =>
    rw [run_append_singleton, history_append_singleton, waiting_apply,
      lastSighting?_append_singleton, stillWaits_append_singleton, ih]
    split
    · rfl
    · exact stands_unexpired_iff

/-- Who still waits has an entry. -/
theorem exists_waiting_iff (timeout : Float) (cs : List Command) (u : Text) :
    (∃ seen, ((empty timeout).run cs).waiting.get? u = some seen) ↔
      StillWaits ((empty timeout).history cs) u := by
  constructor
  · rintro ⟨seen, hseen⟩
    exact ((waiting_run timeout cs u seen).mp hseen).2
  · intro hwaits
    obtain ⟨reg, since, hlatest, -⟩ := id hwaits
    obtain ⟨_, _, hr, _⟩ := latest?_eq_some_iff.mp hlatest
    obtain ⟨seen, hseen⟩ := Deed.exists_sighting hr
    refine ⟨seen, (waiting_run timeout cs u seen).mpr ⟨?_, hwaits⟩⟩
    rw [lastSighting?, hlatest]
    exact hseen

/-- What is active after a run is the latest accepted registration, if it is still active. -/
theorem active_run (timeout : Float) (cs : List Command) (u : Text) (seen : Sighting) :
    ((empty timeout).run cs).active.get? u = some seen ↔
      lastSighting? ((empty timeout).history cs) u = some seen ∧
        StillActive ((empty timeout).history cs) u := by
  induction cs using List.reverseRecOn with
  | nil => exact ⟨fun h => (nomatch h), fun h => (nomatch h.1)⟩
  | append_singleton cs c ih =>
    rw [run_append_singleton, history_append_singleton, active_apply,
      lastSighting?_append_singleton, stillActive_append_singleton, ih]
    by_cases hr : (((empty timeout).run cs).deed c).registers u
    · simp [hr, Deed.activates]
    by_cases ht : (((empty timeout).run cs).deed c).targets u
    · -- put back by a match: the waiting entry is the latest registration as well
      obtain ⟨old, hold⟩ := waiting_of_targets ht hr
      have hlast := ((waiting_run timeout cs u old).mp hold).1
      simp [hr, ht, Deed.activates, hold, hlast]
    · simp only [hr, ht, Deed.activates, Bool.false_eq_true, Bool.or_self, if_false]
      exact stands_unexpired_iff

/-- Whoever was made active in a run has registered in it. -/
theorem exists_lastSighting (timeout : Float) (cs : List Command) (u : Text)
    (hactive : StillActive ((empty timeout).history cs) u) :
    ∃ seen, lastSighting? ((empty timeout).history cs) u = some seen := by
  induction cs using List.reverseRecOn with
  | nil =>
    obtain ⟨_, _, h, -⟩ := hactive
    nomatch h
  | append_singleton cs c ih =>
    rw [history_append_singleton, stillActive_append_singleton] at hactive
    rw [history_append_singleton, lastSighting?_append_singleton]
    by_cases hr : (((empty timeout).run cs).deed c).registers u
    · rw [if_pos hr]
      exact Deed.exists_sighting hr
    rw [if_neg hr]
    by_cases ht : (((empty timeout).run cs).deed c).targets u
    · obtain ⟨old, hold⟩ := waiting_of_targets ht hr
      exact ⟨old, ((waiting_run timeout cs u old).mp hold).1⟩
    · rw [if_neg (by simp [Deed.activates, hr, ht])] at hactive
      exact ih hactive.1

/-- **Membership is determined by history.**  After a run, an identity waits exactly if its latest
    accepted registration ended in waiting, nobody has asked for it since, and no sweep since has
    found that registration too old.  It is active exactly if since its latest registration, or
    the latest match with it as the peer, no kill that names it was more than rejected or stale,
    and no sweep has found its latest accepted registration too old. -/
theorem membership_by_history (timeout : Float) (cs : List Command) (u : Text) :
    (((empty timeout).run cs).isWaiting u ↔ StillWaits ((empty timeout).history cs) u) ∧
    (((empty timeout).run cs).isActive u ↔ StillActive ((empty timeout).history cs) u) := by
  constructor
  · rw [isWaiting, Table.contains, Option.isSome_iff_exists]
    exact exists_waiting_iff timeout cs u
  · rw [isActive, Table.contains, Option.isSome_iff_exists]
    constructor
    · rintro ⟨seen, hseen⟩
      exact ((active_run timeout cs u seen).mp hseen).2
    · intro hactive
      obtain ⟨seen, hseen⟩ := exists_lastSighting timeout cs u hactive
      exact ⟨seen, (active_run timeout cs u seen).mpr ⟨hseen, hactive⟩⟩

/-- A kill by a stranger takes one who waits out of the active table only, and a match puts the
    entry back. -/
example :
    let lone := (empty 30).run [ .register ⟨"a", "10.0.0.1", 1001⟩ "b" (.of 1000 1000 1000 []),
      .kill "c" "a" [] ]
    let joined := lone.run [.register ⟨"b", "10.0.0.2", 1002⟩ "a" (.of 1001 1001 1001 "match-1")]
    (lone.isWaiting "a" ∧ ¬lone.isActive "a") ∧ ¬joined.isWaiting "a" ∧ joined.isActive "a" := by
  decide

end Store

end Rendezvous
