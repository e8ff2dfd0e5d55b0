import Rendezvous.Proofs.Freshness
import Rendezvous.Proofs.Bindings
import Rendezvous.Proofs.Membership
import Rendezvous.Proofs.Staleness

/-!
# A teardown reaches the survivor

A client that leaves its peer wants the peer to know, however long the two have been together and
whatever else the server has done since it matched them.  What a kill needs are the bindings of the
two and the active entry of the peer.  An operation that does not concern an identity leaves its
binding alone (`matchIdOf?_apply_of_not_concerns`) and its active entry as well, unless it is a
sweep that finds the entry too old (`active_apply_of_not_concerns`); both pass to runs by induction.
The match itself has put all of it there: it binds the two, the registrant has just been entered,
and the entry of the other is put back from the waiting table.

* `teardown_reaches_survivor`: a kill between two partners tells the peer and separates them.
-/

namespace Rendezvous.Store

variable {s : Store} {c : Command} {cs : List Command} {d : Deed} {u v m : Text} {seen : Sighting}

/-! ## Operations that do not concern an identity -/

/-- Whether an operation was an accepted registration that names an identity, in either role, or a
    kill that names it and was neither rejected nor stale. -/
def Deed.concerns (u : Text) (d : Deed) : Bool := d.registers u || d.seeks u || d.deactivates u

theorem not_concerns_iff :
    ¬d.concerns u ↔ ¬d.registers u ∧ ¬d.seeks u ∧ ¬d.deactivates u := by
  simp [Deed.concerns, and_assoc]

/-- A match is an accepted registration of the one party that asks for the other. -/
theorem register_of_pairing? {p : Pairing} (h : (s.deed c).pairing? = some p) :
    ∃ who supply, c = .register who p.target supply ∧ who.uid = p.registrant ∧
      (who.uid ≠ [] ∧ p.target ≠ []) := by
  have t := apply_transition s c
  rw [deed] at h
  generalize s.apply c = r at t h
  cases t with
  | @matched who peer supply target named found =>
    obtain rfl := Option.some.inj h
    exact ⟨who, supply, rfl, rfl, named⟩
  | rejected | waits | killRejected | stale | unpaired | notified | swept | timeoutSet => cases h

/-- The target of a match is asked for by the registration that makes it. -/
theorem seeks_of_targets (ht : (s.deed c).targets u) : (s.deed c).seeks u := by
  obtain ⟨p, hp, htarget⟩ := (Option.any_eq_true _ _).mp ht
  obtain ⟨who, supply, rfl, -, named⟩ := register_of_pairing? hp
  rw [deed, seeks_register named, htarget]

theorem concerns_of_pairs (hpairs : (s.deed c).pairs u) : (s.deed c).concerns u := by
  obtain ⟨p, hp, hjoins⟩ := (Option.any_eq_true _ _).mp hpairs
  obtain ⟨who, supply, rfl, hwho, named⟩ := register_of_pairing? hp
  rw [deed, Deed.concerns, registers_register named, seeks_register named, hwho, hjoins,
    Bool.true_or]

theorem pairs_of_targets (ht : d.targets u) : d.pairs u := by
  rw [Deed.targets, Option.any_eq_true] at ht
  obtain ⟨p, hp, htarget⟩ := ht
  rw [Deed.pairs, hp, Option.any_some, htarget, Bool.or_true]

theorem deactivates_of_tearsDown (ht : d.tearsDown u) : d.deactivates u := by
  rw [Deed.tearsDown.eq_def] at ht
  split at ht
  · next hcommand houtcome => rwa [Deed.deactivates, hcommand, houtcome]
  · cases ht

/-- An operation that does not concern an identity leaves its binding alone. -/
theorem matchIdOf?_apply_of_not_concerns (h : ¬(s.deed c).concerns u) :
    (s.apply c).store.matchIdOf? u = s.matchIdOf? u := by
  have hpairs : ¬(s.deed c).pairs u := fun hp => h (concerns_of_pairs hp)
  have htears : ¬(s.deed c).tearsDown u := fun ht =>
    (not_concerns_iff.mp h).2.2 (deactivates_of_tearsDown ht)
  rw [matchIdOf?_apply, if_neg hpairs, if_neg htears]

/-- Its active entry stays as well, if that is not too old. -/
theorem active_apply_of_not_concerns (h : ¬(s.deed c).concerns u)
    (hfresh : ¬(s.deed c).expires (some seen)) (hactive : s.active.get? u = some seen) :
    (s.apply c).store.active.get? u = some seen := by
  obtain ⟨hregisters, -, hdeactivates⟩ := not_concerns_iff.mp h
  have htargets : ¬(s.deed c).targets u := fun ht => h (concerns_of_pairs (pairs_of_targets ht))
  rw [active_apply, if_neg hregisters, if_neg htargets]
  exact ⟨hactive, hdeactivates, hfresh⟩

theorem matchIdOf?_run_of_not_concerns (h : ∀ d ∈ s.history cs, ¬d.concerns u) :
    (s.run cs).matchIdOf? u = s.matchIdOf? u := by
  induction cs generalizing s with
  | nil => rfl
  | cons c cs ih =>
    rw [history, List.forall_mem_cons] at h
    rw [run_cons, ih h.2, matchIdOf?_apply_of_not_concerns h.1]

theorem active_run_of_not_concerns
    (h : ∀ d ∈ s.history cs, ¬d.concerns u ∧ ¬d.expires (some seen))
    (hactive : s.active.get? u = some seen) : (s.run cs).active.get? u = some seen := by
  induction cs generalizing s with
  | nil => exact hactive
  | cons c cs ih =>
    rw [history, List.forall_mem_cons] at h
    exact ih h.2 (active_apply_of_not_concerns h.1.1 h.1.2 hactive)

/-- Operations that do not register an identity leave its latest sighting alone. -/
theorem lastSighting?_append {h later : List Deed} (hlater : ∀ d ∈ later, ¬d.registers u) :
    lastSighting? (h ++ later) u = lastSighting? h u := by
  induction later using List.reverseRecOn with
  | nil => rw [List.append_nil]
  | append_singleton later d ih =>
    obtain ⟨hlater, hd⟩ : (∀ e ∈ later, ¬e.registers u) ∧ ¬d.registers u := by
      simpa [or_imp, forall_and] using hlater
    rw [← List.append_assoc, lastSighting?_append_singleton, if_neg hd, ih hlater]

/-! ## Partners -/

/-- Whether an operation matched two identities under an id, whichever of them had waited. -/
def Deed.Matches (d : Deed) (u v m : Text) : Prop :=
  d.pairing? = some ⟨m, u, v⟩ ∨ d.pairing? = some ⟨m, v, u⟩

/-- A match binds both of its parties. -/
theorem matchIdOf?_apply_of_matches (h : (s.deed c).Matches u v m) :
    (s.apply c).store.matchIdOf? u = some m ∧ (s.apply c).store.matchIdOf? v = some m := by
  rw [matchIdOf?_apply, matchIdOf?_apply]
  rcases h with h | h <;> simp [Deed.pairs, h]

/-- Nobody is matched without a name. -/
theorem named_of_matches (h : (s.deed c).Matches u v m) : u ≠ [] ∧ v ≠ [] := by
  rcases h with h | h
  · obtain ⟨who, supply, -, rfl, named⟩ := register_of_pairing? h
    exact named
  · obtain ⟨who, supply, -, rfl, named⟩ := register_of_pairing? h
    exact named.symm

/-- A match makes both of its parties active: the registrant has just been entered, and the other is
    put back. -/
theorem activates_of_matches (h : (s.deed c).Matches u v m) : (s.deed c).activates v := by
  rcases h with h | h
  · simp [Deed.activates, Deed.targets, h]
  · obtain ⟨who, supply, rfl, hwho, named⟩ := register_of_pairing? h
    rw [deed, Deed.activates, registers_register named, hwho, decide_eq_true rfl, Bool.true_or]

/-- After a match both of its parties are active with their latest sightings. -/
theorem active_of_matches {timeout : Float}
    (h : (((empty timeout).run cs).deed c).Matches u v m) :
    ∃ seen, ((empty timeout).run (cs ++ [c])).active.get? v = some seen ∧
      lastSighting? ((empty timeout).history (cs ++ [c])) v = some seen := by
  have hactive : StillActive ((empty timeout).history (cs ++ [c])) v := by
    rw [history_append_singleton, stillActive_append_singleton, if_pos (activates_of_matches h)]
    trivial
  obtain ⟨seen, hseen⟩ := exists_lastSighting timeout (cs ++ [c]) v hactive
  exact ⟨seen, (active_run timeout (cs ++ [c]) v seen).mpr ⟨hseen, hactive⟩, hseen⟩

/-- A kill between two identities that are bound to its id, or to any if it has none, and of which
    the peer is active. -/
theorem kill_of_partners {k : Text} (named : u ≠ [] ∧ v ≠ []) (hm : m ≠ [])
    (hbound : s.matchIdOf? u = some m) (hactive : s.active.get? v = some seen)
    (hk : k = m ∨ k = []) :
    (s.kill u v k).outcome = .notified ∧
      Effect.deliveries (s.kill u v k).effects = [(.teardown u m, seen.endpoint)] ∧
      (s.kill u v k).store = (s.deactivate u v).unbind u v := by
  have hcurrent : s.currentId u v = m := currentId_of_bound hm hbound
  have fresh : ¬s.IsStale u v k := by
    rintro ⟨hne, -, hdiffers⟩
    rw [hcurrent] at hdiffers
    exact hk.elim hdiffers hne
  rw [kill_of_active named fresh hactive, hcurrent]
  exact ⟨rfl, rfl, rfl⟩

theorem separated (s : Store) (u v : Text) :
    ∀ w, w = u ∨ w = v →
      ¬((s.deactivate u v).unbind u v).isActive w ∧
        ((s.deactivate u v).unbind u v).matchIdOf? w = none := by
  intro w hw
  have hw' : u = w ∨ v = w := hw.imp Eq.symm Eq.symm
  rw [isActive, Table.contains, unbind_active, deactivate_active, matchIdOf?, unbind_bindings,
    if_pos hw', if_pos hw']
  exact ⟨Bool.false_ne_true, rfl⟩

/-! ## Runs -/

/-- A kill between two partners tells the peer, at its latest endpoint, who has left and which
    match, and separates the two: neither is active nor bound. -/
structure Separates (s : Store) (cs : List Command) (u v m k : Text) : Prop where
  outcome : (s.kill u v k).outcome = .notified
  sent : ∃ e, lastEndpoint? cs v = some e ∧ e.uid = v ∧
    Effect.deliveries (s.kill u v k).effects = [(.teardown u m, e)]
  message : (Payload.teardown u m).members =
    ([("kill", .bool true), ("opponentUid", .text u), ("reason", .text Payload.leaveReason),
      ("matchId", .text m)] : Json.Members)
  inactive : ¬(s.kill u v k).store.isActive u ∧ ¬(s.kill u v k).store.isActive v
  unbound : (s.kill u v k).store.matchIdOf? u = none ∧ (s.kill u v k).store.matchIdOf? v = none

/-- **A teardown reaches the survivor.**  Let two identities have been matched in a run, whichever
    of them had waited, under an id that is not empty.  Let nothing that came later concern one of
    them, and no later sweep have found the latest accepted registration of the second too old; the
    entry of the first may be gone.  Then a kill from the first to the second, with the id of the
    match or without one, tells the second and separates the two. -/
theorem teardown_reaches_survivor (timeout : Float) {cs : List Command} {before after : List Deed}
    {d : Deed} {u v m : Text} (hsplit : (empty timeout).history cs = before ++ d :: after)
    (hmatch : d.Matches u v m) (hm : m ≠ [])
    (hquiet : ∀ e ∈ after, ¬e.concerns u ∧ ¬e.concerns v ∧
      ¬e.expires (lastSighting? ((empty timeout).history cs) v)) :
    ∀ k, k = m ∨ k = [] → Separates ((empty timeout).run cs) cs u v m k := by
  intro k hk
  obtain ⟨cs₁, rest, rfl, rfl, hfrom⟩ := history_eq_append hsplit
  obtain ⟨c, later, rfl, rfl, rfl⟩ := history_eq_cons hfrom.symm
  rw [← run_append_singleton] at hsplit hquiet
  -- what the match has put in place
  have named := named_of_matches hmatch
  obtain ⟨hu, -⟩ := matchIdOf?_apply_of_matches hmatch
  obtain ⟨seen, hactive, hlast⟩ := active_of_matches hmatch
  rw [← run_append_singleton] at hu
  -- what later operations have left of it
  have hregisters : ∀ e ∈ ((empty timeout).run (cs₁ ++ [c])).history later, ¬e.registers v :=
    fun e he => (not_concerns_iff.mp (hquiet e he).2.1).1
  have hsame : lastSighting? ((empty timeout).history (cs₁ ++ c :: later)) v = some seen := by
    rw [hsplit, List.append_cons, ← history_append_singleton, lastSighting?_append hregisters,
      hlast]
  rw [hsame] at hquiet
  have hbound := (matchIdOf?_run_of_not_concerns fun e he => (hquiet e he).1).trans hu
  have hactive := active_run_of_not_concerns
    (fun e he => ⟨(hquiet e he).2.1, (hquiet e he).2.2⟩) hactive
  rw [← run_append, ← List.append_cons] at hbound hactive
  obtain ⟨huid, hendpoint⟩ := (recordsLatest_run timeout _).2.lastEndpoint? hactive
  obtain ⟨houtcome, hsent, hstore⟩ := kill_of_partners named hm hbound hactive hk
  have hseparated := separated ((empty timeout).run (cs₁ ++ c :: later)) u v
  rw [← hstore] at hseparated
  exact
    { outcome := houtcome
      sent := ⟨seen.endpoint, huid ▸ hendpoint, huid, hsent⟩
      message := by simp [Payload.members, hm]
      inactive := ⟨(hseparated u (.inl rfl)).1, (hseparated v (.inr rfl)).1⟩
      unbound := ⟨(hseparated u (.inl rfl)).2, (hseparated v (.inr rfl)).2⟩ }

/-- Two partners, others who come and go, and a sweep that finds the entry of the first partner too
    old. -/
def outlived : List Command :=
  [ .register ⟨"a", "10.0.0.1", 1001⟩ "b" (.of 1000 1000 1000 "match-1"),
    .register ⟨"b", "10.0.0.2", 1002⟩ "a" (.of 1020 1020 1020 "match-1"),
    .register ⟨"c", "10.0.0.3", 1003⟩ "d" (.of 1025 1025 1025 "match-2"),
    .kill "d" "c" "match-1",
    .setTimeout 20,
    .sweep 1035 ]

/-- After `outlived` the first partner is not active any more, and a kill from it reaches the
    second. -/
theorem outlived_separates :
    ¬((empty 30).run outlived).isActive "a" ∧
      Separates ((empty 30).run outlived) outlived "a" "b" "match-1" [] := by
  have hquiet : ∀ e ∈ ((empty 30).history outlived).drop 2, ¬e.concerns "a" ∧ ¬e.concerns "b" ∧
      ¬e.expires (lastSighting? ((empty 30).history outlived) "b") := by decide
  have hsplit : (empty 30).history outlived =
      ((empty 30).history outlived).take 1 ++ _ :: ((empty 30).history outlived).drop 2 := rfl
  exact ⟨by decide,
    teardown_reaches_survivor 30 hsplit (.inr rfl) (by decide) hquiet [] (.inr rfl)⟩

end Rendezvous.Store
