import Rendezvous.Proofs.Membership
import Rendezvous.Proofs.Retirement
import Mathlib.Data.Set.Card

/-!
# Who is matched with whom

A registration is matched with the entry that waits under the name it asks for.  The tables hold no
other condition: an entry does not say for whom it waits, so the peer may have asked for somebody
else, and the registrant is looked for among those that wait like everybody, although it has only
just been entered there.  So two things decide a match.

* Whether the peer is another identity than the registrant.  Only then does a match have two
  parties; who asks for itself is found at once, and told its own endpoint (`register_self`).
* For a peer that is another identity, whether it still waits, which is a statement about its latest
  accepted registration and what came after it (`StillWaits`).

Whatever else is told of the match follows from these: whose endpoints are sent, to whom, who is
bound to the new id and who leaves the waiting table.

* `partners_differ_iff`: matches join two identities except where one asked for itself;
* `matched_iff_still_waits`: a registrant is matched with a peer that still waits for anybody.
-/

namespace Rendezvous.Store

variable {s : Store} {c : Command} {cs : List Command} {who e : Endpoint} {peer m : Text}
  {supply : Supply} {timeout : Float}

/-! ## Matched registrations -/

/-- A registration is matched exactly if both identities are there and the peer is found among those
    that wait, with the registrant entered. -/
theorem register_matched_iff :
    (s.register who peer supply).outcome = .matched m e ↔
      (who.uid ≠ [] ∧ peer ≠ []) ∧ supply.matchId = m ∧
        ∃ target, (s.sight ⟨who, supply.now⟩).waiting.get? peer = some target ∧
          target.endpoint = e := by
  by_cases missing : who.uid = [] ∨ peer = []
  · rw [register_of_missing supply missing]
    simp [← not_or, missing]
  · have named : who.uid ≠ [] ∧ peer ≠ [] := not_or.mp missing
    cases found : (s.sight ⟨who, supply.now⟩).waiting.get? peer with
    | none => simp [register_of_absent named found]
    | some target => simp [register_of_found named found, named]

/-- After a run, the counterpart of a match is the peer that was asked for. -/
theorem uid_of_matched
    (h : (((empty timeout).run cs).register who peer supply).outcome = .matched m e) :
    e.uid = peer := by
  obtain ⟨named, -, target, found, rfl⟩ := register_matched_iff.mp h
  have hw := (recordsLatest_run timeout cs).1
  exact ((recordsLatest_sight hw (admission?_register supply named)).lastEndpoint? found).1

/-- Who asks for itself is matched with itself, whatever the tables hold: it waits by the time it is
    looked for. -/
theorem register_self (s : Store) (who : Endpoint) (supply : Supply) (named : who.uid ≠ []) :
    (s.register who who.uid supply).outcome = .matched supply.matchId who ∧
      Effect.deliveries (s.register who who.uid supply).effects =
        [(.introduction who supply.matchId, who), (.introduction who supply.matchId, who)] := by
  have found : (s.sight ⟨who, supply.now⟩).waiting.get? who.uid = some ⟨who, supply.now⟩ := by
    rw [sight_waiting, if_pos rfl]
  rw [register_of_found ⟨named, named⟩ found]
  exact ⟨rfl, rfl⟩

/-! ## The identities that a match binds -/

/-- The identities that are bound to an id. -/
def boundTo (s : Store) (m : Text) : Set Text := {u | s.matchIdOf? u = some m}

/-- A match under an id that nobody had binds its two parties to it and nobody else. -/
theorem boundTo_of_matched (hunbound : s.Unbound m)
    (h : (s.register who peer supply).outcome = .matched m e) :
    (s.register who peer supply).store.boundTo m = {who.uid, peer} := by
  obtain ⟨named, rfl, target, found, -⟩ := register_matched_iff.mp h
  ext u
  have hbinding : (s.register who peer supply).store.matchIdOf? u =
      if who.uid = u ∨ peer = u then some supply.matchId else s.matchIdOf? u := by
    rw [register_of_found named found, matchIdOf?, join_bindings, sight_bindings, matchIdOf?]
  rw [boundTo, Set.mem_ofPred_eq, hbinding]
  split
  · next hu => exact iff_of_true rfl (by simpa [eq_comm] using hu)
  · next hu => exact iff_of_false (hunbound u) (by simpa [eq_comm] using hu)

/-- Two different identities are two, and one is not. -/
theorem ncard_pair_eq_two_iff {α : Type} {a b : α} : ({a, b} : Set α).ncard = 2 ↔ b ≠ a := by
  constructor
  · rintro h rfl
    simp at h
  · intro h
    exact Set.ncard_pair h.symm

/-! ## Introductions -/

/-- A message does not introduce its recipient to itself. -/
def IntroducesOther (msg : Payload × Endpoint) : Prop :=
  ∀ p k, msg.1 = .introduction p k → p.uid ≠ msg.2.uid

/-- An operation on tables that are up to date introduces somebody to itself exactly if it is a
    registration that asks for its own registrant. -/
theorem introducesOther_deed_iff (hw : RecordsLatest cs s.waiting) (c : Command) :
    (∀ msg ∈ (s.deed c).sent, IntroducesOther msg) ↔
      ∀ a, c.admission? = some a → a.peer ≠ a.who.uid := by
  have t := apply_transition s c
  rw [deed]
  generalize s.apply c = r at t
  cases t with
  | @rejected who peer supply missing =>
    simp [Deed.sent, Effect.deliveries, admission?_register_of_missing supply missing]
  | @waits who peer supply named absent =>
    -- nobody is introduced, and a registrant that asks for itself does not wait
    have hne : peer ≠ who.uid := by
      rintro rfl
      rw [sight_waiting, if_pos rfl] at absent
      exact Option.some_ne_none _ absent
    simp [Deed.sent, Effect.deliveries, admission?_register supply named, hne]
  | @matched who peer supply target named found =>
    have hc := admission?_register supply named
    obtain rfl := ((recordsLatest_sight hw hc).lastEndpoint? found).1
    simp [Deed.sent, Effect.deliveries, IntroducesOther, hc, eq_comm]
  | @notified uid peer k survivor named fresh active =>
    simp [Deed.sent, Effect.deliveries, IntroducesOther, Command.admission?]
  | swept =>
    rw [Deed.sent, Effect.deliveries_logs]
    simp [Command.admission?]
  | killRejected | stale | unpaired | timeoutSet =>
    simp [Deed.sent, Effect.deliveries, Command.admission?]

/-- Nobody is introduced to itself in a run exactly if nobody asks for itself in it. -/
theorem introducesOther_run_iff (timeout : Float) (cs : List Command) :
    (∀ msg ∈ messages ((empty timeout).history cs), IntroducesOther msg) ↔
      ∀ a ∈ cs.filterMap Command.admission?, a.peer ≠ a.who.uid := by
  induction cs using List.reverseRecOn with
  | nil => simp [messages]
  | append_singleton cs c ih =>
    have hstep := introducesOther_deed_iff (recordsLatest_run timeout cs).1 c
    rw [history_append_singleton, messages, List.flatMap_append, List.flatMap_singleton,
      List.filterMap_append, List.forall_mem_append, List.forall_mem_append, ← messages, ih, hstep]
    refine and_congr_right fun _ => ?_
    cases hc : c.admission? <;> simp [hc]

/-! ## Partners that differ -/

/-- **A match joins two identities unless one asked for itself.**  After any run, a registration
    that is matched has a counterpart other than its registrant exactly if the peer that it named is
    another; if its id was not issued before, then right after it the id is bound to the registrant
    and that peer and nobody else, which are two under the same condition.  And nobody is sent an
    endpoint of its own as that of its peer in a run exactly if no accepted registration of the run
    names its own registrant. -/
theorem partners_differ_iff (timeout : Float) (cs : List Command) :
    (∀ who peer supply m e,
      (((empty timeout).run cs).register who peer supply).outcome = .matched m e →
      (e.uid ≠ who.uid ↔ peer ≠ who.uid) ∧
      (Unissued m ((empty timeout).history cs) →
        (((empty timeout).run cs).register who peer supply).store.boundTo m = {who.uid, peer} ∧
        (((((empty timeout).run cs).register who peer supply).store.boundTo m).ncard = 2 ↔
          peer ≠ who.uid))) ∧
    ((∀ p k recipient,
        (.introduction p k, recipient) ∈ messages ((empty timeout).history cs) →
        p.uid ≠ recipient.uid) ↔
      ∀ a ∈ cs.filterMap Command.admission?, a.peer ≠ a.who.uid) := by
  constructor
  · intro who peer supply m e h
    refine ⟨by rw [uid_of_matched h], fun hm => ?_⟩
    have hunbound : ((empty timeout).run cs).Unbound m := unbound_run (fun _ => nofun) hm
    rw [boundTo_of_matched hunbound h]
    exact ⟨rfl, ncard_pair_eq_two_iff⟩
  · rw [← introducesOther_run_iff timeout cs]
    constructor
    · rintro h ⟨payload, recipient⟩ hmsg p k rfl
      exact h p k recipient hmsg
    · intro h p k recipient hmsg
      exact h _ hmsg p k rfl

/-- In the run `rematched` two identities meet each time, and everybody is told of another. -/
theorem partners_differ_rematched :
    (((empty 30).run (rematched.take 3)).register ⟨"c", "10.0.0.3", 1003⟩ "b"
        (.of 1000 1000 1000 "match-2")).store.boundTo "match-2" = {("c" : Text), ("b" : Text)} ∧
      ∀ p k recipient, (.introduction p k, recipient) ∈ messages ((empty 30).history rematched) →
        p.uid ≠ recipient.uid := by
  have hmatched : (((empty 30).run (rematched.take 3)).register ⟨"c", "10.0.0.3", 1003⟩ "b"
      (.of 1000 1000 1000 "match-2")).outcome = .matched "match-2" ⟨"b", "10.0.0.2", 1002⟩ := by
    decide
  have hunissued : Unissued "match-2" ((empty 30).history (rematched.take 3)) := by
    unfold Unissued
    decide
  exact ⟨(((partners_differ_iff 30 (rematched.take 3)).1 _ _ _ _ _ hmatched).2 hunissued).1,
    (partners_differ_iff 30 rematched).2.mpr (by decide)⟩

/-- On an empty store, one that asks for itself is told that it is matched with itself. -/
theorem lone_registrant_meets_itself :
    ¬∀ who peer supply m e, ((empty 30).register who peer supply).outcome = .matched m e →
      e.uid ≠ who.uid := by
  intro h
  have hmatched := (register_self (empty 30) ⟨"a", "10.0.0.1", 1001⟩
    (.of 1000 1000 1000 "match-1") (by decide)).1
  exact h _ _ _ _ _ hmatched rfl

/-! ## Peers that wait -/

/-- A registration that asks for another identity is matched exactly if that identity waits. -/
theorem register_other_matched_iff (named : who.uid ≠ [] ∧ peer ≠ []) (hne : peer ≠ who.uid) :
    (s.register who peer supply).outcome = .matched m e ↔
      supply.matchId = m ∧ ∃ target, s.waiting.get? peer = some target ∧ target.endpoint = e := by
  rw [register_matched_iff, sight_waiting, if_neg hne.symm]
  exact and_iff_right named

/-- A match sends the counterpart to the registrant and the registrant to the counterpart. -/
theorem deliveries_of_matched (h : (s.register who peer supply).outcome = .matched m e) :
    Effect.deliveries (s.register who peer supply).effects =
      [(.introduction e m, who), (.introduction who m, e)] := by
  obtain ⟨named, rfl, target, found, rfl⟩ := register_matched_iff.mp h
  rw [register_of_found named found]
  rfl

/-- A match takes its two parties out of the waiting table and nobody else. -/
theorem waiting_of_matched (h : (s.register who peer supply).outcome = .matched m e) (u : Text) :
    (s.register who peer supply).store.waiting.get? u =
      if who.uid = u ∨ peer = u then none else s.waiting.get? u := by
  obtain ⟨named, -, target, found, -⟩ := register_matched_iff.mp h
  rw [register_of_found named found, join_waiting, sight_waiting]
  split
  · rfl
  · next hu => exact if_neg (not_or.mp hu).1

/-- **A match is made with a peer that still waits, for whomever.**  After any run, a registration
    that names both identities, and not the same twice, is matched exactly if the latest accepted
    registration of its peer ended in waiting and since then nobody has asked for the peer and no
    sweep has found that registration too old.  If it is, the counterpart is the peer at its latest
    endpoint, the two and nobody else are sent the endpoint of each other, and the two and nobody
    else leave the waiting table. -/
theorem matched_iff_still_waits (timeout : Float) (cs : List Command) (who : Endpoint) (peer : Text)
    (huid : who.uid ≠ []) (hpeer : peer ≠ []) (hne : peer ≠ who.uid) (supply : Supply) :
    ((∃ m e, (((empty timeout).run cs).register who peer supply).outcome = .matched m e) ↔
      StillWaits ((empty timeout).history cs) peer) ∧
    ∀ m e, (((empty timeout).run cs).register who peer supply).outcome = .matched m e →
      e.uid = peer ∧ lastEndpoint? cs peer = some e ∧
      Effect.deliveries (((empty timeout).run cs).register who peer supply).effects =
        [(.introduction e m, who), (.introduction who m, e)] ∧
      ∀ u, (((empty timeout).run cs).register who peer supply).store.waiting.get? u =
        if who.uid = u ∨ peer = u then none else ((empty timeout).run cs).waiting.get? u := by
  constructor
  · rw [← exists_waiting_iff]
    constructor
    · rintro ⟨m, e, h⟩
      obtain ⟨-, target, found, -⟩ := (register_other_matched_iff ⟨huid, hpeer⟩ hne).mp h
      exact ⟨target, found⟩
    · rintro ⟨target, found⟩
      exact ⟨_, _, (register_other_matched_iff ⟨huid, hpeer⟩ hne).mpr ⟨rfl, target, found, rfl⟩⟩
  · intro m e h
    obtain ⟨-, target, found, rfl⟩ := (register_other_matched_iff ⟨huid, hpeer⟩ hne).mp h
    obtain ⟨rfl, hlast⟩ := (recordsLatest_run timeout cs).1.lastEndpoint? found
    exact ⟨rfl, hlast, deliveries_of_matched h, waiting_of_matched h⟩

/-- An identity for which nobody asks in the first registration of `rematched`, where "a" asks for
    "b". -/
def stranger : Endpoint := ⟨"c", "10.0.0.3", 1003⟩

/-- When the stranger asks for "a", the two are matched and told of each other. -/
theorem stranger_meets_waiting :
    lastAsked? (rematched.take 1) "a" = some "b" ∧
      StillWaits ((empty 30).history (rematched.take 1)) "a" ∧
      Effect.deliveries (((empty 30).run (rematched.take 1)).register stranger "a"
          (.of 1000 1000 1000 "match-1")).effects =
        [ (.introduction ⟨"a", "10.0.0.1", 1001⟩ "match-1", stranger),
          (.introduction stranger "match-1", ⟨"a", "10.0.0.1", 1001⟩) ] := by
  have hmatched : (((empty 30).run (rematched.take 1)).register stranger "a"
      (.of 1000 1000 1000 "match-1")).outcome = .matched "match-1" ⟨"a", "10.0.0.1", 1001⟩ := by
    decide
  obtain ⟨hiff, htold⟩ := matched_iff_still_waits 30 (rematched.take 1) stranger "a" (by decide)
    (by decide) (by decide) (.of 1000 1000 1000 "match-1")
  obtain ⟨-, -, hsent, -⟩ := htold _ _ hmatched
  exact ⟨by decide, hiff.mp ⟨_, _, hmatched⟩, hsent⟩

/-- So a match need not be between identities that asked for each other. -/
theorem matched_without_being_asked :
    ¬∀ cs who peer supply m e,
      (((empty 30).run cs).register who peer supply).outcome = .matched m e →
      lastAsked? cs peer = some who.uid := by
  intro h
  have hmatched : (((empty 30).run (rematched.take 1)).register stranger "a"
      (.of 1000 1000 1000 "match-1")).outcome = .matched "match-1" ⟨"a", "10.0.0.1", 1001⟩ := by
    decide
  exact absurd (h _ _ _ _ _ _ hmatched) (by decide)

end Rendezvous.Store
