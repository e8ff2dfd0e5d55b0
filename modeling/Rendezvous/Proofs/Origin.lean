import Rendezvous.Proofs.History

/-!
# Where entries and messages come from

Entries of the tables are written at three places: a registration writes one into each table, and
a match writes the waiting entry of the target into the active table once more.  So an entry that
is there after an operation is either the one that the operation has just admitted, or an old one
of an identity that was not admitted now.  For an entry that waits there is more to say: the peer
for which it has just asked does not wait.

A message goes to an identity that the operation names, at an endpoint that stands in a table.
-/

namespace Rendezvous.Store

variable {s : Store} {c : Command} {r : Step Outcome} {u : Text} {seen : Sighting}

/-- A registration with both identities is an admission. -/
theorem admission?_register {who : Endpoint} {peer : Text} (supply : Supply)
    (named : who.uid ≠ [] ∧ peer ≠ []) :
    (Command.register who peer supply).admission? = some ⟨who, peer, supply.now⟩ :=
  if_neg (not_or.mpr named)

/-- A registration that lacks an identity is none. -/
theorem admission?_register_of_missing {who : Endpoint} {peer : Text} (supply : Supply)
    (missing : who.uid = [] ∨ peer = []) :
    (Command.register who peer supply).admission? = none :=
  if_pos missing

/-- An operation that is no admission admits nobody... -/
theorem not_admits_of_none (h : c.admission? = none) :
    ∀ a, c.admission? = some a → a.who.uid ≠ u := by
  intro a ha
  rw [h] at ha
  nomatch ha

/-- ... and an admission admits nobody but its registrant. -/
theorem not_admits_of_ne {b : Admission} (h : c.admission? = some b) (hb : b.who.uid ≠ u) :
    ∀ a, c.admission? = some a → a.who.uid ≠ u := by
  intro a ha
  rw [h] at ha
  exact Option.some.inj ha ▸ hb

/-! ## Entries -/

/-- A waiting entry is new, and then the peer it asks for does not wait, or it is old. -/
theorem Transition.waiting_origin (t : Transition s c r)
    (h : r.store.waiting.get? u = some seen) :
    (∃ a, c.admission? = some a ∧ a.who.uid = u ∧ a.sighting = seen ∧
        r.store.waiting.get? a.peer = none) ∨
      ((∀ a, c.admission? = some a → a.who.uid ≠ u) ∧ s.waiting.get? u = some seen) := by
  cases t with
  | @rejected who peer supply missing =>
    exact Or.inr ⟨not_admits_of_none (admission?_register_of_missing supply missing), h⟩
  | @waits who peer supply named absent =>
    rw [sight_waiting] at h
    by_cases hu : who.uid = u
    · rw [if_pos hu] at h
      exact Or.inl ⟨_, admission?_register supply named, hu, Option.some.inj h, absent⟩
    · rw [if_neg hu] at h
      exact Or.inr ⟨not_admits_of_ne (admission?_register supply named) hu, h⟩
  | @matched who peer supply target named found =>
    -- both parties have left the table, so what still waits is a third identity
    rw [join_waiting] at h
    by_cases hu : who.uid = u ∨ peer = u
    · rw [if_pos hu] at h
      nomatch h
    · have hne : who.uid ≠ u := (not_or.mp hu).1
      rw [if_neg hu, sight_waiting, if_neg hne] at h
      exact Or.inr ⟨not_admits_of_ne (admission?_register supply named) hne, h⟩
  | swept => exact Or.inr ⟨not_admits_of_none rfl, get?_of_unexpired h⟩
  | killRejected | stale | unpaired | notified | timeoutSet =>
    exact Or.inr ⟨not_admits_of_none rfl, h⟩

/-- An active entry is new, or it is an old entry of one of the two tables. -/
theorem Transition.active_origin (t : Transition s c r)
    (h : r.store.active.get? u = some seen) :
    (∃ a, c.admission? = some a ∧ a.who.uid = u ∧ a.sighting = seen) ∨
      ((∀ a, c.admission? = some a → a.who.uid ≠ u) ∧
        (s.active.get? u = some seen ∨ s.waiting.get? u = some seen)) := by
  cases t with
  | @rejected who peer supply missing =>
    exact Or.inr ⟨not_admits_of_none (admission?_register_of_missing supply missing), Or.inl h⟩
  | @waits who peer supply named absent =>
    rw [sight_active] at h
    by_cases hu : who.uid = u
    · rw [if_pos hu] at h
      exact Or.inl ⟨_, admission?_register supply named, hu, Option.some.inj h⟩
    · rw [if_neg hu] at h
      exact Or.inr ⟨not_admits_of_ne (admission?_register supply named) hu, Or.inl h⟩
  | @matched who peer supply target named found =>
    have hc := admission?_register supply named
    rw [sight_waiting] at found
    rw [join_active, sight_active] at h
    by_cases hu : who.uid = u
    · -- the registrant, which may be its own target
      subst hu
      refine Or.inl ⟨_, hc, rfl, ?_⟩
      by_cases hp : peer = who.uid
      · rw [if_pos hp] at h
        rw [if_pos hp.symm] at found
        exact (Option.some.inj found).trans (Option.some.inj h)
      · rw [if_neg hp, if_pos rfl] at h
        exact Option.some.inj h
    · refine Or.inr ⟨not_admits_of_ne hc hu, ?_⟩
      by_cases hp : peer = u
      · -- the target, whose waiting entry is restored
        subst hp
        rw [if_pos rfl] at h
        rw [if_neg hu, h] at found
        exact Or.inr found
      · rw [if_neg hp, if_neg hu] at h
        exact Or.inl h
  | unpaired | notified => exact Or.inr ⟨not_admits_of_none rfl, Or.inl (get?_of_deactivate h)⟩
  | swept => exact Or.inr ⟨not_admits_of_none rfl, Or.inl (get?_of_unexpired h)⟩
  | killRejected | stale | timeoutSet => exact Or.inr ⟨not_admits_of_none rfl, Or.inl h⟩

/-! ## Messages -/

/-- The identities to which an operation may send. -/
def Command.addressees : Command → List Text
  | .register who peer _ => [who.uid, peer]
  | .kill _ peer _ => [peer]
  | .sweep _ | .setTimeout _ => []

/-- A message comes from a match, and introduces the two parties to each other, or it tells an
    active peer of a kill. -/
theorem Transition.delivery_origin (t : Transition s c r) {payload : Payload}
    {recipient : Endpoint} (h : (payload, recipient) ∈ Effect.deliveries r.effects) :
    (∃ a target m, c.admission? = some a ∧ c.addressees = [a.who.uid, a.peer] ∧
        (s.sight a.sighting).waiting.get? a.peer = some target ∧
        (payload = .introduction target.endpoint m ∧ recipient = a.who ∨
          payload = .introduction a.who m ∧ recipient = target.endpoint)) ∨
      (∃ uid peer m survivor, c = .kill uid peer m ∧ s.active.get? peer = some survivor ∧
        payload = .teardown uid (s.currentId uid peer) ∧ recipient = survivor.endpoint) := by
  cases t with
  | @matched who peer supply target named found =>
    refine Or.inl ⟨_, target, supply.matchId, admission?_register supply named, rfl, found, ?_⟩
    simpa [Effect.deliveries] using h
  | @notified uid peer m survivor named fresh active =>
    refine Or.inr ⟨uid, peer, m, survivor, rfl, active, ?_⟩
    simpa [Effect.deliveries] using h
  | swept =>
    rw [Effect.deliveries_logs] at h
    cases h
  | rejected | waits | killRejected | stale | unpaired | timeoutSet =>
    simp [Effect.deliveries] at h

end Rendezvous.Store
