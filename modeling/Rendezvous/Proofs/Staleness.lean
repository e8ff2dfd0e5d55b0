import Rendezvous.Proofs.History

/-!
# Kills about a match that is over

A kill can be overtaken: when it arrives, the peer it names may already be in a newer match.  The
match id that a kill carries is there to tell.  It is compared with the binding of the killer, and
with the binding of the peer only if the killer has none.  So a killer that is still bound to its
old match is believed, even though its partner has left that match for another.

* `old_partner_kills_newer_match`: a run in which just that happens;
* `kill_spares_iff`: it is the only way in which a kill about another match reaches the peer, and
  then it does.
-/

namespace Rendezvous.Store

variable {s : Store} {uid peer m n : Text}

/-! ## The current id -/

/-- The id of a kill is that of the killer's match, if the killer is bound to one. -/
theorem currentId_of_bound (hm : m ≠ []) (h : s.matchIdOf? uid = some m) :
    s.currentId uid peer = m := by
  have h' : s.bindings.get? uid = some m := h
  simp [currentId, h', hm]

/-- If the killer is bound to none, or to the empty id, it is that of the peer's match. -/
theorem currentId_of_unbound (hown : ¬∃ k, k ≠ [] ∧ s.matchIdOf? uid = some k)
    (hpeer : s.matchIdOf? peer = some n) : s.currentId uid peer = n := by
  have hpeer' : s.bindings.get? peer = some n := hpeer
  have hempty : (s.bindings.get? uid).getD [] = [] := by
    cases h : s.bindings.get? uid with
    | none => rfl
    | some k =>
      by_contra hk
      exact hown ⟨k, hk, h⟩
  simp [currentId, hempty, hpeer']

/-- A kill about `m` is stale if the peer is bound to something else, unless the killer is bound
    to `m`. -/
theorem isStale_iff (hm : m ≠ []) (hn : n ≠ []) (hne : n ≠ m)
    (hpeer : s.matchIdOf? peer = some n) :
    s.IsStale uid peer m ↔ s.matchIdOf? uid ≠ some m := by
  constructor
  · intro hstale huid
    exact hstale.2.2 (currentId_of_bound hm huid).symm
  · intro huid
    refine ⟨hm, ?_⟩
    by_cases hown : ∃ k, k ≠ [] ∧ s.matchIdOf? uid = some k
    · -- the current id is the killer's own, which is not `m`
      obtain ⟨k, hk, hown⟩ := hown
      rw [currentId_of_bound hk hown]
      exact ⟨hk, fun e => huid (e ▸ hown)⟩
    · rw [currentId_of_unbound hown hpeer]
      exact ⟨hn, hne.symm⟩

/-! ## What a kill spares -/

/-- A kill spares an identity if it sends nothing and leaves the identity active, or inactive, and
    bound as it was. -/
def Spares (s : Store) (r : Step Teardown) (u : Text) : Prop :=
  Effect.deliveries r.effects = [] ∧
    r.store.active.get? u = s.active.get? u ∧ r.store.matchIdOf? u = s.matchIdOf? u

/-- A kill is believed and reaches its peer: the peer is told at its endpoint, and is neither active
    nor bound any more. -/
structure Reaches (r : Step Teardown) (uid peer m : Text) (endpoint : Endpoint) : Prop where
  believed : r.outcome = .notified
  told : Effect.deliveries r.effects = [(.teardown uid m, endpoint)]
  inactive : r.store.isActive peer = false
  unbound : r.store.matchIdOf? peer = none

/-- **A kill about an old match can hurt a newer one**: after `rematched`, `b` is bound to the match
    with `c`; a kill from `a` about the match before tells `b` that `a` has left, and takes `b` out
    of the match with `c`. -/
theorem old_partner_kills_newer_match :
    ¬∀ (cs : List Command) (uid peer m n : Text),
      uid ≠ [] → peer ≠ [] → m ≠ [] → n ≠ [] → n ≠ m →
      ((empty 30).run cs).matchIdOf? peer = some n →
      Spares ((empty 30).run cs) (((empty 30).run cs).kill uid peer m) peer := by
  intro h
  have hspared := h rematched "a" "b" "match-1" "match-2" (by decide) (by decide) (by decide)
    (by decide) (by decide) (by decide)
  have hsent : Effect.deliveries (((empty 30).run rematched).kill "a" "b" "match-1").effects =
      [(.teardown "a" "match-1", ⟨"b", "10.0.0.2", 1002⟩)] := by decide
  have hnone := hspared.1
  rw [hsent] at hnone
  nomatch hnone

/-- A stale kill spares everybody. -/
theorem spares_of_stale (named : uid ≠ [] ∧ peer ≠ []) (stale : s.IsStale uid peer m) (u : Text) :
    Spares s (s.kill uid peer m) u := by
  rw [kill_of_stale named stale]
  exact ⟨rfl, rfl, rfl⟩

/-- A kill of an inactive peer spares the peer. -/
theorem spares_of_inactive (named : uid ≠ [] ∧ peer ≠ []) (fresh : ¬s.IsStale uid peer m)
    (inactive : s.active.get? peer = none) : Spares s (s.kill uid peer m) peer := by
  rw [kill_of_inactive named fresh inactive]
  refine ⟨rfl, ?_, rfl⟩
  rw [deactivate_active, if_pos (Or.inr rfl), inactive]

/-- A kill about the match of the killer reaches a peer that is active, whatever the peer is bound
    to. -/
theorem reaches_of_active {survivor : Sighting} (named : uid ≠ [] ∧ peer ≠ []) (hm : m ≠ [])
    (own : s.matchIdOf? uid = some m) (active : s.active.get? peer = some survivor) :
    Reaches (s.kill uid peer m) uid peer m survivor.endpoint := by
  have hcurrent : s.currentId uid peer = m := currentId_of_bound hm own
  have hfresh : ¬s.IsStale uid peer m := by
    rintro ⟨-, -, hother⟩
    exact hother hcurrent.symm
  rw [kill_of_active named hfresh active, hcurrent]
  refine ⟨rfl, rfl, ?_, ?_⟩
  · show ((s.deactivate uid peer).unbind uid peer).active.contains peer = false
    rw [unbind_active, Table.contains, deactivate_active, if_pos (Or.inr rfl)]
    rfl
  · show ((s.deactivate uid peer).unbind uid peer).bindings.get? peer = none
    rw [unbind_bindings, if_pos (Or.inr rfl)]

/-- What a kill reaches it does not spare. -/
theorem Reaches.not_spares {r : Step Teardown} {endpoint : Endpoint}
    (h : Reaches r uid peer m endpoint) (u : Text) : ¬Spares s r u := by
  rintro ⟨hsent, -⟩
  rw [h.told] at hsent
  nomatch hsent

/-- **When a kill about another match spares the peer.**  Let the peer be bound to another match
    than the one the kill is about.  Then the kill sends nothing and leaves the peer's active entry
    and binding as they were, unless the killer is itself still bound to the match of the kill and
    the peer is active.  In that case the kill is believed, and the peer is told and loses its entry
    and its binding.  If the killer is not bound to that match, the kill is stale and changes nothing
    at all. -/
theorem kill_spares_iff (s : Store) {uid peer m n : Text} (huid : uid ≠ []) (hpeer : peer ≠ [])
    (hm : m ≠ []) (hn : n ≠ []) (hne : n ≠ m) (hbound : s.matchIdOf? peer = some n) :
    (Spares s (s.kill uid peer m) peer ↔ ¬(s.matchIdOf? uid = some m ∧ s.isActive peer)) ∧
    (∀ survivor, s.matchIdOf? uid = some m → s.active.get? peer = some survivor →
      Reaches (s.kill uid peer m) uid peer m survivor.endpoint) ∧
    (s.matchIdOf? uid ≠ some m →
      (s.kill uid peer m).outcome = .stale ∧ (s.kill uid peer m).store = s) := by
  have named : uid ≠ [] ∧ peer ≠ [] := ⟨huid, hpeer⟩
  have hstale : s.IsStale uid peer m ↔ s.matchIdOf? uid ≠ some m := isStale_iff hm hn hne hbound
  refine ⟨?spares, fun survivor own active => reaches_of_active named hm own active, ?stale⟩
  case spares =>
    by_cases stale : s.IsStale uid peer m
    · exact ⟨fun _ h => hstale.mp stale h.1, fun _ => spares_of_stale named stale peer⟩
    · -- believed, which takes a killer that is still bound to `m`
      have hown : s.matchIdOf? uid = some m := by
        by_contra h
        exact stale (hstale.mpr h)
      cases active : s.active.get? peer with
      | none =>
        have hinactive : ¬s.isActive peer = true := by
          rw [isActive, Table.contains, active]
          exact Bool.false_ne_true
        exact ⟨fun _ h => hinactive h.2, fun _ => spares_of_inactive named stale active⟩
      | some survivor =>
        have hactive : s.isActive peer = true := by
          rw [isActive, Table.contains, active]
          rfl
        have hreaches := reaches_of_active named hm hown active
        exact ⟨fun h => absurd h (hreaches.not_spares peer), fun h => absurd ⟨hown, hactive⟩ h⟩
  case stale =>
    intro h
    rw [kill_of_stale named (hstale.mpr h)]
    exact ⟨rfl, rfl⟩

/-- After `rematched`, a kill about the old match spares `b` if it comes from a stranger, and reaches
    `b` if it comes from the old partner. -/
theorem stranger_spares_rematched :
    ((empty 30).run rematched).matchIdOf? "b" = some "match-2" ∧
      Spares ((empty 30).run rematched)
        (((empty 30).run rematched).kill "d" "b" "match-1") "b" ∧
      ∃ survivor, ((empty 30).run rematched).active.get? "b" = some survivor ∧
        Reaches (((empty 30).run rematched).kill "a" "b" "match-1") "a" "b" "match-1"
          survivor.endpoint := by
  have hother : ("match-2" : Text) ≠ [] := by decide
  have hactive : (((empty 30).run rematched).active.get? "b").isSome := by decide
  obtain ⟨survivor, hsurvivor⟩ := Option.isSome_iff_exists.mp hactive
  refine ⟨by decide, ?_, survivor, hsurvivor, ?_⟩
  · exact (kill_spares_iff _ (by decide) (by decide) (by decide) hother (by decide)
      (by decide)).1.mpr (by decide)
  · exact (kill_spares_iff _ (by decide) (by decide) (by decide) hother (by decide)
      (by decide)).2.1 survivor (by decide) hsurvivor

end Rendezvous.Store
