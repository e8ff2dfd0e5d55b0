import Rendezvous.Proofs.Notifications
import Rendezvous.Proofs.Survivor

/-!
# Kills that come again

Datagrams are lost, so a client may ask for a kill more than once, its peer may ask for the same, and
copies may come late.  Once the first of them has been settled, the others must do nothing.

A kill that was more than rejected or stale leaves neither of its identities active.  And a kill
between two identities of which neither is active does nothing, whatever they are bound to: it is
stale, or it finds nobody to tell and nobody to take out (`idle_of_inactive`).  What makes an
identity active is its own registration, or that of another who asks for it and is matched with it,
so without an accepted registration that names the two they stay inactive (`inactive_run`).

* `settled_kill_stays_settled`: a kill that is repeated, and copies of it from either side.
-/

namespace Rendezvous

/-- A kill found nobody to tell, or told its peer. -/
def Teardown.IsSettled (how : Teardown) : Prop := how = .unpaired ∨ how = .notified

namespace Store

variable {s : Store} {u v w m : Text} {later : List Command}

/-! ## Kills that do nothing -/

/-- A kill changes no table and sends nothing. -/
structure Idle (s : Store) (r : Step Teardown) : Prop where
  unchanged : r.store = s
  silent : Effect.deliveries r.effects = []

theorem deactivate_of_inactive (hu : s.active.get? u = none) (hv : s.active.get? v = none) :
    s.deactivate u v = s := by
  rw [deactivate, Table.erase_of_get?_eq_none hu, Table.erase_of_get?_eq_none hv]

/-- A kill between two identities that are not active does nothing. -/
theorem idle_of_inactive (hu : s.active.get? u = none) (hv : s.active.get? v = none) (k : Text) :
    Idle s (s.kill u v k) := by
  by_cases missing : u = [] ∨ v = []
  · rw [kill_of_missing k missing]
    exact ⟨rfl, rfl⟩
  · have named : u ≠ [] ∧ v ≠ [] := not_or.mp missing
    by_cases stale : s.IsStale u v k
    · rw [kill_of_stale named stale]
      exact ⟨rfl, rfl⟩
    · rw [kill_of_inactive named stale hv]
      exact ⟨deactivate_of_inactive hu hv, rfl⟩

/-! ## Kills that are settled -/

/-- A kill does nothing, or it is settled and has taken both of its identities out. -/
theorem kill_idle_or_settled (s : Store) (u v m : Text) :
    (¬(s.kill u v m).outcome.IsSettled ∧ Idle s (s.kill u v m)) ∨
      ((s.kill u v m).outcome.IsSettled ∧
        (s.kill u v m).store.active = (s.deactivate u v).active) := by
  by_cases missing : u = [] ∨ v = []
  · rw [kill_of_missing m missing]
    exact .inl ⟨by simp [Teardown.IsSettled], rfl, rfl⟩
  · have named : u ≠ [] ∧ v ≠ [] := not_or.mp missing
    by_cases stale : s.IsStale u v m
    · rw [kill_of_stale named stale]
      exact .inl ⟨by simp [Teardown.IsSettled], rfl, rfl⟩
    · cases hactive : s.active.get? v with
      | none =>
        rw [kill_of_inactive named stale hactive]
        exact .inr ⟨.inl rfl, rfl⟩
      | some survivor =>
        rw [kill_of_active named stale hactive]
        exact .inr ⟨.inr rfl, rfl⟩

/-- After a kill that is settled neither of its identities is active. -/
theorem inactive_of_isSettled (h : (s.kill u v m).outcome.IsSettled) :
    (s.kill u v m).store.active.get? u = none ∧ (s.kill u v m).store.active.get? v = none := by
  rcases kill_idle_or_settled s u v m with ⟨hopen, -⟩ | ⟨-, hactive⟩
  · exact absurd h hopen
  · rw [hactive, deactivate_active, deactivate_active]
    exact ⟨if_pos (.inl rfl), if_pos (.inr rfl)⟩

/-! ## Identities that stay inactive -/

/-- A registration names an identity, as its registrant or as the peer that is asked for. -/
def Admission.Names (a : Admission) (w : Text) : Prop := a.who.uid = w ∨ a.peer = w

/-- What makes an identity active is an accepted registration that names it. -/
theorem names_of_activates {c : Command} (h : (s.deed c).activates w) :
    ∃ a, c.admission? = some a ∧ a.Names w := by
  have hnamed : (s.deed c).registers w ∨ (s.deed c).seeks w := by
    rcases (Bool.or_eq_true _ _).mp h with hregisters | htargets
    · exact .inl hregisters
    · exact .inr (seeks_of_targets htargets)
  rcases hnamed with h | h
  · obtain ⟨a, ha, huid⟩ := (Option.any_eq_true _ _).mp h
    exact ⟨a, ha, .inl (of_decide_eq_true huid)⟩
  · obtain ⟨a, ha, hpeer⟩ := (Option.any_eq_true _ _).mp h
    exact ⟨a, ha, .inr (of_decide_eq_true hpeer)⟩

/-- Without such a registration an identity that is not active stays so.  This is the balance of its
    activations: there is none to earn an entry from. -/
theorem inactive_run (hw : s.active.get? w = none)
    (hquiet : ∀ a ∈ later.filterMap Command.admission?, ¬a.Names w) :
    (s.run later).active.get? w = none := by
  have hearned : (s.history later).countP (Deed.activates w) = 0 := by
    refine List.countP_eq_zero.mpr fun d hd hactivates => ?_
    obtain ⟨s', c, hc, rfl⟩ := exists_deed_of_mem_history hd
    obtain ⟨a, ha, hnames⟩ := names_of_activates hactivates
    exact hquiet a (List.mem_filterMap.mpr ⟨c, hc, ha⟩) hnames
  have hbefore : s.isActive w = false := by
    rw [isActive, Table.contains, hw]
    rfl
  have hbalance := notifications_le s later w
  rw [hearned, hbefore] at hbalance
  have hafter : ((s.run later).isActive w).toNat = 0 :=
    Nat.eq_zero_of_le_zero (Nat.le_trans (Nat.le_add_left _ _) hbalance)
  rw [Bool.toNat_eq_zero] at hafter
  exact Option.isNone_iff_eq_none.mp (Option.isSome_eq_false_iff.mp hafter)

/-! ## Copies of a kill -/

/-- **A settled kill stays settled.**  On every store, a kill that is repeated at once changes no
    table and sends nothing.  And after a kill that found nobody to tell, or told its peer, whatever
    is done next without an accepted registration that names one of its identities, a kill between
    the two, from either of them and about any match, changes no table and sends nothing. -/
theorem settled_kill_stays_settled (s : Store) (u v m : Text) :
    Idle (s.kill u v m).store ((s.kill u v m).store.kill u v m) ∧
    ((s.kill u v m).outcome = .unpaired ∨ (s.kill u v m).outcome = .notified →
      ∀ later : List Command,
        (∀ a ∈ later.filterMap Command.admission?, ¬a.Names u ∧ ¬a.Names v) →
        ∀ k, Idle ((s.kill u v m).store.run later) (((s.kill u v m).store.run later).kill u v k) ∧
          Idle ((s.kill u v m).store.run later) (((s.kill u v m).store.run later).kill v u k)) := by
  constructor
  · rcases kill_idle_or_settled s u v m with ⟨-, hidle⟩ | ⟨hsettled, -⟩
    · rw [hidle.unchanged]
      exact hidle
    · obtain ⟨hu, hv⟩ := inactive_of_isSettled hsettled
      exact idle_of_inactive hu hv m
  · intro hsettled later hquiet k
    obtain ⟨hu, hv⟩ := inactive_of_isSettled hsettled
    have hu := inactive_run hu fun a ha => (hquiet a ha).1
    have hv := inactive_run hv fun a ha => (hquiet a ha).2
    exact ⟨idle_of_inactive hu hv k, idle_of_inactive hv hu k⟩

/-- What others do after two partners have parted. -/
def elsewhere : List Command :=
  [ .register ⟨"c", "10.0.0.3", 1003⟩ "d" (.of 1010 1010 1010 "match-2"),
    .kill "c" "b" "match-1",
    .sweep 1031,
    .register ⟨"d", "10.0.0.4", 1004⟩ "c" (.of 1032 1032 1032 "match-2") ]

/-- The first two of `rematched` are partners.  When one of them has left and others have come, a
    kill from the peer, with the id of their match, does nothing. -/
theorem idle_after_elsewhere :
    let parting := ((empty 30).run (rematched.take 2)).kill "a" "b" []
    parting.outcome = .notified ∧
      Idle (parting.store.run elsewhere) ((parting.store.run elsewhere).kill "b" "a" "match-1") := by
  have hnotified : (((empty 30).run (rematched.take 2)).kill "a" "b" []).outcome = .notified := by
    decide
  have hquiet : ∀ a ∈ elsewhere.filterMap Command.admission?, ¬a.Names "a" ∧ ¬a.Names "b" := by
    unfold Admission.Names
    decide
  exact ⟨hnotified, ((settled_kill_stays_settled _ "a" "b" []).2 (.inr hnotified) elsewhere hquiet
    "match-1").2⟩

end Store

end Rendezvous
