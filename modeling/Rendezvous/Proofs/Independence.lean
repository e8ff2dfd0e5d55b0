import Rendezvous.Proofs.Origin
import Mathlib.Data.Set.Basic

/-!
# Groups that do not interfere

All identities share three tables, a sweep walks over everybody's entries, and a kill logs how many
there are.  Nevertheless those who have nothing to do with each other do not notice each other.

`restrict S` cuts a store down to the identities of a group `S`.  An operation on the group does to
the restricted store what it does to the store, restricted, with the same outcome and the same
messages (`apply_restrict`), and an operation outside the group does nothing to it
(`restrict_apply_of_outside`).  So if no operation names members and others at once, the restricted
store goes through the run by itself.

* `groups_do_not_interfere`: without the operations outside a group, nothing changes for the group.
-/

namespace Rendezvous

/-! ## Tables with fewer keys -/

section Keys

variable {κ α : Type}

theorem Table.filter_comm (p q : κ × α → Bool) (t : Table κ α) :
    (t.filter p).filter q = (t.filter q).filter p :=
  ext_entries (by simp only [filter, List.filter_filter, Bool.and_comm])

variable [DecidableEq κ] (S : Set κ) [DecidablePred (· ∈ S)]

/-- The entries whose keys are in a set, in their order. -/
def Table.restrict (t : Table κ α) : Table κ α := t.filter fun e => e.1 ∈ S

variable {S} {k : κ}

/-- A new value of a key in the set is seen... -/
theorem Entries.filter_put_of_mem (hk : k ∈ S) (v : α) (l : List (κ × α)) :
    (Entries.put k v l).filter (fun e => e.1 ∈ S) =
      Entries.put k v (l.filter fun e => e.1 ∈ S) := by
  induction l with
  | nil => simp [Entries.put, hk]
  | cons e r ih =>
    by_cases he : e.1 = k
    · simp [Entries.put, he, hk]
    · by_cases hS : e.1 ∈ S <;> simp [Entries.put, he, hS, ih]

/-- ... and one of any other key is not. -/
theorem Entries.filter_put_of_notMem (hk : k ∉ S) (v : α) (l : List (κ × α)) :
    (Entries.put k v l).filter (fun e => e.1 ∈ S) = l.filter fun e => e.1 ∈ S := by
  induction l with
  | nil => simp [Entries.put, hk]
  | cons e r ih =>
    by_cases he : e.1 = k
    · simp [Entries.put, he, hk]
    · by_cases hS : e.1 ∈ S <;> simp [Entries.put, he, hS, ih]

namespace Table

theorem restrict_insert_of_mem (hk : k ∈ S) (t : Table κ α) (v : α) :
    (t.insert k v).restrict S = (t.restrict S).insert k v :=
  ext_entries (Entries.filter_put_of_mem hk v t.entries)

theorem restrict_insert_of_notMem (hk : k ∉ S) (t : Table κ α) (v : α) :
    (t.insert k v).restrict S = t.restrict S :=
  ext_entries (Entries.filter_put_of_notMem hk v t.entries)

theorem restrict_erase (t : Table κ α) (k : κ) :
    (t.erase k).restrict S = (t.restrict S).erase k :=
  filter_comm ..

theorem restrict_erase_of_notMem (hk : k ∉ S) (t : Table κ α) :
    (t.erase k).restrict S = t.restrict S := by
  refine ext_entries ?_
  show (t.entries.filter fun e => e.1 ≠ k).filter (fun e => e.1 ∈ S) =
    t.entries.filter fun e => e.1 ∈ S
  rw [List.filter_filter]
  refine List.filter_congr fun e _ => ?_
  have hne : e.1 ∈ S → e.1 ≠ k := fun he h => hk (h ▸ he)
  simpa using hne

theorem get?_restrict_of_mem (hk : k ∈ S) (t : Table κ α) : (t.restrict S).get? k = t.get? k := by
  rw [restrict, get?_filter]
  cases t.get? k <;> simp [Option.filter, hk]

end Table

end Keys

namespace Store

variable {S : Set Text} [DecidablePred (· ∈ S)] {s : Store} {c : Command}

/-! ## Stores with fewer identities -/

variable (S) in
/-- What the tables hold of a group of identities. -/
def restrict (s : Store) : Store :=
  { s with
    waiting := s.waiting.restrict S
    active := s.active.restrict S
    bindings := s.bindings.restrict S }

/-! ### Changes within the group -/

theorem restrict_sight {seen : Sighting} (hu : seen.endpoint.uid ∈ S) :
    (s.sight seen).restrict S = (s.restrict S).sight seen := by
  simp only [restrict, sight, Table.restrict_insert_of_mem hu]

theorem restrict_join {uid peer : Text} (target : Sighting) (m : Text) (hu : uid ∈ S)
    (hp : peer ∈ S) :
    (s.join uid peer target m).restrict S = (s.restrict S).join uid peer target m := by
  simp only [restrict, join, Table.restrict_insert_of_mem hu, Table.restrict_insert_of_mem hp,
    Table.restrict_erase]

theorem restrict_deactivate (uid peer : Text) :
    (s.deactivate uid peer).restrict S = (s.restrict S).deactivate uid peer := by
  simp only [restrict, deactivate, Table.restrict_erase]

theorem restrict_unbind (uid peer : Text) :
    (s.unbind uid peer).restrict S = (s.restrict S).unbind uid peer := by
  simp only [restrict, unbind, Table.restrict_erase]

theorem restrict_prune (now : Float) :
    (s.prune now).restrict S = (s.restrict S).prune now := by
  simp only [restrict, prune, unexpired, Table.restrict, Table.filter_comm]

/-! ### Changes outside the group -/

theorem restrict_sight_of_notMem {seen : Sighting} (hu : seen.endpoint.uid ∉ S) :
    (s.sight seen).restrict S = s.restrict S := by
  simp only [restrict, sight, Table.restrict_insert_of_notMem hu]

theorem restrict_join_of_notMem {uid peer : Text} (target : Sighting) (m : Text) (hu : uid ∉ S)
    (hp : peer ∉ S) : (s.join uid peer target m).restrict S = s.restrict S := by
  simp only [restrict, join, Table.restrict_insert_of_notMem hu, Table.restrict_insert_of_notMem hp,
    Table.restrict_erase_of_notMem hu, Table.restrict_erase_of_notMem hp]

theorem restrict_deactivate_of_notMem {uid peer : Text} (hu : uid ∉ S) (hp : peer ∉ S) :
    (s.deactivate uid peer).restrict S = s.restrict S := by
  simp only [restrict, deactivate, Table.restrict_erase_of_notMem hu,
    Table.restrict_erase_of_notMem hp]

theorem restrict_unbind_of_notMem {uid peer : Text} (hu : uid ∉ S) (hp : peer ∉ S) :
    (s.unbind uid peer).restrict S = s.restrict S := by
  simp only [restrict, unbind, Table.restrict_erase_of_notMem hu,
    Table.restrict_erase_of_notMem hp]

/-! ### What a kill looks up -/

theorem currentId_restrict {uid peer : Text} (hu : uid ∈ S) (hp : peer ∈ S) :
    (s.restrict S).currentId uid peer = s.currentId uid peer := by
  simp only [currentId, restrict, Table.get?_restrict_of_mem hu, Table.get?_restrict_of_mem hp]

theorem isStale_restrict {uid peer m : Text} (hu : uid ∈ S) (hp : peer ∈ S) :
    (s.restrict S).IsStale uid peer m ↔ s.IsStale uid peer m := by
  rw [IsStale, currentId_restrict hu hp, IsStale]

/-! ## Operations within and outside a group -/

/-- The identities that an operation names. -/
def Command.names : Command → List Text
  | .register who peer _ => [who.uid, peer]
  | .kill uid peer _ => [uid, peer]
  | .sweep _ | .setTimeout _ => []

/-- An operation names members of a group only. -/
def Command.Within (S : Set Text) (c : Command) : Prop := ∀ u ∈ c.names, u ∈ S

/-- An operation names no member of a group. -/
def Command.Outside (S : Set Text) (c : Command) : Prop := ∀ u ∈ c.names, u ∉ S

instance (c : Command) : Decidable (c.Within S) :=
  inferInstanceAs (Decidable (∀ u ∈ c.names, u ∈ S))

instance (c : Command) : Decidable (c.Outside S) :=
  inferInstanceAs (Decidable (∀ u ∈ c.names, u ∉ S))

section Names

omit [DecidablePred (· ∈ S)]

variable {who : Endpoint} {uid peer m : Text} {supply : Supply}

theorem within_register :
    (Command.register who peer supply).Within S ↔ who.uid ∈ S ∧ peer ∈ S := by
  simp [Command.Within, Command.names]

theorem within_kill : (Command.kill uid peer m).Within S ↔ uid ∈ S ∧ peer ∈ S := by
  simp [Command.Within, Command.names]

theorem outside_register :
    (Command.register who peer supply).Outside S ↔ who.uid ∉ S ∧ peer ∉ S := by
  simp [Command.Outside, Command.names]

theorem outside_kill : (Command.kill uid peer m).Outside S ↔ uid ∉ S ∧ peer ∉ S := by
  simp [Command.Outside, Command.names]

theorem Command.names_ne_nil (hc : ¬c.Within S) : c.names ≠ [] := by
  intro hn
  refine hc fun u hu => ?_
  rw [hn] at hu
  nomatch hu

end Names

/-- **An operation within a group does the same to the store of the group alone**: it leaves what
    it leaves of the whole store there, sends the same messages and, unless it is a sweep, has the
    same outcome. -/
theorem apply_restrict (hc : c.Within S) :
    ((s.restrict S).apply c).store = (s.apply c).store.restrict S ∧
      Effect.deliveries ((s.restrict S).apply c).effects = Effect.deliveries (s.apply c).effects ∧
      (c.names ≠ [] → ((s.restrict S).apply c).outcome = (s.apply c).outcome) := by
  have t := apply_transition s c
  generalize s.apply c = r at t
  cases t with
  | rejected missing =>
    rw [(Transition.rejected missing).apply_eq]
    exact ⟨rfl, rfl, fun _ => rfl⟩
  | @waits who peer supply named absent =>
    obtain ⟨hu, hp⟩ := within_register.mp hc
    have absent' : ((s.restrict S).sight ⟨who, supply.now⟩).waiting.get? peer = none := by
      rw [← restrict_sight hu]
      exact (Table.get?_restrict_of_mem hp _).trans absent
    rw [(Transition.waits named absent').apply_eq]
    exact ⟨(restrict_sight hu).symm, rfl, fun _ => rfl⟩
  | @matched who peer supply target named found =>
    obtain ⟨hu, hp⟩ := within_register.mp hc
    have found' : ((s.restrict S).sight ⟨who, supply.now⟩).waiting.get? peer = some target := by
      rw [← restrict_sight hu]
      exact (Table.get?_restrict_of_mem hp _).trans found
    rw [(Transition.matched named found').apply_eq]
    exact ⟨by rw [restrict_join _ _ hu hp, restrict_sight hu], rfl, fun _ => rfl⟩
  | killRejected missing =>
    rw [(Transition.killRejected missing).apply_eq]
    exact ⟨rfl, rfl, fun _ => rfl⟩
  | @stale uid peer m named stale =>
    obtain ⟨hu, hp⟩ := within_kill.mp hc
    rw [(Transition.stale named ((isStale_restrict hu hp).mpr stale)).apply_eq]
    exact ⟨rfl, rfl, fun _ => rfl⟩
  | @unpaired uid peer m named fresh inactive =>
    obtain ⟨hu, hp⟩ := within_kill.mp hc
    have fresh' := mt (isStale_restrict hu hp).mp fresh
    have inactive' := (Table.get?_restrict_of_mem hp _).trans inactive
    rw [(Transition.unpaired named fresh' inactive').apply_eq]
    exact ⟨(restrict_deactivate uid peer).symm, rfl, fun _ => rfl⟩
  | @notified uid peer m survivor named fresh active =>
    obtain ⟨hu, hp⟩ := within_kill.mp hc
    have fresh' := mt (isStale_restrict hu hp).mp fresh
    have active' := (Table.get?_restrict_of_mem hp _).trans active
    rw [(Transition.notified named fresh' active').apply_eq]
    refine ⟨by rw [restrict_unbind, restrict_deactivate], ?_, fun _ => rfl⟩
    -- the notices differ, for they tell how many entries are left
    simp only [Effect.deliveries, currentId_restrict hu hp]
    rfl
  | @swept now =>
    rw [(Transition.swept (s := s.restrict S)).apply_eq]
    refine ⟨(restrict_prune now).symm, ?_, fun h => absurd rfl h⟩
    exact (Effect.deliveries_logs _).trans (Effect.deliveries_logs _).symm
  | timeoutSet => exact ⟨rfl, rfl, fun _ => rfl⟩

/-- An operation that names no member of a group leaves the group's part of the store alone. -/
theorem restrict_apply_of_outside (hc : c.Outside S) (hn : c.names ≠ []) :
    (s.apply c).store.restrict S = s.restrict S := by
  have t := apply_transition s c
  generalize s.apply c = r at t
  cases t with
  | @waits who peer supply named absent =>
    obtain ⟨hu, hp⟩ := outside_register.mp hc
    exact restrict_sight_of_notMem hu
  | @matched who peer supply target named found =>
    obtain ⟨hu, hp⟩ := outside_register.mp hc
    exact (restrict_join_of_notMem target _ hu hp).trans (restrict_sight_of_notMem hu)
  | @unpaired uid peer m named fresh inactive =>
    obtain ⟨hu, hp⟩ := outside_kill.mp hc
    exact restrict_deactivate_of_notMem hu hp
  | @notified uid peer m survivor named fresh active =>
    obtain ⟨hu, hp⟩ := outside_kill.mp hc
    exact (restrict_unbind_of_notMem hu hp).trans (restrict_deactivate_of_notMem hu hp)
  | rejected | killRejected | stale => rfl
  | swept | timeoutSet => exact absurd rfl hn

/-! ## Runs -/

variable (S) in
/-- The operations without those that name others than the members of a group. -/
def within (cs : List Command) : List Command := cs.filter fun c => c.Within S

theorem within_cons_of_within {cs : List Command} (hc : c.Within S) :
    within S (c :: cs) = c :: within S cs :=
  List.filter_cons_of_pos (by simpa using hc)

theorem within_cons_of_not_within {cs : List Command} (hc : ¬c.Within S) :
    within S (c :: cs) = within S cs :=
  List.filter_cons_of_neg (by simpa using hc)

/-- An operation of the members of a group among themselves. -/
def Command.Among (S : Set Text) (c : Command) : Prop := c.names ≠ [] ∧ c.Within S

instance (c : Command) : Decidable (c.Among S) := inferInstanceAs (Decidable (_ ∧ _))

/-- What an operation told the one who asked for it, and what it sent. -/
def Deed.report (d : Deed) : Command × Outcome × List (Payload × Endpoint) :=
  (d.command, d.outcome, d.sent)

variable (S) in
/-- The reports of the operations of a group among themselves, oldest first. -/
def reports (h : List Deed) : List (Command × Outcome × List (Payload × Endpoint)) :=
  (h.filter fun d => d.command.Among S).map Deed.report

theorem reports_cons_of_among {d : Deed} {h : List Deed} (hd : d.command.Among S) :
    reports S (d :: h) = d.report :: reports S h := by
  rw [reports, List.filter_cons_of_pos (by simpa using hd), List.map_cons, reports]

theorem reports_cons_of_not_among {d : Deed} {h : List Deed} (hd : ¬d.command.Among S) :
    reports S (d :: h) = reports S h := by
  rw [reports, List.filter_cons_of_neg (by simpa using hd), reports]

variable {cs : List Command}

/-- The operations within a group lead to what all operations leave of the group. -/
theorem run_restrict (s : Store) (apart : ∀ c ∈ cs, c.Within S ∨ c.Outside S) :
    (s.restrict S).run (within S cs) = (s.run cs).restrict S := by
  -- forwards, for it is the store on which the run starts that is restricted
  induction cs generalizing s with
  | nil => rfl
  | cons c cs ih =>
    obtain ⟨hc, apart⟩ := List.forall_mem_cons.mp apart
    by_cases hin : c.Within S
    · rw [within_cons_of_within hin, run_cons, run_cons, (apply_restrict hin).1]
      exact ih _ apart
    · have hout := hc.resolve_left hin
      rw [within_cons_of_not_within hin, run_cons, ← ih _ apart,
        restrict_apply_of_outside hout (Command.names_ne_nil hin)]

/-- They end as they do among all operations, and send the same. -/
theorem reports_restrict (s : Store) (apart : ∀ c ∈ cs, c.Within S ∨ c.Outside S) :
    reports S ((s.restrict S).history (within S cs)) =
      reports S (s.history cs) := by
  induction cs generalizing s with
  | nil => rfl
  | cons c cs ih =>
    obtain ⟨hc, apart⟩ := List.forall_mem_cons.mp apart
    by_cases hin : c.Within S
    · obtain ⟨hstore, hsent, hends⟩ := apply_restrict hin (s := s)
      rw [within_cons_of_within hin, history, history, hstore]
      by_cases hn : c.names = []
      · have hnot : ¬c.Among S := fun h => h.1 hn
        rw [reports_cons_of_not_among hnot, reports_cons_of_not_among hnot]
        exact ih _ apart
      · rw [reports_cons_of_among ⟨hn, hin⟩, reports_cons_of_among ⟨hn, hin⟩, ih _ apart]
        simp only [Deed.report, Deed.sent, deed, hsent, hends hn]
    · have hout := hc.resolve_left hin
      rw [within_cons_of_not_within hin, history,
        reports_cons_of_not_among (fun h => hin h.2), ← ih _ apart,
        restrict_apply_of_outside hout (Command.names_ne_nil hin)]

/-- **Groups do not interfere.**  Let no operation of a run name members of a group together with
    others.  If the registrations and kills that name others are deleted, then the operations of the
    group end as before and send the same messages, in the same order, and at the end the tables
    hold what they held of the group. -/
theorem groups_do_not_interfere (timeout : Float) (S : Set Text) [DecidablePred (· ∈ S)]
    (cs : List Command) (apart : ∀ c ∈ cs, c.Within S ∨ c.Outside S) :
    reports S ((empty timeout).history (within S cs)) = reports S ((empty timeout).history cs) ∧
    (empty timeout).run (within S cs) = ((empty timeout).run cs).restrict S ∧
    ∀ u ∈ S,
      ((empty timeout).run (within S cs)).waiting.get? u =
        ((empty timeout).run cs).waiting.get? u ∧
      ((empty timeout).run (within S cs)).active.get? u =
        ((empty timeout).run cs).active.get? u ∧
      ((empty timeout).run (within S cs)).matchIdOf? u =
        ((empty timeout).run cs).matchIdOf? u := by
  have hrun : (empty timeout).run (within S cs) = ((empty timeout).run cs).restrict S :=
    run_restrict (empty timeout) apart
  refine ⟨reports_restrict (empty timeout) apart, hrun, fun u hu => ?_⟩
  rw [hrun]
  exact ⟨Table.get?_restrict_of_mem hu _, Table.get?_restrict_of_mem hu _,
    Table.get?_restrict_of_mem hu _⟩

/-- Two couples that come at the same time, with sweeps between them and a kill in each.  The second
    sweep removes one of the first couple. -/
def interleaved : List Command :=
  [ .register ⟨"a", "10.0.0.1", 1001⟩ "b" (.of 1000 1000 1000 "match-1"),
    .register ⟨"c", "10.0.0.3", 1003⟩ "d" (.of 1001 1001 1001 "match-1"),
    .register ⟨"d", "10.0.0.4", 1004⟩ "c" (.of 1002 1002 1002 "match-1"),
    .sweep 1003,
    .register ⟨"b", "10.0.0.2", 1002⟩ "a" (.of 1004 1004 1004 "match-2"),
    .kill "c" "d" "match-1",
    .setTimeout 5,
    .sweep 1006,
    .kill "b" "a" "match-2" ]

def firstCouple : Set Text := {u | u = "a" ∨ u = "b"}

instance : DecidablePred (· ∈ firstCouple) := fun u =>
  inferInstanceAs (Decidable (u = Text.ofString "a" ∨ u = Text.ofString "b"))

/-- The operations of the first couple end without the second as they do with it. -/
theorem firstCouple_in_interleaved :
    (∀ c ∈ interleaved, c.Within firstCouple ∨ c.Outside firstCouple) ∧
      (reports firstCouple ((empty 30).history (within firstCouple interleaved))).map (·.2.1) =
        [ .registered .waiting, .registered (.matched "match-2" ⟨"a", "10.0.0.1", 1001⟩),
          .killed .unpaired ] := by
  have apart : ∀ c ∈ interleaved, c.Within firstCouple ∨ c.Outside firstCouple := by decide
  refine ⟨apart, ?_⟩
  rw [(groups_do_not_interfere 30 firstCouple interleaved apart).1]
  decide

end Store

end Rendezvous
