import Mathlib.Data.List.Basic
import Rendezvous.Proofs.Transition

/-!
# What a sweep removes

A sweep deletes from a table while it walks over it.  It goes by a copy of the keys, made before the
first deletion (`walk`), and looks each key up in the table as it is by then.  The copy has each key
once and a deletion takes away no entry but its own, so the entries that are still to come are
untouched: every look-up finds its entry, as it was when the sweep began, and in the end the table
has lost what one look at each of its entries would have taken away (`walk_keys`).

Whether an entry stays is its age test and nothing else.  A comparison with something that is not a
number fails, so it is the failure of the test, and not the opposite comparison, that keeps an
entry.

* `sweep_removes_expired`: what is left, what is reported and logged, and that nothing is left to
  do.
-/

namespace Rendezvous

/-! ## Tables -/

namespace Table

variable {κ α : Type} [DecidableEq κ] {t : Table κ α} {e : κ × α} {before after : List (κ × α)}

/-- The value of a key is the one that its entry has. -/
theorem get?_of_entries (h : t.entries = before ++ e :: after) : t.get? e.1 = some e.2 := by
  have hnodup := t.nodup
  rw [h, List.map_append, List.map_cons] at hnodup
  have hbefore : e.1 ∉ before.map Prod.fst := fun hmem =>
    (List.nodup_append.mp hnodup).2.2 e.1 hmem e.1 List.mem_cons_self rfl
  clear hnodup
  rw [get?, h]
  clear h
  induction before with
  | nil => rw [List.nil_append, Entries.get?_cons, if_pos rfl]
  | cons b before ih =>
    rw [List.map_cons, List.mem_cons, not_or] at hbefore
    rw [List.cons_append, Entries.get?_cons, if_neg (Ne.symm hbefore.1), ih hbefore.2]

/-- To take a key away takes away its entry and no other. -/
theorem entries_erase (h : t.entries = before ++ e :: after) :
    (t.erase e.1).entries = before ++ after := by
  have hnodup := t.nodup
  rw [h, List.map_append, List.map_cons] at hnodup
  obtain ⟨-, hafter, hapart⟩ := List.nodup_append.mp hnodup
  have hkept : ∀ l : List (κ × α), e.1 ∉ l.map Prod.fst → l.filter (fun x => x.1 ≠ e.1) = l := by
    intro l hl
    refine List.filter_eq_self.mpr fun x hx => decide_eq_true fun hkey => hl ?_
    exact hkey ▸ List.mem_map_of_mem hx
  show t.entries.filter (fun x => x.1 ≠ e.1) = _
  rw [h, List.filter_append, List.filter_cons_of_neg (by simp),
    hkept before fun hmem => hapart e.1 hmem e.1 List.mem_cons_self rfl,
    hkept after (List.nodup_cons.mp hafter).1]

end Table

namespace Store

variable {now timeout : Float} {t : Table Text Sighting} {seen : Sighting}

/-! ## The walk over a table -/

/-- Walks over keys of a table: the entry of each is looked up, and deleted if it is expired.  The
    result is the table in the end and the keys of what was deleted; there is none if a look-up
    finds no entry. -/
def walk (now timeout : Float) :
    List Text → Table Text Sighting → Option (Table Text Sighting × List Text)
  | [], t => some (t, [])
  | uid :: later, t =>
    match t.get? uid with
    | none => none
    | some seen =>
      if expired now timeout seen then
        (walk now timeout later (t.erase uid)).map fun r => (r.1, uid :: r.2)
      else walk now timeout later t

/-- The walk over the keys that are still to come: what was passed stays, and what is to come is
    still there. -/
theorem exists_walk (now timeout : Float) (passed rest : List (Text × Sighting))
    (h : t.entries = passed ++ rest) :
    ∃ last : Table Text Sighting,
      walk now timeout (rest.map Prod.fst) t =
        some (last, (rest.filter fun e => expired now timeout e.2).map Prod.fst) ∧
      last.entries = passed ++ rest.filter fun e => !expired now timeout e.2 := by
  induction rest generalizing passed t with
  | nil => exact ⟨t, rfl, by rw [h, List.filter_nil]⟩
  | cons e rest ih =>
    rw [List.map_cons, walk, Table.get?_of_entries h]
    by_cases hold : expired now timeout e.2
    · obtain ⟨last, hwalk, hlast⟩ := ih passed (Table.entries_erase h)
      refine ⟨last, ?_, ?_⟩
      · simp [hold, hwalk]
      · simpa [hold] using hlast
    · have h' : t.entries = (passed ++ [e]) ++ rest := by
        rw [h, List.append_assoc, List.singleton_append]
      obtain ⟨last, hwalk, hlast⟩ := ih (passed ++ [e]) h'
      refine ⟨last, ?_, ?_⟩
      · simp [hold, hwalk]
      · simpa [hold] using hlast

/-- The walk over all keys of a table leaves what is not expired. -/
theorem walk_keys (now timeout : Float) (t : Table Text Sighting) :
    walk now timeout t.keys t =
      some (unexpired now timeout t, (expiredEntries now timeout t).map Prod.fst) := by
  obtain ⟨last, hwalk, hlast⟩ := exists_walk now timeout [] t.entries rfl
  have hleft : last = unexpired now timeout t := Table.ext_entries hlast
  rw [Table.keys, hwalk, hleft]
  rfl

/-! ## What is left of a table -/

/-- `left` is what a sweep leaves of a table `t`, and `removed` are the keys that it takes away. -/
structure Pruned (now timeout : Float) (t left : Table Text Sighting) (removed : List Text) :
    Prop where
  /-- The sweep walks over all keys without missing an entry. -/
  walked : walk now timeout t.keys t = some (left, removed)
  /-- An entry is left, as it was, exactly if its age test fails. -/
  mem_left : ∀ e, e ∈ left.entries ↔ e ∈ t.entries ∧ ¬now - e.2.lastSeen > timeout
  /-- What is left keeps its order. -/
  left_sublist : left.entries.Sublist t.entries
  /-- A key is taken away exactly if the age test of its entry holds. -/
  mem_removed : ∀ uid,
    uid ∈ removed ↔ ∃ seen, (uid, seen) ∈ t.entries ∧ now - seen.lastSeen > timeout
  /-- The keys are taken away in the order of the table. -/
  removed_sublist : removed.Sublist t.keys
  /-- Every entry is left or taken away. -/
  size_eq : t.size = left.size + removed.length

theorem expired_iff : expired now timeout seen = true ↔ now - seen.lastSeen > timeout :=
  decide_eq_true_iff

/-- The table and the keys to which a sweep comes by filtering are those of the walk. -/
theorem pruned_unexpired (now timeout : Float) (t : Table Text Sighting) :
    Pruned now timeout t (unexpired now timeout t)
      ((expiredEntries now timeout t).map Prod.fst) where
  walked := walk_keys now timeout t
  mem_left e := by
    rw [unexpired, Table.filter, List.mem_filter, Bool.not_eq_true', ← Bool.not_eq_true,
      expired_iff]
  left_sublist := List.filter_sublist
  mem_removed uid := by
    simp only [expiredEntries, List.mem_map, List.mem_filter, expired_iff]
    constructor
    · rintro ⟨e, ⟨hmem, hold⟩, rfl⟩
      exact ⟨e.2, hmem, hold⟩
    · rintro ⟨seen, hmem, hold⟩
      exact ⟨(uid, seen), ⟨hmem, hold⟩, rfl⟩
  removed_sublist := List.filter_sublist.map Prod.fst
  size_eq := by
    rw [List.length_map, Table.size, Nat.add_comm,
      t.entries.length_eq_length_filter_add fun e => expired now timeout e.2]
    rfl

/-! ## Sweeps of a store -/

/-- What has passed the age test once passes it again. -/
theorem unexpired_unexpired (now timeout : Float) (t : Table Text Sighting) :
    unexpired now timeout (unexpired now timeout t) = unexpired now timeout t :=
  Table.ext_entries (List.filter_eq_self.mpr fun _ he => (List.mem_filter.mp he).2)

/-- A table that was swept has no expired entry. -/
theorem expiredEntries_unexpired (now timeout : Float) (t : Table Text Sighting) :
    expiredEntries now timeout (unexpired now timeout t) = [] := by
  refine List.filter_eq_nil_iff.mpr fun e he => ?_
  simpa using (List.mem_filter.mp he).2

/-- A second sweep at the same reading does nothing. -/
theorem sweep_of_swept (s : Store) (now : Float) :
    (s.sweep now).store.sweep now = ⟨(s.sweep now).store, (0, 0), [], 1, 0⟩ := by
  rw [sweep_eq (s.sweep now).store, sweep_eq s now]
  simp only [prune, pruneLog, unexpired_unexpired, expiredEntries_unexpired]
  rfl

/-- **A sweep removes exactly what is expired.**  For every store, every reading and every timeout,
    numbers or not, the sweep walks over each of the two tables without missing an entry; what it
    leaves are the entries whose age test fails, as they were and in their order.  Bindings and
    timeout stay.  It reports how many entries each table has lost, and logs their identities in the
    order of the tables, first those that waited.  A second sweep at the same reading removes
    nothing, logs nothing and reports zeros. -/
theorem sweep_removes_expired (s : Store) (now : Float) :
    ∃ waiting active : List Text,
      Pruned now s.peerTimeout s.waiting (s.sweep now).store.waiting waiting ∧
      Pruned now s.peerTimeout s.active (s.sweep now).store.active active ∧
      (s.sweep now).store.bindings = s.bindings ∧
      (s.sweep now).store.peerTimeout = s.peerTimeout ∧
      (s.sweep now).outcome = (waiting.length, active.length) ∧
      (s.sweep now).effects =
        waiting.map (fun uid => .log (.expired .waiting uid)) ++
          active.map (fun uid => .log (.expired .active uid)) ∧
      (s.sweep now).store.sweep now = ⟨(s.sweep now).store, (0, 0), [], 1, 0⟩ := by
  have hagain := sweep_of_swept s now
  rw [sweep_eq s now] at hagain ⊢
  refine ⟨_, _, pruned_unexpired now s.peerTimeout s.waiting,
    pruned_unexpired now s.peerTimeout s.active, rfl, rfl, ?_, ?_, hagain⟩
  · rw [List.length_map, List.length_map]
  · rw [pruneLog, List.map_append, List.map_map, List.map_map, List.map_map, List.map_map]
    rfl

/-- What is not a number removes nothing, be it the reading, the timeout or the sighting; nor does
    an infinite timeout. -/
example :
    let seen (x : Float) : Sighting := ⟨⟨"a", "10.0.0.1", 1001⟩, x⟩
    expired (0.0 / 0.0) 30 (seen 1000) = false ∧ expired 1031 (0.0 / 0.0) (seen 1000) = false ∧
      expired 1031 30 (seen (0.0 / 0.0)) = false ∧ expired 1031 30 (seen 1000) = true ∧
      expired (1.0 / 0.0) (1.0 / 0.0) (seen 1000) = false := by decide

end Store

end Rendezvous
