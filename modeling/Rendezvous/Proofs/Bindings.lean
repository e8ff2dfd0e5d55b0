import Rendezvous.Proofs.History
import Mathlib.Data.List.Nodup
import Mathlib.Data.Set.Insert

/-!
# Whose match is in force

An identity is bound to the id of its latest match until a kill tears that match down.  Bindings
outlive the entries of the tables: a sweep does not touch them, nor does a kill that finds nobody
to tell.  `matchInForce?` says so on a history, without the tables.

* `bindings_eq_matches_in_force`: the bindings are that, and what follows for ids that never repeat.
-/

namespace Rendezvous.Store

variable {s : Store} {c : Command} {r : Step Outcome}

/-! ## Matches in force -/

/-- The id of the latest match in which an identity took part, unless it was torn down since. -/
def matchInForce? (h : List Deed) (u : Text) : Option Text :=
  match latest? (Deed.pairs u) h with
  | none => none
  | some (d, later) =>
    if later.any (Deed.tearsDown u) then none else d.pairing?.map (·.matchId)

/-- The last operation puts a match in force, or ends it, or leaves it as it was. -/
theorem matchInForce?_append_singleton (h : List Deed) (d : Deed) (u : Text) :
    matchInForce? (h ++ [d]) u =
      if d.pairs u then d.pairing?.map (·.matchId)
      else if d.tearsDown u then none else matchInForce? h u := by
  rw [matchInForce?, latest?_append_singleton, matchInForce?]
  by_cases hp : d.pairs u
  · simp [hp]
  · cases latest? (Deed.pairs u) h with
    | none => simp [hp]
    | some found => by_cases ht : d.tearsDown u <;> simp [hp, ht, List.any_append]

/-! ## One operation -/

/-- An operation binds whom it matches, and frees whom it tears from a match. -/
theorem matchIdOf?_apply (s : Store) (c : Command) (u : Text) :
    (s.apply c).store.matchIdOf? u =
      if (s.deed c).pairs u then (s.deed c).pairing?.map (·.matchId)
      else if (s.deed c).tearsDown u then none else s.matchIdOf? u := by
  have t := apply_transition s c
  rw [deed]
  generalize s.apply c = r at t
  cases t with
  | @matched who peer supply target named found =>
    show (((s.sight _).join who.uid peer target supply.matchId).bindings.get? u) = _
    rw [join_bindings, sight_bindings]
    by_cases hu : who.uid = u ∨ peer = u
    · simp [Deed.pairs, Deed.pairing?, hu]
    · simp [Deed.pairs, Deed.pairing?, Deed.tearsDown, hu, matchIdOf?]
  | @notified uid peer m survivor named fresh active =>
    show (((s.deactivate uid peer).unbind uid peer).bindings.get? u) = _
    rw [unbind_bindings, deactivate_bindings]
    by_cases hu : uid = u ∨ peer = u
    · simp [Deed.pairs, Deed.pairing?, Deed.tearsDown, hu]
    · simp [Deed.pairs, Deed.pairing?, Deed.tearsDown, hu, matchIdOf?]
  | rejected | waits | killRejected | stale | unpaired | swept | timeoutSet => rfl

/-! ## Runs -/

/-- The bindings after a run are the matches in force. -/
theorem matchIdOf?_run (timeout : Float) (cs : List Command) (u : Text) :
    ((empty timeout).run cs).matchIdOf? u =
      matchInForce? ((empty timeout).history cs) u := by
  induction cs using List.reverseRecOn with
  | nil => rfl
  | append_singleton cs c ih =>
    rw [run_append_singleton, history_append_singleton, matchInForce?_append_singleton,
      matchIdOf?_apply, ih]

/-- Who has a match in force took part in one of the history under that id. -/
theorem pairing_of_matchInForce? {h : List Deed} {u m : Text}
    (hu : matchInForce? h u = some m) :
    ∃ p ∈ pairings h, p.matchId = m ∧ (p.registrant = u ∨ p.target = u) := by
  rw [matchInForce?] at hu
  cases hl : latest? (Deed.pairs u) h with
  | none => rw [hl] at hu; nomatch hu
  | some found =>
    obtain ⟨d, later⟩ := found
    obtain ⟨earlier, rfl, hpairs, -⟩ := latest?_eq_some_iff.mp hl
    obtain ⟨p, hp, hjoins⟩ := (Option.any_eq_true _ _).mp hpairs
    simp only [hl] at hu
    split at hu
    · nomatch hu
    · rw [hp] at hu
      refine ⟨p, ?_, Option.some.inj hu, by simpa using hjoins⟩
      exact List.mem_filterMap.mpr ⟨d, List.mem_append_right _ List.mem_cons_self, hp⟩

/-- Whether an operation that ended so has changed a binding. -/
def Outcome.rebinds : Outcome → Bool
  | .registered (.matched ..) => true
  | .killed .notified => true
  | _ => false

/-- Every other operation leaves all bindings alone. -/
theorem bindings_apply (h : (s.apply c).outcome.rebinds = false) :
    (s.apply c).store.bindings = s.bindings := by
  have t := apply_transition s c
  generalize s.apply c = r at t h
  cases t with
  | matched | notified => nomatch h
  | rejected | waits | killRejected | stale | unpaired | swept | timeoutSet => rfl

/-- **Bindings are determined by history.**  After a run, an identity is bound to the id of the
    latest match in which it took part, if no kill that names it has told its peer since, and it is
    not bound otherwise.  So nothing but a match and such a kill ever changes a binding: not a
    registration that waits or is rejected, not a kill that is rejected, stale or finds nobody, not
    a sweep and not a new timeout.  If no id was ever issued twice, then identities that are bound
    to one id are among the two that were matched under it. -/
theorem bindings_eq_matches_in_force (timeout : Float) (cs : List Command) :
    (∀ u, ((empty timeout).run cs).matchIdOf? u =
      matchInForce? ((empty timeout).history cs) u) ∧
    (∀ c, (((empty timeout).run cs).apply c).outcome.rebinds = false →
      ∀ u, ((empty timeout).run (cs ++ [c])).matchIdOf? u =
        ((empty timeout).run cs).matchIdOf? u) ∧
    (((pairings ((empty timeout).history cs)).map (·.matchId)).Nodup →
      ∀ (m : Text) (bound : Set Text),
        (∀ u ∈ bound, ((empty timeout).run cs).matchIdOf? u = some m) →
        (bound.Nonempty → ∃ p ∈ pairings ((empty timeout).history cs), p.matchId = m) ∧
        ∀ p ∈ pairings ((empty timeout).history cs), p.matchId = m →
          bound ⊆ {p.registrant, p.target}) := by
  refine ⟨matchIdOf?_run timeout cs, fun c hc u => ?_, fun hnodup m bound hbound => ?_⟩
  · rw [run_append_singleton, matchIdOf?, bindings_apply hc, matchIdOf?]
  · have hpair : ∀ u ∈ bound, ∃ p ∈ pairings ((empty timeout).history cs),
        p.matchId = m ∧ (p.registrant = u ∨ p.target = u) := by
      intro u hu
      exact pairing_of_matchInForce? ((matchIdOf?_run timeout cs u).symm.trans (hbound u hu))
    refine ⟨fun ⟨u, hu⟩ => ?_, fun p hp hpm u hu => ?_⟩
    · obtain ⟨p, hp, hpm, -⟩ := hpair u hu
      exact ⟨p, hp, hpm⟩
    · -- the match that bound `u` has the id of `p`, so it is `p`
      obtain ⟨q, hq, hqm, hjoins⟩ := hpair u hu
      obtain rfl := List.inj_on_of_nodup_map hnodup hp hq (hpm.trans hqm.symm)
      rcases hjoins with rfl | rfl
      · exact Set.mem_insert _ _
      · exact Set.mem_insert_of_mem _ rfl

/-- After `rematched` the last two partners are bound to the last id, and nobody else is. -/
theorem bound_after_rematched :
    (((pairings ((empty 30).history rematched)).map (·.matchId)).Nodup ∧
      {u | ((empty 30).run rematched).matchIdOf? u = some "match-2"} ⊆
        {("c" : Text), ("b" : Text)}) ∧
      ((empty 30).run rematched).matchIdOf? "b" = some "match-2" ∧
      ((empty 30).run rematched).matchIdOf? "c" = some "match-2" :=
  ⟨⟨by decide, ((bindings_eq_matches_in_force 30 rematched).2.2 (by decide) "match-2" _
    fun _ hu => hu).2 ⟨"match-2", "c", "b"⟩ (by decide) rfl⟩, by decide, by decide⟩

end Rendezvous.Store
