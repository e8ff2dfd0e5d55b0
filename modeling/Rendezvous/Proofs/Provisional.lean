import Rendezvous.Proofs.Survivor

/-!
# The two copies of an entry that waits

A registration writes its entry twice: the registrant waits, and it is active provisionally, so that
a kill that comes before the match still finds it.  The two copies are taken out at different
places, by matches, kills and sweeps, and nothing in the tables says that they belong together.

The history does.  Who still waits has not been asked for since it registered, so no match has made
it active anew, and no sweep has found the registration too old.  What may have parted the copies is
a kill, and nothing else (`stillActive_iff_undisturbed`).  As long as there are two they are the
same registration, of one age, so a sweep takes both of them or none.

* `provisional_entry_kept`: whether an entry that waits has its copy, for every run.
-/

namespace Rendezvous.Store

variable {s : Store} {cs : List Command} {h : List Deed} {u : Text} {seen seen' : Sighting}
  {now timeout : Float}

/-! ## Histories -/

/-- An identity has registered, and since it last did no kill that names it was more than rejected
    or stale. -/
def Undisturbed (h : List Deed) (u : Text) : Prop :=
  Since (Deed.registers u) (fun _ => True) (fun d => ¬d.deactivates u) h

/-- Whom nobody has asked for since it registered was last made active by that registration. -/
theorem latest?_activates {reg : Deed} {since : List Deed}
    (hsought : ∀ d ∈ h, d.targets u → d.seeks u)
    (hlatest : latest? (Deed.registers u) h = some (reg, since)) (hsince : ∀ d ∈ since, ¬d.seeks u) :
    latest? (Deed.activates u) h = some (reg, since) := by
  obtain ⟨earlier, hsplit, hreg, hothers⟩ := latest?_eq_some_iff.mp hlatest
  refine latest?_eq_some_iff.mpr ⟨earlier, hsplit, by simp [Deed.activates, hreg], fun d hd => ?_⟩
  have hmem : d ∈ h := by
    rw [hsplit]
    exact List.mem_append_right _ (List.mem_cons_of_mem _ hd)
  have htargets : ¬d.targets u := fun ht => hsince d hd (hsought d hmem ht)
  simp [Deed.activates, hothers d hd, htargets]

/-- Who still waits is still active exactly if no kill has disturbed it. -/
theorem stillActive_iff_undisturbed (hwaits : StillWaits (s.history cs) u) :
    StillActive (s.history cs) u ↔ Undisturbed (s.history cs) u := by
  obtain ⟨reg, since, hlatest, -, hsince⟩ := hwaits
  have hsought : ∀ d ∈ s.history cs, d.targets u → d.seeks u := by
    intro d hd ht
    obtain ⟨s', c, -, rfl⟩ := exists_deed_of_mem_history hd
    exact seeks_of_targets ht
  have hactivated := latest?_activates hsought hlatest fun d hd => (hsince d hd).1
  constructor
  · rintro ⟨reg', since', hlatest', -, hkept⟩
    obtain ⟨rfl, rfl⟩ := Prod.mk.inj (Option.some.inj (hactivated.symm.trans hlatest'))
    exact ⟨reg, since, hlatest, trivial, fun d hd => (hkept d hd).1⟩
  · rintro ⟨reg', since', hlatest', -, hkept⟩
    obtain ⟨rfl, rfl⟩ := Prod.mk.inj (Option.some.inj (hlatest.symm.trans hlatest'))
    exact ⟨reg, since, hactivated, trivial, fun d hd => ⟨hkept d hd, (hsince d hd).2⟩⟩

/-- Without kills nobody who waits is disturbed. -/
theorem undisturbed_of_no_kill (hkills : ∀ uid peer m, .kill uid peer m ∉ cs)
    (hwaits : StillWaits (s.history cs) u) : Undisturbed (s.history cs) u := by
  obtain ⟨reg, since, hlatest, -⟩ := hwaits
  refine ⟨reg, since, hlatest, trivial, fun d hd hkilled => ?_⟩
  obtain ⟨earlier, hsplit, -⟩ := latest?_eq_some_iff.mp hlatest
  have hmem : d ∈ s.history cs := by
    rw [hsplit]
    exact List.mem_append_right _ (List.mem_cons_of_mem _ hd)
  obtain ⟨s', c, hc, rfl⟩ := exists_deed_of_mem_history hmem
  cases c with
  | kill uid peer m => exact hkills uid peer m hc
  | register | sweep | setTimeout => cases hkilled

/-! ## The active copy -/

/-- The active copy of an entry that waits is there, and equal, exactly if no kill has disturbed
    its identity. -/
theorem active_of_waiting_iff (hwaiting : ((empty timeout).run cs).waiting.get? u = some seen) :
    ((empty timeout).run cs).active.get? u = some seen ↔
      Undisturbed ((empty timeout).history cs) u := by
  obtain ⟨hlast, hwaits⟩ := (waiting_run timeout cs u seen).mp hwaiting
  rw [active_run, stillActive_iff_undisturbed hwaits]
  exact and_iff_right hlast

/-- Two entries of one identity are equal: both are its latest registration. -/
theorem eq_of_waiting_of_active (hwaiting : ((empty timeout).run cs).waiting.get? u = some seen)
    (hactive : ((empty timeout).run cs).active.get? u = some seen') : seen = seen' := by
  have hlast := ((waiting_run timeout cs u seen).mp hwaiting).1
  have hlast' := ((active_run timeout cs u seen').mp hactive).1
  exact Option.some.inj (hlast.symm.trans hlast')

/-- A sweep treats two equal entries alike. -/
theorem sweep_copies (hwaiting : s.waiting.get? u = some seen)
    (hactive : s.active.get? u = some seen) :
    (s.sweep now).store.waiting.get? u = (s.sweep now).store.active.get? u := by
  rw [sweep_eq]
  show (unexpired now s.peerTimeout s.waiting).get? u = (unexpired now s.peerTimeout s.active).get? u
  rw [get?_unexpired, get?_unexpired, hwaiting, hactive]

/-- **An entry that waits keeps its active copy.**  After every run, an identity that waits is active
    with the same endpoint and the same reading exactly if no kill that names it was more than
    rejected or stale since its latest accepted registration; otherwise it is not active at all.  So
    in a run without kills whatever waits is active with the same entry.  And if an identity has an
    entry in both tables, the entries are equal, and they are after any sweep: both stay, or both
    are removed. -/
theorem provisional_entry_kept (timeout : Float) (cs : List Command) :
    (∀ u seen, ((empty timeout).run cs).waiting.get? u = some seen →
      (((empty timeout).run cs).active.get? u = some seen ↔
        Undisturbed ((empty timeout).history cs) u) ∧
      (((empty timeout).run cs).active.get? u = none ↔
        ¬Undisturbed ((empty timeout).history cs) u)) ∧
    ((∀ uid peer m, .kill uid peer m ∉ cs) → ∀ u seen,
      ((empty timeout).run cs).waiting.get? u = some seen →
      ((empty timeout).run cs).active.get? u = some seen) ∧
    (∀ u seen seen' now, ((empty timeout).run cs).waiting.get? u = some seen →
      ((empty timeout).run cs).active.get? u = some seen' →
      seen = seen' ∧
      (((empty timeout).run cs).sweep now).store.waiting.get? u =
        (((empty timeout).run cs).sweep now).store.active.get? u) := by
  refine ⟨fun u seen hwaiting => ⟨active_of_waiting_iff hwaiting, ?_⟩,
    fun hkills u seen hwaiting => ?_, fun u seen seen' now hwaiting hactive => ?_⟩
  · rw [← active_of_waiting_iff hwaiting]
    constructor
    · intro hnone hsome
      exact Option.some_ne_none seen (hsome.symm.trans hnone)
    · intro hparted
      cases hactive : ((empty timeout).run cs).active.get? u with
      | none => rfl
      | some seen' => exact absurd (eq_of_waiting_of_active hwaiting hactive ▸ hactive) hparted
  · have hwaits := ((waiting_run timeout cs u seen).mp hwaiting).2
    exact (active_of_waiting_iff hwaiting).mpr (undisturbed_of_no_kill hkills hwaits)
  · obtain rfl := eq_of_waiting_of_active hwaiting hactive
    exact ⟨rfl, sweep_copies hwaiting hactive⟩

/-- Two who wait, a kill by a stranger that disturbs the second, a kill between others, and a sweep
    that finds nobody too old. -/
def disturbed : List Command :=
  [ .register ⟨"a", "10.0.0.1", 1001⟩ "b" (.of 1000 1000 1000 []),
    .register ⟨"c", "10.0.0.3", 1003⟩ "d" (.of 1005 1005 1005 []),
    .kill "e" "c" [],
    .kill "b" "d" [],
    .sweep 1020 ]

/-- In the first two operations of `disturbed` nobody is killed, and the second has both its copies.
    After the whole run the first has kept its active copy and the second has lost it; a sweep at a
    time when both are too old takes the two copies of the first. -/
theorem copies_in_disturbed :
    ((empty 30).run (disturbed.take 2)).active.get? "c" =
        some ⟨⟨"c", "10.0.0.3", 1003⟩, 1005⟩ ∧
      ((empty 30).run disturbed).active.get? "a" = some ⟨⟨"a", "10.0.0.1", 1001⟩, 1000⟩ ∧
      (((empty 30).run disturbed).isWaiting "c" ∧
        ((empty 30).run disturbed).active.get? "c" = none) ∧
      (((empty 30).run disturbed).sweep 1040).store.waiting.get? "a" =
        (((empty 30).run disturbed).sweep 1040).store.active.get? "a" := by
  obtain ⟨hcopy, -, hsweep⟩ := provisional_entry_kept 30 disturbed
  have ha : ((empty 30).run disturbed).waiting.get? "a" =
      some ⟨⟨"a", "10.0.0.1", 1001⟩, 1000⟩ := rfl
  have hc : ((empty 30).run disturbed).waiting.get? "c" =
      some ⟨⟨"c", "10.0.0.3", 1003⟩, 1005⟩ := rfl
  have hkept : Undisturbed ((empty 30).history disturbed) "a" := ⟨_, _, rfl, trivial, by decide⟩
  have hlost : ¬Undisturbed ((empty 30).history disturbed) "c" := by
    rintro ⟨_, _, hlatest, -, hsince⟩
    cases hlatest
    exact absurd hsince (by decide)
  have hkills : ∀ uid peer m, .kill uid peer m ∉ disturbed.take 2 := by
    simp [disturbed]
  have hactive := (hcopy "a" _ ha).1.mpr hkept
  exact ⟨(provisional_entry_kept 30 (disturbed.take 2)).2.1 hkills "c" _ rfl, hactive,
    ⟨by decide, (hcopy "c" _ hc).2.mpr hlost⟩, (hsweep "a" _ _ 1040 ha hactive).2⟩

end Rendezvous.Store
