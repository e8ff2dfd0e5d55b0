import Rendezvous.Proofs.Messages
import Rendezvous.Proofs.Staleness

/-!
# The end of a match id

When a match has been torn down, a client that still holds its id must not be able to do harm with
it, and nobody may be told of the match again.  This takes more than that the id leaves the two
identities of the kill: nobody else may hold it.

Only a match binds identities, to its own id and only its two parties.  So if no id is issued twice,
two identities that are bound to one id are all that are bound to it (`eq_or_eq_of_bound`), and a
kill between them that is believed leaves nobody bound to it.  From there on it is over: what is not
bound comes into no message and no binding unless it is issued, and it never is again
(`unbound_run`, `not_carries_run`).

* `torn_down_id_retired`: the id of a match that was torn down never comes back.
-/

namespace Rendezvous.Store

variable {s : Store} {c : Command} {cs : List Command} {u v m : Text}

/-! ## The ids of a history -/

theorem matchId?_deed (s : Store) (c : Command) :
    (s.deed c).outcome.matchId? = (s.deed c).pairing?.map (·.matchId) := by
  have t := apply_transition s c
  rw [deed]
  generalize s.apply c = r at t
  cases t with
  | matched | rejected | waits | killRejected | stale | unpaired | notified | swept | timeoutSet =>
    rfl

/-- The ids that a run has drawn are those of its matches. -/
theorem matchIds_history (s : Store) (cs : List Command) :
    matchIds (s.history cs) = (pairings (s.history cs)).map (·.matchId) := by
  rw [matchIds, pairings, List.map_filterMap]
  refine List.filterMap_congr fun d hd => ?_
  obtain ⟨before, after, hsplit⟩ := List.append_of_mem hd
  obtain ⟨cs₁, c, -, -, -, rfl⟩ := history_eq_append_cons hsplit
  exact matchId?_deed _ c

@[simp] theorem length_offered (ids : Nat → Text) (s : Store) (drawn : Nat) (cs : List Command) :
    (offered ids s drawn cs).length = cs.length := by
  induction cs generalizing s drawn with
  | nil => rfl
  | cons c cs ih => rw [offered, List.length_cons, ih, List.length_cons]

/-- Later operations are offered what the earlier ones have left. -/
theorem offered_append (ids : Nat → Text) (s : Store) (drawn : Nat) (cs₁ cs₂ : List Command) :
    ∃ drawn', offered ids s drawn (cs₁ ++ cs₂) =
      offered ids s drawn cs₁ ++ offered ids (s.run (offered ids s drawn cs₁)) drawn' cs₂ := by
  induction cs₁ generalizing s drawn with
  | nil => exact ⟨drawn, rfl⟩
  | cons c cs₁ ih =>
    let c' := c.offer fun n => ids (drawn + n)
    obtain ⟨drawn', h⟩ := ih (s.apply c').store (drawn + (s.apply c').drawn)
    refine ⟨drawn', ?_⟩
    rw [List.cons_append, offered, h]
    rfl

/-! ## Ids that are not in use -/

/-- No identity is bound to an id. -/
def Unbound (s : Store) (m : Text) : Prop := ∀ w, s.matchIdOf? w ≠ some m

/-- A message carries a match id. -/
def Carries (m : Text) (msg : Payload × Endpoint) : Prop :=
  msg.1.members.get? "matchId" = some (.text m)

/-- No match of a history was made under an id. -/
def Unissued (m : Text) (h : List Deed) : Prop := ∀ p ∈ pairings h, p.matchId ≠ m

theorem unissued_cons {d : Deed} {h : List Deed} :
    Unissued m (d :: h) ↔ (∀ p, d.pairing? = some p → p.matchId ≠ m) ∧ Unissued m h := by
  rw [Unissued, Unissued, pairings]
  cases hd : d.pairing? with
  | none => simp [hd, pairings]
  | some p => simp [hd, pairings]

theorem get?_members_introduction {peer : Endpoint} {k : Text} :
    (Payload.introduction peer k).members.get? "matchId" = some (.text m) ↔ k = m := by
  have hpeer : ("peer" : Text) ≠ "matchId" := by decide
  simp [Payload.members, Json.Members.get?, Entries.get?_cons, hpeer]

/-- Nobody is bound to an id unless by a match under it... -/
theorem unbound_apply (hs : s.Unbound m)
    (hc : ∀ p, (s.deed c).pairing? = some p → p.matchId ≠ m) : (s.apply c).store.Unbound m := by
  intro w
  rw [matchIdOf?_apply]
  split
  · intro h
    obtain ⟨p, hp, hpm⟩ := Option.map_eq_some_iff.mp h
    exact hc p hp hpm
  · split
    · exact nofun
    · exact hs w

/-- ... and no message carries it. -/
theorem not_carries_apply (hs : s.Unbound m)
    (hc : ∀ p, (s.deed c).pairing? = some p → p.matchId ≠ m) :
    ∀ msg ∈ (s.deed c).sent, ¬Carries m msg := by
  have t := apply_transition s c
  rw [deed] at hc ⊢
  generalize s.apply c = r at t hc
  cases t with
  | @matched who peer supply target named found =>
    have hne : supply.matchId ≠ m := hc _ rfl
    simp [Deed.sent, Effect.deliveries, Carries, get?_members_introduction, hne]
  | @notified uid peer k survivor named fresh active =>
    have hne : ¬(s.currentId uid peer ≠ [] ∧ s.currentId uid peer = m) := by
      rintro ⟨hk, rfl⟩
      exact (bound_of_currentId hk).elim (hs uid) (hs peer)
    simpa [Deed.sent, Effect.deliveries, Carries, get?_members_teardown] using hne
  | swept =>
    rw [Deed.sent, Effect.deliveries_logs]
    exact List.forall_mem_nil _
  | rejected | waits | killRejected | stale | unpaired | timeoutSet => exact List.forall_mem_nil _

theorem unbound_run (hs : s.Unbound m) (hcs : Unissued m (s.history cs)) :
    (s.run cs).Unbound m := by
  induction cs generalizing s with
  | nil => exact hs
  | cons c cs ih =>
    obtain ⟨hc, hcs⟩ := unissued_cons.mp hcs
    exact ih (unbound_apply hs hc) hcs

theorem not_carries_run (hs : s.Unbound m) (hcs : Unissued m (s.history cs)) :
    ∀ msg ∈ messages (s.history cs), ¬Carries m msg := by
  induction cs generalizing s with
  | nil => exact nofun
  | cons c cs ih =>
    obtain ⟨hc, hcs⟩ := unissued_cons.mp hcs
    rw [history, messages, List.flatMap_cons, List.forall_mem_append]
    exact ⟨not_carries_apply hs hc, ih (unbound_apply hs hc) hcs⟩

/-! ## The two parties of a match -/

section Parties

variable {timeout : Float}

/-- If no id was issued twice, two identities that are bound to one id are all that are. -/
theorem eq_or_eq_of_bound
    (hnodup : ((pairings ((empty timeout).history cs)).map (·.matchId)).Nodup) (huv : u ≠ v)
    (hu : ((empty timeout).run cs).matchIdOf? u = some m)
    (hv : ((empty timeout).run cs).matchIdOf? v = some m) {w : Text}
    (hw : ((empty timeout).run cs).matchIdOf? w = some m) : w = u ∨ w = v := by
  -- all three took part in a match under the id, and there was only one
  rw [matchIdOf?_run] at hu hv hw
  obtain ⟨p, hp, hpm, hpu⟩ := pairing_of_matchInForce? hu
  obtain ⟨q, hq, hqm, hqv⟩ := pairing_of_matchInForce? hv
  obtain ⟨r, hr, hrm, hrw⟩ := pairing_of_matchInForce? hw
  obtain rfl := List.inj_on_of_nodup_map hnodup hp hq (hpm.trans hqm.symm)
  obtain rfl := List.inj_on_of_nodup_map hnodup hp hr (hpm.trans hrm.symm)
  have hwp : w = p.registrant ∨ w = p.target := hrw.imp Eq.symm Eq.symm
  rcases hpu with rfl | rfl
  · obtain rfl := hqv.resolve_left huv
    exact hwp
  · obtain rfl := hqv.resolve_right huv
    exact hwp.symm

/-- A kill between the two that tells its peer leaves nobody bound to the id. -/
theorem unbound_of_notified {k : Text}
    (hnodup : ((pairings ((empty timeout).history cs)).map (·.matchId)).Nodup) (huv : u ≠ v)
    (hu : ((empty timeout).run cs).matchIdOf? u = some m)
    (hv : ((empty timeout).run cs).matchIdOf? v = some m)
    (hkill : (((empty timeout).run cs).kill u v k).outcome = .notified) :
    (((empty timeout).run cs).apply (.kill u v k)).store.Unbound m := by
  intro w
  have htears : (((empty timeout).run cs).deed (.kill u v k)).tearsDown w =
      (decide (u = w) || decide (v = w)) := by
    rw [deed, apply, Step.map, hkill]
    rfl
  have hpairs : ¬(((empty timeout).run cs).deed (.kill u v k)).pairs w := Bool.false_ne_true
  rw [matchIdOf?_apply, if_neg hpairs, htears]
  split
  · exact (Option.some_ne_none m).symm
  · next hother =>
    intro hw
    rcases eq_or_eq_of_bound hnodup huv hu hv hw with rfl | rfl <;> simp at hother

end Parties

/-! ## Kills about an id that is not in use -/

/-- Nobody is bound to the empty id. -/
def BoundToNames (s : Store) : Prop := ∀ w k, s.matchIdOf? w = some k → k ≠ []

/-- A kill about an id to which nobody is bound is stale if one of its identities is bound. -/
theorem isStale_of_unbound {x y : Text} (hnames : s.BoundToNames) (hm : m ≠ [])
    (hs : s.Unbound m) (hbound : s.matchIdOf? x ≠ none ∨ s.matchIdOf? y ≠ none) :
    s.IsStale x y m := by
  have hcurrent : s.currentId x y ≠ [] := by
    cases hx : s.matchIdOf? x with
    | some k =>
      rw [currentId_of_bound (hnames x k hx) hx]
      exact hnames x k hx
    | none =>
      obtain ⟨k, hy⟩ := Option.ne_none_iff_exists'.mp (hbound.resolve_left (not_not.mpr hx))
      rw [currentId_of_unbound (by simp [hx]) hy]
      exact hnames y k hy
  refine ⟨hm, hcurrent, ?_⟩
  rintro rfl
  exact (bound_of_currentId hcurrent).elim (hs x) (hs y)

/-- Runs that issue no empty id bind nobody to it. -/
theorem boundToNames_run {timeout : Float}
    (h : ∀ p ∈ pairings ((empty timeout).history cs), p.matchId ≠ []) :
    ((empty timeout).run cs).BoundToNames := by
  intro w k hw
  rw [matchIdOf?_run] at hw
  obtain ⟨p, hp, rfl, -⟩ := pairing_of_matchInForce? hw
  exact h p hp

/-! ## Runs -/

/-- A match id is over, on a store and for what was done since: nobody is bound to it, no message
    carries it, and a kill about it is stale if it names an identity that is bound. -/
structure Retired (m : Text) (s : Store) (since : List Deed) : Prop where
  unbound : ∀ w, s.matchIdOf? w ≠ some m
  untold : ∀ msg ∈ messages since, ¬Carries m msg
  stale : ∀ x y, x ≠ [] → y ≠ [] → (s.matchIdOf? x ≠ none ∨ s.matchIdOf? y ≠ none) →
    (s.kill x y m).outcome = .stale ∧ Effect.deliveries (s.kill x y m).effects = [] ∧
      (s.kill x y m).store = s

/-- An id to which nobody is bound is over if it is never issued again. -/
theorem retired_run (hs : s.Unbound m) (hm : m ≠ []) (hcs : Unissued m (s.history cs))
    (hnames : (s.run cs).BoundToNames) : Retired m (s.run cs) (s.history cs) where
  unbound := unbound_run hs hcs
  untold := not_carries_run hs hcs
  stale x y hx hy hbound := by
    rw [kill_of_stale ⟨hx, hy⟩ (isStale_of_unbound hnames hm (unbound_run hs hcs) hbound)]
    exact ⟨rfl, rfl, rfl⟩

/-- After a kill between two identities that are bound to an id, the id is over. -/
theorem retired_of_notified {timeout : Float} {k : Text} {later : List Command}
    (hnodup : ((pairings ((empty timeout).history (cs ++ .kill u v k :: later))).map
      (·.matchId)).Nodup)
    (hnames : ∀ p ∈ pairings ((empty timeout).history (cs ++ .kill u v k :: later)), p.matchId ≠ [])
    (huv : u ≠ v) (hu : ((empty timeout).run cs).matchIdOf? u = some m)
    (hv : ((empty timeout).run cs).matchIdOf? v = some m)
    (hkill : (((empty timeout).run cs).kill u v k).outcome = .notified) :
    Retired m ((empty timeout).run (cs ++ .kill u v k :: later))
      (((empty timeout).history (cs ++ .kill u v k :: later)).drop (cs.length + 1)) := by
  have hnamed := boundToNames_run hnames
  -- the run and its history, cut behind the kill
  have hrun : (empty timeout).run (cs ++ .kill u v k :: later) =
      (((empty timeout).run cs).apply (.kill u v k)).store.run later := by
    rw [run_append, run_cons]
  have hsplit : (empty timeout).history (cs ++ .kill u v k :: later) =
      (empty timeout).history cs ++ ((empty timeout).run cs).deed (.kill u v k) ::
        (((empty timeout).run cs).apply (.kill u v k)).store.history later := history_append ..
  have hlater : ((empty timeout).history (cs ++ .kill u v k :: later)).drop (cs.length + 1) =
      (((empty timeout).run cs).apply (.kill u v k)).store.history later := by
    rw [hsplit, List.append_cons]
    exact List.drop_left' (by simp)
  rw [hsplit, pairings, List.filterMap_append, List.map_append, List.nodup_append] at hnodup
  rw [hsplit, pairings, List.filterMap_append, List.forall_mem_append] at hnames
  rw [hrun] at hnamed
  obtain ⟨hearlier, -, hdisjoint⟩ := hnodup
  -- the match that bound the two was made before the kill, so none behind it has the id
  have hbound := hu
  rw [matchIdOf?_run] at hbound
  obtain ⟨p, hp, rfl, -⟩ := pairing_of_matchInForce? hbound
  have hunissued : Unissued p.matchId
      ((((empty timeout).run cs).apply (.kill u v k)).store.history later) := fun q hq hqp =>
    hdisjoint p.matchId (List.mem_map_of_mem hp) q.matchId (List.mem_map_of_mem hq) hqp.symm
  rw [hlater, hrun]
  exact retired_run (unbound_of_notified hearlier huv hu hv hkill) (hnames.1 p hp) hunissued hnamed

/-- **A match id that was torn down is over for good**, in every run from a source that never
    repeats an id and yields no empty one: after a kill between two different identities, both bound
    to the id, that told its peer, whatever is done later. -/
theorem torn_down_id_retired (timeout : Float) {ids : Nat → Text} (hids : Function.Injective ids)
    (hnames : ∀ n, ids n ≠ []) {cs : List Command} {u v k m : Text} (huv : u ≠ v)
    (hu : (runFrom ids timeout cs).matchIdOf? u = some m)
    (hv : (runFrom ids timeout cs).matchIdOf? v = some m)
    (hkill : ((runFrom ids timeout cs).kill u v k).outcome = .notified) (later : List Command) :
    Retired m (runFrom ids timeout (cs ++ .kill u v k :: later))
      ((historyFrom ids timeout (cs ++ .kill u v k :: later)).drop (cs.length + 1)) := by
  have hids' := nodup_matchIds hids timeout (cs ++ .kill u v k :: later)
  have hnames' : ∀ n ∈ matchIds (historyFrom ids timeout (cs ++ .kill u v k :: later)), n ≠ [] := by
    rw [historyFrom, matchIds_offered]
    intro n hn
    obtain ⟨i, -, rfl⟩ := List.mem_map.mp hn
    exact hnames i
  -- a kill is offered an id as well, but has no use for it
  obtain ⟨drawn, hoffered⟩ := offered_append ids (empty timeout) 0 cs (.kill u v k :: later)
  rw [runFrom] at hu hv hkill
  rw [historyFrom, hoffered, matchIds_history] at hids' hnames'
  have hretired := retired_of_notified hids' (fun p hp => hnames' _ (List.mem_map_of_mem hp)) huv hu
    hv hkill
  rw [length_offered] at hretired
  rw [runFrom, historyFrom, hoffered]
  exact hretired

/-- Partners who part, and one of whom then finds another peer. -/
def parted : List Command :=
  [ .register ⟨"a", "10.0.0.1", 1001⟩ "b" (.of 1000 1000 1000 []),
    .register ⟨"b", "10.0.0.2", 1002⟩ "a" (.of 1000 1000 1000 []),
    .kill "a" "b" [],
    .register ⟨"b", "10.0.0.2", 1002⟩ "c" (.of 1000 1000 1000 []),
    .register ⟨"c", "10.0.0.3", 1003⟩ "b" (.of 1000 1000 1000 []) ]

/-- After `parted`, a late copy of the kill, with the id of the match that is over, is stale. -/
theorem stale_after_parted :
    Function.Injective tally ∧ (∀ n, tally n ≠ []) ∧
      (runFrom tally 30 (parted.take 2)).matchIdOf? "a" = some (tally 0) ∧
      (runFrom tally 30 (parted.take 2)).matchIdOf? "b" = some (tally 0) ∧
      (runFrom tally 30 parted).matchIdOf? "b" = some (tally 1) ∧
      ((runFrom tally 30 parted).kill "a" "b" (tally 0)).outcome = .stale := by
  have hnames : ∀ n, tally n ≠ [] := fun n => by simp [tally]
  have ha : (runFrom tally 30 (parted.take 2)).matchIdOf? "a" = some (tally 0) := by decide
  have hb : (runFrom tally 30 (parted.take 2)).matchIdOf? "b" = some (tally 0) := by decide
  have hkill : ((runFrom tally 30 (parted.take 2)).kill "a" "b" []).outcome = .notified := by decide
  have hagain : (runFrom tally 30 parted).matchIdOf? "b" = some (tally 1) := by decide
  have hbound : (runFrom tally 30 parted).matchIdOf? "b" ≠ none := by
    rw [hagain]
    exact Option.some_ne_none _
  have hretired := torn_down_id_retired 30 tally_injective hnames (by decide) ha hb hkill
    (parted.drop 3)
  exact ⟨tally_injective, hnames, ha, hb, hagain,
    (hretired.stale "a" "b" (by decide) (by decide) (.inr hbound)).1⟩

end Rendezvous.Store
