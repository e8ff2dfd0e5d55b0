import Rendezvous.Proofs.Routine
import Rendezvous.Store

/-!
# What an operation can do

`Transition s c r` has one constructor for each way in which the operation `c` can end on the store
`s`: what held of `s` when it ended so, and the step `r` with its store, outcome and effects.
`apply_transition` says that there are no other ways, so that an invariant of the store is a proof
by cases on a transition and no later proof opens an operation.

The stores that come out are named by what was done to them (`sight`, `join`, `deactivate`,
`unbind`); each has one lemma a table, through the view `get?`.
-/

namespace Rendezvous.Store

variable {s : Store}

/-! ## Changes of a store -/

/-- A table without two keys. -/
theorem get?_erase_pair {α : Type} (t : Table Text α) (uid peer u : Text) :
    ((t.erase uid).erase peer).get? u = if uid = u ∨ peer = u then none else t.get? u := by
  rw [Table.get?_erase, Table.get?_erase]
  by_cases hp : peer = u <;> simp [hp]

/-! ### The waiting table -/

theorem sight_waiting (seen : Sighting) (u : Text) :
    (s.sight seen).waiting.get? u =
      if seen.endpoint.uid = u then some seen else s.waiting.get? u :=
  Table.get?_insert ..

theorem join_waiting (uid peer : Text) (target : Sighting) (m u : Text) :
    (s.join uid peer target m).waiting.get? u =
      if uid = u ∨ peer = u then none else s.waiting.get? u :=
  get?_erase_pair ..

@[simp] theorem deactivate_waiting (uid peer : Text) :
    (s.deactivate uid peer).waiting = s.waiting := rfl

@[simp] theorem unbind_waiting (uid peer : Text) : (s.unbind uid peer).waiting = s.waiting := rfl

/-! ### The active table -/

theorem sight_active (seen : Sighting) (u : Text) :
    (s.sight seen).active.get? u =
      if seen.endpoint.uid = u then some seen else s.active.get? u :=
  Table.get?_insert ..

theorem join_active (uid peer : Text) (target : Sighting) (m u : Text) :
    (s.join uid peer target m).active.get? u =
      if peer = u then some target else s.active.get? u :=
  Table.get?_insert ..

theorem deactivate_active (uid peer u : Text) :
    (s.deactivate uid peer).active.get? u =
      if uid = u ∨ peer = u then none else s.active.get? u :=
  get?_erase_pair ..

/-- What is left of the active table was there before. -/
theorem get?_of_deactivate {uid peer u : Text} {seen : Sighting}
    (h : (s.deactivate uid peer).active.get? u = some seen) : s.active.get? u = some seen := by
  rw [deactivate_active] at h
  split at h
  · nomatch h
  · exact h

@[simp] theorem unbind_active (uid peer : Text) : (s.unbind uid peer).active = s.active := rfl

/-! ### The bindings -/

@[simp] theorem sight_bindings (seen : Sighting) : (s.sight seen).bindings = s.bindings := rfl

theorem join_bindings (uid peer : Text) (target : Sighting) (m u : Text) :
    (s.join uid peer target m).bindings.get? u =
      if uid = u ∨ peer = u then some m else s.bindings.get? u := by
  show ((s.bindings.insert uid m).insert peer m).get? u = _
  rw [Table.get?_insert, Table.get?_insert]
  by_cases hp : peer = u <;> simp [hp]

@[simp] theorem deactivate_bindings (uid peer : Text) :
    (s.deactivate uid peer).bindings = s.bindings := rfl

theorem unbind_bindings (uid peer u : Text) :
    (s.unbind uid peer).bindings.get? u =
      if uid = u ∨ peer = u then none else s.bindings.get? u :=
  get?_erase_pair ..

/-! ### Sweeps -/

/-- Takes what has expired out of both tables. -/
def prune (s : Store) (now : Float) : Store :=
  { s with
    waiting := unexpired now s.peerTimeout s.waiting
    active := unexpired now s.peerTimeout s.active }

/-- What a sweep logs of that. -/
def pruneLog (s : Store) (now : Float) : List Notice :=
  (expiredEntries now s.peerTimeout s.waiting).map (fun e => .expired .waiting e.1) ++
    (expiredEntries now s.peerTimeout s.active).map fun e => .expired .active e.1

/-- A sweep keeps an entry exactly if its age test fails. -/
theorem get?_unexpired (now timeout : Float) (t : Table Text Sighting) (u : Text) :
    (unexpired now timeout t).get? u = (t.get? u).filter fun seen => !expired now timeout seen :=
  Table.get?_filter ..

/-- What a sweep leaves was there before. -/
theorem get?_of_unexpired {now timeout : Float} {t : Table Text Sighting} {u : Text}
    {seen : Sighting} (h : (unexpired now timeout t).get? u = some seen) :
    t.get? u = some seen := by
  rw [get?_unexpired] at h
  exact (Option.filter_eq_some_iff.mp h).1

/-! ## The operations case by case -/

/-- A registration without one of its identities is rejected. -/
theorem register_of_missing {who : Endpoint} {peer : Text} (supply : Supply)
    (missing : who.uid = [] ∨ peer = []) :
    s.register who peer supply =
      ⟨s, .rejected, [.log (.incompleteRegistration who.address who.port)], 0, 0⟩ := by
  rw [register, registration, if_pos (by simpa using missing)]
  rfl

/-- A registrant waits if its peer does not wait, once the registrant itself is entered. -/
theorem register_of_absent {who : Endpoint} {peer : Text} {supply : Supply}
    (named : who.uid ≠ [] ∧ peer ≠ [])
    (absent : (s.sight ⟨who, supply.now⟩).waiting.get? peer = none) :
    s.register who peer supply =
      ⟨s.sight ⟨who, supply.now⟩, .waiting, [.log (.stored who), .log (.waits who.uid peer)],
        1, 0⟩ := by
  rw [Supply.now] at absent ⊢
  rw [register, registration, if_neg (by simpa using named), step]
  simp only [Routine.execute, World.recording, absent]
  rfl

/-- A registrant is matched with a peer that waits. -/
theorem register_of_found {who : Endpoint} {peer : Text} {supply : Supply} {target : Sighting}
    (named : who.uid ≠ [] ∧ peer ≠ [])
    (found : (s.sight ⟨who, supply.now⟩).waiting.get? peer = some target) :
    s.register who peer supply =
      ⟨(s.sight ⟨who, supply.now⟩).join who.uid peer target supply.matchId,
        .matched supply.matchId target.endpoint,
        [ .log (.stored who),
          .send (.introduction target.endpoint supply.matchId) who,
          .send (.introduction who supply.matchId) target.endpoint,
          .log (.matched supply.matchId who.uid peer (supply.sendEnd - supply.sendStart)) ],
        3, 1⟩ := by
  rw [Supply.now] at found ⊢
  rw [register, registration, if_neg (by simpa using named), step]
  simp only [Routine.execute, World.recording, found]
  rfl

/-- A kill without one of its identities is rejected. -/
theorem kill_of_missing {uid peer : Text} (m : Text) (missing : uid = [] ∨ peer = []) :
    s.kill uid peer m = ⟨s, .rejected, [.log .incompleteKill], 0, 0⟩ := by
  rw [kill, teardown, if_pos (by simpa using missing)]
  rfl

/-- A kill is stale on a store if it is about another match than the current one of its two
    identities. -/
def IsStale (s : Store) (uid peer m : Text) : Prop :=
  m ≠ [] ∧ s.currentId uid peer ≠ [] ∧ m ≠ s.currentId uid peer

instance (s : Store) (uid peer m : Text) : Decidable (s.IsStale uid peer m) :=
  inferInstanceAs (Decidable (_ ∧ _ ∧ _))

/-- A stale kill changes nothing. -/
theorem kill_of_stale {uid peer m : Text} (named : uid ≠ [] ∧ peer ≠ [])
    (stale : s.IsStale uid peer m) :
    s.kill uid peer m = ⟨s, .stale, [.log (.staleKill uid m (s.currentId uid peer))], 0, 0⟩ := by
  rw [kill, teardown, if_neg (by simpa using named), step, Routine.execute]
  simp only
  rw [if_pos (by simpa [IsStale, and_assoc] using stale)]
  rfl

/-- A kill of an inactive peer tells nobody, and bindings stay. -/
theorem kill_of_inactive {uid peer m : Text} (named : uid ≠ [] ∧ peer ≠ [])
    (fresh : ¬s.IsStale uid peer m) (inactive : s.active.get? peer = none) :
    s.kill uid peer m =
      ⟨s.deactivate uid peer, .unpaired, [.log (.nobodyToNotify uid peer)], 0, 0⟩ := by
  rw [kill, teardown, if_neg (by simpa using named), step, Routine.execute]
  simp only
  rw [if_neg (by simpa [IsStale, and_assoc] using fresh), Routine.execute, inactive]
  rfl

/-- A kill of an active peer tells the peer. -/
theorem kill_of_active {uid peer m : Text} {survivor : Sighting} (named : uid ≠ [] ∧ peer ≠ [])
    (fresh : ¬s.IsStale uid peer m) (active : s.active.get? peer = some survivor) :
    s.kill uid peer m =
      ⟨(s.deactivate uid peer).unbind uid peer, .notified,
        [ .send (.teardown uid (s.currentId uid peer)) survivor.endpoint,
          .log (.killed uid peer s.waiting.size (s.deactivate uid peer).active.size) ], 0, 0⟩ := by
  rw [kill, teardown, if_neg (by simpa using named), step, Routine.execute]
  simp only
  rw [if_neg (by simpa [IsStale, and_assoc] using fresh), Routine.execute, active]
  rfl

/-- A kill takes neither time nor ids from the world. -/
theorem step_teardown (s : Store) (supply : Supply) (uid peer m : Text) :
    s.step supply (teardown uid peer m) = s.kill uid peer m := by
  rw [kill, teardown]
  split
  · rfl
  · rw [step, step, Routine.execute, Routine.execute]
    simp only
    split
    · rfl
    · rw [Routine.execute, Routine.execute]
      cases s.active.get? peer <;> rfl

/-- A sweep takes out what has expired, counts it and logs it. -/
theorem sweep_eq (s : Store) (now : Float) :
    s.sweep now =
      ⟨s.prune now,
        ((expiredEntries now s.peerTimeout s.waiting).length,
          (expiredEntries now s.peerTimeout s.active).length),
        (s.pruneLog now).map .log, 1, 0⟩ := by
  rw [sweep, step, expiry]
  simp only [Routine.execute, Routine.execute_logAll]
  simp [Execution.after, Execution.toStep, World.recording, Supply.of, prune, pruneLog]

/-! ## The ways an operation can end -/

/-- The operation `c` can end on the store `s` with the step that is the last argument. -/
inductive Transition (s : Store) : Command → Step Outcome → Prop
  | rejected {who : Endpoint} {peer : Text} {supply : Supply}
      (missing : who.uid = [] ∨ peer = []) :
      Transition s (.register who peer supply)
        ⟨s, .registered .rejected, [.log (.incompleteRegistration who.address who.port)], 0, 0⟩
  | waits {who : Endpoint} {peer : Text} {supply : Supply}
      (named : who.uid ≠ [] ∧ peer ≠ [])
      (absent : (s.sight ⟨who, supply.now⟩).waiting.get? peer = none) :
      Transition s (.register who peer supply)
        ⟨s.sight ⟨who, supply.now⟩, .registered .waiting,
          [.log (.stored who), .log (.waits who.uid peer)], 1, 0⟩
  | matched {who : Endpoint} {peer : Text} {supply : Supply} {target : Sighting}
      (named : who.uid ≠ [] ∧ peer ≠ [])
      (found : (s.sight ⟨who, supply.now⟩).waiting.get? peer = some target) :
      Transition s (.register who peer supply)
        ⟨(s.sight ⟨who, supply.now⟩).join who.uid peer target supply.matchId,
          .registered (.matched supply.matchId target.endpoint),
          [ .log (.stored who),
            .send (.introduction target.endpoint supply.matchId) who,
            .send (.introduction who supply.matchId) target.endpoint,
            .log (.matched supply.matchId who.uid peer (supply.sendEnd - supply.sendStart)) ],
          3, 1⟩
  | killRejected {uid peer m : Text} (missing : uid = [] ∨ peer = []) :
      Transition s (.kill uid peer m) ⟨s, .killed .rejected, [.log .incompleteKill], 0, 0⟩
  | stale {uid peer m : Text} (named : uid ≠ [] ∧ peer ≠ [])
      (stale : s.IsStale uid peer m) :
      Transition s (.kill uid peer m)
        ⟨s, .killed .stale, [.log (.staleKill uid m (s.currentId uid peer))], 0, 0⟩
  | unpaired {uid peer m : Text} (named : uid ≠ [] ∧ peer ≠ [])
      (fresh : ¬s.IsStale uid peer m)
      (inactive : s.active.get? peer = none) :
      Transition s (.kill uid peer m)
        ⟨s.deactivate uid peer, .killed .unpaired, [.log (.nobodyToNotify uid peer)], 0, 0⟩
  | notified {uid peer m : Text} {survivor : Sighting} (named : uid ≠ [] ∧ peer ≠ [])
      (fresh : ¬s.IsStale uid peer m)
      (active : s.active.get? peer = some survivor) :
      Transition s (.kill uid peer m)
        ⟨(s.deactivate uid peer).unbind uid peer, .killed .notified,
          [ .send (.teardown uid (s.currentId uid peer)) survivor.endpoint,
            .log (.killed uid peer s.waiting.size (s.deactivate uid peer).active.size) ], 0, 0⟩
  | swept {now : Float} :
      Transition s (.sweep now)
        ⟨s.prune now,
          .swept (expiredEntries now s.peerTimeout s.waiting).length
            (expiredEntries now s.peerTimeout s.active).length,
          (s.pruneLog now).map .log, 1, 0⟩
  | timeoutSet {seconds : Float} :
      Transition s (.setTimeout seconds) ⟨{ s with peerTimeout := seconds }, .timeoutSet, [], 0, 0⟩

/-- A registration ends in one of its three ways. -/
theorem register_transition (who : Endpoint) (peer : Text) (supply : Supply) :
    Transition s (.register who peer supply) (s.apply (.register who peer supply)) := by
  rw [apply]
  by_cases missing : who.uid = [] ∨ peer = []
  · rw [register_of_missing supply missing]
    exact .rejected missing
  · have named : who.uid ≠ [] ∧ peer ≠ [] := not_or.mp missing
    cases found : (s.sight ⟨who, supply.now⟩).waiting.get? peer with
    | none =>
      rw [register_of_absent named found]
      exact .waits named found
    | some target =>
      rw [register_of_found named found]
      exact .matched named found

/-- A kill ends in one of its four ways. -/
theorem kill_transition (uid peer m : Text) :
    Transition s (.kill uid peer m) (s.apply (.kill uid peer m)) := by
  rw [apply]
  by_cases missing : uid = [] ∨ peer = []
  · rw [kill_of_missing m missing]
    exact .killRejected missing
  · have named : uid ≠ [] ∧ peer ≠ [] := not_or.mp missing
    by_cases stale : s.IsStale uid peer m
    · rw [kill_of_stale named stale]
      exact .stale named stale
    · cases active : s.active.get? peer with
      | none =>
        rw [kill_of_inactive named stale active]
        exact .unpaired named stale active
      | some survivor =>
        rw [kill_of_active named stale active]
        exact .notified named stale active

/-- **Every operation ends in one of the ways above.** -/
theorem apply_transition (s : Store) (c : Command) : Transition s c (s.apply c) := by
  cases c with
  | register who peer supply => exact register_transition who peer supply
  | kill uid peer m => exact kill_transition uid peer m
  | sweep now =>
    rw [apply, sweep_eq]
    exact .swept
  | setTimeout seconds => exact .timeoutSet

/-- The step of a transition is the one that the operation makes. -/
theorem Transition.apply_eq {c : Command} {r : Step Outcome} (t : Transition s c r) :
    s.apply c = r := by
  cases t with
  | rejected missing => exact congrArg (Step.map Outcome.registered) (register_of_missing _ missing)
  | waits named absent =>
    exact congrArg (Step.map Outcome.registered) (register_of_absent named absent)
  | matched named found =>
    exact congrArg (Step.map Outcome.registered) (register_of_found named found)
  | killRejected missing => exact congrArg (Step.map Outcome.killed) (kill_of_missing _ missing)
  | stale named stale => exact congrArg (Step.map Outcome.killed) (kill_of_stale named stale)
  | unpaired named fresh inactive =>
    exact congrArg (Step.map Outcome.killed) (kill_of_inactive named fresh inactive)
  | notified named fresh active =>
    exact congrArg (Step.map Outcome.killed) (kill_of_active named fresh active)
  | @swept now => rw [apply, sweep_eq, Step.map]
  | timeoutSet => rfl

end Rendezvous.Store
