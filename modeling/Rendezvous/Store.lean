import Rendezvous.Routine

/-!
# The match store

Three tables: who waits for a peer, who is active, and the match id to which an identity is bound.
There are three operations on them, each written as a routine, with what it does to the tables and
to the world in the order in which it happens.  With a transport that raises nothing an operation is
a function from a store to a `Step`: the store after it, its outcome, and what it did to the world.

A registration puts the registrant into both tables.  If the peer it names waits too, the two are
matched, whoever the peer asked for: both are bound to a new id, both leave the waiting table, and
each is sent the endpoint of the other.  A kill tears a match down; a sweep removes what has
expired.
-/

namespace Rendezvous

/-! ## Types -/

/-- An endpoint and when it was last heard. -/
structure Sighting where
  /-- The endpoint. -/
  endpoint : Endpoint
  /-- The reading of the clock. -/
  lastSeen : Float

/-- The tables of the server. -/
structure Store where
  /-- The identities that wait for a peer. -/
  waiting : Table Text Sighting
  /-- The identities that a kill can notify. -/
  active : Table Text Sighting
  /-- The id of the last match of an identity. -/
  bindings : Table Text Text
  /-- The age beyond which a sweep removes an entry. -/
  peerTimeout : Float

/-- How a registration ended. -/
inductive Registration where
  /-- An identity was missing. -/
  | rejected
  /-- The peer does not wait. -/
  | waiting
  /-- The registrant and this endpoint are matched. -/
  | matched (matchId : Text) (peer : Endpoint)
  deriving DecidableEq

/-- How a kill ended. -/
inductive Teardown where
  /-- An identity was missing. -/
  | rejected
  /-- It was about a match that is over. -/
  | stale
  /-- The peer was not active. -/
  | unpaired
  /-- The peer was told. -/
  | notified
  deriving DecidableEq

/-- The result of an operation. -/
structure Step (β : Type) where
  /-- The store after the operation. -/
  store : Store
  /-- How it ended. -/
  outcome : β
  /-- What it does to the world, in order. -/
  effects : List Effect
  /-- How often it reads the clock. -/
  readings : Nat
  /-- How many match ids it draws. -/
  drawn : Nat

/-- The result of a routine whose transport raises nothing. -/
def Execution.toStep {β : Type} : Execution Store Effect Empty β → Step β
  | ⟨store, .ok outcome, _, effects, readings, drawn⟩ => ⟨store, outcome, effects, readings, drawn⟩

/-- The same result with another name for how it ended. -/
def Step.map {β γ : Type} (f : β → γ) (r : Step β) : Step γ := { r with outcome := f r.outcome }

namespace Store

/-- The store of a server that has heard from nobody. -/
def empty (peerTimeout : Float) : Store := ⟨∅, ∅, ∅, peerTimeout⟩

/-! ## Views -/

/-- Whether an identity waits for a peer. -/
def isWaiting (s : Store) (uid : Text) : Bool := s.waiting.contains uid

/-- Whether an identity is active. -/
def isActive (s : Store) (uid : Text) : Bool := s.active.contains uid

/-- The match id to which an identity is bound. -/
def matchIdOf? (s : Store) (uid : Text) : Option Text := s.bindings.get? uid

/-- Carries out a routine with a transport that raises nothing. -/
def step {β : Type} (s : Store) (supply : Supply) (routine : Routine Store β) : Step β :=
  (routine.execute (.recording supply) s 0 0).toStep

/-! ## Registration -/

/-- Enters a sighting into both tables: the endpoint waits, and is active provisionally. -/
def sight (s : Store) (seen : Sighting) : Store :=
  { s with
    waiting := s.waiting.insert seen.endpoint.uid seen
    active := s.active.insert seen.endpoint.uid seen }

/-- Matches `uid` with `peer`, last seen as `target`: both leave the waiting table and are bound. -/
def join (s : Store) (uid peer : Text) (target : Sighting) (matchId : Text) : Store :=
  { s with
    waiting := (s.waiting.erase uid).erase peer
    active := s.active.insert peer target
    bindings := (s.bindings.insert uid matchId).insert peer matchId }

/-- An endpoint registers, whose identity asks for `peer`. -/
def registration (who : Endpoint) (peer : Text) : Routine Store Registration :=
  if who.uid.isEmpty || peer.isEmpty then
    .log (.incompleteRegistration who.address who.port) <|
    .done .rejected
  else
    .readClock fun now =>
    .change (sight · ⟨who, now⟩) <|
    .log (.stored who) <|
    .look fun s =>
    match s.waiting.get? peer with
    | none =>
      .log (.waits who.uid peer) <|
      .done .waiting
    | some target =>
      .drawId fun matchId =>
      .change (join · who.uid peer target matchId) <|
      .readClock fun start =>
      .send (.introduction target.endpoint matchId) who <|
      .send (.introduction who matchId) target.endpoint <|
      .readClock fun finish =>
      .log (.matched matchId who.uid peer (finish - start)) <|
      .done (.matched matchId target.endpoint)

/-- Registers an endpoint whose identity asks for `peer`. -/
def register (s : Store) (who : Endpoint) (peer : Text) (supply : Supply) : Step Registration :=
  s.step supply (registration who peer)

/-! ## Kill -/

/-- The id of the match that a kill between two identities is about: the binding of the first, or of
    the second if the first has none; empty if neither is bound. -/
def currentId (s : Store) (uid peer : Text) : Text :=
  let own := (s.bindings.get? uid).getD []
  if own.isEmpty then (s.bindings.get? peer).getD [] else own

/-- Takes two identities out of the active table. -/
def deactivate (s : Store) (uid peer : Text) : Store :=
  { s with active := (s.active.erase uid).erase peer }

/-- Takes the bindings of two identities away. -/
def unbind (s : Store) (uid peer : Text) : Store :=
  { s with bindings := (s.bindings.erase uid).erase peer }

/-- The match between `uid`, who asks for it, and `peer` is torn down.  An id that is not the one of
    the current match makes the kill stale.  The bindings go when the peer has been told. -/
def teardown (uid peer matchId : Text) : Routine Store Teardown :=
  if uid.isEmpty || peer.isEmpty then
    .log .incompleteKill <|
    .done .rejected
  else
    .look fun s =>
    let current := s.currentId uid peer
    if !matchId.isEmpty && !current.isEmpty && matchId ≠ current then
      .log (.staleKill uid matchId current) <|
      .done .stale
    else
      .change (deactivate · uid peer) <|
      match s.active.get? peer with
      | none =>
        .log (.nobodyToNotify uid peer) <|
        .done .unpaired
      | some survivor =>
        .send (.teardown uid current) survivor.endpoint <|
        .change (unbind · uid peer) <|
        .look fun s =>
        .log (.killed uid peer s.waiting.size s.active.size) <|
        .done .notified

/-- Tears down the match between `uid`, who asks for it, and `peer`. -/
def kill (s : Store) (uid peer matchId : Text) : Step Teardown :=
  s.step .nothing (teardown uid peer matchId)

/-! ## Expiry -/

/-- The age test: a reading lies more than the timeout after the last sighting. -/
def expired (now timeout : Float) (seen : Sighting) : Bool := now - seen.lastSeen > timeout

/-- The entries of a table that a sweep removes. -/
def expiredEntries (now timeout : Float) (t : Table Text Sighting) : List (Text × Sighting) :=
  t.entries.filter fun e => expired now timeout e.2

/-- The entries of a table that a sweep keeps. -/
def unexpired (now timeout : Float) (t : Table Text Sighting) : Table Text Sighting :=
  t.filter fun e => !expired now timeout e.2

/-- The expired entries of both tables are removed; bindings stay.  The outcome is how many entries
    of the waiting and of the active table were removed. -/
def expiry : Routine Store (Nat × Nat) :=
  .readClock fun now =>
  .look fun s =>
  let waiting := expiredEntries now s.peerTimeout s.waiting
  let active := expiredEntries now s.peerTimeout s.active
  .change (fun s => { s with waiting := unexpired now s.peerTimeout s.waiting }) <|
  .logAll (waiting.map fun e => .expired .waiting e.1) <|
  .change (fun s => { s with active := unexpired now s.peerTimeout s.active }) <|
  .logAll (active.map fun e => .expired .active e.1) <|
  .done (waiting.length, active.length)

/-- Removes the expired entries of both tables at a reading of the clock. -/
def sweep (s : Store) (now : Float) : Step (Nat × Nat) := s.step (.of now now now []) expiry

/-! ## All operations as one -/

/-- An operation with all it takes from the world. -/
inductive Command where
  /-- An endpoint asks for a peer. -/
  | register (who : Endpoint) (peer : Text) (supply : Supply)
  /-- An identity leaves its peer. -/
  | kill (uid peer matchId : Text)
  /-- The expired entries are removed. -/
  | sweep (now : Float)
  /-- The timeout is changed. -/
  | setTimeout (seconds : Float)

/-- How an operation ended. -/
inductive Outcome where
  | registered (how : Registration)
  | killed (how : Teardown)
  | swept (waiting active : Nat)
  | timeoutSet
  deriving DecidableEq

/-- Carries out an operation. -/
def apply (s : Store) : Command → Step Outcome
  | .register who peer supply => (s.register who peer supply).map .registered
  | .kill uid peer matchId => (s.kill uid peer matchId).map .killed
  | .sweep now => (s.sweep now).map fun removed => .swept removed.1 removed.2
  | .setTimeout seconds => ⟨{ s with peerTimeout := seconds }, .timeoutSet, [], 0, 0⟩

end Store

end Rendezvous
