import Rendezvous.Notice

/-!
# Routines

An operation on the tables is a routine: what it does, one thing after another, in the order in
which it happens.  It reads the clock, draws a match id, looks at the tables or changes them, hands
a payload to the transport, and logs.  What it does next may depend on what it has been given.

A routine is carried out in a world, which has the time, the match ids and a transport.  A transport
can raise an error.  Then the routine ends where it is: what it has changed stays changed, and what
was to come does not happen.  It is part of the contract between the tables and a transport that it
never does.
-/

namespace Rendezvous

/-! ## What a routine asks for -/

/-- A routine on tables of type `σ` that ends in a `β`. -/
inductive Routine (σ β : Type) where
  /-- It has ended. -/
  | done (outcome : β)
  /-- Reads the clock. -/
  | readClock (next : Float → Routine σ β)
  /-- Draws a match id. -/
  | drawId (next : Text → Routine σ β)
  /-- Looks at the tables. -/
  | look (next : σ → Routine σ β)
  /-- Changes the tables. -/
  | change (f : σ → σ) (next : Routine σ β)
  /-- Hands a payload for an endpoint to the transport. -/
  | send (payload : Payload) (recipient : Endpoint) (next : Routine σ β)
  /-- Logs a notice. -/
  | log (notice : Notice) (next : Routine σ β)

/-- Logs some notices in their order. -/
def Routine.logAll {σ β : Type} (notices : List Notice) (next : Routine σ β) : Routine σ β :=
  notices.foldr .log next

/-! ## Worlds -/

/-- Time and match ids, as they are met from now on. -/
structure Supply where
  /-- The readings of the clock. -/
  reading : Nat → Float
  /-- The match ids. -/
  newId : Nat → Text

namespace Supply

/-- The first reading. -/
def now (s : Supply) : Float := s.reading 0

/-- The second reading: of a registration, before the payloads of a match are sent. -/
def sendStart (s : Supply) : Float := s.reading 1

/-- The third reading: of a registration, after they are sent. -/
def sendEnd (s : Supply) : Float := s.reading 2

/-- The first match id. -/
def matchId (s : Supply) : Text := s.newId 0

/-- The supply with three readings, of which the last is that of a clock that stands still, and one
    match id again and again. -/
def of (now sendStart sendEnd : Float) (matchId : Text) : Supply where
  reading
    | 0 => now
    | 1 => sendStart
    | _ => sendEnd
  newId _ := matchId

/-- The supply of an operation that takes nothing. -/
def nothing : Supply := of 0 0 0 []

end Supply

/-- What came of handing a payload to a transport: what it did, and whether the payload could be
    sent, or the error that it raised. -/
structure Dispatch (ε φ : Type) where
  /-- What the transport did. -/
  events : List ε
  /-- Whether the payload could be sent. -/
  result : Except φ Bool

/-- A world with events of type `ε` and errors of type `φ`. -/
structure World (ε φ : Type) where
  /-- Time and match ids. -/
  supply : Supply
  /-- The transport. -/
  send : Payload → Endpoint → Dispatch ε φ
  /-- The event that a line of the log is. -/
  note : Notice → ε

/-! ## Carrying out a routine -/

/-- What came of a routine. -/
structure Execution (σ ε φ β : Type) where
  /-- The tables after it. -/
  state : σ
  /-- How it ended: by itself, or by an error of the transport. -/
  result : Except φ β
  /-- The payloads that were handed to the transport, with their endpoints. -/
  handed : List (Payload × Endpoint)
  /-- What was done, in order. -/
  events : List ε
  /-- How often the clock was read. -/
  readings : Nat
  /-- How many match ids were drawn. -/
  drawn : Nat

namespace Execution

variable {σ ε φ β γ : Type}

/-- What was handed over and done before, in front of the rest. -/
def after (e : Execution σ ε φ β) (handed : List (Payload × Endpoint)) (events : List ε) :
    Execution σ ε φ β :=
  { e with handed := handed ++ e.handed, events := events ++ e.events }

/-- The same with another name for how it ended. -/
def map (f : β → γ) (e : Execution σ ε φ β) : Execution σ ε φ γ :=
  { e with result := e.result.map f }

end Execution

/-- Carries out a routine on tables, with so many readings and match ids already taken. -/
def Routine.execute {σ ε φ β : Type} (w : World ε φ) :
    Routine σ β → σ → (readings drawn : Nat) → Execution σ ε φ β
  | .done outcome, s, readings, drawn => ⟨s, .ok outcome, [], [], readings, drawn⟩
  | .readClock next, s, readings, drawn =>
    (next (w.supply.reading readings)).execute w s (readings + 1) drawn
  | .drawId next, s, readings, drawn =>
    (next (w.supply.newId drawn)).execute w s readings (drawn + 1)
  | .look next, s, readings, drawn => (next s).execute w s readings drawn
  | .change f next, s, readings, drawn => next.execute w (f s) readings drawn
  | .send payload recipient next, s, readings, drawn =>
    let sent := w.send payload recipient
    match sent.result with
    | .error why => ⟨s, .error why, [(payload, recipient)], sent.events, readings, drawn⟩
    | .ok _ => (next.execute w s readings drawn).after [(payload, recipient)] sent.events
  | .log notice next, s, readings, drawn =>
    (next.execute w s readings drawn).after [] [w.note notice]

/-! ## Effects -/

/-- What a routine does to the world, if its transport keeps the contract. -/
inductive Effect where
  /-- Sends a payload to an endpoint. -/
  | send (payload : Payload) (recipient : Endpoint)
  /-- Logs a notice. -/
  | log (notice : Notice)

namespace Effect

/-- The payloads that go out, with their endpoints, in order. -/
def deliveries (es : List Effect) : List (Payload × Endpoint) :=
  es.filterMap fun
    | .send payload recipient => some (payload, recipient)
    | .log _ => none

/-- The notices, in order. -/
def notices (es : List Effect) : List Notice :=
  es.filterMap fun
    | .send .. => none
    | .log n => some n

end Effect

/-- The world in which all that is sent and logged is written down and nothing is raised. -/
def World.recording (supply : Supply) : World Effect Empty where
  supply
  send payload recipient := ⟨[.send payload recipient], .ok true⟩
  note := .log

end Rendezvous
