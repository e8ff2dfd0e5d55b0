import Rendezvous.Server
import Rendezvous.Replay.Sources

/-!
# Replaying a session of the server

A session is the life of a server from the binding of its socket to its closing.  In between it
serves a script: datagrams that come in, time that passes, rounds of the sweeper, and a socket
that fails and recovers.  Serving comes to its end by itself, by an interrupt or by a crash, or the
script ends early with an error that nobody catches; the server is closed in each case.
-/

namespace Rendezvous.Replay

/-- A server in its surroundings. -/
structure Session where
  /-- The server. -/
  server : Server
  /-- Time and match ids. -/
  sources : Sources
  /-- Why nothing can be sent at present, if that is so. -/
  fault : Option Text := none

namespace Session

/-! ## Steps -/

/-- A line of the script. -/
inductive Action where
  /-- A datagram comes in. -/
  | receive (datagram : ByteArray) (source : Source)
  /-- Time passes. -/
  | advance (seconds : Float)
  /-- The sweeper thread makes so many sweeps and ends. -/
  | tick (rounds : Nat)
  /-- From now on sending fails for this reason, or works again. -/
  | setFault (fault : Option Text)
  /-- A value is sent to an endpoint. -/
  | send (value : Json.Value) (recipient : Endpoint)

/-- How a line ended. -/
inductive Result where
  /-- A datagram was dealt with. -/
  | received (how : Handling)
  /-- The sweeper made its rounds. -/
  | ticked
  /-- Whether a value could be sent. -/
  | sent (ok : Bool)
  /-- An error was raised that ends serving. -/
  | escaped (why : Escape)
  /-- Nothing came of it. -/
  | done
  deriving DecidableEq

/-- What a line led to. -/
structure Report where
  /-- How it ended. -/
  result : Result
  /-- The payloads that the store handed over to be sent. -/
  handed : List (Payload × Endpoint)
  /-- What the server did. -/
  events : List Event
  /-- The store after it. -/
  store : Store

/-- Deals with a datagram that was taken from the socket. -/
def receive (s : Session) (datagram : ByteArray) (source : Source) : Session × Report :=
  let r := s.server.receive s.fault s.sources.supply datagram source
  ({ s with
      server := { s.server with store := r.store }
      sources := s.sources.after r.readings r.drawn },
    ⟨.received r.handling, r.handed, r.events, r.store⟩)

/-- Runs the loop of the sweeper for some rounds. -/
def tick (s : Session) (n : Nat) : Session × Report :=
  let (store, rounds) := Server.sweepAt s.server.store (s.sources.clock.readings n)
  ({ s with
      server := { s.server with store }
      sources := { s.sources with clock := s.sources.clock.afterReadings n } },
    ⟨.ticked, [], Sweeper.rounds s.server.sweeper.interval rounds, store⟩)

/-- Sends a value. -/
def send (s : Session) (value : Json.Value) (recipient : Endpoint) : Report :=
  let d := Server.send s.fault value recipient
  let result := match d.result with
    | .ok ok => .sent ok
    | .error why => .escaped why
  ⟨result, [], d.events, s.server.store⟩

/-- Takes a datagram from the socket and deals with it. -/
def take (s : Session) (datagram : ByteArray) (source : Source) : Session × Report :=
  match s.server.platform.unreadable s.server.maxPacket with
  | some why => (s, ⟨.escaped (.unread why), [], [], s.server.store⟩)
  | none => s.receive datagram source

/-- Carries out a line. -/
def perform (s : Session) : Action → Session × Report
  | .receive datagram source => s.take datagram source
  | .advance seconds =>
    ({ s with sources := s.sources.advance seconds }, ⟨.done, [], [], s.server.store⟩)
  | .tick n => s.tick n
  | .setFault fault => ({ s with fault }, ⟨.done, [], [], s.server.store⟩)
  | .send value recipient => (s, s.send value recipient)

/-- The error by which a line ended serving, if it did. -/
def Result.escape? : Result → Option Escape
  | .escaped why => some why
  | _ => none

/-- Carries out a script, up to a line that ends serving. -/
def performAll (s : Session) : List Action → Session × List Report
  | [] => (s, [])
  | a :: rest =>
    let (s, report) := s.perform a
    if report.result.escape?.isSome then (s, [report])
    else
      let (last, reports) := performAll s rest
      (last, report :: reports)

/-! ## Sessions -/

/-- How serving ends. -/
inductive Ending where
  /-- It comes to its end. -/
  | returned
  /-- The operator interrupts it. -/
  | interrupted
  /-- It crashes. -/
  | crashed (why : Text)
  deriving DecidableEq

/-- A whole session. -/
structure Transcript where
  /-- What was done before the first line: begin to serve. -/
  opening : List Event
  /-- What each line led to. -/
  reports : List Report
  /-- What was done when serving had ended: the sweeper is stopped. -/
  leaving : List Event
  /-- What was done to close the server. -/
  closing : List Event

/-- All that was done, in order. -/
def Transcript.events (t : Transcript) : List Event :=
  t.opening ++ t.reports.flatMap (·.events) ++ t.leaving ++ t.closing

/-- The error by which the script ended early, if it did. -/
def Transcript.escape? (t : Transcript) : Option Escape :=
  t.reports.getLast?.bind (·.result.escape?)

/-- Serves a script and closes the server. -/
def run (s : Session) (poll : Float) (script : List Action) : Transcript :=
  let (server, opening) := s.server.enter poll
  let (last, reports) := performAll { s with server } script
  let (server, leaving) := last.server.leave
  let (_, closing) := server.close
  { opening, reports, leaving, closing }

end Session

end Rendezvous.Replay
