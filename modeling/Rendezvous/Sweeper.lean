import Rendezvous.Event

/-!
# The expiry sweeper

A thread that sweeps the store after each interval until it is told to stop.  At most one thread is
held at a time.  The request to stop is never withdrawn: the loop of a thread that is started after
one ends at its first wait.

A stop waits for the end of the thread.  A time that is too long to wait for, or no number, is
refused: then the stop raises an error, and the thread is still held.
-/

namespace Rendezvous

/-- The sweeper as its owner sees it. -/
structure Sweeper where
  /-- The seconds between two sweeps. -/
  interval : Float
  /-- Whether a stop was ever requested. -/
  stopRequested : Bool := false
  /-- Whether a thread is held. -/
  held : Bool := false

/-- How a sweep of the store ended. -/
inductive SweepResult where
  /-- It reports how many entries of the two tables it removed. -/
  | removed (waiting active : Int)
  /-- The sweep failed. -/
  | failed
  deriving DecidableEq

/-- What is logged after a sweep: a failure, or that something was removed. -/
def SweepResult.notices : SweepResult → List Notice
  | .removed waiting active =>
    if waiting = 0 && active = 0 then [] else [.swept waiting active]
  | .failed => [.sweepFailed]

namespace Sweeper

/-! ## Starting and stopping -/

/-- What came of a call of the owner. -/
structure Answer where
  /-- The sweeper after it. -/
  sweeper : Sweeper
  /-- What was done. -/
  events : List Event
  /-- The error that it raised, if it did. -/
  raised : Option Text := none

/-- Creates and starts a thread unless one is held. -/
def start (s : Sweeper) : Answer :=
  if s.held then { sweeper := s, events := [] }
  else { sweeper := { s with held := true }, events := [.threadCreated, .threadStarted] }

/-- Requests the stop and joins the thread that is held, if one is, and lets it go.  `refusal` is
    why nobody can wait for the thread so long, if that is so. -/
def stop (timeout : Option Float) (refusal : Option Text) (s : Sweeper) : Answer :=
  let s := { s with stopRequested := true }
  if s.held then
    match refusal with
    | some why => { sweeper := s, events := [.stopRequested], raised := some why }
    | none => { sweeper := { s with held := false }, events := [.stopRequested, .joined timeout] }
  else { sweeper := s, events := [.stopRequested] }

/-! ## The loop -/

/-- A sweep that the loop makes: what it does by itself and how it ends. -/
structure Round where
  /-- What the sweep does. -/
  events : List Event
  /-- How it ends. -/
  result : SweepResult

/-- The loop over the sweeps that a thread gets to make: each comes after a wait, a failure does not
    end the loop, and the last wait reports the stop. -/
def rounds (interval : Float) : List Round → List Event
  | [] => [.waited interval]
  | r :: rest =>
    .waited interval :: r.events ++ r.result.notices.map .logged ++ rounds interval rest

/-- The loop of a thread for which these sweeps are ready.  Once a stop was requested the first wait
    reports it. -/
def loop (s : Sweeper) (ready : List Round) : List Event :=
  rounds s.interval (if s.stopRequested then [] else ready)

end Sweeper

end Rendezvous
