import Rendezvous.Notice

/-!
# What the server does, in order

One stream of events records a whole run: the life of the socket and of the sweeper thread, the
datagrams that reach the socket, and the notices for the log.  Each kind of event is a view of the
stream.
-/

namespace Rendezvous

/-- Where datagrams come from and go to. -/
structure Source where
  /-- The address. -/
  address : Text
  /-- The port. -/
  port : Int
  deriving DecidableEq

/-- Something the server does. -/
inductive Event where
  /-- Binds the socket to a host and port. -/
  | bound (host : Text) (port : Int)
  /-- Begins to serve, looking for the end at this interval of seconds. -/
  | serving (poll : Float)
  /-- Creates the sweeper thread. -/
  | threadCreated
  /-- Starts the sweeper thread. -/
  | threadStarted
  /-- Tells the sweeper to stop. -/
  | stopRequested
  /-- Waits for the end of the sweeper thread, at most so many seconds if a number is given. -/
  | joined (timeout : Option Float)
  /-- The sweeper waits for its interval. -/
  | waited (interval : Float)
  /-- The sweeper sweeps. -/
  | swept
  /-- Closes the socket. -/
  | socketClosed
  /-- Puts a datagram on the socket. -/
  | sent (datagram : ByteArray) (recipient : Source)
  /-- Logs a notice. -/
  | logged (notice : Notice)

namespace Event

/-- The datagrams put on the socket, with their destinations. -/
def datagrams (es : List Event) : List (ByteArray × Source) :=
  es.filterMap fun
    | sent datagram recipient => some (datagram, recipient)
    | _ => none

/-- The notices for the log. -/
def notices (es : List Event) : List Notice :=
  es.filterMap fun
    | logged n => some n
    | _ => none

/-- Whether an event belongs to the life of the socket or of the sweeper. -/
def isLifecycle : Event → Bool
  | sent .. => false
  | logged _ => false
  | _ => true

end Event

end Rendezvous
