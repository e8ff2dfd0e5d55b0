import Rendezvous.Json.Order
import Rendezvous.Message
import Rendezvous.Store
import Rendezvous.Sweeper

/-!
# The rendezvous server

The server joins the match store to a datagram socket: it reads a datagram and carries out the one
operation that the datagram asks for, with itself as the transport.  It is here that the contract of
a transport is kept: a socket that cannot send raises an error, and the server catches it, logs it
and goes on.
-/

namespace Rendezvous

/-- What differs between the machines on which a server runs. -/
structure Platform where
  /-- How deep the reader of a message may dive. -/
  depth : Json.DepthLimit
  /-- Why a socket cannot be asked for that much of a datagram, if that is so. -/
  unreadable : Int → Option Text

/-- A machine on which the reader dives no deeper than on any other, and a socket can be asked for
    anything. -/
def Platform.plain : Platform := ⟨.lowest, fun _ => none⟩

/-- What a server is set up with. -/
structure Settings where
  /-- The host to bind. -/
  host : Text
  /-- The port to bind. -/
  port : Int
  /-- The age in seconds beyond which an entry expires. -/
  peerTimeout : Float
  /-- The seconds between two sweeps. -/
  sweepInterval : Float
  /-- How much of a datagram is looked at. -/
  maxPacket : Int

/-- A server. -/
structure Server where
  /-- The tables. -/
  store : Store
  /-- The sweeper of the tables. -/
  sweeper : Sweeper
  /-- How much of a datagram is looked at. -/
  maxPacket : Int
  /-- The machine on which it runs. -/
  platform : Platform

/-- An error that is raised by what a server uses. -/
inductive Escape where
  /-- The socket cannot send. -/
  | unsent (why : Text)
  /-- The parts of a value cannot be listed for the log. -/
  | unlisted (fault : Json.PartsFault)
  /-- The socket cannot be asked for that much of a datagram. -/
  | unread (why : Text)
  /-- No socket can have that host or port. -/
  | unbound (why : Text)
  deriving DecidableEq

/-- How a datagram was dealt with. -/
inductive Handling where
  /-- It was no message. -/
  | dropped
  /-- It was nested too deep, and its handler failed. -/
  | failed
  /-- The operation it asks for was carried out. -/
  | applied (outcome : Store.Outcome)
  /-- The operation it asks for was broken off by an error. -/
  | escaped (why : Escape)
  deriving DecidableEq

/-- The result of a datagram. -/
structure Reception where
  /-- The store after it. -/
  store : Store
  /-- How it was dealt with. -/
  handling : Handling
  /-- The payloads that the operation handed over to be sent, with their endpoints. -/
  handed : List (Payload × Endpoint)
  /-- What the server did. -/
  events : List Event
  /-- How often the operation read the clock. -/
  readings : Nat := 0
  /-- How many match ids it drew. -/
  drawn : Nat := 0

/-- The operation that a message asks for: a kill, or the registration of the endpoint that the
    datagram came from. -/
def Message.command (m : Message) (source : Source) (supply : Supply) : Store.Command :=
  if m.kill then .kill m.uid m.peerUid m.matchId
  else .register ⟨m.uid, source.address, source.port⟩ m.peerUid supply

namespace Server

/-- A server that has heard from nobody. -/
def ofSettings (s : Settings) (platform : Platform) : Server :=
  { store := .empty s.peerTimeout
    sweeper := { interval := s.sweepInterval }
    maxPacket := s.maxPacket
    platform }

/-! ## Sending -/

/-- Puts a datagram on the socket.  `fault` is why nothing can be sent at present, if that is so;
    this is raised as an error. -/
def sendTo (fault : Option Text) (datagram : ByteArray) (recipient : Source) :
    Except Escape Event :=
  match fault with
  | some why => .error (.unsent why)
  | none => .ok (.sent datagram recipient)

/-- Sends a value and lists its parts in the log.  That the socket cannot send is caught and
    logged. -/
def send (fault : Option Text) (v : Json.Value) (recipient : Endpoint) : Dispatch Event Escape :=
  match sendTo fault v.encode ⟨recipient.address, recipient.port⟩ with
  | .error (.unsent why) => ⟨[.logged (.sendFailed recipient why)], .ok false⟩
  | .error why => ⟨[], .error why⟩
  | .ok out =>
    match v.sortedParts with
    | .ok parts => ⟨[out, .logged (.sent parts recipient.uid)], .ok true⟩
    | .error why => ⟨[out], .error (.unlisted why)⟩

/-- The world in which the operations of a server are carried out. -/
def world (fault : Option Text) (supply : Supply) : World Event Escape where
  supply
  send payload recipient := send fault (.object payload.members) recipient
  note := .logged

/-! ## Receiving -/

/-- The part of a datagram that is looked at: its first `maxPacket` bytes, or, if that is negative,
    all but so many of its last. -/
def cut (maxPacket : Int) (datagram : ByteArray) : ByteArray :=
  if 0 ≤ maxPacket then datagram.extract 0 (min maxPacket.toNat datagram.size)
  else datagram.extract 0 (datagram.size - maxPacket.natAbs)

/-- Carries out the operation that a message asks for. -/
def operate (w : World Event Escape) (store : Store) (m : Message) (source : Source) :
    Execution Store Event Escape Store.Outcome :=
  if m.kill then
    ((Store.teardown m.uid m.peerUid m.matchId).execute w store 0 0).map .killed
  else
    let who : Endpoint := ⟨m.uid, source.address, source.port⟩
    ((Store.registration who m.peerUid).execute w store 0 0).map .registered

/-- How a datagram was dealt with whose operation ended so. -/
def handlingOf : Except Escape Store.Outcome → Handling
  | .ok outcome => .applied outcome
  | .error why => .escaped why

/-- Deals with a datagram that was taken from the socket. -/
def receive (s : Server) (fault : Option Text) (supply : Supply) (datagram : ByteArray)
    (source : Source) : Reception :=
  let data := cut s.maxPacket datagram
  let received := Event.logged (.received source.address source.port data)
  match Message.decode s.platform.depth data with
  | .error .tooDeep => { store := s.store, handling := .failed, handed := [], events := [received] }
  | .error _ =>
    { store := s.store
      handling := .dropped
      handed := []
      events := [received, .logged (.dropped source.address source.port)] }
  | .ok m =>
    let e := operate (world fault supply) s.store m source
    { store := e.state
      handling := handlingOf e.result
      handed := e.handed
      events := received :: e.events
      readings := e.readings
      drawn := e.drawn }

/-! ## Sweeping -/

/-- One sweep for each reading of the clock: the store after them, and the sweeps as rounds of the
    sweeper's loop. -/
def sweepAt (store : Store) : List Float → Store × List Sweeper.Round
  | [] => (store, [])
  | now :: later =>
    let r := store.sweep now
    let (last, rounds) := sweepAt r.store later
    (last, ⟨(Effect.notices r.effects).map .logged, .removed r.outcome.1 r.outcome.2⟩ :: rounds)

/-! ## The life of a server -/

/-- Begins to serve: the sweeper is started first. -/
def enter (poll : Float) (s : Server) : Server × List Event :=
  let answer := s.sweeper.start
  ({ s with sweeper := answer.sweeper }, answer.events ++ [.serving poll])

/-- Ends serving, however it came to an end: the sweeper is stopped. -/
def leave (s : Server) : Server × List Event :=
  let answer := s.sweeper.stop none none
  ({ s with sweeper := answer.sweeper }, answer.events)

/-- Closes the server: the sweeper is stopped, then the socket is closed. -/
def close (s : Server) : Server × List Event :=
  let answer := s.sweeper.stop none none
  ({ s with sweeper := answer.sweeper }, answer.events ++ [.socketClosed])

end Server

end Rendezvous
