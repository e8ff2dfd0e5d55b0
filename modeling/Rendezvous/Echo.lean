import Rendezvous.Notice

/-!
# The echo endpoint

A client that can reach the endpoint gets every message back as it was.  The loop ends when reading
ends, when reading fails, or when a message cannot be sent because the connection is closed.  A
send that fails because the connection broke ends the loop like a read that fails; a send that
fails because the connection was closed in good order is nobody's error here and escapes the loop.
-/

namespace Rendezvous.Echo

/-! ## Paths -/

/-- A refusal of a request. -/
structure Refusal where
  /-- The status of the response. -/
  status : Nat
  /-- Its body. -/
  body : Text
  deriving DecidableEq

/-- The answer to a request: only the path of the endpoint is accepted. -/
def refusal? (path request : Text) : Option Refusal :=
  if request = path then none else some ⟨404, "Not Found\n"⟩

/-! ## Connections -/

/-- How sending fails. -/
inductive SendFailure where
  /-- The connection broke. -/
  | broken (why : Text)
  /-- The connection was closed in good order. -/
  | closed
  deriving DecidableEq

/-- A connection and what will happen on it. -/
structure Connection where
  /-- The host of the client. -/
  host : Text
  /-- The port of the client. -/
  port : Int
  /-- The messages that come in. -/
  messages : List Frame
  /-- Why reading fails after the last message, if it does. -/
  readFailure : Option Text := none
  /-- After how many sent messages sending fails, and how, if it does. -/
  sendFailure : Option (Nat × SendFailure) := none

/-- How the loop ends. -/
inductive Ending where
  /-- It returns. -/
  | returned
  /-- The closing of the connection escapes it. -/
  | escaped
  deriving DecidableEq

/-- What a connection led to. -/
structure Transcript where
  /-- The messages sent back. -/
  sent : List Frame
  /-- The notices for the log. -/
  notices : List Notice
  /-- How the loop ended. -/
  ending : Ending

namespace Connection

/-- The failure of the send that is made when `count` messages were sent. -/
def failureAt? (c : Connection) (count : Nat) : Option SendFailure :=
  c.sendFailure.bind fun f => if f.1 = count then some f.2 else none

/-- The end of the loop when there is nothing more to read. -/
def finish (c : Connection) : Transcript :=
  match c.readFailure with
  | some why => ⟨[], [.echoBroken c.host c.port why], .returned⟩
  | none => ⟨[], [.echoClosed c.host c.port], .returned⟩

/-- The loop over the messages that are left when `count` were sent. -/
def relayFrom (c : Connection) (count : Nat) : List Frame → Transcript
  | [] => c.finish
  | m :: rest =>
    match c.failureAt? count with
    | some (.broken why) => ⟨[], [.echoReceived m, .echoBroken c.host c.port why], .returned⟩
    | some .closed => ⟨[], [.echoReceived m], .escaped⟩
    | none =>
      let t := relayFrom c (count + 1) rest
      ⟨m :: t.sent, .echoReceived m :: t.notices, t.ending⟩

/-- Sends every message back. -/
def relay (c : Connection) : Transcript :=
  let t := c.relayFrom 0 c.messages
  { t with notices := .echoConnected c.host c.port :: t.notices }

end Connection

end Rendezvous.Echo
