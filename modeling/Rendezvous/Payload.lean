import Rendezvous.Json.Printer

/-!
# What the server tells its clients

An introduction gives a client the endpoint of its peer and the id of their match; a teardown tells
a client that its opponent has left.
-/

namespace Rendezvous

/-- An identity and the address and port from which it was last heard. -/
structure Endpoint where
  /-- The identity. -/
  uid : Text
  /-- The address of its datagrams. -/
  address : Text
  /-- The port of its datagrams. -/
  port : Int
  deriving DecidableEq

/-- The JSON form of an endpoint. -/
def Endpoint.toJson (e : Endpoint) : Json.Value :=
  .object [("uid", .text e.uid), ("address", .text e.address), ("port", .int e.port)]

/-- A message to a client. -/
inductive Payload where
  /-- The endpoint of the peer and the id of the match. -/
  | introduction (peer : Endpoint) (matchId : Text)
  /-- The opponent has left the match; the id is empty if there was none. -/
  | teardown (opponent : Text) (matchId : Text)
  deriving DecidableEq

namespace Payload

/-- The one reason that a teardown gives. -/
def leaveReason : Text := "peer-disconnected"

/-- The members of a message; an empty match id is left out of a teardown. -/
def members : Payload → Json.Members
  | .introduction peer matchId => [("peer", peer.toJson), ("matchId", .text matchId)]
  | .teardown opponent matchId =>
    ("kill", .bool true) :: ("opponentUid", .text opponent) :: ("reason", .text leaveReason) ::
      if matchId.isEmpty then [] else [("matchId", .text matchId)]

/-- The bytes of a message. -/
def encode (p : Payload) : ByteArray := (Json.Value.object p.members).encode

end Payload

end Rendezvous
