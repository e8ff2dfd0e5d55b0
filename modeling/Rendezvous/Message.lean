import Rendezvous.Json.Reader

/-!
# Messages from clients

A datagram is the UTF-8 form of a JSON object whose members `uid`, `peerUid`, `kill` and `matchId`
tell what the client wants.  A member that is absent or null has its default; one of the wrong type
makes the datagram malformed.  Other members are of no account.
-/

namespace Rendezvous

/-- What a client wants. -/
structure Message where
  /-- The identity of the client. -/
  uid : Text
  /-- The peer it is about. -/
  peerUid : Text
  /-- Whether the client leaves its peer; otherwise it asks for it. -/
  kill : Bool
  /-- The match that a kill is about; empty if the client does not say. -/
  matchId : Text
  deriving DecidableEq

namespace Message

/-! ## Members -/

/-- A text member, empty by default. -/
def textField? (ms : Json.Members) (key : Text) : Option Text :=
  match ms.get? key with
  | none => some []
  | some .null => some []
  | some (.text t) => some t
  | some _ => none

/-- A truth value, false by default. -/
def flagField? (ms : Json.Members) (key : Text) : Option Bool :=
  match ms.get? key with
  | none => some false
  | some .null => some false
  | some (.bool b) => some b
  | some _ => none

/-- The message of an object with the right types. -/
def ofMembers? (ms : Json.Members) : Option Message := do
  let uid ← textField? ms "uid"
  let peerUid ← textField? ms "peerUid"
  let kill ← flagField? ms "kill"
  let matchId ← textField? ms "matchId"
  return { uid, peerUid, kill, matchId }

/-- The message of a JSON value. -/
def ofJson? : Json.Value → Option Message
  | .object ms => ofMembers? ms
  | _ => none

/-! ## Datagrams -/

/-- Reads a datagram.  Nesting beyond the limit is a fault of its own. -/
def decode (limit : Json.DepthLimit) (datagram : ByteArray) : Except Json.Fault Message :=
  match String.fromUTF8? datagram with
  | none => .error .malformed
  | some s =>
    match Json.read limit s.toList with
    | .error fault => .error fault
    | .ok v =>
      match ofJson? v with
      | some m => .ok m
      | none => .error .malformed

end Message

end Rendezvous
