import Rendezvous.Payload
import Rendezvous.Json.Printer
import Rendezvous.Decimal

/-!
# Log notices

Everything that is worth a line in the log, as data.  A notice has a level and belongs to the
logger of one part of the program; its wording is `Notice.message`.  A line is shown if its level
reaches the threshold in force.
-/

namespace Rendezvous

/-! ## Levels and loggers -/

/-- How serious a notice is. -/
inductive Level where
  | debug
  | info
  | warning
  | error
  deriving DecidableEq, Repr

/-- The number of a level, on the scale of thresholds. -/
def Level.severity : Level → Nat
  | .debug => 10
  | .info => 20
  | .warning => 30
  | .error => 40

/-- The name of a level. -/
def Level.name : Level → String
  | .debug => "DEBUG"
  | .info => "INFO"
  | .warning => "WARNING"
  | .error => "ERROR"

/-- The part of the program that a notice comes from. -/
inductive Logger where
  /-- The datagram server. -/
  | server
  /-- The match store and its sweeper. -/
  | store
  /-- The echo endpoint. -/
  | echo
  deriving DecidableEq, Repr

/-- The name of a logger. -/
def Logger.name : Logger → String
  | .server => "rendezvous"
  | .store => "rendezvous.store"
  | .echo => "rendezvous.echo"

/-! ## Notices -/

/-- The two tables from which entries expire. -/
inductive TableName where
  | waiting
  | active
  deriving DecidableEq, Repr

/-- The word for a table. -/
def TableName.word : TableName → Text
  | .waiting => "waiting"
  | .active => "active"

/-- A message on an echo connection: text stays text and binary stays binary. -/
inductive Frame where
  /-- A text message. -/
  | text (t : Text)
  /-- A binary message. -/
  | binary (bytes : ByteArray)

/-- A frame between quotes. -/
def Frame.quoted : Frame → Text
  | .text t => Text.quoted t
  | .binary bytes => Text.quotedBytes bytes

/-- Something worth a line in the log. -/
inductive Notice where
  /-- A datagram came from an address and port. -/
  | received (address : Text) (port : Int) (data : ByteArray)
  /-- The datagram was no message. -/
  | dropped (address : Text) (port : Int)
  /-- A payload with these parts went out to an identity. -/
  | sent (parts : List Json.Value) (uid : Text)
  /-- A payload could not be sent. -/
  | sendFailed (recipient : Endpoint) (why : Text)
  /-- The server is ready. -/
  | serverReady (host : Text) (port : Int) (peerTimeout sweepInterval : Float)
  /-- The server could not bind its port. -/
  | serverFailed (host : Text) (port : Int) (why : Text)
  /-- The operator ended the program. -/
  | shuttingDown (logger : Logger)
  /-- A registration lacks one of its two identities. -/
  | incompleteRegistration (address : Text) (port : Int)
  /-- An identity was stored with its endpoint. -/
  | stored (who : Endpoint)
  /-- The peer of a registration is not there yet. -/
  | waits (uid peer : Text)
  /-- Two identities were matched; the sending took so many seconds. -/
  | matched (matchId uid peer : Text) (seconds : Float)
  /-- A kill lacks one of its two identities. -/
  | incompleteKill
  /-- A kill was about a match that is over. -/
  | staleKill (uid matchId current : Text)
  /-- The peer of a kill is not active. -/
  | nobodyToNotify (uid peer : Text)
  /-- A kill was carried out; so many entries are left. -/
  | killed (uid peer : Text) (waiting active : Nat)
  /-- An entry of a table expired. -/
  | expired (table : TableName) (uid : Text)
  /-- A round of the sweeper failed. -/
  | sweepFailed
  /-- A round of the sweeper reported these counts. -/
  | swept (waiting active : Int)
  /-- The echo endpoint is ready. -/
  | echoReady (host : Text) (port : Int) (path : Text)
  /-- The echo endpoint could not bind its port. -/
  | echoFailed (host : Text) (port : Int) (why : Text)
  /-- A client connected to the echo endpoint. -/
  | echoConnected (host : Text) (port : Int)
  /-- A message came in on an echo connection. -/
  | echoReceived (frame : Frame)
  /-- An echo connection broke. -/
  | echoBroken (host : Text) (port : Int) (why : Text)
  /-- An echo connection was closed. -/
  | echoClosed (host : Text) (port : Int)

namespace Notice

/-- The logger of a notice. -/
def logger : Notice → Logger
  | received .. | dropped .. | sent .. | sendFailed .. | serverReady .. | serverFailed .. => .server
  | shuttingDown l => l
  | incompleteRegistration .. | stored .. | waits .. | matched .. => .store
  | incompleteKill | staleKill .. | nobodyToNotify .. | killed .. => .store
  | expired .. | sweepFailed | swept .. => .store
  | echoReady .. | echoFailed .. => .echo
  | echoConnected .. | echoReceived .. | echoBroken .. | echoClosed .. => .echo

/-- The level of a notice: traffic is for debugging, failures are warnings and errors, and all the
    rest is information. -/
def level : Notice → Level
  | received .. | sent .. | waits .. | echoReceived .. => .debug
  | sendFailed .. => .warning
  | serverFailed .. | echoFailed .. | sweepFailed => .error
  | _ => .info

/-- A number of seconds, as short as it can be told. -/
def secondsText (x : Float) : Text := Text.ofChars (Json.displayStyle.write x)

/-- An address and a port. -/
def place (address : Text) (port : Int) : Text := address ++ ":" ++ Text.ofInt port

/-- The wording of a notice. -/
def message : Notice → Text
  | received address port data =>
    "Recv " ++ place address port ++ " " ++ Text.quotedBytes data
  | dropped address port => "Dropping malformed packet from " ++ place address port
  | sent parts uid => "Sent " ++ (Json.Value.list parts).display ++ " to " ++ uid
  | sendFailed recipient why =>
    "Error sending to " ++ recipient.uid ++ " at " ++ place recipient.address recipient.port ++
      ": " ++ why
  | serverReady host port timeout sweep =>
    "Hole-punch server listening on UDP " ++ place host port ++ " (timeout=" ++
      secondsText timeout ++ "s, sweep=" ++ secondsText sweep ++ "s)"
  | serverFailed host port why => "UDP listen error on " ++ place host port ++ ": " ++ why
  | shuttingDown _ => "Shutting down."
  | incompleteRegistration address port =>
    "Invalid message format (missing uid/peerUid) from " ++ place address port
  | stored who => "Stored " ++ who.uid ++ " at " ++ place who.address who.port
  | waits uid peer => uid ++ " waiting for " ++ peer
  | matched matchId uid peer seconds =>
    "Match " ++ matchId ++ " sent to " ++ uid ++ " and " ++ peer ++ " in " ++
      Text.ofChars (Decimal.fixed 6 seconds) ++ "s"
  | incompleteKill => "Invalid kill format (missing uid/peerUid)"
  | staleKill uid matchId current =>
    "Ignoring kill from " ++ uid ++ " with stale matchId " ++ matchId ++ " (current " ++ current ++
      ")"
  | nobodyToNotify uid peer =>
    "Kill from " ++ uid ++ ": " ++ peer ++ " is not active, nobody to notify"
  | killed uid peer waiting active =>
    "Kill processed for " ++ uid ++ "/" ++ peer ++ ". Remaining waiting=" ++ Text.ofNat waiting ++
      " active=" ++ Text.ofNat active
  | expired table uid => "Removed stale " ++ table.word ++ " peer " ++ uid
  | sweepFailed => "Expiry sweep failed"
  | swept waiting active =>
    "Sweep removed " ++ Text.ofInt waiting ++ " waiting and " ++ Text.ofInt active ++
      " active peer(s)"
  | echoReady host port path => "Echo server listening on ws://" ++ place host port ++ path
  | echoFailed host port why => "WebSocket listen error on " ++ place host port ++ ": " ++ why
  | echoConnected host port => "Echo client connected from " ++ place host port
  | echoReceived frame => "Received: " ++ frame.quoted
  | echoBroken host port why => "Read error from " ++ place host port ++ ": " ++ why
  | echoClosed host port => "Echo client " ++ place host port ++ " disconnected"

/-- The line of a notice: level, logger and wording. -/
def line (n : Notice) : Text :=
  n.level.name ++ " " ++ n.logger.name ++ ": " ++ n.message

/-- Whether a notice reaches a threshold. -/
def reaches (threshold : Nat) (n : Notice) : Bool := threshold ≤ n.level.severity

end Notice

end Rendezvous
