import Rendezvous.EnvFile
import Rendezvous.Replay.Sources
import Rendezvous.Launch.Matchmaking
import Rendezvous.Launch.EchoEndpoint

/-!
# The command line

The outer layer of both programs.  Datagrams come in on the lines of standard input, each as
address, port and payload with a space between them, and go out on standard output in the same
form; the log goes to standard error.  With the word `echo` in front of the arguments the echo
endpoint runs instead, and every line is a text message of one connection.  What a line leads to is
decided by the functions of the library.
-/

namespace Rendezvous.CommandLine

open Launch

/-! ## Text in and out -/

/-- A text as a string; a lone surrogate, which has no place there, is left out. -/
def textString (t : Text) : String := String.ofList (t.filterMap CodePoint.toChar?)

/-- Writes the notices that reach a threshold to the log. -/
def writeLog (threshold : Nat) (ns : List Notice) : IO Unit :=
  (ns.filter (Notice.reaches threshold)).forM fun n =>
    IO.eprintln (n.level.name ++ " " ++ textString n.message)

/-- Writes what a server did: its datagrams and its notices. -/
def writeEvents (threshold : Nat) (es : List Event) : IO Unit :=
  es.forM fun
    | .sent datagram recipient =>
      IO.println (textString (recipient.address ++ " " ++ Text.ofInt recipient.port ++ " ") ++
        (String.fromUTF8? datagram).getD "")
    | .logged n => writeLog threshold [n]
    | _ => pure ()

/-! ## What a run takes from the world -/

/-- The variables that the programs look at. -/
def variableNames : List String :=
  ["PUNCH_BIND", "PUNCH_PORT", "PUNCH_PEER_TIMEOUT", "PUNCH_SWEEP_INTERVAL", "PUNCH_MAX_PACKET",
    "PUNCH_LOG_LEVEL", "ECHO_BIND", "ECHO_PORT", "ECHO_PATH", "ECHO_LOG_LEVEL"]

/-- The environment of the process, completed by the settings file of the working directory. -/
def environment : IO Environment := do
  let set ← variableNames.filterMapM fun name => do
    return (← IO.getEnv name).map fun value => (Text.ofString name, Text.ofString value)
  let content ← (some <$> IO.FS.readBinFile ".env") <|> pure none
  match EnvFile.loadIfThere (Table.ofList set) content with
  | (env, none) => return env
  | (_, some _) => throw (IO.userError "the settings file cannot be read")

/-- A reading of the clock, in seconds. -/
def now : IO Float := return (← IO.monoMsNow).toFloat / 1000

/-- What a registration takes from the world. -/
def supply : IO Supply := do
  let time ← now
  let bytes ← IO.getRandomBytes 16
  let random := bytes.data.toList.foldl (fun n b => n * 256 + b.toNat) 0
  return .of time time time (Text.ofChars (MatchId.ofRandom random))

/-! ## Serving -/

/-- A datagram on a line: its source and its bytes. -/
def datagram? (line : String) : Option (Source × ByteArray) :=
  match line.splitOn " " with
  | address :: port :: payload =>
    (Numeral.whole? port).map fun n => (⟨address, n⟩, (" ".intercalate payload).toUTF8)
  | _ => none

/-- Sweeps if the interval has passed since the last sweep. -/
def sweepIfDue (threshold : Nat) (s : Server) (last time : Float) : IO (Server × Float) := do
  if time - last < s.sweeper.interval then return (s, last)
  let (store, rounds) := Server.sweepAt s.store [time]
  writeEvents threshold (Sweeper.rounds s.sweeper.interval rounds)
  return ({ s with store }, time)

/-- Serves the lines of the input until it ends. -/
partial def serve (threshold : Nat) (input : IO.FS.Stream) (s : Server) (last : Float) :
    IO Unit := do
  let line ← input.getLine
  if line.isEmpty then return
  let (s, last) ← sweepIfDue threshold s last (← now)
  match datagram? (line.dropEndWhile (· == '\n')).toString with
  | none => serve threshold input s last
  | some (source, bytes) =>
    let r := s.receive none (← supply) bytes source
    writeEvents threshold r.events
    serve threshold input { s with store := r.store } last

/-- Runs the matchmaking server. -/
def matchmaking (arguments : List Text) (env : Environment) : IO UInt32 := do
  match Logging.setUp {} (env.get? "PUNCH_LOG_LEVEL") with
  | (_, some fault) => throw (IO.userError (textString fault.message))
  | (log, none) =>
    match Port.ofArguments arguments (Matchmaking.portFallback env) with
    | .error fault =>
      IO.eprint (textString (complaint fault))
      return 1
    | .ok port =>
      let s := Matchmaking.settings env port
      let threshold := Logging.effective [log.level, log.rootLevel]
      writeLog threshold [.serverReady s.host s.port s.peerTimeout s.sweepInterval]
      serve threshold (← IO.getStdin) (.ofSettings s .plain) (← now)
      return 0

/-! ## The echo endpoint -/

/-- The lines of the input. -/
partial def readLines (input : IO.FS.Stream) : IO (List String) := do
  let line ← input.getLine
  if line.isEmpty then return []
  return (line.dropEndWhile (· == '\n')).toString :: (← readLines input)

/-- Runs the echo endpoint for one connection. -/
def echo (arguments : List Text) (env : Environment) : IO UInt32 := do
  let o := EchoEndpoint.launch { level := 0 } arguments env none .returned
  let threshold := Logging.effective [o.log.level, Level.debug.severity]
  IO.eprint (textString o.complaint)
  writeLog threshold o.notices
  match o.exit with
  | .code 0 =>
    let lines ← readLines (← IO.getStdin)
    let t := Echo.Connection.relay
      { host := "localhost", port := 0, messages := lines.map fun l => .text (Text.ofString l) }
    t.sent.forM fun
      | .text m => IO.println (textString m)
      | .binary _ => pure ()
    writeLog threshold t.notices
    return 0
  | _ => return 1

end Rendezvous.CommandLine

open Rendezvous in
/-- Runs the program that the arguments ask for. -/
def main (args : List String) : IO UInt32 := do
  let env ← CommandLine.environment
  match args with
  | "echo" :: rest => CommandLine.echo (("echo" :: rest).map Text.ofString) env
  | rest => CommandLine.matchmaking (("rendezvous" :: rest).map Text.ofString) env
