import Rendezvous.Environment
import Rendezvous.Echo
import Rendezvous.Launch

/-!
# Launching the echo endpoint

From command line and environment to exit code.
-/

namespace Rendezvous.Launch.EchoEndpoint

open Replay (Session)

/-- Something the echo program does. -/
inductive Event where
  /-- Asks for a host and port. -/
  | listening (host : Text) (port : Int)
  /-- Takes the server into use. -/
  | entered
  /-- Serves. -/
  | serving
  /-- Gives the server up. -/
  | exited
  deriving DecidableEq

/-- The port without an argument. -/
def portFallback (env : Environment) : Int := (env.whole? "ECHO_PORT").getD 8890

/-- What came of a launch. -/
structure Outcome where
  /-- How the program ended. -/
  exit : Exit
  /-- What was written to the terminal. -/
  complaint : Text := []
  /-- The log after it was set up. -/
  log : Logging.State
  /-- The path that is served, once the port is bound. -/
  path : Option Text := none
  /-- What was done. -/
  events : List Event := []
  /-- The notices for the log. -/
  notices : List Notice := []

/-- The answer to a request at the path that is served. -/
def Outcome.answer (o : Outcome) (request : Text) : Option (Option Echo.Refusal) :=
  o.path.map fun path => Echo.refusal? path request

/-- Launches the echo endpoint. -/
def launch (log : Logging.State) (arguments : List Text) (env : Environment)
    (bindFault : Option BindFault) (ending : Session.Ending) : Outcome :=
  match Logging.setUp log (env.get? "ECHO_LOG_LEVEL") with
  | (log, some fault) => { exit := .badLevel fault, log }
  | (log, none) =>
    match Port.ofArguments arguments (portFallback env) with
    | .error fault => { exit := .code 1, complaint := complaint fault, log }
    | .ok port =>
      let host := env.textOr "ECHO_BIND" "0.0.0.0"
      let path := env.textOr "ECHO_PATH" "/ws"
      match bindFault with
      | some (.unfit why) =>
        { exit := .escaped (.unbound why), log, events := [.listening host port] }
      | some (.refused why) =>
        { exit := .code 1
          log
          events := [.listening host port]
          notices := [.echoFailed host port why] }
      | none =>
        { exit := .ofEnding ending
          log
          path := some path
          events := [.listening host port, .entered, .serving, .exited]
          notices := .echoReady host port path ::
            if ending = .interrupted then [.shuttingDown .echo] else [] }

end Rendezvous.Launch.EchoEndpoint
