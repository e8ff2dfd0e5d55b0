import Rendezvous.Environment
import Rendezvous.Launch

/-!
# Launching the matchmaking server

From command line and environment to exit code, with a script of what happens to the server while it
serves.
-/

namespace Rendezvous.Launch.Matchmaking

open Replay (Session Sources)

/-- The port without an argument. -/
def portFallback (env : Environment) : Int := (env.whole? "PUNCH_PORT").getD 33334

/-- The settings of the environment. -/
def settings (env : Environment) (port : Int) : Settings :=
  { host := env.textOr "PUNCH_BIND" "0.0.0.0"
    port
    peerTimeout := (env.real? "PUNCH_PEER_TIMEOUT").getD 30.0
    sweepInterval := (env.real? "PUNCH_SWEEP_INTERVAL").getD 30.0
    maxPacket := (env.whole? "PUNCH_MAX_PACKET").getD 2048 }

/-- How often a server looks for the end of serving. -/
def poll : Float := 0.5

/-- What happens to a server when it is launched. -/
structure Script where
  /-- Why its port cannot be bound, if that is so. -/
  bindFault : Option BindFault := none
  /-- The machine on which it runs. -/
  platform : Platform
  /-- Time and match ids. -/
  sources : Sources
  /-- What happens while it serves. -/
  actions : List Session.Action
  /-- How serving ends. -/
  ending : Session.Ending

/-- What came of a launch. -/
structure Outcome where
  /-- How the program ended. -/
  exit : Exit
  /-- What was written to the terminal. -/
  complaint : Text := []
  /-- The settings, if a server was begun to be built. -/
  settings : Option Settings := none
  /-- The log after it was set up. -/
  log : Logging.State
  /-- What was done before the first line of the script. -/
  opening : List Event := []
  /-- What each line led to. -/
  reports : List Session.Report := []
  /-- What was done after the last line. -/
  closing : List Event := []

/-- All that was done, in order. -/
def Outcome.events (o : Outcome) : List Event :=
  o.opening ++ o.reports.flatMap (·.events) ++ o.closing

/-- Builds a server, which closes itself again if its port cannot be bound, and serves. -/
def serve (log : Logging.State) (s : Settings) (script : Script) : Outcome :=
  let server := Server.ofSettings s script.platform
  let bound := Event.bound s.host s.port
  match script.bindFault with
  | some (.unfit why) =>
    { exit := .escaped (.unbound why)
      settings := some s
      log
      opening := bound :: server.close.2 }
  | some (.refused why) =>
    { exit := .code 1
      settings := some s
      log
      opening := bound :: server.close.2 ++ [.logged (.serverFailed s.host s.port why)] }
  | none =>
    let t := Session.run { server, sources := script.sources } poll script.actions
    let exit := match t.escape? with
      | some why => .escaped why
      | none => Exit.ofEnding script.ending
    let interrupted := t.escape?.isNone && script.ending = .interrupted
    let farewell := if interrupted then [.logged (.shuttingDown .server)] else []
    { exit
      settings := some s
      log
      opening :=
        bound :: .logged (.serverReady s.host s.port s.peerTimeout s.sweepInterval) :: t.opening
      reports := t.reports
      closing := t.leaving ++ farewell ++ t.closing }

/-- Launches the rendezvous server. -/
def launch (log : Logging.State) (arguments : List Text) (env : Environment) (script : Script) :
    Outcome :=
  match Logging.setUp log (env.get? "PUNCH_LOG_LEVEL") with
  | (log, some fault) => { exit := .badLevel fault, log }
  | (log, none) =>
    match Port.ofArguments arguments (portFallback env) with
    | .error fault => { exit := .code 1, complaint := complaint fault, log }
    | .ok port => serve log (settings env port) script

end Rendezvous.Launch.Matchmaking
