import Rendezvous.Environment
import Rendezvous.Logging
import Rendezvous.Replay.Session

/-!
# How a program ends

Both programs set up their log, find their port, bind it and serve until they are interrupted.  A
wrong port and a port that cannot be bound end a program with exit code 1.  A host or port that no
socket can have is another matter: it ends the program by an error that nobody catches, as does a
crash while serving, after the server was closed.
-/

namespace Rendezvous.Launch

open Replay (Session)

/-- Why a socket is not bound. -/
inductive BindFault where
  /-- The system refuses to bind it. -/
  | refused (why : Text)
  /-- No socket can have the host or the port. -/
  | unfit (why : Text)
  deriving DecidableEq

/-- How a program ends. -/
inductive Exit where
  /-- With an exit code. -/
  | code (n : Nat)
  /-- By a crash while serving. -/
  | crashed (why : Text)
  /-- By an error of what it uses. -/
  | escaped (why : Escape)
  /-- By a name in place of the log level that is no level. -/
  | badLevel (fault : Logging.Fault)
  deriving DecidableEq

/-- How a program ends whose serving ended so. -/
def Exit.ofEnding : Session.Ending → Exit
  | .returned => .code 0
  | .interrupted => .code 0
  | .crashed why => .crashed why

/-- What is written to the terminal about a wrong port. -/
def complaint (fault : Port.Fault) : Text := fault.message ++ "\n"

end Rendezvous.Launch
