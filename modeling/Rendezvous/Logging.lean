import Rendezvous.Notice
import Rendezvous.Text.Character

/-!
# Setting up the log

A program sets its log up from the name of a level.  The first time this also gives the root of all
loggers its one handler and its level; afterwards the root is left alone.  The handler is added
before the level is looked at, so a first time that fails settles the root for good.
-/

namespace Rendezvous.Logging

/-! ## Names of levels -/

/-- The thresholds that have names. -/
def severities : List (Text × Nat) :=
  [("CRITICAL", 50), ("FATAL", 50), ("ERROR", 40), ("WARNING", 30), ("WARN", 30), ("INFO", 20),
    ("DEBUG", 10), ("NOTSET", 0)]

/-- Why a name that means something is no level. -/
inductive Fault where
  /-- It names a text. -/
  | namesText
  /-- It names a table. -/
  | namesTable
  deriving DecidableEq, Repr

/-- The wording of a fault: it shows what the name means instead of a level. -/
def Fault.message : Fault → Text
  | .namesText => "Unknown level: '%(levelname)s:%(name)s:%(message)s'"
  | .namesTable =>
    "Level not an integer or a valid string: " ++
    "\x7b'%': (<class 'logging.PercentStyle'>, '%(levelname)s:%(name)s:%(message)s'), " ++
    "'\x7b': (<class 'logging.StrFormatStyle'>, " ++
    "'\x7blevelname\x7d:\x7bname\x7d:\x7bmessage\x7d'), " ++
    "'$': (<class 'logging.StringTemplateStyle'>, " ++
    "'$\x7blevelname\x7d:$\x7bname\x7d:$\x7bmessage\x7d')\x7d"

/-- The threshold of a name in any case: a name that means nothing stands for information. -/
def severity (name : Text) : Except Fault Nat :=
  let name := name.upper
  match severities.lookup name with
  | some n => .ok n
  | none =>
    if name = "BASIC_FORMAT" then .error .namesText
    else if name = "_STYLES" then .error .namesTable
    else .ok Level.info.severity

/-! ## Setting up -/

/-- The form of a line of the log. -/
def lineFormat : Text := "%(asctime)s %(levelname)s %(message)s"

/-- The loggers of a program. -/
structure State where
  /-- The threshold of the root of all loggers. -/
  rootLevel : Nat := Level.warning.severity
  /-- The forms of line of the root's handlers. -/
  rootHandlers : List Text := []
  /-- The threshold of the program's own logger. -/
  level : Nat := Level.debug.severity
  deriving DecidableEq

/-- Sets the root up unless it has a handler. -/
def setUpRoot (s : State) (level : Except Fault Nat) : State :=
  if s.rootHandlers.isEmpty then
    { s with
      rootHandlers := [lineFormat]
      rootLevel := match level with
        | .ok n => n
        | .error _ => s.rootLevel }
  else s

/-- Sets the log up from the name of a level; without a name it is that of information. -/
def setUp (s : State) (name : Option Text) : State × Option Fault :=
  let level := severity (name.getD "INFO")
  let s := setUpRoot s level
  match level with
  | .ok n => ({ s with level := n }, none)
  | .error fault => (s, some fault)

/-- The threshold in force for a logger: its own, or, as long as that is zero, the one of the logger
    above it. -/
def effective : List Nat → Nat
  | [] => 0
  | n :: above => if n = 0 then effective above else n

end Rendezvous.Logging
