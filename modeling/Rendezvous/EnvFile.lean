import Rendezvous.Environment
import Rendezvous.Text.Utf8

/-!
# Settings files

A settings file has a definition `KEY=VALUE` on a line.  Lines that begin with `#` or have no `=`
are of no account, and so are blanks around key and value and one pair of quotes around the
value.  Variables of the environment win over the file, and an earlier line wins over a later one.
-/

namespace Rendezvous.EnvFile

/-! ## Lines -/

/-- The lines of a text that have an end, without it, and what stands behind the last end.  A line
    ends at a line feed, at a carriage return, or at both in this order. -/
def splitLines : List Char → List (List Char) × List Char
  | [] => ([], [])
  | '\r' :: '\n' :: r => let (lines, last) := splitLines r; ([] :: lines, last)
  | c :: r =>
    let (lines, last) := splitLines r
    if c = '\r' || c = '\n' then ([] :: lines, last)
    else match lines with
      | [] => ([], c :: last)
      | line :: lines => ((c :: line) :: lines, last)

/-- All lines of a text, the last of which needs no end. -/
def allLines (cs : List Char) : List Text :=
  let (lines, last) := splitLines cs
  (lines ++ [last]).map Text.ofChars

/-- The lines of a text that will go on: those that have an end whatever follows.  A carriage return
    at the very end might still be followed by its line feed. -/
def finishedLines (cs : List Char) : List Text :=
  let settled := if cs.getLast? = some '\r' then cs.dropLast else cs
  (splitLines settled).1.map Text.ofChars

/-! ## Definitions -/

/-- A variable and its value. -/
structure Definition where
  /-- The name of the variable. -/
  key : Text
  /-- Its value. -/
  value : Text
  deriving DecidableEq

/-- A single or a double quote. -/
def isQuote (c : CodePoint) : Bool := c = .ofChar '"' || c = .ofChar '\''

/-- Takes away one pair of equal quotes around a text. -/
def unquote : Text → Text
  | [] => []
  | q :: r => if isQuote q && r.getLast? = some q then r.dropLast else q :: r

/-- A text without the blanks at its ends. -/
def stripped (t : Text) : Text := Text.trim CodePoint.isLineBlank t

/-- The definition on a line, if there is one. -/
def Definition.ofLine? (line : Text) : Option Definition :=
  let entry := stripped line
  if entry.head? = some (.ofChar '#') then none
  else
    match entry.dropWhile (· ≠ .ofChar '=') with
    | [] => none
    | _ :: value =>
      let key := stripped (entry.takeWhile (· ≠ .ofChar '='))
      if key.isEmpty then none
      else some { key, value := unquote (stripped value) }

/-! ## Loading -/

/-- Why a file is not loaded to its end. -/
inductive Fault where
  /-- Its bytes are not UTF-8. -/
  | undecodable
  /-- A variable would hold a NUL. -/
  | holdsNul
  deriving DecidableEq, Repr

/-- Whether the environment cannot hold a definition. -/
def Definition.holdsNul (d : Definition) : Bool :=
  d.key.contains (.ofChar '\x00') || d.value.contains (.ofChar '\x00')

/-- Sets the variables that are not set yet, one after another, up to a definition that the
    environment cannot hold. -/
def define (env : Environment) : List Definition → Environment × Option Fault
  | [] => (env, none)
  | d :: r =>
    if env.contains d.key then define env r
    else if d.holdsNul then (env, some .holdsNul)
    else define (env.insert d.key d.value) r

/-- Sets the variables that are defined on lines. -/
def defineLines (env : Environment) (lines : List Text) : Environment × Option Fault :=
  define env (lines.filterMap Definition.ofLine?)

/-- How many bytes of a file are decoded at a time. -/
def blockSize : Nat := 8192

/-- The text that is read before the fault of a file that is not UTF-8: the blocks before the one in
    which the fault shows, or all complete characters if the file only ends too early. -/
def textBeforeFault (content : ByteArray) : List Char :=
  let bytes := content.data.toList
  let place := Utf8.faultPlace bytes
  let readable := if place = bytes.length then bytes else bytes.take (place / blockSize * blockSize)
  match String.fromUTF8? (content.extract 0 (Utf8.wellFormedLength readable)) with
  | some s => s.toList
  | none => []

/-- Loads a file into an environment.  Of a file that is not UTF-8 the lines that were finished
    before the fault are loaded. -/
def load (env : Environment) (content : ByteArray) : Environment × Option Fault :=
  match String.fromUTF8? content with
  | some s => defineLines env (allLines s.toList)
  | none =>
    let (env, fault) := defineLines env (finishedLines (textBeforeFault content))
    (env, fault.or (some .undecodable))

/-- Loads a file that may be missing. -/
def loadIfThere (env : Environment) : Option ByteArray → Environment × Option Fault
  | some content => load env content
  | none => (env, none)

example : unquote "\"a'\"" = Text.ofString "a'" ∧ unquote "'" = Text.ofString "'" := by decide

end Rendezvous.EnvFile
