import Rendezvous.Json.Value
import Rendezvous.Text.Quoted
import Rendezvous.Decimal

/-!
# Writing JSON

The compact text of a value: no blanks outside strings, and only the characters from space to tilde.
Everything else in a string is escaped, beyond the first plane as a surrogate pair.
-/

namespace Rendezvous.Json

/-- Doubles are written with a point or an exponent; the three others have the names that the reader
    knows. -/
def numberStyle : Decimal.Style := { nan := "NaN", infinity := "Infinity" }

/-! ## Strings -/

/-- A code unit of sixteen bits, escaped. -/
def unitEscape (n : Nat) : List Char := '\\' :: 'u' :: Text.hexDigits 4 n

/-- A character of a string. -/
def writeChar (c : CodePoint) : List Char :=
  if c = .ofChar '"' then ['\\', '"']
  else if c = .ofChar '\\' then ['\\', '\\']
  else if c = .ofChar '\x08' then ['\\', 'b']
  else if c = .ofChar '\x0C' then ['\\', 'f']
  else if c = .ofChar '\n' then ['\\', 'n']
  else if c = .ofChar '\r' then ['\\', 'r']
  else if c = .ofChar '\t' then ['\\', 't']
  else if 0x20 ≤ c.val && c.val ≤ 0x7E then [Char.ofNat c.val]
  else if c.val ≤ 0xFFFF then unitEscape c.val
  else
    let n := c.val - 0x10000
    unitEscape (0xD800 + n / 0x400) ++ unitEscape (0xDC00 + n % 0x400)

/-- A string. -/
def writeText (t : Text) : List Char := '"' :: t.flatMap writeChar ++ ['"']

/-- A whole number. -/
def writeInt (n : Int) : List Char :=
  if n < 0 then '-' :: Nat.toDigits 10 n.natAbs else Nat.toDigits 10 n.natAbs

/-! ## Values -/

mutual

/-- The compact text of a value. -/
def Value.write : Value → List Char
  | .null => ['n', 'u', 'l', 'l']
  | .bool true => ['t', 'r', 'u', 'e']
  | .bool false => ['f', 'a', 'l', 's', 'e']
  | .int n => writeInt n
  | .float x => numberStyle.write x
  | .text t => writeText t
  | .list vs => '[' :: writeItems vs ++ [']']
  | .object ms => '{' :: writeMembers ms ++ ['}']

/-- The items of a list, with commas between them. -/
def writeItems : List Value → List Char
  | [] => []
  | [v] => v.write
  | v :: w :: r => v.write ++ ',' :: writeItems (w :: r)

/-- The members of an object, with commas between them. -/
def writeMembers : List (Text × Value) → List Char
  | [] => []
  | [(k, v)] => writeText k ++ ':' :: v.write
  | (k, v) :: m :: r => writeText k ++ ':' :: v.write ++ ',' :: writeMembers (m :: r)

end

/-- The bytes of the compact text. -/
def Value.encode (v : Value) : ByteArray := (String.ofList v.write).toUTF8

/-! ## Values as the log shows them

A form for reading, not for sending: texts are quoted as elsewhere in the log, so printable
characters stay as they are, and commas and colons are followed by a space.
-/

/-- Numbers in a line of the log. -/
def displayStyle : Decimal.Style := { nan := "nan", infinity := "inf" }

mutual

/-- A value as the log shows it. -/
def Value.display : Value → Text
  | .null => "None"
  | .bool true => "True"
  | .bool false => "False"
  | .int n => Text.ofInt n
  | .float x => Text.ofChars (displayStyle.write x)
  | .text t => Text.quoted t
  | .list vs => "[" ++ displayItems vs ++ "]"
  | .object ms => "\x7b" ++ displayMembers ms ++ "\x7d"

/-- Items with commas between them. -/
def displayItems : List Value → Text
  | [] => []
  | [v] => v.display
  | v :: w :: r => v.display ++ ", " ++ displayItems (w :: r)

/-- Members with commas between them. -/
def displayMembers : List (Text × Value) → Text
  | [] => []
  | [(k, v)] => Text.quoted k ++ ": " ++ v.display
  | (k, v) :: m :: r => Text.quoted k ++ ": " ++ v.display ++ ", " ++ displayMembers (m :: r)

end

end Rendezvous.Json
