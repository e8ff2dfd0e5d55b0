import Rendezvous.Text.Printable

/-!
# Quoted text and bytes

How a log line shows a text or a byte string: between single quotes, or between double quotes if it
holds a single quote and no double one.  The quote in use and the backslash are escaped by a
backslash, tab, line feed and carriage return have letters, and what is not printable is written in
hexadecimal.
-/

namespace Rendezvous.Text

/-! ## Hexadecimal -/

/-- The lower-case hexadecimal digits of `n` modulo `16 ^ width`, exactly `width` of them. -/
def hexDigits : Nat → Nat → List Char
  | 0, _ => []
  | width + 1, n => hexDigits width (n / 16) ++ [Nat.digitChar (n % 16)]

/-- There are as many digits as asked for. -/
theorem length_hexDigits : ∀ width n, (hexDigits width n).length = width
  | 0, _ => rfl
  | width + 1, n => by rw [hexDigits, List.length_append, length_hexDigits width]; rfl

/-- A backslash, a letter that tells the width, and the hexadecimal digits. -/
def hexEscape (letter : Char) (width n : Nat) : Text :=
  ofChars ('\\' :: letter :: hexDigits width n)

/-! ## Quoting -/

/-- The quote for a text: the double one if the text holds a single quote and no double one. -/
def quoteMark (t : Text) : CodePoint :=
  if t.contains (.ofChar '\'') && !t.contains (.ofChar '"') then .ofChar '"' else .ofChar '\''

/-- What is written for `c` whether or not it is printable; `none` if that decides. -/
def shortEscape (quote c : CodePoint) : Option Text :=
  if c = quote || c = .ofChar '\\' then some [.ofChar '\\', c]
  else if c = .ofChar '\t' then some "\\t"
  else if c = .ofChar '\n' then some "\\n"
  else if c = .ofChar '\r' then some "\\r"
  else none

/-- One character of a quoted text. -/
def quotedChar (quote c : CodePoint) : Text :=
  match shortEscape quote c with
  | some t => t
  | none =>
    if c.isPrintable then [c]
    else if c.val ≤ 0xFF then hexEscape 'x' 2 c.val
    else if c.val ≤ 0xFFFF then hexEscape 'u' 4 c.val
    else hexEscape 'U' 8 c.val

/-- A text between quotes. -/
def quoted (t : Text) : Text :=
  let quote := quoteMark t
  quote :: t.flatMap (quotedChar quote) ++ [quote]

/-- The code point with the number of a byte. -/
def ofByte (b : UInt8) : CodePoint := .ofNat b.toNat

/-- One byte of a quoted byte string: printable ASCII as it is, the rest escaped. -/
def quotedByte (quote c : CodePoint) : Text :=
  match shortEscape quote c with
  | some t => t
  | none => if 0x20 ≤ c.val && c.val < 0x7F then [c] else hexEscape 'x' 2 c.val

/-- A byte string between quotes, after the letter `b`. -/
def quotedBytes (bytes : ByteArray) : Text :=
  let t := bytes.data.toList.map ofByte
  let quote := quoteMark t
  .ofChar 'b' :: quote :: t.flatMap (quotedByte quote) ++ [quote]

example : quoted "it's" = ofString "\"it's\"" := by decide
example : quoted "a\x00\\" = ofString "'a\\x00\\\\'" := by decide

end Rendezvous.Text
