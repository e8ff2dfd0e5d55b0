import Rendezvous.Json.Value
import Rendezvous.Decimal

/-!
# Reading JSON

Recursive descent over a list of characters.  A part of the reader takes what is left of the input
and gives the value at its front together with what is left after it.  The recursion is on the
number of levels that lists and objects may still open, so the reader is total; where the input
opens one level too many it stops with the fault `tooDeep`, and this happens on the way in, before
anything behind that bracket is looked at.

Beside the grammar of JSON the words `NaN`, `Infinity` and `-Infinity` are numbers, and a whole
number has at most 4300 digits.
-/

namespace Rendezvous.Json

/-- Why a text is not read. -/
inductive Fault where
  /-- The text is no JSON. -/
  | malformed
  /-- A whole number has more digits than are read. -/
  | tooManyDigits (count : Nat)
  /-- Lists and objects are nested too deep. -/
  | tooDeep
  deriving DecidableEq, Repr

/-- How many levels of lists and objects may be open at once.  The number is that of the machine on
    which the reader runs; no machine allows fewer than 400. -/
structure DepthLimit where
  /-- The number of levels. -/
  levels : Nat
  /-- There are as many as every machine allows. -/
  least : 400 ≤ levels

/-- The least limit. -/
def DepthLimit.lowest : DepthLimit := ⟨400, Nat.le_refl 400⟩

/-! ## Blanks -/

/-- The blanks of JSON. -/
def isBlank (c : Char) : Bool := c == ' ' || c == '\t' || c == '\n' || c == '\r'

/-- What follows the blanks at the front. -/
def skipBlanks (cs : List Char) : List Char := cs.dropWhile isBlank

/-! ## Text -/

/-- The value of a hexadecimal digit in either case. -/
def hexValue? (c : Char) : Option Nat :=
  if c.isDigit then some (c.toNat - 0x30)
  else if 'a' ≤ c && c ≤ 'f' then some (c.toNat - 0x61 + 10)
  else if 'A' ≤ c && c ≤ 'F' then some (c.toNat - 0x41 + 10)
  else none

/-- The code point of four hexadecimal digits. -/
def hexPoint? (a b c d : Char) : Option CodePoint := do
  let a ← hexValue? a
  let b ← hexValue? b
  let c ← hexValue? c
  let d ← hexValue? d
  return CodePoint.ofNat (((a * 16 + b) * 16 + c) * 16 + d)

/-- The code point of an escape of one letter. -/
def escapePoint? (c : Char) : Option CodePoint :=
  match c with
  | '"' => some (.ofChar '"')
  | '\\' => some (.ofChar '\\')
  | '/' => some (.ofChar '/')
  | 'b' => some (.ofChar '\x08')
  | 'f' => some (.ofChar '\x0C')
  | 'n' => some (.ofChar '\n')
  | 'r' => some (.ofChar '\r')
  | 't' => some (.ofChar '\t')
  | _ => none

/-- The code points of a string, from behind its opening quote to its closing one, with an escape of
    four digits read as one code point even if it is half of a pair. -/
def readUnits : List Char → Option (Text × List Char)
  | [] => none
  | '"' :: r => some ([], r)
  | '\\' :: 'u' :: a :: b :: c :: d :: r => do
    let p ← hexPoint? a b c d
    let (t, rest) ← readUnits r
    return (p :: t, rest)
  | '\\' :: e :: r => do
    let p ← escapePoint? e
    let (t, rest) ← readUnits r
    return (p :: t, rest)
  | c :: r => do
    guard (0x20 ≤ c.toNat && c ≠ '\\')
    let (t, rest) ← readUnits r
    return (.ofChar c :: t, rest)

/-- The code point of a surrogate pair. -/
def pairPoint (high low : CodePoint) : CodePoint :=
  .ofNat (0x10000 + (high.val - 0xD800) * 0x400 + (low.val - 0xDC00))

/-- Joins each first half of a pair with the second half right behind it. -/
def joinPairs : Text → Text
  | [] => []
  | [c] => [c]
  | h :: l :: r =>
    if h.isHighSurrogate && l.isLowSurrogate then pairPoint h l :: joinPairs r
    else h :: joinPairs (l :: r)

/-- A string from behind its opening quote. -/
def readText (cs : List Char) : Except Fault (Text × List Char) :=
  match readUnits cs with
  | some (t, rest) => .ok (joinPairs t, rest)
  | none => .error .malformed

/-! ## Numbers -/

/-- The value of decimal digits. -/
def digitsValue (ds : List Char) : Nat := Nat.ofDigitChars 10 ds 0

/-- The digits before the point: a zero alone, or digits that do not start with one. -/
def wholeDigits? : List Char → Option (List Char × List Char)
  | [] => none
  | c :: r =>
    if c = '0' then some ([c], r)
    else if c.isDigit then some (c :: r.takeWhile Char.isDigit, r.dropWhile Char.isDigit)
    else none

/-- A point and at least one digit, if the input goes on with them. -/
def fractionDigits : List Char → Option (List Char) × List Char
  | '.' :: d :: r =>
    if d.isDigit then (some (d :: r.takeWhile Char.isDigit), r.dropWhile Char.isDigit)
    else (none, '.' :: d :: r)
  | cs => (none, cs)

/-- An exponent with at least one digit, if the input goes on with one. -/
def exponentPart (cs : List Char) : Option Int × List Char :=
  match cs with
  | e :: r =>
    if e = 'e' || e = 'E' then
      let (negative, body) := match r with
        | '-' :: s => (true, s)
        | '+' :: s => (false, s)
        | s => (false, s)
      let digits := body.takeWhile Char.isDigit
      if digits.isEmpty then (none, cs)
      else
        let n : Int := digitsValue digits
        (some (if negative then -n else n), body.dropWhile Char.isDigit)
    else (none, cs)
  | [] => (none, cs)

/-- The value of the parts of a number, of which a whole one may not have too many digits. -/
def numberValue (negative : Bool) (whole : List Char) :
    Option (List Char) → Option Int → Except Fault Value
  | none, none =>
    if Decimal.digitLimit < whole.length then .error (.tooManyDigits whole.length)
    else .ok (.int (if negative then -(digitsValue whole : Int) else digitsValue whole))
  | fraction, exponent =>
    let after := fraction.getD []
    let size := Decimal.Digits.toFloat
      ⟨digitsValue (whole ++ after), exponent.getD 0 - after.length⟩
    .ok (.float (if negative then -size else size))

/-- A number. -/
def readNumber (cs : List Char) : Except Fault (Value × List Char) :=
  let (negative, body) := match cs with
    | '-' :: r => (true, r)
    | r => (false, r)
  match wholeDigits? body with
  | none => .error .malformed
  | some (whole, rest) => do
    let (fraction, rest) := fractionDigits rest
    let (exponent, rest) := exponentPart rest
    let v ← numberValue negative whole fraction exponent
    return (v, rest)

/-! ## Values -/

/-- The words that are values. -/
def readWord? : List Char → Option (Value × List Char)
  | 'n' :: 'u' :: 'l' :: 'l' :: r => some (.null, r)
  | 't' :: 'r' :: 'u' :: 'e' :: r => some (.bool true, r)
  | 'f' :: 'a' :: 'l' :: 's' :: 'e' :: r => some (.bool false, r)
  | 'N' :: 'a' :: 'N' :: r => some (.float (0.0 / 0.0), r)
  | 'I' :: 'n' :: 'f' :: 'i' :: 'n' :: 'i' :: 't' :: 'y' :: r => some (.float (1.0 / 0.0), r)
  | '-' :: 'I' :: 'n' :: 'f' :: 'i' :: 'n' :: 'i' :: 't' :: 'y' :: r =>
    some (.float (-1.0 / 0.0), r)
  | _ => none

/-- A value that is neither list nor object; where one of those opens, the nesting is too deep. -/
def readFlat : List Char → Except Fault (Value × List Char)
  | '"' :: r => do
    let (t, rest) ← readText r
    return (.text t, rest)
  | '[' :: _ => .error .tooDeep
  | '{' :: _ => .error .tooDeep
  | cs =>
    match readWord? cs with
    | some found => .ok found
    | none => readNumber cs

/-- At least one item, with commas between the items and the closing bracket behind the last.  The
    number bounds the items; a bound of the length of the input never ends the reading. -/
def readItems {α : Type} (item : List Char → Except Fault (α × List Char)) (close : Char) :
    Nat → List Char → Except Fault (List α × List Char)
  | 0, _ => .error .malformed
  | n + 1, cs => do
    let (x, rest) ← item cs
    match skipBlanks rest with
    | [] => .error .malformed
    | c :: r =>
      if c = close then return ([x], r)
      else if c = ',' then do
        let (xs, rest) ← readItems item close n (skipBlanks r)
        return (x :: xs, rest)
      else .error .malformed

/-- A member of an object: a string, a colon and a value. -/
def readMember (value : List Char → Except Fault (Value × List Char)) :
    List Char → Except Fault ((Text × Value) × List Char)
  | '"' :: r => do
    let (key, rest) ← readText r
    match skipBlanks rest with
    | ':' :: r => do
      let (v, rest) ← value (skipBlanks r)
      return ((key, v), rest)
    | _ => .error .malformed
  | _ => .error .malformed

/-- Items up to the closing bracket, or the closing bracket at once. -/
def readBracketed {α : Type} (item : List Char → Except Fault (α × List Char)) (close : Char)
    (cs : List Char) : Except Fault (List α × List Char) :=
  match skipBlanks cs with
  | [] => .error .malformed
  | c :: r => if c = close then .ok ([], r) else readItems item close (c :: r).length (c :: r)

/-- A value in which at most the given number of levels may open. -/
def readValue : Nat → List Char → Except Fault (Value × List Char)
  | 0, cs => readFlat cs
  | depth + 1, cs =>
    match cs with
    | '[' :: r => do
      let (vs, rest) ← readBracketed (readValue depth) ']' r
      return (.list vs, rest)
    | '{' :: r => do
      let (ms, rest) ← readBracketed (readMember (readValue depth)) '}' r
      return (.object (Members.ofWritten ms), rest)
    | _ => readFlat cs

/-- Reads a text that is one JSON value between blanks. -/
def read (limit : DepthLimit) (cs : List Char) : Except Fault Value := do
  let (v, rest) ← readValue limit.levels (skipBlanks cs)
  if (skipBlanks rest).isEmpty then return v else .error .malformed

end Rendezvous.Json
