import Rendezvous.Decimal
import Rendezvous.Text.Character
import Rendezvous.Text.Quoted

/-!
# Numbers in settings and arguments

A text is read as a whole number or as a decimal number, or it is at fault.
-/

namespace Rendezvous.Numeral

/-! ## What can be wrong with a number

The faults of a text or value that was to become a number, and their wording.
-/

/-- Why something does not become a number. -/
inductive Fault where
  /-- The text is no whole number. -/
  | notWhole (text : Text)
  /-- The whole number has more digits than are read. -/
  | tooManyDigits (count : Nat)
  /-- The text is no decimal number. -/
  | notReal (text : Text)
  /-- An infinity has no whole part. -/
  | infiniteWhole
  /-- What is not a number has no whole part. -/
  | undefinedWhole
  /-- The whole number is beyond the greatest double. -/
  | tooLarge
  deriving DecidableEq

/-- The wording of a fault.  Of a text that is no whole number at most 200 characters are shown. -/
def Fault.message : Fault → Text
  | .notWhole t => "invalid literal for int() with base 10: " ++ (Text.quoted t).take 200
  | .tooManyDigits n =>
    "Exceeds the limit (4300 digits) for integer string conversion: value has " ++ Text.ofNat n ++
      " digits; use sys.set_int_max_str_digits() to increase the limit"
  | .notReal t => "could not convert string to float: " ++ Text.quoted t
  | .infiniteWhole => "cannot convert float infinity to integer"
  | .undefinedWhole => "cannot convert float NaN to integer"
  | .tooLarge => "int too large to convert to float"

/-! ## Whole numbers

Between optional blanks stand an optional sign and decimal digits of any script, at most 4300 of
them, where a single underscore may stand between two digits.
-/

/-- The low line that may separate digits. -/
def underscore : CodePoint := .ofChar '_'

/-- The values of digits with single underscores between them; none of any other text. -/
def digitGroups? : Text → Option (List Nat)
  | [] => none
  | [c] => c.digitValue?.map ([·])
  | c :: u :: r => do
    let d ← c.digitValue?
    let ds ← if u = underscore then digitGroups? r else digitGroups? (u :: r)
    return d :: ds

/-- Whether a text starts with a minus sign, and the text after its sign if it has one. -/
def splitSign : Text → Bool × Text
  | [] => (false, [])
  | c :: r =>
    if c = .ofChar '-' then (true, r)
    else if c = .ofChar '+' then (false, r)
    else (false, c :: r)

/-- A number with a sign. -/
def withSign (negative : Bool) (n : Nat) : Int := if negative then -(n : Int) else n

/-- Reads a whole number.  Too many digits are a fault of their own, whatever follows them. -/
def whole (t : Text) : Except Fault Int :=
  let (negative, body) := splitSign (t.dropWhile CodePoint.isNumberBlank)
  let inNumber (c : CodePoint) : Bool := c.isDigit || c = underscore
  match digitGroups? (body.takeWhile inNumber) with
  | none => .error (.notWhole t)
  | some ds =>
    if Decimal.digitLimit < ds.length then .error (.tooManyDigits ds.length)
    else if (body.dropWhile inNumber).all CodePoint.isNumberBlank then
      .ok (withSign negative (Decimal.ofDigits ds))
    else .error (.notWhole t)

/-- The whole number that a text stands for, if it is one. -/
def whole? (t : Text) : Option Int := (whole t).toOption

example : whole? " -1_0 " = some (-10) := by decide
example : whole? "1__0" = none ∧ whole? "_1" = none ∧ whole? "+ 1" = none ∧ whole? "" = none := by
  decide

/-! ## Decimal numbers

Between optional blanks stand an optional sign and either a name of infinity or of no number, in
any case, or a decimal numeral: digits with an optional point, at least one digit before or after
it, and an optional exponent.  Digits may be of any script, and a single underscore may stand
between two digits.  The text is first spelled in ASCII and freed of underscores; the grammar is
that of ASCII.
-/

/-! ### Spelling in ASCII -/

/-- The ASCII character with the same meaning: digits of any script become ASCII digits. -/
def asciiChar? (c : CodePoint) : Option Char :=
  match c.digitValue? with
  | some d => some (Nat.digitChar d)
  | none => if c.val < 0x80 then c.toChar? else none

/-- Drops the underscores, each of which must stand between two digits; `afterDigit` tells whether a
    digit stands before the text. -/
def dropUnderscores? (afterDigit : Bool) : List Char → Option (List Char)
  | [] => some []
  | '_' :: d :: r =>
    if afterDigit && d.isDigit then (dropUnderscores? true r).map (d :: ·) else none
  | c :: r => if c = '_' then none else (dropUnderscores? c.isDigit r).map (c :: ·)

/-- The text in ASCII without blanks at its ends and without underscores. -/
def spelled? (t : Text) : Option (List Char) :=
  ((t.trim CodePoint.isNumberBlank).mapM asciiChar?).bind (dropUnderscores? false)

/-! ### The grammar in ASCII -/

/-- An exponent to the end of the text: nothing, or a letter, an optional sign and digits. -/
def exponent? : List Char → Option Int
  | [] => some 0
  | e :: r =>
    if e = 'e' || e = 'E' then
      let (negative, digits) := match r with
        | '-' :: ds => (true, ds)
        | '+' :: ds => (false, ds)
        | ds => (false, ds)
      if digits.isEmpty || !digits.all Char.isDigit then none
      else some (withSign negative (Nat.ofDigitChars 10 digits 0))
    else none

/-- The digits after a point, if there is one, and what follows them. -/
def fraction : List Char → List Char × List Char
  | '.' :: r => (r.takeWhile Char.isDigit, r.dropWhile Char.isDigit)
  | r => ([], r)

/-- An unsigned decimal numeral. -/
def numeral? (cs : List Char) : Option Decimal.Digits := do
  let before := cs.takeWhile Char.isDigit
  let (after, rest) := fraction (cs.dropWhile Char.isDigit)
  let e ← exponent? rest
  if before.isEmpty && after.isEmpty then none
  else some ⟨Nat.ofDigitChars 10 (before ++ after) 0, e - after.length⟩

/-- The size of an unsigned number: a name or a numeral. -/
def magnitude? (cs : List Char) : Option Float :=
  let name := String.ofList (cs.map Char.toLower)
  if name = "inf" || name = "infinity" then some (1.0 / 0.0)
  else if name = "nan" then some (0.0 / 0.0)
  else (numeral? cs).map Decimal.Digits.toFloat

/-- A signed number. -/
def signed? : List Char → Option Float
  | '-' :: r => (magnitude? r).map (-·)
  | '+' :: r => magnitude? r
  | r => magnitude? r

/-! ### Reading -/

/-- The double that a text stands for, if it stands for one. -/
def real? (t : Text) : Option Float := (spelled? t).bind signed?

/-- Reads a decimal number. -/
def real (t : Text) : Except Fault Float :=
  match real? t with
  | some x => .ok x
  | none => .error (.notReal t)

example : (spelled? " 1_0.5e-2 ") = some "10.5e-2".toList := by decide
example : spelled? "1_.5" = none ∧ spelled? "1._5" = none ∧ spelled? "1__5" = none := by decide

end Rendezvous.Numeral
