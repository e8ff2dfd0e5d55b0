import Rendezvous.Text

/-!
# Classes of characters

What counts as a blank, what as a decimal digit, and what a character is in upper case.
-/

namespace Rendezvous.CodePoint

/-! ## Blank characters

Three classes of blanks are in use: the four of JSON, those around a number in a setting, and those
around the parts of a settings line.  The last two agree outside ASCII, where they are the
separators and spaces of Unicode; they differ in the four separator controls U+001C to U+001F.
-/

/-- The blanks of Unicode outside ASCII: next line, and the space, line and paragraph separators. -/
def isWideBlank (c : CodePoint) : Bool :=
  c.val == 0x85 || c.val == 0xA0 || c.val == 0x1680 || (0x2000 ≤ c.val && c.val ≤ 0x200A) ||
  c.val == 0x2028 || c.val == 0x2029 || c.val == 0x202F || c.val == 0x205F || c.val == 0x3000

/-- A blank around a number: tab to carriage return, space, or a blank outside ASCII. -/
def isNumberBlank (c : CodePoint) : Bool :=
  (0x09 ≤ c.val && c.val ≤ 0x0D) || c.val == 0x20 || c.isWideBlank

/-- A blank around the parts of a settings line: also the four separator controls. -/
def isLineBlank (c : CodePoint) : Bool :=
  c.isNumberBlank || (0x1C ≤ c.val && c.val ≤ 0x1F)

/-! ## Decimal digits

Unicode has its decimal digits in runs of ten, from a zero to a nine, one run for each script that
has digits of its own.  So a table of the zeros gives the value of every digit.
-/

/-- The zeros of the runs of decimal digits, in increasing order. -/
def digitZeros : List Nat :=
  [0x30, 0x660, 0x6F0, 0x7C0, 0x966, 0x9E6, 0xA66, 0xAE6, 0xB66, 0xBE6, 0xC66, 0xCE6, 0xD66,
    0xDE6, 0xE50, 0xED0, 0xF20, 0x1040, 0x1090, 0x17E0, 0x1810, 0x1946, 0x19D0, 0x1A80, 0x1A90,
    0x1B50, 0x1BB0, 0x1C40, 0x1C50, 0xA620, 0xA8D0, 0xA900, 0xA9D0, 0xA9F0, 0xAA50, 0xABF0,
    0xFF10, 0x104A0, 0x10D30, 0x11066, 0x110F0, 0x11136, 0x111D0, 0x112F0, 0x11450, 0x114D0,
    0x11650, 0x116C0, 0x11730, 0x118E0, 0x11950, 0x11C50, 0x11D50, 0x11DA0, 0x16A60, 0x16AC0,
    0x16B50, 0x1D7CE, 0x1D7D8, 0x1D7E2, 0x1D7EC, 0x1D7F6, 0x1E140, 0x1E2F0, 0x1E950, 0x1FBF0]

/-- The value of a decimal digit of any script. -/
def digitValue? (c : CodePoint) : Option Nat :=
  (digitZeros.find? fun z => z ≤ c.val && c.val < z + 10).map (c.val - ·)

/-- A decimal digit of any script. -/
def isDigit (c : CodePoint) : Bool := c.digitValue?.isSome

/-- A digit stands for less than ten. -/
theorem digitValue?_lt {c : CodePoint} {d : Nat} (h : c.digitValue? = some d) : d < 10 := by
  obtain ⟨z, hz, rfl⟩ := Option.map_eq_some_iff.1 h
  have := List.find?_some hz
  simp only [Bool.and_eq_true, decide_eq_true_eq] at this
  omega

example : (digitZeros.length, digitZeros.head?) = (66, some 0x30) := by decide

/-! ## Upper case, as far as it is ASCII

The names of log levels are looked up in upper case.  Beside the ASCII letters a few characters
have an upper case that is ASCII: dotless i, long s, sharp s and the Latin ligatures.  Every other
character stays what it is; neither it nor its upper case occurs in a name.
-/

/-- The characters outside ASCII whose upper case is ASCII. -/
def asciiUpperCases : List (Nat × String) :=
  [(0xDF, "SS"), (0x131, "I"), (0x17F, "S"), (0xFB00, "FF"), (0xFB01, "FI"), (0xFB02, "FL"),
    (0xFB03, "FFI"), (0xFB04, "FFL"), (0xFB05, "ST"), (0xFB06, "ST")]

/-- The upper case of a character if that is ASCII, and the character itself otherwise. -/
def upper (c : CodePoint) : Text :=
  if 0x61 ≤ c.val && c.val ≤ 0x7A then [ofNat (c.val - 0x20)]
  else ((asciiUpperCases.lookup c.val).map Text.ofString).getD [c]

end Rendezvous.CodePoint

namespace Rendezvous.Text

/-- A text in upper case, as far as that is ASCII. -/
def upper (t : Text) : Text := t.flatMap CodePoint.upper

example : upper "crıtıcal" = ofString "CRITICAL" := by decide

end Rendezvous.Text
