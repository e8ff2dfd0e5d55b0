/-!
# Text as a list of code points

An identity read from a JSON datagram may hold a surrogate that stands alone, so a text is a list
of code points and not of characters.  A character is a code point that is no surrogate;
`CodePoint.toChar?` is the partial inverse of `CodePoint.ofChar`.
-/

namespace Rendezvous

/-- A code point, the surrogates included. -/
structure CodePoint where
  /-- Its number. -/
  val : Nat
  /-- There are seventeen planes of code points. -/
  isLt : val < 0x110000

namespace CodePoint

/-! ## Characters and surrogates -/

/-- The code point of a character. -/
def ofChar (c : Char) : CodePoint :=
  ⟨c.toNat, by
    have h : c.toNat.isValidChar := c.valid
    rcases h with h | h <;> omega⟩

/-- The code point with a number; a number that no code point has gives the replacement
    character. -/
def ofNat (n : Nat) : CodePoint := if h : n < 0x110000 then ⟨n, h⟩ else ⟨0xFFFD, by decide⟩

/-- The first half of a surrogate pair. -/
def isHighSurrogate (c : CodePoint) : Bool := 0xD800 ≤ c.val && c.val ≤ 0xDBFF

/-- The second half of a surrogate pair. -/
def isLowSurrogate (c : CodePoint) : Bool := 0xDC00 ≤ c.val && c.val ≤ 0xDFFF

/-- The character of a code point, unless it is a surrogate. -/
def toChar? (c : CodePoint) : Option Char :=
  if c.val.isValidChar then some (Char.ofNat c.val) else none

@[simp] theorem val_ofChar (c : Char) : (ofChar c).val = c.toNat := rfl

theorem ext_val {a b : CodePoint} (h : a.val = b.val) : a = b := by
  cases a; cases b; cases h; rfl

-- not derived: a derived instance has the equation of the numbers in its data, which is slow to
-- evaluate for texts that are read from a datagram
instance : DecidableEq CodePoint := fun a b =>
  decidable_of_iff (a.val = b.val) ⟨ext_val, congrArg val⟩

theorem val_ofNat {n : Nat} (h : n < 0x110000) : (ofNat n).val = n := by
  rw [ofNat, dif_pos h]

theorem toChar?_ofChar (c : Char) : toChar? (ofChar c) = some c := by
  have h : (ofChar c).val.isValidChar := c.valid
  rw [toChar?, if_pos h, val_ofChar, Char.ofNat_toNat]

/-- Different characters have different code points. -/
theorem ofChar_inj {a b : Char} : ofChar a = ofChar b ↔ a = b := by
  constructor
  · intro h
    have h' := congrArg toChar? h
    rw [toChar?_ofChar, toChar?_ofChar] at h'
    exact Option.some.inj h'
  · exact congrArg ofChar

end CodePoint

/-- A text: code points in reading order. -/
abbrev Text := List CodePoint

namespace Text

/-! ## Texts from characters, strings and numbers -/

/-- The text of a list of characters. -/
def ofChars (cs : List Char) : Text := cs.map CodePoint.ofChar

/-- The text of a string. -/
def ofString (s : String) : Text := ofChars s.toList

instance : Coe String Text := ⟨ofString⟩

/-- The decimal digits of a natural number, without leading zeros. -/
def ofNat (n : Nat) : Text := ofChars (Nat.toDigits 10 n)

/-- A whole number in decimal, with a minus sign below zero. -/
def ofInt (n : Int) : Text :=
  if n < 0 then ofString "-" ++ ofNat n.natAbs else ofNat n.natAbs

/-- The string of a text that holds no surrogate. -/
def toString? (t : Text) : Option String := (t.mapM CodePoint.toChar?).map String.ofList

/-- The text between the characters that `drop` takes away at both ends. -/
def trim (drop : CodePoint → Bool) (t : Text) : Text :=
  ((t.dropWhile drop).reverse.dropWhile drop).reverse

/-- The order of texts, by the first code point in which they differ. -/
def isBefore : Text → Text → Bool
  | [], _ => true
  | _ :: _, [] => false
  | a :: s, b :: t => a.val < b.val || (a.val == b.val && isBefore s t)

/-- The texts one after another, with `mark` between neighbours. -/
def joinWith (mark : Text) : List Text → Text
  | [] => []
  | [t] => t
  | t :: u :: r => t ++ mark ++ joinWith mark (u :: r)

end Text

end Rendezvous
