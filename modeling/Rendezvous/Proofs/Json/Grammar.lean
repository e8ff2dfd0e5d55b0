import Rendezvous.Json.Value
import Rendezvous.Decimal

/-!
# The grammar of JSON

Which texts are JSON, and of what value: a relation between characters and values that says nothing
about how a text is read.  It is the usual grammar with `NaN`, `Infinity` and `-Infinity` as further
numbers and with a bound on the digits of a whole number.

`IsValue t v d` says that the text `t` is one value, namely `v`, with lists and objects nested `d`
deep.  A list and the inside of an object are both rows of items between commas (`IsRow`), so there
is one rule for them and one induction: `IsValue.induct` has a case for each kind of value, in which
a row comes with the induction hypothesis for each of its items.
-/

namespace Rendezvous.Json

/-! ## Characters -/

/-- Only blanks: spaces, tabs, line feeds and carriage returns. -/
def IsBlanks (t : List Char) : Prop := ∀ c ∈ t, c = ' ' ∨ c = '\t' ∨ c = '\n' ∨ c = '\r'

/-- Decimal digits, at least one. -/
def IsDigits (t : List Char) : Prop := t ≠ [] ∧ ∀ c ∈ t, c.isDigit

/-- The hexadecimal digit of a number, in either case. -/
def IsHexDigit (c : Char) (n : Nat) : Prop :=
  n < 16 ∧ (c = Nat.digitChar n ∨ c = (Nat.digitChar n).toUpper)

/-! ## Strings -/

/-- The escapes of one letter, with the characters for which they stand. -/
def letterEscapes : List (Char × Char) :=
  [('"', '"'), ('\\', '\\'), ('/', '/'), ('b', '\x08'), ('f', '\x0C'), ('n', '\n'), ('r', '\r'),
    ('t', '\t')]

/-- A part of a string that stands for one code point, which may be half of a surrogate pair. -/
inductive IsUnit : List Char → CodePoint → Prop
  | plain {c : Char} (space : 0x20 ≤ c.toNat) (quote : c ≠ '"') (backslash : c ≠ '\\') :
      IsUnit [c] (.ofChar c)
  | letter {e c : Char} (escape : (e, c) ∈ letterEscapes) : IsUnit ['\\', e] (.ofChar c)
  | hex {a b c d : Char} {i j k l : Nat} {p : CodePoint} (ha : IsHexDigit a i)
      (hb : IsHexDigit b j) (hc : IsHexDigit c k) (hd : IsHexDigit d l)
      (val : p.val = ((i * 16 + j) * 16 + k) * 16 + l) : IsUnit ['\\', 'u', a, b, c, d] p

/-- The parts of a string one after another. -/
inductive IsUnits : List Char → Text → Prop
  | nil : IsUnits [] []
  | cons {u t : List Char} {p : CodePoint} {ps : Text} (unit : IsUnit u p) (units : IsUnits t ps) :
      IsUnits (u ++ t) (p :: ps)

/-- The two halves of a surrogate pair. -/
def IsPair (h l : CodePoint) : Prop := h.isHighSurrogate ∧ l.isLowSurrogate

/-- Each surrogate pair of the first text is one code point of the second. -/
inductive IsJoined : Text → Text → Prop
  | nil : IsJoined [] []
  | pair {h l p : CodePoint} {us ps : Text} (isPair : IsPair h l)
      (val : p.val = 0x10000 + (h.val - 0xD800) * 0x400 + (l.val - 0xDC00))
      (joined : IsJoined us ps) : IsJoined (h :: l :: us) (p :: ps)
  | single {p : CodePoint} {us ps : Text} (alone : ∀ l ∈ us.head?, ¬IsPair p l)
      (joined : IsJoined us ps) : IsJoined (p :: us) (p :: ps)

/-- A string between its quotes. -/
inductive IsString : List Char → Text → Prop
  | mk {t : List Char} {us s : Text} (units : IsUnits t us) (joined : IsJoined us s) :
      IsString ('"' :: t ++ ['"']) s

/-! ## Numbers -/

/-- The sign of a number. -/
def sign (negative : Bool) : List Char := if negative then ['-'] else []

/-- The digits before the point: no zero in front of others. -/
def IsWhole (ds : List Char) : Prop := IsDigits ds ∧ (ds.head? = some '0' → ds = ['0'])

/-- Nothing, or a point and the digits behind it. -/
inductive IsFraction : List Char → List Char → Prop
  | none : IsFraction [] []
  | some {ds : List Char} (digits : IsDigits ds) : IsFraction ('.' :: ds) ds

/-- Nothing, or a power of ten. -/
inductive IsExponent : List Char → Int → Prop
  | none : IsExponent [] 0
  | positive {e : Char} {s ds : List Char} (mark : e = 'e' ∨ e = 'E') (plus : s = [] ∨ s = ['+'])
      (digits : IsDigits ds) : IsExponent (e :: s ++ ds) (Nat.ofDigitChars 10 ds 0)
  | negative {e : Char} {ds : List Char} (mark : e = 'e' ∨ e = 'E') (digits : IsDigits ds) :
      IsExponent (e :: '-' :: ds) (-Nat.ofDigitChars 10 ds 0)

/-- A number: whole if it has neither fraction nor exponent, and otherwise the nearest double. -/
inductive IsNumber : List Char → Value → Prop
  | whole (negative : Bool) {ds : List Char} (digits : IsWhole ds)
      (few : ds.length ≤ Decimal.digitLimit) :
      IsNumber (sign negative ++ ds)
        (.int (if negative then -(Nat.ofDigitChars 10 ds 0) else Nat.ofDigitChars 10 ds 0))
  | real (negative : Bool) {ds f after e : List Char} {n : Int} {x : Float} (digits : IsWhole ds)
      (fraction : IsFraction f after) (exponent : IsExponent e n) (marked : f ≠ [] ∨ e ≠ [])
      (size : Decimal.Digits.toFloat ⟨Nat.ofDigitChars 10 (ds ++ after) 0, n - after.length⟩ = x) :
      IsNumber (sign negative ++ ds ++ f ++ e) (.float (if negative then -x else x))

/-! ## Values -/

/-- A word that is a value. -/
inductive IsWord : List Char → Value → Prop
  | null : IsWord ['n', 'u', 'l', 'l'] .null
  | true : IsWord ['t', 'r', 'u', 'e'] (.bool true)
  | false : IsWord ['f', 'a', 'l', 's', 'e'] (.bool false)
  | nan : IsWord ['N', 'a', 'N'] (.float (0.0 / 0.0))
  | infinity : IsWord ['I', 'n', 'f', 'i', 'n', 'i', 't', 'y'] (.float (1.0 / 0.0))
  | minusInfinity : IsWord ['-', 'I', 'n', 'f', 'i', 'n', 'i', 't', 'y'] (.float (-1.0 / 0.0))

section Row

variable {α : Type}

/-- Items between commas, with blanks around each: nothing but blanks if there are none.  The
    number is the greatest depth of an item. -/
inductive IsRow (P : List Char → α → Nat → Prop) : List Char → List α → Nat → Prop
  | empty {b : List Char} (blanks : IsBlanks b) : IsRow P b [] 0
  | last {b t c : List Char} {x : α} {d : Nat} (before : IsBlanks b) (item : P t x d)
      (after : IsBlanks c) : IsRow P (b ++ t ++ c) [x] d
  | more {b t c r : List Char} {x : α} {xs : List α} {d e : Nat} (before : IsBlanks b)
      (item : P t x d) (after : IsBlanks c) (rest : IsRow P r xs e) (further : xs ≠ []) :
      IsRow P (b ++ t ++ c ++ ',' :: r) (x :: xs) (max d e)

/-- A member of an object: a string, a colon and a value. -/
inductive IsMember (P : List Char → Value → Nat → Prop) : List Char → Text × Value → Nat → Prop
  | mk {k b c t : List Char} {key : Text} {v : Value} {d : Nat} (name : IsString k key)
      (before : IsBlanks b) (after : IsBlanks c) (value : P t v d) :
      IsMember P (k ++ b ++ ':' :: c ++ t) (key, v) d

end Row

/-- A value, with the depth of its lists and objects. -/
inductive IsValue : List Char → Value → Nat → Prop
  | word {t : List Char} {v : Value} (h : IsWord t v) : IsValue t v 0
  | number {t : List Char} {v : Value} (h : IsNumber t v) : IsValue t v 0
  | text {t : List Char} {s : Text} (h : IsString t s) : IsValue t (.text s) 0
  | list {t : List Char} {vs : List Value} {d : Nat} (row : IsRow IsValue t vs d) :
      IsValue ('[' :: t ++ [']']) (.list vs) (d + 1)
  | object {t : List Char} {ms : List (Text × Value)} {d : Nat}
      (row : IsRow (IsMember IsValue) t ms d) :
      IsValue ('{' :: t ++ ['}']) (.object (Members.ofWritten ms)) (d + 1)

/-- A text that is one value between blanks. -/
inductive IsJson : List Char → Value → Nat → Prop
  | mk {b t c : List Char} {v : Value} {d : Nat} (before : IsBlanks b) (value : IsValue t v d)
      (after : IsBlanks c) : IsJson (b ++ t ++ c) v d

/-! ## Induction -/

theorem IsRow.imp {α : Type} {P Q : List Char → α → Nat → Prop} {t : List Char} {xs : List α}
    {d : Nat} (row : IsRow P t xs d) (himp : ∀ t x d, P t x d → Q t x d) : IsRow Q t xs d := by
  induction row with
  | empty blanks => exact .empty blanks
  | last before item after => exact .last before (himp _ _ _ item) after
  | more before item after _ further ih => exact .more before (himp _ _ _ item) after ih further

/-- Induction over a value, in which rows are rows of items that have the property. -/
theorem IsValue.induct {motive : List Char → Value → Nat → Prop}
    (word : ∀ {t v}, IsWord t v → motive t v 0)
    (number : ∀ {t v}, IsNumber t v → motive t v 0)
    (text : ∀ {t s}, IsString t s → motive t (.text s) 0)
    (list : ∀ {t vs d}, IsRow motive t vs d → motive ('[' :: t ++ [']']) (.list vs) (d + 1))
    (object : ∀ {t ms d}, IsRow (IsMember motive) t ms d →
      motive ('{' :: t ++ ['}']) (.object (Members.ofWritten ms)) (d + 1))
    {t : List Char} {v : Value} {d : Nat} (h : IsValue t v d) : motive t v d :=
  @IsValue.rec (fun t v d _ => motive t v d) (fun t vs d _ => IsRow motive t vs d)
    (fun t ms d _ => IsRow (IsMember motive) t ms d) (fun t m d _ => IsMember motive t m d)
    word number text (fun _ ih => list ih) (fun _ ih => object ih)
    .empty (fun before _ after ih => .last before ih after)
    (fun before _ after _ further ih ih' => .more before ih after ih' further)
    .empty (fun before _ after ih => .last before ih after)
    (fun before _ after _ further ih ih' => .more before ih after ih' further)
    (fun name before after _ ih => .mk name before after ih) t v d h

end Rendezvous.Json
