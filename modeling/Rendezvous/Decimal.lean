import Rendezvous.Text

/-!
# Doubles in decimal

A finite double is `± mantissa · 2 ^ exponent` with a mantissa below `2 ^ 53`.  Everything that has
to be exact about a double, such as its decimal text or its whole part, is computed from that.

From there come the order of doubles and whole numbers, the shortest text that reads back as a
double, the text with a fixed number of places, and, the other way, the double of a row of digits.
-/

namespace Rendezvous.Decimal

/-! ## Doubles as dyadic numbers -/

/-- A double taken apart. -/
inductive Dyadic where
  /-- Not a number. -/
  | nan
  /-- An infinity and whether it is the negative one. -/
  | infinite (negative : Bool)
  /-- `mantissa · 2 ^ exponent`, negated if `negative`; the zeros keep their sign. -/
  | finite (negative : Bool) (mantissa : Nat) (exponent : Int)
  deriving DecidableEq, Repr

/-- The leading bit of a mantissa, which is not stored: `2 ^ 52`. -/
def leadingBit : Nat := 0x10000000000000

/-- The double with the given 64 bits: a sign, eleven bits of exponent and 52 of fraction. -/
def Dyadic.ofBits (bits : Nat) : Dyadic :=
  let negative := (bits >>> 63) % 2 == 1
  let exponent : Nat := (bits >>> 52) % 2048
  let fraction : Nat := bits % leadingBit
  if exponent = 2047 then
    if fraction = 0 then .infinite negative else .nan
  else if exponent = 0 then .finite negative fraction (-1074)
  else .finite negative (leadingBit + fraction) ((exponent : Int) - 1075)

/-- A double taken apart. -/
def Dyadic.ofFloat (x : Float) : Dyadic := .ofBits x.toBits.toNat

/-- The whole part of `mantissa · 2 ^ exponent`. -/
def wholePart (mantissa : Nat) (exponent : Int) : Nat :=
  if 0 ≤ exponent then mantissa <<< exponent.toNat else mantissa >>> (-exponent).toNat

example : Dyadic.ofBits 0x3FF8000000000000 = .finite false 0x18000000000000 (-52) := by decide
example : Dyadic.ofBits 0xFFF0000000000000 = .infinite true := by decide

/-! ## The order of numbers

Whole numbers and doubles are compared by their exact values: both are dyadic, so the one with the
greater exponent is brought to the smaller one.  What is not a number is neither before nor equal to
anything.
-/

namespace Dyadic

/-- A whole number as a dyadic one. -/
def ofInt (n : Int) : Dyadic := .finite (n < 0) n.natAbs 0

/-- `± mantissa · 2 ^ exponent` in units of `2 ^ unit`, for a unit not above the exponent. -/
def inUnits (negative : Bool) (mantissa : Nat) (exponent unit : Int) : Int :=
  let n : Int := (mantissa <<< (exponent - unit).toNat : Nat)
  if negative then -n else n

/-- Whether `a` is less than `b`. -/
def less : Dyadic → Dyadic → Bool
  | .nan, _ => false
  | _, .nan => false
  | .infinite a, .infinite b => a && !b
  | .infinite a, .finite .. => a
  | .finite .., .infinite b => !b
  | .finite s m e, .finite t n f => inUnits s m e (min e f) < inUnits t n f (min e f)

/-- Whether `a` and `b` are the same number; zero has one value. -/
def equal : Dyadic → Dyadic → Bool
  | .infinite a, .infinite b => a == b
  | .finite s m e, .finite t n f => inUnits s m e (min e f) == inUnits t n f (min e f)
  | _, _ => false

end Dyadic

example : (Dyadic.ofInt 1).less (.finite false 3 (-1)) = true := by decide
example : (Dyadic.finite true 0 (-1074)).equal (.ofInt 0) = true := by decide

/-! ## The shortest decimal text of a double

Of the decimals that read back as the same double the text has the fewest digits, and of those the
one nearest to the double, an exact tie going to the even last digit.  For one digit, two, and so on
up to seventeen the two neighbours of the double on that decimal grid are tried in exact arithmetic:
if any point of a grid reads back, one of the two neighbours does.

How the digits are laid out is a `Style`.
-/

/-! ### The digits -/

/-- A decimal `digits · 10 ^ exponent`. -/
structure Digits where
  /-- The digits as one number. -/
  digits : Nat
  /-- The power of ten of the last digit. -/
  exponent : Int
  deriving DecidableEq, Repr

/-- How many decimal digits a number has. -/
def countDigits (n : Nat) : Nat := (Nat.toDigits 10 n).length

/-- The number `p` of digits before the point of `m · 2 ^ q`: `10 ^ (p - 1) ≤ m · 2 ^ q < 10 ^ p`.
    Four hundred places are enough for the least double to have a digit before the point. -/
def pointPlace (m : Nat) (q : Int) : Int :=
  (countDigits (wholePart (m * Nat.pow 10 400) q) : Int) - 400

/-- The double and the ends of the interval of reals that round to it, in quarters of the unit of
    its mantissa, and whether the ends belong to the interval. -/
structure Rounding where
  /-- The lower end. -/
  low : Nat
  /-- The double itself. -/
  mid : Nat
  /-- The upper end. -/
  high : Nat
  /-- Ties go to the even mantissa, so the ends round to an even one. -/
  closed : Bool

/-- The interval of `m · 2 ^ q`.  Below a power of two doubles stand twice as close. -/
def Rounding.of (m : Nat) (q : Int) : Rounding :=
  { low := 4 * m - (if m = leadingBit && q ≠ -1074 then 1 else 2)
    mid := 4 * m
    high := 4 * m + 2
    closed := m % 2 == 0 }

/-- The neighbour of the double on the grid of multiples of `10 ^ k` that reads back as it, the
    nearer one if both do; `q` is the exponent of the unit of its mantissa. -/
def gridPoint? (q k : Int) (r : Rounding) : Option Nat :=
  -- `d · 10 ^ k` and `x · 2 ^ (q - 2)` compare as `d * a` and `x * b`
  let a := Nat.pow 10 k.toNat <<< (2 - q).toNat
  let b := Nat.pow 10 (-k).toNat <<< (q - 2).toNat
  let d := r.mid * b / a
  let reads (d : Nat) : Bool :=
    if r.closed then r.low * b ≤ d * a && d * a ≤ r.high * b
    else r.low * b < d * a && d * a < r.high * b
  let below := r.mid * b - d * a
  let above := (d + 1) * a - r.mid * b
  match reads d, reads (d + 1) with
  | true, true => some (if below < above || (below = above && d % 2 = 0) then d else d + 1)
  | true, false => some d
  | false, true => some (d + 1)
  | false, false => none

/-- Takes the zeros off the end of the digits. -/
def Digits.normalize (d : Digits) : Digits :=
  go d 20
where
  /-- At most `n` zeros. -/
  go (d : Digits) : Nat → Digits
    | 0 => d
    | n + 1 => if d.digits ≠ 0 && d.digits % 10 = 0 then go ⟨d.digits / 10, d.exponent + 1⟩ n else d

/-- The first grid with a point that reads back, from `count` digits on, trying `fuel` of them. -/
def firstGrid (m : Nat) (q point : Int) (r : Rounding) (count : Nat) : Nat → Digits
  | 0 => ⟨m, q⟩
  | fuel + 1 =>
    match gridPoint? q (point - count) r with
    | some d => Digits.normalize ⟨d, point - count⟩
    | none => firstGrid m q point r (count + 1) fuel

/-- The shortest decimal that reads back as `m · 2 ^ q`, for a positive `m`. -/
def shortest (m : Nat) (q : Int) : Digits :=
  firstGrid m q (pointPlace m q) (.of m q) 1 17

/-! ### The layout -/

/-- How a double is written. -/
structure Style where
  /-- The text of a value that is no number. -/
  nan : String
  /-- The text of positive infinity. -/
  infinity : String
  /-- The least number of digits before the point that is written without an exponent; at zero and
      below the digits follow the point and zeros. -/
  leastPoint : Int := -3
  /-- The greatest such number. -/
  greatestPoint : Int := 16
  /-- The least number of digits of an exponent. -/
  exponentWidth : Nat := 2

/-- Zeros in front of `cs` up to `width` characters. -/
def padZeros (width : Nat) (cs : List Char) : List Char :=
  List.replicate (width - cs.length) '0' ++ cs

/-- Digits without an exponent; a whole number keeps a zero after the point. -/
def layoutPlain (digits : List Char) (point : Int) : List Char :=
  if point ≤ 0 then '0' :: '.' :: List.replicate (-point).toNat '0' ++ digits
  else if digits.length ≤ point.toNat then
    digits ++ List.replicate (point.toNat - digits.length) '0' ++ ['.', '0']
  else digits.take point.toNat ++ '.' :: digits.drop point.toNat

/-- Digits with an exponent: a point after the first digit if there is a second one, and the sign of
    the exponent always written. -/
def layoutExponent (width : Nat) (digits : List Char) (point : Int) : List Char :=
  let e := point - 1
  let mantissa := match digits with
    | [] => []
    | [d] => [d]
    | d :: r => d :: '.' :: r
  mantissa ++ 'e' :: (if e < 0 then '-' else '+') :: padZeros width (Nat.toDigits 10 e.natAbs)

/-- The digits of a double in a style. -/
def Style.layout (s : Style) (d : Digits) : List Char :=
  let digits := Nat.toDigits 10 d.digits
  let point := digits.length + d.exponent
  if s.leastPoint ≤ point && point ≤ s.greatestPoint then layoutPlain digits point
  else layoutExponent s.exponentWidth digits point

/-- The shortest text of a double in a style. -/
def Style.write (s : Style) (x : Float) : List Char :=
  match Dyadic.ofFloat x with
  | .nan => s.nan.toList
  | .infinite negative => (if negative then ['-'] else []) ++ s.infinity.toList
  | .finite negative m q =>
    (if negative then ['-'] else []) ++
      (if m = 0 then ['0', '.', '0'] else s.layout (shortest m q))

/-! ## A fixed number of decimal places

The exact value of the double is rounded once, a half going to the even neighbour.
-/

/-- `num / den` rounded to a whole number, a half to the even neighbour. -/
def roundDiv (num den : Nat) : Nat :=
  let d := num / den
  let r := num % den
  if 2 * r < den || (2 * r = den && d % 2 = 0) then d else d + 1

/-- `m · 2 ^ q` in units of the last of `places` decimal places. -/
def inPlaces (places m : Nat) (q : Int) : Nat :=
  roundDiv ((m * Nat.pow 10 places) <<< q.toNat) (1 <<< (-q).toNat)

/-- A double with `places` digits after the point. -/
def fixed (places : Nat) (x : Float) : List Char :=
  match Dyadic.ofFloat x with
  | .nan => ['n', 'a', 'n']
  | .infinite negative => (if negative then ['-'] else []) ++ ['i', 'n', 'f']
  | .finite negative m q =>
    let digits := padZeros (places + 1) (Nat.toDigits 10 (inPlaces places m q))
    (if negative then ['-'] else []) ++
      digits.take (digits.length - places) ++ '.' :: digits.drop (digits.length - places)

/-! ## Numbers from decimal digits

The whole number of a row of digits, and the double nearest to a decimal `digits · 10 ^ exponent`,
which is rounded once, a tie going to the even mantissa.  Exponents far outside the range of doubles
are settled by the number of digits, so no huge power is ever formed.
-/

/-- The most digits of a whole number that is read. -/
def digitLimit : Nat := 4300

/-- The value of a row of digits. -/
def ofDigits (ds : List Nat) : Nat := ds.foldl (fun n d => 10 * n + d) 0

/-- The double nearest to `digits · 10 ^ exponent`. -/
def Digits.toFloat (d : Digits) : Float :=
  let point := countDigits d.digits + d.exponent
  if d.digits = 0 then 0.0
  else if 400 < point then 1.0 / 0.0
  else if point < -400 then 0.0
  else Float.ofScientific d.digits (decide (d.exponent < 0)) d.exponent.natAbs

end Rendezvous.Decimal
