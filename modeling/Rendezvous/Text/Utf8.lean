/-!
# Bytes that are not quite UTF-8

How far a byte string is UTF-8, and where its first fault shows.  A fault shows at the byte that no
character can have in its place; where the bytes end inside a character it shows only at their end.
-/

namespace Rendezvous.Utf8

/-- A byte inside a character. -/
def isContinuation (b : UInt8) : Bool := 0x80 ≤ b && b ≤ 0xBF

/-- Whether `b` may follow the first byte `a` of a character of three or four bytes.  Overlong
    forms, surrogates and numbers beyond the last plane are ruled out here. -/
def isSecond (a b : UInt8) : Bool :=
  if a = 0xE0 then 0xA0 ≤ b && b ≤ 0xBF
  else if a = 0xED then 0x80 ≤ b && b ≤ 0x9F
  else if a = 0xF0 then 0x90 ≤ b && b ≤ 0xBF
  else if a = 0xF4 then 0x80 ≤ b && b ≤ 0x8F
  else isContinuation b

/-- How many bytes the character at the front has, if there is a complete one. -/
def charLength? : List UInt8 → Option Nat
  | [] => none
  | a :: r =>
    if a < 0x80 then some 1
    else if 0xC2 ≤ a && a ≤ 0xDF then
      match r with
      | b :: _ => if isContinuation b then some 2 else none
      | _ => none
    else if 0xE0 ≤ a && a ≤ 0xEF then
      match r with
      | b :: c :: _ => if isSecond a b && isContinuation c then some 3 else none
      | _ => none
    else if 0xF0 ≤ a && a ≤ 0xF4 then
      match r with
      | b :: c :: d :: _ =>
        if isSecond a b && isContinuation c && isContinuation d then some 4 else none
      | _ => none
    else none

/-- Whether the bytes may begin a character of more bytes.  The first two bytes of a surrogate count
    as a beginning: only the third byte shows their fault. -/
def beginsChar : List UInt8 → Bool
  | [a] => 0xC2 ≤ a && a ≤ 0xF4
  | [a, b] => 0xE0 ≤ a && a ≤ 0xF4 && (isSecond a b || (a = 0xED && isContinuation b))
  | [a, b, c] => 0xF0 ≤ a && a ≤ 0xF4 && isSecond a b && isContinuation c
  | _ => false

/-- How many bytes at the front are complete characters; `bound` bounds the characters. -/
def wellFormedUpTo : Nat → List UInt8 → Nat
  | 0, _ => 0
  | bound + 1, bs =>
    match charLength? bs with
    | some n => n + wellFormedUpTo bound (bs.drop n)
    | none => 0

/-- How many bytes at the front are complete characters. -/
def wellFormedLength (bs : List UInt8) : Nat := wellFormedUpTo bs.length bs

/-- Where the fault of bytes that are not UTF-8 shows: behind the complete characters and the
    beginning of a further one. -/
def faultPlace (bs : List UInt8) : Nat :=
  let n := wellFormedLength bs
  let rest := bs.drop n
  let begun := ([3, 2, 1].find? fun k => beginsChar (rest.take k)).getD 0
  n + min begun rest.length

example : faultPlace [0x41, 0xED, 0xA0] = 3 ∧ faultPlace [0x41, 0xED, 0xA0, 0x80] = 3 := by decide
example : faultPlace [0x41, 0xE0, 0x80] = 2 ∧ faultPlace [0xF0, 0x9F, 0x98] = 3 := by decide

end Rendezvous.Utf8
