import Rendezvous.Json.Value
import Rendezvous.Decimal
import Rendezvous.Sorting

/-!
# The parts of a value in order

An object has its keys as parts, a text its characters, a list its items.  Numbers, truth values
among them, are ordered by size, texts by code points, and lists by the first items in which they
differ.  Between other kinds there is no order, and to need one is a fault.
-/

namespace Rendezvous.Json

/-! ## Kinds -/

/-- The kinds of values. -/
inductive Kind where
  | null
  | bool
  | int
  | float
  | text
  | list
  | object
  deriving DecidableEq, Repr

/-- The kind of a value. -/
def Value.kind : Value → Kind
  | .null => .null
  | .bool _ => .bool
  | .int _ => .int
  | .float _ => .float
  | .text _ => .text
  | .list _ => .list
  | .object _ => .object

/-- The name of a kind in messages. -/
def Kind.name : Kind → Text
  | .null => "NoneType"
  | .bool => "bool"
  | .int => "int"
  | .float => "float"
  | .text => "str"
  | .list => "list"
  | .object => "dict"

/-- Why the parts of a value cannot be put in order. -/
inductive PartsFault where
  /-- It has no parts. -/
  | noParts (kind : Kind)
  /-- There is no order between parts of these kinds. -/
  | unordered (left right : Kind)
  deriving DecidableEq, Repr

/-- The wording of a fault. -/
def PartsFault.message : PartsFault → Text
  | .noParts k => "'" ++ k.name ++ "' object is not iterable"
  | .unordered l r =>
    "'<' not supported between instances of '" ++ l.name ++ "' and '" ++ r.name ++ "'"

/-! ## Sameness -/

/-- The number of a value, if it is one; a truth value counts as one or zero. -/
def Value.number? : Value → Option Decimal.Dyadic
  | .bool b => some (.ofInt (if b then 1 else 0))
  | .int n => some (.ofInt n)
  | .float x => some (.ofFloat x)
  | _ => none

/-- Whether two numbers are the same; what is not a number is the same as itself here. -/
def sameNumber : Decimal.Dyadic → Decimal.Dyadic → Bool
  | .nan, .nan => true
  | a, b => a.equal b

/-- Whether two values that hold no values are the same. -/
def sameLeaf (v w : Value) : Bool :=
  match v, w with
  | .null, .null => true
  | .text s, .text t => s == t
  | v, w =>
    match v.number?, w.number? with
    | some a, some b => sameNumber a b
    | _, _ => false

mutual

/-- Whether two values are the same; the order of members is of no account. -/
def Value.same : Value → Value → Bool
  | .list vs, .list ws => sameItems vs ws
  | .object ms, .object ns => ms.length == ns.length && sameMembers ms ns
  | v, w => sameLeaf v w

/-- Whether two lists are the same. -/
def sameItems : List Value → List Value → Bool
  | [], [] => true
  | v :: r, w :: s => v.same w && sameItems r s
  | _, _ => false

/-- Whether all members are among others. -/
def sameMembers : List (Text × Value) → Members → Bool
  | [], _ => true
  | (k, v) :: r, ns =>
    (match ns.get? k with
      | some w => v.same w
      | none => false) && sameMembers r ns

end

/-! ## Order -/

/-- Whether one leaf is before another. -/
def leafBefore (v w : Value) : Except PartsFault Bool :=
  match v, w with
  | .text s, .text t => .ok (!Text.isBefore t s)
  | v, w =>
    match v.number?, w.number? with
    | some a, some b => .ok (a.less b)
    | _, _ => .error (.unordered v.kind w.kind)

mutual

/-- Whether one value is before another. -/
def Value.before : Value → Value → Except PartsFault Bool
  | .list vs, .list ws => itemsBefore vs ws
  | v, w => leafBefore v w

/-- Whether one list is before another: the first items that are not the same decide, and without
    such the length. -/
def itemsBefore : List Value → List Value → Except PartsFault Bool
  | _, [] => .ok false
  | [], _ :: _ => .ok true
  | v :: r, w :: s => if v.same w then itemsBefore r s else v.before w

end

/-! ## Parts -/

/-- Texts in order. -/
def sortedTexts (ts : List Text) : List Value := (ts.mergeSort Text.isBefore).map .text

/-- The parts of a value in order. -/
def Value.sortedParts : Value → Except PartsFault (List Value)
  | .object ms => .ok (sortedTexts (ms.map Prod.fst))
  | .text t => .ok (sortedTexts (t.map fun c => [c]))
  | .list vs => Sorting.sort Value.before vs
  | v => .error (.noParts v.kind)

end Rendezvous.Json
