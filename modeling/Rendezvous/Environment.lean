import Rendezvous.Numeral
import Rendezvous.Table

/-!
# Numbers from the environment and the command line

A variable that is set to a number gives that number; one that is unset or set to anything else
gives a fallback.  The fallback is converted only when it is needed, and only then can it be at
fault.

The port comes from the command line, or is one that the caller has.
-/

namespace Rendezvous

/-- The variables and their values. -/
abbrev Environment := Table Text Text

/-- What stands in for a variable that gives no number. -/
inductive Fallback where
  /-- A whole number. -/
  | whole (n : Int)
  /-- A double. -/
  | real (x : Float)
  /-- A truth value, which counts as one or zero. -/
  | flag (b : Bool)
  /-- A text to be read like the variable itself. -/
  | text (t : Text)

namespace Fallback

/-- The double nearest to a whole number; `tooLarge` if that is beyond the greatest one. -/
def doubleOfInt (n : Int) : Except Numeral.Fault Float :=
  let size := Decimal.Digits.toFloat ⟨n.natAbs, 0⟩
  if size.isInf then .error .tooLarge else .ok (if n < 0 then -size else size)

/-- A fallback as a whole number; a fraction is cut off. -/
def toWhole : Fallback → Except Numeral.Fault Int
  | whole n => .ok n
  | real x =>
    match Decimal.Dyadic.ofFloat x with
    | .nan => .error .undefinedWhole
    | .infinite _ => .error .infiniteWhole
    | .finite negative m q => .ok (Numeral.withSign negative (Decimal.wholePart m q))
  | flag b => .ok (if b then 1 else 0)
  | text t => Numeral.whole t

/-- A fallback as a double. -/
def toReal : Fallback → Except Numeral.Fault Float
  | whole n => doubleOfInt n
  | real x => .ok x
  | flag b => .ok (if b then 1.0 else 0.0)
  | text t => Numeral.real t

end Fallback

namespace Environment

/-- The whole number to which a variable is set. -/
def whole? (env : Environment) (name : Text) : Option Int :=
  (env.get? name).bind Numeral.whole?

/-- The double to which a variable is set. -/
def real? (env : Environment) (name : Text) : Option Float :=
  (env.get? name).bind Numeral.real?

/-- The whole number of a variable, or that of a fallback. -/
def wholeOr (env : Environment) (name : Text) (fallback : Fallback) : Except Numeral.Fault Int :=
  match env.whole? name with
  | some n => .ok n
  | none => fallback.toWhole

/-- The double of a variable, or that of a fallback. -/
def realOr (env : Environment) (name : Text) (fallback : Fallback) : Except Numeral.Fault Float :=
  match env.real? name with
  | some x => .ok x
  | none => fallback.toReal

/-- The text of a variable, or a fallback. -/
def textOr (env : Environment) (name fallback : Text) : Text := (env.get? name).getD fallback

end Environment

end Rendezvous

namespace Rendezvous.Port

/-! ## The port on the command line

The first argument behind the program's name is the port, a whole number from 1 to 65535.  Without
it the port is the one that the caller has, which is not looked at.
-/

/-- What is wrong with a port argument. -/
inductive Fault where
  /-- It is no whole number. -/
  | notWhole (text : Text)
  /-- It is no port. -/
  | outOfRange (n : Int)
  deriving DecidableEq

/-- The wording of a fault. -/
def Fault.message : Fault → Text
  | .notWhole t => "Invalid port: " ++ t
  | .outOfRange n => "Invalid port: " ++ Text.ofInt n

/-- The port of an argument. -/
def ofText (t : Text) : Except Fault Int :=
  match Numeral.whole? t with
  | none => .error (.notWhole t)
  | some n => if n < 1 || 65535 < n then .error (.outOfRange n) else .ok n

/-- The port of a command line whose first word is the program's name. -/
def ofArguments (arguments : List Text) (fallback : Int) : Except Fault Int :=
  match arguments with
  | _ :: t :: _ => ofText t
  | _ => .ok fallback

end Rendezvous.Port
