import Rendezvous.Text
import Rendezvous.Table

/-!
# JSON values

Whole numbers are exact and of any size; a number with a fraction or an exponent is a double.  The
members of an object keep the order in which they were written, with distinct keys: a repeated key
has its first place and its last value.
-/

namespace Rendezvous.Json

/-- A JSON value. -/
inductive Value where
  /-- The value `null`. -/
  | null
  /-- A truth value. -/
  | bool (b : Bool)
  /-- A number written without fraction and exponent. -/
  | int (n : Int)
  /-- Any other number. -/
  | float (x : Float)
  /-- A text. -/
  | text (t : Text)
  /-- A list of values. -/
  | list (items : List Value)
  /-- An object with its members in order. -/
  | object (members : List (Text × Value))
  deriving Inhabited

/-- The members of an object. -/
abbrev Members := List (Text × Value)

/-- The members of an object whose members were written one after another. -/
def Members.ofWritten (written : List (Text × Value)) : Members :=
  written.foldl (fun ms m => Entries.put m.1 m.2 ms) []

theorem Members.ofWritten_append_singleton (written : List (Text × Value)) (m : Text × Value) :
    ofWritten (written ++ [m]) = Entries.put m.1 m.2 (ofWritten written) := by
  rw [ofWritten, List.foldl_append]
  rfl

/-- The value of a member. -/
def Members.get? (ms : Members) (key : Text) : Option Value := Entries.get? key ms

/-- The member of an object; other values have none. -/
def Value.member? (key : Text) : Value → Option Value
  | .object ms => Members.get? ms key
  | _ => none

end Rendezvous.Json
