/-!
# Sorting by a comparison that may fail

Binary insertion: the run with which a list begins is taken as it is, turned round if it falls, and
each further value is put behind the values that it is not before.  Where the comparison is a total
order the result is the stable one.  A comparison that fails ends the sorting, and which one that is
depends on the order in which values are compared.
-/

namespace Rendezvous.Sorting

variable {α ε : Type}

/-- The values at the front of which none is before its predecessor, and the others. -/
def risingRun (before : α → α → Except ε Bool) (last : α) : List α → Except ε (List α × List α)
  | [] => .ok ([], [])
  | x :: r => do
    if ← before x last then return ([], x :: r)
    let (run, rest) ← risingRun before x r
    return (x :: run, rest)

/-- The values at the front of which each is before its predecessor, turned round and put in front of
    `run`, and the others. -/
def fallingRun (before : α → α → Except ε Bool) (last : α) (run : List α) :
    List α → Except ε (List α × List α)
  | [] => .ok (run, [])
  | x :: r => do
    if ← before x last then fallingRun before x (x :: run) r
    else return (run, x :: r)

/-- The run with which a list begins, in rising order, and the others. -/
def leadingRun (before : α → α → Except ε Bool) : List α → Except ε (List α × List α)
  | [] => .ok ([], [])
  | [x] => .ok ([x], [])
  | x :: y :: r => do
    if ← before y x then fallingRun before y [y, x] r
    else
      let (run, rest) ← risingRun before y r
      return (x :: y :: run, rest)

/-- The place of `x` in a run, between `low` and `high`: behind the values that it is not before. -/
def place (before : α → α → Except ε Bool) (x : α) (run : List α) (low high : Nat)
    (h : high ≤ run.length) : Except ε Nat :=
  if l : low < high then
    let mid := low + (high - low) / 2
    match before x (run.get ⟨mid, by omega⟩) with
    | .error fault => .error fault
    | .ok true => place before x run low mid (by omega)
    | .ok false => place before x run (mid + 1) high h
  else .ok low
termination_by high - low
decreasing_by all_goals omega

/-- Puts `x` in its place in a run. -/
def insert (before : α → α → Except ε Bool) (run : List α) (x : α) : Except ε (List α) := do
  let n ← place before x run 0 run.length (Nat.le_refl _)
  return run.take n ++ x :: run.drop n

/-- Sorts a list. -/
def sort (before : α → α → Except ε Bool) (xs : List α) : Except ε (List α) := do
  let (run, rest) ← leadingRun before xs
  rest.foldlM (insert before) run

end Rendezvous.Sorting
