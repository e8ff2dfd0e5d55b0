import Rendezvous.Sweeper

/-!
# Replaying a sweeper

A script of starts, stops and runs of the loop, with a store whose sweeps end as the script says.
-/

namespace Rendezvous.Replay

/-- A sweeper and whether it ever had a thread. -/
structure SweeperBench where
  /-- The sweeper. -/
  sweeper : Sweeper
  /-- Whether a thread was created. -/
  everStarted : Bool := false

namespace SweeperBench

/-- A line of the script. -/
inductive Action where
  /-- Starts the sweeper. -/
  | start
  /-- Stops it, waiting at most so many seconds if a number is given, which nobody refuses. -/
  | stop (timeout : Option Float)
  /-- Runs the loop of the last thread while these sweeps are left. -/
  | run (sweeps : List SweepResult)

/-- How a line ended. -/
inductive Result where
  /-- The loop ran. -/
  | ran
  /-- There is no thread whose loop could run. -/
  | noThread
  /-- Nothing came of it. -/
  | done
  deriving DecidableEq

/-- What a line led to. -/
structure Report where
  /-- How it ended. -/
  result : Result
  /-- Whether a thread is held after it. -/
  held : Bool
  /-- What was done. -/
  events : List Event

/-- Carries out a line. -/
def perform (b : SweeperBench) : Action → SweeperBench × Report
  | .start =>
    let answer := b.sweeper.start
    (⟨answer.sweeper, true⟩, ⟨.done, answer.sweeper.held, answer.events⟩)
  | .stop timeout =>
    let answer := b.sweeper.stop timeout none
    ({ b with sweeper := answer.sweeper }, ⟨.done, answer.sweeper.held, answer.events⟩)
  | .run sweeps =>
    if b.everStarted then
      (b, ⟨.ran, b.sweeper.held, b.sweeper.loop (sweeps.map fun r => ⟨[.swept], r⟩)⟩)
    else (b, ⟨.noThread, b.sweeper.held, []⟩)

/-- Carries out a script. -/
def run (b : SweeperBench) : List Action → List Report
  | [] => []
  | a :: rest =>
    let (b, report) := b.perform a
    report :: run b rest

end SweeperBench

end Rendezvous.Replay
