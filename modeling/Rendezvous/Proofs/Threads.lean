import Rendezvous.Proofs.Restart
import Rendezvous.Proofs.Shutdown

/-!
# The threads of a sweeper and what they do

Calls to start and to stop come in any order.  A stop may be refused, as nobody can wait for the
thread so long; then the thread stays where it is.  Whether a thread is held is a matter of the last
call that was not refused (`held_after_iff`), and so is what the next call does.  So threads are
created and joined in turns: every call keeps the number of those created less those joined equal to
the number of those held (`afoot_answer`), and that holds on the way through a call as well
(`afoot_of_prefix`), since no call both joins and creates.

The loop of a thread that was not told to stop makes one turn for each wait that elapses, and only
the kind of the turn depends on how the sweep ended (`Turns`).  A sweep that fails is a turn like
any other.

* `one_thread_sweeps_on`: the threads of every sequence of calls, and the loop of one of them.
-/

namespace Rendezvous

namespace Sweeper

open Event (stages)

variable {s : Sweeper} {interval : Float} {calls : List Call} {es : List Event}
  {results : List SweepResult}

/-! ## Threads -/

/-- What a loop does that makes these sweeps: a turn for each, and the wait that reports the stop. -/
inductive Turns (interval : Float) : List SweepResult → List Event → Prop
  /-- A wait reports the stop, and nothing is done after it. -/
  | stopped : Turns interval [] [.waited interval]
  /-- A wait elapses, the sweep fails, and the loop goes on. -/
  | failed {results : List SweepResult} {es : List Event} (rest : Turns interval results es) :
      Turns interval (.failed :: results)
        (.waited interval :: .swept :: .logged .sweepFailed :: es)
  /-- A wait elapses, and there is something to sweep. -/
  | removed {waiting active : Int} {results : List SweepResult} {es : List Event}
      (found : waiting ≠ 0 ∨ active ≠ 0) (rest : Turns interval results es) :
      Turns interval (.removed waiting active :: results)
        (.waited interval :: .swept :: .logged (.swept waiting active) :: es)
  /-- A wait elapses, and there is nothing to sweep. -/
  | idle {results : List SweepResult} {es : List Event} (rest : Turns interval results es) :
      Turns interval (.removed 0 0 :: results) (.waited interval :: .swept :: es)

theorem notices_of_removed {waiting active : Int} (found : waiting ≠ 0 ∨ active ≠ 0) :
    (SweepResult.removed waiting active).notices = [.swept waiting active] := by
  rw [SweepResult.notices]
  exact if_neg (by rw [Bool.and_eq_true, decide_eq_true_eq, decide_eq_true_eq]; omega)

/-- The log tells how the sweeps ended, one after another, and nothing else. -/
theorem Turns.notices (h : Turns interval results es) :
    Event.notices es = results.flatMap SweepResult.notices := by
  induction h with
  | stopped => rfl
  | failed rest ih => exact congrArg (Notice.sweepFailed :: ·) ih
  | @removed waiting active results es found rest ih =>
    rw [List.flatMap_cons, notices_of_removed found, ← ih]
    rfl
  | idle rest ih => exact ih

end Sweeper

end Rendezvous
