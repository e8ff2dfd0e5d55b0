import Rendezvous.Replay.Sources

/-!
# Replaying operations of the store

A script of operations on a single store, with scripted time and match ids.
-/

namespace Rendezvous.Replay

/-- An operation that takes its clock readings and match id from the sources. -/
inductive Request where
  /-- An endpoint asks for a peer. -/
  | register (who : Endpoint) (peer : Text)
  /-- An identity leaves its peer. -/
  | kill (uid peer matchId : Text)
  /-- The expired entries are removed. -/
  | sweep
  /-- The timeout is changed. -/
  | setTimeout (seconds : Float)

/-- The operation with what it takes from the sources. -/
def Request.command (s : Sources) : Request → Store.Command
  | .register who peer => .register who peer s.supply
  | .kill uid peer matchId => .kill uid peer matchId
  | .sweep => .sweep s.clock.now
  | .setTimeout seconds => .setTimeout seconds

/-- A store and the sources of its operations. -/
structure StoreBench where
  /-- The store. -/
  store : Store
  /-- Time and match ids. -/
  sources : Sources

namespace StoreBench

/-- A line of the script. -/
inductive Action where
  /-- An operation. -/
  | request (r : Request)
  /-- Time passes. -/
  | advance (seconds : Float)

/-- What a line led to. -/
structure Report where
  /-- How the operation ended; none if the line was no operation. -/
  outcome : Option Store.Outcome
  /-- What it did. -/
  effects : List Effect
  /-- The store after it. -/
  store : Store

/-- Carries out a line. -/
def perform (b : StoreBench) : Action → StoreBench × Report
  | .request r =>
    let step := b.store.apply (r.command b.sources)
    (⟨step.store, b.sources.after step.readings step.drawn⟩,
      ⟨some step.outcome, step.effects, step.store⟩)
  | .advance seconds => (⟨b.store, b.sources.advance seconds⟩, ⟨none, [], b.store⟩)

/-- Carries out a script. -/
def run (b : StoreBench) : List Action → List Report
  | [] => []
  | a :: rest =>
    let (b, report) := b.perform a
    report :: run b rest

end StoreBench

end Rendezvous.Replay
