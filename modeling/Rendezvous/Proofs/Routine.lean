import Rendezvous.Routine

/-!
# What the transport has to do with a routine

A routine hands payloads to a transport and hears nothing from it but its errors.  So all transports
that raise none are alike to it: it goes the same way, does the same to the tables and hands over
the same payloads.  What it does to the world is then told by its effects, each of which the world
turns into its own events (`execute_of_returns`).

The induction is on the routine.  It needs the transport only where a payload is sent, and there
only that it returns.
-/

namespace Rendezvous

variable {σ ε φ β γ : Type}

/-- A world whose transport never raises an error. -/
def World.Returns (w : World ε φ) : Prop :=
  ∀ payload recipient, ∃ ok, (w.send payload recipient).result = .ok ok

/-- The events that an effect is in a world. -/
def World.act (w : World ε φ) : Effect → List ε
  | .send payload recipient => (w.send payload recipient).events
  | .log notice => [w.note notice]

/-- Notices are no payloads. -/
@[simp] theorem Effect.deliveries_logs (notices : List Notice) :
    Effect.deliveries (notices.map .log) = [] := by
  rw [Effect.deliveries, List.filterMap_eq_nil_iff]
  intro e he
  obtain ⟨n, -, rfl⟩ := List.mem_map.mp he
  rfl

namespace Execution

/-- What a routine did with its effects written down, as it happens in another world. -/
def through (w : World ε φ) (e : Execution σ Effect Empty β) : Execution σ ε φ β where
  state := e.state
  result := e.result.mapError Empty.elim
  handed := e.handed
  events := e.events.flatMap w.act
  readings := e.readings
  drawn := e.drawn

theorem through_after (w : World ε φ) (e : Execution σ Effect Empty β)
    (handed : List (Payload × Endpoint)) (effects : List Effect) :
    (e.after handed effects).through w = (e.through w).after handed (effects.flatMap w.act) := by
  rw [after, through, List.flatMap_append]
  rfl

end Execution

namespace Routine

theorem execute_logAll (w : World ε φ) (notices : List Notice) (next : Routine σ β) (s : σ)
    (readings drawn : Nat) :
    (logAll notices next).execute w s readings drawn =
      (next.execute w s readings drawn).after [] (notices.map w.note) := by
  induction notices with
  | nil => rfl
  | cons n ns ih =>
    have hstep : (logAll (n :: ns) next).execute w s readings drawn =
        ((logAll ns next).execute w s readings drawn).after [] [w.note n] := rfl
    rw [hstep, ih]
    rfl

/-- **All transports that raise nothing are alike to a routine.** -/
theorem execute_of_returns {w : World ε φ} (hw : w.Returns) (routine : Routine σ β) (s : σ)
    (readings drawn : Nat) :
    routine.execute w s readings drawn =
      (routine.execute (.recording w.supply) s readings drawn).through w := by
  induction routine generalizing s readings drawn with
  | done => rfl
  | readClock next ih => exact ih _ s (readings + 1) drawn
  | drawId next ih => exact ih _ s readings (drawn + 1)
  | look next ih => exact ih s s readings drawn
  | change f next ih => exact ih (f s) readings drawn
  | send payload recipient next ih =>
    obtain ⟨ok, hok⟩ := hw payload recipient
    have hrecorded : (send payload recipient next).execute (.recording w.supply) s readings drawn =
        (next.execute (.recording w.supply) s readings drawn).after [(payload, recipient)]
          [.send payload recipient] := rfl
    rw [hrecorded, Execution.through_after, ← ih, execute]
    simp only [hok]
    simp [World.act]
  | log notice next ih =>
    have hrecorded : (log notice next).execute (.recording w.supply) s readings drawn =
        (next.execute (.recording w.supply) s readings drawn).after [] [.log notice] := rfl
    rw [hrecorded, Execution.through_after, ← ih]
    rfl

/-- What is handed to a transport that writes down all is what is written down. -/
theorem handed_recording (supply : Supply) (routine : Routine σ β) (s : σ)
    (readings drawn : Nat) :
    (routine.execute (.recording supply) s readings drawn).handed =
      Effect.deliveries (routine.execute (.recording supply) s readings drawn).events := by
  induction routine generalizing s readings drawn with
  | done => rfl
  | readClock next ih => exact ih _ s (readings + 1) drawn
  | drawId next ih => exact ih _ s readings (drawn + 1)
  | look next ih => exact ih s s readings drawn
  | change f next ih => exact ih (f s) readings drawn
  | send payload recipient next ih =>
    exact congrArg ((payload, recipient) :: ·) (ih s readings drawn)
  | log notice next ih => exact ih s readings drawn

end Routine

end Rendezvous
