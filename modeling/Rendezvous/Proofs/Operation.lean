import Rendezvous.Proofs.Transition
import Rendezvous.Server

/-!
# The server as the transport of its store

The operations of the store are broken off by a transport that raises an error, in the middle of a
match or of a kill.  The server is such a transport: the socket raises an error if it cannot send,
and to list the parts of a value may fail as well.  It keeps the contract all the same, for the
first error is caught, and the parts of a payload, which is an object, can always be listed
(`world_returns`).  So what the server does for a message is the step of the store, and its effects
one after another on the socket and in the log (`operate_eq`).

* `receive_cases`: the ways to deal with a datagram.
-/

namespace Rendezvous

namespace Store

/-- With a transport that raises nothing a routine does what its step tells. -/
theorem execute_eq_step {ε φ β : Type} {w : World ε φ} (hw : w.Returns) (s : Store)
    (routine : Routine Store β) :
    routine.execute w s 0 0 =
      let r := s.step w.supply routine
      ⟨r.store, .ok r.outcome, Effect.deliveries r.effects, r.effects.flatMap w.act, r.readings,
        r.drawn⟩ := by
  have hhanded := routine.handed_recording w.supply s 0 0
  rw [routine.execute_of_returns hw, step]
  generalize routine.execute (.recording w.supply) s 0 0 = e at hhanded ⊢
  obtain ⟨store, result, handed, effects, readings, drawn⟩ := e
  obtain rfl : handed = Effect.deliveries effects := hhanded
  cases result with
  | ok outcome => rfl
  | error none => cases none

end Store

namespace Server

variable {s : Server} {d : ByteArray} {source : Source}

/-! ## Sending -/

/-- That an object could not be sent is all that can go wrong with it, and nothing is raised. -/
theorem send_object_result (fault : Option Text) (ms : Json.Members) (recipient : Endpoint) :
    (send fault (.object ms) recipient).result = .ok fault.isNone := by
  cases fault <;> rfl

/-- **The server keeps the contract of a transport.** -/
theorem world_returns (fault : Option Text) (supply : Supply) : (world fault supply).Returns :=
  fun _ recipient => ⟨fault.isNone, send_object_result fault _ recipient⟩

/-- What the effects of an operation are on the socket and in the log. -/
def perform (fault : Option Text) (effects : List Effect) : List Event :=
  effects.flatMap fun
    | .send payload recipient => (send fault (.object payload.members) recipient).events
    | .log notice => [.logged notice]

theorem flatMap_act (fault : Option Text) (supply : Supply) (effects : List Effect) :
    effects.flatMap (world fault supply).act = perform fault effects := rfl

theorem datagrams_send (fault : Option Text) (p : Payload) (recipient : Endpoint) :
    Event.datagrams (send fault (.object p.members) recipient).events =
      if fault.isSome then [] else [(p.encode, ⟨recipient.address, recipient.port⟩)] := by
  cases fault <;> rfl

/-- **The server puts the payloads of an operation on the socket, in their order**, or none while
    the socket fails. -/
theorem datagrams_perform (fault : Option Text) (effects : List Effect) :
    Event.datagrams (perform fault effects) =
      if fault.isSome then []
      else (Effect.deliveries effects).map fun d => (d.1.encode, ⟨d.2.address, d.2.port⟩) := by
  induction effects with
  | nil => cases fault <;> rfl
  | cons effect effects ih =>
    rw [perform, List.flatMap_cons, ← perform, Event.datagrams, List.filterMap_append,
      ← Event.datagrams, ← Event.datagrams, ih]
    cases effect with
    | send p recipient =>
      rw [datagrams_send]
      cases fault <;> rfl
    | log notice => rfl

/-! ## Operations -/

/-- **What the server does for a message is the step of the store.**  Whether the socket fails makes
    no difference to the tables, to the outcome and to what is handed over to be sent. -/
theorem operate_eq (fault : Option Text) (supply : Supply) (store : Store) (m : Message)
    (source : Source) :
    operate (world fault supply) store m source =
      let r := store.apply (m.command source supply)
      ⟨r.store, .ok r.outcome, Effect.deliveries r.effects, perform fault r.effects, r.readings,
        r.drawn⟩ := by
  have hreturns := world_returns fault supply
  rw [operate, Message.command]
  cases m.kill with
  | true =>
    simp only [if_true, Store.execute_eq_step hreturns, flatMap_act]
    rw [Store.step_teardown]
    rfl
  | false =>
    simp only [Bool.false_eq_true, if_false, Store.execute_eq_step hreturns, flatMap_act]
    rfl

/-! ## Datagrams -/

/-- A message has the effects of its operation. -/
theorem receive_of_ok {m : Message}
    (h : Message.decode s.platform.depth (cut s.maxPacket d) = .ok m) (fault : Option Text)
    (supply : Supply) (source : Source) :
    s.receive fault supply d source =
      let r := s.store.apply (m.command source supply)
      ⟨r.store, .applied r.outcome, Effect.deliveries r.effects,
        .logged (.received source.address source.port (cut s.maxPacket d)) ::
          perform fault r.effects, r.readings, r.drawn⟩ := by
  rw [receive, h]
  simp only [operate_eq]
  rfl

/-- What is no message has no effect. -/
theorem receive_of_error {why : Json.Fault}
    (h : Message.decode s.platform.depth (cut s.maxPacket d) = .error why) (hwhy : why ≠ .tooDeep)
    (fault : Option Text) (supply : Supply) (source : Source) :
    s.receive fault supply d source =
      ⟨s.store, .dropped, [],
        [.logged (.received source.address source.port (cut s.maxPacket d)),
          .logged (.dropped source.address source.port)], 0, 0⟩ := by
  rw [receive, h]
  cases why <;> first | rfl | exact absurd rfl hwhy

/-- What is too deep makes the handler fail. -/
theorem receive_of_tooDeep
    (h : Message.decode s.platform.depth (cut s.maxPacket d) = .error .tooDeep)
    (fault : Option Text) (supply : Supply) (source : Source) :
    s.receive fault supply d source =
      ⟨s.store, .failed, [],
        [.logged (.received source.address source.port (cut s.maxPacket d))], 0, 0⟩ := by
  rw [receive, h]

/-- **A datagram is dealt with in one of three ways**, and the socket has no part in which. -/
theorem receive_cases (s : Server) (supply : Supply) (d : ByteArray) (source : Source) :
    (∃ m, Message.decode s.platform.depth (cut s.maxPacket d) = .ok m ∧
      ∀ fault, s.receive fault supply d source =
        let r := s.store.apply (m.command source supply)
        ⟨r.store, .applied r.outcome, Effect.deliveries r.effects,
          .logged (.received source.address source.port (cut s.maxPacket d)) ::
            perform fault r.effects, r.readings, r.drawn⟩) ∨
    (∃ why, Message.decode s.platform.depth (cut s.maxPacket d) = .error why ∧ why ≠ .tooDeep ∧
      ∀ fault, s.receive fault supply d source =
        ⟨s.store, .dropped, [],
          [.logged (.received source.address source.port (cut s.maxPacket d)),
            .logged (.dropped source.address source.port)], 0, 0⟩) ∨
    (Message.decode s.platform.depth (cut s.maxPacket d) = .error .tooDeep ∧
      ∀ fault, s.receive fault supply d source =
        ⟨s.store, .failed, [],
          [.logged (.received source.address source.port (cut s.maxPacket d))], 0, 0⟩) := by
  cases hread : Message.decode s.platform.depth (cut s.maxPacket d) with
  | ok m => exact .inl ⟨m, rfl, fun fault => receive_of_ok hread fault supply source⟩
  | error why =>
    by_cases hwhy : why = .tooDeep
    · subst hwhy
      exact .inr (.inr ⟨rfl, fun fault => receive_of_tooDeep hread fault supply source⟩)
    · exact .inr (.inl ⟨why, rfl, hwhy, fun fault =>
        receive_of_error hread hwhy fault supply source⟩)

end Server

end Rendezvous
