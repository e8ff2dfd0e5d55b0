import Rendezvous.Proofs.Truncation

/-!
# What becomes of a datagram

The handler of a datagram has three ends.  A message has its operation applied, and what is no
message is dropped; either is meant to be all that can happen, whatever the bytes are.  There is a
third: the reader of the message catches what is malformed, but a text that dives beyond the limit
of nesting is another fault to it, and this one ends the handler (`IsTooDeep`).  Whether such a text
is a message or no message makes no difference, for the reader does not get to its end.

* `handler_fails_iff_too_deep`: the handler fails there and nowhere else, and what it does.
-/

namespace Rendezvous.Server

open Json Message

/-- The ends of the handler of a datagram, of which `data` is looked at. -/
inductive Handled (s : Server) (fault : Option Text) (supply : Supply) (data : ByteArray)
    (source : Source) (r : Reception) : Prop
  /-- It is a message, and the one operation that its members name is applied. -/
  | applied (m : Message) (legible : ¬IsTooDeep s.platform.depth data) (message : IsDatagram data m)
      (handling : r.handling = .applied (s.store.apply (m.command source supply)).outcome)
      (store : r.store = (s.store.apply (m.command source supply)).store)
      (handed : r.handed =
        Effect.deliveries (s.store.apply (m.command source supply)).effects)
      (events : r.events = .logged (.received source.address source.port data) ::
        perform fault (s.store.apply (m.command source supply)).effects)
  /-- It is no message: nothing is done but to log so. -/
  | dropped (legible : ¬IsTooDeep s.platform.depth data) (foreign : ∀ m, ¬IsDatagram data m)
      (handling : r.handling = .dropped) (store : r.store = s.store) (handed : r.handed = [])
      (events : r.events = [.logged (.received source.address source.port data),
        .logged (.dropped source.address source.port)])
  /-- The handler fails: nothing is done, and that is not logged. -/
  | failed (tooDeep : IsTooDeep s.platform.depth data) (handling : r.handling = .failed)
      (store : r.store = s.store) (handed : r.handed = [])
      (events : r.events = [.logged (.received source.address source.port data)])

variable {s : Server} {fault : Option Text} {supply : Supply} {source : Source} {d : ByteArray}

/-- Every datagram is handled in one of the three ways. -/
theorem handled_receive (s : Server) (fault : Option Text) (supply : Supply) (d : ByteArray)
    (source : Source) :
    Handled s fault supply (cut s.maxPacket d) source (s.receive fault supply d source) := by
  rcases s.receive_cases supply d source with ⟨m, hread, hr⟩ | ⟨why, hread, hwhy, hr⟩ | ⟨hread, hr⟩
  · have hlegible : ¬IsTooDeep s.platform.depth (cut s.maxPacket d) := by
      rw [← Message.decode_tooDeep_iff, hread]
      exact nofun
    rw [hr]
    exact .applied m hlegible (isDatagram_of_decode hread) rfl rfl rfl rfl
  · have hlegible : ¬IsTooDeep s.platform.depth (cut s.maxPacket d) := by
      rw [← Message.decode_tooDeep_iff, hread]
      exact fun h => hwhy (Except.error.inj h)
    have hforeign : ∀ m, ¬IsDatagram (cut s.maxPacket d) m := by
      intro m hm
      rw [decode_of_isDatagram hm hlegible] at hread
      nomatch hread
    rw [hr]
    exact .dropped hlegible hforeign rfl rfl rfl rfl
  · rw [hr]
    exact .failed (Message.decode_tooDeep_iff.mp hread) rfl rfl rfl rfl

/-- **The handler fails exactly if what it looks at is too deep**, on every server, with every
    datagram and source.  In all other cases the datagram is a message, and the one operation that
    it names is applied, or it is none, and is logged as dropped without any effect. -/
theorem handler_fails_iff_too_deep (s : Server) (fault : Option Text) (supply : Supply)
    (d : ByteArray) (source : Source) :
    ((s.receive fault supply d source).handling = .failed ↔
        IsTooDeep s.platform.depth (cut s.maxPacket d)) ∧
      Handled s fault supply (cut s.maxPacket d) source (s.receive fault supply d source) := by
  have hhandled := s.handled_receive fault supply d source
  refine ⟨?_, hhandled⟩
  cases hhandled with
  | applied m legible message handling => simp [handling, legible]
  | dropped legible foreign handling => simp [handling, legible]
  | failed tooDeep handling => simp [handling, tooDeep]

/-- Nothing but opening brackets. -/
def brackets (n : Nat) : List Char := List.replicate n '['

/-- So many brackets are too deep where fewer may be open. -/
theorem isTooDeep_brackets {limit : DepthLimit} {n : Nat} (h : limit.levels < n) :
    IsTooDeep limit (brackets n).utf8Encode := by
  obtain ⟨k, rfl⟩ := Nat.exists_eq_add_of_lt h
  have hdives := dives_replicate limit.levels (List.replicate k '[')
  rw [List.replicate_append_replicate] at hdives
  refine ⟨[], brackets (limit.levels + k + 1), rfl, nofun, ?_⟩
  rw [brackets, Nat.add_right_comm]
  exact hdives

theorem size_brackets (n : Nat) : (brackets n).utf8Encode.size = n := by
  induction n with
  | zero => rfl
  | succ n ih =>
    rw [brackets, List.replicate_succ, List.utf8Encode_cons, ByteArray.size_append, ← brackets, ih,
      Nat.add_comm]
    rfl

/-- A server that looks at the whole of a datagram fails on it if it is too deep. -/
theorem handling_of_isTooDeep (hd : IsTooDeep s.platform.depth d) (hs : d.size ≤ s.maxPacket)
    (fault : Option Text) (supply : Supply) (source : Source) :
    (s.receive fault supply d source).handling = .failed := by
  have hlooked : cut s.maxPacket d = d := cut_of_size_le hs
  rw [receive_of_tooDeep (hlooked.symm ▸ Message.decode_tooDeep_iff.mpr hd)]

/-- So two thousand brackets make the handler fail, with the usual size of a packet, where 990 lists
    may be open at once. -/
theorem handler_fails_on_brackets :
    ¬∀ (s : Server) (fault : Option Text) (supply : Supply) (d : ByteArray) (source : Source),
      (s.receive fault supply d source).handling ≠ .failed := by
  intro h
  let limit : DepthLimit := ⟨990, by decide⟩
  let s := Server.ofSettings ⟨"127.0.0.1", 33334, 30, 30, 2048⟩ ⟨limit, fun _ => none⟩
  have hdeep : IsTooDeep limit (brackets 2000).utf8Encode := isTooDeep_brackets (by decide)
  have hsize : ((brackets 2000).utf8Encode.size : Int) ≤ s.maxPacket := by
    rw [size_brackets]
    decide
  exact h s none (.of 1000 1000 1000 []) (brackets 2000).utf8Encode ⟨"10.0.0.1", 4001⟩
    (handling_of_isTooDeep hdeep hsize none _ _)

end Rendezvous.Server
