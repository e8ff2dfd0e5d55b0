import Rendezvous.Proofs.Datagram
import Rendezvous.Proofs.Operation
import Rendezvous.Replay.Session

/-!
# Datagrams that are cut off

A server looks at the first bytes of a datagram only.  What it loses can turn a message into no
message, but never into another one: an object ends at its bracket, so what is left of a datagram
either has the bracket, and then the whole object, or has no object.

The argument is about characters.  A cut between bytes leaves either no UTF-8 or a prefix of the
text; if the prefix is JSON of an object, the reader of the whole text finds this object first
(`object_of_prefix`); and a prefix is not nested deeper, so it does not fail with `tooDeep`.
-/

namespace Rendezvous

namespace Json

/-- Where the bytes of a text are cut off and are still the bytes of a text, that is a prefix. -/
theorem exists_append_of_extract {cs cs' : List Char} {n : Nat}
    (h : cs.utf8Encode.extract 0 n = cs'.utf8Encode) : ∃ u, cs = cs' ++ u := by
  have hbytes : cs'.utf8Encode ++ cs.utf8Encode.extract n (max n cs.utf8Encode.size) =
      cs.utf8Encode := by
    rw [← h, ← ByteArray.extract_eq_extract_append_extract n (Nat.zero_le n) (Nat.le_max_left ..),
      ByteArray.extract_zero_max_size]
  obtain ⟨u, hu⟩ := List.isPrefix_of_utf8Encode_append_eq_utf8Encode _ hbytes
  exact ⟨u, hu.symm⟩

/-- An object that is the value of a prefix is the value of the whole text, if that has one. -/
theorem object_of_prefix {limit : DepthLimit} {cs u : List Char} {ms : Members} {v : Value}
    {n : Nat} (hfront : IsJson cs (.object ms) n) (hdepth : n ≤ limit.levels)
    (hread : read limit (cs ++ u) = .ok v) : v = .object ms := by
  obtain ⟨⟨v', rest⟩, hvalue, hend⟩ := bind_eq_ok_iff.mp hread
  obtain ⟨before, value, after⟩ := hfront
  cases value with
  | number number => nomatch number
  | word word => nomatch word
  | object row =>
    rename_i b c t written n
    have hlevels : limit.levels - 1 + 1 = limit.levels := by omega
    have hfound := (found_readValue (limit.levels - 1)).readValue_object row (by omega) (c ++ u)
    rw [hlevels] at hfound
    rw [List.append_assoc, List.append_assoc,
      (IsValue.object row).opens.skipBlanks_append before] at hvalue
    simp only [List.append_assoc, List.cons_append, List.nil_append] at hvalue
    rw [hfound] at hvalue
    cases hvalue
    simp only at hend
    split at hend
    · exact (Except.ok.inj hend).symm
    · nomatch hend

/-- What is left of a text is not nested deeper. -/
theorem nestsWithin_extract {cs : List Char} {k : Nat} (h : nesting cs ≤ k) (n : Nat) :
    NestsWithin k (cs.utf8Encode.extract 0 n) := by
  intro cs' hcs'
  obtain ⟨u, rfl⟩ := exists_append_of_extract hcs'
  exact Nat.le_trans (nesting_le_append cs' u) h

end Json

namespace Message

open Json

/-- What is left of a message is the message or nothing. -/
theorem decode_extract {limit : DepthLimit} {d : ByteArray} {m : Message}
    (h : decode limit d = .ok m) (n : Nat) :
    decode limit (d.extract 0 n) = .ok m ∨
      ∃ fault, decode limit (d.extract 0 n) = .error fault ∧ fault ≠ .tooDeep := by
  obtain ⟨v, hv, hm⟩ := bind_eq_ok_iff.mp (decode_eq limit d ▸ h)
  obtain ⟨cs, k, rfl, json, hdepth⟩ := Json.decode_eq_ok_iff.mp hv
  rw [decode_utf8Encode] at hv
  cases hcut : decode limit (cs.utf8Encode.extract 0 n) with
  | error fault =>
    have hnesting : nesting cs ≤ limit.levels := json.nesting_eq ▸ hdepth
    refine .inr ⟨fault, rfl, ?_⟩
    rintro rfl
    exact decode_ne_tooDeep (nestsWithin_extract hnesting n) hcut
  | ok m' =>
    obtain ⟨v', hv', hm'⟩ := bind_eq_ok_iff.mp (decode_eq limit _ ▸ hcut)
    obtain ⟨cs', k', hcs', json', hdepth'⟩ := Json.decode_eq_ok_iff.mp hv'
    obtain ⟨u, rfl⟩ := exists_append_of_extract hcs'
    cases v' with
    | object ms =>
      obtain rfl := object_of_prefix json' hdepth' hv
      exact .inl (hm'.symm.trans hm)
    | _ => nomatch hm'

end Message

namespace Server

theorem exists_cut_eq_extract (maxPacket : Int) (d : ByteArray) :
    ∃ n, cut maxPacket d = d.extract 0 n := by
  rw [cut]
  split
  · exact ⟨_, rfl⟩
  · exact ⟨_, rfl⟩

/-- A datagram that fits into a packet is looked at as a whole. -/
theorem cut_of_size_le {maxPacket : Int} {d : ByteArray} (h : d.size ≤ maxPacket) :
    cut maxPacket d = d := by
  have hsize : min maxPacket.toNat d.size = d.size := by omega
  rw [cut, if_pos (by omega), hsize, ByteArray.extract_zero_size]

end Server

namespace Replay.Session

/-- The session in which so much of a datagram is looked at. -/
def looking (s : Session) (maxPacket : Int) : Session :=
  { s with server := { s.server with maxPacket } }

/-- A datagram has the effect that it has where the whole of it is looked at.  Only the log tells
    how much of it was looked at. -/
structure HasWholeEffect (s : Session) (d : ByteArray) (source : Source) : Prop where
  session : (s.receive d source).1 =
    ((s.looking d.size).receive d source).1.looking s.server.maxPacket
  result : (s.receive d source).2.result = ((s.looking d.size).receive d source).2.result
  handed : (s.receive d source).2.handed = ((s.looking d.size).receive d source).2.handed
  store : (s.receive d source).2.store = ((s.looking d.size).receive d source).2.store
  events : (s.receive d source).2.events.tail =
    ((s.looking d.size).receive d source).2.events.tail

/-- A datagram has no effect but in the log. -/
structure HasNoEffect (s : Session) (d : ByteArray) (source : Source) : Prop where
  session : (s.receive d source).1 = s
  result : (s.receive d source).2.result = .received .dropped
  handed : (s.receive d source).2.handed = []
  store : (s.receive d source).2.store = s.server.store
  sent : Event.datagrams (s.receive d source).2.events = []

theorem hasWholeEffect_of_ok {s : Session} {d : ByteArray} {m : Message}
    (hwhole : Message.decode s.server.platform.depth d = .ok m)
    (hcut : Message.decode s.server.platform.depth (Server.cut s.server.maxPacket d) = .ok m)
    (source : Source) : s.HasWholeEffect d source := by
  have hlooking : Message.decode (s.looking d.size).server.platform.depth
      (Server.cut (s.looking d.size).server.maxPacket d) = .ok m := by
    rw [show (s.looking d.size).server.maxPacket = d.size from rfl,
      Server.cut_of_size_le (Int.le_refl _)]
    exact hwhole
  constructor <;> simp only [receive, Server.receive_of_ok hcut, Server.receive_of_ok hlooking] <;>
    rfl

theorem hasNoEffect_of_error {s : Session} {d : ByteArray} {why : Json.Fault}
    (hcut : Message.decode s.server.platform.depth (Server.cut s.server.maxPacket d) = .error why)
    (hwhy : why ≠ .tooDeep) (source : Source) : s.HasNoEffect d source := by
  constructor <;> simp only [receive, Server.receive_of_error hcut hwhy] <;> rfl

/-- **A datagram that is cut off is never mistaken for another message**: what is left of it is the
    same message or none, and so at any point of a session a message that was cut off has the
    effect of the whole one or none.  That is so on every machine: the limit is that of the one on
    which the session runs. -/
theorem cut_message_whole_or_nothing (limit : Json.DepthLimit) (d : ByteArray) (m : Message)
    (h : Message.decode limit d = .ok m) :
    (∀ n, Message.decode limit (d.extract 0 n) = .ok m ∨
      ∃ fault, Message.decode limit (d.extract 0 n) = .error fault ∧ fault ≠ .tooDeep) ∧
    ∀ (s : Session) (source : Source), s.server.platform.depth = limit →
      s.HasWholeEffect d source ∨ s.HasNoEffect d source := by
  refine ⟨Message.decode_extract h, ?_⟩
  rintro s source rfl
  obtain ⟨n, hn⟩ := Server.exists_cut_eq_extract s.server.maxPacket d
  rcases Message.decode_extract h n with hsame | ⟨fault, hfault, hne⟩
  · exact .inl (hasWholeEffect_of_ok h (hn ▸ hsame) source)
  · exact .inr (hasNoEffect_of_error (hn ▸ hfault) hne source)

/-- A request to meet, with a line feed at its end that it can lose. -/
def asking : List Char := "\x7b\"uid\":\"a\",\"peerUid\":\"b\"\x7d\n".toList

/-- A session of a server that has heard from nobody. -/
def listening (maxPacket : Int) : Session :=
  { server := Server.ofSettings ⟨"127.0.0.1", 33334, 30, 30, maxPacket⟩ .plain
    sources := ⟨⟨1000, 0⟩, ⟨[], 0⟩⟩ }

/-- The request has its effect without the line feed, and none without the bracket before it. -/
theorem asking_whole_or_nothing :
    (Message.decode .lowest asking.utf8Encode = .ok ⟨"a", "b", false, []⟩ ∧
      (∀ n, Message.decode .lowest (asking.utf8Encode.extract 0 n) = .ok ⟨"a", "b", false, []⟩ ∨
        ∃ fault, Message.decode .lowest (asking.utf8Encode.extract 0 n) = .error fault ∧
          fault ≠ .tooDeep) ∧
      ∀ (s : Session) (source : Source), s.server.platform.depth = .lowest →
        s.HasWholeEffect asking.utf8Encode source ∨ s.HasNoEffect asking.utf8Encode source) ∧
      ((listening 25).receive asking.utf8Encode ⟨"10.0.0.1", 4001⟩).2.result =
        .received (.applied (.registered .waiting)) ∧
      ((listening 24).receive asking.utf8Encode ⟨"10.0.0.1", 4001⟩).2.result =
        .received .dropped := by
  have h : Message.decode .lowest asking.utf8Encode = .ok ⟨"a", "b", false, []⟩ := by
    rw [Message.decode_eq, Json.decode_utf8Encode]
    decide +kernel
  exact ⟨⟨h, cut_message_whole_or_nothing .lowest _ _ h⟩, by decide +kernel, by decide +kernel⟩

end Replay.Session

end Rendezvous
