import Rendezvous.Proofs.Json.RoundTrip
import Rendezvous.Proofs.Operation

/-!
# What clients read

The server sends a payload as the compact text of its JSON form.  A client that reads the text gets
the payload back, with one proviso: where the first and the second half of a surrogate pair stand
side by side in a text of the payload, the reader joins them.  A text and its joined form are
written alike (`writeText_joinPairs`), and the joined payload meets the condition of the round trip.
What was read from a datagram is joined already.

* `decode_encode_payload`: what a client reads;
* `datagrams_perform`: what the server puts on the socket.
-/

namespace Rendezvous

namespace Json

variable {c h l p : CodePoint} {us s t : Text}

/-! ## Texts with surrogate pairs -/

theorem ne_ofChar (hc : 0xD800 ≤ c.val) {a : Char} (ha : a.toNat < 0xD800) : c ≠ .ofChar a := by
  rintro rfl
  exact absurd ha (Nat.not_lt.mpr hc)

/-- A surrogate is written as one escaped unit. -/
theorem writeChar_of_surrogate (hlow : 0xD800 ≤ c.val) (hhigh : c.val ≤ 0xFFFF) :
    writeChar c = unitEscape c.val := by
  have hplain : ¬c.val ≤ 0x7E := by omega
  simp [writeChar, ne_ofChar hlow, hplain, hhigh]

/-- A code point beyond the first plane is written as two. -/
theorem writeChar_of_beyond (hc : 0xFFFF < c.val) :
    writeChar c = unitEscape (0xD800 + (c.val - 0x10000) / 0x400) ++
      unitEscape (0xDC00 + (c.val - 0x10000) % 0x400) := by
  have hlow : 0xD800 ≤ c.val := by omega
  have hplain : ¬c.val ≤ 0x7E := by omega
  simp [writeChar, ne_ofChar hlow, hplain, Nat.not_le.mpr hc]

/-- The two halves of a pair are written like the code point that they make up. -/
theorem writeChar_of_pair (isPair : IsPair h l)
    (val : p.val = 0x10000 + (h.val - 0xD800) * 0x400 + (l.val - 0xDC00)) :
    writeChar p = writeChar h ++ writeChar l := by
  simp only [IsPair, CodePoint.isHighSurrogate, CodePoint.isLowSurrogate, Bool.and_eq_true,
    decide_eq_true_eq] at isPair
  have hhigh : 0xD800 + (p.val - 0x10000) / 0x400 = h.val := by omega
  have hlow : 0xDC00 + (p.val - 0x10000) % 0x400 = l.val := by omega
  rw [writeChar_of_beyond (by omega), writeChar_of_surrogate (c := h) (by omega) (by omega),
    writeChar_of_surrogate (c := l) (by omega) (by omega), hhigh, hlow]

theorem flatMap_writeChar_of_isJoined (h : IsJoined us s) :
    s.flatMap writeChar = us.flatMap writeChar := by
  induction h with
  | nil => rfl
  | pair isPair val _ ih =>
    rw [List.flatMap_cons, List.flatMap_cons, List.flatMap_cons, writeChar_of_pair isPair val, ih,
      List.append_assoc]
  | single _ _ ih => rw [List.flatMap_cons, List.flatMap_cons, ih]

/-- A text is written like the text that is read again. -/
theorem writeText_joinPairs (t : Text) : writeText (joinPairs t) = writeText t := by
  rw [writeText, flatMap_writeChar_of_isJoined (isJoined_joinPairs t), writeText]

theorem unpaired_joinPairs (t : Text) : Unpaired (joinPairs t) :=
  unpaired_of_isJoined (isJoined_joinPairs t)

theorem isJoined_self (ht : Unpaired t) : IsJoined t t := by
  induction t with
  | nil => exact .nil
  | cons c t ih =>
    obtain ⟨hhead, htail⟩ := List.isChain_cons.mp ht
    exact .single hhead (ih htail)

/-- Where no two halves meet there is nothing to join. -/
theorem joinPairs_of_unpaired (ht : Unpaired t) : joinPairs t = t :=
  (isJoined_self ht).eq_joinPairs.symm

theorem joinPairs_eq_nil_iff : joinPairs t = [] ↔ t = [] := by
  have h := isJoined_joinPairs t
  constructor
  · intro hnil
    rw [hnil] at h
    cases h
    rfl
  · rintro rfl
    rfl

/-- An object is readable if its keys and its values are. -/
theorem readable_object {n : Nat} {ms : Members} (keys : List Text) (hms : ms.map Prod.fst = keys)
    (hkeys : keys.Nodup ∧ ∀ k ∈ keys, Unpaired k) (values : ∀ m ∈ ms, Readable n m.2) :
    Readable (n + 1) (.object ms) := by
  subst hms
  exact .object hkeys.1 (fun m hm => hkeys.2 m.1 (List.mem_map_of_mem hm)) values

instance (h l : CodePoint) : Decidable (IsPair h l) := inferInstanceAs (Decidable (_ ∧ _))

instance (t : Text) : Decidable (Unpaired t) :=
  inferInstanceAs (Decidable (t.IsChain fun h l => ¬IsPair h l))

end Json

/-! ## Payloads -/

/-- An endpoint as it is read: in its texts each surrogate pair is one code point. -/
def Endpoint.joined (e : Endpoint) : Endpoint :=
  ⟨Json.joinPairs e.uid, Json.joinPairs e.address, e.port⟩

/-- A payload as it is read. -/
def Payload.joined : Payload → Payload
  | .introduction peer m => .introduction peer.joined (Json.joinPairs m)
  | .teardown opponent m => .teardown (Json.joinPairs opponent) (Json.joinPairs m)

namespace Payload

open Json

/-- A payload is written like the payload that is read again. -/
theorem encode_joined (p : Payload) : p.joined.encode = p.encode := by
  rw [encode, encode, Value.encode, Value.encode]
  cases p with
  | introduction peer m =>
    simp only [joined, members, Endpoint.joined, Endpoint.toJson, Value.write, writeMembers,
      writeText_joinPairs]
  | teardown opponent m =>
    have hempty : (joinPairs m).isEmpty = m.isEmpty := by
      rw [Bool.eq_iff_iff, List.isEmpty_iff, List.isEmpty_iff, joinPairs_eq_nil_iff]
    simp only [joined, members, hempty]
    cases m.isEmpty <;>
      simp only [Value.write, writeMembers, writeText_joinPairs, if_true, if_false,
        Bool.false_eq_true]

/-- The port that a payload tells, if it tells one, has no more digits than a reader takes. -/
def HasShortPort : Payload → Prop
  | .introduction peer _ => (Nat.toDigits 10 peer.port.natAbs).length ≤ Decimal.digitLimit
  | .teardown .. => True

theorem floatFree_members (p : Payload) : FloatFree (.object p.members) := by
  cases p with
  | introduction peer m =>
    refine .object (List.forall_mem_cons.mpr ⟨.object ?_, List.forall_mem_singleton.mpr (.text _)⟩)
    exact List.forall_mem_cons.mpr
      ⟨.text _, List.forall_mem_cons.mpr ⟨.text _, List.forall_mem_singleton.mpr (.int _)⟩⟩
  | teardown opponent m =>
    refine .object (List.forall_mem_cons.mpr ⟨.bool _, List.forall_mem_cons.mpr ⟨.text _,
      List.forall_mem_cons.mpr ⟨.text _, ?_⟩⟩⟩)
    split
    · exact nofun
    · exact List.forall_mem_singleton.mpr (.text _)

/-- The payload that is read again meets the condition of the round trip. -/
theorem readable_members_joined {p : Payload} (h : p.HasShortPort) :
    Readable 2 (.object p.joined.members) := by
  cases p with
  | introduction peer m =>
    have hpeer : Readable 1 peer.joined.toJson := by
      refine readable_object ["uid", "address", "port"] rfl (by decide) ?_
      exact List.forall_mem_cons.mpr ⟨.text (unpaired_joinPairs _), List.forall_mem_cons.mpr
        ⟨.text (unpaired_joinPairs _), List.forall_mem_singleton.mpr (.int h)⟩⟩
    refine readable_object ["peer", "matchId"] rfl (by decide) ?_
    exact List.forall_mem_cons.mpr
      ⟨hpeer, List.forall_mem_singleton.mpr (.text (unpaired_joinPairs m))⟩
  | teardown opponent m =>
    have hopponent : Readable 1 (.text (joinPairs opponent)) := .text (unpaired_joinPairs _)
    have hreason : Readable 1 (.text leaveReason) := .text (by decide)
    rw [joined, members]
    split
    · refine readable_object ["kill", "opponentUid", "reason"] rfl (by decide) ?_
      exact List.forall_mem_cons.mpr ⟨.bool true, List.forall_mem_cons.mpr
        ⟨hopponent, List.forall_mem_singleton.mpr hreason⟩⟩
    · refine readable_object ["kill", "opponentUid", "reason", "matchId"] rfl (by decide) ?_
      exact List.forall_mem_cons.mpr ⟨.bool true, List.forall_mem_cons.mpr ⟨hopponent,
        List.forall_mem_cons.mpr ⟨hreason,
          List.forall_mem_singleton.mpr (.text (unpaired_joinPairs m))⟩⟩⟩

/-- **A client reads the payload that the server sends**, with its surrogate pairs joined, on
    whatever machine it runs. -/
theorem decode_encode_payload {p : Payload} (h : p.HasShortPort) (limit : Json.DepthLimit) :
    Json.decode limit p.encode = .ok (.object p.joined.members) := by
  rw [← encode_joined]
  have hdepth : 2 ≤ limit.levels := Nat.le_trans (by decide) limit.least
  exact decode_encode (readable_members_joined h) hdepth (floatFree_members _)

end Payload

/-! ## Identities -/

namespace Message

open Json

theorem unpaired_of_isField {key x : Text} {t : List Char} {written : Members} {n : Nat}
    (row : IsRow (IsMember IsValue) t written n)
    (field : IsField [] .text (lastWritten? key written) x) : Unpaired x := by
  rcases field with ⟨-, rfl⟩ | hfield
  · exact .nil
  · obtain ⟨m, hm, hx⟩ := Option.map_eq_some_iff.mp hfield
    have hmem : m ∈ written := List.mem_of_mem_filter (List.mem_of_getLast? hm)
    obtain ⟨u, e, member, -⟩ := row.exists_item hmem
    obtain ⟨-, -, -, value⟩ := member
    obtain rfl : _ = Value.text x := hx
    cases readable_of_isValue value with
    | text unpaired => exact unpaired

/-- The identities of a datagram are joined already. -/
theorem unpaired_of_decode {limit : DepthLimit} {d : ByteArray} {m : Message}
    (h : decode limit d = .ok m) : Unpaired m.uid ∧ Unpaired m.peerUid := by
  obtain ⟨-, row, -, message⟩ := isDatagram_of_decode h
  exact ⟨unpaired_of_isField row message.uid, unpaired_of_isField row message.peerUid⟩

end Message

/-! ## The socket -/

namespace Server

/-- A datagram that is put on the socket for another is a payload of the operation that the other
    asked for. -/
theorem payload_of_mem_receive {s : Server} {fault : Option Text} {supply : Supply}
    {datagram out : ByteArray} {source dest : Source}
    (h : (out, dest) ∈ Event.datagrams (s.receive fault supply datagram source).events) :
    ∃ m payload recipient,
      Message.decode s.platform.depth (cut s.maxPacket datagram) = .ok m ∧
      (payload, recipient) ∈
        Effect.deliveries (s.store.apply (m.command source supply)).effects ∧
      out = payload.encode ∧ dest = ⟨recipient.address, recipient.port⟩ := by
  rcases s.receive_cases supply datagram source with
    ⟨m, hread, hr⟩ | ⟨why, -, -, hr⟩ | ⟨-, hr⟩
  · rw [hr] at h
    have hsent : (out, dest) ∈ Event.datagrams
      (perform fault (s.store.apply (m.command source supply)).effects) := h
    rw [datagrams_perform] at hsent
    split at hsent
    · nomatch hsent
    · obtain ⟨⟨payload, recipient⟩, hmem, hout⟩ := List.mem_map.mp hsent
      obtain ⟨rfl, rfl⟩ := Prod.mk.inj hout
      exact ⟨m, payload, recipient, hread, hmem, rfl, rfl⟩
  · rw [hr] at h
    nomatch h
  · rw [hr] at h
    nomatch h

end Server

end Rendezvous
