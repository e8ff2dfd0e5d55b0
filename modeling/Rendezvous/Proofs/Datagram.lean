import Mathlib.Data.List.Induction
import Rendezvous.Message
import Rendezvous.Proofs.Json.Depth

/-!
# The language of datagrams

Which bytes are a message, and which message: `IsDatagram` says it without a reader, through the
grammar of JSON and the last member with each key.  `decode_ok_iff_isDatagram` is the theorem: up to
a depth of nesting that the reader always allows, `Message.decode` accepts exactly these bytes.

There are three layers, each with its equivalence: bytes that are the UTF-8 form of characters
(`fromUTF8?_eq_some_iff`), the characters of a JSON value (`decode_eq_ok_iff`), and the members of
an object (`ofMembers?_ofWritten`).

The one fault that is told apart, nesting beyond the limit of the reader, is a language as well
(`IsTooDeep`, `decode_tooDeep_iff`).  It has no part in common with what is decoded, but messages
that are nested too deep belong to it.
-/

namespace Rendezvous

/-! ## Bytes -/

theorem fromUTF8?_eq_some_iff {d : ByteArray} {s : String} :
    String.fromUTF8? d = some s ↔ d = s.toList.utf8Encode := by
  rw [String.fromUTF8?, String.utf8Encode_toList]
  constructor
  · intro h
    split at h
    · obtain rfl := Option.some.inj h
      rfl
    · nomatch h
  · rintro rfl
    rw [dif_pos s.isValidUTF8]
    rfl

/-- Different characters have different bytes. -/
theorem utf8Encode_inj {cs cs' : List Char} : cs.utf8Encode = cs'.utf8Encode ↔ cs = cs' := by
  refine ⟨fun h => ?_, congrArg _⟩
  rw [← String.toByteArray_ofList, ← String.toByteArray_ofList] at h
  exact String.ofList_injective (String.toByteArray_inj.mp h)

namespace Json

variable {limit : DepthLimit}

/-- The value of bytes that are the UTF-8 form of a JSON text. -/
def decode (limit : DepthLimit) (d : ByteArray) : Except Fault Value :=
  match String.fromUTF8? d with
  | none => .error .malformed
  | some s => read limit s.toList

theorem decode_utf8Encode (limit : DepthLimit) (cs : List Char) :
    decode limit cs.utf8Encode = read limit cs := by
  have h : String.fromUTF8? cs.utf8Encode = some (String.ofList cs) := by
    rw [fromUTF8?_eq_some_iff, String.toList_ofList]
  rw [decode, h]
  exact congrArg (read limit) String.toList_ofList

/-- Bytes that are the UTF-8 form of no text are malformed. -/
theorem decode_of_not_utf8 {d : ByteArray} (h : ∀ cs : List Char, d ≠ cs.utf8Encode) :
    decode limit d = .error .malformed := by
  rw [decode]
  split
  · rfl
  · next s hs => exact absurd (fromUTF8?_eq_some_iff.mp hs) (h s.toList)

theorem decode_eq_ok_iff {d : ByteArray} {v : Value} :
    decode limit d = .ok v ↔ ∃ cs n, d = cs.utf8Encode ∧ IsJson cs v n ∧ n ≤ limit.levels := by
  by_cases h : ∃ cs : List Char, d = cs.utf8Encode
  · obtain ⟨cs, rfl⟩ := h
    rw [decode_utf8Encode, read_eq_ok_iff]
    constructor
    · rintro ⟨n, h⟩
      exact ⟨cs, n, rfl, h⟩
    · rintro ⟨cs', n, hcs, h⟩
      obtain rfl := utf8Encode_inj.mp hcs
      exact ⟨n, h⟩
  · have hno : ∀ cs : List Char, d ≠ cs.utf8Encode := fun cs hcs => h ⟨cs, hcs⟩
    rw [decode_of_not_utf8 hno]
    constructor
    · nofun
    · rintro ⟨cs, _, hcs, _⟩
      exact absurd hcs (hno cs)

/-- Bytes whose text dives beyond the limit of the reader, behind blanks. -/
def IsTooDeep (limit : DepthLimit) (d : ByteArray) : Prop :=
  ∃ b t, d = (b ++ t).utf8Encode ∧ IsBlanks b ∧ Dives limit.levels t

theorem decode_tooDeep_iff {d : ByteArray} :
    decode limit d = .error .tooDeep ↔ IsTooDeep limit d := by
  by_cases h : ∃ cs : List Char, d = cs.utf8Encode
  · obtain ⟨cs, rfl⟩ := h
    simp only [decode_utf8Encode, read_tooDeep_iff, IsTooDeep, utf8Encode_inj]
  · have hno : ∀ cs : List Char, d ≠ cs.utf8Encode := fun cs hcs => h ⟨cs, hcs⟩
    rw [decode_of_not_utf8 hno]
    constructor
    · nofun
    · rintro ⟨b, t, hbt, -⟩
      exact absurd hbt (hno _)

/-- The text of which bytes are the UTF-8 form nests at most `n` deep. -/
def NestsWithin (n : Nat) (d : ByteArray) : Prop :=
  ∀ cs : List Char, d = cs.utf8Encode → nesting cs ≤ n

theorem NestsWithin.not_isTooDeep {d : ByteArray} (h : NestsWithin limit.levels d) :
    ¬IsTooDeep limit d := by
  rintro ⟨b, t, hbt, before, deep⟩
  exact absurd (deep.lt_nesting before) (Nat.not_lt.mpr (h _ hbt))

/-! ## Members -/

/-- The last value that was written for a key. -/
def lastWritten? (key : Text) (written : Members) : Option Value :=
  (written.filter fun m => m.1 = key).getLast?.map Prod.snd

/-- An object has the last value that was written for a key. -/
theorem get?_ofWritten (key : Text) (written : Members) :
    (Members.ofWritten written).get? key = lastWritten? key written := by
  -- from the back: the last member is put last
  induction written using List.reverseRecOn with
  | nil => rfl
  | append_singleton ms m ih =>
    obtain ⟨k, v⟩ := m
    rw [Members.get?] at ih
    rw [Members.ofWritten_append_singleton, Members.get?, Entries.get?_put, ih, lastWritten?,
      lastWritten?, List.filter_append]
    by_cases hk : k = key
    · simp [hk]
    · simp [hk]

end Json

namespace Message

open Json

variable {limit : DepthLimit}

theorem decode_eq (limit : DepthLimit) (d : ByteArray) :
    Message.decode limit d = Json.decode limit d >>= fun v =>
      match ofJson? v with
      | some m => .ok m
      | none => .error .malformed := by
  rw [Message.decode, Json.decode]
  cases String.fromUTF8? d with
  | none => rfl
  | some s =>
    simp only
    cases Json.read limit s.toList <;> rfl

/-! ## The language -/

/-- What a member of a message stands for: its default if it is absent or null, and otherwise the
    value of the right type that it has. -/
def IsField {α : Type} (default : α) (typed : α → Value) (member : Option Value) (x : α) : Prop :=
  (member = none ∨ member = some .null) ∧ x = default ∨ member = some (typed x)

/-- The message of the members that were written. -/
structure IsMessage (written : Members) (m : Message) : Prop where
  uid : IsField [] .text (lastWritten? "uid" written) m.uid
  peerUid : IsField [] .text (lastWritten? "peerUid" written) m.peerUid
  kill : IsField false .bool (lastWritten? "kill" written) m.kill
  matchId : IsField [] .text (lastWritten? "matchId" written) m.matchId

/-- Bytes that are a message: the UTF-8 form of an object between blanks, in which the last member
    with each key of a message is absent, null or of the right type. -/
inductive IsDatagram : ByteArray → Message → Prop
  | mk {b t c : List Char} {written : Members} {n : Nat} {m : Message} (before : IsBlanks b)
      (row : IsRow (IsMember IsValue) t written n) (after : IsBlanks c)
      (message : IsMessage written m) :
      IsDatagram (b ++ ('{' :: t ++ ['}']) ++ c).utf8Encode m

theorem textField?_eq_some_iff {written : Members} {key t : Text} :
    textField? (Members.ofWritten written) key = some t ↔
      IsField [] .text (lastWritten? key written) t := by
  rw [textField?.eq_def, get?_ofWritten, IsField]
  split
  · next h => simp [h, eq_comm]
  · next h => simp [h, eq_comm]
  · next h => simp [h]
  · next hnull htext h =>
    simp only [h, reduceCtorEq, Option.some.injEq, false_or, false_iff, not_or, not_and]
    exact ⟨fun hv => (hnull hv).elim, htext t⟩

theorem flagField?_eq_some_iff {written : Members} {key : Text} {b : Bool} :
    flagField? (Members.ofWritten written) key = some b ↔
      IsField false .bool (lastWritten? key written) b := by
  rw [flagField?.eq_def, get?_ofWritten, IsField]
  split
  · next h => simp [h, eq_comm]
  · next h => simp [h, eq_comm]
  · next h => simp [h]
  · next hnull hbool h =>
    simp only [h, reduceCtorEq, Option.some.injEq, false_or, false_iff, not_or, not_and]
    exact ⟨fun hv => (hnull hv).elim, hbool b⟩

theorem ofMembers?_ofWritten {written : Members} {m : Message} :
    ofMembers? (Members.ofWritten written) = some m ↔ IsMessage written m := by
  simp only [ofMembers?, Option.bind_eq_bind, Option.bind_eq_some_iff, textField?_eq_some_iff,
    flagField?_eq_some_iff, Option.pure_def, Option.some.injEq]
  constructor
  · rintro ⟨uid, huid, peerUid, hpeer, kill, hkill, matchId, hmatch, rfl⟩
    exact ⟨huid, hpeer, hkill, hmatch⟩
  · rintro ⟨huid, hpeer, hkill, hmatch⟩
    exact ⟨_, huid, _, hpeer, _, hkill, _, hmatch, rfl⟩

/-- A datagram that is decoded is in the language. -/
theorem isDatagram_of_decode {d : ByteArray} {m : Message} (h : decode limit d = .ok m) :
    IsDatagram d m := by
  rw [decode_eq] at h
  obtain ⟨v, hv, hmessage⟩ := bind_eq_ok_iff.mp h
  obtain ⟨cs, n, rfl, ⟨before, value, after⟩, -⟩ := Json.decode_eq_ok_iff.mp hv
  split at hmessage
  · next hm =>
    cases hmessage
    cases value with
    | object row => exact .mk before row after (ofMembers?_ofWritten.mp hm)
    | word word => cases word <;> nomatch hm
    | number number => cases number <;> nomatch hm
    | text => nomatch hm
    | list => nomatch hm
  · nomatch hmessage

theorem decode_tooDeep_iff {d : ByteArray} :
    decode limit d = .error .tooDeep ↔ IsTooDeep limit d := by
  rw [decode_eq, bind_eq_error_iff, Json.decode_tooDeep_iff]
  refine or_iff_left ?_
  rintro ⟨v, -, hno⟩
  split at hno <;> nomatch hno

/-- A datagram of the language is decoded, if it is not nested too deep. -/
theorem decode_of_isDatagram {d : ByteArray} {m : Message} (h : IsDatagram d m)
    (hd : ¬IsTooDeep limit d) : decode limit d = .ok m := by
  obtain ⟨before, row, after, message⟩ := h
  rename_i b t c written n
  have hdepth : n + 1 ≤ limit.levels := by
    by_contra hdeep
    exact hd ⟨b, _, by rw [List.append_assoc], before,
      (IsValue.object row).dives (Nat.lt_of_not_le hdeep) c⟩
  have hvalue := Json.decode_eq_ok_iff.mpr ⟨_, _, rfl, .mk before (.object row) after, hdepth⟩
  rw [decode_eq, hvalue]
  show (match ofJson? (.object _) with | some m => _ | none => _) = _
  rw [ofJson?, ofMembers?_ofWritten.mpr message]

theorem decode_ne_tooDeep {d : ByteArray} (h : NestsWithin limit.levels d) :
    decode limit d ≠ .error .tooDeep := fun hdeep =>
  h.not_isTooDeep (decode_tooDeep_iff.mp hdeep)

/-- **Exactly the language of datagrams is decoded**: where lists and objects are nested at most 400
    deep, a datagram gives a message if and only if it is that message, and every other is dropped
    as malformed.  That is so at every limit that a machine may have. -/
theorem decode_ok_iff_isDatagram (limit : DepthLimit) (d : ByteArray) (h : NestsWithin 400 d) :
    (∀ m, decode limit d = .ok m ↔ IsDatagram d m) ∧
      ((∀ m, ¬IsDatagram d m) → ∃ fault, decode limit d = .error fault ∧ fault ≠ .tooDeep) := by
  have hdeep : NestsWithin limit.levels d := fun cs hcs => Nat.le_trans (h cs hcs) limit.least
  refine ⟨fun m => ⟨isDatagram_of_decode, fun hm =>
    decode_of_isDatagram hm hdeep.not_isTooDeep⟩, fun hno => ?_⟩
  cases hread : decode limit d with
  | ok m => exact absurd (isDatagram_of_decode hread) (hno m)
  | error fault =>
    refine ⟨fault, rfl, ?_⟩
    rintro rfl
    exact decode_ne_tooDeep hdeep hread

/-- A datagram that names its sender twice, the second time by an escaped surrogate pair. -/
def renamed : List Char :=
  " \x7b\"uid\":\"a\",\"kill\":true,\"uid\":\"\\ud83d\\ude00\" ,\"kill\":null\x7d".toList

theorem renamed_isDatagram :
    NestsWithin 400 renamed.utf8Encode ∧
      IsDatagram renamed.utf8Encode ⟨[⟨0x1F600, by decide⟩], [], false, []⟩ := by
  have h : NestsWithin 400 renamed.utf8Encode := by
    intro cs hcs
    obtain rfl := utf8Encode_inj.mp hcs
    decide
  have hread : decode .lowest renamed.utf8Encode =
      .ok ⟨[⟨0x1F600, by decide⟩], [], false, []⟩ := by
    rw [decode_eq, decode_utf8Encode]
    decide +kernel
  exact ⟨h, ((decode_ok_iff_isDatagram _ _ h).1 _).mp hread⟩

end Message

end Rendezvous
