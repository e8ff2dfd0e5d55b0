import Mathlib.Algebra.Group.Nat.Defs
import Rendezvous.Proofs.Datagram
import Rendezvous.Proofs.Json.Writing

/-!
# Writing and reading are inverse

What is written for a value is read as that value again (`decode_encode`), since it is a text of the
grammar and the reader finds every text of the grammar.  The other half is that the condition on the
value is no restriction: what is read is always readable (`readable_of_isValue`).  A number has at
least as many digits as its value needs, joined pairs do not meet other halves, and the members of
an object have distinct keys.
-/

namespace Rendezvous.Json

/-! ## What is read is readable -/

theorem Readable.mono {n k : Nat} {v : Value} (h : Readable n v) (hle : n ≤ k) : Readable k v := by
  induction h generalizing k with
  | null => exact .null
  | bool b => exact .bool b
  | int few => exact .int few
  | float x => exact .float x
  | text unpaired => exact .text unpaired
  | list _ ih =>
    obtain ⟨k, rfl⟩ : ∃ j, k = j + 1 := ⟨k - 1, by omega⟩
    exact .list fun v hv => ih v hv (Nat.le_of_succ_le_succ hle)
  | object distinct keys _ ih =>
    obtain ⟨k, rfl⟩ : ∃ j, k = j + 1 := ⟨k - 1, by omega⟩
    exact .object distinct keys fun m hm => ih m hm (Nat.le_of_succ_le_succ hle)

theorem ofDigitChars_lt {ds : List Char} (h : ∀ c ∈ ds, c.isDigit) :
    Nat.ofDigitChars 10 ds 0 < 10 ^ ds.length := by
  induction ds with
  | nil => decide
  | cons c ds ih =>
    have hc := h c List.mem_cons_self
    simp only [Char.isDigit_iff_toNat, Char.reduceToNat] at hc
    have hrest := ih fun c hc => h c (List.mem_cons_of_mem _ hc)
    rw [Nat.ofDigitChars_cons, Nat.ofDigitChars_eq_ofDigitChars_zero, List.length_cons,
      Nat.pow_succ]
    have hfirst : 10 ^ ds.length * (10 * 0 + (c.toNat - '0'.toNat)) ≤ 10 ^ ds.length * 9 :=
      Nat.mul_le_mul_left _ (by simp only [Char.reduceToNat]; omega)
    omega

/-- A number is written with no more digits than it was read with. -/
theorem length_toDigits_le {ds : List Char} (h : IsDigits ds) :
    (Nat.toDigits 10 (Nat.ofDigitChars 10 ds 0)).length ≤ ds.length :=
  (Nat.length_toDigits_le_iff (by decide) (List.length_pos_iff.mpr h.1)).mpr (ofDigitChars_lt h.2)

theorem readable_of_isNumber {t : List Char} {v : Value} (h : IsNumber t v) (n : Nat) :
    Readable n v := by
  cases h with
  | @whole negative ds digits few =>
    refine .int (Nat.le_trans ?_ few)
    have hlength := length_toDigits_le digits.1
    cases negative with
    | true => simpa using hlength
    | false => simpa using hlength
  | real => exact .float _

/-- Where all pairs are joined, no two halves meet. -/
theorem unpaired_of_isJoined {us s : Text} (h : IsJoined us s) : Unpaired s := by
  induction h with
  | nil => exact .nil
  | @pair h l p us ps isPair val _ ih =>
    refine List.isChain_cons.mpr ⟨fun l' _ isPair' => ?_, ih⟩
    have hhigh := isPair'.1
    simp only [CodePoint.isHighSurrogate, val, Bool.and_eq_true, decide_eq_true_eq] at hhigh
    omega
  | @single p us ps alone joined ih =>
    refine List.isChain_cons.mpr ⟨fun l hl isPair => ?_, ih⟩
    -- the next code point was there before the joining, or is itself a pair
    cases joined with
    | nil => exact absurd hl (Option.not_mem_none l)
    | single => exact alone l hl isPair
    | pair _ val =>
      obtain rfl := Option.some.inj hl
      have hlow := isPair.2
      simp only [CodePoint.isLowSurrogate, val, Bool.and_eq_true, decide_eq_true_eq] at hlow
      omega

theorem IsString.unpaired {t : List Char} {s : Text} (h : IsString t s) : Unpaired s := by
  obtain ⟨-, joined⟩ := h
  exact unpaired_of_isJoined joined

theorem nodup_ofWritten (written : Members) :
    ((Members.ofWritten written).map Prod.fst).Nodup := by
  induction written using List.reverseRecOn with
  | nil => exact List.nodup_nil
  | append_singleton ms m ih =>
    rw [Members.ofWritten_append_singleton]
    exact Entries.nodup_put m.1 m.2 ih

/-- The members of an object are among those that were written. -/
theorem mem_of_mem_ofWritten {written : Members} {m : Text × Value}
    (h : m ∈ Members.ofWritten written) : m ∈ written := by
  induction written using List.reverseRecOn with
  | nil => exact h
  | append_singleton ms m' ih =>
    rw [Members.ofWritten_append_singleton] at h
    rw [List.mem_append, List.mem_singleton]
    exact (Entries.eq_or_mem_of_mem_put h).symm.imp_left ih

theorem IsRow.exists_item {α : Type} {P : List Char → α → Nat → Prop} {t : List Char}
    {xs : List α} {d : Nat} (row : IsRow P t xs d) {x : α} (hx : x ∈ xs) :
    ∃ u e, P u x e ∧ e ≤ d := by
  induction row with
  | empty => nomatch hx
  | last _ item =>
    obtain rfl := List.mem_singleton.mp hx
    exact ⟨_, _, item, Nat.le_refl _⟩
  | more _ item _ _ _ ih =>
    rcases List.mem_cons.mp hx with rfl | hx
    · exact ⟨_, _, item, Nat.le_max_left ..⟩
    · obtain ⟨u, e, item, he⟩ := ih hx
      exact ⟨u, e, item, Nat.le_trans he (Nat.le_max_right ..)⟩

/-- **The value of a text is readable.** -/
theorem readable_of_isValue {t : List Char} {v : Value} {d : Nat} (h : IsValue t v d) :
    Readable d v := by
  refine h.induct (motive := fun _ v d => Readable d v) ?word ?number ?text ?list ?object
  case word =>
    intro t v h
    cases h <;> constructor
  case number => exact fun h => readable_of_isNumber h 0
  case text => exact fun h => .text h.unpaired
  case list =>
    intro t vs d row
    refine .list fun v hv => ?_
    obtain ⟨u, e, item, he⟩ := row.exists_item hv
    exact item.mono he
  case object =>
    intro t ms d row
    have hmember : ∀ m ∈ Members.ofWritten ms, Unpaired m.1 ∧ Readable d m.2 := by
      intro m hm
      obtain ⟨u, e, item, he⟩ := row.exists_item (mem_of_mem_ofWritten hm)
      obtain ⟨name, -, -, value⟩ := item
      exact ⟨name.unpaired, value.mono he⟩
    exact .object (nodup_ofWritten ms) (fun m hm => (hmember m hm).1) fun m hm => (hmember m hm).2

/-! ## The round trip -/

theorem encode_eq (v : Value) : v.encode = v.write.utf8Encode := by
  rw [Value.encode, String.toUTF8_eq_toByteArray, String.toByteArray_ofList]

/-- **A value that is written is read again.** -/
theorem decode_encode {limit : DepthLimit} {n : Nat} {v : Value} (h : Readable n v)
    (hn : n ≤ limit.levels) (hfloat : FloatFree v) : decode limit v.encode = .ok v := by
  obtain ⟨d, value, hd⟩ := isValue_write h hfloat
  have json := IsJson.mk isBlanks_nil value isBlanks_nil
  rw [List.nil_append, List.append_nil] at json
  rw [encode_eq]
  exact decode_eq_ok_iff.mpr ⟨_, d, rfl, json, Nat.le_trans hd hn⟩

theorem readable_of_decode {limit : DepthLimit} {d : ByteArray} {v : Value}
    (h : decode limit d = .ok v) : Readable limit.levels v := by
  obtain ⟨cs, n, rfl, ⟨-, value, -⟩, hn⟩ := decode_eq_ok_iff.mp h
  exact (readable_of_isValue value).mono hn

/-- Bytes of printable ASCII that have no blank outside strings. -/
structure Compact (d : ByteArray) : Prop where
  printable : ∀ b ∈ d.data.toList, 0x20 ≤ b ∧ b ≤ 0x7E
  tight : ∃ cs : List Char, d = cs.utf8Encode ∧ ∀ c ∈ outer cs, isBlank c = false

theorem compact_encode {v : Value} (h : FloatFree v) : Compact v.encode := by
  have htidy := tidy_write h
  rw [encode_eq]
  refine ⟨fun b hb => ?_, _, rfl, htidy.outer_not_blank⟩
  rw [List.utf8Encode, List.toList_data_toByteArray, List.mem_flatMap] at hb
  obtain ⟨c, hc, hb⟩ := hb
  obtain ⟨hlow, hhigh⟩ := htidy.printable c hc
  have hsmall : c.val.toNat ≤ 0x7F := Nat.le_succ_of_le hhigh
  rw [String.utf8EncodeChar, if_pos hsmall] at hb
  obtain rfl := List.mem_singleton.mp hb
  have hval : (UInt8.ofNat c.val.toNat).toNat = c.toNat :=
    Nat.mod_eq_of_lt (Nat.lt_of_le_of_lt hsmall (by decide))
  rw [UInt8.le_iff_toNat_le, UInt8.le_iff_toNat_le, hval]
  exact ⟨hlow, hhigh⟩

/-- **Writing and reading are inverse.**  What is written for a readable value without doubles is
    compact and is read as the same value, with the members of its objects in their order; and what
    was read and has no doubles is written and read again without loss. -/
theorem encode_decode_inverse (limit : DepthLimit) :
    (∀ n v, n ≤ limit.levels → Readable n v → FloatFree v →
      Compact v.encode ∧ decode limit v.encode = .ok v) ∧
    ∀ d v, decode limit d = .ok v → FloatFree v → decode limit v.encode = .ok v := by
  constructor
  · intro n v hn h hfloat
    exact ⟨compact_encode hfloat, decode_encode h hn hfloat⟩
  · intro d v h hfloat
    exact decode_encode (readable_of_decode h) (Nat.le_refl _) hfloat

/-- A pair with a further half behind it and a character that is always escaped. -/
def trickyText : Text := [⟨0x1F600, by decide⟩, ⟨0xDE00, by decide⟩, .ofChar '\x7F']

/-- An object with keys out of order. -/
def tricky : Value := .object [("b", .list [.int (-120), .text trickyText]), ("a", .object [])]

theorem tricky_read_again :
    (Readable 2 tricky ∧ FloatFree tricky) ∧ Compact tricky.encode ∧
      decode .lowest tricky.encode = .ok tricky := by
  have hlist : Readable 1 (.list [.int (-120), .text trickyText]) := by
    refine .list (List.forall_mem_cons.mpr ⟨.int (by decide), List.forall_mem_singleton.mpr ?_⟩)
    exact .text (by simp [Unpaired, trickyText, IsPair, CodePoint.isHighSurrogate])
  have hreadable : Readable 2 tricky := by
    refine .object (by decide) ?_ ?_
    · exact List.forall_mem_cons.mpr ⟨.singleton _, List.forall_mem_singleton.mpr (.singleton _)⟩
    · refine List.forall_mem_cons.mpr ⟨hlist, List.forall_mem_singleton.mpr ?_⟩
      exact .object .nil (List.forall_mem_nil _) (List.forall_mem_nil _)
  have hfloat : FloatFree tricky := by
    refine .object (List.forall_mem_cons.mpr ⟨.list ?_, List.forall_mem_singleton.mpr ?_⟩)
    · exact List.forall_mem_cons.mpr ⟨.int _, List.forall_mem_singleton.mpr (.text _)⟩
    · exact .object (List.forall_mem_nil _)
  exact ⟨⟨hreadable, hfloat⟩,
    (encode_decode_inverse .lowest).1 2 tricky (by decide) hreadable hfloat⟩

end Rendezvous.Json
