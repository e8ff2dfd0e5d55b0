import Mathlib.Data.List.Chain
import Rendezvous.Json.Printer
import Rendezvous.Json.Reader
import Rendezvous.Proofs.Json.Nesting

/-!
# Writing values

What is written for a value is a text of the grammar, and of that very value.  Two conditions are
needed.  The value has to be one that a text can have at all (`Readable`): distinct keys, no number
with too many digits, and no text in which two halves of a surrogate pair meet, as a reader would
join them.  And it holds no double (`FloatFree`).

The writer is nowhere ambiguous, so the proof goes by cases on the value: the short escapes and the
plain characters are units of the grammar, a code point beyond the first plane is two of them, which
are joined again (`isJoined_units`), and the digits of a whole number do not begin with a zero.

Apart from the grammar, the text is compact (`tidy_write`): printable ASCII without a blank outside
strings.
-/

namespace Rendezvous.Json

/-! ## Values that can be read and written -/

/-- A text in which no two halves of a surrogate pair meet. -/
def Unpaired (t : Text) : Prop := t.IsChain fun h l => ¬IsPair h l

/-- A value that a text nested at most `n` deep can have. -/
inductive Readable : Nat → Value → Prop
  | null {n : Nat} : Readable n .null
  | bool {n : Nat} (b : Bool) : Readable n (.bool b)
  | int {n : Nat} {i : Int} (few : (Nat.toDigits 10 i.natAbs).length ≤ Decimal.digitLimit) :
      Readable n (.int i)
  | float {n : Nat} (x : Float) : Readable n (.float x)
  | text {n : Nat} {t : Text} (unpaired : Unpaired t) : Readable n (.text t)
  | list {n : Nat} {vs : List Value} (items : ∀ v ∈ vs, Readable n v) : Readable (n + 1) (.list vs)
  | object {n : Nat} {ms : Members} (distinct : (ms.map Prod.fst).Nodup)
      (keys : ∀ m ∈ ms, Unpaired m.1) (values : ∀ m ∈ ms, Readable n m.2) :
      Readable (n + 1) (.object ms)

/-- A value without doubles. -/
inductive FloatFree : Value → Prop
  | null : FloatFree .null
  | bool (b : Bool) : FloatFree (.bool b)
  | int (i : Int) : FloatFree (.int i)
  | text (t : Text) : FloatFree (.text t)
  | list {vs : List Value} (items : ∀ v ∈ vs, FloatFree v) : FloatFree (.list vs)
  | object {ms : Members} (values : ∀ m ∈ ms, FloatFree m.2) : FloatFree (.object ms)

/-! ## Numbers -/

theorem isDigits_toDigits (n : Nat) : IsDigits (Nat.toDigits 10 n) :=
  ⟨Nat.toDigits_ne_nil, fun _ hc => Nat.isDigit_of_mem_toDigits (by decide) (by decide) hc⟩

/-- Only zero is written with a zero in front. -/
theorem isWhole_toDigits (n : Nat) : IsWhole (Nat.toDigits 10 n) := by
  refine ⟨isDigits_toDigits n, ?_⟩
  induction n using Nat.strongRecOn with
  | ind n ih =>
    intro hzero
    by_cases hn : n < 10
    · have hsmall : ∀ n < 10, (Nat.toDigits 10 n).head? = some '0' → Nat.toDigits 10 n = ['0'] := by
        decide
      exact hsmall n hn hzero
    · rw [Nat.toDigits_of_base_le (by decide) (Nat.le_of_not_lt hn),
        List.head?_append_of_ne_nil _ Nat.toDigits_ne_nil] at hzero
      have hdigits := congrArg (Nat.ofDigitChars 10 · 0) (ih (n / 10) (by omega) hzero)
      simp only [Nat.ofDigitChars_ten_toDigits] at hdigits
      have hten : n / 10 = 0 := hdigits
      omega

theorem isNumber_writeInt {i : Int}
    (few : (Nat.toDigits 10 i.natAbs).length ≤ Decimal.digitLimit) :
    IsNumber (writeInt i) (.int i) := by
  have hnumber := fun negative => IsNumber.whole negative (isWhole_toDigits i.natAbs) few
  rw [writeInt]
  split
  · have h := hnumber true
    rw [Nat.ofDigitChars_ten_toDigits, if_pos rfl,
      show -(i.natAbs : Int) = i by omega] at h
    exact h
  · have h := hnumber false
    rw [Nat.ofDigitChars_ten_toDigits, if_neg Bool.false_ne_true,
      show (i.natAbs : Int) = i by omega] at h
    exact h

/-! ## Strings -/

theorem toNat_ofNat {n : Nat} (h : n < 0xD800) : (Char.ofNat n).toNat = n := by
  rw [Char.ofNat, dif_pos (.inl h)]
  rfl

/-- The units in which a code point is written. -/
def unitsOf (c : CodePoint) : Text :=
  if c.val ≤ 0xFFFF then [c]
  else [.ofNat (0xD800 + (c.val - 0x10000) / 0x400), .ofNat (0xDC00 + (c.val - 0x10000) % 0x400)]

theorem IsUnit.units {u : List Char} {p : CodePoint} (unit : IsUnit u p) : IsUnits u [p] := by
  have h := IsUnits.cons unit .nil
  rwa [List.append_nil] at h

theorem IsUnits.append {t u : List Char} {ps qs : Text} (ht : IsUnits t ps) (hu : IsUnits u qs) :
    IsUnits (t ++ u) (ps ++ qs) := by
  induction ht with
  | nil => exact hu
  | cons unit _ ih =>
    rw [List.append_assoc]
    exact .cons unit ih

theorem isUnit_unitEscape {n : Nat} (h : n ≤ 0xFFFF) : IsUnit (unitEscape n) (.ofNat n) := by
  have hdigit : ∀ k, IsHexDigit (Nat.digitChar (k % 16)) (k % 16) := fun k =>
    ⟨Nat.mod_lt k (by decide), .inl rfl⟩
  refine .hex (hdigit (n / 16 / 16 / 16)) (hdigit (n / 16 / 16)) (hdigit (n / 16)) (hdigit n) ?_
  rw [CodePoint.val_ofNat (by omega)]
  omega

theorem isUnits_writeChar (c : CodePoint) : IsUnits (writeChar c) (unitsOf c) := by
  have hletter : ∀ {e a : Char}, (e, a) ∈ letterEscapes → a.toNat ≤ 0xFFFF →
      IsUnits ['\\', e] (unitsOf (.ofChar a)) := by
    intro e a escape ha
    rw [unitsOf, CodePoint.val_ofChar, if_pos ha]
    exact (IsUnit.letter escape).units
  rw [writeChar]
  iterate 7
    split
    · next h => exact h ▸ hletter (by decide) (by decide)
  split
  · next hquote hbackslash _ _ _ _ _ h =>
    simp only [Bool.and_eq_true, decide_eq_true_eq] at h
    have hval : (Char.ofNat c.val).toNat = c.val := toNat_ofNat (by omega)
    have hc : CodePoint.ofChar (Char.ofNat c.val) = c := CodePoint.ext_val hval
    have unit : IsUnit [Char.ofNat c.val] (.ofChar (Char.ofNat c.val)) := by
      refine .plain (by omega) ?_ ?_
      · exact fun heq => hquote (heq ▸ hc.symm)
      · exact fun heq => hbackslash (heq ▸ hc.symm)
    rw [hc] at unit
    rw [unitsOf, if_pos (by omega)]
    exact unit.units
  split
  · next h =>
    rw [unitsOf, if_pos h]
    have hunit := isUnit_unitEscape h
    rw [show CodePoint.ofNat c.val = c from CodePoint.ext_val (CodePoint.val_ofNat c.isLt)] at hunit
    exact hunit.units
  · next h =>
    have hlt := c.isLt
    rw [unitsOf, if_neg h]
    exact (isUnit_unitEscape (by omega)).units.append (isUnit_unitEscape (by omega)).units

theorem isUnits_flatMap (t : Text) : IsUnits (t.flatMap writeChar) (t.flatMap unitsOf) := by
  induction t with
  | nil => exact .nil
  | cons c t ih =>
    rw [List.flatMap_cons, List.flatMap_cons]
    exact (isUnits_writeChar c).append ih

/-- A code point beyond the first plane is a pair. -/
theorem exists_pair_unitsOf {c : CodePoint} (h : ¬c.val ≤ 0xFFFF) :
    ∃ high low, unitsOf c = [high, low] ∧ IsPair high low ∧
      c.val = 0x10000 + (high.val - 0xD800) * 0x400 + (low.val - 0xDC00) := by
  have hlt := c.isLt
  have hhigh : (CodePoint.ofNat (0xD800 + (c.val - 0x10000) / 0x400)).val =
      0xD800 + (c.val - 0x10000) / 0x400 := CodePoint.val_ofNat (by omega)
  have hlow : (CodePoint.ofNat (0xDC00 + (c.val - 0x10000) % 0x400)).val =
      0xDC00 + (c.val - 0x10000) % 0x400 := CodePoint.val_ofNat (by omega)
  refine ⟨_, _, if_neg h, ⟨?_, ?_⟩, ?_⟩
  · simp only [CodePoint.isHighSurrogate, hhigh, Bool.and_eq_true, decide_eq_true_eq]
    omega
  · simp only [CodePoint.isLowSurrogate, hlow, Bool.and_eq_true, decide_eq_true_eq]
    omega
  · rw [hhigh, hlow]
    omega

theorem not_isLowSurrogate {p : CodePoint} (h : p.isHighSurrogate) : ¬p.isLowSurrogate := by
  simp only [CodePoint.isHighSurrogate, CodePoint.isLowSurrogate, Bool.and_eq_true,
    decide_eq_true_eq] at h ⊢
  omega

/-- The units of a text are joined to the text again. -/
theorem isJoined_units {t : Text} (h : Unpaired t) : IsJoined (t.flatMap unitsOf) t := by
  induction t with
  | nil => exact .nil
  | cons c t ih =>
    obtain ⟨hhead, htail⟩ := List.isChain_cons.mp h
    rw [List.flatMap_cons]
    by_cases hc : c.val ≤ 0xFFFF
    · rw [unitsOf, if_pos hc]
      refine .single ?_ (ih htail)
      -- the next unit is the next code point or the first half of a pair
      intro l hl isPair
      cases t with
      | nil => nomatch hl
      | cons e t =>
        rw [List.flatMap_cons] at hl
        by_cases he : e.val ≤ 0xFFFF
        · rw [unitsOf, if_pos he] at hl
          obtain rfl := Option.some.inj hl
          exact hhead e rfl isPair
        · obtain ⟨high, low, hunits, hpair, -⟩ := exists_pair_unitsOf he
          rw [hunits] at hl
          obtain rfl := Option.some.inj hl
          exact not_isLowSurrogate hpair.1 isPair.2
    · obtain ⟨high, low, hunits, hpair, hval⟩ := exists_pair_unitsOf hc
      rw [hunits]
      exact .pair hpair hval (ih htail)

theorem isString_writeText {t : Text} (h : Unpaired t) : IsString (writeText t) t :=
  .mk (isUnits_flatMap t) (isJoined_units h)

/-! ## Rows -/

section Commaed

variable {α : Type} {f : α → List Char} {xs : List α}

/-- What is written for items, with commas between them. -/
def commaed (f : α → List Char) : List α → List Char
  | [] => []
  | [x] => f x
  | x :: y :: r => f x ++ ',' :: commaed f (y :: r)

/-- What is written for a member. -/
def writeMember (m : Text × Value) : List Char := writeText m.1 ++ ':' :: m.2.write

theorem writeItems_eq (vs : List Value) : writeItems vs = commaed Value.write vs := by
  fun_induction commaed Value.write vs with
  | case1 => rfl
  | case2 => rfl
  | case3 v w r ih => rw [writeItems, ih]

theorem writeMembers_eq (ms : Members) : writeMembers ms = commaed writeMember ms := by
  fun_induction commaed writeMember ms with
  | case1 => rfl
  | case2 => rfl
  | case3 m m' r ih => rw [writeMembers, ih, writeMember]

theorem isBlanks_nil : IsBlanks [] := nofun

/-- Items that are in a grammar are a row of that grammar. -/
theorem isRow_commaed {P : List Char → α → Nat → Prop} {n : Nat}
    (h : ∀ x ∈ xs, ∃ d, P (f x) x d ∧ d ≤ n) : ∃ d, IsRow P (commaed f xs) xs d ∧ d ≤ n := by
  fun_induction commaed f xs with
  | case1 => exact ⟨0, .empty isBlanks_nil, Nat.zero_le n⟩
  | case2 x =>
    obtain ⟨d, item, hd⟩ := h x List.mem_cons_self
    have row := IsRow.last isBlanks_nil item isBlanks_nil
    rw [List.nil_append, List.append_nil] at row
    exact ⟨d, row, hd⟩
  | case3 x y r ih =>
    obtain ⟨d, item, hd⟩ := h x List.mem_cons_self
    obtain ⟨e, rest, he⟩ := ih fun z hz => h z (List.mem_cons_of_mem x hz)
    have row := IsRow.more isBlanks_nil item isBlanks_nil rest (List.cons_ne_nil y r)
    rw [List.nil_append, List.append_nil] at row
    exact ⟨max d e, row, Nat.max_le.mpr ⟨hd, he⟩⟩

end Commaed

/-! ## Values -/

/-- Members with distinct keys are those of the object as it is. -/
theorem ofWritten_of_nodup {ms : Members} (h : (ms.map Prod.fst).Nodup) :
    Members.ofWritten ms = ms := by
  -- from the back: the key of the last member is new
  induction ms using List.reverseRecOn with
  | nil => rfl
  | append_singleton ms m ih =>
    rw [List.map_append, List.nodup_append] at h
    have hm : m.1 ∉ ms.map Prod.fst := fun hmem => h.2.2 _ hmem _ List.mem_cons_self rfl
    rw [Members.ofWritten_append_singleton, ih h.1, Entries.put_of_notMem m.2 hm]

/-- **What is written for a value is a text of that value.** -/
theorem isValue_write {n : Nat} {v : Value} (h : Readable n v) (hfloat : FloatFree v) :
    ∃ d, IsValue v.write v d ∧ d ≤ n := by
  induction h with
  | null => exact ⟨0, .word .null, Nat.zero_le _⟩
  | bool b => cases b <;> exact ⟨0, .word (by constructor), Nat.zero_le _⟩
  | int few => exact ⟨0, .number (isNumber_writeInt few), Nat.zero_le _⟩
  | float x => nomatch hfloat
  | text unpaired => exact ⟨0, .text (isString_writeText unpaired), Nat.zero_le _⟩
  | @list n vs _ ih =>
    have items : ∀ v ∈ vs, FloatFree v := by cases hfloat; assumption
    obtain ⟨d, row, hd⟩ := isRow_commaed fun v hv => ih v hv (items v hv)
    refine ⟨d + 1, ?_, Nat.succ_le_succ hd⟩
    rw [Value.write, writeItems_eq]
    exact .list row
  | @object n ms distinct keys _ ih =>
    have values : ∀ m ∈ ms, FloatFree m.2 := by cases hfloat; assumption
    have hmember : ∀ m ∈ ms, ∃ d, IsMember IsValue (writeMember m) m d ∧ d ≤ n := by
      intro m hm
      obtain ⟨d, value, hd⟩ := ih m hm (values m hm)
      have member := IsMember.mk (isString_writeText (keys m hm)) isBlanks_nil isBlanks_nil value
      exact ⟨d, by simpa [writeMember] using member, hd⟩
    obtain ⟨d, row, hd⟩ := isRow_commaed hmember
    refine ⟨d + 1, ?_, Nat.succ_le_succ hd⟩
    have object := IsValue.object row
    rw [ofWritten_of_nodup distinct] at object
    rw [Value.write, writeMembers_eq]
    exact object

/-! ## Compact text -/

/-- A printable character of ASCII. -/
def IsPrintable (c : Char) : Prop := 0x20 ≤ c.toNat ∧ c.toNat ≤ 0x7E

instance (c : Char) : Decidable (IsPrintable c) := inferInstanceAs (Decidable (_ ∧ _))

/-- A piece of a text that is printable and has no blank outside strings. -/
structure Tidy (t : List Char) : Prop where
  printable : ∀ c ∈ t, IsPrintable c
  tight : ∃ o, (∀ c ∈ o, isBlank c = false) ∧ ∀ rest, outer (t ++ rest) = o ++ outer rest

theorem Tidy.append {t u : List Char} (ht : Tidy t) (hu : Tidy u) : Tidy (t ++ u) := by
  refine ⟨fun c hc => (List.mem_append.mp hc).elim (ht.printable c) (hu.printable c), ?_⟩
  obtain ⟨o, ho, hto⟩ := ht.tight
  obtain ⟨o', ho', huo⟩ := hu.tight
  refine ⟨o ++ o', fun c hc => (List.mem_append.mp hc).elim (ho c) (ho' c), fun rest => ?_⟩
  rw [List.append_assoc, hto, huo, List.append_assoc]

/-- A tidy text has no blank outside strings. -/
theorem Tidy.outer_not_blank {t : List Char} (h : Tidy t) : ∀ c ∈ outer t, isBlank c = false := by
  obtain ⟨o, ho, houter⟩ := h.tight
  have hall := houter []
  rw [List.append_nil] at hall
  intro c hc
  rw [hall] at hc
  exact ho c (by simpa [outer, outerFrom] using hc)

/-- A printable character that is neither blank nor quote. -/
def IsTidy (c : Char) : Prop := IsPrintable c ∧ isBlank c = false ∧ c ≠ '"'

instance (c : Char) : Decidable (IsTidy c) := inferInstanceAs (Decidable (_ ∧ _))

theorem tidy_of_isTidy {t : List Char} (h : ∀ c ∈ t, IsTidy c) : Tidy t := by
  refine ⟨fun c hc => (h c hc).1, t, fun c hc => (h c hc).2.1, fun rest => ?_⟩
  induction t with
  | nil => rfl
  | cons c t ih =>
    rw [List.cons_append, outer_cons (h c List.mem_cons_self).2.2,
      ih fun c hc => h c (List.mem_cons_of_mem _ hc), List.cons_append]

theorem tidy_of_all {t : List Char} (h : t.all (fun c => decide (IsTidy c)) = true) : Tidy t :=
  tidy_of_isTidy fun c hc => of_decide_eq_true (List.all_eq_true.mp h c hc)

theorem isTidy_of_isDigit {c : Char} (h : c.isDigit) : IsTidy c := by
  simp only [Char.isDigit_iff_toNat, Char.reduceToNat] at h
  have hascii : ∀ n < 0x3A, 0x30 ≤ n → IsTidy (Char.ofNat n) := by decide
  rw [← Char.ofNat_toNat c]
  exact hascii c.toNat (by omega) (by omega)

theorem tidy_writeInt (i : Int) : Tidy (writeInt i) := by
  have hdigits : Tidy (Nat.toDigits 10 i.natAbs) :=
    tidy_of_isTidy fun c hc => isTidy_of_isDigit ((isDigits_toDigits _).2 c hc)
  rw [writeInt]
  split
  · exact (tidy_of_all (t := ['-']) (by decide)).append hdigits
  · exact hdigits

theorem isPrintable_unitEscape (n : Nat) : ∀ c ∈ unitEscape n, IsPrintable c := by
  have hdigit : ∀ k, IsPrintable (Nat.digitChar (k % 16)) := by
    have hsmall : ∀ k < 16, IsPrintable (Nat.digitChar k) := by decide
    exact fun k => hsmall (k % 16) (Nat.mod_lt k (by decide))
  intro c hc
  simp only [unitEscape, Text.hexDigits, List.nil_append, List.cons_append, List.mem_cons,
    List.not_mem_nil, or_false] at hc
  rcases hc with rfl | rfl | rfl | rfl | rfl | rfl
  · decide
  · decide
  all_goals exact hdigit _

theorem isPrintable_writeChar (p : CodePoint) : ∀ c ∈ writeChar p, IsPrintable c := by
  rw [writeChar]
  iterate 7
    split
    · exact List.forall_mem_cons.mpr ⟨by decide, List.forall_mem_singleton.mpr (by decide)⟩
  split
  · next h =>
    simp only [Bool.and_eq_true, decide_eq_true_eq] at h
    intro c hc
    obtain rfl := List.mem_singleton.mp hc
    rw [IsPrintable, toNat_ofNat (by omega)]
    exact h
  split
  · exact isPrintable_unitEscape p.val
  · intro c hc
    rcases List.mem_append.mp hc with hc | hc
    · exact isPrintable_unitEscape _ c hc
    · exact isPrintable_unitEscape _ c hc

theorem tidy_writeText (t : Text) : Tidy (writeText t) := by
  constructor
  · intro c hc
    simp only [writeText, List.cons_append, List.mem_cons, List.mem_append, List.mem_flatMap,
      List.not_mem_nil, or_false] at hc
    rcases hc with rfl | ⟨p, -, hc⟩ | rfl
    · decide
    · exact isPrintable_writeChar p c hc
    · decide
  · refine ⟨['"'], List.forall_mem_singleton.mpr rfl, fun rest => ?_⟩
    have hunits := outerFrom_units (isUnits_flatMap t) ('"' :: rest)
    simp only [writeText, outer, List.cons_append, List.append_assoc, outerFrom, Place.after,
      if_true, List.nil_append]
    rw [hunits]
    rfl

theorem tidy_commaed {α : Type} {f : α → List Char} {xs : List α} (h : ∀ x ∈ xs, Tidy (f x)) :
    Tidy (commaed f xs) := by
  fun_induction commaed f xs with
  | case1 => exact tidy_of_all (by decide)
  | case2 x => exact h x List.mem_cons_self
  | case3 x y r ih =>
    have hrest := ih fun z hz => h z (List.mem_cons_of_mem x hz)
    exact (h x List.mem_cons_self).append
      ((tidy_of_all (t := [',']) (by decide)).append hrest)

theorem Tidy.between {t : List Char} {a z : Char} (h : Tidy t) (ha : IsTidy a) (hz : IsTidy z) :
    Tidy (a :: t ++ [z]) := by
  have hopen : Tidy [a] := tidy_of_isTidy (by simpa using ha)
  have hclose : Tidy [z] := tidy_of_isTidy (by simpa using hz)
  exact (hopen.append h).append hclose

/-- **What is written is printable ASCII without a blank outside strings.** -/
theorem tidy_write {v : Value} (h : FloatFree v) : Tidy v.write := by
  induction h with
  | null => exact tidy_of_all (by decide)
  | bool b => cases b <;> exact tidy_of_all (by decide)
  | int i => exact tidy_writeInt i
  | text t => exact tidy_writeText t
  | list _ ih =>
    rw [Value.write, writeItems_eq]
    exact (tidy_commaed ih).between (by decide) (by decide)
  | object _ ih =>
    rw [Value.write, writeMembers_eq]
    refine (tidy_commaed fun m hm => ?_).between (by decide) (by decide)
    exact (tidy_writeText m.1).append
      ((tidy_of_all (t := [':']) (by decide)).append (ih m hm))

end Rendezvous.Json
