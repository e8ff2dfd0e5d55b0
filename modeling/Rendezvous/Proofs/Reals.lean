import Mathlib
import Rendezvous.Proofs.Blanks
import Rendezvous.Proofs.Json.Numbers
import Rendezvous.Environment

/-!
# Which texts are decimal numbers

A setting that is a decimal number is read in two steps.  First it is spelled in ASCII and freed of
its underscores, and then it is read by a grammar that knows neither scripts nor underscores.  Here
is the same the other way round (`IsReal`): the grammar of the plain text, and what may be written
instead of it.  That the two agree is shown part by part, for what the underscores may separate
(`dropUnderscores?_eq_some_iff`) and for each part of a number.

A number takes its value from the plain text, so nothing but that matters (`IsReal.plain`).

* `real?_eq_some_iff`: the texts of the grammar are those that are read, with their values;
* `decimal_numbers_accepted`: what becomes of such a text, and of any other, as a setting.
-/

namespace Rendezvous.Numeral

open Text

variable {c : CodePoint} {t u : Text} {cs after written : List Char} {d : Decimal.Digits}
  {n : Int} {x : Float}

/-! ## Decimal numbers -/

/-- A digit of any script as the ASCII digit of the same value; all else stays as it is. -/
def asciiDigit (c : CodePoint) : CodePoint :=
  match c.digitValue? with
  | some d => .ofChar (Nat.digitChar d)
  | none => c

/-- The text without the blanks at its ends and without underscores, its digits in ASCII. -/
def plain (t : Text) : Text :=
  ((t.trim CodePoint.isNumberBlank).map asciiDigit).filter (· ≠ underscore)

/-- Each underscore stands between two digits. -/
def Separates (t : List Char) : Prop :=
  ∀ before after, t = before ++ '_' :: after →
    (∃ c ∈ before.getLast?, c.isDigit) ∧ ∃ c ∈ after.head?, c.isDigit

/-- Nothing, or a point and the digits behind it, of which there may be none. -/
inductive IsPoint : List Char → List Char → Prop
  | none : IsPoint [] []
  | some {after : List Char} (digits : ∀ c ∈ after, c.isDigit) : IsPoint ('.' :: after) after

/-- A decimal numeral: digits with an optional point, at least one digit before or behind it, and an
    optional exponent. -/
inductive IsNumeral : List Char → Decimal.Digits → Prop
  | mk {ds f after e : List Char} {n : Int} (before : ∀ c ∈ ds, c.isDigit) (point : IsPoint f after)
      (digit : ds ++ after ≠ []) (exponent : Json.IsExponent e n) :
      IsNumeral (ds ++ f ++ e) ⟨Nat.ofDigitChars 10 (ds ++ after) 0, n - after.length⟩

/-- A number without a sign: a name in any case, or a numeral. -/
inductive IsMagnitude : List Char → Float → Prop
  | infinity {cs : List Char} (name : cs.map Char.toLower = "inf".toList ∨
      cs.map Char.toLower = "infinity".toList) : IsMagnitude cs (1.0 / 0.0)
  | nan {cs : List Char} (name : cs.map Char.toLower = "nan".toList) : IsMagnitude cs (0.0 / 0.0)
  | numeral {cs : List Char} {d : Decimal.Digits} (numeral : IsNumeral cs d) :
      IsMagnitude cs d.toFloat

/-- A number with an optional sign. -/
inductive IsSigned : List Char → Float → Prop
  | plus {s cs : List Char} {x : Float} (sign : s = [] ∨ s = ['+']) (size : IsMagnitude cs x) :
      IsSigned (s ++ cs) x
  | minus {cs : List Char} {x : Float} (size : IsMagnitude cs x) : IsSigned ('-' :: cs) (-x)

/-- A text that stands for a decimal number: without the blanks at its ends, with its digits in
    ASCII and without the underscores between digits it is one. -/
inductive IsReal : Text → Float → Prop
  | mk {t u : Text} {written : List Char} {x : Float}
      (trimmed : IsTrimmed CodePoint.isNumberBlank t u) (ascii : u.map asciiDigit = ofChars written)
      (separates : Separates written) (number : IsSigned (written.filter (· ≠ '_')) x) : IsReal t x

/-! ## Underscores -/

/-- Whether a digit stands at the end of a text, when it is known whether one stands in front of
    it. -/
def endsInDigit (afterDigit : Bool) (t : List Char) : Bool :=
  (t.getLast?.map Char.isDigit).getD afterDigit

theorem endsInDigit_cons (afterDigit : Bool) (c : Char) (r : List Char) :
    endsInDigit afterDigit (c :: r) = endsInDigit c.isDigit r := by
  rw [endsInDigit, List.getLast?_cons, Option.map_some, Option.getD_some, endsInDigit,
    Option.getD_map]

/-- Each underscore stands between two digits, when it is known whether a digit stands in front of
    the text. -/
def SeparatesBehind (afterDigit : Bool) (t : List Char) : Prop :=
  ∀ before after, t = before ++ '_' :: after →
    endsInDigit afterDigit before ∧ ∃ c ∈ after.head?, c.isDigit

theorem separatesBehind_false : SeparatesBehind false cs ↔ Separates cs := by
  have hends : ∀ before : List Char,
      endsInDigit false before ↔ ∃ c ∈ before.getLast?, c.isDigit := by
    intro before
    rw [endsInDigit]
    cases before.getLast? <;> simp
  simp only [SeparatesBehind, Separates, hends]

theorem separatesBehind_nil (afterDigit : Bool) : SeparatesBehind afterDigit [] := by
  intro before after h
  exact absurd h.symm (List.append_ne_nil_of_right_ne_nil _ (List.cons_ne_nil _ _))

/-- The text is looked at from its front, one character after another. -/
theorem separatesBehind_cons {afterDigit : Bool} {c : Char} {r : List Char} :
    SeparatesBehind afterDigit (c :: r) ↔
      (c = '_' → afterDigit ∧ ∃ d ∈ r.head?, d.isDigit) ∧ SeparatesBehind c.isDigit r := by
  constructor
  · intro h
    refine ⟨?_, fun before after hr => ?_⟩
    · rintro rfl
      exact h [] r rfl
    · rw [← endsInDigit_cons afterDigit]
      exact h (c :: before) after (congrArg (c :: ·) hr)
  · rintro ⟨hc, hr⟩ before after h
    cases before with
    | nil =>
      obtain ⟨rfl, rfl⟩ := List.cons.inj h
      exact hc rfl
    | cons b before =>
      obtain ⟨rfl, hrest⟩ := List.cons.inj h
      rw [endsInDigit_cons]
      exact hr before after hrest

/-- Underscores are dropped where each stands between two digits, and nothing else is. -/
theorem dropUnderscores?_eq_some_iff {afterDigit : Bool} :
    dropUnderscores? afterDigit written = some cs ↔
      SeparatesBehind afterDigit written ∧ written.filter (· ≠ '_') = cs := by
  fun_induction dropUnderscores? afterDigit written generalizing cs with
  | case1 => simp [separatesBehind_nil]
  | case2 afterDigit d r hbetween ih =>
    rw [Bool.and_eq_true] at hbetween
    have hd : d ≠ '_' := by
      rintro rfl
      exact absurd hbetween.2 (by decide)
    simp [Option.map_eq_some_iff, ih, separatesBehind_cons, hbetween, hd]
  | case3 afterDigit d r hbetween =>
    -- the underscore is out of place
    rw [Bool.and_eq_true] at hbetween
    refine iff_of_false nofun fun ⟨hseparates, _⟩ => hbetween ?_
    simpa using (separatesBehind_cons.mp hseparates).1 rfl
  | case4 afterDigit r hlast =>
    -- nothing stands behind it
    refine iff_of_false nofun fun ⟨hseparates, _⟩ => ?_
    obtain ⟨-, d, hd, -⟩ := (separatesBehind_cons.mp hseparates).1 rfl
    obtain ⟨r', rfl⟩ := List.head?_eq_some_iff.mp hd
    exact hlast d r' rfl rfl
  | case5 afterDigit c r _ hc ih => simp [Option.map_eq_some_iff, ih, separatesBehind_cons, hc]

/-! ## Spelling in ASCII -/

/-- What holds of the ASCII characters can be looked up. -/
theorem forall_ascii {P : Char → Prop} (h : ∀ n < 0x80, P (Char.ofNat n)) {c : Char}
    (hc : c.toNat < 0x80) : P c := by
  have hP := h c.toNat hc
  rwa [Char.ofNat_toNat] at hP

theorem toChar?_eq_some_iff {a : Char} : c.toChar? = some a ↔ c = .ofChar a := by
  constructor
  · intro h
    rw [CodePoint.toChar?, Option.ite_none_right_eq_some, Option.some.injEq] at h
    obtain ⟨hvalid, rfl⟩ := h
    refine CodePoint.ext_val ?_
    rw [CodePoint.val_ofChar, Char.ofNat, dif_pos hvalid]
    rfl
  · rintro rfl
    exact CodePoint.toChar?_ofChar a

/-- The ASCII digits and all other characters of ASCII are left as they are. -/
theorem asciiDigit_ofChar {a : Char} (h : a.toNat < 0x80) :
    asciiDigit (.ofChar a) = .ofChar a := by
  have hall : ∀ n < 0x80, asciiDigit (.ofChar (Char.ofNat n)) = .ofChar (Char.ofNat n) := by
    decide +kernel
  exact forall_ascii (P := fun a => asciiDigit (.ofChar a) = .ofChar a) hall h

/-- A character is spelled in ASCII if it is in ASCII or a digit. -/
theorem asciiChar?_eq_some_iff {a : Char} :
    asciiChar? c = some a ↔ asciiDigit c = .ofChar a ∧ a.toNat < 0x80 := by
  rw [asciiChar?, asciiDigit]
  cases hdigit : c.digitValue? with
  | some d =>
    have hall : ∀ d < 10, (Nat.digitChar d).toNat < 0x80 := by decide
    have hascii := hall d (CodePoint.digitValue?_lt hdigit)
    simp only [Option.some.injEq, CodePoint.ofChar_inj]
    constructor
    · rintro rfl
      exact ⟨rfl, hascii⟩
    · exact fun h => h.1
  | none =>
    simp only [Option.ite_none_right_eq_some, toChar?_eq_some_iff]
    constructor
    · rintro ⟨hascii, rfl⟩
      exact ⟨rfl, hascii⟩
    · rintro ⟨rfl, hascii⟩
      exact ⟨hascii, rfl⟩

theorem mapM_asciiChar?_eq_some_iff :
    u.mapM asciiChar? = some written ↔
      u.map asciiDigit = ofChars written ∧ ∀ c ∈ written, c.toNat < 0x80 := by
  induction u generalizing written with
  | nil => cases written <;> simp [ofChars]
  | cons c u ih =>
    cases written with
    | nil => simp [List.mapM_cons, ofChars, Option.bind_eq_some_iff]
    | cons a written =>
      have hstep : (c :: u).mapM asciiChar? = some (a :: written) ↔
          asciiChar? c = some a ∧ u.mapM asciiChar? = some written := by
        simp [List.mapM_cons, Option.bind_eq_some_iff]
      have hcons : ofChars (a :: written) = .ofChar a :: ofChars written := rfl
      rw [hstep, asciiChar?_eq_some_iff, ih, and_and_and_comm, List.map_cons, hcons,
        List.cons.injEq, List.forall_mem_cons]

/-- A text is spelled in ASCII without underscores if only digits of other scripts are to be
    replaced and each underscore stands between two digits. -/
theorem spelled?_eq_some_iff : spelled? t = some cs ↔
    ∃ written, (t.trim CodePoint.isNumberBlank).map asciiDigit = ofChars written ∧
      (∀ c ∈ written, c.toNat < 0x80) ∧ Separates written ∧ written.filter (· ≠ '_') = cs := by
  simp only [spelled?, Option.bind_eq_some_iff, mapM_asciiChar?_eq_some_iff,
    dropUnderscores?_eq_some_iff, separatesBehind_false, and_assoc]

/-! ## Parts of a number -/

/-- Behind its letter and sign an exponent is digits to the end of the text. -/
theorem exponent?_of_mark {e : Char} {s body : List Char} {negative : Bool}
    (mark : e = 'e' ∨ e = 'E') (sign : Json.ExponentSign s negative body) :
    exponent? (e :: s ++ body) = some n ↔
      Json.IsDigits body ∧ withSign negative (Nat.ofDigitChars 10 body 0) = n := by
  have hmark : (e = 'e' || e = 'E') = true := by simpa using mark
  have hparts : exponent? (e :: s ++ body) =
      if body.isEmpty || !body.all Char.isDigit then none
      else some (withSign negative (Nat.ofDigitChars 10 body 0)) := by
    cases sign with
    | minus | plus => simp [exponent?, hmark]
    | none minus plus =>
      cases body with
      | nil => simp [exponent?, hmark]
      | cons c r =>
        have hminus : c ≠ '-' := fun h => minus (congrArg some h)
        have hplus : c ≠ '+' := fun h => plus (congrArg some h)
        simp only [List.cons_append, List.nil_append, exponent?, hmark, if_true]
        split
        · next h => exact absurd (List.cons.inj h).1 hminus
        · next h => exact absurd (List.cons.inj h).1 hplus
        · rfl
  have hdigits : (body.isEmpty || !body.all Char.isDigit) = false ↔ Json.IsDigits body := by
    simp [Json.IsDigits]
  rw [hparts]
  split
  · next h =>
    refine iff_of_false nofun fun ⟨digits, _⟩ => ?_
    rw [hdigits.mpr digits] at h
    nomatch h
  · next h =>
    have digits := hdigits.mp (Bool.not_eq_true _ ▸ h)
    rw [Option.some.injEq]
    exact (and_iff_right digits).symm

/-- An exponent to the end of a text is read as what it is. -/
theorem exponent?_eq_some_iff : exponent? cs = some n ↔ Json.IsExponent cs n := by
  constructor
  · intro h
    match cs with
    | [] =>
      cases h
      exact .none
    | e :: r =>
      by_cases mark : e = 'e' ∨ e = 'E'
      · obtain ⟨s, negative, body, rfl, sign⟩ := Json.exists_exponentSign r
        rw [← List.cons_append, exponent?_of_mark mark sign] at h
        obtain ⟨digits, rfl⟩ := h
        cases sign with
        | minus => exact .negative mark digits
        | plus => exact .positive mark (.inr rfl) digits
        | none => exact .positive mark (.inl rfl) digits
      · simp [exponent?, mark] at h
  · intro h
    cases h with
    | none => rfl
    | @positive e s ds mark plus digits =>
      rcases plus with rfl | rfl
      · obtain ⟨c, r, rfl, hc⟩ := digits.exists_cons
        have hsign : ∀ z : Char, ¬z.isDigit → (c :: r).head? ≠ some z := by
          rintro z hz h
          exact hz (Option.some.inj h ▸ hc)
        exact (exponent?_of_mark mark
          (.none (hsign '-' (by decide)) (hsign '+' (by decide)))).mpr ⟨digits, rfl⟩
      · exact (exponent?_of_mark mark .plus).mpr ⟨digits, rfl⟩
    | negative mark digits => exact (exponent?_of_mark mark .minus).mpr ⟨digits, rfl⟩

theorem exists_point (r : List Char) :
    ∃ f, r = f ++ (fraction r).2 ∧ IsPoint f (fraction r).1 := by
  rw [fraction.eq_def]
  split
  · next r =>
    refine ⟨'.' :: r.takeWhile Char.isDigit, ?_, .some fun c => Json.isDigit_of_mem_takeWhile⟩
    rw [List.cons_append, List.takeWhile_append_dropWhile]
  · exact ⟨[], rfl, .none⟩

theorem noDigit_exponent {e : List Char} (exponent : Json.IsExponent e n) : Json.NoDigit e := by
  cases exponent with
  | none => exact nofun
  | positive mark | negative mark =>
    rintro c hc
    obtain rfl := Option.some.inj hc
    rcases mark with rfl | rfl <;> decide

/-- The digits behind a point are found in front of an exponent. -/
theorem fraction_append {f e : List Char} (point : IsPoint f after)
    (exponent : Json.IsExponent e n) : fraction (f ++ e) = (after, e) := by
  have hdigit := noDigit_exponent exponent
  cases point with
  | some digits =>
    show ((after ++ e).takeWhile Char.isDigit, (after ++ e).dropWhile Char.isDigit) = _
    rw [Json.takeWhile_digits digits hdigit, Json.dropWhile_digits digits hdigit]
  | none =>
    cases exponent with
    | none => rfl
    | positive mark | negative mark => rcases mark with rfl | rfl <;> rfl

/-- A numeral is read part by part. -/
theorem numeral?_eq_some_iff_parts : numeral? cs = some d ↔
    ∃ n, exponent? (fraction (cs.dropWhile Char.isDigit)).2 = some n ∧
      cs.takeWhile Char.isDigit ++ (fraction (cs.dropWhile Char.isDigit)).1 ≠ [] ∧
      ⟨Nat.ofDigitChars 10 (cs.takeWhile Char.isDigit ++
          (fraction (cs.dropWhile Char.isDigit)).1) 0,
        n - (fraction (cs.dropWhile Char.isDigit)).1.length⟩ = d := by
  simp [numeral?, Option.bind_eq_some_iff]

theorem numeral?_eq_some_iff : numeral? cs = some d ↔ IsNumeral cs d := by
  rw [numeral?_eq_some_iff_parts]
  constructor
  · rintro ⟨n, hexponent, digit, rfl⟩
    obtain ⟨f, hf, point⟩ := exists_point (cs.dropWhile Char.isDigit)
    have numeral := IsNumeral.mk (fun c => Json.isDigit_of_mem_takeWhile) point digit
      (exponent?_eq_some_iff.mp hexponent)
    rwa [List.append_assoc, ← hf, List.takeWhile_append_dropWhile] at numeral
  · rintro ⟨before, point, digit, exponent⟩
    rename_i ds f after e n
    have hrest : Json.NoDigit (f ++ e) := by
      cases point with
      | none => exact noDigit_exponent exponent
      | some =>
        rintro c hc
        obtain rfl := Option.some.inj hc
        decide
    rw [List.append_assoc, Json.takeWhile_digits before hrest, Json.dropWhile_digits before hrest,
      fraction_append point exponent]
    exact ⟨n, exponent?_eq_some_iff.mpr exponent, digit, rfl⟩

/-! ## Numbers -/

/-- What can be part of a number. -/
def inReal (c : Char) : Bool := c.isAlphanum || c = '.' || c = '+' || c = '-'

theorem toNat_lt_of_isAlpha {c : Char} (h : c.isAlpha) : c.toNat < 0x80 := by
  have hval : c.toNat = c.val.toNat := rfl
  have hz : 'z'.val.toNat = 0x7A := rfl
  have hZ : 'Z'.val.toNat = 0x5A := rfl
  simp only [Char.isAlpha, Char.isUpper, Char.isLower, Bool.or_eq_true, Bool.and_eq_true,
    decide_eq_true_eq, UInt32.le_iff_toNat_le] at h
  omega

theorem toNat_lt_of_isDigit {c : Char} (h : c.isDigit) : c.toNat < 0x80 := by
  have hnine : '9'.toNat = 0x39 := rfl
  have hbound := (Char.isDigit_iff_toNat.mp h).2
  omega

/-- A name is made of letters, whatever their case is. -/
theorem forall_isAlpha_of_name {name : List Char} (hname : name.all Char.isAlpha)
    (h : cs.map Char.toLower = name) : ∀ c ∈ cs, c.isAlpha := by
  intro c hc
  have hmem : c.toLower ∈ name := h ▸ List.mem_map_of_mem hc
  rw [← Char.isAlpha_toLower_eq_isAlpha]
  exact List.all_eq_true.mp hname _ hmem

theorem toNat_lt_of_inReal {c : Char} (h : inReal c) : c.toNat < 0x80 := by
  simp only [inReal, Bool.or_eq_true, decide_eq_true_eq] at h
  rcases h with ((h | rfl) | rfl) | rfl
  · rw [Char.isAlphanum, Bool.or_eq_true] at h
    exact h.elim toNat_lt_of_isAlpha toNat_lt_of_isDigit
  all_goals decide

theorem inReal_of_isAlpha {c : Char} (h : c.isAlpha) : inReal c := by
  simp [inReal, Char.isAlphanum, h]

theorem inReal_of_isDigit {c : Char} (h : c.isDigit) : inReal c := by
  simp [inReal, Char.isAlphanum, h]

theorem IsNumeral.forall_inReal (numeral : IsNumeral cs d) : ∀ c ∈ cs, inReal c := by
  obtain ⟨before, point, -, exponent⟩ := numeral
  have hdigits : ∀ {ds : List Char}, (∀ c ∈ ds, c.isDigit) → ∀ c ∈ ds, inReal c :=
    fun h c hc => inReal_of_isDigit (h c hc)
  refine List.forall_mem_append.mpr ⟨List.forall_mem_append.mpr ⟨hdigits before, ?_⟩, ?_⟩
  · cases point with
    | none => exact nofun
    | some digits => exact List.forall_mem_cons.mpr ⟨by decide, hdigits digits⟩
  · cases exponent with
    | none => exact nofun
    | positive mark plus digits =>
      refine List.forall_mem_append.mpr ⟨List.forall_mem_cons.mpr ⟨?_, ?_⟩, hdigits digits.2⟩
      · rcases mark with rfl | rfl <;> decide
      · rcases plus with rfl | rfl
        · exact nofun
        · exact List.forall_mem_singleton.mpr (by decide)
    | negative mark digits =>
      refine List.forall_mem_cons.mpr ⟨?_, List.forall_mem_cons.mpr ⟨by decide, hdigits digits.2⟩⟩
      rcases mark with rfl | rfl <;> decide

/-- A number without a sign is letters or a numeral. -/
theorem IsMagnitude.letters_or_numeral (size : IsMagnitude cs x) :
    (cs ≠ [] ∧ ∀ c ∈ cs, c.isAlpha) ∨ ∃ d, IsNumeral cs d := by
  have hletters : ∀ {name : List Char}, name ≠ [] → name.all Char.isAlpha →
      cs.map Char.toLower = name → cs ≠ [] ∧ ∀ c ∈ cs, c.isAlpha := by
    intro name hne hname h
    refine ⟨?_, forall_isAlpha_of_name hname h⟩
    rintro rfl
    exact hne h.symm
  cases size with
  | infinity name =>
    rcases name with name | name
    · exact .inl (hletters (by decide) (by decide) name)
    · exact .inl (hletters (by decide) (by decide) name)
  | nan name => exact .inl (hletters (by decide) (by decide) name)
  | numeral numeral => exact .inr ⟨_, numeral⟩

theorem IsMagnitude.forall_inReal (size : IsMagnitude cs x) : ∀ c ∈ cs, inReal c := by
  rcases size.letters_or_numeral with ⟨-, hletters⟩ | ⟨d, numeral⟩
  · exact fun c hc => inReal_of_isAlpha (hletters c hc)
  · exact numeral.forall_inReal

theorem IsSigned.forall_inReal (number : IsSigned cs x) : ∀ c ∈ cs, inReal c := by
  cases number with
  | @plus s cs x sign size =>
    have hsign : ∀ c ∈ s, inReal c := by
      rcases sign with rfl | rfl
      · exact nofun
      · exact List.forall_mem_singleton.mpr (by decide)
    exact List.forall_mem_append.mpr ⟨hsign, size.forall_inReal⟩
  | minus size => exact List.forall_mem_cons.mpr ⟨by decide, size.forall_inReal⟩

/-! ## Reading -/

/-- A numeral begins with a digit or a point. -/
theorem IsNumeral.exists_cons (numeral : IsNumeral cs d) :
    ∃ c r, cs = c :: r ∧ (c.isDigit ∨ c = '.') := by
  obtain ⟨before, point, digit, exponent⟩ := numeral
  rename_i ds f after e n
  cases ds with
  | cons c ds => exact ⟨c, _, rfl, .inl (before c List.mem_cons_self)⟩
  | nil =>
    cases point with
    | none => exact absurd rfl digit
    | some => exact ⟨'.', _, rfl, .inr rfl⟩

/-- So it is no name. -/
theorem IsNumeral.ne_name (numeral : IsNumeral cs d) {name : List Char}
    (hname : name.all Char.isAlpha) : cs.map Char.toLower ≠ name := by
  intro h
  obtain ⟨c, r, rfl, hc⟩ := numeral.exists_cons
  have halpha : c.isAlpha := forall_isAlpha_of_name hname h c List.mem_cons_self
  have hall : ∀ n < 0x80, (Char.ofNat n).isAlpha →
      ¬((Char.ofNat n).isDigit ∨ Char.ofNat n = '.') := by decide
  exact forall_ascii (P := fun c => c.isAlpha → ¬(c.isDigit ∨ c = '.')) hall
    (toNat_lt_of_isAlpha halpha) halpha hc

/-- Neither letters nor a numeral begin with a sign. -/
theorem IsMagnitude.exists_cons (size : IsMagnitude cs x) :
    ∃ c r, cs = c :: r ∧ c ≠ '-' ∧ c ≠ '+' := by
  rcases size.letters_or_numeral with ⟨hne, hletters⟩ | ⟨d, numeral⟩
  · obtain ⟨c, r, rfl⟩ := List.exists_cons_of_ne_nil hne
    have hc := hletters c List.mem_cons_self
    refine ⟨c, r, rfl, ?_, ?_⟩ <;> rintro rfl <;> exact absurd hc (by decide)
  · obtain ⟨c, r, rfl, hc⟩ := numeral.exists_cons
    refine ⟨c, r, rfl, ?_, ?_⟩ <;> rintro rfl <;> exact absurd hc (by decide)

theorem magnitude?_eq_some_iff : magnitude? cs = some x ↔ IsMagnitude cs x := by
  have hname : ∀ name : String,
      String.ofList (cs.map Char.toLower) = name ↔ cs.map Char.toLower = name.toList := by
    intro name
    rw [← String.ofList_inj, String.ofList_toList]
  simp only [magnitude?, Bool.or_eq_true, decide_eq_true_eq, hname]
  constructor
  · intro h
    split at h
    · next name =>
      cases h
      exact .infinity name
    · split at h
      · next name =>
        cases h
        exact .nan name
      · obtain ⟨d, hd, rfl⟩ := Option.map_eq_some_iff.mp h
        exact .numeral (numeral?_eq_some_iff.mp hd)
  · intro h
    cases h with
    | infinity name => exact if_pos name
    | nan name =>
      rw [name]
      rfl
    | numeral numeral =>
      rw [if_neg, if_neg, numeral?_eq_some_iff.mpr numeral]
      · rfl
      · exact numeral.ne_name (by decide)
      · exact not_or.mpr ⟨numeral.ne_name (by decide), numeral.ne_name (by decide)⟩

theorem signed?_eq_some_iff : signed? cs = some x ↔ IsSigned cs x := by
  constructor
  · intro h
    rw [signed?.eq_def] at h
    split at h
    · obtain ⟨y, hy, rfl⟩ := Option.map_eq_some_iff.mp h
      exact .minus (magnitude?_eq_some_iff.mp hy)
    · exact .plus (.inr rfl) (magnitude?_eq_some_iff.mp h)
    · exact .plus (.inl rfl) (magnitude?_eq_some_iff.mp h)
  · intro h
    cases h with
    | minus size =>
      rw [signed?, magnitude?_eq_some_iff.mpr size]
      rfl
    | plus sign size =>
      rcases sign with rfl | rfl
      · obtain ⟨c, r, rfl, hminus, hplus⟩ := size.exists_cons
        rw [List.nil_append, signed?.eq_def]
        split
        · next h => exact absurd (List.cons.inj h).1 hminus
        · next h => exact absurd (List.cons.inj h).1 hplus
        · exact magnitude?_eq_some_iff.mpr size
      · exact magnitude?_eq_some_iff.mpr size

/-- **The texts that are read as decimal numbers are those of the grammar**, with the same values. -/
theorem real?_eq_some_iff : real? t = some x ↔ IsReal t x := by
  rw [real?, Option.bind_eq_some_iff]
  constructor
  · rintro ⟨cs, hspelled, hsigned⟩
    obtain ⟨written, ascii, -, separates, rfl⟩ := spelled?_eq_some_iff.mp hspelled
    exact .mk (isTrimmed_trim _ t) ascii separates (signed?_eq_some_iff.mp hsigned)
  · rintro ⟨trimmed, ascii, separates, number⟩
    rename_i u written
    refine ⟨written.filter (· ≠ '_'), spelled?_eq_some_iff.mpr ⟨written, ?_, ?_, separates, rfl⟩,
      signed?_eq_some_iff.mpr number⟩
    · rw [trim_eq_iff.mpr trimmed, ascii]
    · intro c hc
      by_cases hunderscore : c = '_'
      · subst hunderscore
        decide
      · have hmem : c ∈ written.filter (· ≠ '_') := List.mem_filter.mpr ⟨hc, by simpa⟩
        exact toNat_lt_of_inReal (number.forall_inReal c hmem)

/-! ## The plain text -/

/-- Nothing that can be part of a number is a blank or an underscore. -/
theorem not_blank_of_inReal {c : Char} (h : inReal c) :
    (CodePoint.ofChar c).isNumberBlank = false ∧ c ≠ '_' := by
  have hall : ∀ n < 0x80, inReal (Char.ofNat n) →
      (CodePoint.ofChar (Char.ofNat n)).isNumberBlank = false ∧ Char.ofNat n ≠ '_' := by
    decide +kernel
  exact forall_ascii
    (P := fun c => inReal c → (CodePoint.ofChar c).isNumberBlank = false ∧ c ≠ '_') hall
    (toNat_lt_of_inReal h) h

theorem plain_eq (trimmed : IsTrimmed CodePoint.isNumberBlank t u)
    (ascii : u.map asciiDigit = ofChars written) :
    plain t = ofChars (written.filter (· ≠ '_')) := by
  have hunderscore : ∀ c : Char, decide (CodePoint.ofChar c ≠ underscore) = decide (c ≠ '_') :=
    fun c => decide_eq_decide.mpr (not_congr CodePoint.ofChar_inj)
  rw [plain, trim_eq_iff.mpr trimmed, ascii, ofChars, List.filter_map, ofChars]
  exact congrArg _ (List.filter_congr fun c _ => hunderscore c)

/-- A number without a blank or an underscore is plain already. -/
theorem IsSigned.isReal (number : IsSigned cs x) : IsReal (ofChars cs) x := by
  have hin := number.forall_inReal
  have hbare : IsBare CodePoint.isNumberBlank (ofChars cs) := by
    refine isBare_of_forall fun c hc => ?_
    obtain ⟨a, ha, rfl⟩ := List.mem_map.mp hc
    exact (not_blank_of_inReal (hin a ha)).1
  have hascii : (ofChars cs).map asciiDigit = ofChars cs := by
    rw [ofChars, List.map_map]
    exact List.map_congr_left fun a ha => asciiDigit_ofChar (toNat_lt_of_inReal (hin a ha))
  have hseparates : Separates cs := by
    rintro before after rfl
    have hmem : '_' ∈ before ++ '_' :: after :=
      List.mem_append_right _ List.mem_cons_self
    exact absurd rfl (not_blank_of_inReal (hin _ hmem)).2
  have hfilter : cs.filter (· ≠ '_') = cs :=
    List.filter_eq_self.mpr fun a ha => decide_eq_true (not_blank_of_inReal (hin a ha)).2
  exact .mk hbare.isTrimmed hascii hseparates (hfilter.symm ▸ number)

/-- **The plain text stands for the same number.** -/
theorem IsReal.plain (h : IsReal t x) : IsReal (plain t) x := by
  obtain ⟨trimmed, ascii, -, number⟩ := h
  rw [plain_eq trimmed ascii]
  exact number.isReal

/-! ## Settings -/

/-- What is made of a variable that is set to a text: its number if it stands for one, the same as
    that of a variable set to the plain text and whatever the fallbacks are, and the fallback if
    not. -/
structure ReadsReal (t : Text) (found : Fallback → Except Fault Float) : Prop where
  real : ∀ x, IsReal t x → ∀ fallback, found fallback = .ok x
  plain : ∀ x, IsReal t x → ∀ (env : Environment) (name : Text),
    env.get? name = some (plain t) → ∀ fallback, env.realOr name fallback = .ok x
  other : (∀ x, ¬IsReal t x) → ∀ fallback, found fallback = fallback.toReal

theorem realOr_of_isReal {env : Environment} {name : Text} (set : env.get? name = some t)
    (h : IsReal t x) (fallback : Fallback) : env.realOr name fallback = .ok x := by
  have hreal : env.real? name = some x := by
    rw [Environment.real?, set, Option.bind_some, real?_eq_some_iff]
    exact h
  rw [Environment.realOr, hreal]

theorem realOr_of_not_isReal {env : Environment} {name : Text} (set : env.get? name = some t)
    (h : ∀ x, ¬IsReal t x) (fallback : Fallback) :
    env.realOr name fallback = fallback.toReal := by
  have hreal : env.real? name = none := by
    rw [Environment.real?, set, Option.bind_some, Option.eq_none_iff_forall_ne_some]
    intro x hx
    exact h x (real?_eq_some_iff.mp hx)
  rw [Environment.realOr, hreal]

/-- **Settings are decimal numbers of one grammar.**  A variable that is set to a text gives the
    number that the text stands for, which is that of the plain text, and only if there is none the
    fallback. -/
theorem decimal_numbers_accepted (t : Text) (env : Environment) (name : Text)
    (set : env.get? name = some t) : ReadsReal t (env.realOr name) where
  real _ h := realOr_of_isReal set h
  plain _ h _ _ set := realOr_of_isReal set h.plain
  other := realOr_of_not_isReal set

/-- Blanks, an underscore between digits, two scripts and a negative exponent are no matter, but with
    an underscore behind the point a text stands for no number. -/
theorem spaced_exponent_accepted :
    let t : Text := "\u3000-1_\u0662.5E-1\n"
    let u : Text := "1._5"
    let env : Environment := Table.ofList [("TIMEOUT", t), ("INTERVAL", u)]
    IsReal t (-Decimal.Digits.toFloat ⟨125, -2⟩) ∧ plain t = "-12.5E-1" ∧
      env.realOr "TIMEOUT" (.text "none") = .ok (-Decimal.Digits.toFloat ⟨125, -2⟩) ∧
      (∀ x, ¬IsReal u x) ∧ env.realOr "INTERVAL" (.real 30) = .ok 30 := by
  intro t u env
  have hreal : IsReal t (-Decimal.Digits.toFloat ⟨125, -2⟩) := by
    have hspelled : spelled? t = some "-12.5E-1".toList := by decide +kernel
    have hsigned : IsSigned "-12.5E-1".toList (-Decimal.Digits.toFloat ⟨125, -2⟩) :=
      .minus (.numeral (numeral?_eq_some_iff.mp (by decide)))
    rw [← real?_eq_some_iff, real?, hspelled]
    exact signed?_eq_some_iff.mpr hsigned
  have hnone : ∀ x, ¬IsReal u x := by
    have hspelled : spelled? u = none := by decide
    intro x h
    rw [← real?_eq_some_iff, real?, hspelled] at h
    exact Option.some_ne_none x h.symm
  exact ⟨hreal, by decide +kernel,
    (decimal_numbers_accepted t env "TIMEOUT" rfl).real _ hreal (.text "none"), hnone,
    (decimal_numbers_accepted u env "INTERVAL" rfl).other hnone (.real 30)⟩

end Rendezvous.Numeral
