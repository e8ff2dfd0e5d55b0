import Rendezvous.Json.Reader
import Rendezvous.Proofs.Json.Grammar

/-!
# Reading numbers

A number is read part by part, and each part takes all the digits that it can get.  So the reader
finds every number of the grammar, but only if what stands behind the number could not go on with it
(`Stops`); in JSON a blank, a comma, a bracket or the end stands there.

* `isNumber_of_readNumber`: what is read as a number is one;
* `readNumber_append`: a number behind which nothing goes on is read.
-/

namespace Rendezvous.Json

/-! ## Results -/

theorem bind_eq_ok_iff {α β : Type} {x : Except Fault α} {f : α → Except Fault β} {b : β} :
    x >>= f = .ok b ↔ ∃ a, x = .ok a ∧ f a = .ok b := by
  cases x <;> simp [bind, Except.bind]

theorem bind_eq_error_iff {α β : Type} {x : Except Fault α} {f : α → Except Fault β}
    {fault : Fault} :
    x >>= f = .error fault ↔ x = .error fault ∨ ∃ a, x = .ok a ∧ f a = .error fault := by
  cases x <;> simp [bind, Except.bind]

/-! ## Digits -/

/-- No digit stands at the front. -/
def NoDigit (cs : List Char) : Prop := ∀ c ∈ cs.head?, ¬c.isDigit

/-- Nothing at the front goes on with a number. -/
def Stops (cs : List Char) : Prop :=
  ∀ c ∈ cs.head?, ¬c.isDigit ∧ c ≠ '.' ∧ c ≠ 'e' ∧ c ≠ 'E'

theorem Stops.noDigit {cs : List Char} (h : Stops cs) : NoDigit cs := fun c hc => (h c hc).1

theorem IsDigits.exists_cons {ds : List Char} (h : IsDigits ds) :
    ∃ c r, ds = c :: r ∧ c.isDigit := by
  obtain ⟨c, r, rfl⟩ := List.exists_cons_of_ne_nil h.1
  exact ⟨c, r, rfl, h.2 c List.mem_cons_self⟩

theorem takeWhile_digits {ds rest : List Char} (hds : ∀ c ∈ ds, c.isDigit) (hrest : NoDigit rest) :
    (ds ++ rest).takeWhile Char.isDigit = ds := by
  rw [List.takeWhile_append_of_pos hds]
  cases rest with
  | nil => simp
  | cons c r => rw [List.takeWhile_cons_of_neg (hrest c rfl), List.append_nil]

theorem dropWhile_digits {ds rest : List Char} (hds : ∀ c ∈ ds, c.isDigit) (hrest : NoDigit rest) :
    (ds ++ rest).dropWhile Char.isDigit = rest := by
  rw [List.dropWhile_append_of_pos hds]
  cases rest with
  | nil => rfl
  | cons c r => rw [List.dropWhile_cons_of_neg (hrest c rfl)]

theorem isDigit_of_mem_takeWhile {cs : List Char} {c : Char}
    (h : c ∈ cs.takeWhile Char.isDigit) : c.isDigit :=
  List.all_eq_true.mp List.all_takeWhile c h

/-! ## The digits before the point -/

theorem isWhole_of_wholeDigits? {cs ds rest : List Char} (h : wholeDigits? cs = some (ds, rest)) :
    cs = ds ++ rest ∧ IsWhole ds := by
  cases cs with
  | nil => nomatch h
  | cons c r =>
    rw [wholeDigits?] at h
    split at h
    · next hc =>
      cases h
      subst hc
      exact ⟨rfl, ⟨List.cons_ne_nil _ _, List.forall_mem_singleton.mpr rfl⟩, fun _ => rfl⟩
    · next hzero =>
      split at h
      · next hc =>
        cases h
        refine ⟨?_, ⟨List.cons_ne_nil _ _, ?_⟩, fun h => absurd (Option.some.inj h) hzero⟩
        · rw [List.cons_append, List.takeWhile_append_dropWhile]
        · intro d hd
          rcases List.mem_cons.mp hd with rfl | hd
          · exact hc
          · exact isDigit_of_mem_takeWhile hd
      · nomatch h

theorem wholeDigits?_append {ds rest : List Char} (h : IsWhole ds) (hrest : NoDigit rest) :
    wholeDigits? (ds ++ rest) = some (ds, rest) := by
  obtain ⟨⟨hne, hds⟩, hzero⟩ := h
  cases ds with
  | nil => exact absurd rfl hne
  | cons c ds =>
    rw [List.cons_append, wholeDigits?]
    by_cases hc : c = '0'
    · subst hc
      obtain rfl : ds = [] := (List.cons.inj (hzero rfl)).2
      rfl
    · have hds' : ∀ d ∈ ds, d.isDigit := fun d hd => hds d (List.mem_cons_of_mem _ hd)
      rw [if_neg hc, if_pos (hds c List.mem_cons_self), takeWhile_digits hds' hrest,
        dropWhile_digits hds' hrest]

/-! ## The fraction -/

theorem isFraction_of_fractionDigits {cs rest : List Char} {after? : Option (List Char)}
    (h : fractionDigits cs = (after?, rest)) :
    ∃ f, cs = f ++ rest ∧ IsFraction f (after?.getD []) ∧ (f = [] ↔ after? = none) := by
  rw [fractionDigits.eq_def] at h
  split at h
  · next d r =>
    split at h
    · next hd =>
      cases h
      refine ⟨'.' :: d :: r.takeWhile Char.isDigit, ?_, .some ⟨List.cons_ne_nil _ _, ?_⟩, by simp⟩
      · simp
      · intro c hc
        rcases List.mem_cons.mp hc with rfl | hc
        · exact hd
        · exact isDigit_of_mem_takeWhile hc
    · cases h
      exact ⟨[], rfl, .none, by simp⟩
  · cases h
    exact ⟨[], rfl, .none, by simp⟩

theorem fractionDigits_append {f after rest : List Char} (h : IsFraction f after)
    (hdigit : NoDigit rest) (hpoint : ∀ c ∈ rest.head?, c ≠ '.') :
    fractionDigits (f ++ rest) = (if f = [] then none else some after, rest) := by
  cases h with
  | none =>
    show fractionDigits rest = _
    rw [fractionDigits.eq_def]
    split
    · exact absurd rfl (hpoint '.' rfl)
    · rfl
  | some digits =>
    obtain ⟨hne, hds⟩ := digits
    match after, hne, hds with
    | d :: ds, _, hds =>
      have hds' : ∀ c ∈ ds, c.isDigit := fun c hc => hds c (List.mem_cons_of_mem _ hc)
      show fractionDigits ('.' :: d :: (ds ++ rest)) = _
      rw [fractionDigits, if_pos (hds d List.mem_cons_self), takeWhile_digits hds' hdigit,
        dropWhile_digits hds' hdigit, if_neg (List.cons_ne_nil _ _)]

theorem getD_of_isFraction {f after : List Char} (h : IsFraction f after) :
    (if f = [] then none else some after).getD [] = after := by
  cases h <;> simp

/-! ## The exponent -/

/-- The sign of an exponent, in front of what the reader takes for its digits. -/
inductive ExponentSign : List Char → Bool → List Char → Prop
  | minus {body : List Char} : ExponentSign ['-'] true body
  | plus {body : List Char} : ExponentSign ['+'] false body
  | none {body : List Char} (minus : body.head? ≠ some '-') (plus : body.head? ≠ some '+') :
      ExponentSign [] false body

theorem exists_exponentSign (r : List Char) :
    ∃ s negative body, r = s ++ body ∧ ExponentSign s negative body := by
  by_cases hminus : r.head? = some '-'
  · obtain ⟨body, rfl⟩ := List.head?_eq_some_iff.mp hminus
    exact ⟨['-'], true, body, rfl, .minus⟩
  · by_cases hplus : r.head? = some '+'
    · obtain ⟨body, rfl⟩ := List.head?_eq_some_iff.mp hplus
      exact ⟨['+'], false, body, rfl, .plus⟩
    · exact ⟨[], false, r, rfl, .none hminus hplus⟩

/-- An exponent needs a digit behind its sign. -/
theorem exponentPart_of_mark {e : Char} {s body : List Char} {negative : Bool}
    (mark : e = 'e' ∨ e = 'E') (hs : ExponentSign s negative body) :
    exponentPart (e :: s ++ body) =
      if (body.takeWhile Char.isDigit).isEmpty then (none, e :: s ++ body)
      else (some (if negative then -(digitsValue (body.takeWhile Char.isDigit) : Int)
        else digitsValue (body.takeWhile Char.isDigit)), body.dropWhile Char.isDigit) := by
  have hmark : (e = 'e' || e = 'E') = true := by simpa using mark
  cases hs with
  | minus => simp [exponentPart, hmark]
  | plus => simp [exponentPart, hmark]
  | none minus plus =>
    cases body with
    | nil => simp [exponentPart, hmark]
    | cons c r =>
      have hminus : c ≠ '-' := fun h => minus (congrArg some h)
      have hplus : c ≠ '+' := fun h => plus (congrArg some h)
      simp only [List.cons_append, List.nil_append, exponentPart, hmark, if_true]
      split
      · next h => exact absurd (List.cons.inj h).1 hminus
      · next h => exact absurd (List.cons.inj h).1 hplus
      · rfl

theorem isExponent_of_exponentPart {cs rest : List Char} {n? : Option Int}
    (h : exponentPart cs = (n?, rest)) :
    ∃ e, cs = e ++ rest ∧ IsExponent e (n?.getD 0) ∧ (e = [] ↔ n? = none) := by
  have habsent : (none, cs) = (n?, rest) →
      ∃ e, cs = e ++ rest ∧ IsExponent e (n?.getD 0) ∧ (e = [] ↔ n? = none) := by
    intro h
    cases h
    exact ⟨[], rfl, .none, by simp⟩
  match cs with
  | [] => exact habsent h
  | e :: r =>
    by_cases mark : e = 'e' ∨ e = 'E'
    · obtain ⟨s, negative, body, rfl, hs⟩ := exists_exponentSign r
      rw [← List.cons_append, exponentPart_of_mark mark hs] at h
      split at h
      · exact habsent h
      · next hne =>
        have digits : IsDigits (body.takeWhile Char.isDigit) :=
          ⟨by simpa using hne, fun c hc => isDigit_of_mem_takeWhile hc⟩
        cases h
        refine ⟨e :: s ++ body.takeWhile Char.isDigit, by simp, ?_, by simp⟩
        cases hs with
        | minus => exact .negative mark digits
        | plus => exact .positive mark (.inr rfl) digits
        | none => exact .positive mark (.inl rfl) digits
    · exact habsent (by simpa [exponentPart, mark] using h)

theorem exponentPart_append {e rest : List Char} {n : Int} (h : IsExponent e n)
    (hdigit : NoDigit rest) (hmark : ∀ c ∈ rest.head?, c ≠ 'e' ∧ c ≠ 'E') :
    exponentPart (e ++ rest) = (if e = [] then none else some n, rest) := by
  have hread : ∀ {m : Char} {s ds : List Char} {negative : Bool}, m = 'e' ∨ m = 'E' →
      IsDigits ds → ExponentSign s negative (ds ++ rest) →
      exponentPart (m :: s ++ ds ++ rest) =
        (some (if negative then -(digitsValue ds : Int) else digitsValue ds), rest) := by
    rintro m s ds negative mark ⟨hne, hds⟩ hs
    rw [List.append_assoc, exponentPart_of_mark mark hs, takeWhile_digits hds hdigit,
      dropWhile_digits hds hdigit, if_neg (by simpa using hne)]
  cases h with
  | none =>
    match rest, hmark with
    | [], _ => rfl
    | c :: r, hmark => simp [exponentPart, (hmark c rfl).1, (hmark c rfl).2]
  | @positive m s ds mark plus digits =>
    rw [if_neg (by simp)]
    rcases plus with rfl | rfl
    · obtain ⟨c, r, rfl, hc⟩ := digits.exists_cons
      have hsign : ∀ z : Char, ¬z.isDigit → (c :: r ++ rest).head? ≠ some z := by
        rintro z hz h
        exact hz (Option.some.inj h ▸ hc)
      exact hread mark digits (.none (hsign '-' (by decide)) (hsign '+' (by decide)))
    · exact hread mark digits .plus
  | @negative m ds mark digits =>
    rw [if_neg (by simp)]
    exact hread mark digits .minus

theorem getD_of_isExponent {e : List Char} {n : Int} (h : IsExponent e n) :
    (if e = [] then none else some n).getD 0 = n := by
  cases h <;> simp

/-! ## Numbers -/

/-- Behind its sign a number is read part by part. -/
theorem readNumber_sign {negative : Bool} {body : List Char}
    (hbody : negative = true ∨ body.head? ≠ some '-') :
    readNumber (sign negative ++ body) =
      match wholeDigits? body with
      | none => .error .malformed
      | some (whole, rest) =>
        let fraction := fractionDigits rest
        let exponent := exponentPart fraction.2
        numberValue negative whole fraction.1 exponent.1 >>= fun v => .ok (v, exponent.2) := by
  cases negative with
  | true => rfl
  | false =>
    match body, hbody with
    | [], _ => rfl
    | c :: r, hbody =>
      have hc : c ≠ '-' := fun h => hbody.resolve_left (by decide) (congrArg some h)
      show readNumber (c :: r) = _
      rw [readNumber.eq_def]
      split
      next negative body hsign =>
      split at hsign
      · next h => exact absurd (List.cons.inj h).1 hc
      · cases hsign
        rfl

theorem exists_sign (cs : List Char) :
    ∃ negative body, cs = sign negative ++ body ∧ (negative = true ∨ body.head? ≠ some '-') := by
  by_cases h : cs.head? = some '-'
  · obtain ⟨body, rfl⟩ := List.head?_eq_some_iff.mp h
    exact ⟨true, body, rfl, .inl rfl⟩
  · exact ⟨false, cs, rfl, .inr h⟩

/-- The number of the parts that were read. -/
theorem isNumber_of_numberValue {negative : Bool} {ds f e : List Char}
    {after? : Option (List Char)} {n? : Option Int} {v : Value} (digits : IsWhole ds)
    (fraction : IsFraction f (after?.getD [])) (hf : f = [] ↔ after? = none)
    (exponent : IsExponent e (n?.getD 0)) (he : e = [] ↔ n? = none)
    (h : numberValue negative ds after? n? = .ok v) :
    IsNumber (sign negative ++ ds ++ f ++ e) v := by
  rw [numberValue.eq_def] at h
  split at h
  · obtain rfl := hf.mpr rfl
    obtain rfl := he.mpr rfl
    split at h
    · nomatch h
    · next hfew =>
      cases h
      rw [List.append_nil, List.append_nil]
      exact .whole negative digits (Nat.le_of_not_lt hfew)
  · next hmarked =>
    cases h
    refine .real negative digits fraction exponent ?_ rfl
    rw [← Decidable.not_and_iff_or_not, hf, he]
    exact fun hnone => hmarked hnone.1 hnone.2

/-- **What is read as a number is one.** -/
theorem isNumber_of_readNumber {cs rest : List Char} {v : Value}
    (h : readNumber cs = .ok (v, rest)) : ∃ t, cs = t ++ rest ∧ IsNumber t v := by
  obtain ⟨negative, body, rfl, hbody⟩ := exists_sign cs
  rw [readNumber_sign hbody] at h
  split at h
  · nomatch h
  · next ds r hwhole =>
    obtain ⟨rfl, digits⟩ := isWhole_of_wholeDigits? hwhole
    obtain ⟨after?, r', hr⟩ : ∃ after? r', fractionDigits r = (after?, r') := ⟨_, _, rfl⟩
    obtain ⟨n?, r'', hr'⟩ : ∃ n? r'', exponentPart r' = (n?, r'') := ⟨_, _, rfl⟩
    simp only [hr, hr'] at h
    obtain ⟨v', hv, h⟩ := bind_eq_ok_iff.mp h
    cases h
    obtain ⟨f, rfl, fraction, hf⟩ := isFraction_of_fractionDigits hr
    obtain ⟨e, rfl, exponent, he⟩ := isExponent_of_exponentPart hr'
    exact ⟨_, by simp, isNumber_of_numberValue digits fraction hf exponent he hv⟩

theorem numberValue_whole {negative : Bool} {ds : List Char}
    (few : ds.length ≤ Decimal.digitLimit) :
    numberValue negative ds none none =
      .ok (.int (if negative then -(digitsValue ds : Int) else digitsValue ds)) := by
  rw [numberValue, if_neg (Nat.not_lt.mpr few)]

theorem numberValue_real {negative : Bool} {ds : List Char} {after? : Option (List Char)}
    {n? : Option Int} (marked : ¬(after? = none ∧ n? = none)) :
    numberValue negative ds after? n? =
      let after := after?.getD []
      let size := Decimal.Digits.toFloat
        ⟨digitsValue (ds ++ after), n?.getD 0 - after.length⟩
      .ok (.float (if negative then -size else size)) := by
  rw [numberValue.eq_def]
  split
  · exact absurd ⟨rfl, rfl⟩ marked
  · rfl

/-- The parts of a number are found again if nothing goes on behind them. -/
theorem readNumber_parts (negative : Bool) {ds f after e rest : List Char} {n : Int}
    (digits : IsWhole ds) (fraction : IsFraction f after) (exponent : IsExponent e n)
    (hrest : Stops rest) :
    readNumber (sign negative ++ ds ++ f ++ e ++ rest) =
      numberValue negative ds (if f = [] then none else some after)
        (if e = [] then none else some n) >>= fun v => .ok (v, rest) := by
  -- in front of what is left stands an exponent, and in front of that a fraction
  have hexponent : ∀ c ∈ (e ++ rest).head?, ¬c.isDigit ∧ c ≠ '.' := by
    intro c hc
    cases exponent with
    | none => exact ⟨(hrest c hc).1, (hrest c hc).2.1⟩
    | positive mark | negative mark =>
      obtain rfl := Option.some.inj hc
      rcases mark with rfl | rfl <;> decide
  have hfraction : NoDigit (f ++ (e ++ rest)) := by
    cases fraction with
    | none => exact fun c hc => (hexponent c hc).1
    | some =>
      rintro c hc
      obtain rfl := Option.some.inj hc
      decide
  have hsign : (ds ++ (f ++ (e ++ rest))).head? ≠ some '-' := by
    obtain ⟨c, r, rfl, hc⟩ := digits.1.exists_cons
    intro h
    obtain rfl := Option.some.inj h
    exact absurd hc (by decide)
  rw [List.append_assoc, List.append_assoc, List.append_assoc, readNumber_sign (.inr hsign),
    wholeDigits?_append digits hfraction]
  simp only [fractionDigits_append fraction (fun c hc => (hexponent c hc).1)
      (fun c hc => (hexponent c hc).2),
    exponentPart_append exponent hrest.noDigit (fun c hc => (hrest c hc).2.2)]

/-- **A number behind which nothing goes on is read.** -/
theorem readNumber_append {t rest : List Char} {v : Value} (h : IsNumber t v)
    (hrest : Stops rest) : readNumber (t ++ rest) = .ok (v, rest) := by
  cases h with
  | @whole negative ds digits few =>
    have hparts := readNumber_parts negative digits .none .none hrest
    rw [List.append_nil, List.append_nil, if_pos rfl, if_pos rfl, numberValue_whole few] at hparts
    exact hparts
  | @real negative ds f after e n x digits fraction exponent marked size =>
    have hnone : ¬((if f = [] then none else some after) = none ∧
        (if e = [] then none else some n) = none) := by
      rcases marked with hf | he
      · simp [hf]
      · simp [he]
    rw [readNumber_parts negative digits fraction exponent hrest, numberValue_real hnone,
      getD_of_isFraction fraction, getD_of_isExponent exponent, ← size]
    rfl

/-- To read a number opens no bracket. -/
theorem readNumber_ne_tooDeep (cs : List Char) : readNumber cs ≠ .error .tooDeep := by
  obtain ⟨negative, body, rfl, hbody⟩ := exists_sign cs
  have hvalue : ∀ ds after? n?, numberValue negative ds after? n? ≠ .error .tooDeep := by
    intro ds after? n? h
    rw [numberValue.eq_def] at h
    split at h
    · split at h <;> nomatch h
    · nomatch h
  rw [readNumber_sign hbody]
  split
  · nofun
  · intro h
    rcases bind_eq_error_iff.mp h with h | ⟨_, _, h⟩
    · exact hvalue _ _ _ h
    · nomatch h

end Rendezvous.Json
