import Mathlib.Data.Nat.Digits.Defs
import Rendezvous.Proofs.Blanks
import Rendezvous.Proofs.Ports

/-!
# Which texts are whole numbers

Settings and port arguments are read by one reader, which takes the blanks from the front, then a
sign, then all that can be part of a number, and looks last at whether only blanks are left.  The
grammar has no such order (`IsWhole`): it is a text between blanks that consists of a sign and of
digits.  The two agree because each character tells what it is part of: no digit of any script is a
blank or a sign, and neither is the underscore between digits.

* `whole?_eq_some_iff`: the texts of the grammar are those that are read, with their values;
* `whole_numbers_accepted`: what becomes of such a text, and of any other, as a setting and as a
  port.
-/

namespace Rendezvous.Numeral

open Text

/-! ## Whole numbers -/

/-- Digits of any script and their values, where one underscore may stand between two neighbours. -/
inductive IsDigits : Text → List Nat → Prop
  | last {c : CodePoint} {d : Nat} (digit : c.digitValue? = some d) : IsDigits [c] [d]
  | next {c : CodePoint} {d : Nat} {t : Text} {ds : List Nat} (digit : c.digitValue? = some d)
      (rest : IsDigits t ds) : IsDigits (c :: t) (d :: ds)
  | spaced {c : CodePoint} {d : Nat} {t : Text} {ds : List Nat} (digit : c.digitValue? = some d)
      (rest : IsDigits t ds) : IsDigits (c :: underscore :: t) (d :: ds)

/-- A sign, which may be missing, and whether it is a minus. -/
inductive IsSign : Text → Bool → Prop
  | none : IsSign [] false
  | plus : IsSign [.ofChar '+'] false
  | minus : IsSign [.ofChar '-'] true

/-- A text that stands for a whole number: without the blanks at its ends it is a sign and up to
    4300 digits, the highest first. -/
inductive IsWhole : Text → Int → Prop
  | mk {t s body : Text} {negative : Bool} {ds : List Nat}
      (trimmed : IsTrimmed CodePoint.isNumberBlank t (s ++ body)) (sign : IsSign s negative)
      (digits : IsDigits body ds) (few : ds.length ≤ 4300) :
      IsWhole t (withSign negative (Nat.ofDigits 10 ds.reverse))

/-! ## The characters of a number -/

variable {c : CodePoint} {t s body r : Text} {d : Nat} {ds : List Nat} {negative : Bool} {n : Int}

/-- What can be part of the digits of a number. -/
def inNumber (c : CodePoint) : Bool := c.isDigit || c = underscore

theorem isDigit_of_value (h : c.digitValue? = some d) : c.isDigit := by
  rw [CodePoint.isDigit, h]
  rfl

/-- Digits come in runs of ten. -/
theorem exists_run (h : c.isDigit) :
    ∃ z ∈ CodePoint.digitZeros, ∃ k < 10, CodePoint.ofNat (z + k) = c := by
  rw [CodePoint.isDigit, CodePoint.digitValue?, Option.isSome_map, List.find?_isSome] at h
  obtain ⟨z, hz, hrun⟩ := h
  rw [Bool.and_eq_true, decide_eq_true_eq, decide_eq_true_eq] at hrun
  refine ⟨z, hz, c.val - z, by omega, CodePoint.ext_val ?_⟩
  rw [Nat.add_sub_cancel' hrun.1, CodePoint.val_ofNat c.isLt]

theorem not_blank_of_inNumber (h : inNumber c) : c.isNumberBlank = false := by
  have hruns : ∀ z ∈ CodePoint.digitZeros, ∀ k < 10,
      (CodePoint.ofNat (z + k)).isNumberBlank = false := by decide +kernel
  rw [inNumber, Bool.or_eq_true, decide_eq_true_eq] at h
  rcases h with h | rfl
  · obtain ⟨z, hz, k, hk, rfl⟩ := exists_run h
    exact hruns z hz k hk
  · decide

theorem inNumber_of_isDigit (h : c.isDigit) : inNumber c := by
  rw [inNumber, h, Bool.true_or]

/-! ## Digits -/

theorem IsDigits.exists_cons (h : IsDigits t ds) : ∃ c r, t = c :: r ∧ c.isDigit := by
  cases h with
  | last digit | next digit | spaced digit => exact ⟨_, _, rfl, isDigit_of_value digit⟩

theorem IsDigits.forall_inNumber (h : IsDigits t ds) : ∀ c ∈ t, inNumber c := by
  induction h with
  | last digit => exact List.forall_mem_singleton.mpr (inNumber_of_isDigit (isDigit_of_value digit))
  | next digit rest ih =>
    exact List.forall_mem_cons.mpr ⟨inNumber_of_isDigit (isDigit_of_value digit), ih⟩
  | spaced digit rest ih =>
    exact List.forall_mem_cons.mpr ⟨inNumber_of_isDigit (isDigit_of_value digit),
      List.forall_mem_cons.mpr ⟨by decide, ih⟩⟩

/-- A digit is found in front of others, whether there is an underscore between them or not. -/
theorem digitGroups?_cons_cons {u : CodePoint} :
    digitGroups? (c :: u :: r) = some ds ↔ ∃ d later, c.digitValue? = some d ∧
      digitGroups? (if u = underscore then r else u :: r) = some later ∧ d :: later = ds := by
  rw [digitGroups?]
  split <;> simp [Option.bind_eq_some_iff]

/-- The digits that are found are those of the grammar. -/
theorem digitGroups?_eq_some_iff : digitGroups? t = some ds ↔ IsDigits t ds := by
  constructor
  · intro h
    fun_induction digitGroups? t generalizing ds with
    | case1 => nomatch h
    | case2 c =>
      obtain ⟨d, digit, rfl⟩ := Option.map_eq_some_iff.mp h
      exact .last digit
    | case3 c u r ihSpaced ihNext =>
      obtain ⟨d, later, digit, hlater, rfl⟩ := digitGroups?_cons_cons.mp h
      split at hlater
      · next hu =>
        subst hu
        exact .spaced digit (ihSpaced hlater)
      · exact .next digit (ihNext hlater)
  · intro h
    induction h with
    | last digit =>
      rw [digitGroups?, digit]
      rfl
    | next digit rest ih =>
      obtain ⟨u, r, rfl, hu⟩ := rest.exists_cons
      have hne : u ≠ underscore := by
        rintro rfl
        exact absurd hu (by decide)
      exact digitGroups?_cons_cons.mpr ⟨_, _, digit, by rwa [if_neg hne], rfl⟩
    | spaced digit rest ih =>
      exact digitGroups?_cons_cons.mpr ⟨_, _, digit, by rwa [if_pos rfl], rfl⟩

/-- The value of digits, the highest of which comes first. -/
theorem ofDigits_eq (ds : List Nat) : Decimal.ofDigits ds = Nat.ofDigits 10 ds.reverse := by
  rw [Nat.ofDigits_eq_foldr, List.foldr_reverse, Decimal.ofDigits]
  simp only [Nat.cast_id, Nat.add_comm]

/-! ## Signs -/

theorem IsSign.not_blank (h : IsSign s negative) : ∀ c ∈ s, c.isNumberBlank = false := by
  cases h <;> decide

/-- A text comes apart behind its sign. -/
theorem exists_sign (t : Text) :
    ∃ s, IsSign s (splitSign t).1 ∧ t = s ++ (splitSign t).2 := by
  cases t with
  | nil => exact ⟨[], .none, rfl⟩
  | cons c r =>
    rw [splitSign]
    split
    · next hc => exact ⟨_, .minus, hc ▸ rfl⟩
    · split
      · next hc => exact ⟨_, .plus, hc ▸ rfl⟩
      · exact ⟨[], .none, rfl⟩

/-- The sign in front of digits is found. -/
theorem splitSign_append (sign : IsSign s negative) (digits : IsDigits body ds) (r : Text) :
    splitSign (s ++ (body ++ r)) = (negative, body ++ r) := by
  cases sign with
  | plus | minus => rfl
  | none =>
    obtain ⟨c, r', rfl, hc⟩ := digits.exists_cons
    have hminus : c ≠ .ofChar '-' := by
      rintro rfl
      exact absurd hc (by decide)
    have hplus : c ≠ .ofChar '+' := by
      rintro rfl
      exact absurd hc (by decide)
    rw [List.nil_append, List.cons_append, splitSign, if_neg hminus, if_neg hplus]

/-- Nothing of a sign and digits is a blank. -/
theorem isBare_digits (sign : IsSign s negative) (digits : IsDigits body ds) :
    IsBare CodePoint.isNumberBlank (s ++ body) :=
  isBare_of_forall fun c hc => (List.mem_append.mp hc).elim (sign.not_blank c) fun hc =>
    not_blank_of_inNumber (digits.forall_inNumber c hc)

/-! ## Reading -/

/-- A number ends where blanks begin. -/
theorem takeWhile_dropWhile_number (hbody : ∀ c ∈ body, inNumber c)
    (hblank : ∀ c ∈ r, c.isNumberBlank) :
    (body ++ r).takeWhile inNumber = body ∧ (body ++ r).dropWhile inNumber = r := by
  have hhead : ∀ c ∈ r.head?, inNumber c = false := by
    intro c hc
    rw [Bool.eq_false_iff]
    intro hin
    have := hblank c (List.mem_of_mem_head? hc)
    rw [not_blank_of_inNumber hin] at this
    nomatch this
  exact ⟨takeWhile_append hbody hhead, dropWhile_append hbody hhead⟩

/-- A text is read as a whole number if digits stand behind its sign and then only blanks. -/
theorem whole?_eq_some_iff_parts
    (split : splitSign (t.dropWhile CodePoint.isNumberBlank) = (negative, body)) :
    whole? t = some n ↔ ∃ ds, digitGroups? (body.takeWhile inNumber) = some ds ∧ ds.length ≤ 4300 ∧
      (∀ c ∈ body.dropWhile inNumber, c.isNumberBlank) ∧
      withSign negative (Decimal.ofDigits ds) = n := by
  have hin : (fun c => c.isDigit || decide (c = underscore)) = inNumber := rfl
  simp only [whole?, whole, split, hin]
  cases digitGroups? (body.takeWhile inNumber) with
  | none => exact iff_of_false nofun (by simp)
  | some ds =>
    by_cases hfew : 4300 < ds.length
    · simp [Decimal.digitLimit, hfew, Except.toOption]
    · have hfew' : ds.length ≤ 4300 := Nat.le_of_not_lt hfew
      rw [← List.all_eq_true (p := CodePoint.isNumberBlank)]
      by_cases hback : (body.dropWhile inNumber).all CodePoint.isNumberBlank <;>
        simp [Decimal.digitLimit, hfew, hfew', hback, Except.toOption]

/-- **The texts that are read as whole numbers are those of the grammar**, and their values are
    those of their digits. -/
theorem whole?_eq_some_iff : whole? t = some n ↔ IsWhole t n := by
  constructor
  · intro h
    obtain ⟨s, sign, hsign⟩ := exists_sign (t.dropWhile CodePoint.isNumberBlank)
    generalize hsplit : splitSign (t.dropWhile CodePoint.isNumberBlank) = parts at sign hsign
    obtain ⟨negative, body⟩ := parts
    obtain ⟨ds, hdigits, few, hback, rfl⟩ := (whole?_eq_some_iff_parts hsplit).mp h
    have digits := digitGroups?_eq_some_iff.mp hdigits
    have hfront : ∀ c ∈ t.takeWhile CodePoint.isNumberBlank, c.isNumberBlank := fun c =>
      List.mem_takeWhile_imp
    have trimmed := IsTrimmed.mk hfront (isBare_digits sign digits) hback
    rw [List.append_assoc, List.append_assoc, List.takeWhile_append_dropWhile, ← hsign,
      List.takeWhile_append_dropWhile] at trimmed
    rw [ofDigits_eq]
    exact .mk trimmed sign digits few
  · rintro ⟨⟨front, bare, back⟩, sign, digits, few⟩
    rename_i s body negative ds before after
    have hne : s ++ body ≠ [] := by
      obtain ⟨c, r, rfl, -⟩ := digits.exists_cons
      exact List.append_ne_nil_of_right_ne_nil _ (List.cons_ne_nil _ _)
    have hhead : ∀ c ∈ (s ++ body ++ after).head?, c.isNumberBlank = false := by
      rw [List.head?_append_of_ne_nil _ hne]
      exact bare.head
    have hsplit : splitSign ((before ++ (s ++ body) ++ after).dropWhile CodePoint.isNumberBlank) =
        (negative, body ++ after) := by
      rw [List.append_assoc, dropWhile_append front hhead, List.append_assoc,
        splitSign_append sign digits]
    obtain ⟨htake, hdrop⟩ := takeWhile_dropWhile_number digits.forall_inNumber back
    rw [whole?_eq_some_iff_parts hsplit, htake, hdrop, ← ofDigits_eq]
    exact ⟨ds, digitGroups?_eq_some_iff.mpr digits, few, back, rfl⟩

/-! ## Settings and ports -/

/-- What is made of a variable that is set to a text: its number if it stands for one, whatever the
    fallback is, and the fallback if not. -/
structure ReadsSetting (t : Text) (found : Fallback → Except Fault Int) : Prop where
  whole : ∀ n, IsWhole t n → ∀ fallback, found fallback = .ok n
  other : (∀ n, ¬IsWhole t n) → ∀ fallback, found fallback = fallback.toWhole

/-- What is made of a text as a port argument: its number if it stands for a valid one.  The fault
    of any other number names the number, however it was written, and that of any other text the
    text itself. -/
structure ReadsPort (t : Text) (found : Except Port.Fault Int) : Prop where
  port : ∀ n, found = .ok n ↔ IsWhole t n ∧ Port.IsValid n
  invalid : ∀ n, IsWhole t n → ¬Port.IsValid n →
    ∃ fault, found = .error fault ∧ fault.message = "Invalid port: " ++ Text.ofInt n
  other : (∀ n, ¬IsWhole t n) →
    ∃ fault, found = .error fault ∧ fault.message = "Invalid port: " ++ t

theorem whole?_eq_none (h : ∀ n, ¬IsWhole t n) : whole? t = none := by
  rw [Option.eq_none_iff_forall_ne_some]
  intro n hn
  exact h n (whole?_eq_some_iff.mp hn)

theorem readsSetting_wholeOr {env : Environment} {name : Text} (set : env.get? name = some t) :
    ReadsSetting t (env.wholeOr name) := by
  have hwhole : env.whole? name = whole? t := by rw [Environment.whole?, set, Option.bind_some]
  constructor
  · intro n h fallback
    rw [Environment.wholeOr, hwhole, whole?_eq_some_iff.mpr h]
  · intro h fallback
    rw [Environment.wholeOr, hwhole, whole?_eq_none h]

theorem readsPort_ofText (t : Text) : ReadsPort t (Port.ofText t) := by
  constructor
  · intro n
    rw [Port.ofText_eq_ok_iff, whole?_eq_some_iff]
  · intro n h hinvalid
    refine ⟨.outOfRange n, ?_, rfl⟩
    have hrange : n < 1 ∨ 65535 < n := by
      rw [Port.IsValid] at hinvalid
      omega
    rw [Port.ofText, whole?_eq_some_iff.mpr h]
    exact if_pos (by simpa using hrange)
  · intro h
    refine ⟨.notWhole t, ?_, rfl⟩
    rw [Port.ofText, whole?_eq_none h]

/-- **Settings and port arguments are whole numbers of one grammar.**  A variable that is set to a
    text gives the number that the text stands for, and only if there is none the fallback.  A port
    argument is accepted exactly if it stands for a valid number, and the fault of any other names
    its number, or the text itself if it stands for none. -/
theorem whole_numbers_accepted (t : Text) :
    (∀ (env : Environment) (name : Text), env.get? name = some t →
      ReadsSetting t (env.wholeOr name)) ∧
    ∀ (program : Text) (rest : List Text) (fallback : Int),
      ReadsPort t (Port.ofArguments (program :: t :: rest) fallback) :=
  ⟨fun _ _ set => readsSetting_wholeOr set, fun _ _ _ => readsPort_ofText t⟩

/-- Blanks, a sign, a leading zero, an underscore and two scripts are no matter. -/
theorem mixed_digits_accepted :
    let t : Text := "\u3000+0_\u0668890 \n"
    let env : Environment := Table.ofList [("ECHO_PORT", t)]
    IsWhole t 8890 ∧ env.wholeOr "ECHO_PORT" (.text "none") = .ok 8890 ∧
      Port.ofArguments ["server", t] 33334 = .ok 8890 := by
  intro t env
  have hwhole : IsWhole t 8890 := whole?_eq_some_iff.mp (by decide)
  obtain ⟨hsetting, hport⟩ := whole_numbers_accepted t
  exact ⟨hwhole, (hsetting env "ECHO_PORT" rfl).whole 8890 hwhole (.text "none"),
    ((hport "server" [] 33334).port 8890).mpr ⟨hwhole, by decide⟩⟩

end Rendezvous.Numeral
