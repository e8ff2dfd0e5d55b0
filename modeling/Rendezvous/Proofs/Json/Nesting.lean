import Rendezvous.Proofs.Json.Grammar

/-!
# How deep a text nests

The depth to which lists and objects are nested can be asked of any characters, whether they are
JSON or not: it is the greatest number of brackets that are open at once outside strings.  Where a
string begins and ends is seen from left to right, one character at a time (`Place`).

A text that is JSON nests as deep as its value (`IsValue.nests`), whatever stands behind it.  The
proof goes through `Nests`, which holds of the pieces of a text and adds up over them.
-/

namespace Rendezvous.Json

/-! ## Outside strings -/

/-- Where a character stands: outside strings, inside one, or there behind a backslash. -/
inductive Place where
  | outside
  | inside
  | escaped
  deriving DecidableEq

/-- The place of the next character. -/
def Place.after : Place → Char → Place
  | .outside, c => if c = '"' then .inside else .outside
  | .inside, c => if c = '"' then .outside else if c = '\\' then .escaped else .inside
  | .escaped, _ => .inside

/-- The characters outside strings, from a place on. -/
def outerFrom : Place → List Char → List Char
  | _, [] => []
  | .outside, c :: r => c :: outerFrom (Place.outside.after c) r
  | p, c :: r => outerFrom (p.after c) r

/-- The characters outside strings, and the quotes that open strings. -/
def outer (t : List Char) : List Char := outerFrom .outside t

/-- A string ends at its closing quote: its parts have no quote that is not escaped. -/
theorem outerFrom_units {t : List Char} {us : Text} (units : IsUnits t us) (rest : List Char) :
    outerFrom .inside (t ++ rest) = outerFrom .inside rest := by
  induction units with
  | nil => rfl
  | cons unit _ ih =>
    rw [List.append_assoc, ← ih]
    cases unit with
    | plain _ quote backslash => simp [outerFrom, Place.after, quote, backslash]
    | letter => simp [outerFrom, Place.after]
    | @hex a b c d i j k l p ha hb hc hd =>
      -- a hexadecimal digit neither ends the string nor escapes the next character
      have hplain : ∀ {x n}, IsHexDigit x n → x ≠ '"' ∧ x ≠ '\\' := by
        rintro x n ⟨hn, rfl | rfl⟩ <;> revert n <;> decide
      simp [outerFrom, Place.after, hplain ha, hplain hb, hplain hc, hplain hd]

theorem outer_string {t : List Char} {s : Text} (h : IsString t s) (rest : List Char) :
    outer (t ++ rest) = '"' :: outer rest := by
  obtain ⟨units, -⟩ := h
  simp only [outer, List.cons_append, List.append_assoc, outerFrom, Place.after, if_true]
  rw [outerFrom_units units]
  rfl

theorem outer_cons {c : Char} (hc : c ≠ '"') (rest : List Char) :
    outer (c :: rest) = c :: outer rest := by
  simp [outer, outerFrom, Place.after, hc]

/-! ## Brackets -/

/-- The greatest number of brackets open at once, if so many are open already. -/
def deepest (opened : Nat) : List Char → Nat
  | [] => opened
  | c :: r =>
    if c = '[' ∨ c = '{' then deepest (opened + 1) r
    else if c = ']' ∨ c = '}' then max opened (deepest (opened - 1) r)
    else deepest opened r

/-- The greatest number of brackets open at once outside strings, if so many are open already. -/
def nestingFrom (opened : Nat) (t : List Char) : Nat := deepest opened (outer t)

/-- How deep lists and objects are nested in a text. -/
def nesting (t : List Char) : Nat := nestingFrom 0 t

theorem le_deepest (k : Nat) (t : List Char) : k ≤ deepest k t := by
  induction t generalizing k with
  | nil => exact Nat.le_refl k
  | cons c r ih =>
    rw [deepest]
    split
    · exact Nat.le_of_succ_le (ih (k + 1))
    · split
      · exact Nat.le_max_left ..
      · exact ih k

theorem deepest_le_append (k : Nat) (t u : List Char) : deepest k t ≤ deepest k (t ++ u) := by
  induction t generalizing k with
  | nil => exact le_deepest k u
  | cons c r ih =>
    rw [List.cons_append, deepest, deepest]
    split
    · exact ih (k + 1)
    · split
      · have hrest := ih (k - 1)
        omega
      · exact ih k

theorem le_nestingFrom (k : Nat) (t : List Char) : k ≤ nestingFrom k t := le_deepest k _

theorem outerFrom_append (p : Place) (t rest : List Char) :
    ∃ u, outerFrom p (t ++ rest) = outerFrom p t ++ u := by
  induction t generalizing p with
  | nil => exact ⟨outerFrom p rest, by cases p <;> rfl⟩
  | cons c t ih =>
    obtain ⟨u, hu⟩ := ih (p.after c)
    refine ⟨u, ?_⟩
    cases p <;> simp only [List.cons_append, outerFrom, hu]

/-- A longer text nests at least as deep. -/
theorem nesting_le_append (t rest : List Char) : nesting t ≤ nesting (t ++ rest) := by
  obtain ⟨u, hu⟩ := outerFrom_append .outside t rest
  rw [nesting, nesting, nestingFrom, nestingFrom, outer, outer, hu]
  exact deepest_le_append 0 _ u

/-! ## Pieces of a text -/

/-- A character that means nothing to the nesting. -/
def IsQuiet (c : Char) : Prop := c ≠ '"' ∧ c ≠ '[' ∧ c ≠ '{' ∧ c ≠ ']' ∧ c ≠ '}'

instance (c : Char) : Decidable (IsQuiet c) := inferInstanceAs (Decidable (_ ∧ _))

/-- A piece of a text that nests `d` deep and closes all it opens. -/
def Nests (t : List Char) (d : Nat) : Prop :=
  ∀ k rest, nestingFrom k (t ++ rest) = max (k + d) (nestingFrom k rest)

theorem Nests.append {t u : List Char} {d e : Nat} (ht : Nests t d) (hu : Nests u e) :
    Nests (t ++ u) (max d e) := by
  intro k rest
  rw [List.append_assoc, ht, hu]
  omega

/-- What leaves the nesting as it is. -/
theorem nests_zero {t : List Char} (h : ∀ k rest, nestingFrom k (t ++ rest) = nestingFrom k rest) :
    Nests t 0 := by
  intro k rest
  rw [h, Nat.add_zero, Nat.max_eq_right (le_nestingFrom k rest)]

theorem nestingFrom_quiet {c : Char} (hc : IsQuiet c) (k : Nat) (rest : List Char) :
    nestingFrom k (c :: rest) = nestingFrom k rest := by
  obtain ⟨hquote, hlist, hobject, hlist', hobject'⟩ := hc
  rw [nestingFrom, outer_cons hquote, deepest, if_neg (not_or.mpr ⟨hlist, hobject⟩),
    if_neg (not_or.mpr ⟨hlist', hobject'⟩)]
  rfl

theorem nests_quiet {t : List Char} (h : ∀ c ∈ t, IsQuiet c) : Nests t 0 := by
  refine nests_zero fun k rest => ?_
  induction t with
  | nil => rfl
  | cons c t ih =>
    rw [List.cons_append, nestingFrom_quiet (h c List.mem_cons_self)]
    exact ih fun c hc => h c (List.mem_cons_of_mem _ hc)

theorem nests_of_all {t : List Char} (h : t.all (fun c => decide (IsQuiet c)) = true) : Nests t 0 :=
  nests_quiet fun c hc => of_decide_eq_true (List.all_eq_true.mp h c hc)

theorem nests_string {t : List Char} {s : Text} (h : IsString t s) : Nests t 0 := by
  refine nests_zero fun k rest => ?_
  rw [nestingFrom, outer_string h, deepest, if_neg (by decide), if_neg (by decide)]
  rfl

theorem nestingFrom_open {a : Char} (ha : a = '[' ∨ a = '{') (k : Nat) (rest : List Char) :
    nestingFrom k (a :: rest) = nestingFrom (k + 1) rest := by
  have hquote : a ≠ '"' := by rcases ha with rfl | rfl <;> decide
  rw [nestingFrom, outer_cons hquote, deepest, if_pos ha]
  rfl

theorem nestingFrom_close {z : Char} (hz : z = ']' ∨ z = '}') (k : Nat) (rest : List Char) :
    nestingFrom (k + 1) (z :: rest) = max (k + 1) (nestingFrom k rest) := by
  have hquote : z ≠ '"' := by rcases hz with rfl | rfl <;> decide
  have hopen : ¬(z = '[' ∨ z = '{') := by rcases hz with rfl | rfl <;> decide
  rw [nestingFrom, outer_cons hquote, deepest, if_neg hopen, if_pos hz]
  rfl

/-- Brackets around a text make it one level deeper. -/
theorem Nests.bracket {t : List Char} {d : Nat} {a z : Char} (ht : Nests t d)
    (ha : a = '[' ∨ a = '{') (hz : z = ']' ∨ z = '}') : Nests (a :: t ++ [z]) (d + 1) := by
  intro k rest
  have hle := le_nestingFrom k rest
  rw [List.append_assoc, List.cons_append, nestingFrom_open ha, ht, List.singleton_append,
    nestingFrom_close hz]
  omega

/-! ## Values -/

theorem nests_blanks {b : List Char} (h : IsBlanks b) : Nests b 0 := by
  refine nests_quiet fun c hc => ?_
  rcases h c hc with rfl | rfl | rfl | rfl <;> decide

theorem isQuiet_of_isDigit {c : Char} (h : c.isDigit) : IsQuiet c := by
  refine ⟨?_, ?_, ?_, ?_, ?_⟩ <;> rintro rfl <;> exact absurd h (by decide)

theorem nests_digits {ds : List Char} (h : IsDigits ds) : Nests ds 0 :=
  nests_quiet fun c hc => isQuiet_of_isDigit (h.2 c hc)

theorem nests_sign (negative : Bool) : Nests (sign negative) 0 := by
  cases negative <;> exact nests_of_all (by decide)

theorem nests_fraction {f after : List Char} (h : IsFraction f after) : Nests f 0 := by
  cases h with
  | none => exact nests_of_all (by decide)
  | some digits => exact (nests_of_all (t := ['.']) (by decide)).append (nests_digits digits)

theorem nests_exponent {e : List Char} {n : Int} (h : IsExponent e n) : Nests e 0 := by
  have hmark : ∀ {c : Char}, c = 'e' ∨ c = 'E' → Nests [c] 0 := by
    rintro c (rfl | rfl) <;> exact nests_of_all (by decide)
  cases h with
  | none => exact nests_of_all (by decide)
  | positive mark plus digits =>
    rcases plus with rfl | rfl
    · exact (hmark mark).append (nests_digits digits)
    · exact ((hmark mark).append (nests_of_all (t := ['+']) (by decide))).append
        (nests_digits digits)
  | negative mark digits =>
    exact ((hmark mark).append (nests_of_all (t := ['-']) (by decide))).append (nests_digits digits)

theorem nests_number {t : List Char} {v : Value} (h : IsNumber t v) : Nests t 0 := by
  cases h with
  | whole negative digits => exact (nests_sign negative).append (nests_digits digits.1)
  | real negative digits fraction exponent =>
    exact (((nests_sign negative).append (nests_digits digits.1)).append
      (nests_fraction fraction)).append (nests_exponent exponent)

theorem IsRow.nests {α : Type} {P : List Char → α → Nat → Prop} {t : List Char} {xs : List α}
    {d : Nat} (row : IsRow P t xs d) (hP : ∀ t x d, P t x d → Nests t d) : Nests t d := by
  induction row with
  | empty blanks => exact nests_blanks blanks
  | last before item after =>
    simpa using ((nests_blanks before).append (hP _ _ _ item)).append (nests_blanks after)
  | more before item after _ _ ih =>
    have hitem := ((nests_blanks before).append (hP _ _ _ item)).append (nests_blanks after)
    have hcomma := (nests_of_all (t := [',']) (by decide)).append ih
    simpa using hitem.append hcomma

theorem IsMember.nests {P : List Char → Value → Nat → Prop} {t : List Char} {m : Text × Value}
    {d : Nat} (member : IsMember P t m d) (hP : ∀ t v d, P t v d → Nests t d) : Nests t d := by
  obtain ⟨name, before, after, value⟩ := member
  have hname := (nests_string name).append (nests_blanks before)
  have hvalue := ((nests_of_all (t := [':']) (by decide)).append (nests_blanks after)).append
    (hP _ _ _ value)
  simpa using hname.append hvalue

/-- **A value nests as deep as it says**, and closes all it opens. -/
theorem IsValue.nests {t : List Char} {v : Value} {d : Nat} (h : IsValue t v d) : Nests t d := by
  refine h.induct (motive := fun t _ d => Nests t d) ?word ?number ?text ?list ?object
  case word =>
    intro t v h
    cases h <;> exact nests_of_all (by decide)
  case number => exact nests_number
  case text => exact nests_string
  case list =>
    intro t vs d row
    exact (row.nests fun _ _ _ h => h).bracket (.inl rfl) (.inl rfl)
  case object =>
    intro t ms d row
    exact (row.nests fun _ _ _ h => h.nests fun _ _ _ h => h).bracket (.inr rfl) (.inr rfl)

/-- A text that is JSON nests as deep as its value. -/
theorem IsJson.nesting_eq {t : List Char} {v : Value} {d : Nat} (h : IsJson t v d) :
    nesting t = d := by
  obtain ⟨before, value, after⟩ := h
  have hnests := ((nests_blanks before).append value.nests).append (nests_blanks after) 0 []
  simpa [nesting, nestingFrom, outer, outerFrom, deepest] using hnests

end Rendezvous.Json
