import Rendezvous.EnvFile

/-!
# The lines of a settings file

A line feed ends a line, and so does a carriage return, but the two in this order are one end and
not two; nothing else ends a line, and the last line needs no end.  `IsLines` says so without an
algorithm: it takes a text apart into plain lines and their ends.  Every text comes apart in exactly
one way, and `splitLines` finds it (`isLines_iff`).

The one place where a reader of lines could go wrong is a line feed behind a carriage return: a text
that is put together from lines may have one there by accident, if the line behind the carriage
return is empty.  Then two of its lines are read as one.
-/

namespace Rendezvous.EnvFile

variable {l r cs : List Char} {ls : List (List Char)} {c : Char}

/-! ## Texts and their lines -/

/-- A line holds nothing that ends a line. -/
def IsPlain (l : List Char) : Prop := '\r' ∉ l ∧ '\n' ∉ l

instance (l : List Char) : Decidable (IsPlain l) := inferInstanceAs (Decidable (_ ∧ _))

/-- The characters that end a line before `r`. -/
inductive IsEnd : List Char → List Char → Prop
  | lineFeed {r : List Char} : IsEnd ['\n'] r
  | both {r : List Char} : IsEnd ['\r', '\n'] r
  | carriageReturn {r : List Char} (alone : r.head? ≠ some '\n') : IsEnd ['\r'] r

/-- The lines of a text, the last of which has no end. -/
inductive IsLines : List Char → List (List Char) → Prop
  | last {l : List Char} (plain : IsPlain l) : IsLines l [l]
  | ended {l e r : List Char} {ls : List (List Char)} (plain : IsPlain l) (ending : IsEnd e r)
      (rest : IsLines r ls) : IsLines (l ++ e ++ r) (l :: ls)

theorem isPlain_nil : IsPlain [] := ⟨List.not_mem_nil, List.not_mem_nil⟩

theorem isPlain_cons : IsPlain (c :: l) ↔ (c ≠ '\r' ∧ c ≠ '\n') ∧ IsPlain l := by
  simp only [IsPlain, List.mem_cons, not_or, ne_comm]
  exact and_and_and_comm

theorem isPlain_append : IsPlain (l ++ r) ↔ IsPlain l ∧ IsPlain r := by
  simp only [IsPlain, List.mem_append, not_or]
  exact and_and_and_comm

/-- A character in front of a text is in front of its first line. -/
theorem IsLines.cons (hc : c ≠ '\r' ∧ c ≠ '\n') (h : IsLines r (l :: ls)) :
    IsLines (c :: r) ((c :: l) :: ls) := by
  cases h with
  | last plain => exact .last (isPlain_cons.mpr ⟨hc, plain⟩)
  | ended plain ending rest => exact .ended (isPlain_cons.mpr ⟨hc, plain⟩) ending rest

/-! ## The lines that are found -/

/-- All lines of a text, as characters. -/
def charLines (cs : List Char) : List (List Char) := (splitLines cs).1 ++ [(splitLines cs).2]

theorem allLines_eq (cs : List Char) : allLines cs = (charLines cs).map Text.ofChars := rfl

theorem splitLines_cons (hc : c ≠ '\r' ∧ c ≠ '\n') (r : List Char) :
    splitLines (c :: r) =
      match (splitLines r).1 with
      | [] => ([], c :: (splitLines r).2)
      | line :: lines => ((c :: line) :: lines, (splitLines r).2) := by
  rw [splitLines]
  · exact if_neg (by simp [hc])
  · exact fun _ hr => absurd hr hc.1

theorem charLines_cons (hc : c ≠ '\r' ∧ c ≠ '\n') (h : charLines r = l :: ls) :
    charLines (c :: r) = (c :: l) :: ls := by
  rw [charLines] at h ⊢
  rw [splitLines_cons hc]
  cases hlines : (splitLines r).1 with
  | nil =>
    rw [hlines, List.nil_append] at h
    obtain ⟨rfl, rfl⟩ := List.cons.inj h
    rfl
  | cons line lines =>
    rw [hlines, List.cons_append] at h
    obtain ⟨rfl, rfl⟩ := List.cons.inj h
    rfl

/-- An end in front of a text makes an empty line. -/
theorem charLines_end {e : List Char} (h : IsEnd e r) : charLines (e ++ r) = [] :: charLines r := by
  have hsplit : splitLines (e ++ r) = ([] :: (splitLines r).1, (splitLines r).2) := by
    cases h with
    | lineFeed =>
      show splitLines ('\n' :: r) = _
      rw [splitLines]
      · rfl
      · simp
    | both =>
      show splitLines ('\r' :: '\n' :: r) = _
      rw [splitLines]
    | carriageReturn alone =>
      show splitLines ('\r' :: r) = _
      rw [splitLines]
      · rfl
      · rintro r' - rfl
        exact alone rfl
  rw [charLines, hsplit]
  rfl

theorem charLines_plain (plain : IsPlain l) (h : charLines r = [] :: ls) :
    charLines (l ++ r) = l :: ls := by
  induction l with
  | nil => exact h
  | cons c l ih =>
    obtain ⟨hc, plain⟩ := isPlain_cons.mp plain
    exact charLines_cons hc (ih plain)

/-- A character that is in no line begins an end. -/
theorem exists_end (hc : ¬(c ≠ '\r' ∧ c ≠ '\n')) (r : List Char) :
    ∃ e rest, c :: r = e ++ rest ∧ IsEnd e rest ∧ rest.length ≤ r.length := by
  by_cases hfeed : c = '\n'
  · subst hfeed
    exact ⟨['\n'], r, rfl, .lineFeed, Nat.le_refl _⟩
  · obtain rfl : c = '\r' := Decidable.byContradiction fun h => hc ⟨h, hfeed⟩
    by_cases hhead : r.head? = some '\n'
    · obtain ⟨rest, rfl⟩ := List.head?_eq_some_iff.mp hhead
      exact ⟨['\r', '\n'], rest, rfl, .both, Nat.le_succ _⟩
    · exact ⟨['\r'], r, rfl, .carriageReturn hhead, Nat.le_refl _⟩

theorem exists_charLines (cs : List Char) : ∃ l ls, charLines cs = l :: ls :=
  List.exists_cons_of_ne_nil (List.append_ne_nil_of_right_ne_nil _ (List.cons_ne_nil _ _))

/-- The lines that are found are lines of the text. -/
theorem isLines_charLines (cs : List Char) : IsLines cs (charLines cs) := by
  match cs with
  | [] => exact .last isPlain_nil
  | c :: r =>
    by_cases hc : c ≠ '\r' ∧ c ≠ '\n'
    · obtain ⟨l, ls, hlines⟩ := exists_charLines r
      have ih := isLines_charLines r
      rw [hlines] at ih
      rw [charLines_cons hc hlines]
      exact ih.cons hc
    · obtain ⟨e, rest, hsplit, ending, hle⟩ := exists_end hc r
      have ih := isLines_charLines rest
      rw [hsplit, charLines_end ending]
      exact .ended isPlain_nil ending ih
termination_by cs.length

/-- **A text comes apart into lines in exactly one way**, and that is how it is read. -/
theorem isLines_iff : IsLines cs ls ↔ charLines cs = ls := by
  constructor
  · intro h
    induction h with
    | last plain =>
      have h := charLines_plain plain (r := []) rfl
      rwa [List.append_nil] at h
    | ended plain ending rest ih =>
      rw [List.append_assoc]
      exact charLines_plain plain (ih ▸ charLines_end ending)
  · rintro rfl
    exact isLines_charLines cs

end Rendezvous.EnvFile
