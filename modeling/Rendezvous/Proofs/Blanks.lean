import Mathlib.Data.List.DropRight
import Rendezvous.Text

/-!
# Texts without the blanks at their ends

What `Text.trim` leaves of a text, told without it: the text between blanks that neither begins nor
ends with one (`IsTrimmed`).  Every text has exactly one such part, whatever counts as a blank, so
the trimmed text can be used for the relation and the relation for the text (`trim_eq_iff`).
-/

namespace Rendezvous.Text

variable {blank : CodePoint → Bool} {t u : Text}

/-- A text that neither begins nor ends with a blank. -/
structure IsBare (blank : CodePoint → Bool) (u : Text) : Prop where
  /-- It does not begin with a blank. -/
  head : ∀ c ∈ u.head?, blank c = false
  /-- It does not end with a blank. -/
  last : ∀ c ∈ u.getLast?, blank c = false

instance (blank : CodePoint → Bool) (u : Text) : Decidable (IsBare blank u) :=
  decidable_of_iff (_ ∧ _) ⟨fun h => ⟨h.1, h.2⟩, fun h => ⟨h.head, h.last⟩⟩

/-- The part of a text between the blanks at its two ends. -/
inductive IsTrimmed (blank : CodePoint → Bool) : Text → Text → Prop
  | mk {before u after : Text} (front : ∀ c ∈ before, blank c) (bare : IsBare blank u)
      (back : ∀ c ∈ after, blank c) : IsTrimmed blank (before ++ u ++ after) u

theorem isBare_of_forall (h : ∀ c ∈ u, blank c = false) : IsBare blank u :=
  ⟨fun c hc => h c (List.mem_of_mem_head? hc), fun c hc => h c (List.mem_of_mem_getLast? hc)⟩

/-- A text without blanks at its ends is left as it is. -/
theorem IsBare.isTrimmed (h : IsBare blank u) : IsTrimmed blank u u := by
  have h' : IsTrimmed blank ([] ++ u ++ []) u := .mk nofun h nofun
  rwa [List.nil_append, List.append_nil] at h'

/-- A text that begins like one without blanks at its ends, and ends like another, has none. -/
theorem IsBare.append {w : Text} (hu : IsBare blank u) (hw : IsBare blank w) (hu' : u ≠ [])
    (hw' : w ≠ []) (t : Text) : IsBare blank (u ++ t ++ w) := by
  constructor
  · rw [List.append_assoc, List.head?_append_of_ne_nil _ hu']
    exact hu.head
  · rw [List.getLast?_append_of_ne_nil _ hw']
    exact hw.last

theorem IsTrimmed.mem_of_mem {c : CodePoint} (h : IsTrimmed blank t u) (hc : c ∈ u) : c ∈ t := by
  obtain ⟨-, -, -⟩ := h
  exact List.mem_append_left _ (List.mem_append_right _ hc)

/-! ## What `trim` leaves -/

theorem head?_dropWhile {c : CodePoint} (h : (t.dropWhile blank).head? = some c) :
    blank c = false := by
  have hnot := List.head?_dropWhile_not blank t
  rwa [h] at hnot

theorem dropWhile_of_head? (h : ∀ c ∈ t.head?, blank c = false) :
    t.dropWhile blank = t := by
  cases t with
  | nil => rfl
  | cons c r => exact List.dropWhile_cons_of_neg (Bool.not_eq_true _ ▸ h c rfl)

/-- Blanks are dropped up to a text that does not begin with one, if there is any. -/
theorem dropWhile_append {before : Text} (hfront : ∀ c ∈ before, blank c)
    (h : ∀ c ∈ t.head?, blank c = false) : (before ++ t).dropWhile blank = t := by
  rw [List.dropWhile_append_of_pos hfront, dropWhile_of_head? h]

theorem takeWhile_append {before : Text} (hfront : ∀ c ∈ before, blank c)
    (h : ∀ c ∈ t.head?, blank c = false) : (before ++ t).takeWhile blank = before := by
  have hsplit := List.takeWhile_append_dropWhile (p := blank) (l := before ++ t)
  rw [dropWhile_append hfront h] at hsplit
  exact List.append_cancel_right hsplit

theorem trim_eq_rdropWhile : trim blank t = (t.dropWhile blank).rdropWhile blank := rfl

theorem isBare_trim : IsBare blank (trim blank t) := by
  constructor
  · intro c hc
    -- what is left in the end begins like what is left after the blanks in front are dropped
    have hsplit := List.rdropWhile_append_rtakeWhile (p := blank) (l := t.dropWhile blank)
    have hhead : (t.dropWhile blank).head? = some c := by
      rw [← hsplit, ← trim_eq_rdropWhile, List.head?_append, hc, Option.some_or]
    exact head?_dropWhile hhead
  · intro c hc
    rw [Option.mem_def, trim, List.getLast?_reverse] at hc
    exact head?_dropWhile hc

/-- What is left of a text is the part between the blanks at its ends. -/
theorem isTrimmed_trim (blank : CodePoint → Bool) (t : Text) :
    IsTrimmed blank t (trim blank t) := by
  have hfront : ∀ c ∈ t.takeWhile blank, blank c := fun c => List.mem_takeWhile_imp
  have hback : ∀ c ∈ (t.dropWhile blank).rtakeWhile blank, blank c := fun c =>
    List.mem_rtakeWhile_imp
  have h : IsTrimmed blank _ (trim blank t) := .mk hfront isBare_trim hback
  rwa [trim_eq_rdropWhile, List.append_assoc, List.rdropWhile_append_rtakeWhile,
    List.takeWhile_append_dropWhile] at h

/-- **The trimmed text is the one part between blanks that has none at its ends.** -/
theorem trim_eq_iff : trim blank t = u ↔ IsTrimmed blank t u := by
  constructor
  · rintro rfl
    exact isTrimmed_trim blank t
  · rintro ⟨front, bare, back⟩
    rename_i before after
    have hlast : ∀ c ∈ u.reverse.head?, blank c = false := fun c hc =>
      bare.last c (List.getLast?_eq_head?_reverse.trans hc)
    have hback : ∀ c ∈ after.reverse, blank c := fun c hc => back c (List.mem_reverse.mp hc)
    cases u with
    | nil =>
      -- blanks only: they are all dropped from the front
      have hblank : ∀ c ∈ before ++ [] ++ after, blank c := by
        rw [List.append_nil]
        exact fun c hc => (List.mem_append.mp hc).elim (front c) (back c)
      rw [trim, List.dropWhile_eq_nil_iff.mpr hblank]
      rfl
    | cons c r =>
      have hhead : ∀ c' ∈ (c :: r ++ after).head?, blank c' = false := bare.head
      rw [trim, List.append_assoc, dropWhile_append front hhead, List.reverse_append,
        dropWhile_append hback hlast, List.reverse_reverse]

/-- The first character that is no blank is the first that is left. -/
theorem head?_trim {before : Text} {c : CodePoint} (hfront : ∀ c ∈ before, blank c)
    (hc : blank c = false) (r : Text) : (trim blank (before ++ c :: r)).head? = some c := by
  have hsplit := List.rdropWhile_append_rtakeWhile (p := blank) (l := c :: r)
  have hhead : ∀ c' ∈ (c :: r).head?, blank c' = false := by
    rintro _ ⟨⟩
    exact hc
  rw [trim_eq_rdropWhile, dropWhile_append hfront hhead]
  cases hleft : (c :: r).rdropWhile blank with
  | nil =>
    -- then the whole text would be taken away at the back
    rw [hleft, List.nil_append] at hsplit
    have hmem : c ∈ (c :: r).rtakeWhile blank := by
      rw [hsplit]
      exact List.mem_cons_self
    exact absurd (List.mem_rtakeWhile_imp hmem) (by simp [hc])
  | cons c' r' =>
    rw [hleft] at hsplit
    exact congrArg some (List.cons.inj hsplit).1

end Rendezvous.Text
