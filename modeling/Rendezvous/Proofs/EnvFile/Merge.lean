import Rendezvous.Proofs.Blanks
import Rendezvous.Proofs.Datagram
import Rendezvous.Proofs.EnvFile.Lines

/-!
# Which variables a settings file sets

The first definition of a variable wins, and the environment wins over all of them.  The loader does
not look for first definitions: it goes through the lines once, and skips a definition of what is
set by then.  As it sets variables on the way, the environment that it looks at grows, and an
earlier line hides a later one in the same way as the environment does.  What carries the proof is
therefore one step: to load lines is to load the first of them, and then the others into the
environment which that makes (`Loads.cons`).

A definition is told by how its line comes apart (`Defines`), and the lines by how the text comes
apart.

* `first_definition_wins`: for every environment and every text, what is set, to what, and where a
  variable that would hold a NUL ends the load.
-/

namespace Rendezvous.EnvFile

open Text

variable {line before after w v : Text} {d : Definition}

/-! ## What a line defines -/

/-- A text that is another one between two equal quotes. -/
def Encloses (w v : Text) : Prop := ∃ q, isQuote q ∧ w = q :: v ++ [q]

/-- A text without one pair of quotes around it, if it has one. -/
def IsUnquoted (w v : Text) : Prop := Encloses w v ∨ (∀ u, ¬Encloses w u) ∧ v = w

/-- A line defines a variable: without the blanks at its ends it is no comment, the name is what
    stands before the first equals sign, and the value is what stands behind it. -/
inductive Defines : Text → Definition → Prop
  | mk {line before after inner : Text} {d : Definition}
      (entry : IsTrimmed CodePoint.isLineBlank line (before ++ .ofChar '=' :: after))
      (uncommented : (before ++ .ofChar '=' :: after).head? ≠ some (.ofChar '#'))
      (first : .ofChar '=' ∉ before)
      (key : IsTrimmed CodePoint.isLineBlank before d.key) (named : d.key ≠ [])
      (value : IsTrimmed CodePoint.isLineBlank after inner)
      (unquoted : IsUnquoted inner d.value) : Defines line d

theorem unquote_of_encloses (h : Encloses w v) : unquote w = v := by
  obtain ⟨q, hq, rfl⟩ := h
  rw [List.cons_append, unquote, if_pos (by simp [hq]), List.dropLast_concat]

theorem unquote_eq_self (h : ∀ u, ¬Encloses w u) : unquote w = w := by
  cases w with
  | nil => rfl
  | cons q r =>
    rw [unquote, if_neg]
    intro hr
    rw [Bool.and_eq_true, decide_eq_true_eq] at hr
    obtain ⟨u, rfl⟩ := List.getLast?_eq_some_iff.mp hr.2
    exact h u ⟨q, hr.1, rfl⟩

theorem unquote_eq_iff : unquote w = v ↔ IsUnquoted w v := by
  constructor
  · rintro rfl
    by_cases h : ∃ u, Encloses w u
    · obtain ⟨u, hu⟩ := h
      rw [unquote_of_encloses hu]
      exact .inl hu
    · have hno : ∀ u, ¬Encloses w u := not_exists.mp h
      exact .inr ⟨hno, unquote_eq_self hno⟩
  · rintro (h | ⟨h, rfl⟩)
    · exact unquote_of_encloses h
    · exact unquote_eq_self h

/-- A text that has an equals sign comes apart in front of the first one. -/
theorem takeWhile_dropWhile_equals (h : .ofChar '=' ∉ before) (after : Text) :
    (before ++ .ofChar '=' :: after).takeWhile (· ≠ .ofChar '=') = before ∧
      (before ++ .ofChar '=' :: after).dropWhile (· ≠ .ofChar '=') = .ofChar '=' :: after := by
  have hbefore : ∀ c ∈ before, decide (c ≠ .ofChar '=') = true := fun c hc =>
    decide_eq_true fun heq => h (heq ▸ hc)
  have hequals : ∀ c ∈ (.ofChar '=' :: after : Text).head?, decide (c ≠ .ofChar '=') = false := by
    rintro c ⟨⟩
    exact decide_eq_false (not_not_intro rfl)
  exact ⟨takeWhile_append hbefore hequals, dropWhile_append hbefore hequals⟩

theorem stripped_eq_iff : stripped w = v ↔ IsTrimmed CodePoint.isLineBlank w v := trim_eq_iff

/-- The definition that is found on a line is one that it has. -/
theorem defines_of_ofLine? (h : Definition.ofLine? line = some d) : Defines line d := by
  have hentry : IsTrimmed CodePoint.isLineBlank line (stripped line) := stripped_eq_iff.mp rfl
  simp only [Definition.ofLine?] at h
  generalize stripped line = entry at h hentry
  by_cases huncommented : entry.head? = some (.ofChar '#')
  · rw [if_pos huncommented] at h
    nomatch h
  · rw [if_neg huncommented] at h
    have hsplit := List.takeWhile_append_dropWhile (p := (· ≠ CodePoint.ofChar '=')) (l := entry)
    have hfirst : .ofChar '=' ∉ entry.takeWhile (· ≠ CodePoint.ofChar '=') := fun hmem => by
      simpa using List.mem_takeWhile_imp hmem
    cases hdrop : entry.dropWhile (· ≠ CodePoint.ofChar '=') with
    | nil =>
      rw [hdrop] at h
      nomatch h
    | cons c after =>
      obtain rfl : c = .ofChar '=' := by
        have hnot := List.head?_dropWhile_not (· ≠ CodePoint.ofChar '=') entry
        rw [hdrop] at hnot
        simpa using hnot
      rw [hdrop] at h hsplit
      simp only at h
      split at h
      · nomatch h
      · next hnamed =>
        cases h
        rw [← hsplit] at hentry huncommented
        exact .mk hentry huncommented hfirst (stripped_eq_iff.mp rfl) (by simpa using hnamed)
          (stripped_eq_iff.mp rfl) (unquote_eq_iff.mp rfl)

/-- The definition that a line has is found on it. -/
theorem Defines.ofLine?_eq (h : Defines line d) : Definition.ofLine? line = some d := by
  cases h with
  | mk entry uncommented first key named value unquoted =>
    obtain ⟨htake, hdrop⟩ := takeWhile_dropWhile_equals first _
    rw [← stripped_eq_iff] at entry key value
    rw [← unquote_eq_iff] at unquoted
    simp only [Definition.ofLine?]
    rw [entry, if_neg uncommented, hdrop, htake, key]
    exact (if_neg (by simpa using named)).trans (by rw [value, unquoted])

/-- **The definition that is found on a line is the one that it has.** -/
theorem ofLine?_eq_some_iff : Definition.ofLine? line = some d ↔ Defines line d :=
  ⟨defines_of_ofLine?, Defines.ofLine?_eq⟩

/-- A line has one definition at most. -/
theorem Defines.unique {d' : Definition} (h : Defines line d) (h' : Defines line d') : d = d' :=
  Option.some.inj (h.ofLine?_eq.symm.trans h'.ofLine?_eq)

/-! ## What lines set -/

variable {env env' : Environment} {lines : List Text} {k : Text}

/-- A variable that a line may still set: neither the environment nor an earlier line has it. -/
def Unset (env : Environment) (earlier : List Text) (k : Text) : Prop :=
  env.get? k = none ∧ ∀ l ∈ earlier, ∀ v, ¬Defines l ⟨k, v⟩

/-- The value of a variable after lines: what the environment has, or else what the first line has
    that defines it. -/
def Holds (env : Environment) (lines : List Text) (k v : Text) : Prop :=
  env.get? k = some v ∨ ∃ earlier line later,
    lines = earlier ++ line :: later ∧ Unset env earlier k ∧ Defines line ⟨k, v⟩

/-- The environment that lines make of another one. -/
def Merges (env : Environment) (lines : List Text) (env' : Environment) : Prop :=
  ∀ k v, env'.get? k = some v ↔ Holds env lines k v

/-- A line that is about to set a variable while its name or its value holds a NUL. -/
def Halts (env : Environment) (earlier : List Text) (line : Text) : Prop :=
  ∃ d, Defines line d ∧ Unset env earlier d.key ∧
    (.ofChar '\x00' ∈ d.key ∨ .ofChar '\x00' ∈ d.value)

/-- No line is about to set a variable to something with a NUL. -/
def Clean (env : Environment) (lines : List Text) : Prop :=
  ∀ earlier line later, lines = earlier ++ line :: later → ¬Halts env earlier line

/-- What it means to load lines into an environment: all of them, or those before the first that the
    environment cannot hold. -/
inductive Loads (env : Environment) (lines : List Text) : Environment × Option Fault → Prop
  | all {env' : Environment} (clean : Clean env lines) (merges : Merges env lines env') :
      Loads env lines (env', none)
  | halted {earlier later : List Text} {line : Text} {env' : Environment}
      (split : lines = earlier ++ line :: later) (clean : Clean env earlier)
      (halts : Halts env earlier line) (merges : Merges env earlier env') :
      Loads env lines (env', some .holdsNul)

/-! ### One line -/

theorem holdsNul_iff :
    d.holdsNul = true ↔ .ofChar '\x00' ∈ d.key ∨ .ofChar '\x00' ∈ d.value := by
  rw [Definition.holdsNul, Bool.or_eq_true, List.contains_iff_mem, List.contains_iff_mem]

theorem unset_nil : Unset env [] k ↔ env.get? k = none :=
  and_iff_left nofun

theorem holds_singleton :
    Holds env [line] k v ↔ env.get? k = some v ∨ env.get? k = none ∧ Defines line ⟨k, v⟩ := by
  refine or_congr_right ⟨?_, fun ⟨hnone, hdef⟩ => ⟨[], line, [], rfl, unset_nil.mpr hnone, hdef⟩⟩
  rintro ⟨earlier, l, later, hsplit, hunset, hdef⟩
  cases earlier with
  | nil =>
    obtain ⟨rfl, -⟩ := List.cons.inj hsplit
    exact ⟨hunset.1, hdef⟩
  | cons first earlier => exact absurd (List.cons.inj hsplit).2 (by simp)

/-- A line that defines nothing, or only what is set, sets nothing. -/
theorem merges_self (h : ∀ d, Defines line d → env.get? d.key ≠ none) : Merges env [line] env := by
  intro k v
  rw [holds_singleton]
  refine (or_iff_left ?_).symm
  rintro ⟨hnone, hdef⟩
  exact h ⟨k, v⟩ hdef hnone

/-- A line that defines what is not set sets it. -/
theorem merges_insert (hdef : Defines line d) (hunset : env.get? d.key = none) :
    Merges env [line] (env.insert d.key d.value) := by
  intro k v
  rw [holds_singleton, Table.get?_insert]
  by_cases hk : d.key = k
  · subst hk
    simp only [if_true, hunset, Option.some.injEq, reduceCtorEq, false_or, true_and]
    constructor
    · rintro rfl
      exact hdef
    · intro hdef'
      exact congrArg Definition.value (hdef.unique hdef')
  · rw [if_neg hk]
    refine (or_iff_left ?_).symm
    rintro ⟨-, hdef'⟩
    exact hk (congrArg Definition.key (hdef.unique hdef'))

/-! ### One line and those behind it -/

/-- What is unset behind a line is unset in the environment that the line makes. -/
theorem unset_cons (h : Merges env [line] env') {earlier : List Text} :
    Unset env (line :: earlier) k ↔ Unset env' earlier k := by
  have hnone : env'.get? k = none ↔ env.get? k = none ∧ ∀ v, ¬Defines line ⟨k, v⟩ := by
    simp only [Option.eq_none_iff_forall_ne_some, ne_eq, h k, holds_singleton, not_or, not_and,
      forall_and]
    refine and_congr_right fun hunset => ?_
    simp [hunset]
  rw [Unset, Unset, hnone, List.forall_mem_cons, and_assoc]

theorem holds_cons (h : Merges env [line] env') :
    Holds env (line :: lines) k v ↔ Holds env' lines k v := by
  constructor
  · rintro (hset | ⟨earlier, l, later, hsplit, hunset, hdef⟩)
    · exact .inl ((h k v).mpr (.inl hset))
    · cases earlier with
      | nil =>
        obtain ⟨rfl, rfl⟩ := List.cons.inj hsplit
        exact .inl ((h k v).mpr (holds_singleton.mpr (.inr ⟨hunset.1, hdef⟩)))
      | cons first earlier =>
        obtain ⟨rfl, rfl⟩ := List.cons.inj hsplit
        exact .inr ⟨earlier, l, later, rfl, (unset_cons h).mp hunset, hdef⟩
  · rintro (hset | ⟨earlier, l, later, rfl, hunset, hdef⟩)
    · rcases holds_singleton.mp ((h k v).mp hset) with hset | ⟨hnone, hdef⟩
      · exact .inl hset
      · exact .inr ⟨[], line, lines, rfl, unset_nil.mpr hnone, hdef⟩
    · exact .inr ⟨line :: earlier, l, later, rfl, (unset_cons h).mpr hunset, hdef⟩

theorem Merges.cons {env'' : Environment} (h : Merges env [line] env')
    (hrest : Merges env' lines env'') : Merges env (line :: lines) env'' := fun k v =>
  (hrest k v).trans (holds_cons h).symm

theorem Clean.cons (h : Merges env [line] env') (hline : ¬Halts env [] line)
    (hrest : Clean env' lines) : Clean env (line :: lines) := by
  rintro earlier l later hsplit ⟨d, hdef, hunset, hnul⟩
  cases earlier with
  | nil =>
    obtain ⟨rfl, rfl⟩ := List.cons.inj hsplit
    exact hline ⟨d, hdef, hunset, hnul⟩
  | cons first earlier =>
    obtain ⟨rfl, rfl⟩ := List.cons.inj hsplit
    exact hrest earlier l later rfl ⟨d, hdef, (unset_cons h).mp hunset, hnul⟩

/-- To load lines is to load the first, and the others into the environment that it makes. -/
theorem Loads.cons {r : Environment × Option Fault} (h : Merges env [line] env')
    (hline : ¬Halts env [] line) (hrest : Loads env' lines r) : Loads env (line :: lines) r := by
  cases hrest with
  | all clean merges => exact .all (clean.cons h hline) (h.cons merges)
  | halted split clean halts merges =>
    obtain ⟨d, hdef, hunset, hnul⟩ := halts
    exact .halted (by rw [split, List.cons_append]) (clean.cons h hline)
      ⟨d, hdef, (unset_cons h).mpr hunset, hnul⟩ (h.cons merges)

/-! ### All lines -/

theorem clean_nil (env : Environment) : Clean env [] := fun _ _ _ hsplit =>
  absurd hsplit (by simp)

theorem merges_nil (env : Environment) : Merges env [] env := by
  intro k v
  refine (or_iff_left ?_).symm
  rintro ⟨earlier, l, later, hsplit, -⟩
  exact absurd hsplit (by simp)

/-- A line that defines nothing, or only what is set, is passed over. -/
theorem Loads.skip {r : Environment × Option Fault}
    (h : ∀ d, Defines line d → env.get? d.key ≠ none) (hrest : Loads env lines r) :
    Loads env (line :: lines) r := by
  refine .cons (merges_self h) ?_ hrest
  rintro ⟨d, hdef, hunset, -⟩
  exact h d hdef hunset.1

/-- A line that defines what is not set sets it, unless there is a NUL. -/
theorem Loads.set {r : Environment × Option Fault} (hdef : Defines line d)
    (hunset : env.get? d.key = none) (hnul : ¬d.holdsNul)
    (hrest : Loads (env.insert d.key d.value) lines r) : Loads env (line :: lines) r := by
  refine .cons (merges_insert hdef hunset) ?_ hrest
  rintro ⟨d', hdef', -, hnul'⟩
  rw [← holdsNul_iff, hdef'.unique hdef] at hnul'
  exact hnul hnul'

/-- With a NUL it ends the load. -/
theorem Loads.halt (hdef : Defines line d) (hunset : env.get? d.key = none) (hnul : d.holdsNul) :
    Loads env (line :: lines) (env, some .holdsNul) :=
  .halted rfl (clean_nil env) ⟨d, hdef, unset_nil.mpr hunset, holdsNul_iff.mp hnul⟩ (merges_nil env)

/-- Lines are loaded one after another. -/
theorem loads_defineLines (env : Environment) (lines : List Text) :
    Loads env lines (defineLines env lines) := by
  induction lines generalizing env with
  | nil => exact .all (clean_nil env) (merges_nil env)
  | cons line lines ih =>
    rw [defineLines]
    cases hfound : Definition.ofLine? line with
    | none =>
      rw [List.filterMap_cons_none hfound]
      refine .skip (fun d hdef => ?_) (ih env)
      rw [hdef.ofLine?_eq] at hfound
      nomatch hfound
    | some d =>
      have hdef := ofLine?_eq_some_iff.mp hfound
      rw [List.filterMap_cons_some hfound, define, Table.contains]
      cases hset : env.get? d.key with
      | some v =>
        rw [Option.isSome_some, if_pos rfl]
        refine .skip (fun d' hdef' => ?_) (ih env)
        rw [hdef'.unique hdef, hset]
        exact Option.some_ne_none v
      | none =>
        rw [Option.isSome_none, if_neg Bool.false_ne_true]
        by_cases hnul : d.holdsNul
        · rw [if_pos hnul]
          exact .halt hdef hset hnul
        · rw [if_neg hnul]
          exact .set hdef hset hnul (ih _)

/-- What loads of a file that has a text are the lines of the text. -/
theorem load_utf8Encode (env : Environment) (cs : List Char) :
    load env cs.utf8Encode = defineLines env (allLines cs) := by
  have hread : String.fromUTF8? cs.utf8Encode = some (String.ofList cs) := by
    rw [fromUTF8?_eq_some_iff, String.toList_ofList]
  rw [load, hread]
  show defineLines env (allLines (String.ofList cs).toList) = _
  rw [String.toList_ofList]

/-- **The first definition of a variable wins, and the environment wins over all.**  Every text
    comes apart into lines in exactly one way.  To load the file with that text into an environment
    leaves every variable of the environment as it is, gives each other one the value of the first
    line that defines it, and adds no other; unless a line is about to set a variable while its name
    or its value holds a NUL, in which case the load ends with that fault, and the environment is
    the one that the lines before make. -/
theorem first_definition_wins (env : Environment) (cs : List Char) :
    ∃ lines, (∀ ls, IsLines cs ls ↔ ls = lines) ∧
      Loads env (lines.map Text.ofChars) (load env cs.utf8Encode) := by
  refine ⟨charLines cs, fun ls => isLines_iff.trans eq_comm, ?_⟩
  rw [load_utf8Encode, allLines_eq]
  exact loads_defineLines env _

end Rendezvous.EnvFile
