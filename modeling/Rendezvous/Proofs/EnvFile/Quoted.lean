import Mathlib.Data.List.Nodup
import Rendezvous.Proofs.EnvFile.Merge

/-!
# Quoted settings are read back

A file that was written as `KEY="VALUE"`, a line for each variable, gives each variable its value,
whatever that is: the quotes keep its blanks from being taken away, and only the outermost pair is
taken off, so that a value may itself be quoted or consist of quotes.  Other lines may stand
between, as long as they set nothing.

Written lines and lines that are read are not the same lines.  Behind a line that was ended by a
carriage return, an empty one that was ended by a line feed is not seen at all, since the two ends
are read as one.  But an empty line defines nothing, so the definitions are the same, and it is they
that are followed through the file (`definitions_ended`).

* `quoted_settings_round_trip`: for every written file.
-/

namespace Rendezvous.EnvFile

open Text

/-! ## What is written -/

/-- A variable and its value, as they can be written on a line. -/
structure Binding where
  /-- The name. -/
  key : List Char
  /-- The value. -/
  value : List Char
  key_ne_nil : key ≠ [] := by decide
  key_plain : IsPlain key := by decide
  key_noEquals : '=' ∉ key := by decide
  key_noNul : '\x00' ∉ key := by decide
  key_uncommented : key.head? ≠ some '#' := by decide
  key_bare : IsBare CodePoint.isLineBlank (ofChars key) := by decide
  value_plain : IsPlain value := by decide
  value_noNul : '\x00' ∉ value := by decide

/-- What a binding defines. -/
def Binding.definition (b : Binding) : Definition := ⟨ofChars b.key, ofChars b.value⟩

/-- The line of a binding, with quotes around the value. -/
def Binding.line (b : Binding) (q : Char) : List Char := b.key ++ '=' :: q :: b.value ++ [q]

/-- A line that sets nothing: it is blank, or a comment, or has no equals sign. -/
inductive IsIdle : List Char → Prop
  | blank {l : List Char} (blank : ∀ c ∈ ofChars l, c.isLineBlank) : IsIdle l
  | comment {before l : List Char} (front : ∀ c ∈ ofChars before, c.isLineBlank) :
      IsIdle (before ++ '#' :: l)
  | noEquals {l : List Char} (no : '=' ∉ l) : IsIdle l

/-- What is written on one line: a binding in single or double quotes, or nothing. -/
inductive IsWrittenLine : List Char → List Binding → Prop
  | binding (b : Binding) {q : Char} (quote : q = '"' ∨ q = '\'') : IsWrittenLine (b.line q) [b]
  | idle {l : List Char} (plain : IsPlain l) (idle : IsIdle l) : IsWrittenLine l []

/-- The three ends of a line. -/
def lineEnds : List (List Char) := [['\n'], ['\r', '\n'], ['\r']]

/-- A file in which bindings are written line by line, each line with an end, but for the last,
    which may be empty. -/
inductive IsWritten : List Char → List Binding → Prop
  | last {l : List Char} {bs : List Binding} (line : IsWrittenLine l bs) : IsWritten l bs
  | ended {l e rest : List Char} {bs later : List Binding} (line : IsWrittenLine l bs)
      (ending : e ∈ lineEnds) (written : IsWritten rest later) :
      IsWritten (l ++ e ++ rest) (bs ++ later)

/-! ## The definitions of a text -/

variable {l r e : List Char} {q : Char} {bs : List Binding}

/-- The definitions on the lines of a text. -/
def definitions (cs : List Char) : List Definition := (allLines cs).filterMap Definition.ofLine?

theorem definitions_of_charLines {ls : List (List Char)} (h : charLines r = l :: ls) :
    definitions r = (Definition.ofLine? (ofChars l)).toList ++
      (ls.map ofChars).filterMap Definition.ofLine? := by
  rw [definitions, allLines_eq, h, List.map_cons]
  cases hd : Definition.ofLine? (ofChars l) with
  | none => rw [List.filterMap_cons_none hd]; rfl
  | some d => rw [List.filterMap_cons_some hd]; rfl

/-- An empty line has no definition. -/
theorem definitions_end (ending : IsEnd e r) : definitions (e ++ r) = definitions r := by
  rw [definitions_of_charLines (charLines_end ending)]
  rfl

/-- A line that was ended has its definition, and what was written behind it has the others. -/
theorem definitions_ended (plain : IsPlain l) (ending : e ∈ lineEnds) :
    definitions (l ++ e ++ r) = (Definition.ofLine? (ofChars l)).toList ++ definitions r := by
  have hends : ∀ {e r}, IsEnd e r →
      definitions (l ++ e ++ r) = (Definition.ofLine? (ofChars l)).toList ++ definitions r := by
    intro e r h
    rw [List.append_assoc, definitions_of_charLines (charLines_plain plain (charLines_end h))]
    rfl
  simp only [lineEnds, List.mem_cons, List.not_mem_nil, or_false] at ending
  rcases ending with rfl | rfl | rfl
  · exact hends .lineFeed
  · exact hends .both
  · by_cases hhead : r.head? = some '\n'
    · -- the line feed belongs to the end, so the empty line behind it is not seen
      obtain ⟨rest, rfl⟩ := List.head?_eq_some_iff.mp hhead
      have hseen : l ++ ['\r'] ++ '\n' :: rest = l ++ ['\r', '\n'] ++ rest := by simp
      have hempty : definitions ('\n' :: rest) = definitions rest := definitions_end .lineFeed
      rw [hseen, hends .both, hempty]
    · exact hends (.carriageReturn hhead)

theorem definitions_last (plain : IsPlain l) :
    definitions l = (Definition.ofLine? (ofChars l)).toList := by
  have h : charLines l = [l] := isLines_iff.mp (.last plain)
  rw [definitions_of_charLines h, List.map_nil, List.filterMap_nil, List.append_nil]

/-! ## Written lines -/

theorem mem_ofChars {c : Char} : CodePoint.ofChar c ∈ ofChars l ↔ c ∈ l := by
  simp [ofChars, CodePoint.ofChar_inj]

theorem ofChars_append_cons (l r : List Char) (c : Char) :
    ofChars (l ++ c :: r) = ofChars l ++ .ofChar c :: ofChars r := List.map_append

/-- A line that sets nothing has no definition. -/
theorem ofLine?_of_isIdle (h : IsIdle l) : Definition.ofLine? (ofChars l) = none := by
  rw [Option.eq_none_iff_forall_ne_some]
  intro d hd
  obtain ⟨entry, uncommented⟩ := ofLine?_eq_some_iff.mp hd
  have hequals : .ofChar '=' ∈ ofChars l := entry.mem_of_mem (by simp)
  cases h with
  | blank blank => exact absurd (blank _ hequals) (by decide)
  | @comment before rest front =>
    rw [ofChars_append_cons, ← trim_eq_iff] at entry
    have hhead := head?_trim front (by decide : (CodePoint.ofChar '#').isLineBlank = false)
      (ofChars rest)
    rw [entry] at hhead
    exact uncommented hhead
  | noEquals no => exact no (mem_ofChars.mp hequals)

/-- A text in quotes has no blanks at its ends, whatever it is. -/
theorem isBare_quoted (quote : q = '"' ∨ q = '\'') (v : Text) :
    IsBare CodePoint.isLineBlank (.ofChar q :: v ++ [.ofChar q]) := by
  have hq : IsBare CodePoint.isLineBlank [.ofChar q] := by
    rcases quote with rfl | rfl <;> decide
  exact hq.append hq (List.cons_ne_nil _ _) (List.cons_ne_nil _ _) v

/-- A binding is defined by its line. -/
theorem ofLine?_line (b : Binding) (quote : q = '"' ∨ q = '\'') :
    Definition.ofLine? (ofChars (b.line q)) = some b.definition := by
  have hquote : isQuote (.ofChar q) := by
    rcases quote with rfl | rfl <;> decide
  have hline : ofChars (b.line q) =
      ofChars b.key ++ .ofChar '=' :: (.ofChar q :: ofChars b.value ++ [.ofChar q]) := by
    simp [Binding.line, ofChars]
  have hname : ofChars b.key ≠ [] := mt List.map_eq_nil_iff.mp b.key_ne_nil
  have hfirst : .ofChar '=' ∉ ofChars b.key := mt mem_ofChars.mp b.key_noEquals
  have hvalue := isBare_quoted quote (ofChars b.value)
  have hbare := b.key_bare.append hvalue hname (List.cons_ne_nil _ _) [.ofChar '=']
  rw [List.append_assoc] at hbare
  have huncommented : (ofChars b.key).head? ≠ some (.ofChar '#') := by
    rw [ofChars, List.head?_map]
    intro hhead
    obtain ⟨c, hc, hsame⟩ := Option.map_eq_some_iff.mp hhead
    rw [CodePoint.ofChar_inj] at hsame
    exact b.key_uncommented (hsame ▸ hc)
  rw [ofLine?_eq_some_iff, hline]
  refine .mk hbare.isTrimmed ?_ hfirst b.key_bare.isTrimmed hname hvalue.isTrimmed
    (.inl ⟨_, hquote, rfl⟩)
  rwa [List.head?_append_of_ne_nil _ hname]

theorem isPlain_line (b : Binding) (quote : q = '"' ∨ q = '\'') : IsPlain (b.line q) := by
  have hq : q ≠ '\r' ∧ q ≠ '\n' := by
    rcases quote with rfl | rfl <;> decide
  rw [Binding.line, isPlain_append, isPlain_append, isPlain_cons, isPlain_cons, isPlain_cons]
  exact ⟨⟨b.key_plain, by decide, hq, b.value_plain⟩, hq, isPlain_nil⟩

theorem IsWrittenLine.isPlain (h : IsWrittenLine l bs) : IsPlain l := by
  cases h with
  | binding b quote => exact isPlain_line b quote
  | idle plain => exact plain

theorem IsWrittenLine.ofLine?_toList (h : IsWrittenLine l bs) :
    (Definition.ofLine? (ofChars l)).toList = bs.map Binding.definition := by
  cases h with
  | binding b quote => rw [ofLine?_line b quote]; rfl
  | idle plain idle => rw [ofLine?_of_isIdle idle]; rfl

/-- The definitions of a written file are those of its bindings. -/
theorem IsWritten.definitions_eq {file : List Char} (h : IsWritten file bs) :
    definitions file = bs.map Binding.definition := by
  induction h with
  | last line => rw [definitions_last line.isPlain, line.ofLine?_toList]
  | ended line ending written ih =>
    rw [definitions_ended line.isPlain ending, line.ofLine?_toList, ih, List.map_append]

/-! ## Loading -/

/-- Definitions of variables that are not set, each of another, are all added, in their order. -/
theorem define_fresh {env : Environment} {ds : List Definition}
    (distinct : (ds.map Definition.key).Nodup) (absent : ∀ d ∈ ds, env.get? d.key = none)
    (clean : ∀ d ∈ ds, d.holdsNul = false) :
    (define env ds).2 = none ∧
      (define env ds).1.entries = env.entries ++ ds.map fun d => (d.key, d.value) := by
  induction ds generalizing env with
  | nil => exact ⟨rfl, (List.append_nil _).symm⟩
  | cons d ds ih =>
    rw [List.forall_mem_cons] at absent clean
    obtain ⟨hfresh, hdistinct⟩ := List.nodup_cons.mp distinct
    have habsent : ∀ d' ∈ ds, (env.insert d.key d.value).get? d'.key = none := by
      intro d' hd'
      have hne : d.key ≠ d'.key := fun heq => hfresh (heq ▸ List.mem_map_of_mem hd')
      rw [Table.get?_insert, if_neg hne]
      exact absent.2 d' hd'
    have hset : env.contains d.key = false := by
      rw [Table.contains, absent.1]
      rfl
    have hentries : (env.insert d.key d.value).entries = env.entries ++ [(d.key, d.value)] :=
      Entries.put_of_notMem d.value (Table.get?_eq_none_iff.mp absent.1)
    obtain ⟨hfault, hrest⟩ := ih hdistinct habsent clean.2
    rw [define, hset, clean.1]
    refine ⟨hfault, hrest.trans ?_⟩
    rw [hentries, List.append_assoc, List.map_cons]
    rfl

theorem Binding.holdsNul_definition (b : Binding) : b.definition.holdsNul = false := by
  rw [Bool.eq_false_iff, ne_eq, holdsNul_iff, definition, mem_ofChars, mem_ofChars, not_or]
  exact ⟨b.key_noNul, b.value_noNul⟩

theorem ofChars_injective : Function.Injective ofChars :=
  List.map_injective_iff.mpr fun _ _ => CodePoint.ofChar_inj.mp

/-- **Quoted settings are read back.**  Let bindings of different variables be written to a file,
    each on a line of its own and in single or double quotes, the lines ended in any of the three
    ways, with lines between them that set nothing.  To load the file into an environment that has
    none of these variables adds exactly the bindings, in their order, and changes nothing else. -/
theorem quoted_settings_round_trip (env : Environment) {bs : List Binding} {file : List Char}
    (written : IsWritten file bs) (distinct : (bs.map Binding.key).Nodup)
    (absent : ∀ b ∈ bs, env.get? (ofChars b.key) = none) :
    (load env file.utf8Encode).2 = none ∧
      (load env file.utf8Encode).1.entries =
        env.entries ++ bs.map fun b => (ofChars b.key, ofChars b.value) := by
  have hdefined : load env file.utf8Encode = define env (bs.map Binding.definition) := by
    rw [load_utf8Encode, defineLines, ← written.definitions_eq]
    rfl
  have hdistinct : ((bs.map Binding.definition).map Definition.key).Nodup := by
    have h := distinct.map ofChars_injective
    rwa [List.map_map] at h ⊢
  have hfresh := define_fresh hdistinct (List.forall_mem_map.mpr absent)
    (List.forall_mem_map.mpr fun b _ => b.holdsNul_definition)
  rwa [← hdefined, List.map_map] at hfresh

/-- A variable whose value is a quote. -/
def aQuote : Binding where
  key := ['A']
  value := ['"']

/-- A variable whose value has all that a reader of lines could stumble over. -/
def stumbling : Binding where
  key := ['B', ' ', 'C']
  value := ['\'', ' ', '=', '#', '\u2028', ' ']

/-- An empty line behind a carriage return is not seen, and a comment is not heeded. -/
theorem stumbling_read_back :
    let env : Environment := Table.ofList [("HOME", "/")]
    let file := "A=\"\"\"\r\n # A=1\r\nB C='' =#\u2028 '".toList
    IsWritten file [aQuote, stumbling] ∧ (load env file.utf8Encode).2 = none ∧
      (load env file.utf8Encode).1.entries =
        ([("HOME", "/"), ("A", "\""), ("B C", "' =#\u2028 ")] : List (Text × Text)) := by
  intro env file
  have hcomment : IsIdle " # A=1".toList := @IsIdle.comment [' '] " A=1".toList (by decide)
  have hwritten : IsWritten file [aQuote, stumbling] :=
    .ended (.binding aQuote (.inl rfl)) (by decide : ['\r'] ∈ lineEnds)
      (.ended (.idle (by decide) (.noEquals (by decide : '=' ∉ []))) (by decide : ['\n'] ∈ lineEnds)
        (.ended (.idle (by decide) hcomment) (by decide : ['\r', '\n'] ∈ lineEnds)
          (.last (.binding stumbling (.inr rfl)))))
  exact ⟨hwritten, quoted_settings_round_trip env hwritten (by decide) (by decide)⟩

end Rendezvous.EnvFile
