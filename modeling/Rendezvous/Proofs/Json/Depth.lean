import Rendezvous.Proofs.Json.Reading

/-!
# Texts that are too deep

A bracket that opens one level too many stops the reader at once, whatever stands behind it.  So the
texts that are `tooDeep` are not those of some depth: most of them are no JSON at all.  They are the
texts that begin like JSON and then open so many lists and objects within one another (`Dives`),
each behind some items of the last that are finished (`IsStart`).

The reader of values is too deep exactly on these (`readValue_tooDeep_iff`).  Of the items in front
nothing new is to be proved: those that were read stand there (`Sound`), and those that stand there
are read (`Found`).

* `read_tooDeep_iff`: exactly these texts are too deep;
* `IsValue.dives`: among them are the values that are nested beyond the limit.
-/

namespace Rendezvous.Json

/-! ## Texts that dive -/

section Row

variable {α : Type}

/-- The front of a row: finished items that are not nested too deep, each with a comma behind it. -/
inductive IsStart (P : List Char → α → Nat → Prop) (n : Nat) : List Char → Prop
  | none {b : List Char} (blanks : IsBlanks b) : IsStart P n b
  | item {b t c s : List Char} {x : α} {d : Nat} (before : IsBlanks b) (item : P t x d)
      (shallow : d ≤ n) (after : IsBlanks c) (rest : IsStart P n s) :
      IsStart P n (b ++ t ++ c ++ ',' :: s)

/-- A row that begins well and goes on with something else. -/
def InRow (P : List Char → α → Nat → Prop) (n : Nat) (D : List Char → Prop) (cs : List Char) :
    Prop :=
  ∃ s t, cs = s ++ t ∧ IsStart P n s ∧ D t

/-- A member of an object that goes on with something else than a value. -/
inductive InMember (D : List Char → Prop) : List Char → Prop
  | mk {k b c t : List Char} {key : Text} (name : IsString k key) (before : IsBlanks b)
      (after : IsBlanks c) (value : D t) : InMember D (k ++ b ++ ':' :: c ++ t)

end Row

/-- A text that opens one more than `n` lists and objects within one another, and in front of each
    is as JSON has to be. -/
inductive Dives : Nat → List Char → Prop
  | here {a : Char} {r : List Char} (bracket : a = '[' ∨ a = '{') : Dives 0 (a :: r)
  | list {n : Nat} {s t : List Char} (start : IsStart IsValue n s) (deeper : Dives n t) :
      Dives (n + 1) ('[' :: (s ++ t))
  | object {n : Nat} {s k b c t : List Char} {key : Text} (start : IsStart (IsMember IsValue) n s)
      (name : IsString k key) (before : IsBlanks b) (after : IsBlanks c) (deeper : Dives n t) :
      Dives (n + 1) ('{' :: (s ++ (k ++ b ++ ':' :: c ++ t)))

theorem Dives.opens {n : Nat} {t : List Char} (h : Dives n t) : Opens t := by
  cases h with
  | here bracket => exact ⟨_, _, rfl, by rcases bracket with rfl | rfl <;> decide⟩
  | list => exact ⟨'[', _, rfl, by decide⟩
  | object => exact ⟨'{', _, rfl, by decide⟩

theorem InMember.opens {D : List Char → Prop} {t : List Char} (h : InMember D t) : Opens t := by
  obtain ⟨name, -, -, -⟩ := h
  rw [List.append_assoc, List.append_assoc]
  exact name.opens.append _

/-- Opening brackets alone are enough. -/
theorem dives_replicate (n : Nat) (r : List Char) : Dives n (List.replicate (n + 1) '[' ++ r) := by
  induction n with
  | zero => exact .here (.inl rfl)
  | succ n ih => exact .list (s := []) (.none (List.forall_mem_nil _)) ih

/-! ## Rows -/

section Row

variable {α : Type} {read : List Char → Except Fault (α × List Char)}
  {P : List Char → α → Nat → Prop} {D : List Char → Prop} {n : Nat} {close : Char}
  {cs s t : List Char}

theorem IsStart.blanks_append {b : List Char} (start : IsStart P n s) (hb : IsBlanks b) :
    IsStart P n (b ++ s) := by
  cases start with
  | none blanks => exact .none (hb.append blanks)
  | item before item shallow after rest =>
    rw [← List.append_assoc, ← List.append_assoc, ← List.append_assoc]
    exact .item (hb.append before) item shallow after rest

/-- What stands at the front of a row that begins well is no blank and no bracket that closes. -/
theorem IsStart.opens (start : IsStart P n s) (hP : ∀ t x d, P t x d → Opens t) (ht : Opens t) :
    Opens (skipBlanks (s ++ t)) := by
  cases start with
  | none blanks =>
    rw [ht.skipBlanks_eq blanks]
    exact ht
  | item before item =>
    have hopens := hP _ _ _ item
    simp only [List.append_assoc]
    rw [hopens.skipBlanks_append before]
    exact hopens.append _

/-- Items that are too deep begin well. -/
theorem inRow_of_readItems (hsound : Sound read P n)
    (hdeep : ∀ cs, read cs = .error .tooDeep → D cs) {fuel : Nat}
    (h : readItems read close fuel cs = .error .tooDeep) : InRow P n D cs := by
  induction fuel generalizing cs with
  | zero => cases h
  | succ fuel ih =>
    rw [readItems] at h
    rcases bind_eq_error_iff.mp h with hitem | ⟨⟨x, r⟩, hx, hmore⟩
    · exact ⟨[], cs, rfl, .none (List.forall_mem_nil _), hdeep cs hitem⟩
    · obtain ⟨u, d, rfl, item, hd⟩ := hsound _ _ _ hx
      obtain ⟨b, after, hr⟩ := exists_blanks r
      simp only at hmore
      split at hmore
      · cases hmore
      · next c r' hskip =>
        split at hmore
        · cases hmore
        · split at hmore
          · next hc =>
            subst hc
            rcases bind_eq_error_iff.mp hmore with hrest | ⟨_, _, hdone⟩
            · obtain ⟨s, t, hst, start, ht⟩ := ih hrest
              obtain ⟨b', before, hr'⟩ := exists_blanks r'
              rw [hr, hskip, hr', hst]
              refine ⟨[] ++ u ++ b ++ ',' :: (b' ++ s), t, by simp, ?_, ht⟩
              exact .item (List.forall_mem_nil _) item hd after (start.blanks_append before)
            · cases hdone
          · cases hmore

/-- Items that begin well are too deep if what follows is. -/
theorem readItems_of_isStart (hfound : Found read P n) (hclose : IsClosing close)
    (ht : Opens t) (hdeep : read t = .error .tooDeep) (start : IsStart P n s) {fuel : Nat}
    (hfuel : (skipBlanks (s ++ t)).length ≤ fuel) :
    readItems read close fuel (skipBlanks (s ++ t)) = .error .tooDeep := by
  have hpos := (start.opens hfound.opens ht).length_pos
  have hcomma : ',' ≠ close := by rcases hclose with rfl | rfl <;> decide
  induction start generalizing fuel with
  | none blanks =>
    obtain ⟨fuel, rfl⟩ : ∃ m, fuel = m + 1 := ⟨fuel - 1, by omega⟩
    rw [ht.skipBlanks_eq blanks, readItems]
    exact bind_eq_error_iff.mpr (.inl hdeep)
  | @item b u c s x d before item shallow after rest ih =>
    obtain ⟨fuel, rfl⟩ : ∃ m, fuel = m + 1 := ⟨fuel - 1, by omega⟩
    have hopens := hfound.opens u x d item
    have hskip : skipBlanks (b ++ u ++ c ++ ',' :: s ++ t) = u ++ (c ++ ',' :: (s ++ t)) := by
      simp only [List.append_assoc, List.cons_append]
      exact hopens.skipBlanks_append before _
    have hstops : Stops (c ++ ',' :: (s ++ t)) :=
      stops_blanks_append after (stops_cons (by decide) _)
    have hbehind : skipBlanks (c ++ ',' :: (s ++ t)) = ',' :: (s ++ t) :=
      (skipBlanks_append after _).trans (skipBlanks_cons (by decide) _)
    have hlength : (skipBlanks (s ++ t)).length ≤ fuel := by
      have hle : (skipBlanks (s ++ t)).length ≤ (s ++ t).length :=
        (List.dropWhile_sublist _).length_le
      have hitem := hopens.length_pos
      rw [hskip, List.length_append, List.length_append, List.length_cons] at hfuel
      omega
    rw [hskip, readItems]
    refine bind_eq_error_iff.mpr (.inr ⟨_, hfound.read u x d _ item shallow hstops, ?_⟩)
    simp only [hbehind, if_neg hcomma, if_true]
    exact bind_eq_error_iff.mpr
      (.inl (ih hlength (rest.opens hfound.opens ht).length_pos))

/-- **A row is too deep exactly if it begins well and goes on too deep.** -/
theorem readBracketed_tooDeep_iff (hsound : Sound read P n) (hfound : Found read P n)
    (hclose : IsClosing close) (hopens : ∀ t, D t → Opens t)
    (hdeep : ∀ cs, read cs = .error .tooDeep ↔ D cs) :
    readBracketed read close cs = .error .tooDeep ↔ InRow P n D cs := by
  rw [readBracketed]
  constructor
  · intro h
    obtain ⟨b, before, hcs⟩ := exists_blanks cs
    split at h
    · cases h
    · next c r hskip =>
      split at h
      · cases h
      · obtain ⟨s, t, hst, start, ht⟩ := inRow_of_readItems hsound (fun cs => (hdeep cs).mp) h
        rw [hcs, hskip, hst, ← List.append_assoc]
        exact ⟨b ++ s, t, rfl, start.blanks_append before, ht⟩
  · rintro ⟨s, t, rfl, start, ht⟩
    have hitems := readItems_of_isStart hfound hclose (hopens t ht) ((hdeep t).mpr ht) start
      (Nat.le_refl _)
    obtain ⟨c, r, hskip, -, hlist, hobject⟩ := start.opens hfound.opens (hopens t ht)
    have hc : c ≠ close := by rcases hclose with rfl | rfl <;> assumption
    rw [hskip] at hitems ⊢
    exact (if_neg hc).trans hitems

end Row

/-! ## Members -/

theorem readText_ne_tooDeep (cs : List Char) : readText cs ≠ .error .tooDeep := by
  rw [readText]
  split <;> (intro h; cases h)

/-- A member is too deep exactly if its value is. -/
theorem readMember_tooDeep_iff {value : List Char → Except Fault (Value × List Char)}
    {D : List Char → Prop} {cs : List Char} (hopens : ∀ t, D t → Opens t)
    (hdeep : ∀ cs, value cs = .error .tooDeep ↔ D cs) :
    readMember value cs = .error .tooDeep ↔ InMember D cs := by
  constructor
  · intro h
    rw [readMember.eq_def] at h
    split at h
    · next r =>
      rcases bind_eq_error_iff.mp h with hname | ⟨⟨key, r'⟩, hkey, hmember⟩
      · exact absurd hname (readText_ne_tooDeep r)
      · obtain ⟨k, hk, name⟩ := readText_eq_ok_iff.mp hkey
        obtain ⟨b, before, hr'⟩ := exists_blanks r'
        simp only at hmember
        split at hmember
        · next r'' hskip =>
          obtain ⟨c, after, hr''⟩ := exists_blanks r''
          rcases bind_eq_error_iff.mp hmember with hvalue | ⟨_, _, hdone⟩
          · rw [hk, hr', hskip, hr'']
            have hin : InMember D (k ++ b ++ ':' :: c ++ skipBlanks r'') :=
              .mk name before after ((hdeep _).mp hvalue)
            simpa using hin
          · cases hdone
        · cases hmember
    · cases h
  · rintro ⟨name, before, after, ht⟩
    rename_i k b c t key
    obtain ⟨k, rfl⟩ := name.exists_cons
    have hname := readText_append name (b ++ ':' :: (c ++ t))
    have hcolon : skipBlanks (b ++ ':' :: (c ++ t)) = ':' :: (c ++ t) :=
      (skipBlanks_append before _).trans (skipBlanks_cons (by decide) _)
    simp only [List.append_assoc, List.cons_append]
    rw [readMember]
    refine bind_eq_error_iff.mpr (.inr ⟨_, hname, ?_⟩)
    simp only [hcolon, (hopens t ht).skipBlanks_eq after]
    exact bind_eq_error_iff.mpr (.inl ((hdeep t).mpr ht))

/-! ## Values -/

theorem readFlat_tooDeep_iff {cs : List Char} :
    readFlat cs = .error .tooDeep ↔ ∃ a r, cs = a :: r ∧ (a = '[' ∨ a = '{') := by
  constructor
  · intro h
    rw [readFlat.eq_def] at h
    split at h
    · rcases bind_eq_error_iff.mp h with htext | ⟨_, _, hdone⟩
      · exact absurd htext (readText_ne_tooDeep _)
      · cases hdone
    · exact ⟨_, _, rfl, .inl rfl⟩
    · exact ⟨_, _, rfl, .inr rfl⟩
    · split at h
      · cases h
      · exact absurd h (readNumber_ne_tooDeep _)
  · rintro ⟨a, r, rfl, rfl | rfl⟩ <;> rfl

/-- **Exactly a text that dives is too deep.** -/
theorem readValue_tooDeep_iff (n : Nat) (cs : List Char) :
    readValue n cs = .error .tooDeep ↔ Dives n cs := by
  induction n generalizing cs with
  | zero =>
    rw [readValue, readFlat_tooDeep_iff]
    constructor
    · rintro ⟨a, r, rfl, bracket⟩
      exact .here bracket
    · rintro ⟨bracket⟩
      exact ⟨_, _, rfl, bracket⟩
  | succ n ih =>
    have hlist : ∀ r, readBracketed (readValue n) ']' r = .error .tooDeep ↔
        InRow IsValue n (Dives n) r := fun r =>
      readBracketed_tooDeep_iff (sound_readValue n) (found_readValue n) (.inl rfl)
        (fun _ h => h.opens) ih
    have hobject : ∀ r, readBracketed (readMember (readValue n)) '}' r = .error .tooDeep ↔
        InRow (IsMember IsValue) n (InMember (Dives n)) r := fun r =>
      readBracketed_tooDeep_iff (sound_readValue n).member (found_readValue n).member (.inr rfl)
        (fun _ h => h.opens) fun cs => readMember_tooDeep_iff (fun _ h => h.opens) ih
    constructor
    · intro h
      rw [readValue.eq_def] at h
      simp only at h
      split at h
      · rcases bind_eq_error_iff.mp h with hrow | ⟨_, _, hdone⟩
        · obtain ⟨s, t, rfl, start, deeper⟩ := (hlist _).mp hrow
          exact .list start deeper
        · cases hdone
      · rcases bind_eq_error_iff.mp h with hrow | ⟨_, _, hdone⟩
        · obtain ⟨s, _, rfl, start, ⟨name, before, after, deeper⟩⟩ := (hobject _).mp hrow
          exact .object start name before after deeper
        · cases hdone
      · next hnolist hnoobject =>
        obtain ⟨a, r, rfl, rfl | rfl⟩ := readFlat_tooDeep_iff.mp h
        · exact absurd rfl (hnolist r)
        · exact absurd rfl (hnoobject r)
    · intro h
      cases h with
      | list start deeper =>
        rw [readValue, (hlist _).mpr ⟨_, _, rfl, start, deeper⟩]
        rfl
      | object start name before after deeper =>
        rw [readValue, (hobject _).mpr ⟨_, _, rfl, start, .mk name before after deeper⟩]
        rfl

/-- **Exactly the texts that dive beyond the limit, behind blanks, are too deep.** -/
theorem read_tooDeep_iff {limit : DepthLimit} {cs : List Char} :
    read limit cs = .error .tooDeep ↔
      ∃ b t, cs = b ++ t ∧ IsBlanks b ∧ Dives limit.levels t := by
  constructor
  · intro h
    obtain ⟨b, before, hcs⟩ := exists_blanks cs
    rcases bind_eq_error_iff.mp h with hvalue | ⟨⟨v, rest⟩, -, hend⟩
    · exact ⟨b, skipBlanks cs, hcs, before, (readValue_tooDeep_iff _ _).mp hvalue⟩
    · simp only at hend
      split at hend <;> cases hend
  · rintro ⟨b, t, rfl, before, deep⟩
    rw [read, deep.opens.skipBlanks_eq before]
    exact bind_eq_error_iff.mpr (.inl ((readValue_tooDeep_iff _ _).mpr deep))

/-! ## Values that are nested too deep -/

/-- A row with an item that is nested too deep goes on, from the first such item, too deep. -/
theorem IsRow.inRow {α : Type} {P : List Char → α → Nat → Prop} {D : List Char → Prop}
    {t : List Char} {xs : List α} {n d : Nat} (row : IsRow P t xs d) (hd : n < d)
    (hD : ∀ t x d rest, P t x d → n < d → D (t ++ rest)) (rest : List Char) :
    InRow P n D (t ++ rest) := by
  induction row with
  | empty => exact absurd hd (Nat.not_lt_zero n)
  | @last b t c x d before item after =>
    exact ⟨b, t ++ (c ++ rest), by simp, .none before, hD t x d _ item hd⟩
  | @more b t c r x xs d e before item after _ _ ih =>
    by_cases hitem : n < d
    · exact ⟨b, t ++ (c ++ ',' :: r ++ rest), by simp, .none before, hD t x d _ item hitem⟩
    · obtain ⟨s, u, hsu, start, hu⟩ := ih (by omega)
      refine ⟨b ++ t ++ c ++ ',' :: s, u, ?_, .item before item (by omega) after start, hu⟩
      simp only [List.append_assoc, List.cons_append, hsu]

theorem IsMember.inMember {P : List Char → Value → Nat → Prop} {D : List Char → Prop}
    {t : List Char} {m : Text × Value} {n d : Nat} (member : IsMember P t m d) (hd : n < d)
    (hD : ∀ t v d rest, P t v d → n < d → D (t ++ rest)) (rest : List Char) :
    InMember D (t ++ rest) := by
  obtain ⟨name, before, after, value⟩ := member
  rename_i k b c t key v
  have hin : InMember D (k ++ b ++ ':' :: c ++ (t ++ rest)) :=
    .mk name before after (hD t v d rest value hd)
  simpa using hin

/-- A value that is nested too deep dives, whatever stands behind it. -/
theorem IsValue.dives {t : List Char} {v : Value} {n d : Nat} (h : IsValue t v d) (hd : n < d)
    (rest : List Char) : Dives n (t ++ rest) := by
  induction n generalizing t v d rest with
  | zero =>
    cases h with
    | word | number | text => exact absurd hd (Nat.lt_irrefl 0)
    | list => exact .here (.inl rfl)
    | object => exact .here (.inr rfl)
  | succ n ih =>
    cases h with
    | word | number | text => exact absurd hd (Nat.not_lt_zero _)
    | list row =>
      have hvalue : ∀ t v d rest, IsValue t v d → n < d → Dives n (t ++ rest) :=
        fun _ _ _ rest value hlt => ih value hlt rest
      obtain ⟨s, u, hsu, start, deeper⟩ :=
        row.inRow (Nat.lt_of_succ_lt_succ hd) hvalue (']' :: rest)
      simp only [List.cons_append, List.append_assoc, List.nil_append, hsu]
      exact .list start deeper
    | object row =>
      have hmember : ∀ t m d rest, IsMember IsValue t m d → n < d →
          InMember (Dives n) (t ++ rest) := fun _ _ _ rest member hlt =>
        member.inMember hlt (fun _ _ _ rest value hlt => ih value hlt rest) rest
      obtain ⟨s, _, hsu, start, ⟨name, before, after, deeper⟩⟩ :=
        row.inRow (Nat.lt_of_succ_lt_succ hd) hmember ('}' :: rest)
      simp only [List.cons_append, List.append_assoc, List.nil_append] at hsu ⊢
      rw [hsu]
      simpa using Dives.object start name before after deeper

/-! ## Brackets -/

/-- The front of a row closes all it opens. -/
theorem IsStart.nests {α : Type} {P : List Char → α → Nat → Prop} {n : Nat} {s : List Char}
    (start : IsStart P n s) (hP : ∀ t x d, P t x d → Nests t d) : ∃ d, Nests s d := by
  induction start with
  | none blanks => exact ⟨0, nests_blanks blanks⟩
  | item before item _ after _ ih =>
    obtain ⟨e, hrest⟩ := ih
    have hitem := ((nests_blanks before).append (hP _ _ _ item)).append (nests_blanks after)
    have hcomma := (nests_of_all (t := [',']) (by decide)).append hrest
    exact ⟨_, by simpa using hitem.append hcomma⟩

/-- What stands behind closed brackets nests no deeper than all. -/
theorem Nests.le_append {s : List Char} {d : Nat} (h : Nests s d) (k : Nat) (t : List Char) :
    nestingFrom k t ≤ nestingFrom k (s ++ t) := by
  rw [h]
  exact Nat.le_max_right ..

/-- A text that dives opens all the brackets it should. -/
theorem Dives.lt_nestingFrom {n : Nat} {t : List Char} (h : Dives n t) (k : Nat) :
    k + n < nestingFrom k t := by
  induction h generalizing k with
  | @here a r bracket =>
    rw [nestingFrom_open bracket]
    exact le_nestingFrom (k + 1) r
  | @list n s t start _ ih =>
    obtain ⟨d, hstart⟩ := start.nests fun _ _ _ h => h.nests
    have hdeep := ih (k + 1)
    have hle := hstart.le_append (k + 1) t
    rw [nestingFrom_open (.inl rfl)]
    omega
  | @object n s x b c t key start name before after _ ih =>
    obtain ⟨d, hstart⟩ := start.nests fun _ _ _ h => h.nests fun _ _ _ h => h.nests
    have hname := ((nests_string name).append (nests_blanks before)).append
      ((nests_of_all (t := [':']) (by decide)).append (nests_blanks after))
    have hdeep := ih (k + 1)
    have hle := (hstart.append hname).le_append (k + 1) t
    rw [nestingFrom_open (.inr rfl)]
    simp only [List.append_assoc, List.cons_append, List.nil_append] at hle ⊢
    omega

/-- So a text that is too deep is nested too deep, whether it is JSON or not. -/
theorem Dives.lt_nesting {n : Nat} {b t : List Char} (h : Dives n t) (before : IsBlanks b) :
    n < nesting (b ++ t) := by
  have hdeep := h.lt_nestingFrom 0
  have hle := (nests_blanks before).le_append 0 t
  rw [nesting]
  omega

end Rendezvous.Json
