import Rendezvous.Proofs.Json.Strings
import Rendezvous.Proofs.Json.Numbers
import Rendezvous.Proofs.Json.Nesting

/-!
# Reading values

The reader and the grammar meet here: `read_eq_ok_iff` says that a text is read exactly if it is
JSON and not nested beyond the limit, and then as its value.

The reader is made of parts that read something from the front of a text, and each direction is a
property of such a part that passes from items to rows and from values to members.  What a part
reads stands there (`Sound`), and what stands there is found (`Found`).
-/

namespace Rendezvous.Json

/-! ## Blanks -/

theorem isBlank_iff {c : Char} :
    isBlank c = true ↔ c = ' ' ∨ c = '\t' ∨ c = '\n' ∨ c = '\r' := by
  simp [isBlank, or_assoc]

theorem isBlanks_iff {b : List Char} : IsBlanks b ↔ ∀ c ∈ b, isBlank c = true := by
  simp only [IsBlanks, isBlank_iff]

theorem IsBlanks.append {b c : List Char} (hb : IsBlanks b) (hc : IsBlanks c) :
    IsBlanks (b ++ c) := fun x hx =>
  (List.mem_append.mp hx).elim (hb x) (hc x)

theorem exists_blanks (cs : List Char) : ∃ b, IsBlanks b ∧ cs = b ++ skipBlanks cs :=
  ⟨cs.takeWhile isBlank, isBlanks_iff.mpr (List.all_eq_true.mp List.all_takeWhile),
    List.takeWhile_append_dropWhile.symm⟩

theorem skipBlanks_append {b : List Char} (h : IsBlanks b) (cs : List Char) :
    skipBlanks (b ++ cs) = skipBlanks cs :=
  List.dropWhile_append_of_pos (isBlanks_iff.mp h)

theorem skipBlanks_cons {c : Char} (h : isBlank c = false) (cs : List Char) :
    skipBlanks (c :: cs) = c :: cs :=
  List.dropWhile_cons_of_neg (by simp [h])

/-! ## Words -/

theorem readWord?_eq_some_iff {cs rest : List Char} {v : Value} :
    readWord? cs = some (v, rest) ↔ ∃ t, cs = t ++ rest ∧ IsWord t v := by
  constructor
  · intro h
    rw [readWord?.eq_def] at h
    split at h
    · cases h
      exact ⟨_, rfl, .null⟩
    · cases h
      exact ⟨_, rfl, .true⟩
    · cases h
      exact ⟨_, rfl, .false⟩
    · cases h
      exact ⟨_, rfl, .nan⟩
    · cases h
      exact ⟨_, rfl, .infinity⟩
    · cases h
      exact ⟨_, rfl, .minusInfinity⟩
    · nomatch h
  · rintro ⟨t, rfl, h⟩
    cases h <;> rfl

theorem IsNumber.exists_digit {t : List Char} {v : Value} (h : IsNumber t v) :
    ∃ negative c r, t = sign negative ++ c :: r ∧ c.isDigit := by
  cases h with
  | whole negative digits =>
    obtain ⟨c, r, rfl, hc⟩ := digits.1.exists_cons
    exact ⟨negative, c, r, rfl, hc⟩
  | real negative digits =>
    obtain ⟨c, r, rfl, hc⟩ := digits.1.exists_cons
    exact ⟨negative, c, _, by simp only [List.append_assoc, List.cons_append]; rfl, hc⟩

/-- No word begins as a number does. -/
theorem readWord?_of_digit {c : Char} (hc : c.isDigit) (negative : Bool) (r : List Char) :
    readWord? (sign negative ++ c :: r) = none := by
  cases h : readWord? (sign negative ++ c :: r) with
  | none => rfl
  | some found =>
    obtain ⟨v, rest⟩ := found
    obtain ⟨t, ht, word⟩ := readWord?_eq_some_iff.mp h
    cases negative with
    | true => cases word <;> simp_all [sign]
    | false => cases word <;> simp_all [sign]

/-! ## What is read stands there -/

section Sound

variable {α : Type}

/-- Whatever is read from the front of a text stands there, not too deep. -/
def Sound (read : List Char → Except Fault (α × List Char)) (P : List Char → α → Nat → Prop)
    (n : Nat) : Prop :=
  ∀ cs rest x, read cs = .ok (x, rest) → ∃ t d, cs = t ++ rest ∧ P t x d ∧ d ≤ n

variable {read : List Char → Except Fault (α × List Char)} {P : List Char → α → Nat → Prop}
  {n : Nat} {close : Char} {cs rest : List Char} {xs : List α}

theorem IsRow.blanks_append {t b : List Char} {d : Nat} (row : IsRow P t xs d)
    (hb : IsBlanks b) : IsRow P (b ++ t) xs d := by
  cases row with
  | empty blanks => exact .empty (hb.append blanks)
  | last before item after =>
    rw [← List.append_assoc, ← List.append_assoc]
    exact .last (hb.append before) item after
  | more before item after row further =>
    rw [← List.append_assoc, ← List.append_assoc, ← List.append_assoc]
    exact .more (hb.append before) item after row further

theorem Sound.items (hread : Sound read P n) {fuel : Nat}
    (h : readItems read close fuel cs = .ok (xs, rest)) :
    ∃ t d, cs = t ++ close :: rest ∧ IsRow P t xs d ∧ xs ≠ [] ∧ d ≤ n := by
  induction fuel generalizing cs xs with
  | zero => nomatch h
  | succ fuel ih =>
    rw [readItems] at h
    obtain ⟨⟨x, r⟩, hx, hmore⟩ := bind_eq_ok_iff.mp h
    obtain ⟨t, d, rfl, item, hd⟩ := hread _ _ _ hx
    obtain ⟨b, after, hr⟩ := exists_blanks r
    simp only at hmore
    split at hmore
    · nomatch hmore
    · next c r' hskip =>
      rw [hskip] at hr
      subst hr
      split at hmore
      · next hc =>
        subst hc
        cases hmore
        exact ⟨t ++ b, d, by simp, .last (b := []) nofun item after, List.cons_ne_nil _ _, hd⟩
      · split at hmore
        · next hc =>
          subst hc
          obtain ⟨⟨ys, r''⟩, hys, hxs⟩ := bind_eq_ok_iff.mp hmore
          cases hxs
          obtain ⟨u, e, hu, row, further, he⟩ := ih hys
          obtain ⟨b', before, hr'⟩ := exists_blanks r'
          rw [hu] at hr'
          subst hr'
          refine ⟨t ++ b ++ ',' :: (b' ++ u), max d e, by simp, ?_, List.cons_ne_nil _ _, by omega⟩
          exact .more (b := []) nofun item after (row.blanks_append before) further
        · nomatch hmore

theorem Sound.bracketed (hread : Sound read P n)
    (h : readBracketed read close cs = .ok (xs, rest)) :
    ∃ t d, cs = t ++ close :: rest ∧ IsRow P t xs d ∧ d ≤ n := by
  obtain ⟨b, before, hcs⟩ := exists_blanks cs
  rw [readBracketed] at h
  split at h
  · nomatch h
  · next c r hskip =>
    rw [hskip] at hcs
    subst hcs
    split at h
    · next hc =>
      subst hc
      cases h
      exact ⟨b, 0, rfl, .empty before, Nat.zero_le n⟩
    · obtain ⟨t, d, ht, row, -, hd⟩ := hread.items h
      exact ⟨b ++ t, d, by rw [ht, List.append_assoc], row.blanks_append before, hd⟩

theorem Sound.member {value : List Char → Except Fault (Value × List Char)}
    {P : List Char → Value → Nat → Prop} (hvalue : Sound value P n) :
    Sound (readMember value) (IsMember P) n := by
  intro cs rest m h
  rw [readMember.eq_def] at h
  split at h
  · next r =>
    obtain ⟨⟨key, r'⟩, hkey, hmember⟩ := bind_eq_ok_iff.mp h
    obtain ⟨k, hk, name⟩ := readText_eq_ok_iff.mp hkey
    obtain ⟨b, before, hr'⟩ := exists_blanks r'
    simp only at hmember
    split at hmember
    · next r'' hskip =>
      obtain ⟨⟨v, r'''⟩, hv, hm⟩ := bind_eq_ok_iff.mp hmember
      cases hm
      obtain ⟨c, after, hr''⟩ := exists_blanks r''
      obtain ⟨t, d, ht, value, hd⟩ := hvalue _ _ _ hv
      rw [ht] at hr''
      rw [hskip, hr''] at hr'
      exact ⟨k ++ b ++ ':' :: c ++ t, d, by rw [hk, hr']; simp, .mk name before after value, hd⟩
    · nomatch hmember
  · nomatch h

end Sound

theorem isValue_of_readFlat {cs rest : List Char} {v : Value}
    (h : readFlat cs = .ok (v, rest)) : ∃ t, cs = t ++ rest ∧ IsValue t v 0 := by
  rw [readFlat.eq_def] at h
  split at h
  · obtain ⟨⟨s, r⟩, hs, hv⟩ := bind_eq_ok_iff.mp h
    cases hv
    obtain ⟨t, ht, string⟩ := readText_eq_ok_iff.mp hs
    exact ⟨t, ht, .text string⟩
  · nomatch h
  · nomatch h
  · split at h
    · next hword =>
      cases h
      obtain ⟨t, rfl, word⟩ := readWord?_eq_some_iff.mp hword
      exact ⟨t, rfl, .word word⟩
    · obtain ⟨t, rfl, number⟩ := isNumber_of_readNumber h
      exact ⟨t, rfl, .number number⟩

/-- **A value that is read stands there**, nested no deeper than is read. -/
theorem sound_readValue (n : Nat) : Sound (readValue n) IsValue n := by
  have hflat : ∀ {n cs rest v}, readFlat cs = .ok (v, rest) →
      ∃ t d, cs = t ++ rest ∧ IsValue t v d ∧ d ≤ n := by
    intro n cs rest v h
    obtain ⟨t, rfl, value⟩ := isValue_of_readFlat h
    exact ⟨t, 0, rfl, value, Nat.zero_le n⟩
  induction n with
  | zero =>
    intro cs rest v h
    exact hflat h
  | succ n ih =>
    intro cs rest v h
    rw [readValue.eq_def] at h
    simp only at h
    split at h
    · obtain ⟨⟨vs, r⟩, hvs, hv⟩ := bind_eq_ok_iff.mp h
      cases hv
      obtain ⟨t, d, rfl, row, hd⟩ := ih.bracketed hvs
      exact ⟨'[' :: t ++ [']'], d + 1, by simp, .list row, Nat.succ_le_succ hd⟩
    · obtain ⟨⟨ms, r⟩, hms, hv⟩ := bind_eq_ok_iff.mp h
      cases hv
      obtain ⟨t, d, rfl, row, hd⟩ := ih.member.bracketed hms
      exact ⟨'{' :: t ++ ['}'], d + 1, by simp, .object row, Nat.succ_le_succ hd⟩
    · exact hflat h

/-! ## What stands there is read -/

/-- A text that starts neither with a blank nor with a closing bracket. -/
def Opens (t : List Char) : Prop := ∃ c r, t = c :: r ∧ isBlank c = false ∧ c ≠ ']' ∧ c ≠ '}'

theorem Opens.append {t : List Char} (h : Opens t) (rest : List Char) : Opens (t ++ rest) := by
  obtain ⟨c, r, rfl, hc⟩ := h
  exact ⟨c, r ++ rest, rfl, hc⟩

theorem Opens.length_pos {t : List Char} (h : Opens t) : 0 < t.length := by
  obtain ⟨c, r, rfl, -⟩ := h
  exact Nat.succ_pos _

/-- Behind the blanks stands what opens there... -/
theorem Opens.skipBlanks_eq {b t : List Char} (h : Opens t) (hb : IsBlanks b) :
    skipBlanks (b ++ t) = t := by
  obtain ⟨c, r, rfl, hblank, -⟩ := h
  rw [Json.skipBlanks_append hb, skipBlanks_cons hblank]

/-- ... with all that follows. -/
theorem Opens.skipBlanks_append {t b : List Char} (h : Opens t) (hb : IsBlanks b)
    (rest : List Char) : skipBlanks (b ++ (t ++ rest)) = t ++ rest :=
  (h.append rest).skipBlanks_eq hb

theorem IsString.opens {t : List Char} {s : Text} (h : IsString t s) : Opens t := by
  obtain ⟨r, rfl⟩ := h.exists_cons
  exact ⟨'"', r, rfl, by decide⟩

theorem IsNumber.opens {t : List Char} {v : Value} (h : IsNumber t v) : Opens t := by
  obtain ⟨negative, c, r, rfl, hc⟩ := h.exists_digit
  cases negative with
  | true => exact ⟨'-', c :: r, rfl, by decide⟩
  | false =>
    refine ⟨c, r, rfl, ?_, ?_, ?_⟩
    · rw [Bool.eq_false_iff, Ne, isBlank_iff]
      rintro (rfl | rfl | rfl | rfl) <;> exact absurd hc (by decide)
    · rintro rfl
      exact absurd hc (by decide)
    · rintro rfl
      exact absurd hc (by decide)

theorem IsValue.opens {t : List Char} {v : Value} {d : Nat} (h : IsValue t v d) : Opens t := by
  cases h with
  | word h => cases h <;> exact ⟨_, _, rfl, by decide⟩
  | number h => exact h.opens
  | text h => exact h.opens
  | list => exact ⟨'[', _, rfl, by decide⟩
  | object => exact ⟨'{', _, rfl, by decide⟩

theorem IsMember.opens {P : List Char → Value → Nat → Prop} {t : List Char} {m : Text × Value}
    {d : Nat} (h : IsMember P t m d) : Opens t := by
  obtain ⟨name, -, -, -⟩ := h
  rw [List.append_assoc, List.append_assoc]
  exact name.opens.append _

theorem stops_blanks_append {b rest : List Char} (hb : IsBlanks b) (hrest : Stops rest) :
    Stops (b ++ rest) := by
  cases b with
  | nil => exact hrest
  | cons c b =>
    intro c' hc'
    obtain rfl := Option.some.inj hc'
    rcases hb c List.mem_cons_self with rfl | rfl | rfl | rfl <;> decide

theorem stops_cons {c : Char} (h : ¬c.isDigit ∧ c ≠ '.' ∧ c ≠ 'e' ∧ c ≠ 'E') (rest : List Char) :
    Stops (c :: rest) := by
  intro c' hc'
  obtain rfl := Option.some.inj hc'
  exact h

/-- A bracket that closes a list or an object. -/
def IsClosing (c : Char) : Prop := c = ']' ∨ c = '}'

theorem IsClosing.stops {c : Char} (h : IsClosing c) (rest : List Char) : Stops (c :: rest) :=
  stops_cons (by rcases h with rfl | rfl <;> decide) rest

theorem IsClosing.skipBlanks_eq {c : Char} (h : IsClosing c) (rest : List Char) :
    skipBlanks (c :: rest) = c :: rest :=
  skipBlanks_cons (by rcases h with rfl | rfl <;> decide) rest

section Found

variable {α : Type}

/-- Whatever stands at the front of a text, not too deep, is read if nothing goes on behind it. -/
structure Found (read : List Char → Except Fault (α × List Char))
    (P : List Char → α → Nat → Prop) (n : Nat) : Prop where
  opens : ∀ t x d, P t x d → Opens t
  read : ∀ t x d rest, P t x d → d ≤ n → Stops rest → read (t ++ rest) = .ok (x, rest)

variable {read : List Char → Except Fault (α × List Char)} {P : List Char → α → Nat → Prop}
  {n d : Nat} {close : Char} {t : List Char} {xs : List α}

/-- At the front of a row stands an item, with the rest of the row behind it. -/
theorem IsRow.opens (row : IsRow P t xs d) (hP : ∀ t x d, P t x d → Opens t) (hne : xs ≠ [])
    (rest : List Char) : Opens (skipBlanks (t ++ rest)) := by
  cases row with
  | empty => exact absurd rfl hne
  | last before item | more before item =>
    have hopens := hP _ _ _ item
    simp only [List.append_assoc]
    rw [hopens.skipBlanks_append before]
    exact hopens.append _

/-- A row has no more items than characters, since no item is empty. -/
theorem IsRow.length_le (row : IsRow P t xs d) (hP : ∀ t x d, P t x d → Opens t)
    (rest : List Char) : xs.length ≤ (skipBlanks (t ++ rest)).length := by
  induction row with
  | empty => exact Nat.zero_le _
  | last before item =>
    have hopens := hP _ _ _ item
    have hpos := hopens.length_pos
    simp only [List.append_assoc]
    rw [hopens.skipBlanks_append before, List.length_append, List.length_singleton]
    omega
  | @more b t c r x xs d e before item after _ _ ih =>
    have hopens := hP t x d item
    have hpos := hopens.length_pos
    have hskip : (skipBlanks (r ++ rest)).length ≤ (r ++ rest).length :=
      (List.dropWhile_sublist _).length_le
    simp only [List.append_assoc, List.cons_append]
    rw [hopens.skipBlanks_append before]
    simp only [List.length_append, List.length_cons] at hskip ⊢
    omega

theorem Found.items (hread : Found read P n) (hclose : IsClosing close) {fuel : Nat}
    (row : IsRow P t xs d) (hne : xs ≠ []) (hd : d ≤ n) (hfuel : xs.length ≤ fuel)
    (rest : List Char) :
    readItems read close fuel (skipBlanks (t ++ close :: rest)) = .ok (xs, rest) := by
  have hcomma : ',' ≠ close := by rcases hclose with rfl | rfl <;> decide
  -- the input starts with the item, and what is behind that leaves it as it is
  have hitem : ∀ {b t x d r}, IsBlanks b → P t x d → d ≤ n → Stops r →
      read (skipBlanks (b ++ (t ++ r))) = .ok (x, r) := by
    intro b t x d r hb item hd hr
    rw [(hread.opens t x d item).skipBlanks_append hb]
    exact hread.read t x d r item hd hr
  induction row generalizing fuel with
  | empty => exact absurd rfl hne
  | @last b t c x d before item after =>
    obtain ⟨fuel, rfl⟩ : ∃ m, fuel = m + 1 := ⟨fuel - 1, by simp at hfuel; omega⟩
    simp only [List.append_assoc]
    rw [readItems]
    refine bind_eq_ok_iff.mpr ⟨(x, c ++ close :: rest),
      hitem before item hd (stops_blanks_append after (hclose.stops rest)), ?_⟩
    simp only [skipBlanks_append after, hclose.skipBlanks_eq, if_true]
    rfl
  | @more b t c r x xs d e before item after _ further ih =>
    obtain ⟨fuel, rfl⟩ : ∃ m, fuel = m + 1 := ⟨fuel - 1, by simp at hfuel; omega⟩
    have hstops : Stops (',' :: (r ++ close :: rest)) := stops_cons (by decide) _
    have hxs := ih further (by omega) (Nat.le_of_succ_le_succ hfuel)
    simp only [List.append_assoc, List.cons_append]
    have hskip : skipBlanks (',' :: (r ++ close :: rest)) = ',' :: (r ++ close :: rest) :=
      skipBlanks_cons (by decide) _
    rw [readItems]
    refine bind_eq_ok_iff.mpr ⟨(x, c ++ ',' :: (r ++ close :: rest)),
      hitem before item (by omega) (stops_blanks_append after hstops), ?_⟩
    simp only [skipBlanks_append after, hskip, if_neg hcomma, if_true, hxs]
    rfl

theorem Found.bracketed (hread : Found read P n) (hclose : IsClosing close)
    (row : IsRow P t xs d) (hd : d ≤ n) (rest : List Char) :
    readBracketed read close (t ++ close :: rest) = .ok (xs, rest) := by
  rw [readBracketed]
  by_cases hne : xs = []
  · subst hne
    obtain ⟨blanks⟩ := row
    rw [skipBlanks_append blanks, hclose.skipBlanks_eq]
    exact if_pos rfl
  · have hlength := row.length_le hread.opens (close :: rest)
    have hitems := hread.items hclose row hne hd hlength rest
    obtain ⟨c, r, hskip, -, hlist, hobject⟩ := row.opens hread.opens hne (close :: rest)
    have hc : c ≠ close := by rcases hclose with rfl | rfl <;> assumption
    rw [hskip] at hitems ⊢
    exact (if_neg hc).trans hitems

theorem Found.member {read : List Char → Except Fault (Value × List Char)}
    {P : List Char → Value → Nat → Prop} (hread : Found read P n) :
    Found (readMember read) (IsMember P) n where
  opens _ _ _ h := h.opens
  read := by
    intro t m d rest h hd hrest
    cases h with
    | @mk k b c t key v d name before after value =>
    obtain ⟨k, rfl⟩ := name.exists_cons
    have hname := readText_append name (b ++ ':' :: (c ++ (t ++ rest)))
    have hskip : skipBlanks (c ++ (t ++ rest)) = t ++ rest :=
      (hread.opens _ _ _ value).skipBlanks_append after rest
    have hcolon : skipBlanks (':' :: (c ++ (t ++ rest))) = ':' :: (c ++ (t ++ rest)) :=
      skipBlanks_cons (by decide) _
    simp only [List.append_assoc, List.cons_append]
    rw [readMember]
    refine bind_eq_ok_iff.mpr ⟨_, hname, ?_⟩
    simp only [skipBlanks_append before, hcolon]
    rw [hskip, hread.read _ _ _ _ value hd hrest]
    rfl

end Found

/-- Where no bracket opens, nothing is nested. -/
theorem readValue_eq_readFlat {cs : List Char} (h : ∀ c ∈ cs.head?, c ≠ '[' ∧ c ≠ '{') (n : Nat) :
    readValue n cs = readFlat cs := by
  cases n with
  | zero => rfl
  | succ n =>
    rw [readValue.eq_def]
    simp only
    split
    · exact absurd rfl (h _ rfl).1
    · exact absurd rfl (h _ rfl).2
    · rfl

theorem readFlat_of_digit {c : Char} (hc : c.isDigit) (negative : Bool) (r : List Char) :
    readFlat (sign negative ++ c :: r) = readNumber (sign negative ++ c :: r) := by
  rw [readFlat.eq_def]
  split
  · cases negative <;> simp_all [sign]
  · cases negative <;> simp_all [sign]
  · cases negative <;> simp_all [sign]
  · rw [readWord?_of_digit hc]

/-- A value that is neither list nor object is read. -/
theorem readValue_append {t rest : List Char} {v : Value} (h : IsValue t v 0)
    (hrest : Stops rest) (n : Nat) : readValue n (t ++ rest) = .ok (v, rest) := by
  cases h with
  | word h => cases h <;> exact readValue_eq_readFlat (by simp) n
  | number h =>
    obtain ⟨negative, c, r, rfl, hc⟩ := h.exists_digit
    have hfront : ∀ c' ∈ (sign negative ++ c :: r ++ rest).head?, c' ≠ '[' ∧ c' ≠ '{' := by
      intro c' hc'
      cases negative with
      | true =>
        obtain rfl := Option.some.inj hc'
        decide
      | false =>
        obtain rfl := Option.some.inj hc'
        exact ⟨(isQuiet_of_isDigit hc).2.1, (isQuiet_of_isDigit hc).2.2.1⟩
    rw [readValue_eq_readFlat hfront, ← readNumber_append h hrest]
    simp only [List.append_assoc, List.cons_append]
    exact readFlat_of_digit hc negative _
  | text h =>
    obtain ⟨r, rfl⟩ := h.exists_cons
    rw [List.cons_append, readValue_eq_readFlat (by simp), readFlat, readText_append h]
    rfl

/-- An object is read whatever stands behind it, as its bracket ends it. -/
theorem Found.readValue_object {t : List Char} {ms : Members} {n d : Nat}
    (hread : Found (readValue n) IsValue n) (row : IsRow (IsMember IsValue) t ms d) (hd : d ≤ n)
    (rest : List Char) :
    readValue (n + 1) ('{' :: (t ++ '}' :: rest)) = .ok (.object (Members.ofWritten ms), rest) := by
  rw [readValue, hread.member.bracketed (.inr rfl) row hd rest]
  rfl

/-- **A value that stands there is read**, if it is nested no deeper than is read. -/
theorem found_readValue (n : Nat) : Found (readValue n) IsValue n := by
  refine ⟨fun _ _ _ h => h.opens, ?_⟩
  induction n with
  | zero =>
    intro t v d rest h hd hrest
    obtain rfl := Nat.le_zero.mp hd
    exact readValue_append h hrest 0
  | succ n ih =>
    have found : Found (readValue n) IsValue n := ⟨fun _ _ _ h => h.opens, ih⟩
    intro t v d rest h hd hrest
    cases h with
    | word h => exact readValue_append (.word h) hrest _
    | number h => exact readValue_append (.number h) hrest _
    | text h => exact readValue_append (.text h) hrest _
    | list row =>
      have hrow := found.bracketed (.inl rfl) row (Nat.le_of_succ_le_succ hd) rest
      simp only [List.cons_append, List.append_assoc, List.nil_append]
      rw [readValue, hrow]
      rfl
    | object row =>
      simp only [List.cons_append, List.append_assoc, List.nil_append]
      exact found.readValue_object row (Nat.le_of_succ_le_succ hd) rest

/-! ## Texts -/

/-- The value of a text is read from its front, and blanks are left. -/
theorem IsJson.readValue_eq {cs : List Char} {v : Value} {n d : Nat} (h : IsJson cs v d)
    (hd : d ≤ n) : ∃ c, IsBlanks c ∧ readValue n (skipBlanks cs) = .ok (v, c) := by
  obtain ⟨before, value, after⟩ := h
  have hnil : Stops [] := nofun
  have hstops := stops_blanks_append after hnil
  rw [List.append_nil] at hstops
  rw [List.append_assoc, value.opens.skipBlanks_append before]
  exact ⟨_, after, (found_readValue n).read _ _ _ _ value hd hstops⟩

/-- **Exactly the JSON texts are read**, if they are not nested too deep, and as their values. -/
theorem read_eq_ok_iff {limit : DepthLimit} {cs : List Char} {v : Value} :
    read limit cs = .ok v ↔ ∃ d, IsJson cs v d ∧ d ≤ limit.levels := by
  constructor
  · intro h
    obtain ⟨⟨v', rest⟩, hvalue, h⟩ := bind_eq_ok_iff.mp h
    obtain ⟨b, before, hcs⟩ := exists_blanks cs
    obtain ⟨c, after, hrest⟩ := exists_blanks rest
    obtain ⟨t, d, ht, value, hd⟩ := sound_readValue limit.levels _ _ _ hvalue
    simp only at h
    split at h
    · next hempty =>
      cases h
      rw [List.isEmpty_iff.mp hempty, List.append_nil] at hrest
      subst hrest
      rw [hcs, ht, ← List.append_assoc]
      exact ⟨d, .mk before value after, hd⟩
    · nomatch h
  · rintro ⟨d, json, hd⟩
    obtain ⟨c, hblanks, hread⟩ := json.readValue_eq hd
    have hend := skipBlanks_append hblanks []
    rw [List.append_nil] at hend
    rw [read, hread]
    show (if (skipBlanks c).isEmpty then _ else _) = _
    rw [hend]
    rfl

end Rendezvous.Json
