import Mathlib.Data.Option.Basic
import Rendezvous.Json.Reader
import Rendezvous.Proofs.Json.Grammar

/-!
# Reading strings

The reader of strings works in two passes: first it reads units, each escape of four digits as one,
then it joins the surrogate pairs among them.  The grammar is in the same two layers, so each pass
has its own equivalence, and `readText_eq_ok_iff` puts them together: what is read from the front of
a text is the one string that stands there.
-/

namespace Rendezvous.Json

/-! ## Escapes -/

theorem toNat_le_iff {a b : Char} : a ≤ b ↔ a.toNat ≤ b.toNat := UInt32.le_iff_toNat_le

theorem hexValue?_eq_some_iff {c : Char} {n : Nat} : hexValue? c = some n ↔ IsHexDigit c n := by
  constructor
  · intro h
    have hdigit : ∀ n < 10, (Nat.digitChar n).toNat = 0x30 + n := by decide
    have hlower : ∀ n < 16, 10 ≤ n → (Nat.digitChar n).toNat = 0x61 + (n - 10) := by decide
    have hupper : ∀ n < 16, 10 ≤ n → (Nat.digitChar n).toUpper.toNat = 0x41 + (n - 10) := by
      decide
    simp only [hexValue?, Char.isDigit_iff_toNat, Bool.and_eq_true, decide_eq_true_eq,
      toNat_le_iff, Char.reduceToNat] at h
    split at h
    · obtain rfl := Option.some.inj h
      refine ⟨by omega, .inl (Char.toNat_inj.mp ?_)⟩
      rw [hdigit _ (by omega)]
      omega
    · split at h
      · obtain rfl := Option.some.inj h
        refine ⟨by omega, .inl (Char.toNat_inj.mp ?_)⟩
        rw [hlower _ (by omega) (by omega)]
        omega
      · split at h
        · obtain rfl := Option.some.inj h
          refine ⟨by omega, .inr (Char.toNat_inj.mp ?_)⟩
          rw [hupper _ (by omega) (by omega)]
          omega
        · nomatch h
  · rintro ⟨hn, rfl | rfl⟩ <;> revert n <;> decide

/-- Four digits give the code point of their value, which is one. -/
theorem hexPoint?_eq_some_iff {a b c d : Char} {p : CodePoint} :
    hexPoint? a b c d = some p ↔ ∃ i j k l, IsHexDigit a i ∧ IsHexDigit b j ∧ IsHexDigit c k ∧
      IsHexDigit d l ∧ p.val = ((i * 16 + j) * 16 + k) * 16 + l := by
  simp only [hexPoint?, Option.bind_eq_bind, Option.bind_eq_some_iff, hexValue?_eq_some_iff,
    Option.pure_def, Option.some.injEq]
  constructor
  · rintro ⟨i, ha, j, hb, k, hc, l, hd, rfl⟩
    refine ⟨i, j, k, l, ha, hb, hc, hd, CodePoint.val_ofNat ?_⟩
    have hi := ha.1
    have hj := hb.1
    have hk := hc.1
    have hl := hd.1
    omega
  · rintro ⟨i, j, k, l, ha, hb, hc, hd, hval⟩
    refine ⟨i, ha, j, hb, k, hc, l, hd, CodePoint.ext_val ?_⟩
    rw [← hval, CodePoint.val_ofNat p.isLt]

theorem escapePoint?_eq_some_iff {e : Char} {p : CodePoint} :
    escapePoint? e = some p ↔ ∃ c, (e, c) ∈ letterEscapes ∧ .ofChar c = p := by
  constructor
  · intro h
    rw [escapePoint?.eq_def] at h
    split at h
    any_goals exact ⟨_, by decide, Option.some.inj h⟩
    nomatch h
  · rintro ⟨c, hmem, rfl⟩
    simp only [letterEscapes, List.mem_cons, Prod.mk.injEq, List.not_mem_nil, or_false] at hmem
    rcases hmem with ⟨rfl, rfl⟩ | ⟨rfl, rfl⟩ | ⟨rfl, rfl⟩ | ⟨rfl, rfl⟩ | ⟨rfl, rfl⟩ | ⟨rfl, rfl⟩ |
      ⟨rfl, rfl⟩ | ⟨rfl, rfl⟩ <;> rfl

/-! ## Units -/

/-- One unit at the front of a text. -/
theorem readUnits_cons {u : List Char} {p : CodePoint} (unit : IsUnit u p) (cs : List Char) :
    readUnits (u ++ cs) = (readUnits cs).map fun r => (p :: r.1, r.2) := by
  cases unit with
  | @plain c space quote backslash =>
    rw [List.singleton_append, readUnits.eq_5 c cs quote (fun _ _ _ _ _ h => absurd h backslash)
      (fun _ _ h => absurd h backslash)]
    have hguard : (decide (0x20 ≤ c.toNat) && decide (c ≠ '\\')) = true := by
      simp [space, backslash]
    rw [hguard]
    cases readUnits cs <;> rfl
  | @letter e c escape =>
    have hu : e ≠ 'u' := by
      rintro rfl
      exact absurd escape (by simp [letterEscapes])
    show readUnits ('\\' :: e :: cs) = _
    rw [readUnits.eq_4 e cs fun _ _ _ _ _ h => absurd h hu,
      escapePoint?_eq_some_iff.mpr ⟨c, escape, rfl⟩]
    cases readUnits cs <;> rfl
  | @hex a b c d i j k l p ha hb hc hd val =>
    show readUnits ('\\' :: 'u' :: a :: b :: c :: d :: cs) = _
    rw [readUnits, hexPoint?_eq_some_iff.mpr ⟨i, j, k, l, ha, hb, hc, hd, val⟩]
    cases readUnits cs <;> rfl

theorem readUnits_append {t : List Char} {us : Text} (units : IsUnits t us) (rest : List Char) :
    readUnits (t ++ '"' :: rest) = some (us, rest) := by
  induction units with
  | nil => rfl
  | cons unit _ ih => rw [List.append_assoc, readUnits_cons unit, ih]; rfl

/-- Units are read up to a quote. -/
theorem isUnits_of_readUnits {cs rest : List Char} {us : Text}
    (h : readUnits cs = some (us, rest)) : ∃ t, cs = t ++ '"' :: rest ∧ IsUnits t us := by
  -- in each case a unit has been read and the rest is read by the induction hypothesis
  have hstep : ∀ {u r p us'}, IsUnit u p → (∃ t, r = t ++ '"' :: rest ∧ IsUnits t us') →
      ∃ t, u ++ r = t ++ '"' :: rest ∧ IsUnits t (p :: us') := by
    rintro u _ p us' unit ⟨t, rfl, units⟩
    exact ⟨u ++ t, (List.append_assoc ..).symm, .cons unit units⟩
  fun_induction readUnits cs generalizing us with
  | case1 => nomatch h
  | case2 r =>
    cases h
    exact ⟨[], rfl, .nil⟩
  | case3 a b c d r ih =>
    simp only [Option.bind_eq_bind, Option.bind_eq_some_iff] at h
    obtain ⟨p, hp, ⟨us', rest'⟩, hr, h⟩ := h
    cases h
    obtain ⟨i, j, k, l, ha, hb, hc, hd, val⟩ := hexPoint?_eq_some_iff.mp hp
    exact hstep (.hex ha hb hc hd val) (ih hr)
  | case4 e r _ ih =>
    simp only [Option.bind_eq_bind, Option.bind_eq_some_iff] at h
    obtain ⟨p, hp, ⟨us', rest'⟩, hr, h⟩ := h
    cases h
    obtain ⟨c, escape, rfl⟩ := escapePoint?_eq_some_iff.mp hp
    exact hstep (.letter escape) (ih hr)
  | case5 c r quote _ _ ih =>
    obtain ⟨_, hguard, h⟩ := Option.bind_eq_some_iff.mp h
    obtain ⟨⟨us', rest'⟩, hr, h⟩ := Option.bind_eq_some_iff.mp h
    cases h
    by_cases hc : 0x20 ≤ c.toNat && c ≠ '\\'
    · simp only [Bool.and_eq_true, decide_eq_true_eq] at hc
      exact hstep (.plain hc.1 quote hc.2) (ih hr)
    · exact absurd ((if_neg hc).symm.trans hguard) (Option.some_ne_none _).symm

/-! ## Surrogate pairs -/

theorem val_pairPoint {h l : CodePoint} (isPair : IsPair h l) :
    (pairPoint h l).val = 0x10000 + (h.val - 0xD800) * 0x400 + (l.val - 0xDC00) := by
  simp only [IsPair, CodePoint.isHighSurrogate, CodePoint.isLowSurrogate, Bool.and_eq_true,
    decide_eq_true_eq] at isPair
  exact CodePoint.val_ofNat (by omega)

theorem isJoined_joinPairs (us : Text) : IsJoined us (joinPairs us) := by
  induction us using joinPairs.induct with
  | case1 => exact .nil
  | case2 p => exact .single (fun l hl => nomatch hl) .nil
  | case3 h l us hpair ih =>
    have isPair : IsPair h l := by simpa [IsPair] using hpair
    rw [joinPairs, if_pos hpair]
    exact .pair isPair (val_pairPoint isPair) ih
  | case4 h l us hpair ih =>
    rw [joinPairs, if_neg hpair]
    refine .single (fun l' hl' isPair => hpair ?_) ih
    obtain rfl : l = l' := Option.some.inj hl'
    simpa [IsPair] using isPair

theorem IsJoined.eq_joinPairs {us s : Text} (h : IsJoined us s) : s = joinPairs us := by
  induction h with
  | nil => rfl
  | @pair h l p us ps isPair val _ ih =>
    have hpair : (h.isHighSurrogate && l.isLowSurrogate) = true := by simpa [IsPair] using isPair
    rw [joinPairs, if_pos hpair, ← ih, CodePoint.ext_val (val.trans (val_pairPoint isPair).symm)]
  | @single p us ps alone joined ih =>
    match us, alone, ih with
    | [], _, ih => rw [ih]; rfl
    | l :: us, alone, ih =>
      have hpair : ¬(p.isHighSurrogate && l.isLowSurrogate) = true := by
        simpa [IsPair] using alone l rfl
      rw [joinPairs, if_neg hpair, ih]

/-! ## Strings -/

/-- **A string is read exactly if one stands there.** -/
theorem readText_eq_ok_iff {cs rest : List Char} {s : Text} :
    readText cs = .ok (s, rest) ↔ ∃ t, '"' :: cs = t ++ rest ∧ IsString t s := by
  constructor
  · intro h
    rw [readText] at h
    split at h
    · next us rest' hread =>
      cases h
      obtain ⟨t, rfl, units⟩ := isUnits_of_readUnits hread
      exact ⟨'"' :: t ++ ['"'], by simp, .mk units (isJoined_joinPairs us)⟩
    · nomatch h
  · rintro ⟨_, ht, @⟨t, us, s, units, joined⟩⟩
    have hcs : cs = t ++ '"' :: rest := by simpa using ht
    rw [hcs, readText, readUnits_append units, joined.eq_joinPairs]

theorem IsString.exists_cons {t : List Char} {s : Text} (h : IsString t s) : ∃ r, t = '"' :: r := by
  obtain ⟨-, -⟩ := h
  exact ⟨_, rfl⟩

/-- A string is read whatever stands behind it. -/
theorem readText_append {r : List Char} {s : Text} (h : IsString ('"' :: r) s)
    (rest : List Char) : readText (r ++ rest) = .ok (s, rest) :=
  readText_eq_ok_iff.mpr ⟨'"' :: r, rfl, h⟩

end Rendezvous.Json
