/-!
# Tables in insertion order

A table is a list of entries with distinct keys.  A new key goes to the end and a known one keeps
its place, so a table can be walked in the order in which its keys first came.  `get?` is the view
through which everything else is stated: each operation has one equation for it.
-/

namespace Rendezvous

variable {κ α : Type}

/-! ## Lists of entries -/

namespace Entries

variable [DecidableEq κ]

/-- The value of the first entry with key `k`. -/
def get? (k : κ) : List (κ × α) → Option α
  | [] => none
  | e :: r => if e.1 = k then some e.2 else get? k r

/-- Gives `k` the value `v`, in its place if it has one and at the end otherwise. -/
def put (k : κ) (v : α) : List (κ × α) → List (κ × α)
  | [] => [(k, v)]
  | e :: r => if e.1 = k then (k, v) :: r else e :: put k v r

@[simp] theorem get?_nil (k : κ) : get? k ([] : List (κ × α)) = none := rfl

theorem get?_cons (k : κ) (e : κ × α) (r : List (κ × α)) :
    get? k (e :: r) = if e.1 = k then some e.2 else get? k r := rfl

theorem get?_put (k j : κ) (v : α) (l : List (κ × α)) :
    get? j (put k v l) = if k = j then some v else get? j l := by
  induction l with
  | nil => simp [put, get?]
  | cons e r ih =>
    by_cases h : e.1 = k
    · by_cases hj : k = j <;> simp_all [put, get?]
    · rw [put, if_neg h, get?_cons, get?_cons, ih]
      by_cases hj : e.1 = j
      · have hk : k ≠ j := fun hk => h (hj.trans hk.symm)
        simp [hj, hk]
      · simp [hj]

/-- The keys after `put`: a known key changes nothing, a new one goes to the end. -/
theorem keys_put (k : κ) (v : α) (l : List (κ × α)) :
    (put k v l).map Prod.fst =
      if k ∈ l.map Prod.fst then l.map Prod.fst else l.map Prod.fst ++ [k] := by
  induction l with
  | nil => simp [put]
  | cons e r ih =>
    by_cases h : e.1 = k
    · simp [put, h]
    · have h' : k ≠ e.1 := fun hk => h hk.symm
      by_cases hm : k ∈ r.map Prod.fst
      · simp only [put, if_neg h, List.map_cons, ih, List.mem_cons, hm, or_true, if_true]
      · simp only [put, if_neg h, List.map_cons, ih, List.mem_cons, h', hm, or_self,
          if_false, List.cons_append]

theorem put_of_notMem {k : κ} (v : α) {l : List (κ × α)} (h : k ∉ l.map Prod.fst) :
    put k v l = l ++ [(k, v)] := by
  induction l with
  | nil => rfl
  | cons e r ih =>
    rw [List.map_cons, List.mem_cons, not_or] at h
    rw [put, if_neg fun hk => h.1 hk.symm, ih h.2, List.cons_append]

theorem eq_or_mem_of_mem_put {k : κ} {v : α} {e : κ × α} {l : List (κ × α)}
    (h : e ∈ put k v l) : e = (k, v) ∨ e ∈ l := by
  induction l with
  | nil => exact .inl (List.mem_singleton.mp h)
  | cons e' r ih =>
    rw [put] at h
    split at h
    · exact (List.mem_cons.mp h).imp_right (List.mem_cons_of_mem e')
    · rcases List.mem_cons.mp h with rfl | h
      · exact .inr List.mem_cons_self
      · exact (ih h).imp_right (List.mem_cons_of_mem e')

theorem nodup_put (k : κ) (v : α) {l : List (κ × α)} (h : (l.map Prod.fst).Nodup) :
    ((put k v l).map Prod.fst).Nodup := by
  rw [keys_put]
  split
  · exact h
  · rename_i hk
    refine List.nodup_append.2 ⟨h, by simp, ?_⟩
    intro a ha b hb
    rw [List.mem_singleton.1 hb]
    exact fun hab => hk (hab ▸ ha)

theorem get?_eq_none_iff {k : κ} {l : List (κ × α)} : get? k l = none ↔ k ∉ l.map Prod.fst := by
  induction l with
  | nil => simp
  | cons e r ih =>
    by_cases h : e.1 = k
    · simp [get?, h]
    · have h' : k ≠ e.1 := fun hk => h hk.symm
      rw [get?, if_neg h, ih, List.map_cons, List.mem_cons, not_or]
      exact ⟨fun hr => ⟨h', hr⟩, fun hr => hr.2⟩

theorem get?_filter {p : κ × α → Bool} {k : κ} {l : List (κ × α)} (h : (l.map Prod.fst).Nodup) :
    get? k (l.filter p) = (get? k l).filter fun v => p (k, v) := by
  induction l with
  | nil => rfl
  | cons e r ih =>
    obtain ⟨hn, hr⟩ := List.nodup_cons.1 (List.map_cons ▸ h)
    by_cases hk : e.1 = k
    · have hnone : get? k (r.filter p) = none := by
        rw [get?_eq_none_iff]
        intro hm
        obtain ⟨x, hx, hxk⟩ := List.mem_map.1 hm
        exact hn (hk ▸ hxk ▸ List.mem_map_of_mem (List.mem_filter.1 hx).1)
      have he : e = (k, e.2) := by rw [← hk]
      by_cases hp : p e
      · have hp' : p (k, e.2) = true := he ▸ hp
        simp [hp, get?, hk, Option.filter, hp']
      · have hp' : p (k, e.2) = false := by rw [← he]; simpa using hp
        simp [hp, get?, hk, Option.filter, hp', hnone]
    · by_cases hp : p e <;> simp [hp, get?, hk, ih hr]

end Entries

/-! ## Tables -/

/-- Entries with distinct keys, in insertion order. -/
structure Table (κ α : Type) where
  /-- The entries, oldest key first. -/
  entries : List (κ × α)
  /-- No key comes twice. -/
  nodup : (entries.map Prod.fst).Nodup

namespace Table

theorem ext_entries {s t : Table κ α} (h : s.entries = t.entries) : s = t := by
  cases s; cases t; cases h; rfl

/-- The table without entries. -/
def empty : Table κ α := ⟨[], by simp⟩

instance : EmptyCollection (Table κ α) := ⟨empty⟩

instance : Inhabited (Table κ α) := ⟨empty⟩

/-- The keys, oldest first. -/
def keys (t : Table κ α) : List κ := t.entries.map Prod.fst

/-- How many keys there are. -/
def size (t : Table κ α) : Nat := t.entries.length

/-- The entries that pass a test, in their order. -/
def filter (p : κ × α → Bool) (t : Table κ α) : Table κ α :=
  ⟨t.entries.filter p, (List.filter_sublist.map Prod.fst).nodup t.nodup⟩

variable [DecidableEq κ]

/-- The value of a key. -/
def get? (t : Table κ α) (k : κ) : Option α := Entries.get? k t.entries

/-- Whether a key has a value. -/
def contains (t : Table κ α) (k : κ) : Bool := (t.get? k).isSome

/-- Gives a key a value; a known key keeps its place. -/
def insert (t : Table κ α) (k : κ) (v : α) : Table κ α :=
  ⟨Entries.put k v t.entries, Entries.nodup_put k v t.nodup⟩

/-- Takes a key away. -/
def erase (t : Table κ α) (k : κ) : Table κ α := t.filter fun e => e.1 ≠ k

/-- The table of a list of entries: the first place of a key counts, and its last value. -/
def ofList (l : List (κ × α)) : Table κ α := l.foldl (fun t e => t.insert e.1 e.2) empty

/-! ### Every operation through `get?` -/

@[simp] theorem get?_empty (k : κ) : (empty : Table κ α).get? k = none := rfl

theorem get?_insert (t : Table κ α) (k j : κ) (v : α) :
    (t.insert k v).get? j = if k = j then some v else t.get? j :=
  Entries.get?_put k j v t.entries

theorem get?_filter (t : Table κ α) (p : κ × α → Bool) (k : κ) :
    (t.filter p).get? k = (t.get? k).filter fun v => p (k, v) :=
  Entries.get?_filter t.nodup

theorem get?_erase (t : Table κ α) (k j : κ) :
    (t.erase k).get? j = if k = j then none else t.get? j := by
  rw [erase, get?_filter]
  by_cases h : k = j
  · cases t.get? j <;> simp [h, Option.filter]
  · have h' : j ≠ k := fun e => h e.symm
    cases t.get? j <;> simp [h, h', Option.filter]

theorem get?_eq_none_iff {t : Table κ α} {k : κ} : t.get? k = none ↔ k ∉ t.keys :=
  Entries.get?_eq_none_iff

/-- To take away a key that is not there changes nothing. -/
theorem erase_of_get?_eq_none {t : Table κ α} {k : κ} (h : t.get? k = none) : t.erase k = t := by
  refine ext_entries (List.filter_eq_self.2 fun e he => decide_eq_true ?_)
  rintro rfl
  exact get?_eq_none_iff.1 h (List.mem_map_of_mem he)

end Table

end Rendezvous
