import Rendezvous.Logging

/-!
# Setting the log up again and again

A call sets up two loggers, and they keep different parts of its history.  The root is set up only
while it has no handler, and a call gives it one before it looks at the level, so the first call
settles the root, whether it succeeds or not (`root_after`).  The program's own logger follows every
call that succeeds, and a call that fails leaves it alone, so it is at the level of the latest one
that succeeded (`level_after_of_fails`).

Whether a call succeeds is a matter of its name alone (`Means`): all names do but the two that mean
something else than a level.

* `set_up_repeatedly`: the loggers after any calls, and what the next call does.
-/

namespace Rendezvous.Logging

variable {s : State} {name : Option Text} {names later : List (Option Text)} {n : Nat}
  {fault : Fault} {r : Except Fault Nat}

/-! ## What a name means -/

/-- The name that is looked up: the given one in upper case, or that of information. -/
def lookedUp (name : Option Text) : Text := (name.getD "INFO").upper

/-- What a name means: a level, one of the two things that are no level, or, if it means nothing,
    information. -/
inductive Means (name : Option Text) : Except Fault Nat → Prop
  | level {n : Nat} (named : (lookedUp name, n) ∈ severities) : Means name (.ok n)
  | text (named : lookedUp name = "BASIC_FORMAT") : Means name (.error .namesText)
  | table (named : lookedUp name = "_STYLES") : Means name (.error .namesTable)
  | nothing (noLevel : ∀ n, (lookedUp name, n) ∉ severities)
      (noText : lookedUp name ≠ "BASIC_FORMAT") (noTable : lookedUp name ≠ "_STYLES") :
      Means name (.ok Level.info.severity)

/-- The name is no level's but means something. -/
def Fails (name : Option Text) : Prop := ∃ fault, Means name (.error fault)

/-- A name is found exactly if it is in the table. -/
theorem lookup_severities_iff {t : Text} : severities.lookup t = some n ↔ (t, n) ∈ severities := by
  constructor
  · intro h
    obtain ⟨before, after, hsplit, -⟩ := List.lookup_eq_some_iff.mp h
    rw [hsplit]
    exact List.mem_append_right _ List.mem_cons_self
  · -- no name is in the table twice
    have hall : ∀ p ∈ severities, severities.lookup p.1 = some p.2 := by decide
    exact hall (t, n)

theorem severity_of_named (named : (lookedUp name, n) ∈ severities) :
    severity (name.getD "INFO") = .ok n := by
  have hsome : severities.lookup (name.getD "INFO").upper = some n :=
    lookup_severities_iff.mpr named
  simp only [severity, hsome]

theorem severity_of_unnamed (noLevel : ∀ n, (lookedUp name, n) ∉ severities) :
    severity (name.getD "INFO") =
      if lookedUp name = "BASIC_FORMAT" then .error .namesText
      else if lookedUp name = "_STYLES" then .error .namesTable
      else .ok Level.info.severity := by
  have hnone : severities.lookup (name.getD "INFO").upper = none :=
    Option.eq_none_iff_forall_ne_some.mpr fun n h => noLevel n (lookup_severities_iff.mp h)
  simp only [severity, hnone]
  rfl

/-- A name is taken for what it means. -/
theorem means_iff : Means name r ↔ severity (name.getD "INFO") = r := by
  have hother : ∀ t : Text, severities.lookup t = none → lookedUp name = t →
      ∀ n, (lookedUp name, n) ∉ severities := by
    rintro t ht rfl n named
    exact Option.some_ne_none n ((lookup_severities_iff.mpr named).symm.trans ht)
  constructor
  · rintro (named | named | named | ⟨noLevel, noText, noTable⟩)
    · exact severity_of_named named
    · rw [severity_of_unnamed (hother _ (by decide) named), if_pos named]
    · rw [severity_of_unnamed (hother _ (by decide) named), named]
      rfl
    · rw [severity_of_unnamed noLevel, if_neg noText, if_neg noTable]
  · rintro rfl
    by_cases hlevel : ∃ n, (lookedUp name, n) ∈ severities
    · obtain ⟨n, named⟩ := hlevel
      rw [severity_of_named named]
      exact .level named
    · have noLevel := not_exists.mp hlevel
      rw [severity_of_unnamed noLevel]
      split
      · next named => exact .text named
      · next noText =>
        split
        · next named => exact .table named
        · next noTable => exact .nothing noLevel noText noTable

/-- Every name means exactly one thing. -/
theorem exists_means (name : Option Text) : ∃ r, ∀ r', Means name r' ↔ r' = r :=
  ⟨severity (name.getD "INFO"), fun _ => means_iff.trans eq_comm⟩

/-! ## One call -/

theorem setUp_of_means (h : Means name (.ok n)) :
    setUp s name = ({ setUpRoot s (.ok n) with level := n }, none) := by
  rw [setUp, means_iff.mp h]

theorem setUp_of_fault (h : Means name (.error fault)) :
    setUp s name = (setUpRoot s (.error fault), some fault) := by
  rw [setUp, means_iff.mp h]

/-- A root that has a handler is left alone. -/
theorem setUpRoot_of_handled (h : s.rootHandlers ≠ []) (level : Except Fault Nat) :
    setUpRoot s level = s :=
  if_neg (by simpa using h)

/-- A call does nothing else to the program's own logger than to set it to the level. -/
theorem level_setUpRoot (s : State) (level : Except Fault Nat) :
    (setUpRoot s level).level = s.level := by
  unfold setUpRoot
  split <;> rfl

theorem level_setUp_of_fails (s : State) (h : Fails name) : (setUp s name).1.level = s.level := by
  obtain ⟨fault, hfault⟩ := h
  rw [setUp_of_fault hfault]
  exact level_setUpRoot s _

/-- The root as its handlers and its level. -/
def State.root (s : State) : List Text × Nat := (s.rootHandlers, s.rootLevel)

theorem root_setUp (s : State) (name : Option Text) :
    (setUp s name).1.root = (setUpRoot s (severity (name.getD "INFO"))).root := by
  rw [setUp]
  cases severity (name.getD "INFO") <;> rfl

/-! ## Many calls -/

/-- The loggers after calls with these names. -/
def State.after (s : State) (names : List (Option Text)) : State :=
  names.foldl (fun s name => (setUp s name).1) s

theorem after_append (s : State) (names later : List (Option Text)) :
    s.after (names ++ later) = (s.after names).after later :=
  List.foldl_append

/-- Once it has a handler, the root stays as it is. -/
theorem root_after (h : s.rootHandlers ≠ []) (names : List (Option Text)) :
    (s.after names).root = s.root := by
  induction names generalizing s with
  | nil => rfl
  | cons name names ih =>
    have hroot : (setUp s name).1.root = s.root := by
      rw [root_setUp, setUpRoot_of_handled h]
    have hhandlers : (setUp s name).1.rootHandlers = s.rootHandlers := congrArg Prod.fst hroot
    exact (ih (hhandlers ▸ h)).trans hroot

/-- Calls that fail leave the program's own logger alone. -/
theorem level_after_of_fails (s : State) (h : ∀ name ∈ names, Fails name) :
    (s.after names).level = s.level := by
  induction names generalizing s with
  | nil => rfl
  | cons name names ih =>
    obtain ⟨hname, hnames⟩ := List.forall_mem_cons.mp h
    exact (ih _ hnames).trans (level_setUp_of_fails s hname)

/-- The first call settles the root, whether it succeeds or not. -/
theorem root_after_first (h : Means name r) (later : List (Option Text)) :
    (({} : State).after (name :: later)).root = (setUpRoot {} r).root := by
  have hfirst : (setUp {} name).1.root = (setUpRoot {} r).root := by
    rw [root_setUp, means_iff.mp h]
  have hhandlers : (setUp {} name).1.rootHandlers = [lineFormat] := congrArg Prod.fst hfirst
  have hlater := root_after (hhandlers ▸ List.cons_ne_nil _ _) later
  exact hlater.trans hfirst

/-- The program's own logger follows the latest call that succeeds. -/
theorem level_after_latest (s : State) (names : List (Option Text)) (h : Means name (.ok n))
    (hlater : ∀ name ∈ later, Fails name) : (s.after (names ++ name :: later)).level = n := by
  rw [after_append]
  refine (level_after_of_fails (setUp (s.after names) name).1 hlater).trans ?_
  rw [setUp_of_means h]

/-! ## The loggers after any calls -/

/-- The loggers after calls with these names, in the order of the calls. -/
structure SetUpBy (names : List (Option Text)) (s : State) : Prop where
  /-- As soon as there was a call, the root has one handler... -/
  handler : names ≠ [] → s.rootHandlers = [lineFormat]
  /-- ... and the level of the first call, if that succeeded... -/
  root : ∀ first later n, names = first :: later → Means first (.ok n) → s.rootLevel = n
  /-- ... and if it failed, the level it had before, for good. -/
  rootFailed : ∀ first later, names = first :: later → Fails first →
    s.rootLevel = Level.warning.severity
  /-- The program's own logger has the level of the latest call that succeeded... -/
  level : ∀ before latest later n, names = before ++ latest :: later → Means latest (.ok n) →
    (∀ name ∈ later, Fails name) → s.level = n
  /-- ... and if none did, the level it had before. -/
  levelFailed : (∀ name ∈ names, Fails name) → s.level = Level.debug.severity

/-- What a call leads to. -/
structure Answered (s : State) (name : Option Text) (answer : State × Option Fault) : Prop where
  /-- The name means exactly one thing. -/
  meaning : ∃ r, ∀ r', Means name r' ↔ r' = r
  /-- The call succeeds if that is a level. -/
  succeeds : answer.2 = none ↔ ∃ n, Means name (.ok n)
  /-- It fails only if that is something else, and then the fault tells what. -/
  fails : ∀ fault, answer.2 = some fault ↔ Means name (.error fault)
  /-- A call that fails leaves the program's own logger alone. -/
  unchanged : Fails name → answer.1.level = s.level

theorem setUpBy_after (names : List (Option Text)) :
    SetUpBy names (({} : State).after names) := by
  constructor
  · intro hne
    obtain ⟨first, later, rfl⟩ := List.exists_cons_of_ne_nil hne
    obtain ⟨r, hr⟩ := exists_means first
    exact congrArg Prod.fst (root_after_first ((hr r).mpr rfl) later)
  · rintro first later n rfl h
    exact congrArg Prod.snd (root_after_first h later)
  · rintro first later rfl ⟨fault, h⟩
    exact congrArg Prod.snd (root_after_first h later)
  · rintro before latest later n rfl h hlater
    exact level_after_latest {} before h hlater
  · exact level_after_of_fails {}

theorem answered_setUp (s : State) (name : Option Text) : Answered s name (setUp s name) := by
  refine ⟨exists_means name, ?_, ?_, level_setUp_of_fails s⟩
  · simp only [means_iff, setUp]
    cases severity (name.getD "INFO") <;> simp
  · intro fault
    simp only [means_iff, setUp]
    cases severity (name.getD "INFO") <;> simp

/-- **The first call settles the root for good, the latest that succeeds the logger of the
    program**, whatever the names of the calls are; and a call fails only if its name means something
    that is no level. -/
theorem set_up_repeatedly (names : List (Option Text)) :
    SetUpBy names (({} : State).after names) ∧ ∀ name : Option Text,
      Answered (({} : State).after names) name (setUp (({} : State).after names) name) :=
  ⟨setUpBy_after names, answered_setUp _⟩

/-- A first call that fails leaves the root at its level, and a later one does not mend that. -/
example :
    let s := ({} : State).after [some "basic_format", some "verbose", some "_styles"]
    s = ⟨30, [lineFormat], 20⟩ := by decide

end Rendezvous.Logging
