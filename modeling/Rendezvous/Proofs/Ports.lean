import Rendezvous.Launch.EchoEndpoint
import Rendezvous.Proofs.Shutdown

/-!
# Which ports are bound

Both programs take their port from the command line, from a variable of the environment, or from
themselves.  The three are not treated alike.  An argument is looked at: if it is no whole number
from 1 to 65535, the program ends with exit code 1 and binds nothing.  A variable is only read: if it
is set to something that is no whole number, the program's own port stands in, but a whole number is
taken as it is, and the program goes on to bind port 70000 if it is told to.

The two programs begin alike (`Begun`): the log is set up, the port is found, and then it is bound.
What is bound is proved of such a beginning, so that for each program it only remains to be shown
that it begins so.

* `ports_guarded_iff`: only valid ports are bound, unless the environment gives an invalid number;
* `environment_port_bound`: such a number is bound by both programs.
-/

namespace Rendezvous

namespace Port

/-! ## Ports that are asked for -/

variable {arguments : List Text} {env : Environment} {name : Text} {own n : Int}

/-- What a program is asked to bind, as it is written: the argument, or without one what the variable
    is set to. -/
def requested? (arguments : List Text) (env : Environment) (name : Text) : Option Text :=
  match arguments with
  | _ :: t :: _ => some t
  | _ => env.get? name

/-- The port that a program goes on to bind: an argument that is a valid port, or without an argument
    whatever whole number the variable is set to, or else the program's own port. -/
inductive Asked (arguments : List Text) (env : Environment) (name : Text) (own : Int) : Int → Prop
  | argument {program t : Text} {rest : List Text} {n : Int}
      (given : arguments = program :: t :: rest) (whole : Numeral.whole? t = some n)
      (valid : IsValid n) : Asked arguments env name own n
  | environment {n : Int} (bare : arguments.length < 2) (set : env.whole? name = some n) :
      Asked arguments env name own n
  | builtIn (bare : arguments.length < 2) (unset : env.whole? name = none) :
      Asked arguments env name own own

/-- A text gives the port that it names, if that is valid. -/
theorem ofText_eq_ok_iff {t : Text} :
    ofText t = .ok n ↔ Numeral.whole? t = some n ∧ IsValid n := by
  rw [ofText]
  cases Numeral.whole? t with
  | none => simp
  | some k =>
    have hrange : k < 1 ∨ 65535 < k ↔ ¬IsValid k := by
      rw [IsValid]
      omega
    by_cases hk : IsValid k
    · simp only [Bool.or_eq_true, decide_eq_true_eq, hrange, hk, not_true, if_false]
      constructor
      · rintro ⟨⟩
        exact ⟨rfl, hk⟩
      · rintro ⟨⟨⟩, -⟩
        rfl
    · simp only [Bool.or_eq_true, decide_eq_true_eq, hrange, hk, not_false_eq_true, if_true]
      constructor
      · rintro ⟨⟩
      · rintro ⟨⟨⟩, hvalid⟩
        exact absurd hvalid hk

/-- The port that is asked for is the one that command line and environment give. -/
theorem ofArguments_eq_ok_iff :
    ofArguments arguments ((env.whole? name).getD own) = .ok n ↔
      Asked arguments env name own n := by
  match arguments with
  | program :: t :: rest =>
    rw [ofArguments, ofText_eq_ok_iff]
    constructor
    · rintro ⟨hwhole, hvalid⟩
      exact .argument rfl hwhole hvalid
    · intro h
      cases h with
      | argument given whole valid =>
        obtain ⟨rfl, rfl, rfl⟩ := given
        exact ⟨whole, valid⟩
      | environment bare | builtIn bare => exact absurd bare (by simp)
  | [] | [program] =>
    show Except.ok _ = Except.ok _ ↔ _
    constructor
    · rintro ⟨⟩
      cases hset : env.whole? name with
      | some n => exact .environment (by simp) hset
      | none => exact .builtIn (by simp) hset
    · intro h
      cases h with
      | argument given => cases given
      | environment bare set => rw [set, Option.getD_some]
      | builtIn bare unset => rw [unset, Option.getD_none]

/-- A wrong argument is one that is looked at. -/
theorem IsWrong.not_unchecked (h : IsWrong arguments) : ¬Unchecked arguments env name := by
  obtain ⟨program, t, rest, rfl, -⟩ := h
  rintro ⟨bare, -⟩
  exact absurd bare (by simp)

/-- What is asked for is valid, unless it is an unchecked number of the environment. -/
theorem Asked.isValid_iff (h : Asked arguments env name own n) (hown : IsValid own) :
    IsValid n ↔ ¬Unchecked arguments env name := by
  cases h with
  | argument given whole valid =>
    refine iff_of_true valid ?_
    rintro ⟨bare, -⟩
    rw [given] at bare
    exact absurd bare (by simp)
  | environment bare set =>
    constructor
    · rintro hvalid ⟨-, k, hk, hinvalid⟩
      obtain rfl := Option.some.inj (set.symm.trans hk)
      exact hinvalid hvalid
    · intro hchecked
      exact Decidable.byContradiction fun hinvalid => hchecked ⟨bare, n, set, hinvalid⟩
  | builtIn bare unset =>
    refine iff_of_true hown ?_
    rintro ⟨-, k, hk, -⟩
    exact Option.some_ne_none k (hk.symm.trans unset)

/-- Whoever requests what is no valid port is not bound to it, unless the number comes from the
    environment: the program's own port is asked for. -/
theorem Asked.eq_own {t : Text} (h : Asked arguments env name own n) (hvalid : IsValid n)
    (hrequested : requested? arguments env name = some t)
    (hother : ∀ k, Numeral.whole? t = some k → ¬IsValid k) : n = own := by
  cases h with
  | argument given whole valid =>
    rw [given] at hrequested
    obtain rfl := Option.some.inj hrequested
    exact absurd valid (hother n whole)
  | environment bare set =>
    have hget : env.get? name = some t := by
      match arguments with
      | [] | [program] => exact hrequested
      | _ :: _ :: _ => exact absurd bare (by simp)
    rw [Environment.whole?, hget, Option.bind_some] at set
    exact absurd hvalid (hother n set)
  | builtIn => rfl

end Port

/-- If a log can be set up, the name of its level is plain. -/
theorem Logging.isPlain_of_setUp {log : Logging.State} {level? : Option Text}
    (h : (Logging.setUp log level?).2 = none) : Logging.IsPlain level? := by
  rintro t rfl
  have hbad : ∀ fault, Logging.severity t ≠ .error fault := by
    intro fault hfault
    rw [Logging.setUp, Option.getD_some] at h
    simp only [hfault] at h
    cases h
  constructor
  · intro hformat
    refine hbad .namesText ?_
    rw [Logging.severity, hformat]
    rfl
  · intro hstyles
    refine hbad .namesTable ?_
    rw [Logging.severity, hstyles]
    rfl

namespace Launch

/-! ## Beginnings -/

section Begun

variable {log : Logging.State} {level? : Option Text} {arguments : List Text} {env : Environment}
  {name : Text} {own : Int} {exit : Exit} {bound : List Int}

/-- How a program begins: with its log, then the port that it finds, then the ports that it binds.
    Before it binds any it may come to its end. -/
inductive Begun (log : Logging.State) (level? : Option Text) (port : Except Port.Fault Int)
    (exit : Exit) (bound : List Int) : Prop
  /-- The log cannot be set up. -/
  | unlogged {fault : Logging.Fault} (level : (Logging.setUp log level?).2 = some fault)
      (nothing : bound = [])
  /-- The port is wrong. -/
  | refused {fault : Port.Fault} (level : (Logging.setUp log level?).2 = none)
      (found : port = .error fault) (code : exit = .code 1) (nothing : bound = [])
  /-- The port is bound. -/
  | binding {n : Int} (level : (Logging.setUp log level?).2 = none) (found : port = .ok n)
      (bound : bound = [n])

/-- A program binds valid ports only.  If it is asked for anything else, it ends with exit code 1
    before it binds a port, or it binds its own. -/
structure Guarded (arguments : List Text) (env : Environment) (name : Text) (own : Int) (exit : Exit)
    (bound : List Int) : Prop where
  valid : ∀ n ∈ bound, Port.IsValid n
  other : ∀ t, Port.requested? arguments env name = some t →
    (∀ n, Numeral.whole? t = some n → ¬Port.IsValid n) →
    exit = .code 1 ∧ bound = [] ∨ bound = [own]

/-- What a program does about its port. -/
structure UsesPort (level? : Option Text) (arguments : List Text) (env : Environment) (name : Text)
    (own : Int) (exit : Exit) (bound : List Int) : Prop where
  /-- If the log cannot be set up, no port is bound. -/
  unlogged : ¬Logging.IsPlain level? → bound = []
  /-- Otherwise a wrong argument ends the program before a port is bound... -/
  refused : Logging.IsPlain level? → Port.IsWrong arguments → exit = .code 1 ∧ bound = []
  /-- ... and without one the port that is asked for is bound, and no other. -/
  binds : Logging.IsPlain level? → ¬Port.IsWrong arguments →
    ∃ n, Port.Asked arguments env name own n ∧ bound = [n]
  /-- So the port is guarded, unless it is an unchecked number of the environment. -/
  guarded : Logging.IsPlain level? →
    (Guarded arguments env name own exit bound ↔ ¬Port.Unchecked arguments env name)

/-- A program that binds what is asked for is guarded if that is no unchecked number. -/
theorem guarded_of_asked {n : Int} (h : Port.Asked arguments env name own n)
    (hown : Port.IsValid own) :
    Guarded arguments env name own exit [n] ↔ ¬Port.Unchecked arguments env name := by
  rw [← h.isValid_iff hown]
  constructor
  · intro hguarded
    exact hguarded.valid n (List.mem_singleton.mpr rfl)
  · intro hvalid
    refine ⟨fun k hk => List.mem_singleton.mp hk ▸ hvalid, fun t ht hother => .inr ?_⟩
    rw [h.eq_own hvalid ht hother]

/-- What holds of the port of a program that begins in one of the three ways. -/
theorem Begun.usesPort
    (h : Begun log level? (Port.ofArguments arguments ((env.whole? name).getD own)) exit bound)
    (hown : Port.IsValid own) : UsesPort level? arguments env name own exit bound := by
  cases h with
  | unlogged level nothing =>
    have hbad : ¬Logging.IsPlain level? := fun hplain => by
      simp [Logging.setUp_of_isPlain log hplain] at level
    exact ⟨fun _ => nothing, fun hplain => absurd hplain hbad, fun hplain => absurd hplain hbad,
      fun hplain => absurd hplain hbad⟩
  | refused level found code nothing =>
    have hplain := Logging.isPlain_of_setUp level
    have hwrong : Port.IsWrong arguments := by
      rcases Port.ofArguments_cases arguments ((env.whole? name).getD own) with
        ⟨wrong, -⟩ | ⟨-, n, hn⟩
      · exact wrong
      · cases hn.symm.trans found
    have hguarded : Guarded arguments env name own exit bound :=
      ⟨by rw [nothing]; exact List.forall_mem_nil _, fun _ _ _ => .inl ⟨code, nothing⟩⟩
    exact ⟨fun hbad => absurd hplain hbad, fun _ _ => ⟨code, nothing⟩,
      fun _ hright => absurd hwrong hright, fun _ => iff_of_true hguarded hwrong.not_unchecked⟩
  | @binding n level found bound =>
    have hplain := Logging.isPlain_of_setUp level
    have hasked : Port.Asked arguments env name own n := Port.ofArguments_eq_ok_iff.mp found
    have hright : ¬Port.IsWrong arguments := by
      rcases Port.ofArguments_cases arguments ((env.whole? name).getD own) with
        ⟨-, fault, hfault⟩ | ⟨right, -⟩
      · cases hfault.symm.trans found
      · exact right
    obtain rfl := bound
    exact ⟨fun hbad => absurd hplain hbad, fun _ hwrong => absurd hwrong hright,
      fun _ _ => ⟨n, hasked, rfl⟩, fun _ => guarded_of_asked hasked hown⟩

end Begun

/-! ## The two programs -/

namespace Matchmaking

/-- The ports that are bound, in order. -/
def portsBound (es : List Event) : List Int :=
  es.filterMap fun
    | .bound _ port => some port
    | _ => none

/-- Where there is no such stage no port is bound. -/
theorem portsBound_eq_nil {es : List Event} (h : .bound ∉ Event.stages es) : portsBound es = [] := by
  rw [portsBound, List.filterMap_eq_nil_iff]
  intro e he
  cases e with
  | bound host port =>
    have hstage : Stage.bound ∈ Event.stages es := List.mem_filterMap.mpr ⟨_, he, rfl⟩
    exact absurd hstage h
  | _ => rfl

/-- A server is bound to the port of its settings, and to no other. -/
theorem portsBound_serve (log : Logging.State) (s : Settings) (script : Script) :
    portsBound (serve log s script).events = [s.port] := by
  cases hbind : script.bindFault with
  | some fault =>
    cases fault with
    | refused why | unfit why =>
      simp only [serve, hbind]
      rfl
  | none =>
    -- the first thing that is done is to bind it, and this stage comes once
    obtain ⟨before, hevents, hstages⟩ := events_of_bindable log s hbind
    obtain ⟨rest, hrest⟩ : ∃ rest, (serve log s script).events = .bound s.host s.port :: rest := by
      simp only [serve, hbind]
      exact ⟨_, rfl⟩
    have hlater : Event.stages rest =
        [.created, .started, .serving, .stopRequested, .joined, .stopRequested, .closed] := by
      have hall : Event.stages (.bound s.host s.port :: rest) =
          Event.stages (before ++ [.socketClosed]) := by rw [← hrest, hevents]
      rw [Event.stages_append, hstages] at hall
      exact (List.cons.inj hall).2
    have hnone : portsBound rest = [] := portsBound_eq_nil (by rw [hlater]; decide)
    rw [hrest]
    show s.port :: portsBound rest = [s.port]
    rw [hnone]

theorem launch_begun (log : Logging.State) (arguments : List Text) (env : Environment)
    (script : Script) :
    Begun log (env.get? "PUNCH_LOG_LEVEL")
      (Port.ofArguments arguments ((env.whole? "PUNCH_PORT").getD 33334))
      (launch log arguments env script).exit
      (portsBound (launch log arguments env script).events) := by
  rw [launch, portFallback]
  cases hlevel : Logging.setUp log (env.get? "PUNCH_LOG_LEVEL") with
  | mk log' fault? =>
    cases fault? with
    | some fault => exact .unlogged (by rw [hlevel]) rfl
    | none =>
      cases hport : Port.ofArguments arguments ((env.whole? "PUNCH_PORT").getD 33334) with
      | error fault => exact .refused (by rw [hlevel]) rfl rfl rfl
      | ok n => exact .binding (by rw [hlevel]) rfl (portsBound_serve ..)

end Matchmaking

namespace EchoEndpoint

open Replay (Session)

/-- The ports that are listened at, in order. -/
def portsBound (es : List Event) : List Int :=
  es.filterMap fun
    | .listening _ port => some port
    | _ => none

theorem launch_begun (log : Logging.State) (arguments : List Text) (env : Environment)
    (bindFault : Option BindFault) (ending : Session.Ending) :
    Begun log (env.get? "ECHO_LOG_LEVEL")
      (Port.ofArguments arguments ((env.whole? "ECHO_PORT").getD 8890))
      (launch log arguments env bindFault ending).exit
      (portsBound (launch log arguments env bindFault ending).events) := by
  rw [launch, portFallback]
  cases hlevel : Logging.setUp log (env.get? "ECHO_LOG_LEVEL") with
  | mk log' fault? =>
    cases fault? with
    | some fault => exact .unlogged (by rw [hlevel]) rfl
    | none =>
      cases hport : Port.ofArguments arguments ((env.whole? "ECHO_PORT").getD 8890) with
      | error fault => exact .refused (by rw [hlevel]) rfl rfl rfl
      | ok n =>
        refine .binding (by rw [hlevel]) rfl ?_
        cases bindFault with
        | none => rfl
        | some fault => cases fault <;> rfl

end EchoEndpoint

/-- **Valid ports only are bound, unless the environment gives another.**  For every command line and
    every environment, whatever happens to it later, each of the two programs binds at most one port,
    and it is guarded exactly if the port is no unchecked number of the environment: whatever it
    binds is a port from 1 to 65535, and any other that is asked for ends it with exit code 1 before
    anything is bound, or gives way to its own. -/
theorem ports_guarded_iff (log : Logging.State) (arguments : List Text) (env : Environment) :
    (∀ script, UsesPort (env.get? "PUNCH_LOG_LEVEL") arguments env "PUNCH_PORT" 33334
      (Matchmaking.launch log arguments env script).exit
      (Matchmaking.portsBound (Matchmaking.launch log arguments env script).events)) ∧
    (∀ bindFault ending, UsesPort (env.get? "ECHO_LOG_LEVEL") arguments env "ECHO_PORT" 8890
      (EchoEndpoint.launch log arguments env bindFault ending).exit
      (EchoEndpoint.portsBound
        (EchoEndpoint.launch log arguments env bindFault ending).events)) :=
  ⟨fun script => (Matchmaking.launch_begun log arguments env script).usesPort (by decide),
    fun bindFault ending =>
      (EchoEndpoint.launch_begun log arguments env bindFault ending).usesPort (by decide)⟩

/-- An environment that gives each program a number that is no valid port. -/
def stray : Environment := Table.ofList [("PUNCH_PORT", "70000"), ("ECHO_PORT", "0")]

/-- With a stray number in the environment a server is not guarded, unless an argument stands in for
    the number. -/
theorem guarded_by_argument :
    let bare := Matchmaking.launch {} ["server"] stray .deserted
    let told := Matchmaking.launch {} ["server", "4000"] stray .deserted
    ¬Guarded ["server"] stray "PUNCH_PORT" 33334 bare.exit (Matchmaking.portsBound bare.events) ∧
      Guarded ["server", "4000"] stray "PUNCH_PORT" 33334 told.exit
        (Matchmaking.portsBound told.events) := by
  have hplain : Logging.IsPlain (stray.get? "PUNCH_LOG_LEVEL") := nofun
  have hunchecked : Port.Unchecked ["server"] stray "PUNCH_PORT" :=
    ⟨by decide, 70000, by decide, by decide⟩
  have hchecked : ¬Port.Unchecked ["server", "4000"] stray "PUNCH_PORT" := fun h =>
    absurd h.1 (by decide)
  exact ⟨fun h => (((ports_guarded_iff {} ["server"] stray).1 .deserted).guarded hplain).mp h
    hunchecked,
    (((ports_guarded_iff {} ["server", "4000"] stray).1 .deserted).guarded hplain).mpr hchecked⟩

/-- **A port of the environment is bound as it is**, by the server and by the echo endpoint. -/
theorem environment_port_bound :
    ¬(∀ arguments env script,
      ∀ n ∈ Matchmaking.portsBound (Matchmaking.launch {} arguments env script).events,
        Port.IsValid n) ∧
    ¬(∀ arguments env bindFault ending,
      ∀ n ∈ EchoEndpoint.portsBound (EchoEndpoint.launch {} arguments env bindFault ending).events,
        Port.IsValid n) := by
  constructor
  · intro h
    have hbound : Matchmaking.portsBound (Matchmaking.launch {} ["server"] stray .deserted).events =
        [70000] := by decide
    exact absurd (h ["server"] stray .deserted 70000 (by rw [hbound]; decide)) (by decide)
  · intro h
    have hbound : EchoEndpoint.portsBound
        (EchoEndpoint.launch {} ["echo"] stray none .returned).events = [0] := by decide
    exact absurd (h ["echo"] stray none .returned 0 (by rw [hbound]; decide)) (by decide)

end Launch

end Rendezvous
