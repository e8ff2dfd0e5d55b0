import Rendezvous.Launch.Matchmaking
import Rendezvous.Proofs.SendFailures

/-!
# How a launch ends

A server is stopped at up to three places: when serving has ended, when it is closed, and, if its
port cannot be bound, when it was only begun to be built.  Stopping is written so that it can be
done twice: the request to stop is repeated, but only a thread that is held is joined, and it is
held no longer.

What is done to the socket and to the thread of the sweeper is a matter of these places alone.  The
lines of a script send, log and let the sweeper wait and sweep, but none of them begins or ends
anything (`stages_perform`), so a launch takes one of three courses (`Course`), whatever the script
is: it is refused, it fails to bind, or it serves.  How it ends is read off its course.

It is meant to end with exit code 1 if its port is invalid or cannot be bound.  But the port of the
environment is not looked at, and to bind it may raise an error that is not caught; nor is the error
of a socket that is asked for too much.

* `shutdown_as_meant_iff`: exit, socket and sweeper of every launch, and whether that is as meant;
* `stray_port_not_refused`: a launch that does not end as it is meant to.
-/

namespace Rendezvous

/-! ## Stages -/

/-- Something that is done to the socket or to the thread of the sweeper. -/
inductive Stage where
  /-- The socket is bound. -/
  | bound
  /-- The thread is created. -/
  | created
  /-- The thread is started. -/
  | started
  /-- Serving begins. -/
  | serving
  /-- The thread is told to stop. -/
  | stopRequested
  /-- The thread is waited for. -/
  | joined
  /-- The socket is closed. -/
  | closed
  deriving DecidableEq

namespace Event

/-- The stage that an event is. -/
def stage? : Event → Option Stage
  | bound .. => some .bound
  | threadCreated => some .created
  | threadStarted => some .started
  | serving _ => some .serving
  | stopRequested => some .stopRequested
  | joined _ => some .joined
  | socketClosed => some .closed
  | waited _ | swept | sent .. | logged _ => none

/-- The stages among what is done, in order. -/
def stages (es : List Event) : List Stage := es.filterMap stage?

@[simp] theorem stages_nil : stages [] = [] := rfl

@[simp] theorem stages_append (es fs : List Event) : stages (es ++ fs) = stages es ++ stages fs :=
  List.filterMap_append

theorem stages_cons_of_none {e : Event} (h : e.stage? = none) (es : List Event) :
    stages (e :: es) = stages es :=
  List.filterMap_cons_none h

@[simp] theorem stages_logged (ns : List Notice) : stages (ns.map .logged) = [] := by
  induction ns with
  | nil => rfl
  | cons n ns ih => rw [List.map_cons, stages_cons_of_none rfl, ih]

theorem stages_flatMap_eq_nil {α : Type} {l : List α} {f : α → List Event}
    (h : ∀ x ∈ l, stages (f x) = []) : stages (l.flatMap f) = [] := by
  rw [stages, List.filterMap_flatMap, List.flatMap_eq_nil_iff]
  exact h

/-- What is no part of the life of the server holds no stage. -/
theorem stages_of_lifecycle {es : List Event} (h : es.filter isLifecycle = []) :
    stages es = [] := by
  rw [stages, List.filterMap_eq_nil_iff]
  intro e he
  have hother := List.filter_eq_nil_iff.mp h e he
  cases e with
  | sent | logged => rfl
  | _ => exact absurd rfl hother

theorem closed_mem_stages {es : List Event} (h : socketClosed ∈ es) : .closed ∈ stages es :=
  List.mem_filterMap.mpr ⟨_, h, rfl⟩

end Event

open Event (stages)

/-! ## Scripts -/

/-- The loop of the sweeper holds no stage if its sweeps hold none. -/
theorem Sweeper.stages_rounds {interval : Float} {ready : List Sweeper.Round}
    (h : ∀ r ∈ ready, stages r.events = []) : stages (Sweeper.rounds interval ready) = [] := by
  induction ready with
  | nil => rfl
  | cons r ready ih =>
    obtain ⟨hr, hready⟩ := List.forall_mem_cons.mp h
    rw [Sweeper.rounds, List.cons_append, List.cons_append, Event.stages_cons_of_none rfl,
      Event.stages_append, Event.stages_append, hr, Event.stages_logged, ih hready]
    rfl

/-- A sweep of the store logs and does nothing else. -/
theorem Server.stages_sweepAt (store : Store) (readings : List Float) :
    ∀ r ∈ (Server.sweepAt store readings).2, stages r.events = [] := by
  induction readings generalizing store with
  | nil => exact List.forall_mem_nil _
  | cons now later ih =>
    exact List.forall_mem_cons.mpr ⟨Event.stages_logged _, ih (store.sweep now).store⟩

namespace Replay.Session

/-- No line of a script holds a stage. -/
theorem stages_perform (s : Session) (a : Action) : stages (s.perform a).2.events = [] := by
  cases a with
  | receive datagram source =>
    rw [perform, take]
    split
    · rfl
    · exact Event.stages_of_lifecycle (Server.receive_lifecycle ..)
  | tick n => exact Sweeper.stages_rounds (Server.stages_sweepAt _ _)
  | send value recipient => exact Event.stages_of_lifecycle (Server.send_lifecycle ..)
  | advance | setFault => rfl

/-- No script does. -/
theorem stages_reports (s : Session) (poll : Float) (script : List Action) :
    stages ((s.run poll script).reports.flatMap (·.events)) = [] := by
  refine Event.stages_flatMap_eq_nil fun report hreport => ?_
  rw [run_eq] at hreport
  obtain ⟨l, hl, rfl⟩ := List.mem_map.mp hreport
  rw [(mem_lines hl).2]
  exact stages_perform l.before l.action

/-- The error by which a script ends early: a datagram comes in and the socket cannot be asked for
    so much of it, or a value goes out although its parts cannot be listed.  The arguments are why
    that cannot be asked for, and why nothing can be sent at present, if that is so. -/
def raisedBy? (unread : Option Text) : Option Text → List Action → Option Escape
  | _, [] => none
  | _, .setFault fault :: rest => raisedBy? unread fault rest
  | fault, .receive .. :: rest => (unread.map Escape.unread).or (raisedBy? unread fault rest)
  | none, .send value _ :: rest =>
    match value.sortedParts with
    | .ok _ => raisedBy? unread none rest
    | .error parts => some (.unlisted parts)
  | fault, _ :: rest => raisedBy? unread fault rest

/-- Why a session cannot take a datagram from its socket, if that is so. -/
def unread? (s : Session) : Option Text := s.server.platform.unreadable s.server.maxPacket

theorem unread?_perform (s : Session) (a : Action) : (s.perform a).1.unread? = s.unread? := by
  rw [unread?, server_perform]
  rfl

/-- One line ends serving, or leaves the rest of the script to do so. -/
theorem raisedBy?_cons (s : Session) (a : Action) (rest : List Action) :
    raisedBy? s.unread? s.fault (a :: rest) =
      (s.perform a).2.result.escape?.or (raisedBy? s.unread? (s.perform a).1.fault rest) := by
  obtain ⟨server, sources, fault⟩ := s
  cases a with
  | receive datagram source =>
    rw [raisedBy?, perform, take, unread?]
    cases server.platform.unreadable server.maxPacket <;> rfl
  | send value recipient =>
    cases fault with
    | some why => rfl
    | none =>
      show raisedBy? _ none (.send value recipient :: rest) = _
      rw [raisedBy?]
      cases hparts : value.sortedParts <;>
        simp [perform, send, Server.send, Server.sendTo, hparts, Result.escape?]
  | advance | tick | setFault => cases fault <;> rfl

/-- Where a script ends early is the error of the line that ended it. -/
theorem escape?_performAll (s : Session) (script : List Action) :
    (s.performAll script).2.getLast?.bind (·.result.escape?) =
      raisedBy? s.unread? s.fault script := by
  induction script generalizing s with
  | nil => cases s.fault <;> rfl
  | cons a rest ih =>
    rw [performAll, raisedBy?_cons, ← unread?_perform s a]
    cases hended : (s.perform a).2.result.escape? with
    | some why => simp [hended]
    | none =>
      simp only [hended, Option.isSome_none, Bool.false_eq_true, if_false, Option.none_or]
      rw [← ih]
      -- the report of this line is the last only if the script ends here, and then it ends nothing
      cases ((s.perform a).1.performAll rest).2 with
      | nil => exact hended
      | cons report reports => rw [List.getLast?_cons_cons]

/-- A server that has heard from nobody starts its sweeper when it begins to serve and joins it when
    serving has ended; to close it after that repeats the request to stop. -/
theorem run_ofSettings (s : Settings) (platform : Platform) (sources : Sources) (poll : Float)
    (script : List Action) :
    let t := run { server := Server.ofSettings s platform, sources } poll script
    t.opening = [.threadCreated, .threadStarted, .serving poll] ∧
      t.leaving = [.stopRequested, .joined none] ∧ t.closing = [.stopRequested, .socketClosed] := by
  rw [run_eq]
  exact ⟨rfl, rfl, rfl⟩

theorem escape?_run (s : Session) (poll : Float) (script : List Action) :
    (s.run poll script).escape? = raisedBy? s.unread? s.fault script :=
  escape?_performAll (s.serving poll) script

end Replay.Session

/-! ## Ports and levels -/

/-- A port to which a socket can be bound. -/
def Port.IsValid (n : Int) : Prop := 1 ≤ n ∧ n ≤ 65535

instance (n : Int) : Decidable (Port.IsValid n) := inferInstanceAs (Decidable (_ ∧ _))

/-- The command line gives a port that is no whole number from 1 to 65535.  A port that comes from
    elsewhere is not looked at. -/
def Port.IsWrong (arguments : List Text) : Prop :=
  ∃ name t rest, arguments = name :: t :: rest ∧
    ∀ n, Numeral.whole? t = some n → ¬(1 ≤ n ∧ n ≤ 65535)

/-- The variable is set to a whole number that is no valid port, and there is no argument. -/
def Port.Unchecked (arguments : List Text) (env : Environment) (name : Text) : Prop :=
  arguments.length < 2 ∧ ∃ n, env.whole? name = some n ∧ ¬Port.IsValid n

/-- The port that a program is told to bind, by whatever means, is no valid one. -/
def Port.IsInvalid (arguments : List Text) (env : Environment) (name : Text) : Prop :=
  Port.IsWrong arguments ∨ Port.Unchecked arguments env name

/-- A command line has a port exactly if it does not give a wrong one. -/
theorem Port.ofArguments_cases (arguments : List Text) (fallback : Int) :
    (Port.IsWrong arguments ∧ ∃ fault, Port.ofArguments arguments fallback = .error fault) ∨
      (¬Port.IsWrong arguments ∧ ∃ port, Port.ofArguments arguments fallback = .ok port) := by
  match arguments with
  | [] | [name] => exact .inr ⟨by rintro ⟨_, _, _, ⟨⟩, -⟩, fallback, rfl⟩
  | name :: t :: rest =>
    rw [Port.ofArguments, Port.ofText]
    cases ht : Numeral.whole? t with
    | none => exact .inl ⟨⟨name, t, rest, rfl, by simp [ht]⟩, _, rfl⟩
    | some n =>
      by_cases hn : n < 1 ∨ 65535 < n
      · refine .inl ⟨⟨name, t, rest, rfl, ?_⟩, .outOfRange n, by simp [hn]⟩
        rintro _ h
        obtain rfl := Option.some.inj (ht.symm.trans h)
        omega
      · refine .inr ⟨?_, n, by simp [hn]⟩
        rintro ⟨_, _, _, ⟨⟩, hwrong⟩
        exact hwrong n ht (by omega)

/-- The name of the log level, if there is one, is that of a level or means nothing. -/
def Logging.IsPlain (name : Option Text) : Prop :=
  ∀ t, name = some t → t.upper ≠ "BASIC_FORMAT" ∧ t.upper ≠ "_STYLES"

/-- Such a name is no fault. -/
theorem Logging.setUp_of_isPlain (log : Logging.State) {name : Option Text}
    (h : Logging.IsPlain name) : (Logging.setUp log name).2 = none := by
  have hlevel : ∃ n, Logging.severity (name.getD "INFO") = .ok n := by
    cases name with
    | none => exact ⟨20, rfl⟩
    | some t =>
      obtain ⟨hformat, hstyles⟩ := h t rfl
      rw [Option.getD_some, Logging.severity]
      simp only [if_neg hformat, if_neg hstyles]
      split
      · exact ⟨_, rfl⟩
      · exact ⟨_, rfl⟩
  obtain ⟨n, hn⟩ := hlevel
  rw [Logging.setUp]
  simp only [hn]

namespace Launch.Matchmaking

open Replay (Session)

variable {log : Logging.State} {arguments : List Text} {env : Environment} {script : Script}
  {o : Outcome}

/-! ## Courses -/

/-- The error by which serving a script ends early, if it does. -/
def Script.raised? (script : Script) (maxPacket : Int) : Option Escape :=
  Session.raisedBy? (script.platform.unreadable maxPacket) none script.actions

/-- How much of a datagram is looked at by the server that is launched. -/
def packetSize (env : Environment) : Int := (env.whole? "PUNCH_MAX_PACKET").getD 2048

/-- The socket is closed at one place, and nothing is done after it but to log. -/
def ClosesLast (es : List Event) : Prop :=
  ∃ before after, es = before ++ .socketClosed :: after ∧ .socketClosed ∉ before ∧
    ∀ e ∈ after, ∃ n, e = .logged n

theorem closesLast_append {before after : List Event} (hbefore : .closed ∉ stages before)
    (hafter : ∀ e ∈ after, ∃ n, e = .logged n) : ClosesLast (before ++ .socketClosed :: after) :=
  ⟨before, after, rfl, fun h => hbefore (Event.closed_mem_stages h), hafter⟩

/-- The course of a launch. -/
inductive Course (arguments : List Text) (maxPacket : Int) (script : Script) (o : Outcome) : Prop
  /-- It is refused for its port, before anything is built. -/
  | refused (wrong : Port.IsWrong arguments) (exit : o.exit = .code 1)
      (settings : o.settings = none) (events : o.events = [])
  /-- The port cannot be bound: the system refuses it, or no socket can have it. -/
  | unbound {fault : BindFault} (right : ¬Port.IsWrong arguments)
      (unbindable : script.bindFault = some fault)
      (exit : o.exit = match fault with
        | .refused _ => .code 1
        | .unfit why => .escaped (.unbound why))
      (settings : o.settings.isSome)
      (stages : stages o.events = [.bound, .stopRequested, .closed]) (closes : ClosesLast o.events)
  /-- It serves. -/
  | served (right : ¬Port.IsWrong arguments) (bindable : script.bindFault = none)
      (exit : o.exit = match script.raised? maxPacket with
        | some why => .escaped why
        | none => Exit.ofEnding script.ending)
      (settings : o.settings.isSome)
      (stages : stages o.events = [.bound, .created, .started, .serving, .stopRequested, .joined,
        .stopRequested, .closed])
      (closes : ClosesLast o.events)

theorem course_of_unbindable (right : ¬Port.IsWrong arguments) (s : Settings) {fault : BindFault}
    (h : script.bindFault = some fault) :
    Course arguments s.maxPacket script (serve log s script) := by
  -- the two faults differ in what is logged at the end
  obtain ⟨notices, hevents⟩ : ∃ notices : List Notice, (serve log s script).events =
      [.bound s.host s.port, .stopRequested] ++ .socketClosed :: notices.map .logged := by
    cases fault with
    | refused why =>
      refine ⟨[.serverFailed s.host s.port why], ?_⟩
      simp only [serve, h]
      rfl
    | unfit why =>
      refine ⟨[], ?_⟩
      simp only [serve, h]
      rfl
  refine .unbound right h ?exit ?settings ?stages ?closes
  case exit => cases fault <;> simp [serve, h]
  case settings => cases fault <;> simp [serve, h]
  case stages =>
    rw [hevents]
    show [.bound, .stopRequested] ++ .closed :: stages (notices.map .logged) = _
    rw [Event.stages_logged]
    rfl
  case closes =>
    rw [hevents]
    refine closesLast_append (by simp [Event.stages, Event.stage?]) ?_
    intro e he
    obtain ⟨n, -, rfl⟩ := List.mem_map.mp he
    exact ⟨n, rfl⟩

/-- A launch that serves closes the socket as the last of its stages. -/
theorem events_of_bindable (log : Logging.State) (s : Settings) (h : script.bindFault = none) :
    ∃ before, (serve log s script).events = before ++ .socketClosed :: [] ∧ stages before =
      [.bound, .created, .started, .serving, .stopRequested, .joined, .stopRequested] := by
  obtain ⟨hopening, hleaving, hclosing⟩ :=
    Session.run_ofSettings s script.platform script.sources poll script.actions
  have hduring := Session.stages_reports
    { server := Server.ofSettings s script.platform, sources := script.sources } poll script.actions
  simp only [serve, h, Outcome.events]
  generalize Session.run _ poll script.actions = t at *
  rw [hopening, hleaving, hclosing]
  -- what is logged about an interrupt, between the two stops
  generalize hfarewell : (if t.escape?.isNone && script.ending = .interrupted then
    [Event.logged (.shuttingDown .server)] else []) = farewell
  have hquiet : stages farewell = [] := by
    rw [← hfarewell]
    split <;> rfl
  refine ⟨[ .bound s.host s.port,
      .logged (.serverReady s.host s.port s.peerTimeout s.sweepInterval),
      .threadCreated, .threadStarted, .serving poll ] ++ t.reports.flatMap (·.events) ++
    [.stopRequested, .joined none] ++ farewell ++ [.stopRequested], by simp, ?_⟩
  simp only [Event.stages_append, hduring, hquiet]
  rfl

theorem course_of_bindable (right : ¬Port.IsWrong arguments) (s : Settings)
    (h : script.bindFault = none) :
    Course arguments s.maxPacket script (serve log s script) := by
  obtain ⟨before, hevents, hbefore⟩ := events_of_bindable log s h
  refine .served right h ?_ (by simp [serve, h]) ?_ ?_
  · have hraised : (Session.run
        { server := Server.ofSettings s script.platform, sources := script.sources } poll
        script.actions).escape? = script.raised? s.maxPacket := Session.escape?_run _ _ _
    cases hscript : script.raised? s.maxPacket with
    | none | some why => simp only [serve, h, hraised, hscript]
  · rw [hevents, Event.stages_append, hbefore]
    rfl
  · rw [hevents]
    exact closesLast_append (by rw [hbefore]; decide) (List.forall_mem_nil _)

/-- Every launch takes one of the three courses. -/
theorem launch_course (hlevel : Logging.IsPlain (env.get? "PUNCH_LOG_LEVEL")) :
    Course arguments (packetSize env) script (launch log arguments env script) := by
  have hsetUp := Logging.setUp_of_isPlain log hlevel
  rw [launch]
  generalize Logging.setUp log (env.get? "PUNCH_LOG_LEVEL") = r at hsetUp
  obtain ⟨log', fault?⟩ := r
  obtain rfl : fault? = none := hsetUp
  rcases Port.ofArguments_cases arguments (portFallback env) with
    ⟨wrong, fault, hport⟩ | ⟨right, port, hport⟩
  · simp only [hport]
    exact .refused wrong rfl rfl rfl
  · simp only [hport]
    cases hbind : script.bindFault with
    | some fault => exact course_of_unbindable right (settings env port) hbind
    | none => exact course_of_bindable right (settings env port) hbind

/-! ## How a launch ends -/

/-- The port is right and can be bound. -/
def Serves (arguments : List Text) (script : Script) : Prop :=
  ¬Port.IsWrong arguments ∧ script.bindFault = none

/-- Exit code, socket and sweeper of a launch. -/
structure ShutsDown (arguments : List Text) (maxPacket : Int) (script : Script) (o : Outcome) :
    Prop where
  /-- The exit code is 1 if the argument is wrong or the system refuses the port... -/
  failed : o.exit = .code 1 ↔
    Port.IsWrong arguments ∨ ∃ why, script.bindFault = some (.refused why)
  /-- ... and 0 if serving comes to its end or is interrupted... -/
  finished : o.exit = .code 0 ↔ Serves arguments script ∧ script.raised? maxPacket = none ∧
    (script.ending = .returned ∨ script.ending = .interrupted)
  /-- ... and what crashes serving ends the program. -/
  crashed : ∀ why, o.exit = .crashed why ↔
    Serves arguments script ∧ script.raised? maxPacket = none ∧ script.ending = .crashed why
  /-- So does an error of the socket or of the log that nobody catches. -/
  escaped : ∀ why, o.exit = .escaped why ↔
    (¬Port.IsWrong arguments ∧ ∃ unfit, script.bindFault = some (.unfit unfit) ∧
      why = .unbound unfit) ∨
    Serves arguments script ∧ script.raised? maxPacket = some why
  /-- A server is begun to be built unless the argument is wrong. -/
  built : o.settings.isSome ↔ ¬Port.IsWrong arguments
  /-- With a wrong argument nothing is done at all. -/
  refused : Port.IsWrong arguments → o.events = []
  /-- A server that is begun to be built closes its socket once, at the end. -/
  closes : o.settings.isSome → ClosesLast o.events
  /-- If the port cannot be bound, there is no thread. -/
  unbound : ¬Port.IsWrong arguments → script.bindFault.isSome →
    stages o.events = [.bound, .stopRequested, .closed]
  /-- If it can, one is created and started before the loop, and joined after it, behind the request
      to stop and before the socket is closed. -/
  served : Serves arguments script → stages o.events =
    [.bound, .created, .started, .serving, .stopRequested, .joined, .stopRequested, .closed]
  /-- So there is a thread exactly if the server serves. -/
  threaded : .created ∈ stages o.events ↔ Serves arguments script

theorem Course.shutsDown {maxPacket : Int} (h : Course arguments maxPacket script o) :
    ShutsDown arguments maxPacket script o := by
  cases h with
  | refused wrong exit settings events =>
    constructor <;> simp [wrong, exit, settings, events, Serves]
  | @unbound fault right unbindable exit settings stages closes =>
    have hserves : ¬Serves arguments script := fun h => by simp [h.2] at unbindable
    cases fault with
    | refused why =>
      constructor <;> simp [right, unbindable, exit, settings, stages, closes, hserves]
    | unfit why =>
      constructor <;> simp [right, unbindable, exit, settings, stages, closes, hserves]
      exact fun _ => eq_comm
  | served right bindable exit settings stages closes =>
    have hserves : Serves arguments script := ⟨right, bindable⟩
    cases hraised : script.raised? maxPacket with
    | none =>
      rw [hraised] at exit
      cases hending : script.ending with
      | returned | interrupted | crashed =>
        rw [hending] at exit
        constructor <;> simp [right, bindable, exit, Exit.ofEnding, settings, stages, closes,
          hserves, hraised, hending]
    | some why =>
      rw [hraised] at exit
      constructor <;>
        simp [right, bindable, exit, settings, stages, closes, hserves, hraised]

/-! ## What is meant to happen -/

/-- How a launch is meant to end: an invalid port and one that cannot be bound are exit code 1, and
    nothing but a crash ends the program in another way than with an exit code. -/
structure EndsAsMeant (arguments : List Text) (env : Environment) (script : Script) (o : Outcome) :
    Prop where
  failed : o.exit = .code 1 ↔
    Port.IsInvalid arguments env "PUNCH_PORT" ∨ script.bindFault.isSome
  refused : Port.IsInvalid arguments env "PUNCH_PORT" → o.settings = none ∧ o.events = []
  finished : o.exit = .code 0 ↔ ¬Port.IsInvalid arguments env "PUNCH_PORT" ∧
    script.bindFault = none ∧ (script.ending = .returned ∨ script.ending = .interrupted)
  crashed : ∀ why, o.exit = .crashed why ↔ ¬Port.IsInvalid arguments env "PUNCH_PORT" ∧
    script.bindFault = none ∧ script.ending = .crashed why
  closes : o.settings.isSome → ClosesLast o.events
  unbound : ¬Port.IsInvalid arguments env "PUNCH_PORT" → script.bindFault.isSome →
    stages o.events = [.bound, .stopRequested, .closed]
  served : ¬Port.IsInvalid arguments env "PUNCH_PORT" → script.bindFault = none →
    stages o.events =
      [.bound, .created, .started, .serving, .stopRequested, .joined, .stopRequested, .closed]
  threaded : .created ∈ stages o.events ↔
    ¬Port.IsInvalid arguments env "PUNCH_PORT" ∧ script.bindFault = none

/-- No number of the environment, no host, no port and no error of a socket gets past the checks. -/
structure IsFit (arguments : List Text) (env : Environment) (script : Script) : Prop where
  checked : ¬Port.Unchecked arguments env "PUNCH_PORT"
  bindable : ∀ why, script.bindFault ≠ some (.unfit why)
  quiet : script.bindFault = none → script.raised? (packetSize env) = none

/-- What is fit and serves is not ended early. -/
theorem IsFit.serves_iff (h : IsFit arguments env script) {p : Prop} :
    Serves arguments script ∧ script.raised? (packetSize env) = none ∧ p ↔
      ¬Port.IsWrong arguments ∧ script.bindFault = none ∧ p := by
  constructor
  · rintro ⟨⟨hright, hbind⟩, -, hp⟩
    exact ⟨hright, hbind, hp⟩
  · rintro ⟨hright, hbind, hp⟩
    exact ⟨⟨hright, hbind⟩, h.quiet hbind, hp⟩

/-- What is wrong with a launch that does not end as it is meant to. -/
theorem ShutsDown.endsAsMeant_iff (h : ShutsDown arguments (packetSize env) script o) :
    EndsAsMeant arguments env script o ↔ Port.IsWrong arguments ∨ IsFit arguments env script := by
  constructor
  · intro hmeant
    by_cases hwrong : Port.IsWrong arguments
    · exact .inl hwrong
    have hchecked : ¬Port.Unchecked arguments env "PUNCH_PORT" := by
      intro hunchecked
      have hbuilt := h.built.mpr hwrong
      rw [(hmeant.refused (.inr hunchecked)).1] at hbuilt
      nomatch hbuilt
    have hvalid : ¬Port.IsInvalid arguments env "PUNCH_PORT" := not_or.mpr ⟨hwrong, hchecked⟩
    refine .inr ⟨hchecked, fun why hunfit => ?_, fun hbind => ?_⟩
    · have hexit : o.exit = .code 1 := hmeant.failed.mpr (.inr (by rw [hunfit]; rfl))
      rcases h.failed.mp hexit with hwrong' | ⟨refused, hrefused⟩
      · exact hwrong hwrong'
      · nomatch hunfit.symm.trans hrefused
    · cases hraised : script.raised? (packetSize env) with
      | none => rfl
      | some why =>
        have hescaped := (h.escaped why).mpr (.inr ⟨⟨hwrong, hbind⟩, hraised⟩)
        -- however serving was to end, the exit is meant to be another one
        cases hending : script.ending with
        | returned =>
          nomatch hescaped.symm.trans (hmeant.finished.mpr ⟨hvalid, hbind, .inl hending⟩)
        | interrupted =>
          nomatch hescaped.symm.trans (hmeant.finished.mpr ⟨hvalid, hbind, .inr hending⟩)
        | crashed crash =>
          nomatch hescaped.symm.trans ((hmeant.crashed crash).mpr ⟨hvalid, hbind, hending⟩)
  · rintro (hwrong | hfit)
    · have hinvalid : Port.IsInvalid arguments env "PUNCH_PORT" := .inl hwrong
      have hexit := h.failed.mpr (.inl hwrong)
      have hsettings : o.settings = none := by
        rw [← Option.not_isSome_iff_eq_none, h.built]
        exact fun hright => hright hwrong
      constructor <;> simp [hinvalid, hexit, hsettings, h.refused hwrong]
    · have hinvalid : Port.IsInvalid arguments env "PUNCH_PORT" ↔ Port.IsWrong arguments :=
        or_iff_left hfit.checked
      have hrefused : (∃ why, script.bindFault = some (.refused why)) ↔
          script.bindFault.isSome := by
        cases hbind : script.bindFault with
        | none => simp
        | some fault =>
          cases fault with
          | refused why => simp
          | unfit why => exact absurd hbind (hfit.bindable why)
      constructor
      · rw [hinvalid, ← hrefused]
        exact h.failed
      · rw [hinvalid]
        intro hwrong
        rw [← Option.not_isSome_iff_eq_none, h.built]
        exact ⟨fun hright => hright hwrong, h.refused hwrong⟩
      · rw [hinvalid, h.finished, hfit.serves_iff]
      · intro why
        rw [hinvalid, h.crashed, hfit.serves_iff]
      · exact h.closes
      · rw [hinvalid]
        exact h.unbound
      · rw [hinvalid]
        exact fun hright hbind => h.served ⟨hright, hbind⟩
      · rw [hinvalid]
        exact h.threaded

/-- **How every launch ends**, for every command line, environment and script, if the environment
    gives no name of a log level that means something else.  It ends as it is meant to if it is
    refused for its argument or nothing unfit gets past the checks, and only then: a port of the
    environment is not looked at, and an error other than that of the system is not caught. -/
theorem shutdown_as_meant_iff (log : Logging.State) (arguments : List Text) (env : Environment)
    (script : Script) (hlevel : Logging.IsPlain (env.get? "PUNCH_LOG_LEVEL")) :
    let o := launch log arguments env script
    ShutsDown arguments (packetSize env) script o ∧
      (EndsAsMeant arguments env script o ↔
        Port.IsWrong arguments ∨ IsFit arguments env script) := by
  intro o
  have hshuts : ShutsDown arguments (packetSize env) script o := (launch_course hlevel).shutsDown
  exact ⟨hshuts, hshuts.endsAsMeant_iff⟩

/-- An environment with a name for the log level that means nothing. -/
def verbose : Environment := Table.ofList [("PUNCH_LOG_LEVEL", "verbose")]

/-- Two clients meet, the sweeper makes a round, and serving crashes. -/
def crash : Script :=
  { platform := .plain
    sources := ⟨⟨1000, 0⟩, ⟨[], 0⟩⟩
    actions := [Session.client "a" "b", Session.client "b" "a", .tick 1]
    ending := .crashed "boom" }

/-- The crash ends the program, with the sweeper joined and the socket closed, and that is meant to
    be so.  If the socket cannot be asked for a datagram, serving ends with the first one instead. -/
theorem shutdown_of_crash :
    let o := launch {} ["server", "4000"] verbose crash
    let unread := launch {} ["server", "4000"] verbose
      { crash with platform := ⟨.lowest, fun _ => some "too much"⟩ }
    (o.exit = .crashed "boom" ∧ ClosesLast o.events ∧ stages o.events =
      [.bound, .created, .started, .serving, .stopRequested, .joined, .stopRequested, .closed] ∧
      EndsAsMeant ["server", "4000"] verbose crash o) ∧
    unread.exit = .escaped (.unread "too much") ∧ ClosesLast unread.events := by
  have hlevel : Logging.IsPlain (verbose.get? "PUNCH_LOG_LEVEL") := by
    intro t ht
    obtain rfl : "verbose" = t := Option.some.inj ht
    decide
  have hport : ¬Port.IsWrong ["server", "4000"] := by
    rintro ⟨name, t, rest, ⟨⟩, hwrong⟩
    exact hwrong 4000 (by decide) (by decide)
  have hserves : Serves ["server", "4000"] crash := ⟨hport, rfl⟩
  obtain ⟨hends, hmeant⟩ := shutdown_as_meant_iff {} ["server", "4000"] verbose crash hlevel
  have hfit : IsFit ["server", "4000"] verbose crash :=
    ⟨fun h => absurd h.1 (by decide), nofun, fun _ => rfl⟩
  have hunread := (shutdown_as_meant_iff {} ["server", "4000"] verbose
    { crash with platform := ⟨.lowest, fun _ => some "too much"⟩ } hlevel).1
  exact ⟨⟨(hends.crashed "boom").mpr ⟨hserves, rfl, rfl⟩, hends.closes (hends.built.mpr hport),
      hends.served hserves, hmeant.mpr (.inr hfit)⟩,
    (hunread.escaped _).mpr (.inr ⟨⟨hport, rfl⟩, rfl⟩), hunread.closes (hunread.built.mpr hport)⟩

/-- An environment with a number that is no port. -/
def strayPort : Environment := Table.ofList [("PUNCH_PORT", "70000")]

/-- A server that nobody talks to. -/
def Script.deserted : Script :=
  { platform := .plain, sources := ⟨⟨1000, 0⟩, ⟨[], 0⟩⟩, actions := [], ending := .returned }

/-- **A port of the environment that no socket can have does not end a launch as it is meant to**: a
    server is built and asks for it.  Where that raises an error the program does not end with an
    exit code, and where it does not the server serves. -/
theorem stray_port_not_refused :
    ¬(∀ (arguments : List Text) (env : Environment) (script : Script),
      Logging.IsPlain (env.get? "PUNCH_LOG_LEVEL") →
      EndsAsMeant arguments env script (launch {} arguments env script)) ∧
    (launch {} ["server"] strayPort .deserted).exit = .code 0 ∧
    (launch {} ["server"] strayPort
      { Script.deserted with bindFault := some (.unfit "not 0-65535") }).exit =
        .escaped (.unbound "not 0-65535") := by
  refine ⟨fun h => ?_, by decide, by decide⟩
  have hinvalid : Port.IsInvalid ["server"] strayPort "PUNCH_PORT" :=
    .inr ⟨by decide, 70000, by decide, by decide⟩
  have hexit := (h ["server"] strayPort .deserted nofun).failed.mpr (.inl hinvalid)
  have hactual : (launch {} ["server"] strayPort .deserted).exit = .code 0 := by decide
  nomatch hexit.symm.trans hactual

end Launch.Matchmaking

end Rendezvous
