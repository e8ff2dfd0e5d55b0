import Rendezvous.Proofs.SendFailures

/-!
# Sweepers that are started again

A sweeper is started and stopped in any order and as often as its owner likes: a server that serves
again starts its sweeper again.  A start creates a thread unless one is held, and a stop lets that
thread go, so that the next start creates another one.  But the request to stop, by which a stop ends
the loop of the thread, is never withdrawn (`stopRequested_after`).  The loop of every later thread
finds it at its first wait and ends there, long before the next stop, and the tables are not swept
any more.  A stop that is refused, as nobody can wait for the thread so long, makes the request as
well.

So a thread goes on sweeping exactly if no stop ever came before its start.

* `sweeps_iff_never_stopped`: the threads of a sweeper, and those of a server that serves again;
* `restarted_never_sweeps`: a sweeper that was started, stopped and started.
-/

namespace Rendezvous

/-! ## Waits and sweeps -/

/-- Whether the sweeper waits or sweeps. -/
def Event.isBeat : Event → Bool
  | .waited _ => true
  | .swept => true
  | _ => false

namespace Sweeper

variable {s : Sweeper} {interval : Float} {ready : List Round} {calls : List Call}

/-- The loop sweeps once in such a round, whatever else is done there. -/
def Round.IsSweep (r : Round) : Prop := r.events.filter Event.isBeat = [.swept]

/-- One sweep after each of so many waits, and the wait that reports the stop. -/
def beats (interval : Float) (n : Nat) : List Event :=
  (List.replicate n [.waited interval, .swept]).flatten ++ [.waited interval]

theorem beats_succ (interval : Float) (n : Nat) :
    beats interval (n + 1) = .waited interval :: .swept :: beats interval n := rfl

theorem length_beats (interval : Float) (n : Nat) : (beats interval n).length = 2 * n + 1 := by
  induction n with
  | zero => rfl
  | succ n ih =>
    rw [beats_succ, List.length_cons, List.length_cons, ih]
    omega

theorem filter_isBeat_logged (ns : List Notice) : (ns.map .logged).filter Event.isBeat = [] := by
  induction ns with
  | nil => rfl
  | cons n ns ih => exact (List.filter_cons_of_neg Bool.false_ne_true).trans ih

/-- A loop that is not told to stop sweeps in each of its rounds, even if a sweep fails. -/
theorem filter_isBeat_rounds (h : ∀ r ∈ ready, r.IsSweep) :
    (rounds interval ready).filter Event.isBeat = beats interval ready.length := by
  induction ready with
  | nil => rfl
  | cons r ready ih =>
    obtain ⟨hr, hready⟩ := List.forall_mem_cons.mp h
    rw [Round.IsSweep] at hr
    rw [rounds, List.cons_append, List.cons_append, List.filter_cons_of_pos rfl,
      List.filter_append, List.filter_append, hr, filter_isBeat_logged, ih hready]
    rfl

/-- The thread goes on sweeping: there is one sweep for each wait that elapses, until a wait reports
    the stop. -/
def Sweeps (s : Sweeper) : Prop :=
  ∀ ready : List Round, (∀ r ∈ ready, r.IsSweep) →
    (s.loop ready).filter Event.isBeat = beats s.interval ready.length

/-- Once a stop was requested, the first wait ends the loop. -/
theorem loop_of_stopRequested (h : s.stopRequested = true) (ready : List Round) :
    s.loop ready = [.waited s.interval] := by
  rw [loop, h]
  rfl

theorem sweeps_iff : s.Sweeps ↔ s.stopRequested = false := by
  constructor
  · intro hsweeps
    refine Bool.eq_false_iff.mpr fun hstop => ?_
    -- a single sweep that is ready is not made
    have hone := hsweeps [⟨[.swept], .failed⟩] (List.forall_mem_singleton.mpr rfl)
    rw [loop_of_stopRequested hstop] at hone
    have hlength := congrArg List.length hone
    rw [length_beats] at hlength
    nomatch hlength
  · intro hgoing ready hready
    rw [loop, hgoing]
    exact filter_isBeat_rounds hready

/-! ## Calls -/

/-- What an owner asks of a sweeper. -/
inductive Call where
  /-- To start. -/
  | start
  /-- To stop, waiting at most so many seconds if a number is given.  `refusal` is why nobody can
      wait so long, if that is so. -/
  | stop (timeout : Option Float) (refusal : Option Text)

/-- Whether a call asks the sweeper to stop. -/
def Call.isStop : Call → Bool
  | .start => false
  | .stop .. => true

/-- Answers a call. -/
def answer (s : Sweeper) : Call → Answer
  | .start => s.start
  | .stop timeout refusal => s.stop timeout refusal

/-- The sweeper after some calls. -/
def after (s : Sweeper) (calls : List Call) : Sweeper :=
  calls.foldl (fun s call => (s.answer call).sweeper) s

theorem after_append (s : Sweeper) (before later : List Call) :
    s.after (before ++ later) = (s.after before).after later :=
  List.foldl_append

/-! ### One call -/

theorem start_of_held (h : s.held = true) : s.start = { sweeper := s, events := [] } := by
  rw [start, if_pos h]

theorem start_of_idle (h : s.held = false) :
    s.start =
      { sweeper := { s with held := true }
        events := [.threadCreated, .threadStarted] } := by
  rw [start, if_neg (by simp [h])]

theorem stop_of_held (h : s.held = true) (timeout : Option Float) :
    s.stop timeout none =
      { sweeper := { s with stopRequested := true, held := false }
        events := [.stopRequested, .joined timeout] } := by
  unfold stop
  exact if_pos h

theorem stop_of_refused (h : s.held = true) (timeout : Option Float) (why : Text) :
    s.stop timeout (some why) =
      { sweeper := { s with stopRequested := true }
        events := [.stopRequested]
        raised := some why } := by
  unfold stop
  exact if_pos h

theorem stop_of_idle (h : s.held = false) (timeout : Option Float) (refusal : Option Text) :
    s.stop timeout refusal =
      { sweeper := { s with stopRequested := true }, events := [.stopRequested] } := by
  unfold stop
  exact if_neg (by simp [h])

/-- A stop lets the thread go unless it is refused. -/
theorem answer_stop (s : Sweeper) (timeout : Option Float) (refusal : Option Text) :
    (s.answer (.stop timeout refusal)).sweeper =
      { s with stopRequested := true, held := s.held && refusal.isSome } := by
  rw [answer]
  cases hheld : s.held with
  | false =>
    rw [stop_of_idle hheld, Bool.false_and, ← hheld]
  | true =>
    cases refusal with
    | none =>
      rw [stop_of_held hheld]
      rfl
    | some why =>
      rw [stop_of_refused hheld, Option.isSome_some, Bool.and_true, ← hheld]

theorem answer_start (s : Sweeper) : (s.answer .start).sweeper = { s with held := true } := by
  rw [answer]
  cases hheld : s.held with
  | false => rw [start_of_idle hheld]
  | true => rw [start_of_held hheld, ← hheld]

/-! ### Many calls -/

theorem interval_answer (s : Sweeper) (call : Call) :
    (s.answer call).sweeper.interval = s.interval := by
  cases call with
  | start => rw [answer_start]
  | stop timeout refusal => rw [answer_stop]

theorem stopRequested_answer (s : Sweeper) (call : Call) :
    (s.answer call).sweeper.stopRequested = (s.stopRequested || call.isStop) := by
  cases call with
  | start => rw [answer_start, Call.isStop, Bool.or_false]
  | stop timeout refusal => rw [answer_stop, Call.isStop, Bool.or_true]

/-- A thread that is held is held until the next stop. -/
theorem held_after (hheld : s.held) (h : ∀ call ∈ calls, ¬call.isStop) : (s.after calls).held := by
  induction calls generalizing s with
  | nil => exact hheld
  | cons call calls ih =>
    obtain ⟨hcall, hcalls⟩ := List.forall_mem_cons.mp h
    cases call with
    | start =>
      have hstarted : (s.answer .start).sweeper.held = true := by rw [answer_start]
      exact ih hstarted hcalls
    | stop => exact absurd rfl hcall

theorem interval_after (s : Sweeper) (calls : List Call) :
    (s.after calls).interval = s.interval := by
  induction calls generalizing s with
  | nil => rfl
  | cons call calls ih => exact (ih _).trans (interval_answer s call)

/-- **A request to stop is never withdrawn.** -/
theorem stopRequested_after (s : Sweeper) (calls : List Call) :
    (s.after calls).stopRequested = (s.stopRequested || calls.any Call.isStop) := by
  induction calls generalizing s with
  | nil => exact (Bool.or_false _).symm
  | cons call calls ih =>
    show ((s.answer call).sweeper.after calls).stopRequested = _
    rw [ih, stopRequested_answer, List.any_cons, Bool.or_assoc]

/-- A thread with this interval is held, and it goes on sweeping unless a stop came before its start.
    In that case it ends at its first wait. -/
structure SweepsUnless (s : Sweeper) (interval : Float) (stopped : Prop) : Prop where
  held : s.held
  same : s.interval = interval
  sweeps : s.Sweeps ↔ ¬stopped
  idle : stopped → ∀ ready, s.loop ready = [.waited interval]

/-- What holds of a thread from a start on until the next stop. -/
theorem sweepsUnless_after (interval : Float) (before later : List Call)
    (h : ∀ call ∈ later, ¬call.isStop) :
    SweepsUnless (({ interval } : Sweeper).after (before ++ .start :: later)) interval
      (∃ call ∈ before, call.isStop) := by
  have hrequested : (({ interval } : Sweeper).after (before ++ .start :: later)).stopRequested =
      before.any Call.isStop := by
    have hlater : later.any Call.isStop = false := by
      rw [List.any_eq_false]
      exact h
    rw [stopRequested_after, List.any_append, List.any_cons, hlater, Call.isStop,
      Bool.or_false, Bool.or_false, Bool.false_or]
  have hstopped : (∃ call ∈ before, call.isStop) ↔ before.any Call.isStop = true :=
    List.any_eq_true.symm
  have hsame : (({ interval } : Sweeper).after (before ++ .start :: later)).interval = interval :=
    interval_after ..
  refine ⟨?_, hsame, ?_, fun hstop ready => ?_⟩
  · rw [after_append]
    show (((({ interval } : Sweeper).after before).answer .start).sweeper.after later).held
    exact held_after (by rw [answer_start]) h
  · rw [sweeps_iff, hrequested, hstopped, Bool.not_eq_true]
  · rw [loop_of_stopRequested (hrequested.trans (hstopped.mp hstop)), hsame]

end Sweeper

/-! ## Servers that serve again -/

namespace Replay.Session

open Sweeper (Call SweepsUnless)

/-- The session after a script was served, with the server still open. -/
def visit (s : Session) (poll : Float) (script : List Action) : Session :=
  let last := ((s.serving poll).performAll script).1
  { last with server := last.server.leave.1 }

/-- The session after one script was served after another. -/
def visits (s : Session) (poll : Float) (scripts : List (List Action)) : Session :=
  scripts.foldl (fun s script => s.visit poll script) s

/-- To serve a script is to start the sweeper and to stop it. -/
theorem sweeper_visit (s : Session) (poll : Float) (script : List Action) :
    (s.visit poll script).server.sweeper = s.server.sweeper.after [.start, .stop none none] := by
  show (((s.serving poll).performAll script).1.server.sweeper.stop none none).sweeper = _
  rw [sweeper_performAll]
  rfl

theorem sweeper_visits (s : Session) (poll : Float) (scripts : List (List Action)) :
    (s.visits poll scripts).server.sweeper =
      s.server.sweeper.after (scripts.flatMap fun _ => [.start, .stop none none]) := by
  induction scripts generalizing s with
  | nil => rfl
  | cons script scripts ih =>
    show ((s.visit poll script).visits poll scripts).server.sweeper = _
    rw [ih, sweeper_visit, List.flatMap_cons, Sweeper.after_append]

/-- The thread of a server that serves again goes on sweeping unless it served before. -/
theorem sweepsUnless_visits (settings : Settings) (platform : Platform) (sources : Sources)
    (poll : Float) (scripts : List (List Action)) :
    let s : Session := { server := Server.ofSettings settings platform, sources }
    SweepsUnless ((s.visits poll scripts).serving poll).server.sweeper settings.sweepInterval
      (scripts ≠ []) := by
  intro s
  have hstopped : (∃ call ∈ scripts.flatMap fun _ => [Call.start, .stop none none], call.isStop) ↔
      scripts ≠ [] := by
    cases scripts with
    | nil => simp
    | cons script scripts => simp [Call.isStop]
  have hsweeper : ((s.visits poll scripts).serving poll).server.sweeper =
      ({ interval := settings.sweepInterval } : Sweeper).after
        ((scripts.flatMap fun _ => [.start, .stop none none]) ++ [.start]) := by
    show (s.visits poll scripts).server.sweeper.start.sweeper = _
    rw [sweeper_visits, Sweeper.after_append]
    rfl
  rw [← hstopped, hsweeper]
  exact Sweeper.sweepsUnless_after _ _ [] (List.forall_mem_nil _)

end Replay.Session

namespace Sweeper

open Replay (Session Sources)
open Replay.Session (Action)

/-- **A thread goes on sweeping exactly if no stop ever came before its start.**  This holds of every
    thread from its start on until the next stop, whatever calls there were before, and of the thread
    of a server that serves again, whatever was served before: such a server never sweeps. -/
theorem sweeps_iff_never_stopped (interval : Float) (settings : Settings) (platform : Platform)
    (sources : Sources) (poll : Float) :
    (∀ before later : List Call, (∀ call ∈ later, ¬call.isStop) →
      SweepsUnless (({ interval } : Sweeper).after (before ++ .start :: later)) interval
        (∃ call ∈ before, call.isStop)) ∧
    (∀ scripts : List (List Action),
      let s : Session := { server := Server.ofSettings settings platform, sources }
      SweepsUnless ((s.visits poll scripts).serving poll).server.sweeper settings.sweepInterval
        (scripts ≠ [])) :=
  ⟨sweepsUnless_after interval, Session.sweepsUnless_visits settings platform sources poll⟩

/-- A sweeper that was never stopped sweeps, however often it is started.  One that was stopped does
    not, nor does a server that serves for a second time. -/
theorem sweeps_before_first_stop :
    (({ interval := 30 } : Sweeper).after [.start, .start]).Sweeps ∧
      ¬(({ interval := 30 } : Sweeper).after [.start, .stop none none, .start]).Sweeps ∧
      ¬((Session.fresh.visits 0.5 [[.tick 1]]).serving 0.5).server.sweeper.Sweeps := by
  have hlater : ∀ call ∈ [Call.start], ¬call.isStop := by simp [Call.isStop]
  have hnone : ∀ call ∈ ([] : List Call), ¬call.isStop := List.forall_mem_nil _
  obtain ⟨hcalls, hserved⟩ := sweeps_iff_never_stopped 30 ⟨"127.0.0.1", 33334, 30, 30, 2048⟩
    .plain Session.fresh.sources 0.5
  refine ⟨?_, fun hsweeps => ?_, fun hsweeps => ?_⟩
  · refine ((hcalls [] [.start] hlater).sweeps).mpr ?_
    rintro ⟨call, hcall, -⟩
    nomatch hcall
  · have hstopped : ∃ call ∈ [Call.start, .stop none none], call.isStop :=
      ⟨.stop none none, by simp, rfl⟩
    exact ((hcalls [.start, .stop none none] [] hnone).sweeps).mp hsweeps hstopped
  · exact ((hserved [[.tick 1]]).sweeps).mp hsweeps (List.cons_ne_nil _ _)

/-- **A sweeper that is started again does not sweep again**: the start after a stop creates a
    thread, and that ends at its first wait. -/
theorem restarted_never_sweeps :
    ¬∀ (interval : Float) (before later : List Call),
      .threadCreated ∈ (({ interval } : Sweeper).after before).start.events →
      (∀ call ∈ later, ¬call.isStop) →
      (({ interval } : Sweeper).after (before ++ .start :: later)).Sweeps := by
  intro h
  have hsweeps : (({ interval := 30 } : Sweeper).after [.start, .stop none none, .start]).Sweeps :=
    h 30 [.start, .stop none none] [] List.mem_cons_self (List.forall_mem_nil _)
  have hrequested := sweeps_iff.mp hsweeps
  nomatch hrequested

end Sweeper

end Rendezvous
