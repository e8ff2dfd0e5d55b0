import Rendezvous.Proofs.Operation
import Rendezvous.Replay.Session

/-!
# Failures of the socket

That nothing can be sent is of no consequence for the tables: two sessions whose scripts differ in
the failures of the socket alone do the same at every line they share, but for what reaches the
socket, what a line that sends reports, and the log.

For one datagram this is so because the server is a transport that keeps its contract: a match or a
kill that sends while the socket fails is not broken off half-way (`receive_fault`).  Two runs need
not be compared line by line, for they fail at different places.  Each is compared with a third run
instead, of the lines they share with a socket that fails throughout (`agrees_failing`).  That run
is never cut short before the others, as a failing socket ends nothing (`ended_of_failing`).
-/

namespace Rendezvous

namespace Server

/-- The server with what it has told to the world left out. -/
structure SameButEvents (r r' : Reception) : Prop where
  store : r.store = r'.store
  handling : r.handling = r'.handling
  handed : r.handed = r'.handed
  readings : r.readings = r'.readings
  drawn : r.drawn = r'.drawn

/-- What becomes of a datagram does not depend on the socket. -/
theorem receive_fault (s : Server) (fault fault' : Option Text) (supply : Supply)
    (datagram : ByteArray) (source : Source) :
    SameButEvents (s.receive fault supply datagram source)
      (s.receive fault' supply datagram source) := by
  rcases s.receive_cases supply datagram source with ⟨m, -, hr⟩ | ⟨why, -, -, hr⟩ | ⟨-, hr⟩ <;>
    (rw [hr, hr]
     exact ⟨rfl, rfl, rfl, rfl, rfl⟩)

/-- No error breaks an operation off, and what it hands over reaches the socket while that works. -/
theorem receive_sends (s : Server) (fault : Option Text) (supply : Supply) (datagram : ByteArray)
    (source : Source) :
    (∀ why, (s.receive fault supply datagram source).handling ≠ .escaped why) ∧
      Event.datagrams (s.receive fault supply datagram source).events =
        if fault.isSome then []
        else (s.receive fault supply datagram source).handed.map fun d =>
          (d.1.encode, ⟨d.2.address, d.2.port⟩) := by
  have hnone : ([] : List (ByteArray × Source)) = if fault.isSome then [] else [] := by
    rw [ite_self]
  rcases s.receive_cases supply datagram source with ⟨m, -, hr⟩ | ⟨why, -, -, hr⟩ | ⟨-, hr⟩
  · rw [hr]
    exact ⟨nofun, datagrams_perform ..⟩
  · rw [hr]
    exact ⟨nofun, hnone⟩
  · rw [hr]
    exact ⟨nofun, hnone⟩

theorem send_lifecycle (fault : Option Text) (v : Json.Value) (recipient : Endpoint) :
    (send fault v recipient).events.filter Event.isLifecycle = [] := by
  cases fault with
  | some why => rfl
  | none =>
    rw [send, sendTo]
    simp only
    split <;> rfl

/-- To send and to log is not to change the life of the server. -/
theorem perform_lifecycle (fault : Option Text) (effects : List Effect) :
    (perform fault effects).filter Event.isLifecycle = [] := by
  rw [perform, List.filter_flatMap, List.flatMap_eq_nil_iff]
  intro effect _
  cases effect with
  | send payload recipient => exact send_lifecycle fault _ recipient
  | log notice => rfl

theorem receive_lifecycle (s : Server) (fault : Option Text) (supply : Supply)
    (datagram : ByteArray) (source : Source) :
    (s.receive fault supply datagram source).events.filter Event.isLifecycle = [] := by
  rcases s.receive_cases supply datagram source with ⟨m, -, hr⟩ | ⟨why, -, -, hr⟩ | ⟨-, hr⟩
  · rw [hr]
    exact (List.filter_cons_of_neg Bool.false_ne_true).trans (perform_lifecycle ..)
  · rw [hr]
    rfl
  · rw [hr]
    rfl

end Server

namespace Replay.Session

/-! ## Lines -/

/-- Whether a line is about something else than failures of the socket. -/
def Action.isCommon : Action → Bool
  | .setFault _ => false
  | _ => true

/-- A line of a script that was carried out. -/
structure Line where
  /-- The session before it. -/
  before : Session
  /-- The line. -/
  action : Action
  /-- What it led to. -/
  report : Report

/-- The lines of a script that are carried out, up to one that ends serving. -/
def lines (s : Session) : List Action → List Line
  | [] => []
  | a :: rest =>
    ⟨s, a, (s.perform a).2⟩ ::
      if (s.perform a).2.result.escape?.isSome then [] else lines (s.perform a).1 rest

theorem reports_eq (s : Session) (script : List Action) :
    (s.performAll script).2 = (s.lines script).map Line.report := by
  induction script generalizing s with
  | nil => rfl
  | cons a rest ih =>
    rw [performAll, lines]
    simp only
    split
    · rfl
    · rw [List.map_cons, ← ih]

/-- The lines that are not about the socket. -/
def commonLines (s : Session) (script : List Action) : List Line :=
  (s.lines script).filter fun l => l.action.isCommon

/-! ## Sessions that differ in the socket -/

/-- The same server with the same time and match ids. -/
def SameWorld (s w : Session) : Prop := s.server = w.server ∧ s.sources = w.sources

/-- The same line was carried out and did the same, but for what was sent and logged. -/
structure Line.Agrees (k l : Line) : Prop where
  before : k.before.SameWorld l.before
  action : k.action = l.action
  store : k.report.store = l.report.store
  handed : k.report.handed = l.report.handed
  result : (∀ value recipient, k.action ≠ .send value recipient) →
    k.report.result = l.report.result
  lifecycle : k.report.events.filter Event.isLifecycle = l.report.events.filter Event.isLifecycle

theorem Line.Agrees.symm {k l : Line} (h : k.Agrees l) : l.Agrees k where
  before := ⟨h.before.1.symm, h.before.2.symm⟩
  action := h.action.symm
  store := h.store.symm
  handed := h.handed.symm
  result hsend := (h.result (h.action ▸ hsend)).symm
  lifecycle := h.lifecycle.symm

theorem Line.Agrees.trans {j k l : Line} (h : j.Agrees k) (h' : k.Agrees l) : j.Agrees l where
  before := ⟨h.before.1.trans h'.before.1, h.before.2.trans h'.before.2⟩
  action := h.action.trans h'.action
  store := h.store.trans h'.store
  handed := h.handed.trans h'.handed
  result hsend := (h.result hsend).trans (h'.result (h.action ▸ hsend))
  lifecycle := h.lifecycle.trans h'.lifecycle

/-- **One line does the same in both sessions** and leaves them alike. -/
theorem agrees_perform {s w : Session} (h : s.SameWorld w) (a : Action) :
    (⟨s, a, (s.perform a).2⟩ : Line).Agrees ⟨w, a, (w.perform a).2⟩ ∧
      (s.perform a).1.SameWorld (w.perform a).1 := by
  obtain ⟨server, sources, fault⟩ := s
  obtain ⟨_, _, fault'⟩ := w
  obtain ⟨rfl, rfl⟩ := h
  cases a with
  | receive datagram source =>
    rw [perform, take, perform, take]
    cases hsize : server.platform.unreadable server.maxPacket with
    | some why => exact ⟨⟨⟨rfl, rfl⟩, rfl, rfl, rfl, fun _ => rfl, rfl⟩, rfl, rfl⟩
    | none =>
      have hsame := server.receive_fault fault fault' sources.supply datagram source
      refine ⟨⟨⟨rfl, rfl⟩, rfl, hsame.store, hsame.handed,
        fun _ => congrArg Result.received hsame.handling, ?_⟩, ?_, ?_⟩
      · exact (Server.receive_lifecycle ..).trans (Server.receive_lifecycle ..).symm
      · exact congrArg (fun store => { server with store }) hsame.store
      · show sources.after _ _ = sources.after _ _
        rw [hsame.readings, hsame.drawn]
  | advance seconds => exact ⟨⟨⟨rfl, rfl⟩, rfl, rfl, rfl, fun _ => rfl, rfl⟩, rfl, rfl⟩
  | tick n => exact ⟨⟨⟨rfl, rfl⟩, rfl, rfl, rfl, fun _ => rfl, rfl⟩, rfl, rfl⟩
  | setFault f => exact ⟨⟨⟨rfl, rfl⟩, rfl, rfl, rfl, fun _ => rfl, rfl⟩, rfl, rfl⟩
  | send value recipient =>
    refine ⟨⟨⟨rfl, rfl⟩, rfl, rfl, rfl, fun h => absurd rfl (h value recipient), ?_⟩, rfl, rfl⟩
    exact (Server.send_lifecycle ..).trans (Server.send_lifecycle ..).symm

/-! ## While the socket fails -/

theorem send_failing {s : Session} (h : s.fault.isSome) (value : Json.Value)
    (recipient : Endpoint) :
    (s.send value recipient).result = .sent false ∧
      Event.datagrams (s.send value recipient).events = [] := by
  obtain ⟨server, sources, fault⟩ := s
  obtain ⟨why, rfl⟩ := Option.isSome_iff_exists.mp h
  exact ⟨rfl, rfl⟩

/-- What ends serving while the socket fails ends it anyway. -/
theorem ended_of_failing {s w : Session} (hworld : s.SameWorld w) (hfault : w.fault.isSome)
    {a : Action} (hended : (w.perform a).2.result.escape?.isSome) :
    (s.perform a).2.result.escape?.isSome := by
  have hsame := (agrees_perform hworld a).1.result
  cases a with
  | send value recipient =>
    rw [show (w.perform (.send value recipient)).2 = w.send value recipient from rfl,
      (send_failing hfault value recipient).1] at hended
    nomatch hended
  | receive | advance | tick | setFault =>
    rw [hsame nofun]
    exact hended

theorem fault_perform {s : Session} {a : Action} (h : a.isCommon) :
    (s.perform a).1.fault = s.fault := by
  cases a with
  | setFault => nomatch h
  | receive =>
    rw [perform, take]
    split <;> rfl
  | _ => rfl

/-- **The common lines of a run are the first lines of a run with a failing socket**, as far as they
    are carried out. -/
theorem agrees_failing {script : List Action} {s w : Session} (hworld : s.SameWorld w)
    (hfault : w.fault.isSome) {i : Nat} {k : Line} (hk : (s.commonLines script)[i]? = some k) :
    ∃ l, (w.lines (script.filter Action.isCommon))[i]? = some l ∧ k.Agrees l := by
  induction script generalizing s w i with
  | nil => nomatch hk
  | cons a rest ih =>
    rw [commonLines, lines] at hk
    cases ha : a.isCommon with
    | false =>
      cases a with
      | setFault f =>
        rw [List.filter_cons_of_neg (by simp [ha])] at hk ⊢
        have hafter : (s.perform (.setFault f)).1.SameWorld w := hworld
        exact ih hafter hfault hk
      | _ => nomatch ha
    | true =>
      obtain ⟨hagrees, hafter⟩ := agrees_perform hworld a
      rw [List.filter_cons_of_pos (by simpa using ha)] at hk ⊢
      rw [lines]
      cases i with
      | zero =>
        cases hk
        exact ⟨_, rfl, hagrees⟩
      | succ i =>
        rw [List.getElem?_cons_succ] at hk
        split at hk
        · nomatch hk
        · next hgoes =>
          have hfault' : (w.perform a).1.fault.isSome := (fault_perform ha).symm ▸ hfault
          rw [if_neg (mt (ended_of_failing hworld hfault) hgoes)]
          exact ih hafter hfault' hk

/-- A script is carried out to its end, or up to a line that ends serving. -/
theorem lines_complete (s : Session) (script : List Action) :
    (s.lines script).map Line.action = script ∨
      ∃ l ∈ s.lines script, l.report.result.escape?.isSome := by
  induction script generalizing s with
  | nil => exact .inl rfl
  | cons a rest ih =>
    rw [lines]
    split
    · next hended => exact .inr ⟨_, List.mem_cons_self, hended⟩
    · rcases ih (s.perform a).1 with hwhole | ⟨l, hl, hended⟩
      · exact .inl (congrArg (a :: ·) hwhole)
      · exact .inr ⟨l, List.mem_cons_of_mem _ hl, hended⟩

theorem mem_lines {s : Session} {script : List Action} {l : Line} (h : l ∈ s.lines script) :
    l.action ∈ script ∧ l.report = (l.before.perform l.action).2 := by
  induction script generalizing s with
  | nil => nomatch h
  | cons a rest ih =>
    rw [lines] at h
    rcases List.mem_cons.mp h with rfl | h
    · exact ⟨List.mem_cons_self, rfl⟩
    · split at h
      · nomatch h
      · obtain ⟨hmem, hreport⟩ := ih h
        exact ⟨List.mem_cons_of_mem a hmem, hreport⟩

/-! ## Sessions -/

/-- The session that serves. -/
def serving (s : Session) (poll : Float) : Session :=
  { s with server := (s.server.enter poll).1 }

/-- A line changes nothing of the server but its tables. -/
theorem server_perform (s : Session) (a : Action) :
    (s.perform a).1.server = { s.server with store := (s.perform a).1.server.store } := by
  cases a with
  | receive =>
    rw [perform, take]
    split <;> rfl
  | _ => rfl

theorem sweeper_performAll (s : Session) (script : List Action) :
    (s.performAll script).1.server.sweeper = s.server.sweeper := by
  induction script generalizing s with
  | nil => rfl
  | cons a rest ih =>
    have hline : (s.perform a).1.server.sweeper = s.server.sweeper :=
      congrArg (·.sweeper) (server_perform s a)
    rw [performAll]
    simp only
    split
    · exact hline
    · exact (ih _).trans hline

/-- What is done before and after the script is a matter of the sweeper. -/
theorem run_eq (s : Session) (poll : Float) (script : List Action) :
    s.run poll script =
      { opening := (s.server.enter poll).2
        reports := ((s.serving poll).lines script).map Line.report
        leaving := ((s.server.enter poll).1.sweeper.stop none none).events
        closing :=
          (((s.server.enter poll).1.sweeper.stop none none).sweeper.stop none none).events ++
            [.socketClosed] } := by
  have hsweeper := sweeper_performAll (s.serving poll) script
  rw [← reports_eq]
  simp only [run, Server.leave, Server.close]
  rw [show ({ s with server := (s.server.enter poll).1 } : Session) = s.serving poll from rfl,
    hsweeper]
  rfl

/-- Two sessions do the same, but for what is sent and logged. -/
structure DifferInSends (s w : Session) (poll : Float) (script script' : List Action) : Prop where
  opening : (s.run poll script).opening = (w.run poll script').opening
  lines : ∀ (i : Nat) (k l : Line), ((s.serving poll).commonLines script)[i]? = some k →
    ((w.serving poll).commonLines script')[i]? = some l → k.Agrees l
  leaving : (s.run poll script).leaving = (w.run poll script').leaving
  closing : (s.run poll script).closing = (w.run poll script').closing

/-- A failing socket is reported where something is sent.  It raises nothing and ends nothing. -/
structure ReportsFailures (s : Session) (poll : Float) (script : List Action) : Prop where
  reports : (s.run poll script).reports = ((s.serving poll).lines script).map Line.report
  /-- No operation is broken off, and what it hands over reaches the socket while that works. -/
  received : ∀ l ∈ (s.serving poll).lines script, ∀ datagram source,
    l.action = .receive datagram source →
    (∀ why, l.report.result ≠ .received (.escaped why)) ∧
      Event.datagrams l.report.events =
        if l.before.fault.isSome then []
        else l.report.handed.map fun d => (d.1.encode, ⟨d.2.address, d.2.port⟩)
  /-- A line that sends reports that it could not. -/
  sent : ∀ l ∈ (s.serving poll).lines script, ∀ value recipient,
    l.action = .send value recipient → l.before.fault.isSome →
    l.report.result = .sent false ∧ Event.datagrams l.report.events = []
  /-- Serving is ended by a value that went out and has no parts to be listed, or by a socket that
      cannot be asked for that much of a datagram. -/
  ended : ∀ l ∈ (s.serving poll).lines script, ∀ why, l.report.result = .escaped why →
    (∃ fault value recipient, why = .unlisted fault ∧ l.action = .send value recipient ∧
      l.before.fault = none) ∨
    ∃ reason datagram source, why = .unread reason ∧ l.action = .receive datagram source ∧
      s.server.platform.unreadable s.server.maxPacket = some reason
  /-- Otherwise all of the script is carried out. -/
  complete : s.server.platform.unreadable s.server.maxPacket = none →
    (∀ value recipient, .send value recipient ∈ script → ∃ ms, value = .object ms) →
    ((s.serving poll).lines script).map Line.action = script

theorem send_result (s : Session) (value : Json.Value) (recipient : Endpoint) :
    (∃ ok, (s.send value recipient).result = .sent ok) ∨
      s.fault = none ∧ ∃ fault, (s.send value recipient).result = .escaped (.unlisted fault) := by
  obtain ⟨server, sources, fault⟩ := s
  cases fault with
  | some why => exact .inl ⟨false, rfl⟩
  | none =>
    rw [send, Server.send, Server.sendTo]
    cases hparts : value.sortedParts with
    | ok parts => exact .inl ⟨true, rfl⟩
    | error fault => exact .inr ⟨rfl, fault, rfl⟩

/-- Why a line can end serving. -/
theorem perform_escaped {s : Session} {a : Action} {why : Escape}
    (h : (s.perform a).2.result = .escaped why) :
    (∃ fault value recipient, why = .unlisted fault ∧ a = .send value recipient ∧
      s.fault = none) ∨
    ∃ reason datagram source, why = .unread reason ∧ a = .receive datagram source ∧
      s.server.platform.unreadable s.server.maxPacket = some reason := by
  cases a with
  | receive datagram source =>
    rw [perform, take] at h
    split at h
    · next reason hsize =>
      exact .inr ⟨reason, datagram, source, (Result.escaped.inj h).symm, rfl, hsize⟩
    · nomatch h
  | send value recipient =>
    have h' : (s.send value recipient).result = .escaped why := h
    rcases s.send_result value recipient with ⟨ok, hok⟩ | ⟨hfault, fault, hescaped⟩
    · nomatch h'.symm.trans hok
    · exact .inl ⟨fault, value, recipient, Result.escaped.inj (h'.symm.trans hescaped), rfl, hfault⟩
  | advance | tick | setFault => nomatch h

/-- The machine and the size are those at the start. -/
theorem server_of_mem_lines {s : Session} {script : List Action} {l : Line}
    (h : l ∈ s.lines script) :
    l.before.server = { s.server with store := l.before.server.store } := by
  induction script generalizing s with
  | nil => nomatch h
  | cons a rest ih =>
    rw [lines] at h
    rcases List.mem_cons.mp h with rfl | h
    · rfl
    · split at h
      · nomatch h
      · rw [ih h, server_perform]

/-- Why a line of a session can end serving. -/
theorem escaped_of_mem_lines {s : Session} {poll : Float} {script : List Action} {l : Line}
    (hl : l ∈ (s.serving poll).lines script) {why : Escape}
    (h : l.report.result = .escaped why) :
    (∃ fault value recipient, why = .unlisted fault ∧ l.action = .send value recipient ∧
      l.before.fault = none) ∨
    ∃ reason datagram source, why = .unread reason ∧ l.action = .receive datagram source ∧
      s.server.platform.unreadable s.server.maxPacket = some reason := by
  rw [(mem_lines hl).2] at h
  have hsize : l.before.server.platform.unreadable l.before.server.maxPacket =
      s.server.platform.unreadable s.server.maxPacket := by
    rw [server_of_mem_lines hl]
    rfl
  rw [← hsize]
  exact perform_escaped h

/-- If datagrams can be taken from the socket and all that is sent are objects, a script is carried
    out to its end. -/
theorem lines_of_readable {s : Session} {poll : Float} {script : List Action}
    (hreadable : s.server.platform.unreadable s.server.maxPacket = none)
    (hobjects : ∀ value recipient, .send value recipient ∈ script → ∃ ms, value = .object ms) :
    ((s.serving poll).lines script).map Line.action = script := by
  refine (lines_complete (s.serving poll) script).resolve_right ?_
  rintro ⟨l, hl, hraised⟩
  obtain ⟨why, hwhy⟩ : ∃ why, l.report.result = .escaped why := by
    cases hresult : l.report.result with
    | escaped why => exact ⟨why, rfl⟩
    | received | ticked | sent | done =>
      rw [hresult] at hraised
      nomatch hraised
  rcases escaped_of_mem_lines hl hwhy with ⟨fault, value, recipient, rfl, ha, -⟩ | ⟨_, _, _, -, -, h⟩
  · obtain ⟨hmem, hreport⟩ := mem_lines hl
    obtain ⟨ms, rfl⟩ := hobjects value recipient (ha ▸ hmem)
    have hsends := Server.send_object_result l.before.fault ms recipient
    rw [hreport, ha] at hwhy
    simp [perform, send, hsends] at hwhy
  · nomatch hreadable.symm.trans h

theorem reportsFailures (s : Session) (poll : Float) (script : List Action) :
    s.ReportsFailures poll script where
  reports := by rw [run_eq]
  received := by
    intro l hl datagram source ha
    rw [(mem_lines hl).2, ha, perform, take]
    split
    · exact ⟨nofun, by rw [List.map_nil, ite_self]; rfl⟩
    · obtain ⟨hraised, hsent⟩ :=
        l.before.server.receive_sends l.before.fault l.before.sources.supply datagram source
      exact ⟨fun why h => hraised why (Result.received.inj h), hsent⟩
  sent := by
    intro l hl value recipient ha hfault
    rw [(mem_lines hl).2, ha]
    exact send_failing hfault value recipient
  ended := fun _ hl _ h => escaped_of_mem_lines hl h
  complete := lines_of_readable

/-- **Failures of the socket never touch the tables.**  If two sessions start alike and their
    scripts differ in the failures of the socket alone, then every line they share does the same to
    the tables, hands over the same payloads and, unless it sends, ends in the same way.  In both the
    failures are reported where something is sent: they are raised by no line, break no operation
    off and end nothing, and all that is handed over reaches the socket while it works. -/
theorem socket_failures_confined (s w : Session) (poll : Float) (script script' : List Action)
    (hworld : s.SameWorld w)
    (hscript : script.filter Action.isCommon = script'.filter Action.isCommon) :
    s.DifferInSends w poll script script' ∧ s.ReportsFailures poll script ∧
      w.ReportsFailures poll script' := by
  refine ⟨?_, s.reportsFailures poll script, w.reportsFailures poll script'⟩
  have hserving : (s.serving poll).SameWorld (w.serving poll) :=
    ⟨by rw [serving, serving, hworld.1], hworld.2⟩
  -- the run that both are compared with
  let failing : Session := { s.serving poll with fault := some [] }
  have hfailing : (s.serving poll).SameWorld failing := ⟨rfl, rfl⟩
  have hfailing' : (w.serving poll).SameWorld failing := ⟨hserving.1.symm, hserving.2.symm⟩
  constructor
  · rw [run_eq, run_eq, hworld.1]
  · intro i k l hk hl
    obtain ⟨m, hm, hkm⟩ := agrees_failing hfailing rfl hk
    obtain ⟨m', hm', hlm⟩ := agrees_failing hfailing' rfl hl
    rw [← hscript, hm] at hm'
    obtain rfl := Option.some.inj hm'
    exact hkm.trans hlm.symm
  · rw [run_eq, run_eq, hworld.1]
  · rw [run_eq, run_eq, hworld.1]

/-- A client asks for a peer. -/
def client (uid peerUid : String) : Action :=
  .receive (Json.Value.object [("uid", .text uid), ("peerUid", .text peerUid)]).encode
    ⟨uid, 40000⟩

/-- A session of a server that has heard from nobody. -/
def fresh : Session :=
  { server := Server.ofSettings ⟨"127.0.0.1", 33334, 30, 30, 2048⟩ .plain
    sources := ⟨⟨1000, 0⟩, ⟨[], 0⟩⟩ }

/-- Two clients ask for each other. -/
def encounter : List Action := [client "a" "b", client "b" "a", .tick 1]

/-- The same while the socket fails from the second datagram to the sweep. -/
def disturbedEncounter : List Action :=
  [client "a" "b", .setFault (some "unreachable"), client "b" "a", .setFault none, .tick 1]

/-- The socket fails while two clients are matched: they are matched all the same, and what they are
    told is handed over all the same, but does not reach the socket. -/
theorem failures_between_clients :
    (encounter.filter Action.isCommon = disturbedEncounter.filter Action.isCommon ∧
      fresh.DifferInSends fresh 0.5 encounter disturbedEncounter ∧
        fresh.ReportsFailures 0.5 encounter ∧ fresh.ReportsFailures 0.5 disturbedEncounter) ∧
      (fresh.run 0.5 encounter).reports.map (fun r => (r.handed.length,
        (Event.datagrams r.events).length)) = [(0, 0), (2, 2), (0, 0)] ∧
      (fresh.run 0.5 disturbedEncounter).reports.map (fun r => (r.handed.length,
        (Event.datagrams r.events).length)) = [(0, 0), (0, 0), (2, 0), (0, 0), (0, 0)] := by
  have hscript : encounter.filter Action.isCommon = disturbedEncounter.filter Action.isCommon := rfl
  exact ⟨⟨hscript, socket_failures_confined fresh fresh 0.5 _ _ ⟨rfl, rfl⟩ hscript⟩,
    by decide +kernel, by decide +kernel⟩

end Replay.Session

end Rendezvous
