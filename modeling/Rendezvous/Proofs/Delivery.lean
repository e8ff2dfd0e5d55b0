import Rendezvous.Proofs.Messages
import Rendezvous.Proofs.SendFailures
import Rendezvous.Proofs.Wire

/-!
# From datagram to datagram

A client does not see the tables: it sends datagrams and reads those that come back.  Between the
two stand the reader of datagrams, the operation that a message asks for, the tables with all that
happened to them, and the writer of payloads; here they are put together.

A session is followed by the operations that its lines have carried out on the store
(`Follows.perform`), and the registrations among these are the registrations of the script, in their
order.  So the latest endpoint of an identity in the store is the one that the script tells, and
what is known of the messages of an operation carries over to the datagrams of a line.

* `datagrams_faithful`: what a session sends for a datagram, read back, is what the datagrams told.
-/

namespace Rendezvous

/-! ## What a message is told -/

namespace Store

/-- What an operation that a message asked for sends, and to whom: the endpoints are the latest of
    their identities. -/
inductive Answers (cs : List Command) (m : Message) : Payload × Endpoint → Prop
  | introduction {peer recipient : Endpoint} {k : Text} (asks : m.kill = false)
      (parties : recipient.uid = m.uid ∧ peer.uid = m.peerUid ∨
        recipient.uid = m.peerUid ∧ peer.uid = m.uid)
      (latest : lastEndpoint? cs recipient.uid = some recipient)
      (peerLatest : lastEndpoint? cs peer.uid = some peer) :
      Answers cs m (.introduction peer k, recipient)
  | teardown {survivor : Endpoint} {k : Text} (leaves : m.kill = true)
      (latest : lastEndpoint? cs m.peerUid = some survivor) :
      Answers cs m (.teardown m.uid k, survivor)

theorem command_of_register {m : Message} {source : Source} {supply supply' : Supply}
    {who : Endpoint} {peer : Text} (h : m.command source supply = .register who peer supply') :
    m.kill = false ∧ who.uid = m.uid ∧ peer = m.peerUid := by
  rw [Message.command] at h
  split at h
  · cases h
  · next hkill =>
    obtain ⟨rfl, rfl, -⟩ := Command.register.inj h
    exact ⟨Bool.eq_false_iff.mpr hkill, rfl, rfl⟩

theorem command_of_kill {m : Message} {source : Source} {supply : Supply} {uid peer k : Text}
    (h : m.command source supply = .kill uid peer k) :
    m.kill = true ∧ uid = m.uid ∧ peer = m.peerUid := by
  rw [Message.command] at h
  split at h
  · next hkill =>
    obtain ⟨rfl, rfl, -⟩ := Command.kill.inj h
    exact ⟨hkill, rfl, rfl⟩
  · cases h

/-- Whatever an operation sends answers the message that asked for it. -/
theorem answers_apply (timeout : Float) (cs : List Command) (m : Message) (source : Source)
    (supply : Supply) {payload : Payload} {recipient : Endpoint}
    (h : (payload, recipient) ∈
      Effect.deliveries (((empty timeout).run cs).apply (m.command source supply)).effects) :
    Answers (cs ++ [m.command source supply]) m (payload, recipient) := by
  obtain ⟨hw, ha⟩ := recordsLatest_run timeout cs
  obtain ⟨-, hlatest, hpeers⟩ := delivery_latest hw ha h
  have hsent : (payload, recipient) ∈
    (((empty timeout).run cs).deed (m.command source supply)).sent := h
  cases accounts_deed hw ha (m.command source supply) with
  | introduction who target supply' k command outcome sent =>
    obtain ⟨hkill, hwho, htarget⟩ := command_of_register command
    rw [sent] at hsent
    rcases List.mem_pair.mp hsent with hfirst | hsecond
    · obtain ⟨rfl, rfl⟩ := Prod.mk.inj hfirst
      exact .introduction hkill (.inl ⟨hwho, htarget⟩) hlatest (hpeers _ _ rfl)
    · obtain ⟨rfl, rfl⟩ := Prod.mk.inj hsecond
      exact .introduction hkill (.inr ⟨htarget, hwho⟩) hlatest (hpeers _ _ rfl)
  | teardown uid k k' survivor command outcome sent =>
    obtain ⟨hkill, rfl, hpeer⟩ := command_of_kill command
    rw [sent] at hsent
    obtain ⟨rfl, rfl⟩ := Prod.mk.inj (List.mem_singleton.mp hsent)
    exact .teardown hkill (hpeer ▸ hlatest)
  | silence unmatched outcome sent =>
    rw [sent] at hsent
    nomatch hsent

end Store

namespace Replay.Session

open Store

/-! ## The registrations of a script -/

/-- The endpoint that a line registers: the identity that its datagram names, at the source of the
    datagram, if the datagram is a registration that lacks neither identity. -/
def Action.registered? (limit : Json.DepthLimit) (maxPacket : Int) : Action → Option Endpoint
  | .receive datagram source =>
    match Message.decode limit (Server.cut maxPacket datagram) with
    | .ok m =>
      if m.kill ∨ m.uid = [] ∨ m.peerUid = [] then none
      else some ⟨m.uid, source.address, source.port⟩
    | .error _ => none
  | _ => none

/-- The latest endpoint that an identity has registered in a script. -/
def lastRegistered? (limit : Json.DepthLimit) (maxPacket : Int) (script : List Action) (u : Text) :
    Option Endpoint :=
  (latest? (·.uid = u) (script.filterMap (Action.registered? limit maxPacket))).map Prod.fst

/-! ## The operations of a session -/

/-- The socket can be asked for as much of a datagram as the server looks at. -/
def IsReadable (s : Session) : Prop := s.server.platform.unreadable s.server.maxPacket = none

theorem perform_receive_of_isReadable {s : Session} (h : s.IsReadable) (datagram : ByteArray)
    (source : Source) : s.perform (.receive datagram source) = s.receive datagram source := by
  unfold IsReadable at h
  rw [perform, take, h]

/-- A socket that cannot be asked for that much puts nothing on the wire. -/
theorem perform_receive_of_not_isReadable {s : Session} (h : ¬ s.IsReadable) (datagram : ByteArray)
    (source : Source) : (s.perform (.receive datagram source)).2.events = [] := by
  rw [perform, take]
  split
  · rfl
  · contradiction

/-- The operations that a line carries out on the store. -/
def commands (s : Session) : Action → List Command
  | .receive datagram source =>
    match Message.decode s.server.platform.depth (Server.cut s.server.maxPacket datagram) with
    | .ok m => [m.command source s.sources.supply]
    | .error _ => []
  | .tick n => (s.sources.clock.readings n).map .sweep
  | _ => []

theorem sweepAt_store (store : Store) (readings : List Float) :
    (Server.sweepAt store readings).1 = store.run (readings.map .sweep) := by
  induction readings generalizing store with
  | nil => rfl
  | cons now later ih => exact ih (store.sweep now).store

theorem store_perform {s : Session} (h : s.IsReadable) (a : Action) :
    (s.perform a).1.server.store = s.server.store.run (s.commands a) := by
  cases a with
  | receive datagram source =>
    rw [perform_receive_of_isReadable h, commands]
    show (s.server.receive s.fault s.sources.supply datagram source).store = _
    rcases s.server.receive_cases s.sources.supply datagram source with
      ⟨m, hread, hr⟩ | ⟨why, hread, -, hr⟩ | ⟨hread, hr⟩ <;>
      (rw [hr, hread]
       rfl)
  | tick n => exact sweepAt_store ..
  | advance | setFault | send => rfl

/-- A line registers in the store what its datagram registers. -/
theorem admitted_commands (s : Session) (a : Action) :
    ((s.commands a).filterMap Command.admission?).map (·.who) =
      (a.registered? s.server.platform.depth s.server.maxPacket).toList := by
  cases a with
  | receive datagram source =>
    simp only [commands, Action.registered?]
    cases Message.decode s.server.platform.depth (Server.cut s.server.maxPacket datagram) with
    | error fault => rfl
    | ok m =>
      simp only [Message.command]
      cases m.kill with
      | true => rfl
      | false =>
        by_cases h : m.uid = [] ∨ m.peerUid = [] <;> simp [Command.admission?, h]
  | tick n =>
    simp only [commands, Action.registered?, List.filterMap_map, Function.comp_def,
      Command.admission?, List.filterMap_none, List.map_nil, Option.toList_none]
  | advance | setFault | send => rfl

/-- A session that has carried out a script has done these operations on the store. -/
structure Follows (settings : Settings) (platform : Platform) (s : Session) (past : List Action)
    (cs : List Command) : Prop where
  readable : s.IsReadable
  maxPacket : s.server.maxPacket = settings.maxPacket
  machine : s.server.platform = platform
  store : s.server.store = (Store.empty settings.peerTimeout).run cs
  registered : (cs.filterMap Command.admission?).map (·.who) =
    past.filterMap (Action.registered? platform.depth settings.maxPacket)

variable {settings : Settings} {platform : Platform} {s : Session} {past script : List Action}
  {cs : List Command}

theorem Follows.perform (h : Follows settings platform s past cs) (a : Action) :
    Follows settings platform (s.perform a).1 (past ++ [a]) (cs ++ s.commands a) where
  readable := by
    rw [IsReadable, server_perform]
    exact h.readable
  maxPacket := by rw [server_perform, h.maxPacket]
  machine := by rw [server_perform, h.machine]
  store := by rw [store_perform h.readable, h.store, run_append]
  registered := by
    rw [List.filterMap_append, List.map_append, h.registered, admitted_commands, h.maxPacket,
      h.machine, List.filterMap_append]
    cases ha : a.registered? platform.depth settings.maxPacket <;> simp [ha]

/-- The lines that are carried out are those of the script. -/
theorem action_of_lines {s : Session} {i : Nat} {l : Line} (hl : (s.lines script)[i]? = some l) :
    script[i]? = some l.action := by
  induction script generalizing s i with
  | nil => cases hl
  | cons a rest ih =>
    rw [Session.lines] at hl
    cases i with
    | zero =>
      cases hl
      rfl
    | succ i =>
      rw [List.getElem?_cons_succ] at hl ⊢
      split at hl
      · cases hl
      · exact ih hl

/-- The session before a line has carried out the lines before it. -/
theorem Follows.lines (h : Follows settings platform s past cs) {i : Nat} {l : Line}
    (hl : (s.lines script)[i]? = some l) :
    ∃ cs', Follows settings platform l.before (past ++ script.take i) cs' := by
  induction script generalizing s past cs i with
  | nil => cases hl
  | cons a rest ih =>
    rw [Session.lines] at hl
    cases i with
    | zero =>
      cases hl
      exact ⟨cs, by simpa using h⟩
    | succ i =>
      rw [List.getElem?_cons_succ] at hl
      split at hl
      · cases hl
      · obtain ⟨cs', hfollows⟩ := ih (h.perform a) hl
        exact ⟨cs', by simpa using hfollows⟩

/-- The latest endpoint that the store knows is the latest that the script has registered. -/
theorem Follows.lastEndpoint? (h : Follows settings platform s past cs) (u : Text) :
    Store.lastEndpoint? cs u = lastRegistered? platform.depth settings.maxPacket past u := by
  rw [lastRegistered?, ← h.registered, latest?_map, Store.lastEndpoint?, lastAdmission?,
    Option.map_map, Option.map_map]
  rfl

/-! ## Endpoints of a script -/

theorem exists_receive_of_registered? {limit : Json.DepthLimit} {maxPacket : Int} {a : Action}
    {e : Endpoint} (h : a.registered? limit maxPacket = some e) :
    ∃ datagram source m, a = .receive datagram source ∧
      Message.decode limit (Server.cut maxPacket datagram) = .ok m ∧
      e = ⟨m.uid, source.address, source.port⟩ := by
  cases a with
  | receive datagram source =>
    rw [Action.registered?] at h
    split at h
    · next m hm =>
      split at h
      · nomatch h
      · exact ⟨datagram, source, m, rfl, hm, (Option.some.inj h).symm⟩
    · nomatch h
  | advance | tick | setFault | send => nomatch h

/-- What a script has registered has an identity that is joined already and the port of a source. -/
theorem readable_of_lastRegistered? {limit : Json.DepthLimit} {maxPacket : Int} {u : Text}
    {e : Endpoint}
    (hports : ∀ datagram source, .receive datagram source ∈ script →
      (Nat.toDigits 10 source.port.natAbs).length ≤ 4300)
    (h : lastRegistered? limit maxPacket script u = some e) :
    Json.Unpaired e.uid ∧ (Nat.toDigits 10 e.port.natAbs).length ≤ 4300 := by
  obtain ⟨⟨e, later⟩, hlatest, rfl⟩ := Option.map_eq_some_iff.mp h
  obtain ⟨earlier, hsplit, -, -⟩ := latest?_eq_some_iff.mp hlatest
  have hmem : e ∈ script.filterMap (Action.registered? limit maxPacket) := by
    rw [hsplit]
    exact List.mem_append_right _ List.mem_cons_self
  obtain ⟨a, ha, hregistered⟩ := List.mem_filterMap.mp hmem
  obtain ⟨datagram, source, m, rfl, hm, rfl⟩ := exists_receive_of_registered? hregistered
  exact ⟨(Message.unpaired_of_decode hm).1, hports datagram source ha⟩

/-! ## Sessions -/

/-- A datagram for a client, with its destination, after a script whose last line has brought a
    message.

    If the message is a registration, the datagram goes to one of its two identities, at the latest
    source of that identity, and what is read of it is the other identity with its latest source;
    an address is read as it is unless the two halves of a surrogate pair meet in it, as they do in
    no address.  If the message is a kill, the datagram goes to its peer, at the latest source of
    the peer, and what is read of it is that the sender of the message has left.  A client may run
    on another machine than the server. -/
inductive Faithful (limit : Json.DepthLimit) (maxPacket : Int) (script : List Action)
    (m : Message) : ByteArray × Source → Prop
  | introduction {out : ByteArray} {peer recipient : Endpoint} {address k : Text}
      (asks : m.kill = false)
      (parties : recipient.uid = m.uid ∧ peer.uid = m.peerUid ∨
        recipient.uid = m.peerUid ∧ peer.uid = m.uid)
      (latest : lastRegistered? limit maxPacket script recipient.uid = some recipient)
      (peerLatest : lastRegistered? limit maxPacket script peer.uid = some peer)
      (exact : Json.Unpaired peer.address → address = peer.address)
      (read : ∀ reader, Json.decode reader out = .ok (.object
        [ ("peer", .object
            [("uid", .text peer.uid), ("address", .text address), ("port", .int peer.port)]),
          ("matchId", .text k) ])) :
      Faithful limit maxPacket script m (out, ⟨recipient.address, recipient.port⟩)
  | teardown {out : ByteArray} {survivor : Endpoint} {matchId : Json.Members}
      (leaves : m.kill = true)
      (latest : lastRegistered? limit maxPacket script m.peerUid = some survivor)
      (optional : matchId = [] ∨ ∃ k, matchId = ([("matchId", .text k)] : Json.Members))
      (read : ∀ reader, Json.decode reader out = .ok (.object
        (("kill", .bool true) :: ("opponentUid", .text m.uid) ::
          ("reason", .text Payload.leaveReason) :: matchId))) :
      Faithful limit maxPacket script m (out, ⟨survivor.address, survivor.port⟩)

/-- A datagram that answers a message is faithful. -/
theorem faithful_of_answers {m : Message} {payload : Payload} {recipient : Endpoint}
    (hports : ∀ datagram source, .receive datagram source ∈ past →
      (Nat.toDigits 10 source.port.natAbs).length ≤ 4300)
    (huid : Json.Unpaired m.uid) (h : Follows settings platform s past cs)
    (hanswers : Answers cs m (payload, recipient)) :
    Faithful platform.depth settings.maxPacket past m
      (payload.encode, ⟨recipient.address, recipient.port⟩) := by
  cases hanswers with
  | @introduction peer _ k asks parties latest peerLatest =>
    rw [h.lastEndpoint?] at latest peerLatest
    obtain ⟨huid, hport⟩ := readable_of_lastRegistered? hports peerLatest
    have hshort : (Payload.introduction peer k).HasShortPort := hport
    have hread := Payload.decode_encode_payload hshort
    rw [Payload.joined, Endpoint.joined, Json.joinPairs_of_unpaired huid] at hread
    exact .introduction asks parties latest peerLatest Json.joinPairs_of_unpaired hread
  | @teardown _ k leaves latest =>
    rw [h.lastEndpoint?] at latest
    have hshort : (Payload.teardown m.uid k).HasShortPort := trivial
    have hread := Payload.decode_encode_payload hshort
    rw [Payload.joined, Json.joinPairs_of_unpaired huid] at hread
    refine .teardown leaves latest ?_ hread
    split
    · exact .inl rfl
    · exact .inr ⟨_, rfl⟩

/-- **What a session sends for a datagram is faithful.**  Let a server that has heard from nobody
    serve any script in which no port has more digits than a reader takes.  Then each datagram that
    the line of a received datagram has put on the socket, read back, tells what the datagrams of
    the script up to that line have told. -/
theorem datagrams_faithful (settings : Settings) (platform : Platform) (sources : Sources)
    (fault : Option Text) (poll : Float) {script : List Action}
    (hports : ∀ datagram source, .receive datagram source ∈ script →
      (Nat.toDigits 10 source.port.natAbs).length ≤ 4300)
    {i : Nat} {datagram : ByteArray} {source : Source} {report : Report}
    (haction : script[i]? = some (.receive datagram source))
    (hreport : (run ⟨Server.ofSettings settings platform, sources, fault⟩ poll script).reports[i]? =
      some report) :
    ∀ sent ∈ Event.datagrams report.events,
      ∃ m, Message.decode platform.depth (Server.cut settings.maxPacket datagram) = .ok m ∧
        Faithful platform.depth settings.maxPacket (script.take (i + 1)) m sent := by
  rintro ⟨out, dest⟩ hsent
  rw [run_eq, List.getElem?_map, Option.map_eq_some_iff] at hreport
  obtain ⟨l, hl, rfl⟩ := hreport
  have hline : l.action = .receive datagram source :=
    Option.some.inj ((action_of_lines hl).symm.trans haction)
  have hcarried := List.mem_of_getElem? hl
  rw [(mem_lines hcarried).2, hline] at hsent
  by_cases hreadable : platform.unreadable settings.maxPacket = none
  case neg =>
    have hbefore : ¬ l.before.IsReadable := by
      rw [IsReadable, server_of_mem_lines hcarried]
      exact hreadable
    rw [perform_receive_of_not_isReadable hbefore] at hsent
    nomatch hsent
  -- the operations that the session before the line has done
  have hstart : Follows settings platform
      (serving ⟨Server.ofSettings settings platform, sources, fault⟩ poll) [] [] :=
    ⟨hreadable, rfl, rfl, rfl, rfl⟩
  obtain ⟨cs, hbefore⟩ := hstart.lines hl
  rw [perform_receive_of_isReadable hbefore.readable] at hsent
  -- what it has sent answers its message
  obtain ⟨m, payload, recipient, hm, hmem, rfl, rfl⟩ := Server.payload_of_mem_receive hsent
  rw [hbefore.store] at hmem
  have hanswers := answers_apply settings.peerTimeout cs m source l.before.sources.supply hmem
  have htake : script.take (i + 1) = script.take i ++ [.receive datagram source] := by
    rw [List.take_add_one, haction, Option.toList_some]
  have hafter := hbefore.perform (.receive datagram source)
  rw [commands, hm, List.nil_append, ← htake] at hafter
  rw [hbefore.maxPacket, hbefore.machine] at hm
  have hpast : ∀ datagram source, .receive datagram source ∈ script.take (i + 1) →
      (Nat.toDigits 10 source.port.natAbs).length ≤ 4300 :=
    fun datagram source h => hports datagram source (List.mem_of_mem_take h)
  exact ⟨m, hm, faithful_of_answers hpast (Message.unpaired_of_decode hm).1 hafter hanswers⟩

/-- A datagram of a client. -/
def clientDatagram (uid peerUid : Text) (kill : Bool) : ByteArray :=
  (Json.Value.object [("uid", .text uid), ("peerUid", .text peerUid), ("kill", .bool kill)]).encode

/-- An identity with one half of a surrogate pair, a quotation mark and a character beyond the first
    plane. -/
def outlandish : Text := [.ofNat 0xD800, .ofChar '"', .ofNat 0x1F600]

/-- Two clients that meet, one of whom has moved before, and part. -/
def meeting : List Action :=
  [ .receive (clientDatagram outlandish "b" false) ⟨"10.0.0.1", 4001⟩,
    .receive (clientDatagram outlandish "b" false) ⟨"10.0.0.1", 4999⟩,
    .receive (clientDatagram "b" outlandish false) ⟨"10.0.0.2", 5002⟩,
    .receive (clientDatagram "b" outlandish true) ⟨"10.0.0.2", 5002⟩ ]

/-- In `meeting` the second client is told where the first has moved, and the first is told there
    that the second has left. -/
theorem meeting_faithful :
    (∀ d source, .receive d source ∈ meeting →
        (Nat.toDigits 10 source.port.natAbs).length ≤ 4300) ∧
      (∃ report, (fresh.run 0.5 meeting).reports[2]? = some report ∧
        (Event.datagrams report.events).map Prod.snd =
          [⟨"10.0.0.2", 5002⟩, ⟨"10.0.0.1", 4999⟩] ∧
        ∀ sent ∈ Event.datagrams report.events,
          ∃ m, Message.decode .lowest
              (Server.cut 2048 (clientDatagram "b" outlandish false)) = .ok m ∧
            Faithful .lowest 2048 (meeting.take 3) m sent) ∧
      ∃ report, (fresh.run 0.5 meeting).reports[3]? = some report ∧
        (Event.datagrams report.events).map Prod.snd = [⟨"10.0.0.1", 4999⟩] ∧
        ∀ sent ∈ Event.datagrams report.events,
          ∃ m, Message.decode .lowest
              (Server.cut 2048 (clientDatagram "b" outlandish true)) = .ok m ∧
            Faithful .lowest 2048 meeting m sent := by
  have hports : ∀ d source, .receive d source ∈ meeting →
      (Nat.toDigits 10 source.port.natAbs).length ≤ 4300 := by
    have hall : ∀ a ∈ meeting, ∀ d source, a = .receive d source →
        (Nat.toDigits 10 source.port.natAbs).length ≤ 4300 := by
      simp only [meeting, List.forall_mem_cons]
      refine ⟨?_, ?_, ?_, ?_, nofun⟩ <;>
        (rintro d source ⟨⟩; decide)
    exact fun d source h => hall _ h d source rfl
  have hdests : (fresh.run 0.5 meeting).reports.map
        (fun r => (Event.datagrams r.events).map Prod.snd) =
      [[], [], [⟨"10.0.0.2", 5002⟩, ⟨"10.0.0.1", 4999⟩], [⟨"10.0.0.1", 4999⟩]] := by
    decide +kernel
  have hdest := congrArg (·[2]?) hdests
  have hdest' := congrArg (·[3]?) hdests
  simp only [List.getElem?_map] at hdest hdest'
  obtain ⟨report, hreport, hdest⟩ := Option.map_eq_some_iff.mp hdest
  obtain ⟨report', hreport', hdest'⟩ := Option.map_eq_some_iff.mp hdest'
  have haction : meeting[2]? =
    some (.receive (clientDatagram "b" outlandish false) ⟨"10.0.0.2", 5002⟩) := rfl
  have haction' : meeting[3]? =
    some (.receive (clientDatagram "b" outlandish true) ⟨"10.0.0.2", 5002⟩) := rfl
  refine ⟨hports, ⟨report, hreport, hdest, ?_⟩, ⟨report', hreport', hdest', ?_⟩⟩
  · exact datagrams_faithful ⟨"127.0.0.1", 33334, 30, 30, 2048⟩ .plain fresh.sources none 0.5
      hports haction hreport
  · exact datagrams_faithful ⟨"127.0.0.1", 33334, 30, 30, 2048⟩ .plain fresh.sources none 0.5
      hports haction' hreport'

end Replay.Session

end Rendezvous
