import Rendezvous.Proofs.Origin

/-!
# Endpoints are up to date

Clients behind an address translation change their endpoints, so a record or a message that is one
registration too old leads nowhere.  `RecordsLatest cs t` says that the table `t` records of every
identity what it told when it last registered in the operations `cs`.  Both tables do so after
every run, although a match copies an entry from one into the other: the waiting entry of the
target is never older than its active one.

* `endpoints_latest`: all that the tables record and all that is sent is up to date.
-/

namespace Rendezvous.Store

variable {s : Store} {c : Command} {cs : List Command}

/-- Whatever a table records of an identity is what its latest accepted registration told. -/
def RecordsLatest (cs : List Command) (t : Table Text Sighting) : Prop :=
  ∀ u seen, t.get? u = some seen → ∃ a, lastAdmission? cs u = some a ∧ a.sighting = seen

/-! ## Tables -/

/-- An operation keeps both tables up to date. -/
theorem recordsLatest_apply (hw : RecordsLatest cs s.waiting) (ha : RecordsLatest cs s.active)
    (c : Command) :
    RecordsLatest (cs ++ [c]) (s.apply c).store.waiting ∧
      RecordsLatest (cs ++ [c]) (s.apply c).store.active := by
  have t := apply_transition s c
  constructor
  · intro u seen h
    rcases t.waiting_origin h with ⟨a, hc, rfl, hseen, -⟩ | ⟨hn, hold⟩
    · exact ⟨a, lastAdmission?_of_admits cs hc, hseen⟩
    · rw [lastAdmission?_of_not_admits cs hn]
      exact hw u seen hold
  · intro u seen h
    rcases t.active_origin h with ⟨a, hc, rfl, hseen⟩ | ⟨hn, hold | hold⟩
    · exact ⟨a, lastAdmission?_of_admits cs hc, hseen⟩
    · rw [lastAdmission?_of_not_admits cs hn]
      exact ha u seen hold
    · -- copied by a match: the invariant of the other table carries this case
      rw [lastAdmission?_of_not_admits cs hn]
      exact hw u seen hold

/-- After a run from the empty store both tables are up to date. -/
theorem recordsLatest_run (timeout : Float) (cs : List Command) :
    RecordsLatest cs ((empty timeout).run cs).waiting ∧
      RecordsLatest cs ((empty timeout).run cs).active := by
  induction cs using List.reverseRecOn with
  | nil => exact ⟨fun _ _ h => (nomatch h), fun _ _ h => (nomatch h)⟩
  | append_singleton cs c ih =>
    rw [run_append_singleton]
    exact recordsLatest_apply ih.1 ih.2 c

/-- Entering a registrant keeps the waiting table up to date. -/
theorem recordsLatest_sight (hw : RecordsLatest cs s.waiting) {a : Admission}
    (hc : c.admission? = some a) :
    RecordsLatest (cs ++ [c]) (s.sight a.sighting).waiting := by
  intro u seen h
  rw [sight_waiting, Admission.sighting_endpoint] at h
  by_cases hu : a.who.uid = u
  · subst hu
    rw [if_pos rfl] at h
    exact ⟨a, lastAdmission?_of_admits cs hc, Option.some.inj h⟩
  · rw [if_neg hu] at h
    rw [lastAdmission?_of_not_admits cs (not_admits_of_ne hc hu)]
    exact hw u seen h

/-! ## Records and messages -/

/-- The endpoint that an up-to-date table records of an identity is the identity's latest. -/
theorem RecordsLatest.lastEndpoint? {t : Table Text Sighting} (h : RecordsLatest cs t) {u : Text}
    {seen : Sighting} (hu : t.get? u = some seen) :
    seen.endpoint.uid = u ∧ lastEndpoint? cs seen.endpoint.uid = some seen.endpoint := by
  obtain ⟨a, ha, rfl⟩ := h u seen hu
  obtain rfl := uid_of_lastAdmission? ha
  exact ⟨rfl, by rw [Store.lastEndpoint?]; exact congrArg _ ha⟩

/-- What an operation sends is up to date once the operation itself is counted. -/
theorem delivery_latest (hw : RecordsLatest cs s.waiting) (ha : RecordsLatest cs s.active)
    {payload : Payload} {recipient : Endpoint}
    (h : (payload, recipient) ∈ Effect.deliveries (s.apply c).effects) :
    recipient.uid ∈ c.addressees ∧
      lastEndpoint? (cs ++ [c]) recipient.uid = some recipient ∧
      ∀ peer m, payload = .introduction peer m →
        lastEndpoint? (cs ++ [c]) peer.uid = some peer := by
  rcases (apply_transition s c).delivery_origin h with
    ⟨a, target, m, hc, haddr, htarget, hsent⟩ | ⟨uid, peer, m, survivor, rfl, hactive, rfl, rfl⟩
  · -- a match: the registrant has just been admitted, and the target waits
    have hwho : lastEndpoint? (cs ++ [c]) a.who.uid = some a.who := by
      rw [lastEndpoint?, lastAdmission?_of_admits cs hc]
      rfl
    obtain ⟨htuid, hlast⟩ := (recordsLatest_sight hw hc).lastEndpoint? htarget
    rcases hsent with ⟨rfl, rfl⟩ | ⟨rfl, rfl⟩
    · refine ⟨by rw [haddr]; exact List.mem_cons_self, hwho, fun peer m h => ?_⟩
      obtain ⟨rfl, -⟩ := Payload.introduction.inj h
      exact hlast
    · refine ⟨by rw [haddr, htuid]; exact List.mem_cons_of_mem _ List.mem_cons_self, hlast,
        fun peer m h => ?_⟩
      obtain ⟨rfl, -⟩ := Payload.introduction.inj h
      exact hwho
  · -- a kill: the survivor is active, and a kill admits nobody
    obtain ⟨huid, hlast⟩ := ha.lastEndpoint? hactive
    refine ⟨by rw [huid]; exact List.mem_cons_self, ?_, fun peer m h => (nomatch h)⟩
    rw [lastEndpoint?, lastAdmission?_of_not_admits cs (not_admits_of_none rfl)]
    exact hlast

/-- **Endpoints are up to date.**  After a run, whatever either table records of an identity is its
    own endpoint and the reading of its latest accepted registration, so that the two tables agree
    where both have an entry.  Whatever the next operation then sends goes to an identity that it
    names, at the latest endpoint of that identity, and introduces peers by their latest
    endpoints, where the operation itself counts as the latest registration if it is one. -/
theorem endpoints_latest (timeout : Float) (cs : List Command) :
    (∀ u seen, ((empty timeout).run cs).waiting.get? u = some seen ∨
        ((empty timeout).run cs).active.get? u = some seen →
      ∃ a, lastAdmission? cs u = some a ∧ seen = ⟨⟨u, a.who.address, a.who.port⟩, a.now⟩) ∧
    (∀ u seen seen', ((empty timeout).run cs).waiting.get? u = some seen →
      ((empty timeout).run cs).active.get? u = some seen' → seen = seen') ∧
    (∀ c payload recipient,
      (payload, recipient) ∈ Effect.deliveries (((empty timeout).run cs).apply c).effects →
      recipient.uid ∈ c.addressees ∧
        lastEndpoint? (cs ++ [c]) recipient.uid = some recipient ∧
        ∀ peer m, payload = .introduction peer m →
          lastEndpoint? (cs ++ [c]) peer.uid = some peer) := by
  obtain ⟨hw, ha⟩ := recordsLatest_run timeout cs
  refine ⟨fun u seen h => ?_, fun u seen seen' hwait hactive => ?_, fun c payload recipient h => ?_⟩
  · obtain ⟨a, hlast, rfl⟩ : ∃ a, lastAdmission? cs u = some a ∧ a.sighting = seen :=
      h.elim (hw u seen) (ha u seen)
    obtain rfl := uid_of_lastAdmission? hlast
    exact ⟨a, hlast, rfl⟩
  · obtain ⟨a, hlast, rfl⟩ := hw u seen hwait
    obtain ⟨a', hlast', rfl⟩ := ha u seen' hactive
    rw [Option.some.inj (hlast.symm.trans hlast')]
  · exact delivery_latest hw ha h

/-- An identity that registers twice, from two ports, before its peer comes. -/
def moved : List Command :=
  [ .register ⟨"a", "10.0.0.1", 4001⟩ "b" (.of 1000 1000 1000 "match-1"),
    .register ⟨"a", "10.0.0.1", 4999⟩ "b" (.of 1005 1005 1005 "match-1") ]

/-- The registration of the peer. -/
def arrival : Command :=
  .register ⟨"b", "10.0.0.2", 5002⟩ "a" (.of 1010 1010 1010 "match-1")

/-- After `moved`, the peer is given the second port. -/
theorem introduction_after_moved :
    (.introduction ⟨"a", "10.0.0.1", 4999⟩ "match-1", ⟨"b", "10.0.0.2", 5002⟩) ∈
        Effect.deliveries (((empty 30).run moved).apply arrival).effects ∧
      lastEndpoint? (moved ++ [arrival]) "a" = some ⟨"a", "10.0.0.1", 4999⟩ := by
  have hsent : (.introduction ⟨"a", "10.0.0.1", 4999⟩ "match-1", ⟨"b", "10.0.0.2", 5002⟩) ∈
      Effect.deliveries (((empty 30).run moved).apply arrival).effects := by decide
  exact ⟨hsent, ((endpoints_latest 30 moved).2.2 arrival _ _ hsent).2.2 _ "match-1" rfl⟩

end Rendezvous.Store
