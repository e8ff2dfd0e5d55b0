import Rendezvous.Proofs.Freshness
import Rendezvous.Proofs.Bindings
import Mathlib.Data.List.Range

/-!
# Accounting for ids and messages

A client that is told of a match, or of the end of one, has to believe what it is told.  Here all
messages of a run are set against what the run did.

Match ids come from a source, of which a run knows only how many it has drawn: `offered` offers to
each operation the ids that are left.  Only a match draws one, and it draws no more than one
(`deed_offer`).  So the ids of the matches are the first ids of the source (`matchIds_offered`), and
if the source never repeats an id no two matches have the same.

What an operation sends follows from how it ended (`Deed.Accounts`): a match sends two
introductions, a kill that finds its peer sends one teardown, and nothing else sends anything.  The
id in a teardown is a binding of one of the two identities, so by the history of bindings it was
issued earlier, by a match of that identity.

* `messages_accounted`: the account, for every run.
-/

namespace Rendezvous.Store

variable {s : Store} {c : Command} {cs : List Command} {h : List Deed} {d : Deed} {u m : Text}

/-! ## Ids from a source -/

/-- An operation with the match ids that it is offered. -/
def Command.offer (newId : Nat → Text) : Command → Command
  | .register who peer supply => .register who peer { supply with newId }
  | c => c

/-- The operations of a run that takes its match ids from a source, of which it has drawn some: each
    operation is offered the ids that are left. -/
def offered (ids : Nat → Text) (s : Store) (drawn : Nat) : List Command → List Command
  | [] => []
  | c :: rest =>
    let c := c.offer fun n => ids (drawn + n)
    c :: offered ids (s.apply c).store (drawn + (s.apply c).drawn) rest

/-- The store of a server that took its match ids from a source. -/
def runFrom (ids : Nat → Text) (timeout : Float) (cs : List Command) : Store :=
  (empty timeout).run (offered ids (empty timeout) 0 cs)

/-- What such a server did. -/
def historyFrom (ids : Nat → Text) (timeout : Float) (cs : List Command) : List Deed :=
  (empty timeout).history (offered ids (empty timeout) 0 cs)

/-- How many match ids a history has drawn. -/
def draws : List Deed → Nat
  | [] => 0
  | d :: h => d.drawn + draws h

/-- The id of a match, if an operation ended in one. -/
def Outcome.matchId? : Outcome → Option Text
  | .registered (.matched m _) => some m
  | _ => none

/-- The ids of the matches of a history, oldest first. -/
def matchIds (h : List Deed) : List Text := h.filterMap fun d => d.outcome.matchId?

theorem matchIds_cons (d : Deed) (h : List Deed) :
    matchIds (d :: h) = d.outcome.matchId?.toList ++ matchIds h := by
  cases hd : d.outcome.matchId? <;> simp [matchIds, hd]

/-- An operation draws one id, the first that it is offered, and ends in a match under that id, or
    it draws none. -/
theorem deed_offer (s : Store) (c : Command) (newId : Nat → Text) :
    ((s.deed (c.offer newId)).drawn = 1 ∧
        (s.deed (c.offer newId)).outcome.matchId? = some (newId 0)) ∨
      ((s.deed (c.offer newId)).drawn = 0 ∧
        (s.deed (c.offer newId)).outcome.matchId? = none) := by
  have t := apply_transition s (c.offer newId)
  rw [deed]
  generalize s.apply (c.offer newId) = r at t ⊢
  cases c with
  | register who peer supply =>
    cases t with
    | matched => exact Or.inl ⟨rfl, rfl⟩
    | rejected | waits => exact Or.inr ⟨rfl, rfl⟩
  | kill => cases t <;> exact Or.inr ⟨rfl, rfl⟩
  | sweep | setTimeout =>
    cases t
    exact Or.inr ⟨rfl, rfl⟩

/-- The ids of the matches are those that were drawn, in their order. -/
theorem matchIds_offered (ids : Nat → Text) (s : Store) (drawn : Nat) (cs : List Command) :
    matchIds (s.history (offered ids s drawn cs)) =
      (List.range' drawn (draws (s.history (offered ids s drawn cs)))).map ids := by
  induction cs generalizing s drawn with
  | nil => rfl
  | cons c rest ih =>
    let left (n : Nat) : Text := ids (drawn + n)
    have hcons : s.history (offered ids s drawn (c :: rest)) =
        s.deed (c.offer left) :: (s.apply (c.offer left)).store.history
          (offered ids (s.apply (c.offer left)).store
            (drawn + (s.deed (c.offer left)).drawn) rest) := rfl
    rw [hcons, matchIds_cons, draws, ih]
    rcases deed_offer s c left with ⟨hn, hm⟩ | ⟨hn, hm⟩
    · rw [hn, hm, Nat.add_comm 1, List.range'_succ]
      rfl
    · rw [hn, hm, Nat.zero_add]
      rfl

/-- A source that never repeats an id makes no two matches under one. -/
theorem nodup_matchIds {ids : Nat → Text} (hids : Function.Injective ids) (timeout : Float)
    (cs : List Command) : (matchIds (historyFrom ids timeout cs)).Nodup := by
  rw [historyFrom, matchIds_offered]
  exact List.Nodup.map hids List.nodup_range'

/-! ## What an operation sends -/

/-- All that a history sent, in order. -/
def messages (h : List Deed) : List (Payload × Endpoint) := h.flatMap Deed.sent

/-- Whether a message introduces a peer under a match id. -/
def introduces (m : Text) (msg : Payload × Endpoint) : Bool :=
  match msg.1 with
  | .introduction _ k => k = m
  | .teardown .. => false

/-- Whether a message tells of the end of a match. -/
def isTeardown (msg : Payload × Endpoint) : Bool :=
  match msg.1 with
  | .introduction .. => false
  | .teardown .. => true

/-- The account of an operation: what it sent, by how it ended. -/
inductive Deed.Accounts (d : Deed) : Prop
  /-- A match introduces the two parties to each other. -/
  | introduction (who target : Endpoint) (supply : Supply) (m : Text)
      (command : d.command = .register who target.uid supply)
      (outcome : d.outcome = .registered (.matched m target))
      (sent : d.sent = [(.introduction target m, who), (.introduction who m, target)])
  /-- A kill that finds its peer tells the peer. -/
  | teardown (uid k m : Text) (survivor : Endpoint)
      (command : d.command = .kill uid survivor.uid k)
      (outcome : d.outcome = .killed .notified)
      (sent : d.sent = [(.teardown uid m, survivor)])
  /-- Nothing else is told to anybody. -/
  | silence (unmatched : d.outcome.matchId? = none) (outcome : d.outcome ≠ .killed .notified)
      (sent : d.sent = [])

/-- An operation on tables that are up to date sends what its end calls for. -/
theorem accounts_deed (hw : RecordsLatest cs s.waiting) (ha : RecordsLatest cs s.active)
    (c : Command) : (s.deed c).Accounts := by
  have t := apply_transition s c
  rw [deed]
  generalize s.apply c = r at t
  cases t with
  | @matched who peer supply target named found =>
    have hc := admission?_register supply named
    obtain rfl := ((recordsLatest_sight hw hc).lastEndpoint? found).1
    exact .introduction who target.endpoint supply supply.matchId rfl rfl rfl
  | @notified uid peer k survivor named fresh active =>
    obtain rfl := (ha.lastEndpoint? active).1
    exact .teardown uid k (s.currentId uid survivor.endpoint.uid) survivor.endpoint rfl rfl rfl
  | swept => exact .silence rfl (by simp) (Effect.deliveries_logs _)
  | rejected | waits | killRejected | stale | unpaired | timeoutSet =>
    exact .silence rfl (by simp) rfl

/-- Every operation of a run sends what its end calls for. -/
theorem accounts_history (timeout : Float) (cs : List Command) :
    ∀ d ∈ (empty timeout).history cs, d.Accounts := by
  intro d hd
  obtain ⟨before, after, hsplit⟩ := List.append_of_mem hd
  obtain ⟨cs₁, c, cs₂, -, -, rfl⟩ := history_eq_append_cons hsplit
  obtain ⟨hw, ha⟩ := recordsLatest_run timeout cs₁
  exact accounts_deed hw ha c

/-! ## Whose messages they are -/

/-- An operation introduces peers under the id of its own match only. -/
theorem Deed.Accounts.filter_introduces (hd : d.Accounts) (m : Text) :
    d.sent.filter (introduces m) = if d.outcome.matchId? = some m then d.sent else [] := by
  cases hd with
  | introduction who target supply k command outcome sent =>
    rw [sent, outcome]
    by_cases hk : k = m <;> simp [introduces, Outcome.matchId?, hk]
  | teardown uid k n survivor command outcome sent =>
    rw [sent, outcome]
    rfl
  | silence unmatched outcome sent =>
    rw [sent, unmatched]
    rfl

theorem filter_messages_of_notMem (hh : ∀ d ∈ h, d.Accounts) (hm : m ∉ matchIds h) :
    (messages h).filter (introduces m) = [] := by
  rw [messages, List.filter_flatMap, List.flatMap_eq_nil_iff]
  intro d hd
  have hne : d.outcome.matchId? ≠ some m := fun hm' => hm (List.mem_filterMap.mpr ⟨d, hd, hm'⟩)
  rw [(hh d hd).filter_introduces, if_neg hne]

/-- If no two matches have one id, the messages that introduce peers under the id of a match are
    those that the match itself sent. -/
theorem filter_messages_of_mem (hh : ∀ d ∈ h, d.Accounts) (hnodup : (matchIds h).Nodup)
    (hd : d ∈ h) (hm : d.outcome.matchId? = some m) :
    (messages h).filter (introduces m) = d.sent := by
  obtain ⟨before, after, rfl⟩ := List.append_of_mem hd
  have hids : matchIds (before ++ d :: after) = matchIds before ++ m :: matchIds after := by
    rw [matchIds, List.filterMap_append]
    exact congrArg _ (by rw [← matchIds, matchIds_cons, hm]; rfl)
  rw [hids, List.nodup_middle, List.nodup_cons, List.mem_append, not_or] at hnodup
  obtain ⟨⟨hbefore, hafter⟩, -⟩ := hnodup
  obtain ⟨hhbefore, hhd, hhafter⟩ :
      (∀ e ∈ before, e.Accounts) ∧ d.Accounts ∧ ∀ e ∈ after, e.Accounts := by
    simpa [or_imp, forall_and] using hh
  have hsplit : messages (before ++ d :: after) =
      messages before ++ (d.sent ++ messages after) := by
    rw [messages, List.flatMap_append, List.flatMap_cons, messages, messages]
  rw [hsplit, List.filter_append, List.filter_append, filter_messages_of_notMem hhbefore hbefore,
    filter_messages_of_notMem hhafter hafter, hhd.filter_introduces, if_pos hm, List.nil_append,
    List.append_nil]

theorem countP_isTeardown (hh : ∀ d ∈ h, d.Accounts) :
    (messages h).countP isTeardown = h.countP (fun d => d.outcome = .killed .notified) := by
  induction h with
  | nil => rfl
  | cons d h ih =>
    obtain ⟨hd, hh⟩ := List.forall_mem_cons.mp hh
    have hone : d.sent.countP isTeardown = if d.outcome = .killed .notified then 1 else 0 := by
      cases hd with
      | introduction who target supply m command outcome sent =>
        rw [sent, outcome]
        rfl
      | teardown uid k m survivor command outcome sent =>
        rw [sent, outcome]
        rfl
      | silence unmatched outcome sent =>
        rw [sent, if_neg outcome]
        rfl
    rw [messages, List.flatMap_cons, List.countP_append, ← messages, hone, ih hh,
      List.countP_cons, Nat.add_comm]
    simp only [decide_eq_true_eq]

/-! ## Where the id of a teardown comes from -/

/-- The two parties of a match. -/
def Pairing.Joins (p : Pairing) (u : Text) : Prop := p.registrant = u ∨ p.target = u

/-- The id of a kill, if there is one, is bound to one of its two identities. -/
theorem bound_of_currentId {uid peer : Text} (hm : s.currentId uid peer ≠ []) :
    s.matchIdOf? uid = some (s.currentId uid peer) ∨
      s.matchIdOf? peer = some (s.currentId uid peer) := by
  -- what is left of a look-up that may fail is empty unless it succeeds
  have found : ∀ v, (s.bindings.get? v).getD [] ≠ [] →
      s.matchIdOf? v = some ((s.bindings.get? v).getD []) := by
    intro v hv
    rw [matchIdOf?]
    cases hb : s.bindings.get? v with
    | none => rw [hb] at hv; exact absurd rfl hv
    | some k => rfl
  rw [currentId] at hm ⊢
  simp only [List.isEmpty_iff] at hm ⊢
  split at hm
  · rename_i hown
    rw [if_pos hown]
    exact Or.inr (found peer hm)
  · rename_i hown
    rw [if_neg hown]
    exact Or.inl (found uid hown)

/-- The id in a teardown was issued to one of its two identities. -/
theorem issued_of_teardown {timeout : Float} {k : Text} {recipient : Endpoint}
    (hsent : (.teardown u k, recipient) ∈ (((empty timeout).run cs).deed c).sent) (hk : k ≠ []) :
    ∃ p ∈ pairings ((empty timeout).history cs),
      p.matchId = k ∧ (p.Joins u ∨ p.Joins recipient.uid) := by
  rcases (apply_transition _ c).delivery_origin hsent with
    ⟨_, _, _, -, -, -, ⟨hintro, -⟩ | ⟨hintro, -⟩⟩ | ⟨uid, peer, _, survivor, -, hactive, htear, rfl⟩
  · nomatch hintro
  · nomatch hintro
  · obtain ⟨rfl, rfl⟩ := Payload.teardown.inj htear
    obtain rfl := ((recordsLatest_run timeout cs).2.lastEndpoint? hactive).1
    rcases bound_of_currentId hk with hbound | hbound
    · rw [matchIdOf?_run] at hbound
      obtain ⟨p, hp, hid, hjoins⟩ := pairing_of_matchInForce? hbound
      exact ⟨p, hp, hid, Or.inl hjoins⟩
    · rw [matchIdOf?_run] at hbound
      obtain ⟨p, hp, hid, hjoins⟩ := pairing_of_matchInForce? hbound
      exact ⟨p, hp, hid, Or.inr hjoins⟩

/-- A teardown carries its id unless that is empty. -/
theorem get?_members_teardown {k : Text} :
    (Payload.teardown u k).members.get? "matchId" = some (.text m) ↔ k ≠ [] ∧ k = m := by
  have hkill : ("kill" : Text) ≠ "matchId" := by decide
  have hopponent : ("opponentUid" : Text) ≠ "matchId" := by decide
  have hreason : ("reason" : Text) ≠ "matchId" := by decide
  by_cases hk : k = []
  · simp [Payload.members, Json.Members.get?, Entries.get?_cons, hk, hkill, hopponent, hreason]
  · simp [Payload.members, Json.Members.get?, Entries.get?_cons, hk, hkill, hopponent, hreason]

/-! ## Runs -/

/-- The account of a history that takes its match ids from a source. -/
structure Accounted (ids : Nat → Text) (h : List Deed) : Prop where
  /-- The ids of the matches are those that were drawn, in their order. -/
  drawn : matchIds h = (List.range (draws h)).map ids
  /-- A match sends two introductions, a kill that finds its peer one teardown, and nothing else
      sends anything. -/
  sent : ∀ d ∈ h, d.Accounts
  /-- The introductions under the id of a match are the two that the match sent, one after the
      other. -/
  introduced : ∀ d ∈ h, ∀ m target, d.outcome = .registered (.matched m target) →
    ∃ who supply, d.command = .register who target.uid supply ∧
      d.sent = [(.introduction target m, who), (.introduction who m, target)] ∧
      (messages h).filter (introduces m) = d.sent
  /-- There is one teardown for each kill that found its peer. -/
  notified : (messages h).countP isTeardown = h.countP fun d => d.outcome = .killed .notified
  /-- An id that a teardown carries was issued earlier, by a match of the opponent that it names or
      of the recipient. -/
  issued : ∀ before d after, h = before ++ d :: after → ∀ u k m recipient,
    (.teardown u k, recipient) ∈ d.sent →
    (Payload.teardown u k).members.get? "matchId" = some (.text m) →
    ∃ p ∈ pairings before, p.matchId = m ∧ (p.Joins u ∨ p.Joins recipient.uid)

/-- **All messages are accounted for**, in every run from a source that never repeats an id. -/
theorem messages_accounted (timeout : Float) {ids : Nat → Text} (hids : Function.Injective ids)
    (cs : List Command) : Accounted ids (historyFrom ids timeout cs) where
  drawn := by rw [historyFrom, matchIds_offered, List.range_eq_range']
  sent := accounts_history timeout _
  introduced d hd m target hout := by
    have hm : d.outcome.matchId? = some m := by rw [hout]; rfl
    have hfilter := filter_messages_of_mem (accounts_history timeout _)
      (nodup_matchIds hids timeout cs) hd hm
    cases accounts_history timeout _ d hd with
    | introduction who target' supply m' command outcome sent =>
      obtain ⟨rfl, rfl⟩ : m' = m ∧ target' = target := by simpa [hout, eq_comm] using outcome
      exact ⟨who, supply, command, sent, hfilter⟩
    | teardown uid k n survivor command outcome sent => nomatch hout.symm.trans outcome
    | silence unmatched outcome sent => nomatch hm.symm.trans unmatched
  notified := countP_isTeardown (accounts_history timeout _)
  issued before d after hsplit u k m recipient hsent hcarries := by
    obtain ⟨cs₁, c, cs₂, -, rfl, rfl⟩ := history_eq_append_cons hsplit
    obtain ⟨hk, rfl⟩ := get?_members_teardown.mp hcarries
    exact issued_of_teardown hsent hk

/-- A source of ids of growing length. -/
def tally (n : Nat) : Text := List.replicate (n + 1) (.ofChar 'I')

theorem tally_injective : Function.Injective tally := fun m n hmn => by
  simpa [tally] using congrArg List.length hmn

/-- In the run `rematched` and a kill by the partner of the first match, two ids are drawn, and the
    teardown carries the first of them although its recipient is in the second match. -/
theorem rematched_accounted :
    Function.Injective tally ∧
      matchIds (historyFrom tally 30 (rematched ++ [.kill "a" "b" []])) = [tally 0, tally 1] ∧
      (messages (historyFrom tally 30 (rematched ++ [.kill "a" "b" []]))).filter isTeardown =
        [(.teardown "a" (tally 0), ⟨"b", "10.0.0.2", 1002⟩)] ∧
      (historyFrom tally 30 (rematched ++ [.kill "a" "b" []])).countP
        (fun d => d.outcome = .killed .notified) = 1 := by
  have account := messages_accounted 30 tally_injective (rematched ++ [.kill "a" "b" []])
  have hsent : (messages (historyFrom tally 30 (rematched ++ [.kill "a" "b" []]))).filter
      isTeardown = [(.teardown "a" (tally 0), ⟨"b", "10.0.0.2", 1002⟩)] := by decide
  refine ⟨tally_injective, account.drawn.trans (by decide), hsent, account.notified.symm.trans ?_⟩
  rw [List.countP_eq_length_filter, hsent]
  rfl

end Rendezvous.Store
