import Rendezvous.Proofs.Membership
import Rendezvous.Proofs.Messages

/-!
# Nobody is told twice

Kills come from anybody, about any match and as often as the network repeats them.  Still a client
is not told of two departures unless something has happened to it in between: each notification
takes the one active entry of its recipient, and only an accepted registration of the recipient, or
a match with it as the peer, makes an entry again.

So notifications and activations are kept like an account.  `notifications_le` is its balance, for
an operation and for a run: what was spent and what is left is no more than what was earned and what
was there at first.

* `notified_once_per_activation`: between two notifications to an identity it was activated.
-/

namespace Rendezvous.Store

variable {s : Store} {c : Command} {d : Deed} {h : List Deed} {v : Text}

/-! ## Notifications -/

/-- Whether a message tells an identity that its opponent has left. -/
def notifies (v : Text) (msg : Payload × Endpoint) : Bool := isTeardown msg && msg.2.uid = v

/-- Whether an operation was a kill whose peer, this identity, was told. -/
def Deed.notifies (v : Text) (d : Deed) : Bool :=
  match d.command, d.outcome with
  | .kill _ peer _, .killed .notified => peer = v
  | _, _ => false

/-- An operation notifies an identity at most once, and by a kill only. -/
theorem Deed.Accounts.countP_notifies (hd : d.Accounts) (v : Text) :
    d.sent.countP (Store.notifies v) = (d.notifies v).toNat := by
  cases hd with
  | introduction who target supply m command outcome sent =>
    rw [sent, Deed.notifies, command, outcome]
    rfl
  | teardown uid k m survivor command outcome sent =>
    rw [sent, Deed.notifies, command, outcome]
    by_cases hv : survivor.uid = v <;> simp [Store.notifies, isTeardown, hv]
  | silence unmatched outcome sent =>
    have hquiet : d.notifies v = false := by
      rw [Deed.notifies.eq_def]
      split
      · next hkilled => exact absurd hkilled outcome
      · rfl
    rw [sent, hquiet]
    rfl

/-- The notifications of a history are as many as the kills that made them. -/
theorem countP_notifies (hh : ∀ d ∈ h, d.Accounts) (v : Text) :
    (messages h).countP (notifies v) = h.countP (Deed.notifies v) := by
  induction h with
  | nil => rfl
  | cons d h ih =>
    obtain ⟨hd, hh⟩ := List.forall_mem_cons.mp hh
    rw [messages, List.flatMap_cons, List.countP_append, ← messages, hd.countP_notifies, ih hh,
      List.countP_cons, Nat.add_comm]
    cases d.notifies v <;> rfl

/-! ## The account of an identity -/

/-- A notification takes the active entry of its recipient... -/
theorem active_of_notifies (hn : (s.deed c).notifies v) :
    s.isActive v ∧ ¬(s.apply c).store.isActive v := by
  have t := apply_transition s c
  rw [deed] at hn
  generalize s.apply c = r at t hn
  cases t with
  | @notified uid peer m survivor named fresh active =>
    obtain rfl := of_decide_eq_true hn
    have hgone : ((s.deactivate uid peer).unbind uid peer).active.get? peer = none := by
      rw [unbind_active, deactivate_active, if_pos (Or.inr rfl)]
    rw [isActive, isActive, Table.contains, Table.contains, active, hgone]
    exact ⟨rfl, Bool.false_ne_true⟩
  | rejected | waits | matched | killRejected | stale | unpaired | swept | timeoutSet => cases hn

/-- ... and nothing but an activation makes one. -/
theorem active_of_active_apply (hactive : (s.apply c).store.isActive v)
    (hn : ¬(s.deed c).activates v) : s.isActive v := by
  rw [Deed.activates, Bool.or_eq_true, not_or] at hn
  obtain ⟨seen, hseen⟩ := Option.isSome_iff_exists.mp hactive
  rw [active_apply, if_neg hn.1, if_neg hn.2] at hseen
  exact Option.isSome_iff_exists.mpr ⟨seen, hseen.1⟩

/-- The balance of one operation. -/
theorem notifications_le_apply (s : Store) (c : Command) (v : Text) :
    ((s.deed c).notifies v).toNat + ((s.apply c).store.isActive v).toNat ≤
      ((s.deed c).activates v).toNat + (s.isActive v).toNat := by
  by_cases hn : (s.deed c).notifies v
  · -- spent: there was an entry, and there is none now
    obtain ⟨hbefore, hafter⟩ := active_of_notifies hn
    rw [hn, hbefore, Bool.eq_false_iff.mpr hafter]
    exact Nat.le_add_left _ _
  by_cases ha : (s.deed c).activates v
  · -- earned: at most one entry is there now
    have hafter := Bool.toNat_le ((s.apply c).store.isActive v)
    rw [Bool.eq_false_iff.mpr hn, ha]
    simp only [Bool.toNat_false, Bool.toNat_true]
    omega
  · rw [Bool.eq_false_iff.mpr hn, Bool.eq_false_iff.mpr ha]
    have hkept := Bool.toNat_le_toNat fun hafter => active_of_active_apply hafter ha
    exact Nat.add_le_add_left hkept _

/-- **The balance of a run**, from any store: notifications take active entries, and activations
    make them. -/
theorem notifications_le (s : Store) (cs : List Command) (v : Text) :
    (s.history cs).countP (Deed.notifies v) + ((s.run cs).isActive v).toNat ≤
      (s.history cs).countP (Deed.activates v) + (s.isActive v).toNat := by
  induction cs generalizing s with
  | nil => exact Nat.le_refl _
  | cons c cs ih =>
    have hone := notifications_le_apply s c v
    have hrest := ih (s.apply c).store
    have htoNat : ∀ b : Bool, (if b = true then 1 else 0) = b.toNat := by decide
    rw [history, List.countP_cons, List.countP_cons, htoNat, htoNat, run_cons]
    omega

/-! ## Runs -/

/-- Between two notifications to an identity it was activated. -/
theorem exists_activates_between {cs : List Command} {before between after : List Deed} {e : Deed}
    (hsplit : s.history cs = before ++ d :: (between ++ e :: after)) (hd : d.notifies v)
    (he : e.notifies v) : ∃ a ∈ between, a.activates v := by
  obtain ⟨cs₁, rest, rfl, -, hfrom⟩ := history_eq_append hsplit
  obtain ⟨c, rest, rfl, rfl, hbehind⟩ := history_eq_cons hfrom.symm
  obtain ⟨cs₂, rest, rfl, rfl, hlast⟩ := history_eq_append hbehind.symm
  obtain ⟨c', -, -, rfl, -⟩ := history_eq_cons hlast.symm
  -- the second kill has found an entry, of which the first has left none
  have hspent := (active_of_notifies hd).2
  have hearned := (active_of_notifies he).1
  have hbalance := notifications_le (((s.run cs₁).apply c).store) cs₂ v
  rw [hearned, Bool.eq_false_iff.mpr hspent, Bool.toNat_true, Bool.toNat_false] at hbalance
  exact List.countP_pos_iff.mp (by omega)

/-- **No notification is sent twice.**  In every run, between any two messages that tell an identity
    that its opponent has left, whoever sent for them, there is an accepted registration of the
    identity or a match with it as the peer; no operation sends it two of them.  So it is sent no
    more of them than there were such registrations and matches. -/
theorem notified_once_per_activation (timeout : Float) (cs : List Command) (v : Text) :
    (∀ before d between e after,
      (empty timeout).history cs = before ++ d :: (between ++ e :: after) →
      (∃ msg ∈ d.sent, notifies v msg) → (∃ msg ∈ e.sent, notifies v msg) →
      ∃ a ∈ between, a.registers v ∨ a.targets v) ∧
    (∀ d ∈ (empty timeout).history cs, d.sent.countP (notifies v) ≤ 1) ∧
    (messages ((empty timeout).history cs)).countP (notifies v) ≤
      ((empty timeout).history cs).countP fun d => d.registers v || d.targets v := by
  have haccounts := accounts_history timeout cs
  have hkill : ∀ d ∈ (empty timeout).history cs, (∃ msg ∈ d.sent, notifies v msg) →
      d.notifies v := by
    intro d hd hsent
    have hpos := List.countP_pos_iff.mpr hsent
    rw [(haccounts d hd).countP_notifies] at hpos
    by_contra hn
    rw [Bool.eq_false_iff.mpr hn] at hpos
    exact Nat.lt_irrefl 0 hpos
  refine ⟨fun before d between e after hsplit hd he => ?_, fun d hd => ?_, ?_⟩
  · have hmem : d ∈ (empty timeout).history cs ∧ e ∈ (empty timeout).history cs := by
      simp [hsplit]
    obtain ⟨a, ha, hactivates⟩ :=
      exists_activates_between hsplit (hkill d hmem.1 hd) (hkill e hmem.2 he)
    exact ⟨a, ha, Bool.or_eq_true _ _ ▸ hactivates⟩
  · rw [(haccounts d hd).countP_notifies]
    exact Bool.toNat_le _
  · rw [countP_notifies haccounts]
    exact Nat.le_of_add_right_le (notifications_le (empty timeout) cs v)

/-- A client that is told of one departure, asks for another peer and is told of a second. -/
def leftTwice : List Command :=
  [ .register ⟨"a", "10.0.0.1", 1001⟩ "b" (.of 1000 1000 1000 "match-1"),
    .register ⟨"b", "10.0.0.2", 1002⟩ "a" (.of 1000 1000 1000 "match-1"),
    .kill "a" "b" "match-1",
    .kill "a" "b" "match-1",
    .register ⟨"b", "10.0.0.2", 1002⟩ "c" (.of 1000 1000 1000 "match-2"),
    .kill "c" "b" [] ]

/-- In `leftTwice` the kill that is repeated tells nobody, and the registration behind it lets the
    last one tell `b` again. -/
theorem leftTwice_notified :
    let h := (empty 30).history leftTwice
    (messages h).filter (notifies "b") =
        [(.teardown "a" "match-1", ⟨"b", "10.0.0.2", 1002⟩),
          (.teardown "c" [], ⟨"b", "10.0.0.2", 1002⟩)] ∧
      (∃ a ∈ (h.drop 3).take 2, a.registers "b" ∨ a.targets "b") ∧
      (messages h).countP (notifies "b") ≤ h.countP fun d => d.registers "b" || d.targets "b" := by
  have account := notified_once_per_activation 30 leftTwice "b"
  refine ⟨by decide, ?_, account.2.2⟩
  exact account.1 (((empty 30).history leftTwice).take 2) _ _ _ _ rfl (by decide) (by decide)

end Rendezvous.Store
