import Rendezvous.Echo

/-!
# What an echo connection gets back

The loop takes the messages one by one: it logs a message, sends it back and goes on.  It does the
same for each as long as nothing fails (`relayFrom_append`), so all that is to be said is where it
stops.  A send can fail at one place, which is given by how many were made before it.  If there are
not that many messages, the failure never comes, and the loop stops where reading ends.  Otherwise
it stops at the message for which the send fails: that one was read but is not sent back, and those
behind it are not even read.

* `echoes_faithfully`: what is sent back, how the loop ends and what is logged, for every
  connection.
-/

namespace Rendezvous

/-- Whether a notice tells that an echo connection is over. -/
def Notice.isFarewell : Notice → Bool
  | .echoBroken .. | .echoClosed .. => true
  | _ => false

namespace Echo

/-- The transcript of a loop that read these messages and sent them back, and then went on. -/
def Transcript.behind (before : List Frame) (t : Transcript) : Transcript :=
  ⟨before ++ t.sent, before.map .echoReceived ++ t.notices, t.ending⟩

namespace Connection

variable {c : Connection} {count n : Nat} {f : SendFailure} {why : Text}

/-! ## Where a send fails -/

/-- The send fails that is attempted when `n` messages were sent back: the failure is due there, and
    there is one more message. -/
def FailsAfter (c : Connection) (n : Nat) (f : SendFailure) : Prop :=
  c.sendFailure = some (n, f) ∧ n < c.messages.length

theorem failureAt?_eq_some_iff : c.failureAt? n = some f ↔ c.sendFailure = some (n, f) := by
  rw [failureAt?, Option.bind_eq_some_iff]
  constructor
  · rintro ⟨⟨k, f'⟩, hfailure, h⟩
    split at h
    · next hk =>
      cases h
      cases hk
      exact hfailure
    · nomatch h
  · intro h
    exact ⟨_, h, if_pos rfl⟩

/-- No send fails but the one for which the failure is due. -/
theorem failureAt?_of_ne (h : c.sendFailure = some (n, f)) (hne : count ≠ n) :
    c.failureAt? count = none := by
  rw [Option.eq_none_iff_forall_ne_some]
  intro f' hf'
  rw [failureAt?_eq_some_iff, h] at hf'
  cases hf'
  exact hne rfl

/-- No send fails, or one does in one of the two ways. -/
theorem fails_cases (c : Connection) : (∀ n f, ¬c.FailsAfter n f) ∨
    (∃ n why, c.FailsAfter n (.broken why)) ∨ ∃ n, c.FailsAfter n .closed := by
  by_cases h : ∃ n f, c.FailsAfter n f
  · obtain ⟨n, f, hfails⟩ := h
    cases f with
    | broken why => exact .inr (.inl ⟨n, why, hfails⟩)
    | closed => exact .inr (.inr ⟨n, hfails⟩)
  · exact .inl fun n f hfails => h ⟨n, f, hfails⟩

/-! ## The loop -/

/-- Messages whose sends do not fail are logged and sent back, and then the loop goes on. -/
theorem relayFrom_append {before : List Frame}
    (h : ∀ k < before.length, c.failureAt? (count + k) = none) (rest : List Frame) :
    c.relayFrom count (before ++ rest) =
      (c.relayFrom (count + before.length) rest).behind before := by
  induction before generalizing count with
  | nil => rfl
  | cons m before ih =>
    have hnow : c.failureAt? count = none := h 0 (Nat.succ_pos _)
    have hlater : ∀ k < before.length, c.failureAt? (count + 1 + k) = none := by
      intro k hk
      have hnone := h (k + 1) (Nat.succ_lt_succ hk)
      rwa [Nat.add_comm k 1, ← Nat.add_assoc] at hnone
    rw [List.cons_append, relayFrom, hnow]
    show (c.relayFrom (count + 1) (before ++ rest)).behind [m] = _
    rw [ih hlater, List.length_cons, Nat.add_right_comm, Nat.add_assoc]
    rfl

/-- If no send fails, the loop stops where reading ends. -/
theorem relayFrom_of_whole (h : ∀ n f, ¬c.FailsAfter n f) :
    c.relayFrom 0 c.messages = c.finish.behind c.messages := by
  have hnone : ∀ k < c.messages.length, c.failureAt? (0 + k) = none := by
    intro k hk
    rw [Nat.zero_add, Option.eq_none_iff_forall_ne_some]
    intro f hf
    exact h k f ⟨failureAt?_eq_some_iff.mp hf, hk⟩
  have happend := relayFrom_append hnone []
  rwa [List.append_nil] at happend

/-- If one fails, it stops at the message that was to be sent. -/
theorem relayFrom_of_failsAfter (h : c.FailsAfter n f) :
    ∃ m rest, c.messages.take (n + 1) = c.messages.take n ++ [m] ∧
      c.relayFrom 0 c.messages = (c.relayFrom n (m :: rest)).behind (c.messages.take n) := by
  obtain ⟨hdue, hlt⟩ := h
  have hlength : (c.messages.take n).length = n := List.length_take_of_le (Nat.le_of_lt hlt)
  have hnone : ∀ k < (c.messages.take n).length, c.failureAt? (0 + k) = none := by
    intro k hk
    rw [hlength] at hk
    exact failureAt?_of_ne hdue (by omega)
  have happend := relayFrom_append hnone (c.messages.drop n)
  rw [List.take_append_drop, hlength, Nat.zero_add, List.drop_eq_getElem_cons hlt] at happend
  exact ⟨c.messages[n], c.messages.drop (n + 1), List.take_succ_eq_append_getElem hlt, happend⟩

/-! ## The log -/

/-- The log of a connection on which these messages were read, and on whose end this is said. -/
def log (c : Connection) (read : List Frame) (farewell : List Notice) : List Notice :=
  .echoConnected c.host c.port :: read.map .echoReceived ++ farewell

/-- What is said on how reading ended. -/
def readEnding (c : Connection) : Notice :=
  match c.readFailure with
  | some why => .echoBroken c.host c.port why
  | none => .echoClosed c.host c.port

/-- Only what is said at the end tells that the connection is over. -/
theorem countP_log (c : Connection) (read : List Frame) (farewell : List Notice) :
    (c.log read farewell).countP Notice.isFarewell = farewell.countP Notice.isFarewell := by
  have hread : (read.map .echoReceived).countP Notice.isFarewell = 0 := by
    rw [List.countP_eq_zero]
    intro notice hnotice
    obtain ⟨m, -, rfl⟩ := List.mem_map.mp hnotice
    exact Bool.false_ne_true
  rw [log, List.cons_append, List.countP_cons_of_neg Bool.false_ne_true, List.countP_append, hread,
    Nat.zero_add]

theorem isFarewell_readEnding (c : Connection) : c.readEnding.isFarewell := by
  rw [readEnding]
  split <;> rfl

/-! ## The three ways to end -/

theorem relay_of_whole (h : ∀ n f, ¬c.FailsAfter n f) :
    c.relay = ⟨c.messages, c.log c.messages [c.readEnding], .returned⟩ := by
  rw [relay, relayFrom_of_whole h, finish, log, readEnding]
  cases c.readFailure <;> simp [Transcript.behind]

theorem relay_of_broken (h : c.FailsAfter n (.broken why)) :
    c.relay = ⟨c.messages.take n,
      c.log (c.messages.take (n + 1)) [.echoBroken c.host c.port why], .returned⟩ := by
  obtain ⟨m, rest, hread, hrelay⟩ := relayFrom_of_failsAfter h
  rw [relay, hrelay, relayFrom, failureAt?_eq_some_iff.mpr h.1, hread, log]
  simp [Transcript.behind]

theorem relay_of_closed (h : c.FailsAfter n .closed) :
    c.relay = ⟨c.messages.take n, c.log (c.messages.take (n + 1)) [], .escaped⟩ := by
  obtain ⟨m, rest, hread, hrelay⟩ := relayFrom_of_failsAfter h
  rw [relay, hrelay, relayFrom, failureAt?_eq_some_iff.mpr h.1, hread, log]
  simp [Transcript.behind]

end Connection

/-- What a connection should lead to. -/
structure Echoes (c : Connection) (t : Transcript) : Prop where
  /-- If no send fails, all messages are sent back, as they were and in their order.  They are all in
      the log, which ends with how reading ended. -/
  whole : (∀ n f, ¬c.FailsAfter n f) →
    t = ⟨c.messages, c.log c.messages [c.readEnding], .returned⟩
  /-- If a send fails since the connection broke, those before it are sent back, and the log ends
      with the failure, as if reading had failed... -/
  broken : ∀ n why, c.FailsAfter n (.broken why) →
    t = ⟨c.messages.take n, c.log (c.messages.take (n + 1)) [.echoBroken c.host c.port why],
      .returned⟩
  /-- ... and if it fails since the connection was closed in good order, nothing is said of that. -/
  closed : ∀ n, c.FailsAfter n .closed →
    t = ⟨c.messages.take n, c.log (c.messages.take (n + 1)) [], .escaped⟩
  /-- Nothing else escapes the loop. -/
  escapes : t.ending = .escaped ↔ ∃ n, c.FailsAfter n .closed
  /-- If it returns, the end of the connection is told once, and otherwise not at all. -/
  farewell : t.notices.countP Notice.isFarewell = if t.ending = .returned then 1 else 0

/-- **The echo loses, changes and reorders nothing**, whatever the messages are, however reading
    ends and wherever a send may fail. -/
theorem echoes_faithfully (c : Connection) : Echoes c c.relay := by
  refine ⟨Connection.relay_of_whole, fun _ _ => Connection.relay_of_broken,
    fun _ => Connection.relay_of_closed, ?_, ?_⟩
  · refine ⟨fun hescaped => ?_, fun ⟨n, h⟩ => by rw [Connection.relay_of_closed h]⟩
    rcases c.fails_cases with h | ⟨n, why, h⟩ | h
    · rw [Connection.relay_of_whole h] at hescaped
      nomatch hescaped
    · rw [Connection.relay_of_broken h] at hescaped
      nomatch hescaped
    · exact h
  · rcases c.fails_cases with h | ⟨n, why, h⟩ | ⟨n, h⟩
    · rw [Connection.relay_of_whole h, Connection.countP_log,
        List.countP_singleton, c.isFarewell_readEnding]
      rfl
    · rw [Connection.relay_of_broken h, Connection.countP_log]
      rfl
    · rw [Connection.relay_of_closed h, Connection.countP_log]
      rfl

/-- A failure that is due after the last message never comes. -/
example :
    let c : Connection :=
      { host := "10.0.0.1", port := 4001, messages := [.text "a", .binary ⟨#[0, 255]⟩]
        readFailure := some "reset", sendFailure := some (2, .closed) }
    c.relay.sent = c.messages ∧ c.relay.ending = .returned := ⟨rfl, rfl⟩

end Echo

end Rendezvous
