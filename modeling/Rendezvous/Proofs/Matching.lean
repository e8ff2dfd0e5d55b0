import Rendezvous.Proofs.Origin

/-!
# Who is matched

A registration is matched at once if the peer it names waits.  So of two identities that ask for
each other, one comes second, and when it comes the first either waits and they are matched, or it
does not wait and will not until it registers again.  The tables do not tell for whom an identity
waits; the list of operations does.
-/

namespace Rendezvous.Store

/-- **No match is missed**: after no run do two identities wait that have asked for each other in
    their latest accepted registrations.  The statement is inductive as it stands: if one of the two
    has just registered, the peer it named does not wait (`Transition.waiting_origin`). -/
theorem not_both_waiting (timeout : Float) (cs : List Command) (u v : Text) :
    ¬(((empty timeout).run cs).isWaiting u ∧ ((empty timeout).run cs).isWaiting v ∧
      lastAsked? cs u = some v ∧ lastAsked? cs v = some u) := by
  induction cs using List.reverseRecOn with
  | nil =>
    rintro ⟨-, -, hu, -⟩
    nomatch hu
  | append_singleton cs c ih =>
    rintro ⟨hwu, hwv, hu, hv⟩
    rw [run_append_singleton] at hwu hwv
    have t := apply_transition ((empty timeout).run cs) c
    obtain ⟨seenU, hwu⟩ := Option.isSome_iff_exists.mp hwu
    obtain ⟨seenV, hwv⟩ := Option.isSome_iff_exists.mp hwv
    rcases t.waiting_origin hwu with ⟨a, ha, rfl, -, habsent⟩ | ⟨hnu, holdU⟩
    · -- `u` has just asked for `v`, which therefore does not wait
      rw [lastAsked?_of_admits cs ha] at hu
      obtain rfl := Option.some.inj hu
      rw [habsent] at hwv
      nomatch hwv
    rcases t.waiting_origin hwv with ⟨a, ha, rfl, -, habsent⟩ | ⟨hnv, holdV⟩
    · -- the same with the parts exchanged
      rw [lastAsked?_of_admits cs ha] at hv
      obtain rfl := Option.some.inj hv
      rw [habsent] at hwu
      nomatch hwu
    · -- neither has registered now, and both waited before
      rw [lastAsked?_of_not_admits cs hnu] at hu
      rw [lastAsked?_of_not_admits cs hnv] at hv
      exact ih ⟨Option.isSome_iff_exists.mpr ⟨_, holdU⟩,
        Option.isSome_iff_exists.mpr ⟨_, holdV⟩, hu, hv⟩

end Rendezvous.Store
