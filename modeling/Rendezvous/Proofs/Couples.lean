import Rendezvous.Proofs.Independence
import Rendezvous.Proofs.Messages
import Mathlib.Data.List.Permutation

/-!
# Couples that arrive in any order

Any number of couples ask for each other at the same time.  In whatever order their registrations
are served, each couple is matched once, by the second of its two registrations.

The order does not matter because couples do not interfere.  Cut down to one couple, a run has two
registrations, of which the first waits and the second is matched (`reports_couple`); that is so
for each couple among all (`reports_of_mem`).  The whole history is, up to its order, what the
couples have done one by one (`perm_flatMap_filter`), and so the numbers add up.

* `couples_meet`: every couple is matched, in every order of arrival.
-/

namespace Rendezvous

/-! ## Lists that fall apart -/

section Lists

variable {α β : Type}

/-- A list is, up to its order, what its elements are by class, if each belongs to one class. -/
theorem perm_flatMap_filter {classes : List β} {isIn : β → α → Bool} :
    ∀ {l : List α}, (∀ a ∈ l, ∃ k ∈ classes, isIn k a) →
      classes.Pairwise (fun j k => ∀ a, ¬(isIn j a ∧ isIn k a)) →
      l.Perm (classes.flatMap fun k => l.filter (isIn k)) := by
  induction classes with
  | nil =>
    intro l hcover _
    have hl : l = [] := List.eq_nil_iff_forall_not_mem.mpr fun a ha => by simpa using hcover a ha
    rw [hl]
    exact List.Perm.nil
  | cons k classes ih =>
    intro l hcover hdisjoint
    obtain ⟨hk, hdisjoint⟩ := List.pairwise_cons.mp hdisjoint
    -- the elements outside the first class belong to the others, which lose nothing with it
    have hrest : ∀ a ∈ l.filter (fun a => !isIn k a), ∃ j ∈ classes, isIn j a := by
      intro a ha
      obtain ⟨ha, hka⟩ := List.mem_filter.mp ha
      obtain ⟨j, hj, hja⟩ := hcover a ha
      rcases List.mem_cons.mp hj with rfl | hj
      · simp [hja] at hka
      · exact ⟨j, hj, hja⟩
    have hsame : (classes.flatMap fun j => (l.filter fun a => !isIn k a).filter (isIn j)) =
        classes.flatMap fun j => l.filter (isIn j) := by
      refine List.flatMap_congr fun j hj => ?_
      rw [List.filter_filter]
      refine List.filter_congr fun a _ => ?_
      have hnot : isIn j a → ¬isIn k a := fun hja hka => hk j hj a ⟨hka, hja⟩
      cases hja : isIn j a with
      | false => rfl
      | true => simpa [hja] using hnot
    rw [List.flatMap_cons, ← hsame]
    exact (List.filter_append_perm _ _).symm.trans ((ih hrest hdisjoint).append_left _)

/-- If only one element of a list contributes, it contributes all. -/
theorem flatMap_eq_of_unique {l : List α} {f : α → List β} {a : α} (hl : l.Nodup) (ha : a ∈ l)
    (honly : ∀ b ∈ l, b ≠ a → f b = []) : l.flatMap f = f a := by
  obtain ⟨before, after, rfl⟩ := List.append_of_mem ha
  obtain ⟨hnot, -⟩ := List.nodup_cons.mp (List.nodup_middle.mp hl)
  have hbefore : before.flatMap f = [] := List.flatMap_eq_nil_iff.mpr fun b hb =>
    honly b (List.mem_append_left _ hb) fun hba => hnot (hba ▸ List.mem_append_left _ hb)
  have hafter : after.flatMap f = [] := List.flatMap_eq_nil_iff.mpr fun b hb =>
    honly b (List.mem_append_right _ (List.mem_cons_of_mem _ hb)) fun hba =>
      hnot (hba ▸ List.mem_append_right _ hb)
  rw [List.flatMap_append, List.flatMap_cons, hbefore, hafter, List.nil_append, List.append_nil]

end Lists

namespace Store

/-! ## Couples -/

/-- Two endpoints that ask for each other. -/
structure Couple where
  /-- One of them. -/
  left : Endpoint
  /-- The other. -/
  right : Endpoint

/-- The identities of the two. -/
def Couple.uids (p : Couple) : List Text := [p.left.uid, p.right.uid]

/-- The two as a group. -/
def Couple.members (p : Couple) : Set Text := {u | u ∈ p.uids}

instance (p : Couple) : DecidablePred (· ∈ p.members) := fun u =>
  inferInstanceAs (Decidable (u ∈ p.uids))

/-- Who of the two registers, and for whom. -/
def Couple.calls (p : Couple) : List (Endpoint × Text) :=
  [(p.left, p.right.uid), (p.right, p.left.uid)]

/-- Who registers, and for whom, if an operation is a registration. -/
def Command.call? : Command → Option (Endpoint × Text)
  | .register who peer _ => some (who, peer)
  | _ => none

/-- Whether a call is made by one of a couple. -/
def Couple.makes (p : Couple) (call? : Option (Endpoint × Text)) : Bool :=
  call?.any fun k => k.1.uid ∈ p.uids

/-! ### One couple alone -/

section Alone

variable {timeout : Float} {x y : Endpoint} (sx sy : Supply)

theorem apply_first (hx : x.uid ≠ []) (hy : y.uid ≠ []) (hne : x.uid ≠ y.uid) :
    (empty timeout).apply (.register x y.uid sx) =
      ⟨(empty timeout).sight ⟨x, sx.now⟩, .registered .waiting,
        [.log (.stored x), .log (.waits x.uid y.uid)], 1, 0⟩ := by
  refine (Transition.waits ⟨hx, hy⟩ ?_).apply_eq
  rw [sight_waiting, if_neg hne]
  rfl

theorem apply_second (hx : x.uid ≠ []) (hy : y.uid ≠ []) (hne : x.uid ≠ y.uid) :
    ((empty timeout).sight ⟨x, sx.now⟩).apply (.register y x.uid sy) =
      ⟨(((empty timeout).sight ⟨x, sx.now⟩).sight ⟨y, sy.now⟩).join y.uid x.uid ⟨x, sx.now⟩
          sy.matchId,
        .registered (.matched sy.matchId x),
        [ .log (.stored y),
          .send (.introduction x sy.matchId) y,
          .send (.introduction y sy.matchId) x,
          .log (.matched sy.matchId y.uid x.uid (sy.sendEnd - sy.sendStart)) ],
        3, 1⟩ := by
  refine (Transition.matched ⟨hy, hx⟩ ?_).apply_eq
  rw [sight_waiting, if_neg hne.symm, sight_waiting, if_pos rfl]

theorem reports_couple {S : Set Text} [DecidablePred (· ∈ S)] (hx : x.uid ≠ []) (hy : y.uid ≠ [])
    (hne : x.uid ≠ y.uid) (hxS : x.uid ∈ S) (hyS : y.uid ∈ S) :
    reports S ((empty timeout).history [.register x y.uid sx, .register y x.uid sy]) =
      [ (.register x y.uid sx, .registered .waiting, []),
        (.register y x.uid sy, .registered (.matched sy.matchId x),
          [(.introduction x sy.matchId, y), (.introduction y sy.matchId, x)]) ] := by
  have hfirst : (Command.register x y.uid sx).Among S :=
    ⟨List.cons_ne_nil _ _, by simp [Command.Within, Command.names, hxS, hyS]⟩
  have hsecond : (Command.register y x.uid sy).Among S :=
    ⟨List.cons_ne_nil _ _, by simp [Command.Within, Command.names, hxS, hyS]⟩
  rw [history, history, history_nil, deed, deed, apply_first sx hx hy hne,
    apply_second sx sy hx hy hne, reports_cons_of_among hfirst, reports_cons_of_among hsecond]
  rfl

/-- A couple that is alone ends active and bound, and does not wait. -/
theorem run_couple (hx : x.uid ≠ []) (hy : y.uid ≠ []) (hne : x.uid ≠ y.uid) {u : Text}
    (hu : y.uid = u ∨ x.uid = u) {s : Store}
    (hs : (empty timeout).run [.register x y.uid sx, .register y x.uid sy] = s) :
    s.waiting.get? u = none ∧ s.active.get? u ≠ none ∧ s.matchIdOf? u = some sy.matchId := by
  rw [run_cons, apply_first sx hx hy hne, run_cons, apply_second sx sy hx hy hne, run_nil] at hs
  subst hs
  refine ⟨?_, ?_, ?_⟩
  · rw [join_waiting, if_pos hu]
  · rw [join_active, sight_active]
    by_cases hxu : x.uid = u
    · rw [if_pos hxu]
      exact Option.some_ne_none _
    · rw [if_neg hxu, if_pos (hu.resolve_right hxu)]
      exact Option.some_ne_none _
  · rw [matchIdOf?, join_bindings, if_pos hu]

end Alone

/-! ### Couples among others -/

section Among

variable {couples : List Couple} {cs : List Command} {p q : Couple} {u : Text}
  (distinct : (couples.flatMap Couple.uids).Nodup)
  (order : (cs.map Command.call?).Perm ((couples.flatMap Couple.calls).map some))

include distinct in
theorem eq_of_mem_uids (hp : p ∈ couples) (hq : q ∈ couples) (hup : u ∈ p.uids)
    (huq : u ∈ q.uids) : p = q := by
  have disjoint := (List.nodup_flatMap.mp distinct).2
  by_contra hne
  have : Std.Symm (Function.onFun List.Disjoint Couple.uids) := ⟨fun _ _ h _ ha hb => h hb ha⟩
  exact disjoint.forall hp hq hne hup huq

include distinct in
theorem left_ne_right (hp : p ∈ couples) : p.left.uid ≠ p.right.uid := by
  simpa [Couple.uids] using (List.nodup_flatMap.mp distinct).1 p hp

include distinct in
theorem nodup_couples : couples.Nodup := by
  refine (List.nodup_flatMap.mp distinct).2.imp fun {p q} hdisjoint hpq => ?_
  subst hpq
  exact hdisjoint List.mem_cons_self List.mem_cons_self

include order in
/-- Every operation is the registration of one of a couple for the other. -/
theorem exists_couple {c : Command} (hc : c ∈ cs) :
    ∃ p ∈ couples, ∃ supply,
      c = .register p.left p.right.uid supply ∨ c = .register p.right p.left.uid supply := by
  have hcall := order.subset (List.mem_map_of_mem hc)
  obtain ⟨call, hmem, hcall⟩ := List.mem_map.mp hcall
  obtain ⟨p, hp, hmem⟩ := List.mem_flatMap.mp hmem
  cases c with
  | register who peer supply =>
    obtain rfl := Option.some.inj hcall
    refine ⟨p, hp, supply, ?_⟩
    simpa [Couple.calls] using hmem
  | kill | sweep | setTimeout => nomatch hcall

include distinct order in
/-- A couple stays among itself. -/
theorem couple_apart (hp : p ∈ couples) :
    ∀ c ∈ cs, c.Within p.members ∨ c.Outside p.members := by
  intro c hc
  obtain ⟨q, hq, supply, hcall⟩ := exists_couple order hc
  have hnames : ∀ u ∈ c.names, u ∈ q.uids := by
    rcases hcall with rfl | rfl <;> simp [Command.names, Couple.uids]
  by_cases hpq : p = q
  · subst hpq
    exact Or.inl hnames
  · exact Or.inr fun u hu hup => hpq (eq_of_mem_uids distinct hp hq hup (hnames u hu))

include distinct in
theorem filter_calls (hp : p ∈ couples) :
    (couples.flatMap Couple.calls).filter (fun k => k.1.uid ∈ p.uids) = p.calls := by
  rw [List.filter_flatMap, flatMap_eq_of_unique (nodup_couples distinct) hp]
  · simp [Couple.calls, Couple.uids]
  · intro q hq hne
    refine List.filter_eq_nil_iff.mpr fun k hk hkp => ?_
    have hkq : k.1.uid ∈ q.uids := by
      simp only [Couple.calls, List.mem_cons, List.not_mem_nil, or_false] at hk
      rcases hk with rfl | rfl <;> simp [Couple.uids]
    exact hne (eq_of_mem_uids distinct hq hp hkq (by simpa using hkp))

theorem eq_registrations {x y : Endpoint} (hcalls : cs.map Command.call? =
    [some (x, y.uid), some (y, x.uid)]) :
    ∃ sx sy, cs = [.register x y.uid sx, .register y x.uid sy] := by
  match cs, hcalls with
  | [.register _ _ sx, .register _ _ sy], hcalls =>
    simp only [List.map_cons, List.map_nil, Command.call?, List.cons.injEq, Option.some.injEq,
      Prod.mk.injEq, and_true] at hcalls
    obtain ⟨⟨rfl, rfl⟩, rfl, rfl⟩ := hcalls
    exact ⟨sx, sy, rfl⟩

include distinct order in
/-- The calls of a couple are those that one of it makes. -/
theorem map_call?_within (hp : p ∈ couples) :
    (within p.members cs).map Command.call? = (cs.map Command.call?).filter p.makes := by
  rw [List.filter_map, within]
  refine congrArg _ (List.filter_congr fun c hc => ?_)
  obtain ⟨q, hq, supply, hc⟩ := exists_couple order hc
  -- whoever calls from a couple calls for the same couple
  have hpartner : ∀ u v, u ∈ q.uids → v ∈ q.uids → u ∈ p.uids → v ∈ p.uids := by
    intro u v hu hv hup
    exact eq_of_mem_uids distinct hq hp hu hup ▸ hv
  have hleft : q.left.uid ∈ q.uids := List.mem_cons_self
  have hright : q.right.uid ∈ q.uids := List.mem_cons_of_mem _ List.mem_cons_self
  rcases hc with rfl | rfl
  · simpa [within_register, Couple.members, Couple.makes, Command.call?] using
      hpartner _ _ hleft hright
  · simpa [within_register, Couple.members, Couple.makes, Command.call?] using
      hpartner _ _ hright hleft

include distinct order in
/-- The operations of a couple are its two registrations, in one order or the other. -/
theorem within_members (hp : p ∈ couples) :
    ∃ x y sx sy, (p = ⟨x, y⟩ ∨ p = ⟨y, x⟩) ∧
      within p.members cs = [.register x y.uid sx, .register y x.uid sy] := by
  have hcalls : ((couples.flatMap Couple.calls).map some).filter p.makes =
      [some (p.left, p.right.uid), some (p.right, p.left.uid)] := by
    rw [List.filter_map]
    exact congrArg (List.map some) (filter_calls distinct hp)
  have hperm := order.filter p.makes
  rw [← map_call?_within distinct order hp, hcalls, List.perm_pair] at hperm
  rcases hperm with h | h
  · obtain ⟨sx, sy, hsplit⟩ := eq_registrations h
    exact ⟨p.left, p.right, sx, sy, Or.inl rfl, hsplit⟩
  · obtain ⟨sx, sy, hsplit⟩ := eq_registrations h
    exact ⟨p.right, p.left, sx, sy, Or.inr rfl, hsplit⟩

/-- What the history and the store tell of a couple that was matched under the id `m`. -/
structure Couple.Met (p : Couple) (m : Text) (h : List Deed) (s : Store) : Prop where
  /-- One has waited for the other, and both were introduced. -/
  told : ∃ x y c c', (p = ⟨x, y⟩ ∨ p = ⟨y, x⟩) ∧
    reports p.members h = [ (c, .registered .waiting, []),
      (c', .registered (.matched m x), [(.introduction x m, y), (.introduction y m, x)]) ]
  /-- Neither waits. -/
  waiting : ∀ u ∈ p.uids, s.waiting.get? u = none
  /-- Both are active. -/
  active : ∀ u ∈ p.uids, s.active.get? u ≠ none
  /-- Both are bound to the id. -/
  bound : ∀ u ∈ p.uids, s.matchIdOf? u = some m

include distinct order in
/-- **Every couple meets**, as if there were no others. -/
theorem met_of_mem (timeout : Float) (named : ∀ u ∈ couples.flatMap Couple.uids, u ≠ [])
    (hp : p ∈ couples) :
    ∃ m, p.Met m ((empty timeout).history cs) ((empty timeout).run cs) := by
  have apart := couple_apart distinct order hp
  obtain ⟨x, y, sx, sy, hxy, hwithin⟩ := within_members distinct order hp
  have hmembers : ∀ u, u ∈ p.uids ↔ y.uid = u ∨ x.uid = u := by
    intro u
    rcases hxy with rfl | rfl <;> simp [Couple.uids, eq_comm, or_comm]
  have hne : x.uid ≠ y.uid := by
    rcases hxy with rfl | rfl
    · exact left_ne_right distinct hp
    · exact (left_ne_right distinct hp).symm
  have hx : x.uid ≠ [] := named _ (List.mem_flatMap.mpr ⟨p, hp, (hmembers _).mpr (Or.inr rfl)⟩)
  have hy : y.uid ≠ [] := named _ (List.mem_flatMap.mpr ⟨p, hp, (hmembers _).mpr (Or.inl rfl)⟩)
  have hxS : x.uid ∈ p.members := (hmembers _).mpr (Or.inr rfl)
  have hyS : y.uid ∈ p.members := (hmembers _).mpr (Or.inl rfl)
  have hreports := reports_restrict (empty timeout) apart
  have hrun := run_restrict (empty timeout) apart
  rw [hwithin] at hreports hrun
  have hend : ∀ u ∈ p.uids, ((empty timeout).run cs).waiting.get? u = none ∧
      ((empty timeout).run cs).active.get? u ≠ none ∧
      ((empty timeout).run cs).matchIdOf? u = some sy.matchId := by
    intro u hu
    obtain ⟨hwaiting, hactive, hbound⟩ := run_couple sx sy hx hy hne ((hmembers u).mp hu) hrun
    have hu : u ∈ p.members := hu
    exact ⟨(Table.get?_restrict_of_mem hu _).symm.trans hwaiting,
      fun h => hactive ((Table.get?_restrict_of_mem hu _).trans h),
      (Table.get?_restrict_of_mem hu _).symm.trans hbound⟩
  refine ⟨sy.matchId, ?_, fun u hu => (hend u hu).1, fun u hu => (hend u hu).2.1,
    fun u hu => (hend u hu).2.2⟩
  exact ⟨x, y, _, _, hxy, hreports.symm.trans (reports_couple sx sy hx hy hne hxS hyS)⟩

end Among

/-! ## All couples together -/

section Together

variable {couples : List Couple} {cs : List Command} {h : List Deed} {s : Store} {p : Couple}
  {m u : Text} (distinct : (couples.flatMap Couple.uids).Nodup)
  (order : (cs.map Command.call?).Perm ((couples.flatMap Couple.calls).map some))
  (hperm : (h.map Deed.report).Perm (couples.flatMap fun p => reports p.members h))

include distinct order in
/-- The reports of a run are those of its couples, up to their order. -/
theorem perm_reports (timeout : Float) :
    (((empty timeout).history cs).map Deed.report).Perm
      (couples.flatMap fun p => reports p.members ((empty timeout).history cs)) := by
  have hcover : ∀ d ∈ (empty timeout).history cs,
      ∃ p ∈ couples, decide (d.command.Among p.members) := by
    intro d hd
    obtain ⟨before, after, hsplit⟩ := List.append_of_mem hd
    obtain ⟨cs₁, c, cs₂, rfl, -, rfl⟩ := history_eq_append_cons hsplit
    obtain ⟨p, hp, supply, hc⟩ := exists_couple order (List.mem_append_right _ List.mem_cons_self)
    refine ⟨p, hp, decide_eq_true ?_⟩
    rcases hc with rfl | rfl <;>
      simp [deed, Command.Among, Command.Within, Command.names, Couple.members, Couple.uids]
  have hdisjoint : couples.Pairwise fun p q => ∀ d : Deed,
      ¬(decide (d.command.Among p.members) ∧ decide (d.command.Among q.members)) := by
    refine (List.nodup_flatMap.mp distinct).2.imp fun {p q} hpq d hd => ?_
    obtain ⟨hdp, hdq⟩ : d.command.Among p.members ∧ d.command.Among q.members := by simpa using hd
    obtain ⟨u, hu⟩ := List.exists_mem_of_ne_nil _ hdp.1
    exact hpq (hdp.2 u hu) (hdq.2 u hu)
  have hperm := (perm_flatMap_filter hcover hdisjoint).map Deed.report
  rwa [List.map_flatMap] at hperm

include hperm in
/-- If each couple has one operation that ended in a certain way, there are as many as couples. -/
theorem countP_outcome {Q : Outcome → Bool}
    (hQ : ∀ p ∈ couples, (reports p.members h).countP (fun r => Q r.2.1) = 1) :
    h.countP (fun d => Q d.outcome) = couples.length := by
  calc h.countP (fun d => Q d.outcome)
      = (h.map Deed.report).countP (fun r => Q r.2.1) := by rw [List.countP_map]; rfl
    _ = (couples.flatMap fun p => reports p.members h).countP (fun r => Q r.2.1) :=
        hperm.countP_eq _
    _ = (couples.map fun p => (reports p.members h).countP (fun r => Q r.2.1)).sum :=
        List.countP_flatMap
    _ = (couples.map fun _ => 1).sum := by rw [List.map_congr_left hQ]
    _ = couples.length := by simp

include hperm in
theorem perm_messages :
    (messages h).Perm (couples.flatMap fun p => (reports p.members h).flatMap (·.2.2)) := by
  have hflat := hperm.flatMap_right (·.2.2)
  rwa [List.flatMap_map, List.flatMap_assoc] at hflat

include hperm in
theorem perm_matchIds :
    (matchIds h).Perm
      (couples.flatMap fun p => (reports p.members h).filterMap (·.2.1.matchId?)) := by
  have hids := hperm.filterMap (·.2.1.matchId?)
  rwa [List.filterMap_map, List.filterMap_flatMap] at hids

theorem Couple.Met.countP_waiting (hp : p.Met m h s) :
    (reports p.members h).countP (fun r => decide (r.2.1 = .registered .waiting)) = 1 := by
  obtain ⟨x, y, c, c', -, hreports⟩ := hp.told
  rw [hreports]
  rfl

theorem Couple.Met.countP_matched (hp : p.Met m h s) :
    (reports p.members h).countP (fun r => r.2.1.matchId?.isSome) = 1 := by
  obtain ⟨x, y, c, c', -, hreports⟩ := hp.told
  rw [hreports]
  rfl

theorem Couple.Met.filterMap_matchId? (hp : p.Met m h s) :
    (reports p.members h).filterMap (·.2.1.matchId?) = [m] := by
  obtain ⟨x, y, c, c', -, hreports⟩ := hp.told
  rw [hreports]
  rfl

theorem Couple.Met.perm_sent (hp : p.Met m h s) :
    ((reports p.members h).flatMap (·.2.2)).Perm
      [(.introduction p.right m, p.left), (.introduction p.left m, p.right)] := by
  obtain ⟨x, y, c, c', hxy, hreports⟩ := hp.told
  rw [hreports]
  rcases hxy with rfl | rfl
  · exact List.Perm.swap ..
  · exact List.Perm.refl _

include distinct hperm in
/-- Whatever is sent to one of a couple was sent by an operation of that couple. -/
theorem filter_messages_to {idOf : Couple → Text} (hmet : ∀ p ∈ couples, p.Met (idOf p) h s)
    (hp : p ∈ couples) (hu : u ∈ p.uids) :
    ((messages h).filter fun msg => msg.2.uid = u).Perm
      ([(.introduction p.right (idOf p), p.left), (.introduction p.left (idOf p), p.right)].filter
        fun msg => msg.2.uid = u) := by
  have hall := (perm_messages hperm).filter fun msg => msg.2.uid = u
  rw [List.filter_flatMap, flatMap_eq_of_unique (nodup_couples distinct) hp] at hall
  · exact hall.trans ((hmet p hp).perm_sent.filter _)
  · intro q hq hne
    refine List.filter_eq_nil_iff.mpr fun msg hmsg hto => hne ?_
    have hto : msg.2.uid = u := by simpa using hto
    have huq : u ∈ q.uids := by
      have hmsg := (hmet q hq).perm_sent.subset hmsg
      simp only [List.mem_cons, List.not_mem_nil, or_false] at hmsg
      rcases hmsg with rfl | rfl <;> simp [Couple.uids, ← hto]
    exact eq_of_mem_uids distinct hq hp huq hu

include order in
theorem waiting_of_notMem (timeout : Float) (hu : u ∉ couples.flatMap Couple.uids) :
    ((empty timeout).run cs).waiting.get? u = none := by
  have hnot : ∀ c ∈ cs, c.names ≠ [] ∧ u ∉ c.names := by
    intro c hc
    obtain ⟨p, hp, supply, hc⟩ := exists_couple order hc
    have hup : u ∉ p.uids := fun h => hu (List.mem_flatMap.mpr ⟨p, hp, h⟩)
    rcases hc with rfl | rfl
    · exact ⟨List.cons_ne_nil _ _, hup⟩
    · exact ⟨List.cons_ne_nil _ _, by simpa [Command.names, Couple.uids, and_comm] using hup⟩
  -- no operation is left when the run is cut down to `u`
  have hwithin : within {v | v = u} cs = [] := by
    refine List.filter_eq_nil_iff.mpr fun c hc hin => ?_
    obtain ⟨v, hv⟩ := List.exists_mem_of_ne_nil _ (hnot c hc).1
    have hvu : v = u := of_decide_eq_true hin v hv
    exact (hnot c hc).2 (hvu ▸ hv)
  have hrun := run_restrict (S := {v | v = u}) (empty timeout) fun c hc =>
    Or.inr fun v hv hvu => (hnot c hc).2 (hvu ▸ hv)
  rw [hwithin, run_nil] at hrun
  have hget := congrArg (fun s => s.waiting.get? u) hrun
  exact (Table.get?_restrict_of_mem (S := {v | v = u}) rfl _).symm.trans hget.symm

end Together

/-! ## Every order of arrival -/

/-- All couples were matched, each by itself. -/
structure AllMet (couples : List Couple) (h : List Deed) (s : Store) : Prop where
  /-- One of each couple waits. -/
  waiting : h.countP (fun d => d.outcome = .registered .waiting) = couples.length
  /-- One of each couple is matched. -/
  matched : h.countP (fun d => d.outcome.matchId?.isSome) = couples.length
  /-- Everybody is sent one message. -/
  sent : (messages h).length = 2 * couples.length
  /-- Each message has the endpoint of the partner and the id of the couple, to which both are
      bound. -/
  met : ∃ idOf : Couple → Text, (couples.map idOf).Nodup ∧ ∀ p ∈ couples,
    (messages h).filter (fun msg => msg.2.uid = p.left.uid) =
      [(.introduction p.right (idOf p), p.left)] ∧
    (messages h).filter (fun msg => msg.2.uid = p.right.uid) =
      [(.introduction p.left (idOf p), p.right)] ∧
    ∀ u ∈ p.uids, s.matchIdOf? u = some (idOf p) ∧ s.isActive u
  /-- Nobody waits in the end. -/
  nobody : ∀ u, ¬s.isWaiting u

theorem allMet_of_met {couples : List Couple} {h : List Deed} {s : Store} {idOf : Couple → Text}
    (distinct : (couples.flatMap Couple.uids).Nodup)
    (hperm : (h.map Deed.report).Perm (couples.flatMap fun p => reports p.members h))
    (hmet : ∀ p ∈ couples, p.Met (idOf p) h s) (hnodup : (matchIds h).Nodup)
    (hothers : ∀ u, u ∉ couples.flatMap Couple.uids → s.waiting.get? u = none) :
    AllMet couples h s where
  waiting := countP_outcome (Q := fun o => decide (o = .registered .waiting)) hperm
    fun p hp => (hmet p hp).countP_waiting
  matched := countP_outcome (Q := fun o => o.matchId?.isSome) hperm
    fun p hp => (hmet p hp).countP_matched
  sent := by
    have htwo : ∀ p ∈ couples, ((reports p.members h).flatMap (·.2.2)).length = 2 :=
      fun p hp => (hmet p hp).perm_sent.length_eq
    rw [(perm_messages hperm).length_eq, List.length_flatMap, List.map_congr_left htwo]
    simp [Nat.mul_comm]
  met := by
    refine ⟨idOf, ?_, fun p hp => ⟨?_, ?_, fun u hu => ⟨(hmet p hp).bound u hu, ?_⟩⟩⟩
    · have hids := perm_matchIds hperm
      rw [List.flatMap_congr fun p hp => (hmet p hp).filterMap_matchId?, ← List.map_eq_flatMap]
        at hids
      exact hids.nodup_iff.mp hnodup
    · have hto := filter_messages_to distinct hperm hmet hp List.mem_cons_self
      simpa [(left_ne_right distinct hp).symm] using hto
    · have hto := filter_messages_to distinct hperm hmet hp
        (List.mem_cons_of_mem _ List.mem_cons_self)
      simpa [left_ne_right distinct hp] using hto
    · exact Option.isSome_iff_ne_none.mpr ((hmet p hp).active u hu)
  nobody := by
    intro u hwaits
    have hnone : s.waiting.get? u = none := by
      by_cases hu : u ∈ couples.flatMap Couple.uids
      · obtain ⟨p, hp, hup⟩ := List.mem_flatMap.mp hu
        exact (hmet p hp).waiting u hup
      · exact hothers u hu
    rw [isWaiting, Table.contains, hnone] at hwaits
    nomatch hwaits

theorem map_call?_offered (ids : Nat → Text) (s : Store) (drawn : Nat) (cs : List Command) :
    (offered ids s drawn cs).map Command.call? = cs.map Command.call? := by
  induction cs generalizing s drawn with
  | nil => rfl
  | cons c rest ih =>
    rw [offered, List.map_cons, List.map_cons, ih]
    cases c <;> rfl

/-- **Couples meet in every order of arrival.**  Let any number of couples have distinct, non-empty
    identities, and let each of them ask for its partner once.  Then in every order of these
    registrations, at any readings of the clock and with any source of ids that never repeats one,
    each couple is matched by the second of its two registrations. -/
theorem couples_meet (timeout : Float) {ids : Nat → Text} (hids : Function.Injective ids)
    {couples : List Couple} (named : ∀ u ∈ couples.flatMap Couple.uids, u ≠ [])
    (distinct : (couples.flatMap Couple.uids).Nodup) {cs : List Command}
    (order : (cs.map Command.call?).Perm ((couples.flatMap Couple.calls).map some)) :
    AllMet couples (historyFrom ids timeout cs) (runFrom ids timeout cs) := by
  rw [← map_call?_offered ids (empty timeout) 0] at order
  let idOf (p : Couple) : Text := ((runFrom ids timeout cs).matchIdOf? p.left.uid).getD []
  have hmet : ∀ p ∈ couples, p.Met (idOf p) (historyFrom ids timeout cs)
      (runFrom ids timeout cs) := by
    intro p hp
    obtain ⟨m, hm⟩ := met_of_mem distinct order timeout named hp
    have hid : idOf p = m := congrArg (·.getD []) (hm.bound p.left.uid List.mem_cons_self)
    rw [hid]
    exact hm
  exact allMet_of_met distinct (perm_reports distinct order timeout) hmet
    (nodup_matchIds hids timeout cs) fun u hu => waiting_of_notMem order timeout hu

def twoCouples : List Couple :=
  [ ⟨⟨"a", "10.0.0.1", 1001⟩, ⟨"b", "10.0.0.2", 1002⟩⟩,
    ⟨⟨"c", "10.0.0.3", 1003⟩, ⟨"d", "10.0.0.4", 1004⟩⟩ ]

/-- They arrive with the second couple between the two of the first. -/
def nested : List Command :=
  [ .register ⟨"b", "10.0.0.2", 1002⟩ "a" (.of 1000 1000 1000 []),
    .register ⟨"c", "10.0.0.3", 1003⟩ "d" (.of 1001 1001 1001 []),
    .register ⟨"d", "10.0.0.4", 1004⟩ "c" (.of 1002 1002 1002 []),
    .register ⟨"a", "10.0.0.1", 1001⟩ "b" (.of 1003 1003 1003 []) ]

/-- Two couples of whom one comes between the two of the other are both matched. -/
theorem nested_couples_meet :
    Function.Injective tally ∧ (∀ u ∈ twoCouples.flatMap Couple.uids, u ≠ []) ∧
      (twoCouples.flatMap Couple.uids).Nodup ∧
      (nested.map Command.call?).Perm ((twoCouples.flatMap Couple.calls).map some) ∧
      AllMet twoCouples (historyFrom tally 30 nested) (runFrom tally 30 nested) := by
  have named : ∀ u ∈ twoCouples.flatMap Couple.uids, u ≠ [] := by decide
  have distinct : (twoCouples.flatMap Couple.uids).Nodup := by decide
  have order : (nested.map Command.call?).Perm ((twoCouples.flatMap Couple.calls).map some) := by
    decide
  exact ⟨tally_injective, named, distinct, order,
    couples_meet 30 tally_injective named distinct order⟩

end Store

end Rendezvous
