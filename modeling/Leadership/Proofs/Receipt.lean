import Leadership.Proofs.Aftermath

set_option autoImplicit false

namespace Leadership

def Call.Awaited : Call → Prop
  | .confirm .. | .grant _ | .revoke _ => True
  | _ => False

def Call.Idle (d : Desk) : Call → Prop
  | .confirm c token _ _ =>
    d.active c.id = false ∨ d.slot.proposed ≠ some c.id ∨ d.slot.token ≠ some token
  | .grant _ => ∃ m ∈ d.contenders.members, d.slot.holder? = some m.id
  | .revoke _ => d.slot.holder? = none
  | _ => False

namespace Desk
variable {enrolled : List Handle} {call : Call} {d e f : Desk} {works early : List Work}

-- What there is to submit for a call that is awaited, and how many units that makes.
inductive Errand (d : Desk) : Call → List Work → Nat → Prop
  | nothing (call : Call) (idle : call.Idle d) : Errand d call [] 0
  | commit (c : Contender) (token : Fence) (address : String) (now : Instant) (active : d.active c.id = true)
      (proposed : d.slot.proposed = some c.id) (current : d.slot.token = some token) :
      Errand d (.confirm c token address now)
        (d.listeners.members.map fun m => .notify m (some ⟨address, token⟩)) d.listeners.size
  | proposal (s : Nat) (m : Member String) (vacant : d.slot.holder? = none)
      (oldest : d.contenders.oldest? = some m) : Errand d (.grant s) [.grant m (.minted (d.minted + 1))] 1
  | deserted (s : Nat) (nobody : d.contenders.members = []) :
      Errand d (.grant s) (d.listeners.members.map fun m => .notify m none) d.listeners.size
  | removal (s : Nat) (m : Member String) (member : m ∈ d.contenders.members)
      (holder : d.slot.holder? = some m.id) :
      Errand d (.revoke s) (.revoke m :: d.listeners.members.map fun n => .notify n none)
        (d.listeners.size + 1)

theorem Errand.length {n : Nat} (errand : Errand d call works n) : works.length = n := by
  cases errand with
  | nothing | proposal => rfl
  | commit | deserted => exact List.length_map _
  | removal => exact congrArg Nat.succ (List.length_map _)

def Covering (d : Desk) (r : Except Fault Completion × Desk) : Prop :=
  ∀ c e, r = (.ok c, e) →
    e.attempts.length = d.attempts.length + c.size ∧ c.units = List.range' d.attempts.length c.size

theorem done_covering (d : Desk) : Covering d (.ok .done, d) := by
  rintro c e same
  cases same
  exact ⟨rfl, rfl⟩

theorem error_covering (d e : Desk) (why : Fault) : Covering d (.error why, e) := by
  intro c f same
  cases (Prod.mk.inj same).1

theorem submit_covering (d : Desk) (w : Work) : Covering d (d.submit w) := by
  rintro c e same
  rw [submit_eq] at same
  obtain ⟨answered, rfl⟩ := Prod.mk.inj same
  have unit : c = .unit d.attempts.length := by
    cases verdict : d.plan.next.1 with
    | reject why => exact absurd verdict (reply_ok d c answered why)
    | accept | discard =>
      rw [reply, verdict] at answered
      exact (Except.ok.inj answered).symm
  rw [unit]
  exact ⟨List.length_append, rfl⟩

theorem Covering.merge {c c' : Completion} (first : Covering d (.ok c, e)) (second : Covering e (.ok c', f)) :
    Covering d (.ok (c.merge c'), f) := by
  rintro _ _ same
  cases same
  obtain ⟨grown, units⟩ := first c e rfl
  obtain ⟨grown', units'⟩ := second c' f rfl
  have size : (c.merge c').size = c.size + c'.size := List.length_append
  refine ⟨?_, ?_⟩
  · rw [grown', grown, size, Nat.add_assoc]
  · rw [size, Completion.merge, units, units', grown]
    exact List.range'_append_1

theorem announce_covering (leader : Option (Leader Fence)) (ms : List (Member Unit)) (d : Desk) :
    Covering d (announce leader ms d) := by
  induction ms generalizing d with
  | nil => exact done_covering d
  | cons m ms ih =>
    have first := submit_covering d (.notify m leader)
    cases submitted : d.submit (.notify m leader) with
    | mk result f =>
      rw [submitted] at first
      simp only [announce, submitted]
      cases result with
      | error why => exact error_covering d f why
      | ok one =>
        have rest := ih f
        cases announced : announce leader ms f with
        | mk result g =>
          rw [announced] at rest
          simp only [announced]
          cases result with
          | error why => exact error_covering d g why
          | ok c => exact first.merge rest

theorem elect_covering (d : Desk) : Covering d d.elect := by
  by_cases held : d.slot.confirmed.isSome ∨ d.slot.proposed.isSome
  · rw [elect, if_pos held]
    exact done_covering d
  · rw [elect, if_neg held]
    cases oldest : d.contenders.oldest? with
    | none => exact announce_covering none d.listeners.members d
    | some m => exact submit_covering (d.put m) (.grant m (.minted (d.minted + 1)))

/-- What an awaited call comes to that has these units to submit: all of them were accepted and the completion
covers them, or the answer is the one for a service that has gone down over the call. -/
inductive Receipt (call : Call) (works : List Work) (d : Desk) : Answer × Desk → Prop
  | covered (c : Completion) (e : Desk) (sent : Sent works d e)
      (units : c.units = List.range' d.attempts.length works.length) : Receipt call works d (.completion c, e)
  | refused (why : Fault) (fresh : List Attempt) (e : Desk) (grown : e.attempts = d.attempts ++ fresh)
      (rejected : ∃ a ∈ fresh, a.verdict = .reject why) : Receipt call works d (call.setback, e)

theorem Sent.length (sent : Sent works d e) : e.attempts.length = d.attempts.length + works.length := by
  obtain ⟨fresh, grown, rfl, _⟩ := sent
  rw [grown, List.length_append, List.length_map]

theorem receipt_conclude (call : Call) (first : Completion) {r : Except Fault Completion × Desk}
    (sound : f.Sound enrolled) (up : f.down = false) (sent : Sent early d f)
    (units : first.units = List.range' d.attempts.length early.length) (batch : Batch works f r)
    (covering : Covering f r) :
    Receipt call (early ++ works) d (conclude (fun told => .completion (first.merge told)) call.setback r) := by
  cases batch with
  | sent c e alike late =>
    obtain ⟨grown, rest⟩ := covering c e rfl
    have size : c.size = works.length := Nat.add_left_cancel (grown.symm.trans late.length)
    refine .covered _ e (sent.trans late) ?_
    rw [Completion.merge, units, rest, size, sent.length, List.length_append]
    exact List.range'_append_1
  | broken why e alike broken =>
    obtain ⟨fresh, grown, rejected⟩ := (sent.broken broken).kept (sound.alike alike) (alike.down.trans up)
    exact .refused why fresh _ grown rejected

theorem receipt_idle (call : Call) (kept : e.attempts = d.attempts) : Receipt call [] d (.completion .done, e) :=
  .covered .done e (.nothing kept) rfl

section Awaited
variable (sound : d.Sound enrolled) (up : d.down = false)
include sound

theorem Sound.member_of_holder (id : Nat) (holder : d.slot.holder? = some id) :
    ∃ m ∈ d.contenders.members, d.contenders.get? id = some m ∧ m.id = id := by
  obtain ⟨m, found, member, same⟩ := Roster.get_of_ids d.contenders id (sound.seated id holder)
  exact ⟨m, member, found, same⟩

theorem Elects.errand (elects : Elects d works e) (s : Nat) : ∃ n, Errand d (.grant s) works n := by
  cases elects with
  | held occupied =>
    have held : d.slot.holder?.isSome := by
      rw [Slot.holder?, Option.isSome_or, Bool.or_eq_true]
      exact occupied
    obtain ⟨id, holder⟩ := Option.isSome_iff_exists.mp held
    obtain ⟨m, member, _, rfl⟩ := sound.member_of_holder id holder
    exact ⟨0, .nothing _ ⟨m, member, holder⟩⟩
  | nobody _ _ deserted => exact ⟨_, .deserted s (List.head?_eq_none_iff.mp deserted)⟩
  | nominee m unconfirmed unproposed oldest =>
    have vacant : d.slot.holder? = none := Option.or_eq_none_iff.mpr ⟨unconfirmed, unproposed⟩
    exact ⟨1, .proposal s m vacant oldest⟩

include up

theorem grant_receipt (s : Nat) :
    ∃ works n, Errand d (.grant s) works n ∧ Receipt (.grant s) works d (System.ofCompletion d.grant) := by
  obtain ⟨works, f, elects, batch⟩ := elect_batch d
  obtain ⟨n, errand⟩ := elects.errand sound s
  have covering : Covering f d.elect := by
    intro c e same
    rw [elects.attempts]
    exact elect_covering d c e same
  have opened : Sent [] d f := .nothing elects.attempts
  have receipt := receipt_conclude (.grant s) .done (elects.sound sound up) (elects.down.trans up) opened rfl
    batch covering
  rw [grant, if_neg (Bool.eq_false_iff.mp up), ofCompletion_settle]
  exact ⟨works, n, errand, receipt⟩

theorem confirm_receipt (c : Contender) (token : Fence) (address : String) (now : Instant) :
    ∃ works n, Errand d (.confirm c token address now) works n ∧
      Receipt (.confirm c token address now) works d
        (.completion (d.confirm c token address now).1, (d.confirm c token address now).2) := by
  by_cases misfit : d.active c.id = false ∨ d.slot.proposed ≠ some c.id ∨ d.slot.token ≠ some token
  · obtain ⟨n, ignored⟩ := confirm_ignored d c token address now (misfit.imp_right .inr)
    rw [ignored]
    exact ⟨[], 0, .nothing _ misfit, receipt_idle _ rfl⟩
  · simp only [not_or, Bool.not_eq_false, ne_eq, Decidable.not_not] at misfit
    obtain ⟨active, proposed, current⟩ := misfit
    let e := (d.note (.confirmed c.label address token)).commit c address now
    have committed : e.Sound enrolled :=
      sound_commit (sound.alike (note_alike d _)) c token address now up proposed current
    have receipt := receipt_conclude (d := d) (.confirm c token address now) .done committed up (.nothing rfl) rfl
      (announceAll_batch (some ⟨address, token⟩) e) (announce_covering _ e.listeners.members e)
    rw [confirm_fits d c token address now up active proposed current, completion_signal]
    exact ⟨_, _, .commit c token address now active proposed current, receipt⟩

theorem revoke_receipt (s : Nat) :
    ∃ works n, Errand d (.revoke s) works n ∧ Receipt (.revoke s) works d (System.ofCompletion d.revoke) := by
  rw [revoke, if_neg (Bool.eq_false_iff.mp up)]
  cases holder : d.slot.holder? with
  | none => exact ⟨[], 0, .nothing _ holder, receipt_idle _ rfl⟩
  | some id =>
    obtain ⟨m, member, found, rfl⟩ := sound.member_of_holder id holder
    refine ⟨_, _, .removal s m member holder, ?_⟩
    have deposed := sound_depose sound m.id m up holder found
    have batch := submit_batch (d.depose m) (.revoke m) id
    have covering := submit_covering (d.depose m) (.revoke m)
    simp only [found]
    generalize (d.depose m).submit (.revoke m) = revoked at batch covering ⊢
    cases batch with
    | broken why g alike broken =>
      have broken : Broken why d g := (Sent.nothing rfl).broken broken
      obtain ⟨fresh, grown, rejected⟩ := broken.kept (deposed.alike alike) (alike.down.trans up)
      exact .refused why fresh _ grown rejected
    | sent one g alike sent =>
      have told : Sent [.revoke m] d g := (Sent.nothing rfl).trans sent
      obtain ⟨grown, units⟩ := covering one g rfl
      have size : one.size = 1 := Nat.add_left_cancel (grown.symm.trans told.length)
      rw [size] at units
      have listeners : g.listeners = d.listeners := alike.listeners
      have receipt := receipt_conclude (.revoke s) one (deposed.alike alike) (alike.down.trans up) told units
        (announceAll_batch none g) (announce_covering none g.listeners.members g)
      rw [listeners] at receipt
      simp only
      generalize g.announceAll none = rest at receipt ⊢
      obtain ⟨result, h⟩ := rest
      cases result <;> exact receipt

end Awaited
end Desk

namespace System
variable {sys : System} {call : Call} {calls : List Call}

theorem visit_receipt (s : Nat) (v : Service) (work : Desk → Answer × Desk) (found : sys.services[s]? = some v)
    (receipt : ∃ works n, (sys.desk s v).Errand call works n ∧
      Desk.Receipt call works (sys.desk s v) (work (sys.desk s v))) :
    ∃ answer e works n, sys.visit s work = (answer, sys.store s e) ∧ (sys.desk s v).Errand call works n ∧
      Desk.Receipt call works (sys.desk s v) (answer, e) := by
  obtain ⟨works, n, errand, receipt⟩ := receipt
  refine ⟨(work (sys.desk s v)).1, (work (sys.desk s v)).2, works, n, ?_, errand, receipt⟩
  rw [visit, found]

theorem act_receipt (sound : sys.Sound) (awaited : call.Awaited) (s : Nat) (v : Service)
    (reached : call.service? = some s) (found : sys.services[s]? = some v) (up : v.down = false) :
    ∃ answer e works n, sys.act call = (answer, sys.store s e) ∧ (sys.desk s v).Errand call works n ∧
      Desk.Receipt call works (sys.desk s v) (answer, e) := by
  have desk := sound.desks s v found
  cases call with
  | confirm c token address now =>
    cases reached
    exact visit_receipt c.home v
      (fun d => (.completion (d.confirm c token address now).1, (d.confirm c token address now).2)) found
      (Desk.confirm_receipt desk up c token address now)
  | grant s =>
    cases reached
    exact visit_receipt s v (fun d => ofCompletion d.grant) found (Desk.grant_receipt desk up s)
  | revoke s =>
    cases reached
    exact visit_receipt s v (fun d => ofCompletion d.revoke) found (Desk.revoke_receipt desk up s)
  | _ => exact awaited.elim

structure Covers (calls : List Call) (i : Nat) (c : Completion) : Prop where
  once : c.units.Nodup
  exactly : ∀ n, n ∈ c.units ↔ ∃ a, Made calls i n a

theorem covers_submitted (lawful : Lawful {} calls) (i : Nat) (c : Completion)
    (units : c.units = List.range' (before calls i).ledger.attempts.length (submitted calls i).length) :
    Covers calls i c := by
  have grown := attempts_succ lawful i
  refine ⟨units ▸ List.nodup_range', ?_⟩
  intro n
  rw [units, List.mem_range'_1]
  constructor
  · rintro ⟨beyond, within⟩
    rw [← List.length_append, ← grown] at within
    exact ⟨_, beyond, List.getElem?_eq_getElem within⟩
  · rintro ⟨a, beyond, present⟩
    refine ⟨beyond, ?_⟩
    rw [← List.length_append, ← grown]
    exact (List.getElem?_eq_some_iff.mp present).1

theorem call_receipt (lawful : Lawful {} calls) (i : Nat) (call : Call) (here : calls[i]? = some call)
    (awaited : call.Awaited) (s : Nat) (v : Service) (reached : call.service? = some s)
    (found : (before calls i).services[s]? = some v) (up : v.down = false) :
    ∃ e works n, ((before calls i).cleared.desk s v).Errand call works n ∧
      e.attempts = (before calls i).ledger.attempts ++ submitted calls i ∧
      Desk.Receipt call works ((before calls i).cleared.desk s v) (((before calls i).apply call).1, e) := by
  obtain ⟨answer, e, works, n, acted, errand, receipt⟩ :=
    act_receipt (sound_before lawful i).cleared awaited s v reached found up
  have applied : (before calls i).apply call = (answer, (before calls i).cleared.store s e) := acted
  have grown := attempts_succ lawful i
  rw [before_succ calls i call here, applied] at grown
  rw [applied]
  exact ⟨e, works, n, errand, grown, receipt⟩

theorem sent_submitted {s i : Nat} {v : Service} {e : Desk} {works : List Work}
    (grown : e.attempts = (before calls i).ledger.attempts ++ submitted calls i)
    (sent : Desk.Sent works ((before calls i).cleared.desk s v) e) :
    (submitted calls i).map Attempt.work = works ∧ (submitted calls i).length = works.length ∧
      ∀ a ∈ submitted calls i, a.Accepted := by
  obtain ⟨fresh, extended, told, accepted⟩ := sent
  obtain rfl : fresh = submitted calls i := List.append_cancel_left (extended.symm.trans grown)
  exact ⟨told, by rw [← told, List.length_map], accepted⟩

theorem apply_idle (awaited : call.Awaited) (s : Nat) (v : Service) (reached : call.service? = some s)
    (found : sys.services[s]? = some v) (up : v.down = false) (idle : call.Idle (sys.cleared.desk s v)) :
    Unmoved sys (sys.apply call).2 := by
  have here : sys.cleared.services[s]? = some v := found
  have running : ¬ (sys.cleared.desk s v).down = true := Bool.eq_false_iff.mp up
  have acted : sys.apply call = sys.cleared.act call := rfl
  rw [acted]
  cases call with
  | confirm c token address now =>
    cases reached
    obtain ⟨n, ignored⟩ := Desk.confirm_ignored (sys.cleared.desk c.home v) c token address now (idle.imp_right .inr)
    simp only [act, visit, here, ignored, store_noted c.home v here]
    exact ⟨[n], rfl⟩
  | grant s =>
    cases reached
    obtain ⟨m, _, holder⟩ := idle
    have occupied : (sys.cleared.desk s v).slot.confirmed.isSome ∨ (sys.cleared.desk s v).slot.proposed.isSome := by
      rw [← Bool.or_eq_true, ← Option.isSome_or]
      exact Option.isSome_of_eq_some holder
    have granted : ofCompletion (sys.cleared.desk s v).grant = (.completion .done, sys.cleared.desk s v) := by
      rw [Desk.grant, if_neg running, Desk.elect, if_pos occupied]
      rfl
    rw [act, visit_idle s v here _ _ granted]
    exact ⟨[], rfl⟩
  | revoke s =>
    cases reached
    have vacant : (sys.cleared.desk s v).slot.holder? = none := idle
    have revoked : ofCompletion (sys.cleared.desk s v).revoke = (.completion .done, sys.cleared.desk s v) := by
      rw [Desk.revoke, if_neg running]
      simp only [vacant]
      rfl
    rw [act, visit_idle s v here _ _ revoked]
    exact ⟨[], rfl⟩
  | _ => exact awaited.elim

theorem refusal_setback (awaited : call.Awaited) (s : Nat) (reached : call.service? = some s) :
    ∃ notes, call.Refusal s call.setback notes := by
  cases call with
  | confirm c token address now =>
    cases reached
    exact ⟨_, .confirm c token address now rfl⟩
  | grant s =>
    cases reached
    exact ⟨[], .grant⟩
  | revoke s =>
    cases reached
    exact ⟨[], .revoke⟩
  | _ => exact awaited.elim

theorem visit_bare (sys : System) (s : Nat) (work : Desk → Answer × Desk) (c : Completion)
    (bare : ∀ d, (work d).1 ≠ .completion c) : (sys.visit s work).1 ≠ .completion c := by
  cases found : sys.services[s]? with
  | none =>
    rw [visit, found]
    intro same
    cases same
  | some v =>
    rw [visit, found]
    exact bare (sys.desk s v)

theorem enroll_bare (sys : System) (s : Nat) (make : Nat → Handle) (c : Completion) :
    (sys.enroll s make).1 ≠ .completion c := by
  cases found : sys.services[s]? with
  | none =>
    rw [enroll, found]
    intro same
    cases same
  | some v =>
    by_cases down : v.down = true
    · simp [enroll, found, down]
    · simp [enroll, found, down]

theorem ofUnit_bare (r : Except Fault Unit × Desk) (c : Completion) : (ofUnit r).1 ≠ .completion c := by
  obtain ⟨result, d⟩ := r
  cases result <;> exact nofun

theorem awaited_of_act (sys : System) (call : Call) (c : Completion) (answered : (sys.act call).1 = .completion c) :
    call.Awaited := by
  cases call with
  | confirm | grant | revoke => trivial
  | launch => cases answered
  | createContender s component =>
    exact absurd answered (enroll_bare sys s (fun id => .contender ⟨id, s, component, id⟩) c)
  | createListener s => exact absurd answered (enroll_bare sys s (fun id => .listener ⟨id, s, (), id⟩) c)
  | start h party =>
    cases h with
    | contender k =>
      exact absurd answered (visit_bare sys k.home (fun d => ofUnit (d.startContender k party)) c
        fun d => ofUnit_bare (d.startContender k party) c)
    | listener l =>
      exact absurd answered (visit_bare sys l.home (fun d => ofUnit (d.startListener l party)) c
        fun d => ofUnit_bare (d.startListener l party) c)
  | remove s h =>
    cases h with
    | contender k => exact absurd answered (visit_bare sys s (fun d => (.done, d.removeContender k)) c fun d => nofun)
    | listener l => exact absurd answered (visit_bare sys s (fun d => (.done, d.removeListener l)) c fun d => nofun)
  | shutDown s cause => exact absurd answered (visit_bare sys s (fun d => (.done, d.shutDown cause)) c fun d => nofun)
  | replan s plan =>
    exact absurd answered (visit_bare sys s (fun d => (.done, { d with plan := plan })) c fun d => nofun)

theorem awaited_of_answer (call : Call) (c : Completion) (answered : (sys.apply call).1 = .completion c) :
    call.Awaited ∧ ∃ s v, call.service? = some s ∧ sys.services[s]? = some v := by
  have awaited := awaited_of_act sys.cleared call c answered
  obtain ⟨s, reached⟩ : ∃ s, call.service? = some s := by
    cases call with
    | confirm | grant | revoke => exact ⟨_, rfl⟩
    | _ => exact awaited.elim
  refine ⟨awaited, s, ?_⟩
  cases found : sys.services[s]? with
  | some v => exact ⟨v, reached, rfl⟩
  | none =>
    have absent : (sys.apply call).1 = .absent := @visit_missing sys.cleared call s reached found
    rw [answered] at absent
    cases absent

theorem answered_units (lawful : Lawful {} calls) (i : Nat) (call : Call) (here : calls[i]? = some call)
    (c : Completion) (answered : ((before calls i).apply call).1 = .completion c) (n : Nat) (unit : n ∈ c.units) :
    ∃ a, Made calls i n a ∧ a.Accepted := by
  obtain ⟨awaited, s, v, reached, found⟩ := awaited_of_answer call c answered
  have empty (setback : ((before calls i).apply call).1 = call.setback) : False := by
    rw [answered] at setback
    cases call with
    | confirm =>
      cases setback
      cases unit
    | grant | revoke => cases setback
    | _ => exact awaited.elim
  cases running : v.down with
  | true =>
    obtain ⟨notes, refusal⟩ := refusal_setback awaited s reached
    exact (empty (congrArg Prod.fst (act_refused s ⟨v, found, running⟩ call.setback notes refusal))).elim
  | false =>
    obtain ⟨e, works, _, _, grown, receipt⟩ := call_receipt lawful i call here awaited s v reached found running
    generalize same : ((before calls i).apply call).1 = answer at receipt
    cases receipt with
    | refused => exact (empty same).elim
    | covered c' _ sent units =>
      cases answered.symm.trans same
      obtain ⟨_, many, accepted⟩ := sent_submitted grown sent
      obtain ⟨a, made⟩ := ((covers_submitted lawful i c (many ▸ units)).exactly n).mp unit
      have member : a ∈ submitted calls i := by
        have present := made.2
        rw [attempts_succ lawful i, List.getElem?_append_right made.1] at present
        exact List.mem_of_getElem? present
      exact ⟨a, made, accepted a member⟩

-- If every unit is accepted, the completion is there and covers the units that the call had to submit. A call
-- with nothing to do changes nothing. A service that is down, or goes down over a unit that is rejected, hands
-- out no completion that waits for anything.
theorem completions_cover (calls : List Call) (lawful : Lawful {} calls) (i : Nat) (call : Call)
    (here : calls[i]? = some call) (awaited : call.Awaited) (s : Nat) (v : Service)
    (reached : call.service? = some s) (found : (before calls i).services[s]? = some v) :
    (v.down = false → (∀ a ∈ submitted calls i, a.Accepted) →
      ∃ completion works n, ((before calls i).apply call).1 = .completion completion ∧
        Covers calls i completion ∧ ((before calls i).cleared.desk s v).Errand call works n ∧
        (submitted calls i).map Attempt.work = works ∧ completion.size = n) ∧
    (v.down = false → call.Idle ((before calls i).cleared.desk s v) →
      Unmoved (before calls i) (before calls (i + 1)) ∧ submitted calls i = []) ∧
    (v.down = true → ((before calls i).apply call).1 = call.setback ∧ submitted calls i = []) ∧
    ∀ a ∈ submitted calls i, ∀ why, a.verdict = .reject why → ((before calls i).apply call).1 = call.setback := by
  have closed (down : v.down = true) :
      ((before calls i).apply call).1 = call.setback ∧ submitted calls i = [] := by
    obtain ⟨notes, refusal⟩ := refusal_setback awaited s reached
    have refused := act_refused s ⟨v, found, down⟩ call.setback notes refusal
    rw [submitted, before_succ calls i call here, refused]
    exact ⟨rfl, List.drop_length⟩
  refine ⟨?_, ?_, closed, ?_⟩
  · intro up accepted
    obtain ⟨e, works, n, errand, grown, receipt⟩ := call_receipt lawful i call here awaited s v reached found up
    generalize ((before calls i).apply call).1 = answer at receipt
    cases receipt with
    | covered c _ sent units =>
      obtain ⟨told, many, _⟩ := sent_submitted grown sent
      have size : c.size = n := by
        rw [Completion.size, units, List.length_range', errand.length]
      exact ⟨c, works, n, rfl, covers_submitted lawful i c (many ▸ units), errand, told, size⟩
    | refused why fresh _ extended rejected =>
      obtain rfl : fresh = submitted calls i := List.append_cancel_left (extended.symm.trans grown)
      obtain ⟨a, member, verdict⟩ := rejected
      exact absurd verdict (accepted a member why)
  · intro up idle
    have unmoved := apply_idle awaited s v reached found up idle
    rw [← before_succ calls i call here] at unmoved
    obtain ⟨notes, same⟩ := unmoved
    refine ⟨⟨notes, same⟩, ?_⟩
    rw [submitted, same]
    exact List.drop_length
  · intro a member why rejected
    cases running : v.down with
    | true => exact (closed running).1
    | false =>
      obtain ⟨e, works, n, errand, grown, receipt⟩ :=
        call_receipt lawful i call here awaited s v reached found running
      generalize ((before calls i).apply call).1 = answer at receipt
      cases receipt with
      | refused => rfl
      | covered c _ sent units =>
        obtain ⟨_, _, accepted⟩ := sent_submitted grown sent
        exact absurd rejected (accepted a member why)

-- Two listeners are told of a leader and of its removal by force. The executor takes no more when the next
-- leader is announced.
def fanfare : List Call :=
  let only : Contender := ⟨1, 0, "only", 1⟩
  let noon : Instant := ⟨⟨2024, 5, 1⟩, 43200, 0⟩
  [.launch ⟨List.replicate 8 .accept, .reject (.executorRejected "executor is closed")⟩, .createContender 0 "only",
    .createListener 0, .createListener 0, .start (.contender only) 0, .start (.listener ⟨2, 0, (), 2⟩) 1,
    .start (.listener ⟨3, 0, (), 3⟩) 2, .confirm only (.minted 1) "west" noon, .revoke 0, .grant 0,
    .confirm only (.minted 2) "east" noon]

theorem fanfare_covered :
    Lawful {} fanfare ∧
      (∃ completion, ((before fanfare 8).apply (.revoke 0)).1 = .completion completion ∧ completion.size = 3 ∧
        Covers fanfare 8 completion) ∧
      ((before fanfare 10).apply (.confirm ⟨1, 0, "only", 1⟩ (.minted 2) "east" ⟨⟨2024, 5, 1⟩, 43200, 0⟩)).1 =
        .completion .done := by
  have lawful : Lawful {} fanfare := by decide
  have accepted : ∀ a ∈ submitted fanfare 8, a.Accepted := by decide
  obtain ⟨covered, _⟩ := completions_cover fanfare lawful 8 (.revoke 0) rfl trivial 0 _ rfl rfl
  obtain ⟨completion, works, n, answered, covers, errand, told, size⟩ := covered rfl accepted
  have three : (submitted fanfare 8).length = 3 := by decide
  have many : n = 3 := by rw [← errand.length, ← told, List.length_map, three]
  obtain ⟨_, _, _, refused⟩ := completions_cover fanfare lawful 10
    (.confirm ⟨1, 0, "only", 1⟩ (.minted 2) "east" ⟨⟨2024, 5, 1⟩, 43200, 0⟩) rfl trivial 0 _ rfl rfl
  have rejection : ∃ a ∈ submitted fanfare 10, a.verdict = .reject (.executorRejected "executor is closed") := by
    decide
  obtain ⟨a, member, rejected⟩ := rejection
  exact ⟨lawful, ⟨completion, answered, size.trans many, covers⟩, refused a member _ rejected⟩

end System
end Leadership
