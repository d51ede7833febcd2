import Leadership.Proofs.Activation
import Leadership.Proofs.Scenes

set_option autoImplicit false

namespace Leadership

-- The calls that take down a service which is up: the shutdown itself, a second start of somebody active,
-- and the removal of somebody active at a service where it was never registered.
inductive Call.Condemns (active : Nat → Bool) (s : Nat) : Call → Prop
  | shutDown (cause : Fault) : Condemns active s (.shutDown s cause)
  | twice (h : Handle) (party : Nat) (home : h.home = s) (running : active h.id = true) :
      Condemns active s (.start h party)
  | strange (h : Handle) (foreign : h.home ≠ s) (running : active h.id = true) : Condemns active s (.remove s h)

inductive Call.Harmless (active : Nat → Bool) : Call → Prop
  | start (h : Handle) (party : Nat) (idle : active h.id = false) : Harmless active (.start h party)
  | idle (s : Nat) (h : Handle) (idle : active h.id = false) : Harmless active (.remove s h)
  | close (h : Handle) : Harmless active (.remove h.home h)
  | confirm (c : Contender) (token : Fence) (address : String) (now : Instant) :
      Harmless active (.confirm c token address now)
  | grant (s : Nat) : Harmless active (.grant s)
  | revoke (s : Nat) : Harmless active (.revoke s)

theorem Call.Harmless.innocent {active : Nat → Bool} {call : Call} (harmless : call.Harmless active) (s : Nat) :
    ¬ call.Condemns active s := by
  intro condemns
  cases condemns with
  | shutDown => cases harmless
  | twice h party home running =>
    cases harmless with
    | start _ _ idle =>
      rw [idle] at running
      cases running
  | strange h foreign running =>
    cases harmless with
    | idle _ _ idle =>
      rw [idle] at running
      cases running
    | close => exact foreign rfl

namespace Desk
variable {enrolled : List Handle} {call : Call} {d e : Desk}

theorem move_down (move : Move call d e) (down : d.down = true) : e.down = true := by
  cases move with
  | note | replan => exact down
  | enter _ _ _ _ _ up | listen _ _ _ _ _ up | leave _ _ _ _ _ up | hush _ _ _ _ _ up | propose _ _ _ up
  | commit _ _ _ _ _ _ up | tell _ _ _ up | depose _ _ _ _ up | shutDown _ _ _ up => exact running up down

theorem moves_down (moves : Moves call d e) (down : d.down = true) : e.down = true := by
  induction moves with
  | refl => exact down
  | tail _ move ih => exact move_down move ih

theorem fail_down (d : Desk) (f : Fault) : (d.fail f).down = true := shutDown_down _ _

theorem startContender_twice (d : Desk) (c : Contender) (party : Nat) (up : d.down = false)
    (active : d.active c.id = true) : (d.startContender c party).2.down = true := by
  simp only [startContender, up, active, Bool.false_eq_true, if_false, if_true]
  exact fail_down d _

theorem startListener_twice (d : Desk) (l : Listener) (party : Nat) (up : d.down = false)
    (active : d.active l.id = true) : (d.startListener l party).2.down = true := by
  simp only [startListener, up, active, Bool.false_eq_true, if_false, if_true]
  exact fail_down d _

theorem removeContender_strange (sound : d.Sound enrolled) (c : Contender) (up : d.down = false)
    (alone : ∀ m ∈ d.contenders.members, m.id = c.id → m.registration = c) (active : d.active c.id = true)
    (foreign : c.home ≠ d.number) : (d.removeContender c).down = true := by
  cases removed : d.contenders.remove? c with
  | none =>
    simp only [removeContender, up, active, removed, Bool.false_eq_true, Bool.true_eq_false, or_self, if_false]
    exact fail_down d _
  | some taken =>
    obtain ⟨member, place, _⟩ := Roster.remove_cases d.contenders taken.2 c taken.1 removed
    exact absurd (alone taken.1 member place ▸ (sound.contenders taken.1 member).2) foreign

theorem removeListener_strange (sound : d.Sound enrolled) (l : Listener) (up : d.down = false)
    (alone : ∀ m ∈ d.listeners.members, m.id = l.id → m.registration = l) (active : d.active l.id = true)
    (foreign : l.home ≠ d.number) : (d.removeListener l).down = true := by
  cases removed : d.listeners.remove? l with
  | none =>
    simp only [removeListener, up, active, removed, Bool.false_eq_true, Bool.true_eq_false, or_self, if_false]
    exact fail_down d _
  | some taken =>
    obtain ⟨member, place, _⟩ := Roster.remove_cases d.listeners taken.2 l taken.1 removed
    exact absurd (alone taken.1 member place ▸ (sound.listeners taken.1 member).2) foreign

theorem Reason.condemns {cause : Fault} (reason : Reason d call cause) : call.Condemns d.active d.number := by
  cases reason with
  | asked => exact .shutDown cause
  | misuse _ fault misuse =>
    cases misuse with
    | twiceContender c party home active => exact .twice (.contender c) party home active
    | twiceListener l party home active => exact .twice (.listener l) party home active
    | strangeContender c foreign active => exact .strange (.contender c) foreign active
    | strangeListener l foreign active => exact .strange (.listener l) foreign active

inductive Fall (enrolled : List Handle) (call : Call) (d : Desk) : Desk → Prop
  | closed (f : Desk) (cause : Fault) (alike : Alike d f) (kept : f.attempts = d.attempts)
      (reason : Reason d call cause) : Fall enrolled call d (f.shutDown cause)
  | crash (why : Fault) (f : Desk) (sound : f.Sound enrolled) (up : f.down = false) (broken : Broken why d f) :
      Fall enrolled call d (f.fail why)

theorem course_fall {answer : Answer} (course : Course enrolled call d (answer, e)) (up : d.down = false)
    (down : e.down = true) : Fall enrolled call d e := by
  cases course with
  | calm _ _ works word calm => exact running (calm.down.trans up) down
  | welcome l party _ asked welcomed => exact running welcomed.up down
  | closed f cause alike kept _ reason => exact .closed f cause alike kept reason
  | crash why f sound still broken => exact .crash why f sound still broken

end Desk

namespace System
variable {sys next : System} {call : Call} {calls : List Call}

def Up (sys : System) (s : Nat) : Prop := ∃ v, sys.services[s]? = some v ∧ v.down = false

def Condemned (calls : List Call) (s : Nat) : Prop :=
  ∃ i call, calls[i]? = some call ∧ (before calls i).Up s ∧ call.Condemns (before calls i).ledger.active s

theorem Up.not_down {s : Nat} (up : sys.Up s) : ¬ sys.Down s := by
  rintro ⟨w, present, down⟩
  obtain ⟨v, found, still⟩ := up
  cases found.symm.trans present
  cases still.symm.trans down

theorem takes_down (takes : Takes sys call next) (s : Nat) (down : sys.Down s) : next.Down s := by
  obtain ⟨v, found, closed⟩ := down
  obtain ⟨w, present, rfl | ⟨e, _, moves, rfl, _⟩⟩ := takes_kept takes s v found
  · exact ⟨w, present, closed⟩
  · exact ⟨e.toService, present, Desk.moves_down moves closed⟩

theorem takes_up (takes : Takes sys call next) (s : Nat) (up : sys.Up s) : next.Up s ∨ next.Down s := by
  obtain ⟨v, found, _⟩ := up
  obtain ⟨w, present, _⟩ := takes_kept takes s v found
  cases down : w.down with
  | true => exact .inr ⟨w, present, down⟩
  | false => exact .inl ⟨w, present, down⟩

theorem down_later (lawful : Lawful {} calls) (s i j : Nat) (within : i ≤ j) (down : (before calls i).Down s) :
    (before calls j).Down s := by
  induction within with
  | refl => exact down
  | @step j _ ih =>
    cases here : calls[j]? with
    | none => exact before_end calls j here ▸ ih
    | some call => exact takes_down (before_takes lawful j call here).2 s ih

theorem visit_down (s : Nat) (v : Service) (work : Desk → Answer × Desk) (found : sys.services[s]? = some v)
    (down : (work (sys.desk s v)).2.down = true) : (sys.visit s work).2.Down s := by
  rw [visit, found]
  exact ⟨_, store_service s v _ found, down⟩

theorem act_condemned (sound : sys.Sound) (held : call.Held sys.enrolled) (s : Nat) (up : sys.Up s)
    (condemns : call.Condemns sys.ledger.active s) : (sys.act call).2.Down s := by
  obtain ⟨v, found, up⟩ := up
  have desk := sound.desks s v found
  cases condemns with
  | shutDown cause => exact visit_down s v _ found (Desk.shutDown_down _ cause)
  | twice h party home active =>
    cases h with
    | contender c =>
      subst home
      refine visit_down c.home v _ found ?_
      rw [ofUnit_desk]
      exact Desk.startContender_twice (sys.desk c.home v) c party up active
    | listener l =>
      subst home
      refine visit_down l.home v _ found ?_
      rw [ofUnit_desk]
      exact Desk.startListener_twice (sys.desk l.home v) l party up active
  | strange h foreign active =>
    cases h with
    | contender c =>
      refine visit_down s v _ found ?_
      exact Desk.removeContender_strange desk c up (sound.contender_alone held found) active foreign
    | listener l =>
      refine visit_down s v _ found ?_
      exact Desk.removeListener_strange desk l up (sound.listener_alone held found) active foreign

theorem fall_of_down (lawful : Lawful {} calls) (i s : Nat) (up : (before calls i).Up s)
    (down : (before calls (i + 1)).Down s) :
    ∃ call v e, calls[i]? = some call ∧ call.service? = some s ∧ (before calls i).services[s]? = some v ∧
      v.down = false ∧ (before calls (i + 1)).services[s]? = some e.toService ∧
      e.attempts = (before calls i).ledger.attempts ++ submitted calls i ∧
      Desk.Fall (before calls i).enrolled call ((before calls i).cleared.desk s v) e := by
  obtain ⟨v, found, up⟩ := up
  obtain ⟨w, present, closed⟩ := down
  by_cases reached : ∃ call, calls[i]? = some call ∧ call.service? = some s
  · obtain ⟨call, here, reached⟩ := reached
    obtain ⟨answer, e, _, after, grown, course⟩ := reached_call lawful i s call here v reached found
    cases after.symm.trans present
    exact ⟨call, v, e, here, reached, found, up, after, grown, Desk.course_fall course up closed⟩
  · have unreached (call : Call) (here : calls[i]? = some call) : call.service? ≠ some s :=
      fun at_ => reached ⟨call, here, at_⟩
    cases (beside_call lawful i s v found unreached).1.symm.trans present
    cases up.symm.trans closed

theorem condemned_of_down (lawful : Lawful {} calls) (i s : Nat) (call : Call) (here : calls[i]? = some call)
    (up : (before calls i).Up s) (down : (before calls (i + 1)).Down s)
    (willing : (before calls (i + 1)).Willing s) : call.Condemns (before calls i).ledger.active s := by
  obtain ⟨_, v, e, same, reached, _, _, _, grown, fall⟩ := fall_of_down lawful i s up down
  cases here.symm.trans same
  cases fall with
  | closed f cause alike kept reason => exact reason.condemns
  | crash why f still running broken =>
    obtain ⟨new, extended, a, member, rejected⟩ := broken.kept still running
    have fresh : submitted calls i = new := List.append_cancel_left (grown.symm.trans extended)
    obtain ⟨x, made⟩ := made_of_submitted i a (fresh ▸ member)
    have service := made_service lawful i x s a made call here reached
    exact absurd rejected (willing a (List.mem_of_getElem? made.2) service why)

theorem down_succ_iff (lawful : Lawful {} calls) (i s : Nat) (call : Call) (here : calls[i]? = some call)
    (up : (before calls i).Up s) (willing : (before calls (i + 1)).Willing s) :
    (before calls (i + 1)).Down s ↔ call.Condemns (before calls i).ledger.active s := by
  constructor
  · intro down
    exact condemned_of_down lawful i s call here up down willing
  · intro condemns
    rw [before_succ calls i call here]
    have held := held_of_lawful calls {} lawful i call here
    exact act_condemned (sound_before lawful i).cleared held s up condemns

theorem down_since (lawful : Lawful {} calls) (n s : Nat) (down : (before calls n).Down s) :
    ∃ k < n, (before calls k).Up s ∧ (before calls (k + 1)).Down s := by
  have start : ¬ Down {} s := by
    rintro ⟨v, found, _⟩
    cases found
  have step (k : Nat) (_ : k < n) (later : (before calls (k + 1)).Down s) :
      (before calls k).Down s ∨ ((before calls k).Up s ∧ (before calls (k + 1)).Down s) := by
    obtain ⟨w, present, closed⟩ := later
    cases here : calls[k]? with
    | none =>
      rw [before_end calls k here] at present
      exact .inl ⟨w, present, closed⟩
    | some call =>
      rcases takes_service (before_takes lawful k call here).2 s w present with same | ⟨plan, rfl⟩ | visited
      · exact .inl ⟨w, same, closed⟩
      · cases closed
      · obtain ⟨v, _, _, found, _⟩ := visited
        cases up : v.down with
        | true => exact .inl ⟨v, found, up⟩
        | false => exact .inr ⟨⟨v, found, up⟩, w, present, closed⟩
  obtain ⟨k, less, event, _⟩ := since_call calls (fun sys => sys.Down s)
    (fun k => (before calls k).Up s ∧ (before calls (k + 1)).Down s) start n step down
  exact ⟨k, less, event⟩

theorem down_iff (lawful : Lawful {} calls) (s : Nat) (willing : (run {} calls).Willing s) :
    (run {} calls).Down s ↔ Condemned calls s := by
  rw [← before_all] at willing ⊢
  constructor
  · intro down
    obtain ⟨k, less, up, after⟩ := down_since lawful calls.length s down
    obtain ⟨call, here⟩ : ∃ call, calls[k]? = some call := ⟨_, List.getElem?_eq_getElem less⟩
    have still : (before calls (k + 1)).Willing s := willing.earlier lawful less
    exact ⟨k, call, here, up, (down_succ_iff lawful k s call here up still).mp after⟩
  · rintro ⟨k, call, here, up, condemns⟩
    have less := (List.getElem?_eq_some_iff.mp here).1
    have still : (before calls (k + 1)).Willing s := willing.earlier lawful less
    exact down_later lawful s (k + 1) calls.length less ((down_succ_iff lawful k s call here up still).mpr condemns)

theorem harmless_up (lawful : Lawful {} calls) (i s : Nat) (call : Call) (here : calls[i]? = some call)
    (harmless : call.Harmless (before calls i).ledger.active) (up : (before calls i).Up s)
    (willing : (before calls (i + 1)).Willing s) : (before calls (i + 1)).Up s := by
  rcases takes_up (before_takes lawful i call here).2 s up with still | down
  · exact still
  · have condemns := (down_succ_iff lawful i s call here up willing).mp down
    exact absurd condemns (harmless.innocent s)

-- Whoever is inactive is in no roster, so that a start is never refused by the roster alone.
structure Admits (sys : System) : Prop where
  contenders : ∀ c, .contender c ∈ sys.enrolled → sys.ledger.active c.id = false →
    ∃ v, sys.services[c.home]? = some v ∧ ∀ party, (v.contenders.add? ⟨c, party⟩).isSome
  listeners : ∀ l, .listener l ∈ sys.enrolled → sys.ledger.active l.id = false →
    ∃ v, sys.services[l.home]? = some v ∧ ∀ party, (v.listeners.add? ⟨l, party⟩).isSome

theorem Sound.admits (sound : sys.Sound) : sys.Admits := by
  constructor
  · intro c known idle
    obtain ⟨v, found⟩ := sound.service_of known
    refine ⟨v, found, fun party => Option.isSome_iff_exists.mpr ?_⟩
    exact (sound.desks c.home v found).admits_contender c party ⟨.contender c, known, rfl, rfl⟩ idle
  · intro l known idle
    obtain ⟨v, found⟩ := sound.service_of known
    refine ⟨v, found, fun party => Option.isSome_iff_exists.mpr ?_⟩
    exact (sound.desks l.home v found).admits_listener l party ⟨.listener l, known, rfl, rfl⟩ idle

-- The last part is about scenes, where callbacks run, and fail as they please: only a call can condemn a
-- service.
theorem down_exactly_on_misuse (calls : List Call) (lawful : Lawful {} calls) :
    (∀ s, (run {} calls).Willing s → ((run {} calls).Down s ↔ Condemned calls s)) ∧
      (∀ i call s, calls[i]? = some call → call.Harmless (before calls i).ledger.active →
        (before calls i).Up s → (before calls (i + 1)).Willing s → (before calls (i + 1)).Up s) ∧
      (∀ i, (before calls i).Admits) ∧
      ∀ clock setups steps start, Scenario.Scene.setUpAll setups { clock := clock } = .ok start →
        (Scenario.Scene.runAll steps start).2.history = calls →
        ∀ s, (Scenario.Scene.runAll steps start).2.system.Willing s →
          ((Scenario.Scene.runAll steps start).2.system.Down s ↔ Condemned calls s) := by
  refine ⟨fun s => down_iff lawful s, ?_, fun i => (sound_before lawful i).admits, ?_⟩
  · intro i call s here harmless up willing
    exact harmless_up lawful i s call here harmless up willing
  · intro clock setups steps start built history s willing
    have replayed := (Scenario.Scene.recorded_scene clock setups steps start built).system
    rw [history] at replayed
    rw [replayed] at willing ⊢
    exact down_iff lawful s willing

-- A contender stops twice, starts again and tries a token long gone, and all is well. Then it is removed
-- at a service where it was never registered, and that one goes down.
def trespass : List Call :=
  let near : Contender := ⟨1, 0, "near", 1⟩
  [.launch {}, .launch {}, .createContender 0 "near", .start (.contender near) 0, .remove 0 (.contender near),
    .remove 0 (.contender near), .start (.contender near) 0,
    .confirm near (.minted 1) "west" ⟨⟨2024, 5, 1⟩, 43200, 0⟩, .remove 1 (.contender near)]

def parlour : Scenario.Scene := Scenario.Scene.addService {} ⟨.parallel, true⟩ (Plan.ofText .accept "")

def clumsy : List Scenario.Step :=
  [.register 0 "clumsy" "clumsy" { onGrant := [[.fail (.returned "no quorum" [])]] }]

def clumsyCalls : List Call :=
  [.launch (Plan.ofText .accept ""), .createContender 0 "clumsy", .start (.contender ⟨1, 0, "clumsy", 1⟩) 0]

theorem clumsy_end : ∃ w, (Scenario.Scene.runAll clumsy parlour).2 = w ∧ w.history = clumsyCalls ∧
    w.system.Willing 0 ∧ w.events = [("clumsy", .grant (.minted 1)),
      ("clumsy", .error (.callback "grant_leadership" "no quorum" []))] := by
  let v := (Scenario.Scene.performAll clumsy { parlour with notes := [] }).2
  let w := (v.turn?).getD v
  have turned : v.turn? = some w := rfl
  have still : w.turn? = none := rfl
  have ended : (Scenario.Scene.runAll clumsy parlour).2 = v.rest := rfl
  have accepted : ∀ a ∈ w.system.ledger.attempts, a.service = 0 → a.Accepted := by decide
  rw [ended, Scenario.Scene.rest_of_some turned, Scenario.Scene.rest_of_none still]
  exact ⟨w, rfl, rfl, accepted, rfl⟩

theorem trespass_down :
    (Lawful {} trespass ∧ (run {} trespass).Willing 0 ∧ (run {} trespass).Down 1 ∧ ¬ Condemned trespass 0) ∧
      ¬ (Scenario.Scene.runAll clumsy parlour).2.system.Down 0 := by
  have lawful : Lawful {} trespass := by decide
  have willing (s : Nat) : (run {} trespass).Willing s := by
    have accepted : ∀ a ∈ (run {} trespass).ledger.attempts, a.Accepted := by decide
    exact fun a member _ => accepted a member
  obtain ⟨down, _⟩ := down_exactly_on_misuse trespass lawful
  have up : (run {} trespass).Up 0 := ⟨_, rfl, rfl⟩
  refine ⟨⟨lawful, willing 0, ?_, fun condemned => up.not_down ((down 0 (willing 0)).mpr condemned)⟩, ?_⟩
  · exact (down 1 (willing 1)).mpr ⟨8, _, rfl, ⟨_, rfl, rfl⟩, .strange _ (by decide) rfl⟩
  · obtain ⟨w, ended, history, accepting, _⟩ := clumsy_end
    have scenes := (down_exactly_on_misuse clumsyCalls (by decide)).2.2.2
    have scene := scenes (fun _ => .epoch) [.direct .parallel none] clumsy parlour rfl
    rw [ended] at scene ⊢
    rw [scene history 0 accepting]
    rintro ⟨i, call, here, _, condemns⟩
    match i, here with
    | 0, here | 1, here =>
      cases here
      cases condemns
    | 2, here =>
      cases here
      cases condemns with
      | twice h party home running => cases running

end System
end Leadership
