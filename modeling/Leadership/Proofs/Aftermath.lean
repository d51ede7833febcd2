import Leadership.Proofs.Farewell

set_option autoImplicit false

namespace Leadership

inductive Call.Refusal (s : Nat) : Call → Answer → List Note → Prop
  | createContender (component : String) :
      Refusal s (.createContender s component) (.fault .alreadyShutdown) []
  | createListener : Refusal s (.createListener s) (.fault .alreadyShutdown) []
  | start (h : Handle) (party : Nat) (home : h.home = s) :
      Refusal s (.start h party) (.fault .alreadyShutdown) []
  | remove (h : Handle) : Refusal s (.remove s h) .done []
  | confirm (c : Contender) (token : Fence) (address : String) (now : Instant) (home : c.home = s) :
      Refusal s (.confirm c token address now) (.completion .done) [.inactive c.label]
  | grant : Refusal s (.grant s) (.fault .alreadyShutdown) []
  | revoke : Refusal s (.revoke s) (.fault .alreadyShutdown) []
  | shutDown (cause : Fault) : Refusal s (.shutDown s cause) .done []

namespace Desk
variable (d : Desk) (down : d.down = true)
include down

theorem startContender_down (c : Contender) (party : Nat) :
    d.startContender c party = (.error .alreadyShutdown, d) := by
  rw [startContender, if_pos down]

theorem startListener_down (l : Listener) (party : Nat) :
    d.startListener l party = (.error .alreadyShutdown, d) := by
  rw [startListener, if_pos down]

theorem removeContender_down (c : Contender) : d.removeContender c = d := by
  rw [removeContender, if_pos (.inr down)]

theorem removeListener_down (l : Listener) : d.removeListener l = d := by
  rw [removeListener, if_pos (.inr down)]

theorem confirm_down (c : Contender) (token : Fence) (address : String) (now : Instant) :
    d.confirm c token address now = (.done, d.note (.inactive c.label)) := by
  rw [confirm, if_pos (.inr down)]

theorem grant_down : d.grant = (.error .alreadyShutdown, d) := by
  rw [grant, if_pos down]

theorem revoke_down : d.revoke = (.error .alreadyShutdown, d) := by
  rw [revoke, if_pos down]

theorem shutDown_again (cause : Fault) : d.shutDown cause = d := by
  rw [shutDown, if_pos down]

end Desk

namespace System
variable {sys : System} {call : Call} {calls : List Call}

def noting (sys : System) (notes : List Note) : System := { sys with ledger := { sys.ledger with notes := notes } }

-- All that is there of a service which is down: no member, no leader and no token, and no flag of anybody
-- who ever registered with it. The plan is its executor's.
structure Over (sys : System) (s : Nat) : Prop where
  service : ∃ plan, sys.services[s]? = some { down := true, plan := plan }
  published : sys.published s = none
  flags : ∀ h ∈ sys.enrolled, h.home = s → sys.ledger.active h.id = false ∧ sys.ledger.leading h.id = false
  leadership : ∀ (c : Contender) token, c.home = s → sys.hasLeadership c token = false

def registered (sys : System) (s : Nat) : List Handle := sys.enrolled.filter fun h => h.home == s

def unitsOf (sys : System) (s : Nat) : List Attempt := sys.ledger.attempts.filter fun a => a.service == s

theorem store_same (s : Nat) (v : Service) (found : sys.services[s]? = some v) :
    sys.store s (sys.desk s v) = sys := by
  obtain ⟨within, rfl⟩ := List.getElem?_eq_some_iff.mp found
  have kept : sys.services.set s sys.services[s] = sys.services := List.set_getElem_self within
  simp only [store, desk, kept]

theorem store_noted (s : Nat) (v : Service) (found : sys.cleared.services[s]? = some v) (n : Note) :
    sys.cleared.store s ((sys.cleared.desk s v).note n) = sys.noting [n] := by
  obtain ⟨within, rfl⟩ := List.getElem?_eq_some_iff.mp found
  have kept : sys.cleared.services.set s sys.cleared.services[s] = sys.cleared.services := List.set_getElem_self within
  simp only [store, desk, Desk.note, kept]
  rfl

theorem enroll_refused (s : Nat) (v : Service) (found : sys.services[s]? = some v) (down : v.down = true)
    (make : Nat → Handle) : sys.enroll s make = (.fault .alreadyShutdown, sys) := by
  simp only [enroll, found, down, if_true]

theorem visit_idle (s : Nat) (v : Service) (found : sys.services[s]? = some v) (work : Desk → Answer × Desk)
    (answer : Answer) (idle : work (sys.desk s v) = (answer, sys.desk s v)) :
    sys.visit s work = (answer, sys) := by
  simp only [visit, found, idle, store_same s v found]

theorem act_refused (s : Nat) (down : sys.Down s) (answer : Answer) (notes : List Note)
    (refusal : call.Refusal s answer notes) : sys.apply call = (answer, sys.noting notes) := by
  obtain ⟨v, found, down⟩ := down
  have here : sys.cleared.services[s]? = some v := found
  have closed : (sys.cleared.desk s v).down = true := down
  have acted : sys.apply call = sys.cleared.act call := rfl
  rw [acted]
  cases refusal with
  | createContender component =>
    rw [act]
    exact enroll_refused s v here down _
  | createListener =>
    rw [act]
    exact enroll_refused s v here down _
  | start h party home =>
    subst home
    cases h with
    | contender c =>
      rw [act]
      exact visit_idle c.home v here _ _ (by rw [Desk.startContender_down (sys.cleared.desk c.home v) down, ofUnit])
    | listener l =>
      rw [act]
      exact visit_idle l.home v here _ _ (by rw [Desk.startListener_down (sys.cleared.desk l.home v) down, ofUnit])
  | remove h =>
    cases h with
    | contender c =>
      rw [act]
      exact visit_idle s v here _ _ (by rw [Desk.removeContender_down _ closed])
    | listener l =>
      rw [act]
      exact visit_idle s v here _ _ (by rw [Desk.removeListener_down _ closed])
  | confirm c token address now home =>
    subst home
    simp only [act, visit, here, Desk.confirm_down _ closed, store_noted c.home v here]
  | grant =>
    rw [act]
    exact visit_idle s v here _ _ (by rw [Desk.grant_down _ closed, ofCompletion])
  | revoke =>
    rw [act]
    exact visit_idle s v here _ _ (by rw [Desk.revoke_down _ closed, ofCompletion])
  | shutDown cause =>
    rw [act]
    exact visit_idle s v here _ _ (by rw [Desk.shutDown_again _ closed])

theorem Sound.over (sound : sys.Sound) (s : Nat) (down : sys.Down s) : sys.Over s := by
  obtain ⟨v, found, down⟩ := down
  have desk := sound.desks s v found
  obtain ⟨slot, contenders, listeners⟩ := desk.down down
  have published : v.published = none := by
    have coherent := desk.published
    rw [slot] at coherent
    exact coherent
  have empty : v = { down := true, plan := v.plan } := by
    cases v
    cases slot
    cases contenders
    cases listeners
    cases published
    cases down
    rfl
  have unread : sys.published s = none := by
    rw [System.published, found]
    exact published
  refine ⟨⟨v.plan, empty ▸ found⟩, unread, ?_, ?_⟩
  · intro h known home
    subst home
    have inactive := sound.nobody_active h known v found down
    refine ⟨inactive, Bool.eq_false_iff.mpr fun leads => ?_⟩
    have holder := (sound.leading_iff h known v found).mp leads
    have vacant : v.slot = {} := slot
    rw [vacant] at holder
    rcases holder with proposed | confirmed
    · cases proposed
    · cases confirmed
  · intro c token home
    rw [hasLeadership, home, unread]
    exact Bool.and_false _

theorem enroll_registered (s t : Nat) (down : sys.Down t) (make : Nat → Handle) (home : ∀ id, (make id).home = s) :
    (sys.enroll s make).2.registered t = sys.registered t := by
  cases found : sys.services[s]? with
  | none => simp only [enroll, found]
  | some v =>
    cases closed : v.down with
    | true => rw [enroll_refused s v found closed]
    | false =>
      have other : s ≠ t := by
        rintro rfl
        exact Up.not_down ⟨v, found, closed⟩ down
      simp [enroll, found, closed, registered, List.filter_append, home, other]

theorem visit_registered (s t : Nat) (work : Desk → Answer × Desk) :
    (sys.visit s work).2.registered t = sys.registered t := by
  cases found : sys.services[s]? with
  | none => rw [visit, found]
  | some v =>
    rw [visit, found]
    rfl

theorem act_registered (t : Nat) (down : sys.Down t) : (sys.act call).2.registered t = sys.registered t := by
  cases call with
  | launch => rfl
  | createContender s component => exact enroll_registered s t down _ fun _ => rfl
  | createListener s => exact enroll_registered s t down _ fun _ => rfl
  | start h party => cases h <;> exact visit_registered _ t _
  | remove s h => cases h <;> exact visit_registered _ t _
  | confirm | grant | revoke | shutDown | replan => exact visit_registered _ t _

theorem registered_succ (s j : Nat) (down : (before calls j).Down s) :
    (before calls (j + 1)).registered s = (before calls j).registered s := by
  cases here : calls[j]? with
  | none => rw [before_end calls j here]
  | some call =>
    rw [before_succ calls j call here]
    exact act_registered s down

theorem unitsOf_succ (lawful : Lawful {} calls) (s j : Nat) (down : (before calls j).Down s) :
    (before calls (j + 1)).unitsOf s = (before calls j).unitsOf s := by
  have silent : (submitted calls j).filter (fun a => a.service == s) = [] := by
    refine List.filter_eq_nil_iff.mpr fun a member own => ?_
    have up := up_of_submitted lawful j a member
    rw [eq_of_beq own] at up
    exact up.not_down down
  rw [unitsOf, attempts_succ lawful j, List.filter_append, silent, List.append_nil]
  rfl

theorem kept_since (lawful : Lawful {} calls) (s i j : Nat) (within : i ≤ j) (down : (before calls i).Down s) :
    (before calls j).registered s = (before calls i).registered s ∧
      (before calls j).unitsOf s = (before calls i).unitsOf s := by
  induction within with
  | refl => exact ⟨rfl, rfl⟩
  | @step j within ih =>
    have still := down_later lawful s i j within down
    exact ⟨(registered_succ s j still).trans ih.1, (unitsOf_succ lawful s j still).trans ih.2⟩

end System

theorem Scenario.Scene.join_refused (w : Scene) (as : String) (scripts : Scripts Step) (c : Call) (f : Fault)
    (refused : w.system.apply c = (.fault f, w.system.noting [])) :
    (w.join as scripts c).1 = .fault f ∧ (w.join as scripts c).2.system = w.system.noting [] ∧
      (w.join as scripts c).2.handles = w.handles := by
  have answered : ((w.addParty as scripts).call c).1 = .fault f := congrArg Prod.fst refused
  have system := (call_system (w.addParty as scripts) c).trans (congrArg Prod.snd refused)
  have handles := call_handles (w.addParty as scripts) c
  cases called : (w.addParty as scripts).call c with
  | mk a v =>
    rw [called] at answered system handles
    cases answered
    simp only [join, called]
    exact ⟨rfl, system, handles⟩

namespace System
variable {calls : List Call}

-- Whatever is called after a service has gone down, by whom and however often. The last part is about
-- registering, which takes two calls.
theorem shutdown_absorbing (calls : List Call) (lawful : Lawful {} calls) (s i : Nat)
    (down : (before calls i).Down s) (j : Nat) (within : i ≤ j) :
    (before calls j).Over s ∧ (before calls j).registered s = (before calls i).registered s ∧
      (before calls j).unitsOf s = (before calls i).unitsOf s ∧
      (∀ call answer notes, Call.Refusal s call answer notes →
        (before calls j).apply call = (answer, (before calls j).noting notes)) ∧
      ∀ (w : Scenario.Scene) (door : Nat), w.system = before calls j → w.doors[door]? = some s →
        ∀ step, (∃ component as scripts, step = .register door component as scripts) ∨
            (∃ as scripts, step = .listen door as scripts) →
          (w.perform step).1 = .fault .alreadyShutdown ∧
            (w.perform step).2.system = (before calls j).noting [] ∧ (w.perform step).2.handles = w.handles := by
  have still := down_later lawful s i j within down
  obtain ⟨registered, units⟩ := kept_since lawful s i j within down
  have refused (call : Call) (answer : Answer) (notes : List Note) (refusal : call.Refusal s answer notes) :=
    act_refused s still answer notes refusal
  refine ⟨(sound_before lawful j).over s still, registered, units, refused, ?_⟩
  intro w door current opened step registers
  rw [← current] at refused ⊢
  rcases registers with ⟨component, as, scripts, rfl⟩ | ⟨as, scripts, rfl⟩
  · simp only [Scenario.Scene.perform, Scenario.Scene.withService, opened]
    exact w.join_refused as scripts _ _ (refused _ _ _ (.createContender component))
  · simp only [Scenario.Scene.perform, Scenario.Scene.withService, opened]
    exact w.join_refused as scripts _ _ (refused _ _ _ .createListener)

-- One of two services is shut down while its contender leads. Its executor recovers, its contender tries to
-- go on, and the other service's active contender is taken to it.
def epilogue : List Call :=
  let near : Contender := ⟨1, 0, "near", 1⟩
  let far : Contender := ⟨2, 1, "far", 2⟩
  [.launch ⟨[], .discard⟩, .launch {}, .createContender 0 "near", .createContender 1 "far",
    .start (.contender near) 0, .start (.contender far) 1, .shutDown 0 .serviceShutdown, .replan 0 {},
    .start (.contender near) 0, .confirm near (.minted 1) "west" ⟨⟨2024, 5, 1⟩, 43200, 0⟩,
    .createListener 1, .remove 0 (.contender far)]

theorem epilogue_absorbed :
    Lawful {} epilogue ∧ (before epilogue 7).Down 0 ∧ (before epilogue 12).Over 0 ∧
      (before epilogue 12).unitsOf 0 = (before epilogue 7).unitsOf 0 ∧
      (before epilogue 11).apply (.remove 0 (.contender ⟨2, 1, "far", 2⟩)) =
        (.done, (before epilogue 11).noting []) ∧
      (before epilogue 12).hasLeadership ⟨2, 1, "far", 2⟩ (.minted 2) = true := by
  have lawful : Lawful {} epilogue := by decide
  have down : (before epilogue 7).Down 0 := ⟨_, rfl, rfl⟩
  obtain ⟨_, _, _, refused, _⟩ := shutdown_absorbing epilogue lawful 0 7 down 11 (by decide)
  obtain ⟨ended, _, units, _, _⟩ := shutdown_absorbing epilogue lawful 0 7 down 12 (by decide)
  exact ⟨lawful, down, ended, units, refused _ _ _ (.remove (.contender ⟨2, 1, "far", 2⟩)), by decide⟩

end System
end Leadership
