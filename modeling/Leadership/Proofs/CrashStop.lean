import Leadership.Proofs.Course
import Leadership.Proofs.Flags
import Leadership.Proofs.Scenes

set_option autoImplicit false

namespace Leadership

namespace Desk
variable {enrolled : List Handle} {call : Call} {d e f : Desk}

theorem mem_fresh (fresh : List Attempt) (grown : e.attempts = d.attempts ++ fresh) (x : Nat) (a : Attempt)
    (beyond : d.attempts.length ≤ x) (present : e.attempts[x]? = some a) : a ∈ fresh := by
  rw [grown, List.getElem?_append_right beyond] at present
  exact List.mem_of_getElem? present

theorem Sent.accepted {works : List Work} (sent : Sent works d e) (x : Nat) (a : Attempt)
    (beyond : d.attempts.length ≤ x) (present : e.attempts[x]? = some a) : a.Accepted := by
  obtain ⟨fresh, grown, _, accepted⟩ := sent
  exact accepted a (mem_fresh fresh grown x a beyond present)

structure Felled (d e : Desk) (x : Nat) (a : Attempt) (why : Fault) : Prop where
  down : e.down = true
  slot : e.slot = {}
  published : e.published = none
  contenders : e.contenders = {}
  listeners : e.listeners = {}
  earlier : ∀ y b, d.attempts.length ≤ y → y < x → e.attempts[y]? = some b → b.Accepted
  later : (e.attempts.drop (x + 1)).map Attempt.work = a.moment.farewells (.fatal why)

theorem crash_felled (why given : Fault) (sound : f.Sound enrolled) (up : f.down = false)
    (broken : Broken given d f) (x : Nat) (a : Attempt) (beyond : d.attempts.length ≤ x)
    (present : (f.fail given).attempts[x]? = some a) (rejected : a.verdict = .reject why)
    (live : ¬ a.work.Farewell) : Felled d (f.fail given) x a why := by
  obtain ⟨fresh, last, grown, accepted, verdict, _, slot, contenders, listeners⟩ := broken
  have noted := sound.alike (note_alike f (.fatal given))
  have closed := shutDown_closed (f.note (.fatal given)) (.fatal given) up noted.contenders_distinct
  obtain ⟨bye, ended, works⟩ := sound.fail_farewells given up
  have whole : (f.fail given).attempts = (d.attempts ++ fresh) ++ last :: bye := by
    rw [ended, grown]
    simp
  -- The units before the last were accepted, and those after it are farewells.
  have place : x = (d.attempts ++ fresh).length ∧ a = last := by
    rw [whole] at present
    rcases Nat.lt_trichotomy x (d.attempts ++ fresh).length with less | same | more
    · rw [List.getElem?_append_left less, List.getElem?_append_right beyond] at present
      exact absurd rejected (accepted a (List.mem_of_getElem? present) why)
    · subst same
      rw [List.getElem?_append_right (Nat.le_refl _), Nat.sub_self] at present
      exact ⟨rfl, (Option.some.inj present).symm⟩
    · have past : (d.attempts ++ fresh ++ [last]).length ≤ x := by
        rw [List.length_append, List.length_singleton]
        exact more
      have told : a ∈ bye := by
        rw [List.append_cons, List.getElem?_append_right past] at present
        exact List.mem_of_getElem? present
      have farewell : a.work ∈ f.farewells (.fatal given) := works ▸ List.mem_map_of_mem told
      exact absurd (Service.farewell_of_mem _ _ a.work farewell) live
  obtain ⟨rfl, rfl⟩ := place
  rw [verdict] at rejected
  cases rejected
  refine ⟨closed.down, closed.slot, closed.published, closed.contenders, closed.listeners, ?_, ?_⟩
  · intro y b from_ less placed
    rw [whole, List.getElem?_append_left less, List.getElem?_append_right from_] at placed
    exact accepted b (List.mem_of_getElem? placed)
  · have rest : (f.fail why).attempts.drop ((d.attempts ++ fresh).length + 1) = bye := by
      rw [whole, List.append_cons]
      exact List.drop_left' (List.length_append.trans (congrArg _ List.length_singleton))
    rw [rest, works, Service.farewells, Service.farewells, slot, contenders, listeners]

theorem course_felled {answer : Answer} (course : Course enrolled call d (answer, e)) (sound : d.Sound enrolled)
    (x : Nat) (a : Attempt) (why : Fault) (beyond : d.attempts.length ≤ x) (present : e.attempts[x]? = some a)
    (rejected : a.verdict = .reject why) (live : ¬ a.work.Farewell) :
    answer = call.setback ∧ Felled d e x a why := by
  cases course with
  | calm _ _ works word calm => exact absurd rejected (calm.sent.accepted x a beyond present why)
  | welcome l party _ asked welcomed => exact absurd rejected (welcomed.sent.accepted x a beyond present why)
  | closed f cause alike kept up =>
    obtain ⟨fresh, grown, works⟩ := (sound.alike alike).shutDown_farewells cause (alike.down.trans up)
    rw [kept] at grown
    have told : a.work ∈ fresh.map Attempt.work := List.mem_map_of_mem (mem_fresh fresh grown x a beyond present)
    rw [works] at told
    exact absurd (Service.farewell_of_mem _ cause a.work told) live
  | crash given f still up broken =>
    exact ⟨rfl, crash_felled why given still up broken x a beyond present rejected live⟩

end Desk

namespace System
variable {sys : System} {call : Call} {calls : List Call}

theorem absent_polite : Answer.Polite .absent := by
  intro f same
  cases same

theorem enroll_polite (sys : System) (s : Nat) (make : Nat → Handle) : (sys.enroll s make).1.Polite := by
  cases found : sys.services[s]? with
  | none =>
    rw [enroll, found]
    exact absent_polite
  | some v =>
    by_cases down : v.down = true
    · simp only [enroll, found, down, if_true]
      exact Answer.shutdown_polite
    · simp only [enroll, found, down, Bool.false_eq_true, if_false]
      intro f same
      cases same

theorem act_polite (sound : sys.Sound) (held : call.Held sys.enrolled) : (sys.act call).1.Polite := by
  cases reached : call.service? with
  | none =>
    cases call with
    | launch => exact Answer.done_polite
    | createContender s component => exact enroll_polite sys s _
    | createListener s => exact enroll_polite sys s _
    | _ => cases reached
  | some s =>
    cases found : sys.services[s]? with
    | none =>
      rw [visit_missing s reached found]
      exact absent_polite
    | some v =>
      obtain ⟨answer, e, acted, course⟩ := act_course sound held s v reached found
      rw [acted]
      exact Desk.course_polite course

-- A service goes down over a rejected unit within the call that submits it, and says so to everybody
-- who is registered at that moment.
structure Crash (calls : List Call) (i x : Nat) (a : Attempt) (why : Fault) : Prop where
  answered : ∃ call, calls[i]? = some call ∧ call.service? = some a.service ∧
    ((before calls i).apply call).1 = call.setback
  service : ∃ v, (before calls (i + 1)).services[a.service]? = some v ∧ v.down = true ∧ v.slot = {} ∧
    v.published = none ∧ v.contenders = {} ∧ v.listeners = {}
  flags : ∀ h ∈ (before calls (i + 1)).enrolled, h.home = a.service →
    (before calls (i + 1)).ledger.active h.id = false ∧ (before calls (i + 1)).ledger.leading h.id = false
  earlier : ∀ y b, Made calls i y b → y < x → b.Accepted
  later : ((before calls (i + 1)).ledger.attempts.drop (x + 1)).map Attempt.work =
    a.moment.farewells (.fatal why)

theorem Sound.nobody_leads (sound : sys.Sound) (h : Handle) (known : h ∈ sys.enrolled) (v : Service)
    (found : sys.services[h.home]? = some v) (down : v.down = true) : sys.ledger.leading h.id = false := by
  have empty := ((sound.desks h.home v found).down down).1
  have vacant : v.slot = {} := empty
  rw [← Bool.not_eq_true, sound.leading_iff h known v found, vacant]
  simp

theorem made_crash (lawful : Lawful {} calls) (i x : Nat) (a : Attempt) (why : Fault) (made : Made calls i x a)
    (rejected : a.verdict = .reject why) (live : ¬ a.work.Farewell) : Crash calls i x a why := by
  obtain ⟨call, v, _, here, reached, found, _⟩ := visit_of_made lawful i x a made
  obtain ⟨answer, e, applied, stored, course⟩ := call_course lawful i call here a.service v reached found
  have sound := sound_before lawful i
  have later := sound_before lawful (i + 1)
  obtain ⟨beyond, present⟩ := made
  rw [stored] at present
  obtain ⟨answered, felled⟩ :=
    Desk.course_felled course (sound.cleared.desks a.service v found) x a why beyond present rejected live
  have within := (List.getElem?_eq_some_iff.mp found).1
  have service : (before calls (i + 1)).services[a.service]? = some e.toService := by
    rw [stored]
    exact List.getElem?_set_self within
  refine ⟨⟨call, here, reached, ?_⟩, ⟨e.toService, service, felled.down, felled.slot, felled.published,
    felled.contenders, felled.listeners⟩, ?_, ?_, ?_⟩
  · rw [applied]
    exact answered
  · rintro h known home
    rw [← home] at service
    exact ⟨later.nobody_active h known _ service felled.down, later.nobody_leads h known _ service felled.down⟩
  · intro y b ⟨from_, placed⟩ less
    rw [stored] at placed
    exact felled.earlier y b from_ less placed
  · rw [stored]
    exact felled.later

end System

namespace Scenario.Scene

def Rejects (v u : Scene) : Prop :=
  ∃ x a why, v.system.ledger.attempts.length ≤ x ∧ u.system.ledger.attempts[x]? = some a ∧
    a.verdict = .reject why ∧ ¬ a.work.Farewell

theorem join_crash (w : Scene) (recorded : w.Recorded) (name : String) (scripts : Scripts Step) (call : Call)
    (makes : Makes call) (held : call.Held w.system.enrolled) (h : Handle) (v u : Scene) (answer : Answer)
    (created : (w.addParty name scripts).call call = (.handle h, v))
    (started : v.call (.start h w.parties.length) = (answer, u)) (rejects : v.Rejects u) :
    w.join name scripts call = (.fault .alreadyShutdown, u) := by
  obtain ⟨x, a, why, beyond, present, rejected, live⟩ := rejects
  have joined := recorded_addParty w recorded name scripts
  have after := recorded_call (w.addParty name scripts) joined call held
  have known := known_of_answer (w.addParty name scripts) call makes h
  rw [created] at after known
  have told := call_answer v (.start h w.parties.length)
  have history := call_history v (.start h w.parties.length)
  have begun := recorded_call v after (.start h w.parties.length) (known rfl)
  rw [started] at told history begun
  have here : u.history[v.history.length]? = some (.start h w.parties.length) := by
    rw [history, List.getElem?_concat_length]
  have start : System.before u.history v.history.length = v.system := by
    rw [history, System.before_append _ _ _ (Nat.le_refl _), System.before_all, after.system]
  have finish : System.before u.history (v.history.length + 1) = u.system := by
    have length : v.history.length + 1 = u.history.length := by
      rw [history, List.length_append, List.length_singleton]
    rw [length, System.before_all, begun.system]
  have made : System.Made u.history v.history.length x a := by
    rw [System.Made, start, finish]
    exact ⟨beyond, present⟩
  obtain ⟨asked, same, _, back⟩ := (System.made_crash begun.lawful _ x a why made rejected live).answered
  cases here.symm.trans same
  rw [start, ← told] at back
  simp only at back
  simp only [join, created, started, back]
  rfl

end Scenario.Scene

namespace System

-- Whatever unit the executor rejects, the service is down when the call returns, and nothing but
-- farewells has come after that unit. No caller is ever told of another fault, not even one who
-- registers and starts in one go.
theorem rejection_crashes (calls : List Call) (lawful : Lawful {} calls) :
    (∀ i x a why, Made calls i x a → a.verdict = .reject why → ¬ a.work.Farewell → Crash calls i x a why) ∧
      (∀ i call, calls[i]? = some call → ((before calls i).apply call).1.Polite) ∧
      ∀ (w : Scenario.Scene) name scripts call h v u answer, w.Recorded → w.history = calls →
        Scenario.Scene.Makes call → call.Held w.system.enrolled →
        (w.addParty name scripts).call call = (.handle h, v) → v.call (.start h w.parties.length) = (answer, u) →
        v.Rejects u → w.join name scripts call = (.fault .alreadyShutdown, u) := by
  refine ⟨made_crash lawful, ?_, ?_⟩
  · intro i call here
    exact act_polite (sound_before lawful i).cleared (held_of_lawful calls {} lawful i call here)
  · intro w name scripts call h v u answer recorded _ makes held created started rejects
    exact Scenario.Scene.join_crash w recorded name scripts call makes held h v u answer created started rejects

def outage : List Call :=
  let only : Contender := ⟨1, 0, "only", 1⟩
  [.launch ⟨[.accept, .accept], .reject (.executorRejected "executor is closed")⟩,
    .createContender 0 "only", .createListener 0, .createListener 0, .start (.listener ⟨2, 0, (), 2⟩) 0,
    .start (.listener ⟨3, 0, (), 3⟩) 1, .start (.contender only) 2,
    .confirm only (.minted 1) "west" ⟨⟨2024, 5, 1⟩, 43200, 0⟩]

def closedDoor : Scenario.Scene :=
  Scenario.Scene.addService {} ⟨.manual, true⟩ ⟨[], .reject (.executorRejected "executor is closed")⟩

theorem outage_crash :
    (Lawful {} outage ∧ ∃ a, Made outage 7 2 a ∧ a.work = .notify ⟨⟨3, 0, (), 3⟩, 1⟩ (some ⟨"west", .minted 1⟩) ∧
      Crash outage 7 2 a (.executorRejected "executor is closed") ∧
      ((run {} outage).ledger.attempts.drop 3).map Attempt.work =
        [.retire ⟨⟨1, 0, "only", 1⟩, 2⟩ true (.fatal (.executorRejected "executor is closed")),
          .dismiss ⟨⟨2, 0, (), 2⟩, 0⟩ (.fatal (.executorRejected "executor is closed")),
          .dismiss ⟨⟨3, 0, (), 3⟩, 1⟩ (.fatal (.executorRejected "executor is closed"))]) ∧
      (closedDoor.join "only" {} (.createContender 0 "only")).1 = .fault .alreadyShutdown := by
  have lawful : Lawful {} outage := by decide
  obtain ⟨crashes, _, _⟩ := rejection_crashes outage lawful
  have made : Made outage 7 2 _ := ⟨by decide, rfl⟩
  have crash := crashes 7 2 _ (.executorRejected "executor is closed") made rfl id
  refine ⟨⟨lawful, _, made, rfl, crash, crash.later⟩, ?_⟩
  have recorded : closedDoor.Recorded :=
    (Scenario.Scene.recorded_call {} (Scenario.Scene.recorded_start _) (.launch _) trivial).beside ⟨rfl, rfl, rfl⟩
  obtain ⟨_, _, joins⟩ := rejection_crashes closedDoor.history recorded.lawful
  rw [joins closedDoor "only" {} (.createContender 0 "only") (.contender ⟨1, 0, "only", 1⟩) _ _ _ recorded rfl
    (Scenario.Scene.makes_contender 0 "only") trivial rfl rfl ⟨0, _, _, Nat.zero_le 0, rfl, rfl, id⟩]

end System
end Leadership
