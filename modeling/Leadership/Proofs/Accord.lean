import Leadership.Proofs.Brisk
import Leadership.Proofs.Unison

set_option autoImplicit false

namespace Leadership
namespace Floor
variable {ρ : Type} {f g : Floor ρ} {job : Job ρ}

theorem Plain.take (plain : f.Plain) (taken : f.take? = some (job, g)) : g.Plain ∧ job.worker = none := by
  obtain ⟨front, rest⟩ := take_cases taken
  constructor
  · rw [rest]
    constructor
    · intro j listed
      exact plain.tasks j (front ▸ List.mem_cons_of_mem job listed)
    · exact plain.parked
    · exact plain.shelf
  · exact plain.tasks job (front ▸ List.mem_cons_self)

-- The worker has picked up the first unit before its turn comes, and the others are behind it.
theorem lined_take (taken : f.take? = some (job, g)) :
    (f.lined false).take? = some (⟨job.routine, some 0⟩, g.lined true) := by
  obtain ⟨front, rest⟩ := take_cases taken
  rw [rest]
  simp [lined, take?, front]

theorem lined_idle (idle : f.take? = none) : (f.lined false).take? = none := by
  cases waiting : f.queue with
  | nil => simp [lined, take?, waiting]
  | cons job queue =>
    rw [take?, waiting] at idle
    cases idle

end Floor

namespace Scenario

def Report.bare (r : Report) : Report := { r with notes := [] }

theorem Unison.fate {accessible : Bool} {v w : Scene} (unison : Unison accessible false v w) : w.fate = v.fate := by
  obtain ⟨_, _, _, _, rfl⟩ := unison
  rfl

theorem Unison.events {accessible : Bool} {v w : Scene} (unison : Unison accessible false v w) :
    w.events = v.events := by
  obtain ⟨_, _, _, _, rfl⟩ := unison
  rfl

namespace Scene
variable {accessible : Bool} {v w : Scene} {job : Job Routine} {floor : Floor Routine}

theorem finish_of_ends {t : Turn} (ends : t.Ends) :
    t.finish = { t.ran.2 with floor := t.ran.2.floor.conclude t.worker .ended } := by
  rw [Turn.finish, Floor.conclude_over _ t.worker ends]

theorem unison_advance (unison : Unison accessible true v w) :
    Unison accessible false v { w with floor := w.floor.advance 0 } := by
  obtain ⟨host, single, plain, notes, rfl⟩ := unison
  exact ⟨host, single, plain, notes, by rw [Floor.lined_advance]⟩

theorem unison_turn (unison : Unison accessible false v w) (recorded : v.Recorded)
    (taken : v.floor.take? = some (job, floor)) (ends : (v.turn job floor).Ends) :
    ∃ next, w.turn? = some next ∧ Unison accessible false (v.turn job floor).finish next := by
  obtain ⟨plain, task⟩ := unison.plain.take taken
  have front : w.floor.take? = some (⟨job.routine, some 0⟩, floor.lined true) := by
    obtain ⟨_, _, _, _, rfl⟩ := unison
    exact Floor.lined_take taken
  have start : Unison accessible true { v with floor := floor } { w with floor := floor.lined true } := by
    obtain ⟨host, single, _, notes, rfl⟩ := unison
    exact ⟨host, single, plain, notes, rfl⟩
  obtain ⟨r, worker⟩ := job
  cases task
  obtain ⟨same, after⟩ :
      Level accessible true (v.turn ⟨r, none⟩ floor).ran (w.turn ⟨r, some 0⟩ (floor.lined true)).ran :=
    level_runAgenda r.unit r.party r.agenda start (recorded.beside ⟨rfl, rfl, rfl⟩)
  have ends' : (w.turn ⟨r, some 0⟩ (floor.lined true)).Ends := (congrArg Pause.rest? same).trans ends
  have next := turn_of_take front
  rw [finish_of_ends ends'] at next
  rw [finish_of_ends ends]
  exact ⟨_, next, unison_advance after⟩

theorem unison_rest (smooth : Smooth v) (unison : Unison accessible false v w) (recorded : v.Recorded) :
    Unison accessible false v.rest w.rest := by
  induction smooth generalizing w with
  | rested v idle =>
    have resting : w.floor.take? = none := by
      obtain ⟨_, _, _, _, rfl⟩ := unison
      exact Floor.lined_idle idle
    rw [rest_of_none (turn_of_idle idle), rest_of_none (turn_of_idle resting)]
    exact unison
  | turn v job floor taken ends _ ih =>
    have next := turn_of_take taken
    obtain ⟨_, next', after⟩ := unison_turn unison recorded taken ends
    rw [rest_of_some next, rest_of_some next']
    exact ih after (recorded_turn v _ recorded next)

theorem unison_report (unison : Unison accessible false v w) :
    Unison accessible false { v with events := [], notes := [] } { w with events := [], notes := [] } := by
  obtain ⟨host, single, plain, notes, rfl⟩ := unison
  exact ⟨host, single, plain, [], rfl⟩

theorem unison_views (unison : Unison accessible false v w) : w.views = v.views := by
  obtain ⟨host, _, _, notes, rfl⟩ := unison
  have unqueued (s : Nat) : Scene.view { v with
      hosts := [⟨.serial, accessible⟩], floor := v.floor.lined false, notes := notes } s = v.view s := by
    funext service
    simp only [view, names, host]
    cases s <;> rfl
  simp only [views, unqueued]

theorem level_step (unison : Unison accessible false v w) (recorded : v.Recorded) (s : Step)
    (smooth : Smooth ({ v with events := [], notes := [] }.perform s).2) :
    (w.step s).1.bare = (v.step s).1.bare ∧ Unison accessible false (v.step s).2 (w.step s).2 := by
  have start : Recorded { v with events := [], notes := [] } := recorded.beside ⟨rfl, rfl, rfl⟩
  obtain ⟨result, performed⟩ := level_perform (unison_report unison) start s
  have rested := unison_rest smooth performed (recorded_perform _ start s)
  constructor
  · have views := unison_views rested
    have fate := rested.fate
    have events := rested.events
    simp only [step, Report.bare, result, views, fate, events]
  · exact rested

theorem level_runAll (ss : List Step) (unison : Unison accessible false v w) (recorded : v.Recorded)
    (unsuspended : Unsuspended ss v) :
    (runAll ss w).1.map Report.bare = (runAll ss v).1.map Report.bare ∧
      Unison accessible false (runAll ss v).2 (runAll ss w).2 := by
  induction ss generalizing v w with
  | nil => exact ⟨rfl, unison⟩
  | cons s ss ih =>
    obtain ⟨smooth, later⟩ := unsuspended
    obtain ⟨report, after⟩ := level_step unison recorded s smooth
    obtain ⟨reports, ended⟩ := ih after (recorded_step v recorded s) later
    exact ⟨congrArg₂ List.cons report reports, ended⟩

theorem unison_start (clock : Nat → Instant) (accessible : Bool) (plan : Plan) :
    Unison accessible false (addService { clock := clock } ⟨.parallel, accessible⟩ plan)
      (addService { clock := clock } ⟨.serial, accessible⟩ plan) := by
  constructor
  · rfl
  · rfl
  · constructor
    · intro j listed
      cases listed
    · rfl
    · rfl
  · exact ⟨_, rfl⟩

/-- The reports agree step by step, and after every step the scenes differ in nothing but the executor, the
diagnostics, and where the executor keeps what it has to run. -/
theorem executors_agree (clock : Nat → Instant) (accessible : Bool) (plan : Plan) (steps : List Step)
    (unsuspended : Unsuspended steps (addService { clock := clock } ⟨.parallel, accessible⟩ plan)) :
    let tasks := addService { clock := clock } ⟨.parallel, accessible⟩ plan
    let worker := addService { clock := clock } ⟨.serial, accessible⟩ plan
    (runAll steps worker).1.map Report.bare = (runAll steps tasks).1.map Report.bare ∧
      ∀ n, ∃ floor notes, (runAll (steps.take n) worker).2 =
        { (runAll (steps.take n) tasks).2 with hosts := worker.hosts, floor := floor, notes := notes } := by
  have start := unison_start clock accessible plan
  have recorded : (addService { clock := clock } ⟨.parallel, accessible⟩ plan).Recorded :=
    recorded_staged (.launch _ _ (.empty clock) _ _)
  constructor
  · exact (level_runAll steps start recorded unsuspended).1
  · intro n
    obtain ⟨_, _, _, _, notes, same⟩ := level_runAll (steps.take n) start recorded (unsuspended.take n)
    exact ⟨_, notes, same⟩

def noonOn (n : Nat) : Instant := ⟨⟨2024, 5, 1⟩, 43200 + n, 0⟩

-- A listener whose callbacks panic in one way and then in the other. A contender confirms in the middle of its
-- callback and brings another listener along; the next one returns an error. Then the service goes down.
def rehearsal : List Step :=
  [.listen 0 "ears" { onNotify := [[.burst none], [.fail (.panicked (some "boom"))]] },
    .register 0 "west" "west"
      { onGrant := [[.perform [.confirm "west" "@granted" "http://west" none, .listen 0 "late" {}]]] },
    .register 0 "east" "east" { onGrant := [[.fail (.returned "not now" [])]] },
    .revoke 0 (some "revoked"), .wait "revoked", .shutDown 0 .noRuntime]

theorem rehearsal_agrees :
    let tasks := addService { clock := noonOn } ⟨.parallel, true⟩ {}
    let worker := addService { clock := noonOn } ⟨.serial, true⟩ {}
    Unsuspended rehearsal tasks ∧
      (runAll rehearsal worker).1.map Report.bare = (runAll rehearsal tasks).1.map Report.bare ∧
      ∀ n, ∃ floor notes, (runAll (rehearsal.take n) worker).2 =
        { (runAll (rehearsal.take n) tasks).2 with hosts := worker.hosts, floor := floor, notes := notes } := by
  have unsuspended := unsuspended_of_brisk rehearsal rfl (fluent_start noonOn ⟨.parallel, true⟩ {})
  exact ⟨unsuspended, executors_agree noonOn true {} rehearsal unsuspended⟩

end Scene
end Scenario
end Leadership
