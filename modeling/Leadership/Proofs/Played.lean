import Leadership.Proofs.Entry

set_option autoImplicit false

namespace Leadership.Scenario

/-- The scenes that can be come to if every executor keeps its word, with the turns taken on the way. Which of
the jobs in the queue comes next is left open. -/
inductive Played : Scene → List Turn → Prop
  | empty (clock : Nat → Instant) : Played { clock := clock } []
  | launch (w : Scene) (ts : List Turn) (played : Played w ts) (host : Host) (plan : Plan) :
      Played (w.addService host plan) ts
  | perform (w : Scene) (ts : List Turn) (played : Played w ts) (s : Step) : Played (w.perform s).2 ts
  | turn (w : Scene) (ts : List Turn) (played : Played w ts) (job : Job Routine) (floor : Floor Routine)
      (taken : w.floor.take? = some (job, floor)) : Played (w.turn job floor).finish (ts ++ [w.turn job floor])
  | shuffle (w : Scene) (ts : List Turn) (played : Played w ts) (queue : List (Job Routine))
      (same : queue.Perm w.floor.queue) : Played { w with floor := { w.floor with queue := queue } } ts
  | report (w : Scene) (ts : List Turn) (played : Played w ts) : Played { w with events := [], notes := [] } ts

namespace Scene
variable {v w : Scene} {ts : List Turn}

theorem shuffle_holds (f : Floor Routine) (queue : List (Job Routine)) (same : queue.Perm f.queue) :
    Floor.holds { f with queue := queue } = f.holds := by
  have moved : (queue.map Job.routine : Multiset Routine) = f.queue.map Job.routine :=
    Multiset.coe_eq_coe.mpr (same.map _)
  rw [Floor.holds, Floor.holds, moved]

theorem staged_played (played : Played w ts) : Staged w ts := by
  induction played with
  | empty clock => exact .empty clock
  | launch w ts _ host plan ih => exact .launch w ts ih host plan
  | perform w ts _ s ih => exact .perform w ts ih s
  | turn w ts _ job floor taken ih => exact .turn w ts ih job floor taken
  | shuffle w ts _ queue same ih => exact .arrange w ts ih _ (shuffle_holds w.floor queue same)
  | report w ts _ ih => exact .report w ts ih

theorem played_performAll (ss : List Step) (played : Played w ts) : Played (performAll ss w).2 ts := by
  induction ss generalizing w with
  | nil => exact played
  | cons s ss ih => exact ih (.perform w ts played s)

theorem played_rest (played : Played w ts) : ∃ us, Played w.rest (ts ++ us) := by
  fun_induction rest w generalizing ts with
  | case1 w next => exact ⟨[], (List.append_nil ts).symm ▸ played⟩
  | case2 w v next ih =>
    obtain ⟨job, floor, taken, rfl⟩ := turn_cases next
    obtain ⟨us, rested⟩ := ih (.turn w ts played job floor taken)
    exact ⟨_, List.append_assoc ts _ us ▸ rested⟩

theorem played_runAll (ss : List Step) (played : Played w ts) : ∃ us, Played (runAll ss w).2 (ts ++ us) := by
  induction ss generalizing w ts with
  | nil => exact ⟨[], (List.append_nil ts).symm ▸ played⟩
  | cons s ss ih =>
    obtain ⟨one, rested⟩ := played_rest (.perform _ ts (.report w ts played) s)
    obtain ⟨more, ran⟩ := ih rested
    exact ⟨one ++ more, List.append_assoc ts one more ▸ ran⟩

theorem idle_rest (w : Scene) : w.rest.floor.queue = [] := by
  have none := turn_rest w
  cases waiting : w.rest.floor.queue with
  | nil => rfl
  | cons job queue =>
    rw [turn?, Floor.take?, waiting] at none
    cases none

theorem played_paced (run : Scene × List Turn) (played : Played run.1 run.2) :
    Played (paced run).1 (paced run).2 := by
  cases taken : run.1.floor.take? with
  | none =>
    rw [paced, taken]
    exact played
  | some front =>
    obtain ⟨job, floor⟩ := front
    rw [paced, taken]
    exact .turn run.1 run.2 played job floor taken

theorem setUp_launches (s : Setup) (built : w.setUp s = .ok v) : ∃ host plan, v = w.addService host plan := by
  cases s with
  | direct e plan =>
    cases built
    exact ⟨_, _, rfl⟩
  | configured text =>
    cases read : Settings.ofText text with
    | error f =>
      rw [setUp, read] at built
      cases built
    | ok c =>
      rw [setUp, read] at built
      cases built
      exact ⟨_, _, rfl⟩

theorem played_setUpAll (setups : List Setup) (played : Played w ts) (built : setUpAll setups w = .ok v) :
    Played v ts := by
  induction setups generalizing w with
  | nil =>
    cases built
    exact played
  | cons s ss ih =>
    cases first : w.setUp s with
    | error f =>
      rw [setUpAll, first] at built
      cases built
    | ok u =>
      obtain ⟨host, plan, rfl⟩ := setUp_launches s first
      rw [setUpAll, first] at built
      exact ih (.launch w ts played host plan) built

theorem played_scene (clock : Nat → Instant) (setups : List Setup) (steps : List Step) (start : Scene)
    (built : setUpAll setups { clock := clock } = .ok start) : ∃ ts, Played (runAll steps start).2 ts := by
  obtain ⟨ts, played⟩ := played_runAll steps (played_setUpAll setups (.empty clock) built)
  exact ⟨_, played⟩

theorem addService_rest (w : Scene) (host : Host) (plan : Plan) :
    (w.addService host plan).hosts = w.hosts ++ [host] ∧ (w.addService host plan).floor = w.floor ∧
      (w.addService host plan).system.ledger.attempts = w.system.ledger.attempts := by
  have none : (w.system.apply (.launch plan)).2.ledger.attempts.drop w.system.ledger.attempts.length = [] :=
    List.drop_length
  simp only [addService, call, none, List.zipIdx_nil, List.foldl_nil, true_and]
  rfl

end Scene
end Leadership.Scenario
