import Leadership.Proofs.Change

set_option autoImplicit false

namespace Leadership.Scenario

structure Turn where
  routine : Routine
  worker : Option Nat
  start : Scene

namespace Turn

def ran (t : Turn) : Pause Routine × Scene :=
  Scene.runAgenda t.routine.unit t.routine.party t.worker t.routine.agenda t.start

def finish (t : Turn) : Scene := { t.ran.2 with floor := t.ran.2.floor.conclude t.worker t.ran.1 }

def events (t : Turn) : List (String × Event) := t.ran.2.events.drop t.start.events.length

end Turn

def Scene.turn (w : Scene) (job : Job Routine) (floor : Floor Routine) : Turn :=
  ⟨job.routine, job.worker, { w with floor := floor }⟩

/-- The scenes that can be come to, with the turns taken on the way. Between two turns the units on the floor
may change places, any of them may be lost, and what was said so far may be put on record. -/
inductive Staged : Scene → List Turn → Prop
  | empty (clock : Nat → Instant) : Staged { clock := clock } []
  | launch (w : Scene) (ts : List Turn) (staged : Staged w ts) (host : Host) (plan : Plan) :
      Staged (w.addService host plan) ts
  | perform (w : Scene) (ts : List Turn) (staged : Staged w ts) (s : Step) : Staged (w.perform s).2 ts
  | turn (w : Scene) (ts : List Turn) (staged : Staged w ts) (job : Job Routine) (floor : Floor Routine)
      (taken : w.floor.take? = some (job, floor)) : Staged (w.turn job floor).finish (ts ++ [w.turn job floor])
  | arrange (w : Scene) (ts : List Turn) (staged : Staged w ts) (floor : Floor Routine)
      (same : floor.holds = w.floor.holds) : Staged { w with floor := floor } ts
  | lose (w : Scene) (ts : List Turn) (staged : Staged w ts) (r : Routine) (floor : Floor Routine)
      (taken : w.floor.holds = r ::ₘ floor.holds) : Staged (Scene.settle { w with floor := floor } r.unit .dropped) ts
  | report (w : Scene) (ts : List Turn) (staged : Staged w ts) : Staged { w with events := [], notes := [] } ts

namespace Scene
variable {v w : Scene} {ts : List Turn}

theorem recorded_staged (staged : Staged w ts) : w.Recorded := by
  induction staged with
  | empty clock => exact recorded_start clock
  | launch w ts _ host plan ih => exact (recorded_call w ih (.launch plan) trivial).beside ⟨rfl, rfl, rfl⟩
  | perform w ts _ s ih => exact recorded_perform w ih s
  | turn w ts _ job floor taken ih =>
    have start : Recorded { w with floor := floor } := ih.beside ⟨rfl, rfl, rfl⟩
    have ran := recorded_runAgenda job.routine.unit job.routine.party job.worker job.routine.agenda _ start
    exact ran.beside ⟨rfl, rfl, rfl⟩
  | arrange w ts _ floor same ih => exact ih.beside ⟨rfl, rfl, rfl⟩
  | lose w ts _ r floor taken ih => exact ih.beside ⟨rfl, rfl, rfl⟩
  | report w ts _ ih => exact ih.beside ⟨rfl, rfl, rfl⟩

theorem staged_performAll (staged : Staged w ts) (ss : List Step) : Staged (performAll ss w).2 ts := by
  induction ss generalizing w with
  | nil => exact staged
  | cons s ss ih => exact ih (.perform w ts staged s)

theorem turn_of_take {job : Job Routine} {floor : Floor Routine} (taken : w.floor.take? = some (job, floor)) :
    w.turn? = some (w.turn job floor).finish := by
  rw [turn?, taken]
  rfl

theorem turn_of_idle (idle : w.floor.take? = none) : w.turn? = none := by
  rw [turn?, idle]

theorem turn_cases (next : v.turn? = some w) :
    ∃ job floor, v.floor.take? = some (job, floor) ∧ w = (v.turn job floor).finish := by
  cases taken : v.floor.take? with
  | none =>
    rw [turn_of_idle taken] at next
    cases next
  | some front =>
    obtain ⟨job, floor⟩ := front
    rw [turn_of_take taken] at next
    cases next
    exact ⟨job, floor, rfl, rfl⟩

theorem staged_turn (staged : Staged v ts) (next : v.turn? = some w) : ∃ us, Staged w (ts ++ us) := by
  obtain ⟨job, floor, taken, rfl⟩ := turn_cases next
  exact ⟨_, .turn v ts staged job floor taken⟩

end Scene
end Leadership.Scenario
