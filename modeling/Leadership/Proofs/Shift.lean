import Leadership.Proofs.Line

set_option autoImplicit false

namespace Leadership

structure Poll (ρ : Type) where
  job : Job ρ
  pause : Pause ρ

-- A floor at work: the jobs that have a turn just now, the units that workers were handed, the turns that are over.
structure Shift (ρ τ : Type) where
  floor : Floor ρ := {}
  hands : Multiset (Job ρ) := 0
  handed : List (Nat × ρ) := []
  turns : List τ := []

namespace Floor
variable {ρ : Type} {f g h : Floor ρ} {s : Nat} {running : Multiset ρ} {line : List ρ} {us more : List (Nat × ρ)}

inductive Aside (f : Floor ρ) : Floor ρ → Prop
  | spawn (r : ρ) : Aside f (f.spawn r)
  | shelve (s : Nat) (r : ρ) : Aside f (f.shelve s r)
  | unshelve (s n : Nat) (r : ρ) (g : Floor ρ) (taken : f.takeShelved s n = some (r, g)) : Aside f g
  | gate (name : String) : Aside f (f.makeGate name)
  | pass (name : String) (g : Floor ρ) (passed : f.pass? name = some g) : Aside f g
  | release (name : String) : Aside f (f.release name)
  | shuffle (queue : List (Job ρ)) (same : queue.Perm f.queue) : Aside f { f with queue := queue }

inductive Fills (f : Floor ρ) : List (Nat × ρ) → Floor ρ → Prop
  | refl : Fills f [] f
  | aside (us : List (Nat × ρ)) (g h : Floor ρ) (before : Fills f us g) (aside : g.Aside h) : Fills f us h
  | line (us : List (Nat × ρ)) (g : Floor ρ) (before : Fills f us g) (s : Nat) (r : ρ) :
      Fills f (us ++ [(s, r)]) (g.line s r)

theorem Fills.trans (first : f.Fills us g) (second : g.Fills more h) : f.Fills (us ++ more) h := by
  induction second with
  | refl => exact (List.append_nil us).symm ▸ first
  | aside more g h _ aside ih => exact .aside _ g h ih aside
  | line more g _ s r ih => exact List.append_assoc us more [(s, r)] ▸ .line _ g ih s r

theorem Aside.fills (aside : f.Aside g) : f.Fills [] g := .aside [] f g .refl aside

theorem Aside.works (aside : f.Aside g) (works : f.Works s running line) : g.Works s running line := by
  cases aside with
  | spawn r => exact works_spawn works r
  | shelve t r => exact works_shelf works _
  | unshelve t n r g taken =>
    obtain ⟨shelf, rfl⟩ := takeShelved_rest taken
    exact works_shelf works shelf
  | gate name => exact works_makeGate works name
  | pass name g passed => exact works_pass works name passed
  | release name => exact works_release works name
  | shuffle queue same => exact works_arrange works queue same

theorem Aside.parked (aside : f.Aside g) : ∀ p ∈ g.parked, p ∈ f.parked := by
  intro p waits
  cases aside with
  | spawn | shelve | shuffle => exact waits
  | unshelve t n r g taken =>
    obtain ⟨shelf, rfl⟩ := takeShelved_rest taken
    exact waits
  | gate name => exact makeGate_parked f name ▸ waits
  | pass name g passed => exact pass_parked passed ▸ waits
  | release name => exact release_parked f name p waits

end Floor

namespace Shift
variable {ρ τ : Type}

def unitsOf (w : Shift ρ τ) (s : Nat) : List ρ := (w.handed.filter fun u => u.1 == s).map Prod.snd

def inHand (w : Shift ρ τ) (s : Nat) : Multiset ρ := routinesOf s w.hands

section Turns
variable (unit : ρ → Nat) (poll : τ → Poll ρ) (s : Nat)

def turnsAt (ts : List τ) : List τ := ts.filter fun t => (poll t).job.worker == some s

def turnsOf (n : Nat) (ts : List τ) : List τ := (turnsAt poll s ts).filter fun t => unit (poll t).job.routine == n

def Begun (w : Shift ρ τ) (u : ρ) : Prop :=
  turnsOf unit poll s (unit u) w.turns ≠ [] ∨ ∃ r ∈ w.inHand s, unit r = unit u

def Over (w : Shift ρ τ) (u : ρ) : Prop := ∃ t ∈ turnsOf unit poll s (unit u) w.turns, (poll t).pause.rest? = none

def InProgress (w : Shift ρ τ) (u : ρ) : Prop := Begun unit poll s w u ∧ ¬ Over unit poll s w u

inductive Thread (begun : ρ) : List τ → Option ρ → Prop
  | start : Thread begun [] (some begun)
  | next (ts : List τ) (t : τ) (before : Thread begun ts (some (poll t).job.routine)) :
      Thread begun (ts ++ [t]) (poll t).pause.rest?

/-- One thing that happens at work. Anybody can hand a unit to a worker at any time, also from within a turn, and a
turn ends as its job pleases: the job is done, it panics, or it has more to do. -/
inductive Step (w : Shift ρ τ) : Shift ρ τ → Prop
  | beside (floor : Floor ρ) (aside : w.floor.Aside floor) : Step w { w with floor := floor }
  -- Every unit has a number of its own.
  | hand (s : Nat) (r : ρ) (fresh : ∀ u ∈ w.unitsOf s, unit u ≠ unit r) :
      Step w { w with floor := w.floor.line s r, handed := w.handed ++ [(s, r)] }
  | start (job : Job ρ) (floor : Floor ρ) (taken : w.floor.take? = some (job, floor)) :
      Step w { w with floor := floor, hands := job ::ₘ w.hands }
  | finish (t : τ) (hands : Multiset (Job ρ)) (held : w.hands = (poll t).job ::ₘ hands)
      (same : ∀ rest, (poll t).pause.rest? = some rest → unit rest = unit (poll t).job.routine) :
      Step w { w with
        floor := w.floor.conclude (poll t).job.worker (poll t).pause, hands := hands, turns := w.turns ++ [t] }

abbrev Reached (w : Shift ρ τ) : Prop := Relation.ReflTransGen (Step unit poll) {} w

end Turns

section Lists
variable {unit : ρ → Nat} {poll : τ → Poll ρ} {s n : Nat} {ts : List τ} {t : τ} {u r : ρ} {left : Option ρ}

theorem mem_turnsOf : t ∈ turnsOf unit poll s n ts ↔
    t ∈ ts ∧ (poll t).job.worker = some s ∧ unit (poll t).job.routine = n := by
  simp only [turnsOf, turnsAt, List.mem_filter, beq_iff_eq, and_assoc]

theorem turnsAt_own (worker : (poll t).job.worker = some s) :
    turnsAt poll s (ts ++ [t]) = turnsAt poll s ts ++ [t] := by
  simp [turnsAt, worker]

theorem turnsAt_other (other : (poll t).job.worker ≠ some s) : turnsAt poll s (ts ++ [t]) = turnsAt poll s ts := by
  simp [turnsAt, other]

theorem turnsOf_own (worker : (poll t).job.worker = some s) :
    turnsOf unit poll s (unit (poll t).job.routine) (ts ++ [t]) =
      turnsOf unit poll s (unit (poll t).job.routine) ts ++ [t] := by
  simp [turnsOf, turnsAt_own worker]

theorem turnsOf_other (other : (poll t).job.worker ≠ some s ∨ unit (poll t).job.routine ≠ n) :
    turnsOf unit poll s n (ts ++ [t]) = turnsOf unit poll s n ts := by
  rcases other with worker | routine
  · rw [turnsOf, turnsAt_other worker]
    rfl
  · by_cases worker : (poll t).job.worker = some s
    · simp [turnsOf, turnsAt_own worker, routine]
    · rw [turnsOf, turnsAt_other worker]
      rfl

theorem turnsOf_grown (ts more : List τ) : turnsOf unit poll s n ts <+: turnsOf unit poll s n (ts ++ more) := by
  rw [turnsOf, turnsOf, turnsAt, turnsAt, List.filter_append, List.filter_append]
  exact List.prefix_append _ _

theorem Thread.fresh (thread : Thread poll u [] left) : left = some u := by
  generalize none : ([] : List τ) = ts at thread
  cases thread with
  | start => rfl
  | next ts t before => simp at none

theorem Thread.ended (thread : Thread poll u ts none) : ∃ t ∈ ts, (poll t).pause.rest? = none := by
  generalize done : none = left at thread
  cases thread with
  | start => cases done
  | next ts t before => exact ⟨t, List.mem_append_right ts (List.mem_singleton_self t), rfl⟩

theorem Thread.unended (thread : Thread poll u ts (some r)) : ∀ t ∈ ts, (poll t).pause.rest? ≠ none := by
  generalize more : some r = left at thread
  induction thread generalizing r with
  | start =>
    intro t listed
    cases listed
  | next ts t before ih =>
    intro u listed
    rcases List.mem_append.mp listed with earlier | own
    · exact ih rfl u earlier
    · obtain rfl := List.mem_singleton.mp own
      exact more ▸ Option.some_ne_none r

end Lists

section Hands
variable {unit : ρ → Nat} {poll : τ → Poll ρ} {w : Shift ρ τ} {s : Nat} {us : List (Nat × ρ)} {floor : Floor ρ}

theorem unitsOf_append (w : Shift ρ τ) (floor : Floor ρ) (us : List (Nat × ρ)) (s : Nat) :
    unitsOf { w with floor := floor, handed := w.handed ++ us } s =
      w.unitsOf s ++ (us.filter fun u => u.1 == s).map Prod.snd := by
  rw [unitsOf, List.filter_append, List.map_append]
  rfl

theorem reached_fills (reached : Reached unit poll w) (fills : w.floor.Fills us floor)
    (distinct : ((w.handed ++ us).map fun u => unit u.2).Nodup) :
    Reached unit poll { w with floor := floor, handed := w.handed ++ us } := by
  induction fills with
  | refl => exact (List.append_nil w.handed).symm ▸ reached
  | aside us g h _ aside ih => exact (ih distinct).tail (.beside h aside)
  | line us g _ s r ih =>
    rw [← List.append_assoc, List.map_append, List.nodup_append] at distinct
    obtain ⟨earlier, _, apart⟩ := distinct
    have fresh : ∀ u ∈ unitsOf { w with floor := g, handed := w.handed ++ us } s, unit u ≠ unit r := by
      intro u listed
      obtain ⟨v, member, rfl⟩ := List.mem_map.mp listed
      have there := List.mem_map_of_mem (f := fun u : Nat × ρ => unit u.2) (List.mem_filter.mp member).1
      exact apart _ there _ (List.mem_singleton_self _)
    exact List.append_assoc w.handed us [(s, r)] ▸ (ih earlier).tail (.hand s r fresh)

end Hands
end Shift
end Leadership
