import Leadership.Executor.Floor
import Leadership.Executor.Kind
import Leadership.Scenario.Step

set_option autoImplicit false

namespace Leadership.Scenario

structure Party where
  name : String
  scripts : Scripts Step

inductive Item where
  | duty (d : Duty)
  | resume (callback : Callback) (rest : List (Action Step))
  | proceed (callback : Callback) (rest : List (Action Step))

structure Routine where
  unit : Nat
  party : Nat
  agenda : List Item

structure Host where
  executor : Executor
  accessible : Bool := true
deriving DecidableEq

-- A completion under a name. Once waited for, it can be waited for again, but not be merged.
structure Kept where
  completion : Completion
  awaited : Bool := false
deriving DecidableEq

structure Scene where
  system : System := {}
  hosts : List Host := []
  floor : Floor Routine := {}
  parties : List Party := []
  fates : List (Nat × Completion.Fate) := []
  events : List (String × Event) := []
  notes : List Note := []
  handles : List (String × Handle) := []
  kept : List (String × Kept) := []
  doors : List Nat := []
  grants : List (String × Fence) := []
  calls : List (Call × Answer) := []
  -- What the time is when so many calls were made.
  clock : Nat → Instant := fun _ => .epoch

def rebind {α : Type} (name : String) (a : α) (l : List (String × α)) : List (String × α) :=
  (name, a) :: l.filter fun p => p.1 != name

def unbind {α : Type} (name : String) (l : List (String × α)) : List (String × α) :=
  l.filter fun p => p.1 != name

namespace Scene

def fate (w : Scene) (unit : Nat) : Option Completion.Fate := w.fates.lookup unit

def settle (w : Scene) (unit : Nat) (f : Completion.Fate) : Scene :=
  { w with fates := if (w.fate unit).isSome then w.fates else (unit, f) :: w.fates }

def note (w : Scene) (n : Note) : Scene := { w with notes := w.notes ++ [n] }

def record (w : Scene) (name : String) (e : Event) : Scene :=
  { w with events := w.events ++ [(name, e)] }

def partyName (w : Scene) (party : Nat) : String :=
  match w.parties[party]? with
  | some p => p.name
  | none => ""

def addParty (w : Scene) (name : String) (scripts : Scripts Step) : Scene :=
  { w with parties := w.parties ++ [⟨name, scripts⟩], floor := w.floor.makeGate name }

/-- What becomes of a submission: an accepted unit goes where its executor keeps units, a discarded
one is dropped at once. -/
def dispatch (w : Scene) (attempt : Attempt × Nat) : Scene :=
  let (a, unit) := attempt
  let routine : Routine := ⟨unit, a.work.party, a.work.duties.map .duty⟩
  match a.verdict with
  | .reject _ => w
  | .discard => w.settle unit .dropped
  | .accept =>
    match w.hosts[a.service]? with
    | some ⟨.serial, _⟩ => { w with floor := w.floor.line a.service routine }
    | some ⟨.manual, _⟩ => { w with floor := w.floor.shelve a.service routine }
    | _ => { w with floor := w.floor.spawn routine }

def call (w : Scene) (c : Call) : Answer × Scene :=
  let before := w.system.ledger.attempts.length
  let (answer, system) := w.system.apply c
  let fresh := system.ledger.attempts.drop before
  let w := { w with
    system := system
    notes := w.notes ++ system.ledger.notes
    calls := w.calls ++ [(c, answer)] }
  (answer, (fresh.zipIdx before).foldl dispatch w)

end Scene
end Leadership.Scenario
