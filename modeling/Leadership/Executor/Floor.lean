set_option autoImplicit false

namespace Leadership

-- A routine to run, and the number of the worker that is at it, if it is not a task of its own.
structure Job (ρ : Type) where
  routine : ρ
  worker : Option Nat := none

inductive Pause (ρ : Type) where
  | ended
  -- It is over as well; whoever runs it goes on.
  | panicked
  | yielded (rest : ρ)
  | closed (gate : String) (rest : ρ)

def Pause.rest? {ρ : Type} : Pause ρ → Option ρ
  | .ended | .panicked => none
  | .yielded rest | .closed _ rest => some rest

structure Floor (ρ : Type) where
  queue : List (Job ρ) := []
  parked : List (String × Job ρ) := []
  busy : List Nat := []
  backlog : List (Nat × ρ) := []
  shelf : List (Nat × ρ) := []
  -- Permits that nobody waited for.
  gates : List (String × Nat) := []

def pluck {α : Type} (p : α → Bool) : List α → Option (α × List α)
  | [] => none
  | a :: as =>
    if p a then some (a, as)
    else (pluck p as).map fun (b, rest) => (b, a :: rest)

def pluckNth {α : Type} (p : α → Bool) : Nat → List α → Option (α × List α)
  | _, [] => none
  | n, a :: as =>
    if p a then
      match n with
      | 0 => some (a, as)
      | n + 1 => (pluckNth p n as).map fun (b, rest) => (b, a :: rest)
    else (pluckNth p n as).map fun (b, rest) => (b, a :: rest)

namespace Floor
variable {ρ : Type}

def spawn (f : Floor ρ) (r : ρ) : Floor ρ := { f with queue := f.queue ++ [⟨r, none⟩] }

/-- A unit for a serial worker: an idle worker queues up with it, a busy one gets to it later. -/
def line (f : Floor ρ) (s : Nat) (r : ρ) : Floor ρ :=
  if s ∈ f.busy then { f with backlog := f.backlog ++ [(s, r)] }
  else { f with busy := s :: f.busy, queue := f.queue ++ [⟨r, some s⟩] }

def shelve (f : Floor ρ) (s : Nat) (r : ρ) : Floor ρ := { f with shelf := f.shelf ++ [(s, r)] }

def takeShelved (f : Floor ρ) (s : Nat) (n : Nat) : Option (ρ × Floor ρ) :=
  (pluckNth (fun u => u.1 == s) n f.shelf).map fun (u, shelf) => (u.2, { f with shelf := shelf })

def shelved (f : Floor ρ) (s : Nat) : Nat := (f.shelf.filter fun u => u.1 == s).length

def hasGate (f : Floor ρ) (gate : String) : Bool := f.gates.any fun g => g.1 == gate

def makeGate (f : Floor ρ) (gate : String) : Floor ρ :=
  if f.hasGate gate then f else { f with gates := f.gates ++ [(gate, 0)] }

def addPermit (gate : String) (gates : List (String × Nat)) : List (String × Nat) :=
  gates.map fun (name, n) => if name = gate then (name, n + 1) else (name, n)

def pass? (f : Floor ρ) (gate : String) : Option (Floor ρ) :=
  match f.gates.find? fun g => g.1 == gate with
  | some (_, _ + 1) => some { f with
      gates := f.gates.map fun (name, n) => if name = gate then (name, n - 1) else (name, n) }
  | _ => none

def release (f : Floor ρ) (gate : String) : Floor ρ :=
  match pluck (fun p => p.1 == gate) f.parked with
  | some ((_, job), parked) => { f with parked := parked, queue := f.queue ++ [job] }
  | none => { f with gates := addPermit gate f.gates }

def take? (f : Floor ρ) : Option (Job ρ × Floor ρ) :=
  match f.queue with
  | [] => none
  | job :: queue => some (job, { f with queue := queue })

/-- A worker whose unit has ended goes on with the next one, or idle. -/
def advance (f : Floor ρ) (s : Nat) : Floor ρ :=
  match pluck (fun u => u.1 == s) f.backlog with
  | some ((_, r), backlog) => { f with backlog := backlog, queue := ⟨r, some s⟩ :: f.queue }
  | none => { f with busy := f.busy.filter (· != s) }

def conclude (f : Floor ρ) (worker : Option Nat) : Pause ρ → Floor ρ
  | .ended | .panicked =>
    match worker with
    | none => f
    | some s => f.advance s
  | .yielded rest => { f with queue := f.queue ++ [⟨rest, worker⟩] }
  | .closed gate rest => { f with parked := f.parked ++ [(gate, ⟨rest, worker⟩)] }

end Floor
end Leadership
