set_option autoImplicit false

namespace Leadership

/-- A registration keeps for life the service it was made at and what it is registered as. Two that
agree in all that they hold may still be two: what tells them apart is the object. -/
structure Registration (κ : Type) where
  id : Nat
  home : Nat
  label : κ
  object : Nat
deriving DecidableEq

abbrev Contender := Registration String
abbrev Listener := Registration Unit

structure Member (κ : Type) where
  registration : Registration κ
  party : Nat
deriving DecidableEq

namespace Member
variable {κ : Type}

def id (m : Member κ) : Nat := m.registration.id

end Member

structure Roster (κ : Type) where
  members : List (Member κ) := []
deriving DecidableEq

namespace Roster
variable {κ : Type}

def empty : Roster κ := {}

def get? (r : Roster κ) (id : Nat) : Option (Member κ) := r.members.find? fun m => m.id == id

def size (r : Roster κ) : Nat := r.members.length

def oldest? (r : Roster κ) : Option (Member κ) := r.members.head?

def place (m : Member κ) : List (Member κ) → List (Member κ)
  | [] => [m]
  | n :: ns => if m.id < n.id then m :: n :: ns else n :: place m ns

def add? (r : Roster κ) (m : Member κ) : Option (Roster κ) :=
  match r.get? m.id with
  | some _ => none
  | none => some ⟨place m r.members⟩

/-- Takes out exactly this registration; another one under the same id stays. -/
def remove? (r : Roster κ) (g : Registration κ) : Option (Member κ × Roster κ) :=
  match r.get? g.id with
  | none => none
  | some m =>
    if m.registration.object = g.object then some (m, ⟨r.members.filter fun n => n.id != g.id⟩) else none

def drain (r : Roster κ) : List (Member κ) × Roster κ := (r.members, empty)

end Roster
end Leadership
