set_option autoImplicit false

namespace Leadership

structure Completion where
  units : List Nat := []
deriving DecidableEq, Repr

namespace Completion

def done : Completion := {}

def unit (n : Nat) : Completion := ⟨[n]⟩

def merge (a b : Completion) : Completion := ⟨a.units ++ b.units⟩

def size (c : Completion) : Nat := c.units.length

def isEmpty (c : Completion) : Bool := c.units.isEmpty

inductive Status where
  | pending
  | ok
  | dropped
deriving DecidableEq, Repr

-- What became of a unit; one that was neither finished nor dropped has no fate yet.
inductive Fate where
  | finished
  | dropped
deriving DecidableEq, Repr

def status (fate : Nat → Option Fate) (c : Completion) : Status :=
  if c.units.any fun n => (fate n).isNone then .pending
  else if c.units.any fun n => fate n == some .dropped then .dropped
  else .ok

end Completion

end Leadership
