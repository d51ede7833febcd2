import Leadership.Fence
import Leadership.Instant

set_option autoImplicit false

namespace Leadership

structure Slot where
  proposed : Option Nat := none
  confirmed : Option Nat := none
  token : Option Fence := none
  address : Option String := none
  since : Option Instant := none
deriving DecidableEq

namespace Slot

def empty : Slot := {}

def holder? (s : Slot) : Option Nat := s.confirmed.or s.proposed

def leader? (s : Slot) : Option (Leader Fence) :=
  match s.confirmed, s.address, s.token with
  | some _, some address, some token => some ⟨address, token⟩
  | _, _, _ => none

end Slot
end Leadership
