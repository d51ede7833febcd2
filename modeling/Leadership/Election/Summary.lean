import Leadership.Election.Desk

set_option autoImplicit false

namespace Leadership

structure Summary (τ : Type) where
  contenders : Nat
  listeners : Nat
  proposed : Option String
  confirmed : Option String
  token : Option τ
  address : Option String
  confirmedAt : Option Instant
  shutdown : Bool
deriving DecidableEq

namespace Service

def label? (v : Service) (id : Option Nat) : Option String :=
  id.bind fun id => (v.contenders.get? id).map fun m => m.registration.label

def summary (v : Service) : Summary Fence where
  contenders := v.contenders.size
  listeners := v.listeners.size
  proposed := v.label? v.slot.proposed
  confirmed := v.label? v.slot.confirmed
  token := v.slot.token
  address := v.slot.address
  confirmedAt := v.slot.since
  shutdown := v.down

end Service
end Leadership
