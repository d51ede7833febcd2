import Leadership.Fault
import Leadership.Fence
import Leadership.Roster

set_option autoImplicit false

namespace Leadership

inductive Work where
  | grant (contender : Member String) (token : Fence)
  | revoke (contender : Member String)
  | notify (listener : Member Unit) (leader : Option (Leader Fence))
  -- Tells a contender that the service is gone, after a revoke if it was leader.
  | retire (contender : Member String) (wasLeader : Bool) (cause : Fault)
  | dismiss (listener : Member Unit) (cause : Fault)
deriving DecidableEq

namespace Work

def party : Work → Nat
  | .grant m _ | .revoke m | .retire m _ _ => m.party
  | .notify m _ | .dismiss m _ => m.party

def id : Work → Nat
  | .grant m _ | .revoke m | .retire m _ _ => m.id
  | .notify m _ | .dismiss m _ => m.id

end Work

end Leadership
