import Leadership.Diagnostics.Note
import Leadership.Work

set_option autoImplicit false

namespace Leadership

inductive Callback where
  | grant (component : String) (token : Fence)
  | revoke (component : String)
  | notify (leader : Option (Leader Fence))
deriving DecidableEq

inductive Duty where
  | call (callback : Callback)
  | deliver (fault : Fault)
deriving DecidableEq

inductive Failure where
  | returned (root : String) (contexts : List String)
  | panicked (payload : Option String)
deriving DecidableEq

namespace Callback

def operation : Callback → String
  | .grant .. => "grant_leadership"
  | .revoke _ => "revoke_leadership"
  | .notify _ => "notify_leader_address"

def fault (c : Callback) : Failure → Fault
  | .returned root contexts => .callback c.operation root contexts
  | .panicked payload => .callbackPanicked c.operation (payload.getD "unknown panic payload")

def complaint : Callback → Fault → Note
  | .grant component token, f => .grantFailed component token f
  | .revoke component, f => .revokeFailed component f
  | .notify _, f => .notifyFailed f

end Callback

/-- What a unit does, in order. A party that was leader is revoked before it hears that the service
is gone. -/
def Work.duties : Work → List Duty
  | .grant m token => [.call (.grant m.registration.label token)]
  | .revoke m => [.call (.revoke m.registration.label)]
  | .notify _ leader => [.call (.notify leader)]
  | .retire m wasLeader cause =>
    (if wasLeader then [.call (.revoke m.registration.label)] else []) ++ [.deliver cause]
  | .dismiss _ cause => [.deliver cause]

end Leadership
