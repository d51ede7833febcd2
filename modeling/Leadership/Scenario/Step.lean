import Leadership.Scenario.Script
import Leadership.System

set_option autoImplicit false

namespace Leadership.Scenario

inductive Step where
  | createContender (service : Nat) (component : String) (as : String)
  | createListener (service : Nat) (as : String)
  | start (handle : String) (scripts : Scripts Step)
  | register (service : Nat) (component : String) (as : String) (scripts : Scripts Step)
  | listen (service : Nat) (as : String) (scripts : Scripts Step)
  | close (handle : String)
  | deregister (handle : String) (service : Nat)
  | confirm (handle : String) (token : String) (address : String) (keep : Option String)
  | hasLeadership (handle : String) (token : String)
  | info (handle : String)
  | clone (handle : String) (as : String)
  | grant (service : Nat) (keep : Option String)
  | revoke (service : Nat) (keep : Option String)
  | shutDown (service : Nat) (cause : Fault)
  | isShutDown (service : Nat)
  | currentToken (service : Nat)
  | cloneService (service : Nat)
  | plan (service : Nat) (text : String)
  | run (service : Nat) (count : Nat) (place : Nat)
  | drop (service : Nat) (count : Nat) (place : Nat)
  | release (handle : String)
  | done (keep : Option String)
  | merge (first : String) (second : String) (keep : Option String)
  | wait (completion : String)

inductive Missing where
  | handle
  | service
  | executor
  | completion
  | contender
deriving DecidableEq, Repr

namespace Missing

def name : Missing → String
  | .handle => "handle"
  | .service => "service"
  | .executor => "executor"
  | .completion => "completion"
  | .contender => "contender"

end Missing

inductive Result where
  | done
  | flag (value : Bool)
  | token (token : Option Fence)
  | count (n : Nat)
  | fault (fault : Fault)
  | missing (what : Missing)
  | contender (component : String) (active : Bool) (leader : Bool)
  | listener (active : Bool)
  | kept (completion : Completion) (name : String)
  | awaited (completion : Completion) (status : Completion.Status)
  | wait (completion : Completion) (status : Completion.Status)
deriving DecidableEq

namespace Result

def update (fate : Nat → Option Completion.Fate) : Result → Result
  | .awaited c _ => .awaited c (c.status fate)
  | .wait c _ => .wait c (c.status fate)
  | r => r

end Result

inductive Event where
  | grant (token : Fence)
  | revoke
  | notify (leader : Option (Leader Fence))
  | error (fault : Fault)
  | resume
  | performed (results : List Result)
deriving DecidableEq

namespace Event

def ofCallback : Callback → Event
  | .grant _ token => .grant token
  | .revoke _ => .revoke
  | .notify leader => .notify leader

def update (fate : Nat → Option Completion.Fate) : Event → Event
  | .performed results => .performed (results.map (Result.update fate))
  | e => e

end Event
end Leadership.Scenario
