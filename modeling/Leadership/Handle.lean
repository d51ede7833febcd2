import Leadership.Roster
import Leadership.Text.Quoted

set_option autoImplicit false

namespace Leadership

inductive Handle where
  | contender (c : Contender)
  | listener (l : Listener)
deriving DecidableEq

namespace Handle

def id : Handle → Nat
  | .contender c => c.id
  | .listener l => l.id

def home : Handle → Nat
  | .contender c => c.home
  | .listener l => l.home

def truth (b : Bool) : String := if b then "true" else "false"

def contenderText (component : String) (active leader : Bool) : String :=
  "ContenderHandle \x7b component_id: " ++ Text.quoted component ++ ", active: " ++ truth active ++
    ", leader: " ++ truth leader ++ " \x7d"

def listenerText (id : String) (active : Bool) : String :=
  "ListenerHandle \x7b id: " ++ id ++ ", active: " ++ truth active ++ " \x7d"

end Handle
end Leadership
