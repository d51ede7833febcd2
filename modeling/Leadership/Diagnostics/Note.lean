import Leadership.Fault
import Leadership.Fence

set_option autoImplicit false

namespace Leadership

inductive Level where
  | error
  | warn
  | info
  | debug
  | trace
deriving DecidableEq, Repr

namespace Level

def all : List Level := [.error, .warn, .info, .debug, .trace]

def name : Level → String
  | .error => "ERROR"
  | .warn => "WARN"
  | .info => "INFO"
  | .debug => "DEBUG"
  | .trace => "TRACE"

def rank : Level → Nat
  | .error => 1
  | .warn => 2
  | .info => 3
  | .debug => 4
  | .trace => 5

end Level

inductive Note where
  | created (executor : String)
  | registered (component : String)
  | removed (component : String) (wasLeader : Bool)
  | proposing (component : String) (token : Fence)
  | confirmed (component : String) (address : String) (token : Fence)
  | inactive (component : String)
  | stale (component : String) (token : Fence)
  | revoking (component : String)
  | fatal (fault : Fault)
  | contenderUntold (component : String) (fault : Fault)
  | listenerUntold (fault : Fault)
  | down (cause : Fault)
  | grantFailed (component : String) (token : Fence) (fault : Fault)
  | revokeFailed (component : String) (fault : Fault)
  | notifyFailed (fault : Fault)
  | handlerPanicked
  | workPanicked
deriving DecidableEq

namespace Note

inductive Field where
  | text (s : String)
  | token (t : Fence)
  | flag (b : Bool)
deriving DecidableEq

def level : Note → Level
  | .created _ | .registered _ | .removed .. | .inactive _ | .stale .. => .debug
  | .proposing .. | .confirmed .. | .revoking _ | .down _ => .info
  | .contenderUntold .. | .listenerUntold _ | .grantFailed .. | .revokeFailed .. | .notifyFailed _
  | .workPanicked => .warn
  | .fatal _ | .handlerPanicked => .error

def message : Note → String
  | .created _ => "Created embedded leader election service"
  | .registered _ => "Contender registered"
  | .removed .. => "Contender removed"
  | .proposing .. => "Proposing leadership to contender"
  | .confirmed .. => "Received confirmation of leadership"
  | .inactive _ => "Ignoring leadership confirmation from an inactive contender"
  | .stale .. => "Received confirmation of leadership for a stale leadership grant. Ignoring."
  | .revoking _ => "Revoking leadership"
  | .fatal _ =>
    "Embedded leader election service encountered a fatal error. Shutting down service."
  | .contenderUntold .. => "Could not notify contender of shutdown"
  | .listenerUntold _ => "Could not notify listener of shutdown"
  | .down _ => "Leader election service shut down"
  | .grantFailed .. => "Error granting leadership to contender"
  | .revokeFailed .. => "Error revoking leadership of contender"
  | .notifyFailed _ => "Error notifying leader listener about new leader"
  | .handlerPanicked => "Error handler panicked while handling a callback failure"
  | .workPanicked => "Serial executor work panicked"

def fields : Note → List (String × Field)
  | .created executor => [("executor", .text executor)]
  | .registered c | .inactive c | .revoking c => [("component_id", .text c)]
  | .removed c wasLeader => [("component_id", .text c), ("was_leader", .flag wasLeader)]
  | .proposing c t | .stale c t => [("component_id", .text c), ("token", .token t)]
  | .confirmed c a t => [("component_id", .text c), ("address", .text a), ("token", .token t)]
  | .fatal f | .listenerUntold f | .notifyFailed f => [("error", .text f.message)]
  | .contenderUntold c f | .revokeFailed c f =>
    [("component_id", .text c), ("error", .text f.message)]
  | .down f => [("cause", .text f.message)]
  | .grantFailed c t f =>
    [("component_id", .text c), ("token", .token t), ("error", .text f.message)]
  | .handlerPanicked | .workPanicked => []

end Note
end Leadership
