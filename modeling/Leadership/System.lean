import Leadership.Election.Operations
import Leadership.Handle

set_option autoImplicit false

namespace Leadership

structure System where
  services : List Service := []
  enrolled : List Handle := []
  ledger : Ledger := {}

inductive Call where
  | launch (plan : Plan)
  | createContender (service : Nat) (component : String)
  | createListener (service : Nat)
  | start (handle : Handle) (party : Nat)
  | remove (service : Nat) (handle : Handle)
  | confirm (contender : Contender) (token : Fence) (address : String) (now : Instant)
  | grant (service : Nat)
  | revoke (service : Nat)
  | shutDown (service : Nat) (cause : Fault)
  | replan (service : Nat) (plan : Plan)
deriving DecidableEq

inductive Answer where
  | done
  | handle (h : Handle)
  | completion (c : Completion)
  | fault (f : Fault)
  | absent
deriving DecidableEq

namespace System

def desk (sys : System) (s : Nat) (service : Service) : Desk :=
  { service, sys.ledger with number := s }

def store (sys : System) (s : Nat) (d : Desk) : System :=
  { sys with services := sys.services.set s d.toService, ledger := d.toLedger }

def visit (sys : System) (s : Nat) (act : Desk → Answer × Desk) : Answer × System :=
  match sys.services[s]? with
  | none => (.absent, sys)
  | some service =>
    let (answer, d) := act (sys.desk s service)
    (answer, sys.store s d)

def ofUnit : Except Fault Unit × Desk → Answer × Desk
  | (.ok _, d) => (.done, d)
  | (.error f, d) => (.fault f, d)

def ofCompletion : Except Fault Completion × Desk → Answer × Desk
  | (.ok c, d) => (.completion c, d)
  | (.error f, d) => (.fault f, d)

def enroll (sys : System) (s : Nat) (make : Nat → Handle) : Answer × System :=
  match sys.services[s]? with
  | none => (.absent, sys)
  | some service =>
    if service.down then (.fault .alreadyShutdown, sys)
    else
      let h := make (sys.enrolled.length + 1)
      (.handle h, { sys with enrolled := sys.enrolled ++ [h] })

def act (sys : System) : Call → Answer × System
  | .launch plan => (.done, { sys with services := sys.services ++ [{ plan := plan }] })
  -- A registration is an object of its own.
  | .createContender s component => sys.enroll s fun id => .contender ⟨id, s, component, id⟩
  | .createListener s => sys.enroll s fun id => .listener ⟨id, s, (), id⟩
  | .start (.contender c) party => sys.visit c.home fun d => ofUnit (d.startContender c party)
  | .start (.listener l) party => sys.visit l.home fun d => ofUnit (d.startListener l party)
  | .remove s (.contender c) => sys.visit s fun d => (.done, d.removeContender c)
  | .remove s (.listener l) => sys.visit s fun d => (.done, d.removeListener l)
  | .confirm c token address now =>
    sys.visit c.home fun d =>
      let (completion, d) := d.confirm c token address now
      (.completion completion, d)
  | .grant s => sys.visit s fun d => ofCompletion d.grant
  | .revoke s => sys.visit s fun d => ofCompletion d.revoke
  | .shutDown s cause => sys.visit s fun d => (.done, d.shutDown cause)
  | .replan s plan => sys.visit s fun d => (.done, { d with plan := plan })

def apply (sys : System) (c : Call) : Answer × System :=
  { sys with ledger := { sys.ledger with notes := [] } }.act c

def run (sys : System) (calls : List Call) : System :=
  calls.foldl (fun sys c => (sys.apply c).2) sys

def published (sys : System) (s : Nat) : Option Fence :=
  (sys.services[s]?).bind fun service => service.published

/-- Asks no service: the holder's flag and the published token are enough. -/
def hasLeadership (sys : System) (c : Contender) (token : Fence) : Bool :=
  sys.ledger.leading c.id && sys.published c.home == some token

end System
end Leadership
