import Leadership.Election.Slot
import Leadership.Completion
import Leadership.Diagnostics.Note
import Leadership.Executor.Plan
import Leadership.Work

set_option autoImplicit false

namespace Leadership

structure Service where
  contenders : Roster String := {}
  listeners : Roster Unit := {}
  slot : Slot := {}
  -- The token as anybody can read it without asking the service.
  published : Option Fence := none
  down : Bool := false
  plan : Plan := {}
deriving DecidableEq

structure Attempt where
  service : Nat
  work : Work
  verdict : Verdict
  moment : Service
deriving DecidableEq

structure Ledger where
  active : Nat → Bool := fun _ => false
  leading : Nat → Bool := fun _ => false
  minted : Nat := 0
  attempts : List Attempt := []
  notes : List Note := []

structure Desk extends Service, Ledger where
  number : Nat

def mark (flags : Nat → Bool) (id : Nat) (value : Bool) : Nat → Bool :=
  fun i => if i = id then value else flags i

namespace Desk

def note (d : Desk) (n : Note) : Desk := { d with notes := d.notes ++ [n] }

def setActive (d : Desk) (id : Nat) (value : Bool) : Desk :=
  { d with active := mark d.active id value }

def setLeading (d : Desk) (id : Nat) (value : Bool) : Desk :=
  { d with leading := mark d.leading id value }

def setToken (d : Desk) (token : Option Fence) : Desk :=
  { d with slot := { d.slot with token := token }, published := token }

def unconfirm (d : Desk) (id : Nat) : Desk :=
  if d.slot.confirmed = some id then
    { d with slot := { d.slot with confirmed := none, address := none, since := none } }.setToken none
  else d

def unpropose (d : Desk) (id : Nat) : Desk :=
  if d.slot.proposed = some id then
    { d with slot := { d.slot with proposed := none } }.setToken none
  else d

def vacate (d : Desk) : Desk :=
  { d with slot := { d.slot with
      proposed := none, confirmed := none, address := none, since := none } }.setToken none

def submit (d : Desk) (w : Work) : Except Fault Completion × Desk :=
  let (verdict, plan) := d.plan.next
  let after := { d with
    plan := plan, attempts := d.attempts ++ [⟨d.number, w, verdict, d.toService⟩] }
  match verdict with
  | .reject why => (.error why, after)
  | _ => (.ok (.unit d.attempts.length), after)

def announce (leader : Option (Leader Fence)) :
    List (Member Unit) → Desk → Except Fault Completion × Desk
  | [], d => (.ok .done, d)
  | m :: ms, d =>
    match d.submit (.notify m leader) with
    | (.error f, d) => (.error f, d)
    | (.ok one, d) =>
      match announce leader ms d with
      | (.error f, d) => (.error f, d)
      | (.ok rest, d) => (.ok (one.merge rest), d)

def announceAll (d : Desk) (leader : Option (Leader Fence)) : Except Fault Completion × Desk :=
  announce leader d.listeners.members d

def propose (d : Desk) (m : Member String) : Except Fault Completion × Desk :=
  let token := Fence.minted (d.minted + 1)
  let d := { d with minted := d.minted + 1 }.setToken (some token)
  let d := { d with slot := { d.slot with proposed := some m.id } }
  let d := (d.setLeading m.id true).note (.proposing m.registration.label token)
  d.submit (.grant m token)

def elect (d : Desk) : Except Fault Completion × Desk :=
  if d.slot.confirmed.isSome ∨ d.slot.proposed.isSome then (.ok .done, d)
  else
    match d.contenders.oldest? with
    | none => d.announceAll none
    | some m => d.propose m

-- Takes a contender's flags away and tells it why. Nobody minds if that is rejected.
def retire (cause : Fault) (d : Desk) (m : Member String) : Desk :=
  let wasLeader := d.leading m.id
  let d := (d.setActive m.id false).setLeading m.id false
  match d.submit (.retire m wasLeader cause) with
  | (.error f, d) => d.note (.contenderUntold m.registration.label f)
  | (.ok _, d) => d

def dismiss (cause : Fault) (d : Desk) (m : Member Unit) : Desk :=
  let d := d.setActive m.id false
  match d.submit (.dismiss m cause) with
  | (.error f, d) => d.note (.listenerUntold f)
  | (.ok _, d) => d

def shutDown (d : Desk) (cause : Fault) : Desk :=
  if d.down then d
  else
    let (contenders, noContenders) := d.contenders.drain
    let (listeners, noListeners) := d.listeners.drain
    let d := { d.vacate with contenders := noContenders, listeners := noListeners }
    let d := contenders.foldl (retire cause) d
    let d := listeners.foldl (dismiss cause) d
    { d with down := true }.note (.down cause)

def fail (d : Desk) (f : Fault) : Desk := (d.note (.fatal f)).shutDown (.fatal f)

/-- What a caller gets for a step that may be rejected: its result, or word that the service is
down, as then it is. -/
def settle {α : Type} : Except Fault α × Desk → Except Fault α × Desk
  | (.ok a, d) => (.ok a, d)
  | (.error f, d) => (.error .alreadyShutdown, d.fail f)

end Desk
end Leadership
