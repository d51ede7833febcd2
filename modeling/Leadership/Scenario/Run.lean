import Leadership.Scenario.Settling
import Leadership.Election.Summary
import Leadership.Settings

set_option autoImplicit false

namespace Leadership.Scenario

inductive Setup where
  | direct (executor : Executor) (plan : Option String)
  | configured (text : String)

structure View where
  summary : Summary Fence
  published : Option Fence
  active : List String
  leaders : List String
  listening : List String
  queued : Option Nat

structure Report where
  result : Result
  events : List (String × Event)
  services : List View
  notes : List Note

namespace Scene

def names (w : Scene) (p : Handle → Bool) : List String :=
  ((w.handles.filter fun h => p h.2).map Prod.fst).mergeSort fun a b => decide (a ≤ b)

def view (w : Scene) (s : Nat) (service : Service) : View where
  summary := service.summary
  published := service.published
  active := w.names fun h =>
    match h with
    | .contender c => c.home == s && w.system.ledger.active c.id
    | .listener _ => false
  leaders := w.names fun h =>
    match h with
    | .contender c => c.home == s && w.system.ledger.leading c.id
    | .listener _ => false
  listening := w.names fun h =>
    match h with
    | .contender _ => false
    | .listener l => l.home == s && w.system.ledger.active l.id
  queued :=
    match w.hosts[s]? with
    | some ⟨.manual, _⟩ => some (w.floor.shelved s)
    | _ => none

def views (w : Scene) : List View :=
  w.doors.filterMap fun s => (w.system.services[s]?).map (w.view s)

def step (w : Scene) (s : Step) : Report × Scene :=
  let (result, w) := { w with events := [], notes := [] }.perform s
  let w := w.rest
  let events := w.events.map fun (name, e) => (name, e.update w.fate)
  (⟨result.update w.fate, events, w.views, w.notes⟩, w)

def addService (w : Scene) (host : Host) (plan : Plan) : Scene :=
  let w := (w.call (.launch plan)).2
  { w with
    hosts := w.hosts ++ [host]
    doors := w.doors ++ [w.hosts.length]
    notes := w.notes ++ [.created host.executor.name] }

def setUp (w : Scene) : Setup → Except Fault Scene
  | .direct e plan =>
    .ok (w.addService ⟨e, true⟩ (Plan.ofText e.standing (plan.getD "")))
  | .configured text =>
    (Settings.ofText text).map fun c => w.addService ⟨c.executor.executor, false⟩ {}

def setUpAll : List Setup → Scene → Except Fault Scene
  | [], w => .ok w
  | s :: ss, w =>
    match w.setUp s with
    | .ok w => setUpAll ss w
    | .error f => .error f

def runAll : List Step → Scene → List Report × Scene
  | [], w => ([], w)
  | s :: ss, w =>
    let (r, w) := w.step s
    let (rs, w) := runAll ss w
    (r :: rs, w)

end Scene

def run (setups : List Setup) (steps : List Step) : Except Fault (List Note × List Report) :=
  match Scene.setUpAll setups {} with
  | .error f => .error f
  | .ok w => .ok (w.notes, (Scene.runAll steps w).1)

end Leadership.Scenario
