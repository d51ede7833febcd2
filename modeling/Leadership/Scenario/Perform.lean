import Leadership.Scenario.Scene

set_option autoImplicit false

namespace Leadership.Scenario.Scene

def label? (s : String) : Option Nat :=
  match s.toList with
  | 't' :: ds =>
    if ds.all Text.isDigit ∧ ds.head? ≠ some '0' ∧ ds ≠ [] then some (Text.ofDigits 0 ds) else none
  | _ => none

/-- The token that a step names: the current one of the handle's service, the last one granted to
the party of that name, a minted one by its number, or one written out; else the zero token. -/
def token (w : Scene) (name : String) (home : Nat) (text : String) : Fence :=
  let named : Option Fence :=
    if text = "@current" then w.system.published home
    else if text = "@granted" then w.grants.lookup name
    else
      match label? text with
      | some n => if n ≤ w.system.ledger.minted then some (.minted n) else none
      | none => (Token.ofText? text).map .outside
  named.getD (.outside .zero)

def keep (w : Scene) (name : String) (c : Completion) : Scene :=
  { w with kept := rebind name ⟨c, false⟩ w.kept }

def deliver (w : Scene) (c : Completion) : Option String → Result × Scene
  | some name => (.kept c name, w.keep name c)
  | none => (.awaited c .pending, w)

def answer (w : Scene) (keep : Option String) : Answer → Result × Scene
  | .completion c => w.deliver c keep
  | .fault f => (.fault f, w)
  | .absent => (.missing .service, w)
  | _ => (.done, w)

def plainly (w : Scene) (c : Call) : Result × Scene :=
  let (a, w) := w.call c
  w.answer none a

def create (w : Scene) (as : String) (c : Call) : Result × Scene :=
  match w.call c with
  | (.handle h, w) => (.done, { w with handles := rebind as h w.handles })
  | (a, w) => w.answer none a

def join (w : Scene) (as : String) (scripts : Scripts Step) (c : Call) : Result × Scene :=
  let party := w.parties.length
  let w := w.addParty as scripts
  match w.call c with
  | (.handle h, w) =>
    match w.call (.start h party) with
    | (.done, w) => (.done, { w with handles := rebind as h w.handles })
    | (a, w) => w.answer none a
  | (a, w) => w.answer none a

def withService (w : Scene) (door : Nat) (act : Nat → Result × Scene) : Result × Scene :=
  match w.doors[door]? with
  | some s => act s
  | none => (.missing .service, w)

def withHandle (w : Scene) (name : String) (act : Handle → Result × Scene) : Result × Scene :=
  match w.handles.lookup name with
  | some h => act h
  | none => (.missing .handle, w)

def withContender (w : Scene) (name : String) (act : Contender → Result × Scene) :
    Result × Scene :=
  w.withHandle name fun h =>
    match h with
    | .contender c => act c
    | .listener _ => (.missing .contender, w)

def withHost (w : Scene) (door : Nat) (act : Nat → Host → Result × Scene) : Result × Scene :=
  w.withService door fun s =>
    match w.hosts[s]? with
    | some host => if host.accessible then act s host else (.missing .executor, w)
    | none => (.missing .executor, w)

def takeUnits (s place : Nat) : Nat → Floor Routine → List Routine × Floor Routine
  | 0, f => ([], f)
  | count + 1, f =>
    match f.takeShelved s place with
    | none => ([], f)
    | some (r, f) =>
      let (rs, f) := takeUnits s place count f
      (r :: rs, f)

def info (w : Scene) : Handle → Result
  | .contender c =>
    .contender c.label (w.system.ledger.active c.id) (w.system.ledger.leading c.id)
  | .listener l => .listener (w.system.ledger.active l.id)

def mergeKept (w : Scene) (first second : String) (keep : Option String) : Result × Scene :=
  match w.kept.lookup first, w.kept.lookup second with
  | some a, some b =>
    if first ≠ second ∧ a.awaited = false ∧ b.awaited = false then
      { w with kept := unbind first (unbind second w.kept) }.deliver
        (a.completion.merge b.completion) keep
    else (.missing .completion, w)
  | _, _ => (.missing .completion, w)

def wait (w : Scene) (name : String) : Result × Scene :=
  match w.kept.lookup name with
  | some k =>
    (.wait k.completion .pending, { w with kept := rebind name ⟨k.completion, true⟩ w.kept })
  | none => (.missing .completion, w)

def perform (w : Scene) : Step → Result × Scene
  | .createContender door component as =>
    w.withService door fun s => w.create as (.createContender s component)
  | .createListener door as => w.withService door fun s => w.create as (.createListener s)
  | .start name scripts =>
    w.withHandle name fun h => (w.addParty name scripts).plainly (.start h w.parties.length)
  | .register door component as scripts =>
    w.withService door fun s => w.join as scripts (.createContender s component)
  | .listen door as scripts => w.withService door fun s => w.join as scripts (.createListener s)
  | .close name => w.withHandle name fun h => w.plainly (.remove h.home h)
  | .deregister name door =>
    w.withHandle name fun h => w.withService door fun s => w.plainly (.remove s h)
  | .confirm name token address keep =>
    w.withContender name fun c =>
      let (a, w) := w.call (.confirm c (w.token name c.home token) address (w.clock w.calls.length))
      w.answer keep a
  | .hasLeadership name token =>
    w.withContender name fun c =>
      (.flag (w.system.hasLeadership c (w.token name c.home token)), w)
  | .info name => w.withHandle name fun h => (w.info h, w)
  | .clone name as =>
    w.withHandle name fun h =>
      (.done, { w with handles := rebind as h w.handles, floor := w.floor.makeGate as })
  | .grant door keep =>
    w.withService door fun s => let (a, w) := w.call (.grant s); w.answer keep a
  | .revoke door keep =>
    w.withService door fun s => let (a, w) := w.call (.revoke s); w.answer keep a
  | .shutDown door cause => w.withService door fun s => w.plainly (.shutDown s cause)
  | .isShutDown door =>
    w.withService door fun s =>
      (.flag (((w.system.services[s]?).map fun service => service.down).getD false), w)
  | .currentToken door => w.withService door fun s => (.token (w.system.published s), w)
  | .cloneService door =>
    w.withService door fun s => (.done, { w with doors := w.doors ++ [s] })
  | .plan door text =>
    w.withHost door fun s host =>
      w.plainly (.replan s (Plan.ofText host.executor.standing text))
  | .run door count place =>
    w.withHost door fun s _ =>
      let (taken, floor) := takeUnits s place count w.floor
      (.count taken.length, { w with floor := taken.foldl Floor.spawn floor })
  | .drop door count place =>
    w.withHost door fun s _ =>
      let (taken, floor) := takeUnits s place count w.floor
      (.count taken.length,
        taken.foldl (fun w r => w.settle r.unit .dropped) { w with floor := floor })
  | .release name =>
    if w.floor.hasGate name then (.done, { w with floor := w.floor.release name })
    else (.missing .handle, w)
  | .done keep => w.deliver .done keep
  | .merge first second keep => w.mergeKept first second keep
  | .wait name => w.wait name

def performAll : List Step → Scene → List Result × Scene
  | [], w => ([], w)
  | s :: ss, w =>
    let (r, w) := w.perform s
    let (rs, w) := performAll ss w
    (r :: rs, w)

end Leadership.Scenario.Scene
