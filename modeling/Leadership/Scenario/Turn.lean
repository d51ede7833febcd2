import Leadership.Scenario.Perform

set_option autoImplicit false

namespace Leadership.Scenario

inductive Halt where
  | returned
  | failed (failure : Failure)
  | yielded (rest : List (Action Step))
  | closed (rest : List (Action Step))

namespace Scene

def act (name : String) : List (Action Step) → Scene → Halt × Scene
  | [], w => (.returned, w)
  | .gate :: rest, w =>
    match w.floor.pass? name with
    | some floor => act name rest ({ w with floor := floor }.record name .resume)
    | none => (.closed rest, w)
  | .yield 0 :: rest, w => act name rest w
  | .yield (n + 1) :: rest, w => (.yielded (.yield n :: rest), w)
  | .perform steps :: rest, w =>
    let (results, w) := performAll steps w
    act name rest (w.record name (.performed results))
  | .fail failure :: _, w => (.failed failure, w)
  | .burst payload :: _, w => (.failed (.panicked payload), w)

def enter (w : Scene) (party : Nat) (c : Callback) : List (Action Step) × Scene :=
  match w.parties[party]? with
  | none => ([], w)
  | some p =>
    let (script, scripts) := p.scripts.take c
    let w := { w with parties := w.parties.set party { p with scripts := scripts } }
    let w := w.record p.name (.ofCallback c)
    match c with
    | .grant _ token => (script, { w with grants := rebind p.name token w.grants })
    | _ => (script, w)

def tell (w : Scene) (party : Nat) (p : Party) (f : Fault) : Scene :=
  { w with parties := w.parties.set party { p with scripts := p.scripts.takeError.2 } }.record p.name (.error f)

/-- Hands a fault to the party's error handler. If that panics, there is a note of it and no
more. -/
def handle (w : Scene) (party : Nat) (f : Fault) : Scene :=
  match w.parties[party]? with
  | none => w
  | some p =>
    let script := p.scripts.takeError.1
    let (_, w) := performAll (Action.steps script) (w.tell party p f)
    if Action.panics script then w.note .handlerPanicked else w

inductive Stop where
  | passed
  | burst
  | yielded (item : Item)
  | closed (item : Item)

def follow (w : Scene) (party : Nat) (c : Callback) (script : List (Action Step)) : Stop × Scene :=
  match act (w.partyName party) script w with
  | (.returned, w) => (.passed, w)
  | (.failed failure, w) =>
    let f := c.fault failure
    (.passed, (w.note (c.complaint f)).handle party f)
  | (.yielded rest, w) => (.yielded (.proceed c rest), w)
  | (.closed rest, w) => (.closed (.resume c rest), w)

def runItem (w : Scene) (party : Nat) : Item → Stop × Scene
  | .duty (.call c) =>
    match w.enter party c with
    | (.burst _ :: _, w) => (.burst, w)
    | (script, w) => w.follow party c script
  | .duty (.deliver f) => (.passed, w.handle party f)
  | .resume c rest => (w.record (w.partyName party) .resume).follow party c rest
  | .proceed c rest => w.follow party c rest

/-- Runs a unit's agenda; a unit that ends or bursts has met its fate. -/
def runAgenda (unit party : Nat) (worker : Option Nat) :
    List Item → Scene → Pause Routine × Scene
  | [], w => (.ended, w.settle unit .finished)
  | item :: rest, w =>
    match w.runItem party item with
    | (.passed, w) => runAgenda unit party worker rest w
    | (.burst, w) =>
      let w := w.settle unit .dropped
      (.panicked, if worker.isSome then w.note .workPanicked else w)
    | (.yielded item, w) => (.yielded ⟨unit, party, item :: rest⟩, w)
    | (.closed item, w) => (.closed (w.partyName party) ⟨unit, party, item :: rest⟩, w)

def turn? (w : Scene) : Option Scene :=
  match w.floor.take? with
  | none => none
  | some (job, floor) =>
    let r := job.routine
    let (pause, w) := runAgenda r.unit r.party job.worker r.agenda { w with floor := floor }
    some { w with floor := w.floor.conclude job.worker pause }

end Scene
end Leadership.Scenario
