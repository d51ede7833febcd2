import Leadership.Proofs.Deed
import Leadership.Proofs.Stage

set_option autoImplicit false

namespace Leadership
namespace Floor
variable {ρ : Type} {f : Floor ρ} {running : Bool}

structure Plain (f : Floor ρ) : Prop where
  tasks : ∀ j ∈ f.queue, j.worker = none
  parked : f.parked = []
  shelf : f.shelf = []

-- The floor of one worker that has the same units to run. While it is at one of them, all others are behind it.
def lined (running : Bool) (f : Floor ρ) : Floor ρ :=
  let rs := f.queue.map Job.routine
  { f with
    queue := if running then [] else (rs.head?.map fun r => ⟨r, some 0⟩).toList
    busy := if running ∨ rs ≠ [] then [0] else []
    backlog := (if running then rs else rs.tail).map fun r => (0, r) }

theorem Plain.spawn (plain : f.Plain) (r : ρ) : (f.spawn r).Plain := by
  constructor
  · intro j listed
    rcases List.mem_append.mp listed with old | new
    · exact plain.tasks j old
    · rw [List.mem_singleton.mp new]
  · exact plain.parked
  · exact plain.shelf

theorem lined_spawn (running : Bool) (f : Floor ρ) (r : ρ) :
    (f.spawn r).lined running = (f.lined running).line 0 r := by
  cases running with
  | true => simp [lined, spawn, line]
  | false => cases waiting : f.queue <;> simp [lined, spawn, line, waiting]

theorem Plain.makeGate (plain : f.Plain) (gate : String) : (f.makeGate gate).Plain := by
  by_cases there : f.hasGate gate = true
  · rw [Floor.makeGate, if_pos there]
    exact plain
  · rw [Floor.makeGate, if_neg there]
    exact ⟨plain.tasks, plain.parked, plain.shelf⟩

theorem lined_makeGate (running : Bool) (f : Floor ρ) (gate : String) :
    (f.makeGate gate).lined running = (f.lined running).makeGate gate := by
  have same : (f.lined running).hasGate gate = f.hasGate gate := rfl
  by_cases there : f.hasGate gate = true
  · rw [makeGate, makeGate, same, if_pos there, if_pos there]
  · rw [makeGate, makeGate, same, if_neg there, if_neg there]
    rfl

theorem release_nobody (f : Floor ρ) (nobody : f.parked = []) (gate : String) :
    f.release gate = { f with gates := addPermit gate f.gates } := by
  rw [release, nobody]
  rfl

theorem Plain.release (plain : f.Plain) (gate : String) : (f.release gate).Plain := by
  rw [release_nobody f plain.parked]
  exact ⟨plain.tasks, plain.parked, plain.shelf⟩

theorem lined_release (running : Bool) (plain : f.Plain) (gate : String) :
    (f.release gate).lined running = (f.lined running).release gate := by
  rw [release_nobody f plain.parked, release_nobody (f.lined running) plain.parked]
  rfl

theorem Plain.pass {g : Floor ρ} (plain : f.Plain) (gate : String) (passed : f.pass? gate = some g) : g.Plain := by
  unfold pass? at passed
  split at passed
  · cases passed
    exact ⟨plain.tasks, plain.parked, plain.shelf⟩
  · cases passed

theorem lined_pass (running : Bool) (f : Floor ρ) (gate : String) :
    (f.lined running).pass? gate = (f.pass? gate).map (lined running) := by
  have same : (f.lined running).gates = f.gates := rfl
  unfold pass?
  rw [same]
  split <;> rfl

theorem lined_advance (f : Floor ρ) : (f.lined true).advance 0 = f.lined false := by
  cases waiting : f.queue <;> simp [lined, advance, pluck, waiting]

end Floor

namespace Scenario

-- Two scenes of one service that differ in nothing but the executor and the notes. While a unit is being run,
-- the worker is at it.
structure Unison (accessible running : Bool) (v w : Scene) : Prop where
  host : v.hosts = [⟨.parallel, accessible⟩]
  single : v.system.services.length = 1
  plain : v.floor.Plain
  same : ∃ notes, w = { v with hosts := [⟨.serial, accessible⟩], floor := v.floor.lined running, notes := notes }

section Shared
variable {accessible running : Bool} {v w : Scene} (unison : Unison accessible running v w)
include unison

theorem Unison.parties : w.parties = v.parties := by
  obtain ⟨_, _, _, _, rfl⟩ := unison
  rfl

theorem Unison.doors : w.doors = v.doors := by
  obtain ⟨_, _, _, _, rfl⟩ := unison
  rfl

theorem Unison.handles : w.handles = v.handles := by
  obtain ⟨_, _, _, _, rfl⟩ := unison
  rfl

theorem Unison.kept : w.kept = v.kept := by
  obtain ⟨_, _, _, _, rfl⟩ := unison
  rfl

theorem Unison.partyName (party : Nat) : w.partyName party = v.partyName party := by
  rw [Scene.partyName, Scene.partyName, unison.parties]

end Shared

def Level {α : Type} (accessible running : Bool) (r s : α × Scene) : Prop :=
  s.1 = r.1 ∧ Unison accessible running r.2 s.2

theorem Level.next {α β : Type} {accessible running : Bool} {r s : α × Scene} {k l : α → Scene → β × Scene}
    (level : Level accessible running r s)
    (each : ∀ a v w, Unison accessible running v w → Level accessible running (k a v) (l a w)) :
    Level accessible running (k r.1 r.2) (l s.1 s.2) := by
  obtain ⟨same, after⟩ := level
  rw [same]
  exact each r.1 r.2 s.2 after

namespace Scene
variable {accessible running : Bool} {v w : Scene}

theorem unison_dispatch (unison : Unison accessible running v w) (a : Attempt × Nat) (own : a.1.service = 0) :
    Unison accessible running (v.dispatch a) (w.dispatch a) := by
  obtain ⟨host, single, plain, notes, rfl⟩ := unison
  obtain ⟨a, unit⟩ := a
  simp only at own
  cases verdict : a.verdict with
  | reject why =>
    simp only [dispatch, verdict]
    exact ⟨host, single, plain, notes, rfl⟩
  | discard =>
    simp only [dispatch, verdict]
    exact ⟨host, single, plain, notes, rfl⟩
  | accept =>
    have there : v.hosts[0]? = some ⟨.parallel, accessible⟩ := by rw [host, List.getElem?_cons_zero]
    simp only [dispatch, verdict, own, there, List.getElem?_cons_zero, ← Floor.lined_spawn]
    exact ⟨host, single, plain.spawn _, notes, rfl⟩

theorem unison_dispatchAll (as : List (Attempt × Nat)) (unison : Unison accessible running v w)
    (own : ∀ a ∈ as, a.1.service = 0) :
    Unison accessible running (as.foldl dispatch v) (as.foldl dispatch w) := by
  induction as generalizing v w with
  | nil => exact unison
  | cons a as ih =>
    exact ih (unison_dispatch unison a (own a List.mem_cons_self))
      fun b listed => own b (List.mem_cons_of_mem a listed)

theorem level_call (unison : Unison accessible running v w) (recorded : v.Recorded) (c : Call)
    (held : c.Held v.system.enrolled) (inside : c.Inside) :
    Level accessible running (v.call c) (w.call c) := by
  have fresh := v.fresh_service recorded c held
  have services := v.system.apply_length c inside
  obtain ⟨host, single, plain, notes, rfl⟩ := unison
  rw [single] at fresh services
  have own (a : Attempt × Nat)
      (listed : a ∈ ((v.system.apply c).2.ledger.attempts.drop v.system.ledger.attempts.length).zipIdx
        v.system.ledger.attempts.length) : a.1.service = 0 :=
    Nat.lt_one_iff.mp (fresh a.1 (List.fst_mem_of_mem_zipIdx listed))
  constructor
  · rfl
  · exact unison_dispatchAll _ ⟨host, services, plain, _, rfl⟩ own

theorem unison_addParty (unison : Unison accessible running v w) (name : String) (scripts : Scripts Step) :
    Unison accessible running (v.addParty name scripts) (w.addParty name scripts) := by
  obtain ⟨host, single, plain, notes, rfl⟩ := unison
  exact ⟨host, single, plain.makeGate name, notes, by simp only [addParty, Floor.lined_makeGate]⟩

theorem unison_rebind (unison : Unison accessible running v w) (name : String) (h : Handle) :
    Unison accessible running { v with handles := rebind name h v.handles }
      { w with handles := rebind name h w.handles } := by
  obtain ⟨host, single, plain, notes, rfl⟩ := unison
  exact ⟨host, single, plain, notes, rfl⟩

theorem level_deliver (unison : Unison accessible running v w) (c : Completion) (keep : Option String) :
    Level accessible running (v.deliver c keep) (w.deliver c keep) := by
  obtain ⟨host, single, plain, notes, rfl⟩ := unison
  cases keep <;> exact ⟨rfl, host, single, plain, notes, rfl⟩

theorem level_answer (unison : Unison accessible running v w) (keep : Option String) (a : Answer) :
    Level accessible running (v.answer keep a) (w.answer keep a) := by
  cases a with
  | completion c => exact level_deliver unison c keep
  | _ => exact ⟨rfl, unison⟩

theorem level_plainly (unison : Unison accessible running v w) (recorded : v.Recorded) (c : Call)
    (held : c.Held v.system.enrolled) (inside : c.Inside) :
    Level accessible running (v.plainly c) (w.plainly c) :=
  (level_call unison recorded c held inside).next fun a _ _ after => level_answer after none a

theorem level_create (unison : Unison accessible running v w) (recorded : v.Recorded) (as : String) (c : Call)
    (held : c.Held v.system.enrolled) (inside : c.Inside) :
    Level accessible running (v.create as c) (w.create as c) := by
  have called := level_call unison recorded c held inside
  cases left : v.call c with
  | mk a v' =>
    cases right : w.call c with
    | mk b w' =>
      rw [left, right] at called
      obtain ⟨rfl, after⟩ := called
      simp only [create, left, right]
      cases b with
      | handle h => exact ⟨rfl, unison_rebind after as h⟩
      | _ => exact level_answer after none _

theorem level_join (unison : Unison accessible running v w) (recorded : v.Recorded) (as : String)
    (scripts : Scripts Step) (c : Call) (makes : Makes c) (held : c.Held v.system.enrolled) (inside : c.Inside) :
    Level accessible running (v.join as scripts c) (w.join as scripts c) := by
  have seats : w.parties.length = v.parties.length := congrArg List.length unison.parties
  have joined := recorded_addParty v recorded as scripts
  have called := level_call (unison_addParty unison as scripts) joined c held inside
  have still := recorded_call (v.addParty as scripts) joined c held
  have known := known_of_answer (v.addParty as scripts) c makes
  simp only [join, seats]
  cases left : (v.addParty as scripts).call c with
  | mk a v' =>
    cases right : (w.addParty as scripts).call c with
    | mk b w' =>
      rw [left] at still known
      rw [left, right] at called
      obtain ⟨rfl, after⟩ := called
      simp only
      cases b with
      | handle h =>
        have started := level_call after still (.start h v.parties.length) (known h rfl) trivial
        cases left' : v'.call (.start h v.parties.length) with
        | mk a' v'' =>
          cases right' : w'.call (.start h v.parties.length) with
          | mk b' w'' =>
            rw [left', right'] at started
            obtain ⟨rfl, after'⟩ := started
            simp only [left', right']
            cases b' with
            | done => exact ⟨rfl, unison_rebind after' as h⟩
            | _ => exact level_answer after' none _
      | _ => exact level_answer after none _

theorem level_withService (unison : Unison accessible running v w) (door : Nat) (act act' : Nat → Result × Scene)
    (each : ∀ s, Level accessible running (act s) (act' s)) :
    Level accessible running (v.withService door act) (w.withService door act') := by
  cases found : v.doors[door]? with
  | none =>
    rw [withService, withService, unison.doors, found]
    exact ⟨rfl, unison⟩
  | some s =>
    rw [withService, withService, unison.doors, found]
    exact each s

theorem level_withHandle (unison : Unison accessible running v w) (recorded : v.Recorded) (name : String)
    (act act' : Handle → Result × Scene)
    (each : ∀ h ∈ v.system.enrolled, Level accessible running (act h) (act' h)) :
    Level accessible running (v.withHandle name act) (w.withHandle name act') := by
  cases found : v.handles.lookup name with
  | none =>
    rw [withHandle, withHandle, unison.handles, found]
    exact ⟨rfl, unison⟩
  | some h =>
    rw [withHandle, withHandle, unison.handles, found]
    obtain ⟨newer, older, split, _⟩ := List.lookup_eq_some_iff.mp found
    exact each h (recorded.handles (name, h) (by simp [split]))

theorem level_withContender (unison : Unison accessible running v w) (recorded : v.Recorded) (name : String)
    (act act' : Contender → Result × Scene)
    (each : ∀ c, .contender c ∈ v.system.enrolled → Level accessible running (act c) (act' c)) :
    Level accessible running (v.withContender name act) (w.withContender name act') := by
  apply level_withHandle unison recorded
  intro h known
  cases h with
  | contender c => exact each c known
  | listener l => exact ⟨rfl, unison⟩

theorem level_withHost (unison : Unison accessible running v w) (door : Nat)
    (act act' : Nat → Host → Result × Scene)
    (each : ∀ s, Level accessible running (act s ⟨.parallel, accessible⟩) (act' s ⟨.serial, accessible⟩)) :
    Level accessible running (v.withHost door act) (w.withHost door act') := by
  have hosts : v.hosts = [⟨.parallel, accessible⟩] ∧ w.hosts = [⟨.serial, accessible⟩] := by
    obtain ⟨host, _, _, _, rfl⟩ := unison
    exact ⟨host, rfl⟩
  apply level_withService unison
  intro s
  cases s with
  | zero =>
    simp only [hosts.1, hosts.2, List.getElem?_cons_zero]
    cases accessible with
    | true => exact each 0
    | false => exact ⟨rfl, unison⟩
  | succ s =>
    simp only [hosts.1, hosts.2, List.getElem?_cons_succ, List.getElem?_nil]
    exact ⟨rfl, unison⟩

theorem level_merge (unison : Unison accessible running v w) (first second : String) (keep : Option String) :
    Level accessible running (v.mergeKept first second keep) (w.mergeKept first second keep) := by
  have unbound : Unison accessible running { v with kept := unbind first (unbind second v.kept) }
      { w with kept := unbind first (unbind second v.kept) } := by
    obtain ⟨host, single, plain, notes, rfl⟩ := unison
    exact ⟨host, single, plain, notes, rfl⟩
  unfold mergeKept
  rw [unison.kept]
  split
  · split
    · exact level_deliver unbound _ keep
    · exact ⟨rfl, unison⟩
  · exact ⟨rfl, unison⟩

theorem level_wait (unison : Unison accessible running v w) (name : String) :
    Level accessible running (v.wait name) (w.wait name) := by
  obtain ⟨host, single, plain, notes, rfl⟩ := unison
  cases kept : v.kept.lookup name with
  | none =>
    simp only [wait, kept]
    exact ⟨rfl, host, single, plain, notes, rfl⟩
  | some k =>
    simp only [wait, kept]
    exact ⟨rfl, host, single, plain, notes, rfl⟩

theorem takeUnits_nothing (s place count : Nat) (f : Floor Routine) (empty : f.shelf = []) :
    takeUnits s place count f = ([], f) := by
  cases count with
  | zero => rfl
  | succ count =>
    have nothing : f.takeShelved s place = none := by
      rw [Floor.takeShelved, empty]
      cases place <;> rfl
    rw [takeUnits, nothing]

theorem level_perform (unison : Unison accessible running v w) (recorded : v.Recorded) (s : Step) :
    Level accessible running (v.perform s) (w.perform s) := by
  have shelves : v.floor.shelf = [] ∧ w.floor.shelf = [] := by
    obtain ⟨_, _, plain, _, rfl⟩ := unison
    exact ⟨plain.shelf, plain.shelf⟩
  cases s with
  | createContender door component as =>
    exact level_withService unison door _ _ fun s => level_create unison recorded as _ trivial trivial
  | createListener door as =>
    exact level_withService unison door _ _ fun s => level_create unison recorded as _ trivial trivial
  | start name scripts =>
    have seats : w.parties.length = v.parties.length := congrArg List.length unison.parties
    apply level_withHandle unison recorded
    intro h known
    rw [seats]
    have still := recorded_addParty v recorded name scripts
    exact level_plainly (unison_addParty unison name scripts) still _ known trivial
  | register door component as scripts =>
    apply level_withService unison
    intro s
    exact level_join unison recorded as scripts _ (makes_contender s component) trivial trivial
  | listen door as scripts =>
    apply level_withService unison
    intro s
    exact level_join unison recorded as scripts _ (makes_listener s) trivial trivial
  | close name =>
    apply level_withHandle unison recorded
    intro h known
    exact level_plainly unison recorded (.remove h.home h) known trivial
  | deregister name door =>
    apply level_withHandle unison recorded
    intro h known
    exact level_withService unison door _ _ fun s => level_plainly unison recorded (.remove s h) known trivial
  | confirm name token address keep =>
    apply level_withContender unison recorded
    intro c known
    obtain ⟨named, time⟩ :
        w.token name c.home token = v.token name c.home token ∧ w.clock w.calls.length = v.clock v.calls.length := by
      obtain ⟨_, _, _, _, rfl⟩ := unison
      exact ⟨rfl, rfl⟩
    rw [named, time]
    have called := level_call unison recorded (.confirm c (v.token name c.home token) address
      (v.clock v.calls.length)) known trivial
    exact called.next fun a _ _ after => level_answer after keep a
  | hasLeadership name token =>
    apply level_withContender unison recorded
    intro c known
    obtain ⟨host, single, plain, notes, rfl⟩ := unison
    exact ⟨rfl, host, single, plain, notes, rfl⟩
  | info name =>
    apply level_withHandle unison recorded
    intro h known
    obtain ⟨host, single, plain, notes, rfl⟩ := unison
    exact ⟨by cases h <;> rfl, host, single, plain, notes, rfl⟩
  | clone name as =>
    apply level_withHandle unison recorded
    intro h known
    obtain ⟨host, single, plain, notes, rfl⟩ := unison
    exact ⟨rfl, host, single, plain.makeGate as, notes, by simp only [Floor.lined_makeGate]⟩
  | grant door keep =>
    apply level_withService unison
    intro s
    exact (level_call unison recorded (.grant s) trivial trivial).next fun a _ _ after => level_answer after keep a
  | revoke door keep =>
    apply level_withService unison
    intro s
    exact (level_call unison recorded (.revoke s) trivial trivial).next fun a _ _ after => level_answer after keep a
  | shutDown door cause =>
    apply level_withService unison
    intro s
    exact level_plainly unison recorded (.shutDown s cause) trivial trivial
  | isShutDown door =>
    apply level_withService unison
    intro s
    obtain ⟨host, single, plain, notes, rfl⟩ := unison
    exact ⟨rfl, host, single, plain, notes, rfl⟩
  | currentToken door =>
    apply level_withService unison
    intro s
    obtain ⟨host, single, plain, notes, rfl⟩ := unison
    exact ⟨rfl, host, single, plain, notes, rfl⟩
  | cloneService door =>
    apply level_withService unison
    intro s
    obtain ⟨host, single, plain, notes, rfl⟩ := unison
    exact ⟨rfl, host, single, plain, notes, rfl⟩
  | plan door text =>
    apply level_withHost unison
    intro s
    exact level_plainly unison recorded (.replan s _) trivial trivial
  | run door count place =>
    apply level_withHost unison
    intro s
    rw [takeUnits_nothing s place count v.floor shelves.1, takeUnits_nothing s place count w.floor shelves.2]
    exact ⟨rfl, unison⟩
  | drop door count place =>
    apply level_withHost unison
    intro s
    rw [takeUnits_nothing s place count v.floor shelves.1, takeUnits_nothing s place count w.floor shelves.2]
    exact ⟨rfl, unison⟩
  | release name =>
    obtain ⟨host, single, plain, notes, rfl⟩ := unison
    have gates : (v.floor.lined running).hasGate name = v.floor.hasGate name := rfl
    by_cases gated : v.floor.hasGate name = true
    · simp only [perform, gates, gated, if_true, ← Floor.lined_release running plain]
      exact ⟨rfl, host, single, plain.release name, notes, rfl⟩
    · simp only [perform, gates, gated, Bool.false_eq_true, if_false]
      exact ⟨rfl, host, single, plain, notes, rfl⟩
  | done keep => exact level_deliver unison .done keep
  | merge first second keep => exact level_merge unison first second keep
  | wait name => exact level_wait unison name

theorem level_performAll (ss : List Step) (unison : Unison accessible running v w) (recorded : v.Recorded) :
    Level accessible running (performAll ss v) (performAll ss w) := by
  induction ss generalizing v w with
  | nil => exact ⟨rfl, unison⟩
  | cons s ss ih =>
    obtain ⟨first, after⟩ := level_perform unison recorded s
    obtain ⟨rest, last⟩ := ih after (recorded_perform v recorded s)
    exact ⟨congrArg₂ List.cons first rest, last⟩

theorem unison_record (unison : Unison accessible running v w) (name : String) (e : Event) :
    Unison accessible running (v.record name e) (w.record name e) := by
  obtain ⟨host, single, plain, notes, rfl⟩ := unison
  exact ⟨host, single, plain, notes, rfl⟩

theorem unison_note (unison : Unison accessible running v w) (n : Note) :
    Unison accessible running (v.note n) (w.note n) := by
  obtain ⟨host, single, plain, notes, rfl⟩ := unison
  exact ⟨host, single, plain, _, rfl⟩

theorem unison_settle (unison : Unison accessible running v w) (unit : Nat) (f : Completion.Fate) :
    Unison accessible running (v.settle unit f) (w.settle unit f) := by
  obtain ⟨host, single, plain, notes, rfl⟩ := unison
  exact ⟨host, single, plain, notes, rfl⟩

theorem level_act (name : String) (script : List (Action Step)) (unison : Unison accessible running v w)
    (recorded : v.Recorded) : Level accessible running (act name script v) (act name script w) := by
  induction script generalizing v w with
  | nil => exact ⟨rfl, unison⟩
  | cons a rest ih =>
    cases a with
    | gate =>
      have passes : w.floor.pass? name = (v.floor.pass? name).map (Floor.lined running) := by
        obtain ⟨_, _, _, _, rfl⟩ := unison
        exact Floor.lined_pass running v.floor name
      cases passed : v.floor.pass? name with
      | none =>
        rw [passed] at passes
        rw [act, act, passed, passes]
        exact ⟨rfl, unison⟩
      | some floor =>
        have through : Unison accessible running { v with floor := floor } { w with floor := floor.lined running } := by
          obtain ⟨host, single, plain, notes, rfl⟩ := unison
          exact ⟨host, single, plain.pass name passed, notes, rfl⟩
        rw [passed] at passes
        rw [act, act, passed, passes]
        exact ih (unison_record through name .resume) (recorded.beside ⟨rfl, rfl, rfl⟩)
    | yield n =>
      cases n with
      | zero => exact ih unison recorded
      | succ n => exact ⟨rfl, unison⟩
    | perform steps =>
      obtain ⟨same, after⟩ := level_performAll steps unison recorded
      have still := recorded_performAll steps v recorded
      rw [act, act]
      simp only [same]
      exact ih (unison_record after name _) (still.beside ⟨rfl, rfl, rfl⟩)
    | fail failure => exact ⟨rfl, unison⟩
    | burst payload => exact ⟨rfl, unison⟩

theorem level_enter (unison : Unison accessible running v w) (party : Nat) (c : Callback) :
    Level accessible running (v.enter party c) (w.enter party c) := by
  obtain ⟨host, single, plain, notes, rfl⟩ := unison
  cases found : v.parties[party]? with
  | none =>
    simp only [enter, found]
    exact ⟨rfl, host, single, plain, notes, rfl⟩
  | some p =>
    simp only [enter, found]
    cases c <;> exact ⟨rfl, host, single, plain, notes, rfl⟩

theorem unison_tell (unison : Unison accessible running v w) (party : Nat) (p : Party) (f : Fault) :
    Unison accessible running (v.tell party p f) (w.tell party p f) := by
  obtain ⟨host, single, plain, notes, rfl⟩ := unison
  exact ⟨host, single, plain, notes, rfl⟩

theorem unison_handle (unison : Unison accessible running v w) (recorded : v.Recorded) (party : Nat) (f : Fault) :
    Unison accessible running (v.handle party f) (w.handle party f) := by
  have parties := unison.parties
  cases found : v.parties[party]? with
  | none =>
    simp only [handle, parties, found]
    exact unison
  | some p =>
    have told : (v.tell party p f).Recorded := recorded.beside ⟨rfl, rfl, rfl⟩
    obtain ⟨_, performed⟩ := level_performAll (Action.steps p.scripts.takeError.1) (unison_tell unison party p f) told
    by_cases panics : Action.panics p.scripts.takeError.1 = true
    · simp only [handle, parties, found, panics, if_true]
      exact unison_note performed _
    · simp only [handle, parties, found, panics, Bool.false_eq_true, if_false]
      exact performed

theorem level_follow (unison : Unison accessible running v w) (recorded : v.Recorded) (party : Nat) (c : Callback)
    (script : List (Action Step)) :
    Level accessible running (v.follow party c script) (w.follow party c script) := by
  have acted := level_act (v.partyName party) script unison recorded
  have still := recorded_act (v.partyName party) script v recorded
  have name := unison.partyName party
  cases left : act (v.partyName party) script v with
  | mk halt v' =>
    cases right : act (v.partyName party) script w with
    | mk halt' w' =>
      rw [left, right] at acted
      rw [left] at still
      obtain ⟨rfl, after⟩ := acted
      simp only [follow, name, left, right]
      cases halt' with
      | failed failure => exact ⟨rfl, unison_handle (unison_note after _) (still.beside ⟨rfl, rfl, rfl⟩) party _⟩
      | returned | yielded | closed => exact ⟨rfl, after⟩

theorem level_runItem (unison : Unison accessible running v w) (recorded : v.Recorded) (party : Nat) (item : Item) :
    Level accessible running (v.runItem party item) (w.runItem party item) := by
  cases item with
  | duty d =>
    cases d with
    | deliver f => exact ⟨rfl, unison_handle unison recorded party f⟩
    | call c =>
      have entered := level_enter unison party c
      have still := recorded.beside (beside_enter v party c)
      cases left : v.enter party c with
      | mk script v' =>
        cases right : w.enter party c with
        | mk script' w' =>
          rw [left] at still
          rw [left, right] at entered
          obtain ⟨rfl, after⟩ := entered
          have followed := level_follow after still party c script'
          simp only [runItem, left, right]
          cases script' with
          | nil => exact followed
          | cons a rest =>
            cases a with
            | burst payload => exact ⟨rfl, after⟩
            | gate | yield | perform | fail => exact followed
  | resume c rest =>
    have resumed := unison_record unison (v.partyName party) .resume
    simp only [runItem, unison.partyName party]
    exact level_follow resumed (recorded.beside ⟨rfl, rfl, rfl⟩) party c rest
  | proceed c rest => exact level_follow unison recorded party c rest

theorem level_runAgenda (unit party : Nat) (items : List Item) (unison : Unison accessible running v w)
    (recorded : v.Recorded) :
    Level accessible running (runAgenda unit party none items v) (runAgenda unit party (some 0) items w) := by
  induction items generalizing v w with
  | nil => exact ⟨rfl, unison_settle unison unit .finished⟩
  | cons item rest ih =>
    have ran := level_runItem unison recorded party item
    have still := recorded_runItem v recorded party item
    cases left : v.runItem party item with
    | mk stop v' =>
      cases right : w.runItem party item with
      | mk stop' w' =>
        rw [left] at still
        rw [left, right] at ran
        obtain ⟨rfl, after⟩ := ran
        have name : w'.partyName party = v'.partyName party := Unison.partyName after party
        simp only [runAgenda, left, right]
        cases stop' with
        | passed => exact ih after still
        | burst =>
          obtain ⟨host, single, plain, notes, same⟩ := unison_settle after unit .dropped
          simp only at same
          simp only [same]
          exact ⟨rfl, host, single, plain, _, rfl⟩
        | yielded item => exact ⟨rfl, after⟩
        | closed item => exact ⟨by simp only [name], after⟩

end Scene
end Scenario
end Leadership
