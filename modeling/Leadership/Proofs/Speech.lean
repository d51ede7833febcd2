import Leadership.Proofs.Stage

set_option autoImplicit false

namespace Leadership.Scenario

def Event.fault? : Event → Option Fault
  | .error f => some f
  | _ => none

def faults (said : List (String × Event)) : List Fault := said.filterMap fun e => e.2.fault?

theorem faults_append (said more : List (String × Event)) : faults (said ++ more) = faults said ++ faults more :=
  List.filterMap_append

namespace Action

def failure? : List (Action Step) → Option Failure
  | [] => none
  | .fail failure :: _ => some failure
  | .burst payload :: _ => some (.panicked payload)
  | .gate :: rest | .yield _ :: rest | .perform _ :: rest => failure? rest

-- The panic comes before anything else, when there is no future yet that could be watched.
def bursts : List (Action Step) → Bool
  | .burst _ :: _ => true
  | _ => false

end Action

def owed (script : List (Action Step)) : Duty → List Fault
  | .call c => ((Action.failure? script).map c.fault).toList
  | .deliver f => [f]

def Item.due (script : List (Action Step)) : Item → List Fault
  | .duty d => owed script d
  | .resume c rest | .proceed c rest => owed rest (.call c)

def due (script : List (Action Step)) (agenda : List Item) : List Fault := agenda.flatMap (Item.due script)

def deliveries (causes : List Fault) : List Item := causes.map fun f => .duty (.deliver f)

namespace Scene
variable {u v w : Scene} {party : Nat} {name : String}

def Named (w : Scene) (party : Nat) (name : String) : Prop := (w.parties.map Party.name)[party]? = some name

structure Talk (name : String) (handed : List Fault) (v w : Scene) : Prop where
  changes : Changes v w
  said : ∃ said, w.events = v.events ++ said ∧ (∀ e ∈ said, e.1 = name) ∧ faults said = handed

theorem Quiet.talk (quiet : Quiet v w) : Talk name [] v w :=
  ⟨quiet.changes, [], by rw [quiet.events, List.append_nil], by simp, rfl⟩

theorem Talk.refl (w : Scene) : Talk name [] w w := (Quiet.refl w).talk

theorem Talk.trans {handed handed' : List Fault} (first : Talk name handed u v) (second : Talk name handed' v w) :
    Talk name (handed ++ handed') u w := by
  obtain ⟨early, extended, mine, told⟩ := first.said
  obtain ⟨late, extended', mine', told'⟩ := second.said
  refine ⟨first.changes.trans second.changes, early ++ late, ?_, ?_, ?_⟩
  · rw [extended', extended, List.append_assoc]
  · intro e member
    rcases List.mem_append.mp member with old | new
    · exact mine e old
    · exact mine' e new
  · rw [faults_append, told, told']

theorem talk_record (w : Scene) (name : String) (e : Event) : Talk name e.fault?.toList w (w.record name e) := by
  refine ⟨.single (.aside _ _ ⟨rfl, rfl, rfl, rfl, rfl⟩), [(name, e)], rfl, by simp, ?_⟩
  cases said : e.fault? <;> simp [faults, said]

theorem names_change (change : Change v w) : v.parties.map Party.name <+: w.parties.map Party.name := by
  cases change with
  | aside _ aside => exact aside.names ▸ List.prefix_refl _
  | party name scripts =>
    simp only [addParty, List.map_append]
    exact List.prefix_append _ _
  | call c held seated => exact call_parties v c ▸ List.prefix_refl _
  | lose rs floor taken =>
    obtain ⟨fates, same⟩ := settleAll_rest rs { v with floor := floor }
    exact same ▸ List.prefix_refl _

theorem names_changes (changes : Changes v w) : v.parties.map Party.name <+: w.parties.map Party.name := by
  induction changes with
  | refl => exact List.prefix_refl _
  | tail _ change ih => exact ih.trans (names_change change)

theorem Named.later (named : v.Named party name) (grown : v.parties.map Party.name <+: w.parties.map Party.name) :
    w.Named party name :=
  prefix_getElem grown named

theorem Talk.named {handed : List Fault} (talk : Talk name handed v w) (named : v.Named party name) :
    w.Named party name :=
  named.later (names_changes talk.changes)

theorem Named.known (named : w.Named party name) : ∃ p, w.parties[party]? = some p ∧ p.name = name := by
  rw [Named, List.getElem?_map] at named
  exact Option.map_eq_some_iff.mp named

theorem Named.knownName (named : w.Named party name) : w.partyName party = name := by
  obtain ⟨p, found, same⟩ := named.known
  rw [Scene.partyName, found]
  exact same

theorem names_set (w : Scene) (party : Nat) (p : Party) (scripts : Scripts Step) (found : w.parties[party]? = some p) :
    (w.parties.set party { p with scripts := scripts }).map Party.name = w.parties.map Party.name := by
  obtain ⟨within, rfl⟩ := List.getElem?_eq_some_iff.mp found
  have kept : w.parties.set party w.parties[party] = w.parties := List.set_getElem_self within
  have same := congrArg (List.map Party.name) kept
  rwa [List.map_set] at same ⊢

theorem talk_enter (w : Scene) (named : w.Named party name) (c : Callback) : Talk name [] w (w.enter party c).2 := by
  obtain ⟨p, found, rfl⟩ := named.known
  let scripts := (p.scripts.take c).2
  let taken : Scene := { w with parties := w.parties.set party { p with scripts := scripts } }
  have picked : Quiet w taken := Aside.quiet ⟨rfl, rfl, rfl, rfl, names_set w party p scripts found⟩ rfl
  have noted : Talk p.name [] taken (taken.record p.name (.ofCallback c)) := by
    have recorded := talk_record taken p.name (.ofCallback c)
    cases c <;> exact recorded
  have entered := picked.talk.trans noted
  rw [enter, found]
  cases c with
  | revoke | notify => exact entered
  | grant component token =>
    exact entered.trans (Quiet.talk (Aside.quiet ⟨rfl, rfl, rfl, rfl, rfl⟩ rfl))

theorem talk_tell (w : Scene) (p : Party) (found : w.parties[party]? = some p) (f : Fault) :
    Talk p.name [f] w (w.tell party p f) := by
  let scripts := p.scripts.takeError.2
  let taken : Scene := { w with parties := w.parties.set party { p with scripts := scripts } }
  have picked : Quiet w taken := Aside.quiet ⟨rfl, rfl, rfl, rfl, names_set w party p scripts found⟩ rfl
  exact picked.talk.trans (talk_record taken p.name (.error f))

theorem talk_handle (w : Scene) (recorded : w.Recorded) (named : w.Named party name) (f : Fault) :
    Talk name [f] w (w.handle party f) := by
  obtain ⟨p, found, rfl⟩ := named.known
  have told : (w.tell party p f).Recorded := recorded.beside ⟨rfl, rfl, rfl⟩
  have handed := (talk_tell w p found f).trans
    (quiet_performAll (Action.steps p.scripts.takeError.1) _ told).talk
  rw [handle, found]
  by_cases panics : Action.panics p.scripts.takeError.1 = true
  · simp only [panics, if_true]
    exact handed.trans (Quiet.talk (Aside.quiet ⟨rfl, rfl, rfl, rfl, rfl⟩ rfl))
  · simp only [panics, Bool.false_eq_true, if_false]
    exact handed

inductive Fails (script : List (Action Step)) : Halt → Prop
  | returned (succeeds : Action.failure? script = none) : Fails script .returned
  | failed (failure : Failure) (fails : Action.failure? script = some failure) : Fails script (.failed failure)
  | yielded (rest : List (Action Step)) (same : Action.failure? rest = Action.failure? script) :
      Fails script (.yielded rest)
  | closed (rest : List (Action Step)) (same : Action.failure? rest = Action.failure? script) :
      Fails script (.closed rest)

theorem Fails.widen {rest script : List (Action Step)} {halt : Halt} (fails : Fails rest halt)
    (same : Action.failure? script = Action.failure? rest) : Fails script halt := by
  cases fails with
  | returned succeeds => exact .returned (same.trans succeeds)
  | failed failure fails => exact .failed failure (same.trans fails)
  | yielded left kept => exact .yielded left (kept.trans same.symm)
  | closed left kept => exact .closed left (kept.trans same.symm)

theorem act_talk (name : String) (script : List (Action Step)) (w : Scene) (recorded : w.Recorded) :
    Fails script (act name script w).1 ∧ Talk name [] w (act name script w).2 := by
  induction script generalizing w with
  | nil => exact ⟨.returned rfl, Talk.refl w⟩
  | cons a rest ih =>
    cases a with
    | gate =>
      cases passed : w.floor.pass? name with
      | none =>
        rw [act, passed]
        exact ⟨.closed rest rfl, Talk.refl w⟩
      | some floor =>
        have through : Quiet w { w with floor := floor } :=
          Aside.quiet ⟨rfl, rfl, rfl, Floor.holds_pass name passed, rfl⟩ rfl
        have resumed : Talk name [] w (Scene.record { w with floor := floor } name .resume) :=
          through.talk.trans (talk_record _ name .resume)
        obtain ⟨fails, later⟩ := ih (Scene.record { w with floor := floor } name .resume)
          (recorded.beside ⟨rfl, rfl, rfl⟩)
        rw [act, passed]
        exact ⟨fails.widen rfl, resumed.trans later⟩
    | yield n =>
      cases n with
      | zero =>
        obtain ⟨fails, later⟩ := ih w recorded
        exact ⟨fails.widen rfl, later⟩
      | succ n => exact ⟨.yielded (.yield n :: rest) rfl, Talk.refl w⟩
    | perform steps =>
      have performed := recorded_performAll steps w recorded
      have said : Talk name [] w ((performAll steps w).2.record name (.performed (performAll steps w).1)) :=
        (quiet_performAll steps w recorded).talk.trans (talk_record _ name (.performed _))
      obtain ⟨fails, later⟩ := ih ((performAll steps w).2.record name (.performed (performAll steps w).1))
        (performed.beside ⟨rfl, rfl, rfl⟩)
      exact ⟨fails.widen rfl, said.trans later⟩
    | fail failure => exact ⟨.failed failure rfl, Talk.refl w⟩
    | burst payload => exact ⟨.failed (.panicked payload) rfl, Talk.refl w⟩

def cue (w : Scene) (party : Nat) : Item → List (Action Step)
  | .duty (.call c) => (w.enter party c).1
  | _ => []

end Scene

structure Item.Left (item : Item) (faults : List Fault) : Prop where
  uncued : ∀ (w : Scene) party, w.cue party item = []
  due : ∀ script, item.due script = faults

namespace Scene
variable {u v w : Scene} {party : Nat} {name : String}

-- What has become of one part of a unit's agenda, and the faults that were handed over. What is left of a
-- part asks its party for no other script.
inductive Stopped (faults : List Fault) : Stop → List Fault → Prop
  | passed : Stopped faults .passed faults
  | yielded (item : Item) (left : item.Left faults) : Stopped faults (.yielded item) []
  | closed (item : Item) (left : item.Left faults) : Stopped faults (.closed item) []

theorem follow_talk (w : Scene) (recorded : w.Recorded) (named : w.Named party name) (c : Callback)
    (script : List (Action Step)) :
    ∃ handed, Stopped (owed script (.call c)) (w.follow party c script).1 handed ∧
      Talk name handed w (w.follow party c script).2 := by
  obtain ⟨fails, talk⟩ := act_talk name script w recorded
  have acted := recorded_act name script w recorded
  cases halted : act name script w with
  | mk halt v =>
    rw [halted] at fails talk acted
    simp only [follow, named.knownName, halted]
    cases fails with
    | returned succeeds =>
      have told : owed script (.call c) = [] := by rw [owed, succeeds]; rfl
      exact ⟨[], told ▸ .passed, talk⟩
    | failed failure fails =>
      have told : owed script (.call c) = [c.fault failure] := by rw [owed, fails]; rfl
      have noted : Quiet v (v.note (c.complaint (c.fault failure))) := Aside.quiet ⟨rfl, rfl, rfl, rfl, rfl⟩ rfl
      have complained := talk.trans noted.talk
      have still : (v.note (c.complaint (c.fault failure))).Recorded := acted.beside ⟨rfl, rfl, rfl⟩
      exact ⟨[c.fault failure], told ▸ .passed, complained.trans (talk_handle _ still (complained.named named) _)⟩
    | yielded rest kept =>
      exact ⟨[], .yielded _ ⟨fun _ _ => rfl, fun _ => by rw [Item.due, owed, owed, kept]⟩, talk⟩
    | closed rest kept =>
      exact ⟨[], .closed _ ⟨fun _ _ => rfl, fun _ => by rw [Item.due, owed, owed, kept]⟩, talk⟩

theorem runItem_burst (w : Scene) (named : w.Named party name) (item : Item)
    (bursts : Action.bursts (w.cue party item) = true) :
    (w.runItem party item).1 = .burst ∧ Talk name [] w (w.runItem party item).2 := by
  cases item with
  | resume | proceed => cases bursts
  | duty d =>
    cases d with
    | deliver f => cases bursts
    | call c =>
      have entered := talk_enter w named c
      simp only [cue] at bursts
      cases picked : w.enter party c with
      | mk script v =>
        rw [picked] at entered bursts
        cases script with
        | nil => cases bursts
        | cons a rest =>
          cases a with
          | burst payload =>
            simp only [runItem, picked]
            exact ⟨trivial, entered⟩
          | gate | yield | perform | fail => cases bursts

theorem runItem_call (w : Scene) (party : Nat) (c : Callback)
    (watched : Action.bursts (w.cue party (.duty (.call c))) = false) :
    w.runItem party (.duty (.call c)) = (w.enter party c).2.follow party c (w.enter party c).1 := by
  simp only [cue] at watched
  cases picked : w.enter party c with
  | mk script v =>
    rw [picked] at watched
    cases script with
    | nil => simp only [runItem, picked]
    | cons a rest =>
      cases a with
      | burst payload => cases watched
      | gate | yield | perform | fail => simp only [runItem, picked]

theorem runItem_talk (w : Scene) (recorded : w.Recorded) (named : w.Named party name) (item : Item)
    (watched : Action.bursts (w.cue party item) = false) :
    ∃ handed, Stopped (item.due (w.cue party item)) (w.runItem party item).1 handed ∧
      Talk name handed w (w.runItem party item).2 := by
  cases item with
  | duty d =>
    cases d with
    | deliver f => exact ⟨[f], .passed, talk_handle w recorded named f⟩
    | call c =>
      have entered := talk_enter w named c
      have still := recorded.beside (beside_enter w party c)
      obtain ⟨handed, stopped, talk⟩ := follow_talk _ still (entered.named named) c (w.enter party c).1
      rw [runItem_call w party c watched]
      exact ⟨handed, stopped, entered.trans talk⟩
  | resume c rest =>
    have resumed := talk_record w name .resume
    obtain ⟨handed, stopped, talk⟩ := follow_talk (w.record name .resume) (recorded.beside ⟨rfl, rfl, rfl⟩)
      (resumed.named named) c rest
    simp only [runItem, named.knownName]
    exact ⟨handed, stopped, resumed.trans talk⟩
  | proceed c rest => exact follow_talk w recorded named c rest

theorem runAgenda_deliveries (unit : Nat) (worker : Option Nat) (causes : List Fault) (w : Scene)
    (recorded : w.Recorded) (named : w.Named party name) :
    ∃ v, runAgenda unit party worker (deliveries causes) w = (.ended, v.settle unit .finished) ∧
      Talk name causes w v := by
  induction causes generalizing w with
  | nil => exact ⟨w, rfl, Talk.refl w⟩
  | cons f causes ih =>
    have first := talk_handle w recorded named f
    obtain ⟨v, ran, rest⟩ := ih (w.handle party f) (recorded_handle w recorded party f) (first.named named)
    exact ⟨v, ran, first.trans rest⟩

end Scene

theorem due_deliveries (script : List (Action Step)) (item : Item) (causes : List Fault) :
    due script (item :: deliveries causes) = item.due script ++ causes := by
  have each : (deliveries causes).flatMap (Item.due script) = causes := by
    induction causes with
    | nil => rfl
    | cons f causes ih => exact congrArg (f :: ·) ih
  rw [due, List.flatMap_cons, each]

theorem due_duties (script : List (Action Step)) (duties : List Duty) :
    due script (duties.map .duty) = duties.flatMap (owed script) := by
  rw [due, List.flatMap_map]
  rfl

def UnderWay (agenda : List Item) (faults : List Fault) : Prop :=
  ∃ item own causes, agenda = item :: deliveries causes ∧ item.Left own ∧ faults = own ++ causes

namespace Turn

def cue (t : Turn) : List (Action Step) := (t.routine.agenda.head?.map (t.start.cue t.routine.party)).getD []

def Ends (t : Turn) : Prop := t.ran.1.rest? = none

def Says (t : Turn) (name : String) (handed : List Fault) : Prop :=
  (∀ e ∈ t.events, e.1 = name) ∧ faults t.events = handed

/-- What a turn comes to. A unit that finishes has handed over all that was due, and one that pauses owes its
party what it owed before. If the party panics when there is no future yet, the unit is lost. -/
inductive Outcome (name : String) (t : Turn) : Prop
  | finished (v : Scene) (watched : Action.bursts t.cue = false)
      (ran : t.ran = (.ended, v.settle t.routine.unit .finished))
      (talk : Scene.Talk name (due t.cue t.routine.agenda) t.start v) : Outcome name t
  | burst (v : Scene) (bursts : Action.bursts t.cue = true)
      (ran : t.ran = (.panicked, v.settle t.routine.unit .dropped)) (talk : Scene.Talk name [] t.start v) :
      Outcome name t
  | paused (v : Scene) (pause : Pause Routine) (rest : Routine) (watched : Action.bursts t.cue = false)
      (ran : t.ran = (pause, v)) (waits : pause.rest? = some rest)
      (unit : rest.unit = t.routine.unit) (party : rest.party = t.routine.party)
      (left : UnderWay rest.agenda (due t.cue t.routine.agenda)) (talk : Scene.Talk name [] t.start v) :
      Outcome name t

variable {t : Turn} {name : String}

theorem spoken_of_talk {handed : List Fault} {v : Scene} (talk : Scene.Talk name handed t.start v)
    (same : t.ran.2.events = v.events) : t.Says name handed := by
  obtain ⟨said, extended, mine, told⟩ := talk.said
  have events : t.events = said := by rw [Turn.events, same, extended, List.drop_left]
  exact ⟨events ▸ mine, events ▸ told⟩

theorem outcome (t : Turn) (recorded : t.start.Recorded) (named : t.start.Named t.routine.party name) (item : Item)
    (causes : List Fault) (agenda : t.routine.agenda = item :: deliveries causes) : Outcome name t := by
  have cued : t.cue = t.start.cue t.routine.party item := by rw [cue, agenda]; rfl
  have owes : due t.cue t.routine.agenda = item.due t.cue ++ causes := by rw [agenda, due_deliveries]
  have ran : t.ran = Scene.runAgenda t.routine.unit t.routine.party t.worker (item :: deliveries causes) t.start := by
    rw [Turn.ran, agenda]
  cases watched : Action.bursts t.cue with
  | true =>
    obtain ⟨burst, talk⟩ := Scene.runItem_burst t.start named item (cued ▸ watched)
    cases first : t.start.runItem t.routine.party item with
    | mk stop v =>
      rw [first] at burst talk
      cases burst
      rw [Scene.runAgenda, first] at ran
      cases worker : t.worker with
      | none =>
        rw [worker] at ran
        exact .burst v watched ran talk
      | some s =>
        rw [worker] at ran
        have noted : Scene.Quiet v (v.note .workPanicked) := Scene.Aside.quiet ⟨rfl, rfl, rfl, rfl, rfl⟩ rfl
        exact .burst (v.note .workPanicked) watched ran (talk.trans noted.talk)
  | false =>
    obtain ⟨handed, stopped, talk⟩ := Scene.runItem_talk t.start recorded named item (cued ▸ watched)
    have still := Scene.recorded_runItem t.start recorded t.routine.party item
    rw [← cued] at stopped
    cases first : t.start.runItem t.routine.party item with
    | mk stop v =>
      rw [first] at stopped talk still
      rw [Scene.runAgenda, first] at ran
      cases stopped with
      | passed =>
        obtain ⟨u, rest, delivered⟩ :=
          Scene.runAgenda_deliveries t.routine.unit t.worker causes v still (talk.named named)
        exact .finished u watched (ran.trans rest) (owes ▸ talk.trans delivered)
      | yielded item' left =>
        exact .paused v _ ⟨_, _, item' :: deliveries causes⟩ watched ran rfl rfl rfl
          ⟨item', _, causes, rfl, left, owes⟩ talk
      | closed item' left =>
        exact .paused v _ ⟨_, _, item' :: deliveries causes⟩ watched ran rfl rfl rfl
          ⟨item', _, causes, rfl, left, owes⟩ talk

theorem Outcome.events (outcome : Outcome name t) : t.ran.2.events = t.start.events ++ t.events := by
  have after {v : Scene} {handed : List Fault} (talk : Scene.Talk name handed t.start v)
      (same : t.ran.2.events = v.events) : t.ran.2.events = t.start.events ++ t.events := by
    obtain ⟨said, extended, _⟩ := talk.said
    rw [Turn.events, same, extended, List.drop_left]
  cases outcome with
  | finished v watched ran talk => exact after talk (by rw [ran]; rfl)
  | burst v bursts ran talk => exact after talk (by rw [ran]; rfl)
  | paused v pause rest watched ran waits unit party left talk => exact after talk (by rw [ran])

end Turn
end Leadership.Scenario
