import Leadership.Proofs.Speech

set_option autoImplicit false

namespace Leadership

def Work.callback? : Work → Option Callback
  | .grant m token => some (.grant m.registration.label token)
  | .revoke m => some (.revoke m.registration.label)
  | .notify _ leader => some (.notify leader)
  | .retire m wasLeader _ => if wasLeader then some (.revoke m.registration.label) else none
  | .dismiss _ _ => none

def Work.cause? : Work → Option Fault
  | .retire _ _ cause | .dismiss _ cause => some cause
  | _ => none

namespace Scenario

def Event.Within : Event → Prop
  | .resume | .performed _ => True
  | _ => False

theorem Event.Within.fault {e : Event} (within : e.Within) : e.fault? = none := by
  cases e with
  | resume | performed => rfl
  | _ => exact within.elim

def errors (w : Work) (script : List (Action Step)) : List Fault :=
  (w.callback?.bind fun c => (Action.failure? script).map c.fault).toList ++ w.cause?.toList

def entries (w : Work) : List Event := (w.callback?.map .ofCallback).toList

def Item.opening : Item → List Event
  | .duty (.call c) => [.ofCallback c]
  | .duty (.deliver _) | .proceed _ _ => []
  | .resume _ _ => [.resume]

def voiced (name : String) (said : List Event) : List (String × Event) := said.map fun e => (name, e)

def handled (faults : List Fault) : List Event := faults.map .error

theorem due_work (w : Work) (script : List (Action Step)) : w.duties.flatMap (owed script) = errors w script := by
  cases w with
  | grant | revoke | notify =>
    cases failed : Action.failure? script <;> simp [Work.duties, owed, errors, Work.callback?, Work.cause?, failed]
  | dismiss => rfl
  | retire m wasLeader cause =>
    cases wasLeader with
    | false => rfl
    | true =>
      cases failed : Action.failure? script <;> simp [Work.duties, owed, errors, Work.callback?, Work.cause?, failed]

theorem opening_work (w : Work) (item : Item) (causes : List Fault)
    (agenda : w.duties.map Item.duty = item :: deliveries causes) : item.opening = entries w := by
  have front : (w.duties.map Item.duty).head? = some item := by rw [agenda, List.head?_cons]
  cases w with
  | grant | revoke | notify | dismiss =>
    cases front
    rfl
  | retire m wasLeader cause =>
    cases wasLeader with
    | true | false =>
      cases front
      rfl

theorem Item.Left.opening {item : Item} {faults : List Fault} (left : item.Left faults) :
    ∀ e ∈ item.opening, e.Within := by
  cases item with
  | resume c rest => simp [Item.opening, Event.Within]
  | proceed c rest => simp [Item.opening]
  | duty d =>
    cases d with
    | deliver f => simp [Item.opening]
    | call c =>
      -- With some script at hand, a call picks it up.
      let ready : Scripts Step := ⟨[[.gate]], [[.gate]], [[.gate]], []⟩
      have idle := left.uncued { parties := [⟨"", ready⟩] } 0
      cases c <;> cases idle

theorem faults_voiced (name : String) (said : List Event) : faults (voiced name said) = said.filterMap Event.fault? :=
  List.filterMap_map

theorem faults_within (said : List Event) (within : ∀ e ∈ said, e.Within) : said.filterMap Event.fault? = [] :=
  List.filterMap_eq_nil_iff.mpr fun e listed => (within e listed).fault

theorem faults_handled (fs : List Fault) : (handled fs).filterMap Event.fault? = fs := by
  rw [handled, List.filterMap_map]
  exact List.filterMap_some

namespace Scene
variable {u v w : Scene} {party : Nat} {name : String} {said more : List Event}

def Utters (name : String) (said : List Event) (v w : Scene) : Prop := w.events = v.events ++ voiced name said

theorem Utters.refl (w : Scene) : Utters name [] w w := (List.append_nil _).symm

theorem Utters.trans (first : Utters name said u v) (second : Utters name more v w) :
    Utters name (said ++ more) u w := by
  rw [Utters, second, first, voiced, voiced, voiced, List.map_append, List.append_assoc]

theorem Quiet.utters (quiet : Quiet v w) : Utters name [] v w := by
  rw [Utters, quiet.events]
  exact (List.append_nil _).symm

theorem utters_record (w : Scene) (name : String) (e : Event) : Utters name [e] w (w.record name e) := rfl

theorem act_utters (name : String) (script : List (Action Step)) (w : Scene) (recorded : w.Recorded) :
    ∃ said, (∀ e ∈ said, e.Within) ∧ Utters name said w (act name script w).2 := by
  induction script generalizing w with
  | nil => exact ⟨[], by simp, Utters.refl w⟩
  | cons a rest ih =>
    cases a with
    | gate =>
      cases passed : w.floor.pass? name with
      | none =>
        rw [act, passed]
        exact ⟨[], by simp, Utters.refl w⟩
      | some floor =>
        have resumed : Utters name [.resume] w (Scene.record { w with floor := floor } name .resume) := rfl
        obtain ⟨said, within, later⟩ := ih (Scene.record { w with floor := floor } name .resume)
          (recorded.beside ⟨rfl, rfl, rfl⟩)
        rw [act, passed]
        have still : ∀ e ∈ Event.resume :: said, e.Within := List.forall_mem_cons.mpr ⟨trivial, within⟩
        exact ⟨_, still, resumed.trans later⟩
    | yield n =>
      cases n with
      | zero => exact ih w recorded
      | succ n => exact ⟨[], by simp, Utters.refl w⟩
    | perform steps =>
      have performed := recorded_performAll steps w recorded
      have noted : Utters name [.performed (performAll steps w).1] w
          ((performAll steps w).2.record name (.performed (performAll steps w).1)) :=
        (quiet_performAll steps w recorded).utters.trans (utters_record _ name (.performed _))
      obtain ⟨said, within, later⟩ := ih ((performAll steps w).2.record name (.performed (performAll steps w).1))
        (performed.beside ⟨rfl, rfl, rfl⟩)
      have still : ∀ e ∈ Event.performed (performAll steps w).1 :: said, e.Within :=
        List.forall_mem_cons.mpr ⟨trivial, within⟩
      exact ⟨_, still, noted.trans later⟩
    | fail failure => exact ⟨[], by simp, Utters.refl w⟩
    | burst payload => exact ⟨[], by simp, Utters.refl w⟩

theorem enter_utters (w : Scene) (named : w.Named party name) (c : Callback) :
    Utters name [.ofCallback c] w (w.enter party c).2 := by
  obtain ⟨p, found, rfl⟩ := named.known
  rw [enter, found]
  cases c <;> rfl

theorem handle_utters (w : Scene) (recorded : w.Recorded) (named : w.Named party name) (f : Fault) :
    Utters name [.error f] w (w.handle party f) := by
  obtain ⟨p, found, rfl⟩ := named.known
  have told : (w.tell party p f).Recorded := recorded.beside ⟨rfl, rfl, rfl⟩
  have handed : Utters p.name [.error f] w (w.tell party p f) := rfl
  have performed := handed.trans (quiet_performAll (Action.steps p.scripts.takeError.1) _ told).utters
  rw [handle, found]
  by_cases panics : Action.panics p.scripts.takeError.1 = true
  · simp only [panics, if_true]
    exact performed
  · simp only [panics, Bool.false_eq_true, if_false]
    exact performed

theorem follow_utters (w : Scene) (recorded : w.Recorded) (named : w.Named party name) (c : Callback)
    (script : List (Action Step)) :
    ∃ said handed, (∀ e ∈ said, e.Within) ∧ Stopped (owed script (.call c)) (w.follow party c script).1 handed ∧
      Utters name (said ++ handled handed) w (w.follow party c script).2 := by
  obtain ⟨fails, talk⟩ := act_talk name script w recorded
  obtain ⟨said, within, utters⟩ := act_utters name script w recorded
  have acted := recorded_act name script w recorded
  cases halted : act name script w with
  | mk halt v =>
    rw [halted] at fails talk utters acted
    have alone : Utters name (said ++ handled []) w v := (List.append_nil said).symm ▸ utters
    simp only [follow, named.knownName, halted]
    cases fails with
    | returned succeeds =>
      have told : owed script (.call c) = [] := by rw [owed, succeeds]; rfl
      exact ⟨said, [], within, told ▸ .passed, alone⟩
    | failed failure fails =>
      have told : owed script (.call c) = [c.fault failure] := by rw [owed, fails]; rfl
      have still : (v.note (c.complaint (c.fault failure))).Named party name := talk.named named
      have noted : (v.note (c.complaint (c.fault failure))).Recorded := acted.beside ⟨rfl, rfl, rfl⟩
      exact ⟨said, [c.fault failure], within, told ▸ .passed, utters.trans (handle_utters _ noted still _)⟩
    | yielded rest kept =>
      exact ⟨said, [], within, .yielded _ ⟨fun _ _ => rfl, fun _ => by rw [Item.due, owed, owed, kept]⟩, alone⟩
    | closed rest kept =>
      exact ⟨said, [], within, .closed _ ⟨fun _ _ => rfl, fun _ => by rw [Item.due, owed, owed, kept]⟩, alone⟩

theorem runItem_utters (w : Scene) (recorded : w.Recorded) (named : w.Named party name) (item : Item)
    (watched : Action.bursts (w.cue party item) = false) :
    ∃ said handed, (∀ e ∈ said, e.Within) ∧ Stopped (item.due (w.cue party item)) (w.runItem party item).1 handed ∧
      Utters name (item.opening ++ (said ++ handled handed)) w (w.runItem party item).2 := by
  cases item with
  | duty d =>
    cases d with
    | deliver f => exact ⟨[], [f], by simp, .passed, handle_utters w recorded named f⟩
    | call c =>
      have still := recorded.beside (beside_enter w party c)
      have known := (talk_enter w named c).named named
      obtain ⟨said, handed, within, stopped, utters⟩ := follow_utters _ still known c (w.enter party c).1
      rw [runItem_call w party c watched]
      exact ⟨said, handed, within, stopped, (enter_utters w named c).trans utters⟩
  | resume c rest =>
    have known := (talk_record w name .resume).named named
    obtain ⟨said, handed, within, stopped, utters⟩ := follow_utters (w.record name .resume)
      (recorded.beside ⟨rfl, rfl, rfl⟩) known c rest
    simp only [runItem, named.knownName]
    exact ⟨said, handed, within, stopped, (utters_record w name .resume).trans utters⟩
  | proceed c rest => exact follow_utters w recorded named c rest

theorem deliveries_utters (unit : Nat) (worker : Option Nat) (causes : List Fault) (w : Scene)
    (recorded : w.Recorded) (named : w.Named party name) :
    ∃ v, runAgenda unit party worker (deliveries causes) w = (.ended, v.settle unit .finished) ∧
      Utters name (handled causes) w v := by
  induction causes generalizing w with
  | nil => exact ⟨w, rfl, Utters.refl w⟩
  | cons f causes ih =>
    have handed := recorded_handle w recorded party f
    obtain ⟨v, ran, rest⟩ := ih (w.handle party f) handed ((talk_handle w recorded named f).named named)
    exact ⟨v, ran, (handle_utters w recorded named f).trans rest⟩

end Scene

namespace Turn
variable {t : Turn} {name : String}

theorem events_of_utters {said : List Event} {v : Scene} (utters : Scene.Utters name said t.start v)
    (same : t.ran.2.events = v.events) : t.events = voiced name said := by
  rw [Turn.events, same, utters, List.drop_left]

-- The events of a turn: its part of the agenda is taken up, the callback runs, and the error handler gets what
-- is due if this ends the unit, and nothing if it does not.
theorem utterance (t : Turn) (recorded : t.start.Recorded) (named : t.start.Named t.routine.party name) (item : Item)
    (causes : List Fault) (agenda : t.routine.agenda = item :: deliveries causes)
    (watched : Action.bursts t.cue = false) :
    ∃ said handed, (∀ e ∈ said, e.Within) ∧ t.events = voiced name (item.opening ++ (said ++ handled handed)) ∧
      (t.Ends → handed = due t.cue t.routine.agenda) ∧ (¬ t.Ends → handed = []) := by
  have cued : t.cue = t.start.cue t.routine.party item := by rw [cue, agenda]; rfl
  have owes : due t.cue t.routine.agenda = item.due t.cue ++ causes := by rw [agenda, due_deliveries]
  have ran : t.ran = Scene.runAgenda t.routine.unit t.routine.party t.worker (item :: deliveries causes) t.start := by
    rw [Turn.ran, agenda]
  have known := (Scene.runItem_talk t.start recorded named item (cued ▸ watched)).imp fun _ both => both.2
  obtain ⟨said, handed, within, stopped, utters⟩ := Scene.runItem_utters t.start recorded named item (cued ▸ watched)
  have still := Scene.recorded_runItem t.start recorded t.routine.party item
  rw [← cued] at stopped
  cases first : t.start.runItem t.routine.party item with
  | mk stop v =>
    rw [first] at stopped utters known still
    rw [Scene.runAgenda, first] at ran
    cases stopped with
    | passed =>
      obtain ⟨_, talk⟩ := known
      obtain ⟨u, rest, delivered⟩ :=
        Scene.deliveries_utters t.routine.unit t.worker causes v still (talk.named named)
      have whole := ran.trans rest
      have all := events_of_utters (utters.trans delivered) (by rw [whole]; rfl)
      have joined : handled (item.due t.cue) ++ handled causes = handled (item.due t.cue ++ causes) :=
        List.map_append.symm
      rw [List.append_assoc, List.append_assoc, joined, ← owes] at all
      exact ⟨said, due t.cue t.routine.agenda, within, all, fun _ => rfl, fun goes_on =>
        absurd (show t.Ends by rw [Ends, whole]; rfl) goes_on⟩
    | yielded item' left =>
      have goes_on : ¬ t.Ends := by
        intro ended
        rw [Ends, ran] at ended
        cases ended
      exact ⟨said, [], within, events_of_utters utters (by rw [ran]), fun ends => absurd ends goes_on, fun _ => rfl⟩
    | closed item' left =>
      have goes_on : ¬ t.Ends := by
        intro ended
        rw [Ends, ran] at ended
        cases ended
      exact ⟨said, [], within, events_of_utters utters (by rw [ran]), fun ends => absurd ends goes_on, fun _ => rfl⟩

end Turn
end Scenario
end Leadership
