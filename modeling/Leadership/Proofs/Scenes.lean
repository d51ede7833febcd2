import Leadership.Proofs.Run
import Leadership.Scenario.Run

set_option autoImplicit false

namespace Leadership.Scenario.Scene

def history (w : Scene) : List Call := w.calls.map Prod.fst

structure Recorded (w : Scene) : Prop where
  lawful : System.Lawful {} w.history
  system : w.system = System.run {} w.history
  handles : ∀ p ∈ w.handles, p.2 ∈ w.system.enrolled
  answers : ∀ (i : Nat) c a, w.calls[i]? = some (c, a) → a = ((System.before w.history i).apply c).1

structure Beside (v w : Scene) : Prop where
  system : w.system = v.system
  calls : w.calls = v.calls
  handles : w.handles = v.handles

theorem Beside.refl (w : Scene) : Beside w w := ⟨rfl, rfl, rfl⟩

theorem Beside.trans {u v w : Scene} (first : Beside u v) (second : Beside v w) : Beside u w :=
  ⟨second.system.trans first.system, second.calls.trans first.calls, second.handles.trans first.handles⟩

theorem Recorded.beside {v w : Scene} (recorded : v.Recorded) (same : Beside v w) : w.Recorded := by
  have history : w.history = v.history := by rw [Scene.history, Scene.history, same.calls]
  refine ⟨?_, ?_, ?_, ?_⟩
  · rw [history]
    exact recorded.lawful
  · rw [same.system, history]
    exact recorded.system
  · rw [same.handles, same.system]
    exact recorded.handles
  · rw [history, same.calls]
    exact recorded.answers

theorem Recorded.rebind {w : Scene} (recorded : w.Recorded) (name : String) (h : Handle)
    (known : h ∈ w.system.enrolled) : Recorded { w with handles := rebind name h w.handles } := by
  refine ⟨recorded.lawful, recorded.system, ?_, recorded.answers⟩
  intro p member
  rcases List.mem_cons.mp member with rfl | old
  · exact known
  · exact recorded.handles p (List.mem_filter.mp old).1

theorem beside_dispatch (w : Scene) (a : Attempt × Nat) : Beside w (w.dispatch a) := by
  obtain ⟨a, unit⟩ := a
  simp only [dispatch]
  split
  · exact Beside.refl w
  · exact ⟨rfl, rfl, rfl⟩
  · split
    · exact ⟨rfl, rfl, rfl⟩
    · exact ⟨rfl, rfl, rfl⟩
    · exact ⟨rfl, rfl, rfl⟩

theorem beside_dispatchAll (as : List (Attempt × Nat)) (w : Scene) : Beside w (as.foldl dispatch w) := by
  induction as generalizing w with
  | nil => exact Beside.refl w
  | cons a as ih => exact (beside_dispatch w a).trans (ih (w.dispatch a))

theorem call_answer (w : Scene) (c : Call) : (w.call c).1 = (w.system.apply c).1 := rfl

theorem call_system (w : Scene) (c : Call) : (w.call c).2.system = (w.system.apply c).2 :=
  (beside_dispatchAll _ _).system

theorem call_handles (w : Scene) (c : Call) : (w.call c).2.handles = w.handles :=
  (beside_dispatchAll _ _).handles

theorem call_calls (w : Scene) (c : Call) :
    (w.call c).2.calls = w.calls ++ [(c, (w.system.apply c).1)] :=
  (beside_dispatchAll _ _).calls

theorem call_history (w : Scene) (c : Call) : (w.call c).2.history = w.history ++ [c] := by
  rw [history, call_calls, List.map_append]
  rfl

theorem Recorded.sound {w : Scene} (recorded : w.Recorded) : w.system.Sound :=
  recorded.system ▸ System.sound_run recorded.lawful

theorem recorded_call (w : Scene) (recorded : w.Recorded) (c : Call) (held : c.Held w.system.enrolled) :
    (w.call c).2.Recorded := by
  refine ⟨?_, ?_, ?_, ?_⟩
  · rw [call_history]
    refine (System.lawful_append w.history [c] {}).mpr ⟨recorded.lawful, ?_, trivial⟩
    rw [← recorded.system]
    exact held
  · rw [call_history, call_system, System.run_append, ← recorded.system]
    rfl
  · rw [call_handles, call_system]
    intro p member
    have grown := System.takes_enrolled (System.apply_takes recorded.sound c)
    exact grown.subset (recorded.handles p member)
  · rw [call_history, call_calls]
    intro i d a found
    have length : w.history.length = w.calls.length := List.length_map _
    by_cases old : i < w.calls.length
    · rw [List.getElem?_append_left old] at found
      rw [System.before_append w.history [c] i (by omega)]
      exact recorded.answers i d a found
    · have bound := (List.getElem?_eq_some_iff.mp found).1
      simp only [List.length_append, List.length_singleton] at bound
      have last : i = w.history.length := by omega
      rw [List.getElem?_append_right (Nat.le_of_not_lt old)] at found
      cases List.mem_singleton.mp (List.mem_of_getElem? found)
      rw [last, System.before_append w.history [c] _ (Nat.le_refl _), System.before_all, ← recorded.system]

def Makes (c : Call) : Prop :=
  ∃ s make, ∀ sys : System, sys.act c = sys.enroll s make

theorem makes_contender (s : Nat) (component : String) : Makes (.createContender s component) :=
  ⟨s, fun id => .contender ⟨id, s, component, id⟩, fun _ => rfl⟩

theorem makes_listener (s : Nat) : Makes (.createListener s) :=
  ⟨s, fun id => .listener ⟨id, s, (), id⟩, fun _ => rfl⟩

theorem known_of_answer (w : Scene) (c : Call) (makes : Makes c) (h : Handle)
    (answered : (w.call c).1 = .handle h) : h ∈ (w.call c).2.system.enrolled := by
  obtain ⟨s, make, made⟩ := makes
  rw [call_system]
  rw [call_answer] at answered
  have acted : w.system.apply c = w.system.cleared.enroll s make := made w.system.cleared
  rw [acted] at answered ⊢
  cases found : w.system.cleared.services[s]? with
  | none => simp [System.enroll, found] at answered
  | some v =>
    by_cases down : v.down = true
    · simp [System.enroll, found, down] at answered
    · simp only [System.enroll, found, down, Bool.false_eq_true, if_false, Answer.handle.injEq] at answered
      simp [System.enroll, found, down, answered]

theorem recorded_addParty (w : Scene) (recorded : w.Recorded) (name : String) (scripts : Scripts Step) :
    (w.addParty name scripts).Recorded :=
  recorded.beside ⟨rfl, rfl, rfl⟩

theorem recorded_deliver (w : Scene) (recorded : w.Recorded) (c : Completion) (keep : Option String) :
    (w.deliver c keep).2.Recorded := by
  cases keep with
  | none => exact recorded
  | some name => exact recorded.beside ⟨rfl, rfl, rfl⟩

theorem recorded_answer (w : Scene) (recorded : w.Recorded) (keep : Option String) (a : Answer) :
    (w.answer keep a).2.Recorded := by
  cases a with
  | completion c => exact recorded_deliver w recorded c keep
  | _ => exact recorded

theorem recorded_plainly (w : Scene) (recorded : w.Recorded) (c : Call) (held : c.Held w.system.enrolled) :
    (w.plainly c).2.Recorded :=
  recorded_answer _ (recorded_call w recorded c held) none _

theorem recorded_create (w : Scene) (recorded : w.Recorded) (as : String) (c : Call) (makes : Makes c)
    (held : c.Held w.system.enrolled) : (w.create as c).2.Recorded := by
  have after := recorded_call w recorded c held
  have known := known_of_answer w c makes
  cases called : w.call c with
  | mk a v =>
    rw [called] at after known
    simp only [create, called]
    cases a with
    | handle h => exact after.rebind as h (known h rfl)
    | _ => exact recorded_answer v after none _

theorem recorded_join (w : Scene) (recorded : w.Recorded) (as : String) (scripts : Scripts Step) (c : Call)
    (makes : Makes c) (held : c.Held w.system.enrolled) : (w.join as scripts c).2.Recorded := by
  have joined := recorded_addParty w recorded as scripts
  have after := recorded_call (w.addParty as scripts) joined c held
  have known := known_of_answer (w.addParty as scripts) c makes
  cases called : (w.addParty as scripts).call c with
  | mk a v =>
    rw [called] at after known
    simp only [join, called]
    cases a with
    | handle h =>
      have registered := known h rfl
      have started := recorded_call v after (.start h w.parties.length) registered
      have kept := call_system v (.start h w.parties.length)
      cases called' : v.call (.start h w.parties.length) with
      | mk b u =>
        rw [called'] at started kept
        simp only [called']
        cases b with
        | done =>
          refine started.rebind as h ?_
          have grown := System.takes_enrolled (System.apply_takes after.sound (.start h w.parties.length))
          exact kept ▸ grown.subset registered
        | _ => exact recorded_answer u started none _
    | _ => exact recorded_answer v after none _

theorem recorded_withService (w : Scene) (recorded : w.Recorded) (door : Nat) (act : Nat → Result × Scene)
    (each : ∀ s, (act s).2.Recorded) : (w.withService door act).2.Recorded := by
  cases found : w.doors[door]? with
  | none =>
    rw [withService, found]
    exact recorded
  | some s =>
    rw [withService, found]
    exact each s

theorem recorded_withHandle (w : Scene) (recorded : w.Recorded) (name : String)
    (act : Handle → Result × Scene) (each : ∀ h ∈ w.system.enrolled, (act h).2.Recorded) :
    (w.withHandle name act).2.Recorded := by
  cases found : w.handles.lookup name with
  | none =>
    rw [withHandle, found]
    exact recorded
  | some h =>
    rw [withHandle, found]
    obtain ⟨newer, older, split, _⟩ := List.lookup_eq_some_iff.mp found
    exact each h (recorded.handles (name, h) (by simp [split]))

theorem recorded_withContender (w : Scene) (recorded : w.Recorded) (name : String)
    (act : Contender → Result × Scene) (each : ∀ c, .contender c ∈ w.system.enrolled → (act c).2.Recorded) :
    (w.withContender name act).2.Recorded := by
  refine recorded_withHandle w recorded name _ fun h known => ?_
  cases h with
  | contender c => exact each c known
  | listener l => exact recorded

theorem recorded_withHost (w : Scene) (recorded : w.Recorded) (door : Nat) (act : Nat → Host → Result × Scene)
    (each : ∀ s host, (act s host).2.Recorded) : (w.withHost door act).2.Recorded := by
  refine recorded_withService w recorded door _ fun s => ?_
  cases w.hosts[s]? with
  | none => exact recorded
  | some host =>
    by_cases accessible : host.accessible = true
    · simp only [accessible, if_true]
      exact each s host
    · simp only [accessible, Bool.false_eq_true, if_false]
      exact recorded

theorem beside_settleAll (rs : List Routine) (w : Scene) :
    Beside w (rs.foldl (fun w r => w.settle r.unit .dropped) w) := by
  induction rs generalizing w with
  | nil => exact Beside.refl w
  | cons r rs ih =>
    have first : Beside w (w.settle r.unit .dropped) := ⟨rfl, rfl, rfl⟩
    exact first.trans (ih (w.settle r.unit .dropped))

theorem recorded_merge (w : Scene) (recorded : w.Recorded) (first second : String) (keep : Option String) :
    (w.mergeKept first second keep).2.Recorded := by
  unfold mergeKept
  split
  · split
    · refine recorded_deliver _ ?_ _ keep
      exact recorded.beside ⟨rfl, rfl, rfl⟩
    · exact recorded
  · exact recorded

theorem recorded_wait (w : Scene) (recorded : w.Recorded) (name : String) : (w.wait name).2.Recorded := by
  cases kept : w.kept.lookup name with
  | none =>
    rw [wait, kept]
    exact recorded
  | some k =>
    rw [wait, kept]
    exact recorded.beside ⟨rfl, rfl, rfl⟩

theorem recorded_perform (w : Scene) (recorded : w.Recorded) (s : Step) : (w.perform s).2.Recorded := by
  cases s with
  | createContender door component as =>
    refine recorded_withService w recorded door _ fun s => ?_
    exact recorded_create w recorded as _ (makes_contender s component) trivial
  | createListener door as =>
    refine recorded_withService w recorded door _ fun s => ?_
    exact recorded_create w recorded as _ (makes_listener s) trivial
  | start name scripts =>
    refine recorded_withHandle w recorded name _ fun h known => ?_
    exact recorded_plainly _ (recorded_addParty w recorded name scripts) (.start h w.parties.length) known
  | register door component as scripts =>
    refine recorded_withService w recorded door _ fun s => ?_
    exact recorded_join w recorded as scripts _ (makes_contender s component) trivial
  | listen door as scripts =>
    refine recorded_withService w recorded door _ fun s => ?_
    exact recorded_join w recorded as scripts _ (makes_listener s) trivial
  | close name =>
    refine recorded_withHandle w recorded name _ fun h known => ?_
    exact recorded_plainly w recorded (.remove h.home h) known
  | deregister name door =>
    refine recorded_withHandle w recorded name _ fun h known => ?_
    refine recorded_withService w recorded door _ fun s => ?_
    exact recorded_plainly w recorded (.remove s h) known
  | confirm name token address keep =>
    refine recorded_withContender w recorded name _ fun c known => ?_
    exact recorded_answer _ (recorded_call w recorded (.confirm c _ address _) known) keep _
  | hasLeadership name token => exact recorded_withContender w recorded name _ fun c _ => recorded
  | info name => exact recorded_withHandle w recorded name _ fun h _ => recorded
  | clone name as =>
    refine recorded_withHandle w recorded name _ fun h known => ?_
    exact (recorded.rebind as h known).beside ⟨rfl, rfl, rfl⟩
  | grant door keep =>
    refine recorded_withService w recorded door _ fun s => ?_
    exact recorded_answer _ (recorded_call w recorded (.grant s) trivial) keep _
  | revoke door keep =>
    refine recorded_withService w recorded door _ fun s => ?_
    exact recorded_answer _ (recorded_call w recorded (.revoke s) trivial) keep _
  | shutDown door cause =>
    refine recorded_withService w recorded door _ fun s => ?_
    exact recorded_plainly w recorded (.shutDown s cause) trivial
  | isShutDown door => exact recorded_withService w recorded door _ fun s => recorded
  | currentToken door => exact recorded_withService w recorded door _ fun s => recorded
  | cloneService door =>
    exact recorded_withService w recorded door _ fun s => recorded.beside ⟨rfl, rfl, rfl⟩
  | plan door text =>
    refine recorded_withHost w recorded door _ fun s host => ?_
    exact recorded_plainly w recorded (.replan s _) trivial
  | run door count place =>
    exact recorded_withHost w recorded door _ fun s host => recorded.beside ⟨rfl, rfl, rfl⟩
  | drop door count place =>
    refine recorded_withHost w recorded door _ fun s host => ?_
    have taken : Recorded { w with floor := (takeUnits s place count w.floor).2 } :=
      recorded.beside ⟨rfl, rfl, rfl⟩
    exact taken.beside (beside_settleAll (takeUnits s place count w.floor).1 _)
  | release name =>
    by_cases gated : w.floor.hasGate name = true
    · rw [perform, if_pos gated]
      exact recorded.beside ⟨rfl, rfl, rfl⟩
    · rw [perform, if_neg gated]
      exact recorded
  | done keep => exact recorded_deliver w recorded .done keep
  | merge first second keep => exact recorded_merge w recorded first second keep
  | wait name => exact recorded_wait w recorded name

theorem recorded_performAll (ss : List Step) (w : Scene) (recorded : w.Recorded) :
    (performAll ss w).2.Recorded := by
  induction ss generalizing w with
  | nil => exact recorded
  | cons s ss ih => exact ih _ (recorded_perform w recorded s)

theorem recorded_act (name : String) (as : List (Action Step)) (w : Scene) (recorded : w.Recorded) :
    (act name as w).2.Recorded := by
  induction as generalizing w with
  | nil => exact recorded
  | cons a as ih =>
    cases a with
    | gate =>
      cases passed : w.floor.pass? name with
      | none =>
        rw [act, passed]
        exact recorded
      | some floor =>
        rw [act, passed]
        exact ih _ (recorded.beside ⟨rfl, rfl, rfl⟩)
    | yield n =>
      cases n with
      | zero => exact ih w recorded
      | succ n => exact recorded
    | perform steps =>
      have performed := recorded_performAll steps w recorded
      exact ih _ (performed.beside ⟨rfl, rfl, rfl⟩)
    | fail f => exact recorded
    | burst p => exact recorded

theorem beside_enter (w : Scene) (party : Nat) (c : Callback) : Beside w (w.enter party c).2 := by
  cases found : w.parties[party]? with
  | none =>
    rw [enter, found]
    exact Beside.refl w
  | some p =>
    rw [enter, found]
    cases c <;> exact ⟨rfl, rfl, rfl⟩

theorem recorded_handle (w : Scene) (recorded : w.Recorded) (party : Nat) (f : Fault) :
    (w.handle party f).Recorded := by
  cases found : w.parties[party]? with
  | none =>
    rw [handle, found]
    exact recorded
  | some p =>
    have told : (w.tell party p f).Recorded := recorded.beside ⟨rfl, rfl, rfl⟩
    have performed := recorded_performAll (Action.steps p.scripts.takeError.1) _ told
    rw [handle, found]
    by_cases panics : Action.panics p.scripts.takeError.1 = true
    · simp only [panics, if_true]
      exact performed.beside ⟨rfl, rfl, rfl⟩
    · simp only [panics, Bool.false_eq_true, if_false]
      exact performed

theorem recorded_follow (w : Scene) (recorded : w.Recorded) (party : Nat) (c : Callback)
    (script : List (Action Step)) : (w.follow party c script).2.Recorded := by
  have acted := recorded_act (w.partyName party) script w recorded
  cases halted : act (w.partyName party) script w with
  | mk halt v =>
    rw [halted] at acted
    simp only [follow, halted]
    cases halt with
    | failed failure =>
      have noted : (v.note (c.complaint (c.fault failure))).Recorded := acted.beside ⟨rfl, rfl, rfl⟩
      exact recorded_handle _ noted party _
    | returned => exact acted
    | yielded rest => exact acted
    | closed rest => exact acted

theorem recorded_runItem (w : Scene) (recorded : w.Recorded) (party : Nat) (item : Item) :
    (w.runItem party item).2.Recorded := by
  cases item with
  | duty d =>
    cases d with
    | call c =>
      have entered := recorded.beside (beside_enter w party c)
      simp only [runItem]
      split
      · rename_i eq
        rw [eq] at entered
        exact entered
      · rename_i eq
        rw [eq] at entered
        exact recorded_follow _ entered party c _
    | deliver f => exact recorded_handle w recorded party f
  | resume c rest =>
    have resumed : (w.record (w.partyName party) .resume).Recorded := recorded.beside ⟨rfl, rfl, rfl⟩
    exact recorded_follow _ resumed party c rest
  | proceed c rest => exact recorded_follow w recorded party c rest

theorem recorded_runAgenda (unit party : Nat) (worker : Option Nat) (items : List Item) (w : Scene)
    (recorded : w.Recorded) : (runAgenda unit party worker items w).2.Recorded := by
  induction items generalizing w with
  | nil => exact recorded.beside ⟨rfl, rfl, rfl⟩
  | cons item rest ih =>
    have one := recorded_runItem w recorded party item
    cases ran : w.runItem party item with
    | mk stop v =>
      rw [ran] at one
      simp only [runAgenda, ran]
      cases stop with
      | passed => exact ih v one
      | burst =>
        cases worker with
        | none => exact one.beside ⟨rfl, rfl, rfl⟩
        | some s => exact one.beside ⟨rfl, rfl, rfl⟩
      | yielded item => exact one
      | closed item => exact one

theorem recorded_turn (v w : Scene) (recorded : v.Recorded) (next : v.turn? = some w) : w.Recorded := by
  cases taken : v.floor.take? with
  | none =>
    rw [turn?, taken] at next
    cases next
  | some front =>
    obtain ⟨job, floor⟩ := front
    rw [turn?, taken] at next
    have start : Recorded { v with floor := floor } := recorded.beside ⟨rfl, rfl, rfl⟩
    have ran := recorded_runAgenda job.routine.unit job.routine.party job.worker job.routine.agenda _ start
    cases next
    exact ran.beside ⟨rfl, rfl, rfl⟩

theorem recorded_rest (w : Scene) (recorded : w.Recorded) : w.rest.Recorded := by
  fun_induction rest w with
  | case1 w next => exact recorded
  | case2 w v next ih => exact ih (recorded_turn w v recorded next)

theorem recorded_step (w : Scene) (recorded : w.Recorded) (s : Step) : (w.step s).2.Recorded := by
  have start : Recorded { w with events := [], notes := [] } := recorded.beside ⟨rfl, rfl, rfl⟩
  exact recorded_rest _ (recorded_perform _ start s)

theorem recorded_runAll (ss : List Step) (w : Scene) (recorded : w.Recorded) :
    (runAll ss w).2.Recorded := by
  induction ss generalizing w with
  | nil => exact recorded
  | cons s ss ih => exact ih _ (recorded_step w recorded s)

theorem recorded_start (clock : Nat → Instant) : Recorded { clock := clock } := by
  constructor <;> simp [history, System.Lawful, System.run]

theorem recorded_setUp (w v : Scene) (recorded : w.Recorded) (s : Setup) (built : w.setUp s = .ok v) :
    v.Recorded := by
  have launched (host : Host) (plan : Plan) : (w.addService host plan).Recorded :=
    (recorded_call w recorded (.launch plan) trivial).beside ⟨rfl, rfl, rfl⟩
  cases s with
  | direct e plan =>
    cases built
    exact launched _ _
  | configured text =>
    cases read : Settings.ofText text with
    | error f =>
      rw [setUp, read] at built
      cases built
    | ok c =>
      rw [setUp, read] at built
      cases built
      exact launched _ _

theorem recorded_setUpAll (setups : List Setup) (w v : Scene) (recorded : w.Recorded)
    (built : setUpAll setups w = .ok v) : v.Recorded := by
  induction setups generalizing w with
  | nil =>
    cases built
    exact recorded
  | cons s ss ih =>
    cases first : w.setUp s with
    | error f =>
      rw [setUpAll, first] at built
      cases built
    | ok u =>
      rw [setUpAll, first] at built
      exact ih u (recorded_setUp w u recorded s first) built

theorem recorded_scene (clock : Nat → Instant) (setups : List Setup) (steps : List Step) (start : Scene)
    (built : setUpAll setups { clock := clock } = .ok start) : (runAll steps start).2.Recorded :=
  recorded_runAll steps start (recorded_setUpAll setups _ start (recorded_start clock) built)

end Leadership.Scenario.Scene
