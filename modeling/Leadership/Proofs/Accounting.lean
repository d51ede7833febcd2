import Leadership.Proofs.Containment
import Leadership.Proofs.Utterance

set_option autoImplicit false

namespace Leadership

inductive Callback.Operation : Callback → String → Prop
  | grant (component : String) (token : Fence) : Operation (.grant component token) "grant_leadership"
  | revoke (component : String) : Operation (.revoke component) "revoke_leadership"
  | notify (leader : Option (Leader Fence)) : Operation (.notify leader) "notify_leader_address"

inductive Reported (operation : String) : Failure → Fault → Prop
  | error (root : String) (contexts : List String) :
      Reported operation (.returned root contexts) (.callback operation root contexts)
  | panic (text : String) : Reported operation (.panicked (some text)) (.callbackPanicked operation text)
  | wordless : Reported operation (.panicked none) (.callbackPanicked operation "unknown panic payload")

theorem Callback.reported (c : Callback) (failure : Failure) :
    ∃ operation, c.Operation operation ∧ Reported operation failure (c.fault failure) := by
  have named : c.Operation c.operation := by
    cases c with
    | grant component token => exact .grant component token
    | revoke component => exact .revoke component
    | notify leader => exact .notify leader
  cases failure with
  | returned root contexts => exact ⟨c.operation, named, .error root contexts⟩
  | panicked payload =>
    cases payload with
    | some text => exact ⟨c.operation, named, .panic text⟩
    | none => exact ⟨c.operation, named, .wordless⟩

theorem Work.call_first (w : Work) (c : Callback) (calls : w.callback? = some c) :
    w.duties.head? = some (.call c) := by
  cases w with
  | grant | revoke | notify =>
    cases calls
    rfl
  | dismiss => cases calls
  | retire m wasLeader cause =>
    cases wasLeader with
    | false => cases calls
    | true =>
      cases calls
      rfl

namespace Scenario

def opens (w : Work) : List Turn → List Event
  | [] => entries w
  | _ :: _ => []

/-- A turn in the account of its party, given the turns before it: the submission that it is for, what is said
in it, and what the error handler is handed. Only the turn that ends a unit hands over anything. -/
structure Account (w : Scene) (earlier : List Turn) (t : Turn) (a : Attempt) (name : String) (first : Turn)
    (said : List Event) (handed : List Fault) : Prop where
  submitted : w.system.ledger.attempts[t.routine.unit]? = some a
  accepted : a.verdict = .accept
  party : t.routine.party = a.work.party
  named : (w.parties.map Party.name)[a.work.party]? = some name
  begins : (turnsOf t.routine.unit earlier ++ [t]).head? = some first
  unended : ∀ u ∈ turnsOf t.routine.unit earlier, ¬ u.Ends
  picked : turnsOf t.routine.unit earlier = [] → ∀ p c, t.start.parties[a.work.party]? = some p →
    a.work.callback? = some c → t.cue = (p.scripts.take c).1
  within : ∀ e ∈ said, e.Within
  spoken : t.events = voiced name (opens a.work (turnsOf t.routine.unit earlier) ++ (said ++ handled handed))
  ended : t.Ends → handed = errors a.work first.cue
  paused : ¬ t.Ends → handed = []

def turnsFor (p : Nat) (ts : List Turn) : List Turn := ts.filter fun t => t.routine.party == p

def Turn.closes (t : Turn) : Bool := t.ran.1.rest?.isNone

theorem Turn.closes_iff (t : Turn) : t.closes = true ↔ t.Ends := by
  rw [Turn.closes, Turn.Ends]
  exact Option.isNone_iff_eq_none

def errorsOf (w : Scene) (ts : List Turn) (n : Nat) : List Fault :=
  match w.system.ledger.attempts[n]?, turnsOf n ts with
  | some a, first :: _ => errors a.work first.cue
  | _, _ => []

def Accounted (w : Scene) (earlier : List Turn) (t : Turn) : Prop :=
  ∃ a name first said handed, Account w earlier t a name first said handed

variable {v w : Scene} {ts earlier : List Turn} {t : Turn} {held : Multiset Routine} {name : String}

theorem Accounted.later (accounted : Accounted v earlier t)
    (attempts : v.system.ledger.attempts <+: w.system.ledger.attempts)
    (names : v.parties.map Party.name <+: w.parties.map Party.name) : Accounted w earlier t := by
  obtain ⟨a, name, first, said, handed, account⟩ := accounted
  exact ⟨a, name, first, said, handed,
    { account with
      submitted := prefix_getElem attempts account.submitted
      named := prefix_getElem names account.named }⟩

theorem Progress.opened {work : Work} {own : List Turn} {agenda : List Item} {said : List Event}
    (progress : Progress name work.duties own agenda) (item : Item) (causes : List Fault)
    (same : agenda = item :: deliveries causes) (within : ∀ e ∈ said, e.Within) :
    ∃ more, (∀ e ∈ more, e.Within) ∧ item.opening ++ said = opens work own ++ more := by
  cases progress with
  | fresh => exact ⟨said, within, by rw [opening_work work item causes same, opens]⟩
  | begun first later _ watched silent left =>
    obtain ⟨item', _, _, shape, begun, _⟩ := left
    obtain ⟨rfl, _⟩ := List.cons.inj (same.symm.trans shape)
    exact ⟨item.opening ++ said, List.forall_mem_append.mpr ⟨begun.opening, within⟩, rfl⟩

theorem Progress.picked {work : Work} (progress : Progress name work.duties [] t.routine.agenda)
    (party : t.routine.party = work.party) (p : Party) (c : Callback) (found : t.start.parties[work.party]? = some p)
    (calls : work.callback? = some c) : t.cue = (p.scripts.take c).1 := by
  generalize agenda : t.routine.agenda = items at progress
  cases progress with
  | fresh =>
    have front : t.routine.agenda.head? = some (.duty (.call c)) := by
      rw [agenda, List.head?_map, work.call_first c calls]
      rfl
    have cued : t.cue = (t.start.enter work.party c).1 := by
      rw [Turn.cue, front, party]
      rfl
    rw [cued, Scene.enter, found]
    cases c <;> rfl

theorem faults_opens (work : Work) (own : List Turn) : (opens work own).filterMap Event.fault? = [] := by
  cases own with
  | cons => rfl
  | nil =>
    rw [opens, entries]
    cases work.callback? with
    | none => rfl
    | some c => cases c <;> rfl

theorem Accounted.faults {k : Nat} (here : ts[k]? = some t) (accounted : Accounted w (ts.take k) t) :
    faults t.events = if t.closes then errorsOf w ts t.routine.unit else [] := by
  obtain ⟨a, name, first, said, handed, account⟩ := accounted
  have told : Scenario.faults t.events = handed := by
    rw [account.spoken, faults_voiced, List.filterMap_append, List.filterMap_append, faults_opens,
      faults_within said account.within, faults_handled]
    rfl
  rw [told]
  by_cases closing : t.closes = true
  · obtain ⟨within, rfl⟩ := List.getElem?_eq_some_iff.mp here
    have split : turnsOf ts[k].routine.unit ts =
        turnsOf ts[k].routine.unit (ts.take k ++ [ts[k]]) ++ turnsOf ts[k].routine.unit (ts.drop (k + 1)) := by
      rw [turnsOf, turnsOf, turnsOf, ← List.filter_append, List.append_assoc, List.singleton_append,
        List.getElem_cons_drop, List.take_append_drop]
    obtain ⟨later, shape⟩ := List.head?_eq_some_iff.mp account.begins
    rw [turnsOf_self, shape, List.cons_append] at split
    rw [if_pos closing, account.ended ((Turn.closes_iff _).mp closing), errorsOf, account.submitted, split]
  · rw [if_neg closing]
    exact account.paused fun ends => closing ((Turn.closes_iff t).mpr ends)

theorem flatMap_of_filter {α β : Type} (l : List α) (p : α → Bool) (f g : α → List β)
    (each : ∀ a ∈ l, f a = if p a then g a else []) : l.flatMap f = (l.filter p).flatMap g := by
  induction l with
  | nil => rfl
  | cons a l ih =>
    rw [List.flatMap_cons, each a List.mem_cons_self, ih fun b member => each b (List.mem_cons_of_mem a member)]
    by_cases kept : p a = true
    · rw [if_pos kept, List.filter_cons_of_pos kept, List.flatMap_cons]
    · rw [if_neg kept, List.filter_cons_of_neg kept, List.nil_append]

namespace Scene

theorem account_start (start : Orderly t.start ts {t.routine}) (recorded : t.start.Recorded)
    (watched : Action.bursts t.cue = false) : Accounted t.start ts t := by
  obtain ⟨a, name, submitted, engaged, party, progress, _, _⟩ := start.at_hand
  have named : t.start.Named t.routine.party name := party ▸ engaged.named
  obtain ⟨item, causes, agenda⟩ := progress.agenda
  obtain ⟨said, handed, within, spoken, ended, paused⟩ := t.utterance recorded named item causes agenda watched
  obtain ⟨silent, first, later, shape, owes, _⟩ := progress.past
  obtain ⟨more, within, opened⟩ := progress.opened item causes agenda within
  have due := owes.trans (due_work a.work first.cue)
  exact ⟨a, name, first, more, handed, {
    submitted := submitted
    accepted := engaged.verdict
    party := party
    named := engaged.named
    begins := by rw [shape, List.head?_cons]
    unended := fun u member => (silent u member).2
    picked := fun none p c found calls => (none ▸ progress).picked party p c found calls
    within := within
    spoken := by rw [spoken, ← List.append_assoc, opened, List.append_assoc]
    ended := fun ends => (ended ends).trans due
    paused := paused }⟩

theorem Orderly.attempts_change (orderly : Orderly v ts held) (change : Change v w) :
    v.system.ledger.attempts <+: w.system.ledger.attempts := by
  cases change with
  | aside _ aside => exact aside.system ▸ List.prefix_refl _
  | party name scripts => exact List.prefix_refl _
  | call c known seat =>
    rw [call_system]
    exact call_attempts v.bare orderly.recorded c known
  | lose rs floor taken =>
    obtain ⟨fates, same⟩ := settleAll_rest rs { v with floor := floor }
    exact same ▸ List.prefix_refl _

theorem Orderly.attempts_changes (orderly : Orderly v ts held) (changes : Changes v w) :
    v.system.ledger.attempts <+: w.system.ledger.attempts := by
  induction changes with
  | refl => exact List.prefix_refl _
  | tail before change ih => exact ih.trans ((orderly.changes before).attempts_change change)

theorem turn_grown (start : Orderly t.start ts {t.routine}) (recorded : t.start.Recorded) :
    t.start.system.ledger.attempts <+: t.finish.system.ledger.attempts ∧
      t.start.parties.map Party.name <+: t.finish.parties.map Party.name := by
  obtain ⟨name, named, outcome⟩ := outcome_of_orderly start recorded
  obtain ⟨v, system, parties, changes⟩ :
      ∃ v, t.finish.system = v.system ∧ t.finish.parties = v.parties ∧ Changes t.start v := by
    cases outcome with
    | finished v _ ran talk =>
      rw [Turn.finish, ran]
      exact ⟨v, rfl, rfl, talk.changes⟩
    | burst v _ ran talk =>
      rw [Turn.finish, ran]
      exact ⟨v, rfl, rfl, talk.changes⟩
    | paused v _ _ _ ran _ _ _ _ talk =>
      rw [Turn.finish, ran]
      exact ⟨v, rfl, rfl, talk.changes⟩
  rw [system, parties]
  exact ⟨start.attempts_changes changes, names_changes changes⟩

theorem accounted_staged (staged : Staged w ts) (guarded : ∀ t ∈ ts, Action.bursts t.cue = false) (k : Nat)
    (t : Turn) (here : ts[k]? = some t) : Accounted w (ts.take k) t := by
  induction staged with
  | empty => cases here
  | launch w ts staged host plan ih =>
    have attempts := call_attempts w (recorded_staged staged) (.launch plan) trivial
    have names : (w.addService host plan).parties = w.parties := call_parties w (.launch plan)
    rw [← call_system] at attempts
    exact (ih guarded here).later attempts (names ▸ List.prefix_refl _)
  | perform w ts staged s ih =>
    have changes := (quiet_perform w (recorded_staged staged) s).changes
    exact (ih guarded here).later ((orderly_staged staged).attempts_changes changes) (names_changes changes)
  | turn w ts staged job floor taken ih =>
    have start := orderly_start (orderly_staged staged) taken
    have recorded : (w.turn job floor).start.Recorded := (recorded_staged staged).beside ⟨rfl, rfl, rfl⟩
    obtain ⟨attempts, names⟩ := turn_grown start recorded
    by_cases old : k < ts.length
    · rw [List.getElem?_append_left old] at here
      rw [List.take_append_of_le_length (Nat.le_of_lt old)]
      exact (ih (fun t member => guarded t (List.mem_append_left _ member)) here).later attempts names
    · have bound := (List.getElem?_eq_some_iff.mp here).1
      rw [List.length_append, List.length_singleton] at bound
      obtain rfl : k = ts.length := by omega
      rw [List.getElem?_concat_length] at here
      cases here
      rw [List.take_left]
      exact (account_start start recorded (guarded _ (by simp))).later attempts names
  | arrange w ts staged floor same ih => exact (ih guarded here).later (List.prefix_refl _) (List.prefix_refl _)
  | lose w ts staged r floor taken ih => exact (ih guarded here).later (List.prefix_refl _) (List.prefix_refl _)
  | report w ts staged ih => exact (ih guarded here).later (List.prefix_refl _) (List.prefix_refl _)

-- Every turn is accounted for, and nothing is said outside of turns. All that the error handler of a party gets
-- is what each of the party's own units owes it at the end of its last turn, in the order in which they end.
theorem errors_accounted (w : Scene) (ts : List Turn) (staged : Staged w ts)
    (guarded : ∀ t ∈ ts, Action.bursts t.cue = false) :
    (∀ k t, ts[k]? = some t → Accounted w (ts.take k) t) ∧
      (∀ p, handedOver (turnsFor p ts) =
        ((turnsFor p ts).filter Turn.closes).flatMap fun t => errorsOf w ts t.routine.unit) ∧
      w.events <:+ ts.flatMap Turn.events ∧
      ∀ (c : Callback) (failure : Failure), ∃ operation,
        c.Operation operation ∧ Reported operation failure (c.fault failure) := by
  have accounted := accounted_staged staged guarded
  have told (p : Nat) : handedOver (turnsFor p ts) =
      ((turnsFor p ts).filter Turn.closes).flatMap fun t => errorsOf w ts t.routine.unit := by
    apply flatMap_of_filter
    intro t member
    obtain ⟨k, here⟩ := List.mem_iff_getElem?.mp (List.mem_filter.mp member).1
    exact (accounted k t here).faults here
  exact ⟨accounted, told, events_staged staged, Callback.reported⟩

-- A leader whose callbacks all fail, and whose error handler panics the first time. The service goes down while
-- it leads, and its revoke waits at a gate before it panics.
def mishaps : Scene × List Turn :=
  let granted := paced ((performAll
    [.register 0 "lead" "a"
      { onGrant := [[.fail (.returned "not now" ["busy"])]]
        onRevoke := [[.gate, .fail (.panicked none)]]
        onError := [[.fail (.panicked (some "boom"))]] }]
    (addService {} ⟨.serial, true⟩ {})).2, [])
  let closed := paced ((performAll [.shutDown 0 .noRuntime] granted.1).2, granted.2)
  paced ((performAll [.release "a"] closed.1).2, closed.2)

theorem mishaps_staged : Staged mishaps.1 mishaps.2 := by
  have joined := staged_performAll (.launch {} [] (.empty _) ⟨.serial, true⟩ {})
    [.register 0 "lead" "a"
      { onGrant := [[.fail (.returned "not now" ["busy"])]]
        onRevoke := [[.gate, .fail (.panicked none)]]
        onError := [[.fail (.panicked (some "boom"))]] }]
  have granted := staged_paced (_, []) joined
  have closed := staged_paced (_, _) (staged_performAll granted [.shutDown 0 .noRuntime])
  exact staged_paced (_, _) (staged_performAll closed [.release "a"])

theorem mishaps_accounted :
    Staged mishaps.1 mishaps.2 ∧ (∀ t ∈ mishaps.2, Action.bursts t.cue = false) ∧ mishaps.2.length = 3 ∧
      handedOver (turnsFor 0 mishaps.2) = [.callback "grant_leadership" "not now" ["busy"],
        .callbackPanicked "revoke_leadership" "unknown panic payload", .noRuntime] ∧
      (∀ k t, mishaps.2[k]? = some t → Accounted mishaps.1 (mishaps.2.take k) t) ∧
      handedOver (turnsFor 0 mishaps.2) =
        ((turnsFor 0 mishaps.2).filter Turn.closes).flatMap fun t => errorsOf mishaps.1 mishaps.2 t.routine.unit := by
  have guarded : ∀ t ∈ mishaps.2, Action.bursts t.cue = false := by decide
  obtain ⟨accounted, parties, _⟩ := errors_accounted mishaps.1 mishaps.2 mishaps_staged guarded
  exact ⟨mishaps_staged, guarded, rfl, rfl, accounted, parties 0⟩

end Scene

end Scenario
end Leadership
