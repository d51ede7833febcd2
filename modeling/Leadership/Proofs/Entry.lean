import Leadership.Proofs.Accounting

set_option autoImplicit false

namespace Leadership.Scenario
variable {v w : Scene} {ts : List Turn} {held : Multiset Routine} {t : Turn} {name : String}

theorem Books.untried {names : List String} {attempts : List Attempt} {waiting : Multiset Routine}
    {fate : Nat → Option Completion.Fate} (books : Books names attempts ts waiting fate) (n : Nat)
    (later : attempts.length ≤ n) : turnsOf n ts = [] ∧ file n waiting = 0 := by
  have standing := books n
  rw [List.getElem?_eq_none later] at standing
  generalize turnsOf n ts = own at standing ⊢
  generalize file n waiting = waits at standing ⊢
  generalize fate n = f at standing
  cases standing
  exact ⟨rfl, rfl⟩

def Event.enters : Event → Bool
  | .grant _ | .revoke | .notify _ => true
  | _ => false

theorem enters_ofCallback (c : Callback) : (Event.ofCallback c).enters = true := by
  cases c <;> rfl

theorem Event.Within.enters {e : Event} (within : e.Within) : e.enters = false := by
  cases e with
  | resume | performed => rfl
  | _ => exact within.elim

def Turn.entered (t : Turn) : List (Nat × Event) :=
  (t.events.filter fun e => e.2.enters).map fun e => (t.routine.party, e.2)

def callbacks (a : Attempt) : List (Nat × Event) := (entries a.work).map fun e => (a.work.party, e)

theorem opens_enters (work : Work) (own : List Turn) : ∀ e ∈ opens work own, e.enters = true := by
  cases own with
  | nil =>
    intro e listed
    obtain ⟨c, _, rfl⟩ := Option.map_eq_some_iff.mp (Option.mem_toList.mp listed)
    exact enters_ofCallback c
  | cons =>
    intro e listed
    cases listed

-- With the panic that nobody watches for, there is nothing said but that the callback was entered.
theorem Scene.runItem_bursting (named : w.Named t.routine.party name) (item : Item)
    (bursts : Action.bursts (w.cue t.routine.party item) = true) :
    Utters name item.opening w (w.runItem t.routine.party item).2 := by
  cases item with
  | resume | proceed => cases bursts
  | duty d =>
    cases d with
    | deliver f => cases bursts
    | call c =>
      have entered := enter_utters w named c
      simp only [cue] at bursts
      cases picked : w.enter t.routine.party c with
      | mk script v =>
        rw [picked] at entered bursts
        cases script with
        | nil => cases bursts
        | cons a rest =>
          cases a with
          | burst payload =>
            simp only [runItem, picked]
            exact entered
          | gate | yield | perform | fail => cases bursts

theorem Turn.spoken (recorded : t.start.Recorded) (named : t.start.Named t.routine.party name) (item : Item)
    (causes : List Fault) (agenda : t.routine.agenda = item :: deliveries causes) :
    ∃ said handed, (∀ e ∈ said, e.Within) ∧ t.events = voiced name (item.opening ++ (said ++ handled handed)) := by
  cases watched : Action.bursts t.cue with
  | false =>
    obtain ⟨said, handed, within, spoken, _⟩ := t.utterance recorded named item causes agenda watched
    exact ⟨said, handed, within, spoken⟩
  | true =>
    have cued : t.cue = t.start.cue t.routine.party item := by rw [Turn.cue, agenda]; rfl
    have entered := Scene.runItem_bursting named item (cued ▸ watched)
    have lost := (Scene.runItem_burst t.start named item (cued ▸ watched)).1
    have ran : t.ran =
        Scene.runAgenda t.routine.unit t.routine.party t.worker (item :: deliveries causes) t.start := by
      rw [Turn.ran, agenda]
    cases first : t.start.runItem t.routine.party item with
    | mk stop v =>
      rw [first] at entered lost
      cases lost
      rw [Scene.runAgenda, first] at ran
      have same : t.ran.2.events = v.events := by
        rw [ran]
        cases t.worker <;> rfl
      have spoken := Turn.events_of_utters entered same
      rw [← List.append_nil item.opening] at spoken
      exact ⟨[], [], by simp, spoken⟩

theorem entered_of_spoken (own : List Turn) (a : Attempt) (party : t.routine.party = a.work.party)
    (more : List Event) (within : ∀ e ∈ more, e.Within) (handed : List Fault)
    (spoken : t.events = voiced name (opens a.work own ++ (more ++ handled handed))) :
    t.entered = (opens a.work own).map fun e => (a.work.party, e) := by
  have opening : (opens a.work own).filter Event.enters = opens a.work own :=
    List.filter_eq_self.mpr (opens_enters a.work own)
  have during : more.filter Event.enters = [] := by
    apply List.filter_eq_nil_iff.mpr
    intro e listed
    rw [(within e listed).enters]
    exact Bool.false_ne_true
  have after : (handled handed).filter Event.enters = [] := by
    apply List.filter_eq_nil_iff.mpr
    intro e listed
    obtain ⟨f, _, rfl⟩ := List.mem_map.mp listed
    exact Bool.false_ne_true
  have kept : (voiced name (opens a.work own ++ (more ++ handled handed))).filter (fun e => e.2.enters) =
      voiced name (opens a.work own) := by
    rw [voiced, List.filter_map, Function.comp_def, List.filter_append, List.filter_append]
    rw [opening, during, after, List.append_nil, List.append_nil]
    rfl
  rw [Turn.entered, spoken, kept, voiced, List.map_map, party]
  rfl

namespace Scene

theorem entered_turn (start : Orderly t.start ts {t.routine}) (recorded : t.start.Recorded) :
    ∃ a, t.start.system.ledger.attempts[t.routine.unit]? = some a ∧ t.routine.party = a.work.party ∧
      t.entered = (opens a.work (turnsOf t.routine.unit ts)).map fun e => (a.work.party, e) := by
  obtain ⟨a, name, submitted, engaged, party, progress, _, _⟩ := start.at_hand
  have named : t.start.Named t.routine.party name := party ▸ engaged.named
  obtain ⟨item, causes, agenda⟩ := progress.agenda
  obtain ⟨said, handed, within, spoken⟩ := Turn.spoken recorded named item causes agenda
  obtain ⟨more, still, opened⟩ := progress.opened item causes agenda within
  rw [← List.append_assoc, opened, List.append_assoc] at spoken
  exact ⟨a, submitted, party, entered_of_spoken _ a party more still handed spoken⟩

def Entered (w : Scene) (ts : List Turn) : Prop :=
  ∀ n a, w.system.ledger.attempts[n]? = some a →
    (∀ t ∈ turnsOf n ts, t.routine.party = a.work.party) ∧
      (turnsOf n ts).flatMap Turn.entered = if turnsOf n ts = [] then [] else callbacks a

theorem Entered.later (entered : Entered v ts) (orderly : Orderly v ts held)
    (grown : v.system.ledger.attempts <+: w.system.ledger.attempts) : Entered w ts := by
  intro n a found
  by_cases old : n < v.system.ledger.attempts.length
  · obtain ⟨fresh, grown⟩ := grown
    rw [← grown, List.getElem?_append_left old] at found
    exact entered n a found
  · obtain ⟨none, _⟩ := orderly.books.untried n (Nat.le_of_not_lt old)
    rw [none]
    constructor
    · intro t listed
      cases listed
    · rfl

theorem entered_finish (start : Orderly t.start ts {t.routine}) (recorded : t.start.Recorded)
    (entered : Entered t.start ts) : Entered t.finish (ts ++ [t]) := by
  obtain ⟨a, submitted, party, opened⟩ := entered_turn start recorded
  have grown := (turn_grown start recorded).1
  have later := entered.later start grown
  intro n b found
  obtain ⟨parties, sofar⟩ := later n b found
  by_cases own : t.routine.unit = n
  · subst own
    cases (prefix_getElem grown submitted).symm.trans found
    rw [turnsOf_self]
    constructor
    · exact List.forall_mem_append.mpr ⟨parties, List.forall_mem_singleton.mpr party⟩
    · rw [List.flatMap_append, sofar, List.flatMap_singleton, opened]
      cases turnsOf t.routine.unit ts with
      | nil => rfl
      | cons first rest => simp [opens]
  · rw [turnsOf_other n ts t own]
    exact ⟨parties, sofar⟩

theorem entered_staged (staged : Staged w ts) : Entered w ts := by
  induction staged with
  | empty =>
    intro n a found
    cases found
  | launch w ts staged host plan ih =>
    have grown := call_attempts w (recorded_staged staged) (.launch plan) trivial
    rw [← call_system] at grown
    exact ih.later (orderly_staged staged) grown
  | perform w ts staged s ih =>
    have changes := (quiet_perform w (recorded_staged staged) s).changes
    exact ih.later (orderly_staged staged) ((orderly_staged staged).attempts_changes changes)
  | turn w ts staged job floor taken ih =>
    exact entered_finish (orderly_start (orderly_staged staged) taken)
      ((recorded_staged staged).beside ⟨rfl, rfl, rfl⟩) ih
  | arrange | lose | report => assumption

end Scene
end Leadership.Scenario
