import Leadership.Proofs.Speech
import Mathlib.Logic.Function.Basic

set_option autoImplicit false

namespace Leadership.Scenario

def turnsOf (n : Nat) (ts : List Turn) : List Turn := ts.filter fun t => t.routine.unit == n

def file (n : Nat) (waiting : Multiset Routine) : Multiset Routine := waiting.filter fun r => r.unit = n

theorem turnsOf_self (ts : List Turn) (t : Turn) :
    turnsOf t.routine.unit (ts ++ [t]) = turnsOf t.routine.unit ts ++ [t] := by
  simp [turnsOf, List.filter_append]

theorem turnsOf_other (n : Nat) (ts : List Turn) (t : Turn) (other : t.routine.unit ≠ n) :
    turnsOf n (ts ++ [t]) = turnsOf n ts := by
  simp [turnsOf, List.filter_append, other]

theorem file_self (r : Routine) (waiting : Multiset Routine) :
    file r.unit (r ::ₘ waiting) = r ::ₘ file r.unit waiting :=
  Multiset.filter_cons_of_pos _ rfl

theorem file_other (n : Nat) (r : Routine) (waiting : Multiset Routine) (other : r.unit ≠ n) :
    file n (r ::ₘ waiting) = file n waiting :=
  Multiset.filter_cons_of_neg _ other

/-- How far a unit with these duties has come. A turn that only paused it was silent to the party's error
handler, and leaves all that the first turn came to know of. -/
inductive Progress (name : String) (duties : List Duty) : List Turn → List Item → Prop
  | fresh : Progress name duties [] (duties.map .duty)
  | begun (first : Turn) (later : List Turn) (agenda : List Item) (watched : Action.bursts first.cue = false)
      (silent : ∀ t ∈ first :: later, t.Says name [] ∧ ¬ t.Ends)
      (left : UnderWay agenda (duties.flatMap (owed first.cue))) : Progress name duties (first :: later) agenda

theorem UnderWay.due {agenda : List Item} {faults : List Fault} (left : UnderWay agenda faults)
    (script : List (Action Step)) : due script agenda = faults := by
  obtain ⟨item, own, causes, rfl, begun, rfl⟩ := left
  rw [due_deliveries, begun.due]

structure Engaged (names : List String) (a : Attempt) (name : String) : Prop where
  verdict : a.verdict = .accept
  named : names[a.work.party]? = some name

/-- Where a submission stands, given the names of the parties: the turns it has had, what waits of it, and
its fate. -/
inductive Standing (names : List String) :
    Option Attempt → List Turn → Multiset Routine → Option Completion.Fate → Prop
  | absent : Standing names none [] 0 none
  | rejected (a : Attempt) (why : Fault) (verdict : a.verdict = .reject why) : Standing names (some a) [] 0 none
  | discarded (a : Attempt) (verdict : a.verdict = .discard) : Standing names (some a) [] 0 (some .dropped)
  | waiting (a : Attempt) (name : String) (own : List Turn) (r : Routine) (engaged : Engaged names a name)
      (party : r.party = a.work.party) (progress : Progress name a.work.duties own r.agenda) :
      Standing names (some a) own {r} none
  | lost (a : Attempt) (name : String) (own : List Turn) (agenda : List Item) (engaged : Engaged names a name)
      (progress : Progress name a.work.duties own agenda) : Standing names (some a) own 0 (some .dropped)
  | finished (a : Attempt) (name : String) (own : List Turn) (t : Turn) (engaged : Engaged names a name)
      (progress : Progress name a.work.duties own t.routine.agenda) (ends : t.Ends)
      (watched : Action.bursts t.cue = false) (spoken : t.Says name (due t.cue t.routine.agenda)) :
      Standing names (some a) (own ++ [t]) 0 (some .finished)
  | burst (a : Attempt) (name : String) (own : List Turn) (t : Turn) (engaged : Engaged names a name)
      (progress : Progress name a.work.duties own t.routine.agenda) (ends : t.Ends)
      (bursts : Action.bursts t.cue = true) (spoken : t.Says name []) :
      Standing names (some a) (own ++ [t]) 0 (some .dropped)

def Books (names : List String) (attempts : List Attempt) (ts : List Turn) (waiting : Multiset Routine)
    (fate : Nat → Option Completion.Fate) : Prop :=
  ∀ n, Standing names attempts[n]? (turnsOf n ts) (file n waiting) (fate n)

variable {names more : List String} {attempts : List Attempt} {ts : List Turn} {waiting : Multiset Routine}
  {fate : Nat → Option Completion.Fate} {name : String} {a : Attempt}

theorem Progress.pause {duties : List Duty} {own : List Turn} {t : Turn} {agenda : List Item}
    (progress : Progress name duties own t.routine.agenda) (watched : Action.bursts t.cue = false)
    (spoken : t.Says name []) (goes_on : ¬ t.Ends) (left : UnderWay agenda (due t.cue t.routine.agenda)) :
    Progress name duties (own ++ [t]) agenda := by
  generalize t.routine.agenda = items at progress left
  cases progress with
  | fresh =>
    rw [due_duties] at left
    exact .begun t [] agenda watched (by simpa using ⟨spoken, goes_on⟩) left
  | begun first later _ watched' silent begun =>
    rw [begun.due] at left
    refine .begun first (later ++ [t]) agenda watched' ?_ left
    intro u member
    rcases List.mem_append.mp (List.cons_append.symm ▸ member : u ∈ first :: later ++ [t]) with old | new
    · exact silent u old
    · exact List.mem_singleton.mp new ▸ ⟨spoken, goes_on⟩

theorem Work.agenda (w : Work) : ∃ item causes, w.duties.map Item.duty = item :: deliveries causes := by
  cases w with
  | grant | revoke | notify => exact ⟨_, [], rfl⟩
  | dismiss _ cause => exact ⟨_, [], rfl⟩
  | retire m wasLeader cause =>
    cases wasLeader with
    | true => exact ⟨_, [cause], rfl⟩
    | false => exact ⟨_, [], rfl⟩

theorem Progress.agenda {w : Work} {own : List Turn} {agenda : List Item}
    (progress : Progress name w.duties own agenda) : ∃ item causes, agenda = item :: deliveries causes := by
  cases progress with
  | fresh => exact Work.agenda w
  | begun first later _ watched silent left =>
    obtain ⟨item, _, causes, same, _⟩ := left
    exact ⟨item, causes, same⟩

theorem Engaged.later (engaged : Engaged names a name) (grown : names <+: more) : Engaged more a name :=
  ⟨engaged.verdict, prefix_getElem grown engaged.named⟩

theorem Standing.later {a : Option Attempt} {own : List Turn} {s : Multiset Routine} {f : Option Completion.Fate}
    (standing : Standing names a own s f) (grown : names <+: more) : Standing more a own s f := by
  cases standing with
  | absent => exact .absent
  | rejected a why verdict => exact .rejected a why verdict
  | discarded a verdict => exact .discarded a verdict
  | waiting a name own r engaged party progress => exact .waiting a name own r (engaged.later grown) party progress
  | lost a name own agenda engaged progress => exact .lost a name own agenda (engaged.later grown) progress
  | finished a name own t engaged progress ends watched spoken =>
    exact .finished a name own t (engaged.later grown) progress ends watched spoken
  | burst a name own t engaged progress ends bursts spoken =>
    exact .burst a name own t (engaged.later grown) progress ends bursts spoken

def handedOver (ts : List Turn) : List Fault := ts.flatMap fun t => faults t.events

def Ran (own : List Turn) : Prop := ∃ t ∈ own, t.Ends

theorem Progress.unfinished {duties : List Duty} {own : List Turn} {agenda : List Item}
    (progress : Progress name duties own agenda) : ¬ Ran own := by
  rintro ⟨t, member, ended⟩
  cases progress with
  | fresh => cases member
  | begun first later _ watched silent left => exact (silent t member).2 ended

theorem handedOver_silent {own : List Turn} (silent : ∀ t ∈ own, t.Says name [] ∧ ¬ t.Ends) : handedOver own = [] := by
  rw [handedOver, List.flatMap_eq_nil_iff]
  exact fun t member => (silent t member).1.2

theorem handedOver_append (own more : List Turn) :
    handedOver (own ++ more) = handedOver own ++ handedOver more :=
  List.flatMap_append

theorem Progress.past {duties : List Duty} {own : List Turn} {t : Turn}
    (progress : Progress name duties own t.routine.agenda) :
    (∀ u ∈ own, u.Says name [] ∧ ¬ u.Ends) ∧ ∃ first later, own ++ [t] = first :: later ∧
      due t.cue t.routine.agenda = duties.flatMap (owed first.cue) ∧ Action.bursts t.cue = Action.bursts first.cue := by
  generalize items : t.routine.agenda = agenda at progress
  cases progress with
  | fresh => exact ⟨by simp, t, [], rfl, due_duties _ _, rfl⟩
  | begun first later _ watched silent left =>
    refine ⟨silent, first, later ++ [t], List.cons_append, left.due _, ?_⟩
    obtain ⟨item, _, causes, same, begun, _⟩ := left
    have idle : t.cue = [] := by
      rw [Turn.cue, items, same]
      exact begun.uncued _ _
    rw [idle, watched]
    rfl

/-- What has become of a unit that has run. If its party could be watched from the start, it has finished, and
all that was due has been handed over. If not, it is lost, and nothing has been handed over. -/
structure Settled (names : List String) (a : Attempt) (own : List Turn) (f : Option Completion.Fate) : Prop where
  accepted : a.verdict = .accept
  spoken : ∃ name, names[a.work.party]? = some name ∧ ∀ t ∈ own, ∀ e ∈ t.events, e.1 = name
  watched : ∀ first later, own = first :: later → Action.bursts first.cue = false →
    f = some .finished ∧ handedOver own = a.work.duties.flatMap (owed first.cue)
  burst : ∀ first later, own = first :: later → Action.bursts first.cue = true → f = some .dropped ∧ handedOver own = []

namespace Standing
variable {found : Option Attempt} {own : List Turn} {s : Multiset Routine} {f : Option Completion.Fate}

theorem spoken_last {own : List Turn} {t : Turn} {handed : List Fault}
    (silent : ∀ u ∈ own, u.Says name [] ∧ ¬ u.Ends) (spoken : t.Says name handed) :
    (∀ u ∈ own ++ [t], ∀ e ∈ u.events, e.1 = name) ∧ handedOver (own ++ [t]) = handed := by
  refine ⟨?_, ?_⟩
  · intro u member
    rcases List.mem_append.mp member with early | last
    · exact (silent u early).1.1
    · exact List.mem_singleton.mp last ▸ spoken.1
  · rw [handedOver_append, handedOver_silent silent, List.nil_append, handedOver, List.flatMap_singleton]
    exact spoken.2

theorem settled (standing : Standing names found own s f) (ran : Ran own) :
    ∃ a, found = some a ∧ Settled names a own f := by
  cases standing with
  | absent | rejected | discarded =>
    obtain ⟨t, member, _⟩ := ran
    cases member
  | waiting a name own r engaged party progress => exact absurd ran progress.unfinished
  | lost a name own agenda engaged progress => exact absurd ran progress.unfinished
  | finished a name own t engaged progress ends watched spoken =>
    obtain ⟨silent, first, later, shape, owes, cued⟩ := progress.past
    obtain ⟨mine, handed⟩ := spoken_last silent spoken
    refine ⟨a, rfl, engaged.verdict, ⟨name, engaged.named, mine⟩, ?_, ?_⟩
    · intro first' later' shape' _
      cases shape.symm.trans shape'
      exact ⟨rfl, handed.trans owes⟩
    · intro first' later' shape' bursts
      cases shape.symm.trans shape'
      rw [cued, bursts] at watched
      cases watched
  | burst a name own t engaged progress ends bursts spoken =>
    obtain ⟨silent, first, later, shape, owes, cued⟩ := progress.past
    obtain ⟨mine, handed⟩ := spoken_last silent spoken
    refine ⟨a, rfl, engaged.verdict, ⟨name, engaged.named, mine⟩, ?_, ?_⟩
    · intro first' later' shape' watched
      cases shape.symm.trans shape'
      rw [cued, watched] at bursts
      cases bursts
    · intro first' later' shape' _
      cases shape.symm.trans shape'
      exact ⟨rfl, handed⟩

theorem dropped (standing : Standing names found own s (some .dropped)) :
    ∃ a, found = some a ∧ (a.verdict = .discard ∨
      a.verdict = .accept ∧ (¬ Ran own ∨ ∃ t ∈ own, Action.bursts t.cue = true)) := by
  generalize fated : some Completion.Fate.dropped = f at standing
  cases standing with
  | absent | rejected | waiting | finished => cases fated
  | discarded a verdict => exact ⟨a, rfl, .inl verdict⟩
  | lost a name own agenda engaged progress =>
    exact ⟨a, rfl, .inr ⟨engaged.verdict, .inl progress.unfinished⟩⟩
  | burst a name own t engaged progress ends bursts spoken =>
    exact ⟨a, rfl, .inr ⟨engaged.verdict, .inr ⟨t, by simp, bursts⟩⟩⟩

end Standing

namespace Books

theorem start : Books [] [] [] 0 fun _ => none := fun _ => .absent

theorem later (books : Books names attempts ts waiting fate) (grown : names <+: more) :
    Books more attempts ts waiting fate :=
  fun n => (books n).later grown

theorem entry {r : Routine} (books : Books names attempts ts (r ::ₘ waiting) fate) :
    ∃ a name, attempts[r.unit]? = some a ∧ Engaged names a name ∧ r.party = a.work.party ∧
      Progress name a.work.duties (turnsOf r.unit ts) r.agenda ∧ file r.unit waiting = 0 ∧ fate r.unit = none := by
  have standing := books r.unit
  rw [file_self] at standing
  generalize turnsOf r.unit ts = own at standing ⊢
  generalize filed : r ::ₘ file r.unit waiting = held at standing
  generalize attempts[r.unit]? = found at standing ⊢
  generalize fate r.unit = f at standing ⊢
  cases standing with
  | waiting a name own r' engaged party progress =>
    obtain ⟨rfl, alone⟩ := (Multiset.cons_eq_cons.mp filed).resolve_right (by
      rintro ⟨_, cs, _, same⟩
      exact Multiset.cons_ne_zero same.symm)
    exact ⟨a, name, rfl, engaged, party, progress, alone, rfl⟩
  | absent | rejected | discarded | lost | finished | burst => exact absurd filed Multiset.cons_ne_zero

theorem amend {r : Routine} {ts' : List Turn} {waiting' : Multiset Routine} {fate' : Nat → Option Completion.Fate}
    (books : Books names attempts ts (r ::ₘ waiting) fate)
    (turns : ∀ n, r.unit ≠ n → turnsOf n ts' = turnsOf n ts)
    (files : ∀ n, r.unit ≠ n → file n waiting' = file n waiting) (fates : ∀ n, r.unit ≠ n → fate' n = fate n)
    (own : Standing names attempts[r.unit]? (turnsOf r.unit ts') (file r.unit waiting') (fate' r.unit)) :
    Books names attempts ts' waiting' fate' := by
  intro n
  by_cases same : r.unit = n
  · exact same ▸ own
  · have kept := books n
    rw [file_other n r waiting same] at kept
    rwa [turns n same, files n same, fates n same]

theorem lose {r : Routine} (books : Books names attempts ts (r ::ₘ waiting) fate) :
    Books names attempts ts waiting (Function.update fate r.unit (some .dropped)) := by
  obtain ⟨a, name, found, engaged, _, progress, alone, _⟩ := books.entry
  refine books.amend (fun _ _ => rfl) (fun _ _ => rfl) (fun n other => Function.update_of_ne other.symm _ _) ?_
  rw [found, alone, Function.update_self]
  exact .lost a name _ _ engaged progress

variable {t : Turn}

theorem name_of_entry {party : Nat} (engaged : Engaged names a name) (same : party = a.work.party) {name' : String}
    (named : names[party]? = some name') : name' = name :=
  Option.some.inj (named.symm.trans (same ▸ engaged.named))

theorem close (books : Books names attempts ts (t.routine ::ₘ waiting) fate)
    (named : names[t.routine.party]? = some name) (f : Completion.Fate)
    (standing : ∀ a own, Engaged names a name → Progress name a.work.duties own t.routine.agenda →
      Standing names (some a) (own ++ [t]) 0 (some f)) :
    Books names attempts (ts ++ [t]) waiting (Function.update fate t.routine.unit (some f)) := by
  obtain ⟨a, _, found, engaged, party, progress, alone, _⟩ := books.entry
  obtain rfl := name_of_entry engaged party named
  refine books.amend (fun n => turnsOf_other n ts t) (fun _ _ => rfl)
    (fun n other => Function.update_of_ne other.symm _ _) ?_
  rw [found, alone, Function.update_self, turnsOf_self]
  exact standing a _ engaged progress

theorem pause (books : Books names attempts ts (t.routine ::ₘ waiting) fate)
    (named : names[t.routine.party]? = some name) (goes_on : ¬ t.Ends) (watched : Action.bursts t.cue = false)
    (spoken : t.Says name []) (rest : Routine) (unit : rest.unit = t.routine.unit)
    (party : rest.party = t.routine.party) (left : UnderWay rest.agenda (due t.cue t.routine.agenda)) :
    Books names attempts (ts ++ [t]) (rest ::ₘ waiting) fate := by
  obtain ⟨a, _, found, engaged, party', progress, alone, unsettled⟩ := books.entry
  obtain rfl := name_of_entry engaged party' named
  refine books.amend (fun n => turnsOf_other n ts t) (fun n other => file_other n rest waiting (unit ▸ other))
    (fun _ _ => rfl) ?_
  have filed : file t.routine.unit (rest ::ₘ waiting) = {rest} := by
    rw [← unit, file_self, unit, alone]
    rfl
  rw [found, filed, unsettled, turnsOf_self]
  exact .waiting a name _ rest engaged (party.trans party') (progress.pause watched spoken goes_on left)

theorem unsettled (books : Books names attempts ts waiting fate) : fate attempts.length = none := by
  have standing := books attempts.length
  rw [List.getElem?_eq_none (Nat.le_refl _)] at standing
  generalize turnsOf attempts.length ts = turns at standing
  generalize file attempts.length waiting = held at standing
  generalize fate attempts.length = f at standing ⊢
  cases standing
  rfl

theorem extend {waiting' : Multiset Routine} {fate' : Nat → Option Completion.Fate}
    (books : Books names attempts ts waiting fate) (a : Attempt)
    (files : ∀ n, n ≠ attempts.length → file n waiting' = file n waiting)
    (fates : ∀ n, n ≠ attempts.length → fate' n = fate n)
    (own : file attempts.length waiting = 0 → fate attempts.length = none →
      Standing names (some a) [] (file attempts.length waiting') (fate' attempts.length)) :
    Books names (attempts ++ [a]) ts waiting' fate' := by
  intro n
  by_cases last : n = attempts.length
  · subst last
    have blank := books attempts.length
    rw [List.getElem?_eq_none (Nat.le_refl _)] at blank
    rw [List.getElem?_concat_length]
    generalize turnsOf attempts.length ts = turns at blank ⊢
    generalize file attempts.length waiting = held at blank own
    generalize fate attempts.length = f at blank own
    cases blank with
    | absent => exact own rfl rfl
  · have kept := books n
    have same : (attempts ++ [a])[n]? = attempts[n]? := by
      by_cases old : n < attempts.length
      · exact List.getElem?_append_left old
      · rw [List.getElem?_eq_none (by simp; omega), List.getElem?_eq_none (by omega)]
    rwa [same, files n last, fates n last]

theorem reject (books : Books names attempts ts waiting fate) (a : Attempt) (why : Fault)
    (verdict : a.verdict = .reject why) : Books names (attempts ++ [a]) ts waiting fate := by
  refine books.extend a (fun _ _ => rfl) (fun _ _ => rfl) fun empty unsettled => ?_
  rw [empty, unsettled]
  exact .rejected a why verdict

theorem discard (books : Books names attempts ts waiting fate) (a : Attempt) (verdict : a.verdict = .discard) :
    Books names (attempts ++ [a]) ts waiting (Function.update fate attempts.length (some .dropped)) := by
  refine books.extend a (fun _ _ => rfl) (fun n other => Function.update_of_ne other _ _) fun empty _ => ?_
  rw [empty, Function.update_self]
  exact .discarded a verdict

theorem accept (books : Books names attempts ts waiting fate) (a : Attempt) (engaged : Engaged names a name) :
    Books names (attempts ++ [a]) ts (⟨attempts.length, a.work.party, a.work.duties.map .duty⟩ ::ₘ waiting) fate := by
  refine books.extend a (fun n other => file_other n _ _ other.symm) (fun _ _ => rfl) fun empty unsettled => ?_
  have filed := file_self ⟨attempts.length, a.work.party, a.work.duties.map .duty⟩ waiting
  rw [filed, empty, unsettled]
  exact .waiting a name [] _ engaged rfl .fresh

end Books
end Leadership.Scenario
