import Leadership.Proofs.Books
import Leadership.Proofs.Isolation

set_option autoImplicit false

namespace Leadership.System
variable {calls : List Call}

theorem registers_step (lawful : Lawful {} calls) (i s : Nat) (w : Work)
    (registers : (before calls (i + 1)).Registers s w) :
    (before calls i).Registers s w ∨ calls[i]? = some (.start w.handle w.party) := by
  cases here : calls[i]? with
  | none =>
    rw [before_end calls i here] at registers
    exact .inl registers
  | some call =>
    obtain ⟨held, takes⟩ := before_takes lawful i call here
    obtain ⟨v, found, served⟩ := registers
    rcases takes_service takes s v found with kept | ⟨plan, rfl⟩ | ⟨u, e, _, present, moves, rfl, _⟩
    · exact .inl ⟨v, kept, served⟩
    · cases w <;> cases served
    · have sound := (sound_before lawful i).cleared.desks s u present
      rcases Desk.moves_members sound held moves w served with earlier | started
      · exact .inl ⟨u, present, earlier⟩
      · exact .inr (congrArg some started)

theorem registers_started (lawful : Lawful {} calls) (n s : Nat) (w : Work)
    (registers : (before calls n).Registers s w) : .start w.handle w.party ∈ calls := by
  induction n with
  | zero =>
    obtain ⟨v, found, _⟩ := registers
    cases found
  | succ n ih =>
    rcases registers_step lawful n s w registers with earlier | here
    · exact ih earlier
    · exact List.mem_of_getElem? here

theorem party_started (lawful : Lawful {} calls) (a : Attempt) (member : a ∈ (run {} calls).ledger.attempts) :
    .start a.work.handle a.work.party ∈ calls := by
  obtain ⟨x, present⟩ := List.mem_iff_getElem?.mp member
  rw [← before_all] at present
  obtain ⟨i, _, made⟩ := made_by_some_call lawful _ x a present
  obtain ⟨call, _, _, here, _⟩ := visit_of_made lawful i x a made
  have fresh : a ∈ submitted calls i := by
    have sent := made.2
    rw [attempts_succ lawful i, List.getElem?_append_right made.1] at sent
    exact List.mem_of_getElem? sent
  obtain ⟨_, _, registers | rfl⟩ := addressed_call lawful i call here a fresh
  · exact registers_started lawful i a.service a.work registers
  · exact List.mem_of_getElem? here

end Leadership.System

namespace Leadership.Scenario.Scene
variable {v w : Scene} {ts : List Turn} {held : Multiset Routine}

def bare (w : Scene) : Scene := { w with handles := [] }

-- The books of a scene are in order while some units are being run.
structure Orderly (w : Scene) (ts : List Turn) (held : Multiset Routine) : Prop where
  recorded : w.bare.Recorded
  seated : ∀ h party, .start h party ∈ w.history → party < w.parties.length
  books : Books (w.parties.map Party.name) w.system.ledger.attempts ts (held + w.floor.holds) w.fate

theorem fate_settle (w : Scene) (n : Nat) (f : Completion.Fate) (unsettled : w.fate n = none) :
    (w.settle n f).fate = Function.update w.fate n (some f) := by
  funext m
  have noted : (w.settle n f).fates = (n, f) :: w.fates := by
    rw [settle, unsettled]
    rfl
  rw [fate, noted, List.lookup_cons]
  by_cases same : m = n
  · subst same
    simp
  · rw [Function.update_of_ne same, beq_eq_false_iff_ne.mpr same]
    rfl

theorem Orderly.aside (orderly : Orderly v ts held) (aside : Aside v w) : Orderly w ts held := by
  have history : w.history = v.history := by rw [Scene.history, Scene.history, aside.calls]
  have present : w.parties.length = v.parties.length := by simpa using congrArg List.length aside.names
  have fates : w.fate = v.fate := by
    funext n
    rw [fate, fate, aside.fates]
  refine ⟨orderly.recorded.beside ⟨aside.system, aside.calls, rfl⟩, ?_, ?_⟩
  · rw [history, present]
    exact orderly.seated
  · rw [aside.names, aside.system, aside.holds, fates]
    exact orderly.books

theorem books_dispatch {names : List String} {attempts : List Attempt} (w : Scene)
    (books : Books names attempts ts (held + w.floor.holds) w.fate) (a : Attempt)
    (seated : ∃ name, names[a.work.party]? = some name) :
    Books names (attempts ++ [a]) ts (held + (w.dispatch (a, attempts.length)).floor.holds)
      (w.dispatch (a, attempts.length)).fate := by
  obtain ⟨name, named⟩ := seated
  cases verdict : a.verdict with
  | reject why =>
    simp only [dispatch, verdict]
    exact books.reject a why verdict
  | discard =>
    simp only [dispatch, verdict]
    rw [fate_settle w _ _ books.unsettled]
    exact books.discard a verdict
  | accept =>
    have taken := books.accept a ⟨verdict, named⟩
    rw [← Multiset.add_cons] at taken
    simp only [dispatch, verdict]
    split
    · rw [Floor.holds_line]
      exact taken
    · rw [Floor.holds_shelve]
      exact taken
    · rw [Floor.holds_spawn]
      exact taken

theorem books_dispatchAll {names : List String} (fresh : List Attempt) (attempts : List Attempt) (w : Scene)
    (books : Books names attempts ts (held + w.floor.holds) w.fate)
    (seated : ∀ a ∈ fresh, ∃ name, names[a.work.party]? = some name) :
    Books names (attempts ++ fresh) ts (held + ((fresh.zipIdx attempts.length).foldl dispatch w).floor.holds)
      ((fresh.zipIdx attempts.length).foldl dispatch w).fate := by
  induction fresh generalizing attempts w with
  | nil =>
    rw [List.append_nil]
    exact books
  | cons a fresh ih =>
    have one := books_dispatch w books a (seated a List.mem_cons_self)
    have rest := ih (attempts ++ [a]) _ one fun b member => seated b (List.mem_cons_of_mem a member)
    rw [List.append_assoc, List.length_append] at rest
    exact rest

theorem call_attempts (w : Scene) (recorded : w.Recorded) (c : Call) (held : c.Held w.system.enrolled) :
    w.system.ledger.attempts <+: (w.system.apply c).2.ledger.attempts := by
  have lawful := (recorded_call w recorded c held).lawful
  rw [call_history] at lawful
  have grown := (System.grown_succ lawful w.history.length).attempts
  have here : (w.history ++ [c])[w.history.length]? = some c := List.getElem?_concat_length
  rwa [System.before_succ _ _ c here, System.before_append _ _ _ (Nat.le_refl _), System.before_all,
    ← recorded.system] at grown

theorem Orderly.call (orderly : Orderly v ts held) (c : Call) (known : c.Held v.system.enrolled) (seat : v.Seated c) :
    Orderly (v.call c).2 ts held := by
  have recorded : (v.call c).2.bare.Recorded :=
    (recorded_call v.bare orderly.recorded c known).beside
      ⟨(call_system v c).trans (call_system v.bare c).symm, (call_calls v c).trans (call_calls v.bare c).symm,
        (call_handles v.bare c).symm⟩
  have seated : ∀ h party, .start h party ∈ (v.call c).2.history → party < (v.call c).2.parties.length := by
    rw [call_history, call_parties]
    intro h party member
    rcases List.mem_append.mp member with old | new
    · exact orderly.seated h party old
    · cases List.mem_singleton.mp new
      exact seat
  refine ⟨recorded, seated, ?_⟩
  have more : v.system.ledger.attempts <+: (v.system.apply c).2.ledger.attempts :=
    call_attempts v.bare orderly.recorded c known
  obtain ⟨fresh, grown⟩ := more
  have sent : (v.system.apply c).2.ledger.attempts.drop v.system.ledger.attempts.length = fresh := by
    rw [← grown, List.drop_left]
  have named (a : Attempt) (member : a ∈ fresh) :
      ∃ name, (v.parties.map Party.name)[a.work.party]? = some name := by
    have present : a ∈ (v.call c).2.system.ledger.attempts := by
      rw [call_system, ← grown]
      exact List.mem_append_right _ member
    rw [show (v.call c).2.system = System.run {} (v.call c).2.history from recorded.system] at present
    have seat := seated _ _ (System.party_started recorded.lawful a present)
    rw [call_parties] at seat
    exact ⟨_, List.getElem?_eq_getElem (by simpa using seat)⟩
  have dispatched := books_dispatchAll fresh v.system.ledger.attempts
    { v with
      system := (v.system.apply c).2
      notes := v.notes ++ (v.system.apply c).2.ledger.notes
      calls := v.calls ++ [(c, (v.system.apply c).1)] } orderly.books named
  rw [call_parties, call_system, ← grown]
  simp only [Scene.call, sent]
  exact dispatched

theorem books_settleAll {names : List String} {attempts : List Attempt} {waiting : Multiset Routine}
    (rs : List Routine) (w : Scene) (books : Books names attempts ts (rs + waiting) w.fate) :
    Books names attempts ts waiting (rs.foldl (fun w r => w.settle r.unit .dropped) w).fate := by
  induction rs generalizing w with
  | nil =>
    rw [Multiset.coe_nil, zero_add] at books
    exact books
  | cons r rs ih =>
    rw [← Multiset.cons_coe, Multiset.cons_add] at books
    obtain ⟨_, _, _, _, _, _, _, unsettled⟩ := books.entry
    refine ih (w.settle r.unit .dropped) ?_
    rw [fate_settle w _ _ unsettled]
    exact books.lose

theorem Orderly.change (orderly : Orderly v ts held) (change : Change v w) : Orderly w ts held := by
  cases change with
  | aside _ aside => exact orderly.aside aside
  | party name scripts =>
    refine ⟨orderly.recorded.beside ⟨rfl, rfl, rfl⟩, ?_, ?_⟩
    · intro h party member
      have old := orderly.seated h party member
      simp only [addParty, List.length_append, List.length_singleton]
      omega
    · have grown := names_change (.party v name scripts)
      have books := orderly.books.later grown
      rwa [← Floor.holds_makeGate v.floor name] at books
  | call c known seat => exact orderly.call c known seat
  | lose rs floor taken =>
    have books := orderly.books
    rw [taken, ← add_assoc, add_comm held, add_assoc] at books
    have settled := books_settleAll rs { v with floor := floor } books
    obtain ⟨fates, same⟩ := settleAll_rest rs { v with floor := floor }
    rw [same] at settled ⊢
    exact ⟨orderly.recorded.beside ⟨rfl, rfl, rfl⟩, orderly.seated, settled⟩

theorem Orderly.changes (orderly : Orderly v ts held) (changes : Changes v w) : Orderly w ts held := by
  induction changes with
  | refl => exact orderly
  | tail _ change ih => exact ih.change change

theorem orderly_start (orderly : Orderly w ts 0) {job : Job Routine} {floor : Floor Routine}
    (taken : w.floor.take? = some (job, floor)) : Orderly (w.turn job floor).start ts {job.routine} := by
  refine ⟨orderly.recorded.beside ⟨rfl, rfl, rfl⟩, orderly.seated, ?_⟩
  have books := orderly.books
  rw [zero_add, Floor.holds_take taken, ← Multiset.singleton_add] at books
  exact books

theorem Orderly.at_hand {r : Routine} (start : Orderly w ts {r}) :
    ∃ a name, w.system.ledger.attempts[r.unit]? = some a ∧ Engaged (w.parties.map Party.name) a name ∧
      r.party = a.work.party ∧ Progress name a.work.duties (turnsOf r.unit ts) r.agenda ∧
      file r.unit w.floor.holds = 0 ∧ w.fate r.unit = none := by
  have books := start.books
  rw [Multiset.singleton_add] at books
  exact books.entry

theorem outcome_of_orderly {t : Turn} (start : Orderly t.start ts {t.routine}) (recorded : t.start.Recorded) :
    ∃ name, t.start.Named t.routine.party name ∧ t.Outcome name := by
  obtain ⟨a, name, _, engaged, party, progress, _, _⟩ := start.at_hand
  have named : t.start.Named t.routine.party name := party ▸ engaged.named
  obtain ⟨item, causes, agenda⟩ := progress.agenda
  exact ⟨name, named, t.outcome recorded named item causes agenda⟩

theorem Orderly.finish {t : Turn} (start : Orderly t.start ts {t.routine}) (recorded : t.start.Recorded) :
    Orderly t.finish (ts ++ [t]) 0 := by
  obtain ⟨name, named, outcome⟩ := outcome_of_orderly start recorded
  have after {v : Scene} {handed : List Fault} (talk : Talk name handed t.start v) :
      Orderly v ts {t.routine} ∧ v.Named t.routine.party name ∧
        Books (v.parties.map Party.name) v.system.ledger.attempts ts (t.routine ::ₘ v.floor.holds) v.fate := by
    have left := start.changes talk.changes
    refine ⟨left, talk.named named, ?_⟩
    rw [← Multiset.singleton_add]
    exact left.books
  have settle {v : Scene} {handed : List Fault} {pause : Pause Routine} (talk : Talk name handed t.start v)
      (f : Completion.Fate) (ends : pause.rest? = none) (ran : t.ran = (pause, v.settle t.routine.unit f))
      (standing : ∀ a own names, Engaged names a name → Progress name a.work.duties own t.routine.agenda →
        Standing names (some a) (own ++ [t]) 0 (some f)) : Orderly t.finish (ts ++ [t]) 0 := by
    obtain ⟨left, same, books⟩ := after talk
    obtain ⟨_, _, _, _, _, _, _, unsettled⟩ := books.entry
    have closed := books.close same f fun a own => standing a own _
    rw [← fate_settle v _ _ unsettled, ← zero_add v.floor.holds, ← Floor.holds_over v.floor ends t.worker] at closed
    rw [Turn.finish, ran]
    exact ⟨left.recorded.beside ⟨rfl, rfl, rfl⟩, left.seated, closed⟩
  cases outcome with
  | finished v watched ran talk =>
    have spoken := Turn.spoken_of_talk talk (by rw [ran]; rfl)
    refine settle talk .finished rfl ran fun a own names engaged progress => ?_
    exact .finished a name own t engaged progress (by rw [Turn.Ends, ran]; rfl) watched spoken
  | burst v bursts ran talk =>
    have spoken := Turn.spoken_of_talk talk (by rw [ran]; rfl)
    refine settle talk .dropped rfl ran fun a own names engaged progress => ?_
    exact .burst a name own t engaged progress (by rw [Turn.Ends, ran]; rfl) bursts spoken
  | paused v pause rest watched ran waits unit party left talk =>
    obtain ⟨orderly, same, books⟩ := after talk
    have goes_on : ¬ t.Ends := by
      intro ended
      rw [Turn.Ends, ran] at ended
      cases waits.symm.trans ended
    have paused := books.pause same goes_on watched (Turn.spoken_of_talk talk (by rw [ran])) rest unit party left
    rw [← Floor.holds_paused v.floor waits t.worker, ← zero_add (Floor.holds _)] at paused
    rw [Turn.finish, ran]
    exact ⟨orderly.recorded.beside ⟨rfl, rfl, rfl⟩, orderly.seated, paused⟩

theorem orderly_staged (staged : Staged w ts) : Orderly w ts 0 := by
  induction staged with
  | empty clock => exact ⟨recorded_start clock, by simp [history], Books.start⟩
  | launch w ts _ host plan ih =>
    have launched := ih.call (.launch plan) trivial trivial
    exact launched.aside ⟨rfl, rfl, rfl, rfl, rfl⟩
  | perform w ts staged s ih => exact ih.changes (quiet_perform w (recorded_staged staged) s).changes
  | turn w ts staged job floor taken ih =>
    exact (orderly_start ih taken).finish ((recorded_staged staged).beside ⟨rfl, rfl, rfl⟩)
  | arrange w ts _ floor same ih => exact ih.aside ⟨rfl, rfl, rfl, same, rfl⟩
  | lose w ts _ r floor taken ih =>
    have taken : w.floor.holds = ([r] : Multiset Routine) + floor.holds := by
      rw [Multiset.coe_singleton, Multiset.singleton_add]
      exact taken
    exact ih.change (.lose w [r] floor taken)
  | report w ts _ ih => exact ih.aside ⟨rfl, rfl, rfl, rfl, rfl⟩

theorem events_staged (staged : Staged w ts) : w.events <:+ ts.flatMap Turn.events := by
  induction staged with
  | empty => exact List.suffix_refl []
  | launch w ts _ host plan ih => exact (call_events w (.launch plan)).symm ▸ ih
  | perform w ts staged s ih => exact (quiet_perform w (recorded_staged staged) s).events.symm ▸ ih
  | turn w ts staged job floor taken ih =>
    obtain ⟨_, _, outcome⟩ := outcome_of_orderly (orderly_start (orderly_staged staged) taken)
      ((recorded_staged staged).beside ⟨rfl, rfl, rfl⟩)
    obtain ⟨earlier, all⟩ := ih
    refine ⟨earlier, ?_⟩
    rw [List.flatMap_append, ← all, List.append_assoc, List.flatMap_singleton]
    exact congrArg (earlier ++ ·) outcome.events
  | arrange w ts _ floor same ih => exact ih
  | lose w ts _ r floor taken ih => exact ih
  | report w ts _ ih => exact List.nil_suffix

theorem unit_of_dropped {fate : Nat → Option Completion.Fate} {c : Completion} (dropped : c.status fate = .dropped) :
    ∃ n ∈ c.units, fate n = some .dropped := by
  unfold Completion.status at dropped
  split at dropped
  · cases dropped
  · split at dropped
    · rename_i some_dropped
      obtain ⟨n, member, fated⟩ := List.any_eq_true.mp some_dropped
      exact ⟨n, member, eq_of_beq fated⟩
    · cases dropped

-- A unit that has run was accepted, and is settled as its first turn decides. Outside of turns nobody is told
-- anything. A completion is dropped over a unit only that was discarded, or never ran to its end, or was lost
-- in a panic that nobody watched for.
theorem failures_contained (w : Scene) (ts : List Turn) (staged : Staged w ts) :
    (∀ n, Ran (turnsOf n ts) → ∃ a, w.system.ledger.attempts[n]? = some a ∧
      Settled (w.parties.map Party.name) a (turnsOf n ts) (w.fate n)) ∧
    w.events <:+ ts.flatMap Turn.events ∧
    ∀ c : Completion, c.status w.fate = .dropped → ∃ n ∈ c.units, ∃ a, w.system.ledger.attempts[n]? = some a ∧
      (a.verdict = .discard ∨
        a.verdict = .accept ∧ (¬ Ran (turnsOf n ts) ∨ ∃ t ∈ turnsOf n ts, Action.bursts t.cue = true)) := by
  have books := (orderly_staged staged).books
  refine ⟨fun n ran => (books n).settled ran, events_staged staged, ?_⟩
  intro c dropped
  obtain ⟨n, member, fated⟩ := unit_of_dropped dropped
  have standing := books n
  rw [fated] at standing
  exact ⟨n, member, standing.dropped⟩

def paced (run : Scene × List Turn) : Scene × List Turn :=
  match run.1.floor.take? with
  | none => run
  | some (job, floor) => ((run.1.turn job floor).finish, run.2 ++ [run.1.turn job floor])

theorem staged_paced (run : Scene × List Turn) (staged : Staged run.1 run.2) :
    Staged (paced run).1 (paced run).2 := by
  cases taken : run.1.floor.take? with
  | none =>
    rw [paced, taken]
    exact staged
  | some front =>
    obtain ⟨job, floor⟩ := front
    rw [paced, taken]
    exact .turn run.1 run.2 staged job floor taken

-- A contender waits for a turn when it is granted leadership, and then returns an error. When the service
-- goes down, it is revoked first, and panics before there is a future.
def alarm : Scene × List Turn :=
  let joined := (performAll
    [.register 0 "lead" "a"
      { onGrant := [[.yield 1, .fail (.returned "not now" [])]], onRevoke := [[.burst (some "boom")]] }]
    (addService {} ⟨.serial, true⟩ {})).2
  let granted := paced (paced (joined, []))
  paced ((performAll [.shutDown 0 .noRuntime] granted.1).2, granted.2)

theorem alarm_staged : Staged alarm.1 alarm.2 := by
  have joined := staged_performAll (.launch {} [] (.empty _) ⟨.serial, true⟩ {})
    [.register 0 "lead" "a"
      { onGrant := [[.yield 1, .fail (.returned "not now" [])]], onRevoke := [[.burst (some "boom")]] }]
  have granted := staged_paced _ (staged_paced (_, []) joined)
  exact staged_paced (_, _) (staged_performAll granted [.shutDown 0 .noRuntime])

theorem alarm_ran : Ran (turnsOf 0 alarm.2) ∧ Ran (turnsOf 1 alarm.2) :=
  ⟨⟨_, List.mem_of_getElem? (rfl : (turnsOf 0 alarm.2)[1]? = some _), rfl⟩,
    ⟨_, List.mem_of_getElem? (rfl : (turnsOf 1 alarm.2)[0]? = some _), rfl⟩⟩

theorem alarm_contained :
    Staged alarm.1 alarm.2 ∧ alarm.1.fate 0 = some .finished ∧ alarm.1.fate 1 = some .dropped ∧
      handedOver (turnsOf 0 alarm.2) = [.callback "grant_leadership" "not now" []] ∧
      handedOver (turnsOf 1 alarm.2) = [] ∧
      (∃ a, alarm.1.system.ledger.attempts[0]? = some a ∧
        Settled (alarm.1.parties.map Party.name) a (turnsOf 0 alarm.2) (alarm.1.fate 0)) ∧
      ∃ n ∈ [0, 1], ∃ a, alarm.1.system.ledger.attempts[n]? = some a ∧ (a.verdict = .discard ∨
        a.verdict = .accept ∧ (¬ Ran (turnsOf n alarm.2) ∨ ∃ t ∈ turnsOf n alarm.2, Action.bursts t.cue = true)) := by
  obtain ⟨settled, _, dropped⟩ := failures_contained alarm.1 alarm.2 alarm_staged
  exact ⟨alarm_staged, rfl, rfl, rfl, rfl, settled 0 alarm_ran.1, dropped ⟨[0, 1]⟩ rfl⟩

theorem alarm_uncontained :
    ¬ ∀ w ts, Staged w ts → ∀ n a first later, w.system.ledger.attempts[n]? = some a → turnsOf n ts = first :: later →
      Ran (turnsOf n ts) →
      w.fate n = some .finished ∧ handedOver (turnsOf n ts) = a.work.duties.flatMap (owed first.cue) := by
  intro always
  obtain ⟨finished, _⟩ := always alarm.1 alarm.2 alarm_staged 1 _ _ _ rfl rfl alarm_ran.2
  cases finished

end Leadership.Scenario.Scene
