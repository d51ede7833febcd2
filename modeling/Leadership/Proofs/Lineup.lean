import Leadership.Proofs.Containment
import Leadership.Proofs.Deed
import Leadership.Proofs.Shift

set_option autoImplicit false

namespace Leadership

def Attempt.Joins (a : Attempt) (s : Nat) : Prop := a.service = s ∧ a.verdict = .accept

instance (a : Attempt) (s : Nat) : Decidable (a.Joins s) :=
  inferInstanceAs (Decidable (a.service = s ∧ a.verdict = .accept))

namespace Scenario

def routineOf (a : Attempt × Nat) : Routine := ⟨a.2, a.1.work.party, a.1.work.duties.map .duty⟩

def lineup (s first : Nat) (attempts : List Attempt) : List Routine :=
  ((attempts.zipIdx first).filter fun a => a.1.Joins s).map routineOf

theorem lineup_append (s first : Nat) (attempts more : List Attempt) :
    lineup s first (attempts ++ more) = lineup s first attempts ++ lineup s (first + attempts.length) more := by
  rw [lineup, List.zipIdx_append, List.filter_append, List.map_append]
  rfl

theorem lineup_joins (s n : Nat) (a : Attempt) (joins : a.Joins s) : lineup s n [a] = [routineOf (a, n)] := by
  simp [lineup, joins]

theorem lineup_stays (s n : Nat) (a : Attempt) (stays : ¬ a.Joins s) : lineup s n [a] = [] := by
  simp [lineup, stays]

-- What workers are handed when these are submitted, if this service has one and the first of them has this number.
structure Sends (s first : Nat) (fresh : List Attempt) (us : List (Nat × Routine)) : Prop where
  own : (us.filter fun u => u.1 == s).map Prod.snd = lineup s first fresh
  numbered : (us.map fun u => u.2.unit).Sublist (List.range' first fresh.length)

theorem sends_nothing (s first : Nat) : Sends s first [] [] := ⟨rfl, .slnil⟩

theorem Sends.append {s first : Nat} {fresh more : List Attempt} {us vs : List (Nat × Routine)}
    (sends : Sends s first fresh us) (later : Sends s (first + fresh.length) more vs) :
    Sends s first (fresh ++ more) (us ++ vs) := by
  constructor
  · rw [List.filter_append, List.map_append, sends.own, later.own, lineup_append]
  · rw [List.map_append, List.length_append, ← List.range'_append_1]
    exact sends.numbered.append later.numbered

theorem sends_one (s n : Nat) (a : Attempt) (accepted : a.verdict = .accept) :
    Sends s n [a] [(a.service, routineOf (a, n))] := by
  constructor
  · by_cases own : a.service = s
    · simp [lineup_joins s n a ⟨own, accepted⟩, own]
    · simp [lineup_stays s n a fun joins => own joins.1, own]
  · exact .refl _

theorem sends_none (s n : Nat) (a : Attempt) (stays : ¬ a.Joins s) : Sends s n [a] [] :=
  ⟨(lineup_stays s n a stays).symm, List.nil_sublist _⟩

namespace Scene
variable {u v w : Scene} {s : Nat} {brought : List (Scripts Step)}

-- Every service has an executor, and this one's is a worker, if it is there yet.
structure Serial (s : Nat) (w : Scene) : Prop where
  hosted : w.hosts.length = w.system.services.length
  worker : ∀ host, w.hosts[s]? = some host → host.executor = .serial

structure Lining (s : Nat) (v w : Scene) : Prop where
  hosts : w.hosts = v.hosts
  services : w.system.services.length = v.system.services.length
  filled : ∃ fresh us, w.system.ledger.attempts = v.system.ledger.attempts ++ fresh ∧ v.floor.Fills us w.floor ∧
    Sends s v.system.ledger.attempts.length fresh us

theorem Lining.trans (first : Lining s u v) (second : Lining s v w) : Lining s u w := by
  obtain ⟨fresh, us, grown, fills, sends⟩ := first.filled
  obtain ⟨more, vs, further, fills', later⟩ := second.filled
  rw [grown, List.length_append] at later
  constructor
  · exact second.hosts.trans first.hosts
  · exact second.services.trans first.services
  · exact ⟨fresh ++ more, us ++ vs, by rw [further, grown, List.append_assoc], fills.trans fills', sends.append later⟩

theorem lining_floor (w : Scene) (floor : Floor Routine) (fills : w.floor.Fills [] floor) :
    Lining s w { w with floor := floor } :=
  ⟨rfl, rfl, [], [], (List.append_nil _).symm, fills, sends_nothing s _⟩

theorem lining_beside (hosts : w.hosts = v.hosts) (system : w.system = v.system) (floor : w.floor = v.floor) :
    Lining s v w := by
  constructor
  · exact hosts
  · rw [system]
  · exact ⟨[], [], by rw [system, List.append_nil], floor.symm ▸ .refl, sends_nothing s _⟩

theorem Lining.refl (w : Scene) : Lining s w w := lining_beside rfl rfl rfl

theorem Serial.later (serial : v.Serial s) (lining : Lining s v w) : w.Serial s := by
  constructor
  · rw [lining.hosts, lining.services]
    exact serial.hosted
  · rw [lining.hosts]
    exact serial.worker

theorem dispatch_hosts (w : Scene) (a : Attempt × Nat) : (w.dispatch a).hosts = w.hosts := by
  obtain ⟨floor, fates, same⟩ := dispatch_rest w a
  rw [same]

theorem fills_dispatch (serial : ∀ host, w.hosts[s]? = some host → host.executor = .serial) (a : Attempt) (n : Nat)
    (there : a.service < w.hosts.length) : ∃ us, w.floor.Fills us (w.dispatch (a, n)).floor ∧ Sends s n [a] us := by
  have aside (stays : ¬ a.Joins s) (same : w.floor.Fills [] (w.dispatch (a, n)).floor) :
      ∃ us, w.floor.Fills us (w.dispatch (a, n)).floor ∧ Sends s n [a] us := ⟨[], same, sends_none s n a stays⟩
  obtain ⟨host, found⟩ : ∃ host, w.hosts[a.service]? = some host := ⟨_, List.getElem?_eq_getElem there⟩
  cases verdict : a.verdict with
  | reject why =>
    apply aside (by simp [Attempt.Joins, verdict])
    simp only [dispatch, verdict]
    exact .refl
  | discard =>
    apply aside (by simp [Attempt.Joins, verdict])
    simp only [dispatch, verdict]
    exact .refl
  | accept =>
    obtain ⟨executor, accessible⟩ := host
    cases executor with
    | serial =>
      refine ⟨[(a.service, routineOf (a, n))], ?_, sends_one s n a verdict⟩
      simp only [dispatch, verdict, found]
      exact .line [] w.floor .refl a.service _
    | _ =>
      have other : a.service ≠ s := by
        intro own
        cases serial _ (own ▸ found)
      apply aside fun joins => other joins.1
      simp only [dispatch, verdict, found]
      first
        | exact (Floor.Aside.shelve _ _).fills
        | exact (Floor.Aside.spawn _).fills

theorem fills_dispatchAll (fresh : List Attempt) (n : Nat)
    (serial : ∀ host, w.hosts[s]? = some host → host.executor = .serial)
    (there : ∀ a ∈ fresh, a.service < w.hosts.length) :
    ∃ us, w.floor.Fills us ((fresh.zipIdx n).foldl dispatch w).floor ∧ Sends s n fresh us := by
  induction fresh generalizing n w with
  | nil => exact ⟨[], .refl, sends_nothing s n⟩
  | cons a fresh ih =>
    have hosts := dispatch_hosts w (a, n)
    obtain ⟨own, first⟩ := List.forall_mem_cons.mp there
    obtain ⟨us, fills, sends⟩ := fills_dispatch serial a n own
    obtain ⟨vs, fills', later⟩ := ih (w := w.dispatch (a, n)) (n + 1) (hosts.symm ▸ serial) (hosts.symm ▸ first)
    exact ⟨us ++ vs, fills.trans fills', sends.append later⟩

theorem lining_call (serial : w.Serial s) (recorded : w.Recorded) (c : Call) (held : c.Held w.system.enrolled)
    (inside : c.Inside) : Lining s w (w.call c).2 := by
  obtain ⟨fresh, grown⟩ := call_attempts w recorded c held
  have sent : (w.system.apply c).2.ledger.attempts.drop w.system.ledger.attempts.length = fresh := by
    rw [← grown, List.drop_left]
  have there (a : Attempt) (listed : a ∈ fresh) : a.service < w.hosts.length := by
    rw [serial.hosted]
    exact fresh_service w recorded c held a (sent ▸ listed)
  obtain ⟨us, fills, sends⟩ := fills_dispatchAll (w := { w with
    system := (w.system.apply c).2
    notes := w.notes ++ (w.system.apply c).2.ledger.notes
    calls := w.calls ++ [(c, (w.system.apply c).1)] }) fresh w.system.ledger.attempts.length serial.worker there
  obtain ⟨floor, fates, same⟩ := call_rest w c
  constructor
  · rw [same]
  · rw [call_system]
    exact System.apply_length w.system c inside
  · refine ⟨fresh, us, ?_, ?_, sends⟩
    · rw [call_system]
      exact grown.symm
    · simp only [call, sent]
      exact fills

theorem fills_takeUnits (t place count : Nat) (f : Floor Routine) : f.Fills [] (takeUnits t place count f).2 := by
  induction count generalizing f with
  | zero => exact .refl
  | succ count ih =>
    cases taken : f.takeShelved t place with
    | none =>
      rw [takeUnits, taken]
      exact .refl
    | some pair =>
      obtain ⟨r, g⟩ := pair
      have one : f.Fills [] g := (Floor.Aside.unshelve t place r g taken).fills
      rw [takeUnits, taken]
      exact one.trans (ih g)

theorem fills_spawnAll (rs : List Routine) (f : Floor Routine) : f.Fills [] (rs.foldl Floor.spawn f) := by
  induction rs generalizing f with
  | nil => exact .refl
  | cons r rs ih => exact (Floor.Aside.spawn r).fills.trans (ih (f.spawn r))

theorem lining_deed (serial : v.Serial s) (recorded : v.Recorded) (deed : Deed brought v w) : Lining s v w := by
  cases deed with
  | name => exact lining_beside rfl rfl rfl
  | party name scripts =>
    have gated : Lining s v { v with floor := v.floor.makeGate name } := lining_floor v _ (Floor.Aside.gate name).fills
    exact gated.trans (lining_beside rfl rfl rfl)
  | gate name => exact lining_floor v _ (Floor.Aside.gate name).fills
  | release name => exact lining_floor v _ (Floor.Aside.release name).fills
  | call c held inside => exact lining_call serial recorded c held inside
  | run t place count =>
    exact lining_floor v _ ((fills_takeUnits t place count v.floor).trans (fills_spawnAll _ _))
  | drop t place count =>
    obtain ⟨fates, settled⟩ := settleAll_rest (takeUnits t place count v.floor).1
      { v with floor := (takeUnits t place count v.floor).2 }
    have taken := lining_floor (s := s) v _ (fills_takeUnits t place count v.floor)
    rw [settled]
    exact taken.trans (lining_beside rfl rfl rfl)

theorem lining_deeds (deeds : Deeds brought v w) (serial : v.Serial s) (recorded : v.Recorded) : Lining s v w :=
  deeds.preserve recorded (.refl v) fun _ _ known deed lining =>
    lining.trans (lining_deed (serial.later lining) known deed)

theorem lining_act (name : String) (script : List (Action Step)) (serial : w.Serial s) (recorded : w.Recorded) :
    Lining s w (act name script w).2 := by
  induction script generalizing w with
  | nil => exact .refl w
  | cons a rest ih =>
    cases a with
    | gate =>
      cases passed : w.floor.pass? name with
      | none =>
        rw [act, passed]
        exact .refl w
      | some floor =>
        have through := lining_floor (s := s) w floor (Floor.Aside.pass name floor passed).fills
        have resumed : Lining s w ({ w with floor := floor }.record name .resume) :=
          through.trans (lining_beside rfl rfl rfl)
        rw [act, passed]
        exact resumed.trans (ih (serial.later resumed) (recorded.beside ⟨rfl, rfl, rfl⟩))
    | yield n =>
      cases n with
      | zero => exact ih serial recorded
      | succ n => exact .refl w
    | perform steps =>
      have performed := lining_deeds (deeds_performAll steps recorded) serial recorded
      have told : Lining s w ((performAll steps w).2.record name (.performed (performAll steps w).1)) :=
        performed.trans (lining_beside rfl rfl rfl)
      have still := recorded_performAll steps w recorded
      exact told.trans (ih (serial.later told) (still.beside ⟨rfl, rfl, rfl⟩))
    | fail | burst => exact .refl w

theorem lining_enter (w : Scene) (party : Nat) (c : Callback) : Lining s w (w.enter party c).2 := by
  cases found : w.parties[party]? with
  | none =>
    rw [enter, found]
    exact .refl w
  | some p =>
    rw [enter, found]
    cases c <;> exact lining_beside rfl rfl rfl

theorem lining_handle (serial : w.Serial s) (recorded : w.Recorded) (party : Nat) (f : Fault) :
    Lining s w (w.handle party f) := by
  cases found : w.parties[party]? with
  | none =>
    rw [handle, found]
    exact .refl w
  | some p =>
    have told : Lining s w (w.tell party p f) := lining_beside rfl rfl rfl
    have still : (w.tell party p f).Recorded := recorded.beside ⟨rfl, rfl, rfl⟩
    have performed :=
      lining_deeds (deeds_performAll (Action.steps p.scripts.takeError.1) still) (serial.later told) still
    have handled := told.trans performed
    rw [handle, found]
    by_cases panics : Action.panics p.scripts.takeError.1 = true
    · simp only [panics, if_true]
      exact handled.trans (lining_beside rfl rfl rfl)
    · simp only [panics, Bool.false_eq_true, if_false]
      exact handled

theorem lining_follow (serial : w.Serial s) (recorded : w.Recorded) (party : Nat) (c : Callback)
    (script : List (Action Step)) : Lining s w (w.follow party c script).2 := by
  have acted := lining_act (w.partyName party) script serial recorded
  have still := recorded_act (w.partyName party) script w recorded
  cases halted : act (w.partyName party) script w with
  | mk halt v =>
    rw [halted] at acted still
    simp only [follow, halted]
    cases halt with
    | failed failure =>
      have noted : Lining s w (v.note (c.complaint (c.fault failure))) := acted.trans (lining_beside rfl rfl rfl)
      exact noted.trans (lining_handle (serial.later noted) (still.beside ⟨rfl, rfl, rfl⟩) party _)
    | returned | yielded | closed => exact acted

theorem lining_runItem (serial : w.Serial s) (recorded : w.Recorded) (party : Nat) (item : Item) :
    Lining s w (w.runItem party item).2 := by
  cases item with
  | duty d =>
    cases d with
    | deliver f => exact lining_handle serial recorded party f
    | call c =>
      have entered := lining_enter (s := s) w party c
      have still := recorded.beside (beside_enter w party c)
      simp only [runItem]
      split
      · rename_i same
        rw [same] at entered
        exact entered
      · rename_i same
        rw [same] at entered still
        exact entered.trans (lining_follow (serial.later entered) still party c _)
  | resume c rest =>
    have resumed : Lining s w (w.record (w.partyName party) .resume) := lining_beside rfl rfl rfl
    exact resumed.trans (lining_follow (serial.later resumed) (recorded.beside ⟨rfl, rfl, rfl⟩) party c rest)
  | proceed c rest => exact lining_follow serial recorded party c rest

theorem lining_runAgenda (unit party : Nat) (worker : Option Nat) (items : List Item) (serial : w.Serial s)
    (recorded : w.Recorded) : Lining s w (runAgenda unit party worker items w).2 := by
  induction items generalizing w with
  | nil => exact lining_beside rfl rfl rfl
  | cons item rest ih =>
    have one := lining_runItem serial recorded party item
    have still := recorded_runItem w recorded party item
    cases ran : w.runItem party item with
    | mk stop v =>
      rw [ran] at one still
      simp only [runAgenda, ran]
      cases stop with
      | passed => exact one.trans (ih (serial.later one) still)
      | burst =>
        cases worker with
        | none => exact one.trans (lining_beside rfl rfl rfl)
        | some t => exact one.trans (lining_beside rfl rfl rfl)
      | yielded | closed => exact one

theorem lining_ran (t : Turn) (serial : t.start.Serial s) (recorded : t.start.Recorded) :
    Lining s t.start t.ran.2 :=
  lining_runAgenda t.routine.unit t.routine.party t.worker t.routine.agenda serial recorded

end Scene
end Scenario
end Leadership
