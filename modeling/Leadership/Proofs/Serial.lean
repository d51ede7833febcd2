import Leadership.Proofs.Hosting

set_option autoImplicit false

namespace Leadership.Scenario

def requests (s : Nat) (w : Scene) : List (Nat × Event) :=
  (w.system.ledger.attempts.filter fun a => a.Joins s).flatMap callbacks

namespace Scene
variable {w : Scene} {ts : List Turn} {s : Nat}

structure InOrder (s : Nat) (w : Scene) (ts : List Turn) : Prop where
  served : ∃ handed, (w.shift ts handed).unitsOf s = lineup s 0 w.system.ledger.attempts ∧
    Shift.FirstInFirstOut Routine.unit Turn.poll s (w.shift ts handed)
  own : Own s w ts
  started : w.floor.queue = [] → ∀ before n after, units s w = before ++ n :: after →
    (∀ m ∈ before, Ran (turnsOf m ts)) → turnsOf n ts ≠ []
  -- A unit is settled when it ends, and lost only over its own panic.
  settled : ∀ n ∈ units s w, ((w.fate n).isSome ↔ Ran (turnsOf n ts)) ∧
    (w.fate n = some .dropped → ∃ t ∈ turnsOf n ts, Action.bursts t.cue = true)
  entered : ∀ p, ((Shift.turnsAt Turn.poll s ts).flatMap Turn.entered).filter (fun e => e.1 == p) <+:
    (requests s w).filter fun e => e.1 == p

theorem Orderly.fate_of_ran (orderly : Orderly w ts 0) (n : Nat) (ran : Ran (turnsOf n ts)) :
    (w.fate n).isSome ∧ (w.fate n = some .dropped → ∃ t ∈ turnsOf n ts, Action.bursts t.cue = true) := by
  obtain ⟨a, _, settled⟩ := (orderly.books n).settled ran
  obtain ⟨t, member, _⟩ := ran
  cases own : turnsOf n ts with
  | nil =>
    rw [own] at member
    cases member
  | cons first later =>
    cases watched : Action.bursts first.cue with
    | false =>
      rw [(settled.watched first later own watched).1]
      constructor
      · rfl
      · intro dropped
        cases dropped
    | true =>
      rw [(settled.burst first later own watched).1]
      exact ⟨rfl, fun _ => ⟨first, List.mem_cons_self, watched⟩⟩

theorem fate_in_order {handed : List (Nat × Routine)} (orderly : Orderly w ts 0) (own : Own s w ts)
    (sends : Sends s 0 w.system.ledger.attempts handed)
    (law : Shift.FirstInFirstOut Routine.unit Turn.poll s (w.shift ts handed)) (n : Nat) (listed : n ∈ units s w) :
    ((w.fate n).isSome ↔ Ran (turnsOf n ts)) ∧
      (w.fate n = some .dropped → ∃ t ∈ turnsOf n ts, Action.bursts t.cue = true) := by
  obtain ⟨u, member, rfl⟩ := List.mem_map.mp listed
  have units := shift_unitsOf w ts sends
  obtain ⟨left, thread, _, rest⟩ := law.kept u (units ▸ member)
  cases left with
  | none =>
    have ran : Ran (turnsOf u.unit ts) := own.turnsOf listed ▸ thread.ended
    obtain ⟨fated, lost⟩ := orderly.fate_of_ran _ ran
    exact ⟨iff_of_true fated ran, lost⟩
  | some r =>
    obtain ⟨unit, waits⟩ := rest r rfl
    have waits : r ∈ 0 + w.floor.due s := waits
    rw [zero_add] at waits
    have held : r ∈ 0 + w.floor.holds := Multiset.mem_add.mpr (.inr (Floor.holds_of_due waits))
    obtain ⟨unended, unsettled⟩ := orderly.unfinished r held
    rw [unit] at unended unsettled
    rw [unsettled]
    constructor
    · exact iff_of_false Bool.false_ne_true unended
    · intro dropped
      cases dropped

-- When there is nothing left to run, nobody has been passed over.
theorem started_in_order {handed : List (Nat × Routine)} (own : Own s w ts)
    (sends : Sends s 0 w.system.ledger.attempts handed)
    (law : Shift.FirstInFirstOut Routine.unit Turn.poll s (w.shift ts handed)) (idle : w.floor.queue = [])
    (before : List Nat) (n : Nat) (after : List Nat) (split : units s w = before ++ n :: after)
    (each : ∀ m ∈ before, Ran (turnsOf m ts)) : turnsOf n ts ≠ [] := by
  obtain ⟨us, rest, whole, rfl, others⟩ := List.map_eq_append_iff.mp split
  obtain ⟨u, vs, rfl, rfl, rfl⟩ := List.map_eq_cons_iff.mp others
  have ends : ∀ v ∈ us, Shift.Over Routine.unit Turn.poll s (w.shift ts handed) v := by
    intro v listed
    have member := List.mem_map_of_mem (f := Routine.unit) listed
    obtain ⟨t, there, ends⟩ := each v.unit member
    exact ⟨t, own.turnsOf (split ▸ List.mem_append_left _ member) ▸ there, ends⟩
  rcases law.next us u vs ((shift_unitsOf w ts sends).trans whole) ends with (begun | ⟨r, held, _⟩) | queued
  · exact own.turnsOf (split ▸ List.mem_append_right _ List.mem_cons_self) ▸ begun
  · exact absurd held (Multiset.notMem_zero r)
  · exact absurd (idle ▸ queued) List.not_mem_nil

theorem requests_lineup (s : Nat) (w : Scene) : requests s w =
    (lineup s 0 w.system.ledger.attempts).flatMap fun r =>
      (w.system.ledger.attempts[r.unit]?.map callbacks).getD [] := by
  let attempts := w.system.ledger.attempts
  have joined : attempts.filter (fun a => a.Joins s) =
      (attempts.zipIdx.filter fun a => a.1.Joins s).map Prod.fst := by
    have firsts :=
      List.filter_map (f := Prod.fst) (p := fun a : Attempt => decide (a.Joins s)) (l := attempts.zipIdx)
    rwa [List.zipIdx_map_fst] at firsts
  rw [requests, joined, lineup, List.flatMap_map, List.flatMap_map]
  apply List.flatMap_congr
  intro a listed
  have there := List.mem_zipIdx_iff_getElem?.mp (List.mem_filter.mp listed).1
  rw [routineOf, there]
  rfl

theorem entered_in_order {handed : List (Nat × Routine)} (own : Own s w ts) (entered : Entered w ts)
    (sends : Sends s 0 w.system.ledger.attempts handed)
    (law : Shift.FirstInFirstOut Routine.unit Turn.poll s (w.shift ts handed)) :
    (Shift.turnsAt Turn.poll s ts).flatMap Turn.entered <+: requests s w := by
  have units := shift_unitsOf w ts sends
  rw [requests_lineup, ← units]
  apply law.told
  intro u listed
  rw [units] at listed
  obtain ⟨a, there, _⟩ := mem_lineup listed
  obtain ⟨_, told⟩ := entered u.unit a there
  have same : Shift.turnsOf Routine.unit Turn.poll s u.unit (w.shift ts handed).turns = turnsOf u.unit ts :=
    own.turnsOf (List.mem_map_of_mem listed)
  rw [same, told, there]
  constructor
  · split
    · exact List.nil_prefix
    · exact List.prefix_refl _
  · rintro ⟨t, member, _⟩
    rw [same] at member
    exact if_neg (List.ne_nil_of_mem member)

theorem played_in_order (played : Played w ts) (worker : ∀ host, w.hosts[s]? = some host → host.executor = .serial) :
    InOrder s w ts := by
  obtain ⟨handed, sends, reached⟩ := reached_played played worker
  have law := Shift.reached_in_order reached s
  have own := own_played played worker
  have staged := staged_played played
  have entered := entered_in_order own (entered_staged staged) sends law
  constructor
  · exact ⟨handed, shift_unitsOf w ts sends, law⟩
  · exact own
  · exact started_in_order own sends law
  · exact fate_in_order (orderly_staged staged) own sends law
  · exact fun p => entered.filter _

/-- A serial executor serves its units first in, first out, whoever submits them, whatever they do in their turns and
in whatever order the jobs that wait get these. Services that submit to one are a case of that, and their runs can
always go on until no job waits for a turn. -/
theorem serial_in_order :
    (∀ (ρ τ : Type) (unit : ρ → Nat) (poll : τ → Poll ρ) (w : Shift ρ τ), Shift.Reached unit poll w →
      ∀ s, Shift.FirstInFirstOut unit poll s w) ∧
    (∀ (ρ τ : Type) (unit : ρ → Nat) (poll : τ → Poll ρ) (run : Nat → Shift ρ τ), Shift.Endless unit poll run →
      ∀ (s k : Nat) (before : List ρ) (u : ρ) (after : List ρ), (run k).unitsOf s = before ++ u :: after →
        (∀ v ∈ before, ∃ m, Shift.Over unit poll s (run m) v) → ∃ m, Shift.Begun unit poll s (run m) u) ∧
    (∀ w ts, Played w ts → ∀ s accessible, w.hosts[s]? = some ⟨.serial, accessible⟩ →
      InOrder s w ts ∧ ∃ us, Played w.rest (ts ++ us) ∧ w.rest.floor.queue = [] ∧ InOrder s w.rest (ts ++ us)) ∧
    ∀ clock setups steps start, setUpAll setups { clock := clock } = .ok start →
      ∃ ts, Played (runAll steps start).2 ts := by
  refine ⟨?_, ?_, ?_, played_scene⟩
  · exact fun ρ τ unit poll w reached s => Shift.reached_in_order reached s
  · exact fun ρ τ unit poll run endless s k before u after split each => endless.begun split each
  · intro w ts played s accessible host
    have worker (h : Host) (found : w.hosts[s]? = some h) : h.executor = .serial := by
      cases host.symm.trans found
      rfl
    have hosts := hosts_rest played
    obtain ⟨us, rested⟩ := played_rest played
    constructor
    · exact played_in_order played worker
    · exact ⟨us, rested, idle_rest w, played_in_order rested (hosts ▸ worker)⟩

-- One client's unit yields in its first turn and panics in its second. Meanwhile another client has handed over a unit
-- of its own.
def errand : Nat → Shift (Nat × Nat) (Poll (Nat × Nat))
  | 0 => {}
  | 1 => { floor := { queue := [⟨(0, 0), some 0⟩], busy := [0] }, handed := [(0, 0, 0)] }
  | 2 => { floor := { busy := [0] }, hands := {⟨(0, 0), some 0⟩}, handed := [(0, 0, 0)] }
  | 3 => {
      floor := { busy := [0], backlog := [(0, 1, 0)] }, hands := {⟨(0, 0), some 0⟩}
      handed := [(0, 0, 0), (0, 1, 0)] }
  | 4 => {
      floor := { queue := [⟨(0, 1), some 0⟩], busy := [0], backlog := [(0, 1, 0)] }
      handed := [(0, 0, 0), (0, 1, 0)], turns := [⟨⟨(0, 0), some 0⟩, .yielded (0, 1)⟩] }
  | 5 => {
      floor := { busy := [0], backlog := [(0, 1, 0)] }, hands := {⟨(0, 1), some 0⟩}
      handed := [(0, 0, 0), (0, 1, 0)], turns := [⟨⟨(0, 0), some 0⟩, .yielded (0, 1)⟩] }
  | 6 => {
      floor := { queue := [⟨(1, 0), some 0⟩], busy := [0] }, handed := [(0, 0, 0), (0, 1, 0)]
      turns := [⟨⟨(0, 0), some 0⟩, .yielded (0, 1)⟩, ⟨⟨(0, 1), some 0⟩, .panicked⟩] }
  | 7 => {
      floor := { busy := [0] }, hands := {⟨(1, 0), some 0⟩}, handed := [(0, 0, 0), (0, 1, 0)]
      turns := [⟨⟨(0, 0), some 0⟩, .yielded (0, 1)⟩, ⟨⟨(0, 1), some 0⟩, .panicked⟩] }
  | _ => {
      handed := [(0, 0, 0), (0, 1, 0)]
      turns := [⟨⟨(0, 0), some 0⟩, .yielded (0, 1)⟩, ⟨⟨(0, 1), some 0⟩, .panicked⟩,
        ⟨⟨(1, 0), some 0⟩, .ended⟩] }

theorem errand_endless : Shift.Endless Prod.fst id errand where
  start := rfl
  step := by
    rintro (_ | _ | _ | _ | _ | _ | _ | _ | k)
    · exact .inr (.hand 0 (0, 0) (by simp [errand, Shift.unitsOf]))
    · exact .inr (.start ⟨(0, 0), some 0⟩ _ rfl)
    · exact .inr (.hand 0 (1, 0) (by simp [errand, Shift.unitsOf]))
    · exact .inr (.finish (Poll.mk ⟨(0, 0), some 0⟩ (.yielded (0, 1))) 0 rfl (by rintro rest ⟨⟩; rfl))
    · exact .inr (.start ⟨(0, 1), some 0⟩ _ rfl)
    · exact .inr (.finish (Poll.mk ⟨(0, 1), some 0⟩ .panicked) 0 rfl (by rintro rest ⟨⟩))
    · exact .inr (.start ⟨(1, 0), some 0⟩ _ rfl)
    · exact .inr (.finish (Poll.mk ⟨(1, 0), some 0⟩ .ended) 0 rfl (by rintro rest ⟨⟩))
    · exact .inl rfl
  fair := by
    have held {k m : Nat} {job job' : Job (Nat × Nat)} (queue : (errand k).floor.queue = [job])
        (queued : job' ∈ (errand k).floor.queue) (later : k ≤ m) (hands : (errand m).hands = {job}) :
        ∃ m, k ≤ m ∧ job' ∈ (errand m).hands := by
      rw [queue] at queued
      obtain rfl := List.mem_singleton.mp queued
      exact ⟨m, later, hands ▸ Multiset.mem_singleton_self job'⟩
    rintro (_ | _ | _ | _ | _ | _ | _ | _ | k) job queued
    · cases queued
    · exact held rfl queued (Nat.le_succ 1) rfl
    · cases queued
    · cases queued
    · exact held rfl queued (Nat.le_succ 4) rfl
    · cases queued
    · exact held rfl queued (Nat.le_succ 6) rfl
    · cases queued
    · cases queued

-- A contender confirms in the middle of its callback, then waits at a gate, is revoked meanwhile, and panics when
-- it is let through. The listener that hears of it panics before there is a future.
def solo : List Step :=
  [.listen 0 "ears" { onNotify := [[.burst (some "boom")]] },
    .register 0 "lead" "a"
      { onGrant := [[.perform [.confirm "a" "@granted" "http://a" none], .yield 1, .gate, .fail (.panicked none)]] }]

def recital : Scene × List Turn :=
  let waiting := paced (paced ((performAll solo (addService {} ⟨.serial, true⟩ {})).2, []))
  paced (paced (paced (paced ((performAll [.revoke 0 none, .release "a"] waiting.1).2, waiting.2))))

theorem recital_played : Played recital.1 recital.2 := by
  have begun := played_performAll solo (.launch {} [] (.empty _) ⟨.serial, true⟩ {})
  have waiting := played_paced _ (played_paced (_, []) begun)
  have released := played_performAll [.revoke 0 none, .release "a"] waiting
  exact played_paced _ (played_paced _ (played_paced _ (played_paced (_, _) released)))

theorem recital_in_order :
    (Shift.Endless Prod.fst id errand ∧ (errand 8).unitsOf 0 = [(0, 0), (1, 0)] ∧
      Shift.FirstInFirstOut Prod.fst id 0 (errand 8) ∧ Shift.Over Prod.fst id 0 (errand 6) (0, 0) ∧
      ∃ m, Shift.Begun Prod.fst id 0 (errand m) (1, 0)) ∧
    (Played recital.1 recital.2 ∧ recital.1.hosts[0]? = some ⟨.serial, true⟩ ∧ units 0 recital.1 = [0, 1, 2, 3] ∧
      (Shift.turnsAt Turn.poll 0 recital.2).map (fun t => t.routine.unit) = [0, 0, 0, 1, 2, 3] ∧
      [0, 1, 2, 3].map recital.1.fate = [some .finished, some .dropped, some .finished, some .finished] ∧
      InOrder 0 recital.1 recital.2) ∧
    ∃ start, setUpAll [.direct .serial none] {} = .ok start ∧ ∃ ts, Played (runAll solo start).2 ts := by
  obtain ⟨law, progress, served, played⟩ := serial_in_order
  have panicked : Shift.Over Prod.fst id 0 (errand 6) (0, 0) := by
    refine ⟨⟨⟨(0, 1), some 0⟩, .panicked⟩, ?_, rfl⟩
    simp [Shift.mem_turnsOf, errand]
  have begun : ∃ m, Shift.Begun Prod.fst id 0 (errand m) (1, 0) :=
    progress _ _ Prod.fst id errand errand_endless 0 3 [(0, 0)] (1, 0) [] rfl
      (List.forall_mem_singleton.mpr ⟨6, panicked⟩)
  refine ⟨⟨errand_endless, rfl, law _ _ _ _ _ (errand_endless.reached 8) 0, panicked, begun⟩, ?_, _, rfl, ?_⟩
  · exact ⟨recital_played, rfl, by decide, by decide, rfl, (served _ _ recital_played 0 true rfl).1⟩
  · exact played _ [.direct .serial none] solo _ rfl

end Scene
end Leadership.Scenario
