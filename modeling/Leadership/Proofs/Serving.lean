import Leadership.Proofs.Shift

set_option autoImplicit false

namespace Leadership.Shift
variable {ρ τ : Type} {unit : ρ → Nat} {poll : τ → Poll ρ} {s : Nat} {v w : Shift ρ τ} {done : List Nat}
  {line before after : List ρ} {u r : ρ} {t : τ} {hands : Multiset (Job ρ)}

-- Where a worker stands: the units that have ended, the one that it is at, and those behind it, which have had no
-- turn yet. Nobody waits at a gate before having had a turn.
structure Serving (unit : ρ → Nat) (poll : τ → Poll ρ) (s : Nat) (w : Shift ρ τ) (done : List Nat) (line : List ρ) :
    Prop where
  works : w.floor.Works s (w.inHand s) line
  submitted : (w.unitsOf s).map unit = done ++ line.map unit
  distinct : ((w.unitsOf s).map unit).Nodup
  ended : ∀ n ∈ done, ∃ t ∈ turnsOf unit poll s n w.turns, (poll t).pause.rest? = none
  behind : ∀ r ∈ line.tail, turnsOf unit poll s (unit r) w.turns = []
  turns : turnsAt poll s w.turns = ((w.unitsOf s).map unit).flatMap fun n => turnsOf unit poll s n w.turns
  threads : ∀ u ∈ w.unitsOf s, ∃ left, Thread poll u (turnsOf unit poll s (unit u) w.turns) left ∧
    ∀ r ∈ line, unit r = unit u → left = some r
  parked : ∀ p ∈ w.floor.parked, p.2.worker = some s → turnsOf unit poll s (unit p.2.routine) w.turns ≠ []

theorem serving_start : Serving unit poll s {} [] [] where
  works := ⟨by simp, rfl, rfl⟩
  submitted := rfl
  distinct := List.nodup_nil
  ended := by simp
  behind := by simp
  turns := rfl
  threads := by simp [unitsOf]
  parked := by simp

theorem Serving.untried {n : Nat} (serving : Serving unit poll s w done line)
    (new : n ∉ (w.unitsOf s).map unit) : turnsOf unit poll s n w.turns = [] := by
  apply List.filter_eq_nil_iff.mpr
  intro t listed same
  rw [serving.turns] at listed
  obtain ⟨m, known, there⟩ := List.mem_flatMap.mp listed
  exact new (beq_iff_eq.mp same ▸ (mem_turnsOf.mp there).2.2 ▸ known)

theorem Serving.apart (serving : Serving unit poll s w done (r :: line)) :
    unit r ∉ done ∧ unit r ∉ line.map unit := by
  have distinct := serving.distinct
  rw [serving.submitted, List.map_cons, List.nodup_append, List.nodup_cons] at distinct
  obtain ⟨_, ⟨once, _⟩, earlier⟩ := distinct
  exact ⟨fun past => earlier _ past _ List.mem_cons_self rfl, once⟩

theorem Serving.beside {floor : Floor ρ} (serving : Serving unit poll s w done line) (aside : w.floor.Aside floor) :
    Serving unit poll s { w with floor := floor } done line :=
  { serving with
    works := aside.works serving.works
    parked := fun p waits => serving.parked p (aside.parked p waits) }

theorem Serving.threads_hand (serving : Serving unit poll s w done line) (new : unit r ∉ (w.unitsOf s).map unit)
    (u : ρ) (listed : u ∈ w.unitsOf s ++ [r]) :
    ∃ left, Thread poll u (turnsOf unit poll s (unit u) w.turns) left ∧
      ∀ u' ∈ line ++ [r], unit u' = unit u → left = some u' := by
  rcases List.mem_append.mp listed with old | own
  · obtain ⟨left, thread, next⟩ := serving.threads u old
    refine ⟨left, thread, ?_⟩
    intro u' waits same
    rcases List.mem_append.mp waits with earlier | last
    · exact next u' earlier same
    · rw [List.mem_singleton.mp last] at same
      exact absurd (same ▸ List.mem_map_of_mem old) new
  · obtain rfl := List.mem_singleton.mp own
    refine ⟨some u, ?_, ?_⟩
    · rw [serving.untried new]
      exact .start
    · intro u' waits same
      rcases List.mem_append.mp waits with earlier | last
      · have known := List.mem_append_right done (List.mem_map_of_mem (f := unit) earlier)
        exact absurd (serving.submitted ▸ same ▸ known) new
      · rw [List.mem_singleton.mp last]

-- What is handed over has had no turn, and comes behind all others.
theorem Serving.hand_own (serving : Serving unit poll s w done line) (fresh : ∀ u ∈ w.unitsOf s, unit u ≠ unit r) :
    Serving unit poll s { w with floor := w.floor.line s r, handed := w.handed ++ [(s, r)] } done
      (line ++ [r]) := by
  have units := unitsOf_append w (w.floor.line s r) [(s, r)] s
  rw [List.filter_singleton, beq_self_eq_true, cond_true, List.map_singleton] at units
  have new : unit r ∉ (w.unitsOf s).map unit := by
    intro known
    obtain ⟨u, listed, same⟩ := List.mem_map.mp known
    exact fresh u listed same
  have untried := serving.untried new
  constructor
  · exact Floor.works_line serving.works r
  · rw [units, List.map_append, serving.submitted, List.map_append, List.append_assoc]
  · rw [units, List.map_append, List.map_singleton, ← List.concat_eq_append]
    exact serving.distinct.concat new
  · exact serving.ended
  · intro u listed
    cases line with
    | nil => cases listed
    | cons first line =>
      rcases List.mem_append.mp listed with old | own
      · exact serving.behind u old
      · exact List.mem_singleton.mp own ▸ untried
  · have turns := serving.turns
    rw [units, List.map_append, List.flatMap_append, List.map_singleton, List.flatMap_singleton]
    rwa [untried, List.append_nil]
  · intro u listed
    exact serving.threads_hand new u (units ▸ listed)
  · intro p waits
    exact serving.parked p (Floor.line_parked w.floor s r ▸ waits)

theorem Serving.hand_other {t : Nat} (serving : Serving unit poll s w done line) (other : t ≠ s) (r : ρ) :
    Serving unit poll s { w with floor := w.floor.line t r, handed := w.handed ++ [(t, r)] } done line := by
  have units := unitsOf_append w (w.floor.line t r) [(t, r)] s
  rw [List.filter_singleton, beq_false_of_ne other, cond_false, List.map_nil, List.append_nil] at units
  constructor
  · exact Floor.works_line_other serving.works other r
  · exact units ▸ serving.submitted
  · exact units ▸ serving.distinct
  · exact serving.ended
  · exact serving.behind
  · exact units ▸ serving.turns
  · exact units ▸ serving.threads
  · intro p waits
    exact serving.parked p (Floor.line_parked w.floor t r ▸ waits)

theorem Serving.begin_turn {job : Job ρ} {floor : Floor ρ} (serving : Serving unit poll s w done line)
    (taken : w.floor.take? = some (job, floor)) :
    Serving unit poll s { w with floor := floor, hands := job ::ₘ w.hands } done line := by
  have works : floor.Works s (routinesOf s (job ::ₘ w.hands)) line := by
    obtain ⟨r, worker⟩ := job
    by_cases own : worker = some s
    · subst own
      obtain ⟨idle, _, works⟩ := Floor.works_take serving.works taken
      have none : routinesOf s w.hands = 0 := idle
      rw [routinesOf_own, none]
      exact works
    · rw [routinesOf_other own]
      exact Floor.works_take_other serving.works taken own
  have parked : floor.parked = w.floor.parked := (Floor.take_rest taken).2.2
  exact { serving with works := works, parked := fun p waits => serving.parked p (parked ▸ waits) }

theorem Serving.turns_own (serving : Serving unit poll s w done ((poll t).job.routine :: line))
    (worker : (poll t).job.worker = some s) : turnsAt poll s (w.turns ++ [t]) =
      ((w.unitsOf s).map unit).flatMap fun n => turnsOf unit poll s n (w.turns ++ [t]) := by
  obtain ⟨early, late⟩ := serving.apart
  have kept (ns : List Nat) (other : unit (poll t).job.routine ∉ ns) :
      (ns.flatMap fun n => turnsOf unit poll s n (w.turns ++ [t])) =
        ns.flatMap fun n => turnsOf unit poll s n w.turns := by
    apply List.flatMap_congr
    intro n listed
    exact turnsOf_other (.inr fun same => other (same ▸ listed))
  have untried : ((line.map unit).flatMap fun n => turnsOf unit poll s n w.turns) = [] := by
    apply List.flatMap_eq_nil_iff.mpr
    intro n listed
    obtain ⟨u, member, rfl⟩ := List.mem_map.mp listed
    exact serving.behind u member
  rw [turnsAt_own worker, serving.turns, serving.submitted, List.map_cons, List.flatMap_append, List.flatMap_append,
    List.flatMap_cons, List.flatMap_cons]
  rw [kept done early, kept _ late, untried, turnsOf_own worker, List.append_nil, List.append_nil, List.append_assoc]

theorem Serving.threads_own (serving : Serving unit poll s w done ((poll t).job.routine :: line))
    (worker : (poll t).job.worker = some s)
    (same : ∀ rest, (poll t).pause.rest? = some rest → unit rest = unit (poll t).job.routine) (u : ρ)
    (listed : u ∈ w.unitsOf s) : ∃ left, Thread poll u (turnsOf unit poll s (unit u) (w.turns ++ [t])) left ∧
      ∀ r ∈ (poll t).pause.rest?.toList ++ line, unit r = unit u → left = some r := by
  obtain ⟨_, late⟩ := serving.apart
  obtain ⟨left, thread, next⟩ := serving.threads u listed
  by_cases own : unit (poll t).job.routine = unit u
  · obtain rfl := next _ List.mem_cons_self own
    refine ⟨(poll t).pause.rest?, ?_, ?_⟩
    · rw [← own, turnsOf_own worker]
      exact .next _ t (own ▸ thread)
    · intro r waits unit_eq
      rcases List.mem_append.mp waits with rest | behind
      · exact Option.mem_toList.mp rest
      · exact absurd (own.trans unit_eq.symm ▸ List.mem_map_of_mem behind) late
  · refine ⟨left, ?_, ?_⟩
    · rw [turnsOf_other (.inr own)]
      exact thread
    · intro r waits unit_eq
      rcases List.mem_append.mp waits with rest | behind
      · exact absurd ((same r (Option.mem_toList.mp rest)).symm.trans unit_eq) own
      · exact next r (List.mem_cons_of_mem _ behind) unit_eq

theorem Serving.ended_later (serving : Serving unit poll s w done line) (more : List τ) :
    ∀ n ∈ done, ∃ t ∈ turnsOf unit poll s n (w.turns ++ more), (poll t).pause.rest? = none := by
  intro n listed
  obtain ⟨t, there, ends⟩ := serving.ended n listed
  exact ⟨t, (turnsOf_grown _ _).subset there, ends⟩

theorem Serving.behind_own (serving : Serving unit poll s w done ((poll t).job.routine :: line)) :
    ∀ r ∈ line, turnsOf unit poll s (unit r) (w.turns ++ [t]) = [] := by
  intro r listed
  have member := List.mem_map_of_mem (f := unit) listed
  have other : unit (poll t).job.routine ≠ unit r := fun own => serving.apart.2 (own ▸ member)
  rw [turnsOf_other (.inr other)]
  exact serving.behind r listed

theorem Serving.parked_own (serving : Serving unit poll s w done line) (worker : (poll t).job.worker = some s)
    (same : ∀ rest, (poll t).pause.rest? = some rest → unit rest = unit (poll t).job.routine) :
    ∀ p ∈ (w.floor.conclude (poll t).job.worker (poll t).pause).parked, p.2.worker = some s →
      turnsOf unit poll s (unit p.2.routine) (w.turns ++ [t]) ≠ [] := by
  intro p waits own
  rcases Floor.parked_conclude waits with old | ⟨_, left⟩
  · exact fun none => serving.parked p old own (List.prefix_nil.mp (none ▸ turnsOf_grown _ _))
  · rw [same _ left, turnsOf_own worker]
    simp

theorem Serving.finish_own (serving : Serving unit poll s w done line) (held : w.hands = (poll t).job ::ₘ hands)
    (same : ∀ rest, (poll t).pause.rest? = some rest → unit rest = unit (poll t).job.routine)
    (worker : (poll t).job.worker = some s) : ∃ done' line', Serving unit poll s { w with
      floor := w.floor.conclude (poll t).job.worker (poll t).pause, hands := hands, turns := w.turns ++ [t] }
      done' line' := by
  have whole : (poll t).job = ⟨(poll t).job.routine, some s⟩ := by rw [← worker]
  have hand : w.inHand s = (poll t).job.routine ::ₘ routinesOf s hands := by
    rw [inHand, held, whole, routinesOf_own]
  have works := serving.works
  rw [hand] at works
  obtain ⟨idle, rest, rfl⟩ := works.at_first
  rw [idle] at works
  have ended := serving.ended_later [t]
  have behind := serving.behind_own
  have turns := serving.turns_own worker
  have threads := serving.threads_own worker same
  have parked := serving.parked_own worker same
  have now : (0 : Multiset ρ) = routinesOf s hands := idle.symm
  cases left : (poll t).pause.rest? with
  | none =>
    have floor : w.floor.conclude (poll t).job.worker (poll t).pause = w.floor.advance s := by
      rw [Floor.conclude_over w.floor _ left, worker]
      rfl
    have own : ∃ t' ∈ turnsOf unit poll s (unit (poll t).job.routine) (w.turns ++ [t]),
        (poll t').pause.rest? = none := ⟨t, by simp [turnsOf_own worker], left⟩
    rw [left] at threads
    refine ⟨done ++ [unit (poll t).job.routine], rest, ?_, ?_, serving.distinct, ?_, ?_, turns, threads, parked⟩
    · have moved := Floor.works_advance works
      rwa [now, ← floor] at moved
    · exact serving.submitted.trans (by simp)
    · exact List.forall_mem_append.mpr ⟨ended, List.forall_mem_singleton.mpr own⟩
    · exact fun r listed => behind r (List.mem_of_mem_tail listed)
  | some r =>
    rw [left] at threads
    refine ⟨done, r :: rest, ?_, ?_, serving.distinct, ended, behind, turns, threads, parked⟩
    · have paused := Floor.works_pause works left
      rwa [now, ← worker] at paused
    · exact serving.submitted.trans (by simp [same r left])

theorem Serving.finish_other (serving : Serving unit poll s w done line) (held : w.hands = (poll t).job ::ₘ hands)
    (other : (poll t).job.worker ≠ some s) : Serving unit poll s { w with
      floor := w.floor.conclude (poll t).job.worker (poll t).pause, hands := hands, turns := w.turns ++ [t] }
      done line := by
  have hand : w.inHand s = routinesOf s hands := by
    rw [inHand, held, routinesOf_other other]
  have kept (n : Nat) : turnsOf unit poll s n (w.turns ++ [t]) = turnsOf unit poll s n w.turns :=
    turnsOf_other (.inl other)
  constructor
  · have works := serving.works
    rw [hand] at works
    exact Floor.works_conclude_other works other (poll t).pause
  · exact serving.submitted
  · exact serving.distinct
  · simpa only [kept] using serving.ended
  · simpa only [kept] using serving.behind
  · simp only [kept, turnsAt_other other]
    exact serving.turns
  · simp only [kept]
    exact serving.threads
  · intro p waits own
    rcases Floor.parked_conclude waits with old | ⟨worker, _⟩
    · exact kept _ ▸ serving.parked p old own
    · exact absurd (worker.symm.trans own) other

theorem serving_step (step : Step unit poll v w) (serving : Serving unit poll s v done line) :
    ∃ done' line', Serving unit poll s w done' line' := by
  cases step with
  | beside floor aside => exact ⟨done, line, serving.beside aside⟩
  | hand t r fresh =>
    by_cases own : t = s
    · subst own
      exact ⟨done, _, serving.hand_own fresh⟩
    · exact ⟨done, line, serving.hand_other own r⟩
  | start job floor taken => exact ⟨done, line, serving.begin_turn taken⟩
  | finish t hands held same =>
    by_cases worker : (poll t).job.worker = some s
    · exact serving.finish_own held same worker
    · exact ⟨done, line, serving.finish_other held worker⟩

theorem serving_reached (reached : Reached unit poll w) (s : Nat) : ∃ done line, Serving unit poll s w done line := by
  induction reached with
  | refl => exact ⟨[], [], serving_start⟩
  | tail _ step ih =>
    obtain ⟨done, line, serving⟩ := ih
    exact serving_step step serving

end Leadership.Shift
