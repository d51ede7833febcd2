import Leadership.Proofs.Serving

set_option autoImplicit false

namespace Leadership.Shift
variable {ρ τ : Type} {unit : ρ → Nat} {poll : τ → Poll ρ} {s : Nat} {v w : Shift ρ τ} {done : List Nat}
  {line before after : List ρ} {u r : ρ}

structure FirstInFirstOut (unit : ρ → Nat) (poll : τ → Poll ρ) (s : Nat) (w : Shift ρ τ) : Prop where
  order : turnsAt poll s w.turns = (w.unitsOf s).flatMap fun u => turnsOf unit poll s (unit u) w.turns
  front : (w.unitsOf s).Pairwise fun u v => Begun unit poll s w v → Over unit poll s w u
  alone : ∀ u ∈ w.unitsOf s, ∀ v ∈ w.unitsOf s, InProgress unit poll s w u → InProgress unit poll s w v → u = v
  hand : w.inHand s = 0 ∨ ∃ r, w.inHand s = {r} ∧ ∃ u ∈ w.unitsOf s, unit r = unit u
  -- A unit is started once, with what was handed over. It goes on with what is left of it, and as long as there is
  -- anything left, the worker has it.
  kept : ∀ u ∈ w.unitsOf s, ∃ left, Thread poll u (turnsOf unit poll s (unit u) w.turns) left ∧
    (∀ r ∈ w.inHand s, unit r = unit u → left = some r) ∧
    ∀ r, left = some r → unit r = unit u ∧ r ∈ w.inHand s + w.floor.due s
  -- The unit whose predecessors are all over waits for nothing but its turn.
  next : ∀ before u after, w.unitsOf s = before ++ u :: after → (∀ v ∈ before, Over unit poll s w v) →
    Begun unit poll s w u ∨ ⟨u, some s⟩ ∈ w.floor.queue
  told : ∀ (ε : Type) (tells : τ → List ε) (asks : ρ → List ε),
    (∀ u ∈ w.unitsOf s, (turnsOf unit poll s (unit u) w.turns).flatMap tells <+: asks u ∧
      (Over unit poll s w u → (turnsOf unit poll s (unit u) w.turns).flatMap tells = asks u)) →
    (turnsAt poll s w.turns).flatMap tells <+: (w.unitsOf s).flatMap asks

theorem Serving.unended (serving : Serving unit poll s w done line) (listed : u ∈ w.unitsOf s) (waits : r ∈ line)
    (same : unit r = unit u) : ¬ Over unit poll s w u := by
  obtain ⟨left, thread, next⟩ := serving.threads u listed
  obtain rfl := next r waits same
  rintro ⟨t, there, ends⟩
  exact thread.unended t there ends

theorem Serving.hand_cases (serving : Serving unit poll s w done line) :
    w.inHand s = 0 ∨ ∃ r rest, w.inHand s = {r} ∧ line = r :: rest := by
  rcases (w.inHand s).empty_or_exists_mem with none | ⟨r, held⟩
  · exact .inl none
  · obtain ⟨others, hand⟩ := Multiset.exists_cons_of_mem held
    obtain ⟨alone, rest, first⟩ := (hand ▸ serving.works).at_first
    exact .inr ⟨r, rest, by rw [hand, alone]; rfl, first⟩

theorem Serving.unbegun {n : Nat} (serving : Serving unit poll s w done (r :: line)) (behind : n ∈ line.map unit) :
    ¬ (turnsOf unit poll s n w.turns ≠ [] ∨ ∃ r ∈ w.inHand s, unit r = n) := by
  rintro (begun | ⟨r', held, same⟩)
  · obtain ⟨u, member, rfl⟩ := List.mem_map.mp behind
    exact begun (serving.behind u member)
  · rcases serving.hand_cases with none | ⟨first, rest, hand, start⟩
    · exact Multiset.notMem_zero r' (none ▸ held)
    · cases start
      obtain rfl := Multiset.mem_singleton.mp (hand ▸ held)
      exact serving.apart.2 (same ▸ behind)

theorem Serving.place (serving : Serving unit poll s w done line) (listed : u ∈ w.unitsOf s) :
    unit u ∈ done ∨ ∃ r rest, line = r :: rest ∧ (unit r = unit u ∨ unit u ∈ rest.map unit) := by
  have member := serving.submitted ▸ List.mem_map_of_mem (f := unit) listed
  rcases List.mem_append.mp member with past | waits
  · exact .inl past
  · cases line with
    | nil => cases waits
    | cons r rest => exact .inr ⟨r, rest, rfl, (List.mem_cons.mp waits).imp_left Eq.symm⟩

theorem Serving.front (serving : Serving unit poll s w done line) :
    (w.unitsOf s).Pairwise fun u v => Begun unit poll s w v → Over unit poll s w u := by
  let Fine (m n : Nat) : Prop := (turnsOf unit poll s n w.turns ≠ [] ∨ ∃ r ∈ w.inHand s, unit r = n) →
    ∃ t ∈ turnsOf unit poll s m w.turns, (poll t).pause.rest? = none
  have fine : ((w.unitsOf s).map unit).Pairwise Fine := by
    rw [serving.submitted, List.pairwise_append]
    refine ⟨?_, ?_, fun m past n _ _ => serving.ended m past⟩
    · exact List.pairwise_of_forall_mem_list fun m past n _ _ => serving.ended m past
    · cases line with
      | nil => exact .nil
      | cons r rest =>
        have idle (m n : Nat) (behind : n ∈ rest.map unit) : Fine m n :=
          fun begun => absurd begun (serving.unbegun behind)
        exact List.pairwise_cons.mpr
          ⟨fun n behind => idle _ n behind, List.pairwise_of_forall_mem_list fun m _ n behind => idle m n behind⟩
  exact List.pairwise_map.mp fine

theorem Serving.current (serving : Serving unit poll s w done line) (listed : u ∈ w.unitsOf s)
    (progress : InProgress unit poll s w u) : ∃ r rest, line = r :: rest ∧ unit r = unit u := by
  obtain ⟨begun, unended⟩ := progress
  rcases serving.place listed with past | ⟨r, rest, rfl, first | behind⟩
  · exact absurd (serving.ended _ past) unended
  · exact ⟨r, rest, rfl, first⟩
  · exact absurd begun (serving.unbegun behind)

theorem Serving.kept (serving : Serving unit poll s w done line) (listed : u ∈ w.unitsOf s) :
    ∃ left, Thread poll u (turnsOf unit poll s (unit u) w.turns) left ∧
      (∀ r ∈ w.inHand s, unit r = unit u → left = some r) ∧
      ∀ r, left = some r → unit r = unit u ∧ r ∈ w.inHand s + w.floor.due s := by
  obtain ⟨left, thread, next⟩ := serving.threads u listed
  have whole := serving.works.whole
  refine ⟨left, thread, ?_, ?_⟩
  · intro r held same
    have waits : r ∈ (line : Multiset ρ) := whole ▸ Multiset.mem_add.mpr (.inl held)
    exact next r (Multiset.mem_coe.mp waits) same
  · rintro r rfl
    have member := serving.submitted ▸ List.mem_map_of_mem (f := unit) listed
    rcases List.mem_append.mp member with past | waits
    · obtain ⟨t, there, ends⟩ := serving.ended _ past
      exact absurd ends (thread.unended t there)
    · obtain ⟨r', waits, same⟩ := List.mem_map.mp waits
      cases next r' waits same
      exact ⟨same, whole ▸ Multiset.mem_coe.mpr waits⟩

-- What comes before a later element of a list without duplicates comes before it however the list is cut.
theorem mem_front {α : Type} {a b : α} {front rest front' rest' : List α}
    (same : front ++ a :: rest = front' ++ b :: rest') (nodup : (front ++ a :: rest).Nodup) (later : b ∈ rest) :
    a ∈ front' := by
  obtain ⟨_, ordered, apart⟩ := List.nodup_append.mp nodup
  have other : a ≠ b := fun eq => (List.nodup_cons.mp ordered).1 (eq ▸ later)
  rcases List.append_eq_append_iff.mp same with ⟨gap, longer, cut⟩ | ⟨gap, shorter, cut⟩
  · cases gap with
    | nil => exact absurd (List.cons.inj cut).1 other
    | cons c gap =>
      rw [longer, (List.cons.inj cut).1]
      exact List.mem_append_right front List.mem_cons_self
  · cases gap with
    | nil => exact absurd (List.cons.inj cut).1.symm other
    | cons c gap =>
      have early : b ∈ front := by
        rw [shorter, (List.cons.inj cut).1]
        exact List.mem_append_right front' List.mem_cons_self
      exact absurd rfl (apart b early b (List.mem_cons_of_mem a later))

theorem Serving.next (serving : Serving unit poll s w done line) (split : w.unitsOf s = before ++ u :: after)
    (free : ∀ v ∈ before, Over unit poll s w v) :
    Begun unit poll s w u ∨ ⟨u, some s⟩ ∈ w.floor.queue := by
  have listed : u ∈ w.unitsOf s := split ▸ List.mem_append_right before List.mem_cons_self
  rcases serving.place listed with past | ⟨r, rest, rfl, first | behind⟩
  · obtain ⟨t, there, _⟩ := serving.ended _ past
    exact .inl (.inl (List.ne_nil_of_mem there))
  · by_cases begun : turnsOf unit poll s (unit u) w.turns = []
    · obtain ⟨left, thread, next⟩ := serving.threads u listed
      rw [begun] at thread
      obtain rfl := Option.some.inj (thread.fresh.symm.trans (next r List.mem_cons_self first))
      have here : u ∈ w.inHand s + w.floor.onHand s := serving.works.first ▸ Multiset.mem_singleton_self u
      rcases Multiset.mem_add.mp here with now | waits
      · exact .inl (.inr ⟨u, now, rfl⟩)
      · rcases Multiset.mem_add.mp (mem_routinesOf.mp waits) with queued | parked
        · exact .inr queued
        · obtain ⟨p, there, job⟩ := List.mem_map.mp (Multiset.mem_coe.mp parked)
          exact absurd (job ▸ begun) (serving.parked p there (by rw [job]))
    · exact .inl (.inl begun)
  · have numbers := serving.submitted
    rw [split, List.map_append, List.map_cons, List.map_cons] at numbers
    have distinct := serving.submitted ▸ serving.distinct
    obtain ⟨v, early, same⟩ := List.mem_map.mp (mem_front numbers.symm distinct behind)
    have known : v ∈ w.unitsOf s := split ▸ List.mem_append_left _ early
    exact absurd (free v early) (serving.unended known List.mem_cons_self same.symm)

theorem flatMap_prefix {α ε : Type} {us : List α} {said asks : α → List ε} (short : ∀ u ∈ us, said u <+: asks u)
    (halts : us.Pairwise fun u v => said v ≠ [] → said u = asks u) : us.flatMap said <+: us.flatMap asks := by
  induction us with
  | nil => exact List.prefix_refl _
  | cons u us ih =>
    obtain ⟨first, later⟩ := List.pairwise_cons.mp halts
    obtain ⟨own, others⟩ := List.forall_mem_cons.mp short
    rw [List.flatMap_cons, List.flatMap_cons]
    by_cases quiet : ∀ v ∈ us, said v = []
    · rw [List.flatMap_eq_nil_iff.mpr quiet, List.append_nil]
      exact own.trans (List.prefix_append _ _)
    · push Not at quiet
      obtain ⟨v, listed, spoken⟩ := quiet
      rw [first v listed spoken]
      exact (List.prefix_append_right_inj _).mpr (ih others later)

theorem Serving.told (serving : Serving unit poll s w done line) {ε : Type} (tells : τ → List ε) (asks : ρ → List ε)
    (honest : ∀ u ∈ w.unitsOf s, (turnsOf unit poll s (unit u) w.turns).flatMap tells <+: asks u ∧
      (Over unit poll s w u → (turnsOf unit poll s (unit u) w.turns).flatMap tells = asks u)) :
    (turnsAt poll s w.turns).flatMap tells <+: (w.unitsOf s).flatMap asks := by
  rw [serving.turns, List.flatMap_assoc, List.flatMap_map]
  apply flatMap_prefix
  · exact fun u listed => (honest u listed).1
  · apply serving.front.imp_of_mem
    intro u v listed _ ends spoken
    exact (honest u listed).2 (ends (.inl fun none => spoken (by rw [none]; rfl)))

theorem reached_in_order (reached : Reached unit poll w) (s : Nat) : FirstInFirstOut unit poll s w := by
  obtain ⟨done, line, serving⟩ := serving_reached reached s
  constructor
  · rw [serving.turns, List.flatMap_map]
  · exact serving.front
  · intro u listed v listed' progress progress'
    obtain ⟨r, rest, rfl, same⟩ := serving.current listed progress
    obtain ⟨r', rest', start, same'⟩ := serving.current listed' progress'
    cases start
    exact List.inj_on_of_nodup_map serving.distinct listed listed' (same.symm.trans same')
  · rcases serving.hand_cases with none | ⟨r, rest, hand, rfl⟩
    · exact .inl none
    · have known := serving.submitted ▸ List.mem_append_right done (List.mem_map_of_mem List.mem_cons_self)
      obtain ⟨u, listed, same⟩ := List.mem_map.mp known
      exact .inr ⟨r, hand, u, listed, same.symm⟩
  · exact fun u listed => serving.kept listed
  · exact fun before u after split free => serving.next split free
  · exact fun ε tells asks honest => serving.told tells asks honest

/-- A run without end. Whatever comes next is left open, but no job waits for its turn for ever. -/
structure Endless (unit : ρ → Nat) (poll : τ → Poll ρ) (run : Nat → Shift ρ τ) : Prop where
  start : run 0 = {}
  step : ∀ k, run (k + 1) = run k ∨ Step unit poll (run k) (run (k + 1))
  fair : ∀ k, ∀ job ∈ (run k).floor.queue, ∃ m, k ≤ m ∧ job ∈ (run m).hands

theorem Step.grown (step : Step unit poll v w) : v.handed <+: w.handed ∧ v.turns <+: w.turns := by
  cases step with
  | beside | start => exact ⟨List.prefix_refl _, List.prefix_refl _⟩
  | hand => exact ⟨List.prefix_append _ _, List.prefix_refl _⟩
  | finish => exact ⟨List.prefix_refl _, List.prefix_append _ _⟩

theorem Over.later (earlier : Over unit poll s v u) (grown : v.turns <+: w.turns) : Over unit poll s w u := by
  obtain ⟨more, grown⟩ := grown
  obtain ⟨t, there, ends⟩ := earlier
  have longer : turnsOf unit poll s (unit u) v.turns <+: turnsOf unit poll s (unit u) (v.turns ++ more) :=
    turnsOf_grown v.turns more
  exact ⟨t, grown ▸ longer.subset there, ends⟩

variable {run : Nat → Shift ρ τ} {k m : Nat}

theorem Endless.reached (endless : Endless unit poll run) (k : Nat) : Reached unit poll (run k) := by
  induction k with
  | zero => exact endless.start ▸ .refl
  | succ k ih =>
    rcases endless.step k with still | step
    · exact still ▸ ih
    · exact ih.tail step

theorem Endless.grown (endless : Endless unit poll run) (later : k ≤ m) :
    (run k).handed <+: (run m).handed ∧ (run k).turns <+: (run m).turns := by
  induction m, later using Nat.le_induction with
  | base => exact ⟨List.prefix_refl _, List.prefix_refl _⟩
  | succ m _ ih =>
    rcases endless.step m with still | step
    · exact still ▸ ih
    · exact ⟨ih.1.trans step.grown.1, ih.2.trans step.grown.2⟩

theorem Endless.all_over (endless : Endless unit poll run) (us : List ρ)
    (each : ∀ v ∈ us, ∃ m, Over unit poll s (run m) v) (k : Nat) :
    ∃ m, k ≤ m ∧ ∀ v ∈ us, Over unit poll s (run m) v := by
  induction us with
  | nil => exact ⟨k, Nat.le_refl k, by simp⟩
  | cons u us ih =>
    obtain ⟨own, others⟩ := List.forall_mem_cons.mp each
    obtain ⟨m, later, all⟩ := ih others
    obtain ⟨n, ends⟩ := own
    have longer := (endless.grown (Nat.le_max_left m n)).2
    refine ⟨max m n, Nat.le_trans later (Nat.le_max_left m n), List.forall_mem_cons.mpr ⟨?_, ?_⟩⟩
    · exact ends.later (endless.grown (Nat.le_max_right m n)).2
    · exact fun v listed => (all v listed).later longer

theorem Endless.begun (endless : Endless unit poll run) (split : (run k).unitsOf s = before ++ u :: after)
    (each : ∀ v ∈ before, ∃ m, Over unit poll s (run m) v) : ∃ m, Begun unit poll s (run m) u := by
  obtain ⟨m, later, free⟩ := endless.all_over before each k
  obtain ⟨more, handed⟩ := (endless.grown later).1
  have longer : (run m).unitsOf s = before ++ u :: (after ++ (more.filter fun u => u.1 == s).map Prod.snd) := by
    rw [unitsOf, ← handed, List.filter_append, List.map_append, ← unitsOf, split, List.append_assoc, List.cons_append]
  rcases (reached_in_order (endless.reached m) s).next _ u _ longer free with begun | queued
  · exact ⟨m, begun⟩
  · obtain ⟨n, _, held⟩ := endless.fair m _ queued
    exact ⟨n, .inr ⟨u, mem_routinesOf.mpr held, rfl⟩⟩

end Leadership.Shift
