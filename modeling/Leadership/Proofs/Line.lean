import Leadership.Proofs.Floor

set_option autoImplicit false

namespace Leadership

theorem pluck_filter {α : Type} (p : α → Bool) {l rest : List α} {a : α} (found : pluck p l = some (a, rest)) :
    l.filter p = a :: rest.filter p ∧
      ∀ q : α → Bool, (∀ b, p b = true → q b = false) → l.filter q = rest.filter q := by
  induction l generalizing rest with
  | nil => cases found
  | cons x xs ih =>
    by_cases fits : p x = true
    · rw [pluck, if_pos fits] at found
      cases found
      constructor
      · exact List.filter_cons_of_pos fits
      · intro q apart
        exact List.filter_cons_of_neg (Bool.eq_false_iff.mp (apart a fits))
    · rw [pluck, if_neg fits] at found
      cases further : pluck p xs with
      | none =>
        rw [further] at found
        cases found
      | some pair =>
        obtain ⟨b, ys⟩ := pair
        rw [further] at found
        cases found
        obtain ⟨own, others⟩ := ih further
        constructor
        · rw [List.filter_cons_of_neg fits, List.filter_cons_of_neg fits, own]
        · intro q apart
          rw [List.filter_cons, List.filter_cons, others q apart]

theorem pluck_none {α : Type} (p : α → Bool) (l : List α) (none : pluck p l = none) : l.filter p = [] := by
  induction l with
  | nil => rfl
  | cons x xs ih =>
    by_cases fits : p x = true
    · rw [pluck, if_pos fits] at none
      cases none
    · rw [pluck, if_neg fits, Option.map_eq_none_iff] at none
      rw [List.filter_cons_of_neg fits, ih none]

def routinesOf {ρ : Type} (s : Nat) (jobs : Multiset (Job ρ)) : Multiset ρ :=
  (jobs.filter fun j => j.worker = some s).map Job.routine

theorem routinesOf_own {ρ : Type} (s : Nat) (r : ρ) (jobs : Multiset (Job ρ)) :
    routinesOf s (⟨r, some s⟩ ::ₘ jobs) = r ::ₘ routinesOf s jobs := by
  have own : Multiset.filter (fun j : Job ρ => j.worker = some s) (⟨r, some s⟩ ::ₘ jobs) =
      ⟨r, some s⟩ ::ₘ jobs.filter fun j => j.worker = some s := Multiset.filter_cons_of_pos jobs rfl
  rw [routinesOf, own, Multiset.map_cons]
  rfl

theorem routinesOf_other {ρ : Type} {s : Nat} {job : Job ρ} (other : job.worker ≠ some s) (jobs : Multiset (Job ρ)) :
    routinesOf s (job ::ₘ jobs) = routinesOf s jobs := by
  have none : Multiset.filter (fun j : Job ρ => j.worker = some s) (job ::ₘ jobs) =
      jobs.filter fun j => j.worker = some s := Multiset.filter_cons_of_neg jobs other
  rw [routinesOf, none]
  rfl

theorem mem_routinesOf {ρ : Type} {s : Nat} {r : ρ} {jobs : Multiset (Job ρ)} :
    r ∈ routinesOf s jobs ↔ ⟨r, some s⟩ ∈ jobs := by
  rw [routinesOf, Multiset.mem_map]
  constructor
  · rintro ⟨⟨_, worker⟩, listed, rfl⟩
    obtain ⟨there, rfl⟩ := Multiset.mem_filter.mp listed
    exact there
  · intro there
    exact ⟨_, Multiset.mem_filter.mpr ⟨there, rfl⟩, rfl⟩

namespace Floor
variable {ρ : Type} {f g : Floor ρ} {s t : Nat} {r : ρ} {job : Job ρ} {running : Multiset ρ} {line : List ρ}

def jobs (f : Floor ρ) : Multiset (Job ρ) := (f.queue : Multiset (Job ρ)) + (f.parked.map Prod.snd : List (Job ρ))

def onHand (f : Floor ρ) (s : Nat) : Multiset ρ := routinesOf s f.jobs

def behind (f : Floor ρ) (s : Nat) : List ρ := (f.backlog.filter fun u => u.1 == s).map Prod.snd

def due (f : Floor ρ) (s : Nat) : Multiset ρ := f.onHand s + (f.behind s : Multiset ρ)

-- The worker is at the first unit of this line, and the others are behind it. It may be running that unit.
structure Works (f : Floor ρ) (s : Nat) (running : Multiset ρ) (line : List ρ) : Prop where
  busy : s ∈ f.busy ↔ line ≠ []
  first : running + f.onHand s = (line.head?.toList : Multiset ρ)
  behind : f.behind s = line.tail

theorem onHand_own (jobs : g.jobs = ⟨r, some s⟩ ::ₘ f.jobs) : g.onHand s = r ::ₘ f.onHand s := by
  rw [onHand, jobs, routinesOf_own]
  rfl

theorem onHand_other (jobs : g.jobs = job ::ₘ f.jobs) (other : job.worker ≠ some s) : g.onHand s = f.onHand s := by
  rw [onHand, jobs, routinesOf_other other]
  rfl

theorem Works.alike (works : f.Works s running line) (busy : s ∈ g.busy ↔ s ∈ f.busy)
    (onHand : g.onHand s = f.onHand s) (behind : g.behind s = f.behind s) : g.Works s running line :=
  ⟨busy.trans works.busy, onHand ▸ works.first, behind.trans works.behind⟩

theorem jobs_append (queue : g.queue = f.queue ++ [job]) (parked : g.parked = f.parked) :
    g.jobs = job ::ₘ f.jobs := by
  rw [jobs, jobs, queue, parked, ← Multiset.coe_add, Multiset.coe_singleton, ← Multiset.singleton_add]
  abel

theorem jobs_cons (queue : g.queue = job :: f.queue) (parked : g.parked = f.parked) : g.jobs = job ::ₘ f.jobs := by
  rw [jobs, jobs, queue, parked, ← Multiset.cons_coe, Multiset.cons_add]

theorem jobs_park {gate : String} (queue : g.queue = f.queue) (parked : g.parked = f.parked ++ [(gate, job)]) :
    g.jobs = job ::ₘ f.jobs := by
  rw [jobs, jobs, queue, parked, List.map_append, ← Multiset.coe_add, List.map_singleton, Multiset.coe_singleton,
    ← Multiset.singleton_add]
  abel

theorem jobs_release (f : Floor ρ) (gate : String) : (f.release gate).jobs = f.jobs := by
  cases found : pluck (fun p => p.1 == gate) f.parked with
  | none =>
    rw [release, found]
    rfl
  | some pair =>
    obtain ⟨⟨name, job⟩, parked⟩ := pair
    have kept := congrArg (Multiset.map Prod.snd) (pluck_holds _ found)
    simp only [Multiset.map_coe, Multiset.map_cons] at kept
    rw [release, found]
    simp only [jobs, kept, ← Multiset.coe_add, Multiset.coe_singleton, ← Multiset.singleton_add]
    abel

theorem jobs_take (taken : f.take? = some (job, g)) : f.jobs = job ::ₘ g.jobs := by
  obtain ⟨front, rest⟩ := take_cases taken
  rw [jobs, front, ← Multiset.cons_coe, Multiset.cons_add, rest]
  rfl

theorem release_rest (f : Floor ρ) (gate : String) :
    (f.release gate).busy = f.busy ∧ (f.release gate).backlog = f.backlog := by
  unfold release
  split <;> exact ⟨rfl, rfl⟩

theorem take_rest (taken : f.take? = some (job, g)) :
    g.busy = f.busy ∧ g.backlog = f.backlog ∧ g.parked = f.parked := by
  obtain ⟨_, rest⟩ := take_cases taken
  rw [rest]
  exact ⟨rfl, rfl, rfl⟩

theorem works_spawn (works : f.Works s running line) (r : ρ) : (f.spawn r).Works s running line :=
  works.alike Iff.rfl (onHand_other (jobs_append rfl rfl) (by simp)) rfl

theorem works_makeGate (works : f.Works s running line) (gate : String) :
    (f.makeGate gate).Works s running line := by
  by_cases there : f.hasGate gate = true
  · rw [makeGate, if_pos there]
    exact works
  · rw [makeGate, if_neg there]
    exact works.alike Iff.rfl rfl rfl

theorem works_pass (works : f.Works s running line) (gate : String) (passed : f.pass? gate = some g) :
    g.Works s running line := by
  unfold pass? at passed
  split at passed
  · cases passed
    exact works.alike Iff.rfl rfl rfl
  · cases passed

theorem works_release (works : f.Works s running line) (gate : String) : (f.release gate).Works s running line := by
  obtain ⟨busy, backlog⟩ := release_rest f gate
  apply works.alike
  · rw [busy]
  · rw [onHand, jobs_release]
    rfl
  · rw [behind, backlog]
    rfl

theorem takeShelved_rest {n : Nat} (taken : f.takeShelved t n = some (r, g)) :
    ∃ shelf, g = { f with shelf := shelf } := by
  cases found : pluckNth (fun u => u.1 == t) n f.shelf with
  | none =>
    rw [takeShelved, found] at taken
    cases taken
  | some pair =>
    rw [takeShelved, found] at taken
    cases taken
    exact ⟨_, rfl⟩

theorem works_shelf (works : f.Works s running line) (shelf : List (Nat × ρ)) :
    Works { f with shelf := shelf } s running line :=
  works.alike Iff.rfl rfl rfl

theorem works_line (works : f.Works s running line) (r : ρ) : (f.line s r).Works s running (line ++ [r]) := by
  obtain ⟨busy, first, behind⟩ := works
  cases line with
  | nil =>
    have idle : s ∉ f.busy := fun at_it => busy.mp at_it rfl
    rw [Floor.line, if_neg idle]
    constructor
    · simp
    · have hand := onHand_own (f := f) (g := { f with busy := s :: f.busy, queue := f.queue ++ [⟨r, some s⟩] })
        (jobs_append rfl rfl)
      rw [hand, Multiset.add_cons, first]
      rfl
    · exact behind
  | cons u line =>
    rw [Floor.line, if_pos (busy.mpr (by simp))]
    constructor
    · exact iff_of_true (busy.mpr (by simp)) (by simp)
    · exact first
    · have grown : Floor.behind { f with backlog := f.backlog ++ [(s, r)] } s = f.behind s ++ [r] := by
        simp [Floor.behind, List.filter_append]
      rw [grown, behind]
      rfl

theorem works_line_other (works : f.Works s running line) (other : t ≠ s) (r : ρ) :
    (f.line t r).Works s running line := by
  by_cases busy : t ∈ f.busy
  · rw [Floor.line, if_pos busy]
    apply works.alike
    · rfl
    · rfl
    · simp [behind, List.filter_append, other]
  · rw [Floor.line, if_neg busy]
    apply works.alike
    · simp [other.symm]
    · exact onHand_other (f := f) (jobs_append rfl rfl) (by simp [other])
    · rfl

theorem first_cases {others : Multiset ρ} (first : r ::ₘ (running + others) = (line.head?.toList : Multiset ρ)) :
    running = 0 ∧ others = 0 ∧ ∃ rest, line = r :: rest := by
  cases line with
  | nil => exact absurd first Multiset.cons_ne_zero
  | cons u rest =>
    have one : r ::ₘ (running + others) = {u} := first
    have listed : r ∈ ({u} : Multiset ρ) := one ▸ Multiset.mem_cons_self r _
    obtain rfl := Multiset.mem_singleton.mp listed
    have none := (Multiset.cons_inj_right r).mp one
    obtain ⟨idle, nothing⟩ := (add_eq_zero_iff_of_nonneg (Multiset.zero_le _) (Multiset.zero_le _)).mp none
    exact ⟨idle, nothing, rest, rfl⟩

theorem Works.at_first (works : f.Works s (r ::ₘ running) line) : running = 0 ∧ ∃ rest, line = r :: rest := by
  have first := works.first
  rw [Multiset.cons_add] at first
  obtain ⟨idle, _, start⟩ := first_cases first
  exact ⟨idle, start⟩

-- When a worker's turn comes, it is the first unit of its line that is run.
theorem works_take (works : f.Works s running line) (taken : f.take? = some (⟨r, some s⟩, g)) :
    running = 0 ∧ (∃ rest, line = r :: rest) ∧ g.Works s {r} line := by
  obtain ⟨busy, first, behind⟩ := works
  obtain ⟨same, backlog, _⟩ := take_rest taken
  rw [onHand_own (jobs_take taken), Multiset.add_cons] at first
  obtain ⟨idle, nothing, rest, rfl⟩ := first_cases first
  refine ⟨idle, ⟨rest, rfl⟩, ?_, ?_, ?_⟩
  · rw [same]
    exact busy
  · rw [nothing, add_zero]
    rfl
  · rw [Floor.behind, backlog]
    exact behind

theorem works_take_other (works : f.Works s running line) (taken : f.take? = some (job, g))
    (other : job.worker ≠ some s) : g.Works s running line := by
  obtain ⟨same, backlog, _⟩ := take_rest taken
  apply works.alike
  · rw [same]
  · exact (onHand_other (jobs_take taken) other).symm
  · rw [behind, backlog]
    rfl

theorem Works.idle (works : f.Works s {r} (r :: line)) : f.onHand s = 0 := by
  have one : ({r} : Multiset ρ) + f.onHand s = {r} := works.first
  exact left_eq_add.mp one.symm

theorem works_pause {pause : Pause ρ} {rest : ρ} (works : f.Works s {r} (r :: line))
    (waits : pause.rest? = some rest) : (f.conclude (some s) pause).Works s 0 (rest :: line) := by
  have idle := works.idle
  obtain ⟨busy, _, behind⟩ := works
  have back (jobs : (f.conclude (some s) pause).jobs = ⟨rest, some s⟩ ::ₘ f.jobs) :
      0 + (f.conclude (some s) pause).onHand s = ((rest :: line).head?.toList : Multiset ρ) := by
    rw [zero_add, onHand_own jobs, idle]
    rfl
  cases pause with
  | ended | panicked => cases waits
  | yielded =>
    cases waits
    exact ⟨iff_of_true (busy.mpr (by simp)) (by simp), back (jobs_append rfl rfl), behind⟩
  | closed gate =>
    cases waits
    exact ⟨iff_of_true (busy.mpr (by simp)) (by simp), back (jobs_park rfl rfl), behind⟩

theorem works_advance (works : f.Works s {r} (r :: line)) : (f.advance s).Works s 0 line := by
  have idle := works.idle
  obtain ⟨busy, _, behind⟩ := works
  have rest : f.behind s = line := behind
  cases found : pluck (fun u => u.1 == s) f.backlog with
  | none =>
    have nobody : f.behind s = [] := by rw [Floor.behind, pluck_none _ _ found]; rfl
    obtain rfl := rest.symm.trans nobody
    rw [advance, found]
    constructor
    · simp
    · rw [zero_add]
      exact idle
    · exact nobody
  | some pair =>
    obtain ⟨⟨t, u⟩, backlog⟩ := pair
    have next := (pluck_filter _ found).1
    rw [Floor.behind, next, List.map_cons] at rest
    obtain rfl := rest
    rw [advance, found]
    constructor
    · exact iff_of_true (busy.mpr (by simp)) (by simp)
    · have hand := onHand_own (f := f) (g := { f with backlog := backlog, queue := ⟨u, some s⟩ :: f.queue })
        (jobs_cons rfl rfl)
      rw [zero_add, hand, idle]
      rfl
    · rfl

theorem works_advance_other (works : f.Works s running line) (other : t ≠ s) :
    (f.advance t).Works s running line := by
  cases found : pluck (fun u => u.1 == t) f.backlog with
  | none =>
    rw [advance, found]
    apply works.alike
    · simp [other.symm]
    · rfl
    · rfl
  | some pair =>
    obtain ⟨⟨t', u⟩, backlog⟩ := pair
    have apart := (pluck_filter _ found).2 (fun u => u.1 == s) (by simp [other])
    rw [advance, found]
    apply works.alike
    · rfl
    · exact onHand_other (f := f) (jobs_cons rfl rfl) (by simp [other])
    · rw [behind, behind, apart]

theorem works_conclude_other {worker : Option Nat} (works : f.Works s running line) (other : worker ≠ some s)
    (pause : Pause ρ) : (f.conclude worker pause).Works s running line := by
  cases pause with
  | ended | panicked =>
    cases worker with
    | none => exact works
    | some t => exact works_advance_other works fun same => other (congrArg some same)
  | yielded rest => exact works.alike Iff.rfl (onHand_other (jobs_append rfl rfl) other) rfl
  | closed gate rest => exact works.alike Iff.rfl (onHand_other (jobs_park rfl rfl) other) rfl

theorem works_arrange (works : f.Works s running line) (queue : List (Job ρ)) (same : queue.Perm f.queue) :
    Works { f with queue := queue } s running line := by
  apply works.alike
  · rfl
  · rw [onHand, jobs, Multiset.coe_eq_coe.mpr same]
    rfl
  · rfl

theorem makeGate_parked (f : Floor ρ) (gate : String) : (f.makeGate gate).parked = f.parked := by
  unfold makeGate
  split <;> rfl

theorem pass_parked {gate : String} (passed : f.pass? gate = some g) : g.parked = f.parked := by
  unfold pass? at passed
  split at passed
  · cases passed
    rfl
  · cases passed

theorem release_parked (f : Floor ρ) (gate : String) : ∀ p ∈ (f.release gate).parked, p ∈ f.parked := by
  intro p waits
  cases found : pluck (fun p => p.1 == gate) f.parked with
  | none =>
    rw [release, found] at waits
    exact waits
  | some pair =>
    obtain ⟨front, parked⟩ := pair
    rw [release, found] at waits
    have kept := pluck_holds _ found
    exact Multiset.mem_coe.mp (kept ▸ Multiset.mem_cons_of_mem (Multiset.mem_coe.mpr waits))

theorem line_parked (f : Floor ρ) (t : Nat) (r : ρ) : (f.line t r).parked = f.parked := by
  unfold line
  split <;> rfl

theorem advance_parked (f : Floor ρ) (s : Nat) : (f.advance s).parked = f.parked := by
  unfold advance
  split <;> rfl

theorem parked_conclude {worker : Option Nat} {pause : Pause ρ} {p : String × Job ρ}
    (waits : p ∈ (f.conclude worker pause).parked) :
    p ∈ f.parked ∨ p.2.worker = worker ∧ pause.rest? = some p.2.routine := by
  cases pause with
  | ended | panicked =>
    cases worker with
    | none => exact .inl waits
    | some s => exact .inl (advance_parked f s ▸ waits)
  | yielded rest => exact .inl waits
  | closed gate rest =>
    rcases List.mem_append.mp waits with old | new
    · exact .inl old
    · rw [List.mem_singleton.mp new]
      exact .inr ⟨rfl, rfl⟩

theorem holds_of_due (listed : r ∈ f.due s) : r ∈ f.holds := by
  simp only [Floor.holds, Multiset.mem_add, Multiset.mem_coe, List.mem_map]
  rcases Multiset.mem_add.mp listed with now | later
  · rcases Multiset.mem_add.mp (mem_routinesOf.mp now) with queued | parked
    · exact .inl (.inl (.inl ⟨_, queued, rfl⟩))
    · obtain ⟨p, waits, job⟩ := List.mem_map.mp (Multiset.mem_coe.mp parked)
      exact .inl (.inl (.inr ⟨p, waits, congrArg Job.routine job⟩))
  · obtain ⟨u, member, rfl⟩ := List.mem_map.mp (Multiset.mem_coe.mp later)
    exact .inl (.inr ⟨u, (List.mem_filter.mp member).1, rfl⟩)

theorem Works.whole (works : f.Works s running line) : running + f.due s = line := by
  rw [due, ← add_assoc, works.first, works.behind, Multiset.coe_add]
  cases line <;> rfl

end Floor
end Leadership
