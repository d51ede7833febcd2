import Leadership.Executor.Floor
import Mathlib.Algebra.Order.Group.Multiset
import Mathlib.Tactic.Abel

set_option autoImplicit false

namespace Leadership

theorem pluck_holds {α : Type} (p : α → Bool) {l rest : List α} {a : α} (found : pluck p l = some (a, rest)) :
    (l : Multiset α) = a ::ₘ (rest : Multiset α) := by
  induction l generalizing rest with
  | nil => cases found
  | cons x xs ih =>
    by_cases fits : p x = true
    · rw [pluck, if_pos fits] at found
      cases found
      exact (Multiset.cons_coe a xs).symm
    · rw [pluck, if_neg fits] at found
      cases further : pluck p xs with
      | none =>
        rw [further] at found
        cases found
      | some pair =>
        obtain ⟨b, ys⟩ := pair
        rw [further] at found
        cases found
        rw [← Multiset.cons_coe, ih further, ← Multiset.cons_coe, Multiset.cons_swap]

theorem pluckNth_holds {α : Type} (p : α → Bool) {n : Nat} {l rest : List α} {a : α}
    (found : pluckNth p n l = some (a, rest)) : (l : Multiset α) = a ::ₘ (rest : Multiset α) := by
  induction l generalizing n rest with
  | nil =>
    cases n with
    | zero => cases found
    | succ n => cases found
  | cons x xs ih =>
    have later {m : Nat} (found : (pluckNth p m xs).map (fun u => (u.1, x :: u.2)) = some (a, rest)) :
        ((x :: xs : List α) : Multiset α) = a ::ₘ (rest : Multiset α) := by
      cases further : pluckNth p m xs with
      | none =>
        rw [further] at found
        cases found
      | some pair =>
        obtain ⟨b, ys⟩ := pair
        rw [further] at found
        cases found
        rw [← Multiset.cons_coe, ih further, ← Multiset.cons_coe, Multiset.cons_swap]
    unfold pluckNth at found
    by_cases fits : p x = true
    · rw [if_pos fits] at found
      cases n with
      | zero =>
        cases found
        exact (Multiset.cons_coe a xs).symm
      | succ n => exact later found
    · rw [if_neg fits] at found
      exact later found

namespace Floor
variable {ρ : Type} (f g : Floor ρ) (r : ρ) (s : Nat)

def holds : Multiset ρ :=
  (f.queue.map Job.routine : Multiset ρ) + (f.parked.map fun p => p.2.routine : List ρ) +
    (f.backlog.map Prod.snd : List ρ) + (f.shelf.map Prod.snd : List ρ)

theorem holds_spawn : (f.spawn r).holds = r ::ₘ f.holds := by
  simp only [holds, spawn, List.map_append, List.map_cons, List.map_nil, ← Multiset.coe_add,
    Multiset.coe_singleton, ← Multiset.singleton_add]
  abel

theorem holds_line : (f.line s r).holds = r ::ₘ f.holds := by
  by_cases busy : s ∈ f.busy
  · simp only [line, if_pos busy, holds, List.map_append, List.map_cons, List.map_nil, ← Multiset.coe_add,
      Multiset.coe_singleton, ← Multiset.singleton_add]
    abel
  · simp only [line, if_neg busy, holds, List.map_append, List.map_cons, List.map_nil, ← Multiset.coe_add,
      Multiset.coe_singleton, ← Multiset.singleton_add]
    abel

theorem holds_shelve : (f.shelve s r).holds = r ::ₘ f.holds := by
  simp only [holds, shelve, List.map_append, List.map_cons, List.map_nil, ← Multiset.coe_add,
    Multiset.coe_singleton, ← Multiset.singleton_add]
  abel

theorem holds_takeShelved {f g : Floor ρ} {r : ρ} {n : Nat} (taken : f.takeShelved s n = some (r, g)) :
    f.holds = r ::ₘ g.holds := by
  cases found : pluckNth (fun u => u.1 == s) n f.shelf with
  | none =>
    rw [takeShelved, found] at taken
    cases taken
  | some pair =>
    obtain ⟨u, shelf⟩ := pair
    rw [takeShelved, found] at taken
    cases taken
    have kept := congrArg (Multiset.map Prod.snd) (pluckNth_holds _ found)
    simp only [Multiset.map_coe, Multiset.map_cons] at kept
    simp only [holds, kept, ← Multiset.singleton_add]
    abel

theorem holds_makeGate (gate : String) : (f.makeGate gate).holds = f.holds := by
  by_cases there : f.hasGate gate = true
  · rw [makeGate, if_pos there]
  · rw [makeGate, if_neg there]
    rfl

theorem holds_release (gate : String) : (f.release gate).holds = f.holds := by
  cases found : pluck (fun p => p.1 == gate) f.parked with
  | none =>
    rw [release, found]
    rfl
  | some pair =>
    obtain ⟨⟨name, job⟩, parked⟩ := pair
    have kept := congrArg (Multiset.map fun p : String × Job ρ => p.2.routine) (pluck_holds _ found)
    simp only [Multiset.map_coe, Multiset.map_cons] at kept
    rw [release, found]
    simp only [holds, kept, List.map_append, List.map_cons, List.map_nil, ← Multiset.coe_add,
      Multiset.coe_singleton, ← Multiset.singleton_add]
    abel

theorem holds_pass {f g : Floor ρ} (gate : String) (passed : f.pass? gate = some g) : g.holds = f.holds := by
  unfold pass? at passed
  split at passed
  · cases passed
    rfl
  · cases passed

theorem take_cases {f g : Floor ρ} {job : Job ρ} (taken : f.take? = some (job, g)) :
    f.queue = job :: g.queue ∧ g = { f with queue := g.queue } := by
  unfold take? at taken
  split at taken
  · cases taken
  · rename_i waiting
    cases taken
    exact ⟨waiting, rfl⟩

theorem holds_take {f g : Floor ρ} {job : Job ρ} (taken : f.take? = some (job, g)) :
    f.holds = job.routine ::ₘ g.holds := by
  unfold take? at taken
  split at taken
  · cases taken
  · rename_i queue eq
    cases taken
    simp only [holds, eq, List.map_cons, ← Multiset.cons_coe, Multiset.cons_add]

theorem holds_advance : (f.advance s).holds = f.holds := by
  cases found : pluck (fun u => u.1 == s) f.backlog with
  | none =>
    rw [advance, found]
    rfl
  | some pair =>
    obtain ⟨⟨worker, r⟩, backlog⟩ := pair
    have kept := congrArg (Multiset.map Prod.snd) (pluck_holds _ found)
    simp only [Multiset.map_coe, Multiset.map_cons] at kept
    rw [advance, found]
    simp only [holds, kept, List.map_cons, ← Multiset.cons_coe, Multiset.cons_add, Multiset.add_cons]

-- Whether a unit has ended well or in a panic is all the same to whoever runs it.
theorem conclude_over {pause : Pause ρ} (worker : Option Nat) (ends : pause.rest? = none) :
    f.conclude worker pause = f.conclude worker .ended := by
  cases pause with
  | ended | panicked => rfl
  | yielded | closed => cases ends

theorem holds_over {pause : Pause ρ} (ends : pause.rest? = none) (worker : Option Nat) :
    (f.conclude worker pause).holds = f.holds := by
  cases pause with
  | ended | panicked =>
    cases worker with
    | none => rfl
    | some s => exact holds_advance f s
  | yielded | closed => cases ends

theorem holds_paused {pause : Pause ρ} {r : ρ} (waits : pause.rest? = some r) (worker : Option Nat) :
    (f.conclude worker pause).holds = r ::ₘ f.holds := by
  cases pause with
  | ended | panicked => cases waits
  | yielded | closed =>
    cases waits
    simp only [holds, conclude, List.map_append, List.map_cons, List.map_nil, ← Multiset.coe_add,
      Multiset.coe_singleton, ← Multiset.singleton_add]
    abel

end Floor
end Leadership
