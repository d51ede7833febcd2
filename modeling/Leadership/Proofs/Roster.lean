import Leadership.Roster
import Mathlib.Data.List.Nodup

set_option autoImplicit false

namespace Leadership.Roster
variable {κ : Type}

def ids (r : Roster κ) : List Nat := r.members.map Member.id

theorem ids_of_member (r : Roster κ) (m : Member κ) (member : m ∈ r.members) : m.id ∈ r.ids :=
  List.mem_map_of_mem member

theorem member_of_ids (r : Roster κ) (id : Nat) (held : id ∈ r.ids) : ∃ m ∈ r.members, m.id = id := by
  obtain ⟨m, member, same⟩ := List.mem_map.mp held
  exact ⟨m, member, same⟩

theorem member_of_get (r : Roster κ) (id : Nat) (m : Member κ) (found : r.get? id = some m) :
    m ∈ r.members ∧ m.id = id := by
  refine ⟨List.mem_of_find?_eq_some found, ?_⟩
  simpa using List.find?_some found

theorem absent_of_get (r : Roster κ) (id : Nat) (missing : r.get? id = none) : id ∉ r.ids := by
  intro held
  obtain ⟨m, member, same⟩ := member_of_ids r id held
  have different := List.find?_eq_none.mp missing m member
  simp [same] at different

theorem get_of_ids (r : Roster κ) (id : Nat) (held : id ∈ r.ids) :
    ∃ m, r.get? id = some m ∧ m ∈ r.members ∧ m.id = id := by
  cases found : r.get? id with
  | none => exact absurd held (absent_of_get r id found)
  | some m => exact ⟨m, rfl, member_of_get r id m found⟩

theorem registered_iff (r : Roster κ) (g : Registration κ)
    (alone : ∀ m ∈ r.members, m.id = g.id → m.registration = g) :
    g.id ∈ r.ids ↔ ∃ m, r.get? g.id = some m ∧ m.registration = g := by
  constructor
  · intro held
    obtain ⟨m, found, member, same⟩ := get_of_ids r g.id held
    exact ⟨m, found, alone m member same⟩
  · intro ⟨m, found, same⟩
    obtain ⟨member, _⟩ := member_of_get r g.id m found
    exact same ▸ ids_of_member r m member

theorem mem_place (m n : Member κ) (ms : List (Member κ)) : n ∈ place m ms ↔ n = m ∨ n ∈ ms := by
  induction ms with
  | nil => simp [place]
  | cons head tail ih =>
    by_cases younger : m.id < head.id
    · simp [place, younger]
    · simp only [place, if_neg younger, List.mem_cons, ih]
      exact or_left_comm

theorem nodup_place (m : Member κ) (ms : List (Member κ)) (fresh : m.id ∉ ms.map Member.id)
    (distinct : (ms.map Member.id).Nodup) : ((place m ms).map Member.id).Nodup := by
  induction ms with
  | nil => simp [place]
  | cons head tail ih =>
    by_cases younger : m.id < head.id
    · simpa [place, younger] using And.intro fresh distinct
    · simp only [List.map_cons, List.mem_cons, not_or] at fresh
      obtain ⟨absent, rest⟩ := List.nodup_cons.mp distinct
      simp only [place, if_neg younger, List.map_cons]
      refine List.nodup_cons.mpr ⟨?_, ih fresh.2 rest⟩
      intro later
      obtain ⟨n, placed, same⟩ := List.mem_map.mp later
      rcases (mem_place m n tail).mp placed with rfl | old
      · exact fresh.1 same
      · exact absent (same ▸ List.mem_map_of_mem old)

theorem add_cases (r next : Roster κ) (m : Member κ) (added : r.add? m = some next) :
    m.id ∉ r.ids ∧ next = ⟨place m r.members⟩ := by
  cases found : r.get? m.id with
  | none =>
    rw [add?, found] at added
    exact ⟨absent_of_get r m.id found, (Option.some.inj added).symm⟩
  | some n => simp [add?, found] at added

theorem add_unlisted (r : Roster κ) (m : Member κ) (unlisted : m.id ∉ r.ids) : ∃ next, r.add? m = some next := by
  cases found : r.get? m.id with
  | none => exact ⟨⟨place m r.members⟩, by simp only [add?, found]⟩
  | some n =>
    obtain ⟨member, same⟩ := member_of_get r m.id n found
    exact absurd (same ▸ ids_of_member r n member) unlisted

theorem mem_add (r next : Roster κ) (m n : Member κ) (added : r.add? m = some next) :
    n ∈ next.members ↔ n = m ∨ n ∈ r.members := by
  obtain ⟨_, rfl⟩ := add_cases r next m added
  exact mem_place m n r.members

theorem ids_add (r next : Roster κ) (m : Member κ) (added : r.add? m = some next) (id : Nat) :
    id ∈ next.ids ↔ id = m.id ∨ id ∈ r.ids := by
  constructor
  · intro held
    obtain ⟨n, member, rfl⟩ := member_of_ids next id held
    rcases (mem_add r next m n added).mp member with rfl | old
    · exact .inl rfl
    · exact .inr (ids_of_member r n old)
  · intro either
    rcases either with rfl | held
    · exact ids_of_member next m ((mem_add r next m m added).mpr (.inl rfl))
    · obtain ⟨n, member, rfl⟩ := member_of_ids r id held
      exact ids_of_member next n ((mem_add r next m n added).mpr (.inr member))

theorem nodup_add (r next : Roster κ) (m : Member κ) (added : r.add? m = some next)
    (distinct : r.ids.Nodup) : next.ids.Nodup := by
  obtain ⟨fresh, rfl⟩ := add_cases r next m added
  exact nodup_place m r.members fresh distinct

theorem remove_cases (r next : Roster κ) (g : Registration κ) (m : Member κ)
    (removed : r.remove? g = some (m, next)) :
    m ∈ r.members ∧ m.id = g.id ∧ m.registration.object = g.object ∧
      next = ⟨r.members.filter fun n => n.id != g.id⟩ := by
  cases found : r.get? g.id with
  | none => simp [remove?, found] at removed
  | some n =>
    obtain ⟨member, place⟩ := member_of_get r g.id n found
    by_cases identical : n.registration.object = g.object
    · simp only [remove?, found, if_pos identical, Option.some.injEq, Prod.mk.injEq] at removed
      obtain ⟨rfl, rfl⟩ := removed
      exact ⟨member, place, identical, rfl⟩
    · simp [remove?, found, identical] at removed

theorem remove_registered (r : Roster κ) (g : Registration κ)
    (registered : ∃ m, r.get? g.id = some m ∧ m.registration.object = g.object) : r.remove? g ≠ none := by
  obtain ⟨m, found, identical⟩ := registered
  simp [remove?, found, identical]

theorem mem_remove (r next : Roster κ) (g : Registration κ) (m n : Member κ)
    (removed : r.remove? g = some (m, next)) : n ∈ next.members ↔ n ∈ r.members ∧ n.id ≠ g.id := by
  obtain ⟨_, _, _, rfl⟩ := remove_cases r next g m removed
  simp

theorem ids_remove (r next : Roster κ) (g : Registration κ) (m : Member κ)
    (removed : r.remove? g = some (m, next)) (id : Nat) : id ∈ next.ids ↔ id ∈ r.ids ∧ id ≠ g.id := by
  constructor
  · intro held
    obtain ⟨n, member, rfl⟩ := member_of_ids next id held
    obtain ⟨old, different⟩ := (mem_remove r next g m n removed).mp member
    exact ⟨ids_of_member r n old, different⟩
  · intro ⟨held, different⟩
    obtain ⟨n, member, rfl⟩ := member_of_ids r id held
    exact ids_of_member next n ((mem_remove r next g m n removed).mpr ⟨member, different⟩)

theorem sublist_remove (r next : Roster κ) (g : Registration κ) (m : Member κ)
    (removed : r.remove? g = some (m, next)) : List.Sublist next.ids r.ids := by
  obtain ⟨_, _, _, rfl⟩ := remove_cases r next g m removed
  exact List.filter_sublist.map Member.id

section Distinct
variable (r : Roster κ) (distinct : r.ids.Nodup)
include distinct

theorem member_unique (m n : Member κ) (left : m ∈ r.members) (right : n ∈ r.members)
    (same : m.id = n.id) : m = n :=
  List.inj_on_of_nodup_map distinct left right same

theorem get_iff (id : Nat) (m : Member κ) : r.get? id = some m ↔ m ∈ r.members ∧ m.id = id := by
  constructor
  · exact member_of_get r id m
  · intro ⟨member, same⟩
    obtain ⟨n, found, listed, equal⟩ := get_of_ids r id (same ▸ ids_of_member r m member)
    rw [found, member_unique r distinct m n member listed (same.trans equal.symm)]

theorem get_add_other (next : Roster κ) (m : Member κ) (added : r.add? m = some next) (id : Nat)
    (other : id ≠ m.id) : next.get? id = r.get? id := by
  refine Option.ext fun n => ?_
  rw [get_iff next (nodup_add r next m added distinct), get_iff r distinct, mem_add r next m n added]
  constructor
  · intro ⟨either, same⟩
    rcases either with rfl | old
    · exact absurd same.symm other
    · exact ⟨old, same⟩
  · intro ⟨old, same⟩
    exact ⟨.inr old, same⟩

theorem get_remove_other (next : Roster κ) (g : Registration κ) (m : Member κ)
    (removed : r.remove? g = some (m, next)) (id : Nat) (other : id ≠ g.id) :
    next.get? id = r.get? id := by
  have still : next.ids.Nodup := distinct.sublist (sublist_remove r next g m removed)
  refine Option.ext fun n => ?_
  rw [get_iff next still, get_iff r distinct, mem_remove r next g m n removed]
  constructor
  · intro ⟨⟨old, _⟩, same⟩
    exact ⟨old, same⟩
  · intro ⟨old, same⟩
    exact ⟨⟨old, same ▸ other⟩, same⟩

theorem filterMap_member {β : Type} (f : Member κ → Option β) (m : Member κ) (member : m ∈ r.members)
    (only : ∀ n ∈ r.members, n.id ≠ m.id → f n = none) : r.members.filterMap f = (f m).toList := by
  obtain ⟨older, younger, split⟩ := List.append_of_mem member
  have apart : (older.map Member.id ++ m.id :: younger.map Member.id).Nodup := by
    simpa [ids, split] using distinct
  obtain ⟨_, rest, disjoint⟩ := List.nodup_append.mp apart
  have quiet (ns : List (Member κ)) (sub : ∀ n ∈ ns, n ∈ r.members) (other : ∀ n ∈ ns, n.id ≠ m.id) :
      ns.filterMap f = [] :=
    List.filterMap_eq_nil_iff.mpr fun n listed => only n (sub n listed) (other n listed)
  have before : older.filterMap f = [] := by
    refine quiet older (fun n listed => by simp [split, listed]) fun n listed => ?_
    exact disjoint n.id (List.mem_map_of_mem listed) m.id List.mem_cons_self
  have after : younger.filterMap f = [] := by
    refine quiet younger (fun n listed => by simp [split, listed]) fun n listed same => ?_
    exact (List.nodup_cons.mp rest).1 (same ▸ List.mem_map_of_mem listed)
  rw [split, List.filterMap_append, List.filterMap_cons, before, after]
  cases f m <;> rfl

end Distinct

theorem member_of_oldest (r : Roster κ) (m : Member κ) (oldest : r.oldest? = some m) :
    m ∈ r.members :=
  List.mem_of_mem_head? oldest

section Ordered

def Ordered (r : Roster κ) : Prop := r.ids.Pairwise (· < ·)

theorem Ordered.distinct {r : Roster κ} (ordered : r.Ordered) : r.ids.Nodup := ordered.imp Nat.ne_of_lt

theorem ordered_place (m : Member κ) (ms : List (Member κ)) (fresh : m.id ∉ ms.map Member.id)
    (ordered : (ms.map Member.id).Pairwise (· < ·)) : ((place m ms).map Member.id).Pairwise (· < ·) := by
  induction ms with
  | nil => exact List.pairwise_singleton _ _
  | cons head tail ih =>
    obtain ⟨older, rest⟩ := List.pairwise_cons.mp ordered
    by_cases younger : m.id < head.id
    · rw [place, if_pos younger]
      apply List.pairwise_cons.mpr
      constructor
      · intro id listed
        rcases List.mem_cons.mp listed with rfl | later
        · exact younger
        · exact Nat.lt_trans younger (older id later)
      · exact ordered
    · simp only [List.map_cons, List.mem_cons, not_or] at fresh
      rw [place, if_neg younger]
      apply List.pairwise_cons.mpr
      constructor
      · intro id listed
        obtain ⟨n, placed, rfl⟩ := List.mem_map.mp listed
        rcases (mem_place m n tail).mp placed with rfl | old
        · exact Nat.lt_of_le_of_ne (Nat.le_of_not_lt younger) (Ne.symm fresh.1)
        · exact older n.id (List.mem_map_of_mem old)
      · exact ih fresh.2 rest

theorem Ordered.add {r : Roster κ} (ordered : r.Ordered) (next : Roster κ) (m : Member κ)
    (added : r.add? m = some next) : next.Ordered := by
  obtain ⟨fresh, rfl⟩ := add_cases r next m added
  exact ordered_place m r.members fresh ordered

theorem Ordered.remove {r : Roster κ} (ordered : r.Ordered) (next : Roster κ) (g : Registration κ) (m : Member κ)
    (removed : r.remove? g = some (m, next)) : next.Ordered :=
  List.Pairwise.sublist (sublist_remove r next g m removed) ordered

theorem Ordered.oldest_le {r : Roster κ} (ordered : r.Ordered) (m n : Member κ) (oldest : r.oldest? = some m)
    (listed : n ∈ r.members) : m.id ≤ n.id := by
  obtain ⟨rest, split⟩ := List.head?_eq_some_iff.mp oldest
  rw [Ordered, ids, split, List.map_cons] at ordered
  rw [split] at listed
  rcases List.mem_cons.mp listed with rfl | later
  · exact Nat.le_refl _
  · exact Nat.le_of_lt ((List.pairwise_cons.mp ordered).1 n.id (List.mem_map_of_mem later))

end Ordered

end Leadership.Roster
