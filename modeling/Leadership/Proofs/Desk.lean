import Leadership.Election.Operations
import Leadership.Proofs.Roster

set_option autoImplicit false

namespace Leadership

def Service.ids (v : Service) : List Nat := v.contenders.ids ++ v.listeners.ids

theorem mark_other (flags : Nat → Bool) (id other : Nat) (value : Bool) (different : other ≠ id) :
    mark flags id value other = flags other := by
  simp [mark, different]

theorem mark_false (flags : Nat → Bool) (id other : Nat) :
    mark flags id false other = true ↔ flags other = true ∧ other ≠ id := by
  by_cases same : other = id
  · simp [mark, same]
  · simp [mark, same]

namespace Desk

def reply (d : Desk) : Except Fault Completion :=
  match d.plan.next.1 with
  | .reject why => .error why
  | _ => .ok (.unit d.attempts.length)

def handed (d : Desk) (w : Work) : Desk :=
  { d with
    plan := d.plan.next.2, attempts := d.attempts ++ [⟨d.number, w, d.plan.next.1, d.toService⟩] }

theorem submit_eq (d : Desk) (w : Work) : d.submit w = (d.reply, d.handed w) := by
  cases answer : d.plan.next with
  | mk verdict plan =>
    simp only [submit, reply, handed, answer]
    cases verdict <;> rfl

theorem reply_error (d : Desk) (why : Fault) (rejected : d.reply = .error why) :
    d.plan.next.1 = .reject why := by
  cases verdict : d.plan.next.1 with
  | reject given =>
    rw [reply, verdict] at rejected
    cases rejected
    rfl
  | accept =>
    rw [reply, verdict] at rejected
    cases rejected
  | discard =>
    rw [reply, verdict] at rejected
    cases rejected

structure Alike (d e : Desk) : Prop where
  contenders : e.contenders = d.contenders
  listeners : e.listeners = d.listeners
  slot : e.slot = d.slot
  published : e.published = d.published
  down : e.down = d.down
  active : e.active = d.active
  leading : e.leading = d.leading
  minted : e.minted = d.minted
  number : e.number = d.number

theorem Alike.refl (d : Desk) : Alike d d := ⟨rfl, rfl, rfl, rfl, rfl, rfl, rfl, rfl, rfl⟩

theorem Alike.trans {c d e : Desk} (first : Alike c d) (second : Alike d e) : Alike c e :=
  ⟨second.contenders.trans first.contenders, second.listeners.trans first.listeners,
    second.slot.trans first.slot, second.published.trans first.published,
    second.down.trans first.down, second.active.trans first.active,
    second.leading.trans first.leading, second.minted.trans first.minted,
    second.number.trans first.number⟩

theorem note_alike (d : Desk) (n : Note) : Alike d (d.note n) :=
  ⟨rfl, rfl, rfl, rfl, rfl, rfl, rfl, rfl, rfl⟩

theorem handed_alike (d : Desk) (w : Work) : Alike d (d.handed w) :=
  ⟨rfl, rfl, rfl, rfl, rfl, rfl, rfl, rfl, rfl⟩

theorem announce_alike (leader : Option (Leader Fence)) (ms : List (Member Unit)) (d : Desk) :
    Alike d (announce leader ms d).2 := by
  induction ms generalizing d with
  | nil => exact Alike.refl d
  | cons m ms ih =>
    have rest := (handed_alike d (.notify m leader)).trans (ih (d.handed (.notify m leader)))
    simp only [announce, submit_eq]
    cases d.reply with
    | error f => exact handed_alike d _
    | ok one =>
      cases announced : announce leader ms (d.handed (.notify m leader)) with
      | mk result after =>
        rw [announced] at rest
        simp only [announced]
        cases result with
        | error f => exact rest
        | ok c => exact rest

theorem announce_error (leader : Option (Leader Fence)) (ms : List (Member Unit)) (d : Desk) (f : Fault)
    (failed : (announce leader ms d).1 = .error f) :
    ∃ x a m, d.attempts.length ≤ x ∧ (announce leader ms d).2.attempts[x]? = some a ∧
      a.service = d.number ∧ a.work = .notify m leader ∧ a.verdict = .reject f := by
  induction ms generalizing d with
  | nil => cases failed
  | cons m ms ih =>
    simp only [announce, submit_eq] at failed ⊢
    cases answered : d.reply with
    | error g =>
      simp only [answered, Except.error.injEq] at failed
      subst failed
      exact ⟨d.attempts.length, ⟨d.number, .notify m leader, d.plan.next.1, d.toService⟩, m,
        Nat.le_refl _, List.getElem?_concat_length, rfl, rfl, reply_error d g answered⟩
    | ok one =>
      have inner := ih (d.handed (.notify m leader))
      simp only [answered] at failed
      cases announced : announce leader ms (d.handed (.notify m leader)) with
      | mk result after =>
        rw [announced] at inner failed
        cases result with
        | ok rest => cases failed
        | error g =>
          simp only [Except.error.injEq] at failed
          obtain ⟨x, a, n, beyond, proper⟩ := inner (congrArg Except.error failed)
          simp only [handed, List.length_append, List.length_singleton] at beyond
          simp only [announced]
          exact ⟨x, a, n, Nat.le_of_succ_le beyond, proper⟩

theorem withdraw_rest (d : Desk) (c : Contender) (contenders : Roster String) :
    d.withdraw c contenders = { d with
      contenders := contenders, active := mark d.active c.id false, leading := mark d.leading c.id false,
      slot := (d.withdraw c contenders).slot, published := (d.withdraw c contenders).published } := by
  by_cases confirmed : d.slot.confirmed = some c.id <;>
    by_cases proposed : d.slot.proposed = some c.id <;>
      simp [withdraw, unconfirm, unpropose, setActive, setLeading, setToken, confirmed, proposed]

theorem withdraw_other (d : Desk) (c : Contender) (contenders : Roster String)
    (unconfirmed : d.slot.confirmed ≠ some c.id) (unproposed : d.slot.proposed ≠ some c.id) :
    (d.withdraw c contenders).slot = d.slot ∧ (d.withdraw c contenders).published = d.published := by
  simp [withdraw, unconfirm, unpropose, setActive, setLeading, unconfirmed, unproposed]

theorem withdraw_holder (d : Desk) (c : Contender) (contenders : Roster String)
    (holder : d.slot.confirmed = some c.id ∨ d.slot.proposed = some c.id) :
    (d.withdraw c contenders).slot.token = none ∧ (d.withdraw c contenders).published = none := by
  by_cases confirmed : d.slot.confirmed = some c.id <;>
    by_cases proposed : d.slot.proposed = some c.id <;>
      simp_all [withdraw, unconfirm, unpropose, setActive, setLeading, setToken]

-- What telling parties of the end does: those gone are not active any more, those fallen do not lead
-- any more, and the works were submitted.
structure Parted (gone fallen : List Nat) (works : List Work) (d e : Desk) : Prop where
  contenders : e.contenders = d.contenders
  listeners : e.listeners = d.listeners
  slot : e.slot = d.slot
  published : e.published = d.published
  minted : e.minted = d.minted
  number : e.number = d.number
  active : ∀ id, e.active id = true ↔ d.active id = true ∧ id ∉ gone
  leading : ∀ id, e.leading id = true ↔ d.leading id = true ∧ id ∉ fallen
  attempts : ∃ fresh, e.attempts = d.attempts ++ fresh ∧ fresh.map Attempt.work = works ∧
    ∀ a ∈ fresh, a.service = d.number ∧ a.moment.slot = d.slot

theorem Parted.refl (d : Desk) : Parted [] [] [] d d :=
  ⟨rfl, rfl, rfl, rfl, rfl, rfl, by simp, by simp, [], by simp, rfl, by simp⟩

theorem Parted.trans {gone gone' fallen fallen' : List Nat} {works works' : List Work} {c d e : Desk}
    (first : Parted gone fallen works c d) (second : Parted gone' fallen' works' d e) :
    Parted (gone ++ gone') (fallen ++ fallen') (works ++ works') c e := by
  obtain ⟨early, grown, told, proper⟩ := first.attempts
  obtain ⟨late, grown', told', proper'⟩ := second.attempts
  refine ⟨second.contenders.trans first.contenders, second.listeners.trans first.listeners,
    second.slot.trans first.slot, second.published.trans first.published,
    second.minted.trans first.minted, second.number.trans first.number, ?_, ?_,
    early ++ late, ?_, ?_, ?_⟩
  · intro id
    rw [second.active, first.active, List.mem_append, not_or, and_assoc]
  · intro id
    rw [second.leading, first.leading, List.mem_append, not_or, and_assoc]
  · rw [grown', grown, List.append_assoc]
  · rw [List.map_append, told, told']
  · intro a member
    rcases List.mem_append.mp member with old | new
    · exact proper a old
    · rw [← first.number, ← first.slot]
      exact proper' a new

theorem retire_parted (cause : Fault) (d : Desk) (m : Member String) :
    Parted [m.id] [m.id] [.retire m (d.leading m.id) cause] d (retire cause d m) := by
  simp only [retire, submit_eq]
  cases ((d.setActive m.id false).setLeading m.id false).reply <;>
    exact ⟨rfl, rfl, rfl, rfl, rfl, rfl,
      fun id => (mark_false d.active m.id id).trans (by simp),
      fun id => (mark_false d.leading m.id id).trans (by simp),
      _, rfl, rfl, by simp [setActive, setLeading]⟩

theorem dismiss_parted (cause : Fault) (d : Desk) (m : Member Unit) :
    Parted [m.id] [] [.dismiss m cause] d (dismiss cause d m) := by
  simp only [dismiss, submit_eq]
  cases (d.setActive m.id false).reply <;>
    exact ⟨rfl, rfl, rfl, rfl, rfl, rfl,
      fun id => (mark_false d.active m.id id).trans (by simp), by simp [handed, setActive, note],
      _, rfl, rfl, by simp [setActive]⟩

theorem retireAll_parted (cause : Fault) (ms : List (Member String)) (d : Desk)
    (distinct : (ms.map Member.id).Nodup) :
    Parted (ms.map Member.id) (ms.map Member.id) (ms.map fun m => .retire m (d.leading m.id) cause)
      d (ms.foldl (retire cause) d) := by
  induction ms generalizing d with
  | nil => exact Parted.refl d
  | cons m ms ih =>
    obtain ⟨absent, rest⟩ := List.nodup_cons.mp distinct
    have first := retire_parted cause d m
    have kept : (ms.map fun n => Work.retire n ((retire cause d m).leading n.id) cause) =
        ms.map fun n => Work.retire n (d.leading n.id) cause := by
      refine List.map_congr_left fun n member => ?_
      have other : n.id ≠ m.id := fun same => absent (same ▸ List.mem_map_of_mem member)
      have flag := first.leading n.id
      simp only [List.mem_singleton, other, not_false_eq_true, and_true] at flag
      rw [Bool.eq_iff_iff.mpr flag]
    have later := ih (retire cause d m) rest
    rw [kept] at later
    exact first.trans later

theorem dismissAll_parted (cause : Fault) (ms : List (Member Unit)) (d : Desk) :
    Parted (ms.map Member.id) [] (ms.map fun m => .dismiss m cause)
      d (ms.foldl (dismiss cause) d) := by
  induction ms generalizing d with
  | nil => exact Parted.refl d
  | cons m ms ih => exact (dismiss_parted cause d m).trans (ih (dismiss cause d m))

-- What the end of a service does: all of it is empty, everybody registered has lost the flags and
-- was told once, and nothing else was submitted.
structure Closed (cause : Fault) (d e : Desk) : Prop where
  down : e.down = true
  contenders : e.contenders = {}
  listeners : e.listeners = {}
  slot : e.slot = {}
  published : e.published = none
  minted : e.minted = d.minted
  number : e.number = d.number
  active : ∀ id, e.active id = true ↔ d.active id = true ∧ id ∉ d.ids
  leading : ∀ id, e.leading id = true ↔ d.leading id = true ∧ id ∉ d.contenders.ids
  attempts : ∃ fresh, e.attempts = d.attempts ++ fresh ∧
    fresh.map Attempt.work =
      (d.contenders.members.map fun m => .retire m (d.leading m.id) cause) ++
        d.listeners.members.map (fun m => .dismiss m cause) ∧
    ∀ a ∈ fresh, a.service = d.number ∧ a.moment.slot = {}

theorem shutDown_closed (d : Desk) (cause : Fault) (up : d.down = false)
    (distinct : d.contenders.ids.Nodup) : Closed cause d (d.shutDown cause) := by
  let start : Desk := { d.vacate with contenders := Roster.empty, listeners := Roster.empty }
  have told := (retireAll_parted cause d.contenders.members start distinct).trans
    (dismissAll_parted cause d.listeners.members (d.contenders.members.foldl (retire cause) start))
  have same : d.shutDown cause =
      { d.listeners.members.foldl (dismiss cause) (d.contenders.members.foldl (retire cause) start)
        with down := true }.note (.down cause) := by
    simp only [shutDown, up, Bool.false_eq_true, if_false]
    rfl
  rw [same]
  refine ⟨rfl, told.contenders, told.listeners, told.slot, told.published, told.minted, told.number,
    told.active, ?_, told.attempts⟩
  intro id
  have flag := told.leading id
  rw [List.append_nil] at flag
  exact flag

end Desk
end Leadership
