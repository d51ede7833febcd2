import Leadership.System
import Leadership.Proofs.Desk
import Mathlib.Logic.Relation

set_option autoImplicit false

namespace Leadership

theorem Slot.leader_of_unconfirmed (s : Slot) (unconfirmed : s.confirmed = none) :
    s.leader? = none := by
  simp [Slot.leader?, unconfirmed]

namespace Desk

def leave (d : Desk) (c : Contender) (m : Member String) (contenders : Roster String) : Desk :=
  let e := (d.withdraw c contenders).note (.removed c.label (d.leading c.id))
  if d.leading c.id then e.handed (.revoke m) else e

inductive Move : Call → Desk → Desk → Prop
  | note (call : Call) (d : Desk) (n : Note) : Move call d (d.note n)
  | replan (s : Nat) (d : Desk) (plan : Plan) : Move (.replan s plan) d { d with plan := plan }
  | enter (d : Desk) (c : Contender) (party : Nat) (contenders : Roster String)
      (home : c.home = d.number) (up : d.down = false) (idle : d.active c.id = false)
      (added : d.contenders.add? ⟨c, party⟩ = some contenders) :
      Move (.start (.contender c) party) d ({ d with contenders := contenders }.setActive c.id true)
  | listen (d : Desk) (l : Listener) (party : Nat) (listeners : Roster Unit)
      (home : l.home = d.number) (up : d.down = false) (idle : d.active l.id = false)
      (added : d.listeners.add? ⟨l, party⟩ = some listeners) :
      Move (.start (.listener l) party) d ({ d with listeners := listeners }.setActive l.id true)
  | leave (s : Nat) (d : Desk) (c : Contender) (m : Member String) (contenders : Roster String)
      (up : d.down = false) (active : d.active c.id = true)
      (removed : d.contenders.remove? c = some (m, contenders)) :
      Move (.remove s (.contender c)) d (d.leave c m contenders)
  | hush (s : Nat) (d : Desk) (l : Listener) (m : Member Unit) (listeners : Roster Unit)
      (up : d.down = false) (active : d.active l.id = true)
      (removed : d.listeners.remove? l = some (m, listeners)) :
      Move (.remove s (.listener l)) d ({ d with listeners := listeners }.setActive l.id false)
  | propose (call : Call) (d : Desk) (m : Member String) (up : d.down = false)
      (unconfirmed : d.slot.confirmed = none) (unproposed : d.slot.proposed = none)
      (oldest : d.contenders.oldest? = some m) : Move call d (d.propose m).2
  | commit (d : Desk) (c : Contender) (token : Fence) (address : String) (now : Instant)
      (home : c.home = d.number) (up : d.down = false) (active : d.active c.id = true)
      (proposed : d.slot.proposed = some c.id) (current : d.slot.token = some token) :
      Move (.confirm c token address now) d (d.commit c address now)
  | tell (call : Call) (d : Desk) (m : Member Unit) (up : d.down = false)
      (member : m ∈ d.listeners.members) : Move call d (d.handed (.notify m d.slot.leader?))
  | depose (s : Nat) (d : Desk) (id : Nat) (m : Member String) (up : d.down = false)
      (holder : d.slot.holder? = some id) (found : d.contenders.get? id = some m) :
      Move (.revoke s) d ((d.depose m).handed (.revoke m))
  | shutDown (call : Call) (d : Desk) (cause : Fault) (up : d.down = false) :
      Move call d (d.shutDown cause)

abbrev Moves (call : Call) : Desk → Desk → Prop := Relation.ReflTransGen (Move call)

section Steps
variable (call : Call)

theorem moves_fail (d : Desk) (f : Fault) (up : d.down = false) : Moves call d (d.fail f) :=
  .tail (.single (.note call d (.fatal f))) (.shutDown call _ (.fatal f) up)

theorem moves_settle {α : Type} (d : Desk) (r : Except Fault α × Desk) (moves : Moves call d r.2)
    (up : r.2.down = false) : Moves call d (settle r).2 := by
  obtain ⟨result, e⟩ := r
  cases result with
  | ok a => exact moves
  | error f => exact moves.trans (moves_fail call e f up)

theorem moves_signal (d : Desk) (r : Except Fault Completion × Desk) (moves : Moves call d r.2)
    (up : r.2.down = false) : Moves call d (signal r).2 := by
  obtain ⟨result, e⟩ := r
  cases result with
  | ok completion => exact moves
  | error f => exact moves.trans (moves_fail call e f up)

theorem plain_desk (r : Except Fault Completion × Desk) : (plain r).2 = r.2 := by
  obtain ⟨result, e⟩ := r
  cases result <;> rfl

theorem moves_announce (ms : List (Member Unit)) (d : Desk) (up : d.down = false)
    (listed : ∀ m ∈ ms, m ∈ d.listeners.members) :
    Moves call d (announce d.slot.leader? ms d).2 := by
  induction ms generalizing d with
  | nil => exact .refl
  | cons m ms ih =>
    have first : Move call d (d.handed (.notify m d.slot.leader?)) :=
      .tell call d m up (listed m (by simp))
    have rest : Moves call d (announce d.slot.leader? ms (d.handed (.notify m d.slot.leader?))).2 :=
      .head first (ih _ up fun n member => listed n (List.mem_cons_of_mem m member))
    simp only [announce, submit_eq]
    cases d.reply with
    | error f => exact .single first
    | ok one =>
      cases announced : announce d.slot.leader? ms (d.handed (.notify m d.slot.leader?)) with
      | mk result e =>
        rw [announced] at rest
        simp only [announced]
        cases result with
        | error f => exact rest
        | ok c => exact rest

theorem moves_announceAll (d : Desk) (leader : Option (Leader Fence)) (up : d.down = false)
    (current : leader = d.slot.leader?) : Moves call d (d.announceAll leader).2 := by
  subst current
  exact moves_announce call d.listeners.members d up fun _ member => member

theorem elect_down (d : Desk) : d.elect.2.down = d.down := by
  by_cases held : d.slot.confirmed.isSome ∨ d.slot.proposed.isSome
  · rw [elect, if_pos held]
  · rw [elect, if_neg held]
    cases d.contenders.oldest? with
    | none => exact (announce_alike none d.listeners.members d).down
    | some m =>
      show (d.propose m).2.down = d.down
      rw [propose, submit_eq]
      rfl

theorem moves_elect (d : Desk) (up : d.down = false) : Moves call d d.elect.2 := by
  by_cases held : d.slot.confirmed.isSome ∨ d.slot.proposed.isSome
  · rw [elect, if_pos held]
  · rw [elect, if_neg held]
    simp only [not_or, Option.not_isSome_iff_eq_none] at held
    obtain ⟨unconfirmed, unproposed⟩ := held
    cases oldest : d.contenders.oldest? with
    | none => exact moves_announceAll call d none up (Slot.leader_of_unconfirmed d.slot unconfirmed).symm
    | some m => exact .single (.propose call d m up unconfirmed unproposed oldest)

end Steps

theorem moves_startContender (d : Desk) (c : Contender) (party : Nat) (home : c.home = d.number) :
    Moves (.start (.contender c) party) d (d.startContender c party).2 := by
  by_cases running : d.down = true
  · rw [startContender, if_pos running]
  · have up : d.down = false := Bool.eq_false_iff.mpr running
    rw [startContender, if_neg running]
    cases joined : (if d.active c.id then none else d.contenders.add? ⟨c, party⟩) with
    | none => exact moves_settle _ d _ .refl up
    | some contenders =>
      by_cases active : d.active c.id = true
      · rw [if_pos active] at joined
        cases joined
      · rw [if_neg active] at joined
        let e : Desk := { d with contenders := contenders }.setActive c.id true
        have entered : Moves (.start (.contender c) party) d (e.note (.registered c.label)) :=
          .tail (.single (.enter d c party contenders home up (Bool.eq_false_iff.mpr active) joined))
            (.note _ e (.registered c.label))
        refine moves_settle _ d _ ?_ ?_
        · rw [plain_desk]
          exact entered.trans (moves_elect _ (e.note (.registered c.label)) up)
        · rw [plain_desk, elect_down]
          exact up

theorem moves_startListener (d : Desk) (l : Listener) (party : Nat) (home : l.home = d.number) :
    Moves (.start (.listener l) party) d (d.startListener l party).2 := by
  by_cases running : d.down = true
  · rw [startListener, if_pos running]
  · have up : d.down = false := Bool.eq_false_iff.mpr running
    rw [startListener, if_neg running]
    cases joined : (if d.active l.id then none else d.listeners.add? ⟨l, party⟩) with
    | none => exact moves_settle _ d _ .refl up
    | some listeners =>
      by_cases active : d.active l.id = true
      · rw [if_pos active] at joined
        cases joined
      · rw [if_neg active] at joined
        let e : Desk := { d with listeners := listeners }.setActive l.id true
        have entered : Moves (.start (.listener l) party) d e :=
          .single (.listen d l party listeners home up (Bool.eq_false_iff.mpr active) joined)
        have member : (⟨l, party⟩ : Member Unit) ∈ e.listeners.members :=
          (Roster.mem_add d.listeners listeners ⟨l, party⟩ ⟨l, party⟩ joined).mpr (.inl rfl)
        cases told : e.slot.leader? with
        | none =>
          simp only [e, told]
          exact entered
        | some leader =>
          simp only [e, told]
          refine moves_settle _ d _ ?_ ?_
          · rw [plain_desk, submit_eq, ← told]
            exact entered.tail (.tell _ e ⟨l, party⟩ up member)
          · rw [plain_desk, submit_eq]
            exact up

theorem moves_removeContender (d : Desk) (s : Nat) (c : Contender) :
    Moves (.remove s (.contender c)) d (d.removeContender c) := by
  by_cases gone : d.active c.id = false ∨ d.down = true
  · rw [removeContender, if_pos gone]
  · rw [removeContender, if_neg gone]
    simp only [not_or, Bool.not_eq_false, Bool.not_eq_true] at gone
    obtain ⟨active, up⟩ := gone
    cases removed : d.contenders.remove? c with
    | none => exact moves_fail _ d _ up
    | some taken =>
      obtain ⟨m, contenders⟩ := taken
      let e := (d.withdraw c contenders).note (.removed c.label (d.leading c.id))
      have left : Moves (.remove s (.contender c)) d (d.leave c m contenders) :=
        .single (.leave s d c m contenders up active removed)
      have still : e.down = false := by
        simp only [e, note]
        rw [withdraw_rest]
        exact up
      have next (f : Desk) (reached : Moves (.remove s (.contender c)) d f) (running : f.down = false) :
          Moves (.remove s (.contender c)) d (settle f.elect).2 :=
        moves_settle _ d _ (reached.trans (moves_elect _ f running)) ((elect_down f).trans running)
      by_cases leading : d.leading c.id = true
      · have gone : d.leave c m contenders = e.handed (.revoke m) := by simp [leave, leading, e]
        rw [gone] at left
        simp only [e, leading] at left still
        simp only [leading, if_true, submit_eq]
        cases ((d.withdraw c contenders).note (.removed c.label true)).reply with
        | error f => exact left.trans (moves_fail _ _ f still)
        | ok one => exact next _ left still
      · have gone : d.leave c m contenders = e := by simp [leave, leading, e]
        rw [gone] at left
        simp only [e, leading] at left still
        simp only [leading, Bool.false_eq_true, if_false]
        exact next _ left still

theorem moves_removeListener (d : Desk) (s : Nat) (l : Listener) :
    Moves (.remove s (.listener l)) d (d.removeListener l) := by
  by_cases gone : d.active l.id = false ∨ d.down = true
  · rw [removeListener, if_pos gone]
  · rw [removeListener, if_neg gone]
    simp only [not_or, Bool.not_eq_false, Bool.not_eq_true] at gone
    obtain ⟨active, up⟩ := gone
    cases removed : d.listeners.remove? l with
    | none => exact moves_fail _ d _ up
    | some taken =>
      obtain ⟨m, listeners⟩ := taken
      exact .single (.hush s d l m listeners up active removed)

theorem moves_grant (d : Desk) (s : Nat) : Moves (.grant s) d d.grant.2 := by
  by_cases running : d.down = true
  · rw [grant, if_pos running]
  · have up : d.down = false := Bool.eq_false_iff.mpr running
    rw [grant, if_neg running]
    exact moves_settle _ d _ (moves_elect _ d up) ((elect_down d).trans up)

-- A holder that is not registered does not occur, and is left out here.
theorem moves_revoke (d : Desk) (s : Nat)
    (seated : ∀ id, d.slot.holder? = some id → id ∈ d.contenders.ids) :
    Moves (.revoke s) d d.revoke.2 := by
  by_cases running : d.down = true
  · rw [revoke, if_pos running]
  · have up : d.down = false := Bool.eq_false_iff.mpr running
    rw [revoke, if_neg running]
    cases holder : d.slot.holder? with
    | none => exact .refl
    | some id =>
      obtain ⟨m, found, _⟩ := Roster.get_of_ids d.contenders id (seated id holder)
      let e := (d.depose m).handed (.revoke m)
      have deposed : Moves (.revoke s) d e := .single (.depose s d id m up holder found)
      have told : Moves (.revoke s) d (settle (e.announceAll none)).2 :=
        moves_settle _ d _ (deposed.trans (moves_announceAll _ e none up rfl))
          ((announce_alike none e.listeners.members e).down.trans up)
      simp only [found, submit_eq]
      cases (d.depose m).reply with
      | error f => exact deposed.trans (moves_fail _ e f up)
      | ok revoked =>
        cases settled : settle (((d.depose m).handed (.revoke m)).announceAll none) with
        | mk result f =>
          simp only [e, settled] at told
          simp only [settled]
          cases result with
          | ok c => exact told
          | error g => exact told

theorem moves_shutDown (call : Call) (d : Desk) (cause : Fault) : Moves call d (d.shutDown cause) := by
  by_cases running : d.down = false
  · exact .single (.shutDown call d cause running)
  · simp only [shutDown, Bool.not_eq_false] at running ⊢
    simp only [running, if_true]
    exact .refl

theorem confirm_ignored (d : Desk) (c : Contender) (token : Fence) (address : String) (now : Instant)
    (misfit : d.active c.id = false ∨ d.down = true ∨ d.slot.proposed ≠ some c.id ∨
      d.slot.token ≠ some token) :
    ∃ n, d.confirm c token address now = (.done, d.note n) := by
  by_cases gone : d.active c.id = false ∨ d.down = true
  · exact ⟨.inactive c.label, by simp only [confirm, if_pos gone]⟩
  · have stale : d.slot.proposed ≠ some c.id ∨ d.slot.token ≠ some token := by tauto
    exact ⟨.stale c.label token, by simp only [confirm, if_neg gone, if_pos stale]⟩

theorem confirm_fits (d : Desk) (c : Contender) (token : Fence) (address : String) (now : Instant)
    (up : d.down = false) (active : d.active c.id = true) (proposed : d.slot.proposed = some c.id)
    (current : d.slot.token = some token) :
    d.confirm c token address now =
      signal (((d.note (.confirmed c.label address token)).commit c address now).announceAll
        (some ⟨address, token⟩)) := by
  simp [confirm, up, active, proposed, current]

theorem leader_of_commit (d : Desk) (c : Contender) (token : Fence) (address : String) (now : Instant)
    (current : d.slot.token = some token) :
    (d.commit c address now).slot.leader? = some ⟨address, token⟩ := by
  simp [commit, Slot.leader?, current]

theorem moves_confirm (d : Desk) (c : Contender) (token : Fence) (address : String) (now : Instant)
    (home : c.home = d.number) :
    Moves (.confirm c token address now) d (d.confirm c token address now).2 := by
  by_cases misfit : d.active c.id = false ∨ d.down = true ∨ d.slot.proposed ≠ some c.id ∨
      d.slot.token ≠ some token
  · obtain ⟨n, ignored⟩ := confirm_ignored d c token address now misfit
    rw [ignored]
    exact .single (.note _ d n)
  · simp only [not_or, Bool.not_eq_false, Bool.not_eq_true, ne_eq, Decidable.not_not] at misfit
    obtain ⟨active, up, proposed, current⟩ := misfit
    let e := (d.note (.confirmed c.label address token)).commit c address now
    have committed : Moves (.confirm c token address now) d e :=
      .tail (.single (.note _ d (.confirmed c.label address token)))
        (.commit _ c token address now home up active proposed current)
    have told : Moves (.confirm c token address now) d (e.announceAll (some ⟨address, token⟩)).2 :=
      committed.trans (moves_announceAll _ e _ up (leader_of_commit _ c token address now current).symm)
    have still : (e.announceAll (some ⟨address, token⟩)).2.down = false :=
      (announce_alike _ e.listeners.members e).down.trans up
    rw [confirm_fits d c token address now up active proposed current]
    exact moves_signal _ d _ told still

end Desk
end Leadership
