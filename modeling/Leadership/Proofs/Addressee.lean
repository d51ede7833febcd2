import Leadership.Proofs.Tenure

set_option autoImplicit false

namespace Leadership

def Work.handle : Work → Handle
  | .grant m _ | .revoke m | .retire m _ _ => .contender m.registration
  | .notify m _ | .dismiss m _ => .listener m.registration

def Service.Serves (v : Service) : Work → Prop
  | .grant m _ | .revoke m | .retire m _ _ => m ∈ v.contenders.members
  | .notify m _ | .dismiss m _ => m ∈ v.listeners.members

namespace Desk
variable {enrolled : List Handle} {call : Call} {d e : Desk}

theorem Sound.own_served (sound : d.Sound enrolled) (w : Work) (served : d.Serves w) :
    w.handle ∈ enrolled ∧ w.handle.home = d.number := by
  cases w with
  | grant m | revoke m | retire m => exact sound.contenders m served
  | notify m | dismiss m => exact sound.listeners m served

theorem move_serves (sound : d.Sound enrolled) (move : Move call d e) :
    ∃ fresh, e.attempts = d.attempts ++ fresh ∧ ∀ a ∈ fresh, d.Serves a.work := by
  cases move with
  | note | replan | enter | listen | hush | commit => exact ⟨[], (List.append_nil _).symm, by simp⟩
  | leave s _ c m contenders up active removed =>
    obtain ⟨member, _⟩ := Roster.remove_cases d.contenders contenders c m removed
    rcases leave_sends d c m contenders with nothing | ⟨a, _, work, grown⟩
    · exact ⟨[], by rw [nothing, List.append_nil], by simp⟩
    · refine ⟨[a], grown, ?_⟩
      simpa [Service.Serves, work] using member
  | propose _ _ m up unconfirmed unproposed oldest =>
    rw [propose, submit_eq]
    refine ⟨_, rfl, ?_⟩
    simpa [Service.Serves] using Roster.member_of_oldest d.contenders m oldest
  | tell _ _ m up member =>
    refine ⟨_, rfl, ?_⟩
    simpa [Service.Serves] using member
  | depose s _ id m up holder found =>
    refine ⟨_, rfl, ?_⟩
    simpa [Service.Serves] using (Roster.member_of_get d.contenders id m found).1
  | shutDown _ _ cause up =>
    obtain ⟨fresh, grown, told, _⟩ := (shutDown_closed d cause up sound.contenders_distinct).attempts
    refine ⟨fresh, grown, fun a member => ?_⟩
    have work : a.work ∈ fresh.map Attempt.work := List.mem_map_of_mem member
    rw [told, List.mem_append, List.mem_map, List.mem_map] at work
    rcases work with ⟨m, listed, same⟩ | ⟨m, listed, same⟩
    · rw [← same]
      exact listed
    · rw [← same]
      exact listed

theorem moves_each {P : Attempt → Prop} (sound : d.Sound enrolled) (held : call.Held enrolled)
    (moves : Moves call d e)
    (each : ∀ f g, Moves call d f → Move call f g → ∀ fresh, g.attempts = f.attempts ++ fresh →
      ∀ a ∈ fresh, P a)
    (x : Nat) (a : Attempt) (beyond : d.attempts.length ≤ x) (present : e.attempts[x]? = some a) : P a := by
  induction moves with
  | refl =>
    have within := (List.getElem?_eq_some_iff.mp present).1
    omega
  | @tail f g reached move ih =>
    obtain ⟨fresh, extended, _⟩ := move_serves (sound_moves sound held reached) move
    rw [extended] at present
    by_cases old : x < f.attempts.length
    · rw [List.getElem?_append_left old] at present
      exact ih present
    · rw [List.getElem?_append_right (Nat.le_of_not_lt old)] at present
      exact each f g reached move fresh extended a (List.mem_of_getElem? present)

theorem moves_served (sound : d.Sound enrolled) (held : call.Held enrolled) (moves : Moves call d e)
    (x : Nat) (a : Attempt) (beyond : d.attempts.length ≤ x) (present : e.attempts[x]? = some a) :
    a.service = d.number ∧ a.work.handle ∈ enrolled ∧ a.work.handle.home = d.number := by
  refine moves_each
    (P := fun a => a.service = d.number ∧ a.work.handle ∈ enrolled ∧ a.work.handle.home = d.number)
    sound held moves ?_ x a beyond present
  intro f g reached move fresh extended b member
  have still := sound_moves sound held reached
  have number := (beside_moves sound held reached).1
  obtain ⟨sent, grown, numbers, _⟩ := move_submits still move
  obtain ⟨sent', grown', served⟩ := move_serves still move
  have same : sent = fresh := List.append_cancel_left (grown.symm.trans extended)
  have same' : sent' = fresh := List.append_cancel_left (grown'.symm.trans extended)
  subst same same'
  obtain ⟨known, home⟩ := still.own_served b.work (served b member)
  exact ⟨(numbers b member).trans number, known, home.trans number⟩

end Desk

namespace System
variable {calls : List Call}

theorem visit_of_made (lawful : Lawful {} calls) (i x : Nat) (a : Attempt) (made : Made calls i x a) :
    ∃ call v e, calls[i]? = some call ∧ call.service? = some a.service ∧
      (before calls i).services[a.service]? = some v ∧
      Desk.Moves call ((before calls i).cleared.desk a.service v) e ∧
      before calls (i + 1) = (before calls i).cleared.store a.service e ∧
      a.work.handle ∈ (before calls i).enrolled ∧ a.work.handle.home = a.service := by
  obtain ⟨beyond, present⟩ := made
  have within := (List.getElem?_eq_some_iff.mp present).1
  cases here : calls[i]? with
  | none =>
    rw [before_end calls i here] at within
    omega
  | some call =>
    obtain ⟨held, takes⟩ := before_takes lawful i call here
    generalize before calls (i + 1) = next at takes present within
    cases takes with
    | nothing | launch | enroll => exact absurd within (Nat.not_lt.mpr beyond)
    | visit s v e reached found moves =>
      have sound := (sound_before lawful i).cleared.desks s v found
      obtain ⟨service, known, home⟩ := Desk.moves_served sound held moves x a beyond present
      have number : ((before calls i).cleared.desk s v).number = s := rfl
      rw [number] at service home
      subst service
      exact ⟨call, v, e, rfl, reached, found, moves, rfl, known, home⟩

def submitted (calls : List Call) (i : Nat) : List Attempt :=
  (before calls (i + 1)).ledger.attempts.drop (before calls i).ledger.attempts.length

theorem attempts_succ (lawful : Lawful {} calls) (i : Nat) :
    (before calls (i + 1)).ledger.attempts = (before calls i).ledger.attempts ++ submitted calls i :=
  (List.prefix_iff_eq_append.mp (grown_succ lawful i).attempts).symm

theorem made_of_submitted (i : Nat) (a : Attempt) (member : a ∈ submitted calls i) : ∃ x, Made calls i x a := by
  obtain ⟨y, present⟩ := List.mem_iff_getElem?.mp member
  rw [submitted, List.getElem?_drop] at present
  exact ⟨(before calls i).ledger.attempts.length + y, Nat.le_add_right _ _, present⟩

theorem made_service (lawful : Lawful {} calls) (i x s : Nat) (a : Attempt) (made : Made calls i x a)
    (call : Call) (here : calls[i]? = some call) (reached : call.service? = some s) : a.service = s := by
  obtain ⟨other, _, _, same, at_, _⟩ := visit_of_made lawful i x a made
  cases here.symm.trans same
  exact Option.some.inj (at_.symm.trans reached)

theorem submitted_service (lawful : Lawful {} calls) (i s : Nat) (call : Call) (here : calls[i]? = some call)
    (reached : call.service? = some s) (a : Attempt) (member : a ∈ submitted calls i) : a.service = s := by
  obtain ⟨x, made⟩ := made_of_submitted i a member
  exact made_service lawful i x s a made call here reached

theorem beside_call (lawful : Lawful {} calls) (i s : Nat) (v : Service)
    (found : (before calls i).services[s]? = some v)
    (unreached : ∀ call, calls[i]? = some call → call.service? ≠ some s) :
    (before calls (i + 1)).services[s]? = some v ∧ ∀ a ∈ submitted calls i, a.work.handle.home ≠ s := by
  refine ⟨?_, ?_⟩
  · cases here : calls[i]? with
    | none =>
      rw [before_end calls i here]
      exact found
    | some call =>
      obtain ⟨_, takes⟩ := before_takes lawful i call here
      generalize before calls (i + 1) = next at takes
      cases takes with
      | nothing | enroll => exact found
      | launch plan =>
        have within := (List.getElem?_eq_some_iff.mp found).1
        exact (List.getElem?_append_left within).trans found
      | visit t w e reached present moves =>
        have other : t ≠ s := by
          rintro rfl
          exact unreached call here reached
        exact (List.getElem?_set_ne other).trans found
  · rintro a member rfl
    obtain ⟨x, made⟩ := made_of_submitted i a member
    obtain ⟨call, _, _, here, reached, _, _, _, _, home⟩ := visit_of_made lawful i x a made
    exact unreached call here (home ▸ reached)

theorem made_known (lawful : Lawful {} calls) (n x : Nat) (a : Attempt)
    (present : (before calls n).ledger.attempts[x]? = some a) : a.work.handle ∈ (before calls n).enrolled := by
  obtain ⟨i, less, made⟩ := made_by_some_call lawful n x a present
  obtain ⟨_, _, _, _, _, _, _, _, known, _⟩ := visit_of_made lawful i x a made
  exact (grown_later lawful i n (Nat.le_of_lt less)).enrolled.subset known

end System
end Leadership
