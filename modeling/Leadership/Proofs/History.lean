import Leadership.Proofs.Run

set_option autoImplicit false

namespace Leadership

def Work.grant? : Work → Option Fence
  | .grant _ token => some token
  | _ => none

def Work.Farewell : Work → Prop
  | .retire .. | .dismiss .. => True
  | _ => False

theorem Work.grant_of_farewell (w : Work) (farewell : w.Farewell) : w.grant? = none := by
  cases w with
  | retire | dismiss => rfl
  | _ => exact farewell.elim

structure Ledger.Numbered (l : Ledger) : Prop where
  bound : ∀ a ∈ l.attempts, ∀ token, a.work.grant? = some token → ∃ n ≤ l.minted, token = .minted n
  once : l.attempts.Pairwise fun a b => ∀ token, a.work.grant? = some token → b.work.grant? ≠ some token

theorem Ledger.Numbered.start : Ledger.Numbered {} := by
  constructor <;> simp

theorem Ledger.Numbered.next_unused {l : Ledger} (numbered : l.Numbered) (a : Attempt) (old : a ∈ l.attempts) :
    a.work.grant? ≠ some (.minted (l.minted + 1)) := by
  intro granted
  obtain ⟨n, within, same⟩ := numbered.bound a old _ granted
  cases same
  omega

theorem Ledger.Numbered.position_unique {l : Ledger} (numbered : l.Numbered) (x y : Nat) (a b : Attempt)
    (atX : l.attempts[x]? = some a) (atY : l.attempts[y]? = some b) (token : Fence)
    (left : a.work.grant? = some token) (right : b.work.grant? = some token) : x = y := by
  obtain ⟨inX, rfl⟩ := List.getElem?_eq_some_iff.mp atX
  obtain ⟨inY, rfl⟩ := List.getElem?_eq_some_iff.mp atY
  have apart := List.pairwise_iff_getElem.mp numbered.once
  rcases Nat.lt_trichotomy x y with less | same | more
  · exact absurd right (apart x y inX inY less token left)
  · exact same
  · exact absurd left (apart y x inY inX more token right)

theorem Ledger.Numbered.ungranted {l next : Ledger} (numbered : l.Numbered) (fresh : List Attempt)
    (grown : next.attempts = l.attempts ++ fresh) (minted : next.minted = l.minted)
    (none : ∀ a ∈ fresh, a.work.grant? = none) : next.Numbered := by
  refine ⟨?_, ?_⟩
  · intro a member token granted
    rw [grown] at member
    rcases List.mem_append.mp member with old | new
    · rw [minted]
      exact numbered.bound a old token granted
    · rw [none a new] at granted
      cases granted
  · rw [grown, List.pairwise_append]
    refine ⟨numbered.once, ?_, ?_⟩
    · refine List.pairwise_of_forall_mem_list ?_
      intro a left b right token granted
      rw [none a left] at granted
      cases granted
    · intro a _ b new token _
      rw [none b new]
      exact nofun

theorem Ledger.Numbered.granted {l next : Ledger} (numbered : l.Numbered) (a : Attempt)
    (grown : next.attempts = l.attempts ++ [a]) (minted : next.minted = l.minted + 1)
    (grant : a.work.grant? = some (.minted (l.minted + 1))) : next.Numbered := by
  refine ⟨?_, ?_⟩
  · intro b member token granted
    rw [grown] at member
    rw [minted]
    rcases List.mem_append.mp member with old | new
    · obtain ⟨n, within, same⟩ := numbered.bound b old token granted
      exact ⟨n, Nat.le_succ_of_le within, same⟩
    · rw [List.mem_singleton.mp new, grant] at granted
      exact ⟨l.minted + 1, Nat.le_refl _, (Option.some.inj granted).symm⟩
  · rw [grown, List.pairwise_append]
    refine ⟨numbered.once, List.pairwise_singleton _ _, ?_⟩
    intro b old c new token granted same
    obtain ⟨n, within, rfl⟩ := numbered.bound b old token granted
    rw [List.mem_singleton.mp new, grant, Option.some.injEq, Fence.minted.injEq] at same
    omega

namespace Desk
variable {enrolled : List Handle} {call : Call} {d e : Desk}

inductive Submits (d e : Desk) : List Attempt → Prop
  | nothing (minted : e.minted = d.minted) : Submits d e []
  | grant (m : Member String) (a : Attempt) (member : m ∈ d.contenders.members)
      (work : a.work = .grant m (.minted (d.minted + 1))) (minted : e.minted = d.minted + 1)
      (proposed : e.slot.proposed = some m.id) (token : e.slot.token = some (.minted (d.minted + 1))) :
      Submits d e [a]
  | revoke (m : Member String) (a : Attempt) (work : a.work = .revoke m) (minted : e.minted = d.minted) :
      Submits d e [a]
  | notify (m : Member Unit) (a : Attempt) (work : a.work = .notify m d.slot.leader?)
      (moment : a.moment = d.toService) (up : d.down = false) (minted : e.minted = d.minted) :
      Submits d e [a]
  | farewell (fresh : List Attempt) (works : ∀ a ∈ fresh, a.work.Farewell) (minted : e.minted = d.minted) :
      Submits d e fresh

theorem leave_sends (d : Desk) (c : Contender) (m : Member String) (contenders : Roster String) :
    (d.leave c m contenders).attempts = d.attempts ∨ ∃ a, a.service = d.number ∧ a.work = .revoke m ∧
      (d.leave c m contenders).attempts = d.attempts ++ [a] := by
  have kept : (d.withdraw c contenders).attempts = d.attempts := by rw [withdraw_rest]
  have number : (d.withdraw c contenders).number = d.number := by rw [withdraw_rest]
  by_cases leading : d.leading c.id = true
  · refine .inr ⟨⟨(d.withdraw c contenders).number, .revoke m, (d.withdraw c contenders).plan.next.1,
      (d.withdraw c contenders).toService⟩, number, rfl, ?_⟩
    simp [leave, leading, handed, note, kept]
  · exact .inl (by simp [leave, leading, note, kept])

theorem leave_submits (d : Desk) (c : Contender) (m : Member String) (contenders : Roster String) :
    ∃ fresh, (d.leave c m contenders).attempts = d.attempts ++ fresh ∧
      (∀ a ∈ fresh, a.service = d.number) ∧ Submits d (d.leave c m contenders) fresh := by
  have minted : (d.leave c m contenders).minted = d.minted := by
    rw [(leave_alike d c m contenders).minted, withdraw_rest]
  rcases leave_sends d c m contenders with nothing | ⟨a, service, work, grown⟩
  · exact ⟨[], by rw [nothing, List.append_nil], by simp, .nothing minted⟩
  · exact ⟨[a], grown, by simpa using service, .revoke m a work minted⟩

theorem move_submits (sound : d.Sound enrolled) (move : Move call d e) :
    ∃ fresh, e.attempts = d.attempts ++ fresh ∧ (∀ a ∈ fresh, a.service = d.number) ∧
      Submits d e fresh := by
  cases move with
  | note | replan | enter | listen | hush | commit =>
    exact ⟨[], (List.append_nil _).symm, by simp, .nothing rfl⟩
  | leave s _ c m contenders up active removed => exact leave_submits d c m contenders
  | propose _ _ m up unconfirmed unproposed oldest =>
    have member := Roster.member_of_oldest d.contenders m oldest
    rw [propose, submit_eq]
    exact ⟨_, rfl, by simp [setLeading, setToken, note], .grant m _ member rfl rfl rfl rfl⟩
  | tell _ _ m up member => exact ⟨_, rfl, by simp, .notify m _ rfl rfl up rfl⟩
  | depose s _ id m up holder found =>
    exact ⟨_, rfl, by simp [depose, setLeading, vacate, setToken, note], .revoke m _ rfl rfl⟩
  | shutDown _ _ cause up =>
    have closed := shutDown_closed d cause up sound.contenders_distinct
    obtain ⟨fresh, grown, told, proper⟩ := closed.attempts
    refine ⟨fresh, grown, fun a member => (proper a member).1, .farewell fresh ?_ closed.minted⟩
    intro a member
    have work : a.work ∈ fresh.map Attempt.work := List.mem_map_of_mem member
    rw [told, List.mem_append, List.mem_map, List.mem_map] at work
    rcases work with ⟨m, _, same⟩ | ⟨m, _, same⟩ <;> rw [← same] <;> trivial

theorem Submits.numbered {fresh : List Attempt} (submits : Submits d e fresh)
    (grown : e.attempts = d.attempts ++ fresh) (numbered : d.toLedger.Numbered) :
    e.toLedger.Numbered := by
  cases submits with
  | nothing minted => exact numbered.ungranted [] grown minted (by simp)
  | grant m a member work minted proposed token =>
    exact numbered.granted a grown minted (by rw [work]; rfl)
  | revoke m a work minted => exact numbered.ungranted [a] grown minted (by simp [work, Work.grant?])
  | notify m a work moment up minted =>
    exact numbered.ungranted [a] grown minted (by simp [work, Work.grant?])
  | farewell _ works minted =>
    exact numbered.ungranted fresh grown minted fun a member => Work.grant_of_farewell a.work (works a member)

theorem Submits.notified {fresh : List Attempt} (submits : Submits d e fresh) (a : Attempt)
    (member : a ∈ fresh) (m : Member Unit) (leader : Option (Leader Fence)) (told : a.work = .notify m leader) :
    a.moment = d.toService ∧ leader = d.slot.leader? ∧ d.down = false := by
  cases submits with
  | nothing minted => cases member
  | grant n b _ work minted proposed token =>
    rw [List.mem_singleton.mp member, work] at told
    cases told
  | revoke n b work minted =>
    rw [List.mem_singleton.mp member, work] at told
    cases told
  | notify n b work moment up minted =>
    rw [List.mem_singleton.mp member] at told ⊢
    rw [work] at told
    cases told
    exact ⟨moment, rfl, up⟩
  | farewell _ works minted =>
    have farewell := works a member
    rw [told] at farewell
    exact farewell.elim

theorem moves_history (sound : d.Sound enrolled) (held : call.Held enrolled) (moves : Moves call d e) :
    d.attempts <+: e.attempts ∧ (d.toLedger.Numbered → e.toLedger.Numbered) := by
  induction moves with
  | refl => exact ⟨List.prefix_refl _, id⟩
  | tail reached move ih =>
    obtain ⟨grown, numbered⟩ := ih
    obtain ⟨fresh, extended, _, submits⟩ := move_submits (sound_moves sound held reached) move
    exact ⟨grown.trans ⟨fresh, extended.symm⟩, fun start => submits.numbered extended (numbered start)⟩

-- A listener is told who leads at the desk of that moment, by a service that is up.
theorem moves_notified (sound : d.Sound enrolled) (held : call.Held enrolled) (moves : Moves call d e)
    (x : Nat) (a : Attempt) (m : Member Unit) (leader : Option (Leader Fence))
    (beyond : d.attempts.length ≤ x) (present : e.attempts[x]? = some a) (told : a.work = .notify m leader) :
    ∃ f, Moves call d f ∧ a.service = d.number ∧ a.moment = f.toService ∧ leader = f.slot.leader? ∧
      f.down = false := by
  induction moves with
  | refl =>
    have within := (List.getElem?_eq_some_iff.mp present).1
    omega
  | @tail f g reached move ih =>
    have still := sound_moves sound held reached
    obtain ⟨fresh, extended, numbers, submits⟩ := move_submits still move
    rw [extended] at present
    by_cases old : x < f.attempts.length
    · rw [List.getElem?_append_left old] at present
      exact ih present
    · rw [List.getElem?_append_right (Nat.le_of_not_lt old)] at present
      have member := List.mem_of_getElem? present
      have number := (beside_moves sound held reached).1
      exact ⟨f, reached, (numbers a member).trans number, submits.notified a member m leader told⟩

end Desk

namespace System
variable {sys next : System} {call : Call} {calls : List Call}

theorem takes_history (sound : sys.Sound) (held : call.Held sys.enrolled) (takes : Takes sys call next) :
    sys.ledger.attempts <+: next.ledger.attempts ∧ (sys.ledger.Numbered → next.ledger.Numbered) := by
  cases takes with
  | nothing | launch | enroll => exact ⟨List.prefix_refl _, id⟩
  | visit s v e reached found moves =>
    exact Desk.moves_history (sound.desks s v found) held moves

theorem numbered_before (lawful : Lawful {} calls) (i : Nat) : (before calls i).ledger.Numbered := by
  induction i with
  | zero => exact Ledger.Numbered.start
  | succ i ih =>
    cases here : calls[i]? with
    | none =>
      rw [before_end calls i here]
      exact ih
    | some c =>
      obtain ⟨held, takes⟩ := before_takes lawful i c here
      exact (takes_history (sound_before lawful i).cleared held takes).2 ⟨ih.bound, ih.once⟩

structure Grown (sys next : System) : Prop where
  attempts : sys.ledger.attempts <+: next.ledger.attempts
  enrolled : sys.enrolled <+: next.enrolled

theorem Grown.refl (sys : System) : Grown sys sys := ⟨List.prefix_refl _, List.prefix_refl _⟩

theorem grown_succ (lawful : Lawful {} calls) (i : Nat) : Grown (before calls i) (before calls (i + 1)) := by
  cases here : calls[i]? with
  | none => exact before_end calls i here ▸ Grown.refl _
  | some c =>
    obtain ⟨held, takes⟩ := before_takes lawful i c here
    have enrolled := takes_enrolled takes
    exact ⟨(takes_history (sound_before lawful i).cleared held takes).1, enrolled⟩

theorem grown_later (lawful : Lawful {} calls) (i j : Nat) (within : i ≤ j) :
    Grown (before calls i) (before calls j) := by
  induction within with
  | refl => exact Grown.refl _
  | @step j _ ih =>
    have last := grown_succ lawful j
    exact ⟨ih.attempts.trans last.attempts, ih.enrolled.trans last.enrolled⟩

def Made (calls : List Call) (i x : Nat) (a : Attempt) : Prop :=
  (before calls i).ledger.attempts.length ≤ x ∧ (before calls (i + 1)).ledger.attempts[x]? = some a

theorem made_on_visit (lawful : Lawful {} calls) (i x : Nat) (a : Attempt) (made : Made calls i x a) :
    ∃ call s v e, calls[i]? = some call ∧ (before calls i).services[s]? = some v ∧
      Desk.Moves call ((before calls i).cleared.desk s v) e ∧
      (before calls i).ledger.attempts.length ≤ x ∧ e.attempts[x]? = some a := by
  obtain ⟨beyond, present⟩ := made
  have within := (List.getElem?_eq_some_iff.mp present).1
  cases here : calls[i]? with
  | none =>
    rw [before_end calls i here] at within
    omega
  | some call =>
    obtain ⟨_, takes⟩ := before_takes lawful i call here
    generalize before calls (i + 1) = next at takes present within
    cases takes with
    | nothing | launch | enroll => exact absurd within (Nat.not_lt.mpr beyond)
    | visit s v e reached found moves => exact ⟨call, s, v, e, rfl, found, moves, beyond, present⟩

theorem made_later (lawful : Lawful {} calls) (i j x : Nat) (a : Attempt) (made : Made calls i x a)
    (later : i < j) : (before calls j).ledger.attempts[x]? = some a := by
  obtain ⟨within, rfl⟩ := List.getElem?_eq_some_iff.mp made.2
  exact List.prefix_iff_getElem?.mp (grown_later lawful (i + 1) j later).attempts x within

theorem made_unique (lawful : Lawful {} calls) (i j x : Nat) (a b : Attempt) (first : Made calls i x a)
    (second : Made calls j x b) : i = j ∧ a = b := by
  have ordered (i j : Nat) (a b : Attempt) (first : Made calls i x a) (second : Made calls j x b) :
      ¬ i < j := by
    intro less
    have present := (List.getElem?_eq_some_iff.mp (made_later lawful i j x a first less)).1
    have absent := second.1
    omega
  have same : i = j := by
    have left := ordered i j a b first second
    have right := ordered j i b a second first
    omega
  subst same
  exact ⟨rfl, Option.some.inj (first.2.symm.trans second.2)⟩

theorem made_by_some_call (lawful : Lawful {} calls) (n x : Nat) (a : Attempt)
    (present : (before calls n).ledger.attempts[x]? = some a) : ∃ i < n, Made calls i x a := by
  induction n with
  | zero => cases present
  | succ n ih =>
    by_cases old : x < (before calls n).ledger.attempts.length
    · have kept := List.prefix_iff_getElem?.mp (grown_succ lawful n).attempts x old
      obtain ⟨i, less, made⟩ := ih ((List.getElem?_eq_getElem old).trans (kept.symm.trans present))
      exact ⟨i, Nat.lt_succ_of_lt less, made⟩
    · exact ⟨n, Nat.lt_succ_self n, Nat.le_of_not_lt old, present⟩

end System
end Leadership
