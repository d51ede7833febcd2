import Leadership.Proofs.History

set_option autoImplicit false

namespace Leadership
namespace Desk
variable {enrolled : List Handle} {call : Call} {d e : Desk}

theorem withdraw_keeps (d : Desk) (c : Contender) (contenders : Roster String) (token : Fence)
    (current : (d.withdraw c contenders).slot.token = some token) :
    (d.withdraw c contenders).slot = d.slot := by
  by_cases holder : d.slot.confirmed = some c.id ∨ d.slot.proposed = some c.id
  · rw [(withdraw_holder d c contenders holder).1] at current
    cases current
  · obtain ⟨unconfirmed, unproposed⟩ := not_or.mp holder
    exact (withdraw_other d c contenders unconfirmed unproposed).1

theorem move_proposal (sound : d.Sound enrolled) (move : Move call d e) (id : Nat) (token : Fence)
    (proposed : e.slot.proposed = some id) (current : e.slot.token = some token) :
    (d.slot.proposed = some id ∧ d.slot.token = some token) ∨
      ∃ m a, m ∈ d.contenders.members ∧ m.id = id ∧ e.attempts = d.attempts ++ [a] ∧
        a.service = d.number ∧ a.work = .grant m token := by
  cases move with
  | note | replan | enter | listen | hush | tell => exact .inl ⟨proposed, current⟩
  | leave s _ c m contenders up active removed =>
    rw [(leave_alike d c m contenders).slot] at proposed current
    rw [withdraw_keeps d c contenders token current] at proposed current
    exact .inl ⟨proposed, current⟩
  | propose _ _ m up unconfirmed unproposed oldest =>
    have member := Roster.member_of_oldest d.contenders m oldest
    rw [propose, submit_eq] at proposed current ⊢
    cases proposed
    cases current
    exact .inr ⟨m, _, member, rfl, rfl, rfl, rfl⟩
  | commit => cases proposed
  | depose => cases proposed
  | shutDown _ _ cause up =>
    rw [(shutDown_closed d cause up sound.contenders_distinct).slot] at proposed
    cases proposed

theorem move_leader (sound : d.Sound enrolled) (move : Move call d e) (id : Nat) (l : Leader Fence)
    (confirmed : e.slot.confirmed = some id) (leader : e.slot.leader? = some l) :
    (d.slot.confirmed = some id ∧ d.slot.leader? = some l) ∨
      ∃ c now, call = .confirm c l.token l.address now ∧ c.id = id := by
  cases move with
  | note | replan | enter | listen | hush | tell => exact .inl ⟨confirmed, leader⟩
  | leave s _ c m contenders up active removed =>
    rw [(leave_alike d c m contenders).slot] at confirmed leader
    cases current : (d.withdraw c contenders).slot.token with
    | none => simp [Slot.leader?, current] at leader
    | some token =>
      rw [withdraw_keeps d c contenders token current] at confirmed leader
      exact .inl ⟨confirmed, leader⟩
  | propose _ _ m up unconfirmed unproposed oldest =>
    rw [propose, submit_eq] at confirmed
    have none : d.slot.confirmed = some id := confirmed
    rw [unconfirmed] at none
    cases none
  | commit _ c token address now home up active proposed current =>
    rw [leader_of_commit d c token address now current] at leader
    cases leader
    exact .inr ⟨c, now, rfl, Option.some.inj confirmed⟩
  | depose => cases confirmed
  | shutDown _ _ cause up =>
    rw [(shutDown_closed d cause up sound.contenders_distinct).slot] at confirmed
    cases confirmed

theorem moves_proposal (sound : d.Sound enrolled) (held : call.Held enrolled) (moves : Moves call d e)
    (id : Nat) (token : Fence) (proposed : e.slot.proposed = some id)
    (current : e.slot.token = some token) :
    (d.slot.proposed = some id ∧ d.slot.token = some token) ∨
      ∃ c party x a, .contender c ∈ enrolled ∧ c.home = d.number ∧ c.id = id ∧
        d.attempts.length ≤ x ∧ e.attempts[x]? = some a ∧ a.service = d.number ∧
        a.work = .grant ⟨c, party⟩ token := by
  induction moves with
  | refl => exact .inl ⟨proposed, current⟩
  | @tail f g reached move ih =>
    have still := sound_moves sound held reached
    have number := (beside_moves sound held reached).1
    have grown := (moves_history sound held reached).1
    obtain ⟨fresh, extended, _, _⟩ := move_submits still move
    rcases move_proposal still move id token proposed current with ⟨earlier, since⟩ | granted
    · rcases ih earlier since with kept | ⟨c, party, x, a, known, home, same, beyond, present, rest⟩
      · exact .inl kept
      · have within := (List.getElem?_eq_some_iff.mp present).1
        refine .inr ⟨c, party, x, a, known, home, same, beyond, ?_, rest⟩
        rw [extended, List.getElem?_append_left within]
        exact present
    · obtain ⟨m, a, member, same, appended, service, work⟩ := granted
      obtain ⟨known, home⟩ := still.contenders m member
      refine .inr ⟨m.registration, m.party, f.attempts.length, a, known, home.trans number, same,
        grown.length_le, ?_, service.trans number, work⟩
      rw [appended, List.getElem?_concat_length]

theorem moves_leader (sound : d.Sound enrolled) (held : call.Held enrolled) (moves : Moves call d e)
    (id : Nat) (l : Leader Fence) (confirmed : e.slot.confirmed = some id)
    (leader : e.slot.leader? = some l) :
    (d.slot.confirmed = some id ∧ d.slot.leader? = some l) ∨
      ∃ c now, call = .confirm c l.token l.address now ∧ c.id = id := by
  induction moves with
  | refl => exact .inl ⟨confirmed, leader⟩
  | tail reached move ih =>
    rcases move_leader (sound_moves sound held reached) move id l confirmed leader with ⟨earlier, since⟩ | asked
    · exact ih earlier since
    · exact .inr asked

end Desk

namespace System
variable {sys : System} {call : Call} {calls : List Call}

def Proposes (sys : System) (c : Contender) (token : Fence) : Prop :=
  ∃ v, sys.services[c.home]? = some v ∧ v.slot.proposed = some c.id ∧ v.slot.token = some token

def Leads (sys : System) (c : Contender) (l : Leader Fence) : Prop :=
  ∃ v, sys.services[c.home]? = some v ∧ v.slot.confirmed = some c.id ∧ v.slot.leader? = some l

def Grants (calls : List Call) (i : Nat) (c : Contender) (token : Fence) : Prop :=
  ∃ x a party, Made calls i x a ∧ a.service = c.home ∧ a.work = .grant ⟨c, party⟩ token

def Commits (calls : List Call) (i : Nat) (c : Contender) (token : Fence) (address : String) : Prop :=
  (∃ now, calls[i]? = some (.confirm c token address now)) ∧ (before calls i).Proposes c token

theorem proposal_step (lawful : Lawful {} calls) (i n : Nat) (less : i < n) (c : Contender) (token : Fence)
    (known : .contender c ∈ (before calls n).enrolled) (proposes : (before calls (i + 1)).Proposes c token) :
    (before calls i).Proposes c token ∨ Grants calls i c token := by
  cases here : calls[i]? with
  | none =>
    rw [before_end calls i here] at proposes
    exact .inl proposes
  | some call =>
    obtain ⟨w, found, proposed, current⟩ := proposes
    obtain ⟨held, takes⟩ := before_takes lawful i call here
    have sound := (sound_before lawful i).cleared
    rcases takes_service takes c.home w found with same | ⟨plan, rfl⟩ | visited
    · exact .inl ⟨w, same, proposed, current⟩
    · cases proposed
    · obtain ⟨v, e, _, present, moves, rfl, stored⟩ := visited
      have desk := sound.desks c.home v present
      rcases Desk.moves_proposal desk held moves c.id token proposed current with kept | granted
      · exact .inl ⟨v, present, kept⟩
      · obtain ⟨g, party, x, a, enrolled, _, same, beyond, made, service, work⟩ := granted
        have later : .contender g ∈ (before calls n).enrolled :=
          (grown_later lawful i n (Nat.le_of_lt less)).enrolled.subset enrolled
        have equal := (sound_before lawful n).handle_unique later known same
        cases equal
        exact .inr ⟨x, a, party, ⟨beyond, stored ▸ made⟩, service, work⟩

theorem proposal_since (lawful : Lawful {} calls) (n : Nat) (c : Contender) (token : Fence)
    (known : .contender c ∈ (before calls n).enrolled) (proposes : (before calls n).Proposes c token) :
    ∃ k < n, Grants calls k c token ∧ ∀ j, k < j → j ≤ n → (before calls j).Proposes c token := by
  refine since_call calls (fun sys => sys.Proposes c token) (fun i => Grants calls i c token) ?_ n ?_ proposes
  · intro ⟨v, found, _⟩
    cases found
  · intro i less later
    exact proposal_step lawful i n less c token known later

theorem grants_unique (lawful : Lawful {} calls) (i j : Nat) (c c' : Contender) (token : Fence)
    (first : Grants calls i c token) (second : Grants calls j c' token) : i = j ∧ c = c' := by
  obtain ⟨x, a, party, made, _, work⟩ := first
  obtain ⟨y, b, party', made', _, work'⟩ := second
  have atX := made_later lawful i (i + j + 1) x a made (by omega)
  have atY := made_later lawful j (i + j + 1) y b made' (by omega)
  have same : x = y := (numbered_before lawful (i + j + 1)).position_unique x y a b atX atY token
    (by rw [work]; rfl) (by rw [work']; rfl)
  subst same
  obtain ⟨position, rfl⟩ := made_unique lawful i j x a b made made'
  rw [work, Work.grant.injEq, Member.mk.injEq] at work'
  exact ⟨position, work'.1.1⟩

theorem known_of_commit (lawful : Lawful {} calls) (i : Nat) (c : Contender) (token : Fence) (address : String)
    (commits : Commits calls i c token address) : .contender c ∈ (before calls i).enrolled := by
  obtain ⟨now, called⟩ := commits.1
  exact held_of_lawful calls {} lawful i _ called

theorem commit_granted (lawful : Lawful {} calls) (i : Nat) (c : Contender) (token : Fence) (address : String)
    (commits : Commits calls i c token address) :
    ∃ k < i, Grants calls k c token ∧ ∀ j, k < j → j ≤ i → (before calls j).Proposes c token :=
  proposal_since lawful i c token (known_of_commit lawful i c token address commits) commits.2

end System
end Leadership
