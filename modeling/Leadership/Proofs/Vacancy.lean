import Leadership.Proofs.Downfall

set_option autoImplicit false

namespace Leadership

def Service.Vacant (v : Service) : Prop :=
  v.down = false ∧ v.contenders.members ≠ [] ∧ v.slot.proposed = none ∧ v.slot.confirmed = none

theorem Service.vacant_of_down (v : Service) (down : v.down = true) : ¬ v.Vacant := by
  intro ⟨up, _⟩
  cases up.symm.trans down

theorem Service.attended (v : Service) (attended : ¬ v.Vacant) :
    v.down = true ∨ v.contenders.members = [] ∨ v.slot.proposed.isSome ∨ v.slot.confirmed.isSome := by
  by_contra neither
  simp only [not_or, Bool.not_eq_true, Option.isSome_eq_false_iff, Option.isNone_iff_eq_none] at neither
  exact attended neither

-- Whatever the executor does, these calls are not over before there is a leader or a proposal, unless
-- there is nobody to propose: the start of a contender, the removal of an active one, and the forced grant.
inductive Call.Seeks (active : Nat → Bool) (s : Nat) : Call → Prop
  | start (c : Contender) (party : Nat) (home : c.home = s) : Seeks active s (.start (.contender c) party)
  | remove (c : Contender) (running : active c.id = true) : Seeks active s (.remove s (.contender c))
  | grant : Seeks active s (.grant s)

def Call.Steady : Call → Prop
  | .start (.contender _) _ | .remove _ (.contender _) | .revoke _ => False
  | _ => True

namespace Desk
variable {call : Call} {d e : Desk}

theorem Alike.vacant (alike : Alike d e) (vacant : e.Vacant) : d.Vacant := by
  obtain ⟨up, peopled, unproposed, unconfirmed⟩ := vacant
  rw [alike.down] at up
  rw [alike.contenders] at peopled
  rw [alike.slot] at unproposed unconfirmed
  exact ⟨up, peopled, unproposed, unconfirmed⟩

theorem Elects.attended {works : List Work} (elects : Elects d works e) : ¬ e.Vacant := by
  intro ⟨_, peopled, unproposed, unconfirmed⟩
  cases elects with
  | held occupied => simp [unproposed, unconfirmed] at occupied
  | nobody _ _ deserted => exact peopled (List.head?_eq_none_iff.mp deserted)
  | nominee => cases unproposed

theorem elect_attended (d : Desk) : ¬ d.elect.2.Vacant := by
  obtain ⟨works, f, elects, batch⟩ := elect_batch d
  intro vacant
  generalize d.elect = r at batch vacant
  cases batch with
  | sent _ e alike => exact elects.attended (alike.vacant vacant)
  | broken _ e alike => exact elects.attended (alike.vacant vacant)

theorem settle_attended {α : Type} (r : Except Fault α × Desk) (attended : ¬ r.2.Vacant) :
    ¬ (settle r).2.Vacant := by
  obtain ⟨result, e⟩ := r
  cases result with
  | ok a => exact attended
  | error f => exact Service.vacant_of_down _ (fail_down e f)

theorem startContender_attended (d : Desk) (c : Contender) (party : Nat) :
    ¬ (d.startContender c party).2.Vacant := by
  by_cases down : d.down = true
  · rw [startContender, if_pos down]
    exact Service.vacant_of_down _ down
  · rw [startContender, if_neg down]
    cases (if d.active c.id then none else d.contenders.add? ⟨c, party⟩) with
    | none => exact Service.vacant_of_down _ (fail_down d _)
    | some contenders =>
      refine settle_attended _ ?_
      rw [plain_desk]
      exact elect_attended _

theorem removeContender_attended (d : Desk) (c : Contender) (active : d.active c.id = true) :
    ¬ (d.removeContender c).Vacant := by
  by_cases gone : d.active c.id = false ∨ d.down = true
  · have down : d.down = true := by simpa [active] using gone
    rw [removeContender, if_pos gone]
    exact Service.vacant_of_down _ down
  · rw [removeContender, if_neg gone]
    cases d.contenders.remove? c with
    | none => exact Service.vacant_of_down _ (fail_down d _)
    | some taken =>
      obtain ⟨m, contenders⟩ := taken
      simp only
      split
      · exact Service.vacant_of_down _ (fail_down _ _)
      · exact settle_attended _ (elect_attended _)

theorem grant_attended (d : Desk) : ¬ d.grant.2.Vacant := by
  by_cases down : d.down = true
  · rw [grant, if_pos down]
    exact Service.vacant_of_down _ down
  · rw [grant, if_neg down]
    exact settle_attended _ (elect_attended d)

theorem revoke_nobody (d : Desk) (empty : d.slot.holder? = none) : d.revoke.2 = d := by
  by_cases down : d.down = true
  · rw [revoke, if_pos down]
  · rw [revoke, if_neg down, empty]

theorem move_vacant (move : Move call d e) (steady : call.Steady) (vacant : e.Vacant) : d.Vacant := by
  cases move with
  | note | replan | listen | hush | tell => exact vacant
  | enter | leave | depose => exact steady.elim
  | propose _ _ m =>
    rw [propose, submit_eq] at vacant
    cases vacant.2.2.1
  | commit => cases vacant.2.2.2
  | shutDown _ _ cause => exact absurd vacant (Service.vacant_of_down _ (shutDown_down d cause))

theorem moves_vacant (moves : Moves call d e) (steady : call.Steady) (vacant : e.Vacant) : d.Vacant := by
  induction moves with
  | refl => exact vacant
  | tail _ move ih => exact ih (move_vacant move steady vacant)

end Desk

namespace System
variable {sys : System} {call : Call} {calls : List Call}

def Vacant (sys : System) (s : Nat) : Prop := ∃ v, sys.services[s]? = some v ∧ v.Vacant

def Occupied (sys : System) (s : Nat) : Prop := ∃ v, sys.services[s]? = some v ∧ v.slot.holder?.isSome

theorem visit_vacant (s : Nat) (work : Desk → Answer × Desk) (vacant : (sys.visit s work).2.Vacant s) :
    ∃ v, sys.services[s]? = some v ∧ (work (sys.desk s v)).2.Vacant := by
  obtain ⟨w, present, vacant⟩ := vacant
  cases found : sys.services[s]? with
  | none =>
    rw [visit, found] at present
    cases found.symm.trans present
  | some v =>
    rw [visit, found] at present
    cases (store_service s v _ found).symm.trans present
    exact ⟨v, rfl, vacant⟩

theorem act_attended (s : Nat) (seeks : call.Seeks sys.ledger.active s) : ¬ (sys.act call).2.Vacant s := by
  intro vacant
  cases seeks with
  | start c party home =>
    subst home
    obtain ⟨v, _, vacant⟩ := visit_vacant c.home _ vacant
    rw [ofUnit_desk] at vacant
    exact Desk.startContender_attended _ c party vacant
  | remove c running =>
    obtain ⟨v, _, vacant⟩ := visit_vacant s _ vacant
    exact Desk.removeContender_attended (sys.desk s v) c running vacant
  | grant =>
    obtain ⟨v, _, vacant⟩ := visit_vacant s _ vacant
    rw [ofCompletion_desk] at vacant
    exact Desk.grant_attended _ vacant

theorem act_vacant (sound : sys.Sound) (s : Nat) (vacant : (sys.act call).2.Vacant s) :
    sys.Vacant s ∨ (call = .revoke s ∧ sys.Occupied s) := by
  obtain ⟨w, present, empty⟩ := vacant
  rcases takes_service (act_takes sound call) s w present with same | ⟨plan, rfl⟩ | visited
  · exact .inl ⟨w, same, empty⟩
  · exact absurd rfl empty.2.1
  · obtain ⟨v, e, reached, found, moves, rfl, _⟩ := visited
    by_cases steady : call.Steady
    · exact .inl ⟨v, found, Desk.moves_vacant moves steady empty⟩
    · cases call with
      | start h party =>
        cases h with
        | contender c => exact absurd ⟨_, present, empty⟩ (act_attended s (.start c party (Option.some.inj reached)))
        | listener l => exact absurd trivial steady
      | remove t h =>
        cases reached
        cases h with
        | contender c =>
          cases active : sys.ledger.active c.id with
          | true => exact absurd ⟨_, present, empty⟩ (act_attended s (.remove c active))
          | false =>
            obtain ⟨u, found, empty⟩ := visit_vacant s _ ⟨_, present, empty⟩
            have idle : (sys.desk s u).removeContender c = sys.desk s u := if_pos (.inl active)
            rw [idle] at empty
            exact .inl ⟨u, found, empty⟩
        | listener l => exact absurd trivial steady
      | revoke t =>
        cases reached
        obtain ⟨u, found, empty⟩ := visit_vacant s _ ⟨_, present, empty⟩
        rw [ofCompletion_desk] at empty
        cases holder : u.slot.holder? with
        | none =>
          rw [Desk.revoke_nobody (sys.desk s u) holder] at empty
          exact .inl ⟨u, found, empty⟩
        | some id => exact .inr ⟨rfl, u, found, by rw [holder]; rfl⟩
      | _ => exact absurd trivial steady

theorem vacant_since (lawful : Lawful {} calls) (n s : Nat) (vacant : (before calls n).Vacant s) :
    ∃ k < n, (calls[k]? = some (.revoke s) ∧ (before calls k).Occupied s) ∧
      ∀ j, k < j → j ≤ n → (before calls j).Vacant s := by
  have start : ¬ Vacant {} s := by
    rintro ⟨v, found, _⟩
    cases found
  refine since_call calls (fun sys => sys.Vacant s)
    (fun k => calls[k]? = some (.revoke s) ∧ (before calls k).Occupied s) start n ?_ vacant
  intro i _ later
  cases here : calls[i]? with
  | none =>
    rw [before_end calls i here] at later
    exact .inl later
  | some call =>
    rw [before_succ calls i call here] at later
    rcases act_vacant (sound_before lawful i).cleared s later with old | ⟨rfl, occupied⟩
    · exact .inl old
    · exact .inr ⟨rfl, occupied⟩

theorem seeks_attended (i s : Nat) (call : Call) (here : calls[i]? = some call)
    (seeks : call.Seeks (before calls i).ledger.active s) : ¬ (before calls (i + 1)).Vacant s := by
  have seeking : call.Seeks (before calls i).cleared.ledger.active s := seeks
  rw [before_succ calls i call here]
  exact act_attended s seeking

-- A service without leader and proposal, whatever its executor has answered, has no contender, or a forced
-- revoke has emptied the slot, and nothing since has called for an election.
theorem vacancy_by_revoke (calls : List Call) (lawful : Lawful {} calls) :
    (∀ n s, (before calls n).Vacant s → ∃ k < n, (calls[k]? = some (.revoke s) ∧ (before calls k).Occupied s) ∧
        (∀ j, k < j → j ≤ n → (before calls j).Vacant s) ∧
        ∀ j call, k < j → j < n → calls[j]? = some call → ¬ call.Seeks (before calls j).ledger.active s) ∧
      ∀ i s call v, calls[i]? = some call → call.Seeks (before calls i).ledger.active s →
        (before calls (i + 1)).services[s]? = some v →
        v.down = true ∨ v.contenders.members = [] ∨ v.slot.proposed.isSome ∨ v.slot.confirmed.isSome := by
  refine ⟨?_, ?_⟩
  · intro n s vacant
    obtain ⟨k, less, revoked, lasting⟩ := vacant_since lawful n s vacant
    refine ⟨k, less, revoked, lasting, ?_⟩
    intro j call after early here seeks
    exact seeks_attended j s call here seeks (lasting (j + 1) (by omega) (by omega))
  · intro i s call v here seeks found
    exact v.attended fun vacant => seeks_attended i s call here seeks ⟨v, found, vacant⟩

-- The revoked contender is not proposed again, nor does its old token help it, until somebody grants.
def interregnum : List Call :=
  let left : Contender := ⟨1, 0, "left", 1⟩
  let right : Contender := ⟨2, 0, "right", 2⟩
  [.launch {}, .createContender 0 "left", .createContender 0 "right", .start (.contender left) 0, .revoke 0,
    .remove 0 (.contender right), .confirm left (.minted 1) "west" ⟨⟨2024, 5, 1⟩, 43200, 0⟩, .grant 0]

theorem interregnum_vacant :
    Lawful {} interregnum ∧ (before interregnum 7).Vacant 0 ∧
      (∃ k < 7, (interregnum[k]? = some (.revoke 0) ∧ (before interregnum k).Occupied 0) ∧
        ∀ j, k < j → j ≤ 7 → (before interregnum j).Vacant 0) ∧
      ∃ v, (run {} interregnum).services[0]? = some v ∧ (v.down = true ∨ v.contenders.members = [] ∨
        v.slot.proposed.isSome ∨ v.slot.confirmed.isSome) := by
  have lawful : Lawful {} interregnum := by decide
  obtain ⟨since, ended⟩ := vacancy_by_revoke interregnum lawful
  have vacant : (before interregnum 7).Vacant 0 := ⟨_, rfl, rfl, by decide, rfl, rfl⟩
  obtain ⟨k, less, revoked, lasting, _⟩ := since 7 0 vacant
  exact ⟨lawful, vacant, ⟨k, less, revoked, lasting⟩, _, rfl, ended 7 0 _ _ rfl .grant rfl⟩

end System
end Leadership
