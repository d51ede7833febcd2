import Leadership.Proofs.Addressee

set_option autoImplicit false

namespace Leadership

inductive Mandate where
  | given (party : Nat) (token : Fence)
  | taken (party : Nat)
deriving DecidableEq

namespace Mandate

def isGiven : Mandate → Bool
  | .given .. => true
  | .taken _ => false

def isTaken : Mandate → Bool
  | .given .. => false
  | .taken _ => true

-- In turn, and taken from the party that has it; who has it in the end.
inductive Alternate : List Mandate → Option Nat → Prop
  | start : Alternate [] none
  | given (ms : List Mandate) (party : Nat) (token : Fence) (before : Alternate ms none) :
      Alternate (ms ++ [.given party token]) (some party)
  | taken (ms : List Mandate) (party : Nat) (before : Alternate ms (some party)) :
      Alternate (ms ++ [.taken party]) none

theorem Alternate.balance {ms : List Mandate} {bearer : Option Nat} (alternate : Alternate ms bearer) :
    ms.countP isGiven = ms.countP isTaken + if bearer.isSome then 1 else 0 := by
  induction alternate with
  | start => rfl
  | given ms party token before ih => simp [ih, isGiven, isTaken]
  | taken ms party before ih => simp [ih, isGiven, isTaken]

inductive Passes : Option Nat → Option Nat → List Mandate → Prop
  | nothing (bearer : Option Nat) : Passes bearer bearer []
  | given (party : Nat) (token : Fence) : Passes none (some party) [.given party token]
  | taken (party : Nat) : Passes (some party) none [.taken party]

theorem Alternate.pass {ms fresh : List Mandate} {bearer next : Option Nat}
    (alternate : Alternate ms bearer) (passes : Passes bearer next fresh) :
    Alternate (ms ++ fresh) next := by
  cases passes with
  | nothing =>
    rw [List.append_nil]
    exact alternate
  | given party token => exact .given ms party token alternate
  | taken party => exact .taken ms party alternate

end Mandate

def Work.mandate? (c : Contender) : Work → Option Mandate
  | .grant m token => if m.registration = c then some (.given m.party token) else none
  | .revoke m => if m.registration = c then some (.taken m.party) else none
  | .retire m wasLeader _ =>
    if m.registration = c ∧ wasLeader = true then some (.taken m.party) else none
  | .notify .. | .dismiss .. => none

def mandates (c : Contender) (as : List Attempt) : List Mandate :=
  as.filterMap fun a => a.work.mandate? c

def Service.bearer? (v : Service) (c : Contender) : Option Nat :=
  if v.slot.holder? = some c.id then (v.contenders.get? c.id).map Member.party else none

theorem Service.bearer_of_other (v : Service) (c : Contender) (other : v.slot.holder? ≠ some c.id) :
    v.bearer? c = none :=
  if_neg other

theorem Service.bearer_of_holder (v : Service) (c : Contender) (m : Member String)
    (holder : v.slot.holder? = some c.id) (found : v.contenders.get? c.id = some m) :
    v.bearer? c = some m.party := by
  rw [bearer?, if_pos holder, found, Option.map_some]

theorem mandates_append (c : Contender) (as bs : List Attempt) :
    mandates c (as ++ bs) = mandates c as ++ mandates c bs :=
  List.filterMap_append

theorem mandates_works (c : Contender) (as : List Attempt) :
    mandates c as = (as.map Attempt.work).filterMap (Work.mandate? c) := by
  rw [List.filterMap_map]
  rfl

theorem Work.mandate_of_other (w : Work) (c : Contender) (other : w.handle ≠ .contender c) :
    w.mandate? c = none := by
  cases w with
  | grant m token => exact if_neg fun same => other (congrArg Handle.contender same)
  | revoke m => exact if_neg fun same => other (congrArg Handle.contender same)
  | retire m wasLeader cause => exact if_neg fun both => other (congrArg Handle.contender both.1)
  | notify | dismiss => rfl

namespace Desk
variable {enrolled : List Handle} {call : Call} {d e : Desk}

theorem Alike.bearer (alike : Alike d e) (c : Contender) : e.bearer? c = d.bearer? c := by
  rw [Service.bearer?, Service.bearer?, alike.slot, alike.contenders]

section Pass
variable (sound : d.Sound enrolled) (c : Contender)
include sound

theorem pass_enter (g : Contender) (party : Nat) (contenders : Roster String)
    (added : d.contenders.add? ⟨g, party⟩ = some contenders) :
    ({ d with contenders := contenders }.setActive g.id true).bearer? c = d.bearer? c := by
  by_cases holder : d.slot.holder? = some c.id
  · have absent : g.id ∉ d.contenders.ids := (Roster.add_cases d.contenders contenders ⟨g, party⟩ added).1
    have other : c.id ≠ g.id := fun same => absent (same ▸ sound.seated c.id holder)
    have kept := Roster.get_add_other d.contenders sound.contenders_distinct contenders ⟨g, party⟩ added c.id other
    simp only [Service.bearer?, setActive, kept]
  · have before := Service.bearer_of_other d.toService c holder
    rw [before]
    exact Service.bearer_of_other _ c holder

variable (alone : ∀ m ∈ d.contenders.members, m.id = c.id → m.registration = c)
include alone

theorem pass_revoke (id : Nat) (m : Member String) (member : m ∈ d.contenders.members) (same : m.id = id)
    (holder : d.slot.holder? = some id) :
    Mandate.Passes (d.bearer? c) none ((Work.revoke m).mandate? c).toList := by
  subst same
  by_cases mine : m.id = c.id
  · have registered := alone m member mine
    have found := (Roster.get_iff d.contenders sound.contenders_distinct c.id m).mpr ⟨member, mine⟩
    rw [Service.bearer_of_holder _ c m (mine ▸ holder) found]
    simp only [Work.mandate?, if_pos registered, Option.toList_some]
    exact .taken m.party
  · have other : d.slot.holder? ≠ some c.id := by
      rw [holder]
      exact fun equal => mine (Option.some.inj equal)
    have stranger : m.registration ≠ c := fun equal => mine (congrArg Registration.id equal)
    rw [Service.bearer_of_other _ c other]
    simp only [Work.mandate?, if_neg stranger, Option.toList_none]
    exact .nothing none

theorem pass_leave (g : Contender) (m : Member String) (contenders : Roster String)
    (removed : d.contenders.remove? g = some (m, contenders)) :
    ∃ fresh, mandates c (d.leave g m contenders).attempts = mandates c d.attempts ++ fresh ∧
      Mandate.Passes (d.bearer? c) ((d.leave g m contenders).bearer? c) fresh := by
  obtain ⟨member, place, _⟩ := Roster.remove_cases d.contenders contenders g m removed
  have own := sound.own_contender (place ▸ Roster.ids_of_member d.contenders m member)
  have slot := (withdraw_slot sound g contenders).1
  have roster : (d.withdraw g contenders).contenders = contenders := by rw [withdraw_rest]
  have kept : (d.withdraw g contenders).attempts = d.attempts := by rw [withdraw_rest]
  rw [(leave_alike d g m contenders).bearer c]
  by_cases holder : d.slot.holder? = some g.id
  · have leading : d.leading g.id = true := (sound.leading g.id own).mpr holder
    rw [if_pos holder] at slot
    have nobody : (d.withdraw g contenders).bearer? c = none := by simp [Service.bearer?, slot, Slot.holder?]
    refine ⟨((Work.revoke m).mandate? c).toList, ?_, ?_⟩
    · simp only [leave, leading, if_true, handed, note, kept, mandates_append]
      cases revoked : (Work.revoke m).mandate? c <;> simp [mandates, revoked]
    · rw [nobody]
      exact pass_revoke sound c alone g.id m member place holder
  · have following : d.leading g.id ≠ true := mt (sound.leading g.id own).mp holder
    rw [if_neg holder] at slot
    refine ⟨[], ?_, ?_⟩
    · simp [leave, following, note, kept]
    · have bearer : (d.withdraw g contenders).bearer? c = d.bearer? c := by
        by_cases mine : d.slot.holder? = some c.id
        · have other : c.id ≠ g.id := fun equal => holder (equal ▸ mine)
          have found :=
            Roster.get_remove_other d.contenders sound.contenders_distinct contenders g m removed c.id other
          simp only [Service.bearer?, slot, roster, found]
        · rw [Service.bearer_of_other _ c mine]
          exact Service.bearer_of_other _ c (by rw [slot]; exact mine)
      rw [bearer]
      exact .nothing _

theorem pass_propose (m : Member String) (unconfirmed : d.slot.confirmed = none)
    (unproposed : d.slot.proposed = none) (oldest : d.contenders.oldest? = some m) :
    ∃ fresh, mandates c (d.propose m).2.attempts = mandates c d.attempts ++ fresh ∧
      Mandate.Passes (d.bearer? c) ((d.propose m).2.bearer? c) fresh := by
  have member := Roster.member_of_oldest d.contenders m oldest
  have vacant : d.bearer? c = none := by simp [Service.bearer?, Slot.holder?, unconfirmed, unproposed]
  rw [vacant, propose, submit_eq]
  refine ⟨((Work.grant m (.minted (d.minted + 1))).mandate? c).toList, ?_, ?_⟩
  · simp only [handed, mandates_append]
    cases granted : (Work.grant m (.minted (d.minted + 1))).mandate? c <;>
      simp [mandates, granted, setLeading, setToken, note]
  · by_cases mine : m.id = c.id
    · have found := (Roster.get_iff d.contenders sound.contenders_distinct c.id m).mpr ⟨member, mine⟩
      simp only [Work.mandate?, if_pos (alone m member mine), Option.toList_some]
      simp only [Service.bearer?, handed, note, setLeading, setToken, Slot.holder?, unconfirmed, Option.none_or,
        mine, if_true, found, Option.map_some]
      exact .given m.party _
    · have stranger : m.registration ≠ c := fun equal => mine (congrArg Registration.id equal)
      simp only [Work.mandate?, if_neg stranger, Option.toList_none]
      simp only [Service.bearer?, handed, note, setLeading, setToken, Slot.holder?, unconfirmed, Option.none_or,
        Option.some.injEq, mine, if_false]
      exact .nothing none

theorem pass_shutDown (known : .contender c ∈ enrolled) (home : c.home = d.number) (cause : Fault)
    (up : d.down = false) :
    ∃ fresh, mandates c (d.shutDown cause).attempts = mandates c d.attempts ++ fresh ∧
      Mandate.Passes (d.bearer? c) ((d.shutDown cause).bearer? c) fresh := by
  have closed := shutDown_closed d cause up sound.contenders_distinct
  obtain ⟨told, grown, works, _⟩ := closed.attempts
  have nobody : (d.shutDown cause).bearer? c = none := by simp [Service.bearer?, closed.slot, Slot.holder?]
  have leading := sound.leading c.id ⟨.contender c, known, home, rfl⟩
  let farewell (m : Member String) : Option Mandate := (Work.retire m (d.leading m.id) cause).mandate? c
  have passed : mandates c told = d.contenders.members.filterMap farewell := by
    have quiet : (d.listeners.members.map fun m => Work.dismiss m cause).filterMap (Work.mandate? c) = [] := by
      simp [Work.mandate?]
    rw [mandates_works, works, List.filterMap_append, quiet, List.append_nil, List.filterMap_map]
    rfl
  have stranger (m : Member String) (other : m.id ≠ c.id) : farewell m = none :=
    if_neg fun both => other (congrArg Registration.id both.1)
  refine ⟨mandates c told, by rw [grown, mandates_append], ?_⟩
  rw [nobody, passed]
  by_cases holder : d.slot.holder? = some c.id
  · obtain ⟨m, found, member, mine⟩ := Roster.get_of_ids d.contenders c.id (sound.seated c.id holder)
    have lost : farewell m = some (.taken m.party) := if_pos ⟨alone m member mine, mine ▸ leading.mpr holder⟩
    rw [Service.bearer_of_holder _ c m holder found,
      Roster.filterMap_member d.contenders sound.contenders_distinct farewell m member
        fun n _ other => stranger n (mine ▸ other), lost]
    exact .taken m.party
  · have kept : d.contenders.members.filterMap farewell = [] := by
      refine List.filterMap_eq_nil_iff.mpr fun m member => ?_
      by_cases mine : m.id = c.id
      · exact if_neg fun both => holder (leading.mp (mine ▸ both.2))
      · exact stranger m mine
    rw [Service.bearer_of_other _ c holder, kept]
    exact .nothing none

theorem move_mandates (known : .contender c ∈ enrolled) (home : c.home = d.number)
    (move : Move call d e) :
    ∃ fresh, mandates c e.attempts = mandates c d.attempts ++ fresh ∧
      Mandate.Passes (d.bearer? c) (e.bearer? c) fresh := by
  cases move with
  | note | replan | listen | hush => exact ⟨[], (List.append_nil _).symm, .nothing _⟩
  | enter _ g party contenders home' up idle added =>
    refine ⟨[], (List.append_nil _).symm, ?_⟩
    rw [pass_enter sound c g party contenders added]
    exact .nothing _
  | leave s _ g m contenders up active removed => exact pass_leave sound c alone g m contenders removed
  | propose _ _ m up unconfirmed unproposed oldest =>
    exact pass_propose sound c alone m unconfirmed unproposed oldest
  | commit _ g token address now home' up active proposed current =>
    have unconfirmed : d.slot.confirmed = none := by
      rcases sound.slot.exclusive with none | none
      · rw [none] at proposed
        cases proposed
      · exact none
    have bearer : (d.commit g address now).bearer? c = d.bearer? c := by
      simp [Service.bearer?, commit, Slot.holder?, unconfirmed, proposed]
    refine ⟨[], (List.append_nil _).symm, ?_⟩
    rw [bearer]
    exact .nothing _
  | tell _ _ m up member =>
    refine ⟨[], by simp [handed, mandates, Work.mandate?], ?_⟩
    rw [(handed_alike d _).bearer c]
    exact .nothing _
  | depose s _ id m up holder found =>
    obtain ⟨member, same⟩ := Roster.member_of_get d.contenders id m found
    refine ⟨((Work.revoke m).mandate? c).toList, ?_, pass_revoke sound c alone id m member same holder⟩
    simp only [handed, mandates_append]
    cases revoked : (Work.revoke m).mandate? c <;>
      simp [mandates, revoked, depose, setLeading, vacate, setToken, note]
  | shutDown _ _ cause up => exact pass_shutDown sound c alone known home cause up

end Pass

theorem move_minted (sound : d.Sound enrolled) (move : Move call d e) :
    e.minted = d.minted ∨ ∃ m, e = (d.propose m).2 := by
  cases move with
  | propose _ _ m up unconfirmed unproposed oldest => exact .inr ⟨m, rfl⟩
  | leave s _ g m contenders up active removed =>
    rw [(leave_alike d g m contenders).minted, withdraw_rest]
    exact .inl rfl
  | shutDown _ _ cause up => exact .inl (shutDown_closed d cause up sound.contenders_distinct).minted
  | _ => exact .inl rfl

theorem propose_minted (d : Desk) (m : Member String) : (d.propose m).2.minted = d.minted + 1 := by
  rw [propose, submit_eq]
  rfl

theorem moves_minted (sound : d.Sound enrolled) (held : call.Held enrolled) (moves : Moves call d e) :
    d.minted ≤ e.minted := by
  induction moves with
  | refl => exact Nat.le_refl _
  | @tail f g reached move ih =>
    rcases move_minted (sound_moves sound held reached) move with same | ⟨m, rfl⟩
    · omega
    · rw [propose_minted]
      omega

structure Granted (d : Desk) (m : Member String) (token : Fence) (a : Attempt) : Prop where
  fresh : ∃ n, token = .minted n ∧ d.minted < n
  published : a.moment.published = some token
  proposed : a.moment.slot.proposed = some m.id
  current : a.moment.slot.token = some token

theorem move_granted (sound : d.Sound enrolled) (move : Move call d e) (fresh : List Attempt)
    (extended : e.attempts = d.attempts ++ fresh) (a : Attempt) (member : a ∈ fresh) (m : Member String)
    (token : Fence) (granted : a.work = .grant m token) : Granted d m token a := by
  rcases move_minted sound move with same | ⟨n, rfl⟩
  · obtain ⟨sent, grown, _, submits⟩ := move_submits sound move
    have equal : sent = fresh := List.append_cancel_left (grown.symm.trans extended)
    subst equal
    -- Nothing is granted unless something is minted.
    cases submits with
    | nothing => cases member
    | grant n b listed work minted => omega
    | revoke n b work =>
      rw [List.mem_singleton.mp member, work] at granted
      cases granted
    | notify n b work =>
      rw [List.mem_singleton.mp member, work] at granted
      cases granted
    | farewell _ works =>
      have farewell := works a member
      rw [granted] at farewell
      exact farewell.elim
  · rw [propose, submit_eq] at extended
    have sent := List.append_cancel_left extended
    rw [← sent] at member
    rw [List.mem_singleton.mp member] at granted ⊢
    cases granted
    exact ⟨⟨d.minted + 1, rfl, Nat.lt_succ_self _⟩, rfl, rfl, rfl⟩

theorem moves_granted (sound : d.Sound enrolled) (held : call.Held enrolled) (moves : Moves call d e)
    (x : Nat) (a : Attempt) (beyond : d.attempts.length ≤ x) (present : e.attempts[x]? = some a)
    (m : Member String) (token : Fence) (granted : a.work = .grant m token) : Granted d m token a := by
  refine moves_each (P := fun a => a.work = .grant m token → Granted d m token a) sound held moves ?_
    x a beyond present granted
  intro f g reached move fresh extended b member work
  have step := move_granted (sound_moves sound held reached) move fresh extended b member m token work
  obtain ⟨n, same, above⟩ := step.fresh
  have before := moves_minted sound held reached
  exact ⟨⟨n, same, Nat.lt_of_le_of_lt before above⟩, step.published, step.proposed, step.current⟩

theorem moves_mandates (sound : d.Sound enrolled) (held : call.Held enrolled) (moves : Moves call d e)
    (c : Contender) (known : .contender c ∈ enrolled) (home : c.home = d.number)
    (alone : ∀ h ∈ enrolled, h.id = c.id → h = .contender c)
    (alternate : Mandate.Alternate (mandates c d.attempts) (d.bearer? c)) :
    Mandate.Alternate (mandates c e.attempts) (e.bearer? c) := by
  induction moves with
  | refl => exact alternate
  | @tail f g reached move ih =>
    have still := sound_moves sound held reached
    have number := (beside_moves sound held reached).1
    have registered (m : Member String) (member : m ∈ f.contenders.members) (same : m.id = c.id) :
        m.registration = c :=
      Handle.contender.inj (alone _ (still.contenders m member).1 same)
    obtain ⟨fresh, extended, passes⟩ :=
      move_mandates still c registered known (home.trans number.symm) move
    rw [extended]
    exact ih.pass passes

end Desk

namespace System
variable {calls : List Call}

-- Grants and revokes as submitted so far for a contender, whoever it was started as, and who bears the
-- mandate now.
def Mandated (sys : System) (c : Contender) : Prop :=
  ∃ v, sys.services[c.home]? = some v ∧
    Mandate.Alternate (mandates c sys.ledger.attempts) (v.bearer? c)

theorem mandates_beside (lawful : Lawful {} calls) (i : Nat) (c : Contender) (v : Service)
    (found : (before calls i).services[c.home]? = some v)
    (unreached : ∀ call, calls[i]? = some call → call.service? ≠ some c.home) :
    mandates c (before calls (i + 1)).ledger.attempts = mandates c (before calls i).ledger.attempts := by
  have quiet : mandates c (submitted calls i) = [] := by
    refine List.filterMap_eq_nil_iff.mpr fun a member => ?_
    have home := (beside_call lawful i c.home v found unreached).2 a member
    exact a.work.mandate_of_other c fun same => home (congrArg Handle.home same)
  rw [attempts_succ lawful, mandates_append, quiet, List.append_nil]

theorem mandated_succ (lawful : Lawful {} calls) (i : Nat) (c : Contender)
    (known : .contender c ∈ (before calls i).enrolled) (mandated : (before calls i).Mandated c) :
    (before calls (i + 1)).Mandated c := by
  cases here : calls[i]? with
  | none =>
    rw [before_end calls i here]
    exact mandated
  | some call =>
    obtain ⟨v, found, alternate⟩ := mandated
    have sound := (sound_before lawful i).cleared
    obtain ⟨held, takes⟩ := before_takes lawful i call here
    generalize after : before calls (i + 1) = next at takes
    cases takes with
    | nothing | enroll => exact ⟨v, found, alternate⟩
    | launch plan =>
      have within := (List.getElem?_eq_some_iff.mp found).1
      exact ⟨v, (List.getElem?_append_left within).trans found, alternate⟩
    | visit s w e reached present moves =>
      by_cases mine : s = c.home
      · subst mine
        cases found.symm.trans present
        have within := (List.getElem?_eq_some_iff.mp found).1
        have desk := sound.desks c.home v found
        have alone (h : Handle) (member : h ∈ (before calls i).cleared.enrolled) (same : h.id = c.id) :
            h = .contender c :=
          sound.handle_unique member known same
        exact ⟨e.toService, List.getElem?_set_self within,
          Desk.moves_mandates desk held moves c known rfl alone alternate⟩
      · have unreached (other : Call) (same : calls[i]? = some other) : other.service? ≠ some c.home := by
          cases here.symm.trans same
          rw [reached]
          exact fun equal => mine (Option.some.inj equal)
        have kept := mandates_beside lawful i c v found unreached
        rw [after] at kept
        refine ⟨v, (List.getElem?_set_ne mine).trans found, ?_⟩
        rw [kept]
        exact alternate

theorem mandates_unknown (lawful : Lawful {} calls) (n : Nat) (c : Contender)
    (unknown : .contender c ∉ (before calls n).enrolled) :
    mandates c (before calls n).ledger.attempts = [] := by
  refine List.filterMap_eq_nil_iff.mpr fun a member => ?_
  obtain ⟨x, present⟩ := List.mem_iff_getElem?.mp member
  exact a.work.mandate_of_other c fun same => unknown (same ▸ made_known lawful n x a present)

theorem bearer_unknown (sys : System) (sound : sys.Sound) (c : Contender) (v : Service) (s : Nat)
    (found : sys.services[s]? = some v) (beyond : sys.enrolled.length < c.id) : v.bearer? c = none := by
  refine v.bearer_of_other c fun holder => ?_
  have desk := sound.desks s v found
  obtain ⟨h, known, _, same⟩ := desk.own_contender (desk.seated c.id holder)
  have := sound.id_le known
  omega

theorem mandated_before (lawful : Lawful {} calls) (n : Nat) (c : Contender)
    (known : .contender c ∈ (before calls n).enrolled) : (before calls n).Mandated c := by
  induction n with
  | zero => cases known
  | succ n ih =>
    by_cases old : .contender c ∈ (before calls n).enrolled
    · exact mandated_succ lawful n c old (ih old)
    · have none := mandates_unknown lawful n c old
      have sound := sound_before lawful n
      cases here : calls[n]? with
      | none =>
        rw [before_end calls n here] at known
        exact absurd known old
      | some call =>
        obtain ⟨_, takes⟩ := before_takes lawful n call here
        generalize before calls (n + 1) = next at takes known
        cases takes with
        | nothing | launch | visit => exact absurd known old
        | enroll h home id =>
          have new : h = .contender c := by
            rcases List.mem_append.mp known with before | last
            · exact absurd before old
            · exact (List.mem_singleton.mp last).symm
          subst new
          obtain ⟨v, found⟩ : ∃ v, (before calls n).services[c.home]? = some v :=
            ⟨_, List.getElem?_eq_getElem home⟩
          have fresh : (before calls n).enrolled.length < c.id := by
            have numbered : c.id = (before calls n).enrolled.length + 1 := id
            omega
          refine ⟨v, found, ?_⟩
          rw [bearer_unknown (before calls n) sound c v c.home found fresh]
          exact none ▸ .start

theorem made_granted (lawful : Lawful {} calls) (i x : Nat) (a : Attempt) (m : Member String) (token : Fence)
    (made : Made calls i x a) (work : a.work = .grant m token) :
    a.moment.published = some token ∧ a.moment.slot.proposed = some m.id ∧ a.moment.slot.token = some token ∧
      ∃ n, token = .minted n ∧ (before calls i).ledger.minted < n ∧ n ≤ (before calls (i + 1)).ledger.minted := by
  obtain ⟨call, v, e, here, _, found, moves, stored, _⟩ := visit_of_made lawful i x a made
  obtain ⟨beyond, present⟩ := made
  have member : a ∈ (before calls (i + 1)).ledger.attempts := List.mem_of_getElem? present
  have sound := (sound_before lawful i).cleared.desks a.service v found
  have held := held_of_lawful calls {} lawful i call here
  rw [stored] at present
  have granted := Desk.moves_granted sound held moves x a beyond present m token work
  obtain ⟨n, same, above⟩ := granted.fresh
  obtain ⟨k, within, same'⟩ := (numbered_before lawful (i + 1)).bound a member token (by rw [work]; rfl)
  cases same.symm.trans same'
  exact ⟨granted.published, granted.proposed, granted.current, n, same, above, within⟩

theorem minted_later (lawful : Lawful {} calls) (i j : Nat) (within : i ≤ j) :
    (before calls i).ledger.minted ≤ (before calls j).ledger.minted := by
  induction within with
  | refl => exact Nat.le_refl _
  | @step j _ ih =>
    refine Nat.le_trans ih ?_
    cases here : calls[j]? with
    | none => exact Nat.le_of_eq (by rw [before_end calls j here])
    | some call =>
      obtain ⟨held, takes⟩ := before_takes lawful j call here
      generalize before calls (j + 1) = next at takes
      cases takes with
      | nothing | launch | enroll => exact Nat.le_refl _
      | visit s v e reached found moves =>
        exact Desk.moves_minted ((sound_before lawful j).cleared.desks s v found) held moves

structure Tenured (sys : System) (v : Service) (c : Contender) : Prop where
  alternate : Mandate.Alternate (mandates c sys.ledger.attempts) (v.bearer? c)
  bearer : v.slot.holder? = some c.id →
    ∃ m, v.contenders.get? c.id = some m ∧ m.registration = c ∧ v.bearer? c = some m.party
  balance : (mandates c sys.ledger.attempts).countP Mandate.isGiven =
    (mandates c sys.ledger.attempts).countP Mandate.isTaken +
      if v.slot.holder? = some c.id then 1 else 0

theorem mandated_tenured (sys : System) (sound : sys.Sound) (c : Contender)
    (known : .contender c ∈ sys.enrolled) (mandated : sys.Mandated c) :
    ∃ v, sys.services[c.home]? = some v ∧ sys.Tenured v c := by
  obtain ⟨v, found, alternate⟩ := mandated
  have desk := sound.desks c.home v found
  have bearer (holder : v.slot.holder? = some c.id) :
      ∃ m, v.contenders.get? c.id = some m ∧ m.registration = c ∧ v.bearer? c = some m.party := by
    obtain ⟨m, present, member, same⟩ := Roster.get_of_ids v.contenders c.id (desk.seated c.id holder)
    have registered := sound.contender_alone known found m member same
    exact ⟨m, present, registered, v.bearer_of_holder c m holder present⟩
  refine ⟨v, found, alternate, bearer, ?_⟩
  rw [alternate.balance]
  by_cases holder : v.slot.holder? = some c.id
  · obtain ⟨m, _, _, borne⟩ := bearer holder
    simp [borne, holder]
  · simp [v.bearer_of_other c holder, holder]

-- Each grant of a contender is followed by one revoke, of the party that it was granted to, before the
-- next; the last is open just while the contender holds the slot.
theorem mandates_alternate (calls : List Call) (lawful : Lawful {} calls) :
    (∀ c, .contender c ∈ (run {} calls).enrolled →
        ∃ v, (run {} calls).services[c.home]? = some v ∧ (run {} calls).Tenured v c) ∧
      ∀ i x a m token, Made calls i x a → a.work = .grant m token →
        a.moment.published = some token ∧ a.moment.slot.proposed = some m.id ∧
          a.moment.slot.token = some token ∧
          ∃ n, token = .minted n ∧ (before calls i).ledger.minted < n ∧
            n ≤ (before calls (i + 1)).ledger.minted := by
  refine ⟨?_, made_granted lawful⟩
  intro c known
  have sound := sound_run lawful
  rw [← before_all calls] at known sound ⊢
  exact mandated_tenured _ sound c known (mandated_before lawful calls.length c known)

-- The contender leads as one party, goes, and comes back as another. When it is to be revoked by force,
-- the executor rejects the revoke, and the service goes down over it.
def comeback : List Call :=
  let only : Contender := ⟨1, 0, "only", 1⟩
  [.launch ⟨[.accept, .accept, .accept, .reject (.executorRejected "executor is closed")], .accept⟩,
    .createContender 0 "only", .start (.contender only) 0, .remove 0 (.contender only),
    .start (.contender only) 1, .revoke 0]

theorem comeback_mandates :
    Lawful {} comeback ∧ mandates ⟨1, 0, "only", 1⟩ (run {} comeback).ledger.attempts =
        [.given 0 (.minted 1), .taken 0, .given 1 (.minted 2), .taken 1] ∧
      (∃ v, (run {} comeback).services[0]? = some v ∧ v.down = true ∧
        (run {} comeback).Tenured v ⟨1, 0, "only", 1⟩) ∧
      ∃ a, (run {} comeback).ledger.attempts[2]? = some a ∧ a.moment.published = some (.minted 2) := by
  have lawful : Lawful {} comeback := by decide
  obtain ⟨tenured, granted⟩ := mandates_alternate comeback lawful
  obtain ⟨v, found, proper⟩ := tenured ⟨1, 0, "only", 1⟩ (by decide)
  have down : v.down = true := by
    cases found
    rfl
  have made : Made comeback 4 2 _ := ⟨by decide, rfl⟩
  exact ⟨lawful, by decide, ⟨v, found, down, proper⟩, _, rfl, (granted 4 2 _ _ _ made rfl).1⟩

end System
end Leadership
