import Leadership.Proofs.Fencing
import Leadership.Proofs.Addressee

set_option autoImplicit false

namespace Leadership

def Call.site? : Call → Option Nat
  | .createContender s _ | .createListener s => some s
  | call => call.service?

theorem Call.site_of_service (call : Call) (s : Nat) (reached : call.service? = some s) : call.site? = some s := by
  cases call with
  | launch | createContender | createListener => cases reached
  | start | remove | confirm | grant | revoke | shutDown | replan => exact reached

namespace Desk
variable {enrolled : List Handle} {call : Call} {d e : Desk}

theorem move_contenders (sound : d.Sound enrolled) (move : Move call d e) (m : Member String)
    (member : m ∈ e.contenders.members) :
    m ∈ d.contenders.members ∨ call = .start (.contender m.registration) m.party := by
  cases move with
  | note | replan | listen | hush | commit | tell | depose => exact .inl member
  | enter _ c party contenders home up idle added =>
    rcases (Roster.mem_add d.contenders contenders ⟨c, party⟩ m added).mp member with rfl | old
    · exact .inr rfl
    · exact .inl old
  | leave s _ c n contenders up active removed =>
    rw [(leave_alike d c n contenders).contenders, withdraw_rest] at member
    exact .inl ((Roster.mem_remove d.contenders contenders c n m removed).mp member).1
  | propose _ _ n up unconfirmed unproposed oldest =>
    rw [propose, submit_eq] at member
    exact .inl member
  | shutDown _ _ cause up =>
    rw [(shutDown_closed d cause up sound.contenders_distinct).contenders] at member
    cases member

theorem move_listeners (sound : d.Sound enrolled) (move : Move call d e) (m : Member Unit)
    (member : m ∈ e.listeners.members) :
    m ∈ d.listeners.members ∨ call = .start (.listener m.registration) m.party := by
  cases move with
  | note | replan | enter | commit | tell | depose => exact .inl member
  | listen _ l party listeners home up idle added =>
    rcases (Roster.mem_add d.listeners listeners ⟨l, party⟩ m added).mp member with rfl | old
    · exact .inr rfl
    · exact .inl old
  | leave s _ c n contenders up active removed =>
    rw [(leave_alike d c n contenders).listeners, withdraw_rest] at member
    exact .inl member
  | hush s _ l n listeners up active removed =>
    exact .inl ((Roster.mem_remove d.listeners listeners l n m removed).mp member).1
  | propose _ _ n up unconfirmed unproposed oldest =>
    rw [propose, submit_eq] at member
    exact .inl member
  | shutDown _ _ cause up =>
    rw [(shutDown_closed d cause up sound.contenders_distinct).listeners] at member
    cases member

theorem move_members (sound : d.Sound enrolled) (move : Move call d e) (w : Work) (served : e.Serves w) :
    d.Serves w ∨ call = .start w.handle w.party := by
  cases w with
  | grant m | revoke m | retire m => exact move_contenders sound move m served
  | notify m | dismiss m => exact move_listeners sound move m served

theorem moves_members (sound : d.Sound enrolled) (held : call.Held enrolled) (moves : Moves call d e) (w : Work)
    (served : e.Serves w) : d.Serves w ∨ call = .start w.handle w.party := by
  induction moves with
  | refl => exact .inl served
  | tail reached move ih =>
    rcases move_members (sound_moves sound held reached) move w served with earlier | started
    · exact ih earlier
    · exact .inr started

theorem moves_addressed (sound : d.Sound enrolled) (held : call.Held enrolled) (moves : Moves call d e)
    (x : Nat) (a : Attempt) (beyond : d.attempts.length ≤ x) (present : e.attempts[x]? = some a) :
    d.Serves a.work ∨ call = .start a.work.handle a.work.party := by
  refine moves_each (P := fun a => d.Serves a.work ∨ call = .start a.work.handle a.work.party)
    sound held moves ?_ x a beyond present
  intro f g reached move fresh extended b member
  obtain ⟨sent, grown, served⟩ := move_serves (sound_moves sound held reached) move
  have same : sent = fresh := List.append_cancel_left (grown.symm.trans extended)
  exact moves_members sound held reached b.work (served b (same ▸ member))

end Desk

namespace System
variable {calls : List Call}

def Registers (sys : System) (s : Nat) (w : Work) : Prop := ∃ v, sys.services[s]? = some v ∧ v.Serves w

structure Untouched (t : Nat) (sys next : System) : Prop where
  service : ∃ v, sys.services[t]? = some v ∧ next.services[t]? = some v
  published : next.published t = sys.published t
  active : ∀ h ∈ sys.enrolled, h.home = t → next.ledger.active h.id = sys.ledger.active h.id
  leading : ∀ h ∈ sys.enrolled, h.home = t → next.ledger.leading h.id = sys.ledger.leading h.id
  leadership : ∀ c token, .contender c ∈ sys.enrolled → c.home = t →
    next.hasLeadership c token = sys.hasLeadership c token

theorem untouched_of {t : Nat} {sys next : System} (v : Service) (found : sys.services[t]? = some v)
    (after : next.services[t]? = some v)
    (flags : ∀ h ∈ sys.enrolled, h.home = t → next.ledger.active h.id = sys.ledger.active h.id ∧
      next.ledger.leading h.id = sys.ledger.leading h.id) : Untouched t sys next := by
  have published : next.published t = sys.published t := by rw [System.published, after, System.published, found]
  refine ⟨⟨v, found, after⟩, published, fun h known home => (flags h known home).1,
    fun h known home => (flags h known home).2, ?_⟩
  intro c token known home
  subst home
  rw [hasLeadership, hasLeadership, published]
  exact congrArg (· && _) (flags (.contender c) known rfl).2

theorem Untouched.trans {t : Nat} {sys mid next : System} (grown : Grown sys mid) (first : Untouched t sys mid)
    (second : Untouched t mid next) : Untouched t sys next := by
  obtain ⟨v, found, middle⟩ := first.service
  obtain ⟨w, present, after⟩ := second.service
  cases middle.symm.trans present
  refine untouched_of v found after fun h known home => ⟨?_, ?_⟩
  · exact (second.active h (grown.enrolled.subset known) home).trans (first.active h known home)
  · exact (second.leading h (grown.enrolled.subset known) home).trans (first.leading h known home)

theorem foreign_flags (lawful : Lawful {} calls) (i : Nat) (call : Call) (here : calls[i]? = some call) (id : Nat)
    (foreign : ∀ s, call.service? = some s → ¬ Own (before calls i).enrolled s id) :
    (before calls (i + 1)).ledger.active id = (before calls i).ledger.active id ∧
      (before calls (i + 1)).ledger.leading id = (before calls i).ledger.leading id := by
  obtain ⟨held, takes⟩ := before_takes lawful i call here
  generalize before calls (i + 1) = next at takes
  cases takes with
  | nothing | launch | enroll => exact ⟨rfl, rfl⟩
  | visit s v e reached found moves =>
    have sound := (sound_before lawful i).cleared.desks s v found
    exact (Desk.beside_moves sound held moves).2 id (foreign s reached)

theorem Sound.own_once {sys : System} (sound : sys.Sound) (h : Handle) (known : h ∈ sys.enrolled) (s : Nat)
    (own : Own sys.enrolled s h.id) : h.home = s := by
  obtain ⟨g, listed, home, same⟩ := own
  rw [← sound.handle_unique listed known same]
  exact home

theorem untouched_call (lawful : Lawful {} calls) (i t : Nat) (there : t < (before calls i).services.length)
    (elsewhere : ∀ call, calls[i]? = some call → call.service? ≠ some t) :
    Untouched t (before calls i) (before calls (i + 1)) := by
  have found := List.getElem?_eq_getElem there
  obtain ⟨after, _⟩ := beside_call lawful i t _ found elsewhere
  refine untouched_of _ found after fun h known home => ?_
  cases here : calls[i]? with
  | none =>
    rw [before_end calls i here]
    exact ⟨rfl, rfl⟩
  | some call =>
    refine foreign_flags lawful i call here h.id fun s reached own => elsewhere call here ?_
    rw [← home, (sound_before lawful i).own_once h known s own]
    exact reached

theorem untouched_since (lawful : Lawful {} calls) (i j t : Nat) (within : i ≤ j)
    (there : t < (before calls i).services.length)
    (elsewhere : ∀ k call, i ≤ k → k < j → calls[k]? = some call → call.service? ≠ some t) :
    Untouched t (before calls i) (before calls j) := by
  induction within with
  | refl =>
    have found := List.getElem?_eq_getElem there
    exact untouched_of _ found found fun _ _ _ => ⟨rfl, rfl⟩
  | @step j within ih =>
    have so_far := ih fun k call from_ less => elsewhere k call from_ (Nat.lt_succ_of_lt less)
    obtain ⟨v, _, present⟩ := so_far.service
    have still := (List.getElem?_eq_some_iff.mp present).1
    have one := untouched_call lawful j t still fun call => elsewhere j call within (Nat.lt_succ_self j)
    exact so_far.trans (grown_later lawful i j within) one

theorem addressed_call (lawful : Lawful {} calls) (i : Nat) (call : Call) (here : calls[i]? = some call)
    (a : Attempt) (member : a ∈ submitted calls i) :
    call.service? = some a.service ∧ a.work.handle.home = a.service ∧
      ((before calls i).Registers a.service a.work ∨ call = .start a.work.handle a.work.party) := by
  obtain ⟨x, made⟩ := made_of_submitted i a member
  obtain ⟨other, v, e, same, reached, found, moves, after, _, home⟩ := visit_of_made lawful i x a made
  cases here.symm.trans same
  have sound := (sound_before lawful i).cleared.desks a.service v found
  have held := held_of_lawful calls {} lawful i call here
  have present : e.attempts[x]? = some a := by
    have grown := made.2
    rw [after] at grown
    exact grown
  refine ⟨reached, home, ?_⟩
  rcases Desk.moves_addressed sound held moves x a made.1 present with served | started
  · exact .inl ⟨v, found, served⟩
  · exact .inr started

theorem unaddressed_since (lawful : Lawful {} calls) (i j t : Nat)
    (elsewhere : ∀ k call, i ≤ k → k < j → calls[k]? = some call → call.service? ≠ some t)
    (x : Nat) (a : Attempt) (beyond : (before calls i).ledger.attempts.length ≤ x)
    (present : (before calls j).ledger.attempts[x]? = some a) : a.service ≠ t ∧ a.work.handle.home ≠ t := by
  obtain ⟨k, less, made⟩ := made_by_some_call lawful j x a present
  have after : i ≤ k := by
    by_contra early
    have shorter := (grown_later lawful (k + 1) i (by omega)).attempts.length_le
    have bound := (List.getElem?_eq_some_iff.mp made.2).1
    omega
  obtain ⟨call, _, _, here, reached, _, _, _, _, home⟩ := visit_of_made lawful k x a made
  have other : a.service ≠ t := by
    rintro rfl
    exact elsewhere k call after less here reached
  exact ⟨other, home ▸ other⟩

theorem Untouched.proposes {t : Nat} {sys next : System} (untouched : Untouched t sys next) (c : Contender)
    (home : c.home = t) (token : Fence) : next.Proposes c token ↔ sys.Proposes c token := by
  subst home
  obtain ⟨v, found, after⟩ := untouched.service
  rw [Proposes, Proposes, found, after]

-- The first part is about one call and everybody else, the second about one service while calls are made
-- at others only: its proposed contender can still confirm, and nobody else can.
theorem services_isolated (calls : List Call) (lawful : Lawful {} calls) :
    (∀ i call s, calls[i]? = some call → call.site? = some s →
        (∀ t, t ≠ s → t < (before calls i).services.length → Untouched t (before calls i) (before calls (i + 1))) ∧
        (∀ id, ¬ Own (before calls i).enrolled s id →
          (before calls (i + 1)).ledger.active id = (before calls i).ledger.active id ∧
            (before calls (i + 1)).ledger.leading id = (before calls i).ledger.leading id) ∧
        ∀ a ∈ submitted calls i, a.service = s ∧ a.work.handle.home = s ∧
          ((before calls i).Registers s a.work ∨ call = .start a.work.handle a.work.party)) ∧
      ∀ i j t, i ≤ j → t < (before calls i).services.length →
        (∀ k call, i ≤ k → k < j → calls[k]? = some call → call.site? ≠ some t) →
        Untouched t (before calls i) (before calls j) ∧
          (∀ x a, (before calls i).ledger.attempts.length ≤ x → (before calls j).ledger.attempts[x]? = some a →
            a.service ≠ t ∧ a.work.handle.home ≠ t) ∧
          ∀ c token address now, c.home = t → calls[j]? = some (.confirm c token address now) →
            ((before calls i).Proposes c token → Settles calls j c ⟨address, token⟩) ∧
            (¬ (before calls i).Proposes c token →
              ((before calls j).apply (.confirm c token address now)).1 = .completion .done ∧
                Unmoved (before calls j) (before calls (j + 1))) := by
  refine ⟨?_, ?_⟩
  · intro i call s here site
    have only (t : Nat) (reached : call.service? = some t) : t = s :=
      Option.some.inj ((call.site_of_service t reached).symm.trans site)
    refine ⟨?_, ?_, ?_⟩
    · intro t other there
      refine untouched_call lawful i t there fun call' here' reached => other ?_
      cases here.symm.trans here'
      exact only t reached
    · intro id foreign
      exact foreign_flags lawful i call here id fun t reached => only t reached ▸ foreign
    · intro a member
      obtain ⟨reached, home, addressed⟩ := addressed_call lawful i call here a member
      have service := only a.service reached
      rw [service] at home addressed
      exact ⟨service, home, addressed⟩
  · intro i j t within there elsewhere
    have unreached (k : Nat) (call : Call) (from_ : i ≤ k) (less : k < j) (here : calls[k]? = some call) :
        call.service? ≠ some t :=
      fun reached => elsewhere k call from_ less here (call.site_of_service t reached)
    have untouched := untouched_since lawful i j t within there unreached
    refine ⟨untouched, unaddressed_since lawful i j t unreached, ?_⟩
    intro c token address now home called
    rw [← untouched.proposes c home token]
    refine ⟨fun proposes => ?_, confirm_idle lawful j c token address now called⟩
    exact (commit_outcome lawful j c token address ⟨⟨now, called⟩, proposes⟩).2

-- A service whose contender is proposed and has a listener, and another one that goes down when the
-- contender is taken to it. The listener is taken there too, and then the contender confirms.
def intrusion : List Call :=
  let near : Contender := ⟨1, 0, "near", 1⟩
  let ear : Listener := ⟨2, 0, (), 2⟩
  let far : Contender := ⟨3, 1, "far", 3⟩
  [.launch {}, .launch {}, .createContender 0 "near", .createListener 0, .createContender 1 "far",
    .start (.contender near) 0, .start (.listener ear) 1, .start (.contender far) 2,
    .remove 1 (.contender near), .remove 1 (.listener ear),
    .confirm near (.minted 1) "west" ⟨⟨2024, 5, 1⟩, 43200, 0⟩]

theorem intrusion_isolated :
    Lawful {} intrusion ∧ Untouched 0 (before intrusion 8) (before intrusion 9) ∧
      (before intrusion 9).published 1 = none ∧
      (submitted intrusion 8).map Attempt.work =
        [.retire ⟨⟨3, 1, "far", 3⟩, 2⟩ true (.fatal (Desk.strangeContender "near"))] ∧
      Settles intrusion 10 ⟨1, 0, "near", 1⟩ ⟨"west", .minted 1⟩ := by
  have lawful : Lawful {} intrusion := by decide
  obtain ⟨one, since⟩ := services_isolated intrusion lawful
  have proposes : (before intrusion 8).Proposes ⟨1, 0, "near", 1⟩ (.minted 1) := ⟨_, rfl, rfl, rfl⟩
  have elsewhere (k : Nat) (call : Call) (from_ : 8 ≤ k) (less : k < 10) (here : intrusion[k]? = some call) :
      call.site? ≠ some 0 := by
    match k, from_, less with
    | 8, _, _ | 9, _, _ =>
      cases here
      decide
  obtain ⟨_, _, confirmed⟩ := since 8 10 0 (by decide) (by decide) elsewhere
  exact ⟨lawful, (one 8 _ 1 rfl rfl).1 0 (by decide) (by decide), by decide, by decide,
    (confirmed _ _ _ _ rfl rfl).1 proposes⟩

end System
end Leadership
