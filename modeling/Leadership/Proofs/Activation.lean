import Leadership.Proofs.Announcement
import Leadership.Proofs.Course
import Leadership.Proofs.Flags

set_option autoImplicit false

namespace Leadership

def notices (l : Listener) (as : List Attempt) : List (Nat × Option (Leader Fence)) :=
  as.filterMap fun a => a.work.notice? l

theorem notices_append (l : Listener) (as bs : List Attempt) :
    notices l (as ++ bs) = notices l as ++ notices l bs :=
  List.filterMap_append

theorem notices_works (l : Listener) (as : List Attempt) :
    notices l as = (as.map Attempt.work).filterMap (Work.notice? l) := by
  rw [List.filterMap_map]
  rfl

namespace System
variable {sys : System} {calls : List Call}

-- Nothing that a service has submitted so far was rejected.
def Willing (sys : System) (s : Nat) : Prop := ∀ a ∈ sys.ledger.attempts, a.service = s → a.Accepted

def leader? (sys : System) (s : Nat) : Option (Leader Fence) :=
  (sys.services[s]?).bind fun v => v.slot.leader?

def Pending (sys : System) (s : Nat) : Prop := ∃ v, sys.services[s]? = some v ∧ v.slot.proposed.isSome

def Down (sys : System) (s : Nat) : Prop := ∃ v, sys.services[s]? = some v ∧ v.down = true

def Listens (sys : System) (l : Listener) (party : Nat) : Prop :=
  ∃ v, sys.services[l.home]? = some v ∧ ⟨l, party⟩ ∈ v.listeners.members

def heard (calls : List Call) (i n : Nat) (l : Listener) : List (Nat × Option (Leader Fence)) :=
  notices l ((before calls n).ledger.attempts.drop (before calls i).ledger.attempts.length)

-- The `i`-th call starts a listener, and of the calls before the `n`-th none but the latest can have
-- ended that.
structure Activation (calls : List Call) (i n : Nat) (l : Listener) (party : Nat) : Prop where
  began : calls[i]? = some (.start (.listener l) party)
  successful : ((before calls i).apply (.start (.listener l) party)).1 = .done
  past : i < n
  unended : ∀ j, i < j → j + 1 < n →
    calls[j]? ≠ some (.remove l.home (.listener l)) ∧ ¬ (before calls (j + 1)).Down l.home

structure HandsOver (calls : List Call) (i : Nat) (c : Contender) (lead : Leader Fence) : Prop where
  asked : calls[i]? = some (.remove c.home (.contender c))
  led : (before calls i).Leads c lead
  pending : (before calls (i + 1)).Pending c.home

inductive Told (calls : List Call) (n s : Nat) : Option (Option (Leader Fence)) → Prop
  | silence (same : (before calls (n + 1)).leader? s = (before calls n).leader? s)
      (still : (before calls n).Pending s → (before calls (n + 1)).Pending s) : Told calls n s none
  | handover (c : Contender) (lead : Leader Fence) (home : c.home = s) (handed : HandsOver calls n c lead) :
      Told calls n s none
  | vacancy (vacant : (before calls (n + 1)).leader? s = none)
      (unproposed : ¬ (before calls (n + 1)).Pending s) : Told calls n s (some none)
  | leader (c : Contender) (lead : Leader Fence) (home : c.home = s)
      (commits : Commits calls n c lead.token lead.address)
      (leads : (before calls (n + 1)).leader? s = some lead) : Told calls n s (some (some lead))
  | closed (down : (before calls (n + 1)).Down s) : Told calls n s none

theorem leader_of_service (s : Nat) (v : Service) (found : sys.services[s]? = some v) :
    sys.leader? s = v.slot.leader? := by
  rw [leader?, found]
  rfl

theorem pending_iff (s : Nat) (v : Service) (found : sys.services[s]? = some v) :
    sys.Pending s ↔ v.slot.proposed.isSome := by
  constructor
  · rintro ⟨w, present, pending⟩
    cases found.symm.trans present
    exact pending
  · intro pending
    exact ⟨v, found, pending⟩

theorem Sound.vacant_of_pending (sound : sys.Sound) (s : Nat) (pending : sys.Pending s) :
    sys.leader? s = none := by
  obtain ⟨v, found, proposed⟩ := pending
  have coherent := (sound.desks s v found).slot
  rw [leader_of_service s v found]
  rcases coherent.exclusive with unproposed | unconfirmed
  · have nobody : v.slot.proposed = none := unproposed
    rw [nobody] at proposed
    cases proposed
  · exact Slot.leader_of_unconfirmed v.slot unconfirmed

theorem Sound.up_of_listens (sound : sys.Sound) (l : Listener) (party : Nat) (listens : sys.Listens l party) :
    ¬ sys.Down l.home := by
  rintro ⟨v, found, down⟩
  obtain ⟨w, present, member⟩ := listens
  cases found.symm.trans present
  have nobody : v.listeners = {} := ((sound.desks l.home v found).down down).2.2
  rw [nobody] at member
  cases member

theorem Sound.listens_of_active (sound : sys.Sound) (l : Listener) (known : .listener l ∈ sys.enrolled)
    (active : sys.ledger.active l.id = true) : ∃ party, sys.Listens l party := by
  obtain ⟨v, found⟩ := sound.service_of known
  obtain ⟨m, present, same⟩ := (sound.attentive l known v found).active.mp active
  subst same
  exact ⟨m.party, v, found, (Roster.member_of_get v.listeners _ m present).1⟩

theorem Willing.earlier {s i j : Nat} (lawful : Lawful {} calls) (willing : (before calls j).Willing s)
    (within : i ≤ j) : (before calls i).Willing s :=
  fun a member => willing a ((grown_later lawful i j within).attempts.subset member)

theorem heard_succ (lawful : Lawful {} calls) (i n : Nat) (l : Listener) (within : i ≤ n) :
    heard calls i (n + 1) l = heard calls i n l ++ notices l (submitted calls n) := by
  have shorter := (grown_later lawful i n within).attempts.length_le
  rw [heard, attempts_succ lawful, List.drop_append_of_le_length shorter, notices_append, heard]

theorem reached_call (lawful : Lawful {} calls) (n s : Nat) (call : Call) (here : calls[n]? = some call)
    (v : Service) (reached : call.service? = some s) (found : (before calls n).services[s]? = some v) :
    ∃ answer e, ((before calls n).apply call).1 = answer ∧ (before calls (n + 1)).services[s]? = some e.toService ∧
      e.attempts = (before calls n).ledger.attempts ++ submitted calls n ∧
      Desk.Course (before calls n).enrolled call ((before calls n).cleared.desk s v) (answer, e) := by
  obtain ⟨answer, e, applied, stored, course⟩ := call_course lawful n call here s v reached found
  have within := (List.getElem?_eq_some_iff.mp found).1
  refine ⟨answer, e, by rw [applied], ?_, ?_, course⟩
  · rw [stored]
    exact List.getElem?_set_self within
  · rw [← attempts_succ lawful, stored]
    rfl

theorem told_of_news (n : Nat) (sound : (before calls n).Sound) (call : Call) (here : calls[n]? = some call)
    (s : Nat) (v w : Service) (found : (before calls n).services[s]? = some v)
    (after : (before calls (n + 1)).services[s]? = some w) (word : Option (Option (Leader Fence)))
    (news : Desk.News call s v.slot w.slot word) : Told calls n s word := by
  have led := leader_of_service s v found
  have leads := leader_of_service s w after
  cases news with
  | silence same still =>
    refine .silence (leads.trans (same.trans led.symm)) fun pending => ?_
    exact (pending_iff s w after).mpr (still ((pending_iff s v found).mp pending))
  | handover c asked home confirmed vacant pending =>
    subst home
    obtain ⟨lead, current⟩ := Option.isSome_iff_exists.mp
      ((sound.desks c.home v found).slot.leader_isSome.mpr (Option.isSome_iff_exists.mpr ⟨c.id, confirmed⟩))
    exact .handover c lead rfl ⟨asked ▸ here, ⟨v, found, confirmed, current⟩, ⟨w, after, pending⟩⟩
  | vacancy vacant unproposed =>
    refine .vacancy (leads.trans vacant) fun pending => ?_
    have proposed := (pending_iff s w after).mp pending
    rw [unproposed] at proposed
    cases proposed
  | leader c lead now asked home proposed current confirmed =>
    subst home
    exact .leader c lead rfl ⟨⟨now, asked ▸ here⟩, v, found, proposed, current⟩ (leads.trans confirmed)

theorem told_call (lawful : Lawful {} calls) (n : Nat) (l : Listener) (party : Nat)
    (listens : (before calls n).Listens l party) (willing : (before calls (n + 1)).Willing l.home) :
    ∃ word, Told calls n l.home word ∧
      notices l (submitted calls n) = (word.map fun leader => (party, leader)).toList := by
  have sound := sound_before lawful n
  obtain ⟨v, found, member⟩ := listens
  by_cases reached : ∃ call, calls[n]? = some call ∧ call.service? = some l.home
  · obtain ⟨call, here, reached⟩ := reached
    obtain ⟨answer, e, _, after, grown, course⟩ := reached_call lawful n l.home call here v reached found
    have fresh (new : List Attempt) (extended : e.attempts = (before calls n).ledger.attempts ++ new) :
        submitted calls n = new :=
      List.append_cancel_left (grown.symm.trans extended)
    cases course with
    | calm _ _ works word calm =>
      obtain ⟨new, extended, told, _⟩ := calm.sent
      refine ⟨word, told_of_news n sound call here l.home v e.toService found after word calm.news, ?_⟩
      rw [fresh new extended, notices_works, told]
      exact calm.tells ⟨l, party⟩ member
    | welcome g other _ asked welcomed =>
      obtain ⟨new, extended, told, _⟩ := welcomed.sent
      have same : e.slot = v.slot := welcomed.slot
      refine ⟨none, told_of_news n sound call here l.home v e.toService found after none ?_, ?_⟩
      · rw [same]
        exact .same call l.home v.slot
      · rw [fresh new extended, notices_works, told]
        exact welcomed.unheard member
    | closed f cause alike kept up =>
      obtain ⟨new, extended, told⟩ :=
        ((sound.cleared.desks l.home v found).alike alike).shutDown_farewells cause (alike.down.trans up)
      rw [kept] at extended
      refine ⟨none, .closed ⟨_, after, Desk.shutDown_down f cause⟩, ?_⟩
      rw [fresh new extended, notices_works, told]
      exact Service.farewells_unheard _ cause l
    | crash why f still up broken =>
      obtain ⟨new, extended, a, member, rejected⟩ := broken.kept still up
      obtain ⟨x, made⟩ := made_of_submitted n a (fresh new extended ▸ member)
      have service := made_service lawful n x l.home a made call here reached
      exact absurd rejected (willing a (List.mem_of_getElem? made.2) service why)
  · have unreached (call : Call) (here : calls[n]? = some call) : call.service? ≠ some l.home :=
      fun at_ => reached ⟨call, here, at_⟩
    obtain ⟨after, elsewhere⟩ := beside_call lawful n l.home v found unreached
    refine ⟨none, .silence ?_ ?_, ?_⟩
    · rw [leader_of_service l.home v after, leader_of_service l.home v found]
    · exact fun pending => (pending_iff l.home v after).mpr ((pending_iff l.home v found).mp pending)
    · refine List.filterMap_eq_nil_iff.mpr fun a listed => ?_
      exact a.work.notice_of_other l fun same => elsewhere a listed (congrArg Handle.home same)

theorem listens_call (lawful : Lawful {} calls) (n : Nat) (l : Listener) (party : Nat)
    (listens : (before calls n).Listens l party) :
    (before calls (n + 1)).Listens l party ∨ calls[n]? = some (.remove l.home (.listener l)) ∨
      (before calls (n + 1)).Down l.home := by
  have sound := sound_before lawful n
  obtain ⟨v, found, member⟩ := listens
  by_cases reached : ∃ call, calls[n]? = some call ∧ call.service? = some l.home
  · obtain ⟨call, here, reached⟩ := reached
    obtain ⟨answer, e, _, after, _, course⟩ := reached_call lawful n l.home call here v reached found
    cases course with
    | calm _ _ works word calm =>
      by_cases asked : call = .remove l.home (.listener l)
      · rw [asked] at here
        exact .inr (.inl here)
      · exact .inl ⟨e.toService, after, (calm.stayed ⟨l, party⟩ member).mpr asked⟩
    | welcome g other _ asked welcomed =>
      exact .inl ⟨e.toService, after, (welcomed.joined ⟨l, party⟩).mpr (.inr member)⟩
    | closed f cause alike kept up => exact .inr (.inr ⟨_, after, Desk.shutDown_down f cause⟩)
    | crash why f still up broken => exact .inr (.inr ⟨_, after, Desk.shutDown_down _ (.fatal why)⟩)
  · have unreached (call : Call) (here : calls[n]? = some call) : call.service? ≠ some l.home :=
      fun at_ => reached ⟨call, here, at_⟩
    exact .inl ⟨v, (beside_call lawful n l.home v found unreached).1, member⟩

theorem stopped_call (lawful : Lawful {} calls) (n : Nat) (l : Listener) (party : Nat)
    (asked : calls[n]? = some (.remove l.home (.listener l))) : ¬ (before calls (n + 1)).Listens l party := by
  intro listens
  have up := (sound_before lawful (n + 1)).up_of_listens l party listens
  obtain ⟨w, present, member⟩ := listens
  have known := held_of_lawful calls {} lawful n _ asked
  obtain ⟨v, found⟩ := (sound_before lawful n).service_of known
  obtain ⟨answer, e, _, after, _, course⟩ := reached_call lawful n l.home _ asked v rfl found
  cases after.symm.trans present
  cases course with
  | calm _ _ works word calm => exact (calm.stayed ⟨l, party⟩ (calm.came _ member)).mp member rfl
  | welcome g other _ different welcomed => cases different
  | closed f cause alike kept running => exact up ⟨_, after, Desk.shutDown_down f cause⟩
  | crash why f still running broken => exact up ⟨_, after, Desk.shutDown_down _ (.fatal why)⟩

theorem joined_call (lawful : Lawful {} calls) (n : Nat) (l : Listener) (party : Nat)
    (listens : (before calls (n + 1)).Listens l party) :
    (before calls n).Listens l party ∨ (calls[n]? = some (.start (.listener l) party) ∧
      ((before calls n).apply (.start (.listener l) party)).1 = .done) := by
  have up := (sound_before lawful (n + 1)).up_of_listens l party listens
  obtain ⟨w, present, member⟩ := listens
  cases here : calls[n]? with
  | none =>
    rw [before_end calls n here] at present
    exact .inl ⟨w, present, member⟩
  | some call =>
    obtain ⟨_, takes⟩ := before_takes lawful n call here
    rcases takes_service takes l.home w present with same | ⟨plan, rfl⟩ | visited
    · exact .inl ⟨w, same, member⟩
    · cases member
    · obtain ⟨v, _, reached, found, _⟩ := visited
      obtain ⟨answer, e, answered, after, _, course⟩ := reached_call lawful n l.home call here v reached found
      cases after.symm.trans present
      cases course with
      | calm _ _ works word calm => exact .inl ⟨v, found, calm.came _ member⟩
      | welcome g other _ asked welcomed =>
        rcases (welcomed.joined ⟨l, party⟩).mp member with same | old
        · cases same
          rw [asked] at answered
          exact .inr ⟨congrArg some asked, answered⟩
        · exact .inl ⟨v, found, old⟩
      | closed f cause alike kept running => exact absurd ⟨_, after, Desk.shutDown_down f cause⟩ up
      | crash why f still running broken => exact absurd ⟨_, after, Desk.shutDown_down _ (.fatal why)⟩ up

theorem begun_call (lawful : Lawful {} calls) (n : Nat) (l : Listener) (party : Nat)
    (began : calls[n]? = some (.start (.listener l) party))
    (successful : ((before calls n).apply (.start (.listener l) party)).1 = .done) :
    (before calls (n + 1)).Listens l party ∧
      (before calls (n + 1)).leader? l.home = (before calls n).leader? l.home ∧
      notices l (submitted calls n) =
        ((before calls n).leader? l.home).toList.map fun lead => (party, some lead) := by
  have known := held_of_lawful calls {} lawful n _ began
  obtain ⟨v, found⟩ := (sound_before lawful n).service_of known
  obtain ⟨answer, e, answered, after, grown, course⟩ := reached_call lawful n l.home _ began v rfl found
  rw [successful] at answered
  subst answered
  have led := leader_of_service l.home v found
  cases course with
  | calm _ _ works word calm => exact absurd rfl (calm.unjoined l party rfl)
  | welcome g other _ asked welcomed =>
    cases asked
    obtain ⟨new, extended, told, _⟩ := welcomed.sent
    have fresh : submitted calls n = new := List.append_cancel_left (grown.symm.trans extended)
    have same : e.slot = v.slot := welcomed.slot
    refine ⟨⟨e.toService, after, (welcomed.joined _).mpr (.inl rfl)⟩, ?_, ?_⟩
    · rw [leader_of_service l.home e.toService after, led, same]
    · have self (leader : Option (Leader Fence)) := Work.notice_self ⟨l, party⟩ leader
      have kept : ((before calls n).cleared.desk l.home v).slot = v.slot := rfl
      rw [fresh, notices_works, told, led, kept]
      cases v.slot.leader? with
      | none => rfl
      | some lead => exact List.filterMap_cons_some (self (some lead))

namespace Activation
variable {i n : Nat} {l : Listener} {party : Nat}

theorem earlier (activation : Activation calls i (n + 1) l party) (past : i < n) :
    Activation calls i n l party :=
  ⟨activation.began, activation.successful, past,
    fun j after within => activation.unended j after (Nat.lt_succ_of_lt within)⟩

theorem listens (lawful : Lawful {} calls) (activation : Activation calls i n l party) (j : Nat)
    (after : i < j) (within : j < n) : (before calls j).Listens l party := by
  induction j with
  | zero => omega
  | succ j ih =>
    by_cases first : i = j
    · subst first
      exact (begun_call lawful i l party activation.began activation.successful).1
    · have listened := ih (by omega) (by omega)
      obtain ⟨kept, up⟩ := activation.unended j (by omega) within
      rcases listens_call lawful j l party listened with still | stopped | down
      · exact still
      · exact absurd stopped kept
      · exact absurd down up

theorem listens_end (lawful : Lawful {} calls) (activation : Activation calls i n l party)
    (active : (before calls n).ledger.active l.id = true) : (before calls n).Listens l party := by
  cases n with
  | zero => exact absurd activation.past (Nat.not_lt_zero i)
  | succ k =>
    by_cases first : i = k
    · subst first
      exact (begun_call lawful i l party activation.began activation.successful).1
    · have past := activation.past
      have listened := activation.listens lawful k (by omega) (Nat.lt_succ_self k)
      have sound := sound_before lawful (k + 1)
      have known := (grown_later lawful i (k + 1) (by omega)).enrolled.subset
        (held_of_lawful calls {} lawful i _ activation.began)
      obtain ⟨other, present⟩ := sound.listens_of_active l known active
      rcases listens_call lawful k l party listened with still | stopped | down
      · exact still
      · exact absurd present (stopped_call lawful k l other stopped)
      · exact absurd down (sound.up_of_listens l other present)

end Activation

theorem activation_of_listens (lawful : Lawful {} calls) (n : Nat) (l : Listener) (party : Nat)
    (listens : (before calls n).Listens l party) : ∃ i, Activation calls i n l party := by
  have start : ¬ Listens {} l party := by
    rintro ⟨v, found, _⟩
    cases found
  obtain ⟨i, past, ⟨began, successful⟩, lasting⟩ := since_call calls (fun sys => sys.Listens l party)
    (fun i => calls[i]? = some (.start (.listener l) party) ∧
      ((before calls i).apply (.start (.listener l) party)).1 = .done) start n
    (fun i _ later => joined_call lawful i l party later) listens
  refine ⟨i, began, successful, past, fun j after within => ⟨?_, ?_⟩⟩
  · intro stopped
    exact stopped_call lawful j l party stopped (lasting (j + 1) (by omega) (by omega))
  · exact (sound_before lawful (j + 1)).up_of_listens l party (lasting (j + 1) (by omega) (by omega))

end System
end Leadership
