import Leadership.Proofs.Addressee
import Leadership.Proofs.Flags
import Leadership.Proofs.Submission

set_option autoImplicit false

namespace Leadership

def Call.setback : Call → Answer
  | .confirm .. => .completion .done
  | .remove .. | .shutDown .. => .done
  | _ => .fault .alreadyShutdown

def Answer.Polite (a : Answer) : Prop := ∀ f, a = .fault f → f = .alreadyShutdown

theorem Answer.shutdown_polite : Answer.Polite (.fault .alreadyShutdown) := by
  intro f same
  cases same
  rfl

theorem Answer.done_polite : Answer.Polite .done := by
  intro f same
  cases same

theorem Answer.completion_polite (c : Completion) : Answer.Polite (.completion c) := by
  intro f same
  cases same

theorem Call.setback_polite (call : Call) : call.setback.Polite := by
  cases call with
  | confirm => exact Answer.completion_polite .done
  | remove | shutDown => exact Answer.done_polite
  | _ => exact Answer.shutdown_polite

def Call.Aside : Call → Prop
  | .start (.listener _) _ | .remove _ (.listener _) => False
  | _ => True

def Work.notice? (l : Listener) : Work → Option (Nat × Option (Leader Fence))
  | .notify m leader => if m.registration = l then some (m.party, leader) else none
  | _ => none

theorem Work.notice_self (m : Member Unit) (leader : Option (Leader Fence)) :
    (Work.notify m leader).notice? m.registration = some (m.party, leader) :=
  if_pos rfl

theorem Work.notice_of_other (w : Work) (l : Listener) (other : w.handle ≠ .listener l) :
    w.notice? l = none := by
  cases w with
  | notify m leader => exact if_neg fun same => other (congrArg Handle.listener same)
  | _ => rfl

theorem Work.notice_of_farewell (w : Work) (l : Listener) (farewell : w.Farewell) : w.notice? l = none := by
  cases w with
  | retire | dismiss => rfl
  | _ => exact farewell.elim

def Service.farewells (v : Service) (cause : Fault) : List Work :=
  (v.contenders.members.map fun m => .retire m (v.slot.holder? = some m.id) cause) ++
    v.listeners.members.map fun m => .dismiss m cause

theorem Service.farewell_of_mem (v : Service) (cause : Fault) (w : Work) (listed : w ∈ v.farewells cause) :
    w.Farewell := by
  rw [farewells, List.mem_append, List.mem_map, List.mem_map] at listed
  rcases listed with ⟨m, _, same⟩ | ⟨m, _, same⟩
  · rw [← same]
    trivial
  · rw [← same]
    trivial

theorem Service.farewells_unheard (v : Service) (cause : Fault) (l : Listener) :
    (v.farewells cause).filterMap (Work.notice? l) = [] :=
  List.filterMap_eq_nil_iff.mpr fun w listed => w.notice_of_farewell l (v.farewell_of_mem cause w listed)

namespace Desk
variable {enrolled : List Handle} {call : Call} {d e f : Desk} {works : List Work}

def Tells (d : Desk) (works : List Work) (word : Option (Option (Leader Fence))) : Prop :=
  ∀ m ∈ d.listeners.members, works.filterMap (Work.notice? m.registration) =
    (word.map fun leader => (m.party, leader)).toList

theorem tells_nothing (d : Desk) : Tells d [] none := fun _ _ => rfl

theorem tells_all (d : Desk) (distinct : d.listeners.ids.Nodup) (leader : Option (Leader Fence)) :
    Tells d (d.listeners.members.map fun m => .notify m leader) (some leader) := by
  intro m member
  have told := Work.notice_self m leader
  rw [List.filterMap_map, Roster.filterMap_member d.listeners distinct _ m member]
  · simp only [Function.comp_apply, told]
    rfl
  · intro n _ other
    exact if_neg fun same => other (congrArg Registration.id same)

theorem Tells.after {word : Option (Option (Leader Fence))} (w : Work) (quiet : ∀ l, w.notice? l = none)
    (tells : Tells d works word) : Tells d (w :: works) word := by
  intro m member
  rw [List.filterMap_cons_none (quiet m.registration)]
  exact tells m member

-- What listeners are told when the slot changes, and what the change is. A confirmed leader that is
-- handed over to a proposal is the one change that they are not told of.
inductive News (call : Call) (number : Nat) (s t : Slot) : Option (Option (Leader Fence)) → Prop
  | silence (same : t.leader? = s.leader?) (still : s.proposed.isSome → t.proposed.isSome) :
      News call number s t none
  | handover (c : Contender) (asked : call = .remove number (.contender c)) (home : c.home = number)
      (led : s.confirmed = some c.id) (vacant : t.leader? = none) (pending : t.proposed.isSome) :
      News call number s t none
  | vacancy (vacant : t.leader? = none) (unproposed : t.proposed = none) : News call number s t (some none)
  | leader (c : Contender) (l : Leader Fence) (now : Instant)
      (asked : call = .confirm c l.token l.address now) (home : c.home = number)
      (proposed : s.proposed = some c.id) (current : s.token = some l.token)
      (leads : t.leader? = some l) : News call number s t (some (some l))

theorem News.same (call : Call) (number : Nat) (s : Slot) : News call number s s none :=
  .silence rfl id

structure Calm (call : Call) (d : Desk) (answer : Answer) (e : Desk) (works : List Work)
    (word : Option (Option (Leader Fence))) : Prop where
  polite : answer.Polite
  sent : Sent works d e
  down : e.down = d.down
  news : News call d.number d.slot e.slot word
  tells : Tells d works word
  stayed : ∀ m ∈ d.listeners.members,
    m ∈ e.listeners.members ↔ call ≠ .remove d.number (.listener m.registration)
  came : ∀ m ∈ e.listeners.members, m ∈ d.listeners.members
  unjoined : ∀ l party, call = .start (.listener l) party → answer ≠ .done

structure Welcomed (m : Member Unit) (d e : Desk) : Prop where
  home : m.registration.home = d.number
  idle : m.id ∉ d.listeners.ids
  joined : ∀ n, n ∈ e.listeners.members ↔ n = m ∨ n ∈ d.listeners.members
  sent : Sent (d.slot.leader?.toList.map fun leader => .notify m (some leader)) d e
  slot : e.slot = d.slot
  up : e.down = false

inductive Misuse (d : Desk) : Call → Fault → Prop
  | twiceContender (c : Contender) (party : Nat) (home : c.home = d.number) (active : d.active c.id = true) :
      Misuse d (.start (.contender c) party) (twiceContender c.label)
  | twiceListener (l : Listener) (party : Nat) (home : l.home = d.number) (active : d.active l.id = true) :
      Misuse d (.start (.listener l) party) twiceListener
  | strangeContender (c : Contender) (foreign : c.home ≠ d.number) (active : d.active c.id = true) :
      Misuse d (.remove d.number (.contender c)) (strangeContender c.label)
  | strangeListener (l : Listener) (foreign : l.home ≠ d.number) (active : d.active l.id = true) :
      Misuse d (.remove d.number (.listener l)) strangeListener

inductive Reason (d : Desk) : Call → Fault → Prop
  | asked (cause : Fault) : Reason d (.shutDown d.number cause) cause
  | misuse (call : Call) (fault : Fault) (misuse : Misuse d call fault) : Reason d call (.fatal fault)

inductive Course (enrolled : List Handle) (call : Call) (d : Desk) : Answer × Desk → Prop
  | calm (answer : Answer) (e : Desk) (works : List Work) (word : Option (Option (Leader Fence)))
      (calm : Calm call d answer e works word) : Course enrolled call d (answer, e)
  | welcome (l : Listener) (party : Nat) (e : Desk) (asked : call = .start (.listener l) party)
      (welcomed : Welcomed ⟨l, party⟩ d e) : Course enrolled call d (.done, e)
  | closed (f : Desk) (cause : Fault) (alike : Alike d f) (kept : f.attempts = d.attempts)
      (up : d.down = false) (reason : Reason d call cause) :
      Course enrolled call d (call.setback, f.shutDown cause)
  | crash (why : Fault) (f : Desk) (sound : f.Sound enrolled) (up : f.down = false)
      (broken : Broken why d f) : Course enrolled call d (call.setback, f.fail why)

theorem Sound.shutDown_farewells (sound : f.Sound enrolled) (cause : Fault) (up : f.down = false) :
    ∃ fresh, (f.shutDown cause).attempts = f.attempts ++ fresh ∧ fresh.map Attempt.work = f.farewells cause := by
  obtain ⟨fresh, grown, works, _⟩ := (shutDown_closed f cause up sound.contenders_distinct).attempts
  refine ⟨fresh, grown, works.trans ?_⟩
  rw [Service.farewells]
  congr 1
  refine List.map_congr_left fun m member => ?_
  have own := sound.own_contender (Roster.ids_of_member f.contenders m member)
  have leading : f.leading m.id = decide (f.slot.holder? = some m.id) := by
    rw [Bool.eq_iff_iff, decide_eq_true_iff]
    exact sound.leading m.id own
  rw [leading]

theorem Sound.fail_farewells (sound : f.Sound enrolled) (why : Fault) (up : f.down = false) :
    ∃ fresh, (f.fail why).attempts = f.attempts ++ fresh ∧ fresh.map Attempt.work = f.farewells (.fatal why) :=
  (sound.alike (note_alike f (.fatal why))).shutDown_farewells (.fatal why) up

theorem Welcomed.unheard {m n : Member Unit} (welcomed : Welcomed m d e) (listed : n ∈ d.listeners.members) :
    (d.slot.leader?.toList.map fun leader => Work.notify m (some leader)).filterMap
      (Work.notice? n.registration) = [] := by
  have other : m.registration ≠ n.registration := by
    intro same
    have place : m.id = n.id := congrArg Registration.id same
    exact welcomed.idle (place ▸ Roster.ids_of_member d.listeners n listed)
  rw [List.filterMap_map]
  exact List.filterMap_eq_nil_iff.mpr fun leader _ => if_neg other

theorem Broken.kept {why : Fault} (broken : Broken why d f) (sound : f.Sound enrolled) (up : f.down = false) :
    ∃ fresh, (f.fail why).attempts = d.attempts ++ fresh ∧ ∃ a ∈ fresh, a.verdict = .reject why := by
  obtain ⟨new, last, grown, _, rejected, _⟩ := broken
  obtain ⟨bye, ended, _⟩ := sound.fail_farewells why up
  rw [grown, List.append_assoc] at ended
  exact ⟨_, ended, last, by simp, rejected⟩

theorem Calm.aside {answer : Answer} {word : Option (Option (Leader Fence))} (polite : answer.Polite)
    (aside : call.Aside) (listeners : e.listeners = d.listeners) (down : e.down = d.down) (sent : Sent works d e)
    (news : News call d.number d.slot e.slot word) (tells : Tells d works word) :
    Calm call d answer e works word := by
  refine ⟨polite, sent, down, news, tells, ?_, ?_, ?_⟩
  · intro m member
    rw [listeners]
    refine iff_of_true member ?_
    rintro rfl
    exact aside
  · intro m member
    exact listeners ▸ member
  · rintro l party rfl
    exact aside.elim

theorem course_idle (answer : Answer) (polite : answer.Polite) (alike : Alike d e) (kept : e.attempts = d.attempts)
    (unheard : ∀ m ∈ d.listeners.members, call ≠ .remove d.number (.listener m.registration))
    (unjoined : ∀ l party, call = .start (.listener l) party → answer ≠ .done) :
    Course enrolled call d (answer, e) := by
  refine .calm answer e [] none ⟨polite, .nothing kept, alike.down, ?_, tells_nothing d, ?_, ?_, unjoined⟩
  · rw [alike.slot]
    exact .same call d.number d.slot
  · intro m member
    exact iff_of_true (alike.listeners.symm ▸ member) (unheard m member)
  · intro m member
    exact alike.listeners ▸ member

theorem course_aside (answer : Answer) (polite : answer.Polite) (aside : call.Aside) (alike : Alike d e)
    (kept : e.attempts = d.attempts) : Course enrolled call d (answer, e) := by
  refine course_idle answer polite alike kept ?_ ?_
  · rintro m _ rfl
    exact aside
  · rintro l party rfl
    exact aside.elim

theorem course_misuse (fault : Fault) (up : d.down = false) (misuse : Misuse d call fault) :
    Course enrolled call d (call.setback, d.fail fault) :=
  .closed (d.note (.fatal fault)) (.fatal fault) (note_alike d _) rfl up (.misuse call fault misuse)

def conclude (good : Completion → Answer) (bad : Answer) :
    Except Fault Completion × Desk → Answer × Desk
  | (.ok c, d) => (good c, d)
  | (.error f, d) => (bad, d.fail f)

theorem ofUnit_settle (r : Except Fault Completion × Desk) :
    System.ofUnit (settle (plain r)) = conclude (fun _ => .done) (.fault .alreadyShutdown) r := by
  obtain ⟨result, e⟩ := r
  cases result <;> rfl

theorem ofCompletion_settle (r : Except Fault Completion × Desk) :
    System.ofCompletion (settle r) = conclude .completion (.fault .alreadyShutdown) r := by
  obtain ⟨result, e⟩ := r
  cases result <;> rfl

theorem done_settle (r : Except Fault Completion × Desk) :
    (.done, (settle r).2) = conclude (fun _ => .done) .done r := by
  obtain ⟨result, e⟩ := r
  cases result <;> rfl

theorem completion_signal (r : Except Fault Completion × Desk) :
    (.completion (signal r).1, (signal r).2) = conclude .completion (.completion .done) r := by
  obtain ⟨result, e⟩ := r
  cases result <;> rfl

theorem course_conclude (call : Call) {early : List Work} {r : Except Fault Completion × Desk}
    (good : Completion → Answer) (sound : f.Sound enrolled) (up : f.down = false) (sent : Sent early d f)
    (batch : Batch works f r)
    (calm : ∀ c e, Alike f e → Sent (early ++ works) d e → Course enrolled call d (good c, e)) :
    Course enrolled call d (conclude good call.setback r) := by
  cases batch with
  | sent c e alike late => exact calm c e alike (sent.trans late)
  | broken why e alike broken =>
    exact .crash why e (sound.alike alike) (alike.down.trans up) (sent.broken broken)

theorem shutDown_down (d : Desk) (cause : Fault) : (d.shutDown cause).down = true := by
  by_cases running : d.down = true
  · rw [shutDown, if_pos running]
    exact running
  · rw [shutDown, if_neg running]
    rfl

theorem course_polite {answer : Answer} (course : Course enrolled call d (answer, e)) : answer.Polite := by
  cases course with
  | calm _ _ works word calm => exact calm.polite
  | welcome => exact Answer.done_polite
  | closed | crash => exact call.setback_polite

section Election
variable (call : Call) {early : List Work} (sound : f.Sound enrolled) (up : f.down = false) (sent : Sent early d f)
  (quiet : ∀ w ∈ early, ∀ l, w.notice? l = none) (aside : call.Aside) (listeners : f.listeners = d.listeners)
  (down : f.down = d.down) (good : Completion → Answer) (polite : ∀ c, (good c).Polite)
include sound up sent quiet aside listeners down polite

theorem course_elect
    (news : ∀ works g, Elects f works g →
      ∃ word, News call d.number d.slot g.slot word ∧ Tells f works word) :
    Course enrolled call d (conclude good call.setback f.elect) := by
  obtain ⟨works, g, elects, batch⟩ := elect_batch f
  obtain ⟨word, spread, tells⟩ := news works g elects
  have opened : Sent early d g := by
    have nothing : Sent [] f g := .nothing elects.attempts
    exact List.append_nil early ▸ sent.trans nothing
  refine course_conclude call good (elects.sound sound up) (elects.down.trans up) opened batch ?_
  intro c e alike all
  have kept : e.listeners = d.listeners := (alike.listeners.trans elects.listeners).trans listeners
  have told : Tells d (early ++ works) word := by
    intro m member
    have none : early.filterMap (Work.notice? m.registration) = [] :=
      List.filterMap_eq_nil_iff.mpr fun w listed => quiet w listed m.registration
    rw [List.filterMap_append, none, List.nil_append]
    exact tells m (listeners ▸ member)
  rw [← alike.slot] at spread
  exact .calm _ e _ word (.aside (polite c) aside kept ((alike.down.trans elects.down).trans down) all spread told)

end Election

theorem Elects.news {works : List Work} {g : Desk} (elects : Elects f works g) (call : Call)
    (distinct : f.listeners.ids.Nodup) (slot : f.slot = d.slot) :
    ∃ word, News call d.number d.slot g.slot word ∧ Tells f works word := by
  rw [← slot]
  cases elects with
  | held occupied => exact ⟨none, .same call d.number f.slot, tells_nothing f⟩
  | nobody unconfirmed unproposed deserted =>
    exact ⟨some none, .vacancy (Slot.leader_of_unconfirmed f.slot unconfirmed) unproposed,
      tells_all f distinct none⟩
  | nominee m unconfirmed unproposed oldest =>
    have vacant := Slot.leader_of_unconfirmed f.slot unconfirmed
    have proposed : (f.put m).slot.leader? = none := Slot.leader_of_unconfirmed _ unconfirmed
    exact ⟨none, .silence (proposed.trans vacant.symm) (fun _ => rfl), (tells_nothing f).after _ fun _ => rfl⟩

theorem Elects.news_vacated {works : List Work} {g : Desk} (elects : Elects f works g) (sound : d.Sound enrolled)
    (distinct : f.listeners.ids.Nodup) (c : Contender) (home : c.home = d.number)
    (holder : d.slot.holder? = some c.id) (slot : f.slot = {}) :
    ∃ word, News (.remove d.number (.contender c)) d.number d.slot g.slot word ∧ Tells f works word := by
  cases elects with
  | held occupied => simp [slot] at occupied
  | nobody unconfirmed unproposed deserted =>
    exact ⟨some none, .vacancy (Slot.leader_of_unconfirmed f.slot unconfirmed) unproposed,
      tells_all f distinct none⟩
  | nominee m unconfirmed unproposed oldest =>
    have vacant : (f.put m).slot.leader? = none := Slot.leader_of_unconfirmed _ unconfirmed
    have quiet : Tells f [.grant m (.minted (f.minted + 1))] none := (tells_nothing f).after _ fun _ => rfl
    rcases (sound.slot.holder_iff c.id).mp holder with proposed | confirmed
    · have before : d.slot.leader? = none := by
        rcases sound.slot.exclusive with none | none
        · rw [none] at proposed
          cases proposed
        · exact Slot.leader_of_unconfirmed d.slot none
      exact ⟨none, .silence (vacant.trans before.symm) (fun _ => rfl), quiet⟩
    · exact ⟨none, .handover c rfl home confirmed vacant rfl, quiet⟩

theorem course_shutDown (cause : Fault) :
    Course enrolled (.shutDown d.number cause) d (.done, d.shutDown cause) := by
  by_cases running : d.down = true
  · have same : d.shutDown cause = d := if_pos running
    rw [same]
    exact course_aside _ Answer.done_polite trivial (Alike.refl d) rfl
  · exact .closed d cause (Alike.refl d) rfl (Bool.eq_false_iff.mpr running) (.asked cause)

section Operations
variable (sound : d.Sound enrolled)
include sound

theorem course_startContender (c : Contender) (party : Nat) (known : .contender c ∈ enrolled)
    (home : c.home = d.number) :
    Course enrolled (.start (.contender c) party) d (System.ofUnit (d.startContender c party)) := by
  by_cases running : d.down = true
  · rw [startContender, if_pos running]
    exact course_aside _ Answer.shutdown_polite trivial (Alike.refl d) rfl
  · have up : d.down = false := Bool.eq_false_iff.mpr running
    rw [startContender, if_neg running]
    cases joined : (if d.active c.id then none else d.contenders.add? ⟨c, party⟩) with
    | none =>
      refine course_misuse (twiceContender c.label) up (.twiceContender c party home ?_)
      cases active : d.active c.id with
      | true => rfl
      | false =>
        obtain ⟨contenders, added⟩ := sound.admits_contender c party ⟨.contender c, known, home, rfl⟩ active
        rw [active, if_neg Bool.false_ne_true, added] at joined
        cases joined
    | some contenders =>
      by_cases active : d.active c.id = true
      · rw [if_pos active] at joined
        cases joined
      · rw [if_neg active] at joined
        let e : Desk := { d with contenders := contenders }.setActive c.id true
        have entered : e.Sound enrolled :=
          sound_enter sound c party contenders known home up (Bool.eq_false_iff.mpr active) joined
        have noted := entered.alike (note_alike e (.registered c.label))
        simp only [ofUnit_settle]
        refine course_elect (d := d) (.start (.contender c) party) noted up (.nothing rfl) (by simp) trivial
          rfl rfl _ (fun _ => Answer.done_polite) ?_
        intro works g elects
        exact elects.news _ noted.listeners_distinct rfl

theorem course_removeContender (c : Contender)
    (alone : ∀ m ∈ d.contenders.members, m.id = c.id → m.registration = c)
    (registered : c.home = d.number → d.active c.id = true →
      ∃ m, d.contenders.get? c.id = some m ∧ m.registration = c) :
    Course enrolled (.remove d.number (.contender c)) d (.done, d.removeContender c) := by
  by_cases gone : d.active c.id = false ∨ d.down = true
  · rw [removeContender, if_pos gone]
    exact course_aside _ Answer.done_polite trivial (Alike.refl d) rfl
  · rw [removeContender, if_neg gone]
    simp only [not_or, Bool.not_eq_false, Bool.not_eq_true] at gone
    obtain ⟨active, up⟩ := gone
    cases removed : d.contenders.remove? c with
    | none =>
      refine course_misuse (strangeContender c.label) up (.strangeContender c ?_ active)
      intro home
      obtain ⟨m, held, same⟩ := registered home active
      exact Roster.remove_registered d.contenders c ⟨m, held, congrArg Registration.object same⟩ removed
    | some taken =>
      obtain ⟨m, contenders⟩ := taken
      obtain ⟨member, place, _⟩ := Roster.remove_cases d.contenders contenders c m removed
      have same := alone m member place
      have own := sound.own_contender (place ▸ Roster.ids_of_member d.contenders m member)
      have home : c.home = d.number := same ▸ (sound.contenders m member).2
      have slot := (withdraw_slot sound c contenders).1
      let e := (d.withdraw c contenders).note (.removed c.label (d.leading c.id))
      have withdrawn : e.Sound enrolled :=
        (sound_withdraw sound c m contenders up removed).alike (note_alike _ _)
      have kept : e.attempts = d.attempts ∧ e.listeners = d.listeners ∧ e.down = d.down := by
        simp only [e, note]
        rw [withdraw_rest]
        exact ⟨rfl, rfl, rfl⟩
      obtain ⟨attempts, listeners, down⟩ := kept
      by_cases leading : d.leading c.id = true
      · have holder := (sound.leading c.id own).mp leading
        rw [if_pos holder] at slot
        have batch := submit_batch e (.revoke m) id
        simp only [e, leading] at batch withdrawn attempts listeners down
        simp only [leading, if_true]
        generalize ((d.withdraw c contenders).note (.removed c.label true)).submit (.revoke m) = revoked at batch ⊢
        cases batch with
        | broken why g alike broken =>
          exact .crash why g (withdrawn.alike alike) ((alike.down.trans down).trans up)
            ((Sent.nothing attempts).broken broken)
        | sent one g alike sent =>
          have told : Sent [.revoke m] d g := (Sent.nothing attempts).trans sent
          have still := withdrawn.alike alike
          simp only [done_settle]
          refine course_elect (d := d) (.remove d.number (.contender c)) still
            ((alike.down.trans down).trans up) told ?_ trivial (alike.listeners.trans listeners)
            (alike.down.trans down) _ (fun _ => Answer.done_polite) ?_
          · intro w listed l
            rw [List.mem_singleton.mp listed]
            rfl
          · intro works h elects
            exact elects.news_vacated sound still.listeners_distinct c home holder (alike.slot.trans slot)
      · have following := mt (sound.leading c.id own).mpr leading
        rw [if_neg following] at slot
        simp only [leading, Bool.false_eq_true, if_false, done_settle]
        simp only [e, leading] at withdrawn attempts listeners down
        refine course_elect (d := d) (.remove d.number (.contender c)) withdrawn (down.trans up)
          (.nothing attempts) (by simp) trivial listeners down _ (fun _ => Answer.done_polite) ?_
        intro works h elects
        exact elects.news _ withdrawn.listeners_distinct slot

theorem course_grant (s : Nat) : Course enrolled (.grant s) d (System.ofCompletion d.grant) := by
  by_cases running : d.down = true
  · rw [grant, if_pos running]
    exact course_aside _ Answer.shutdown_polite trivial (Alike.refl d) rfl
  · have up : d.down = false := Bool.eq_false_iff.mpr running
    rw [grant, if_neg running, ofCompletion_settle]
    refine course_elect (d := d) (.grant s) sound up (.nothing rfl) (by simp) trivial rfl rfl _
      Answer.completion_polite ?_
    intro works g elects
    exact elects.news _ sound.listeners_distinct rfl

theorem course_revoke (s : Nat) : Course enrolled (.revoke s) d (System.ofCompletion d.revoke) := by
  by_cases running : d.down = true
  · rw [revoke, if_pos running]
    exact course_aside _ Answer.shutdown_polite trivial (Alike.refl d) rfl
  · have up : d.down = false := Bool.eq_false_iff.mpr running
    rw [revoke, if_neg running]
    cases holder : d.slot.holder? with
    | none => exact course_aside _ (Answer.completion_polite _) trivial (Alike.refl d) rfl
    | some id =>
      obtain ⟨m, found, _⟩ := Roster.get_of_ids d.contenders id (sound.seated id holder)
      have deposed := sound_depose sound id m up holder found
      have batch := submit_batch (d.depose m) (.revoke m) (fun farewell => farewell)
      simp only [found]
      generalize (d.depose m).submit (.revoke m) = revoked at batch ⊢
      cases batch with
      | broken why g alike broken =>
        exact .crash why g (deposed.alike alike) (alike.down.trans up) ((Sent.nothing rfl).broken broken)
      | sent one g alike sent =>
        have told : Sent [.revoke m] d g := (Sent.nothing rfl).trans sent
        have course : Course enrolled (.revoke s) d
            (conclude (fun told => .completion (one.merge told)) (.fault .alreadyShutdown)
              (g.announceAll none)) := by
          refine course_conclude (d := d) (.revoke s) _ (deposed.alike alike) (alike.down.trans up) told
            (announceAll_batch none g) ?_
          intro completion h quiet all
          have listeners : g.listeners = d.listeners := alike.listeners
          have vacant : h.slot.leader? = none ∧ h.slot.proposed = none := by
            rw [quiet.slot, alike.slot]
            exact ⟨rfl, rfl⟩
          have tells : Tells d (.revoke m :: g.listeners.members.map fun n => .notify n none) (some none) := by
            rw [listeners]
            exact (tells_all d sound.listeners_distinct none).after _ fun _ => rfl
          exact .calm _ h _ _ (.aside (Answer.completion_polite _) trivial (quiet.listeners.trans listeners)
            (quiet.down.trans alike.down) all (.vacancy vacant.1 vacant.2) tells)
        simp only
        generalize g.announceAll none = told at course ⊢
        obtain ⟨result, h⟩ := told
        cases result <;> exact course

theorem course_confirm (c : Contender) (token : Fence) (address : String) (now : Instant)
    (home : c.home = d.number) :
    Course enrolled (.confirm c token address now) d
      (.completion (d.confirm c token address now).1, (d.confirm c token address now).2) := by
  by_cases misfit : d.active c.id = false ∨ d.down = true ∨ d.slot.proposed ≠ some c.id ∨
      d.slot.token ≠ some token
  · obtain ⟨n, ignored⟩ := confirm_ignored d c token address now misfit
    rw [ignored]
    exact course_aside _ (Answer.completion_polite _) trivial (note_alike d n) rfl
  · simp only [not_or, Bool.not_eq_false, Bool.not_eq_true, ne_eq, Decidable.not_not] at misfit
    obtain ⟨active, up, proposed, current⟩ := misfit
    let e := (d.note (.confirmed c.label address token)).commit c address now
    have leads : e.slot.leader? = some ⟨address, token⟩ := leader_of_commit _ c token address now current
    have committed : e.Sound enrolled :=
      sound_commit (sound.alike (note_alike d _)) c token address now up proposed current
    rw [confirm_fits d c token address now up active proposed current, completion_signal]
    refine course_conclude (d := d) (.confirm c token address now) _ committed up (.nothing rfl)
      (announceAll_batch (some ⟨address, token⟩) e) ?_
    intro completion g alike sent
    have news : News (.confirm c token address now) d.number d.slot g.slot (some (some ⟨address, token⟩)) :=
      .leader c ⟨address, token⟩ now rfl home proposed current (alike.slot ▸ leads)
    exact .calm _ g _ _ (.aside (Answer.completion_polite _) trivial alike.listeners alike.down sent news
      (tells_all d sound.listeners_distinct _))

theorem course_startListener (l : Listener) (party : Nat) (home : l.home = d.number)
    (known : .listener l ∈ enrolled) :
    Course enrolled (.start (.listener l) party) d (System.ofUnit (d.startListener l party)) := by
  by_cases running : d.down = true
  · rw [startListener, if_pos running]
    exact course_idle _ Answer.shutdown_polite (Alike.refl d) rfl (fun _ _ same => by cases same)
      fun _ _ _ same => by cases same
  · have up : d.down = false := Bool.eq_false_iff.mpr running
    rw [startListener, if_neg running]
    cases joined : (if d.active l.id then none else d.listeners.add? ⟨l, party⟩) with
    | none =>
      refine course_misuse twiceListener up (.twiceListener l party home ?_)
      cases active : d.active l.id with
      | true => rfl
      | false =>
        obtain ⟨listeners, added⟩ := sound.admits_listener l party ⟨.listener l, known, home, rfl⟩ active
        rw [active, if_neg Bool.false_ne_true, added] at joined
        cases joined
    | some listeners =>
      by_cases active : d.active l.id = true
      · rw [if_pos active] at joined
        cases joined
      · rw [if_neg active] at joined
        have idle := (Roster.add_cases d.listeners listeners ⟨l, party⟩ joined).1
        have members (n : Member Unit) := Roster.mem_add d.listeners listeners ⟨l, party⟩ n joined
        let e : Desk := { d with listeners := listeners }.setActive l.id true
        have entered : e.Sound enrolled :=
          sound_listen sound l party listeners known home up (Bool.eq_false_iff.mpr active) joined
        cases leads : d.slot.leader? with
        | none =>
          have told : Sent (d.slot.leader?.toList.map fun leader => .notify ⟨l, party⟩ (some leader)) d e := by
            rw [leads]
            exact .nothing rfl
          simp only [setActive, leads]
          exact .welcome l party e rfl ⟨home, idle, members, told, rfl, up⟩
        | some leader =>
          simp only [setActive, leads, ofUnit_settle]
          refine course_conclude (d := d) (.start (.listener l) party) _ entered up (.nothing rfl)
            (submit_batch e (.notify ⟨l, party⟩ (some leader)) id) ?_
          intro completion g alike sent
          refine .welcome l party g rfl ⟨home, idle, ?_, ?_, alike.slot, alike.down.trans up⟩
          · intro n
            rw [alike.listeners]
            exact members n
          · rw [leads]
            exact sent

theorem course_removeListener (l : Listener)
    (alone : ∀ m ∈ d.listeners.members, m.id = l.id → m.registration = l)
    (registered : l.home = d.number → d.active l.id = true →
      ∃ m, d.listeners.get? l.id = some m ∧ m.registration = l) :
    Course enrolled (.remove d.number (.listener l)) d (.done, d.removeListener l) := by
  by_cases gone : d.active l.id = false ∨ d.down = true
  · rw [removeListener, if_pos gone]
    refine course_idle _ Answer.done_polite (Alike.refl d) rfl ?_ fun _ _ same => by cases same
    intro m member same
    cases same
    rcases gone with inactive | down
    · have listed := (mem_ids d m.id).mpr (.inr (Roster.ids_of_member d.listeners m member))
      cases inactive.symm.trans ((sound.active m.id (sound.own_ids listed)).mpr listed)
    · rw [(sound.down down).2.2] at member
      cases member
  · rw [removeListener, if_neg gone]
    simp only [not_or, Bool.not_eq_false, Bool.not_eq_true] at gone
    obtain ⟨active, up⟩ := gone
    cases removed : d.listeners.remove? l with
    | none =>
      refine course_misuse strangeListener up (.strangeListener l ?_ active)
      intro home
      obtain ⟨m, held, same⟩ := registered home active
      exact Roster.remove_registered d.listeners l ⟨m, held, congrArg Registration.object same⟩ removed
    | some taken =>
      obtain ⟨m, listeners⟩ := taken
      obtain ⟨member, place, _⟩ := Roster.remove_cases d.listeners listeners l m removed
      have same := alone m member place
      have members (n : Member Unit) := Roster.mem_remove d.listeners listeners l m n removed
      refine .calm _ _ [] none
        ⟨Answer.done_polite, .nothing rfl, rfl, .same _ d.number d.slot, tells_nothing d, ?_, ?_,
          fun _ _ same => by cases same⟩
      · intro n listed
        refine (members n).trans ((and_iff_right listed).trans (not_congr ?_))
        constructor
        · intro equal
          have one := Roster.member_unique d.listeners sound.listeners_distinct n m listed member (equal.trans place.symm)
          rw [one, same]
        · intro equal
          cases equal
          rfl
      · intro n listed
        exact ((members n).mp listed).1

end Operations

end Desk

namespace System
variable {sys : System} {call : Call} {calls : List Call}

theorem visit_course (s : Nat) (v : Service) (work : Desk → Answer × Desk)
    (found : sys.services[s]? = some v)
    (course : Desk.Course sys.enrolled call (sys.desk s v) (work (sys.desk s v))) :
    ∃ answer e, sys.visit s work = (answer, sys.store s e) ∧
      Desk.Course sys.enrolled call (sys.desk s v) (answer, e) := by
  refine ⟨(work (sys.desk s v)).1, (work (sys.desk s v)).2, ?_, course⟩
  rw [visit, found]

theorem act_course (sound : sys.Sound) (held : call.Held sys.enrolled) (s : Nat) (v : Service)
    (reached : call.service? = some s) (found : sys.services[s]? = some v) :
    ∃ answer e, sys.act call = (answer, sys.store s e) ∧
      Desk.Course sys.enrolled call (sys.desk s v) (answer, e) := by
  have desk := sound.desks s v found
  cases call with
  | launch | createContender | createListener => cases reached
  | start h party =>
    cases reached
    cases h with
    | contender c =>
      have course := Desk.course_startContender desk c party held rfl
      exact visit_course c.home v (fun d => ofUnit (d.startContender c party)) found course
    | listener l =>
      have course := Desk.course_startListener desk l party rfl held
      exact visit_course l.home v (fun d => ofUnit (d.startListener l party)) found course
  | remove s h =>
    cases reached
    cases h with
    | contender c =>
      refine visit_course s v (fun d => (.done, d.removeContender c)) found
        (Desk.course_removeContender desk c (sound.contender_alone held found) fun home active => ?_)
      have mine : c.home = s := home
      subst mine
      exact (sound.flagged c held v found).active.mp active
    | listener l =>
      refine visit_course s v (fun d => (.done, d.removeListener l)) found
        (Desk.course_removeListener desk l (sound.listener_alone held found) fun home active => ?_)
      have mine : l.home = s := home
      subst mine
      exact (sound.attentive l held v found).active.mp active
  | confirm c token address now =>
    cases reached
    have course := Desk.course_confirm desk c token address now rfl
    exact visit_course c.home v
      (fun d => (.completion (d.confirm c token address now).1, (d.confirm c token address now).2)) found course
  | grant s =>
    cases reached
    exact visit_course s v (fun d => ofCompletion d.grant) found (Desk.course_grant desk s)
  | revoke s =>
    cases reached
    exact visit_course s v (fun d => ofCompletion d.revoke) found (Desk.course_revoke desk s)
  | shutDown s cause =>
    cases reached
    exact visit_course s v (fun d => (.done, d.shutDown cause)) found
      (Desk.course_shutDown (d := sys.desk s v) cause)
  | replan s plan =>
    cases reached
    have course : Desk.Course sys.enrolled (.replan s plan) (sys.desk s v)
        (.done, { sys.desk s v with plan := plan }) :=
      Desk.course_aside .done Answer.done_polite trivial ⟨rfl, rfl, rfl, rfl, rfl, rfl, rfl, rfl, rfl⟩ rfl
    exact visit_course s v (fun d => (.done, { d with plan := plan })) found course

theorem visit_missing (s : Nat) (reached : call.service? = some s) (missing : sys.services[s]? = none) :
    (sys.act call).1 = .absent := by
  cases call with
  | launch | createContender | createListener => cases reached
  | start h party =>
    cases reached
    cases h with
    | contender c => simp only [act, visit, show sys.services[c.home]? = none from missing]
    | listener l => simp only [act, visit, show sys.services[l.home]? = none from missing]
  | remove s h =>
    cases reached
    cases h <;> simp only [act, visit, missing]
  | confirm | grant | revoke | shutDown | replan =>
    cases reached
    simp only [act, visit, missing]

theorem call_course (lawful : Lawful {} calls) (i : Nat) (call : Call) (here : calls[i]? = some call)
    (s : Nat) (v : Service) (reached : call.service? = some s) (found : (before calls i).services[s]? = some v) :
    ∃ answer e, (before calls i).apply call = (answer, (before calls i).cleared.store s e) ∧
      before calls (i + 1) = (before calls i).cleared.store s e ∧
      Desk.Course (before calls i).enrolled call ((before calls i).cleared.desk s v) (answer, e) := by
  have held := held_of_lawful calls {} lawful i call here
  obtain ⟨answer, e, acted, course⟩ := act_course (sound_before lawful i).cleared held s v reached found
  have applied : (before calls i).apply call = (answer, (before calls i).cleared.store s e) := acted
  refine ⟨answer, e, applied, ?_, course⟩
  rw [before_succ calls i call here, applied]

end System
end Leadership
