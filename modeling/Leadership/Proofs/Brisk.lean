import Leadership.Proofs.Containment
import Leadership.Proofs.Deed

set_option autoImplicit false

namespace Leadership.Scenario

mutual

-- Neither the step nor anything that comes of it makes a callback wait.
def Step.brisk : Step → Bool
  | .start _ scripts | .register _ _ _ scripts | .listen _ _ scripts => briskScripts scripts
  | _ => true

def briskScripts : Scripts Step → Bool
  | ⟨onGrant, onRevoke, onNotify, onError⟩ =>
    briskCalls onGrant && briskCalls onRevoke && briskCalls onNotify && briskHandlers onError

def briskCalls : List (List (Action Step)) → Bool
  | [] => true
  | script :: rest => briskScript script && briskCalls rest

def briskScript : List (Action Step) → Bool
  | [] => true
  | a :: rest => briskAction a && briskScript rest

def briskAction : Action Step → Bool
  | .gate => false
  | .yield n => n == 0
  | .perform steps => briskSteps steps
  | .fail _ | .burst _ => true

def briskHandlers : List (List (Action Step)) → Bool
  | [] => true
  | script :: rest => briskHandler script && briskHandlers rest

def briskHandler : List (Action Step) → Bool
  | [] => true
  | a :: rest => briskReaction a && briskHandler rest

def briskReaction : Action Step → Bool
  | .perform steps => briskSteps steps
  | _ => true

def briskSteps : List Step → Bool
  | [] => true
  | s :: ss => s.brisk && briskSteps ss

end

theorem brisk_append (ss more : List Step) : briskSteps (ss ++ more) = (briskSteps ss && briskSteps more) := by
  induction ss with
  | nil => rfl
  | cons s ss ih => rw [List.cons_append, briskSteps, briskSteps, ih, Bool.and_assoc]

theorem brisk_steps (script : List (Action Step)) (brisk : briskHandler script = true) :
    briskSteps (Action.steps script) = true := by
  induction script with
  | nil => rfl
  | cons a rest ih =>
    rw [briskHandler, Bool.and_eq_true] at brisk
    cases a with
    | perform ss => rw [Action.steps, brisk_append, ih brisk.2, Bool.and_true]; exact brisk.1
    | gate | yield | fail | burst => rfl

theorem brisk_brings (ss : List Step) (brisk : briskSteps ss = true) :
    ∀ scripts ∈ ss.flatMap Step.brings, briskScripts scripts = true := by
  induction ss with
  | nil =>
    intro scripts listed
    cases listed
  | cons s ss ih =>
    rw [briskSteps, Bool.and_eq_true] at brisk
    intro scripts listed
    rw [List.flatMap_cons, List.mem_append] at listed
    rcases listed with here | later
    · cases s with
      | start | register | listen =>
        rw [List.mem_singleton.mp here]
        exact brisk.1
      | _ => cases here
    · exact ih brisk.2 scripts later

theorem brisk_next (calls : List (List (Action Step))) (brisk : briskCalls calls = true) :
    briskScript (calls.headD []) = true ∧ briskCalls calls.tail = true := by
  cases calls with
  | nil => exact ⟨rfl, rfl⟩
  | cons script rest => exact Bool.and_eq_true_iff.mp brisk

theorem brisk_take (scripts : Scripts Step) (c : Callback) (brisk : briskScripts scripts = true) :
    briskScript (scripts.take c).1 = true ∧ briskScripts (scripts.take c).2 = true := by
  obtain ⟨onGrant, onRevoke, onNotify, onError⟩ := scripts
  simp only [briskScripts, Bool.and_eq_true] at brisk
  obtain ⟨⟨⟨grants, revokes⟩, notices⟩, errors⟩ := brisk
  have grant := brisk_next onGrant grants
  have revoke := brisk_next onRevoke revokes
  have notice := brisk_next onNotify notices
  cases c <;> simp_all [Scripts.take, briskScripts]

theorem brisk_takeError (scripts : Scripts Step) (brisk : briskScripts scripts = true) :
    briskSteps (Action.steps scripts.takeError.1) = true ∧ briskScripts scripts.takeError.2 = true := by
  obtain ⟨onGrant, onRevoke, onNotify, onError⟩ := scripts
  simp only [briskScripts, Bool.and_eq_true] at brisk
  obtain ⟨calls, errors⟩ := brisk
  cases onError with
  | nil => exact ⟨rfl, by simp [Scripts.takeError, briskScripts, calls, briskHandlers]⟩
  | cons script rest =>
    rw [briskHandlers, Bool.and_eq_true] at errors
    exact ⟨brisk_steps script errors.1, by simp [Scripts.takeError, briskScripts, calls, errors.2]⟩

theorem Progress.untried {name : String} {duties : List Duty} {own : List Turn} {agenda : List Item}
    (progress : Progress name duties own agenda) (untried : own = []) : agenda = duties.map .duty := by
  cases progress with
  | fresh => rfl
  | begun => cases untried

namespace Scene
variable {v w : Scene} {ts : List Turn} {brought : List (Scripts Step)}

def Brisk (w : Scene) : Prop := ∀ p ∈ w.parties, briskScripts p.scripts = true

theorem brisk_addParty (brisk : w.Brisk) (name : String) (scripts : Scripts Step)
    (each : briskScripts scripts = true) : (w.addParty name scripts).Brisk := by
  intro p present
  rcases List.mem_append.mp present with old | new
  · exact brisk p old
  · rw [List.mem_singleton.mp new]
    exact each

theorem brisk_deed (deed : Deed brought v w) (brisk : v.Brisk)
    (each : ∀ scripts ∈ brought, briskScripts scripts = true) : w.Brisk := by
  cases deed with
  | name | gate | release | run => exact brisk
  | party name scripts listed => exact brisk_addParty brisk name scripts (each scripts listed)
  | call c held inside =>
    rw [Brisk, call_parties]
    exact brisk
  | drop s place count =>
    obtain ⟨fates, same⟩ := settleAll_rest (takeUnits s place count v.floor).1
      { v with floor := (takeUnits s place count v.floor).2 }
    rw [same]
    exact brisk

theorem brisk_performAll (ss : List Step) (brisk : w.Brisk) (recorded : w.Recorded) (each : briskSteps ss = true) :
    (performAll ss w).2.Brisk :=
  (deeds_performAll ss recorded).preserve recorded brisk fun _ _ _ deed start =>
    brisk_deed deed start (brisk_brings ss each)

theorem brisk_setParty (brisk : w.Brisk) (party : Nat) (p : Party) (each : briskScripts p.scripts = true) :
    ∀ q ∈ w.parties.set party p, briskScripts q.scripts = true := by
  intro q present
  rcases List.mem_or_eq_of_mem_set present with old | rfl
  · exact brisk q old
  · exact each

theorem brisk_enter (brisk : w.Brisk) (party : Nat) (c : Callback) :
    briskScript (w.enter party c).1 = true ∧ (w.enter party c).2.Brisk := by
  cases found : w.parties[party]? with
  | none =>
    rw [enter, found]
    exact ⟨rfl, brisk⟩
  | some p =>
    have taken := brisk_take p.scripts c (brisk p (List.mem_of_getElem? found))
    have left := brisk_setParty brisk party { p with scripts := (p.scripts.take c).2 } taken.2
    rw [enter, found]
    cases c <;> exact ⟨taken.1, left⟩

theorem brisk_handle (brisk : w.Brisk) (recorded : w.Recorded) (party : Nat) (f : Fault) :
    (w.handle party f).Brisk := by
  cases found : w.parties[party]? with
  | none =>
    rw [handle, found]
    exact brisk
  | some p =>
    obtain ⟨each, left⟩ := brisk_takeError p.scripts (brisk p (List.mem_of_getElem? found))
    have told : (w.tell party p f).Brisk := brisk_setParty brisk party { p with scripts := p.scripts.takeError.2 } left
    have performed := brisk_performAll _ told (recorded.beside ⟨rfl, rfl, rfl⟩) each
    rw [handle, found]
    by_cases panics : Action.panics p.scripts.takeError.1 = true
    · simp only [panics, if_true]
      exact performed
    · simp only [panics, Bool.false_eq_true, if_false]
      exact performed

theorem act_brisk (name : String) (script : List (Action Step)) (brisk : w.Brisk) (recorded : w.Recorded)
    (each : briskScript script = true) :
    ((act name script w).1 = .returned ∨ ∃ failure, (act name script w).1 = .failed failure) ∧
      (act name script w).2.Brisk := by
  induction script generalizing w with
  | nil => exact ⟨.inl rfl, brisk⟩
  | cons a rest ih =>
    rw [briskScript, Bool.and_eq_true] at each
    obtain ⟨first, rest⟩ := each
    cases a with
    | gate => cases first
    | yield n =>
      cases n with
      | zero => exact ih brisk recorded rest
      | succ n => cases first
    | perform steps =>
      have performed := brisk_performAll steps brisk recorded first
      exact ih performed ((recorded_performAll steps w recorded).beside ⟨rfl, rfl, rfl⟩) rest
    | fail failure => exact ⟨.inr ⟨failure, rfl⟩, brisk⟩
    | burst payload => exact ⟨.inr ⟨.panicked payload, rfl⟩, brisk⟩

theorem follow_brisk (brisk : w.Brisk) (recorded : w.Recorded) (party : Nat) (c : Callback)
    (script : List (Action Step)) (each : briskScript script = true) :
    (w.follow party c script).1 = .passed ∧ (w.follow party c script).2.Brisk := by
  obtain ⟨halt, after⟩ := act_brisk (w.partyName party) script brisk recorded each
  have still := recorded_act (w.partyName party) script w recorded
  cases acted : act (w.partyName party) script w with
  | mk stop v =>
    rw [acted] at halt after still
    rw [follow, acted]
    rcases halt with rfl | ⟨failure, rfl⟩
    · exact ⟨rfl, after⟩
    · exact ⟨rfl, brisk_handle (w := v.note _) after (still.beside ⟨rfl, rfl, rfl⟩) party _⟩

theorem runItem_brisk (brisk : w.Brisk) (recorded : w.Recorded) (party : Nat) (d : Duty) :
    ((w.runItem party (.duty d)).1 = .passed ∨ (w.runItem party (.duty d)).1 = .burst) ∧
      (w.runItem party (.duty d)).2.Brisk := by
  cases d with
  | deliver f => exact ⟨.inl rfl, brisk_handle brisk recorded party f⟩
  | call c =>
    obtain ⟨each, after⟩ := brisk_enter brisk party c
    have still := recorded.beside (beside_enter w party c)
    simp only [runItem]
    split
    · rename_i entered
      rw [entered] at after
      exact ⟨.inr rfl, after⟩
    · rename_i entered
      rw [entered] at each after still
      obtain ⟨passed, followed⟩ := follow_brisk after still party c _ each
      exact ⟨.inl passed, followed⟩

theorem runAgenda_brisk (unit party : Nat) (worker : Option Nat) (duties : List Duty) (brisk : w.Brisk)
    (recorded : w.Recorded) :
    (runAgenda unit party worker (duties.map .duty) w).1.rest? = none ∧
      (runAgenda unit party worker (duties.map .duty) w).2.Brisk := by
  induction duties generalizing w with
  | nil => exact ⟨rfl, brisk⟩
  | cons d duties ih =>
    obtain ⟨stop, after⟩ := runItem_brisk brisk recorded party d
    have still := recorded_runItem w recorded party (.duty d)
    cases ran : w.runItem party (.duty d) with
    | mk stop' v =>
      rw [ran] at stop after still
      simp only [List.map_cons, runAgenda, ran]
      rcases stop with rfl | rfl
      · exact ih after still
      · cases worker with
        | none => exact ⟨rfl, after⟩
        | some s => exact ⟨rfl, after⟩

-- The scene comes to rest without anybody waiting in between: every unit ends in its first turn.
inductive Smooth : Scene → Prop
  | rested (w : Scene) (idle : w.floor.take? = none) : Smooth w
  | turn (w : Scene) (job : Job Routine) (floor : Floor Routine) (taken : w.floor.take? = some (job, floor))
      (ends : (w.turn job floor).Ends) (after : Smooth (w.turn job floor).finish) : Smooth w

def Unsuspended : List Step → Scene → Prop
  | [], _ => True
  | s :: ss, w => Smooth ({ w with events := [], notes := [] }.perform s).2 ∧ Unsuspended ss (w.step s).2

theorem Unsuspended.take {ss : List Step} (unsuspended : Unsuspended ss w) (n : Nat) :
    Unsuspended (ss.take n) w := by
  induction ss generalizing n w with
  | nil =>
    rw [List.take_nil]
    trivial
  | cons s ss ih =>
    cases n with
    | zero => trivial
    | succ n => exact ⟨unsuspended.1, ih unsuspended.2 n⟩

structure Fluent (w : Scene) : Prop where
  brisk : w.Brisk
  staged : ∃ ts, Staged w ts ∧ ∀ t ∈ ts, t.Ends

theorem turn_fluent {job : Job Routine} {floor : Floor Routine} (fluent : w.Fluent)
    (taken : w.floor.take? = some (job, floor)) : (w.turn job floor).Ends ∧ (w.turn job floor).finish.Fluent := by
  obtain ⟨brisk, ts, staged, ended⟩ := fluent
  obtain ⟨a, name, _, _, _, progress, _, _⟩ := (orderly_start (orderly_staged staged) taken).at_hand
  have untried : turnsOf job.routine.unit ts = [] := by
    apply List.eq_nil_iff_forall_not_mem.mpr
    intro t listed
    exact progress.unfinished ⟨t, listed, ended t (List.mem_filter.mp listed).1⟩
  have fresh := progress.untried untried
  have start : Recorded { w with floor := floor } := (recorded_staged staged).beside ⟨rfl, rfl, rfl⟩
  have ran := runAgenda_brisk job.routine.unit job.routine.party job.worker a.work.duties
    (w := { w with floor := floor }) brisk start
  rw [← fresh] at ran
  have ends : (w.turn job floor).Ends := ran.1
  constructor
  · exact ends
  · constructor
    · exact ran.2
    · exact ⟨_, .turn w ts staged job floor taken,
        List.forall_mem_append.mpr ⟨ended, List.forall_mem_singleton.mpr ends⟩⟩

theorem rest_fluent (fluent : w.Fluent) : Smooth w ∧ w.rest.Fluent := by
  fun_induction rest w with
  | case1 w next =>
    cases taken : w.floor.take? with
    | none => exact ⟨.rested w taken, fluent⟩
    | some front =>
      rw [turn_of_take taken] at next
      cases next
  | case2 w v next ih =>
    obtain ⟨job, floor, taken, rfl⟩ := turn_cases next
    obtain ⟨ends, after⟩ := turn_fluent fluent taken
    obtain ⟨smooth, rested⟩ := ih after
    exact ⟨.turn w job floor taken ends smooth, rested⟩

theorem perform_fluent (fluent : w.Fluent) (s : Step) (brisk : s.brisk = true) :
    Fluent ({ w with events := [], notes := [] }.perform s).2 := by
  obtain ⟨still, ts, staged, ended⟩ := fluent
  have start := Staged.report w ts staged
  constructor
  · have only : briskSteps [s] = true := by rw [briskSteps, brisk]; rfl
    exact brisk_performAll [s] (w := { w with events := [], notes := [] }) still (recorded_staged start) only
  · exact ⟨ts, .perform _ ts start s, ended⟩

theorem unsuspended_of_brisk (ss : List Step) (brisk : briskSteps ss = true) (fluent : w.Fluent) :
    Unsuspended ss w := by
  induction ss generalizing w with
  | nil => trivial
  | cons s ss ih =>
    rw [briskSteps, Bool.and_eq_true] at brisk
    obtain ⟨smooth, rested⟩ := rest_fluent (perform_fluent fluent s brisk.1)
    exact ⟨smooth, ih brisk.2 rested⟩

theorem fluent_start (clock : Nat → Instant) (host : Host) (plan : Plan) :
    Fluent (addService { clock := clock } host plan) := by
  constructor
  · intro p present
    cases present
  · exact ⟨[], .launch _ [] (.empty clock) host plan, fun t listed => by cases listed⟩

end Scene
end Leadership.Scenario
