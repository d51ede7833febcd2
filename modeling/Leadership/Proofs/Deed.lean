import Leadership.Proofs.Addressee
import Leadership.Proofs.Scenes

set_option autoImplicit false

namespace Leadership

def Call.Inside : Call → Prop
  | .launch _ => False
  | _ => True

namespace System

theorem visit_length (sys : System) (s : Nat) (work : Desk → Answer × Desk) :
    (sys.visit s work).2.services.length = sys.services.length := by
  cases found : sys.services[s]? with
  | none => rw [visit, found]
  | some v =>
    rw [visit, found]
    exact List.length_set

theorem enroll_length (sys : System) (s : Nat) (make : Nat → Handle) :
    (sys.enroll s make).2.services.length = sys.services.length := by
  cases found : sys.services[s]? with
  | none => rw [enroll, found]
  | some v =>
    by_cases down : v.down = true
    · simp only [enroll, found, down, if_true]
    · simp only [enroll, found, down, Bool.false_eq_true, if_false]

theorem apply_length (sys : System) (c : Call) (inside : c.Inside) :
    (sys.apply c).2.services.length = sys.services.length := by
  cases c with
  | launch => exact inside.elim
  | createContender | createListener => exact enroll_length _ _ _
  | start h party => cases h <;> exact visit_length _ _ _
  | remove s h => cases h <;> exact visit_length _ _ _
  | confirm | grant | revoke | shutDown | replan => exact visit_length _ _ _

end System

namespace Scenario

def Step.brings : Step → List (Scripts Step)
  | .start _ scripts | .register _ _ _ scripts | .listen _ _ scripts => [scripts]
  | _ => []

namespace Scene
variable {v w : Scene} {brought : List (Scripts Step)}

theorem fresh_service (w : Scene) (recorded : w.Recorded) (c : Call) (held : c.Held w.system.enrolled)
    (a : Attempt)
    (fresh : a ∈ (w.system.apply c).2.ledger.attempts.drop w.system.ledger.attempts.length) :
    a.service < w.system.services.length := by
  have lawful := (recorded_call w recorded c held).lawful
  rw [call_history] at lawful
  have here : (w.history ++ [c])[w.history.length]? = some c := List.getElem?_concat_length
  have start : System.before (w.history ++ [c]) w.history.length = w.system := by
    rw [System.before_append _ _ _ (Nat.le_refl _), System.before_all, ← recorded.system]
  have next : System.before (w.history ++ [c]) (w.history.length + 1) = (w.system.apply c).2 := by
    rw [System.before_succ _ _ c here, start]
  have submitted : a ∈ System.submitted (w.history ++ [c]) w.history.length := by
    rw [System.submitted, next, start]
    exact fresh
  obtain ⟨x, made⟩ := System.made_of_submitted _ a submitted
  obtain ⟨_, v, _, _, _, found, _⟩ := System.visit_of_made lawful _ x a made
  rw [start] at found
  exact (List.getElem?_eq_some_iff.mp found).1

-- One deed of a step, if these are the scripts that it can bring along.
inductive Deed (brought : List (Scripts Step)) : Scene → Scene → Prop
  | name (w : Scene) (handles : List (String × Handle)) (kept : List (String × Kept)) (doors : List Nat)
      (known : ∀ p ∈ handles, p.2 ∈ w.system.enrolled) :
      Deed brought w { w with handles := handles, kept := kept, doors := doors }
  | gate (w : Scene) (name : String) : Deed brought w { w with floor := w.floor.makeGate name }
  | release (w : Scene) (name : String) : Deed brought w { w with floor := w.floor.release name }
  | party (w : Scene) (name : String) (scripts : Scripts Step) (listed : scripts ∈ brought) :
      Deed brought w (w.addParty name scripts)
  | call (w : Scene) (c : Call) (held : c.Held w.system.enrolled) (inside : c.Inside) : Deed brought w (w.call c).2
  | run (w : Scene) (s place count : Nat) :
      Deed brought w { w with
        floor := (takeUnits s place count w.floor).1.foldl Floor.spawn (takeUnits s place count w.floor).2 }
  | drop (w : Scene) (s place count : Nat) :
      Deed brought w ((takeUnits s place count w.floor).1.foldl (fun w r => w.settle r.unit .dropped)
        { w with floor := (takeUnits s place count w.floor).2 })

abbrev Deeds (brought : List (Scripts Step)) : Scene → Scene → Prop := Relation.ReflTransGen (Deed brought)

theorem Deed.widen {more : List (Scripts Step)} (deed : Deed brought v w) (within : brought ⊆ more) :
    Deed more v w := by
  cases deed with
  | name handles kept doors known => exact .name v handles kept doors known
  | gate name => exact .gate v name
  | release name => exact .release v name
  | party name scripts listed => exact .party v name scripts (within listed)
  | call c held inside => exact .call v c held inside
  | run s place count => exact .run v s place count
  | drop s place count => exact .drop v s place count

theorem Deeds.widen {more : List (Scripts Step)} (deeds : Deeds brought v w) (within : brought ⊆ more) :
    Deeds more v w :=
  Relation.ReflTransGen.mono (fun _ _ (deed : Deed brought _ _) => deed.widen within) _ _ deeds

theorem recorded_deed (deed : Deed brought v w) (recorded : v.Recorded) : w.Recorded := by
  cases deed with
  | name handles kept doors known => exact ⟨recorded.lawful, recorded.system, known, recorded.answers⟩
  | gate | release | run => exact recorded.beside ⟨rfl, rfl, rfl⟩
  | party name scripts => exact recorded_addParty v recorded name scripts
  | call c held => exact recorded_call v recorded c held
  | drop s place count =>
    have taken : Recorded { v with floor := (takeUnits s place count v.floor).2 } := recorded.beside ⟨rfl, rfl, rfl⟩
    exact taken.beside (beside_settleAll _ _)

theorem recorded_deeds (deeds : Deeds brought v w) (recorded : v.Recorded) : w.Recorded := by
  induction deeds with
  | refl => exact recorded
  | tail _ deed ih => exact recorded_deed deed ih

theorem Deeds.preserve {P : Scene → Prop} (deeds : Deeds brought v w) (recorded : v.Recorded) (start : P v)
    (each : ∀ v w, v.Recorded → Deed brought v w → P v → P w) : P w := by
  induction deeds with
  | refl => exact start
  | tail before deed ih => exact each _ _ (recorded_deeds before recorded) deed ih

theorem deeds_rebind (recorded : w.Recorded) (name : String) (h : Handle) (known : h ∈ w.system.enrolled) :
    Deeds brought w { w with handles := rebind name h w.handles } :=
  .single (.name w _ w.kept w.doors (recorded.rebind name h known).handles)

theorem deeds_kept (recorded : w.Recorded) (kept : List (String × Kept)) : Deeds brought w { w with kept := kept } :=
  .single (.name w w.handles kept w.doors recorded.handles)

theorem deeds_deliver (recorded : w.Recorded) (c : Completion) (keep : Option String) :
    Deeds brought w (w.deliver c keep).2 := by
  cases keep with
  | none => exact .refl
  | some name => exact deeds_kept recorded _

theorem deeds_answer (recorded : w.Recorded) (keep : Option String) (a : Answer) :
    Deeds brought w (w.answer keep a).2 := by
  cases a with
  | completion c => exact deeds_deliver recorded c keep
  | _ => exact .refl

theorem deeds_call (recorded : w.Recorded) (c : Call) (keep : Option String) (held : c.Held w.system.enrolled)
    (inside : c.Inside) : Deeds brought w ((w.call c).2.answer keep (w.call c).1).2 :=
  .trans (.single (.call w c held inside)) (deeds_answer (recorded_call w recorded c held) keep _)

theorem deeds_create (recorded : w.Recorded) (as : String) (c : Call) (makes : Makes c)
    (held : c.Held w.system.enrolled) (inside : c.Inside) : Deeds brought w (w.create as c).2 := by
  have one : Deeds brought w (w.call c).2 := .single (.call w c held inside)
  have after := recorded_call w recorded c held
  have known := known_of_answer w c makes
  cases called : w.call c with
  | mk a v =>
    rw [called] at one after known
    simp only [create, called]
    cases a with
    | handle h => exact one.trans (deeds_rebind after as h (known h rfl))
    | _ => exact one.trans (deeds_answer after none _)

theorem deeds_join (recorded : w.Recorded) (as : String) (scripts : Scripts Step) (listed : scripts ∈ brought)
    (c : Call) (makes : Makes c) (held : c.Held w.system.enrolled) (inside : c.Inside) :
    Deeds brought w (w.join as scripts c).2 := by
  have joined := recorded_addParty w recorded as scripts
  have one : Deeds brought w ((w.addParty as scripts).call c).2 :=
    .tail (.single (.party w as scripts listed)) (.call _ c held inside)
  have after := recorded_call _ joined c held
  have known := known_of_answer (w.addParty as scripts) c makes
  cases called : (w.addParty as scripts).call c with
  | mk a v =>
    rw [called] at one after known
    simp only [join, called]
    cases a with
    | handle h =>
      have registered := known h rfl
      have two : Deeds brought w (v.call (.start h w.parties.length)).2 := one.tail (.call v _ registered trivial)
      have started := recorded_call v after (.start h w.parties.length) registered
      have kept := call_system v (.start h w.parties.length)
      cases called' : v.call (.start h w.parties.length) with
      | mk b u =>
        rw [called'] at two started kept
        simp only [called']
        cases b with
        | done =>
          have grown := System.takes_enrolled (System.apply_takes after.sound (.start h w.parties.length))
          exact two.trans (deeds_rebind started as h (kept ▸ grown.subset registered))
        | _ => exact two.trans (deeds_answer started none _)
    | _ => exact one.trans (deeds_answer after none _)

theorem deeds_withService (door : Nat) (act : Nat → Result × Scene) (each : ∀ s, Deeds brought w (act s).2) :
    Deeds brought w (w.withService door act).2 := by
  cases found : w.doors[door]? with
  | none =>
    rw [withService, found]
  | some s =>
    rw [withService, found]
    exact each s

theorem deeds_withHandle (recorded : w.Recorded) (name : String) (act : Handle → Result × Scene)
    (each : ∀ h ∈ w.system.enrolled, Deeds brought w (act h).2) : Deeds brought w (w.withHandle name act).2 := by
  cases found : w.handles.lookup name with
  | none =>
    rw [withHandle, found]
  | some h =>
    rw [withHandle, found]
    obtain ⟨newer, older, split, _⟩ := List.lookup_eq_some_iff.mp found
    exact each h (recorded.handles (name, h) (by simp [split]))

theorem deeds_withContender (recorded : w.Recorded) (name : String) (act : Contender → Result × Scene)
    (each : ∀ c, .contender c ∈ w.system.enrolled → Deeds brought w (act c).2) :
    Deeds brought w (w.withContender name act).2 := by
  apply deeds_withHandle recorded
  intro h known
  cases h with
  | contender c => exact each c known
  | listener l => exact .refl

theorem deeds_withHost (door : Nat) (act : Nat → Host → Result × Scene)
    (each : ∀ s host, Deeds brought w (act s host).2) : Deeds brought w (w.withHost door act).2 := by
  apply deeds_withService
  intro s
  cases w.hosts[s]? with
  | none => exact .refl
  | some host =>
    by_cases accessible : host.accessible = true
    · simp only [accessible, if_true]
      exact each s host
    · simp only [accessible, Bool.false_eq_true, if_false]
      exact .refl

theorem deeds_merge (recorded : w.Recorded) (first second : String) (keep : Option String) :
    Deeds brought w (w.mergeKept first second keep).2 := by
  have unbound : Recorded { w with kept := unbind first (unbind second w.kept) } := recorded.beside ⟨rfl, rfl, rfl⟩
  unfold mergeKept
  split
  · split
    · exact .trans (deeds_kept recorded _) (deeds_deliver unbound _ keep)
    · exact .refl
  · exact .refl

theorem deeds_wait (recorded : w.Recorded) (name : String) : Deeds brought w (w.wait name).2 := by
  cases kept : w.kept.lookup name with
  | none =>
    rw [wait, kept]
  | some k =>
    rw [wait, kept]
    exact deeds_kept recorded _

theorem deeds_perform (recorded : w.Recorded) (s : Step) : Deeds s.brings w (w.perform s).2 := by
  cases s with
  | createContender door component as =>
    exact deeds_withService door _ fun s => deeds_create recorded as _ (makes_contender s component) trivial trivial
  | createListener door as =>
    exact deeds_withService door _ fun s => deeds_create recorded as _ (makes_listener s) trivial trivial
  | start name scripts =>
    apply deeds_withHandle recorded
    intro h known
    have joined := recorded_addParty w recorded name scripts
    exact .head (.party w name scripts List.mem_cons_self)
      (deeds_call joined (.start h w.parties.length) none known trivial)
  | register door component as scripts =>
    apply deeds_withService
    intro s
    exact deeds_join recorded as scripts List.mem_cons_self _ (makes_contender s component) trivial trivial
  | listen door as scripts =>
    apply deeds_withService
    intro s
    exact deeds_join recorded as scripts List.mem_cons_self _ (makes_listener s) trivial trivial
  | close name => exact deeds_withHandle recorded name _ fun h known => deeds_call recorded _ none known trivial
  | deregister name door =>
    apply deeds_withHandle recorded
    intro h known
    exact deeds_withService door _ fun s => deeds_call recorded (.remove s h) none known trivial
  | confirm name token address keep =>
    apply deeds_withContender recorded
    intro c known
    exact deeds_call recorded (.confirm c _ address (w.clock w.calls.length)) keep known trivial
  | hasLeadership name token => exact deeds_withContender recorded name _ fun c _ => .refl
  | info name => exact deeds_withHandle recorded name _ fun h _ => .refl
  | clone name as =>
    apply deeds_withHandle recorded
    intro h known
    exact (deeds_rebind recorded as h known).tail (.gate _ as)
  | grant door keep => exact deeds_withService door _ fun s => deeds_call recorded (.grant s) keep trivial trivial
  | revoke door keep => exact deeds_withService door _ fun s => deeds_call recorded (.revoke s) keep trivial trivial
  | shutDown door cause =>
    exact deeds_withService door _ fun s => deeds_call recorded (.shutDown s cause) none trivial trivial
  | isShutDown door => exact deeds_withService door _ fun s => .refl
  | currentToken door => exact deeds_withService door _ fun s => .refl
  | cloneService door =>
    exact deeds_withService door _ fun s => .single (.name w w.handles w.kept _ recorded.handles)
  | plan door text => exact deeds_withHost door _ fun s host => deeds_call recorded (.replan s _) none trivial trivial
  | run door count place => exact deeds_withHost door _ fun s host => .single (.run w s place count)
  | drop door count place => exact deeds_withHost door _ fun s host => .single (.drop w s place count)
  | release name =>
    by_cases gated : w.floor.hasGate name = true
    · rw [perform, if_pos gated]
      exact .single (.release w name)
    · rw [perform, if_neg gated]
  | done keep => exact deeds_deliver recorded .done keep
  | merge first second keep => exact deeds_merge recorded first second keep
  | wait name => exact deeds_wait recorded name

theorem deeds_performAll (ss : List Step) (recorded : w.Recorded) :
    Deeds (ss.flatMap Step.brings) w (performAll ss w).2 := by
  induction ss generalizing w with
  | nil => exact .refl
  | cons s ss ih =>
    have first := (deeds_perform recorded s).widen (List.subset_append_left s.brings (ss.flatMap Step.brings))
    have rest := (ih (recorded_perform w recorded s)).widen (List.subset_append_right s.brings _)
    exact first.trans rest

end Scene
end Scenario
end Leadership
