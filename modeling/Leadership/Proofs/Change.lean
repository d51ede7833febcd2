import Leadership.Proofs.Floor
import Leadership.Proofs.Scenes

set_option autoImplicit false

namespace Leadership.Scenario.Scene

-- Names, notes, gates and what is left of the scripts may differ, and the order in which units wait.
structure Aside (v w : Scene) : Prop where
  system : w.system = v.system
  calls : w.calls = v.calls
  fates : w.fates = v.fates
  holds : w.floor.holds = v.floor.holds
  names : w.parties.map Party.name = v.parties.map Party.name

def Seated (w : Scene) : Call → Prop
  | .start _ party => party < w.parties.length
  | _ => True

inductive Change : Scene → Scene → Prop
  | aside (v w : Scene) (aside : Aside v w) : Change v w
  | party (w : Scene) (name : String) (scripts : Scripts Step) : Change w (w.addParty name scripts)
  | call (w : Scene) (c : Call) (held : c.Held w.system.enrolled) (seated : w.Seated c) : Change w (w.call c).2
  | lose (w : Scene) (rs : List Routine) (floor : Floor Routine)
      (taken : w.floor.holds = (rs : Multiset Routine) + floor.holds) :
      Change w (rs.foldl (fun w r => w.settle r.unit .dropped) { w with floor := floor })

abbrev Changes : Scene → Scene → Prop := Relation.ReflTransGen Change

structure Quiet (v w : Scene) : Prop where
  changes : Changes v w
  events : w.events = v.events

theorem Quiet.refl (w : Scene) : Quiet w w := ⟨.refl, rfl⟩

theorem Quiet.trans {u v w : Scene} (first : Quiet u v) (second : Quiet v w) : Quiet u w :=
  ⟨first.changes.trans second.changes, second.events.trans first.events⟩

theorem Aside.quiet {v w : Scene} (aside : Aside v w) (events : w.events = v.events) : Quiet v w :=
  ⟨.single (.aside v w aside), events⟩

theorem dispatch_rest (w : Scene) (a : Attempt × Nat) :
    ∃ floor fates, w.dispatch a = { w with floor := floor, fates := fates } := by
  obtain ⟨a, unit⟩ := a
  simp only [dispatch]
  split
  · exact ⟨w.floor, w.fates, rfl⟩
  · exact ⟨w.floor, _, rfl⟩
  · split <;> exact ⟨_, w.fates, rfl⟩

theorem dispatchAll_rest (as : List (Attempt × Nat)) (w : Scene) :
    ∃ floor fates, as.foldl dispatch w = { w with floor := floor, fates := fates } := by
  induction as generalizing w with
  | nil => exact ⟨w.floor, w.fates, rfl⟩
  | cons a as ih =>
    obtain ⟨floor, fates, first⟩ := dispatch_rest w a
    obtain ⟨floor', fates', rest⟩ := ih (w.dispatch a)
    refine ⟨floor', fates', ?_⟩
    rw [List.foldl_cons, rest, first]

theorem call_rest (w : Scene) (c : Call) :
    ∃ floor fates, (w.call c).2 = { w with
      system := (w.system.apply c).2
      notes := w.notes ++ (w.system.apply c).2.ledger.notes
      calls := w.calls ++ [(c, (w.system.apply c).1)]
      floor := floor
      fates := fates } :=
  dispatchAll_rest _ _

theorem call_events (w : Scene) (c : Call) : (w.call c).2.events = w.events := by
  obtain ⟨floor, fates, same⟩ := call_rest w c
  rw [same]

theorem call_parties (w : Scene) (c : Call) : (w.call c).2.parties = w.parties := by
  obtain ⟨floor, fates, same⟩ := call_rest w c
  rw [same]

theorem settleAll_rest (rs : List Routine) (w : Scene) :
    ∃ fates, rs.foldl (fun w r => w.settle r.unit .dropped) w = { w with fates := fates } := by
  induction rs generalizing w with
  | nil => exact ⟨w.fates, rfl⟩
  | cons r rs ih =>
    obtain ⟨fates, rest⟩ := ih (w.settle r.unit .dropped)
    exact ⟨fates, rest⟩

theorem quiet_call (w : Scene) (c : Call) (held : c.Held w.system.enrolled) (seated : w.Seated c) :
    Quiet w (w.call c).2 :=
  ⟨.single (.call w c held seated), call_events w c⟩

theorem quiet_addParty (w : Scene) (name : String) (scripts : Scripts Step) : Quiet w (w.addParty name scripts) :=
  ⟨.single (.party w name scripts), rfl⟩

theorem quiet_deliver (w : Scene) (c : Completion) (keep : Option String) : Quiet w (w.deliver c keep).2 := by
  cases keep with
  | none => exact Quiet.refl w
  | some name => exact Aside.quiet ⟨rfl, rfl, rfl, rfl, rfl⟩ rfl

theorem quiet_answer (w : Scene) (keep : Option String) (a : Answer) : Quiet w (w.answer keep a).2 := by
  cases a with
  | completion c => exact quiet_deliver w c keep
  | _ => exact Quiet.refl w

theorem quiet_plainly (w : Scene) (c : Call) (held : c.Held w.system.enrolled) (seated : w.Seated c) :
    Quiet w (w.plainly c).2 :=
  (quiet_call w c held seated).trans (quiet_answer _ none _)

theorem quiet_rebind (w : Scene) (name : String) (h : Handle) :
    Quiet w { w with handles := rebind name h w.handles } :=
  Aside.quiet ⟨rfl, rfl, rfl, rfl, rfl⟩ rfl

theorem quiet_create (w : Scene) (as : String) (c : Call) (held : c.Held w.system.enrolled) (seated : w.Seated c) :
    Quiet w (w.create as c).2 := by
  have after := quiet_call w c held seated
  cases called : w.call c with
  | mk a v =>
    rw [called] at after
    simp only [create, called]
    cases a with
    | handle h => exact after.trans (quiet_rebind v as h)
    | _ => exact after.trans (quiet_answer v none _)

theorem quiet_join (w : Scene) (as : String) (scripts : Scripts Step) (c : Call) (makes : Makes c)
    (held : c.Held w.system.enrolled) (seated : (w.addParty as scripts).Seated c) :
    Quiet w (w.join as scripts c).2 := by
  have joined := quiet_addParty w as scripts
  have after := joined.trans (quiet_call (w.addParty as scripts) c held seated)
  have known := known_of_answer (w.addParty as scripts) c makes
  have parties := call_parties (w.addParty as scripts) c
  cases called : (w.addParty as scripts).call c with
  | mk a v =>
    rw [called] at after known parties
    simp only [join, called]
    cases a with
    | handle h =>
      have room : v.Seated (.start h w.parties.length) := by
        have longer : v.parties = w.parties ++ [⟨as, scripts⟩] := parties
        simp [Seated, longer]
      have started := after.trans (quiet_call v (.start h w.parties.length) (known h rfl) room)
      cases called' : v.call (.start h w.parties.length) with
      | mk b u =>
        rw [called'] at started
        simp only [called']
        cases b with
        | done => exact started.trans (quiet_rebind u as h)
        | _ => exact started.trans (quiet_answer u none _)
    | _ => exact after.trans (quiet_answer v none _)

theorem quiet_withService (w : Scene) (door : Nat) (act : Nat → Result × Scene)
    (each : ∀ s, Quiet w (act s).2) : Quiet w (w.withService door act).2 := by
  cases found : w.doors[door]? with
  | none =>
    rw [withService, found]
    exact Quiet.refl w
  | some s =>
    rw [withService, found]
    exact each s

theorem quiet_withHandle (w : Scene) (recorded : w.Recorded) (name : String) (act : Handle → Result × Scene)
    (each : ∀ h ∈ w.system.enrolled, Quiet w (act h).2) : Quiet w (w.withHandle name act).2 := by
  cases found : w.handles.lookup name with
  | none =>
    rw [withHandle, found]
    exact Quiet.refl w
  | some h =>
    rw [withHandle, found]
    obtain ⟨newer, older, split, _⟩ := List.lookup_eq_some_iff.mp found
    exact each h (recorded.handles (name, h) (by simp [split]))

theorem quiet_withContender (w : Scene) (recorded : w.Recorded) (name : String)
    (act : Contender → Result × Scene) (each : ∀ c, .contender c ∈ w.system.enrolled → Quiet w (act c).2) :
    Quiet w (w.withContender name act).2 := by
  refine quiet_withHandle w recorded name _ fun h known => ?_
  cases h with
  | contender c => exact each c known
  | listener l => exact Quiet.refl w

theorem quiet_withHost (w : Scene) (door : Nat) (act : Nat → Host → Result × Scene)
    (each : ∀ s host, Quiet w (act s host).2) : Quiet w (w.withHost door act).2 := by
  refine quiet_withService w door _ fun s => ?_
  cases w.hosts[s]? with
  | none => exact Quiet.refl w
  | some host =>
    by_cases accessible : host.accessible = true
    · simp only [accessible, if_true]
      exact each s host
    · simp only [accessible, Bool.false_eq_true, if_false]
      exact Quiet.refl w

theorem quiet_merge (w : Scene) (first second : String) (keep : Option String) :
    Quiet w (w.mergeKept first second keep).2 := by
  have unbound : Quiet w { w with kept := unbind first (unbind second w.kept) } :=
    Aside.quiet ⟨rfl, rfl, rfl, rfl, rfl⟩ rfl
  unfold mergeKept
  split
  · split
    · exact unbound.trans (quiet_deliver _ _ keep)
    · exact Quiet.refl w
  · exact Quiet.refl w

theorem quiet_wait (w : Scene) (name : String) : Quiet w (w.wait name).2 := by
  cases kept : w.kept.lookup name with
  | none =>
    rw [wait, kept]
    exact Quiet.refl w
  | some k =>
    rw [wait, kept]
    exact Aside.quiet ⟨rfl, rfl, rfl, rfl, rfl⟩ rfl

theorem takeUnits_holds (s place count : Nat) (f : Floor Routine) :
    f.holds = ((takeUnits s place count f).1 : Multiset Routine) + (takeUnits s place count f).2.holds := by
  induction count generalizing f with
  | zero => exact (zero_add _).symm
  | succ count ih =>
    cases taken : f.takeShelved s place with
    | none =>
      rw [takeUnits, taken]
      exact (zero_add _).symm
    | some pair =>
      obtain ⟨r, g⟩ := pair
      rw [takeUnits, taken, Floor.holds_takeShelved s taken, ih g, ← Multiset.cons_coe, Multiset.cons_add]

theorem spawnAll_holds (rs : List Routine) (f : Floor Routine) :
    (rs.foldl Floor.spawn f).holds = (rs : Multiset Routine) + f.holds := by
  induction rs generalizing f with
  | nil => exact (zero_add _).symm
  | cons r rs ih =>
    rw [List.foldl_cons, ih, Floor.holds_spawn, ← Multiset.cons_coe, Multiset.cons_add, Multiset.add_cons]

theorem quiet_run (w : Scene) (s place count : Nat) (taken : List Routine) (floor : Floor Routine)
    (units : takeUnits s place count w.floor = (taken, floor)) :
    Quiet w { w with floor := taken.foldl Floor.spawn floor } := by
  have kept := takeUnits_holds s place count w.floor
  rw [units] at kept
  exact Aside.quiet ⟨rfl, rfl, rfl, (spawnAll_holds taken floor).trans kept.symm, rfl⟩ rfl

theorem quiet_drop (w : Scene) (s place count : Nat) (taken : List Routine) (floor : Floor Routine)
    (units : takeUnits s place count w.floor = (taken, floor)) :
    Quiet w (taken.foldl (fun w r => w.settle r.unit .dropped) { w with floor := floor }) := by
  have kept := takeUnits_holds s place count w.floor
  rw [units] at kept
  obtain ⟨fates, same⟩ := settleAll_rest taken { w with floor := floor }
  exact ⟨.single (.lose w taken floor kept), by rw [same]⟩

theorem quiet_perform (w : Scene) (recorded : w.Recorded) (s : Step) : Quiet w (w.perform s).2 := by
  cases s with
  | createContender door component as =>
    exact quiet_withService w door _ fun s => quiet_create w as _ trivial trivial
  | createListener door as =>
    exact quiet_withService w door _ fun s => quiet_create w as _ trivial trivial
  | start name scripts =>
    refine quiet_withHandle w recorded name _ fun h known => ?_
    have room : (w.addParty name scripts).Seated (.start h w.parties.length) := by
      simp [Seated, addParty]
    exact (quiet_addParty w name scripts).trans (quiet_plainly _ _ known room)
  | register door component as scripts =>
    refine quiet_withService w door _ fun s => ?_
    exact quiet_join w as scripts _ (makes_contender s component) trivial trivial
  | listen door as scripts =>
    refine quiet_withService w door _ fun s => ?_
    exact quiet_join w as scripts _ (makes_listener s) trivial trivial
  | close name =>
    refine quiet_withHandle w recorded name _ fun h known => ?_
    exact quiet_plainly w (.remove h.home h) known trivial
  | deregister name door =>
    refine quiet_withHandle w recorded name _ fun h known => ?_
    exact quiet_withService w door _ fun s => quiet_plainly w (.remove s h) known trivial
  | confirm name token address keep =>
    refine quiet_withContender w recorded name _ fun c known => ?_
    have called := quiet_call w (.confirm c (w.token name c.home token) address (w.clock w.calls.length)) known
      trivial
    exact called.trans (quiet_answer _ keep _)
  | hasLeadership name token => exact quiet_withContender w recorded name _ fun c _ => Quiet.refl w
  | info name => exact quiet_withHandle w recorded name _ fun h _ => Quiet.refl w
  | clone name as =>
    refine quiet_withHandle w recorded name _ fun h _ => ?_
    exact Aside.quiet ⟨rfl, rfl, rfl, Floor.holds_makeGate w.floor as, rfl⟩ rfl
  | grant door keep =>
    refine quiet_withService w door _ fun s => ?_
    exact (quiet_call w (.grant s) trivial trivial).trans (quiet_answer _ keep _)
  | revoke door keep =>
    refine quiet_withService w door _ fun s => ?_
    exact (quiet_call w (.revoke s) trivial trivial).trans (quiet_answer _ keep _)
  | shutDown door cause =>
    refine quiet_withService w door _ fun s => ?_
    exact quiet_plainly w (.shutDown s cause) trivial trivial
  | isShutDown door => exact quiet_withService w door _ fun s => Quiet.refl w
  | currentToken door => exact quiet_withService w door _ fun s => Quiet.refl w
  | cloneService door =>
    exact quiet_withService w door _ fun s => Aside.quiet ⟨rfl, rfl, rfl, rfl, rfl⟩ rfl
  | plan door text =>
    refine quiet_withHost w door _ fun s host => ?_
    exact quiet_plainly w (.replan s _) trivial trivial
  | run door count place => exact quiet_withHost w door _ fun s host => quiet_run w s place count _ _ rfl
  | drop door count place => exact quiet_withHost w door _ fun s host => quiet_drop w s place count _ _ rfl
  | release name =>
    by_cases gated : w.floor.hasGate name = true
    · rw [perform, if_pos gated]
      exact Aside.quiet ⟨rfl, rfl, rfl, Floor.holds_release w.floor name, rfl⟩ rfl
    · rw [perform, if_neg gated]
      exact Quiet.refl w
  | done keep => exact quiet_deliver w .done keep
  | merge first second keep => exact quiet_merge w first second keep
  | wait name => exact quiet_wait w name

theorem quiet_performAll (ss : List Step) (w : Scene) (recorded : w.Recorded) : Quiet w (performAll ss w).2 := by
  induction ss generalizing w with
  | nil => exact Quiet.refl w
  | cons s ss ih => exact (quiet_perform w recorded s).trans (ih _ (recorded_perform w recorded s))

end Leadership.Scenario.Scene
