import Leadership.Scenario.Turn

set_option autoImplicit false

namespace Leadership.Scenario

def total {α : Type} (f : α → Nat) : List α → Nat
  | [] => 0
  | a :: as => f a + total f as

@[simp] theorem total_nil {α : Type} (f : α → Nat) : total f [] = 0 := rfl

@[simp] theorem total_cons {α : Type} (f : α → Nat) (a : α) (as : List α) :
    total f (a :: as) = f a + total f as := rfl

theorem total_append {α : Type} (f : α → Nat) (as bs : List α) :
    total f (as ++ bs) = total f as + total f bs := by
  induction as with
  | nil => simp only [List.nil_append, total_nil, Nat.zero_add]
  | cons a as ih => simp only [List.cons_append, total_cons, ih, Nat.add_assoc]

noncomputable def actionLoad (as : List (Action Step)) : Nat := total sizeOf as

noncomputable def scriptLoad (ss : List (List (Action Step))) : Nat := total actionLoad ss

noncomputable def scriptsLoad (s : Scripts Step) : Nat :=
  scriptLoad s.onGrant + scriptLoad s.onRevoke + scriptLoad s.onNotify + scriptLoad s.onError

noncomputable def Item.load : Item → Nat
  | .duty _ => 0
  | .resume _ rest | .proceed _ rest => actionLoad rest

noncomputable def agendaLoad (items : List Item) : Nat := total Item.load items

noncomputable def Routine.load (r : Routine) : Nat := agendaLoad r.agenda

noncomputable def jobLoad (js : List (Job Routine)) : Nat := total (fun j => j.routine.load) js

noncomputable def parkedLoad (ps : List (String × Job Routine)) : Nat :=
  total (fun p => p.2.routine.load) ps

noncomputable def unitLoad (us : List (Nat × Routine)) : Nat := total (fun u => u.2.load) us

noncomputable def floorLoad (f : Floor Routine) : Nat :=
  jobLoad f.queue + parkedLoad f.parked + unitLoad f.backlog + unitLoad f.shelf

noncomputable def partyLoad (ps : List Party) : Nat := total (fun p => scriptsLoad p.scripts) ps

def floorWaiting (f : Floor Routine) : Nat := f.queue.length + f.backlog.length

noncomputable def Scene.load (w : Scene) : Nat := partyLoad w.parties + floorLoad w.floor

theorem total_le_sizeOf {α : Type} [SizeOf α] (as : List α) : total sizeOf as ≤ sizeOf as := by
  induction as with
  | nil => simp
  | cons a as ih =>
    simp only [total_cons, List.cons.sizeOf_spec]
    omega

theorem scriptLoad_le_sizeOf (ss : List (List (Action Step))) : scriptLoad ss ≤ sizeOf ss := by
  induction ss with
  | nil => simp [scriptLoad]
  | cons s ss ih =>
    have : actionLoad s ≤ sizeOf s := total_le_sizeOf s
    simp only [scriptLoad, total_cons, List.cons.sizeOf_spec] at ih ⊢
    omega

theorem scriptsLoad_le_sizeOf (s : Scripts Step) : scriptsLoad s ≤ sizeOf s := by
  cases s with
  | mk g r n e =>
    have := scriptLoad_le_sizeOf g
    have := scriptLoad_le_sizeOf r
    have := scriptLoad_le_sizeOf n
    have := scriptLoad_le_sizeOf e
    simp only [scriptsLoad, Scripts.mk.sizeOf_spec]
    omega

theorem one_le_sizeOf_action (a : Action Step) : 1 ≤ sizeOf a := by
  cases a <;> simp

theorem scriptLoad_headD_tail (ss : List (List (Action Step))) :
    actionLoad (ss.headD []) + scriptLoad ss.tail = scriptLoad ss := by
  cases ss <;> simp [scriptLoad, actionLoad]

theorem scriptsLoad_take (s : Scripts Step) (c : Callback) :
    actionLoad (s.take c).1 + scriptsLoad (s.take c).2 = scriptsLoad s := by
  have g := scriptLoad_headD_tail s.onGrant
  have r := scriptLoad_headD_tail s.onRevoke
  have n := scriptLoad_headD_tail s.onNotify
  cases c <;> simp only [Scripts.take, scriptsLoad] <;> omega

theorem scriptsLoad_takeError (s : Scripts Step) :
    actionLoad s.takeError.1 + scriptsLoad s.takeError.2 = scriptsLoad s := by
  have e := scriptLoad_headD_tail s.onError
  simp only [Scripts.takeError, scriptsLoad]
  omega

theorem total_set {α : Type} (f : α → Nat) (l : List α) (i : Nat) (a b : α) (h : l[i]? = some a) :
    total f (l.set i b) + f a = total f l + f b := by
  induction l generalizing i with
  | nil => simp at h
  | cons x xs ih =>
    cases i with
    | zero =>
      simp only [List.length_cons, Nat.zero_lt_succ, List.getElem?_eq_getElem,
        List.getElem_cons_zero, Option.some.injEq] at h
      subst h
      simp only [List.set_cons_zero, total_cons]
      omega
    | succ i =>
      have := ih i (by simpa using h)
      simp only [List.set_cons_succ, total_cons]
      omega

theorem total_pluck {α : Type} (f : α → Nat) (p : α → Bool) {l rest : List α} {a : α}
    (h : pluck p l = some (a, rest)) :
    total f l = f a + total f rest ∧ l.length = rest.length + 1 := by
  induction l generalizing rest with
  | nil => simp [pluck] at h
  | cons x xs ih =>
    unfold pluck at h
    split at h
    · simp only [Option.some.injEq, Prod.mk.injEq] at h
      obtain ⟨rfl, rfl⟩ := h
      simp
    · cases found : pluck p xs with
      | none => simp [found] at h
      | some pair =>
        obtain ⟨b, ys⟩ := pair
        simp only [found, Option.map_some, Option.some.injEq, Prod.mk.injEq] at h
        obtain ⟨rfl, rfl⟩ := h
        have := ih found
        simp only [total_cons, List.length_cons]
        omega

theorem total_pluckNth {α : Type} (f : α → Nat) (p : α → Bool) {l rest : List α} {a : α} {n : Nat}
    (h : pluckNth p n l = some (a, rest)) : total f l = f a + total f rest := by
  induction l generalizing n rest with
  | nil => cases n <;> simp [pluckNth] at h
  | cons x xs ih =>
    unfold pluckNth at h
    split at h
    · cases n with
      | zero =>
        simp only [Option.some.injEq, Prod.mk.injEq] at h
        obtain ⟨rfl, rfl⟩ := h
        simp
      | succ n =>
        cases found : pluckNth p n xs with
        | none => simp [found] at h
        | some pair =>
          simp only [found, Option.map_some, Option.some.injEq, Prod.mk.injEq] at h
          obtain ⟨rfl, rfl⟩ := h
          have := ih found
          simp only [total_cons]
          omega
    · cases found : pluckNth p n xs with
      | none => simp [found] at h
      | some pair =>
        simp only [found, Option.map_some, Option.some.injEq, Prod.mk.injEq] at h
        obtain ⟨rfl, rfl⟩ := h
        have := ih found
        simp only [total_cons]
        omega

theorem load_spawn (f : Floor Routine) (r : Routine) :
    floorLoad (f.spawn r) = floorLoad f + r.load := by
  simp only [floorLoad, Floor.spawn, jobLoad, total_append, total_cons, total_nil]
  omega

theorem load_line (f : Floor Routine) (s : Nat) (r : Routine) :
    floorLoad (f.line s r) = floorLoad f + r.load := by
  unfold Floor.line
  split <;>
    simp only [floorLoad, jobLoad, unitLoad, total_append, total_cons, total_nil] <;>
    omega

theorem load_shelve (f : Floor Routine) (s : Nat) (r : Routine) :
    floorLoad (f.shelve s r) = floorLoad f + r.load := by
  simp only [floorLoad, Floor.shelve, unitLoad, total_append, total_cons, total_nil]
  omega

theorem load_takeShelved {f g : Floor Routine} {s n : Nat} {r : Routine}
    (h : f.takeShelved s n = some (r, g)) : floorLoad f = r.load + floorLoad g := by
  unfold Floor.takeShelved at h
  cases found : pluckNth (fun u => u.1 == s) n f.shelf with
  | none => simp [found] at h
  | some pair =>
    simp only [found, Option.map_some, Option.some.injEq, Prod.mk.injEq] at h
    obtain ⟨rfl, rfl⟩ := h
    have := total_pluckNth (fun u : Nat × Routine => u.2.load) _ found
    simp only [floorLoad, unitLoad]
    omega

theorem load_release (f : Floor Routine) (gate : String) :
    floorLoad (f.release gate) = floorLoad f := by
  unfold Floor.release
  split
  · rename_i found
    have := (total_pluck (fun p : String × Job Routine => p.2.routine.load) _ found).1
    simp only at this
    simp only [floorLoad, jobLoad, parkedLoad, total_append, total_cons, total_nil]
    omega
  · rfl

theorem load_makeGate (f : Floor Routine) (gate : String) :
    floorLoad (f.makeGate gate) = floorLoad f := by
  unfold Floor.makeGate
  split <;> rfl

namespace Scene

theorem load_dispatch (w : Scene) (a : Attempt × Nat) : (w.dispatch a).load = w.load := by
  have fresh (duties : List Duty) : agendaLoad (duties.map Item.duty) = 0 := by
    induction duties with
    | nil => rfl
    | cons d ds ih => simpa [agendaLoad, Item.load] using ih
  obtain ⟨a, unit⟩ := a
  simp only [dispatch]
  split
  · rfl
  · rfl
  · split <;> simp only [load, load_line, load_shelve, load_spawn, Routine.load, fresh] <;> omega

theorem load_call (w : Scene) (c : Call) : (w.call c).2.load = w.load := by
  have all (l : List (Attempt × Nat)) (v : Scene) : (l.foldl dispatch v).load = v.load := by
    induction l generalizing v with
    | nil => rfl
    | cons a l ih => rw [List.foldl_cons, ih, load_dispatch]
  simp only [call, all]
  rfl

theorem load_addParty (w : Scene) (name : String) (s : Scripts Step) :
    (w.addParty name s).load = w.load + scriptsLoad s := by
  simp only [addParty, load, load_makeGate, partyLoad, total_append, total_cons, total_nil]
  omega

theorem load_deliver (w : Scene) (c : Completion) (keep : Option String) :
    (w.deliver c keep).2.load = w.load := by
  cases keep <;> rfl

theorem load_answer (w : Scene) (keep : Option String) (a : Answer) :
    (w.answer keep a).2.load = w.load := by
  cases a with
  | completion c => exact load_deliver w c keep
  | _ => rfl

theorem load_plainly (w : Scene) (c : Call) : (w.plainly c).2.load = w.load := by
  simp only [plainly, load_answer, load_call]

theorem load_create (w : Scene) (as : String) (c : Call) : (w.create as c).2.load = w.load := by
  have := load_call w c
  unfold create
  split
  · rename_i h
    rw [h] at this
    exact this
  · rename_i h
    rw [h] at this
    rw [load_answer]
    exact this

theorem load_join (w : Scene) (as : String) (s : Scripts Step) (c : Call) :
    (w.join as s c).2.load = w.load + scriptsLoad s := by
  have first := load_call (w.addParty as s) c
  rw [load_addParty] at first
  unfold join
  simp only
  split
  · rename_i h w' eq
    have second := load_call w' (.start h w.parties.length)
    rw [eq] at first
    split
    · rename_i eq2
      rw [eq2] at second
      exact second.trans first
    · rename_i eq2
      rw [eq2] at second
      rw [load_answer]
      exact second.trans first
  · rename_i eq
    rw [eq] at first
    rw [load_answer]
    exact first

theorem load_withService (w : Scene) (door n : Nat) (act : Nat → Result × Scene)
    (h : ∀ s, (act s).2.load ≤ w.load + n) : (w.withService door act).2.load ≤ w.load + n := by
  unfold withService
  split
  · exact h _
  · exact Nat.le_add_right _ _

theorem load_withHandle (w : Scene) (name : String) (n : Nat) (act : Handle → Result × Scene)
    (h : ∀ s, (act s).2.load ≤ w.load + n) : (w.withHandle name act).2.load ≤ w.load + n := by
  unfold withHandle
  split
  · exact h _
  · exact Nat.le_add_right _ _

theorem load_withContender (w : Scene) (name : String) (n : Nat) (act : Contender → Result × Scene)
    (h : ∀ s, (act s).2.load ≤ w.load + n) : (w.withContender name act).2.load ≤ w.load + n := by
  refine load_withHandle _ _ _ _ fun s => ?_
  cases s
  · exact h _
  · exact Nat.le_add_right _ _

theorem load_withHost (w : Scene) (door n : Nat) (act : Nat → Host → Result × Scene)
    (h : ∀ s host, (act s host).2.load ≤ w.load + n) :
    (w.withHost door act).2.load ≤ w.load + n := by
  refine load_withService _ _ _ _ fun s => ?_
  split
  · split
    · exact h _ _
    · exact Nat.le_add_right _ _
  · exact Nat.le_add_right _ _

theorem load_takeUnits (s place count : Nat) (f : Floor Routine) :
    total Routine.load (takeUnits s place count f).1 + floorLoad (takeUnits s place count f).2 =
      floorLoad f := by
  induction count generalizing f with
  | zero => simp [takeUnits]
  | succ count ih =>
    unfold takeUnits
    split
    · simp
    · rename_i r g found
      have taken := load_takeShelved found
      have := ih g
      simp only [total_cons]
      omega

theorem load_spawnAll (rs : List Routine) (f : Floor Routine) :
    floorLoad (rs.foldl Floor.spawn f) = total Routine.load rs + floorLoad f := by
  induction rs generalizing f with
  | nil => simp
  | cons r rs ih =>
    simp only [List.foldl_cons, ih, load_spawn, total_cons]
    omega

theorem load_settleAll (rs : List Routine) (w : Scene) :
    (rs.foldl (fun w r => w.settle r.unit .dropped) w).load = w.load := by
  induction rs generalizing w with
  | nil => rfl
  | cons r rs ih => rw [List.foldl_cons, ih]; rfl

theorem load_mergeKept (w : Scene) (a b : String) (keep : Option String) :
    (w.mergeKept a b keep).2.load = w.load := by
  unfold mergeKept
  split
  · split
    · rw [load_deliver]; rfl
    · rfl
  · rfl

theorem load_wait (w : Scene) (name : String) : (w.wait name).2.load = w.load := by
  unfold wait
  split <;> rfl

theorem load_perform (w : Scene) (s : Step) : (w.perform s).2.load ≤ w.load + sizeOf s := by
  cases s <;> unfold perform
  case createContender => exact load_withService _ _ _ _ fun s => by rw [load_create]; omega
  case createListener => exact load_withService _ _ _ _ fun s => by rw [load_create]; omega
  case start name scripts =>
    refine load_withHandle _ _ _ _ fun h => ?_
    have := scriptsLoad_le_sizeOf scripts
    rw [load_plainly, load_addParty, Step.start.sizeOf_spec]
    omega
  case register door component as scripts =>
    refine load_withService _ _ _ _ fun s => ?_
    have := scriptsLoad_le_sizeOf scripts
    rw [load_join, Step.register.sizeOf_spec]
    omega
  case listen door as scripts =>
    refine load_withService _ _ _ _ fun s => ?_
    have := scriptsLoad_le_sizeOf scripts
    rw [load_join, Step.listen.sizeOf_spec]
    omega
  case close => exact load_withHandle _ _ _ _ fun h => by rw [load_plainly]; omega
  case deregister =>
    exact load_withHandle _ _ _ _ fun h => load_withService _ _ _ _ fun s => by
      rw [load_plainly]; omega
  case confirm =>
    refine load_withContender _ _ _ _ fun c => ?_
    simp only [load_answer, load_call]
    omega
  case hasLeadership => exact load_withContender _ _ _ _ fun c => Nat.le_add_right _ _
  case info => exact load_withHandle _ _ _ _ fun h => Nat.le_add_right _ _
  case clone =>
    refine load_withHandle _ _ _ _ fun h => ?_
    simp only [load, load_makeGate]
    omega
  case grant =>
    refine load_withService _ _ _ _ fun s => ?_
    simp only [load_answer, load_call]
    omega
  case revoke =>
    refine load_withService _ _ _ _ fun s => ?_
    simp only [load_answer, load_call]
    omega
  case shutDown => exact load_withService _ _ _ _ fun s => by rw [load_plainly]; omega
  case isShutDown => exact load_withService _ _ _ _ fun s => Nat.le_add_right _ _
  case currentToken => exact load_withService _ _ _ _ fun s => Nat.le_add_right _ _
  case cloneService => exact load_withService _ _ _ _ fun s => Nat.le_add_right _ _
  case plan => exact load_withHost _ _ _ _ fun s host => by rw [load_plainly]; omega
  case run door count place =>
    refine load_withHost _ _ _ _ fun s host => ?_
    have := load_takeUnits s place count w.floor
    simp only [load, load_spawnAll]
    omega
  case drop door count place =>
    refine load_withHost _ _ _ _ fun s host => ?_
    have := load_takeUnits s place count w.floor
    simp only [load_settleAll]
    simp only [load]
    omega
  case release =>
    simp only
    split
    · simp only [load, load_release]
      omega
    · exact Nat.le_add_right _ _
  case done => rw [load_deliver]; omega
  case merge => rw [load_mergeKept]; omega
  case wait => rw [load_wait]; omega

theorem load_performAll (ss : List Step) (w : Scene) :
    (performAll ss w).2.load ≤ w.load + total sizeOf ss := by
  induction ss generalizing w with
  | nil => exact Nat.le_add_right _ _
  | cons s ss ih =>
    have := load_perform w s
    have := ih (w.perform s).2
    simp only [performAll, total_cons]
    omega

noncomputable def haltLoad : Halt → Nat
  | .yielded rest | .closed rest => actionLoad rest
  | _ => 0

theorem load_act (name : String) (as : List (Action Step)) (w : Scene) :
    (act name as w = (.returned, w) ∧ as = []) ∨
      haltLoad (act name as w).1 + (act name as w).2.load < actionLoad as + w.load := by
  induction as generalizing w with
  | nil => exact .inl ⟨rfl, rfl⟩
  | cons a as ih =>
    right
    have step (v : Scene) (bound : v.load < sizeOf a + w.load) :
        haltLoad (act name as v).1 + (act name as v).2.load < actionLoad (a :: as) + w.load := by
      simp only [actionLoad, total_cons]
      rcases ih v with ⟨eq, rfl⟩ | less
      · rw [eq]
        simp only [haltLoad, total_nil]
        omega
      · simp only [actionLoad] at less
        omega
    cases a with
    | gate =>
      simp only [act]
      split
      · rename_i f passed
        refine step _ ?_
        have same : floorLoad f = floorLoad w.floor := by
          unfold Floor.pass? at passed
          split at passed
          · cases passed; rfl
          · cases passed
        simp only [record, load, same, Action.gate.sizeOf_spec]
        omega
      · simp [haltLoad, actionLoad]
    | yield n =>
      cases n with
      | zero => exact step w (by simp)
      | succ n => simp [act, haltLoad, actionLoad]
    | perform steps =>
      have := load_performAll steps w
      have := total_le_sizeOf steps
      refine step _ ?_
      simp only [record, Action.perform.sizeOf_spec]
      change (performAll steps w).2.load < _
      omega
    | fail f =>
      have := one_le_sizeOf_action (.fail f)
      simp only [act, haltLoad, actionLoad, total_cons]
      omega
    | burst p =>
      have := one_le_sizeOf_action (.burst p)
      simp only [act, haltLoad, actionLoad, total_cons]
      omega

theorem load_note (w : Scene) (n : Note) : (w.note n).load = w.load := rfl

theorem load_record (w : Scene) (name : String) (e : Event) : (w.record name e).load = w.load := rfl

theorem load_settle (w : Scene) (unit : Nat) (f : Completion.Fate) :
    (w.settle unit f).load = w.load := rfl

theorem load_enter (w : Scene) (party : Nat) (c : Callback) :
    actionLoad (w.enter party c).1 + (w.enter party c).2.load = w.load := by
  unfold enter
  split
  · simp [actionLoad]
  · rename_i p found
    have moved := total_set (fun p : Party => scriptsLoad p.scripts) w.parties party p
      { p with scripts := (p.scripts.take c).2 } found
    have taken := scriptsLoad_take p.scripts c
    simp only at moved
    cases c <;> simp only [load, partyLoad, record] <;> omega

def Still (v w : Scene) : Prop :=
  w.floor.queue = v.floor.queue ∧ w.floor.backlog = v.floor.backlog

theorem load_steps (as : List (Action Step)) :
    Action.steps as = [] ∨ total sizeOf (Action.steps as) < actionLoad as := by
  induction as with
  | nil => exact .inl rfl
  | cons a rest ih =>
    cases a with
    | perform ss =>
      right
      have := total_le_sizeOf ss
      simp only [Action.steps, actionLoad, total_append, total_cons, Action.perform.sizeOf_spec] at ih ⊢
      rcases ih with none | less
      · rw [none, total_nil]
        omega
      · omega
    | gate | yield | fail | burst => exact .inl rfl

theorem load_tell (w : Scene) (party : Nat) (p : Party) (f : Fault) (found : w.parties[party]? = some p) :
    actionLoad p.scripts.takeError.1 + (w.tell party p f).load = w.load := by
  have moved := total_set (fun p : Party => scriptsLoad p.scripts) w.parties party p
    { p with scripts := p.scripts.takeError.2 } found
  have taken := scriptsLoad_takeError p.scripts
  simp only [tell, load, partyLoad, record] at moved ⊢
  omega

theorem load_handle (w : Scene) (party : Nat) (f : Fault) :
    (w.handle party f).load < w.load ∨ ((w.handle party f).load ≤ w.load ∧ Still w (w.handle party f)) := by
  unfold handle
  split
  · exact .inr ⟨Nat.le_refl _, rfl, rfl⟩
  · rename_i p found
    have lighter := load_tell w party p f found
    rcases load_steps p.scripts.takeError.1 with none | less
    · right
      simp only [none, performAll]
      split
      · exact ⟨lighter ▸ Nat.le_add_left _ _, rfl, rfl⟩
      · exact ⟨lighter ▸ Nat.le_add_left _ _, rfl, rfl⟩
    · left
      have performed := load_performAll (Action.steps p.scripts.takeError.1) (w.tell party p f)
      simp only
      split
      · exact Nat.lt_of_le_of_lt performed (by omega)
      · exact Nat.lt_of_le_of_lt performed (by omega)

theorem still_enter (w : Scene) (party : Nat) (c : Callback) : Still w (w.enter party c).2 := by
  unfold enter
  split
  · exact ⟨rfl, rfl⟩
  · cases c <;> exact ⟨rfl, rfl⟩

theorem Still.trans {u v w : Scene} (first : Still u v) (second : Still v w) : Still u w :=
  ⟨second.1.trans first.1, second.2.trans first.2⟩

noncomputable def stopLoad : Stop → Nat
  | .yielded item | .closed item => item.load
  | _ => 0

theorem load_follow (w : Scene) (party : Nat) (c : Callback) (as : List (Action Step)) :
    ((w.follow party c as).1 = .passed ∧ as = [] ∧ (w.follow party c as).2 = w) ∨
      stopLoad (w.follow party c as).1 + (w.follow party c as).2.load < actionLoad as + w.load := by
  rcases load_act (w.partyName party) as w with ⟨eq, rfl⟩ | less
  · left
    simp only [follow, eq, and_self]
  · right
    unfold follow
    split
    · rename_i eq
      simpa only [eq, haltLoad, stopLoad] using less
    · rename_i f v eq
      have lighter : ((v.note (c.complaint (c.fault f))).handle party (c.fault f)).load ≤ v.load := by
        rcases load_handle (v.note (c.complaint (c.fault f))) party (c.fault f) with less | ⟨bound, -⟩
        · exact Nat.le_of_lt less
        · exact bound
      simp only [eq, haltLoad] at less
      simp only [stopLoad]
      omega
    · rename_i eq
      simpa only [eq, haltLoad, stopLoad, Item.load] using less
    · rename_i eq
      simpa only [eq, haltLoad, stopLoad, Item.load] using less

def goesOn : Stop → Bool
  | .yielded _ | .closed _ => false
  | _ => true

theorem load_runItem (w : Scene) (party : Nat) (item : Item) :
    stopLoad (w.runItem party item).1 + (w.runItem party item).2.load < item.load + w.load ∨
      (goesOn (w.runItem party item).1 = true ∧
        (w.runItem party item).2.load ≤ item.load + w.load ∧
        Still w (w.runItem party item).2) := by
  have following (v : Scene) (c : Callback) (as : List (Action Step))
      (bound : actionLoad as + v.load ≤ item.load + w.load) (still : Still w v) :
      stopLoad (v.follow party c as).1 + (v.follow party c as).2.load < item.load + w.load ∨
        (goesOn (v.follow party c as).1 = true ∧
          (v.follow party c as).2.load ≤ item.load + w.load ∧
          Still w (v.follow party c as).2) := by
    rcases load_follow v party c as with ⟨passed, rfl, same⟩ | less
    · right
      rw [passed, same]
      exact ⟨rfl, by omega, still⟩
    · left
      omega
  cases item with
  | duty d =>
    cases d with
    | call c =>
      have entered := load_enter w party c
      have still := still_enter w party c
      simp only [runItem]
      split
      · rename_i eq
        rw [eq] at entered still
        right
        simp only [actionLoad, Item.load] at entered ⊢
        exact ⟨rfl, by omega, still⟩
      · rename_i eq
        rw [eq] at entered still
        exact following _ _ _ (by simp only [Item.load] at entered ⊢; omega) still
    | deliver f =>
      simp only [runItem, stopLoad, Item.load]
      rcases load_handle w party f with less | ⟨bound, still⟩
      · left
        omega
      · right
        exact ⟨rfl, by omega, still⟩
  | resume c rest => exact following _ _ _ (by simp only [Item.load, load_record]; omega) ⟨rfl, rfl⟩
  | proceed c rest => exact following _ _ _ (by simp only [Item.load]; omega) ⟨rfl, rfl⟩

noncomputable def pauseLoad : Pause Routine → Nat
  | .ended | .panicked => 0
  | .yielded r | .closed _ r => r.load

theorem load_over {pause : Pause Routine} (ends : pause.rest? = none) : pauseLoad pause = 0 := by
  cases pause with
  | ended | panicked => rfl
  | yielded | closed => cases ends

theorem load_runAgenda (unit party : Nat) (worker : Option Nat) (items : List Item) (w : Scene) :
    let out := runAgenda unit party worker items w
    pauseLoad out.1 + out.2.load < agendaLoad items + w.load ∨
      (out.1.rest? = none ∧ out.2.load ≤ agendaLoad items + w.load ∧ Still w out.2) := by
  induction items generalizing w with
  | nil =>
    right
    exact ⟨rfl, by simp only [runAgenda, load_settle]; omega, rfl, rfl⟩
  | cons item rest ih =>
    have one := load_runItem w party item
    simp only [agendaLoad, total_cons]
    unfold runAgenda
    split
    · rename_i v eq
      rw [eq] at one
      rcases ih v with less | ⟨ends, bound, still⟩
      · left
        simp only [stopLoad, agendaLoad] at one less
        rcases one with h | ⟨-, h, -⟩ <;> omega
      · simp only [stopLoad, agendaLoad] at one bound
        rcases one with h | ⟨-, h, before⟩
        · left
          rw [load_over ends]
          omega
        · right
          exact ⟨ends, by omega, before.trans still⟩
    · rename_i v eq
      rw [eq] at one
      simp only [stopLoad] at one
      cases worker with
      | none =>
        rcases one with h | ⟨-, h, before⟩
        · left
          simp only [pauseLoad, Option.isSome_none, Bool.false_eq_true, if_false, load_settle]
          omega
        · right
          simp only [Option.isSome_none, Bool.false_eq_true, if_false, load_settle]
          exact ⟨rfl, by omega, before⟩
      | some s =>
        rcases one with h | ⟨-, h, before⟩
        · left
          simp only [pauseLoad, Option.isSome_some, if_true, load_note, load_settle]
          omega
        · right
          simp only [Option.isSome_some, if_true, load_note, load_settle]
          exact ⟨rfl, by omega, before⟩
    · rename_i eq
      rw [eq] at one
      left
      rcases one with h | ⟨h, -⟩
      · simp only [stopLoad, pauseLoad, Routine.load, agendaLoad, total_cons] at h ⊢
        omega
      · cases h
    · rename_i eq
      rw [eq] at one
      left
      rcases one with h | ⟨h, -⟩
      · simp only [stopLoad, pauseLoad, Routine.load, agendaLoad, total_cons] at h ⊢
        omega
      · cases h

theorem load_advance (f : Floor Routine) (s : Nat) :
    floorLoad (f.advance s) = floorLoad f ∧ floorWaiting (f.advance s) = floorWaiting f := by
  unfold Floor.advance
  split
  · rename_i found
    have := total_pluck (fun u : Nat × Routine => u.2.load) _ found
    simp only at this
    simp only [floorLoad, floorWaiting, jobLoad, unitLoad, total_cons,
      List.length_cons]
    omega
  · exact ⟨rfl, rfl⟩

theorem load_conclude (f : Floor Routine) (worker : Option Nat) (pause : Pause Routine) :
    floorLoad (f.conclude worker pause) = floorLoad f + pauseLoad pause ∧
      (pause.rest? = none → floorWaiting (f.conclude worker pause) = floorWaiting f) := by
  cases pause with
  | ended | panicked =>
    cases worker with
    | none => exact ⟨rfl, fun _ => rfl⟩
    | some s => exact ⟨(load_advance f s).1, fun _ => (load_advance f s).2⟩
  | yielded r =>
    refine ⟨?_, fun h => nomatch h⟩
    simp only [floorLoad, Floor.conclude, jobLoad, pauseLoad, total_append, total_cons, total_nil]
    omega
  | closed gate r =>
    refine ⟨?_, fun h => nomatch h⟩
    simp only [floorLoad, Floor.conclude, parkedLoad, pauseLoad, total_append, total_cons,
      total_nil]
    omega

/-- A turn uses up something of a script, or it ends a unit and adds none. -/
theorem turn_decreases {v w : Scene} (h : v.turn? = some w) :
    w.load < v.load ∨ w.load = v.load ∧ floorWaiting w.floor < floorWaiting v.floor := by
  unfold turn? Floor.take? at h
  split at h
  · cases h
  · rename_i job floor taken
    split at taken
    · cases taken
    · rename_i first queue eq
      cases taken
      simp only [Option.some.injEq] at h
      have ran := load_runAgenda job.routine.unit job.routine.party job.worker job.routine.agenda
        { v with floor := { v.floor with queue := queue } }
      generalize runAgenda job.routine.unit job.routine.party job.worker job.routine.agenda
        { v with floor := { v.floor with queue := queue } } = out at ran h
      obtain ⟨pause, x⟩ := out
      have put := load_conclude x.floor job.worker pause
      have start : v.load = agendaLoad job.routine.agenda +
          Scene.load { v with floor := { v.floor with queue := queue } } := by
        simp only [load, floorLoad, eq, jobLoad, total_cons, Routine.load]
        omega
      subst h
      rw [start]
      simp only [load] at ran ⊢
      rcases ran with less | ⟨ends, bound, still⟩
      · left
        omega
      · have waiting := put.2 ends
        have nothing := load_over ends
        have shorter : floorWaiting v.floor = floorWaiting x.floor + 1 := by
          simp only [floorWaiting, still.1, still.2, eq, List.length_cons]
          omega
        omega

def rest (w : Scene) : Scene :=
  match _next : w.turn? with
  | none => w
  | some v => rest v
termination_by (w.load, floorWaiting w.floor)
decreasing_by
  rcases turn_decreases _next with less | ⟨same, less⟩
  · exact .left _ _ less
  · rw [same]
    exact .right _ less

theorem rest_of_none {w : Scene} (h : w.turn? = none) : w.rest = w := by
  rw [rest]
  split
  · rfl
  · rename_i v next
    rw [h] at next
    cases next

theorem rest_of_some {v w : Scene} (h : v.turn? = some w) : v.rest = w.rest := by
  rw [rest]
  split
  · rename_i next
    rw [h] at next
    cases next
  · rename_i u next
    rw [h] at next
    cases next
    rfl

theorem turn_rest (w : Scene) : w.rest.turn? = none := by
  fun_induction rest w with
  | case1 w next => exact next
  | case2 w v next ih => exact ih

end Scene
end Leadership.Scenario
