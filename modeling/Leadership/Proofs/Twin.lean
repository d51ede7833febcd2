import Leadership.Proofs.Submission

set_option autoImplicit false

namespace Leadership

def Verdict.refusal? : Verdict → Option Fault
  | .reject why => some why
  | _ => none

def Attempt.order (a : Attempt) : Nat × Work := (a.service, a.work)

-- Somewhere one executor has accepted what the other has rejected, or rejected it for another reason.
def Split (as bs : List Attempt) : Prop :=
  ∃ (x : Nat) (a b : Attempt), as[x]? = some a ∧ bs[x]? = some b ∧ a.verdict.refusal? ≠ b.verdict.refusal?

theorem Split.grown {as bs as' bs' : List Attempt} (split : Split as bs) (left : as <+: as') (right : bs <+: bs') :
    Split as' bs' := by
  obtain ⟨x, a, b, inLeft, inRight, different⟩ := split
  exact ⟨x, a, b, prefix_getElem left inLeft, prefix_getElem right inRight, different⟩

namespace Desk

inductive Twin (d : Desk) : Desk → Prop
  | mk (plan : Plan) (attempts : List Attempt) (notes : List Note)
      (orders : attempts.map Attempt.order = d.attempts.map Attempt.order) :
      Twin d { d with plan := plan, attempts := attempts, notes := notes }

def Abreast (d e : Desk) : Prop := Split d.attempts e.attempts ∨ Twin d e

def Tied {α : Type} (r s : α × Desk) : Prop := Split r.2.attempts s.2.attempts ∨ (s.1 = r.1 ∧ Twin r.2 s.2)

section Combine
variable {α β : Type} {r s : α × Desk} {d e : Desk}

theorem Twin.tied (twin : Twin d e) (a : α) : Tied (a, d) (a, e) := .inr ⟨rfl, twin⟩

theorem Abreast.tied (abreast : Abreast d e) (a : α) : Tied (a, d) (a, e) := by
  rcases abreast with split | twin
  · exact .inl split
  · exact twin.tied a

theorem Tied.abreast (tied : Tied r s) : Abreast r.2 s.2 := by
  rcases tied with split | ⟨_, twin⟩
  · exact .inl split
  · exact .inr twin

theorem Tied.then (tied : Tied r s) (k : α × Desk → β × Desk) (grows : ∀ r, r.2.attempts <+: (k r).2.attempts)
    (next : ∀ a d e, Twin d e → Tied (k (a, d)) (k (a, e))) : Tied (k r) (k s) := by
  rcases tied with split | ⟨same, twin⟩
  · exact .inl (split.grown (grows r) (grows s))
  · obtain ⟨a, d⟩ := r
    obtain ⟨b, e⟩ := s
    cases same
    exact next a d e twin

theorem Tied.leads (tied : Tied r s) (k : α × Desk → Desk) (grows : ∀ r, r.2.attempts <+: (k r).attempts)
    (next : ∀ a d e, Twin d e → Abreast (k (a, d)) (k (a, e))) : Abreast (k r) (k s) := by
  have tied := tied.then (fun r => ((), k r)) grows fun a d e twin => (next a d e twin).tied ()
  exact tied.abreast

theorem Abreast.then (abreast : Abreast d e) (k : Desk → Desk) (grows : ∀ d, d.attempts <+: (k d).attempts)
    (next : ∀ d e, Twin d e → Abreast (k d) (k e)) : Abreast (k d) (k e) := by
  rcases abreast with split | twin
  · exact .inl (split.grown (grows d) (grows e))
  · exact next d e twin

theorem abreast_foldl (ms : List β) (k : Desk → β → Desk) (grows : ∀ d m, d.attempts <+: (k d m).attempts)
    (next : ∀ d e m, Twin d e → Abreast (k d m) (k e m)) (abreast : Abreast d e) :
    Abreast (ms.foldl k d) (ms.foldl k e) := by
  induction ms generalizing d e with
  | nil => exact abreast
  | cons m ms ih =>
    exact ih (abreast.then (fun d => k d m) (fun d => grows d m) fun d e => next d e m)

theorem grows_foldl (ms : List β) (k : Desk → β → Desk) (grows : ∀ d m, d.attempts <+: (k d m).attempts)
    (d : Desk) : d.attempts <+: (ms.foldl k d).attempts := by
  induction ms generalizing d with
  | nil => exact List.prefix_refl _
  | cons m ms ih => exact (grows d m).trans (ih (k d m))

end Combine

section Grows
variable (d : Desk)

theorem grows_announce (leader : Option (Leader Fence)) (ms : List (Member Unit)) :
    d.attempts <+: (announce leader ms d).2.attempts := by
  induction ms generalizing d with
  | nil => exact List.prefix_refl _
  | cons m ms ih =>
    have first : d.attempts <+: (d.handed (.notify m leader)).attempts := List.prefix_append _ _
    have rest := ih (d.handed (.notify m leader))
    simp only [announce, submit_eq]
    cases d.reply with
    | error f => exact first
    | ok one =>
      cases announced : announce leader ms (d.handed (.notify m leader)) with
      | mk result e =>
        rw [announced] at rest
        simp only [announced]
        cases result with
        | error f => exact first.trans rest
        | ok c => exact first.trans rest

theorem grows_elect : d.attempts <+: d.elect.2.attempts := by
  by_cases held : d.slot.confirmed.isSome ∨ d.slot.proposed.isSome
  · have idle : d.elect = (.ok .done, d) := if_pos held
    exact idle.symm ▸ List.prefix_refl d.attempts
  · rw [elect, if_neg held]
    cases d.contenders.oldest? with
    | none => exact grows_announce d none _
    | some m =>
      show d.attempts <+: (d.propose m).2.attempts
      rw [propose, submit_eq]
      exact List.prefix_append _ _

theorem grows_retire (cause : Fault) (m : Member String) : d.attempts <+: (retire cause d m).attempts := by
  obtain ⟨fresh, grown, _⟩ := (retire_parted cause d m).attempts
  exact ⟨fresh, grown.symm⟩

theorem grows_dismiss (cause : Fault) (m : Member Unit) : d.attempts <+: (dismiss cause d m).attempts := by
  obtain ⟨fresh, grown, _⟩ := (dismiss_parted cause d m).attempts
  exact ⟨fresh, grown.symm⟩

theorem grows_shutDown (cause : Fault) : d.attempts <+: (d.shutDown cause).attempts := by
  by_cases down : d.down = true
  · have idle : d.shutDown cause = d := if_pos down
    exact idle.symm ▸ List.prefix_refl d.attempts
  · rw [shutDown, if_neg down]
    let start : Desk := { d.vacate with contenders := Roster.empty, listeners := Roster.empty }
    have retired := grows_foldl d.contenders.members (retire cause) (fun d => grows_retire d cause) start
    exact retired.trans (grows_foldl d.listeners.members (dismiss cause) (fun d => grows_dismiss d cause) _)

theorem grows_fail (f : Fault) : d.attempts <+: (d.fail f).attempts :=
  grows_shutDown (d.note (.fatal f)) (.fatal f)

end Grows

theorem grows_settle {α : Type} (r : Except Fault α × Desk) : r.2.attempts <+: (settle r).2.attempts := by
  obtain ⟨result, d⟩ := r
  cases result with
  | ok a => exact List.prefix_refl _
  | error f => exact grows_fail d f

theorem grows_plain (r : Except Fault Completion × Desk) : r.2.attempts <+: (plain r).2.attempts := by
  obtain ⟨result, d⟩ := r
  cases result <;> exact List.prefix_refl _

theorem grows_signal (r : Except Fault Completion × Desk) : r.2.attempts <+: (signal r).2.attempts := by
  obtain ⟨result, d⟩ := r
  cases result with
  | ok completion => exact List.prefix_refl _
  | error f => exact grows_fail d f

def joined (one : Completion) (r : Except Fault Completion × Desk) : Except Fault Completion × Desk :=
  match r with
  | (.error f, d) => (.error f, d)
  | (.ok rest, d) => (.ok (one.merge rest), d)

theorem joined_desk (one : Completion) (r : Except Fault Completion × Desk) : (joined one r).2 = r.2 := by
  obtain ⟨result, d⟩ := r
  cases result <;> rfl

theorem Tied.joined {r s : Except Fault Completion × Desk} (tied : Tied r s) (one : Completion) :
    Tied (Desk.joined one r) (Desk.joined one s) := by
  refine tied.then (Desk.joined one) (fun r => (joined_desk one r).symm ▸ List.prefix_refl _) ?_
  intro result d e twin
  cases result <;> exact twin.tied _

def goOn (leader : Option (Leader Fence)) (ms : List (Member Unit)) (r : Except Fault Completion × Desk) :
    Except Fault Completion × Desk :=
  match r with
  | (.error f, d) => (.error f, d)
  | (.ok one, d) => joined one (announce leader ms d)

theorem grows_goOn (leader : Option (Leader Fence)) (ms : List (Member Unit)) (r : Except Fault Completion × Desk) :
    r.2.attempts <+: (goOn leader ms r).2.attempts := by
  obtain ⟨result, d⟩ := r
  cases result with
  | error f => exact List.prefix_refl _
  | ok one => exact (joined_desk one _).symm ▸ grows_announce d leader ms

def heed (complaint : Fault → Note) (r : Except Fault Completion × Desk) : Desk :=
  match r with
  | (.error f, d) => d.note (complaint f)
  | (.ok _, d) => d

theorem Twin.note {d e : Desk} (twin : Twin d e) (n : Note) : Twin (d.note n) (e.note n) := by
  cases twin with
  | mk plan attempts notes orders => exact .mk plan attempts (notes ++ [n]) orders

theorem Tied.heed {r s : Except Fault Completion × Desk} (tied : Tied r s) (complaint : Fault → Note) :
    Abreast (Desk.heed complaint r) (Desk.heed complaint s) := by
  refine tied.leads (Desk.heed complaint) ?_ ?_
  · intro ⟨result, d⟩
    cases result <;> exact List.prefix_refl _
  · intro result d e twin
    cases result with
    | error f => exact .inr (twin.note (complaint f))
    | ok one => exact .inr twin

section Twins
variable {d e : Desk} (twin : Twin d e)
include twin

theorem Twin.alike : Alike d e := by
  cases twin
  exact ⟨rfl, rfl, rfl, rfl, rfl, rfl, rfl, rfl, rfl⟩

theorem Twin.setLeading (id : Nat) (value : Bool) : Twin (d.setLeading id value) (e.setLeading id value) := by
  cases twin with
  | mk plan attempts notes orders => exact @Twin.mk (d.setLeading id value) plan attempts notes orders

theorem Twin.setActive (id : Nat) (value : Bool) : Twin (d.setActive id value) (e.setActive id value) := by
  cases twin with
  | mk plan attempts notes orders => exact @Twin.mk (d.setActive id value) plan attempts notes orders

theorem Twin.setSlot (slot : Slot) : Twin { d with slot := slot } { e with slot := slot } := by
  cases twin with
  | mk plan attempts notes orders => exact @Twin.mk { d with slot := slot } plan attempts notes orders

theorem Twin.setToken (token : Option Fence) : Twin (d.setToken token) (e.setToken token) := by
  cases twin with
  | mk plan attempts notes orders => exact @Twin.mk (d.setToken token) plan attempts notes orders

theorem Twin.setContenders (contenders : Roster String) :
    Twin { d with contenders := contenders } { e with contenders := contenders } := by
  cases twin with
  | mk plan attempts notes orders => exact @Twin.mk { d with contenders := contenders } plan attempts notes orders

theorem Twin.setListeners (listeners : Roster Unit) :
    Twin { d with listeners := listeners } { e with listeners := listeners } := by
  cases twin with
  | mk plan attempts notes orders => exact @Twin.mk { d with listeners := listeners } plan attempts notes orders

theorem Twin.unconfirm (id : Nat) : Twin (d.unconfirm id) (e.unconfirm id) := by
  rw [Desk.unconfirm, Desk.unconfirm, twin.alike.slot]
  by_cases confirmed : d.slot.confirmed = some id
  · rw [if_pos confirmed, if_pos confirmed]
    exact (twin.setSlot _).setToken none
  · rw [if_neg confirmed, if_neg confirmed]
    exact twin

theorem Twin.unpropose (id : Nat) : Twin (d.unpropose id) (e.unpropose id) := by
  rw [Desk.unpropose, Desk.unpropose, twin.alike.slot]
  by_cases proposed : d.slot.proposed = some id
  · rw [if_pos proposed, if_pos proposed]
    exact (twin.setSlot _).setToken none
  · rw [if_neg proposed, if_neg proposed]
    exact twin

theorem Twin.withdraw (c : Contender) (contenders : Roster String) :
    Twin (d.withdraw c contenders) (e.withdraw c contenders) :=
  ((((twin.setContenders contenders).setActive c.id false).setLeading c.id false).unconfirm c.id).unpropose c.id

theorem Twin.vacate : Twin d.vacate e.vacate := by
  rw [Desk.vacate, Desk.vacate, twin.alike.slot]
  exact (twin.setSlot _).setToken none

theorem Twin.commit (c : Contender) (address : String) (now : Instant) :
    Twin (d.commit c address now) (e.commit c address now) := by
  rw [Desk.commit, Desk.commit, twin.alike.slot]
  exact twin.setSlot _

theorem tied_submit (w : Work) : Tied (d.submit w) (e.submit w) := by
  cases twin with
  | mk plan attempts notes orders =>
    have length : attempts.length = d.attempts.length := by
      have lengths := congrArg List.length orders
      rwa [List.length_map, List.length_map] at lengths
    rw [submit_eq, submit_eq]
    by_cases same : d.plan.next.1.refusal? = plan.next.1.refusal?
    · refine .inr ⟨?_, .mk plan.next.2 (attempts ++ [⟨d.number, w, plan.next.1, _⟩]) notes ?_⟩
      · simp only [reply, length]
        cases left : d.plan.next.1 <;> cases right : plan.next.1 <;>
          simp_all [Verdict.refusal?]
      · simp only [handed, List.map_append, orders, List.map_cons, List.map_nil, Attempt.order]
    · let e : Desk := { d with plan := plan, attempts := attempts, notes := notes }
      have left : (d.handed w).attempts[d.attempts.length]? = some ⟨d.number, w, d.plan.next.1, d.toService⟩ :=
        List.getElem?_concat_length
      have right : (e.handed w).attempts[attempts.length]? = some ⟨d.number, w, plan.next.1, e.toService⟩ :=
        List.getElem?_concat_length
      rw [length] at right
      exact .inl ⟨d.attempts.length, _, _, left, right, same⟩

theorem tied_announce (leader : Option (Leader Fence)) (ms : List (Member Unit)) :
    Tied (announce leader ms d) (announce leader ms e) := by
  induction ms generalizing d e with
  | nil => exact twin.tied _
  | cons m ms ih =>
    refine (tied_submit twin (.notify m leader)).then (goOn leader ms) (grows_goOn leader ms) ?_
    intro result d e twin
    cases result with
    | error f => exact twin.tied _
    | ok one => exact (ih twin).joined one

theorem tied_announceAll (leader : Option (Leader Fence)) : Tied (d.announceAll leader) (e.announceAll leader) := by
  rw [announceAll, announceAll, twin.alike.listeners]
  exact tied_announce twin leader d.listeners.members

theorem tied_propose (m : Member String) : Tied (d.propose m) (e.propose m) := by
  cases twin with
  | mk plan attempts notes orders =>
    rw [propose_eq, propose_eq]
    refine tied_submit ?_ (.grant m (.minted (d.minted + 1)))
    exact @Twin.mk (d.put m) plan attempts (notes ++ [.proposing m.registration.label (.minted (d.minted + 1))]) orders

theorem tied_elect : Tied d.elect e.elect := by
  rw [elect, elect, twin.alike.slot, twin.alike.contenders]
  by_cases held : d.slot.confirmed.isSome ∨ d.slot.proposed.isSome
  · rw [if_pos held, if_pos held]
    exact twin.tied _
  · rw [if_neg held, if_neg held]
    cases d.contenders.oldest? with
    | none => exact tied_announceAll twin none
    | some m => exact tied_propose twin m

theorem abreast_retire (cause : Fault) (m : Member String) : Abreast (retire cause d m) (retire cause e m) := by
  have without := (twin.setActive m.id false).setLeading m.id false
  rw [retire, retire, twin.alike.leading]
  exact (tied_submit without (.retire m (d.leading m.id) cause)).heed (.contenderUntold m.registration.label)

theorem abreast_dismiss (cause : Fault) (m : Member Unit) : Abreast (dismiss cause d m) (dismiss cause e m) :=
  (tied_submit (twin.setActive m.id false) (.dismiss m cause)).heed .listenerUntold

theorem abreast_shutDown (cause : Fault) : Abreast (d.shutDown cause) (e.shutDown cause) := by
  cases twin with
  | mk plan attempts notes orders =>
    by_cases down : d.down = true
    · rw [shutDown, if_pos down, shutDown, if_pos down]
      exact .inr (.mk plan attempts notes orders)
    · rw [shutDown, if_neg down, shutDown, if_neg down]
      let start : Desk := { d.vacate with contenders := Roster.empty, listeners := Roster.empty }
      have emptied : Twin start _ := .mk plan attempts notes orders
      have retired := abreast_foldl d.contenders.members (retire cause) (fun d => grows_retire d cause)
        (fun d e m twin => abreast_retire twin cause m) (.inr emptied)
      have dismissed := abreast_foldl d.listeners.members (dismiss cause) (fun d => grows_dismiss d cause)
        (fun d e m twin => abreast_dismiss twin cause m) retired
      refine dismissed.then (fun d => { d with down := true }.note (.down cause)) (fun d => List.prefix_refl _) ?_
      intro f g twin
      cases twin with
      | mk plan attempts notes orders =>
        have closed : Twin { f with down := true } _ := .mk plan attempts notes orders
        exact .inr (closed.note (.down cause))

theorem abreast_fail (f : Fault) : Abreast (d.fail f) (e.fail f) :=
  abreast_shutDown (twin.note (.fatal f)) (.fatal f)

end Twins

theorem Tied.settle {α : Type} {r s : Except Fault α × Desk} (tied : Tied r s) :
    Tied (Desk.settle r) (Desk.settle s) := by
  refine tied.then Desk.settle grows_settle ?_
  intro result d e twin
  cases result with
  | ok a => exact twin.tied _
  | error f => exact (abreast_fail twin f).tied _

theorem Tied.plain {r s : Except Fault Completion × Desk} (tied : Tied r s) :
    Tied (Desk.plain r) (Desk.plain s) := by
  refine tied.then Desk.plain grows_plain ?_
  intro result d e twin
  cases result <;> exact twin.tied _

theorem Tied.signal {r s : Except Fault Completion × Desk} (tied : Tied r s) :
    Tied (Desk.signal r) (Desk.signal s) := by
  refine tied.then Desk.signal grows_signal ?_
  intro result d e twin
  cases result with
  | ok completion => exact twin.tied _
  | error f => exact (abreast_fail twin f).tied _

def succeed (r : Except Fault Completion × Desk) : Desk :=
  match r with
  | (.error f, d) => d.fail f
  | (.ok _, d) => (settle d.elect).2

theorem grows_succeed (r : Except Fault Completion × Desk) : r.2.attempts <+: (succeed r).attempts := by
  obtain ⟨result, d⟩ := r
  cases result with
  | error f => exact grows_fail d f
  | ok one => exact (grows_elect d).trans (grows_settle d.elect)

theorem abreast_succeed (result : Except Fault Completion) {d e : Desk} (twin : Twin d e) :
    Abreast (succeed (result, d)) (succeed (result, e)) := by
  cases result with
  | error f => exact abreast_fail twin f
  | ok one => exact (tied_elect twin).settle.abreast

def tellAll (r : Except Fault Completion × Desk) : Except Fault Completion × Desk :=
  match r with
  | (.error f, d) => (.error .alreadyShutdown, d.fail f)
  | (.ok revoked, d) =>
    match settle (d.announceAll none) with
    | (.ok told, d) => (.ok (revoked.merge told), d)
    | (.error f, d) => (.error f, d)

theorem tellAll_ok (revoked : Completion) (d : Desk) :
    tellAll (.ok revoked, d) = joined revoked (settle (d.announceAll none)) := by
  simp only [tellAll]
  cases settle (d.announceAll none) with
  | mk result e => cases result <;> rfl

theorem grows_tellAll (r : Except Fault Completion × Desk) : r.2.attempts <+: (tellAll r).2.attempts := by
  obtain ⟨result, d⟩ := r
  cases result with
  | error f => exact grows_fail d f
  | ok revoked =>
    have told : d.attempts <+: (settle (d.announceAll none)).2.attempts :=
      (grows_announce d none d.listeners.members).trans (grows_settle (d.announceAll none))
    rw [tellAll_ok, joined_desk]
    exact told

theorem tied_tellAll (result : Except Fault Completion) {d e : Desk} (twin : Twin d e) :
    Tied (tellAll (result, d)) (tellAll (result, e)) := by
  cases result with
  | error f => exact (abreast_fail twin f).tied _
  | ok revoked =>
    rw [tellAll_ok, tellAll_ok]
    exact (tied_announceAll twin none).settle.joined revoked

section Operations
variable {d e : Desk} (twin : Twin d e)
include twin

theorem tied_startContender (c : Contender) (party : Nat) :
    Tied (d.startContender c party) (e.startContender c party) := by
  by_cases down : d.down = true
  · rw [startContender, if_pos down, startContender, if_pos (twin.alike.down.trans down)]
    exact twin.tied _
  · have up : ¬ e.down = true := twin.alike.down ▸ down
    rw [startContender, if_neg down, startContender, if_neg up, twin.alike.active, twin.alike.contenders]
    cases (if d.active c.id then none else d.contenders.add? ⟨c, party⟩) with
    | none => exact (twin.tied _).settle
    | some contenders =>
      have entered := (twin.setContenders contenders).setActive c.id true
      exact (tied_elect (entered.note (.registered c.label))).plain.settle

theorem tied_startListener (l : Listener) (party : Nat) :
    Tied (d.startListener l party) (e.startListener l party) := by
  by_cases down : d.down = true
  · rw [startListener, if_pos down, startListener, if_pos (twin.alike.down.trans down)]
    exact twin.tied _
  · have up : ¬ e.down = true := twin.alike.down ▸ down
    rw [startListener, if_neg down, startListener, if_neg up, twin.alike.active, twin.alike.listeners]
    cases (if d.active l.id then none else d.listeners.add? ⟨l, party⟩) with
    | none => exact (twin.tied _).settle
    | some listeners =>
      have entered := (twin.setListeners listeners).setActive l.id true
      have slot := entered.alike.slot
      simp only
      rw [slot]
      cases ({ d with listeners := listeners }.setActive l.id true).slot.leader? with
      | none => exact entered.tied _
      | some leader => exact (tied_submit entered (.notify ⟨l, party⟩ (some leader))).plain.settle

theorem abreast_removeContender (c : Contender) : Abreast (d.removeContender c) (e.removeContender c) := by
  rw [removeContender, removeContender, twin.alike.active, twin.alike.down, twin.alike.contenders,
    twin.alike.leading]
  by_cases gone : d.active c.id = false ∨ d.down = true
  · rw [if_pos gone, if_pos gone]
    exact .inr twin
  · rw [if_neg gone, if_neg gone]
    cases removed : d.contenders.remove? c with
    | none => exact abreast_fail twin (strangeContender c.label)
    | some taken =>
      obtain ⟨m, contenders⟩ := taken
      have left := (twin.withdraw c contenders).note (.removed c.label (d.leading c.id))
      cases leading : d.leading c.id with
      | false =>
        rw [leading] at left
        exact (tied_elect left).settle.abreast
      | true =>
        rw [leading] at left
        exact (tied_submit left (.revoke m)).leads succeed grows_succeed fun result f g => abreast_succeed result

theorem abreast_removeListener (l : Listener) : Abreast (d.removeListener l) (e.removeListener l) := by
  have same : (e.active l.id = false ∨ e.down = true) ↔ (d.active l.id = false ∨ d.down = true) := by
    rw [twin.alike.active, twin.alike.down]
  by_cases gone : d.active l.id = false ∨ d.down = true
  · rw [removeListener, if_pos gone, removeListener, if_pos (same.mpr gone)]
    exact .inr twin
  · have stays : ¬ (e.active l.id = false ∨ e.down = true) := fun left => gone (same.mp left)
    rw [removeListener, if_neg gone, removeListener, if_neg stays, twin.alike.listeners]
    cases d.listeners.remove? l with
    | none => exact abreast_fail twin strangeListener
    | some taken => exact .inr ((twin.setListeners taken.2).setActive l.id false)

theorem tied_confirm (c : Contender) (token : Fence) (address : String) (now : Instant) :
    Tied (d.confirm c token address now) (e.confirm c token address now) := by
  rw [confirm, confirm, twin.alike.active, twin.alike.down, twin.alike.slot]
  by_cases gone : d.active c.id = false ∨ d.down = true
  · rw [if_pos gone, if_pos gone]
    exact (twin.note (.inactive c.label)).tied _
  · rw [if_neg gone, if_neg gone]
    by_cases stale : d.slot.proposed ≠ some c.id ∨ d.slot.token ≠ some token
    · rw [if_pos stale, if_pos stale]
      exact (twin.note (.stale c.label token)).tied _
    · rw [if_neg stale, if_neg stale]
      have committed := (twin.note (.confirmed c.label address token)).commit c address now
      exact (tied_announceAll committed (some ⟨address, token⟩)).signal

theorem tied_grant : Tied d.grant e.grant := by
  rw [Desk.grant, Desk.grant, twin.alike.down]
  by_cases down : d.down = true
  · rw [if_pos down, if_pos down]
    exact twin.tied _
  · rw [if_neg down, if_neg down]
    exact (tied_elect twin).settle

theorem tied_revoke : Tied d.revoke e.revoke := by
  rw [Desk.revoke, Desk.revoke, twin.alike.down, twin.alike.slot, twin.alike.contenders]
  by_cases down : d.down = true
  · rw [if_pos down, if_pos down]
    exact twin.tied _
  · rw [if_neg down, if_neg down]
    cases d.slot.holder? with
    | none => exact twin.tied _
    | some id =>
      simp only
      cases d.contenders.get? id with
      | none => exact (tied_announceAll twin.vacate none).settle
      | some m =>
        have deposed := (twin.vacate.note (.revoking m.registration.label)).setLeading m.id false
        exact (tied_submit deposed (.revoke m)).then tellAll grows_tellAll fun result f g => tied_tellAll result

end Operations
end Desk
end Leadership
