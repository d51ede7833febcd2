import Leadership.Proofs.Stage
import Leadership.Proofs.Twin

set_option autoImplicit false

namespace Leadership

def Call.asked? : Call → Option Call
  | .launch _ => some (.launch {})
  | .replan _ _ => none
  | c => some c

def Call.told? (answered : Call × Answer) : Option (Call × Answer) :=
  answered.1.asked?.map fun c => (c, answered.2)

def Service.bare (v : Service) : Service := { v with plan := {} }

-- What is accepted and what is rejected, and why, is the same as far as both histories go.
def Concur (as bs : List Attempt) : Prop :=
  ∀ (x : Nat) (a b : Attempt), as[x]? = some a → bs[x]? = some b → a.verdict.refusal? = b.verdict.refusal?

theorem concur_of_refusals {as bs : List Attempt}
    (same : as.map (fun a => a.verdict.refusal?) = bs.map fun b => b.verdict.refusal?) : Concur as bs := by
  intro x a b inLeft inRight
  have place := congrArg (fun l => l[x]?) same
  simpa only [List.getElem?_map, inLeft, inRight, Option.map_some, Option.some.injEq] using place

theorem Concur.together {as bs : List Attempt} (concur : Concur as bs) : ¬ Split as bs := by
  rintro ⟨x, a, b, inLeft, inRight, different⟩
  exact different (concur x a b inLeft inRight)

namespace System

structure Matches (sys next : System) : Prop where
  services : next.services.map Service.bare = sys.services.map Service.bare
  published : ∀ s, next.published s = sys.published s
  enrolled : next.enrolled = sys.enrolled
  active : next.ledger.active = sys.ledger.active
  leading : next.ledger.leading = sys.ledger.leading
  minted : next.ledger.minted = sys.ledger.minted
  orders : next.ledger.attempts.map Attempt.order = sys.ledger.attempts.map Attempt.order

inductive Twin (sys : System) : System → Prop
  | mk (services : List Service) (attempts : List Attempt) (notes : List Note)
      (same : services.map Service.bare = sys.services.map Service.bare)
      (orders : attempts.map Attempt.order = sys.ledger.attempts.map Attempt.order) :
      Twin sys { sys with
        services := services, ledger := { sys.ledger with attempts := attempts, notes := notes } }

def Tied (r s : Answer × System) : Prop :=
  Split r.2.ledger.attempts s.2.ledger.attempts ∨ (s.1 = r.1 ∧ Twin r.2 s.2)

variable {sys next : System}

theorem Twin.refl (sys : System) : Twin sys sys :=
  .mk sys.services sys.ledger.attempts sys.ledger.notes rfl rfl

theorem bare_eq {v w : Service} (same : w.bare = v.bare) : w = { v with plan := w.plan } := by
  cases v
  cases w
  cases same
  rfl

theorem Twin.service (twin : Twin sys next) (s : Nat) :
    (sys.services[s]? = none ∧ next.services[s]? = none) ∨
      ∃ v plan, sys.services[s]? = some v ∧ next.services[s]? = some { v with plan := plan } := by
  cases twin with
  | mk services attempts notes same orders =>
    have place := congrArg (fun l => l[s]?) same
    simp only [List.getElem?_map] at place
    cases found : sys.services[s]? with
    | none =>
      rw [found] at place
      exact .inl ⟨rfl, Option.map_eq_none_iff.mp place⟩
    | some v =>
      rw [found] at place
      obtain ⟨w, present, bare⟩ := Option.map_eq_some_iff.mp place
      exact .inr ⟨v, w.plan, rfl, bare_eq bare ▸ present⟩

theorem Twin.matches (twin : Twin sys next) : Matches sys next := by
  have published (s : Nat) : next.published s = sys.published s := by
    rcases twin.service s with ⟨missing, missing'⟩ | ⟨v, plan, found, found'⟩
    · rw [System.published, System.published, missing, missing']
    · rw [System.published, System.published, found, found']
      rfl
  cases twin with
  | mk services attempts notes same orders => exact ⟨same, published, rfl, rfl, rfl, rfl, orders⟩

theorem Twin.cleared (twin : Twin sys next) : Twin sys.cleared next.cleared := by
  cases twin with
  | mk services attempts notes same orders => exact @Twin.mk sys.cleared services attempts [] same orders

theorem Twin.desk (twin : Twin sys next) (s : Nat) (v : Service) (plan : Plan) :
    Desk.Twin (sys.desk s v) (next.desk s { v with plan := plan }) := by
  cases twin with
  | mk services attempts notes same orders => exact @Desk.Twin.mk (sys.desk s v) plan attempts notes orders

theorem Twin.store (twin : Twin sys next) (s : Nat) {d e : Desk} (desks : Desk.Twin d e) :
    Twin (sys.store s d) (next.store s e) := by
  cases twin with
  | mk services attempts notes same orders =>
    cases desks with
    | mk plan attempts' notes' orders' =>
      refine @Twin.mk (sys.store s d) _ attempts' notes' ?_ orders'
      simp only [System.store, List.map_set, same]
      rfl

theorem Twin.enrolled (twin : Twin sys next) : next.enrolled = sys.enrolled := by
  cases twin
  rfl

theorem Twin.symm (twin : Twin sys next) : Twin next sys := by
  cases twin with
  | mk services attempts notes same orders =>
    exact .mk sys.services sys.ledger.attempts sys.ledger.notes same.symm orders.symm

theorem Twin.trans {other : System} (first : Twin sys next) (second : Twin next other) : Twin sys other := by
  cases first with
  | mk services attempts notes same orders =>
    cases second with
    | mk services' attempts' notes' same' orders' =>
      exact .mk services' attempts' notes' (same'.trans same) (orders'.trans orders)

theorem Twin.launch (twin : Twin sys next) (plan plan' : Plan) :
    Twin (sys.act (.launch plan)).2 (next.act (.launch plan')).2 := by
  cases twin with
  | mk services attempts notes same orders =>
    refine @Twin.mk (sys.act (.launch plan)).2 (services ++ [{ plan := plan' }]) attempts notes ?_ orders
    simp only [act, List.map_append, same, List.map_cons, List.map_nil, Service.bare]

theorem Twin.enroll (twin : Twin sys next) (s : Nat) (make : Nat → Handle) :
    Tied (sys.enroll s make) (next.enroll s make) := by
  rcases twin.service s with ⟨missing, missing'⟩ | ⟨v, plan, found, found'⟩
  · rw [System.enroll, System.enroll, missing, missing']
    exact .inr ⟨rfl, twin⟩
  · cases down : v.down with
    | true =>
      simp only [System.enroll, found, found', down, if_true]
      exact .inr ⟨rfl, twin⟩
    | false =>
      simp only [System.enroll, found, found', down, Bool.false_eq_true, if_false, twin.enrolled]
      refine .inr ⟨rfl, ?_⟩
      cases twin with
      | mk services attempts notes same orders =>
        exact @Twin.mk { sys with enrolled := sys.enrolled ++ [make (sys.enrolled.length + 1)] }
          services attempts notes same orders

theorem Twin.visit (twin : Twin sys next) (s : Nat) (work : Desk → Answer × Desk)
    (tied : ∀ d e, Desk.Twin d e → Desk.Tied (work d) (work e)) :
    Tied (sys.visit s work) (next.visit s work) := by
  rcases twin.service s with ⟨missing, missing'⟩ | ⟨v, plan, found, found'⟩
  · rw [System.visit, System.visit, missing, missing']
    exact .inr ⟨rfl, twin⟩
  · rw [System.visit, System.visit, found, found']
    rcases tied _ _ (twin.desk s v plan) with split | ⟨same, desks⟩
    · exact .inl split
    · exact .inr ⟨same, twin.store s desks⟩

theorem tied_ofUnit {r s : Except Fault Unit × Desk} (tied : Desk.Tied r s) : Desk.Tied (ofUnit r) (ofUnit s) := by
  refine tied.then ofUnit (fun r => (ofUnit_desk r).symm ▸ List.prefix_refl _) ?_
  intro result d e twin
  cases result <;> exact twin.tied _

theorem tied_ofCompletion {r s : Except Fault Completion × Desk} (tied : Desk.Tied r s) :
    Desk.Tied (ofCompletion r) (ofCompletion s) := by
  refine tied.then ofCompletion (fun r => (ofCompletion_desk r).symm ▸ List.prefix_refl _) ?_
  intro result d e twin
  cases result <;> exact twin.tied _

theorem Twin.act (twin : Twin sys next) (call : Call) (asked : call.asked? = some call) :
    Tied (sys.act call) (next.act call) := by
  cases call with
  | launch plan => exact .inr ⟨rfl, twin.launch plan plan⟩
  | createContender s component => exact twin.enroll s _
  | createListener s => exact twin.enroll s _
  | start h party =>
    cases h with
    | contender c => exact twin.visit c.home _ fun d e desks => tied_ofUnit (Desk.tied_startContender desks c party)
    | listener l => exact twin.visit l.home _ fun d e desks => tied_ofUnit (Desk.tied_startListener desks l party)
  | remove s h =>
    cases h with
    | contender c => exact twin.visit s _ fun d e desks => (Desk.abreast_removeContender desks c).tied Answer.done
    | listener l => exact twin.visit s _ fun d e desks => (Desk.abreast_removeListener desks l).tied Answer.done
  | confirm c token address now =>
    refine twin.visit c.home _ fun d e desks => ?_
    exact (Desk.tied_confirm desks c token address now).then (fun r => (Answer.completion r.1, r.2))
      (fun r => List.prefix_refl _) fun result d e desks => desks.tied _
  | grant s => exact twin.visit s _ fun d e desks => tied_ofCompletion (Desk.tied_grant desks)
  | revoke s => exact twin.visit s _ fun d e desks => tied_ofCompletion (Desk.tied_revoke desks)
  | shutDown s cause => exact twin.visit s _ fun d e desks => (Desk.abreast_shutDown desks cause).tied Answer.done
  | replan => cases asked

theorem asked_cases {call asked : Call} (same : call.asked? = some asked) :
    (∃ plan, call = .launch plan ∧ asked = .launch {}) ∨ (call = asked ∧ asked.asked? = some asked) := by
  cases call with
  | launch plan =>
    cases same
    exact .inl ⟨plan, rfl, rfl⟩
  | replan => cases same
  | createContender | createListener | start | remove | confirm | grant | revoke | shutDown =>
    cases same
    exact .inr ⟨rfl, rfl⟩

theorem Twin.apply (twin : Twin sys next) (call call' asked : Call) (left : call.asked? = some asked)
    (right : call'.asked? = some asked) : Tied (sys.apply call) (next.apply call') := by
  rcases asked_cases left with ⟨plan, rfl, rfl⟩ | ⟨rfl, known⟩
  · rcases asked_cases right with ⟨plan', rfl, _⟩ | ⟨rfl, _⟩
    · exact .inr ⟨rfl, twin.cleared.launch plan plan'⟩
    · exact .inr ⟨rfl, twin.cleared.launch plan {}⟩
  · rcases asked_cases right with ⟨plan', rfl, rfl⟩ | ⟨rfl, _⟩
    · exact .inr ⟨rfl, twin.cleared.launch {} plan'⟩
    · exact twin.cleared.act call' known

theorem twin_replan (call : Call) (unasked : call.asked? = none) : Twin sys (sys.apply call).2 := by
  cases call with
  | replan s plan =>
    have applied : sys.apply (.replan s plan) =
        sys.cleared.visit s fun d => (.done, { d with plan := plan }) := rfl
    rw [applied]
    cases found : sys.services[s]? with
    | none =>
      have missing : sys.cleared.services[s]? = none := found
      rw [visit, missing]
      exact .mk sys.services sys.ledger.attempts [] rfl rfl
    | some v =>
      have there : sys.cleared.services[s]? = some v := found
      rw [visit, there]
      refine .mk _ sys.ledger.attempts [] ?_ rfl
      have kept := (List.getElem?_eq_some_iff.mp found).2
      have bare : (sys.services.map Service.bare).set s v.bare = sys.services.map Service.bare := by
        rw [← List.map_set, ← kept, List.set_getElem_self]
      simp only [List.map_set]
      exact bare
  | launch | createContender | createListener | start | remove | confirm | grant | revoke | shutDown => cases unasked

end System

namespace Scenario.Scene

def asked (w : Scene) (i : Nat) : List Call := (w.history.take i).filterMap Call.asked?

def told (w : Scene) (i : Nat) : List (Call × Answer) := (w.calls.take i).filterMap Call.told?

inductive Further (w : Scene) (i : Nat) : Prop
  | nothing (twin : System.Twin (System.before w.history i) (System.before w.history (i + 1)))
      (asked : w.asked (i + 1) = w.asked i) (told : w.told (i + 1) = w.told i)
  | call (c k : Call) (visible : c.asked? = some k)
      (after : System.before w.history (i + 1) = ((System.before w.history i).apply c).2)
      (asked : w.asked (i + 1) = w.asked i ++ [k])
      (told : w.told (i + 1) = w.told i ++ [(k, ((System.before w.history i).apply c).1)])

theorem further (w : Scene) (recorded : w.Recorded) (i : Nat) : w.Further i := by
  cases found : w.calls[i]? with
  | none =>
    have missing : w.history[i]? = none := by rw [history, List.getElem?_map, found, Option.map_none]
    refine .nothing ?_ ?_ ?_
    · rw [System.before_end w.history i missing]
      exact System.Twin.refl _
    · simp [Scene.asked, List.take_add_one, missing]
    · simp [Scene.told, List.take_add_one, found]
  | some pair =>
    obtain ⟨c, a⟩ := pair
    have here : w.history[i]? = some c := by rw [history, List.getElem?_map, found, Option.map_some]
    have after := System.before_succ w.history i c here
    have answered := recorded.answers i c a found
    cases visible : c.asked? with
    | none =>
      refine .nothing (after ▸ System.twin_replan c visible) ?_ ?_
      · simp [Scene.asked, List.take_add_one, here, visible]
      · simp [Scene.told, List.take_add_one, found, Call.told?, visible]
    | some k =>
      refine .call c k visible after ?_ ?_
      · simp [Scene.asked, List.take_add_one, here, visible]
      · simp [Scene.told, List.take_add_one, found, Call.told?, visible, answered]

theorem concur_earlier {as bs as' bs' : List Attempt} (concur : Concur as' bs') (left : as <+: as')
    (right : bs <+: bs') : Concur as bs :=
  fun x a b inLeft inRight => concur x a b (prefix_getElem left inLeft) (prefix_getElem right inRight)

theorem asked_zero (w : Scene) : w.asked 0 = [] := rfl

-- The two runs in step. A call that only one of them has made is a new plan for an executor, and is passed over.
theorem twin_at (v w : Scene) (left : v.Recorded) (right : w.Recorded) (i j : Nat) (same : v.asked i = w.asked j)
    (concur : Concur (System.before v.history i).ledger.attempts (System.before w.history j).ledger.attempts) :
    System.Twin (System.before v.history i) (System.before w.history j) ∧ w.told j = v.told i := by
  have grownLeft (i : Nat) := (System.grown_succ left.lawful i).attempts
  have grownRight (j : Nat) := (System.grown_succ right.lawful j).attempts
  induction i generalizing j with
  | zero =>
    induction j with
    | zero => exact ⟨System.Twin.refl _, rfl⟩
    | succ j ih =>
      cases w.further right j with
      | nothing twin asked told =>
        obtain ⟨so_far, answers⟩ := ih (same.trans asked) (concur_earlier concur (List.prefix_refl _) (grownRight j))
        exact ⟨so_far.trans twin, told.trans answers⟩
      | call c k visible after asked told =>
        rw [asked] at same
        exact absurd same (by simp [asked_zero])
  | succ i ih =>
    cases v.further left i with
    | nothing twin asked told =>
      obtain ⟨so_far, answers⟩ := ih j (asked.symm.trans same)
        (concur_earlier concur (grownLeft i) (List.prefix_refl _))
      exact ⟨twin.symm.trans so_far, answers.trans told.symm⟩
    | call c k visible after asked told =>
      induction j with
      | zero =>
        rw [asked] at same
        exact absurd same (by simp [asked_zero])
      | succ j inner =>
        cases w.further right j with
        | nothing twin asked' told' =>
          obtain ⟨so_far, answers⟩ := inner (same.trans asked')
            (concur_earlier concur (List.prefix_refl _) (grownRight j))
          exact ⟨so_far.trans twin, told'.trans answers⟩
        | call c' k' visible' after' asked' told' =>
          rw [asked, asked'] at same
          obtain ⟨earlier, equal⟩ := List.append_inj' same rfl
          cases equal
          obtain ⟨so_far, answers⟩ := ih j earlier (concur_earlier concur (grownLeft i) (grownRight j))
          rcases so_far.apply c c' k visible visible' with split | ⟨answer, twin⟩
          · rw [after, after'] at concur
            exact absurd split concur.together
          · rw [after, after', told, told', answers, answer]
            exact ⟨twin, rfl⟩

-- At any two moments by which the same has been asked. The systems are those that the scenes had when those
-- calls had been made, the present one after all of them.
theorem callbacks_without_influence (v w : Scene) (ts us : List Turn) (left : Staged v ts) (right : Staged w us)
    (i j : Nat) (same : v.asked i = w.asked j)
    (concur : Concur (System.before v.history i).ledger.attempts (System.before w.history j).ledger.attempts) :
    System.Matches (System.before v.history i) (System.before w.history j) ∧ w.told j = v.told i ∧
      v.system = System.before v.history v.calls.length ∧ w.system = System.before w.history w.calls.length := by
  have recorded := recorded_staged left
  have recorded' := recorded_staged right
  obtain ⟨twin, told⟩ := twin_at v w recorded recorded' i j same concur
  have length (w : Scene) : w.history.length = w.calls.length := List.length_map _
  refine ⟨twin.matches, told, ?_, ?_⟩
  · rw [← length, System.before_all, ← recorded.system]
  · rw [← length, System.before_all, ← recorded'.system]

def turned (w : Scene) : Scene := w.turn?.getD w

theorem staged_turned {w : Scene} {ts : List Turn} (staged : Staged w ts) : ∃ us, Staged w.turned us := by
  cases next : w.turn? with
  | none =>
    rw [turned, next]
    exact ⟨ts, staged⟩
  | some v =>
    obtain ⟨us, taken⟩ := staged_turn staged next
    rw [turned, next]
    exact ⟨_, taken⟩

-- A contender panics at once when it is granted leadership, and a listener fails twice over when it is told
-- of it. In between the contender confirms.
def rough : Scene :=
  let joined : Scene := (performAll
    [.register 0 "lead" "a" { onGrant := [[.burst none]] },
      .listen 0 "l" { onNotify := [[.fail (.returned "no route" [])]], onError := [[.fail (.panicked none)]] }]
    (addService {} ⟨.parallel, true⟩ {})).2
  (performAll [.confirm "a" "@current" "west" none] joined.turned).2.turned

def still : Scene :=
  (performAll
    [.register 0 "lead" "a" {}, .drop 0 1 0, .listen 0 "l" {}, .confirm "a" "t1" "west" (some "told")]
    (addService {} ⟨.manual, true⟩ ⟨[.accept], .discard⟩)).2

theorem rough_still_alike :
    rough.fate 0 = some .dropped ∧ rough.fate 1 = some .finished ∧ still.fate 1 = some .dropped ∧
      System.Matches (System.before rough.history 6) (System.before still.history 6) ∧
      still.told 6 = rough.told 6 ∧ still.system.hasLeadership ⟨1, 0, "lead", 1⟩ (.minted 1) = true := by
  obtain ⟨ts, first⟩ := staged_turned (staged_performAll (.launch {} [] (.empty _) ⟨.parallel, true⟩ {})
    [.register 0 "lead" "a" { onGrant := [[.burst none]] },
      .listen 0 "l" { onNotify := [[.fail (.returned "no route" [])]], onError := [[.fail (.panicked none)]] }])
  obtain ⟨us, left⟩ := staged_turned (staged_performAll first [.confirm "a" "@current" "west" none])
  have right := staged_performAll (.launch {} [] (.empty _) ⟨.manual, true⟩ ⟨[.accept], .discard⟩)
    [.register 0 "lead" "a" {}, .drop 0 1 0, .listen 0 "l" {}, .confirm "a" "t1" "west" (some "told")]
  have concur :
      Concur (System.before rough.history 6).ledger.attempts (System.before still.history 6).ledger.attempts :=
    concur_of_refusals (by decide)
  obtain ⟨alike, told, _, _⟩ := callbacks_without_influence rough still us [] left right 6 6 (by decide) concur
  exact ⟨rfl, rfl, rfl, alike, told, by decide⟩

end Scenario.Scene
end Leadership
