import Leadership.Proofs.Sound

set_option autoImplicit false

namespace Leadership

theorem prefix_getElem {α : Type} {as bs : List α} (grown : as <+: bs) {x : Nat} {a : α}
    (found : as[x]? = some a) : bs[x]? = some a := by
  obtain ⟨within, rfl⟩ := List.getElem?_eq_some_iff.mp found
  exact List.prefix_iff_getElem?.mp grown x within

def Call.service? : Call → Option Nat
  | .launch _ | .createContender _ _ | .createListener _ => none
  | .start h _ => some h.home
  | .confirm c _ _ _ => some c.home
  | .remove s _ | .grant s | .revoke s | .shutDown s _ | .replan s _ => some s

instance (enrolled : List Handle) : (c : Call) → Decidable (c.Held enrolled)
  | .start h _ | .remove _ h => inferInstanceAs (Decidable (h ∈ enrolled))
  | .confirm c _ _ _ => inferInstanceAs (Decidable (Handle.contender c ∈ enrolled))
  | .launch _ | .createContender _ _ | .createListener _ | .grant _ | .revoke _ | .shutDown _ _
  | .replan _ _ => inferInstanceAs (Decidable True)

namespace System

-- Calls that can be made one after the other, as each has its handle from before.
def Lawful : System → List Call → Prop
  | _, [] => True
  | sys, c :: cs => c.Held sys.enrolled ∧ Lawful (sys.apply c).2 cs

instance decidableLawful : (sys : System) → (calls : List Call) → Decidable (sys.Lawful calls)
  | _, [] => inferInstanceAs (Decidable True)
  | sys, c :: cs =>
    have := decidableLawful (sys.apply c).2 cs
    inferInstanceAs (Decidable (_ ∧ _))

def cleared (sys : System) : System := { sys with ledger := { sys.ledger with notes := [] } }

structure Sound (sys : System) : Prop where
  ids : ∀ i h, sys.enrolled[i]? = some h → h.id = i + 1
  homes : ∀ h ∈ sys.enrolled, h.home < sys.services.length
  idle : ∀ id, sys.enrolled.length < id →
    sys.ledger.active id = false ∧ sys.ledger.leading id = false
  desks : ∀ s v, sys.services[s]? = some v → (sys.desk s v).Sound sys.enrolled

variable {sys next : System} {call : Call}

theorem Sound.handle_unique (sound : sys.Sound) {g h : Handle} (left : g ∈ sys.enrolled)
    (right : h ∈ sys.enrolled) (same : g.id = h.id) : g = h := by
  obtain ⟨i, atI⟩ := List.mem_iff_getElem?.mp left
  obtain ⟨j, atJ⟩ := List.mem_iff_getElem?.mp right
  have equal : i = j := by
    have first := sound.ids i g atI
    have second := sound.ids j h atJ
    omega
  subst equal
  exact Option.some.inj (atI.symm.trans atJ)

theorem Sound.contender_alone (sound : sys.Sound) {c : Contender} (known : .contender c ∈ sys.enrolled) {s : Nat}
    {v : Service} (found : sys.services[s]? = some v) (m : Member String) (member : m ∈ v.contenders.members)
    (same : m.id = c.id) : m.registration = c :=
  Handle.contender.inj (sound.handle_unique ((sound.desks s v found).contenders m member).1 known same)

theorem Sound.listener_alone (sound : sys.Sound) {l : Listener} (known : .listener l ∈ sys.enrolled) {s : Nat}
    {v : Service} (found : sys.services[s]? = some v) (m : Member Unit) (member : m ∈ v.listeners.members)
    (same : m.id = l.id) : m.registration = l :=
  Handle.listener.inj (sound.handle_unique ((sound.desks s v found).listeners m member).1 known same)

theorem Sound.id_le (sound : sys.Sound) {h : Handle} (known : h ∈ sys.enrolled) :
    h.id ≤ sys.enrolled.length := by
  obtain ⟨i, found⟩ := List.mem_iff_getElem?.mp known
  have bound := (List.getElem?_eq_some_iff.mp found).1
  have := sound.ids i h found
  omega

theorem Sound.service_of (sound : sys.Sound) {h : Handle} (known : h ∈ sys.enrolled) :
    ∃ v, sys.services[h.home]? = some v :=
  ⟨_, List.getElem?_eq_getElem (sound.homes h known)⟩

theorem Sound.start : Sound {} := by
  constructor <;> simp

theorem Sound.cleared (sound : sys.Sound) : sys.cleared.Sound :=
  ⟨sound.ids, sound.homes, sound.idle, fun s v found =>
    (sound.desks s v found).alike ⟨rfl, rfl, rfl, rfl, rfl, rfl, rfl, rfl, rfl⟩⟩

inductive Takes (sys : System) (call : Call) : System → Prop
  | nothing : Takes sys call sys
  | launch (plan : Plan) : Takes sys call { sys with services := sys.services ++ [{ plan := plan }] }
  | enroll (h : Handle) (home : h.home < sys.services.length) (id : h.id = sys.enrolled.length + 1) :
      Takes sys call { sys with enrolled := sys.enrolled ++ [h] }
  | visit (s : Nat) (v : Service) (e : Desk) (reached : call.service? = some s)
      (found : sys.services[s]? = some v) (moves : Desk.Moves call (sys.desk s v) e) :
      Takes sys call (sys.store s e)

theorem enroll_takes (sys : System) (call : Call) (s : Nat) (make : Nat → Handle)
    (home : ∀ id, (make id).home = s) (id : ∀ id, (make id).id = id) :
    Takes sys call (sys.enroll s make).2 := by
  cases found : sys.services[s]? with
  | none =>
    rw [enroll, found]
    exact .nothing
  | some v =>
    by_cases down : v.down = true
    · simp only [enroll, found, down, if_true]
      exact .nothing
    · simp only [enroll, found, down, Bool.false_eq_true, if_false]
      refine .enroll _ ?_ (id _)
      rw [home]
      exact (List.getElem?_eq_some_iff.mp found).1

theorem visit_takes (sys : System) (call : Call) (s : Nat) (work : Desk → Answer × Desk)
    (reached : call.service? = some s)
    (moves : ∀ v, sys.services[s]? = some v →
      Desk.Moves call (sys.desk s v) (work (sys.desk s v)).2) :
    Takes sys call (sys.visit s work).2 := by
  cases found : sys.services[s]? with
  | none =>
    rw [visit, found]
    exact .nothing
  | some v =>
    rw [visit, found]
    exact .visit s v _ reached found (moves v found)

theorem ofUnit_desk (r : Except Fault Unit × Desk) : (ofUnit r).2 = r.2 := by
  obtain ⟨result, e⟩ := r
  cases result <;> rfl

theorem ofCompletion_desk (r : Except Fault Completion × Desk) : (ofCompletion r).2 = r.2 := by
  obtain ⟨result, e⟩ := r
  cases result <;> rfl

theorem act_takes (sound : sys.Sound) (call : Call) : Takes sys call (sys.act call).2 := by
  cases call with
  | launch plan => exact .launch plan
  | createContender s component => exact enroll_takes sys _ s _ (fun _ => rfl) fun _ => rfl
  | createListener s => exact enroll_takes sys _ s _ (fun _ => rfl) fun _ => rfl
  | start h party =>
    cases h with
    | contender c =>
      refine visit_takes sys _ c.home _ rfl fun v _ => ?_
      rw [ofUnit_desk]
      exact Desk.moves_startContender (sys.desk c.home v) c party rfl
    | listener l =>
      refine visit_takes sys _ l.home _ rfl fun v _ => ?_
      rw [ofUnit_desk]
      exact Desk.moves_startListener (sys.desk l.home v) l party rfl
  | remove s h =>
    cases h with
    | contender c =>
      exact visit_takes sys _ s _ rfl fun v _ => Desk.moves_removeContender (sys.desk s v) s c
    | listener l =>
      exact visit_takes sys _ s _ rfl fun v _ => Desk.moves_removeListener (sys.desk s v) s l
  | confirm c token address now =>
    exact visit_takes sys _ c.home _ rfl fun v _ =>
      Desk.moves_confirm (sys.desk c.home v) c token address now rfl
  | grant s =>
    refine visit_takes sys _ s _ rfl fun v _ => ?_
    rw [ofCompletion_desk]
    exact Desk.moves_grant (sys.desk s v) s
  | revoke s =>
    refine visit_takes sys _ s _ rfl fun v found => ?_
    rw [ofCompletion_desk]
    exact Desk.moves_revoke (sys.desk s v) s (sound.desks s v found).seated
  | shutDown s cause =>
    exact visit_takes sys _ s _ rfl fun v _ => Desk.moves_shutDown _ (sys.desk s v) cause
  | replan s plan =>
    exact visit_takes sys _ s _ rfl fun v _ => .single (.replan s (sys.desk s v) plan)

theorem apply_takes (sound : sys.Sound) (call : Call) : Takes sys.cleared call (sys.apply call).2 :=
  act_takes sound.cleared call

theorem takes_service (takes : Takes sys call next) (s : Nat) (w : Service)
    (found : next.services[s]? = some w) :
    sys.services[s]? = some w ∨ (∃ plan, w = { plan := plan }) ∨
      ∃ v e, call.service? = some s ∧ sys.services[s]? = some v ∧ Desk.Moves call (sys.desk s v) e ∧
        w = e.toService ∧ next = sys.store s e := by
  cases takes with
  | nothing => exact .inl found
  | launch plan =>
    by_cases old : s < sys.services.length
    · rw [List.getElem?_append_left old] at found
      exact .inl found
    · rw [List.getElem?_append_right (Nat.le_of_not_lt old)] at found
      exact .inr (.inl ⟨plan, (List.mem_singleton.mp (List.mem_of_getElem? found))⟩)
  | enroll h home id => exact .inl found
  | visit t v e reached present moves =>
    by_cases same : t = s
    · subst same
      have bound := (List.getElem?_eq_some_iff.mp present).1
      have stored : w = e.toService := by
        simp only [store, List.getElem?_set_self bound, Option.some.injEq] at found
        exact found.symm
      exact .inr (.inr ⟨v, e, reached, present, moves, stored, rfl⟩)
    · simp only [store, List.getElem?_set_ne same] at found
      exact .inl found

theorem store_service (s : Nat) (v : Service) (e : Desk) (found : sys.services[s]? = some v) :
    (sys.store s e).services[s]? = some e.toService :=
  List.getElem?_set_self (List.getElem?_eq_some_iff.mp found).1

theorem takes_kept (takes : Takes sys call next) (s : Nat) (v : Service) (found : sys.services[s]? = some v) :
    ∃ w, next.services[s]? = some w ∧ (w = v ∨ ∃ e, call.service? = some s ∧
      Desk.Moves call (sys.desk s v) e ∧ w = e.toService ∧ next = sys.store s e) := by
  cases takes with
  | nothing | enroll => exact ⟨v, found, .inl rfl⟩
  | launch plan =>
    have within := (List.getElem?_eq_some_iff.mp found).1
    exact ⟨v, (List.getElem?_append_left within).trans found, .inl rfl⟩
  | visit t u e reached present moves =>
    by_cases same : t = s
    · subst same
      cases found.symm.trans present
      exact ⟨e.toService, store_service t v e found, .inr ⟨e, reached, moves, rfl, rfl⟩⟩
    · exact ⟨v, (List.getElem?_set_ne same).trans found, .inl rfl⟩

theorem takes_enrolled (takes : Takes sys call next) : sys.enrolled <+: next.enrolled := by
  cases takes with
  | nothing | launch | visit => exact List.prefix_refl _
  | enroll h home id => exact List.prefix_append _ _

theorem Sound.enroll (sound : sys.Sound) (h : Handle) (home : h.home < sys.services.length)
    (id : h.id = sys.enrolled.length + 1) :
    Sound { sys with enrolled := sys.enrolled ++ [h] } := by
  have idle := sound.idle h.id (by omega)
  have split (s i : Nat) (own : Own (sys.enrolled ++ [h]) s i) : Own sys.enrolled s i ∨ i = h.id := by
    obtain ⟨g, known, at_, same⟩ := own
    rcases List.mem_append.mp known with old | new
    · exact .inl ⟨g, old, at_, same⟩
    · rw [List.mem_singleton.mp new] at same
      exact .inr same.symm
  refine ⟨?_, ?_, ?_, ?_⟩
  · intro i g found
    by_cases old : i < sys.enrolled.length
    · rw [List.getElem?_append_left old] at found
      exact sound.ids i g found
    · have bound := (List.getElem?_eq_some_iff.mp found).1
      rw [List.getElem?_append_right (Nat.le_of_not_lt old)] at found
      rw [List.mem_singleton.mp (List.mem_of_getElem? found), id]
      simp only [List.length_append, List.length_singleton] at bound
      omega
  · intro g known
    rcases List.mem_append.mp known with old | new
    · exact sound.homes g old
    · rw [List.mem_singleton.mp new]
      exact home
  · intro i beyond
    simp only [List.length_append, List.length_singleton] at beyond
    exact sound.idle i (by omega)
  · intro s v found
    have desk := sound.desks s v found
    have nobody : h.id ∉ (sys.desk s v).ids := by
      intro held
      obtain ⟨g, known, _, same⟩ := desk.own_ids held
      have := sound.id_le known
      omega
    refine ⟨desk.slot, desk.published, desk.seated, desk.distinct,
      fun m member => ⟨List.mem_append_left _ (desk.contenders m member).1, (desk.contenders m member).2⟩,
      fun m member => ⟨List.mem_append_left _ (desk.listeners m member).1, (desk.listeners m member).2⟩,
      ?_, ?_, desk.down⟩
    · intro i own
      rcases split s i own with old | rfl
      · exact desk.active i old
      · exact iff_of_false (by simp [System.desk, idle.1]) nobody
    · intro i own
      rcases split s i own with old | rfl
      · exact desk.leading i old
      · refine iff_of_false (by simp [System.desk, idle.2]) ?_
        intro holder
        exact nobody ((Desk.mem_ids _ _).mpr (.inl (desk.seated h.id holder)))

theorem Sound.launch (sound : sys.Sound) (plan : Plan) :
    Sound { sys with services := sys.services ++ [{ plan := plan }] } := by
  refine ⟨sound.ids, ?_, sound.idle, ?_⟩
  · intro h known
    have := sound.homes h known
    simp only [List.length_append, List.length_singleton]
    omega
  · intro s v found
    by_cases old : s < sys.services.length
    · rw [List.getElem?_append_left old] at found
      exact sound.desks s v found
    · rw [List.getElem?_append_right (Nat.le_of_not_lt old)] at found
      have fresh : v = { plan := plan } := List.mem_singleton.mp (List.mem_of_getElem? found)
      have nobody (i : Nat) : ¬ Own sys.enrolled s i := by
        intro ⟨h, known, home, _⟩
        have := sound.homes h known
        omega
      subst fresh
      refine ⟨Slot.empty_coherent, rfl, ?_, List.nodup_nil, ?_, ?_, fun i own => absurd own (nobody i),
        fun i own => absurd own (nobody i), ?_⟩
      · intro i holder
        cases holder
      · intro m member
        cases member
      · intro m member
        cases member
      · intro down
        cases down

theorem Sound.visit (sound : sys.Sound) (held : call.Held sys.enrolled) (s : Nat) (v : Service) (e : Desk)
    (found : sys.services[s]? = some v) (moves : Desk.Moves call (sys.desk s v) e) :
    (sys.store s e).Sound := by
  have before := sound.desks s v found
  have after := Desk.sound_moves before held moves
  obtain ⟨number, beside⟩ := Desk.beside_moves before held moves
  have length : (sys.store s e).services.length = sys.services.length := List.length_set
  refine ⟨sound.ids, ?_, ?_, ?_⟩
  · intro h known
    rw [length]
    exact sound.homes h known
  · intro id beyond
    have foreign : ¬ Own sys.enrolled s id := by
      intro ⟨h, known, _, same⟩
      have := sound.id_le known
      simp only [store] at beyond
      omega
    obtain ⟨active, leading⟩ := beside id foreign
    obtain ⟨inactive, following⟩ := sound.idle id beyond
    exact ⟨active.trans inactive, leading.trans following⟩
  · intro t w present
    by_cases same : s = t
    · subst same
      have bound := (List.getElem?_eq_some_iff.mp found).1
      simp only [store, List.getElem?_set_self bound, Option.some.injEq] at present
      subst present
      have number' : e.number = s := number
      exact after.alike ⟨rfl, rfl, rfl, rfl, rfl, rfl, rfl, rfl, number'.symm⟩
    · simp only [store, List.getElem?_set_ne same] at present
      have other := sound.desks t w present
      have foreign (id : Nat) (own : Own sys.enrolled t id) : ¬ Own sys.enrolled s id := by
        intro ⟨g, known, home, same'⟩
        obtain ⟨h, known', home', same''⟩ := own
        have equal := sound.handle_unique known known' (same'.trans same''.symm)
        exact same (home.symm.trans ((congrArg Handle.home equal).trans home'))
      refine ⟨other.slot, other.published, other.seated, other.distinct, other.contenders,
        other.listeners, ?_, ?_, other.down⟩
      · intro id own
        have flag := (beside id (foreign id own)).1
        exact (Bool.eq_iff_iff.mp flag).trans (other.active id own)
      · intro id own
        have flag := (beside id (foreign id own)).2
        exact (Bool.eq_iff_iff.mp flag).trans (other.leading id own)

theorem Sound.takes (sound : sys.Sound) (held : call.Held sys.enrolled) (takes : Takes sys call next) :
    next.Sound := by
  cases takes with
  | nothing => exact sound
  | launch plan => exact sound.launch plan
  | enroll h home id => exact sound.enroll h home id
  | visit s v e reached found moves => exact sound.visit held s v e found moves

theorem Sound.apply (sound : sys.Sound) (held : call.Held sys.enrolled) : (sys.apply call).2.Sound :=
  sound.cleared.takes held (apply_takes sound call)

def before (calls : List Call) (i : Nat) : System := run {} (calls.take i)

theorem before_all (calls : List Call) : before calls calls.length = run {} calls := by
  rw [before, List.take_length]

theorem before_succ (calls : List Call) (i : Nat) (c : Call) (here : calls[i]? = some c) :
    before calls (i + 1) = ((before calls i).apply c).2 := by
  simp only [before, run, List.take_add_one, here, Option.toList_some, List.foldl_append,
    List.foldl_cons, List.foldl_nil]

theorem before_end (calls : List Call) (i : Nat) (here : calls[i]? = none) :
    before calls (i + 1) = before calls i := by
  simp [before, run, List.take_add_one, here]

theorem before_append (calls more : List Call) (i : Nat) (within : i ≤ calls.length) :
    before (calls ++ more) i = before calls i := by
  rw [before, List.take_append_of_le_length within, before]

theorem run_append (sys : System) (calls more : List Call) :
    sys.run (calls ++ more) = (sys.run calls).run more :=
  List.foldl_append

theorem lawful_append (calls more : List Call) (sys : System) :
    sys.Lawful (calls ++ more) ↔ sys.Lawful calls ∧ (sys.run calls).Lawful more := by
  induction calls generalizing sys with
  | nil => simp [Lawful, run]
  | cons c cs ih =>
    simp only [List.cons_append, Lawful, ih, and_assoc]
    rfl

theorem held_of_lawful (calls : List Call) (sys : System) (lawful : sys.Lawful calls) (i : Nat) (c : Call)
    (here : calls[i]? = some c) : c.Held (sys.run (calls.take i)).enrolled := by
  induction calls generalizing sys i with
  | nil => cases here
  | cons head tail ih =>
    cases i with
    | zero =>
      cases here
      exact lawful.1
    | succ i => exact ih (sys.apply head).2 lawful.2 i here

variable {calls : List Call}

theorem sound_before (lawful : Lawful {} calls) (i : Nat) : (before calls i).Sound := by
  induction i with
  | zero => exact Sound.start
  | succ i ih =>
    cases here : calls[i]? with
    | none =>
      rw [before_end calls i here]
      exact ih
    | some c =>
      rw [before_succ calls i c here]
      exact ih.apply (held_of_lawful calls {} lawful i c here)

-- Two contenders and a listener: the first leads, goes and comes back, and the second succeeds it.
-- Between its own confirmation and the second's, the first tries its token three times more.
def succession : List Call :=
  let left : Contender := ⟨1, 0, "left", 1⟩
  let right : Contender := ⟨2, 0, "right", 2⟩
  let noon : Instant := ⟨⟨2024, 5, 1⟩, 43200, 0⟩
  [.launch {}, .createContender 0 "left", .createContender 0 "right", .createListener 0,
    .start (.contender left) 0, .start (.contender right) 1, .start (.listener ⟨3, 0, (), 3⟩) 2,
    .confirm left (.minted 1) "west" noon, .confirm left (.minted 1) "east" noon,
    .confirm right (.minted 1) "east" noon, .remove 0 (.contender left), .start (.contender left) 0,
    .confirm left (.minted 1) "west" noon, .confirm right (.minted 2) "east" noon]

theorem before_takes (lawful : Lawful {} calls) (i : Nat) (c : Call) (here : calls[i]? = some c) :
    c.Held (before calls i).enrolled ∧ Takes (before calls i).cleared c (before calls (i + 1)) := by
  rw [before_succ calls i c here]
  exact ⟨held_of_lawful calls {} lawful i c here, apply_takes (sound_before lawful i) c⟩

theorem since_call (calls : List Call) (P : System → Prop) (Event : Nat → Prop) (start : ¬ P {}) (n : Nat)
    (step : ∀ i < n, P (before calls (i + 1)) → P (before calls i) ∨ Event i)
    (now : P (before calls n)) :
    ∃ k < n, Event k ∧ ∀ j, k < j → j ≤ n → P (before calls j) := by
  induction n with
  | zero => exact absurd now start
  | succ n ih =>
    rcases step n (Nat.lt_succ_self n) now with old | event
    · obtain ⟨k, less, event, lasting⟩ := ih (fun i less => step i (Nat.lt_succ_of_lt less)) old
      refine ⟨k, Nat.lt_succ_of_lt less, event, ?_⟩
      intro j after within
      rcases Nat.le_succ_iff.mp within with early | rfl
      · exact lasting j after early
      · exact now
    · refine ⟨n, Nat.lt_succ_self n, event, ?_⟩
      intro j after within
      have last : j = n + 1 := by omega
      exact last ▸ now

theorem sound_run (lawful : Lawful {} calls) : (run {} calls).Sound :=
  before_all calls ▸ sound_before lawful calls.length

end System
end Leadership
