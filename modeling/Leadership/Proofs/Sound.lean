import Leadership.Proofs.Move

set_option autoImplicit false

namespace Leadership

structure Slot.Coherent (s : Slot) : Prop where
  exclusive : s.proposed = none ∨ s.confirmed = none
  token : s.token.isSome ↔ s.proposed.isSome ∨ s.confirmed.isSome
  address : s.address.isSome ↔ s.confirmed.isSome
  since : s.since.isSome ↔ s.confirmed.isSome

theorem Slot.empty_coherent : Slot.Coherent {} := by
  constructor <;> simp

theorem Slot.Coherent.holder_iff {s : Slot} (coherent : s.Coherent) (id : Nat) :
    s.holder? = some id ↔ s.proposed = some id ∨ s.confirmed = some id := by
  rcases coherent.exclusive with none | none <;> simp [Slot.holder?, none]

theorem Slot.Coherent.leader_isSome {s : Slot} (coherent : s.Coherent) :
    s.leader?.isSome ↔ s.confirmed.isSome := by
  cases confirmed : s.confirmed with
  | none => simp [Slot.leader?, confirmed]
  | some id =>
    obtain ⟨address, given⟩ := Option.isSome_iff_exists.mp (coherent.address.mpr (by simp [confirmed]))
    obtain ⟨token, minted⟩ := Option.isSome_iff_exists.mp (coherent.token.mpr (by simp [confirmed]))
    simp [Slot.leader?, confirmed, given, minted]

def Own (enrolled : List Handle) (s id : Nat) : Prop := ∃ h ∈ enrolled, h.home = s ∧ h.id = id

-- A handle is given out when its registration is made, and there is no other way to come by one.
def Call.Held (enrolled : List Handle) : Call → Prop
  | .start h _ | .remove _ h => h ∈ enrolled
  | .confirm c _ _ _ => .contender c ∈ enrolled
  | _ => True

namespace Desk

structure Sound (enrolled : List Handle) (d : Desk) : Prop where
  slot : d.slot.Coherent
  published : d.published = d.slot.token
  seated : ∀ id, d.slot.holder? = some id → id ∈ d.contenders.ids
  distinct : d.ids.Nodup
  contenders : ∀ m ∈ d.contenders.members,
    .contender m.registration ∈ enrolled ∧ m.registration.home = d.number
  listeners : ∀ m ∈ d.listeners.members,
    .listener m.registration ∈ enrolled ∧ m.registration.home = d.number
  active : ∀ id, Own enrolled d.number id → (d.active id = true ↔ id ∈ d.ids)
  leading : ∀ id, Own enrolled d.number id → (d.leading id = true ↔ d.slot.holder? = some id)
  down : d.down = true → d.slot = {} ∧ d.contenders = {} ∧ d.listeners = {}

variable {enrolled : List Handle} {call : Call} {d e : Desk}

theorem mem_ids (d : Desk) (id : Nat) : id ∈ d.ids ↔ id ∈ d.contenders.ids ∨ id ∈ d.listeners.ids :=
  List.mem_append

theorem Sound.seat (sound : d.Sound enrolled) (id : Nat)
    (holds : d.slot.proposed = some id ∨ d.slot.confirmed = some id) :
    ∃ m, d.contenders.get? id = some m ∧ m ∈ d.contenders.members ∧ m.id = id := by
  have holder := (sound.slot.holder_iff id).mpr holds
  exact Roster.get_of_ids d.contenders id (sound.seated id holder)

theorem Sound.own_contender (sound : d.Sound enrolled) {id : Nat} (held : id ∈ d.contenders.ids) :
    Own enrolled d.number id := by
  obtain ⟨m, member, same⟩ := Roster.member_of_ids d.contenders id held
  obtain ⟨known, home⟩ := sound.contenders m member
  exact ⟨_, known, home, same⟩

theorem Sound.own_listener (sound : d.Sound enrolled) {id : Nat} (held : id ∈ d.listeners.ids) :
    Own enrolled d.number id := by
  obtain ⟨m, member, same⟩ := Roster.member_of_ids d.listeners id held
  obtain ⟨known, home⟩ := sound.listeners m member
  exact ⟨_, known, home, same⟩

theorem Sound.own_ids (sound : d.Sound enrolled) {id : Nat} (held : id ∈ d.ids) :
    Own enrolled d.number id := by
  rcases (mem_ids d id).mp held with contender | listener
  · exact sound.own_contender contender
  · exact sound.own_listener listener

theorem Sound.contenders_distinct (sound : d.Sound enrolled) : d.contenders.ids.Nodup :=
  (List.nodup_append.mp sound.distinct).1

theorem Sound.listeners_distinct (sound : d.Sound enrolled) : d.listeners.ids.Nodup :=
  (List.nodup_append.mp sound.distinct).2.1

theorem Sound.not_listener (sound : d.Sound enrolled) {id : Nat} (contender : id ∈ d.contenders.ids) :
    id ∉ d.listeners.ids :=
  fun listener => (List.nodup_append.mp sound.distinct).2.2 id contender id listener rfl

theorem running (up : d.down = false) {p : Prop} (closed : d.down = true) : p := by
  rw [up] at closed
  cases closed

theorem Sound.alike (sound : d.Sound enrolled) (alike : Alike d e) : e.Sound enrolled := by
  have ids : e.ids = d.ids := by rw [Service.ids, Service.ids, alike.contenders, alike.listeners]
  constructor
  · rw [alike.slot]; exact sound.slot
  · rw [alike.published, alike.slot]; exact sound.published
  · rw [alike.slot, alike.contenders]; exact sound.seated
  · rw [ids]; exact sound.distinct
  · rw [alike.contenders, alike.number]; exact sound.contenders
  · rw [alike.listeners, alike.number]; exact sound.listeners
  · rw [alike.number, alike.active, ids]; exact sound.active
  · rw [alike.number, alike.leading, alike.slot]; exact sound.leading
  · rw [alike.down, alike.slot, alike.contenders, alike.listeners]; exact sound.down

theorem Sound.unlisted (sound : d.Sound enrolled) {id : Nat} (own : Own enrolled d.number id)
    (idle : d.active id = false) : id ∉ d.ids := by
  intro held
  rw [(sound.active id own).mpr held] at idle
  cases idle

theorem Sound.admits_contender (sound : d.Sound enrolled) (c : Contender) (party : Nat)
    (own : Own enrolled d.number c.id) (idle : d.active c.id = false) :
    ∃ contenders, d.contenders.add? ⟨c, party⟩ = some contenders := by
  have unlisted := sound.unlisted own idle
  exact Roster.add_unlisted d.contenders ⟨c, party⟩ fun listed => unlisted ((mem_ids d c.id).mpr (.inl listed))

theorem Sound.admits_listener (sound : d.Sound enrolled) (l : Listener) (party : Nat)
    (own : Own enrolled d.number l.id) (idle : d.active l.id = false) :
    ∃ listeners, d.listeners.add? ⟨l, party⟩ = some listeners := by
  have unlisted := sound.unlisted own idle
  exact Roster.add_unlisted d.listeners ⟨l, party⟩ fun listed => unlisted ((mem_ids d l.id).mpr (.inr listed))

theorem sound_enter (sound : d.Sound enrolled) (c : Contender) (party : Nat) (contenders : Roster String)
    (known : .contender c ∈ enrolled) (home : c.home = d.number) (up : d.down = false)
    (idle : d.active c.id = false) (added : d.contenders.add? ⟨c, party⟩ = some contenders) :
    ({ d with contenders := contenders }.setActive c.id true).Sound enrolled := by
  have own : Own enrolled d.number c.id := ⟨.contender c, known, home, rfl⟩
  have unlisted := sound.unlisted own idle
  have listed (id : Nat) : id ∈ contenders.ids ↔ id = c.id ∨ id ∈ d.contenders.ids :=
    Roster.ids_add d.contenders contenders ⟨c, party⟩ added id
  refine ⟨sound.slot, sound.published, fun id holder => (listed id).mpr (.inr (sound.seated id holder)),
    ?_, ?_, sound.listeners, ?_, sound.leading, running up⟩
  · have old := Roster.nodup_add d.contenders contenders ⟨c, party⟩ added sound.contenders_distinct
    refine List.nodup_append.mpr ⟨old, sound.listeners_distinct, ?_⟩
    intro id contender other listener same
    subst same
    rcases (listed id).mp contender with rfl | before
    · exact unlisted ((mem_ids d c.id).mpr (.inr listener))
    · exact sound.not_listener before listener
  · intro m member
    rcases (Roster.mem_add d.contenders contenders ⟨c, party⟩ m added).mp member with rfl | before
    · exact ⟨known, home⟩
    · exact sound.contenders m before
  · intro id owned
    rw [mem_ids]
    by_cases same : id = c.id
    · simp [setActive, mark, same, listed]
    · simp only [setActive, mark, listed, same, false_or]
      exact (sound.active id owned).trans (mem_ids d id)

theorem sound_listen (sound : d.Sound enrolled) (l : Listener) (party : Nat) (listeners : Roster Unit)
    (known : .listener l ∈ enrolled) (home : l.home = d.number) (up : d.down = false)
    (idle : d.active l.id = false) (added : d.listeners.add? ⟨l, party⟩ = some listeners) :
    ({ d with listeners := listeners }.setActive l.id true).Sound enrolled := by
  have own : Own enrolled d.number l.id := ⟨.listener l, known, home, rfl⟩
  have unlisted := sound.unlisted own idle
  have listed (id : Nat) : id ∈ listeners.ids ↔ id = l.id ∨ id ∈ d.listeners.ids :=
    Roster.ids_add d.listeners listeners ⟨l, party⟩ added id
  refine ⟨sound.slot, sound.published, sound.seated, ?_, sound.contenders, ?_, ?_, sound.leading,
    running up⟩
  · have old := Roster.nodup_add d.listeners listeners ⟨l, party⟩ added sound.listeners_distinct
    refine List.nodup_append.mpr ⟨sound.contenders_distinct, old, ?_⟩
    intro id contender other listener same
    subst same
    rcases (listed id).mp listener with rfl | before
    · exact unlisted ((mem_ids d l.id).mpr (.inl contender))
    · exact sound.not_listener contender before
  · intro m member
    rcases (Roster.mem_add d.listeners listeners ⟨l, party⟩ m added).mp member with rfl | before
    · exact ⟨known, home⟩
    · exact sound.listeners m before
  · intro id owned
    rw [mem_ids]
    by_cases same : id = l.id
    · simp [setActive, mark, same, listed]
    · simp only [setActive, mark, listed, same, false_or]
      exact (sound.active id owned).trans (mem_ids d id)

theorem withdraw_slot (sound : d.Sound enrolled) (c : Contender) (contenders : Roster String) :
    ((d.withdraw c contenders).slot = if d.slot.holder? = some c.id then {} else d.slot) ∧
      (d.withdraw c contenders).published = (d.withdraw c contenders).slot.token := by
  by_cases holder : d.slot.holder? = some c.id
  · rw [if_pos holder]
    have seat := (sound.slot.holder_iff c.id).mp holder
    obtain ⟨untokened, unpublished⟩ := withdraw_holder d c contenders seat.symm
    refine ⟨?_, unpublished.trans untokened.symm⟩
    rcases seat with proposed | confirmed
    · have unconfirmed : d.slot.confirmed = none := by
        rcases sound.slot.exclusive with none | none
        · rw [none] at proposed
          cases proposed
        · exact none
      have address : d.slot.address = none := by simpa [unconfirmed] using sound.slot.address
      have since : d.slot.since = none := by simpa [unconfirmed] using sound.slot.since
      simp [withdraw, unconfirm, unpropose, setActive, setLeading, setToken, proposed, unconfirmed,
        address, since]
    · have unproposed : d.slot.proposed = none := by
        rcases sound.slot.exclusive with none | none
        · exact none
        · rw [none] at confirmed
          cases confirmed
      simp [withdraw, unconfirm, unpropose, setActive, setLeading, setToken, confirmed, unproposed]
  · rw [if_neg holder]
    obtain ⟨unproposed, unconfirmed⟩ := not_or.mp (mt (sound.slot.holder_iff c.id).mpr holder)
    obtain ⟨slot, published⟩ := withdraw_other d c contenders unconfirmed unproposed
    exact ⟨slot, by rw [published, slot]; exact sound.published⟩

theorem sound_withdraw (sound : d.Sound enrolled) (c : Contender) (m : Member String)
    (contenders : Roster String) (up : d.down = false)
    (removed : d.contenders.remove? c = some (m, contenders)) :
    (d.withdraw c contenders).Sound enrolled := by
  obtain ⟨slot, published⟩ := withdraw_slot sound c contenders
  have listed (id : Nat) : id ∈ contenders.ids ↔ id ∈ d.contenders.ids ∧ id ≠ c.id :=
    Roster.ids_remove d.contenders contenders c m removed id
  have mine : c.id ∈ d.contenders.ids := by
    obtain ⟨member, place, _⟩ := Roster.remove_cases d.contenders contenders c m removed
    exact place ▸ Roster.ids_of_member d.contenders m member
  have holder (id : Nat) : (d.withdraw c contenders).slot.holder? = some id ↔
      d.slot.holder? = some id ∧ id ≠ c.id := by
    rw [slot]
    by_cases mine : d.slot.holder? = some c.id
    · simp only [mine, if_true, Option.some.injEq]
      constructor
      · intro nobody
        cases nobody
      · intro ⟨same, different⟩
        exact absurd same.symm different
    · simp only [if_neg mine, iff_self_and]
      intro held same
      exact mine (same ▸ held)
  have coherent : (d.withdraw c contenders).slot.Coherent := by
    rw [slot]
    split
    · exact Slot.empty_coherent
    · exact sound.slot
  rw [withdraw_rest]
  refine ⟨coherent, published, ?_, ?_, ?_, sound.listeners, ?_, ?_, running up⟩
  · intro id held
    obtain ⟨before, different⟩ := (holder id).mp held
    exact (listed id).mpr ⟨sound.seated id before, different⟩
  · refine List.nodup_append.mpr ⟨?_, sound.listeners_distinct, ?_⟩
    · exact sound.contenders_distinct.sublist (Roster.sublist_remove d.contenders contenders c m removed)
    · intro id contender other listener same
      exact sound.not_listener ((listed id).mp contender).1 (same ▸ listener)
  · intro n member
    exact sound.contenders n ((Roster.mem_remove d.contenders contenders c m n removed).mp member).1
  · intro id own
    have before := (sound.active id own).trans (mem_ids d id)
    rw [mem_ids]
    simp only [mark_false, listed, before]
    by_cases same : id = c.id
    · simp [same, sound.not_listener mine]
    · simp [same]
  · intro id own
    exact (mark_false d.leading c.id id).trans ((and_congr_left' (sound.leading id own)).trans (holder id).symm)

theorem leave_alike (d : Desk) (c : Contender) (m : Member String) (contenders : Roster String) :
    Alike (d.withdraw c contenders) (d.leave c m contenders) := by
  by_cases leading : d.leading c.id = true
  · simp only [leave, leading, if_true]
    exact (note_alike _ _).trans (handed_alike _ _)
  · simp only [leave, leading, Bool.false_eq_true, if_false]
    exact note_alike _ _

theorem sound_hush (sound : d.Sound enrolled) (l : Listener) (m : Member Unit) (listeners : Roster Unit)
    (up : d.down = false) (removed : d.listeners.remove? l = some (m, listeners)) :
    ({ d with listeners := listeners }.setActive l.id false).Sound enrolled := by
  have listed (id : Nat) : id ∈ listeners.ids ↔ id ∈ d.listeners.ids ∧ id ≠ l.id :=
    Roster.ids_remove d.listeners listeners l m removed id
  have mine : l.id ∈ d.listeners.ids := by
    obtain ⟨member, place, _⟩ := Roster.remove_cases d.listeners listeners l m removed
    exact place ▸ Roster.ids_of_member d.listeners m member
  refine ⟨sound.slot, sound.published, sound.seated, ?_, sound.contenders, ?_, ?_, sound.leading,
    running up⟩
  · refine List.nodup_append.mpr ⟨sound.contenders_distinct, ?_, ?_⟩
    · exact sound.listeners_distinct.sublist (Roster.sublist_remove d.listeners listeners l m removed)
    · intro id contender other listener same
      exact sound.not_listener contender ((listed id).mp (same ▸ listener)).1
  · intro n member
    exact sound.listeners n ((Roster.mem_remove d.listeners listeners l m n removed).mp member).1
  · intro id own
    have before := (sound.active id own).trans (mem_ids d id)
    rw [mem_ids]
    simp only [setActive, mark_false, listed, before]
    by_cases same : id = l.id
    · have apart : l.id ∉ d.contenders.ids := fun contender => sound.not_listener contender mine
      simp [same, apart]
    · simp [same]

theorem sound_propose (sound : d.Sound enrolled) (m : Member String) (up : d.down = false)
    (unconfirmed : d.slot.confirmed = none) (unproposed : d.slot.proposed = none)
    (oldest : d.contenders.oldest? = some m) : (d.propose m).2.Sound enrolled := by
  have address : d.slot.address = none := by simpa [unconfirmed] using sound.slot.address
  have since : d.slot.since = none := by simpa [unconfirmed] using sound.slot.since
  have member := Roster.member_of_oldest d.contenders m oldest
  have vacant : d.slot.holder? = none := by simp [Slot.holder?, unconfirmed, unproposed]
  rw [propose, submit_eq]
  refine Sound.alike ?_ (handed_alike _ _)
  refine Sound.alike ?_ (note_alike _ _)
  refine ⟨?_, rfl, ?_, sound.distinct, sound.contenders, sound.listeners, sound.active, ?_, running up⟩
  · constructor <;> simp [setLeading, setToken, unconfirmed, address, since]
  · intro id holder
    simp only [setLeading, setToken, Slot.holder?, unconfirmed, Option.none_or, Option.some.injEq] at holder
    subst holder
    exact Roster.ids_of_member d.contenders m member
  · intro id own
    have before := sound.leading id own
    simp only [vacant, reduceCtorEq, iff_false] at before
    by_cases same : id = m.id
    · simp [setLeading, setToken, mark, Slot.holder?, unconfirmed, same]
    · simp only [setLeading, setToken, mark, if_neg same, Slot.holder?, unconfirmed, Option.none_or,
        Option.some.injEq]
      exact iff_of_false before fun equal => same equal.symm

theorem sound_commit (sound : d.Sound enrolled) (c : Contender) (token : Fence) (address : String)
    (now : Instant) (up : d.down = false) (proposed : d.slot.proposed = some c.id)
    (current : d.slot.token = some token) : (d.commit c address now).Sound enrolled := by
  have holder (id : Nat) : (d.commit c address now).slot.holder? = some id ↔ d.slot.holder? = some id := by
    rw [sound.slot.holder_iff]
    rcases sound.slot.exclusive with none | none
    · rw [none] at proposed
      cases proposed
    · simp [commit, Slot.holder?, none, proposed]
  refine ⟨?_, sound.published, ?_, sound.distinct, sound.contenders, sound.listeners, sound.active, ?_,
    running up⟩
  · constructor <;> simp [commit, current]
  · intro id held
    exact sound.seated id ((holder id).mp held)
  · intro id own
    exact (sound.leading id own).trans (holder id).symm

theorem sound_depose (sound : d.Sound enrolled) (id : Nat) (m : Member String) (up : d.down = false)
    (holder : d.slot.holder? = some id) (found : d.contenders.get? id = some m) :
    (d.depose m).Sound enrolled := by
  obtain ⟨_, same⟩ := Roster.member_of_get d.contenders id m found
  refine ⟨Slot.empty_coherent, rfl, ?_, sound.distinct, sound.contenders, sound.listeners, sound.active,
    ?_, running up⟩
  · intro other held
    cases held
  · intro other own
    have before := sound.leading other own
    refine (mark_false d.leading m.id other).trans ?_
    rw [before, holder, same, Option.some.injEq]
    constructor
    · intro ⟨equal, different⟩
      exact absurd equal.symm different
    · intro nobody
      cases nobody

theorem sound_shutDown (sound : d.Sound enrolled) (cause : Fault) (up : d.down = false) :
    (d.shutDown cause).Sound enrolled := by
  have closed := shutDown_closed d cause up sound.contenders_distinct
  have nobody : (d.shutDown cause).ids = [] := by
    rw [Service.ids, closed.contenders, closed.listeners]
    rfl
  refine ⟨?_, ?_, ?_, ?_, ?_, ?_, ?_, ?_, ?_⟩
  · rw [closed.slot]
    exact Slot.empty_coherent
  · rw [closed.published, closed.slot]
  · intro id holder
    rw [closed.slot] at holder
    cases holder
  · rw [nobody]
    exact List.nodup_nil
  · rw [closed.contenders]
    intro m member
    cases member
  · rw [closed.listeners]
    intro m member
    cases member
  · intro id own
    rw [closed.number] at own
    rw [closed.active, nobody, sound.active id own]
    simp
  · intro id own
    rw [closed.number] at own
    rw [closed.leading, closed.slot, sound.leading id own]
    constructor
    · intro ⟨holder, gone⟩
      exact absurd (sound.seated id holder) gone
    · intro holder
      cases holder
  · intro _
    exact ⟨closed.slot, closed.contenders, closed.listeners⟩

theorem sound_move (sound : d.Sound enrolled) (held : call.Held enrolled) (move : Move call d e) :
    e.Sound enrolled := by
  cases move with
  | note _ _ n => exact sound.alike (note_alike d n)
  | replan s _ plan => exact sound.alike ⟨rfl, rfl, rfl, rfl, rfl, rfl, rfl, rfl, rfl⟩
  | enter _ c party contenders home up idle added =>
    exact sound_enter sound c party contenders held home up idle added
  | listen _ l party listeners home up idle added =>
    exact sound_listen sound l party listeners held home up idle added
  | leave s _ c m contenders up active removed =>
    exact (sound_withdraw sound c m contenders up removed).alike (leave_alike d c m contenders)
  | hush s _ l m listeners up active removed => exact sound_hush sound l m listeners up removed
  | propose _ _ m up unconfirmed unproposed oldest =>
    exact sound_propose sound m up unconfirmed unproposed oldest
  | commit _ c token address now home up active proposed current =>
    exact sound_commit sound c token address now up proposed current
  | tell _ _ m up member => exact sound.alike (handed_alike d _)
  | depose s _ id m up holder found =>
    exact (sound_depose sound id m up holder found).alike (handed_alike _ _)
  | shutDown _ _ cause up => exact sound_shutDown sound cause up

theorem flags_beside_move (sound : d.Sound enrolled) (held : call.Held enrolled) (move : Move call d e)
    (id : Nat) (foreign : ¬ Own enrolled d.number id) :
    e.active id = d.active id ∧ e.leading id = d.leading id := by
  have other (own : Nat) (owned : Own enrolled d.number own) : id ≠ own :=
    fun same => foreign (same ▸ owned)
  cases move with
  | note | replan | commit | tell => exact ⟨rfl, rfl⟩
  | enter _ c party contenders home up idle added =>
    exact ⟨mark_other _ _ _ _ (other c.id ⟨.contender c, held, home, rfl⟩), rfl⟩
  | listen _ l party listeners home up idle added =>
    exact ⟨mark_other _ _ _ _ (other l.id ⟨.listener l, held, home, rfl⟩), rfl⟩
  | leave s _ c m contenders up active removed =>
    obtain ⟨member, place, _⟩ := Roster.remove_cases d.contenders contenders c m removed
    have mine : id ≠ c.id :=
      other c.id (sound.own_contender (place ▸ Roster.ids_of_member d.contenders m member))
    have alike := leave_alike d c m contenders
    rw [alike.active, alike.leading, withdraw_rest]
    exact ⟨mark_other _ _ _ _ mine, mark_other _ _ _ _ mine⟩
  | hush s _ l m listeners up active removed =>
    obtain ⟨member, place, _⟩ := Roster.remove_cases d.listeners listeners l m removed
    have mine : id ≠ l.id :=
      other l.id (sound.own_listener (place ▸ Roster.ids_of_member d.listeners m member))
    exact ⟨mark_other _ _ _ _ mine, rfl⟩
  | propose _ _ m up unconfirmed unproposed oldest =>
    have member := Roster.member_of_oldest d.contenders m oldest
    rw [propose, submit_eq]
    exact ⟨rfl, mark_other _ _ _ _
      (other m.id (sound.own_contender (Roster.ids_of_member d.contenders m member)))⟩
  | depose s _ holder m up held found =>
    obtain ⟨member, _⟩ := Roster.member_of_get d.contenders holder m found
    exact ⟨rfl, mark_other _ _ _ _
      (other m.id (sound.own_contender (Roster.ids_of_member d.contenders m member)))⟩
  | shutDown _ _ cause up =>
    have closed := shutDown_closed d cause up sound.contenders_distinct
    have absent : id ∉ d.ids := fun held => foreign (sound.own_ids held)
    have apart : id ∉ d.contenders.ids := fun held => foreign (sound.own_contender held)
    exact ⟨Bool.eq_iff_iff.mpr ((closed.active id).trans (and_iff_left absent)),
      Bool.eq_iff_iff.mpr ((closed.leading id).trans (and_iff_left apart))⟩

theorem number_move (sound : d.Sound enrolled) (move : Move call d e) : e.number = d.number := by
  cases move with
  | leave s _ c m contenders up active removed =>
    rw [(leave_alike d c m contenders).number, withdraw_rest]
  | propose _ _ m up unconfirmed unproposed oldest => rw [propose, submit_eq]; rfl
  | shutDown _ _ cause up => exact (shutDown_closed d cause up sound.contenders_distinct).number
  | _ => rfl

theorem sound_moves (sound : d.Sound enrolled) (held : call.Held enrolled) (moves : Moves call d e) :
    e.Sound enrolled := by
  induction moves with
  | refl => exact sound
  | tail _ move ih => exact sound_move ih held move

theorem beside_moves (sound : d.Sound enrolled) (held : call.Held enrolled) (moves : Moves call d e) :
    e.number = d.number ∧ ∀ id, ¬ Own enrolled d.number id →
      e.active id = d.active id ∧ e.leading id = d.leading id := by
  induction moves with
  | refl => exact ⟨rfl, fun _ _ => ⟨rfl, rfl⟩⟩
  | tail before move ih =>
    have still := sound_moves sound held before
    obtain ⟨number, beside⟩ := ih
    refine ⟨(number_move still move).trans number, fun id foreign => ?_⟩
    obtain ⟨active, leading⟩ := flags_beside_move still held move id (number ▸ foreign)
    obtain ⟨active', leading'⟩ := beside id foreign
    exact ⟨active.trans active', leading.trans leading'⟩

end Desk
end Leadership
