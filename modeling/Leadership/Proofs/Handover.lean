import Leadership.Proofs.Course

set_option autoImplicit false

namespace Leadership

def Service.Ordered (v : Service) : Prop := v.contenders.Ordered ∧ v.listeners.Ordered

-- What becomes of an empty slot: the oldest of those who stay is put forward, and only if nobody stays
-- are the listeners told.
inductive Election (stayers : List (Member String)) (listeners : List (Member Unit)) (token : Fence) :
    List Work → Slot → Option Nat → Prop
  | heir (m : Member String) (stays : m ∈ stayers) (oldest : ∀ n ∈ stayers, m.id ≤ n.id) :
      Election stayers listeners token [.grant m token] { proposed := some m.id, token := some token } (some m.id)
  | nobody (deserted : stayers = []) :
      Election stayers listeners token (listeners.map fun n => .notify n none) {} none

def Service.stayers (v : Service) (m : Member String) : List (Member String) :=
  v.contenders.members.filter fun n => n.id ≠ m.id

theorem Service.stayers_of_remove (v : Service) (c : Contender) (m : Member String) (contenders : Roster String)
    (removed : v.contenders.remove? c = some (m, contenders)) : contenders = ⟨v.stayers m⟩ := by
  obtain ⟨_, place, _, rfl⟩ := Roster.remove_cases v.contenders contenders c m removed
  rw [stayers, Roster.mk.injEq, place]
  exact List.filter_congr fun n _ => (decide_not ..).symm

inductive Handover (v : Service) (m : Member String) (token : Fence) : List Work → Slot → Option Nat → Prop
  | holder (works : List Work) (slot : Slot) (heir : Option Nat)
      (held : v.slot.proposed = some m.id ∨ v.slot.confirmed = some m.id)
      (election : Election (v.stayers m) v.listeners.members token works slot heir) :
      Handover v m token (.revoke m :: works) slot heir
  | bystander (id : Nat) (held : v.slot.proposed = some id ∨ v.slot.confirmed = some id) (other : id ≠ m.id) :
      Handover v m token [] v.slot none
  | vacant (works : List Work) (slot : Slot) (heir : Option Nat) (empty : v.slot = {})
      (election : Election (v.stayers m) v.listeners.members token works slot heir) :
      Handover v m token works slot heir

def crown (flags : Nat → Bool) : Option Nat → Nat → Bool
  | none => flags
  | some id => mark flags id true

theorem crown_other (flags : Nat → Bool) (heir : Option Nat) (id : Nat)
    (other : ∀ h, heir = some h → h ≠ id) : crown flags heir id = flags id := by
  cases heir with
  | none => rfl
  | some h => exact mark_other flags h id true (other h rfl).symm

theorem Slot.Coherent.empty_of_nobody {s : Slot} (coherent : s.Coherent) (nobody : s.holder? = none) : s = {} := by
  obtain ⟨unconfirmed, unproposed⟩ := Option.or_eq_none_iff.mp nobody
  have token : s.token = none := by simpa [unconfirmed, unproposed] using coherent.token
  have address : s.address = none := by simpa [unconfirmed] using coherent.address
  have since : s.since = none := by simpa [unconfirmed] using coherent.since
  cases s
  simp_all

theorem Handover.heir_stays {v : Service} {m : Member String} {token : Fence} {works : List Work} {slot : Slot}
    {heir : Option Nat} (handover : Handover v m token works slot heir) (id : Nat) (heired : heir = some id) :
    id ≠ m.id := by
  have elected {works : List Work} {slot : Slot}
      (election : Election (v.stayers m) v.listeners.members token works slot heir) : id ≠ m.id := by
    cases election with
    | heir n stays oldest =>
      cases heired
      exact of_decide_eq_true (List.mem_filter.mp stays).2
    | nobody => cases heired
  cases handover with
  | holder _ _ _ held election => exact elected election
  | bystander => cases heired
  | vacant _ _ _ empty election => exact elected election

namespace Desk
variable {enrolled : List Handle} {call : Call} {d e f : Desk} {works early : List Work} {heir : Option Nat}

theorem move_ordered (move : Move call d e) (ordered : d.Ordered) : e.Ordered := by
  cases move with
  | note | replan | commit | tell | depose => exact ordered
  | enter _ c party contenders home up idle added =>
    exact ⟨ordered.1.add contenders ⟨c, party⟩ added, ordered.2⟩
  | listen _ l party listeners home up idle added =>
    exact ⟨ordered.1, ordered.2.add listeners ⟨l, party⟩ added⟩
  | leave s _ c m contenders up active removed =>
    have alike := leave_alike d c m contenders
    rw [Service.Ordered, alike.contenders, alike.listeners, withdraw_rest]
    exact ⟨ordered.1.remove contenders c m removed, ordered.2⟩
  | hush s _ l m listeners up active removed =>
    exact ⟨ordered.1, ordered.2.remove listeners l m removed⟩
  | propose _ _ m up unconfirmed unproposed oldest =>
    rw [propose, submit_eq]
    exact ordered
  | shutDown _ _ cause up =>
    have closed := shutDown_closed d cause up ordered.1.distinct
    rw [Service.Ordered, closed.contenders, closed.listeners]
    exact ⟨List.Pairwise.nil, List.Pairwise.nil⟩

theorem moves_ordered (moves : Moves call d e) (ordered : d.Ordered) : e.Ordered := by
  induction moves with
  | refl => exact ordered
  | tail _ move ih => exact move_ordered move ih

structure Succession (heir : Option Nat) (d e : Desk) : Prop where
  contenders : e.contenders = d.contenders
  listeners : e.listeners = d.listeners
  published : e.published = e.slot.token
  down : e.down = d.down
  active : e.active = d.active
  leading : e.leading = crown d.leading heir
  minted : e.minted = d.minted + heir.toList.length

theorem Succession.alike (succession : Succession heir d e) (alike : Alike e f) : Succession heir d f := by
  constructor
  · exact alike.contenders.trans succession.contenders
  · exact alike.listeners.trans succession.listeners
  · rw [alike.published, alike.slot]
    exact succession.published
  · exact alike.down.trans succession.down
  · exact alike.active.trans succession.active
  · exact alike.leading.trans succession.leading
  · exact alike.minted.trans succession.minted

theorem Succession.of_alike (alike : Alike d e) (succession : Succession heir e f) : Succession heir d f := by
  constructor
  · exact succession.contenders.trans alike.contenders
  · exact succession.listeners.trans alike.listeners
  · exact succession.published
  · exact succession.down.trans alike.down
  · exact succession.active.trans alike.active
  · rw [← alike.leading]
    exact succession.leading
  · rw [← alike.minted]
    exact succession.minted

theorem Elects.vacant (elects : Elects d works e) (empty : d.slot = {}) (unpublished : d.published = none)
    (ordered : d.contenders.Ordered) :
    ∃ heir, Succession heir d e ∧
      Election d.contenders.members d.listeners.members (.minted (d.minted + 1)) works e.slot heir := by
  cases elects with
  | held occupied => simp [empty] at occupied
  | nobody _ _ deserted =>
    have nobody : Election d.contenders.members d.listeners.members (.minted (d.minted + 1))
        (d.listeners.members.map fun n => .notify n none) {} none :=
      .nobody (List.head?_eq_none_iff.mp deserted)
    rw [← empty] at nobody
    have published : d.published = d.slot.token := by rw [unpublished, empty]
    exact ⟨none, ⟨rfl, rfl, published, rfl, rfl, rfl, rfl⟩, nobody⟩
  | nominee m _ _ oldest =>
    have slot : (d.put m).slot = { proposed := some m.id, token := some (.minted (d.minted + 1)) } := by
      simp [put, note, setLeading, setToken, empty]
    have elected : Election d.contenders.members d.listeners.members (.minted (d.minted + 1))
        [.grant m (.minted (d.minted + 1))] { proposed := some m.id, token := some (.minted (d.minted + 1)) }
        (some m.id) :=
      .heir m (Roster.member_of_oldest d.contenders m oldest) fun n listed => ordered.oldest_le m n oldest listed
    rw [← slot] at elected
    exact ⟨some m.id, ⟨rfl, rfl, rfl, rfl, rfl, rfl, rfl⟩, elected⟩

theorem Batch.carried {r : Except Fault Completion × Desk} (batch : Batch works f r) (sound : f.Sound enrolled)
    (up : f.down = false) (sent : Sent early d f)
    (accepted : ∀ fresh, (settle r).2.attempts = d.attempts ++ fresh → ∀ a ∈ fresh, a.Accepted) :
    Alike f (settle r).2 ∧ Sent (early ++ works) d (settle r).2 := by
  cases batch with
  | sent c e alike late => exact ⟨alike, sent.trans late⟩
  | broken why e alike broken =>
    obtain ⟨fresh, grown, a, member, rejected⟩ :=
      (sent.broken broken).kept (sound.alike alike) (alike.down.trans up)
    exact absurd rejected (accepted fresh grown a member why)

section Vacated
variable (sound : f.Sound enrolled) (up : f.down = false) (sent : Sent early d f)
  (accepted : ∀ fresh, (settle f.elect).2.attempts = d.attempts ++ fresh → ∀ a ∈ fresh, a.Accepted)
include sound up sent accepted

theorem elect_vacant (empty : f.slot = {}) (ordered : f.contenders.Ordered) :
    ∃ works heir, Succession heir f (settle f.elect).2 ∧ Sent (early ++ works) d (settle f.elect).2 ∧
      Election f.contenders.members f.listeners.members (.minted (f.minted + 1)) works
        (settle f.elect).2.slot heir := by
  obtain ⟨works, g, elects, batch⟩ := elect_batch f
  have unpublished : f.published = none := by rw [sound.published, empty]
  obtain ⟨heir, succession, election⟩ := elects.vacant empty unpublished ordered
  have opened : Sent early d g := by
    have nothing : Sent [] f g := .nothing elects.attempts
    exact List.append_nil early ▸ sent.trans nothing
  obtain ⟨alike, all⟩ := batch.carried (elects.sound sound up) (elects.down.trans up) opened accepted
  rw [← alike.slot] at election
  exact ⟨works, heir, succession.alike alike, all, election⟩

end Vacated

theorem elect_occupied (d : Desk) (id : Nat) (held : d.slot.proposed = some id ∨ d.slot.confirmed = some id) :
    (settle d.elect).2 = d := by
  have occupied : d.slot.confirmed.isSome ∨ d.slot.proposed.isSome := by
    rcases held with proposed | confirmed
    · exact .inr (Option.isSome_of_eq_some proposed)
    · exact .inl (Option.isSome_of_eq_some confirmed)
  rw [elect, if_pos occupied]
  rfl

section Removal
variable (c : Contender) (m : Member String) (contenders : Roster String)

def left (d : Desk) (c : Contender) (contenders : Roster String) : Desk :=
  (d.withdraw c contenders).note (.removed c.label (d.leading c.id))

theorem withdraw_flags (d : Desk) :
    (d.withdraw c contenders).contenders = contenders ∧ (d.withdraw c contenders).listeners = d.listeners ∧
      (d.withdraw c contenders).down = d.down ∧ (d.withdraw c contenders).minted = d.minted ∧
      (d.withdraw c contenders).active = mark d.active c.id false ∧
      (d.withdraw c contenders).leading = mark d.leading c.id false := by
  rw [withdraw_rest]
  exact ⟨rfl, rfl, rfl, rfl, rfl, rfl⟩

theorem left_rest (d : Desk) :
    (d.left c contenders).attempts = d.attempts ∧ (d.left c contenders).contenders = contenders ∧
      (d.left c contenders).listeners = d.listeners ∧ (d.left c contenders).down = d.down ∧
      (d.left c contenders).minted = d.minted := by
  rw [left, withdraw_rest]
  exact ⟨rfl, rfl, rfl, rfl, rfl⟩

theorem removeContender_registered (d : Desk) (up : d.down = false) (active : d.active c.id = true)
    (removed : d.contenders.remove? c = some (m, contenders)) :
    d.removeContender c =
      match (if d.leading c.id then (d.left c contenders).submit (.revoke m)
        else (.ok .done, d.left c contenders)) with
      | (.error f, d) => d.fail f
      | (.ok _, d) => (settle d.elect).2 := by
  have here : ¬ (d.active c.id = false ∨ d.down = true) := by simp [up, active]
  rw [removeContender, if_neg here, removed]
  rfl

def Relieved (d e : Desk) : Prop :=
  ∃ works heir, Handover d.toService m (.minted (d.minted + 1)) works e.slot heir ∧ Sent works d e ∧
    Succession heir (d.withdraw c contenders) e

section Accepted
variable (sound : d.Sound enrolled) (ordered : d.contenders.Ordered) (up : d.down = false)
  (active : d.active c.id = true) (removed : d.contenders.remove? c = some (m, contenders))
  (accepted : ∀ fresh, (d.removeContender c).attempts = d.attempts ++ fresh → ∀ a ∈ fresh, a.Accepted)

include removed in
theorem member_of_removed : m.id = c.id ∧ c.id ∈ d.contenders.ids ∧ contenders.members = d.stayers m := by
  obtain ⟨member, place, _⟩ := Roster.remove_cases d.contenders contenders c m removed
  constructor
  · exact place
  · constructor
    · exact place ▸ Roster.ids_of_member d.contenders m member
    · exact congrArg Roster.members (d.toService.stayers_of_remove c m contenders removed)

include sound ordered up removed in
theorem left_sound :
    (d.left c contenders).Sound enrolled ∧ (d.left c contenders).contenders.Ordered ∧
      (d.left c contenders).slot = if d.slot.holder? = some c.id then {} else d.slot := by
  have alike : Alike (d.withdraw c contenders) (d.left c contenders) := note_alike _ _
  constructor
  · exact (sound_withdraw sound c m contenders up removed).alike alike
  · constructor
    · rw [(left_rest c contenders d).2.1]
      exact ordered.remove contenders c m removed
    · exact (withdraw_slot sound c contenders).1

include sound ordered up active removed accepted

theorem holder_relieved (leading : d.leading c.id = true) : Relieved c m contenders d (d.removeContender c) := by
  obtain ⟨place, own, stayers⟩ := member_of_removed c m contenders removed
  obtain ⟨attempts, roster, listeners, down, minted⟩ := left_rest c contenders d
  obtain ⟨sound', sorted, slot⟩ := left_sound c m contenders sound ordered up removed
  have holder := (sound.leading c.id (sound.own_contender own)).mp leading
  rw [if_pos holder] at slot
  rw [removeContender_registered c m contenders d up active removed, if_pos leading] at accepted ⊢
  have batch := submit_batch (d.left c contenders) (.revoke m) id
  generalize (d.left c contenders).submit (.revoke m) = revoked at accepted batch ⊢
  cases batch with
  | broken why f like broken =>
    obtain ⟨fresh, grown, a, member, rejected⟩ :=
      ((Sent.nothing attempts).broken broken).kept (sound'.alike like) ((like.down.trans down).trans up)
    exact absurd rejected (accepted fresh grown a member why)
  | sent one f like told =>
    have revoked : Sent [.revoke m] d f := (Sent.nothing attempts).trans told
    obtain ⟨works, heir, succession, all, election⟩ :=
      elect_vacant (sound'.alike like) ((like.down.trans down).trans up) revoked accepted
        (like.slot.trans slot) (like.contenders ▸ sorted)
    rw [like.contenders, roster, stayers, like.listeners, listeners, like.minted, minted] at election
    have alike : Alike (d.withdraw c contenders) f := (note_alike _ _).trans like
    have held : d.slot.proposed = some m.id ∨ d.slot.confirmed = some m.id :=
      place ▸ (sound.slot.holder_iff c.id).mp holder
    exact ⟨_, heir, .holder works _ heir held election, all, .of_alike alike succession⟩

theorem follower_relieved (following : ¬ d.leading c.id = true) :
    Relieved c m contenders d (d.removeContender c) := by
  obtain ⟨place, own, stayers⟩ := member_of_removed c m contenders removed
  obtain ⟨attempts, roster, listeners, down, minted⟩ := left_rest c contenders d
  obtain ⟨sound', sorted, slot⟩ := left_sound c m contenders sound ordered up removed
  have alike : Alike (d.withdraw c contenders) (d.left c contenders) := note_alike _ _
  have stranger := mt (sound.leading c.id (sound.own_contender own)).mpr following
  rw [if_neg stranger] at slot
  rw [removeContender_registered c m contenders d up active removed, if_neg following] at accepted ⊢
  cases holder : d.slot.holder? with
  | none =>
    have empty := sound.slot.empty_of_nobody holder
    obtain ⟨works, heir, succession, all, election⟩ :=
      elect_vacant sound' (down.trans up) (.nothing attempts) accepted (slot.trans empty) sorted
    rw [roster, stayers, listeners, minted] at election
    exact ⟨works, heir, .vacant works _ heir empty election, all, .of_alike alike succession⟩
  | some id =>
    have held := (sound.slot.holder_iff id).mp holder
    have other : id ≠ m.id := by
      rintro rfl
      exact stranger (place ▸ holder)
    have idle := elect_occupied (d.left c contenders) id (slot.symm ▸ held)
    simp only [idle, Relieved, slot]
    have unchanged : Succession none (d.left c contenders) (d.left c contenders) :=
      ⟨rfl, rfl, sound'.published, rfl, rfl, rfl, rfl⟩
    exact ⟨[], none, .bystander id held other, .nothing attempts, .of_alike alike unchanged⟩

theorem removeContender_relieved : Relieved c m contenders d (d.removeContender c) := by
  by_cases leading : d.leading c.id = true
  · exact holder_relieved c m contenders sound ordered up active removed accepted leading
  · exact follower_relieved c m contenders sound ordered up active removed accepted leading

end Accepted

theorem Succession.service (succession : Succession heir (d.withdraw c contenders) e)
    (removed : d.contenders.remove? c = some (m, contenders)) :
    e.toService =
      { d.toService with contenders := ⟨d.stayers m⟩, slot := e.slot, published := e.slot.token, plan := e.plan } := by
  obtain ⟨roster, listeners, down, _⟩ := withdraw_flags c contenders d
  have stay := d.toService.stayers_of_remove c m contenders removed
  show Service.mk e.contenders e.listeners e.slot e.published e.down e.plan = _
  rw [succession.contenders, roster, stay, succession.listeners, listeners, succession.published, succession.down,
    down]

theorem Succession.flags (succession : Succession heir (d.withdraw c contenders) e)
    (other : ∀ h, heir = some h → h ≠ c.id) :
    e.active = mark d.active c.id false ∧ e.leading = crown (mark d.leading c.id false) heir ∧
      e.active c.id = false ∧ e.leading c.id = false := by
  obtain ⟨_, _, _, _, actives, leaders⟩ := withdraw_flags c contenders d
  rw [succession.active, succession.leading, actives, leaders, crown_other _ heir c.id other]
  exact ⟨rfl, rfl, if_pos rfl, if_pos rfl⟩
end Removal
end Desk

namespace System
variable {calls : List Call}

theorem ordered_before (lawful : Lawful {} calls) (i s : Nat) (v : Service)
    (found : (before calls i).services[s]? = some v) : v.Ordered := by
  induction i generalizing v with
  | zero => cases found
  | succ i ih =>
    cases here : calls[i]? with
    | none =>
      rw [before_end calls i here] at found
      exact ih v found
    | some call =>
      obtain ⟨_, takes⟩ := before_takes lawful i call here
      rcases takes_service takes s v found with same | ⟨plan, rfl⟩ | visited
      · exact ih v same
      · exact ⟨List.Pairwise.nil, List.Pairwise.nil⟩
      · obtain ⟨u, e, _, present, moves, rfl, _⟩ := visited
        exact Desk.moves_ordered moves (ih u present)

-- All that the removal of a contender does to a system: what it submits, what its service is then, and
-- the flags. No other service, no listener and no other contender is touched.
structure Removed (sys next : System) (c : Contender) (v : Service) (m : Member String) (fresh : List Attempt)
    (slot : Slot) (heir : Option Nat) : Prop where
  registered : m ∈ v.contenders.members ∧ m.registration = c
  handover : Handover v m (.minted (sys.ledger.minted + 1)) (fresh.map Attempt.work) slot heir
  unused : ∀ a ∈ sys.ledger.attempts, a.work.grant? ≠ some (.minted (sys.ledger.minted + 1))
  attempts : next.ledger.attempts = sys.ledger.attempts ++ fresh
  own : ∀ a ∈ fresh, a.service = c.home
  services : ∃ plan, next.services = sys.services.set c.home
    { v with contenders := ⟨v.stayers m⟩, slot := slot, published := slot.token, plan := plan }
  enrolled : next.enrolled = sys.enrolled
  minted : next.ledger.minted = sys.ledger.minted + heir.toList.length
  active : next.ledger.active = mark sys.ledger.active c.id false
  leading : next.ledger.leading = crown (mark sys.ledger.leading c.id false) heir
  retired : next.ledger.active c.id = false ∧ next.ledger.leading c.id = false

theorem removal_hands_over (calls : List Call) (lawful : Lawful {} calls) (i : Nat) (c : Contender) (v : Service)
    (here : calls[i]? = some (.remove c.home (.contender c)))
    (found : (before calls i).services[c.home]? = some v) (up : v.down = false)
    (active : (before calls i).ledger.active c.id = true)
    (accepted : ∀ a ∈ submitted calls i, a.Accepted) :
    ∃ m slot heir, Removed (before calls i) (before calls (i + 1)) c v m (submitted calls i) slot heir := by
  let d := (before calls i).cleared.desk c.home v
  let e := d.removeContender c
  have sound := (sound_before lawful i).cleared
  have desk : d.Sound (before calls i).enrolled := sound.desks c.home v found
  have after : before calls (i + 1) = (before calls i).cleared.store c.home e := by
    rw [before_succ calls i _ here]
    show ((before calls i).cleared.visit c.home fun d => (.done, d.removeContender c)).2 = _
    rw [visit, show (before calls i).cleared.services[c.home]? = some v from found]
  have known : .contender c ∈ (before calls i).enrolled := held_of_lawful calls {} lawful i _ here
  obtain ⟨n, listed, same⟩ := (sound.flagged c known v found).active.mp active
  have grown : e.attempts = d.attempts ++ submitted calls i := by
    have history := attempts_succ lawful i
    rw [after] at history
    exact history
  have only (fresh : List Attempt) (extended : e.attempts = d.attempts ++ fresh) : fresh = submitted calls i :=
    List.append_cancel_left (extended.symm.trans grown)
  cases removed : d.contenders.remove? c with
  | none =>
    exact absurd removed (Roster.remove_registered d.contenders c ⟨n, listed, congrArg Registration.object same⟩)
  | some taken =>
    obtain ⟨m, contenders⟩ := taken
    obtain ⟨member, place, _⟩ := Roster.remove_cases d.contenders contenders c m removed
    obtain ⟨works, heir, handover, ⟨fresh, extended, told, _⟩, succession⟩ :=
      Desk.removeContender_relieved c m contenders desk (ordered_before lawful i c.home v found).1 up active
        removed fun fresh extended => only fresh extended ▸ accepted
    obtain ⟨active', leading', retired⟩ := succession.flags c contenders fun h heired =>
      place ▸ handover.heir_stays h heired
    rw [after]
    exact ⟨m, e.slot, heir, {
      registered := ⟨member, sound.contender_alone known found m member place⟩
      handover := by
        rw [← only fresh extended, told]
        exact handover
      unused := (numbered_before lawful i).next_unused
      attempts := grown
      own := submitted_service lawful i c.home _ here rfl
      services := ⟨e.plan, congrArg _ (succession.service c m contenders removed)⟩
      enrolled := rfl
      minted := (Desk.withdraw_flags c contenders d).2.2.2.1 ▸ succession.minted
      active := active'
      leading := leading'
      retired := retired }⟩

-- The confirmed leader goes; the other contender is put forward, and the listener is not told.
theorem succession_hands_over :
    Lawful {} succession ∧ (∀ a ∈ submitted succession 10, a.Accepted) ∧
      (submitted succession 10).map Attempt.work =
        [.revoke ⟨⟨1, 0, "left", 1⟩, 0⟩, .grant ⟨⟨2, 0, "right", 2⟩, 1⟩ (.minted 2)] ∧
      ∃ v m slot heir, v.slot.confirmed = some 1 ∧ v.listeners.members.length = 1 ∧
        Removed (before succession 10) (before succession 11) ⟨1, 0, "left", 1⟩ v m (submitted succession 10)
          slot heir := by
  have lawful : Lawful {} succession := by decide
  have accepted : ∀ a ∈ submitted succession 10, a.Accepted := by decide
  obtain ⟨m, slot, heir, removed⟩ :=
    removal_hands_over succession lawful 10 ⟨1, 0, "left", 1⟩ _ rfl rfl rfl (by decide) accepted
  exact ⟨lawful, accepted, by decide, _, m, slot, heir, rfl, rfl, removed⟩

end System
end Leadership
