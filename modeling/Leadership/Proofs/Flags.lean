import Leadership.Proofs.Regular

set_option autoImplicit false

namespace Leadership

structure System.Flagged (sys : System) (v : Service) (c : Contender) : Prop where
  active : sys.ledger.active c.id = true ↔ ∃ m, v.contenders.get? c.id = some m ∧ m.registration = c
  leading : sys.ledger.leading c.id = true ↔ v.slot.proposed = some c.id ∨ v.slot.confirmed = some c.id
  ranked : sys.ledger.active c.id = false → sys.ledger.leading c.id = false
  closed : v.down = true → sys.ledger.active c.id = false ∧ sys.ledger.leading c.id = false
  leadership : ∀ token, sys.hasLeadership c token = true ↔
    (v.slot.proposed = some c.id ∨ v.slot.confirmed = some c.id) ∧ v.slot.token = some token

structure System.Attentive (sys : System) (v : Service) (l : Listener) : Prop where
  active : sys.ledger.active l.id = true ↔ ∃ m, v.listeners.get? l.id = some m ∧ m.registration = l
  leading : sys.ledger.leading l.id = false
  closed : v.down = true → sys.ledger.active l.id = false

namespace System
variable {sys : System}

theorem Sound.contends_iff (sound : sys.Sound) (c : Contender) (known : .contender c ∈ sys.enrolled)
    (v : Service) (found : sys.services[c.home]? = some v) :
    c.id ∈ (sys.desk c.home v).ids ↔ ∃ m, v.contenders.get? c.id = some m ∧ m.registration = c := by
  have desk := sound.desks c.home v found
  have absent : c.id ∉ v.listeners.ids := by
    intro held
    obtain ⟨m, member, same⟩ := Roster.member_of_ids v.listeners c.id held
    cases sound.handle_unique (desk.listeners m member).1 known same
  exact ((Desk.mem_ids _ c.id).trans (or_iff_left absent)).trans
    (Roster.registered_iff v.contenders c (sound.contender_alone known found))

theorem Sound.listens_iff (sound : sys.Sound) (l : Listener) (known : .listener l ∈ sys.enrolled)
    (v : Service) (found : sys.services[l.home]? = some v) :
    l.id ∈ (sys.desk l.home v).ids ↔ ∃ m, v.listeners.get? l.id = some m ∧ m.registration = l := by
  have desk := sound.desks l.home v found
  have absent : l.id ∉ v.contenders.ids := by
    intro held
    obtain ⟨m, member, same⟩ := Roster.member_of_ids v.contenders l.id held
    cases sound.handle_unique (desk.contenders m member).1 known same
  exact ((Desk.mem_ids _ l.id).trans (or_iff_right absent)).trans
    (Roster.registered_iff v.listeners l (sound.listener_alone known found))

theorem Sound.leading_iff (sound : sys.Sound) (h : Handle) (known : h ∈ sys.enrolled) (v : Service)
    (found : sys.services[h.home]? = some v) :
    sys.ledger.leading h.id = true ↔ v.slot.proposed = some h.id ∨ v.slot.confirmed = some h.id := by
  have desk := sound.desks h.home v found
  exact (desk.leading h.id ⟨h, known, rfl, rfl⟩).trans (desk.slot.holder_iff h.id)

theorem Sound.nobody_active (sound : sys.Sound) (h : Handle) (known : h ∈ sys.enrolled) (v : Service)
    (found : sys.services[h.home]? = some v) (down : v.down = true) : sys.ledger.active h.id = false := by
  have desk := sound.desks h.home v found
  obtain ⟨_, contenders, listeners⟩ := desk.down down
  have nobody : h.id ∉ (sys.desk h.home v).ids := by
    rw [Service.ids, contenders, listeners]
    exact List.not_mem_nil
  cases active : sys.ledger.active h.id with
  | false => rfl
  | true => exact absurd ((desk.active h.id ⟨h, known, rfl, rfl⟩).mp active) nobody

theorem Sound.flagged (sound : sys.Sound) (c : Contender) (known : .contender c ∈ sys.enrolled)
    (v : Service) (found : sys.services[c.home]? = some v) : sys.Flagged v c := by
  have desk := sound.desks c.home v found
  have active := desk.active c.id ⟨.contender c, known, rfl, rfl⟩
  have leading := sound.leading_iff (.contender c) known v found
  have ranked : sys.ledger.active c.id = false → sys.ledger.leading c.id = false := by
    intro inactive
    cases leads : sys.ledger.leading c.id with
    | false => rfl
    | true =>
      have holder := (desk.slot.holder_iff c.id).mpr (leading.mp leads)
      have listed := (Desk.mem_ids (sys.desk c.home v) c.id).mpr (.inl (desk.seated c.id holder))
      cases inactive.symm.trans (active.mpr listed)
  refine ⟨active.trans (sound.contends_iff c known v found), leading, ranked, ?_, ?_⟩
  · intro down
    have inactive := sound.nobody_active (.contender c) known v found down
    exact ⟨inactive, ranked inactive⟩
  · intro token
    have published : sys.published c.home = v.slot.token := by
      rw [System.published, found]
      exact desk.published
    rw [hasLeadership, published, Bool.and_eq_true, beq_iff_eq]
    exact and_congr_left' leading

theorem Sound.attentive (sound : sys.Sound) (l : Listener) (known : .listener l ∈ sys.enrolled)
    (v : Service) (found : sys.services[l.home]? = some v) : sys.Attentive v l := by
  have desk := sound.desks l.home v found
  refine ⟨(desk.active l.id ⟨.listener l, known, rfl, rfl⟩).trans (sound.listens_iff l known v found), ?_,
    sound.nobody_active (.listener l) known v found⟩
  cases leads : sys.ledger.leading l.id with
  | false => rfl
  | true =>
    -- Whoever leads is registered as a contender, under an id that is the listener's.
    have holder := (desk.leading l.id ⟨.listener l, known, rfl, rfl⟩).mp leads
    obtain ⟨m, member, same⟩ := Roster.member_of_ids v.contenders l.id (desk.seated l.id holder)
    cases sound.handle_unique (desk.contenders m member).1 known same

theorem Sound.one_leads (sound : sys.Sound) (c c' : Contender) (known : .contender c ∈ sys.enrolled)
    (known' : .contender c' ∈ sys.enrolled) (home : c.home = c'.home)
    (leads : sys.ledger.leading c.id = true) (leads' : sys.ledger.leading c'.id = true) : c = c' := by
  obtain ⟨v, found⟩ := sound.service_of known
  have desk := sound.desks c.home v found
  have holder := (desk.leading c.id ⟨.contender c, known, rfl, rfl⟩).mp leads
  have holder' := (desk.leading c'.id ⟨.contender c', known', home.symm, rfl⟩).mp leads'
  have same : c.id = c'.id := Option.some.inj (holder.symm.trans holder')
  exact Handle.contender.inj (sound.handle_unique known known' same)

-- At any moment between two calls, for all registrations of all services.
theorem flags_agree (calls : List Call) (lawful : Lawful {} calls) :
    (∀ c, .contender c ∈ (run {} calls).enrolled →
        ∃ v, (run {} calls).services[c.home]? = some v ∧ (run {} calls).Flagged v c) ∧
      (∀ l, .listener l ∈ (run {} calls).enrolled →
        ∃ v, (run {} calls).services[l.home]? = some v ∧ (run {} calls).Attentive v l) ∧
      ∀ c c', .contender c ∈ (run {} calls).enrolled → .contender c' ∈ (run {} calls).enrolled →
        c.home = c'.home → (run {} calls).ledger.leading c.id = true →
        (run {} calls).ledger.leading c'.id = true → c = c' := by
  have sound := sound_run lawful
  refine ⟨?_, ?_, sound.one_leads⟩
  · intro c known
    obtain ⟨v, found⟩ := sound.service_of known
    exact ⟨v, found, sound.flagged c known v found⟩
  · intro l known
    obtain ⟨v, found⟩ := sound.service_of known
    exact ⟨v, found, sound.attentive l known v found⟩

def astray : List Call :=
  let near : Contender := ⟨1, 0, "near", 1⟩
  let far : Contender := ⟨2, 1, "far", 2⟩
  [.launch {}, .launch {}, .createContender 0 "near", .createContender 1 "far",
    .start (.contender near) 0, .start (.contender far) 1, .remove 1 (.contender near)]

theorem astray_flags :
    Lawful {} astray ∧ (run {} astray).hasLeadership ⟨1, 0, "near", 1⟩ (.minted 1) = true ∧
      ∃ v, (run {} astray).services[1]? = some v ∧ v.down = true ∧ (run {} astray).Flagged v ⟨2, 1, "far", 2⟩ := by
  have lawful : Lawful {} astray := by decide
  obtain ⟨contenders, _, _⟩ := flags_agree astray lawful
  obtain ⟨v, found, flagged⟩ := contenders ⟨2, 1, "far", 2⟩ (by decide)
  have down : v.down = true := by
    cases found
    rfl
  exact ⟨lawful, by decide, v, found, down, flagged⟩

end System
end Leadership
