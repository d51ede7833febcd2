import Leadership.Proofs.Tenure

set_option autoImplicit false

namespace Leadership
namespace Desk

theorem confirm_outcome (d : Desk) (c : Contender) (token : Fence) (address : String) (now : Instant)
    (up : d.down = false) (active : d.active c.id = true) (proposed : d.slot.proposed = some c.id)
    (current : d.slot.token = some token) (distinct : d.contenders.ids.Nodup) :
    ((d.confirm c token address now).2.slot.proposed = none ∧
        (d.confirm c token address now).2.slot.confirmed = some c.id ∧
        (d.confirm c token address now).2.slot.leader? = some ⟨address, token⟩) ∨
      ((d.confirm c token address now).2.slot = {} ∧ (d.confirm c token address now).2.down = true ∧
        ∃ x a m why, d.attempts.length ≤ x ∧
          (d.confirm c token address now).2.attempts[x]? = some a ∧ a.service = d.number ∧
          a.work = .notify m (some ⟨address, token⟩) ∧ a.verdict = .reject why) := by
  let e := (d.note (.confirmed c.label address token)).commit c address now
  have alike := announce_alike (some ⟨address, token⟩) e.listeners.members e
  have failed := announce_error (some ⟨address, token⟩) e.listeners.members e
  rw [confirm_fits d c token address now up active proposed current]
  cases told : announce (some ⟨address, token⟩) e.listeners.members e with
  | mk result f =>
    have announced : e.announceAll (some ⟨address, token⟩) = (result, f) := told
    rw [told] at alike failed
    rw [announced]
    cases result with
    | ok completion =>
      refine .inl ?_
      simp only [signal]
      rw [alike.slot]
      exact ⟨rfl, rfl, leader_of_commit _ c token address now current⟩
    | error why =>
      refine .inr ?_
      have running : f.down = false := alike.down.trans up
      have members : f.contenders.ids.Nodup := alike.contenders ▸ distinct
      have closed := shutDown_closed (f.note (.fatal why)) (.fatal why) running members
      obtain ⟨x, a, m, beyond, present, service, work, verdict⟩ := failed why rfl
      obtain ⟨farewells, grown, _⟩ := closed.attempts
      refine ⟨closed.slot, closed.down, x, a, m, why, beyond, ?_, service, work, verdict⟩
      have within := (List.getElem?_eq_some_iff.mp present).1
      simp only [signal, fail]
      rw [grown]
      exact (List.getElem?_append_left within).trans present

end Desk

namespace System
variable {calls : List Call}

def Unmoved (sys next : System) : Prop :=
  ∃ notes, next = { sys with ledger := { sys.ledger with notes := notes } }

-- A commit stands, or the executor rejected an announcement of it and the service went down.
def Settles (calls : List Call) (i : Nat) (c : Contender) (l : Leader Fence) : Prop :=
  (before calls (i + 1)).Leads c l ∨
    ∃ w x a m why, (before calls (i + 1)).services[c.home]? = some w ∧ w.down = true ∧ Made calls i x a ∧
      a.service = c.home ∧ a.work = .notify m (some l) ∧ a.verdict = .reject why

theorem confirm_applied (sys : System) (c : Contender) (token : Fence) (address : String) (now : Instant)
    (v : Service) (found : sys.services[c.home]? = some v) :
    sys.apply (.confirm c token address now) =
      (.completion ((sys.cleared.desk c.home v).confirm c token address now).1,
        sys.cleared.store c.home ((sys.cleared.desk c.home v).confirm c token address now).2) := by
  have reached : sys.cleared.services[c.home]? = some v := found
  have acted : sys.apply (.confirm c token address now) =
      sys.cleared.act (.confirm c token address now) := rfl
  simp only [acted, act, visit, reached]

theorem store_note (sys : System) (s : Nat) (v : Service) (found : sys.services[s]? = some v) (n : Note) :
    Unmoved sys (sys.store s ((sys.desk s v).note n)) := by
  obtain ⟨within, rfl⟩ := List.getElem?_eq_some_iff.mp found
  refine ⟨sys.ledger.notes ++ [n], ?_⟩
  have kept : (sys.services.set s sys.services[s]) = sys.services := List.set_getElem_self within
  simp only [store, desk, Desk.note, kept]

theorem proposes_fits (sys : System) (sound : sys.Sound) (c : Contender)
    (known : .contender c ∈ sys.enrolled) (v : Service) (found : sys.services[c.home]? = some v)
    (proposed : v.slot.proposed = some c.id) : v.down = false ∧ sys.ledger.active c.id = true := by
  have desk := sound.desks c.home v found
  have holder := (desk.slot.holder_iff c.id).mpr (.inl proposed)
  refine ⟨?_, ?_⟩
  · cases down : v.down with
    | false => rfl
    | true =>
      rw [(desk.down down).1] at holder
      cases holder
  · have listed := (Desk.mem_ids (sys.desk c.home v) c.id).mpr (.inl (desk.seated c.id holder))
    exact (desk.active c.id ⟨.contender c, known, rfl, rfl⟩).mpr listed

theorem confirm_idle (lawful : Lawful {} calls) (i : Nat) (c : Contender) (token : Fence) (address : String)
    (now : Instant) (called : calls[i]? = some (.confirm c token address now))
    (stray : ¬ (before calls i).Proposes c token) :
    ((before calls i).apply (.confirm c token address now)).1 = .completion .done ∧
      Unmoved (before calls i) (before calls (i + 1)) := by
  have sound := sound_before lawful i
  obtain ⟨v, found⟩ := sound.service_of (held_of_lawful calls {} lawful i _ called)
  have misfit : v.slot.proposed ≠ some c.id ∨ v.slot.token ≠ some token := by
    by_cases proposed : v.slot.proposed = some c.id
    · exact .inr fun current => stray ⟨v, found, proposed, current⟩
    · exact .inl proposed
  obtain ⟨n, ignored⟩ := Desk.confirm_ignored ((before calls i).cleared.desk c.home v) c token address now
    (.inr (.inr misfit))
  have applied := confirm_applied (before calls i) c token address now v found
  rw [ignored] at applied
  rw [before_succ calls i _ called, applied]
  exact ⟨rfl, store_note (before calls i).cleared c.home v found n⟩

theorem commit_outcome (lawful : Lawful {} calls) (i : Nat) (c : Contender) (token : Fence) (address : String)
    (commits : Commits calls i c token address) :
    ¬ (before calls (i + 1)).Proposes c token ∧ Settles calls i c ⟨address, token⟩ := by
  have sound := sound_before lawful i
  have known := known_of_commit lawful i c token address commits
  obtain ⟨⟨now, called⟩, v, found, proposed, current⟩ := commits
  obtain ⟨up, active⟩ := proposes_fits (before calls i) sound c known v found proposed
  have distinct := (sound.desks c.home v found).contenders_distinct
  have outcome := Desk.confirm_outcome ((before calls i).cleared.desk c.home v) c token address now
    up active proposed current distinct
  have after := before_succ calls i _ called
  rw [confirm_applied (before calls i) c token address now v found] at after
  generalize ((before calls i).cleared.desk c.home v).confirm c token address now = result at outcome after
  obtain ⟨completion, e⟩ := result
  have within := (List.getElem?_eq_some_iff.mp found).1
  have stored : (before calls (i + 1)).services[c.home]? = some e.toService := by
    rw [after]
    exact List.getElem?_set_self within
  rcases outcome with ⟨unproposed, confirmed, leader⟩ | ⟨slot, down, rejected⟩
  · refine ⟨?_, .inl ⟨e.toService, stored, confirmed, leader⟩⟩
    intro ⟨w, present, again, _⟩
    cases stored.symm.trans present
    cases unproposed.symm.trans again
  · obtain ⟨x, a, m, why, beyond, present, service, work, verdict⟩ := rejected
    refine ⟨?_, .inr ⟨e.toService, x, a, m, why, stored, down, ⟨beyond, ?_⟩, service, work, verdict⟩⟩
    · intro ⟨w, present, again, _⟩
      cases stored.symm.trans present
      rw [slot] at again
      cases again
    · rw [after]
      exact present

theorem commit_once (lawful : Lawful {} calls) (i j : Nat) (c c' : Contender) (token : Fence)
    (address address' : String) (first : Commits calls i c token address)
    (second : Commits calls j c' token address') : i = j := by
  have ordered (i j : Nat) (c c' : Contender) (address address' : String)
      (first : Commits calls i c token address) (second : Commits calls j c' token address') : ¬ i < j := by
    intro less
    obtain ⟨k, before_, granted, _⟩ := commit_granted lawful i c token address first
    obtain ⟨k', _, granted', lasting⟩ := commit_granted lawful j c' token address' second
    obtain ⟨rfl, rfl⟩ := grants_unique lawful k k' c c' token granted granted'
    exact (commit_outcome lawful i c token address first).1 (lasting (i + 1) (by omega) less)
  have left := ordered i j c c' address address' first second
  have right := ordered j i c' c address' address second first
  omega

-- At most one confirmation with a token commits. It is made by the registration that the token was
-- granted to, the only one, while that proposal has stood ever since, and it takes effect. Every other
-- confirmation with the token answers an empty completion and leaves everything as it was.
theorem confirmation_fenced (calls : List Call) (lawful : Lawful {} calls) (token : Fence) :
    (∀ i j c c' address address', Commits calls i c token address → Commits calls j c' token address' →
        i = j) ∧
      (∀ i c address, Commits calls i c token address →
        (∃ k < i, Grants calls k c token ∧ (∀ k' c', Grants calls k' c' token → k' = k ∧ c' = c) ∧
          ∀ j, k < j → j ≤ i → (before calls j).Proposes c token) ∧
        Settles calls i c ⟨address, token⟩) ∧
      ∀ i c address now, calls[i]? = some (.confirm c token address now) →
        ¬ Commits calls i c token address →
        ((before calls i).apply (.confirm c token address now)).1 = .completion .done ∧
          Unmoved (before calls i) (before calls (i + 1)) := by
  refine ⟨?_, ?_, ?_⟩
  · intro i j c c' address address' first second
    exact commit_once lawful i j c c' token address address' first second
  · intro i c address commits
    obtain ⟨k, less, granted, lasting⟩ := commit_granted lawful i c token address commits
    refine ⟨⟨k, less, granted, ?_, lasting⟩, (commit_outcome lawful i c token address commits).2⟩
    intro k' c' again
    exact grants_unique lawful k' k c' c token again granted
  · intro i c address now called idle
    have stray : ¬ (before calls i).Proposes c token := fun proposes => idle ⟨⟨now, called⟩, proposes⟩
    exact confirm_idle lawful i c token address now called stray

theorem succession_fenced :
    Lawful {} succession ∧ Commits succession 7 ⟨1, 0, "left", 1⟩ (.minted 1) "west" ∧
      Settles succession 7 ⟨1, 0, "left", 1⟩ ⟨"west", .minted 1⟩ ∧
      ¬ Commits succession 8 ⟨1, 0, "left", 1⟩ (.minted 1) "east" ∧
      Unmoved (before succession 8) (before succession 9) := by
  have lawful : Lawful {} succession := by decide
  have commits : Commits succession 7 ⟨1, 0, "left", 1⟩ (.minted 1) "west" :=
    ⟨⟨_, rfl⟩, _, rfl, rfl, rfl⟩
  obtain ⟨once, granted, idle⟩ := confirmation_fenced succession lawful (.minted 1)
  have second : ¬ Commits succession 8 ⟨1, 0, "left", 1⟩ (.minted 1) "east" := by
    intro again
    cases once 7 8 _ _ _ _ commits again
  exact ⟨lawful, commits, (granted 7 _ _ commits).2, second, (idle 8 _ _ _ rfl second).2⟩

end System
end Leadership
