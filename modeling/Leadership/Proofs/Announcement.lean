import Leadership.Proofs.Fencing

set_option autoImplicit false

namespace Leadership.System
variable {calls : List Call}

theorem Unmoved.leads {sys next : System} (unmoved : Unmoved sys next) (c : Contender) (l : Leader Fence)
    (leads : next.Leads c l) : sys.Leads c l := by
  obtain ⟨notes, rfl⟩ := unmoved
  exact leads

theorem Unmoved.attempts {sys next : System} (unmoved : Unmoved sys next) :
    next.ledger.attempts = sys.ledger.attempts := by
  obtain ⟨notes, rfl⟩ := unmoved
  rfl

-- Whoever leads at a desk on the way through a call led before, or this very call commits it. A
-- confirmation that asks for it and does not commit moves nothing.
theorem leader_on_path (lawful : Lawful {} calls) (i n : Nat) (within : i ≤ n) (call : Call)
    (here : calls[i]? = some call) (c : Contender) (l : Leader Fence)
    (known : .contender c ∈ (before calls n).enrolled) (v : Service) (f : Desk)
    (found : (before calls i).services[c.home]? = some v)
    (path : Desk.Moves call ((before calls i).cleared.desk c.home v) f)
    (confirmed : f.slot.confirmed = some c.id) (leader : f.slot.leader? = some l) :
    (before calls i).Leads c l ∨ Commits calls i c l.token l.address ∨
      Unmoved (before calls i) (before calls (i + 1)) := by
  have held := held_of_lawful calls {} lawful i call here
  have desk := (sound_before lawful i).cleared.desks c.home v found
  rcases Desk.moves_leader desk held path c.id l confirmed leader with kept | ⟨g, now, asked, same⟩
  · exact .inl ⟨v, found, kept⟩
  · rw [asked] at here held
    have later : .contender g ∈ (before calls n).enrolled := (grown_later lawful i n within).enrolled.subset held
    cases (sound_before lawful n).handle_unique later known same
    by_cases proposes : (before calls i).Proposes c l.token
    · exact .inr (.inl ⟨⟨now, here⟩, proposes⟩)
    · exact .inr (.inr (confirm_idle lawful i c l.token l.address now here proposes).2)

theorem leader_step (lawful : Lawful {} calls) (i n : Nat) (less : i < n) (c : Contender) (l : Leader Fence)
    (known : .contender c ∈ (before calls n).enrolled) (leads : (before calls (i + 1)).Leads c l) :
    (before calls i).Leads c l ∨ Commits calls i c l.token l.address := by
  cases here : calls[i]? with
  | none =>
    rw [before_end calls i here] at leads
    exact .inl leads
  | some call =>
    obtain ⟨w, found, confirmed, leader⟩ := leads
    obtain ⟨_, takes⟩ := before_takes lawful i call here
    rcases takes_service takes c.home w found with same | ⟨plan, rfl⟩ | visited
    · exact .inl ⟨w, same, confirmed, leader⟩
    · cases confirmed
    · obtain ⟨v, e, _, present, moves, rfl, _⟩ := visited
      have within := Nat.le_of_lt less
      rcases leader_on_path lawful i n within call here c l known v e present moves confirmed leader with
        led | commits | unmoved
      · exact .inl led
      · exact .inr commits
      · exact .inl (unmoved.leads c l ⟨e.toService, found, confirmed, leader⟩)

theorem leader_since (lawful : Lawful {} calls) (n : Nat) (c : Contender) (l : Leader Fence)
    (known : .contender c ∈ (before calls n).enrolled) (leads : (before calls n).Leads c l) :
    ∃ k < n, Commits calls k c l.token l.address ∧ ∀ j, k < j → j ≤ n → (before calls j).Leads c l := by
  refine since_call calls (fun sys => sys.Leads c l) (fun i => Commits calls i c l.token l.address) ?_ n ?_ leads
  · intro ⟨v, found, _⟩
    cases found
  · intro i less later
    exact leader_step lawful i n less c l known later

structure Announced (calls : List Call) (i : Nat) (a : Attempt) (l : Leader Fence) (k : Nat)
    (c : Contender) : Prop where
  commit : Commits calls k c l.token l.address
  past : k ≤ i
  home : c.home = a.service
  standing : ∀ j, k < j → j ≤ i → (before calls j).Leads c l
  up : a.moment.down = false
  confirmed : a.moment.slot.confirmed = some c.id
  leader : a.moment.slot.leader? = some l
  registered : ∃ m, a.moment.contenders.get? c.id = some m ∧ m.registration = c

theorem confirmed_of_leader (s : Slot) (l : Leader Fence) (leader : s.leader? = some l) :
    ∃ id, s.confirmed = some id := by
  cases confirmed : s.confirmed with
  | none => simp [Slot.leader?, confirmed] at leader
  | some id => exact ⟨id, rfl⟩

theorem made_announced (lawful : Lawful {} calls) (i x : Nat) (a : Attempt) (m : Member Unit)
    (l : Leader Fence) (made : Made calls i x a) (told : a.work = .notify m (some l)) :
    ∃ k c, Announced calls i a l k c := by
  have submitted : ¬ Unmoved (before calls i) (before calls (i + 1)) := by
    intro unmoved
    have within := (List.getElem?_eq_some_iff.mp made.2).1
    have beyond := made.1
    rw [unmoved.attempts] at within
    omega
  obtain ⟨call, s, v, e, here, found, moves, beyond, present⟩ := made_on_visit lawful i x a made
  have sound := (sound_before lawful i).cleared
  have held := held_of_lawful calls {} lawful i call here
  have desk := sound.desks s v found
  obtain ⟨f, path, service, moment, current, up⟩ :=
    Desk.moves_notified desk held moves x a m (some l) beyond present told
  have still := Desk.sound_moves desk held path
  obtain ⟨id, confirmed⟩ := confirmed_of_leader f.slot l current.symm
  obtain ⟨r, listed, member, rfl⟩ := still.seat id (.inr confirmed)
  obtain ⟨known, home⟩ := still.contenders r member
  have place : r.registration.home = s := home.trans (Desk.beside_moves desk held path).1
  subst place
  have committed : ∃ k ≤ i, Commits calls k r.registration l.token l.address ∧
      ∀ j, k < j → j ≤ i → (before calls j).Leads r.registration l := by
    rcases leader_on_path lawful i i (Nat.le_refl i) call here r.registration l known v f found path confirmed
      current.symm with led | commits | unmoved
    · obtain ⟨k, less, commits, lasting⟩ := leader_since lawful i r.registration l known led
      exact ⟨k, Nat.le_of_lt less, commits, lasting⟩
    · exact ⟨i, Nat.le_refl i, commits, fun j after within => by omega⟩
    · exact absurd unmoved submitted
  obtain ⟨k, past, commits, standing⟩ := committed
  refine ⟨k, r.registration, commits, past, service.symm, standing, ?_, ?_, ?_, ?_⟩
  · rw [moment]
    exact up
  · rw [moment]
    exact confirmed
  · rw [moment]
    exact current.symm
  · rw [moment]
    exact ⟨r, listed, rfl⟩

theorem announced_made (lawful : Lawful {} calls) (x : Nat) (a : Attempt) (m : Member Unit)
    (l : Leader Fence) (present : (run {} calls).ledger.attempts[x]? = some a)
    (told : a.work = .notify m (some l)) : ∃ i k c, Made calls i x a ∧ Announced calls i a l k c := by
  rw [← before_all calls] at present
  obtain ⟨i, _, made⟩ := made_by_some_call lawful calls.length x a present
  obtain ⟨k, c, announced⟩ := made_announced lawful i x a m l made told
  exact ⟨i, k, c, made, announced⟩

-- Whatever listener is told of a leader, and by whatever call, there is a commit behind it that still
-- stands; and as a token is committed once, its leader has one address for everybody.
theorem announcements_agree (calls : List Call) (lawful : Lawful {} calls) :
    (∀ x a m l, (run {} calls).ledger.attempts[x]? = some a → a.work = .notify m (some l) →
        ∃ i k c, Made calls i x a ∧ Announced calls i a l k c) ∧
      ∀ a b m n l l', a ∈ (run {} calls).ledger.attempts → b ∈ (run {} calls).ledger.attempts →
        a.work = .notify m (some l) → b.work = .notify n (some l') → l.token = l'.token →
        l.address = l'.address := by
  refine ⟨announced_made lawful, ?_⟩
  intro a b m n l l' left right told told' same
  obtain ⟨x, atX⟩ := List.mem_iff_getElem?.mp left
  obtain ⟨y, atY⟩ := List.mem_iff_getElem?.mp right
  obtain ⟨_, k, c, _, first⟩ := announced_made lawful x a m l atX told
  obtain ⟨_, k', c', _, second⟩ := announced_made lawful y b n l' atY told'
  have commits := second.commit
  rw [← same] at commits
  cases commit_once lawful k k' c c' l.token l.address l'.address first.commit commits
  obtain ⟨⟨now, asked⟩, _⟩ := first.commit
  obtain ⟨⟨now', asked'⟩, _⟩ := commits
  have equal := asked.symm.trans asked'
  rw [Option.some.injEq, Call.confirm.injEq] at equal
  exact equal.2.2.1

def latecomer : List Call :=
  let only : Contender := ⟨1, 0, "only", 1⟩
  [.launch {}, .createContender 0 "only", .createListener 0, .createListener 0,
    .start (.contender only) 0, .start (.listener ⟨2, 0, (), 2⟩) 1,
    .confirm only (.minted 1) "west" ⟨⟨2024, 5, 1⟩, 43200, 0⟩, .start (.listener ⟨3, 0, (), 3⟩) 2]

theorem latecomer_announcement :
    Lawful {} latecomer ∧ ∃ a i k c, (run {} latecomer).ledger.attempts[2]? = some a ∧
      a.work = .notify ⟨⟨3, 0, (), 3⟩, 2⟩ (some ⟨"west", .minted 1⟩) ∧ Made latecomer i 2 a ∧
      Announced latecomer i a ⟨"west", .minted 1⟩ k c := by
  have lawful : Lawful {} latecomer := by decide
  obtain ⟨valid, _⟩ := announcements_agree latecomer lawful
  obtain ⟨i, k, c, made, announced⟩ := valid 2 _ _ _ rfl rfl
  exact ⟨lawful, _, i, k, c, rfl, rfl, made, announced⟩

end Leadership.System
