import Leadership.Proofs.Mandate

set_option autoImplicit false

namespace Leadership

inductive Phase where
  | empty
  | proposed (id : Nat) (token : Fence)
  | confirmed (id : Nat) (token : Fence) (address : String) (since : Instant)
  | down
deriving DecidableEq

inductive Call.Ousts (s id : Nat) : Call → Prop
  | removal (c : Contender) (same : c.id = id) : Ousts s id (.remove s (.contender c))
  | revoke : Ousts s id (.revoke s)

namespace Phase

def slot : Phase → Slot
  | .empty | .down => {}
  | .proposed id token => { proposed := some id, token := some token }
  | .confirmed id token address since =>
    { confirmed := some id, token := some token, address := some address, since := some since }

def tenure? : Phase → Option (Nat × Fence)
  | .proposed id token | .confirmed id token _ _ => some (id, token)
  | .empty | .down => none

inductive Edge (call : Call) (s lo hi : Nat) : Phase → Phase → Prop
  | propose (id n : Nat) (fresh : lo < n) (minted : n ≤ hi) : Edge call s lo hi .empty (.proposed id (.minted n))
  | confirm (c : Contender) (token : Fence) (address : String) (since : Instant) (home : c.home = s)
      (asked : call = .confirm c token address since) :
      Edge call s lo hi (.proposed c.id token) (.confirmed c.id token address since)
  | withdraw (id : Nat) (token : Fence) (ousted : call.Ousts s id) : Edge call s lo hi (.proposed id token) .empty
  | resign (id : Nat) (token : Fence) (address : String) (since : Instant) (ousted : call.Ousts s id) :
      Edge call s lo hi (.confirmed id token address since) .empty
  | shutDown (p : Phase) : Edge call s lo hi p .down

abbrev Path (call : Call) (s lo hi : Nat) : Phase → Phase → Prop := Relation.ReflTransGen (Edge call s lo hi)

-- A phase that nobody has ended but the service itself: it is as it was, or it has been confirmed.
inductive Stays (asked : Contender → Fence → String → Instant → Prop) : Phase → Phase → Prop
  | same (p : Phase) : Stays asked p p
  | confirmed (c : Contender) (token : Fence) (address : String) (since : Instant)
      (given : asked c token address since) :
      Stays asked (.proposed c.id token) (.confirmed c.id token address since)
  | down (p : Phase) : Stays asked p .down

variable {call : Call} {s lo hi : Nat} {p q r : Phase}

theorem Path.widen {lo' hi' : Nat} (path : Path call s lo hi p q) (lower : lo' ≤ lo) (upper : hi ≤ hi') :
    Path call s lo' hi' p q := by
  have wider : Edge call s lo hi ≤ Edge call s lo' hi' := by
    intro a b edge
    cases edge with
    | propose id n fresh minted => exact .propose id n (Nat.lt_of_le_of_lt lower fresh) (Nat.le_trans minted upper)
    | confirm c token address since home asked => exact .confirm c token address since home asked
    | withdraw id token ousted => exact .withdraw id token ousted
    | resign id token address since ousted => exact .resign id token address since ousted
    | shutDown => exact .shutDown a
  exact Relation.ReflTransGen.mono wider p q path

theorem Path.tenure (path : Path call s lo hi p q) (id : Nat) (token : Fence)
    (tenure : p.tenure? = some (id, token)) :
    q.tenure? = some (id, token) ∨ call.Ousts s id ∨ q = .down := by
  induction path with
  | refl => exact .inl tenure
  | tail _ edge ih =>
    rcases ih with still | ousted | rfl
    · cases edge with
      | propose => cases still
      | confirm => exact .inl still
      | withdraw _ _ ousted =>
        cases still
        exact .inr (.inl ousted)
      | resign _ _ _ _ ousted =>
        cases still
        exact .inr (.inl ousted)
      | shutDown => exact .inr (.inr rfl)
    · exact .inr (.inl ousted)
    · cases edge
      exact .inr (.inr rfl)

theorem Stays.trans {asked : Contender → Fence → String → Instant → Prop} (first : Stays asked p q)
    (second : Stays asked q r) : Stays asked p r := by
  cases second with
  | same => exact first
  | down => exact .down p
  | confirmed c token address since given =>
    cases first with
    | same => exact .confirmed c token address since given

theorem Stays.mono {asked asked' : Contender → Fence → String → Instant → Prop} (stays : Stays asked p q)
    (more : ∀ c token address since, asked c token address since → asked' c token address since) :
    Stays asked' p q := by
  cases stays with
  | same => exact .same p
  | down => exact .down p
  | confirmed c token address since given =>
    exact .confirmed c token address since (more c token address since given)

theorem Stays.tenure {asked : Contender → Fence → String → Instant → Prop} (stays : Stays asked p q) (id : Nat)
    (token : Fence) (tenure : p.tenure? = some (id, token)) : q.tenure? = some (id, token) ∨ q = .down := by
  cases stays with
  | same | confirmed => exact .inl tenure
  | down => exact .inr rfl

theorem Path.down (path : Path call s lo hi .down q) : q = .down := by
  induction path with
  | refl => rfl
  | tail _ edge ih =>
    subst ih
    cases edge
    rfl

theorem Path.stays (path : Path call s lo hi p q) (id : Nat) (token : Fence)
    (tenure : p.tenure? = some (id, token)) (kept : ¬ call.Ousts s id) :
    Stays (fun c token address since => call = .confirm c token address since) p q := by
  induction path with
  | refl => exact .same p
  | @tail m q reached edge ih =>
    refine ih.trans ?_
    rcases Path.tenure reached id token tenure with still | ousted | rfl
    · cases edge with
      | propose => cases still
      | confirm c _ address since _ asked => exact .confirmed c _ address since asked
      | withdraw _ _ ousted =>
        cases still
        exact absurd ousted kept
      | resign _ _ _ _ ousted =>
        cases still
        exact absurd ousted kept
      | shutDown => exact .down m
    · exact absurd ousted kept
    · cases edge
      exact .same _

end Phase

structure Service.In (v : Service) (p : Phase) : Prop where
  slot : v.slot = p.slot
  down : v.down = true ↔ p = .down

theorem Service.In.unique {v : Service} {p q : Phase} (left : v.In p) (right : v.In q) : p = q := by
  have slot := left.slot.symm.trans right.slot
  have down := left.down.symm.trans right.down
  cases p <;> cases q <;> simp_all [Phase.slot]

theorem Slot.Coherent.phase {s : Slot} (coherent : s.Coherent) : ∃ p, s = Phase.slot p ∧ p ≠ .down := by
  obtain ⟨exclusive, token, address, since⟩ := coherent
  obtain ⟨proposed, confirmed, tokenOf, addressOf, sinceOf⟩ := s
  cases confirmed with
  | none =>
    simp only [Option.isSome_none, Bool.false_eq_true, iff_false, Bool.not_eq_true, Option.isSome_eq_false_iff,
      Option.isNone_iff_eq_none] at address since
    subst address since
    cases proposed with
    | none =>
      have nothing : tokenOf = none := by simpa using token
      subst nothing
      exact ⟨.empty, rfl, nofun⟩
    | some id =>
      obtain ⟨current, rfl⟩ := Option.isSome_iff_exists.mp (token.mpr (.inl rfl))
      exact ⟨.proposed id current, rfl, nofun⟩
  | some id =>
    have nobody : proposed = none := by simpa using exclusive
    subst nobody
    obtain ⟨current, rfl⟩ := Option.isSome_iff_exists.mp (token.mpr (.inr rfl))
    obtain ⟨at_, rfl⟩ := Option.isSome_iff_exists.mp (address.mpr rfl)
    obtain ⟨start, rfl⟩ := Option.isSome_iff_exists.mp (since.mpr rfl)
    exact ⟨.confirmed id current at_ start, rfl, nofun⟩

namespace Desk
variable {enrolled : List Handle} {call : Call} {d e : Desk} {p : Phase}

theorem Sound.phase (sound : d.Sound enrolled) : ∃ p, d.In p := by
  cases down : d.down with
  | true => exact ⟨.down, (sound.down down).1, by simp [down]⟩
  | false =>
    obtain ⟨p, slot, up⟩ := sound.slot.phase
    exact ⟨p, slot, by simp [down, up]⟩

theorem ousted_edge {s lo hi : Nat} (shows : d.In p) (id : Nat) (holder : d.slot.holder? = some id)
    (ousted : call.Ousts s id) : Phase.Edge call s lo hi p .empty := by
  rw [shows.slot] at holder
  cases p with
  | empty | down => cases holder
  | proposed r token =>
    cases holder
    exact .withdraw id token ousted
  | confirmed r token address since =>
    cases holder
    exact .resign id token address since ousted

theorem move_path (sound : d.Sound enrolled) (reached : call.service? = some d.number) (move : Move call d e)
    (shows : d.In p) : ∃ q, e.In q ∧ Phase.Path call d.number d.minted e.minted p q := by
  have same (kept : e.slot = d.slot) (still : e.down = d.down) :
      ∃ q, e.In q ∧ Phase.Path call d.number d.minted e.minted p q :=
    ⟨p, ⟨kept.trans shows.slot, by rw [still]; exact shows.down⟩, .refl⟩
  cases move with
  | note | replan | enter | listen | hush | tell => exact same rfl rfl
  | leave s _ c m contenders up active removed =>
    cases reached
    have alike := leave_alike d c m contenders
    have down : (d.leave c m contenders).down = d.down := by rw [alike.down, withdraw_rest]
    have slot := alike.slot.trans (withdraw_slot sound c contenders).1
    by_cases holder : d.slot.holder? = some c.id
    · rw [if_pos holder] at slot
      exact ⟨.empty, ⟨slot, by simp [down, up]⟩, .single (ousted_edge shows c.id holder (.removal c rfl))⟩
    · rw [if_neg holder] at slot
      exact same slot down
  | propose _ _ m up unconfirmed unproposed oldest =>
    have vacant : p = .empty := by
      have slot := shows.slot
      cases p with
      | empty => rfl
      | proposed => cases (congrArg Slot.proposed slot).symm.trans unproposed
      | confirmed => cases (congrArg Slot.confirmed slot).symm.trans unconfirmed
      | down => cases up.symm.trans (shows.down.mpr rfl)
    subst vacant
    have minted := propose_minted d m
    have opened : Phase.Edge call d.number d.minted (d.propose m).2.minted .empty
        (.proposed m.id (.minted (d.minted + 1))) :=
      .propose m.id (d.minted + 1) (Nat.lt_succ_self _) (Nat.le_of_eq minted.symm)
    refine ⟨_, ⟨?_, ?_⟩, .single opened⟩
    · have slot : d.slot = {} := shows.slot
      rw [propose, submit_eq]
      simp [handed, note, setLeading, setToken, slot, Phase.slot]
    · rw [propose, submit_eq]
      simp [handed, note, setLeading, setToken, up]
  | commit _ c token address now home up active proposed current =>
    have pending : p = .proposed c.id token := by
      have slot := shows.slot
      rw [slot] at proposed current
      cases p with
      | empty | confirmed | down => cases proposed
      | proposed =>
        cases proposed
        cases current
        rfl
    subst pending
    refine ⟨.confirmed c.id token address now, ⟨?_, ?_⟩, .single (.confirm c token address now home rfl)⟩
    · simp [commit, shows.slot, Phase.slot]
    · simp [commit, up]
  | depose s _ id m up holder found =>
    cases reached
    refine ⟨.empty, ⟨rfl, ?_⟩, .single (ousted_edge shows id holder .revoke)⟩
    simp [handed, depose, setLeading, note, vacate, setToken, up]
  | shutDown _ _ cause up =>
    have closed := shutDown_closed d cause up sound.contenders_distinct
    exact ⟨.down, ⟨closed.slot, by simp [closed.down]⟩, .single (.shutDown p)⟩

theorem moves_path (sound : d.Sound enrolled) (held : call.Held enrolled)
    (reached : call.service? = some d.number) (moves : Moves call d e) (shows : d.In p) :
    ∃ q, e.In q ∧ Phase.Path call d.number d.minted e.minted p q := by
  induction moves with
  | refl => exact ⟨p, shows, .refl⟩
  | @tail f g before move ih =>
    obtain ⟨q, shown, path⟩ := ih
    have still := sound_moves sound held before
    have number := (beside_moves sound held before).1
    obtain ⟨r, shows', step⟩ := move_path still (number ▸ reached) move shown
    rw [number] at step
    have lower := moves_minted sound held before
    have upper := moves_minted still held (.single move)
    exact ⟨r, shows', (path.widen (Nat.le_refl _) upper).trans (step.widen lower (Nat.le_refl _))⟩

end Desk

namespace System
variable {calls : List Call}

theorem launched_empty (lawful : Lawful {} calls) (i s : Nat) (v : Service)
    (missing : (before calls i).services[s]? = none) (found : (before calls (i + 1)).services[s]? = some v) :
    v.In .empty := by
  cases here : calls[i]? with
  | none =>
    rw [before_end calls i here, missing] at found
    cases found
  | some call =>
    rcases takes_service (before_takes lawful i call here).2 s v found with same | ⟨plan, rfl⟩ | visited
    · cases missing.symm.trans same
    · exact ⟨rfl, by simp⟩
    · obtain ⟨w, _, _, present, _⟩ := visited
      cases missing.symm.trans present

theorem call_path (lawful : Lawful {} calls) (i : Nat) (call : Call) (here : calls[i]? = some call) (s : Nat)
    (v : Service) (found : (before calls i).services[s]? = some v) (p : Phase) (shows : v.In p) :
    ∃ w q, (before calls (i + 1)).services[s]? = some w ∧ w.In q ∧
      Phase.Path call s (before calls i).ledger.minted (before calls (i + 1)).ledger.minted p q := by
  obtain ⟨held, takes⟩ := before_takes lawful i call here
  obtain ⟨w, present, rfl | ⟨e, reached, moves, rfl, stored⟩⟩ := takes_kept takes s v found
  · exact ⟨w, p, present, shows, .refl⟩
  · have desk := (sound_before lawful i).cleared.desks s v found
    obtain ⟨q, shown, path⟩ := Desk.moves_path desk held reached moves shows
    rw [stored] at present ⊢
    exact ⟨e.toService, q, present, shown, path⟩

def Asked (calls : List Call) (i j : Nat) (c : Contender) (token : Fence) (address : String) (since : Instant) :
    Prop :=
  ∃ k, i ≤ k ∧ k < j ∧ calls[k]? = some (.confirm c token address since)

theorem tenure_stays (lawful : Lawful {} calls) (i j s : Nat) (within : i ≤ j) (v : Service)
    (found : (before calls i).services[s]? = some v) (p : Phase) (shows : v.In p) (id : Nat) (token : Fence)
    (tenure : p.tenure? = some (id, token))
    (kept : ∀ k call, i ≤ k → k < j → calls[k]? = some call → ¬ call.Ousts s id) :
    ∃ w q, (before calls j).services[s]? = some w ∧ w.In q ∧ Phase.Stays (Asked calls i j) p q := by
  induction within with
  | refl => exact ⟨v, p, found, shows, .same p⟩
  | @step j within ih =>
    obtain ⟨w, q, present, shown, stays⟩ := ih fun k call after early => kept k call after (Nat.lt_succ_of_lt early)
    have later : Phase.Stays (Asked calls i (j + 1)) p q :=
      stays.mono fun _ _ _ _ ⟨k, after, early, given⟩ => ⟨k, after, Nat.lt_succ_of_lt early, given⟩
    cases here : calls[j]? with
    | none =>
      rw [before_end calls j here]
      exact ⟨w, q, present, shown, later⟩
    | some call =>
      obtain ⟨u, r, after, shows', path⟩ := call_path lawful j call here s w present q shown
      refine ⟨u, r, after, shows', later.trans ?_⟩
      rcases stays.tenure id token tenure with held | rfl
      · refine (path.stays id token held (kept j call within (Nat.lt_succ_self j) here)).mono ?_
        rintro c token address since rfl
        exact ⟨j, within, Nat.lt_succ_self j, here⟩
      · rw [path.down]
        exact .same .down

-- A service shows one phase at a time, a new one the empty phase, and each call takes it along the edges.
-- Over any number of calls that do not end it, a tenure only ever goes from proposed to confirmed.
theorem slot_refines (calls : List Call) (lawful : Lawful {} calls) :
    (∀ (i s : Nat) (v : Service), (before calls i).services[s]? = some v → ∃ p, v.In p ∧ ∀ q, v.In q → q = p) ∧
      (∀ (i s : Nat) (v : Service), (before calls i).services[s]? = none →
        (before calls (i + 1)).services[s]? = some v → v.In .empty) ∧
      (∀ (i : Nat) call, calls[i]? = some call → ∀ (s : Nat) (v : Service), (before calls i).services[s]? = some v →
        ∀ p, v.In p → ∃ w q, (before calls (i + 1)).services[s]? = some w ∧ w.In q ∧
          Phase.Path call s (before calls i).ledger.minted (before calls (i + 1)).ledger.minted p q ∧
          ∀ id token, p.tenure? = some (id, token) →
            q.tenure? = some (id, token) ∨ call.Ousts s id ∨ q = .down) ∧
      ∀ (i j s : Nat), i ≤ j → ∀ v : Service, (before calls i).services[s]? = some v → ∀ p, v.In p →
        ∀ id token, p.tenure? = some (id, token) →
        (∀ k call, i ≤ k → k < j → calls[k]? = some call → ¬ call.Ousts s id) →
        ∃ w q, (before calls j).services[s]? = some w ∧ w.In q ∧ Phase.Stays (Asked calls i j) p q := by
  refine ⟨?_, launched_empty lawful, ?_, tenure_stays lawful⟩
  · intro i s v found
    obtain ⟨p, shows⟩ := ((sound_before lawful i).desks s v found).phase
    exact ⟨p, shows, fun q shown => Service.In.unique shown shows⟩
  · intro i call here s v found p shows
    obtain ⟨w, q, present, shown, path⟩ := call_path lawful i call here s v found p shows
    exact ⟨w, q, present, shown, path, fun id token tenure => path.tenure id token tenure⟩

-- The first contender's tenure outlasts the start of the second and what both try with its token. Its
-- removal empties the slot and proposes the second at once.
theorem succession_refines :
    Lawful {} succession ∧
      (∃ w q, (before succession 10).services[0]? = some w ∧ w.In q ∧
        Phase.Stays (Asked succession 5 10) (.proposed 1 (.minted 1)) q) ∧
      ∃ w q, (before succession 11).services[0]? = some w ∧ w.In q ∧
        Phase.Path (.remove 0 (.contender ⟨1, 0, "left", 1⟩)) 0 1 2
          (.confirmed 1 (.minted 1) "west" ⟨⟨2024, 5, 1⟩, 43200, 0⟩) q := by
  have lawful : Lawful {} succession := by decide
  obtain ⟨_, _, each, stays⟩ := slot_refines succession lawful
  have kept (k : Nat) (call : Call) (after : 5 ≤ k) (early : k < 10) (here : succession[k]? = some call) :
      ¬ call.Ousts 0 1 := by
    intro ousts
    obtain rfl | rfl | rfl | rfl | rfl : k = 5 ∨ k = 6 ∨ k = 7 ∨ k = 8 ∨ k = 9 := by omega
    all_goals
      cases here
      cases ousts
  refine ⟨lawful, ?_, ?_⟩
  · exact stays 5 10 0 (by decide) _ rfl _ ⟨rfl, by decide⟩ 1 (.minted 1) rfl kept
  · obtain ⟨w, q, present, shown, path, _⟩ := each 10 _ rfl 0 _ rfl
      (.confirmed 1 (.minted 1) "west" ⟨⟨2024, 5, 1⟩, 43200, 0⟩) ⟨rfl, by decide⟩
    exact ⟨w, q, present, shown, path⟩

end System
end Leadership
