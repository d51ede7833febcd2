import Leadership.Proofs.CrashStop
import Leadership.Proofs.Downfall

set_option autoImplicit false

namespace Leadership

theorem Work.handle_id (w : Work) : w.handle.id = w.id := by
  cases w <;> rfl

def Lasting (as : List Attempt) : Prop := as.Pairwise fun a b => a.work.Farewell → b.work.Farewell

theorem Lasting.live {fresh bye : List Attempt} {last : Attempt} (lasting : Lasting (fresh ++ [last] ++ bye))
    (live : ¬ last.work.Farewell) : ∀ a ∈ fresh ++ [last], ¬ a.work.Farewell := by
  obtain ⟨early, _, _⟩ := List.pairwise_append.mp lasting
  obtain ⟨_, _, ordered⟩ := List.pairwise_append.mp early
  intro a member farewell
  rcases List.mem_append.mp member with before | same
  · exact live (ordered a before last (by simp) farewell)
  · exact live (List.mem_singleton.mp same ▸ farewell)

namespace Desk
variable {enrolled : List Handle} {call : Call} {d e : Desk}

theorem move_parting (sound : d.Sound enrolled) (move : Move call d e) (up : d.down = false) :
    ∃ fresh, e.attempts = d.attempts ++ fresh ∧ ((e.down = false ∧ ∀ a ∈ fresh, ¬ a.work.Farewell) ∨
      (e.down = true ∧ ∀ a ∈ fresh, a.work.Farewell)) := by
  cases move with
  | note | replan | enter | listen | hush | commit => exact ⟨[], (List.append_nil _).symm, .inl ⟨up, by simp⟩⟩
  | leave s _ c m contenders _ active removed =>
    have still : (d.leave c m contenders).down = false := by
      rw [(leave_alike d c m contenders).down, withdraw_rest]
      exact up
    rcases leave_sends d c m contenders with nothing | ⟨a, _, work, grown⟩
    · exact ⟨[], by rw [nothing, List.append_nil], .inl ⟨still, by simp⟩⟩
    · exact ⟨[a], grown, .inl ⟨still, by simp [work, Work.Farewell]⟩⟩
  | propose _ _ m _ unconfirmed unproposed oldest =>
    rw [propose, submit_eq]
    exact ⟨_, rfl, .inl ⟨up, by simp [Work.Farewell]⟩⟩
  | tell | depose => exact ⟨_, rfl, .inl ⟨up, by simp [Work.Farewell]⟩⟩
  | shutDown _ _ cause =>
    obtain ⟨fresh, grown, told⟩ := sound.shutDown_farewells cause up
    refine ⟨fresh, grown, .inr ⟨shutDown_down d cause, fun a member => ?_⟩⟩
    exact d.farewell_of_mem cause a.work (told ▸ List.mem_map_of_mem member)

theorem move_silent (move : Move call d e) (down : d.down = true) : e.attempts = d.attempts := by
  cases move with
  | note | replan => rfl
  | enter _ _ _ _ _ up | listen _ _ _ _ _ up | leave _ _ _ _ _ up | hush _ _ _ _ _ up | propose _ _ _ up
  | commit _ _ _ _ _ _ up | tell _ _ _ up | depose _ _ _ _ up | shutDown _ _ _ up => exact running up down

theorem moves_silent (moves : Moves call d e) (down : d.down = true) : e.attempts = d.attempts := by
  induction moves with
  | refl => rfl
  | tail reached move ih => exact (move_silent move (moves_down reached down)).trans ih

theorem moves_parting (sound : d.Sound enrolled) (held : call.Held enrolled) (moves : Moves call d e) :
    ∃ fresh, e.attempts = d.attempts ++ fresh ∧ Lasting fresh ∧
      (e.down = false → ∀ a ∈ fresh, ¬ a.work.Farewell) := by
  induction moves with
  | refl => exact ⟨[], (List.append_nil _).symm, .nil, by simp⟩
  | @tail f g reached move ih =>
    obtain ⟨early, grown, lasting, live⟩ := ih
    cases still : f.down with
    | true =>
      refine ⟨early, (move_silent move still).trans grown, lasting, fun running => ?_⟩
      cases running.symm.trans (move_down move still)
    | false =>
      obtain ⟨late, extended, either⟩ := move_parting (sound_moves sound held reached) move still
      have quiet := live still
      have last : Lasting late := by
        refine List.pairwise_of_forall_mem_list fun a left b right farewell => ?_
        rcases either with ⟨_, none⟩ | ⟨_, all⟩
        · exact absurd farewell (none a left)
        · exact all b right
      refine ⟨early ++ late, by rw [extended, grown, List.append_assoc], ?_, ?_⟩
      · exact List.pairwise_append.mpr ⟨lasting, last, fun a left b _ farewell => absurd farewell (quiet a left)⟩
      · intro running a member
        rcases List.mem_append.mp member with old | new
        · exact quiet a old
        · rcases either with ⟨_, none⟩ | ⟨down, _⟩
          · exact none a new
          · cases running.symm.trans down

end Desk

namespace System
variable {calls : List Call}

-- The desk at which a shutdown begins: the service as the call has found it, if the call asks for the end
-- or is a misuse, or as it was at a rejected unit, the last before the farewells.
inductive Begun (calls : List Call) (i s : Nat) (f : Desk) : List Attempt → Fault → Prop
  | closed (call : Call) (v : Service) (cause : Fault) (here : calls[i]? = some call)
      (found : (before calls i).services[s]? = some v)
      (reason : Desk.Reason ((before calls i).cleared.desk s v) call cause)
      (alike : Desk.Alike ((before calls i).cleared.desk s v) f) : Begun calls i s f [] cause
  | crash (fresh : List Attempt) (last : Attempt) (why : Fault) (accepted : ∀ a ∈ fresh, a.Accepted)
      (rejected : last.verdict = .reject why) (slot : last.moment.slot = f.slot)
      (contenders : last.moment.contenders = f.contenders) (listeners : last.moment.listeners = f.listeners) :
      Begun calls i s f (fresh ++ [last]) (.fatal why)

-- The `i`-th call shuts a service down from this desk. Units for the end are handed over for all who are
-- registered there, once each whatever the answers, after all others that the call submits.
structure Ending (calls : List Call) (i s : Nat) (f : Desk) (cause : Fault) (early late : List Attempt) :
    Prop where
  up : f.down = false
  distinct : f.ids.Nodup
  leading : ∀ m ∈ f.contenders.members, f.leading m.id = true ↔ f.slot.holder? = some m.id
  whole : submitted calls i = early ++ late
  begun : Begun calls i s f early cause
  live : ∀ a ∈ early, ¬ a.work.Farewell
  told : late.map Attempt.work = (f.contenders.members.map fun m => .retire m (f.leading m.id) cause) ++
    f.listeners.members.map fun m => .dismiss m cause
  sender : ∀ a ∈ late, a.service = s
  revoked : ∀ a ∈ late, ∀ m led, a.work = .retire m led cause →
    (.call (.revoke m.registration.label) ∈ a.work.duties ↔ f.leading m.id = true)
  ended : (before calls (i + 1)).services[s]? = some (f.shutDown cause).toService

theorem visit_of_submitted (lawful : Lawful {} calls) (i : Nat) (a : Attempt) (member : a ∈ submitted calls i) :
    ∃ call v e, (before calls i).services[a.service]? = some v ∧
      Desk.Moves call ((before calls i).cleared.desk a.service v) e ∧ call.Held (before calls i).enrolled ∧
      (before calls (i + 1)).services[a.service]? = some e.toService ∧
      e.attempts = (before calls i).ledger.attempts ++ submitted calls i := by
  obtain ⟨x, made⟩ := made_of_submitted i a member
  obtain ⟨call, v, e, here, _, found, moves, stored, _⟩ := visit_of_made lawful i x a made
  refine ⟨call, v, e, found, moves, held_of_lawful calls {} lawful i call here, ?_, ?_⟩
  · rw [stored]
    exact store_service a.service v e found
  · rw [← attempts_succ lawful, stored]
    rfl

theorem submitted_lasting (lawful : Lawful {} calls) (i : Nat) : Lasting (submitted calls i) := by
  cases none : submitted calls i with
  | nil => exact .nil
  | cons a rest =>
    obtain ⟨call, v, e, found, moves, held, _, grown⟩ := visit_of_submitted lawful i a (by simp [none])
    obtain ⟨fresh, extended, lasting, _⟩ :=
      Desk.moves_parting ((sound_before lawful i).cleared.desks a.service v found) held moves
    rw [← none, List.append_cancel_left (grown.symm.trans extended)]
    exact lasting

theorem up_of_submitted (lawful : Lawful {} calls) (i : Nat) (a : Attempt) (member : a ∈ submitted calls i) :
    (before calls i).Up a.service := by
  obtain ⟨call, v, e, found, moves, _, _, grown⟩ := visit_of_submitted lawful i a member
  cases up : v.down with
  | false => exact ⟨v, found, up⟩
  | true =>
    have silent : e.attempts = (before calls i).ledger.attempts := Desk.moves_silent moves up
    rw [silent] at grown
    rw [List.self_eq_append_right.mp grown] at member
    cases member

theorem silent_down (lawful : Lawful {} calls) (i s : Nat) (call : Call) (here : calls[i]? = some call)
    (reached : call.service? = some s) (down : (before calls i).Down s) : submitted calls i = [] := by
  refine List.eq_nil_iff_forall_not_mem.mpr fun a member => ?_
  obtain ⟨x, made⟩ := made_of_submitted i a member
  have service := made_service lawful i x s a made call here reached
  exact (up_of_submitted lawful i a member).not_down (service ▸ down)

theorem farewell_downs (lawful : Lawful {} calls) (i : Nat) (a : Attempt) (member : a ∈ submitted calls i)
    (farewell : a.work.Farewell) : (before calls (i + 1)).Down a.service := by
  obtain ⟨call, v, e, found, moves, held, after, grown⟩ := visit_of_submitted lawful i a member
  obtain ⟨fresh, extended, _, live⟩ :=
    Desk.moves_parting ((sound_before lawful i).cleared.desks a.service v found) held moves
  have same : submitted calls i = fresh := List.append_cancel_left (grown.symm.trans extended)
  cases down : e.down with
  | true => exact ⟨e.toService, after, down⟩
  | false => exact absurd farewell (live down a (same ▸ member))

theorem submitted_of_made (i x : Nat) (a : Attempt) (made : Made calls i x a) :
    (submitted calls i)[x - (before calls i).ledger.attempts.length]? = some a := by
  obtain ⟨beyond, present⟩ := made
  rw [submitted, List.getElem?_drop, Nat.add_sub_of_le beyond]
  exact present

section Ending
variable (lawful : Lawful {} calls) (i s : Nat)
include lawful

theorem ending_of_shutDown (call : Call) (here : calls[i]? = some call) (reached : call.service? = some s)
    (enrolled : List Handle) (f : Desk) (cause : Fault) (early : List Attempt) (sound : f.Sound enrolled)
    (up : f.down = false) (grown : f.attempts = (before calls i).ledger.attempts ++ early)
    (total : (f.shutDown cause).attempts = (before calls i).ledger.attempts ++ submitted calls i)
    (begun : Begun calls i s f early cause) (live : ∀ a ∈ early, ¬ a.work.Farewell)
    (ended : (before calls (i + 1)).services[s]? = some (f.shutDown cause).toService) :
    ∃ late, Ending calls i s f cause early late := by
  obtain ⟨late, extended, told, _⟩ := (Desk.shutDown_closed f cause up sound.contenders_distinct).attempts
  have whole : submitted calls i = early ++ late := by
    rw [grown, List.append_assoc] at extended
    exact List.append_cancel_left (total.symm.trans extended)
  refine ⟨late, up, sound.distinct, ?_, whole, begun, live, told, ?_, ?_, ended⟩
  · intro m member
    exact sound.leading m.id (sound.own_contender (Roster.ids_of_member f.contenders m member))
  · intro a member
    obtain ⟨x, made⟩ := made_of_submitted i a (whole ▸ List.mem_append_right early member)
    exact made_service lawful i x s a made call here reached
  · intro a member m led work
    have listed : a.work ∈ late.map Attempt.work := List.mem_map_of_mem member
    rw [told, work, List.mem_append, List.mem_map, List.mem_map] at listed
    rcases listed with ⟨n, _, same⟩ | ⟨n, _, same⟩
    · cases same
      rw [work]
      cases f.leading m.id <;> simp [Work.duties]
    · cases same

theorem ending_of_down (up : (before calls i).Up s) (down : (before calls (i + 1)).Down s) :
    ∃ f cause early late, Ending calls i s f cause early late := by
  obtain ⟨call, v, e, here, reached, found, running, after, grown, fall⟩ := fall_of_down lawful i s up down
  have sound := (sound_before lawful i).cleared.desks s v found
  cases fall with
  | closed f cause alike kept reason =>
    obtain ⟨late, ending⟩ := ending_of_shutDown lawful i s call here reached _ f cause [] (sound.alike alike)
      (alike.down.trans running) (kept.trans (List.append_nil _).symm) grown
      (.closed call v cause here found reason alike) (by simp) after
    exact ⟨f, cause, [], late, ending⟩
  | crash why f still up broken =>
    obtain ⟨fresh, last, extended, accepted, rejected, live, slot, contenders, listeners⟩ := broken
    obtain ⟨bye, ended, _⟩ := still.fail_farewells why up
    have whole : submitted calls i = fresh ++ [last] ++ bye := by
      rw [ended, extended, List.append_assoc] at grown
      exact (List.append_cancel_left grown).symm
    have lasting := submitted_lasting lawful i
    rw [whole] at lasting
    obtain ⟨late, ending⟩ := ending_of_shutDown lawful i s call here reached _ (f.note (.fatal why)) (.fatal why)
      (fresh ++ [last]) (still.alike (Desk.note_alike f _)) up extended grown
      (.crash fresh last why accepted rejected slot contenders listeners) (lasting.live live) after
    exact ⟨f.note (.fatal why), .fatal why, fresh ++ [last], late, ending⟩

end Ending

theorem Ending.told_ids {i s : Nat} {f : Desk} {cause : Fault} {early late : List Attempt}
    (ending : Ending calls i s f cause early late) : (late.map fun a => a.work.id) = f.ids := by
  have told := congrArg (List.map Work.id) ending.told
  simp only [List.map_append, List.map_map] at told
  exact told

theorem Ending.once {i s : Nat} {f : Desk} {cause : Fault} {early late : List Attempt}
    (ending : Ending calls i s f cause early late) (x y : Nat) (a b : Attempt)
    (atX : (submitted calls i)[x]? = some a) (atY : (submitted calls i)[y]? = some b) (left : a.work.Farewell)
    (right : b.work.Farewell) (same : a.work.id = b.work.id) : x = y := by
  have place (z : Nat) (c : Attempt) (atZ : (submitted calls i)[z]? = some c) (farewell : c.work.Farewell) :
      early.length ≤ z ∧ f.ids[z - early.length]? = some c.work.id := by
    rw [ending.whole] at atZ
    by_cases within : z < early.length
    · rw [List.getElem?_append_left within] at atZ
      exact absurd farewell (ending.live c (List.mem_of_getElem? atZ))
    · rw [List.getElem?_append_right (Nat.le_of_not_lt within)] at atZ
      rw [← ending.told_ids, List.getElem?_map, atZ]
      exact ⟨Nat.le_of_not_lt within, rfl⟩
  obtain ⟨pastX, idX⟩ := place x a atX left
  obtain ⟨pastY, idY⟩ := place y b atY right
  have within := (List.getElem?_eq_some_iff.mp idX).1
  have position := (List.getElem?_inj within ending.distinct).mp (idX.trans ((congrArg some same).trans idY.symm))
  omega

theorem farewell_unique (lawful : Lawful {} calls) (x y : Nat) (a b : Attempt)
    (atX : (run {} calls).ledger.attempts[x]? = some a) (atY : (run {} calls).ledger.attempts[y]? = some b)
    (left : a.work.Farewell) (right : b.work.Farewell) (same : a.work.handle = b.work.handle) : x = y := by
  rw [← before_all] at atX atY
  obtain ⟨i, _, madeX⟩ := made_by_some_call lawful calls.length x a atX
  obtain ⟨j, _, madeY⟩ := made_by_some_call lawful calls.length y b atY
  have service : b.service = a.service := by
    obtain ⟨_, _, _, _, _, _, _, _, _, home⟩ := visit_of_made lawful i x a madeX
    obtain ⟨_, _, _, _, _, _, _, _, _, home'⟩ := visit_of_made lawful j y b madeY
    exact home'.symm.trans ((congrArg Handle.home same.symm).trans home)
  have inX := submitted_of_made i x a madeX
  have inY := submitted_of_made j y b madeY
  have up := up_of_submitted lawful i a (List.mem_of_getElem? inX)
  have up' := up_of_submitted lawful j b (List.mem_of_getElem? inY)
  have down := farewell_downs lawful i a (List.mem_of_getElem? inX) left
  have down' := farewell_downs lawful j b (List.mem_of_getElem? inY) right
  rw [service] at up' down'
  -- A service goes down once, so both come from the same call.
  have call : i = j := by
    rcases Nat.lt_trichotomy i j with less | equal | more
    · exact absurd (down_later lawful a.service (i + 1) j less down) up'.not_down
    · exact equal
    · exact absurd (down_later lawful a.service (j + 1) i more down') up.not_down
  subst call
  obtain ⟨f, cause, early, late, ending⟩ := ending_of_down lawful i a.service up down
  have ids : a.work.id = b.work.id := by rw [← Work.handle_id, ← Work.handle_id, same]
  have position := ending.once _ _ a b inX inY left right ids
  have pastX := madeX.1
  have pastY := madeY.1
  omega

-- Each service that goes down tells all who are registered, and only then is anybody told. No
-- registration is told twice, be it started as often as it will.
theorem shutdown_reaches_all (calls : List Call) (lawful : Lawful {} calls) :
    (∀ i s, (before calls i).Up s → (before calls (i + 1)).Down s →
        ∃ f cause early late, Ending calls i s f cause early late) ∧
      (∀ i, ∀ a ∈ submitted calls i, a.work.Farewell →
        (before calls i).Up a.service ∧ (before calls (i + 1)).Down a.service) ∧
      (∀ (x y : Nat) a b, (run {} calls).ledger.attempts[x]? = some a →
        (run {} calls).ledger.attempts[y]? = some b → a.work.Farewell → b.work.Farewell →
        a.work.handle = b.work.handle → x = y) ∧
      ∀ i j s call, (before calls i).Down s → i ≤ j → calls[j]? = some call → call.service? = some s →
        submitted calls j = [] ∧ (before calls (j + 1)).Down s := by
  refine ⟨fun i s => ending_of_down lawful i s, ?_, farewell_unique lawful, ?_⟩
  · intro i a member farewell
    exact ⟨up_of_submitted lawful i a member, farewell_downs lawful i a member farewell⟩
  · intro i j s call down within here reached
    have still := down_later lawful s i j within down
    exact ⟨silent_down lawful j s call here reached still, down_later lawful s j (j + 1) (Nat.le_succ j) still⟩

-- The second of two contenders has been away and is back when the service is shut down, and the executor
-- takes nothing any more. Asked again, for another reason, the service is silent.
def curtain : List Call :=
  let left : Contender := ⟨1, 0, "left", 1⟩
  let right : Contender := ⟨2, 0, "right", 2⟩
  [.launch {}, .createContender 0 "left", .createContender 0 "right", .createListener 0,
    .start (.contender left) 0, .start (.contender right) 1, .start (.listener ⟨3, 0, (), 3⟩) 2,
    .remove 0 (.contender right), .start (.contender right) 1,
    .replan 0 ⟨[], .reject (.executorRejected "executor is closed")⟩, .shutDown 0 .serviceShutdown,
    .shutDown 0 (.config "too late")]

theorem curtain_farewells :
    Lawful {} curtain ∧ (∃ f cause early late, Ending curtain 10 0 f cause early late) ∧
      (submitted curtain 10).map Attempt.work = [.retire ⟨⟨1, 0, "left", 1⟩, 0⟩ true .serviceShutdown,
        .retire ⟨⟨2, 0, "right", 2⟩, 1⟩ false .serviceShutdown, .dismiss ⟨⟨3, 0, (), 3⟩, 2⟩ .serviceShutdown] ∧
      submitted curtain 11 = [] := by
  have lawful : Lawful {} curtain := by decide
  obtain ⟨reaches, _, _, silent⟩ := shutdown_reaches_all curtain lawful
  have up : (before curtain 10).Up 0 := ⟨_, rfl, rfl⟩
  have down : (before curtain 11).Down 0 := ⟨_, rfl, rfl⟩
  exact ⟨lawful, reaches 10 0 up down, by decide, (silent 11 11 0 _ down (Nat.le_refl 11) rfl rfl).1⟩

end System
end Leadership
