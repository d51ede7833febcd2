import Leadership.Proofs.History

set_option autoImplicit false

namespace Leadership

def Attempt.Accepted (a : Attempt) : Prop := ∀ why, a.verdict ≠ .reject why

instance (a : Attempt) : Decidable a.Accepted :=
  decidable_of_iff (a.verdict = .accept ∨ a.verdict = .discard) (by
    cases same : a.verdict <;> simp [Attempt.Accepted, same])

namespace Desk
variable {enrolled : List Handle} {d e f : Desk}

theorem reply_ok (d : Desk) (c : Completion) (answered : d.reply = .ok c) (why : Fault) :
    d.plan.next.1 ≠ .reject why := by
  intro rejected
  rw [reply, rejected] at answered
  cases answered

theorem Alike.symm (alike : Alike d e) : Alike e d :=
  ⟨alike.contenders.symm, alike.listeners.symm, alike.slot.symm, alike.published.symm, alike.down.symm,
    alike.active.symm, alike.leading.symm, alike.minted.symm, alike.number.symm⟩

def Sent (works : List Work) (d e : Desk) : Prop :=
  ∃ fresh, e.attempts = d.attempts ++ fresh ∧ fresh.map Attempt.work = works ∧ ∀ a ∈ fresh, a.Accepted

def Broken (why : Fault) (d e : Desk) : Prop :=
  ∃ fresh last, e.attempts = d.attempts ++ (fresh ++ [last]) ∧ (∀ a ∈ fresh, a.Accepted) ∧
    last.verdict = .reject why ∧ ¬ last.work.Farewell ∧ last.moment.slot = e.slot ∧
    last.moment.contenders = e.contenders ∧ last.moment.listeners = e.listeners

theorem Sent.nothing (same : e.attempts = d.attempts) : Sent [] d e :=
  ⟨[], by rw [same, List.append_nil], rfl, by simp⟩

theorem Sent.trans {works works' : List Work} (first : Sent works d e) (second : Sent works' e f) :
    Sent (works ++ works') d f := by
  obtain ⟨early, grown, told, accepted⟩ := first
  obtain ⟨late, grown', told', accepted'⟩ := second
  refine ⟨early ++ late, by rw [grown', grown, List.append_assoc], by rw [List.map_append, told, told'], ?_⟩
  intro a member
  rcases List.mem_append.mp member with old | new
  · exact accepted a old
  · exact accepted' a new

theorem Sent.broken {works : List Work} {why : Fault} (first : Sent works d e) (second : Broken why e f) :
    Broken why d f := by
  obtain ⟨early, grown, _, accepted⟩ := first
  obtain ⟨late, last, grown', accepted', proper⟩ := second
  refine ⟨early ++ late, last, by rw [grown', grown, List.append_assoc, List.append_assoc], ?_, proper⟩
  intro a member
  rcases List.mem_append.mp member with old | new
  · exact accepted a old
  · exact accepted' a new

inductive Batch (works : List Work) (d : Desk) : Except Fault Completion × Desk → Prop
  | sent (c : Completion) (e : Desk) (alike : Alike d e) (sent : Sent works d e) : Batch works d (.ok c, e)
  | broken (why : Fault) (e : Desk) (alike : Alike d e) (broken : Broken why d e) :
      Batch works d (.error why, e)

theorem nothing_batch (d : Desk) : Batch [] d (.ok .done, d) :=
  .sent .done d (Alike.refl d) (Sent.nothing rfl)

theorem submit_batch (d : Desk) (w : Work) (live : ¬ w.Farewell) : Batch [w] d (d.submit w) := by
  rw [submit_eq]
  cases answered : d.reply with
  | ok c =>
    refine .sent c _ (handed_alike d w) ⟨_, rfl, rfl, ?_⟩
    intro a member
    rw [List.mem_singleton.mp member]
    exact reply_ok d c answered
  | error why =>
    refine .broken why _ (handed_alike d w) ⟨[], _, rfl, by simp, ?_⟩
    exact ⟨reply_error d why answered, live, rfl, rfl, rfl⟩

theorem announce_batch (leader : Option (Leader Fence)) (ms : List (Member Unit)) (d : Desk) :
    Batch (ms.map fun m => .notify m leader) d (announce leader ms d) := by
  induction ms generalizing d with
  | nil => exact nothing_batch d
  | cons m ms ih =>
    have first := submit_batch d (.notify m leader) id
    cases submitted : d.submit (.notify m leader) with
    | mk result f =>
      rw [submitted] at first
      simp only [announce, submitted]
      cases first with
      | broken why _ alike broken => exact .broken why f alike broken
      | sent one _ alike sent =>
        have rest := ih f
        cases announced : announce leader ms f with
        | mk result g =>
          rw [announced] at rest
          simp only [announced]
          cases rest with
          | broken why _ alike' broken => exact .broken why g (alike.trans alike') (sent.broken broken)
          | sent c _ alike' sent' => exact .sent (one.merge c) g (alike.trans alike') (sent.trans sent')

theorem announceAll_batch (leader : Option (Leader Fence)) (d : Desk) :
    Batch (d.listeners.members.map fun m => .notify m leader) d (d.announceAll leader) :=
  announce_batch leader d.listeners.members d

def put (d : Desk) (m : Member String) : Desk :=
  let token := Fence.minted (d.minted + 1)
  let d := { d with minted := d.minted + 1 }.setToken (some token)
  ({ d with slot := { d.slot with proposed := some m.id } }.setLeading m.id true).note
    (.proposing m.registration.label token)

theorem propose_eq (d : Desk) (m : Member String) :
    d.propose m = (d.put m).submit (.grant m (.minted (d.minted + 1))) :=
  rfl

inductive Elects (d : Desk) : List Work → Desk → Prop
  | held (occupied : d.slot.confirmed.isSome ∨ d.slot.proposed.isSome) : Elects d [] d
  | nobody (unconfirmed : d.slot.confirmed = none) (unproposed : d.slot.proposed = none)
      (deserted : d.contenders.oldest? = none) : Elects d (d.listeners.members.map fun m => .notify m none) d
  | nominee (m : Member String) (unconfirmed : d.slot.confirmed = none)
      (unproposed : d.slot.proposed = none) (oldest : d.contenders.oldest? = some m) :
      Elects d [.grant m (.minted (d.minted + 1))] (d.put m)

theorem elect_batch (d : Desk) : ∃ works f, Elects d works f ∧ Batch works f d.elect := by
  by_cases held : d.slot.confirmed.isSome ∨ d.slot.proposed.isSome
  · rw [elect, if_pos held]
    exact ⟨[], d, .held held, nothing_batch d⟩
  · rw [elect, if_neg held]
    simp only [not_or, Option.not_isSome_iff_eq_none] at held
    obtain ⟨unconfirmed, unproposed⟩ := held
    cases oldest : d.contenders.oldest? with
    | none => exact ⟨_, d, .nobody unconfirmed unproposed oldest, announceAll_batch none d⟩
    | some m =>
      refine ⟨_, d.put m, .nominee m unconfirmed unproposed oldest, ?_⟩
      simp only [propose_eq]
      exact submit_batch (d.put m) _ id

theorem Elects.attempts {works : List Work} (elects : Elects d works f) : f.attempts = d.attempts := by
  cases elects <;> rfl

theorem Elects.listeners {works : List Work} (elects : Elects d works f) : f.listeners = d.listeners := by
  cases elects <;> rfl

theorem Elects.down {works : List Work} (elects : Elects d works f) : f.down = d.down := by
  cases elects <;> rfl

theorem Elects.sound {works : List Work} (elects : Elects d works f) (sound : d.Sound enrolled)
    (up : d.down = false) : f.Sound enrolled := by
  cases elects with
  | held | nobody => exact sound
  | nominee m unconfirmed unproposed oldest =>
    have proposed := sound_propose sound m up unconfirmed unproposed oldest
    rw [propose_eq, submit_eq] at proposed
    exact proposed.alike (handed_alike _ _).symm

end Desk
end Leadership
