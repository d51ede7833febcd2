import Leadership.Election.Summary
import Leadership.Proofs.Run

set_option autoImplicit false

namespace Leadership

structure Service.Regular (v : Service) : Prop where
  exclusive : v.slot.proposed = none ∨ v.slot.confirmed = none
  token : v.slot.token.isSome ↔ v.slot.proposed.isSome ∨ v.slot.confirmed.isSome
  address : v.slot.address.isSome ↔ v.slot.confirmed.isSome
  since : v.slot.since.isSome ↔ v.slot.confirmed.isSome
  seated : ∀ id, v.slot.proposed = some id ∨ v.slot.confirmed = some id →
    ∃ m, v.contenders.get? id = some m ∧ m.id = id
  proposal : v.summary.proposed.isSome ↔ v.slot.proposed.isSome
  confirmation : v.summary.confirmed.isSome ↔ v.slot.confirmed.isSome
  leader : v.slot.leader?.isSome ↔ v.slot.confirmed.isSome
  published : v.published = v.slot.token
  closed : v.down = true →
    v.slot = {} ∧ v.published = none ∧ v.contenders.members = [] ∧ v.listeners.members = []

theorem Service.label_isSome (v : Service) (part : Option Nat)
    (seated : ∀ id, part = some id → ∃ m, v.contenders.get? id = some m) :
    (v.label? part).isSome ↔ part.isSome := by
  cases part with
  | none => exact Iff.rfl
  | some id =>
    obtain ⟨m, found⟩ := seated id rfl
    simp [label?, found]

namespace Desk
variable {enrolled : List Handle} {d : Desk}

theorem Sound.regular (sound : d.Sound enrolled) : d.toService.Regular := by
  refine ⟨sound.slot.exclusive, sound.slot.token, sound.slot.address, sound.slot.since, ?_,
    ?_, ?_, sound.slot.leader_isSome, sound.published, ?_⟩
  · intro id holds
    obtain ⟨m, found, _, same⟩ := sound.seat id holds
    exact ⟨m, found, same⟩
  · apply Service.label_isSome
    intro id proposed
    obtain ⟨m, found, _⟩ := sound.seat id (.inl proposed)
    exact ⟨m, found⟩
  · apply Service.label_isSome
    intro id confirmed
    obtain ⟨m, found, _⟩ := sound.seat id (.inr confirmed)
    exact ⟨m, found⟩
  · intro down
    obtain ⟨slot, contenders, listeners⟩ := sound.down down
    refine ⟨slot, ?_, ?_, ?_⟩
    · rw [sound.published, slot]
    · rw [contenders]
    · rw [listeners]

end Desk

namespace System

-- No call and no rejection ever leaves a service in between.
theorem run_regular (calls : List Call) (lawful : Lawful {} calls) (s : Nat) (v : Service)
    (found : (run {} calls).services[s]? = some v) : v.Regular :=
  ((sound_run lawful).desks s v found).regular

-- The second listener is not told of the leader any more, as the executor rejects that.
def cutShort : List Call :=
  let only : Contender := ⟨1, 0, "only", 1⟩
  [.launch ⟨[.accept, .accept, .reject (.executorRejected "executor is closed")], .accept⟩,
    .createContender 0 "only", .createListener 0, .createListener 0, .start (.listener ⟨2, 0, (), 2⟩) 0,
    .start (.listener ⟨3, 0, (), 3⟩) 1, .start (.contender only) 2,
    .confirm only (.minted 1) "west" ⟨⟨2024, 5, 1⟩, 43200, 0⟩]

theorem cutShort_regular :
    Lawful {} cutShort ∧ ∃ v, (run {} cutShort).services[0]? = some v ∧ v.down = true ∧ v.Regular := by
  have lawful : Lawful {} cutShort := by decide
  exact ⟨lawful, _, rfl, rfl, run_regular cutShort lawful 0 _ rfl⟩

end System
end Leadership
