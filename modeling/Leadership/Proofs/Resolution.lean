import Leadership.Proofs.Containment
import Leadership.Proofs.Receipt

set_option autoImplicit false

namespace Leadership

namespace Completion
variable {fate fate' : Nat → Option Fate} {a b c : Completion}

theorem size_merge (a b : Completion) : (a.merge b).size = a.size + b.size := List.length_append

theorem merge_done (c : Completion) : c.merge .done = c := by
  rw [merge, done, List.append_nil]

theorem done_merge (c : Completion) : Completion.done.merge c = c := rfl

theorem status_pending_iff (fate : Nat → Option Fate) (c : Completion) :
    c.status fate = .pending ↔ ∃ n ∈ c.units, fate n = none := by
  have unsettled : (c.units.any fun n => (fate n).isNone) = true ↔ ∃ n ∈ c.units, fate n = none := by
    simp only [List.any_eq_true, Option.isNone_iff_eq_none]
  rw [← unsettled, status]
  split
  · next some_unsettled => exact iff_of_true rfl some_unsettled
  · next settled =>
    refine iff_of_false ?_ settled
    split <;> exact nofun

theorem status_dropped_iff (fate : Nat → Option Fate) (c : Completion) :
    c.status fate = .dropped ↔ (∀ n ∈ c.units, fate n ≠ none) ∧ ∃ n ∈ c.units, fate n = some .dropped := by
  have pending := c.status_pending_iff fate
  have some_dropped :
      (c.units.any fun n => fate n == some .dropped) = true ↔ ∃ n ∈ c.units, fate n = some .dropped := by
    simp only [List.any_eq_true, beq_iff_eq]
  by_cases waits : ∃ n ∈ c.units, fate n = none
  · rw [pending.mpr waits]
    obtain ⟨n, unit, none⟩ := waits
    exact iff_of_false nofun fun ⟨settled, _⟩ => settled n unit none
  · have settled : ∀ n ∈ c.units, fate n ≠ none := fun n unit none => waits ⟨n, unit, none⟩
    rw [and_iff_right settled, ← some_dropped]
    have passed := mt pending.mp waits
    unfold status at passed ⊢
    split at passed
    · exact absurd rfl passed
    · next all_settled =>
      rw [if_neg all_settled]
      split
      · next found => exact iff_of_true rfl found
      · next missing => exact iff_of_false nofun missing

theorem status_ok_iff (fate : Nat → Option Fate) (c : Completion) :
    c.status fate = .ok ↔ ∀ n ∈ c.units, fate n = some .finished := by
  have pending := c.status_pending_iff fate
  have dropped := c.status_dropped_iff fate
  constructor
  · intro ok n unit
    rw [ok] at pending dropped
    cases fated : fate n with
    | none => cases pending.mpr ⟨n, unit, fated⟩
    | some f =>
      cases f with
      | finished => rfl
      | dropped =>
        have settled : ∀ m ∈ c.units, fate m ≠ none := by
          intro m member none
          cases pending.mpr ⟨m, member, none⟩
        cases dropped.mpr ⟨settled, n, unit, fated⟩
  · intro finished
    cases resolved : c.status fate with
    | ok => rfl
    | pending =>
      obtain ⟨n, unit, none⟩ := pending.mp resolved
      cases none.symm.trans (finished n unit)
    | dropped =>
      obtain ⟨_, n, unit, lost⟩ := dropped.mp resolved
      cases lost.symm.trans (finished n unit)

theorem status_congr (pending : c.status fate = .pending ↔ b.status fate' = .pending)
    (ok : c.status fate = .ok ↔ b.status fate' = .ok) : c.status fate = b.status fate' := by
  cases left : c.status fate <;> cases right : b.status fate' <;> simp_all

theorem status_of_same_units (same : ∀ n, n ∈ a.units ↔ n ∈ b.units) : a.status fate = b.status fate := by
  refine status_congr ?_ ?_
  · rw [status_pending_iff, status_pending_iff]
    exact exists_congr fun n => and_congr_left' (same n)
  · rw [status_ok_iff, status_ok_iff]
    exact forall_congr' fun n => imp_congr_left (same n)

theorem status_final (final : ∀ n f, fate n = some f → fate' n = some f) (resolved : c.status fate ≠ .pending) :
    c.status fate' = c.status fate := by
  have settled (n : Nat) (unit : n ∈ c.units) : fate' n = fate n := by
    cases fated : fate n with
    | none => exact absurd ((c.status_pending_iff fate).mpr ⟨n, unit, fated⟩) resolved
    | some f => exact final n f fated
  refine status_congr ?_ ?_
  · rw [status_pending_iff, status_pending_iff]
    exact exists_congr fun n => and_congr_right fun unit => by rw [settled n unit]
  · rw [status_ok_iff, status_ok_iff]
    exact forall_congr' fun n => forall_congr' fun unit => by rw [settled n unit]

end Completion

namespace Scenario
variable {v w : Scene} {ts : List Turn}

inductive Proceeds : Scene → Scene → Prop
  | launch (w : Scene) (host : Host) (plan : Plan) : Proceeds w (w.addService host plan)
  | perform (w : Scene) (s : Step) : Proceeds w (w.perform s).2
  | turn (w : Scene) (job : Job Routine) (floor : Floor Routine) (taken : w.floor.take? = some (job, floor)) :
      Proceeds w (w.turn job floor).finish
  | arrange (w : Scene) (floor : Floor Routine) (same : floor.holds = w.floor.holds) :
      Proceeds w { w with floor := floor }
  | lose (w : Scene) (r : Routine) (floor : Floor Routine) (taken : w.floor.holds = r ::ₘ floor.holds) :
      Proceeds w (Scene.settle { w with floor := floor } r.unit .dropped)
  | report (w : Scene) : Proceeds w { w with events := [], notes := [] }

namespace Scene

def Final (v w : Scene) : Prop := ∀ n f, v.fate n = some f → w.fate n = some f

theorem Final.of_fates (same : w.fates = v.fates) : Final v w := by
  intro n f fated
  rw [fate, same]
  exact fated

theorem Final.trans {u v w : Scene} (first : Final u v) (second : Final v w) : Final u w :=
  fun n f fated => second n f (first n f fated)

theorem final_settle (w : Scene) (m : Nat) (g : Completion.Fate) : Final w (w.settle m g) := by
  intro n f fated
  cases unsettled : w.fate m with
  | none =>
    rw [fate_settle w m g unsettled]
    by_cases same : n = m
    · subst same
      cases fated.symm.trans unsettled
    · rw [Function.update_of_ne same]
      exact fated
  | some h =>
    have kept : w.settle m g = w := by
      rw [settle, unsettled]
      rfl
    rw [kept]
    exact fated

theorem final_dispatch (w : Scene) (a : Attempt × Nat) : Final w (w.dispatch a) := by
  obtain ⟨a, unit⟩ := a
  simp only [dispatch]
  split
  · exact .of_fates rfl
  · exact final_settle w unit .dropped
  · split <;> exact .of_fates rfl

theorem final_dispatchAll (as : List (Attempt × Nat)) (w : Scene) : Final w (as.foldl dispatch w) := by
  induction as generalizing w with
  | nil => exact .of_fates rfl
  | cons a as ih => exact (final_dispatch w a).trans (ih (w.dispatch a))

theorem final_call (w : Scene) (c : Call) : Final w (w.call c).2 := by
  have start : Final w { w with
      system := (w.system.apply c).2
      notes := w.notes ++ (w.system.apply c).2.ledger.notes
      calls := w.calls ++ [(c, (w.system.apply c).1)] } := .of_fates rfl
  exact start.trans (final_dispatchAll _ _)

theorem final_settleAll (rs : List Routine) (w : Scene) :
    Final w (rs.foldl (fun w r => w.settle r.unit .dropped) w) := by
  induction rs generalizing w with
  | nil => exact .of_fates rfl
  | cons r rs ih => exact (final_settle w r.unit .dropped).trans (ih _)

theorem final_change (change : Change v w) : Final v w := by
  cases change with
  | aside _ aside => exact .of_fates aside.fates
  | party => exact .of_fates rfl
  | call c => exact final_call v c
  | lose rs floor taken =>
    have moved : Final v { v with floor := floor } := .of_fates rfl
    exact moved.trans (final_settleAll rs _)

theorem final_changes (changes : Changes v w) : Final v w := by
  induction changes with
  | refl => exact .of_fates rfl
  | tail _ change ih => exact ih.trans (final_change change)

theorem final_turn {t : Turn} {name : String} (outcome : t.Outcome name) : Final t.start t.finish := by
  have ended {u : Scene} {pause : Pause Routine} (f : Completion.Fate) (changes : Changes t.start u)
      (ran : t.ran = (pause, u.settle t.routine.unit f)) : Final t.start t.finish := by
    have finish : Final (u.settle t.routine.unit f) t.finish := by
      refine .of_fates ?_
      rw [Turn.finish, ran]
    exact ((final_changes changes).trans (final_settle u _ f)).trans finish
  cases outcome with
  | finished u _ ran talk => exact ended .finished talk.changes ran
  | burst u _ ran talk => exact ended .dropped talk.changes ran
  | paused u _ _ _ ran _ _ _ _ talk =>
    have finish : Final u t.finish := by
      refine .of_fates ?_
      rw [Turn.finish, ran]
    exact (final_changes talk.changes).trans finish

theorem proceeds_staged (staged : Staged v ts) (proceeds : Proceeds v w) : Final v w ∧ ∃ us, Staged w us := by
  cases proceeds with
  | launch host plan =>
    have called : Final v (v.addService host plan) := final_call v (.launch plan)
    exact ⟨called, _, .launch v ts staged host plan⟩
  | perform s =>
    have changes := (quiet_perform v (recorded_staged staged) s).changes
    exact ⟨final_changes changes, _, .perform v ts staged s⟩
  | turn job floor taken =>
    obtain ⟨name, _, outcome⟩ := outcome_of_orderly (orderly_start (orderly_staged staged) taken)
      ((recorded_staged staged).beside ⟨rfl, rfl, rfl⟩)
    have begun : Final v (v.turn job floor).start := .of_fates rfl
    exact ⟨begun.trans (final_turn outcome), _, .turn v ts staged job floor taken⟩
  | arrange floor same => exact ⟨.of_fates rfl, _, .arrange v ts staged floor same⟩
  | lose r floor taken =>
    have moved : Final v { v with floor := floor } := .of_fates rfl
    exact ⟨moved.trans (final_settle _ r.unit .dropped), _, .lose v ts staged r floor taken⟩
  | report => exact ⟨.of_fates rfl, _, .report v ts staged⟩

theorem final_later (staged : Staged v ts) (later : Relation.ReflTransGen Proceeds v w) :
    Final v w ∧ ∃ us, Staged w us := by
  induction later with
  | refl => exact ⟨.of_fates rfl, ts, staged⟩
  | tail _ proceeds ih =>
    obtain ⟨final, us, reached⟩ := ih
    obtain ⟨next, onward⟩ := proceeds_staged reached proceeds
    exact ⟨final.trans next, onward⟩

def Waits (w : Scene) (n : Nat) : Prop := ∃ r ∈ w.floor.holds, r.unit = n

end Scene

-- A unit has come to its end in some turn, and not by a panic that nobody watched for.
def Finishes (ts : List Turn) (n : Nat) : Prop := ∃ t ∈ turnsOf n ts, t.Ends ∧ Action.bursts t.cue = false

namespace Standing
variable {names : List String} {a : Attempt} {own : List Turn} {s : Multiset Routine} {f : Option Completion.Fate}

theorem unsettled_iff (standing : Standing names (some a) own s f) (accepted : a.Accepted) : f = none ↔ s ≠ 0 := by
  cases standing with
  | rejected _ why verdict => exact absurd verdict (accepted why)
  | waiting _ _ _ r => exact iff_of_true rfl (Multiset.singleton_ne_zero r)
  | discarded | lost | finished | burst => exact iff_of_false nofun fun held => held rfl

theorem finished_iff (standing : Standing names (some a) own s f) :
    f = some .finished ↔ ∃ t ∈ own, t.Ends ∧ Action.bursts t.cue = false := by
  cases standing with
  | rejected | discarded =>
    refine iff_of_false nofun ?_
    rintro ⟨t, member, _⟩
    cases member
  | waiting _ _ _ _ _ _ progress | lost _ _ _ _ _ progress =>
    refine iff_of_false nofun ?_
    rintro ⟨t, member, ends, _⟩
    exact progress.unfinished ⟨t, member, ends⟩
  | finished _ _ own t _ _ ends watched => exact iff_of_true rfl ⟨t, by simp, ends, watched⟩
  | burst _ _ own t _ progress _ bursts =>
    refine iff_of_false nofun ?_
    rintro ⟨u, member, ends, watched⟩
    rcases List.mem_append.mp member with early | last
    · exact progress.unfinished ⟨u, early, ends⟩
    · rw [List.mem_singleton.mp last, bursts] at watched
      cases watched

end Standing

namespace Scene

/-- The completions that can be made in a scene by merging what its calls have answered, in any order and
shape, each with the answers that have gone into it. -/
inductive Built (w : Scene) : Completion → List Completion → Prop
  | done : Built w .done []
  | answered (call : Call) (c : Completion) (made : (call, .completion c) ∈ w.calls) : Built w c [c]
  | merged (a b : Completion) (as bs : List Completion) (left : Built w a as) (right : Built w b bs) :
      Built w (a.merge b) (as ++ bs)

variable {c : Completion} {parts : List Completion}

theorem Built.units (built : Built w c parts) (n : Nat) : n ∈ c.units ↔ ∃ p ∈ parts, n ∈ p.units := by
  induction built with
  | done => simp [Completion.done]
  | answered call c made => simp
  | merged a b as bs left right ihLeft ihRight =>
    rw [Completion.merge, List.mem_append, ihLeft, ihRight]
    simp only [List.mem_append, or_and_right, exists_or]

theorem Built.size (built : Built w c parts) : c.size = total Completion.size parts := by
  induction built with
  | done => rfl
  | answered call c made => rfl
  | merged a b as bs left right ihLeft ihRight =>
    rw [Completion.size_merge, total_append, ihLeft, ihRight]

theorem Built.accepted (built : Built w c parts) (recorded : w.Recorded) (n : Nat) (unit : n ∈ c.units) :
    ∃ a, w.system.ledger.attempts[n]? = some a ∧ a.Accepted := by
  induction built with
  | done => cases unit
  | merged a b as bs left right ihLeft ihRight =>
    rcases List.mem_append.mp unit with first | second
    · exact ihLeft first
    · exact ihRight second
  | answered call c made =>
    obtain ⟨i, placed⟩ := List.mem_iff_getElem?.mp made
    have here : w.history[i]? = some call := by
      rw [history, List.getElem?_map, placed]
      rfl
    have within : i < w.history.length := (List.getElem?_eq_some_iff.mp here).1
    have answered := (recorded.answers i call _ placed).symm
    obtain ⟨a, made, accepted⟩ := System.answered_units recorded.lawful i call here c answered n unit
    have present := System.made_later recorded.lawful i w.history.length n a made within
    rw [System.before_all, ← recorded.system] at present
    exact ⟨a, present, accepted⟩

section Staged
variable (staged : Staged w ts) (built : Built w c parts)
include staged built

theorem Built.standing (n : Nat) (unit : n ∈ c.units) :
    ∃ a, Standing (w.parties.map Party.name) (some a) (turnsOf n ts) (file n w.floor.holds) (w.fate n) ∧
      a.Accepted := by
  obtain ⟨a, present, accepted⟩ := built.accepted (recorded_staged staged) n unit
  have standing := (orderly_staged staged).books n
  rw [present, zero_add] at standing
  exact ⟨a, standing, accepted⟩

theorem Built.waits_iff (n : Nat) (unit : n ∈ c.units) : w.fate n = none ↔ w.Waits n := by
  obtain ⟨a, standing, accepted⟩ := built.standing staged n unit
  rw [standing.unsettled_iff accepted, Waits]
  simp only [ne_eq, file, Multiset.filter_eq_nil, not_forall, not_not, exists_prop]

theorem Built.finishes_iff (n : Nat) (unit : n ∈ c.units) : w.fate n = some .finished ↔ Finishes ts n := by
  obtain ⟨a, standing, _⟩ := built.standing staged n unit
  exact standing.finished_iff

theorem Built.dropped_iff (n : Nat) (unit : n ∈ c.units) :
    w.fate n = some .dropped ↔ ¬ w.Waits n ∧ ¬ Finishes ts n := by
  rw [← built.waits_iff staged n unit, ← built.finishes_iff staged n unit]
  cases fated : w.fate n with
  | none => simp
  | some f => cases f <;> simp

end Staged

-- All that there is to know of a completion is which units went into it: whether one of them is still to be
-- run, and if not, whether all have come to their end. What it is then, it is for ever.
theorem completions_resolve (w : Scene) (ts : List Turn) (staged : Staged w ts) (c : Completion)
    (parts : List Completion) (built : Built w c parts) :
    (c.status w.fate = .pending ↔ ∃ p ∈ parts, ∃ n ∈ p.units, w.Waits n) ∧
    (c.status w.fate = .ok ↔ ∀ p ∈ parts, ∀ n ∈ p.units, Finishes ts n) ∧
    (c.status w.fate = .dropped ↔ (∀ p ∈ parts, ∀ n ∈ p.units, ¬ w.Waits n) ∧
      ∃ p ∈ parts, ∃ n ∈ p.units, ¬ w.Waits n ∧ ¬ Finishes ts n) ∧
    (∀ c' parts', Built w c' parts' → (∀ n, (∃ p ∈ parts', n ∈ p.units) ↔ ∃ p ∈ parts, n ∈ p.units) →
      c'.status w.fate = c.status w.fate) ∧
    c.size = total Completion.size parts ∧ c.merge .done = c ∧ Completion.done.merge c = c ∧
    ∀ v, Relation.ReflTransGen Proceeds w v → c.status w.fate ≠ .pending → c.status v.fate = c.status w.fate := by
  have unit (p : Completion) (part : p ∈ parts) (n : Nat) (member : n ∈ p.units) : n ∈ c.units :=
    (built.units n).mpr ⟨p, part, member⟩
  have each (P : Nat → Prop) : (∀ n ∈ c.units, P n) ↔ ∀ p ∈ parts, ∀ n ∈ p.units, P n := by
    constructor
    · exact fun all p part n member => all n (unit p part n member)
    · intro all n member
      obtain ⟨p, part, member⟩ := (built.units n).mp member
      exact all p part n member
  have some_ (P : Nat → Prop) : (∃ n ∈ c.units, P n) ↔ ∃ p ∈ parts, ∃ n ∈ p.units, P n := by
    constructor
    · rintro ⟨n, member, holds⟩
      obtain ⟨p, part, member⟩ := (built.units n).mp member
      exact ⟨p, part, n, member, holds⟩
    · rintro ⟨p, part, n, member, holds⟩
      exact ⟨n, unit p part n member, holds⟩
  refine ⟨?_, ?_, ?_, ?_, built.size, c.merge_done, c.done_merge, ?_⟩
  · rw [Completion.status_pending_iff, ← some_]
    exact exists_congr fun n => and_congr_right fun member => built.waits_iff staged n member
  · rw [Completion.status_ok_iff, ← each]
    exact forall_congr' fun n => forall_congr' fun member => built.finishes_iff staged n member
  · rw [Completion.status_dropped_iff, ← each, ← some_]
    refine and_congr ?_ ?_
    · exact forall_congr' fun n => forall_congr' fun member => not_congr (built.waits_iff staged n member)
    · exact exists_congr fun n => and_congr_right fun member => built.dropped_iff staged n member
  · intro c' parts' built' same
    refine Completion.status_of_same_units fun n => ?_
    rw [built'.units, built.units, same]
  · intro v later resolved
    exact Completion.status_final (final_later staged later).1 resolved

-- Two services whose units are taken by hand. Both revoke their leader by force, and the first loses all that
-- it has submitted.
def crossing : Scene :=
  (performAll [.register 0 "left" "a" {}, .register 1 "right" "b" {}, .listen 0 "l" {}, .revoke 0 (some "x"),
    .revoke 1 (some "y"), .drop 0 3 0] (addService (addService {} ⟨.manual, true⟩ {}) ⟨.manual, true⟩ {})).2

def crossed : Scene × List Turn := paced (paced ((crossing.perform (.run 1 2 0)).2, []))

theorem crossing_staged : Staged crossing [] ∧ Staged crossed.1 crossed.2 := by
  have started : Staged crossing [] :=
    staged_performAll (.launch _ [] (.launch {} [] (.empty _) ⟨.manual, true⟩ {}) ⟨.manual, true⟩ {}) _
  exact ⟨started, staged_paced _ (staged_paced (_, []) (.perform crossing [] started (.run 1 2 0)))⟩

theorem crossing_resolves :
    (∃ p ∈ [Completion.mk [2, 3], Completion.mk [4]], ∃ n ∈ p.units, crossing.Waits n) ∧
      (Completion.mk [2, 3, 4]).size = 3 ∧
      (Completion.mk [2, 3, 4]).status crossed.1.fate = .dropped ∧ Finishes crossed.2 4 ∧
      ∀ v, Relation.ReflTransGen Proceeds crossed.1 v → (Completion.mk [2, 3, 4]).status v.fate = .dropped := by
  obtain ⟨early, late⟩ := crossing_staged
  have built (w : Scene) (first : (.revoke 0, .completion ⟨[2, 3]⟩) ∈ w.calls)
      (second : (.revoke 1, .completion ⟨[4]⟩) ∈ w.calls) :
      Built w ⟨[2, 3, 4]⟩ [⟨[2, 3]⟩, ⟨[4]⟩] :=
    .merged _ _ [_] [_] (.merged _ _ [_] [] (.answered _ _ first) .done) (.answered _ _ second)
  have before := built crossing (by decide) (by decide)
  have after := built crossed.1 (by decide) (by decide)
  obtain ⟨pending, _, _, _, size, _⟩ := completions_resolve crossing [] early _ _ before
  obtain ⟨_, _, dropped, _, _, _, _, final⟩ := completions_resolve crossed.1 crossed.2 late _ _ after
  have lost : (Completion.mk [2, 3, 4]).status crossed.1.fate = .dropped := rfl
  have ran : crossed.1.fate 4 = some .finished := rfl
  refine ⟨pending.mp rfl, size, lost, (after.finishes_iff late 4 (by decide)).mp ran, ?_⟩
  intro v later
  exact (final v later (by rw [lost]; exact nofun)).trans lost

end Scene
end Scenario
end Leadership
