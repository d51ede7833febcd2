import Leadership.Proofs.Lineup
import Leadership.Proofs.Order
import Leadership.Proofs.Played

set_option autoImplicit false

namespace Leadership.Scenario

def units (s : Nat) (w : Scene) : List Nat := (lineup s 0 w.system.ledger.attempts).map Routine.unit

def Turn.poll (t : Turn) : Poll Routine := ⟨⟨t.routine, t.worker⟩, t.ran.1⟩

theorem lineup_numbers (s first : Nat) (attempts : List Attempt) :
    ((lineup s first attempts).map Routine.unit).Sublist (List.range' first attempts.length) := by
  have numbers : (lineup s first attempts).map Routine.unit =
      ((attempts.zipIdx first).filter fun a => a.1.Joins s).map Prod.snd := by
    rw [lineup, List.map_map]
    rfl
  rw [numbers, ← List.zipIdx_map_snd first attempts]
  exact List.filter_sublist.map Prod.snd

theorem units_grown {s : Nat} {v w : Scene} {fresh : List Attempt}
    (grown : w.system.ledger.attempts = v.system.ledger.attempts ++ fresh) :
    units s w = units s v ++ (lineup s v.system.ledger.attempts.length fresh).map Routine.unit := by
  rw [units, units, grown, lineup_append, Nat.zero_add, List.map_append]

theorem mem_lineup {s : Nat} {r : Routine} {attempts : List Attempt} (listed : r ∈ lineup s 0 attempts) :
    ∃ a, attempts[r.unit]? = some a ∧ r = routineOf (a, r.unit) := by
  obtain ⟨⟨a, n⟩, kept, rfl⟩ := List.mem_map.mp listed
  exact ⟨a, List.mem_zipIdx_iff_getElem?.mp (List.mem_filter.mp kept).1, rfl⟩

theorem Turn.Outcome.rest {t : Turn} {name : String} (outcome : t.Outcome name) {r : Routine}
    (rest : t.ran.1.rest? = some r) : r.unit = t.routine.unit := by
  cases outcome with
  | finished _ _ ran => rw [ran] at rest; cases rest
  | burst _ _ ran => rw [ran] at rest; cases rest
  | paused _ _ left _ ran waits unit =>
    rw [ran] at rest
    cases waits.symm.trans rest
    exact unit

namespace Scene
variable {v w : Scene} {ts : List Turn} {s : Nat} {held : Multiset Routine} {handed : List (Nat × Routine)}

def shift (w : Scene) (ts : List Turn) (handed : List (Nat × Routine)) : Shift Routine Turn :=
  { floor := w.floor, handed := handed, turns := ts }

theorem shift_unitsOf (w : Scene) (ts : List Turn) {attempts : List Attempt} (sends : Sends s 0 attempts handed) :
    (w.shift ts handed).unitsOf s = lineup s 0 attempts :=
  sends.own

theorem absent_serial (hosted : w.hosts.length = w.system.services.length) : w.Serial w.hosts.length := by
  constructor
  · exact hosted
  · intro host found
    rw [List.getElem?_eq_none (Nat.le_refl _)] at found
    cases found

theorem hosts_perform (recorded : w.Recorded) (hosted : w.hosts.length = w.system.services.length) (s : Step) :
    (w.perform s).2.hosts = w.hosts ∧
      (w.perform s).2.system.services.length = w.system.services.length := by
  have lining := lining_deeds (deeds_perform recorded s) (absent_serial hosted) recorded
  exact ⟨lining.hosts, lining.services⟩

theorem hosts_turn (recorded : w.Recorded) (hosted : w.hosts.length = w.system.services.length) (job : Job Routine)
    (floor : Floor Routine) :
    (w.turn job floor).finish.hosts = w.hosts ∧
      (w.turn job floor).finish.system.services.length = w.system.services.length := by
  have lining := lining_ran (w.turn job floor) (absent_serial (w := (w.turn job floor).start) hosted)
    (recorded.beside ⟨rfl, rfl, rfl⟩)
  exact ⟨lining.hosts, lining.services⟩

theorem hosted_played (played : Played w ts) : w.hosts.length = w.system.services.length := by
  induction played with
  | empty => rfl
  | launch w ts _ host plan ih =>
    have hosts := (addService_rest w host plan).1
    have services : (w.addService host plan).system.services = w.system.services ++ [{ plan := plan }] := by
      exact congrArg System.services (call_system w (.launch plan))
    rw [hosts, services, List.length_append, List.length_append, ih]
    rfl
  | perform w ts played s ih =>
    obtain ⟨hosts, services⟩ := hosts_perform (recorded_staged (staged_played played)) ih s
    rw [hosts, services, ih]
  | turn w ts played job floor taken ih =>
    obtain ⟨hosts, services⟩ := hosts_turn (recorded_staged (staged_played played)) ih job floor
    rw [hosts, services, ih]
  | shuffle w ts _ queue same ih => exact ih
  | report w ts _ ih => exact ih

theorem hosts_rest (played : Played w ts) : w.rest.hosts = w.hosts := by
  fun_induction rest w generalizing ts with
  | case1 w next => rfl
  | case2 w v next ih =>
    obtain ⟨job, floor, taken, rfl⟩ := turn_cases next
    have after := ih (.turn w ts played job floor taken)
    exact after.trans (hosts_turn (recorded_staged (staged_played played)) (hosted_played played) job floor).1

theorem launch_worker {host : Host} {plan : Plan}
    (worker : ∀ h, (w.addService host plan).hosts[s]? = some h → h.executor = .serial) (h : Host)
    (found : w.hosts[s]? = some h) : h.executor = .serial := by
  apply worker h
  rw [(addService_rest w host plan).1, List.getElem?_append_left (List.getElem?_eq_some_iff.mp found).1]
  exact found

theorem reached_lining {at_work : Shift Routine Turn} (reached : Shift.Reached Routine.unit Turn.poll at_work)
    (floor : at_work.floor = v.floor) (sends : Sends s 0 v.system.ledger.attempts at_work.handed)
    (lining : Lining s v w) : ∃ handed, Sends s 0 w.system.ledger.attempts handed ∧
      Shift.Reached Routine.unit Turn.poll { at_work with floor := w.floor, handed := handed } := by
  obtain ⟨fresh, us, grown, fills, later⟩ := lining.filled
  have all : Sends s 0 w.system.ledger.attempts (at_work.handed ++ us) := by
    rw [grown]
    exact sends.append ((Nat.zero_add _).symm ▸ later)
  exact ⟨_, all, Shift.reached_fills reached (floor ▸ fills) (all.numbered.nodup List.nodup_range')⟩

theorem reached_begin {job : Job Routine} {floor : Floor Routine}
    (reached : Shift.Reached Routine.unit Turn.poll (w.shift ts handed)) (taken : w.floor.take? = some (job, floor)) :
    Shift.Reached Routine.unit Turn.poll { floor := floor, hands := {job}, handed := handed, turns := ts } :=
  reached.tail (.start job floor taken)

-- The scenes of a run are shifts of their workers.
theorem reached_played (played : Played w ts) (worker : ∀ host, w.hosts[s]? = some host → host.executor = .serial) :
    ∃ handed, Sends s 0 w.system.ledger.attempts handed ∧
      Shift.Reached Routine.unit Turn.poll (w.shift ts handed) := by
  induction played with
  | empty => exact ⟨[], sends_nothing s 0, .refl⟩
  | launch w ts played host plan ih =>
    obtain ⟨_, floor, attempts⟩ := addService_rest w host plan
    obtain ⟨handed, sends, reached⟩ := ih (launch_worker worker)
    have same : (w.addService host plan).shift ts handed = w.shift ts handed := by
      unfold shift
      rw [floor]
    exact ⟨handed, attempts ▸ sends, same ▸ reached⟩
  | perform w ts played step ih =>
    have recorded := recorded_staged (staged_played played)
    have hosted := hosted_played played
    rw [(hosts_perform recorded hosted step).1] at worker
    obtain ⟨handed, sends, reached⟩ := ih worker
    exact reached_lining reached rfl sends (lining_deeds (deeds_perform recorded step) ⟨hosted, worker⟩ recorded)
  | turn w ts played job floor taken ih =>
    have staged := staged_played played
    have hosted := hosted_played played
    rw [(hosts_turn (recorded_staged staged) hosted job floor).1] at worker
    obtain ⟨handed, sends, reached⟩ := ih worker
    have recorded : (w.turn job floor).start.Recorded := (recorded_staged staged).beside ⟨rfl, rfl, rfl⟩
    obtain ⟨_, _, outcome⟩ := outcome_of_orderly (orderly_start (orderly_staged staged) taken) recorded
    have lining := lining_ran (s := s) (w.turn job floor) ⟨hosted, worker⟩ recorded
    have begun := reached_begin reached taken
    obtain ⟨more, all, ran⟩ := reached_lining (v := (w.turn job floor).start) begun rfl sends lining
    exact ⟨more, all, ran.tail (.finish (w.turn job floor) 0 rfl fun rest left => outcome.rest left)⟩
  | shuffle w ts _ queue same ih =>
    obtain ⟨handed, sends, reached⟩ := ih worker
    exact ⟨handed, sends, reached.tail (.beside _ (.shuffle queue same))⟩
  | report w ts _ ih => exact ih worker

theorem Orderly.unfinished (orderly : Orderly w ts held) (r : Routine) (listed : r ∈ held + w.floor.holds) :
    ¬ Ran (turnsOf r.unit ts) ∧ w.fate r.unit = none := by
  obtain ⟨others, split⟩ := Multiset.exists_cons_of_mem listed
  have books := orderly.books
  rw [split] at books
  obtain ⟨_, _, _, _, _, progress, _, unsettled⟩ := books.entry
  exact ⟨progress.unfinished, unsettled⟩

def Own (s : Nat) (w : Scene) (ts : List Turn) : Prop := ∀ t ∈ ts, t.routine.unit ∈ units s w → t.worker = some s

theorem Orderly.submitted (orderly : Orderly w ts held) :
    ∀ t ∈ ts, t.routine.unit < w.system.ledger.attempts.length := by
  intro t listed
  by_contra late
  have none := (orderly.books.untried _ (Nat.le_of_not_lt late)).1
  have there : t ∈ turnsOf t.routine.unit ts := List.mem_filter.mpr ⟨listed, beq_self_eq_true t.routine.unit⟩
  exact List.not_mem_nil (none ▸ there)

theorem Own.later (own : Own s v ts) (submitted : ∀ t ∈ ts, t.routine.unit < v.system.ledger.attempts.length)
    (grown : v.system.ledger.attempts <+: w.system.ledger.attempts) : Own s w ts := by
  obtain ⟨fresh, grown⟩ := grown
  intro t listed member
  rw [units_grown grown.symm] at member
  rcases List.mem_append.mp member with old | new
  · exact own t listed old
  · have late := (List.mem_range'_1.mp ((lineup_numbers s _ fresh).subset new)).1
    exact absurd (submitted t listed) (Nat.not_lt.mpr late)

-- A unit that another worker runs, or that is a task of its own, is none of this worker's.
theorem stranger {job : Job Routine} {floor : Floor Routine} (orderly : Orderly w ts 0)
    (taken : w.floor.take? = some (job, floor)) (sends : Sends s 0 w.system.ledger.attempts handed)
    (reached : Shift.Reached Routine.unit Turn.poll (w.shift ts handed)) (other : job.worker ≠ some s) :
    job.routine.unit ∉ units s w := by
  intro listed
  obtain ⟨u, member, same⟩ := List.mem_map.mp listed
  have law := Shift.reached_in_order (reached_begin reached taken) s
  have handed_out : u ∈ (handed.filter fun u => u.1 == s).map Prod.snd := sends.own ▸ member
  obtain ⟨left, thread, _, rest⟩ := law.kept u handed_out
  obtain ⟨_, _, _, _, _, progress, alone, _⟩ := (orderly_start orderly taken).at_hand
  cases left with
  | none =>
    obtain ⟨t, there, ends⟩ := thread.ended
    obtain ⟨known, _, unit⟩ := Shift.mem_turnsOf.mp there
    exact progress.unfinished ⟨t, List.mem_filter.mpr ⟨known, beq_iff_eq.mpr (unit.trans same)⟩, ends⟩
  | some r =>
    obtain ⟨unit, waits⟩ := rest r rfl
    have idle : routinesOf s {job} = 0 := routinesOf_other other 0
    rw [Shift.inHand, idle, zero_add] at waits
    have filed : r ∈ file job.routine.unit floor.holds :=
      Multiset.mem_filter.mpr ⟨Floor.holds_of_due waits, unit.trans same⟩
    exact Multiset.notMem_zero r (alone ▸ filed)

theorem own_played (played : Played w ts) (worker : ∀ host, w.hosts[s]? = some host → host.executor = .serial) :
    Own s w ts := by
  induction played with
  | empty =>
    intro t listed
    cases listed
  | launch w ts played host plan ih =>
    obtain ⟨_, _, attempts⟩ := addService_rest w host plan
    have orderly := orderly_staged (staged_played played)
    exact (ih (launch_worker worker)).later orderly.submitted (attempts ▸ List.prefix_refl _)
  | perform w ts played step ih =>
    have staged := staged_played played
    rw [(hosts_perform (recorded_staged staged) (hosted_played played) step).1] at worker
    have orderly := orderly_staged staged
    have changes := (quiet_perform w (recorded_staged staged) step).changes
    exact (ih worker).later orderly.submitted (orderly.attempts_changes changes)
  | turn w ts played job floor taken ih =>
    have staged := staged_played played
    have orderly := orderly_staged staged
    rw [(hosts_turn (recorded_staged staged) (hosted_played played) job floor).1] at worker
    obtain ⟨handed, sends, reached⟩ := reached_played played worker
    have start := orderly_start orderly taken
    have grown := (turn_grown start ((recorded_staged staged).beside ⟨rfl, rfl, rfl⟩)).1
    obtain ⟨_, _, there, _⟩ := start.at_hand
    have known : ∀ t ∈ ts ++ [w.turn job floor], t.routine.unit < w.system.ledger.attempts.length :=
      List.forall_mem_append.mpr
        ⟨orderly.submitted, List.forall_mem_singleton.mpr (List.getElem?_eq_some_iff.mp there).1⟩
    have own : Own s w (ts ++ [w.turn job floor]) := by
      intro t listed member
      rcases List.mem_append.mp listed with old | new
      · exact ih worker t old member
      · obtain rfl := List.mem_singleton.mp new
        by_contra other
        exact stranger orderly taken sends reached other member
    exact own.later known grown
  | shuffle w ts _ queue same ih => exact ih worker
  | report w ts _ ih => exact ih worker

theorem Own.turnsOf {n : Nat} (own : Own s w ts) (listed : n ∈ units s w) :
    Shift.turnsOf Routine.unit Turn.poll s n ts = Scenario.turnsOf n ts := by
  rw [Shift.turnsOf, Shift.turnsAt, List.filter_filter]
  apply List.filter_congr
  intro t member
  by_cases unit : t.routine.unit = n
  · have worker : (t.poll.job.worker == some s) = true := beq_iff_eq.mpr (own t member (unit ▸ listed))
    rw [worker, Bool.and_true]
    rfl
  · have other : (t.poll.job.routine.unit == n) = false := beq_false_of_ne unit
    rw [other, Bool.false_and]
    exact (beq_false_of_ne unit).symm

end Scene
end Leadership.Scenario
