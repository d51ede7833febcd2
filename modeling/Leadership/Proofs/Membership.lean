import Leadership.Proofs.Run
import Mathlib.Data.List.DropRight
import Mathlib.Logic.Function.Basic

set_option autoImplicit false

namespace Leadership

def converse {σ θ ρ : Type} (serve : σ → θ → ρ × σ) (start : σ) (requests : List θ) : List ρ × σ :=
  requests.foldl (fun (past, s) q => (past ++ [(serve s q).1], (serve s q).2)) ([], start)

theorem converse_concat {σ θ ρ : Type} (serve : σ → θ → ρ × σ) (start : σ) (qs : List θ) (q : θ) :
    converse serve start (qs ++ [q]) =
      ((converse serve start qs).1 ++ [(serve (converse serve start qs).2 q).1],
        (serve (converse serve start qs).2 q).2) :=
  List.foldl_append

theorem converse_view {σ θ ρ σ' θ' ρ' : Type} {serve : σ → θ → ρ × σ} {serve' : σ' → θ' → ρ' × σ'}
    (asks : θ → Option θ') (tells : ρ → Option ρ') (view : σ → σ')
    (step : ∀ s q, match asks q with
      | none => tells (serve s q).1 = none ∧ view (serve s q).2 = view s
      | some q' => tells (serve s q).1 = some (serve' (view s) q').1 ∧ view (serve s q).2 = (serve' (view s) q').2)
    (start : σ) (qs : List θ) :
    ((converse serve start qs).1.filterMap tells, view (converse serve start qs).2) =
      converse serve' (view start) (qs.filterMap asks) := by
  induction qs using List.reverseRecOn with
  | nil => rfl
  | append_singleton qs q ih =>
    have last := step (converse serve start qs).2 q
    rw [converse_concat, List.filterMap_append, List.filterMap_append]
    cases asked : asks q with
    | none =>
      rw [asked] at last
      simp [last.1, last.2, asked, ih]
    | some q' =>
      rw [asked] at last
      simp only [List.filterMap_cons, List.filterMap_nil, last.1, last.2, asked]
      rw [converse_concat, ← ih]

namespace Roster

inductive Request (κ : Type) where
  | add (m : Member κ)
  | remove (g : Registration κ)
  | drain

inductive Reply (κ : Type) where
  | added (done : Bool)
  | removed (m : Option (Member κ))
  | drained (ms : List (Member κ))
deriving DecidableEq

namespace Reply
variable {κ : Type}

def isJoin : Reply κ → Bool
  | .added done => done
  | _ => false

def isLeave : Reply κ → Bool
  | .removed m => m.isSome
  | _ => false

def isDrain : Reply κ → Bool
  | .drained _ => true
  | _ => false

end Reply

section Serving
variable {κ : Type}

def sinceDrain (past : List (Reply κ)) : List (Reply κ) := past.rtakeWhile fun reply => !reply.isDrain

def serve (r : Roster κ) : Request κ → Reply κ × Roster κ
  | .add m =>
    match r.add? m with
    | some next => (.added true, next)
    | none => (.added false, r)
  | .remove g =>
    match r.remove? g with
    | some (m, next) => (.removed (some m), next)
    | none => (.removed none, r)
  | .drain => (.drained r.drain.1, r.drain.2)

/-- All that can come of a request. Who is to go must be the very object that is held; another one under the same id
does not do, even if it agrees in all that it holds. -/
inductive Outcome (r : Roster κ) : Request κ → Reply κ × Roster κ → Prop
  | joined {m : Member κ} {next : Roster κ} (absent : r.get? m.id = none)
      (view : next.get? = Function.update r.get? m.id (some m)) (size : next.size = r.size + 1) :
      Outcome r (.add m) (.added true, next)
  | taken {m n : Member κ} (present : r.get? m.id = some n) : Outcome r (.add m) (.added false, r)
  | left {g : Registration κ} {m : Member κ} {next : Roster κ} (held : r.get? g.id = some m)
      (identical : m.registration.object = g.object) (view : next.get? = Function.update r.get? g.id none)
      (size : next.size + 1 = r.size) : Outcome r (.remove g) (.removed (some m), next)
  | stranger {g : Registration κ} (strange : ∀ m, r.get? g.id = some m → m.registration.object ≠ g.object) :
      Outcome r (.remove g) (.removed none, r)
  | emptied {ms : List (Member κ)} {next : Roster κ} (once : ms.Nodup)
      (all : ∀ m, m ∈ ms ↔ r.get? m.id = some m) (view : next.get? = fun _ => none) (size : next.size = 0) :
      Outcome r .drain (.drained ms, next)

end Serving

structure Kept {κ : Type} (past : List (Reply κ)) (r : Roster κ) : Prop where
  keyed : ∀ id m, r.get? id = some m → m.id = id
  stored : ∀ m, m ∈ r.members ↔ r.get? m.id = some m
  once : r.ids.Nodup
  served : ∀ q, Outcome r q (r.serve q)
  count : r.size + (sinceDrain past).countP Reply.isLeave = (sinceDrain past).countP Reply.isJoin
  nobody : r.oldest? = none ↔ ∀ id, r.get? id = none
  oldest : ∀ m, r.oldest? = some m ↔ r.get? m.id = some m ∧ ∀ id n, r.get? id = some n → m.id ≤ id

section Views
variable {κ : Type}

theorem length_place (m : Member κ) (ms : List (Member κ)) : (place m ms).length = ms.length + 1 := by
  induction ms with
  | nil => rfl
  | cons head tail ih =>
    by_cases younger : m.id < head.id
    · rw [place, if_pos younger, List.length_cons]
    · rw [place, if_neg younger, List.length_cons, ih, List.length_cons]

theorem size_add (r next : Roster κ) (m : Member κ) (added : r.add? m = some next) : next.size = r.size + 1 := by
  obtain ⟨_, rfl⟩ := add_cases r next m added
  exact length_place m r.members

theorem size_remove (r next : Roster κ) (distinct : r.ids.Nodup) (g : Registration κ) (m : Member κ)
    (removed : r.remove? g = some (m, next)) : next.size + 1 = r.size := by
  obtain ⟨member, same, _, rfl⟩ := remove_cases r next g m removed
  have held : g.id ∈ r.ids := same ▸ ids_of_member r m member
  have one : r.members.countP (fun n => n.id == g.id) = 1 := by
    have counted := List.count_eq_one_of_mem distinct held
    rwa [ids, List.count_eq_countP, List.countP_map] at counted
  have split := List.length_eq_countP_add_countP (fun n => n.id == g.id) (l := r.members)
  rw [one, Nat.add_comm, List.countP_eq_length_filter] at split
  simp only [size, split, Nat.add_right_cancel_iff]
  congr 1
  exact List.filter_congr fun n _ => by simp only [bne, Bool.not_eq_true, Bool.decide_eq_false]

theorem stored_iff {r : Roster κ} (distinct : r.ids.Nodup) (m : Member κ) : m ∈ r.members ↔ r.get? m.id = some m := by
  rw [get_iff r distinct, and_iff_left rfl]

theorem oldest_none_iff (r : Roster κ) : r.oldest? = none ↔ ∀ id, r.get? id = none := by
  rw [oldest?, List.head?_eq_none_iff]
  constructor
  · intro empty id
    rw [get?, empty]
    rfl
  · intro absent
    refine List.eq_nil_iff_forall_not_mem.mpr fun m member => ?_
    exact absent_of_get r m.id (absent m.id) (ids_of_member r m member)

theorem oldest_iff {r : Roster κ} (ordered : r.Ordered) (m : Member κ) :
    r.oldest? = some m ↔ r.get? m.id = some m ∧ ∀ id n, r.get? id = some n → m.id ≤ id := by
  constructor
  · intro oldest
    refine ⟨(stored_iff ordered.distinct m).mp (member_of_oldest r m oldest), fun id n found => ?_⟩
    obtain ⟨listed, rfl⟩ := member_of_get r id n found
    exact ordered.oldest_le m n oldest listed
  · rintro ⟨held, least⟩
    cases oldest : r.oldest? with
    | none =>
      rw [(oldest_none_iff r).mp oldest m.id] at held
      cases held
    | some n =>
      have first := (stored_iff ordered.distinct n).mp (member_of_oldest r n oldest)
      have member := (stored_iff ordered.distinct m).mpr held
      have same := Nat.le_antisymm (ordered.oldest_le n m oldest member) (least n.id n first)
      rw [member_unique r ordered.distinct n m (member_of_oldest r n oldest) member same]

theorem count_step {r next : Roster κ} {past : List (Reply κ)} {q : Request κ} {reply : Reply κ}
    (count : r.size + (sinceDrain past).countP Reply.isLeave = (sinceDrain past).countP Reply.isJoin)
    (outcome : Outcome r q (reply, next)) :
    next.size + (sinceDrain (past ++ [reply])).countP Reply.isLeave =
      (sinceDrain (past ++ [reply])).countP Reply.isJoin := by
  have longer (open_ : reply.isDrain = false) : sinceDrain (past ++ [reply]) = sinceDrain past ++ [reply] :=
    List.rtakeWhile_concat_pos _ _ _ (by simp [open_])
  cases outcome with
  | joined _ _ size | left _ _ _ size =>
    rw [longer rfl]
    simp only [List.countP_append, List.countP_singleton, Reply.isLeave, Reply.isJoin, Option.isSome_some, if_true,
      Bool.false_eq_true, if_false]
    omega
  | taken | stranger =>
    rw [longer rfl]
    simpa [List.countP_append, Reply.isLeave, Reply.isJoin] using count
  | emptied once all view size =>
    rw [size, sinceDrain, List.rtakeWhile_concat_neg _ _ _ (by simp [Reply.isDrain])]
    rfl

end Views

section Steps
variable {κ : Type} {r : Roster κ}

theorem Ordered.serve (ordered : r.Ordered) (q : Request κ) : (r.serve q).2.Ordered := by
  cases q with
  | add m =>
    cases added : r.add? m with
    | none => rwa [Roster.serve, added]
    | some next =>
      rw [Roster.serve, added]
      exact ordered.add next m added
  | remove g =>
    cases removed : r.remove? g with
    | none => rwa [Roster.serve, removed]
    | some taken =>
      rw [Roster.serve, removed]
      exact ordered.remove taken.2 g taken.1 removed
  | drain => exact List.Pairwise.nil

theorem outcome_add (distinct : r.ids.Nodup) (m : Member κ) : Outcome r (.add m) (r.serve (.add m)) := by
  cases found : r.get? m.id with
  | some n => simpa only [serve, add?, found] using Outcome.taken found
  | none =>
    obtain ⟨next, added⟩ := add_unlisted r m (absent_of_get r m.id found)
    rw [serve, added]
    refine .joined found (funext fun id => ?_) (size_add r next m added)
    by_cases same : id = m.id
    · subst same
      rw [Function.update_self]
      exact (get_iff next (nodup_add r next m added distinct) _ m).mpr ⟨(mem_add r next m m added).mpr (.inl rfl), rfl⟩
    · rw [Function.update_of_ne same, get_add_other r distinct next m added id same]

theorem outcome_remove (distinct : r.ids.Nodup) (g : Registration κ) :
    Outcome r (.remove g) (r.serve (.remove g)) := by
  cases removed : r.remove? g with
  | none =>
    rw [serve, removed]
    refine .stranger fun m held identical => ?_
    exact remove_registered r g ⟨m, held, identical⟩ removed
  | some taken =>
    obtain ⟨m, next⟩ := taken
    obtain ⟨member, place, identical, _⟩ := remove_cases r next g m removed
    rw [serve, removed]
    refine .left ((get_iff r distinct g.id m).mpr ⟨member, place⟩) identical (funext fun id => ?_)
      (size_remove r next distinct g m removed)
    by_cases here : id = g.id
    · subst here
      rw [Function.update_self, Option.eq_none_iff_forall_ne_some]
      intro n found
      obtain ⟨listed, equal⟩ := member_of_get next g.id n found
      exact ((mem_remove r next g m n removed).mp listed).2 equal
    · rw [Function.update_of_ne here, get_remove_other r distinct next g m removed id here]

theorem outcome (distinct : r.ids.Nodup) (q : Request κ) : Outcome r q (r.serve q) := by
  cases q with
  | add m => exact outcome_add distinct m
  | remove g => exact outcome_remove distinct g
  | drain => exact .emptied (List.Nodup.of_map Member.id distinct) (stored_iff distinct) rfl rfl

theorem after_ordered (qs : List (Request κ)) : (converse serve empty qs).2.Ordered := by
  induction qs using List.reverseRecOn with
  | nil => exact List.Pairwise.nil
  | append_singleton qs q ih =>
    rw [converse_concat]
    exact ih.serve q

theorem after_count (qs : List (Request κ)) :
    (converse serve empty qs).2.size + (sinceDrain (converse serve empty qs).1).countP Reply.isLeave =
      (sinceDrain (converse serve empty qs).1).countP Reply.isJoin := by
  induction qs using List.reverseRecOn with
  | nil => rfl
  | append_singleton qs q ih =>
    rw [converse_concat]
    exact count_step ih (outcome (after_ordered qs).distinct q)

theorem kept_after (qs : List (Request κ)) : Kept (converse serve empty qs).1 (converse serve empty qs).2 := by
  have ordered := after_ordered qs
  constructor
  · exact fun id m found => (member_of_get _ id m found).2
  · exact stored_iff ordered.distinct
  · exact ordered.distinct
  · exact outcome ordered.distinct
  · exact after_count qs
  · exact oldest_none_iff _
  · exact oldest_iff ordered

end Steps
end Roster

structure Membership where
  contenders : Roster String := {}
  listeners : Roster Unit := {}
deriving DecidableEq

namespace Membership

abbrev Request := Roster.Request String ⊕ Roster.Request Unit
abbrev Reply := Roster.Reply String ⊕ Roster.Reply Unit

def serve (ms : Membership) : Request → Reply × Membership
  | .inl q => (.inl (ms.contenders.serve q).1, { ms with contenders := (ms.contenders.serve q).2 })
  | .inr q => (.inr (ms.listeners.serve q).1, { ms with listeners := (ms.listeners.serve q).2 })

def after (qs : List Request) : List Reply × Membership := converse serve {} qs

theorem contenders_alone (qs : List Request) :
    ((after qs).1.filterMap Sum.getLeft?, (after qs).2.contenders) =
      converse Roster.serve Roster.empty (qs.filterMap Sum.getLeft?) :=
  converse_view Sum.getLeft? Sum.getLeft? Membership.contenders
    (by rintro ms (q | q) <;> exact ⟨rfl, rfl⟩) {} qs

theorem listeners_alone (qs : List Request) :
    ((after qs).1.filterMap Sum.getRight?, (after qs).2.listeners) =
      converse Roster.serve Roster.empty (qs.filterMap Sum.getRight?) :=
  converse_view Sum.getRight? Sum.getRight? Membership.listeners
    (by rintro ms (q | q) <;> exact ⟨rfl, rfl⟩) {} qs

def Reached (ms : Membership) : Prop := ∃ qs, (after qs).2 = ms

variable {ms : Membership}

theorem Reached.serve (reached : ms.Reached) (q : Request) : (ms.serve q).2.Reached := by
  obtain ⟨qs, rfl⟩ := reached
  exact ⟨qs ++ [q], congrArg Prod.snd (converse_concat Membership.serve {} qs q)⟩

theorem Reached.ordered (reached : ms.Reached) : ms.contenders.Ordered ∧ ms.listeners.Ordered := by
  obtain ⟨qs, rfl⟩ := reached
  constructor
  · rw [show (after qs).2.contenders = _ from congrArg Prod.snd (contenders_alone qs)]
    exact Roster.after_ordered _
  · rw [show (after qs).2.listeners = _ from congrArg Prod.snd (listeners_alone qs)]
    exact Roster.after_ordered _

end Membership

def Service.membership (v : Service) : Membership := ⟨v.contenders, v.listeners⟩

namespace Desk
variable {enrolled : List Handle} {call : Call} {d e : Desk}

theorem move_reached (sound : d.Sound enrolled) (move : Move call d e) (reached : d.membership.Reached) :
    e.membership.Reached := by
  cases move with
  | note | replan | commit | tell | depose => exact reached
  | enter _ c party contenders home up idle added =>
    have joined := reached.serve (.inl (.add ⟨c, party⟩))
    simp only [Membership.serve, Roster.serve, Service.membership, added] at joined
    exact joined
  | listen _ l party listeners home up idle added =>
    have joined := reached.serve (.inr (.add ⟨l, party⟩))
    simp only [Membership.serve, Roster.serve, Service.membership, added] at joined
    exact joined
  | leave s _ c m contenders up active removed =>
    have alike := leave_alike d c m contenders
    have left := reached.serve (.inl (.remove c))
    rw [Service.membership, alike.contenders, alike.listeners, withdraw_rest]
    simpa only [Membership.serve, Roster.serve, Service.membership, removed] using left
  | hush s _ l m listeners up active removed =>
    have left := reached.serve (.inr (.remove l))
    simp only [Membership.serve, Roster.serve, Service.membership, removed] at left
    exact left
  | propose _ _ m up unconfirmed unproposed oldest =>
    rw [propose, submit_eq]
    exact reached
  | shutDown _ _ cause up =>
    have closed := shutDown_closed d cause up sound.contenders_distinct
    rw [Service.membership, closed.contenders, closed.listeners]
    exact (reached.serve (.inl .drain)).serve (.inr .drain)

theorem moves_reached (sound : d.Sound enrolled) (held : call.Held enrolled) (moves : Moves call d e)
    (reached : d.membership.Reached) : e.membership.Reached := by
  induction moves with
  | refl => exact reached
  | tail earlier move ih => exact move_reached (sound_moves sound held earlier) move ih

end Desk

namespace System
variable {calls : List Call} {sys : System}

theorem membership_reached (lawful : Lawful {} calls) (i s : Nat) (v : Service)
    (found : (before calls i).services[s]? = some v) : v.membership.Reached := by
  induction i generalizing v with
  | zero => cases found
  | succ i ih =>
    cases here : calls[i]? with
    | none =>
      rw [before_end calls i here] at found
      exact ih v found
    | some call =>
      obtain ⟨held, takes⟩ := before_takes lawful i call here
      rcases takes_service takes s v found with same | ⟨plan, rfl⟩ | visited
      · exact ih v same
      · exact ⟨[], rfl⟩
      · obtain ⟨u, e, _, present, moves, rfl, _⟩ := visited
        have sound := (sound_before lawful i).cleared.desks s u present
        exact Desk.moves_reached sound held moves (ih u present)

def EldestOf (sys : System) (r : Roster String) (m : Member String) : Prop :=
  ∃ i : Nat, sys.enrolled[i]? = some (.contender m.registration) ∧
    ∀ n ∈ r.members, ∀ j : Nat, sys.enrolled[j]? = some (.contender n.registration) → i ≤ j

theorem Sound.eldest (sound : sys.Sound) {s : Nat} {v : Service} (found : sys.services[s]? = some v)
    (ordered : v.contenders.Ordered) (m : Member String) (oldest : v.contenders.oldest? = some m) :
    sys.EldestOf v.contenders m := by
  have desk := sound.desks s v found
  obtain ⟨known, _⟩ := desk.contenders m (Roster.member_of_oldest _ m oldest)
  obtain ⟨i, made⟩ := List.mem_iff_getElem?.mp known
  refine ⟨i, made, fun n member j made' => ?_⟩
  have first : m.id = i + 1 := sound.ids i _ made
  have other : n.id = j + 1 := sound.ids j _ made'
  have least := ordered.oldest_le m n oldest member
  omega

end System

namespace Membership

/-- Contenders and listeners are two maps from ids to members that know nothing of each other, whatever was asked of
them and in which order. The rosters of any service in any run are among them; no id is on both; and who comes first
among the contenders has the handle that was made first, however often it went and came back. -/
theorem rosters_kept (qs : List Request) :
    Roster.Kept ((after qs).1.filterMap Sum.getLeft?) (after qs).2.contenders ∧
      Roster.Kept ((after qs).1.filterMap Sum.getRight?) (after qs).2.listeners ∧
      ((after qs).1.filterMap Sum.getLeft?, (after qs).2.contenders) =
        converse Roster.serve Roster.empty (qs.filterMap Sum.getLeft?) ∧
      ((after qs).1.filterMap Sum.getRight?, (after qs).2.listeners) =
        converse Roster.serve Roster.empty (qs.filterMap Sum.getRight?) ∧
      ∀ calls, System.Lawful {} calls → ∀ (s : Nat) (v : Service), (System.run {} calls).services[s]? = some v →
        v.membership.Reached ∧ v.ids.Nodup ∧
          ∀ m, v.contenders.oldest? = some m → (System.run {} calls).EldestOf v.contenders m := by
  have contenders := contenders_alone qs
  have listeners := listeners_alone qs
  obtain ⟨replies, roster⟩ := Prod.mk.inj contenders
  obtain ⟨replies', roster'⟩ := Prod.mk.inj listeners
  refine ⟨?_, ?_, contenders, listeners, fun calls lawful s v found => ?_⟩
  · rw [replies, roster]
    exact Roster.kept_after _
  · rw [replies', roster']
    exact Roster.kept_after _
  · have sound := System.sound_run lawful
    have last := found
    rw [← System.before_all calls] at last
    have reached := System.membership_reached lawful calls.length s v last
    exact ⟨reached, (sound.desks s v found).distinct, sound.eldest found reached.ordered.1⟩

-- Two contenders that agree in all that they hold, and two listeners, all under one id: only the one that is held can
-- be taken out.
def lookalikes : List Request :=
  [.inl (.add ⟨⟨4, 0, "c-4", 1⟩, 0⟩), .inl (.remove ⟨4, 0, "c-4", 2⟩), .inl (.add ⟨⟨4, 0, "c-4", 2⟩, 1⟩),
    .inl (.remove ⟨4, 0, "c-4", 1⟩), .inr (.add ⟨⟨4, 0, (), 3⟩, 2⟩), .inr (.remove ⟨4, 0, (), 4⟩),
    .inr (.remove ⟨4, 0, (), 3⟩), .inr .drain]

theorem lookalikes_kept :
    (after lookalikes).1 = [.inl (.added true), .inl (.removed none), .inl (.added false),
        .inl (.removed (some ⟨⟨4, 0, "c-4", 1⟩, 0⟩)), .inr (.added true), .inr (.removed none),
        .inr (.removed (some ⟨⟨4, 0, (), 3⟩, 2⟩)), .inr (.drained [])] ∧
      Roster.Kept [.added true, .removed none, .added false, .removed (some ⟨⟨4, 0, "c-4", 1⟩, 0⟩)]
        (after lookalikes).2.contenders ∧
      System.Lawful {} System.succession ∧
      ∃ v, (System.run {} System.succession).services[0]? = some v ∧ v.contenders.size = 2 ∧
        (System.run {} System.succession).EldestOf v.contenders ⟨⟨1, 0, "left", 1⟩, 0⟩ := by
  have lawful : System.Lawful {} System.succession := by decide
  have replies : (after lookalikes).1 = [.inl (.added true), .inl (.removed none), .inl (.added false),
      .inl (.removed (some ⟨⟨4, 0, "c-4", 1⟩, 0⟩)), .inr (.added true), .inr (.removed none),
      .inr (.removed (some ⟨⟨4, 0, (), 3⟩, 2⟩)), .inr (.drained [])] := by decide
  obtain ⟨contenders, _, _, _, rosters⟩ := rosters_kept lookalikes
  rw [replies] at contenders
  obtain ⟨_, _, eldest⟩ := rosters System.succession lawful 0 _ rfl
  exact ⟨replies, contenders, lawful, _, rfl, rfl, eldest _ rfl⟩

end Membership
end Leadership
