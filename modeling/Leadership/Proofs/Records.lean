import Leadership.Proofs.Spelling
import Leadership.Proofs.Timestamp
import Mathlib.Logic.Relation

set_option autoImplicit false

namespace Leadership
namespace Json

/-- Changes of an object that make no difference to who asks for members under some names: another order, one more
member under another name, and an optional member left out that was null. -/
inductive Recast (names optional : List String) : List (Option String × Json) → List (Option String × Json) → Prop
  | order {ms ms' : List (Option String × Json)} (same : ms.Perm ms') : Recast names optional ms ms'
  | extra (name : String) (j : Json) (ms : List (Option String × Json)) (strange : name ∉ names) :
      Recast names optional ms ((some name, j) :: ms)
  | drop (name : String) (ms : List (Option String × Json)) (missed : name ∈ optional) :
      Recast names optional ((some name, .null) :: ms) ms

def Field {α : Type} (take : Option Json → Option α) (name : String) (ms : List (Option String × Json)) (a : α) :
    Prop :=
  ∃ given, member? name ms = some given ∧ take given = some a

def Named (ms : List (Option String × Json)) : Prop := ∀ m ∈ ms, m.1.isSome = true

section Members
variable {names optional : List String} {name : String} {ms ms' : List (Option String × Json)} {j : Json}

theorem member?_perm (name : String) (perm : ms.Perm ms') : member? name ms = member? name ms' := by
  have found := perm.filter fun m => m.1 == some name
  unfold member?
  revert found
  generalize ms.filter (fun m => m.1 == some name) = as
  generalize ms'.filter (fun m => m.1 == some name) = bs
  intro found
  have length := found.length_eq
  match as, bs with
  | [], [] => rfl
  | [a], [b] => rw [List.singleton_perm_singleton.mp found]
  | _ :: _ :: _, _ :: _ :: _ => rfl

theorem member?_other {key : String} (other : key ≠ name) : member? name ((some key, j) :: ms) = member? name ms := by
  rw [member?, List.filter_cons_of_neg (by simpa using other), member?]

theorem member?_alone (absent : ∀ m ∈ ms, m.1 ≠ some name) : member? name ms = some none := by
  have nothing : ms.filter (fun m => m.1 == some name) = [] :=
    List.filter_eq_nil_iff.mpr fun m mem => by simpa using absent m mem
  rw [member?, nothing]

theorem member?_first (absent : ∀ m ∈ ms, m.1 ≠ some name) :
    member? name ((some name, j) :: ms) = some (some j) := by
  have nothing : ms.filter (fun m => m.1 == some name) = [] :=
    List.filter_eq_nil_iff.mpr fun m mem => by simpa using absent m mem
  rw [member?, List.filter_cons_of_pos (by simp), nothing]

theorem alone_of_member? {given : Option Json} (found : member? name ((some name, j) :: ms) = some given) :
    given = some j ∧ ∀ m ∈ ms, m.1 ≠ some name := by
  rw [member?, List.filter_cons_of_pos (by simp)] at found
  cases rest : ms.filter (fun m => m.1 == some name) with
  | nil =>
    rw [rest] at found
    refine ⟨(Option.some.inj found).symm, fun m mem => ?_⟩
    simpa using List.filter_eq_nil_iff.mp rest m mem
  | cons n ns =>
    rw [rest] at found
    cases found

theorem Named.recast (step : Recast names optional ms ms') (named : Named ms) : Named ms' := by
  cases step with
  | order same => exact fun m mem => named m (same.mem_iff.mpr mem)
  | extra key j ms strange => exact List.forall_mem_cons.mpr ⟨rfl, named⟩
  | drop key ms missed => exact (List.forall_mem_cons.mp named).2

theorem Field.recast {α : Type} {take : Option Json → Option α} {a : α} (step : Recast names optional ms ms')
    (asked : name ∈ names) (blind : name ∈ optional → take (some .null) = take none) (field : Field take name ms a) :
    Field take name ms' a := by
  obtain ⟨given, found, taken⟩ := field
  cases step with
  | order same => exact ⟨given, member?_perm name same ▸ found, taken⟩
  | extra key j ms strange =>
    have other : key ≠ name := fun same => strange (same ▸ asked)
    exact ⟨given, (member?_other other).trans found, taken⟩
  | drop key ms missed =>
    by_cases same : key = name
    · subst same
      obtain ⟨rfl, absent⟩ := alone_of_member? found
      exact ⟨none, member?_alone absent, blind missed ▸ taken⟩
    · exact ⟨given, (member?_other same).symm.trans found, taken⟩

theorem kept_by_recasts {holds : List (Option String × Json) → Prop}
    (kept : ∀ {ms ms'}, Recast names optional ms ms' → holds ms → holds ms') (start : holds ms)
    (steps : Relation.ReflTransGen (Recast names optional) ms ms') : holds ms' := by
  induction steps with
  | refl => exact start
  | tail _ step ih => exact kept step ih

end Members

section Fields
variable {names : List String}

theorem mapM_eq_some_iff {α β : Type} (f : α → Option β) (as : List α) (bs : List β) :
    as.mapM f = some bs ↔ List.Forall₂ (fun a b => f a = some b) as bs := by
  induction as generalizing bs with
  | nil => cases bs <;> simp
  | cons a as ih => cases bs <;> simp [List.mapM_cons, Option.bind_eq_some_iff, ih]

theorem fields?_object (names : List String) (ms : List (Option String × Json)) (given : List (Option Json)) :
    fields? names (.object ms) = some given ↔
      Named ms ∧ List.Forall₂ (fun name g => member? name ms = some g) names given := by
  simp only [fields?, Option.ite_none_right_eq_some, List.all_eq_true, mapM_eq_some_iff, Named]

theorem member?_record {members : List (String × Json)} (distinct : (members.map Prod.fst).Nodup) {m : String × Json}
    (mem : m ∈ members) : member? m.1 (members.map fun (name, value) => (some name, value)) = some (some m.2) := by
  induction members with
  | nil => cases mem
  | cons head tail ih =>
    obtain ⟨absent, distinct⟩ := List.nodup_cons.mp distinct
    rw [List.map_cons]
    rcases List.mem_cons.mp mem with rfl | later
    · refine member?_first fun n listed same => ?_
      obtain ⟨n, there, rfl⟩ := List.mem_map.mp listed
      exact absent (Option.some.inj same ▸ List.mem_map_of_mem there)
    · have other : head.1 ≠ m.1 := fun same => absent (same ▸ List.mem_map_of_mem later)
      rw [member?_other other]
      exact ih distinct later

theorem fields?_record {members : List (String × Json)} (distinct : (members.map Prod.fst).Nodup) :
    fields? (members.map Prod.fst) (.record members) = some (members.map fun m => some m.2) := by
  rw [record, fields?_object]
  constructor
  · intro m mem
    obtain ⟨_, _, rfl⟩ := List.mem_map.mp mem
    rfl
  · rw [List.forall₂_map_left_iff, List.forall₂_map_right_iff, List.forall₂_same]
    exact fun m mem => member?_record distinct mem

theorem str_ne_null (s : String) : str s ≠ .null := nofun

theorem optional?_ofOption {α : Type} {read : Json → Option α} {write : α → Json} (shown : ∀ a, write a ≠ .null)
    {o : Option α} (back : ∀ a, o = some a → read (write a) = some a) :
    optional? read (some (ofOption write o)) = some o := by
  cases o with
  | none => rfl
  | some a =>
    rw [ofOption, optional?, back a rfl, Option.map_some]
    exact fun null => shown a null

theorem of_optional? {α : Type} {read : Json → Option α} {given : Option Json} {a : α}
    (taken : optional? read given = some (some a)) : ∃ j, given = some j ∧ read j = some a := by
  unfold optional? at taken
  split at taken
  · cases taken
  · cases taken
  · next j _ =>
    obtain ⟨b, found, same⟩ := Option.map_eq_some_iff.mp taken
    cases same
    exact ⟨j, rfl, found⟩

theorem count?_natural {n : Nat} (small : n < countLimit) : required? count? (some (.natural n)) = some n :=
  if_pos small

theorem count?_lt {given : Option Json} {n : Nat} (taken : required? count? given = some n) : n < countLimit := by
  unfold required? count? at taken
  split at taken
  · cases taken
  · split at taken
    · simp only [Option.ite_none_right_eq_some, Option.some.injEq] at taken
      obtain ⟨small, rfl⟩ := taken
      exact small
    · cases taken

end Fields
end Json

namespace Token

theorem ofJson?_toJson (t : Token) : ofJson? t.toJson = some t := by
  rw [ofJson?_iff]
  exact ⟨t.text, rfl, t.spelled_text⟩

end Token

namespace Instant

theorem ofJson?_toJson {i : Instant} (proper : i.Proper) (plain : i.Plain) : ofJson? i.toJson = some i := by
  simp only [ofJson?, toJson, Json.str, Json.text?, Option.bind_some]
  exact ofText?_text proper plain

theorem proper_of_read {j : Json} {i : Instant} (read : ofJson? j = some i) : i.Proper := by
  obtain ⟨s, _, read⟩ := Option.bind_eq_some_iff.mp read
  exact proper_of_ofText read

end Instant

namespace Leader

open Json

inductive Given : List (Option Json) → Leader Token → Prop
  | mk {a b : Option Json} {l : Leader Token} (address : required? text? a = some l.address)
      (token : required? Token.ofJson? b = some l.token) : Given [a, b] l

structure Stated (ms : List (Option String × Json)) (l : Leader Token) : Prop where
  named : Named ms
  address : Field (required? text?) "address" ms l.address
  token : Field (required? Token.ofJson?) "token" ms l.token

variable {j : Json} {l : Leader Token} {ms ms' : List (Option String × Json)}

theorem ofJson?_iff : ofJson? j = some l ↔ ∃ given, j.fields? names = some given ∧ Given given l := by
  constructor
  · intro read
    unfold ofJson? at read
    split at read
    · next address token found =>
      simp only [bind, Option.bind_eq_some_iff, Option.some.injEq] at read
      obtain ⟨_, address, _, token, rfl⟩ := read
      exact ⟨_, found, .mk address token⟩
    · cases read
  · rintro ⟨_, found, ⟨address, token⟩⟩
    simp only [ofJson?, found, bind, address, token, Option.bind_some]

theorem ofJson?_object : ofJson? (.object ms) = some l ↔ Stated ms l := by
  rw [ofJson?_iff]
  constructor
  · rintro ⟨_, found, ⟨address, token⟩⟩
    obtain ⟨named, fields⟩ := (fields?_object _ _ _).mp found
    simp only [names, List.forall₂_cons] at fields
    obtain ⟨found, found', _⟩ := fields
    exact ⟨named, ⟨_, found, address⟩, ⟨_, found', token⟩⟩
  · rintro ⟨named, ⟨_, found, address⟩, ⟨_, found', token⟩⟩
    exact ⟨_, (fields?_object _ _ _).mpr ⟨named, .cons found (.cons found' .nil)⟩, .mk address token⟩

theorem Stated.recast (step : Recast names [] ms ms') (stated : Stated ms l) : Stated ms' l where
  named := stated.named.recast step
  address := stated.address.recast step (by decide) nofun
  token := stated.token.recast step (by decide) nofun

theorem ofJson?_toJson (l : Leader Token) : ofJson? l.toJson = some l := by
  have distinct : names.Nodup := by decide
  have found : l.toJson.fields? names = some [some (.str l.address), some l.token.toJson] := fields?_record distinct
  have token : required? Token.ofJson? (some l.token.toJson) = some l.token := by
    rw [required?, Token.ofJson?_toJson]
  exact ofJson?_iff.mpr ⟨_, found, .mk rfl token⟩

end Leader

namespace Summary

open Json

def optional : List String := ["proposed_leader", "confirmed_leader", "token", "address", "confirmed_at"]

structure Sized (s : Summary Token) : Prop where
  contenders : s.contenders < countLimit
  listeners : s.listeners < countLimit

inductive Given : List (Option Json) → Summary Token → Prop
  | mk {a b c d e f g h : Option Json} {s : Summary Token}
      (contenders : required? count? a = some s.contenders) (listeners : required? count? b = some s.listeners)
      (proposed : optional? text? c = some s.proposed) (confirmed : optional? text? d = some s.confirmed)
      (token : optional? Token.ofJson? e = some s.token) (address : optional? text? f = some s.address)
      (confirmedAt : optional? Instant.ofJson? g = some s.confirmedAt)
      (shutdown : required? bool? h = some s.shutdown) : Given [a, b, c, d, e, f, g, h] s

structure Stated (ms : List (Option String × Json)) (s : Summary Token) : Prop where
  named : Named ms
  contenders : Field (required? count?) "contenders" ms s.contenders
  listeners : Field (required? count?) "listeners" ms s.listeners
  proposed : Field (optional? text?) "proposed_leader" ms s.proposed
  confirmed : Field (optional? text?) "confirmed_leader" ms s.confirmed
  token : Field (optional? Token.ofJson?) "token" ms s.token
  address : Field (optional? text?) "address" ms s.address
  confirmedAt : Field (optional? Instant.ofJson?) "confirmed_at" ms s.confirmedAt
  shutdown : Field (required? bool?) "shutdown" ms s.shutdown

variable {j : Json} {s : Summary Token} {ms ms' : List (Option String × Json)}

theorem ofJson?_iff : ofJson? j = some s ↔ ∃ given, j.fields? names = some given ∧ Given given s := by
  constructor
  · intro read
    unfold ofJson? at read
    split at read
    · next found =>
      simp only [bind, Option.bind_eq_some_iff, Option.some.injEq] at read
      obtain ⟨_, contenders, _, listeners, _, proposed, _, confirmed, _, token, _, address, _, confirmedAt, _, shutdown,
        rfl⟩ := read
      exact ⟨_, found, .mk contenders listeners proposed confirmed token address confirmedAt shutdown⟩
    · cases read
  · rintro ⟨_, found, ⟨contenders, listeners, proposed, confirmed, token, address, confirmedAt, shutdown⟩⟩
    simp only [ofJson?, found, bind, contenders, listeners, proposed, confirmed, token, address, confirmedAt, shutdown,
      Option.bind_some]

theorem ofJson?_object : ofJson? (.object ms) = some s ↔ Stated ms s := by
  rw [ofJson?_iff]
  constructor
  · rintro ⟨_, found, ⟨contenders, listeners, proposed, confirmed, token, address, confirmedAt, shutdown⟩⟩
    obtain ⟨named, fields⟩ := (fields?_object _ _ _).mp found
    simp only [names, List.forall₂_cons] at fields
    obtain ⟨a, b, c, d, e, f, g, h, _⟩ := fields
    exact ⟨named, ⟨_, a, contenders⟩, ⟨_, b, listeners⟩, ⟨_, c, proposed⟩, ⟨_, d, confirmed⟩, ⟨_, e, token⟩,
      ⟨_, f, address⟩, ⟨_, g, confirmedAt⟩, ⟨_, h, shutdown⟩⟩
  · rintro ⟨named, ⟨_, a, contenders⟩, ⟨_, b, listeners⟩, ⟨_, c, proposed⟩, ⟨_, d, confirmed⟩, ⟨_, e, token⟩,
      ⟨_, f, address⟩, ⟨_, g, confirmedAt⟩, ⟨_, h, shutdown⟩⟩
    have found : fields? names (.object ms) = some _ := (fields?_object _ _ _).mpr
      ⟨named, .cons a (.cons b (.cons c (.cons d (.cons e (.cons f (.cons g (.cons h .nil)))))))⟩
    exact ⟨_, found, .mk contenders listeners proposed confirmed token address confirmedAt shutdown⟩

theorem Stated.recast (step : Recast names optional ms ms') (stated : Stated ms s) : Stated ms' s where
  named := stated.named.recast step
  contenders := stated.contenders.recast step (by decide) fun missed => absurd missed (by decide)
  listeners := stated.listeners.recast step (by decide) fun missed => absurd missed (by decide)
  proposed := stated.proposed.recast step (by decide) fun _ => rfl
  confirmed := stated.confirmed.recast step (by decide) fun _ => rfl
  token := stated.token.recast step (by decide) fun _ => rfl
  address := stated.address.recast step (by decide) fun _ => rfl
  confirmedAt := stated.confirmedAt.recast step (by decide) fun _ => rfl
  shutdown := stated.shutdown.recast step (by decide) fun missed => absurd missed (by decide)

theorem ofJson?_toJson (sized : s.Sized) (dated : ∀ i, s.confirmedAt = some i → i.Proper ∧ i.Plain) :
    ofJson? s.toJson = some s := by
  have distinct : names.Nodup := by decide
  have found : s.toJson.fields? names = some
      [some (.natural s.contenders), some (.natural s.listeners), some (.ofOption .str s.proposed),
        some (.ofOption .str s.confirmed), some (.ofOption Token.toJson s.token), some (.ofOption .str s.address),
        some (.ofOption Instant.toJson s.confirmedAt), some (.bool s.shutdown)] := fields?_record distinct
  have label (o : Option String) : optional? text? (some (.ofOption .str o)) = some o :=
    optional?_ofOption str_ne_null fun _ _ => rfl
  have token : optional? Token.ofJson? (some (.ofOption Token.toJson s.token)) = some s.token :=
    optional?_ofOption (fun (t : Token) => str_ne_null t.text) fun t _ => t.ofJson?_toJson
  have confirmedAt : optional? Instant.ofJson? (some (.ofOption Instant.toJson s.confirmedAt)) = some s.confirmedAt :=
    optional?_ofOption (fun (i : Instant) => str_ne_null i.text) fun i held =>
      Instant.ofJson?_toJson (dated i held).1 (dated i held).2
  exact ofJson?_iff.mpr ⟨_, found, .mk (count?_natural sized.contenders) (count?_natural sized.listeners)
    (label s.proposed) (label s.confirmed) token (label s.address) confirmedAt rfl⟩

theorem sized_of_read (read : ofJson? j = some s) : s.Sized := by
  obtain ⟨_, _, ⟨contenders, listeners, _, _, _, _, _, _⟩⟩ := ofJson?_iff.mp read
  exact ⟨count?_lt contenders, count?_lt listeners⟩

theorem proper_of_read (read : ofJson? j = some s) {i : Instant} (held : s.confirmedAt = some i) : i.Proper := by
  obtain ⟨_, _, ⟨_, _, _, _, _, _, confirmedAt, _⟩⟩ := ofJson?_iff.mp read
  obtain ⟨_, _, back⟩ := of_optional? (held ▸ confirmedAt)
  exact Instant.proper_of_read back

end Summary

namespace Json

open Relation (ReflTransGen)

/-- Summaries and leaders are read back from what is written of them, and from anything it can be recast to. What is
read at all is read the same again once it is written. -/
theorem records_read_back :
    (∀ s : Summary Token, s.Sized → (∀ i, s.confirmedAt = some i → i.Proper ∧ i.Plain) →
      Summary.ofJson? s.toJson = some s ∧ ∃ ms, s.toJson = .object ms ∧ ∀ ms',
        ReflTransGen (Recast Summary.names Summary.optional) ms ms' → Summary.ofJson? (.object ms') = some s) ∧
      (∀ l : Leader Token, Leader.ofJson? l.toJson = some l ∧ ∃ ms, l.toJson = .object ms ∧ ∀ ms',
        ReflTransGen (Recast Leader.names []) ms ms' → Leader.ofJson? (.object ms') = some l) ∧
      (∀ (j : Json) (s : Summary Token), Summary.ofJson? j = some s → (∀ i, s.confirmedAt = some i → i.Plain) →
        Summary.ofJson? s.toJson = some s) ∧
      ∀ (j : Json) (l : Leader Token), Leader.ofJson? j = some l → Leader.ofJson? l.toJson = some l := by
  refine ⟨fun s sized dated => ?_, fun l => ?_, fun j s read plain => ?_, fun j l _ => l.ofJson?_toJson⟩
  · have back := Summary.ofJson?_toJson sized dated
    have stated := Summary.ofJson?_object.mp back
    refine ⟨back, _, rfl, fun ms' steps => ?_⟩
    exact Summary.ofJson?_object.mpr (kept_by_recasts Summary.Stated.recast stated steps)
  · have stated := Leader.ofJson?_object.mp l.ofJson?_toJson
    refine ⟨l.ofJson?_toJson, _, rfl, fun ms' steps => ?_⟩
    exact Leader.ofJson?_object.mpr (kept_by_recasts Leader.Stated.recast stated steps)
  · refine Summary.ofJson?_toJson (Summary.sized_of_read read) fun i held => ⟨?_, plain i held⟩
    exact Summary.proper_of_read read held

def leapDay : Summary Token :=
  ⟨2, 0, none, some "left", some .zero, some "left:1", some ⟨⟨2024, 2, 29⟩, 86399, 500⟩, false⟩

def turned : List (Option String × Json) :=
  [(some "shutdown", .bool false), (some "confirmed_at", .str "2024-02-29T23:59:59.000000500Z"),
    (some "address", .str "left:1"), (some "token", .str "00000000-0000-0000-0000-000000000000"),
    (some "confirmed_leader", .str "left"), (some "listeners", .natural 0), (some "contenders", .natural 2),
    (some "epoch", .natural 7)]

theorem leapDay_read_back :
    leapDay.Sized ∧ (∀ i, leapDay.confirmedAt = some i → i.Proper ∧ i.Plain) ∧
      Summary.ofJson? (.object turned) = some leapDay ∧ Summary.ofJson? leapDay.toJson = some leapDay := by
  have sized : leapDay.Sized := ⟨by decide, by decide⟩
  have dated : ∀ i, leapDay.confirmedAt = some i → i.Proper ∧ i.Plain := by
    rintro _ ⟨⟩
    exact ⟨⟨by decide, by decide⟩, by decide, by decide, by decide⟩
  have instant : Instant.text ⟨⟨2024, 2, 29⟩, 86399, 500⟩ = "2024-02-29T23:59:59.000000500Z" := by decide
  have token : Token.zero.text = "00000000-0000-0000-0000-000000000000" := by decide
  obtain ⟨summaries, _, again, _⟩ := records_read_back
  obtain ⟨_, ms, written, recast⟩ := summaries leapDay sized dated
  obtain rfl := Json.object.inj written
  have read := recast turned ?_
  · exact ⟨sized, dated, read, again _ leapDay read fun i held => (dated i held).2⟩
  -- What is left out and what comes in are both at the front.
  rw [turned, ← instant, ← token]
  refine .head (.order (@List.perm_middle _ _ [_, _] _)) ?_
  refine .head (.drop "proposed_leader" _ (by decide)) ?_
  refine .head (.extra "epoch" (.natural 7) _ (by decide)) ?_
  exact .single (.order (List.reverse_perm _).symm)

end Json
end Leadership
