import Mathlib.Data.List.Nodup
import Mathlib.Logic.Relation
import Leadership.Settings
import Leadership.Proofs.Document

set_option autoImplicit false

namespace Leadership

namespace Toml.Entries
variable {es es' : Entries} {k name : String} {v : Value}

def contents? (name : String) (es : Entries) : Option Entries :=
  match get? name es with
  | none => some []
  | some (.table _ sub) => some sub
  | _ => none

def at? (name key : String) (es : Entries) : Option Value := (contents? name es).bind (get? key)

def Tabled (name : String) (es : Entries) : Prop := (contents? name es).isSome = true

instance (name : String) (es : Entries) : Decidable (Tabled name es) :=
  inferInstanceAs (Decidable ((contents? name es).isSome = true))

theorem contents?_missing (missing : get? name es = none) : contents? name es = some [] := by
  rw [contents?, missing]

theorem contents?_table {o : Origin} {sub : Entries} (found : get? name es = some (.table o sub)) :
    contents? name es = some sub := by rw [contents?, found]

theorem contents?_congr (same : get? name es' = get? name es) : contents? name es' = contents? name es := by
  rw [contents?, same, contents?]

theorem get?_iff (distinct : (es.map Prod.fst).Nodup) : get? k es = some v ↔ (k, v) ∈ es := by
  refine ⟨mem_of_get?, fun mem => ?_⟩
  cases found : get? k es with
  | none => exact absurd (List.mem_map_of_mem mem) (get?_none_iff.mp found)
  | some w =>
    have same := List.inj_on_of_nodup_map distinct (mem_of_get? found) mem rfl
    rw [(Prod.mk.inj same).2]

theorem get?_perm (distinct : (es.map Prod.fst).Nodup) (perm : es.Perm es') (k : String) :
    get? k es' = get? k es := by
  have distinct' : (es'.map Prod.fst).Nodup := (perm.map Prod.fst).nodup_iff.mp distinct
  refine Option.ext fun v => ?_
  rw [get?_iff distinct, get?_iff distinct', perm.mem_iff]

theorem get?_append_other {key : String} (different : k ≠ key) (es : Entries) (v : Value) :
    get? k (es ++ [(key, v)]) = get? k es := by
  rw [get?, List.lookup_append, List.lookup_cons, beq_false_of_ne different]
  simp [get?]

theorem get?_middle_other {key : String} (different : k ≠ key) (before after : Entries) (v w : Value) :
    get? k (before ++ (key, v) :: after) = get? k (before ++ (key, w) :: after) := by
  simp [get?, List.lookup_append, List.lookup_cons, beq_false_of_ne different]

end Toml.Entries

namespace Settings

open Toml Entries

def known (name : String) : List String :=
  if name = "service" then ["executor"] else if name = "logging" then ["level", "format"] else []

inductive Eased (counts : String → Prop) : Entries → Entries → Prop
  | reorder {es es' : Entries} (perm : es.Perm es') : Eased counts es es'
  | add {es : Entries} (key : String) (v : Value) (fresh : key ∉ es.map Prod.fst) (other : ¬ counts key) :
      Eased counts es (es ++ [(key, v)])

/-- One change to a document: its sections or the keys of one section are eased, or a section is begun. -/
inductive Rearranged : Entries → Entries → Prop
  | sections {es es' : Entries} (eased : Eased (fun name => known name ≠ []) es es') : Rearranged es es'
  | begin {es : Entries} (name : String) (o : Origin) (fresh : name ∉ es.map Prod.fst) :
      Rearranged es (es ++ [(name, .table o [])])
  | keys {before after sub sub' : Entries} {name : String} {o o' : Origin}
      (eased : Eased (· ∈ known name) sub sub') :
      Rearranged (before ++ (name, .table o sub) :: after) (before ++ (name, .table o' sub') :: after)

section Rearranging
variable {es es' : Entries} {counts : String → Prop} {name key : String}

theorem nodup_append_fresh {es : Entries} {key : String} (v : Value) (fresh : key ∉ es.map Prod.fst) :
    ((es ++ [(key, v)]).map Prod.fst).Nodup ↔ (es.map Prod.fst).Nodup := by
  rw [List.map_append, List.map_singleton, List.nodup_append]
  refine ⟨And.left, fun distinct => ⟨distinct, by simp, ?_⟩⟩
  rintro k mem _ last rfl
  rw [List.mem_singleton.mp last] at mem
  exact fresh mem

theorem Eased.distinct_iff (eased : Eased counts es es') : (es'.map Prod.fst).Nodup ↔ (es.map Prod.fst).Nodup := by
  cases eased with
  | reorder perm => exact (perm.map Prod.fst).nodup_iff.symm
  | add key v fresh other => exact nodup_append_fresh v fresh

theorem Eased.get? (eased : Eased counts es es') (distinct : (es.map Prod.fst).Nodup) (counted : counts key) :
    Entries.get? key es' = Entries.get? key es := by
  cases eased with
  | reorder perm => exact get?_perm distinct perm key
  | add other v fresh uncounted =>
    refine get?_append_other ?_ es v
    rintro rfl
    exact uncounted counted

theorem Rearranged.distinct_iff (changed : Rearranged es es') :
    (es'.map Prod.fst).Nodup ↔ (es.map Prod.fst).Nodup := by
  cases changed with
  | sections eased => exact eased.distinct_iff
  | begin name o fresh => exact nodup_append_fresh _ fresh
  | keys eased => simp only [List.map_append, List.map_cons]

def Related (name : String) (es es' : Entries) : Prop :=
  contents? name es' = contents? name es ∨
    ∃ sub sub', contents? name es = some sub ∧ contents? name es' = some sub' ∧ Eased (· ∈ known name) sub sub'

theorem Rearranged.related (changed : Rearranged es es') (distinct : (es.map Prod.fst).Nodup)
    (counts : known name ≠ []) : Related name es es' := by
  have distinct' := changed.distinct_iff.mpr distinct
  cases changed with
  | sections eased => exact .inl (contents?_congr (eased.get? distinct counts))
  | begin begun o fresh =>
    by_cases same : name = begun
    · subst same
      have empty := contents?_missing (get?_none_iff.mpr fresh)
      have begun := contents?_table ((get?_iff distinct').mpr (List.mem_append_right es List.mem_cons_self))
      exact .inl (begun.trans empty.symm)
    · exact .inl (contents?_congr (get?_append_other same es _))
  | @keys before after sub sub' changed o o' eased =>
    by_cases same : name = changed
    · subst same
      have middle : ∀ o sub, (name, Value.table o sub) ∈ before ++ (name, Value.table o sub) :: after :=
        fun o sub => List.mem_append_right before List.mem_cons_self
      exact .inr ⟨sub, sub', contents?_table ((get?_iff distinct).mpr (middle o sub)),
        contents?_table ((get?_iff distinct').mpr (middle o' sub')), eased⟩
    · exact .inl (contents?_congr (get?_middle_other same before after _ _))

structure Clear (es : Entries) : Prop where
  distinct : (es.map Prod.fst).Nodup
  sections : ∀ name, known name ≠ [] → ∀ sub ∈ contents? name es, (sub.map Prod.fst).Nodup

theorem clear_of_tidy (tidy : es.Tidy) : Clear es := by
  refine ⟨tidy.distinct, fun name counts sub found => ?_⟩
  unfold contents? at found
  split at found
  · cases found
    exact List.nodup_nil
  · next table =>
    cases found
    exact (Entries.Tidy.of_table (tidy.value table)).distinct
  · exact nomatch found

structure Alike (es es' : Entries) : Prop where
  clear : Clear es' ↔ Clear es
  tabled : Clear es → ∀ name, known name ≠ [] → (Tabled name es' ↔ Tabled name es)
  same : Clear es → ∀ name, ∀ key ∈ known name, at? name key es' = at? name key es

theorem alike_equivalence : Equivalence Alike where
  refl _ := ⟨.rfl, fun _ _ _ => .rfl, fun _ _ _ _ => rfl⟩
  symm alike := ⟨alike.clear.symm, fun clear name counts => (alike.tabled (alike.clear.mp clear) name counts).symm,
    fun clear name key counts => (alike.same (alike.clear.mp clear) name key counts).symm⟩
  trans first second := ⟨second.clear.trans first.clear,
    fun clear name counts =>
      (second.tabled (first.clear.mpr clear) name counts).trans (first.tabled clear name counts),
    fun clear name key counts =>
      (second.same (first.clear.mpr clear) name key counts).trans (first.same clear name key counts)⟩

theorem Rearranged.clear_iff (changed : Rearranged es es') : Clear es' ↔ Clear es := by
  constructor
  · intro clear
    have distinct := changed.distinct_iff.mp clear.distinct
    refine ⟨distinct, fun name counts sub found => ?_⟩
    rcases changed.related distinct counts with same | ⟨sub, sub', before, later, eased⟩
    · exact clear.sections name counts sub (same.trans found)
    · cases before.symm.trans found
      exact eased.distinct_iff.mp (clear.sections name counts sub' later)
  · intro clear
    refine ⟨changed.distinct_iff.mpr clear.distinct, fun name counts sub found => ?_⟩
    rcases changed.related clear.distinct counts with same | ⟨sub, sub', before, later, eased⟩
    · exact clear.sections name counts _ (same.symm.trans found)
    · cases later.symm.trans found
      exact eased.distinct_iff.mpr (clear.sections name counts sub before)

theorem Rearranged.alike (changed : Rearranged es es') : Alike es es' where
  clear := changed.clear_iff
  tabled clear name counts := by
    rcases changed.related clear.distinct counts with same | ⟨sub, sub', before, later, -⟩
    · rw [Tabled, same, Tabled]
    · rw [Tabled, Tabled, before, later]
      rfl
  same clear name key mem := by
    have counts : known name ≠ [] := List.ne_nil_of_mem mem
    rcases changed.related clear.distinct counts with same | ⟨sub, sub', before, later, eased⟩
    · rw [at?, same, at?]
    · rw [at?, at?, before, later]
      exact eased.get? (clear.sections name counts sub before) mem

theorem alike_of_rearranged (rearranged : Relation.EqvGen Rearranged es es') : Alike es es' :=
  alike_equivalence.eqvGen_iff.mp (rearranged.mono fun _ _ => Rearranged.alike)

end Rearranging

end Settings
end Leadership
