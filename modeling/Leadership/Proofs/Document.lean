import Leadership.Toml.Reader

set_option autoImplicit false

namespace Leadership.Toml

/-- A value is tidy if the keys of every table in it are distinct. -/
inductive Value.Tidy : Value → Prop
  | string (s : String) : Tidy (.string s)
  | scalar : Tidy .scalar
  | moment : Tidy .moment
  | array {items : List Value} (inner : ∀ v ∈ items, Tidy v) : Tidy (.array items)
  | table {origin : Origin} {es : List (String × Value)} (distinct : (es.map Prod.fst).Nodup)
      (inner : ∀ e ∈ es, Tidy e.2) : Tidy (.table origin es)
  | rows {ts : List (List (String × Value))} (distinct : ∀ t ∈ ts, (t.map Prod.fst).Nodup)
      (inner : ∀ t ∈ ts, ∀ e ∈ t, Tidy e.2) : Tidy (.rows ts)

namespace Entries

structure Tidy (es : Entries) : Prop where
  distinct : (es.map Prod.fst).Nodup
  inner : ∀ e ∈ es, e.2.Tidy

def Keeps (edit : Entries → Option Entries) : Prop := ∀ es es', Tidy es → edit es = some es' → Tidy es'

variable {es sub : Entries} {k : String} {v : Value} {o : Origin}

theorem mem_of_get? (found : get? k es = some v) : (k, v) ∈ es := by
  obtain ⟨before, after, rfl, -⟩ := List.lookup_eq_some_iff.mp found
  simp

theorem get?_none_iff : get? k es = none ↔ k ∉ es.map Prod.fst := by
  induction es with
  | nil => simp [get?]
  | cons e es ih =>
    obtain ⟨key, v⟩ := e
    simp only [get?] at ih ⊢
    rw [List.lookup_cons, List.map_cons, List.mem_cons, not_or, ← ih]
    by_cases same : k = key
    · simp [same]
    · simp [same, beq_false_of_ne same]

theorem tidy_nil : Tidy [] := ⟨List.nodup_nil, nofun⟩

theorem Tidy.value (tidy : Tidy es) (found : get? k es = some v) : v.Tidy := tidy.inner _ (mem_of_get? found)

theorem Tidy.table (tidy : Tidy es) : (Value.table o es).Tidy := .table tidy.distinct tidy.inner

theorem Tidy.of_table (tidy : (Value.table o sub).Tidy) : Tidy sub := by
  cases tidy with
  | table distinct inner => exact ⟨distinct, inner⟩

theorem tidy_rows {ts : List Entries} (tidy : ∀ t ∈ ts, Tidy t) : (Value.rows ts).Tidy :=
  .rows (fun t mem => (tidy t mem).distinct) fun t mem => (tidy t mem).inner

theorem tidy_of_rows {ts : List Entries} (tidy : (Value.rows ts).Tidy) : ∀ t ∈ ts, Tidy t := by
  cases tidy with
  | rows distinct inner => exact fun t mem => ⟨distinct t mem, inner t mem⟩

theorem put_keys (k : String) (v : Value) (es : Entries) : (put k v es).map Prod.fst = es.map Prod.fst := by
  rw [put, List.map_map]
  refine List.map_congr_left fun e mem => ?_
  simp only [Function.comp]
  split
  · next same => exact same.symm
  · rfl

theorem Tidy.put (tidy : Tidy es) (value : v.Tidy) : Tidy (put k v es) := by
  refine ⟨by rw [put_keys]; exact tidy.distinct, fun e mem => ?_⟩
  obtain ⟨e', mem', rfl⟩ := List.mem_map.mp mem
  split
  · exact value
  · exact tidy.inner e' mem'

theorem Tidy.append (tidy : Tidy es) (missing : get? k es = none) (value : v.Tidy) : Tidy (es ++ [(k, v)]) := by
  constructor
  · rw [List.map_append, List.map_singleton]
    refine List.nodup_append.mpr ⟨tidy.distinct, by simp, ?_⟩
    rintro key mem _ last rfl
    rw [List.mem_singleton.mp last] at mem
    exact get?_none_iff.mp missing mem
  · intro e mem
    rcases List.mem_append.mp mem with mem | last
    · exact tidy.inner e mem
    · rw [List.mem_singleton.mp last]
      exact value

end Entries

open Entries (Keeps)

theorem editLast_keeps {α : Type} {edit : α → Option α} {good : α → Prop}
    (keeps : ∀ a a', good a → edit a = some a' → good a') {as as' : List α} (all : ∀ a ∈ as, good a)
    (edited : editLast edit as = some as') : ∀ a ∈ as', good a := by
  induction as generalizing as' with
  | nil => exact nomatch edited
  | cons a as ih =>
    have first : good a := all a List.mem_cons_self
    cases as with
    | nil =>
      obtain ⟨a', made, rfl⟩ := Option.map_eq_some_iff.mp edited
      exact List.forall_mem_singleton.mpr (keeps a a' first made)
    | cons b bs =>
      obtain ⟨rest, more, rfl⟩ := Option.map_eq_some_iff.mp edited
      exact List.forall_mem_cons.mpr ⟨first, ih (fun a mem => all a (List.mem_cons_of_mem _ mem)) more⟩

theorem inside_keeps {edit : Entries → Option Entries} (keeps : Keeps edit) (path : List String) :
    Keeps (inside edit path) := by
  induction path with
  | nil => exact keeps
  | cons k ks ih =>
    intro es es' tidy edited
    simp only [inside] at edited
    split at edited
    · next o sub found =>
      obtain ⟨sub', made, rfl⟩ := Option.map_eq_some_iff.mp edited
      exact tidy.put (ih sub sub' (.of_table (tidy.value found)) made).table
    · next ts found =>
      obtain ⟨ts', made, rfl⟩ := Option.map_eq_some_iff.mp edited
      exact tidy.put (Entries.tidy_rows (editLast_keeps ih (Entries.tidy_of_rows (tidy.value found)) made))
    · exact nomatch edited

theorem toParent_keeps {edit : Entries → Option Entries} (keeps : Keeps edit) (path : List String) :
    Keeps (toParent edit path) := by
  induction path with
  | nil => exact keeps
  | cons k ks ih =>
    intro es es' tidy edited
    simp only [toParent] at edited
    split at edited
    · next missing =>
      obtain ⟨sub, made, rfl⟩ := Option.map_eq_some_iff.mp edited
      exact tidy.append missing (ih [] sub Entries.tidy_nil made).table
    · next o sub found =>
      split at edited
      · exact nomatch edited
      · obtain ⟨sub', made, rfl⟩ := Option.map_eq_some_iff.mp edited
        exact tidy.put (ih sub sub' (.of_table (tidy.value found)) made).table
    · next ts found =>
      obtain ⟨ts', made, rfl⟩ := Option.map_eq_some_iff.mp edited
      exact tidy.put (Entries.tidy_rows (editLast_keeps ih (Entries.tidy_of_rows (tidy.value found)) made))
    · exact nomatch edited

theorem openTable_keeps (key : String) : Keeps (openTable key) := by
  intro es es' tidy opened
  unfold openTable at opened
  split at opened
  · next missing =>
    obtain rfl := Option.some.inj opened
    exact tidy.append missing Entries.tidy_nil.table
  · next sub found =>
    obtain rfl := Option.some.inj opened
    exact tidy.put (Entries.Tidy.of_table (tidy.value found)).table
  · exact nomatch opened

theorem openRow_keeps (key : String) : Keeps (openRow key) := by
  intro es es' tidy opened
  unfold openRow at opened
  split at opened
  · next missing =>
    obtain rfl := Option.some.inj opened
    exact tidy.append missing (Entries.tidy_rows (List.forall_mem_singleton.mpr Entries.tidy_nil))
  · next ts found =>
    obtain rfl := Option.some.inj opened
    refine tidy.put (Entries.tidy_rows fun t mem => ?_)
    rcases List.mem_append.mp mem with mem | last
    · exact Entries.tidy_of_rows (tidy.value found) t mem
    · rw [List.mem_singleton.mp last]
      exact Entries.tidy_nil
  · exact nomatch opened

theorem insert_keeps (key : String) {v : Value} (value : v.Tidy) : Keeps (insert key v) := by
  intro es es' tidy inserted
  unfold insert at inserted
  split at inserted
  · next missing =>
    obtain rfl := Option.some.inj inserted
    exact tidy.append missing value
  · exact nomatch inserted

theorem assign_keeps (key : String) {v : Value} (value : v.Tidy) (path : List String) :
    Keeps (assign key v path) := by
  induction path with
  | nil => exact insert_keeps key value
  | cons k ks ih =>
    intro es es' tidy assigned
    simp only [assign] at assigned
    split at assigned
    · next missing =>
      obtain ⟨sub, made, rfl⟩ := Option.map_eq_some_iff.mp assigned
      exact tidy.append missing (ih [] sub Entries.tidy_nil made).table
    · next o sub found =>
      split at assigned
      · obtain ⟨sub', made, rfl⟩ := Option.map_eq_some_iff.mp assigned
        exact tidy.put (ih sub sub' (.of_table (tidy.value found)) made).table
      · exact nomatch assigned
    · next ts found =>
      split at assigned
      · exact nomatch assigned
      · obtain ⟨ts', made, rfl⟩ := Option.map_eq_some_iff.mp assigned
        exact tidy.put (Entries.tidy_rows (editLast_keeps ih (Entries.tidy_of_rows (tidy.value found)) made))
    · exact nomatch assigned

theorem foldlM_keeps {α σ : Type} {step : σ → α → Option σ} {good : σ → Prop} {fine : α → Prop}
    (keeps : ∀ s a s', good s → fine a → step s a = some s' → good s') {as : List α} (all : ∀ a ∈ as, fine a)
    {s s' : σ} (start : good s) (done : as.foldlM step s = some s') : good s' := by
  induction as generalizing s with
  | nil => exact Option.some.inj done ▸ start
  | cons a as ih =>
    obtain ⟨next, made, rest⟩ := Option.bind_eq_some_iff.mp done
    have first := keeps s a next start (all a List.mem_cons_self) made
    exact ih (fun a mem => all a (List.mem_cons_of_mem _ mem)) first rest

theorem ofAssignments_tidy {ps : List (List String × String × Value)} (values : ∀ p ∈ ps, p.2.2.Tidy) {es : Entries}
    (built : ofAssignments ps = some es) : es.Tidy := by
  refine foldlM_keeps ?_ values Entries.tidy_nil built
  intro es p es' tidy value assigned
  exact assign_keeps p.2.1 value p.1 es es' tidy assigned

theorem scalar?_tidy {cs rest : List Char} {v : Value} (read : scalar? cs = some (v, rest)) : v.Tidy := by
  unfold scalar? at read
  split at read
  · cases read
    exact .scalar
  · cases read
    exact .scalar
  · split at read
    · cases read
      exact .moment
    · obtain ⟨rest, -, same⟩ := Option.map_eq_some_iff.mp read
      cases same
      exact .scalar

structure TidyReading (fuel : Nat) : Prop where
  value : ∀ {depth cs v rest}, value? depth fuel cs = some (v, rest) → v.Tidy
  items : ∀ {depth cs vs rest}, items? depth fuel cs = some (vs, rest) → ∀ v ∈ vs, v.Tidy
  pairs : ∀ {depth cs ps rest}, pairs? depth fuel cs = some (ps, rest) → ∀ p ∈ ps, p.2.2.Tidy

theorem value?_tidy {fuel : Nat} (deeper : TidyReading fuel) {depth : Nat} {cs rest : List Char} {v : Value}
    (read : value? depth (fuel + 1) cs = some (v, rest)) : v.Tidy := by
  unfold value? at read
  split at read
  · obtain ⟨⟨s, rest⟩, -, same⟩ := Option.map_eq_some_iff.mp read
    cases same
    exact .string s
  · obtain ⟨⟨s, rest⟩, -, same⟩ := Option.map_eq_some_iff.mp read
    cases same
    exact .string s
  · split at read
    · exact nomatch read
    · obtain ⟨⟨vs, rest⟩, inner, same⟩ := Option.map_eq_some_iff.mp read
      cases same
      exact .array (deeper.items inner)
  · split at read
    · exact nomatch read
    · split at read
      · cases read
        exact Entries.tidy_nil.table
      · obtain ⟨⟨ps, rest⟩, inner, made⟩ := Option.bind_eq_some_iff.mp read
        obtain ⟨es, built, same⟩ := Option.map_eq_some_iff.mp made
        cases same
        exact (ofAssignments_tidy (deeper.pairs inner) built).table
  · exact scalar?_tidy read

theorem items?_tidy {fuel : Nat} (deeper : TidyReading fuel) {depth : Nat} {cs rest : List Char} {vs : List Value}
    (read : items? depth (fuel + 1) cs = some (vs, rest)) : ∀ v ∈ vs, v.Tidy := by
  unfold items? at read
  split at read
  · cases read
    exact nofun
  · split at read
    · exact nomatch read
    · next v rest first =>
      split at read
      · obtain ⟨⟨vs, rest⟩, more, same⟩ := Option.map_eq_some_iff.mp read
        cases same
        exact List.forall_mem_cons.mpr ⟨deeper.value first, deeper.items more⟩
      · cases read
        exact List.forall_mem_singleton.mpr (deeper.value first)
      · exact nomatch read

theorem pairs?_tidy {fuel : Nat} (deeper : TidyReading fuel) {depth : Nat} {cs rest : List Char}
    {ps : List (List String × String × Value)} (read : pairs? depth (fuel + 1) cs = some (ps, rest)) :
    ∀ p ∈ ps, p.2.2.Tidy := by
  unfold pairs? at read
  split at read
  · exact nomatch read
  · split at read
    · next k v rest _ first =>
      split at read
      · obtain ⟨⟨ps, rest⟩, more, same⟩ := Option.map_eq_some_iff.mp read
        cases same
        exact List.forall_mem_cons.mpr ⟨deeper.value first, deeper.pairs more⟩
      · cases read
        exact List.forall_mem_singleton.mpr (deeper.value first)
      · exact nomatch read
    · exact nomatch read
  · exact nomatch read

theorem tidy_reading (fuel : Nat) : TidyReading fuel := by
  induction fuel with
  | zero => constructor <;> intro _ _ _ _ read <;> simp [value?, items?, pairs?] at read
  | succ fuel ih => exact ⟨value?_tidy ih, items?_tidy ih, pairs?_tidy ih⟩

def Statement.Tidy : Statement → Prop
  | .assign _ _ v => v.Tidy
  | _ => True

theorem statement?_tidy {cs rest : List Char} {st : Statement} (read : statement? cs = some (st, rest)) :
    st.Tidy := by
  unfold statement? at read
  split at read
  · split at read
    · obtain ⟨rest, -, same⟩ := Option.map_eq_some_iff.mp read
      cases same
      trivial
    · exact nomatch read
  · split at read
    · obtain ⟨rest, -, same⟩ := Option.map_eq_some_iff.mp read
      cases same
      trivial
    · exact nomatch read
  · split at read
    · split at read
      · next value =>
        obtain ⟨rest, -, same⟩ := Option.map_eq_some_iff.mp read
        cases same
        exact (tidy_reading _).value value
      · exact nomatch read
    · exact nomatch read

theorem statements?_tidy (fuel : Nat) {cs : List Char} {sts : List Statement}
    (read : statements? fuel cs = some sts) : ∀ st ∈ sts, st.Tidy := by
  induction fuel generalizing cs sts with
  | zero => exact nomatch read
  | succ fuel ih =>
    unfold statements? at read
    split at read
    · cases read
      exact nofun
    · split at read
      · exact ih read
      · split at read
        · exact nomatch read
        · next st rest first =>
          obtain ⟨sts, more, rfl⟩ := Option.map_eq_some_iff.mp read
          exact List.forall_mem_cons.mpr ⟨statement?_tidy first, ih more⟩

theorem add_tidy (b : Builder) (st : Statement) (b' : Builder) (tidy : b.root.Tidy) (fine : st.Tidy)
    (added : b.add st = some b') : b'.root.Tidy := by
  cases st with
  | header path =>
    simp only [Builder.add] at added
    split at added
    · exact nomatch added
    · next key last =>
      obtain ⟨root, made, rfl⟩ := Option.map_eq_some_iff.mp added
      exact toParent_keeps (openTable_keeps key) path.dropLast b.root root tidy made
  | rowHeader path =>
    simp only [Builder.add] at added
    split at added
    · exact nomatch added
    · next key last =>
      obtain ⟨root, made, rfl⟩ := Option.map_eq_some_iff.mp added
      exact toParent_keeps (openRow_keeps key) path.dropLast b.root root tidy made
  | assign path key v =>
    obtain ⟨root, made, rfl⟩ := Option.map_eq_some_iff.mp added
    exact inside_keeps (assign_keeps key fine path) b.current b.root root tidy made

theorem ofText?_tidy {s : String} {es : Entries} (read : ofText? s = some es) : es.Tidy := by
  obtain ⟨sts, statements, built⟩ := Option.bind_eq_some_iff.mp read
  obtain ⟨b, folded, rfl⟩ := Option.map_eq_some_iff.mp built
  have all := statements?_tidy _ statements
  exact foldlM_keeps add_tidy all Entries.tidy_nil folded

end Leadership.Toml
