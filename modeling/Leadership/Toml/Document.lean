set_option autoImplicit false

namespace Leadership.Toml

inductive Origin where
  | header
  -- On the way to the table of a header.
  | path
  -- On the way to the key of a dotted key.
  | dotted
  | braces
deriving DecidableEq, Repr

inductive Value where
  | string (s : String)
  | scalar
  | moment
  | array (items : List Value)
  | table (origin : Origin) (entries : List (String × Value))
  | rows (tables : List (List (String × Value)))

abbrev Entries := List (String × Value)

inductive Statement where
  | header (path : List String)
  | rowHeader (path : List String)
  | assign (path : List String) (key : String) (value : Value)

namespace Entries

def get? (key : String) (es : Entries) : Option Value := es.lookup key

def put (key : String) (v : Value) (es : Entries) : Entries :=
  es.map fun e => if e.1 = key then (key, v) else e

end Entries

def editLast {α : Type} (edit : α → Option α) : List α → Option (List α)
  | [] => none
  | [a] => (edit a).map fun a => [a]
  | a :: as => (editLast edit as).map (a :: ·)

-- Goes to a table that is there already; of several rows, to the last one.
def inside (edit : Entries → Option Entries) : List String → Entries → Option Entries
  | [], es => edit es
  | k :: ks, es =>
    match Entries.get? k es with
    | some (.table o sub) => (inside edit ks sub).map fun sub => Entries.put k (.table o sub) es
    | some (.rows ts) => (editLast (inside edit ks) ts).map fun ts => Entries.put k (.rows ts) es
    | _ => none

def toParent (edit : Entries → Option Entries) : List String → Entries → Option Entries
  | [], es => edit es
  | k :: ks, es =>
    match Entries.get? k es with
    | none => (toParent edit ks []).map fun sub => es ++ [(k, .table .path sub)]
    | some (.table o sub) =>
      if o = .braces then none
      else (toParent edit ks sub).map fun sub => Entries.put k (.table o sub) es
    | some (.rows ts) => (editLast (toParent edit ks) ts).map fun ts => Entries.put k (.rows ts) es
    | _ => none

/-- A table can be opened once; one that was only on the way to others can be opened later. -/
def openTable (key : String) (es : Entries) : Option Entries :=
  match Entries.get? key es with
  | none => some (es ++ [(key, .table .header [])])
  | some (.table .path sub) => some (Entries.put key (.table .header sub) es)
  | _ => none

def openRow (key : String) (es : Entries) : Option Entries :=
  match Entries.get? key es with
  | none => some (es ++ [(key, .rows [[]])])
  | some (.rows ts) => some (Entries.put key (.rows (ts ++ [[]])) es)
  | _ => none

def insert (key : String) (v : Value) (es : Entries) : Option Entries :=
  match Entries.get? key es with
  | none => some (es ++ [(key, v)])
  | some _ => none

/-- Puts a value under a dotted key. Tables with a header are closed to dotted keys, and the table
that gets the value must itself come from dotted keys. -/
def assign (key : String) (v : Value) : List String → Entries → Option Entries
  | [], es => insert key v es
  | k :: ks, es =>
    match Entries.get? k es with
    | none => (assign key v ks []).map fun sub => es ++ [(k, .table .dotted sub)]
    | some (.table o sub) =>
      if o = .dotted ∨ (o = .path ∧ ks ≠ []) then
        (assign key v ks sub).map fun sub => Entries.put k (.table o sub) es
      else none
    | some (.rows ts) =>
      if ks = [] then none
      else (editLast (assign key v ks) ts).map fun ts => Entries.put k (.rows ts) es
    | _ => none

def ofAssignments : List (List String × String × Value) → Option Entries :=
  List.foldlM (fun es (path, key, v) => assign key v path es) []

structure Builder where
  root : Entries := []
  current : List String := []

namespace Builder

def add (b : Builder) : Statement → Option Builder
  | .header path =>
    match path.getLast? with
    | none => none
    | some key => (toParent (openTable key) path.dropLast b.root).map fun root => ⟨root, path⟩
  | .rowHeader path =>
    match path.getLast? with
    | none => none
    | some key => (toParent (openRow key) path.dropLast b.root).map fun root => ⟨root, path⟩
  | .assign path key v =>
    (inside (assign key v path) b.current b.root).map fun root => { b with root := root }

end Builder

def build? (statements : List Statement) : Option Entries :=
  (statements.foldlM Builder.add {}).map Builder.root

end Leadership.Toml
