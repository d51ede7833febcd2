set_option autoImplicit false

namespace Leadership

/-- A string whose escapes denote no text, because half of a surrogate pair is missing, is
`none`. -/
inductive Json where
  | null
  | bool (value : Bool)
  | natural (value : Nat)
  | number (literal : String)
  | text (value : Option String)
  | array (items : List Json)
  | object (members : List (Option String × Json))

namespace Json

def str (s : String) : Json := .text (some s)

def record (members : List (String × Json)) : Json :=
  .object (members.map fun (name, value) => (some name, value))

def ofOption {α : Type} (f : α → Json) : Option α → Json
  | none => .null
  | some a => f a

def text? : Json → Option String
  | .text s => s
  | _ => none

def bool? : Json → Option Bool
  | .bool b => some b
  | _ => none

def countLimit : Nat := 0x10000000000000000

def count? : Json → Option Nat
  | .natural n => if n < countLimit then some n else none
  | _ => none

-- The value under a name, `none` if the name comes twice.
def member? (name : String) (members : List (Option String × Json)) : Option (Option Json) :=
  match members.filter fun m => m.1 == some name with
  | [] => some none
  | [m] => some (some m.2)
  | _ => none

def fields? (names : List String) : Json → Option (List (Option Json))
  | .object members =>
    if members.all fun m => m.1.isSome then names.mapM fun name => member? name members else none
  | .array items => if items.length = names.length then some (items.map some) else none
  | _ => none

def required? {α : Type} (read : Json → Option α) : Option Json → Option α
  | none => none
  | some j => read j

def optional? {α : Type} (read : Json → Option α) : Option Json → Option (Option α)
  | none | some .null => some none
  | some j => (read j).map some

end Json
end Leadership
