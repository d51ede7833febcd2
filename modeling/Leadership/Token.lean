import Leadership.Text.Digits

set_option autoImplicit false

namespace Leadership

def Token.limit : Nat := 0x100000000000000000000000000000000

structure Token where
  value : Nat
  value_lt : value < Token.limit
deriving DecidableEq

namespace Token

def zero : Token := ⟨0, by decide⟩

def ofNat? (n : Nat) : Option Token :=
  if h : n < limit then some ⟨n, h⟩ else none

instance : LE Token := ⟨fun a b => a.value ≤ b.value⟩
instance : LT Token := ⟨fun a b => a.value < b.value⟩
instance (a b : Token) : Decidable (a ≤ b) := inferInstanceAs (Decidable (a.value ≤ b.value))
instance (a b : Token) : Decidable (a < b) := inferInstanceAs (Decidable (a.value < b.value))

def sort (ts : List Token) : List Token := ts.mergeSort fun a b => decide (a ≤ b)

def digit (n : Nat) : Char :=
  if n < 10 then Char.ofNat (48 + n) else Char.ofNat (87 + n)

def digits : Nat → Nat → List Char
  | 0, _ => []
  | n + 1, v => digits n (v / 16) ++ [digit (v % 16)]

def groups : List Nat := [8, 4, 4, 4, 12]

def hyphenate : List Nat → List Char → List Char
  | [], cs => cs
  | [_], cs => cs
  | n :: ns, cs => cs.take n ++ '-' :: hyphenate ns (cs.drop n)

def unhyphenate? : List Nat → List Char → Option (List Char)
  | [], cs => some cs
  | [_], cs => some cs
  | n :: ns, cs =>
    match cs.drop n with
    | '-' :: rest => (unhyphenate? ns rest).map (cs.take n ++ ·)
    | _ => none

def text (t : Token) : String := String.ofList (hyphenate groups (digits 32 t.value))

inductive Spelling where
  | plain
  | hyphenated
  | braced
  | urn
deriving DecidableEq, Repr

def urnLead : List Char := "urn:uuid:".toList

def lower (c : Char) : Char :=
  if 65 ≤ c.toNat ∧ c.toNat ≤ 90 then Char.ofNat (c.toNat + 32) else c

/-- The 32 digits of a spelling; the length alone tells which spelling it is. -/
def body? (cs : List Char) : Option (List Char) :=
  if cs.length = 32 then some cs
  else if cs.length = 36 then unhyphenate? groups cs
  else if cs.length = 38 then
    if cs.head? = some '\x7b' ∧ cs.getLast? = some '\x7d'
    then unhyphenate? groups (cs.drop 1).dropLast else none
  else if cs.length = 45 then
    if (cs.take 9).map lower = urnLead then unhyphenate? groups (cs.drop 9) else none
  else none

def ofText? (s : String) : Option Token :=
  ((body? s.toList).bind (Text.readHex? 0)).bind ofNat?

def spell (t : Token) : Spelling → String
  | .plain => String.ofList (digits 32 t.value)
  | .hyphenated => t.text
  | .braced => String.ofList ('\x7b' :: hyphenate groups (digits 32 t.value) ++ ['\x7d'])
  | .urn => String.ofList (urnLead ++ hyphenate groups (digits 32 t.value))

end Token
end Leadership
