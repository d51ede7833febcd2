set_option autoImplicit false

namespace Leadership

inductive Pattern.Flag where
  | ignoreCase
  | manyLines
  | dotAll
  | swapGreed
  | unicode
  | crlf
  | verbose
deriving DecidableEq, Repr

abbrev Pattern.Flags := List (Pattern.Flag × Bool)

structure Pattern.Literal where
  char : Char
  byte : Bool := false
deriving DecidableEq, Repr

inductive Pattern.Members where
  | nothing
  | literal (l : Pattern.Literal)
  | range (first last : Pattern.Literal)
  | named (negated : Bool)
  | shorthand (negated : Bool)
  | property
  | nested (negated : Bool) (members : Pattern.Members)
  | union (all : List Pattern.Members)
  | combined (a b : Pattern.Members)

inductive Pattern where
  | empty
  | switch (flags : Pattern.Flags)
  | literal (l : Pattern.Literal)
  | dot
  | edge
  | wordEdge
  | property
  | shorthand (negated : Bool)
  | set (negated : Bool) (members : Pattern.Members)
  | repeated (p : Pattern)
  | group (flags : Pattern.Flags) (p : Pattern)
  | choice (ps : List Pattern)
  | sequence (ps : List Pattern)

namespace Pattern

namespace Members

def ofList : List Members → Members
  | [] => .nothing
  | [m] => m
  | ms => .union ms

def combine : Option Members → Members → Members
  | none, m => m
  | some a, m => .combined a m

mutual

def depth : Members → Nat
  | .nested _ m => m.depth + 1
  | .union ms => depthAll ms + 1
  | .combined a b => max a.depth b.depth + 1
  | _ => 0

def depthAll : List Members → Nat
  | [] => 0
  | m :: ms => max m.depth (depthAll ms)

end

end Members

def ofItems : List Pattern → Pattern
  | [] => .empty
  | [p] => p
  | ps => .sequence ps

def ofBranches : List Pattern → Pattern
  | [p] => p
  | ps => .choice ps

mutual

def depth : Pattern → Nat
  | .set _ m => m.depth + 1
  | .repeated p | .group _ p => p.depth + 1
  | .choice ps | .sequence ps => depthAll ps + 1
  | _ => 0

def depthAll : List Pattern → Nat
  | [] => 0
  | p :: ps => max p.depth (depthAll ps)

end

end Pattern
end Leadership
