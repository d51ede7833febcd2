import Leadership.Pattern.Syntax

set_option autoImplicit false

namespace Leadership.Pattern

structure Mode where
  unicode : Bool := true
  ignoreCase : Bool := false
deriving DecidableEq

namespace Mode

def set (m : Mode) : Flag × Bool → Mode
  | (.unicode, on) => { m with unicode := on }
  | (.ignoreCase, on) => { m with ignoreCase := on }
  | _ => m

def switch (m : Mode) (flags : Flags) : Mode := flags.foldl set m

-- A byte past ASCII is no character by itself.
def literal (m : Mode) (l : Literal) : Bool :=
  if m.unicode then !m.ignoreCase else !(l.byte && decide (128 ≤ l.char.toNat))

def member (m : Mode) (l : Literal) : Bool :=
  if m.unicode then !m.ignoreCase else decide (l.char.toNat < 128)

end Mode

mutual

def Members.supported (mode : Mode) : Members → Bool
  | .nothing => true
  | .literal l => mode.member l
  | .range a b => mode.member a && mode.member b
  | .named negated => if mode.unicode then !mode.ignoreCase else !negated
  | .shorthand negated => !mode.unicode && !negated
  | .property => false
  | .nested negated m => m.supported mode && !(negated && !mode.unicode)
  | .union ms => Members.allSupported mode ms
  | .combined a b => a.supported mode && b.supported mode

def Members.allSupported (mode : Mode) : List Members → Bool
  | [] => true
  | m :: ms => m.supported mode && Members.allSupported mode ms

end

mutual

/-- The mode after a pattern that is supported; flags switched in a group end with it. -/
def supported? (mode : Mode) : Pattern → Option Mode
  | .empty | .edge => some mode
  | .switch flags => some (mode.switch flags)
  | .literal l => if mode.literal l then some mode else none
  | .dot => if mode.unicode then some mode else none
  | .wordEdge => if mode.unicode then none else some mode
  | .property => none
  | .shorthand negated => if mode.unicode || negated then none else some mode
  | .set negated m =>
    if m.supported mode && !(negated && !mode.unicode) then some mode else none
  | .repeated p => supported? mode p
  | .group flags p => (supported? (mode.switch flags) p).map fun _ => mode
  | .choice ps | .sequence ps => allSupported? mode ps

def allSupported? (mode : Mode) : List Pattern → Option Mode
  | [] => some mode
  | p :: ps => (supported? mode p).bind fun mode => allSupported? mode ps

end

def depthLimit : Nat := 250

def usable (p : Pattern) : Bool := decide (p.depth ≤ depthLimit) && (supported? {} p).isSome

end Leadership.Pattern
