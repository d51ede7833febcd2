import Leadership.Diagnostics.Directive

set_option autoImplicit false

namespace Leadership.Diagnostics

abbrev Filter := List Directive

def parts (s : String) : List (List Char) :=
  (s.toList.splitOn ',').filter fun cs => !cs.isEmpty

def withFallback (rank : Nat) (ds : List Directive) : Filter :=
  if ds.isEmpty then [{ rank := rank }] else ds

def strict? (s : String) : Option Filter := ((parts s).mapM directive?).map (withFallback 0)

-- Skips what is not well formed. With nothing left, errors are written.
def lenient (s : String) : Filter := withFallback 1 ((parts s).filterMap directive?)

namespace Directive

def concerns (d : Directive) (target : String) : Bool :=
  !d.spanned && !d.field.any (·.valued) && (d.target.getD "").toList.isPrefixOf target.toList

def reach (d : Directive) : Nat :=
  match d.target with
  | none => 0
  | some t => t.utf8ByteSize + 1

def fieldName (d : Directive) : String := (d.field.map Field.name).getD ""

/-- A longer target goes before a shorter one, then a field before none and the later of two names
before the earlier; of equals, the last one given goes first. -/
def yields (d e : Directive) : Bool :=
  decide (d.reach < e.reach ∨ (d.reach = e.reach ∧ d.fieldName ≤ e.fieldName))

end Directive

def first (ds : List Directive) : Directive :=
  let silence : Directive := { rank := 0 }
  ds.foldl (fun best d => if best.yields d then d else best) silence

def rankFor (f : Filter) (target : String) : Nat :=
  (first (List.filter (fun d => d.concerns target) f)).rank

def enabled (f : Filter) (target : String) (l : Level) : Bool := decide (l.rank ≤ rankFor f target)

end Leadership.Diagnostics
