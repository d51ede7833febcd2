import Leadership.Diagnostics.Filter

set_option autoImplicit false

namespace Leadership.Diagnostics

inductive Layout where
  | pretty
  | compact
deriving DecidableEq, Repr

namespace Layout

def name : Layout → String
  | .pretty => "pretty"
  | .compact => "compact"

def ofFormat (format : String) : Layout := if format = "compact" then .compact else .pretty

end Layout

structure Sink where
  filter : Filter
  layout : Layout
deriving DecidableEq

namespace Sink

/-- A setting of the environment goes before the configured level, if it is well formed. -/
def make (level format : String) (setting : Option String) : Sink :=
  ⟨(setting.bind strict?).getD (lenient level), .ofFormat format⟩

def install (s : Sink) : Option Sink → Except Fault Sink
  | none => .ok s
  | some _ => .error (.logging "a sink is already installed")

end Sink
end Leadership.Diagnostics
