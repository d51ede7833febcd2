import Leadership.Diagnostics.Sink
import Leadership.Executor.Kind
import Leadership.Text.Blank
import Leadership.Toml.Reader

set_option autoImplicit false

namespace Leadership

inductive Mode where
  | parallel
  | serial
deriving DecidableEq, Repr

namespace Mode

def name : Mode → String
  | .parallel => "parallel"
  | .serial => "serial"

def ofName? (s : String) : Option Mode :=
  if s = "parallel" then some .parallel
  else if s = "serial" then some .serial
  else none

def executor : Mode → Executor
  | .parallel => .parallel
  | .serial => .serial

def start? (m : Mode) (hasRuntime : Bool) : Except Fault Executor :=
  if hasRuntime then .ok m.executor else .error .noRuntime

end Mode

structure Settings where
  executor : Mode := .parallel
  level : String := "info"
  format : String := "pretty"
deriving DecidableEq, Repr

namespace Settings

open Toml

-- The fields of a section by name. A date or a time has none; a list gives them in order, and may
-- be too short or too long.
def fields? (names : List String) : Value → Option (List (Option Value))
  | .table _ es => some (names.map fun name => Entries.get? name es)
  | .moment => some (names.map fun _ => none)
  | .array items => some (names.zipIdx.map fun (_, i) => items[i]?)
  | .rows ts => some (names.zipIdx.map fun (_, i) => (ts[i]?).map (.table .header))
  | _ => none

-- A name, or a table with the name as its only key and an empty table or list under it.
def mode? : Value → Option Mode
  | .string s => Mode.ofName? s
  | .table _ [(name, .table _ [])] | .table _ [(name, .array [])] => Mode.ofName? name
  | _ => none

def string? : Value → Option String
  | .string s => some s
  | _ => none

def orDefault {α : Type} (read : Value → Option α) (default : α) : Option Value → Option α
  | none => some default
  | some v => read v

def service? : Option Value → Option Mode
  | none => some .parallel
  | some v =>
    match fields? ["executor"] v with
    | some [executor] => orDefault mode? .parallel executor
    | _ => none

def logging? : Option Value → Option (String × String)
  | none => some ("info", "pretty")
  | some v =>
    match fields? ["level", "format"] v with
    | some [level, format] => do
      let level ← orDefault string? "info" level
      let format ← orDefault string? "pretty" format
      some (level, format)
    | _ => none

def ofEntries? (es : Entries) : Option Settings := do
  let executor ← service? (Entries.get? "service" es)
  let (level, format) ← logging? (Entries.get? "logging" es)
  some ⟨executor, level, format⟩

def validate (c : Settings) : Except Fault Unit :=
  if Text.allBlank c.level then .error (.config "logging.level cannot be empty")
  else if c.format = "pretty" ∨ c.format = "compact" then .ok ()
  else .error (.config ("logging.format must be 'pretty' or 'compact', got '" ++ c.format ++ "'"))

def checked (c : Settings) : Except Fault Settings :=
  match c.validate with
  | .ok _ => .ok c
  | .error f => .error f

def ofEntries (es : Entries) : Except Fault Settings :=
  match ofEntries? es with
  | none => .error (.configParse "a value is of the wrong kind")
  | some c => c.checked

def ofText (s : String) : Except Fault Settings :=
  match Toml.ofText? s with
  | none => .error (.configParse "the text is no document")
  | some es => ofEntries es

def sink (c : Settings) (setting : Option String) : Diagnostics.Sink :=
  .make c.level c.format setting

inductive File where
  | bytes (content : ByteArray)
  | missing
  | directory
  | belowFile

def File.read : File → Except Fault String
  | .missing => .error (.io (Fault.osText 2))
  | .directory => .error (.io (Fault.osText 21))
  | .belowFile => .error (.io (Fault.osText 20))
  | .bytes content =>
    match String.fromUTF8? content with
    | some s => .ok s
    | none => .error (.io "stream did not contain valid UTF-8")

def ofFile (f : File) : Except Fault Settings :=
  match f.read with
  | .ok s => ofText s
  | .error fault => .error fault

end Settings
end Leadership
