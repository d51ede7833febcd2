import Leadership.Json.Value

set_option autoImplicit false

namespace Leadership.Json

def escapeChar (c : Char) : String :=
  if c = '"' then "\\\""
  else if c = '\\' then "\\\\"
  else if c.toNat < 32 then
    let ds := Nat.toDigits 16 c.toNat
    "\\u" ++ String.ofList (List.replicate (4 - ds.length) '0' ++ ds)
  else c.toString

def quote (s : String) : String := "\"" ++ s.foldl (fun acc c => acc ++ escapeChar c) "" ++ "\""

mutual

def render : Json → String
  | .null => "null"
  | .bool b => if b then "true" else "false"
  | .natural n => toString n
  | .number literal => literal
  | .text s => quote (s.getD "")
  | .array items => "[" ++ renderItems items ++ "]"
  | .object members => "\x7b" ++ renderMembers members ++ "\x7d"

def renderItems : List Json → String
  | [] => ""
  | [j] => render j
  | j :: js => render j ++ "," ++ renderItems js

def renderMembers : List (Option String × Json) → String
  | [] => ""
  | [(name, j)] => quote (name.getD "") ++ ":" ++ render j
  | (name, j) :: ms => quote (name.getD "") ++ ":" ++ render j ++ "," ++ renderMembers ms

end

end Leadership.Json
