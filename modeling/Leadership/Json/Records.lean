import Leadership.Json.Value
import Leadership.Election.Summary

set_option autoImplicit false

namespace Leadership

namespace Token

def toJson (t : Token) : Json := .str t.text

def ofJson? (j : Json) : Option Token := j.text?.bind ofText?

end Token

namespace Instant

def toJson (i : Instant) : Json := .str i.text

def ofJson? (j : Json) : Option Instant := j.text?.bind ofText?

end Instant

namespace Leader

def names : List String := ["address", "token"]

def toJson (l : Leader Token) : Json :=
  .record [("address", .str l.address), ("token", l.token.toJson)]

def ofJson? (j : Json) : Option (Leader Token) :=
  match j.fields? names with
  | some [address, token] => do
    let address ← Json.required? Json.text? address
    let token ← Json.required? Token.ofJson? token
    some ⟨address, token⟩
  | _ => none

end Leader

namespace Summary

def names : List String :=
  ["contenders", "listeners", "proposed_leader", "confirmed_leader", "token", "address",
   "confirmed_at", "shutdown"]

def toJson (s : Summary Token) : Json :=
  .record [("contenders", .natural s.contenders), ("listeners", .natural s.listeners),
    ("proposed_leader", .ofOption .str s.proposed),
    ("confirmed_leader", .ofOption .str s.confirmed),
    ("token", .ofOption Token.toJson s.token), ("address", .ofOption .str s.address),
    ("confirmed_at", .ofOption Instant.toJson s.confirmedAt), ("shutdown", .bool s.shutdown)]

def ofJson? (j : Json) : Option (Summary Token) :=
  match j.fields? names with
  | some [contenders, listeners, proposed, confirmed, token, address, confirmedAt, shutdown] => do
    let contenders ← Json.required? Json.count? contenders
    let listeners ← Json.required? Json.count? listeners
    let proposed ← Json.optional? Json.text? proposed
    let confirmed ← Json.optional? Json.text? confirmed
    let token ← Json.optional? Token.ofJson? token
    let address ← Json.optional? Json.text? address
    let confirmedAt ← Json.optional? Instant.ofJson? confirmedAt
    let shutdown ← Json.required? Json.bool? shutdown
    some ⟨contenders, listeners, proposed, confirmed, token, address, confirmedAt, shutdown⟩
  | _ => none

end Summary
end Leadership
