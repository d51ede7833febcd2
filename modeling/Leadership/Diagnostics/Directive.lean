import Leadership.Diagnostics.Note
import Leadership.Pattern.Reader
import Leadership.Pattern.Support
import Leadership.Text.Blank
import Leadership.Text.Digits
import Leadership.Text.Letter

set_option autoImplicit false

namespace Leadership.Diagnostics

open Text

structure Field where
  name : String
  valued : Bool
deriving DecidableEq, Repr

/-- A level is kept by its rank, and rank 0 is silence. -/
structure Directive where
  target : Option String := none
  spanned : Bool := false
  field : Option Field := none
  rank : Nat
deriving DecidableEq, Repr

def lower (c : Char) : Char :=
  if 65 ≤ c.toNat ∧ c.toNat ≤ 90 then Char.ofNat (c.toNat + 32) else c

def rank? (cs : List Char) : Option Nat :=
  let ds :=
    match cs with
    | '+' :: rest => rest
    | _ => cs
  if ds ≠ [] ∧ ds.all isDigit then
    if ofDigits 0 ds ≤ 5 then some (ofDigits 0 ds) else none
  else
    match String.ofList (cs.map lower) with
    | "" | "error" => some 1
    | "warn" => some 2
    | "info" => some 3
    | "debug" => some 4
    | "trace" => some 5
    | "off" => some 0
    | _ => none

def bytes (cs : List Char) : Nat := (cs.map Char.utf8Size).foldl (· + ·) 0

def dropBytes? : Nat → List Char → Option (List Char)
  | 0, cs => some cs
  | _ + 1, [] => none
  | n + 1, c :: cs => if c.utf8Size ≤ n + 1 then dropBytes? (n + 1 - c.utf8Size) cs else none

def takeBytes? : Nat → List Char → Option (List Char)
  | 0, _ => some []
  | _ + 1, [] => none
  | n + 1, c :: cs =>
    if c.utf8Size ≤ n + 1 then (takeBytes? (n + 1 - c.utf8Size) cs).map (c :: ·) else none

def cut? (text : List Char) (first last : Nat) : Option (List Char) :=
  (dropBytes? first text).bind (takeBytes? (last - first))

def trim (cs : List Char) : List Char := (skipBlanks (skipBlanks cs).reverse).reverse

-- What a number of 64 bits with a fraction looks like; it has no need to be a pattern.
def isNumber (cs : List Char) : Bool :=
  let cs :=
    match cs with
    | '+' :: rest | '-' :: rest => rest
    | _ => cs
  let whole := cs.takeWhile isDigit
  let (fraction, rest) :=
    match cs.dropWhile isDigit with
    | '.' :: rest => (rest.takeWhile isDigit, rest.dropWhile isDigit)
    | rest => ([], rest)
  let decimal :=
    !(whole ++ fraction).isEmpty &&
      match rest with
      | [] => true
      | e :: rest =>
        let ds :=
          match rest with
          | '+' :: ds | '-' :: ds => ds
          | _ => rest
        (e = 'e' || e = 'E') && !ds.isEmpty && ds.all isDigit
  decimal || ["inf", "infinity", "nan"].contains (String.ofList (cs.map lower))

def isUsable (cs : List Char) : Bool :=
  isNumber cs || ((Pattern.read? cs).map Pattern.usable).getD false

def field? (cs : List Char) : Option Field :=
  let name := String.ofList (cs.takeWhile (· ≠ '='))
  match cs.dropWhile (· ≠ '=') with
  | [] => if cs.isEmpty then none else some ⟨name, false⟩
  | _ :: rest => if isUsable (rest.takeWhile (· ≠ '=')) then some ⟨name, true⟩ else none

def opens (c : Char) : Bool := c = '-' || c = ':' || c = '_' || isLetter c || isNumeral c

def levelFrom? (text : List Char) (start : Nat) : Option Nat :=
  (dropBytes? start text).bind fun level => if level.isEmpty then some 5 else rank? level

def close? (text : List Char) (d : Directive) (start : Nat) : List Char → Option Directive
  | [] => some d
  | '=' :: _ => (levelFrom? text (start + 1)).map fun rank => { d with rank := rank }
  | _ => none

def span? (text : List Char) (target : Option String) (start : Nat) (cs : List Char) :
    Option Directive :=
  let name := cs.takeWhile fun c => c ≠ ']' ∧ c ≠ '\x7b'
  let stop := start + bytes name
  match cs.dropWhile fun c => c ≠ ']' ∧ c ≠ '\x7b' with
  | ']' :: rest =>
    (cut? text start stop).bind fun _ =>
      close? text { target := target, spanned := true, rank := 5 } (stop + 1) rest
  | _ :: rest =>
    let inner := rest.takeWhile (· ≠ '\x7d')
    let last := stop + 1 + bytes inner
    match rest.dropWhile (· ≠ '\x7d') with
    | _ :: ']' :: rest => do
      let _ ← cut? text start stop
      let part ← cut? text (stop + 1) last
      let field ← field? part
      let span := { target := target, spanned := !name.isEmpty, field := some field, rank := 5 }
      close? text span (last + 2) rest
    | _ => none
  | [] => none

/-- One directive: a level, a target, a span, a target and its level, or all of them. A target or a
span without a level stands for all levels. -/
def directive? (text : List Char) : Option Directive :=
  let cs := trim text
  match cs with
  | [] => none
  | '[' :: rest => span? text none 1 rest
  | c :: _ =>
    if opens c then
      let head := cs.takeWhile fun c => c ≠ '=' ∧ c ≠ '['
      let stop := bytes head
      let target := (cut? text 0 stop).map String.ofList
      match cs.dropWhile fun c => c ≠ '=' ∧ c ≠ '[' with
      | [] =>
        match rank? text with
        | some rank => some { rank := rank }
        | none => some { target := some (String.ofList text), rank := 5 }
      | mark :: rest =>
        target.bind fun target =>
          if mark = '[' then span? text (some target) (stop + 1) rest
          else (levelFrom? text (stop + 1)).map fun rank => { target := some target, rank := rank }
    else none

end Leadership.Diagnostics
