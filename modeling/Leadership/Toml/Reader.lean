import Leadership.Toml.Document
import Leadership.Text.Digits
import Leadership.Instant

set_option autoImplicit false

namespace Leadership.Toml

open Text

/-- A document may nest values, or give a key parts, less often than this. -/
def depthLimit : Nat := 80

def isWs (c : Char) : Bool := c = ' ' || c = '\t'

def skipWs (cs : List Char) : List Char := cs.dropWhile isWs

def isPlain (c : Char) : Bool := c = '\t' || decide (32 ≤ c.toNat ∧ c.toNat ≠ 127)

def newline? : List Char → Option (List Char)
  | '\n' :: rest => some rest
  | '\r' :: '\n' :: rest => some rest
  | _ => none

def skipComment : List Char → List Char
  | '#' :: rest => rest.dropWhile isPlain
  | cs => cs

def lineEnd? (cs : List Char) : Option (List Char) :=
  match skipComment (skipWs cs) with
  | [] => some []
  | cs => newline? cs

def skipLines : Nat → List Char → List Char
  | 0, cs => cs
  | fuel + 1, cs =>
    match newline? (skipComment (skipWs cs)) with
    | some rest => skipLines fuel rest
    | none => skipWs cs

def escape? : List Char → Option (Char × List Char)
  | 'b' :: rest => some ('\x08', rest)
  | 't' :: rest => some ('\t', rest)
  | 'n' :: rest => some ('\n', rest)
  | 'f' :: rest => some ('\x0c', rest)
  | 'r' :: rest => some ('\r', rest)
  | '"' :: rest => some ('"', rest)
  | '\\' :: rest => some ('\\', rest)
  | 'u' :: rest => code 4 rest
  | 'U' :: rest => code 8 rest
  | _ => none
where
  code (n : Nat) (cs : List Char) : Option (Char × List Char) :=
    if cs.length < n then none
    else
      ((readHex? 0 (cs.take n)).bind ofCode?).map fun c => (c, cs.drop n)

def basic? : Nat → List Char → Option (List Char × List Char)
  | 0, _ => none
  | fuel + 1, cs =>
    match cs with
    | '"' :: rest => some ([], rest)
    | '\\' :: rest =>
      match escape? rest with
      | none => none
      | some (c, rest) => (basic? fuel rest).map fun (s, rest) => (c :: s, rest)
    | c :: rest =>
      if isPlain c then (basic? fuel rest).map fun (s, rest) => (c :: s, rest) else none
    | [] => none

def literal? : List Char → Option (List Char × List Char)
  | [] => none
  | c :: rest =>
    if c = '\'' then some ([], rest)
    else if isPlain c then (literal? rest).map fun (s, rest) => (c :: s, rest)
    else none

/-- The quotes at the end of a string of several lines: three close it, and up to two before them
belong to it. Fewer than three are all text. -/
def closing (quote : Char) (cs : List Char) : Nat × List Char :=
  let n := (cs.takeWhile (· == quote)).length
  (n, cs.drop n)

def skipEmpty : List Char → List Char
  | [] => []
  | '\r' :: '\n' :: rest => skipEmpty rest
  | c :: rest => if isWs c || c = '\n' then skipEmpty rest else c :: rest

/-- A string of several lines, after its opening quotes. A backslash at the end of a line takes
away the line end and all white space after it. -/
def basicLines? : Nat → List Char → Option (List Char × List Char)
  | 0, _ => none
  | fuel + 1, cs =>
    match cs with
    | '"' :: _ =>
      let (n, rest) := closing '"' cs
      if n < 3 then
        (basicLines? fuel rest).map fun (s, rest) => (List.replicate n '"' ++ s, rest)
      else if n ≤ 5 then some (List.replicate (n - 3) '"', rest)
      else none
    | '\\' :: rest =>
      match newline? (skipWs rest) with
      | some rest =>
        basicLines? fuel (skipEmpty rest)
      | none =>
        match escape? rest with
        | none => none
        | some (c, rest) => (basicLines? fuel rest).map fun (s, rest) => (c :: s, rest)
    | c :: rest =>
      match newline? cs with
      | some rest => (basicLines? fuel rest).map fun (s, rest) => ('\n' :: s, rest)
      | none =>
        if isPlain c then (basicLines? fuel rest).map fun (s, rest) => (c :: s, rest) else none
    | [] => none

def literalLines? : Nat → List Char → Option (List Char × List Char)
  | 0, _ => none
  | fuel + 1, cs =>
    match cs with
    | '\'' :: _ =>
      let (n, rest) := closing '\'' cs
      if n < 3 then
        (literalLines? fuel rest).map fun (s, rest) => (List.replicate n '\'' ++ s, rest)
      else if n ≤ 5 then some (List.replicate (n - 3) '\'', rest)
      else none
    | c :: rest =>
      match newline? cs with
      | some rest => (literalLines? fuel rest).map fun (s, rest) => ('\n' :: s, rest)
      | none =>
        if isPlain c then (literalLines? fuel rest).map fun (s, rest) => (c :: s, rest) else none
    | [] => none

def skipFirstLine (cs : List Char) : List Char := (newline? cs).getD cs

def string? (cs : List Char) : Option (String × List Char) :=
  let text : Option (List Char × List Char) :=
    match cs with
    | '"' :: '"' :: '"' :: rest => basicLines? (rest.length + 1) (skipFirstLine rest)
    | '"' :: rest => basic? (rest.length + 1) rest
    | '\'' :: '\'' :: '\'' :: rest => literalLines? (rest.length + 1) (skipFirstLine rest)
    | '\'' :: rest => literal? rest
    | _ => none
  text.map fun (s, rest) => (String.ofList s, rest)

def isBare (c : Char) : Bool :=
  isDigit c || decide (65 ≤ c.toNat ∧ c.toNat ≤ 90) || decide (97 ≤ c.toNat ∧ c.toNat ≤ 122) ||
    c = '-' || c = '_'

def part? (cs : List Char) : Option (String × List Char) :=
  match cs with
  | '"' :: rest => (basic? (rest.length + 1) rest).map fun (s, rest) => (String.ofList s, rest)
  | '\'' :: rest => (literal? rest).map fun (s, rest) => (String.ofList s, rest)
  | _ =>
    match cs.takeWhile isBare with
    | [] => none
    | s => some (String.ofList s, cs.dropWhile isBare)

def parts? : Nat → List Char → Option (List String × List Char)
  | 0, _ => none
  | fuel + 1, cs =>
    match part? (skipWs cs) with
    | none => none
    | some (p, rest) =>
      match skipWs rest with
      | '.' :: rest => (parts? fuel rest).map fun (ps, rest) => (p :: ps, rest)
      | rest => some ([p], rest)

def key? (cs : List Char) : Option (List String × List Char) :=
  (parts? (cs.length + 1) cs).bind fun (ps, rest) =>
    if ps.length < depthLimit then some (ps, rest) else none

def underscored? (isDigit : Char → Bool) : List Char → Option (List Char × List Char)
  | [] => none
  | c :: '_' :: rest =>
    if isDigit c then (underscored? isDigit rest).map fun (ds, rest) => (c :: ds, rest) else none
  | c :: rest =>
    if isDigit c then
      match rest.head?.map isDigit with
      | some true => (underscored? isDigit rest).map fun (ds, rest) => (c :: ds, rest)
      | _ => some ([c], rest)
    else none

def isHex (c : Char) : Bool := (hexValue? c).isSome
def isOctal (c : Char) : Bool := decide (48 ≤ c.toNat ∧ c.toNat ≤ 55)
def isBinary (c : Char) : Bool := c = '0' || c = '1'

def ofDigitsIn (base : Nat) (ds : List Char) : Nat :=
  ds.foldl (fun n c => base * n + (hexValue? c).getD 0) 0

def integerLimit : Nat := 0x8000000000000000

def based? (base : Nat) (isDigit : Char → Bool) (cs : List Char) : Option (List Char) :=
  (underscored? isDigit cs).bind fun (ds, rest) =>
    if ofDigitsIn base ds < integerLimit then some rest else none

def whole? : List Char → Option (List Char × List Char)
  | '0' :: rest => some (['0'], rest)
  | cs => underscored? isDigit cs

/-- From this on, a number is closer to infinity than to any number of 64 bits. -/
def infinite : Nat := Nat.pow 2 1024 - Nat.pow 2 970

def isInfinite (digits : List Char) (exponent : Int) (places : Nat) : Bool :=
  let n := ofDigits 0 digits
  let e := exponent - places
  if n = 0 ∨ digits.length + e ≤ 308 then false
  else if 400 < e then true
  else if 0 ≤ e then decide (infinite ≤ n * Nat.pow 10 e.toNat)
  else decide (infinite * Nat.pow 10 (-e).toNat ≤ n)

def exponent? (cs : List Char) : Option (Int × List Char) :=
  let (negative, cs) :=
    match cs with
    | '-' :: rest => (true, rest)
    | '+' :: rest => (false, rest)
    | _ => (false, cs)
  (underscored? isDigit cs).map fun (ds, rest) =>
    let n : Int := ofDigits 0 ds
    (if negative then -n else n, rest)

def decimal? (negative : Bool) (whole : List Char) (cs : List Char) : Option (List Char) :=
  let check (digits : List Char) (exponent : Int) (places : Nat) (rest : List Char) :=
    if !negative && isInfinite digits exponent places then none else some rest
  match cs with
  | '.' :: rest =>
    (underscored? isDigit rest).bind fun (fraction, rest) =>
      match rest with
      | e :: more =>
        if e = 'e' ∨ e = 'E' then
          (exponent? more).bind fun (x, rest) =>
            check (whole ++ fraction) x fraction.length rest
        else check (whole ++ fraction) 0 fraction.length rest
      | [] => check (whole ++ fraction) 0 fraction.length []
  | e :: more =>
    if e = 'e' ∨ e = 'E' then (exponent? more).bind fun (x, rest) => check whole x 0 rest
    else
      if ofDigits 0 whole < integerLimit + (if negative then 1 else 0) then some cs else none
  | [] => if ofDigits 0 whole < integerLimit + (if negative then 1 else 0) then some [] else none

def number? (cs : List Char) : Option (List Char) :=
  match cs with
  | '0' :: 'x' :: rest => based? 16 isHex rest
  | '0' :: 'o' :: rest => based? 8 isOctal rest
  | '0' :: 'b' :: rest => based? 2 isBinary rest
  | _ =>
    let (negative, cs) :=
      match cs with
      | '-' :: rest => (true, rest)
      | '+' :: rest => (false, rest)
      | _ => (false, cs)
    match cs with
    | 'i' :: 'n' :: 'f' :: rest | 'n' :: 'a' :: 'n' :: rest => some rest
    | _ => (whole? cs).bind fun (ds, rest) => decimal? negative ds rest

def fixed? (n low high : Nat) (cs : List Char) : Option (Nat × List Char) :=
  match takeDigits n cs with
  | (ds, rest) =>
    let v := ofDigits 0 ds
    if ds.length = n ∧ low ≤ v ∧ v ≤ high then some (v, rest) else none

def time? (cs : List Char) : Option (List Char) := do
  let (_, cs) ← fixed? 2 0 23 cs
  let cs ← match cs with
    | ':' :: rest => some rest
    | _ => none
  let (_, cs) ← fixed? 2 0 59 cs
  let cs ← match cs with
    | ':' :: rest => some rest
    | _ => none
  let (_, cs) ← fixed? 2 0 60 cs
  match cs with
  | '.' :: d :: rest => if isDigit d then some (rest.dropWhile isDigit) else some cs
  | _ => some cs

def date? (cs : List Char) : Option (List Char) := do
  let (year, cs) ← fixed? 4 0 9999 cs
  let cs ← match cs with
    | '-' :: rest => some rest
    | _ => none
  let (month, cs) ← fixed? 2 1 12 cs
  let cs ← match cs with
    | '-' :: rest => some rest
    | _ => none
  let (_, cs) ← fixed? 2 1 (Date.monthLength year month) cs
  some cs

def offset? (cs : List Char) : Option (List Char) :=
  match cs with
  | 'Z' :: rest | 'z' :: rest => some rest
  | s :: rest =>
    if s = '+' ∨ s = '-' then
      (fixed? 2 0 23 rest).bind fun (_, rest) =>
        match rest with
        | ':' :: rest => (fixed? 2 0 59 rest).map Prod.snd
        | _ => none
    else none
  | [] => none

def moment? (cs : List Char) : Option (List Char) :=
  match date? cs with
  | none => time? cs
  | some rest =>
    match rest with
    | t :: more =>
      if t = 'T' ∨ t = 't' ∨ t = ' ' then
        match time? more with
        | none => some rest
        | some rest => some ((offset? rest).getD rest)
      else some rest
    | [] => some []

def scalar? (cs : List Char) : Option (Value × List Char) :=
  match cs with
  | 't' :: 'r' :: 'u' :: 'e' :: rest => some (.scalar, rest)
  | 'f' :: 'a' :: 'l' :: 's' :: 'e' :: rest => some (.scalar, rest)
  | _ =>
    match moment? cs with
    | some rest => some (.moment, rest)
    | none => (number? cs).map fun rest => (.scalar, rest)

mutual

def value? (depth : Nat) : Nat → List Char → Option (Value × List Char)
  | 0, _ => none
  | fuel + 1, cs =>
    match cs with
    | '"' :: _ | '\'' :: _ => (string? cs).map fun (s, rest) => (.string s, rest)
    | '[' :: rest =>
      if depthLimit ≤ depth + 1 then none
      else (items? (depth + 1) fuel (skipLines rest.length rest)).map fun (vs, rest) =>
        (.array vs, rest)
    | '\x7b' :: rest =>
      if depthLimit ≤ depth + 1 then none
      else
        match skipWs rest with
        | '\x7d' :: rest => some (.table .braces [], rest)
        | _ =>
          (pairs? (depth + 1) fuel rest).bind fun (ps, rest) =>
            (ofAssignments ps).map fun es => (.table .braces es, rest)
    | _ => scalar? cs

def items? (depth : Nat) : Nat → List Char → Option (List Value × List Char)
  | 0, _ => none
  | fuel + 1, cs =>
    match cs with
    | ']' :: rest => some ([], rest)
    | _ =>
      match value? depth fuel cs with
      | none => none
      | some (v, rest) =>
        match skipLines rest.length rest with
        | ',' :: rest =>
          (items? depth fuel (skipLines rest.length rest)).map fun (vs, rest) => (v :: vs, rest)
        | ']' :: rest => some ([v], rest)
        | _ => none

def pairs? (depth : Nat) :
    Nat → List Char → Option (List (List String × String × Value) × List Char)
  | 0, _ => none
  | fuel + 1, cs =>
    match key? cs with
    | none => none
    | some (ks, '=' :: rest) =>
      match ks.getLast?, value? depth fuel (skipWs rest) with
      | some k, some (v, rest) =>
        match skipWs rest with
        | ',' :: rest =>
          (pairs? depth fuel rest).map fun (ps, rest) => ((ks.dropLast, k, v) :: ps, rest)
        | '\x7d' :: rest => some ([(ks.dropLast, k, v)], rest)
        | _ => none
      | _, _ => none
    | some _ => none

end

def statement? (cs : List Char) : Option (Statement × List Char) :=
  match cs with
  | '[' :: '[' :: rest =>
    match key? rest with
    | some (ks, ']' :: ']' :: rest) => (lineEnd? rest).map fun rest => (.rowHeader ks, rest)
    | _ => none
  | '[' :: rest =>
    match key? rest with
    | some (ks, ']' :: rest) => (lineEnd? rest).map fun rest => (.header ks, rest)
    | _ => none
  | _ =>
    match key? cs with
    | some (ks, '=' :: rest) =>
      match ks.getLast?, value? 0 (2 * rest.length + 2) (skipWs rest) with
      | some k, some (v, rest) => (lineEnd? rest).map fun rest => (.assign ks.dropLast k v, rest)
      | _, _ => none
    | _ => none

def statements? : Nat → List Char → Option (List Statement)
  | 0, _ => none
  | fuel + 1, cs =>
    match skipWs cs with
    | [] => some []
    | cs =>
      match (if cs.head? = some '#' then lineEnd? cs else newline? cs) with
      | some rest => statements? fuel rest
      | none =>
        match statement? cs with
        | none => none
        | some (s, rest) => (statements? fuel rest).map (s :: ·)

def skipMark : List Char → List Char
  | '\ufeff' :: rest => rest
  | cs => cs

def ofText? (s : String) : Option Entries :=
  let cs := skipMark s.toList
  (statements? (cs.length + 1) cs).bind build?

end Leadership.Toml
