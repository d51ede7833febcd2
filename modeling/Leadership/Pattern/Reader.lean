import Leadership.Pattern.Syntax
import Leadership.Text.Blank
import Leadership.Text.Digits
import Leadership.Text.Letter

set_option autoImplicit false

namespace Leadership.Pattern

open Text

def skipFrom : Bool → List Char → List Char
  | _, [] => []
  | true, c :: cs => skipFrom (c ≠ '\n') cs
  | false, c :: cs =>
    if isBlank c then skipFrom false cs
    else if c = '#' then skipFrom true cs
    else c :: cs

def skip (verbose : Bool) (cs : List Char) : List Char := if verbose then skipFrom false cs else cs

def run (verbose : Bool) (p : Char → Bool) : Nat → List Char → List Char × List Char
  | _, [] => ([], [])
  | 0, cs => ([], cs)
  | fuel + 1, c :: cs =>
    if p c then
      let (run, rest) := run verbose p fuel (skip verbose cs)
      (c :: run, rest)
    else ([], c :: cs)

def runOf (verbose : Bool) (p : Char → Bool) (cs : List Char) : List Char × List Char :=
  run verbose p cs.length cs

inductive Atom where
  | literal (l : Literal)
  | dot
  | edge
  | wordEdge
  | property
  | shorthand (negated : Bool)

def Atom.pattern : Atom → Pattern
  | .literal l => .literal l
  | .dot => .dot
  | .edge => .edge
  | .wordEdge => .wordEdge
  | .property => .property
  | .shorthand negated => .shorthand negated

def Atom.member? : Atom → Option Members
  | .literal l => some (.literal l)
  | .property => some .property
  | .shorthand negated => some (.shorthand negated)
  | _ => none

def hexRun? (verbose : Bool) : Nat → List Char → Option (List Char × List Char)
  | 0, cs => some ([], cs)
  | _ + 1, [] => none
  | n + 1, c :: cs =>
    if (hexValue? c).isSome then
      (hexRun? verbose n (skip verbose cs)).map fun (ds, rest) => (c :: ds, rest)
    else none

def code? (verbose : Bool) (width : Nat) (byte : Bool) (cs : List Char) :
    Option (Atom × List Char) :=
  let (digits, byte) : Option (List Char × List Char) × Bool :=
    match skip verbose cs with
    | '\x7b' :: rest =>
      match runOf verbose (fun c => (hexValue? c).isSome) (skip verbose rest) with
      | ([], _) => (none, false)
      | (ds, '\x7d' :: rest) => (some (ds, skip verbose rest), false)
      | _ => (none, false)
    | cs => (hexRun? verbose width cs, byte)
  digits.bind fun (ds, rest) =>
    ((readHex? 0 ds).bind ofCode?).map fun c => (.literal ⟨c, byte⟩, rest)

def property? (verbose : Bool) (cs : List Char) : Option (Atom × List Char) :=
  match skip verbose cs with
  | [] => none
  | '\x7b' :: rest =>
    match runOf verbose (· ≠ '\x7d') (skip verbose rest) with
    | (_, _ :: rest) => some (.property, rest)
    | _ => none
  | c :: rest => if c = '\\' then none else some (.property, skip verbose rest)

def wordEdge? (verbose : Bool) (cs : List Char) : Option (Atom × List Char) :=
  let nameChar (c : Char) : Bool := c.isAlpha || c = '-'
  match cs with
  | '\x7b' :: rest =>
    match skip verbose rest with
    | [] => none
    | c :: more =>
      if nameChar c then
        match runOf verbose nameChar (c :: more) with
        | (name, '\x7d' :: rest) =>
          if ["start", "end", "start-half", "end-half"].contains (String.ofList name)
          then some (.wordEdge, rest) else none
        | _ => none
      else some (.wordEdge, cs)
  | _ => some (.wordEdge, cs)

def isPlainEscape (c : Char) : Bool :=
  decide (c.toNat < 128) && !c.isAlphanum && c ≠ '<' && c ≠ '>'

def escape? (verbose : Bool) : List Char → Option (Atom × List Char)
  | [] => none
  | c :: rest =>
    match c with
    | 'x' => code? verbose 2 true rest
    | 'u' => code? verbose 4 false rest
    | 'U' => code? verbose 8 false rest
    | 'p' | 'P' => property? verbose rest
    | 'd' | 's' | 'w' => some (.shorthand false, rest)
    | 'D' | 'S' | 'W' => some (.shorthand true, rest)
    | 'a' => some (.literal ⟨'\x07', false⟩, rest)
    | 'f' => some (.literal ⟨'\x0c', false⟩, rest)
    | 't' => some (.literal ⟨'\t', false⟩, rest)
    | 'n' => some (.literal ⟨'\n', false⟩, rest)
    | 'r' => some (.literal ⟨'\r', false⟩, rest)
    | 'v' => some (.literal ⟨'\x0b', false⟩, rest)
    | 'A' | 'z' => some (.edge, rest)
    | 'b' => wordEdge? verbose rest
    | 'B' | '<' | '>' => some (.wordEdge, rest)
    | c => if isPlainEscape c then some (.literal ⟨c, false⟩, rest) else none

def count? (verbose : Bool) (cs : List Char) : Option Nat × List Char :=
  let (ds, rest) := runOf verbose isDigit (skipBlanks cs)
  let (_, rest) := runOf verbose isBlank rest
  let n := ofDigits 0 ds
  (if ds ≠ [] ∧ n < 0x100000000 then some n else none, rest)

def counts? (verbose : Bool) (cs : List Char) : Option (List Char) :=
  let close : List Char → Option (List Char)
    | '\x7d' :: rest =>
      match skip verbose rest with
      | '?' :: rest => some rest
      | rest => some rest
    | _ => none
  match count? verbose (skip verbose cs) with
  | (some least, ',' :: rest) =>
    match skip verbose rest with
    | '\x7d' :: rest => close ('\x7d' :: rest)
    | rest =>
      match count? verbose rest with
      | (some most, rest) => if least ≤ most then close rest else none
      | (none, _) => none
  | (some _, rest) => close rest
  | (none, _) => none

def setNames : List String :=
  ["alnum", "alpha", "ascii", "blank", "cntrl", "digit", "graph", "lower", "print", "punct",
   "space", "upper", "word", "xdigit"]

def named? : List Char → Option (Bool × List Char)
  | ':' :: cs =>
    let (negated, cs) :=
      match cs with
      | '^' :: cs => (true, cs)
      | _ => (false, cs)
    match cs.dropWhile (· ≠ ':') with
    | ':' :: ']' :: rest =>
      if setNames.contains (String.ofList (cs.takeWhile (· ≠ ':'))) then some (negated, rest)
      else none
    | _ => none
  | _ => none

def setItem? (verbose : Bool) : List Char → Option (Atom × List Char)
  | [] => none
  | '\\' :: rest => escape? verbose rest
  | c :: rest => some (.literal ⟨c, false⟩, rest)

-- What a hyphen has behind it; a look ahead sees a comment by its first character only.
def behind (verbose : Bool) (cs : List Char) : Option Char :=
  if verbose then
    match skipBlanks cs with
    | '#' :: rest => (skipBlanks rest).head?
    | rest => rest.head?
  else cs.head?

-- One member or a range of a set. A hyphen makes a range, but not at the end or before another.
def setRange? (verbose : Bool) (cs : List Char) : Option (Members × List Char) :=
  (setItem? verbose cs).bind fun (first, rest) =>
    let single := first.member?.map fun m => (m, skip verbose rest)
    match skip verbose rest with
    | [] => none
    | '-' :: rest =>
      if behind verbose rest = some ']' ∨ behind verbose rest = some '-' then single
      else
        match first, setItem? verbose (skip verbose rest) with
        | .literal a, some (.literal b, rest) =>
          if a.char.toNat ≤ b.char.toNat then some (.range a b, rest) else none
        | _, _ => none
    | _ => single

def leading (verbose : Bool) : Nat → List Char → List Members × List Char
  | 0, cs => ([], cs)
  | fuel + 1, cs =>
    match cs with
    | '-' :: rest =>
      let (ms, rest) := leading verbose fuel (skip verbose rest)
      (.literal ⟨'-', false⟩ :: ms, rest)
    | _ => ([], cs)

def opening (verbose : Bool) (cs : List Char) : List Members × List Char :=
  match leading verbose cs.length cs with
  | ([], ']' :: rest) => ([.literal ⟨']', false⟩], skip verbose rest)
  | (ms, rest) => (ms, rest)

mutual

def set? (verbose : Bool) : Nat → List Char → Option (Bool × Members × List Char)
  | 0, _ => none
  | fuel + 1, cs =>
    let (negated, cs) :=
      match skip verbose cs with
      | '^' :: rest => (true, skip verbose rest)
      | cs => (false, cs)
    let (first, rest) := opening verbose cs
    (members? verbose fuel none first rest).map fun (m, rest) => (negated, m, rest)

def members? (verbose : Bool) : Nat → Option Members → List Members → List Char →
    Option (Members × List Char)
  | 0, _, _, _ => none
  | fuel + 1, left, ms, cs =>
    let all := Members.combine left (Members.ofList ms)
    match skip verbose cs with
    | [] => none
    | ']' :: rest => some (all, rest)
    | '&' :: '&' :: rest | '-' :: '-' :: rest | '~' :: '~' :: rest =>
      members? verbose fuel (some all) [] rest
    | '[' :: rest =>
      match named? rest with
      | some (negated, rest) => members? verbose fuel left (ms ++ [.named negated]) rest
      | none =>
        match set? verbose fuel rest with
        | some (negated, m, rest) => members? verbose fuel left (ms ++ [.nested negated m]) rest
        | none => none
    | cs =>
      match setRange? verbose cs with
      | some (m, rest) => members? verbose fuel left (ms ++ [m]) rest
      | none => none

end

def flag? : Char → Option Flag
  | 'i' => some .ignoreCase
  | 'm' => some .manyLines
  | 's' => some .dotAll
  | 'U' => some .swapGreed
  | 'u' => some .unicode
  | 'R' => some .crlf
  | 'x' => some .verbose
  | _ => none

/-- Flags up to a colon or a closing parenthesis: each at most once, and a hyphen, at most one and
not the last, before those that are switched off. -/
def flags? (on : Bool) (dangling : Bool) (given : Flags) :
    List Char → Option (Flags × Char × List Char)
  | [] => none
  | c :: rest =>
    if c = ':' ∨ c = ')' then (if dangling then none else some (given, c, rest))
    else if c = '-' then (if on then flags? false true given rest else none)
    else
      match flag? c with
      | some f =>
        if given.any fun g => g.1 == f then none else flags? on false (given ++ [(f, on)]) rest
      | none => none

def nameStart (c : Char) : Bool := c = '_' || isLetter c

def nameChar (c : Char) : Bool :=
  c = '_' || c = '.' || c = '[' || c = ']' || isLetter c || isNumeral c

def name? (cs : List Char) : Option (String × List Char) :=
  match cs with
  | [] => none
  | c :: _ =>
    match cs.dropWhile nameChar with
    | '>' :: rest =>
      if nameStart c then some (String.ofList (cs.takeWhile nameChar), rest) else none
    | _ => none

inductive Opening where
  | switch (flags : Flags)
  | group (flags : Flags) (name : Option String)

def opening? : List Char → Option (Opening × List Char)
  | '?' :: '=' :: _ | '?' :: '!' :: _ | '?' :: '<' :: '=' :: _ | '?' :: '<' :: '!' :: _ => none
  | '?' :: 'P' :: '<' :: rest | '?' :: '<' :: rest =>
    (name? rest).map fun (name, rest) => (.group [] (some name), rest)
  | '?' :: rest =>
    (flags? true false [] rest).bind fun (flags, mark, rest) =>
      if mark = ':' then some (.group flags none, rest)
      else if flags.isEmpty then none
      else some (.switch flags, rest)
  | rest => some (.group [] none, rest)

structure Place where
  rest : List Char
  verbose : Bool := false
  names : List String := []

def Place.switch (p : Place) (flags : Flags) : Place :=
  { p with verbose := (flags.lookup .verbose).getD p.verbose }

def lazily : List Char → List Char
  | '?' :: rest => rest
  | rest => rest

def repeat? : List Pattern → Option (List Pattern)
  | [] => none
  | ps =>
    match ps.getLast? with
    | none | some (.switch _) => none
    | some p => some (ps.dropLast ++ [.repeated p])

def body? : Nat → Place → List Pattern → List Pattern → Option (Pattern × Place)
  | 0, _, _, _ => none
  | fuel + 1, p, branches, items =>
    match skip p.verbose p.rest with
    | [] => some (ofBranches (branches ++ [ofItems items]), { p with rest := [] })
    | ')' :: rest => some (ofBranches (branches ++ [ofItems items]), { p with rest := ')' :: rest })
    | '|' :: rest => body? fuel { p with rest := rest } (branches ++ [ofItems items]) []
    | '(' :: rest =>
      match opening? (skip p.verbose rest) with
      | none => none
      | some (.switch flags, rest) =>
        body? fuel ({ p with rest := rest }.switch flags) branches (items ++ [.switch flags])
      | some (.group flags name, rest) =>
        if name.any p.names.contains then none
        else
          let inner := { p with rest := rest, names := name.toList ++ p.names }.switch flags
          match body? fuel inner [] [] with
          | some (q, ⟨')' :: rest, _, names⟩) =>
            body? fuel ⟨rest, p.verbose, names⟩ branches (items ++ [.group flags q])
          | _ => none
    | '[' :: rest =>
      match set? p.verbose (2 * rest.length + 2) rest with
      | some (negated, m, rest) =>
        body? fuel { p with rest := rest } branches (items ++ [.set negated m])
      | none => none
    | '?' :: rest | '*' :: rest | '+' :: rest =>
      match repeat? items with
      | some items => body? fuel { p with rest := lazily rest } branches items
      | none => none
    | '\x7b' :: rest =>
      match repeat? items, counts? p.verbose rest with
      | some items, some rest => body? fuel { p with rest := rest } branches items
      | _, _ => none
    | '\\' :: rest =>
      match escape? p.verbose rest with
      | some (a, rest) => body? fuel { p with rest := rest } branches (items ++ [a.pattern])
      | none => none
    | '.' :: rest => body? fuel { p with rest := rest } branches (items ++ [.dot])
    | '^' :: rest | '$' :: rest => body? fuel { p with rest := rest } branches (items ++ [.edge])
    | c :: rest =>
      body? fuel { p with rest := rest } branches (items ++ [.literal ⟨c, false⟩])

def read? (cs : List Char) : Option Pattern :=
  match body? (cs.length + 1) { rest := cs } [] [] with
  | some (p, ⟨[], _, _⟩) => some p
  | _ => none

end Leadership.Pattern
