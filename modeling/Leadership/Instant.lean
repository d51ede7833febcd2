import Leadership.Text.Blank
import Leadership.Text.Digits

set_option autoImplicit false

namespace Leadership

structure Date where
  year : Int
  month : Nat
  day : Nat
deriving DecidableEq, Repr

/-- `nano` reaches a full second and beyond in a leap second, which is counted as part of the last
regular second of its minute. -/
structure Instant where
  date : Date
  second : Nat
  nano : Nat
deriving DecidableEq, Repr

namespace Date

def isLeap (year : Int) : Bool :=
  decide (year % 4 = 0 ∧ (year % 100 ≠ 0 ∨ year % 400 = 0))

def monthLength (year : Int) (month : Nat) : Nat :=
  if month = 2 then (if isLeap year then 29 else 28)
  else if month = 4 ∨ month = 6 ∨ month = 9 ∨ month = 11 then 30
  else 31

def firstYear : Int := -262143
def lastYear : Int := 262142

def Valid (d : Date) : Prop :=
  firstYear ≤ d.year ∧ d.year ≤ lastYear ∧ 1 ≤ d.month ∧ d.month ≤ 12 ∧ 1 ≤ d.day ∧
    d.day ≤ monthLength d.year d.month

instance (d : Date) : Decidable d.Valid := by unfold Valid; infer_instance

def next (d : Date) : Date :=
  if d.day < monthLength d.year d.month then { d with day := d.day + 1 }
  else if d.month < 12 then { d with month := d.month + 1, day := 1 }
  else ⟨d.year + 1, 1, 1⟩

def previous (d : Date) : Date :=
  if 1 < d.day then { d with day := d.day - 1 }
  else if 1 < d.month then
    { d with month := d.month - 1, day := monthLength d.year (d.month - 1) }
  else ⟨d.year - 1, 12, 31⟩

end Date

namespace Instant

open Text

def nanosPerSecond : Nat := 1000000000

def epoch : Instant := ⟨⟨1970, 1, 1⟩, 0, 0⟩

def yearText (year : Int) : List Char :=
  if 0 ≤ year ∧ year ≤ 9999 then padded 4 year.toNat
  else
    let size := year.natAbs
    (if year < 0 then '-' else '+') ::
      (if size < 10000 then padded 4 size else (toString size).toList)

def fractionText (nano : Nat) : List Char :=
  if nano = 0 then []
  else if nano % 1000000 = 0 then '.' :: padded 3 (nano / 1000000)
  else if nano % 1000 = 0 then '.' :: padded 6 (nano / 1000)
  else '.' :: padded 9 nano

def chars (i : Instant) : List Char :=
  let leap := decide (nanosPerSecond ≤ i.nano)
  let second := i.second % 60 + (if leap then 1 else 0)
  yearText i.date.year ++ '-' :: padded 2 i.date.month ++ '-' :: padded 2 i.date.day ++ 'T' ::
    padded 2 (i.second / 3600) ++ ':' :: padded 2 (i.second / 60 % 60) ++ ':' :: padded 2 second ++
    fractionText (if leap then i.nano - nanosPerSecond else i.nano) ++ ['Z']

def text (i : Instant) : String := String.ofList i.chars

-- A year may have a sign and then any number of digits; without one it has at most four.
def year? (cs : List Char) : Option (Int × List Char) :=
  match skipBlanks cs with
  | '-' :: rest => (number? rest.length rest).map fun (n, rest) => (-(n : Int), rest)
  | '+' :: rest => (number? rest.length rest).map fun (n, rest) => ((n : Int), rest)
  | rest => (number? 4 rest).map fun (n, rest) => ((n : Int), rest)

def field? (low high : Nat) (cs : List Char) : Option (Nat × List Char) :=
  (number? 2 (skipBlanks cs)).bind fun (n, rest) =>
    if low ≤ n ∧ n ≤ high then some (n, rest) else none

def mark? (mark : Char) (cs : List Char) : Option (List Char) :=
  match cs with
  | c :: rest => if c = mark then some rest else none
  | [] => none

def fraction? (cs : List Char) : Option (Nat × List Char) :=
  match cs with
  | '.' :: rest =>
    match takeDigits 9 rest with
    | ([], _) => none
    | (ds, rest) => some (ofDigits 0 ds * Nat.pow 10 (9 - ds.length), rest.dropWhile isDigit)
  | _ => some (0, cs)

-- Hours and minutes of an offset, in minutes. The hours need both digits, and so do the minutes.
def offsetSize? (cs : List Char) : Option (Nat × List Char) :=
  match takeDigits 2 cs with
  | ([a, b], rest) =>
    match takeDigits 2 (rest.dropWhile fun c => c = ':' || isBlank c) with
    | ([c, d], rest) =>
      let minutes := ofDigits 0 [c, d]
      if minutes < 60 then some (60 * ofDigits 0 [a, b] + minutes, rest) else none
    | _ => none
  | _ => none

def offset? (cs : List Char) : Option (Int × List Char) :=
  match cs with
  | 'Z' :: rest | 'z' :: rest => some (0, rest)
  | '+' :: rest => (offsetSize? rest).map fun (n, rest) => ((n : Int), rest)
  | '-' :: rest | '\u2212' :: rest => (offsetSize? rest).map fun (n, rest) => (-(n : Int), rest)
  | u :: t :: c :: rest =>
    if (u = 'U' ∨ u = 'u') ∧ (t = 'T' ∨ t = 't') ∧ (c = 'C' ∨ c = 'c') then some (0, rest) else none
  | _ => none

def toUTC (date : Date) (second : Nat) (nano : Nat) (offset : Int) : Instant :=
  let shifted := (second : Int) - 60 * offset
  if shifted < 0 then ⟨date.previous, (shifted + 86400).toNat, nano⟩
  else if shifted < 86400 then ⟨date, shifted.toNat, nano⟩
  else ⟨date.next, (shifted - 86400).toNat, nano⟩

def date? (cs : List Char) : Option (Date × List Char) := do
  let (year, cs) ← year? cs
  let cs ← mark? '-' (skipBlanks cs)
  let (month, cs) ← field? 1 12 cs
  let cs ← mark? '-' (skipBlanks cs)
  let (day, cs) ← field? 1 31 cs
  let date : Date := ⟨year, month, day⟩
  if date.Valid then some (date, cs) else none

def time? (cs : List Char) : Option ((Nat × Nat) × List Char) := do
  let (hour, cs) ← field? 0 23 cs
  let cs ← mark? ':' (skipBlanks cs)
  let (minute, cs) ← field? 0 59 cs
  let cs ← mark? ':' (skipBlanks cs)
  let (second, cs) ← field? 0 60 cs
  let (nano, cs) ← fraction? cs
  if second = 60 then some ((3600 * hour + 60 * minute + 59, nano + nanosPerSecond), cs)
  else some ((3600 * hour + 60 * minute + second, nano), cs)

def separator? : List Char → Option (List Char)
  | 't' :: rest | 'T' :: rest | ' ' :: rest => some rest
  | _ => none

def ofText? (s : String) : Option Instant := do
  let (date, cs) ← date? s.toList
  let cs ← separator? cs
  let ((second, nano), cs) ← time? cs
  let (offset, cs) ← offset? (skipBlanks cs)
  let instant := toUTC date second nano offset
  if (skipBlanks cs).isEmpty ∧ offset.natAbs < 1440 ∧ instant.date.Valid then some instant else none

end Instant
end Leadership
