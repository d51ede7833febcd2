import Leadership.Json.Printer
import Leadership.Json.Reader

set_option autoImplicit false

namespace Leadership.Json

open Text

def escaped (c : Char) : List Char := (escapeChar c).toList

theorem control_escaped : ∀ n < 32,
    escaped (Char.ofNat n) = ['\\', 'u', '0', '0', Nat.digitChar (n / 16), Nat.digitChar (n % 16)] ∧
      unit? '0' '0' (Nat.digitChar (n / 16)) (Nat.digitChar (n % 16)) = some n := by decide

theorem pieces?_escaped (c : Char) (cs : List Char) :
    pieces? (escaped c ++ cs) = (pieces? cs).map fun (ps, rest) => (.char c :: ps, rest) := by
  by_cases quote : c = '"'
  · subst quote
    simp [escaped, escapeChar, pieces?, simpleEscape?]
  by_cases backslash : c = '\\'
  · subst backslash
    simp [escaped, escapeChar, pieces?, simpleEscape?]
  by_cases control : c.toNat < 32
  · obtain ⟨written, read⟩ := control_escaped c.toNat control
    have plain : (isHigh c.toNat || isLow c.toNat) = false := by
      simp only [isHigh, isLow, Bool.or_eq_false_iff, decide_eq_false_iff_not]
      omega
    rw [Char.ofNat_toNat] at written
    simp only [written, List.cons_append, List.nil_append, pieces?, read, plain, Bool.false_eq_true, if_false,
      Char.ofNat_toNat]
  · have written : escaped c = [c] := by
      simp [escaped, escapeChar, quote, backslash, control]
    rw [written, List.singleton_append, pieces?]
    · rw [if_neg (not_or.mpr ⟨control, backslash⟩)]
    all_goals simp_all

theorem pieces?_quoted (cs rest : List Char) :
    pieces? (cs.flatMap escaped ++ '"' :: rest) = some (cs.map .char, rest) := by
  induction cs with
  | nil => simp [pieces?]
  | cons c cs ih => rw [List.flatMap_cons, List.append_assoc, pieces?_escaped, ih, Option.map_some, List.map_cons]

theorem join?_chars (cs : List Char) : join? (cs.map .char) = some cs := by
  induction cs with
  | nil => rfl
  | cons c cs ih => rw [List.map_cons, join?, ih, Option.map_some]

theorem quote_toList (s : String) : (quote s).toList = '"' :: s.toList.flatMap escaped ++ ['"'] := by
  have grown : ∀ (cs : List Char) (acc : String),
      (cs.foldl (fun acc c => acc ++ escapeChar c) acc).toList = acc.toList ++ cs.flatMap escaped := by
    intro cs
    induction cs with
    | nil => simp
    | cons c cs ih => simp [ih, escaped]
  simp [quote, String.foldl_eq_foldl_toList, grown]

theorem ofText?_quote (s : String) : ofText? (quote s) = some (.str s) := by
  have read : string? (s.toList.flatMap escaped ++ ['"']) = some (some s, []) := by
    simp only [string?, pieces?_quoted, join?_chars, Option.map_some, String.ofList_toList]
  have spaceless : ∀ cs, skipSpace ('"' :: cs) = '"' :: cs := fun cs => List.dropWhile_cons_of_neg (by decide)
  rw [ofText?, quote_toList]
  simp only [List.cons_append, value?, spaceless, read, Option.map_some]
  rfl

end Leadership.Json
