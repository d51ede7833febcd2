import Leadership.Instant
import Mathlib.Tactic.NormNum

set_option autoImplicit false

namespace Leadership
namespace Text

theorem decimalDigit_known : ∀ d < 10, isDigit (decimalDigit d) = true ∧ digitValue (decimalDigit d) = d ∧
    isBlank (decimalDigit d) = false ∧ decimalDigit d ≠ '-' ∧ decimalDigit d ≠ '+' := by decide

theorem padded_length (width n : Nat) : (padded width n).length = width := by
  induction width generalizing n with
  | zero => rfl
  | succ width ih => rw [padded, List.length_append, ih, List.length_singleton]

theorem mem_padded (width n : Nat) : ∀ c ∈ padded width n, ∃ d < 10, decimalDigit d = c := by
  induction width generalizing n with
  | zero => simp [padded]
  | succ width ih =>
    intro c mem
    rcases List.mem_append.mp mem with mem | mem
    · exact ih _ c mem
    · exact ⟨n % 10, Nat.mod_lt n (by decide), (List.mem_singleton.mp mem).symm⟩

theorem padded_digits (width n : Nat) : ∀ c ∈ padded width n, isDigit c = true := by
  intro c mem
  obtain ⟨d, small, rfl⟩ := mem_padded width n c mem
  exact (decimalDigit_known d small).1

theorem padded_cons (width n : Nat) : ∃ d < 10, ∃ cs, padded (width + 1) n = decimalDigit d :: cs := by
  cases written : padded (width + 1) n with
  | nil =>
    have length := padded_length (width + 1) n
    rw [written] at length
    cases length
  | cons c cs =>
    obtain ⟨d, small, rfl⟩ := mem_padded (width + 1) n c (written ▸ List.mem_cons_self)
    exact ⟨d, small, cs, rfl⟩

theorem ofDigits_padded {width n : Nat} (small : n < 10 ^ width) : ofDigits 0 (padded width n) = n := by
  induction width generalizing n with
  | zero =>
    obtain rfl : n = 0 := by simpa using small
    rfl
  | succ width ih =>
    rw [Nat.pow_succ'] at small
    have front : ofDigits 0 (padded width (n / 10)) = n / 10 := ih (Nat.div_lt_of_lt_mul small)
    have last := (decimalDigit_known (n % 10) (Nat.mod_lt n (by decide))).2.1
    simp only [ofDigits] at front
    rw [padded, ofDigits, List.foldl_append, front, List.foldl_cons, List.foldl_nil, last, Nat.div_add_mod]

theorem takeDigits_append (limit : Nat) (ds rest : List Char) (digits : ∀ c ∈ ds, isDigit c = true)
    (fits : ds.length ≤ limit) (stops : ds.length < limit → ∀ c ∈ rest.head?, isDigit c = false) :
    takeDigits limit (ds ++ rest) = (ds, rest) := by
  induction ds generalizing limit with
  | nil =>
    cases limit with
    | zero => rfl
    | succ limit =>
      cases rest with
      | nil => rfl
      | cons c cs =>
        have stop := stops limit.succ_pos c rfl
        simp [takeDigits, stop]
  | cons d ds ih =>
    cases limit with
    | zero => exact absurd fits (Nat.not_succ_le_zero _)
    | succ limit =>
      have first := digits d List.mem_cons_self
      have others := ih limit (fun c mem => digits c (List.mem_cons_of_mem d mem)) (Nat.le_of_succ_le_succ fits)
        fun short => stops (Nat.succ_lt_succ short)
      simp only [List.cons_append, takeDigits, first, if_true, others]

theorem number?_padded (width : Nat) {n : Nat} (small : n < 10 ^ (width + 1)) (rest : List Char) :
    number? (width + 1) (padded (width + 1) n ++ rest) = some (n, rest) := by
  have length := padded_length (width + 1) n
  have value := ofDigits_padded small
  obtain ⟨d, _, cs, written⟩ := padded_cons width n
  rw [number?, takeDigits_append _ _ _ (padded_digits _ n) (Nat.le_of_eq length)
    fun short => absurd length (Nat.ne_of_lt short)]
  rw [written] at value ⊢
  simp only [value]

theorem skipBlanks_padded (width n : Nat) (rest : List Char) :
    skipBlanks (padded (width + 1) n ++ rest) = padded (width + 1) n ++ rest := by
  obtain ⟨d, small, cs, written⟩ := padded_cons width n
  rw [written, List.cons_append, skipBlanks, List.dropWhile_cons_of_neg]
  rw [(decimalDigit_known d small).2.2.1]
  exact Bool.false_ne_true

end Text

namespace Instant

open Text

structure Proper (i : Instant) : Prop where
  date : i.date.Valid
  second : i.second < 86400

/-- A year of four digits, and no leap second. -/
structure Plain (i : Instant) : Prop where
  first : 0 ≤ i.date.year
  last : i.date.year ≤ 9999
  steady : i.nano < nanosPerSecond

section Writing

theorem year?_padded {n : Nat} (small : n < 10000) (rest : List Char) :
    year? (padded 4 n ++ rest) = some ((n : Int), rest) := by
  have read := number?_padded 3 small rest
  have skipped := skipBlanks_padded 3 n rest
  obtain ⟨d, digit, cs, written⟩ := padded_cons 3 n
  obtain ⟨_, _, _, minus, plus⟩ := decimalDigit_known d digit
  rw [year?, skipped]
  rw [written, List.cons_append] at read ⊢
  split
  · next same => exact absurd (List.cons.inj same).1 minus
  · next same => exact absurd (List.cons.inj same).1 plus
  · rw [read, Option.map_some]

theorem field?_padded (low high : Nat) {n : Nat} (within : low ≤ n ∧ n ≤ high) (small : n < 100) (rest : List Char) :
    field? low high (padded 2 n ++ rest) = some (n, rest) := by
  rw [field?, skipBlanks_padded 1, number?_padded 1 small, Option.bind_some]
  exact if_pos within

theorem mark?_self (mark : Char) (solid : isBlank mark = false) (rest : List Char) :
    mark? mark (skipBlanks (mark :: rest)) = some rest := by
  rw [skipBlanks, List.dropWhile_cons_of_neg (by simp [solid]), mark?, if_pos rfl]

theorem date?_written (d : Date) (valid : d.Valid) (first : 0 ≤ d.year) (last : d.year ≤ 9999) (rest : List Char) :
    date? (padded 4 d.year.toNat ++ '-' :: (padded 2 d.month ++ '-' :: (padded 2 d.day ++ rest))) =
      some (d, rest) := by
  have ⟨_, _, month, month', day, day'⟩ := valid
  have days : Date.monthLength d.year d.month ≤ 31 := by
    unfold Date.monthLength
    split_ifs <;> decide
  have year : (d.year.toNat : Int) = d.year := Int.toNat_of_nonneg first
  have valid' : Date.Valid ⟨(d.year.toNat : Int), d.month, d.day⟩ := by rwa [year]
  simp only [date?, bind, Option.bind, year?_padded (n := d.year.toNat) (by omega), mark?_self '-' (by decide),
    field?_padded 1 12 ⟨month, month'⟩ (by omega), field?_padded 1 31 ⟨day, Nat.le_trans day' days⟩ (by omega)]
  rw [if_pos valid', year]

theorem fraction?_padded (width : Nat) {n : Nat} (fits : width + 1 ≤ 9) (small : n < 10 ^ (width + 1)) :
    fraction? ('.' :: padded (width + 1) n ++ ['Z']) = some (n * Nat.pow 10 (9 - (width + 1)), ['Z']) := by
  have length := padded_length (width + 1) n
  have value := ofDigits_padded small
  have taken : takeDigits 9 (padded (width + 1) n ++ ['Z']) = (padded (width + 1) n, ['Z']) :=
    takeDigits_append 9 _ _ (padded_digits _ n) (Nat.le_trans (Nat.le_of_eq length) fits) fun _ c mem => by
      cases mem
      rfl
  obtain ⟨d, _, cs, written⟩ := padded_cons width n
  rw [written] at length value taken
  rw [written, List.cons_append, fraction?, taken, ← length]
  simp only [value]
  rfl

theorem fraction?_written {nano : Nat} (steady : nano < nanosPerSecond) :
    fraction? (fractionText nano ++ ['Z']) = some (nano, ['Z']) := by
  rw [nanosPerSecond] at steady
  unfold fractionText
  split_ifs with whole milli micro
  · subst whole
    rfl
  · rw [fraction?_padded 2 (by decide) (by omega), show Nat.pow 10 (9 - (2 + 1)) = 1000000 from rfl]
    rw [Nat.div_mul_cancel (Nat.dvd_of_mod_eq_zero milli)]
  · rw [fraction?_padded 5 (by decide) (by omega), show Nat.pow 10 (9 - (5 + 1)) = 1000 from rfl]
    rw [Nat.div_mul_cancel (Nat.dvd_of_mod_eq_zero micro)]
  · rw [fraction?_padded 8 (by decide) (by omega), show Nat.pow 10 (9 - (8 + 1)) = 1 from rfl, Nat.mul_one]

theorem time?_written {second nano : Nat} (within : second < 86400) (steady : nano < nanosPerSecond) :
    time? (padded 2 (second / 3600) ++ ':' :: (padded 2 (second / 60 % 60) ++
        ':' :: (padded 2 (second % 60) ++ (fractionText nano ++ ['Z'])))) = some ((second, nano), ['Z']) := by
  have total : 3600 * (second / 3600) + 60 * (second / 60 % 60) + second % 60 = second := by omega
  have regular : second % 60 ≠ 60 := by omega
  simp only [time?, bind, Option.bind, field?_padded 0 23 (n := second / 3600) (by omega) (by omega),
    mark?_self ':' (by decide), field?_padded 0 59 (n := second / 60 % 60) (by omega) (by omega),
    field?_padded 0 60 (n := second % 60) (by omega) (by omega), fraction?_written steady]
  rw [if_neg regular, total]

theorem toUTC_self (date : Date) {second : Nat} (within : second < 86400) (nano : Nat) :
    toUTC date second nano 0 = ⟨date, second, nano⟩ := by
  unfold toUTC
  simp only [Int.mul_zero, Int.sub_zero, Int.toNat_natCast]
  rw [if_neg (by omega), if_pos (by omega)]

theorem chars_plain {i : Instant} (plain : i.Plain) :
    i.chars = padded 4 i.date.year.toNat ++ '-' :: (padded 2 i.date.month ++ '-' :: (padded 2 i.date.day ++
      'T' :: (padded 2 (i.second / 3600) ++ ':' :: (padded 2 (i.second / 60 % 60) ++
        ':' :: (padded 2 (i.second % 60) ++ (fractionText i.nano ++ ['Z'])))))) := by
  have steady : ¬ nanosPerSecond ≤ i.nano := Nat.not_le.mpr plain.steady
  simp only [chars, yearText, if_pos (And.intro plain.first plain.last), steady, decide_false, Bool.false_eq_true,
    if_false, Nat.add_zero, List.append_assoc, List.cons_append]

theorem ofText?_text {i : Instant} (proper : i.Proper) (plain : i.Plain) : ofText? i.text = some i := by
  have date := date?_written i.date proper.date plain.first plain.last
  have time := time?_written proper.second plain.steady
  rw [text, ofText?, String.toList_ofList, chars_plain plain]
  have ending : offset? (skipBlanks ['Z']) = some (0, []) := rfl
  simp only [bind, Option.bind, date, separator?, time, ending, toUTC_self i.date proper.second i.nano]
  exact if_pos ⟨rfl, by decide, proper.date⟩

end Writing

section Reading
variable {cs rest : List Char}

theorem field?_le {low high n : Nat} (read : field? low high cs = some (n, rest)) : n ≤ high := by
  obtain ⟨⟨m, after⟩, _, checked⟩ := Option.bind_eq_some_iff.mp read
  simp only [Option.ite_none_right_eq_some, Option.some.injEq, Prod.mk.injEq] at checked
  obtain ⟨⟨_, high⟩, rfl, _⟩ := checked
  exact high

theorem time?_lt {second nano : Nat} (read : time? cs = some ((second, nano), rest)) : second < 86400 := by
  simp only [time?, bind, Option.bind_eq_some_iff, Prod.exists] at read
  obtain ⟨hour, _, hours, _, _, minute, _, minutes, _, _, number, _, seconds, fraction, _, _, made⟩ := read
  have hour_le := field?_le hours
  have minute_le := field?_le minutes
  have number_le := field?_le seconds
  split_ifs at made with leap
  · cases made
    omega
  · cases made
    omega

theorem toUTC_second {date : Date} {second nano : Nat} {offset : Int} (within : second < 86400)
    (near : offset.natAbs < 1440) : (toUTC date second nano offset).second < 86400 := by
  simp only [toUTC]
  split_ifs <;> dsimp only <;> omega

theorem proper_of_ofText {s : String} {i : Instant} (read : ofText? s = some i) : i.Proper := by
  simp only [ofText?, bind, Option.bind_eq_some_iff, Prod.exists] at read
  obtain ⟨date, _, _, _, _, second, nano, _, time, offset, _, _, made⟩ := read
  split_ifs at made with fits
  · cases made
    exact ⟨fits.2.2, toUTC_second (time?_lt time) fits.2.1⟩

end Reading

example : (ofText? " 2024-3-1t00:00:00.120+00:30").map text = some "2024-02-29T23:30:00.120Z" := by decide

end Instant
end Leadership
