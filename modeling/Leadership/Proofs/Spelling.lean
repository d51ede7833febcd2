import Mathlib.Data.Nat.Digits.Lemmas
import Leadership.Json.Records
import Leadership.Proofs.Quoting

set_option autoImplicit false

namespace Leadership

section Order
variable {α : Type} [LT α]

theorem append_lt_append_iff (irrefl : ∀ a : α, ¬ a < a) {as bs xs ys : List α} (length : as.length = bs.length) :
    as ++ xs < bs ++ ys ↔ as < bs ∨ as = bs ∧ xs < ys := by
  induction as generalizing bs with
  | nil =>
    obtain rfl : bs = [] := List.length_eq_zero_iff.mp length.symm
    simp
  | cons a as ih =>
    cases bs with
    | nil => simp at length
    | cons b bs =>
      have shorter := @ih bs (by simpa using length)
      rw [List.cons_append, List.cons_append, List.cons_lt_cons_iff, List.cons_lt_cons_iff, shorter,
        List.cons.injEq]
      by_cases same : a = b
      · subst same
        simp [irrefl]
      · simp [same]

theorem map_lt_map_iff {β : Type} [LT β] {f : α → β} {within : α → Prop}
    (mono : ∀ a b, within a → within b → (f a < f b ↔ a < b))
    (inj : ∀ a b, within a → within b → f a = f b → a = b) {as bs : List α} (length : as.length = bs.length)
    (left : ∀ a ∈ as, within a) (right : ∀ b ∈ bs, within b) :
    as.map f < bs.map f ↔ as < bs := by
  induction as generalizing bs with
  | nil =>
    obtain rfl : bs = [] := List.length_eq_zero_iff.mp length.symm
    simp
  | cons a as ih =>
    cases bs with
    | nil => simp at length
    | cons b bs =>
      have first : within a := left a List.mem_cons_self
      have first' : within b := right b List.mem_cons_self
      have shorter := @ih bs (by simpa using length) (fun a mem => left a (List.mem_cons_of_mem _ mem))
        (fun b mem => right b (List.mem_cons_of_mem _ mem))
      have same : f a = f b ↔ a = b := ⟨inj a b first first', congrArg f⟩
      rw [List.map_cons, List.map_cons, List.cons_lt_cons_iff, List.cons_lt_cons_iff, shorter, same,
        mono a b first first']

end Order

section Places
variable {base : Nat}

def places (base : Nat) : Nat → Nat → List Nat
  | 0, _ => []
  | n + 1, v => places base n (v / base) ++ [v % base]

def worth (base : Nat) (ps : List Nat) : Nat := Nat.ofDigits base ps.reverse

theorem worth_cons (p : Nat) (ps : List Nat) : worth base (p :: ps) = worth base ps + base ^ ps.length * p :=
  Nat.ofDigits_reverse_cons ps p

theorem worth_append_singleton (ps : List Nat) (p : Nat) : worth base (ps ++ [p]) = p + base * worth base ps := by
  rw [worth, List.reverse_append, List.reverse_singleton, List.singleton_append, Nat.ofDigits_cons, worth]

theorem worth_lt_pow (proper : 1 < base) {ps : List Nat} (small : ∀ p ∈ ps, p < base) :
    worth base ps < base ^ ps.length := by
  have bound : worth base ps < base ^ ps.reverse.length :=
    Nat.ofDigits_lt_base_pow_length proper fun p mem => small p (List.mem_reverse.mp mem)
  rwa [List.length_reverse] at bound

theorem worth_lt_iff (proper : 1 < base) {ps qs : List Nat} (length : ps.length = qs.length)
    (left : ∀ p ∈ ps, p < base) (right : ∀ q ∈ qs, q < base) : worth base ps < worth base qs ↔ ps < qs := by
  induction ps generalizing qs with
  | nil =>
    obtain rfl : qs = [] := List.length_eq_zero_iff.mp length.symm
    simp
  | cons p ps ih =>
    cases qs with
    | nil => simp at length
    | cons q qs =>
      have tails : ps.length = qs.length := by simpa using length
      have left' : ∀ p ∈ ps, p < base := fun p mem => left p (List.mem_cons_of_mem _ mem)
      have right' : ∀ q ∈ qs, q < base := fun q mem => right q (List.mem_cons_of_mem _ mem)
      have low := worth_lt_pow proper left'
      have low' := worth_lt_pow proper right'
      have shorter := ih tails left' right'
      rw [worth_cons, worth_cons, List.cons_lt_cons_iff, ← shorter, tails]
      rw [tails] at low
      -- The first place outweighs all that follow it.
      rcases Nat.lt_trichotomy p q with less | rfl | more
      · have step := Nat.mul_le_mul_left (base ^ qs.length) less
        rw [Nat.mul_succ] at step
        exact iff_of_true (by omega) (.inl less)
      · simp
      · have step := Nat.mul_le_mul_left (base ^ qs.length) more
        rw [Nat.mul_succ] at step
        exact iff_of_false (by omega) (by omega)

theorem worth_inj (proper : 1 < base) {ps qs : List Nat} (length : ps.length = qs.length)
    (left : ∀ p ∈ ps, p < base) (right : ∀ q ∈ qs, q < base) (same : worth base ps = worth base qs) : ps = qs :=
  List.reverse_injective (Nat.ofDigits_inj_of_len_eq proper (by simpa using length)
    (fun p mem => left p (List.mem_reverse.mp mem)) (fun q mem => right q (List.mem_reverse.mp mem)) same)

@[simp] theorem places_length (base n v : Nat) : (places base n v).length = n := by
  induction n generalizing v with
  | zero => rfl
  | succ n ih => rw [places, List.length_append, ih, List.length_singleton]

theorem places_lt (positive : 0 < base) (n v : Nat) : ∀ p ∈ places base n v, p < base := by
  induction n generalizing v with
  | zero => simp [places]
  | succ n ih =>
    intro p mem
    rcases List.mem_append.mp mem with mem | mem
    · exact ih _ p mem
    · rw [List.mem_singleton.mp mem]
      exact Nat.mod_lt v positive

theorem worth_places (n : Nat) {v : Nat} (small : v < base ^ n) : worth base (places base n v) = v := by
  induction n generalizing v with
  | zero =>
    obtain rfl : v = 0 := by simpa using small
    rfl
  | succ n ih =>
    rw [Nat.pow_succ'] at small
    rw [places, worth_append_singleton, ih (Nat.div_lt_of_lt_mul small), Nat.mod_add_div]

end Places

namespace Token

section Hyphens
variable {ns : List Nat} {ds es text text' : List Char}

/-- `Grouped ns ds text`: the text is `ds` in groups of these sizes, a hyphen between one group and the next. -/
inductive Grouped : List Nat → List Char → List Char → Prop
  | last {n : Nat} {ds : List Char} (size : ds.length = n) : Grouped [n] ds ds
  | group {n m : Nat} {ns : List Nat} {ds rest text : List Char} (size : ds.length = n)
      (next : Grouped (m :: ns) rest text) : Grouped (n :: m :: ns) (ds ++ rest) (ds ++ '-' :: text)

theorem Grouped.length (grouped : Grouped ns ds text) : ds.length = ns.sum := by
  induction grouped with
  | last size => simpa using size
  | group size next ih => rw [List.length_append, size, ih]; rfl

theorem Grouped.text_length (grouped : Grouped ns ds text) : text.length + 1 = ds.length + ns.length := by
  induction grouped with
  | last size => rfl
  | group size next ih =>
    simp only [List.length_append, List.length_cons] at ih ⊢
    omega

theorem grouped_hyphenate (ns : List Nat) (ds : List Char) (proper : ns ≠ []) (length : ds.length = ns.sum) :
    Grouped ns ds (hyphenate ns ds) := by
  induction ns generalizing ds with
  | nil => exact absurd rfl proper
  | cons n ns ih =>
    rw [List.sum_cons] at length
    cases ns with
    | nil => exact .last (by simpa using length)
    | cons m ns =>
      have size : (ds.take n).length = n := by rw [List.length_take]; omega
      have whole := Grouped.group size (ih (ds.drop n) nofun (by rw [List.length_drop]; omega))
      rwa [List.take_append_drop] at whole

theorem Grouped.unhyphenate (grouped : Grouped ns ds text) : unhyphenate? ns text = some ds := by
  induction grouped with
  | last size => rfl
  | group size next ih =>
    subst size
    rw [unhyphenate?, List.drop_left]
    · simp only [ih, Option.map_some, List.take_left]
    · exact nofun

theorem grouped_of_unhyphenate (ns : List Nat) (ds text : List Char) (proper : ns ≠ [])
    (length : text.length + 1 = ns.sum + ns.length) (read : unhyphenate? ns text = some ds) :
    Grouped ns ds text := by
  induction ns generalizing ds text with
  | nil => exact absurd rfl proper
  | cons n ns ih =>
    rw [List.sum_cons, List.length_cons] at length
    cases ns with
    | nil =>
      obtain rfl : text = ds := Option.some.inj read
      exact .last (by simpa using length)
    | cons m ns =>
      simp only [unhyphenate?] at read
      split at read
      · next rest hyphen =>
        obtain ⟨ds', read', rfl⟩ := Option.map_eq_some_iff.mp read
        have cut := congrArg List.length hyphen
        rw [List.length_drop, List.length_cons] at cut
        have size : (text.take n).length = n := by rw [List.length_take]; omega
        have whole := Grouped.group size (ih ds' rest nofun (by omega) read')
        rwa [← hyphen, List.take_append_drop] at whole
      · exact nomatch read

theorem Grouped.unique (left : Grouped ns ds text) (right : Grouped ns ds text') : text = text' := by
  induction left generalizing text' with
  | last size => cases right with | last size' => rfl
  | @group n m ns ds rest text size next ih =>
    generalize whole : ds ++ rest = ds' at right
    cases right with
    | group size' next' =>
      obtain ⟨rfl, rfl⟩ := List.append_inj whole (size.trans size'.symm)
      rw [ih next']

theorem Grouped.mem (grouped : Grouped ns ds text) : ∀ c ∈ text, c = '-' ∨ c ∈ ds := by
  induction grouped with
  | last size => exact fun c mem => .inr mem
  | group size next ih =>
    intro c mem
    simp only [List.mem_append, List.mem_cons] at mem ⊢
    rcases mem with mem | hyphen | mem
    · exact .inr (.inl mem)
    · exact .inl hyphen
    · exact (ih c mem).imp_right .inr

theorem Grouped.lt_iff (left : Grouped ns ds text) (right : Grouped ns es text') : text < text' ↔ ds < es := by
  induction left generalizing es text' with
  | last size => cases right with | last size' => rfl
  | group size next ih =>
    cases right with
    | group size' next' =>
      have length := size.trans size'.symm
      rw [append_lt_append_iff Char.lt_irrefl length, append_lt_append_iff Char.lt_irrefl length,
        List.cons_lt_cons_iff, ih next', or_iff_right (Char.lt_irrefl '-'), and_iff_right rfl]

end Hyphens

section Digits

def alphabet : List Char := ['0', '1', '2', '3', '4', '5', '6', '7', '8', '9', 'a', 'b', 'c', 'd', 'e', 'f']

theorem alphabet_eq : alphabet = (List.range 16).map digit := by decide

theorem digit_of_mem {d : Char} (mem : d ∈ alphabet) : ∃ p < 16, digit p = d := by
  rw [alphabet_eq] at mem
  obtain ⟨p, small, rfl⟩ := List.mem_map.mp mem
  exact ⟨p, List.mem_range.mp small, rfl⟩

def place (d : Char) : Nat := alphabet.idxOf (lower d)

theorem place_lt {d : Char} (known : lower d ∈ alphabet) : place d < 16 := List.idxOf_lt_length_of_mem known

theorem digit_known : ∀ p < 16, lower (digit p) = digit p ∧ digit p ∈ alphabet ∧ place (digit p) = p := by decide

theorem digit_place {d : Char} (mem : d ∈ alphabet) : digit (place d) = d := by
  obtain ⟨p, small, rfl⟩ := digit_of_mem mem
  rw [(digit_known p small).2.2]

theorem hexValue?_eq (d : Char) : Text.hexValue? d = if lower d ∈ alphabet then some (place d) else none := by
  by_cases ascii : d.toNat < 128
  · have table : ∀ n < 128, Text.hexValue? (Char.ofNat n) =
        if lower (Char.ofNat n) ∈ alphabet then some (place (Char.ofNat n)) else none := by decide +kernel
    have entry := table d.toNat ascii
    rwa [Char.ofNat_toNat] at entry
  · have same : lower d = d := if_neg (by omega)
    have strange : d ∉ alphabet := fun known => by
      obtain ⟨p, small, rfl⟩ := digit_of_mem known
      have narrow : ∀ p < 16, (digit p).toNat < 128 := by decide
      exact ascii (narrow p small)
    rw [same, if_neg strange]
    simp only [Text.hexValue?]
    rw [if_neg (by omega), if_neg (by omega), if_neg (by omega)]

theorem readHex?_iff (ds : List Char) (acc v : Nat) : Text.readHex? acc ds = some v ↔
    (∀ d ∈ ds, lower d ∈ alphabet) ∧ worth 16 (ds.map place) + 16 ^ ds.length * acc = v := by
  induction ds generalizing acc with
  | nil => simp [Text.readHex?, worth]
  | cons d ds ih =>
    rw [Text.readHex?, hexValue?_eq, List.forall_mem_cons, List.map_cons, worth_cons, List.length_map,
      List.length_cons]
    by_cases known : lower d ∈ alphabet
    · have carried : worth 16 (ds.map place) + 16 ^ ds.length * place d + 16 ^ (ds.length + 1) * acc =
          worth 16 (ds.map place) + 16 ^ ds.length * (16 * acc + place d) := by ring
      rw [if_pos known, Option.bind_some, ih, and_iff_right known, carried]
    · rw [if_neg known]
      exact iff_of_false nofun fun digits => known digits.1.1

end Digits

structure Numeral (v : Nat) (ds : List Char) : Prop where
  length : ds.length = 32
  known : ∀ d ∈ ds, lower d ∈ alphabet
  worth : worth 16 (ds.map place) = v

/-- The spellings of `v`: its digits plain, with hyphens, with hyphens in braces, and with hyphens behind a lead. -/
inductive Spelled (v : Nat) : List Char → Prop
  | plain {ds : List Char} (numeral : Numeral v ds) : Spelled v ds
  | hyphenated {ds text : List Char} (numeral : Numeral v ds) (grouped : Grouped groups ds text) : Spelled v text
  | braced {ds text : List Char} (numeral : Numeral v ds) (grouped : Grouped groups ds text) :
      Spelled v ('\x7b' :: text ++ ['\x7d'])
  | urn {lead ds text : List Char} (led : lead.map lower = "urn:uuid:".toList) (numeral : Numeral v ds)
      (grouped : Grouped groups ds text) : Spelled v (lead ++ text)

def Standard (v : Nat) (text : List Char) : Prop :=
  ∃ ds, Numeral v ds ∧ (∀ d ∈ ds, lower d = d) ∧ Grouped groups ds text

section Writing
variable {v w : Nat} {ds es text text' : List Char}

theorem digits_eq (n v : Nat) : digits n v = (places 16 n v).map digit := by
  induction n generalizing v with
  | zero => rfl
  | succ n ih => rw [digits, places, ih, List.map_append, List.map_singleton]

theorem Numeral.places (numeral : Numeral v ds) : ∀ p ∈ ds.map place, p < 16 := by
  intro p mem
  obtain ⟨d, digit, rfl⟩ := List.mem_map.mp mem
  exact place_lt (numeral.known d digit)

theorem Numeral.small (numeral : Numeral v ds) : v < limit := by
  have bound := worth_lt_pow (by decide) numeral.places
  rwa [numeral.worth, List.length_map, numeral.length] at bound

theorem places_digits (n v : Nat) : (digits n v).map place = Leadership.places 16 n v := by
  rw [digits_eq, List.map_map]
  have back : ∀ p ∈ Leadership.places 16 n v, place (digit p) = p :=
    fun p mem => (digit_known p (places_lt (by decide) n v p mem)).2.2
  exact (List.map_congr_left back).trans (List.map_id _)

theorem digits_known (n v : Nat) : ∀ d ∈ digits n v, lower d = d ∧ d ∈ alphabet := by
  intro d mem
  rw [digits_eq] at mem
  obtain ⟨p, place, rfl⟩ := List.mem_map.mp mem
  have known := digit_known p (places_lt (by decide) n v p place)
  exact ⟨known.1, known.2.1⟩

theorem numeral_digits (small : v < limit) : Numeral v (digits 32 v) where
  length := by rw [digits_eq, List.length_map, places_length]
  known := fun d mem => by
    have known := digits_known 32 v d mem
    rw [known.1]
    exact known.2
  worth := by rw [places_digits, worth_places 32 small]

theorem Numeral.unique (numeral : Numeral v ds) (plain : ∀ d ∈ ds, lower d = d) : ds = digits 32 v := by
  have read : ds = (ds.map place).map digit := by
    rw [List.map_map]
    refine (List.map_id ds).symm.trans (List.map_congr_left fun d mem => ?_)
    have known := numeral.known d mem
    rw [plain d mem] at known
    exact (digit_place known).symm
  have same : ds.map place = Leadership.places 16 32 v := by
    refine worth_inj (by decide) (by rw [List.length_map, numeral.length, places_length]) numeral.places
      (places_lt (by decide) 32 v) ?_
    rw [numeral.worth, worth_places 32 numeral.small]
  rw [read, same, digits_eq]

theorem standard_iff (t : Token) (text : List Char) : Standard t.value text ↔ text = t.text.toList := by
  have digits := numeral_digits t.value_lt
  have grouped := grouped_hyphenate groups _ nofun digits.length
  rw [Token.text, String.toList_ofList]
  constructor
  · rintro ⟨ds, numeral, plain, grouped'⟩
    rw [numeral.unique plain] at grouped'
    exact grouped'.unique grouped
  · intro written
    rw [written]
    exact ⟨_, digits, fun d mem => (digits_known 32 _ d mem).1, grouped⟩

theorem Numeral.lt_iff (left : Numeral v ds) (right : Numeral w es) (plain : ∀ d ∈ ds, lower d = d)
    (plain' : ∀ e ∈ es, lower e = e) : ds < es ↔ v < w := by
  have length : ds.length = es.length := left.length.trans right.length.symm
  have known : ∀ d ∈ ds, d ∈ alphabet := fun d mem => plain d mem ▸ left.known d mem
  have known' : ∀ e ∈ es, e ∈ alphabet := fun e mem => plain' e mem ▸ right.known e mem
  have rising : ∀ p < 16, ∀ q < 16, ((digit p).toNat < (digit q).toNat ↔ p < q) := by decide
  have mono : ∀ d e, d ∈ alphabet → e ∈ alphabet → (place d < place e ↔ d < e) := by
    intro d e mem mem'
    obtain ⟨p, small, rfl⟩ := digit_of_mem mem
    obtain ⟨q, small', rfl⟩ := digit_of_mem mem'
    rw [(digit_known p small).2.2, (digit_known q small').2.2, ← rising p small q small']
    rfl
  have inj : ∀ d e, d ∈ alphabet → e ∈ alphabet → place d = place e → d = e := by
    intro d e mem mem' same
    rw [← digit_place mem, same, digit_place mem']
  rw [← map_lt_map_iff mono inj length known known',
    ← worth_lt_iff (by decide) (by simpa using length) left.places right.places, left.worth, right.worth]

end Writing

section Reading
variable {v : Nat} {ds text : List Char}

theorem Grouped.size (numeral : Numeral v ds) (grouped : Grouped groups ds text) : text.length = 36 := by
  have length := grouped.text_length
  rw [numeral.length] at length
  exact Nat.succ.inj length

theorem Numeral.of_readHex (length : ds.length = 32) (read : Text.readHex? 0 ds = some v) : Numeral v ds := by
  obtain ⟨known, worth⟩ := (readHex?_iff ds 0 v).mp read
  exact ⟨length, known, by simpa using worth⟩

theorem Numeral.readHex (numeral : Numeral v ds) : Text.readHex? 0 ds = some v :=
  (readHex?_iff ds 0 v).mpr ⟨numeral.known, by simpa using numeral.worth⟩

theorem grouped_of_body (length : text.length = 36) (read : unhyphenate? groups text = some ds) :
    Grouped groups ds text ∧ ds.length = 32 := by
  have grouped := grouped_of_unhyphenate groups ds text nofun (by rw [length]; rfl) read
  exact ⟨grouped, grouped.length⟩

theorem Spelled.body (spelled : Spelled v text) : ∃ ds, body? text = some ds ∧ Numeral v ds := by
  cases spelled with
  | plain numeral => exact ⟨_, by rw [body?, if_pos numeral.length], numeral⟩
  | hyphenated numeral grouped =>
    have size := grouped.size numeral
    exact ⟨_, by rw [body?, if_neg (by omega), if_pos size, grouped.unhyphenate], numeral⟩
  | @braced ds text numeral grouped =>
    have size := grouped.size numeral
    refine ⟨ds, ?_, numeral⟩
    have length : ('\x7b' :: text ++ ['\x7d']).length = 38 := by simp [size]
    have closing : ('\x7b' :: text ++ ['\x7d']).getLast? = some '\x7d' := List.getLast?_concat
    rw [body?, if_neg (by omega), if_neg (by omega), if_pos length, if_pos ⟨rfl, closing⟩, List.cons_append,
      List.drop_one, List.tail_cons, List.dropLast_concat, grouped.unhyphenate]
  | @urn lead ds text led numeral grouped =>
    have size := grouped.size numeral
    have nine : lead.length = 9 := by simpa using congrArg List.length led
    refine ⟨ds, ?_, numeral⟩
    have length : (lead ++ text).length = 45 := by rw [List.length_append, nine, size]
    rw [body?, if_neg (by omega), if_neg (by omega), if_neg (by omega), if_pos length, List.take_left' nine, led,
      List.drop_left' nine, grouped.unhyphenate]
    rfl

theorem spelled_of_body (read : body? text = some ds) (digits : Text.readHex? 0 ds = some v) : Spelled v text := by
  unfold body? at read
  split_ifs at read with plain hyphenated braced ends urn led
  · obtain rfl := Option.some.inj read
    exact .plain (.of_readHex plain digits)
  · obtain ⟨grouped, length⟩ := grouped_of_body hyphenated read
    exact .hyphenated (.of_readHex length digits) grouped
  · obtain ⟨first, last⟩ := ends
    cases text with
    | nil => exact nomatch first
    | cons c cs =>
      obtain rfl := Option.some.inj first
      have inner : cs ≠ [] := by rintro rfl; simp at braced
      have closing : cs = cs.dropLast ++ ['\x7d'] := by
        have found : cs.getLast inner = '\x7d' := by
          rw [List.getLast?_cons_of_ne_nil inner, List.getLast?_eq_getLast_of_ne_nil inner] at last
          exact Option.some.inj last
        rw [← found, List.dropLast_append_getLast]
      obtain ⟨grouped, length⟩ := grouped_of_body (by simpa using braced) read
      rw [closing]
      exact .braced (.of_readHex length digits) grouped
  · obtain ⟨grouped, length⟩ := grouped_of_body (by rw [List.length_drop]; omega) read
    rw [← List.take_append_drop 9 text]
    exact .urn led (.of_readHex length digits) grouped

theorem ofText?_iff (s : String) (t : Token) : ofText? s = some t ↔ Spelled t.value s.toList := by
  constructor
  · intro read
    obtain ⟨v, read, made⟩ := Option.bind_eq_some_iff.mp read
    obtain ⟨ds, body, digits⟩ := Option.bind_eq_some_iff.mp read
    unfold ofNat? at made
    split at made
    · obtain rfl := Option.some.inj made
      exact spelled_of_body body digits
    · exact nomatch made
  · intro spelled
    obtain ⟨ds, body, numeral⟩ := spelled.body
    rw [ofText?, body, Option.bind_some, numeral.readHex, Option.bind_some, ofNat?, dif_pos t.value_lt]

theorem ofJson?_iff (j : Json) (t : Token) : ofJson? j = some t ↔ ∃ s, j = .str s ∧ Spelled t.value s.toList := by
  constructor
  · intro read
    obtain ⟨s, text, read⟩ := Option.bind_eq_some_iff.mp read
    refine ⟨s, ?_, (ofText?_iff s t).mp read⟩
    cases j with
    | text value => rw [Json.str, show value = some s from text]
    | _ => exact nomatch text
  · rintro ⟨s, rfl, spelled⟩
    exact (ofText?_iff s t).mpr spelled

end Reading

def bytes (t : Token) : List Nat := places 256 16 t.value

theorem worth_bytes (t : Token) : worth 256 t.bytes = t.value := worth_places 16 t.value_lt

theorem bytes_lt_iff (t u : Token) : t.bytes < u.bytes ↔ t < u := by
  have length : t.bytes.length = u.bytes.length := by rw [bytes, bytes, places_length, places_length]
  rw [← worth_lt_iff (by decide) length (places_lt (by decide) 16 _) (places_lt (by decide) 16 _), worth_bytes,
    worth_bytes]
  rfl

theorem text_lt_iff (t u : Token) : t.text < u.text ↔ t < u := by
  obtain ⟨ds, numeral, plain, grouped⟩ := (standard_iff t _).mpr rfl
  obtain ⟨es, numeral', plain', grouped'⟩ := (standard_iff u _).mpr rfl
  rw [String.lt_iff, grouped.lt_iff grouped', numeral.lt_iff numeral' plain plain']
  rfl

theorem spelled_text (t : Token) : Spelled t.value t.text.toList := by
  obtain ⟨ds, numeral, plain, grouped⟩ := (standard_iff t _).mpr rfl
  exact .hyphenated numeral grouped

theorem spelled_spell (t : Token) (form : Spelling) : Spelled t.value (t.spell form).toList := by
  have numeral := numeral_digits t.value_lt
  have grouped := grouped_hyphenate groups _ nofun numeral.length
  cases form with
  | plain => rw [spell, String.toList_ofList]; exact .plain numeral
  | hyphenated => exact t.spelled_text
  | braced => rw [spell, String.toList_ofList]; exact .braced numeral grouped
  | urn => rw [spell, String.toList_ofList]; exact .urn (by decide) numeral grouped

theorem text_inj {t u : Token} (same : t.text = u.text) : t = u := by
  have read := (ofText?_iff t.text t).mpr t.spelled_text
  rw [same, (ofText?_iff u.text u).mpr u.spelled_text] at read
  exact (Option.some.inj read).symm

theorem render_toJson (t : Token) : Json.render t.toJson = "\"" ++ t.text ++ "\"" := by
  have plain_digit : ∀ p < 16, Json.escaped (digit p) = [digit p] := by decide
  have unescaped : ∀ c ∈ '-' :: alphabet, Json.escaped c = [c] := by
    refine List.forall_mem_cons.mpr ⟨by decide, fun c mem => ?_⟩
    obtain ⟨p, small, rfl⟩ := digit_of_mem mem
    exact plain_digit p small
  have written : ∀ c ∈ t.text.toList, c ∈ '-' :: alphabet := by
    obtain ⟨ds, numeral, plain, grouped⟩ := (standard_iff t _).mpr rfl
    intro c mem
    rcases grouped.mem c mem with rfl | digit
    · exact List.mem_cons_self
    · exact List.mem_cons_of_mem _ (plain c digit ▸ numeral.known c digit)
  have same : t.text.toList.flatMap Json.escaped = t.text.toList :=
    (List.flatMap_congr fun c mem => unescaped c (written c mem)).trans (List.flatMap_singleton' _)
  refine String.toList_inj.mp ?_
  rw [show Json.render t.toJson = Json.quote t.text from rfl, Json.quote_toList, same]
  simp

/-- A token has one text, which is what it is serialized as; what is read as the token is exactly what spells its
value; and tokens are in the order of their bytes, of their values and of their texts. -/
theorem text_faithful (t : Token) :
    (∀ s : String, Standard t.value s.toList ↔ s = t.text) ∧
      t.toJson = .str t.text ∧ Json.render t.toJson = "\"" ++ t.text ++ "\"" ∧
      Spelled t.value t.text.toList ∧ (∀ form : Spelling, Spelled t.value (t.spell form).toList) ∧
      (∀ j : Json, ofJson? j = some t ↔ ∃ s, j = .str s ∧ Spelled t.value s.toList) ∧
      (∀ s : String, (Json.ofText? (Json.quote s)).bind ofJson? = some t ↔ Spelled t.value s.toList) ∧
      t.bytes.length = 16 ∧ (∀ b ∈ t.bytes, b < 256) ∧ worth 256 t.bytes = t.value ∧
      ∀ u : Token, (t < u ↔ t.bytes < u.bytes) ∧ (t < u ↔ t.value < u.value) ∧ (t < u ↔ t.text < u.text) ∧
        (t.text = u.text ↔ t = u) := by
  refine ⟨fun s => ?_, rfl, t.render_toJson, t.spelled_text, t.spelled_spell, fun j => ofJson?_iff j t, fun s => ?_,
    places_length 256 16 _, places_lt (by decide) 16 _, t.worth_bytes,
    fun u => ⟨(bytes_lt_iff t u).symm, .rfl, (text_lt_iff t u).symm, ?_⟩⟩
  · rw [standard_iff, String.toList_inj]
  · rw [Json.ofText?_quote]
    exact ofText?_iff s t
  · exact ⟨text_inj, congrArg text⟩

example : ofText? "URN:uuid:F9168C5e-ceb2-4FAA-b6bf-329bf39fa1e4" = ofNat? 0xf9168c5eceb24faab6bf329bf39fa1e4 := by
  decide

end Token
end Leadership
