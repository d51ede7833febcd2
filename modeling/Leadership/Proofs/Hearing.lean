import Leadership.Proofs.Activation
import Leadership.Proofs.Mandate

set_option autoImplicit false

namespace Leadership

def Fence.Before (s t : Fence) : Prop := ∃ x y, s = .minted x ∧ t = .minted y ∧ x < y

theorem Fence.Before.ne {s t : Fence} (earlier : s.Before t) : s ≠ t := by
  obtain ⟨x, y, rfl, rfl, less⟩ := earlier
  intro same
  cases same
  exact Nat.lt_irrefl x less

def tokens (ns : List (Nat × Option (Leader Fence))) : List Fence :=
  ns.filterMap fun p => p.2.map Leader.token

def lastWord (ns : List (Nat × Option (Leader Fence))) : Option (Leader Fence) := ns.getLast?.bind Prod.snd

theorem tokens_append (ns ms : List (Nat × Option (Leader Fence))) : tokens (ns ++ ms) = tokens ns ++ tokens ms :=
  List.filterMap_append

theorem lastWord_concat (ns : List (Nat × Option (Leader Fence))) (party : Nat) (leader : Option (Leader Fence)) :
    lastWord (ns ++ [(party, leader)]) = leader := by
  rw [lastWord, List.getLast?_concat]
  rfl

namespace System
variable {sys : System} {calls : List Call}

theorem grants_minted (lawful : Lawful {} calls) (i : Nat) (c : Contender) (token : Fence)
    (grants : Grants calls i c token) :
    ∃ n, token = .minted n ∧ (before calls i).ledger.minted < n ∧ n ≤ (before calls (i + 1)).ledger.minted := by
  obtain ⟨x, a, party, made, _, work⟩ := grants
  exact (made_granted lawful i x a _ token made work).2.2.2

theorem commits_ordered (lawful : Lawful {} calls) (k k' : Nat) (less : k < k') (c c' : Contender)
    (home : c.home = c'.home) (token token' : Fence) (address address' : String)
    (first : Commits calls k c token address) (second : Commits calls k' c' token' address') :
    token.Before token' := by
  obtain ⟨g, past, granted, _⟩ := commit_granted lawful k c token address first
  obtain ⟨g', past', granted', lasting⟩ := commit_granted lawful k' c' token' address' second
  have ended := (commit_outcome lawful k c token address first).1
  have later : k ≤ g' := by
    by_contra early
    -- The second proposal would have stood when the first was confirmed, and after that.
    obtain ⟨v, found, proposed, current⟩ := lasting k (by omega) (Nat.le_of_lt less)
    obtain ⟨w, present, proposed', current'⟩ := first.2
    rw [home] at present
    cases found.symm.trans present
    obtain ⟨u, after, still, kept⟩ := lasting (k + 1) (by omega) less
    rw [← home] at after
    exact ended ⟨u, after, still.trans (proposed.symm.trans proposed'), kept.trans (current.symm.trans current')⟩
  obtain ⟨x, rfl, _, within⟩ := grants_minted lawful g c token granted
  obtain ⟨y, rfl, above, _⟩ := grants_minted lawful g' c' token' granted'
  have grown := minted_later lawful (g + 1) g' (by omega)
  exact ⟨x, y, rfl, rfl, by omega⟩

theorem Sound.leads_of_leader (sound : sys.Sound) (s : Nat) (lead : Leader Fence)
    (leads : sys.leader? s = some lead) :
    ∃ c, .contender c ∈ sys.enrolled ∧ c.home = s ∧ sys.Leads c lead := by
  cases found : sys.services[s]? with
  | none => simp [leader?, found] at leads
  | some v =>
    rw [leader_of_service s v found] at leads
    obtain ⟨id, confirmed⟩ := confirmed_of_leader v.slot lead leads
    obtain ⟨m, _, member, rfl⟩ := (sound.desks s v found).seat id (.inr confirmed)
    obtain ⟨known, home⟩ := (sound.desks s v found).contenders m member
    have place : m.registration.home = s := home
    exact ⟨m.registration, known, place, v, place.symm ▸ found, confirmed, leads⟩

-- Who is to be announced to a listener that was started by the `i`-th call: whoever led then, and
-- whoever was confirmed since.
def Due (calls : List Call) (i n s : Nat) (token : Fence) : Prop :=
  (∃ lead, (before calls i).leader? s = some lead ∧ lead.token = token) ∨
    ∃ k c address, i < k ∧ k < n ∧ c.home = s ∧ Commits calls k c token address

theorem due_succ (i n s : Nat) (token : Fence) (past : i < n) :
    Due calls i (n + 1) s token ↔
      Due calls i n s token ∨ ∃ c address, c.home = s ∧ Commits calls n c token address := by
  constructor
  · intro due
    rcases due with led | ⟨k, c, address, after, within, home, commits⟩
    · exact .inl (.inl led)
    · rcases Nat.lt_succ_iff_lt_or_eq.mp within with earlier | rfl
      · exact .inl (.inr ⟨k, c, address, after, earlier, home, commits⟩)
      · exact .inr ⟨c, address, home, commits⟩
  · intro either
    rcases either with (led | ⟨k, c, address, after, within, home, commits⟩) | ⟨c, address, home, commits⟩
    · exact .inl led
    · exact .inr ⟨k, c, address, after, Nat.lt_succ_of_lt within, home, commits⟩
    · exact .inr ⟨n, c, address, past, Nat.lt_succ_self n, home, commits⟩

theorem due_before (lawful : Lawful {} calls) (i n : Nat) (past : i < n) (token token' : Fence) (c : Contender)
    (address : String) (due : Due calls i n c.home token) (commits : Commits calls n c token' address) :
    token.Before token' := by
  rcases due with ⟨lead, led, rfl⟩ | ⟨k, c', address', _, within, home, first⟩
  · obtain ⟨g, known, home, leads⟩ := (sound_before lawful i).leads_of_leader c.home lead led
    obtain ⟨k, before_, first, _⟩ := leader_since lawful i g lead known leads
    exact commits_ordered lawful k n (by omega) g c home lead.token token' lead.address address first commits
  · exact commits_ordered lawful k n within c' c home token token' address' address first commits

theorem told_commit (lawful : Lawful {} calls) (n s : Nat) (word : Option (Option (Leader Fence)))
    (told : Told calls n s word) (willing : (before calls (n + 1)).Willing s) (c : Contender) (token : Fence)
    (address : String) (home : c.home = s) (commits : Commits calls n c token address) :
    word = some (some ⟨address, token⟩) := by
  subst home
  have pending : (before calls n).Pending c.home := by
    obtain ⟨v, found, proposed, _⟩ := commits.2
    exact ⟨v, found, Option.isSome_iff_exists.mpr ⟨c.id, proposed⟩⟩
  have vacant := (sound_before lawful n).vacant_of_pending c.home pending
  have leads : (before calls (n + 1)).leader? c.home = some ⟨address, token⟩ := by
    rcases (commit_outcome lawful n c token address commits).2 with ⟨v, found, _, leader⟩ | rejected
    · rw [leader_of_service c.home v found, leader]
    · obtain ⟨_, x, a, _, why, _, _, made, service, _, verdict⟩ := rejected
      exact absurd verdict (willing a (List.mem_of_getElem? made.2) service why)
  cases told with
  | silence same still =>
    rw [leads, vacant] at same
    cases same
  | handover g lead home handed =>
    obtain ⟨now, asked⟩ := commits.1
    cases asked.symm.trans handed.asked
  | vacancy empty unproposed => cases leads.symm.trans empty
  | leader g lead home confirms now => cases leads.symm.trans now; rfl
  | closed down =>
    obtain ⟨v, found, gone⟩ := down
    have empty : v.slot = {} := (((sound_before lawful (n + 1)).desks c.home v found).down gone).1
    rw [leader_of_service c.home v found, empty] at leads
    cases leads

theorem heard_start (calls : List Call) (i : Nat) (l : Listener) : heard calls i i l = [] := by
  rw [heard, List.drop_length]
  rfl

theorem heard_begun (lawful : Lawful {} calls) (i : Nat) (l : Listener) (party : Nat)
    (activation : Activation calls i (i + 1) l party) :
    heard calls i (i + 1) l = ((before calls i).leader? l.home).toList.map fun lead => (party, some lead) := by
  obtain ⟨_, _, said⟩ := begun_call lawful i l party activation.began activation.successful
  rw [heard_succ lawful i i l (Nat.le_refl i), heard_start, List.nil_append, said]

theorem heard_tokens (lawful : Lawful {} calls) (i n : Nat) (l : Listener) (party : Nat)
    (activation : Activation calls i n l party) (willing : (before calls n).Willing l.home) :
    (∀ p ∈ heard calls i n l, p.1 = party) ∧ (tokens (heard calls i n l)).Pairwise Fence.Before ∧
      ∀ token, token ∈ tokens (heard calls i n l) ↔ Due calls i n l.home token := by
  induction n with
  | zero => exact absurd activation.past (Nat.not_lt_zero i)
  | succ n ih =>
    by_cases first : i = n
    · subst first
      have nothing (token : Fence) : Due calls i (i + 1) l.home token ↔
          ∃ lead, (before calls i).leader? l.home = some lead ∧ lead.token = token := by
        refine or_iff_left ?_
        rintro ⟨k, _, _, after, within, _⟩
        omega
      rw [heard_begun lawful i l party activation]
      cases led : (before calls i).leader? l.home with
      | none => exact ⟨by simp, by simp [tokens], by simp [tokens, nothing, led]⟩
      | some lead => exact ⟨by simp, by simp [tokens], by simp [tokens, nothing, led, eq_comm]⟩
    · have past : i < n := by
        have within := activation.past
        omega
      obtain ⟨parties, ordered, due⟩ :=
        ih (activation.earlier past) (willing.earlier lawful (Nat.le_succ n))
      -- The listener has been registered all the time, so that this call tells it what it tells all.
      have listened := activation.listens lawful n past (Nat.lt_succ_self n)
      obtain ⟨word, told, said⟩ := told_call lawful n l party listened willing
      have fresh (token : Fence) : token ∈ tokens (word.map fun leader => (party, leader)).toList ↔
          ∃ c address, c.home = l.home ∧ Commits calls n c token address := by
        constructor
        · intro listed
          cases told with
          | silence | handover | closed | vacancy => cases listed
          | leader c lead home commits leads =>
            cases List.mem_singleton.mp listed
            exact ⟨c, lead.address, home, commits⟩
        · rintro ⟨c, address, home, commits⟩
          rw [told_commit lawful n l.home word told willing c token address home commits]
          exact List.mem_singleton.mpr rfl
      have single : (tokens (word.map fun leader => (party, leader)).toList).Pairwise Fence.Before := by
        rcases word with _ | _ | lead <;> simp [tokens]
      rw [heard_succ lawful i n l (Nat.le_of_lt past), said, tokens_append]
      refine ⟨?_, List.pairwise_append.mpr ⟨ordered, single, ?_⟩, ?_⟩
      · intro p listed
        rcases List.mem_append.mp listed with old | new
        · exact parties p old
        · obtain ⟨leader, _, rfl⟩ := Option.map_eq_some_iff.mp (Option.mem_toList.mp new)
          rfl
      · intro token old token' new
        obtain ⟨c, address, home, commits⟩ := (fresh token').mp new
        exact due_before lawful i n past token token' c address (home.symm ▸ (due token).mp old) commits
      · intro token
        rw [List.mem_append, due_succ i n l.home token past, due token, fresh token]

-- Since the listener was started, a leader has been handed over to a proposal, and one proposal or
-- another has stood ever since.
def Limbo (calls : List Call) (i n s : Nat) (lead : Leader Fence) : Prop :=
  ∃ k c, i < k ∧ k < n ∧ c.home = s ∧ HandsOver calls k c lead ∧
    ∀ j, k < j → j ≤ n → (before calls j).Pending s

theorem limbo_succ (i n s : Nat) (lead : Leader Fence) (past : i < n) :
    Limbo calls i (n + 1) s lead ↔ (before calls (n + 1)).Pending s ∧
      (Limbo calls i n s lead ∨ ∃ c, c.home = s ∧ HandsOver calls n c lead) := by
  constructor
  · rintro ⟨k, c, after, within, home, handed, lasting⟩
    refine ⟨lasting (n + 1) (by omega) (Nat.le_refl _), ?_⟩
    rcases Nat.lt_succ_iff_lt_or_eq.mp within with earlier | rfl
    · exact .inl ⟨k, c, after, earlier, home, handed, fun j late early => lasting j late (Nat.le_succ_of_le early)⟩
    · exact .inr ⟨c, home, handed⟩
  · rintro ⟨pending, ⟨k, c, after, within, home, handed, lasting⟩ | ⟨c, home, handed⟩⟩
    · refine ⟨k, c, after, Nat.lt_succ_of_lt within, home, handed, fun j late early => ?_⟩
      rcases Nat.le_succ_iff.mp early with kept | rfl
      · exact lasting j late kept
      · exact pending
    · refine ⟨n, c, past, Nat.lt_succ_self n, home, handed, fun j late early => ?_⟩
      have last : j = n + 1 := by omega
      exact last ▸ pending

theorem Limbo.pending {i n s : Nat} {lead : Leader Fence} (limbo : Limbo calls i n s lead) :
    (before calls n).Pending s := by
  obtain ⟨k, _, _, within, _, _, lasting⟩ := limbo
  exact lasting n within (Nat.le_refl n)

theorem HandsOver.led_home {n s : Nat} {c : Contender} {lead : Leader Fence} (handed : HandsOver calls n c lead)
    (home : c.home = s) : (before calls n).leader? s = some lead := by
  subst home
  obtain ⟨v, found, _, leads⟩ := handed.led
  rw [leader_of_service c.home v found, leads]

theorem limbo_unique (lawful : Lawful {} calls) (i n s : Nat) (lead lead' : Leader Fence)
    (limbo : Limbo calls i n s lead) (limbo' : Limbo calls i n s lead') : lead = lead' := by
  obtain ⟨k, c, _, within, home, handed, lasting⟩ := limbo
  obtain ⟨k', c', _, within', home', handed', lasting'⟩ := limbo'
  have led := handed.led_home home
  have led' := handed'.led_home home'
  rcases Nat.lt_trichotomy k k' with less | rfl | more
  · have pending := lasting k' less (Nat.le_of_lt within')
    cases led'.symm.trans ((sound_before lawful k').vacant_of_pending s pending)
  · exact Option.some.inj (led.symm.trans led')
  · have pending := lasting' k more (Nat.le_of_lt within)
    cases led.symm.trans ((sound_before lawful k).vacant_of_pending s pending)

theorem heard_last (lawful : Lawful {} calls) (i n : Nat) (l : Listener) (party : Nat)
    (activation : Activation calls i n l party) (listens : (before calls n).Listens l party)
    (willing : (before calls n).Willing l.home) :
    (∃ lead, Limbo calls i n l.home lead ∧ lastWord (heard calls i n l) = some lead) ∨
      ((∀ lead, ¬ Limbo calls i n l.home lead) ∧
        lastWord (heard calls i n l) = (before calls n).leader? l.home) := by
  induction n with
  | zero => exact absurd activation.past (Nat.not_lt_zero i)
  | succ n ih =>
    have sound := sound_before lawful (n + 1)
    by_cases first : i = n
    · subst first
      refine .inr ⟨?_, ?_⟩
      · rintro lead ⟨k, _, after, within, _⟩
        omega
      · have same := (begun_call lawful i l party activation.began activation.successful).2.1
        rw [heard_begun lawful i l party activation, same]
        cases (before calls i).leader? l.home <;> rfl
    · have past : i < n := by
        have within := activation.past
        omega
      have listened := activation.listens lawful n past (Nat.lt_succ_self n)
      have known := ih (activation.earlier past) listened (willing.earlier lawful (Nat.le_succ n))
      obtain ⟨word, told, said⟩ := told_call lawful n l party listened willing
      rw [heard_succ lawful i n l (Nat.le_of_lt past), said]
      cases told with
      | silence same still =>
        rw [Option.map_none, Option.toList_none, List.append_nil]
        rcases known with ⟨lead, limbo, last⟩ | ⟨clear, last⟩
        · exact .inl ⟨lead, (limbo_succ i n l.home lead past).mpr ⟨still limbo.pending, .inl limbo⟩, last⟩
        -- A limbo that begins with this call would have taken the leader away.
        · refine .inr ⟨fun lead limbo => ?_, last.trans same.symm⟩
          obtain ⟨pending, earlier | ⟨c, home, handed⟩⟩ := (limbo_succ i n l.home lead past).mp limbo
          · exact clear lead earlier
          · have led := handed.led_home home
            rw [← same, sound.vacant_of_pending l.home pending] at led
            cases led
      | handover c lead home handed =>
        rw [Option.map_none, Option.toList_none, List.append_nil]
        have led := handed.led_home home
        rcases known with ⟨other, limbo, _⟩ | ⟨_, last⟩
        · cases led.symm.trans ((sound_before lawful n).vacant_of_pending l.home limbo.pending)
        · have pending := handed.pending
          rw [home] at pending
          exact .inl ⟨lead, (limbo_succ i n l.home lead past).mpr ⟨pending, .inr ⟨c, home, handed⟩⟩, last.trans led⟩
      | vacancy vacant unproposed =>
        refine .inr ⟨fun lead limbo => unproposed limbo.pending, ?_⟩
        exact (lastWord_concat _ party none).trans vacant.symm
      | leader c lead home commits leads =>
        refine .inr ⟨fun other limbo => ?_, ?_⟩
        · cases leads.symm.trans (sound.vacant_of_pending l.home limbo.pending)
        · exact (lastWord_concat _ party (some lead)).trans leads.symm
      | closed down => exact absurd down (sound.up_of_listens l party listens)

-- During an activation, each leader that led when it began or was confirmed since is announced to the
-- listener's party once, and nobody else is. Who was proposed earlier is announced earlier, and as long
-- as the listener is active, a leader that stands is the last thing that it has heard.
theorem leaders_announced_once (calls : List Call) (lawful : Lawful {} calls) (i n : Nat) (l : Listener)
    (party : Nat) (activation : Activation calls i n l party) (willing : (before calls n).Willing l.home) :
    (∀ p ∈ heard calls i n l, p.1 = party) ∧
      (∀ token, Due calls i n l.home token → (tokens (heard calls i n l)).count token = 1) ∧
      (∀ token, ¬ Due calls i n l.home token → (tokens (heard calls i n l)).count token = 0) ∧
      (tokens (heard calls i n l)).Pairwise Fence.Before ∧
      ∀ lead, (before calls n).ledger.active l.id = true → (before calls n).leader? l.home = some lead →
        (heard calls i n l).getLast? = some (party, some lead) := by
  obtain ⟨parties, ordered, due⟩ := heard_tokens lawful i n l party activation willing
  have distinct : (tokens (heard calls i n l)).Nodup := ordered.imp Fence.Before.ne
  refine ⟨parties, ?_, ?_, ordered, ?_⟩
  · intro token owed
    exact List.count_eq_one_of_mem distinct ((due token).mpr owed)
  · intro token free
    exact List.count_eq_zero_of_not_mem fun listed => free ((due token).mp listed)
  · intro lead active leads
    have listens := activation.listens_end lawful active
    have sound := sound_before lawful n
    rcases heard_last lawful i n l party activation listens willing with ⟨other, limbo, _⟩ | ⟨_, last⟩
    · cases leads.symm.trans (sound.vacant_of_pending l.home limbo.pending)
    · rw [leads] at last
      obtain ⟨⟨as, leader⟩, ending, rfl⟩ := Option.bind_eq_some_iff.mp last
      rw [ending, ← parties (as, some lead) (List.mem_of_getLast? ending)]

-- A listener hears of the first leader when it is started, and of the second when that is confirmed.
-- That the first has gone by then, nobody has told it.
def relay : List Call :=
  let left : Contender := ⟨1, 0, "left", 1⟩
  let right : Contender := ⟨2, 0, "right", 2⟩
  let noon : Instant := ⟨⟨2024, 5, 1⟩, 43200, 0⟩
  [.launch {}, .createContender 0 "left", .createContender 0 "right", .createListener 0,
    .start (.contender left) 0, .confirm left (.minted 1) "west" noon, .start (.listener ⟨3, 0, (), 3⟩) 2,
    .start (.contender right) 1, .remove 0 (.contender left), .confirm right (.minted 2) "east" noon]

theorem relay_lawful : Lawful {} relay := by decide

theorem relay_willing : (before relay 10).Willing 0 := by
  have accepted : ∀ a ∈ (before relay 10).ledger.attempts, a.service = 0 → a.Accepted := by decide
  exact accepted

theorem relay_activation (n : Nat) (past : 6 < n) (within : n ≤ 10) : Activation relay 6 n ⟨3, 0, (), 3⟩ 2 := by
  refine ⟨rfl, rfl, past, fun j after early => ?_⟩
  obtain rfl | rfl : j = 7 ∨ j = 8 := by omega
  · refine ⟨by decide, ?_⟩
    rintro ⟨v, found, down⟩
    cases found
    cases down
  · refine ⟨by decide, ?_⟩
    rintro ⟨v, found, down⟩
    cases found
    cases down

theorem relay_announced :
    Activation relay 6 10 ⟨3, 0, (), 3⟩ 2 ∧ (before relay 10).Willing 0 ∧
      (tokens (heard relay 6 10 ⟨3, 0, (), 3⟩)).count (.minted 1) = 1 ∧
      (tokens (heard relay 6 10 ⟨3, 0, (), 3⟩)).count (.minted 2) = 1 ∧
      (heard relay 6 10 ⟨3, 0, (), 3⟩).getLast? = some (2, some ⟨"east", .minted 2⟩) := by
  have activation := relay_activation 10 (by decide) (Nat.le_refl 10)
  obtain ⟨_, once, _, _, last⟩ :=
    leaders_announced_once relay relay_lawful 6 10 ⟨3, 0, (), 3⟩ 2 activation relay_willing
  refine ⟨activation, relay_willing, once (.minted 1) (.inl ⟨_, rfl, rfl⟩), once (.minted 2) ?_, last _ rfl rfl⟩
  exact .inr ⟨9, ⟨2, 0, "right", 2⟩, "east", by decide, by decide, rfl, ⟨_, rfl⟩, _, rfl, rfl, rfl⟩

-- The last that an active listener has heard is who leads now, unless a leader was handed over to a
-- proposal and none has been confirmed since; then it is still the leader that is gone.
theorem last_word (calls : List Call) (lawful : Lawful {} calls) (n : Nat) (l : Listener)
    (known : .listener l ∈ (before calls n).enrolled) (active : (before calls n).ledger.active l.id = true)
    (willing : (before calls n).Willing l.home) :
    (∃ i party, Activation calls i n l party) ∧ ∀ i party, Activation calls i n l party →
      (lastWord (heard calls i n l) = (before calls n).leader? l.home ↔ ∀ lead, ¬ Limbo calls i n l.home lead) ∧
      ∀ lead, Limbo calls i n l.home lead →
        lastWord (heard calls i n l) = some lead ∧ (before calls n).leader? l.home = none := by
  have sound := sound_before lawful n
  refine ⟨?_, ?_⟩
  · obtain ⟨party, listens⟩ := sound.listens_of_active l known active
    obtain ⟨i, activation⟩ := activation_of_listens lawful n l party listens
    exact ⟨i, party, activation⟩
  · intro i party activation
    have listens := activation.listens_end lawful active
    rcases heard_last lawful i n l party activation listens willing with ⟨lead, limbo, last⟩ | ⟨clear, last⟩
    · have vacant := sound.vacant_of_pending l.home limbo.pending
      refine ⟨iff_of_false ?_ fun clear => clear lead limbo, ?_⟩
      · rw [last, vacant]
        exact nofun
      · intro lead' limbo'
        cases limbo_unique lawful i n l.home lead lead' limbo limbo'
        exact ⟨last, vacant⟩
    · exact ⟨iff_of_true last clear, fun lead limbo => absurd limbo (clear lead)⟩

theorem relay_word :
    Activation relay 6 9 ⟨3, 0, (), 3⟩ 2 ∧ Limbo relay 6 9 0 ⟨"west", .minted 1⟩ ∧
      lastWord (heard relay 6 9 ⟨3, 0, (), 3⟩) = some ⟨"west", .minted 1⟩ ∧ (before relay 9).leader? 0 = none := by
  have activation := relay_activation 9 (by decide) (by decide)
  have willing : (before relay 9).Willing 0 := relay_willing.earlier relay_lawful (by decide)
  have handed : HandsOver relay 8 ⟨1, 0, "left", 1⟩ ⟨"west", .minted 1⟩ := ⟨rfl, ⟨_, rfl, rfl, rfl⟩, ⟨_, rfl, rfl⟩⟩
  have limbo : Limbo relay 6 9 0 ⟨"west", .minted 1⟩ := by
    refine ⟨8, _, by decide, by decide, rfl, handed, fun j after early => ?_⟩
    have last : j = 9 := by omega
    exact last ▸ ⟨_, rfl, rfl⟩
  obtain ⟨_, each⟩ := last_word relay relay_lawful 9 ⟨3, 0, (), 3⟩ (by decide) rfl willing
  exact ⟨activation, limbo, (each 6 2 activation).2 _ limbo⟩

theorem relay_untold :
    ¬ ∀ calls n l i party, Lawful {} calls → (before calls n).ledger.active l.id = true →
      (before calls n).Willing l.home → Activation calls i n l party →
      lastWord (heard calls i n l) = (before calls n).leader? l.home := by
  intro always
  have willing : (before relay 9).Willing 0 := relay_willing.earlier relay_lawful (by decide)
  have activation := relay_activation 9 (by decide) (by decide)
  have told := always relay 9 ⟨3, 0, (), 3⟩ 6 2 relay_lawful rfl willing activation
  have word : lastWord (heard relay 6 9 ⟨3, 0, (), 3⟩) = some ⟨"west", .minted 1⟩ := by decide
  cases word.symm.trans told

end System
end Leadership
