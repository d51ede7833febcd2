import Leadership.Proofs.Sections

set_option autoImplicit false

namespace Leadership
namespace Settings

open Toml Entries

/-- What names an executor: its name, or a table with the name as its only key and nothing under it. -/
inductive Names : Value → Mode → Prop
  | plain (m : Mode) : Names (.string m.name) m
  | table (m : Mode) (o o' : Origin) : Names (.table o [(m.name, .table o' [])]) m
  | array (m : Mode) (o : Origin) : Names (.table o [(m.name, .array [])]) m

inductive Meant {α : Type} (means : Value → α → Prop) (default : α) : Option Value → α → Prop
  | missing : Meant means default none default
  | given {v : Value} {a : α} (meant : means v a) : Meant means default (some v) a

def IsText (v : Value) (s : String) : Prop := v = .string s

structure Declares (es : Entries) (c : Settings) : Prop where
  executor : Meant Names .parallel (at? "service" "executor" es) c.executor
  level : Meant IsText "info" (at? "logging" "level" es) c.level
  format : Meant IsText "pretty" (at? "logging" "format" es) c.format

def Misread (es : Entries) : Prop :=
  (∃ v, at? "service" "executor" es = some v ∧ ∀ m, ¬ Names v m) ∨
    (∃ v, at? "logging" "level" es = some v ∧ ∀ s, ¬ IsText v s) ∨
    ∃ v, at? "logging" "format" es = some v ∧ ∀ s, ¬ IsText v s

section Meaning
variable {es : Entries} {c : Settings}

theorem ofName?_iff (s : String) (m : Mode) : Mode.ofName? s = some m ↔ s = m.name := by
  unfold Mode.ofName?
  constructor
  · intro read
    split_ifs at read with parallel serial
    · cases read
      exact parallel
    · cases read
      exact serial
  · rintro rfl
    cases m <;> rfl

theorem mode?_iff (v : Value) (m : Mode) : mode? v = some m ↔ Names v m := by
  constructor
  · intro read
    unfold mode? at read
    split at read
    · cases (ofName?_iff _ m).mp read
      exact .plain m
    · cases (ofName?_iff _ m).mp read
      exact .table m _ _
    · cases (ofName?_iff _ m).mp read
      exact .array m _
    · exact nomatch read
  · intro names
    cases names with
    | plain m => exact (ofName?_iff _ m).mpr rfl
    | table m o o' => exact (ofName?_iff _ m).mpr rfl
    | array m o => exact (ofName?_iff _ m).mpr rfl

theorem string?_iff (v : Value) (s : String) : string? v = some s ↔ IsText v s := by
  constructor
  · intro read
    cases v with
    | string t => cases read; rfl
    | _ => exact nomatch read
  · rintro rfl
    rfl

theorem orDefault_iff {α : Type} {read : Value → Option α} {means : Value → α → Prop}
    (exact_read : ∀ v a, read v = some a ↔ means v a) (default : α) (given : Option Value) (a : α) :
    orDefault read default given = some a ↔ Meant means default given a := by
  cases given with
  | none =>
    constructor
    · intro same
      cases same
      exact .missing
    · intro meant
      cases meant
      rfl
  | some v =>
    constructor
    · exact fun same => .given ((exact_read v a).mp same)
    · intro meant
      cases meant with
      | given meant => exact (exact_read v a).mpr meant

theorem orDefault_none {α : Type} {read : Value → Option α} {means : Value → α → Prop}
    (exact_read : ∀ v a, read v = some a ↔ means v a) (default : α) (given : Option Value) :
    orDefault read default given = none ↔ ∃ v, given = some v ∧ ∀ a, ¬ means v a := by
  cases given with
  | none => simp [orDefault]
  | some v =>
    simp only [orDefault, Option.some.injEq, exists_eq_left', Option.eq_none_iff_forall_not_mem, Option.mem_def,
      exact_read]

theorem service?_eq (tabled : Tabled "service" es) :
    service? (Entries.get? "service" es) = orDefault mode? .parallel (at? "service" "executor" es) := by
  unfold Tabled contents? at tabled
  unfold at? contents?
  split at tabled
  · next missing => rw [missing]; rfl
  · next found => rw [found]; rfl
  · exact nomatch tabled

theorem logging?_eq (tabled : Tabled "logging" es) :
    logging? (Entries.get? "logging" es) =
      (orDefault string? "info" (at? "logging" "level" es)).bind fun level =>
        (orDefault string? "pretty" (at? "logging" "format" es)).bind fun format => some (level, format) := by
  unfold Tabled contents? at tabled
  unfold at? contents?
  split at tabled
  · next missing => rw [missing]; rfl
  · next found => rw [found]; rfl
  · exact nomatch tabled

theorem ofEntries?_eq (service : Tabled "service" es) (logging : Tabled "logging" es) :
    ofEntries? es =
      (orDefault mode? .parallel (at? "service" "executor" es)).bind fun executor =>
        (orDefault string? "info" (at? "logging" "level" es)).bind fun level =>
          (orDefault string? "pretty" (at? "logging" "format" es)).bind fun format =>
            some ⟨executor, level, format⟩ := by
  rw [← service?_eq service]
  simp only [ofEntries?, logging?_eq logging, bind, Option.bind_assoc, Option.bind_some]

theorem declares_iff (service : Tabled "service" es) (logging : Tabled "logging" es) (c : Settings) :
    ofEntries? es = some c ↔ Declares es c := by
  rw [ofEntries?_eq service logging]
  constructor
  · intro read
    obtain ⟨executor, first, read⟩ := Option.bind_eq_some_iff.mp read
    obtain ⟨level, second, read⟩ := Option.bind_eq_some_iff.mp read
    obtain ⟨format, third, read⟩ := Option.bind_eq_some_iff.mp read
    cases read
    exact ⟨(orDefault_iff mode?_iff _ _ _).mp first, (orDefault_iff string?_iff _ _ _).mp second,
      (orDefault_iff string?_iff _ _ _).mp third⟩
  · intro declared
    rw [(orDefault_iff mode?_iff _ _ _).mpr declared.executor, (orDefault_iff string?_iff _ _ _).mpr declared.level,
      (orDefault_iff string?_iff _ _ _).mpr declared.format]
    rfl

theorem misread_iff (service : Tabled "service" es) (logging : Tabled "logging" es) :
    ofEntries? es = none ↔ Misread es := by
  rw [ofEntries?_eq service logging, Misread, ← orDefault_none mode?_iff .parallel,
    ← orDefault_none string?_iff "info", ← orDefault_none string?_iff "pretty"]
  cases orDefault mode? .parallel (at? "service" "executor" es) <;>
    cases orDefault string? "info" (at? "logging" "level" es) <;>
      cases orDefault string? "pretty" (at? "logging" "format" es) <;> simp

end Meaning

section Checking
variable {c : Settings}

def Blank (level : String) : Prop := ∀ ch ∈ level.toList, Text.isBlank ch = true

def levelFault : Fault := .config "logging.level cannot be empty"

def formatFault (format : String) : Fault :=
  .config ("logging.format must be 'pretty' or 'compact', got '" ++ format ++ "'")

theorem faults_differ (format : String) : levelFault ≠ formatFault format := by
  intro same
  have texts := congrArg (fun s => s.toList.take 9) (Fault.config.inj same)
  simp at texts

theorem allBlank_iff (level : String) : Text.allBlank level = true ↔ Blank level := List.all_eq_true

theorem validate_cases (c : Settings) :
    Blank c.level ∧ c.validate = .error levelFault ∨
      ¬ Blank c.level ∧ ¬ (c.format = "pretty" ∨ c.format = "compact") ∧ c.validate = .error (formatFault c.format) ∨
      ¬ Blank c.level ∧ (c.format = "pretty" ∨ c.format = "compact") ∧ c.validate = .ok () := by
  by_cases blank : Blank c.level
  · exact .inl ⟨blank, if_pos ((allBlank_iff c.level).mpr blank)⟩
  · have shown := mt (allBlank_iff c.level).mp blank
    by_cases good : c.format = "pretty" ∨ c.format = "compact"
    · exact .inr (.inr ⟨blank, good, by rw [validate, if_neg shown, if_pos good]⟩)
    · exact .inr (.inl ⟨blank, good, by rw [validate, if_neg shown, if_neg good, formatFault]⟩)

theorem validate_level_iff : c.validate = .error levelFault ↔ Blank c.level := by
  rcases c.validate_cases with ⟨blank, failed⟩ | ⟨shown, -, failed⟩ | ⟨shown, -, passed⟩
  · exact iff_of_true failed blank
  · rw [failed]
    exact iff_of_false (fun same => faults_differ c.format (Except.error.inj same).symm) shown
  · rw [passed]
    exact iff_of_false nofun shown

theorem validate_format_iff : c.validate = .error (formatFault c.format) ↔
    ¬ Blank c.level ∧ c.format ≠ "pretty" ∧ c.format ≠ "compact" := by
  rw [← not_or]
  rcases c.validate_cases with ⟨blank, failed⟩ | ⟨shown, bad, failed⟩ | ⟨-, good, passed⟩
  · rw [failed]
    exact iff_of_false (fun same => faults_differ c.format (Except.error.inj same)) fun both => both.1 blank
  · exact iff_of_true failed ⟨shown, bad⟩
  · rw [passed]
    exact iff_of_false nofun fun both => both.2 good

theorem validate_ok_iff : c.validate = .ok () ↔ ¬ Blank c.level ∧ (c.format = "pretty" ∨ c.format = "compact") := by
  rcases c.validate_cases with ⟨blank, failed⟩ | ⟨-, bad, failed⟩ | ⟨shown, good, passed⟩
  · rw [failed]
    exact iff_of_false nofun fun both => both.1 blank
  · rw [failed]
    exact iff_of_false nofun fun both => bad both.2
  · exact iff_of_true passed ⟨shown, good⟩

theorem layout_named (setting : Option String) (good : c.format = "pretty" ∨ c.format = "compact") :
    (c.sink setting).layout.name = c.format := by
  simp only [sink, Diagnostics.Sink.make, Diagnostics.Layout.ofFormat]
  rcases good with pretty | compact
  · rw [pretty]
    rfl
  · rw [compact]
    rfl

end Checking

section Loading
variable {s : String} {es : Entries} {c : Settings}

theorem ofText_declared (read : Toml.ofText? s = some es) (made : ofEntries? es = some c) :
    ofText s = c.checked := by
  rw [ofText, read]
  simp only [ofEntries, made]

theorem ofText_misread (read : Toml.ofText? s = some es) (none : ofEntries? es = none) :
    ∃ detail, ofText s = .error (.configParse detail) := by
  rw [ofText, read]
  simp only [ofEntries, none]
  exact ⟨_, rfl⟩

theorem checked_ok_iff (c c' : Settings) : c.checked = .ok c' ↔ c = c' ∧ c.validate = .ok () := by
  unfold checked
  cases c.validate with
  | ok _ => simp
  | error f => simp

theorem checked_error_iff (c : Settings) (f : Fault) : c.checked = .error f ↔ c.validate = .error f := by
  unfold checked
  cases c.validate with
  | ok _ => simp
  | error f' => simp

theorem validate_not_parse (c : Settings) (detail : String) : c.validate ≠ .error (.configParse detail) := by
  unfold validate
  split_ifs <;> exact nofun

theorem ofText_congr {s' : String} {es' : Entries} (read : Toml.ofText? s = some es)
    (read' : Toml.ofText? s' = some es') (service : Tabled "service" es) (logging : Tabled "logging" es)
    (service' : Tabled "service" es') (logging' : Tabled "logging" es')
    (same : ∀ name, ∀ key ∈ known name, at? name key es' = at? name key es) :
    ofText s' = ofText s := by
  have fields : ofEntries? es' = ofEntries? es := by
    rw [ofEntries?_eq service' logging', ofEntries?_eq service logging, same "service" "executor" (by decide),
      same "logging" "level" (by decide), same "logging" "format" (by decide)]
  rw [ofText, read', ofText, read]
  simp only [ofEntries, fields]

theorem ofText_rearranged {s' : String} {es' : Entries} (read : Toml.ofText? s = some es)
    (read' : Toml.ofText? s' = some es') (service : Tabled "service" es) (logging : Tabled "logging" es)
    (rearranged : Relation.EqvGen Rearranged es es') : ofText s' = ofText s := by
  have clear := clear_of_tidy (ofText?_tidy read)
  have alike := alike_of_rearranged rearranged
  exact ofText_congr read read' service logging ((alike.tabled clear "service" (by decide)).mpr service)
    ((alike.tabled clear "logging" (by decide)).mpr logging) (alike.same clear)

theorem parse_fault_iff (read : Toml.ofText? s = some es) (service : Tabled "service" es)
    (logging : Tabled "logging" es) : (∃ detail, ofText s = .error (.configParse detail)) ↔ Misread es := by
  constructor
  · rintro ⟨detail, failed⟩
    by_contra declared
    obtain ⟨c, made⟩ := Option.ne_none_iff_exists'.mp (mt (misread_iff service logging).mp declared)
    rw [ofText_declared read made, checked_error_iff] at failed
    exact validate_not_parse c detail failed
  · intro misread
    exact ofText_misread read ((misread_iff service logging).mpr misread)

theorem ofText_verdict (read : Toml.ofText? s = some es) (service : Tabled "service" es)
    (logging : Tabled "logging" es) (declared : Declares es c) :
    (ofText s = .error levelFault ↔ Blank c.level) ∧
      (ofText s = .error (formatFault c.format) ↔ ¬ Blank c.level ∧ c.format ≠ "pretty" ∧ c.format ≠ "compact") ∧
      (ofText s = .ok c ↔ ¬ Blank c.level ∧ (c.format = "pretty" ∨ c.format = "compact")) := by
  rw [ofText_declared read ((declares_iff service logging c).mpr declared), checked_error_iff, checked_error_iff,
    checked_ok_iff, and_iff_right rfl]
  exact ⟨validate_level_iff, validate_format_iff, validate_ok_iff⟩

theorem ofText_ok (read : Toml.ofText? s = some es) (service : Tabled "service" es) (logging : Tabled "logging" es)
    (loaded : ofText s = .ok c) : Declares es c ∧ c.validate = .ok () := by
  cases made : ofEntries? es with
  | none =>
    obtain ⟨detail, failed⟩ := ofText_misread read made
    rw [failed] at loaded
    exact nomatch loaded
  | some c' =>
    rw [ofText_declared read made, checked_ok_iff] at loaded
    obtain ⟨rfl, valid⟩ := loaded
    exact ⟨(declares_iff service logging c').mp made, valid⟩

/-- Only three values of a document count, so that no other keys and no order of anything make a difference. Each
has its default; one that means nothing is an error, and then the level is checked before the format. What is
loaded stands up to the check, and diagnostics are laid out in the format that it names. -/
theorem loading_decided (read : Toml.ofText? s = some es) (service : Tabled "service" es)
    (logging : Tabled "logging" es) :
    (∀ s' es', Toml.ofText? s' = some es' → Tabled "service" es' → Tabled "logging" es' →
        (∀ name, ∀ key ∈ known name, at? name key es' = at? name key es) → ofText s' = ofText s) ∧
      (∀ s' es', Toml.ofText? s' = some es' → Relation.EqvGen Rearranged es es' → ofText s' = ofText s) ∧
      ((∃ detail, ofText s = .error (.configParse detail)) ↔ Misread es) ∧
      (¬ Misread es → ∃ c, Declares es c) ∧
      (∀ c, Declares es c → (ofText s = .error levelFault ↔ Blank c.level) ∧
        (ofText s = .error (formatFault c.format) ↔ ¬ Blank c.level ∧ c.format ≠ "pretty" ∧ c.format ≠ "compact") ∧
        (ofText s = .ok c ↔ ¬ Blank c.level ∧ (c.format = "pretty" ∨ c.format = "compact"))) ∧
      ∀ c, ofText s = .ok c → Declares es c ∧ c.validate = .ok () ∧
        ∀ setting, (c.sink setting).layout.name = c.format := by
  refine ⟨fun s' es' read' service' logging' => ofText_congr read read' service logging service' logging',
    fun s' es' read' => ofText_rearranged read read' service logging, parse_fault_iff read service logging, ?_,
    fun c => ofText_verdict read service logging, ?_⟩
  · intro meant
    obtain ⟨c, made⟩ := Option.ne_none_iff_exists'.mp (mt (misread_iff service logging).mp meant)
    exact ⟨c, (declares_iff service logging c).mp made⟩
  · intro c loaded
    obtain ⟨declared, valid⟩ := ofText_ok read service logging loaded
    exact ⟨declared, valid, fun setting => layout_named setting (validate_ok_iff.mp valid).2⟩

def sample : String :=
  "title = \"x\"\n[logging]\nformat = \"compact\"\ncolor = true\nlevel = \"debug\"\n[service]\nexecutor = \"serial\"\n"

theorem sample_loads : ∃ es, Toml.ofText? sample = some es ∧ Tabled "service" es ∧ Tabled "logging" es ∧
    ofText sample = .ok ⟨.serial, "debug", "compact"⟩ := by
  have document : (Toml.ofText? sample).any (fun es => decide (Tabled "service" es ∧ Tabled "logging" es ∧
      ofEntries? es = some ⟨.serial, "debug", "compact"⟩)) = true := by decide +kernel
  obtain ⟨es, read, facts⟩ := (Option.any_eq_true _ _).mp document
  obtain ⟨service, logging, made⟩ := of_decide_eq_true facts
  refine ⟨es, read, service, logging, ?_⟩
  obtain ⟨-, -, -, -, verdict, -⟩ := loading_decided read service logging
  refine (verdict _ ((declares_iff service logging _).mp made)).2.2.mpr ⟨?_, .inr rfl⟩
  rw [← allBlank_iff]
  decide

def spelledOut : String := "[service]\nexecutor = \x7b serial = \x7b\x7d \x7d\n"

-- A value that is no text may still name an executor.
theorem table_loads : ∃ es v, Toml.ofText? spelledOut = some es ∧ Tabled "service" es ∧ Tabled "logging" es ∧
    at? "service" "executor" es = some v ∧ (∀ name, ¬ IsText v name) ∧
      ofText spelledOut = .ok ⟨.serial, "info", "pretty"⟩ := by
  have document : (Toml.ofText? spelledOut).any (fun es => decide (Tabled "service" es ∧ Tabled "logging" es) &&
      (at? "service" "executor" es).any fun v => (string? v).isNone) = true := by decide +kernel
  have loaded : ofText spelledOut = .ok ⟨.serial, "info", "pretty"⟩ := by decide +kernel
  obtain ⟨es, read, facts⟩ := (Option.any_eq_true _ _).mp document
  obtain ⟨tabled, given⟩ := (Bool.and_eq_true _ _).mp facts
  obtain ⟨service, logging⟩ := of_decide_eq_true tabled
  obtain ⟨v, found, other⟩ := (Option.any_eq_true _ _).mp given
  refine ⟨es, v, read, service, logging, found, ?_, loaded⟩
  intro name text
  rw [(string?_iff v name).mpr text] at other
  cases other

end Loading

end Settings
end Leadership
