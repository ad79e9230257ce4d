import IconCatalog.Proofs.RunSteps
import IconCatalog.Settings.File
set_option autoImplicit false

namespace IconCatalog.Settings

variable {session : Session} {env env' : Environment} {s t : Settings}

/-- What the settings file of a session gives. A file that is not found gives no field. -/
inductive FileGives (session : Session) : Given → Prop
  | missing (absent : ∀ path, defaultPath? session = some path →
      session.files.found path = false) : FileGives session ⟨none, none⟩
  | parsed {path : Path} {content : Content} {given : Given}
      (place : defaultPath? session = some path) (read : session.files.read path = .ok content)
      (text : Given.ofJson content.bytes = .ok given) : FileGives session given

/-- The variable for the format is missing, no text, empty, or names a format. -/
def FormatReadable (env : Environment) : Prop :=
  ∀ text, env.text? formatVariable = some text →
    text = "" ∨ ∃ format : ExportFormat, asciiLower text = format.tag

def dirOf? (env : Environment) : Option Path := (override? env dirVariable).map .ofString

def formatOf? (env : Environment) : Option ExportFormat :=
  (override? env formatVariable).bind fun text => (ExportFormat.parse text).toOption

/-- The flag if there is one, else the variable, else the field of the file, else the default. -/
def layered {α : Type} (flag ofEnv field : Option α) (default : α) : α :=
  ((flag.or ofEnv).or field).getD default

theorem getD_layered {α : Type} (flag ofEnv field : Option α) (default : α) :
    flag.getD (layered none ofEnv field default) = layered flag ofEnv field default := by
  cases flag <;> rfl

theorem override?_eq_some_iff {name value : String} :
    override? env name = some value ↔ env.text? name = some value ∧ value ≠ "" := by
  rw [override?, Option.filter_eq_some_iff, decide_eq_true_eq]

theorem formatReadable_of_named {text : String} (stands : env.text? formatVariable = some text)
    {format : ExportFormat} (named : asciiLower text = format.tag) : FormatReadable env := by
  intro text' stands'
  rw [stands] at stands'
  cases stands'
  exact Or.inr ⟨format, named⟩

theorem loadFrom_eq_ok_iff {path : Path} {files : Files} :
    loadFrom path files = .ok s ↔ files.found path = false ∧ s = default ∨
      ∃ content given, files.read path = .ok content ∧
        Given.ofJson content.bytes = .ok given ∧ s = ofGiven given := by
  unfold loadFrom ofJson
  constructor
  · intro loaded
    split at loaded
    · split at loaded
      · contradiction
      · rename_i content read
        cases text : Given.ofJson content.bytes with
        | error fault =>
            rw [text] at loaded
            contradiction
        | ok given =>
            rw [text] at loaded
            cases loaded
            exact Or.inr ⟨content, given, read, text, rfl⟩
    · rename_i absent
      cases loaded
      exact Or.inl ⟨Bool.eq_false_iff.2 absent, rfl⟩
  · rintro (⟨absent, rfl⟩ | ⟨content, given, read, text, rfl⟩)
    · rw [absent]
      rfl
    · simp only [Files.found_of_read read, ↓reduceIte, read, text, Except.map]

theorem ofFile_eq_ok_iff :
    ofFile session = .ok s ↔ ∃ given, FileGives session given ∧ s = ofGiven given := by
  unfold ofFile
  cases place : defaultPath? session with
  | none =>
      have nowhere : ∀ path, defaultPath? session = some path →
          session.files.found path = false := by
        intro path place'
        rw [place] at place'
        contradiction
      constructor
      · intro read
        cases read
        exact ⟨_, .missing nowhere, rfl⟩
      · rintro ⟨given, gives, rfl⟩
        cases gives with
        | missing => rfl
        | parsed place' =>
            rw [place] at place'
            contradiction
  | some path =>
      simp only [loadFrom_eq_ok_iff]
      constructor
      · rintro (⟨absent, rfl⟩ | ⟨content, given, read, text, rfl⟩)
        · refine ⟨_, .missing ?_, rfl⟩
          intro path' place'
          rw [place] at place'
          cases place'
          exact absent
        · exact ⟨given, .parsed place read text, rfl⟩
      · rintro ⟨given, gives, rfl⟩
        cases gives with
        | missing absent => exact Or.inl ⟨absent path place, rfl⟩
        | parsed place' read text =>
            rw [place] at place'
            cases place'
            exact Or.inr ⟨_, given, read, text, rfl⟩

theorem overrideDir_eq (env : Environment) (s : Settings) :
    s.overrideDir env = { s with exportDir := (dirOf? env).getD s.exportDir } := by
  unfold overrideDir dirOf?
  cases override? env dirVariable <;> rfl

theorem override_eq_ok_iff :
    s.override env = .ok () t ↔ FormatReadable env ∧
      t = ⟨(dirOf? env).getD s.exportDir, (formatOf? env).getD s.exportFormat⟩ := by
  unfold override formatOf?
  rw [overrideDir_eq]
  cases given : override? env formatVariable with
  | none =>
      have readable : FormatReadable env := by
        intro text stands
        by_cases empty : text = ""
        · exact Or.inl empty
        · rw [override?_eq_some_iff.2 ⟨stands, empty⟩] at given
          contradiction
      simp only [readable, true_and, Option.bind_none, Option.getD_none, EStateM.Result.ok.injEq]
      exact eq_comm
  | some text =>
      obtain ⟨stands, filled⟩ := override?_eq_some_iff.1 given
      simp only [Option.bind_some]
      cases parsed : ExportFormat.parse text with
      | error fault =>
          have unreadable : ¬ FormatReadable env := by
            intro readable
            rcases readable text stands with empty | ⟨format, lower⟩
            · exact filled empty
            · rw [ExportFormat.parse_eq_ok_iff.2 lower] at parsed
              contradiction
          simp only [unreadable, false_and, reduceCtorEq]
      | ok format =>
          have readable : FormatReadable env :=
            formatReadable_of_named stands (ExportFormat.parse_eq_ok_iff.1 parsed)
          simp only [readable, true_and, Except.toOption, Option.getD_some,
            EStateM.Result.ok.injEq]
          exact eq_comm

theorem load_eq_ok_iff (merged : mergeEnvFile session = .ok () env) :
    load session = .ok s env' ↔ env' = env ∧ FormatReadable env ∧
      ∃ given, FileGives { session with env := env } given ∧
        s = ⟨layered none (dirOf? env) given.exportDir default.exportDir,
          layered none (formatOf? env) given.exportFormat default.exportFormat⟩ := by
  have fields (given : Given) :
      Settings.mk ((dirOf? env).getD (ofGiven given).exportDir)
        ((formatOf? env).getD (ofGiven given).exportFormat) =
      ⟨layered none (dirOf? env) given.exportDir default.exportDir,
        layered none (formatOf? env) given.exportFormat default.exportFormat⟩ := by
    simp only [layered, ofGiven, Option.none_or, Option.getD_or]
  unfold load
  rw [merged]
  simp only
  constructor
  · intro loaded
    cases file : ofFile { session with env := env } with
    | error fault =>
        rw [file] at loaded
        contradiction
    | ok read =>
        rw [file] at loaded
        simp only at loaded
        cases overridden : read.override env with
        | error fault refused =>
            rw [overridden] at loaded
            contradiction
        | ok value changed =>
            rw [overridden] at loaded
            cases loaded
            obtain ⟨given, gives, rfl⟩ := ofFile_eq_ok_iff.1 file
            obtain ⟨readable, rfl⟩ := override_eq_ok_iff.1 overridden
            exact ⟨rfl, readable, given, gives, fields given⟩
  · rintro ⟨rfl, readable, given, gives, rfl⟩
    rw [ofFile_eq_ok_iff.2 ⟨given, gives, rfl⟩]
    simp only
    rw [override_eq_ok_iff.2 ⟨readable, rfl⟩, fields]

theorem export_of_load_eq_error {fault : LoadFault} (failed : load session = .error fault env)
    (names : List String) (dir? : Option Path) (format? : Option ExportFormat)
    (room : Option Nat) :
    (Command.exportIcons names dir? format?).run load (.start session room) =
      .error (.load fault) ((Run.start session room).asked env) := by
  have asked : load (Run.start session room).session = .error fault env := failed
  rw [Command.run_exportIcons, bind_apply, Run.load, asked]
  rfl

theorem export_of_load_eq_ok (loaded : load session = .ok s env) (names : List String)
    (dir? : Option Path) (format? : Option ExportFormat) (room : Option Nat) :
    (Command.exportIcons names dir? format?).run load (.start session room) =
      (Run.requested names >>= Run.exportIcons (dir?.getD s.exportDir)
        (format?.getD s.exportFormat)) ((Run.start session room).asked env) := by
  have asked : load (Run.start session room).session = .ok s env := loaded
  rw [Command.run_exportIcons, bind_apply, Run.load, asked]
  rfl

/-- Once the env file is merged, the settings load just when the settings file can be used and the
variable for the format can be read. Then an export works with the first directory and the first
format that is given, by the flag, the variable, the file or the default. An env file that cannot
be merged makes loading fail, and an export whose settings fail to load does nothing. -/
theorem effective_export (session : Session) :
    (∀ env, mergeEnvFile session = .ok () env →
      (succeeds (load session) ↔
        (∃ given, FileGives { session with env := env } given) ∧ FormatReadable env) ∧
      ∀ given, FileGives { session with env := env } given → FormatReadable env →
        load session = .ok
          ⟨layered none (dirOf? env) given.exportDir default.exportDir,
            layered none (formatOf? env) given.exportFormat default.exportFormat⟩ env ∧
        ∀ names dir? format? room,
          (Command.exportIcons names dir? format?).run load (.start session room) =
            (Run.requested names >>= Run.exportIcons
              (layered dir? (dirOf? env) given.exportDir default.exportDir)
              (layered format? (formatOf? env) given.exportFormat default.exportFormat))
              ((Run.start session room).asked env)) ∧
    (∀ fault env, mergeEnvFile session = .error fault env →
      load session = .error (.unsettable fault) env) ∧
    ∀ fault env, load session = .error fault env → ∀ names dir? format? room, ∃ left,
      (Command.exportIcons names dir? format?).run load (.start session room) =
        .error (.load fault) left ∧
      left.session.files = session.files ∧ left.printed = [] ∧ left.log = [] := by
  refine ⟨?_, ?_, ?_⟩
  · intro env merged
    constructor
    · constructor
      · intro success
        obtain ⟨s, env', loaded⟩ := exists_of_succeeds success
        obtain ⟨_, readable, given, gives, _⟩ := (load_eq_ok_iff merged).1 loaded
        exact ⟨⟨given, gives⟩, readable⟩
      · rintro ⟨⟨given, gives⟩, readable⟩
        rw [(load_eq_ok_iff merged).2 ⟨rfl, readable, given, gives, rfl⟩]
        trivial
    · intro given gives readable
      have loaded := (load_eq_ok_iff merged).2 ⟨rfl, readable, given, gives, rfl⟩
      refine ⟨loaded, ?_⟩
      intro names dir? format? room
      rw [export_of_load_eq_ok loaded, getD_layered, getD_layered]
  · intro fault env unmerged
    rw [load, unmerged]
  · intro fault env failed names dir? format? room
    exact ⟨_, export_of_load_eq_error failed names dir? format? room, rfl, rfl, rfl⟩

/-- A working directory with nothing but an env file, whose one variable has a zero byte. -/
def zeroByteSession : Session where
  files := ⟨FileTree.empty.put EnvFile.fileName [] (.file (.plain (Utf8.ofString "A=\"\x00\""))),
    .inTree []⟩
  env := ⟨[]⟩
  accountHome := none

/-- No environment can hold a value with a zero byte, so loading fails where no settings file and no
variable stands against it. -/
theorem load_zeroByteSession :
    ¬ (succeeds (load zeroByteSession) ↔
      (∃ given, FileGives
        { zeroByteSession with env := stateAfter (mergeEnvFile zeroByteSession) } given) ∧
      FormatReadable (stateAfter (mergeEnvFile zeroByteSession))) := by
  have unmerged : mergeEnvFile zeroByteSession = .error ⟨"A", "\x00"⟩ ⟨[]⟩ := rfl
  rw [load, unmerged]
  intro same
  apply same.2
  refine ⟨⟨_, .missing ?_⟩, ?_⟩
  · intro path place
    contradiction
  · intro text stands
    contradiction

end IconCatalog.Settings
