import IconCatalog.Proofs.EffectiveSettings
import IconCatalog.Proofs.SettingsPersistence
set_option autoImplicit false

namespace IconCatalog

namespace EnvFile

variable {env after : Environment} {name key value : String}

theorem get?_assign (kept : (env.text? name).isSome) (assigned : assign env key value = .ok after) :
    after.get? name = env.get? name := by
  unfold assign at assigned
  split at assigned
  · cases assigned
    rfl
  · rename_i unset
    split at assigned
    · contradiction
    · cases assigned
      rw [Environment.get?_set, if_neg]
      rintro rfl
      exact unset kept

/-- However far the lines are merged, a variable that is text keeps its value. -/
theorem get?_mergeLines (lines : List (Option (List Char))) (known : List (String × String))
    (kept : (env.text? name).isSome) :
    (stateAfter (mergeLines known env lines)).get? name = env.get? name := by
  induction lines generalizing known env with
  | nil => rfl
  | cons line rest ih =>
      cases line with
      | none => rfl
      | some line =>
          rw [mergeLines]
          cases meaning line with
          | nothing => exact ih known kept
          | malformed => rfl
          | assignment key written =>
              simp only
              cases valueOf (lookup env known) written with
              | none => rfl
              | some value =>
                  simp only
                  cases assigned : assign env key value with
                  | error fault => rfl
                  | ok after =>
                      have same := get?_assign kept assigned
                      rw [← same]
                      apply ih
                      rw [Environment.text?, same]
                      exact kept

end EnvFile

namespace Run

variable {ε : Type} {run after : Run}

theorem session_of_print {text : String}
    (done : (print text : EStateM (RunFault ε) Run Unit) run = .ok () after) :
    after.session = run.session := by
  unfold print at done
  split at done
  · cases done
    rfl
  · simp only at done
    split at done
    · cases done
      rfl
    · contradiction

theorem initConfig_eq_ok {path : Path} {force : Bool}
    (done : (initConfig path force : EStateM (RunFault ε) Run Unit) run = .ok () after) :
    ∃ saved, Settings.default.saveTo path run.session.files = .ok () saved ∧
      after.session = { run.session with files := saved } := by
  simp only [initConfig_eq, withSession] at done
  split at done
  · contradiction
  · rw [bind_apply, onFiles] at done
    cases written : Settings.default.saveTo path run.session.files with
    | error fault left =>
        rw [written] at done
        contradiction
    | ok value saved =>
        rw [written] at done
        exact ⟨saved, rfl, session_of_print done⟩

end Run

theorem Command.run_initConfig_eq_ok {ε : Type} {loader : Loader ε} {run after : Run}
    {force : Bool} (done : (Command.initConfig none force).run loader run = .ok () after) :
    ∃ path saved, Settings.defaultPath? run.session = some path ∧
      Settings.default.saveTo path run.session.files = .ok () saved ∧
      after.session = { run.session with files := saved } := by
  rw [Command.run_initConfig, Run.withSession, Option.none_or] at done
  cases place : Settings.defaultPath? run.session with
  | none =>
      rw [place] at done
      contradiction
  | some path =>
      rw [place] at done
      obtain ⟨saved, written, left⟩ := Run.initConfig_eq_ok done
      exact ⟨path, saved, rfl, written, left⟩

namespace Settings

variable {ε : Type} {loader : Loader ε} {session : Session} {env : Environment} {path : Path}
  {s : Settings} {files saved : Files} {run after : Run} {force : Bool}

def HeldAt (files : Files) (path : Path) (s : Settings) : Prop :=
  ∃ content, files.read path = .ok content ∧ ofJson content.bytes = .ok s

theorem heldAt_of_saveTo (done : s.saveTo path files = .ok () saved) : HeldAt saved path s := by
  obtain ⟨made, json, _, text, written⟩ := saveTo_eq_ok done
  exact ⟨_, Files.read_of_write written, ofJson_toJson? text⟩

theorem loadFrom_of_heldAt (held : HeldAt files path s) : loadFrom path files = .ok s := by
  obtain ⟨content, read, text⟩ := held
  simp only [loadFrom, Files.found_of_read read, ↓reduceIte, read, text]

/-- An env file leaves alone a variable that is text already. -/
theorem get?_mergeEnvFile {name : String} (text : (session.env.text? name).isSome) :
    (stateAfter (mergeEnvFile session)).get? name = session.env.get? name := by
  unfold mergeEnvFile
  split
  · rfl
  · exact EnvFile.get?_mergeLines _ [] text

/-- An env file does not move the place of the settings file where an absolute directory for it is
given as text. -/
theorem defaultPath?_merged {dir : Path}
    (given : session.pathVariable? "XDG_CONFIG_HOME" = some dir) (absolute : dir.isAbsolute)
    (text : (session.env.text? "XDG_CONFIG_HOME").isSome) :
    defaultPath? { session with env := stateAfter (mergeEnvFile session) } =
      defaultPath? session := by
  have given' : Session.pathVariable?
      { session with env := stateAfter (mergeEnvFile session) } "XDG_CONFIG_HOME" = some dir := by
    rw [Session.pathVariable?, get?_mergeEnvFile text]
    exact given
  simp only [defaultPath?, Session.configDir?, given, given', Option.filter_some, absolute,
    ↓reduceIte]

/-- Loading where the settings file holds some settings: these under the variables, unless the
variable for the format cannot be read. -/
theorem load_of_heldAt (merged : mergeEnvFile session = .ok () env)
    (place : defaultPath? { session with env := env } = some path)
    (held : HeldAt session.files path s) :
    (FormatReadable env → load session =
      .ok ⟨(dirOf? env).getD s.exportDir, (formatOf? env).getD s.exportFormat⟩ env) ∧
    (¬ FormatReadable env → ∃ fault, load session = .error (.override fault) env) := by
  have file : ofFile { session with env := env } = .ok s := by
    unfold ofFile
    rw [place]
    exact loadFrom_of_heldAt held
  unfold load
  rw [merged]
  simp only [file]
  constructor
  · intro readable
    rw [override_eq_ok_iff.2 ⟨readable, rfl⟩]
  · intro unreadable
    cases overridden : s.override env with
    | ok value t => exact absurd (override_eq_ok_iff.1 overridden).1 unreadable
    | error fault t => exact ⟨fault, rfl⟩

/-- The defaults are written where the program looks for its settings file. A load after that has
them from there, under the variables of the environment, when the env file can be merged and leaves
the place as it is. It does where the directory is given by a variable that is an absolute text. -/
theorem initConfig_then_load
    (done : (Command.initConfig none force).run loader run = .ok () after) :
    ∃ path, defaultPath? run.session = some path ∧
      after.session = { run.session with files := after.session.files } ∧
      HeldAt after.session.files path default ∧
      (∀ env, mergeEnvFile after.session = .ok () env →
        defaultPath? { after.session with env := env } = some path →
        (FormatReadable env → load after.session =
          .ok ⟨(dirOf? env).getD default.exportDir, (formatOf? env).getD default.exportFormat⟩
            env) ∧
        (¬ FormatReadable env → ∃ fault, load after.session = .error (.override fault) env)) ∧
      (∀ dir, run.session.pathVariable? "XDG_CONFIG_HOME" = some dir → dir.isAbsolute →
        (run.session.env.text? "XDG_CONFIG_HOME").isSome →
        defaultPath?
          { after.session with env := stateAfter (mergeEnvFile after.session) } = some path) := by
  obtain ⟨path, saved, place, written, left⟩ := Command.run_initConfig_eq_ok done
  have held : HeldAt after.session.files path default := by
    rw [left]
    exact heldAt_of_saveTo written
  refine ⟨path, place, ?_, held, ?_, ?_⟩
  · rw [left]
  · intro env merged still
    exact load_of_heldAt merged still held
  · intro dir given absolute text
    rw [left, ← place]
    exact defaultPath?_merged given absolute text

/-- A working directory without an env file. The home directory is not there yet, and a variable
gives the directory for exports. -/
def homeSession : Session where
  files := ⟨.empty, .inTree []⟩
  env := ⟨[("HOME", Utf8.ofString "/home"), (dirVariable, Utf8.ofString "assets")]⟩
  accountHome := none

theorem initConfig_then_load_home : ∃ after,
    (Command.initConfig none false).run load (.start homeSession none) = .ok () after ∧
      load after.session = .ok ⟨.ofString "assets", .raw⟩ homeSession.env := by
  have done := eq_ok_of_succeeds (show succeeds
    ((Command.initConfig none false).run load (.start homeSession none)) by decide +kernel)
  obtain ⟨path, place, left, _, loads, _⟩ := initConfig_then_load done
  have merged : mergeEnvFile (stateAfter ((Command.initConfig none false).run load
      (.start homeSession none))).session = .ok () homeSession.env := by decide +kernel
  have readable : FormatReadable homeSession.env := by
    intro text stands
    contradiction
  refine ⟨_, done, (loads _ merged ?_).1 readable⟩
  rw [left]
  exact place

/-- A working directory with an env file that names another directory for settings, in which there
is a settings file already. -/
def movingSession : Session where
  files := ⟨(((FileTree.empty.put EnvFile.fileName []
      (.file (.plain (Utf8.ofString "XDG_CONFIG_HOME=/other")))).put
    (Utf8.ofString "other") [] .directory).put
    (Utf8.ofString "respack") [Utf8.ofString "other"] .directory).put
    (Utf8.ofString "settings.json") [Utf8.ofString "respack", Utf8.ofString "other"]
      (.file (.plain (Utf8.ofString "\x7b\"export_format\":\"png\"\x7d"))),
    .inTree []⟩
  env := ⟨[("HOME", Utf8.ofString "/home")]⟩
  accountHome := none

/-- The env file moves the place of the settings file between the two commands, so that the format
is that of the other file although no variable gives one. -/
theorem initConfig_then_load_moving : ∃ after env,
    (Command.initConfig none false).run load (.start movingSession none) = .ok () after ∧
      formatOf? env = none ∧ FormatReadable env ∧
      load after.session = .ok ⟨default.exportDir, .png⟩ env := by
  have done := eq_ok_of_succeeds (show succeeds
    ((Command.initConfig none false).run load (.start movingSession none)) by decide +kernel)
  refine ⟨_, movingSession.env.set "XDG_CONFIG_HOME" (Utf8.ofString "/other"), done, rfl, ?_, ?_⟩
  · intro text stands
    contradiction
  · decide +kernel

end Settings

end IconCatalog
