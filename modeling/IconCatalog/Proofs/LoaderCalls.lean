import IconCatalog.Proofs.RunSteps
set_option autoImplicit false

namespace IconCatalog

variable {ε : Type}

/-- A command that prints what is known about icons. -/
def Command.onlyPrints : Command → Bool
  | .list _ => true
  | .describe _ => true
  | .pick _ => true
  | .verify => true
  | .exportIcons _ _ _ => false
  | .initConfig _ _ => false

namespace Run

/-- What was printed and recorded, in another session and as if nobody had asked for settings. -/
def elsewhere (session : Session) (run : Run) : Run :=
  { run with session := session, loads := 0 }

section Elsewhere

variable {session : Session}

theorem print_elsewhere (text : String) :
    Commutes (elsewhere session) (print text : EStateM (RunFault ε) Run Unit) := by
  intro run
  simp only [print, elsewhere]
  split
  · rfl
  · split <;> rfl

theorem icon_elsewhere (name : String) :
    Commutes (elsewhere session) (icon name : EStateM (RunFault ε) Run Image) := by
  intro run
  unfold icon
  cases Catalog.find? name <;> rfl

theorem records_elsewhere (problems : List Problem) :
    Commutes (elsewhere session)
      (problems.forM fun problem => record (.problem problem) : EStateM (RunFault ε) Run Unit) := by
  induction problems with
  | nil => exact fun _ => rfl
  | cons problem problems ih =>
      have first : Commutes (elsewhere session)
          (record (.problem problem) : EStateM (RunFault ε) Run Unit) := fun _ => rfl
      exact first.bind fun _ => ih

theorem audit_elsewhere (images : List Image) :
    Commutes (elsewhere session) (audit images : EStateM (RunFault ε) Run (List Problem)) :=
  (records_elsewhere _).bind fun _ _ => rfl

theorem verify_elsewhere (images : List Image) :
    Commutes (elsewhere session) (verify images : EStateM (RunFault ε) Run Unit) := by
  apply (audit_elsewhere images).bind
  intro problems
  split
  · exact print_elsewhere _
  · exact fun _ => rfl

end Elsewhere

/-- A step that asks for no settings and changes no variable. -/
def Quiet {α : Type} (act : EStateM (RunFault ε) Run α) : Prop :=
  ∀ run, (stateAfter (act run)).loads = run.loads ∧
    (stateAfter (act run)).session.env = run.session.env

section Quiet

variable {α β : Type} {act : EStateM (RunFault ε) Run α} {next : α → EStateM (RunFault ε) Run β}

theorem Quiet.bind (first : Quiet act) (later : ∀ value, Quiet (next value)) :
    Quiet (act >>= next) := by
  intro run
  obtain ⟨loads, env⟩ := first run
  rw [bind_apply]
  cases done : act run with
  | error fault after =>
      rw [done] at loads env
      exact ⟨loads, env⟩
  | ok value after =>
      rw [done] at loads env
      obtain ⟨loads', env'⟩ := later value after
      exact ⟨loads'.trans loads, env'.trans env⟩

theorem quiet_print (text : String) : Quiet (print text : EStateM (RunFault ε) Run Unit) := by
  intro run
  simp only [print]
  split
  · exact ⟨rfl, rfl⟩
  · split <;> exact ⟨rfl, rfl⟩

theorem quiet_record (entry : Record) :
    Quiet (record entry : EStateM (RunFault ε) Run Unit) := fun _ => ⟨rfl, rfl⟩

theorem quiet_onFiles {φ : Type} (wrap : φ → RunFault ε) (act : Files → EStateM.Result φ Files α) :
    Quiet (onFiles wrap act) := by
  intro run
  simp only [onFiles]
  split <;> exact ⟨rfl, rfl⟩

theorem quiet_requested (names : List String) :
    Quiet (requested names : EStateM (RunFault ε) Run (List Image)) := by
  rcases requested_cases (ε := ε) names with ⟨images, _, read⟩ | ⟨_, name, failed⟩
  · rw [read]
    exact fun _ => ⟨rfl, rfl⟩
  · rw [failed]
    exact fun _ => ⟨rfl, rfl⟩

theorem quiet_exportIcons (dir : Path) (format : ExportFormat) (images : List Image) :
    Quiet (exportIcons dir format images : EStateM (RunFault ε) Run Unit) := by
  induction images with
  | nil => exact fun _ => ⟨rfl, rfl⟩
  | cons image images ih =>
      have first : Quiet (exportIcon dir format image : EStateM (RunFault ε) Run Unit) := by
        apply (quiet_onFiles _ _).bind
        intro path
        exact (quiet_record _).bind fun _ => quiet_print _
      exact first.bind fun _ => ih

theorem quiet_initConfig (path : Path) (force : Bool) :
    Quiet (initConfig path force : EStateM (RunFault ε) Run Unit) := by
  rw [initConfig_eq]
  intro run
  rw [withSession]
  split
  · exact ⟨rfl, rfl⟩
  · have steps := (quiet_onFiles (ε := ε) .save (Settings.default.saveTo path)).bind fun _ =>
      (quiet_record (.wroteSettings path)).bind fun _ => quiet_print (path.display ++ "\n")
    exact steps run

end Quiet

end Run

namespace Command

variable {command : Command} {loader loader' : Loader ε} {session : Session}

/-- A command that only prints does not look at the session. -/
theorem run_elsewhere (session : Session) (loader : Loader ε) (prints : command.onlyPrints = true) :
    Commutes (Run.elsewhere session) (command.run loader) := by
  cases command with
  | list json => exact Run.print_elsewhere _
  | describe name => exact (Run.icon_elsewhere name).bind fun _ => Run.print_elsewhere _
  | pick size => exact Run.print_elsewhere _
  | verify => exact Run.verify_elsewhere _
  | exportIcons names dir format => contradiction
  | initConfig path force => contradiction

theorem run_eq_of_onlyPrints (loader loader' : Loader ε) (prints : command.onlyPrints = true) :
    command.run loader = command.run loader' := by
  cases command <;> first | rfl | contradiction

/-- The outcome of a command that only prints in any other session. In its own session it leaves
everything as it was, since it does not matter whether the run is put there before or after it. -/
theorem run_onlyPrints (prints : command.onlyPrints = true) (session' : Session)
    (room : Option Nat) :
    command.run loader' (.start session' room) =
        mapState (Run.elsewhere session') (command.run loader (.start session room)) ∧
      (stateAfter (command.run loader (.start session room))).session = session ∧
      (stateAfter (command.run loader (.start session room))).loads = 0 := by
  have here : command.run loader (.start session room) =
      mapState (Run.elsewhere session) (command.run loader (.start session room)) :=
    run_elsewhere session loader prints (.start session room)
  constructor
  · rw [run_eq_of_onlyPrints loader' loader prints]
    exact run_elsewhere session' loader prints (.start session room)
  · rw [here]
    cases command.run loader (.start session room) <;> exact ⟨rfl, rfl⟩

theorem quiet_run_initConfig (path : Option Path) (force : Bool) :
    Run.Quiet ((initConfig path force).run loader) := by
  rw [run_initConfig]
  intro run
  rw [Run.withSession]
  cases path.or (Settings.defaultPath? run.session) with
  | none => exact ⟨rfl, rfl⟩
  | some path => exact Run.quiet_initConfig path force run

theorem run_exportIcons_of_error {names : List String} {dir? : Option Path}
    {format? : Option ExportFormat} {run : Run} {fault : ε} {env : Environment}
    (failed : loader run.session = .error fault env) :
    (exportIcons names dir? format?).run loader run = .error (.load fault) (run.asked env) := by
  rw [run_exportIcons, bind_apply, Run.load, failed]
  rfl

theorem run_exportIcons_of_ok {names : List String} {dir? : Option Path}
    {format? : Option ExportFormat} {run : Run} {settings : Settings} {env : Environment}
    (loaded : loader run.session = .ok settings env) :
    (exportIcons names dir? format?).run loader run =
      (Run.requested names >>= Run.exportIcons (dir?.getD settings.exportDir)
        (format?.getD settings.exportFormat)) (run.asked env) := by
  rw [run_exportIcons, bind_apply, Run.load, loaded]
  rfl

theorem loads_run_exportIcons (names : List String) (dir? : Option Path)
    (format? : Option ExportFormat) (run : Run) :
    (stateAfter ((exportIcons names dir? format?).run loader run)).loads = run.loads + 1 := by
  cases loaded : loader run.session with
  | error fault env =>
      rw [run_exportIcons_of_error loaded]
      rfl
  | ok settings env =>
      rw [run_exportIcons_of_ok loaded]
      exact ((Run.quiet_requested names).bind (Run.quiet_exportIcons _ _) (run.asked env)).1

/-- Commands that only print have the same outcome in any two sessions and with any two loaders: the
same result, output and records. They do not ask for settings, and leave the session as it was. A
settings file is written without asking for settings, and all variables are kept. An export asks for
settings once and before anything else: where the loader fails, nothing is looked up, printed or
written, and otherwise the loader does not matter any more. -/
theorem run_asks_for_settings :
    (∀ (command : Command) (loader loader' : Loader ε) (session session' : Session)
      (room : Option Nat), command.onlyPrints = true →
      command.run loader' (.start session' room) =
          mapState (Run.elsewhere session') (command.run loader (.start session room)) ∧
        (stateAfter (command.run loader (.start session room))).session = session ∧
        (stateAfter (command.run loader (.start session room))).loads = 0) ∧
    (∀ (path : Option Path) (force : Bool) (loader loader' : Loader ε) (session : Session)
      (room : Option Nat),
      (initConfig path force).run loader = (initConfig path force).run loader' ∧
        (stateAfter ((initConfig path force).run loader (.start session room))).loads = 0 ∧
        (stateAfter ((initConfig path force).run loader (.start session room))).session.env =
          session.env) ∧
    ∀ (names : List String) (dir? : Option Path) (format? : Option ExportFormat)
      (loader : Loader ε) (session : Session) (room : Option Nat),
      (stateAfter ((exportIcons names dir? format?).run loader (.start session room))).loads = 1 ∧
        (∀ fault env, loader session = .error fault env →
          (exportIcons names dir? format?).run loader (.start session room) =
            .error (.load fault) ((Run.start session room).asked env)) ∧
        ∀ settings env, loader session = .ok settings env →
          (exportIcons names dir? format?).run loader (.start session room) =
            (Run.requested names >>= Run.exportIcons (dir?.getD settings.exportDir)
              (format?.getD settings.exportFormat)) ((Run.start session room).asked env) := by
  refine ⟨?_, ?_, ?_⟩
  · intro command loader loader' session session' room prints
    exact run_onlyPrints prints session' room
  · intro path force loader loader' session room
    exact ⟨rfl, quiet_run_initConfig path force (.start session room)⟩
  · intro names dir? format? loader session room
    refine ⟨loads_run_exportIcons names dir? format? (.start session room), ?_, ?_⟩
    · intro fault env failed
      exact run_exportIcons_of_error failed
    · intro settings env loaded
      exact run_exportIcons_of_ok loaded

end Command

end IconCatalog
