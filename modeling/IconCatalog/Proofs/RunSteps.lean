import IconCatalog.Proofs.CatalogIcons
import IconCatalog.Proofs.Outcome
import IconCatalog.Run
set_option autoImplicit false

namespace IconCatalog

variable {ε : Type}

namespace Run

def withSession {α : Type} (next : Session → EStateM (RunFault ε) Run α) :
    EStateM (RunFault ε) Run α :=
  fun run => next run.session run

/-- A property that commands have when their steps have it. Of images only icons are exported, and
of settings only the defaults are saved. -/
structure Inherited (loader : Loader ε) (P : (α : Type) → EStateM (RunFault ε) Run α → Prop) :
    Prop where
  pure : ∀ {α : Type} (value : α), P α (pure value)
  throw : ∀ {α : Type} (fault : RunFault ε), P α (throw fault)
  bind : ∀ {α β : Type} {act : EStateM (RunFault ε) Run α} {next : α → EStateM (RunFault ε) Run β},
    P α act → (∀ value, P β (next value)) → P β (act >>= next)
  withSession : ∀ {α : Type} {next : Session → EStateM (RunFault ε) Run α},
    (∀ session, P α (next session)) → P α (withSession next)
  print : ∀ text, P Unit (print text)
  record : ∀ entry, P Unit (record entry)
  load : P Settings (load loader)
  exportTo : ∀ {icon : Image} (dir : Path) (format : ExportFormat), icon ∈ Catalog.icons →
    P Path (onFiles .exportIcon (icon.exportTo dir format))
  saveTo : ∀ path, P Unit (onFiles .save (Settings.default.saveTo path))

def requested (names : List String) : EStateM (RunFault ε) Run (List Image) :=
  if names.isEmpty then pure Catalog.icons else icons names

theorem icon_of_find? {name : String} {image : Image} (found : Catalog.find? name = some image) :
    (icon name : EStateM (RunFault ε) Run Image) = pure image := by
  rw [icon, found]

theorem icon_of_unknown {name : String} (unknown : Catalog.find? name = none) :
    (icon name : EStateM (RunFault ε) Run Image) = throw (.unknownIcon name) := by
  rw [icon, unknown]

/-- Names are looked up without a change: either all are known, or one of them is reported. -/
theorem icons_cases (names : List String) :
    (∃ images, names.mapM Catalog.find? = some images ∧
      (icons names : EStateM (RunFault ε) Run (List Image)) = pure images) ∨
    (names.mapM Catalog.find? = none ∧ ∃ name,
      (icons names : EStateM (RunFault ε) Run (List Image)) = throw (.unknownIcon name)) := by
  induction names with
  | nil => exact Or.inl ⟨[], rfl, rfl⟩
  | cons name names ih =>
      rw [List.mapM_cons, icons]
      cases found : Catalog.find? name with
      | none =>
          rw [icon_of_unknown found]
          exact Or.inr ⟨rfl, name, rfl⟩
      | some image =>
          rw [icon_of_find? found, pure_bind]
          rcases ih with ⟨images, known, read⟩ | ⟨unknown, name', failed⟩
          · rw [known, read]
            exact Or.inl ⟨image :: images, rfl, rfl⟩
          · rw [unknown, failed]
            exact Or.inr ⟨rfl, name', rfl⟩

theorem requested_cases (names : List String) :
    (∃ images, Catalog.requested? names = some images ∧
      (requested names : EStateM (RunFault ε) Run (List Image)) = pure images) ∨
    (Catalog.requested? names = none ∧ ∃ name,
      (requested names : EStateM (RunFault ε) Run (List Image)) = throw (.unknownIcon name)) := by
  unfold requested Catalog.requested?
  split
  · exact Or.inl ⟨Catalog.icons, rfl, rfl⟩
  · exact icons_cases names

theorem initConfig_eq (path : Path) (force : Bool) :
    (initConfig path force : EStateM (RunFault ε) Run Unit) = withSession fun session =>
      if session.files.found path && !force then throw (.settingsExist path)
      else (do
        onFiles .save (Settings.default.saveTo path)
        record (.wroteSettings path)
        printLine path.display) := by
  funext run
  unfold initConfig withSession
  rw [bind_apply]
  change (ite _ _ _ : EStateM (RunFault ε) Run Unit) run =
    (ite _ _ _ : EStateM (RunFault ε) Run Unit) run
  by_cases guarded : (run.session.files.found path && !force) = true
  · rw [if_pos guarded, if_pos guarded]
    rfl
  · rw [if_neg guarded, if_neg guarded]

end Run

theorem Command.run_exportIcons (loader : Loader ε) (names : List String) (dir : Option Path)
    (format : Option ExportFormat) :
    (Command.exportIcons names dir format).run loader = (do
      let settings ← Run.load loader
      let images ← Run.requested names
      Run.exportIcons (dir.getD settings.exportDir) (format.getD settings.exportFormat)
        images) := by
  simp only [Command.run, Run.requested]
  split <;> rfl

/-- A run after its settings were asked for. -/
def Run.asked (run : Run) (env : Environment) : Run :=
  { run with session := { run.session with env := env }, loads := run.loads + 1 }

/-- An export with settings and known icons is the export of these icons alone. -/
theorem Command.run_exportIcons_of_known {loader : Loader ε} {names : List String}
    {dir : Option Path} {format : Option ExportFormat} {run : Run} {settings : Settings}
    {env : Environment} {images : List Image} (loaded : loader run.session = .ok settings env)
    (known : Catalog.requested? names = some images) :
    (Command.exportIcons names dir format).run loader run =
      Run.exportIcons (dir.getD settings.exportDir) (format.getD settings.exportFormat) images
        (run.asked env) := by
  rw [Command.run_exportIcons, bind_apply, Run.load, loaded]
  rcases Run.requested_cases (ε := ε) names with ⟨images', known', read⟩ | ⟨unknown, _⟩
  · rw [known] at known'
    cases known'
    rw [read]
    rfl
  · rw [known] at unknown
    contradiction

theorem Command.run_exportIcons_eq_ok {loader : Loader ε} {names : List String}
    {dir : Option Path} {format : Option ExportFormat} {run after : Run}
    (done : (Command.exportIcons names dir format).run loader run = .ok () after) :
    ∃ settings env images, loader run.session = .ok settings env ∧
      Catalog.requested? names = some images := by
  rw [Command.run_exportIcons, bind_apply, Run.load] at done
  cases loaded : loader run.session with
  | error fault env =>
      rw [loaded] at done
      contradiction
  | ok settings env =>
      rw [loaded] at done
      rcases Run.requested_cases (ε := ε) names with ⟨images, known, _⟩ | ⟨_, name, failed⟩
      · exact ⟨settings, env, images, rfl, known⟩
      · rw [failed] at done
        contradiction

theorem Command.run_initConfig (loader : Loader ε) (path : Option Path) (force : Bool) :
    (Command.initConfig path force).run loader = Run.withSession fun session =>
      match path.or (Settings.defaultPath? session) with
      | none => throw .noConfigDir
      | some path => Run.initConfig path force := rfl

namespace Run.Inherited

variable {loader : Loader ε} {P : (α : Type) → EStateM (RunFault ε) Run α → Prop}

theorem icon (steps : Inherited loader P) (name : String) : P Image (icon name) := by
  cases found : Catalog.find? name with
  | none =>
      rw [icon_of_unknown found]
      exact steps.throw _
  | some image =>
      rw [icon_of_find? found]
      exact steps.pure _

theorem verify (steps : Inherited loader P) (images : List Image) : P Unit (verify images) := by
  have records (problems : List Problem) :
      P Unit (problems.forM fun problem => Run.record (.problem problem)) := by
    induction problems with
    | nil => exact steps.pure ()
    | cons problem problems ih => exact steps.bind (steps.record _) fun _ => ih
  apply steps.bind (steps.bind (records _) fun _ => steps.pure _)
  intro problems
  split
  · exact steps.print _
  · exact steps.throw _

theorem exportIcons (steps : Inherited loader P) (dir : Path) (format : ExportFormat)
    {images : List Image} (known : ∀ image ∈ images, image ∈ Catalog.icons) :
    P Unit (exportIcons dir format images) := by
  induction images with
  | nil => exact steps.pure ()
  | cons image images ih =>
      have first : P Unit (exportIcon dir format image) := by
        apply steps.bind (steps.exportTo dir format (known image List.mem_cons_self))
        intro path
        exact steps.bind (steps.record _) fun _ => steps.print _
      exact steps.bind first fun _ => ih fun image' inside =>
        known image' (List.mem_cons_of_mem _ inside)

theorem initConfig (steps : Inherited loader P) (path : Path) (force : Bool) :
    P Unit (initConfig path force) := by
  rw [initConfig_eq]
  apply steps.withSession
  intro session
  split
  · exact steps.throw _
  · apply steps.bind (steps.saveTo path)
    intro _
    exact steps.bind (steps.record _) fun _ => steps.print _

/-- A command has the property of its steps. -/
theorem command (steps : Inherited loader P) (command : Command) : P Unit (command.run loader) := by
  cases command with
  | list json => exact steps.print _
  | describe name => exact steps.bind (steps.icon name) fun _ => steps.print _
  | pick size => exact steps.print _
  | verify => exact steps.verify _
  | exportIcons names dir format =>
      rw [Command.run_exportIcons]
      apply steps.bind steps.load
      intro settings
      rcases requested_cases (ε := ε) names with ⟨images, known, read⟩ | ⟨_, name, failed⟩
      · rw [read, pure_bind]
        exact steps.exportIcons _ _ (Catalog.mem_icons_of_requested? known)
      · rw [failed]
        exact steps.throw (.unknownIcon name)
  | initConfig path force =>
      rw [Command.run_initConfig]
      apply steps.withSession
      intro session
      split
      · exact steps.throw _
      · exact steps.initConfig _ force

end Run.Inherited

end IconCatalog
