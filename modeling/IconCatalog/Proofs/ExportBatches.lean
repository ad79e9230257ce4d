import IconCatalog.Proofs.OutputLimit
import IconCatalog.Settings.File
set_option autoImplicit false

namespace IconCatalog

variable {ε : Type}

/-- A loader that always gives the same settings. It may change the environment in any way. -/
def Loader.giving (settings : Settings) (change : Session → Environment) : Loader ε :=
  fun session => .ok settings (change session)

namespace Run

/-- A run that goes on with what another run did on its own: the files are those which that one
left, and its output and its records stand behind the earlier ones. -/
def continued (run part : Run) : Run where
  session := { run.session with files := part.session.files }
  printed := run.printed ++ part.printed
  room := part.room
  log := run.log ++ part.log
  loads := run.loads

theorem commutes_print (run : Run) (text : String) :
    Commutes run.continued (print text : EStateM (RunFault ε) Run Unit) := by
  intro part
  simp only [print, continued]
  split
  · simp only [mapState, continued, List.append_assoc]
  · split <;> simp only [mapState, continued, List.append_assoc]

theorem commutes_record (run : Run) (entry : Record) :
    Commutes run.continued (record entry : EStateM (RunFault ε) Run Unit) := by
  intro part
  change EStateM.Result.ok () { run.continued part with log := run.log ++ part.log ++ [entry] } = _
  rw [List.append_assoc]
  rfl

theorem commutes_onFiles {φ α : Type} (run : Run) (wrap : φ → RunFault ε)
    (act : Files → EStateM.Result φ Files α) : Commutes run.continued (onFiles wrap act) := by
  intro part
  simp only [onFiles, continued]
  split <;> rfl

/-- Exports look at the files alone, and they print and record behind what is there. -/
theorem commutes_exportIcons (run : Run) (dir : Path) (format : ExportFormat)
    (images : List Image) :
    Commutes run.continued (exportIcons dir format images : EStateM (RunFault ε) Run Unit) := by
  induction images with
  | nil => exact fun _ => rfl
  | cons image images ih =>
      have first : Commutes run.continued
          (exportIcon dir format image : EStateM (RunFault ε) Run Unit) := by
        apply (commutes_onFiles run _ _).bind
        intro path
        exact (commutes_record run _).bind fun _ => commutes_print run _
      exact first.bind fun _ => ih

/-- What exports do in a run without a limit is what they do in a run that has just begun. -/
theorem exportIcons_of_free {run : Run} (free : run.room = none) (env : Environment) (dir : Path)
    (format : ExportFormat) (images : List Image) :
    (exportIcons dir format images : EStateM (RunFault ε) Run Unit) run =
      mapState run.continued
        (exportIcons dir format images ((start run.session none).asked env)) := by
  have begun : run = run.continued ((start run.session none).asked env) := by
    simp only [continued, asked, start, List.append_nil, ← free]
  rw [← commutes_exportIcons, ← begun]

theorem exportIcons_append (dir : Path) (format : ExportFormat) (first second : List Image) :
    (exportIcons dir format (first ++ second) : EStateM (RunFault ε) Run Unit) = (do
      exportIcons dir format first
      exportIcons dir format second) := by
  induction first with
  | nil => rfl
  | cons image first ih => rw [List.cons_append, exportIcons, ih, exportIcons, bind_assoc]

theorem icons_of_mapM {names : List String} {images : List Image}
    (known : names.mapM Catalog.find? = some images) :
    (icons names : EStateM (RunFault ε) Run (List Image)) = pure images := by
  rcases icons_cases (ε := ε) names with ⟨images', known', read⟩ | ⟨unknown, _⟩
  · rw [known] at known'
    cases known'
    exact read
  · rw [known] at unknown
    contradiction

theorem icons_append {names more : List String} {images : List Image}
    (known : more.mapM Catalog.find? = some images) :
    (icons (names ++ more) : EStateM (RunFault ε) Run (List Image)) = (do
      let first ← icons names
      pure (first ++ images)) := by
  induction names with
  | nil => exact icons_of_mapM known
  | cons name names ih =>
      rw [List.cons_append, icons, ih, icons]
      simp only [bind_assoc, pure_bind, List.cons_append]

theorem requested_of_ne_nil {names : List String} (filled : names ≠ []) :
    (requested names : EStateM (RunFault ε) Run (List Image)) = icons names := by
  rw [requested, if_neg (by rwa [List.isEmpty_iff])]

theorem requested_nil :
    (requested [] : EStateM (RunFault ε) Run (List Image)) =
      requested (Catalog.icons.map Image.name) := by
  have named := Catalog.mapM_find?_names fun image (inside : image ∈ Catalog.icons) => inside
  have filled : Catalog.icons.map Image.name ≠ [] := List.cons_ne_nil _ _
  rw [requested_of_ne_nil filled, icons_of_mapM named]
  rfl

end Run

/-- The export of some names in a session, with settings that are given and an output without a
limit. -/
def Session.exporting (settings : Settings) (change : Session → Environment) (dir? : Option Path)
    (format? : Option ExportFormat) (names : List String) (session : Session) :
    EStateM.Result (RunFault ε) Run Unit :=
  (Command.exportIcons names dir? format?).run (.giving settings change) (.start session none)

namespace Session

variable {settings : Settings} {change : Session → Environment} {dir? : Option Path}
  {format? : Option ExportFormat} {names more : List String} {session : Session}

theorem exporting_eq : session.exporting (ε := ε) settings change dir? format? names =
    (Run.requested names >>= Run.exportIcons (dir?.getD settings.exportDir)
      (format?.getD settings.exportFormat)) ((Run.start session none).asked (change session)) := by
  rw [exporting, Command.run_exportIcons, bind_apply]
  rfl

theorem exporting_of_requested {images : List Image}
    (known : Catalog.requested? names = some images) :
    session.exporting (ε := ε) settings change dir? format? names =
      Run.exportIcons (dir?.getD settings.exportDir) (format?.getD settings.exportFormat) images
        ((Run.start session none).asked (change session)) :=
  Command.run_exportIcons_of_known rfl known

theorem free_of_exporting {after : Run}
    (done : session.exporting (ε := ε) settings change dir? format? names = .ok () after) :
    after.room = none := by
  have bounded := (Run.inherited_bounded (ε := ε) (.giving settings change)).command
    (.exportIcons names dir? format?)
  have free := (bounded (.start session none) rfl).free
  change (stateAfter (session.exporting settings change dir? format? names)).room = none at free
  rwa [done] at free

/-- Names behind others that are all known are exported when the export of the others is over. -/
theorem exporting_append {images : List Image} (filled : names ≠ [])
    (known : more.mapM Catalog.find? = some images) :
    session.exporting (ε := ε) settings change dir? format? (names ++ more) =
      andThen (session.exporting settings change dir? format? names)
        (Run.exportIcons (dir?.getD settings.exportDir) (format?.getD settings.exportFormat)
          images) := by
  have both : names ++ more ≠ [] := List.append_ne_nil_of_left_ne_nil filled _
  simp only [exporting_eq]
  rw [Run.requested_of_ne_nil both, Run.requested_of_ne_nil filled, Run.icons_append known]
  simp only [bind_assoc, pure_bind, Run.exportIcons_append]
  rw [← bind_assoc, bind_apply]
  generalize (Run.icons names >>= Run.exportIcons _ _) _ = result
  cases result <;> rfl

/-- To export names behind others is to export the others first and then, if that succeeds, these.
What the two runs print and record is what the one run does, and the files and the answer are those
of the last run. To export without names is to export all icons in their order. -/
theorem exporting_in_parts (settings : Settings) (change : Session → Environment)
    (dir? : Option Path) (format? : Option ExportFormat) (session : Session) (filled : names ≠ [])
    (filled' : more ≠ []) (known : ∀ name ∈ more, name ∈ Catalog.icons.map Image.name) :
    session.exporting (ε := ε) settings change dir? format? (names ++ more) =
      andThen (session.exporting settings change dir? format? names) (fun middle =>
        mapState middle.continued
          (middle.session.exporting settings change dir? format? more)) ∧
    ∀ loader : Loader ε, (Command.exportIcons [] dir? format?).run loader =
      (Command.exportIcons (Catalog.icons.map Image.name) dir? format?).run loader := by
  obtain ⟨images, found⟩ := Catalog.exists_mapM_find? known
  constructor
  · rw [exporting_append filled found]
    cases done : session.exporting (ε := ε) settings change dir? format? names with
    | error fault left => rfl
    | ok value middle =>
        have known' := (Catalog.requested?_of_ne_nil filled').trans found
        simp only [exporting_of_requested known']
        exact Run.exportIcons_of_free (free_of_exporting done) _ _ _ _
  · intro loader
    rw [Command.run_exportIcons, Command.run_exportIcons, Run.requested_nil]

/-- A working directory in which a directory stands in the place of an exported file. -/
def obstructed : Session where
  files := ⟨(FileTree.empty.put (Utf8.ofString "icons") [] .directory).put
    (Utf8.ofString "app_icon_24.nrgba") [Utf8.ofString "icons"] .directory, .inTree []⟩
  env := ⟨[]⟩
  accountHome := none

/-- In this directory the first part is exported before the second part finds the obstacle. -/
theorem exporting_in_parts_obstructed :
    ["app_icon_16"] ≠ [] ∧ ["app_icon_24", "app_icon_16"] ≠ [] ∧
    (∀ name ∈ ["app_icon_24", "app_icon_16"], name ∈ Catalog.icons.map Image.name) ∧
    obstructed.exporting (ε := LoadFault) .default env none none
        (["app_icon_16"] ++ ["app_icon_24", "app_icon_16"]) =
      andThen (obstructed.exporting .default env none none ["app_icon_16"]) (fun middle =>
        mapState middle.continued
          (middle.session.exporting .default env none none ["app_icon_24", "app_icon_16"])) := by
  have filled : ["app_icon_16"] ≠ [] := List.cons_ne_nil _ _
  have filled' : ["app_icon_24", "app_icon_16"] ≠ [] := List.cons_ne_nil _ _
  have known : ∀ name ∈ ["app_icon_24", "app_icon_16"], name ∈ Catalog.icons.map Image.name := by
    decide
  exact ⟨filled, filled', known,
    (exporting_in_parts .default env none none obstructed filled filled' known).1⟩

end Session

end IconCatalog
