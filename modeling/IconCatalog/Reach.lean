import IconCatalog.Program
set_option autoImplicit false

namespace IconCatalog.Reach

def location? : Place → Option Location
  | .inTree loc => some loc
  | .lost _ _ => none

def around : Location → List Location
  | [] => [[]]
  | name :: dir => around dir ++ [name :: dir]

/-- The locations on the way of a path. Those of the paths below, and the places for env files, are
all that a run of the program looks at or changes. -/
def ofPath (files : Files) (p : Path) : List Location :=
  (FileTree.trail (files.start p) p.names).filterMap location?

/-- The working directory and the places for env files. -/
def ofWorkingDirectory (cwd : Place) : List Location :=
  let dirs := (location? cwd).elim [] around
  dirs ++ dirs.map (EnvFile.fileName :: ·)

/-- The places for settings files, before and after the env file is merged. -/
def settingsPaths (session : Session) : List Path :=
  let merged :=
    match Settings.mergeEnvFile session with
    | .ok _ env => env
    | .error _ env => env
  (Settings.defaultPath? session).toList ++
    (Settings.defaultPath? { session with env := merged }).toList

/-- The paths that a command writes to, when the settings files are known. -/
def targetPaths (session : Session) : Command → List Path
  | .exportIcons _ dir format =>
    let settings :=
      match Settings.load session with
      | .ok settings _ => settings
      | .error _ _ => Settings.default
    let dir := dir.getD settings.exportDir
    let format := format.getD settings.exportFormat
    dir :: Catalog.icons.map fun image => image.target dir format
  | .initConfig path _ => path.toList
  | _ => []

end IconCatalog.Reach
