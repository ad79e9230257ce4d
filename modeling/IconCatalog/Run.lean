import IconCatalog.Audit
import IconCatalog.Catalog
import IconCatalog.Command
import IconCatalog.Export
import IconCatalog.Settings.File
import IconCatalog.Summary
set_option autoImplicit false

namespace IconCatalog

/-- What a run tells about its progress, next to what it prints. -/
inductive Record
  | exported (name : String) (format : ExportFormat)
  | wroteSettings (path : Path)
  | problem (found : Problem)
  deriving DecidableEq, Repr

def Record.message : Record → String
  | .exported name format => "Exported " ++ name ++ " (" ++ format.name ++ ")"
  | .wroteSettings path => "Wrote default settings to " ++ path.display
  | .problem found => found.message

/-- The importance under which a record is kept. -/
def Record.level : Record → String
  | .exported _ _ => "INFO"
  | .wroteSettings _ => "INFO"
  | .problem _ => "WARN"

/-- A run while it goes on: files, output and log. When a run fails, what it did before stays
done. -/
structure Run where
  session : Session
  printed : Bytes
  /-- How many more bytes can be printed, where there is a limit. -/
  room : Option Nat
  log : List Record
  /-- How often the settings were loaded. -/
  loads : Nat

/-- Why a run failed. Faults of loading the settings are those of the loader. -/
inductive RunFault (ε : Type)
  | load (fault : ε)
  | unknownIcon (name : String)
  | problems (found : List Problem)
  | exportIcon (fault : ExportFault)
  | noConfigDir
  | settingsExist (path : Path)
  | save (fault : SaveFault)
  | outputFull
  deriving DecidableEq, Repr

/-- What was attempted, then why it failed. -/
def RunFault.messages {ε : Type} (loadMessages : ε → List String) : RunFault ε → List String
  | .load fault => loadMessages fault
  | .unknownIcon name => ["no embedded resource named '" ++ name ++ "'"]
  | .problems found =>
    [found.length.repr ++ " catalog problem(s):\n" ++ joined "\n" (found.map Problem.message)]
  | .exportIcon fault => fault.messages
  | .noConfigDir => ["no config directory on this platform, pass --path"]
  | .settingsExist path => [path.display ++ " already exists, pass --force to overwrite"]
  | .save fault => fault.messages
  | .outputFull => ["output full"]

/-- How the settings of a session are found. That may change the environment. -/
abbrev Loader (ε : Type) := Session → EStateM.Result ε Environment Settings

namespace Run

def start (session : Session) (room : Option Nat) : Run := ⟨session, [], room, [], 0⟩

variable {ε : Type}

def print (text : String) : EStateM (RunFault ε) Run Unit := fun run =>
  let bytes := Utf8.ofString text
  match run.room with
  | none => .ok () { run with printed := run.printed ++ bytes }
  | some room =>
    if bytes.length ≤ room then
      .ok () { run with printed := run.printed ++ bytes, room := some (room - bytes.length) }
    else
      .error .outputFull { run with printed := run.printed ++ bytes.take room, room := some 0 }

def printLine (line : String) : EStateM (RunFault ε) Run Unit := print (line ++ "\n")

def record (entry : Record) : EStateM (RunFault ε) Run Unit :=
  modify fun run => { run with log := run.log ++ [entry] }

/-- Does something to the files alone. -/
def onFiles {φ α : Type} (wrap : φ → RunFault ε) (act : Files → EStateM.Result φ Files α) :
    EStateM (RunFault ε) Run α := fun run =>
  match act run.session.files with
  | .ok value files => .ok value { run with session := { run.session with files := files } }
  | .error fault files =>
    .error (wrap fault) { run with session := { run.session with files := files } }

/-- Asks the loader. -/
def load (loader : Loader ε) : EStateM (RunFault ε) Run Settings := fun run =>
  match loader run.session with
  | .ok settings env =>
    .ok settings { run with session := { run.session with env := env }, loads := run.loads + 1 }
  | .error fault env =>
    .error (.load fault)
      { run with session := { run.session with env := env }, loads := run.loads + 1 }

def icon (name : String) : EStateM (RunFault ε) Run Image :=
  match Catalog.find? name with
  | some image => pure image
  | none => throw (.unknownIcon name)

def icons : List String → EStateM (RunFault ε) Run (List Image)
  | [] => pure []
  | name :: rest => do
    let image ← icon name
    let images ← icons rest
    pure (image :: images)

/-- All icons, as a list in JSON or with a line for each. -/
def listText (json : Bool) : String :=
  let summaries := Catalog.icons.map Image.summary
  if json then Summary.listToJson .pretty summaries ++ "\n"
  else String.join (summaries.map fun s => s.line ++ "\n")

def description (image : Image) : String :=
  "name:   " ++ image.name ++ "\nformat: " ++ image.format.tag ++
    "\nwidth:  " ++ decimal image.width ++ "\nheight: " ++ decimal image.height ++
    "\nbytes:  " ++ image.bytes.length.repr

/-- Tells what is wrong with some images as a set of icons, and keeps a record of each problem. -/
def audit (images : List Image) : EStateM (RunFault ε) Run (List Problem) := do
  let problems := Audit.problems images
  problems.forM fun problem => record (.problem problem)
  pure problems

def verify (images : List Image) : EStateM (RunFault ε) Run Unit := do
  let problems ← audit images
  if problems.isEmpty then printLine (images.length.repr ++ " resources ok")
  else throw (.problems problems)

def exportIcon (dir : Path) (format : ExportFormat) (image : Image) :
    EStateM (RunFault ε) Run Unit := do
  let path ← onFiles .exportIcon (image.exportTo dir format)
  record (.exported image.name format)
  printLine path.display

def exportIcons (dir : Path) (format : ExportFormat) : List Image → EStateM (RunFault ε) Run Unit
  | [] => pure ()
  | image :: rest => do
    exportIcon dir format image
    exportIcons dir format rest

/-- Writes a settings file with the defaults. One that is there is kept, unless `force` is given. -/
def initConfig (path : Path) (force : Bool) : EStateM (RunFault ε) Run Unit := do
  if (← get).session.files.found path && !force then throw (.settingsExist path)
  onFiles .save (Settings.default.saveTo path)
  record (.wroteSettings path)
  printLine path.display

end Run

/-- Runs a command. The loader is asked only by exports, and before anything else is done. -/
def Command.run {ε : Type} (loader : Loader ε) : Command → EStateM (RunFault ε) Run Unit
  | .list json => Run.print (Run.listText json)
  | .describe name => do Run.printLine (Run.description (← Run.icon name))
  | .pick size => Run.printLine (Catalog.iconForSize size).name
  | .verify => Run.verify Catalog.icons
  | .exportIcons names dir format => do
    let settings ← Run.load loader
    let images ← if names.isEmpty then pure Catalog.icons else Run.icons names
    Run.exportIcons (dir.getD settings.exportDir) (format.getD settings.exportFormat) images
  | .initConfig path force => do
    match path.or (Settings.defaultPath? (← get).session) with
    | none => throw .noConfigDir
    | some path => Run.initConfig path force

end IconCatalog
