import IconCatalog.EnvFile
import IconCatalog.Session
import IconCatalog.Settings.Reading
set_option autoImplicit false

namespace IconCatalog

inductive SaveFault
  | directory (dir : Path) (fault : FileFault)
  /-- The export directory is no text, so JSON cannot hold it. -/
  | notText
  | write (path : Path) (fault : FileFault)
  deriving DecidableEq, Repr

def SaveFault.messages : SaveFault → List String
  | .directory dir fault => ["failed to create " ++ dir.display, fault.message]
  | .notText => ["path contains invalid UTF-8 characters"]
  | .write path fault => ["failed to write settings to " ++ path.display, fault.message]

inductive ReadFault
  | read (path : Path) (fault : FileFault)
  | parse (path : Path) (fault : Json.Fault)
  deriving DecidableEq, Repr

def ReadFault.messages : ReadFault → List String
  | .read path fault => ["failed to read settings from " ++ path.display, fault.message]
  | .parse path fault => ["failed to parse settings in " ++ path.display, fault.message]

inductive LoadFault
  /-- The env file gives a variable a value that no environment can hold. -/
  | unsettable (fault : UnsettableVariable)
  | file (fault : ReadFault)
  | override (fault : UnknownExportFormat)
  deriving DecidableEq, Repr

def LoadFault.messages : LoadFault → List String
  | .unsettable fault => [fault.message]
  | .file fault => fault.messages
  | .override fault => overrideMessages fault

namespace Settings

def createParent (path : Path) (files : Files) : EStateM.Result SaveFault Files Unit :=
  match path.parent? with
  | none => .ok () files
  | some dir =>
    match files.createDirectories dir with
    | .error fault files => .error (.directory dir fault) files
    | .ok () files => .ok () files

/-- Writes the settings. The directory of the file is made first, and even for settings that
cannot be written. -/
def saveTo (s : Settings) (path : Path) (files : Files) : EStateM.Result SaveFault Files Unit :=
  match createParent path files with
  | .error fault files => .error fault files
  | .ok () files =>
    match s.toJson? .pretty with
    | none => .error .notText files
    | some json =>
      match files.write path (.plain (Utf8.ofString json)) with
      | .error fault => .error (.write path fault) files
      | .ok files => .ok () files

/-- Reads a settings file. One that is not found has the defaults in it. -/
def loadFrom (path : Path) (files : Files) : Except ReadFault Settings :=
  if files.found path then
    match files.read path with
    | .error fault => .error (.read path fault)
    | .ok content =>
      match ofJson content.bytes with
      | .error fault => .error (.parse path fault)
      | .ok settings => .ok settings
  else .ok default

def defaultPath? (session : Session) : Option Path :=
  session.configDir?.map fun dir =>
    (dir.join (.ofString "respack")).join (.ofString "settings.json")

/-- The environment after the env file of the working directory has been merged. -/
def mergeEnvFile (session : Session) : EStateM.Result UnsettableVariable Environment Unit :=
  match EnvFile.ofWorkingDirectory? session.files with
  | none => .ok () session.env
  | some content => EnvFile.merge content.bytes session.env

def ofFile (session : Session) : Except ReadFault Settings :=
  match defaultPath? session with
  | none => .ok default
  | some path => loadFrom path session.files

/-- The settings of a session: those of the settings file under the variables of the environment,
to which the env file is added first. Nothing but the environment changes. -/
def load (session : Session) : EStateM.Result LoadFault Environment Settings :=
  match mergeEnvFile session with
  | .error fault env => .error (.unsettable fault) env
  | .ok () env =>
    match ofFile { session with env := env } with
    | .error fault => .error (.file fault) env
    | .ok settings =>
      match settings.override env with
      | .error fault _ => .error (.override fault) env
      | .ok () settings => .ok settings env

end Settings

end IconCatalog
