import IconCatalog.Environment
import IconCatalog.ExportFormat
import IconCatalog.Json.Writer
import IconCatalog.Path
set_option autoImplicit false

namespace IconCatalog

/-- Where icons are exported to and as what. -/
structure Settings where
  exportDir : Path
  exportFormat : ExportFormat
  deriving DecidableEq, Repr

namespace Settings

def default : Settings where
  exportDir := .ofString "icons"
  exportFormat := .raw

instance : Inhabited Settings := ⟨default⟩

/-- Whether two settings do the same, with their directories written alike. -/
def alike (s t : Settings) : Bool :=
  s.exportDir.alike t.exportDir && s.exportFormat = t.exportFormat

/-- Settings in JSON, unless the directory is no text. -/
def toJson? (layout : Json.Layout) (s : Settings) : Option String :=
  s.exportDir.text?.map fun dir =>
    layout.object 0 [("export_dir", .text dir), ("export_format", .text s.exportFormat.tag)]

def dirVariable : String := "RESPACK_EXPORT_DIR"

def formatVariable : String := "RESPACK_EXPORT_FORMAT"

def override? (env : Environment) (name : String) : Option String :=
  (env.text? name).filter fun value => value ≠ ""

def overrideDir (env : Environment) (s : Settings) : Settings :=
  match override? env dirVariable with
  | none => s
  | some dir => { s with exportDir := .ofString dir }

/-- Settings under the variables of an environment. The directory counts even where the format is
refused. -/
def override (env : Environment) (s : Settings) :
    EStateM.Result UnknownExportFormat Settings Unit :=
  match override? env formatVariable with
  | none => .ok () (s.overrideDir env)
  | some format =>
    match ExportFormat.parse format with
    | .error fault => .error fault (s.overrideDir env)
    | .ok format => .ok () { s.overrideDir env with exportFormat := format }

end Settings

def overrideMessages (fault : UnknownExportFormat) : List String :=
  ["invalid " ++ Settings.formatVariable, fault.message]

end IconCatalog
