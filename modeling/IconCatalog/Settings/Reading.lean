import IconCatalog.ExportFormat
import IconCatalog.Json.Record
import IconCatalog.Settings
set_option autoImplicit false

namespace IconCatalog.Settings

structure Given where
  exportDir : Option Path
  exportFormat : Option ExportFormat
  deriving DecidableEq, Repr

def dirField : Json.Field Given where
  name := "export_dir"
  isSet given := given.exportDir.isSome
  read given input := (Json.readString "path string" input).map fun (dir, rest) =>
    ({ given with exportDir := some (.ofString dir) }, rest)

def formatField : Json.Field Given where
  name := "export_format"
  isSet given := given.exportFormat.isSome
  read given input := (ExportFormat.reader input).map fun (format, rest) =>
    ({ given with exportFormat := some format }, rest)

def form : Json.RecordForm Given Given where
  typeName := "struct Settings"
  fields := [dirField, formatField]
  blank := ⟨none, none⟩
  finish := .ok
  finishShort _ given := .ok given

def Given.ofJson (text : Bytes) : Except Json.Fault Given := Json.readWhole form.read text

/-- Settings with the defaults for what is not given. -/
def ofGiven (given : Given) : Settings where
  exportDir := given.exportDir.getD default.exportDir
  exportFormat := given.exportFormat.getD default.exportFormat

def ofJson (text : Bytes) : Except Json.Fault Settings := (Given.ofJson text).map ofGiven

end IconCatalog.Settings
