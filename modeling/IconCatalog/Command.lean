import IconCatalog.ExportFormat
import IconCatalog.Path
set_option autoImplicit false

namespace IconCatalog

inductive Command
  /-- All icons, as lines of text or as JSON. -/
  | list (json : Bool)
  /-- One icon with its fields. -/
  | describe (name : String)
  /-- The icon for an edge length. -/
  | pick (size : UInt64)
  | verify
  /-- Some icons, or all where none is named, into a directory. What is not given comes from the
  settings. -/
  | exportIcons (names : List String) (dir : Option Path) (format : Option ExportFormat)
  /-- A settings file with the defaults, at a path or where the program looks for it. -/
  | initConfig (path : Option Path) (force : Bool)
  deriving DecidableEq, Repr

end IconCatalog
