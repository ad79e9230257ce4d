import IconCatalog.PixelFormat
set_option autoImplicit false

namespace IconCatalog

/-- The two kinds of file that an image is exported to. -/
inductive ExportFormat
  /-- The buffer of the image, byte by byte. -/
  | raw
  /-- A PNG picture with straight alpha. -/
  | png
  deriving DecidableEq, Repr

/-- A spelling, in lower case, that names no export format. -/
structure UnknownExportFormat where
  spelling : String
  deriving DecidableEq, Repr

def UnknownExportFormat.message (e : UnknownExportFormat) : String :=
  "unsupported export format '" ++ e.spelling ++ "', expected raw or png"

namespace ExportFormat

def tag : ExportFormat → String
  | raw => "raw"
  | png => "png"

/-- The name under which log records speak of a format. -/
def name : ExportFormat → String
  | raw => "Raw"
  | png => "Png"

def parse (s : String) : Except UnknownExportFormat ExportFormat :=
  if asciiLower s = raw.tag then .ok raw
  else if asciiLower s = png.tag then .ok png
  else .error ⟨asciiLower s⟩

/-- Raw files carry the tag of their pixel layout, so that they can be told apart. -/
def extension (format : ExportFormat) (pixels : PixelFormat) : String :=
  match format with
  | raw => pixels.tag
  | png => "png"

def reader : Json.Reader ExportFormat := Json.readNamed parse UnknownExportFormat.message

def ofJson (text : Bytes) : Except Json.Fault ExportFormat := Json.readWhole reader text

def toJson (format : ExportFormat) : String := Json.quote format.tag

theorem tag_injective {f g : ExportFormat} (same : f.tag = g.tag) : f = g := by
  cases f <;> cases g <;> first | rfl | exact absurd same (by decide)

@[simp] theorem parse_tag (f : ExportFormat) : parse f.tag = .ok f := by
  cases f <;> rfl

theorem parse_eq_ok_iff {s : String} {f : ExportFormat} :
    parse s = .ok f ↔ asciiLower s = f.tag := by
  unfold parse
  constructor
  · intro accepted
    split at accepted
    · next lower => cases accepted; exact lower
    split at accepted
    · next lower => cases accepted; exact lower
    · contradiction
  · intro lower
    cases f
    · rw [if_pos lower]
    · rw [if_neg (by rw [lower]; decide), if_pos lower]

end ExportFormat

end IconCatalog
