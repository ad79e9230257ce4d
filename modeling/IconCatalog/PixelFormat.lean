import IconCatalog.Json.Named
import IconCatalog.Json.Writer
set_option autoImplicit false

namespace IconCatalog

/-- The two pixel layouts. Both store red, green, blue and alpha in one byte each. -/
inductive PixelFormat
  /-- Straight alpha. -/
  | nrgba
  /-- Colours are multiplied by alpha. -/
  | prgba
  deriving DecidableEq, Repr

/-- A spelling that names no pixel format. -/
structure UnknownPixelFormat where
  spelling : String
  deriving DecidableEq, Repr

def UnknownPixelFormat.message (e : UnknownPixelFormat) : String :=
  "unknown pixel format: " ++ e.spelling

namespace PixelFormat

def tag : PixelFormat → String
  | nrgba => "nrgba"
  | prgba => "prgba"

def bytesPerPixel : PixelFormat → UInt64
  | nrgba => 4
  | prgba => 4

def parse (s : String) : Except UnknownPixelFormat PixelFormat :=
  if asciiLower s = nrgba.tag then .ok nrgba
  else if asciiLower s = prgba.tag then .ok prgba
  else .error ⟨s⟩

def reader : Json.Reader PixelFormat := Json.readNamed parse UnknownPixelFormat.message

def ofJson (text : Bytes) : Except Json.Fault PixelFormat := Json.readWhole reader text

def toJson (format : PixelFormat) : String := Json.quote format.tag

theorem toNat_bytesPerPixel (f : PixelFormat) : f.bytesPerPixel.toNat = 4 := by
  cases f <;> rfl

theorem tag_injective {f g : PixelFormat} (same : f.tag = g.tag) : f = g := by
  cases f <;> cases g <;> first | rfl | exact absurd same (by decide)

@[simp] theorem parse_tag (f : PixelFormat) : parse f.tag = .ok f := by
  cases f <;> rfl

end PixelFormat

end IconCatalog
