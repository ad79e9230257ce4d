import IconCatalog.Image
import IconCatalog.Json.Writer
set_option autoImplicit false

namespace IconCatalog

/-- What is told about an image without its pixels. -/
structure Summary where
  name : String
  format : PixelFormat
  width : UInt64
  height : UInt64
  byteLength : UInt64
  deriving DecidableEq, Repr

def Image.summary (image : Image) : Summary where
  name := image.name
  format := image.format
  width := image.width
  height := image.height
  byteLength := UInt64.ofNat image.bytes.length

namespace Summary

/-- For example `tiny 2x2, nrgba, 16 bytes`. -/
def line (s : Summary) : String :=
  s.name ++ " " ++ decimal s.width ++ "x" ++ decimal s.height ++ ", " ++ s.format.tag ++ ", " ++
    decimal s.byteLength ++ " bytes"

def members (s : Summary) : List (String × Json.Scalar) := [
  ("name", .text s.name),
  ("format", .text s.format.tag),
  ("width", .size s.width),
  ("height", .size s.height),
  ("byte_len", .size s.byteLength)]

def toJson (layout : Json.Layout) (s : Summary) : String := layout.object 0 s.members

def listToJson (layout : Json.Layout) (summaries : List Summary) : String :=
  layout.array 0 (summaries.map fun s => layout.object 1 s.members)

end Summary

end IconCatalog
