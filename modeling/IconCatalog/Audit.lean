import IconCatalog.Image
import Std.Data.HashSet
set_option autoImplicit false

namespace IconCatalog

inductive Problem
  | length (name : String) (actual : Nat) (expected : UInt64)
  | format (name : String) (found : PixelFormat)
  | notSquare (name : String) (width height : UInt64)
  | duplicateName (name : String)
  | duplicateSize (name : String) (width : UInt64)
  deriving DecidableEq, Repr

def Problem.message : Problem → String
  | .length name actual expected =>
    name ++ ": " ++ actual.repr ++ " bytes, expected " ++ decimal expected
  | .format name found => name ++ ": format is " ++ found.tag ++ ", expected nrgba"
  | .notSquare name width height =>
    name ++ ": icon is not square (" ++ decimal width ++ "x" ++ decimal height ++ ")"
  | .duplicateName name => name ++ ": duplicate name"
  | .duplicateSize name width => name ++ ": duplicate size " ++ decimal width

namespace Audit

/-- The names and widths of the images that have been looked at. A later image is blamed for what it
shares with an earlier one. -/
structure Seen where
  names : Std.HashSet String
  widths : Std.HashSet UInt64

namespace Seen

def none : Seen := ⟨∅, ∅⟩

def add (seen : Seen) (image : Image) : Seen :=
  ⟨seen.names.insert image.name, seen.widths.insert image.width⟩

end Seen

def report (found : Bool) (problem : Problem) : List Problem := if found then [problem] else []

/-- The problems of one image after those that have been looked at. -/
def ofImage (seen : Seen) (image : Image) : List Problem :=
  let expected := image.width * image.height * image.format.bytesPerPixel
  report (image.bytes.length ≠ expected.toNat)
    (.length image.name image.bytes.length expected) ++
  report (image.format ≠ .nrgba) (.format image.name image.format) ++
  report (image.width ≠ image.height) (.notSquare image.name image.width image.height) ++
  report (seen.names.contains image.name) (.duplicateName image.name) ++
  report (seen.widths.contains image.width) (.duplicateSize image.name image.width)

def problemsAfter (seen : Seen) : List Image → List Problem
  | [] => []
  | image :: rest => ofImage seen image ++ problemsAfter (seen.add image) rest

def problems (images : List Image) : List Problem := problemsAfter .none images

end Audit

end IconCatalog
