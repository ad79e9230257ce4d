import IconCatalog.ExportFormat
import IconCatalog.Files
import IconCatalog.Image
set_option autoImplicit false

namespace IconCatalog

inductive EncodeFault
  | file (fault : FileFault)
  /-- A PNG file holds one pixel at least. -/
  | zeroWidth
  | zeroHeight
  deriving DecidableEq, Repr

def EncodeFault.message : EncodeFault → String
  | .file fault => fault.message
  | .zeroWidth => "Zero width not allowed"
  | .zeroHeight => "Zero height not allowed"

inductive ExportFault
  | directory (dir : Path) (fault : FileFault)
  | write (target : Path) (fault : FileFault)
  /-- The width does not fit in the 32 bits that a PNG file has for it. -/
  | tooWide
  | tooTall
  | encode (target : Path) (fault : EncodeFault)
  deriving DecidableEq, Repr

/-- What was attempted, then why it failed. -/
def ExportFault.messages : ExportFault → List String
  | .directory dir fault =>
    ["failed to create export directory " ++ dir.display, fault.message]
  | .write target fault => ["failed to write " ++ target.display, fault.message]
  | .tooWide => ["image too wide for png", "number too large to fit in target type"]
  | .tooTall => ["image too tall for png", "number too large to fit in target type"]
  | .encode target fault => ["failed to encode " ++ target.display, fault.message]

namespace Image

def fileName (image : Image) (format : ExportFormat) : String :=
  image.name ++ "." ++ format.extension image.format

/-- The file of an image that is exported to a directory. -/
def target (image : Image) (dir : Path) (format : ExportFormat) : Path :=
  dir.join (.ofString (image.fileName format))

def picture (image : Image) : Picture where
  width := image.width.toUInt32
  height := image.height.toUInt32
  pixels := image.straight.bytes

def maxSide : UInt64 := 0xFFFFFFFF

def encodeFault? (image : Image) : Option EncodeFault :=
  if image.width = 0 then some .zeroWidth
  else if image.height = 0 then some .zeroHeight
  else none

/-- Fills a file that has been opened for a picture. When the encoder refuses the image, the old
content of the file is already gone, and the file is closed with the end of a picture. -/
def encodeTo (image : Image) (target : Path) (files : Files) :
    EStateM.Result ExportFault Files Unit :=
  match image.encodeFault? with
  | none =>
    match files.write target (.picture image.picture) with
    | .error fault => .error (.encode target (.file fault)) files
    | .ok written => .ok () written
  | some refusal =>
    match files.write target (.plain Png.ending) with
    | .error fault => .error (.encode target (.file fault)) files
    | .ok written => .error (.encode target refusal) written

def writeTo (image : Image) (target : Path) (format : ExportFormat) (files : Files) :
    EStateM.Result ExportFault Files Unit :=
  match format with
  | .raw =>
    match files.write target (.plain image.bytes) with
    | .error fault => .error (.write target fault) files
    | .ok written => .ok () written
  | .png =>
    if maxSide < image.width then .error .tooWide files
    else if maxSide < image.height then .error .tooTall files
    else image.encodeTo target files

/-- Writes an image into a directory, which is made if it is missing, and tells the path of its
file. -/
def exportTo (image : Image) (dir : Path) (format : ExportFormat) (files : Files) :
    EStateM.Result ExportFault Files Path :=
  match files.createDirectories dir with
  | .error fault files => .error (.directory dir fault) files
  | .ok () files =>
    match image.writeTo (image.target dir format) format files with
    | .error fault files => .error fault files
    | .ok () files => .ok (image.target dir format) files

end Image

end IconCatalog
