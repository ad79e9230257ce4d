import IconCatalog.Image.Chunks
import IconCatalog.Image.Pixel
import IconCatalog.PixelFormat
import IconCatalog.Word
set_option autoImplicit false

namespace IconCatalog

/-- A named bitmap. Its pixels stand row by row from the top left, and their number is fixed by the
sides, whose buffer can be addressed. -/
structure Image where
  name : String
  format : PixelFormat
  width : UInt64
  height : UInt64
  bytes : Bytes
  addressable : width.toNat * height.toNat * 4 < UInt64.size
  length_bytes : bytes.length = width.toNat * height.toNat * 4
  deriving DecidableEq

/-- Why sides and buffer make no image. -/
inductive ImageFault
  | lengthMismatch (name : String) (expected : UInt64) (actual : Nat)
  | dimensionOverflow (width height : UInt64)
  deriving DecidableEq, Repr

def ImageFault.message : ImageFault → String
  | .lengthMismatch name expected actual =>
    "image '" ++ name ++ "': expected " ++ decimal expected ++ " bytes, got " ++ actual.repr
  | .dimensionOverflow width height =>
    "image dimensions " ++ decimal width ++ "x" ++ decimal height ++ " overflow the address space"

inductive EmbedFault
  | dimensions
  | length
  deriving DecidableEq, Repr

def EmbedFault.message : EmbedFault → String
  | .dimensions => "image dimensions overflow"
  | .length => "image byte length does not match its dimensions"

/-- Pixels with straight alpha, either the image's own buffer or a converted copy. -/
structure StraightPixels where
  shared : Bool
  bytes : Bytes
  deriving DecidableEq, Repr

namespace Image

/-- The length of the buffer, when it can be addressed. -/
def byteLength? (format : PixelFormat) (width height : UInt64) : Option UInt64 :=
  (checkedMul width height).bind fun pixels => checkedMul pixels format.bytesPerPixel

theorem byteLength?_eq_some_iff {format : PixelFormat} {width height length : UInt64} :
    byteLength? format width height = some length ↔
      width.toNat * height.toNat * 4 = length.toNat := by
  have bound := length.toNat_lt_size
  simp only [byteLength?, Option.bind_eq_some_iff, checkedMul_eq_some_iff,
    PixelFormat.toNat_bytesPerPixel]
  constructor
  · rintro ⟨pixels, whole, part⟩
    rw [whole, part]
  · intro total
    have pixels : width.toNat * height.toNat < UInt64.size := by omega
    refine ⟨UInt64.ofNat (width.toNat * height.toNat), ?_, ?_⟩ <;>
      rw [UInt64.toNat_ofNat_of_lt' pixels]
    exact total

theorem byteLength?_eq_none_iff {format : PixelFormat} {width height : UInt64} :
    byteLength? format width height = none ↔ UInt64.size ≤ width.toNat * height.toNat * 4 := by
  simp only [Option.eq_none_iff_forall_ne_some, ne_eq, byteLength?_eq_some_iff]
  constructor
  · intro unreached
    apply Nat.le_of_not_lt
    intro fits
    exact unreached (UInt64.ofNat _) (UInt64.toNat_ofNat_of_lt' fits).symm
  · intro overflows length total
    have bound := length.toNat_lt_size
    omega

def ofBytes (name : String) (format : PixelFormat) (width height : UInt64) (bytes : Bytes) :
    Except ImageFault Image :=
  match known : byteLength? format width height with
  | none => .error (.dimensionOverflow width height)
  | some expected =>
    if same : bytes.length = expected.toNat then
      .ok {
        name, format, width, height, bytes
        addressable := byteLength?_eq_some_iff.1 known ▸ expected.toNat_lt_size
        length_bytes := same.trans (byteLength?_eq_some_iff.1 known).symm }
    else .error (.lengthMismatch name expected bytes.length)

/-- The image of a buffer that is part of the program, where a fault is the programmer's. -/
def embed (name : String) (format : PixelFormat) (width height : UInt64) (bytes : Bytes) :
    Except EmbedFault Image :=
  match known : byteLength? format width height with
  | none => .error .dimensions
  | some expected =>
    if same : bytes.length = expected.toNat then
      .ok {
        name, format, width, height, bytes
        addressable := byteLength?_eq_some_iff.1 known ▸ expected.toNat_lt_size
        length_bytes := same.trans (byteLength?_eq_some_iff.1 known).symm }
    else .error .length

def stride (image : Image) : UInt64 := image.width * image.format.bytesPerPixel

def pixelCount (image : Image) : UInt64 := image.width * image.height

def pixel? (image : Image) (x y : UInt64) : Option Pixel :=
  if image.width ≤ x ∨ image.height ≤ y then none
  else
    let offset := y * image.stride + x * image.format.bytesPerPixel
    (slice? image.bytes offset (offset + 4)).bind Pixel.ofBytes?

/-- The rows from the top. An image without width has none. -/
def rows (image : Image) : List Bytes :=
  chunksExact (max image.stride 1).toNat (if image.width = 0 then [] else image.bytes)

/-- The number of rows, which is known before the first one is cut. -/
def rowCount (image : Image) : Nat :=
  (if image.width = 0 then [] else image.bytes).length / (max image.stride 1).toNat

def pixels (image : Image) : List Pixel :=
  (chunksExact 4 image.bytes).filterMap Pixel.ofBytes?

def straight (image : Image) : StraightPixels :=
  match image.format with
  | .nrgba => ⟨true, image.bytes⟩
  | .prgba => ⟨false, image.pixels.flatMap fun pixel => pixel.straight.toBytes⟩

end Image

end IconCatalog
