import IconCatalog.Image.Chunks
import IconCatalog.Text.Utf8
set_option autoImplicit false

namespace IconCatalog

/-- A picture as a PNG file holds it: red, green, blue and straight alpha, one byte each, row by
row. -/
structure Picture where
  width : UInt32
  height : UInt32
  pixels : Bytes
  deriving DecidableEq, Repr

namespace Png

def signature : Bytes := [0x89, 0x50, 0x4E, 0x47, 0x0D, 0x0A, 0x1A, 0x0A]

/-- A 32-bit number, the highest byte first. -/
def word (n : UInt32) : Bytes :=
  [(n >>> 24).toUInt8, (n >>> 16).toUInt8, (n >>> 8).toUInt8, n.toUInt8]

/-- A 16-bit number, the lowest byte first. -/
def halfReversed (n : UInt16) : Bytes := [n.toUInt8, (n >>> 8).toUInt8]

def checksumBit (sum : UInt32) : UInt32 :=
  if sum &&& 1 = 1 then (sum >>> 1) ^^^ 0xEDB88320 else sum >>> 1

def checksumByte (sum : UInt32) (b : UInt8) : UInt32 :=
  checksumBit (checksumBit (checksumBit (checksumBit (checksumBit (checksumBit
    (checksumBit (checksumBit (sum ^^^ b.toUInt32))))))))

def checksum (bytes : Bytes) : UInt32 := bytes.foldl checksumByte 0xFFFFFFFF ^^^ 0xFFFFFFFF

def chunk (kind data : Bytes) : Bytes :=
  word (UInt32.ofNat data.length) ++ kind ++ data ++ word (checksum (kind ++ data))

def streamSums (bytes : Bytes) : UInt32 × UInt32 :=
  bytes.foldl
    (fun (low, high) b =>
      let low := (low + b.toUInt32) % 65521
      (low, (high + low) % 65521))
    (1, 0)

def blockSize : Nat := 65535

def storedBlock (mark : UInt8) (data : Bytes) : Bytes :=
  let length := UInt16.ofNat data.length
  mark :: halfReversed length ++ halfReversed (length ^^^ 0xFFFF) ++ data

/-- Blocks of stored data, the last of them marked. -/
def storedBlocks : List Bytes → Bytes
  | [] => []
  | [data] => storedBlock 1 data
  | data :: rest => storedBlock 0 data ++ storedBlocks rest

def stream (data : Bytes) : Bytes :=
  let sums := streamSums data
  0x78 :: 0x01 :: storedBlocks (chunks (data.length / blockSize + 1) blockSize data) ++
    word (sums.2 <<< 16 ||| sums.1)

/-- Each row after the mark of its filter, which is none. -/
def scanlines (p : Picture) : Bytes :=
  (chunks p.height.toNat (p.width.toNat * 4) p.pixels).flatMap fun row => 0 :: row

def header (p : Picture) : Bytes := word p.width ++ word p.height ++ [8, 6, 0, 0, 0]

def ending : Bytes := chunk [0x49, 0x45, 0x4E, 0x44] []

/-- Eight bits per sample. Rows are stored as they are, without filters and without compression,
which every reader of the format accepts. -/
def encode (p : Picture) : Bytes :=
  signature ++ chunk [0x49, 0x48, 0x44, 0x52] (header p) ++
    chunk [0x49, 0x44, 0x41, 0x54] (stream (scanlines p)) ++ ending

end Png

end IconCatalog
