import IconCatalog.Image
set_option autoImplicit false

namespace IconCatalog.Catalog

/-- So many pixels of one colour, in the order of the buffer. The digits `0xRRGGBBAA` of the colour
are red, green, blue and alpha. -/
abbrev Run := Nat × UInt32

def Run.pixel (run : Run) : Pixel where
  red := (run.2 >>> 24).toUInt8
  green := (run.2 >>> 16).toUInt8
  blue := (run.2 >>> 8).toUInt8
  alpha := run.2.toUInt8

def Run.bytes (run : Run) : Bytes := (List.replicate run.1 run.pixel.toBytes).flatten

def bytesOfRuns (runs : List Run) : Bytes := runs.flatMap Run.bytes

def pixelCount : List Run → Nat
  | [] => 0
  | run :: runs => run.1 + pixelCount runs

theorem length_bytesOfRuns (runs : List Run) : (bytesOfRuns runs).length = pixelCount runs * 4 := by
  induction runs with
  | nil => rfl
  | cons run runs ih =>
    have first : run.bytes.length = run.1 * 4 := by
      simp only [Run.bytes, Pixel.toBytes, List.length_flatten, List.map_replicate,
        List.length_cons, List.length_nil, List.sum_replicate_nat]
    have split : bytesOfRuns (run :: runs) = run.bytes ++ bytesOfRuns runs := rfl
    rw [split, List.length_append, first, ih, pixelCount, Nat.add_mul]

def icon (name : String) (edge : UInt64) (runs : List Run)
    (addressable : edge.toNat * edge.toNat * 4 < UInt64.size)
    (whole : pixelCount runs = edge.toNat * edge.toNat) : Image where
  name := name
  format := .nrgba
  width := edge
  height := edge
  bytes := bytesOfRuns runs
  addressable := addressable
  length_bytes := (length_bytesOfRuns runs).trans (congrArg (· * 4) whole)

end IconCatalog.Catalog
