import IconCatalog.Image
import Mathlib.Tactic.Ring
set_option autoImplicit false

namespace IconCatalog

namespace Pixel

theorem ofBytes?_eq_some_iff {bytes : Bytes} {p : Pixel} :
    ofBytes? bytes = some p ↔ bytes = p.toBytes := by
  constructor
  · intro read
    unfold ofBytes? at read
    split at read
    · cases read
      rfl
    · contradiction
  · rintro rfl
    rfl

@[simp] theorem length_toBytes (p : Pixel) : p.toBytes.length = 4 := rfl

theorem exists_toBytes {bytes : Bytes} (four : bytes.length = 4) :
    ∃ p : Pixel, bytes = p.toBytes := by
  match bytes, four with
  | [r, g, b, a], _ => exact ⟨⟨r, g, b, a⟩, rfl⟩

end Pixel

def PixelFormat.straighten : PixelFormat → Pixel → Pixel
  | .nrgba, p => p
  | .prgba, p => p.straight

theorem length_of_mem_chunks {α : Type} {count size : Nat} {xs piece : List α}
    (enough : count * size ≤ xs.length) (member : piece ∈ chunks count size xs) :
    piece.length = size := by
  induction count generalizing xs with
  | zero => exact absurd member List.not_mem_nil
  | succ count ih =>
      rw [Nat.succ_mul] at enough
      rw [chunks_succ] at member
      rcases List.mem_cons.1 member with rfl | later
      · rw [List.length_take]
        omega
      · apply ih _ later
        rw [List.length_drop]
        omega

/-- Pieces of four bytes are the bytes of as many pixels. -/
theorem exists_pixels {pieces : List Bytes} (four : ∀ piece ∈ pieces, piece.length = 4) :
    ∃ ps : List Pixel, pieces.filterMap Pixel.ofBytes? = ps ∧ pieces = ps.map Pixel.toBytes := by
  induction pieces with
  | nil => exact ⟨[], rfl, rfl⟩
  | cons piece pieces ih =>
      obtain ⟨p, rfl⟩ := Pixel.exists_toBytes (four piece List.mem_cons_self)
      obtain ⟨ps, read, same⟩ := ih fun piece later => four piece (List.mem_cons_of_mem _ later)
      refine ⟨p :: ps, ?_, ?_⟩
      · rw [List.filterMap_cons_some (Pixel.ofBytes?_eq_some_iff.2 rfl), read]
      · rw [List.map_cons, same]

theorem length_flatMap_of_four {α : Type} {f : α → Bytes} (four : ∀ a, (f a).length = 4)
    (as : List α) : (as.flatMap f).length = 4 * as.length := by
  simp only [List.length_flatMap, four, List.map_const', List.sum_replicate_nat, Nat.mul_comm]

/-- Where each item takes four bytes, those of an item are found at four times its index. -/
theorem slice_flatMap {α : Type} {f : α → Bytes} (four : ∀ a, (f a).length = 4) {as : List α}
    {k : Nat} {a : α} (found : as[k]? = some a) :
    ((as.flatMap f).drop (4 * k)).take 4 = f a := by
  induction as generalizing k with
  | nil => contradiction
  | cons first as ih =>
      rw [List.flatMap_cons]
      cases k with
      | zero =>
          cases found
          have whole : (f a).length = 4 := four a
          rw [Nat.mul_zero, List.drop_zero, ← whole, List.take_left]
      | succ k =>
          have later : as[k]? = some a := found
          have start : 4 * (k + 1) = (f first).length + 4 * k := by
            rw [four]
            omega
          rw [start, List.drop_length_add_append]
          exact ih later

namespace Image

variable {image : Image} {x y : UInt64}

private theorem chunks_bytes (image : Image) :
    ∃ ps : List Pixel, image.pixels = ps ∧ chunksExact 4 image.bytes = ps.map Pixel.toBytes := by
  apply exists_pixels
  intro piece member
  apply length_of_mem_chunks _ member
  rw [image.length_bytes]
  omega

theorem flatMap_toBytes_pixels (image : Image) :
    image.pixels.flatMap Pixel.toBytes = image.bytes := by
  obtain ⟨ps, read, pieces⟩ := chunks_bytes image
  have whole : image.bytes.length / 4 * 4 = image.bytes.length := by
    rw [image.length_bytes]
    omega
  rw [read, List.flatMap_def, ← pieces, chunksExact, flatten_chunks, whole, List.take_length]

theorem length_pixels (image : Image) :
    image.pixels.length = image.width.toNat * image.height.toNat := by
  obtain ⟨ps, read, pieces⟩ := chunks_bytes image
  have count : ps.length = (chunksExact 4 image.bytes).length := by rw [pieces, List.length_map]
  rw [read, count, chunksExact, length_chunks, image.length_bytes]
  omega

/-- The place of a pixel in the order of the buffer. -/
def index (image : Image) (x y : UInt64) : Nat := y.toNat * image.width.toNat + x.toNat

theorem index_lt (column : x < image.width) (row : y < image.height) :
    image.index x y < image.width.toNat * image.height.toNat := by
  have left : x.toNat < image.width.toNat := UInt64.lt_iff_toNat_lt.1 column
  have above : y.toNat + 1 ≤ image.height.toNat := UInt64.lt_iff_toNat_lt.1 row
  calc image.index x y
      < y.toNat * image.width.toNat + image.width.toNat := Nat.add_lt_add_left left _
    _ = image.width.toNat * (y.toNat + 1) := by ring
    _ ≤ image.width.toNat * image.height.toNat := Nat.mul_le_mul_left _ above

theorem index_end_le (column : x < image.width) (row : y < image.height) :
    4 * image.index x y + 4 ≤ image.bytes.length := by
  have inside := index_lt column row
  rw [image.length_bytes]
  omega

theorem toNat_stride (fits : image.width.toNat * 4 < UInt64.size) :
    image.stride.toNat = image.width.toNat * 4 := by
  rw [stride, toNat_mul_of_lt] <;> rw [PixelFormat.toNat_bytesPerPixel]
  exact fits

/-- With one row at least, a row is no longer than the buffer. -/
theorem stride_fits (row : y < image.height) : image.width.toNat * 4 < UInt64.size := by
  have bound := image.addressable
  have above : y.toNat < image.height.toNat := UInt64.lt_iff_toNat_lt.1 row
  have tall : image.width.toNat ≤ image.width.toNat * image.height.toNat :=
    Nat.le_mul_of_pos_right _ (by omega)
  omega

theorem rows_add_columns (row : y < image.height) :
    y.toNat * image.stride.toNat + x.toNat * image.format.bytesPerPixel.toNat =
      4 * image.index x y := by
  rw [toNat_stride (stride_fits row), PixelFormat.toNat_bytesPerPixel, index]
  ring

theorem toNat_rows_add_columns (column : x < image.width) (row : y < image.height) :
    (y * image.stride).toNat + (x * image.format.bytesPerPixel).toNat = 4 * image.index x y := by
  have total := rows_add_columns (x := x) row
  have inside := index_end_le column row
  have bound := image.addressable
  rw [image.length_bytes] at inside
  have rows : (y * image.stride).toNat = y.toNat * image.stride.toNat := by
    apply toNat_mul_of_lt
    omega
  have columns : (x * image.format.bytesPerPixel).toNat =
      x.toNat * image.format.bytesPerPixel.toNat := by
    apply toNat_mul_of_lt
    omega
  rw [rows, columns, total]

/-- The words with which a pixel is looked up do not overflow. -/
theorem toNat_offset (column : x < image.width) (row : y < image.height) :
    (y * image.stride + x * image.format.bytesPerPixel).toNat = 4 * image.index x y := by
  have inside := index_lt column row
  have bound := image.addressable
  rw [UInt64.toNat_add, toNat_rows_add_columns column row]
  apply Nat.mod_eq_of_lt
  change _ < UInt64.size
  omega

theorem toNat_offset_end (column : x < image.width) (row : y < image.height) :
    (y * image.stride + x * image.format.bytesPerPixel + 4).toNat = 4 * image.index x y + 4 := by
  have inside := index_lt column row
  have bound := image.addressable
  have last : (4 : UInt64).toNat = 4 := rfl
  rw [UInt64.toNat_add, toNat_offset column row, last]
  apply Nat.mod_eq_of_lt
  change _ < UInt64.size
  omega

theorem slice_bytes {p : Pixel} {k : Nat} (there : image.pixels[k]? = some p) :
    (image.bytes.drop (4 * k)).take 4 = p.toBytes := by
  rw [← flatMap_toBytes_pixels]
  exact slice_flatMap Pixel.length_toBytes there

theorem slice?_offset (column : x < image.width) (row : y < image.height) {p : Pixel}
    (there : image.pixels[image.index x y]? = some p) :
    slice? image.bytes (y * image.stride + x * image.format.bytesPerPixel)
      (y * image.stride + x * image.format.bytesPerPixel + 4) = some p.toBytes := by
  have inside := index_lt column row
  have start := toNat_offset column row
  have stop := toNat_offset_end column row
  have fits : y * image.stride + x * image.format.bytesPerPixel ≤
      y * image.stride + x * image.format.bytesPerPixel + 4 ∧
      (y * image.stride + x * image.format.bytesPerPixel + 4).toNat ≤ image.bytes.length := by
    rw [UInt64.le_iff_toNat_le, start, stop, image.length_bytes]
    omega
  have four : 4 * image.index x y + 4 - 4 * image.index x y = 4 := by omega
  rw [slice?, if_pos fits, start, stop, four, slice_bytes there]

theorem exists_pixel? (column : x < image.width) (row : y < image.height) :
    ∃ p, image.pixel? x y = some p ∧ image.pixels[image.index x y]? = some p := by
  have outside : ¬ (image.width ≤ x ∨ image.height ≤ y) := by
    simp only [UInt64.le_iff_toNat_le, not_or, Nat.not_le, ← UInt64.lt_iff_toNat_lt]
    exact ⟨column, row⟩
  have inside := index_lt column row
  rw [← length_pixels] at inside
  have there := List.getElem?_eq_getElem inside
  refine ⟨_, ?_, there⟩
  simp only [pixel?, if_neg outside, slice?_offset column row there]
  rfl

/-- With straight alpha, the pixels are the same ones in the same order, each converted. -/
theorem straight_bytes (image : Image) :
    image.straight.bytes =
      image.pixels.flatMap fun p => (image.format.straighten p).toBytes := by
  unfold straight
  cases image.format with
  | nrgba => exact image.flatMap_toBytes_pixels.symm
  | prgba => rfl

theorem length_straight (image : Image) :
    image.straight.bytes.length = 4 * (image.width.toNat * image.height.toNat) := by
  rw [straight_bytes, length_flatMap_of_four fun p => (image.format.straighten p).length_toBytes,
    length_pixels]

/-- The bytes of a pixel with straight alpha stand where those of the pixel stood. -/
theorem slice_straight {p : Pixel} {k : Nat} (there : image.pixels[k]? = some p) :
    (image.straight.bytes.drop (4 * k)).take 4 = (image.format.straighten p).toBytes := by
  rw [straight_bytes]
  exact slice_flatMap (fun p => (image.format.straighten p).length_toBytes) there

end Image

end IconCatalog
