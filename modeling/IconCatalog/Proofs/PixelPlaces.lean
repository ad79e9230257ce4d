import IconCatalog.Proofs.PixelGrid
import Mathlib.Data.List.Basic
set_option autoImplicit false

namespace IconCatalog

/-- Rows of one length, one behind the other, count through all indices. -/
theorem flatMap_range_rows {α : Type} (f : Nat → α) (width height : Nat) :
    ((List.range height).flatMap fun y => (List.range width).map fun x => f (y * width + x)) =
      (List.range (height * width)).map f := by
  induction height with
  | zero => rw [Nat.zero_mul, List.range_zero, List.flatMap_nil, List.map_nil]
  | succ height ih =>
      have last : (List.range width).map (fun x => f (height * width + x)) =
          ((List.range width).map (height * width + ·)).map f := List.map_map.symm
      rw [List.range_succ, List.flatMap_append, List.flatMap_singleton, ih, last,
        ← List.map_append, ← List.range_add, Nat.succ_mul]

theorem map_getElem?_range {α : Type} (xs : List α) :
    (List.range xs.length).map (fun k => xs[k]?) = xs.map some := by
  apply List.ext_getElem
  · simp only [List.length_map, List.length_range]
  · intro k _ inside
    rw [List.length_map] at inside
    simp only [List.getElem_map, List.getElem_range, List.getElem?_eq_getElem inside]

theorem toNat_ofNat_of_lt_toNat {n : Nat} {bound : UInt64} (below : n < bound.toNat) :
    (UInt64.ofNat n).toNat = n :=
  UInt64.toNat_ofNat_of_lt' (Nat.lt_trans below bound.toNat_lt_size)

namespace Image

variable {image : Image} {x y : UInt64}

/-- The exact values of the products and sums with which a pixel is looked up are words, and the
four bytes up to the last of these words are in the buffer. -/
structure LookUpFits (image : Image) (x y : UInt64) : Prop where
  stride : image.width.toNat * image.format.bytesPerPixel.toNat < UInt64.size
  rows : y.toNat * image.stride.toNat < UInt64.size
  columns : x.toNat * image.format.bytesPerPixel.toNat < UInt64.size
  start : (y * image.stride).toNat + (x * image.format.bytesPerPixel).toNat < UInt64.size
  stop : (y * image.stride + x * image.format.bytesPerPixel).toNat + 4 < UInt64.size
  inside : (y * image.stride + x * image.format.bytesPerPixel + 4).toNat ≤ image.bytes.length

theorem lookUpFits (column : x < image.width) (row : y < image.height) :
    image.LookUpFits x y := by
  have bound := image.addressable
  have inside := index_end_le column row
  have total := rows_add_columns (x := x) row
  have words := toNat_rows_add_columns column row
  have offset := toNat_offset column row
  have stop := toNat_offset_end column row
  have stride := stride_fits row
  rw [← PixelFormat.toNat_bytesPerPixel image.format] at stride
  have length := image.length_bytes
  -- Each word is a part of the end of the pixel, which is at most the length of the buffer.
  exact {
    stride
    rows := by omega
    columns := by omega
    start := by omega
    stop := by omega
    inside := by omega }

theorem isSome_pixel?_iff : (image.pixel? x y).isSome ↔ x < image.width ∧ y < image.height := by
  constructor
  · intro found
    by_cases outside : image.width ≤ x ∨ image.height ≤ y
    · rw [pixel?, if_pos outside] at found
      contradiction
    · simp only [UInt64.le_iff_toNat_le, not_or, Nat.not_le, ← UInt64.lt_iff_toNat_lt] at outside
      exact outside
  · rintro ⟨column, row⟩
    obtain ⟨p, looked, _⟩ := exists_pixel? column row
    rw [looked]
    rfl

theorem exists_pixel?_eq (column : x < image.width) (row : y < image.height) :
    ∃ p, image.pixel? x y = some p ∧
      p.toBytes = (image.bytes.drop (4 * image.index x y)).take 4 := by
  obtain ⟨p, looked, there⟩ := exists_pixel? column row
  exact ⟨p, looked, (slice_bytes there).symm⟩

theorem exists_index {k : Nat} (inside : k < image.width.toNat * image.height.toNat) :
    ∃ x y, x < image.width ∧ y < image.height ∧ image.index x y = k := by
  have wide : 0 < image.width.toNat := Nat.pos_of_mul_pos_right (Nat.zero_lt_of_lt inside)
  have left : k % image.width.toNat < image.width.toNat := Nat.mod_lt _ wide
  have above : k / image.width.toNat < image.height.toNat := Nat.div_lt_of_lt_mul inside
  have column := toNat_ofNat_of_lt_toNat left
  have row := toNat_ofNat_of_lt_toNat above
  refine ⟨UInt64.ofNat (k % image.width.toNat), UInt64.ofNat (k / image.width.toNat), ?_, ?_, ?_⟩
  · rw [UInt64.lt_iff_toNat_lt, column]
    exact left
  · rw [UInt64.lt_iff_toNat_lt, row]
    exact above
  · rw [index, column, row]
    exact Nat.div_add_mod' k image.width.toNat

theorem index_div_width (column : x < image.width) :
    image.index x y / image.width.toNat = y.toNat := by
  have left : x.toNat < image.width.toNat := UInt64.lt_iff_toNat_lt.1 column
  rw [index, Nat.add_comm, Nat.add_mul_div_right _ _ (Nat.zero_lt_of_lt left),
    Nat.div_eq_of_lt left, Nat.zero_add]

theorem index_injective {x' y' : UInt64} (column : x < image.width) (column' : x' < image.width)
    (same : image.index x y = image.index x' y') : x = x' ∧ y = y' := by
  have rows : y.toNat = y'.toNat := by
    rw [← index_div_width column, same, index_div_width column']
  have columns : x.toNat = x'.toNat := by
    rw [index, index, rows] at same
    exact Nat.add_left_cancel same
  exact ⟨UInt64.toNat_inj.1 columns, UInt64.toNat_inj.1 rows⟩

/-- All places, row by row from the top left. -/
def places (image : Image) : List (UInt64 × UInt64) :=
  (List.range image.height.toNat).flatMap fun y =>
    (List.range image.width.toNat).map fun x => (UInt64.ofNat x, UInt64.ofNat y)

theorem pixel?_ofNat {x y : Nat} (column : x < image.width.toNat) (row : y < image.height.toNat) :
    image.pixel? (UInt64.ofNat x) (UInt64.ofNat y) =
      image.pixels[y * image.width.toNat + x]? := by
  have x_word := toNat_ofNat_of_lt_toNat column
  have y_word := toNat_ofNat_of_lt_toNat row
  rw [← x_word, ← UInt64.lt_iff_toNat_lt] at column
  rw [← y_word, ← UInt64.lt_iff_toNat_lt] at row
  obtain ⟨p, looked, there⟩ := exists_pixel? column row
  rw [index, x_word, y_word] at there
  rw [looked, there]

/-- The pixels stand in the order of their places. -/
theorem map_pixel?_places (image : Image) :
    (image.places.map fun place => image.pixel? place.1 place.2) = image.pixels.map some := by
  rw [places, List.map_flatMap, ← map_getElem?_range, length_pixels, Nat.mul_comm,
    ← flatMap_range_rows]
  apply List.flatMap_congr
  intro y row
  rw [List.map_map]
  apply List.map_congr_left
  intro x column
  exact pixel?_ofNat (List.mem_range.1 column) (List.mem_range.1 row)

theorem flatMap_pixel?_places (image : Image) :
    (image.places.filterMap fun place => image.pixel? place.1 place.2).flatMap Pixel.toBytes =
      image.bytes := by
  have found : (image.places.filterMap fun place => image.pixel? place.1 place.2) =
      (image.pixels.map some).filterMap id := by
    rw [← map_pixel?_places, List.filterMap_map]
    rfl
  rw [found, List.filterMap_map, Function.id_comp, List.filterMap_some, flatMap_toBytes_pixels]

/-- Each byte is one of the four of a single pixel. -/
theorem existsUnique_place {k : Nat} (inside : k < image.bytes.length) :
    ∃! place : UInt64 × UInt64, place.1 < image.width ∧ place.2 < image.height ∧
      4 * image.index place.1 place.2 ≤ k ∧ k < 4 * image.index place.1 place.2 + 4 := by
  rw [image.length_bytes] at inside
  have counted : k / 4 < image.width.toNat * image.height.toNat := by omega
  obtain ⟨x, y, column, row, index⟩ := exists_index counted
  refine ⟨(x, y), ⟨column, row, ?_, ?_⟩, ?_⟩
  · change 4 * image.index x y ≤ k
    omega
  · change k < 4 * image.index x y + 4
    omega
  · rintro ⟨x', y'⟩ ⟨column', _, first, last⟩
    change 4 * image.index x' y' ≤ k at first
    change k < 4 * image.index x' y' + 4 at last
    have same : image.index x' y' = image.index x y := by omega
    obtain ⟨rfl, rfl⟩ := index_injective column' column same
    rfl

/-- The pixels of an image tile its buffer. A look-up has a result just inside the sides, where no
word overflows and the result is the four bytes at four times the index. The results at all places,
row by row, are the buffer, and each byte belongs to the pixel at one place. -/
theorem pixels_tile_bytes (image : Image) :
    (∀ x y, (image.pixel? x y).isSome ↔ x < image.width ∧ y < image.height) ∧
    (∀ x y, x < image.width → y < image.height → image.LookUpFits x y ∧
      ∃ p, image.pixel? x y = some p ∧
        p.toBytes =
          (image.bytes.drop (4 * (y.toNat * image.width.toNat + x.toNat))).take 4) ∧
    (image.places.filterMap fun place => image.pixel? place.1 place.2).flatMap Pixel.toBytes =
      image.bytes ∧
    ∀ k, k < image.bytes.length → ∃! place : UInt64 × UInt64,
      place.1 < image.width ∧ place.2 < image.height ∧
        4 * image.index place.1 place.2 ≤ k ∧ k < 4 * image.index place.1 place.2 + 4 := by
  refine ⟨fun x y => isSome_pixel?_iff, ?_, image.flatMap_pixel?_places, ?_⟩
  · intro x y column row
    exact ⟨lookUpFits column row, exists_pixel?_eq column row⟩
  · intro k inside
    exact existsUnique_place inside

end Image

end IconCatalog
