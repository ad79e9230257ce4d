import IconCatalog.Proofs.PixelPlaces
set_option autoImplicit false

namespace IconCatalog

theorem getElem?_chunks {α : Type} {count size k : Nat} {xs : List α} (inside : k < count) :
    (chunks count size xs)[k]? = some ((xs.drop (k * size)).take size) := by
  induction count generalizing k xs with
  | zero => contradiction
  | succ count ih =>
      rw [chunks_succ]
      cases k with
      | zero => rw [List.getElem?_cons_zero, Nat.zero_mul, List.drop_zero]
      | succ k =>
          rw [List.getElem?_cons_succ, ih (Nat.lt_of_succ_lt_succ inside), List.drop_drop,
            Nat.succ_mul, Nat.add_comm]

namespace Image

variable {image : Image} {x y : UInt64}

theorem length_rows (image : Image) : image.rows.length = image.rowCount := by
  rw [rows, chunksExact, length_chunks, rowCount]

theorem rows_of_no_width (empty : image.width = 0) : image.rows = [] := by
  rw [rows, if_pos empty, chunksExact, List.length_nil, Nat.zero_div, chunks_zero]

theorem bytes_of_no_width (empty : image.width = 0) : image.bytes = [] := by
  have length := image.length_bytes
  rw [empty, UInt64.toNat_zero, Nat.zero_mul, Nat.zero_mul] at length
  exact List.eq_nil_of_length_eq_zero length

theorem width_pos (wide : image.width ≠ 0) : 0 < image.width.toNat :=
  UInt64.lt_iff_toNat_lt.1 (UInt64.pos_iff_ne_zero.2 wide)

theorem max_stride (wide : image.width ≠ 0) (fits : image.width.toNat * 4 < UInt64.size) :
    (max image.stride 1).toNat = image.width.toNat * 4 := by
  have stride := toNat_stride fits
  have positive := width_pos wide
  have one : (1 : UInt64).toNat = 1 := rfl
  change (if image.stride ≤ 1 then (1 : UInt64) else image.stride).toNat = _
  split
  · next short =>
    rw [UInt64.le_iff_toNat_le, stride, one] at short
    omega
  · exact stride

/-- The buffer holds as many rows as the image is high. -/
theorem rows_of_width (wide : image.width ≠ 0) (fits : image.width.toNat * 4 < UInt64.size) :
    image.rows = chunks image.height.toNat (image.width.toNat * 4) image.bytes := by
  have positive := width_pos wide
  have product : image.width.toNat * image.height.toNat * 4 =
      image.height.toNat * (image.width.toNat * 4) := by ring
  have count : image.bytes.length / (image.width.toNat * 4) = image.height.toNat := by
    rw [image.length_bytes, product]
    exact Nat.mul_div_cancel _ (by omega)
  rw [rows, if_neg wide, max_stride wide fits, chunksExact, count]

theorem rowCount_eq (fits : image.width.toNat * 4 < UInt64.size) :
    image.rowCount = if image.width = 0 then 0 else image.height.toNat := by
  rw [← length_rows]
  split
  · next empty => rw [rows_of_no_width empty, List.length_nil]
  · next wide => rw [rows_of_width wide fits, length_chunks]

theorem length_of_mem_rows {row : Bytes} (fits : image.width.toNat * 4 < UInt64.size)
    (member : row ∈ image.rows) : row.length = image.stride.toNat := by
  by_cases empty : image.width = 0
  · rw [rows_of_no_width empty] at member
    contradiction
  · rw [rows_of_width empty fits] at member
    have enough : image.height.toNat * (image.width.toNat * 4) ≤ image.bytes.length := by
      apply Nat.le_of_eq
      rw [image.length_bytes]
      ring
    rw [length_of_mem_chunks enough member, toNat_stride fits]

theorem flatten_rows (fits : image.width.toNat * 4 < UInt64.size) :
    image.rows.flatten = image.bytes := by
  by_cases empty : image.width = 0
  · rw [rows_of_no_width empty, bytes_of_no_width empty, List.flatten_nil]
  · have whole : image.height.toNat * (image.width.toNat * 4) = image.bytes.length := by
      rw [image.length_bytes]
      ring
    rw [rows_of_width empty fits, flatten_chunks, whole, List.take_length]

theorem slice_row (column : x < image.width) (row : y < image.height) :
    ∃ line p, image.rows[y.toNat]? = some line ∧ image.pixel? x y = some p ∧
      (line.drop (4 * x.toNat)).take 4 = p.toBytes := by
  have left : x.toNat < image.width.toNat := UInt64.lt_iff_toNat_lt.1 column
  have above : y.toNat < image.height.toNat := UInt64.lt_iff_toNat_lt.1 row
  have wide : image.width ≠ 0 := by
    intro empty
    rw [empty] at left
    contradiction
  obtain ⟨p, looked, bytes⟩ := exists_pixel?_eq column row
  refine ⟨(image.bytes.drop (y.toNat * (image.width.toNat * 4))).take (image.width.toNat * 4), p,
    ?_, looked, ?_⟩
  · rw [rows_of_width wide (stride_fits row)]
    exact getElem?_chunks above
  · have start : y.toNat * (image.width.toNat * 4) + 4 * x.toNat = 4 * image.index x y := by
      rw [index]
      ring
    have room : min 4 (image.width.toNat * 4 - 4 * x.toNat) = 4 := by omega
    rw [List.drop_take, List.take_take, List.drop_drop, start, room, bytes]

/-- The rows partition the buffer. There are as many as the image is high, or none without width,
and their number is known beforehand. Each is one stride long, together they are the buffer, and the
look-up of a pixel finds what stands in its row. -/
theorem rows_partition_bytes (fits : 4 * image.width.toNat < UInt64.size) :
    image.stride.toNat = 4 * image.width.toNat ∧
    image.rowCount = (if image.width = 0 then 0 else image.height.toNat) ∧
    image.rows.length = (if image.width = 0 then 0 else image.height.toNat) ∧
    (∀ row ∈ image.rows, row.length = image.stride.toNat) ∧
    image.rows.flatten = image.bytes ∧
    ∀ x y, x < image.width → y < image.height → ∃ row p,
      image.rows[y.toNat]? = some row ∧ image.pixel? x y = some p ∧
        (row.drop (4 * x.toNat)).take 4 = p.toBytes := by
  rw [Nat.mul_comm] at fits ⊢
  refine ⟨toNat_stride fits, rowCount_eq fits, ?_, ?_, flatten_rows fits, ?_⟩
  · rw [length_rows, rowCount_eq fits]
  · intro row member
    exact length_of_mem_rows fits member
  · intro x y column row
    exact slice_row column row

/-- Four pixels in two rows. -/
def checker : Image where
  name := "checker"
  format := .nrgba
  width := 2
  height := 2
  bytes := [255, 0, 0, 255, 0, 255, 0, 255, 0, 0, 255, 255, 0, 0, 0, 0]
  addressable := by decide
  length_bytes := rfl

theorem rows_partition_bytes_checker :
    4 * checker.width.toNat < UInt64.size ∧ checker.rowCount = 2 ∧
      checker.rows.flatten = checker.bytes ∧
      ∀ x y, x < checker.width → y < checker.height → ∃ row p,
        checker.rows[y.toNat]? = some row ∧ checker.pixel? x y = some p ∧
          (row.drop (4 * x.toNat)).take 4 = p.toBytes := by
  have fits : 4 * checker.width.toNat < UInt64.size := by decide
  obtain ⟨_, count, _, _, whole, slices⟩ := rows_partition_bytes fits
  exact ⟨fits, count, whole, slices⟩

end Image

end IconCatalog
