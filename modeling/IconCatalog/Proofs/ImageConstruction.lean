import IconCatalog.Proofs.StraightAlpha
set_option autoImplicit false

namespace IconCatalog

/-- The reason why a refused buffer cannot be part of the program. -/
def ImageFault.forProgram : ImageFault → EmbedFault
  | .lengthMismatch _ _ _ => .length
  | .dimensionOverflow _ _ => .dimensions

namespace Image

variable {name : String} {format : PixelFormat} {width height : UInt64} {bytes : Bytes}

theorem embed_eq (name : String) (format : PixelFormat) (width height : UInt64) (bytes : Bytes) :
    embed name format width height bytes =
      (ofBytes name format width height bytes).mapError ImageFault.forProgram := by
  unfold embed ofBytes
  split
  · rfl
  · split <;> rfl

theorem ofBytes_of_overflow (overflows : UInt64.size ≤ width.toNat * height.toNat * 4) :
    ofBytes name format width height bytes = .error (.dimensionOverflow width height) := by
  have unknown : byteLength? format width height = none := byteLength?_eq_none_iff.2 overflows
  unfold ofBytes
  split
  · rfl
  · next known =>
    rw [unknown] at known
    contradiction

theorem ofBytes_of_length {expected : UInt64}
    (total : width.toNat * height.toNat * 4 = expected.toNat)
    (wrong : bytes.length ≠ expected.toNat) :
    ofBytes name format width height bytes =
      .error (.lengthMismatch name expected bytes.length) := by
  have known : byteLength? format width height = some expected := byteLength?_eq_some_iff.2 total
  unfold ofBytes
  split
  · next unknown =>
    rw [unknown] at known
    contradiction
  · next found =>
    rw [known] at found
    cases found
    rw [dif_neg wrong]

theorem ofBytes_of_fits (addressable : width.toNat * height.toNat * 4 < UInt64.size)
    (length : bytes.length = width.toNat * height.toNat * 4) :
    ofBytes name format width height bytes =
      .ok ⟨name, format, width, height, bytes, addressable, length⟩ :=
  ofBytes_parts ⟨name, format, width, height, bytes, addressable, length⟩

theorem toNat_pixelCount (image : Image) :
    image.pixelCount.toNat = image.width.toNat * image.height.toNat := by
  have bound := image.addressable
  exact toNat_mul_of_lt (by omega)

/-- Both ways to an image look at the exact number of bytes. Dimensions beyond 64 bits are refused
first, then any other number of bytes. Else the image is the same, and made of what was given. -/
theorem ofBytes_and_embed (name : String) (format : PixelFormat) (width height : UInt64)
    (bytes : Bytes) :
    if 2 ^ 64 ≤ 4 * width.toNat * height.toNat then
      ofBytes name format width height bytes = .error (.dimensionOverflow width height) ∧
      ∃ fault, embed name format width height bytes = .error fault ∧
        fault.message = "image dimensions overflow"
    else if bytes.length ≠ 4 * width.toNat * height.toNat then
      (∃ expected : UInt64, expected.toNat = 4 * width.toNat * height.toNat ∧
        ofBytes name format width height bytes =
          .error (.lengthMismatch name expected bytes.length)) ∧
      ∃ fault, embed name format width height bytes = .error fault ∧
        fault.message = "image byte length does not match its dimensions"
    else
      ∃ image, ofBytes name format width height bytes = .ok image ∧
        embed name format width height bytes = .ok image ∧
        image.name = name ∧ image.format = format ∧ image.width = width ∧
        image.height = height ∧ image.bytes = bytes ∧
        width.toNat * height.toNat < 2 ^ 64 ∧
        image.pixelCount.toNat = width.toNat * height.toNat := by
  have product : 4 * width.toNat * height.toNat = width.toNat * height.toNat * 4 := by ring
  have words : UInt64.size = 2 ^ 64 := rfl
  rw [product, embed_eq, ← words]
  split
  · next overflows =>
    rw [ofBytes_of_overflow overflows]
    exact ⟨rfl, .dimensions, rfl, rfl⟩
  next fits =>
  have addressable : width.toNat * height.toNat * 4 < UInt64.size := Nat.lt_of_not_le fits
  split
  · next wrong =>
    have total : (UInt64.ofNat (width.toNat * height.toNat * 4)).toNat =
        width.toNat * height.toNat * 4 := UInt64.toNat_ofNat_of_lt' addressable
    rw [ofBytes_of_length total.symm (total.symm ▸ wrong)]
    exact ⟨⟨_, total, rfl⟩, .length, rfl, rfl⟩
  · next right =>
    have length : bytes.length = width.toNat * height.toNat * 4 := Decidable.not_not.1 right
    rw [ofBytes_of_fits addressable length]
    refine ⟨_, rfl, rfl, rfl, rfl, rfl, rfl, rfl, ?_, toNat_pixelCount _⟩
    omega

end Image

end IconCatalog
