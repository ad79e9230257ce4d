import IconCatalog.Proofs.PixelPlaces
import Mathlib.Algebra.Order.Round
import Mathlib.Data.Rat.Floor
import Mathlib.Tactic.FieldSimp
set_option autoImplicit false

namespace IconCatalog

/-- Half of the divisor, added before the division, takes a quotient to the nearest integer. -/
theorem round_div_eq (n : Nat) {d : Nat} (positive : 0 < d) :
    round ((n : ℚ) / d) = ((n + d / 2) / d : Nat) := by
  have divisor : (d : ℚ) ≠ 0 := Nat.cast_ne_zero.2 (Nat.ne_of_gt positive)
  have sum : (n : ℚ) / d + 1 / 2 = ((2 * n + d : Nat) : ℚ) / ((2 * d : Nat) : ℚ) := by
    push_cast
    field_simp
  have halves : (2 * n + d) / (2 * d) = (n + d / 2) / d := by
    rw [← Nat.div_div_eq_div_mul, Nat.mul_add_div (by decide)]
  rw [round_eq, sum, Rat.floor_natCast_div_natCast, ← Int.natCast_div, halves]

namespace Pixel

variable {alpha color : UInt8}

/-- The exact values of the product and the sum in a conversion are words of sixteen bits, and the
result is a byte before it is cut to one. -/
structure ColorFits (alpha color : UInt8) : Prop where
  product : color.toUInt16.toNat * (255 : UInt16).toNat < UInt16.size
  sum : (color.toUInt16 * 255).toNat + (alpha.toUInt16 / 2).toNat < UInt16.size
  result : (min ((color.toUInt16 * 255 + alpha.toUInt16 / 2) / alpha.toUInt16) 255).toNat <
    UInt8.size

theorem toNat_product (color : UInt8) : (color.toUInt16 * 255).toNat = color.toNat * 255 := by
  have small := color.toNat_lt_size
  have factor : (255 : UInt16).toNat = 255 := rfl
  rw [UInt16.toNat_mul, UInt8.toNat_toUInt16, factor]
  apply Nat.mod_eq_of_lt
  change color.toNat < 256 at small
  omega

theorem toNat_sum (alpha color : UInt8) :
    (color.toUInt16 * 255 + alpha.toUInt16 / 2).toNat = color.toNat * 255 + alpha.toNat / 2 := by
  have small : color.toNat < 256 := color.toNat_lt_size
  have clear : alpha.toNat < 256 := alpha.toNat_lt_size
  have two : (2 : UInt16).toNat = 2 := rfl
  rw [UInt16.toNat_add, toNat_product, UInt16.toNat_div, UInt8.toNat_toUInt16, two]
  apply Nat.mod_eq_of_lt
  omega

theorem toNat_result (alpha color : UInt8) :
    (min ((color.toUInt16 * 255 + alpha.toUInt16 / 2) / alpha.toUInt16) 255).toNat =
      min ((color.toNat * 255 + alpha.toNat / 2) / alpha.toNat) 255 := by
  have full : (255 : UInt16).toNat = 255 := rfl
  rw [UInt16.toNat_min, UInt16.toNat_div, toNat_sum, UInt8.toNat_toUInt16, full]

theorem colorFits (alpha color : UInt8) : ColorFits alpha color := by
  have small : color.toNat < 256 := color.toNat_lt_size
  have clear : alpha.toNat < 256 := alpha.toNat_lt_size
  have full : (255 : UInt16).toNat = 255 := rfl
  have two : (2 : UInt16).toNat = 2 := rfl
  constructor
  · rw [UInt8.toNat_toUInt16, full]
    change _ < 65536
    omega
  · rw [toNat_product, UInt16.toNat_div, UInt8.toNat_toUInt16, two]
    change _ < 65536
    omega
  · rw [toNat_result]
    change _ < 256
    omega

theorem toNat_straightColor (alpha color : UInt8) :
    (straightColor alpha color).toNat =
      min ((color.toNat * 255 + alpha.toNat / 2) / alpha.toNat) 255 := by
  rw [straightColor, UInt16.toNat_toUInt8, toNat_result]
  apply Nat.mod_eq_of_lt
  omega

theorem toNat_alpha_pos (seen : alpha ≠ 0) : 0 < alpha.toNat :=
  UInt8.lt_iff_toNat_lt.1 (UInt8.pos_iff_ne_zero.2 seen)

/-- A colour up to its alpha needs no cut. -/
theorem toNat_straightColor_of_le (valid : color ≤ alpha) (seen : alpha ≠ 0) :
    (straightColor alpha color).toNat =
      (color.toNat * 255 + alpha.toNat / 2) / alpha.toNat := by
  have dim : color.toNat ≤ alpha.toNat := UInt8.le_iff_toNat_le.1 valid
  have positive := toNat_alpha_pos seen
  have cut : (color.toNat * 255 + alpha.toNat / 2) / alpha.toNat < 256 := by
    rw [Nat.div_lt_iff_lt_mul positive]
    omega
  rw [toNat_straightColor]
  omega

theorem straightColor_of_lt (dim : color < alpha) :
    ((straightColor alpha color).toNat : ℤ) = round ((255 * color.toNat : ℚ) / alpha.toNat) := by
  have less : color.toNat < alpha.toNat := UInt8.lt_iff_toNat_lt.1 dim
  have seen : alpha ≠ 0 := by
    rintro rfl
    contradiction
  have valid : color ≤ alpha := UInt8.le_iff_toNat_le.2 (Nat.le_of_lt less)
  have nearest := round_div_eq (color.toNat * 255) (Nat.zero_lt_of_lt less)
  rw [toNat_straightColor_of_le valid seen, ← nearest]
  congr 2
  push_cast
  ring

theorem straightColor_of_ge (bright : alpha ≤ color) (seen : alpha ≠ 0) :
    straightColor alpha color = 255 := by
  have full : (255 : UInt8).toNat = 255 := rfl
  have more : alpha.toNat ≤ color.toNat := UInt8.le_iff_toNat_le.1 bright
  have positive := toNat_alpha_pos seen
  have above : 255 ≤ (color.toNat * 255 + alpha.toNat / 2) / alpha.toNat := by
    rw [Nat.le_div_iff_mul_le positive]
    omega
  rw [← UInt8.toNat_inj, toNat_straightColor, full]
  omega

/-- With straight alpha, a colour is the integer nearest to 255 times itself over its alpha, a half
going up. A colour that is no less than its alpha becomes full. -/
structure IsStraightColor (alpha color straight : UInt8) : Prop where
  nearest : color < alpha →
    (straight.toNat : ℤ) = round ((255 * color.toNat : ℚ) / alpha.toNat)
  full : alpha ≤ color → straight = 255

/-- What a pixel becomes with straight alpha. -/
structure IsStraight (p q : Pixel) : Prop where
  alpha : q.alpha = p.alpha
  transparent : p.alpha = 0 → q = ⟨0, 0, 0, 0⟩
  red : p.alpha ≠ 0 → IsStraightColor p.alpha p.red q.red
  green : p.alpha ≠ 0 → IsStraightColor p.alpha p.green q.green
  blue : p.alpha ≠ 0 → IsStraightColor p.alpha p.blue q.blue

theorem isStraightColor (color : UInt8) (seen : alpha ≠ 0) :
    IsStraightColor alpha color (straightColor alpha color) :=
  ⟨straightColor_of_lt, fun bright => straightColor_of_ge bright seen⟩

theorem isStraight (p : Pixel) : p.IsStraight p.straight := by
  by_cases transparent : p.alpha = 0
  · have none : p.straight = ⟨0, 0, 0, 0⟩ := if_pos transparent
    rw [none]
    exact {
      alpha := transparent.symm
      transparent := fun _ => rfl
      red := fun seen => absurd transparent seen
      green := fun seen => absurd transparent seen
      blue := fun seen => absurd transparent seen }
  · rw [straight, if_neg transparent]
    exact {
      alpha := rfl
      transparent := fun none => absurd none transparent
      red := isStraightColor p.red
      green := isStraightColor p.green
      blue := isStraightColor p.blue }

theorem toBytes_injective {p q : Pixel} (same : p.toBytes = q.toBytes) : p = q := by
  have read := ofBytes?_eq_some_iff.2 same
  rw [ofBytes?_eq_some_iff.2 rfl] at read
  exact Option.some.inj read

end Pixel

namespace Image

variable {image : Image} {x y : UInt64}

theorem ofBytes_parts (image : Image) :
    ofBytes image.name image.format image.width image.height image.bytes = .ok image := by
  unfold ofBytes
  split
  · next overflows =>
    have bound := image.addressable
    have beyond := byteLength?_eq_none_iff.1 overflows
    omega
  · next expected known =>
    have length : image.bytes.length = expected.toNat := by
      rw [image.length_bytes, byteLength?_eq_some_iff.1 known]
    rw [dif_pos length]

theorem length_straight_bytes (image : Image) :
    image.straight.bytes.length = image.bytes.length := by
  rw [length_straight, image.length_bytes, Nat.mul_comm]

def straightened (image : Image) (name : String) : Image where
  name := name
  format := .nrgba
  width := image.width
  height := image.height
  bytes := image.straight.bytes
  addressable := image.addressable
  length_bytes := by rw [length_straight_bytes, image.length_bytes]

/-- Each pixel of a converted image comes from the one at its place. -/
theorem exists_straightened_pixel? (name : String) (column : x < image.width)
    (row : y < image.height) : ∃ p, image.pixel? x y = some p ∧
      (image.straightened name).pixel? x y = some (image.format.straighten p) := by
  obtain ⟨p, looked, there⟩ := exists_pixel? column row
  obtain ⟨q, found, bytes⟩ :=
    exists_pixel?_eq (show x < (image.straightened name).width from column) row
  have cut : (image.format.straighten p).toBytes = q.toBytes := by
    rw [← slice_straight there, bytes]
    rfl
  refine ⟨p, looked, ?_⟩
  rw [found, Pixel.toBytes_injective cut]

theorem straight_bytes_of_nrgba (straight : image.format = .nrgba) :
    image.straight.bytes = image.bytes := by
  rw [Image.straight, straight]

theorem straightened_straightened (image : Image) (name : String) :
    (image.straightened name).straightened name = image.straightened name := by
  rw [straightened, mk.injEq]
  exact ⟨rfl, rfl, rfl, rfl, straight_bytes_of_nrgba rfl⟩

/-- The conversion keeps the number of bytes, so the result is accepted as an image with straight
alpha and the same sides. There each pixel is the converted one at its place, and no step of a
conversion leaves sixteen bits. An image with straight alpha keeps its bytes, so a second conversion
does nothing. -/
theorem straight_converts (image : Image) (name : String) :
    image.straight.bytes.length = image.bytes.length ∧
    ofBytes name .nrgba image.width image.height image.straight.bytes =
      .ok (image.straightened name) ∧
    (image.format = .prgba → ∀ x y, x < image.width → y < image.height →
      ∃ p q, image.pixel? x y = some p ∧ (image.straightened name).pixel? x y = some q ∧
        p.IsStraight q) ∧
    (∀ alpha color, Pixel.ColorFits alpha color) ∧
    (image.format = .nrgba → image.straight.bytes = image.bytes) ∧
    (image.straightened name).straightened name = image.straightened name := by
  refine ⟨image.length_straight_bytes, ofBytes_parts (image.straightened name), ?_,
    Pixel.colorFits, straight_bytes_of_nrgba, image.straightened_straightened name⟩
  intro premultiplied x y column row
  obtain ⟨p, looked, found⟩ := exists_straightened_pixel? name column row
  rw [premultiplied] at found
  exact ⟨p, p.straight, looked, found, p.isStraight⟩

end Image

end IconCatalog
