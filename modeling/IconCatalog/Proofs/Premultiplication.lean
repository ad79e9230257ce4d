import IconCatalog.Proofs.StraightAlpha
set_option autoImplicit false

namespace IconCatalog

namespace Pixel

variable {alpha color : UInt8} {p q : Pixel}

/-- The integer nearest to the product of a colour and its alpha over 255, a half going up. -/
def premultipliedColor (alpha color : UInt8) : UInt8 :=
  UInt8.ofNat (round ((color.toNat * alpha.toNat : ℚ) / 255)).toNat

def premultiplied (p : Pixel) : Pixel :=
  ⟨premultipliedColor p.alpha p.red, premultipliedColor p.alpha p.green,
    premultipliedColor p.alpha p.blue, p.alpha⟩

/-- No colour is above alpha, as in all pixels whose colours have been multiplied by it. -/
def IsPremultiplied (p : Pixel) : Prop :=
  p.red ≤ p.alpha ∧ p.green ≤ p.alpha ∧ p.blue ≤ p.alpha

instance (p : Pixel) : Decidable p.IsPremultiplied := inferInstanceAs (Decidable (_ ∧ _))

theorem toNat_premultipliedColor (alpha color : UInt8) :
    (premultipliedColor alpha color).toNat = (color.toNat * alpha.toNat + 127) / 255 := by
  have nearest := round_div_eq (color.toNat * alpha.toNat) (show 0 < 255 by decide)
  have small : color.toNat ≤ 255 := Nat.le_of_lt_succ color.toNat_lt_size
  have clear : alpha.toNat ≤ 255 := Nat.le_of_lt_succ alpha.toNat_lt_size
  have product := Nat.mul_le_mul small clear
  push_cast at nearest
  rw [premultipliedColor, nearest]
  apply UInt8.toNat_ofNat_of_lt'
  change _ < 256
  omega

theorem premultipliedColor_le (alpha color : UInt8) : premultipliedColor alpha color ≤ alpha := by
  have small : color.toNat ≤ 255 := Nat.le_of_lt_succ color.toNat_lt_size
  have product := Nat.mul_le_mul_right alpha.toNat small
  rw [UInt8.le_iff_toNat_le, toNat_premultipliedColor]
  omega

theorem premultipliedColor_zero (color : UInt8) : premultipliedColor 0 color = 0 := by
  rw [← UInt8.toNat_inj, toNat_premultipliedColor, UInt8.toNat_zero, Nat.mul_zero]

/-- The first rounding moves a colour by a half at most, and alpha over 255 of that is too little to
move the second. -/
theorem premultiplied_straightColor (valid : color ≤ alpha) (seen : alpha ≠ 0) :
    premultipliedColor alpha (straightColor alpha color) = color := by
  have positive := toNat_alpha_pos seen
  have clear : alpha.toNat ≤ 255 := Nat.le_of_lt_succ alpha.toNat_lt_size
  have below := Nat.div_mul_le_self (color.toNat * 255 + alpha.toNat / 2) alpha.toNat
  have above := Nat.lt_div_mul_add (a := color.toNat * 255 + alpha.toNat / 2) positive
  rw [← UInt8.toNat_inj, toNat_premultipliedColor, toNat_straightColor_of_le valid seen]
  -- The quotient occurs only times alpha, and that product is an atom between the two bounds.
  omega

theorem premultiplied_straight (valid : p.IsPremultiplied) : p.straight.premultiplied = p := by
  obtain ⟨red, green, blue⟩ := valid
  by_cases transparent : p.alpha = 0
  · have none : p.straight = ⟨0, 0, 0, 0⟩ := if_pos transparent
    rw [transparent, UInt8.le_zero_iff] at red green blue
    have same : p = ⟨0, 0, 0, 0⟩ := by
      cases p
      rw [mk.injEq]
      exact ⟨red, green, blue, transparent⟩
    rw [none, premultiplied, premultipliedColor_zero, same]
  · rw [straight, if_neg transparent, premultiplied, premultiplied_straightColor red transparent,
      premultiplied_straightColor green transparent, premultiplied_straightColor blue transparent]

/-- Multiplication produces just the pixels without a colour above alpha. -/
theorem isPremultiplied_iff : p.IsPremultiplied ↔ ∃ q : Pixel, q.premultiplied = p := by
  constructor
  · intro valid
    exact ⟨p.straight, premultiplied_straight valid⟩
  · rintro ⟨q, rfl⟩
    exact ⟨premultipliedColor_le _ _, premultipliedColor_le _ _, premultipliedColor_le _ _⟩

end Pixel

/-- Multiplies the colours of each pixel by its alpha. -/
def premultiply (bytes : Bytes) : Bytes :=
  ((chunksExact 4 bytes).filterMap Pixel.ofBytes?).flatMap fun p => p.premultiplied.toBytes

theorem chunks_flatMap_toBytes (ps : List Pixel) :
    chunks ps.length 4 (ps.flatMap Pixel.toBytes) = ps.map Pixel.toBytes := by
  induction ps with
  | nil => rfl
  | cons p ps ih =>
      rw [List.length_cons, chunks_succ, List.flatMap_cons, List.map_cons,
        List.take_left' p.length_toBytes, List.drop_left' p.length_toBytes, ih]

theorem filterMap_ofBytes?_flatMap_toBytes (ps : List Pixel) :
    (chunksExact 4 (ps.flatMap Pixel.toBytes)).filterMap Pixel.ofBytes? = ps := by
  have count : (ps.flatMap Pixel.toBytes).length / 4 = ps.length := by
    rw [length_flatMap_of_four Pixel.length_toBytes, Nat.mul_div_cancel_left _ (by decide)]
  have read : (Pixel.ofBytes? ∘ Pixel.toBytes) = some := by
    funext p
    exact Pixel.ofBytes?_eq_some_iff.2 rfl
  rw [chunksExact, count, chunks_flatMap_toBytes, List.filterMap_map, read, List.filterMap_some]

namespace Image

variable {image : Image}

theorem premultiply_straight_bytes (premultiplied : image.format = .prgba)
    (valid : ∀ p ∈ image.pixels, p.IsPremultiplied) :
    premultiply image.straight.bytes = image.bytes := by
  have converted : image.straight.bytes =
      (image.pixels.map Pixel.straight).flatMap Pixel.toBytes := by
    rw [straight_bytes, premultiplied, List.flatMap_map]
    rfl
  rw [converted, premultiply, filterMap_ofBytes?_flatMap_toBytes, List.flatMap_map,
    ← flatMap_toBytes_pixels]
  apply List.flatMap_congr
  intro p member
  rw [Pixel.premultiplied_straight (valid p member)]

/-- Where no colour is above alpha, the conversion to straight alpha loses nothing. Multiplying by
alpha again gives back the buffer, so images with two buffers are never converted to the same. -/
theorem straight_loses_nothing (premultiplied : image.format = .prgba)
    (valid : ∀ p ∈ image.pixels, p.IsPremultiplied) :
    premultiply image.straight.bytes = image.bytes ∧
    ∀ other : Image, other.format = .prgba → (∀ p ∈ other.pixels, p.IsPremultiplied) →
      other.bytes ≠ image.bytes → other.straight.bytes ≠ image.straight.bytes := by
  have restored := premultiply_straight_bytes premultiplied valid
  refine ⟨restored, ?_⟩
  intro other premultiplied' valid' different same
  apply different
  rw [← premultiply_straight_bytes premultiplied' valid', same, restored]

/-- Pixels of half, least, full and no alpha. -/
def veil : Image where
  name := "veil"
  format := .prgba
  width := 4
  height := 1
  bytes := [64, 32, 0, 128, 1, 0, 1, 1, 255, 7, 0, 255, 0, 0, 0, 0]
  addressable := by decide
  length_bytes := rfl

/-- The same but for one step of one colour. -/
def tintedVeil : Image :=
  { veil with
    bytes := [64, 33, 0, 128, 1, 0, 1, 1, 255, 7, 0, 255, 0, 0, 0, 0]
    length_bytes := rfl }

theorem straight_loses_nothing_veil : veil.format = .prgba ∧
    (∀ p ∈ veil.pixels, p.IsPremultiplied) ∧
    premultiply veil.straight.bytes = veil.bytes ∧
    tintedVeil.straight.bytes ≠ veil.straight.bytes := by
  have valid : ∀ p ∈ veil.pixels, p.IsPremultiplied := by decide
  have tinted : ∀ p ∈ tintedVeil.pixels, p.IsPremultiplied := by decide
  have different : tintedVeil.bytes ≠ veil.bytes := by decide
  obtain ⟨restored, apart⟩ := straight_loses_nothing rfl valid
  exact ⟨rfl, valid, restored, apart tintedVeil rfl tinted different⟩

end Image

end IconCatalog
