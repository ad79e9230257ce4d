import IconCatalog.Text.Utf8
set_option autoImplicit false

namespace IconCatalog

structure Pixel where
  red : UInt8
  green : UInt8
  blue : UInt8
  alpha : UInt8
  deriving DecidableEq, Repr

namespace Pixel

def toBytes (p : Pixel) : Bytes := [p.red, p.green, p.blue, p.alpha]

def ofBytes? : Bytes → Option Pixel
  | [r, g, b, a] => some ⟨r, g, b, a⟩
  | _ => none

/-- The colour whose product with `alpha` is nearest to `color`, a half going up. A colour above
its alpha has none and becomes full. -/
def straightColor (alpha color : UInt8) : UInt8 :=
  (min ((color.toUInt16 * 255 + alpha.toUInt16 / 2) / alpha.toUInt16) 255).toUInt8

/-- A transparent pixel has lost its colours and becomes all zero. -/
def straight (p : Pixel) : Pixel :=
  if p.alpha = 0 then ⟨0, 0, 0, 0⟩
  else ⟨straightColor p.alpha p.red, straightColor p.alpha p.green,
    straightColor p.alpha p.blue, p.alpha⟩

end Pixel

end IconCatalog
