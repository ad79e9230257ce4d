import IconCatalog.Catalog.Icon128
import IconCatalog.Catalog.Icon16
import IconCatalog.Catalog.Icon24
import IconCatalog.Catalog.Icon32
import IconCatalog.Catalog.Icon48
import IconCatalog.Catalog.Icon64
set_option autoImplicit false

namespace IconCatalog.Catalog

def sizes : List UInt64 := [16, 24, 32, 48, 64, 128]

/-- All icons, the smallest first. In their pixels 0xFF also stands for the bytes of the artwork
that are unknown. -/
def icons : List Image := [icon16, icon24, icon32, icon48, icon64, icon128]

def find? (name : String) : Option Image := icons.find? fun image => decide (image.name = name)

/-- The first icon that is at least `size` pixels wide, or the widest. -/
def iconForSize (size : UInt64) : Image :=
  (icons.find? fun image => decide (size ≤ image.width)).getD icon128

end IconCatalog.Catalog
