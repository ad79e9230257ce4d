import IconCatalog.Catalog.Runs
set_option autoImplicit false

namespace IconCatalog.Catalog

/-- The artwork with edge length 24. Its bytes below 0x80 are the real ones. Of those from 0x80 on
most are unknown, and 0xFF stands for each unknown byte. -/
def runs24 : List Run := [
    (2, 0x00000000), (1, 0x2463FF40), (1, 0x2463D8AD), (16, 0x2463FFFF), (1, 0x2463D8AD),
    (1, 0x2463FF40), (3, 0x00000000), (1, 0x2366FF6F), (20, 0x2366FFFF), (1, 0x2366FF6F),
    (1, 0x00000000), (1, 0x2369FF40), (22, 0x2369FFFF), (1, 0x2369FF40), (1, 0x226CD0AD),
    (22, 0x226CFFFF), (1, 0x226CD0AD), (8, 0x226FFFFF), (1, 0x42FFFFFF), (6, 0xFFFFFFFF),
    (1, 0x42FFFFFF), (8, 0x226FFFFF), (7, 0x2172FFFF), (10, 0xFFFFFFFF), (7, 0x2172FFFF),
    (6, 0x2075FFFF), (12, 0xFFFFFFFF), (6, 0x2075FFFF), (5, 0x2078FFFF), (14, 0xFFFFFFFF),
    (5, 0x2078FFFF), (4, 0x1F7BFFFF), (1, 0x3FFFFFFF), (4, 0xFFFFFFFF), (1, 0x55FFFFFF),
    (4, 0x1F7BFFFF), (1, 0x55FFFFFF), (4, 0xFFFFFFFF), (1, 0x3FFFFFFF), (4, 0x1F7BFFFF),
    (4, 0x1F7EFFFF), (4, 0xFFFFFFFF), (1, 0x55FFFFFF), (6, 0x1F7EFFFF), (1, 0x55FFFFFF),
    (4, 0xFFFFFFFF), (4, 0x1F7EFFFF), (4, 0x1EFFFFFF), (4, 0xFFFFFFFF), (8, 0x1EFFFFFF),
    (4, 0xFFFFFFFF), (4, 0x1EFFFFFF), (4, 0x1DFFFFFF), (4, 0xFFFFFFFF), (8, 0x1DFFFFFF),
    (4, 0xFFFFFFFF), (8, 0x1DFFFFFF), (4, 0xFFFFFFFF), (8, 0x1DFFFFFF), (4, 0xFFFFFFFF),
    (4, 0x1DFFFFFF), (4, 0x1CFFFFFF), (4, 0xFFFFFFFF), (8, 0x1CFFFFFF), (4, 0xFFFFFFFF),
    (4, 0x1CFFFFFF), (4, 0x1BFFFFFF), (4, 0xFFFFFFFF), (1, 0x52FFFFFF), (6, 0x1BFFFFFF),
    (1, 0x52FFFFFF), (4, 0xFFFFFFFF), (8, 0x1BFFFFFF), (1, 0x3CFFFFFF), (4, 0xFFFFFFFF),
    (1, 0x52FFFFFF), (4, 0x1BFFFFFF), (1, 0x52FFFFFF), (4, 0xFFFFFFFF), (1, 0x3CFFFFFF),
    (4, 0x1BFFFFFF), (5, 0x1AFFFFFF), (14, 0xFFFFFFFF), (11, 0x1AFFFFFF), (12, 0xFFFFFFFF),
    (6, 0x1AFFFFFF), (7, 0x19FFFFFF), (10, 0xFFFFFFFF), (7, 0x19FFFFFF), (8, 0x18FFFFFF),
    (1, 0x39FFFFFF), (6, 0xFFFFFFFF), (1, 0x39FFFFFF), (32, 0x18FFFFFF), (1, 0x17FFFF40),
    (22, 0x17FFFFFF), (1, 0x17FFFF40), (1, 0x00000000), (1, 0x17FFFF6F), (20, 0x17FFFFFF),
    (1, 0x17FFFF6F), (3, 0x00000000), (1, 0x16FFFF40), (18, 0x16FFFFFF), (1, 0x16FFFF40),
    (2, 0x00000000)]

def icon24 : Image := icon "app_icon_24" 24 runs24 (by decide) (by decide +kernel)

end IconCatalog.Catalog
