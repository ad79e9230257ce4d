import IconCatalog.Catalog.Runs
set_option autoImplicit false

namespace IconCatalog.Catalog

/-- The artwork with edge length 16. Its bytes below 0x80 are the real ones. Those from 0x80 on are
unknown, and 0xFF stands for each of them. -/
def runs16 : List Run := [
    (1, 0x00000000), (1, 0x2463FF63), (12, 0x2463FFFF), (1, 0x2463FF63), (1, 0x00000000),
    (1, 0x2368FF63), (14, 0x2368FFFF), (1, 0x2368FF63), (6, 0x226CFFFF), (1, 0x3378FFFF),
    (2, 0x5BFFFFFF), (1, 0x3378FFFF), (6, 0x226CFFFF), (4, 0x2171FFFF), (1, 0x337CFFFF),
    (6, 0xFFFFFFFF), (1, 0x337CFFFF), (4, 0x2171FFFF), (3, 0x2075FFFF), (1, 0x32FFFFFF),
    (8, 0xFFFFFFFF), (1, 0x32FFFFFF), (3, 0x2075FFFF), (3, 0x1F7AFFFF), (3, 0xFFFFFFFF),
    (1, 0x73FFFFFF), (2, 0x217BFFFF), (1, 0x73FFFFFF), (3, 0xFFFFFFFF), (3, 0x1F7AFFFF),
    (2, 0x1E7FFFFF), (1, 0x30FFFFFF), (2, 0xFFFFFFFF), (1, 0x72FFFFFF), (4, 0x1E7FFFFF),
    (1, 0x72FFFFFF), (2, 0xFFFFFFFF), (1, 0x30FFFFFF), (2, 0x1E7FFFFF), (2, 0x1DFFFFFF),
    (1, 0x57FFFFFF), (2, 0xFFFFFFFF), (1, 0x1FFFFFFF), (4, 0x1DFFFFFF), (1, 0x1FFFFFFF),
    (2, 0xFFFFFFFF), (1, 0x57FFFFFF), (4, 0x1DFFFFFF), (1, 0x57FFFFFF), (2, 0xFFFFFFFF),
    (1, 0x1FFFFFFF), (4, 0x1DFFFFFF), (1, 0x1FFFFFFF), (2, 0xFFFFFFFF), (1, 0x57FFFFFF),
    (2, 0x1DFFFFFF), (2, 0x1CFFFFFF), (1, 0x2EFFFFFF), (2, 0xFFFFFFFF), (1, 0x71FFFFFF),
    (4, 0x1CFFFFFF), (1, 0x71FFFFFF), (2, 0xFFFFFFFF), (1, 0x2EFFFFFF), (2, 0x1CFFFFFF),
    (3, 0x1BFFFFFF), (3, 0xFFFFFFFF), (1, 0x71FFFFFF), (2, 0x1DFFFFFF), (1, 0x71FFFFFF),
    (3, 0xFFFFFFFF), (3, 0x1BFFFFFF), (3, 0x1AFFFFFF), (1, 0x2CFFFFFF), (8, 0xFFFFFFFF),
    (1, 0x2CFFFFFF), (3, 0x1AFFFFFF), (4, 0x19FFFFFF), (1, 0x2BFFFFFF), (6, 0xFFFFFFFF),
    (1, 0x2BFFFFFF), (4, 0x19FFFFFF), (6, 0x18FFFFFF), (1, 0x2AFFFFFF), (2, 0x53FFFFFF),
    (1, 0x2AFFFFFF), (6, 0x18FFFFFF), (1, 0x17FFFF63), (14, 0x17FFFFFF), (1, 0x17FFFF63),
    (1, 0x00000000), (1, 0x16FFFF63), (12, 0x16FFFFFF), (1, 0x16FFFF63), (1, 0x00000000)]

def icon16 : Image := icon "app_icon_16" 16 runs16 (by decide) (by decide +kernel)

end IconCatalog.Catalog
