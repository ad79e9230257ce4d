import IconCatalog.Catalog.Runs
set_option autoImplicit false

namespace IconCatalog.Catalog

/-- The artwork with edge length 32. Its bytes below 0x80 are the real ones. Of those from 0x80 on
most are unknown, and 0xFF stands for each unknown byte. -/
def runs32 : List Run := [
    (3, 0x00000000), (1, 0x2463FF1A), (1, 0x2463D886), (22, 0x2463FFFF), (1, 0x2463D886),
    (1, 0x2463FF1A), (5, 0x00000000), (1, 0x2465FF60), (26, 0x2465FFFF), (1, 0x2465FF60),
    (3, 0x00000000), (1, 0x2367FF60), (28, 0x2367FFFF), (1, 0x2367FF60), (1, 0x00000000),
    (1, 0x236AFF1A), (30, 0x236AFFFF), (1, 0x236AFF1A), (1, 0x226CD086), (30, 0x226CFFFF),
    (1, 0x226CD086), (13, 0x226EFFFF), (1, 0x5DFFFFFF), (4, 0xFFFFFFFF), (1, 0x5DFFFFFF),
    (13, 0x226EFFFF), (10, 0x2170FFFF), (1, 0x337CFFFF), (10, 0xFFFFFFFF), (1, 0x337CFFFF),
    (10, 0x2170FFFF), (9, 0x2173FFFF), (1, 0x71FFFFFF), (12, 0xFFFFFFFF), (1, 0x71FFFFFF),
    (9, 0x2173FFFF), (8, 0x2075FFFF), (16, 0xFFFFFFFF), (8, 0x2075FFFF), (7, 0x2077FFFF),
    (1, 0x70FFFFFF), (16, 0xFFFFFFFF), (1, 0x70FFFFFF), (7, 0x2077FFFF), (6, 0x1F79FFFF),
    (1, 0x32FFFFFF), (7, 0xFFFFFFFF), (1, 0x3AFFFFFF), (2, 0x1F79FFFF), (1, 0x3AFFFFFF),
    (7, 0xFFFFFFFF), (1, 0x32FFFFFF), (6, 0x1F79FFFF), (6, 0x1F7BFFFF), (6, 0xFFFFFFFF),
    (1, 0x3AFFFFFF), (6, 0x1F7BFFFF), (1, 0x3AFFFFFF), (6, 0xFFFFFFFF), (6, 0x1F7BFFFF),
    (6, 0x1F7EFFFF), (5, 0xFFFFFFFF), (1, 0x3AFFFFFF), (8, 0x1F7EFFFF), (1, 0x3AFFFFFF),
    (5, 0xFFFFFFFF), (6, 0x1F7EFFFF), (5, 0x1EFFFFFF), (1, 0x5AFFFFFF), (5, 0xFFFFFFFF),
    (10, 0x1EFFFFFF), (5, 0xFFFFFFFF), (1, 0x5AFFFFFF), (10, 0x1EFFFFFF), (5, 0xFFFFFFFF),
    (1, 0x39FFFFFF), (10, 0x1EFFFFFF), (1, 0x39FFFFFF), (5, 0xFFFFFFFF), (5, 0x1EFFFFFF),
    (5, 0x1DFFFFFF), (5, 0xFFFFFFFF), (12, 0x1DFFFFFF), (5, 0xFFFFFFFF), (10, 0x1DFFFFFF),
    (5, 0xFFFFFFFF), (12, 0x1DFFFFFF), (5, 0xFFFFFFFF), (5, 0x1DFFFFFF), (5, 0x1CFFFFFF),
    (5, 0xFFFFFFFF), (1, 0x37FFFFFF), (10, 0x1CFFFFFF), (1, 0x37FFFFFF), (5, 0xFFFFFFFF),
    (10, 0x1CFFFFFF), (1, 0x58FFFFFF), (5, 0xFFFFFFFF), (10, 0x1CFFFFFF), (5, 0xFFFFFFFF),
    (1, 0x58FFFFFF), (5, 0x1CFFFFFF), (6, 0x1BFFFFFF), (5, 0xFFFFFFFF), (1, 0x37FFFFFF),
    (8, 0x1BFFFFFF), (1, 0x37FFFFFF), (5, 0xFFFFFFFF), (12, 0x1BFFFFFF), (6, 0xFFFFFFFF),
    (1, 0x37FFFFFF), (6, 0x1BFFFFFF), (1, 0x37FFFFFF), (6, 0xFFFFFFFF), (12, 0x1BFFFFFF),
    (1, 0x2EFFFFFF), (7, 0xFFFFFFFF), (1, 0x37FFFFFF), (2, 0x1BFFFFFF), (1, 0x37FFFFFF),
    (7, 0xFFFFFFFF), (1, 0x2EFFFFFF), (6, 0x1BFFFFFF), (7, 0x1AFFFFFF), (1, 0x6CFFFFFF),
    (16, 0xFFFFFFFF), (1, 0x6CFFFFFF), (15, 0x1AFFFFFF), (16, 0xFFFFFFFF), (8, 0x1AFFFFFF),
    (9, 0x19FFFFFF), (1, 0x6CFFFFFF), (12, 0xFFFFFFFF), (1, 0x6CFFFFFF), (19, 0x19FFFFFF),
    (1, 0x2CFFFFFF), (10, 0xFFFFFFFF), (1, 0x2CFFFFFF), (10, 0x19FFFFFF), (13, 0x18FFFFFF),
    (1, 0x56FFFFFF), (4, 0xFFFFFFFF), (1, 0x56FFFFFF), (45, 0x18FFFFFF), (1, 0x17FFFF1A),
    (30, 0x17FFFFFF), (1, 0x17FFFF1A), (1, 0x00000000), (1, 0x17FFFF60), (28, 0x17FFFFFF),
    (1, 0x17FFFF60), (3, 0x00000000), (1, 0x16FFFF60), (26, 0x16FFFFFF), (1, 0x16FFFF60),
    (5, 0x00000000), (1, 0x16FFFF1A), (24, 0x16FFFFFF), (1, 0x16FFFF1A), (3, 0x00000000)]

def icon32 : Image := icon "app_icon_32" 32 runs32 (by decide) (by decide +kernel)

end IconCatalog.Catalog
