import IconCatalog.Catalog.Runs
set_option autoImplicit false

namespace IconCatalog.Catalog

/-- The artwork with edge length 48. Its bytes below 0x80 are the real ones. Of those from 0x80 on
most are unknown, and 0xFF stands for each unknown byte. -/
def runs48 : List Run := [
    (6, 0x00000000), (1, 0x2463FF36), (1, 0x2463D88B), (32, 0x2463FFFF), (1, 0x2463D88B),
    (1, 0x2463FF36), (10, 0x00000000), (1, 0x2464FF29), (1, 0x2464D7AE), (36, 0x2464FFFF),
    (1, 0x2464D7AE), (1, 0x2464FF29), (7, 0x00000000), (1, 0x2366FF58), (40, 0x2366FFFF),
    (1, 0x2366FF58), (5, 0x00000000), (1, 0x2367FF58), (42, 0x2367FFFF), (1, 0x2367FF58),
    (3, 0x00000000), (1, 0x2369FF29), (44, 0x2369FFFF), (1, 0x2369FF29), (2, 0x00000000),
    (1, 0x236AD2AE), (44, 0x236AFFFF), (1, 0x236AD2AE), (1, 0x00000000), (1, 0x226CFF36),
    (46, 0x226CFFFF), (1, 0x226CFF36), (1, 0x226DCF8B), (46, 0x226DFFFF), (1, 0x226DCF8B),
    (19, 0x226FFFFF), (1, 0x4EFFFFFF), (8, 0xFFFFFFFF), (1, 0x4EFFFFFF), (19, 0x226FFFFF),
    (16, 0x2170FFFF), (1, 0x2472FFFF), (14, 0xFFFFFFFF), (1, 0x2472FFFF), (16, 0x2170FFFF),
    (15, 0x2172FFFF), (1, 0x77FFFFFF), (16, 0xFFFFFFFF), (1, 0x77FFFFFF), (15, 0x2172FFFF),
    (13, 0x2173FFFF), (1, 0x2475FFFF), (20, 0xFFFFFFFF), (1, 0x2475FFFF), (13, 0x2173FFFF),
    (12, 0x2075FFFF), (1, 0x31FFFFFF), (22, 0xFFFFFFFF), (1, 0x31FFFFFF), (12, 0x2075FFFF),
    (11, 0x2076FFFF), (1, 0x2378FFFF), (24, 0xFFFFFFFF), (1, 0x2378FFFF), (11, 0x2076FFFF),
    (11, 0x2078FFFF), (26, 0xFFFFFFFF), (11, 0x2078FFFF), (10, 0x2079FFFF), (1, 0x76FFFFFF),
    (10, 0xFFFFFFFF), (1, 0x56FFFFFF), (1, 0x237BFFFF), (2, 0x2079FFFF), (1, 0x237BFFFF),
    (1, 0x56FFFFFF), (10, 0xFFFFFFFF), (1, 0x76FFFFFF), (10, 0x2079FFFF), (9, 0x1F7AFFFF),
    (1, 0x227CFFFF), (9, 0xFFFFFFFF), (1, 0x3BFFFFFF), (8, 0x1F7AFFFF), (1, 0x3BFFFFFF),
    (9, 0xFFFFFFFF), (1, 0x227CFFFF), (9, 0x1F7AFFFF), (9, 0x1F7CFFFF), (9, 0xFFFFFFFF),
    (12, 0x1F7CFFFF), (9, 0xFFFFFFFF), (9, 0x1F7CFFFF), (9, 0x1F7DFFFF), (8, 0xFFFFFFFF),
    (14, 0x1F7DFFFF), (8, 0xFFFFFFFF), (9, 0x1F7DFFFF), (8, 0x1E7FFFFF), (1, 0x4BFFFFFF),
    (7, 0xFFFFFFFF), (1, 0x3AFFFFFF), (14, 0x1E7FFFFF), (1, 0x3AFFFFFF), (7, 0xFFFFFFFF),
    (1, 0x4BFFFFFF), (8, 0x1E7FFFFF), (8, 0x1EFFFFFF), (8, 0xFFFFFFFF), (16, 0x1EFFFFFF),
    (8, 0xFFFFFFFF), (16, 0x1EFFFFFF), (7, 0xFFFFFFFF), (1, 0x54FFFFFF), (16, 0x1EFFFFFF),
    (1, 0x54FFFFFF), (7, 0xFFFFFFFF), (8, 0x1EFFFFFF), (8, 0x1DFFFFFF), (7, 0xFFFFFFFF),
    (1, 0x20FFFFFF), (16, 0x1DFFFFFF), (1, 0x20FFFFFF), (7, 0xFFFFFFFF), (16, 0x1DFFFFFF),
    (7, 0xFFFFFFFF), (18, 0x1DFFFFFF), (7, 0xFFFFFFFF), (16, 0x1DFFFFFF), (7, 0xFFFFFFFF),
    (18, 0x1DFFFFFF), (7, 0xFFFFFFFF), (16, 0x1DFFFFFF), (7, 0xFFFFFFFF), (1, 0x20FFFFFF),
    (16, 0x1DFFFFFF), (1, 0x20FFFFFF), (7, 0xFFFFFFFF), (8, 0x1DFFFFFF), (8, 0x1CFFFFFF),
    (7, 0xFFFFFFFF), (1, 0x52FFFFFF), (16, 0x1CFFFFFF), (1, 0x52FFFFFF), (7, 0xFFFFFFFF),
    (16, 0x1CFFFFFF), (8, 0xFFFFFFFF), (16, 0x1CFFFFFF), (8, 0xFFFFFFFF), (16, 0x1CFFFFFF),
    (1, 0x49FFFFFF), (7, 0xFFFFFFFF), (1, 0x39FFFFFF), (14, 0x1CFFFFFF), (1, 0x39FFFFFF),
    (7, 0xFFFFFFFF), (1, 0x49FFFFFF), (8, 0x1CFFFFFF), (9, 0x1BFFFFFF), (8, 0xFFFFFFFF),
    (14, 0x1BFFFFFF), (8, 0xFFFFFFFF), (18, 0x1BFFFFFF), (9, 0xFFFFFFFF), (12, 0x1BFFFFFF),
    (9, 0xFFFFFFFF), (18, 0x1BFFFFFF), (1, 0x1EFFFFFF), (9, 0xFFFFFFFF), (1, 0x38FFFFFF),
    (8, 0x1BFFFFFF), (1, 0x38FFFFFF), (9, 0xFFFFFFFF), (1, 0x1EFFFFFF), (9, 0x1BFFFFFF),
    (10, 0x1AFFFFFF), (1, 0x73FFFFFF), (10, 0xFFFFFFFF), (1, 0x51FFFFFF), (1, 0x1DFFFFFF),
    (2, 0x1AFFFFFF), (1, 0x1DFFFFFF), (1, 0x51FFFFFF), (10, 0xFFFFFFFF), (1, 0x73FFFFFF),
    (21, 0x1AFFFFFF), (26, 0xFFFFFFFF), (22, 0x1AFFFFFF), (1, 0x1DFFFFFF), (24, 0xFFFFFFFF),
    (1, 0x1DFFFFFF), (23, 0x1AFFFFFF), (1, 0x2CFFFFFF), (22, 0xFFFFFFFF), (1, 0x2CFFFFFF),
    (12, 0x1AFFFFFF), (13, 0x19FFFFFF), (1, 0x1CFFFFFF), (20, 0xFFFFFFFF), (1, 0x1CFFFFFF),
    (28, 0x19FFFFFF), (1, 0x72FFFFFF), (16, 0xFFFFFFFF), (1, 0x72FFFFFF), (31, 0x19FFFFFF),
    (1, 0x1CFFFFFF), (14, 0xFFFFFFFF), (1, 0x1CFFFFFF), (16, 0x19FFFFFF), (19, 0x18FFFFFF),
    (1, 0x46FFFFFF), (8, 0xFFFFFFFF), (1, 0x46FFFFFF), (67, 0x18FFFFFF), (1, 0x18FFFF36),
    (46, 0x18FFFFFF), (1, 0x18FFFF36), (1, 0x00000000), (46, 0x17FFFFFF), (2, 0x00000000),
    (1, 0x17FFFF29), (44, 0x17FFFFFF), (1, 0x17FFFF29), (3, 0x00000000), (1, 0x17FFFF58),
    (42, 0x17FFFFFF), (1, 0x17FFFF58), (5, 0x00000000), (1, 0x17FFFF58), (40, 0x17FFFFFF),
    (1, 0x17FFFF58), (7, 0x00000000), (1, 0x16FFFF29), (38, 0x16FFFFFF), (1, 0x16FFFF29),
    (10, 0x00000000), (1, 0x16FFFF36), (34, 0x16FFFFFF), (1, 0x16FFFF36), (6, 0x00000000)]

def icon48 : Image := icon "app_icon_48" 48 runs48 (by decide) (by decide +kernel)

end IconCatalog.Catalog
