import IconCatalog.Catalog.Runs
set_option autoImplicit false

namespace IconCatalog.Catalog

/-- The artwork with edge length 64. Its bytes below 0x80 are the real ones. Of those from 0x80 on
most are unknown, and 0xFF stands for each unknown byte. -/
def runs64 : List Run := [
    (9, 0x00000000), (1, 0x2463FF3F), (1, 0x2463D889), (42, 0x2463FFFF), (1, 0x2463D889),
    (1, 0x2463FF3F), (16, 0x00000000), (1, 0x2464FF62), (48, 0x2464FFFF), (1, 0x2464FF62),
    (12, 0x00000000), (1, 0x2465FF2B), (1, 0x2465D6BD), (50, 0x2465FFFF), (1, 0x2465D6BD),
    (1, 0x2465FF2B), (9, 0x00000000), (1, 0x2366FF4E), (54, 0x2366FFFF), (1, 0x2366FF4E),
    (7, 0x00000000), (1, 0x2367FF4E), (56, 0x2367FFFF), (1, 0x2367FF4E), (5, 0x00000000),
    (1, 0x2368FF2B), (58, 0x2368FFFF), (1, 0x2368FF2B), (4, 0x00000000), (1, 0x236AD2BD),
    (58, 0x236AFFFF), (1, 0x236AD2BD), (3, 0x00000000), (1, 0x226BFF62), (60, 0x226BFFFF),
    (1, 0x226BFF62), (2, 0x00000000), (62, 0x226CFFFF), (1, 0x00000000), (1, 0x226DFF3F),
    (62, 0x226DFFFF), (1, 0x226DFF3F), (1, 0x226ECE89), (29, 0x226EFFFF), (1, 0x3178FFFF),
    (2, 0x3B7FFFFF), (1, 0x3178FFFF), (29, 0x226EFFFF), (1, 0x226ECE89), (25, 0x226FFFFF),
    (1, 0x3B7FFFFF), (1, 0x79FFFFFF), (10, 0xFFFFFFFF), (1, 0x79FFFFFF), (1, 0x3B7FFFFF),
    (25, 0x226FFFFF), (23, 0x2170FFFF), (1, 0x6EFFFFFF), (16, 0xFFFFFFFF), (1, 0x6EFFFFFF),
    (23, 0x2170FFFF), (21, 0x2171FFFF), (1, 0x6EFFFFFF), (20, 0xFFFFFFFF), (1, 0x6EFFFFFF),
    (21, 0x2171FFFF), (19, 0x2172FFFF), (1, 0x3AFFFFFF), (24, 0xFFFFFFFF), (1, 0x3AFFFFFF),
    (19, 0x2172FFFF), (18, 0x2173FFFF), (1, 0x64FFFFFF), (26, 0xFFFFFFFF), (1, 0x64FFFFFF),
    (18, 0x2173FFFF), (17, 0x2075FFFF), (1, 0x78FFFFFF), (28, 0xFFFFFFFF), (1, 0x78FFFFFF),
    (17, 0x2075FFFF), (16, 0x2076FFFF), (1, 0x78FFFFFF), (30, 0xFFFFFFFF), (1, 0x78FFFFFF),
    (16, 0x2076FFFF), (15, 0x2077FFFF), (1, 0x63FFFFFF), (32, 0xFFFFFFFF), (1, 0x63FFFFFF),
    (15, 0x2077FFFF), (14, 0x2078FFFF), (1, 0x39FFFFFF), (34, 0xFFFFFFFF), (1, 0x39FFFFFF),
    (14, 0x2078FFFF), (14, 0x2079FFFF), (14, 0xFFFFFFFF), (1, 0x70FFFFFF), (1, 0x38FFFFFF),
    (4, 0x2079FFFF), (1, 0x38FFFFFF), (1, 0x70FFFFFF), (14, 0xFFFFFFFF), (14, 0x2079FFFF),
    (13, 0x1F7AFFFF), (1, 0x6DFFFFFF), (12, 0xFFFFFFFF), (1, 0x4AFFFFFF), (10, 0x1F7AFFFF),
    (1, 0x4AFFFFFF), (12, 0xFFFFFFFF), (1, 0x6DFFFFFF), (13, 0x1F7AFFFF), (13, 0x1F7BFFFF),
    (12, 0xFFFFFFFF), (14, 0x1F7BFFFF), (12, 0xFFFFFFFF), (13, 0x1F7BFFFF), (12, 0x1F7CFFFF),
    (1, 0x6DFFFFFF), (10, 0xFFFFFFFF), (1, 0x70FFFFFF), (16, 0x1F7CFFFF), (1, 0x70FFFFFF),
    (10, 0xFFFFFFFF), (1, 0x6DFFFFFF), (12, 0x1F7CFFFF), (12, 0x1F7DFFFF), (11, 0xFFFFFFFF),
    (18, 0x1F7DFFFF), (11, 0xFFFFFFFF), (12, 0x1F7DFFFF), (11, 0x1E7EFFFF), (1, 0x38FFFFFF),
    (10, 0xFFFFFFFF), (20, 0x1E7EFFFF), (10, 0xFFFFFFFF), (1, 0x38FFFFFF), (11, 0x1E7EFFFF),
    (11, 0x1E7FFFFF), (1, 0x77FFFFFF), (9, 0xFFFFFFFF), (1, 0x49FFFFFF), (20, 0x1E7FFFFF),
    (1, 0x49FFFFFF), (9, 0xFFFFFFFF), (1, 0x77FFFFFF), (11, 0x1E7FFFFF), (11, 0x1EFFFFFF),
    (10, 0xFFFFFFFF), (22, 0x1EFFFFFF), (10, 0xFFFFFFFF), (22, 0x1EFFFFFF), (9, 0xFFFFFFFF),
    (1, 0x6FFFFFFF), (22, 0x1EFFFFFF), (1, 0x6FFFFFFF), (9, 0xFFFFFFFF), (22, 0x1EFFFFFF),
    (9, 0xFFFFFFFF), (1, 0x36FFFFFF), (22, 0x1EFFFFFF), (1, 0x36FFFFFF), (9, 0xFFFFFFFF),
    (11, 0x1EFFFFFF), (10, 0x1DFFFFFF), (1, 0x2CFFFFFF), (9, 0xFFFFFFFF), (24, 0x1DFFFFFF),
    (9, 0xFFFFFFFF), (1, 0x2CFFFFFF), (20, 0x1DFFFFFF), (1, 0x37FFFFFF), (9, 0xFFFFFFFF),
    (24, 0x1DFFFFFF), (9, 0xFFFFFFFF), (1, 0x37FFFFFF), (20, 0x1DFFFFFF), (1, 0x37FFFFFF),
    (9, 0xFFFFFFFF), (24, 0x1DFFFFFF), (9, 0xFFFFFFFF), (1, 0x37FFFFFF), (20, 0x1DFFFFFF),
    (1, 0x2CFFFFFF), (9, 0xFFFFFFFF), (24, 0x1DFFFFFF), (9, 0xFFFFFFFF), (1, 0x2CFFFFFF),
    (10, 0x1DFFFFFF), (11, 0x1CFFFFFF), (9, 0xFFFFFFFF), (1, 0x35FFFFFF), (22, 0x1CFFFFFF),
    (1, 0x35FFFFFF), (9, 0xFFFFFFFF), (22, 0x1CFFFFFF), (9, 0xFFFFFFFF), (1, 0x6EFFFFFF),
    (22, 0x1CFFFFFF), (1, 0x6EFFFFFF), (9, 0xFFFFFFFF), (22, 0x1CFFFFFF), (10, 0xFFFFFFFF),
    (22, 0x1CFFFFFF), (10, 0xFFFFFFFF), (22, 0x1CFFFFFF), (1, 0x76FFFFFF), (9, 0xFFFFFFFF),
    (1, 0x48FFFFFF), (20, 0x1CFFFFFF), (1, 0x48FFFFFF), (9, 0xFFFFFFFF), (1, 0x76FFFFFF),
    (22, 0x1CFFFFFF), (1, 0x36FFFFFF), (10, 0xFFFFFFFF), (20, 0x1CFFFFFF), (10, 0xFFFFFFFF),
    (1, 0x36FFFFFF), (11, 0x1CFFFFFF), (12, 0x1BFFFFFF), (11, 0xFFFFFFFF), (18, 0x1BFFFFFF),
    (11, 0xFFFFFFFF), (24, 0x1BFFFFFF), (1, 0x6AFFFFFF), (10, 0xFFFFFFFF), (1, 0x6DFFFFFF),
    (16, 0x1BFFFFFF), (1, 0x6DFFFFFF), (10, 0xFFFFFFFF), (1, 0x6AFFFFFF), (25, 0x1BFFFFFF),
    (12, 0xFFFFFFFF), (14, 0x1BFFFFFF), (12, 0xFFFFFFFF), (26, 0x1BFFFFFF), (1, 0x6AFFFFFF),
    (12, 0xFFFFFFFF), (1, 0x47FFFFFF), (10, 0x1BFFFFFF), (1, 0x47FFFFFF), (12, 0xFFFFFFFF),
    (1, 0x6AFFFFFF), (13, 0x1BFFFFFF), (14, 0x1AFFFFFF), (14, 0xFFFFFFFF), (1, 0x6DFFFFFF),
    (1, 0x33FFFFFF), (4, 0x1AFFFFFF), (1, 0x33FFFFFF), (1, 0x6DFFFFFF), (14, 0xFFFFFFFF),
    (28, 0x1AFFFFFF), (1, 0x34FFFFFF), (34, 0xFFFFFFFF), (1, 0x34FFFFFF), (29, 0x1AFFFFFF),
    (1, 0x5FFFFFFF), (32, 0xFFFFFFFF), (1, 0x5FFFFFFF), (31, 0x1AFFFFFF), (1, 0x74FFFFFF),
    (30, 0xFFFFFFFF), (1, 0x74FFFFFF), (33, 0x1AFFFFFF), (1, 0x74FFFFFF), (28, 0xFFFFFFFF),
    (1, 0x74FFFFFF), (17, 0x1AFFFFFF), (18, 0x19FFFFFF), (1, 0x5EFFFFFF), (26, 0xFFFFFFFF),
    (1, 0x5EFFFFFF), (37, 0x19FFFFFF), (1, 0x33FFFFFF), (24, 0xFFFFFFFF), (1, 0x33FFFFFF),
    (40, 0x19FFFFFF), (1, 0x69FFFFFF), (20, 0xFFFFFFFF), (1, 0x69FFFFFF), (44, 0x19FFFFFF),
    (1, 0x69FFFFFF), (16, 0xFFFFFFFF), (1, 0x69FFFFFF), (23, 0x19FFFFFF), (25, 0x18FFFFFF),
    (1, 0x32FFFFFF), (1, 0x73FFFFFF), (10, 0xFFFFFFFF), (1, 0x73FFFFFF), (1, 0x32FFFFFF),
    (55, 0x18FFFFFF), (1, 0x28FFFFFF), (2, 0x32FFFFFF), (1, 0x28FFFFFF), (30, 0x18FFFFFF),
    (1, 0x18FFFF3F), (62, 0x18FFFFFF), (1, 0x18FFFF3F), (1, 0x00000000), (62, 0x18FFFFFF),
    (2, 0x00000000), (1, 0x18FFFF62), (60, 0x18FFFFFF), (1, 0x18FFFF62), (3, 0x00000000),
    (60, 0x17FFFFFF), (4, 0x00000000), (1, 0x17FFFF2B), (58, 0x17FFFFFF), (1, 0x17FFFF2B),
    (5, 0x00000000), (1, 0x17FFFF4E), (56, 0x17FFFFFF), (1, 0x17FFFF4E), (7, 0x00000000),
    (1, 0x17FFFF4E), (54, 0x17FFFFFF), (1, 0x17FFFF4E), (9, 0x00000000), (1, 0x16FFFF2B),
    (52, 0x16FFFFFF), (1, 0x16FFFF2B), (12, 0x00000000), (1, 0x16FFFF62), (48, 0x16FFFFFF),
    (1, 0x16FFFF62), (16, 0x00000000), (1, 0x16FFFF3F), (44, 0x16FFFFFF), (1, 0x16FFFF3F),
    (9, 0x00000000)]

def icon64 : Image := icon "app_icon_64" 64 runs64 (by decide) (by decide +kernel)

end IconCatalog.Catalog
