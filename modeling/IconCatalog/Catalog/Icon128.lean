import IconCatalog.Catalog.Runs
set_option autoImplicit false

namespace IconCatalog.Catalog

/-- The artwork with edge length 128. Its bytes below 0x80 are the real ones. Of those from 0x80 on
most are unknown, and 0xFF stands for each unknown byte. -/
def runs128 : List Run := [
    (21, 0x00000000), (1, 0x2463FF35), (1, 0x2463FF6D), (1, 0x2463D89C), (80, 0x2463FFFF),
    (1, 0x2463D89C), (1, 0x2463FF6D), (1, 0x2463FF35), (39, 0x00000000), (1, 0x2464FF4D),
    (1, 0x2464D8A0), (88, 0x2464FFFF), (1, 0x2464D8A0), (1, 0x2464FF4D), (33, 0x00000000),
    (1, 0x2464FF0C), (1, 0x2464FF79), (94, 0x2464FFFF), (1, 0x2464FF79), (1, 0x2464FF0C),
    (29, 0x00000000), (1, 0x2465FF78), (98, 0x2465FFFF), (1, 0x2465FF78), (26, 0x00000000),
    (1, 0x2465FF49), (102, 0x2465FFFF), (1, 0x2465FF49), (23, 0x00000000), (1, 0x2366D688),
    (104, 0x2366FFFF), (1, 0x2366D688), (20, 0x00000000), (1, 0x2366FF12), (1, 0x2366D5B6),
    (106, 0x2366FFFF), (1, 0x2366D5B6), (1, 0x2366FF12), (17, 0x00000000), (1, 0x2367FF24),
    (110, 0x2367FFFF), (1, 0x2367FF24), (15, 0x00000000), (1, 0x2367FF24), (112, 0x2367FFFF),
    (1, 0x2367FF24), (13, 0x00000000), (1, 0x2368FF12), (114, 0x2368FFFF), (1, 0x2368FF12),
    (12, 0x00000000), (1, 0x2368D3B6), (114, 0x2368FFFF), (1, 0x2368D3B6), (11, 0x00000000),
    (1, 0x2369D388), (116, 0x2369FFFF), (1, 0x2369D388), (9, 0x00000000), (1, 0x236AFF49),
    (118, 0x236AFFFF), (1, 0x236AFF49), (8, 0x00000000), (120, 0x236AFFFF), (7, 0x00000000),
    (1, 0x226BFF78), (120, 0x226BFFFF), (1, 0x226BFF78), (5, 0x00000000), (1, 0x226BFF0C),
    (122, 0x226BFFFF), (1, 0x226BFF0C), (4, 0x00000000), (1, 0x226CFF79), (122, 0x226CFFFF),
    (1, 0x226CFF79), (4, 0x00000000), (124, 0x226CFFFF), (3, 0x00000000), (1, 0x226DFF4D),
    (124, 0x226DFFFF), (1, 0x226DFF4D), (2, 0x00000000), (1, 0x226DCFA0), (124, 0x226DFFFF),
    (1, 0x226DCFA0), (2, 0x00000000), (126, 0x226EFFFF), (1, 0x00000000), (1, 0x226EFF35),
    (58, 0x226EFFFF), (1, 0x236EFFFF), (1, 0x377CFFFF), (1, 0x47FFFFFF), (1, 0x51FFFFFF),
    (2, 0x56FFFFFF), (1, 0x51FFFFFF), (1, 0x47FFFFFF), (1, 0x377CFFFF), (1, 0x236EFFFF),
    (58, 0x226EFFFF), (1, 0x226EFF35), (1, 0x226FFF6D), (53, 0x226FFFFF), (1, 0x47FFFFFF),
    (1, 0x76FFFFFF), (16, 0xFFFFFFFF), (1, 0x76FFFFFF), (1, 0x47FFFFFF), (53, 0x226FFFFF),
    (1, 0x226FFF6D), (1, 0x216FCD9C), (49, 0x216FFFFF), (1, 0x2C76FFFF), (1, 0x70FFFFFF),
    (24, 0xFFFFFFFF), (1, 0x70FFFFFF), (1, 0x2C76FFFF), (49, 0x216FFFFF), (1, 0x216FCD9C),
    (48, 0x2170FFFF), (1, 0x65FFFFFF), (30, 0xFFFFFFFF), (1, 0x65FFFFFF), (48, 0x2170FFFF),
    (45, 0x2171FFFF), (1, 0x2775FFFF), (36, 0xFFFFFFFF), (1, 0x2775FFFF), (88, 0x2171FFFF),
    (1, 0x2271FFFF), (40, 0xFFFFFFFF), (1, 0x2271FFFF), (43, 0x2171FFFF), (42, 0x2172FFFF),
    (1, 0x75FFFFFF), (42, 0xFFFFFFFF), (1, 0x75FFFFFF), (82, 0x2172FFFF), (1, 0x46FFFFFF),
    (46, 0xFFFFFFFF), (1, 0x46FFFFFF), (40, 0x2172FFFF), (39, 0x2173FFFF), (50, 0xFFFFFFFF),
    (76, 0x2173FFFF), (1, 0x2777FFFF), (52, 0xFFFFFFFF), (1, 0x2777FFFF), (37, 0x2173FFFF),
    (36, 0x2174FFFF), (1, 0x46FFFFFF), (54, 0xFFFFFFFF), (1, 0x46FFFFFF), (36, 0x2174FFFF),
    (35, 0x2074FFFF), (1, 0x5AFFFFFF), (56, 0xFFFFFFFF), (1, 0x5AFFFFFF), (35, 0x2074FFFF),
    (34, 0x2075FFFF), (1, 0x65FFFFFF), (58, 0xFFFFFFFF), (1, 0x65FFFFFF), (67, 0x2075FFFF),
    (1, 0x65FFFFFF), (60, 0xFFFFFFFF), (1, 0x65FFFFFF), (33, 0x2075FFFF), (32, 0x2076FFFF),
    (1, 0x5AFFFFFF), (62, 0xFFFFFFFF), (1, 0x5AFFFFFF), (32, 0x2076FFFF), (31, 0x2077FFFF),
    (1, 0x45FFFFFF), (64, 0xFFFFFFFF), (1, 0x45FFFFFF), (61, 0x2077FFFF), (1, 0x267BFFFF),
    (66, 0xFFFFFFFF), (1, 0x267BFFFF), (30, 0x2077FFFF), (30, 0x2078FFFF), (68, 0xFFFFFFFF),
    (59, 0x2078FFFF), (1, 0x7FFFFFFF), (68, 0xFFFFFFFF), (1, 0x7FFFFFFF), (29, 0x2078FFFF),
    (28, 0x2079FFFF), (1, 0x45FFFFFF), (29, 0xFFFFFFFF), (1, 0x66FFFFFF), (1, 0x38FFFFFF),
    (8, 0x2079FFFF), (1, 0x38FFFFFF), (1, 0x66FFFFFF), (29, 0xFFFFFFFF), (1, 0x45FFFFFF),
    (28, 0x2079FFFF), (28, 0x1F79FFFF), (27, 0xFFFFFFFF), (1, 0x53FFFFFF), (16, 0x1F79FFFF),
    (1, 0x53FFFFFF), (27, 0xFFFFFFFF), (28, 0x1F79FFFF), (27, 0x1F7AFFFF), (1, 0x74FFFFFF),
    (25, 0xFFFFFFFF), (1, 0x37FFFFFF), (20, 0x1F7AFFFF), (1, 0x37FFFFFF), (25, 0xFFFFFFFF),
    (1, 0x74FFFFFF), (53, 0x1F7AFFFF), (1, 0x207AFFFF), (24, 0xFFFFFFFF), (1, 0x4AFFFFFF),
    (24, 0x1F7AFFFF), (1, 0x4AFFFFFF), (24, 0xFFFFFFFF), (1, 0x207AFFFF), (26, 0x1F7AFFFF),
    (26, 0x1F7BFFFF), (24, 0xFFFFFFFF), (28, 0x1F7BFFFF), (24, 0xFFFFFFFF), (51, 0x1F7BFFFF),
    (1, 0x257EFFFF), (22, 0xFFFFFFFF), (1, 0x66FFFFFF), (30, 0x1F7BFFFF), (1, 0x66FFFFFF),
    (22, 0xFFFFFFFF), (1, 0x257EFFFF), (25, 0x1F7BFFFF), (25, 0x1F7CFFFF), (22, 0xFFFFFFFF),
    (1, 0x53FFFFFF), (32, 0x1F7CFFFF), (1, 0x53FFFFFF), (22, 0xFFFFFFFF), (25, 0x1F7CFFFF),
    (25, 0x1F7DFFFF), (21, 0xFFFFFFFF), (1, 0x53FFFFFF), (34, 0x1F7DFFFF), (1, 0x53FFFFFF),
    (21, 0xFFFFFFFF), (49, 0x1F7DFFFF), (1, 0x64FFFFFF), (20, 0xFFFFFFFF), (1, 0x66FFFFFF),
    (36, 0x1F7DFFFF), (1, 0x66FFFFFF), (20, 0xFFFFFFFF), (1, 0x64FFFFFF), (24, 0x1F7DFFFF),
    (24, 0x1F7EFFFF), (21, 0xFFFFFFFF), (38, 0x1F7EFFFF), (21, 0xFFFFFFFF), (24, 0x1F7EFFFF),
    (23, 0x1E7EFFFF), (1, 0x29FFFFFF), (20, 0xFFFFFFFF), (40, 0x1E7EFFFF), (20, 0xFFFFFFFF),
    (1, 0x29FFFFFF), (23, 0x1E7EFFFF), (23, 0x1E7FFFFF), (1, 0x6EFFFFFF), (19, 0xFFFFFFFF),
    (1, 0x49FFFFFF), (40, 0x1E7FFFFF), (1, 0x49FFFFFF), (19, 0xFFFFFFFF), (1, 0x6EFFFFFF),
    (46, 0x1E7FFFFF), (20, 0xFFFFFFFF), (42, 0x1E7FFFFF), (20, 0xFFFFFFFF), (23, 0x1E7FFFFF),
    (23, 0x1EFFFFFF), (19, 0xFFFFFFFF), (1, 0x36FFFFFF), (42, 0x1EFFFFFF), (1, 0x36FFFFFF),
    (19, 0xFFFFFFFF), (45, 0x1EFFFFFF), (1, 0x43FFFFFF), (19, 0xFFFFFFFF), (44, 0x1EFFFFFF),
    (19, 0xFFFFFFFF), (1, 0x43FFFFFF), (44, 0x1EFFFFFF), (1, 0x73FFFFFF), (18, 0xFFFFFFFF),
    (1, 0x52FFFFFF), (44, 0x1EFFFFFF), (1, 0x52FFFFFF), (18, 0xFFFFFFFF), (1, 0x73FFFFFF),
    (44, 0x1EFFFFFF), (19, 0xFFFFFFFF), (46, 0x1EFFFFFF), (19, 0xFFFFFFFF), (44, 0x1EFFFFFF),
    (19, 0xFFFFFFFF), (46, 0x1EFFFFFF), (19, 0xFFFFFFFF), (44, 0x1EFFFFFF), (18, 0xFFFFFFFF),
    (1, 0x65FFFFFF), (46, 0x1EFFFFFF), (1, 0x65FFFFFF), (18, 0xFFFFFFFF), (22, 0x1EFFFFFF),
    (21, 0x1DFFFFFF), (1, 0x1EFFFFFF), (18, 0xFFFFFFFF), (1, 0x35FFFFFF), (46, 0x1DFFFFFF),
    (1, 0x35FFFFFF), (18, 0xFFFFFFFF), (1, 0x1EFFFFFF), (42, 0x1DFFFFFF), (1, 0x33FFFFFF),
    (18, 0xFFFFFFFF), (48, 0x1DFFFFFF), (18, 0xFFFFFFFF), (1, 0x33FFFFFF), (42, 0x1DFFFFFF),
    (1, 0x43FFFFFF), (18, 0xFFFFFFFF), (48, 0x1DFFFFFF), (18, 0xFFFFFFFF), (1, 0x43FFFFFF),
    (42, 0x1DFFFFFF), (1, 0x4DFFFFFF), (18, 0xFFFFFFFF), (48, 0x1DFFFFFF), (18, 0xFFFFFFFF),
    (1, 0x4DFFFFFF), (42, 0x1DFFFFFF), (1, 0x53FFFFFF), (18, 0xFFFFFFFF), (48, 0x1DFFFFFF),
    (18, 0xFFFFFFFF), (1, 0x53FFFFFF), (42, 0x1DFFFFFF), (1, 0x53FFFFFF), (18, 0xFFFFFFFF),
    (48, 0x1DFFFFFF), (18, 0xFFFFFFFF), (1, 0x53FFFFFF), (42, 0x1DFFFFFF), (1, 0x4DFFFFFF),
    (18, 0xFFFFFFFF), (48, 0x1DFFFFFF), (18, 0xFFFFFFFF), (1, 0x4DFFFFFF), (42, 0x1DFFFFFF),
    (1, 0x43FFFFFF), (18, 0xFFFFFFFF), (48, 0x1DFFFFFF), (18, 0xFFFFFFFF), (1, 0x43FFFFFF),
    (42, 0x1DFFFFFF), (1, 0x33FFFFFF), (18, 0xFFFFFFFF), (48, 0x1DFFFFFF), (18, 0xFFFFFFFF),
    (1, 0x33FFFFFF), (42, 0x1DFFFFFF), (1, 0x1EFFFFFF), (18, 0xFFFFFFFF), (1, 0x35FFFFFF),
    (46, 0x1DFFFFFF), (1, 0x35FFFFFF), (18, 0xFFFFFFFF), (1, 0x1EFFFFFF), (21, 0x1DFFFFFF),
    (22, 0x1CFFFFFF), (18, 0xFFFFFFFF), (1, 0x64FFFFFF), (46, 0x1CFFFFFF), (1, 0x64FFFFFF),
    (18, 0xFFFFFFFF), (44, 0x1CFFFFFF), (19, 0xFFFFFFFF), (46, 0x1CFFFFFF), (19, 0xFFFFFFFF),
    (44, 0x1CFFFFFF), (19, 0xFFFFFFFF), (46, 0x1CFFFFFF), (19, 0xFFFFFFFF), (44, 0x1CFFFFFF),
    (1, 0x72FFFFFF), (18, 0xFFFFFFFF), (1, 0x51FFFFFF), (44, 0x1CFFFFFF), (1, 0x51FFFFFF),
    (18, 0xFFFFFFFF), (1, 0x72FFFFFF), (44, 0x1CFFFFFF), (1, 0x42FFFFFF), (19, 0xFFFFFFFF),
    (44, 0x1CFFFFFF), (19, 0xFFFFFFFF), (1, 0x42FFFFFF), (45, 0x1CFFFFFF), (19, 0xFFFFFFFF),
    (1, 0x34FFFFFF), (42, 0x1CFFFFFF), (1, 0x34FFFFFF), (19, 0xFFFFFFFF), (46, 0x1CFFFFFF),
    (20, 0xFFFFFFFF), (42, 0x1CFFFFFF), (20, 0xFFFFFFFF), (46, 0x1CFFFFFF), (1, 0x6DFFFFFF),
    (19, 0xFFFFFFFF), (1, 0x47FFFFFF), (40, 0x1CFFFFFF), (1, 0x47FFFFFF), (19, 0xFFFFFFFF),
    (1, 0x6DFFFFFF), (46, 0x1CFFFFFF), (1, 0x27FFFFFF), (20, 0xFFFFFFFF), (40, 0x1CFFFFFF),
    (20, 0xFFFFFFFF), (1, 0x27FFFFFF), (23, 0x1CFFFFFF), (24, 0x1BFFFFFF), (21, 0xFFFFFFFF),
    (38, 0x1BFFFFFF), (21, 0xFFFFFFFF), (48, 0x1BFFFFFF), (1, 0x61FFFFFF), (20, 0xFFFFFFFF),
    (1, 0x63FFFFFF), (36, 0x1BFFFFFF), (1, 0x63FFFFFF), (20, 0xFFFFFFFF), (1, 0x61FFFFFF),
    (49, 0x1BFFFFFF), (21, 0xFFFFFFFF), (1, 0x50FFFFFF), (34, 0x1BFFFFFF), (1, 0x50FFFFFF),
    (21, 0xFFFFFFFF), (50, 0x1BFFFFFF), (22, 0xFFFFFFFF), (1, 0x50FFFFFF), (32, 0x1BFFFFFF),
    (1, 0x50FFFFFF), (22, 0xFFFFFFFF), (50, 0x1BFFFFFF), (1, 0x21FFFFFF), (22, 0xFFFFFFFF),
    (1, 0x63FFFFFF), (30, 0x1BFFFFFF), (1, 0x63FFFFFF), (22, 0xFFFFFFFF), (1, 0x21FFFFFF),
    (51, 0x1BFFFFFF), (24, 0xFFFFFFFF), (28, 0x1BFFFFFF), (24, 0xFFFFFFFF), (52, 0x1BFFFFFF),
    (1, 0x1CFFFFFF), (24, 0xFFFFFFFF), (1, 0x46FFFFFF), (24, 0x1BFFFFFF), (1, 0x46FFFFFF),
    (24, 0xFFFFFFFF), (1, 0x1CFFFFFF), (53, 0x1BFFFFFF), (1, 0x71FFFFFF), (25, 0xFFFFFFFF),
    (1, 0x33FFFFFF), (20, 0x1BFFFFFF), (1, 0x33FFFFFF), (25, 0xFFFFFFFF), (1, 0x71FFFFFF),
    (55, 0x1BFFFFFF), (27, 0xFFFFFFFF), (1, 0x50FFFFFF), (16, 0x1BFFFFFF), (1, 0x50FFFFFF),
    (27, 0xFFFFFFFF), (28, 0x1BFFFFFF), (28, 0x1AFFFFFF), (1, 0x40FFFFFF), (29, 0xFFFFFFFF),
    (1, 0x62FFFFFF), (1, 0x32FFFFFF), (8, 0x1AFFFFFF), (1, 0x32FFFFFF), (1, 0x62FFFFFF),
    (29, 0xFFFFFFFF), (1, 0x40FFFFFF), (57, 0x1AFFFFFF), (1, 0x7BFFFFFF), (68, 0xFFFFFFFF),
    (1, 0x7BFFFFFF), (59, 0x1AFFFFFF), (68, 0xFFFFFFFF), (60, 0x1AFFFFFF), (1, 0x20FFFFFF),
    (66, 0xFFFFFFFF), (1, 0x20FFFFFF), (61, 0x1AFFFFFF), (1, 0x40FFFFFF), (64, 0xFFFFFFFF),
    (1, 0x40FFFFFF), (63, 0x1AFFFFFF), (1, 0x56FFFFFF), (62, 0xFFFFFFFF), (1, 0x56FFFFFF),
    (65, 0x1AFFFFFF), (1, 0x60FFFFFF), (60, 0xFFFFFFFF), (1, 0x60FFFFFF), (67, 0x1AFFFFFF),
    (1, 0x60FFFFFF), (58, 0xFFFFFFFF), (1, 0x60FFFFFF), (69, 0x1AFFFFFF), (1, 0x56FFFFFF),
    (56, 0xFFFFFFFF), (1, 0x56FFFFFF), (35, 0x1AFFFFFF), (36, 0x19FFFFFF), (1, 0x3FFFFFFF),
    (54, 0xFFFFFFFF), (1, 0x3FFFFFFF), (73, 0x19FFFFFF), (1, 0x1FFFFFFF), (52, 0xFFFFFFFF),
    (1, 0x1FFFFFFF), (76, 0x19FFFFFF), (1, 0x7BFFFFFF), (48, 0xFFFFFFFF), (1, 0x7BFFFFFF),
    (79, 0x19FFFFFF), (1, 0x3FFFFFFF), (46, 0xFFFFFFFF), (1, 0x3FFFFFFF), (82, 0x19FFFFFF),
    (1, 0x70FFFFFF), (42, 0xFFFFFFFF), (1, 0x70FFFFFF), (85, 0x19FFFFFF), (1, 0x1AFFFFFF),
    (40, 0xFFFFFFFF), (1, 0x1AFFFFFF), (88, 0x19FFFFFF), (1, 0x1FFFFFFF), (36, 0xFFFFFFFF),
    (1, 0x1FFFFFFF), (93, 0x19FFFFFF), (1, 0x60FFFFFF), (30, 0xFFFFFFFF), (1, 0x60FFFFFF),
    (98, 0x19FFFFFF), (1, 0x24FFFFFF), (1, 0x6BFFFFFF), (24, 0xFFFFFFFF), (1, 0x6BFFFFFF),
    (1, 0x24FFFFFF), (50, 0x19FFFFFF), (1, 0x18FFFF6D), (53, 0x18FFFFFF), (1, 0x3EFFFFFF),
    (1, 0x6FFFFFFF), (16, 0xFFFFFFFF), (1, 0x6FFFFFFF), (1, 0x3EFFFFFF), (53, 0x18FFFFFF),
    (1, 0x18FFFF6D), (1, 0x18FFFF35), (58, 0x18FFFFFF), (1, 0x19FFFFFF), (1, 0x2EFFFFFF),
    (1, 0x3EFFFFFF), (1, 0x49FFFFFF), (2, 0x4FFFFFFF), (1, 0x49FFFFFF), (1, 0x3EFFFFFF),
    (1, 0x2EFFFFFF), (1, 0x19FFFFFF), (58, 0x18FFFFFF), (1, 0x18FFFF35), (1, 0x00000000),
    (126, 0x18FFFFFF), (2, 0x00000000), (126, 0x18FFFFFF), (2, 0x00000000), (1, 0x18FFFF4D),
    (124, 0x18FFFFFF), (1, 0x18FFFF4D), (3, 0x00000000), (124, 0x18FFFFFF), (4, 0x00000000),
    (1, 0x18FFFF79), (122, 0x18FFFFFF), (1, 0x18FFFF79), (4, 0x00000000), (1, 0x18FFFF0C),
    (122, 0x18FFFFFF), (1, 0x18FFFF0C), (5, 0x00000000), (1, 0x18FFFF78), (120, 0x18FFFFFF),
    (1, 0x18FFFF78), (7, 0x00000000), (120, 0x17FFFFFF), (8, 0x00000000), (1, 0x17FFFF49),
    (118, 0x17FFFFFF), (1, 0x17FFFF49), (9, 0x00000000), (118, 0x17FFFFFF), (11, 0x00000000),
    (116, 0x17FFFFFF), (12, 0x00000000), (1, 0x17FFFF12), (114, 0x17FFFFFF), (1, 0x17FFFF12),
    (13, 0x00000000), (1, 0x17FFFF24), (112, 0x17FFFFFF), (1, 0x17FFFF24), (15, 0x00000000),
    (1, 0x17FFFF24), (110, 0x17FFFFFF), (1, 0x17FFFF24), (17, 0x00000000), (1, 0x17FFFF12),
    (108, 0x17FFFFFF), (1, 0x17FFFF12), (20, 0x00000000), (106, 0x17FFFFFF), (23, 0x00000000),
    (1, 0x16FFFF49), (102, 0x16FFFFFF), (1, 0x16FFFF49), (26, 0x00000000), (1, 0x16FFFF78),
    (98, 0x16FFFFFF), (1, 0x16FFFF78), (29, 0x00000000), (1, 0x16FFFF0C), (1, 0x16FFFF79),
    (94, 0x16FFFFFF), (1, 0x16FFFF79), (1, 0x16FFFF0C), (33, 0x00000000), (1, 0x16FFFF4D),
    (90, 0x16FFFFFF), (1, 0x16FFFF4D), (39, 0x00000000), (1, 0x16FFFF35), (1, 0x16FFFF6D),
    (82, 0x16FFFFFF), (1, 0x16FFFF6D), (1, 0x16FFFF35), (21, 0x00000000)]

def icon128 : Image := icon "app_icon_128" 128 runs128 (by decide) (by decide +kernel)

end IconCatalog.Catalog
