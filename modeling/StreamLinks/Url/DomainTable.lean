/-!
# Characters of domain names

Which characters beyond ASCII a domain name may hold, which are dropped, and
which stand for others.  Ranges are closed and ascending.
-/

namespace StreamLinks.Url

/-- Characters that no domain name may hold. -/
def refusedRanges : List (Nat × Nat) := [
  (0x80, 0x9F), (0x378, 0x379), (0x380, 0x383), (0x38B, 0x38B), (0x38D, 0x38D), (0x3A2, 0x3A2),
  (0x530, 0x530), (0x557, 0x558), (0x58B, 0x58C), (0x590, 0x590), (0x5C8, 0x5CF), (0x5EB, 0x5EE),
  (0x5F5, 0x605), (0x61C, 0x61C), (0x6DD, 0x6DD), (0x70E, 0x70F), (0x74B, 0x74C), (0x7B2, 0x7BF),
  (0x7FB, 0x7FC), (0x82E, 0x82F), (0x83F, 0x83F), (0x85C, 0x85D), (0x85F, 0x85F), (0x86B, 0x86F),
  (0x890, 0x896), (0x8E2, 0x8E2), (0x984, 0x984), (0x98D, 0x98E), (0x991, 0x992), (0x9A9, 0x9A9),
  (0x9B1, 0x9B1), (0x9B3, 0x9B5), (0x9BA, 0x9BB), (0x9C5, 0x9C6), (0x9C9, 0x9CA), (0x9CF, 0x9D6),
  (0x9D8, 0x9DB), (0x9DE, 0x9DE), (0x9E4, 0x9E5), (0x9FF, 0xA00), (0xA04, 0xA04), (0xA0B, 0xA0E),
  (0xA11, 0xA12), (0xA29, 0xA29), (0xA31, 0xA31), (0xA34, 0xA34), (0xA37, 0xA37), (0xA3A, 0xA3B),
  (0xA3D, 0xA3D), (0xA43, 0xA46), (0xA49, 0xA4A), (0xA4E, 0xA50), (0xA52, 0xA58), (0xA5D, 0xA5D),
  (0xA5F, 0xA65), (0xA77, 0xA80), (0xA84, 0xA84), (0xA8E, 0xA8E), (0xA92, 0xA92), (0xAA9, 0xAA9),
  (0xAB1, 0xAB1), (0xAB4, 0xAB4), (0xABA, 0xABB), (0xAC6, 0xAC6), (0xACA, 0xACA), (0xACE, 0xACF),
  (0xAD1, 0xADF), (0xAE4, 0xAE5), (0xAF2, 0xAF8), (0xB00, 0xB00), (0xB04, 0xB04), (0xB0D, 0xB0E),
  (0xB11, 0xB12), (0xB29, 0xB29), (0xB31, 0xB31), (0xB34, 0xB34), (0xB3A, 0xB3B), (0xB45, 0xB46),
  (0xB49, 0xB4A), (0xB4E, 0xB54), (0xB58, 0xB5B), (0xB5E, 0xB5E), (0xB64, 0xB65), (0xB78, 0xB81),
  (0xB84, 0xB84), (0xB8B, 0xB8D), (0xB91, 0xB91), (0xB96, 0xB98), (0xB9B, 0xB9B), (0xB9D, 0xB9D),
  (0xBA0, 0xBA2), (0xBA5, 0xBA7), (0xBAB, 0xBAD), (0xBBA, 0xBBD), (0xBC3, 0xBC5), (0xBC9, 0xBC9),
  (0xBCE, 0xBCF), (0xBD1, 0xBD6), (0xBD8, 0xBE5), (0xBFB, 0xBFF), (0xC0D, 0xC0D), (0xC11, 0xC11),
  (0xC29, 0xC29), (0xC3A, 0xC3B), (0xC45, 0xC45), (0xC49, 0xC49), (0xC4E, 0xC54), (0xC57, 0xC57),
  (0xC5B, 0xC5B), (0xC5E, 0xC5F), (0xC64, 0xC65), (0xC70, 0xC76), (0xC8D, 0xC8D), (0xC91, 0xC91),
  (0xCA9, 0xCA9), (0xCB4, 0xCB4), (0xCBA, 0xCBB), (0xCC5, 0xCC5), (0xCC9, 0xCC9), (0xCCE, 0xCD4),
  (0xCD7, 0xCDB), (0xCDF, 0xCDF), (0xCE4, 0xCE5), (0xCF0, 0xCF0), (0xCF4, 0xCFF), (0xD0D, 0xD0D),
  (0xD11, 0xD11), (0xD45, 0xD45), (0xD49, 0xD49), (0xD50, 0xD53), (0xD64, 0xD65), (0xD80, 0xD80),
  (0xD84, 0xD84), (0xD97, 0xD99), (0xDB2, 0xDB2), (0xDBC, 0xDBC), (0xDBE, 0xDBF), (0xDC7, 0xDC9),
  (0xDCB, 0xDCE), (0xDD5, 0xDD5), (0xDD7, 0xDD7), (0xDE0, 0xDE5), (0xDF0, 0xDF1), (0xDF5, 0xE00),
  (0xE3B, 0xE3E), (0xE5C, 0xE80), (0xE83, 0xE83), (0xE85, 0xE85), (0xE8B, 0xE8B), (0xEA4, 0xEA4),
  (0xEA6, 0xEA6), (0xEBE, 0xEBF), (0xEC5, 0xEC5), (0xEC7, 0xEC7), (0xECF, 0xECF), (0xEDA, 0xEDB),
  (0xEE0, 0xEFF), (0xF48, 0xF48), (0xF6D, 0xF70), (0xF98, 0xF98), (0xFBD, 0xFBD), (0xFCD, 0xFCD),
  (0xFDB, 0xFFF), (0x10C6, 0x10C6), (0x10C8, 0x10CC), (0x10CE, 0x10CF), (0x1249, 0x1249),
  (0x124E, 0x124F), (0x1257, 0x1257), (0x1259, 0x1259), (0x125E, 0x125F), (0x1289, 0x1289),
  (0x128E, 0x128F), (0x12B1, 0x12B1), (0x12B6, 0x12B7), (0x12BF, 0x12BF), (0x12C1, 0x12C1),
  (0x12C6, 0x12C7), (0x12D7, 0x12D7), (0x1311, 0x1311), (0x1316, 0x1317), (0x135B, 0x135C),
  (0x137D, 0x137F), (0x139A, 0x139F), (0x13F6, 0x13F7), (0x13FE, 0x13FF), (0x1680, 0x1680),
  (0x169D, 0x169F), (0x16F9, 0x16FF), (0x1716, 0x171E), (0x1737, 0x173F), (0x1754, 0x175F),
  (0x176D, 0x176D), (0x1771, 0x1771), (0x1774, 0x177F), (0x17DE, 0x17DF), (0x17EA, 0x17EF),
  (0x17FA, 0x17FF), (0x181A, 0x181F), (0x1879, 0x187F), (0x18AB, 0x18AF), (0x18F6, 0x18FF),
  (0x191F, 0x191F), (0x192C, 0x192F), (0x193C, 0x193F), (0x1941, 0x1943), (0x196E, 0x196F),
  (0x1975, 0x197F), (0x19AC, 0x19AF), (0x19CA, 0x19CF), (0x19DB, 0x19DD), (0x1A1C, 0x1A1D),
  (0x1A5F, 0x1A5F), (0x1A7D, 0x1A7E), (0x1A8A, 0x1A8F), (0x1A9A, 0x1A9F), (0x1AAE, 0x1AAF),
  (0x1ADE, 0x1ADF), (0x1AEC, 0x1AFF), (0x1B4D, 0x1B4D), (0x1BF4, 0x1BFB), (0x1C38, 0x1C3A),
  (0x1C4A, 0x1C4C), (0x1C8B, 0x1C8F), (0x1CBB, 0x1CBC), (0x1CC8, 0x1CCF), (0x1CFB, 0x1CFF),
  (0x1F16, 0x1F17), (0x1F1E, 0x1F1F), (0x1F46, 0x1F47), (0x1F4E, 0x1F4F), (0x1F58, 0x1F58),
  (0x1F5A, 0x1F5A), (0x1F5C, 0x1F5C), (0x1F5E, 0x1F5E), (0x1F7E, 0x1F7F), (0x1FB5, 0x1FB5),
  (0x1FC5, 0x1FC5), (0x1FD4, 0x1FD5), (0x1FDC, 0x1FDC), (0x1FF0, 0x1FF1), (0x1FF5, 0x1FF5),
  (0x1FFF, 0x1FFF), (0x200E, 0x200F), (0x2024, 0x2026), (0x2028, 0x202E), (0x2065, 0x2069),
  (0x2072, 0x2073), (0x208F, 0x208F), (0x209D, 0x209F), (0x20C2, 0x20CF), (0x20F1, 0x20FF),
  (0x218C, 0x218F), (0x242A, 0x243F), (0x244B, 0x245F), (0x2488, 0x249B), (0x2B74, 0x2B75),
  (0x2CF4, 0x2CF8), (0x2D26, 0x2D26), (0x2D28, 0x2D2C), (0x2D2E, 0x2D2F), (0x2D68, 0x2D6E),
  (0x2D71, 0x2D7E), (0x2D97, 0x2D9F), (0x2DA7, 0x2DA7), (0x2DAF, 0x2DAF), (0x2DB7, 0x2DB7),
  (0x2DBF, 0x2DBF), (0x2DC7, 0x2DC7), (0x2DCF, 0x2DCF), (0x2DD7, 0x2DD7), (0x2DDF, 0x2DDF),
  (0x2E5E, 0x2E7F), (0x2E9A, 0x2E9A), (0x2EF4, 0x2EFF), (0x2FD6, 0x2FFF), (0x3040, 0x3040),
  (0x3097, 0x3098), (0x3100, 0x3104), (0x3130, 0x3130), (0x318F, 0x318F), (0x31E6, 0x31EF),
  (0x321F, 0x321F), (0x33C2, 0x33C2), (0x33C7, 0x33C7), (0x33D8, 0x33D8), (0xA48D, 0xA48F),
  (0xA4C7, 0xA4CF), (0xA62C, 0xA63F), (0xA6F8, 0xA6FF), (0xA7DD, 0xA7F0), (0xA82D, 0xA82F),
  (0xA83A, 0xA83F), (0xA878, 0xA87F), (0xA8C6, 0xA8CD), (0xA8DA, 0xA8DF), (0xA954, 0xA95E),
  (0xA97D, 0xA97F), (0xA9CE, 0xA9CE), (0xA9DA, 0xA9DD), (0xA9FF, 0xA9FF), (0xAA37, 0xAA3F),
  (0xAA4E, 0xAA4F), (0xAA5A, 0xAA5B), (0xAAC3, 0xAADA), (0xAAF7, 0xAB00), (0xAB07, 0xAB08),
  (0xAB0F, 0xAB10), (0xAB17, 0xAB1F), (0xAB27, 0xAB27), (0xAB2F, 0xAB2F), (0xAB6C, 0xAB6F),
  (0xABEE, 0xABEF), (0xABFA, 0xABFF), (0xD7A4, 0xD7AF), (0xD7C7, 0xD7CA), (0xD7FC, 0xF8FF),
  (0xFA6E, 0xFA6F), (0xFADA, 0xFAFF), (0xFB07, 0xFB12), (0xFB18, 0xFB1C), (0xFB37, 0xFB37),
  (0xFB3D, 0xFB3D), (0xFB3F, 0xFB3F), (0xFB42, 0xFB42), (0xFB45, 0xFB45), (0xFDD0, 0xFDEF),
  (0xFE12, 0xFE12), (0xFE19, 0xFE1F), (0xFE30, 0xFE30), (0xFE52, 0xFE53), (0xFE67, 0xFE67),
  (0xFE6C, 0xFE6F), (0xFE75, 0xFE75), (0xFEFD, 0xFEFE), (0xFF00, 0xFF00), (0xFFBF, 0xFFC1),
  (0xFFC8, 0xFFC9), (0xFFD0, 0xFFD1), (0xFFD8, 0xFFD9), (0xFFDD, 0xFFDF), (0xFFE7, 0xFFE7),
  (0xFFEF, 0xFFFF), (0x1000C, 0x1000C), (0x10027, 0x10027), (0x1003B, 0x1003B),
  (0x1003E, 0x1003E), (0x1004E, 0x1004F), (0x1005E, 0x1007F), (0x100FB, 0x100FF),
  (0x10103, 0x10106), (0x10134, 0x10136), (0x1018F, 0x1018F), (0x1019D, 0x1019F),
  (0x101A1, 0x101CF), (0x101FE, 0x1027F), (0x1029D, 0x1029F), (0x102D1, 0x102DF),
  (0x102FC, 0x102FF), (0x10324, 0x1032C), (0x1034B, 0x1034F), (0x1037B, 0x1037F),
  (0x1039E, 0x1039E), (0x103C4, 0x103C7), (0x103D6, 0x103FF), (0x1049E, 0x1049F),
  (0x104AA, 0x104AF), (0x104D4, 0x104D7), (0x104FC, 0x104FF), (0x10528, 0x1052F),
  (0x10564, 0x1056E), (0x1057B, 0x1057B), (0x1058B, 0x1058B), (0x10593, 0x10593),
  (0x10596, 0x10596), (0x105A2, 0x105A2), (0x105B2, 0x105B2), (0x105BA, 0x105BA),
  (0x105BD, 0x105BF), (0x105F4, 0x105FF), (0x10737, 0x1073F), (0x10756, 0x1075F),
  (0x10768, 0x1077F), (0x10786, 0x10786), (0x107B1, 0x107B1), (0x107BB, 0x107FF),
  (0x10806, 0x10807), (0x10809, 0x10809), (0x10836, 0x10836), (0x10839, 0x1083B),
  (0x1083D, 0x1083E), (0x10856, 0x10856), (0x1089F, 0x108A6), (0x108B0, 0x108DF),
  (0x108F3, 0x108F3), (0x108F6, 0x108FA), (0x1091C, 0x1091E), (0x1093A, 0x1093E),
  (0x1095A, 0x1097F), (0x109B8, 0x109BB), (0x109D0, 0x109D1), (0x10A04, 0x10A04),
  (0x10A07, 0x10A0B), (0x10A14, 0x10A14), (0x10A18, 0x10A18), (0x10A36, 0x10A37),
  (0x10A3B, 0x10A3E), (0x10A49, 0x10A4F), (0x10A59, 0x10A5F), (0x10AA0, 0x10ABF),
  (0x10AE7, 0x10AEA), (0x10AF7, 0x10AFF), (0x10B36, 0x10B38), (0x10B56, 0x10B57),
  (0x10B73, 0x10B77), (0x10B92, 0x10B98), (0x10B9D, 0x10BA8), (0x10BB0, 0x10BFF),
  (0x10C49, 0x10C7F), (0x10CB3, 0x10CBF), (0x10CF3, 0x10CF9), (0x10D28, 0x10D2F),
  (0x10D3A, 0x10D3F), (0x10D66, 0x10D68), (0x10D86, 0x10D8D), (0x10D90, 0x10E5F),
  (0x10E7F, 0x10E7F), (0x10EAA, 0x10EAA), (0x10EAE, 0x10EAF), (0x10EB2, 0x10EC1),
  (0x10EC8, 0x10ECF), (0x10ED9, 0x10EF9), (0x10F28, 0x10F2F), (0x10F5A, 0x10F6F),
  (0x10F8A, 0x10FAF), (0x10FCC, 0x10FDF), (0x10FF7, 0x10FFF), (0x1104E, 0x11051),
  (0x11076, 0x1107E), (0x110BD, 0x110BD), (0x110C3, 0x110CF), (0x110E9, 0x110EF),
  (0x110FA, 0x110FF), (0x11135, 0x11135), (0x11148, 0x1114F), (0x11177, 0x1117F),
  (0x111E0, 0x111E0), (0x111F5, 0x111FF), (0x11212, 0x11212), (0x11242, 0x1127F),
  (0x11287, 0x11287), (0x11289, 0x11289), (0x1128E, 0x1128E), (0x1129E, 0x1129E),
  (0x112AA, 0x112AF), (0x112EB, 0x112EF), (0x112FA, 0x112FF), (0x11304, 0x11304),
  (0x1130D, 0x1130E), (0x11311, 0x11312), (0x11329, 0x11329), (0x11331, 0x11331),
  (0x11334, 0x11334), (0x1133A, 0x1133A), (0x11345, 0x11346), (0x11349, 0x1134A),
  (0x1134E, 0x1134F), (0x11351, 0x11356), (0x11358, 0x1135C), (0x11364, 0x11365),
  (0x1136D, 0x1136F), (0x11375, 0x1137F), (0x1138A, 0x1138A), (0x1138C, 0x1138D),
  (0x1138F, 0x1138F), (0x113B6, 0x113B6), (0x113C1, 0x113C1), (0x113C3, 0x113C4),
  (0x113C6, 0x113C6), (0x113CB, 0x113CB), (0x113D6, 0x113D6), (0x113D9, 0x113E0),
  (0x113E3, 0x113FF), (0x1145C, 0x1145C), (0x11462, 0x1147F), (0x114C8, 0x114CF),
  (0x114DA, 0x1157F), (0x115B6, 0x115B7), (0x115DE, 0x115FF), (0x11645, 0x1164F),
  (0x1165A, 0x1165F), (0x1166D, 0x1167F), (0x116BA, 0x116BF), (0x116CA, 0x116CF),
  (0x116E4, 0x116FF), (0x1171B, 0x1171C), (0x1172C, 0x1172F), (0x11747, 0x117FF),
  (0x1183C, 0x1189F), (0x118F3, 0x118FE), (0x11907, 0x11908), (0x1190A, 0x1190B),
  (0x11914, 0x11914), (0x11917, 0x11917), (0x11936, 0x11936), (0x11939, 0x1193A),
  (0x11947, 0x1194F), (0x1195A, 0x1199F), (0x119A8, 0x119A9), (0x119D8, 0x119D9),
  (0x119E5, 0x119FF), (0x11A48, 0x11A4F), (0x11AA3, 0x11AAF), (0x11AF9, 0x11AFF),
  (0x11B0A, 0x11B5F), (0x11B68, 0x11BBF), (0x11BE2, 0x11BEF), (0x11BFA, 0x11BFF),
  (0x11C09, 0x11C09), (0x11C37, 0x11C37), (0x11C46, 0x11C4F), (0x11C6D, 0x11C6F),
  (0x11C90, 0x11C91), (0x11CA8, 0x11CA8), (0x11CB7, 0x11CFF), (0x11D07, 0x11D07),
  (0x11D0A, 0x11D0A), (0x11D37, 0x11D39), (0x11D3B, 0x11D3B), (0x11D3E, 0x11D3E),
  (0x11D48, 0x11D4F), (0x11D5A, 0x11D5F), (0x11D66, 0x11D66), (0x11D69, 0x11D69),
  (0x11D8F, 0x11D8F), (0x11D92, 0x11D92), (0x11D99, 0x11D9F), (0x11DAA, 0x11DAF),
  (0x11DDC, 0x11DDF), (0x11DEA, 0x11EDF), (0x11EF9, 0x11EFF), (0x11F11, 0x11F11),
  (0x11F3B, 0x11F3D), (0x11F5B, 0x11FAF), (0x11FB1, 0x11FBF), (0x11FF2, 0x11FFE),
  (0x1239A, 0x123FF), (0x1246F, 0x1246F), (0x12475, 0x1247F), (0x12544, 0x12F8F),
  (0x12FF3, 0x12FFF), (0x13430, 0x1343F), (0x13456, 0x1345F), (0x143FB, 0x143FF),
  (0x14647, 0x160FF), (0x1613A, 0x167FF), (0x16A39, 0x16A3F), (0x16A5F, 0x16A5F),
  (0x16A6A, 0x16A6D), (0x16ABF, 0x16ABF), (0x16ACA, 0x16ACF), (0x16AEE, 0x16AEF),
  (0x16AF6, 0x16AFF), (0x16B46, 0x16B4F), (0x16B5A, 0x16B5A), (0x16B62, 0x16B62),
  (0x16B78, 0x16B7C), (0x16B90, 0x16D3F), (0x16D7A, 0x16E3F), (0x16E9B, 0x16E9F),
  (0x16EB9, 0x16EBA), (0x16ED4, 0x16EFF), (0x16F4B, 0x16F4E), (0x16F88, 0x16F8E),
  (0x16FA0, 0x16FDF), (0x16FE5, 0x16FEF), (0x16FF7, 0x16FFF), (0x18CD6, 0x18CFE),
  (0x18D1F, 0x18D7F), (0x18DF3, 0x1AFEF), (0x1AFF4, 0x1AFF4), (0x1AFFC, 0x1AFFC),
  (0x1AFFF, 0x1AFFF), (0x1B123, 0x1B131), (0x1B133, 0x1B14F), (0x1B153, 0x1B154),
  (0x1B156, 0x1B163), (0x1B168, 0x1B16F), (0x1B2FC, 0x1BBFF), (0x1BC6B, 0x1BC6F),
  (0x1BC7D, 0x1BC7F), (0x1BC89, 0x1BC8F), (0x1BC9A, 0x1BC9B), (0x1BCA4, 0x1CBFF),
  (0x1CCFD, 0x1CCFF), (0x1CEB4, 0x1CEB9), (0x1CED1, 0x1CEDF), (0x1CEF1, 0x1CEFF),
  (0x1CF2E, 0x1CF2F), (0x1CF47, 0x1CF4F), (0x1CFC4, 0x1CFFF), (0x1D0F6, 0x1D0FF),
  (0x1D127, 0x1D128), (0x1D1EB, 0x1D1FF), (0x1D246, 0x1D2BF), (0x1D2D4, 0x1D2DF),
  (0x1D2F4, 0x1D2FF), (0x1D357, 0x1D35F), (0x1D379, 0x1D3FF), (0x1D455, 0x1D455),
  (0x1D49D, 0x1D49D), (0x1D4A0, 0x1D4A1), (0x1D4A3, 0x1D4A4), (0x1D4A7, 0x1D4A8),
  (0x1D4AD, 0x1D4AD), (0x1D4BA, 0x1D4BA), (0x1D4BC, 0x1D4BC), (0x1D4C4, 0x1D4C4),
  (0x1D506, 0x1D506), (0x1D50B, 0x1D50C), (0x1D515, 0x1D515), (0x1D51D, 0x1D51D),
  (0x1D53A, 0x1D53A), (0x1D53F, 0x1D53F), (0x1D545, 0x1D545), (0x1D547, 0x1D549),
  (0x1D551, 0x1D551), (0x1D6A6, 0x1D6A7), (0x1D7CC, 0x1D7CD), (0x1DA8C, 0x1DA9A),
  (0x1DAA0, 0x1DAA0), (0x1DAB0, 0x1DEFF), (0x1DF1F, 0x1DF24), (0x1DF2B, 0x1DFFF),
  (0x1E007, 0x1E007), (0x1E019, 0x1E01A), (0x1E022, 0x1E022), (0x1E025, 0x1E025),
  (0x1E02B, 0x1E02F), (0x1E06E, 0x1E08E), (0x1E090, 0x1E0FF), (0x1E12D, 0x1E12F),
  (0x1E13E, 0x1E13F), (0x1E14A, 0x1E14D), (0x1E150, 0x1E28F), (0x1E2AF, 0x1E2BF),
  (0x1E2FA, 0x1E2FE), (0x1E300, 0x1E4CF), (0x1E4FA, 0x1E5CF), (0x1E5FB, 0x1E5FE),
  (0x1E600, 0x1E6BF), (0x1E6DF, 0x1E6DF), (0x1E6F6, 0x1E6FD), (0x1E700, 0x1E7DF),
  (0x1E7E7, 0x1E7E7), (0x1E7EC, 0x1E7EC), (0x1E7EF, 0x1E7EF), (0x1E7FF, 0x1E7FF),
  (0x1E8C5, 0x1E8C6), (0x1E8D7, 0x1E8FF), (0x1E94C, 0x1E94F), (0x1E95A, 0x1E95D),
  (0x1E960, 0x1EC70), (0x1ECB5, 0x1ED00), (0x1ED3E, 0x1EDFF), (0x1EE04, 0x1EE04),
  (0x1EE20, 0x1EE20), (0x1EE23, 0x1EE23), (0x1EE25, 0x1EE26), (0x1EE28, 0x1EE28),
  (0x1EE33, 0x1EE33), (0x1EE38, 0x1EE38), (0x1EE3A, 0x1EE3A), (0x1EE3C, 0x1EE41),
  (0x1EE43, 0x1EE46), (0x1EE48, 0x1EE48), (0x1EE4A, 0x1EE4A), (0x1EE4C, 0x1EE4C),
  (0x1EE50, 0x1EE50), (0x1EE53, 0x1EE53), (0x1EE55, 0x1EE56), (0x1EE58, 0x1EE58),
  (0x1EE5A, 0x1EE5A), (0x1EE5C, 0x1EE5C), (0x1EE5E, 0x1EE5E), (0x1EE60, 0x1EE60),
  (0x1EE63, 0x1EE63), (0x1EE65, 0x1EE66), (0x1EE6B, 0x1EE6B), (0x1EE73, 0x1EE73),
  (0x1EE78, 0x1EE78), (0x1EE7D, 0x1EE7D), (0x1EE7F, 0x1EE7F), (0x1EE8A, 0x1EE8A),
  (0x1EE9C, 0x1EEA0), (0x1EEA4, 0x1EEA4), (0x1EEAA, 0x1EEAA), (0x1EEBC, 0x1EEEF),
  (0x1EEF2, 0x1EFFF), (0x1F02C, 0x1F02F), (0x1F094, 0x1F09F), (0x1F0AF, 0x1F0B0),
  (0x1F0C0, 0x1F0C0), (0x1F0D0, 0x1F0D0), (0x1F0F6, 0x1F100), (0x1F1AE, 0x1F1E5),
  (0x1F203, 0x1F20F), (0x1F23C, 0x1F23F), (0x1F249, 0x1F24F), (0x1F252, 0x1F25F),
  (0x1F266, 0x1F2FF), (0x1F6D9, 0x1F6DB), (0x1F6ED, 0x1F6EF), (0x1F6FD, 0x1F6FF),
  (0x1F7DA, 0x1F7DF), (0x1F7EC, 0x1F7EF), (0x1F7F1, 0x1F7FF), (0x1F80C, 0x1F80F),
  (0x1F848, 0x1F84F), (0x1F85A, 0x1F85F), (0x1F888, 0x1F88F), (0x1F8AE, 0x1F8AF),
  (0x1F8BC, 0x1F8BF), (0x1F8C2, 0x1F8CF), (0x1F8D9, 0x1F8FF), (0x1FA58, 0x1FA5F),
  (0x1FA6E, 0x1FA6F), (0x1FA7D, 0x1FA7F), (0x1FA8B, 0x1FA8D), (0x1FAC7, 0x1FAC7),
  (0x1FAC9, 0x1FACC), (0x1FADD, 0x1FADE), (0x1FAEB, 0x1FAEE), (0x1FAF9, 0x1FAFF),
  (0x1FB93, 0x1FB93), (0x1FBFB, 0x1FFFF), (0x2A6E0, 0x2A6FF), (0x2B81E, 0x2B81F),
  (0x2CEAE, 0x2CEAF), (0x2EBE1, 0x2EBEF), (0x2EE5E, 0x2F7FF), (0x2FA1E, 0x2FFFF),
  (0x3134B, 0x3134F), (0x3347A, 0xE00FF), (0xE01F0, 0x10FFFF)]

/-- Characters that are dropped. -/
def droppedRanges : List (Nat × Nat) := [
  (0xAD, 0xAD), (0x34F, 0x34F), (0x115F, 0x1160), (0x17B4, 0x17B5), (0x180B, 0x180F),
  (0x200B, 0x200B), (0x2060, 0x2064), (0x206A, 0x206F), (0x3164, 0x3164), (0xFE00, 0xFE0F),
  (0xFEFF, 0xFEFF), (0xFFA0, 0xFFA0), (0x1BCA0, 0x1BCA3), (0x1D173, 0x1D17A), (0xE0100, 0xE01EF)]

/-- Ranges of characters that stand for others at a constant distance, with
the character that the first one stands for. -/
def shiftedRanges : List (Nat × Nat × Nat) := [
  (0xA0, 0xA0, 0x20), (0xC0, 0xD6, 0xE0), (0x391, 0x3A1, 0x3B1), (0x3A3, 0x3AB, 0x3C3),
  (0x400, 0x40F, 0x450), (0x410, 0x42F, 0x430), (0x531, 0x556, 0x561), (0x10A0, 0x10C5, 0x2D00),
  (0x1C90, 0x1CBA, 0x10D0), (0x1D33, 0x1D3A, 0x67), (0x1F08, 0x1F0F, 0x1F00),
  (0x1F28, 0x1F2F, 0x1F20), (0x1F38, 0x1F3F, 0x1F30), (0x1F68, 0x1F6F, 0x1F60),
  (0x1FEF, 0x1FEF, 0x60), (0x2000, 0x2000, 0x20), (0x2001, 0x2001, 0x20), (0x2002, 0x2002, 0x20),
  (0x2003, 0x2003, 0x20), (0x2004, 0x2004, 0x20), (0x2005, 0x2005, 0x20), (0x2006, 0x2006, 0x20),
  (0x2007, 0x2007, 0x20), (0x2008, 0x2008, 0x20), (0x2009, 0x2009, 0x20), (0x200A, 0x200A, 0x20),
  (0x202F, 0x202F, 0x20), (0x205F, 0x205F, 0x20), (0x2080, 0x2089, 0x30), (0x2460, 0x2468, 0x31),
  (0x24B6, 0x24CF, 0x61), (0x24D0, 0x24E9, 0x61), (0x2C00, 0x2C2F, 0x2C30),
  (0x3000, 0x3000, 0x20), (0x3145, 0x314E, 0x1109), (0x314F, 0x3163, 0x1161),
  (0xAB70, 0xABBF, 0x13A0), (0xFE37, 0xFE37, 0x7B), (0xFE38, 0xFE38, 0x7D),
  (0xFE5B, 0xFE5B, 0x7B), (0xFE5C, 0xFE5C, 0x7D), (0xFE68, 0xFE68, 0x5C), (0xFF01, 0xFF20, 0x21),
  (0xFF21, 0xFF3A, 0x61), (0xFF3B, 0xFF5E, 0x5B), (0xFFB5, 0xFFBE, 0x1109),
  (0x10400, 0x10427, 0x10428), (0x104B0, 0x104D3, 0x104D8), (0x10570, 0x1057A, 0x10597),
  (0x1057C, 0x1058A, 0x105A3), (0x10C80, 0x10CB2, 0x10CC0), (0x10D50, 0x10D65, 0x10D70),
  (0x118A0, 0x118BF, 0x118C0), (0x16E40, 0x16E5F, 0x16E60), (0x16EA0, 0x16EB8, 0x16EBB),
  (0x1CCD6, 0x1CCEF, 0x61), (0x1CCF0, 0x1CCF9, 0x30), (0x1D400, 0x1D419, 0x61),
  (0x1D41A, 0x1D433, 0x61), (0x1D434, 0x1D44D, 0x61), (0x1D456, 0x1D467, 0x69),
  (0x1D468, 0x1D481, 0x61), (0x1D482, 0x1D49B, 0x61), (0x1D4AE, 0x1D4B5, 0x73),
  (0x1D4C5, 0x1D4CF, 0x70), (0x1D4D0, 0x1D4E9, 0x61), (0x1D4EA, 0x1D503, 0x61),
  (0x1D50D, 0x1D514, 0x6A), (0x1D51E, 0x1D537, 0x61), (0x1D552, 0x1D56B, 0x61),
  (0x1D56C, 0x1D585, 0x61), (0x1D586, 0x1D59F, 0x61), (0x1D5A0, 0x1D5B9, 0x61),
  (0x1D5BA, 0x1D5D3, 0x61), (0x1D5D4, 0x1D5ED, 0x61), (0x1D5EE, 0x1D607, 0x61),
  (0x1D608, 0x1D621, 0x61), (0x1D622, 0x1D63B, 0x61), (0x1D63C, 0x1D655, 0x61),
  (0x1D656, 0x1D66F, 0x61), (0x1D670, 0x1D689, 0x61), (0x1D68A, 0x1D6A3, 0x61),
  (0x1D6A8, 0x1D6B8, 0x3B1), (0x1D6C2, 0x1D6D2, 0x3B1), (0x1D6E2, 0x1D6F2, 0x3B1),
  (0x1D6FC, 0x1D70C, 0x3B1), (0x1D71C, 0x1D72C, 0x3B1), (0x1D736, 0x1D746, 0x3B1),
  (0x1D756, 0x1D766, 0x3B1), (0x1D770, 0x1D780, 0x3B1), (0x1D790, 0x1D7A0, 0x3B1),
  (0x1D7AA, 0x1D7BA, 0x3B1), (0x1D7CE, 0x1D7D7, 0x30), (0x1D7D8, 0x1D7E1, 0x30),
  (0x1D7E2, 0x1D7EB, 0x30), (0x1D7EC, 0x1D7F5, 0x30), (0x1D7F6, 0x1D7FF, 0x30),
  (0x1E030, 0x1E038, 0x430), (0x1E03C, 0x1E046, 0x43E), (0x1E051, 0x1E059, 0x430),
  (0x1E900, 0x1E921, 0x1E922), (0x1F130, 0x1F149, 0x61), (0x1FBF0, 0x1FBF9, 0x30)]

/-- The same for every other character of a range. -/
def alternateRanges : List (Nat × Nat × Nat) := [
  (0x100, 0x12E, 0x101), (0x141, 0x147, 0x142), (0x14A, 0x176, 0x14B), (0x1CD, 0x1DB, 0x1CE),
  (0x1DE, 0x1EE, 0x1DF), (0x1F8, 0x21E, 0x1F9), (0x222, 0x232, 0x223), (0x246, 0x24E, 0x247),
  (0x3D8, 0x3EE, 0x3D9), (0x460, 0x480, 0x461), (0x48A, 0x4BE, 0x48B), (0x4C1, 0x4CD, 0x4C2),
  (0x4D0, 0x52E, 0x4D1), (0x1E00, 0x1E94, 0x1E01), (0x1EA0, 0x1EFE, 0x1EA1),
  (0x1F59, 0x1F5F, 0x1F51), (0x2C80, 0x2CE2, 0x2C81), (0xA640, 0xA66C, 0xA641),
  (0xA680, 0xA69A, 0xA681), (0xA722, 0xA72E, 0xA723), (0xA732, 0xA76E, 0xA733),
  (0xA77E, 0xA786, 0xA77F), (0xA796, 0xA7A8, 0xA797), (0xA7B4, 0xA7C2, 0xA7B5),
  (0xA7CC, 0xA7DA, 0xA7CD)]

/-- Characters that stand for others one by one: each word is a character and
what it stands for, with `␣` for a blank. -/
def mappedWords : List String := [
  "¨␣̈ ªa ¯␣̄ ²2 ³3 ´␣́ µμ ¸␣̧ ¹1 ºo ¼1⁄4 ½1⁄2 ¾3⁄4 Øø Ùù Úú Ûû Üü Ýý Þþ İi̇",
  "Ĳij ĳij Ĵĵ Ķķ Ĺĺ Ļļ Ľľ Ŀl· ŀl· ŉʼn Ÿÿ Źź Żż Žž ſs Ɓɓ Ƃƃ Ƅƅ Ɔɔ Ƈƈ Ɖɖ Ɗɗ Ƌƌ",
  "Ǝǝ Əə Ɛɛ Ƒƒ Ɠɠ Ɣɣ Ɩɩ Ɨɨ Ƙƙ Ɯɯ Ɲɲ Ɵɵ Ơơ Ƣƣ Ƥƥ Ʀʀ Ƨƨ Ʃʃ Ƭƭ Ʈʈ Ưư Ʊʊ Ʋʋ Ƴƴ Ƶƶ",
  "Ʒʒ Ƹƹ Ƽƽ Ǆdž ǅdž ǆdž Ǉlj ǈlj ǉlj Ǌnj ǋnj ǌnj Ǳdz ǲdz ǳdz Ǵǵ Ƕƕ Ƿƿ Ƞƞ Ⱥⱥ Ȼȼ",
  "Ƚƚ Ⱦⱦ Ɂɂ Ƀƀ Ʉʉ Ʌʌ ʰh ʱɦ ʲj ʳr ʴɹ ʵɻ ʶʁ ʷw ʸy ˘␣̆ ˙␣̇ ˚␣̊ ˛␣̨ ˜␣̃ ˝␣̋ ˠɣ ˡl",
  "ˢs ˣx ˤʕ ̀̀ ́́ ̓̓ ̈́̈́ ͅι Ͱͱ Ͳͳ ʹʹ Ͷͷ ͺ␣ι ;; Ϳϳ ΄␣́ ΅␣̈́ Άά ·· Έέ Ήή Ίί Όό",
  "Ύύ Ώώ Ϗϗ ϐβ ϑθ ϒυ ϓύ ϔϋ ϕφ ϖπ ϰκ ϱρ ϲσ ϴθ ϵε Ϸϸ Ϲσ Ϻϻ Ͻͻ Ͼͼ Ͽͽ Ӏӏ ևեւ ٵاٴ",
  "ٶوٴ ٷۇٴ ٸيٴ क़क़ ख़ख़ ग़ग़ ज़ज़ ड़ड़ ढ़ढ़ फ़फ़ य़य़ ড়ড় ঢ়ঢ় য়য় ਲ਼ਲ਼ ਸ਼ਸ਼ ਖ਼ਖ਼ ਗ਼ਗ਼ ਜ਼ਜ਼",
  "ਫ਼ਫ਼ ଡ଼ଡ଼ ଢ଼ଢ଼ ำํา ຳໍາ ໜຫນ ໝຫມ ༌་ གྷགྷ ཌྷཌྷ དྷདྷ བྷབྷ ཛྷཛྷ ཀྵཀྵ ཱཱིི ཱཱུུ ྲྀྲྀ ཷྲཱྀ ླྀླྀ",
  "ཹླཱྀ ཱཱྀྀ ྒྷྒྷ ྜྷྜྷ ྡྷྡྷ ྦྷྦྷ ྫྷྫྷ ྐྵྐྵ Ⴧⴧ Ⴭⴭ ჼნ ᏸᏰ ᏹᏱ ᏺᏲ ᏻᏳ ᏼᏴ ᏽᏵ ᲀв ᲁд ᲂо ᲃс ᲄт",
  "ᲅт ᲆъ ᲇѣ ᲈꙋ Ᲊᲊ Ჽჽ Ჾჾ Ჿჿ ᴬa ᴭæ ᴮb ᴰd ᴱe ᴲǝ ᴼo ᴽȣ ᴾp ᴿr ᵀt ᵁu ᵂw ᵃa ᵄɐ ᵅɑ ᵆᴂ",
  "ᵇb ᵈd ᵉe ᵊə ᵋɛ ᵌɜ ᵍg ᵏk ᵐm ᵑŋ ᵒo ᵓɔ ᵔᴖ ᵕᴗ ᵖp ᵗt ᵘu ᵙᴝ ᵚɯ ᵛv ᵜᴥ ᵝβ ᵞγ ᵟδ ᵠφ",
  "ᵡχ ᵢi ᵣr ᵤu ᵥv ᵦβ ᵧγ ᵨρ ᵩφ ᵪχ ᵸн ᶛɒ ᶜc ᶝɕ ᶞð ᶟɜ ᶠf ᶡɟ ᶢɡ ᶣɥ ᶤɨ ᶥɩ ᶦɪ ᶧᵻ ᶨʝ",
  "ᶩɭ ᶪᶅ ᶫʟ ᶬɱ ᶭɰ ᶮɲ ᶯɳ ᶰɴ ᶱɵ ᶲɸ ᶳʂ ᶴʃ ᶵƫ ᶶʉ ᶷʊ ᶸᴜ ᶹʋ ᶺʌ ᶻz ᶼʐ ᶽʑ ᶾʒ ᶿθ ẚaʾ ẛṡ",
  "ẞß Ἐἐ Ἑἑ Ἒἒ Ἓἓ Ἔἔ Ἕἕ Ὀὀ Ὁὁ Ὂὂ Ὃὃ Ὄὄ Ὅὅ άά έέ ήή ίί όό ύύ ώώ ᾀἀι ᾁἁι ᾂἂι ᾃἃι",
  "ᾄἄι ᾅἅι ᾆἆι ᾇἇι ᾈἀι ᾉἁι ᾊἂι ᾋἃι ᾌἄι ᾍἅι ᾎἆι ᾏἇι ᾐἠι ᾑἡι ᾒἢι ᾓἣι ᾔἤι ᾕἥι ᾖἦι",
  "ᾗἧι ᾘἠι ᾙἡι ᾚἢι ᾛἣι ᾜἤι ᾝἥι ᾞἦι ᾟἧι ᾠὠι ᾡὡι ᾢὢι ᾣὣι ᾤὤι ᾥὥι ᾦὦι ᾧὧι ᾨὠι ᾩὡι",
  "ᾪὢι ᾫὣι ᾬὤι ᾭὥι ᾮὦι ᾯὧι ᾲὰι ᾳαι ᾴάι ᾷᾶι Ᾰᾰ Ᾱᾱ Ὰὰ Άά ᾼαι ᾽␣̓ ιι ᾿␣̓ ῀␣͂ ῁␣̈͂",
  "ῂὴι ῃηι ῄήι ῇῆι Ὲὲ Έέ Ὴὴ Ήή ῌηι ῍␣̓̀ ῎␣̓́ ῏␣̓͂ ΐΐ Ῐῐ Ῑῑ Ὶὶ Ίί ῝␣̔̀ ῞␣̔́",
  "῟␣̔͂ ΰΰ Ῠῠ Ῡῡ Ὺὺ Ύύ Ῥῥ ῭␣̈̀ ΅␣̈́ ῲὼι ῳωι ῴώι ῷῶι Ὸὸ Όό Ὼὼ Ώώ ῼωι ´␣́ ῾␣̔ ‑‐",
  "‗␣̳ ″′′ ‴′′′ ‶‵‵ ‷‵‵‵ ‼!! ‾␣̅ ⁇?? ⁈?! ⁉!? ⁗′′′′ ⁰0 ⁱi ⁴4 ⁵5 ⁶6 ⁷7 ⁸8 ⁹9 ⁺+",
  "⁻− ⁼= ⁽( ⁾) ⁿn ₊+ ₋− ₌= ₍( ₎) ₐa ₑe ₒo ₓx ₔə ₕh ₖk ₗl ₘm ₙn ₚp ₛs ₜt ₨rs",
  "℀a/c ℁a/s ℂc ℃°c ℅c/o ℆c/u ℇɛ ℉°f ℊg ℋh ℌh ℍh ℎh ℏħ ℐi ℑi ℒl ℓl ℕn №no ℙp",
  "ℚq ℛr ℜr ℝr ℠sm ℡tel ™tm ℤz Ωω ℨz Kk Åå ℬb ℭc ℯe ℰe ℱf Ⅎⅎ ℳm ℴo ℵא ℶב ℷג ℸד",
  "ℹi ℻fax ℼπ ℽγ ℾγ ℿπ ⅀∑ ⅅd ⅆd ⅇe ⅈi ⅉj ⅐1⁄7 ⅑1⁄9 ⅒1⁄10 ⅓1⁄3 ⅔2⁄3 ⅕1⁄5 ⅖2⁄5",
  "⅗3⁄5 ⅘4⁄5 ⅙1⁄6 ⅚5⁄6 ⅛1⁄8 ⅜3⁄8 ⅝5⁄8 ⅞7⁄8 ⅟1⁄ Ⅰi Ⅱii Ⅲiii Ⅳiv Ⅴv Ⅵvi Ⅶvii",
  "Ⅷviii Ⅸix Ⅹx Ⅺxi Ⅻxii Ⅼl Ⅽc Ⅾd Ⅿm ⅰi ⅱii ⅲiii ⅳiv ⅴv ⅵvi ⅶvii ⅷviii ⅸix ⅹx",
  "ⅺxi ⅻxii ⅼl ⅽc ⅾd ⅿm Ↄↄ ↉0⁄3 ∬∫∫ ∭∫∫∫ ∯∮∮ ∰∮∮∮ 〈〈 〉〉 ⑩10 ⑪11 ⑫12 ⑬13 ⑭14",
  "⑮15 ⑯16 ⑰17 ⑱18 ⑲19 ⑳20 ⑴(1) ⑵(2) ⑶(3) ⑷(4) ⑸(5) ⑹(6) ⑺(7) ⑻(8) ⑼(9) ⑽(10)",
  "⑾(11) ⑿(12) ⒀(13) ⒁(14) ⒂(15) ⒃(16) ⒄(17) ⒅(18) ⒆(19) ⒇(20) ⒜(a) ⒝(b) ⒞(c)",
  "⒟(d) ⒠(e) ⒡(f) ⒢(g) ⒣(h) ⒤(i) ⒥(j) ⒦(k) ⒧(l) ⒨(m) ⒩(n) ⒪(o) ⒫(p) ⒬(q) ⒭(r)",
  "⒮(s) ⒯(t) ⒰(u) ⒱(v) ⒲(w) ⒳(x) ⒴(y) ⒵(z) ⓪0 ⨌∫∫∫∫ ⩴::= ⩵== ⩶=== ⫝̸⫝̸ Ⱡⱡ Ɫɫ Ᵽᵽ",
  "Ɽɽ Ⱨⱨ Ⱪⱪ Ⱬⱬ Ɑɑ Ɱɱ Ɐɐ Ɒɒ Ⱳⱳ Ⱶⱶ ⱼj ⱽv Ȿȿ Ɀɀ Ⳬⳬ Ⳮⳮ Ⳳⳳ ⵯⵡ ⺟母 ⻳龟 ⼀一 ⼁丨 ⼂丶 ⼃丿 ⼄乙",
  "⼅亅 ⼆二 ⼇亠 ⼈人 ⼉儿 ⼊入 ⼋八 ⼌冂 ⼍冖 ⼎冫 ⼏几 ⼐凵 ⼑刀 ⼒力 ⼓勹 ⼔匕 ⼕匚 ⼖匸 ⼗十 ⼘卜 ⼙卩 ⼚厂 ⼛厶 ⼜又 ⼝口",
  "⼞囗 ⼟土 ⼠士 ⼡夂 ⼢夊 ⼣夕 ⼤大 ⼥女 ⼦子 ⼧宀 ⼨寸 ⼩小 ⼪尢 ⼫尸 ⼬屮 ⼭山 ⼮巛 ⼯工 ⼰己 ⼱巾 ⼲干 ⼳幺 ⼴广 ⼵廴 ⼶廾",
  "⼷弋 ⼸弓 ⼹彐 ⼺彡 ⼻彳 ⼼心 ⼽戈 ⼾戶 ⼿手 ⽀支 ⽁攴 ⽂文 ⽃斗 ⽄斤 ⽅方 ⽆无 ⽇日 ⽈曰 ⽉月 ⽊木 ⽋欠 ⽌止 ⽍歹 ⽎殳 ⽏毋",
  "⽐比 ⽑毛 ⽒氏 ⽓气 ⽔水 ⽕火 ⽖爪 ⽗父 ⽘爻 ⽙爿 ⽚片 ⽛牙 ⽜牛 ⽝犬 ⽞玄 ⽟玉 ⽠瓜 ⽡瓦 ⽢甘 ⽣生 ⽤用 ⽥田 ⽦疋 ⽧疒 ⽨癶",
  "⽩白 ⽪皮 ⽫皿 ⽬目 ⽭矛 ⽮矢 ⽯石 ⽰示 ⽱禸 ⽲禾 ⽳穴 ⽴立 ⽵竹 ⽶米 ⽷糸 ⽸缶 ⽹网 ⽺羊 ⽻羽 ⽼老 ⽽而 ⽾耒 ⽿耳 ⾀聿 ⾁肉",
  "⾂臣 ⾃自 ⾄至 ⾅臼 ⾆舌 ⾇舛 ⾈舟 ⾉艮 ⾊色 ⾋艸 ⾌虍 ⾍虫 ⾎血 ⾏行 ⾐衣 ⾑襾 ⾒見 ⾓角 ⾔言 ⾕谷 ⾖豆 ⾗豕 ⾘豸 ⾙貝 ⾚赤",
  "⾛走 ⾜足 ⾝身 ⾞車 ⾟辛 ⾠辰 ⾡辵 ⾢邑 ⾣酉 ⾤釆 ⾥里 ⾦金 ⾧長 ⾨門 ⾩阜 ⾪隶 ⾫隹 ⾬雨 ⾭靑 ⾮非 ⾯面 ⾰革 ⾱韋 ⾲韭 ⾳音",
  "⾴頁 ⾵風 ⾶飛 ⾷食 ⾸首 ⾹香 ⾺馬 ⾻骨 ⾼高 ⾽髟 ⾾鬥 ⾿鬯 ⿀鬲 ⿁鬼 ⿂魚 ⿃鳥 ⿄鹵 ⿅鹿 ⿆麥 ⿇麻 ⿈黃 ⿉黍 ⿊黑 ⿋黹 ⿌黽",
  "⿍鼎 ⿎鼓 ⿏鼠 ⿐鼻 ⿑齊 ⿒齒 ⿓龍 ⿔龜 ⿕龠 。. 〶〒 〸十 〹卄 〺卅 ゛␣゙ ゜␣゚ ゟより ヿコト ㄱᄀ ㄲᄁ ㄳᆪ ㄴᄂ ㄵᆬ ㄶᆭ",
  "ㄷᄃ ㄸᄄ ㄹᄅ ㄺᆰ ㄻᆱ ㄼᆲ ㄽᆳ ㄾᆴ ㄿᆵ ㅀᄚ ㅁᄆ ㅂᄇ ㅃᄈ ㅄᄡ ㅥᄔ ㅦᄕ ㅧᇇ ㅨᇈ ㅩᇌ ㅪᇎ ㅫᇓ ㅬᇗ ㅭᇙ ㅮᄜ ㅯᇝ",
  "ㅰᇟ ㅱᄝ ㅲᄞ ㅳᄠ ㅴᄢ ㅵᄣ ㅶᄧ ㅷᄩ ㅸᄫ ㅹᄬ ㅺᄭ ㅻᄮ ㅼᄯ ㅽᄲ ㅾᄶ ㅿᅀ ㆀᅇ ㆁᅌ ㆂᇱ ㆃᇲ ㆄᅗ ㆅᅘ ㆆᅙ ㆇᆄ ㆈᆅ",
  "ㆉᆈ ㆊᆑ ㆋᆒ ㆌᆔ ㆍᆞ ㆎᆡ ㆒一 ㆓二 ㆔三 ㆕四 ㆖上 ㆗中 ㆘下 ㆙甲 ㆚乙 ㆛丙 ㆜丁 ㆝天 ㆞地 ㆟人 ㈀(ᄀ) ㈁(ᄂ) ㈂(ᄃ)",
  "㈃(ᄅ) ㈄(ᄆ) ㈅(ᄇ) ㈆(ᄉ) ㈇(ᄋ) ㈈(ᄌ) ㈉(ᄎ) ㈊(ᄏ) ㈋(ᄐ) ㈌(ᄑ) ㈍(ᄒ) ㈎(가) ㈏(나) ㈐(다) ㈑(라)",
  "㈒(마) ㈓(바) ㈔(사) ㈕(아) ㈖(자) ㈗(차) ㈘(카) ㈙(타) ㈚(파) ㈛(하) ㈜(주) ㈝(오전) ㈞(오후) ㈠(一)",
  "㈡(二) ㈢(三) ㈣(四) ㈤(五) ㈥(六) ㈦(七) ㈧(八) ㈨(九) ㈩(十) ㈪(月) ㈫(火) ㈬(水) ㈭(木) ㈮(金) ㈯(土)",
  "㈰(日) ㈱(株) ㈲(有) ㈳(社) ㈴(名) ㈵(特) ㈶(財) ㈷(祝) ㈸(労) ㈹(代) ㈺(呼) ㈻(学) ㈼(監) ㈽(企) ㈾(資)",
  "㈿(協) ㉀(祭) ㉁(休) ㉂(自) ㉃(至) ㉄問 ㉅幼 ㉆文 ㉇箏 ㉐pte ㉑21 ㉒22 ㉓23 ㉔24 ㉕25 ㉖26 ㉗27 ㉘28",
  "㉙29 ㉚30 ㉛31 ㉜32 ㉝33 ㉞34 ㉟35 ㉠ᄀ ㉡ᄂ ㉢ᄃ ㉣ᄅ ㉤ᄆ ㉥ᄇ ㉦ᄉ ㉧ᄋ ㉨ᄌ ㉩ᄎ ㉪ᄏ ㉫ᄐ ㉬ᄑ ㉭ᄒ ㉮가 ㉯나",
  "㉰다 ㉱라 ㉲마 ㉳바 ㉴사 ㉵아 ㉶자 ㉷차 ㉸카 ㉹타 ㉺파 ㉻하 ㉼참고 ㉽주의 ㉾우 ㊀一 ㊁二 ㊂三 ㊃四 ㊄五 ㊅六 ㊆七 ㊇八 ㊈九",
  "㊉十 ㊊月 ㊋火 ㊌水 ㊍木 ㊎金 ㊏土 ㊐日 ㊑株 ㊒有 ㊓社 ㊔名 ㊕特 ㊖財 ㊗祝 ㊘労 ㊙秘 ㊚男 ㊛女 ㊜適 ㊝優 ㊞印 ㊟注 ㊠項 ㊡休",
  "㊢写 ㊣正 ㊤上 ㊥中 ㊦下 ㊧左 ㊨右 ㊩医 ㊪宗 ㊫学 ㊬監 ㊭企 ㊮資 ㊯協 ㊰夜 ㊱36 ㊲37 ㊳38 ㊴39 ㊵40 ㊶41 ㊷42",
  "㊸43 ㊹44 ㊺45 ㊻46 ㊼47 ㊽48 ㊾49 ㊿50 ㋀1月 ㋁2月 ㋂3月 ㋃4月 ㋄5月 ㋅6月 ㋆7月 ㋇8月 ㋈9月 ㋉10月",
  "㋊11月 ㋋12月 ㋌hg ㋍erg ㋎ev ㋏ltd ㋐ア ㋑イ ㋒ウ ㋓エ ㋔オ ㋕カ ㋖キ ㋗ク ㋘ケ ㋙コ ㋚サ ㋛シ ㋜ス ㋝セ ㋞ソ ㋟タ",
  "㋠チ ㋡ツ ㋢テ ㋣ト ㋤ナ ㋥ニ ㋦ヌ ㋧ネ ㋨ノ ㋩ハ ㋪ヒ ㋫フ ㋬ヘ ㋭ホ ㋮マ ㋯ミ ㋰ム ㋱メ ㋲モ ㋳ヤ ㋴ユ ㋵ヨ ㋶ラ ㋷リ ㋸ル",
  "㋹レ ㋺ロ ㋻ワ ㋼ヰ ㋽ヱ ㋾ヲ ㋿令和 ㌀アパート ㌁アルファ ㌂アンペア ㌃アール ㌄イニング ㌅インチ ㌆ウォン ㌇エスクード ㌈エーカー",
  "㌉オンス ㌊オーム ㌋カイリ ㌌カラット ㌍カロリー ㌎ガロン ㌏ガンマ ㌐ギガ ㌑ギニー ㌒キュリー ㌓ギルダー ㌔キロ ㌕キログラム",
  "㌖キロメートル ㌗キロワット ㌘グラム ㌙グラムトン ㌚クルゼイロ ㌛クローネ ㌜ケース ㌝コルナ ㌞コーポ ㌟サイクル ㌠サンチーム ㌡シリング",
  "㌢センチ ㌣セント ㌤ダース ㌥デシ ㌦ドル ㌧トン ㌨ナノ ㌩ノット ㌪ハイツ ㌫パーセント ㌬パーツ ㌭バーレル ㌮ピアストル ㌯ピクル ㌰ピコ",
  "㌱ビル ㌲ファラッド ㌳フィート ㌴ブッシェル ㌵フラン ㌶ヘクタール ㌷ペソ ㌸ペニヒ ㌹ヘルツ ㌺ペンス ㌻ページ ㌼ベータ ㌽ポイント ㌾ボルト",
  "㌿ホン ㍀ポンド ㍁ホール ㍂ホーン ㍃マイクロ ㍄マイル ㍅マッハ ㍆マルク ㍇マンション ㍈ミクロン ㍉ミリ ㍊ミリバール ㍋メガ ㍌メガトン",
  "㍍メートル ㍎ヤード ㍏ヤール ㍐ユアン ㍑リットル ㍒リラ ㍓ルピー ㍔ルーブル ㍕レム ㍖レントゲン ㍗ワット ㍘0点 ㍙1点 ㍚2点 ㍛3点",
  "㍜4点 ㍝5点 ㍞6点 ㍟7点 ㍠8点 ㍡9点 ㍢10点 ㍣11点 ㍤12点 ㍥13点 ㍦14点 ㍧15点 ㍨16点 ㍩17点 ㍪18点 ㍫19点",
  "㍬20点 ㍭21点 ㍮22点 ㍯23点 ㍰24点 ㍱hpa ㍲da ㍳au ㍴bar ㍵ov ㍶pc ㍷dm ㍸dm2 ㍹dm3 ㍺iu ㍻平成",
  "㍼昭和 ㍽大正 ㍾明治 ㍿株式会社 ㎀pa ㎁na ㎂μa ㎃ma ㎄ka ㎅kb ㎆mb ㎇gb ㎈cal ㎉kcal ㎊pf ㎋nf ㎌μf",
  "㎍μg ㎎mg ㎏kg ㎐hz ㎑khz ㎒mhz ㎓ghz ㎔thz ㎕μl ㎖ml ㎗dl ㎘kl ㎙fm ㎚nm ㎛μm ㎜mm ㎝cm ㎞km",
  "㎟mm2 ㎠cm2 ㎡m2 ㎢km2 ㎣mm3 ㎤cm3 ㎥m3 ㎦km3 ㎧m∕s ㎨m∕s2 ㎩pa ㎪kpa ㎫mpa ㎬gpa ㎭rad",
  "㎮rad∕s ㎯rad∕s2 ㎰ps ㎱ns ㎲μs ㎳ms ㎴pv ㎵nv ㎶μv ㎷mv ㎸kv ㎹mv ㎺pw ㎻nw ㎼μw ㎽mw ㎾kw",
  "㎿mw ㏀kω ㏁mω ㏃bq ㏄cc ㏅cd ㏆c∕kg ㏈db ㏉gy ㏊ha ㏋hp ㏌in ㏍kk ㏎km ㏏kt ㏐lm ㏑ln ㏒log",
  "㏓lx ㏔mb ㏕mil ㏖mol ㏗ph ㏙ppm ㏚pr ㏛sr ㏜sv ㏝wb ㏞v∕m ㏟a∕m ㏠1日 ㏡2日 ㏢3日 ㏣4日 ㏤5日",
  "㏥6日 ㏦7日 ㏧8日 ㏨9日 ㏩10日 ㏪11日 ㏫12日 ㏬13日 ㏭14日 ㏮15日 ㏯16日 ㏰17日 ㏱18日 ㏲19日 ㏳20日 ㏴21日",
  "㏵22日 ㏶23日 ㏷24日 ㏸25日 ㏹26日 ㏺27日 ㏻28日 ㏼29日 ㏽30日 ㏾31日 ㏿gal ꚜъ ꚝь ꝰꝯ Ꝺꝺ Ꝼꝼ Ᵹᵹ Ꞌꞌ",
  "Ɥɥ Ꞑꞑ Ꞓꞓ Ɦɦ Ɜɜ Ɡɡ Ɬɬ Ɪɪ Ʞʞ Ʇʇ Ʝʝ Ꭓꭓ Ꞔꞔ Ʂʂ Ᶎᶎ Ꟈꟈ Ꟊꟊ Ɤɤ Ƛƛ ꟱s ꟲc ꟳf ꟴq Ꟶꟶ ꟸħ",
  "ꟹœ ꭜꜧ ꭝꬷ ꭞɫ ꭟꭒ ꭩʍ 豈豈 更更 車車 賈賈 滑滑 串串 句句 龜龜 龜龜 契契 金金 喇喇 奈奈 懶懶 癩癩 羅羅 蘿蘿 螺螺 裸裸",
  "邏邏 樂樂 洛洛 烙烙 珞珞 落落 酪酪 駱駱 亂亂 卵卵 欄欄 爛爛 蘭蘭 鸞鸞 嵐嵐 濫濫 藍藍 襤襤 拉拉 臘臘 蠟蠟 廊廊 朗朗 浪浪 狼狼",
  "郎郎 來來 冷冷 勞勞 擄擄 櫓櫓 爐爐 盧盧 老老 蘆蘆 虜虜 路路 露露 魯魯 鷺鷺 碌碌 祿祿 綠綠 菉菉 錄錄 鹿鹿 論論 壟壟 弄弄 籠籠",
  "聾聾 牢牢 磊磊 賂賂 雷雷 壘壘 屢屢 樓樓 淚淚 漏漏 累累 縷縷 陋陋 勒勒 肋肋 凜凜 凌凌 稜稜 綾綾 菱菱 陵陵 讀讀 拏拏 樂樂 諾諾",
  "丹丹 寧寧 怒怒 率率 異異 北北 磻磻 便便 復復 不不 泌泌 數數 索索 參參 塞塞 省省 葉葉 說說 殺殺 辰辰 沈沈 拾拾 若若 掠掠 略略",
  "亮亮 兩兩 凉凉 梁梁 糧糧 良良 諒諒 量量 勵勵 呂呂 女女 廬廬 旅旅 濾濾 礪礪 閭閭 驪驪 麗麗 黎黎 力力 曆曆 歷歷 轢轢 年年 憐憐",
  "戀戀 撚撚 漣漣 煉煉 璉璉 秊秊 練練 聯聯 輦輦 蓮蓮 連連 鍊鍊 列列 劣劣 咽咽 烈烈 裂裂 說說 廉廉 念念 捻捻 殮殮 簾簾 獵獵 令令",
  "囹囹 寧寧 嶺嶺 怜怜 玲玲 瑩瑩 羚羚 聆聆 鈴鈴 零零 靈靈 領領 例例 禮禮 醴醴 隸隸 惡惡 了了 僚僚 寮寮 尿尿 料料 樂樂 燎燎 療療",
  "蓼蓼 遼遼 龍龍 暈暈 阮阮 劉劉 杻杻 柳柳 流流 溜溜 琉琉 留留 硫硫 紐紐 類類 六六 戮戮 陸陸 倫倫 崙崙 淪淪 輪輪 律律 慄慄 栗栗",
  "率率 隆隆 利利 吏吏 履履 易易 李李 梨梨 泥泥 理理 痢痢 罹罹 裏裏 裡裡 里里 離離 匿匿 溺溺 吝吝 燐燐 璘璘 藺藺 隣隣 鱗鱗 麟麟",
  "林林 淋淋 臨臨 立立 笠笠 粒粒 狀狀 炙炙 識識 什什 茶茶 刺刺 切切 度度 拓拓 糖糖 宅宅 洞洞 暴暴 輻輻 行行 降降 見見 廓廓 兀兀",
  "嗀嗀 塚塚 晴晴 凞凞 猪猪 益益 礼礼 神神 祥祥 福福 靖靖 精精 羽羽 蘒蘒 諸諸 逸逸 都都 飯飯 飼飼 館館 鶴鶴 郞郞 隷隷 侮侮 僧僧",
  "免免 勉勉 勤勤 卑卑 喝喝 嘆嘆 器器 塀塀 墨墨 層層 屮屮 悔悔 慨慨 憎憎 懲懲 敏敏 既既 暑暑 梅梅 海海 渚渚 漢漢 煮煮 爫爫 琢琢",
  "碑碑 社社 祉祉 祈祈 祐祐 祖祖 祝祝 禍禍 禎禎 穀穀 突突 節節 練練 縉縉 繁繁 署署 者者 臭臭 艹艹 艹艹 著著 褐褐 視視 謁謁 謹謹",
  "賓賓 贈贈 辶辶 逸逸 難難 響響 頻頻 恵恵 𤋮𤋮 舘舘 並並 况况 全全 侀侀 充充 冀冀 勇勇 勺勺 喝喝 啕啕 喙喙 嗢嗢 塚塚 墳墳 奄奄",
  "奔奔 婢婢 嬨嬨 廒廒 廙廙 彩彩 徭徭 惘惘 慎慎 愈愈 憎憎 慠慠 懲懲 戴戴 揄揄 搜搜 摒摒 敖敖 晴晴 朗朗 望望 杖杖 歹歹 殺殺 流流",
  "滛滛 滋滋 漢漢 瀞瀞 煮煮 瞧瞧 爵爵 犯犯 猪猪 瑱瑱 甆甆 画画 瘝瘝 瘟瘟 益益 盛盛 直直 睊睊 着着 磌磌 窱窱 節節 类类 絛絛 練練",
  "缾缾 者者 荒荒 華華 蝹蝹 襁襁 覆覆 視視 調調 諸諸 請請 謁謁 諾諾 諭諭 謹謹 變變 贈贈 輸輸 遲遲 醙醙 鉶鉶 陼陼 難難 靖靖 韛韛",
  "響響 頋頋 頻頻 鬒鬒 龜龜 𢡊𢡊 𢡄𢡄 𣏕𣏕 㮝㮝 䀘䀘 䀹䀹 𥉉𥉉 𥳐𥳐 𧻓𧻓 齃齃 龎龎 ﬀff ﬁfi ﬂfl ﬃffi ﬄffl ﬅst",
  "ﬆst ﬓմն ﬔմե ﬕմի ﬖվն ﬗմխ יִיִ ײַײַ ﬠע ﬡא ﬢד ﬣה ﬤכ ﬥל ﬦם ﬧר ﬨת ﬩+ שׁשׁ שׂשׂ שּׁשּׁ",
  "שּׂשּׂ אַאַ אָאָ אּאּ בּבּ גּגּ דּדּ הּהּ וּוּ זּזּ טּטּ יּיּ ךּךּ כּכּ לּלּ מּמּ נּנּ סּסּ",
  "ףּףּ פּפּ צּצּ קּקּ רּרּ שּשּ תּתּ וֹוֹ בֿבֿ כֿכֿ פֿפֿ ﭏאל ﭐٱ ﭑٱ ﭒٻ ﭓٻ ﭔٻ ﭕٻ ﭖپ ﭗپ ﭘپ",
  "ﭙپ ﭚڀ ﭛڀ ﭜڀ ﭝڀ ﭞٺ ﭟٺ ﭠٺ ﭡٺ ﭢٿ ﭣٿ ﭤٿ ﭥٿ ﭦٹ ﭧٹ ﭨٹ ﭩٹ ﭪڤ ﭫڤ ﭬڤ ﭭڤ ﭮڦ ﭯڦ ﭰڦ ﭱڦ",
  "ﭲڄ ﭳڄ ﭴڄ ﭵڄ ﭶڃ ﭷڃ ﭸڃ ﭹڃ ﭺچ ﭻچ ﭼچ ﭽچ ﭾڇ ﭿڇ ﮀڇ ﮁڇ ﮂڍ ﮃڍ ﮄڌ ﮅڌ ﮆڎ ﮇڎ ﮈڈ ﮉڈ ﮊژ",
  "ﮋژ ﮌڑ ﮍڑ ﮎک ﮏک ﮐک ﮑک ﮒگ ﮓگ ﮔگ ﮕگ ﮖڳ ﮗڳ ﮘڳ ﮙڳ ﮚڱ ﮛڱ ﮜڱ ﮝڱ ﮞں ﮟں ﮠڻ ﮡڻ ﮢڻ ﮣڻ",
  "ﮤۀ ﮥۀ ﮦہ ﮧہ ﮨہ ﮩہ ﮪھ ﮫھ ﮬھ ﮭھ ﮮے ﮯے ﮰۓ ﮱۓ ﯓڭ ﯔڭ ﯕڭ ﯖڭ ﯗۇ ﯘۇ ﯙۆ ﯚۆ ﯛۈ ﯜۈ ﯝۇٴ",
  "ﯞۋ ﯟۋ ﯠۅ ﯡۅ ﯢۉ ﯣۉ ﯤې ﯥې ﯦې ﯧې ﯨى ﯩى ﯪئا ﯫئا ﯬئە ﯭئە ﯮئو ﯯئو ﯰئۇ ﯱئۇ ﯲئۆ ﯳئۆ",
  "ﯴئۈ ﯵئۈ ﯶئې ﯷئې ﯸئې ﯹئى ﯺئى ﯻئى ﯼی ﯽی ﯾی ﯿی ﰀئج ﰁئح ﰂئم ﰃئى ﰄئي ﰅبج ﰆبح ﰇبخ",
  "ﰈبم ﰉبى ﰊبي ﰋتج ﰌتح ﰍتخ ﰎتم ﰏتى ﰐتي ﰑثج ﰒثم ﰓثى ﰔثي ﰕجح ﰖجم ﰗحج ﰘحم ﰙخج ﰚخح",
  "ﰛخم ﰜسج ﰝسح ﰞسخ ﰟسم ﰠصح ﰡصم ﰢضج ﰣضح ﰤضخ ﰥضم ﰦطح ﰧطم ﰨظم ﰩعج ﰪعم ﰫغج ﰬغم ﰭفج",
  "ﰮفح ﰯفخ ﰰفم ﰱفى ﰲفي ﰳقح ﰴقم ﰵقى ﰶقي ﰷكا ﰸكج ﰹكح ﰺكخ ﰻكل ﰼكم ﰽكى ﰾكي ﰿلج ﱀلح",
  "ﱁلخ ﱂلم ﱃلى ﱄلي ﱅمج ﱆمح ﱇمخ ﱈمم ﱉمى ﱊمي ﱋنج ﱌنح ﱍنخ ﱎنم ﱏنى ﱐني ﱑهج ﱒهم ﱓهى",
  "ﱔهي ﱕيج ﱖيح ﱗيخ ﱘيم ﱙيى ﱚيي ﱛذٰ ﱜرٰ ﱝىٰ ﱞ␣ٌّ ﱟ␣ٍّ ﱠ␣َّ ﱡ␣ُّ ﱢ␣ِّ ﱣ␣ّٰ ﱤئر",
  "ﱥئز ﱦئم ﱧئن ﱨئى ﱩئي ﱪبر ﱫبز ﱬبم ﱭبن ﱮبى ﱯبي ﱰتر ﱱتز ﱲتم ﱳتن ﱴتى ﱵتي ﱶثر ﱷثز",
  "ﱸثم ﱹثن ﱺثى ﱻثي ﱼفى ﱽفي ﱾقى ﱿقي ﲀكا ﲁكل ﲂكم ﲃكى ﲄكي ﲅلم ﲆلى ﲇلي ﲈما ﲉمم ﲊنر",
  "ﲋنز ﲌنم ﲍنن ﲎنى ﲏني ﲐىٰ ﲑير ﲒيز ﲓيم ﲔين ﲕيى ﲖيي ﲗئج ﲘئح ﲙئخ ﲚئم ﲛئه ﲜبج ﲝبح",
  "ﲞبخ ﲟبم ﲠبه ﲡتج ﲢتح ﲣتخ ﲤتم ﲥته ﲦثم ﲧجح ﲨجم ﲩحج ﲪحم ﲫخج ﲬخم ﲭسج ﲮسح ﲯسخ ﲰسم",
  "ﲱصح ﲲصخ ﲳصم ﲴضج ﲵضح ﲶضخ ﲷضم ﲸطح ﲹظم ﲺعج ﲻعم ﲼغج ﲽغم ﲾفج ﲿفح ﳀفخ ﳁفم ﳂقح ﳃقم",
  "ﳄكج ﳅكح ﳆكخ ﳇكل ﳈكم ﳉلج ﳊلح ﳋلخ ﳌلم ﳍله ﳎمج ﳏمح ﳐمخ ﳑمم ﳒنج ﳓنح ﳔنخ ﳕنم ﳖنه",
  "ﳗهج ﳘهم ﳙهٰ ﳚيج ﳛيح ﳜيخ ﳝيم ﳞيه ﳟئم ﳠئه ﳡبم ﳢبه ﳣتم ﳤته ﳥثم ﳦثه ﳧسم ﳨسه ﳩشم",
  "ﳪشه ﳫكل ﳬكم ﳭلم ﳮنم ﳯنه ﳰيم ﳱيه ﳲـَّ ﳳـُّ ﳴـِّ ﳵطى ﳶطي ﳷعى ﳸعي ﳹغى ﳺغي ﳻسى",
  "ﳼسي ﳽشى ﳾشي ﳿحى ﴀحي ﴁجى ﴂجي ﴃخى ﴄخي ﴅصى ﴆصي ﴇضى ﴈضي ﴉشج ﴊشح ﴋشخ ﴌشم ﴍشر ﴎسر",
  "ﴏصر ﴐضر ﴑطى ﴒطي ﴓعى ﴔعي ﴕغى ﴖغي ﴗسى ﴘسي ﴙشى ﴚشي ﴛحى ﴜحي ﴝجى ﴞجي ﴟخى ﴠخي ﴡصى",
  "ﴢصي ﴣضى ﴤضي ﴥشج ﴦشح ﴧشخ ﴨشم ﴩشر ﴪسر ﴫصر ﴬضر ﴭشج ﴮشح ﴯشخ ﴰشم ﴱسه ﴲشه ﴳطم ﴴسج",
  "ﴵسح ﴶسخ ﴷشج ﴸشح ﴹشخ ﴺطم ﴻظم ﴼاً ﴽاً ﵐتجم ﵑتحج ﵒتحج ﵓتحم ﵔتخم ﵕتمج ﵖتمح ﵗتمخ",
  "ﵘجمح ﵙجمح ﵚحمي ﵛحمى ﵜسحج ﵝسجح ﵞسجى ﵟسمح ﵠسمح ﵡسمج ﵢسمم ﵣسمم ﵤصحح ﵥصحح ﵦصمم",
  "ﵧشحم ﵨشحم ﵩشجي ﵪشمخ ﵫشمخ ﵬشمم ﵭشمم ﵮضحى ﵯضخم ﵰضخم ﵱطمح ﵲطمح ﵳطمم ﵴطمي ﵵعجم",
  "ﵶعمم ﵷعمم ﵸعمى ﵹغمم ﵺغمي ﵻغمى ﵼفخم ﵽفخم ﵾقمح ﵿقمم ﶀلحم ﶁلحي ﶂلحى ﶃلجج ﶄلجج",
  "ﶅلخم ﶆلخم ﶇلمح ﶈلمح ﶉمحج ﶊمحم ﶋمحي ﶌمجح ﶍمجم ﶎمخج ﶏمخم ﶒمجخ ﶓهمج ﶔهمم ﶕنحم",
  "ﶖنحى ﶗنجم ﶘنجم ﶙنجى ﶚنمي ﶛنمى ﶜيمم ﶝيمم ﶞبخي ﶟتجي ﶠتجى ﶡتخي ﶢتخى ﶣتمي ﶤتمى",
  "ﶥجمي ﶦجحى ﶧجمى ﶨسخى ﶩصحي ﶪشحي ﶫضحي ﶬلجي ﶭلمي ﶮيحي ﶯيجي ﶰيمي ﶱممي ﶲقمي ﶳنحي",
  "ﶴقمح ﶵلحم ﶶعمي ﶷكمي ﶸنجح ﶹمخي ﶺلجم ﶻكمم ﶼلجم ﶽنجح ﶾجحي ﶿحجي ﷀمجي ﷁفمي ﷂبحي",
  "ﷃكمم ﷄعجم ﷅصمم ﷆسخي ﷇنجي ﷰصلے ﷱقلے ﷲالله ﷳاكبر ﷴمحمد ﷵصلعم ﷶرسول ﷷعليه",
  "ﷸوسلم ﷹصلى ﷺصلى␣الله␣عليه␣وسلم ﷻجل␣جلاله ﷼ریال ︐, ︑、 ︓: ︔; ︕! ︖? ︗〖 ︘〗 ︱—",
  "︲– ︳_ ︴_ ︵( ︶) ︹〔 ︺〕 ︻【 ︼】 ︽《 ︾》 ︿〈 ﹀〉 ﹁「 ﹂」 ﹃『 ﹄』 ﹇[ ﹈] ﹉␣̅ ﹊␣̅ ﹋␣̅ ﹌␣̅ ﹍_",
  "﹎_ ﹏_ ﹐, ﹑、 ﹔; ﹕: ﹖? ﹗! ﹘— ﹙( ﹚) ﹝〔 ﹞〕 ﹟# ﹠& ﹡* ﹢+ ﹣- ﹤< ﹥> ﹦= ﹩$ ﹪% ﹫@ ﹰ␣ً",
  "ﹱـً ﹲ␣ٌ ﹴ␣ٍ ﹶ␣َ ﹷـَ ﹸ␣ُ ﹹـُ ﹺ␣ِ ﹻـِ ﹼ␣ّ ﹽـّ ﹾ␣ْ ﹿـْ ﺀء ﺁآ ﺂآ ﺃأ ﺄأ ﺅؤ ﺆؤ ﺇإ",
  "ﺈإ ﺉئ ﺊئ ﺋئ ﺌئ ﺍا ﺎا ﺏب ﺐب ﺑب ﺒب ﺓة ﺔة ﺕت ﺖت ﺗت ﺘت ﺙث ﺚث ﺛث ﺜث ﺝج ﺞج ﺟج ﺠج",
  "ﺡح ﺢح ﺣح ﺤح ﺥخ ﺦخ ﺧخ ﺨخ ﺩد ﺪد ﺫذ ﺬذ ﺭر ﺮر ﺯز ﺰز ﺱس ﺲس ﺳس ﺴس ﺵش ﺶش ﺷش ﺸش ﺹص",
  "ﺺص ﺻص ﺼص ﺽض ﺾض ﺿض ﻀض ﻁط ﻂط ﻃط ﻄط ﻅظ ﻆظ ﻇظ ﻈظ ﻉع ﻊع ﻋع ﻌع ﻍغ ﻎغ ﻏغ ﻐغ ﻑف ﻒف",
  "ﻓف ﻔف ﻕق ﻖق ﻗق ﻘق ﻙك ﻚك ﻛك ﻜك ﻝل ﻞل ﻟل ﻠل ﻡم ﻢم ﻣم ﻤم ﻥن ﻦن ﻧن ﻨن ﻩه ﻪه ﻫه",
  "ﻬه ﻭو ﻮو ﻯى ﻰى ﻱي ﻲي ﻳي ﻴي ﻵلآ ﻶلآ ﻷلأ ﻸلأ ﻹلإ ﻺلإ ﻻلا ﻼلا ｟⦅ ｠⦆ ｡. ｢「 ｣」",
  "､、 ･・ ｦヲ ｧァ ｨィ ｩゥ ｪェ ｫォ ｬャ ｭュ ｮョ ｯッ ｰー ｱア ｲイ ｳウ ｴエ ｵオ ｶカ ｷキ ｸク ｹケ ｺコ ｻサ ｼシ",
  "ｽス ｾセ ｿソ ﾀタ ﾁチ ﾂツ ﾃテ ﾄト ﾅナ ﾆニ ﾇヌ ﾈネ ﾉノ ﾊハ ﾋヒ ﾌフ ﾍヘ ﾎホ ﾏマ ﾐミ ﾑム ﾒメ ﾓモ ﾔヤ ﾕユ",
  "ﾖヨ ﾗラ ﾘリ ﾙル ﾚレ ﾛロ ﾜワ ﾝン ﾞ゙ ﾟ゚ ﾡᄀ ﾢᄁ ﾣᆪ ﾤᄂ ﾥᆬ ﾦᆭ ﾧᄃ ﾨᄄ ﾩᄅ ﾪᆰ ﾫᆱ ﾬᆲ ﾭᆳ ﾮᆴ ﾯᆵ",
  "ﾰᄚ ﾱᄆ ﾲᄇ ﾳᄈ ﾴᄡ ￂᅡ ￃᅢ ￄᅣ ￅᅤ ￆᅥ ￇᅦ ￊᅧ ￋᅨ ￌᅩ ￍᅪ ￎᅫ ￏᅬ ￒᅭ ￓᅮ ￔᅯ ￕᅰ ￖᅱ ￗᅲ ￚᅳ ￛᅴ",
  "ￜᅵ ￠¢ ￡£ ￢¬ ￣␣̄ ￤¦ ￥¥ ￦₩ ￨│ ￩← ￪↑ ￫→ ￬↓ ￭■ ￮○ 𐖌𐖳 𐖍𐖴 𐖎𐖵 𐖏𐖶 𐖐𐖷 𐖑𐖸 𐖒𐖹 𐖔𐖻 𐖕𐖼 𐞁ː",
  "𐞂ˑ 𐞃æ 𐞄ʙ 𐞅ɓ 𐞇ʣ 𐞈ꭦ 𐞉ʥ 𐞊ʤ 𐞋ɖ 𐞌ɗ 𐞍ᶑ 𐞎ɘ 𐞏ɞ 𐞐ʩ 𐞑ɤ 𐞒ɢ 𐞓ɠ 𐞔ʛ 𐞕ħ 𐞖ʜ 𐞗ɧ 𐞘ʄ 𐞙ʪ 𐞚ʫ 𐞛ɬ",
  "𐞜𝼄 𐞝ꞎ 𐞞ɮ 𐞟𝼅 𐞠ʎ 𐞡𝼆 𐞢ø 𐞣ɶ 𐞤ɷ 𐞥q 𐞦ɺ 𐞧𝼈 𐞨ɽ 𐞩ɾ 𐞪ʀ 𐞫ʨ 𐞬ʦ 𐞭ꭧ 𐞮ʧ 𐞯ʈ 𐞰ⱱ 𐞲ʏ 𐞳ʡ 𐞴ʢ 𐞵ʘ",
  "𐞶ǀ 𐞷ǁ 𐞸ǂ 𐞹𝼊 𐞺𝼞 𝅗𝅥𝅗𝅥 𝅘𝅥𝅘𝅥 𝅘𝅥𝅮𝅘𝅥𝅮 𝅘𝅥𝅯𝅘𝅥𝅯 𝅘𝅥𝅰𝅘𝅥𝅰 𝅘𝅥𝅱𝅘𝅥𝅱 𝅘𝅥𝅲𝅘𝅥𝅲 𝆹𝅥𝆹𝅥 𝆺𝅥𝆺𝅥 𝆹𝅥𝅮𝆹𝅥𝅮 𝆺𝅥𝅮𝆺𝅥𝅮 𝆹𝅥𝅯𝆹𝅥𝅯 𝆺𝅥𝅯𝆺𝅥𝅯",
  "𝑎a 𝑏b 𝑐c 𝑑d 𝑒e 𝑓f 𝑔g 𝒜a 𝒞c 𝒟d 𝒢g 𝒥j 𝒦k 𝒩n 𝒪o 𝒫p 𝒬q 𝒶a 𝒷b 𝒸c 𝒹d 𝒻f 𝒽h 𝒾i 𝒿j",
  "𝓀k 𝓁l 𝓂m 𝓃n 𝔄a 𝔅b 𝔇d 𝔈e 𝔉f 𝔊g 𝔖s 𝔗t 𝔘u 𝔙v 𝔚w 𝔛x 𝔜y 𝔸a 𝔹b 𝔻d 𝔼e 𝔽f 𝔾g 𝕀i 𝕁j",
  "𝕂k 𝕃l 𝕄m 𝕆o 𝕊s 𝕋t 𝕌u 𝕍v 𝕎w 𝕏x 𝕐y 𝚤ı 𝚥ȷ 𝚹θ 𝚺σ 𝚻τ 𝚼υ 𝚽φ 𝚾χ 𝚿ψ 𝛀ω 𝛁∇ 𝛓σ 𝛔σ 𝛕τ",
  "𝛖υ 𝛗φ 𝛘χ 𝛙ψ 𝛚ω 𝛛∂ 𝛜ε 𝛝θ 𝛞κ 𝛟φ 𝛠ρ 𝛡π 𝛳θ 𝛴σ 𝛵τ 𝛶υ 𝛷φ 𝛸χ 𝛹ψ 𝛺ω 𝛻∇ 𝜍σ 𝜎σ 𝜏τ 𝜐υ",
  "𝜑φ 𝜒χ 𝜓ψ 𝜔ω 𝜕∂ 𝜖ε 𝜗θ 𝜘κ 𝜙φ 𝜚ρ 𝜛π 𝜭θ 𝜮σ 𝜯τ 𝜰υ 𝜱φ 𝜲χ 𝜳ψ 𝜴ω 𝜵∇ 𝝇σ 𝝈σ 𝝉τ 𝝊υ 𝝋φ",
  "𝝌χ 𝝍ψ 𝝎ω 𝝏∂ 𝝐ε 𝝑θ 𝝒κ 𝝓φ 𝝔ρ 𝝕π 𝝧θ 𝝨σ 𝝩τ 𝝪υ 𝝫φ 𝝬χ 𝝭ψ 𝝮ω 𝝯∇ 𝞁σ 𝞂σ 𝞃τ 𝞄υ 𝞅φ 𝞆χ",
  "𝞇ψ 𝞈ω 𝞉∂ 𝞊ε 𝞋θ 𝞌κ 𝞍φ 𝞎ρ 𝞏π 𝞡θ 𝞢σ 𝞣τ 𝞤υ 𝞥φ 𝞦χ 𝞧ψ 𝞨ω 𝞩∇ 𝞻σ 𝞼σ 𝞽τ 𝞾υ 𝞿φ 𝟀χ 𝟁ψ",
  "𝟂ω 𝟃∂ 𝟄ε 𝟅θ 𝟆κ 𝟇φ 𝟈ρ 𝟉π 𝟊ϝ 𝟋ϝ 𞀹к 𞀺л 𞀻м 𞁇ы 𞁈э 𞁉ю 𞁊ꚉ 𞁋ә 𞁌і 𞁍ј 𞁎ө 𞁏ү 𞁐ӏ 𞁚к 𞁛л",
  "𞁜о 𞁝п 𞁞с 𞁟у 𞁠ф 𞁡х 𞁢ц 𞁣ч 𞁤ш 𞁥ъ 𞁦ы 𞁧ґ 𞁨і 𞁩ѕ 𞁪џ 𞁫ҫ 𞁬ꙑ 𞁭ұ 𞸀ا 𞸁ب 𞸂ج 𞸃د 𞸅و 𞸆ز 𞸇ح",
  "𞸈ط 𞸉ي 𞸊ك 𞸋ل 𞸌م 𞸍ن 𞸎س 𞸏ع 𞸐ف 𞸑ص 𞸒ق 𞸓ر 𞸔ش 𞸕ت 𞸖ث 𞸗خ 𞸘ذ 𞸙ض 𞸚ظ 𞸛غ 𞸜ٮ 𞸝ں 𞸞ڡ 𞸟ٯ 𞸡ب",
  "𞸢ج 𞸤ه 𞸧ح 𞸩ي 𞸪ك 𞸫ل 𞸬م 𞸭ن 𞸮س 𞸯ع 𞸰ف 𞸱ص 𞸲ق 𞸴ش 𞸵ت 𞸶ث 𞸷خ 𞸹ض 𞸻غ 𞹂ج 𞹇ح 𞹉ي 𞹋ل 𞹍ن 𞹎س",
  "𞹏ع 𞹑ص 𞹒ق 𞹔ش 𞹗خ 𞹙ض 𞹛غ 𞹝ں 𞹟ٯ 𞹡ب 𞹢ج 𞹤ه 𞹧ح 𞹨ط 𞹩ي 𞹪ك 𞹬م 𞹭ن 𞹮س 𞹯ع 𞹰ف 𞹱ص 𞹲ق 𞹴ش 𞹵ت",
  "𞹶ث 𞹷خ 𞹹ض 𞹺ظ 𞹻غ 𞹼ٮ 𞹾ڡ 𞺀ا 𞺁ب 𞺂ج 𞺃د 𞺄ه 𞺅و 𞺆ز 𞺇ح 𞺈ط 𞺉ي 𞺋ل 𞺌م 𞺍ن 𞺎س 𞺏ع 𞺐ف 𞺑ص 𞺒ق",
  "𞺓ر 𞺔ش 𞺕ت 𞺖ث 𞺗خ 𞺘ذ 𞺙ض 𞺚ظ 𞺛غ 𞺡ب 𞺢ج 𞺣د 𞺥و 𞺦ز 𞺧ح 𞺨ط 𞺩ي 𞺫ل 𞺬م 𞺭ن 𞺮س 𞺯ع 𞺰ف 𞺱ص 𞺲ق",
  "𞺳ر 𞺴ش 𞺵ت 𞺶ث 𞺷خ 𞺸ذ 𞺹ض 𞺺ظ 𞺻غ 🄁0, 🄂1, 🄃2, 🄄3, 🄅4, 🄆5, 🄇6, 🄈7, 🄉8, 🄊9, 🄐(a)",
  "🄑(b) 🄒(c) 🄓(d) 🄔(e) 🄕(f) 🄖(g) 🄗(h) 🄘(i) 🄙(j) 🄚(k) 🄛(l) 🄜(m) 🄝(n) 🄞(o) 🄟(p)",
  "🄠(q) 🄡(r) 🄢(s) 🄣(t) 🄤(u) 🄥(v) 🄦(w) 🄧(x) 🄨(y) 🄩(z) 🄪〔s〕 🄫c 🄬r 🄭cd 🄮wz 🅊hv",
  "🅋mv 🅌sd 🅍ss 🅎ppv 🅏wc 🅪mc 🅫md 🅬mr 🆐dj 🈀ほか 🈁ココ 🈂サ 🈐手 🈑字 🈒双 🈓デ 🈔二 🈕多 🈖解 🈗天 🈘交",
  "🈙映 🈚無 🈛料 🈜前 🈝後 🈞再 🈟新 🈠初 🈡終 🈢生 🈣販 🈤声 🈥吹 🈦演 🈧投 🈨捕 🈩一 🈪三 🈫遊 🈬左 🈭中 🈮右 🈯指 🈰走 🈱打",
  "🈲禁 🈳空 🈴合 🈵満 🈶有 🈷月 🈸申 🈹割 🈺営 🈻配 🉀〔本〕 🉁〔三〕 🉂〔二〕 🉃〔安〕 🉄〔点〕 🉅〔打〕 🉆〔盗〕 🉇〔勝〕 🉈〔敗〕",
  "🉐得 🉑可 丽丽 丸丸 乁乁 𠄢𠄢 你你 侮侮 侻侻 倂倂 偺偺 備備 僧僧 像像 㒞㒞 𠘺𠘺 免免 兔兔 兤兤 具具 𠔜𠔜 㒹㒹 內內 再再 𠕋𠕋",
  "冗冗 冤冤 仌仌 冬冬 况况 𩇟𩇟 凵凵 刃刃 㓟㓟 刻刻 剆剆 割割 剷剷 㔕㔕 勇勇 勉勉 勤勤 勺勺 包包 匆匆 北北 卉卉 卑卑 博博 即即",
  "卽卽 卿卿 卿卿 卿卿 𠨬𠨬 灰灰 及及 叟叟 𠭣𠭣 叫叫 叱叱 吆吆 咞咞 吸吸 呈呈 周周 咢咢 哶哶 唐唐 啓啓 啣啣 善善 善善 喙喙 喫喫",
  "喳喳 嗂嗂 圖圖 嘆嘆 圗圗 噑噑 噴噴 切切 壮壮 城城 埴埴 堍堍 型型 堲堲 報報 墬墬 𡓤𡓤 売売 壷壷 夆夆 多多 夢夢 奢奢 𡚨𡚨 𡛪𡛪",
  "姬姬 娛娛 娧娧 姘姘 婦婦 㛮㛮 㛼㛼 嬈嬈 嬾嬾 嬾嬾 𡧈𡧈 寃寃 寘寘 寧寧 寳寳 𡬘𡬘 寿寿 将将 当当 尢尢 㞁㞁 屠屠 屮屮 峀峀 岍岍",
  "𡷤𡷤 嵃嵃 𡷦𡷦 嵮嵮 嵫嵫 嵼嵼 巡巡 巢巢 㠯㠯 巽巽 帨帨 帽帽 幩幩 㡢㡢 𢆃𢆃 㡼㡼 庰庰 庳庳 庶庶 廊廊 𪎒𪎒 廾廾 𢌱𢌱 𢌱𢌱 舁舁",
  "弢弢 弢弢 㣇㣇 𣊸𣊸 𦇚𦇚 形形 彫彫 㣣㣣 徚徚 忍忍 志志 忹忹 悁悁 㤺㤺 㤜㤜 悔悔 𢛔𢛔 惇惇 慈慈 慌慌 慎慎 慌慌 慺慺 憎憎 憲憲",
  "憤憤 憯憯 懞懞 懲懲 懶懶 成成 戛戛 扝扝 抱抱 拔拔 捐捐 𢬌𢬌 挽挽 拼拼 捨捨 掃掃 揤揤 𢯱𢯱 搢搢 揅揅 掩掩 㨮㨮 摩摩 摾摾 撝撝",
  "摷摷 㩬㩬 敏敏 敬敬 𣀊𣀊 旣旣 書書 晉晉 㬙㬙 暑暑 㬈㬈 㫤㫤 冒冒 冕冕 最最 暜暜 肭肭 䏙䏙 朗朗 望望 朡朡 杞杞 杓杓 𣏃𣏃 㭉㭉",
  "柺柺 枅枅 桒桒 梅梅 𣑭𣑭 梎梎 栟栟 椔椔 㮝㮝 楂楂 榣榣 槪槪 檨檨 𣚣𣚣 櫛櫛 㰘㰘 次次 𣢧𣢧 歔歔 㱎㱎 歲歲 殟殟 殺殺 殻殻 𣪍𣪍",
  "𡴋𡴋 𣫺𣫺 汎汎 𣲼𣲼 沿沿 泍泍 汧汧 洖洖 派派 海海 流流 浩浩 浸浸 涅涅 𣴞𣴞 洴洴 港港 湮湮 㴳㴳 滋滋 滇滇 𣻑𣻑 淹淹 潮潮 𣽞𣽞",
  "𣾎𣾎 濆濆 瀹瀹 瀞瀞 瀛瀛 㶖㶖 灊灊 災災 灷灷 炭炭 𠔥𠔥 煅煅 𤉣𤉣 熜熜 𤎫𤎫 爨爨 爵爵 牐牐 𤘈𤘈 犀犀 犕犕 𤜵𤜵 𤠔𤠔 獺獺 王王",
  "㺬㺬 玥玥 㺸㺸 㺸㺸 瑇瑇 瑜瑜 瑱瑱 璅璅 瓊瓊 㼛㼛 甤甤 𤰶𤰶 甾甾 𤲒𤲒 異異 𢆟𢆟 瘐瘐 𤾡𤾡 𤾸𤾸 𥁄𥁄 㿼㿼 䀈䀈 直直 𥃳𥃳 𥃲𥃲",
  "𥄙𥄙 𥄳𥄳 眞眞 真真 真真 睊睊 䀹䀹 瞋瞋 䁆䁆 䂖䂖 𥐝𥐝 硎硎 碌碌 磌磌 䃣䃣 𥘦𥘦 祖祖 𥚚𥚚 𥛅𥛅 福福 秫秫 䄯䄯 穀穀 穊穊 穏穏",
  "𥥼𥥼 𥪧𥪧 𥪧𥪧 竮竮 䈂䈂 𥮫𥮫 篆篆 築築 䈧䈧 𥲀𥲀 糒糒 䊠䊠 糨糨 糣糣 紀紀 𥾆𥾆 絣絣 䌁䌁 緇緇 縂縂 繅繅 䌴䌴 𦈨𦈨 𦉇𦉇 䍙䍙",
  "𦋙𦋙 罺罺 𦌾𦌾 羕羕 翺翺 者者 𦓚𦓚 𦔣𦔣 聠聠 𦖨𦖨 聰聰 𣍟𣍟 䏕䏕 育育 脃脃 䐋䐋 脾脾 媵媵 𦞧𦞧 𦞵𦞵 𣎓𣎓 𣎜𣎜 舁舁 舄舄 辞辞",
  "䑫䑫 芑芑 芋芋 芝芝 劳劳 花花 芳芳 芽芽 苦苦 𦬼𦬼 若若 茝茝 荣荣 莭莭 茣茣 莽莽 菧菧 著著 荓荓 菊菊 菌菌 菜菜 𦰶𦰶 𦵫𦵫 𦳕𦳕",
  "䔫䔫 蓱蓱 蓳蓳 蔖蔖 𧏊𧏊 蕤蕤 𦼬𦼬 䕝䕝 䕡䕡 𦾱𦾱 𧃒𧃒 䕫䕫 虐虐 虜虜 虧虧 虩虩 蚩蚩 蚈蚈 蜎蜎 蛢蛢 蝹蝹 蜨蜨 蝫蝫 螆螆 䗗䗗",
  "蟡蟡 蠁蠁 䗹䗹 衠衠 衣衣 𧙧𧙧 裗裗 裞裞 䘵䘵 裺裺 㒻㒻 𧢮𧢮 𧥦𧥦 䚾䚾 䛇䛇 誠誠 諭諭 變變 豕豕 𧲨𧲨 貫貫 賁賁 贛贛 起起 𧼯𧼯",
  "𠠄𠠄 跋跋 趼趼 跰跰 𠣞𠣞 軔軔 輸輸 𨗒𨗒 𨗭𨗭 邔邔 郱郱 鄑鄑 𨜮𨜮 鄛鄛 鈸鈸 鋗鋗 鋘鋘 鉼鉼 鏹鏹 鐕鐕 𨯺𨯺 開開 䦕䦕 閷閷 𨵷𨵷",
  "䧦䧦 雃雃 嶲嶲 霣霣 𩅅𩅅 𩈚𩈚 䩮䩮 䩶䩶 韠韠 𩐊𩐊 䪲䪲 𩒖𩒖 頋頋 頋頋 頩頩 𩖶𩖶 飢飢 䬳䬳 餩餩 馧馧 駂駂 駾駾 䯎䯎 𩬰𩬰 鬒鬒",
  "鱀鱀 鳽鳽 䳎䳎 䳭䳭 鵧鵧 𪃎𪃎 䳸䳸 𪄅𪄅 𪈎𪈎 𪊑𪊑 麻麻 䵖䵖 黹黹 黾黾 鼅鼅 鼏鼏 鼖鼖 鼻鼻 𪘀𪘀"]

/-- Marks, which combine with the character before them. -/
def markRanges : List (Nat × Nat) := [
  (0x300, 0x36F), (0x483, 0x489), (0x591, 0x5BD), (0x5BF, 0x5BF), (0x5C1, 0x5C2), (0x5C4, 0x5C5),
  (0x5C7, 0x5C7), (0x610, 0x61A), (0x64B, 0x65F), (0x670, 0x670), (0x6D6, 0x6DC), (0x6DF, 0x6E4),
  (0x6E7, 0x6E8), (0x6EA, 0x6ED), (0x711, 0x711), (0x730, 0x74A), (0x7A6, 0x7B0), (0x7EB, 0x7F3),
  (0x7FD, 0x7FD), (0x816, 0x819), (0x81B, 0x823), (0x825, 0x827), (0x829, 0x82D), (0x859, 0x85B),
  (0x897, 0x89F), (0x8CA, 0x8E1), (0x8E3, 0x903), (0x93A, 0x93C), (0x93E, 0x94F), (0x951, 0x957),
  (0x962, 0x963), (0x981, 0x983), (0x9BC, 0x9BC), (0x9BE, 0x9C4), (0x9C7, 0x9C8), (0x9CB, 0x9CD),
  (0x9D7, 0x9D7), (0x9E2, 0x9E3), (0x9FE, 0x9FE), (0xA01, 0xA03), (0xA3C, 0xA3C), (0xA3E, 0xA42),
  (0xA47, 0xA48), (0xA4B, 0xA4D), (0xA51, 0xA51), (0xA70, 0xA71), (0xA75, 0xA75), (0xA81, 0xA83),
  (0xABC, 0xABC), (0xABE, 0xAC5), (0xAC7, 0xAC9), (0xACB, 0xACD), (0xAE2, 0xAE3), (0xAFA, 0xAFF),
  (0xB01, 0xB03), (0xB3C, 0xB3C), (0xB3E, 0xB44), (0xB47, 0xB48), (0xB4B, 0xB4D), (0xB55, 0xB57),
  (0xB62, 0xB63), (0xB82, 0xB82), (0xBBE, 0xBC2), (0xBC6, 0xBC8), (0xBCA, 0xBCD), (0xBD7, 0xBD7),
  (0xC00, 0xC04), (0xC3C, 0xC3C), (0xC3E, 0xC44), (0xC46, 0xC48), (0xC4A, 0xC4D), (0xC55, 0xC56),
  (0xC62, 0xC63), (0xC81, 0xC83), (0xCBC, 0xCBC), (0xCBE, 0xCC4), (0xCC6, 0xCC8), (0xCCA, 0xCCD),
  (0xCD5, 0xCD6), (0xCE2, 0xCE3), (0xCF3, 0xCF3), (0xD00, 0xD03), (0xD3B, 0xD3C), (0xD3E, 0xD44),
  (0xD46, 0xD48), (0xD4A, 0xD4D), (0xD57, 0xD57), (0xD62, 0xD63), (0xD81, 0xD83), (0xDCA, 0xDCA),
  (0xDCF, 0xDD4), (0xDD6, 0xDD6), (0xDD8, 0xDDF), (0xDF2, 0xDF3), (0xE31, 0xE31), (0xE34, 0xE3A),
  (0xE47, 0xE4E), (0xEB1, 0xEB1), (0xEB4, 0xEBC), (0xEC8, 0xECE), (0xF18, 0xF19), (0xF35, 0xF35),
  (0xF37, 0xF37), (0xF39, 0xF39), (0xF3E, 0xF3F), (0xF71, 0xF84), (0xF86, 0xF87), (0xF8D, 0xF97),
  (0xF99, 0xFBC), (0xFC6, 0xFC6), (0x102B, 0x103E), (0x1056, 0x1059), (0x105E, 0x1060),
  (0x1062, 0x1064), (0x1067, 0x106D), (0x1071, 0x1074), (0x1082, 0x108D), (0x108F, 0x108F),
  (0x109A, 0x109D), (0x135D, 0x135F), (0x1712, 0x1715), (0x1732, 0x1734), (0x1752, 0x1753),
  (0x1772, 0x1773), (0x17B4, 0x17D3), (0x17DD, 0x17DD), (0x180B, 0x180D), (0x180F, 0x180F),
  (0x1885, 0x1886), (0x18A9, 0x18A9), (0x1920, 0x192B), (0x1930, 0x193B), (0x1A17, 0x1A1B),
  (0x1A55, 0x1A5E), (0x1A60, 0x1A7C), (0x1A7F, 0x1A7F), (0x1AB0, 0x1ADD), (0x1AE0, 0x1AEB),
  (0x1B00, 0x1B04), (0x1B34, 0x1B44), (0x1B6B, 0x1B73), (0x1B80, 0x1B82), (0x1BA1, 0x1BAD),
  (0x1BE6, 0x1BF3), (0x1C24, 0x1C37), (0x1CD0, 0x1CD2), (0x1CD4, 0x1CE8), (0x1CED, 0x1CED),
  (0x1CF4, 0x1CF4), (0x1CF7, 0x1CF9), (0x1DC0, 0x1DFF), (0x20D0, 0x20F0), (0x2CEF, 0x2CF1),
  (0x2D7F, 0x2D7F), (0x2DE0, 0x2DFF), (0x302A, 0x302F), (0x3099, 0x309A), (0xA66F, 0xA672),
  (0xA674, 0xA67D), (0xA69E, 0xA69F), (0xA6F0, 0xA6F1), (0xA802, 0xA802), (0xA806, 0xA806),
  (0xA80B, 0xA80B), (0xA823, 0xA827), (0xA82C, 0xA82C), (0xA880, 0xA881), (0xA8B4, 0xA8C5),
  (0xA8E0, 0xA8F1), (0xA8FF, 0xA8FF), (0xA926, 0xA92D), (0xA947, 0xA953), (0xA980, 0xA983),
  (0xA9B3, 0xA9C0), (0xA9E5, 0xA9E5), (0xAA29, 0xAA36), (0xAA43, 0xAA43), (0xAA4C, 0xAA4D),
  (0xAA7B, 0xAA7D), (0xAAB0, 0xAAB0), (0xAAB2, 0xAAB4), (0xAAB7, 0xAAB8), (0xAABE, 0xAABF),
  (0xAAC1, 0xAAC1), (0xAAEB, 0xAAEF), (0xAAF5, 0xAAF6), (0xABE3, 0xABEA), (0xABEC, 0xABED),
  (0xFB1E, 0xFB1E), (0xFE00, 0xFE0F), (0xFE20, 0xFE2F), (0x101FD, 0x101FD), (0x102E0, 0x102E0),
  (0x10376, 0x1037A), (0x10A01, 0x10A03), (0x10A05, 0x10A06), (0x10A0C, 0x10A0F),
  (0x10A38, 0x10A3A), (0x10A3F, 0x10A3F), (0x10AE5, 0x10AE6), (0x10D24, 0x10D27),
  (0x10D69, 0x10D6D), (0x10EAB, 0x10EAC), (0x10EFA, 0x10EFF), (0x10F46, 0x10F50),
  (0x10F82, 0x10F85), (0x11000, 0x11002), (0x11038, 0x11046), (0x11070, 0x11070),
  (0x11073, 0x11074), (0x1107F, 0x11082), (0x110B0, 0x110BA), (0x110C2, 0x110C2),
  (0x11100, 0x11102), (0x11127, 0x11134), (0x11145, 0x11146), (0x11173, 0x11173),
  (0x11180, 0x11182), (0x111B3, 0x111C0), (0x111C9, 0x111CC), (0x111CE, 0x111CF),
  (0x1122C, 0x11237), (0x1123E, 0x1123E), (0x11241, 0x11241), (0x112DF, 0x112EA),
  (0x11300, 0x11303), (0x1133B, 0x1133C), (0x1133E, 0x11344), (0x11347, 0x11348),
  (0x1134B, 0x1134D), (0x11357, 0x11357), (0x11362, 0x11363), (0x11366, 0x1136C),
  (0x11370, 0x11374), (0x113B8, 0x113C0), (0x113C2, 0x113C2), (0x113C5, 0x113C5),
  (0x113C7, 0x113CA), (0x113CC, 0x113D0), (0x113D2, 0x113D2), (0x113E1, 0x113E2),
  (0x11435, 0x11446), (0x1145E, 0x1145E), (0x114B0, 0x114C3), (0x115AF, 0x115B5),
  (0x115B8, 0x115C0), (0x115DC, 0x115DD), (0x11630, 0x11640), (0x116AB, 0x116B7),
  (0x1171D, 0x1172B), (0x1182C, 0x1183A), (0x11930, 0x11935), (0x11937, 0x11938),
  (0x1193B, 0x1193E), (0x11940, 0x11940), (0x11942, 0x11943), (0x119D1, 0x119D7),
  (0x119DA, 0x119E0), (0x119E4, 0x119E4), (0x11A01, 0x11A0A), (0x11A33, 0x11A39),
  (0x11A3B, 0x11A3E), (0x11A47, 0x11A47), (0x11A51, 0x11A5B), (0x11A8A, 0x11A99),
  (0x11B60, 0x11B67), (0x11C2F, 0x11C36), (0x11C38, 0x11C3F), (0x11C92, 0x11CA7),
  (0x11CA9, 0x11CB6), (0x11D31, 0x11D36), (0x11D3A, 0x11D3A), (0x11D3C, 0x11D3D),
  (0x11D3F, 0x11D45), (0x11D47, 0x11D47), (0x11D8A, 0x11D8E), (0x11D90, 0x11D91),
  (0x11D93, 0x11D97), (0x11EF3, 0x11EF6), (0x11F00, 0x11F01), (0x11F03, 0x11F03),
  (0x11F34, 0x11F3A), (0x11F3E, 0x11F42), (0x11F5A, 0x11F5A), (0x13440, 0x13440),
  (0x13447, 0x13455), (0x1611E, 0x1612F), (0x16AF0, 0x16AF4), (0x16B30, 0x16B36),
  (0x16F4F, 0x16F4F), (0x16F51, 0x16F87), (0x16F8F, 0x16F92), (0x16FE4, 0x16FE4),
  (0x16FF0, 0x16FF1), (0x1BC9D, 0x1BC9E), (0x1CF00, 0x1CF2D), (0x1CF30, 0x1CF46),
  (0x1D165, 0x1D169), (0x1D16D, 0x1D172), (0x1D17B, 0x1D182), (0x1D185, 0x1D18B),
  (0x1D1AA, 0x1D1AD), (0x1D242, 0x1D244), (0x1DA00, 0x1DA36), (0x1DA3B, 0x1DA6C),
  (0x1DA75, 0x1DA75), (0x1DA84, 0x1DA84), (0x1DA9B, 0x1DA9F), (0x1DAA1, 0x1DAAF),
  (0x1E000, 0x1E006), (0x1E008, 0x1E018), (0x1E01B, 0x1E021), (0x1E023, 0x1E024),
  (0x1E026, 0x1E02A), (0x1E08F, 0x1E08F), (0x1E130, 0x1E136), (0x1E2AE, 0x1E2AE),
  (0x1E2EC, 0x1E2EF), (0x1E4EC, 0x1E4EF), (0x1E5EE, 0x1E5EF), (0x1E6E3, 0x1E6E3),
  (0x1E6E6, 0x1E6E6), (0x1E6EE, 0x1E6EF), (0x1E6F5, 0x1E6F5), (0x1E8D0, 0x1E8D6),
  (0x1E944, 0x1E94A), (0xE0100, 0xE01EF)]

/-- Marks that take up space of their own. -/
def spacingMarkRanges : List (Nat × Nat) := [
  (0x903, 0x903), (0x93B, 0x93B), (0x93E, 0x940), (0x949, 0x94C), (0x94E, 0x94F), (0x982, 0x983),
  (0x9BE, 0x9C0), (0x9C7, 0x9C8), (0x9CB, 0x9CC), (0x9D7, 0x9D7), (0xA03, 0xA03), (0xA3E, 0xA40),
  (0xA83, 0xA83), (0xABE, 0xAC0), (0xAC9, 0xAC9), (0xACB, 0xACC), (0xB02, 0xB03), (0xB3E, 0xB3E),
  (0xB40, 0xB40), (0xB47, 0xB48), (0xB4B, 0xB4C), (0xB57, 0xB57), (0xBBE, 0xBBF), (0xBC1, 0xBC2),
  (0xBC6, 0xBC8), (0xBCA, 0xBCC), (0xBD7, 0xBD7), (0xC01, 0xC03), (0xC41, 0xC44), (0xC82, 0xC83),
  (0xCBE, 0xCBE), (0xCC0, 0xCC4), (0xCC7, 0xCC8), (0xCCA, 0xCCB), (0xCD5, 0xCD6), (0xCF3, 0xCF3),
  (0xD02, 0xD03), (0xD3E, 0xD40), (0xD46, 0xD48), (0xD4A, 0xD4C), (0xD57, 0xD57), (0xD82, 0xD83),
  (0xDCF, 0xDD1), (0xDD8, 0xDDF), (0xDF2, 0xDF3), (0xF3E, 0xF3F), (0xF7F, 0xF7F),
  (0x102B, 0x102C), (0x1031, 0x1031), (0x1038, 0x1038), (0x103B, 0x103C), (0x1056, 0x1057),
  (0x1062, 0x1064), (0x1067, 0x106D), (0x1083, 0x1084), (0x1087, 0x108C), (0x108F, 0x108F),
  (0x109A, 0x109C), (0x1715, 0x1715), (0x1734, 0x1734), (0x17B6, 0x17B6), (0x17BE, 0x17C5),
  (0x17C7, 0x17C8), (0x1923, 0x1926), (0x1929, 0x192B), (0x1930, 0x1931), (0x1933, 0x1938),
  (0x1A19, 0x1A1A), (0x1A55, 0x1A55), (0x1A57, 0x1A57), (0x1A61, 0x1A61), (0x1A63, 0x1A64),
  (0x1A6D, 0x1A72), (0x1B04, 0x1B04), (0x1B35, 0x1B35), (0x1B3B, 0x1B3B), (0x1B3D, 0x1B41),
  (0x1B43, 0x1B44), (0x1B82, 0x1B82), (0x1BA1, 0x1BA1), (0x1BA6, 0x1BA7), (0x1BAA, 0x1BAA),
  (0x1BE7, 0x1BE7), (0x1BEA, 0x1BEC), (0x1BEE, 0x1BEE), (0x1BF2, 0x1BF3), (0x1C24, 0x1C2B),
  (0x1C34, 0x1C35), (0x1CE1, 0x1CE1), (0x1CF7, 0x1CF7), (0x302E, 0x302F), (0xA823, 0xA824),
  (0xA827, 0xA827), (0xA880, 0xA881), (0xA8B4, 0xA8C3), (0xA952, 0xA953), (0xA983, 0xA983),
  (0xA9B4, 0xA9B5), (0xA9BA, 0xA9BB), (0xA9BE, 0xA9C0), (0xAA2F, 0xAA30), (0xAA33, 0xAA34),
  (0xAA4D, 0xAA4D), (0xAA7B, 0xAA7B), (0xAA7D, 0xAA7D), (0xAAEB, 0xAAEB), (0xAAEE, 0xAAEF),
  (0xAAF5, 0xAAF5), (0xABE3, 0xABE4), (0xABE6, 0xABE7), (0xABE9, 0xABEA), (0xABEC, 0xABEC),
  (0x11000, 0x11000), (0x11002, 0x11002), (0x11082, 0x11082), (0x110B0, 0x110B2),
  (0x110B7, 0x110B8), (0x1112C, 0x1112C), (0x11145, 0x11146), (0x11182, 0x11182),
  (0x111B3, 0x111B5), (0x111BF, 0x111C0), (0x111CE, 0x111CE), (0x1122C, 0x1122E),
  (0x11232, 0x11233), (0x11235, 0x11235), (0x112E0, 0x112E2), (0x11302, 0x11303),
  (0x1133E, 0x1133F), (0x11341, 0x11344), (0x11347, 0x11348), (0x1134B, 0x1134D),
  (0x11357, 0x11357), (0x11362, 0x11363), (0x113B8, 0x113BA), (0x113C2, 0x113C2),
  (0x113C5, 0x113C5), (0x113C7, 0x113CA), (0x113CC, 0x113CD), (0x113CF, 0x113CF),
  (0x11435, 0x11437), (0x11440, 0x11441), (0x11445, 0x11445), (0x114B0, 0x114B2),
  (0x114B9, 0x114B9), (0x114BB, 0x114BE), (0x114C1, 0x114C1), (0x115AF, 0x115B1),
  (0x115B8, 0x115BB), (0x115BE, 0x115BE), (0x11630, 0x11632), (0x1163B, 0x1163C),
  (0x1163E, 0x1163E), (0x116AC, 0x116AC), (0x116AE, 0x116AF), (0x116B6, 0x116B6),
  (0x1171E, 0x1171E), (0x11720, 0x11721), (0x11726, 0x11726), (0x1182C, 0x1182E),
  (0x11838, 0x11838), (0x11930, 0x11935), (0x11937, 0x11938), (0x1193D, 0x1193D),
  (0x11940, 0x11940), (0x11942, 0x11942), (0x119D1, 0x119D3), (0x119DC, 0x119DF),
  (0x119E4, 0x119E4), (0x11A39, 0x11A39), (0x11A57, 0x11A58), (0x11A97, 0x11A97),
  (0x11B61, 0x11B61), (0x11B65, 0x11B65), (0x11B67, 0x11B67), (0x11C2F, 0x11C2F),
  (0x11C3E, 0x11C3E), (0x11CA9, 0x11CA9), (0x11CB1, 0x11CB1), (0x11CB4, 0x11CB4),
  (0x11D8A, 0x11D8E), (0x11D93, 0x11D94), (0x11D96, 0x11D96), (0x11EF5, 0x11EF6),
  (0x11F03, 0x11F03), (0x11F34, 0x11F35), (0x11F3E, 0x11F3F), (0x11F41, 0x11F41),
  (0x1612A, 0x1612C), (0x16F51, 0x16F87), (0x16FF0, 0x16FF1), (0x1D165, 0x1D166),
  (0x1D16D, 0x1D172)]

/-- Letters that are written joined to the letter that follows. -/
def joinsNextRanges : List (Nat × Nat) := [
  (0x620, 0x620), (0x626, 0x626), (0x628, 0x628), (0x62A, 0x62E), (0x633, 0x63F), (0x641, 0x647),
  (0x649, 0x64A), (0x66E, 0x66F), (0x678, 0x687), (0x69A, 0x6BF), (0x6C1, 0x6C2), (0x6CC, 0x6CC),
  (0x6CE, 0x6CE), (0x6D0, 0x6D1), (0x6FA, 0x6FC), (0x6FF, 0x6FF), (0x712, 0x714), (0x71A, 0x71D),
  (0x71F, 0x727), (0x729, 0x729), (0x72B, 0x72B), (0x72D, 0x72E), (0x74E, 0x758), (0x75C, 0x76A),
  (0x76D, 0x770), (0x772, 0x772), (0x775, 0x777), (0x77A, 0x77F), (0x7CA, 0x7EA), (0x841, 0x845),
  (0x848, 0x848), (0x84A, 0x853), (0x855, 0x855), (0x860, 0x860), (0x862, 0x865), (0x868, 0x868),
  (0x886, 0x886), (0x889, 0x88D), (0x88F, 0x88F), (0x8A0, 0x8A9), (0x8AF, 0x8B0), (0x8B3, 0x8B8),
  (0x8BA, 0x8C8), (0x1807, 0x1807), (0x1820, 0x1878), (0x1887, 0x18A8), (0x18AA, 0x18AA),
  (0xA840, 0xA872), (0x10AC0, 0x10AC4), (0x10ACD, 0x10ACD), (0x10AD3, 0x10ADC),
  (0x10ADE, 0x10AE0), (0x10AEB, 0x10AEE), (0x10B80, 0x10B80), (0x10B82, 0x10B82),
  (0x10B86, 0x10B88), (0x10B8A, 0x10B8B), (0x10B8D, 0x10B8D), (0x10B90, 0x10B90),
  (0x10BAD, 0x10BAE), (0x10D00, 0x10D21), (0x10D23, 0x10D23), (0x10EC3, 0x10EC4),
  (0x10EC6, 0x10EC7), (0x10F30, 0x10F32), (0x10F34, 0x10F44), (0x10F51, 0x10F53),
  (0x10F70, 0x10F73), (0x10F76, 0x10F81), (0x10FB0, 0x10FB0), (0x10FB2, 0x10FB3),
  (0x10FB8, 0x10FB8), (0x10FBB, 0x10FBC), (0x10FBE, 0x10FBF), (0x10FC1, 0x10FC1),
  (0x10FC4, 0x10FC4), (0x10FCA, 0x10FCB), (0x1E900, 0x1E943)]

/-- Letters that are written joined to the letter in front of them. -/
def joinsPreviousRanges : List (Nat × Nat) := [
  (0x620, 0x620), (0x622, 0x63F), (0x641, 0x64A), (0x66E, 0x66F), (0x671, 0x673), (0x675, 0x6D3),
  (0x6D5, 0x6D5), (0x6EE, 0x6EF), (0x6FA, 0x6FC), (0x6FF, 0x6FF), (0x710, 0x710), (0x712, 0x72F),
  (0x74D, 0x77F), (0x7CA, 0x7EA), (0x840, 0x858), (0x860, 0x860), (0x862, 0x865), (0x867, 0x86A),
  (0x870, 0x882), (0x886, 0x886), (0x889, 0x88F), (0x8A0, 0x8AC), (0x8AE, 0x8C8),
  (0x1807, 0x1807), (0x1820, 0x1878), (0x1887, 0x18A8), (0x18AA, 0x18AA), (0xA840, 0xA871),
  (0x10AC0, 0x10AC5), (0x10AC7, 0x10AC7), (0x10AC9, 0x10ACA), (0x10ACE, 0x10AD6),
  (0x10AD8, 0x10AE1), (0x10AE4, 0x10AE4), (0x10AEB, 0x10AEF), (0x10B80, 0x10B91),
  (0x10BA9, 0x10BAE), (0x10D01, 0x10D23), (0x10EC2, 0x10EC4), (0x10EC6, 0x10EC7),
  (0x10F30, 0x10F44), (0x10F51, 0x10F54), (0x10F70, 0x10F81), (0x10FB0, 0x10FB0),
  (0x10FB2, 0x10FB6), (0x10FB8, 0x10FBF), (0x10FC1, 0x10FC4), (0x10FC9, 0x10FCA),
  (0x1E900, 0x1E943)]

end StreamLinks.Url
