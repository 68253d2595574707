/-!
# Characters that consist of others

Which characters can be taken apart into others, and in which order marks
stand behind a letter.  Ranges are closed and ascending.
-/

namespace StreamLinks.Text

/-- Ranges of marks with their rank among the marks of a letter. -/
def rankRanges : List (Nat × Nat × Nat) := [
  (0x300, 0x314, 230), (0x315, 0x315, 232), (0x316, 0x319, 220), (0x31A, 0x31A, 232),
  (0x31B, 0x31B, 216), (0x31C, 0x320, 220), (0x321, 0x322, 202), (0x323, 0x326, 220),
  (0x327, 0x328, 202), (0x329, 0x333, 220), (0x334, 0x338, 1), (0x339, 0x33C, 220),
  (0x33D, 0x344, 230), (0x345, 0x345, 240), (0x346, 0x346, 230), (0x347, 0x349, 220),
  (0x34A, 0x34C, 230), (0x34D, 0x34E, 220), (0x350, 0x352, 230), (0x353, 0x356, 220),
  (0x357, 0x357, 230), (0x358, 0x358, 232), (0x359, 0x35A, 220), (0x35B, 0x35B, 230),
  (0x35C, 0x35C, 233), (0x35D, 0x35E, 234), (0x35F, 0x35F, 233), (0x360, 0x361, 234),
  (0x362, 0x362, 233), (0x363, 0x36F, 230), (0x483, 0x487, 230), (0x591, 0x591, 220),
  (0x592, 0x595, 230), (0x596, 0x596, 220), (0x597, 0x599, 230), (0x59A, 0x59A, 222),
  (0x59B, 0x59B, 220), (0x59C, 0x5A1, 230), (0x5A2, 0x5A7, 220), (0x5A8, 0x5A9, 230),
  (0x5AA, 0x5AA, 220), (0x5AB, 0x5AC, 230), (0x5AD, 0x5AD, 222), (0x5AE, 0x5AE, 228),
  (0x5AF, 0x5AF, 230), (0x5B0, 0x5B0, 10), (0x5B1, 0x5B1, 11), (0x5B2, 0x5B2, 12),
  (0x5B3, 0x5B3, 13), (0x5B4, 0x5B4, 14), (0x5B5, 0x5B5, 15), (0x5B6, 0x5B6, 16),
  (0x5B7, 0x5B7, 17), (0x5B8, 0x5B8, 18), (0x5B9, 0x5BA, 19), (0x5BB, 0x5BB, 20),
  (0x5BC, 0x5BC, 21), (0x5BD, 0x5BD, 22), (0x5BF, 0x5BF, 23), (0x5C1, 0x5C1, 24),
  (0x5C2, 0x5C2, 25), (0x5C4, 0x5C4, 230), (0x5C5, 0x5C5, 220), (0x5C7, 0x5C7, 18),
  (0x610, 0x617, 230), (0x618, 0x618, 30), (0x619, 0x619, 31), (0x61A, 0x61A, 32),
  (0x64B, 0x64B, 27), (0x64C, 0x64C, 28), (0x64D, 0x64D, 29), (0x64E, 0x64E, 30),
  (0x64F, 0x64F, 31), (0x650, 0x650, 32), (0x651, 0x651, 33), (0x652, 0x652, 34),
  (0x653, 0x654, 230), (0x655, 0x656, 220), (0x657, 0x65B, 230), (0x65C, 0x65C, 220),
  (0x65D, 0x65E, 230), (0x65F, 0x65F, 220), (0x670, 0x670, 35), (0x6D6, 0x6DC, 230),
  (0x6DF, 0x6E2, 230), (0x6E3, 0x6E3, 220), (0x6E4, 0x6E4, 230), (0x6E7, 0x6E8, 230),
  (0x6EA, 0x6EA, 220), (0x6EB, 0x6EC, 230), (0x6ED, 0x6ED, 220), (0x711, 0x711, 36),
  (0x730, 0x730, 230), (0x731, 0x731, 220), (0x732, 0x733, 230), (0x734, 0x734, 220),
  (0x735, 0x736, 230), (0x737, 0x739, 220), (0x73A, 0x73A, 230), (0x73B, 0x73C, 220),
  (0x73D, 0x73D, 230), (0x73E, 0x73E, 220), (0x73F, 0x741, 230), (0x742, 0x742, 220),
  (0x743, 0x743, 230), (0x744, 0x744, 220), (0x745, 0x745, 230), (0x746, 0x746, 220),
  (0x747, 0x747, 230), (0x748, 0x748, 220), (0x749, 0x74A, 230), (0x7EB, 0x7F1, 230),
  (0x7F2, 0x7F2, 220), (0x7F3, 0x7F3, 230), (0x7FD, 0x7FD, 220), (0x816, 0x819, 230),
  (0x81B, 0x823, 230), (0x825, 0x827, 230), (0x829, 0x82D, 230), (0x859, 0x85B, 220),
  (0x897, 0x898, 230), (0x899, 0x89B, 220), (0x89C, 0x89F, 230), (0x8CA, 0x8CE, 230),
  (0x8CF, 0x8D3, 220), (0x8D4, 0x8E1, 230), (0x8E3, 0x8E3, 220), (0x8E4, 0x8E5, 230),
  (0x8E6, 0x8E6, 220), (0x8E7, 0x8E8, 230), (0x8E9, 0x8E9, 220), (0x8EA, 0x8EC, 230),
  (0x8ED, 0x8EF, 220), (0x8F0, 0x8F0, 27), (0x8F1, 0x8F1, 28), (0x8F2, 0x8F2, 29),
  (0x8F3, 0x8F5, 230), (0x8F6, 0x8F6, 220), (0x8F7, 0x8F8, 230), (0x8F9, 0x8FA, 220),
  (0x8FB, 0x8FF, 230), (0x93C, 0x93C, 7), (0x94D, 0x94D, 9), (0x951, 0x951, 230),
  (0x952, 0x952, 220), (0x953, 0x954, 230), (0x9BC, 0x9BC, 7), (0x9CD, 0x9CD, 9),
  (0x9FE, 0x9FE, 230), (0xA3C, 0xA3C, 7), (0xA4D, 0xA4D, 9), (0xABC, 0xABC, 7),
  (0xACD, 0xACD, 9), (0xB3C, 0xB3C, 7), (0xB4D, 0xB4D, 9), (0xBCD, 0xBCD, 9), (0xC3C, 0xC3C, 7),
  (0xC4D, 0xC4D, 9), (0xC55, 0xC55, 84), (0xC56, 0xC56, 91), (0xCBC, 0xCBC, 7),
  (0xCCD, 0xCCD, 9), (0xD3B, 0xD3C, 9), (0xD4D, 0xD4D, 9), (0xDCA, 0xDCA, 9),
  (0xE38, 0xE39, 103), (0xE3A, 0xE3A, 9), (0xE48, 0xE4B, 107), (0xEB8, 0xEB9, 118),
  (0xEBA, 0xEBA, 9), (0xEC8, 0xECB, 122), (0xF18, 0xF19, 220), (0xF35, 0xF35, 220),
  (0xF37, 0xF37, 220), (0xF39, 0xF39, 216), (0xF71, 0xF71, 129), (0xF72, 0xF72, 130),
  (0xF74, 0xF74, 132), (0xF7A, 0xF7D, 130), (0xF80, 0xF80, 130), (0xF82, 0xF83, 230),
  (0xF84, 0xF84, 9), (0xF86, 0xF87, 230), (0xFC6, 0xFC6, 220), (0x1037, 0x1037, 7),
  (0x1039, 0x103A, 9), (0x108D, 0x108D, 220), (0x135D, 0x135F, 230), (0x1714, 0x1715, 9),
  (0x1734, 0x1734, 9), (0x17D2, 0x17D2, 9), (0x17DD, 0x17DD, 230), (0x18A9, 0x18A9, 228),
  (0x1939, 0x1939, 222), (0x193A, 0x193A, 230), (0x193B, 0x193B, 220), (0x1A17, 0x1A17, 230),
  (0x1A18, 0x1A18, 220), (0x1A60, 0x1A60, 9), (0x1A75, 0x1A7C, 230), (0x1A7F, 0x1A7F, 220),
  (0x1AB0, 0x1AB4, 230), (0x1AB5, 0x1ABA, 220), (0x1ABB, 0x1ABC, 230), (0x1ABD, 0x1ABD, 220),
  (0x1ABF, 0x1AC0, 220), (0x1AC1, 0x1AC2, 230), (0x1AC3, 0x1AC4, 220), (0x1AC5, 0x1AC9, 230),
  (0x1ACA, 0x1ACA, 220), (0x1ACB, 0x1ADC, 230), (0x1ADD, 0x1ADD, 220), (0x1AE0, 0x1AE5, 230),
  (0x1AE6, 0x1AE6, 220), (0x1AE7, 0x1AEA, 230), (0x1AEB, 0x1AEB, 234), (0x1B34, 0x1B34, 7),
  (0x1B44, 0x1B44, 9), (0x1B6B, 0x1B6B, 230), (0x1B6C, 0x1B6C, 220), (0x1B6D, 0x1B73, 230),
  (0x1BAA, 0x1BAB, 9), (0x1BE6, 0x1BE6, 7), (0x1BF2, 0x1BF3, 9), (0x1C37, 0x1C37, 7),
  (0x1CD0, 0x1CD2, 230), (0x1CD4, 0x1CD4, 1), (0x1CD5, 0x1CD9, 220), (0x1CDA, 0x1CDB, 230),
  (0x1CDC, 0x1CDF, 220), (0x1CE0, 0x1CE0, 230), (0x1CE2, 0x1CE8, 1), (0x1CED, 0x1CED, 220),
  (0x1CF4, 0x1CF4, 230), (0x1CF8, 0x1CF9, 230), (0x1DC0, 0x1DC1, 230), (0x1DC2, 0x1DC2, 220),
  (0x1DC3, 0x1DC9, 230), (0x1DCA, 0x1DCA, 220), (0x1DCB, 0x1DCC, 230), (0x1DCD, 0x1DCD, 234),
  (0x1DCE, 0x1DCE, 214), (0x1DCF, 0x1DCF, 220), (0x1DD0, 0x1DD0, 202), (0x1DD1, 0x1DF5, 230),
  (0x1DF6, 0x1DF6, 232), (0x1DF7, 0x1DF8, 228), (0x1DF9, 0x1DF9, 220), (0x1DFA, 0x1DFA, 218),
  (0x1DFB, 0x1DFB, 230), (0x1DFC, 0x1DFC, 233), (0x1DFD, 0x1DFD, 220), (0x1DFE, 0x1DFE, 230),
  (0x1DFF, 0x1DFF, 220), (0x20D0, 0x20D1, 230), (0x20D2, 0x20D3, 1), (0x20D4, 0x20D7, 230),
  (0x20D8, 0x20DA, 1), (0x20DB, 0x20DC, 230), (0x20E1, 0x20E1, 230), (0x20E5, 0x20E6, 1),
  (0x20E7, 0x20E7, 230), (0x20E8, 0x20E8, 220), (0x20E9, 0x20E9, 230), (0x20EA, 0x20EB, 1),
  (0x20EC, 0x20EF, 220), (0x20F0, 0x20F0, 230), (0x2CEF, 0x2CF1, 230), (0x2D7F, 0x2D7F, 9),
  (0x2DE0, 0x2DFF, 230), (0x302A, 0x302A, 218), (0x302B, 0x302B, 228), (0x302C, 0x302C, 232),
  (0x302D, 0x302D, 222), (0x302E, 0x302F, 224), (0x3099, 0x309A, 8), (0xA66F, 0xA66F, 230),
  (0xA674, 0xA67D, 230), (0xA69E, 0xA69F, 230), (0xA6F0, 0xA6F1, 230), (0xA806, 0xA806, 9),
  (0xA82C, 0xA82C, 9), (0xA8C4, 0xA8C4, 9), (0xA8E0, 0xA8F1, 230), (0xA92B, 0xA92D, 220),
  (0xA953, 0xA953, 9), (0xA9B3, 0xA9B3, 7), (0xA9C0, 0xA9C0, 9), (0xAAB0, 0xAAB0, 230),
  (0xAAB2, 0xAAB3, 230), (0xAAB4, 0xAAB4, 220), (0xAAB7, 0xAAB8, 230), (0xAABE, 0xAABF, 230),
  (0xAAC1, 0xAAC1, 230), (0xAAF6, 0xAAF6, 9), (0xABED, 0xABED, 9), (0xFB1E, 0xFB1E, 26),
  (0xFE20, 0xFE26, 230), (0xFE27, 0xFE2D, 220), (0xFE2E, 0xFE2F, 230), (0x101FD, 0x101FD, 220),
  (0x102E0, 0x102E0, 220), (0x10376, 0x1037A, 230), (0x10A0D, 0x10A0D, 220),
  (0x10A0F, 0x10A0F, 230), (0x10A38, 0x10A38, 230), (0x10A39, 0x10A39, 1),
  (0x10A3A, 0x10A3A, 220), (0x10A3F, 0x10A3F, 9), (0x10AE5, 0x10AE5, 230),
  (0x10AE6, 0x10AE6, 220), (0x10D24, 0x10D27, 230), (0x10D69, 0x10D6D, 230),
  (0x10EAB, 0x10EAC, 230), (0x10EFA, 0x10EFB, 220), (0x10EFD, 0x10EFF, 220),
  (0x10F46, 0x10F47, 220), (0x10F48, 0x10F4A, 230), (0x10F4B, 0x10F4B, 220),
  (0x10F4C, 0x10F4C, 230), (0x10F4D, 0x10F50, 220), (0x10F82, 0x10F82, 230),
  (0x10F83, 0x10F83, 220), (0x10F84, 0x10F84, 230), (0x10F85, 0x10F85, 220),
  (0x11046, 0x11046, 9), (0x11070, 0x11070, 9), (0x1107F, 0x1107F, 9), (0x110B9, 0x110B9, 9),
  (0x110BA, 0x110BA, 7), (0x11100, 0x11102, 230), (0x11133, 0x11134, 9), (0x11173, 0x11173, 7),
  (0x111C0, 0x111C0, 9), (0x111CA, 0x111CA, 7), (0x11235, 0x11235, 9), (0x11236, 0x11236, 7),
  (0x112E9, 0x112E9, 7), (0x112EA, 0x112EA, 9), (0x1133B, 0x1133C, 7), (0x1134D, 0x1134D, 9),
  (0x11366, 0x1136C, 230), (0x11370, 0x11374, 230), (0x113CE, 0x113D0, 9), (0x11442, 0x11442, 9),
  (0x11446, 0x11446, 7), (0x1145E, 0x1145E, 230), (0x114C2, 0x114C2, 9), (0x114C3, 0x114C3, 7),
  (0x115BF, 0x115BF, 9), (0x115C0, 0x115C0, 7), (0x1163F, 0x1163F, 9), (0x116B6, 0x116B6, 9),
  (0x116B7, 0x116B7, 7), (0x1172B, 0x1172B, 9), (0x11839, 0x11839, 9), (0x1183A, 0x1183A, 7),
  (0x1193D, 0x1193E, 9), (0x11943, 0x11943, 7), (0x119E0, 0x119E0, 9), (0x11A34, 0x11A34, 9),
  (0x11A47, 0x11A47, 9), (0x11A99, 0x11A99, 9), (0x11C3F, 0x11C3F, 9), (0x11D42, 0x11D42, 7),
  (0x11D44, 0x11D45, 9), (0x11D97, 0x11D97, 9), (0x11F41, 0x11F42, 9), (0x1612F, 0x1612F, 9),
  (0x16AF0, 0x16AF4, 1), (0x16B30, 0x16B36, 230), (0x16FF0, 0x16FF1, 6), (0x1BC9E, 0x1BC9E, 1),
  (0x1D165, 0x1D166, 216), (0x1D167, 0x1D169, 1), (0x1D16D, 0x1D16D, 226),
  (0x1D16E, 0x1D172, 216), (0x1D17B, 0x1D182, 220), (0x1D185, 0x1D189, 230),
  (0x1D18A, 0x1D18B, 220), (0x1D1AA, 0x1D1AD, 230), (0x1D242, 0x1D244, 230),
  (0x1E000, 0x1E006, 230), (0x1E008, 0x1E018, 230), (0x1E01B, 0x1E021, 230),
  (0x1E023, 0x1E024, 230), (0x1E026, 0x1E02A, 230), (0x1E08F, 0x1E08F, 230),
  (0x1E130, 0x1E136, 230), (0x1E2AE, 0x1E2AE, 230), (0x1E2EC, 0x1E2EF, 230),
  (0x1E4EC, 0x1E4ED, 232), (0x1E4EE, 0x1E4EE, 220), (0x1E4EF, 0x1E4EF, 230),
  (0x1E5EE, 0x1E5EE, 230), (0x1E5EF, 0x1E5EF, 220), (0x1E6E3, 0x1E6E3, 230),
  (0x1E6E6, 0x1E6E6, 230), (0x1E6EE, 0x1E6EF, 230), (0x1E6F5, 0x1E6F5, 230),
  (0x1E8D0, 0x1E8D6, 220), (0x1E944, 0x1E949, 230), (0x1E94A, 0x1E94A, 7)]

/-- Characters that others are put together to: each word is a character and
all that it consists of. -/
def composedWords : List String := [
  "ÀÀ ÁÁ ÂÂ ÃÃ ÄÄ ÅÅ ÇÇ ÈÈ ÉÉ ÊÊ ËË ÌÌ ÍÍ ÎÎ ÏÏ ÑÑ ÒÒ ÓÓ ÔÔ",
  "ÕÕ ÖÖ ÙÙ ÚÚ ÛÛ ÜÜ ÝÝ àà áá ââ ãã ää åå çç èè éé êê ëë ìì",
  "íí îî ïï ññ òò óó ôô õõ öö ùù úú ûû üü ýý ÿÿ ĀĀ āā ĂĂ ăă",
  "ĄĄ ąą ĆĆ ćć ĈĈ ĉĉ ĊĊ ċċ ČČ čč ĎĎ ďď ĒĒ ēē ĔĔ ĕĕ ĖĖ ėė ĘĘ",
  "ęę ĚĚ ěě ĜĜ ĝĝ ĞĞ ğğ ĠĠ ġġ ĢĢ ģģ ĤĤ ĥĥ ĨĨ ĩĩ ĪĪ īī ĬĬ ĭĭ",
  "ĮĮ įį İİ ĴĴ ĵĵ ĶĶ ķķ ĹĹ ĺĺ ĻĻ ļļ ĽĽ ľľ ŃŃ ńń ŅŅ ņņ ŇŇ ňň",
  "ŌŌ ōō ŎŎ ŏŏ ŐŐ őő ŔŔ ŕŕ ŖŖ ŗŗ ŘŘ řř ŚŚ śś ŜŜ ŝŝ ŞŞ şş ŠŠ",
  "šš ŢŢ ţţ ŤŤ ťť ŨŨ ũũ ŪŪ ūū ŬŬ ŭŭ ŮŮ ůů ŰŰ űű ŲŲ ųų ŴŴ ŵŵ",
  "ŶŶ ŷŷ ŸŸ ŹŹ źź ŻŻ żż ŽŽ žž ƠƠ ơơ ƯƯ ưư ǍǍ ǎǎ ǏǏ ǐǐ ǑǑ ǒǒ",
  "ǓǓ ǔǔ ǕǕ ǖǖ ǗǗ ǘǘ ǙǙ ǚǚ ǛǛ ǜǜ ǞǞ ǟǟ ǠǠ ǡǡ ǢǢ ǣǣ",
  "ǦǦ ǧǧ ǨǨ ǩǩ ǪǪ ǫǫ ǬǬ ǭǭ ǮǮ ǯǯ ǰǰ ǴǴ ǵǵ ǸǸ ǹǹ ǺǺ ǻǻ ǼǼ",
  "ǽǽ ǾǾ ǿǿ ȀȀ ȁȁ ȂȂ ȃȃ ȄȄ ȅȅ ȆȆ ȇȇ ȈȈ ȉȉ ȊȊ ȋȋ ȌȌ ȍȍ ȎȎ ȏȏ",
  "ȐȐ ȑȑ ȒȒ ȓȓ ȔȔ ȕȕ ȖȖ ȗȗ ȘȘ șș ȚȚ țț ȞȞ ȟȟ ȦȦ ȧȧ ȨȨ ȩȩ",
  "ȪȪ ȫȫ ȬȬ ȭȭ ȮȮ ȯȯ ȰȰ ȱȱ ȲȲ ȳȳ ΅΅ ΆΆ ΈΈ ΉΉ ΊΊ ΌΌ ΎΎ",
  "ΏΏ ΐΐ ΪΪ ΫΫ άά έέ ήή ίί ΰΰ ϊϊ ϋϋ όό ύύ ώώ ϓϓ ϔϔ ЀЀ ЁЁ",
  "ЃЃ ЇЇ ЌЌ ЍЍ ЎЎ ЙЙ йй ѐѐ ёё ѓѓ її ќќ ѝѝ ўў ѶѶ ѷѷ ӁӁ ӂӂ ӐӐ",
  "ӑӑ ӒӒ ӓӓ ӖӖ ӗӗ ӚӚ ӛӛ ӜӜ ӝӝ ӞӞ ӟӟ ӢӢ ӣӣ ӤӤ ӥӥ ӦӦ ӧӧ ӪӪ ӫӫ",
  "ӬӬ ӭӭ ӮӮ ӯӯ ӰӰ ӱӱ ӲӲ ӳӳ ӴӴ ӵӵ ӸӸ ӹӹ آآ أأ ؤؤ إإ ئئ ۀۀ ۂۂ",
  "ۓۓ ऩऩ ऱऱ ऴऴ োো ৌৌ ୈୈ ୋୋ ୌୌ ஔஔ ொொ ோோ ௌௌ ైై ೀೀ ೇೇ ೈೈ ೊೊ",
  "ೋೋ ൊൊ ോോ ൌൌ ේේ ොො ෝෝ ෞෞ ဦဦ ᬆᬆ ᬈᬈ ᬊᬊ ᬌᬌ ᬎᬎ ᬒᬒ ᬻᬻ ᬽᬽ ᭀᭀ",
  "ᭁᭁ ᭃᭃ ḀḀ ḁḁ ḂḂ ḃḃ ḄḄ ḅḅ ḆḆ ḇḇ ḈḈ ḉḉ ḊḊ ḋḋ ḌḌ ḍḍ ḎḎ ḏḏ",
  "ḐḐ ḑḑ ḒḒ ḓḓ ḔḔ ḕḕ ḖḖ ḗḗ ḘḘ ḙḙ ḚḚ ḛḛ ḜḜ ḝḝ ḞḞ ḟḟ ḠḠ",
  "ḡḡ ḢḢ ḣḣ ḤḤ ḥḥ ḦḦ ḧḧ ḨḨ ḩḩ ḪḪ ḫḫ ḬḬ ḭḭ ḮḮ ḯḯ ḰḰ ḱḱ ḲḲ",
  "ḳḳ ḴḴ ḵḵ ḶḶ ḷḷ ḸḸ ḹḹ ḺḺ ḻḻ ḼḼ ḽḽ ḾḾ ḿḿ ṀṀ ṁṁ ṂṂ ṃṃ ṄṄ",
  "ṅṅ ṆṆ ṇṇ ṈṈ ṉṉ ṊṊ ṋṋ ṌṌ ṍṍ ṎṎ ṏṏ ṐṐ ṑṑ ṒṒ ṓṓ ṔṔ ṕṕ",
  "ṖṖ ṗṗ ṘṘ ṙṙ ṚṚ ṛṛ ṜṜ ṝṝ ṞṞ ṟṟ ṠṠ ṡṡ ṢṢ ṣṣ ṤṤ ṥṥ ṦṦ",
  "ṧṧ ṨṨ ṩṩ ṪṪ ṫṫ ṬṬ ṭṭ ṮṮ ṯṯ ṰṰ ṱṱ ṲṲ ṳṳ ṴṴ ṵṵ ṶṶ ṷṷ ṸṸ",
  "ṹṹ ṺṺ ṻṻ ṼṼ ṽṽ ṾṾ ṿṿ ẀẀ ẁẁ ẂẂ ẃẃ ẄẄ ẅẅ ẆẆ ẇẇ ẈẈ ẉẉ ẊẊ",
  "ẋẋ ẌẌ ẍẍ ẎẎ ẏẏ ẐẐ ẑẑ ẒẒ ẓẓ ẔẔ ẕẕ ẖẖ ẗẗ ẘẘ ẙẙ ẛẛ ẠẠ ạạ ẢẢ",
  "ảả ẤẤ ấấ ẦẦ ầầ ẨẨ ẩẩ ẪẪ ẫẫ ẬẬ ậậ ẮẮ ắắ ẰẰ ằằ",
  "ẲẲ ẳẳ ẴẴ ẵẵ ẶẶ ặặ ẸẸ ẹẹ ẺẺ ẻẻ ẼẼ ẽẽ ẾẾ ếế ỀỀ ềề",
  "ỂỂ ểể ỄỄ ễễ ỆỆ ệệ ỈỈ ỉỉ ỊỊ ịị ỌỌ ọọ ỎỎ ỏỏ ỐỐ ốố",
  "ỒỒ ồồ ỔỔ ổổ ỖỖ ỗỗ ỘỘ ộộ ỚỚ ớớ ỜỜ ờờ ỞỞ ởở ỠỠ",
  "ỡỡ ỢỢ ợợ ỤỤ ụụ ỦỦ ủủ ỨỨ ứứ ỪỪ ừừ ỬỬ ửử ỮỮ ữữ ỰỰ",
  "ựự ỲỲ ỳỳ ỴỴ ỵỵ ỶỶ ỷỷ ỸỸ ỹỹ ἀἀ ἁἁ ἂἂ ἃἃ ἄἄ ἅἅ ἆἆ ἇἇ",
  "ἈἈ ἉἉ ἊἊ ἋἋ ἌἌ ἍἍ ἎἎ ἏἏ ἐἐ ἑἑ ἒἒ ἓἓ ἔἔ ἕἕ ἘἘ ἙἙ",
  "ἚἚ ἛἛ ἜἜ ἝἝ ἠἠ ἡἡ ἢἢ ἣἣ ἤἤ ἥἥ ἦἦ ἧἧ ἨἨ ἩἩ ἪἪ ἫἫ",
  "ἬἬ ἭἭ ἮἮ ἯἯ ἰἰ ἱἱ ἲἲ ἳἳ ἴἴ ἵἵ ἶἶ ἷἷ ἸἸ ἹἹ ἺἺ ἻἻ",
  "ἼἼ ἽἽ ἾἾ ἿἿ ὀὀ ὁὁ ὂὂ ὃὃ ὄὄ ὅὅ ὈὈ ὉὉ ὊὊ ὋὋ ὌὌ ὍὍ",
  "ὐὐ ὑὑ ὒὒ ὓὓ ὔὔ ὕὕ ὖὖ ὗὗ ὙὙ ὛὛ ὝὝ ὟὟ ὠὠ ὡὡ ὢὢ ὣὣ",
  "ὤὤ ὥὥ ὦὦ ὧὧ ὨὨ ὩὩ ὪὪ ὫὫ ὬὬ ὭὭ ὮὮ ὯὯ ὰὰ ὲὲ ὴὴ ὶὶ",
  "ὸὸ ὺὺ ὼὼ ᾀᾀ ᾁᾁ ᾂᾂ ᾃᾃ ᾄᾄ ᾅᾅ ᾆᾆ ᾇᾇ ᾈᾈ ᾉᾉ ᾊᾊ",
  "ᾋᾋ ᾌᾌ ᾍᾍ ᾎᾎ ᾏᾏ ᾐᾐ ᾑᾑ ᾒᾒ ᾓᾓ ᾔᾔ ᾕᾕ ᾖᾖ ᾗᾗ",
  "ᾘᾘ ᾙᾙ ᾚᾚ ᾛᾛ ᾜᾜ ᾝᾝ ᾞᾞ ᾟᾟ ᾠᾠ ᾡᾡ ᾢᾢ ᾣᾣ ᾤᾤ",
  "ᾥᾥ ᾦᾦ ᾧᾧ ᾨᾨ ᾩᾩ ᾪᾪ ᾫᾫ ᾬᾬ ᾭᾭ ᾮᾮ ᾯᾯ ᾰᾰ ᾱᾱ",
  "ᾲᾲ ᾳᾳ ᾴᾴ ᾶᾶ ᾷᾷ ᾸᾸ ᾹᾹ ᾺᾺ ᾼᾼ ῁῁ ῂῂ ῃῃ ῄῄ ῆῆ ῇῇ ῈῈ ῊῊ",
  "ῌῌ ῍῍ ῎῎ ῏῏ ῐῐ ῑῑ ῒῒ ῖῖ ῗῗ ῘῘ ῙῙ ῚῚ ῝῝ ῞῞ ῟῟ ῠῠ ῡῡ ῢῢ",
  "ῤῤ ῥῥ ῦῦ ῧῧ ῨῨ ῩῩ ῪῪ ῬῬ ῭῭ ῲῲ ῳῳ ῴῴ ῶῶ ῷῷ ῸῸ ῺῺ ῼῼ ↚↚",
  "↛↛ ↮↮ ⇍⇍ ⇎⇎ ⇏⇏ ∄∄ ∉∉ ∌∌ ∤∤ ∦∦ ≁≁ ≄≄ ≇≇ ≉≉ ≠≠ ≢≢ ≭≭ ≮≮ ≯≯",
  "≰≰ ≱≱ ≴≴ ≵≵ ≸≸ ≹≹ ⊀⊀ ⊁⊁ ⊄⊄ ⊅⊅ ⊈⊈ ⊉⊉ ⊬⊬ ⊭⊭ ⊮⊮ ⊯⊯ ⋠⋠ ⋡⋡ ⋢⋢",
  "⋣⋣ ⋪⋪ ⋫⋫ ⋬⋬ ⋭⋭ がが ぎぎ ぐぐ げげ ごご ざざ じじ ずず ぜぜ ぞぞ だだ ぢぢ づづ でで",
  "どど ばば ぱぱ びび ぴぴ ぶぶ ぷぷ べべ ぺぺ ぼぼ ぽぽ ゔゔ ゞゞ ガガ ギギ ググ ゲゲ ゴゴ ザザ",
  "ジジ ズズ ゼゼ ゾゾ ダダ ヂヂ ヅヅ デデ ドド ババ パパ ビビ ピピ ブブ ププ ベベ ペペ ボボ ポポ",
  "ヴヴ ヷヷ ヸヸ ヹヹ ヺヺ ヾヾ 𐗉𐗉 𐗤𐗤 𑂚𑂚 𑂜𑂜 𑂫𑂫 𑄮𑄮 𑄯𑄯 𑍋𑍋 𑍌𑍌 𑎃𑎃 𑎅𑎅 𑎎𑎎 𑎑𑎑",
  "𑏅𑏅 𑏇𑏇 𑏈𑏈 𑒻𑒻 𑒼𑒼 𑒾𑒾 𑖺𑖺 𑖻𑖻 𑤸𑤸 𖄡𖄡 𖄢𖄢 𖄣𖄣 𖄤𖄤 𖄥𖄥 𖄦𖄦 𖄧𖄧 𖄨𖄨 𖵨𖵨",
  "𖵩𖵩 𖵪𖵪"]

/-- Characters that are taken apart for good. -/
def dividedWords : List String := [
  "̀̀ ́́ ̓̓ ̈́̈́ ʹʹ ;; ·· क़क़ ख़ख़ ग़ग़ ज़ज़ ड़ड़ ढ़ढ़ फ़फ़ य़य़ ড়ড় ঢ়ঢ় য়য় ਲ਼ਲ਼ ਸ਼ਸ਼",
  "ਖ਼ਖ਼ ਗ਼ਗ਼ ਜ਼ਜ਼ ਫ਼ਫ਼ ଡ଼ଡ଼ ଢ଼ଢ଼ གྷགྷ ཌྷཌྷ དྷདྷ བྷབྷ ཛྷཛྷ ཀྵཀྵ ཱཱིི ཱཱུུ ྲྀྲྀ ླྀླྀ ཱཱྀྀ ྒྷྒྷ ྜྷྜྷ",
  "ྡྷྡྷ ྦྷྦྷ ྫྷྫྷ ྐྵྐྵ άά έέ ήή ίί όό ύύ ώώ ΆΆ ιι ΈΈ ΉΉ ΐΐ ΊΊ ΰΰ",
  "ΎΎ ΅΅ `\x60 ΌΌ ΏΏ ´´ \u2000\u2002 \u2001\u2003 ΩΩ KK ÅÅ 〈〈 〉〉 ⫝̸⫝̸ 豈豈",
  "更更 車車 賈賈 滑滑 串串 句句 龜龜 龜龜 契契 金金 喇喇 奈奈 懶懶 癩癩 羅羅 蘿蘿 螺螺 裸裸 邏邏 樂樂 洛洛 烙烙 珞珞 落落 酪酪",
  "駱駱 亂亂 卵卵 欄欄 爛爛 蘭蘭 鸞鸞 嵐嵐 濫濫 藍藍 襤襤 拉拉 臘臘 蠟蠟 廊廊 朗朗 浪浪 狼狼 郎郎 來來 冷冷 勞勞 擄擄 櫓櫓 爐爐",
  "盧盧 老老 蘆蘆 虜虜 路路 露露 魯魯 鷺鷺 碌碌 祿祿 綠綠 菉菉 錄錄 鹿鹿 論論 壟壟 弄弄 籠籠 聾聾 牢牢 磊磊 賂賂 雷雷 壘壘 屢屢",
  "樓樓 淚淚 漏漏 累累 縷縷 陋陋 勒勒 肋肋 凜凜 凌凌 稜稜 綾綾 菱菱 陵陵 讀讀 拏拏 樂樂 諾諾 丹丹 寧寧 怒怒 率率 異異 北北 磻磻",
  "便便 復復 不不 泌泌 數數 索索 參參 塞塞 省省 葉葉 說說 殺殺 辰辰 沈沈 拾拾 若若 掠掠 略略 亮亮 兩兩 凉凉 梁梁 糧糧 良良 諒諒",
  "量量 勵勵 呂呂 女女 廬廬 旅旅 濾濾 礪礪 閭閭 驪驪 麗麗 黎黎 力力 曆曆 歷歷 轢轢 年年 憐憐 戀戀 撚撚 漣漣 煉煉 璉璉 秊秊 練練",
  "聯聯 輦輦 蓮蓮 連連 鍊鍊 列列 劣劣 咽咽 烈烈 裂裂 說說 廉廉 念念 捻捻 殮殮 簾簾 獵獵 令令 囹囹 寧寧 嶺嶺 怜怜 玲玲 瑩瑩 羚羚",
  "聆聆 鈴鈴 零零 靈靈 領領 例例 禮禮 醴醴 隸隸 惡惡 了了 僚僚 寮寮 尿尿 料料 樂樂 燎燎 療療 蓼蓼 遼遼 龍龍 暈暈 阮阮 劉劉 杻杻",
  "柳柳 流流 溜溜 琉琉 留留 硫硫 紐紐 類類 六六 戮戮 陸陸 倫倫 崙崙 淪淪 輪輪 律律 慄慄 栗栗 率率 隆隆 利利 吏吏 履履 易易 李李",
  "梨梨 泥泥 理理 痢痢 罹罹 裏裏 裡裡 里里 離離 匿匿 溺溺 吝吝 燐燐 璘璘 藺藺 隣隣 鱗鱗 麟麟 林林 淋淋 臨臨 立立 笠笠 粒粒 狀狀",
  "炙炙 識識 什什 茶茶 刺刺 切切 度度 拓拓 糖糖 宅宅 洞洞 暴暴 輻輻 行行 降降 見見 廓廓 兀兀 嗀嗀 塚塚 晴晴 凞凞 猪猪 益益 礼礼",
  "神神 祥祥 福福 靖靖 精精 羽羽 蘒蘒 諸諸 逸逸 都都 飯飯 飼飼 館館 鶴鶴 郞郞 隷隷 侮侮 僧僧 免免 勉勉 勤勤 卑卑 喝喝 嘆嘆 器器",
  "塀塀 墨墨 層層 屮屮 悔悔 慨慨 憎憎 懲懲 敏敏 既既 暑暑 梅梅 海海 渚渚 漢漢 煮煮 爫爫 琢琢 碑碑 社社 祉祉 祈祈 祐祐 祖祖 祝祝",
  "禍禍 禎禎 穀穀 突突 節節 練練 縉縉 繁繁 署署 者者 臭臭 艹艹 艹艹 著著 褐褐 視視 謁謁 謹謹 賓賓 贈贈 辶辶 逸逸 難難 響響 頻頻",
  "恵恵 𤋮𤋮 舘舘 並並 况况 全全 侀侀 充充 冀冀 勇勇 勺勺 喝喝 啕啕 喙喙 嗢嗢 塚塚 墳墳 奄奄 奔奔 婢婢 嬨嬨 廒廒 廙廙 彩彩 徭徭",
  "惘惘 慎慎 愈愈 憎憎 慠慠 懲懲 戴戴 揄揄 搜搜 摒摒 敖敖 晴晴 朗朗 望望 杖杖 歹歹 殺殺 流流 滛滛 滋滋 漢漢 瀞瀞 煮煮 瞧瞧 爵爵",
  "犯犯 猪猪 瑱瑱 甆甆 画画 瘝瘝 瘟瘟 益益 盛盛 直直 睊睊 着着 磌磌 窱窱 節節 类类 絛絛 練練 缾缾 者者 荒荒 華華 蝹蝹 襁襁 覆覆",
  "視視 調調 諸諸 請請 謁謁 諾諾 諭諭 謹謹 變變 贈贈 輸輸 遲遲 醙醙 鉶鉶 陼陼 難難 靖靖 韛韛 響響 頋頋 頻頻 鬒鬒 龜龜 𢡊𢡊 𢡄𢡄",
  "𣏕𣏕 㮝㮝 䀘䀘 䀹䀹 𥉉𥉉 𥳐𥳐 𧻓𧻓 齃齃 龎龎 יִיִ ײַײַ שׁשׁ שׂשׂ שּׁשּׁ שּׂשּׂ אַאַ אָאָ אּאּ בּבּ גּגּ",
  "דּדּ הּהּ וּוּ זּזּ טּטּ יּיּ ךּךּ כּכּ לּלּ מּמּ נּנּ סּסּ ףּףּ פּפּ צּצּ קּקּ רּרּ שּשּ תּתּ",
  "וֹוֹ בֿבֿ כֿכֿ פֿפֿ 𝅗𝅥𝅗𝅥 𝅘𝅥𝅘𝅥 𝅘𝅥𝅮𝅘𝅥𝅮 𝅘𝅥𝅯𝅘𝅥𝅯 𝅘𝅥𝅰𝅘𝅥𝅰 𝅘𝅥𝅱𝅘𝅥𝅱 𝅘𝅥𝅲𝅘𝅥𝅲 𝆹𝅥𝆹𝅥 𝆺𝅥𝆺𝅥 𝆹𝅥𝅮𝆹𝅥𝅮 𝆺𝅥𝅮𝆺𝅥𝅮 𝆹𝅥𝅯𝆹𝅥𝅯",
  "𝆺𝅥𝅯𝆺𝅥𝅯 丽丽 丸丸 乁乁 𠄢𠄢 你你 侮侮 侻侻 倂倂 偺偺 備備 僧僧 像像 㒞㒞 𠘺𠘺 免免 兔兔 兤兤 具具 𠔜𠔜 㒹㒹 內內 再再 𠕋𠕋",
  "冗冗 冤冤 仌仌 冬冬 况况 𩇟𩇟 凵凵 刃刃 㓟㓟 刻刻 剆剆 割割 剷剷 㔕㔕 勇勇 勉勉 勤勤 勺勺 包包 匆匆 北北 卉卉 卑卑 博博 即即",
  "卽卽 卿卿 卿卿 卿卿 𠨬𠨬 灰灰 及及 叟叟 𠭣𠭣 叫叫 叱叱 吆吆 咞咞 吸吸 呈呈 周周 咢咢 哶哶 唐唐 啓啓 啣啣 善善 善善 喙喙 喫喫",
  "喳喳 嗂嗂 圖圖 嘆嘆 圗圗 噑噑 噴噴 切切 壮壮 城城 埴埴 堍堍 型型 堲堲 報報 墬墬 𡓤𡓤 売売 壷壷 夆夆 多多 夢夢 奢奢 𡚨𡚨 𡛪𡛪",
  "姬姬 娛娛 娧娧 姘姘 婦婦 㛮㛮 㛼㛼 嬈嬈 嬾嬾 嬾嬾 𡧈𡧈 寃寃 寘寘 寧寧 寳寳 𡬘𡬘 寿寿 将将 当当 尢尢 㞁㞁 屠屠 屮屮 峀峀 岍岍",
  "𡷤𡷤 嵃嵃 𡷦𡷦 嵮嵮 嵫嵫 嵼嵼 巡巡 巢巢 㠯㠯 巽巽 帨帨 帽帽 幩幩 㡢㡢 𢆃𢆃 㡼㡼 庰庰 庳庳 庶庶 廊廊 𪎒𪎒 廾廾 𢌱𢌱 𢌱𢌱 舁舁",
  "弢弢 弢弢 㣇㣇 𣊸𣊸 𦇚𦇚 形形 彫彫 㣣㣣 徚徚 忍忍 志志 忹忹 悁悁 㤺㤺 㤜㤜 悔悔 𢛔𢛔 惇惇 慈慈 慌慌 慎慎 慌慌 慺慺 憎憎 憲憲",
  "憤憤 憯憯 懞懞 懲懲 懶懶 成成 戛戛 扝扝 抱抱 拔拔 捐捐 𢬌𢬌 挽挽 拼拼 捨捨 掃掃 揤揤 𢯱𢯱 搢搢 揅揅 掩掩 㨮㨮 摩摩 摾摾 撝撝",
  "摷摷 㩬㩬 敏敏 敬敬 𣀊𣀊 旣旣 書書 晉晉 㬙㬙 暑暑 㬈㬈 㫤㫤 冒冒 冕冕 最最 暜暜 肭肭 䏙䏙 朗朗 望望 朡朡 杞杞 杓杓 𣏃𣏃 㭉㭉",
  "柺柺 枅枅 桒桒 梅梅 𣑭𣑭 梎梎 栟栟 椔椔 㮝㮝 楂楂 榣榣 槪槪 檨檨 𣚣𣚣 櫛櫛 㰘㰘 次次 𣢧𣢧 歔歔 㱎㱎 歲歲 殟殟 殺殺 殻殻 𣪍𣪍",
  "𡴋𡴋 𣫺𣫺 汎汎 𣲼𣲼 沿沿 泍泍 汧汧 洖洖 派派 海海 流流 浩浩 浸浸 涅涅 𣴞𣴞 洴洴 港港 湮湮 㴳㴳 滋滋 滇滇 𣻑𣻑 淹淹 潮潮 𣽞𣽞",
  "𣾎𣾎 濆濆 瀹瀹 瀞瀞 瀛瀛 㶖㶖 灊灊 災災 灷灷 炭炭 𠔥𠔥 煅煅 𤉣𤉣 熜熜 𤎫𤎫 爨爨 爵爵 牐牐 𤘈𤘈 犀犀 犕犕 𤜵𤜵 𤠔𤠔 獺獺 王王",
  "㺬㺬 玥玥 㺸㺸 㺸㺸 瑇瑇 瑜瑜 瑱瑱 璅璅 瓊瓊 㼛㼛 甤甤 𤰶𤰶 甾甾 𤲒𤲒 異異 𢆟𢆟 瘐瘐 𤾡𤾡 𤾸𤾸 𥁄𥁄 㿼㿼 䀈䀈 直直 𥃳𥃳 𥃲𥃲",
  "𥄙𥄙 𥄳𥄳 眞眞 真真 真真 睊睊 䀹䀹 瞋瞋 䁆䁆 䂖䂖 𥐝𥐝 硎硎 碌碌 磌磌 䃣䃣 𥘦𥘦 祖祖 𥚚𥚚 𥛅𥛅 福福 秫秫 䄯䄯 穀穀 穊穊 穏穏",
  "𥥼𥥼 𥪧𥪧 𥪧𥪧 竮竮 䈂䈂 𥮫𥮫 篆篆 築築 䈧䈧 𥲀𥲀 糒糒 䊠䊠 糨糨 糣糣 紀紀 𥾆𥾆 絣絣 䌁䌁 緇緇 縂縂 繅繅 䌴䌴 𦈨𦈨 𦉇𦉇 䍙䍙",
  "𦋙𦋙 罺罺 𦌾𦌾 羕羕 翺翺 者者 𦓚𦓚 𦔣𦔣 聠聠 𦖨𦖨 聰聰 𣍟𣍟 䏕䏕 育育 脃脃 䐋䐋 脾脾 媵媵 𦞧𦞧 𦞵𦞵 𣎓𣎓 𣎜𣎜 舁舁 舄舄 辞辞",
  "䑫䑫 芑芑 芋芋 芝芝 劳劳 花花 芳芳 芽芽 苦苦 𦬼𦬼 若若 茝茝 荣荣 莭莭 茣茣 莽莽 菧菧 著著 荓荓 菊菊 菌菌 菜菜 𦰶𦰶 𦵫𦵫 𦳕𦳕",
  "䔫䔫 蓱蓱 蓳蓳 蔖蔖 𧏊𧏊 蕤蕤 𦼬𦼬 䕝䕝 䕡䕡 𦾱𦾱 𧃒𧃒 䕫䕫 虐虐 虜虜 虧虧 虩虩 蚩蚩 蚈蚈 蜎蜎 蛢蛢 蝹蝹 蜨蜨 蝫蝫 螆螆 䗗䗗",
  "蟡蟡 蠁蠁 䗹䗹 衠衠 衣衣 𧙧𧙧 裗裗 裞裞 䘵䘵 裺裺 㒻㒻 𧢮𧢮 𧥦𧥦 䚾䚾 䛇䛇 誠誠 諭諭 變變 豕豕 𧲨𧲨 貫貫 賁賁 贛贛 起起 𧼯𧼯",
  "𠠄𠠄 跋跋 趼趼 跰跰 𠣞𠣞 軔軔 輸輸 𨗒𨗒 𨗭𨗭 邔邔 郱郱 鄑鄑 𨜮𨜮 鄛鄛 鈸鈸 鋗鋗 鋘鋘 鉼鉼 鏹鏹 鐕鐕 𨯺𨯺 開開 䦕䦕 閷閷 𨵷𨵷",
  "䧦䧦 雃雃 嶲嶲 霣霣 𩅅𩅅 𩈚𩈚 䩮䩮 䩶䩶 韠韠 𩐊𩐊 䪲䪲 𩒖𩒖 頋頋 頋頋 頩頩 𩖶𩖶 飢飢 䬳䬳 餩餩 馧馧 駂駂 駾駾 䯎䯎 𩬰𩬰 鬒鬒",
  "鱀鱀 鳽鳽 䳎䳎 䳭䳭 鵧鵧 𪃎𪃎 䳸䳸 𪄅𪄅 𪈎𪈎 𪊑𪊑 麻麻 䵖䵖 黹黹 黾黾 鼅鼅 鼏鼏 鼖鼖 鼻鼻 𪘀𪘀"]

end StreamLinks.Text
