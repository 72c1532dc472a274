import RepoSearch.Text.Lowercase
/-! Character classes of the full-text index. Its character table classes code points by an
early Unicode version: letters, numbers and private-use characters make up tokens, and so does
every code point the table does not list (unassigned then, or assigned since), while the other
listed code points separate tokens. A few combining accents continue a token they follow but
never start one. Tokens are case-folded by the table's own simple folding. -/
namespace RepoSearch.Text

def indexSeparatorTable : RangeTable := #[
  (0x0, 0x2F), (0x3A, 0x40), (0x5B, 0x60), (0x7B, 0xA9), (0xAB, 0xB1), (0xB4, 0xB4),
  (0xB6, 0xB8), (0xBB, 0xBB), (0xBF, 0xBF), (0xD7, 0xD7), (0xF7, 0xF7), (0x2C2, 0x2C5),
  (0x2D2, 0x2DF), (0x2E5, 0x2EB), (0x2ED, 0x2ED), (0x2EF, 0x36F), (0x375, 0x375), (0x37E, 0x37E),
  (0x384, 0x385), (0x387, 0x387), (0x3F6, 0x3F6), (0x482, 0x489), (0x55A, 0x55F), (0x589, 0x58A),
  (0x58F, 0x58F), (0x591, 0x5C7), (0x5F3, 0x5F4), (0x600, 0x604), (0x606, 0x61B), (0x61E, 0x61F),
  (0x64B, 0x65F), (0x66A, 0x66D), (0x670, 0x670), (0x6D4, 0x6D4), (0x6D6, 0x6E4), (0x6E7, 0x6ED),
  (0x6FD, 0x6FE), (0x700, 0x70D), (0x70F, 0x70F), (0x711, 0x711), (0x730, 0x74A), (0x7A6, 0x7B0),
  (0x7EB, 0x7F3), (0x7F6, 0x7F9), (0x816, 0x819), (0x81B, 0x823), (0x825, 0x827), (0x829, 0x82D),
  (0x830, 0x83E), (0x859, 0x85B), (0x85E, 0x85E), (0x8E4, 0x8FE), (0x900, 0x903), (0x93A, 0x93C),
  (0x93E, 0x94F), (0x951, 0x957), (0x962, 0x965), (0x970, 0x970), (0x981, 0x983), (0x9BC, 0x9BC),
  (0x9BE, 0x9C4), (0x9C7, 0x9C8), (0x9CB, 0x9CD), (0x9D7, 0x9D7), (0x9E2, 0x9E3), (0x9F2, 0x9F3),
  (0x9FA, 0x9FB), (0xA01, 0xA03), (0xA3C, 0xA3C), (0xA3E, 0xA42), (0xA47, 0xA48), (0xA4B, 0xA4D),
  (0xA51, 0xA51), (0xA70, 0xA71), (0xA75, 0xA75), (0xA81, 0xA83), (0xABC, 0xABC), (0xABE, 0xAC5),
  (0xAC7, 0xAC9), (0xACB, 0xACD), (0xAE2, 0xAE3), (0xAF0, 0xAF1), (0xB01, 0xB03), (0xB3C, 0xB3C),
  (0xB3E, 0xB44), (0xB47, 0xB48), (0xB4B, 0xB4D), (0xB56, 0xB57), (0xB62, 0xB63), (0xB70, 0xB70),
  (0xB82, 0xB82), (0xBBE, 0xBC2), (0xBC6, 0xBC8), (0xBCA, 0xBCD), (0xBD7, 0xBD7), (0xBF3, 0xBFA),
  (0xC01, 0xC03), (0xC3E, 0xC44), (0xC46, 0xC48), (0xC4A, 0xC4D), (0xC55, 0xC56), (0xC62, 0xC63),
  (0xC7F, 0xC7F), (0xC82, 0xC83), (0xCBC, 0xCBC), (0xCBE, 0xCC4), (0xCC6, 0xCC8), (0xCCA, 0xCCD),
  (0xCD5, 0xCD6), (0xCE2, 0xCE3), (0xD02, 0xD03), (0xD3E, 0xD44), (0xD46, 0xD48), (0xD4A, 0xD4D),
  (0xD57, 0xD57), (0xD62, 0xD63), (0xD79, 0xD79), (0xD82, 0xD83), (0xDCA, 0xDCA), (0xDCF, 0xDD4),
  (0xDD6, 0xDD6), (0xDD8, 0xDDF), (0xDF2, 0xDF4), (0xE31, 0xE31), (0xE34, 0xE3A), (0xE3F, 0xE3F),
  (0xE47, 0xE4F), (0xE5A, 0xE5B), (0xEB1, 0xEB1), (0xEB4, 0xEB9), (0xEBB, 0xEBC), (0xEC8, 0xECD),
  (0xF01, 0xF1F), (0xF34, 0xF3F), (0xF71, 0xF87), (0xF8D, 0xF97), (0xF99, 0xFBC), (0xFBE, 0xFCC),
  (0xFCE, 0xFDA), (0x102B, 0x103E), (0x104A, 0x104F), (0x1056, 0x1059), (0x105E, 0x1060), (0x1062, 0x1064),
  (0x1067, 0x106D), (0x1071, 0x1074), (0x1082, 0x108D), (0x108F, 0x108F), (0x109A, 0x109F), (0x10FB, 0x10FB),
  (0x135D, 0x1368), (0x1390, 0x1399), (0x1400, 0x1400), (0x166D, 0x166E), (0x1680, 0x1680), (0x169B, 0x169C),
  (0x16EB, 0x16ED), (0x1712, 0x1714), (0x1732, 0x1736), (0x1752, 0x1753), (0x1772, 0x1773), (0x17B4, 0x17D6),
  (0x17D8, 0x17DB), (0x17DD, 0x17DD), (0x1800, 0x180E), (0x18A9, 0x18A9), (0x1920, 0x192B), (0x1930, 0x193B),
  (0x1940, 0x1940), (0x1944, 0x1945), (0x19B0, 0x19C0), (0x19C8, 0x19C9), (0x19DE, 0x19FF), (0x1A17, 0x1A1B),
  (0x1A1E, 0x1A1F), (0x1A55, 0x1A5E), (0x1A60, 0x1A7C), (0x1A7F, 0x1A7F), (0x1AA0, 0x1AA6), (0x1AA8, 0x1AAD),
  (0x1B00, 0x1B04), (0x1B34, 0x1B44), (0x1B5A, 0x1B7C), (0x1B80, 0x1B82), (0x1BA1, 0x1BAD), (0x1BE6, 0x1BF3),
  (0x1BFC, 0x1BFF), (0x1C24, 0x1C37), (0x1C3B, 0x1C3F), (0x1C7E, 0x1C7F), (0x1CC0, 0x1CC7), (0x1CD0, 0x1CE8),
  (0x1CED, 0x1CED), (0x1CF2, 0x1CF4), (0x1DC0, 0x1DE6), (0x1DFC, 0x1DFF), (0x1FBD, 0x1FBD), (0x1FBF, 0x1FC1),
  (0x1FCD, 0x1FCF), (0x1FDD, 0x1FDF), (0x1FED, 0x1FEF), (0x1FFD, 0x1FFE), (0x2000, 0x2064), (0x206A, 0x206F),
  (0x207A, 0x207E), (0x208A, 0x208E), (0x20A0, 0x20B9), (0x20D0, 0x20F0), (0x2100, 0x2101), (0x2103, 0x2106),
  (0x2108, 0x2109), (0x2114, 0x2114), (0x2116, 0x2118), (0x211E, 0x2123), (0x2125, 0x2125), (0x2127, 0x2127),
  (0x2129, 0x2129), (0x212E, 0x212E), (0x213A, 0x213B), (0x2140, 0x2144), (0x214A, 0x214D), (0x214F, 0x214F),
  (0x2190, 0x23F3), (0x2400, 0x2426), (0x2440, 0x244A), (0x249C, 0x24E9), (0x2500, 0x26FF), (0x2701, 0x2775),
  (0x2794, 0x2B4C), (0x2B50, 0x2B59), (0x2CE5, 0x2CEA), (0x2CEF, 0x2CF1), (0x2CF9, 0x2CFC), (0x2CFE, 0x2CFF),
  (0x2D70, 0x2D70), (0x2D7F, 0x2D7F), (0x2DE0, 0x2E2E), (0x2E30, 0x2E3B), (0x2E80, 0x2E99), (0x2E9B, 0x2EF3),
  (0x2F00, 0x2FD5), (0x2FF0, 0x2FFB), (0x3000, 0x3004), (0x3008, 0x3020), (0x302A, 0x3030), (0x3036, 0x3037),
  (0x303D, 0x303F), (0x3099, 0x309C), (0x30A0, 0x30A0), (0x30FB, 0x30FB), (0x3190, 0x3191), (0x3196, 0x319F),
  (0x31C0, 0x31E3), (0x3200, 0x321E), (0x322A, 0x3247), (0x3250, 0x3250), (0x3260, 0x327F), (0x328A, 0x32B0),
  (0x32C0, 0x32FE), (0x3300, 0x33FF), (0x4DC0, 0x4DFF), (0xA490, 0xA4C6), (0xA4FE, 0xA4FF), (0xA60D, 0xA60F),
  (0xA66F, 0xA67E), (0xA69F, 0xA69F), (0xA6F0, 0xA6F7), (0xA700, 0xA716), (0xA720, 0xA721), (0xA789, 0xA78A),
  (0xA802, 0xA802), (0xA806, 0xA806), (0xA80B, 0xA80B), (0xA823, 0xA82B), (0xA836, 0xA839), (0xA874, 0xA877),
  (0xA880, 0xA881), (0xA8B4, 0xA8C4), (0xA8CE, 0xA8CF), (0xA8E0, 0xA8F1), (0xA8F8, 0xA8FA), (0xA926, 0xA92F),
  (0xA947, 0xA953), (0xA95F, 0xA95F), (0xA980, 0xA983), (0xA9B3, 0xA9CD), (0xA9DE, 0xA9DF), (0xAA29, 0xAA36),
  (0xAA43, 0xAA43), (0xAA4C, 0xAA4D), (0xAA5C, 0xAA5F), (0xAA77, 0xAA79), (0xAA7B, 0xAA7B), (0xAAB0, 0xAAB0),
  (0xAAB2, 0xAAB4), (0xAAB7, 0xAAB8), (0xAABE, 0xAABF), (0xAAC1, 0xAAC1), (0xAADE, 0xAADF), (0xAAEB, 0xAAF1),
  (0xAAF5, 0xAAF6), (0xABE3, 0xABED), (0xFB1E, 0xFB1E), (0xFB29, 0xFB29), (0xFBB2, 0xFBC1), (0xFD3E, 0xFD3F),
  (0xFDFC, 0xFDFD), (0xFE00, 0xFE19), (0xFE20, 0xFE26), (0xFE30, 0xFE52), (0xFE54, 0xFE66), (0xFE68, 0xFE6B),
  (0xFEFF, 0xFEFF), (0xFF01, 0xFF0F), (0xFF1A, 0xFF20), (0xFF3B, 0xFF40), (0xFF5B, 0xFF65), (0xFFE0, 0xFFE6),
  (0xFFE8, 0xFFEE), (0xFFF9, 0xFFFF), (0x10100, 0x10102), (0x10137, 0x1013F), (0x10179, 0x10189), (0x10190, 0x1019B),
  (0x101D0, 0x101FD), (0x1039F, 0x1039F), (0x103D0, 0x103D0), (0x10857, 0x10857), (0x1091F, 0x1091F), (0x1093F, 0x1093F),
  (0x10A01, 0x10A03), (0x10A05, 0x10A06), (0x10A0C, 0x10A0F), (0x10A38, 0x10A3A), (0x10A3F, 0x10A3F), (0x10A50, 0x10A58),
  (0x10A7F, 0x10A7F), (0x10B39, 0x10B3F), (0x11000, 0x11002), (0x11038, 0x1104D), (0x11080, 0x11082), (0x110B0, 0x110C1),
  (0x11100, 0x11102), (0x11127, 0x11134), (0x11140, 0x11143), (0x11180, 0x11182), (0x111B3, 0x111C0), (0x111C5, 0x111C8),
  (0x116AB, 0x116B7), (0x12470, 0x12473), (0x16F51, 0x16F7E), (0x16F8F, 0x16F92), (0x1D000, 0x1D0F5), (0x1D100, 0x1D126),
  (0x1D129, 0x1D1DD), (0x1D200, 0x1D245), (0x1D300, 0x1D356), (0x1D6C1, 0x1D6C1), (0x1D6DB, 0x1D6DB), (0x1D6FB, 0x1D6FB),
  (0x1D715, 0x1D715), (0x1D735, 0x1D735), (0x1D74F, 0x1D74F), (0x1D76F, 0x1D76F), (0x1D789, 0x1D789), (0x1D7A9, 0x1D7A9),
  (0x1D7C3, 0x1D7C3), (0x1EEF0, 0x1EEF1), (0x1F000, 0x1F02B), (0x1F030, 0x1F093), (0x1F0A0, 0x1F0AE), (0x1F0B1, 0x1F0BE),
  (0x1F0C1, 0x1F0CF), (0x1F0D1, 0x1F0DF), (0x1F110, 0x1F12E), (0x1F130, 0x1F16B), (0x1F170, 0x1F19A), (0x1F1E6, 0x1F202),
  (0x1F210, 0x1F23A), (0x1F240, 0x1F248), (0x1F250, 0x1F251), (0x1F300, 0x1F320), (0x1F330, 0x1F335), (0x1F337, 0x1F37C),
  (0x1F380, 0x1F393), (0x1F3A0, 0x1F3C4), (0x1F3C6, 0x1F3CA), (0x1F3E0, 0x1F3F0), (0x1F400, 0x1F43E), (0x1F440, 0x1F440),
  (0x1F442, 0x1F4F7), (0x1F4F9, 0x1F4FC), (0x1F500, 0x1F53D), (0x1F540, 0x1F543), (0x1F550, 0x1F567), (0x1F5FB, 0x1F640),
  (0x1F645, 0x1F64F), (0x1F680, 0x1F6C5), (0x1F700, 0x1F773), (0xE0001, 0xE0001), (0xE0020, 0xE007F), (0xE0100, 0xE01EF)]

/-- Combining accents that continue a full-text token but never start one. -/
def indexAccentTable : RangeTable := #[
  (0x300, 0x304), (0x306, 0x30C), (0x30F, 0x30F), (0x311, 0x311), (0x31B, 0x31B), (0x323, 0x328),
  (0x32D, 0x32E), (0x330, 0x331)]

/-- Simple case foldings of the full-text index, ascending and disjoint. -/
def foldShifts : Array CaseShift := #[
  ⟨0x41, 0x5A, 32, 1⟩, ⟨0xB5, 0xB5, 775, 1⟩, ⟨0xC0, 0xD6, 32, 1⟩, ⟨0xD8, 0xDE, 32, 1⟩,
  ⟨0x100, 0x12E, 1, 2⟩, ⟨0x132, 0x136, 1, 2⟩, ⟨0x139, 0x147, 1, 2⟩, ⟨0x14A, 0x176, 1, 2⟩,
  ⟨0x178, 0x178, -121, 1⟩, ⟨0x179, 0x17D, 1, 2⟩, ⟨0x17F, 0x17F, -268, 1⟩, ⟨0x181, 0x181, 210, 1⟩,
  ⟨0x182, 0x184, 1, 2⟩, ⟨0x186, 0x186, 206, 1⟩, ⟨0x187, 0x187, 1, 1⟩, ⟨0x189, 0x18A, 205, 1⟩,
  ⟨0x18B, 0x18B, 1, 1⟩, ⟨0x18E, 0x18E, 79, 1⟩, ⟨0x18F, 0x18F, 202, 1⟩, ⟨0x190, 0x190, 203, 1⟩,
  ⟨0x191, 0x191, 1, 1⟩, ⟨0x193, 0x193, 205, 1⟩, ⟨0x194, 0x194, 207, 1⟩, ⟨0x196, 0x196, 211, 1⟩,
  ⟨0x197, 0x197, 209, 1⟩, ⟨0x198, 0x198, 1, 1⟩, ⟨0x19C, 0x19C, 211, 1⟩, ⟨0x19D, 0x19D, 213, 1⟩,
  ⟨0x19F, 0x19F, 214, 1⟩, ⟨0x1A0, 0x1A4, 1, 2⟩, ⟨0x1A6, 0x1A6, 218, 1⟩, ⟨0x1A7, 0x1A7, 1, 1⟩,
  ⟨0x1A9, 0x1A9, 218, 1⟩, ⟨0x1AC, 0x1AC, 1, 1⟩, ⟨0x1AE, 0x1AE, 218, 1⟩, ⟨0x1AF, 0x1AF, 1, 1⟩,
  ⟨0x1B1, 0x1B2, 217, 1⟩, ⟨0x1B3, 0x1B5, 1, 2⟩, ⟨0x1B7, 0x1B7, 219, 1⟩, ⟨0x1B8, 0x1B8, 1, 1⟩,
  ⟨0x1BC, 0x1BC, 1, 1⟩, ⟨0x1C4, 0x1C4, 2, 1⟩, ⟨0x1C5, 0x1C5, 1, 1⟩, ⟨0x1C7, 0x1C7, 2, 1⟩,
  ⟨0x1C8, 0x1C8, 1, 1⟩, ⟨0x1CA, 0x1CA, 2, 1⟩, ⟨0x1CB, 0x1DB, 1, 2⟩, ⟨0x1DE, 0x1EE, 1, 2⟩,
  ⟨0x1F1, 0x1F1, 2, 1⟩, ⟨0x1F2, 0x1F4, 1, 2⟩, ⟨0x1F6, 0x1F6, -97, 1⟩, ⟨0x1F7, 0x1F7, -56, 1⟩,
  ⟨0x1F8, 0x21E, 1, 2⟩, ⟨0x220, 0x220, -130, 1⟩, ⟨0x222, 0x232, 1, 2⟩, ⟨0x23A, 0x23A, 10795, 1⟩,
  ⟨0x23B, 0x23B, 1, 1⟩, ⟨0x23D, 0x23D, -163, 1⟩, ⟨0x23E, 0x23E, 10792, 1⟩, ⟨0x241, 0x241, 1, 1⟩,
  ⟨0x243, 0x243, -195, 1⟩, ⟨0x244, 0x244, 69, 1⟩, ⟨0x245, 0x245, 71, 1⟩, ⟨0x246, 0x24E, 1, 2⟩,
  ⟨0x370, 0x372, 1, 2⟩, ⟨0x376, 0x376, 1, 1⟩, ⟨0x386, 0x386, 38, 1⟩, ⟨0x388, 0x38A, 37, 1⟩,
  ⟨0x38C, 0x38C, 64, 1⟩, ⟨0x38E, 0x38F, 63, 1⟩, ⟨0x391, 0x3A1, 32, 1⟩, ⟨0x3A3, 0x3AB, 32, 1⟩,
  ⟨0x3C2, 0x3C2, 1, 1⟩, ⟨0x3CF, 0x3CF, 8, 1⟩, ⟨0x3D0, 0x3D0, -30, 1⟩, ⟨0x3D1, 0x3D1, -25, 1⟩,
  ⟨0x3D5, 0x3D5, -15, 1⟩, ⟨0x3D6, 0x3D6, -22, 1⟩, ⟨0x3D8, 0x3EE, 1, 2⟩, ⟨0x3F0, 0x3F0, -54, 1⟩,
  ⟨0x3F1, 0x3F1, -48, 1⟩, ⟨0x3F4, 0x3F4, -60, 1⟩, ⟨0x3F5, 0x3F5, -64, 1⟩, ⟨0x3F7, 0x3F7, 1, 1⟩,
  ⟨0x3F9, 0x3F9, -7, 1⟩, ⟨0x3FA, 0x3FA, 1, 1⟩, ⟨0x3FD, 0x3FF, -130, 1⟩, ⟨0x400, 0x40F, 80, 1⟩,
  ⟨0x410, 0x42F, 32, 1⟩, ⟨0x460, 0x480, 1, 2⟩, ⟨0x48A, 0x4BE, 1, 2⟩, ⟨0x4C0, 0x4C0, 15, 1⟩,
  ⟨0x4C1, 0x4CD, 1, 2⟩, ⟨0x4D0, 0x526, 1, 2⟩, ⟨0x531, 0x556, 48, 1⟩, ⟨0x10A0, 0x10C5, 7264, 1⟩,
  ⟨0x10C7, 0x10C7, 7264, 1⟩, ⟨0x10CD, 0x10CD, 7264, 1⟩, ⟨0x1E00, 0x1E94, 1, 2⟩, ⟨0x1E9B, 0x1E9B, -58, 1⟩,
  ⟨0x1E9E, 0x1E9E, -7615, 1⟩, ⟨0x1EA0, 0x1EFE, 1, 2⟩, ⟨0x1F08, 0x1F0F, -8, 1⟩, ⟨0x1F18, 0x1F1D, -8, 1⟩,
  ⟨0x1F28, 0x1F2F, -8, 1⟩, ⟨0x1F38, 0x1F3F, -8, 1⟩, ⟨0x1F48, 0x1F4D, -8, 1⟩, ⟨0x1F59, 0x1F5F, -8, 2⟩,
  ⟨0x1F68, 0x1F6F, -8, 1⟩, ⟨0x1F88, 0x1F8F, -8, 1⟩, ⟨0x1F98, 0x1F9F, -8, 1⟩, ⟨0x1FA8, 0x1FAF, -8, 1⟩,
  ⟨0x1FB8, 0x1FB9, -8, 1⟩, ⟨0x1FBA, 0x1FBB, -74, 1⟩, ⟨0x1FBC, 0x1FBC, -9, 1⟩, ⟨0x1FBE, 0x1FBE, -7173, 1⟩,
  ⟨0x1FC8, 0x1FCB, -86, 1⟩, ⟨0x1FCC, 0x1FCC, -9, 1⟩, ⟨0x1FD8, 0x1FD9, -8, 1⟩, ⟨0x1FDA, 0x1FDB, -100, 1⟩,
  ⟨0x1FE8, 0x1FE9, -8, 1⟩, ⟨0x1FEA, 0x1FEB, -112, 1⟩, ⟨0x1FEC, 0x1FEC, -7, 1⟩, ⟨0x1FF8, 0x1FF9, -128, 1⟩,
  ⟨0x1FFA, 0x1FFB, -126, 1⟩, ⟨0x1FFC, 0x1FFC, -9, 1⟩, ⟨0x2126, 0x2126, -7517, 1⟩, ⟨0x212A, 0x212A, -8383, 1⟩,
  ⟨0x212B, 0x212B, -8262, 1⟩, ⟨0x2132, 0x2132, 28, 1⟩, ⟨0x2160, 0x216F, 16, 1⟩, ⟨0x2183, 0x2183, 1, 1⟩,
  ⟨0x2C00, 0x2C2E, 48, 1⟩, ⟨0x2C60, 0x2C60, 1, 1⟩, ⟨0x2C62, 0x2C62, -10743, 1⟩, ⟨0x2C63, 0x2C63, -3814, 1⟩,
  ⟨0x2C64, 0x2C64, -10727, 1⟩, ⟨0x2C67, 0x2C6B, 1, 2⟩, ⟨0x2C6D, 0x2C6D, -10780, 1⟩, ⟨0x2C6E, 0x2C6E, -10749, 1⟩,
  ⟨0x2C6F, 0x2C6F, -10783, 1⟩, ⟨0x2C70, 0x2C70, -10782, 1⟩, ⟨0x2C72, 0x2C72, 1, 1⟩, ⟨0x2C75, 0x2C75, 1, 1⟩,
  ⟨0x2C7E, 0x2C7F, -10815, 1⟩, ⟨0x2C80, 0x2CE2, 1, 2⟩, ⟨0x2CEB, 0x2CED, 1, 2⟩, ⟨0x2CF2, 0x2CF2, 1, 1⟩,
  ⟨0xA640, 0xA66C, 1, 2⟩, ⟨0xA680, 0xA696, 1, 2⟩, ⟨0xA722, 0xA72E, 1, 2⟩, ⟨0xA732, 0xA76E, 1, 2⟩,
  ⟨0xA779, 0xA77B, 1, 2⟩, ⟨0xA77D, 0xA77D, -35332, 1⟩, ⟨0xA77E, 0xA786, 1, 2⟩, ⟨0xA78B, 0xA78B, 1, 1⟩,
  ⟨0xA78D, 0xA78D, -42280, 1⟩, ⟨0xA790, 0xA792, 1, 2⟩, ⟨0xA7A0, 0xA7A8, 1, 2⟩, ⟨0xA7AA, 0xA7AA, -42308, 1⟩,
  ⟨0xFF21, 0xFF3A, 32, 1⟩, ⟨0x10400, 0x10427, 40, 1⟩]

def foldCode (c : Nat) : Nat :=
  match findRange foldShifts CaseShift.lo CaseShift.hi c with
  | some s =>
    if (c - s.lo) % s.stride = 0 then (c + s.delta).toNat else c
  | none => c

def isIndexTokenChar (c : Char) : Bool := !indexSeparatorTable.has c

/-- Whether a character continues a full-text token: a token character or an accent. -/
def continuesIndexToken (c : Char) : Bool := isIndexTokenChar c || indexAccentTable.has c

def foldChar (c : Char) : Char := Char.ofNat (foldCode c.toNat)

end RepoSearch.Text
