import RuleSheet.Text.Basic

/-!
# Compatibility decompositions

The full compatibility decomposition of every character that has one, Hangul syllables apart:
half-width and full-width forms, voiced kana, enclosed and squared signs, ligatures, accented
letters, compatibility ideographs.  Syllables of Hangul are decomposed by arithmetic elsewhere.

A run `(first, last, image)` sends `first + k` to the single character `image + k`.

## Main definitions

* `RuleSheet.Text.decompositionOf?` — the decomposition of a code point, if the tables have one.
-/

set_option autoImplicit false
set_option maxRecDepth 8000

namespace RuleSheet.Text

/-! ### Decompositions into one character -/

/-- Characters with a one-character decomposition: alphabets below U+2000. -/
def shiftsLatin : List (Nat × Nat × Nat) := [
  (0xA0, 0xA0, 0x20), (0xAA, 0xAA, 0x61), (0xB2, 0xB3, 0x32), (0xB5, 0xB5, 0x3BC),
  (0xB9, 0xB9, 0x31), (0xBA, 0xBA, 0x6F), (0x17F, 0x17F, 0x73), (0x2B0, 0x2B0, 0x68),
  (0x2B1, 0x2B1, 0x266), (0x2B2, 0x2B2, 0x6A), (0x2B3, 0x2B3, 0x72), (0x2B4, 0x2B4, 0x279),
  (0x2B5, 0x2B5, 0x27B), (0x2B6, 0x2B6, 0x281), (0x2B7, 0x2B7, 0x77), (0x2B8, 0x2B8, 0x79),
  (0x2E0, 0x2E0, 0x263), (0x2E1, 0x2E1, 0x6C), (0x2E2, 0x2E2, 0x73), (0x2E3, 0x2E3, 0x78),
  (0x2E4, 0x2E4, 0x295), (0x340, 0x341, 0x300), (0x343, 0x343, 0x313), (0x374, 0x374, 0x2B9),
  (0x37E, 0x37E, 0x3B), (0x387, 0x387, 0xB7), (0x3D0, 0x3D0, 0x3B2), (0x3D1, 0x3D1, 0x3B8),
  (0x3D2, 0x3D2, 0x3A5), (0x3D5, 0x3D5, 0x3C6), (0x3D6, 0x3D6, 0x3C0), (0x3F0, 0x3F0, 0x3BA),
  (0x3F1, 0x3F2, 0x3C1), (0x3F4, 0x3F4, 0x398), (0x3F5, 0x3F5, 0x3B5), (0x3F9, 0x3F9, 0x3A3),
  (0xF0C, 0xF0C, 0xF0B), (0x10FC, 0x10FC, 0x10DC), (0x1D2C, 0x1D2C, 0x41),
  (0x1D2D, 0x1D2D, 0xC6), (0x1D2E, 0x1D2E, 0x42), (0x1D30, 0x1D31, 0x44),
  (0x1D32, 0x1D32, 0x18E), (0x1D33, 0x1D3A, 0x47), (0x1D3C, 0x1D3C, 0x4F),
  (0x1D3D, 0x1D3D, 0x222), (0x1D3E, 0x1D3E, 0x50), (0x1D3F, 0x1D3F, 0x52),
  (0x1D40, 0x1D41, 0x54), (0x1D42, 0x1D42, 0x57), (0x1D43, 0x1D43, 0x61),
  (0x1D44, 0x1D45, 0x250), (0x1D46, 0x1D46, 0x1D02), (0x1D47, 0x1D47, 0x62),
  (0x1D48, 0x1D49, 0x64), (0x1D4A, 0x1D4A, 0x259), (0x1D4B, 0x1D4C, 0x25B),
  (0x1D4D, 0x1D4D, 0x67), (0x1D4F, 0x1D4F, 0x6B), (0x1D50, 0x1D50, 0x6D),
  (0x1D51, 0x1D51, 0x14B), (0x1D52, 0x1D52, 0x6F), (0x1D53, 0x1D53, 0x254),
  (0x1D54, 0x1D55, 0x1D16), (0x1D56, 0x1D56, 0x70), (0x1D57, 0x1D58, 0x74),
  (0x1D59, 0x1D59, 0x1D1D), (0x1D5A, 0x1D5A, 0x26F), (0x1D5B, 0x1D5B, 0x76),
  (0x1D5C, 0x1D5C, 0x1D25), (0x1D5D, 0x1D5F, 0x3B2), (0x1D60, 0x1D61, 0x3C6),
  (0x1D62, 0x1D62, 0x69), (0x1D63, 0x1D63, 0x72), (0x1D64, 0x1D65, 0x75),
  (0x1D66, 0x1D67, 0x3B2), (0x1D68, 0x1D68, 0x3C1), (0x1D69, 0x1D6A, 0x3C6),
  (0x1D78, 0x1D78, 0x43D), (0x1D9B, 0x1D9B, 0x252), (0x1D9C, 0x1D9C, 0x63),
  (0x1D9D, 0x1D9D, 0x255), (0x1D9E, 0x1D9E, 0xF0), (0x1D9F, 0x1D9F, 0x25C),
  (0x1DA0, 0x1DA0, 0x66), (0x1DA1, 0x1DA1, 0x25F), (0x1DA2, 0x1DA2, 0x261),
  (0x1DA3, 0x1DA3, 0x265), (0x1DA4, 0x1DA6, 0x268), (0x1DA7, 0x1DA7, 0x1D7B),
  (0x1DA8, 0x1DA8, 0x29D), (0x1DA9, 0x1DA9, 0x26D), (0x1DAA, 0x1DAA, 0x1D85),
  (0x1DAB, 0x1DAB, 0x29F), (0x1DAC, 0x1DAC, 0x271), (0x1DAD, 0x1DAD, 0x270),
  (0x1DAE, 0x1DB1, 0x272), (0x1DB2, 0x1DB2, 0x278), (0x1DB3, 0x1DB4, 0x282),
  (0x1DB5, 0x1DB5, 0x1AB), (0x1DB6, 0x1DB7, 0x289), (0x1DB8, 0x1DB8, 0x1D1C),
  (0x1DB9, 0x1DBA, 0x28B), (0x1DBB, 0x1DBB, 0x7A), (0x1DBC, 0x1DBE, 0x290),
  (0x1DBF, 0x1DBF, 0x3B8), (0x1FBE, 0x1FBE, 0x3B9), (0x1FEF, 0x1FEF, 0x60)]

/-- Characters with a one-character decomposition: punctuation, numbers and technical signs. -/
def shiftsSymbols : List (Nat × Nat × Nat) := [
  (0x2000, 0x2000, 0x20), (0x2001, 0x2001, 0x20), (0x2002, 0x2002, 0x20), (0x2003, 0x2003, 0x20),
  (0x2004, 0x2004, 0x20), (0x2005, 0x2005, 0x20), (0x2006, 0x2006, 0x20), (0x2007, 0x2007, 0x20),
  (0x2008, 0x2008, 0x20), (0x2009, 0x2009, 0x20), (0x200A, 0x200A, 0x20),
  (0x2011, 0x2011, 0x2010), (0x2024, 0x2024, 0x2E), (0x202F, 0x202F, 0x20),
  (0x205F, 0x205F, 0x20), (0x2070, 0x2070, 0x30), (0x2071, 0x2071, 0x69), (0x2074, 0x2079, 0x34),
  (0x207A, 0x207A, 0x2B), (0x207B, 0x207B, 0x2212), (0x207C, 0x207C, 0x3D),
  (0x207D, 0x207E, 0x28), (0x207F, 0x207F, 0x6E), (0x2080, 0x2089, 0x30), (0x208A, 0x208A, 0x2B),
  (0x208B, 0x208B, 0x2212), (0x208C, 0x208C, 0x3D), (0x208D, 0x208E, 0x28),
  (0x2090, 0x2090, 0x61), (0x2091, 0x2091, 0x65), (0x2092, 0x2092, 0x6F), (0x2093, 0x2093, 0x78),
  (0x2094, 0x2094, 0x259), (0x2095, 0x2095, 0x68), (0x2096, 0x2099, 0x6B),
  (0x209A, 0x209A, 0x70), (0x209B, 0x209C, 0x73), (0x2102, 0x2102, 0x43),
  (0x2107, 0x2107, 0x190), (0x210A, 0x210A, 0x67), (0x210B, 0x210B, 0x48),
  (0x210C, 0x210C, 0x48), (0x210D, 0x210D, 0x48), (0x210E, 0x210E, 0x68),
  (0x210F, 0x210F, 0x127), (0x2110, 0x2110, 0x49), (0x2111, 0x2111, 0x49),
  (0x2112, 0x2112, 0x4C), (0x2113, 0x2113, 0x6C), (0x2115, 0x2115, 0x4E), (0x2119, 0x211B, 0x50),
  (0x211C, 0x211C, 0x52), (0x211D, 0x211D, 0x52), (0x2124, 0x2124, 0x5A),
  (0x2126, 0x2126, 0x3A9), (0x2128, 0x2128, 0x5A), (0x212A, 0x212A, 0x4B),
  (0x212C, 0x212D, 0x42), (0x212F, 0x212F, 0x65), (0x2130, 0x2131, 0x45), (0x2133, 0x2133, 0x4D),
  (0x2134, 0x2134, 0x6F), (0x2135, 0x2138, 0x5D0), (0x2139, 0x2139, 0x69),
  (0x213C, 0x213C, 0x3C0), (0x213D, 0x213D, 0x3B3), (0x213E, 0x213E, 0x393),
  (0x213F, 0x213F, 0x3A0), (0x2140, 0x2140, 0x2211), (0x2145, 0x2145, 0x44),
  (0x2146, 0x2147, 0x64), (0x2148, 0x2149, 0x69), (0x2160, 0x2160, 0x49), (0x2164, 0x2164, 0x56),
  (0x2169, 0x2169, 0x58), (0x216C, 0x216C, 0x4C), (0x216D, 0x216E, 0x43), (0x216F, 0x216F, 0x4D),
  (0x2170, 0x2170, 0x69), (0x2174, 0x2174, 0x76), (0x2179, 0x2179, 0x78), (0x217C, 0x217C, 0x6C),
  (0x217D, 0x217E, 0x63), (0x217F, 0x217F, 0x6D), (0x2329, 0x232A, 0x3008),
  (0x2460, 0x2468, 0x31), (0x24B6, 0x24CF, 0x41), (0x24D0, 0x24E9, 0x61), (0x24EA, 0x24EA, 0x30),
  (0x2C7C, 0x2C7C, 0x6A), (0x2C7D, 0x2C7D, 0x56), (0x2D6F, 0x2D6F, 0x2D61),
  (0x2E9F, 0x2E9F, 0x6BCD), (0x2EF3, 0x2EF3, 0x9F9F), (0x2F00, 0x2F00, 0x4E00),
  (0x2F01, 0x2F01, 0x4E28), (0x2F02, 0x2F02, 0x4E36), (0x2F03, 0x2F03, 0x4E3F),
  (0x2F04, 0x2F04, 0x4E59), (0x2F05, 0x2F05, 0x4E85), (0x2F06, 0x2F06, 0x4E8C),
  (0x2F07, 0x2F07, 0x4EA0), (0x2F08, 0x2F08, 0x4EBA), (0x2F09, 0x2F09, 0x513F),
  (0x2F0A, 0x2F0A, 0x5165), (0x2F0B, 0x2F0B, 0x516B), (0x2F0C, 0x2F0C, 0x5182),
  (0x2F0D, 0x2F0D, 0x5196), (0x2F0E, 0x2F0E, 0x51AB), (0x2F0F, 0x2F0F, 0x51E0),
  (0x2F10, 0x2F10, 0x51F5), (0x2F11, 0x2F11, 0x5200), (0x2F12, 0x2F12, 0x529B),
  (0x2F13, 0x2F13, 0x52F9), (0x2F14, 0x2F14, 0x5315), (0x2F15, 0x2F15, 0x531A),
  (0x2F16, 0x2F16, 0x5338), (0x2F17, 0x2F17, 0x5341), (0x2F18, 0x2F18, 0x535C),
  (0x2F19, 0x2F19, 0x5369), (0x2F1A, 0x2F1A, 0x5382), (0x2F1B, 0x2F1B, 0x53B6),
  (0x2F1C, 0x2F1C, 0x53C8), (0x2F1D, 0x2F1D, 0x53E3), (0x2F1E, 0x2F1E, 0x56D7),
  (0x2F1F, 0x2F1F, 0x571F), (0x2F20, 0x2F20, 0x58EB), (0x2F21, 0x2F21, 0x5902),
  (0x2F22, 0x2F22, 0x590A), (0x2F23, 0x2F23, 0x5915), (0x2F24, 0x2F24, 0x5927),
  (0x2F25, 0x2F25, 0x5973), (0x2F26, 0x2F26, 0x5B50), (0x2F27, 0x2F27, 0x5B80),
  (0x2F28, 0x2F28, 0x5BF8), (0x2F29, 0x2F29, 0x5C0F), (0x2F2A, 0x2F2A, 0x5C22),
  (0x2F2B, 0x2F2B, 0x5C38), (0x2F2C, 0x2F2C, 0x5C6E), (0x2F2D, 0x2F2D, 0x5C71),
  (0x2F2E, 0x2F2E, 0x5DDB), (0x2F2F, 0x2F2F, 0x5DE5), (0x2F30, 0x2F30, 0x5DF1),
  (0x2F31, 0x2F31, 0x5DFE), (0x2F32, 0x2F32, 0x5E72), (0x2F33, 0x2F33, 0x5E7A),
  (0x2F34, 0x2F34, 0x5E7F), (0x2F35, 0x2F35, 0x5EF4), (0x2F36, 0x2F36, 0x5EFE),
  (0x2F37, 0x2F37, 0x5F0B), (0x2F38, 0x2F38, 0x5F13), (0x2F39, 0x2F39, 0x5F50),
  (0x2F3A, 0x2F3A, 0x5F61), (0x2F3B, 0x2F3B, 0x5F73), (0x2F3C, 0x2F3C, 0x5FC3),
  (0x2F3D, 0x2F3D, 0x6208), (0x2F3E, 0x2F3E, 0x6236), (0x2F3F, 0x2F3F, 0x624B),
  (0x2F40, 0x2F40, 0x652F), (0x2F41, 0x2F41, 0x6534), (0x2F42, 0x2F42, 0x6587),
  (0x2F43, 0x2F43, 0x6597), (0x2F44, 0x2F44, 0x65A4), (0x2F45, 0x2F45, 0x65B9),
  (0x2F46, 0x2F46, 0x65E0), (0x2F47, 0x2F47, 0x65E5), (0x2F48, 0x2F48, 0x66F0),
  (0x2F49, 0x2F49, 0x6708), (0x2F4A, 0x2F4A, 0x6728), (0x2F4B, 0x2F4B, 0x6B20),
  (0x2F4C, 0x2F4C, 0x6B62), (0x2F4D, 0x2F4D, 0x6B79), (0x2F4E, 0x2F4E, 0x6BB3),
  (0x2F4F, 0x2F4F, 0x6BCB), (0x2F50, 0x2F50, 0x6BD4), (0x2F51, 0x2F51, 0x6BDB),
  (0x2F52, 0x2F52, 0x6C0F), (0x2F53, 0x2F53, 0x6C14), (0x2F54, 0x2F54, 0x6C34),
  (0x2F55, 0x2F55, 0x706B), (0x2F56, 0x2F56, 0x722A), (0x2F57, 0x2F57, 0x7236),
  (0x2F58, 0x2F58, 0x723B), (0x2F59, 0x2F59, 0x723F), (0x2F5A, 0x2F5A, 0x7247),
  (0x2F5B, 0x2F5B, 0x7259), (0x2F5C, 0x2F5C, 0x725B), (0x2F5D, 0x2F5D, 0x72AC),
  (0x2F5E, 0x2F5E, 0x7384), (0x2F5F, 0x2F5F, 0x7389), (0x2F60, 0x2F60, 0x74DC),
  (0x2F61, 0x2F61, 0x74E6), (0x2F62, 0x2F62, 0x7518), (0x2F63, 0x2F63, 0x751F),
  (0x2F64, 0x2F64, 0x7528), (0x2F65, 0x2F65, 0x7530), (0x2F66, 0x2F66, 0x758B),
  (0x2F67, 0x2F67, 0x7592), (0x2F68, 0x2F68, 0x7676), (0x2F69, 0x2F69, 0x767D),
  (0x2F6A, 0x2F6A, 0x76AE), (0x2F6B, 0x2F6B, 0x76BF), (0x2F6C, 0x2F6C, 0x76EE),
  (0x2F6D, 0x2F6D, 0x77DB), (0x2F6E, 0x2F6E, 0x77E2), (0x2F6F, 0x2F6F, 0x77F3),
  (0x2F70, 0x2F70, 0x793A), (0x2F71, 0x2F71, 0x79B8), (0x2F72, 0x2F72, 0x79BE),
  (0x2F73, 0x2F73, 0x7A74), (0x2F74, 0x2F74, 0x7ACB), (0x2F75, 0x2F75, 0x7AF9),
  (0x2F76, 0x2F76, 0x7C73), (0x2F77, 0x2F77, 0x7CF8), (0x2F78, 0x2F78, 0x7F36),
  (0x2F79, 0x2F79, 0x7F51), (0x2F7A, 0x2F7A, 0x7F8A), (0x2F7B, 0x2F7B, 0x7FBD),
  (0x2F7C, 0x2F7C, 0x8001), (0x2F7D, 0x2F7D, 0x800C), (0x2F7E, 0x2F7E, 0x8012),
  (0x2F7F, 0x2F7F, 0x8033), (0x2F80, 0x2F80, 0x807F), (0x2F81, 0x2F81, 0x8089),
  (0x2F82, 0x2F82, 0x81E3), (0x2F83, 0x2F83, 0x81EA), (0x2F84, 0x2F84, 0x81F3),
  (0x2F85, 0x2F85, 0x81FC), (0x2F86, 0x2F86, 0x820C), (0x2F87, 0x2F87, 0x821B),
  (0x2F88, 0x2F88, 0x821F), (0x2F89, 0x2F89, 0x826E), (0x2F8A, 0x2F8A, 0x8272),
  (0x2F8B, 0x2F8B, 0x8278), (0x2F8C, 0x2F8C, 0x864D), (0x2F8D, 0x2F8D, 0x866B),
  (0x2F8E, 0x2F8E, 0x8840), (0x2F8F, 0x2F8F, 0x884C), (0x2F90, 0x2F90, 0x8863),
  (0x2F91, 0x2F91, 0x897E), (0x2F92, 0x2F92, 0x898B), (0x2F93, 0x2F93, 0x89D2),
  (0x2F94, 0x2F94, 0x8A00), (0x2F95, 0x2F95, 0x8C37), (0x2F96, 0x2F96, 0x8C46),
  (0x2F97, 0x2F97, 0x8C55), (0x2F98, 0x2F98, 0x8C78), (0x2F99, 0x2F99, 0x8C9D),
  (0x2F9A, 0x2F9A, 0x8D64), (0x2F9B, 0x2F9B, 0x8D70), (0x2F9C, 0x2F9C, 0x8DB3),
  (0x2F9D, 0x2F9D, 0x8EAB), (0x2F9E, 0x2F9E, 0x8ECA), (0x2F9F, 0x2F9F, 0x8F9B),
  (0x2FA0, 0x2FA0, 0x8FB0), (0x2FA1, 0x2FA1, 0x8FB5), (0x2FA2, 0x2FA2, 0x9091),
  (0x2FA3, 0x2FA3, 0x9149), (0x2FA4, 0x2FA4, 0x91C6), (0x2FA5, 0x2FA5, 0x91CC),
  (0x2FA6, 0x2FA6, 0x91D1), (0x2FA7, 0x2FA7, 0x9577), (0x2FA8, 0x2FA8, 0x9580),
  (0x2FA9, 0x2FA9, 0x961C), (0x2FAA, 0x2FAA, 0x96B6), (0x2FAB, 0x2FAB, 0x96B9),
  (0x2FAC, 0x2FAC, 0x96E8), (0x2FAD, 0x2FAD, 0x9751), (0x2FAE, 0x2FAE, 0x975E),
  (0x2FAF, 0x2FAF, 0x9762), (0x2FB0, 0x2FB0, 0x9769), (0x2FB1, 0x2FB1, 0x97CB),
  (0x2FB2, 0x2FB2, 0x97ED), (0x2FB3, 0x2FB3, 0x97F3), (0x2FB4, 0x2FB4, 0x9801),
  (0x2FB5, 0x2FB5, 0x98A8), (0x2FB6, 0x2FB6, 0x98DB), (0x2FB7, 0x2FB7, 0x98DF),
  (0x2FB8, 0x2FB8, 0x9996), (0x2FB9, 0x2FB9, 0x9999), (0x2FBA, 0x2FBA, 0x99AC),
  (0x2FBB, 0x2FBB, 0x9AA8), (0x2FBC, 0x2FBC, 0x9AD8), (0x2FBD, 0x2FBD, 0x9ADF),
  (0x2FBE, 0x2FBE, 0x9B25), (0x2FBF, 0x2FBF, 0x9B2F), (0x2FC0, 0x2FC0, 0x9B32),
  (0x2FC1, 0x2FC1, 0x9B3C), (0x2FC2, 0x2FC2, 0x9B5A), (0x2FC3, 0x2FC3, 0x9CE5),
  (0x2FC4, 0x2FC4, 0x9E75), (0x2FC5, 0x2FC5, 0x9E7F), (0x2FC6, 0x2FC6, 0x9EA5),
  (0x2FC7, 0x2FC7, 0x9EBB), (0x2FC8, 0x2FC8, 0x9EC3), (0x2FC9, 0x2FC9, 0x9ECD),
  (0x2FCA, 0x2FCA, 0x9ED1), (0x2FCB, 0x2FCB, 0x9EF9), (0x2FCC, 0x2FCC, 0x9EFD),
  (0x2FCD, 0x2FCD, 0x9F0E), (0x2FCE, 0x2FCE, 0x9F13), (0x2FCF, 0x2FCF, 0x9F20),
  (0x2FD0, 0x2FD0, 0x9F3B), (0x2FD1, 0x2FD1, 0x9F4A), (0x2FD2, 0x2FD2, 0x9F52),
  (0x2FD3, 0x2FD3, 0x9F8D), (0x2FD4, 0x2FD4, 0x9F9C), (0x2FD5, 0x2FD5, 0x9FA0)]

/-- Characters with a one-character decomposition: kana, radicals, enclosed and squared signs. -/
def shiftsKana : List (Nat × Nat × Nat) := [
  (0x3000, 0x3000, 0x20), (0x3036, 0x3036, 0x3012), (0x3038, 0x3038, 0x5341),
  (0x3039, 0x303A, 0x5344), (0x3131, 0x3132, 0x1100), (0x3133, 0x3133, 0x11AA),
  (0x3134, 0x3134, 0x1102), (0x3135, 0x3136, 0x11AC), (0x3137, 0x3139, 0x1103),
  (0x313A, 0x313F, 0x11B0), (0x3140, 0x3140, 0x111A), (0x3141, 0x3143, 0x1106),
  (0x3144, 0x3144, 0x1121), (0x3145, 0x314E, 0x1109), (0x314F, 0x3163, 0x1161),
  (0x3164, 0x3164, 0x1160), (0x3165, 0x3166, 0x1114), (0x3167, 0x3168, 0x11C7),
  (0x3169, 0x3169, 0x11CC), (0x316A, 0x316A, 0x11CE), (0x316B, 0x316B, 0x11D3),
  (0x316C, 0x316C, 0x11D7), (0x316D, 0x316D, 0x11D9), (0x316E, 0x316E, 0x111C),
  (0x316F, 0x316F, 0x11DD), (0x3170, 0x3170, 0x11DF), (0x3171, 0x3172, 0x111D),
  (0x3173, 0x3173, 0x1120), (0x3174, 0x3175, 0x1122), (0x3176, 0x3176, 0x1127),
  (0x3177, 0x3177, 0x1129), (0x3178, 0x317C, 0x112B), (0x317D, 0x317D, 0x1132),
  (0x317E, 0x317E, 0x1136), (0x317F, 0x317F, 0x1140), (0x3180, 0x3180, 0x1147),
  (0x3181, 0x3181, 0x114C), (0x3182, 0x3183, 0x11F1), (0x3184, 0x3186, 0x1157),
  (0x3187, 0x3188, 0x1184), (0x3189, 0x3189, 0x1188), (0x318A, 0x318B, 0x1191),
  (0x318C, 0x318C, 0x1194), (0x318D, 0x318D, 0x119E), (0x318E, 0x318E, 0x11A1),
  (0x3192, 0x3192, 0x4E00), (0x3193, 0x3193, 0x4E8C), (0x3194, 0x3194, 0x4E09),
  (0x3195, 0x3195, 0x56DB), (0x3196, 0x3196, 0x4E0A), (0x3197, 0x3197, 0x4E2D),
  (0x3198, 0x3198, 0x4E0B), (0x3199, 0x3199, 0x7532), (0x319A, 0x319A, 0x4E59),
  (0x319B, 0x319B, 0x4E19), (0x319C, 0x319C, 0x4E01), (0x319D, 0x319D, 0x5929),
  (0x319E, 0x319E, 0x5730), (0x319F, 0x319F, 0x4EBA), (0x3244, 0x3244, 0x554F),
  (0x3245, 0x3245, 0x5E7C), (0x3246, 0x3246, 0x6587), (0x3247, 0x3247, 0x7B8F),
  (0x3260, 0x3260, 0x1100), (0x3261, 0x3262, 0x1102), (0x3263, 0x3265, 0x1105),
  (0x3266, 0x3266, 0x1109), (0x3267, 0x3268, 0x110B), (0x3269, 0x326D, 0x110E),
  (0x3280, 0x3280, 0x4E00), (0x3281, 0x3281, 0x4E8C), (0x3282, 0x3282, 0x4E09),
  (0x3283, 0x3283, 0x56DB), (0x3284, 0x3284, 0x4E94), (0x3285, 0x3285, 0x516D),
  (0x3286, 0x3286, 0x4E03), (0x3287, 0x3287, 0x516B), (0x3288, 0x3288, 0x4E5D),
  (0x3289, 0x3289, 0x5341), (0x328A, 0x328A, 0x6708), (0x328B, 0x328B, 0x706B),
  (0x328C, 0x328C, 0x6C34), (0x328D, 0x328D, 0x6728), (0x328E, 0x328E, 0x91D1),
  (0x328F, 0x328F, 0x571F), (0x3290, 0x3290, 0x65E5), (0x3291, 0x3291, 0x682A),
  (0x3292, 0x3292, 0x6709), (0x3293, 0x3293, 0x793E), (0x3294, 0x3294, 0x540D),
  (0x3295, 0x3295, 0x7279), (0x3296, 0x3296, 0x8CA1), (0x3297, 0x3297, 0x795D),
  (0x3298, 0x3298, 0x52B4), (0x3299, 0x3299, 0x79D8), (0x329A, 0x329A, 0x7537),
  (0x329B, 0x329B, 0x5973), (0x329C, 0x329C, 0x9069), (0x329D, 0x329D, 0x512A),
  (0x329E, 0x329E, 0x5370), (0x329F, 0x329F, 0x6CE8), (0x32A0, 0x32A0, 0x9805),
  (0x32A1, 0x32A1, 0x4F11), (0x32A2, 0x32A2, 0x5199), (0x32A3, 0x32A3, 0x6B63),
  (0x32A4, 0x32A4, 0x4E0A), (0x32A5, 0x32A5, 0x4E2D), (0x32A6, 0x32A6, 0x4E0B),
  (0x32A7, 0x32A7, 0x5DE6), (0x32A8, 0x32A8, 0x53F3), (0x32A9, 0x32A9, 0x533B),
  (0x32AA, 0x32AA, 0x5B97), (0x32AB, 0x32AB, 0x5B66), (0x32AC, 0x32AC, 0x76E3),
  (0x32AD, 0x32AD, 0x4F01), (0x32AE, 0x32AE, 0x8CC7), (0x32AF, 0x32AF, 0x5354),
  (0x32B0, 0x32B0, 0x591C), (0x32D0, 0x32D0, 0x30A2), (0x32D1, 0x32D1, 0x30A4),
  (0x32D2, 0x32D2, 0x30A6), (0x32D3, 0x32D3, 0x30A8), (0x32D4, 0x32D5, 0x30AA),
  (0x32D6, 0x32D6, 0x30AD), (0x32D7, 0x32D7, 0x30AF), (0x32D8, 0x32D8, 0x30B1),
  (0x32D9, 0x32D9, 0x30B3), (0x32DA, 0x32DA, 0x30B5), (0x32DB, 0x32DB, 0x30B7),
  (0x32DC, 0x32DC, 0x30B9), (0x32DD, 0x32DD, 0x30BB), (0x32DE, 0x32DE, 0x30BD),
  (0x32DF, 0x32DF, 0x30BF), (0x32E0, 0x32E0, 0x30C1), (0x32E1, 0x32E1, 0x30C4),
  (0x32E2, 0x32E2, 0x30C6), (0x32E3, 0x32E3, 0x30C8), (0x32E4, 0x32E9, 0x30CA),
  (0x32EA, 0x32EA, 0x30D2), (0x32EB, 0x32EB, 0x30D5), (0x32EC, 0x32EC, 0x30D8),
  (0x32ED, 0x32ED, 0x30DB), (0x32EE, 0x32F2, 0x30DE), (0x32F3, 0x32F3, 0x30E4),
  (0x32F4, 0x32F4, 0x30E6), (0x32F5, 0x32FA, 0x30E8), (0x32FB, 0x32FE, 0x30EF)]

/-- Characters with a one-character decomposition: compatibility ideographs. -/
def shiftsIdeographs : List (Nat × Nat × Nat) := [
  (0xA69C, 0xA69C, 0x44A), (0xA69D, 0xA69D, 0x44C), (0xA770, 0xA770, 0xA76F),
  (0xA7F1, 0xA7F1, 0x53), (0xA7F2, 0xA7F2, 0x43), (0xA7F3, 0xA7F3, 0x46), (0xA7F4, 0xA7F4, 0x51),
  (0xA7F8, 0xA7F8, 0x126), (0xA7F9, 0xA7F9, 0x153), (0xAB5C, 0xAB5C, 0xA727),
  (0xAB5D, 0xAB5D, 0xAB37), (0xAB5E, 0xAB5E, 0x26B), (0xAB5F, 0xAB5F, 0xAB52),
  (0xAB69, 0xAB69, 0x28D), (0xF900, 0xF900, 0x8C48), (0xF901, 0xF901, 0x66F4),
  (0xF902, 0xF902, 0x8ECA), (0xF903, 0xF903, 0x8CC8), (0xF904, 0xF904, 0x6ED1),
  (0xF905, 0xF905, 0x4E32), (0xF906, 0xF906, 0x53E5), (0xF907, 0xF907, 0x9F9C),
  (0xF908, 0xF908, 0x9F9C), (0xF909, 0xF909, 0x5951), (0xF90A, 0xF90A, 0x91D1),
  (0xF90B, 0xF90B, 0x5587), (0xF90C, 0xF90C, 0x5948), (0xF90D, 0xF90D, 0x61F6),
  (0xF90E, 0xF90E, 0x7669), (0xF90F, 0xF90F, 0x7F85), (0xF910, 0xF910, 0x863F),
  (0xF911, 0xF911, 0x87BA), (0xF912, 0xF912, 0x88F8), (0xF913, 0xF913, 0x908F),
  (0xF914, 0xF914, 0x6A02), (0xF915, 0xF915, 0x6D1B), (0xF916, 0xF916, 0x70D9),
  (0xF917, 0xF917, 0x73DE), (0xF918, 0xF918, 0x843D), (0xF919, 0xF919, 0x916A),
  (0xF91A, 0xF91A, 0x99F1), (0xF91B, 0xF91B, 0x4E82), (0xF91C, 0xF91C, 0x5375),
  (0xF91D, 0xF91D, 0x6B04), (0xF91E, 0xF91E, 0x721B), (0xF91F, 0xF91F, 0x862D),
  (0xF920, 0xF920, 0x9E1E), (0xF921, 0xF921, 0x5D50), (0xF922, 0xF922, 0x6FEB),
  (0xF923, 0xF923, 0x85CD), (0xF924, 0xF924, 0x8964), (0xF925, 0xF925, 0x62C9),
  (0xF926, 0xF926, 0x81D8), (0xF927, 0xF927, 0x881F), (0xF928, 0xF928, 0x5ECA),
  (0xF929, 0xF929, 0x6717), (0xF92A, 0xF92A, 0x6D6A), (0xF92B, 0xF92B, 0x72FC),
  (0xF92C, 0xF92C, 0x90CE), (0xF92D, 0xF92D, 0x4F86), (0xF92E, 0xF92E, 0x51B7),
  (0xF92F, 0xF92F, 0x52DE), (0xF930, 0xF930, 0x64C4), (0xF931, 0xF931, 0x6AD3),
  (0xF932, 0xF932, 0x7210), (0xF933, 0xF933, 0x76E7), (0xF934, 0xF934, 0x8001),
  (0xF935, 0xF935, 0x8606), (0xF936, 0xF936, 0x865C), (0xF937, 0xF937, 0x8DEF),
  (0xF938, 0xF938, 0x9732), (0xF939, 0xF939, 0x9B6F), (0xF93A, 0xF93A, 0x9DFA),
  (0xF93B, 0xF93B, 0x788C), (0xF93C, 0xF93C, 0x797F), (0xF93D, 0xF93D, 0x7DA0),
  (0xF93E, 0xF93E, 0x83C9), (0xF93F, 0xF93F, 0x9304), (0xF940, 0xF940, 0x9E7F),
  (0xF941, 0xF941, 0x8AD6), (0xF942, 0xF942, 0x58DF), (0xF943, 0xF943, 0x5F04),
  (0xF944, 0xF944, 0x7C60), (0xF945, 0xF945, 0x807E), (0xF946, 0xF946, 0x7262),
  (0xF947, 0xF947, 0x78CA), (0xF948, 0xF948, 0x8CC2), (0xF949, 0xF949, 0x96F7),
  (0xF94A, 0xF94A, 0x58D8), (0xF94B, 0xF94B, 0x5C62), (0xF94C, 0xF94C, 0x6A13),
  (0xF94D, 0xF94D, 0x6DDA), (0xF94E, 0xF94E, 0x6F0F), (0xF94F, 0xF94F, 0x7D2F),
  (0xF950, 0xF950, 0x7E37), (0xF951, 0xF951, 0x964B), (0xF952, 0xF952, 0x52D2),
  (0xF953, 0xF953, 0x808B), (0xF954, 0xF954, 0x51DC), (0xF955, 0xF955, 0x51CC),
  (0xF956, 0xF956, 0x7A1C), (0xF957, 0xF957, 0x7DBE), (0xF958, 0xF958, 0x83F1),
  (0xF959, 0xF959, 0x9675), (0xF95A, 0xF95A, 0x8B80), (0xF95B, 0xF95B, 0x62CF),
  (0xF95C, 0xF95C, 0x6A02), (0xF95D, 0xF95D, 0x8AFE), (0xF95E, 0xF95E, 0x4E39),
  (0xF95F, 0xF95F, 0x5BE7), (0xF960, 0xF960, 0x6012), (0xF961, 0xF961, 0x7387),
  (0xF962, 0xF962, 0x7570), (0xF963, 0xF963, 0x5317), (0xF964, 0xF964, 0x78FB),
  (0xF965, 0xF965, 0x4FBF), (0xF966, 0xF966, 0x5FA9), (0xF967, 0xF967, 0x4E0D),
  (0xF968, 0xF968, 0x6CCC), (0xF969, 0xF969, 0x6578), (0xF96A, 0xF96A, 0x7D22),
  (0xF96B, 0xF96B, 0x53C3), (0xF96C, 0xF96C, 0x585E), (0xF96D, 0xF96D, 0x7701),
  (0xF96E, 0xF96E, 0x8449), (0xF96F, 0xF96F, 0x8AAA), (0xF970, 0xF970, 0x6BBA),
  (0xF971, 0xF971, 0x8FB0), (0xF972, 0xF972, 0x6C88), (0xF973, 0xF973, 0x62FE),
  (0xF974, 0xF974, 0x82E5), (0xF975, 0xF975, 0x63A0), (0xF976, 0xF976, 0x7565),
  (0xF977, 0xF977, 0x4EAE), (0xF978, 0xF978, 0x5169), (0xF979, 0xF979, 0x51C9),
  (0xF97A, 0xF97A, 0x6881), (0xF97B, 0xF97B, 0x7CE7), (0xF97C, 0xF97C, 0x826F),
  (0xF97D, 0xF97D, 0x8AD2), (0xF97E, 0xF97E, 0x91CF), (0xF97F, 0xF97F, 0x52F5),
  (0xF980, 0xF980, 0x5442), (0xF981, 0xF981, 0x5973), (0xF982, 0xF982, 0x5EEC),
  (0xF983, 0xF983, 0x65C5), (0xF984, 0xF984, 0x6FFE), (0xF985, 0xF985, 0x792A),
  (0xF986, 0xF986, 0x95AD), (0xF987, 0xF987, 0x9A6A), (0xF988, 0xF988, 0x9E97),
  (0xF989, 0xF989, 0x9ECE), (0xF98A, 0xF98A, 0x529B), (0xF98B, 0xF98B, 0x66C6),
  (0xF98C, 0xF98C, 0x6B77), (0xF98D, 0xF98D, 0x8F62), (0xF98E, 0xF98E, 0x5E74),
  (0xF98F, 0xF98F, 0x6190), (0xF990, 0xF990, 0x6200), (0xF991, 0xF991, 0x649A),
  (0xF992, 0xF992, 0x6F23), (0xF993, 0xF993, 0x7149), (0xF994, 0xF994, 0x7489),
  (0xF995, 0xF995, 0x79CA), (0xF996, 0xF996, 0x7DF4), (0xF997, 0xF997, 0x806F),
  (0xF998, 0xF998, 0x8F26), (0xF999, 0xF999, 0x84EE), (0xF99A, 0xF99A, 0x9023),
  (0xF99B, 0xF99B, 0x934A), (0xF99C, 0xF99C, 0x5217), (0xF99D, 0xF99D, 0x52A3),
  (0xF99E, 0xF99E, 0x54BD), (0xF99F, 0xF99F, 0x70C8), (0xF9A0, 0xF9A0, 0x88C2),
  (0xF9A1, 0xF9A1, 0x8AAA), (0xF9A2, 0xF9A2, 0x5EC9), (0xF9A3, 0xF9A3, 0x5FF5),
  (0xF9A4, 0xF9A4, 0x637B), (0xF9A5, 0xF9A5, 0x6BAE), (0xF9A6, 0xF9A6, 0x7C3E),
  (0xF9A7, 0xF9A7, 0x7375), (0xF9A8, 0xF9A8, 0x4EE4), (0xF9A9, 0xF9A9, 0x56F9),
  (0xF9AA, 0xF9AA, 0x5BE7), (0xF9AB, 0xF9AB, 0x5DBA), (0xF9AC, 0xF9AC, 0x601C),
  (0xF9AD, 0xF9AD, 0x73B2), (0xF9AE, 0xF9AE, 0x7469), (0xF9AF, 0xF9AF, 0x7F9A),
  (0xF9B0, 0xF9B0, 0x8046), (0xF9B1, 0xF9B1, 0x9234), (0xF9B2, 0xF9B2, 0x96F6),
  (0xF9B3, 0xF9B3, 0x9748), (0xF9B4, 0xF9B4, 0x9818), (0xF9B5, 0xF9B5, 0x4F8B),
  (0xF9B6, 0xF9B6, 0x79AE), (0xF9B7, 0xF9B7, 0x91B4), (0xF9B8, 0xF9B8, 0x96B8),
  (0xF9B9, 0xF9B9, 0x60E1), (0xF9BA, 0xF9BA, 0x4E86), (0xF9BB, 0xF9BB, 0x50DA),
  (0xF9BC, 0xF9BC, 0x5BEE), (0xF9BD, 0xF9BD, 0x5C3F), (0xF9BE, 0xF9BE, 0x6599),
  (0xF9BF, 0xF9BF, 0x6A02), (0xF9C0, 0xF9C0, 0x71CE), (0xF9C1, 0xF9C1, 0x7642),
  (0xF9C2, 0xF9C2, 0x84FC), (0xF9C3, 0xF9C3, 0x907C), (0xF9C4, 0xF9C4, 0x9F8D),
  (0xF9C5, 0xF9C5, 0x6688), (0xF9C6, 0xF9C6, 0x962E), (0xF9C7, 0xF9C7, 0x5289),
  (0xF9C8, 0xF9C8, 0x677B), (0xF9C9, 0xF9C9, 0x67F3), (0xF9CA, 0xF9CA, 0x6D41),
  (0xF9CB, 0xF9CB, 0x6E9C), (0xF9CC, 0xF9CC, 0x7409), (0xF9CD, 0xF9CD, 0x7559),
  (0xF9CE, 0xF9CE, 0x786B), (0xF9CF, 0xF9CF, 0x7D10), (0xF9D0, 0xF9D0, 0x985E),
  (0xF9D1, 0xF9D1, 0x516D), (0xF9D2, 0xF9D2, 0x622E), (0xF9D3, 0xF9D3, 0x9678),
  (0xF9D4, 0xF9D4, 0x502B), (0xF9D5, 0xF9D5, 0x5D19), (0xF9D6, 0xF9D6, 0x6DEA),
  (0xF9D7, 0xF9D7, 0x8F2A), (0xF9D8, 0xF9D8, 0x5F8B), (0xF9D9, 0xF9D9, 0x6144),
  (0xF9DA, 0xF9DA, 0x6817), (0xF9DB, 0xF9DB, 0x7387), (0xF9DC, 0xF9DC, 0x9686),
  (0xF9DD, 0xF9DD, 0x5229), (0xF9DE, 0xF9DE, 0x540F), (0xF9DF, 0xF9DF, 0x5C65),
  (0xF9E0, 0xF9E0, 0x6613), (0xF9E1, 0xF9E1, 0x674E), (0xF9E2, 0xF9E2, 0x68A8),
  (0xF9E3, 0xF9E3, 0x6CE5), (0xF9E4, 0xF9E4, 0x7406), (0xF9E5, 0xF9E5, 0x75E2),
  (0xF9E6, 0xF9E6, 0x7F79), (0xF9E7, 0xF9E7, 0x88CF), (0xF9E8, 0xF9E8, 0x88E1),
  (0xF9E9, 0xF9E9, 0x91CC), (0xF9EA, 0xF9EA, 0x96E2), (0xF9EB, 0xF9EB, 0x533F),
  (0xF9EC, 0xF9EC, 0x6EBA), (0xF9ED, 0xF9ED, 0x541D), (0xF9EE, 0xF9EE, 0x71D0),
  (0xF9EF, 0xF9EF, 0x7498), (0xF9F0, 0xF9F0, 0x85FA), (0xF9F1, 0xF9F1, 0x96A3),
  (0xF9F2, 0xF9F2, 0x9C57), (0xF9F3, 0xF9F3, 0x9E9F), (0xF9F4, 0xF9F4, 0x6797),
  (0xF9F5, 0xF9F5, 0x6DCB), (0xF9F6, 0xF9F6, 0x81E8), (0xF9F7, 0xF9F7, 0x7ACB),
  (0xF9F8, 0xF9F8, 0x7B20), (0xF9F9, 0xF9F9, 0x7C92), (0xF9FA, 0xF9FA, 0x72C0),
  (0xF9FB, 0xF9FB, 0x7099), (0xF9FC, 0xF9FC, 0x8B58), (0xF9FD, 0xF9FD, 0x4EC0),
  (0xF9FE, 0xF9FE, 0x8336), (0xF9FF, 0xF9FF, 0x523A), (0xFA00, 0xFA00, 0x5207),
  (0xFA01, 0xFA01, 0x5EA6), (0xFA02, 0xFA02, 0x62D3), (0xFA03, 0xFA03, 0x7CD6),
  (0xFA04, 0xFA04, 0x5B85), (0xFA05, 0xFA05, 0x6D1E), (0xFA06, 0xFA06, 0x66B4),
  (0xFA07, 0xFA07, 0x8F3B), (0xFA08, 0xFA08, 0x884C), (0xFA09, 0xFA09, 0x964D),
  (0xFA0A, 0xFA0A, 0x898B), (0xFA0B, 0xFA0B, 0x5ED3), (0xFA0C, 0xFA0C, 0x5140),
  (0xFA0D, 0xFA0D, 0x55C0), (0xFA10, 0xFA10, 0x585A), (0xFA12, 0xFA12, 0x6674),
  (0xFA15, 0xFA15, 0x51DE), (0xFA16, 0xFA16, 0x732A), (0xFA17, 0xFA17, 0x76CA),
  (0xFA18, 0xFA18, 0x793C), (0xFA19, 0xFA19, 0x795E), (0xFA1A, 0xFA1A, 0x7965),
  (0xFA1B, 0xFA1B, 0x798F), (0xFA1C, 0xFA1C, 0x9756), (0xFA1D, 0xFA1D, 0x7CBE),
  (0xFA1E, 0xFA1E, 0x7FBD), (0xFA20, 0xFA20, 0x8612), (0xFA22, 0xFA22, 0x8AF8),
  (0xFA25, 0xFA25, 0x9038), (0xFA26, 0xFA26, 0x90FD), (0xFA2A, 0xFA2A, 0x98EF),
  (0xFA2B, 0xFA2B, 0x98FC), (0xFA2C, 0xFA2C, 0x9928), (0xFA2D, 0xFA2D, 0x9DB4),
  (0xFA2E, 0xFA2E, 0x90DE), (0xFA2F, 0xFA2F, 0x96B7), (0xFA30, 0xFA30, 0x4FAE),
  (0xFA31, 0xFA31, 0x50E7), (0xFA32, 0xFA32, 0x514D), (0xFA33, 0xFA33, 0x52C9),
  (0xFA34, 0xFA34, 0x52E4), (0xFA35, 0xFA35, 0x5351), (0xFA36, 0xFA36, 0x559D),
  (0xFA37, 0xFA37, 0x5606), (0xFA38, 0xFA38, 0x5668), (0xFA39, 0xFA39, 0x5840),
  (0xFA3A, 0xFA3A, 0x58A8), (0xFA3B, 0xFA3B, 0x5C64), (0xFA3C, 0xFA3C, 0x5C6E),
  (0xFA3D, 0xFA3D, 0x6094), (0xFA3E, 0xFA3E, 0x6168), (0xFA3F, 0xFA3F, 0x618E),
  (0xFA40, 0xFA40, 0x61F2), (0xFA41, 0xFA41, 0x654F), (0xFA42, 0xFA42, 0x65E2),
  (0xFA43, 0xFA43, 0x6691), (0xFA44, 0xFA44, 0x6885), (0xFA45, 0xFA45, 0x6D77),
  (0xFA46, 0xFA46, 0x6E1A), (0xFA47, 0xFA47, 0x6F22), (0xFA48, 0xFA48, 0x716E),
  (0xFA49, 0xFA49, 0x722B), (0xFA4A, 0xFA4A, 0x7422), (0xFA4B, 0xFA4B, 0x7891),
  (0xFA4C, 0xFA4C, 0x793E), (0xFA4D, 0xFA4D, 0x7949), (0xFA4E, 0xFA4E, 0x7948),
  (0xFA4F, 0xFA4F, 0x7950), (0xFA50, 0xFA50, 0x7956), (0xFA51, 0xFA51, 0x795D),
  (0xFA52, 0xFA53, 0x798D), (0xFA54, 0xFA54, 0x7A40), (0xFA55, 0xFA55, 0x7A81),
  (0xFA56, 0xFA56, 0x7BC0), (0xFA57, 0xFA57, 0x7DF4), (0xFA58, 0xFA58, 0x7E09),
  (0xFA59, 0xFA59, 0x7E41), (0xFA5A, 0xFA5A, 0x7F72), (0xFA5B, 0xFA5B, 0x8005),
  (0xFA5C, 0xFA5C, 0x81ED), (0xFA5D, 0xFA5D, 0x8279), (0xFA5E, 0xFA5E, 0x8279),
  (0xFA5F, 0xFA5F, 0x8457), (0xFA60, 0xFA60, 0x8910), (0xFA61, 0xFA61, 0x8996),
  (0xFA62, 0xFA62, 0x8B01), (0xFA63, 0xFA63, 0x8B39), (0xFA64, 0xFA64, 0x8CD3),
  (0xFA65, 0xFA65, 0x8D08), (0xFA66, 0xFA66, 0x8FB6), (0xFA67, 0xFA67, 0x9038),
  (0xFA68, 0xFA68, 0x96E3), (0xFA69, 0xFA69, 0x97FF), (0xFA6A, 0xFA6A, 0x983B),
  (0xFA6B, 0xFA6B, 0x6075), (0xFA6C, 0xFA6C, 0x242EE), (0xFA6D, 0xFA6D, 0x8218),
  (0xFA70, 0xFA70, 0x4E26), (0xFA71, 0xFA71, 0x51B5), (0xFA72, 0xFA72, 0x5168),
  (0xFA73, 0xFA73, 0x4F80), (0xFA74, 0xFA74, 0x5145), (0xFA75, 0xFA75, 0x5180),
  (0xFA76, 0xFA76, 0x52C7), (0xFA77, 0xFA77, 0x52FA), (0xFA78, 0xFA78, 0x559D),
  (0xFA79, 0xFA79, 0x5555), (0xFA7A, 0xFA7A, 0x5599), (0xFA7B, 0xFA7B, 0x55E2),
  (0xFA7C, 0xFA7C, 0x585A), (0xFA7D, 0xFA7D, 0x58B3), (0xFA7E, 0xFA7E, 0x5944),
  (0xFA7F, 0xFA7F, 0x5954), (0xFA80, 0xFA80, 0x5A62), (0xFA81, 0xFA81, 0x5B28),
  (0xFA82, 0xFA82, 0x5ED2), (0xFA83, 0xFA83, 0x5ED9), (0xFA84, 0xFA84, 0x5F69),
  (0xFA85, 0xFA85, 0x5FAD), (0xFA86, 0xFA86, 0x60D8), (0xFA87, 0xFA87, 0x614E),
  (0xFA88, 0xFA88, 0x6108), (0xFA89, 0xFA89, 0x618E), (0xFA8A, 0xFA8A, 0x6160),
  (0xFA8B, 0xFA8B, 0x61F2), (0xFA8C, 0xFA8C, 0x6234), (0xFA8D, 0xFA8D, 0x63C4),
  (0xFA8E, 0xFA8E, 0x641C), (0xFA8F, 0xFA8F, 0x6452), (0xFA90, 0xFA90, 0x6556),
  (0xFA91, 0xFA91, 0x6674), (0xFA92, 0xFA92, 0x6717), (0xFA93, 0xFA93, 0x671B),
  (0xFA94, 0xFA94, 0x6756), (0xFA95, 0xFA95, 0x6B79), (0xFA96, 0xFA96, 0x6BBA),
  (0xFA97, 0xFA97, 0x6D41), (0xFA98, 0xFA98, 0x6EDB), (0xFA99, 0xFA99, 0x6ECB),
  (0xFA9A, 0xFA9A, 0x6F22), (0xFA9B, 0xFA9B, 0x701E), (0xFA9C, 0xFA9C, 0x716E),
  (0xFA9D, 0xFA9D, 0x77A7), (0xFA9E, 0xFA9E, 0x7235), (0xFA9F, 0xFA9F, 0x72AF),
  (0xFAA0, 0xFAA0, 0x732A), (0xFAA1, 0xFAA1, 0x7471), (0xFAA2, 0xFAA2, 0x7506),
  (0xFAA3, 0xFAA3, 0x753B), (0xFAA4, 0xFAA4, 0x761D), (0xFAA5, 0xFAA5, 0x761F),
  (0xFAA6, 0xFAA6, 0x76CA), (0xFAA7, 0xFAA7, 0x76DB), (0xFAA8, 0xFAA8, 0x76F4),
  (0xFAA9, 0xFAA9, 0x774A), (0xFAAA, 0xFAAA, 0x7740), (0xFAAB, 0xFAAB, 0x78CC),
  (0xFAAC, 0xFAAC, 0x7AB1), (0xFAAD, 0xFAAD, 0x7BC0), (0xFAAE, 0xFAAE, 0x7C7B),
  (0xFAAF, 0xFAAF, 0x7D5B), (0xFAB0, 0xFAB0, 0x7DF4), (0xFAB1, 0xFAB1, 0x7F3E),
  (0xFAB2, 0xFAB2, 0x8005), (0xFAB3, 0xFAB3, 0x8352), (0xFAB4, 0xFAB4, 0x83EF),
  (0xFAB5, 0xFAB5, 0x8779), (0xFAB6, 0xFAB6, 0x8941), (0xFAB7, 0xFAB7, 0x8986),
  (0xFAB8, 0xFAB8, 0x8996), (0xFAB9, 0xFAB9, 0x8ABF), (0xFABA, 0xFABA, 0x8AF8),
  (0xFABB, 0xFABB, 0x8ACB), (0xFABC, 0xFABC, 0x8B01), (0xFABD, 0xFABD, 0x8AFE),
  (0xFABE, 0xFABE, 0x8AED), (0xFABF, 0xFABF, 0x8B39), (0xFAC0, 0xFAC0, 0x8B8A),
  (0xFAC1, 0xFAC1, 0x8D08), (0xFAC2, 0xFAC2, 0x8F38), (0xFAC3, 0xFAC3, 0x9072),
  (0xFAC4, 0xFAC4, 0x9199), (0xFAC5, 0xFAC5, 0x9276), (0xFAC6, 0xFAC6, 0x967C),
  (0xFAC7, 0xFAC7, 0x96E3), (0xFAC8, 0xFAC8, 0x9756), (0xFAC9, 0xFAC9, 0x97DB),
  (0xFACA, 0xFACA, 0x97FF), (0xFACB, 0xFACB, 0x980B), (0xFACC, 0xFACC, 0x983B),
  (0xFACD, 0xFACD, 0x9B12), (0xFACE, 0xFACE, 0x9F9C), (0xFACF, 0xFACF, 0x2284A),
  (0xFAD0, 0xFAD0, 0x22844), (0xFAD1, 0xFAD1, 0x233D5), (0xFAD2, 0xFAD2, 0x3B9D),
  (0xFAD3, 0xFAD3, 0x4018), (0xFAD4, 0xFAD4, 0x4039), (0xFAD5, 0xFAD5, 0x25249),
  (0xFAD6, 0xFAD6, 0x25CD0), (0xFAD7, 0xFAD7, 0x27ED3), (0xFAD8, 0xFAD8, 0x9F43),
  (0xFAD9, 0xFAD9, 0x9F8E)]

/-- Characters with a one-character decomposition: presentation, half-width and full-width forms. -/
def shiftsForms : List (Nat × Nat × Nat) := [
  (0xFB20, 0xFB20, 0x5E2), (0xFB21, 0xFB21, 0x5D0), (0xFB22, 0xFB23, 0x5D3),
  (0xFB24, 0xFB26, 0x5DB), (0xFB27, 0xFB27, 0x5E8), (0xFB28, 0xFB28, 0x5EA),
  (0xFB29, 0xFB29, 0x2B), (0xFB50, 0xFB50, 0x671), (0xFB51, 0xFB51, 0x671),
  (0xFB52, 0xFB52, 0x67B), (0xFB53, 0xFB53, 0x67B), (0xFB54, 0xFB54, 0x67B),
  (0xFB55, 0xFB55, 0x67B), (0xFB56, 0xFB56, 0x67E), (0xFB57, 0xFB57, 0x67E),
  (0xFB58, 0xFB58, 0x67E), (0xFB59, 0xFB59, 0x67E), (0xFB5A, 0xFB5A, 0x680),
  (0xFB5B, 0xFB5B, 0x680), (0xFB5C, 0xFB5C, 0x680), (0xFB5D, 0xFB5D, 0x680),
  (0xFB5E, 0xFB5E, 0x67A), (0xFB5F, 0xFB5F, 0x67A), (0xFB60, 0xFB60, 0x67A),
  (0xFB61, 0xFB61, 0x67A), (0xFB62, 0xFB62, 0x67F), (0xFB63, 0xFB63, 0x67F),
  (0xFB64, 0xFB64, 0x67F), (0xFB65, 0xFB65, 0x67F), (0xFB66, 0xFB66, 0x679),
  (0xFB67, 0xFB67, 0x679), (0xFB68, 0xFB68, 0x679), (0xFB69, 0xFB69, 0x679),
  (0xFB6A, 0xFB6A, 0x6A4), (0xFB6B, 0xFB6B, 0x6A4), (0xFB6C, 0xFB6C, 0x6A4),
  (0xFB6D, 0xFB6D, 0x6A4), (0xFB6E, 0xFB6E, 0x6A6), (0xFB6F, 0xFB6F, 0x6A6),
  (0xFB70, 0xFB70, 0x6A6), (0xFB71, 0xFB71, 0x6A6), (0xFB72, 0xFB72, 0x684),
  (0xFB73, 0xFB73, 0x684), (0xFB74, 0xFB74, 0x684), (0xFB75, 0xFB75, 0x684),
  (0xFB76, 0xFB76, 0x683), (0xFB77, 0xFB77, 0x683), (0xFB78, 0xFB78, 0x683),
  (0xFB79, 0xFB79, 0x683), (0xFB7A, 0xFB7A, 0x686), (0xFB7B, 0xFB7B, 0x686),
  (0xFB7C, 0xFB7C, 0x686), (0xFB7D, 0xFB7E, 0x686), (0xFB7F, 0xFB7F, 0x687),
  (0xFB80, 0xFB80, 0x687), (0xFB81, 0xFB81, 0x687), (0xFB82, 0xFB82, 0x68D),
  (0xFB83, 0xFB83, 0x68D), (0xFB84, 0xFB84, 0x68C), (0xFB85, 0xFB85, 0x68C),
  (0xFB86, 0xFB86, 0x68E), (0xFB87, 0xFB87, 0x68E), (0xFB88, 0xFB88, 0x688),
  (0xFB89, 0xFB89, 0x688), (0xFB8A, 0xFB8A, 0x698), (0xFB8B, 0xFB8B, 0x698),
  (0xFB8C, 0xFB8C, 0x691), (0xFB8D, 0xFB8D, 0x691), (0xFB8E, 0xFB8E, 0x6A9),
  (0xFB8F, 0xFB8F, 0x6A9), (0xFB90, 0xFB90, 0x6A9), (0xFB91, 0xFB91, 0x6A9),
  (0xFB92, 0xFB92, 0x6AF), (0xFB93, 0xFB93, 0x6AF), (0xFB94, 0xFB94, 0x6AF),
  (0xFB95, 0xFB95, 0x6AF), (0xFB96, 0xFB96, 0x6B3), (0xFB97, 0xFB97, 0x6B3),
  (0xFB98, 0xFB98, 0x6B3), (0xFB99, 0xFB99, 0x6B3), (0xFB9A, 0xFB9A, 0x6B1),
  (0xFB9B, 0xFB9B, 0x6B1), (0xFB9C, 0xFB9C, 0x6B1), (0xFB9D, 0xFB9D, 0x6B1),
  (0xFB9E, 0xFB9E, 0x6BA), (0xFB9F, 0xFBA0, 0x6BA), (0xFBA1, 0xFBA1, 0x6BB),
  (0xFBA2, 0xFBA2, 0x6BB), (0xFBA3, 0xFBA3, 0x6BB), (0xFBA6, 0xFBA6, 0x6C1),
  (0xFBA7, 0xFBA7, 0x6C1), (0xFBA8, 0xFBA8, 0x6C1), (0xFBA9, 0xFBA9, 0x6C1),
  (0xFBAA, 0xFBAA, 0x6BE), (0xFBAB, 0xFBAB, 0x6BE), (0xFBAC, 0xFBAC, 0x6BE),
  (0xFBAD, 0xFBAD, 0x6BE), (0xFBAE, 0xFBAE, 0x6D2), (0xFBAF, 0xFBAF, 0x6D2),
  (0xFBD3, 0xFBD3, 0x6AD), (0xFBD4, 0xFBD4, 0x6AD), (0xFBD5, 0xFBD5, 0x6AD),
  (0xFBD6, 0xFBD6, 0x6AD), (0xFBD7, 0xFBD7, 0x6C7), (0xFBD8, 0xFBD8, 0x6C7),
  (0xFBD9, 0xFBD9, 0x6C6), (0xFBDA, 0xFBDA, 0x6C6), (0xFBDB, 0xFBDB, 0x6C8),
  (0xFBDC, 0xFBDC, 0x6C8), (0xFBDE, 0xFBDE, 0x6CB), (0xFBDF, 0xFBDF, 0x6CB),
  (0xFBE0, 0xFBE0, 0x6C5), (0xFBE1, 0xFBE1, 0x6C5), (0xFBE2, 0xFBE2, 0x6C9),
  (0xFBE3, 0xFBE3, 0x6C9), (0xFBE4, 0xFBE4, 0x6D0), (0xFBE5, 0xFBE5, 0x6D0),
  (0xFBE6, 0xFBE6, 0x6D0), (0xFBE7, 0xFBE7, 0x6D0), (0xFBE8, 0xFBE8, 0x649),
  (0xFBE9, 0xFBE9, 0x649), (0xFBFC, 0xFBFC, 0x6CC), (0xFBFD, 0xFBFD, 0x6CC),
  (0xFBFE, 0xFBFE, 0x6CC), (0xFBFF, 0xFBFF, 0x6CC), (0xFE10, 0xFE10, 0x2C),
  (0xFE11, 0xFE12, 0x3001), (0xFE13, 0xFE14, 0x3A), (0xFE15, 0xFE15, 0x21),
  (0xFE16, 0xFE16, 0x3F), (0xFE17, 0xFE18, 0x3016), (0xFE31, 0xFE31, 0x2014),
  (0xFE32, 0xFE32, 0x2013), (0xFE33, 0xFE33, 0x5F), (0xFE34, 0xFE34, 0x5F),
  (0xFE35, 0xFE36, 0x28), (0xFE37, 0xFE37, 0x7B), (0xFE38, 0xFE38, 0x7D),
  (0xFE39, 0xFE3A, 0x3014), (0xFE3B, 0xFE3C, 0x3010), (0xFE3D, 0xFE3E, 0x300A),
  (0xFE3F, 0xFE40, 0x3008), (0xFE41, 0xFE44, 0x300C), (0xFE47, 0xFE47, 0x5B),
  (0xFE48, 0xFE48, 0x5D), (0xFE4D, 0xFE4D, 0x5F), (0xFE4E, 0xFE4E, 0x5F), (0xFE4F, 0xFE4F, 0x5F),
  (0xFE50, 0xFE50, 0x2C), (0xFE51, 0xFE51, 0x3001), (0xFE52, 0xFE52, 0x2E),
  (0xFE54, 0xFE54, 0x3B), (0xFE55, 0xFE55, 0x3A), (0xFE56, 0xFE56, 0x3F), (0xFE57, 0xFE57, 0x21),
  (0xFE58, 0xFE58, 0x2014), (0xFE59, 0xFE5A, 0x28), (0xFE5B, 0xFE5B, 0x7B),
  (0xFE5C, 0xFE5C, 0x7D), (0xFE5D, 0xFE5E, 0x3014), (0xFE5F, 0xFE5F, 0x23),
  (0xFE60, 0xFE60, 0x26), (0xFE61, 0xFE62, 0x2A), (0xFE63, 0xFE63, 0x2D), (0xFE64, 0xFE64, 0x3C),
  (0xFE65, 0xFE65, 0x3E), (0xFE66, 0xFE66, 0x3D), (0xFE68, 0xFE68, 0x5C), (0xFE69, 0xFE6A, 0x24),
  (0xFE6B, 0xFE6B, 0x40), (0xFE80, 0xFE80, 0x621), (0xFE8D, 0xFE8D, 0x627),
  (0xFE8E, 0xFE8F, 0x627), (0xFE90, 0xFE90, 0x628), (0xFE91, 0xFE91, 0x628),
  (0xFE92, 0xFE93, 0x628), (0xFE94, 0xFE95, 0x629), (0xFE96, 0xFE96, 0x62A),
  (0xFE97, 0xFE97, 0x62A), (0xFE98, 0xFE99, 0x62A), (0xFE9A, 0xFE9A, 0x62B),
  (0xFE9B, 0xFE9B, 0x62B), (0xFE9C, 0xFE9D, 0x62B), (0xFE9E, 0xFE9E, 0x62C),
  (0xFE9F, 0xFE9F, 0x62C), (0xFEA0, 0xFEA1, 0x62C), (0xFEA2, 0xFEA2, 0x62D),
  (0xFEA3, 0xFEA3, 0x62D), (0xFEA4, 0xFEA5, 0x62D), (0xFEA6, 0xFEA6, 0x62E),
  (0xFEA7, 0xFEA7, 0x62E), (0xFEA8, 0xFEA9, 0x62E), (0xFEAA, 0xFEAB, 0x62F),
  (0xFEAC, 0xFEAD, 0x630), (0xFEAE, 0xFEAF, 0x631), (0xFEB0, 0xFEB1, 0x632),
  (0xFEB2, 0xFEB2, 0x633), (0xFEB3, 0xFEB3, 0x633), (0xFEB4, 0xFEB5, 0x633),
  (0xFEB6, 0xFEB6, 0x634), (0xFEB7, 0xFEB7, 0x634), (0xFEB8, 0xFEB9, 0x634),
  (0xFEBA, 0xFEBA, 0x635), (0xFEBB, 0xFEBB, 0x635), (0xFEBC, 0xFEBD, 0x635),
  (0xFEBE, 0xFEBE, 0x636), (0xFEBF, 0xFEBF, 0x636), (0xFEC0, 0xFEC1, 0x636),
  (0xFEC2, 0xFEC2, 0x637), (0xFEC3, 0xFEC3, 0x637), (0xFEC4, 0xFEC5, 0x637),
  (0xFEC6, 0xFEC6, 0x638), (0xFEC7, 0xFEC7, 0x638), (0xFEC8, 0xFEC9, 0x638),
  (0xFECA, 0xFECA, 0x639), (0xFECB, 0xFECB, 0x639), (0xFECC, 0xFECD, 0x639),
  (0xFECE, 0xFECE, 0x63A), (0xFECF, 0xFECF, 0x63A), (0xFED0, 0xFED0, 0x63A),
  (0xFED1, 0xFED1, 0x641), (0xFED2, 0xFED2, 0x641), (0xFED3, 0xFED3, 0x641),
  (0xFED4, 0xFED5, 0x641), (0xFED6, 0xFED6, 0x642), (0xFED7, 0xFED7, 0x642),
  (0xFED8, 0xFED9, 0x642), (0xFEDA, 0xFEDA, 0x643), (0xFEDB, 0xFEDB, 0x643),
  (0xFEDC, 0xFEDD, 0x643), (0xFEDE, 0xFEDE, 0x644), (0xFEDF, 0xFEDF, 0x644),
  (0xFEE0, 0xFEE1, 0x644), (0xFEE2, 0xFEE2, 0x645), (0xFEE3, 0xFEE3, 0x645),
  (0xFEE4, 0xFEE5, 0x645), (0xFEE6, 0xFEE6, 0x646), (0xFEE7, 0xFEE7, 0x646),
  (0xFEE8, 0xFEE9, 0x646), (0xFEEA, 0xFEEA, 0x647), (0xFEEB, 0xFEEB, 0x647),
  (0xFEEC, 0xFEED, 0x647), (0xFEEE, 0xFEEF, 0x648), (0xFEF0, 0xFEF1, 0x649),
  (0xFEF2, 0xFEF2, 0x64A), (0xFEF3, 0xFEF3, 0x64A), (0xFEF4, 0xFEF4, 0x64A),
  (0xFF01, 0xFF5E, 0x21), (0xFF5F, 0xFF60, 0x2985), (0xFF61, 0xFF61, 0x3002),
  (0xFF62, 0xFF63, 0x300C), (0xFF64, 0xFF64, 0x3001), (0xFF65, 0xFF65, 0x30FB),
  (0xFF66, 0xFF66, 0x30F2), (0xFF67, 0xFF67, 0x30A1), (0xFF68, 0xFF68, 0x30A3),
  (0xFF69, 0xFF69, 0x30A5), (0xFF6A, 0xFF6A, 0x30A7), (0xFF6B, 0xFF6B, 0x30A9),
  (0xFF6C, 0xFF6C, 0x30E3), (0xFF6D, 0xFF6D, 0x30E5), (0xFF6E, 0xFF6E, 0x30E7),
  (0xFF6F, 0xFF6F, 0x30C3), (0xFF70, 0xFF70, 0x30FC), (0xFF71, 0xFF71, 0x30A2),
  (0xFF72, 0xFF72, 0x30A4), (0xFF73, 0xFF73, 0x30A6), (0xFF74, 0xFF74, 0x30A8),
  (0xFF75, 0xFF76, 0x30AA), (0xFF77, 0xFF77, 0x30AD), (0xFF78, 0xFF78, 0x30AF),
  (0xFF79, 0xFF79, 0x30B1), (0xFF7A, 0xFF7A, 0x30B3), (0xFF7B, 0xFF7B, 0x30B5),
  (0xFF7C, 0xFF7C, 0x30B7), (0xFF7D, 0xFF7D, 0x30B9), (0xFF7E, 0xFF7E, 0x30BB),
  (0xFF7F, 0xFF7F, 0x30BD), (0xFF80, 0xFF80, 0x30BF), (0xFF81, 0xFF81, 0x30C1),
  (0xFF82, 0xFF82, 0x30C4), (0xFF83, 0xFF83, 0x30C6), (0xFF84, 0xFF84, 0x30C8),
  (0xFF85, 0xFF8A, 0x30CA), (0xFF8B, 0xFF8B, 0x30D2), (0xFF8C, 0xFF8C, 0x30D5),
  (0xFF8D, 0xFF8D, 0x30D8), (0xFF8E, 0xFF8E, 0x30DB), (0xFF8F, 0xFF93, 0x30DE),
  (0xFF94, 0xFF94, 0x30E4), (0xFF95, 0xFF95, 0x30E6), (0xFF96, 0xFF9B, 0x30E8),
  (0xFF9C, 0xFF9C, 0x30EF), (0xFF9D, 0xFF9D, 0x30F3), (0xFF9E, 0xFF9F, 0x3099),
  (0xFFA0, 0xFFA0, 0x1160), (0xFFA1, 0xFFA2, 0x1100), (0xFFA3, 0xFFA3, 0x11AA),
  (0xFFA4, 0xFFA4, 0x1102), (0xFFA5, 0xFFA6, 0x11AC), (0xFFA7, 0xFFA9, 0x1103),
  (0xFFAA, 0xFFAF, 0x11B0), (0xFFB0, 0xFFB0, 0x111A), (0xFFB1, 0xFFB3, 0x1106),
  (0xFFB4, 0xFFB4, 0x1121), (0xFFB5, 0xFFBE, 0x1109), (0xFFC2, 0xFFC7, 0x1161),
  (0xFFCA, 0xFFCF, 0x1167), (0xFFD2, 0xFFD7, 0x116D), (0xFFDA, 0xFFDC, 0x1173),
  (0xFFE0, 0xFFE1, 0xA2), (0xFFE2, 0xFFE2, 0xAC), (0xFFE4, 0xFFE4, 0xA6), (0xFFE5, 0xFFE5, 0xA5),
  (0xFFE6, 0xFFE6, 0x20A9), (0xFFE8, 0xFFE8, 0x2502), (0xFFE9, 0xFFEC, 0x2190),
  (0xFFED, 0xFFED, 0x25A0), (0xFFEE, 0xFFEE, 0x25CB)]

/-- Characters with a one-character decomposition: the supplementary planes. -/
def shiftsSupplement : List (Nat × Nat × Nat) := [
  (0x10781, 0x10782, 0x2D0), (0x10783, 0x10783, 0xE6), (0x10784, 0x10784, 0x299),
  (0x10785, 0x10785, 0x253), (0x10787, 0x10787, 0x2A3), (0x10788, 0x10788, 0xAB66),
  (0x10789, 0x10789, 0x2A5), (0x1078A, 0x1078A, 0x2A4), (0x1078B, 0x1078C, 0x256),
  (0x1078D, 0x1078D, 0x1D91), (0x1078E, 0x1078E, 0x258), (0x1078F, 0x1078F, 0x25E),
  (0x10790, 0x10790, 0x2A9), (0x10791, 0x10791, 0x264), (0x10792, 0x10792, 0x262),
  (0x10793, 0x10793, 0x260), (0x10794, 0x10794, 0x29B), (0x10795, 0x10795, 0x127),
  (0x10796, 0x10796, 0x29C), (0x10797, 0x10797, 0x267), (0x10798, 0x10798, 0x284),
  (0x10799, 0x1079A, 0x2AA), (0x1079B, 0x1079B, 0x26C), (0x1079C, 0x1079C, 0x1DF04),
  (0x1079D, 0x1079D, 0xA78E), (0x1079E, 0x1079E, 0x26E), (0x1079F, 0x1079F, 0x1DF05),
  (0x107A0, 0x107A0, 0x28E), (0x107A1, 0x107A1, 0x1DF06), (0x107A2, 0x107A2, 0xF8),
  (0x107A3, 0x107A4, 0x276), (0x107A5, 0x107A5, 0x71), (0x107A6, 0x107A6, 0x27A),
  (0x107A7, 0x107A7, 0x1DF08), (0x107A8, 0x107A9, 0x27D), (0x107AA, 0x107AA, 0x280),
  (0x107AB, 0x107AB, 0x2A8), (0x107AC, 0x107AC, 0x2A6), (0x107AD, 0x107AD, 0xAB67),
  (0x107AE, 0x107AE, 0x2A7), (0x107AF, 0x107AF, 0x288), (0x107B0, 0x107B0, 0x2C71),
  (0x107B2, 0x107B2, 0x28F), (0x107B3, 0x107B4, 0x2A1), (0x107B5, 0x107B5, 0x298),
  (0x107B6, 0x107B8, 0x1C0), (0x107B9, 0x107B9, 0x1DF0A), (0x107BA, 0x107BA, 0x1DF1E),
  (0x1CCD6, 0x1CCEF, 0x41), (0x1CCF0, 0x1CCF9, 0x30), (0x1D400, 0x1D419, 0x41),
  (0x1D41A, 0x1D433, 0x61), (0x1D434, 0x1D44D, 0x41), (0x1D44E, 0x1D454, 0x61),
  (0x1D456, 0x1D467, 0x69), (0x1D468, 0x1D481, 0x41), (0x1D482, 0x1D49B, 0x61),
  (0x1D49C, 0x1D49C, 0x41), (0x1D49E, 0x1D49F, 0x43), (0x1D4A2, 0x1D4A2, 0x47),
  (0x1D4A5, 0x1D4A6, 0x4A), (0x1D4A9, 0x1D4AC, 0x4E), (0x1D4AE, 0x1D4B5, 0x53),
  (0x1D4B6, 0x1D4B9, 0x61), (0x1D4BB, 0x1D4BB, 0x66), (0x1D4BD, 0x1D4C3, 0x68),
  (0x1D4C5, 0x1D4CF, 0x70), (0x1D4D0, 0x1D4E9, 0x41), (0x1D4EA, 0x1D503, 0x61),
  (0x1D504, 0x1D505, 0x41), (0x1D507, 0x1D50A, 0x44), (0x1D50D, 0x1D514, 0x4A),
  (0x1D516, 0x1D51C, 0x53), (0x1D51E, 0x1D537, 0x61), (0x1D538, 0x1D539, 0x41),
  (0x1D53B, 0x1D53E, 0x44), (0x1D540, 0x1D544, 0x49), (0x1D546, 0x1D546, 0x4F),
  (0x1D54A, 0x1D550, 0x53), (0x1D552, 0x1D56B, 0x61), (0x1D56C, 0x1D585, 0x41),
  (0x1D586, 0x1D59F, 0x61), (0x1D5A0, 0x1D5B9, 0x41), (0x1D5BA, 0x1D5D3, 0x61),
  (0x1D5D4, 0x1D5ED, 0x41), (0x1D5EE, 0x1D607, 0x61), (0x1D608, 0x1D621, 0x41),
  (0x1D622, 0x1D63B, 0x61), (0x1D63C, 0x1D655, 0x41), (0x1D656, 0x1D66F, 0x61),
  (0x1D670, 0x1D689, 0x41), (0x1D68A, 0x1D6A3, 0x61), (0x1D6A4, 0x1D6A4, 0x131),
  (0x1D6A5, 0x1D6A5, 0x237), (0x1D6A8, 0x1D6B8, 0x391), (0x1D6B9, 0x1D6B9, 0x398),
  (0x1D6BA, 0x1D6C0, 0x3A3), (0x1D6C1, 0x1D6C1, 0x2207), (0x1D6C2, 0x1D6DA, 0x3B1),
  (0x1D6DB, 0x1D6DB, 0x2202), (0x1D6DC, 0x1D6DC, 0x3B5), (0x1D6DD, 0x1D6DD, 0x3B8),
  (0x1D6DE, 0x1D6DE, 0x3BA), (0x1D6DF, 0x1D6DF, 0x3C6), (0x1D6E0, 0x1D6E0, 0x3C1),
  (0x1D6E1, 0x1D6E1, 0x3C0), (0x1D6E2, 0x1D6F2, 0x391), (0x1D6F3, 0x1D6F3, 0x398),
  (0x1D6F4, 0x1D6FA, 0x3A3), (0x1D6FB, 0x1D6FB, 0x2207), (0x1D6FC, 0x1D714, 0x3B1),
  (0x1D715, 0x1D715, 0x2202), (0x1D716, 0x1D716, 0x3B5), (0x1D717, 0x1D717, 0x3B8),
  (0x1D718, 0x1D718, 0x3BA), (0x1D719, 0x1D719, 0x3C6), (0x1D71A, 0x1D71A, 0x3C1),
  (0x1D71B, 0x1D71B, 0x3C0), (0x1D71C, 0x1D72C, 0x391), (0x1D72D, 0x1D72D, 0x398),
  (0x1D72E, 0x1D734, 0x3A3), (0x1D735, 0x1D735, 0x2207), (0x1D736, 0x1D74E, 0x3B1),
  (0x1D74F, 0x1D74F, 0x2202), (0x1D750, 0x1D750, 0x3B5), (0x1D751, 0x1D751, 0x3B8),
  (0x1D752, 0x1D752, 0x3BA), (0x1D753, 0x1D753, 0x3C6), (0x1D754, 0x1D754, 0x3C1),
  (0x1D755, 0x1D755, 0x3C0), (0x1D756, 0x1D766, 0x391), (0x1D767, 0x1D767, 0x398),
  (0x1D768, 0x1D76E, 0x3A3), (0x1D76F, 0x1D76F, 0x2207), (0x1D770, 0x1D788, 0x3B1),
  (0x1D789, 0x1D789, 0x2202), (0x1D78A, 0x1D78A, 0x3B5), (0x1D78B, 0x1D78B, 0x3B8),
  (0x1D78C, 0x1D78C, 0x3BA), (0x1D78D, 0x1D78D, 0x3C6), (0x1D78E, 0x1D78E, 0x3C1),
  (0x1D78F, 0x1D78F, 0x3C0), (0x1D790, 0x1D7A0, 0x391), (0x1D7A1, 0x1D7A1, 0x398),
  (0x1D7A2, 0x1D7A8, 0x3A3), (0x1D7A9, 0x1D7A9, 0x2207), (0x1D7AA, 0x1D7C2, 0x3B1),
  (0x1D7C3, 0x1D7C3, 0x2202), (0x1D7C4, 0x1D7C4, 0x3B5), (0x1D7C5, 0x1D7C5, 0x3B8),
  (0x1D7C6, 0x1D7C6, 0x3BA), (0x1D7C7, 0x1D7C7, 0x3C6), (0x1D7C8, 0x1D7C8, 0x3C1),
  (0x1D7C9, 0x1D7C9, 0x3C0), (0x1D7CA, 0x1D7CB, 0x3DC), (0x1D7CE, 0x1D7D7, 0x30),
  (0x1D7D8, 0x1D7E1, 0x30), (0x1D7E2, 0x1D7EB, 0x30), (0x1D7EC, 0x1D7F5, 0x30),
  (0x1D7F6, 0x1D7FF, 0x30), (0x1E030, 0x1E038, 0x430), (0x1E039, 0x1E03B, 0x43A),
  (0x1E03C, 0x1E046, 0x43E), (0x1E047, 0x1E047, 0x44B), (0x1E048, 0x1E049, 0x44D),
  (0x1E04A, 0x1E04A, 0xA689), (0x1E04B, 0x1E04B, 0x4D9), (0x1E04C, 0x1E04C, 0x456),
  (0x1E04D, 0x1E04D, 0x458), (0x1E04E, 0x1E04E, 0x4E9), (0x1E04F, 0x1E04F, 0x4AF),
  (0x1E050, 0x1E050, 0x4CF), (0x1E051, 0x1E059, 0x430), (0x1E05A, 0x1E05B, 0x43A),
  (0x1E05C, 0x1E05D, 0x43E), (0x1E05E, 0x1E05E, 0x441), (0x1E05F, 0x1E064, 0x443),
  (0x1E065, 0x1E066, 0x44A), (0x1E067, 0x1E067, 0x491), (0x1E068, 0x1E068, 0x456),
  (0x1E069, 0x1E069, 0x455), (0x1E06A, 0x1E06A, 0x45F), (0x1E06B, 0x1E06B, 0x4AB),
  (0x1E06C, 0x1E06C, 0xA651), (0x1E06D, 0x1E06D, 0x4B1), (0x1EE00, 0x1EE01, 0x627),
  (0x1EE02, 0x1EE02, 0x62C), (0x1EE03, 0x1EE03, 0x62F), (0x1EE05, 0x1EE05, 0x648),
  (0x1EE06, 0x1EE06, 0x632), (0x1EE07, 0x1EE07, 0x62D), (0x1EE08, 0x1EE08, 0x637),
  (0x1EE09, 0x1EE09, 0x64A), (0x1EE0A, 0x1EE0D, 0x643), (0x1EE0E, 0x1EE0E, 0x633),
  (0x1EE0F, 0x1EE0F, 0x639), (0x1EE10, 0x1EE10, 0x641), (0x1EE11, 0x1EE11, 0x635),
  (0x1EE12, 0x1EE12, 0x642), (0x1EE13, 0x1EE13, 0x631), (0x1EE14, 0x1EE14, 0x634),
  (0x1EE15, 0x1EE16, 0x62A), (0x1EE17, 0x1EE17, 0x62E), (0x1EE18, 0x1EE18, 0x630),
  (0x1EE19, 0x1EE19, 0x636), (0x1EE1A, 0x1EE1A, 0x638), (0x1EE1B, 0x1EE1B, 0x63A),
  (0x1EE1C, 0x1EE1C, 0x66E), (0x1EE1D, 0x1EE1D, 0x6BA), (0x1EE1E, 0x1EE1E, 0x6A1),
  (0x1EE1F, 0x1EE1F, 0x66F), (0x1EE21, 0x1EE21, 0x628), (0x1EE22, 0x1EE22, 0x62C),
  (0x1EE24, 0x1EE24, 0x647), (0x1EE27, 0x1EE27, 0x62D), (0x1EE29, 0x1EE29, 0x64A),
  (0x1EE2A, 0x1EE2D, 0x643), (0x1EE2E, 0x1EE2E, 0x633), (0x1EE2F, 0x1EE2F, 0x639),
  (0x1EE30, 0x1EE30, 0x641), (0x1EE31, 0x1EE31, 0x635), (0x1EE32, 0x1EE32, 0x642),
  (0x1EE34, 0x1EE34, 0x634), (0x1EE35, 0x1EE36, 0x62A), (0x1EE37, 0x1EE37, 0x62E),
  (0x1EE39, 0x1EE39, 0x636), (0x1EE3B, 0x1EE3B, 0x63A), (0x1EE42, 0x1EE42, 0x62C),
  (0x1EE47, 0x1EE47, 0x62D), (0x1EE49, 0x1EE49, 0x64A), (0x1EE4B, 0x1EE4B, 0x644),
  (0x1EE4D, 0x1EE4D, 0x646), (0x1EE4E, 0x1EE4E, 0x633), (0x1EE4F, 0x1EE4F, 0x639),
  (0x1EE51, 0x1EE51, 0x635), (0x1EE52, 0x1EE52, 0x642), (0x1EE54, 0x1EE54, 0x634),
  (0x1EE57, 0x1EE57, 0x62E), (0x1EE59, 0x1EE59, 0x636), (0x1EE5B, 0x1EE5B, 0x63A),
  (0x1EE5D, 0x1EE5D, 0x6BA), (0x1EE5F, 0x1EE5F, 0x66F), (0x1EE61, 0x1EE61, 0x628),
  (0x1EE62, 0x1EE62, 0x62C), (0x1EE64, 0x1EE64, 0x647), (0x1EE67, 0x1EE67, 0x62D),
  (0x1EE68, 0x1EE68, 0x637), (0x1EE69, 0x1EE69, 0x64A), (0x1EE6A, 0x1EE6A, 0x643),
  (0x1EE6C, 0x1EE6D, 0x645), (0x1EE6E, 0x1EE6E, 0x633), (0x1EE6F, 0x1EE6F, 0x639),
  (0x1EE70, 0x1EE70, 0x641), (0x1EE71, 0x1EE71, 0x635), (0x1EE72, 0x1EE72, 0x642),
  (0x1EE74, 0x1EE74, 0x634), (0x1EE75, 0x1EE76, 0x62A), (0x1EE77, 0x1EE77, 0x62E),
  (0x1EE79, 0x1EE79, 0x636), (0x1EE7A, 0x1EE7A, 0x638), (0x1EE7B, 0x1EE7B, 0x63A),
  (0x1EE7C, 0x1EE7C, 0x66E), (0x1EE7E, 0x1EE7E, 0x6A1), (0x1EE80, 0x1EE81, 0x627),
  (0x1EE82, 0x1EE82, 0x62C), (0x1EE83, 0x1EE83, 0x62F), (0x1EE84, 0x1EE85, 0x647),
  (0x1EE86, 0x1EE86, 0x632), (0x1EE87, 0x1EE87, 0x62D), (0x1EE88, 0x1EE88, 0x637),
  (0x1EE89, 0x1EE89, 0x64A), (0x1EE8B, 0x1EE8D, 0x644), (0x1EE8E, 0x1EE8E, 0x633),
  (0x1EE8F, 0x1EE8F, 0x639), (0x1EE90, 0x1EE90, 0x641), (0x1EE91, 0x1EE91, 0x635),
  (0x1EE92, 0x1EE92, 0x642), (0x1EE93, 0x1EE93, 0x631), (0x1EE94, 0x1EE94, 0x634),
  (0x1EE95, 0x1EE96, 0x62A), (0x1EE97, 0x1EE97, 0x62E), (0x1EE98, 0x1EE98, 0x630),
  (0x1EE99, 0x1EE99, 0x636), (0x1EE9A, 0x1EE9A, 0x638), (0x1EE9B, 0x1EE9B, 0x63A),
  (0x1EEA1, 0x1EEA1, 0x628), (0x1EEA2, 0x1EEA2, 0x62C), (0x1EEA3, 0x1EEA3, 0x62F),
  (0x1EEA5, 0x1EEA5, 0x648), (0x1EEA6, 0x1EEA6, 0x632), (0x1EEA7, 0x1EEA7, 0x62D),
  (0x1EEA8, 0x1EEA8, 0x637), (0x1EEA9, 0x1EEA9, 0x64A), (0x1EEAB, 0x1EEAD, 0x644),
  (0x1EEAE, 0x1EEAE, 0x633), (0x1EEAF, 0x1EEAF, 0x639), (0x1EEB0, 0x1EEB0, 0x641),
  (0x1EEB1, 0x1EEB1, 0x635), (0x1EEB2, 0x1EEB2, 0x642), (0x1EEB3, 0x1EEB3, 0x631),
  (0x1EEB4, 0x1EEB4, 0x634), (0x1EEB5, 0x1EEB6, 0x62A), (0x1EEB7, 0x1EEB7, 0x62E),
  (0x1EEB8, 0x1EEB8, 0x630), (0x1EEB9, 0x1EEB9, 0x636), (0x1EEBA, 0x1EEBA, 0x638),
  (0x1EEBB, 0x1EEBB, 0x63A), (0x1F12B, 0x1F12B, 0x43), (0x1F12C, 0x1F12C, 0x52),
  (0x1F130, 0x1F149, 0x41), (0x1F202, 0x1F202, 0x30B5), (0x1F210, 0x1F210, 0x624B),
  (0x1F211, 0x1F211, 0x5B57), (0x1F212, 0x1F212, 0x53CC), (0x1F214, 0x1F214, 0x4E8C),
  (0x1F215, 0x1F215, 0x591A), (0x1F216, 0x1F216, 0x89E3), (0x1F217, 0x1F217, 0x5929),
  (0x1F218, 0x1F218, 0x4EA4), (0x1F219, 0x1F219, 0x6620), (0x1F21A, 0x1F21A, 0x7121),
  (0x1F21B, 0x1F21B, 0x6599), (0x1F21C, 0x1F21C, 0x524D), (0x1F21D, 0x1F21D, 0x5F8C),
  (0x1F21E, 0x1F21E, 0x518D), (0x1F21F, 0x1F21F, 0x65B0), (0x1F220, 0x1F220, 0x521D),
  (0x1F221, 0x1F221, 0x7D42), (0x1F222, 0x1F222, 0x751F), (0x1F223, 0x1F223, 0x8CA9),
  (0x1F224, 0x1F224, 0x58F0), (0x1F225, 0x1F225, 0x5439), (0x1F226, 0x1F226, 0x6F14),
  (0x1F227, 0x1F227, 0x6295), (0x1F228, 0x1F228, 0x6355), (0x1F229, 0x1F229, 0x4E00),
  (0x1F22A, 0x1F22A, 0x4E09), (0x1F22B, 0x1F22B, 0x904A), (0x1F22C, 0x1F22C, 0x5DE6),
  (0x1F22D, 0x1F22D, 0x4E2D), (0x1F22E, 0x1F22E, 0x53F3), (0x1F22F, 0x1F22F, 0x6307),
  (0x1F230, 0x1F230, 0x8D70), (0x1F231, 0x1F231, 0x6253), (0x1F232, 0x1F232, 0x7981),
  (0x1F233, 0x1F233, 0x7A7A), (0x1F234, 0x1F234, 0x5408), (0x1F235, 0x1F235, 0x6E80),
  (0x1F236, 0x1F236, 0x6709), (0x1F237, 0x1F237, 0x6708), (0x1F238, 0x1F238, 0x7533),
  (0x1F239, 0x1F239, 0x5272), (0x1F23A, 0x1F23A, 0x55B6), (0x1F23B, 0x1F23B, 0x914D),
  (0x1F250, 0x1F250, 0x5F97), (0x1F251, 0x1F251, 0x53EF), (0x1FBF0, 0x1FBF9, 0x30),
  (0x2F800, 0x2F800, 0x4E3D), (0x2F801, 0x2F801, 0x4E38), (0x2F802, 0x2F802, 0x4E41),
  (0x2F803, 0x2F803, 0x20122), (0x2F804, 0x2F804, 0x4F60), (0x2F805, 0x2F805, 0x4FAE),
  (0x2F806, 0x2F806, 0x4FBB), (0x2F807, 0x2F807, 0x5002), (0x2F808, 0x2F808, 0x507A),
  (0x2F809, 0x2F809, 0x5099), (0x2F80A, 0x2F80A, 0x50E7), (0x2F80B, 0x2F80B, 0x50CF),
  (0x2F80C, 0x2F80C, 0x349E), (0x2F80D, 0x2F80D, 0x2063A), (0x2F80E, 0x2F80E, 0x514D),
  (0x2F80F, 0x2F80F, 0x5154), (0x2F810, 0x2F810, 0x5164), (0x2F811, 0x2F811, 0x5177),
  (0x2F812, 0x2F812, 0x2051C), (0x2F813, 0x2F813, 0x34B9), (0x2F814, 0x2F814, 0x5167),
  (0x2F815, 0x2F815, 0x518D), (0x2F816, 0x2F816, 0x2054B), (0x2F817, 0x2F817, 0x5197),
  (0x2F818, 0x2F818, 0x51A4), (0x2F819, 0x2F819, 0x4ECC), (0x2F81A, 0x2F81A, 0x51AC),
  (0x2F81B, 0x2F81B, 0x51B5), (0x2F81C, 0x2F81C, 0x291DF), (0x2F81D, 0x2F81D, 0x51F5),
  (0x2F81E, 0x2F81E, 0x5203), (0x2F81F, 0x2F81F, 0x34DF), (0x2F820, 0x2F820, 0x523B),
  (0x2F821, 0x2F821, 0x5246), (0x2F822, 0x2F822, 0x5272), (0x2F823, 0x2F823, 0x5277),
  (0x2F824, 0x2F824, 0x3515), (0x2F825, 0x2F825, 0x52C7), (0x2F826, 0x2F826, 0x52C9),
  (0x2F827, 0x2F827, 0x52E4), (0x2F828, 0x2F828, 0x52FA), (0x2F829, 0x2F82A, 0x5305),
  (0x2F82B, 0x2F82B, 0x5317), (0x2F82C, 0x2F82C, 0x5349), (0x2F82D, 0x2F82D, 0x5351),
  (0x2F82E, 0x2F82E, 0x535A), (0x2F82F, 0x2F82F, 0x5373), (0x2F830, 0x2F830, 0x537D),
  (0x2F831, 0x2F831, 0x537F), (0x2F832, 0x2F832, 0x537F), (0x2F833, 0x2F833, 0x537F),
  (0x2F834, 0x2F834, 0x20A2C), (0x2F835, 0x2F835, 0x7070), (0x2F836, 0x2F836, 0x53CA),
  (0x2F837, 0x2F837, 0x53DF), (0x2F838, 0x2F838, 0x20B63), (0x2F839, 0x2F839, 0x53EB),
  (0x2F83A, 0x2F83A, 0x53F1), (0x2F83B, 0x2F83B, 0x5406), (0x2F83C, 0x2F83C, 0x549E),
  (0x2F83D, 0x2F83D, 0x5438), (0x2F83E, 0x2F83E, 0x5448), (0x2F83F, 0x2F83F, 0x5468),
  (0x2F840, 0x2F840, 0x54A2), (0x2F841, 0x2F841, 0x54F6), (0x2F842, 0x2F842, 0x5510),
  (0x2F843, 0x2F843, 0x5553), (0x2F844, 0x2F844, 0x5563), (0x2F845, 0x2F845, 0x5584),
  (0x2F846, 0x2F846, 0x5584), (0x2F847, 0x2F847, 0x5599), (0x2F848, 0x2F848, 0x55AB),
  (0x2F849, 0x2F849, 0x55B3), (0x2F84A, 0x2F84A, 0x55C2), (0x2F84B, 0x2F84B, 0x5716),
  (0x2F84C, 0x2F84C, 0x5606), (0x2F84D, 0x2F84D, 0x5717), (0x2F84E, 0x2F84E, 0x5651),
  (0x2F84F, 0x2F84F, 0x5674), (0x2F850, 0x2F850, 0x5207), (0x2F851, 0x2F851, 0x58EE),
  (0x2F852, 0x2F852, 0x57CE), (0x2F853, 0x2F853, 0x57F4), (0x2F854, 0x2F854, 0x580D),
  (0x2F855, 0x2F855, 0x578B), (0x2F856, 0x2F856, 0x5832), (0x2F857, 0x2F857, 0x5831),
  (0x2F858, 0x2F858, 0x58AC), (0x2F859, 0x2F859, 0x214E4), (0x2F85A, 0x2F85A, 0x58F2),
  (0x2F85B, 0x2F85B, 0x58F7), (0x2F85C, 0x2F85C, 0x5906), (0x2F85D, 0x2F85D, 0x591A),
  (0x2F85E, 0x2F85E, 0x5922), (0x2F85F, 0x2F85F, 0x5962), (0x2F860, 0x2F860, 0x216A8),
  (0x2F861, 0x2F861, 0x216EA), (0x2F862, 0x2F862, 0x59EC), (0x2F863, 0x2F863, 0x5A1B),
  (0x2F864, 0x2F864, 0x5A27), (0x2F865, 0x2F865, 0x59D8), (0x2F866, 0x2F866, 0x5A66),
  (0x2F867, 0x2F867, 0x36EE), (0x2F868, 0x2F868, 0x36FC), (0x2F869, 0x2F869, 0x5B08),
  (0x2F86A, 0x2F86A, 0x5B3E), (0x2F86B, 0x2F86B, 0x5B3E), (0x2F86C, 0x2F86C, 0x219C8),
  (0x2F86D, 0x2F86D, 0x5BC3), (0x2F86E, 0x2F86E, 0x5BD8), (0x2F86F, 0x2F86F, 0x5BE7),
  (0x2F870, 0x2F870, 0x5BF3), (0x2F871, 0x2F871, 0x21B18), (0x2F872, 0x2F872, 0x5BFF),
  (0x2F873, 0x2F873, 0x5C06), (0x2F874, 0x2F874, 0x5F53), (0x2F875, 0x2F875, 0x5C22),
  (0x2F876, 0x2F876, 0x3781), (0x2F877, 0x2F877, 0x5C60), (0x2F878, 0x2F878, 0x5C6E),
  (0x2F879, 0x2F879, 0x5CC0), (0x2F87A, 0x2F87A, 0x5C8D), (0x2F87B, 0x2F87B, 0x21DE4),
  (0x2F87C, 0x2F87C, 0x5D43), (0x2F87D, 0x2F87D, 0x21DE6), (0x2F87E, 0x2F87E, 0x5D6E),
  (0x2F87F, 0x2F87F, 0x5D6B), (0x2F880, 0x2F880, 0x5D7C), (0x2F881, 0x2F882, 0x5DE1),
  (0x2F883, 0x2F883, 0x382F), (0x2F884, 0x2F884, 0x5DFD), (0x2F885, 0x2F885, 0x5E28),
  (0x2F886, 0x2F886, 0x5E3D), (0x2F887, 0x2F887, 0x5E69), (0x2F888, 0x2F888, 0x3862),
  (0x2F889, 0x2F889, 0x22183), (0x2F88A, 0x2F88A, 0x387C), (0x2F88B, 0x2F88B, 0x5EB0),
  (0x2F88C, 0x2F88C, 0x5EB3), (0x2F88D, 0x2F88D, 0x5EB6), (0x2F88E, 0x2F88E, 0x5ECA),
  (0x2F88F, 0x2F88F, 0x2A392), (0x2F890, 0x2F890, 0x5EFE), (0x2F891, 0x2F891, 0x22331),
  (0x2F892, 0x2F892, 0x22331), (0x2F893, 0x2F893, 0x8201), (0x2F894, 0x2F894, 0x5F22),
  (0x2F895, 0x2F895, 0x5F22), (0x2F896, 0x2F896, 0x38C7), (0x2F897, 0x2F897, 0x232B8),
  (0x2F898, 0x2F898, 0x261DA), (0x2F899, 0x2F899, 0x5F62), (0x2F89A, 0x2F89A, 0x5F6B),
  (0x2F89B, 0x2F89B, 0x38E3), (0x2F89C, 0x2F89C, 0x5F9A), (0x2F89D, 0x2F89D, 0x5FCD),
  (0x2F89E, 0x2F89E, 0x5FD7), (0x2F89F, 0x2F89F, 0x5FF9), (0x2F8A0, 0x2F8A0, 0x6081),
  (0x2F8A1, 0x2F8A1, 0x393A), (0x2F8A2, 0x2F8A2, 0x391C), (0x2F8A3, 0x2F8A3, 0x6094),
  (0x2F8A4, 0x2F8A4, 0x226D4), (0x2F8A5, 0x2F8A5, 0x60C7), (0x2F8A6, 0x2F8A6, 0x6148),
  (0x2F8A7, 0x2F8A7, 0x614C), (0x2F8A8, 0x2F8A8, 0x614E), (0x2F8A9, 0x2F8A9, 0x614C),
  (0x2F8AA, 0x2F8AA, 0x617A), (0x2F8AB, 0x2F8AB, 0x618E), (0x2F8AC, 0x2F8AC, 0x61B2),
  (0x2F8AD, 0x2F8AD, 0x61A4), (0x2F8AE, 0x2F8AE, 0x61AF), (0x2F8AF, 0x2F8AF, 0x61DE),
  (0x2F8B0, 0x2F8B0, 0x61F2), (0x2F8B1, 0x2F8B1, 0x61F6), (0x2F8B2, 0x2F8B2, 0x6210),
  (0x2F8B3, 0x2F8B3, 0x621B), (0x2F8B4, 0x2F8B4, 0x625D), (0x2F8B5, 0x2F8B5, 0x62B1),
  (0x2F8B6, 0x2F8B6, 0x62D4), (0x2F8B7, 0x2F8B7, 0x6350), (0x2F8B8, 0x2F8B8, 0x22B0C),
  (0x2F8B9, 0x2F8B9, 0x633D), (0x2F8BA, 0x2F8BA, 0x62FC), (0x2F8BB, 0x2F8BB, 0x6368),
  (0x2F8BC, 0x2F8BC, 0x6383), (0x2F8BD, 0x2F8BD, 0x63E4), (0x2F8BE, 0x2F8BE, 0x22BF1),
  (0x2F8BF, 0x2F8BF, 0x6422), (0x2F8C0, 0x2F8C0, 0x63C5), (0x2F8C1, 0x2F8C1, 0x63A9),
  (0x2F8C2, 0x2F8C2, 0x3A2E), (0x2F8C3, 0x2F8C3, 0x6469), (0x2F8C4, 0x2F8C4, 0x647E),
  (0x2F8C5, 0x2F8C5, 0x649D), (0x2F8C6, 0x2F8C6, 0x6477), (0x2F8C7, 0x2F8C7, 0x3A6C),
  (0x2F8C8, 0x2F8C8, 0x654F), (0x2F8C9, 0x2F8C9, 0x656C), (0x2F8CA, 0x2F8CA, 0x2300A),
  (0x2F8CB, 0x2F8CB, 0x65E3), (0x2F8CC, 0x2F8CC, 0x66F8), (0x2F8CD, 0x2F8CD, 0x6649),
  (0x2F8CE, 0x2F8CE, 0x3B19), (0x2F8CF, 0x2F8CF, 0x6691), (0x2F8D0, 0x2F8D0, 0x3B08),
  (0x2F8D1, 0x2F8D1, 0x3AE4), (0x2F8D2, 0x2F8D2, 0x5192), (0x2F8D3, 0x2F8D3, 0x5195),
  (0x2F8D4, 0x2F8D4, 0x6700), (0x2F8D5, 0x2F8D5, 0x669C), (0x2F8D6, 0x2F8D6, 0x80AD),
  (0x2F8D7, 0x2F8D7, 0x43D9), (0x2F8D8, 0x2F8D8, 0x6717), (0x2F8D9, 0x2F8D9, 0x671B),
  (0x2F8DA, 0x2F8DA, 0x6721), (0x2F8DB, 0x2F8DB, 0x675E), (0x2F8DC, 0x2F8DC, 0x6753),
  (0x2F8DD, 0x2F8DD, 0x233C3), (0x2F8DE, 0x2F8DE, 0x3B49), (0x2F8DF, 0x2F8DF, 0x67FA),
  (0x2F8E0, 0x2F8E0, 0x6785), (0x2F8E1, 0x2F8E1, 0x6852), (0x2F8E2, 0x2F8E2, 0x6885),
  (0x2F8E3, 0x2F8E3, 0x2346D), (0x2F8E4, 0x2F8E4, 0x688E), (0x2F8E5, 0x2F8E5, 0x681F),
  (0x2F8E6, 0x2F8E6, 0x6914), (0x2F8E7, 0x2F8E7, 0x3B9D), (0x2F8E8, 0x2F8E8, 0x6942),
  (0x2F8E9, 0x2F8E9, 0x69A3), (0x2F8EA, 0x2F8EA, 0x69EA), (0x2F8EB, 0x2F8EB, 0x6AA8),
  (0x2F8EC, 0x2F8EC, 0x236A3), (0x2F8ED, 0x2F8ED, 0x6ADB), (0x2F8EE, 0x2F8EE, 0x3C18),
  (0x2F8EF, 0x2F8EF, 0x6B21), (0x2F8F0, 0x2F8F0, 0x238A7), (0x2F8F1, 0x2F8F1, 0x6B54),
  (0x2F8F2, 0x2F8F2, 0x3C4E), (0x2F8F3, 0x2F8F3, 0x6B72), (0x2F8F4, 0x2F8F4, 0x6B9F),
  (0x2F8F5, 0x2F8F6, 0x6BBA), (0x2F8F7, 0x2F8F7, 0x23A8D), (0x2F8F8, 0x2F8F8, 0x21D0B),
  (0x2F8F9, 0x2F8F9, 0x23AFA), (0x2F8FA, 0x2F8FA, 0x6C4E), (0x2F8FB, 0x2F8FB, 0x23CBC),
  (0x2F8FC, 0x2F8FC, 0x6CBF), (0x2F8FD, 0x2F8FD, 0x6CCD), (0x2F8FE, 0x2F8FE, 0x6C67),
  (0x2F8FF, 0x2F8FF, 0x6D16), (0x2F900, 0x2F900, 0x6D3E), (0x2F901, 0x2F901, 0x6D77),
  (0x2F902, 0x2F902, 0x6D41), (0x2F903, 0x2F903, 0x6D69), (0x2F904, 0x2F904, 0x6D78),
  (0x2F905, 0x2F905, 0x6D85), (0x2F906, 0x2F906, 0x23D1E), (0x2F907, 0x2F907, 0x6D34),
  (0x2F908, 0x2F908, 0x6E2F), (0x2F909, 0x2F909, 0x6E6E), (0x2F90A, 0x2F90A, 0x3D33),
  (0x2F90B, 0x2F90B, 0x6ECB), (0x2F90C, 0x2F90C, 0x6EC7), (0x2F90D, 0x2F90D, 0x23ED1),
  (0x2F90E, 0x2F90E, 0x6DF9), (0x2F90F, 0x2F90F, 0x6F6E), (0x2F910, 0x2F910, 0x23F5E),
  (0x2F911, 0x2F911, 0x23F8E), (0x2F912, 0x2F912, 0x6FC6), (0x2F913, 0x2F913, 0x7039),
  (0x2F914, 0x2F914, 0x701E), (0x2F915, 0x2F915, 0x701B), (0x2F916, 0x2F916, 0x3D96),
  (0x2F917, 0x2F917, 0x704A), (0x2F918, 0x2F918, 0x707D), (0x2F919, 0x2F919, 0x7077),
  (0x2F91A, 0x2F91A, 0x70AD), (0x2F91B, 0x2F91B, 0x20525), (0x2F91C, 0x2F91C, 0x7145),
  (0x2F91D, 0x2F91D, 0x24263), (0x2F91E, 0x2F91E, 0x719C), (0x2F91F, 0x2F91F, 0x243AB),
  (0x2F920, 0x2F920, 0x7228), (0x2F921, 0x2F921, 0x7235), (0x2F922, 0x2F922, 0x7250),
  (0x2F923, 0x2F923, 0x24608), (0x2F924, 0x2F924, 0x7280), (0x2F925, 0x2F925, 0x7295),
  (0x2F926, 0x2F926, 0x24735), (0x2F927, 0x2F927, 0x24814), (0x2F928, 0x2F928, 0x737A),
  (0x2F929, 0x2F929, 0x738B), (0x2F92A, 0x2F92A, 0x3EAC), (0x2F92B, 0x2F92B, 0x73A5),
  (0x2F92C, 0x2F92C, 0x3EB8), (0x2F92D, 0x2F92D, 0x3EB8), (0x2F92E, 0x2F92E, 0x7447),
  (0x2F92F, 0x2F92F, 0x745C), (0x2F930, 0x2F930, 0x7471), (0x2F931, 0x2F931, 0x7485),
  (0x2F932, 0x2F932, 0x74CA), (0x2F933, 0x2F933, 0x3F1B), (0x2F934, 0x2F934, 0x7524),
  (0x2F935, 0x2F935, 0x24C36), (0x2F936, 0x2F936, 0x753E), (0x2F937, 0x2F937, 0x24C92),
  (0x2F938, 0x2F938, 0x7570), (0x2F939, 0x2F939, 0x2219F), (0x2F93A, 0x2F93A, 0x7610),
  (0x2F93B, 0x2F93B, 0x24FA1), (0x2F93C, 0x2F93C, 0x24FB8), (0x2F93D, 0x2F93D, 0x25044),
  (0x2F93E, 0x2F93E, 0x3FFC), (0x2F93F, 0x2F93F, 0x4008), (0x2F940, 0x2F940, 0x76F4),
  (0x2F941, 0x2F941, 0x250F3), (0x2F942, 0x2F942, 0x250F2), (0x2F943, 0x2F943, 0x25119),
  (0x2F944, 0x2F944, 0x25133), (0x2F945, 0x2F946, 0x771E), (0x2F947, 0x2F947, 0x771F),
  (0x2F948, 0x2F948, 0x774A), (0x2F949, 0x2F949, 0x4039), (0x2F94A, 0x2F94A, 0x778B),
  (0x2F94B, 0x2F94B, 0x4046), (0x2F94C, 0x2F94C, 0x4096), (0x2F94D, 0x2F94D, 0x2541D),
  (0x2F94E, 0x2F94E, 0x784E), (0x2F94F, 0x2F94F, 0x788C), (0x2F950, 0x2F950, 0x78CC),
  (0x2F951, 0x2F951, 0x40E3), (0x2F952, 0x2F952, 0x25626), (0x2F953, 0x2F953, 0x7956),
  (0x2F954, 0x2F954, 0x2569A), (0x2F955, 0x2F955, 0x256C5), (0x2F956, 0x2F956, 0x798F),
  (0x2F957, 0x2F957, 0x79EB), (0x2F958, 0x2F958, 0x412F), (0x2F959, 0x2F959, 0x7A40),
  (0x2F95A, 0x2F95A, 0x7A4A), (0x2F95B, 0x2F95B, 0x7A4F), (0x2F95C, 0x2F95C, 0x2597C),
  (0x2F95D, 0x2F95D, 0x25AA7), (0x2F95E, 0x2F95E, 0x25AA7), (0x2F95F, 0x2F95F, 0x7AEE),
  (0x2F960, 0x2F960, 0x4202), (0x2F961, 0x2F961, 0x25BAB), (0x2F962, 0x2F962, 0x7BC6),
  (0x2F963, 0x2F963, 0x7BC9), (0x2F964, 0x2F964, 0x4227), (0x2F965, 0x2F965, 0x25C80),
  (0x2F966, 0x2F966, 0x7CD2), (0x2F967, 0x2F967, 0x42A0), (0x2F968, 0x2F968, 0x7CE8),
  (0x2F969, 0x2F969, 0x7CE3), (0x2F96A, 0x2F96A, 0x7D00), (0x2F96B, 0x2F96B, 0x25F86),
  (0x2F96C, 0x2F96C, 0x7D63), (0x2F96D, 0x2F96D, 0x4301), (0x2F96E, 0x2F96E, 0x7DC7),
  (0x2F96F, 0x2F96F, 0x7E02), (0x2F970, 0x2F970, 0x7E45), (0x2F971, 0x2F971, 0x4334),
  (0x2F972, 0x2F972, 0x26228), (0x2F973, 0x2F973, 0x26247), (0x2F974, 0x2F974, 0x4359),
  (0x2F975, 0x2F975, 0x262D9), (0x2F976, 0x2F976, 0x7F7A), (0x2F977, 0x2F977, 0x2633E),
  (0x2F978, 0x2F978, 0x7F95), (0x2F979, 0x2F979, 0x7FFA), (0x2F97A, 0x2F97A, 0x8005),
  (0x2F97B, 0x2F97B, 0x264DA), (0x2F97C, 0x2F97C, 0x26523), (0x2F97D, 0x2F97D, 0x8060),
  (0x2F97E, 0x2F97E, 0x265A8), (0x2F97F, 0x2F97F, 0x8070), (0x2F980, 0x2F980, 0x2335F),
  (0x2F981, 0x2F981, 0x43D5), (0x2F982, 0x2F982, 0x80B2), (0x2F983, 0x2F983, 0x8103),
  (0x2F984, 0x2F984, 0x440B), (0x2F985, 0x2F985, 0x813E), (0x2F986, 0x2F986, 0x5AB5),
  (0x2F987, 0x2F987, 0x267A7), (0x2F988, 0x2F988, 0x267B5), (0x2F989, 0x2F989, 0x23393),
  (0x2F98A, 0x2F98A, 0x2339C), (0x2F98B, 0x2F98B, 0x8201), (0x2F98C, 0x2F98C, 0x8204),
  (0x2F98D, 0x2F98D, 0x8F9E), (0x2F98E, 0x2F98E, 0x446B), (0x2F98F, 0x2F98F, 0x8291),
  (0x2F990, 0x2F990, 0x828B), (0x2F991, 0x2F991, 0x829D), (0x2F992, 0x2F992, 0x52B3),
  (0x2F993, 0x2F993, 0x82B1), (0x2F994, 0x2F994, 0x82B3), (0x2F995, 0x2F995, 0x82BD),
  (0x2F996, 0x2F996, 0x82E6), (0x2F997, 0x2F997, 0x26B3C), (0x2F998, 0x2F998, 0x82E5),
  (0x2F999, 0x2F999, 0x831D), (0x2F99A, 0x2F99A, 0x8363), (0x2F99B, 0x2F99B, 0x83AD),
  (0x2F99C, 0x2F99C, 0x8323), (0x2F99D, 0x2F99D, 0x83BD), (0x2F99E, 0x2F99E, 0x83E7),
  (0x2F99F, 0x2F99F, 0x8457), (0x2F9A0, 0x2F9A0, 0x8353), (0x2F9A1, 0x2F9A1, 0x83CA),
  (0x2F9A2, 0x2F9A2, 0x83CC), (0x2F9A3, 0x2F9A3, 0x83DC), (0x2F9A4, 0x2F9A4, 0x26C36),
  (0x2F9A5, 0x2F9A5, 0x26D6B), (0x2F9A6, 0x2F9A6, 0x26CD5), (0x2F9A7, 0x2F9A7, 0x452B),
  (0x2F9A8, 0x2F9A8, 0x84F1), (0x2F9A9, 0x2F9A9, 0x84F3), (0x2F9AA, 0x2F9AA, 0x8516),
  (0x2F9AB, 0x2F9AB, 0x273CA), (0x2F9AC, 0x2F9AC, 0x8564), (0x2F9AD, 0x2F9AD, 0x26F2C),
  (0x2F9AE, 0x2F9AE, 0x455D), (0x2F9AF, 0x2F9AF, 0x4561), (0x2F9B0, 0x2F9B0, 0x26FB1),
  (0x2F9B1, 0x2F9B1, 0x270D2), (0x2F9B2, 0x2F9B2, 0x456B), (0x2F9B3, 0x2F9B3, 0x8650),
  (0x2F9B4, 0x2F9B4, 0x865C), (0x2F9B5, 0x2F9B5, 0x8667), (0x2F9B6, 0x2F9B6, 0x8669),
  (0x2F9B7, 0x2F9B7, 0x86A9), (0x2F9B8, 0x2F9B8, 0x8688), (0x2F9B9, 0x2F9B9, 0x870E),
  (0x2F9BA, 0x2F9BA, 0x86E2), (0x2F9BB, 0x2F9BB, 0x8779), (0x2F9BC, 0x2F9BC, 0x8728),
  (0x2F9BD, 0x2F9BD, 0x876B), (0x2F9BE, 0x2F9BE, 0x8786), (0x2F9BF, 0x2F9BF, 0x45D7),
  (0x2F9C0, 0x2F9C0, 0x87E1), (0x2F9C1, 0x2F9C1, 0x8801), (0x2F9C2, 0x2F9C2, 0x45F9),
  (0x2F9C3, 0x2F9C3, 0x8860), (0x2F9C4, 0x2F9C4, 0x8863), (0x2F9C5, 0x2F9C5, 0x27667),
  (0x2F9C6, 0x2F9C6, 0x88D7), (0x2F9C7, 0x2F9C7, 0x88DE), (0x2F9C8, 0x2F9C8, 0x4635),
  (0x2F9C9, 0x2F9C9, 0x88FA), (0x2F9CA, 0x2F9CA, 0x34BB), (0x2F9CB, 0x2F9CB, 0x278AE),
  (0x2F9CC, 0x2F9CC, 0x27966), (0x2F9CD, 0x2F9CD, 0x46BE), (0x2F9CE, 0x2F9CE, 0x46C7),
  (0x2F9CF, 0x2F9CF, 0x8AA0), (0x2F9D0, 0x2F9D0, 0x8AED), (0x2F9D1, 0x2F9D1, 0x8B8A),
  (0x2F9D2, 0x2F9D2, 0x8C55), (0x2F9D3, 0x2F9D3, 0x27CA8), (0x2F9D4, 0x2F9D4, 0x8CAB),
  (0x2F9D5, 0x2F9D5, 0x8CC1), (0x2F9D6, 0x2F9D6, 0x8D1B), (0x2F9D7, 0x2F9D7, 0x8D77),
  (0x2F9D8, 0x2F9D8, 0x27F2F), (0x2F9D9, 0x2F9D9, 0x20804), (0x2F9DA, 0x2F9DA, 0x8DCB),
  (0x2F9DB, 0x2F9DB, 0x8DBC), (0x2F9DC, 0x2F9DC, 0x8DF0), (0x2F9DD, 0x2F9DD, 0x208DE),
  (0x2F9DE, 0x2F9DE, 0x8ED4), (0x2F9DF, 0x2F9DF, 0x8F38), (0x2F9E0, 0x2F9E0, 0x285D2),
  (0x2F9E1, 0x2F9E1, 0x285ED), (0x2F9E2, 0x2F9E2, 0x9094), (0x2F9E3, 0x2F9E3, 0x90F1),
  (0x2F9E4, 0x2F9E4, 0x9111), (0x2F9E5, 0x2F9E5, 0x2872E), (0x2F9E6, 0x2F9E6, 0x911B),
  (0x2F9E7, 0x2F9E7, 0x9238), (0x2F9E8, 0x2F9E9, 0x92D7), (0x2F9EA, 0x2F9EA, 0x927C),
  (0x2F9EB, 0x2F9EB, 0x93F9), (0x2F9EC, 0x2F9EC, 0x9415), (0x2F9ED, 0x2F9ED, 0x28BFA),
  (0x2F9EE, 0x2F9EE, 0x958B), (0x2F9EF, 0x2F9EF, 0x4995), (0x2F9F0, 0x2F9F0, 0x95B7),
  (0x2F9F1, 0x2F9F1, 0x28D77), (0x2F9F2, 0x2F9F2, 0x49E6), (0x2F9F3, 0x2F9F3, 0x96C3),
  (0x2F9F4, 0x2F9F4, 0x5DB2), (0x2F9F5, 0x2F9F5, 0x9723), (0x2F9F6, 0x2F9F6, 0x29145),
  (0x2F9F7, 0x2F9F7, 0x2921A), (0x2F9F8, 0x2F9F8, 0x4A6E), (0x2F9F9, 0x2F9F9, 0x4A76),
  (0x2F9FA, 0x2F9FA, 0x97E0), (0x2F9FB, 0x2F9FB, 0x2940A), (0x2F9FC, 0x2F9FC, 0x4AB2),
  (0x2F9FD, 0x2F9FD, 0x29496), (0x2F9FE, 0x2F9FE, 0x980B), (0x2F9FF, 0x2F9FF, 0x980B),
  (0x2FA00, 0x2FA00, 0x9829), (0x2FA01, 0x2FA01, 0x295B6), (0x2FA02, 0x2FA02, 0x98E2),
  (0x2FA03, 0x2FA03, 0x4B33), (0x2FA04, 0x2FA04, 0x9929), (0x2FA05, 0x2FA05, 0x99A7),
  (0x2FA06, 0x2FA06, 0x99C2), (0x2FA07, 0x2FA07, 0x99FE), (0x2FA08, 0x2FA08, 0x4BCE),
  (0x2FA09, 0x2FA09, 0x29B30), (0x2FA0A, 0x2FA0A, 0x9B12), (0x2FA0B, 0x2FA0B, 0x9C40),
  (0x2FA0C, 0x2FA0C, 0x9CFD), (0x2FA0D, 0x2FA0D, 0x4CCE), (0x2FA0E, 0x2FA0E, 0x4CED),
  (0x2FA0F, 0x2FA0F, 0x9D67), (0x2FA10, 0x2FA10, 0x2A0CE), (0x2FA11, 0x2FA11, 0x4CF8),
  (0x2FA12, 0x2FA12, 0x2A105), (0x2FA13, 0x2FA13, 0x2A20E), (0x2FA14, 0x2FA14, 0x2A291),
  (0x2FA15, 0x2FA15, 0x9EBB), (0x2FA16, 0x2FA16, 0x4D56), (0x2FA17, 0x2FA17, 0x9EF9),
  (0x2FA18, 0x2FA18, 0x9EFE), (0x2FA19, 0x2FA19, 0x9F05), (0x2FA1A, 0x2FA1A, 0x9F0F),
  (0x2FA1B, 0x2FA1B, 0x9F16), (0x2FA1C, 0x2FA1C, 0x9F3B), (0x2FA1D, 0x2FA1D, 0x2A600)]

/-! ### Decompositions into several characters -/

/-- Characters with a longer decomposition: alphabets below U+2000. -/
def expansionsLatin : List (Nat × String) := [
  (0xA8, "\x20\u0308"), (0xAF, "\x20\u0304"), (0xB4, "\x20\u0301"), (0xB8, "\x20\u0327"),
  (0xBC, "1⁄4"), (0xBD, "1⁄2"), (0xBE, "3⁄4"), (0xC0, "A\u0300"), (0xC1, "A\u0301"),
  (0xC2, "A\u0302"), (0xC3, "A\u0303"), (0xC4, "A\u0308"), (0xC5, "A\u030a"), (0xC7, "C\u0327"),
  (0xC8, "E\u0300"), (0xC9, "E\u0301"), (0xCA, "E\u0302"), (0xCB, "E\u0308"), (0xCC, "I\u0300"),
  (0xCD, "I\u0301"), (0xCE, "I\u0302"), (0xCF, "I\u0308"), (0xD1, "N\u0303"), (0xD2, "O\u0300"),
  (0xD3, "O\u0301"), (0xD4, "O\u0302"), (0xD5, "O\u0303"), (0xD6, "O\u0308"), (0xD9, "U\u0300"),
  (0xDA, "U\u0301"), (0xDB, "U\u0302"), (0xDC, "U\u0308"), (0xDD, "Y\u0301"), (0xE0, "a\u0300"),
  (0xE1, "a\u0301"), (0xE2, "a\u0302"), (0xE3, "a\u0303"), (0xE4, "a\u0308"), (0xE5, "a\u030a"),
  (0xE7, "c\u0327"), (0xE8, "e\u0300"), (0xE9, "e\u0301"), (0xEA, "e\u0302"), (0xEB, "e\u0308"),
  (0xEC, "i\u0300"), (0xED, "i\u0301"), (0xEE, "i\u0302"), (0xEF, "i\u0308"), (0xF1, "n\u0303"),
  (0xF2, "o\u0300"), (0xF3, "o\u0301"), (0xF4, "o\u0302"), (0xF5, "o\u0303"), (0xF6, "o\u0308"),
  (0xF9, "u\u0300"), (0xFA, "u\u0301"), (0xFB, "u\u0302"), (0xFC, "u\u0308"), (0xFD, "y\u0301"),
  (0xFF, "y\u0308"), (0x100, "A\u0304"), (0x101, "a\u0304"), (0x102, "A\u0306"),
  (0x103, "a\u0306"), (0x104, "A\u0328"), (0x105, "a\u0328"), (0x106, "C\u0301"),
  (0x107, "c\u0301"), (0x108, "C\u0302"), (0x109, "c\u0302"), (0x10A, "C\u0307"),
  (0x10B, "c\u0307"), (0x10C, "C\u030c"), (0x10D, "c\u030c"), (0x10E, "D\u030c"),
  (0x10F, "d\u030c"), (0x112, "E\u0304"), (0x113, "e\u0304"), (0x114, "E\u0306"),
  (0x115, "e\u0306"), (0x116, "E\u0307"), (0x117, "e\u0307"), (0x118, "E\u0328"),
  (0x119, "e\u0328"), (0x11A, "E\u030c"), (0x11B, "e\u030c"), (0x11C, "G\u0302"),
  (0x11D, "g\u0302"), (0x11E, "G\u0306"), (0x11F, "g\u0306"), (0x120, "G\u0307"),
  (0x121, "g\u0307"), (0x122, "G\u0327"), (0x123, "g\u0327"), (0x124, "H\u0302"),
  (0x125, "h\u0302"), (0x128, "I\u0303"), (0x129, "i\u0303"), (0x12A, "I\u0304"),
  (0x12B, "i\u0304"), (0x12C, "I\u0306"), (0x12D, "i\u0306"), (0x12E, "I\u0328"),
  (0x12F, "i\u0328"), (0x130, "I\u0307"), (0x132, "IJ"), (0x133, "ij"), (0x134, "J\u0302"),
  (0x135, "j\u0302"), (0x136, "K\u0327"), (0x137, "k\u0327"), (0x139, "L\u0301"),
  (0x13A, "l\u0301"), (0x13B, "L\u0327"), (0x13C, "l\u0327"), (0x13D, "L\u030c"),
  (0x13E, "l\u030c"), (0x13F, "L\xb7"), (0x140, "l\xb7"), (0x143, "N\u0301"), (0x144, "n\u0301"),
  (0x145, "N\u0327"), (0x146, "n\u0327"), (0x147, "N\u030c"), (0x148, "n\u030c"), (0x149, "ʼn"),
  (0x14C, "O\u0304"), (0x14D, "o\u0304"), (0x14E, "O\u0306"), (0x14F, "o\u0306"),
  (0x150, "O\u030b"), (0x151, "o\u030b"), (0x154, "R\u0301"), (0x155, "r\u0301"),
  (0x156, "R\u0327"), (0x157, "r\u0327"), (0x158, "R\u030c"), (0x159, "r\u030c"),
  (0x15A, "S\u0301"), (0x15B, "s\u0301"), (0x15C, "S\u0302"), (0x15D, "s\u0302"),
  (0x15E, "S\u0327"), (0x15F, "s\u0327"), (0x160, "S\u030c"), (0x161, "s\u030c"),
  (0x162, "T\u0327"), (0x163, "t\u0327"), (0x164, "T\u030c"), (0x165, "t\u030c"),
  (0x168, "U\u0303"), (0x169, "u\u0303"), (0x16A, "U\u0304"), (0x16B, "u\u0304"),
  (0x16C, "U\u0306"), (0x16D, "u\u0306"), (0x16E, "U\u030a"), (0x16F, "u\u030a"),
  (0x170, "U\u030b"), (0x171, "u\u030b"), (0x172, "U\u0328"), (0x173, "u\u0328"),
  (0x174, "W\u0302"), (0x175, "w\u0302"), (0x176, "Y\u0302"), (0x177, "y\u0302"),
  (0x178, "Y\u0308"), (0x179, "Z\u0301"), (0x17A, "z\u0301"), (0x17B, "Z\u0307"),
  (0x17C, "z\u0307"), (0x17D, "Z\u030c"), (0x17E, "z\u030c"), (0x1A0, "O\u031b"),
  (0x1A1, "o\u031b"), (0x1AF, "U\u031b"), (0x1B0, "u\u031b"), (0x1C4, "DZ\u030c"),
  (0x1C5, "Dz\u030c"), (0x1C6, "dz\u030c"), (0x1C7, "LJ"), (0x1C8, "Lj"), (0x1C9, "lj"),
  (0x1CA, "NJ"), (0x1CB, "Nj"), (0x1CC, "nj"), (0x1CD, "A\u030c"), (0x1CE, "a\u030c"),
  (0x1CF, "I\u030c"), (0x1D0, "i\u030c"), (0x1D1, "O\u030c"), (0x1D2, "o\u030c"),
  (0x1D3, "U\u030c"), (0x1D4, "u\u030c"), (0x1D5, "U\u0308\u0304"), (0x1D6, "u\u0308\u0304"),
  (0x1D7, "U\u0308\u0301"), (0x1D8, "u\u0308\u0301"), (0x1D9, "U\u0308\u030c"),
  (0x1DA, "u\u0308\u030c"), (0x1DB, "U\u0308\u0300"), (0x1DC, "u\u0308\u0300"),
  (0x1DE, "A\u0308\u0304"), (0x1DF, "a\u0308\u0304"), (0x1E0, "A\u0307\u0304"),
  (0x1E1, "a\u0307\u0304"), (0x1E2, "\xc6\u0304"), (0x1E3, "\xe6\u0304"), (0x1E6, "G\u030c"),
  (0x1E7, "g\u030c"), (0x1E8, "K\u030c"), (0x1E9, "k\u030c"), (0x1EA, "O\u0328"),
  (0x1EB, "o\u0328"), (0x1EC, "O\u0328\u0304"), (0x1ED, "o\u0328\u0304"), (0x1EE, "Ʒ\u030c"),
  (0x1EF, "ʒ\u030c"), (0x1F0, "j\u030c"), (0x1F1, "DZ"), (0x1F2, "Dz"), (0x1F3, "dz"),
  (0x1F4, "G\u0301"), (0x1F5, "g\u0301"), (0x1F8, "N\u0300"), (0x1F9, "n\u0300"),
  (0x1FA, "A\u030a\u0301"), (0x1FB, "a\u030a\u0301"), (0x1FC, "\xc6\u0301"),
  (0x1FD, "\xe6\u0301"), (0x1FE, "\xd8\u0301"), (0x1FF, "\xf8\u0301"), (0x200, "A\u030f"),
  (0x201, "a\u030f"), (0x202, "A\u0311"), (0x203, "a\u0311"), (0x204, "E\u030f"),
  (0x205, "e\u030f"), (0x206, "E\u0311"), (0x207, "e\u0311"), (0x208, "I\u030f"),
  (0x209, "i\u030f"), (0x20A, "I\u0311"), (0x20B, "i\u0311"), (0x20C, "O\u030f"),
  (0x20D, "o\u030f"), (0x20E, "O\u0311"), (0x20F, "o\u0311"), (0x210, "R\u030f"),
  (0x211, "r\u030f"), (0x212, "R\u0311"), (0x213, "r\u0311"), (0x214, "U\u030f"),
  (0x215, "u\u030f"), (0x216, "U\u0311"), (0x217, "u\u0311"), (0x218, "S\u0326"),
  (0x219, "s\u0326"), (0x21A, "T\u0326"), (0x21B, "t\u0326"), (0x21E, "H\u030c"),
  (0x21F, "h\u030c"), (0x226, "A\u0307"), (0x227, "a\u0307"), (0x228, "E\u0327"),
  (0x229, "e\u0327"), (0x22A, "O\u0308\u0304"), (0x22B, "o\u0308\u0304"),
  (0x22C, "O\u0303\u0304"), (0x22D, "o\u0303\u0304"), (0x22E, "O\u0307"), (0x22F, "o\u0307"),
  (0x230, "O\u0307\u0304"), (0x231, "o\u0307\u0304"), (0x232, "Y\u0304"), (0x233, "y\u0304"),
  (0x2D8, "\x20\u0306"), (0x2D9, "\x20\u0307"), (0x2DA, "\x20\u030a"), (0x2DB, "\x20\u0328"),
  (0x2DC, "\x20\u0303"), (0x2DD, "\x20\u030b"), (0x344, "\u0308\u0301"), (0x37A, "\x20\u0345"),
  (0x384, "\x20\u0301"), (0x385, "\x20\u0308\u0301"), (0x386, "Α\u0301"), (0x388, "Ε\u0301"),
  (0x389, "Η\u0301"), (0x38A, "Ι\u0301"), (0x38C, "Ο\u0301"), (0x38E, "Υ\u0301"),
  (0x38F, "Ω\u0301"), (0x390, "ι\u0308\u0301"), (0x3AA, "Ι\u0308"), (0x3AB, "Υ\u0308"),
  (0x3AC, "α\u0301"), (0x3AD, "ε\u0301"), (0x3AE, "η\u0301"), (0x3AF, "ι\u0301"),
  (0x3B0, "υ\u0308\u0301"), (0x3CA, "ι\u0308"), (0x3CB, "υ\u0308"), (0x3CC, "ο\u0301"),
  (0x3CD, "υ\u0301"), (0x3CE, "ω\u0301"), (0x3D3, "Υ\u0301"), (0x3D4, "Υ\u0308"),
  (0x400, "Е\u0300"), (0x401, "Е\u0308"), (0x403, "Г\u0301"), (0x407, "І\u0308"),
  (0x40C, "К\u0301"), (0x40D, "И\u0300"), (0x40E, "У\u0306"), (0x419, "И\u0306"),
  (0x439, "и\u0306"), (0x450, "е\u0300"), (0x451, "е\u0308"), (0x453, "г\u0301"),
  (0x457, "і\u0308"), (0x45C, "к\u0301"), (0x45D, "и\u0300"), (0x45E, "у\u0306"),
  (0x476, "Ѵ\u030f"), (0x477, "ѵ\u030f"), (0x4C1, "Ж\u0306"), (0x4C2, "ж\u0306"),
  (0x4D0, "А\u0306"), (0x4D1, "а\u0306"), (0x4D2, "А\u0308"), (0x4D3, "а\u0308"),
  (0x4D6, "Е\u0306"), (0x4D7, "е\u0306"), (0x4DA, "Ә\u0308"), (0x4DB, "ә\u0308"),
  (0x4DC, "Ж\u0308"), (0x4DD, "ж\u0308"), (0x4DE, "З\u0308"), (0x4DF, "з\u0308"),
  (0x4E2, "И\u0304"), (0x4E3, "и\u0304"), (0x4E4, "И\u0308"), (0x4E5, "и\u0308"),
  (0x4E6, "О\u0308"), (0x4E7, "о\u0308"), (0x4EA, "Ө\u0308"), (0x4EB, "ө\u0308"),
  (0x4EC, "Э\u0308"), (0x4ED, "э\u0308"), (0x4EE, "У\u0304"), (0x4EF, "у\u0304"),
  (0x4F0, "У\u0308"), (0x4F1, "у\u0308"), (0x4F2, "У\u030b"), (0x4F3, "у\u030b"),
  (0x4F4, "Ч\u0308"), (0x4F5, "ч\u0308"), (0x4F8, "Ы\u0308"), (0x4F9, "ы\u0308"), (0x587, "եւ"),
  (0x622, "\u0627\u0653"), (0x623, "\u0627\u0654"), (0x624, "\u0648\u0654"),
  (0x625, "\u0627\u0655"), (0x626, "\u064a\u0654"), (0x675, "\u0627\u0674"),
  (0x676, "\u0648\u0674"), (0x677, "\u06c7\u0674"), (0x678, "\u064a\u0674"),
  (0x6C0, "\u06d5\u0654"), (0x6C2, "\u06c1\u0654"), (0x6D3, "\u06d2\u0654"), (0x929, "न\u093c"),
  (0x931, "र\u093c"), (0x934, "ळ\u093c"), (0x958, "क\u093c"), (0x959, "ख\u093c"),
  (0x95A, "ग\u093c"), (0x95B, "ज\u093c"), (0x95C, "ड\u093c"), (0x95D, "ढ\u093c"),
  (0x95E, "फ\u093c"), (0x95F, "य\u093c"), (0x9CB, "\u09c7\u09be"), (0x9CC, "\u09c7\u09d7"),
  (0x9DC, "ড\u09bc"), (0x9DD, "ঢ\u09bc"), (0x9DF, "য\u09bc"), (0xA33, "ਲ\u0a3c"),
  (0xA36, "ਸ\u0a3c"), (0xA59, "ਖ\u0a3c"), (0xA5A, "ਗ\u0a3c"), (0xA5B, "ਜ\u0a3c"),
  (0xA5E, "ਫ\u0a3c"), (0xB48, "\u0b47\u0b56"), (0xB4B, "\u0b47\u0b3e"), (0xB4C, "\u0b47\u0b57"),
  (0xB5C, "ଡ\u0b3c"), (0xB5D, "ଢ\u0b3c"), (0xB94, "ஒ\u0bd7"), (0xBCA, "\u0bc6\u0bbe"),
  (0xBCB, "\u0bc7\u0bbe"), (0xBCC, "\u0bc6\u0bd7"), (0xC48, "\u0c46\u0c56"),
  (0xCC0, "\u0cbf\u0cd5"), (0xCC7, "\u0cc6\u0cd5"), (0xCC8, "\u0cc6\u0cd6"),
  (0xCCA, "\u0cc6\u0cc2"), (0xCCB, "\u0cc6\u0cc2\u0cd5"), (0xD4A, "\u0d46\u0d3e"),
  (0xD4B, "\u0d47\u0d3e"), (0xD4C, "\u0d46\u0d57"), (0xDDA, "\u0dd9\u0dca"),
  (0xDDC, "\u0dd9\u0dcf"), (0xDDD, "\u0dd9\u0dcf\u0dca"), (0xDDE, "\u0dd9\u0ddf"),
  (0xE33, "\u0e4dา"), (0xEB3, "\u0ecdາ"), (0xEDC, "ຫນ"), (0xEDD, "ຫມ"), (0xF43, "ག\u0fb7"),
  (0xF4D, "ཌ\u0fb7"), (0xF52, "ད\u0fb7"), (0xF57, "བ\u0fb7"), (0xF5C, "ཛ\u0fb7"),
  (0xF69, "ཀ\u0fb5"), (0xF73, "\u0f71\u0f72"), (0xF75, "\u0f71\u0f74"), (0xF76, "\u0fb2\u0f80"),
  (0xF77, "\u0fb2\u0f71\u0f80"), (0xF78, "\u0fb3\u0f80"), (0xF79, "\u0fb3\u0f71\u0f80"),
  (0xF81, "\u0f71\u0f80"), (0xF93, "\u0f92\u0fb7"), (0xF9D, "\u0f9c\u0fb7"),
  (0xFA2, "\u0fa1\u0fb7"), (0xFA7, "\u0fa6\u0fb7"), (0xFAC, "\u0fab\u0fb7"),
  (0xFB9, "\u0f90\u0fb5"), (0x1026, "ဥ\u102e"), (0x1B06, "ᬅ\u1b35"), (0x1B08, "ᬇ\u1b35"),
  (0x1B0A, "ᬉ\u1b35"), (0x1B0C, "ᬋ\u1b35"), (0x1B0E, "ᬍ\u1b35"), (0x1B12, "ᬑ\u1b35"),
  (0x1B3B, "\u1b3a\u1b35"), (0x1B3D, "\u1b3c\u1b35"), (0x1B40, "\u1b3e\u1b35"),
  (0x1B41, "\u1b3f\u1b35"), (0x1B43, "\u1b42\u1b35"), (0x1E00, "A\u0325"), (0x1E01, "a\u0325"),
  (0x1E02, "B\u0307"), (0x1E03, "b\u0307"), (0x1E04, "B\u0323"), (0x1E05, "b\u0323"),
  (0x1E06, "B\u0331"), (0x1E07, "b\u0331"), (0x1E08, "C\u0327\u0301"), (0x1E09, "c\u0327\u0301"),
  (0x1E0A, "D\u0307"), (0x1E0B, "d\u0307"), (0x1E0C, "D\u0323"), (0x1E0D, "d\u0323"),
  (0x1E0E, "D\u0331"), (0x1E0F, "d\u0331"), (0x1E10, "D\u0327"), (0x1E11, "d\u0327"),
  (0x1E12, "D\u032d"), (0x1E13, "d\u032d"), (0x1E14, "E\u0304\u0300"), (0x1E15, "e\u0304\u0300"),
  (0x1E16, "E\u0304\u0301"), (0x1E17, "e\u0304\u0301"), (0x1E18, "E\u032d"), (0x1E19, "e\u032d"),
  (0x1E1A, "E\u0330"), (0x1E1B, "e\u0330"), (0x1E1C, "E\u0327\u0306"), (0x1E1D, "e\u0327\u0306"),
  (0x1E1E, "F\u0307"), (0x1E1F, "f\u0307"), (0x1E20, "G\u0304"), (0x1E21, "g\u0304"),
  (0x1E22, "H\u0307"), (0x1E23, "h\u0307"), (0x1E24, "H\u0323"), (0x1E25, "h\u0323"),
  (0x1E26, "H\u0308"), (0x1E27, "h\u0308"), (0x1E28, "H\u0327"), (0x1E29, "h\u0327"),
  (0x1E2A, "H\u032e"), (0x1E2B, "h\u032e"), (0x1E2C, "I\u0330"), (0x1E2D, "i\u0330"),
  (0x1E2E, "I\u0308\u0301"), (0x1E2F, "i\u0308\u0301"), (0x1E30, "K\u0301"), (0x1E31, "k\u0301"),
  (0x1E32, "K\u0323"), (0x1E33, "k\u0323"), (0x1E34, "K\u0331"), (0x1E35, "k\u0331"),
  (0x1E36, "L\u0323"), (0x1E37, "l\u0323"), (0x1E38, "L\u0323\u0304"), (0x1E39, "l\u0323\u0304"),
  (0x1E3A, "L\u0331"), (0x1E3B, "l\u0331"), (0x1E3C, "L\u032d"), (0x1E3D, "l\u032d"),
  (0x1E3E, "M\u0301"), (0x1E3F, "m\u0301"), (0x1E40, "M\u0307"), (0x1E41, "m\u0307"),
  (0x1E42, "M\u0323"), (0x1E43, "m\u0323"), (0x1E44, "N\u0307"), (0x1E45, "n\u0307"),
  (0x1E46, "N\u0323"), (0x1E47, "n\u0323"), (0x1E48, "N\u0331"), (0x1E49, "n\u0331"),
  (0x1E4A, "N\u032d"), (0x1E4B, "n\u032d"), (0x1E4C, "O\u0303\u0301"), (0x1E4D, "o\u0303\u0301"),
  (0x1E4E, "O\u0303\u0308"), (0x1E4F, "o\u0303\u0308"), (0x1E50, "O\u0304\u0300"),
  (0x1E51, "o\u0304\u0300"), (0x1E52, "O\u0304\u0301"), (0x1E53, "o\u0304\u0301"),
  (0x1E54, "P\u0301"), (0x1E55, "p\u0301"), (0x1E56, "P\u0307"), (0x1E57, "p\u0307"),
  (0x1E58, "R\u0307"), (0x1E59, "r\u0307"), (0x1E5A, "R\u0323"), (0x1E5B, "r\u0323"),
  (0x1E5C, "R\u0323\u0304"), (0x1E5D, "r\u0323\u0304"), (0x1E5E, "R\u0331"), (0x1E5F, "r\u0331"),
  (0x1E60, "S\u0307"), (0x1E61, "s\u0307"), (0x1E62, "S\u0323"), (0x1E63, "s\u0323"),
  (0x1E64, "S\u0301\u0307"), (0x1E65, "s\u0301\u0307"), (0x1E66, "S\u030c\u0307"),
  (0x1E67, "s\u030c\u0307"), (0x1E68, "S\u0323\u0307"), (0x1E69, "s\u0323\u0307"),
  (0x1E6A, "T\u0307"), (0x1E6B, "t\u0307"), (0x1E6C, "T\u0323"), (0x1E6D, "t\u0323"),
  (0x1E6E, "T\u0331"), (0x1E6F, "t\u0331"), (0x1E70, "T\u032d"), (0x1E71, "t\u032d"),
  (0x1E72, "U\u0324"), (0x1E73, "u\u0324"), (0x1E74, "U\u0330"), (0x1E75, "u\u0330"),
  (0x1E76, "U\u032d"), (0x1E77, "u\u032d"), (0x1E78, "U\u0303\u0301"), (0x1E79, "u\u0303\u0301"),
  (0x1E7A, "U\u0304\u0308"), (0x1E7B, "u\u0304\u0308"), (0x1E7C, "V\u0303"), (0x1E7D, "v\u0303"),
  (0x1E7E, "V\u0323"), (0x1E7F, "v\u0323"), (0x1E80, "W\u0300"), (0x1E81, "w\u0300"),
  (0x1E82, "W\u0301"), (0x1E83, "w\u0301"), (0x1E84, "W\u0308"), (0x1E85, "w\u0308"),
  (0x1E86, "W\u0307"), (0x1E87, "w\u0307"), (0x1E88, "W\u0323"), (0x1E89, "w\u0323"),
  (0x1E8A, "X\u0307"), (0x1E8B, "x\u0307"), (0x1E8C, "X\u0308"), (0x1E8D, "x\u0308"),
  (0x1E8E, "Y\u0307"), (0x1E8F, "y\u0307"), (0x1E90, "Z\u0302"), (0x1E91, "z\u0302"),
  (0x1E92, "Z\u0323"), (0x1E93, "z\u0323"), (0x1E94, "Z\u0331"), (0x1E95, "z\u0331"),
  (0x1E96, "h\u0331"), (0x1E97, "t\u0308"), (0x1E98, "w\u030a"), (0x1E99, "y\u030a"),
  (0x1E9A, "aʾ"), (0x1E9B, "s\u0307"), (0x1EA0, "A\u0323"), (0x1EA1, "a\u0323"),
  (0x1EA2, "A\u0309"), (0x1EA3, "a\u0309"), (0x1EA4, "A\u0302\u0301"), (0x1EA5, "a\u0302\u0301"),
  (0x1EA6, "A\u0302\u0300"), (0x1EA7, "a\u0302\u0300"), (0x1EA8, "A\u0302\u0309"),
  (0x1EA9, "a\u0302\u0309"), (0x1EAA, "A\u0302\u0303"), (0x1EAB, "a\u0302\u0303"),
  (0x1EAC, "A\u0323\u0302"), (0x1EAD, "a\u0323\u0302"), (0x1EAE, "A\u0306\u0301"),
  (0x1EAF, "a\u0306\u0301"), (0x1EB0, "A\u0306\u0300"), (0x1EB1, "a\u0306\u0300"),
  (0x1EB2, "A\u0306\u0309"), (0x1EB3, "a\u0306\u0309"), (0x1EB4, "A\u0306\u0303"),
  (0x1EB5, "a\u0306\u0303"), (0x1EB6, "A\u0323\u0306"), (0x1EB7, "a\u0323\u0306"),
  (0x1EB8, "E\u0323"), (0x1EB9, "e\u0323"), (0x1EBA, "E\u0309"), (0x1EBB, "e\u0309"),
  (0x1EBC, "E\u0303"), (0x1EBD, "e\u0303"), (0x1EBE, "E\u0302\u0301"), (0x1EBF, "e\u0302\u0301"),
  (0x1EC0, "E\u0302\u0300"), (0x1EC1, "e\u0302\u0300"), (0x1EC2, "E\u0302\u0309"),
  (0x1EC3, "e\u0302\u0309"), (0x1EC4, "E\u0302\u0303"), (0x1EC5, "e\u0302\u0303"),
  (0x1EC6, "E\u0323\u0302"), (0x1EC7, "e\u0323\u0302"), (0x1EC8, "I\u0309"), (0x1EC9, "i\u0309"),
  (0x1ECA, "I\u0323"), (0x1ECB, "i\u0323"), (0x1ECC, "O\u0323"), (0x1ECD, "o\u0323"),
  (0x1ECE, "O\u0309"), (0x1ECF, "o\u0309"), (0x1ED0, "O\u0302\u0301"), (0x1ED1, "o\u0302\u0301"),
  (0x1ED2, "O\u0302\u0300"), (0x1ED3, "o\u0302\u0300"), (0x1ED4, "O\u0302\u0309"),
  (0x1ED5, "o\u0302\u0309"), (0x1ED6, "O\u0302\u0303"), (0x1ED7, "o\u0302\u0303"),
  (0x1ED8, "O\u0323\u0302"), (0x1ED9, "o\u0323\u0302"), (0x1EDA, "O\u031b\u0301"),
  (0x1EDB, "o\u031b\u0301"), (0x1EDC, "O\u031b\u0300"), (0x1EDD, "o\u031b\u0300"),
  (0x1EDE, "O\u031b\u0309"), (0x1EDF, "o\u031b\u0309"), (0x1EE0, "O\u031b\u0303"),
  (0x1EE1, "o\u031b\u0303"), (0x1EE2, "O\u031b\u0323"), (0x1EE3, "o\u031b\u0323"),
  (0x1EE4, "U\u0323"), (0x1EE5, "u\u0323"), (0x1EE6, "U\u0309"), (0x1EE7, "u\u0309"),
  (0x1EE8, "U\u031b\u0301"), (0x1EE9, "u\u031b\u0301"), (0x1EEA, "U\u031b\u0300"),
  (0x1EEB, "u\u031b\u0300"), (0x1EEC, "U\u031b\u0309"), (0x1EED, "u\u031b\u0309"),
  (0x1EEE, "U\u031b\u0303"), (0x1EEF, "u\u031b\u0303"), (0x1EF0, "U\u031b\u0323"),
  (0x1EF1, "u\u031b\u0323"), (0x1EF2, "Y\u0300"), (0x1EF3, "y\u0300"), (0x1EF4, "Y\u0323"),
  (0x1EF5, "y\u0323"), (0x1EF6, "Y\u0309"), (0x1EF7, "y\u0309"), (0x1EF8, "Y\u0303"),
  (0x1EF9, "y\u0303"), (0x1F00, "α\u0313"), (0x1F01, "α\u0314"), (0x1F02, "α\u0313\u0300"),
  (0x1F03, "α\u0314\u0300"), (0x1F04, "α\u0313\u0301"), (0x1F05, "α\u0314\u0301"),
  (0x1F06, "α\u0313\u0342"), (0x1F07, "α\u0314\u0342"), (0x1F08, "Α\u0313"), (0x1F09, "Α\u0314"),
  (0x1F0A, "Α\u0313\u0300"), (0x1F0B, "Α\u0314\u0300"), (0x1F0C, "Α\u0313\u0301"),
  (0x1F0D, "Α\u0314\u0301"), (0x1F0E, "Α\u0313\u0342"), (0x1F0F, "Α\u0314\u0342"),
  (0x1F10, "ε\u0313"), (0x1F11, "ε\u0314"), (0x1F12, "ε\u0313\u0300"), (0x1F13, "ε\u0314\u0300"),
  (0x1F14, "ε\u0313\u0301"), (0x1F15, "ε\u0314\u0301"), (0x1F18, "Ε\u0313"), (0x1F19, "Ε\u0314"),
  (0x1F1A, "Ε\u0313\u0300"), (0x1F1B, "Ε\u0314\u0300"), (0x1F1C, "Ε\u0313\u0301"),
  (0x1F1D, "Ε\u0314\u0301"), (0x1F20, "η\u0313"), (0x1F21, "η\u0314"), (0x1F22, "η\u0313\u0300"),
  (0x1F23, "η\u0314\u0300"), (0x1F24, "η\u0313\u0301"), (0x1F25, "η\u0314\u0301"),
  (0x1F26, "η\u0313\u0342"), (0x1F27, "η\u0314\u0342"), (0x1F28, "Η\u0313"), (0x1F29, "Η\u0314"),
  (0x1F2A, "Η\u0313\u0300"), (0x1F2B, "Η\u0314\u0300"), (0x1F2C, "Η\u0313\u0301"),
  (0x1F2D, "Η\u0314\u0301"), (0x1F2E, "Η\u0313\u0342"), (0x1F2F, "Η\u0314\u0342"),
  (0x1F30, "ι\u0313"), (0x1F31, "ι\u0314"), (0x1F32, "ι\u0313\u0300"), (0x1F33, "ι\u0314\u0300"),
  (0x1F34, "ι\u0313\u0301"), (0x1F35, "ι\u0314\u0301"), (0x1F36, "ι\u0313\u0342"),
  (0x1F37, "ι\u0314\u0342"), (0x1F38, "Ι\u0313"), (0x1F39, "Ι\u0314"), (0x1F3A, "Ι\u0313\u0300"),
  (0x1F3B, "Ι\u0314\u0300"), (0x1F3C, "Ι\u0313\u0301"), (0x1F3D, "Ι\u0314\u0301"),
  (0x1F3E, "Ι\u0313\u0342"), (0x1F3F, "Ι\u0314\u0342"), (0x1F40, "ο\u0313"), (0x1F41, "ο\u0314"),
  (0x1F42, "ο\u0313\u0300"), (0x1F43, "ο\u0314\u0300"), (0x1F44, "ο\u0313\u0301"),
  (0x1F45, "ο\u0314\u0301"), (0x1F48, "Ο\u0313"), (0x1F49, "Ο\u0314"), (0x1F4A, "Ο\u0313\u0300"),
  (0x1F4B, "Ο\u0314\u0300"), (0x1F4C, "Ο\u0313\u0301"), (0x1F4D, "Ο\u0314\u0301"),
  (0x1F50, "υ\u0313"), (0x1F51, "υ\u0314"), (0x1F52, "υ\u0313\u0300"), (0x1F53, "υ\u0314\u0300"),
  (0x1F54, "υ\u0313\u0301"), (0x1F55, "υ\u0314\u0301"), (0x1F56, "υ\u0313\u0342"),
  (0x1F57, "υ\u0314\u0342"), (0x1F59, "Υ\u0314"), (0x1F5B, "Υ\u0314\u0300"),
  (0x1F5D, "Υ\u0314\u0301"), (0x1F5F, "Υ\u0314\u0342"), (0x1F60, "ω\u0313"), (0x1F61, "ω\u0314"),
  (0x1F62, "ω\u0313\u0300"), (0x1F63, "ω\u0314\u0300"), (0x1F64, "ω\u0313\u0301"),
  (0x1F65, "ω\u0314\u0301"), (0x1F66, "ω\u0313\u0342"), (0x1F67, "ω\u0314\u0342"),
  (0x1F68, "Ω\u0313"), (0x1F69, "Ω\u0314"), (0x1F6A, "Ω\u0313\u0300"), (0x1F6B, "Ω\u0314\u0300"),
  (0x1F6C, "Ω\u0313\u0301"), (0x1F6D, "Ω\u0314\u0301"), (0x1F6E, "Ω\u0313\u0342"),
  (0x1F6F, "Ω\u0314\u0342"), (0x1F70, "α\u0300"), (0x1F71, "α\u0301"), (0x1F72, "ε\u0300"),
  (0x1F73, "ε\u0301"), (0x1F74, "η\u0300"), (0x1F75, "η\u0301"), (0x1F76, "ι\u0300"),
  (0x1F77, "ι\u0301"), (0x1F78, "ο\u0300"), (0x1F79, "ο\u0301"), (0x1F7A, "υ\u0300"),
  (0x1F7B, "υ\u0301"), (0x1F7C, "ω\u0300"), (0x1F7D, "ω\u0301"), (0x1F80, "α\u0313\u0345"),
  (0x1F81, "α\u0314\u0345"), (0x1F82, "α\u0313\u0300\u0345"), (0x1F83, "α\u0314\u0300\u0345"),
  (0x1F84, "α\u0313\u0301\u0345"), (0x1F85, "α\u0314\u0301\u0345"),
  (0x1F86, "α\u0313\u0342\u0345"), (0x1F87, "α\u0314\u0342\u0345"), (0x1F88, "Α\u0313\u0345"),
  (0x1F89, "Α\u0314\u0345"), (0x1F8A, "Α\u0313\u0300\u0345"), (0x1F8B, "Α\u0314\u0300\u0345"),
  (0x1F8C, "Α\u0313\u0301\u0345"), (0x1F8D, "Α\u0314\u0301\u0345"),
  (0x1F8E, "Α\u0313\u0342\u0345"), (0x1F8F, "Α\u0314\u0342\u0345"), (0x1F90, "η\u0313\u0345"),
  (0x1F91, "η\u0314\u0345"), (0x1F92, "η\u0313\u0300\u0345"), (0x1F93, "η\u0314\u0300\u0345"),
  (0x1F94, "η\u0313\u0301\u0345"), (0x1F95, "η\u0314\u0301\u0345"),
  (0x1F96, "η\u0313\u0342\u0345"), (0x1F97, "η\u0314\u0342\u0345"), (0x1F98, "Η\u0313\u0345"),
  (0x1F99, "Η\u0314\u0345"), (0x1F9A, "Η\u0313\u0300\u0345"), (0x1F9B, "Η\u0314\u0300\u0345"),
  (0x1F9C, "Η\u0313\u0301\u0345"), (0x1F9D, "Η\u0314\u0301\u0345"),
  (0x1F9E, "Η\u0313\u0342\u0345"), (0x1F9F, "Η\u0314\u0342\u0345"), (0x1FA0, "ω\u0313\u0345"),
  (0x1FA1, "ω\u0314\u0345"), (0x1FA2, "ω\u0313\u0300\u0345"), (0x1FA3, "ω\u0314\u0300\u0345"),
  (0x1FA4, "ω\u0313\u0301\u0345"), (0x1FA5, "ω\u0314\u0301\u0345"),
  (0x1FA6, "ω\u0313\u0342\u0345"), (0x1FA7, "ω\u0314\u0342\u0345"), (0x1FA8, "Ω\u0313\u0345"),
  (0x1FA9, "Ω\u0314\u0345"), (0x1FAA, "Ω\u0313\u0300\u0345"), (0x1FAB, "Ω\u0314\u0300\u0345"),
  (0x1FAC, "Ω\u0313\u0301\u0345"), (0x1FAD, "Ω\u0314\u0301\u0345"),
  (0x1FAE, "Ω\u0313\u0342\u0345"), (0x1FAF, "Ω\u0314\u0342\u0345"), (0x1FB0, "α\u0306"),
  (0x1FB1, "α\u0304"), (0x1FB2, "α\u0300\u0345"), (0x1FB3, "α\u0345"), (0x1FB4, "α\u0301\u0345"),
  (0x1FB6, "α\u0342"), (0x1FB7, "α\u0342\u0345"), (0x1FB8, "Α\u0306"), (0x1FB9, "Α\u0304"),
  (0x1FBA, "Α\u0300"), (0x1FBB, "Α\u0301"), (0x1FBC, "Α\u0345"), (0x1FBD, "\x20\u0313"),
  (0x1FBF, "\x20\u0313"), (0x1FC0, "\x20\u0342"), (0x1FC1, "\x20\u0308\u0342"),
  (0x1FC2, "η\u0300\u0345"), (0x1FC3, "η\u0345"), (0x1FC4, "η\u0301\u0345"), (0x1FC6, "η\u0342"),
  (0x1FC7, "η\u0342\u0345"), (0x1FC8, "Ε\u0300"), (0x1FC9, "Ε\u0301"), (0x1FCA, "Η\u0300"),
  (0x1FCB, "Η\u0301"), (0x1FCC, "Η\u0345"), (0x1FCD, "\x20\u0313\u0300"),
  (0x1FCE, "\x20\u0313\u0301"), (0x1FCF, "\x20\u0313\u0342"), (0x1FD0, "ι\u0306"),
  (0x1FD1, "ι\u0304"), (0x1FD2, "ι\u0308\u0300"), (0x1FD3, "ι\u0308\u0301"), (0x1FD6, "ι\u0342"),
  (0x1FD7, "ι\u0308\u0342"), (0x1FD8, "Ι\u0306"), (0x1FD9, "Ι\u0304"), (0x1FDA, "Ι\u0300"),
  (0x1FDB, "Ι\u0301"), (0x1FDD, "\x20\u0314\u0300"), (0x1FDE, "\x20\u0314\u0301"),
  (0x1FDF, "\x20\u0314\u0342"), (0x1FE0, "υ\u0306"), (0x1FE1, "υ\u0304"),
  (0x1FE2, "υ\u0308\u0300"), (0x1FE3, "υ\u0308\u0301"), (0x1FE4, "ρ\u0313"), (0x1FE5, "ρ\u0314"),
  (0x1FE6, "υ\u0342"), (0x1FE7, "υ\u0308\u0342"), (0x1FE8, "Υ\u0306"), (0x1FE9, "Υ\u0304"),
  (0x1FEA, "Υ\u0300"), (0x1FEB, "Υ\u0301"), (0x1FEC, "Ρ\u0314"), (0x1FED, "\x20\u0308\u0300"),
  (0x1FEE, "\x20\u0308\u0301"), (0x1FF2, "ω\u0300\u0345"), (0x1FF3, "ω\u0345"),
  (0x1FF4, "ω\u0301\u0345"), (0x1FF6, "ω\u0342"), (0x1FF7, "ω\u0342\u0345"), (0x1FF8, "Ο\u0300"),
  (0x1FF9, "Ο\u0301"), (0x1FFA, "Ω\u0300"), (0x1FFB, "Ω\u0301"), (0x1FFC, "Ω\u0345"),
  (0x1FFD, "\x20\u0301"), (0x1FFE, "\x20\u0314")]

/-- Characters with a longer decomposition: punctuation, numbers and technical signs. -/
def expansionsSymbols : List (Nat × String) := [
  (0x2017, "\x20\u0333"), (0x2025, ".."), (0x2026, "..."), (0x2033, "′′"), (0x2034, "′′′"),
  (0x2036, "‵‵"), (0x2037, "‵‵‵"), (0x203C, "!!"), (0x203E, "\x20\u0305"), (0x2047, "??"),
  (0x2048, "?!"), (0x2049, "!?"), (0x2057, "′′′′"), (0x20A8, "Rs"), (0x2100, "a/c"),
  (0x2101, "a/s"), (0x2103, "\xb0C"), (0x2105, "c/o"), (0x2106, "c/u"), (0x2109, "\xb0F"),
  (0x2116, "No"), (0x2120, "SM"), (0x2121, "TEL"), (0x2122, "TM"), (0x212B, "A\u030a"),
  (0x213B, "FAX"), (0x2150, "1⁄7"), (0x2151, "1⁄9"), (0x2152, "1⁄10"), (0x2153, "1⁄3"),
  (0x2154, "2⁄3"), (0x2155, "1⁄5"), (0x2156, "2⁄5"), (0x2157, "3⁄5"), (0x2158, "4⁄5"),
  (0x2159, "1⁄6"), (0x215A, "5⁄6"), (0x215B, "1⁄8"), (0x215C, "3⁄8"), (0x215D, "5⁄8"),
  (0x215E, "7⁄8"), (0x215F, "1⁄"), (0x2161, "II"), (0x2162, "III"), (0x2163, "IV"),
  (0x2165, "VI"), (0x2166, "VII"), (0x2167, "VIII"), (0x2168, "IX"), (0x216A, "XI"),
  (0x216B, "XII"), (0x2171, "ii"), (0x2172, "iii"), (0x2173, "iv"), (0x2175, "vi"),
  (0x2176, "vii"), (0x2177, "viii"), (0x2178, "ix"), (0x217A, "xi"), (0x217B, "xii"),
  (0x2189, "0⁄3"), (0x219A, "←\u0338"), (0x219B, "→\u0338"), (0x21AE, "↔\u0338"),
  (0x21CD, "⇐\u0338"), (0x21CE, "⇔\u0338"), (0x21CF, "⇒\u0338"), (0x2204, "∃\u0338"),
  (0x2209, "∈\u0338"), (0x220C, "∋\u0338"), (0x2224, "∣\u0338"), (0x2226, "∥\u0338"),
  (0x222C, "∫∫"), (0x222D, "∫∫∫"), (0x222F, "∮∮"), (0x2230, "∮∮∮"), (0x2241, "∼\u0338"),
  (0x2244, "≃\u0338"), (0x2247, "≅\u0338"), (0x2249, "≈\u0338"), (0x2260, "=\u0338"),
  (0x2262, "≡\u0338"), (0x226D, "≍\u0338"), (0x226E, "<\u0338"), (0x226F, ">\u0338"),
  (0x2270, "≤\u0338"), (0x2271, "≥\u0338"), (0x2274, "≲\u0338"), (0x2275, "≳\u0338"),
  (0x2278, "≶\u0338"), (0x2279, "≷\u0338"), (0x2280, "≺\u0338"), (0x2281, "≻\u0338"),
  (0x2284, "⊂\u0338"), (0x2285, "⊃\u0338"), (0x2288, "⊆\u0338"), (0x2289, "⊇\u0338"),
  (0x22AC, "⊢\u0338"), (0x22AD, "⊨\u0338"), (0x22AE, "⊩\u0338"), (0x22AF, "⊫\u0338"),
  (0x22E0, "≼\u0338"), (0x22E1, "≽\u0338"), (0x22E2, "⊑\u0338"), (0x22E3, "⊒\u0338"),
  (0x22EA, "⊲\u0338"), (0x22EB, "⊳\u0338"), (0x22EC, "⊴\u0338"), (0x22ED, "⊵\u0338"),
  (0x2469, "10"), (0x246A, "11"), (0x246B, "12"), (0x246C, "13"), (0x246D, "14"), (0x246E, "15"),
  (0x246F, "16"), (0x2470, "17"), (0x2471, "18"), (0x2472, "19"), (0x2473, "20"),
  (0x2474, "(1)"), (0x2475, "(2)"), (0x2476, "(3)"), (0x2477, "(4)"), (0x2478, "(5)"),
  (0x2479, "(6)"), (0x247A, "(7)"), (0x247B, "(8)"), (0x247C, "(9)"), (0x247D, "(10)"),
  (0x247E, "(11)"), (0x247F, "(12)"), (0x2480, "(13)"), (0x2481, "(14)"), (0x2482, "(15)"),
  (0x2483, "(16)"), (0x2484, "(17)"), (0x2485, "(18)"), (0x2486, "(19)"), (0x2487, "(20)"),
  (0x2488, "1."), (0x2489, "2."), (0x248A, "3."), (0x248B, "4."), (0x248C, "5."), (0x248D, "6."),
  (0x248E, "7."), (0x248F, "8."), (0x2490, "9."), (0x2491, "10."), (0x2492, "11."),
  (0x2493, "12."), (0x2494, "13."), (0x2495, "14."), (0x2496, "15."), (0x2497, "16."),
  (0x2498, "17."), (0x2499, "18."), (0x249A, "19."), (0x249B, "20."), (0x249C, "(a)"),
  (0x249D, "(b)"), (0x249E, "(c)"), (0x249F, "(d)"), (0x24A0, "(e)"), (0x24A1, "(f)"),
  (0x24A2, "(g)"), (0x24A3, "(h)"), (0x24A4, "(i)"), (0x24A5, "(j)"), (0x24A6, "(k)"),
  (0x24A7, "(l)"), (0x24A8, "(m)"), (0x24A9, "(n)"), (0x24AA, "(o)"), (0x24AB, "(p)"),
  (0x24AC, "(q)"), (0x24AD, "(r)"), (0x24AE, "(s)"), (0x24AF, "(t)"), (0x24B0, "(u)"),
  (0x24B1, "(v)"), (0x24B2, "(w)"), (0x24B3, "(x)"), (0x24B4, "(y)"), (0x24B5, "(z)"),
  (0x2A0C, "∫∫∫∫"), (0x2A74, "::="), (0x2A75, "=="), (0x2A76, "==="), (0x2ADC, "⫝\u0338")]

/-- Characters with a longer decomposition: kana, radicals, enclosed and squared signs. -/
def expansionsKana : List (Nat × String) := [
  (0x304C, "か\u3099"), (0x304E, "き\u3099"), (0x3050, "く\u3099"), (0x3052, "け\u3099"),
  (0x3054, "こ\u3099"), (0x3056, "さ\u3099"), (0x3058, "し\u3099"), (0x305A, "す\u3099"),
  (0x305C, "せ\u3099"), (0x305E, "そ\u3099"), (0x3060, "た\u3099"), (0x3062, "ち\u3099"),
  (0x3065, "つ\u3099"), (0x3067, "て\u3099"), (0x3069, "と\u3099"), (0x3070, "は\u3099"),
  (0x3071, "は\u309a"), (0x3073, "ひ\u3099"), (0x3074, "ひ\u309a"), (0x3076, "ふ\u3099"),
  (0x3077, "ふ\u309a"), (0x3079, "へ\u3099"), (0x307A, "へ\u309a"), (0x307C, "ほ\u3099"),
  (0x307D, "ほ\u309a"), (0x3094, "う\u3099"), (0x309B, "\x20\u3099"), (0x309C, "\x20\u309a"),
  (0x309E, "ゝ\u3099"), (0x309F, "より"), (0x30AC, "カ\u3099"), (0x30AE, "キ\u3099"),
  (0x30B0, "ク\u3099"), (0x30B2, "ケ\u3099"), (0x30B4, "コ\u3099"), (0x30B6, "サ\u3099"),
  (0x30B8, "シ\u3099"), (0x30BA, "ス\u3099"), (0x30BC, "セ\u3099"), (0x30BE, "ソ\u3099"),
  (0x30C0, "タ\u3099"), (0x30C2, "チ\u3099"), (0x30C5, "ツ\u3099"), (0x30C7, "テ\u3099"),
  (0x30C9, "ト\u3099"), (0x30D0, "ハ\u3099"), (0x30D1, "ハ\u309a"), (0x30D3, "ヒ\u3099"),
  (0x30D4, "ヒ\u309a"), (0x30D6, "フ\u3099"), (0x30D7, "フ\u309a"), (0x30D9, "ヘ\u3099"),
  (0x30DA, "ヘ\u309a"), (0x30DC, "ホ\u3099"), (0x30DD, "ホ\u309a"), (0x30F4, "ウ\u3099"),
  (0x30F7, "ワ\u3099"), (0x30F8, "ヰ\u3099"), (0x30F9, "ヱ\u3099"), (0x30FA, "ヲ\u3099"),
  (0x30FE, "ヽ\u3099"), (0x30FF, "コト"), (0x3200, "(ᄀ)"), (0x3201, "(ᄂ)"), (0x3202, "(ᄃ)"),
  (0x3203, "(ᄅ)"), (0x3204, "(ᄆ)"), (0x3205, "(ᄇ)"), (0x3206, "(ᄉ)"), (0x3207, "(ᄋ)"),
  (0x3208, "(ᄌ)"), (0x3209, "(ᄎ)"), (0x320A, "(ᄏ)"), (0x320B, "(ᄐ)"), (0x320C, "(ᄑ)"),
  (0x320D, "(ᄒ)"), (0x320E, "(ᄀ\u1161)"), (0x320F, "(ᄂ\u1161)"), (0x3210, "(ᄃ\u1161)"),
  (0x3211, "(ᄅ\u1161)"), (0x3212, "(ᄆ\u1161)"), (0x3213, "(ᄇ\u1161)"), (0x3214, "(ᄉ\u1161)"),
  (0x3215, "(ᄋ\u1161)"), (0x3216, "(ᄌ\u1161)"), (0x3217, "(ᄎ\u1161)"), (0x3218, "(ᄏ\u1161)"),
  (0x3219, "(ᄐ\u1161)"), (0x321A, "(ᄑ\u1161)"), (0x321B, "(ᄒ\u1161)"), (0x321C, "(ᄌ\u116e)"),
  (0x321D, "(ᄋ\u1169ᄌ\u1165\u11ab)"), (0x321E, "(ᄋ\u1169ᄒ\u116e)"), (0x3220, "(一)"),
  (0x3221, "(二)"), (0x3222, "(三)"), (0x3223, "(四)"), (0x3224, "(五)"), (0x3225, "(六)"),
  (0x3226, "(七)"), (0x3227, "(八)"), (0x3228, "(九)"), (0x3229, "(十)"), (0x322A, "(月)"),
  (0x322B, "(火)"), (0x322C, "(水)"), (0x322D, "(木)"), (0x322E, "(金)"), (0x322F, "(土)"),
  (0x3230, "(日)"), (0x3231, "(株)"), (0x3232, "(有)"), (0x3233, "(社)"), (0x3234, "(名)"),
  (0x3235, "(特)"), (0x3236, "(財)"), (0x3237, "(祝)"), (0x3238, "(労)"), (0x3239, "(代)"),
  (0x323A, "(呼)"), (0x323B, "(学)"), (0x323C, "(監)"), (0x323D, "(企)"), (0x323E, "(資)"),
  (0x323F, "(協)"), (0x3240, "(祭)"), (0x3241, "(休)"), (0x3242, "(自)"), (0x3243, "(至)"),
  (0x3250, "PTE"), (0x3251, "21"), (0x3252, "22"), (0x3253, "23"), (0x3254, "24"),
  (0x3255, "25"), (0x3256, "26"), (0x3257, "27"), (0x3258, "28"), (0x3259, "29"), (0x325A, "30"),
  (0x325B, "31"), (0x325C, "32"), (0x325D, "33"), (0x325E, "34"), (0x325F, "35"),
  (0x326E, "ᄀ\u1161"), (0x326F, "ᄂ\u1161"), (0x3270, "ᄃ\u1161"), (0x3271, "ᄅ\u1161"),
  (0x3272, "ᄆ\u1161"), (0x3273, "ᄇ\u1161"), (0x3274, "ᄉ\u1161"), (0x3275, "ᄋ\u1161"),
  (0x3276, "ᄌ\u1161"), (0x3277, "ᄎ\u1161"), (0x3278, "ᄏ\u1161"), (0x3279, "ᄐ\u1161"),
  (0x327A, "ᄑ\u1161"), (0x327B, "ᄒ\u1161"), (0x327C, "ᄎ\u1161\u11b7ᄀ\u1169"),
  (0x327D, "ᄌ\u116eᄋ\u1174"), (0x327E, "ᄋ\u116e"), (0x32B1, "36"), (0x32B2, "37"),
  (0x32B3, "38"), (0x32B4, "39"), (0x32B5, "40"), (0x32B6, "41"), (0x32B7, "42"), (0x32B8, "43"),
  (0x32B9, "44"), (0x32BA, "45"), (0x32BB, "46"), (0x32BC, "47"), (0x32BD, "48"), (0x32BE, "49"),
  (0x32BF, "50"), (0x32C0, "1月"), (0x32C1, "2月"), (0x32C2, "3月"), (0x32C3, "4月"), (0x32C4, "5月"),
  (0x32C5, "6月"), (0x32C6, "7月"), (0x32C7, "8月"), (0x32C8, "9月"), (0x32C9, "10月"),
  (0x32CA, "11月"), (0x32CB, "12月"), (0x32CC, "Hg"), (0x32CD, "erg"), (0x32CE, "eV"),
  (0x32CF, "LTD"), (0x32FF, "令和"), (0x3300, "アハ\u309aート"), (0x3301, "アルファ"),
  (0x3302, "アンヘ\u309aア"), (0x3303, "アール"), (0x3304, "イニンク\u3099"), (0x3305, "インチ"),
  (0x3306, "ウォン"), (0x3307, "エスクート\u3099"), (0x3308, "エーカー"), (0x3309, "オンス"), (0x330A, "オーム"),
  (0x330B, "カイリ"), (0x330C, "カラット"), (0x330D, "カロリー"), (0x330E, "カ\u3099ロン"),
  (0x330F, "カ\u3099ンマ"), (0x3310, "キ\u3099カ\u3099"), (0x3311, "キ\u3099ニー"), (0x3312, "キュリー"),
  (0x3313, "キ\u3099ルタ\u3099ー"), (0x3314, "キロ"), (0x3315, "キロク\u3099ラム"), (0x3316, "キロメートル"),
  (0x3317, "キロワット"), (0x3318, "ク\u3099ラム"), (0x3319, "ク\u3099ラムトン"), (0x331A, "クルセ\u3099イロ"),
  (0x331B, "クローネ"), (0x331C, "ケース"), (0x331D, "コルナ"), (0x331E, "コーホ\u309a"), (0x331F, "サイクル"),
  (0x3320, "サンチーム"), (0x3321, "シリンク\u3099"), (0x3322, "センチ"), (0x3323, "セント"),
  (0x3324, "タ\u3099ース"), (0x3325, "テ\u3099シ"), (0x3326, "ト\u3099ル"), (0x3327, "トン"),
  (0x3328, "ナノ"), (0x3329, "ノット"), (0x332A, "ハイツ"), (0x332B, "ハ\u309aーセント"),
  (0x332C, "ハ\u309aーツ"), (0x332D, "ハ\u3099ーレル"), (0x332E, "ヒ\u309aアストル"), (0x332F, "ヒ\u309aクル"),
  (0x3330, "ヒ\u309aコ"), (0x3331, "ヒ\u3099ル"), (0x3332, "ファラット\u3099"), (0x3333, "フィート"),
  (0x3334, "フ\u3099ッシェル"), (0x3335, "フラン"), (0x3336, "ヘクタール"), (0x3337, "ヘ\u309aソ"),
  (0x3338, "ヘ\u309aニヒ"), (0x3339, "ヘルツ"), (0x333A, "ヘ\u309aンス"), (0x333B, "ヘ\u309aーシ\u3099"),
  (0x333C, "ヘ\u3099ータ"), (0x333D, "ホ\u309aイント"), (0x333E, "ホ\u3099ルト"), (0x333F, "ホン"),
  (0x3340, "ホ\u309aント\u3099"), (0x3341, "ホール"), (0x3342, "ホーン"), (0x3343, "マイクロ"),
  (0x3344, "マイル"), (0x3345, "マッハ"), (0x3346, "マルク"), (0x3347, "マンション"), (0x3348, "ミクロン"),
  (0x3349, "ミリ"), (0x334A, "ミリハ\u3099ール"), (0x334B, "メカ\u3099"), (0x334C, "メカ\u3099トン"),
  (0x334D, "メートル"), (0x334E, "ヤート\u3099"), (0x334F, "ヤール"), (0x3350, "ユアン"), (0x3351, "リットル"),
  (0x3352, "リラ"), (0x3353, "ルヒ\u309aー"), (0x3354, "ルーフ\u3099ル"), (0x3355, "レム"),
  (0x3356, "レントケ\u3099ン"), (0x3357, "ワット"), (0x3358, "0点"), (0x3359, "1点"), (0x335A, "2点"),
  (0x335B, "3点"), (0x335C, "4点"), (0x335D, "5点"), (0x335E, "6点"), (0x335F, "7点"), (0x3360, "8点"),
  (0x3361, "9点"), (0x3362, "10点"), (0x3363, "11点"), (0x3364, "12点"), (0x3365, "13点"),
  (0x3366, "14点"), (0x3367, "15点"), (0x3368, "16点"), (0x3369, "17点"), (0x336A, "18点"),
  (0x336B, "19点"), (0x336C, "20点"), (0x336D, "21点"), (0x336E, "22点"), (0x336F, "23点"),
  (0x3370, "24点"), (0x3371, "hPa"), (0x3372, "da"), (0x3373, "AU"), (0x3374, "bar"),
  (0x3375, "oV"), (0x3376, "pc"), (0x3377, "dm"), (0x3378, "dm2"), (0x3379, "dm3"),
  (0x337A, "IU"), (0x337B, "平成"), (0x337C, "昭和"), (0x337D, "大正"), (0x337E, "明治"),
  (0x337F, "株式会社"), (0x3380, "pA"), (0x3381, "nA"), (0x3382, "μA"), (0x3383, "mA"),
  (0x3384, "kA"), (0x3385, "KB"), (0x3386, "MB"), (0x3387, "GB"), (0x3388, "cal"),
  (0x3389, "kcal"), (0x338A, "pF"), (0x338B, "nF"), (0x338C, "μF"), (0x338D, "μg"),
  (0x338E, "mg"), (0x338F, "kg"), (0x3390, "Hz"), (0x3391, "kHz"), (0x3392, "MHz"),
  (0x3393, "GHz"), (0x3394, "THz"), (0x3395, "μl"), (0x3396, "ml"), (0x3397, "dl"),
  (0x3398, "kl"), (0x3399, "fm"), (0x339A, "nm"), (0x339B, "μm"), (0x339C, "mm"), (0x339D, "cm"),
  (0x339E, "km"), (0x339F, "mm2"), (0x33A0, "cm2"), (0x33A1, "m2"), (0x33A2, "km2"),
  (0x33A3, "mm3"), (0x33A4, "cm3"), (0x33A5, "m3"), (0x33A6, "km3"), (0x33A7, "m∕s"),
  (0x33A8, "m∕s2"), (0x33A9, "Pa"), (0x33AA, "kPa"), (0x33AB, "MPa"), (0x33AC, "GPa"),
  (0x33AD, "rad"), (0x33AE, "rad∕s"), (0x33AF, "rad∕s2"), (0x33B0, "ps"), (0x33B1, "ns"),
  (0x33B2, "μs"), (0x33B3, "ms"), (0x33B4, "pV"), (0x33B5, "nV"), (0x33B6, "μV"), (0x33B7, "mV"),
  (0x33B8, "kV"), (0x33B9, "MV"), (0x33BA, "pW"), (0x33BB, "nW"), (0x33BC, "μW"), (0x33BD, "mW"),
  (0x33BE, "kW"), (0x33BF, "MW"), (0x33C0, "kΩ"), (0x33C1, "MΩ"), (0x33C2, "a.m."),
  (0x33C3, "Bq"), (0x33C4, "cc"), (0x33C5, "cd"), (0x33C6, "C∕kg"), (0x33C7, "Co."),
  (0x33C8, "dB"), (0x33C9, "Gy"), (0x33CA, "ha"), (0x33CB, "HP"), (0x33CC, "in"), (0x33CD, "KK"),
  (0x33CE, "KM"), (0x33CF, "kt"), (0x33D0, "lm"), (0x33D1, "ln"), (0x33D2, "log"),
  (0x33D3, "lx"), (0x33D4, "mb"), (0x33D5, "mil"), (0x33D6, "mol"), (0x33D7, "PH"),
  (0x33D8, "p.m."), (0x33D9, "PPM"), (0x33DA, "PR"), (0x33DB, "sr"), (0x33DC, "Sv"),
  (0x33DD, "Wb"), (0x33DE, "V∕m"), (0x33DF, "A∕m"), (0x33E0, "1日"), (0x33E1, "2日"),
  (0x33E2, "3日"), (0x33E3, "4日"), (0x33E4, "5日"), (0x33E5, "6日"), (0x33E6, "7日"), (0x33E7, "8日"),
  (0x33E8, "9日"), (0x33E9, "10日"), (0x33EA, "11日"), (0x33EB, "12日"), (0x33EC, "13日"),
  (0x33ED, "14日"), (0x33EE, "15日"), (0x33EF, "16日"), (0x33F0, "17日"), (0x33F1, "18日"),
  (0x33F2, "19日"), (0x33F3, "20日"), (0x33F4, "21日"), (0x33F5, "22日"), (0x33F6, "23日"),
  (0x33F7, "24日"), (0x33F8, "25日"), (0x33F9, "26日"), (0x33FA, "27日"), (0x33FB, "28日"),
  (0x33FC, "29日"), (0x33FD, "30日"), (0x33FE, "31日"), (0x33FF, "gal")]

/-- Characters with a longer decomposition: presentation, half-width and full-width forms. -/
def expansionsForms : List (Nat × String) := [
  (0xFB00, "ff"), (0xFB01, "fi"), (0xFB02, "fl"), (0xFB03, "ffi"), (0xFB04, "ffl"),
  (0xFB05, "st"), (0xFB06, "st"), (0xFB13, "մն"), (0xFB14, "մե"), (0xFB15, "մի"), (0xFB16, "վն"),
  (0xFB17, "մխ"), (0xFB1D, "\u05d9\u05b4"), (0xFB1F, "\u05f2\u05b7"), (0xFB2A, "\u05e9\u05c1"),
  (0xFB2B, "\u05e9\u05c2"), (0xFB2C, "\u05e9\u05bc\u05c1"), (0xFB2D, "\u05e9\u05bc\u05c2"),
  (0xFB2E, "\u05d0\u05b7"), (0xFB2F, "\u05d0\u05b8"), (0xFB30, "\u05d0\u05bc"),
  (0xFB31, "\u05d1\u05bc"), (0xFB32, "\u05d2\u05bc"), (0xFB33, "\u05d3\u05bc"),
  (0xFB34, "\u05d4\u05bc"), (0xFB35, "\u05d5\u05bc"), (0xFB36, "\u05d6\u05bc"),
  (0xFB38, "\u05d8\u05bc"), (0xFB39, "\u05d9\u05bc"), (0xFB3A, "\u05da\u05bc"),
  (0xFB3B, "\u05db\u05bc"), (0xFB3C, "\u05dc\u05bc"), (0xFB3E, "\u05de\u05bc"),
  (0xFB40, "\u05e0\u05bc"), (0xFB41, "\u05e1\u05bc"), (0xFB43, "\u05e3\u05bc"),
  (0xFB44, "\u05e4\u05bc"), (0xFB46, "\u05e6\u05bc"), (0xFB47, "\u05e7\u05bc"),
  (0xFB48, "\u05e8\u05bc"), (0xFB49, "\u05e9\u05bc"), (0xFB4A, "\u05ea\u05bc"),
  (0xFB4B, "\u05d5\u05b9"), (0xFB4C, "\u05d1\u05bf"), (0xFB4D, "\u05db\u05bf"),
  (0xFB4E, "\u05e4\u05bf"), (0xFB4F, "\u05d0\u05dc"), (0xFBA4, "\u06d5\u0654"),
  (0xFBA5, "\u06d5\u0654"), (0xFBB0, "\u06d2\u0654"), (0xFBB1, "\u06d2\u0654"),
  (0xFBDD, "\u06c7\u0674"), (0xFBEA, "\u064a\u0654\u0627"), (0xFBEB, "\u064a\u0654\u0627"),
  (0xFBEC, "\u064a\u0654\u06d5"), (0xFBED, "\u064a\u0654\u06d5"), (0xFBEE, "\u064a\u0654\u0648"),
  (0xFBEF, "\u064a\u0654\u0648"), (0xFBF0, "\u064a\u0654\u06c7"), (0xFBF1, "\u064a\u0654\u06c7"),
  (0xFBF2, "\u064a\u0654\u06c6"), (0xFBF3, "\u064a\u0654\u06c6"), (0xFBF4, "\u064a\u0654\u06c8"),
  (0xFBF5, "\u064a\u0654\u06c8"), (0xFBF6, "\u064a\u0654\u06d0"), (0xFBF7, "\u064a\u0654\u06d0"),
  (0xFBF8, "\u064a\u0654\u06d0"), (0xFBF9, "\u064a\u0654\u0649"), (0xFBFA, "\u064a\u0654\u0649"),
  (0xFBFB, "\u064a\u0654\u0649"), (0xFC00, "\u064a\u0654\u062c"), (0xFC01, "\u064a\u0654\u062d"),
  (0xFC02, "\u064a\u0654\u0645"), (0xFC03, "\u064a\u0654\u0649"), (0xFC04, "\u064a\u0654\u064a"),
  (0xFC05, "\u0628\u062c"), (0xFC06, "\u0628\u062d"), (0xFC07, "\u0628\u062e"),
  (0xFC08, "\u0628\u0645"), (0xFC09, "\u0628\u0649"), (0xFC0A, "\u0628\u064a"),
  (0xFC0B, "\u062a\u062c"), (0xFC0C, "\u062a\u062d"), (0xFC0D, "\u062a\u062e"),
  (0xFC0E, "\u062a\u0645"), (0xFC0F, "\u062a\u0649"), (0xFC10, "\u062a\u064a"),
  (0xFC11, "\u062b\u062c"), (0xFC12, "\u062b\u0645"), (0xFC13, "\u062b\u0649"),
  (0xFC14, "\u062b\u064a"), (0xFC15, "\u062c\u062d"), (0xFC16, "\u062c\u0645"),
  (0xFC17, "\u062d\u062c"), (0xFC18, "\u062d\u0645"), (0xFC19, "\u062e\u062c"),
  (0xFC1A, "\u062e\u062d"), (0xFC1B, "\u062e\u0645"), (0xFC1C, "\u0633\u062c"),
  (0xFC1D, "\u0633\u062d"), (0xFC1E, "\u0633\u062e"), (0xFC1F, "\u0633\u0645"),
  (0xFC20, "\u0635\u062d"), (0xFC21, "\u0635\u0645"), (0xFC22, "\u0636\u062c"),
  (0xFC23, "\u0636\u062d"), (0xFC24, "\u0636\u062e"), (0xFC25, "\u0636\u0645"),
  (0xFC26, "\u0637\u062d"), (0xFC27, "\u0637\u0645"), (0xFC28, "\u0638\u0645"),
  (0xFC29, "\u0639\u062c"), (0xFC2A, "\u0639\u0645"), (0xFC2B, "\u063a\u062c"),
  (0xFC2C, "\u063a\u0645"), (0xFC2D, "\u0641\u062c"), (0xFC2E, "\u0641\u062d"),
  (0xFC2F, "\u0641\u062e"), (0xFC30, "\u0641\u0645"), (0xFC31, "\u0641\u0649"),
  (0xFC32, "\u0641\u064a"), (0xFC33, "\u0642\u062d"), (0xFC34, "\u0642\u0645"),
  (0xFC35, "\u0642\u0649"), (0xFC36, "\u0642\u064a"), (0xFC37, "\u0643\u0627"),
  (0xFC38, "\u0643\u062c"), (0xFC39, "\u0643\u062d"), (0xFC3A, "\u0643\u062e"),
  (0xFC3B, "\u0643\u0644"), (0xFC3C, "\u0643\u0645"), (0xFC3D, "\u0643\u0649"),
  (0xFC3E, "\u0643\u064a"), (0xFC3F, "\u0644\u062c"), (0xFC40, "\u0644\u062d"),
  (0xFC41, "\u0644\u062e"), (0xFC42, "\u0644\u0645"), (0xFC43, "\u0644\u0649"),
  (0xFC44, "\u0644\u064a"), (0xFC45, "\u0645\u062c"), (0xFC46, "\u0645\u062d"),
  (0xFC47, "\u0645\u062e"), (0xFC48, "\u0645\u0645"), (0xFC49, "\u0645\u0649"),
  (0xFC4A, "\u0645\u064a"), (0xFC4B, "\u0646\u062c"), (0xFC4C, "\u0646\u062d"),
  (0xFC4D, "\u0646\u062e"), (0xFC4E, "\u0646\u0645"), (0xFC4F, "\u0646\u0649"),
  (0xFC50, "\u0646\u064a"), (0xFC51, "\u0647\u062c"), (0xFC52, "\u0647\u0645"),
  (0xFC53, "\u0647\u0649"), (0xFC54, "\u0647\u064a"), (0xFC55, "\u064a\u062c"),
  (0xFC56, "\u064a\u062d"), (0xFC57, "\u064a\u062e"), (0xFC58, "\u064a\u0645"),
  (0xFC59, "\u064a\u0649"), (0xFC5A, "\u064a\u064a"), (0xFC5B, "\u0630\u0670"),
  (0xFC5C, "\u0631\u0670"), (0xFC5D, "\u0649\u0670"), (0xFC5E, "\x20\u064c\u0651"),
  (0xFC5F, "\x20\u064d\u0651"), (0xFC60, "\x20\u064e\u0651"), (0xFC61, "\x20\u064f\u0651"),
  (0xFC62, "\x20\u0650\u0651"), (0xFC63, "\x20\u0651\u0670"), (0xFC64, "\u064a\u0654\u0631"),
  (0xFC65, "\u064a\u0654\u0632"), (0xFC66, "\u064a\u0654\u0645"), (0xFC67, "\u064a\u0654\u0646"),
  (0xFC68, "\u064a\u0654\u0649"), (0xFC69, "\u064a\u0654\u064a"), (0xFC6A, "\u0628\u0631"),
  (0xFC6B, "\u0628\u0632"), (0xFC6C, "\u0628\u0645"), (0xFC6D, "\u0628\u0646"),
  (0xFC6E, "\u0628\u0649"), (0xFC6F, "\u0628\u064a"), (0xFC70, "\u062a\u0631"),
  (0xFC71, "\u062a\u0632"), (0xFC72, "\u062a\u0645"), (0xFC73, "\u062a\u0646"),
  (0xFC74, "\u062a\u0649"), (0xFC75, "\u062a\u064a"), (0xFC76, "\u062b\u0631"),
  (0xFC77, "\u062b\u0632"), (0xFC78, "\u062b\u0645"), (0xFC79, "\u062b\u0646"),
  (0xFC7A, "\u062b\u0649"), (0xFC7B, "\u062b\u064a"), (0xFC7C, "\u0641\u0649"),
  (0xFC7D, "\u0641\u064a"), (0xFC7E, "\u0642\u0649"), (0xFC7F, "\u0642\u064a"),
  (0xFC80, "\u0643\u0627"), (0xFC81, "\u0643\u0644"), (0xFC82, "\u0643\u0645"),
  (0xFC83, "\u0643\u0649"), (0xFC84, "\u0643\u064a"), (0xFC85, "\u0644\u0645"),
  (0xFC86, "\u0644\u0649"), (0xFC87, "\u0644\u064a"), (0xFC88, "\u0645\u0627"),
  (0xFC89, "\u0645\u0645"), (0xFC8A, "\u0646\u0631"), (0xFC8B, "\u0646\u0632"),
  (0xFC8C, "\u0646\u0645"), (0xFC8D, "\u0646\u0646"), (0xFC8E, "\u0646\u0649"),
  (0xFC8F, "\u0646\u064a"), (0xFC90, "\u0649\u0670"), (0xFC91, "\u064a\u0631"),
  (0xFC92, "\u064a\u0632"), (0xFC93, "\u064a\u0645"), (0xFC94, "\u064a\u0646"),
  (0xFC95, "\u064a\u0649"), (0xFC96, "\u064a\u064a"), (0xFC97, "\u064a\u0654\u062c"),
  (0xFC98, "\u064a\u0654\u062d"), (0xFC99, "\u064a\u0654\u062e"), (0xFC9A, "\u064a\u0654\u0645"),
  (0xFC9B, "\u064a\u0654\u0647"), (0xFC9C, "\u0628\u062c"), (0xFC9D, "\u0628\u062d"),
  (0xFC9E, "\u0628\u062e"), (0xFC9F, "\u0628\u0645"), (0xFCA0, "\u0628\u0647"),
  (0xFCA1, "\u062a\u062c"), (0xFCA2, "\u062a\u062d"), (0xFCA3, "\u062a\u062e"),
  (0xFCA4, "\u062a\u0645"), (0xFCA5, "\u062a\u0647"), (0xFCA6, "\u062b\u0645"),
  (0xFCA7, "\u062c\u062d"), (0xFCA8, "\u062c\u0645"), (0xFCA9, "\u062d\u062c"),
  (0xFCAA, "\u062d\u0645"), (0xFCAB, "\u062e\u062c"), (0xFCAC, "\u062e\u0645"),
  (0xFCAD, "\u0633\u062c"), (0xFCAE, "\u0633\u062d"), (0xFCAF, "\u0633\u062e"),
  (0xFCB0, "\u0633\u0645"), (0xFCB1, "\u0635\u062d"), (0xFCB2, "\u0635\u062e"),
  (0xFCB3, "\u0635\u0645"), (0xFCB4, "\u0636\u062c"), (0xFCB5, "\u0636\u062d"),
  (0xFCB6, "\u0636\u062e"), (0xFCB7, "\u0636\u0645"), (0xFCB8, "\u0637\u062d"),
  (0xFCB9, "\u0638\u0645"), (0xFCBA, "\u0639\u062c"), (0xFCBB, "\u0639\u0645"),
  (0xFCBC, "\u063a\u062c"), (0xFCBD, "\u063a\u0645"), (0xFCBE, "\u0641\u062c"),
  (0xFCBF, "\u0641\u062d"), (0xFCC0, "\u0641\u062e"), (0xFCC1, "\u0641\u0645"),
  (0xFCC2, "\u0642\u062d"), (0xFCC3, "\u0642\u0645"), (0xFCC4, "\u0643\u062c"),
  (0xFCC5, "\u0643\u062d"), (0xFCC6, "\u0643\u062e"), (0xFCC7, "\u0643\u0644"),
  (0xFCC8, "\u0643\u0645"), (0xFCC9, "\u0644\u062c"), (0xFCCA, "\u0644\u062d"),
  (0xFCCB, "\u0644\u062e"), (0xFCCC, "\u0644\u0645"), (0xFCCD, "\u0644\u0647"),
  (0xFCCE, "\u0645\u062c"), (0xFCCF, "\u0645\u062d"), (0xFCD0, "\u0645\u062e"),
  (0xFCD1, "\u0645\u0645"), (0xFCD2, "\u0646\u062c"), (0xFCD3, "\u0646\u062d"),
  (0xFCD4, "\u0646\u062e"), (0xFCD5, "\u0646\u0645"), (0xFCD6, "\u0646\u0647"),
  (0xFCD7, "\u0647\u062c"), (0xFCD8, "\u0647\u0645"), (0xFCD9, "\u0647\u0670"),
  (0xFCDA, "\u064a\u062c"), (0xFCDB, "\u064a\u062d"), (0xFCDC, "\u064a\u062e"),
  (0xFCDD, "\u064a\u0645"), (0xFCDE, "\u064a\u0647"), (0xFCDF, "\u064a\u0654\u0645"),
  (0xFCE0, "\u064a\u0654\u0647"), (0xFCE1, "\u0628\u0645"), (0xFCE2, "\u0628\u0647"),
  (0xFCE3, "\u062a\u0645"), (0xFCE4, "\u062a\u0647"), (0xFCE5, "\u062b\u0645"),
  (0xFCE6, "\u062b\u0647"), (0xFCE7, "\u0633\u0645"), (0xFCE8, "\u0633\u0647"),
  (0xFCE9, "\u0634\u0645"), (0xFCEA, "\u0634\u0647"), (0xFCEB, "\u0643\u0644"),
  (0xFCEC, "\u0643\u0645"), (0xFCED, "\u0644\u0645"), (0xFCEE, "\u0646\u0645"),
  (0xFCEF, "\u0646\u0647"), (0xFCF0, "\u064a\u0645"), (0xFCF1, "\u064a\u0647"),
  (0xFCF2, "\u0640\u064e\u0651"), (0xFCF3, "\u0640\u064f\u0651"), (0xFCF4, "\u0640\u0650\u0651"),
  (0xFCF5, "\u0637\u0649"), (0xFCF6, "\u0637\u064a"), (0xFCF7, "\u0639\u0649"),
  (0xFCF8, "\u0639\u064a"), (0xFCF9, "\u063a\u0649"), (0xFCFA, "\u063a\u064a"),
  (0xFCFB, "\u0633\u0649"), (0xFCFC, "\u0633\u064a"), (0xFCFD, "\u0634\u0649"),
  (0xFCFE, "\u0634\u064a"), (0xFCFF, "\u062d\u0649"), (0xFD00, "\u062d\u064a"),
  (0xFD01, "\u062c\u0649"), (0xFD02, "\u062c\u064a"), (0xFD03, "\u062e\u0649"),
  (0xFD04, "\u062e\u064a"), (0xFD05, "\u0635\u0649"), (0xFD06, "\u0635\u064a"),
  (0xFD07, "\u0636\u0649"), (0xFD08, "\u0636\u064a"), (0xFD09, "\u0634\u062c"),
  (0xFD0A, "\u0634\u062d"), (0xFD0B, "\u0634\u062e"), (0xFD0C, "\u0634\u0645"),
  (0xFD0D, "\u0634\u0631"), (0xFD0E, "\u0633\u0631"), (0xFD0F, "\u0635\u0631"),
  (0xFD10, "\u0636\u0631"), (0xFD11, "\u0637\u0649"), (0xFD12, "\u0637\u064a"),
  (0xFD13, "\u0639\u0649"), (0xFD14, "\u0639\u064a"), (0xFD15, "\u063a\u0649"),
  (0xFD16, "\u063a\u064a"), (0xFD17, "\u0633\u0649"), (0xFD18, "\u0633\u064a"),
  (0xFD19, "\u0634\u0649"), (0xFD1A, "\u0634\u064a"), (0xFD1B, "\u062d\u0649"),
  (0xFD1C, "\u062d\u064a"), (0xFD1D, "\u062c\u0649"), (0xFD1E, "\u062c\u064a"),
  (0xFD1F, "\u062e\u0649"), (0xFD20, "\u062e\u064a"), (0xFD21, "\u0635\u0649"),
  (0xFD22, "\u0635\u064a"), (0xFD23, "\u0636\u0649"), (0xFD24, "\u0636\u064a"),
  (0xFD25, "\u0634\u062c"), (0xFD26, "\u0634\u062d"), (0xFD27, "\u0634\u062e"),
  (0xFD28, "\u0634\u0645"), (0xFD29, "\u0634\u0631"), (0xFD2A, "\u0633\u0631"),
  (0xFD2B, "\u0635\u0631"), (0xFD2C, "\u0636\u0631"), (0xFD2D, "\u0634\u062c"),
  (0xFD2E, "\u0634\u062d"), (0xFD2F, "\u0634\u062e"), (0xFD30, "\u0634\u0645"),
  (0xFD31, "\u0633\u0647"), (0xFD32, "\u0634\u0647"), (0xFD33, "\u0637\u0645"),
  (0xFD34, "\u0633\u062c"), (0xFD35, "\u0633\u062d"), (0xFD36, "\u0633\u062e"),
  (0xFD37, "\u0634\u062c"), (0xFD38, "\u0634\u062d"), (0xFD39, "\u0634\u062e"),
  (0xFD3A, "\u0637\u0645"), (0xFD3B, "\u0638\u0645"), (0xFD3C, "\u0627\u064b"),
  (0xFD3D, "\u0627\u064b"), (0xFD50, "\u062a\u062c\u0645"), (0xFD51, "\u062a\u062d\u062c"),
  (0xFD52, "\u062a\u062d\u062c"), (0xFD53, "\u062a\u062d\u0645"), (0xFD54, "\u062a\u062e\u0645"),
  (0xFD55, "\u062a\u0645\u062c"), (0xFD56, "\u062a\u0645\u062d"), (0xFD57, "\u062a\u0645\u062e"),
  (0xFD58, "\u062c\u0645\u062d"), (0xFD59, "\u062c\u0645\u062d"), (0xFD5A, "\u062d\u0645\u064a"),
  (0xFD5B, "\u062d\u0645\u0649"), (0xFD5C, "\u0633\u062d\u062c"), (0xFD5D, "\u0633\u062c\u062d"),
  (0xFD5E, "\u0633\u062c\u0649"), (0xFD5F, "\u0633\u0645\u062d"), (0xFD60, "\u0633\u0645\u062d"),
  (0xFD61, "\u0633\u0645\u062c"), (0xFD62, "\u0633\u0645\u0645"), (0xFD63, "\u0633\u0645\u0645"),
  (0xFD64, "\u0635\u062d\u062d"), (0xFD65, "\u0635\u062d\u062d"), (0xFD66, "\u0635\u0645\u0645"),
  (0xFD67, "\u0634\u062d\u0645"), (0xFD68, "\u0634\u062d\u0645"), (0xFD69, "\u0634\u062c\u064a"),
  (0xFD6A, "\u0634\u0645\u062e"), (0xFD6B, "\u0634\u0645\u062e"), (0xFD6C, "\u0634\u0645\u0645"),
  (0xFD6D, "\u0634\u0645\u0645"), (0xFD6E, "\u0636\u062d\u0649"), (0xFD6F, "\u0636\u062e\u0645"),
  (0xFD70, "\u0636\u062e\u0645"), (0xFD71, "\u0637\u0645\u062d"), (0xFD72, "\u0637\u0645\u062d"),
  (0xFD73, "\u0637\u0645\u0645"), (0xFD74, "\u0637\u0645\u064a"), (0xFD75, "\u0639\u062c\u0645"),
  (0xFD76, "\u0639\u0645\u0645"), (0xFD77, "\u0639\u0645\u0645"), (0xFD78, "\u0639\u0645\u0649"),
  (0xFD79, "\u063a\u0645\u0645"), (0xFD7A, "\u063a\u0645\u064a"), (0xFD7B, "\u063a\u0645\u0649"),
  (0xFD7C, "\u0641\u062e\u0645"), (0xFD7D, "\u0641\u062e\u0645"), (0xFD7E, "\u0642\u0645\u062d"),
  (0xFD7F, "\u0642\u0645\u0645"), (0xFD80, "\u0644\u062d\u0645"), (0xFD81, "\u0644\u062d\u064a"),
  (0xFD82, "\u0644\u062d\u0649"), (0xFD83, "\u0644\u062c\u062c"), (0xFD84, "\u0644\u062c\u062c"),
  (0xFD85, "\u0644\u062e\u0645"), (0xFD86, "\u0644\u062e\u0645"), (0xFD87, "\u0644\u0645\u062d"),
  (0xFD88, "\u0644\u0645\u062d"), (0xFD89, "\u0645\u062d\u062c"), (0xFD8A, "\u0645\u062d\u0645"),
  (0xFD8B, "\u0645\u062d\u064a"), (0xFD8C, "\u0645\u062c\u062d"), (0xFD8D, "\u0645\u062c\u0645"),
  (0xFD8E, "\u0645\u062e\u062c"), (0xFD8F, "\u0645\u062e\u0645"), (0xFD92, "\u0645\u062c\u062e"),
  (0xFD93, "\u0647\u0645\u062c"), (0xFD94, "\u0647\u0645\u0645"), (0xFD95, "\u0646\u062d\u0645"),
  (0xFD96, "\u0646\u062d\u0649"), (0xFD97, "\u0646\u062c\u0645"), (0xFD98, "\u0646\u062c\u0645"),
  (0xFD99, "\u0646\u062c\u0649"), (0xFD9A, "\u0646\u0645\u064a"), (0xFD9B, "\u0646\u0645\u0649"),
  (0xFD9C, "\u064a\u0645\u0645"), (0xFD9D, "\u064a\u0645\u0645"), (0xFD9E, "\u0628\u062e\u064a"),
  (0xFD9F, "\u062a\u062c\u064a"), (0xFDA0, "\u062a\u062c\u0649"), (0xFDA1, "\u062a\u062e\u064a"),
  (0xFDA2, "\u062a\u062e\u0649"), (0xFDA3, "\u062a\u0645\u064a"), (0xFDA4, "\u062a\u0645\u0649"),
  (0xFDA5, "\u062c\u0645\u064a"), (0xFDA6, "\u062c\u062d\u0649"), (0xFDA7, "\u062c\u0645\u0649"),
  (0xFDA8, "\u0633\u062e\u0649"), (0xFDA9, "\u0635\u062d\u064a"), (0xFDAA, "\u0634\u062d\u064a"),
  (0xFDAB, "\u0636\u062d\u064a"), (0xFDAC, "\u0644\u062c\u064a"), (0xFDAD, "\u0644\u0645\u064a"),
  (0xFDAE, "\u064a\u062d\u064a"), (0xFDAF, "\u064a\u062c\u064a"), (0xFDB0, "\u064a\u0645\u064a"),
  (0xFDB1, "\u0645\u0645\u064a"), (0xFDB2, "\u0642\u0645\u064a"), (0xFDB3, "\u0646\u062d\u064a"),
  (0xFDB4, "\u0642\u0645\u062d"), (0xFDB5, "\u0644\u062d\u0645"), (0xFDB6, "\u0639\u0645\u064a"),
  (0xFDB7, "\u0643\u0645\u064a"), (0xFDB8, "\u0646\u062c\u062d"), (0xFDB9, "\u0645\u062e\u064a"),
  (0xFDBA, "\u0644\u062c\u0645"), (0xFDBB, "\u0643\u0645\u0645"), (0xFDBC, "\u0644\u062c\u0645"),
  (0xFDBD, "\u0646\u062c\u062d"), (0xFDBE, "\u062c\u062d\u064a"), (0xFDBF, "\u062d\u062c\u064a"),
  (0xFDC0, "\u0645\u062c\u064a"), (0xFDC1, "\u0641\u0645\u064a"), (0xFDC2, "\u0628\u062d\u064a"),
  (0xFDC3, "\u0643\u0645\u0645"), (0xFDC4, "\u0639\u062c\u0645"), (0xFDC5, "\u0635\u0645\u0645"),
  (0xFDC6, "\u0633\u062e\u064a"), (0xFDC7, "\u0646\u062c\u064a"), (0xFDF0, "\u0635\u0644\u06d2"),
  (0xFDF1, "\u0642\u0644\u06d2"), (0xFDF2, "\u0627\u0644\u0644\u0647"),
  (0xFDF3, "\u0627\u0643\u0628\u0631"), (0xFDF4, "\u0645\u062d\u0645\u062f"),
  (0xFDF5, "\u0635\u0644\u0639\u0645"), (0xFDF6, "\u0631\u0633\u0648\u0644"),
  (0xFDF7, "\u0639\u0644\u064a\u0647"), (0xFDF8, "\u0648\u0633\u0644\u0645"),
  (0xFDF9, "\u0635\u0644\u0649"),
  (0xFDFA,
   "\u0635\u0644\u0649 \u0627\u0644\u0644\u0647 \u0639\u0644\u064a\u0647 \u0648\u0633\u0644\u0645"),
  (0xFDFB, "\u062c\u0644\x20\u062c\u0644\u0627\u0644\u0647"),
  (0xFDFC, "\u0631\u06cc\u0627\u0644"), (0xFE19, "..."), (0xFE30, ".."), (0xFE49, "\x20\u0305"),
  (0xFE4A, "\x20\u0305"), (0xFE4B, "\x20\u0305"), (0xFE4C, "\x20\u0305"), (0xFE70, "\x20\u064b"),
  (0xFE71, "\u0640\u064b"), (0xFE72, "\x20\u064c"), (0xFE74, "\x20\u064d"),
  (0xFE76, "\x20\u064e"), (0xFE77, "\u0640\u064e"), (0xFE78, "\x20\u064f"),
  (0xFE79, "\u0640\u064f"), (0xFE7A, "\x20\u0650"), (0xFE7B, "\u0640\u0650"),
  (0xFE7C, "\x20\u0651"), (0xFE7D, "\u0640\u0651"), (0xFE7E, "\x20\u0652"),
  (0xFE7F, "\u0640\u0652"), (0xFE81, "\u0627\u0653"), (0xFE82, "\u0627\u0653"),
  (0xFE83, "\u0627\u0654"), (0xFE84, "\u0627\u0654"), (0xFE85, "\u0648\u0654"),
  (0xFE86, "\u0648\u0654"), (0xFE87, "\u0627\u0655"), (0xFE88, "\u0627\u0655"),
  (0xFE89, "\u064a\u0654"), (0xFE8A, "\u064a\u0654"), (0xFE8B, "\u064a\u0654"),
  (0xFE8C, "\u064a\u0654"), (0xFEF5, "\u0644\u0627\u0653"), (0xFEF6, "\u0644\u0627\u0653"),
  (0xFEF7, "\u0644\u0627\u0654"), (0xFEF8, "\u0644\u0627\u0654"), (0xFEF9, "\u0644\u0627\u0655"),
  (0xFEFA, "\u0644\u0627\u0655"), (0xFEFB, "\u0644\u0627"), (0xFEFC, "\u0644\u0627"),
  (0xFFE3, "\x20\u0304")]

/-- Characters with a longer decomposition: the supplementary planes. -/
def expansionsSupplement : List (Nat × String) := [
  (0x105C9, "𐗒\u0307"), (0x105E4, "𐗚\u0307"), (0x1109A, "𑂚"), (0x1109C, "𑂜"), (0x110AB, "𑂫"),
  (0x1112E, "𑄮"), (0x1112F, "𑄯"), (0x1134B, "𑍋"), (0x1134C, "𑍌"), (0x11383, "𑎃"),
  (0x11385, "𑎅"), (0x1138E, "𑎎"), (0x11391, "𑎑"), (0x113C5, "𑏅"), (0x113C7, "𑏇"),
  (0x113C8, "𑏈"), (0x114BB, "𑒻"), (0x114BC, "𑒼"), (0x114BE, "𑒾"), (0x115BA, "𑖺"),
  (0x115BB, "𑖻"), (0x11938, "𑤸"), (0x16121, "𖄡"), (0x16122, "𖄢"), (0x16123, "𖄣"),
  (0x16124, "𖄤"), (0x16125, "𖄥"), (0x16126, "𖄦"), (0x16127, "𖄧"), (0x16128, "𖄨"),
  (0x16D68, "𖵨"), (0x16D69, "𖵩"), (0x16D6A, "𖵪"), (0x1D15E, "𝅗𝅥"), (0x1D15F, "𝅘𝅥"),
  (0x1D160, "𝅘𝅥𝅮"), (0x1D161, "𝅘𝅥𝅯"), (0x1D162, "𝅘𝅥𝅰"), (0x1D163, "𝅘𝅥𝅱"), (0x1D164, "𝅘𝅥𝅲"),
  (0x1D1BB, "𝆹𝅥"), (0x1D1BC, "𝆺𝅥"), (0x1D1BD, "𝆹𝅥𝅮"), (0x1D1BE, "𝆺𝅥𝅮"), (0x1D1BF, "𝆹𝅥𝅯"),
  (0x1D1C0, "𝆺𝅥𝅯"), (0x1F100, "0."), (0x1F101, "0,"), (0x1F102, "1,"), (0x1F103, "2,"),
  (0x1F104, "3,"), (0x1F105, "4,"), (0x1F106, "5,"), (0x1F107, "6,"), (0x1F108, "7,"),
  (0x1F109, "8,"), (0x1F10A, "9,"), (0x1F110, "(A)"), (0x1F111, "(B)"), (0x1F112, "(C)"),
  (0x1F113, "(D)"), (0x1F114, "(E)"), (0x1F115, "(F)"), (0x1F116, "(G)"), (0x1F117, "(H)"),
  (0x1F118, "(I)"), (0x1F119, "(J)"), (0x1F11A, "(K)"), (0x1F11B, "(L)"), (0x1F11C, "(M)"),
  (0x1F11D, "(N)"), (0x1F11E, "(O)"), (0x1F11F, "(P)"), (0x1F120, "(Q)"), (0x1F121, "(R)"),
  (0x1F122, "(S)"), (0x1F123, "(T)"), (0x1F124, "(U)"), (0x1F125, "(V)"), (0x1F126, "(W)"),
  (0x1F127, "(X)"), (0x1F128, "(Y)"), (0x1F129, "(Z)"), (0x1F12A, "〔S〕"), (0x1F12D, "CD"),
  (0x1F12E, "WZ"), (0x1F14A, "HV"), (0x1F14B, "MV"), (0x1F14C, "SD"), (0x1F14D, "SS"),
  (0x1F14E, "PPV"), (0x1F14F, "WC"), (0x1F16A, "MC"), (0x1F16B, "MD"), (0x1F16C, "MR"),
  (0x1F190, "DJ"), (0x1F200, "ほか"), (0x1F201, "ココ"), (0x1F213, "テ\u3099"), (0x1F240, "〔本〕"),
  (0x1F241, "〔三〕"), (0x1F242, "〔二〕"), (0x1F243, "〔安〕"), (0x1F244, "〔点〕"), (0x1F245, "〔打〕"),
  (0x1F246, "〔盗〕"), (0x1F247, "〔勝〕"), (0x1F248, "〔敗〕")]

/-! ### Look-up -/

/-- The image of a code point under the runs, listed in ascending order. -/
def shiftIn (n : Nat) : List (Nat × Nat × Nat) → Option Nat
  | [] => none
  | (first, last, image) :: rest =>
    if n < first then none else if n ≤ last then some (image + (n - first)) else shiftIn n rest

/-- The entry of a code point in a table listed in ascending order. -/
def entryIn (n : Nat) : List (Nat × String) → Option Text
  | [] => none
  | (m, image) :: rest =>
    if n < m then none else if n = m then some image.toList else entryIn n rest

/-- The full compatibility decomposition of a code point that has one.  Each table covers a
stretch of code points of its own, so at most one of them answers. -/
def decompositionOf? (n : Nat) : Option Text :=
  let (runs, entries) :=
    if n < 0x2000 then (shiftsLatin, expansionsLatin)
    else if n < 0x3000 then (shiftsSymbols, expansionsSymbols)
    else if n < 0xA000 then (shiftsKana, expansionsKana)
    else if n < 0xFB00 then (shiftsIdeographs, [])
    else if n < 0x10000 then (shiftsForms, expansionsForms)
    else (shiftsSupplement, expansionsSupplement)
  match shiftIn n runs with
  | some image => some [Char.ofNat image]
  | none => entryIn n entries

end RuleSheet.Text
