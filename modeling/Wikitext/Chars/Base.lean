import Wikitext.Chars.Word

/-!
# Letters without their accents

The canonical decomposition of a character, less its combining marks. Every
character that the decomposition reorders is a mark, and a mark decomposes into
marks, so neither shows. Hangul syllables decompose by arithmetic into their jamo.
-/

namespace Wikitext.Chars

set_option maxRecDepth 20000 in
/-- Characters whose decomposition has one character that is no mark, with that character. -/
def baseTable : Array (Nat × Nat) := #[
  (0xC0, 0x41), (0xC1, 0x41), (0xC2, 0x41), (0xC3, 0x41), (0xC4, 0x41), (0xC5, 0x41),
  (0xC7, 0x43), (0xC8, 0x45), (0xC9, 0x45), (0xCA, 0x45), (0xCB, 0x45), (0xCC, 0x49),
  (0xCD, 0x49), (0xCE, 0x49), (0xCF, 0x49), (0xD1, 0x4E), (0xD2, 0x4F), (0xD3, 0x4F),
  (0xD4, 0x4F), (0xD5, 0x4F), (0xD6, 0x4F), (0xD9, 0x55), (0xDA, 0x55), (0xDB, 0x55),
  (0xDC, 0x55), (0xDD, 0x59), (0xE0, 0x61), (0xE1, 0x61), (0xE2, 0x61), (0xE3, 0x61),
  (0xE4, 0x61), (0xE5, 0x61), (0xE7, 0x63), (0xE8, 0x65), (0xE9, 0x65), (0xEA, 0x65),
  (0xEB, 0x65), (0xEC, 0x69), (0xED, 0x69), (0xEE, 0x69), (0xEF, 0x69), (0xF1, 0x6E),
  (0xF2, 0x6F), (0xF3, 0x6F), (0xF4, 0x6F), (0xF5, 0x6F), (0xF6, 0x6F), (0xF9, 0x75),
  (0xFA, 0x75), (0xFB, 0x75), (0xFC, 0x75), (0xFD, 0x79), (0xFF, 0x79), (0x100, 0x41),
  (0x101, 0x61), (0x102, 0x41), (0x103, 0x61), (0x104, 0x41), (0x105, 0x61), (0x106, 0x43),
  (0x107, 0x63), (0x108, 0x43), (0x109, 0x63), (0x10A, 0x43), (0x10B, 0x63), (0x10C, 0x43),
  (0x10D, 0x63), (0x10E, 0x44), (0x10F, 0x64), (0x112, 0x45), (0x113, 0x65), (0x114, 0x45),
  (0x115, 0x65), (0x116, 0x45), (0x117, 0x65), (0x118, 0x45), (0x119, 0x65), (0x11A, 0x45),
  (0x11B, 0x65), (0x11C, 0x47), (0x11D, 0x67), (0x11E, 0x47), (0x11F, 0x67), (0x120, 0x47),
  (0x121, 0x67), (0x122, 0x47), (0x123, 0x67), (0x124, 0x48), (0x125, 0x68), (0x128, 0x49),
  (0x129, 0x69), (0x12A, 0x49), (0x12B, 0x69), (0x12C, 0x49), (0x12D, 0x69), (0x12E, 0x49),
  (0x12F, 0x69), (0x130, 0x49), (0x134, 0x4A), (0x135, 0x6A), (0x136, 0x4B), (0x137, 0x6B),
  (0x139, 0x4C), (0x13A, 0x6C), (0x13B, 0x4C), (0x13C, 0x6C), (0x13D, 0x4C), (0x13E, 0x6C),
  (0x143, 0x4E), (0x144, 0x6E), (0x145, 0x4E), (0x146, 0x6E), (0x147, 0x4E), (0x148, 0x6E),
  (0x14C, 0x4F), (0x14D, 0x6F), (0x14E, 0x4F), (0x14F, 0x6F), (0x150, 0x4F), (0x151, 0x6F),
  (0x154, 0x52), (0x155, 0x72), (0x156, 0x52), (0x157, 0x72), (0x158, 0x52), (0x159, 0x72),
  (0x15A, 0x53), (0x15B, 0x73), (0x15C, 0x53), (0x15D, 0x73), (0x15E, 0x53), (0x15F, 0x73),
  (0x160, 0x53), (0x161, 0x73), (0x162, 0x54), (0x163, 0x74), (0x164, 0x54), (0x165, 0x74),
  (0x168, 0x55), (0x169, 0x75), (0x16A, 0x55), (0x16B, 0x75), (0x16C, 0x55), (0x16D, 0x75),
  (0x16E, 0x55), (0x16F, 0x75), (0x170, 0x55), (0x171, 0x75), (0x172, 0x55), (0x173, 0x75),
  (0x174, 0x57), (0x175, 0x77), (0x176, 0x59), (0x177, 0x79), (0x178, 0x59), (0x179, 0x5A),
  (0x17A, 0x7A), (0x17B, 0x5A), (0x17C, 0x7A), (0x17D, 0x5A), (0x17E, 0x7A), (0x1A0, 0x4F),
  (0x1A1, 0x6F), (0x1AF, 0x55), (0x1B0, 0x75), (0x1CD, 0x41), (0x1CE, 0x61), (0x1CF, 0x49),
  (0x1D0, 0x69), (0x1D1, 0x4F), (0x1D2, 0x6F), (0x1D3, 0x55), (0x1D4, 0x75), (0x1D5, 0x55),
  (0x1D6, 0x75), (0x1D7, 0x55), (0x1D8, 0x75), (0x1D9, 0x55), (0x1DA, 0x75), (0x1DB, 0x55),
  (0x1DC, 0x75), (0x1DE, 0x41), (0x1DF, 0x61), (0x1E0, 0x41), (0x1E1, 0x61), (0x1E2, 0xC6),
  (0x1E3, 0xE6), (0x1E6, 0x47), (0x1E7, 0x67), (0x1E8, 0x4B), (0x1E9, 0x6B), (0x1EA, 0x4F),
  (0x1EB, 0x6F), (0x1EC, 0x4F), (0x1ED, 0x6F), (0x1EE, 0x1B7), (0x1EF, 0x292), (0x1F0, 0x6A),
  (0x1F4, 0x47), (0x1F5, 0x67), (0x1F8, 0x4E), (0x1F9, 0x6E), (0x1FA, 0x41), (0x1FB, 0x61),
  (0x1FC, 0xC6), (0x1FD, 0xE6), (0x1FE, 0xD8), (0x1FF, 0xF8), (0x200, 0x41), (0x201, 0x61),
  (0x202, 0x41), (0x203, 0x61), (0x204, 0x45), (0x205, 0x65), (0x206, 0x45), (0x207, 0x65),
  (0x208, 0x49), (0x209, 0x69), (0x20A, 0x49), (0x20B, 0x69), (0x20C, 0x4F), (0x20D, 0x6F),
  (0x20E, 0x4F), (0x20F, 0x6F), (0x210, 0x52), (0x211, 0x72), (0x212, 0x52), (0x213, 0x72),
  (0x214, 0x55), (0x215, 0x75), (0x216, 0x55), (0x217, 0x75), (0x218, 0x53), (0x219, 0x73),
  (0x21A, 0x54), (0x21B, 0x74), (0x21E, 0x48), (0x21F, 0x68), (0x226, 0x41), (0x227, 0x61),
  (0x228, 0x45), (0x229, 0x65), (0x22A, 0x4F), (0x22B, 0x6F), (0x22C, 0x4F), (0x22D, 0x6F),
  (0x22E, 0x4F), (0x22F, 0x6F), (0x230, 0x4F), (0x231, 0x6F), (0x232, 0x59), (0x233, 0x79),
  (0x374, 0x2B9), (0x37E, 0x3B), (0x385, 0xA8), (0x386, 0x391), (0x387, 0xB7), (0x388, 0x395),
  (0x389, 0x397), (0x38A, 0x399), (0x38C, 0x39F), (0x38E, 0x3A5), (0x38F, 0x3A9), (0x390, 0x3B9),
  (0x3AA, 0x399), (0x3AB, 0x3A5), (0x3AC, 0x3B1), (0x3AD, 0x3B5), (0x3AE, 0x3B7), (0x3AF, 0x3B9),
  (0x3B0, 0x3C5), (0x3CA, 0x3B9), (0x3CB, 0x3C5), (0x3CC, 0x3BF), (0x3CD, 0x3C5), (0x3CE, 0x3C9),
  (0x3D3, 0x3D2), (0x3D4, 0x3D2), (0x400, 0x415), (0x401, 0x415), (0x403, 0x413), (0x407, 0x406),
  (0x40C, 0x41A), (0x40D, 0x418), (0x40E, 0x423), (0x419, 0x418), (0x439, 0x438), (0x450, 0x435),
  (0x451, 0x435), (0x453, 0x433), (0x457, 0x456), (0x45C, 0x43A), (0x45D, 0x438), (0x45E, 0x443),
  (0x476, 0x474), (0x477, 0x475), (0x4C1, 0x416), (0x4C2, 0x436), (0x4D0, 0x410), (0x4D1, 0x430),
  (0x4D2, 0x410), (0x4D3, 0x430), (0x4D6, 0x415), (0x4D7, 0x435), (0x4DA, 0x4D8), (0x4DB, 0x4D9),
  (0x4DC, 0x416), (0x4DD, 0x436), (0x4DE, 0x417), (0x4DF, 0x437), (0x4E2, 0x418), (0x4E3, 0x438),
  (0x4E4, 0x418), (0x4E5, 0x438), (0x4E6, 0x41E), (0x4E7, 0x43E), (0x4EA, 0x4E8), (0x4EB, 0x4E9),
  (0x4EC, 0x42D), (0x4ED, 0x44D), (0x4EE, 0x423), (0x4EF, 0x443), (0x4F0, 0x423), (0x4F1, 0x443),
  (0x4F2, 0x423), (0x4F3, 0x443), (0x4F4, 0x427), (0x4F5, 0x447), (0x4F8, 0x42B), (0x4F9, 0x44B),
  (0x622, 0x627), (0x623, 0x627), (0x624, 0x648), (0x625, 0x627), (0x626, 0x64A), (0x6C0, 0x6D5),
  (0x6C2, 0x6C1), (0x6D3, 0x6D2), (0x929, 0x928), (0x931, 0x930), (0x934, 0x933), (0x958, 0x915),
  (0x959, 0x916), (0x95A, 0x917), (0x95B, 0x91C), (0x95C, 0x921), (0x95D, 0x922), (0x95E, 0x92B),
  (0x95F, 0x92F), (0x9DC, 0x9A1), (0x9DD, 0x9A2), (0x9DF, 0x9AF), (0xA33, 0xA32), (0xA36, 0xA38),
  (0xA59, 0xA16), (0xA5A, 0xA17), (0xA5B, 0xA1C), (0xA5E, 0xA2B), (0xB5C, 0xB21), (0xB5D, 0xB22),
  (0xB94, 0xB92), (0xF43, 0xF42), (0xF4D, 0xF4C), (0xF52, 0xF51), (0xF57, 0xF56), (0xF5C, 0xF5B),
  (0xF69, 0xF40), (0x1026, 0x1025), (0x1B06, 0x1B05), (0x1B08, 0x1B07), (0x1B0A, 0x1B09),
  (0x1B0C, 0x1B0B), (0x1B0E, 0x1B0D), (0x1B12, 0x1B11), (0x1E00, 0x41), (0x1E01, 0x61),
  (0x1E02, 0x42), (0x1E03, 0x62), (0x1E04, 0x42), (0x1E05, 0x62), (0x1E06, 0x42), (0x1E07, 0x62),
  (0x1E08, 0x43), (0x1E09, 0x63), (0x1E0A, 0x44), (0x1E0B, 0x64), (0x1E0C, 0x44), (0x1E0D, 0x64),
  (0x1E0E, 0x44), (0x1E0F, 0x64), (0x1E10, 0x44), (0x1E11, 0x64), (0x1E12, 0x44), (0x1E13, 0x64),
  (0x1E14, 0x45), (0x1E15, 0x65), (0x1E16, 0x45), (0x1E17, 0x65), (0x1E18, 0x45), (0x1E19, 0x65),
  (0x1E1A, 0x45), (0x1E1B, 0x65), (0x1E1C, 0x45), (0x1E1D, 0x65), (0x1E1E, 0x46), (0x1E1F, 0x66),
  (0x1E20, 0x47), (0x1E21, 0x67), (0x1E22, 0x48), (0x1E23, 0x68), (0x1E24, 0x48), (0x1E25, 0x68),
  (0x1E26, 0x48), (0x1E27, 0x68), (0x1E28, 0x48), (0x1E29, 0x68), (0x1E2A, 0x48), (0x1E2B, 0x68),
  (0x1E2C, 0x49), (0x1E2D, 0x69), (0x1E2E, 0x49), (0x1E2F, 0x69), (0x1E30, 0x4B), (0x1E31, 0x6B),
  (0x1E32, 0x4B), (0x1E33, 0x6B), (0x1E34, 0x4B), (0x1E35, 0x6B), (0x1E36, 0x4C), (0x1E37, 0x6C),
  (0x1E38, 0x4C), (0x1E39, 0x6C), (0x1E3A, 0x4C), (0x1E3B, 0x6C), (0x1E3C, 0x4C), (0x1E3D, 0x6C),
  (0x1E3E, 0x4D), (0x1E3F, 0x6D), (0x1E40, 0x4D), (0x1E41, 0x6D), (0x1E42, 0x4D), (0x1E43, 0x6D),
  (0x1E44, 0x4E), (0x1E45, 0x6E), (0x1E46, 0x4E), (0x1E47, 0x6E), (0x1E48, 0x4E), (0x1E49, 0x6E),
  (0x1E4A, 0x4E), (0x1E4B, 0x6E), (0x1E4C, 0x4F), (0x1E4D, 0x6F), (0x1E4E, 0x4F), (0x1E4F, 0x6F),
  (0x1E50, 0x4F), (0x1E51, 0x6F), (0x1E52, 0x4F), (0x1E53, 0x6F), (0x1E54, 0x50), (0x1E55, 0x70),
  (0x1E56, 0x50), (0x1E57, 0x70), (0x1E58, 0x52), (0x1E59, 0x72), (0x1E5A, 0x52), (0x1E5B, 0x72),
  (0x1E5C, 0x52), (0x1E5D, 0x72), (0x1E5E, 0x52), (0x1E5F, 0x72), (0x1E60, 0x53), (0x1E61, 0x73),
  (0x1E62, 0x53), (0x1E63, 0x73), (0x1E64, 0x53), (0x1E65, 0x73), (0x1E66, 0x53), (0x1E67, 0x73),
  (0x1E68, 0x53), (0x1E69, 0x73), (0x1E6A, 0x54), (0x1E6B, 0x74), (0x1E6C, 0x54), (0x1E6D, 0x74),
  (0x1E6E, 0x54), (0x1E6F, 0x74), (0x1E70, 0x54), (0x1E71, 0x74), (0x1E72, 0x55), (0x1E73, 0x75),
  (0x1E74, 0x55), (0x1E75, 0x75), (0x1E76, 0x55), (0x1E77, 0x75), (0x1E78, 0x55), (0x1E79, 0x75),
  (0x1E7A, 0x55), (0x1E7B, 0x75), (0x1E7C, 0x56), (0x1E7D, 0x76), (0x1E7E, 0x56), (0x1E7F, 0x76),
  (0x1E80, 0x57), (0x1E81, 0x77), (0x1E82, 0x57), (0x1E83, 0x77), (0x1E84, 0x57), (0x1E85, 0x77),
  (0x1E86, 0x57), (0x1E87, 0x77), (0x1E88, 0x57), (0x1E89, 0x77), (0x1E8A, 0x58), (0x1E8B, 0x78),
  (0x1E8C, 0x58), (0x1E8D, 0x78), (0x1E8E, 0x59), (0x1E8F, 0x79), (0x1E90, 0x5A), (0x1E91, 0x7A),
  (0x1E92, 0x5A), (0x1E93, 0x7A), (0x1E94, 0x5A), (0x1E95, 0x7A), (0x1E96, 0x68), (0x1E97, 0x74),
  (0x1E98, 0x77), (0x1E99, 0x79), (0x1E9B, 0x17F), (0x1EA0, 0x41), (0x1EA1, 0x61),
  (0x1EA2, 0x41), (0x1EA3, 0x61), (0x1EA4, 0x41), (0x1EA5, 0x61), (0x1EA6, 0x41), (0x1EA7, 0x61),
  (0x1EA8, 0x41), (0x1EA9, 0x61), (0x1EAA, 0x41), (0x1EAB, 0x61), (0x1EAC, 0x41), (0x1EAD, 0x61),
  (0x1EAE, 0x41), (0x1EAF, 0x61), (0x1EB0, 0x41), (0x1EB1, 0x61), (0x1EB2, 0x41), (0x1EB3, 0x61),
  (0x1EB4, 0x41), (0x1EB5, 0x61), (0x1EB6, 0x41), (0x1EB7, 0x61), (0x1EB8, 0x45), (0x1EB9, 0x65),
  (0x1EBA, 0x45), (0x1EBB, 0x65), (0x1EBC, 0x45), (0x1EBD, 0x65), (0x1EBE, 0x45), (0x1EBF, 0x65),
  (0x1EC0, 0x45), (0x1EC1, 0x65), (0x1EC2, 0x45), (0x1EC3, 0x65), (0x1EC4, 0x45), (0x1EC5, 0x65),
  (0x1EC6, 0x45), (0x1EC7, 0x65), (0x1EC8, 0x49), (0x1EC9, 0x69), (0x1ECA, 0x49), (0x1ECB, 0x69),
  (0x1ECC, 0x4F), (0x1ECD, 0x6F), (0x1ECE, 0x4F), (0x1ECF, 0x6F), (0x1ED0, 0x4F), (0x1ED1, 0x6F),
  (0x1ED2, 0x4F), (0x1ED3, 0x6F), (0x1ED4, 0x4F), (0x1ED5, 0x6F), (0x1ED6, 0x4F), (0x1ED7, 0x6F),
  (0x1ED8, 0x4F), (0x1ED9, 0x6F), (0x1EDA, 0x4F), (0x1EDB, 0x6F), (0x1EDC, 0x4F), (0x1EDD, 0x6F),
  (0x1EDE, 0x4F), (0x1EDF, 0x6F), (0x1EE0, 0x4F), (0x1EE1, 0x6F), (0x1EE2, 0x4F), (0x1EE3, 0x6F),
  (0x1EE4, 0x55), (0x1EE5, 0x75), (0x1EE6, 0x55), (0x1EE7, 0x75), (0x1EE8, 0x55), (0x1EE9, 0x75),
  (0x1EEA, 0x55), (0x1EEB, 0x75), (0x1EEC, 0x55), (0x1EED, 0x75), (0x1EEE, 0x55), (0x1EEF, 0x75),
  (0x1EF0, 0x55), (0x1EF1, 0x75), (0x1EF2, 0x59), (0x1EF3, 0x79), (0x1EF4, 0x59), (0x1EF5, 0x79),
  (0x1EF6, 0x59), (0x1EF7, 0x79), (0x1EF8, 0x59), (0x1EF9, 0x79), (0x1F00, 0x3B1),
  (0x1F01, 0x3B1), (0x1F02, 0x3B1), (0x1F03, 0x3B1), (0x1F04, 0x3B1), (0x1F05, 0x3B1),
  (0x1F06, 0x3B1), (0x1F07, 0x3B1), (0x1F08, 0x391), (0x1F09, 0x391), (0x1F0A, 0x391),
  (0x1F0B, 0x391), (0x1F0C, 0x391), (0x1F0D, 0x391), (0x1F0E, 0x391), (0x1F0F, 0x391),
  (0x1F10, 0x3B5), (0x1F11, 0x3B5), (0x1F12, 0x3B5), (0x1F13, 0x3B5), (0x1F14, 0x3B5),
  (0x1F15, 0x3B5), (0x1F18, 0x395), (0x1F19, 0x395), (0x1F1A, 0x395), (0x1F1B, 0x395),
  (0x1F1C, 0x395), (0x1F1D, 0x395), (0x1F20, 0x3B7), (0x1F21, 0x3B7), (0x1F22, 0x3B7),
  (0x1F23, 0x3B7), (0x1F24, 0x3B7), (0x1F25, 0x3B7), (0x1F26, 0x3B7), (0x1F27, 0x3B7),
  (0x1F28, 0x397), (0x1F29, 0x397), (0x1F2A, 0x397), (0x1F2B, 0x397), (0x1F2C, 0x397),
  (0x1F2D, 0x397), (0x1F2E, 0x397), (0x1F2F, 0x397), (0x1F30, 0x3B9), (0x1F31, 0x3B9),
  (0x1F32, 0x3B9), (0x1F33, 0x3B9), (0x1F34, 0x3B9), (0x1F35, 0x3B9), (0x1F36, 0x3B9),
  (0x1F37, 0x3B9), (0x1F38, 0x399), (0x1F39, 0x399), (0x1F3A, 0x399), (0x1F3B, 0x399),
  (0x1F3C, 0x399), (0x1F3D, 0x399), (0x1F3E, 0x399), (0x1F3F, 0x399), (0x1F40, 0x3BF),
  (0x1F41, 0x3BF), (0x1F42, 0x3BF), (0x1F43, 0x3BF), (0x1F44, 0x3BF), (0x1F45, 0x3BF),
  (0x1F48, 0x39F), (0x1F49, 0x39F), (0x1F4A, 0x39F), (0x1F4B, 0x39F), (0x1F4C, 0x39F),
  (0x1F4D, 0x39F), (0x1F50, 0x3C5), (0x1F51, 0x3C5), (0x1F52, 0x3C5), (0x1F53, 0x3C5),
  (0x1F54, 0x3C5), (0x1F55, 0x3C5), (0x1F56, 0x3C5), (0x1F57, 0x3C5), (0x1F59, 0x3A5),
  (0x1F5B, 0x3A5), (0x1F5D, 0x3A5), (0x1F5F, 0x3A5), (0x1F60, 0x3C9), (0x1F61, 0x3C9),
  (0x1F62, 0x3C9), (0x1F63, 0x3C9), (0x1F64, 0x3C9), (0x1F65, 0x3C9), (0x1F66, 0x3C9),
  (0x1F67, 0x3C9), (0x1F68, 0x3A9), (0x1F69, 0x3A9), (0x1F6A, 0x3A9), (0x1F6B, 0x3A9),
  (0x1F6C, 0x3A9), (0x1F6D, 0x3A9), (0x1F6E, 0x3A9), (0x1F6F, 0x3A9), (0x1F70, 0x3B1),
  (0x1F71, 0x3B1), (0x1F72, 0x3B5), (0x1F73, 0x3B5), (0x1F74, 0x3B7), (0x1F75, 0x3B7),
  (0x1F76, 0x3B9), (0x1F77, 0x3B9), (0x1F78, 0x3BF), (0x1F79, 0x3BF), (0x1F7A, 0x3C5),
  (0x1F7B, 0x3C5), (0x1F7C, 0x3C9), (0x1F7D, 0x3C9), (0x1F80, 0x3B1), (0x1F81, 0x3B1),
  (0x1F82, 0x3B1), (0x1F83, 0x3B1), (0x1F84, 0x3B1), (0x1F85, 0x3B1), (0x1F86, 0x3B1),
  (0x1F87, 0x3B1), (0x1F88, 0x391), (0x1F89, 0x391), (0x1F8A, 0x391), (0x1F8B, 0x391),
  (0x1F8C, 0x391), (0x1F8D, 0x391), (0x1F8E, 0x391), (0x1F8F, 0x391), (0x1F90, 0x3B7),
  (0x1F91, 0x3B7), (0x1F92, 0x3B7), (0x1F93, 0x3B7), (0x1F94, 0x3B7), (0x1F95, 0x3B7),
  (0x1F96, 0x3B7), (0x1F97, 0x3B7), (0x1F98, 0x397), (0x1F99, 0x397), (0x1F9A, 0x397),
  (0x1F9B, 0x397), (0x1F9C, 0x397), (0x1F9D, 0x397), (0x1F9E, 0x397), (0x1F9F, 0x397),
  (0x1FA0, 0x3C9), (0x1FA1, 0x3C9), (0x1FA2, 0x3C9), (0x1FA3, 0x3C9), (0x1FA4, 0x3C9),
  (0x1FA5, 0x3C9), (0x1FA6, 0x3C9), (0x1FA7, 0x3C9), (0x1FA8, 0x3A9), (0x1FA9, 0x3A9),
  (0x1FAA, 0x3A9), (0x1FAB, 0x3A9), (0x1FAC, 0x3A9), (0x1FAD, 0x3A9), (0x1FAE, 0x3A9),
  (0x1FAF, 0x3A9), (0x1FB0, 0x3B1), (0x1FB1, 0x3B1), (0x1FB2, 0x3B1), (0x1FB3, 0x3B1),
  (0x1FB4, 0x3B1), (0x1FB6, 0x3B1), (0x1FB7, 0x3B1), (0x1FB8, 0x391), (0x1FB9, 0x391),
  (0x1FBA, 0x391), (0x1FBB, 0x391), (0x1FBC, 0x391), (0x1FBE, 0x3B9), (0x1FC1, 0xA8),
  (0x1FC2, 0x3B7), (0x1FC3, 0x3B7), (0x1FC4, 0x3B7), (0x1FC6, 0x3B7), (0x1FC7, 0x3B7),
  (0x1FC8, 0x395), (0x1FC9, 0x395), (0x1FCA, 0x397), (0x1FCB, 0x397), (0x1FCC, 0x397),
  (0x1FCD, 0x1FBF), (0x1FCE, 0x1FBF), (0x1FCF, 0x1FBF), (0x1FD0, 0x3B9), (0x1FD1, 0x3B9),
  (0x1FD2, 0x3B9), (0x1FD3, 0x3B9), (0x1FD6, 0x3B9), (0x1FD7, 0x3B9), (0x1FD8, 0x399),
  (0x1FD9, 0x399), (0x1FDA, 0x399), (0x1FDB, 0x399), (0x1FDD, 0x1FFE), (0x1FDE, 0x1FFE),
  (0x1FDF, 0x1FFE), (0x1FE0, 0x3C5), (0x1FE1, 0x3C5), (0x1FE2, 0x3C5), (0x1FE3, 0x3C5),
  (0x1FE4, 0x3C1), (0x1FE5, 0x3C1), (0x1FE6, 0x3C5), (0x1FE7, 0x3C5), (0x1FE8, 0x3A5),
  (0x1FE9, 0x3A5), (0x1FEA, 0x3A5), (0x1FEB, 0x3A5), (0x1FEC, 0x3A1), (0x1FED, 0xA8),
  (0x1FEE, 0xA8), (0x1FEF, 0x60), (0x1FF2, 0x3C9), (0x1FF3, 0x3C9), (0x1FF4, 0x3C9),
  (0x1FF6, 0x3C9), (0x1FF7, 0x3C9), (0x1FF8, 0x39F), (0x1FF9, 0x39F), (0x1FFA, 0x3A9),
  (0x1FFB, 0x3A9), (0x1FFC, 0x3A9), (0x1FFD, 0xB4), (0x2000, 0x2002), (0x2001, 0x2003),
  (0x2126, 0x3A9), (0x212A, 0x4B), (0x212B, 0x41), (0x219A, 0x2190), (0x219B, 0x2192),
  (0x21AE, 0x2194), (0x21CD, 0x21D0), (0x21CE, 0x21D4), (0x21CF, 0x21D2), (0x2204, 0x2203),
  (0x2209, 0x2208), (0x220C, 0x220B), (0x2224, 0x2223), (0x2226, 0x2225), (0x2241, 0x223C),
  (0x2244, 0x2243), (0x2247, 0x2245), (0x2249, 0x2248), (0x2260, 0x3D), (0x2262, 0x2261),
  (0x226D, 0x224D), (0x226E, 0x3C), (0x226F, 0x3E), (0x2270, 0x2264), (0x2271, 0x2265),
  (0x2274, 0x2272), (0x2275, 0x2273), (0x2278, 0x2276), (0x2279, 0x2277), (0x2280, 0x227A),
  (0x2281, 0x227B), (0x2284, 0x2282), (0x2285, 0x2283), (0x2288, 0x2286), (0x2289, 0x2287),
  (0x22AC, 0x22A2), (0x22AD, 0x22A8), (0x22AE, 0x22A9), (0x22AF, 0x22AB), (0x22E0, 0x227C),
  (0x22E1, 0x227D), (0x22E2, 0x2291), (0x22E3, 0x2292), (0x22EA, 0x22B2), (0x22EB, 0x22B3),
  (0x22EC, 0x22B4), (0x22ED, 0x22B5), (0x2329, 0x3008), (0x232A, 0x3009), (0x2ADC, 0x2ADD),
  (0x304C, 0x304B), (0x304E, 0x304D), (0x3050, 0x304F), (0x3052, 0x3051), (0x3054, 0x3053),
  (0x3056, 0x3055), (0x3058, 0x3057), (0x305A, 0x3059), (0x305C, 0x305B), (0x305E, 0x305D),
  (0x3060, 0x305F), (0x3062, 0x3061), (0x3065, 0x3064), (0x3067, 0x3066), (0x3069, 0x3068),
  (0x3070, 0x306F), (0x3071, 0x306F), (0x3073, 0x3072), (0x3074, 0x3072), (0x3076, 0x3075),
  (0x3077, 0x3075), (0x3079, 0x3078), (0x307A, 0x3078), (0x307C, 0x307B), (0x307D, 0x307B),
  (0x3094, 0x3046), (0x309E, 0x309D), (0x30AC, 0x30AB), (0x30AE, 0x30AD), (0x30B0, 0x30AF),
  (0x30B2, 0x30B1), (0x30B4, 0x30B3), (0x30B6, 0x30B5), (0x30B8, 0x30B7), (0x30BA, 0x30B9),
  (0x30BC, 0x30BB), (0x30BE, 0x30BD), (0x30C0, 0x30BF), (0x30C2, 0x30C1), (0x30C5, 0x30C4),
  (0x30C7, 0x30C6), (0x30C9, 0x30C8), (0x30D0, 0x30CF), (0x30D1, 0x30CF), (0x30D3, 0x30D2),
  (0x30D4, 0x30D2), (0x30D6, 0x30D5), (0x30D7, 0x30D5), (0x30D9, 0x30D8), (0x30DA, 0x30D8),
  (0x30DC, 0x30DB), (0x30DD, 0x30DB), (0x30F4, 0x30A6), (0x30F7, 0x30EF), (0x30F8, 0x30F0),
  (0x30F9, 0x30F1), (0x30FA, 0x30F2), (0x30FE, 0x30FD), (0xF900, 0x8C48), (0xF901, 0x66F4),
  (0xF902, 0x8ECA), (0xF903, 0x8CC8), (0xF904, 0x6ED1), (0xF905, 0x4E32), (0xF906, 0x53E5),
  (0xF907, 0x9F9C), (0xF908, 0x9F9C), (0xF909, 0x5951), (0xF90A, 0x91D1), (0xF90B, 0x5587),
  (0xF90C, 0x5948), (0xF90D, 0x61F6), (0xF90E, 0x7669), (0xF90F, 0x7F85), (0xF910, 0x863F),
  (0xF911, 0x87BA), (0xF912, 0x88F8), (0xF913, 0x908F), (0xF914, 0x6A02), (0xF915, 0x6D1B),
  (0xF916, 0x70D9), (0xF917, 0x73DE), (0xF918, 0x843D), (0xF919, 0x916A), (0xF91A, 0x99F1),
  (0xF91B, 0x4E82), (0xF91C, 0x5375), (0xF91D, 0x6B04), (0xF91E, 0x721B), (0xF91F, 0x862D),
  (0xF920, 0x9E1E), (0xF921, 0x5D50), (0xF922, 0x6FEB), (0xF923, 0x85CD), (0xF924, 0x8964),
  (0xF925, 0x62C9), (0xF926, 0x81D8), (0xF927, 0x881F), (0xF928, 0x5ECA), (0xF929, 0x6717),
  (0xF92A, 0x6D6A), (0xF92B, 0x72FC), (0xF92C, 0x90CE), (0xF92D, 0x4F86), (0xF92E, 0x51B7),
  (0xF92F, 0x52DE), (0xF930, 0x64C4), (0xF931, 0x6AD3), (0xF932, 0x7210), (0xF933, 0x76E7),
  (0xF934, 0x8001), (0xF935, 0x8606), (0xF936, 0x865C), (0xF937, 0x8DEF), (0xF938, 0x9732),
  (0xF939, 0x9B6F), (0xF93A, 0x9DFA), (0xF93B, 0x788C), (0xF93C, 0x797F), (0xF93D, 0x7DA0),
  (0xF93E, 0x83C9), (0xF93F, 0x9304), (0xF940, 0x9E7F), (0xF941, 0x8AD6), (0xF942, 0x58DF),
  (0xF943, 0x5F04), (0xF944, 0x7C60), (0xF945, 0x807E), (0xF946, 0x7262), (0xF947, 0x78CA),
  (0xF948, 0x8CC2), (0xF949, 0x96F7), (0xF94A, 0x58D8), (0xF94B, 0x5C62), (0xF94C, 0x6A13),
  (0xF94D, 0x6DDA), (0xF94E, 0x6F0F), (0xF94F, 0x7D2F), (0xF950, 0x7E37), (0xF951, 0x964B),
  (0xF952, 0x52D2), (0xF953, 0x808B), (0xF954, 0x51DC), (0xF955, 0x51CC), (0xF956, 0x7A1C),
  (0xF957, 0x7DBE), (0xF958, 0x83F1), (0xF959, 0x9675), (0xF95A, 0x8B80), (0xF95B, 0x62CF),
  (0xF95C, 0x6A02), (0xF95D, 0x8AFE), (0xF95E, 0x4E39), (0xF95F, 0x5BE7), (0xF960, 0x6012),
  (0xF961, 0x7387), (0xF962, 0x7570), (0xF963, 0x5317), (0xF964, 0x78FB), (0xF965, 0x4FBF),
  (0xF966, 0x5FA9), (0xF967, 0x4E0D), (0xF968, 0x6CCC), (0xF969, 0x6578), (0xF96A, 0x7D22),
  (0xF96B, 0x53C3), (0xF96C, 0x585E), (0xF96D, 0x7701), (0xF96E, 0x8449), (0xF96F, 0x8AAA),
  (0xF970, 0x6BBA), (0xF971, 0x8FB0), (0xF972, 0x6C88), (0xF973, 0x62FE), (0xF974, 0x82E5),
  (0xF975, 0x63A0), (0xF976, 0x7565), (0xF977, 0x4EAE), (0xF978, 0x5169), (0xF979, 0x51C9),
  (0xF97A, 0x6881), (0xF97B, 0x7CE7), (0xF97C, 0x826F), (0xF97D, 0x8AD2), (0xF97E, 0x91CF),
  (0xF97F, 0x52F5), (0xF980, 0x5442), (0xF981, 0x5973), (0xF982, 0x5EEC), (0xF983, 0x65C5),
  (0xF984, 0x6FFE), (0xF985, 0x792A), (0xF986, 0x95AD), (0xF987, 0x9A6A), (0xF988, 0x9E97),
  (0xF989, 0x9ECE), (0xF98A, 0x529B), (0xF98B, 0x66C6), (0xF98C, 0x6B77), (0xF98D, 0x8F62),
  (0xF98E, 0x5E74), (0xF98F, 0x6190), (0xF990, 0x6200), (0xF991, 0x649A), (0xF992, 0x6F23),
  (0xF993, 0x7149), (0xF994, 0x7489), (0xF995, 0x79CA), (0xF996, 0x7DF4), (0xF997, 0x806F),
  (0xF998, 0x8F26), (0xF999, 0x84EE), (0xF99A, 0x9023), (0xF99B, 0x934A), (0xF99C, 0x5217),
  (0xF99D, 0x52A3), (0xF99E, 0x54BD), (0xF99F, 0x70C8), (0xF9A0, 0x88C2), (0xF9A1, 0x8AAA),
  (0xF9A2, 0x5EC9), (0xF9A3, 0x5FF5), (0xF9A4, 0x637B), (0xF9A5, 0x6BAE), (0xF9A6, 0x7C3E),
  (0xF9A7, 0x7375), (0xF9A8, 0x4EE4), (0xF9A9, 0x56F9), (0xF9AA, 0x5BE7), (0xF9AB, 0x5DBA),
  (0xF9AC, 0x601C), (0xF9AD, 0x73B2), (0xF9AE, 0x7469), (0xF9AF, 0x7F9A), (0xF9B0, 0x8046),
  (0xF9B1, 0x9234), (0xF9B2, 0x96F6), (0xF9B3, 0x9748), (0xF9B4, 0x9818), (0xF9B5, 0x4F8B),
  (0xF9B6, 0x79AE), (0xF9B7, 0x91B4), (0xF9B8, 0x96B8), (0xF9B9, 0x60E1), (0xF9BA, 0x4E86),
  (0xF9BB, 0x50DA), (0xF9BC, 0x5BEE), (0xF9BD, 0x5C3F), (0xF9BE, 0x6599), (0xF9BF, 0x6A02),
  (0xF9C0, 0x71CE), (0xF9C1, 0x7642), (0xF9C2, 0x84FC), (0xF9C3, 0x907C), (0xF9C4, 0x9F8D),
  (0xF9C5, 0x6688), (0xF9C6, 0x962E), (0xF9C7, 0x5289), (0xF9C8, 0x677B), (0xF9C9, 0x67F3),
  (0xF9CA, 0x6D41), (0xF9CB, 0x6E9C), (0xF9CC, 0x7409), (0xF9CD, 0x7559), (0xF9CE, 0x786B),
  (0xF9CF, 0x7D10), (0xF9D0, 0x985E), (0xF9D1, 0x516D), (0xF9D2, 0x622E), (0xF9D3, 0x9678),
  (0xF9D4, 0x502B), (0xF9D5, 0x5D19), (0xF9D6, 0x6DEA), (0xF9D7, 0x8F2A), (0xF9D8, 0x5F8B),
  (0xF9D9, 0x6144), (0xF9DA, 0x6817), (0xF9DB, 0x7387), (0xF9DC, 0x9686), (0xF9DD, 0x5229),
  (0xF9DE, 0x540F), (0xF9DF, 0x5C65), (0xF9E0, 0x6613), (0xF9E1, 0x674E), (0xF9E2, 0x68A8),
  (0xF9E3, 0x6CE5), (0xF9E4, 0x7406), (0xF9E5, 0x75E2), (0xF9E6, 0x7F79), (0xF9E7, 0x88CF),
  (0xF9E8, 0x88E1), (0xF9E9, 0x91CC), (0xF9EA, 0x96E2), (0xF9EB, 0x533F), (0xF9EC, 0x6EBA),
  (0xF9ED, 0x541D), (0xF9EE, 0x71D0), (0xF9EF, 0x7498), (0xF9F0, 0x85FA), (0xF9F1, 0x96A3),
  (0xF9F2, 0x9C57), (0xF9F3, 0x9E9F), (0xF9F4, 0x6797), (0xF9F5, 0x6DCB), (0xF9F6, 0x81E8),
  (0xF9F7, 0x7ACB), (0xF9F8, 0x7B20), (0xF9F9, 0x7C92), (0xF9FA, 0x72C0), (0xF9FB, 0x7099),
  (0xF9FC, 0x8B58), (0xF9FD, 0x4EC0), (0xF9FE, 0x8336), (0xF9FF, 0x523A), (0xFA00, 0x5207),
  (0xFA01, 0x5EA6), (0xFA02, 0x62D3), (0xFA03, 0x7CD6), (0xFA04, 0x5B85), (0xFA05, 0x6D1E),
  (0xFA06, 0x66B4), (0xFA07, 0x8F3B), (0xFA08, 0x884C), (0xFA09, 0x964D), (0xFA0A, 0x898B),
  (0xFA0B, 0x5ED3), (0xFA0C, 0x5140), (0xFA0D, 0x55C0), (0xFA10, 0x585A), (0xFA12, 0x6674),
  (0xFA15, 0x51DE), (0xFA16, 0x732A), (0xFA17, 0x76CA), (0xFA18, 0x793C), (0xFA19, 0x795E),
  (0xFA1A, 0x7965), (0xFA1B, 0x798F), (0xFA1C, 0x9756), (0xFA1D, 0x7CBE), (0xFA1E, 0x7FBD),
  (0xFA20, 0x8612), (0xFA22, 0x8AF8), (0xFA25, 0x9038), (0xFA26, 0x90FD), (0xFA2A, 0x98EF),
  (0xFA2B, 0x98FC), (0xFA2C, 0x9928), (0xFA2D, 0x9DB4), (0xFA2E, 0x90DE), (0xFA2F, 0x96B7),
  (0xFA30, 0x4FAE), (0xFA31, 0x50E7), (0xFA32, 0x514D), (0xFA33, 0x52C9), (0xFA34, 0x52E4),
  (0xFA35, 0x5351), (0xFA36, 0x559D), (0xFA37, 0x5606), (0xFA38, 0x5668), (0xFA39, 0x5840),
  (0xFA3A, 0x58A8), (0xFA3B, 0x5C64), (0xFA3C, 0x5C6E), (0xFA3D, 0x6094), (0xFA3E, 0x6168),
  (0xFA3F, 0x618E), (0xFA40, 0x61F2), (0xFA41, 0x654F), (0xFA42, 0x65E2), (0xFA43, 0x6691),
  (0xFA44, 0x6885), (0xFA45, 0x6D77), (0xFA46, 0x6E1A), (0xFA47, 0x6F22), (0xFA48, 0x716E),
  (0xFA49, 0x722B), (0xFA4A, 0x7422), (0xFA4B, 0x7891), (0xFA4C, 0x793E), (0xFA4D, 0x7949),
  (0xFA4E, 0x7948), (0xFA4F, 0x7950), (0xFA50, 0x7956), (0xFA51, 0x795D), (0xFA52, 0x798D),
  (0xFA53, 0x798E), (0xFA54, 0x7A40), (0xFA55, 0x7A81), (0xFA56, 0x7BC0), (0xFA57, 0x7DF4),
  (0xFA58, 0x7E09), (0xFA59, 0x7E41), (0xFA5A, 0x7F72), (0xFA5B, 0x8005), (0xFA5C, 0x81ED),
  (0xFA5D, 0x8279), (0xFA5E, 0x8279), (0xFA5F, 0x8457), (0xFA60, 0x8910), (0xFA61, 0x8996),
  (0xFA62, 0x8B01), (0xFA63, 0x8B39), (0xFA64, 0x8CD3), (0xFA65, 0x8D08), (0xFA66, 0x8FB6),
  (0xFA67, 0x9038), (0xFA68, 0x96E3), (0xFA69, 0x97FF), (0xFA6A, 0x983B), (0xFA6B, 0x6075),
  (0xFA6C, 0x242EE), (0xFA6D, 0x8218), (0xFA70, 0x4E26), (0xFA71, 0x51B5), (0xFA72, 0x5168),
  (0xFA73, 0x4F80), (0xFA74, 0x5145), (0xFA75, 0x5180), (0xFA76, 0x52C7), (0xFA77, 0x52FA),
  (0xFA78, 0x559D), (0xFA79, 0x5555), (0xFA7A, 0x5599), (0xFA7B, 0x55E2), (0xFA7C, 0x585A),
  (0xFA7D, 0x58B3), (0xFA7E, 0x5944), (0xFA7F, 0x5954), (0xFA80, 0x5A62), (0xFA81, 0x5B28),
  (0xFA82, 0x5ED2), (0xFA83, 0x5ED9), (0xFA84, 0x5F69), (0xFA85, 0x5FAD), (0xFA86, 0x60D8),
  (0xFA87, 0x614E), (0xFA88, 0x6108), (0xFA89, 0x618E), (0xFA8A, 0x6160), (0xFA8B, 0x61F2),
  (0xFA8C, 0x6234), (0xFA8D, 0x63C4), (0xFA8E, 0x641C), (0xFA8F, 0x6452), (0xFA90, 0x6556),
  (0xFA91, 0x6674), (0xFA92, 0x6717), (0xFA93, 0x671B), (0xFA94, 0x6756), (0xFA95, 0x6B79),
  (0xFA96, 0x6BBA), (0xFA97, 0x6D41), (0xFA98, 0x6EDB), (0xFA99, 0x6ECB), (0xFA9A, 0x6F22),
  (0xFA9B, 0x701E), (0xFA9C, 0x716E), (0xFA9D, 0x77A7), (0xFA9E, 0x7235), (0xFA9F, 0x72AF),
  (0xFAA0, 0x732A), (0xFAA1, 0x7471), (0xFAA2, 0x7506), (0xFAA3, 0x753B), (0xFAA4, 0x761D),
  (0xFAA5, 0x761F), (0xFAA6, 0x76CA), (0xFAA7, 0x76DB), (0xFAA8, 0x76F4), (0xFAA9, 0x774A),
  (0xFAAA, 0x7740), (0xFAAB, 0x78CC), (0xFAAC, 0x7AB1), (0xFAAD, 0x7BC0), (0xFAAE, 0x7C7B),
  (0xFAAF, 0x7D5B), (0xFAB0, 0x7DF4), (0xFAB1, 0x7F3E), (0xFAB2, 0x8005), (0xFAB3, 0x8352),
  (0xFAB4, 0x83EF), (0xFAB5, 0x8779), (0xFAB6, 0x8941), (0xFAB7, 0x8986), (0xFAB8, 0x8996),
  (0xFAB9, 0x8ABF), (0xFABA, 0x8AF8), (0xFABB, 0x8ACB), (0xFABC, 0x8B01), (0xFABD, 0x8AFE),
  (0xFABE, 0x8AED), (0xFABF, 0x8B39), (0xFAC0, 0x8B8A), (0xFAC1, 0x8D08), (0xFAC2, 0x8F38),
  (0xFAC3, 0x9072), (0xFAC4, 0x9199), (0xFAC5, 0x9276), (0xFAC6, 0x967C), (0xFAC7, 0x96E3),
  (0xFAC8, 0x9756), (0xFAC9, 0x97DB), (0xFACA, 0x97FF), (0xFACB, 0x980B), (0xFACC, 0x983B),
  (0xFACD, 0x9B12), (0xFACE, 0x9F9C), (0xFACF, 0x2284A), (0xFAD0, 0x22844), (0xFAD1, 0x233D5),
  (0xFAD2, 0x3B9D), (0xFAD3, 0x4018), (0xFAD4, 0x4039), (0xFAD5, 0x25249), (0xFAD6, 0x25CD0),
  (0xFAD7, 0x27ED3), (0xFAD8, 0x9F43), (0xFAD9, 0x9F8E), (0xFB1D, 0x5D9), (0xFB1F, 0x5F2),
  (0xFB2A, 0x5E9), (0xFB2B, 0x5E9), (0xFB2C, 0x5E9), (0xFB2D, 0x5E9), (0xFB2E, 0x5D0),
  (0xFB2F, 0x5D0), (0xFB30, 0x5D0), (0xFB31, 0x5D1), (0xFB32, 0x5D2), (0xFB33, 0x5D3),
  (0xFB34, 0x5D4), (0xFB35, 0x5D5), (0xFB36, 0x5D6), (0xFB38, 0x5D8), (0xFB39, 0x5D9),
  (0xFB3A, 0x5DA), (0xFB3B, 0x5DB), (0xFB3C, 0x5DC), (0xFB3E, 0x5DE), (0xFB40, 0x5E0),
  (0xFB41, 0x5E1), (0xFB43, 0x5E3), (0xFB44, 0x5E4), (0xFB46, 0x5E6), (0xFB47, 0x5E7),
  (0xFB48, 0x5E8), (0xFB49, 0x5E9), (0xFB4A, 0x5EA), (0xFB4B, 0x5D5), (0xFB4C, 0x5D1),
  (0xFB4D, 0x5DB), (0xFB4E, 0x5E4), (0x1109A, 0x11099), (0x1109C, 0x1109B), (0x110AB, 0x110A5),
  (0x1D15E, 0x1D157), (0x1D15F, 0x1D158), (0x1D160, 0x1D158), (0x1D161, 0x1D158),
  (0x1D162, 0x1D158), (0x1D163, 0x1D158), (0x1D164, 0x1D158), (0x1D1BB, 0x1D1B9),
  (0x1D1BC, 0x1D1BA), (0x1D1BD, 0x1D1B9), (0x1D1BE, 0x1D1BA), (0x1D1BF, 0x1D1B9),
  (0x1D1C0, 0x1D1BA), (0x2F800, 0x4E3D), (0x2F801, 0x4E38), (0x2F802, 0x4E41),
  (0x2F803, 0x20122), (0x2F804, 0x4F60), (0x2F805, 0x4FAE), (0x2F806, 0x4FBB), (0x2F807, 0x5002),
  (0x2F808, 0x507A), (0x2F809, 0x5099), (0x2F80A, 0x50E7), (0x2F80B, 0x50CF), (0x2F80C, 0x349E),
  (0x2F80D, 0x2063A), (0x2F80E, 0x514D), (0x2F80F, 0x5154), (0x2F810, 0x5164), (0x2F811, 0x5177),
  (0x2F812, 0x2051C), (0x2F813, 0x34B9), (0x2F814, 0x5167), (0x2F815, 0x518D),
  (0x2F816, 0x2054B), (0x2F817, 0x5197), (0x2F818, 0x51A4), (0x2F819, 0x4ECC), (0x2F81A, 0x51AC),
  (0x2F81B, 0x51B5), (0x2F81C, 0x291DF), (0x2F81D, 0x51F5), (0x2F81E, 0x5203), (0x2F81F, 0x34DF),
  (0x2F820, 0x523B), (0x2F821, 0x5246), (0x2F822, 0x5272), (0x2F823, 0x5277), (0x2F824, 0x3515),
  (0x2F825, 0x52C7), (0x2F826, 0x52C9), (0x2F827, 0x52E4), (0x2F828, 0x52FA), (0x2F829, 0x5305),
  (0x2F82A, 0x5306), (0x2F82B, 0x5317), (0x2F82C, 0x5349), (0x2F82D, 0x5351), (0x2F82E, 0x535A),
  (0x2F82F, 0x5373), (0x2F830, 0x537D), (0x2F831, 0x537F), (0x2F832, 0x537F), (0x2F833, 0x537F),
  (0x2F834, 0x20A2C), (0x2F835, 0x7070), (0x2F836, 0x53CA), (0x2F837, 0x53DF),
  (0x2F838, 0x20B63), (0x2F839, 0x53EB), (0x2F83A, 0x53F1), (0x2F83B, 0x5406), (0x2F83C, 0x549E),
  (0x2F83D, 0x5438), (0x2F83E, 0x5448), (0x2F83F, 0x5468), (0x2F840, 0x54A2), (0x2F841, 0x54F6),
  (0x2F842, 0x5510), (0x2F843, 0x5553), (0x2F844, 0x5563), (0x2F845, 0x5584), (0x2F846, 0x5584),
  (0x2F847, 0x5599), (0x2F848, 0x55AB), (0x2F849, 0x55B3), (0x2F84A, 0x55C2), (0x2F84B, 0x5716),
  (0x2F84C, 0x5606), (0x2F84D, 0x5717), (0x2F84E, 0x5651), (0x2F84F, 0x5674), (0x2F850, 0x5207),
  (0x2F851, 0x58EE), (0x2F852, 0x57CE), (0x2F853, 0x57F4), (0x2F854, 0x580D), (0x2F855, 0x578B),
  (0x2F856, 0x5832), (0x2F857, 0x5831), (0x2F858, 0x58AC), (0x2F859, 0x214E4), (0x2F85A, 0x58F2),
  (0x2F85B, 0x58F7), (0x2F85C, 0x5906), (0x2F85D, 0x591A), (0x2F85E, 0x5922), (0x2F85F, 0x5962),
  (0x2F860, 0x216A8), (0x2F861, 0x216EA), (0x2F862, 0x59EC), (0x2F863, 0x5A1B),
  (0x2F864, 0x5A27), (0x2F865, 0x59D8), (0x2F866, 0x5A66), (0x2F867, 0x36EE), (0x2F868, 0x36FC),
  (0x2F869, 0x5B08), (0x2F86A, 0x5B3E), (0x2F86B, 0x5B3E), (0x2F86C, 0x219C8), (0x2F86D, 0x5BC3),
  (0x2F86E, 0x5BD8), (0x2F86F, 0x5BE7), (0x2F870, 0x5BF3), (0x2F871, 0x21B18), (0x2F872, 0x5BFF),
  (0x2F873, 0x5C06), (0x2F874, 0x5F53), (0x2F875, 0x5C22), (0x2F876, 0x3781), (0x2F877, 0x5C60),
  (0x2F878, 0x5C6E), (0x2F879, 0x5CC0), (0x2F87A, 0x5C8D), (0x2F87B, 0x21DE4), (0x2F87C, 0x5D43),
  (0x2F87D, 0x21DE6), (0x2F87E, 0x5D6E), (0x2F87F, 0x5D6B), (0x2F880, 0x5D7C), (0x2F881, 0x5DE1),
  (0x2F882, 0x5DE2), (0x2F883, 0x382F), (0x2F884, 0x5DFD), (0x2F885, 0x5E28), (0x2F886, 0x5E3D),
  (0x2F887, 0x5E69), (0x2F888, 0x3862), (0x2F889, 0x22183), (0x2F88A, 0x387C), (0x2F88B, 0x5EB0),
  (0x2F88C, 0x5EB3), (0x2F88D, 0x5EB6), (0x2F88E, 0x5ECA), (0x2F88F, 0x2A392), (0x2F890, 0x5EFE),
  (0x2F891, 0x22331), (0x2F892, 0x22331), (0x2F893, 0x8201), (0x2F894, 0x5F22),
  (0x2F895, 0x5F22), (0x2F896, 0x38C7), (0x2F897, 0x232B8), (0x2F898, 0x261DA),
  (0x2F899, 0x5F62), (0x2F89A, 0x5F6B), (0x2F89B, 0x38E3), (0x2F89C, 0x5F9A), (0x2F89D, 0x5FCD),
  (0x2F89E, 0x5FD7), (0x2F89F, 0x5FF9), (0x2F8A0, 0x6081), (0x2F8A1, 0x393A), (0x2F8A2, 0x391C),
  (0x2F8A3, 0x6094), (0x2F8A4, 0x226D4), (0x2F8A5, 0x60C7), (0x2F8A6, 0x6148), (0x2F8A7, 0x614C),
  (0x2F8A8, 0x614E), (0x2F8A9, 0x614C), (0x2F8AA, 0x617A), (0x2F8AB, 0x618E), (0x2F8AC, 0x61B2),
  (0x2F8AD, 0x61A4), (0x2F8AE, 0x61AF), (0x2F8AF, 0x61DE), (0x2F8B0, 0x61F2), (0x2F8B1, 0x61F6),
  (0x2F8B2, 0x6210), (0x2F8B3, 0x621B), (0x2F8B4, 0x625D), (0x2F8B5, 0x62B1), (0x2F8B6, 0x62D4),
  (0x2F8B7, 0x6350), (0x2F8B8, 0x22B0C), (0x2F8B9, 0x633D), (0x2F8BA, 0x62FC), (0x2F8BB, 0x6368),
  (0x2F8BC, 0x6383), (0x2F8BD, 0x63E4), (0x2F8BE, 0x22BF1), (0x2F8BF, 0x6422), (0x2F8C0, 0x63C5),
  (0x2F8C1, 0x63A9), (0x2F8C2, 0x3A2E), (0x2F8C3, 0x6469), (0x2F8C4, 0x647E), (0x2F8C5, 0x649D),
  (0x2F8C6, 0x6477), (0x2F8C7, 0x3A6C), (0x2F8C8, 0x654F), (0x2F8C9, 0x656C), (0x2F8CA, 0x2300A),
  (0x2F8CB, 0x65E3), (0x2F8CC, 0x66F8), (0x2F8CD, 0x6649), (0x2F8CE, 0x3B19), (0x2F8CF, 0x6691),
  (0x2F8D0, 0x3B08), (0x2F8D1, 0x3AE4), (0x2F8D2, 0x5192), (0x2F8D3, 0x5195), (0x2F8D4, 0x6700),
  (0x2F8D5, 0x669C), (0x2F8D6, 0x80AD), (0x2F8D7, 0x43D9), (0x2F8D8, 0x6717), (0x2F8D9, 0x671B),
  (0x2F8DA, 0x6721), (0x2F8DB, 0x675E), (0x2F8DC, 0x6753), (0x2F8DD, 0x233C3), (0x2F8DE, 0x3B49),
  (0x2F8DF, 0x67FA), (0x2F8E0, 0x6785), (0x2F8E1, 0x6852), (0x2F8E2, 0x6885), (0x2F8E3, 0x2346D),
  (0x2F8E4, 0x688E), (0x2F8E5, 0x681F), (0x2F8E6, 0x6914), (0x2F8E7, 0x3B9D), (0x2F8E8, 0x6942),
  (0x2F8E9, 0x69A3), (0x2F8EA, 0x69EA), (0x2F8EB, 0x6AA8), (0x2F8EC, 0x236A3), (0x2F8ED, 0x6ADB),
  (0x2F8EE, 0x3C18), (0x2F8EF, 0x6B21), (0x2F8F0, 0x238A7), (0x2F8F1, 0x6B54), (0x2F8F2, 0x3C4E),
  (0x2F8F3, 0x6B72), (0x2F8F4, 0x6B9F), (0x2F8F5, 0x6BBA), (0x2F8F6, 0x6BBB), (0x2F8F7, 0x23A8D),
  (0x2F8F8, 0x21D0B), (0x2F8F9, 0x23AFA), (0x2F8FA, 0x6C4E), (0x2F8FB, 0x23CBC),
  (0x2F8FC, 0x6CBF), (0x2F8FD, 0x6CCD), (0x2F8FE, 0x6C67), (0x2F8FF, 0x6D16), (0x2F900, 0x6D3E),
  (0x2F901, 0x6D77), (0x2F902, 0x6D41), (0x2F903, 0x6D69), (0x2F904, 0x6D78), (0x2F905, 0x6D85),
  (0x2F906, 0x23D1E), (0x2F907, 0x6D34), (0x2F908, 0x6E2F), (0x2F909, 0x6E6E), (0x2F90A, 0x3D33),
  (0x2F90B, 0x6ECB), (0x2F90C, 0x6EC7), (0x2F90D, 0x23ED1), (0x2F90E, 0x6DF9), (0x2F90F, 0x6F6E),
  (0x2F910, 0x23F5E), (0x2F911, 0x23F8E), (0x2F912, 0x6FC6), (0x2F913, 0x7039),
  (0x2F914, 0x701E), (0x2F915, 0x701B), (0x2F916, 0x3D96), (0x2F917, 0x704A), (0x2F918, 0x707D),
  (0x2F919, 0x7077), (0x2F91A, 0x70AD), (0x2F91B, 0x20525), (0x2F91C, 0x7145),
  (0x2F91D, 0x24263), (0x2F91E, 0x719C), (0x2F91F, 0x243AB), (0x2F920, 0x7228),
  (0x2F921, 0x7235), (0x2F922, 0x7250), (0x2F923, 0x24608), (0x2F924, 0x7280), (0x2F925, 0x7295),
  (0x2F926, 0x24735), (0x2F927, 0x24814), (0x2F928, 0x737A), (0x2F929, 0x738B),
  (0x2F92A, 0x3EAC), (0x2F92B, 0x73A5), (0x2F92C, 0x3EB8), (0x2F92D, 0x3EB8), (0x2F92E, 0x7447),
  (0x2F92F, 0x745C), (0x2F930, 0x7471), (0x2F931, 0x7485), (0x2F932, 0x74CA), (0x2F933, 0x3F1B),
  (0x2F934, 0x7524), (0x2F935, 0x24C36), (0x2F936, 0x753E), (0x2F937, 0x24C92),
  (0x2F938, 0x7570), (0x2F939, 0x2219F), (0x2F93A, 0x7610), (0x2F93B, 0x24FA1),
  (0x2F93C, 0x24FB8), (0x2F93D, 0x25044), (0x2F93E, 0x3FFC), (0x2F93F, 0x4008),
  (0x2F940, 0x76F4), (0x2F941, 0x250F3), (0x2F942, 0x250F2), (0x2F943, 0x25119),
  (0x2F944, 0x25133), (0x2F945, 0x771E), (0x2F946, 0x771F), (0x2F947, 0x771F), (0x2F948, 0x774A),
  (0x2F949, 0x4039), (0x2F94A, 0x778B), (0x2F94B, 0x4046), (0x2F94C, 0x4096), (0x2F94D, 0x2541D),
  (0x2F94E, 0x784E), (0x2F94F, 0x788C), (0x2F950, 0x78CC), (0x2F951, 0x40E3), (0x2F952, 0x25626),
  (0x2F953, 0x7956), (0x2F954, 0x2569A), (0x2F955, 0x256C5), (0x2F956, 0x798F),
  (0x2F957, 0x79EB), (0x2F958, 0x412F), (0x2F959, 0x7A40), (0x2F95A, 0x7A4A), (0x2F95B, 0x7A4F),
  (0x2F95C, 0x2597C), (0x2F95D, 0x25AA7), (0x2F95E, 0x25AA7), (0x2F95F, 0x7AEE),
  (0x2F960, 0x4202), (0x2F961, 0x25BAB), (0x2F962, 0x7BC6), (0x2F963, 0x7BC9), (0x2F964, 0x4227),
  (0x2F965, 0x25C80), (0x2F966, 0x7CD2), (0x2F967, 0x42A0), (0x2F968, 0x7CE8), (0x2F969, 0x7CE3),
  (0x2F96A, 0x7D00), (0x2F96B, 0x25F86), (0x2F96C, 0x7D63), (0x2F96D, 0x4301), (0x2F96E, 0x7DC7),
  (0x2F96F, 0x7E02), (0x2F970, 0x7E45), (0x2F971, 0x4334), (0x2F972, 0x26228),
  (0x2F973, 0x26247), (0x2F974, 0x4359), (0x2F975, 0x262D9), (0x2F976, 0x7F7A),
  (0x2F977, 0x2633E), (0x2F978, 0x7F95), (0x2F979, 0x7FFA), (0x2F97A, 0x8005),
  (0x2F97B, 0x264DA), (0x2F97C, 0x26523), (0x2F97D, 0x8060), (0x2F97E, 0x265A8),
  (0x2F97F, 0x8070), (0x2F980, 0x2335F), (0x2F981, 0x43D5), (0x2F982, 0x80B2), (0x2F983, 0x8103),
  (0x2F984, 0x440B), (0x2F985, 0x813E), (0x2F986, 0x5AB5), (0x2F987, 0x267A7),
  (0x2F988, 0x267B5), (0x2F989, 0x23393), (0x2F98A, 0x2339C), (0x2F98B, 0x8201),
  (0x2F98C, 0x8204), (0x2F98D, 0x8F9E), (0x2F98E, 0x446B), (0x2F98F, 0x8291), (0x2F990, 0x828B),
  (0x2F991, 0x829D), (0x2F992, 0x52B3), (0x2F993, 0x82B1), (0x2F994, 0x82B3), (0x2F995, 0x82BD),
  (0x2F996, 0x82E6), (0x2F997, 0x26B3C), (0x2F998, 0x82E5), (0x2F999, 0x831D), (0x2F99A, 0x8363),
  (0x2F99B, 0x83AD), (0x2F99C, 0x8323), (0x2F99D, 0x83BD), (0x2F99E, 0x83E7), (0x2F99F, 0x8457),
  (0x2F9A0, 0x8353), (0x2F9A1, 0x83CA), (0x2F9A2, 0x83CC), (0x2F9A3, 0x83DC), (0x2F9A4, 0x26C36),
  (0x2F9A5, 0x26D6B), (0x2F9A6, 0x26CD5), (0x2F9A7, 0x452B), (0x2F9A8, 0x84F1),
  (0x2F9A9, 0x84F3), (0x2F9AA, 0x8516), (0x2F9AB, 0x273CA), (0x2F9AC, 0x8564),
  (0x2F9AD, 0x26F2C), (0x2F9AE, 0x455D), (0x2F9AF, 0x4561), (0x2F9B0, 0x26FB1),
  (0x2F9B1, 0x270D2), (0x2F9B2, 0x456B), (0x2F9B3, 0x8650), (0x2F9B4, 0x865C), (0x2F9B5, 0x8667),
  (0x2F9B6, 0x8669), (0x2F9B7, 0x86A9), (0x2F9B8, 0x8688), (0x2F9B9, 0x870E), (0x2F9BA, 0x86E2),
  (0x2F9BB, 0x8779), (0x2F9BC, 0x8728), (0x2F9BD, 0x876B), (0x2F9BE, 0x8786), (0x2F9BF, 0x45D7),
  (0x2F9C0, 0x87E1), (0x2F9C1, 0x8801), (0x2F9C2, 0x45F9), (0x2F9C3, 0x8860), (0x2F9C4, 0x8863),
  (0x2F9C5, 0x27667), (0x2F9C6, 0x88D7), (0x2F9C7, 0x88DE), (0x2F9C8, 0x4635), (0x2F9C9, 0x88FA),
  (0x2F9CA, 0x34BB), (0x2F9CB, 0x278AE), (0x2F9CC, 0x27966), (0x2F9CD, 0x46BE),
  (0x2F9CE, 0x46C7), (0x2F9CF, 0x8AA0), (0x2F9D0, 0x8AED), (0x2F9D1, 0x8B8A), (0x2F9D2, 0x8C55),
  (0x2F9D3, 0x27CA8), (0x2F9D4, 0x8CAB), (0x2F9D5, 0x8CC1), (0x2F9D6, 0x8D1B), (0x2F9D7, 0x8D77),
  (0x2F9D8, 0x27F2F), (0x2F9D9, 0x20804), (0x2F9DA, 0x8DCB), (0x2F9DB, 0x8DBC),
  (0x2F9DC, 0x8DF0), (0x2F9DD, 0x208DE), (0x2F9DE, 0x8ED4), (0x2F9DF, 0x8F38),
  (0x2F9E0, 0x285D2), (0x2F9E1, 0x285ED), (0x2F9E2, 0x9094), (0x2F9E3, 0x90F1),
  (0x2F9E4, 0x9111), (0x2F9E5, 0x2872E), (0x2F9E6, 0x911B), (0x2F9E7, 0x9238), (0x2F9E8, 0x92D7),
  (0x2F9E9, 0x92D8), (0x2F9EA, 0x927C), (0x2F9EB, 0x93F9), (0x2F9EC, 0x9415), (0x2F9ED, 0x28BFA),
  (0x2F9EE, 0x958B), (0x2F9EF, 0x4995), (0x2F9F0, 0x95B7), (0x2F9F1, 0x28D77), (0x2F9F2, 0x49E6),
  (0x2F9F3, 0x96C3), (0x2F9F4, 0x5DB2), (0x2F9F5, 0x9723), (0x2F9F6, 0x29145),
  (0x2F9F7, 0x2921A), (0x2F9F8, 0x4A6E), (0x2F9F9, 0x4A76), (0x2F9FA, 0x97E0),
  (0x2F9FB, 0x2940A), (0x2F9FC, 0x4AB2), (0x2F9FD, 0x29496), (0x2F9FE, 0x980B),
  (0x2F9FF, 0x980B), (0x2FA00, 0x9829), (0x2FA01, 0x295B6), (0x2FA02, 0x98E2), (0x2FA03, 0x4B33),
  (0x2FA04, 0x9929), (0x2FA05, 0x99A7), (0x2FA06, 0x99C2), (0x2FA07, 0x99FE), (0x2FA08, 0x4BCE),
  (0x2FA09, 0x29B30), (0x2FA0A, 0x9B12), (0x2FA0B, 0x9C40), (0x2FA0C, 0x9CFD), (0x2FA0D, 0x4CCE),
  (0x2FA0E, 0x4CED), (0x2FA0F, 0x9D67), (0x2FA10, 0x2A0CE), (0x2FA11, 0x4CF8),
  (0x2FA12, 0x2A105), (0x2FA13, 0x2A20E), (0x2FA14, 0x2A291), (0x2FA15, 0x9EBB),
  (0x2FA16, 0x4D56), (0x2FA17, 0x9EF9), (0x2FA18, 0x9EFE), (0x2FA19, 0x9F05), (0x2FA1A, 0x9F0F),
  (0x2FA1B, 0x9F16), (0x2FA1C, 0x9F3B), (0x2FA1D, 0x2A600)]

/-- The entry of the sorted table with key `n`, found by halving at most `fuel` times. -/
def lookupBase (n : Nat) : Nat → Nat → Nat → Option Nat
  | 0, _, _ => none
  | fuel + 1, lo, hi =>
    if lo < hi then
      let mid := (lo + hi) / 2
      let (key, base) := baseTable.getD mid (0, 0)
      if key == n then some base
      else if key < n then lookupBase n fuel (mid + 1) hi
      else lookupBase n fuel lo mid
    else none

/-- A precomposed syllable is a leading consonant, a vowel and, in most, a trailing consonant. -/
def hangulJamo (n : Nat) : List Char :=
  let s := n - 0xAC00
  let tail := s % 28
  [Char.ofNat (0x1100 + s / 588), Char.ofNat (0x1161 + s % 588 / 28)] ++
    if tail == 0 then [] else [Char.ofNat (0x11A7 + tail)]

def baseLetters (c : Char) : List Char :=
  let n := c.toNat
  if n < 0x80 then [c]
  else if 0xAC00 ≤ n && n ≤ 0xD7A3 then hangulJamo n
  else match lookupBase n (baseTable.size.log2 + 1) 0 baseTable.size with
    | some base => [Char.ofNat base]
    | none => if isMark c then [] else [c]

end Wikitext.Chars
