import Wikitext.Chars.Basic

/-!
# General categories

Every character has one of thirty general categories. The table lists the runs
of characters of one category: the first code point of each, times 32, plus the
number of its category. Where upper and lower case letters take turns the whole
stretch is one run, and so are code points that are not assigned.
-/

namespace Wikitext.Chars

/-- The short names of the categories by number. -/
def categoryNames : Array String := #[
  "Cn", "Cc", "Cf", "Co", "Cs", "Ll", "Lm", "Lo", "Lt", "Lu", "Mc", "Me", "Mn", "Nd", "Nl", "No",
  "Pc", "Pd", "Pe", "Pf", "Pi", "Po", "Ps", "Sc", "Sk", "Sm", "So", "Zl", "Zp", "Zs"
]

set_option maxRecDepth 20000 in
/-- The runs. Number 30 stands for upper case at even code points and lower case at odd ones,
number 31 for the reverse. -/
def categoryRuns : Array Nat := #[
  0x1, 0x41D, 0x435, 0x497, 0x4B5, 0x516, 0x532, 0x555, 0x579, 0x595, 0x5B1, 0x5D5, 0x60D, 0x755,
  0x799, 0x7F5, 0x829, 0xB76, 0xB95, 0xBB2, 0xBD8, 0xBF0, 0xC18, 0xC25, 0xF76, 0xF99, 0xFB2, 0xFD9,
  0xFE1, 0x141D, 0x1435, 0x1457, 0x14DA, 0x14F5, 0x1518, 0x153A, 0x1547, 0x1574, 0x1599, 0x15A2,
  0x15DA, 0x15F8, 0x161A, 0x1639, 0x164F, 0x1698, 0x16A5, 0x16D5, 0x1718, 0x172F, 0x1747, 0x1773,
  0x178F, 0x17F5, 0x1809, 0x1AF9, 0x1B09, 0x1BE5, 0x1EF9, 0x1F05, 0x201E, 0x26E5, 0x273F, 0x2905,
  0x295E, 0x2F09, 0x2F5F, 0x2FC5, 0x3029, 0x307E, 0x30C9, 0x3105, 0x3129, 0x3185, 0x31C9, 0x3245,
  0x3269, 0x32A5, 0x32C9, 0x3325, 0x3389, 0x33C5, 0x33E9, 0x343E, 0x34C9, 0x3505, 0x3529, 0x3545,
  0x3589, 0x35A5, 0x35C9, 0x3605, 0x3629, 0x369F, 0x36E9, 0x3725, 0x3767, 0x3789, 0x37A5, 0x3807,
  0x3889, 0x38A8, 0x38C5, 0x38E9, 0x3908, 0x3925, 0x3949, 0x3968, 0x399F, 0x3B85, 0x3BDE, 0x3DE5,
  0x3E29, 0x3E48, 0x3E7E, 0x3EC9, 0x3F3E, 0x4665, 0x4749, 0x4785, 0x47A9, 0x47E5, 0x4829, 0x4845,
  0x4869, 0x48FE, 0x49E5, 0x5287, 0x52A5, 0x5606, 0x5858, 0x58C6, 0x5A58, 0x5C06, 0x5CB8, 0x5D86,
  0x5DB8, 0x5DC6, 0x5DF8, 0x600C, 0x6E1E, 0x6E86, 0x6EB8, 0x6EC9, 0x6EE5, 0x6F00, 0x6F46, 0x6F65,
  0x6FD5, 0x6FE9, 0x7000, 0x7098, 0x70C9, 0x70F5, 0x7109, 0x7160, 0x7189, 0x71A0, 0x71C9, 0x7205,
  0x7229, 0x7440, 0x7469, 0x7585, 0x79E9, 0x7A05, 0x7A49, 0x7AA5, 0x7B1E, 0x7DE5, 0x7E89, 0x7EA5,
  0x7ED9, 0x7EE9, 0x7F05, 0x7F29, 0x7F65, 0x7FA9, 0x8605, 0x8C1E, 0x905A, 0x906C, 0x910B, 0x915E,
  0x9809, 0x985F, 0x99C5, 0x9A1E, 0xA600, 0xA629, 0xAAE0, 0xAB26, 0xAB55, 0xAC05, 0xB135, 0xB151,
  0xB160, 0xB1BA, 0xB1F7, 0xB200, 0xB22C, 0xB7D1, 0xB7EC, 0xB815, 0xB82C, 0xB875, 0xB88C, 0xB8D5,
  0xB8EC, 0xB900, 0xBA07, 0xBD60, 0xBDE7, 0xBE75, 0xBEA0, 0xC002, 0xC0D9, 0xC135, 0xC177, 0xC195,
  0xC1DA, 0xC20C, 0xC375, 0xC382, 0xC3B5, 0xC407, 0xC806, 0xC827, 0xC96C, 0xCC0D, 0xCD55, 0xCDC7,
  0xCE0C, 0xCE27, 0xDA95, 0xDAA7, 0xDACC, 0xDBA2, 0xDBDA, 0xDBEC, 0xDCA6, 0xDCEC, 0xDD3A, 0xDD4C,
  0xDDC7, 0xDE0D, 0xDF47, 0xDFBA, 0xDFE7, 0xE015, 0xE1C0, 0xE1E2, 0xE207, 0xE22C, 0xE247, 0xE60C,
  0xE960, 0xE9A7, 0xF4CC, 0xF627, 0xF640, 0xF80D, 0xF947, 0xFD6C, 0xFE86, 0xFEDA, 0xFEF5, 0xFF46,
  0xFF60, 0xFFAC, 0xFFD7, 0x10007, 0x102CC, 0x10346, 0x1036C, 0x10486, 0x104AC, 0x10506, 0x1052C,
  0x105C0, 0x10615, 0x107E0, 0x10807, 0x10B2C, 0x10B80, 0x10BD5, 0x10BE0, 0x10C07, 0x10D60, 0x10E07,
  0x11118, 0x11127, 0x111E0, 0x11202, 0x11240, 0x1130C, 0x11407, 0x11926, 0x1194C, 0x11C42, 0x11C6C,
  0x1206A, 0x12087, 0x1274C, 0x1276A, 0x1278C, 0x127A7, 0x127CA, 0x1282C, 0x1292A, 0x129AC, 0x129CA,
  0x12A07, 0x12A2C, 0x12B07, 0x12C4C, 0x12C95, 0x12CCD, 0x12E15, 0x12E26, 0x12E47, 0x1302C, 0x1304A,
  0x13080, 0x130A7, 0x131A0, 0x131E7, 0x13220, 0x13267, 0x13520, 0x13547, 0x13620, 0x13647, 0x13660,
  0x136C7, 0x13740, 0x1378C, 0x137A7, 0x137CA, 0x1382C, 0x138A0, 0x138EA, 0x13920, 0x1396A, 0x139AC,
  0x139C7, 0x139E0, 0x13AEA, 0x13B00, 0x13B87, 0x13BC0, 0x13BE7, 0x13C4C, 0x13C80, 0x13CCD, 0x13E07,
  0x13E57, 0x13E8F, 0x13F5A, 0x13F77, 0x13F87, 0x13FB5, 0x13FCC, 0x13FE0, 0x1402C, 0x1406A, 0x14080,
  0x140A7, 0x14160, 0x141E7, 0x14220, 0x14267, 0x14520, 0x14547, 0x14620, 0x14647, 0x14680, 0x146A7,
  0x146E0, 0x14707, 0x14740, 0x1478C, 0x147A0, 0x147CA, 0x1482C, 0x14860, 0x148EC, 0x14920, 0x1496C,
  0x149C0, 0x14A2C, 0x14A40, 0x14B27, 0x14BA0, 0x14BC7, 0x14BE0, 0x14CCD, 0x14E0C, 0x14E47, 0x14EAC,
  0x14ED5, 0x14EE0, 0x1502C, 0x1506A, 0x15080, 0x150A7, 0x151C0, 0x151E7, 0x15240, 0x15267, 0x15520,
  0x15547, 0x15620, 0x15647, 0x15680, 0x156A7, 0x15740, 0x1578C, 0x157A7, 0x157CA, 0x1582C, 0x158C0,
  0x158EC, 0x1592A, 0x15940, 0x1596A, 0x159AC, 0x159C0, 0x15A07, 0x15A20, 0x15C07, 0x15C4C, 0x15C80,
  0x15CCD, 0x15E15, 0x15E37, 0x15E40, 0x15F27, 0x15F4C, 0x16000, 0x1602C, 0x1604A, 0x16080, 0x160A7,
  0x161A0, 0x161E7, 0x16220, 0x16267, 0x16520, 0x16547, 0x16620, 0x16647, 0x16680, 0x166A7, 0x16740,
  0x1678C, 0x167A7, 0x167CA, 0x167EC, 0x1680A, 0x1682C, 0x168A0, 0x168EA, 0x16920, 0x1696A, 0x169AC,
  0x169C0, 0x16AAC, 0x16AEA, 0x16B00, 0x16B87, 0x16BC0, 0x16BE7, 0x16C4C, 0x16C80, 0x16CCD, 0x16E1A,
  0x16E27, 0x16E4F, 0x16F00, 0x1704C, 0x17067, 0x17080, 0x170A7, 0x17160, 0x171C7, 0x17220, 0x17247,
  0x172C0, 0x17327, 0x17360, 0x17387, 0x173A0, 0x173C7, 0x17400, 0x17467, 0x174A0, 0x17507, 0x17560,
  0x175C7, 0x17740, 0x177CA, 0x1780C, 0x1782A, 0x17860, 0x178CA, 0x17920, 0x1794A, 0x179AC, 0x179C0,
  0x17A07, 0x17A20, 0x17AEA, 0x17B00, 0x17CCD, 0x17E0F, 0x17E7A, 0x17F37, 0x17F5A, 0x17F60, 0x1800C,
  0x1802A, 0x1808C, 0x180A7, 0x181A0, 0x181C7, 0x18220, 0x18247, 0x18520, 0x18547, 0x18740, 0x1878C,
  0x187A7, 0x187CC, 0x1882A, 0x188A0, 0x188CC, 0x18920, 0x1894C, 0x189C0, 0x18AAC, 0x18AE0, 0x18B07,
  0x18B60, 0x18BA7, 0x18BC0, 0x18C07, 0x18C4C, 0x18C80, 0x18CCD, 0x18E00, 0x18EF5, 0x18F0F, 0x18FFA,
  0x19007, 0x1902C, 0x1904A, 0x19095, 0x190A7, 0x191A0, 0x191C7, 0x19220, 0x19247, 0x19520, 0x19547,
  0x19680, 0x196A7, 0x19740, 0x1978C, 0x197A7, 0x197CA, 0x197EC, 0x1980A, 0x198A0, 0x198CC, 0x198EA,
  0x19920, 0x1994A, 0x1998C, 0x199C0, 0x19AAA, 0x19AE0, 0x19BA7, 0x19BE0, 0x19C07, 0x19C4C, 0x19C80,
  0x19CCD, 0x19E00, 0x19E27, 0x19E6A, 0x19E80, 0x1A00C, 0x1A04A, 0x1A087, 0x1A1A0, 0x1A1C7, 0x1A220,
  0x1A247, 0x1A76C, 0x1A7A7, 0x1A7CA, 0x1A82C, 0x1A8A0, 0x1A8CA, 0x1A920, 0x1A94A, 0x1A9AC, 0x1A9C7,
  0x1A9FA, 0x1AA00, 0x1AA87, 0x1AAEA, 0x1AB0F, 0x1ABE7, 0x1AC4C, 0x1AC80, 0x1ACCD, 0x1AE0F, 0x1AF3A,
  0x1AF47, 0x1B000, 0x1B02C, 0x1B04A, 0x1B080, 0x1B0A7, 0x1B2E0, 0x1B347, 0x1B640, 0x1B667, 0x1B780,
  0x1B7A7, 0x1B7C0, 0x1B807, 0x1B8E0, 0x1B94C, 0x1B960, 0x1B9EA, 0x1BA4C, 0x1BAA0, 0x1BACC, 0x1BAE0,
  0x1BB0A, 0x1BC00, 0x1BCCD, 0x1BE00, 0x1BE4A, 0x1BE95, 0x1BEA0, 0x1C027, 0x1C62C, 0x1C647, 0x1C68C,
  0x1C760, 0x1C7F7, 0x1C807, 0x1C8C6, 0x1C8EC, 0x1C9F5, 0x1CA0D, 0x1CB55, 0x1CB80, 0x1D027, 0x1D060,
  0x1D087, 0x1D0A0, 0x1D0C7, 0x1D160, 0x1D187, 0x1D480, 0x1D4A7, 0x1D4C0, 0x1D4E7, 0x1D62C, 0x1D647,
  0x1D68C, 0x1D7A7, 0x1D7C0, 0x1D807, 0x1D8A0, 0x1D8C6, 0x1D8E0, 0x1D90C, 0x1D9E0, 0x1DA0D, 0x1DB40,
  0x1DB87, 0x1DC00, 0x1E007, 0x1E03A, 0x1E095, 0x1E27A, 0x1E295, 0x1E2BA, 0x1E30C, 0x1E35A, 0x1E40D,
  0x1E54F, 0x1E69A, 0x1E6AC, 0x1E6DA, 0x1E6EC, 0x1E71A, 0x1E72C, 0x1E756, 0x1E772, 0x1E796, 0x1E7B2,
  0x1E7CA, 0x1E807, 0x1E900, 0x1E927, 0x1EDA0, 0x1EE2C, 0x1EFEA, 0x1F00C, 0x1F0B5, 0x1F0CC, 0x1F107,
  0x1F1AC, 0x1F300, 0x1F32C, 0x1F7A0, 0x1F7DA, 0x1F8CC, 0x1F8FA, 0x1F9A0, 0x1F9DA, 0x1FA15, 0x1FABA,
  0x1FB35, 0x1FB60, 0x20007, 0x2056A, 0x205AC, 0x2062A, 0x2064C, 0x2070A, 0x2072C, 0x2076A, 0x207AC,
  0x207E7, 0x2080D, 0x20955, 0x20A07, 0x20ACA, 0x20B0C, 0x20B47, 0x20BCC, 0x20C27, 0x20C4A, 0x20CA7,
  0x20CEA, 0x20DC7, 0x20E2C, 0x20EA7, 0x2104C, 0x2106A, 0x210AC, 0x210EA, 0x211AC, 0x211C7, 0x211EA,
  0x2120D, 0x2134A, 0x213AC, 0x213DA, 0x21409, 0x218C0, 0x218E9, 0x21900, 0x219A9, 0x219C0, 0x21A05,
  0x21F75, 0x21F86, 0x21FA5, 0x22007, 0x24920, 0x24947, 0x249C0, 0x24A07, 0x24AE0, 0x24B07, 0x24B20,
  0x24B47, 0x24BC0, 0x24C07, 0x25120, 0x25147, 0x251C0, 0x25207, 0x25620, 0x25647, 0x256C0, 0x25707,
  0x257E0, 0x25807, 0x25820, 0x25847, 0x258C0, 0x25907, 0x25AE0, 0x25B07, 0x26220, 0x26247, 0x262C0,
  0x26307, 0x26B60, 0x26BAC, 0x26C15, 0x26D2F, 0x26FA0, 0x27007, 0x2721A, 0x27340, 0x27409, 0x27EC0,
  0x27F05, 0x27FC0, 0x28011, 0x28027, 0x2CDBA, 0x2CDD5, 0x2CDE7, 0x2D01D, 0x2D027, 0x2D376, 0x2D392,
  0x2D3A0, 0x2D407, 0x2DD75, 0x2DDCE, 0x2DE27, 0x2DF20, 0x2E007, 0x2E24C, 0x2E2AA, 0x2E2C0, 0x2E3E7,
  0x2E64C, 0x2E68A, 0x2E6B5, 0x2E6E0, 0x2E807, 0x2EA4C, 0x2EA80, 0x2EC07, 0x2EDA0, 0x2EDC7, 0x2EE20,
  0x2EE4C, 0x2EE80, 0x2F007, 0x2F68C, 0x2F6CA, 0x2F6EC, 0x2F7CA, 0x2F8CC, 0x2F8EA, 0x2F92C, 0x2FA95,
  0x2FAE6, 0x2FB15, 0x2FB77, 0x2FB87, 0x2FBAC, 0x2FBC0, 0x2FC0D, 0x2FD40, 0x2FE0F, 0x2FF40, 0x30015,
  0x300D1, 0x300F5, 0x3016C, 0x301C2, 0x301EC, 0x3020D, 0x30340, 0x30407, 0x30866, 0x30887, 0x30F20,
  0x31007, 0x310AC, 0x310E7, 0x3152C, 0x31547, 0x31560, 0x31607, 0x31EC0, 0x32007, 0x323E0, 0x3240C,
  0x3246A, 0x324EC, 0x3252A, 0x32580, 0x3260A, 0x3264C, 0x3266A, 0x3272C, 0x32780, 0x3281A, 0x32820,
  0x32895, 0x328CD, 0x32A07, 0x32DC0, 0x32E07, 0x32EA0, 0x33007, 0x33580, 0x33607, 0x33940, 0x33A0D,
  0x33B4F, 0x33B60, 0x33BDA, 0x34007, 0x342EC, 0x3432A, 0x3436C, 0x34380, 0x343D5, 0x34407, 0x34AAA,
  0x34ACC, 0x34AEA, 0x34B0C, 0x34BE0, 0x34C0C, 0x34C2A, 0x34C4C, 0x34C6A, 0x34CAC, 0x34DAA, 0x34E6C,
  0x34FA0, 0x34FEC, 0x3500D, 0x35140, 0x3520D, 0x35340, 0x35415, 0x354E6, 0x35515, 0x355C0, 0x3560C,
  0x357CB, 0x357EC, 0x359E0, 0x3600C, 0x3608A, 0x360A7, 0x3668C, 0x366AA, 0x366CC, 0x3676A, 0x3678C,
  0x367AA, 0x3684C, 0x3686A, 0x368A7, 0x369A0, 0x36A0D, 0x36B55, 0x36C3A, 0x36D6C, 0x36E9A, 0x36FB5,
  0x36FE0, 0x3700C, 0x3704A, 0x37067, 0x3742A, 0x3744C, 0x374CA, 0x3750C, 0x3754A, 0x3756C, 0x375C7,
  0x3760D, 0x37747, 0x37CCC, 0x37CEA, 0x37D0C, 0x37D4A, 0x37DAC, 0x37DCA, 0x37DEC, 0x37E4A, 0x37E80,
  0x37F95, 0x38007, 0x3848A, 0x3858C, 0x3868A, 0x386CC, 0x38700, 0x38775, 0x3880D, 0x38940, 0x389A7,
  0x38A0D, 0x38B47, 0x38F06, 0x38FD5, 0x39005, 0x39120, 0x39209, 0x39760, 0x397A9, 0x39815, 0x39900,
  0x39A0C, 0x39A75, 0x39A8C, 0x39C2A, 0x39C4C, 0x39D27, 0x39DAC, 0x39DC7, 0x39E8C, 0x39EA7, 0x39EEA,
  0x39F0C, 0x39F47, 0x39F60, 0x3A005, 0x3A586, 0x3AD65, 0x3AF06, 0x3AF25, 0x3B366, 0x3B80C, 0x3C01E,
  0x3D2A5, 0x3D3DE, 0x3DFE5, 0x3E109, 0x3E205, 0x3E2C0, 0x3E309, 0x3E3C0, 0x3E405, 0x3E509, 0x3E605,
  0x3E709, 0x3E805, 0x3E8C0, 0x3E909, 0x3E9C0, 0x3EA05, 0x3EB00, 0x3EB29, 0x3EB40, 0x3EB69, 0x3EB80,
  0x3EBA9, 0x3EBC0, 0x3EBE9, 0x3EC05, 0x3ED09, 0x3EE05, 0x3EFC0, 0x3F005, 0x3F108, 0x3F205, 0x3F308,
  0x3F405, 0x3F508, 0x3F605, 0x3F6A0, 0x3F6C5, 0x3F709, 0x3F788, 0x3F7B8, 0x3F7C5, 0x3F7F8, 0x3F845,
  0x3F8A0, 0x3F8C5, 0x3F909, 0x3F988, 0x3F9B8, 0x3FA05, 0x3FA80, 0x3FAC5, 0x3FB09, 0x3FB80, 0x3FBB8,
  0x3FC05, 0x3FD09, 0x3FDB8, 0x3FE00, 0x3FE45, 0x3FEA0, 0x3FEC5, 0x3FF09, 0x3FF88, 0x3FFB8, 0x3FFE0,
  0x4001D, 0x40162, 0x40211, 0x402D5, 0x40314, 0x40333, 0x40356, 0x40374, 0x403B3, 0x403D6, 0x403F4,
  0x40415, 0x4051B, 0x4053C, 0x40542, 0x405FD, 0x40615, 0x40734, 0x40753, 0x40775, 0x407F0, 0x40835,
  0x40899, 0x408B6, 0x408D2, 0x408F5, 0x40A59, 0x40A75, 0x40A90, 0x40AB5, 0x40BFD, 0x40C02, 0x40CA0,
  0x40CC2, 0x40E0F, 0x40E26, 0x40E40, 0x40E8F, 0x40F59, 0x40FB6, 0x40FD2, 0x40FE6, 0x4100F, 0x41159,
  0x411B6, 0x411D2, 0x411E0, 0x41206, 0x413A0, 0x41417, 0x41820, 0x41A0C, 0x41BAB, 0x41C2C, 0x41C4B,
  0x41CAC, 0x41E20, 0x4201A, 0x42049, 0x4207A, 0x420E9, 0x4211A, 0x42145, 0x42169, 0x421C5, 0x42209,
  0x42265, 0x4229A, 0x422A9, 0x422DA, 0x42319, 0x42329, 0x423DA, 0x42489, 0x424BA, 0x424C9, 0x424FA,
  0x42509, 0x4253A, 0x42549, 0x425DA, 0x425E5, 0x42609, 0x42685, 0x426A7, 0x42725, 0x4275A, 0x42785,
  0x427C9, 0x42819, 0x428A9, 0x428C5, 0x4295A, 0x42979, 0x4299A, 0x429C5, 0x429FA, 0x42A0F, 0x42C0E,
  0x43069, 0x43085, 0x430AE, 0x4312F, 0x4315A, 0x43180, 0x43219, 0x432BA, 0x43359, 0x4339A, 0x43419,
  0x4343A, 0x43479, 0x4349A, 0x434D9, 0x434FA, 0x435D9, 0x435FA, 0x439D9, 0x43A1A, 0x43A59, 0x43A7A,
  0x43A99, 0x43ABA, 0x43E99, 0x4601A, 0x46116, 0x46132, 0x46156, 0x46172, 0x4619A, 0x46419, 0x4645A,
  0x46536, 0x46552, 0x4657A, 0x46F99, 0x46FBA, 0x47379, 0x4769A, 0x47B99, 0x47C5A, 0x484E0, 0x4881A,
  0x48960, 0x48C0F, 0x4939A, 0x49D4F, 0x4A01A, 0x4B6F9, 0x4B71A, 0x4B839, 0x4B85A, 0x4BF19, 0x4C01A,
  0x4CDF9, 0x4CE1A, 0x4ED16, 0x4ED32, 0x4ED56, 0x4ED72, 0x4ED96, 0x4EDB2, 0x4EDD6, 0x4EDF2, 0x4EE16,
  0x4EE32, 0x4EE56, 0x4EE72, 0x4EE96, 0x4EEB2, 0x4EECF, 0x4F29A, 0x4F819, 0x4F8B6, 0x4F8D2, 0x4F8F9,
  0x4FCD6, 0x4FCF2, 0x4FD16, 0x4FD32, 0x4FD56, 0x4FD72, 0x4FD96, 0x4FDB2, 0x4FDD6, 0x4FDF2, 0x4FE19,
  0x5001A, 0x52019, 0x53076, 0x53092, 0x530B6, 0x530D2, 0x530F6, 0x53112, 0x53136, 0x53152, 0x53176,
  0x53192, 0x531B6, 0x531D2, 0x531F6, 0x53212, 0x53236, 0x53252, 0x53276, 0x53292, 0x532B6, 0x532D2,
  0x532F6, 0x53312, 0x53339, 0x53B16, 0x53B32, 0x53B56, 0x53B72, 0x53B99, 0x53F96, 0x53FB2, 0x53FD9,
  0x5601A, 0x56619, 0x568BA, 0x568F9, 0x569BA, 0x56E80, 0x56EDA, 0x572C0, 0x572FA, 0x58009, 0x58605,
  0x58C09, 0x58C25, 0x58C49, 0x58CA5, 0x58CFF, 0x58DA9, 0x58E25, 0x58E49, 0x58E65, 0x58EA9, 0x58EC5,
  0x58F86, 0x58FC9, 0x5903E, 0x59C65, 0x59CBA, 0x59D7F, 0x59DEC, 0x59E49, 0x59E65, 0x59E80, 0x59F35,
  0x59FAF, 0x59FD5, 0x5A005, 0x5A4C0, 0x5A4E5, 0x5A500, 0x5A5A5, 0x5A5C0, 0x5A607, 0x5AD00, 0x5ADE6,
  0x5AE15, 0x5AE20, 0x5AFEC, 0x5B007, 0x5B2E0, 0x5B407, 0x5B4E0, 0x5B507, 0x5B5E0, 0x5B607, 0x5B6E0,
  0x5B707, 0x5B7E0, 0x5B807, 0x5B8E0, 0x5B907, 0x5B9E0, 0x5BA07, 0x5BAE0, 0x5BB07, 0x5BBE0, 0x5BC0C,
  0x5C015, 0x5C054, 0x5C073, 0x5C094, 0x5C0B3, 0x5C0D5, 0x5C134, 0x5C153, 0x5C175, 0x5C194, 0x5C1B3,
  0x5C1D5, 0x5C2F1, 0x5C315, 0x5C351, 0x5C375, 0x5C394, 0x5C3B3, 0x5C3D5, 0x5C414, 0x5C433, 0x5C456,
  0x5C472, 0x5C496, 0x5C4B2, 0x5C4D6, 0x5C4F2, 0x5C516, 0x5C532, 0x5C555, 0x5C5E6, 0x5C615, 0x5C751,
  0x5C795, 0x5C811, 0x5C835, 0x5C856, 0x5C875, 0x5CA1A, 0x5CA55, 0x5CAB6, 0x5CAD2, 0x5CAF6, 0x5CB12,
  0x5CB36, 0x5CB52, 0x5CB76, 0x5CB92, 0x5CBB1, 0x5CBC0, 0x5D01A, 0x5D340, 0x5D37A, 0x5DE80, 0x5E01A,
  0x5FAC0, 0x5FE1A, 0x5FF80, 0x6001D, 0x60035, 0x6009A, 0x600A6, 0x600C7, 0x600EE, 0x60116, 0x60132,
  0x60156, 0x60172, 0x60196, 0x601B2, 0x601D6, 0x601F2, 0x60216, 0x60232, 0x6025A, 0x60296, 0x602B2,
  0x602D6, 0x602F2, 0x60316, 0x60332, 0x60356, 0x60372, 0x60391, 0x603B6, 0x603D2, 0x6041A, 0x6042E,
  0x6054C, 0x605CA, 0x60611, 0x60626, 0x606DA, 0x6070E, 0x60766, 0x60787, 0x607B5, 0x607DA, 0x60800,
  0x60827, 0x612E0, 0x6132C, 0x61378, 0x613A6, 0x613E7, 0x61411, 0x61427, 0x61F75, 0x61F86, 0x61FE7,
  0x62000, 0x620A7, 0x62600, 0x62627, 0x631E0, 0x6321A, 0x6324F, 0x632DA, 0x63407, 0x6381A, 0x63C80,
  0x63E07, 0x6401A, 0x643E0, 0x6440F, 0x6455A, 0x6490F, 0x64A1A, 0x64A2F, 0x64C1A, 0x6500F, 0x6515A,
  0x6562F, 0x6581A, 0x68007, 0x9B81A, 0x9C007, 0x1402A6, 0x1402C7, 0x1491A0, 0x14921A, 0x1498E0,
  0x149A07, 0x149F06, 0x149FD5, 0x14A007, 0x14C186, 0x14C1B5, 0x14C207, 0x14C40D, 0x14C547,
  0x14C580, 0x14C81E, 0x14CDC7, 0x14CDEC, 0x14CE0B, 0x14CE75, 0x14CE8C, 0x14CFD5, 0x14CFE6,
  0x14D01E, 0x14D386, 0x14D3CC, 0x14D407, 0x14DCCE, 0x14DE0C, 0x14DE55, 0x14DF00, 0x14E018,
  0x14E2E6, 0x14E418, 0x14E45E, 0x14E5E5, 0x14E65E, 0x14EE06, 0x14EE25, 0x14EF3F, 0x14EFA9,
  0x14EFFE, 0x14F106, 0x14F138, 0x14F17F, 0x14F1E7, 0x14F21E, 0x14F265, 0x14F2DE, 0x14F549,
  0x14F5E5, 0x14F609, 0x14F6BE, 0x14F889, 0x14F91F, 0x14F960, 0x14FA09, 0x14FA25, 0x14FA40,
  0x14FA65, 0x14FA80, 0x14FABE, 0x14FB40, 0x14FE46, 0x14FEA9, 0x14FEC5, 0x14FEE7, 0x14FF06,
  0x14FF45, 0x14FF67, 0x15004C, 0x150067, 0x1500CC, 0x1500E7, 0x15016C, 0x150187, 0x15046A,
  0x1504AC, 0x1504EA, 0x15051A, 0x15058C, 0x1505A0, 0x15060F, 0x1506DA, 0x150717, 0x15073A,
  0x150740, 0x150807, 0x150E95, 0x150F00, 0x15100A, 0x151047, 0x15168A, 0x15188C, 0x1518C0,
  0x1519D5, 0x151A0D, 0x151B40, 0x151C0C, 0x151E47, 0x151F15, 0x151F67, 0x151F95, 0x151FA7,
  0x151FEC, 0x15200D, 0x152147, 0x1524CC, 0x1525D5, 0x152607, 0x1528EC, 0x152A4A, 0x152A80,
  0x152BF5, 0x152C07, 0x152FA0, 0x15300C, 0x15306A, 0x153087, 0x15366C, 0x15368A, 0x1536CC,
  0x15374A, 0x15378C, 0x1537CA, 0x153835, 0x1539C0, 0x1539E6, 0x153A0D, 0x153B40, 0x153BD5,
  0x153C07, 0x153CAC, 0x153CC6, 0x153CE7, 0x153E0D, 0x153F47, 0x153FE0, 0x154007, 0x15452C,
  0x1545EA, 0x15462C, 0x15466A, 0x1546AC, 0x1546E0, 0x154807, 0x15486C, 0x154887, 0x15498C,
  0x1549AA, 0x1549C0, 0x154A0D, 0x154B40, 0x154B95, 0x154C07, 0x154E06, 0x154E27, 0x154EFA,
  0x154F47, 0x154F6A, 0x154F8C, 0x154FAA, 0x154FC7, 0x15560C, 0x155627, 0x15564C, 0x1556A7,
  0x1556EC, 0x155727, 0x1557CC, 0x155807, 0x15582C, 0x155847, 0x155860, 0x155B67, 0x155BA6,
  0x155BD5, 0x155C07, 0x155D6A, 0x155D8C, 0x155DCA, 0x155E15, 0x155E47, 0x155E66, 0x155EAA,
  0x155ECC, 0x155EE0, 0x156027, 0x1560E0, 0x156127, 0x1561E0, 0x156227, 0x1562E0, 0x156407,
  0x1564E0, 0x156507, 0x1565E0, 0x156605, 0x156B78, 0x156B86, 0x156C05, 0x156D26, 0x156D58,
  0x156D80, 0x156E05, 0x157807, 0x157C6A, 0x157CAC, 0x157CCA, 0x157D0C, 0x157D2A, 0x157D75,
  0x157D8A, 0x157DAC, 0x157DC0, 0x157E0D, 0x157F40, 0x158007, 0x1AF480, 0x1AF607, 0x1AF8E0,
  0x1AF967, 0x1AFF80, 0x1B0004, 0x1C0003, 0x1F2007, 0x1F4DC0, 0x1F4E07, 0x1F5B40, 0x1F6005,
  0x1F60E0, 0x1F6265, 0x1F6300, 0x1F63A7, 0x1F63CC, 0x1F63E7, 0x1F6539, 0x1F6547, 0x1F66E0,
  0x1F6707, 0x1F67A0, 0x1F67C7, 0x1F67E0, 0x1F6807, 0x1F6840, 0x1F6867, 0x1F68A0, 0x1F68C7,
  0x1F7658, 0x1F7860, 0x1F7A67, 0x1FA7D2, 0x1FA7F6, 0x1FA81A, 0x1FAA07, 0x1FB200, 0x1FB247,
  0x1FB900, 0x1FB9FA, 0x1FBA00, 0x1FBE07, 0x1FBF97, 0x1FBFBA, 0x1FC00C, 0x1FC215, 0x1FC2F6,
  0x1FC312, 0x1FC335, 0x1FC340, 0x1FC40C, 0x1FC615, 0x1FC631, 0x1FC670, 0x1FC6B6, 0x1FC6D2,
  0x1FC6F6, 0x1FC712, 0x1FC736, 0x1FC752, 0x1FC776, 0x1FC792, 0x1FC7B6, 0x1FC7D2, 0x1FC7F6,
  0x1FC812, 0x1FC836, 0x1FC852, 0x1FC876, 0x1FC892, 0x1FC8B5, 0x1FC8F6, 0x1FC912, 0x1FC935,
  0x1FC9B0, 0x1FCA15, 0x1FCA60, 0x1FCA95, 0x1FCB11, 0x1FCB36, 0x1FCB52, 0x1FCB76, 0x1FCB92,
  0x1FCBB6, 0x1FCBD2, 0x1FCBF5, 0x1FCC59, 0x1FCC71, 0x1FCC99, 0x1FCCE0, 0x1FCD15, 0x1FCD37,
  0x1FCD55, 0x1FCD80, 0x1FCE07, 0x1FCEA0, 0x1FCEC7, 0x1FDFA0, 0x1FDFE2, 0x1FE000, 0x1FE035,
  0x1FE097, 0x1FE0B5, 0x1FE116, 0x1FE132, 0x1FE155, 0x1FE179, 0x1FE195, 0x1FE1B1, 0x1FE1D5,
  0x1FE20D, 0x1FE355, 0x1FE399, 0x1FE3F5, 0x1FE429, 0x1FE776, 0x1FE795, 0x1FE7B2, 0x1FE7D8,
  0x1FE7F0, 0x1FE818, 0x1FE825, 0x1FEB76, 0x1FEB99, 0x1FEBB2, 0x1FEBD9, 0x1FEBF6, 0x1FEC12,
  0x1FEC35, 0x1FEC56, 0x1FEC72, 0x1FEC95, 0x1FECC7, 0x1FEE06, 0x1FEE27, 0x1FF3C6, 0x1FF407,
  0x1FF7E0, 0x1FF847, 0x1FF900, 0x1FF947, 0x1FFA00, 0x1FFA47, 0x1FFB00, 0x1FFB47, 0x1FFBA0,
  0x1FFC17, 0x1FFC59, 0x1FFC78, 0x1FFC9A, 0x1FFCB7, 0x1FFCE0, 0x1FFD1A, 0x1FFD39, 0x1FFDBA,
  0x1FFDE0, 0x1FFF22, 0x1FFF9A, 0x1FFFC0, 0x200007, 0x200180, 0x2001A7, 0x2004E0, 0x200507,
  0x200760, 0x200787, 0x2007C0, 0x2007E7, 0x2009C0, 0x200A07, 0x200BC0, 0x201007, 0x201F60,
  0x202015, 0x202060, 0x2020EF, 0x202680, 0x2026FA, 0x20280E, 0x202EAF, 0x202F3A, 0x20314F,
  0x20319A, 0x2031E0, 0x20321A, 0x2033A0, 0x20341A, 0x203420, 0x203A1A, 0x203FAC, 0x203FC0,
  0x205007, 0x2053A0, 0x205407, 0x205A20, 0x205C0C, 0x205C2F, 0x205F80, 0x206007, 0x20640F,
  0x206480, 0x2065A7, 0x20682E, 0x206847, 0x20694E, 0x206960, 0x206A07, 0x206ECC, 0x206F60,
  0x207007, 0x2073C0, 0x2073F5, 0x207407, 0x207880, 0x207907, 0x207A15, 0x207A2E, 0x207AC0,
  0x208009, 0x208505, 0x208A07, 0x2093C0, 0x20940D, 0x209540, 0x209609, 0x209A80, 0x209B05,
  0x209F80, 0x20A007, 0x20A500, 0x20A607, 0x20AC80, 0x20ADF5, 0x20AE09, 0x20AF60, 0x20AF89,
  0x20B160, 0x20B189, 0x20B260, 0x20B289, 0x20B2C0, 0x20B2E5, 0x20B440, 0x20B465, 0x20B640,
  0x20B665, 0x20B740, 0x20B765, 0x20B7A0, 0x20C007, 0x20E6E0, 0x20E807, 0x20EAC0, 0x20EC07,
  0x20ED00, 0x20F006, 0x20F0C0, 0x20F0E6, 0x20F620, 0x20F646, 0x20F760, 0x210007, 0x2100C0,
  0x210107, 0x210120, 0x210147, 0x2106C0, 0x2106E7, 0x210720, 0x210787, 0x2107A0, 0x2107E7,
  0x210AC0, 0x210AF5, 0x210B0F, 0x210C07, 0x210EFA, 0x210F2F, 0x211007, 0x2113E0, 0x2114EF,
  0x211600, 0x211C07, 0x211E60, 0x211E87, 0x211EC0, 0x211F6F, 0x212007, 0x2122CF, 0x212380,
  0x2123F5, 0x212407, 0x212740, 0x2127F5, 0x212800, 0x213007, 0x213700, 0x21378F, 0x2137C7,
  0x21380F, 0x213A00, 0x213A4F, 0x214007, 0x21402C, 0x214080, 0x2140AC, 0x2140E0, 0x21418C,
  0x214207, 0x214280, 0x2142A7, 0x214300, 0x214327, 0x2146C0, 0x21470C, 0x214760, 0x2147EC,
  0x21480F, 0x214920, 0x214A15, 0x214B20, 0x214C07, 0x214FAF, 0x214FF5, 0x215007, 0x2153AF,
  0x215400, 0x215807, 0x21591A, 0x215927, 0x215CAC, 0x215CE0, 0x215D6F, 0x215E15, 0x215EE0,
  0x216007, 0x2166C0, 0x216735, 0x216807, 0x216AC0, 0x216B0F, 0x216C07, 0x216E60, 0x216F0F,
  0x217007, 0x217240, 0x217335, 0x2173A0, 0x21752F, 0x217600, 0x218007, 0x218920, 0x219009,
  0x219660, 0x219805, 0x219E60, 0x219F4F, 0x21A007, 0x21A48C, 0x21A500, 0x21A60D, 0x21A740,
  0x21CC0F, 0x21CFE0, 0x21D007, 0x21D540, 0x21D56C, 0x21D5B1, 0x21D5C0, 0x21D607, 0x21D640,
  0x21DFAC, 0x21E007, 0x21E3AF, 0x21E4E7, 0x21E500, 0x21E607, 0x21E8CC, 0x21EA2F, 0x21EAB5,
  0x21EB40, 0x21EE07, 0x21F04C, 0x21F0D5, 0x21F140, 0x21F607, 0x21F8AF, 0x21F980, 0x21FC07,
  0x21FEE0, 0x22000A, 0x22002C, 0x22004A, 0x220067, 0x22070C, 0x2208F5, 0x2209C0, 0x220A4F,
  0x220CCD, 0x220E0C, 0x220E27, 0x220E6C, 0x220EA7, 0x220EC0, 0x220FEC, 0x22104A, 0x221067,
  0x22160A, 0x22166C, 0x2216EA, 0x22172C, 0x221775, 0x2217A2, 0x2217D5, 0x22184C, 0x221860,
  0x2219A2, 0x2219C0, 0x221A07, 0x221D20, 0x221E0D, 0x221F40, 0x22200C, 0x222067, 0x2224EC,
  0x22258A, 0x2225AC, 0x2226A0, 0x2226CD, 0x222815, 0x222887, 0x2228AA, 0x2228E7, 0x222900,
  0x222A07, 0x222E6C, 0x222E95, 0x222EC7, 0x222EE0, 0x22300C, 0x22304A, 0x223067, 0x22366A,
  0x2236CC, 0x2237EA, 0x223827, 0x2238B5, 0x22392C, 0x2239B5, 0x2239CA, 0x2239EC, 0x223A0D,
  0x223B47, 0x223B75, 0x223B87, 0x223BB5, 0x223C00, 0x223C2F, 0x223EA0, 0x224007, 0x224240,
  0x224267, 0x22458A, 0x2245EC, 0x22464A, 0x22468C, 0x2246AA, 0x2246CC, 0x224715, 0x2247CC,
  0x2247E7, 0x22482C, 0x224840, 0x225007, 0x2250E0, 0x225107, 0x225120, 0x225147, 0x2251C0,
  0x2251E7, 0x2253C0, 0x2253E7, 0x225535, 0x225540, 0x225607, 0x225BEC, 0x225C0A, 0x225C6C,
  0x225D60, 0x225E0D, 0x225F40, 0x22600C, 0x22604A, 0x226080, 0x2260A7, 0x2261A0, 0x2261E7,
  0x226220, 0x226267, 0x226520, 0x226547, 0x226620, 0x226647, 0x226680, 0x2266A7, 0x226740,
  0x22676C, 0x2267A7, 0x2267CA, 0x22680C, 0x22682A, 0x2268A0, 0x2268EA, 0x226920, 0x22696A,
  0x2269C0, 0x226A07, 0x226A20, 0x226AEA, 0x226B00, 0x226BA7, 0x226C4A, 0x226C80, 0x226CCC,
  0x226DA0, 0x226E0C, 0x226EA0, 0x228007, 0x2286AA, 0x22870C, 0x22880A, 0x22884C, 0x2288AA,
  0x2288CC, 0x2288E7, 0x228975, 0x228A0D, 0x228B55, 0x228B80, 0x228BB5, 0x228BCC, 0x228BE7,
  0x228C40, 0x229007, 0x22960A, 0x22966C, 0x22972A, 0x22974C, 0x22976A, 0x2297EC, 0x22982A,
  0x22984C, 0x229887, 0x2298D5, 0x2298E7, 0x229900, 0x229A0D, 0x229B40, 0x22B007, 0x22B5EA,
  0x22B64C, 0x22B6C0, 0x22B70A, 0x22B78C, 0x22B7CA, 0x22B7EC, 0x22B835, 0x22BB07, 0x22BB8C,
  0x22BBC0, 0x22C007, 0x22C60A, 0x22C66C, 0x22C76A, 0x22C7AC, 0x22C7CA, 0x22C7EC, 0x22C835,
  0x22C887, 0x22C8A0, 0x22CA0D, 0x22CB40, 0x22CC15, 0x22CDA0, 0x22D007, 0x22D56C, 0x22D58A,
  0x22D5AC, 0x22D5CA, 0x22D60C, 0x22D6CA, 0x22D6EC, 0x22D707, 0x22D735, 0x22D740, 0x22D80D,
  0x22D940, 0x22E007, 0x22E360, 0x22E3AC, 0x22E40A, 0x22E44C, 0x22E4CA, 0x22E4EC, 0x22E580,
  0x22E60D, 0x22E74F, 0x22E795, 0x22E7FA, 0x22E807, 0x22E8E0, 0x230007, 0x23058A, 0x2305EC,
  0x23070A, 0x23072C, 0x230775, 0x230780, 0x231409, 0x231805, 0x231C0D, 0x231D4F, 0x231E60,
  0x231FE7, 0x2320E0, 0x232127, 0x232140, 0x232187, 0x232280, 0x2322A7, 0x2322E0, 0x232307,
  0x23260A, 0x2326C0, 0x2326EA, 0x232720, 0x23276C, 0x2327AA, 0x2327CC, 0x2327E7, 0x23280A,
  0x232827, 0x23284A, 0x23286C, 0x232895, 0x2328E0, 0x232A0D, 0x232B40, 0x233407, 0x233500,
  0x233547, 0x233A2A, 0x233A8C, 0x233B00, 0x233B4C, 0x233B8A, 0x233C0C, 0x233C27, 0x233C55,
  0x233C67, 0x233C8A, 0x233CA0, 0x234007, 0x23402C, 0x234167, 0x23466C, 0x23472A, 0x234747,
  0x23476C, 0x2347F5, 0x2348EC, 0x234900, 0x234A07, 0x234A2C, 0x234AEA, 0x234B2C, 0x234B87,
  0x23514C, 0x2352EA, 0x23530C, 0x235355, 0x2353A7, 0x2353D5, 0x235460, 0x235607, 0x235F20,
  0x236015, 0x236140, 0x238007, 0x238120, 0x238147, 0x2385EA, 0x23860C, 0x2386E0, 0x23870C,
  0x2387CA, 0x2387EC, 0x238807, 0x238835, 0x2388C0, 0x238A0D, 0x238B4F, 0x238DA0, 0x238E15,
  0x238E47, 0x239200, 0x23924C, 0x239500, 0x23952A, 0x23954C, 0x23962A, 0x23964C, 0x23968A,
  0x2396AC, 0x2396E0, 0x23A007, 0x23A0E0, 0x23A107, 0x23A140, 0x23A167, 0x23A62C, 0x23A6E0,
  0x23A74C, 0x23A760, 0x23A78C, 0x23A7C0, 0x23A7EC, 0x23A8C7, 0x23A8EC, 0x23A900, 0x23AA0D,
  0x23AB40, 0x23AC07, 0x23ACC0, 0x23ACE7, 0x23AD20, 0x23AD47, 0x23B14A, 0x23B1E0, 0x23B20C,
  0x23B240, 0x23B26A, 0x23B2AC, 0x23B2CA, 0x23B2EC, 0x23B307, 0x23B320, 0x23B40D, 0x23B540,
  0x23DC07, 0x23DE6C, 0x23DEAA, 0x23DEF5, 0x23DF20, 0x23E00C, 0x23E047, 0x23E06A, 0x23E087,
  0x23E220, 0x23E247, 0x23E68A, 0x23E6CC, 0x23E760, 0x23E7CA, 0x23E80C, 0x23E82A, 0x23E84C,
  0x23E875, 0x23EA0D, 0x23EB40, 0x23F607, 0x23F620, 0x23F80F, 0x23FABA, 0x23FBB7, 0x23FC3A,
  0x23FE40, 0x23FFF5, 0x240007, 0x247340, 0x24800E, 0x248DE0, 0x248E15, 0x248EA0, 0x249007,
  0x24A880, 0x25F207, 0x25FE35, 0x25FE60, 0x260007, 0x268602, 0x26880C, 0x268827, 0x2688EC,
  0x268AC0, 0x288007, 0x28C8E0, 0x2D0007, 0x2D4720, 0x2D4807, 0x2D4BE0, 0x2D4C0D, 0x2D4D40,
  0x2D4DD5, 0x2D4E07, 0x2D57E0, 0x2D580D, 0x2D5940, 0x2D5A07, 0x2D5DC0, 0x2D5E0C, 0x2D5EB5,
  0x2D5EC0, 0x2D6007, 0x2D660C, 0x2D66F5, 0x2D679A, 0x2D6806, 0x2D6895, 0x2D68BA, 0x2D68C0,
  0x2D6A0D, 0x2D6B40, 0x2D6B6F, 0x2D6C40, 0x2D6C67, 0x2D6F00, 0x2D6FA7, 0x2D7200, 0x2DC809,
  0x2DCC05, 0x2DD00F, 0x2DD2F5, 0x2DD360, 0x2DE007, 0x2DE960, 0x2DE9EC, 0x2DEA07, 0x2DEA2A,
  0x2DF100, 0x2DF1EC, 0x2DF266, 0x2DF400, 0x2DFC06, 0x2DFC55, 0x2DFC66, 0x2DFC8C, 0x2DFCA0,
  0x2DFE0A, 0x2DFE40, 0x2E0007, 0x30FF00, 0x310007, 0x319AC0, 0x31A007, 0x31A120, 0x35FE06,
  0x35FE80, 0x35FEA6, 0x35FF80, 0x35FFA6, 0x35FFE0, 0x360007, 0x362460, 0x362647, 0x362660,
  0x362A07, 0x362A60, 0x362AA7, 0x362AC0, 0x362C87, 0x362D00, 0x362E07, 0x365F80, 0x378007,
  0x378D60, 0x378E07, 0x378FA0, 0x379007, 0x379120, 0x379207, 0x379340, 0x37939A, 0x3793AC,
  0x3793F5, 0x379402, 0x379480, 0x39E00C, 0x39E5C0, 0x39E60C, 0x39E8E0, 0x39EA1A, 0x39F880,
  0x3A001A, 0x3A1EC0, 0x3A201A, 0x3A24E0, 0x3A253A, 0x3A2CAA, 0x3A2CEC, 0x3A2D5A, 0x3A2DAA,
  0x3A2E62, 0x3A2F6C, 0x3A307A, 0x3A30AC, 0x3A319A, 0x3A354C, 0x3A35DA, 0x3A3D60, 0x3A401A,
  0x3A484C, 0x3A48BA, 0x3A48C0, 0x3A580F, 0x3A5A80, 0x3A5C0F, 0x3A5E80, 0x3A601A, 0x3A6AE0,
  0x3A6C0F, 0x3A6F20, 0x3A8009, 0x3A8345, 0x3A8689, 0x3A89C5, 0x3A8AA0, 0x3A8AC5, 0x3A8D09,
  0x3A9045, 0x3A9389, 0x3A93A0, 0x3A93C9, 0x3A9400, 0x3A9449, 0x3A9460, 0x3A94A9, 0x3A94E0,
  0x3A9529, 0x3A95A0, 0x3A95C9, 0x3A96C5, 0x3A9740, 0x3A9765, 0x3A9780, 0x3A97A5, 0x3A9880,
  0x3A98A5, 0x3A9A09, 0x3A9D45, 0x3AA089, 0x3AA0C0, 0x3AA0E9, 0x3AA160, 0x3AA1A9, 0x3AA2A0,
  0x3AA2C9, 0x3AA3A0, 0x3AA3C5, 0x3AA709, 0x3AA740, 0x3AA769, 0x3AA7E0, 0x3AA809, 0x3AA8A0,
  0x3AA8C9, 0x3AA8E0, 0x3AA949, 0x3AAA20, 0x3AAA45, 0x3AAD89, 0x3AB0C5, 0x3AB409, 0x3AB745,
  0x3ABA89, 0x3ABDC5, 0x3AC109, 0x3AC445, 0x3AC789, 0x3ACAC5, 0x3ACE09, 0x3AD145, 0x3AD4C0,
  0x3AD509, 0x3AD839, 0x3AD845, 0x3ADB79, 0x3ADB85, 0x3ADC49, 0x3ADF79, 0x3ADF85, 0x3AE2B9,
  0x3AE2C5, 0x3AE389, 0x3AE6B9, 0x3AE6C5, 0x3AE9F9, 0x3AEA05, 0x3AEAC9, 0x3AEDF9, 0x3AEE05,
  0x3AF139, 0x3AF145, 0x3AF209, 0x3AF539, 0x3AF545, 0x3AF879, 0x3AF885, 0x3AF949, 0x3AF965,
  0x3AF980, 0x3AF9CD, 0x3B001A, 0x3B400C, 0x3B46FA, 0x3B476C, 0x3B4DBA, 0x3B4EAC, 0x3B4EDA,
  0x3B508C, 0x3B50BA, 0x3B50F5, 0x3B5180, 0x3B536C, 0x3B5400, 0x3B542C, 0x3B5600, 0x3BE005,
  0x3BE147, 0x3BE165, 0x3BE3E0, 0x3BE4A5, 0x3BE560, 0x3C000C, 0x3C00E0, 0x3C010C, 0x3C0320,
  0x3C036C, 0x3C0440, 0x3C046C, 0x3C04A0, 0x3C04CC, 0x3C0560, 0x3C0606, 0x3C0DC0, 0x3C11EC,
  0x3C1200, 0x3C2007, 0x3C25A0, 0x3C260C, 0x3C26E6, 0x3C27C0, 0x3C280D, 0x3C2940, 0x3C29C7,
  0x3C29FA, 0x3C2A00, 0x3C5207, 0x3C55CC, 0x3C55E0, 0x3C5807, 0x3C5D8C, 0x3C5E0D, 0x3C5F40,
  0x3C5FF7, 0x3C6000, 0x3C9A07, 0x3C9D66, 0x3C9D8C, 0x3C9E0D, 0x3C9F40, 0x3CFC07, 0x3CFCE0,
  0x3CFD07, 0x3CFD80, 0x3CFDA7, 0x3CFDE0, 0x3CFE07, 0x3CFFE0, 0x3D0007, 0x3D18A0, 0x3D18EF,
  0x3D1A0C, 0x3D1AE0, 0x3D2009, 0x3D2445, 0x3D288C, 0x3D2966, 0x3D2980, 0x3D2A0D, 0x3D2B40,
  0x3D2BD5, 0x3D2C00, 0x3D8E2F, 0x3D959A, 0x3D95AF, 0x3D9617, 0x3D962F, 0x3D96A0, 0x3DA02F,
  0x3DA5DA, 0x3DA5EF, 0x3DA7C0, 0x3DC007, 0x3DC080, 0x3DC0A7, 0x3DC400, 0x3DC427, 0x3DC460,
  0x3DC487, 0x3DC4A0, 0x3DC4E7, 0x3DC500, 0x3DC527, 0x3DC660, 0x3DC687, 0x3DC700, 0x3DC727,
  0x3DC740, 0x3DC767, 0x3DC780, 0x3DC847, 0x3DC860, 0x3DC8E7, 0x3DC900, 0x3DC927, 0x3DC940,
  0x3DC967, 0x3DC980, 0x3DC9A7, 0x3DCA00, 0x3DCA27, 0x3DCA60, 0x3DCA87, 0x3DCAA0, 0x3DCAE7,
  0x3DCB00, 0x3DCB27, 0x3DCB40, 0x3DCB67, 0x3DCB80, 0x3DCBA7, 0x3DCBC0, 0x3DCBE7, 0x3DCC00,
  0x3DCC27, 0x3DCC60, 0x3DCC87, 0x3DCCA0, 0x3DCCE7, 0x3DCD60, 0x3DCD87, 0x3DCE60, 0x3DCE87,
  0x3DCF00, 0x3DCF27, 0x3DCFA0, 0x3DCFC7, 0x3DCFE0, 0x3DD007, 0x3DD140, 0x3DD167, 0x3DD380,
  0x3DD427, 0x3DD480, 0x3DD4A7, 0x3DD540, 0x3DD567, 0x3DD780, 0x3DDE19, 0x3DDE40, 0x3E001A,
  0x3E0580, 0x3E061A, 0x3E1280, 0x3E141A, 0x3E15E0, 0x3E163A, 0x3E1800, 0x3E183A, 0x3E1A00,
  0x3E1A3A, 0x3E1EC0, 0x3E200F, 0x3E21BA, 0x3E35C0, 0x3E3CDA, 0x3E4060, 0x3E421A, 0x3E4780,
  0x3E481A, 0x3E4920, 0x3E4A1A, 0x3E4A40, 0x3E4C1A, 0x3E4CC0, 0x3E601A, 0x3E7F78, 0x3E801A,
  0x3EDB00, 0x3EDB9A, 0x3EDDA0, 0x3EDE1A, 0x3EDFA0, 0x3EE01A, 0x3EEEE0, 0x3EEF7A, 0x3EFB40,
  0x3EFC1A, 0x3EFD80, 0x3EFE1A, 0x3EFE20, 0x3F001A, 0x3F0180, 0x3F021A, 0x3F0900, 0x3F0A1A,
  0x3F0B40, 0x3F0C1A, 0x3F1100, 0x3F121A, 0x3F15C0, 0x3F161A, 0x3F1640, 0x3F201A, 0x3F4A80,
  0x3F4C1A, 0x3F4DC0, 0x3F4E1A, 0x3F4FA0, 0x3F501A, 0x3F5120, 0x3F521A, 0x3F57C0, 0x3F57FA,
  0x3F58C0, 0x3F59DA, 0x3F5B80, 0x3F5C1A, 0x3F5D20, 0x3F5E1A, 0x3F5F20, 0x3F601A, 0x3F7260,
  0x3F729A, 0x3F7960, 0x3F7E0D, 0x3F7F40, 0x400007, 0x54DC00, 0x54E007, 0x56E740, 0x56E807,
  0x5703C0, 0x570407, 0x59D440, 0x59D607, 0x5D7C20, 0x5F0007, 0x5F43C0, 0x600007, 0x626960,
  0x626A07, 0x647600, 0x1C00022, 0x1C00040, 0x1C00402, 0x1C01000, 0x1C0200C, 0x1C03E00, 0x1E00003,
  0x1FFFFC0, 0x2000003, 0x21FFFC0
]

/-- The number of the category of a character. -/
def categoryNumber (c : Char) : Nat :=
  let n := c.toNat
  let steps := categoryRuns.size.log2 + 1
  let runs := Ranges.rank categoryRuns (32 * n + 31) steps 0 categoryRuns.size
  match categoryRuns.getD (runs - 1) 0 % 32 with
  | 30 => if n % 2 == 0 then 9 else 5
  | 31 => if n % 2 == 0 then 5 else 9
  | k => k

/-- The short name of the category of a character. -/
def category (c : Char) : String := categoryNames.getD (categoryNumber c) "Cn"

/-- Letters that are no lower case letters by category but count as such. -/
def otherLowerRanges : Ranges := ⟨#[
  0xAA, 0xAB, 0xBA, 0xBB, 0x2B0, 0x2B9, 0x2C0, 0x2C2, 0x2E0, 0x2E5, 0x345, 0x346, 0x37A, 0x37B,
  0x10FC, 0x10FD, 0x1D2C, 0x1D6B, 0x1D78, 0x1D79, 0x1D9B, 0x1DC0, 0x2071, 0x2072, 0x207F, 0x2080,
  0x2090, 0x209D, 0x2170, 0x2180, 0x24D0, 0x24EA, 0x2C7C, 0x2C7E, 0xA69C, 0xA69E, 0xA770, 0xA771,
  0xA7F2, 0xA7F5, 0xA7F8, 0xA7FA, 0xAB5C, 0xAB60, 0xAB69, 0xAB6A, 0x10780, 0x10781, 0x10783,
  0x10786, 0x10787, 0x107B1, 0x107B2, 0x107BB, 0x1E030, 0x1E06E
]⟩

/-- Characters that are no upper case letters by category but count as such. -/
def otherUpperRanges : Ranges := ⟨#[
  0x2160, 0x2170, 0x24B6, 0x24D0, 0x1F130, 0x1F14A, 0x1F150, 0x1F16A, 0x1F170, 0x1F18A
]⟩

def isLowercase (c : Char) : Bool := category c == "Ll" || otherLowerRanges.contains c

def isUppercase (c : Char) : Bool := category c == "Lu" || otherUpperRanges.contains c

end Wikitext.Chars
