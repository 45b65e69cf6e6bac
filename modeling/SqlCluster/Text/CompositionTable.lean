import SqlCluster.Text.Runs
/-!
Canonical composition: the combining classes, the characters that a composed text never holds, and
the pairs that compose.
-/
namespace SqlCluster.Text

def combiningRuns : List (Nat × Nat) := [
  (0x300, 230), (0x315, 232), (0x316, 220), (0x31A, 232), (0x31B, 216), (0x31C, 220), (0x321,
  202), (0x323, 220), (0x327, 202), (0x329, 220), (0x334, 1), (0x339, 220), (0x33D, 230), (0x345,
  240), (0x346, 230), (0x347, 220), (0x34A, 230), (0x34D, 220), (0x34F, 0), (0x350, 230), (0x353,
  220), (0x357, 230), (0x358, 232), (0x359, 220), (0x35B, 230), (0x35C, 233), (0x35D, 234),
  (0x35F, 233), (0x360, 234), (0x362, 233), (0x363, 230), (0x370, 0), (0x483, 230), (0x488, 0),
  (0x591, 220), (0x592, 230), (0x596, 220), (0x597, 230), (0x59A, 222), (0x59B, 220), (0x59C,
  230), (0x5A2, 220), (0x5A8, 230), (0x5AA, 220), (0x5AB, 230), (0x5AD, 222), (0x5AE, 228),
  (0x5AF, 230), (0x5B0, 10), (0x5B1, 11), (0x5B2, 12), (0x5B3, 13), (0x5B4, 14), (0x5B5, 15),
  (0x5B6, 16), (0x5B7, 17), (0x5B8, 18), (0x5B9, 19), (0x5BB, 20), (0x5BC, 21), (0x5BD, 22),
  (0x5BE, 0), (0x5BF, 23), (0x5C0, 0), (0x5C1, 24), (0x5C2, 25), (0x5C3, 0), (0x5C4, 230),
  (0x5C5, 220), (0x5C6, 0), (0x5C7, 18), (0x5C8, 0), (0x610, 230), (0x618, 30), (0x619, 31),
  (0x61A, 32), (0x61B, 0), (0x64B, 27), (0x64C, 28), (0x64D, 29), (0x64E, 30), (0x64F, 31),
  (0x650, 32), (0x651, 33), (0x652, 34), (0x653, 230), (0x655, 220), (0x657, 230), (0x65C, 220),
  (0x65D, 230), (0x65F, 220), (0x660, 0), (0x670, 35), (0x671, 0), (0x6D6, 230), (0x6DD, 0),
  (0x6DF, 230), (0x6E3, 220), (0x6E4, 230), (0x6E5, 0), (0x6E7, 230), (0x6E9, 0), (0x6EA, 220),
  (0x6EB, 230), (0x6ED, 220), (0x6EE, 0), (0x711, 36), (0x712, 0), (0x730, 230), (0x731, 220),
  (0x732, 230), (0x734, 220), (0x735, 230), (0x737, 220), (0x73A, 230), (0x73B, 220), (0x73D,
  230), (0x73E, 220), (0x73F, 230), (0x742, 220), (0x743, 230), (0x744, 220), (0x745, 230),
  (0x746, 220), (0x747, 230), (0x748, 220), (0x749, 230), (0x74B, 0), (0x7EB, 230), (0x7F2, 220),
  (0x7F3, 230), (0x7F4, 0), (0x7FD, 220), (0x7FE, 0), (0x816, 230), (0x81A, 0), (0x81B, 230),
  (0x824, 0), (0x825, 230), (0x828, 0), (0x829, 230), (0x82E, 0), (0x859, 220), (0x85C, 0),
  (0x898, 230), (0x899, 220), (0x89C, 230), (0x8A0, 0), (0x8CA, 230), (0x8CF, 220), (0x8D4, 230),
  (0x8E2, 0), (0x8E3, 220), (0x8E4, 230), (0x8E6, 220), (0x8E7, 230), (0x8E9, 220), (0x8EA, 230),
  (0x8ED, 220), (0x8F0, 27), (0x8F1, 28), (0x8F2, 29), (0x8F3, 230), (0x8F6, 220), (0x8F7, 230),
  (0x8F9, 220), (0x8FB, 230), (0x900, 0), (0x93C, 7), (0x93D, 0), (0x94D, 9), (0x94E, 0), (0x951,
  230), (0x952, 220), (0x953, 230), (0x955, 0), (0x9BC, 7), (0x9BD, 0), (0x9CD, 9), (0x9CE, 0),
  (0x9FE, 230), (0x9FF, 0), (0xA3C, 7), (0xA3D, 0), (0xA4D, 9), (0xA4E, 0), (0xABC, 7), (0xABD,
  0), (0xACD, 9), (0xACE, 0), (0xB3C, 7), (0xB3D, 0), (0xB4D, 9), (0xB4E, 0), (0xBCD, 9), (0xBCE,
  0), (0xC3C, 7), (0xC3D, 0), (0xC4D, 9), (0xC4E, 0), (0xC55, 84), (0xC56, 91), (0xC57, 0),
  (0xCBC, 7), (0xCBD, 0), (0xCCD, 9), (0xCCE, 0), (0xD3B, 9), (0xD3D, 0), (0xD4D, 9), (0xD4E, 0),
  (0xDCA, 9), (0xDCB, 0), (0xE38, 103), (0xE3A, 9), (0xE3B, 0), (0xE48, 107), (0xE4C, 0), (0xEB8,
  118), (0xEBA, 9), (0xEBB, 0), (0xEC8, 122), (0xECC, 0), (0xF18, 220), (0xF1A, 0), (0xF35, 220),
  (0xF36, 0), (0xF37, 220), (0xF38, 0), (0xF39, 216), (0xF3A, 0), (0xF71, 129), (0xF72, 130),
  (0xF73, 0), (0xF74, 132), (0xF75, 0), (0xF7A, 130), (0xF7E, 0), (0xF80, 130), (0xF81, 0),
  (0xF82, 230), (0xF84, 9), (0xF85, 0), (0xF86, 230), (0xF88, 0), (0xFC6, 220), (0xFC7, 0),
  (0x1037, 7), (0x1038, 0), (0x1039, 9), (0x103B, 0), (0x108D, 220), (0x108E, 0), (0x135D, 230),
  (0x1360, 0), (0x1714, 9), (0x1716, 0), (0x1734, 9), (0x1735, 0), (0x17D2, 9), (0x17D3, 0),
  (0x17DD, 230), (0x17DE, 0), (0x18A9, 228), (0x18AA, 0), (0x1939, 222), (0x193A, 230), (0x193B,
  220), (0x193C, 0), (0x1A17, 230), (0x1A18, 220), (0x1A19, 0), (0x1A60, 9), (0x1A61, 0),
  (0x1A75, 230), (0x1A7D, 0), (0x1A7F, 220), (0x1A80, 0), (0x1AB0, 230), (0x1AB5, 220), (0x1ABB,
  230), (0x1ABD, 220), (0x1ABE, 0), (0x1ABF, 220), (0x1AC1, 230), (0x1AC3, 220), (0x1AC5, 230),
  (0x1ACA, 220), (0x1ACB, 230), (0x1ACF, 0), (0x1B34, 7), (0x1B35, 0), (0x1B44, 9), (0x1B45, 0),
  (0x1B6B, 230), (0x1B6C, 220), (0x1B6D, 230), (0x1B74, 0), (0x1BAA, 9), (0x1BAC, 0), (0x1BE6,
  7), (0x1BE7, 0), (0x1BF2, 9), (0x1BF4, 0), (0x1C37, 7), (0x1C38, 0), (0x1CD0, 230), (0x1CD3,
  0), (0x1CD4, 1), (0x1CD5, 220), (0x1CDA, 230), (0x1CDC, 220), (0x1CE0, 230), (0x1CE1, 0),
  (0x1CE2, 1), (0x1CE9, 0), (0x1CED, 220), (0x1CEE, 0), (0x1CF4, 230), (0x1CF5, 0), (0x1CF8,
  230), (0x1CFA, 0), (0x1DC0, 230), (0x1DC2, 220), (0x1DC3, 230), (0x1DCA, 220), (0x1DCB, 230),
  (0x1DCD, 234), (0x1DCE, 214), (0x1DCF, 220), (0x1DD0, 202), (0x1DD1, 230), (0x1DF6, 232),
  (0x1DF7, 228), (0x1DF9, 220), (0x1DFA, 218), (0x1DFB, 230), (0x1DFC, 233), (0x1DFD, 220),
  (0x1DFE, 230), (0x1DFF, 220), (0x1E00, 0), (0x20D0, 230), (0x20D2, 1), (0x20D4, 230), (0x20D8,
  1), (0x20DB, 230), (0x20DD, 0), (0x20E1, 230), (0x20E2, 0), (0x20E5, 1), (0x20E7, 230),
  (0x20E8, 220), (0x20E9, 230), (0x20EA, 1), (0x20EC, 220), (0x20F0, 230), (0x20F1, 0), (0x2CEF,
  230), (0x2CF2, 0), (0x2D7F, 9), (0x2D80, 0), (0x2DE0, 230), (0x2E00, 0), (0x302A, 218),
  (0x302B, 228), (0x302C, 232), (0x302D, 222), (0x302E, 224), (0x3030, 0), (0x3099, 8), (0x309B,
  0), (0xA66F, 230), (0xA670, 0), (0xA674, 230), (0xA67E, 0), (0xA69E, 230), (0xA6A0, 0),
  (0xA6F0, 230), (0xA6F2, 0), (0xA806, 9), (0xA807, 0), (0xA82C, 9), (0xA82D, 0), (0xA8C4, 9),
  (0xA8C5, 0), (0xA8E0, 230), (0xA8F2, 0), (0xA92B, 220), (0xA92E, 0), (0xA953, 9), (0xA954, 0),
  (0xA9B3, 7), (0xA9B4, 0), (0xA9C0, 9), (0xA9C1, 0), (0xAAB0, 230), (0xAAB1, 0), (0xAAB2, 230),
  (0xAAB4, 220), (0xAAB5, 0), (0xAAB7, 230), (0xAAB9, 0), (0xAABE, 230), (0xAAC0, 0), (0xAAC1,
  230), (0xAAC2, 0), (0xAAF6, 9), (0xAAF7, 0), (0xABED, 9), (0xABEE, 0), (0xFB1E, 26), (0xFB1F,
  0), (0xFE20, 230), (0xFE27, 220), (0xFE2E, 230), (0xFE30, 0), (0x101FD, 220), (0x101FE, 0),
  (0x102E0, 220), (0x102E1, 0), (0x10376, 230), (0x1037B, 0), (0x10A0D, 220), (0x10A0E, 0),
  (0x10A0F, 230), (0x10A10, 0), (0x10A38, 230), (0x10A39, 1), (0x10A3A, 220), (0x10A3B, 0),
  (0x10A3F, 9), (0x10A40, 0), (0x10AE5, 230), (0x10AE6, 220), (0x10AE7, 0), (0x10D24, 230),
  (0x10D28, 0), (0x10EAB, 230), (0x10EAD, 0), (0x10F46, 220), (0x10F48, 230), (0x10F4B, 220),
  (0x10F4C, 230), (0x10F4D, 220), (0x10F51, 0), (0x10F82, 230), (0x10F83, 220), (0x10F84, 230),
  (0x10F85, 220), (0x10F86, 0), (0x11046, 9), (0x11047, 0), (0x11070, 9), (0x11071, 0), (0x1107F,
  9), (0x11080, 0), (0x110B9, 9), (0x110BA, 7), (0x110BB, 0), (0x11100, 230), (0x11103, 0),
  (0x11133, 9), (0x11135, 0), (0x11173, 7), (0x11174, 0), (0x111C0, 9), (0x111C1, 0), (0x111CA,
  7), (0x111CB, 0), (0x11235, 9), (0x11236, 7), (0x11237, 0), (0x112E9, 7), (0x112EA, 9),
  (0x112EB, 0), (0x1133B, 7), (0x1133D, 0), (0x1134D, 9), (0x1134E, 0), (0x11366, 230), (0x1136D,
  0), (0x11370, 230), (0x11375, 0), (0x11442, 9), (0x11443, 0), (0x11446, 7), (0x11447, 0),
  (0x1145E, 230), (0x1145F, 0), (0x114C2, 9), (0x114C3, 7), (0x114C4, 0), (0x115BF, 9), (0x115C0,
  7), (0x115C1, 0), (0x1163F, 9), (0x11640, 0), (0x116B6, 9), (0x116B7, 7), (0x116B8, 0),
  (0x1172B, 9), (0x1172C, 0), (0x11839, 9), (0x1183A, 7), (0x1183B, 0), (0x1193D, 9), (0x1193F,
  0), (0x11943, 7), (0x11944, 0), (0x119E0, 9), (0x119E1, 0), (0x11A34, 9), (0x11A35, 0),
  (0x11A47, 9), (0x11A48, 0), (0x11A99, 9), (0x11A9A, 0), (0x11C3F, 9), (0x11C40, 0), (0x11D42,
  7), (0x11D43, 0), (0x11D44, 9), (0x11D46, 0), (0x11D97, 9), (0x11D98, 0), (0x16AF0, 1),
  (0x16AF5, 0), (0x16B30, 230), (0x16B37, 0), (0x16FF0, 6), (0x16FF2, 0), (0x1BC9E, 1), (0x1BC9F,
  0), (0x1D165, 216), (0x1D167, 1), (0x1D16A, 0), (0x1D16D, 226), (0x1D16E, 216), (0x1D173, 0),
  (0x1D17B, 220), (0x1D183, 0), (0x1D185, 230), (0x1D18A, 220), (0x1D18C, 0), (0x1D1AA, 230),
  (0x1D1AE, 0), (0x1D242, 230), (0x1D245, 0), (0x1E000, 230), (0x1E007, 0), (0x1E008, 230),
  (0x1E019, 0), (0x1E01B, 230), (0x1E022, 0), (0x1E023, 230), (0x1E025, 0), (0x1E026, 230),
  (0x1E02B, 0), (0x1E130, 230), (0x1E137, 0), (0x1E2AE, 230), (0x1E2AF, 0), (0x1E2EC, 230),
  (0x1E2F0, 0), (0x1E8D0, 220), (0x1E8D7, 0), (0x1E944, 230), (0x1E94A, 7), (0x1E94B, 0)]

def uncomposedBounds : List Nat := [
  0x340, 0x342, 0x343, 0x345, 0x374, 0x375, 0x37E, 0x37F, 0x387, 0x388, 0x958, 0x960, 0x9DC,
  0x9DE, 0x9DF, 0x9E0, 0xA33, 0xA34, 0xA36, 0xA37, 0xA59, 0xA5C, 0xA5E, 0xA5F, 0xB5C, 0xB5E,
  0xF43, 0xF44, 0xF4D, 0xF4E, 0xF52, 0xF53, 0xF57, 0xF58, 0xF5C, 0xF5D, 0xF69, 0xF6A, 0xF73,
  0xF74, 0xF75, 0xF77, 0xF78, 0xF79, 0xF81, 0xF82, 0xF93, 0xF94, 0xF9D, 0xF9E, 0xFA2, 0xFA3,
  0xFA7, 0xFA8, 0xFAC, 0xFAD, 0xFB9, 0xFBA, 0x1F71, 0x1F72, 0x1F73, 0x1F74, 0x1F75, 0x1F76,
  0x1F77, 0x1F78, 0x1F79, 0x1F7A, 0x1F7B, 0x1F7C, 0x1F7D, 0x1F7E, 0x1FBB, 0x1FBC, 0x1FBE, 0x1FBF,
  0x1FC9, 0x1FCA, 0x1FCB, 0x1FCC, 0x1FD3, 0x1FD4, 0x1FDB, 0x1FDC, 0x1FE3, 0x1FE4, 0x1FEB, 0x1FEC,
  0x1FEE, 0x1FF0, 0x1FF9, 0x1FFA, 0x1FFB, 0x1FFC, 0x1FFD, 0x1FFE, 0x2000, 0x2002, 0x2126, 0x2127,
  0x212A, 0x212C, 0x2329, 0x232B, 0x2ADC, 0x2ADD, 0xF900, 0xFA0E, 0xFA10, 0xFA11, 0xFA12, 0xFA13,
  0xFA15, 0xFA1F, 0xFA20, 0xFA21, 0xFA22, 0xFA23, 0xFA25, 0xFA27, 0xFA2A, 0xFA6E, 0xFA70, 0xFADA,
  0xFB1D, 0xFB1E, 0xFB1F, 0xFB20, 0xFB2A, 0xFB37, 0xFB38, 0xFB3D, 0xFB3E, 0xFB3F, 0xFB40, 0xFB42,
  0xFB43, 0xFB45, 0xFB46, 0xFB4F, 0x1D15E, 0x1D165, 0x1D1BB, 0x1D1C1, 0x2F800, 0x2FA1E]

def composites : List (Nat × Nat × Nat) := [
  (192, 65, 0x300), (193, 65, 0x301), (194, 65, 0x302), (195, 65, 0x303), (196, 65, 0x308), (197,
  65, 0x30A), (199, 67, 0x327), (200, 69, 0x300), (201, 69, 0x301), (202, 69, 0x302), (203, 69,
  0x308), (204, 73, 0x300), (205, 73, 0x301), (206, 73, 0x302), (207, 73, 0x308), (209, 78,
  0x303), (210, 79, 0x300), (211, 79, 0x301), (212, 79, 0x302), (213, 79, 0x303), (214, 79,
  0x308), (217, 85, 0x300), (218, 85, 0x301), (219, 85, 0x302), (220, 85, 0x308), (221, 89,
  0x301), (224, 97, 0x300), (225, 97, 0x301), (226, 97, 0x302), (227, 97, 0x303), (228, 97,
  0x308), (229, 97, 0x30A), (231, 99, 0x327), (232, 101, 0x300), (233, 101, 0x301), (234, 101,
  0x302), (235, 101, 0x308), (236, 105, 0x300), (237, 105, 0x301), (238, 105, 0x302), (239, 105,
  0x308), (241, 110, 0x303), (242, 111, 0x300), (243, 111, 0x301), (244, 111, 0x302), (245, 111,
  0x303), (246, 111, 0x308), (249, 117, 0x300), (250, 117, 0x301), (251, 117, 0x302), (252, 117,
  0x308), (253, 121, 0x301), (255, 121, 0x308), (0x100, 65, 0x304), (0x101, 97, 0x304), (0x102,
  65, 0x306), (0x103, 97, 0x306), (0x104, 65, 0x328), (0x105, 97, 0x328), (0x106, 67, 0x301),
  (0x107, 99, 0x301), (0x108, 67, 0x302), (0x109, 99, 0x302), (0x10A, 67, 0x307), (0x10B, 99,
  0x307), (0x10C, 67, 0x30C), (0x10D, 99, 0x30C), (0x10E, 68, 0x30C), (0x10F, 100, 0x30C),
  (0x112, 69, 0x304), (0x113, 101, 0x304), (0x114, 69, 0x306), (0x115, 101, 0x306), (0x116, 69,
  0x307), (0x117, 101, 0x307), (0x118, 69, 0x328), (0x119, 101, 0x328), (0x11A, 69, 0x30C),
  (0x11B, 101, 0x30C), (0x11C, 71, 0x302), (0x11D, 103, 0x302), (0x11E, 71, 0x306), (0x11F, 103,
  0x306), (0x120, 71, 0x307), (0x121, 103, 0x307), (0x122, 71, 0x327), (0x123, 103, 0x327),
  (0x124, 72, 0x302), (0x125, 104, 0x302), (0x128, 73, 0x303), (0x129, 105, 0x303), (0x12A, 73,
  0x304), (0x12B, 105, 0x304), (0x12C, 73, 0x306), (0x12D, 105, 0x306), (0x12E, 73, 0x328),
  (0x12F, 105, 0x328), (0x130, 73, 0x307), (0x134, 74, 0x302), (0x135, 106, 0x302), (0x136, 75,
  0x327), (0x137, 107, 0x327), (0x139, 76, 0x301), (0x13A, 108, 0x301), (0x13B, 76, 0x327),
  (0x13C, 108, 0x327), (0x13D, 76, 0x30C), (0x13E, 108, 0x30C), (0x143, 78, 0x301), (0x144, 110,
  0x301), (0x145, 78, 0x327), (0x146, 110, 0x327), (0x147, 78, 0x30C), (0x148, 110, 0x30C),
  (0x14C, 79, 0x304), (0x14D, 111, 0x304), (0x14E, 79, 0x306), (0x14F, 111, 0x306), (0x150, 79,
  0x30B), (0x151, 111, 0x30B), (0x154, 82, 0x301), (0x155, 114, 0x301), (0x156, 82, 0x327),
  (0x157, 114, 0x327), (0x158, 82, 0x30C), (0x159, 114, 0x30C), (0x15A, 83, 0x301), (0x15B, 115,
  0x301), (0x15C, 83, 0x302), (0x15D, 115, 0x302), (0x15E, 83, 0x327), (0x15F, 115, 0x327),
  (0x160, 83, 0x30C), (0x161, 115, 0x30C), (0x162, 84, 0x327), (0x163, 116, 0x327), (0x164, 84,
  0x30C), (0x165, 116, 0x30C), (0x168, 85, 0x303), (0x169, 117, 0x303), (0x16A, 85, 0x304),
  (0x16B, 117, 0x304), (0x16C, 85, 0x306), (0x16D, 117, 0x306), (0x16E, 85, 0x30A), (0x16F, 117,
  0x30A), (0x170, 85, 0x30B), (0x171, 117, 0x30B), (0x172, 85, 0x328), (0x173, 117, 0x328),
  (0x174, 87, 0x302), (0x175, 119, 0x302), (0x176, 89, 0x302), (0x177, 121, 0x302), (0x178, 89,
  0x308), (0x179, 90, 0x301), (0x17A, 122, 0x301), (0x17B, 90, 0x307), (0x17C, 122, 0x307),
  (0x17D, 90, 0x30C), (0x17E, 122, 0x30C), (0x1A0, 79, 0x31B), (0x1A1, 111, 0x31B), (0x1AF, 85,
  0x31B), (0x1B0, 117, 0x31B), (0x1CD, 65, 0x30C), (0x1CE, 97, 0x30C), (0x1CF, 73, 0x30C),
  (0x1D0, 105, 0x30C), (0x1D1, 79, 0x30C), (0x1D2, 111, 0x30C), (0x1D3, 85, 0x30C), (0x1D4, 117,
  0x30C), (0x1D5, 220, 0x304), (0x1D6, 252, 0x304), (0x1D7, 220, 0x301), (0x1D8, 252, 0x301),
  (0x1D9, 220, 0x30C), (0x1DA, 252, 0x30C), (0x1DB, 220, 0x300), (0x1DC, 252, 0x300), (0x1DE,
  196, 0x304), (0x1DF, 228, 0x304), (0x1E0, 0x226, 0x304), (0x1E1, 0x227, 0x304), (0x1E2, 198,
  0x304), (0x1E3, 230, 0x304), (0x1E6, 71, 0x30C), (0x1E7, 103, 0x30C), (0x1E8, 75, 0x30C),
  (0x1E9, 107, 0x30C), (0x1EA, 79, 0x328), (0x1EB, 111, 0x328), (0x1EC, 0x1EA, 0x304), (0x1ED,
  0x1EB, 0x304), (0x1EE, 0x1B7, 0x30C), (0x1EF, 0x292, 0x30C), (0x1F0, 106, 0x30C), (0x1F4, 71,
  0x301), (0x1F5, 103, 0x301), (0x1F8, 78, 0x300), (0x1F9, 110, 0x300), (0x1FA, 197, 0x301),
  (0x1FB, 229, 0x301), (0x1FC, 198, 0x301), (0x1FD, 230, 0x301), (0x1FE, 216, 0x301), (0x1FF,
  248, 0x301), (0x200, 65, 0x30F), (0x201, 97, 0x30F), (0x202, 65, 0x311), (0x203, 97, 0x311),
  (0x204, 69, 0x30F), (0x205, 101, 0x30F), (0x206, 69, 0x311), (0x207, 101, 0x311), (0x208, 73,
  0x30F), (0x209, 105, 0x30F), (0x20A, 73, 0x311), (0x20B, 105, 0x311), (0x20C, 79, 0x30F),
  (0x20D, 111, 0x30F), (0x20E, 79, 0x311), (0x20F, 111, 0x311), (0x210, 82, 0x30F), (0x211, 114,
  0x30F), (0x212, 82, 0x311), (0x213, 114, 0x311), (0x214, 85, 0x30F), (0x215, 117, 0x30F),
  (0x216, 85, 0x311), (0x217, 117, 0x311), (0x218, 83, 0x326), (0x219, 115, 0x326), (0x21A, 84,
  0x326), (0x21B, 116, 0x326), (0x21E, 72, 0x30C), (0x21F, 104, 0x30C), (0x226, 65, 0x307),
  (0x227, 97, 0x307), (0x228, 69, 0x327), (0x229, 101, 0x327), (0x22A, 214, 0x304), (0x22B, 246,
  0x304), (0x22C, 213, 0x304), (0x22D, 245, 0x304), (0x22E, 79, 0x307), (0x22F, 111, 0x307),
  (0x230, 0x22E, 0x304), (0x231, 0x22F, 0x304), (0x232, 89, 0x304), (0x233, 121, 0x304), (0x385,
  168, 0x301), (0x386, 0x391, 0x301), (0x388, 0x395, 0x301), (0x389, 0x397, 0x301), (0x38A,
  0x399, 0x301), (0x38C, 0x39F, 0x301), (0x38E, 0x3A5, 0x301), (0x38F, 0x3A9, 0x301), (0x390,
  0x3CA, 0x301), (0x3AA, 0x399, 0x308), (0x3AB, 0x3A5, 0x308), (0x3AC, 0x3B1, 0x301), (0x3AD,
  0x3B5, 0x301), (0x3AE, 0x3B7, 0x301), (0x3AF, 0x3B9, 0x301), (0x3B0, 0x3CB, 0x301), (0x3CA,
  0x3B9, 0x308), (0x3CB, 0x3C5, 0x308), (0x3CC, 0x3BF, 0x301), (0x3CD, 0x3C5, 0x301), (0x3CE,
  0x3C9, 0x301), (0x3D3, 0x3D2, 0x301), (0x3D4, 0x3D2, 0x308), (0x400, 0x415, 0x300), (0x401,
  0x415, 0x308), (0x403, 0x413, 0x301), (0x407, 0x406, 0x308), (0x40C, 0x41A, 0x301), (0x40D,
  0x418, 0x300), (0x40E, 0x423, 0x306), (0x419, 0x418, 0x306), (0x439, 0x438, 0x306), (0x450,
  0x435, 0x300), (0x451, 0x435, 0x308), (0x453, 0x433, 0x301), (0x457, 0x456, 0x308), (0x45C,
  0x43A, 0x301), (0x45D, 0x438, 0x300), (0x45E, 0x443, 0x306), (0x476, 0x474, 0x30F), (0x477,
  0x475, 0x30F), (0x4C1, 0x416, 0x306), (0x4C2, 0x436, 0x306), (0x4D0, 0x410, 0x306), (0x4D1,
  0x430, 0x306), (0x4D2, 0x410, 0x308), (0x4D3, 0x430, 0x308), (0x4D6, 0x415, 0x306), (0x4D7,
  0x435, 0x306), (0x4DA, 0x4D8, 0x308), (0x4DB, 0x4D9, 0x308), (0x4DC, 0x416, 0x308), (0x4DD,
  0x436, 0x308), (0x4DE, 0x417, 0x308), (0x4DF, 0x437, 0x308), (0x4E2, 0x418, 0x304), (0x4E3,
  0x438, 0x304), (0x4E4, 0x418, 0x308), (0x4E5, 0x438, 0x308), (0x4E6, 0x41E, 0x308), (0x4E7,
  0x43E, 0x308), (0x4EA, 0x4E8, 0x308), (0x4EB, 0x4E9, 0x308), (0x4EC, 0x42D, 0x308), (0x4ED,
  0x44D, 0x308), (0x4EE, 0x423, 0x304), (0x4EF, 0x443, 0x304), (0x4F0, 0x423, 0x308), (0x4F1,
  0x443, 0x308), (0x4F2, 0x423, 0x30B), (0x4F3, 0x443, 0x30B), (0x4F4, 0x427, 0x308), (0x4F5,
  0x447, 0x308), (0x4F8, 0x42B, 0x308), (0x4F9, 0x44B, 0x308), (0x622, 0x627, 0x653), (0x623,
  0x627, 0x654), (0x624, 0x648, 0x654), (0x625, 0x627, 0x655), (0x626, 0x64A, 0x654), (0x6C0,
  0x6D5, 0x654), (0x6C2, 0x6C1, 0x654), (0x6D3, 0x6D2, 0x654), (0x929, 0x928, 0x93C), (0x931,
  0x930, 0x93C), (0x934, 0x933, 0x93C), (0x9CB, 0x9C7, 0x9BE), (0x9CC, 0x9C7, 0x9D7), (0xB48,
  0xB47, 0xB56), (0xB4B, 0xB47, 0xB3E), (0xB4C, 0xB47, 0xB57), (0xB94, 0xB92, 0xBD7), (0xBCA,
  0xBC6, 0xBBE), (0xBCB, 0xBC7, 0xBBE), (0xBCC, 0xBC6, 0xBD7), (0xC48, 0xC46, 0xC56), (0xCC0,
  0xCBF, 0xCD5), (0xCC7, 0xCC6, 0xCD5), (0xCC8, 0xCC6, 0xCD6), (0xCCA, 0xCC6, 0xCC2), (0xCCB,
  0xCCA, 0xCD5), (0xD4A, 0xD46, 0xD3E), (0xD4B, 0xD47, 0xD3E), (0xD4C, 0xD46, 0xD57), (0xDDA,
  0xDD9, 0xDCA), (0xDDC, 0xDD9, 0xDCF), (0xDDD, 0xDDC, 0xDCA), (0xDDE, 0xDD9, 0xDDF), (0x1026,
  0x1025, 0x102E), (0x1B06, 0x1B05, 0x1B35), (0x1B08, 0x1B07, 0x1B35), (0x1B0A, 0x1B09, 0x1B35),
  (0x1B0C, 0x1B0B, 0x1B35), (0x1B0E, 0x1B0D, 0x1B35), (0x1B12, 0x1B11, 0x1B35), (0x1B3B, 0x1B3A,
  0x1B35), (0x1B3D, 0x1B3C, 0x1B35), (0x1B40, 0x1B3E, 0x1B35), (0x1B41, 0x1B3F, 0x1B35), (0x1B43,
  0x1B42, 0x1B35), (0x1E00, 65, 0x325), (0x1E01, 97, 0x325), (0x1E02, 66, 0x307), (0x1E03, 98,
  0x307), (0x1E04, 66, 0x323), (0x1E05, 98, 0x323), (0x1E06, 66, 0x331), (0x1E07, 98, 0x331),
  (0x1E08, 199, 0x301), (0x1E09, 231, 0x301), (0x1E0A, 68, 0x307), (0x1E0B, 100, 0x307), (0x1E0C,
  68, 0x323), (0x1E0D, 100, 0x323), (0x1E0E, 68, 0x331), (0x1E0F, 100, 0x331), (0x1E10, 68,
  0x327), (0x1E11, 100, 0x327), (0x1E12, 68, 0x32D), (0x1E13, 100, 0x32D), (0x1E14, 0x112,
  0x300), (0x1E15, 0x113, 0x300), (0x1E16, 0x112, 0x301), (0x1E17, 0x113, 0x301), (0x1E18, 69,
  0x32D), (0x1E19, 101, 0x32D), (0x1E1A, 69, 0x330), (0x1E1B, 101, 0x330), (0x1E1C, 0x228,
  0x306), (0x1E1D, 0x229, 0x306), (0x1E1E, 70, 0x307), (0x1E1F, 102, 0x307), (0x1E20, 71, 0x304),
  (0x1E21, 103, 0x304), (0x1E22, 72, 0x307), (0x1E23, 104, 0x307), (0x1E24, 72, 0x323), (0x1E25,
  104, 0x323), (0x1E26, 72, 0x308), (0x1E27, 104, 0x308), (0x1E28, 72, 0x327), (0x1E29, 104,
  0x327), (0x1E2A, 72, 0x32E), (0x1E2B, 104, 0x32E), (0x1E2C, 73, 0x330), (0x1E2D, 105, 0x330),
  (0x1E2E, 207, 0x301), (0x1E2F, 239, 0x301), (0x1E30, 75, 0x301), (0x1E31, 107, 0x301), (0x1E32,
  75, 0x323), (0x1E33, 107, 0x323), (0x1E34, 75, 0x331), (0x1E35, 107, 0x331), (0x1E36, 76,
  0x323), (0x1E37, 108, 0x323), (0x1E38, 0x1E36, 0x304), (0x1E39, 0x1E37, 0x304), (0x1E3A, 76,
  0x331), (0x1E3B, 108, 0x331), (0x1E3C, 76, 0x32D), (0x1E3D, 108, 0x32D), (0x1E3E, 77, 0x301),
  (0x1E3F, 109, 0x301), (0x1E40, 77, 0x307), (0x1E41, 109, 0x307), (0x1E42, 77, 0x323), (0x1E43,
  109, 0x323), (0x1E44, 78, 0x307), (0x1E45, 110, 0x307), (0x1E46, 78, 0x323), (0x1E47, 110,
  0x323), (0x1E48, 78, 0x331), (0x1E49, 110, 0x331), (0x1E4A, 78, 0x32D), (0x1E4B, 110, 0x32D),
  (0x1E4C, 213, 0x301), (0x1E4D, 245, 0x301), (0x1E4E, 213, 0x308), (0x1E4F, 245, 0x308),
  (0x1E50, 0x14C, 0x300), (0x1E51, 0x14D, 0x300), (0x1E52, 0x14C, 0x301), (0x1E53, 0x14D, 0x301),
  (0x1E54, 80, 0x301), (0x1E55, 112, 0x301), (0x1E56, 80, 0x307), (0x1E57, 112, 0x307), (0x1E58,
  82, 0x307), (0x1E59, 114, 0x307), (0x1E5A, 82, 0x323), (0x1E5B, 114, 0x323), (0x1E5C, 0x1E5A,
  0x304), (0x1E5D, 0x1E5B, 0x304), (0x1E5E, 82, 0x331), (0x1E5F, 114, 0x331), (0x1E60, 83,
  0x307), (0x1E61, 115, 0x307), (0x1E62, 83, 0x323), (0x1E63, 115, 0x323), (0x1E64, 0x15A,
  0x307), (0x1E65, 0x15B, 0x307), (0x1E66, 0x160, 0x307), (0x1E67, 0x161, 0x307), (0x1E68,
  0x1E62, 0x307), (0x1E69, 0x1E63, 0x307), (0x1E6A, 84, 0x307), (0x1E6B, 116, 0x307), (0x1E6C,
  84, 0x323), (0x1E6D, 116, 0x323), (0x1E6E, 84, 0x331), (0x1E6F, 116, 0x331), (0x1E70, 84,
  0x32D), (0x1E71, 116, 0x32D), (0x1E72, 85, 0x324), (0x1E73, 117, 0x324), (0x1E74, 85, 0x330),
  (0x1E75, 117, 0x330), (0x1E76, 85, 0x32D), (0x1E77, 117, 0x32D), (0x1E78, 0x168, 0x301),
  (0x1E79, 0x169, 0x301), (0x1E7A, 0x16A, 0x308), (0x1E7B, 0x16B, 0x308), (0x1E7C, 86, 0x303),
  (0x1E7D, 118, 0x303), (0x1E7E, 86, 0x323), (0x1E7F, 118, 0x323), (0x1E80, 87, 0x300), (0x1E81,
  119, 0x300), (0x1E82, 87, 0x301), (0x1E83, 119, 0x301), (0x1E84, 87, 0x308), (0x1E85, 119,
  0x308), (0x1E86, 87, 0x307), (0x1E87, 119, 0x307), (0x1E88, 87, 0x323), (0x1E89, 119, 0x323),
  (0x1E8A, 88, 0x307), (0x1E8B, 120, 0x307), (0x1E8C, 88, 0x308), (0x1E8D, 120, 0x308), (0x1E8E,
  89, 0x307), (0x1E8F, 121, 0x307), (0x1E90, 90, 0x302), (0x1E91, 122, 0x302), (0x1E92, 90,
  0x323), (0x1E93, 122, 0x323), (0x1E94, 90, 0x331), (0x1E95, 122, 0x331), (0x1E96, 104, 0x331),
  (0x1E97, 116, 0x308), (0x1E98, 119, 0x30A), (0x1E99, 121, 0x30A), (0x1E9B, 0x17F, 0x307),
  (0x1EA0, 65, 0x323), (0x1EA1, 97, 0x323), (0x1EA2, 65, 0x309), (0x1EA3, 97, 0x309), (0x1EA4,
  194, 0x301), (0x1EA5, 226, 0x301), (0x1EA6, 194, 0x300), (0x1EA7, 226, 0x300), (0x1EA8, 194,
  0x309), (0x1EA9, 226, 0x309), (0x1EAA, 194, 0x303), (0x1EAB, 226, 0x303), (0x1EAC, 0x1EA0,
  0x302), (0x1EAD, 0x1EA1, 0x302), (0x1EAE, 0x102, 0x301), (0x1EAF, 0x103, 0x301), (0x1EB0,
  0x102, 0x300), (0x1EB1, 0x103, 0x300), (0x1EB2, 0x102, 0x309), (0x1EB3, 0x103, 0x309), (0x1EB4,
  0x102, 0x303), (0x1EB5, 0x103, 0x303), (0x1EB6, 0x1EA0, 0x306), (0x1EB7, 0x1EA1, 0x306),
  (0x1EB8, 69, 0x323), (0x1EB9, 101, 0x323), (0x1EBA, 69, 0x309), (0x1EBB, 101, 0x309), (0x1EBC,
  69, 0x303), (0x1EBD, 101, 0x303), (0x1EBE, 202, 0x301), (0x1EBF, 234, 0x301), (0x1EC0, 202,
  0x300), (0x1EC1, 234, 0x300), (0x1EC2, 202, 0x309), (0x1EC3, 234, 0x309), (0x1EC4, 202, 0x303),
  (0x1EC5, 234, 0x303), (0x1EC6, 0x1EB8, 0x302), (0x1EC7, 0x1EB9, 0x302), (0x1EC8, 73, 0x309),
  (0x1EC9, 105, 0x309), (0x1ECA, 73, 0x323), (0x1ECB, 105, 0x323), (0x1ECC, 79, 0x323), (0x1ECD,
  111, 0x323), (0x1ECE, 79, 0x309), (0x1ECF, 111, 0x309), (0x1ED0, 212, 0x301), (0x1ED1, 244,
  0x301), (0x1ED2, 212, 0x300), (0x1ED3, 244, 0x300), (0x1ED4, 212, 0x309), (0x1ED5, 244, 0x309),
  (0x1ED6, 212, 0x303), (0x1ED7, 244, 0x303), (0x1ED8, 0x1ECC, 0x302), (0x1ED9, 0x1ECD, 0x302),
  (0x1EDA, 0x1A0, 0x301), (0x1EDB, 0x1A1, 0x301), (0x1EDC, 0x1A0, 0x300), (0x1EDD, 0x1A1, 0x300),
  (0x1EDE, 0x1A0, 0x309), (0x1EDF, 0x1A1, 0x309), (0x1EE0, 0x1A0, 0x303), (0x1EE1, 0x1A1, 0x303),
  (0x1EE2, 0x1A0, 0x323), (0x1EE3, 0x1A1, 0x323), (0x1EE4, 85, 0x323), (0x1EE5, 117, 0x323),
  (0x1EE6, 85, 0x309), (0x1EE7, 117, 0x309), (0x1EE8, 0x1AF, 0x301), (0x1EE9, 0x1B0, 0x301),
  (0x1EEA, 0x1AF, 0x300), (0x1EEB, 0x1B0, 0x300), (0x1EEC, 0x1AF, 0x309), (0x1EED, 0x1B0, 0x309),
  (0x1EEE, 0x1AF, 0x303), (0x1EEF, 0x1B0, 0x303), (0x1EF0, 0x1AF, 0x323), (0x1EF1, 0x1B0, 0x323),
  (0x1EF2, 89, 0x300), (0x1EF3, 121, 0x300), (0x1EF4, 89, 0x323), (0x1EF5, 121, 0x323), (0x1EF6,
  89, 0x309), (0x1EF7, 121, 0x309), (0x1EF8, 89, 0x303), (0x1EF9, 121, 0x303), (0x1F00, 0x3B1,
  0x313), (0x1F01, 0x3B1, 0x314), (0x1F02, 0x1F00, 0x300), (0x1F03, 0x1F01, 0x300), (0x1F04,
  0x1F00, 0x301), (0x1F05, 0x1F01, 0x301), (0x1F06, 0x1F00, 0x342), (0x1F07, 0x1F01, 0x342),
  (0x1F08, 0x391, 0x313), (0x1F09, 0x391, 0x314), (0x1F0A, 0x1F08, 0x300), (0x1F0B, 0x1F09,
  0x300), (0x1F0C, 0x1F08, 0x301), (0x1F0D, 0x1F09, 0x301), (0x1F0E, 0x1F08, 0x342), (0x1F0F,
  0x1F09, 0x342), (0x1F10, 0x3B5, 0x313), (0x1F11, 0x3B5, 0x314), (0x1F12, 0x1F10, 0x300),
  (0x1F13, 0x1F11, 0x300), (0x1F14, 0x1F10, 0x301), (0x1F15, 0x1F11, 0x301), (0x1F18, 0x395,
  0x313), (0x1F19, 0x395, 0x314), (0x1F1A, 0x1F18, 0x300), (0x1F1B, 0x1F19, 0x300), (0x1F1C,
  0x1F18, 0x301), (0x1F1D, 0x1F19, 0x301), (0x1F20, 0x3B7, 0x313), (0x1F21, 0x3B7, 0x314),
  (0x1F22, 0x1F20, 0x300), (0x1F23, 0x1F21, 0x300), (0x1F24, 0x1F20, 0x301), (0x1F25, 0x1F21,
  0x301), (0x1F26, 0x1F20, 0x342), (0x1F27, 0x1F21, 0x342), (0x1F28, 0x397, 0x313), (0x1F29,
  0x397, 0x314), (0x1F2A, 0x1F28, 0x300), (0x1F2B, 0x1F29, 0x300), (0x1F2C, 0x1F28, 0x301),
  (0x1F2D, 0x1F29, 0x301), (0x1F2E, 0x1F28, 0x342), (0x1F2F, 0x1F29, 0x342), (0x1F30, 0x3B9,
  0x313), (0x1F31, 0x3B9, 0x314), (0x1F32, 0x1F30, 0x300), (0x1F33, 0x1F31, 0x300), (0x1F34,
  0x1F30, 0x301), (0x1F35, 0x1F31, 0x301), (0x1F36, 0x1F30, 0x342), (0x1F37, 0x1F31, 0x342),
  (0x1F38, 0x399, 0x313), (0x1F39, 0x399, 0x314), (0x1F3A, 0x1F38, 0x300), (0x1F3B, 0x1F39,
  0x300), (0x1F3C, 0x1F38, 0x301), (0x1F3D, 0x1F39, 0x301), (0x1F3E, 0x1F38, 0x342), (0x1F3F,
  0x1F39, 0x342), (0x1F40, 0x3BF, 0x313), (0x1F41, 0x3BF, 0x314), (0x1F42, 0x1F40, 0x300),
  (0x1F43, 0x1F41, 0x300), (0x1F44, 0x1F40, 0x301), (0x1F45, 0x1F41, 0x301), (0x1F48, 0x39F,
  0x313), (0x1F49, 0x39F, 0x314), (0x1F4A, 0x1F48, 0x300), (0x1F4B, 0x1F49, 0x300), (0x1F4C,
  0x1F48, 0x301), (0x1F4D, 0x1F49, 0x301), (0x1F50, 0x3C5, 0x313), (0x1F51, 0x3C5, 0x314),
  (0x1F52, 0x1F50, 0x300), (0x1F53, 0x1F51, 0x300), (0x1F54, 0x1F50, 0x301), (0x1F55, 0x1F51,
  0x301), (0x1F56, 0x1F50, 0x342), (0x1F57, 0x1F51, 0x342), (0x1F59, 0x3A5, 0x314), (0x1F5B,
  0x1F59, 0x300), (0x1F5D, 0x1F59, 0x301), (0x1F5F, 0x1F59, 0x342), (0x1F60, 0x3C9, 0x313),
  (0x1F61, 0x3C9, 0x314), (0x1F62, 0x1F60, 0x300), (0x1F63, 0x1F61, 0x300), (0x1F64, 0x1F60,
  0x301), (0x1F65, 0x1F61, 0x301), (0x1F66, 0x1F60, 0x342), (0x1F67, 0x1F61, 0x342), (0x1F68,
  0x3A9, 0x313), (0x1F69, 0x3A9, 0x314), (0x1F6A, 0x1F68, 0x300), (0x1F6B, 0x1F69, 0x300),
  (0x1F6C, 0x1F68, 0x301), (0x1F6D, 0x1F69, 0x301), (0x1F6E, 0x1F68, 0x342), (0x1F6F, 0x1F69,
  0x342), (0x1F70, 0x3B1, 0x300), (0x1F72, 0x3B5, 0x300), (0x1F74, 0x3B7, 0x300), (0x1F76, 0x3B9,
  0x300), (0x1F78, 0x3BF, 0x300), (0x1F7A, 0x3C5, 0x300), (0x1F7C, 0x3C9, 0x300), (0x1F80,
  0x1F00, 0x345), (0x1F81, 0x1F01, 0x345), (0x1F82, 0x1F02, 0x345), (0x1F83, 0x1F03, 0x345),
  (0x1F84, 0x1F04, 0x345), (0x1F85, 0x1F05, 0x345), (0x1F86, 0x1F06, 0x345), (0x1F87, 0x1F07,
  0x345), (0x1F88, 0x1F08, 0x345), (0x1F89, 0x1F09, 0x345), (0x1F8A, 0x1F0A, 0x345), (0x1F8B,
  0x1F0B, 0x345), (0x1F8C, 0x1F0C, 0x345), (0x1F8D, 0x1F0D, 0x345), (0x1F8E, 0x1F0E, 0x345),
  (0x1F8F, 0x1F0F, 0x345), (0x1F90, 0x1F20, 0x345), (0x1F91, 0x1F21, 0x345), (0x1F92, 0x1F22,
  0x345), (0x1F93, 0x1F23, 0x345), (0x1F94, 0x1F24, 0x345), (0x1F95, 0x1F25, 0x345), (0x1F96,
  0x1F26, 0x345), (0x1F97, 0x1F27, 0x345), (0x1F98, 0x1F28, 0x345), (0x1F99, 0x1F29, 0x345),
  (0x1F9A, 0x1F2A, 0x345), (0x1F9B, 0x1F2B, 0x345), (0x1F9C, 0x1F2C, 0x345), (0x1F9D, 0x1F2D,
  0x345), (0x1F9E, 0x1F2E, 0x345), (0x1F9F, 0x1F2F, 0x345), (0x1FA0, 0x1F60, 0x345), (0x1FA1,
  0x1F61, 0x345), (0x1FA2, 0x1F62, 0x345), (0x1FA3, 0x1F63, 0x345), (0x1FA4, 0x1F64, 0x345),
  (0x1FA5, 0x1F65, 0x345), (0x1FA6, 0x1F66, 0x345), (0x1FA7, 0x1F67, 0x345), (0x1FA8, 0x1F68,
  0x345), (0x1FA9, 0x1F69, 0x345), (0x1FAA, 0x1F6A, 0x345), (0x1FAB, 0x1F6B, 0x345), (0x1FAC,
  0x1F6C, 0x345), (0x1FAD, 0x1F6D, 0x345), (0x1FAE, 0x1F6E, 0x345), (0x1FAF, 0x1F6F, 0x345),
  (0x1FB0, 0x3B1, 0x306), (0x1FB1, 0x3B1, 0x304), (0x1FB2, 0x1F70, 0x345), (0x1FB3, 0x3B1,
  0x345), (0x1FB4, 0x3AC, 0x345), (0x1FB6, 0x3B1, 0x342), (0x1FB7, 0x1FB6, 0x345), (0x1FB8,
  0x391, 0x306), (0x1FB9, 0x391, 0x304), (0x1FBA, 0x391, 0x300), (0x1FBC, 0x391, 0x345), (0x1FC1,
  168, 0x342), (0x1FC2, 0x1F74, 0x345), (0x1FC3, 0x3B7, 0x345), (0x1FC4, 0x3AE, 0x345), (0x1FC6,
  0x3B7, 0x342), (0x1FC7, 0x1FC6, 0x345), (0x1FC8, 0x395, 0x300), (0x1FCA, 0x397, 0x300),
  (0x1FCC, 0x397, 0x345), (0x1FCD, 0x1FBF, 0x300), (0x1FCE, 0x1FBF, 0x301), (0x1FCF, 0x1FBF,
  0x342), (0x1FD0, 0x3B9, 0x306), (0x1FD1, 0x3B9, 0x304), (0x1FD2, 0x3CA, 0x300), (0x1FD6, 0x3B9,
  0x342), (0x1FD7, 0x3CA, 0x342), (0x1FD8, 0x399, 0x306), (0x1FD9, 0x399, 0x304), (0x1FDA, 0x399,
  0x300), (0x1FDD, 0x1FFE, 0x300), (0x1FDE, 0x1FFE, 0x301), (0x1FDF, 0x1FFE, 0x342), (0x1FE0,
  0x3C5, 0x306), (0x1FE1, 0x3C5, 0x304), (0x1FE2, 0x3CB, 0x300), (0x1FE4, 0x3C1, 0x313), (0x1FE5,
  0x3C1, 0x314), (0x1FE6, 0x3C5, 0x342), (0x1FE7, 0x3CB, 0x342), (0x1FE8, 0x3A5, 0x306), (0x1FE9,
  0x3A5, 0x304), (0x1FEA, 0x3A5, 0x300), (0x1FEC, 0x3A1, 0x314), (0x1FED, 168, 0x300), (0x1FF2,
  0x1F7C, 0x345), (0x1FF3, 0x3C9, 0x345), (0x1FF4, 0x3CE, 0x345), (0x1FF6, 0x3C9, 0x342),
  (0x1FF7, 0x1FF6, 0x345), (0x1FF8, 0x39F, 0x300), (0x1FFA, 0x3A9, 0x300), (0x1FFC, 0x3A9,
  0x345), (0x219A, 0x2190, 0x338), (0x219B, 0x2192, 0x338), (0x21AE, 0x2194, 0x338), (0x21CD,
  0x21D0, 0x338), (0x21CE, 0x21D4, 0x338), (0x21CF, 0x21D2, 0x338), (0x2204, 0x2203, 0x338),
  (0x2209, 0x2208, 0x338), (0x220C, 0x220B, 0x338), (0x2224, 0x2223, 0x338), (0x2226, 0x2225,
  0x338), (0x2241, 0x223C, 0x338), (0x2244, 0x2243, 0x338), (0x2247, 0x2245, 0x338), (0x2249,
  0x2248, 0x338), (0x2260, 61, 0x338), (0x2262, 0x2261, 0x338), (0x226D, 0x224D, 0x338), (0x226E,
  60, 0x338), (0x226F, 62, 0x338), (0x2270, 0x2264, 0x338), (0x2271, 0x2265, 0x338), (0x2274,
  0x2272, 0x338), (0x2275, 0x2273, 0x338), (0x2278, 0x2276, 0x338), (0x2279, 0x2277, 0x338),
  (0x2280, 0x227A, 0x338), (0x2281, 0x227B, 0x338), (0x2284, 0x2282, 0x338), (0x2285, 0x2283,
  0x338), (0x2288, 0x2286, 0x338), (0x2289, 0x2287, 0x338), (0x22AC, 0x22A2, 0x338), (0x22AD,
  0x22A8, 0x338), (0x22AE, 0x22A9, 0x338), (0x22AF, 0x22AB, 0x338), (0x22E0, 0x227C, 0x338),
  (0x22E1, 0x227D, 0x338), (0x22E2, 0x2291, 0x338), (0x22E3, 0x2292, 0x338), (0x22EA, 0x22B2,
  0x338), (0x22EB, 0x22B3, 0x338), (0x22EC, 0x22B4, 0x338), (0x22ED, 0x22B5, 0x338), (0x304C,
  0x304B, 0x3099), (0x304E, 0x304D, 0x3099), (0x3050, 0x304F, 0x3099), (0x3052, 0x3051, 0x3099),
  (0x3054, 0x3053, 0x3099), (0x3056, 0x3055, 0x3099), (0x3058, 0x3057, 0x3099), (0x305A, 0x3059,
  0x3099), (0x305C, 0x305B, 0x3099), (0x305E, 0x305D, 0x3099), (0x3060, 0x305F, 0x3099), (0x3062,
  0x3061, 0x3099), (0x3065, 0x3064, 0x3099), (0x3067, 0x3066, 0x3099), (0x3069, 0x3068, 0x3099),
  (0x3070, 0x306F, 0x3099), (0x3071, 0x306F, 0x309A), (0x3073, 0x3072, 0x3099), (0x3074, 0x3072,
  0x309A), (0x3076, 0x3075, 0x3099), (0x3077, 0x3075, 0x309A), (0x3079, 0x3078, 0x3099), (0x307A,
  0x3078, 0x309A), (0x307C, 0x307B, 0x3099), (0x307D, 0x307B, 0x309A), (0x3094, 0x3046, 0x3099),
  (0x309E, 0x309D, 0x3099), (0x30AC, 0x30AB, 0x3099), (0x30AE, 0x30AD, 0x3099), (0x30B0, 0x30AF,
  0x3099), (0x30B2, 0x30B1, 0x3099), (0x30B4, 0x30B3, 0x3099), (0x30B6, 0x30B5, 0x3099), (0x30B8,
  0x30B7, 0x3099), (0x30BA, 0x30B9, 0x3099), (0x30BC, 0x30BB, 0x3099), (0x30BE, 0x30BD, 0x3099),
  (0x30C0, 0x30BF, 0x3099), (0x30C2, 0x30C1, 0x3099), (0x30C5, 0x30C4, 0x3099), (0x30C7, 0x30C6,
  0x3099), (0x30C9, 0x30C8, 0x3099), (0x30D0, 0x30CF, 0x3099), (0x30D1, 0x30CF, 0x309A), (0x30D3,
  0x30D2, 0x3099), (0x30D4, 0x30D2, 0x309A), (0x30D6, 0x30D5, 0x3099), (0x30D7, 0x30D5, 0x309A),
  (0x30D9, 0x30D8, 0x3099), (0x30DA, 0x30D8, 0x309A), (0x30DC, 0x30DB, 0x3099), (0x30DD, 0x30DB,
  0x309A), (0x30F4, 0x30A6, 0x3099), (0x30F7, 0x30EF, 0x3099), (0x30F8, 0x30F0, 0x3099), (0x30F9,
  0x30F1, 0x3099), (0x30FA, 0x30F2, 0x3099), (0x30FE, 0x30FD, 0x3099), (0x1109A, 0x11099,
  0x110BA), (0x1109C, 0x1109B, 0x110BA), (0x110AB, 0x110A5, 0x110BA), (0x1112E, 0x11131,
  0x11127), (0x1112F, 0x11132, 0x11127), (0x1134B, 0x11347, 0x1133E), (0x1134C, 0x11347,
  0x11357), (0x114BB, 0x114B9, 0x114BA), (0x114BC, 0x114B9, 0x114B0), (0x114BE, 0x114B9,
  0x114BD), (0x115BA, 0x115B8, 0x115AF), (0x115BB, 0x115B9, 0x115AF), (0x11938, 0x11935, 0x11930)]

end SqlCluster.Text
