import SqlCluster.Text.Runs
/-!
In which direction the letters, digits and marks of each script run. Characters that may not stand
in names go with their neighbours.
-/
namespace SqlCluster.Text

inductive Direction where
  | left
  | right
  | arabic
  | arabicNumber
  | number
  | separator
  | neutral
  | boundary
  | mark
  | unknown
  deriving DecidableEq, Repr

def directionRuns : List (Nat × Direction) := [
  (45, .separator), (48, .number), (97, .left), (183, .neutral), (223, .left), (0x2B9, .neutral),
  (0x2BB, .left), (0x2C6, .neutral), (0x2D0, .left), (0x2EC, .neutral), (0x2EE, .left), (0x300,
  .mark), (0x371, .left), (0x375, .neutral), (0x377, .left), (0x483, .mark), (0x48B, .left),
  (0x591, .mark), (0x5D0, .right), (0x610, .mark), (0x620, .arabic), (0x64B, .mark), (0x660,
  .arabicNumber), (0x66E, .arabic), (0x670, .mark), (0x671, .arabic), (0x6D6, .mark), (0x6E5,
  .arabic), (0x6E7, .mark), (0x6EE, .arabic), (0x6F0, .number), (0x6FA, .arabic), (0x711, .mark),
  (0x712, .arabic), (0x730, .mark), (0x74D, .arabic), (0x7A6, .mark), (0x7B1, .arabic), (0x7C0,
  .right), (0x7EB, .mark), (0x7F4, .right), (0x7FD, .mark), (0x800, .right), (0x816, .mark),
  (0x81A, .right), (0x81B, .mark), (0x824, .right), (0x825, .mark), (0x828, .right), (0x829,
  .mark), (0x840, .right), (0x859, .mark), (0x860, .arabic), (0x88F, .unknown), (0x898, .mark),
  (0x8A0, .arabic), (0x8CA, .mark), (0x903, .left), (0x93A, .mark), (0x93B, .left), (0x93C,
  .mark), (0x93D, .left), (0x941, .mark), (0x949, .left), (0x94D, .mark), (0x94E, .left), (0x951,
  .mark), (0x960, .left), (0x962, .mark), (0x966, .left), (0x981, .mark), (0x982, .left), (0x9BC,
  .mark), (0x9BD, .left), (0x9C1, .mark), (0x9C7, .left), (0x9CD, .mark), (0x9CE, .left), (0x9E2,
  .mark), (0x9E6, .left), (0x9FE, .mark), (0xA03, .left), (0xA3C, .mark), (0xA3E, .left), (0xA41,
  .mark), (0xA5C, .left), (0xA70, .mark), (0xA72, .left), (0xA75, .mark), (0xA83, .left), (0xABC,
  .mark), (0xABD, .left), (0xAC1, .mark), (0xAC9, .left), (0xACD, .mark), (0xAD0, .left), (0xAE2,
  .mark), (0xAE6, .left), (0xAFA, .mark), (0xB02, .left), (0xB3C, .mark), (0xB3D, .left), (0xB3F,
  .mark), (0xB40, .left), (0xB41, .mark), (0xB47, .left), (0xB4D, .mark), (0xB57, .left), (0xB62,
  .mark), (0xB66, .left), (0xB82, .mark), (0xB83, .left), (0xBC0, .mark), (0xBC1, .left), (0xBCD,
  .mark), (0xBD0, .left), (0xC00, .mark), (0xC01, .left), (0xC04, .mark), (0xC05, .left), (0xC3C,
  .mark), (0xC3D, .left), (0xC3E, .mark), (0xC41, .left), (0xC46, .mark), (0xC58, .left), (0xC5C,
  .unknown), (0xC5D, .left), (0xC62, .mark), (0xC66, .left), (0xC81, .mark), (0xC82, .left),
  (0xCBC, .mark), (0xCBD, .left), (0xCCC, .mark), (0xCD5, .left), (0xCDC, .unknown), (0xCDD,
  .left), (0xCE2, .mark), (0xCE6, .left), (0xCF3, .unknown), (0xD00, .mark), (0xD02, .left),
  (0xD3B, .mark), (0xD3D, .left), (0xD41, .mark), (0xD46, .left), (0xD4D, .mark), (0xD4E, .left),
  (0xD62, .mark), (0xD66, .left), (0xD81, .mark), (0xD82, .left), (0xDCA, .mark), (0xDCF, .left),
  (0xDD2, .mark), (0xDD8, .left), (0xE31, .mark), (0xE32, .left), (0xE34, .mark), (0xE40, .left),
  (0xE47, .mark), (0xE50, .left), (0xEB1, .mark), (0xEB2, .left), (0xEB4, .mark), (0xEBD, .left),
  (0xEC8, .mark), (0xECE, .unknown), (0xED0, .left), (0xF18, .mark), (0xF20, .left), (0xF35,
  .mark), (0xF3E, .left), (0xF71, .mark), (0xF7F, .left), (0xF80, .mark), (0xF88, .left), (0xF8D,
  .mark), (0x1000, .left), (0x102D, .mark), (0x1031, .left), (0x1032, .mark), (0x1038, .left),
  (0x1039, .mark), (0x103B, .left), (0x103D, .mark), (0x103F, .left), (0x1058, .mark), (0x105A,
  .left), (0x105E, .mark), (0x1061, .left), (0x1071, .mark), (0x1075, .left), (0x1082, .mark),
  (0x1083, .left), (0x1085, .mark), (0x1087, .left), (0x108D, .mark), (0x108E, .left), (0x109D,
  .mark), (0x10D0, .left), (0x135D, .mark), (0x1380, .left), (0x1712, .mark), (0x1715, .left),
  (0x1732, .mark), (0x1734, .left), (0x1752, .mark), (0x1760, .left), (0x1772, .mark), (0x1780,
  .left), (0x17B7, .mark), (0x17BE, .left), (0x17C6, .mark), (0x17C7, .left), (0x17C9, .mark),
  (0x17D7, .left), (0x17DD, .mark), (0x17E0, .left), (0x1885, .mark), (0x1887, .left), (0x18A9,
  .mark), (0x18AA, .left), (0x1920, .mark), (0x1923, .left), (0x1927, .mark), (0x1929, .left),
  (0x1932, .mark), (0x1933, .left), (0x1939, .mark), (0x1946, .left), (0x1A17, .mark), (0x1A19,
  .left), (0x1A1B, .mark), (0x1A20, .left), (0x1A56, .mark), (0x1A57, .left), (0x1A58, .mark),
  (0x1A61, .left), (0x1A62, .mark), (0x1A63, .left), (0x1A65, .mark), (0x1A6D, .left), (0x1A73,
  .mark), (0x1A80, .left), (0x1AB0, .mark), (0x1ACF, .unknown), (0x1B00, .mark), (0x1B04, .left),
  (0x1B34, .mark), (0x1B35, .left), (0x1B36, .mark), (0x1B3B, .left), (0x1B3C, .mark), (0x1B3D,
  .left), (0x1B42, .mark), (0x1B43, .left), (0x1B6B, .mark), (0x1B82, .left), (0x1BA2, .mark),
  (0x1BA6, .left), (0x1BA8, .mark), (0x1BAA, .left), (0x1BAB, .mark), (0x1BAE, .left), (0x1BE6,
  .mark), (0x1BE7, .left), (0x1BE8, .mark), (0x1BEA, .left), (0x1BED, .mark), (0x1BEE, .left),
  (0x1BEF, .mark), (0x1BF2, .left), (0x1C2C, .mark), (0x1C34, .left), (0x1C36, .mark), (0x1C40,
  .left), (0x1C8A, .unknown), (0x1CD0, .mark), (0x1CE1, .left), (0x1CE2, .mark), (0x1CE9, .left),
  (0x1CED, .mark), (0x1CEE, .left), (0x1CF4, .mark), (0x1CF5, .left), (0x1CF8, .mark), (0x1CFA,
  .left), (0x1DC0, .mark), (0x1E01, .left), (0x200C, .boundary), (0x214E, .left), (0x2CEF,
  .mark), (0x2CF3, .left), (0x2D7F, .mark), (0x2D80, .left), (0x2DE0, .mark), (0x2E2F, .neutral),
  (0x3005, .left), (0x302A, .mark), (0x303C, .left), (0x3099, .mark), (0x309D, .left), (0x30FB,
  .neutral), (0x30FC, .left), (0xA66F, .mark), (0xA67F, .neutral), (0xA681, .left), (0xA69E,
  .mark), (0xA6A0, .left), (0xA6F0, .mark), (0xA717, .neutral), (0xA723, .left), (0xA788,
  .neutral), (0xA78C, .left), (0xA7CD, .unknown), (0xA7D1, .left), (0xA7DB, .unknown), (0xA7F6,
  .left), (0xA802, .mark), (0xA803, .left), (0xA806, .mark), (0xA807, .left), (0xA80B, .mark),
  (0xA80C, .left), (0xA825, .mark), (0xA827, .left), (0xA82C, .mark), (0xA840, .left), (0xA8C4,
  .mark), (0xA8D0, .left), (0xA8E0, .mark), (0xA8F2, .left), (0xA8FF, .mark), (0xA900, .left),
  (0xA926, .mark), (0xA930, .left), (0xA947, .mark), (0xA952, .left), (0xA980, .mark), (0xA983,
  .left), (0xA9B3, .mark), (0xA9B4, .left), (0xA9B6, .mark), (0xA9BA, .left), (0xA9BC, .mark),
  (0xA9BE, .left), (0xA9E5, .mark), (0xA9E6, .left), (0xAA29, .mark), (0xAA2F, .left), (0xAA31,
  .mark), (0xAA33, .left), (0xAA35, .mark), (0xAA40, .left), (0xAA43, .mark), (0xAA44, .left),
  (0xAA4C, .mark), (0xAA4D, .left), (0xAA7C, .mark), (0xAA7D, .left), (0xAAB0, .mark), (0xAAB1,
  .left), (0xAAB2, .mark), (0xAAB5, .left), (0xAAB7, .mark), (0xAAB9, .left), (0xAABE, .mark),
  (0xAAC0, .left), (0xAAC1, .mark), (0xAAC2, .left), (0xAAEC, .mark), (0xAAEE, .left), (0xAAF6,
  .mark), (0xAB01, .left), (0xABE5, .mark), (0xABE6, .left), (0xABE8, .mark), (0xABE9, .left),
  (0xABED, .mark), (0xABF0, .left), (0xFB1E, .mark), (0xFE73, .arabic), (0x10000, .left),
  (0x101FD, .mark), (0x10280, .left), (0x102E0, .mark), (0x10300, .left), (0x10376, .mark),
  (0x10380, .left), (0x105C0, .unknown), (0x10600, .left), (0x10800, .right), (0x10940,
  .unknown), (0x10980, .right), (0x10A01, .mark), (0x10A10, .right), (0x10A38, .mark), (0x10A60,
  .right), (0x10AE5, .mark), (0x10B00, .right), (0x10D00, .arabic), (0x10D24, .mark), (0x10D30,
  .arabicNumber), (0x10D40, .unknown), (0x10E80, .right), (0x10EAB, .mark), (0x10EB0, .right),
  (0x10EC2, .unknown), (0x10F00, .right), (0x10F30, .arabic), (0x10F46, .mark), (0x10F70,
  .right), (0x10F82, .mark), (0x10FB0, .right), (0x11000, .left), (0x11001, .mark), (0x11002,
  .left), (0x11038, .mark), (0x11066, .left), (0x11070, .mark), (0x11071, .left), (0x11073,
  .mark), (0x11075, .left), (0x1107F, .mark), (0x11082, .left), (0x110B3, .mark), (0x110B7,
  .left), (0x110B9, .mark), (0x110D0, .left), (0x11100, .mark), (0x11103, .left), (0x11127,
  .mark), (0x1112C, .left), (0x1112D, .mark), (0x11136, .left), (0x11173, .mark), (0x11176,
  .left), (0x11180, .mark), (0x11182, .left), (0x111B6, .mark), (0x111BF, .left), (0x111C9,
  .mark), (0x111CE, .left), (0x111CF, .mark), (0x111D0, .left), (0x1122F, .mark), (0x11232,
  .left), (0x11234, .mark), (0x11235, .left), (0x11236, .mark), (0x1123F, .unknown), (0x11280,
  .left), (0x112DF, .mark), (0x112E0, .left), (0x112E3, .mark), (0x112F0, .left), (0x11300,
  .mark), (0x11302, .left), (0x1133B, .mark), (0x1133D, .left), (0x11340, .mark), (0x11341,
  .left), (0x11366, .mark), (0x11380, .unknown), (0x11400, .left), (0x11438, .mark), (0x11440,
  .left), (0x11442, .mark), (0x11445, .left), (0x11446, .mark), (0x11447, .left), (0x1145E,
  .mark), (0x1145F, .left), (0x114B3, .mark), (0x114B9, .left), (0x114BA, .mark), (0x114BB,
  .left), (0x114BF, .mark), (0x114C1, .left), (0x114C2, .mark), (0x114C4, .left), (0x115B2,
  .mark), (0x115B8, .left), (0x115BC, .mark), (0x115BE, .left), (0x115BF, .mark), (0x115D8,
  .left), (0x115DC, .mark), (0x11600, .left), (0x11633, .mark), (0x1163B, .left), (0x1163D,
  .mark), (0x1163E, .left), (0x1163F, .mark), (0x11644, .left), (0x116AB, .mark), (0x116AC,
  .left), (0x116AD, .mark), (0x116AE, .left), (0x116B0, .mark), (0x116B6, .left), (0x116B7,
  .mark), (0x116B8, .left), (0x116D0, .unknown), (0x11700, .left), (0x1171D, .mark), (0x11720,
  .left), (0x11722, .mark), (0x11726, .left), (0x11727, .mark), (0x11730, .left), (0x1182F,
  .mark), (0x11838, .left), (0x11839, .mark), (0x118C0, .left), (0x1193B, .mark), (0x1193D,
  .left), (0x1193E, .mark), (0x1193F, .left), (0x11943, .mark), (0x11950, .left), (0x119D4,
  .mark), (0x119DC, .left), (0x119E0, .mark), (0x119E1, .left), (0x11A01, .mark), (0x11A07,
  .left), (0x11A09, .mark), (0x11A0B, .left), (0x11A33, .mark), (0x11A39, .left), (0x11A3B,
  .mark), (0x11A50, .left), (0x11A51, .mark), (0x11A57, .left), (0x11A59, .mark), (0x11A5C,
  .left), (0x11A8A, .mark), (0x11A97, .left), (0x11A98, .mark), (0x11A9D, .left), (0x11B60,
  .unknown), (0x11C00, .left), (0x11C30, .mark), (0x11C3E, .left), (0x11C92, .mark), (0x11CA9,
  .left), (0x11CAA, .mark), (0x11CB1, .left), (0x11CB2, .mark), (0x11CB4, .left), (0x11CB5,
  .mark), (0x11D00, .left), (0x11D31, .mark), (0x11D46, .left), (0x11D47, .mark), (0x11D50,
  .left), (0x11D90, .mark), (0x11D93, .left), (0x11D95, .mark), (0x11D96, .left), (0x11D97,
  .mark), (0x11D98, .left), (0x11DB0, .unknown), (0x11EE0, .left), (0x11EF3, .mark), (0x11EF5,
  .left), (0x11F00, .unknown), (0x11FB0, .left), (0x1342F, .unknown), (0x14400, .left), (0x16100,
  .unknown), (0x16800, .left), (0x16AF0, .mark), (0x16B00, .left), (0x16B30, .mark), (0x16B40,
  .left), (0x16D40, .unknown), (0x16E60, .left), (0x16EBB, .unknown), (0x16F00, .left), (0x16F4F,
  .mark), (0x16F50, .left), (0x16F8F, .mark), (0x16F93, .left), (0x16FE4, .mark), (0x16FF0,
  .left), (0x16FF2, .unknown), (0x17000, .left), (0x187F8, .unknown), (0x18800, .left), (0x18CFF,
  .unknown), (0x18D00, .left), (0x18D09, .unknown), (0x1AFF0, .left), (0x1B132, .unknown),
  (0x1B150, .left), (0x1B155, .unknown), (0x1B164, .left), (0x1BC9D, .mark), (0x1DF00, .left),
  (0x1DF25, .unknown), (0x1E000, .mark), (0x1E08F, .unknown), (0x1E100, .left), (0x1E130, .mark),
  (0x1E137, .left), (0x1E2AE, .mark), (0x1E2C0, .left), (0x1E2EC, .mark), (0x1E2F0, .left),
  (0x1E4D0, .unknown), (0x1E7E0, .left), (0x1E800, .right), (0x1E8D0, .mark), (0x1E922, .right),
  (0x1E944, .mark), (0x1E94B, .right), (0x20000, .left), (0x2B739, .unknown), (0x2B740, .left),
  (0x2CEA2, .unknown), (0x2CEB0, .left), (0x2EBF0, .unknown), (0x30000, .left), (0x31350,
  .unknown)]

def direction (n : Nat) : Direction := valueInRuns .unknown directionRuns n

end SqlCluster.Text
