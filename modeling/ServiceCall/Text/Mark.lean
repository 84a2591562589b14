/-!
# Marks

Marks belong to the character in front of them. A nonspacing mark is set above, below or into it and
takes no room of its own. Marks on one character that are set in different places may be written in
any order; the class of a mark, from the Unicode character database, tells the places apart and
gives the order in which they are kept. Class zero stands for no order at all, and class nine is
that of the sign which takes the vowel from a consonant.

The table leaves out characters that no host name has, so a range may run across some of them.
-/

namespace ServiceCall.Text

/-- The marks from `first` to `last`. -/
structure MarkRange where
  first : Nat
  last : Nat
  nonspacing : Bool
  order : Nat

def markRanges : List MarkRange := [
  ⟨0x300, 0x314, true, 230⟩, ⟨0x315, 0x315, true, 232⟩, ⟨0x316, 0x319, true, 220⟩,
  ⟨0x31A, 0x31A, true, 232⟩, ⟨0x31B, 0x31B, true, 216⟩, ⟨0x31C, 0x320, true, 220⟩,
  ⟨0x321, 0x322, true, 202⟩, ⟨0x323, 0x326, true, 220⟩, ⟨0x327, 0x328, true, 202⟩,
  ⟨0x329, 0x333, true, 220⟩, ⟨0x334, 0x338, true, 1⟩, ⟨0x339, 0x33C, true, 220⟩,
  ⟨0x33D, 0x346, true, 230⟩, ⟨0x347, 0x349, true, 220⟩, ⟨0x34A, 0x34C, true, 230⟩,
  ⟨0x34D, 0x34E, true, 220⟩, ⟨0x350, 0x352, true, 230⟩, ⟨0x353, 0x356, true, 220⟩,
  ⟨0x357, 0x357, true, 230⟩, ⟨0x358, 0x358, true, 232⟩, ⟨0x359, 0x35A, true, 220⟩,
  ⟨0x35B, 0x35B, true, 230⟩, ⟨0x35C, 0x35C, true, 233⟩, ⟨0x35D, 0x35E, true, 234⟩,
  ⟨0x35F, 0x35F, true, 233⟩, ⟨0x360, 0x361, true, 234⟩, ⟨0x362, 0x362, true, 233⟩,
  ⟨0x363, 0x36F, true, 230⟩, ⟨0x483, 0x487, true, 230⟩, ⟨0x488, 0x489, true, 0⟩,
  ⟨0x591, 0x591, true, 220⟩, ⟨0x592, 0x595, true, 230⟩, ⟨0x596, 0x596, true, 220⟩,
  ⟨0x597, 0x599, true, 230⟩, ⟨0x59A, 0x59A, true, 222⟩, ⟨0x59B, 0x59B, true, 220⟩,
  ⟨0x59C, 0x5A1, true, 230⟩, ⟨0x5A2, 0x5A7, true, 220⟩, ⟨0x5A8, 0x5A9, true, 230⟩,
  ⟨0x5AA, 0x5AA, true, 220⟩, ⟨0x5AB, 0x5AC, true, 230⟩, ⟨0x5AD, 0x5AD, true, 222⟩,
  ⟨0x5AE, 0x5AE, true, 228⟩, ⟨0x5AF, 0x5AF, true, 230⟩, ⟨0x5B0, 0x5B0, true, 10⟩,
  ⟨0x5B1, 0x5B1, true, 11⟩, ⟨0x5B2, 0x5B2, true, 12⟩, ⟨0x5B3, 0x5B3, true, 13⟩,
  ⟨0x5B4, 0x5B4, true, 14⟩, ⟨0x5B5, 0x5B5, true, 15⟩, ⟨0x5B6, 0x5B6, true, 16⟩,
  ⟨0x5B7, 0x5B7, true, 17⟩, ⟨0x5B8, 0x5B8, true, 18⟩, ⟨0x5B9, 0x5BA, true, 19⟩,
  ⟨0x5BB, 0x5BB, true, 20⟩, ⟨0x5BC, 0x5BC, true, 21⟩, ⟨0x5BD, 0x5BD, true, 22⟩,
  ⟨0x5BF, 0x5BF, true, 23⟩, ⟨0x5C1, 0x5C1, true, 24⟩, ⟨0x5C2, 0x5C2, true, 25⟩,
  ⟨0x5C4, 0x5C4, true, 230⟩, ⟨0x5C5, 0x5C5, true, 220⟩, ⟨0x5C7, 0x5C7, true, 18⟩,
  ⟨0x610, 0x617, true, 230⟩, ⟨0x618, 0x618, true, 30⟩, ⟨0x619, 0x619, true, 31⟩,
  ⟨0x61A, 0x61A, true, 32⟩, ⟨0x64B, 0x64B, true, 27⟩, ⟨0x64C, 0x64C, true, 28⟩,
  ⟨0x64D, 0x64D, true, 29⟩, ⟨0x64E, 0x64E, true, 30⟩, ⟨0x64F, 0x64F, true, 31⟩,
  ⟨0x650, 0x650, true, 32⟩, ⟨0x651, 0x651, true, 33⟩, ⟨0x652, 0x652, true, 34⟩,
  ⟨0x653, 0x654, true, 230⟩, ⟨0x655, 0x656, true, 220⟩, ⟨0x657, 0x65B, true, 230⟩,
  ⟨0x65C, 0x65C, true, 220⟩, ⟨0x65D, 0x65E, true, 230⟩, ⟨0x65F, 0x65F, true, 220⟩,
  ⟨0x670, 0x670, true, 35⟩, ⟨0x6D6, 0x6DC, true, 230⟩, ⟨0x6DF, 0x6E2, true, 230⟩,
  ⟨0x6E3, 0x6E3, true, 220⟩, ⟨0x6E4, 0x6E4, true, 230⟩, ⟨0x6E7, 0x6E8, true, 230⟩,
  ⟨0x6EA, 0x6EA, true, 220⟩, ⟨0x6EB, 0x6EC, true, 230⟩, ⟨0x6ED, 0x6ED, true, 220⟩,
  ⟨0x711, 0x711, true, 36⟩, ⟨0x730, 0x730, true, 230⟩, ⟨0x731, 0x731, true, 220⟩,
  ⟨0x732, 0x733, true, 230⟩, ⟨0x734, 0x734, true, 220⟩, ⟨0x735, 0x736, true, 230⟩,
  ⟨0x737, 0x739, true, 220⟩, ⟨0x73A, 0x73A, true, 230⟩, ⟨0x73B, 0x73C, true, 220⟩,
  ⟨0x73D, 0x73D, true, 230⟩, ⟨0x73E, 0x73E, true, 220⟩, ⟨0x73F, 0x741, true, 230⟩,
  ⟨0x742, 0x742, true, 220⟩, ⟨0x743, 0x743, true, 230⟩, ⟨0x744, 0x744, true, 220⟩,
  ⟨0x745, 0x745, true, 230⟩, ⟨0x746, 0x746, true, 220⟩, ⟨0x747, 0x747, true, 230⟩,
  ⟨0x748, 0x748, true, 220⟩, ⟨0x749, 0x74A, true, 230⟩, ⟨0x7A6, 0x7B0, true, 0⟩,
  ⟨0x7EB, 0x7F1, true, 230⟩, ⟨0x7F2, 0x7F2, true, 220⟩, ⟨0x7F3, 0x7F3, true, 230⟩,
  ⟨0x7FD, 0x7FD, true, 220⟩, ⟨0x816, 0x819, true, 230⟩, ⟨0x81B, 0x823, true, 230⟩,
  ⟨0x825, 0x827, true, 230⟩, ⟨0x829, 0x82D, true, 230⟩, ⟨0x859, 0x85B, true, 220⟩,
  ⟨0x897, 0x898, true, 230⟩, ⟨0x899, 0x89B, true, 220⟩, ⟨0x89C, 0x89F, true, 230⟩,
  ⟨0x8CA, 0x8CE, true, 230⟩, ⟨0x8CF, 0x8D3, true, 220⟩, ⟨0x8D4, 0x8E1, true, 230⟩,
  ⟨0x8E3, 0x8E3, true, 220⟩, ⟨0x8E4, 0x8E5, true, 230⟩, ⟨0x8E6, 0x8E6, true, 220⟩,
  ⟨0x8E7, 0x8E8, true, 230⟩, ⟨0x8E9, 0x8E9, true, 220⟩, ⟨0x8EA, 0x8EC, true, 230⟩,
  ⟨0x8ED, 0x8EF, true, 220⟩, ⟨0x8F0, 0x8F0, true, 27⟩, ⟨0x8F1, 0x8F1, true, 28⟩,
  ⟨0x8F2, 0x8F2, true, 29⟩, ⟨0x8F3, 0x8F5, true, 230⟩, ⟨0x8F6, 0x8F6, true, 220⟩,
  ⟨0x8F7, 0x8F8, true, 230⟩, ⟨0x8F9, 0x8FA, true, 220⟩, ⟨0x8FB, 0x8FF, true, 230⟩,
  ⟨0x900, 0x902, true, 0⟩, ⟨0x903, 0x903, false, 0⟩, ⟨0x93A, 0x93A, true, 0⟩,
  ⟨0x93B, 0x93B, false, 0⟩, ⟨0x93C, 0x93C, true, 7⟩, ⟨0x93E, 0x940, false, 0⟩,
  ⟨0x941, 0x948, true, 0⟩, ⟨0x949, 0x94C, false, 0⟩, ⟨0x94D, 0x94D, true, 9⟩,
  ⟨0x94E, 0x94F, false, 0⟩, ⟨0x951, 0x951, true, 230⟩, ⟨0x952, 0x952, true, 220⟩,
  ⟨0x953, 0x954, true, 230⟩, ⟨0x955, 0x957, true, 0⟩, ⟨0x962, 0x963, true, 0⟩,
  ⟨0x981, 0x981, true, 0⟩, ⟨0x982, 0x983, false, 0⟩, ⟨0x9BC, 0x9BC, true, 7⟩,
  ⟨0x9BE, 0x9C0, false, 0⟩, ⟨0x9C1, 0x9C4, true, 0⟩, ⟨0x9C7, 0x9CC, false, 0⟩,
  ⟨0x9CD, 0x9CD, true, 9⟩, ⟨0x9D7, 0x9D7, false, 0⟩, ⟨0x9E2, 0x9E3, true, 0⟩,
  ⟨0x9FE, 0x9FE, true, 230⟩, ⟨0xA01, 0xA02, true, 0⟩, ⟨0xA03, 0xA03, false, 0⟩,
  ⟨0xA3C, 0xA3C, true, 7⟩, ⟨0xA3E, 0xA40, false, 0⟩, ⟨0xA41, 0xA4C, true, 0⟩,
  ⟨0xA4D, 0xA4D, true, 9⟩, ⟨0xA51, 0xA51, true, 0⟩, ⟨0xA70, 0xA71, true, 0⟩,
  ⟨0xA75, 0xA75, true, 0⟩, ⟨0xA81, 0xA82, true, 0⟩, ⟨0xA83, 0xA83, false, 0⟩,
  ⟨0xABC, 0xABC, true, 7⟩, ⟨0xABE, 0xAC0, false, 0⟩, ⟨0xAC1, 0xAC8, true, 0⟩,
  ⟨0xAC9, 0xACC, false, 0⟩, ⟨0xACD, 0xACD, true, 9⟩, ⟨0xAE2, 0xAE3, true, 0⟩,
  ⟨0xAFA, 0xB01, true, 0⟩, ⟨0xB02, 0xB03, false, 0⟩, ⟨0xB3C, 0xB3C, true, 7⟩,
  ⟨0xB3E, 0xB3E, false, 0⟩, ⟨0xB3F, 0xB3F, true, 0⟩, ⟨0xB40, 0xB40, false, 0⟩,
  ⟨0xB41, 0xB44, true, 0⟩, ⟨0xB47, 0xB4C, false, 0⟩, ⟨0xB4D, 0xB4D, true, 9⟩,
  ⟨0xB55, 0xB56, true, 0⟩, ⟨0xB57, 0xB57, false, 0⟩, ⟨0xB62, 0xB63, true, 0⟩,
  ⟨0xB82, 0xB82, true, 0⟩, ⟨0xBBE, 0xBBF, false, 0⟩, ⟨0xBC0, 0xBC0, true, 0⟩,
  ⟨0xBC1, 0xBCC, false, 0⟩, ⟨0xBCD, 0xBCD, true, 9⟩, ⟨0xBD7, 0xBD7, false, 0⟩,
  ⟨0xC00, 0xC00, true, 0⟩, ⟨0xC01, 0xC03, false, 0⟩, ⟨0xC04, 0xC04, true, 0⟩,
  ⟨0xC3C, 0xC3C, true, 7⟩, ⟨0xC3E, 0xC40, true, 0⟩, ⟨0xC41, 0xC44, false, 0⟩,
  ⟨0xC46, 0xC4C, true, 0⟩, ⟨0xC4D, 0xC4D, true, 9⟩, ⟨0xC55, 0xC55, true, 84⟩,
  ⟨0xC56, 0xC56, true, 91⟩, ⟨0xC62, 0xC63, true, 0⟩, ⟨0xC81, 0xC81, true, 0⟩,
  ⟨0xC82, 0xC83, false, 0⟩, ⟨0xCBC, 0xCBC, true, 7⟩, ⟨0xCBE, 0xCCB, false, 0⟩,
  ⟨0xCCC, 0xCCC, true, 0⟩, ⟨0xCCD, 0xCCD, true, 9⟩, ⟨0xCD5, 0xCD6, false, 0⟩,
  ⟨0xCE2, 0xCE3, true, 0⟩, ⟨0xCF3, 0xCF3, false, 0⟩, ⟨0xD00, 0xD01, true, 0⟩,
  ⟨0xD02, 0xD03, false, 0⟩, ⟨0xD3B, 0xD3C, true, 9⟩, ⟨0xD3E, 0xD40, false, 0⟩,
  ⟨0xD41, 0xD44, true, 0⟩, ⟨0xD46, 0xD4C, false, 0⟩, ⟨0xD4D, 0xD4D, true, 9⟩,
  ⟨0xD57, 0xD57, false, 0⟩, ⟨0xD62, 0xD63, true, 0⟩, ⟨0xD81, 0xD81, true, 0⟩,
  ⟨0xD82, 0xD83, false, 0⟩, ⟨0xDCA, 0xDCA, true, 9⟩, ⟨0xDCF, 0xDD1, false, 0⟩,
  ⟨0xDD2, 0xDD6, true, 0⟩, ⟨0xDD8, 0xDDF, false, 0⟩, ⟨0xDF2, 0xDF3, false, 0⟩,
  ⟨0xE31, 0xE31, true, 0⟩, ⟨0xE34, 0xE37, true, 0⟩, ⟨0xE38, 0xE39, true, 103⟩,
  ⟨0xE3A, 0xE3A, true, 9⟩, ⟨0xE47, 0xE47, true, 0⟩, ⟨0xE48, 0xE4B, true, 107⟩,
  ⟨0xE4C, 0xE4E, true, 0⟩, ⟨0xEB1, 0xEB1, true, 0⟩, ⟨0xEB4, 0xEB7, true, 0⟩,
  ⟨0xEB8, 0xEB9, true, 118⟩, ⟨0xEBA, 0xEBA, true, 9⟩, ⟨0xEBB, 0xEBC, true, 0⟩,
  ⟨0xEC8, 0xECB, true, 122⟩, ⟨0xECC, 0xECE, true, 0⟩, ⟨0xF18, 0xF19, true, 220⟩,
  ⟨0xF35, 0xF35, true, 220⟩, ⟨0xF37, 0xF37, true, 220⟩, ⟨0xF39, 0xF39, true, 216⟩,
  ⟨0xF3E, 0xF3F, false, 0⟩, ⟨0xF71, 0xF71, true, 129⟩, ⟨0xF72, 0xF72, true, 130⟩,
  ⟨0xF74, 0xF74, true, 132⟩, ⟨0xF7A, 0xF7D, true, 130⟩, ⟨0xF7E, 0xF7E, true, 0⟩,
  ⟨0xF7F, 0xF7F, false, 0⟩, ⟨0xF80, 0xF80, true, 130⟩, ⟨0xF82, 0xF83, true, 230⟩,
  ⟨0xF84, 0xF84, true, 9⟩, ⟨0xF86, 0xF87, true, 230⟩, ⟨0xF8D, 0xFBC, true, 0⟩,
  ⟨0xFC6, 0xFC6, true, 220⟩, ⟨0x102B, 0x102C, false, 0⟩, ⟨0x102D, 0x1030, true, 0⟩,
  ⟨0x1031, 0x1031, false, 0⟩, ⟨0x1032, 0x1036, true, 0⟩, ⟨0x1037, 0x1037, true, 7⟩,
  ⟨0x1038, 0x1038, false, 0⟩, ⟨0x1039, 0x103A, true, 9⟩, ⟨0x103B, 0x103C, false, 0⟩,
  ⟨0x103D, 0x103E, true, 0⟩, ⟨0x1056, 0x1057, false, 0⟩, ⟨0x1058, 0x1059, true, 0⟩,
  ⟨0x105E, 0x1060, true, 0⟩, ⟨0x1062, 0x1064, false, 0⟩, ⟨0x1067, 0x106D, false, 0⟩,
  ⟨0x1071, 0x1074, true, 0⟩, ⟨0x1082, 0x1082, true, 0⟩, ⟨0x1083, 0x1084, false, 0⟩,
  ⟨0x1085, 0x1086, true, 0⟩, ⟨0x1087, 0x108C, false, 0⟩, ⟨0x108D, 0x108D, true, 220⟩,
  ⟨0x108F, 0x108F, false, 0⟩, ⟨0x109A, 0x109C, false, 0⟩, ⟨0x109D, 0x109D, true, 0⟩,
  ⟨0x135D, 0x135F, true, 230⟩, ⟨0x1712, 0x1713, true, 0⟩, ⟨0x1714, 0x1714, true, 9⟩,
  ⟨0x1715, 0x1715, false, 9⟩, ⟨0x1732, 0x1733, true, 0⟩, ⟨0x1734, 0x1734, false, 9⟩,
  ⟨0x1752, 0x1753, true, 0⟩, ⟨0x1772, 0x1773, true, 0⟩, ⟨0x17B6, 0x17B6, false, 0⟩,
  ⟨0x17B7, 0x17BD, true, 0⟩, ⟨0x17BE, 0x17C5, false, 0⟩, ⟨0x17C6, 0x17C6, true, 0⟩,
  ⟨0x17C7, 0x17C8, false, 0⟩, ⟨0x17C9, 0x17D1, true, 0⟩, ⟨0x17D2, 0x17D2, true, 9⟩,
  ⟨0x17D3, 0x17D3, true, 0⟩, ⟨0x17DD, 0x17DD, true, 230⟩, ⟨0x1885, 0x1886, true, 0⟩,
  ⟨0x18A9, 0x18A9, true, 228⟩, ⟨0x1920, 0x1922, true, 0⟩, ⟨0x1923, 0x1926, false, 0⟩,
  ⟨0x1927, 0x1928, true, 0⟩, ⟨0x1929, 0x1931, false, 0⟩, ⟨0x1932, 0x1932, true, 0⟩,
  ⟨0x1933, 0x1938, false, 0⟩, ⟨0x1939, 0x1939, true, 222⟩, ⟨0x193A, 0x193A, true, 230⟩,
  ⟨0x193B, 0x193B, true, 220⟩, ⟨0x1A17, 0x1A17, true, 230⟩, ⟨0x1A18, 0x1A18, true, 220⟩,
  ⟨0x1A19, 0x1A1A, false, 0⟩, ⟨0x1A1B, 0x1A1B, true, 0⟩, ⟨0x1A55, 0x1A55, false, 0⟩,
  ⟨0x1A56, 0x1A56, true, 0⟩, ⟨0x1A57, 0x1A57, false, 0⟩, ⟨0x1A58, 0x1A5E, true, 0⟩,
  ⟨0x1A60, 0x1A60, true, 9⟩, ⟨0x1A61, 0x1A61, false, 0⟩, ⟨0x1A62, 0x1A62, true, 0⟩,
  ⟨0x1A63, 0x1A64, false, 0⟩, ⟨0x1A65, 0x1A6C, true, 0⟩, ⟨0x1A6D, 0x1A72, false, 0⟩,
  ⟨0x1A73, 0x1A74, true, 0⟩, ⟨0x1A75, 0x1A7C, true, 230⟩, ⟨0x1A7F, 0x1A7F, true, 220⟩,
  ⟨0x1AB0, 0x1AB4, true, 230⟩, ⟨0x1AB5, 0x1ABA, true, 220⟩, ⟨0x1ABB, 0x1ABC, true, 230⟩,
  ⟨0x1ABD, 0x1ABD, true, 220⟩, ⟨0x1ABE, 0x1ABE, true, 0⟩, ⟨0x1ABF, 0x1AC0, true, 220⟩,
  ⟨0x1AC1, 0x1AC2, true, 230⟩, ⟨0x1AC3, 0x1AC4, true, 220⟩, ⟨0x1AC5, 0x1AC9, true, 230⟩,
  ⟨0x1ACA, 0x1ACA, true, 220⟩, ⟨0x1ACB, 0x1ADC, true, 230⟩, ⟨0x1ADD, 0x1ADD, true, 220⟩,
  ⟨0x1AE0, 0x1AE5, true, 230⟩, ⟨0x1AE6, 0x1AE6, true, 220⟩, ⟨0x1AE7, 0x1AEA, true, 230⟩,
  ⟨0x1AEB, 0x1AEB, true, 234⟩, ⟨0x1B00, 0x1B03, true, 0⟩, ⟨0x1B04, 0x1B04, false, 0⟩,
  ⟨0x1B34, 0x1B34, true, 7⟩, ⟨0x1B35, 0x1B35, false, 0⟩, ⟨0x1B36, 0x1B3A, true, 0⟩,
  ⟨0x1B3B, 0x1B3B, false, 0⟩, ⟨0x1B3C, 0x1B3C, true, 0⟩, ⟨0x1B3D, 0x1B41, false, 0⟩,
  ⟨0x1B42, 0x1B42, true, 0⟩, ⟨0x1B43, 0x1B43, false, 0⟩, ⟨0x1B44, 0x1B44, false, 9⟩,
  ⟨0x1B6B, 0x1B6B, true, 230⟩, ⟨0x1B6C, 0x1B6C, true, 220⟩, ⟨0x1B6D, 0x1B73, true, 230⟩,
  ⟨0x1B80, 0x1B81, true, 0⟩, ⟨0x1B82, 0x1B82, false, 0⟩, ⟨0x1BA1, 0x1BA1, false, 0⟩,
  ⟨0x1BA2, 0x1BA5, true, 0⟩, ⟨0x1BA6, 0x1BA7, false, 0⟩, ⟨0x1BA8, 0x1BA9, true, 0⟩,
  ⟨0x1BAA, 0x1BAA, false, 9⟩, ⟨0x1BAB, 0x1BAB, true, 9⟩, ⟨0x1BAC, 0x1BAD, true, 0⟩,
  ⟨0x1BE6, 0x1BE6, true, 7⟩, ⟨0x1BE7, 0x1BE7, false, 0⟩, ⟨0x1BE8, 0x1BE9, true, 0⟩,
  ⟨0x1BEA, 0x1BEC, false, 0⟩, ⟨0x1BED, 0x1BED, true, 0⟩, ⟨0x1BEE, 0x1BEE, false, 0⟩,
  ⟨0x1BEF, 0x1BF1, true, 0⟩, ⟨0x1BF2, 0x1BF3, false, 9⟩, ⟨0x1C24, 0x1C2B, false, 0⟩,
  ⟨0x1C2C, 0x1C33, true, 0⟩, ⟨0x1C34, 0x1C35, false, 0⟩, ⟨0x1C36, 0x1C36, true, 0⟩,
  ⟨0x1C37, 0x1C37, true, 7⟩, ⟨0x1CD0, 0x1CD2, true, 230⟩, ⟨0x1CD4, 0x1CD4, true, 1⟩,
  ⟨0x1CD5, 0x1CD9, true, 220⟩, ⟨0x1CDA, 0x1CDB, true, 230⟩, ⟨0x1CDC, 0x1CDF, true, 220⟩,
  ⟨0x1CE0, 0x1CE0, true, 230⟩, ⟨0x1CE1, 0x1CE1, false, 0⟩, ⟨0x1CE2, 0x1CE8, true, 1⟩,
  ⟨0x1CED, 0x1CED, true, 220⟩, ⟨0x1CF4, 0x1CF4, true, 230⟩, ⟨0x1CF7, 0x1CF7, false, 0⟩,
  ⟨0x1CF8, 0x1CF9, true, 230⟩, ⟨0x1DC0, 0x1DC1, true, 230⟩, ⟨0x1DC2, 0x1DC2, true, 220⟩,
  ⟨0x1DC3, 0x1DC9, true, 230⟩, ⟨0x1DCA, 0x1DCA, true, 220⟩, ⟨0x1DCB, 0x1DCC, true, 230⟩,
  ⟨0x1DCD, 0x1DCD, true, 234⟩, ⟨0x1DCE, 0x1DCE, true, 214⟩, ⟨0x1DCF, 0x1DCF, true, 220⟩,
  ⟨0x1DD0, 0x1DD0, true, 202⟩, ⟨0x1DD1, 0x1DF5, true, 230⟩, ⟨0x1DF6, 0x1DF6, true, 232⟩,
  ⟨0x1DF7, 0x1DF8, true, 228⟩, ⟨0x1DF9, 0x1DF9, true, 220⟩, ⟨0x1DFA, 0x1DFA, true, 218⟩,
  ⟨0x1DFB, 0x1DFB, true, 230⟩, ⟨0x1DFC, 0x1DFC, true, 233⟩, ⟨0x1DFD, 0x1DFD, true, 220⟩,
  ⟨0x1DFE, 0x1DFE, true, 230⟩, ⟨0x1DFF, 0x1DFF, true, 220⟩, ⟨0x20D0, 0x20D1, true, 230⟩,
  ⟨0x20D2, 0x20D3, true, 1⟩, ⟨0x20D4, 0x20D7, true, 230⟩, ⟨0x20D8, 0x20DA, true, 1⟩,
  ⟨0x20DB, 0x20DC, true, 230⟩, ⟨0x20DD, 0x20E0, true, 0⟩, ⟨0x20E1, 0x20E1, true, 230⟩,
  ⟨0x20E2, 0x20E4, true, 0⟩, ⟨0x20E5, 0x20E6, true, 1⟩, ⟨0x20E7, 0x20E7, true, 230⟩,
  ⟨0x20E8, 0x20E8, true, 220⟩, ⟨0x20E9, 0x20E9, true, 230⟩, ⟨0x20EA, 0x20EB, true, 1⟩,
  ⟨0x20EC, 0x20EF, true, 220⟩, ⟨0x20F0, 0x20F0, true, 230⟩, ⟨0x2CEF, 0x2CF1, true, 230⟩,
  ⟨0x2D7F, 0x2D7F, true, 9⟩, ⟨0x2DE0, 0x2DFF, true, 230⟩, ⟨0x302A, 0x302A, true, 218⟩,
  ⟨0x302B, 0x302B, true, 228⟩, ⟨0x302C, 0x302C, true, 232⟩, ⟨0x302D, 0x302D, true, 222⟩,
  ⟨0x302E, 0x302F, false, 224⟩, ⟨0x3099, 0x309A, true, 8⟩, ⟨0xA66F, 0xA66F, true, 230⟩,
  ⟨0xA670, 0xA672, true, 0⟩, ⟨0xA674, 0xA67D, true, 230⟩, ⟨0xA69E, 0xA69F, true, 230⟩,
  ⟨0xA6F0, 0xA6F1, true, 230⟩, ⟨0xA802, 0xA802, true, 0⟩, ⟨0xA806, 0xA806, true, 9⟩,
  ⟨0xA80B, 0xA80B, true, 0⟩, ⟨0xA823, 0xA824, false, 0⟩, ⟨0xA825, 0xA826, true, 0⟩,
  ⟨0xA827, 0xA827, false, 0⟩, ⟨0xA82C, 0xA82C, true, 9⟩, ⟨0xA880, 0xA881, false, 0⟩,
  ⟨0xA8B4, 0xA8C3, false, 0⟩, ⟨0xA8C4, 0xA8C4, true, 9⟩, ⟨0xA8C5, 0xA8C5, true, 0⟩,
  ⟨0xA8E0, 0xA8F1, true, 230⟩, ⟨0xA8FF, 0xA8FF, true, 0⟩, ⟨0xA926, 0xA92A, true, 0⟩,
  ⟨0xA92B, 0xA92D, true, 220⟩, ⟨0xA947, 0xA951, true, 0⟩, ⟨0xA952, 0xA952, false, 0⟩,
  ⟨0xA953, 0xA953, false, 9⟩, ⟨0xA980, 0xA982, true, 0⟩, ⟨0xA983, 0xA983, false, 0⟩,
  ⟨0xA9B3, 0xA9B3, true, 7⟩, ⟨0xA9B4, 0xA9B5, false, 0⟩, ⟨0xA9B6, 0xA9B9, true, 0⟩,
  ⟨0xA9BA, 0xA9BB, false, 0⟩, ⟨0xA9BC, 0xA9BD, true, 0⟩, ⟨0xA9BE, 0xA9BF, false, 0⟩,
  ⟨0xA9C0, 0xA9C0, false, 9⟩, ⟨0xA9E5, 0xA9E5, true, 0⟩, ⟨0xAA29, 0xAA2E, true, 0⟩,
  ⟨0xAA2F, 0xAA30, false, 0⟩, ⟨0xAA31, 0xAA32, true, 0⟩, ⟨0xAA33, 0xAA34, false, 0⟩,
  ⟨0xAA35, 0xAA36, true, 0⟩, ⟨0xAA43, 0xAA43, true, 0⟩, ⟨0xAA4C, 0xAA4C, true, 0⟩,
  ⟨0xAA4D, 0xAA4D, false, 0⟩, ⟨0xAA7B, 0xAA7B, false, 0⟩, ⟨0xAA7C, 0xAA7C, true, 0⟩,
  ⟨0xAA7D, 0xAA7D, false, 0⟩, ⟨0xAAB0, 0xAAB0, true, 230⟩, ⟨0xAAB2, 0xAAB3, true, 230⟩,
  ⟨0xAAB4, 0xAAB4, true, 220⟩, ⟨0xAAB7, 0xAAB8, true, 230⟩, ⟨0xAABE, 0xAABF, true, 230⟩,
  ⟨0xAAC1, 0xAAC1, true, 230⟩, ⟨0xAAEB, 0xAAEB, false, 0⟩, ⟨0xAAEC, 0xAAED, true, 0⟩,
  ⟨0xAAEE, 0xAAEF, false, 0⟩, ⟨0xAAF5, 0xAAF5, false, 0⟩, ⟨0xAAF6, 0xAAF6, true, 9⟩,
  ⟨0xABE3, 0xABE4, false, 0⟩, ⟨0xABE5, 0xABE5, true, 0⟩, ⟨0xABE6, 0xABE7, false, 0⟩,
  ⟨0xABE8, 0xABE8, true, 0⟩, ⟨0xABE9, 0xABEA, false, 0⟩, ⟨0xABEC, 0xABEC, false, 0⟩,
  ⟨0xABED, 0xABED, true, 9⟩, ⟨0xFB1E, 0xFB1E, true, 26⟩, ⟨0xFE20, 0xFE26, true, 230⟩,
  ⟨0xFE27, 0xFE2D, true, 220⟩, ⟨0xFE2E, 0xFE2F, true, 230⟩, ⟨0x101FD, 0x101FD, true, 220⟩,
  ⟨0x102E0, 0x102E0, true, 220⟩, ⟨0x10376, 0x1037A, true, 230⟩, ⟨0x10A01, 0x10A0C, true, 0⟩,
  ⟨0x10A0D, 0x10A0D, true, 220⟩, ⟨0x10A0E, 0x10A0E, true, 0⟩, ⟨0x10A0F, 0x10A0F, true, 230⟩,
  ⟨0x10A38, 0x10A38, true, 230⟩, ⟨0x10A39, 0x10A39, true, 1⟩, ⟨0x10A3A, 0x10A3A, true, 220⟩,
  ⟨0x10A3F, 0x10A3F, true, 9⟩, ⟨0x10AE5, 0x10AE5, true, 230⟩, ⟨0x10AE6, 0x10AE6, true, 220⟩,
  ⟨0x10D24, 0x10D27, true, 230⟩, ⟨0x10D69, 0x10D6D, true, 230⟩, ⟨0x10EAB, 0x10EAC, true, 230⟩,
  ⟨0x10EFA, 0x10EFB, true, 220⟩, ⟨0x10EFC, 0x10EFC, true, 0⟩, ⟨0x10EFD, 0x10EFF, true, 220⟩,
  ⟨0x10F46, 0x10F47, true, 220⟩, ⟨0x10F48, 0x10F4A, true, 230⟩, ⟨0x10F4B, 0x10F4B, true, 220⟩,
  ⟨0x10F4C, 0x10F4C, true, 230⟩, ⟨0x10F4D, 0x10F50, true, 220⟩, ⟨0x10F82, 0x10F82, true, 230⟩,
  ⟨0x10F83, 0x10F83, true, 220⟩, ⟨0x10F84, 0x10F84, true, 230⟩, ⟨0x10F85, 0x10F85, true, 220⟩,
  ⟨0x11000, 0x11000, false, 0⟩, ⟨0x11001, 0x11001, true, 0⟩, ⟨0x11002, 0x11002, false, 0⟩,
  ⟨0x11038, 0x11045, true, 0⟩, ⟨0x11046, 0x11046, true, 9⟩, ⟨0x11070, 0x11070, true, 9⟩,
  ⟨0x11073, 0x11074, true, 0⟩, ⟨0x1107F, 0x1107F, true, 9⟩, ⟨0x11080, 0x11081, true, 0⟩,
  ⟨0x11082, 0x11082, false, 0⟩, ⟨0x110B0, 0x110B2, false, 0⟩, ⟨0x110B3, 0x110B6, true, 0⟩,
  ⟨0x110B7, 0x110B8, false, 0⟩, ⟨0x110B9, 0x110B9, true, 9⟩, ⟨0x110BA, 0x110BA, true, 7⟩,
  ⟨0x110C2, 0x110C2, true, 0⟩, ⟨0x11100, 0x11102, true, 230⟩, ⟨0x11127, 0x1112B, true, 0⟩,
  ⟨0x1112C, 0x1112C, false, 0⟩, ⟨0x1112D, 0x11132, true, 0⟩, ⟨0x11133, 0x11134, true, 9⟩,
  ⟨0x11145, 0x11146, false, 0⟩, ⟨0x11173, 0x11173, true, 7⟩, ⟨0x11180, 0x11181, true, 0⟩,
  ⟨0x11182, 0x11182, false, 0⟩, ⟨0x111B3, 0x111B5, false, 0⟩, ⟨0x111B6, 0x111BE, true, 0⟩,
  ⟨0x111BF, 0x111BF, false, 0⟩, ⟨0x111C0, 0x111C0, false, 9⟩, ⟨0x111C9, 0x111C9, true, 0⟩,
  ⟨0x111CA, 0x111CA, true, 7⟩, ⟨0x111CB, 0x111CC, true, 0⟩, ⟨0x111CE, 0x111CE, false, 0⟩,
  ⟨0x111CF, 0x111CF, true, 0⟩, ⟨0x1122C, 0x1122E, false, 0⟩, ⟨0x1122F, 0x11231, true, 0⟩,
  ⟨0x11232, 0x11233, false, 0⟩, ⟨0x11234, 0x11234, true, 0⟩, ⟨0x11235, 0x11235, false, 9⟩,
  ⟨0x11236, 0x11236, true, 7⟩, ⟨0x11237, 0x11237, true, 0⟩, ⟨0x1123E, 0x1123E, true, 0⟩,
  ⟨0x11241, 0x11241, true, 0⟩, ⟨0x112DF, 0x112DF, true, 0⟩, ⟨0x112E0, 0x112E2, false, 0⟩,
  ⟨0x112E3, 0x112E8, true, 0⟩, ⟨0x112E9, 0x112E9, true, 7⟩, ⟨0x112EA, 0x112EA, true, 9⟩,
  ⟨0x11300, 0x11301, true, 0⟩, ⟨0x11302, 0x11303, false, 0⟩, ⟨0x1133B, 0x1133C, true, 7⟩,
  ⟨0x1133E, 0x1133F, false, 0⟩, ⟨0x11340, 0x11340, true, 0⟩, ⟨0x11341, 0x1134C, false, 0⟩,
  ⟨0x1134D, 0x1134D, false, 9⟩, ⟨0x11357, 0x11357, false, 0⟩, ⟨0x11362, 0x11363, false, 0⟩,
  ⟨0x11366, 0x11374, true, 230⟩, ⟨0x113B8, 0x113BA, false, 0⟩, ⟨0x113BB, 0x113C0, true, 0⟩,
  ⟨0x113C2, 0x113CD, false, 0⟩, ⟨0x113CE, 0x113CE, true, 9⟩, ⟨0x113CF, 0x113CF, false, 9⟩,
  ⟨0x113D0, 0x113D0, true, 9⟩, ⟨0x113D2, 0x113D2, true, 0⟩, ⟨0x113E1, 0x113E2, true, 230⟩,
  ⟨0x11435, 0x11437, false, 0⟩, ⟨0x11438, 0x1143F, true, 0⟩, ⟨0x11440, 0x11441, false, 0⟩,
  ⟨0x11442, 0x11442, true, 9⟩, ⟨0x11443, 0x11444, true, 0⟩, ⟨0x11445, 0x11445, false, 0⟩,
  ⟨0x11446, 0x11446, true, 7⟩, ⟨0x1145E, 0x1145E, true, 230⟩, ⟨0x114B0, 0x114B2, false, 0⟩,
  ⟨0x114B3, 0x114B8, true, 0⟩, ⟨0x114B9, 0x114B9, false, 0⟩, ⟨0x114BA, 0x114BA, true, 0⟩,
  ⟨0x114BB, 0x114BE, false, 0⟩, ⟨0x114BF, 0x114C0, true, 0⟩, ⟨0x114C1, 0x114C1, false, 0⟩,
  ⟨0x114C2, 0x114C2, true, 9⟩, ⟨0x114C3, 0x114C3, true, 7⟩, ⟨0x115AF, 0x115B1, false, 0⟩,
  ⟨0x115B2, 0x115B5, true, 0⟩, ⟨0x115B8, 0x115BB, false, 0⟩, ⟨0x115BC, 0x115BD, true, 0⟩,
  ⟨0x115BE, 0x115BE, false, 0⟩, ⟨0x115BF, 0x115BF, true, 9⟩, ⟨0x115C0, 0x115C0, true, 7⟩,
  ⟨0x115DC, 0x115DD, true, 0⟩, ⟨0x11630, 0x11632, false, 0⟩, ⟨0x11633, 0x1163A, true, 0⟩,
  ⟨0x1163B, 0x1163C, false, 0⟩, ⟨0x1163D, 0x1163D, true, 0⟩, ⟨0x1163E, 0x1163E, false, 0⟩,
  ⟨0x1163F, 0x1163F, true, 9⟩, ⟨0x11640, 0x11640, true, 0⟩, ⟨0x116AB, 0x116AB, true, 0⟩,
  ⟨0x116AC, 0x116AC, false, 0⟩, ⟨0x116AD, 0x116AD, true, 0⟩, ⟨0x116AE, 0x116AF, false, 0⟩,
  ⟨0x116B0, 0x116B5, true, 0⟩, ⟨0x116B6, 0x116B6, false, 9⟩, ⟨0x116B7, 0x116B7, true, 7⟩,
  ⟨0x1171D, 0x1171D, true, 0⟩, ⟨0x1171E, 0x1171E, false, 0⟩, ⟨0x1171F, 0x1171F, true, 0⟩,
  ⟨0x11720, 0x11721, false, 0⟩, ⟨0x11722, 0x11725, true, 0⟩, ⟨0x11726, 0x11726, false, 0⟩,
  ⟨0x11727, 0x1172A, true, 0⟩, ⟨0x1172B, 0x1172B, true, 9⟩, ⟨0x1182C, 0x1182E, false, 0⟩,
  ⟨0x1182F, 0x11837, true, 0⟩, ⟨0x11838, 0x11838, false, 0⟩, ⟨0x11839, 0x11839, true, 9⟩,
  ⟨0x1183A, 0x1183A, true, 7⟩, ⟨0x11930, 0x11938, false, 0⟩, ⟨0x1193B, 0x1193C, true, 0⟩,
  ⟨0x1193D, 0x1193D, false, 9⟩, ⟨0x1193E, 0x1193E, true, 9⟩, ⟨0x11940, 0x11940, false, 0⟩,
  ⟨0x11942, 0x11942, false, 0⟩, ⟨0x11943, 0x11943, true, 7⟩, ⟨0x119D1, 0x119D3, false, 0⟩,
  ⟨0x119D4, 0x119DB, true, 0⟩, ⟨0x119DC, 0x119DF, false, 0⟩, ⟨0x119E0, 0x119E0, true, 9⟩,
  ⟨0x119E4, 0x119E4, false, 0⟩, ⟨0x11A01, 0x11A06, true, 0⟩, ⟨0x11A07, 0x11A08, false, 0⟩,
  ⟨0x11A09, 0x11A0A, true, 0⟩, ⟨0x11A33, 0x11A33, true, 0⟩, ⟨0x11A34, 0x11A34, true, 9⟩,
  ⟨0x11A35, 0x11A38, true, 0⟩, ⟨0x11A39, 0x11A39, false, 0⟩, ⟨0x11A3B, 0x11A3E, true, 0⟩,
  ⟨0x11A47, 0x11A47, true, 9⟩, ⟨0x11A51, 0x11A56, true, 0⟩, ⟨0x11A57, 0x11A58, false, 0⟩,
  ⟨0x11A59, 0x11A5B, true, 0⟩, ⟨0x11A8A, 0x11A96, true, 0⟩, ⟨0x11A97, 0x11A97, false, 0⟩,
  ⟨0x11A98, 0x11A98, true, 0⟩, ⟨0x11A99, 0x11A99, true, 9⟩, ⟨0x11B60, 0x11B60, true, 0⟩,
  ⟨0x11B61, 0x11B61, false, 0⟩, ⟨0x11B62, 0x11B64, true, 0⟩, ⟨0x11B65, 0x11B65, false, 0⟩,
  ⟨0x11B66, 0x11B66, true, 0⟩, ⟨0x11B67, 0x11B67, false, 0⟩, ⟨0x11C2F, 0x11C2F, false, 0⟩,
  ⟨0x11C30, 0x11C3D, true, 0⟩, ⟨0x11C3E, 0x11C3E, false, 0⟩, ⟨0x11C3F, 0x11C3F, false, 9⟩,
  ⟨0x11C92, 0x11CA7, true, 0⟩, ⟨0x11CA9, 0x11CA9, false, 0⟩, ⟨0x11CAA, 0x11CB0, true, 0⟩,
  ⟨0x11CB1, 0x11CB1, false, 0⟩, ⟨0x11CB2, 0x11CB3, true, 0⟩, ⟨0x11CB4, 0x11CB4, false, 0⟩,
  ⟨0x11CB5, 0x11CB6, true, 0⟩, ⟨0x11D31, 0x11D41, true, 0⟩, ⟨0x11D42, 0x11D42, true, 7⟩,
  ⟨0x11D43, 0x11D43, true, 0⟩, ⟨0x11D44, 0x11D45, true, 9⟩, ⟨0x11D47, 0x11D47, true, 0⟩,
  ⟨0x11D8A, 0x11D8E, false, 0⟩, ⟨0x11D90, 0x11D91, true, 0⟩, ⟨0x11D93, 0x11D94, false, 0⟩,
  ⟨0x11D95, 0x11D95, true, 0⟩, ⟨0x11D96, 0x11D96, false, 0⟩, ⟨0x11D97, 0x11D97, true, 9⟩,
  ⟨0x11EF3, 0x11EF4, true, 0⟩, ⟨0x11EF5, 0x11EF6, false, 0⟩, ⟨0x11F00, 0x11F01, true, 0⟩,
  ⟨0x11F03, 0x11F03, false, 0⟩, ⟨0x11F34, 0x11F35, false, 0⟩, ⟨0x11F36, 0x11F3A, true, 0⟩,
  ⟨0x11F3E, 0x11F3F, false, 0⟩, ⟨0x11F40, 0x11F40, true, 0⟩, ⟨0x11F41, 0x11F41, false, 9⟩,
  ⟨0x11F42, 0x11F42, true, 9⟩, ⟨0x11F5A, 0x11F5A, true, 7⟩, ⟨0x13440, 0x13440, true, 0⟩,
  ⟨0x13447, 0x13455, true, 0⟩, ⟨0x1611E, 0x16129, true, 0⟩, ⟨0x1612A, 0x1612C, false, 0⟩,
  ⟨0x1612D, 0x1612E, true, 0⟩, ⟨0x1612F, 0x1612F, true, 9⟩, ⟨0x16AF0, 0x16AF4, true, 1⟩,
  ⟨0x16B30, 0x16B36, true, 230⟩, ⟨0x16F4F, 0x16F4F, true, 0⟩, ⟨0x16F51, 0x16F87, false, 0⟩,
  ⟨0x16F8F, 0x16F92, true, 0⟩, ⟨0x16FE4, 0x16FE4, true, 0⟩, ⟨0x16FF0, 0x16FF1, false, 6⟩,
  ⟨0x1BC9D, 0x1BC9D, true, 0⟩, ⟨0x1BC9E, 0x1BC9E, true, 1⟩, ⟨0x1CF00, 0x1CF46, true, 0⟩,
  ⟨0x1D165, 0x1D166, false, 216⟩, ⟨0x1D167, 0x1D169, true, 1⟩, ⟨0x1D16D, 0x1D16D, false, 226⟩,
  ⟨0x1D16E, 0x1D172, false, 216⟩, ⟨0x1D17B, 0x1D182, true, 220⟩, ⟨0x1D185, 0x1D189, true, 230⟩,
  ⟨0x1D18A, 0x1D18B, true, 220⟩, ⟨0x1D1AA, 0x1D1AD, true, 230⟩, ⟨0x1D242, 0x1D244, true, 230⟩,
  ⟨0x1DA00, 0x1DA36, true, 0⟩, ⟨0x1DA3B, 0x1DA6C, true, 0⟩, ⟨0x1DA75, 0x1DA75, true, 0⟩,
  ⟨0x1DA84, 0x1DA84, true, 0⟩, ⟨0x1DA9B, 0x1DAAF, true, 0⟩, ⟨0x1E000, 0x1E08F, true, 230⟩,
  ⟨0x1E130, 0x1E136, true, 230⟩, ⟨0x1E2AE, 0x1E2AE, true, 230⟩, ⟨0x1E2EC, 0x1E2EF, true, 230⟩,
  ⟨0x1E4EC, 0x1E4ED, true, 232⟩, ⟨0x1E4EE, 0x1E4EE, true, 220⟩, ⟨0x1E4EF, 0x1E4EF, true, 230⟩,
  ⟨0x1E5EE, 0x1E5EE, true, 230⟩, ⟨0x1E5EF, 0x1E5EF, true, 220⟩, ⟨0x1E6E3, 0x1E6E3, true, 230⟩,
  ⟨0x1E6E6, 0x1E6E6, true, 230⟩, ⟨0x1E6EE, 0x1E6EF, true, 230⟩, ⟨0x1E6F5, 0x1E6F5, true, 230⟩,
  ⟨0x1E8D0, 0x1E8D6, true, 220⟩, ⟨0x1E944, 0x1E949, true, 230⟩, ⟨0x1E94A, 0x1E94A, true, 7⟩]

namespace Mark

def range? (c : Char) : Option MarkRange :=
  if c.toNat < 0x300 then none
  else markRanges.find? fun r ↦ r.first ≤ c.toNat && c.toNat ≤ r.last

/-- The class of a character. -/
def order (c : Char) : Nat := ((range? c).map (·.order)).getD 0

def isNonspacing (c : Char) : Bool := (range? c).any (·.nonspacing)

/-- The class of signs that take the vowel from a consonant. -/
def vowelKiller : Nat := 9

example : ['\u0301', '\u0327', '\u094D', 'a'].map order = [230, 202, 9, 0] := by decide +kernel

end Mark

def isMark (c : Char) : Bool := (Mark.range? c).isSome

end ServiceCall.Text
