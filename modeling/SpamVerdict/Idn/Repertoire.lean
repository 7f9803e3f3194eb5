import SpamVerdict.Text.Blank
import SpamVerdict.Text.Case
set_option autoImplicit false

/-!
# Host names of all scripts: the repertoire

Every character is either refused in a host name, or it stands for a text: for itself, for other
characters (capitals for small letters, ligatures and width forms for the letters that they are
made of), or for nothing.  `image?` gives that text.  Characters outside ASCII that have no entry
of their own here stand for their lower-case forms.

The tables are those of the edition that the hosts of endpoints follow (SPEC_FULL §13); an earlier
edition is this one without the characters that were admitted since (`Dns.laterRanges`).
-/

namespace SpamVerdict.Idn

/-! ## Tables -/

/-- The characters that are not refused, as closed ranges of code points. -/
def admittedRanges : List (Nat × Nat) :=
  [(0x0, 0x7F), (0xA0, 0x377), (0x37A, 0x37F), (0x384, 0x38A), (0x38C, 0x38C), (0x38E, 0x3A1),
   (0x3A3, 0x52F), (0x531, 0x556), (0x559, 0x58A), (0x58D, 0x58F), (0x591, 0x5C7), (0x5D0, 0x5EA),
   (0x5EF, 0x5F4), (0x606, 0x61B), (0x61D, 0x6DC), (0x6DE, 0x70D), (0x710, 0x74A), (0x74D, 0x7B1),
   (0x7C0, 0x7FA), (0x7FD, 0x82D), (0x830, 0x83E), (0x840, 0x85B), (0x85E, 0x85E), (0x860, 0x86A),
   (0x870, 0x88F), (0x897, 0x8E1), (0x8E3, 0x983), (0x985, 0x98C), (0x98F, 0x990), (0x993, 0x9A8),
   (0x9AA, 0x9B0), (0x9B2, 0x9B2), (0x9B6, 0x9B9), (0x9BC, 0x9C4), (0x9C7, 0x9C8), (0x9CB, 0x9CE),
   (0x9D7, 0x9D7), (0x9DC, 0x9DD), (0x9DF, 0x9E3), (0x9E6, 0x9FE), (0xA01, 0xA03), (0xA05, 0xA0A),
   (0xA0F, 0xA10), (0xA13, 0xA28), (0xA2A, 0xA30), (0xA32, 0xA33), (0xA35, 0xA36), (0xA38, 0xA39),
   (0xA3C, 0xA3C), (0xA3E, 0xA42), (0xA47, 0xA48), (0xA4B, 0xA4D), (0xA51, 0xA51), (0xA59, 0xA5C),
   (0xA5E, 0xA5E), (0xA66, 0xA76), (0xA81, 0xA83), (0xA85, 0xA8D), (0xA8F, 0xA91), (0xA93, 0xAA8),
   (0xAAA, 0xAB0), (0xAB2, 0xAB3), (0xAB5, 0xAB9), (0xABC, 0xAC5), (0xAC7, 0xAC9), (0xACB, 0xACD),
   (0xAD0, 0xAD0), (0xAE0, 0xAE3), (0xAE6, 0xAF1), (0xAF9, 0xAFF), (0xB01, 0xB03), (0xB05, 0xB0C),
   (0xB0F, 0xB10), (0xB13, 0xB28), (0xB2A, 0xB30), (0xB32, 0xB33), (0xB35, 0xB39), (0xB3C, 0xB44),
   (0xB47, 0xB48), (0xB4B, 0xB4D), (0xB55, 0xB57), (0xB5C, 0xB5D), (0xB5F, 0xB63), (0xB66, 0xB77),
   (0xB82, 0xB83), (0xB85, 0xB8A), (0xB8E, 0xB90), (0xB92, 0xB95), (0xB99, 0xB9A), (0xB9C, 0xB9C),
   (0xB9E, 0xB9F), (0xBA3, 0xBA4), (0xBA8, 0xBAA), (0xBAE, 0xBB9), (0xBBE, 0xBC2), (0xBC6, 0xBC8),
   (0xBCA, 0xBCD), (0xBD0, 0xBD0), (0xBD7, 0xBD7), (0xBE6, 0xBFA), (0xC00, 0xC0C), (0xC0E, 0xC10),
   (0xC12, 0xC28), (0xC2A, 0xC39), (0xC3C, 0xC44), (0xC46, 0xC48), (0xC4A, 0xC4D), (0xC55, 0xC56),
   (0xC58, 0xC5A), (0xC5C, 0xC5D), (0xC60, 0xC63), (0xC66, 0xC6F), (0xC77, 0xC8C), (0xC8E, 0xC90),
   (0xC92, 0xCA8), (0xCAA, 0xCB3), (0xCB5, 0xCB9), (0xCBC, 0xCC4), (0xCC6, 0xCC8), (0xCCA, 0xCCD),
   (0xCD5, 0xCD6), (0xCDC, 0xCDE), (0xCE0, 0xCE3), (0xCE6, 0xCEF), (0xCF1, 0xCF3), (0xD00, 0xD0C),
   (0xD0E, 0xD10), (0xD12, 0xD44), (0xD46, 0xD48), (0xD4A, 0xD4F), (0xD54, 0xD63), (0xD66, 0xD7F),
   (0xD81, 0xD83), (0xD85, 0xD96), (0xD9A, 0xDB1), (0xDB3, 0xDBB), (0xDBD, 0xDBD), (0xDC0, 0xDC6),
   (0xDCA, 0xDCA), (0xDCF, 0xDD4), (0xDD6, 0xDD6), (0xDD8, 0xDDF), (0xDE6, 0xDEF), (0xDF2, 0xDF4),
   (0xE01, 0xE3A), (0xE3F, 0xE5B), (0xE81, 0xE82), (0xE84, 0xE84), (0xE86, 0xE8A), (0xE8C, 0xEA3),
   (0xEA5, 0xEA5), (0xEA7, 0xEBD), (0xEC0, 0xEC4), (0xEC6, 0xEC6), (0xEC8, 0xECE), (0xED0, 0xED9),
   (0xEDC, 0xEDF), (0xF00, 0xF47), (0xF49, 0xF6C), (0xF71, 0xF97), (0xF99, 0xFBC), (0xFBE, 0xFCC),
   (0xFCE, 0xFDA), (0x1000, 0x10C5), (0x10C7, 0x10C7), (0x10CD, 0x10CD), (0x10D0, 0x1248),
   (0x124A, 0x124D), (0x1250, 0x1256), (0x1258, 0x1258), (0x125A, 0x125D), (0x1260, 0x1288),
   (0x128A, 0x128D), (0x1290, 0x12B0), (0x12B2, 0x12B5), (0x12B8, 0x12BE), (0x12C0, 0x12C0),
   (0x12C2, 0x12C5), (0x12C8, 0x12D6), (0x12D8, 0x1310), (0x1312, 0x1315), (0x1318, 0x135A),
   (0x135D, 0x137C), (0x1380, 0x1399), (0x13A0, 0x13F5), (0x13F8, 0x13FD), (0x1400, 0x167F),
   (0x1681, 0x169C), (0x16A0, 0x16F8), (0x1700, 0x1715), (0x171F, 0x1736), (0x1740, 0x1753),
   (0x1760, 0x176C), (0x176E, 0x1770), (0x1772, 0x1773), (0x1780, 0x17DD), (0x17E0, 0x17E9),
   (0x17F0, 0x17F9), (0x1800, 0x1819), (0x1820, 0x1878), (0x1880, 0x18AA), (0x18B0, 0x18F5),
   (0x1900, 0x191E), (0x1920, 0x192B), (0x1930, 0x193B), (0x1940, 0x1940), (0x1944, 0x196D),
   (0x1970, 0x1974), (0x1980, 0x19AB), (0x19B0, 0x19C9), (0x19D0, 0x19DA), (0x19DE, 0x1A1B),
   (0x1A1E, 0x1A5E), (0x1A60, 0x1A7C), (0x1A7F, 0x1A89), (0x1A90, 0x1A99), (0x1AA0, 0x1AAD),
   (0x1AB0, 0x1ADD), (0x1AE0, 0x1AEB), (0x1B00, 0x1B4C), (0x1B4E, 0x1BF3), (0x1BFC, 0x1C37),
   (0x1C3B, 0x1C49), (0x1C4D, 0x1C8A), (0x1C90, 0x1CBA), (0x1CBD, 0x1CC7), (0x1CD0, 0x1CFA),
   (0x1D00, 0x1F15), (0x1F18, 0x1F1D), (0x1F20, 0x1F45), (0x1F48, 0x1F4D), (0x1F50, 0x1F57),
   (0x1F59, 0x1F59), (0x1F5B, 0x1F5B), (0x1F5D, 0x1F5D), (0x1F5F, 0x1F7D), (0x1F80, 0x1FB4),
   (0x1FB6, 0x1FC4), (0x1FC6, 0x1FD3), (0x1FD6, 0x1FDB), (0x1FDD, 0x1FEF), (0x1FF2, 0x1FF4),
   (0x1FF6, 0x1FFE), (0x2000, 0x200D), (0x2010, 0x2023), (0x2027, 0x2027), (0x202F, 0x2064),
   (0x206A, 0x2071), (0x2074, 0x208E), (0x2090, 0x209C), (0x20A0, 0x20C1), (0x20D0, 0x20F0),
   (0x2100, 0x218B), (0x2190, 0x2429), (0x2440, 0x244A), (0x2460, 0x2487), (0x249C, 0x2B73),
   (0x2B76, 0x2CF3), (0x2CF9, 0x2D25), (0x2D27, 0x2D27), (0x2D2D, 0x2D2D), (0x2D30, 0x2D67),
   (0x2D6F, 0x2D70), (0x2D7F, 0x2D96), (0x2DA0, 0x2DA6), (0x2DA8, 0x2DAE), (0x2DB0, 0x2DB6),
   (0x2DB8, 0x2DBE), (0x2DC0, 0x2DC6), (0x2DC8, 0x2DCE), (0x2DD0, 0x2DD6), (0x2DD8, 0x2DDE),
   (0x2DE0, 0x2E5D), (0x2E80, 0x2E99), (0x2E9B, 0x2EF3), (0x2F00, 0x2FD5), (0x3000, 0x303F),
   (0x3041, 0x3096), (0x3099, 0x30FF), (0x3105, 0x312F), (0x3131, 0x318E), (0x3190, 0x31E5),
   (0x31F0, 0x321E), (0x3220, 0x33C1), (0x33C3, 0x33C6), (0x33C8, 0x33D7), (0x33D9, 0xA48C),
   (0xA490, 0xA4C6), (0xA4D0, 0xA62B), (0xA640, 0xA6F7), (0xA700, 0xA7DC), (0xA7F1, 0xA82C),
   (0xA830, 0xA839), (0xA840, 0xA877), (0xA880, 0xA8C5), (0xA8CE, 0xA8D9), (0xA8E0, 0xA953),
   (0xA95F, 0xA97C), (0xA980, 0xA9CD), (0xA9CF, 0xA9D9), (0xA9DE, 0xA9FE), (0xAA00, 0xAA36),
   (0xAA40, 0xAA4D), (0xAA50, 0xAA59), (0xAA5C, 0xAAC2), (0xAADB, 0xAAF6), (0xAB01, 0xAB06),
   (0xAB09, 0xAB0E), (0xAB11, 0xAB16), (0xAB20, 0xAB26), (0xAB28, 0xAB2E), (0xAB30, 0xAB6B),
   (0xAB70, 0xABED), (0xABF0, 0xABF9), (0xAC00, 0xD7A3), (0xD7B0, 0xD7C6), (0xD7CB, 0xD7FB),
   (0xF900, 0xFA6D), (0xFA70, 0xFAD9), (0xFB00, 0xFB06), (0xFB13, 0xFB17), (0xFB1D, 0xFB36),
   (0xFB38, 0xFB3C), (0xFB3E, 0xFB3E), (0xFB40, 0xFB41), (0xFB43, 0xFB44), (0xFB46, 0xFDCF),
   (0xFDF0, 0xFE11), (0xFE13, 0xFE18), (0xFE20, 0xFE2F), (0xFE31, 0xFE51), (0xFE54, 0xFE66),
   (0xFE68, 0xFE6B), (0xFE70, 0xFE74), (0xFE76, 0xFEFC), (0xFEFF, 0xFEFF), (0xFF01, 0xFFBE),
   (0xFFC2, 0xFFC7), (0xFFCA, 0xFFCF), (0xFFD2, 0xFFD7), (0xFFDA, 0xFFDC), (0xFFE0, 0xFFE6),
   (0xFFE8, 0xFFEE), (0x10000, 0x1000B), (0x1000D, 0x10026), (0x10028, 0x1003A), (0x1003C, 0x1003D),
   (0x1003F, 0x1004D), (0x10050, 0x1005D), (0x10080, 0x100FA), (0x10100, 0x10102),
   (0x10107, 0x10133), (0x10137, 0x1018E), (0x10190, 0x1019C), (0x101A0, 0x101A0),
   (0x101D0, 0x101FD), (0x10280, 0x1029C), (0x102A0, 0x102D0), (0x102E0, 0x102FB),
   (0x10300, 0x10323), (0x1032D, 0x1034A), (0x10350, 0x1037A), (0x10380, 0x1039D),
   (0x1039F, 0x103C3), (0x103C8, 0x103D5), (0x10400, 0x1049D), (0x104A0, 0x104A9),
   (0x104B0, 0x104D3), (0x104D8, 0x104FB), (0x10500, 0x10527), (0x10530, 0x10563),
   (0x1056F, 0x1057A), (0x1057C, 0x1058A), (0x1058C, 0x10592), (0x10594, 0x10595),
   (0x10597, 0x105A1), (0x105A3, 0x105B1), (0x105B3, 0x105B9), (0x105BB, 0x105BC),
   (0x105C0, 0x105F3), (0x10600, 0x10736), (0x10740, 0x10755), (0x10760, 0x10767),
   (0x10780, 0x10785), (0x10787, 0x107B0), (0x107B2, 0x107BA), (0x10800, 0x10805),
   (0x10808, 0x10808), (0x1080A, 0x10835), (0x10837, 0x10838), (0x1083C, 0x1083C),
   (0x1083F, 0x10855), (0x10857, 0x1089E), (0x108A7, 0x108AF), (0x108E0, 0x108F2),
   (0x108F4, 0x108F5), (0x108FB, 0x1091B), (0x1091F, 0x10939), (0x1093F, 0x10959),
   (0x10980, 0x109B7), (0x109BC, 0x109CF), (0x109D2, 0x10A03), (0x10A05, 0x10A06),
   (0x10A0C, 0x10A13), (0x10A15, 0x10A17), (0x10A19, 0x10A35), (0x10A38, 0x10A3A),
   (0x10A3F, 0x10A48), (0x10A50, 0x10A58), (0x10A60, 0x10A9F), (0x10AC0, 0x10AE6),
   (0x10AEB, 0x10AF6), (0x10B00, 0x10B35), (0x10B39, 0x10B55), (0x10B58, 0x10B72),
   (0x10B78, 0x10B91), (0x10B99, 0x10B9C), (0x10BA9, 0x10BAF), (0x10C00, 0x10C48),
   (0x10C80, 0x10CB2), (0x10CC0, 0x10CF2), (0x10CFA, 0x10D27), (0x10D30, 0x10D39),
   (0x10D40, 0x10D65), (0x10D69, 0x10D85), (0x10D8E, 0x10D8F), (0x10E60, 0x10E7E),
   (0x10E80, 0x10EA9), (0x10EAB, 0x10EAD), (0x10EB0, 0x10EB1), (0x10EC2, 0x10EC7),
   (0x10ED0, 0x10ED8), (0x10EFA, 0x10F27), (0x10F30, 0x10F59), (0x10F70, 0x10F89),
   (0x10FB0, 0x10FCB), (0x10FE0, 0x10FF6), (0x11000, 0x1104D), (0x11052, 0x11075),
   (0x1107F, 0x110BC), (0x110BE, 0x110C2), (0x110D0, 0x110E8), (0x110F0, 0x110F9),
   (0x11100, 0x11134), (0x11136, 0x11147), (0x11150, 0x11176), (0x11180, 0x111DF),
   (0x111E1, 0x111F4), (0x11200, 0x11211), (0x11213, 0x11241), (0x11280, 0x11286),
   (0x11288, 0x11288), (0x1128A, 0x1128D), (0x1128F, 0x1129D), (0x1129F, 0x112A9),
   (0x112B0, 0x112EA), (0x112F0, 0x112F9), (0x11300, 0x11303), (0x11305, 0x1130C),
   (0x1130F, 0x11310), (0x11313, 0x11328), (0x1132A, 0x11330), (0x11332, 0x11333),
   (0x11335, 0x11339), (0x1133B, 0x11344), (0x11347, 0x11348), (0x1134B, 0x1134D),
   (0x11350, 0x11350), (0x11357, 0x11357), (0x1135D, 0x11363), (0x11366, 0x1136C),
   (0x11370, 0x11374), (0x11380, 0x11389), (0x1138B, 0x1138B), (0x1138E, 0x1138E),
   (0x11390, 0x113B5), (0x113B7, 0x113C0), (0x113C2, 0x113C2), (0x113C5, 0x113C5),
   (0x113C7, 0x113CA), (0x113CC, 0x113D5), (0x113D7, 0x113D8), (0x113E1, 0x113E2),
   (0x11400, 0x1145B), (0x1145D, 0x11461), (0x11480, 0x114C7), (0x114D0, 0x114D9),
   (0x11580, 0x115B5), (0x115B8, 0x115DD), (0x11600, 0x11644), (0x11650, 0x11659),
   (0x11660, 0x1166C), (0x11680, 0x116B9), (0x116C0, 0x116C9), (0x116D0, 0x116E3),
   (0x11700, 0x1171A), (0x1171D, 0x1172B), (0x11730, 0x11746), (0x11800, 0x1183B),
   (0x118A0, 0x118F2), (0x118FF, 0x11906), (0x11909, 0x11909), (0x1190C, 0x11913),
   (0x11915, 0x11916), (0x11918, 0x11935), (0x11937, 0x11938), (0x1193B, 0x11946),
   (0x11950, 0x11959), (0x119A0, 0x119A7), (0x119AA, 0x119D7), (0x119DA, 0x119E4),
   (0x11A00, 0x11A47), (0x11A50, 0x11AA2), (0x11AB0, 0x11AF8), (0x11B00, 0x11B09),
   (0x11B60, 0x11B67), (0x11BC0, 0x11BE1), (0x11BF0, 0x11BF9), (0x11C00, 0x11C08),
   (0x11C0A, 0x11C36), (0x11C38, 0x11C45), (0x11C50, 0x11C6C), (0x11C70, 0x11C8F),
   (0x11C92, 0x11CA7), (0x11CA9, 0x11CB6), (0x11D00, 0x11D06), (0x11D08, 0x11D09),
   (0x11D0B, 0x11D36), (0x11D3A, 0x11D3A), (0x11D3C, 0x11D3D), (0x11D3F, 0x11D47),
   (0x11D50, 0x11D59), (0x11D60, 0x11D65), (0x11D67, 0x11D68), (0x11D6A, 0x11D8E),
   (0x11D90, 0x11D91), (0x11D93, 0x11D98), (0x11DA0, 0x11DA9), (0x11DB0, 0x11DDB),
   (0x11DE0, 0x11DE9), (0x11EE0, 0x11EF8), (0x11F00, 0x11F10), (0x11F12, 0x11F3A),
   (0x11F3E, 0x11F5A), (0x11FB0, 0x11FB0), (0x11FC0, 0x11FF1), (0x11FFF, 0x12399),
   (0x12400, 0x1246E), (0x12470, 0x12474), (0x12480, 0x12543), (0x12F90, 0x12FF2),
   (0x13000, 0x1342F), (0x13440, 0x13455), (0x13460, 0x143FA), (0x14400, 0x14646),
   (0x16100, 0x16139), (0x16800, 0x16A38), (0x16A40, 0x16A5E), (0x16A60, 0x16A69),
   (0x16A6E, 0x16ABE), (0x16AC0, 0x16AC9), (0x16AD0, 0x16AED), (0x16AF0, 0x16AF5),
   (0x16B00, 0x16B45), (0x16B50, 0x16B59), (0x16B5B, 0x16B61), (0x16B63, 0x16B77),
   (0x16B7D, 0x16B8F), (0x16D40, 0x16D79), (0x16E40, 0x16E9A), (0x16EA0, 0x16EB8),
   (0x16EBB, 0x16ED3), (0x16F00, 0x16F4A), (0x16F4F, 0x16F87), (0x16F8F, 0x16F9F),
   (0x16FE0, 0x16FE4), (0x16FF0, 0x16FF6), (0x17000, 0x18CD5), (0x18CFF, 0x18D1E),
   (0x18D80, 0x18DF2), (0x1AFF0, 0x1AFF3), (0x1AFF5, 0x1AFFB), (0x1AFFD, 0x1AFFE),
   (0x1B000, 0x1B122), (0x1B132, 0x1B132), (0x1B150, 0x1B152), (0x1B155, 0x1B155),
   (0x1B164, 0x1B167), (0x1B170, 0x1B2FB), (0x1BC00, 0x1BC6A), (0x1BC70, 0x1BC7C),
   (0x1BC80, 0x1BC88), (0x1BC90, 0x1BC99), (0x1BC9C, 0x1BCA3), (0x1CC00, 0x1CCFC),
   (0x1CD00, 0x1CEB3), (0x1CEBA, 0x1CED0), (0x1CEE0, 0x1CEF0), (0x1CF00, 0x1CF2D),
   (0x1CF30, 0x1CF46), (0x1CF50, 0x1CFC3), (0x1D000, 0x1D0F5), (0x1D100, 0x1D126),
   (0x1D129, 0x1D1EA), (0x1D200, 0x1D245), (0x1D2C0, 0x1D2D3), (0x1D2E0, 0x1D2F3),
   (0x1D300, 0x1D356), (0x1D360, 0x1D378), (0x1D400, 0x1D454), (0x1D456, 0x1D49C),
   (0x1D49E, 0x1D49F), (0x1D4A2, 0x1D4A2), (0x1D4A5, 0x1D4A6), (0x1D4A9, 0x1D4AC),
   (0x1D4AE, 0x1D4B9), (0x1D4BB, 0x1D4BB), (0x1D4BD, 0x1D4C3), (0x1D4C5, 0x1D505),
   (0x1D507, 0x1D50A), (0x1D50D, 0x1D514), (0x1D516, 0x1D51C), (0x1D51E, 0x1D539),
   (0x1D53B, 0x1D53E), (0x1D540, 0x1D544), (0x1D546, 0x1D546), (0x1D54A, 0x1D550),
   (0x1D552, 0x1D6A5), (0x1D6A8, 0x1D7CB), (0x1D7CE, 0x1DA8B), (0x1DA9B, 0x1DA9F),
   (0x1DAA1, 0x1DAAF), (0x1DF00, 0x1DF1E), (0x1DF25, 0x1DF2A), (0x1E000, 0x1E006),
   (0x1E008, 0x1E018), (0x1E01B, 0x1E021), (0x1E023, 0x1E024), (0x1E026, 0x1E02A),
   (0x1E030, 0x1E06D), (0x1E08F, 0x1E08F), (0x1E100, 0x1E12C), (0x1E130, 0x1E13D),
   (0x1E140, 0x1E149), (0x1E14E, 0x1E14F), (0x1E290, 0x1E2AE), (0x1E2C0, 0x1E2F9),
   (0x1E2FF, 0x1E2FF), (0x1E4D0, 0x1E4F9), (0x1E5D0, 0x1E5FA), (0x1E5FF, 0x1E5FF),
   (0x1E6C0, 0x1E6DE), (0x1E6E0, 0x1E6F5), (0x1E6FE, 0x1E6FF), (0x1E7E0, 0x1E7E6),
   (0x1E7E8, 0x1E7EB), (0x1E7ED, 0x1E7EE), (0x1E7F0, 0x1E7FE), (0x1E800, 0x1E8C4),
   (0x1E8C7, 0x1E8D6), (0x1E900, 0x1E94B), (0x1E950, 0x1E959), (0x1E95E, 0x1E95F),
   (0x1EC71, 0x1ECB4), (0x1ED01, 0x1ED3D), (0x1EE00, 0x1EE03), (0x1EE05, 0x1EE1F),
   (0x1EE21, 0x1EE22), (0x1EE24, 0x1EE24), (0x1EE27, 0x1EE27), (0x1EE29, 0x1EE32),
   (0x1EE34, 0x1EE37), (0x1EE39, 0x1EE39), (0x1EE3B, 0x1EE3B), (0x1EE42, 0x1EE42),
   (0x1EE47, 0x1EE47), (0x1EE49, 0x1EE49), (0x1EE4B, 0x1EE4B), (0x1EE4D, 0x1EE4F),
   (0x1EE51, 0x1EE52), (0x1EE54, 0x1EE54), (0x1EE57, 0x1EE57), (0x1EE59, 0x1EE59),
   (0x1EE5B, 0x1EE5B), (0x1EE5D, 0x1EE5D), (0x1EE5F, 0x1EE5F), (0x1EE61, 0x1EE62),
   (0x1EE64, 0x1EE64), (0x1EE67, 0x1EE6A), (0x1EE6C, 0x1EE72), (0x1EE74, 0x1EE77),
   (0x1EE79, 0x1EE7C), (0x1EE7E, 0x1EE7E), (0x1EE80, 0x1EE89), (0x1EE8B, 0x1EE9B),
   (0x1EEA1, 0x1EEA3), (0x1EEA5, 0x1EEA9), (0x1EEAB, 0x1EEBB), (0x1EEF0, 0x1EEF1),
   (0x1F000, 0x1F02B), (0x1F030, 0x1F093), (0x1F0A0, 0x1F0AE), (0x1F0B1, 0x1F0BF),
   (0x1F0C1, 0x1F0CF), (0x1F0D1, 0x1F0F5), (0x1F101, 0x1F1AD), (0x1F1E6, 0x1F202),
   (0x1F210, 0x1F23B), (0x1F240, 0x1F248), (0x1F250, 0x1F251), (0x1F260, 0x1F265),
   (0x1F300, 0x1F6D8), (0x1F6DC, 0x1F6EC), (0x1F6F0, 0x1F6FC), (0x1F700, 0x1F7D9),
   (0x1F7E0, 0x1F7EB), (0x1F7F0, 0x1F7F0), (0x1F800, 0x1F80B), (0x1F810, 0x1F847),
   (0x1F850, 0x1F859), (0x1F860, 0x1F887), (0x1F890, 0x1F8AD), (0x1F8B0, 0x1F8BB),
   (0x1F8C0, 0x1F8C1), (0x1F8D0, 0x1F8D8), (0x1F900, 0x1FA57), (0x1FA60, 0x1FA6D),
   (0x1FA70, 0x1FA7C), (0x1FA80, 0x1FA8A), (0x1FA8E, 0x1FAC6), (0x1FAC8, 0x1FAC8),
   (0x1FACD, 0x1FADC), (0x1FADF, 0x1FAEA), (0x1FAEF, 0x1FAF8), (0x1FB00, 0x1FB92),
   (0x1FB94, 0x1FBFA), (0x20000, 0x2A6DF), (0x2A700, 0x2B81D), (0x2B820, 0x2CEAD),
   (0x2CEB0, 0x2EBE0), (0x2EBF0, 0x2EE5D), (0x2F800, 0x2FA1D), (0x30000, 0x3134A),
   (0x31350, 0x33479), (0xE0100, 0xE01EF)]

/-- The characters that stand for nothing, as closed ranges of code points. -/
def droppedRanges : List (Nat × Nat) :=
  [(0xAD, 0xAD), (0x34F, 0x34F), (0x115F, 0x1160), (0x17B4, 0x17B5), (0x180B, 0x180F),
   (0x200B, 0x200B), (0x2060, 0x2064), (0x206A, 0x206F), (0x3164, 0x3164), (0xFE00, 0xFE0F),
   (0xFEFF, 0xFEFF), (0xFFA0, 0xFFA0), (0x1BCA0, 0x1BCA3), (0x1D173, 0x1D17A), (0xE0100, 0xE01EF)]

/-- Runs of characters that stand for characters in the same order: first and last code point, and
the distance to the code points that they stand for.  The capitals of the Cherokee script stay. -/
def shiftedRuns : List (Nat × Nat × Int) :=
  [(0x13A0, 0x13F5, 0), (0x13F8, 0x13FD, -8), (0x1D33, 0x1D3A, -7372), (0x1DAE, 0x1DB1, -6972),
   (0x2074, 0x2079, -8256), (0x2080, 0x2089, -8272), (0x2096, 0x2099, -8235),
   (0x2135, 0x2138, -7013), (0x2460, 0x2468, -9263), (0x24B6, 0x24CF, -9301),
   (0x24D0, 0x24E9, -9327), (0x313A, 0x313F, -8074), (0x3145, 0x314E, -8252),
   (0x314F, 0x3163, -8174), (0x3178, 0x317C, -8269), (0x3269, 0x326D, -8539),
   (0x32E4, 0x32E9, -538), (0x32EE, 0x32F2, -528), (0x32F5, 0x32FA, -525), (0x32FB, 0x32FE, -524),
   (0xAB70, 0xABBF, -38864), (0xFE41, 0xFE44, -52789), (0xFF01, 0xFF20, -65248),
   (0xFF21, 0xFF3A, -65216), (0xFF3B, 0xFF5E, -65248), (0xFF85, 0xFF8A, -52923),
   (0xFF8F, 0xFF93, -52913), (0xFF96, 0xFF9B, -52910), (0xFFAA, 0xFFAF, -60922),
   (0xFFB5, 0xFFBE, -61100), (0xFFC2, 0xFFC7, -61025), (0xFFCA, 0xFFCF, -61027),
   (0xFFD2, 0xFFD7, -61029), (0xFFE9, 0xFFEC, -56921), (0x1CCD6, 0x1CCEF, -117877),
   (0x1CCF0, 0x1CCF9, -117952), (0x1D400, 0x1D419, -119711), (0x1D41A, 0x1D433, -119737),
   (0x1D434, 0x1D44D, -119763), (0x1D44E, 0x1D454, -119789), (0x1D456, 0x1D467, -119789),
   (0x1D468, 0x1D481, -119815), (0x1D482, 0x1D49B, -119841), (0x1D4A9, 0x1D4AC, -119867),
   (0x1D4AE, 0x1D4B5, -119867), (0x1D4B6, 0x1D4B9, -119893), (0x1D4BD, 0x1D4C3, -119893),
   (0x1D4C5, 0x1D4CF, -119893), (0x1D4D0, 0x1D4E9, -119919), (0x1D4EA, 0x1D503, -119945),
   (0x1D507, 0x1D50A, -119971), (0x1D50D, 0x1D514, -119971), (0x1D516, 0x1D51C, -119971),
   (0x1D51E, 0x1D537, -119997), (0x1D53B, 0x1D53E, -120023), (0x1D540, 0x1D544, -120023),
   (0x1D54A, 0x1D550, -120023), (0x1D552, 0x1D56B, -120049), (0x1D56C, 0x1D585, -120075),
   (0x1D586, 0x1D59F, -120101), (0x1D5A0, 0x1D5B9, -120127), (0x1D5BA, 0x1D5D3, -120153),
   (0x1D5D4, 0x1D5ED, -120179), (0x1D5EE, 0x1D607, -120205), (0x1D608, 0x1D621, -120231),
   (0x1D622, 0x1D63B, -120257), (0x1D63C, 0x1D655, -120283), (0x1D656, 0x1D66F, -120309),
   (0x1D670, 0x1D689, -120335), (0x1D68A, 0x1D6A3, -120361), (0x1D6A8, 0x1D6B8, -119543),
   (0x1D6BA, 0x1D6C0, -119543), (0x1D6C2, 0x1D6D2, -119569), (0x1D6D4, 0x1D6DA, -119569),
   (0x1D6E2, 0x1D6F2, -119601), (0x1D6F4, 0x1D6FA, -119601), (0x1D6FC, 0x1D70C, -119627),
   (0x1D70E, 0x1D714, -119627), (0x1D71C, 0x1D72C, -119659), (0x1D72E, 0x1D734, -119659),
   (0x1D736, 0x1D746, -119685), (0x1D748, 0x1D74E, -119685), (0x1D756, 0x1D766, -119717),
   (0x1D768, 0x1D76E, -119717), (0x1D770, 0x1D780, -119743), (0x1D782, 0x1D788, -119743),
   (0x1D790, 0x1D7A0, -119775), (0x1D7A2, 0x1D7A8, -119775), (0x1D7AA, 0x1D7BA, -119801),
   (0x1D7BC, 0x1D7C2, -119801), (0x1D7CE, 0x1D7D7, -120734), (0x1D7D8, 0x1D7E1, -120744),
   (0x1D7E2, 0x1D7EB, -120754), (0x1D7EC, 0x1D7F5, -120764), (0x1D7F6, 0x1D7FF, -120774),
   (0x1E030, 0x1E038, -121856), (0x1E03C, 0x1E046, -121854), (0x1E051, 0x1E059, -121889),
   (0x1E05F, 0x1E064, -121884), (0x1EE0A, 0x1EE0D, -124871), (0x1EE2A, 0x1EE2D, -124903),
   (0x1F130, 0x1F149, -127183), (0x1FBF0, 0x1FBF9, -129984)]

/-- Series of characters that stand for one character each: the first code point, and what the
characters from there on stand for. -/
def series : List (Nat × String) :=
  [(0x2B0, "hɦjrɹɻʁwy"), (0x2E0, "ɣlsxʕ"), (0x3D0, "βθυύϋφπ"), (0x1C80, "вдосттъѣꙋ"),
   (0x1D3C, "oȣprtuwaɐɑᴂbdeəɛɜg"), (0x1D4F, "kmŋoɔᴖᴗptuᴝɯvᴥβγδφχiruvβγρφχ"),
   (0x1D9B, "ɒcɕðɜfɟɡɥɨɩɪᵻʝɭᶅʟɱɰ"), (0x1DB2, "ɸʂʃƫʉʊᴜʋʌzʐʑʒθ"), (0x2000, "           "),
   (0x207A, "+−=()n"), (0x208A, "+−=()"), (0x2090, "aeoxəh"), (0x210A, "ghhhhħiill"),
   (0x2119, "pqrrr"), (0x213C, "πγγπ∑"), (0x2145, "ddeij"), (0x216C, "lcdmi"), (0x217C, "lcdm"),
   (0x2F00, "一丨丶丿乙亅二亠人儿入八冂冖冫几凵刀力勹匕匚匸十卜卩厂厶又口囗土士夂夊夕大女子"),
   (0x2F27, "宀寸小尢尸屮山巛工己巾干幺广廴廾弋弓彐彡彳心戈戶手支攴文斗斤方无日曰月木欠止歹"),
   (0x2F4E, "殳毋比毛氏气水火爪父爻爿片牙牛犬玄玉瓜瓦甘生用田疋疒癶白皮皿目矛矢石示禸禾穴立"),
   (0x2F75, "竹米糸缶网羊羽老而耒耳聿肉臣自至臼舌舛舟艮色艸虍虫血行衣襾見角言谷豆豕豸貝赤走"),
   (0x2F9C, "足身車辛辰辵邑酉釆里金長門阜隶隹雨靑非面革韋韭音頁風飛食首香馬骨高髟鬥鬯鬲鬼魚"), (0x2FC3, "鳥鹵鹿麥麻黃黍黑黹黽鼎鼓鼠鼻齊齒龍龜龠"),
   (0x3131, "ᄀᄁᆪᄂᆬᆭᄃᄄᄅ"), (0x3140, "ᄚᄆᄇᄈᄡ"), (0x3165, "ᄔᄕᇇᇈᇌᇎᇓᇗᇙᄜᇝᇟᄝᄞᄠᄢᄣᄧᄩ"),
   (0x317D, "ᄲᄶᅀᅇᅌᇱᇲᅗᅘᅙᆄᆅᆈᆑᆒᆔᆞᆡ"), (0x3192, "一二三四上中下甲乙丙丁天地人"), (0x3244, "問幼文箏"),
   (0x3260, "ᄀᄂᄃᄅᄆᄇᄉᄋᄌ"), (0x326E, "가나다라마바사아자차카타파하"),
   (0x3280, "一二三四五六七八九十月火水木金土日株有社名特財祝労秘男女適優印注項休写正上中下"), (0x32A7, "左右医宗学監企資協夜"),
   (0x32D0, "アイウエオカキクケコサシスセソタチツテト"), (0x32EA, "ヒフヘホ"), (0xA7F1, "scfq"), (0xAB5C, "ꜧꬷɫꭒ"),
   (0xF900, "豈更車賈滑串句龜龜契金喇奈懶癩羅蘿螺裸邏樂洛烙珞落酪駱亂卵欄爛蘭鸞嵐濫藍襤拉臘"),
   (0xF927, "蠟廊朗浪狼郎來冷勞擄櫓爐盧老蘆虜路露魯鷺碌祿綠菉錄鹿論壟弄籠聾牢磊賂雷壘屢樓淚"),
   (0xF94E, "漏累縷陋勒肋凜凌稜綾菱陵讀拏樂諾丹寧怒率異北磻便復不泌數索參塞省葉說殺辰沈拾若"),
   (0xF975, "掠略亮兩凉梁糧良諒量勵呂女廬旅濾礪閭驪麗黎力曆歷轢年憐戀撚漣煉璉秊練聯輦蓮連鍊"),
   (0xF99C, "列劣咽烈裂說廉念捻殮簾獵令囹寧嶺怜玲瑩羚聆鈴零靈領例禮醴隸惡了僚寮尿料樂燎療蓼"),
   (0xF9C3, "遼龍暈阮劉杻柳流溜琉留硫紐類六戮陸倫崙淪輪律慄栗率隆利吏履易李梨泥理痢罹裏裡里"),
   (0xF9EA, "離匿溺吝燐璘藺隣鱗麟林淋臨立笠粒狀炙識什茶刺切度拓糖宅洞暴輻行降見廓兀嗀"), (0xFA15, "凞猪益礼神祥福靖精羽"),
   (0xFA2A, "飯飼館鶴郞隷侮僧免勉勤卑喝嘆器塀墨層屮悔慨憎懲敏既暑梅海渚漢煮爫琢碑社祉祈祐祖"), (0xFA51, "祝禍禎穀突節練縉繁署者臭艹艹著褐視謁謹賓贈辶逸難響頻恵𤋮舘"),
   (0xFA70, "並况全侀充冀勇勺喝啕喙嗢塚墳奄奔婢嬨廒廙彩徭惘慎愈憎慠懲戴揄搜摒敖晴朗望杖歹殺"),
   (0xFA97, "流滛滋漢瀞煮瞧爵犯猪瑱甆画瘝瘟益盛直睊着磌窱節类絛練缾者荒華蝹襁覆視調諸請謁諾"), (0xFABE, "諭謹變贈輸遲醙鉶陼難靖韛響頋頻鬒龜𢡊𢡄𣏕㮝䀘䀹𥉉𥳐𧻓齃龎"),
   (0xFB20, "\u05e2\u05d0\u05d3\u05d4\u05db\u05dc\u05dd\u05e8\u05ea+"),
   (0xFB50, "\u0671\u0671\u067b\u067b\u067b\u067b\u067e\u067e\u067e\u067e\u0680\u0680\u0680"),
   (0xFB5D, "\u0680\u067a\u067a\u067a\u067a\u067f\u067f\u067f\u067f\u0679\u0679\u0679\u0679"),
   (0xFB6A, "\u06a4\u06a4\u06a4\u06a4\u06a6\u06a6\u06a6\u06a6\u0684\u0684\u0684\u0684\u0683"),
   (0xFB77, "\u0683\u0683\u0683\u0686\u0686\u0686\u0686\u0687\u0687\u0687\u0687\u068d\u068d"),
   (0xFB84, "\u068c\u068c\u068e\u068e\u0688\u0688\u0698\u0698\u0691\u0691\u06a9\u06a9\u06a9"),
   (0xFB91, "\u06a9\u06af\u06af\u06af\u06af\u06b3\u06b3\u06b3\u06b3\u06b1\u06b1\u06b1\u06b1"),
   (0xFB9E, "\u06ba\u06ba\u06bb\u06bb\u06bb\u06bb\u06c0\u06c0\u06c1\u06c1\u06c1\u06c1\u06be"),
   (0xFBAB, "\u06be\u06be\u06be\u06d2\u06d2\u06d3\u06d3"),
   (0xFBD3, "\u06ad\u06ad\u06ad\u06ad\u06c7\u06c7\u06c6\u06c6\u06c8\u06c8"),
   (0xFBDE, "\u06cb\u06cb\u06c5\u06c5\u06c9\u06c9\u06d0\u06d0\u06d0\u06d0\u0649\u0649"),
   (0xFBFC, "\u06cc\u06cc\u06cc\u06cc"), (0xFE13, ":;!?〖〗"), (0xFE31, "—–__()\x7b\x7d〔〕【】《》〈〉"),
   (0xFE4D, "___,、"), (0xFE54, ";:?!—()\x7b\x7d〔〕#&*+-<>="), (0xFE68, "\x5c$%@"),
   (0xFE80, "\u0621\u0622\u0622\u0623\u0623\u0624\u0624\u0625\u0625\u0626\u0626\u0626\u0626"),
   (0xFE8D, "\u0627\u0627\u0628\u0628\u0628\u0628\u0629\u0629\u062a\u062a\u062a\u062a\u062b"),
   (0xFE9A, "\u062b\u062b\u062b\u062c\u062c\u062c\u062c\u062d\u062d\u062d\u062d\u062e\u062e"),
   (0xFEA7, "\u062e\u062e\u062f\u062f\u0630\u0630\u0631\u0631\u0632\u0632\u0633\u0633\u0633"),
   (0xFEB4, "\u0633\u0634\u0634\u0634\u0634\u0635\u0635\u0635\u0635\u0636\u0636\u0636\u0636"),
   (0xFEC1, "\u0637\u0637\u0637\u0637\u0638\u0638\u0638\u0638\u0639\u0639\u0639\u0639\u063a"),
   (0xFECE, "\u063a\u063a\u063a\u0641\u0641\u0641\u0641\u0642\u0642\u0642\u0642\u0643\u0643"),
   (0xFEDB, "\u0643\u0643\u0644\u0644\u0644\u0644\u0645\u0645\u0645\u0645\u0646\u0646\u0646"),
   (0xFEE8, "\u0646\u0647\u0647\u0647\u0647\u0648\u0648\u0649\u0649\u064a\u064a\u064a\u064a"),
   (0xFF5F, "⦅⦆.「」、・ヲァィゥェォャュョッーアイウエオカキクケコサシスセソタチツテト"), (0xFF8B, "ヒフヘホ"), (0xFF9C, "ワン\u3099\u309a"),
   (0xFFA1, "ᄀᄁᆪᄂᆬᆭᄃᄄᄅ"), (0xFFB0, "ᄚᄆᄇᄈᄡ"), (0x10781, "ːˑæʙɓ"),
   (0x10787, "ʣꭦʥʤɖɗᶑɘɞʩɤɢɠʛħʜɧʄʪʫɬ𝼄ꞎɮ𝼅ʎ𝼆øɶɷqɺ𝼈ɽɾʀʨʦꭧʧʈⱱ"), (0x107B2, "ʏʡʢʘǀǁǂ𝼊𝼞"),
   (0x1D6DB, "∂εθκφρπ"), (0x1D715, "∂εθκφρπ"), (0x1D74F, "∂εθκφρπ"), (0x1D789, "∂εθκφρπ"),
   (0x1D7C3, "∂εθκφρπϝϝ"), (0x1E047, "ыэюꚉәіјөүӏ"), (0x1E05A, "клопс"), (0x1E065, "ъыґіѕџҫꙑұ"),
   (0x1EE00, "\u0627\u0628\u062c\u062f"), (0x1EE05, "\u0648\u0632\u062d\u0637\u064a"),
   (0x1EE0E, "\u0633\u0639\u0641\u0635\u0642\u0631\u0634\u062a\u062b\u062e\u0630\u0636\u0638"),
   (0x1EE1B, "\u063a\u066e\u06ba\u06a1\u066f"), (0x1EE21, "\u0628\u062c"), (0x1EE24, "\u0647"),
   (0x1EE27, "\u062d"), (0x1EE29, "\u064a"), (0x1EE2E, "\u0633\u0639\u0641\u0635\u0642"),
   (0x1EE34, "\u0634\u062a\u062b\u062e"), (0x1EE39, "\u0636"), (0x1EE3B, "\u063a"),
   (0x1EE42, "\u062c"), (0x1EE47, "\u062d"), (0x1EE49, "\u064a"), (0x1EE4B, "\u0644"),
   (0x1EE4D, "\u0646\u0633\u0639"), (0x1EE51, "\u0635\u0642"), (0x1EE54, "\u0634"),
   (0x1EE57, "\u062e"), (0x1EE59, "\u0636"), (0x1EE5B, "\u063a"), (0x1EE5D, "\u06ba"),
   (0x1EE5F, "\u066f"), (0x1EE61, "\u0628\u062c"), (0x1EE64, "\u0647"),
   (0x1EE67, "\u062d\u0637\u064a\u0643"), (0x1EE6C, "\u0645\u0646\u0633\u0639\u0641\u0635\u0642"),
   (0x1EE74, "\u0634\u062a\u062b\u062e"), (0x1EE79, "\u0636\u0638\u063a\u066e"),
   (0x1EE7E, "\u06a1"), (0x1EE80, "\u0627\u0628\u062c\u062f\u0647\u0648\u0632\u062d\u0637\u064a"),
   (0x1EE8B, "\u0644\u0645\u0646\u0633\u0639\u0641\u0635\u0642\u0631\u0634\u062a\u062b\u062e"),
   (0x1EE98, "\u0630\u0636\u0638\u063a"), (0x1EEA1, "\u0628\u062c\u062f"),
   (0x1EEA5, "\u0648\u0632\u062d\u0637\u064a"),
   (0x1EEAB, "\u0644\u0645\u0646\u0633\u0639\u0641\u0635\u0642\u0631\u0634\u062a\u062b\u062e"),
   (0x1EEB8, "\u0630\u0636\u0638\u063a"), (0x1F210, "手字双デ二多解天交映無料前後再新初終生販声吹演投捕一三遊左中右指走打禁空合満有"),
   (0x1F237, "月申割営配"), (0x2F800, "丽丸乁𠄢你侮侻倂偺備僧像㒞𠘺免兔兤具𠔜㒹內再𠕋冗冤仌冬况𩇟凵刃㓟刻剆割剷㔕勇勉"),
   (0x2F827, "勤勺包匆北卉卑博即卽卿卿卿𠨬灰及叟𠭣叫叱吆咞吸呈周咢哶唐啓啣善善喙喫喳嗂圖嘆圗"),
   (0x2F84E, "噑噴切壮城埴堍型堲報墬𡓤売壷夆多夢奢𡚨𡛪姬娛娧姘婦㛮㛼嬈嬾嬾𡧈寃寘寧寳𡬘寿将当"),
   (0x2F875, "尢㞁屠屮峀岍𡷤嵃𡷦嵮嵫嵼巡巢㠯巽帨帽幩㡢𢆃㡼庰庳庶廊𪎒廾𢌱𢌱舁弢弢㣇𣊸𦇚形彫㣣"),
   (0x2F89C, "徚忍志忹悁㤺㤜悔𢛔惇慈慌慎慌慺憎憲憤憯懞懲懶成戛扝抱拔捐𢬌挽拼捨掃揤𢯱搢揅掩㨮"),
   (0x2F8C3, "摩摾撝摷㩬敏敬𣀊旣書晉㬙暑㬈㫤冒冕最暜肭䏙朗望朡杞杓𣏃㭉柺枅桒梅𣑭梎栟椔㮝楂榣"),
   (0x2F8EA, "槪檨𣚣櫛㰘次𣢧歔㱎歲殟殺殻𣪍𡴋𣫺汎𣲼沿泍汧洖派海流浩浸涅𣴞洴港湮㴳滋滇𣻑淹潮𣽞"),
   (0x2F911, "𣾎濆瀹瀞瀛㶖灊災灷炭𠔥煅𤉣熜𤎫爨爵牐𤘈犀犕𤜵𤠔獺王㺬玥㺸㺸瑇瑜瑱璅瓊㼛甤𤰶甾𤲒"),
   (0x2F938, "異𢆟瘐𤾡𤾸𥁄㿼䀈直𥃳𥃲𥄙𥄳眞真真睊䀹瞋䁆䂖𥐝硎碌磌䃣𥘦祖𥚚𥛅福秫䄯穀穊穏𥥼𥪧𥪧"),
   (0x2F95F, "竮䈂𥮫篆築䈧𥲀糒䊠糨糣紀𥾆絣䌁緇縂繅䌴𦈨𦉇䍙𦋙罺𦌾羕翺者𦓚𦔣聠𦖨聰𣍟䏕育脃䐋脾"),
   (0x2F986, "媵𦞧𦞵𣎓𣎜舁舄辞䑫芑芋芝劳花芳芽苦𦬼若茝荣莭茣莽菧著荓菊菌菜𦰶𦵫𦳕䔫蓱蓳蔖𧏊蕤"),
   (0x2F9AD, "𦼬䕝䕡𦾱𧃒䕫虐虜虧虩蚩蚈蜎蛢蝹蜨蝫螆䗗蟡蠁䗹衠衣𧙧裗裞䘵裺㒻𧢮𧥦䚾䛇誠諭變豕𧲨"),
   (0x2F9D4, "貫賁贛起𧼯𠠄跋趼跰𠣞軔輸𨗒𨗭邔郱鄑𨜮鄛鈸鋗鋘鉼鏹鐕𨯺開䦕閷𨵷䧦雃嶲霣𩅅𩈚䩮䩶韠"),
   (0x2F9FB, "𩐊䪲𩒖頋頋頩𩖶飢䬳餩馧駂駾䯎𩬰鬒鱀鳽䳎䳭鵧𪃎䳸𪄅𪈎𪊑麻䵖黹黾鼅鼏鼖鼻𪘀")]

/-- Single characters, each with the text that it stands for behind it, set apart by bars. -/
def spelledImages : List String :=
  ["\u00a0 |¨ \u0308|ªa|¯ \u0304|²2|³3|´ \u0301|µμ|¸ \u0327|¹1|ºo|¼1⁄4|½1⁄2|¾3⁄4|İi\u0307|Ĳij",
   "ĳij|Ŀl·|ŀl·|ŉʼn|ſs|Ǆdž|ǅdž|ǆdž|Ǉlj|ǈlj|ǉlj|Ǌnj|ǋnj|ǌnj|Ǳdz|ǲdz|ǳdz|˘ \u0306|˙ \u0307",
   "˚ \u030a|˛ \u0328|˜ \u0303|˝ \u030b|\u0340\u0300|\u0341\u0301|\u0343\u0313",
   "\u0344\u0308\u0301|\u0345ι|ʹʹ|ͺ ι|;;|΄ \u0301|΅ \u0308\u0301|··|ϰκ|ϱρ|ϲσ|ϵε|Ϲσ|ևեւ",
   "\u0675\u0627\u0674|\u0676\u0648\u0674|\u0677\u06c7\u0674|\u0678\u064a\u0674|क़क\u093c",
   "ख़ख\u093c|ग़ग\u093c|ज़ज\u093c|ड़ड\u093c|ढ़ढ\u093c|फ़फ\u093c|य़य\u093c|ড়ড\u09bc|ঢ়ঢ\u09bc|য়য\u09bc",
   "ਲ਼ਲ\u0a3c|ਸ਼ਸ\u0a3c|ਖ਼ਖ\u0a3c|ਗ਼ਗ\u0a3c|ਜ਼ਜ\u0a3c|ਫ਼ਫ\u0a3c|ଡ଼ଡ\u0b3c|ଢ଼ଢ\u0b3c|ำ\u0e4dา|ຳ\u0ecdາ",
   "ໜຫນ|ໝຫມ|༌་|གྷག\u0fb7|ཌྷཌ\u0fb7|དྷད\u0fb7|བྷབ\u0fb7|ཛྷཛ\u0fb7|ཀྵཀ\u0fb5|\u0f73\u0f71\u0f72",
   "\u0f75\u0f71\u0f74|\u0f76\u0fb2\u0f80|\u0f77\u0fb2\u0f71\u0f80|\u0f78\u0fb3\u0f80",
   "\u0f79\u0fb3\u0f71\u0f80|\u0f81\u0f71\u0f80|\u0f93\u0f92\u0fb7|\u0f9d\u0f9c\u0fb7",
   "\u0fa2\u0fa1\u0fb7|\u0fa7\u0fa6\u0fb7|\u0fac\u0fab\u0fb7|\u0fb9\u0f90\u0fb5|ჼნ|ᴬa|ᴭæ|ᴮb|ᴰd",
   "ᴱe|ᴲǝ|ᵸн|ẚaʾ|ẛṡ|άά|έέ|ήή|ίί|όό|ύύ|ώώ|ᾀἀι|ᾁἁι|ᾂἂι|ᾃἃι|ᾄἄι|ᾅἅι|ᾆἆι|ᾇἇι|ᾈἀι|ᾉἁι|ᾊἂι|ᾋἃι|ᾌἄι",
   "ᾍἅι|ᾎἆι|ᾏἇι|ᾐἠι|ᾑἡι|ᾒἢι|ᾓἣι|ᾔἤι|ᾕἥι|ᾖἦι|ᾗἧι|ᾘἠι|ᾙἡι|ᾚἢι|ᾛἣι|ᾜἤι|ᾝἥι|ᾞἦι|ᾟἧι|ᾠὠι|ᾡὡι|ᾢὢι",
   "ᾣὣι|ᾤὤι|ᾥὥι|ᾦὦι|ᾧὧι|ᾨὠι|ᾩὡι|ᾪὢι|ᾫὣι|ᾬὤι|ᾭὥι|ᾮὦι|ᾯὧι|ᾲὰι|ᾳαι|ᾴάι|ᾷᾶι|Άά|ᾼαι|᾽ \u0313|ιι",
   "᾿ \u0313|῀ \u0342|῁ \u0308\u0342|ῂὴι|ῃηι|ῄήι|ῇῆι|Έέ|Ήή|ῌηι|῍ \u0313\u0300|῎ \u0313\u0301",
   "῏ \u0313\u0342|ΐΐ|Ίί|῝ \u0314\u0300|῞ \u0314\u0301|῟ \u0314\u0342|ΰΰ|Ύύ|῭ \u0308\u0300",
   "΅ \u0308\u0301|``|ῲὼι|ῳωι|ῴώι|ῷῶι|Όό|Ώώ|ῼωι|´ \u0301|῾ \u0314|‑‐|‗ \u0333|\u202f |″′′|‴′′′",
   "‶‵‵|‷‵‵‵|‼!!|‾ \u0305|⁇??|⁈?!|⁉!?|⁗′′′′|\u205f |⁰0|ⁱi|ₚp|ₛs|ₜt|₨rs|℀a/c|℁a/s|ℂc|℃°c|℅c/o",
   "℆c/u|ℇɛ|℉°f|ℕn|№no|℠sm|℡tel|™tm|ℤz|ℨz|ℬb|ℭc|ℯe|ℰe|ℱf|ℳm|ℴo|ℹi|℻fax|⅐1⁄7|⅑1⁄9|⅒1⁄10|⅓1⁄3",
   "⅔2⁄3|⅕1⁄5|⅖2⁄5|⅗3⁄5|⅘4⁄5|⅙1⁄6|⅚5⁄6|⅛1⁄8|⅜3⁄8|⅝5⁄8|⅞7⁄8|⅟1⁄|Ⅰi|Ⅱii|Ⅲiii|Ⅳiv|Ⅴv|Ⅵvi|Ⅶvii",
   "Ⅷviii|Ⅸix|Ⅹx|Ⅺxi|Ⅻxii|ⅱii|ⅲiii|ⅳiv|ⅴv|ⅵvi|ⅶvii|ⅷviii|ⅸix|ⅹx|ⅺxi|ⅻxii|↉0⁄3|∬∫∫|∭∫∫∫|∯∮∮",
   "∰∮∮∮|〈〈|〉〉|⑩10|⑪11|⑫12|⑬13|⑭14|⑮15|⑯16|⑰17|⑱18|⑲19|⑳20|⑴(1)|⑵(2)|⑶(3)|⑷(4)|⑸(5)|⑹(6)|⑺(7)",
   "⑻(8)|⑼(9)|⑽(10)|⑾(11)|⑿(12)|⒀(13)|⒁(14)|⒂(15)|⒃(16)|⒄(17)|⒅(18)|⒆(19)|⒇(20)|⒜(a)|⒝(b)|⒞(c)",
   "⒟(d)|⒠(e)|⒡(f)|⒢(g)|⒣(h)|⒤(i)|⒥(j)|⒦(k)|⒧(l)|⒨(m)|⒩(n)|⒪(o)|⒫(p)|⒬(q)|⒭(r)|⒮(s)|⒯(t)|⒰(u)",
   "⒱(v)|⒲(w)|⒳(x)|⒴(y)|⒵(z)|⓪0|⨌∫∫∫∫|⩴::=|⩵==|⩶===|⫝̸⫝\u0338|ⱼj|ⱽv|ⵯⵡ|⺟母|⻳龟|\u3000 |。.|〶〒|〸十",
   "〹卄|〺卅|゛ \u3099|゜ \u309a|ゟより|ヿコト|㈀(ᄀ)|㈁(ᄂ)|㈂(ᄃ)|㈃(ᄅ)|㈄(ᄆ)|㈅(ᄇ)|㈆(ᄉ)|㈇(ᄋ)|㈈(ᄌ)|㈉(ᄎ)|㈊(ᄏ)",
   "㈋(ᄐ)|㈌(ᄑ)|㈍(ᄒ)|㈎(가)|㈏(나)|㈐(다)|㈑(라)|㈒(마)|㈓(바)|㈔(사)|㈕(아)|㈖(자)|㈗(차)|㈘(카)|㈙(타)|㈚(파)|㈛(하)|㈜(주)",
   "㈝(오전)|㈞(오후)|㈠(一)|㈡(二)|㈢(三)|㈣(四)|㈤(五)|㈥(六)|㈦(七)|㈧(八)|㈨(九)|㈩(十)|㈪(月)|㈫(火)|㈬(水)|㈭(木)|㈮(金)",
   "㈯(土)|㈰(日)|㈱(株)|㈲(有)|㈳(社)|㈴(名)|㈵(特)|㈶(財)|㈷(祝)|㈸(労)|㈹(代)|㈺(呼)|㈻(学)|㈼(監)|㈽(企)|㈾(資)|㈿(協)|㉀(祭)",
   "㉁(休)|㉂(自)|㉃(至)|㉐pte|㉑21|㉒22|㉓23|㉔24|㉕25|㉖26|㉗27|㉘28|㉙29|㉚30|㉛31|㉜32|㉝33|㉞34|㉟35|㉼참고|㉽주의|㉾우",
   "㊱36|㊲37|㊳38|㊴39|㊵40|㊶41|㊷42|㊸43|㊹44|㊺45|㊻46|㊼47|㊽48|㊾49|㊿50|㋀1月|㋁2月|㋂3月|㋃4月|㋄5月|㋅6月|㋆7月",
   "㋇8月|㋈9月|㋉10月|㋊11月|㋋12月|㋌hg|㋍erg|㋎ev|㋏ltd|㋳ヤ|㋴ユ|㋿令和|㌀アパート|㌁アルファ|㌂アンペア|㌃アール|㌄イニング|㌅インチ|㌆ウォン",
   "㌇エスクード|㌈エーカー|㌉オンス|㌊オーム|㌋カイリ|㌌カラット|㌍カロリー|㌎ガロン|㌏ガンマ|㌐ギガ|㌑ギニー|㌒キュリー|㌓ギルダー|㌔キロ|㌕キログラム|㌖キロメートル",
   "㌗キロワット|㌘グラム|㌙グラムトン|㌚クルゼイロ|㌛クローネ|㌜ケース|㌝コルナ|㌞コーポ|㌟サイクル|㌠サンチーム|㌡シリング|㌢センチ|㌣セント|㌤ダース|㌥デシ|㌦ドル",
   "㌧トン|㌨ナノ|㌩ノット|㌪ハイツ|㌫パーセント|㌬パーツ|㌭バーレル|㌮ピアストル|㌯ピクル|㌰ピコ|㌱ビル|㌲ファラッド|㌳フィート|㌴ブッシェル|㌵フラン|㌶ヘクタール",
   "㌷ペソ|㌸ペニヒ|㌹ヘルツ|㌺ペンス|㌻ページ|㌼ベータ|㌽ポイント|㌾ボルト|㌿ホン|㍀ポンド|㍁ホール|㍂ホーン|㍃マイクロ|㍄マイル|㍅マッハ|㍆マルク|㍇マンション",
   "㍈ミクロン|㍉ミリ|㍊ミリバール|㍋メガ|㍌メガトン|㍍メートル|㍎ヤード|㍏ヤール|㍐ユアン|㍑リットル|㍒リラ|㍓ルピー|㍔ルーブル|㍕レム|㍖レントゲン|㍗ワット|㍘0点",
   "㍙1点|㍚2点|㍛3点|㍜4点|㍝5点|㍞6点|㍟7点|㍠8点|㍡9点|㍢10点|㍣11点|㍤12点|㍥13点|㍦14点|㍧15点|㍨16点|㍩17点|㍪18点|㍫19点|㍬20点",
   "㍭21点|㍮22点|㍯23点|㍰24点|㍱hpa|㍲da|㍳au|㍴bar|㍵ov|㍶pc|㍷dm|㍸dm2|㍹dm3|㍺iu|㍻平成|㍼昭和|㍽大正|㍾明治|㍿株式会社|㎀pa",
   "㎁na|㎂μa|㎃ma|㎄ka|㎅kb|㎆mb|㎇gb|㎈cal|㎉kcal|㎊pf|㎋nf|㎌μf|㎍μg|㎎mg|㎏kg|㎐hz|㎑khz|㎒mhz|㎓ghz|㎔thz|㎕μl",
   "㎖ml|㎗dl|㎘kl|㎙fm|㎚nm|㎛μm|㎜mm|㎝cm|㎞km|㎟mm2|㎠cm2|㎡m2|㎢km2|㎣mm3|㎤cm3|㎥m3|㎦km3|㎧m∕s|㎨m∕s2|㎩pa",
   "㎪kpa|㎫mpa|㎬gpa|㎭rad|㎮rad∕s|㎯rad∕s2|㎰ps|㎱ns|㎲μs|㎳ms|㎴pv|㎵nv|㎶μv|㎷mv|㎸kv|㎹mv|㎺pw|㎻nw|㎼μw|㎽mw",
   "㎾kw|㎿mw|㏀kω|㏁mω|㏃bq|㏄cc|㏅cd|㏆c∕kg|㏈db|㏉gy|㏊ha|㏋hp|㏌in|㏍kk|㏎km|㏏kt|㏐lm|㏑ln|㏒log|㏓lx|㏔mb",
   "㏕mil|㏖mol|㏗ph|㏙ppm|㏚pr|㏛sr|㏜sv|㏝wb|㏞v∕m|㏟a∕m|㏠1日|㏡2日|㏢3日|㏣4日|㏤5日|㏥6日|㏦7日|㏧8日|㏨9日|㏩10日|㏪11日",
   "㏫12日|㏬13日|㏭14日|㏮15日|㏯16日|㏰17日|㏱18日|㏲19日|㏳20日|㏴21日|㏵22日|㏶23日|㏷24日|㏸25日|㏹26日|㏺27日|㏻28日|㏼29日",
   "㏽30日|㏾31日|㏿gal|ꚜъ|ꚝь|ꝰꝯ|ꟸħ|ꟹœ|ꭩʍ|塚塚|晴晴|蘒蘒|諸諸|逸逸|都都|ﬀff|ﬁfi|ﬂfl|ﬃffi|ﬄffl|ﬅst|ﬆst|ﬓմն|ﬔմե",
   "ﬕմի|ﬖվն|ﬗմխ|\ufb1d\u05d9\u05b4|\ufb1f\u05f2\u05b7|\ufb2a\u05e9\u05c1|\ufb2b\u05e9\u05c2",
   "\ufb2c\u05e9\u05bc\u05c1|\ufb2d\u05e9\u05bc\u05c2|\ufb2e\u05d0\u05b7|\ufb2f\u05d0\u05b8",
   "\ufb30\u05d0\u05bc|\ufb31\u05d1\u05bc|\ufb32\u05d2\u05bc|\ufb33\u05d3\u05bc",
   "\ufb34\u05d4\u05bc|\ufb35\u05d5\u05bc|\ufb36\u05d6\u05bc|\ufb38\u05d8\u05bc",
   "\ufb39\u05d9\u05bc|\ufb3a\u05da\u05bc|\ufb3b\u05db\u05bc|\ufb3c\u05dc\u05bc",
   "\ufb3e\u05de\u05bc|\ufb40\u05e0\u05bc|\ufb41\u05e1\u05bc|\ufb43\u05e3\u05bc",
   "\ufb44\u05e4\u05bc|\ufb46\u05e6\u05bc|\ufb47\u05e7\u05bc|\ufb48\u05e8\u05bc",
   "\ufb49\u05e9\u05bc|\ufb4a\u05ea\u05bc|\ufb4b\u05d5\u05b9|\ufb4c\u05d1\u05bf",
   "\ufb4d\u05db\u05bf|\ufb4e\u05e4\u05bf|\ufb4f\u05d0\u05dc|\ufbdd\u06c7\u0674",
   "\ufbea\u0626\u0627|\ufbeb\u0626\u0627|\ufbec\u0626\u06d5|\ufbed\u0626\u06d5",
   "\ufbee\u0626\u0648|\ufbef\u0626\u0648|\ufbf0\u0626\u06c7|\ufbf1\u0626\u06c7",
   "\ufbf2\u0626\u06c6|\ufbf3\u0626\u06c6|\ufbf4\u0626\u06c8|\ufbf5\u0626\u06c8",
   "\ufbf6\u0626\u06d0|\ufbf7\u0626\u06d0|\ufbf8\u0626\u06d0|\ufbf9\u0626\u0649",
   "\ufbfa\u0626\u0649|\ufbfb\u0626\u0649|\ufc00\u0626\u062c|\ufc01\u0626\u062d",
   "\ufc02\u0626\u0645|\ufc03\u0626\u0649|\ufc04\u0626\u064a|\ufc05\u0628\u062c",
   "\ufc06\u0628\u062d|\ufc07\u0628\u062e|\ufc08\u0628\u0645|\ufc09\u0628\u0649",
   "\ufc0a\u0628\u064a|\ufc0b\u062a\u062c|\ufc0c\u062a\u062d|\ufc0d\u062a\u062e",
   "\ufc0e\u062a\u0645|\ufc0f\u062a\u0649|\ufc10\u062a\u064a|\ufc11\u062b\u062c",
   "\ufc12\u062b\u0645|\ufc13\u062b\u0649|\ufc14\u062b\u064a|\ufc15\u062c\u062d",
   "\ufc16\u062c\u0645|\ufc17\u062d\u062c|\ufc18\u062d\u0645|\ufc19\u062e\u062c",
   "\ufc1a\u062e\u062d|\ufc1b\u062e\u0645|\ufc1c\u0633\u062c|\ufc1d\u0633\u062d",
   "\ufc1e\u0633\u062e|\ufc1f\u0633\u0645|\ufc20\u0635\u062d|\ufc21\u0635\u0645",
   "\ufc22\u0636\u062c|\ufc23\u0636\u062d|\ufc24\u0636\u062e|\ufc25\u0636\u0645",
   "\ufc26\u0637\u062d|\ufc27\u0637\u0645|\ufc28\u0638\u0645|\ufc29\u0639\u062c",
   "\ufc2a\u0639\u0645|\ufc2b\u063a\u062c|\ufc2c\u063a\u0645|\ufc2d\u0641\u062c",
   "\ufc2e\u0641\u062d|\ufc2f\u0641\u062e|\ufc30\u0641\u0645|\ufc31\u0641\u0649",
   "\ufc32\u0641\u064a|\ufc33\u0642\u062d|\ufc34\u0642\u0645|\ufc35\u0642\u0649",
   "\ufc36\u0642\u064a|\ufc37\u0643\u0627|\ufc38\u0643\u062c|\ufc39\u0643\u062d",
   "\ufc3a\u0643\u062e|\ufc3b\u0643\u0644|\ufc3c\u0643\u0645|\ufc3d\u0643\u0649",
   "\ufc3e\u0643\u064a|\ufc3f\u0644\u062c|\ufc40\u0644\u062d|\ufc41\u0644\u062e",
   "\ufc42\u0644\u0645|\ufc43\u0644\u0649|\ufc44\u0644\u064a|\ufc45\u0645\u062c",
   "\ufc46\u0645\u062d|\ufc47\u0645\u062e|\ufc48\u0645\u0645|\ufc49\u0645\u0649",
   "\ufc4a\u0645\u064a|\ufc4b\u0646\u062c|\ufc4c\u0646\u062d|\ufc4d\u0646\u062e",
   "\ufc4e\u0646\u0645|\ufc4f\u0646\u0649|\ufc50\u0646\u064a|\ufc51\u0647\u062c",
   "\ufc52\u0647\u0645|\ufc53\u0647\u0649|\ufc54\u0647\u064a|\ufc55\u064a\u062c",
   "\ufc56\u064a\u062d|\ufc57\u064a\u062e|\ufc58\u064a\u0645|\ufc59\u064a\u0649",
   "\ufc5a\u064a\u064a|\ufc5b\u0630\u0670|\ufc5c\u0631\u0670|\ufc5d\u0649\u0670",
   "\ufc5e \u064c\u0651|\ufc5f \u064d\u0651|\ufc60 \u064e\u0651|\ufc61 \u064f\u0651",
   "\ufc62 \u0650\u0651|\ufc63 \u0651\u0670|\ufc64\u0626\u0631|\ufc65\u0626\u0632",
   "\ufc66\u0626\u0645|\ufc67\u0626\u0646|\ufc68\u0626\u0649|\ufc69\u0626\u064a",
   "\ufc6a\u0628\u0631|\ufc6b\u0628\u0632|\ufc6c\u0628\u0645|\ufc6d\u0628\u0646",
   "\ufc6e\u0628\u0649|\ufc6f\u0628\u064a|\ufc70\u062a\u0631|\ufc71\u062a\u0632",
   "\ufc72\u062a\u0645|\ufc73\u062a\u0646|\ufc74\u062a\u0649|\ufc75\u062a\u064a",
   "\ufc76\u062b\u0631|\ufc77\u062b\u0632|\ufc78\u062b\u0645|\ufc79\u062b\u0646",
   "\ufc7a\u062b\u0649|\ufc7b\u062b\u064a|\ufc7c\u0641\u0649|\ufc7d\u0641\u064a",
   "\ufc7e\u0642\u0649|\ufc7f\u0642\u064a|\ufc80\u0643\u0627|\ufc81\u0643\u0644",
   "\ufc82\u0643\u0645|\ufc83\u0643\u0649|\ufc84\u0643\u064a|\ufc85\u0644\u0645",
   "\ufc86\u0644\u0649|\ufc87\u0644\u064a|\ufc88\u0645\u0627|\ufc89\u0645\u0645",
   "\ufc8a\u0646\u0631|\ufc8b\u0646\u0632|\ufc8c\u0646\u0645|\ufc8d\u0646\u0646",
   "\ufc8e\u0646\u0649|\ufc8f\u0646\u064a|\ufc90\u0649\u0670|\ufc91\u064a\u0631",
   "\ufc92\u064a\u0632|\ufc93\u064a\u0645|\ufc94\u064a\u0646|\ufc95\u064a\u0649",
   "\ufc96\u064a\u064a|\ufc97\u0626\u062c|\ufc98\u0626\u062d|\ufc99\u0626\u062e",
   "\ufc9a\u0626\u0645|\ufc9b\u0626\u0647|\ufc9c\u0628\u062c|\ufc9d\u0628\u062d",
   "\ufc9e\u0628\u062e|\ufc9f\u0628\u0645|\ufca0\u0628\u0647|\ufca1\u062a\u062c",
   "\ufca2\u062a\u062d|\ufca3\u062a\u062e|\ufca4\u062a\u0645|\ufca5\u062a\u0647",
   "\ufca6\u062b\u0645|\ufca7\u062c\u062d|\ufca8\u062c\u0645|\ufca9\u062d\u062c",
   "\ufcaa\u062d\u0645|\ufcab\u062e\u062c|\ufcac\u062e\u0645|\ufcad\u0633\u062c",
   "\ufcae\u0633\u062d|\ufcaf\u0633\u062e|\ufcb0\u0633\u0645|\ufcb1\u0635\u062d",
   "\ufcb2\u0635\u062e|\ufcb3\u0635\u0645|\ufcb4\u0636\u062c|\ufcb5\u0636\u062d",
   "\ufcb6\u0636\u062e|\ufcb7\u0636\u0645|\ufcb8\u0637\u062d|\ufcb9\u0638\u0645",
   "\ufcba\u0639\u062c|\ufcbb\u0639\u0645|\ufcbc\u063a\u062c|\ufcbd\u063a\u0645",
   "\ufcbe\u0641\u062c|\ufcbf\u0641\u062d|\ufcc0\u0641\u062e|\ufcc1\u0641\u0645",
   "\ufcc2\u0642\u062d|\ufcc3\u0642\u0645|\ufcc4\u0643\u062c|\ufcc5\u0643\u062d",
   "\ufcc6\u0643\u062e|\ufcc7\u0643\u0644|\ufcc8\u0643\u0645|\ufcc9\u0644\u062c",
   "\ufcca\u0644\u062d|\ufccb\u0644\u062e|\ufccc\u0644\u0645|\ufccd\u0644\u0647",
   "\ufcce\u0645\u062c|\ufccf\u0645\u062d|\ufcd0\u0645\u062e|\ufcd1\u0645\u0645",
   "\ufcd2\u0646\u062c|\ufcd3\u0646\u062d|\ufcd4\u0646\u062e|\ufcd5\u0646\u0645",
   "\ufcd6\u0646\u0647|\ufcd7\u0647\u062c|\ufcd8\u0647\u0645|\ufcd9\u0647\u0670",
   "\ufcda\u064a\u062c|\ufcdb\u064a\u062d|\ufcdc\u064a\u062e|\ufcdd\u064a\u0645",
   "\ufcde\u064a\u0647|\ufcdf\u0626\u0645|\ufce0\u0626\u0647|\ufce1\u0628\u0645",
   "\ufce2\u0628\u0647|\ufce3\u062a\u0645|\ufce4\u062a\u0647|\ufce5\u062b\u0645",
   "\ufce6\u062b\u0647|\ufce7\u0633\u0645|\ufce8\u0633\u0647|\ufce9\u0634\u0645",
   "\ufcea\u0634\u0647|\ufceb\u0643\u0644|\ufcec\u0643\u0645|\ufced\u0644\u0645",
   "\ufcee\u0646\u0645|\ufcef\u0646\u0647|\ufcf0\u064a\u0645|\ufcf1\u064a\u0647",
   "\ufcf2\u0640\u064e\u0651|\ufcf3\u0640\u064f\u0651|\ufcf4\u0640\u0650\u0651",
   "\ufcf5\u0637\u0649|\ufcf6\u0637\u064a|\ufcf7\u0639\u0649|\ufcf8\u0639\u064a",
   "\ufcf9\u063a\u0649|\ufcfa\u063a\u064a|\ufcfb\u0633\u0649|\ufcfc\u0633\u064a",
   "\ufcfd\u0634\u0649|\ufcfe\u0634\u064a|\ufcff\u062d\u0649|\ufd00\u062d\u064a",
   "\ufd01\u062c\u0649|\ufd02\u062c\u064a|\ufd03\u062e\u0649|\ufd04\u062e\u064a",
   "\ufd05\u0635\u0649|\ufd06\u0635\u064a|\ufd07\u0636\u0649|\ufd08\u0636\u064a",
   "\ufd09\u0634\u062c|\ufd0a\u0634\u062d|\ufd0b\u0634\u062e|\ufd0c\u0634\u0645",
   "\ufd0d\u0634\u0631|\ufd0e\u0633\u0631|\ufd0f\u0635\u0631|\ufd10\u0636\u0631",
   "\ufd11\u0637\u0649|\ufd12\u0637\u064a|\ufd13\u0639\u0649|\ufd14\u0639\u064a",
   "\ufd15\u063a\u0649|\ufd16\u063a\u064a|\ufd17\u0633\u0649|\ufd18\u0633\u064a",
   "\ufd19\u0634\u0649|\ufd1a\u0634\u064a|\ufd1b\u062d\u0649|\ufd1c\u062d\u064a",
   "\ufd1d\u062c\u0649|\ufd1e\u062c\u064a|\ufd1f\u062e\u0649|\ufd20\u062e\u064a",
   "\ufd21\u0635\u0649|\ufd22\u0635\u064a|\ufd23\u0636\u0649|\ufd24\u0636\u064a",
   "\ufd25\u0634\u062c|\ufd26\u0634\u062d|\ufd27\u0634\u062e|\ufd28\u0634\u0645",
   "\ufd29\u0634\u0631|\ufd2a\u0633\u0631|\ufd2b\u0635\u0631|\ufd2c\u0636\u0631",
   "\ufd2d\u0634\u062c|\ufd2e\u0634\u062d|\ufd2f\u0634\u062e|\ufd30\u0634\u0645",
   "\ufd31\u0633\u0647|\ufd32\u0634\u0647|\ufd33\u0637\u0645|\ufd34\u0633\u062c",
   "\ufd35\u0633\u062d|\ufd36\u0633\u062e|\ufd37\u0634\u062c|\ufd38\u0634\u062d",
   "\ufd39\u0634\u062e|\ufd3a\u0637\u0645|\ufd3b\u0638\u0645|\ufd3c\u0627\u064b",
   "\ufd3d\u0627\u064b|\ufd50\u062a\u062c\u0645|\ufd51\u062a\u062d\u062c",
   "\ufd52\u062a\u062d\u062c|\ufd53\u062a\u062d\u0645|\ufd54\u062a\u062e\u0645",
   "\ufd55\u062a\u0645\u062c|\ufd56\u062a\u0645\u062d|\ufd57\u062a\u0645\u062e",
   "\ufd58\u062c\u0645\u062d|\ufd59\u062c\u0645\u062d|\ufd5a\u062d\u0645\u064a",
   "\ufd5b\u062d\u0645\u0649|\ufd5c\u0633\u062d\u062c|\ufd5d\u0633\u062c\u062d",
   "\ufd5e\u0633\u062c\u0649|\ufd5f\u0633\u0645\u062d|\ufd60\u0633\u0645\u062d",
   "\ufd61\u0633\u0645\u062c|\ufd62\u0633\u0645\u0645|\ufd63\u0633\u0645\u0645",
   "\ufd64\u0635\u062d\u062d|\ufd65\u0635\u062d\u062d|\ufd66\u0635\u0645\u0645",
   "\ufd67\u0634\u062d\u0645|\ufd68\u0634\u062d\u0645|\ufd69\u0634\u062c\u064a",
   "\ufd6a\u0634\u0645\u062e|\ufd6b\u0634\u0645\u062e|\ufd6c\u0634\u0645\u0645",
   "\ufd6d\u0634\u0645\u0645|\ufd6e\u0636\u062d\u0649|\ufd6f\u0636\u062e\u0645",
   "\ufd70\u0636\u062e\u0645|\ufd71\u0637\u0645\u062d|\ufd72\u0637\u0645\u062d",
   "\ufd73\u0637\u0645\u0645|\ufd74\u0637\u0645\u064a|\ufd75\u0639\u062c\u0645",
   "\ufd76\u0639\u0645\u0645|\ufd77\u0639\u0645\u0645|\ufd78\u0639\u0645\u0649",
   "\ufd79\u063a\u0645\u0645|\ufd7a\u063a\u0645\u064a|\ufd7b\u063a\u0645\u0649",
   "\ufd7c\u0641\u062e\u0645|\ufd7d\u0641\u062e\u0645|\ufd7e\u0642\u0645\u062d",
   "\ufd7f\u0642\u0645\u0645|\ufd80\u0644\u062d\u0645|\ufd81\u0644\u062d\u064a",
   "\ufd82\u0644\u062d\u0649|\ufd83\u0644\u062c\u062c|\ufd84\u0644\u062c\u062c",
   "\ufd85\u0644\u062e\u0645|\ufd86\u0644\u062e\u0645|\ufd87\u0644\u0645\u062d",
   "\ufd88\u0644\u0645\u062d|\ufd89\u0645\u062d\u062c|\ufd8a\u0645\u062d\u0645",
   "\ufd8b\u0645\u062d\u064a|\ufd8c\u0645\u062c\u062d|\ufd8d\u0645\u062c\u0645",
   "\ufd8e\u0645\u062e\u062c|\ufd8f\u0645\u062e\u0645|\ufd92\u0645\u062c\u062e",
   "\ufd93\u0647\u0645\u062c|\ufd94\u0647\u0645\u0645|\ufd95\u0646\u062d\u0645",
   "\ufd96\u0646\u062d\u0649|\ufd97\u0646\u062c\u0645|\ufd98\u0646\u062c\u0645",
   "\ufd99\u0646\u062c\u0649|\ufd9a\u0646\u0645\u064a|\ufd9b\u0646\u0645\u0649",
   "\ufd9c\u064a\u0645\u0645|\ufd9d\u064a\u0645\u0645|\ufd9e\u0628\u062e\u064a",
   "\ufd9f\u062a\u062c\u064a|\ufda0\u062a\u062c\u0649|\ufda1\u062a\u062e\u064a",
   "\ufda2\u062a\u062e\u0649|\ufda3\u062a\u0645\u064a|\ufda4\u062a\u0645\u0649",
   "\ufda5\u062c\u0645\u064a|\ufda6\u062c\u062d\u0649|\ufda7\u062c\u0645\u0649",
   "\ufda8\u0633\u062e\u0649|\ufda9\u0635\u062d\u064a|\ufdaa\u0634\u062d\u064a",
   "\ufdab\u0636\u062d\u064a|\ufdac\u0644\u062c\u064a|\ufdad\u0644\u0645\u064a",
   "\ufdae\u064a\u062d\u064a|\ufdaf\u064a\u062c\u064a|\ufdb0\u064a\u0645\u064a",
   "\ufdb1\u0645\u0645\u064a|\ufdb2\u0642\u0645\u064a|\ufdb3\u0646\u062d\u064a",
   "\ufdb4\u0642\u0645\u062d|\ufdb5\u0644\u062d\u0645|\ufdb6\u0639\u0645\u064a",
   "\ufdb7\u0643\u0645\u064a|\ufdb8\u0646\u062c\u062d|\ufdb9\u0645\u062e\u064a",
   "\ufdba\u0644\u062c\u0645|\ufdbb\u0643\u0645\u0645|\ufdbc\u0644\u062c\u0645",
   "\ufdbd\u0646\u062c\u062d|\ufdbe\u062c\u062d\u064a|\ufdbf\u062d\u062c\u064a",
   "\ufdc0\u0645\u062c\u064a|\ufdc1\u0641\u0645\u064a|\ufdc2\u0628\u062d\u064a",
   "\ufdc3\u0643\u0645\u0645|\ufdc4\u0639\u062c\u0645|\ufdc5\u0635\u0645\u0645",
   "\ufdc6\u0633\u062e\u064a|\ufdc7\u0646\u062c\u064a|\ufdf0\u0635\u0644\u06d2",
   "\ufdf1\u0642\u0644\u06d2|\ufdf2\u0627\u0644\u0644\u0647|\ufdf3\u0627\u0643\u0628\u0631",
   "\ufdf4\u0645\u062d\u0645\u062f|\ufdf5\u0635\u0644\u0639\u0645",
   "\ufdf6\u0631\u0633\u0648\u0644|\ufdf7\u0639\u0644\u064a\u0647",
   "\ufdf8\u0648\u0633\u0644\u0645|\ufdf9\u0635\u0644\u0649",
   "\ufdfb\u062c\u0644 \u062c\u0644\u0627\u0644\u0647|\ufdfc\u0631\u06cc\u0627\u0644|︐,|︑、|﹇[",
   "﹈]|﹉ \u0305|﹊ \u0305|﹋ \u0305|﹌ \u0305|\ufe70 \u064b|\ufe71\u0640\u064b|\ufe72 \u064c",
   "\ufe74 \u064d|\ufe76 \u064e|\ufe77\u0640\u064e|\ufe78 \u064f|\ufe79\u0640\u064f",
   "\ufe7a \u0650|\ufe7b\u0640\u0650|\ufe7c \u0651|\ufe7d\u0640\u0651|\ufe7e \u0652",
   "\ufe7f\u0640\u0652|\ufef5\u0644\u0622|\ufef6\u0644\u0622|\ufef7\u0644\u0623",
   "\ufef8\u0644\u0623|\ufef9\u0644\u0625|\ufefa\u0644\u0625|\ufefb\u0644\u0627",
   "\ufefc\u0644\u0627|ﾔヤ|ﾕユ|ￚᅳ|ￛᅴ|ￜᅵ|￠¢|￡£|￢¬|￣ \u0304|￤¦|￥¥|￦₩|￨│|￭■|￮○|𝒜a|𝒞c|𝒟d|𝒢g|𝒥j|𝒦k|𝒻f",
   "𝔄a|𝔅b|𝔸a|𝔹b|𝕆o|𝚤ı|𝚥ȷ|𝚹θ|𝛁∇|𝛓σ|𝛳θ|𝛻∇|𝜍σ|𝜭θ|𝜵∇|𝝇σ|𝝧θ|𝝯∇|𝞁σ|𝞡θ|𝞩∇|𝞻σ|𞀹к|𞀺л|𞀻м|🄁0,|🄂1,|🄃2,|🄄3,",
   "🄅4,|🄆5,|🄇6,|🄈7,|🄉8,|🄊9,|🄐(a)|🄑(b)|🄒(c)|🄓(d)|🄔(e)|🄕(f)|🄖(g)|🄗(h)|🄘(i)|🄙(j)|🄚(k)|🄛(l)|🄜(m)",
   "🄝(n)|🄞(o)|🄟(p)|🄠(q)|🄡(r)|🄢(s)|🄣(t)|🄤(u)|🄥(v)|🄦(w)|🄧(x)|🄨(y)|🄩(z)|🄪〔s〕|🄫c|🄬r|🄭cd|🄮wz|🅊hv",
   "🅋mv|🅌sd|🅍ss|🅎ppv|🅏wc|🅪mc|🅫md|🅬mr|🆐dj|🈀ほか|🈁ココ|🈂サ|🉀〔本〕|🉁〔三〕|🉂〔二〕|🉃〔安〕|🉄〔点〕|🉅〔打〕|🉆〔盗〕|🉇〔勝〕",
   "🉈〔敗〕|🉐得|🉑可"]

/-- Characters whose images are given by code points: one that stands for a whole sentence, and
the notes of musical scores, which stand for the signs that they are made of. -/
def numberedImages : List (Nat × List Nat) :=
  [(0xFDFA, [0x635, 0x644, 0x649, 0x20, 0x627, 0x644, 0x644, 0x647,
    0x20, 0x639, 0x644, 0x64A, 0x647, 0x20, 0x648, 0x633, 0x644, 0x645]),
   (0x1D15E, [0x1D157, 0x1D165]), (0x1D15F, [0x1D158, 0x1D165]),
   (0x1D160, [0x1D158, 0x1D165, 0x1D16E]), (0x1D161, [0x1D158, 0x1D165, 0x1D16F]),
   (0x1D162, [0x1D158, 0x1D165, 0x1D170]), (0x1D163, [0x1D158, 0x1D165, 0x1D171]),
   (0x1D164, [0x1D158, 0x1D165, 0x1D172]), (0x1D1BB, [0x1D1B9, 0x1D165]),
   (0x1D1BC, [0x1D1BA, 0x1D165]), (0x1D1BD, [0x1D1B9, 0x1D165, 0x1D16E]),
   (0x1D1BE, [0x1D1BA, 0x1D165, 0x1D16E]), (0x1D1BF, [0x1D1B9, 0x1D165, 0x1D16F]),
   (0x1D1C0, [0x1D1BA, 0x1D165, 0x1D16F])]

/-! ## What characters stand for -/

/-- The images that the series give. -/
def imagesOfSeries : List (Char × List Char) :=
  series.flatMap fun (start, texts) =>
    texts.toList.zipIdx.map fun (c, i) => (Char.ofNat (start + i), [c])

/-- The images that the single entries give. -/
def imagesOfEntries : List (Char × List Char) :=
  spelledImages.flatMap fun line => (Text.split (· == '|') line.toList).filterMap fun entry =>
    match entry with
    | [] => none
    | c :: image => some (c, image)

/-- All characters with an image of their own. -/
def images : List (Char × List Char) :=
  imagesOfSeries ++ imagesOfEntries ++
    numberedImages.map fun (c, image) => (Char.ofNat c, image.map Char.ofNat)

/-- A character whose image is read off the tables, the ranges aside. -/
def tableImage (c : Char) : List Char :=
  match shiftedRuns.find? fun (first, last, _) => first ≤ c.toNat && c.toNat ≤ last with
  | some (_, _, shift) => [Char.ofNat (c.toNat + shift).toNat]
  | none => (images.lookup c).getD [Text.lowerChar c]

/-- The text that a character stands for in a host name; `none` for one that is refused. -/
def image? (c : Char) : Option (List Char) :=
  if c.toNat < 128 then some [c.toLower]
  else if !Text.inRanges admittedRanges c.toNat then none
  else if Text.inRanges droppedRanges c.toNat then some []
  else some (tableImage c)

/-- A character that stands for itself. -/
def isLasting (c : Char) : Bool := image? c == some [c]

end SpamVerdict.Idn
