import ParseFlow.Text.Runs

/-!
# Ages of characters

The version of the standard a character was assigned in. Versions are counted in tenths.
-/
namespace ParseFlow.Text

def assignedIn11 : Intervals := [
  (0x0, 0x1f5), (0x1fa, 0x217), (0x250, 0x2a8), (0x2b0, 0x2de), (0x2e0, 0x2e9), (0x300, 0x345),
  (0x360, 0x361), (0x374, 0x375), (0x37a, 0x37a), (0x37e, 0x37e), (0x384, 0x38a), (0x38c, 0x38c),
  (0x38e, 0x3a1), (0x3a3, 0x3ce), (0x3d0, 0x3d6), (0x3da, 0x3da), (0x3dc, 0x3dc), (0x3de, 0x3de),
  (0x3e0, 0x3e0), (0x3e2, 0x3f3), (0x401, 0x40c), (0x40e, 0x44f), (0x451, 0x45c), (0x45e, 0x486),
  (0x490, 0x4c4), (0x4c7, 0x4c8), (0x4cb, 0x4cc), (0x4d0, 0x4eb), (0x4ee, 0x4f5), (0x4f8, 0x4f9),
  (0x531, 0x556), (0x559, 0x55f), (0x561, 0x587), (0x589, 0x589), (0x5b0, 0x5b9), (0x5bb, 0x5c3),
  (0x5d0, 0x5ea), (0x5f0, 0x5f4), (0x60c, 0x60c), (0x61b, 0x61b), (0x61f, 0x61f), (0x621, 0x63a),
  (0x640, 0x652), (0x660, 0x66d), (0x670, 0x6b7), (0x6ba, 0x6be), (0x6c0, 0x6ce), (0x6d0, 0x6ed),
  (0x6f0, 0x6f9), (0x901, 0x903), (0x905, 0x939), (0x93c, 0x94d), (0x950, 0x954), (0x958, 0x970),
  (0x981, 0x983), (0x985, 0x98c), (0x98f, 0x990), (0x993, 0x9a8), (0x9aa, 0x9b0), (0x9b2, 0x9b2),
  (0x9b6, 0x9b9), (0x9bc, 0x9bc), (0x9be, 0x9c4), (0x9c7, 0x9c8), (0x9cb, 0x9cd), (0x9d7, 0x9d7),
  (0x9dc, 0x9dd), (0x9df, 0x9e3), (0x9e6, 0x9fa), (0xa02, 0xa02), (0xa05, 0xa0a), (0xa0f, 0xa10),
  (0xa13, 0xa28), (0xa2a, 0xa30), (0xa32, 0xa33), (0xa35, 0xa36), (0xa38, 0xa39), (0xa3c, 0xa3c),
  (0xa3e, 0xa42), (0xa47, 0xa48), (0xa4b, 0xa4d), (0xa59, 0xa5c), (0xa5e, 0xa5e), (0xa66, 0xa74),
  (0xa81, 0xa83), (0xa85, 0xa8b), (0xa8d, 0xa8d), (0xa8f, 0xa91), (0xa93, 0xaa8), (0xaaa, 0xab0),
  (0xab2, 0xab3), (0xab5, 0xab9), (0xabc, 0xac5), (0xac7, 0xac9), (0xacb, 0xacd), (0xad0, 0xad0),
  (0xae0, 0xae0), (0xae6, 0xaef), (0xb01, 0xb03), (0xb05, 0xb0c), (0xb0f, 0xb10), (0xb13, 0xb28),
  (0xb2a, 0xb30), (0xb32, 0xb33), (0xb36, 0xb39), (0xb3c, 0xb43), (0xb47, 0xb48), (0xb4b, 0xb4d),
  (0xb56, 0xb57), (0xb5c, 0xb5d), (0xb5f, 0xb61), (0xb66, 0xb70), (0xb82, 0xb83), (0xb85, 0xb8a),
  (0xb8e, 0xb90), (0xb92, 0xb95), (0xb99, 0xb9a), (0xb9c, 0xb9c), (0xb9e, 0xb9f), (0xba3, 0xba4),
  (0xba8, 0xbaa), (0xbae, 0xbb5), (0xbb7, 0xbb9), (0xbbe, 0xbc2), (0xbc6, 0xbc8), (0xbca, 0xbcd),
  (0xbd7, 0xbd7), (0xbe7, 0xbf2), (0xc01, 0xc03), (0xc05, 0xc0c), (0xc0e, 0xc10), (0xc12, 0xc28),
  (0xc2a, 0xc33), (0xc35, 0xc39), (0xc3e, 0xc44), (0xc46, 0xc48), (0xc4a, 0xc4d), (0xc55, 0xc56),
  (0xc60, 0xc61), (0xc66, 0xc6f), (0xc82, 0xc83), (0xc85, 0xc8c), (0xc8e, 0xc90), (0xc92, 0xca8),
  (0xcaa, 0xcb3), (0xcb5, 0xcb9), (0xcbe, 0xcc4), (0xcc6, 0xcc8), (0xcca, 0xccd), (0xcd5, 0xcd6),
  (0xcde, 0xcde), (0xce0, 0xce1), (0xce6, 0xcef), (0xd02, 0xd03), (0xd05, 0xd0c), (0xd0e, 0xd10),
  (0xd12, 0xd28), (0xd2a, 0xd39), (0xd3e, 0xd43), (0xd46, 0xd48), (0xd4a, 0xd4d), (0xd57, 0xd57),
  (0xd60, 0xd61), (0xd66, 0xd6f), (0xe01, 0xe3a), (0xe3f, 0xe5b), (0xe81, 0xe82), (0xe84, 0xe84),
  (0xe87, 0xe88), (0xe8a, 0xe8a), (0xe8d, 0xe8d), (0xe94, 0xe97), (0xe99, 0xe9f), (0xea1, 0xea3),
  (0xea5, 0xea5), (0xea7, 0xea7), (0xeaa, 0xeab), (0xead, 0xeb9), (0xebb, 0xebd), (0xec0, 0xec4),
  (0xec6, 0xec6), (0xec8, 0xecd), (0xed0, 0xed9), (0xedc, 0xedd), (0x10a0, 0x10c5),
  (0x10d0, 0x10f6), (0x10fb, 0x10fb), (0x1100, 0x1159), (0x115f, 0x11a2), (0x11a8, 0x11f9),
  (0x1e00, 0x1e9a), (0x1ea0, 0x1ef9), (0x1f00, 0x1f15), (0x1f18, 0x1f1d), (0x1f20, 0x1f45),
  (0x1f48, 0x1f4d), (0x1f50, 0x1f57), (0x1f59, 0x1f59), (0x1f5b, 0x1f5b), (0x1f5d, 0x1f5d),
  (0x1f5f, 0x1f7d), (0x1f80, 0x1fb4), (0x1fb6, 0x1fc4), (0x1fc6, 0x1fd3), (0x1fd6, 0x1fdb),
  (0x1fdd, 0x1fef), (0x1ff2, 0x1ff4), (0x1ff6, 0x1ffe), (0x2000, 0x202e), (0x2030, 0x2046),
  (0x206a, 0x2070), (0x2074, 0x208e), (0x20a0, 0x20aa), (0x20d0, 0x20e1), (0x2100, 0x2138),
  (0x2153, 0x2182), (0x2190, 0x21ea), (0x2200, 0x22f1), (0x2300, 0x2300), (0x2302, 0x237a),
  (0x2400, 0x2424), (0x2440, 0x244a), (0x2460, 0x24ea), (0x2500, 0x2595), (0x25a0, 0x25ef),
  (0x2600, 0x2613), (0x261a, 0x266f), (0x2701, 0x2704), (0x2706, 0x2709), (0x270c, 0x2727),
  (0x2729, 0x274b), (0x274d, 0x274d), (0x274f, 0x2752), (0x2756, 0x2756), (0x2758, 0x275e),
  (0x2761, 0x2767), (0x2776, 0x2794), (0x2798, 0x27af), (0x27b1, 0x27be), (0x3000, 0x3037),
  (0x303f, 0x303f), (0x3041, 0x3094), (0x3099, 0x309e), (0x30a1, 0x30fe), (0x3105, 0x312c),
  (0x3131, 0x318e), (0x3190, 0x319f), (0x3200, 0x321c), (0x3220, 0x3243), (0x3260, 0x327b),
  (0x327f, 0x32b0), (0x32c0, 0x32cb), (0x32d0, 0x32fe), (0x3300, 0x3376), (0x337b, 0x33dd),
  (0x33e0, 0x33fe), (0x4e00, 0x9fa5), (0xe000, 0xfa2d), (0xfb00, 0xfb06), (0xfb13, 0xfb17),
  (0xfb1e, 0xfb36), (0xfb38, 0xfb3c), (0xfb3e, 0xfb3e), (0xfb40, 0xfb41), (0xfb43, 0xfb44),
  (0xfb46, 0xfbb1), (0xfbd3, 0xfd3f), (0xfd50, 0xfd8f), (0xfd92, 0xfdc7), (0xfdf0, 0xfdfb),
  (0xfe20, 0xfe23), (0xfe30, 0xfe44), (0xfe49, 0xfe52), (0xfe54, 0xfe66), (0xfe68, 0xfe6b),
  (0xfe70, 0xfe72), (0xfe74, 0xfe74), (0xfe76, 0xfefc), (0xfeff, 0xfeff), (0xff01, 0xff5e),
  (0xff61, 0xffbe), (0xffc2, 0xffc7), (0xffca, 0xffcf), (0xffd2, 0xffd7), (0xffda, 0xffdc),
  (0xffe0, 0xffe6), (0xffe8, 0xffee), (0xfffd, 0xffff)]

def assignedIn20 : Intervals := [
  (0x591, 0x5a1), (0x5a3, 0x5af), (0x5c4, 0x5c4), (0xf00, 0xf47), (0xf49, 0xf69), (0xf71, 0xf8b),
  (0xf90, 0xf95), (0xf97, 0xf97), (0xf99, 0xfad), (0xfb1, 0xfb7), (0xfb9, 0xfb9), (0x1e9b, 0x1e9b),
  (0x20ab, 0x20ab), (0xac00, 0xd7a3), (0x1fffe, 0x1ffff), (0x2fffe, 0x2ffff), (0x3fffe, 0x3ffff),
  (0x4fffe, 0x4ffff), (0x5fffe, 0x5ffff), (0x6fffe, 0x6ffff), (0x7fffe, 0x7ffff),
  (0x8fffe, 0x8ffff), (0x9fffe, 0x9ffff), (0xafffe, 0xaffff), (0xbfffe, 0xbffff),
  (0xcfffe, 0xcffff), (0xdfffe, 0xdffff), (0xefffe, 0x10ffff)]

def assignedIn21 : Intervals := [
  (0x20ac, 0x20ac), (0xfffc, 0xfffc)]

def assignedIn30 : Intervals := [
  (0x1f6, 0x1f9), (0x218, 0x21f), (0x222, 0x233), (0x2a9, 0x2ad), (0x2df, 0x2df), (0x2ea, 0x2ee),
  (0x346, 0x34e), (0x362, 0x362), (0x3d7, 0x3d7), (0x3db, 0x3db), (0x3dd, 0x3dd), (0x3df, 0x3df),
  (0x3e1, 0x3e1), (0x400, 0x400), (0x40d, 0x40d), (0x450, 0x450), (0x45d, 0x45d), (0x488, 0x489),
  (0x48c, 0x48f), (0x4ec, 0x4ed), (0x58a, 0x58a), (0x653, 0x655), (0x6b8, 0x6b9), (0x6bf, 0x6bf),
  (0x6cf, 0x6cf), (0x6fa, 0x6fe), (0x700, 0x70d), (0x70f, 0x72c), (0x730, 0x74a), (0x780, 0x7b0),
  (0xd82, 0xd83), (0xd85, 0xd96), (0xd9a, 0xdb1), (0xdb3, 0xdbb), (0xdbd, 0xdbd), (0xdc0, 0xdc6),
  (0xdca, 0xdca), (0xdcf, 0xdd4), (0xdd6, 0xdd6), (0xdd8, 0xddf), (0xdf2, 0xdf4), (0xf6a, 0xf6a),
  (0xf96, 0xf96), (0xfae, 0xfb0), (0xfb8, 0xfb8), (0xfba, 0xfbc), (0xfbe, 0xfcc), (0xfcf, 0xfcf),
  (0x1000, 0x1021), (0x1023, 0x1027), (0x1029, 0x102a), (0x102c, 0x1032), (0x1036, 0x1039),
  (0x1040, 0x1059), (0x1200, 0x1206), (0x1208, 0x1246), (0x1248, 0x1248), (0x124a, 0x124d),
  (0x1250, 0x1256), (0x1258, 0x1258), (0x125a, 0x125d), (0x1260, 0x1286), (0x1288, 0x1288),
  (0x128a, 0x128d), (0x1290, 0x12ae), (0x12b0, 0x12b0), (0x12b2, 0x12b5), (0x12b8, 0x12be),
  (0x12c0, 0x12c0), (0x12c2, 0x12c5), (0x12c8, 0x12ce), (0x12d0, 0x12d6), (0x12d8, 0x12ee),
  (0x12f0, 0x130e), (0x1310, 0x1310), (0x1312, 0x1315), (0x1318, 0x131e), (0x1320, 0x1346),
  (0x1348, 0x135a), (0x1361, 0x137c), (0x13a0, 0x13f4), (0x1401, 0x1676), (0x1680, 0x169c),
  (0x16a0, 0x16f0), (0x1780, 0x17dc), (0x17e0, 0x17e9), (0x1800, 0x180e), (0x1810, 0x1819),
  (0x1820, 0x1877), (0x1880, 0x18a9), (0x202f, 0x202f), (0x2048, 0x204d), (0x20ad, 0x20af),
  (0x20e2, 0x20e3), (0x2139, 0x213a), (0x2183, 0x2183), (0x21eb, 0x21f3), (0x2301, 0x2301),
  (0x237b, 0x237b), (0x237d, 0x239a), (0x2425, 0x2426), (0x25f0, 0x25f7), (0x2619, 0x2619),
  (0x2670, 0x2671), (0x2800, 0x28ff), (0x2e80, 0x2e99), (0x2e9b, 0x2ef3), (0x2f00, 0x2fd5),
  (0x2ff0, 0x2ffb), (0x3038, 0x303a), (0x303e, 0x303e), (0x31a0, 0x31b7), (0x3400, 0x4db5),
  (0xa000, 0xa48c), (0xa490, 0xa4a1), (0xa4a4, 0xa4b3), (0xa4b5, 0xa4c0), (0xa4c2, 0xa4c4),
  (0xa4c6, 0xa4c6), (0xfb1d, 0xfb1d), (0xfff9, 0xfffb)]

def assignedIn31 : Intervals := [
  (0x3f4, 0x3f5), (0xfdd0, 0xfdef), (0x10300, 0x1031e), (0x10320, 0x10323), (0x10330, 0x1034a),
  (0x10400, 0x10425), (0x10428, 0x1044d), (0x1d000, 0x1d0f5), (0x1d100, 0x1d126),
  (0x1d12a, 0x1d1dd), (0x1d400, 0x1d454), (0x1d456, 0x1d49c), (0x1d49e, 0x1d49f),
  (0x1d4a2, 0x1d4a2), (0x1d4a5, 0x1d4a6), (0x1d4a9, 0x1d4ac), (0x1d4ae, 0x1d4b9),
  (0x1d4bb, 0x1d4bb), (0x1d4bd, 0x1d4c0), (0x1d4c2, 0x1d4c3), (0x1d4c5, 0x1d505),
  (0x1d507, 0x1d50a), (0x1d50d, 0x1d514), (0x1d516, 0x1d51c), (0x1d51e, 0x1d539),
  (0x1d53b, 0x1d53e), (0x1d540, 0x1d544), (0x1d546, 0x1d546), (0x1d54a, 0x1d550),
  (0x1d552, 0x1d6a3), (0x1d6a8, 0x1d7c9), (0x1d7ce, 0x1d7ff), (0x20000, 0x2a6d6),
  (0x2f800, 0x2fa1d), (0xe0001, 0xe0001), (0xe0020, 0xe007f)]

def assignedIn32 : Intervals := [
  (0x220, 0x220), (0x34f, 0x34f), (0x363, 0x36f), (0x3d8, 0x3d9), (0x3f6, 0x3f6), (0x48a, 0x48b),
  (0x4c5, 0x4c6), (0x4c9, 0x4ca), (0x4cd, 0x4ce), (0x500, 0x50f), (0x66e, 0x66f), (0x7b1, 0x7b1),
  (0x10f7, 0x10f8), (0x1700, 0x170c), (0x170e, 0x1714), (0x1720, 0x1736), (0x1740, 0x1753),
  (0x1760, 0x176c), (0x176e, 0x1770), (0x1772, 0x1773), (0x2047, 0x2047), (0x204e, 0x2052),
  (0x2057, 0x2057), (0x205f, 0x2063), (0x2071, 0x2071), (0x20b0, 0x20b1), (0x20e4, 0x20ea),
  (0x213d, 0x214b), (0x21f4, 0x21ff), (0x22f2, 0x22ff), (0x237c, 0x237c), (0x239b, 0x23ce),
  (0x24eb, 0x24fe), (0x2596, 0x259f), (0x25f8, 0x25ff), (0x2616, 0x2617), (0x2672, 0x267d),
  (0x2680, 0x2689), (0x2768, 0x2775), (0x27d0, 0x27eb), (0x27f0, 0x27ff), (0x2900, 0x2aff),
  (0x303b, 0x303d), (0x3095, 0x3096), (0x309f, 0x30a0), (0x30ff, 0x30ff), (0x31f0, 0x31ff),
  (0x3251, 0x325f), (0x32b1, 0x32bf), (0xa4a2, 0xa4a3), (0xa4b4, 0xa4b4), (0xa4c1, 0xa4c1),
  (0xa4c5, 0xa4c5), (0xfa30, 0xfa6a), (0xfdfc, 0xfdfc), (0xfe00, 0xfe0f), (0xfe45, 0xfe46),
  (0xfe73, 0xfe73), (0xff5f, 0xff60)]

def assignedIn40 : Intervals := [
  (0x221, 0x221), (0x234, 0x236), (0x2ae, 0x2af), (0x2ef, 0x2ff), (0x350, 0x357), (0x35d, 0x35f),
  (0x3f7, 0x3fb), (0x600, 0x603), (0x60d, 0x615), (0x656, 0x658), (0x6ee, 0x6ef), (0x6ff, 0x6ff),
  (0x72d, 0x72f), (0x74d, 0x74f), (0x904, 0x904), (0x9bd, 0x9bd), (0xa01, 0xa01), (0xa03, 0xa03),
  (0xa8c, 0xa8c), (0xae1, 0xae3), (0xaf1, 0xaf1), (0xb35, 0xb35), (0xb71, 0xb71), (0xbf3, 0xbfa),
  (0xcbc, 0xcbd), (0x17dd, 0x17dd), (0x17f0, 0x17f9), (0x1900, 0x191c), (0x1920, 0x192b),
  (0x1930, 0x193b), (0x1940, 0x1940), (0x1944, 0x196d), (0x1970, 0x1974), (0x19e0, 0x19ff),
  (0x1d00, 0x1d6b), (0x2053, 0x2054), (0x213b, 0x213b), (0x23cf, 0x23d0), (0x24ff, 0x24ff),
  (0x2614, 0x2615), (0x268a, 0x2691), (0x26a0, 0x26a1), (0x2b00, 0x2b0d), (0x321d, 0x321e),
  (0x3250, 0x3250), (0x327c, 0x327d), (0x32cc, 0x32cf), (0x3377, 0x337a), (0x33de, 0x33df),
  (0x33ff, 0x33ff), (0x4dc0, 0x4dff), (0xfdfd, 0xfdfd), (0xfe47, 0xfe48), (0x10000, 0x1000b),
  (0x1000d, 0x10026), (0x10028, 0x1003a), (0x1003c, 0x1003d), (0x1003f, 0x1004d),
  (0x10050, 0x1005d), (0x10080, 0x100fa), (0x10100, 0x10102), (0x10107, 0x10133),
  (0x10137, 0x1013f), (0x10380, 0x1039d), (0x1039f, 0x1039f), (0x10426, 0x10427),
  (0x1044e, 0x1049d), (0x104a0, 0x104a9), (0x10800, 0x10805), (0x10808, 0x10808),
  (0x1080a, 0x10835), (0x10837, 0x10838), (0x1083c, 0x1083c), (0x1083f, 0x1083f),
  (0x1d300, 0x1d356), (0x1d4c1, 0x1d4c1), (0xe0100, 0xe01ef)]

def assignedIn41 : Intervals := [
  (0x237, 0x241), (0x358, 0x35c), (0x3fc, 0x3ff), (0x4f6, 0x4f7), (0x5a2, 0x5a2), (0x5c5, 0x5c7),
  (0x60b, 0x60b), (0x61e, 0x61e), (0x659, 0x65e), (0x750, 0x76d), (0x97d, 0x97d), (0x9ce, 0x9ce),
  (0xbb6, 0xbb6), (0xbe6, 0xbe6), (0xfd0, 0xfd1), (0x10f9, 0x10fa), (0x10fc, 0x10fc),
  (0x1207, 0x1207), (0x1247, 0x1247), (0x1287, 0x1287), (0x12af, 0x12af), (0x12cf, 0x12cf),
  (0x12ef, 0x12ef), (0x130f, 0x130f), (0x131f, 0x131f), (0x1347, 0x1347), (0x135f, 0x1360),
  (0x1380, 0x1399), (0x1980, 0x19a9), (0x19b0, 0x19c9), (0x19d0, 0x19d9), (0x19de, 0x19df),
  (0x1a00, 0x1a1b), (0x1a1e, 0x1a1f), (0x1d6c, 0x1dc3), (0x2055, 0x2056), (0x2058, 0x205e),
  (0x2090, 0x2094), (0x20b2, 0x20b5), (0x20eb, 0x20eb), (0x213c, 0x213c), (0x214c, 0x214c),
  (0x23d1, 0x23db), (0x2618, 0x2618), (0x267e, 0x267f), (0x2692, 0x269c), (0x26a2, 0x26b1),
  (0x27c0, 0x27c6), (0x2b0e, 0x2b13), (0x2c00, 0x2c2e), (0x2c30, 0x2c5e), (0x2c80, 0x2cea),
  (0x2cf9, 0x2d25), (0x2d30, 0x2d65), (0x2d6f, 0x2d6f), (0x2d80, 0x2d96), (0x2da0, 0x2da6),
  (0x2da8, 0x2dae), (0x2db0, 0x2db6), (0x2db8, 0x2dbe), (0x2dc0, 0x2dc6), (0x2dc8, 0x2dce),
  (0x2dd0, 0x2dd6), (0x2dd8, 0x2dde), (0x2e00, 0x2e17), (0x2e1c, 0x2e1d), (0x31c0, 0x31cf),
  (0x327e, 0x327e), (0x9fa6, 0x9fbb), (0xa700, 0xa716), (0xa800, 0xa82b), (0xfa70, 0xfad9),
  (0xfe10, 0xfe19), (0x10140, 0x1018a), (0x103a0, 0x103c3), (0x103c8, 0x103d5), (0x10a00, 0x10a03),
  (0x10a05, 0x10a06), (0x10a0c, 0x10a13), (0x10a15, 0x10a17), (0x10a19, 0x10a33),
  (0x10a38, 0x10a3a), (0x10a3f, 0x10a47), (0x10a50, 0x10a58), (0x1d200, 0x1d245), (0x1d6a4, 0x1d6a5)]

def assignedIn50 : Intervals := [
  (0x242, 0x24f), (0x37b, 0x37d), (0x4cf, 0x4cf), (0x4fa, 0x4ff), (0x510, 0x513), (0x5ba, 0x5ba),
  (0x7c0, 0x7fa), (0x97b, 0x97c), (0x97e, 0x97f), (0xce2, 0xce3), (0xcf1, 0xcf2), (0x1b00, 0x1b4b),
  (0x1b50, 0x1b7c), (0x1dc4, 0x1dca), (0x1dfe, 0x1dff), (0x20ec, 0x20ef), (0x214d, 0x214e),
  (0x2184, 0x2184), (0x23dc, 0x23e7), (0x26b2, 0x26b2), (0x27c7, 0x27ca), (0x2b14, 0x2b1a),
  (0x2b20, 0x2b23), (0x2c60, 0x2c6c), (0x2c74, 0x2c77), (0xa717, 0xa71a), (0xa720, 0xa721),
  (0xa840, 0xa877), (0x10900, 0x10919), (0x1091f, 0x1091f), (0x12000, 0x1236e), (0x12400, 0x12462),
  (0x12470, 0x12473), (0x1d360, 0x1d371), (0x1d7ca, 0x1d7cb)]

def assignedIn51 : Intervals := [
  (0x370, 0x373), (0x376, 0x377), (0x3cf, 0x3cf), (0x487, 0x487), (0x514, 0x523), (0x606, 0x60a),
  (0x616, 0x61a), (0x63b, 0x63f), (0x76e, 0x77f), (0x971, 0x972), (0xa51, 0xa51), (0xa75, 0xa75),
  (0xb44, 0xb44), (0xb62, 0xb63), (0xbd0, 0xbd0), (0xc3d, 0xc3d), (0xc58, 0xc59), (0xc62, 0xc63),
  (0xc78, 0xc7f), (0xd3d, 0xd3d), (0xd44, 0xd44), (0xd62, 0xd63), (0xd70, 0xd75), (0xd79, 0xd7f),
  (0xf6b, 0xf6c), (0xfce, 0xfce), (0xfd2, 0xfd4), (0x1022, 0x1022), (0x1028, 0x1028),
  (0x102b, 0x102b), (0x1033, 0x1035), (0x103a, 0x103f), (0x105a, 0x1099), (0x109e, 0x109f),
  (0x18aa, 0x18aa), (0x1b80, 0x1baa), (0x1bae, 0x1bb9), (0x1c00, 0x1c37), (0x1c3b, 0x1c49),
  (0x1c4d, 0x1c7f), (0x1dcb, 0x1de6), (0x1e9c, 0x1e9f), (0x1efa, 0x1eff), (0x2064, 0x2064),
  (0x20f0, 0x20f0), (0x214f, 0x214f), (0x2185, 0x2188), (0x269d, 0x269d), (0x26b3, 0x26bc),
  (0x26c0, 0x26c3), (0x27cc, 0x27cc), (0x27ec, 0x27ef), (0x2b1b, 0x2b1f), (0x2b24, 0x2b4c),
  (0x2b50, 0x2b54), (0x2c6d, 0x2c6f), (0x2c71, 0x2c73), (0x2c78, 0x2c7d), (0x2de0, 0x2dff),
  (0x2e18, 0x2e1b), (0x2e1e, 0x2e30), (0x312d, 0x312d), (0x31d0, 0x31e3), (0x9fbc, 0x9fc3),
  (0xa500, 0xa62b), (0xa640, 0xa65f), (0xa662, 0xa673), (0xa67c, 0xa697), (0xa71b, 0xa71f),
  (0xa722, 0xa78c), (0xa7fb, 0xa7ff), (0xa880, 0xa8c4), (0xa8ce, 0xa8d9), (0xa900, 0xa953),
  (0xa95f, 0xa95f), (0xaa00, 0xaa36), (0xaa40, 0xaa4d), (0xaa50, 0xaa59), (0xaa5c, 0xaa5f),
  (0xfe24, 0xfe26), (0x10190, 0x1019b), (0x101d0, 0x101fd), (0x10280, 0x1029c), (0x102a0, 0x102d0),
  (0x10920, 0x10939), (0x1093f, 0x1093f), (0x1d129, 0x1d129), (0x1f000, 0x1f02b), (0x1f030, 0x1f093)]

def assignedIn52 : Intervals := [
  (0x524, 0x525), (0x800, 0x82d), (0x830, 0x83e), (0x900, 0x900), (0x94e, 0x94e), (0x955, 0x955),
  (0x979, 0x97a), (0x9fb, 0x9fb), (0xfd5, 0xfd8), (0x109a, 0x109d), (0x115a, 0x115e),
  (0x11a3, 0x11a7), (0x11fa, 0x11ff), (0x1400, 0x1400), (0x1677, 0x167f), (0x18b0, 0x18f5),
  (0x19aa, 0x19ab), (0x19da, 0x19da), (0x1a20, 0x1a5e), (0x1a60, 0x1a7c), (0x1a7f, 0x1a89),
  (0x1a90, 0x1a99), (0x1aa0, 0x1aad), (0x1cd0, 0x1cf2), (0x1dfd, 0x1dfd), (0x20b6, 0x20b8),
  (0x2150, 0x2152), (0x2189, 0x2189), (0x23e8, 0x23e8), (0x269e, 0x269f), (0x26bd, 0x26bf),
  (0x26c4, 0x26cd), (0x26cf, 0x26e1), (0x26e3, 0x26e3), (0x26e8, 0x26ff), (0x2757, 0x2757),
  (0x2b55, 0x2b59), (0x2c70, 0x2c70), (0x2c7e, 0x2c7f), (0x2ceb, 0x2cf1), (0x2e31, 0x2e31),
  (0x3244, 0x324f), (0x9fc4, 0x9fcb), (0xa4d0, 0xa4ff), (0xa6a0, 0xa6f7), (0xa830, 0xa839),
  (0xa8e0, 0xa8fb), (0xa960, 0xa97c), (0xa980, 0xa9cd), (0xa9cf, 0xa9d9), (0xa9de, 0xa9df),
  (0xaa60, 0xaa7b), (0xaa80, 0xaac2), (0xaadb, 0xaadf), (0xabc0, 0xabed), (0xabf0, 0xabf9),
  (0xd7b0, 0xd7c6), (0xd7cb, 0xd7fb), (0xfa6b, 0xfa6d), (0x10840, 0x10855), (0x10857, 0x1085f),
  (0x1091a, 0x1091b), (0x10a60, 0x10a7f), (0x10b00, 0x10b35), (0x10b39, 0x10b55),
  (0x10b58, 0x10b72), (0x10b78, 0x10b7f), (0x10c00, 0x10c48), (0x10e60, 0x10e7e),
  (0x11080, 0x110c1), (0x13000, 0x1342e), (0x1f100, 0x1f10a), (0x1f110, 0x1f12e),
  (0x1f131, 0x1f131), (0x1f13d, 0x1f13d), (0x1f13f, 0x1f13f), (0x1f142, 0x1f142),
  (0x1f146, 0x1f146), (0x1f14a, 0x1f14e), (0x1f157, 0x1f157), (0x1f15f, 0x1f15f),
  (0x1f179, 0x1f179), (0x1f17b, 0x1f17c), (0x1f17f, 0x1f17f), (0x1f18a, 0x1f18d),
  (0x1f190, 0x1f190), (0x1f200, 0x1f200), (0x1f210, 0x1f231), (0x1f240, 0x1f248), (0x2a700, 0x2b734)]

def assignedIn60 : Intervals := [
  (0x526, 0x527), (0x620, 0x620), (0x65f, 0x65f), (0x840, 0x85b), (0x85e, 0x85e), (0x93a, 0x93b),
  (0x94f, 0x94f), (0x956, 0x957), (0x973, 0x977), (0xb72, 0xb77), (0xd29, 0xd29), (0xd3a, 0xd3a),
  (0xd4e, 0xd4e), (0xf8c, 0xf8f), (0xfd9, 0xfda), (0x135d, 0x135e), (0x1bc0, 0x1bf3),
  (0x1bfc, 0x1bff), (0x1dfc, 0x1dfc), (0x2095, 0x209c), (0x20b9, 0x20b9), (0x23e9, 0x23f3),
  (0x26ce, 0x26ce), (0x26e2, 0x26e2), (0x26e4, 0x26e7), (0x2705, 0x2705), (0x270a, 0x270b),
  (0x2728, 0x2728), (0x274c, 0x274c), (0x274e, 0x274e), (0x2753, 0x2755), (0x275f, 0x2760),
  (0x2795, 0x2797), (0x27b0, 0x27b0), (0x27bf, 0x27bf), (0x27ce, 0x27cf), (0x2d70, 0x2d70),
  (0x2d7f, 0x2d7f), (0x31b8, 0x31ba), (0xa660, 0xa661), (0xa78d, 0xa78e), (0xa790, 0xa791),
  (0xa7a0, 0xa7a9), (0xa7fa, 0xa7fa), (0xab01, 0xab06), (0xab09, 0xab0e), (0xab11, 0xab16),
  (0xab20, 0xab26), (0xab28, 0xab2e), (0xfbb2, 0xfbc1), (0x11000, 0x1104d), (0x11052, 0x1106f),
  (0x16800, 0x16a38), (0x1b000, 0x1b001), (0x1f0a0, 0x1f0ae), (0x1f0b1, 0x1f0be),
  (0x1f0c1, 0x1f0cf), (0x1f0d1, 0x1f0df), (0x1f130, 0x1f130), (0x1f132, 0x1f13c),
  (0x1f13e, 0x1f13e), (0x1f140, 0x1f141), (0x1f143, 0x1f145), (0x1f147, 0x1f149),
  (0x1f14f, 0x1f156), (0x1f158, 0x1f15e), (0x1f160, 0x1f169), (0x1f170, 0x1f178),
  (0x1f17a, 0x1f17a), (0x1f17d, 0x1f17e), (0x1f180, 0x1f189), (0x1f18e, 0x1f18f),
  (0x1f191, 0x1f19a), (0x1f1e6, 0x1f1ff), (0x1f201, 0x1f202), (0x1f232, 0x1f23a),
  (0x1f250, 0x1f251), (0x1f300, 0x1f320), (0x1f330, 0x1f335), (0x1f337, 0x1f37c),
  (0x1f380, 0x1f393), (0x1f3a0, 0x1f3c4), (0x1f3c6, 0x1f3ca), (0x1f3e0, 0x1f3f0),
  (0x1f400, 0x1f43e), (0x1f440, 0x1f440), (0x1f442, 0x1f4f7), (0x1f4f9, 0x1f4fc),
  (0x1f500, 0x1f53d), (0x1f550, 0x1f567), (0x1f5fb, 0x1f5ff), (0x1f601, 0x1f610),
  (0x1f612, 0x1f614), (0x1f616, 0x1f616), (0x1f618, 0x1f618), (0x1f61a, 0x1f61a),
  (0x1f61c, 0x1f61e), (0x1f620, 0x1f625), (0x1f628, 0x1f62b), (0x1f62d, 0x1f62d),
  (0x1f630, 0x1f633), (0x1f635, 0x1f640), (0x1f645, 0x1f64f), (0x1f680, 0x1f6c5),
  (0x1f700, 0x1f773), (0x2b740, 0x2b81d)]

def assignedIn61 : Intervals := [
  (0x58f, 0x58f), (0x604, 0x604), (0x8a0, 0x8a0), (0x8a2, 0x8ac), (0x8e4, 0x8fe), (0xaf0, 0xaf0),
  (0xede, 0xedf), (0x10c7, 0x10c7), (0x10cd, 0x10cd), (0x10fd, 0x10ff), (0x1bab, 0x1bad),
  (0x1bba, 0x1bbf), (0x1cc0, 0x1cc7), (0x1cf3, 0x1cf6), (0x27cb, 0x27cb), (0x27cd, 0x27cd),
  (0x2cf2, 0x2cf3), (0x2d27, 0x2d27), (0x2d2d, 0x2d2d), (0x2d66, 0x2d67), (0x2e32, 0x2e3b),
  (0x9fcc, 0x9fcc), (0xa674, 0xa67b), (0xa69f, 0xa69f), (0xa792, 0xa793), (0xa7aa, 0xa7aa),
  (0xa7f8, 0xa7f9), (0xaae0, 0xaaf6), (0xfa2e, 0xfa2f), (0x10980, 0x109b7), (0x109be, 0x109bf),
  (0x110d0, 0x110e8), (0x110f0, 0x110f9), (0x11100, 0x11134), (0x11136, 0x11143),
  (0x11180, 0x111c8), (0x111d0, 0x111d9), (0x11680, 0x116b7), (0x116c0, 0x116c9),
  (0x16f00, 0x16f44), (0x16f50, 0x16f7e), (0x16f8f, 0x16f9f), (0x1ee00, 0x1ee03),
  (0x1ee05, 0x1ee1f), (0x1ee21, 0x1ee22), (0x1ee24, 0x1ee24), (0x1ee27, 0x1ee27),
  (0x1ee29, 0x1ee32), (0x1ee34, 0x1ee37), (0x1ee39, 0x1ee39), (0x1ee3b, 0x1ee3b),
  (0x1ee42, 0x1ee42), (0x1ee47, 0x1ee47), (0x1ee49, 0x1ee49), (0x1ee4b, 0x1ee4b),
  (0x1ee4d, 0x1ee4f), (0x1ee51, 0x1ee52), (0x1ee54, 0x1ee54), (0x1ee57, 0x1ee57),
  (0x1ee59, 0x1ee59), (0x1ee5b, 0x1ee5b), (0x1ee5d, 0x1ee5d), (0x1ee5f, 0x1ee5f),
  (0x1ee61, 0x1ee62), (0x1ee64, 0x1ee64), (0x1ee67, 0x1ee6a), (0x1ee6c, 0x1ee72),
  (0x1ee74, 0x1ee77), (0x1ee79, 0x1ee7c), (0x1ee7e, 0x1ee7e), (0x1ee80, 0x1ee89),
  (0x1ee8b, 0x1ee9b), (0x1eea1, 0x1eea3), (0x1eea5, 0x1eea9), (0x1eeab, 0x1eebb),
  (0x1eef0, 0x1eef1), (0x1f16a, 0x1f16b), (0x1f540, 0x1f543), (0x1f600, 0x1f600),
  (0x1f611, 0x1f611), (0x1f615, 0x1f615), (0x1f617, 0x1f617), (0x1f619, 0x1f619),
  (0x1f61b, 0x1f61b), (0x1f61f, 0x1f61f), (0x1f626, 0x1f627), (0x1f62c, 0x1f62c),
  (0x1f62e, 0x1f62f), (0x1f634, 0x1f634)]

def assignedIn62 : Intervals := [
  (0x20ba, 0x20ba)]

def assignedIn63 : Intervals := [
  (0x61c, 0x61c), (0x2066, 0x2069)]

def assignedIn70 : Intervals := [
  (0x37f, 0x37f), (0x528, 0x52f), (0x58d, 0x58e), (0x605, 0x605), (0x8a1, 0x8a1), (0x8ad, 0x8b2),
  (0x8ff, 0x8ff), (0x978, 0x978), (0x980, 0x980), (0xc00, 0xc00), (0xc34, 0xc34), (0xc81, 0xc81),
  (0xd01, 0xd01), (0xde6, 0xdef), (0x16f1, 0x16f8), (0x191d, 0x191e), (0x1ab0, 0x1abe),
  (0x1cf8, 0x1cf9), (0x1de7, 0x1df5), (0x20bb, 0x20bd), (0x23f4, 0x23fa), (0x2700, 0x2700),
  (0x2b4d, 0x2b4f), (0x2b5a, 0x2b73), (0x2b76, 0x2b95), (0x2b98, 0x2bb9), (0x2bbd, 0x2bc8),
  (0x2bca, 0x2bd1), (0x2e3c, 0x2e42), (0xa698, 0xa69d), (0xa794, 0xa79f), (0xa7ab, 0xa7ad),
  (0xa7b0, 0xa7b1), (0xa7f7, 0xa7f7), (0xa9e0, 0xa9fe), (0xaa7c, 0xaa7f), (0xab30, 0xab5f),
  (0xab64, 0xab65), (0xfe27, 0xfe2d), (0x1018b, 0x1018c), (0x101a0, 0x101a0), (0x102e0, 0x102fb),
  (0x1031f, 0x1031f), (0x10350, 0x1037a), (0x10500, 0x10527), (0x10530, 0x10563),
  (0x1056f, 0x1056f), (0x10600, 0x10736), (0x10740, 0x10755), (0x10760, 0x10767),
  (0x10860, 0x1089e), (0x108a7, 0x108af), (0x10a80, 0x10a9f), (0x10ac0, 0x10ae6),
  (0x10aeb, 0x10af6), (0x10b80, 0x10b91), (0x10b99, 0x10b9c), (0x10ba9, 0x10baf),
  (0x1107f, 0x1107f), (0x11150, 0x11176), (0x111cd, 0x111cd), (0x111da, 0x111da),
  (0x111e1, 0x111f4), (0x11200, 0x11211), (0x11213, 0x1123d), (0x112b0, 0x112ea),
  (0x112f0, 0x112f9), (0x11301, 0x11303), (0x11305, 0x1130c), (0x1130f, 0x11310),
  (0x11313, 0x11328), (0x1132a, 0x11330), (0x11332, 0x11333), (0x11335, 0x11339),
  (0x1133c, 0x11344), (0x11347, 0x11348), (0x1134b, 0x1134d), (0x11357, 0x11357),
  (0x1135d, 0x11363), (0x11366, 0x1136c), (0x11370, 0x11374), (0x11480, 0x114c7),
  (0x114d0, 0x114d9), (0x11580, 0x115b5), (0x115b8, 0x115c9), (0x11600, 0x11644),
  (0x11650, 0x11659), (0x118a0, 0x118f2), (0x118ff, 0x118ff), (0x11ac0, 0x11af8),
  (0x1236f, 0x12398), (0x12463, 0x1246e), (0x12474, 0x12474), (0x16a40, 0x16a5e),
  (0x16a60, 0x16a69), (0x16a6e, 0x16a6f), (0x16ad0, 0x16aed), (0x16af0, 0x16af5),
  (0x16b00, 0x16b45), (0x16b50, 0x16b59), (0x16b5b, 0x16b61), (0x16b63, 0x16b77),
  (0x16b7d, 0x16b8f), (0x1bc00, 0x1bc6a), (0x1bc70, 0x1bc7c), (0x1bc80, 0x1bc88),
  (0x1bc90, 0x1bc99), (0x1bc9c, 0x1bca3), (0x1e800, 0x1e8c4), (0x1e8c7, 0x1e8d6),
  (0x1f0bf, 0x1f0bf), (0x1f0e0, 0x1f0f5), (0x1f10b, 0x1f10c), (0x1f321, 0x1f32c),
  (0x1f336, 0x1f336), (0x1f37d, 0x1f37d), (0x1f394, 0x1f39f), (0x1f3c5, 0x1f3c5),
  (0x1f3cb, 0x1f3ce), (0x1f3d4, 0x1f3df), (0x1f3f1, 0x1f3f7), (0x1f43f, 0x1f43f),
  (0x1f441, 0x1f441), (0x1f4f8, 0x1f4f8), (0x1f4fd, 0x1f4fe), (0x1f53e, 0x1f53f),
  (0x1f544, 0x1f54a), (0x1f568, 0x1f579), (0x1f57b, 0x1f5a3), (0x1f5a5, 0x1f5fa),
  (0x1f641, 0x1f642), (0x1f650, 0x1f67f), (0x1f6c6, 0x1f6cf), (0x1f6e0, 0x1f6ec),
  (0x1f6f0, 0x1f6f3), (0x1f780, 0x1f7d4), (0x1f800, 0x1f80b), (0x1f810, 0x1f847),
  (0x1f850, 0x1f859), (0x1f860, 0x1f887), (0x1f890, 0x1f8ad)]

def assignedIn80 : Intervals := [
  (0x8b3, 0x8b4), (0x8e3, 0x8e3), (0xaf9, 0xaf9), (0xc5a, 0xc5a), (0xd5f, 0xd5f), (0x13f5, 0x13f5),
  (0x13f8, 0x13fd), (0x20be, 0x20be), (0x218a, 0x218b), (0x2bec, 0x2bef), (0x9fcd, 0x9fd5),
  (0xa69e, 0xa69e), (0xa78f, 0xa78f), (0xa7b2, 0xa7b7), (0xa8fc, 0xa8fd), (0xab60, 0xab63),
  (0xab70, 0xabbf), (0xfe2e, 0xfe2f), (0x108e0, 0x108f2), (0x108f4, 0x108f5), (0x108fb, 0x108ff),
  (0x109bc, 0x109bd), (0x109c0, 0x109cf), (0x109d2, 0x109ff), (0x10c80, 0x10cb2),
  (0x10cc0, 0x10cf2), (0x10cfa, 0x10cff), (0x111c9, 0x111cc), (0x111db, 0x111df),
  (0x11280, 0x11286), (0x11288, 0x11288), (0x1128a, 0x1128d), (0x1128f, 0x1129d),
  (0x1129f, 0x112a9), (0x11300, 0x11300), (0x11350, 0x11350), (0x115ca, 0x115dd),
  (0x11700, 0x11719), (0x1171d, 0x1172b), (0x11730, 0x1173f), (0x12399, 0x12399),
  (0x12480, 0x12543), (0x14400, 0x14646), (0x1d1de, 0x1d1e8), (0x1d800, 0x1da8b),
  (0x1da9b, 0x1da9f), (0x1daa1, 0x1daaf), (0x1f32d, 0x1f32f), (0x1f37e, 0x1f37f),
  (0x1f3cf, 0x1f3d3), (0x1f3f8, 0x1f3ff), (0x1f4ff, 0x1f4ff), (0x1f54b, 0x1f54f),
  (0x1f643, 0x1f644), (0x1f6d0, 0x1f6d0), (0x1f910, 0x1f918), (0x1f980, 0x1f984),
  (0x1f9c0, 0x1f9c0), (0x2b820, 0x2cea1)]

def assignedIn90 : Intervals := [
  (0x8b6, 0x8bd), (0x8d4, 0x8e2), (0xc80, 0xc80), (0xd4f, 0xd4f), (0xd54, 0xd56), (0xd58, 0xd5e),
  (0xd76, 0xd78), (0x1c80, 0x1c88), (0x1dfb, 0x1dfb), (0x23fb, 0x23fe), (0x2e43, 0x2e44),
  (0xa7ae, 0xa7ae), (0xa8c5, 0xa8c5), (0x1018d, 0x1018e), (0x104b0, 0x104d3), (0x104d8, 0x104fb),
  (0x1123e, 0x1123e), (0x11400, 0x11459), (0x1145b, 0x1145b), (0x1145d, 0x1145d),
  (0x11660, 0x1166c), (0x11c00, 0x11c08), (0x11c0a, 0x11c36), (0x11c38, 0x11c45),
  (0x11c50, 0x11c6c), (0x11c70, 0x11c8f), (0x11c92, 0x11ca7), (0x11ca9, 0x11cb6),
  (0x16fe0, 0x16fe0), (0x17000, 0x187ec), (0x18800, 0x18af2), (0x1e000, 0x1e006),
  (0x1e008, 0x1e018), (0x1e01b, 0x1e021), (0x1e023, 0x1e024), (0x1e026, 0x1e02a),
  (0x1e900, 0x1e94a), (0x1e950, 0x1e959), (0x1e95e, 0x1e95f), (0x1f19b, 0x1f1ac),
  (0x1f23b, 0x1f23b), (0x1f57a, 0x1f57a), (0x1f5a4, 0x1f5a4), (0x1f6d1, 0x1f6d2),
  (0x1f6f4, 0x1f6f6), (0x1f919, 0x1f91e), (0x1f920, 0x1f927), (0x1f930, 0x1f930),
  (0x1f933, 0x1f93e), (0x1f940, 0x1f94b), (0x1f950, 0x1f95e), (0x1f985, 0x1f991)]

def assignedIn100 : Intervals := [
  (0x860, 0x86a), (0x9fc, 0x9fd), (0xafa, 0xaff), (0xd00, 0xd00), (0xd3b, 0xd3c), (0x1cf7, 0x1cf7),
  (0x1df6, 0x1df9), (0x20bf, 0x20bf), (0x23ff, 0x23ff), (0x2bd2, 0x2bd2), (0x2e45, 0x2e49),
  (0x312e, 0x312e), (0x9fd6, 0x9fea), (0x1032d, 0x1032f), (0x11a00, 0x11a47), (0x11a50, 0x11a83),
  (0x11a86, 0x11a9c), (0x11a9e, 0x11aa2), (0x11d00, 0x11d06), (0x11d08, 0x11d09),
  (0x11d0b, 0x11d36), (0x11d3a, 0x11d3a), (0x11d3c, 0x11d3d), (0x11d3f, 0x11d47),
  (0x11d50, 0x11d59), (0x16fe1, 0x16fe1), (0x1b002, 0x1b11e), (0x1b170, 0x1b2fb),
  (0x1f260, 0x1f265), (0x1f6d3, 0x1f6d4), (0x1f6f7, 0x1f6f8), (0x1f900, 0x1f90b),
  (0x1f91f, 0x1f91f), (0x1f928, 0x1f92f), (0x1f931, 0x1f932), (0x1f94c, 0x1f94c),
  (0x1f95f, 0x1f96b), (0x1f992, 0x1f997), (0x1f9d0, 0x1f9e6), (0x2ceb0, 0x2ebe0)]

def assignedIn110 : Intervals := [
  (0x560, 0x560), (0x588, 0x588), (0x5ef, 0x5ef), (0x7fd, 0x7ff), (0x8d3, 0x8d3), (0x9fe, 0x9fe),
  (0xa76, 0xa76), (0xc04, 0xc04), (0xc84, 0xc84), (0x1878, 0x1878), (0x1c90, 0x1cba),
  (0x1cbd, 0x1cbf), (0x2bba, 0x2bbc), (0x2bd3, 0x2beb), (0x2bf0, 0x2bfe), (0x2e4a, 0x2e4e),
  (0x312f, 0x312f), (0x9feb, 0x9fef), (0xa7af, 0xa7af), (0xa7b8, 0xa7b9), (0xa8fe, 0xa8ff),
  (0x10a34, 0x10a35), (0x10a48, 0x10a48), (0x10d00, 0x10d27), (0x10d30, 0x10d39),
  (0x10f00, 0x10f27), (0x10f30, 0x10f59), (0x110cd, 0x110cd), (0x11144, 0x11146),
  (0x1133b, 0x1133b), (0x1145e, 0x1145e), (0x1171a, 0x1171a), (0x11800, 0x1183b),
  (0x11a9d, 0x11a9d), (0x11d60, 0x11d65), (0x11d67, 0x11d68), (0x11d6a, 0x11d8e),
  (0x11d90, 0x11d91), (0x11d93, 0x11d98), (0x11da0, 0x11da9), (0x11ee0, 0x11ef8),
  (0x16e40, 0x16e9a), (0x187ed, 0x187f1), (0x1d2e0, 0x1d2f3), (0x1d372, 0x1d378),
  (0x1ec71, 0x1ecb4), (0x1f12f, 0x1f12f), (0x1f6f9, 0x1f6f9), (0x1f7d5, 0x1f7d8),
  (0x1f94d, 0x1f94f), (0x1f96c, 0x1f970), (0x1f973, 0x1f976), (0x1f97a, 0x1f97a),
  (0x1f97c, 0x1f97f), (0x1f998, 0x1f9a2), (0x1f9b0, 0x1f9b9), (0x1f9c1, 0x1f9c2),
  (0x1f9e7, 0x1f9ff), (0x1fa60, 0x1fa6d)]

def assignedIn120 : Intervals := [
  (0xc77, 0xc77), (0xe86, 0xe86), (0xe89, 0xe89), (0xe8c, 0xe8c), (0xe8e, 0xe93), (0xe98, 0xe98),
  (0xea0, 0xea0), (0xea8, 0xea9), (0xeac, 0xeac), (0xeba, 0xeba), (0x1cfa, 0x1cfa),
  (0x2bc9, 0x2bc9), (0x2bff, 0x2bff), (0x2e4f, 0x2e4f), (0xa7ba, 0xa7bf), (0xa7c2, 0xa7c6),
  (0xab66, 0xab67), (0x10fe0, 0x10ff6), (0x1145f, 0x1145f), (0x116b8, 0x116b8), (0x119a0, 0x119a7),
  (0x119aa, 0x119d7), (0x119da, 0x119e4), (0x11a84, 0x11a85), (0x11fc0, 0x11ff1),
  (0x11fff, 0x11fff), (0x13430, 0x13438), (0x16f45, 0x16f4a), (0x16f4f, 0x16f4f),
  (0x16f7f, 0x16f87), (0x16fe2, 0x16fe3), (0x187f2, 0x187f7), (0x1b150, 0x1b152),
  (0x1b164, 0x1b167), (0x1e100, 0x1e12c), (0x1e130, 0x1e13d), (0x1e140, 0x1e149),
  (0x1e14e, 0x1e14f), (0x1e2c0, 0x1e2f9), (0x1e2ff, 0x1e2ff), (0x1e94b, 0x1e94b),
  (0x1ed01, 0x1ed3d), (0x1f16c, 0x1f16c), (0x1f6d5, 0x1f6d5), (0x1f6fa, 0x1f6fa),
  (0x1f7e0, 0x1f7eb), (0x1f90d, 0x1f90f), (0x1f93f, 0x1f93f), (0x1f971, 0x1f971),
  (0x1f97b, 0x1f97b), (0x1f9a5, 0x1f9aa), (0x1f9ae, 0x1f9af), (0x1f9ba, 0x1f9bf),
  (0x1f9c3, 0x1f9ca), (0x1f9cd, 0x1f9cf), (0x1fa00, 0x1fa53), (0x1fa70, 0x1fa73),
  (0x1fa78, 0x1fa7a), (0x1fa80, 0x1fa82), (0x1fa90, 0x1fa95)]

def assignedIn121 : Intervals := [
  (0x32ff, 0x32ff)]

def assignedIn130 : Intervals := [
  (0x8be, 0x8c7), (0xb55, 0xb55), (0xd04, 0xd04), (0xd81, 0xd81), (0x1abf, 0x1ac0),
  (0x2b97, 0x2b97), (0x2e50, 0x2e52), (0x31bb, 0x31bf), (0x4db6, 0x4dbf), (0x9ff0, 0x9ffc),
  (0xa7c7, 0xa7ca), (0xa7f5, 0xa7f6), (0xa82c, 0xa82c), (0xab68, 0xab6b), (0x1019c, 0x1019c),
  (0x10e80, 0x10ea9), (0x10eab, 0x10ead), (0x10eb0, 0x10eb1), (0x10fb0, 0x10fcb),
  (0x11147, 0x11147), (0x111ce, 0x111cf), (0x1145a, 0x1145a), (0x11460, 0x11461),
  (0x11900, 0x11906), (0x11909, 0x11909), (0x1190c, 0x11913), (0x11915, 0x11916),
  (0x11918, 0x11935), (0x11937, 0x11938), (0x1193b, 0x11946), (0x11950, 0x11959),
  (0x11fb0, 0x11fb0), (0x16fe4, 0x16fe4), (0x16ff0, 0x16ff1), (0x18af3, 0x18cd5),
  (0x18d00, 0x18d08), (0x1f10d, 0x1f10f), (0x1f16d, 0x1f16f), (0x1f1ad, 0x1f1ad),
  (0x1f6d6, 0x1f6d7), (0x1f6fb, 0x1f6fc), (0x1f8b0, 0x1f8b1), (0x1f90c, 0x1f90c),
  (0x1f972, 0x1f972), (0x1f977, 0x1f978), (0x1f9a3, 0x1f9a4), (0x1f9ab, 0x1f9ad),
  (0x1f9cb, 0x1f9cb), (0x1fa74, 0x1fa74), (0x1fa83, 0x1fa86), (0x1fa96, 0x1faa8),
  (0x1fab0, 0x1fab6), (0x1fac0, 0x1fac2), (0x1fad0, 0x1fad6), (0x1fb00, 0x1fb92),
  (0x1fb94, 0x1fbca), (0x1fbf0, 0x1fbf9), (0x2a6d7, 0x2a6dd), (0x30000, 0x3134a)]

def assignedIn140 : Intervals := [
  (0x61d, 0x61d), (0x870, 0x88e), (0x890, 0x891), (0x898, 0x89f), (0x8b5, 0x8b5), (0x8c8, 0x8d2),
  (0xc3c, 0xc3c), (0xc5d, 0xc5d), (0xcdd, 0xcdd), (0x170d, 0x170d), (0x1715, 0x1715),
  (0x171f, 0x171f), (0x180f, 0x180f), (0x1ac1, 0x1ace), (0x1b4c, 0x1b4c), (0x1b7d, 0x1b7e),
  (0x1dfa, 0x1dfa), (0x20c0, 0x20c0), (0x2c2f, 0x2c2f), (0x2c5f, 0x2c5f), (0x2e53, 0x2e5d),
  (0x9ffd, 0x9fff), (0xa7c0, 0xa7c1), (0xa7d0, 0xa7d1), (0xa7d3, 0xa7d3), (0xa7d5, 0xa7d9),
  (0xa7f2, 0xa7f4), (0xfbc2, 0xfbc2), (0xfd40, 0xfd4f), (0xfdcf, 0xfdcf), (0xfdfe, 0xfdff),
  (0x10570, 0x1057a), (0x1057c, 0x1058a), (0x1058c, 0x10592), (0x10594, 0x10595),
  (0x10597, 0x105a1), (0x105a3, 0x105b1), (0x105b3, 0x105b9), (0x105bb, 0x105bc),
  (0x10780, 0x10785), (0x10787, 0x107b0), (0x107b2, 0x107ba), (0x10f70, 0x10f89),
  (0x11070, 0x11075), (0x110c2, 0x110c2), (0x116b9, 0x116b9), (0x11740, 0x11746),
  (0x11ab0, 0x11abf), (0x12f90, 0x12ff2), (0x16a70, 0x16abe), (0x16ac0, 0x16ac9),
  (0x1aff0, 0x1aff3), (0x1aff5, 0x1affb), (0x1affd, 0x1affe), (0x1b11f, 0x1b122),
  (0x1cf00, 0x1cf2d), (0x1cf30, 0x1cf46), (0x1cf50, 0x1cfc3), (0x1d1e9, 0x1d1ea),
  (0x1df00, 0x1df1e), (0x1e290, 0x1e2ae), (0x1e7e0, 0x1e7e6), (0x1e7e8, 0x1e7eb),
  (0x1e7ed, 0x1e7ee), (0x1e7f0, 0x1e7fe), (0x1f6dd, 0x1f6df), (0x1f7f0, 0x1f7f0),
  (0x1f979, 0x1f979), (0x1f9cc, 0x1f9cc), (0x1fa7b, 0x1fa7c), (0x1faa9, 0x1faac),
  (0x1fab7, 0x1faba), (0x1fac3, 0x1fac5), (0x1fad7, 0x1fad9), (0x1fae0, 0x1fae7),
  (0x1faf0, 0x1faf6), (0x2a6de, 0x2a6df), (0x2b735, 0x2b738)]

def assignedIn150 : Intervals := [
  (0xcf3, 0xcf3), (0xece, 0xece), (0x10efd, 0x10eff), (0x1123f, 0x11241), (0x11b00, 0x11b09),
  (0x11f00, 0x11f10), (0x11f12, 0x11f3a), (0x11f3e, 0x11f59), (0x1342f, 0x1342f),
  (0x13439, 0x13455), (0x1b132, 0x1b132), (0x1b155, 0x1b155), (0x1d2c0, 0x1d2d3),
  (0x1df25, 0x1df2a), (0x1e030, 0x1e06d), (0x1e08f, 0x1e08f), (0x1e4d0, 0x1e4f9),
  (0x1f6dc, 0x1f6dc), (0x1f774, 0x1f776), (0x1f77b, 0x1f77f), (0x1f7d9, 0x1f7d9),
  (0x1fa75, 0x1fa77), (0x1fa87, 0x1fa88), (0x1faad, 0x1faaf), (0x1fabb, 0x1fabd),
  (0x1fabf, 0x1fabf), (0x1face, 0x1facf), (0x1fada, 0x1fadb), (0x1fae8, 0x1fae8),
  (0x1faf7, 0x1faf8), (0x2b739, 0x2b739), (0x31350, 0x323af)]

/-- The versions in their order, with the characters that each assigned. -/
def ages : List (Nat × Intervals) := [
  (11, assignedIn11), (20, assignedIn20), (21, assignedIn21), (30, assignedIn30),
  (31, assignedIn31), (32, assignedIn32), (40, assignedIn40), (41, assignedIn41),
  (50, assignedIn50), (51, assignedIn51), (52, assignedIn52), (60, assignedIn60),
  (61, assignedIn61), (62, assignedIn62), (63, assignedIn63), (70, assignedIn70),
  (80, assignedIn80), (90, assignedIn90), (100, assignedIn100), (110, assignedIn110),
  (120, assignedIn120), (121, assignedIn121), (130, assignedIn130), (140, assignedIn140),
  (150, assignedIn150)]

/-- Whether a character was assigned in the version or in one before it. -/
def isAsOldAs (version : Nat) (c : Char) : Bool :=
  ages.any fun row => row.1 ≤ version && row.2.contains c.toNat

end ParseFlow.Text
