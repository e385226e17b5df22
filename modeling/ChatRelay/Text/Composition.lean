/-
  Composed text.

  Many letters with marks are characters of their own, and are also written as
  a letter and the marks after it; marks that do not touch each other may stand
  in any order.  A text is composed if it is what comes of taking all its
  characters apart, bringing the marks into their order and putting together
  what can be put together.  The characters are those of Unicode 14.

  * `markClass` orders marks, `parts?` takes a character apart and `whole?` puts
    two together;
  * `composed` is the composed form of code points, `isComposed` holds of code
    points in that form.
-/
namespace ChatRelay.Text.Composition

/-! ## Characters -/

/-- The marks, as ranges, and the class of each: only marks of different classes
    may change places. -/
def markClasses : List (Nat × Nat × Nat) :=
  [
    (0x300, 0x314, 230), (0x315, 0x315, 232), (0x316, 0x319, 220), (0x31A, 0x31A, 232),
    (0x31B, 0x31B, 216), (0x31C, 0x320, 220), (0x321, 0x322, 202), (0x323, 0x326, 220),
    (0x327, 0x328, 202), (0x329, 0x333, 220), (0x334, 0x338, 1), (0x339, 0x33C, 220),
    (0x33D, 0x344, 230), (0x345, 0x345, 240), (0x346, 0x346, 230), (0x347, 0x349, 220),
    (0x34A, 0x34C, 230), (0x34D, 0x34E, 220), (0x350, 0x352, 230), (0x353, 0x356, 220),
    (0x357, 0x357, 230), (0x358, 0x358, 232), (0x359, 0x35A, 220), (0x35B, 0x35B, 230),
    (0x35C, 0x35C, 233), (0x35D, 0x35E, 234), (0x35F, 0x35F, 233), (0x360, 0x361, 234),
    (0x362, 0x362, 233), (0x363, 0x36F, 230), (0x483, 0x487, 230), (0x591, 0x591, 220),
    (0x592, 0x595, 230), (0x596, 0x596, 220), (0x597, 0x599, 230), (0x59A, 0x59A, 222),
    (0x59B, 0x59B, 220), (0x59C, 0x5A1, 230), (0x5A2, 0x5A7, 220), (0x5A8, 0x5A9, 230),
    (0x5AA, 0x5AA, 220), (0x5AB, 0x5AC, 230), (0x5AD, 0x5AD, 222), (0x5AE, 0x5AE, 228),
    (0x5AF, 0x5AF, 230), (0x5B0, 0x5B0, 10), (0x5B1, 0x5B1, 11), (0x5B2, 0x5B2, 12),
    (0x5B3, 0x5B3, 13), (0x5B4, 0x5B4, 14), (0x5B5, 0x5B5, 15), (0x5B6, 0x5B6, 16),
    (0x5B7, 0x5B7, 17), (0x5B8, 0x5B8, 18), (0x5B9, 0x5BA, 19), (0x5BB, 0x5BB, 20),
    (0x5BC, 0x5BC, 21), (0x5BD, 0x5BD, 22), (0x5BF, 0x5BF, 23), (0x5C1, 0x5C1, 24),
    (0x5C2, 0x5C2, 25), (0x5C4, 0x5C4, 230), (0x5C5, 0x5C5, 220), (0x5C7, 0x5C7, 18),
    (0x610, 0x617, 230), (0x618, 0x618, 30), (0x619, 0x619, 31), (0x61A, 0x61A, 32),
    (0x64B, 0x64B, 27), (0x64C, 0x64C, 28), (0x64D, 0x64D, 29), (0x64E, 0x64E, 30),
    (0x64F, 0x64F, 31), (0x650, 0x650, 32), (0x651, 0x651, 33), (0x652, 0x652, 34),
    (0x653, 0x654, 230), (0x655, 0x656, 220), (0x657, 0x65B, 230), (0x65C, 0x65C, 220),
    (0x65D, 0x65E, 230), (0x65F, 0x65F, 220), (0x670, 0x670, 35), (0x6D6, 0x6DC, 230),
    (0x6DF, 0x6E2, 230), (0x6E3, 0x6E3, 220), (0x6E4, 0x6E4, 230), (0x6E7, 0x6E8, 230),
    (0x6EA, 0x6EA, 220), (0x6EB, 0x6EC, 230), (0x6ED, 0x6ED, 220), (0x711, 0x711, 36),
    (0x730, 0x730, 230), (0x731, 0x731, 220), (0x732, 0x733, 230), (0x734, 0x734, 220),
    (0x735, 0x736, 230), (0x737, 0x739, 220), (0x73A, 0x73A, 230), (0x73B, 0x73C, 220),
    (0x73D, 0x73D, 230), (0x73E, 0x73E, 220), (0x73F, 0x741, 230), (0x742, 0x742, 220),
    (0x743, 0x743, 230), (0x744, 0x744, 220), (0x745, 0x745, 230), (0x746, 0x746, 220),
    (0x747, 0x747, 230), (0x748, 0x748, 220), (0x749, 0x74A, 230), (0x7EB, 0x7F1, 230),
    (0x7F2, 0x7F2, 220), (0x7F3, 0x7F3, 230), (0x7FD, 0x7FD, 220), (0x816, 0x819, 230),
    (0x81B, 0x823, 230), (0x825, 0x827, 230), (0x829, 0x82D, 230), (0x859, 0x85B, 220),
    (0x898, 0x898, 230), (0x899, 0x89B, 220), (0x89C, 0x89F, 230), (0x8CA, 0x8CE, 230),
    (0x8CF, 0x8D3, 220), (0x8D4, 0x8E1, 230), (0x8E3, 0x8E3, 220), (0x8E4, 0x8E5, 230),
    (0x8E6, 0x8E6, 220), (0x8E7, 0x8E8, 230), (0x8E9, 0x8E9, 220), (0x8EA, 0x8EC, 230),
    (0x8ED, 0x8EF, 220), (0x8F0, 0x8F0, 27), (0x8F1, 0x8F1, 28), (0x8F2, 0x8F2, 29),
    (0x8F3, 0x8F5, 230), (0x8F6, 0x8F6, 220), (0x8F7, 0x8F8, 230), (0x8F9, 0x8FA, 220),
    (0x8FB, 0x8FF, 230), (0x93C, 0x93C, 7), (0x94D, 0x94D, 9), (0x951, 0x951, 230),
    (0x952, 0x952, 220), (0x953, 0x954, 230), (0x9BC, 0x9BC, 7), (0x9CD, 0x9CD, 9),
    (0x9FE, 0x9FE, 230), (0xA3C, 0xA3C, 7), (0xA4D, 0xA4D, 9), (0xABC, 0xABC, 7), (0xACD, 0xACD, 9),
    (0xB3C, 0xB3C, 7), (0xB4D, 0xB4D, 9), (0xBCD, 0xBCD, 9), (0xC3C, 0xC3C, 7), (0xC4D, 0xC4D, 9),
    (0xC55, 0xC55, 84), (0xC56, 0xC56, 91), (0xCBC, 0xCBC, 7), (0xCCD, 0xCCD, 9), (0xD3B, 0xD3C, 9),
    (0xD4D, 0xD4D, 9), (0xDCA, 0xDCA, 9), (0xE38, 0xE39, 103), (0xE3A, 0xE3A, 9),
    (0xE48, 0xE4B, 107), (0xEB8, 0xEB9, 118), (0xEBA, 0xEBA, 9), (0xEC8, 0xECB, 122),
    (0xF18, 0xF19, 220), (0xF35, 0xF35, 220), (0xF37, 0xF37, 220), (0xF39, 0xF39, 216),
    (0xF71, 0xF71, 129), (0xF72, 0xF72, 130), (0xF74, 0xF74, 132), (0xF7A, 0xF7D, 130),
    (0xF80, 0xF80, 130), (0xF82, 0xF83, 230), (0xF84, 0xF84, 9), (0xF86, 0xF87, 230),
    (0xFC6, 0xFC6, 220), (0x1037, 0x1037, 7), (0x1039, 0x103A, 9), (0x108D, 0x108D, 220),
    (0x135D, 0x135F, 230), (0x1714, 0x1715, 9), (0x1734, 0x1734, 9), (0x17D2, 0x17D2, 9),
    (0x17DD, 0x17DD, 230), (0x18A9, 0x18A9, 228), (0x1939, 0x1939, 222), (0x193A, 0x193A, 230),
    (0x193B, 0x193B, 220), (0x1A17, 0x1A17, 230), (0x1A18, 0x1A18, 220), (0x1A60, 0x1A60, 9),
    (0x1A75, 0x1A7C, 230), (0x1A7F, 0x1A7F, 220), (0x1AB0, 0x1AB4, 230), (0x1AB5, 0x1ABA, 220),
    (0x1ABB, 0x1ABC, 230), (0x1ABD, 0x1ABD, 220), (0x1ABF, 0x1AC0, 220), (0x1AC1, 0x1AC2, 230),
    (0x1AC3, 0x1AC4, 220), (0x1AC5, 0x1AC9, 230), (0x1ACA, 0x1ACA, 220), (0x1ACB, 0x1ACE, 230),
    (0x1B34, 0x1B34, 7), (0x1B44, 0x1B44, 9), (0x1B6B, 0x1B6B, 230), (0x1B6C, 0x1B6C, 220),
    (0x1B6D, 0x1B73, 230), (0x1BAA, 0x1BAB, 9), (0x1BE6, 0x1BE6, 7), (0x1BF2, 0x1BF3, 9),
    (0x1C37, 0x1C37, 7), (0x1CD0, 0x1CD2, 230), (0x1CD4, 0x1CD4, 1), (0x1CD5, 0x1CD9, 220),
    (0x1CDA, 0x1CDB, 230), (0x1CDC, 0x1CDF, 220), (0x1CE0, 0x1CE0, 230), (0x1CE2, 0x1CE8, 1),
    (0x1CED, 0x1CED, 220), (0x1CF4, 0x1CF4, 230), (0x1CF8, 0x1CF9, 230), (0x1DC0, 0x1DC1, 230),
    (0x1DC2, 0x1DC2, 220), (0x1DC3, 0x1DC9, 230), (0x1DCA, 0x1DCA, 220), (0x1DCB, 0x1DCC, 230),
    (0x1DCD, 0x1DCD, 234), (0x1DCE, 0x1DCE, 214), (0x1DCF, 0x1DCF, 220), (0x1DD0, 0x1DD0, 202),
    (0x1DD1, 0x1DF5, 230), (0x1DF6, 0x1DF6, 232), (0x1DF7, 0x1DF8, 228), (0x1DF9, 0x1DF9, 220),
    (0x1DFA, 0x1DFA, 218), (0x1DFB, 0x1DFB, 230), (0x1DFC, 0x1DFC, 233), (0x1DFD, 0x1DFD, 220),
    (0x1DFE, 0x1DFE, 230), (0x1DFF, 0x1DFF, 220), (0x20D0, 0x20D1, 230), (0x20D2, 0x20D3, 1),
    (0x20D4, 0x20D7, 230), (0x20D8, 0x20DA, 1), (0x20DB, 0x20DC, 230), (0x20E1, 0x20E1, 230),
    (0x20E5, 0x20E6, 1), (0x20E7, 0x20E7, 230), (0x20E8, 0x20E8, 220), (0x20E9, 0x20E9, 230),
    (0x20EA, 0x20EB, 1), (0x20EC, 0x20EF, 220), (0x20F0, 0x20F0, 230), (0x2CEF, 0x2CF1, 230),
    (0x2D7F, 0x2D7F, 9), (0x2DE0, 0x2DFF, 230), (0x302A, 0x302A, 218), (0x302B, 0x302B, 228),
    (0x302C, 0x302C, 232), (0x302D, 0x302D, 222), (0x302E, 0x302F, 224), (0x3099, 0x309A, 8),
    (0xA66F, 0xA66F, 230), (0xA674, 0xA67D, 230), (0xA69E, 0xA69F, 230), (0xA6F0, 0xA6F1, 230),
    (0xA806, 0xA806, 9), (0xA82C, 0xA82C, 9), (0xA8C4, 0xA8C4, 9), (0xA8E0, 0xA8F1, 230),
    (0xA92B, 0xA92D, 220), (0xA953, 0xA953, 9), (0xA9B3, 0xA9B3, 7), (0xA9C0, 0xA9C0, 9),
    (0xAAB0, 0xAAB0, 230), (0xAAB2, 0xAAB3, 230), (0xAAB4, 0xAAB4, 220), (0xAAB7, 0xAAB8, 230),
    (0xAABE, 0xAABF, 230), (0xAAC1, 0xAAC1, 230), (0xAAF6, 0xAAF6, 9), (0xABED, 0xABED, 9),
    (0xFB1E, 0xFB1E, 26), (0xFE20, 0xFE26, 230), (0xFE27, 0xFE2D, 220), (0xFE2E, 0xFE2F, 230),
    (0x101FD, 0x101FD, 220), (0x102E0, 0x102E0, 220), (0x10376, 0x1037A, 230),
    (0x10A0D, 0x10A0D, 220), (0x10A0F, 0x10A0F, 230), (0x10A38, 0x10A38, 230),
    (0x10A39, 0x10A39, 1), (0x10A3A, 0x10A3A, 220), (0x10A3F, 0x10A3F, 9), (0x10AE5, 0x10AE5, 230),
    (0x10AE6, 0x10AE6, 220), (0x10D24, 0x10D27, 230), (0x10EAB, 0x10EAC, 230),
    (0x10F46, 0x10F47, 220), (0x10F48, 0x10F4A, 230), (0x10F4B, 0x10F4B, 220),
    (0x10F4C, 0x10F4C, 230), (0x10F4D, 0x10F50, 220), (0x10F82, 0x10F82, 230),
    (0x10F83, 0x10F83, 220), (0x10F84, 0x10F84, 230), (0x10F85, 0x10F85, 220),
    (0x11046, 0x11046, 9), (0x11070, 0x11070, 9), (0x1107F, 0x1107F, 9), (0x110B9, 0x110B9, 9),
    (0x110BA, 0x110BA, 7), (0x11100, 0x11102, 230), (0x11133, 0x11134, 9), (0x11173, 0x11173, 7),
    (0x111C0, 0x111C0, 9), (0x111CA, 0x111CA, 7), (0x11235, 0x11235, 9), (0x11236, 0x11236, 7),
    (0x112E9, 0x112E9, 7), (0x112EA, 0x112EA, 9), (0x1133B, 0x1133C, 7), (0x1134D, 0x1134D, 9),
    (0x11366, 0x1136C, 230), (0x11370, 0x11374, 230), (0x11442, 0x11442, 9), (0x11446, 0x11446, 7),
    (0x1145E, 0x1145E, 230), (0x114C2, 0x114C2, 9), (0x114C3, 0x114C3, 7), (0x115BF, 0x115BF, 9),
    (0x115C0, 0x115C0, 7), (0x1163F, 0x1163F, 9), (0x116B6, 0x116B6, 9), (0x116B7, 0x116B7, 7),
    (0x1172B, 0x1172B, 9), (0x11839, 0x11839, 9), (0x1183A, 0x1183A, 7), (0x1193D, 0x1193E, 9),
    (0x11943, 0x11943, 7), (0x119E0, 0x119E0, 9), (0x11A34, 0x11A34, 9), (0x11A47, 0x11A47, 9),
    (0x11A99, 0x11A99, 9), (0x11C3F, 0x11C3F, 9), (0x11D42, 0x11D42, 7), (0x11D44, 0x11D45, 9),
    (0x11D97, 0x11D97, 9), (0x16AF0, 0x16AF4, 1), (0x16B30, 0x16B36, 230), (0x16FF0, 0x16FF1, 6),
    (0x1BC9E, 0x1BC9E, 1), (0x1D165, 0x1D166, 216), (0x1D167, 0x1D169, 1), (0x1D16D, 0x1D16D, 226),
    (0x1D16E, 0x1D172, 216), (0x1D17B, 0x1D182, 220), (0x1D185, 0x1D189, 230),
    (0x1D18A, 0x1D18B, 220), (0x1D1AA, 0x1D1AD, 230), (0x1D242, 0x1D244, 230),
    (0x1E000, 0x1E006, 230), (0x1E008, 0x1E018, 230), (0x1E01B, 0x1E021, 230),
    (0x1E023, 0x1E024, 230), (0x1E026, 0x1E02A, 230), (0x1E130, 0x1E136, 230),
    (0x1E2AE, 0x1E2AE, 230), (0x1E2EC, 0x1E2EF, 230), (0x1E8D0, 0x1E8D6, 220),
    (0x1E944, 0x1E949, 230), (0x1E94A, 0x1E94A, 7)]

/-- The class of a code point; all that is no mark has the class zero. -/
def markClass (n : Nat) : Nat :=
  ((markClasses.find? fun r => r.1 ≤ n && n ≤ r.2.1).map (·.2.2)).getD 0

/-- Characters of two parts, each followed by its parts. -/
def basicComposites : List String :=
    ["ÀA\u0300ÁA\u0301ÂA\u0302ÃA\u0303ÄA\u0308ÅA\u030aÇC\u0327ÈE\u0300ÉE\u0301ÊE\u0302ËE\u0308ÌI",
     "\u0300ÍI\u0301ÎI\u0302ÏI\u0308ÑN\u0303ÒO\u0300ÓO\u0301ÔO\u0302ÕO\u0303ÖO\u0308ÙU\u0300ÚU",
     "\u0301ÛU\u0302ÜU\u0308ÝY\u0301àa\u0300áa\u0301âa\u0302ãa\u0303äa\u0308åa\u030açc\u0327èe",
     "\u0300ée\u0301êe\u0302ëe\u0308ìi\u0300íi\u0301îi\u0302ïi\u0308ñn\u0303òo\u0300óo\u0301ôo",
     "\u0302õo\u0303öo\u0308ùu\u0300úu\u0301ûu\u0302üu\u0308ýy\u0301ÿy\u0308ĀA\u0304āa\u0304ĂA",
     "\u0306ăa\u0306ĄA\u0328ąa\u0328ĆC\u0301ćc\u0301ĈC\u0302ĉc\u0302ĊC\u0307ċc\u0307ČC\u030cčc",
     "\u030cĎD\u030cďd\u030cĒE\u0304ēe\u0304ĔE\u0306ĕe\u0306ĖE\u0307ėe\u0307ĘE\u0328ęe\u0328ĚE",
     "\u030cěe\u030cĜG\u0302ĝg\u0302ĞG\u0306ğg\u0306ĠG\u0307ġg\u0307ĢG\u0327ģg\u0327ĤH\u0302ĥh",
     "\u0302ĨI\u0303ĩi\u0303ĪI\u0304īi\u0304ĬI\u0306ĭi\u0306ĮI\u0328įi\u0328İI\u0307ĴJ\u0302ĵj",
     "\u0302ĶK\u0327ķk\u0327ĹL\u0301ĺl\u0301ĻL\u0327ļl\u0327ĽL\u030cľl\u030cŃN\u0301ńn\u0301ŅN",
     "\u0327ņn\u0327ŇN\u030cňn\u030cŌO\u0304ōo\u0304ŎO\u0306ŏo\u0306ŐO\u030bőo\u030bŔR\u0301ŕr",
     "\u0301ŖR\u0327ŗr\u0327ŘR\u030cřr\u030cŚS\u0301śs\u0301ŜS\u0302ŝs\u0302ŞS\u0327şs\u0327ŠS",
     "\u030cšs\u030cŢT\u0327ţt\u0327ŤT\u030cťt\u030cŨU\u0303ũu\u0303ŪU\u0304ūu\u0304ŬU\u0306ŭu",
     "\u0306ŮU\u030aůu\u030aŰU\u030bűu\u030bŲU\u0328ųu\u0328ŴW\u0302ŵw\u0302ŶY\u0302ŷy\u0302ŸY",
     "\u0308ŹZ\u0301źz\u0301ŻZ\u0307żz\u0307ŽZ\u030cžz\u030cƠO\u031bơo\u031bƯU\u031bưu\u031bǍA",
     "\u030cǎa\u030cǏI\u030cǐi\u030cǑO\u030cǒo\u030cǓU\u030cǔu\u030cǕÜ\u0304ǖü\u0304ǗÜ\u0301ǘü",
     "\u0301ǙÜ\u030cǚü\u030cǛÜ\u0300ǜü\u0300ǞÄ\u0304ǟä\u0304ǠȦ\u0304ǡȧ\u0304ǢÆ\u0304ǣæ\u0304ǦG",
     "\u030cǧg\u030cǨK\u030cǩk\u030cǪO\u0328ǫo\u0328ǬǪ\u0304ǭǫ\u0304ǮƷ\u030cǯʒ\u030cǰj\u030cǴG",
     "\u0301ǵg\u0301ǸN\u0300ǹn\u0300ǺÅ\u0301ǻå\u0301ǼÆ\u0301ǽæ\u0301ǾØ\u0301ǿø\u0301ȀA\u030fȁa",
     "\u030fȂA\u0311ȃa\u0311ȄE\u030fȅe\u030fȆE\u0311ȇe\u0311ȈI\u030fȉi\u030fȊI\u0311ȋi\u0311ȌO",
     "\u030fȍo\u030fȎO\u0311ȏo\u0311ȐR\u030fȑr\u030fȒR\u0311ȓr\u0311ȔU\u030fȕu\u030fȖU\u0311ȗu",
     "\u0311ȘS\u0326șs\u0326ȚT\u0326țt\u0326ȞH\u030cȟh\u030cȦA\u0307ȧa\u0307ȨE\u0327ȩe\u0327ȪÖ",
     "\u0304ȫö\u0304ȬÕ\u0304ȭõ\u0304ȮO\u0307ȯo\u0307ȰȮ\u0304ȱȯ\u0304ȲY\u0304ȳy\u0304΅¨\u0301ΆΑ",
     "\u0301ΈΕ\u0301ΉΗ\u0301ΊΙ\u0301ΌΟ\u0301ΎΥ\u0301ΏΩ\u0301ΐϊ\u0301ΪΙ\u0308ΫΥ\u0308άα\u0301έε",
     "\u0301ήη\u0301ίι\u0301ΰϋ\u0301ϊι\u0308ϋυ\u0308όο\u0301ύυ\u0301ώω\u0301ϓϒ\u0301ϔϒ\u0308ЀЕ",
     "\u0300ЁЕ\u0308ЃГ\u0301ЇІ\u0308ЌК\u0301ЍИ\u0300ЎУ\u0306ЙИ\u0306йи\u0306ѐе\u0300ёе\u0308ѓг",
     "\u0301їі\u0308ќк\u0301ѝи\u0300ўу\u0306ѶѴ\u030fѷѵ\u030fӁЖ\u0306ӂж\u0306ӐА\u0306ӑа\u0306ӒА",
     "\u0308ӓа\u0308ӖЕ\u0306ӗе\u0306ӚӘ\u0308ӛә\u0308ӜЖ\u0308ӝж\u0308ӞЗ\u0308ӟз\u0308ӢИ\u0304ӣи",
     "\u0304ӤИ\u0308ӥи\u0308ӦО\u0308ӧо\u0308ӪӨ\u0308ӫө\u0308ӬЭ\u0308ӭэ\u0308ӮУ\u0304ӯу\u0304ӰУ",
     "\u0308ӱу\u0308ӲУ\u030bӳу\u030bӴЧ\u0308ӵч\u0308ӸЫ\u0308ӹы\u0308\u0622\u0627\u0653\u0623",
     "\u0627\u0654\u0624\u0648\u0654\u0625\u0627\u0655\u0626\u064a\u0654\u06c0\u06d5\u0654\u06c2",
     "\u06c1\u0654\u06d3\u06d2\u0654ऩन\u093cऱर\u093cऴळ\u093c\u09cb\u09c7\u09be\u09cc\u09c7\u09d7",
     "\u0b48\u0b47\u0b56\u0b4b\u0b47\u0b3e\u0b4c\u0b47\u0b57ஔஒ\u0bd7\u0bca\u0bc6\u0bbe\u0bcb",
     "\u0bc7\u0bbe\u0bcc\u0bc6\u0bd7\u0c48\u0c46\u0c56\u0cc0\u0cbf\u0cd5\u0cc7\u0cc6\u0cd5\u0cc8",
     "\u0cc6\u0cd6\u0cca\u0cc6\u0cc2\u0ccb\u0cca\u0cd5\u0d4a\u0d46\u0d3e\u0d4b\u0d47\u0d3e\u0d4c",
     "\u0d46\u0d57\u0dda\u0dd9\u0dca\u0ddc\u0dd9\u0dcf\u0ddd\u0ddc\u0dca\u0dde\u0dd9\u0ddfဦဥ",
     "\u102eᬆᬅ\u1b35ᬈᬇ\u1b35ᬊᬉ\u1b35ᬌᬋ\u1b35ᬎᬍ\u1b35ᬒᬑ\u1b35\u1b3b\u1b3a\u1b35\u1b3d\u1b3c\u1b35",
     "\u1b40\u1b3e\u1b35\u1b41\u1b3f\u1b35\u1b43\u1b42\u1b35ḀA\u0325ḁa\u0325ḂB\u0307ḃb\u0307ḄB",
     "\u0323ḅb\u0323ḆB\u0331ḇb\u0331ḈÇ\u0301ḉç\u0301ḊD\u0307ḋd\u0307ḌD\u0323ḍd\u0323ḎD\u0331ḏd",
     "\u0331ḐD\u0327ḑd\u0327ḒD\u032dḓd\u032dḔĒ\u0300ḕē\u0300ḖĒ\u0301ḗē\u0301ḘE\u032dḙe\u032dḚE",
     "\u0330ḛe\u0330ḜȨ\u0306ḝȩ\u0306ḞF\u0307ḟf\u0307ḠG\u0304ḡg\u0304ḢH\u0307ḣh\u0307ḤH\u0323ḥh",
     "\u0323ḦH\u0308ḧh\u0308ḨH\u0327ḩh\u0327ḪH\u032eḫh\u032eḬI\u0330ḭi\u0330ḮÏ\u0301ḯï\u0301ḰK",
     "\u0301ḱk\u0301ḲK\u0323ḳk\u0323ḴK\u0331ḵk\u0331ḶL\u0323ḷl\u0323ḸḶ\u0304ḹḷ\u0304ḺL\u0331ḻl",
     "\u0331ḼL\u032dḽl\u032dḾM\u0301ḿm\u0301ṀM\u0307ṁm\u0307ṂM\u0323ṃm\u0323ṄN\u0307ṅn\u0307ṆN",
     "\u0323ṇn\u0323ṈN\u0331ṉn\u0331ṊN\u032dṋn\u032dṌÕ\u0301ṍõ\u0301ṎÕ\u0308ṏõ\u0308ṐŌ\u0300ṑō",
     "\u0300ṒŌ\u0301ṓō\u0301ṔP\u0301ṕp\u0301ṖP\u0307ṗp\u0307ṘR\u0307ṙr\u0307ṚR\u0323ṛr\u0323ṜṚ",
     "\u0304ṝṛ\u0304ṞR\u0331ṟr\u0331ṠS\u0307ṡs\u0307ṢS\u0323ṣs\u0323ṤŚ\u0307ṥś\u0307ṦŠ\u0307ṧš",
     "\u0307ṨṢ\u0307ṩṣ\u0307ṪT\u0307ṫt\u0307ṬT\u0323ṭt\u0323ṮT\u0331ṯt\u0331ṰT\u032dṱt\u032dṲU",
     "\u0324ṳu\u0324ṴU\u0330ṵu\u0330ṶU\u032dṷu\u032dṸŨ\u0301ṹũ\u0301ṺŪ\u0308ṻū\u0308ṼV\u0303ṽv",
     "\u0303ṾV\u0323ṿv\u0323ẀW\u0300ẁw\u0300ẂW\u0301ẃw\u0301ẄW\u0308ẅw\u0308ẆW\u0307ẇw\u0307ẈW",
     "\u0323ẉw\u0323ẊX\u0307ẋx\u0307ẌX\u0308ẍx\u0308ẎY\u0307ẏy\u0307ẐZ\u0302ẑz\u0302ẒZ\u0323ẓz",
     "\u0323ẔZ\u0331ẕz\u0331ẖh\u0331ẗt\u0308ẘw\u030aẙy\u030aẛſ\u0307ẠA\u0323ạa\u0323ẢA\u0309ảa",
     "\u0309ẤÂ\u0301ấâ\u0301ẦÂ\u0300ầâ\u0300ẨÂ\u0309ẩâ\u0309ẪÂ\u0303ẫâ\u0303ẬẠ\u0302ậạ\u0302ẮĂ",
     "\u0301ắă\u0301ẰĂ\u0300ằă\u0300ẲĂ\u0309ẳă\u0309ẴĂ\u0303ẵă\u0303ẶẠ\u0306ặạ\u0306ẸE\u0323ẹe",
     "\u0323ẺE\u0309ẻe\u0309ẼE\u0303ẽe\u0303ẾÊ\u0301ếê\u0301ỀÊ\u0300ềê\u0300ỂÊ\u0309ểê\u0309ỄÊ",
     "\u0303ễê\u0303ỆẸ\u0302ệẹ\u0302ỈI\u0309ỉi\u0309ỊI\u0323ịi\u0323ỌO\u0323ọo\u0323ỎO\u0309ỏo",
     "\u0309ỐÔ\u0301ốô\u0301ỒÔ\u0300ồô\u0300ỔÔ\u0309ổô\u0309ỖÔ\u0303ỗô\u0303ỘỌ\u0302ộọ\u0302ỚƠ",
     "\u0301ớơ\u0301ỜƠ\u0300ờơ\u0300ỞƠ\u0309ởơ\u0309ỠƠ\u0303ỡơ\u0303ỢƠ\u0323ợơ\u0323ỤU\u0323ụu",
     "\u0323ỦU\u0309ủu\u0309ỨƯ\u0301ứư\u0301ỪƯ\u0300ừư\u0300ỬƯ\u0309ửư\u0309ỮƯ\u0303ữư\u0303ỰƯ",
     "\u0323ựư\u0323ỲY\u0300ỳy\u0300ỴY\u0323ỵy\u0323ỶY\u0309ỷy\u0309ỸY\u0303ỹy\u0303ἀα\u0313ἁα",
     "\u0314ἂἀ\u0300ἃἁ\u0300ἄἀ\u0301ἅἁ\u0301ἆἀ\u0342ἇἁ\u0342ἈΑ\u0313ἉΑ\u0314ἊἈ\u0300ἋἉ\u0300ἌἈ",
     "\u0301ἍἉ\u0301ἎἈ\u0342ἏἉ\u0342ἐε\u0313ἑε\u0314ἒἐ\u0300ἓἑ\u0300ἔἐ\u0301ἕἑ\u0301ἘΕ\u0313ἙΕ",
     "\u0314ἚἘ\u0300ἛἙ\u0300ἜἘ\u0301ἝἙ\u0301ἠη\u0313ἡη\u0314ἢἠ\u0300ἣἡ\u0300ἤἠ\u0301ἥἡ\u0301ἦἠ",
     "\u0342ἧἡ\u0342ἨΗ\u0313ἩΗ\u0314ἪἨ\u0300ἫἩ\u0300ἬἨ\u0301ἭἩ\u0301ἮἨ\u0342ἯἩ\u0342ἰι\u0313ἱι",
     "\u0314ἲἰ\u0300ἳἱ\u0300ἴἰ\u0301ἵἱ\u0301ἶἰ\u0342ἷἱ\u0342ἸΙ\u0313ἹΙ\u0314ἺἸ\u0300ἻἹ\u0300ἼἸ",
     "\u0301ἽἹ\u0301ἾἸ\u0342ἿἹ\u0342ὀο\u0313ὁο\u0314ὂὀ\u0300ὃὁ\u0300ὄὀ\u0301ὅὁ\u0301ὈΟ\u0313ὉΟ",
     "\u0314ὊὈ\u0300ὋὉ\u0300ὌὈ\u0301ὍὉ\u0301ὐυ\u0313ὑυ\u0314ὒὐ\u0300ὓὑ\u0300ὔὐ\u0301ὕὑ\u0301ὖὐ",
     "\u0342ὗὑ\u0342ὙΥ\u0314ὛὙ\u0300ὝὙ\u0301ὟὙ\u0342ὠω\u0313ὡω\u0314ὢὠ\u0300ὣὡ\u0300ὤὠ\u0301ὥὡ",
     "\u0301ὦὠ\u0342ὧὡ\u0342ὨΩ\u0313ὩΩ\u0314ὪὨ\u0300ὫὩ\u0300ὬὨ\u0301ὭὩ\u0301ὮὨ\u0342ὯὩ\u0342ὰα",
     "\u0300ὲε\u0300ὴη\u0300ὶι\u0300ὸο\u0300ὺυ\u0300ὼω\u0300ᾀἀ\u0345ᾁἁ\u0345ᾂἂ\u0345ᾃἃ\u0345ᾄἄ",
     "\u0345ᾅἅ\u0345ᾆἆ\u0345ᾇἇ\u0345ᾈἈ\u0345ᾉἉ\u0345ᾊἊ\u0345ᾋἋ\u0345ᾌἌ\u0345ᾍἍ\u0345ᾎἎ\u0345ᾏἏ",
     "\u0345ᾐἠ\u0345ᾑἡ\u0345ᾒἢ\u0345ᾓἣ\u0345ᾔἤ\u0345ᾕἥ\u0345ᾖἦ\u0345ᾗἧ\u0345ᾘἨ\u0345ᾙἩ\u0345ᾚἪ",
     "\u0345ᾛἫ\u0345ᾜἬ\u0345ᾝἭ\u0345ᾞἮ\u0345ᾟἯ\u0345ᾠὠ\u0345ᾡὡ\u0345ᾢὢ\u0345ᾣὣ\u0345ᾤὤ\u0345ᾥὥ",
     "\u0345ᾦὦ\u0345ᾧὧ\u0345ᾨὨ\u0345ᾩὩ\u0345ᾪὪ\u0345ᾫὫ\u0345ᾬὬ\u0345ᾭὭ\u0345ᾮὮ\u0345ᾯὯ\u0345ᾰα",
     "\u0306ᾱα\u0304ᾲὰ\u0345ᾳα\u0345ᾴά\u0345ᾶα\u0342ᾷᾶ\u0345ᾸΑ\u0306ᾹΑ\u0304ᾺΑ\u0300ᾼΑ\u0345῁¨",
     "\u0342ῂὴ\u0345ῃη\u0345ῄή\u0345ῆη\u0342ῇῆ\u0345ῈΕ\u0300ῊΗ\u0300ῌΗ\u0345῍᾿\u0300῎᾿\u0301῏᾿",
     "\u0342ῐι\u0306ῑι\u0304ῒϊ\u0300ῖι\u0342ῗϊ\u0342ῘΙ\u0306ῙΙ\u0304ῚΙ\u0300῝῾\u0300῞῾\u0301῟῾",
     "\u0342ῠυ\u0306ῡυ\u0304ῢϋ\u0300ῤρ\u0313ῥρ\u0314ῦυ\u0342ῧϋ\u0342ῨΥ\u0306ῩΥ\u0304ῪΥ\u0300ῬΡ",
     "\u0314῭¨\u0300ῲὼ\u0345ῳω\u0345ῴώ\u0345ῶω\u0342ῷῶ\u0345ῸΟ\u0300ῺΩ\u0300ῼΩ\u0345↚←\u0338↛→",
     "\u0338↮↔\u0338⇍⇐\u0338⇎⇔\u0338⇏⇒\u0338∄∃\u0338∉∈\u0338∌∋\u0338∤∣\u0338∦∥\u0338≁∼\u0338≄≃",
     "\u0338≇≅\u0338≉≈\u0338≠=\u0338≢≡\u0338≭≍\u0338≮<\u0338≯>\u0338≰≤\u0338≱≥\u0338≴≲\u0338≵≳",
     "\u0338≸≶\u0338≹≷\u0338⊀≺\u0338⊁≻\u0338⊄⊂\u0338⊅⊃\u0338⊈⊆\u0338⊉⊇\u0338⊬⊢\u0338⊭⊨\u0338⊮⊩",
     "\u0338⊯⊫\u0338⋠≼\u0338⋡≽\u0338⋢⊑\u0338⋣⊒\u0338⋪⊲\u0338⋫⊳\u0338⋬⊴\u0338⋭⊵\u0338がか\u3099ぎ",
     "き\u3099ぐく\u3099げけ\u3099ごこ\u3099ざさ\u3099じし\u3099ずす\u3099ぜせ\u3099ぞそ\u3099だ",
     "た\u3099ぢち\u3099づつ\u3099でて\u3099どと\u3099ばは\u3099ぱは\u309aびひ\u3099ぴひ\u309aぶ",
     "ふ\u3099ぷふ\u309aべへ\u3099ぺへ\u309aぼほ\u3099ぽほ\u309aゔう\u3099ゞゝ\u3099ガカ\u3099ギ",
     "キ\u3099グク\u3099ゲケ\u3099ゴコ\u3099ザサ\u3099ジシ\u3099ズス\u3099ゼセ\u3099ゾソ\u3099ダ",
     "タ\u3099ヂチ\u3099ヅツ\u3099デテ\u3099ドト\u3099バハ\u3099パハ\u309aビヒ\u3099ピヒ\u309aブ",
     "フ\u3099プフ\u309aベヘ\u3099ペヘ\u309aボホ\u3099ポホ\u309aヴウ\u3099ヷワ\u3099ヸヰ\u3099ヹ",
     "ヱ\u3099ヺヲ\u3099ヾヽ\u3099"]

/-- Characters of two parts beyond U+FFFF, with their parts. -/
def furtherComposites : List (Nat × Nat × Nat) :=
  [
    (0x1109A, 0x11099, 0x110BA), (0x1109C, 0x1109B, 0x110BA), (0x110AB, 0x110A5, 0x110BA),
    (0x1112E, 0x11131, 0x11127), (0x1112F, 0x11132, 0x11127), (0x1134B, 0x11347, 0x1133E),
    (0x1134C, 0x11347, 0x11357), (0x114BB, 0x114B9, 0x114BA), (0x114BC, 0x114B9, 0x114B0),
    (0x114BE, 0x114B9, 0x114BD), (0x115BA, 0x115B8, 0x115AF), (0x115BB, 0x115B9, 0x115AF),
    (0x11938, 0x11935, 0x11930)]

/-- The numbers three by three. -/
def triples : List Nat → List (Nat × Nat × Nat)
  | a :: b :: c :: rest => (a, b, c) :: triples rest
  | _ => []

/-- All characters of two parts, with their parts. -/
def composites : List (Nat × Nat × Nat) :=
  triples ((basicComposites.flatMap String.toList).map Char.toNat) ++ furtherComposites

/-- The characters that no composed text holds, as ranges. -/
def uncomposed : List (Nat × Nat) :=
  [
    (0x340, 0x341), (0x343, 0x344), (0x374, 0x374), (0x37E, 0x37E), (0x387, 0x387), (0x958, 0x95F),
    (0x9DC, 0x9DD), (0x9DF, 0x9DF), (0xA33, 0xA33), (0xA36, 0xA36), (0xA59, 0xA5B), (0xA5E, 0xA5E),
    (0xB5C, 0xB5D), (0xF43, 0xF43), (0xF4D, 0xF4D), (0xF52, 0xF52), (0xF57, 0xF57), (0xF5C, 0xF5C),
    (0xF69, 0xF69), (0xF73, 0xF73), (0xF75, 0xF76), (0xF78, 0xF78), (0xF81, 0xF81), (0xF93, 0xF93),
    (0xF9D, 0xF9D), (0xFA2, 0xFA2), (0xFA7, 0xFA7), (0xFAC, 0xFAC), (0xFB9, 0xFB9),
    (0x1F71, 0x1F71), (0x1F73, 0x1F73), (0x1F75, 0x1F75), (0x1F77, 0x1F77), (0x1F79, 0x1F79),
    (0x1F7B, 0x1F7B), (0x1F7D, 0x1F7D), (0x1FBB, 0x1FBB), (0x1FBE, 0x1FBE), (0x1FC9, 0x1FC9),
    (0x1FCB, 0x1FCB), (0x1FD3, 0x1FD3), (0x1FDB, 0x1FDB), (0x1FE3, 0x1FE3), (0x1FEB, 0x1FEB),
    (0x1FEE, 0x1FEF), (0x1FF9, 0x1FF9), (0x1FFB, 0x1FFB), (0x1FFD, 0x1FFD), (0x2000, 0x2001),
    (0x2126, 0x2126), (0x212A, 0x212B), (0x2329, 0x232A), (0x2ADC, 0x2ADC), (0xF900, 0xFA0D),
    (0xFA10, 0xFA10), (0xFA12, 0xFA12), (0xFA15, 0xFA1E), (0xFA20, 0xFA20), (0xFA22, 0xFA22),
    (0xFA25, 0xFA26), (0xFA2A, 0xFA6D), (0xFA70, 0xFAD9), (0xFB1D, 0xFB1D), (0xFB1F, 0xFB1F),
    (0xFB2A, 0xFB36), (0xFB38, 0xFB3C), (0xFB3E, 0xFB3E), (0xFB40, 0xFB41), (0xFB43, 0xFB44),
    (0xFB46, 0xFB4E), (0x1D15E, 0x1D164), (0x1D1BB, 0x1D1C0), (0x2F800, 0x2FA1D)]

/-! ## Syllables

The syllables of Hangul stand in the order of their parts: 19 first ones, 21
second ones, and 27 third ones or none. -/

/-- The parts of a syllable: the syllable without its third part and that part,
    or its first two parts. -/
def syllableParts? (n : Nat) : Option (Nat × Nat) :=
  if n < 0xAC00 || 0xD7A3 < n then none
  else
    let k := n - 0xAC00
    if k % 28 = 0 then some (0x1100 + k / 588, 0x1161 + k % 588 / 28)
    else some (n - k % 28, 0x11A7 + k % 28)

/-- The syllable of two parts. -/
def syllable? (a b : Nat) : Option Nat :=
  if 0x1100 ≤ a && a ≤ 0x1112 && 0x1161 ≤ b && b ≤ 0x1175 then
    some (0xAC00 + (a - 0x1100) * 588 + (b - 0x1161) * 28)
  else if 0xAC00 ≤ a && a ≤ 0xD7A3 && (a - 0xAC00) % 28 = 0 && 0x11A8 ≤ b && b ≤ 0x11C2 then
    some (a + (b - 0x11A7))
  else none

/-! ## Taking apart and putting together -/

/-- The two parts of a character. -/
def parts? (n : Nat) : Option (Nat × Nat) :=
  (syllableParts? n).or ((composites.find? (·.1 = n)).map (·.2))

/-- The character of two parts. -/
def whole? (a b : Nat) : Option Nat :=
  (syllable? a b).or ((composites.find? fun c => c.2.1 = a && c.2.2 = b).map (·.1))

/-- The parts of a character, taken apart up to `depth` times; only the first of
    two parts has parts itself. -/
def apart : Nat → Nat → List Nat
  | 0, n => [n]
  | depth + 1, n => match parts? n with
    | some (a, b) => apart depth a ++ [b]
    | none => [n]

/-- Puts a mark before the marks of higher classes at the end of code points
    that are given in reverse. -/
def insertMark (n : Nat) : List Nat → List Nat
  | [] => [n]
  | m :: rest =>
    if markClass n < markClass m then m :: insertMark n rest else n :: m :: rest

/-- The code points with the marks in order. -/
def ordered (ns : List Nat) : List Nat :=
  (ns.foldl (fun done n => if markClass n = 0 then n :: done else insertMark n done) []).reverse

/-- Puts code points together: `start` is the last one that is no mark, and
    `marks` are the ones after it that stay, the last one first. -/
def joinedFrom (start : Option Nat) (marks : List Nat) : List Nat → List Nat
  | [] => start.toList ++ marks.reverse
  | n :: rest =>
    -- a mark of the same class or a higher one keeps others away
    let reaches := match marks with
      | [] => true
      | m :: _ => markClass m < markClass n
    match start.bind fun s => if reaches then whole? s n else none with
    | some w => joinedFrom (some w) marks rest
    | none =>
      if markClass n = 0 then start.toList ++ marks.reverse ++ joinedFrom (some n) [] rest
      else joinedFrom start (n :: marks) rest

/-- The composed form of code points. -/
def composed (ns : List Nat) : List Nat := joinedFrom none [] (ordered (ns.flatMap (apart 4)))

/-- The code points are in composed form. -/
def isComposed (ns : List Nat) : Bool :=
  !(ns.any fun n => uncomposed.any fun r => r.1 ≤ n && n ≤ r.2) && composed ns == ns

end ChatRelay.Text.Composition
