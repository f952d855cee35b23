import Lookout.Text.Occurrence
import Lookout.Text.Unassigned

/-!
# The mapping of characters in domain names

Tables of the processing that domain names in Unicode go through before they are written in ASCII: which
characters are replaced, which are dropped, and which may not occur. Assigned characters in none of the
tables stand for themselves.
-/

namespace Lookout.DomainName
set_option autoImplicit false
open Text

/-- Characters that are replaced by one character each: a range, the step within it, and the character
that replaces its first. In a range the replacements run along with the characters. -/
def shifted : List (Nat × Nat × Nat × Nat) :=
  [(0x41, 0x5A, 1, 0x61), (0xC0, 0xD6, 1, 0xE0), (0xD8, 0xDE, 1, 0xF8), (0x100, 0x12E, 2, 0x101),
    (0x141, 0x147, 2, 0x142), (0x14A, 0x176, 2, 0x14B), (0x1CD, 0x1DB, 2, 0x1CE), (0x1DE, 0x1EE, 2, 0x1DF),
    (0x1F8, 0x21E, 2, 0x1F9), (0x222, 0x232, 2, 0x223), (0x246, 0x24E, 2, 0x247), (0x391, 0x3A1, 1, 0x3B1),
    (0x3A3, 0x3AB, 1, 0x3C3), (0x3D8, 0x3EE, 2, 0x3D9), (0x400, 0x40F, 1, 0x450), (0x410, 0x42F, 1, 0x430),
    (0x460, 0x480, 2, 0x461), (0x48A, 0x4BE, 2, 0x48B), (0x4C1, 0x4CD, 2, 0x4C2), (0x4D0, 0x52E, 2, 0x4D1),
    (0x531, 0x556, 1, 0x561), (0x10A0, 0x10C5, 1, 0x2D00), (0x13F8, 0x13FD, 1, 0x13F0),
    (0x1C90, 0x1CBA, 1, 0x10D0), (0x1D33, 0x1D3A, 1, 0x67), (0x1DAE, 0x1DB1, 1, 0x272),
    (0x1E00, 0x1E94, 2, 0x1E01), (0x1EA0, 0x1EFE, 2, 0x1EA1), (0x1F08, 0x1F0F, 1, 0x1F00),
    (0x1F18, 0x1F1D, 1, 0x1F10), (0x1F28, 0x1F2F, 1, 0x1F20), (0x1F38, 0x1F3F, 1, 0x1F30),
    (0x1F48, 0x1F4D, 1, 0x1F40), (0x1F59, 0x1F5F, 2, 0x1F51), (0x1F68, 0x1F6F, 1, 0x1F60),
    (0x2074, 0x2079, 1, 0x34), (0x2080, 0x2089, 1, 0x30), (0x2096, 0x2099, 1, 0x6B),
    (0x2135, 0x2138, 1, 0x5D0), (0x2460, 0x2468, 1, 0x31), (0x24B6, 0x24CF, 1, 0x61),
    (0x24D0, 0x24E9, 1, 0x61), (0x2C00, 0x2C2F, 1, 0x2C30), (0x2C80, 0x2CE2, 2, 0x2C81),
    (0x313A, 0x313F, 1, 0x11B0), (0x3145, 0x314E, 1, 0x1109), (0x314F, 0x3163, 1, 0x1161),
    (0x3178, 0x317C, 1, 0x112B), (0x3269, 0x326D, 1, 0x110E), (0x32E4, 0x32E9, 1, 0x30CA),
    (0x32EE, 0x32F2, 1, 0x30DE), (0x32F5, 0x32FA, 1, 0x30E8), (0x32FB, 0x32FE, 1, 0x30EF),
    (0xA640, 0xA66C, 2, 0xA641), (0xA680, 0xA69A, 2, 0xA681), (0xA722, 0xA72E, 2, 0xA723),
    (0xA732, 0xA76E, 2, 0xA733), (0xA77E, 0xA786, 2, 0xA77F), (0xA796, 0xA7A8, 2, 0xA797),
    (0xA7B4, 0xA7C2, 2, 0xA7B5), (0xAB70, 0xABBF, 1, 0x13A0), (0xFE41, 0xFE44, 1, 0x300C),
    (0xFF01, 0xFF20, 1, 0x21), (0xFF21, 0xFF3A, 1, 0x61), (0xFF3B, 0xFF5E, 1, 0x5B),
    (0xFF85, 0xFF8A, 1, 0x30CA), (0xFF8F, 0xFF93, 1, 0x30DE), (0xFF96, 0xFF9B, 1, 0x30E8),
    (0xFFAA, 0xFFAF, 1, 0x11B0), (0xFFB5, 0xFFBE, 1, 0x1109), (0xFFC2, 0xFFC7, 1, 0x1161),
    (0xFFCA, 0xFFCF, 1, 0x1167), (0xFFD2, 0xFFD7, 1, 0x116D), (0xFFE9, 0xFFEC, 1, 0x2190),
    (0x10400, 0x10427, 1, 0x10428), (0x104B0, 0x104D3, 1, 0x104D8), (0x10570, 0x1057A, 1, 0x10597),
    (0x1057C, 0x1058A, 1, 0x105A3), (0x1058C, 0x10592, 1, 0x105B3), (0x10C80, 0x10CB2, 1, 0x10CC0),
    (0x10D50, 0x10D65, 1, 0x10D70), (0x118A0, 0x118BF, 1, 0x118C0), (0x16E40, 0x16E5F, 1, 0x16E60),
    (0x1D400, 0x1D419, 1, 0x61), (0x1D41A, 0x1D433, 1, 0x61), (0x1D434, 0x1D44D, 1, 0x61),
    (0x1D44E, 0x1D454, 1, 0x61), (0x1D456, 0x1D467, 1, 0x69), (0x1D468, 0x1D481, 1, 0x61),
    (0x1D482, 0x1D49B, 1, 0x61), (0x1D4A9, 0x1D4AC, 1, 0x6E), (0x1D4AE, 0x1D4B5, 1, 0x73),
    (0x1D4B6, 0x1D4B9, 1, 0x61), (0x1D4BD, 0x1D4C3, 1, 0x68), (0x1D4C5, 0x1D4CF, 1, 0x70),
    (0x1D4D0, 0x1D4E9, 1, 0x61), (0x1D4EA, 0x1D503, 1, 0x61), (0x1D507, 0x1D50A, 1, 0x64),
    (0x1D50D, 0x1D514, 1, 0x6A), (0x1D516, 0x1D51C, 1, 0x73), (0x1D51E, 0x1D537, 1, 0x61),
    (0x1D53B, 0x1D53E, 1, 0x64), (0x1D540, 0x1D544, 1, 0x69), (0x1D54A, 0x1D550, 1, 0x73),
    (0x1D552, 0x1D56B, 1, 0x61), (0x1D56C, 0x1D585, 1, 0x61), (0x1D586, 0x1D59F, 1, 0x61),
    (0x1D5A0, 0x1D5B9, 1, 0x61), (0x1D5BA, 0x1D5D3, 1, 0x61), (0x1D5D4, 0x1D5ED, 1, 0x61),
    (0x1D5EE, 0x1D607, 1, 0x61), (0x1D608, 0x1D621, 1, 0x61), (0x1D622, 0x1D63B, 1, 0x61),
    (0x1D63C, 0x1D655, 1, 0x61), (0x1D656, 0x1D66F, 1, 0x61), (0x1D670, 0x1D689, 1, 0x61),
    (0x1D68A, 0x1D6A3, 1, 0x61), (0x1D6A8, 0x1D6B8, 1, 0x3B1), (0x1D6BA, 0x1D6C0, 1, 0x3C3),
    (0x1D6C2, 0x1D6D2, 1, 0x3B1), (0x1D6D4, 0x1D6DA, 1, 0x3C3), (0x1D6E2, 0x1D6F2, 1, 0x3B1),
    (0x1D6F4, 0x1D6FA, 1, 0x3C3), (0x1D6FC, 0x1D70C, 1, 0x3B1), (0x1D70E, 0x1D714, 1, 0x3C3),
    (0x1D71C, 0x1D72C, 1, 0x3B1), (0x1D72E, 0x1D734, 1, 0x3C3), (0x1D736, 0x1D746, 1, 0x3B1),
    (0x1D748, 0x1D74E, 1, 0x3C3), (0x1D756, 0x1D766, 1, 0x3B1), (0x1D768, 0x1D76E, 1, 0x3C3),
    (0x1D770, 0x1D780, 1, 0x3B1), (0x1D782, 0x1D788, 1, 0x3C3), (0x1D790, 0x1D7A0, 1, 0x3B1),
    (0x1D7A2, 0x1D7A8, 1, 0x3C3), (0x1D7AA, 0x1D7BA, 1, 0x3B1), (0x1D7BC, 0x1D7C2, 1, 0x3C3),
    (0x1D7CE, 0x1D7D7, 1, 0x30), (0x1D7D8, 0x1D7E1, 1, 0x30), (0x1D7E2, 0x1D7EB, 1, 0x30),
    (0x1D7EC, 0x1D7F5, 1, 0x30), (0x1D7F6, 0x1D7FF, 1, 0x30), (0x1E030, 0x1E038, 1, 0x430),
    (0x1E03C, 0x1E046, 1, 0x43E), (0x1E051, 0x1E059, 1, 0x430), (0x1E05F, 0x1E064, 1, 0x443),
    (0x1E900, 0x1E921, 1, 0x1E922), (0x1EE0A, 0x1EE0D, 1, 0x643), (0x1EE2A, 0x1EE2D, 1, 0x643),
    (0x1F130, 0x1F149, 1, 0x61), (0x1FBF0, 0x1FBF9, 1, 0x30)]

/-- Characters that are replaced by texts of their own: a range, and the texts of its characters in
order, with bars between them. -/
def replaced : List (Nat × Nat × String) :=
  [(0xA0, 0xA0, "\x20"),
    (0xA8, 0xAA, "\x20\u0308|©|a"),
    (0xAF, 0xBE, "\x20\u0304|°|±|2|3|\x20\u0301|μ|¶|·|\x20\u0327|1|o|»|1⁄4|1⁄2|3⁄4"),
    (0x130, 0x140, "i\u0307|ı|ij|ij|ĵ|ĵ|ķ|ķ|ĸ|ĺ|ĺ|ļ|ļ|ľ|ľ|l·|l·"),
    (0x149, 0x149, "ʼn"),
    (0x178, 0x19E, "ÿ|ź|ź|ż|ż|ž|ž|s|ƀ|ɓ|ƃ|ƃ|ƅ|ƅ|ɔ|ƈ|ƈ|ɖ|ɗ|ƌ|ƌ|ƍ|ǝ|ə|ɛ|ƒ|ƒ|ɠ|ɣ|ƕ|ɩ|ɨ|ƙ|ƙ|ƚ|ƛ|ɯ|ɲ|ƞ"),
    (0x19F, 0x1BC, "ɵ|ơ|ơ|ƣ|ƣ|ƥ|ƥ|ʀ|ƨ|ƨ|ʃ|ƪ|ƫ|ƭ|ƭ|ʈ|ư|ư|ʊ|ʋ|ƴ|ƴ|ƶ|ƶ|ʒ|ƹ|ƹ|ƺ|ƻ|ƽ"),
    (0x1C4, 0x1CC, "dž|dž|dž|lj|lj|lj|nj|nj|nj"),
    (0x1F1, 0x1F7, "dz|dz|dz|ǵ|ǵ|ƕ|ƿ"),
    (0x220, 0x220, "ƞ"),
    (0x23A, 0x245, "ⱥ|ȼ|ȼ|ƚ|ⱦ|ȿ|ɀ|ɂ|ɂ|ƀ|ʉ|ʌ"),
    (0x2B0, 0x2B8, "h|ɦ|j|r|ɹ|ɻ|ʁ|w|y"),
    (0x2D8, 0x2E3, "\x20\u0306|\x20\u0307|\x20\u030a|\x20\u0328|\x20\u0303|\x20\u030b|˞|˟|ɣ|l|s|x"),
    (0x2E4, 0x2E4, "ʕ"),
    (0x340, 0x345, "\u0300|\u0301|\u0342|\u0313|\u0308\u0301|ι"),
    (0x370, 0x37F, "ͱ|ͱ|ͳ|ͳ|ʹ|͵|ͷ|ͷ|-|-|\x20ι|ͻ|ͼ|ͽ|;|ϳ"),
    (0x384, 0x38F, "\x20\u0301|\x20\u0308\u0301|ά|·|έ|ή|ί|-|ό|-|ύ|ώ"),
    (0x3CF, 0x3D6, "ϗ|β|θ|υ|ύ|ϋ|φ|π"),
    (0x3F0, 0x3FF, "κ|ρ|σ|ϳ|θ|ε|϶|ϸ|ϸ|σ|ϻ|ϻ|ϼ|ͻ|ͼ|ͽ"),
    (0x4C0, 0x4C0, "ӏ"),
    (0x587, 0x587, "եւ"),
    (0x675, 0x678, "\u0627\u0674|\u0648\u0674|\u06c7\u0674|\u064a\u0674"),
    (0x958, 0x95F, "क\u093c|ख\u093c|ग\u093c|ज\u093c|ड\u093c|ढ\u093c|फ\u093c|य\u093c"),
    (0x9DC, 0x9DF, "ড\u09bc|ঢ\u09bc|-|য\u09bc"),
    (0xA33, 0xA36, "ਲ\u0a3c|-|ਵ|ਸ\u0a3c"),
    (0xA59, 0xA5E, "ਖ\u0a3c|ਗ\u0a3c|ਜ\u0a3c|ੜ|-|ਫ\u0a3c"),
    (0xB5C, 0xB5D, "ଡ\u0b3c|ଢ\u0b3c"),
    (0xE33, 0xE33, "\u0e4dา"),
    (0xEB3, 0xEB3, "\u0ecdາ"),
    (0xEDC, 0xEDD, "ຫນ|ຫມ"),
    (0xF0C, 0xF0C, "་"),
    (0xF43, 0xF43, "ག\u0fb7"),
    (0xF4D, 0xF4D, "ཌ\u0fb7"),
    (0xF52, 0xF52, "ད\u0fb7"),
    (0xF57, 0xF57, "བ\u0fb7"),
    (0xF5C, 0xF5C, "ཛ\u0fb7"),
    (0xF69, 0xF69, "ཀ\u0fb5"),
    (0xF73, 0xF78, "\u0f71\u0f72|\u0f74|\u0f71\u0f74|\u0fb2\u0f80|\u0fb2\u0f71\u0f80|\u0fb3\u0f80"),
    (0xF79, 0xF79, "\u0fb3\u0f71\u0f80"),
    (0xF81, 0xF81, "\u0f71\u0f80"),
    (0xF93, 0xF93, "\u0f92\u0fb7"),
    (0xF9D, 0xF9D, "\u0f9c\u0fb7"),
    (0xFA2, 0xFA2, "\u0fa1\u0fb7"),
    (0xFA7, 0xFA7, "\u0fa6\u0fb7"),
    (0xFAC, 0xFAC, "\u0fab\u0fb7"),
    (0xFB9, 0xFB9, "\u0f90\u0fb5"),
    (0x10C7, 0x10C7, "ⴧ"),
    (0x10CD, 0x10CD, "ⴭ"),
    (0x10FC, 0x10FC, "ნ"),
    (0x1C80, 0x1C89, "в|д|о|с|т|т|ъ|ѣ|ꙋ|ᲊ"),
    (0x1CBD, 0x1CBF, "ჽ|ჾ|ჿ"),
    (0x1D2C, 0x1D32, "a|æ|b|ᴯ|d|e|ǝ"),
    (0x1D3C, 0x1D62, "o|ȣ|p|r|t|u|w|a|ɐ|ɑ|ᴂ|b|d|e|ə|ɛ|ɜ|g|ᵎ|k|m|ŋ|o|ɔ|ᴖ|ᴗ|p|t|u|ᴝ|ɯ|v|ᴥ|β|γ|δ|φ|χ|i"),
    (0x1D63, 0x1D6A, "r|u|v|β|γ|ρ|φ|χ"),
    (0x1D78, 0x1D78, "н"),
    (0x1D9B, 0x1DAD, "ɒ|c|ɕ|ð|ɜ|f|ɟ|ɡ|ɥ|ɨ|ɩ|ɪ|ᵻ|ʝ|ɭ|ᶅ|ʟ|ɱ|ɰ"),
    (0x1DB2, 0x1DBF, "ɸ|ʂ|ʃ|ƫ|ʉ|ʊ|ᴜ|ʋ|ʌ|z|ʐ|ʑ|ʒ|θ"),
    (0x1E9A, 0x1E9E, "aʾ|ṡ|ẜ|ẝ|ß"),
    (0x1F71, 0x1F8F, "ά|ὲ|έ|ὴ|ή|ὶ|ί|ὸ|ό|ὺ|ύ|ὼ|ώ|-|-|ἀι|ἁι|ἂι|ἃι|ἄι|ἅι|ἆι|ἇι|ἀι|ἁι|ἂι|ἃι|ἄι|ἅι|ἆι|ἇι"),
    (0x1F90, 0x1FA9, "ἠι|ἡι|ἢι|ἣι|ἤι|ἥι|ἦι|ἧι|ἠι|ἡι|ἢι|ἣι|ἤι|ἥι|ἦι|ἧι|ὠι|ὡι|ὢι|ὣι|ὤι|ὥι|ὦι|ὧι|ὠι|ὡι"),
    (0x1FAA, 0x1FBF, "ὢι|ὣι|ὤι|ὥι|ὦι|ὧι|ᾰ|ᾱ|ὰι|αι|άι|-|ᾶ|ᾶι|ᾰ|ᾱ|ὰ|ά|αι|\x20\u0313|ι|\x20\u0313"),
    (0x1FC0, 0x1FCD, "\x20\u0342|\x20\u0308\u0342|ὴι|ηι|ήι|-|ῆ|ῆι|ὲ|έ|ὴ|ή|ηι|\x20\u0313\u0300"),
    (0x1FCE, 0x1FD3, "\x20\u0313\u0301|\x20\u0313\u0342|ῐ|ῑ|ῒ|ΐ"),
    (0x1FD8, 0x1FE3, "ῐ|ῑ|ὶ|ί|-|\x20\u0314\u0300|\x20\u0314\u0301|\x20\u0314\u0342|ῠ|ῡ|ῢ|ΰ"),
    (0x1FE8, 0x1FFB, "ῠ|ῡ|ὺ|ύ|ῥ|\x20\u0308\u0300|\x20\u0308\u0301|\x60|-|-|ὼι|ωι|ώι|-|ῶ|ῶι|ὸ|ό|ὼ|ώ"),
    (0x1FFC, 0x2009, "ωι|\x20\u0301|\x20\u0314|-|\x20|\x20|\x20|\x20|\x20|\x20|\x20|\x20|\x20|\x20"),
    (0x200A, 0x200A, "\x20"),
    (0x2011, 0x2011, "‐"),
    (0x2017, 0x2017, "\x20\u0333"),
    (0x202F, 0x2037, "\x20|‰|‱|′|′′|′′′|‵|‵‵|‵‵‵"),
    (0x203C, 0x203E, "!!|‽|\x20\u0305"),
    (0x2047, 0x2049, "??|?!|!?"),
    (0x2057, 0x2057, "′′′′"),
    (0x205F, 0x205F, "\x20"),
    (0x2070, 0x2071, "0|i"),
    (0x207A, 0x207F, "+|−|=|(|)|n"),
    (0x208A, 0x2095, "+|−|=|(|)|-|a|e|o|x|ə|h"),
    (0x209A, 0x209C, "p|s|t"),
    (0x20A8, 0x20A8, "rs"),
    (0x2100, 0x2120, "a/c|a/s|c|°c|℄|c/o|c/u|ɛ|℈|°f|g|h|h|h|h|ħ|i|i|l|l|℔|n|no|℗|℘|p|q|r|r|r|℞|℟|sm"),
    (0x2121, 0x2134, "tel|tm|℣|z|℥|ω|℧|z|℩|k|å|b|c|℮|e|e|f|ⅎ|m|o"),
    (0x2139, 0x2140, "i|℺|fax|π|γ|γ|π|∑"),
    (0x2145, 0x2149, "d|d|e|i|j"),
    (0x2150, 0x2164, "1⁄7|1⁄9|1⁄10|1⁄3|2⁄3|1⁄5|2⁄5|3⁄5|4⁄5|1⁄6|5⁄6|1⁄8|3⁄8|5⁄8|7⁄8|1⁄|i|ii|iii|iv|v"),
    (0x2165, 0x217F, "vi|vii|viii|ix|x|xi|xii|l|c|d|m|i|ii|iii|iv|v|vi|vii|viii|ix|x|xi|xii|l|c|d|m"),
    (0x2180, 0x2183, "ↀ|ↁ|ↂ|ↄ"),
    (0x2189, 0x2189, "0⁄3"),
    (0x222C, 0x2230, "∫∫|∫∫∫|∮|∮∮|∮∮∮"),
    (0x2329, 0x232A, "〈|〉"),
    (0x2469, 0x247E, "10|11|12|13|14|15|16|17|18|19|20|(1)|(2)|(3)|(4)|(5)|(6)|(7)|(8)|(9)|(10)|(11)"),
    (0x247F, 0x2487, "(12)|(13)|(14)|(15)|(16)|(17)|(18)|(19)|(20)"),
    (0x249C, 0x24AE, "(a)|(b)|(c)|(d)|(e)|(f)|(g)|(h)|(i)|(j)|(k)|(l)|(m)|(n)|(o)|(p)|(q)|(r)|(s)"),
    (0x24AF, 0x24B5, "(t)|(u)|(v)|(w)|(x)|(y)|(z)"),
    (0x24EA, 0x24EA, "0"),
    (0x2A0C, 0x2A0C, "∫∫∫∫"),
    (0x2A74, 0x2A76, "::=|==|==="),
    (0x2ADC, 0x2ADC, "⫝\u0338"),
    (0x2C60, 0x2C75, "ⱡ|ⱡ|ɫ|ᵽ|ɽ|ⱥ|ⱦ|ⱨ|ⱨ|ⱪ|ⱪ|ⱬ|ⱬ|ɑ|ɱ|ɐ|ɒ|ⱱ|ⱳ|ⱳ|ⱴ|ⱶ"),
    (0x2C7C, 0x2C7F, "j|v|ȿ|ɀ"),
    (0x2CEB, 0x2CED, "ⳬ|ⳬ|ⳮ"),
    (0x2CF2, 0x2CF2, "ⳳ"),
    (0x2D6F, 0x2D6F, "ⵡ"),
    (0x2E9F, 0x2E9F, "母"),
    (0x2EF3, 0x2EF3, "龟"),
    (0x2F00, 0x2F19, "一|丨|丶|丿|乙|亅|二|亠|人|儿|入|八|冂|冖|冫|几|凵|刀|力|勹|匕|匚|匸|十|卜|卩"),
    (0x2F1A, 0x2F33, "厂|厶|又|口|囗|土|士|夂|夊|夕|大|女|子|宀|寸|小|尢|尸|屮|山|巛|工|己|巾|干|幺"),
    (0x2F34, 0x2F4D, "广|廴|廾|弋|弓|彐|彡|彳|心|戈|戶|手|支|攴|文|斗|斤|方|无|日|曰|月|木|欠|止|歹"),
    (0x2F4E, 0x2F67, "殳|毋|比|毛|氏|气|水|火|爪|父|爻|爿|片|牙|牛|犬|玄|玉|瓜|瓦|甘|生|用|田|疋|疒"),
    (0x2F68, 0x2F81, "癶|白|皮|皿|目|矛|矢|石|示|禸|禾|穴|立|竹|米|糸|缶|网|羊|羽|老|而|耒|耳|聿|肉"),
    (0x2F82, 0x2F9B, "臣|自|至|臼|舌|舛|舟|艮|色|艸|虍|虫|血|行|衣|襾|見|角|言|谷|豆|豕|豸|貝|赤|走"),
    (0x2F9C, 0x2FB5, "足|身|車|辛|辰|辵|邑|酉|釆|里|金|長|門|阜|隶|隹|雨|靑|非|面|革|韋|韭|音|頁|風"),
    (0x2FB6, 0x2FCF, "飛|食|首|香|馬|骨|高|髟|鬥|鬯|鬲|鬼|魚|鳥|鹵|鹿|麥|麻|黃|黍|黑|黹|黽|鼎|鼓|鼠"),
    (0x2FD0, 0x2FD5, "鼻|齊|齒|龍|龜|龠"),
    (0x3000, 0x3002, "\x20|、|."),
    (0x3036, 0x303A, "〒|〷|十|卄|卅"),
    (0x309B, 0x309F, "\x20\u3099|\x20\u309a|ゝ|ゞ|より"),
    (0x30FF, 0x30FF, "コト"),
    (0x3131, 0x3139, "ᄀ|ᄁ|ᆪ|ᄂ|ᆬ|ᆭ|ᄃ|ᄄ|ᄅ"),
    (0x3140, 0x3144, "ᄚ|ᄆ|ᄇ|ᄈ|ᄡ"),
    (0x3165, 0x3177, "ᄔ|ᄕ|ᇇ|ᇈ|ᇌ|ᇎ|ᇓ|ᇗ|ᇙ|ᄜ|ᇝ|ᇟ|ᄝ|ᄞ|ᄠ|ᄢ|ᄣ|ᄧ|ᄩ"),
    (0x317D, 0x319A, "ᄲ|ᄶ|ᅀ|ᅇ|ᅌ|ᇱ|ᇲ|ᅗ|ᅘ|ᅙ|ᆄ|ᆅ|ᆈ|ᆑ|ᆒ|ᆔ|ᆞ|ᆡ|-|㆐|㆑|一|二|三|四|上|中|下|甲|乙"),
    (0x319B, 0x319F, "丙|丁|天|地|人"),
    (0x3200, 0x320E, "(ᄀ)|(ᄂ)|(ᄃ)|(ᄅ)|(ᄆ)|(ᄇ)|(ᄉ)|(ᄋ)|(ᄌ)|(ᄎ)|(ᄏ)|(ᄐ)|(ᄑ)|(ᄒ)|(가)"),
    (0x320F, 0x321D, "(나)|(다)|(라)|(마)|(바)|(사)|(아)|(자)|(차)|(카)|(타)|(파)|(하)|(주)|(오전)"),
    (0x321E, 0x322D, "(오후)|-|(一)|(二)|(三)|(四)|(五)|(六)|(七)|(八)|(九)|(十)|(月)|(火)|(水)|(木)"),
    (0x322E, 0x323C, "(金)|(土)|(日)|(株)|(有)|(社)|(名)|(特)|(財)|(祝)|(労)|(代)|(呼)|(学)|(監)"),
    (0x323D, 0x3247, "(企)|(資)|(協)|(祭)|(休)|(自)|(至)|問|幼|文|箏"),
    (0x3250, 0x3268, "pte|21|22|23|24|25|26|27|28|29|30|31|32|33|34|35|ᄀ|ᄂ|ᄃ|ᄅ|ᄆ|ᄇ|ᄉ|ᄋ|ᄌ"),
    (0x326E, 0x3286, "가|나|다|라|마|바|사|아|자|차|카|타|파|하|참고|주의|우|㉿|一|二|三|四|五|六|七"),
    (0x3287, 0x32A0, "八|九|十|月|火|水|木|金|土|日|株|有|社|名|特|財|祝|労|秘|男|女|適|優|印|注|項"),
    (0x32A1, 0x32BA, "休|写|正|上|中|下|左|右|医|宗|学|監|企|資|協|夜|36|37|38|39|40|41|42|43|44|45"),
    (0x32BB, 0x32CE, "46|47|48|49|50|1月|2月|3月|4月|5月|6月|7月|8月|9月|10月|11月|12月|hg|erg|ev"),
    (0x32CF, 0x32E3, "ltd|ア|イ|ウ|エ|オ|カ|キ|ク|ケ|コ|サ|シ|ス|セ|ソ|タ|チ|ツ|テ|ト"),
    (0x32EA, 0x32ED, "ヒ|フ|ヘ|ホ"),
    (0x32F3, 0x32F4, "ヤ|ユ"),
    (0x32FF, 0x3307, "令和|アパート|アルファ|アンペア|アール|イニング|インチ|ウォン|エスクード"),
    (0x3308, 0x3311, "エーカー|オンス|オーム|カイリ|カラット|カロリー|ガロン|ガンマ|ギガ|ギニー"),
    (0x3312, 0x3319, "キュリー|ギルダー|キロ|キログラム|キロメートル|キロワット|グラム|グラムトン"),
    (0x331A, 0x3322, "クルゼイロ|クローネ|ケース|コルナ|コーポ|サイクル|サンチーム|シリング|センチ"),
    (0x3323, 0x332D, "セント|ダース|デシ|ドル|トン|ナノ|ノット|ハイツ|パーセント|パーツ|バーレル"),
    (0x332E, 0x3336, "ピアストル|ピクル|ピコ|ビル|ファラッド|フィート|ブッシェル|フラン|ヘクタール"),
    (0x3337, 0x3341, "ペソ|ペニヒ|ヘルツ|ペンス|ページ|ベータ|ポイント|ボルト|ホン|ポンド|ホール"),
    (0x3342, 0x334B, "ホーン|マイクロ|マイル|マッハ|マルク|マンション|ミクロン|ミリ|ミリバール|メガ"),
    (0x334C, 0x3355, "メガトン|メートル|ヤード|ヤール|ユアン|リットル|リラ|ルピー|ルーブル|レム"),
    (0x3356, 0x3365, "レントゲン|ワット|0点|1点|2点|3点|4点|5点|6点|7点|8点|9点|10点|11点|12点|13点"),
    (0x3366, 0x3377, "14点|15点|16点|17点|18点|19点|20点|21点|22点|23点|24点|hpa|da|au|bar|ov|pc|dm"),
    (0x3378, 0x338B, "dm2|dm3|iu|平成|昭和|大正|明治|株式会社|pa|na|μa|ma|ka|kb|mb|gb|cal|kcal|pf|nf"),
    (0x338C, 0x33A2, "μf|μg|mg|kg|hz|khz|mhz|ghz|thz|μl|ml|dl|kl|fm|nm|μm|mm|cm|km|mm2|cm2|m2|km2"),
    (0x33A3, 0x33B6, "mm3|cm3|m3|km3|m∕s|m∕s2|pa|kpa|mpa|gpa|rad|rad∕s|rad∕s2|ps|ns|μs|ms|pv|nv|μv"),
    (0x33B7, 0x33D0, "mv|kv|mv|pw|nw|μw|mw|kw|mw|kω|mω|-|bq|cc|cd|c∕kg|-|db|gy|ha|hp|in|kk|km|kt|lm"),
    (0x33D1, 0x33E6, "ln|log|lx|mb|mil|mol|ph|-|ppm|pr|sr|sv|wb|v∕m|a∕m|1日|2日|3日|4日|5日|6日|7日"),
    (0x33E7, 0x33F6, "8日|9日|10日|11日|12日|13日|14日|15日|16日|17日|18日|19日|20日|21日|22日|23日"),
    (0x33F7, 0x33FF, "24日|25日|26日|27日|28日|29日|30日|31日|gal"),
    (0xA69C, 0xA69D, "ъ|ь"),
    (0xA770, 0xA770, "ꝯ"),
    (0xA779, 0xA77D, "ꝺ|ꝺ|ꝼ|ꝼ|ᵹ"),
    (0xA78B, 0xA792, "ꞌ|ꞌ|ɥ|ꞎ|ꞏ|ꞑ|ꞑ|ꞓ"),
    (0xA7AA, 0xA7B3, "ɦ|ɜ|ɡ|ɬ|ɪ|ꞯ|ʞ|ʇ|ʝ|ꭓ"),
    (0xA7C4, 0xA7D0, "ꞔ|ʂ|ᶎ|ꟈ|ꟈ|ꟊ|ꟊ|ɤ|ꟍ|ꟍ|-|-|ꟑ"),
    (0xA7D6, 0xA7DC, "ꟗ|ꟗ|ꟙ|ꟙ|ꟛ|ꟛ|ƛ"),
    (0xA7F2, 0xA7F9, "c|f|q|ꟶ|ꟶ|ꟷ|ħ|œ"),
    (0xAB5C, 0xAB5F, "ꜧ|ꬷ|ɫ|ꭒ"),
    (0xAB69, 0xAB69, "ʍ"),
    (0xF900, 0xF919, "豈|更|車|賈|滑|串|句|龜|龜|契|金|喇|奈|懶|癩|羅|蘿|螺|裸|邏|樂|洛|烙|珞|落|酪"),
    (0xF91A, 0xF933, "駱|亂|卵|欄|爛|蘭|鸞|嵐|濫|藍|襤|拉|臘|蠟|廊|朗|浪|狼|郎|來|冷|勞|擄|櫓|爐|盧"),
    (0xF934, 0xF94D, "老|蘆|虜|路|露|魯|鷺|碌|祿|綠|菉|錄|鹿|論|壟|弄|籠|聾|牢|磊|賂|雷|壘|屢|樓|淚"),
    (0xF94E, 0xF967, "漏|累|縷|陋|勒|肋|凜|凌|稜|綾|菱|陵|讀|拏|樂|諾|丹|寧|怒|率|異|北|磻|便|復|不"),
    (0xF968, 0xF981, "泌|數|索|參|塞|省|葉|說|殺|辰|沈|拾|若|掠|略|亮|兩|凉|梁|糧|良|諒|量|勵|呂|女"),
    (0xF982, 0xF99B, "廬|旅|濾|礪|閭|驪|麗|黎|力|曆|歷|轢|年|憐|戀|撚|漣|煉|璉|秊|練|聯|輦|蓮|連|鍊"),
    (0xF99C, 0xF9B5, "列|劣|咽|烈|裂|說|廉|念|捻|殮|簾|獵|令|囹|寧|嶺|怜|玲|瑩|羚|聆|鈴|零|靈|領|例"),
    (0xF9B6, 0xF9CF, "禮|醴|隸|惡|了|僚|寮|尿|料|樂|燎|療|蓼|遼|龍|暈|阮|劉|杻|柳|流|溜|琉|留|硫|紐"),
    (0xF9D0, 0xF9E9, "類|六|戮|陸|倫|崙|淪|輪|律|慄|栗|率|隆|利|吏|履|易|李|梨|泥|理|痢|罹|裏|裡|里"),
    (0xF9EA, 0xFA03, "離|匿|溺|吝|燐|璘|藺|隣|鱗|麟|林|淋|臨|立|笠|粒|狀|炙|識|什|茶|刺|切|度|拓|糖"),
    (0xFA04, 0xFA1D, "宅|洞|暴|輻|行|降|見|廓|兀|嗀|﨎|﨏|塚|﨑|晴|﨓|﨔|凞|猪|益|礼|神|祥|福|靖|精"),
    (0xFA1E, 0xFA37, "羽|﨟|蘒|﨡|諸|﨣|﨤|逸|都|﨧|﨨|﨩|飯|飼|館|鶴|郞|隷|侮|僧|免|勉|勤|卑|喝|嘆"),
    (0xFA38, 0xFA51, "器|塀|墨|層|屮|悔|慨|憎|懲|敏|既|暑|梅|海|渚|漢|煮|爫|琢|碑|社|祉|祈|祐|祖|祝"),
    (0xFA52, 0xFA6B, "禍|禎|穀|突|節|練|縉|繁|署|者|臭|艹|艹|著|褐|視|謁|謹|賓|贈|辶|逸|難|響|頻|恵"),
    (0xFA6C, 0xFA86, "𤋮|舘|-|-|並|况|全|侀|充|冀|勇|勺|喝|啕|喙|嗢|塚|墳|奄|奔|婢|嬨|廒|廙|彩|徭|惘"),
    (0xFA87, 0xFAA0, "慎|愈|憎|慠|懲|戴|揄|搜|摒|敖|晴|朗|望|杖|歹|殺|流|滛|滋|漢|瀞|煮|瞧|爵|犯|猪"),
    (0xFAA1, 0xFABA, "瑱|甆|画|瘝|瘟|益|盛|直|睊|着|磌|窱|節|类|絛|練|缾|者|荒|華|蝹|襁|覆|視|調|諸"),
    (0xFABB, 0xFAD4, "請|謁|諾|諭|謹|變|贈|輸|遲|醙|鉶|陼|難|靖|韛|響|頋|頻|鬒|龜|𢡊|𢡄|𣏕|㮝|䀘|䀹"),
    (0xFAD5, 0xFAD9, "𥉉|𥳐|𧻓|齃|龎"),
    (0xFB00, 0xFB06, "ff|fi|fl|ffi|ffl|st|st"),
    (0xFB13, 0xFB17, "մն|մե|մի|վն|մխ"),
    (0xFB1D, 0xFB25, "\u05d9\u05b4|\ufb1e|\u05f2\u05b7|\u05e2|\u05d0|\u05d3|\u05d4|\u05db|\u05dc"),
    (0xFB26, 0xFB2C, "\u05dd|\u05e8|\u05ea|+|\u05e9\u05c1|\u05e9\u05c2|\u05e9\u05bc\u05c1"),
    (0xFB2D, 0xFB31, "\u05e9\u05bc\u05c2|\u05d0\u05b7|\u05d0\u05b8|\u05d0\u05bc|\u05d1\u05bc"),
    (0xFB32, 0xFB37, "\u05d2\u05bc|\u05d3\u05bc|\u05d4\u05bc|\u05d5\u05bc|\u05d6\u05bc|-"),
    (0xFB38, 0xFB3D, "\u05d8\u05bc|\u05d9\u05bc|\u05da\u05bc|\u05db\u05bc|\u05dc\u05bc|-"),
    (0xFB3E, 0xFB45, "\u05de\u05bc|-|\u05e0\u05bc|\u05e1\u05bc|-|\u05e3\u05bc|\u05e4\u05bc|-"),
    (0xFB46, 0xFB4B, "\u05e6\u05bc|\u05e7\u05bc|\u05e8\u05bc|\u05e9\u05bc|\u05ea\u05bc|\u05d5\u05b9"),
    (0xFB4C, 0xFB52, "\u05d1\u05bf|\u05db\u05bf|\u05e4\u05bf|\u05d0\u05dc|\u0671|\u0671|\u067b"),
    (0xFB53, 0xFB5D, "\u067b|\u067b|\u067b|\u067e|\u067e|\u067e|\u067e|\u0680|\u0680|\u0680|\u0680"),
    (0xFB5E, 0xFB68, "\u067a|\u067a|\u067a|\u067a|\u067f|\u067f|\u067f|\u067f|\u0679|\u0679|\u0679"),
    (0xFB69, 0xFB73, "\u0679|\u06a4|\u06a4|\u06a4|\u06a4|\u06a6|\u06a6|\u06a6|\u06a6|\u0684|\u0684"),
    (0xFB74, 0xFB7E, "\u0684|\u0684|\u0683|\u0683|\u0683|\u0683|\u0686|\u0686|\u0686|\u0686|\u0687"),
    (0xFB7F, 0xFB89, "\u0687|\u0687|\u0687|\u068d|\u068d|\u068c|\u068c|\u068e|\u068e|\u0688|\u0688"),
    (0xFB8A, 0xFB94, "\u0698|\u0698|\u0691|\u0691|\u06a9|\u06a9|\u06a9|\u06a9|\u06af|\u06af|\u06af"),
    (0xFB95, 0xFB9F, "\u06af|\u06b3|\u06b3|\u06b3|\u06b3|\u06b1|\u06b1|\u06b1|\u06b1|\u06ba|\u06ba"),
    (0xFBA0, 0xFBAA, "\u06bb|\u06bb|\u06bb|\u06bb|\u06c0|\u06c0|\u06c1|\u06c1|\u06c1|\u06c1|\u06be"),
    (0xFBAB, 0xFBB1, "\u06be|\u06be|\u06be|\u06d2|\u06d2|\u06d3|\u06d3"),
    (0xFBD3, 0xFBDC, "\u06ad|\u06ad|\u06ad|\u06ad|\u06c7|\u06c7|\u06c6|\u06c6|\u06c8|\u06c8"),
    (0xFBDD, 0xFBE6, "\u06c7\u0674|\u06cb|\u06cb|\u06c5|\u06c5|\u06c9|\u06c9|\u06d0|\u06d0|\u06d0"),
    (0xFBE7, 0xFBED, "\u06d0|\u0649|\u0649|\u0626\u0627|\u0626\u0627|\u0626\u06d5|\u0626\u06d5"),
    (0xFBEE, 0xFBF3, "\u0626\u0648|\u0626\u0648|\u0626\u06c7|\u0626\u06c7|\u0626\u06c6|\u0626\u06c6"),
    (0xFBF4, 0xFBF9, "\u0626\u06c8|\u0626\u06c8|\u0626\u06d0|\u0626\u06d0|\u0626\u06d0|\u0626\u0649"),
    (0xFBFA, 0xFC00, "\u0626\u0649|\u0626\u0649|\u06cc|\u06cc|\u06cc|\u06cc|\u0626\u062c"),
    (0xFC01, 0xFC06, "\u0626\u062d|\u0626\u0645|\u0626\u0649|\u0626\u064a|\u0628\u062c|\u0628\u062d"),
    (0xFC07, 0xFC0C, "\u0628\u062e|\u0628\u0645|\u0628\u0649|\u0628\u064a|\u062a\u062c|\u062a\u062d"),
    (0xFC0D, 0xFC12, "\u062a\u062e|\u062a\u0645|\u062a\u0649|\u062a\u064a|\u062b\u062c|\u062b\u0645"),
    (0xFC13, 0xFC18, "\u062b\u0649|\u062b\u064a|\u062c\u062d|\u062c\u0645|\u062d\u062c|\u062d\u0645"),
    (0xFC19, 0xFC1E, "\u062e\u062c|\u062e\u062d|\u062e\u0645|\u0633\u062c|\u0633\u062d|\u0633\u062e"),
    (0xFC1F, 0xFC24, "\u0633\u0645|\u0635\u062d|\u0635\u0645|\u0636\u062c|\u0636\u062d|\u0636\u062e"),
    (0xFC25, 0xFC2A, "\u0636\u0645|\u0637\u062d|\u0637\u0645|\u0638\u0645|\u0639\u062c|\u0639\u0645"),
    (0xFC2B, 0xFC30, "\u063a\u062c|\u063a\u0645|\u0641\u062c|\u0641\u062d|\u0641\u062e|\u0641\u0645"),
    (0xFC31, 0xFC36, "\u0641\u0649|\u0641\u064a|\u0642\u062d|\u0642\u0645|\u0642\u0649|\u0642\u064a"),
    (0xFC37, 0xFC3C, "\u0643\u0627|\u0643\u062c|\u0643\u062d|\u0643\u062e|\u0643\u0644|\u0643\u0645"),
    (0xFC3D, 0xFC42, "\u0643\u0649|\u0643\u064a|\u0644\u062c|\u0644\u062d|\u0644\u062e|\u0644\u0645"),
    (0xFC43, 0xFC48, "\u0644\u0649|\u0644\u064a|\u0645\u062c|\u0645\u062d|\u0645\u062e|\u0645\u0645"),
    (0xFC49, 0xFC4E, "\u0645\u0649|\u0645\u064a|\u0646\u062c|\u0646\u062d|\u0646\u062e|\u0646\u0645"),
    (0xFC4F, 0xFC54, "\u0646\u0649|\u0646\u064a|\u0647\u062c|\u0647\u0645|\u0647\u0649|\u0647\u064a"),
    (0xFC55, 0xFC5A, "\u064a\u062c|\u064a\u062d|\u064a\u062e|\u064a\u0645|\u064a\u0649|\u064a\u064a"),
    (0xFC5B, 0xFC5F, "\u0630\u0670|\u0631\u0670|\u0649\u0670|\x20\u064c\u0651|\x20\u064d\u0651"),
    (0xFC60, 0xFC63, "\x20\u064e\u0651|\x20\u064f\u0651|\x20\u0650\u0651|\x20\u0651\u0670"),
    (0xFC64, 0xFC69, "\u0626\u0631|\u0626\u0632|\u0626\u0645|\u0626\u0646|\u0626\u0649|\u0626\u064a"),
    (0xFC6A, 0xFC6F, "\u0628\u0631|\u0628\u0632|\u0628\u0645|\u0628\u0646|\u0628\u0649|\u0628\u064a"),
    (0xFC70, 0xFC75, "\u062a\u0631|\u062a\u0632|\u062a\u0645|\u062a\u0646|\u062a\u0649|\u062a\u064a"),
    (0xFC76, 0xFC7B, "\u062b\u0631|\u062b\u0632|\u062b\u0645|\u062b\u0646|\u062b\u0649|\u062b\u064a"),
    (0xFC7C, 0xFC81, "\u0641\u0649|\u0641\u064a|\u0642\u0649|\u0642\u064a|\u0643\u0627|\u0643\u0644"),
    (0xFC82, 0xFC87, "\u0643\u0645|\u0643\u0649|\u0643\u064a|\u0644\u0645|\u0644\u0649|\u0644\u064a"),
    (0xFC88, 0xFC8D, "\u0645\u0627|\u0645\u0645|\u0646\u0631|\u0646\u0632|\u0646\u0645|\u0646\u0646"),
    (0xFC8E, 0xFC93, "\u0646\u0649|\u0646\u064a|\u0649\u0670|\u064a\u0631|\u064a\u0632|\u064a\u0645"),
    (0xFC94, 0xFC99, "\u064a\u0646|\u064a\u0649|\u064a\u064a|\u0626\u062c|\u0626\u062d|\u0626\u062e"),
    (0xFC9A, 0xFC9F, "\u0626\u0645|\u0626\u0647|\u0628\u062c|\u0628\u062d|\u0628\u062e|\u0628\u0645"),
    (0xFCA0, 0xFCA5, "\u0628\u0647|\u062a\u062c|\u062a\u062d|\u062a\u062e|\u062a\u0645|\u062a\u0647"),
    (0xFCA6, 0xFCAB, "\u062b\u0645|\u062c\u062d|\u062c\u0645|\u062d\u062c|\u062d\u0645|\u062e\u062c"),
    (0xFCAC, 0xFCB1, "\u062e\u0645|\u0633\u062c|\u0633\u062d|\u0633\u062e|\u0633\u0645|\u0635\u062d"),
    (0xFCB2, 0xFCB7, "\u0635\u062e|\u0635\u0645|\u0636\u062c|\u0636\u062d|\u0636\u062e|\u0636\u0645"),
    (0xFCB8, 0xFCBD, "\u0637\u062d|\u0638\u0645|\u0639\u062c|\u0639\u0645|\u063a\u062c|\u063a\u0645"),
    (0xFCBE, 0xFCC3, "\u0641\u062c|\u0641\u062d|\u0641\u062e|\u0641\u0645|\u0642\u062d|\u0642\u0645"),
    (0xFCC4, 0xFCC9, "\u0643\u062c|\u0643\u062d|\u0643\u062e|\u0643\u0644|\u0643\u0645|\u0644\u062c"),
    (0xFCCA, 0xFCCF, "\u0644\u062d|\u0644\u062e|\u0644\u0645|\u0644\u0647|\u0645\u062c|\u0645\u062d"),
    (0xFCD0, 0xFCD5, "\u0645\u062e|\u0645\u0645|\u0646\u062c|\u0646\u062d|\u0646\u062e|\u0646\u0645"),
    (0xFCD6, 0xFCDB, "\u0646\u0647|\u0647\u062c|\u0647\u0645|\u0647\u0670|\u064a\u062c|\u064a\u062d"),
    (0xFCDC, 0xFCE1, "\u064a\u062e|\u064a\u0645|\u064a\u0647|\u0626\u0645|\u0626\u0647|\u0628\u0645"),
    (0xFCE2, 0xFCE7, "\u0628\u0647|\u062a\u0645|\u062a\u0647|\u062b\u0645|\u062b\u0647|\u0633\u0645"),
    (0xFCE8, 0xFCED, "\u0633\u0647|\u0634\u0645|\u0634\u0647|\u0643\u0644|\u0643\u0645|\u0644\u0645"),
    (0xFCEE, 0xFCF2, "\u0646\u0645|\u0646\u0647|\u064a\u0645|\u064a\u0647|\u0640\u064e\u0651"),
    (0xFCF3, 0xFCF7, "\u0640\u064f\u0651|\u0640\u0650\u0651|\u0637\u0649|\u0637\u064a|\u0639\u0649"),
    (0xFCF8, 0xFCFD, "\u0639\u064a|\u063a\u0649|\u063a\u064a|\u0633\u0649|\u0633\u064a|\u0634\u0649"),
    (0xFCFE, 0xFD03, "\u0634\u064a|\u062d\u0649|\u062d\u064a|\u062c\u0649|\u062c\u064a|\u062e\u0649"),
    (0xFD04, 0xFD09, "\u062e\u064a|\u0635\u0649|\u0635\u064a|\u0636\u0649|\u0636\u064a|\u0634\u062c"),
    (0xFD0A, 0xFD0F, "\u0634\u062d|\u0634\u062e|\u0634\u0645|\u0634\u0631|\u0633\u0631|\u0635\u0631"),
    (0xFD10, 0xFD15, "\u0636\u0631|\u0637\u0649|\u0637\u064a|\u0639\u0649|\u0639\u064a|\u063a\u0649"),
    (0xFD16, 0xFD1B, "\u063a\u064a|\u0633\u0649|\u0633\u064a|\u0634\u0649|\u0634\u064a|\u062d\u0649"),
    (0xFD1C, 0xFD21, "\u062d\u064a|\u062c\u0649|\u062c\u064a|\u062e\u0649|\u062e\u064a|\u0635\u0649"),
    (0xFD22, 0xFD27, "\u0635\u064a|\u0636\u0649|\u0636\u064a|\u0634\u062c|\u0634\u062d|\u0634\u062e"),
    (0xFD28, 0xFD2D, "\u0634\u0645|\u0634\u0631|\u0633\u0631|\u0635\u0631|\u0636\u0631|\u0634\u062c"),
    (0xFD2E, 0xFD33, "\u0634\u062d|\u0634\u062e|\u0634\u0645|\u0633\u0647|\u0634\u0647|\u0637\u0645"),
    (0xFD34, 0xFD39, "\u0633\u062c|\u0633\u062d|\u0633\u062e|\u0634\u062c|\u0634\u062d|\u0634\u062e"),
    (0xFD3A, 0xFD3D, "\u0637\u0645|\u0638\u0645|\u0627\u064b|\u0627\u064b"),
    (0xFD50, 0xFD53, "\u062a\u062c\u0645|\u062a\u062d\u062c|\u062a\u062d\u062c|\u062a\u062d\u0645"),
    (0xFD54, 0xFD57, "\u062a\u062e\u0645|\u062a\u0645\u062c|\u062a\u0645\u062d|\u062a\u0645\u062e"),
    (0xFD58, 0xFD5B, "\u062c\u0645\u062d|\u062c\u0645\u062d|\u062d\u0645\u064a|\u062d\u0645\u0649"),
    (0xFD5C, 0xFD5F, "\u0633\u062d\u062c|\u0633\u062c\u062d|\u0633\u062c\u0649|\u0633\u0645\u062d"),
    (0xFD60, 0xFD63, "\u0633\u0645\u062d|\u0633\u0645\u062c|\u0633\u0645\u0645|\u0633\u0645\u0645"),
    (0xFD64, 0xFD67, "\u0635\u062d\u062d|\u0635\u062d\u062d|\u0635\u0645\u0645|\u0634\u062d\u0645"),
    (0xFD68, 0xFD6B, "\u0634\u062d\u0645|\u0634\u062c\u064a|\u0634\u0645\u062e|\u0634\u0645\u062e"),
    (0xFD6C, 0xFD6F, "\u0634\u0645\u0645|\u0634\u0645\u0645|\u0636\u062d\u0649|\u0636\u062e\u0645"),
    (0xFD70, 0xFD73, "\u0636\u062e\u0645|\u0637\u0645\u062d|\u0637\u0645\u062d|\u0637\u0645\u0645"),
    (0xFD74, 0xFD77, "\u0637\u0645\u064a|\u0639\u062c\u0645|\u0639\u0645\u0645|\u0639\u0645\u0645"),
    (0xFD78, 0xFD7B, "\u0639\u0645\u0649|\u063a\u0645\u0645|\u063a\u0645\u064a|\u063a\u0645\u0649"),
    (0xFD7C, 0xFD7F, "\u0641\u062e\u0645|\u0641\u062e\u0645|\u0642\u0645\u062d|\u0642\u0645\u0645"),
    (0xFD80, 0xFD83, "\u0644\u062d\u0645|\u0644\u062d\u064a|\u0644\u062d\u0649|\u0644\u062c\u062c"),
    (0xFD84, 0xFD87, "\u0644\u062c\u062c|\u0644\u062e\u0645|\u0644\u062e\u0645|\u0644\u0645\u062d"),
    (0xFD88, 0xFD8B, "\u0644\u0645\u062d|\u0645\u062d\u062c|\u0645\u062d\u0645|\u0645\u062d\u064a"),
    (0xFD8C, 0xFD90, "\u0645\u062c\u062d|\u0645\u062c\u0645|\u0645\u062e\u062c|\u0645\u062e\u0645|-"),
    (0xFD91, 0xFD95, "-|\u0645\u062c\u062e|\u0647\u0645\u062c|\u0647\u0645\u0645|\u0646\u062d\u0645"),
    (0xFD96, 0xFD99, "\u0646\u062d\u0649|\u0646\u062c\u0645|\u0646\u062c\u0645|\u0646\u062c\u0649"),
    (0xFD9A, 0xFD9D, "\u0646\u0645\u064a|\u0646\u0645\u0649|\u064a\u0645\u0645|\u064a\u0645\u0645"),
    (0xFD9E, 0xFDA1, "\u0628\u062e\u064a|\u062a\u062c\u064a|\u062a\u062c\u0649|\u062a\u062e\u064a"),
    (0xFDA2, 0xFDA5, "\u062a\u062e\u0649|\u062a\u0645\u064a|\u062a\u0645\u0649|\u062c\u0645\u064a"),
    (0xFDA6, 0xFDA9, "\u062c\u062d\u0649|\u062c\u0645\u0649|\u0633\u062e\u0649|\u0635\u062d\u064a"),
    (0xFDAA, 0xFDAD, "\u0634\u062d\u064a|\u0636\u062d\u064a|\u0644\u062c\u064a|\u0644\u0645\u064a"),
    (0xFDAE, 0xFDB1, "\u064a\u062d\u064a|\u064a\u062c\u064a|\u064a\u0645\u064a|\u0645\u0645\u064a"),
    (0xFDB2, 0xFDB5, "\u0642\u0645\u064a|\u0646\u062d\u064a|\u0642\u0645\u062d|\u0644\u062d\u0645"),
    (0xFDB6, 0xFDB9, "\u0639\u0645\u064a|\u0643\u0645\u064a|\u0646\u062c\u062d|\u0645\u062e\u064a"),
    (0xFDBA, 0xFDBD, "\u0644\u062c\u0645|\u0643\u0645\u0645|\u0644\u062c\u0645|\u0646\u062c\u062d"),
    (0xFDBE, 0xFDC1, "\u062c\u062d\u064a|\u062d\u062c\u064a|\u0645\u062c\u064a|\u0641\u0645\u064a"),
    (0xFDC2, 0xFDC5, "\u0628\u062d\u064a|\u0643\u0645\u0645|\u0639\u062c\u0645|\u0635\u0645\u0645"),
    (0xFDC6, 0xFDC7, "\u0633\u062e\u064a|\u0646\u062c\u064a"),
    (0xFDF0, 0xFDF2, "\u0635\u0644\u06d2|\u0642\u0644\u06d2|\u0627\u0644\u0644\u0647"),
    (0xFDF3, 0xFDF5, "\u0627\u0643\u0628\u0631|\u0645\u062d\u0645\u062f|\u0635\u0644\u0639\u0645"),
    (0xFDF6, 0xFDF8, "\u0631\u0633\u0648\u0644|\u0639\u0644\u064a\u0647|\u0648\u0633\u0644\u0645"),
    (0xFDF9, 0xFDF9, "\u0635\u0644\u0649"),
    (0xFDFA, 0xFDFA,
      "\u0635\u0644\u0649\x20\u0627\u0644\u0644\u0647\x20\u0639\u0644\u064a\u0647\x20\u0648\u0633\u0644\u0645"),
    (0xFDFB, 0xFDFC, "\u062c\u0644\x20\u062c\u0644\u0627\u0644\u0647|\u0631\u06cc\u0627\u0644"),
    (0xFE10, 0xFE18, ",|、|-|:|;|!|?|〖|〗"),
    (0xFE31, 0xFE40, "—|–|_|_|(|)|\x7b|\x7d|〔|〕|【|】|《|》|〈|〉"),
    (0xFE47, 0xFE5A, "[|]|\x20\u0305|\x20\u0305|\x20\u0305|\x20\u0305|_|_|_|,|、|-|-|;|:|?|!|—|(|)"),
    (0xFE5B, 0xFE6B, "\x7b|\x7d|〔|〕|#|&|*|+|-|<|>|=|-|\x5c|$|%|@"),
    (0xFE70, 0xFE77, "\x20\u064b|\u0640\u064b|\x20\u064c|\ufe73|\x20\u064d|-|\x20\u064e|\u0640\u064e"),
    (0xFE78, 0xFE7D, "\x20\u064f|\u0640\u064f|\x20\u0650|\u0640\u0650|\x20\u0651|\u0640\u0651"),
    (0xFE7E, 0xFE86, "\x20\u0652|\u0640\u0652|\u0621|\u0622|\u0622|\u0623|\u0623|\u0624|\u0624"),
    (0xFE87, 0xFE91, "\u0625|\u0625|\u0626|\u0626|\u0626|\u0626|\u0627|\u0627|\u0628|\u0628|\u0628"),
    (0xFE92, 0xFE9C, "\u0628|\u0629|\u0629|\u062a|\u062a|\u062a|\u062a|\u062b|\u062b|\u062b|\u062b"),
    (0xFE9D, 0xFEA7, "\u062c|\u062c|\u062c|\u062c|\u062d|\u062d|\u062d|\u062d|\u062e|\u062e|\u062e"),
    (0xFEA8, 0xFEB2, "\u062e|\u062f|\u062f|\u0630|\u0630|\u0631|\u0631|\u0632|\u0632|\u0633|\u0633"),
    (0xFEB3, 0xFEBD, "\u0633|\u0633|\u0634|\u0634|\u0634|\u0634|\u0635|\u0635|\u0635|\u0635|\u0636"),
    (0xFEBE, 0xFEC8, "\u0636|\u0636|\u0636|\u0637|\u0637|\u0637|\u0637|\u0638|\u0638|\u0638|\u0638"),
    (0xFEC9, 0xFED3, "\u0639|\u0639|\u0639|\u0639|\u063a|\u063a|\u063a|\u063a|\u0641|\u0641|\u0641"),
    (0xFED4, 0xFEDE, "\u0641|\u0642|\u0642|\u0642|\u0642|\u0643|\u0643|\u0643|\u0643|\u0644|\u0644"),
    (0xFEDF, 0xFEE9, "\u0644|\u0644|\u0645|\u0645|\u0645|\u0645|\u0646|\u0646|\u0646|\u0646|\u0647"),
    (0xFEEA, 0xFEF4, "\u0647|\u0647|\u0647|\u0648|\u0648|\u0649|\u0649|\u064a|\u064a|\u064a|\u064a"),
    (0xFEF5, 0xFEFA, "\u0644\u0622|\u0644\u0622|\u0644\u0623|\u0644\u0623|\u0644\u0625|\u0644\u0625"),
    (0xFEFB, 0xFEFC, "\u0644\u0627|\u0644\u0627"),
    (0xFF5F, 0xFF79, "⦅|⦆|.|「|」|、|・|ヲ|ァ|ィ|ゥ|ェ|ォ|ャ|ュ|ョ|ッ|ー|ア|イ|ウ|エ|オ|カ|キ|ク|ケ"),
    (0xFF7A, 0xFF84, "コ|サ|シ|ス|セ|ソ|タ|チ|ツ|テ|ト"),
    (0xFF8B, 0xFF8E, "ヒ|フ|ヘ|ホ"),
    (0xFF94, 0xFF95, "ヤ|ユ"),
    (0xFF9C, 0xFFA9, "ワ|ン|\u3099|\u309a|-|ᄀ|ᄁ|ᆪ|ᄂ|ᆬ|ᆭ|ᄃ|ᄄ|ᄅ"),
    (0xFFB0, 0xFFB4, "ᄚ|ᄆ|ᄇ|ᄈ|ᄡ"),
    (0xFFDA, 0xFFE8, "ᅳ|ᅴ|ᅵ|-|-|-|¢|£|¬|\x20\u0304|¦|¥|₩|-|│"),
    (0xFFED, 0xFFEE, "■|○"),
    (0x10594, 0x10595, "𐖻|𐖼"),
    (0x10781, 0x107A7, "ː|ˑ|æ|ʙ|ɓ|-|ʣ|ꭦ|ʥ|ʤ|ɖ|ɗ|ᶑ|ɘ|ɞ|ʩ|ɤ|ɢ|ɠ|ʛ|ħ|ʜ|ɧ|ʄ|ʪ|ʫ|ɬ|𝼄|ꞎ|ɮ|𝼅|ʎ|𝼆|ø|ɶ|ɷ|q|ɺ|𝼈"),
    (0x107A8, 0x107BA, "ɽ|ɾ|ʀ|ʨ|ʦ|ꭧ|ʧ|ʈ|ⱱ|-|ʏ|ʡ|ʢ|ʘ|ǀ|ǁ|ǂ|𝼊|𝼞"),
    (0x1D15E, 0x1D164, "𝅗𝅥|𝅘𝅥|𝅘𝅥𝅮|𝅘𝅥𝅯|𝅘𝅥𝅰|𝅘𝅥𝅱|𝅘𝅥𝅲"),
    (0x1D1BB, 0x1D1C0, "𝆹𝅥|𝆺𝅥|𝆹𝅥𝅮|𝆺𝅥𝅮|𝆹𝅥𝅯|𝆺𝅥𝅯"),
    (0x1D49C, 0x1D4A6, "a|-|c|d|-|-|g|-|-|j|k"),
    (0x1D4BB, 0x1D4BB, "f"),
    (0x1D504, 0x1D505, "a|b"),
    (0x1D538, 0x1D539, "a|b"),
    (0x1D546, 0x1D546, "o"),
    (0x1D6A4, 0x1D6A5, "ı|ȷ"),
    (0x1D6B9, 0x1D6B9, "θ"),
    (0x1D6C1, 0x1D6C1, "∇"),
    (0x1D6D3, 0x1D6D3, "σ"),
    (0x1D6DB, 0x1D6E1, "∂|ε|θ|κ|φ|ρ|π"),
    (0x1D6F3, 0x1D6F3, "θ"),
    (0x1D6FB, 0x1D6FB, "∇"),
    (0x1D70D, 0x1D70D, "σ"),
    (0x1D715, 0x1D71B, "∂|ε|θ|κ|φ|ρ|π"),
    (0x1D72D, 0x1D72D, "θ"),
    (0x1D735, 0x1D735, "∇"),
    (0x1D747, 0x1D747, "σ"),
    (0x1D74F, 0x1D755, "∂|ε|θ|κ|φ|ρ|π"),
    (0x1D767, 0x1D767, "θ"),
    (0x1D76F, 0x1D76F, "∇"),
    (0x1D781, 0x1D781, "σ"),
    (0x1D789, 0x1D78F, "∂|ε|θ|κ|φ|ρ|π"),
    (0x1D7A1, 0x1D7A1, "θ"),
    (0x1D7A9, 0x1D7A9, "∇"),
    (0x1D7BB, 0x1D7BB, "σ"),
    (0x1D7C3, 0x1D7CB, "∂|ε|θ|κ|φ|ρ|π|ϝ|ϝ"),
    (0x1E039, 0x1E03B, "к|л|м"),
    (0x1E047, 0x1E050, "ы|э|ю|ꚉ|ә|і|ј|ө|ү|ӏ"),
    (0x1E05A, 0x1E05E, "к|л|о|п|с"),
    (0x1E065, 0x1E06D, "ъ|ы|ґ|і|ѕ|џ|ҫ|ꙑ|ұ"),
    (0x1EE00, 0x1EE09, "\u0627|\u0628|\u062c|\u062f|-|\u0648|\u0632|\u062d|\u0637|\u064a"),
    (0x1EE0E, 0x1EE18, "\u0633|\u0639|\u0641|\u0635|\u0642|\u0631|\u0634|\u062a|\u062b|\u062e|\u0630"),
    (0x1EE19, 0x1EE26, "\u0636|\u0638|\u063a|\u066e|\u06ba|\u06a1|\u066f|-|\u0628|\u062c|-|\u0647|-|-"),
    (0x1EE27, 0x1EE29, "\u062d|-|\u064a"),
    (0x1EE2E, 0x1EE3A, "\u0633|\u0639|\u0641|\u0635|\u0642|-|\u0634|\u062a|\u062b|\u062e|-|\u0636|-"),
    (0x1EE3B, 0x1EE3B, "\u063a"),
    (0x1EE42, 0x1EE42, "\u062c"),
    (0x1EE47, 0x1EE56, "\u062d|-|\u064a|-|\u0644|-|\u0646|\u0633|\u0639|-|\u0635|\u0642|-|\u0634|-|-"),
    (0x1EE57, 0x1EE67, "\u062e|-|\u0636|-|\u063a|-|\u06ba|-|\u066f|-|\u0628|\u062c|-|\u0647|-|-|\u062d"),
    (0x1EE68, 0x1EE73, "\u0637|\u064a|\u0643|-|\u0645|\u0646|\u0633|\u0639|\u0641|\u0635|\u0642|-"),
    (0x1EE74, 0x1EE80, "\u0634|\u062a|\u062b|\u062e|-|\u0636|\u0638|\u063a|\u066e|-|\u06a1|-|\u0627"),
    (0x1EE81, 0x1EE8C, "\u0628|\u062c|\u062f|\u0647|\u0648|\u0632|\u062d|\u0637|\u064a|-|\u0644|\u0645"),
    (0x1EE8D, 0x1EE97, "\u0646|\u0633|\u0639|\u0641|\u0635|\u0642|\u0631|\u0634|\u062a|\u062b|\u062e"),
    (0x1EE98, 0x1EE9B, "\u0630|\u0636|\u0638|\u063a"),
    (0x1EEA1, 0x1EEAC, "\u0628|\u062c|\u062f|-|\u0648|\u0632|\u062d|\u0637|\u064a|-|\u0644|\u0645"),
    (0x1EEAD, 0x1EEB7, "\u0646|\u0633|\u0639|\u0641|\u0635|\u0642|\u0631|\u0634|\u062a|\u062b|\u062e"),
    (0x1EEB8, 0x1EEBB, "\u0630|\u0636|\u0638|\u063a"),
    (0x1F101, 0x1F10A, "0,|1,|2,|3,|4,|5,|6,|7,|8,|9,"),
    (0x1F110, 0x1F122, "(a)|(b)|(c)|(d)|(e)|(f)|(g)|(h)|(i)|(j)|(k)|(l)|(m)|(n)|(o)|(p)|(q)|(r)|(s)"),
    (0x1F123, 0x1F12E, "(t)|(u)|(v)|(w)|(x)|(y)|(z)|〔s〕|c|r|cd|wz"),
    (0x1F14A, 0x1F14F, "hv|mv|sd|ss|ppv|wc"),
    (0x1F16A, 0x1F16C, "mc|md|mr"),
    (0x1F190, 0x1F190, "dj"),
    (0x1F200, 0x1F202, "ほか|ココ|サ"),
    (0x1F210, 0x1F229, "手|字|双|デ|二|多|解|天|交|映|無|料|前|後|再|新|初|終|生|販|声|吹|演|投|捕|一"),
    (0x1F22A, 0x1F23B, "三|遊|左|中|右|指|走|打|禁|空|合|満|有|月|申|割|営|配"),
    (0x1F240, 0x1F248, "〔本〕|〔三〕|〔二〕|〔安〕|〔点〕|〔打〕|〔盗〕|〔勝〕|〔敗〕"),
    (0x1F250, 0x1F251, "得|可"),
    (0x2F800, 0x2F819, "丽|丸|乁|𠄢|你|侮|侻|倂|偺|備|僧|像|㒞|𠘺|免|兔|兤|具|𠔜|㒹|內|再|𠕋|冗|冤|仌"),
    (0x2F81A, 0x2F833, "冬|况|𩇟|凵|刃|㓟|刻|剆|割|剷|㔕|勇|勉|勤|勺|包|匆|北|卉|卑|博|即|卽|卿|卿|卿"),
    (0x2F834, 0x2F84D, "𠨬|灰|及|叟|𠭣|叫|叱|吆|咞|吸|呈|周|咢|哶|唐|啓|啣|善|善|喙|喫|喳|嗂|圖|嘆|圗"),
    (0x2F84E, 0x2F867, "噑|噴|切|壮|城|埴|堍|型|堲|報|墬|𡓤|売|壷|夆|多|夢|奢|𡚨|𡛪|姬|娛|娧|姘|婦|㛮"),
    (0x2F868, 0x2F881, "㛼|嬈|嬾|嬾|𡧈|寃|寘|寧|寳|𡬘|寿|将|当|尢|㞁|屠|屮|峀|岍|𡷤|嵃|𡷦|嵮|嵫|嵼|巡"),
    (0x2F882, 0x2F89B, "巢|㠯|巽|帨|帽|幩|㡢|𢆃|㡼|庰|庳|庶|廊|𪎒|廾|𢌱|𢌱|舁|弢|弢|㣇|𣊸|𦇚|形|彫|㣣"),
    (0x2F89C, 0x2F8B5, "徚|忍|志|忹|悁|㤺|㤜|悔|𢛔|惇|慈|慌|慎|慌|慺|憎|憲|憤|憯|懞|懲|懶|成|戛|扝|抱"),
    (0x2F8B6, 0x2F8CF, "拔|捐|𢬌|挽|拼|捨|掃|揤|𢯱|搢|揅|掩|㨮|摩|摾|撝|摷|㩬|敏|敬|𣀊|旣|書|晉|㬙|暑"),
    (0x2F8D0, 0x2F8E9, "㬈|㫤|冒|冕|最|暜|肭|䏙|朗|望|朡|杞|杓|𣏃|㭉|柺|枅|桒|梅|𣑭|梎|栟|椔|㮝|楂|榣"),
    (0x2F8EA, 0x2F903, "槪|檨|𣚣|櫛|㰘|次|𣢧|歔|㱎|歲|殟|殺|殻|𣪍|𡴋|𣫺|汎|𣲼|沿|泍|汧|洖|派|海|流|浩"),
    (0x2F904, 0x2F91D, "浸|涅|𣴞|洴|港|湮|㴳|滋|滇|𣻑|淹|潮|𣽞|𣾎|濆|瀹|瀞|瀛|㶖|灊|災|灷|炭|𠔥|煅|𤉣"),
    (0x2F91E, 0x2F937, "熜|𤎫|爨|爵|牐|𤘈|犀|犕|𤜵|𤠔|獺|王|㺬|玥|㺸|㺸|瑇|瑜|瑱|璅|瓊|㼛|甤|𤰶|甾|𤲒"),
    (0x2F938, 0x2F951, "異|𢆟|瘐|𤾡|𤾸|𥁄|㿼|䀈|直|𥃳|𥃲|𥄙|𥄳|眞|真|真|睊|䀹|瞋|䁆|䂖|𥐝|硎|碌|磌|䃣"),
    (0x2F952, 0x2F96B, "𥘦|祖|𥚚|𥛅|福|秫|䄯|穀|穊|穏|𥥼|𥪧|𥪧|竮|䈂|𥮫|篆|築|䈧|𥲀|糒|䊠|糨|糣|紀|𥾆"),
    (0x2F96C, 0x2F985, "絣|䌁|緇|縂|繅|䌴|𦈨|𦉇|䍙|𦋙|罺|𦌾|羕|翺|者|𦓚|𦔣|聠|𦖨|聰|𣍟|䏕|育|脃|䐋|脾"),
    (0x2F986, 0x2F99F, "媵|𦞧|𦞵|𣎓|𣎜|舁|舄|辞|䑫|芑|芋|芝|劳|花|芳|芽|苦|𦬼|若|茝|荣|莭|茣|莽|菧|著"),
    (0x2F9A0, 0x2F9B9, "荓|菊|菌|菜|𦰶|𦵫|𦳕|䔫|蓱|蓳|蔖|𧏊|蕤|𦼬|䕝|䕡|𦾱|𧃒|䕫|虐|虜|虧|虩|蚩|蚈|蜎"),
    (0x2F9BA, 0x2F9D3, "蛢|蝹|蜨|蝫|螆|䗗|蟡|蠁|䗹|衠|衣|𧙧|裗|裞|䘵|裺|㒻|𧢮|𧥦|䚾|䛇|誠|諭|變|豕|𧲨"),
    (0x2F9D4, 0x2F9ED, "貫|賁|贛|起|𧼯|𠠄|跋|趼|跰|𠣞|軔|輸|𨗒|𨗭|邔|郱|鄑|𨜮|鄛|鈸|鋗|鋘|鉼|鏹|鐕|𨯺"),
    (0x2F9EE, 0x2FA07, "開|䦕|閷|𨵷|䧦|雃|嶲|霣|𩅅|𩈚|䩮|䩶|韠|𩐊|䪲|𩒖|頋|頋|頩|𩖶|飢|䬳|餩|馧|駂|駾"),
    (0x2FA08, 0x2FA1D, "䯎|𩬰|鬒|鱀|鳽|䳎|䳭|鵧|𪃎|䳸|𪄅|𪈎|𪊑|麻|䵖|黹|黾|鼅|鼏|鼖|鼻|𪘀")]

/-- Ranges of characters that are dropped. -/
def dropped : List (Nat × Nat) :=
  [(0xAD, 0xAD), (0x34F, 0x34F), (0x180B, 0x180D), (0x180F, 0x180F), (0x200B, 0x200B), (0x2060, 0x2060),
    (0x2064, 0x2064), (0xFE00, 0xFE0F), (0xFEFF, 0xFEFF), (0x1BCA0, 0x1BCA3), (0xE0100, 0xE01EF)]

/-- Ranges of assigned characters that may not occur. -/
def refused : List (Nat × Nat) :=
  [(0x80, 0x9F), (0x600, 0x605), (0x61C, 0x61C), (0x6DD, 0x6DD), (0x70F, 0x70F), (0x890, 0x891),
    (0x8E2, 0x8E2), (0x115F, 0x1160), (0x1680, 0x1680), (0x17B4, 0x17B5), (0x1806, 0x1806),
    (0x180E, 0x180E), (0x200E, 0x200F), (0x2024, 0x2026), (0x2028, 0x202E), (0x2061, 0x2063),
    (0x2066, 0x206F), (0x2488, 0x249B), (0x3164, 0x3164), (0x33C2, 0x33C2), (0x33C7, 0x33C7),
    (0x33D8, 0x33D8), (0xE000, 0xF8FF), (0xFE12, 0xFE12), (0xFE19, 0xFE19), (0xFE30, 0xFE30),
    (0xFE52, 0xFE52), (0xFFA0, 0xFFA0), (0xFFF9, 0xFFFD), (0x110BD, 0x110BD), (0x110CD, 0x110CD),
    (0x13430, 0x1343F), (0x1D173, 0x1D17A), (0x1F100, 0x1F100), (0xE0001, 0xE007F), (0xF0000, 0x10FFFD)]

/-- The characters that replace one that is neither dropped nor refused. -/
def replacement (n : Nat) : List Char :=
  match shifted.find? fun r => r.1 ≤ n && n ≤ r.2.1 && (n - r.1) % r.2.2.1 == 0 with
  | some (first, _, _, target) => [Char.ofNat (target + (n - first))]
  | none =>
    match replaced.find? fun r => r.1 ≤ n && n ≤ r.2.1 with
    | some (first, _, texts) => (splitAt '|' texts.toList).getD (n - first) []
    | none => [Char.ofNat n]

/-- What becomes of one character: the characters that replace it; none if it may not occur. -/
def mapChar (c : Char) : Option (List Char) :=
  let n := c.toNat
  if n < 0x80 then some [c.toLower]
  else if !isAssigned c || inRanges refused n then none
  else if inRanges dropped n then some []
  else some (replacement n)

end Lookout.DomainName
