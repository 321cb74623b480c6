/-!
How the characters of a domain name are folded. The tables hold the common alphabets, digits and
styles; a character that none of them holds stands for itself.
-/

namespace TierRelay.Url.Domain

/-- Upper case letters outside ASCII: the first and last of a run, their distance from each other,
and how far the lower case letter is from the upper case one. -/
def caseRuns : List (Nat × Nat × Nat × Int) :=
  [(0xC0, 0xD6, 1, 32), (0xD8, 0xDE, 1, 32), (0x100, 0x12E, 2, 1), (0x134, 0x136, 2, 1),
    (0x139, 0x13D, 2, 1), (0x141, 0x147, 2, 1), (0x14A, 0x176, 2, 1), (0x178, 0x178, 1, -121),
    (0x179, 0x17D, 2, 1), (0x181, 0x181, 1, 210), (0x182, 0x184, 2, 1), (0x186, 0x186, 1, 206),
    (0x187, 0x187, 1, 1), (0x189, 0x18A, 1, 205), (0x18B, 0x18B, 1, 1), (0x18E, 0x18E, 1, 79),
    (0x18F, 0x18F, 1, 202), (0x190, 0x190, 1, 203), (0x191, 0x191, 1, 1), (0x193, 0x193, 1, 205),
    (0x194, 0x194, 1, 207), (0x196, 0x196, 1, 211), (0x197, 0x197, 1, 209), (0x198, 0x198, 1, 1),
    (0x19C, 0x19C, 1, 211), (0x19D, 0x19D, 1, 213), (0x19F, 0x19F, 1, 214), (0x1A0, 0x1A4, 2, 1),
    (0x1A6, 0x1A6, 1, 218), (0x1A7, 0x1A7, 1, 1), (0x1A9, 0x1A9, 1, 218), (0x1AC, 0x1AC, 1, 1),
    (0x1AE, 0x1AE, 1, 218), (0x1AF, 0x1AF, 1, 1), (0x1B1, 0x1B2, 1, 217), (0x1B3, 0x1B5, 2, 1),
    (0x1B7, 0x1B7, 1, 219), (0x1B8, 0x1B8, 1, 1), (0x1BC, 0x1BC, 1, 1), (0x1CD, 0x1DB, 2, 1),
    (0x1DE, 0x1EE, 2, 1), (0x1F4, 0x1F4, 1, 1), (0x1F6, 0x1F6, 1, -97), (0x1F7, 0x1F7, 1, -56),
    (0x1F8, 0x21E, 2, 1), (0x220, 0x220, 1, -130), (0x222, 0x232, 2, 1), (0x23A, 0x23A, 1, 10795),
    (0x23B, 0x23B, 1, 1), (0x23D, 0x23D, 1, -163), (0x23E, 0x23E, 1, 10792), (0x241, 0x241, 1, 1),
    (0x243, 0x243, 1, -195), (0x244, 0x244, 1, 69), (0x245, 0x245, 1, 71), (0x246, 0x24E, 2, 1),
    (0x370, 0x372, 2, 1), (0x376, 0x376, 1, 1), (0x37F, 0x37F, 1, 116), (0x386, 0x386, 1, 38),
    (0x388, 0x38A, 1, 37), (0x38C, 0x38C, 1, 64), (0x38E, 0x38F, 1, 63), (0x391, 0x3A1, 1, 32),
    (0x3A3, 0x3AB, 1, 32), (0x3CF, 0x3CF, 1, 8), (0x3D8, 0x3EE, 2, 1), (0x3F4, 0x3F4, 1, -60),
    (0x3F7, 0x3F7, 1, 1), (0x3FA, 0x3FA, 1, 1), (0x3FD, 0x3FF, 1, -130), (0x400, 0x40F, 1, 80),
    (0x410, 0x42F, 1, 32), (0x460, 0x480, 2, 1), (0x48A, 0x4BE, 2, 1), (0x4C0, 0x4C0, 1, 15),
    (0x4C1, 0x4CD, 2, 1), (0x4D0, 0x52E, 2, 1), (0x531, 0x556, 1, 48), (0x10A0, 0x10C5, 1, 7264),
    (0x10C7, 0x10C7, 1, 7264), (0x10CD, 0x10CD, 1, 7264), (0x13F8, 0x13FD, 1, -8),
    (0x1C90, 0x1CBA, 1, -3008), (0x1CBD, 0x1CBF, 1, -3008), (0x1E00, 0x1E94, 2, 1),
    (0x1E9E, 0x1E9E, 1, -7615), (0x1EA0, 0x1EFE, 2, 1), (0x1F08, 0x1F0F, 1, -8),
    (0x1F18, 0x1F1D, 1, -8), (0x1F28, 0x1F2F, 1, -8), (0x1F38, 0x1F3F, 1, -8),
    (0x1F48, 0x1F4D, 1, -8), (0x1F59, 0x1F5F, 2, -8), (0x1F68, 0x1F6F, 1, -8),
    (0x1FB8, 0x1FB9, 1, -8), (0x1FBA, 0x1FBA, 1, -74), (0x1FC8, 0x1FCA, 2, -86),
    (0x1FD8, 0x1FD9, 1, -8), (0x1FDA, 0x1FDA, 1, -100), (0x1FE8, 0x1FE9, 1, -8),
    (0x1FEA, 0x1FEA, 1, -112), (0x1FEC, 0x1FEC, 1, -7), (0x1FF8, 0x1FF8, 1, -128),
    (0x1FFA, 0x1FFA, 1, -126), (0x2126, 0x2126, 1, -7517), (0x212A, 0x212A, 1, -8383),
    (0x212B, 0x212B, 1, -8262), (0x2132, 0x2132, 1, 28), (0x2183, 0x2183, 1, 1),
    (0x2C00, 0x2C2F, 1, 48), (0x2C60, 0x2C60, 1, 1), (0x2C62, 0x2C62, 1, -10743),
    (0x2C63, 0x2C63, 1, -3814), (0x2C64, 0x2C64, 1, -10727), (0x2C67, 0x2C6B, 2, 1),
    (0x2C6D, 0x2C6D, 1, -10780), (0x2C6E, 0x2C6E, 1, -10749), (0x2C6F, 0x2C6F, 1, -10783),
    (0x2C70, 0x2C70, 1, -10782), (0x2C72, 0x2C72, 1, 1), (0x2C75, 0x2C75, 1, 1),
    (0x2C7E, 0x2C7F, 1, -10815), (0x2C80, 0x2CE2, 2, 1), (0x2CEB, 0x2CED, 2, 1),
    (0x2CF2, 0x2CF2, 1, 1), (0xA640, 0xA66C, 2, 1), (0xA680, 0xA69A, 2, 1), (0xA722, 0xA72E, 2, 1),
    (0xA732, 0xA76E, 2, 1), (0xA779, 0xA77B, 2, 1), (0xA77D, 0xA77D, 1, -35332),
    (0xA77E, 0xA786, 2, 1), (0xA78B, 0xA78B, 1, 1), (0xA78D, 0xA78D, 1, -42280),
    (0xA790, 0xA792, 2, 1), (0xA796, 0xA7A8, 2, 1), (0xA7AA, 0xA7AA, 1, -42308),
    (0xA7AB, 0xA7AB, 1, -42319), (0xA7AC, 0xA7AC, 1, -42315), (0xA7AD, 0xA7AD, 1, -42305),
    (0xA7AE, 0xA7AE, 1, -42308), (0xA7B0, 0xA7B0, 1, -42258), (0xA7B1, 0xA7B1, 1, -42282),
    (0xA7B2, 0xA7B2, 1, -42261), (0xA7B3, 0xA7B3, 1, 928), (0xA7B4, 0xA7C2, 2, 1),
    (0xA7C4, 0xA7C4, 1, -48), (0xA7C5, 0xA7C5, 1, -42307), (0xA7C6, 0xA7C6, 1, -35384),
    (0xA7C7, 0xA7C9, 2, 1), (0xA7D0, 0xA7D0, 1, 1), (0xA7D6, 0xA7D8, 2, 1), (0xA7F5, 0xA7F5, 1, 1),
    (0xAB70, 0xABBF, 1, -38864), (0x10400, 0x10427, 1, 40), (0x104B0, 0x104D3, 1, 40),
    (0x10570, 0x1057A, 1, 39), (0x1057C, 0x1058A, 1, 39), (0x1058C, 0x10592, 1, 39),
    (0x10594, 0x10595, 1, 39), (0x10C80, 0x10CB2, 1, 64), (0x118A0, 0x118BF, 1, 32),
    (0x16E40, 0x16E5F, 1, 32), (0x1E900, 0x1E921, 1, 34)]

def wideRun : Nat × Nat := (0xFF01, 0xFF5E)

def stops : List Nat := [0x3002, 0xFF61]

/-- Alphabets and digits in other styles: the first and last of a run, and the letters or digits that
the run goes through, once or again and again. -/
def styledRuns : List (Nat × Nat × String) :=
  [(0x2070, 0x2070, "0"), (0x2074, 0x2079, "456789"), (0x2080, 0x2089, "0123456789"),
    (0x2460, 0x2468, "123456789"), (0x24B6, 0x24E9, "abcdefghijklmnopqrstuvwxyz"),
    (0x1D400, 0x1D6A3, "abcdefghijklmnopqrstuvwxyz"), (0x1D7CE, 0x1D7FF, "0123456789"),
    (0x1F130, 0x1F149, "abcdefghijklmnopqrstuvwxyz"),
    (0xFF65, 0xFF9D,
      "・ヲァィゥェォャュョッーアイウエオカキクケコサシスセソタチツテトナニヌネノハヒフヘホマミムメモヤユヨラリルレロワン")]

def variants : List (Char × String) :=
  [('ª', "a"), ('²', "2"), ('³', "3"), ('µ', "μ"), ('¹', "1"), ('º', "o"), ('¼', "1⁄4"), ('½', "1⁄2"),
    ('¾', "3⁄4"), ('İ', "i\u0307"), ('Ĳ', "ij"), ('ĳ', "ij"), ('Ŀ', "l·"), ('ŀ', "l·"), ('ŉ', "ʼn"),
    ('ſ', "s"), ('Ǆ', "dž"), ('ǅ', "dž"), ('ǆ', "dž"), ('Ǉ', "lj"), ('ǈ', "lj"), ('ǉ', "lj"),
    ('Ǌ', "nj"), ('ǋ', "nj"), ('ǌ', "nj"), ('Ǳ', "dz"), ('ǲ', "dz"), ('ǳ', "dz"), ('\u0345', "ι"),
    ('ϐ', "β"), ('ϑ', "θ"), ('ϒ', "υ"), ('ϕ', "φ"), ('ϖ', "π"), ('ϰ', "κ"), ('ϱ', "ρ"), ('ϲ', "σ"),
    ('ϵ', "ε"), ('ẚ', "aʾ"), ('ẛ', "ṡ"), ('ℂ', "c"), ('℃', "°c"), ('℉', "°f"), ('ℊ', "g"), ('ℋ', "h"),
    ('ℌ', "h"), ('ℍ', "h"), ('ℎ', "h"), ('ℏ', "ħ"), ('ℐ', "i"), ('ℑ', "i"), ('ℒ', "l"), ('ℓ', "l"),
    ('ℕ', "n"), ('№', "no"), ('ℙ', "p"), ('ℚ', "q"), ('ℛ', "r"), ('ℜ', "r"), ('ℝ', "r"), ('℠', "sm"),
    ('℡', "tel"), ('™', "tm"), ('ℤ', "z"), ('ℨ', "z"), ('ℬ', "b"), ('ℭ', "c"), ('ℯ', "e"), ('ℰ', "e"),
    ('ℱ', "f"), ('ℳ', "m"), ('ℴ', "o"), ('ℹ', "i"), ('Ⅰ', "i"), ('Ⅱ', "ii"), ('Ⅲ', "iii"), ('Ⅳ', "iv"),
    ('Ⅴ', "v"), ('Ⅵ', "vi"), ('Ⅶ', "vii"), ('Ⅷ', "viii"), ('Ⅸ', "ix"), ('Ⅹ', "x"), ('ⅰ', "i"),
    ('ⅱ', "ii"), ('ⅲ', "iii"), ('ⅳ', "iv"), ('ⅴ', "v"), ('ⅵ', "vi"), ('ⅶ', "vii"), ('ⅷ', "viii"),
    ('ⅸ', "ix"), ('ⅹ', "x"), ('⓪', "0"), ('ﬀ', "ff"), ('ﬁ', "fi"), ('ﬂ', "fl"), ('ﬃ', "ffi"),
    ('ﬄ', "ffl"), ('ﬅ', "st"), ('ﬆ', "st"), ('\uff9e', "\u3099"), ('\uff9f', "\u309a")]

def ignoredRuns : List (Nat × Nat) :=
  [(0xAD, 0xAD), (0x34F, 0x34F), (0x115F, 0x1160), (0x17B4, 0x17B5), (0x180B, 0x180F),
    (0x200B, 0x200B), (0x2060, 0x2064), (0x206A, 0x206F), (0x3164, 0x3164), (0xFE00, 0xFE0F),
    (0xFEFF, 0xFEFF), (0xFFA0, 0xFFA0), (0x1BCA0, 0x1BCA3), (0x1D173, 0x1D17A), (0xE0100, 0xE01EF)]

def refusedRuns : List (Nat × Nat) :=
  [(0x80, 0xA0), (0x5F5, 0x605), (0x61C, 0x61C), (0x6DD, 0x6DD), (0x8E2, 0x8E2), (0xE5C, 0xE80),
    (0xEE0, 0xEFF), (0xFDB, 0xFFF), (0x1680, 0x1680), (0x1AEC, 0x1AFF), (0x2000, 0x200A),
    (0x200E, 0x200F), (0x2024, 0x2026), (0x2028, 0x202F), (0x205F, 0x205F), (0x242A, 0x243F),
    (0x244B, 0x245F), (0x2488, 0x249B), (0x2E5E, 0x2E7F), (0x2FD6, 0x3000), (0xA62C, 0xA63F),
    (0xA7DD, 0xA7F0), (0xAAC3, 0xAADA), (0xE000, 0xF8FF), (0xFADA, 0xFAFF), (0xFDD0, 0xFDEF),
    (0xFFEF, 0xFFFF), (0x1005E, 0x1007F), (0x101A1, 0x101CF), (0x101FE, 0x1027F),
    (0x103D6, 0x103FF), (0x10768, 0x1077F), (0x107BB, 0x107FF), (0x108B0, 0x108DF),
    (0x1095A, 0x1097F), (0x10AA0, 0x10ABF), (0x10BB0, 0x10BFF), (0x10C49, 0x10C7F),
    (0x10D90, 0x10E5F), (0x10EB2, 0x10EC1), (0x10ED9, 0x10EF9), (0x10F5A, 0x10F6F),
    (0x10F8A, 0x10FAF), (0x10FCC, 0x10FDF), (0x11242, 0x1127F), (0x113E3, 0x113FF),
    (0x11462, 0x1147F), (0x114DA, 0x1157F), (0x115DE, 0x115FF), (0x1166D, 0x1167F),
    (0x116E4, 0x116FF), (0x11747, 0x117FF), (0x1183C, 0x1189F), (0x1195A, 0x1199F),
    (0x119E5, 0x119FF), (0x11B0A, 0x11B5F), (0x11B68, 0x11BBF), (0x11CB7, 0x11CFF),
    (0x11DEA, 0x11EDF), (0x11F5B, 0x11FAF), (0x1239A, 0x123FF), (0x12544, 0x12F8F),
    (0x13430, 0x1343F), (0x14647, 0x160FF), (0x1613A, 0x167FF), (0x16B90, 0x16D3F),
    (0x16D7A, 0x16E3F), (0x16ED4, 0x16EFF), (0x16FA0, 0x16FDF), (0x18CD6, 0x18CFE),
    (0x18D1F, 0x18D7F), (0x18DF3, 0x1AFEF), (0x1B133, 0x1B14F), (0x1B2FC, 0x1BBFF),
    (0x1BCA4, 0x1CBFF), (0x1CFC4, 0x1CFFF), (0x1D1EB, 0x1D1FF), (0x1D246, 0x1D2BF),
    (0x1D379, 0x1D3FF), (0x1DAB0, 0x1DEFF), (0x1DF2B, 0x1DFFF), (0x1E06E, 0x1E08E),
    (0x1E090, 0x1E0FF), (0x1E150, 0x1E28F), (0x1E2AF, 0x1E2BF), (0x1E300, 0x1E4CF),
    (0x1E4FA, 0x1E5CF), (0x1E600, 0x1E6BF), (0x1E700, 0x1E7DF), (0x1E8D7, 0x1E8FF),
    (0x1E960, 0x1EC70), (0x1ECB5, 0x1ED00), (0x1ED3E, 0x1EDFF), (0x1EEBC, 0x1EEEF),
    (0x1EEF2, 0x1EFFF), (0x1F1AE, 0x1F1E5), (0x1F266, 0x1F2FF), (0x1F8D9, 0x1F8FF),
    (0x1FBFB, 0x1FFFF), (0x2A6E0, 0x2A6FF), (0x2EE5E, 0x2F7FF), (0x2FA1E, 0x2FFFF),
    (0x3347A, 0xE00FF), (0xE01F0, 0x10FFFF)]

def inRun (runs : List (Nat × Nat)) (n : Nat) : Bool :=
  runs.any fun run => run.1 ≤ n && n ≤ run.2

def lowerCase (n : Nat) : Nat :=
  let run? := caseRuns.find? fun (first, last, step, _) =>
    first ≤ n && n ≤ last && (n - first) % step = 0
  match run? with
  | some (_, _, _, distance) => (n + distance).toNat
  | none => n

def styled? (n : Nat) : Option Char := do
  let (first, _, letters) ← styledRuns.find? fun (first, last, _) => first ≤ n && n ≤ last
  letters.toList[(n - first) % letters.length]?

def fold? (c : Char) : Option (List Char) :=
  let n := c.toNat
  if n < 0x80 then some [c.toLower]
  else if inRun refusedRuns n then none
  else if inRun ignoredRuns n then some []
  else if n ∈ stops then some ['.']
  else if inRun [wideRun] n then some [(Char.ofNat (n - 0xFEE0)).toLower]
  else match variants.lookup c with
    | some s => some s.toList
    | none => some [(styled? n).getD (Char.ofNat (lowerCase n))]

end TierRelay.Url.Domain
