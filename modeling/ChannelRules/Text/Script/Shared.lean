import ChannelRules.Text.Script

/-!
# Characters shared by scripts

Some characters are used with several scripts, or with another script than the one they are listed
under, by the Unicode Character Database, edition 16.
-/

namespace ChannelRules.Text

/-- Code points used with several scripts, or with others than their own: the first, the last, and
the scripts. -/
def sharedRuns : List (Nat × Nat × List String) :=
  [(183, 183, ["avestan", "carian", "coptic", "duployan", "elbasan", "georgian", "glagolitic",
     "gothic", "greek", "gunjalagondi", "han", "latin", "lydian", "mahajani", "oldpermic",
     "shavian"]),
   (700, 700, ["bengali", "cyrillic", "devanagari", "latin", "lisu", "thai", "toto"]),
   (711, 711, ["bopomofo", "latin"]), (713, 715, ["bopomofo", "latin"]),
   (717, 717, ["latin", "lisu"]), (727, 727, ["latin", "thai"]), (729, 729, ["bopomofo", "latin"]),
   (768, 768, ["cherokee", "coptic", "cyrillic", "greek", "latin", "oldpermic", "sunuwar",
     "taile"]),
   (769, 769, ["cherokee", "cyrillic", "greek", "latin", "osage", "sunuwar", "taile", "todhri"]),
   (770, 770, ["cherokee", "cyrillic", "latin", "tifinagh"]),
   (771, 771, ["glagolitic", "latin", "sunuwar", "syriac", "thai"]),
   (772, 772, ["caucasianalbanian", "cherokee", "coptic", "cyrillic", "gothic", "greek", "latin",
     "osage", "syriac", "tifinagh", "todhri"]),
   (773, 773, ["coptic", "elbasan", "glagolitic", "gothic", "katakana", "latin"]),
   (774, 774, ["cyrillic", "greek", "latin", "oldpermic", "tifinagh"]),
   (775, 775, ["coptic", "duployan", "hebrew", "latin", "oldpermic", "syriac", "taile", "tifinagh",
     "todhri"]),
   (776, 776, ["armenian", "cyrillic", "duployan", "gothic", "greek", "hebrew", "latin",
     "oldpermic", "syriac", "taile", "tifinagh"]),
   (777, 777, ["latin", "tifinagh"]),
   (778, 778, ["duployan", "latin", "syriac"]),
   (779, 779, ["cherokee", "cyrillic", "latin", "osage"]),
   (780, 780, ["cherokee", "latin", "taile"]),
   (781, 781, ["latin", "sunuwar"]), (782, 782, ["ethiopic", "latin"]),
   (784, 784, ["latin", "sunuwar"]),
   (785, 785, ["cyrillic", "latin", "todhri"]),
   (787, 787, ["greek", "latin", "oldpermic", "todhri"]),
   (803, 803, ["cherokee", "duployan", "katakana", "latin", "syriac", "tifinagh"]),
   (804, 804, ["cherokee", "duployan", "latin", "syriac"]),
   (805, 805, ["latin", "syriac"]),
   (813, 813, ["latin", "sunuwar", "syriac"]),
   (814, 814, ["latin", "syriac"]),
   (816, 816, ["cherokee", "latin", "syriac"]),
   (817, 817, ["caucasianalbanian", "cherokee", "gothic", "latin", "sunuwar", "syriac", "thai"]),
   (834, 834, ["greek"]), (837, 837, ["greek"]), (856, 856, ["latin", "osage"]),
   (862, 862, ["caucasianalbanian", "latin", "todhri"]),
   (867, 879, ["latin"]), (884, 885, ["coptic", "greek"]), (1155, 1155, ["cyrillic", "oldpermic"]),
   (1156, 1156, ["cyrillic", "glagolitic"]), (1157, 1158, ["cyrillic", "latin"]),
   (1159, 1159, ["cyrillic", "glagolitic"]),
   (1417, 1417, ["armenian", "georgian", "glagolitic"]),
   (1548, 1548, ["arabic", "garay", "hanifirohingya", "nko", "syriac", "thaana", "yezidi"]),
   (1563, 1563, ["arabic", "garay", "hanifirohingya", "nko", "syriac", "thaana", "yezidi"]),
   (1564, 1564, ["arabic", "syriac", "thaana"]),
   (1567, 1567, ["adlam", "arabic", "garay", "hanifirohingya", "nko", "syriac", "thaana",
     "yezidi"]),
   (1600, 1600, ["adlam", "arabic", "hanifirohingya", "mandaic", "manichaean", "olduyghur",
     "psalterpahlavi", "sogdian", "syriac"]),
   (1611, 1621, ["arabic", "syriac"]),
   (1632, 1641, ["arabic", "thaana", "yezidi"]),
   (1648, 1648, ["arabic", "syriac"]), (1748, 1748, ["arabic", "hanifirohingya"]),
   (2385, 2385, ["bengali", "devanagari", "grantha", "gujarati", "gurmukhi", "kannada", "latin",
     "malayalam", "nandinagari", "newa", "oriya", "sharada", "tamil", "telugu", "tirhuta"]),
   (2386, 2386, ["bengali", "devanagari", "grantha", "gujarati", "gurmukhi", "kannada", "latin",
     "malayalam", "newa", "oriya", "tamil", "telugu", "tirhuta"]),
   (2404, 2404, ["bengali", "devanagari", "dogra", "grantha", "gujarati", "gunjalagondi",
     "gurmukhi", "kannada", "khudawadi", "mahajani", "malayalam", "masaramgondi", "nandinagari",
     "olonal", "oriya", "sinhala", "sylotinagri", "takri", "tamil", "telugu", "tirhuta"]),
   (2405, 2405, ["bengali", "devanagari", "dogra", "grantha", "gujarati", "gunjalagondi",
     "gurmukhi", "gurungkhema", "kannada", "khudawadi", "limbu", "mahajani", "malayalam",
     "masaramgondi", "nandinagari", "olonal", "oriya", "sinhala", "sylotinagri", "takri", "tamil",
     "telugu", "tirhuta"]),
   (2406, 2415, ["devanagari", "dogra", "kaithi", "mahajani"]),
   (2534, 2543, ["bengali", "chakma", "sylotinagri"]),
   (2662, 2671, ["gurmukhi", "multani"]), (2790, 2799, ["gujarati", "khojki"]),
   (3046, 3059, ["grantha", "tamil"]),
   (3302, 3311, ["kannada", "nandinagari", "tulutigalari"]),
   (4160, 4169, ["chakma", "myanmar", "taile"]),
   (4347, 4347, ["georgian", "glagolitic", "latin"]),
   (5867, 5869, ["runic"]),
   (5941, 5942, ["buhid", "hanunoo", "tagalog", "tagbanwa"]),
   (6146, 6147, ["mongolian", "phagspa"]), (6149, 6149, ["mongolian", "phagspa"]),
   (7376, 7376, ["bengali", "devanagari", "grantha", "kannada"]),
   (7377, 7377, ["devanagari"]),
   (7378, 7378, ["bengali", "devanagari", "grantha", "kannada"]),
   (7379, 7379, ["devanagari", "grantha", "kannada"]),
   (7380, 7380, ["devanagari"]),
   (7381, 7381, ["bengali", "devanagari", "newa", "telugu", "tirhuta"]),
   (7382, 7382, ["bengali", "devanagari", "telugu"]),
   (7383, 7383, ["devanagari", "newa", "sharada"]),
   (7384, 7384, ["bengali", "devanagari", "newa", "telugu"]),
   (7385, 7385, ["devanagari", "sharada"]),
   (7386, 7386, ["devanagari", "kannada", "malayalam", "oriya", "tamil", "telugu"]),
   (7387, 7387, ["devanagari"]), (7388, 7389, ["devanagari", "sharada"]),
   (7390, 7391, ["devanagari"]), (7392, 7392, ["devanagari", "sharada"]),
   (7393, 7393, ["bengali", "devanagari"]),
   (7394, 7394, ["devanagari", "newa", "tirhuta"]),
   (7395, 7400, ["devanagari"]),
   (7401, 7401, ["devanagari", "nandinagari", "newa"]),
   (7402, 7402, ["bengali", "devanagari", "sharada"]),
   (7403, 7403, ["devanagari", "newa"]), (7404, 7404, ["devanagari"]),
   (7405, 7405, ["bengali", "devanagari", "newa", "sharada"]),
   (7406, 7409, ["devanagari"]),
   (7410, 7410, ["bengali", "devanagari", "grantha", "kannada", "malayalam", "nandinagari", "oriya",
     "sinhala", "telugu", "tirhuta", "tulutigalari"]),
   (7411, 7411, ["devanagari", "grantha"]),
   (7412, 7412, ["devanagari", "grantha", "kannada", "tulutigalari"]),
   (7413, 7414, ["bengali", "devanagari"]), (7415, 7415, ["bengali"]),
   (7416, 7417, ["devanagari", "grantha"]), (7418, 7418, ["nandinagari"]), (7616, 7617, ["greek"]),
   (7672, 7672, ["cyrillic", "latin", "syriac"]),
   (7674, 7674, ["syriac"]),
   (8239, 8239, ["latin", "mongolian", "phagspa"]),
   (8271, 8271, ["adlam", "arabic"]),
   (8282, 8282, ["carian", "georgian", "glagolitic", "lycian", "oldhungarian", "oldturkic"]),
   (8285, 8285, ["carian", "greek", "meroitichieroglyphs", "oldhungarian"]),
   (8432, 8432, ["devanagari", "grantha", "latin"]),
   (11799, 11799, ["coptic", "latin"]), (11824, 11824, ["avestan", "oldturkic"]),
   (11825, 11825, ["avestan", "carian", "georgian", "kaithi", "lydian", "oldhungarian",
     "samaritan"]),
   (11836, 11836, ["duployan"]),
   (11841, 11841, ["adlam", "arabic", "oldhungarian"]),
   (11843, 11843, ["cyrillic", "glagolitic"]), (12272, 12287, ["han", "tangut"]),
   (12289, 12289, ["bopomofo", "han", "hangul", "hiragana", "katakana", "mongolian", "yi"]),
   (12290, 12290, ["bopomofo", "han", "hangul", "hiragana", "katakana", "mongolian", "phagspa",
     "yi"]),
   (12291, 12291, ["bopomofo", "han", "hangul", "hiragana", "katakana"]),
   (12294, 12294, ["han"]),
   (12296, 12297, ["bopomofo", "han", "hangul", "hiragana", "katakana", "mongolian", "tibetan",
     "yi"]),
   (12298, 12299, ["bopomofo", "han", "hangul", "hiragana", "katakana", "lisu", "mongolian",
     "tibetan", "yi"]),
   (12300, 12305, ["bopomofo", "han", "hangul", "hiragana", "katakana", "yi"]),
   (12307, 12307, ["bopomofo", "han", "hangul", "hiragana", "katakana"]),
   (12308, 12315, ["bopomofo", "han", "hangul", "hiragana", "katakana", "yi"]),
   (12316, 12319, ["bopomofo", "han", "hangul", "hiragana", "katakana"]),
   (12330, 12333, ["bopomofo", "han"]),
   (12336, 12336, ["bopomofo", "han", "hangul", "hiragana", "katakana"]),
   (12337, 12341, ["hiragana", "katakana"]),
   (12343, 12343, ["bopomofo", "han", "hangul", "hiragana", "katakana"]),
   (12348, 12349, ["han", "hiragana", "katakana"]),
   (12350, 12351, ["han"]), (12441, 12444, ["hiragana", "katakana"]),
   (12448, 12448, ["hiragana", "katakana"]),
   (12539, 12539, ["bopomofo", "han", "hangul", "hiragana", "katakana", "yi"]),
   (12540, 12540, ["hiragana", "katakana"]), (12688, 12703, ["han"]), (12736, 12773, ["han"]),
   (12783, 12783, ["han", "tangut"]), (12832, 12871, ["han"]), (12928, 12976, ["han"]),
   (12992, 13003, ["han"]), (13055, 13055, ["han"]), (13144, 13168, ["han"]),
   (13179, 13183, ["han"]), (13280, 13310, ["han"]), (42607, 42607, ["cyrillic", "glagolitic"]),
   (42752, 42759, ["han", "latin"]),
   (43056, 43058, ["devanagari", "dogra", "gujarati", "gurmukhi", "kaithi", "kannada", "khojki",
     "khudawadi", "mahajani", "malayalam", "modi", "nandinagari", "sharada", "takri", "tirhuta",
     "tulutigalari"]),
   (43059, 43061, ["devanagari", "dogra", "gujarati", "gurmukhi", "kaithi", "kannada", "khojki",
     "khudawadi", "mahajani", "modi", "nandinagari", "sharada", "takri", "tirhuta",
     "tulutigalari"]),
   (43062, 43063, ["devanagari", "dogra", "gujarati", "gurmukhi", "kaithi", "khojki", "khudawadi",
     "mahajani", "modi", "takri", "tirhuta"]),
   (43064, 43064, ["devanagari", "dogra", "gujarati", "gurmukhi", "kaithi", "khojki", "khudawadi",
     "mahajani", "modi", "sharada", "takri", "tirhuta"]),
   (43065, 43065, ["devanagari", "dogra", "gujarati", "gurmukhi", "kaithi", "khojki", "khudawadi",
     "mahajani", "modi", "takri", "tirhuta"]),
   (43249, 43249, ["bengali", "devanagari", "tulutigalari"]),
   (43251, 43251, ["devanagari", "tamil"]),
   (43310, 43310, ["kayahli", "latin", "myanmar"]),
   (43471, 43471, ["buginese", "javanese"]), (64830, 64831, ["arabic", "nko"]),
   (65010, 65010, ["arabic", "thaana"]), (65021, 65021, ["arabic", "thaana"]),
   (65093, 65094, ["bopomofo", "han", "hangul", "hiragana", "katakana"]),
   (65377, 65381, ["bopomofo", "han", "hangul", "hiragana", "katakana", "yi"]),
   (65392, 65392, ["hiragana", "katakana"]), (65438, 65439, ["hiragana", "katakana"]),
   (65792, 65793, ["cypriot", "cyprominoan", "linearb"]),
   (65794, 65794, ["cypriot", "linearb"]),
   (65799, 65843, ["cypriot", "lineara", "linearb"]),
   (65847, 65855, ["cypriot", "linearb"]), (66272, 66299, ["arabic", "coptic"]),
   (68338, 68338, ["manichaean", "olduyghur"]), (70401, 70401, ["grantha", "tamil"]),
   (70403, 70403, ["grantha", "tamil"]), (70459, 70460, ["grantha", "tamil"]),
   (73680, 73681, ["grantha", "tamil"]), (73683, 73683, ["grantha", "tamil"]),
   (113824, 113827, ["duployan"]), (119648, 119665, ["han"]), (127568, 127569, ["han"])]

end ChannelRules.Text
