import SymbolSearch.Text.Alphanumeric
import SymbolSearch.Text.Digit

namespace SymbolSearch.Text

/-- Letters and numbers that have no place in a name: superscripts, fractions, circled numbers and
forms that decompose into several characters. -/
def unnameableRuns : List Run :=
  [⟨178, 179, 1⟩, ⟨185, 185, 1⟩, ⟨188, 190, 1⟩, ⟨890, 890, 1⟩, ⟨2548, 2553, 1⟩, ⟨2930, 2935, 1⟩,
    ⟨3056, 3058, 1⟩, ⟨3192, 3198, 1⟩, ⟨3416, 3422, 1⟩, ⟨3440, 3448, 1⟩, ⟨3882, 3891, 1⟩,
    ⟨4978, 4988, 1⟩, ⟨6128, 6137, 1⟩, ⟨8304, 8304, 1⟩, ⟨8308, 8313, 1⟩, ⟨8320, 8329, 1⟩,
    ⟨8528, 8543, 1⟩, ⟨8585, 8585, 1⟩, ⟨9312, 9371, 1⟩, ⟨9450, 9471, 1⟩, ⟨10102, 10131, 1⟩,
    ⟨11517, 11517, 1⟩, ⟨11823, 11823, 1⟩, ⟨12690, 12693, 1⟩, ⟨12832, 12841, 1⟩, ⟨12872, 12879, 1⟩,
    ⟨12881, 12895, 1⟩, ⟨12928, 12937, 1⟩, ⟨12977, 12991, 1⟩, ⟨43056, 43061, 1⟩, ⟨64606, 64611, 1⟩,
    ⟨65018, 65019, 1⟩, ⟨65136, 65136, 1⟩, ⟨65138, 65138, 1⟩, ⟨65140, 65140, 1⟩, ⟨65142, 65142, 1⟩,
    ⟨65144, 65144, 1⟩, ⟨65146, 65146, 1⟩, ⟨65148, 65148, 1⟩, ⟨65150, 65150, 1⟩, ⟨65799, 65843, 1⟩,
    ⟨65909, 65912, 1⟩, ⟨65930, 65931, 1⟩, ⟨66273, 66299, 1⟩, ⟨66336, 66339, 1⟩, ⟨67672, 67679, 1⟩,
    ⟨67705, 67711, 1⟩, ⟨67751, 67759, 1⟩, ⟨67835, 67839, 1⟩, ⟨67862, 67867, 1⟩, ⟨68028, 68029, 1⟩,
    ⟨68032, 68047, 1⟩, ⟨68050, 68095, 1⟩, ⟨68160, 68168, 1⟩, ⟨68221, 68222, 1⟩, ⟨68253, 68255, 1⟩,
    ⟨68331, 68335, 1⟩, ⟨68440, 68447, 1⟩, ⟨68472, 68479, 1⟩, ⟨68521, 68527, 1⟩, ⟨68858, 68863, 1⟩,
    ⟨69216, 69246, 1⟩, ⟨69405, 69414, 1⟩, ⟨69457, 69460, 1⟩, ⟨69573, 69579, 1⟩, ⟨69714, 69733, 1⟩,
    ⟨70113, 70132, 1⟩, ⟨71482, 71483, 1⟩, ⟨71914, 71922, 1⟩, ⟨72794, 72812, 1⟩, ⟨73664, 73684, 1⟩,
    ⟨93019, 93025, 1⟩, ⟨93824, 93846, 1⟩, ⟨119520, 119539, 1⟩, ⟨119648, 119672, 1⟩,
    ⟨125127, 125135, 1⟩, ⟨126065, 126123, 1⟩, ⟨126125, 126127, 1⟩, ⟨126129, 126132, 1⟩,
    ⟨126209, 126253, 1⟩, ⟨126255, 126269, 1⟩, ⟨127232, 127244, 1⟩]

/-- Characters that are neither letters nor numbers and yet may stand inside a name: combining marks
and connecting punctuation. -/
def joiningRuns : List Run :=
  [⟨183, 183, 1⟩, ⟨768, 879, 1⟩, ⟨903, 903, 1⟩, ⟨1155, 1159, 1⟩, ⟨1425, 1469, 1⟩, ⟨1471, 1471, 1⟩,
    ⟨1473, 1474, 1⟩, ⟨1476, 1477, 1⟩, ⟨1479, 1479, 1⟩, ⟨1552, 1562, 1⟩, ⟨1611, 1631, 1⟩,
    ⟨1648, 1648, 1⟩, ⟨1750, 1756, 1⟩, ⟨1759, 1764, 1⟩, ⟨1767, 1768, 1⟩, ⟨1770, 1773, 1⟩,
    ⟨1809, 1809, 1⟩, ⟨1840, 1866, 1⟩, ⟨1958, 1968, 1⟩, ⟨2027, 2035, 1⟩, ⟨2045, 2045, 1⟩,
    ⟨2070, 2073, 1⟩, ⟨2075, 2083, 1⟩, ⟨2085, 2087, 1⟩, ⟨2089, 2093, 1⟩, ⟨2137, 2139, 1⟩,
    ⟨2200, 2207, 1⟩, ⟨2250, 2273, 1⟩, ⟨2275, 2307, 1⟩, ⟨2362, 2364, 1⟩, ⟨2366, 2383, 1⟩,
    ⟨2385, 2391, 1⟩, ⟨2402, 2403, 1⟩, ⟨2433, 2435, 1⟩, ⟨2492, 2492, 1⟩, ⟨2494, 2500, 1⟩,
    ⟨2503, 2504, 1⟩, ⟨2507, 2509, 1⟩, ⟨2519, 2519, 1⟩, ⟨2530, 2531, 1⟩, ⟨2558, 2558, 1⟩,
    ⟨2561, 2563, 1⟩, ⟨2620, 2620, 1⟩, ⟨2622, 2626, 1⟩, ⟨2631, 2632, 1⟩, ⟨2635, 2637, 1⟩,
    ⟨2641, 2641, 1⟩, ⟨2672, 2673, 1⟩, ⟨2677, 2677, 1⟩, ⟨2689, 2691, 1⟩, ⟨2748, 2748, 1⟩,
    ⟨2750, 2757, 1⟩, ⟨2759, 2761, 1⟩, ⟨2763, 2765, 1⟩, ⟨2786, 2787, 1⟩, ⟨2810, 2815, 1⟩,
    ⟨2817, 2819, 1⟩, ⟨2876, 2876, 1⟩, ⟨2878, 2884, 1⟩, ⟨2887, 2888, 1⟩, ⟨2891, 2893, 1⟩,
    ⟨2901, 2903, 1⟩, ⟨2914, 2915, 1⟩, ⟨2946, 2946, 1⟩, ⟨3006, 3010, 1⟩, ⟨3014, 3016, 1⟩,
    ⟨3018, 3021, 1⟩, ⟨3031, 3031, 1⟩, ⟨3072, 3076, 1⟩, ⟨3132, 3132, 1⟩, ⟨3134, 3140, 1⟩,
    ⟨3142, 3144, 1⟩, ⟨3146, 3149, 1⟩, ⟨3157, 3158, 1⟩, ⟨3170, 3171, 1⟩, ⟨3201, 3203, 1⟩,
    ⟨3260, 3260, 1⟩, ⟨3262, 3268, 1⟩, ⟨3270, 3272, 1⟩, ⟨3274, 3277, 1⟩, ⟨3285, 3286, 1⟩,
    ⟨3298, 3299, 1⟩, ⟨3328, 3331, 1⟩, ⟨3387, 3388, 1⟩, ⟨3390, 3396, 1⟩, ⟨3398, 3400, 1⟩,
    ⟨3402, 3405, 1⟩, ⟨3415, 3415, 1⟩, ⟨3426, 3427, 1⟩, ⟨3457, 3459, 1⟩, ⟨3530, 3530, 1⟩,
    ⟨3535, 3540, 1⟩, ⟨3542, 3542, 1⟩, ⟨3544, 3551, 1⟩, ⟨3570, 3571, 1⟩, ⟨3633, 3633, 1⟩,
    ⟨3636, 3642, 1⟩, ⟨3655, 3662, 1⟩, ⟨3761, 3761, 1⟩, ⟨3764, 3772, 1⟩, ⟨3784, 3789, 1⟩,
    ⟨3864, 3865, 1⟩, ⟨3893, 3893, 1⟩, ⟨3895, 3895, 1⟩, ⟨3897, 3897, 1⟩, ⟨3902, 3903, 1⟩,
    ⟨3953, 3972, 1⟩, ⟨3974, 3975, 1⟩, ⟨3981, 3991, 1⟩, ⟨3993, 4028, 1⟩, ⟨4038, 4038, 1⟩,
    ⟨4139, 4158, 1⟩, ⟨4182, 4185, 1⟩, ⟨4190, 4192, 1⟩, ⟨4194, 4196, 1⟩, ⟨4199, 4205, 1⟩,
    ⟨4209, 4212, 1⟩, ⟨4226, 4237, 1⟩, ⟨4239, 4239, 1⟩, ⟨4250, 4253, 1⟩, ⟨4957, 4959, 1⟩,
    ⟨5906, 5909, 1⟩, ⟨5938, 5940, 1⟩, ⟨5970, 5971, 1⟩, ⟨6002, 6003, 1⟩, ⟨6068, 6099, 1⟩,
    ⟨6109, 6109, 1⟩, ⟨6155, 6157, 1⟩, ⟨6159, 6159, 1⟩, ⟨6277, 6278, 1⟩, ⟨6313, 6313, 1⟩,
    ⟨6432, 6443, 1⟩, ⟨6448, 6459, 1⟩, ⟨6679, 6683, 1⟩, ⟨6741, 6750, 1⟩, ⟨6752, 6780, 1⟩,
    ⟨6783, 6783, 1⟩, ⟨6832, 6845, 1⟩, ⟨6847, 6862, 1⟩, ⟨6912, 6916, 1⟩, ⟨6964, 6980, 1⟩,
    ⟨7019, 7027, 1⟩, ⟨7040, 7042, 1⟩, ⟨7073, 7085, 1⟩, ⟨7142, 7155, 1⟩, ⟨7204, 7223, 1⟩,
    ⟨7376, 7378, 1⟩, ⟨7380, 7400, 1⟩, ⟨7405, 7405, 1⟩, ⟨7412, 7412, 1⟩, ⟨7415, 7417, 1⟩,
    ⟨7616, 7679, 1⟩, ⟨8255, 8256, 1⟩, ⟨8276, 8276, 1⟩, ⟨8400, 8412, 1⟩, ⟨8417, 8417, 1⟩,
    ⟨8421, 8432, 1⟩, ⟨8472, 8472, 1⟩, ⟨8494, 8494, 1⟩, ⟨11503, 11505, 1⟩, ⟨11647, 11647, 1⟩,
    ⟨11744, 11775, 1⟩, ⟨12330, 12335, 1⟩, ⟨12441, 12442, 1⟩, ⟨42607, 42607, 1⟩, ⟨42612, 42621, 1⟩,
    ⟨42654, 42655, 1⟩, ⟨42736, 42737, 1⟩, ⟨43010, 43010, 1⟩, ⟨43014, 43014, 1⟩, ⟨43019, 43019, 1⟩,
    ⟨43043, 43047, 1⟩, ⟨43052, 43052, 1⟩, ⟨43136, 43137, 1⟩, ⟨43188, 43205, 1⟩, ⟨43232, 43249, 1⟩,
    ⟨43263, 43263, 1⟩, ⟨43302, 43309, 1⟩, ⟨43335, 43347, 1⟩, ⟨43392, 43395, 1⟩, ⟨43443, 43456, 1⟩,
    ⟨43493, 43493, 1⟩, ⟨43561, 43574, 1⟩, ⟨43587, 43587, 1⟩, ⟨43596, 43597, 1⟩, ⟨43643, 43645, 1⟩,
    ⟨43696, 43696, 1⟩, ⟨43698, 43700, 1⟩, ⟨43703, 43704, 1⟩, ⟨43710, 43711, 1⟩, ⟨43713, 43713, 1⟩,
    ⟨43755, 43759, 1⟩, ⟨43765, 43766, 1⟩, ⟨44003, 44010, 1⟩, ⟨44012, 44013, 1⟩, ⟨64286, 64286, 1⟩,
    ⟨65024, 65039, 1⟩, ⟨65056, 65071, 1⟩, ⟨65075, 65076, 1⟩, ⟨65101, 65103, 1⟩, ⟨65343, 65343, 1⟩,
    ⟨66045, 66045, 1⟩, ⟨66272, 66272, 1⟩, ⟨66422, 66426, 1⟩, ⟨68097, 68099, 1⟩, ⟨68101, 68102, 1⟩,
    ⟨68108, 68111, 1⟩, ⟨68152, 68154, 1⟩, ⟨68159, 68159, 1⟩, ⟨68325, 68326, 1⟩, ⟨68900, 68903, 1⟩,
    ⟨69291, 69292, 1⟩, ⟨69446, 69456, 1⟩, ⟨69506, 69509, 1⟩, ⟨69632, 69634, 1⟩, ⟨69688, 69702, 1⟩,
    ⟨69744, 69744, 1⟩, ⟨69747, 69748, 1⟩, ⟨69759, 69762, 1⟩, ⟨69808, 69818, 1⟩, ⟨69826, 69826, 1⟩,
    ⟨69888, 69890, 1⟩, ⟨69927, 69940, 1⟩, ⟨69957, 69958, 1⟩, ⟨70003, 70003, 1⟩, ⟨70016, 70018, 1⟩,
    ⟨70067, 70080, 1⟩, ⟨70089, 70092, 1⟩, ⟨70094, 70095, 1⟩, ⟨70188, 70199, 1⟩, ⟨70206, 70206, 1⟩,
    ⟨70367, 70378, 1⟩, ⟨70400, 70403, 1⟩, ⟨70459, 70460, 1⟩, ⟨70462, 70468, 1⟩, ⟨70471, 70472, 1⟩,
    ⟨70475, 70477, 1⟩, ⟨70487, 70487, 1⟩, ⟨70498, 70499, 1⟩, ⟨70502, 70508, 1⟩, ⟨70512, 70516, 1⟩,
    ⟨70709, 70726, 1⟩, ⟨70750, 70750, 1⟩, ⟨70832, 70851, 1⟩, ⟨71087, 71093, 1⟩, ⟨71096, 71104, 1⟩,
    ⟨71132, 71133, 1⟩, ⟨71216, 71232, 1⟩, ⟨71339, 71351, 1⟩, ⟨71453, 71467, 1⟩, ⟨71724, 71738, 1⟩,
    ⟨71984, 71989, 1⟩, ⟨71991, 71992, 1⟩, ⟨71995, 71998, 1⟩, ⟨72000, 72000, 1⟩, ⟨72002, 72003, 1⟩,
    ⟨72145, 72151, 1⟩, ⟨72154, 72160, 1⟩, ⟨72164, 72164, 1⟩, ⟨72193, 72202, 1⟩, ⟨72243, 72249, 1⟩,
    ⟨72251, 72254, 1⟩, ⟨72263, 72263, 1⟩, ⟨72273, 72283, 1⟩, ⟨72330, 72345, 1⟩, ⟨72751, 72758, 1⟩,
    ⟨72760, 72767, 1⟩, ⟨72850, 72871, 1⟩, ⟨72873, 72886, 1⟩, ⟨73009, 73014, 1⟩, ⟨73018, 73018, 1⟩,
    ⟨73020, 73021, 1⟩, ⟨73023, 73029, 1⟩, ⟨73031, 73031, 1⟩, ⟨73098, 73102, 1⟩, ⟨73104, 73105, 1⟩,
    ⟨73107, 73111, 1⟩, ⟨73459, 73462, 1⟩, ⟨92912, 92916, 1⟩, ⟨92976, 92982, 1⟩, ⟨94031, 94031, 1⟩,
    ⟨94033, 94087, 1⟩, ⟨94095, 94098, 1⟩, ⟨94180, 94180, 1⟩, ⟨94192, 94193, 1⟩, ⟨113821, 113822, 1⟩,
    ⟨118528, 118573, 1⟩, ⟨118576, 118598, 1⟩, ⟨119141, 119145, 1⟩, ⟨119149, 119154, 1⟩,
    ⟨119163, 119170, 1⟩, ⟨119173, 119179, 1⟩, ⟨119210, 119213, 1⟩, ⟨119362, 119364, 1⟩,
    ⟨121344, 121398, 1⟩, ⟨121403, 121452, 1⟩, ⟨121461, 121461, 1⟩, ⟨121476, 121476, 1⟩,
    ⟨121499, 121503, 1⟩, ⟨121505, 121519, 1⟩, ⟨122880, 122886, 1⟩, ⟨122888, 122904, 1⟩,
    ⟨122907, 122913, 1⟩, ⟨122915, 122916, 1⟩, ⟨122918, 122922, 1⟩, ⟨123184, 123190, 1⟩,
    ⟨123566, 123566, 1⟩, ⟨123628, 123631, 1⟩, ⟨125136, 125142, 1⟩, ⟨125252, 125258, 1⟩,
    ⟨917760, 917999, 1⟩]

/-- Characters other than decimal digits that may stand inside a name but not at its beginning,
although they are letters or numbers. -/
def neverFirstRuns : List Run :=
  [⟨3635, 3635, 1⟩, ⟨3763, 3763, 1⟩, ⟨4969, 4977, 1⟩, ⟨6618, 6618, 1⟩, ⟨65438, 65439, 1⟩]

/-- Characters that may begin a name although they are neither letters nor numbers. -/
def alsoFirstRuns : List Run :=
  [⟨6277, 6278, 1⟩, ⟨8472, 8472, 1⟩, ⟨8494, 8494, 1⟩]

/-- Whether a character may stand inside a name. -/
def isNamePart (c : Char) : Bool :=
  if c.toNat < 128 then isWord c
  else
    (isAlphanumeric c && !unnameableRuns.any (·.contains c.toNat)) ||
      joiningRuns.any (·.contains c.toNat)

/-- Whether a character may begin a name. -/
def isNameStart (c : Char) : Bool :=
  if c.toNat < 128 then c.isAlpha || c == '_'
  else
    (isAlphanumeric c && isNamePart c && !isDecimal c &&
        !neverFirstRuns.any (·.contains c.toNat)) ||
      alsoFirstRuns.any (·.contains c.toNat)

/-- Whether a text is a name. -/
def isName : List Char → Bool
  | [] => false
  | c :: rest => isNameStart c && rest.all isNamePart

end SymbolSearch.Text
