import ChannelRules.Text.CodePoints

namespace ChannelRules.Text.Property

def asciiHexDigit : CodePoints := [(48, 57), (65, 70), (97, 102)]

def bidiControl : CodePoints := [(1564, 1564), (8206, 8207), (8234, 8238), (8294, 8297)]

def dash : CodePoints :=
  [(45, 45), (1418, 1418), (1470, 1470), (5120, 5120), (6150, 6150), (8208, 8213), (8275, 8275),
   (8315, 8315), (8331, 8331), (8722, 8722), (11799, 11799), (11802, 11802), (11834, 11835),
   (11840, 11840), (11869, 11869), (12316, 12316), (12336, 12336), (12448, 12448), (65073, 65074),
   (65112, 65112), (65123, 65123), (65293, 65293), (68974, 68974), (69293, 69293)]

def deprecated : CodePoints :=
  [(329, 329), (1651, 1651), (3959, 3959), (3961, 3961), (6051, 6052), (8298, 8303), (9001, 9002),
   (917505, 917505)]

def diacritic : CodePoints :=
  [(94, 94), (96, 96), (168, 168), (175, 175), (180, 180), (183, 184), (688, 846), (848, 855),
   (861, 866), (884, 885), (890, 890), (900, 901), (1155, 1159), (1369, 1369), (1425, 1469),
   (1471, 1471), (1473, 1474), (1476, 1477), (1479, 1479), (1611, 1618), (1623, 1624), (1759, 1760),
   (1765, 1766), (1770, 1772), (1840, 1866), (1958, 1968), (2027, 2037), (2072, 2073), (2200, 2207),
   (2249, 2258), (2275, 2302), (2364, 2364), (2381, 2381), (2385, 2388), (2417, 2417), (2492, 2492),
   (2509, 2509), (2620, 2620), (2637, 2637), (2748, 2748), (2765, 2765), (2813, 2815), (2876, 2876),
   (2893, 2893), (2901, 2901), (3021, 3021), (3132, 3132), (3149, 3149), (3260, 3260), (3277, 3277),
   (3387, 3388), (3405, 3405), (3530, 3530), (3642, 3642), (3655, 3660), (3662, 3662), (3770, 3770),
   (3784, 3788), (3864, 3865), (3893, 3893), (3895, 3895), (3897, 3897), (3902, 3903), (3970, 3972),
   (3974, 3975), (4038, 4038), (4151, 4151), (4153, 4154), (4195, 4196), (4201, 4205), (4231, 4237),
   (4239, 4239), (4250, 4251), (4957, 4959), (5908, 5909), (5940, 5940), (6089, 6099), (6109, 6109),
   (6457, 6459), (6752, 6752), (6773, 6780), (6783, 6783), (6832, 6846), (6849, 6859), (6964, 6964),
   (6980, 6980), (7019, 7027), (7082, 7083), (7142, 7142), (7154, 7155), (7222, 7223), (7288, 7293),
   (7376, 7400), (7405, 7405), (7412, 7412), (7415, 7417), (7468, 7530), (7579, 7614), (7620, 7631),
   (7669, 7679), (8125, 8125), (8127, 8129), (8141, 8143), (8157, 8159), (8173, 8175), (8189, 8190),
   (11503, 11505), (11823, 11823), (12330, 12335), (12441, 12444), (12540, 12540), (42607, 42607),
   (42620, 42621), (42623, 42623), (42652, 42653), (42736, 42737), (42752, 42785), (42888, 42890),
   (43000, 43001), (43014, 43014), (43052, 43052), (43204, 43204), (43232, 43249), (43307, 43310),
   (43347, 43347), (43443, 43443), (43456, 43456), (43493, 43493), (43643, 43645), (43711, 43714),
   (43766, 43766), (43867, 43871), (43881, 43883), (44012, 44013), (64286, 64286), (65056, 65071),
   (65342, 65342), (65344, 65344), (65392, 65392), (65438, 65439), (65507, 65507), (66272, 66272),
   (67456, 67461), (67463, 67504), (67506, 67514), (68152, 68154), (68159, 68159), (68325, 68326),
   (68898, 68903), (68942, 68942), (68969, 68973), (69373, 69375), (69446, 69456), (69506, 69509),
   (69702, 69702), (69744, 69744), (69817, 69818), (69939, 69940), (70003, 70003), (70080, 70080),
   (70090, 70092), (70197, 70198), (70377, 70378), (70459, 70460), (70477, 70477), (70502, 70508),
   (70512, 70516), (70606, 70608), (70610, 70611), (70625, 70626), (70722, 70722), (70726, 70726),
   (70850, 70851), (71103, 71104), (71231, 71231), (71350, 71351), (71467, 71467), (71737, 71738),
   (71997, 71998), (72003, 72003), (72160, 72160), (72244, 72244), (72263, 72263), (72345, 72345),
   (72767, 72767), (73026, 73026), (73028, 73029), (73111, 73111), (73537, 73538), (73562, 73562),
   (78919, 78933), (90415, 90415), (92912, 92916), (92976, 92982), (93547, 93548), (94095, 94111),
   (94192, 94193), (110576, 110579), (110581, 110587), (110589, 110590), (118528, 118573),
   (118576, 118598), (119143, 119145), (119149, 119154), (119163, 119170), (119173, 119179),
   (119210, 119213), (122928, 122989), (123184, 123190), (123566, 123566), (123628, 123631),
   (124398, 124399), (125136, 125142), (125252, 125254), (125256, 125258)]

def extender : CodePoints :=
  [(183, 183), (720, 721), (1600, 1600), (2042, 2042), (2673, 2673), (2811, 2811), (2901, 2901),
   (3654, 3654), (3782, 3782), (6154, 6154), (6211, 6211), (6823, 6823), (7222, 7222), (7291, 7291),
   (12293, 12293), (12337, 12341), (12445, 12446), (12540, 12542), (40981, 40981), (42508, 42508),
   (43471, 43471), (43494, 43494), (43632, 43632), (43741, 43741), (43763, 43764), (65392, 65392),
   (67457, 67458), (68942, 68942), (68970, 68970), (68975, 68975), (70199, 70199), (70493, 70493),
   (70610, 70611), (71110, 71112), (72344, 72344), (92994, 92995), (94176, 94177), (94179, 94179),
   (123196, 123197), (124399, 124399), (125252, 125254)]

def graphemeLink : CodePoints :=
  [(2381, 2381), (2509, 2509), (2637, 2637), (2765, 2765), (2893, 2893), (3021, 3021), (3149, 3149),
   (3277, 3277), (3387, 3388), (3405, 3405), (3530, 3530), (3642, 3642), (3770, 3770), (3972, 3972),
   (4153, 4154), (5908, 5909), (5940, 5940), (6098, 6098), (6752, 6752), (6980, 6980), (7082, 7083),
   (7154, 7155), (11647, 11647), (43014, 43014), (43052, 43052), (43204, 43204), (43347, 43347),
   (43456, 43456), (43766, 43766), (44013, 44013), (68159, 68159), (69702, 69702), (69744, 69744),
   (69759, 69759), (69817, 69817), (69939, 69940), (70080, 70080), (70197, 70197), (70378, 70378),
   (70477, 70477), (70606, 70608), (70722, 70722), (70850, 70850), (71103, 71103), (71231, 71231),
   (71350, 71350), (71467, 71467), (71737, 71737), (71997, 71998), (72160, 72160), (72244, 72244),
   (72263, 72263), (72345, 72345), (72767, 72767), (73028, 73029), (73111, 73111), (73537, 73538),
   (90415, 90415)]

def hexDigit : CodePoints :=
  [(48, 57), (65, 70), (97, 102), (65296, 65305), (65313, 65318), (65345, 65350)]

def hyphen : CodePoints :=
  [(45, 45), (173, 173), (1418, 1418), (6150, 6150), (8208, 8209), (11799, 11799), (12539, 12539),
   (65123, 65123), (65293, 65293), (65381, 65381)]

def idCompatMathContinue : CodePoints :=
  [(178, 179), (185, 185), (8304, 8304), (8308, 8318), (8320, 8334), (8706, 8706), (8711, 8711),
   (8734, 8734), (120513, 120513), (120539, 120539), (120571, 120571), (120597, 120597),
   (120629, 120629), (120655, 120655), (120687, 120687), (120713, 120713), (120745, 120745),
   (120771, 120771)]

def idCompatMathStart : CodePoints :=
  [(8706, 8706), (8711, 8711), (8734, 8734), (120513, 120513), (120539, 120539), (120571, 120571),
   (120597, 120597), (120629, 120629), (120655, 120655), (120687, 120687), (120713, 120713),
   (120745, 120745), (120771, 120771)]

def idsBinaryOperator : CodePoints := [(12272, 12273), (12276, 12285), (12783, 12783)]

def idsTrinaryOperator : CodePoints := [(12274, 12275)]

def idsUnaryOperator : CodePoints := [(12286, 12287)]

def ideographic : CodePoints :=
  [(12294, 12295), (12321, 12329), (12344, 12346), (13312, 19903), (19968, 40959), (63744, 64109),
   (64112, 64217), (94180, 94180), (94208, 100343), (100352, 101589), (101631, 101640),
   (110960, 111355), (131072, 173791), (173824, 177977), (177984, 178205), (178208, 183969),
   (183984, 191456), (191472, 192093), (194560, 195101), (196608, 201546), (201552, 205743)]

def joinControl : CodePoints := [(8204, 8205)]

def logicalOrderException : CodePoints :=
  [(3648, 3652), (3776, 3780), (6581, 6583), (6586, 6586), (43701, 43702), (43705, 43705),
   (43707, 43708)]

def modifierCombiningMark : CodePoints :=
  [(1620, 1621), (1624, 1624), (1756, 1756), (1763, 1763), (1767, 1768), (2250, 2251), (2253, 2255),
   (2259, 2259), (2291, 2291)]

def noncharacterCodePoint : CodePoints :=
  [(64976, 65007), (65534, 65535), (131070, 131071), (196606, 196607), (262142, 262143),
   (327678, 327679), (393214, 393215), (458750, 458751), (524286, 524287), (589822, 589823),
   (655358, 655359), (720894, 720895), (786430, 786431), (851966, 851967), (917502, 917503),
   (983038, 983039), (1048574, 1048575), (1114110, 1114111)]

def patternSyntax : CodePoints :=
  [(33, 47), (58, 64), (91, 94), (96, 96), (123, 126), (161, 167), (169, 169), (171, 172),
   (174, 174), (176, 177), (182, 182), (187, 187), (191, 191), (215, 215), (247, 247), (8208, 8231),
   (8240, 8254), (8257, 8275), (8277, 8286), (8592, 9311), (9472, 10101), (10132, 11263),
   (11776, 11903), (12289, 12291), (12296, 12320), (12336, 12336), (64830, 64831), (65093, 65094)]

def patternWhiteSpace : CodePoints := [(9, 13), (32, 32), (133, 133), (8206, 8207), (8232, 8233)]

def prependedConcatenationMark : CodePoints :=
  [(1536, 1541), (1757, 1757), (1807, 1807), (2192, 2193), (2274, 2274), (69821, 69821),
   (69837, 69837)]

def quotationMark : CodePoints :=
  [(34, 34), (39, 39), (171, 171), (187, 187), (8216, 8223), (8249, 8250), (11842, 11842),
   (12300, 12303), (12317, 12319), (65089, 65092), (65282, 65282), (65287, 65287), (65378, 65379)]

def radical : CodePoints := [(11904, 11929), (11931, 12019), (12032, 12245)]

def regionalIndicator : CodePoints := [(127462, 127487)]

def sentenceTerminal : CodePoints :=
  [(33, 33), (46, 46), (63, 63), (1417, 1417), (1565, 1567), (1748, 1748), (1792, 1794),
   (2041, 2041), (2103, 2103), (2105, 2105), (2109, 2110), (2404, 2405), (4170, 4171), (4962, 4962),
   (4967, 4968), (5742, 5742), (5941, 5942), (6100, 6101), (6147, 6147), (6153, 6153), (6468, 6469),
   (6824, 6827), (6990, 6991), (7002, 7003), (7006, 7007), (7037, 7039), (7227, 7228), (7294, 7295),
   (8228, 8228), (8252, 8253), (8263, 8265), (11513, 11515), (11822, 11822), (11836, 11836),
   (11859, 11860), (12290, 12290), (42239, 42239), (42510, 42511), (42739, 42739), (42743, 42743),
   (43126, 43127), (43214, 43215), (43311, 43311), (43464, 43465), (43613, 43615), (43760, 43761),
   (44011, 44011), (65042, 65042), (65045, 65046), (65106, 65106), (65110, 65111), (65281, 65281),
   (65294, 65294), (65311, 65311), (65377, 65377), (68182, 68183), (69461, 69465), (69510, 69513),
   (69703, 69704), (69822, 69825), (69953, 69955), (70085, 70086), (70093, 70093), (70110, 70111),
   (70200, 70201), (70203, 70204), (70313, 70313), (70612, 70613), (70731, 70732), (71106, 71107),
   (71113, 71127), (71233, 71234), (71484, 71486), (72004, 72004), (72006, 72006), (72258, 72259),
   (72347, 72348), (72769, 72770), (73463, 73464), (73539, 73540), (92782, 92783), (92917, 92917),
   (92983, 92984), (92996, 92996), (93550, 93551), (93848, 93848), (113823, 113823),
   (121480, 121480)]

def softDotted : CodePoints :=
  [(105, 106), (303, 303), (585, 585), (616, 616), (669, 669), (690, 690), (1011, 1011),
   (1110, 1110), (1112, 1112), (7522, 7522), (7574, 7574), (7588, 7588), (7592, 7592), (7725, 7725),
   (7883, 7883), (8305, 8305), (8520, 8521), (11388, 11388), (119842, 119843), (119894, 119895),
   (119946, 119947), (119998, 119999), (120050, 120051), (120102, 120103), (120154, 120155),
   (120206, 120207), (120258, 120259), (120310, 120311), (120362, 120363), (120414, 120415),
   (120466, 120467), (122650, 122650), (122956, 122957), (122984, 122984)]

def terminalPunctuation : CodePoints :=
  [(33, 33), (44, 44), (46, 46), (58, 59), (63, 63), (894, 894), (903, 903), (1417, 1417),
   (1475, 1475), (1548, 1548), (1563, 1563), (1565, 1567), (1748, 1748), (1792, 1802), (1804, 1804),
   (2040, 2041), (2096, 2101), (2103, 2110), (2142, 2142), (2404, 2405), (3674, 3675), (3848, 3848),
   (3853, 3858), (4170, 4171), (4961, 4968), (5742, 5742), (5867, 5869), (5941, 5942), (6100, 6102),
   (6106, 6106), (6146, 6149), (6152, 6153), (6468, 6469), (6824, 6827), (6990, 6991), (7002, 7003),
   (7005, 7007), (7037, 7039), (7227, 7231), (7294, 7295), (8228, 8228), (8252, 8253), (8263, 8265),
   (11513, 11515), (11822, 11822), (11836, 11836), (11841, 11841), (11852, 11852), (11854, 11855),
   (11859, 11860), (12289, 12290), (42238, 42239), (42509, 42511), (42739, 42743), (43126, 43127),
   (43214, 43215), (43311, 43311), (43463, 43465), (43613, 43615), (43743, 43743), (43760, 43761),
   (44011, 44011), (65042, 65042), (65045, 65046), (65104, 65106), (65108, 65111), (65281, 65281),
   (65292, 65292), (65294, 65294), (65306, 65307), (65311, 65311), (65377, 65377), (65380, 65380),
   (66463, 66463), (66512, 66512), (67671, 67671), (67871, 67871), (68182, 68183), (68336, 68341),
   (68410, 68415), (68505, 68508), (69461, 69465), (69510, 69513), (69703, 69709), (69822, 69825),
   (69953, 69955), (70085, 70086), (70093, 70093), (70110, 70111), (70200, 70204), (70313, 70313),
   (70612, 70613), (70731, 70733), (70746, 70747), (71106, 71109), (71113, 71127), (71233, 71234),
   (71484, 71486), (72004, 72004), (72006, 72006), (72258, 72259), (72347, 72348), (72353, 72354),
   (72769, 72771), (72817, 72817), (73463, 73464), (73539, 73540), (74864, 74868), (92782, 92783),
   (92917, 92917), (92983, 92985), (92996, 92996), (93550, 93551), (93847, 93848), (113823, 113823),
   (121479, 121482)]

def unifiedIdeograph : CodePoints :=
  [(13312, 19903), (19968, 40959), (64014, 64015), (64017, 64017), (64019, 64020), (64031, 64031),
   (64033, 64033), (64035, 64036), (64039, 64041), (131072, 173791), (173824, 177977),
   (177984, 178205), (178208, 183969), (183984, 191456), (191472, 192093), (196608, 201546),
   (201552, 205743)]

def variationSelector : CodePoints := [(6155, 6157), (6159, 6159), (65024, 65039), (917760, 917999)]

end ChannelRules.Text.Property
