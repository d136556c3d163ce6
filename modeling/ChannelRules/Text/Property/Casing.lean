import ChannelRules.Text.CodePoints

namespace ChannelRules.Text.Property

def changesWhenCasemapped : CodePoints :=
  [(65, 90), (97, 122), (181, 181), (192, 214), (216, 246), (248, 311), (313, 396), (398, 425),
   (428, 441), (444, 445), (447, 447), (452, 544), (546, 563), (570, 596), (598, 599), (601, 601),
   (603, 604), (608, 609), (611, 614), (616, 620), (623, 623), (625, 626), (629, 629), (637, 637),
   (640, 640), (642, 643), (647, 652), (658, 658), (669, 670), (837, 837), (880, 883), (886, 887),
   (891, 893), (895, 895), (902, 902), (904, 906), (908, 908), (910, 929), (931, 977), (981, 1013),
   (1015, 1019), (1021, 1153), (1162, 1327), (1329, 1366), (1377, 1415), (4256, 4293), (4295, 4295),
   (4301, 4301), (4304, 4346), (4349, 4351), (5024, 5109), (5112, 5117), (7296, 7306), (7312, 7354),
   (7357, 7359), (7545, 7545), (7549, 7549), (7566, 7566), (7680, 7835), (7838, 7838), (7840, 7957),
   (7960, 7965), (7968, 8005), (8008, 8013), (8016, 8023), (8025, 8025), (8027, 8027), (8029, 8029),
   (8031, 8061), (8064, 8116), (8118, 8124), (8126, 8126), (8130, 8132), (8134, 8140), (8144, 8147),
   (8150, 8155), (8160, 8172), (8178, 8180), (8182, 8188), (8486, 8486), (8490, 8491), (8498, 8498),
   (8526, 8526), (8544, 8575), (8579, 8580), (9398, 9449), (11264, 11376), (11378, 11379),
   (11381, 11382), (11390, 11491), (11499, 11502), (11506, 11507), (11520, 11557), (11559, 11559),
   (11565, 11565), (42560, 42605), (42624, 42651), (42786, 42799), (42802, 42863), (42873, 42887),
   (42891, 42893), (42896, 42900), (42902, 42926), (42928, 42957), (42960, 42961), (42966, 42972),
   (42997, 42998), (43859, 43859), (43888, 43967), (64256, 64262), (64275, 64279), (65313, 65338),
   (65345, 65370), (66560, 66639), (66736, 66771), (66776, 66811), (66928, 66938), (66940, 66954),
   (66956, 66962), (66964, 66965), (66967, 66977), (66979, 66993), (66995, 67001), (67003, 67004),
   (68736, 68786), (68800, 68850), (68944, 68965), (68976, 68997), (71840, 71903), (93760, 93823),
   (125184, 125251)]

def changesOnlyWhenFolded : CodePoints :=
  [(181, 181), (223, 223), (329, 329), (383, 383), (837, 837), (962, 962), (976, 977), (981, 982),
   (1008, 1009), (1013, 1013), (1415, 1415), (5112, 5117), (7296, 7304), (7834, 7835), (8064, 8071),
   (8080, 8087), (8096, 8103), (8114, 8116), (8119, 8119), (8130, 8132), (8135, 8135), (8178, 8180),
   (8183, 8183), (43888, 43967), (64256, 64262), (64275, 64279)]

end ChannelRules.Text.Property
