import ChannelRules.Text.CodePoints

namespace ChannelRules.Text

/-- The code points that edition 17 of the Unicode Character Database adds to edition 16. -/
def newest : CodePoints :=
  [(2191, 2191), (3164, 3164), (3292, 3292), (6863, 6877), (6880, 6891), (8385, 8385),
   (11158, 11158), (42958, 42959), (42962, 42962), (42964, 42964), (42993, 42993), (64451, 64466),
   (64912, 64913), (64968, 64974), (67904, 67929), (69317, 69319), (69328, 69336), (69370, 69371),
   (72544, 72551), (73136, 73179), (73184, 73193), (93856, 93880), (93883, 93907), (94194, 94198),
   (100344, 100351), (101641, 101662), (101760, 101874), (118010, 118012), (118458, 118480),
   (118496, 118512), (124608, 124638), (124640, 124661), (124670, 124671), (128728, 128728),
   (128887, 128890), (129232, 129240), (129620, 129623), (129674, 129674), (129678, 129678),
   (129736, 129736), (129741, 129741), (129770, 129770), (129775, 129775), (130042, 130042),
   (177978, 177983), (183970, 183981), (205744, 210041)]

end ChannelRules.Text
