import ChannelRules.Text.CodePoints

/-!
# Separators and controls

The code points of separators, of controls and of private use, by the Unicode Character Database,
edition 17.
-/

namespace ChannelRules.Text.Category

def spaceSeparators : CodePoints :=
  [(32, 32), (160, 160), (5760, 5760), (8192, 8202), (8239, 8239), (8287, 8287), (12288, 12288)]

def lineSeparators : CodePoints := [(8232, 8232)]

def paragraphSeparators : CodePoints := [(8233, 8233)]

def controls : CodePoints := [(0, 31), (127, 159)]

def formats : CodePoints :=
  [(173, 173), (1536, 1541), (1564, 1564), (1757, 1757), (1807, 1807), (2192, 2193), (2274, 2274),
   (6158, 6158), (8203, 8207), (8234, 8238), (8288, 8292), (8294, 8303), (65279, 65279),
   (65529, 65531), (69821, 69821), (69837, 69837), (78896, 78911), (113824, 113827),
   (119155, 119162), (917505, 917505), (917536, 917631)]

def privateUses : CodePoints := [(57344, 63743), (983040, 1048573), (1048576, 1114109)]

end ChannelRules.Text.Category
