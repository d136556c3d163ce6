import ChannelRules.Text.CodePoints

/-!
# Sets of characters as byte sequences

The characters of a set, encoded as UTF-8, form sequences of byte ranges: a sequence stands for all
encodings that take their first byte from its first range, their second byte from its second, and
so on.
-/

namespace ChannelRules.Text

/-- Closed ranges of bytes, one after the other. -/
abbrev ByteRanges := List (Nat × Nat)

namespace ByteRanges

/-- The bytes that encode a code point. -/
def encode (n : Nat) : List Nat :=
  if n < 0x80 then [n]
  else if n < 0x800 then [0xc0 + n / 0x40, 0x80 + n % 0x40]
  else if n < 0x10000 then [0xe0 + n / 0x1000, 0x80 + n / 0x40 % 0x40, 0x80 + n % 0x40]
  else [0xf0 + n / 0x40000, 0x80 + n / 0x1000 % 0x40, 0x80 + n / 0x40 % 0x40, 0x80 + n % 0x40]

/-- Cut a range of code points at multiples of some units, smallest first, so that in each piece
the last bytes either all agree or run through all their values. -/
def cut (a b : Nat) : List Nat → List (Nat × Nat)
  | [] => [(a, b)]
  | unit :: larger =>
    if a / unit = b / unit then [(a, b)]
    else
      let first := (a + unit - 1) / unit * unit
      let last := (b + 1) / unit * unit
      (if a < first then [(a, first - 1)] else []) ++
        (if first < last then cut first (last - 1) larger else []) ++
        (if last ≤ b then [(last, b)] else [])

/-- The code points that are encoded in the same number of bytes, without the surrogates. -/
def lengths : List (Nat × Nat) :=
  [(0x80, 0x7ff), (0x800, 0xd7ff), (0xe000, 0xffff), (0x10000, 0x10ffff)]

/-- The sequences of a range of code points. -/
def ofRange (range : Nat × Nat) : List ByteRanges :=
  let ascii := if range.1 < 0x80 then [[(range.1, min range.2 0x7f)]] else []
  ascii ++ lengths.flatMap fun (least, most) =>
    let a := max range.1 least
    let b := min range.2 most
    if a ≤ b then (cut a b [0x40, 0x1000, 0x40000]).map fun piece =>
      (encode piece.1).zip (encode piece.2)
    else []

/-- The sequences of a set, in increasing order. -/
def ofCodePoints (s : CodePoints) : List ByteRanges := s.flatMap ofRange

end ByteRanges

end ChannelRules.Text
