/-!
# Sets of code points

A set of characters is given as closed intervals of code points, in increasing order. A table
module holds such lists; this module says what it means to be in one, and joins, complements and
intersects them. The results are again in increasing order, with gaps between the intervals.
-/

namespace ChannelRules

abbrev CodePoints := List (Nat × Nat)

namespace CodePoints

def holds (ranges : CodePoints) (n : Nat) : Bool :=
  ranges.any fun range => decide (range.1 ≤ n) && decide (n ≤ range.2)

/-- Whether some interval holds the character. -/
def contains (ranges : CodePoints) (c : Char) : Bool := ranges.holds c.toNat

theorem contains_iff {ranges : CodePoints} {c : Char} :
    contains ranges c = true ↔ ∃ range ∈ ranges, range.1 ≤ c.toNat ∧ c.toNat ≤ range.2 := by
  simp [contains, holds]

def isAscii (s : CodePoints) : Bool := List.all s fun range => decide (range.2 < 128)

/-- The greatest code point. -/
def greatest : Nat := 0x10ffff

def everything : CodePoints := [(0, greatest)]

/-- An interval, and others that start no earlier, with those that touch or overlap made one. -/
def joinFrom (first last : Nat) : CodePoints → CodePoints
  | [] => [(first, last)]
  | (a, b) :: rest =>
    if a ≤ last + 1 then joinFrom first (max last b) rest else (first, last) :: joinFrom a b rest

/-- Intervals in order of their starts, with those that touch or overlap made one. -/
def join : CodePoints → CodePoints
  | [] => []
  | (a, b) :: rest => joinFrom a b rest

def union (s t : CodePoints) : CodePoints := join (List.merge s t fun a b => decide (a.1 ≤ b.1))

/-- The code points from one on that a set leaves out. -/
def gapsFrom (n : Nat) : CodePoints → CodePoints
  | [] => if n ≤ greatest then [(n, greatest)] else []
  | (a, b) :: rest =>
    if n < a then (n, a - 1) :: gapsFrom (b + 1) rest else gapsFrom (max n (b + 1)) rest

/-- The code points that a set leaves out. -/
def complement (s : CodePoints) : CodePoints := gapsFrom 0 s

def inter (s t : CodePoints) : CodePoints := complement (union (complement s) (complement t))

/-- The code points of the first set that are not in the second. -/
def diff (s t : CodePoints) : CodePoints := inter s (complement t)

/-- The code points of one set but not of both. -/
def symmDiff (s t : CodePoints) : CodePoints := diff (union s t) (inter s t)

def ofList (ns : List Nat) : CodePoints := join (ns.mergeSort.map fun n => (n, n))

end CodePoints

end ChannelRules
