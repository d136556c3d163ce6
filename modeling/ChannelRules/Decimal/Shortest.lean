import ChannelRules.Decimal.Binary

/-!
# The fewest digits that read back

Of the decimals that round to a given double, the shortest are those with the fewest significant
digits, and of those the nearest one is taken; the upper one when two are equally near. The search
goes through the grids of one, two, … digits and tests the two neighbours of the value on each,
in exact arithmetic.
-/

namespace ChannelRules.Decimal

/-- Decimal digits of a positive number: the value is `0.d₁d₂… * 10 ^ point`. -/
structure Digits where
  digits : List Nat
  point : Int
  deriving DecidableEq, Repr

/-- The digits of a natural number, most significant first; none for zero. -/
def natDigits (n : Nat) : List Nat :=
  if n = 0 then [] else (Nat.toDigits 10 n).map fun c => c.toNat - 48

/-- Quotients are compared by cross multiplication: `a / b ≤ c / d`. -/
def ratioLe (a b c d : Nat) : Bool := decide (a * d ≤ c * b)

/-- Strictly smaller quotients. -/
def ratioLt (a b c d : Nat) : Bool := decide (a * d < c * b)

/-- The numbers that round to a double lie between two bounds, which belong to them when the
mantissa is even. Bounds are numerators over a common denominator. -/
structure Rounding where
  low : Nat
  value : Nat
  high : Nat
  denominator : Nat
  closed : Bool

/-- The numbers that round to a positive double. Just below a power of two the doubles are closer
to each other than above it. -/
def Rounding.ofBinary (b : Binary) : Rounding :=
  let (numerator, denominator) := b.ratio
  -- a quarter of the distance to the next double is `unit / (4 * denominator)`
  let unit := if 0 ≤ b.exponent then Nat.pow 2 b.exponent.toNat else 1
  let below := if b.mantissa = Nat.pow 2 52 ∧ -1074 < b.exponent then unit else 2 * unit
  { low := 4 * numerator - below
    value := 4 * numerator
    high := 4 * numerator + 2 * unit
    denominator := 4 * denominator
    closed := b.mantissa % 2 == 0 }

/-- Whether `n / d` rounds to the double. -/
def Rounding.holds (r : Rounding) (n d : Nat) : Bool :=
  if r.closed then ratioLe r.low r.denominator n d && ratioLe n d r.high r.denominator
  else ratioLt r.low r.denominator n d && ratioLt n d r.high r.denominator

/-- The power of ten as a quotient. -/
def tenTo (k : Int) : Nat × Nat :=
  if 0 ≤ k then (Nat.pow 10 k.toNat, 1) else (1, Nat.pow 10 (-k).toNat)

/-- The nearest multiple of `10 ^ k` that rounds to the double, of the two that enclose it, as the
factor of `10 ^ k`. -/
def Rounding.onGrid (r : Rounding) (k : Int) : Option Nat :=
  let (up, down) := tenTo k
  let num := r.value * down
  let den := r.denominator * up
  let below := num / den
  let above := below + 1
  let lowHit := r.holds (below * up) down
  let highHit := r.holds (above * up) down
  -- the upper neighbour is at least as near when the remainder is half a step or more
  let upperNearer := decide (den ≤ 2 * (num % den))
  match lowHit, highHit with
  | true, true => some (if upperNearer then above else below)
  | true, false => some below
  | false, true => some above
  | false, false => none

/-- The number of digits before the decimal point of a positive quotient; zero or negative when
the quotient is below one. -/
def decimalPoint (num den : Nat) : Int :=
  let guess : Int := ((natDigits num).length : Int) - (natDigits den).length
  let (up, down) := tenTo guess
  if ratioLe up down num den then guess + 1 else guess

/-- Try the grids from `count` digits on, for `fuel` more digits. -/
def Rounding.search (r : Rounding) (point : Int) : Nat → Nat → Option Digits
  | 0, _ => none
  | fuel + 1, count =>
    match r.onGrid (point - count) with
    | some factor =>
      let ds := natDigits factor
      -- a factor of one digit more is a power of ten, rounded up
      some ⟨(ds.reverse.dropWhile (· == 0)).reverse, point + ((ds.length : Int) - count)⟩
    | none => r.search point fuel (count + 1)

/-- The shortest digits of a positive double. Seventeen always suffice. -/
def shortest (b : Binary) : Digits :=
  let r := Rounding.ofBinary b
  let point := decimalPoint r.value r.denominator
  (r.search point 17 1).getD ⟨[0], 1⟩

end ChannelRules.Decimal
