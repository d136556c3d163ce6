import ChannelRules.Decimal.Shortest

/-!
# Numbers as text

Three ways to write a double: in full (`plain`), so that a reader of literals sees that it is a
number with a fraction (`literal`), and with a fixed number of places (`fixed`).
-/

namespace ChannelRules.Decimal

def digitText (ds : List Nat) : String :=
  String.ofList (ds.map fun d => Char.ofNat (48 + d))

def Digits.positional (d : Digits) : String :=
  let count : Int := d.digits.length
  if d.point ≤ 0 then
    "0." ++ digitText (List.replicate (-d.point).toNat 0 ++ d.digits)
  else if d.point < count then
    digitText (d.digits.take d.point.toNat) ++ "." ++ digitText (d.digits.drop d.point.toNat)
  else
    digitText (d.digits ++ List.replicate (d.point - count).toNat 0)

/-- Digits as one digit, the rest after a point, and the power of ten. -/
def Digits.scientific (d : Digits) : String :=
  let lead := digitText (d.digits.take 1)
  let rest := digitText (d.digits.drop 1)
  let mantissa := if rest.isEmpty then lead else lead ++ "." ++ rest
  mantissa ++ "e" ++ toString (d.point - 1)

/-- The text of a double that is no finite number. -/
def notFinite (x : Float) : String :=
  if x.isNaN then "NaN" else if 0 < x then "inf" else "-inf"

/-- A sign for negative values, negative zero included. -/
def signed (negative : Bool) (text : String) : String :=
  if negative then "-" ++ text else text

/-- Positional notation at every size, without a point when there is no fraction. -/
def plain (x : Float) : String :=
  match Binary.ofFloat? x with
  | none => notFinite x
  | some b => signed b.negative (if b.mantissa = 0 then "0" else (shortest b).positional)

/-- Literals always show a point or an exponent. The exponent form begins at `1e16` and below
`1e-4`. -/
def literal (x : Float) : String :=
  match Binary.ofFloat? x with
  | none => notFinite x
  | some b =>
    if b.mantissa = 0 then signed b.negative "0.0"
    else
      let d := shortest b
      let text :=
        if 16 < d.point ∨ d.point ≤ -4 then d.scientific
        else if d.digits.length ≤ d.point then d.positional ++ ".0"
        else d.positional
      signed b.negative text

/-- A quotient rounded to an integer; a half goes to the even neighbour. -/
def roundHalfEven (num den : Nat) : Nat :=
  let floor := num / den
  let twice := 2 * (num % den)
  if twice < den then floor
  else if den < twice then floor + 1
  else floor + floor % 2

/-- A fixed number of decimal places, at least one, rounded on the exact value. -/
def fixed (places : Nat) (x : Float) : String :=
  match Binary.ofFloat? x with
  | none => notFinite x
  | some b =>
    let (num, den) := b.ratio
    let scaled := roundHalfEven (num * Nat.pow 10 places) den
    let whole := toString (scaled / Nat.pow 10 places)
    let part := toString (scaled % Nat.pow 10 places)
    let zeros := String.ofList (List.replicate (places - part.length) '0')
    signed b.negative (whole ++ "." ++ zeros ++ part)

/-- Amounts: an integer of fewer than sixteen digits is written without a sign on zero and without
a fraction, everything else in full. -/
def amount (x : Float) : String :=
  match Binary.ofFloat? x with
  | some b =>
    if b.isIntegral && decide (b.floorAbs < Nat.pow 10 15) then toString b.truncate else plain x
  | none => plain x

end ChannelRules.Decimal
