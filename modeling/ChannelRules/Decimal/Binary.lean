/-!
# The exact value of a double

A finite double is a signed integer times a power of two. Everything that has to be exact (decimal
digits, truncation, remainders) is computed on that integer and that power.
-/

namespace ChannelRules.Decimal

/-- The exact value of a finite double: `mantissa * 2 ^ exponent`, negated when `negative`. -/
structure Binary where
  negative : Bool
  mantissa : Nat
  exponent : Int
  deriving DecidableEq, Repr

/-- Read the fields of a double. There is no value for an infinity or a NaN. -/
def Binary.ofFloat? (x : Float) : Option Binary :=
  let bits : Nat := x.toBits.toNat
  let fraction : Nat := bits % Nat.pow 2 52
  let scale : Nat := bits / Nat.pow 2 52 % Nat.pow 2 11
  let negative := decide (Nat.pow 2 63 ≤ bits)
  if scale = 2047 then none
  else if scale = 0 then some ⟨negative, fraction, -1074⟩
  else some ⟨negative, fraction + Nat.pow 2 52, (scale : Int) - 1075⟩

/-- The double that a value stands for, if the mantissa fits. -/
def Binary.toFloat (b : Binary) : Float :=
  let magnitude := (Float.ofNat b.mantissa).scaleB b.exponent
  if b.negative then -magnitude else magnitude

namespace Binary

/-- The part of the magnitude before the binary point. -/
def floorAbs (b : Binary) : Nat :=
  if 0 ≤ b.exponent then b.mantissa * Nat.pow 2 b.exponent.toNat
  else b.mantissa / Nat.pow 2 (-b.exponent).toNat

/-- The value without its fraction. -/
def truncate (b : Binary) : Int :=
  if b.negative then -(b.floorAbs : Int) else b.floorAbs

/-- Whether the value is an integer. -/
def isIntegral (b : Binary) : Bool :=
  decide (0 ≤ b.exponent) || b.mantissa % Nat.pow 2 (-b.exponent).toNat == 0

/-- The magnitude as a quotient of natural numbers. -/
def ratio (b : Binary) : Nat × Nat :=
  if 0 ≤ b.exponent then (b.mantissa * Nat.pow 2 b.exponent.toNat, 1)
  else (b.mantissa, Nat.pow 2 (-b.exponent).toNat)

/-- The remainder of a division whose quotient is cut to an integer. It has the sign of the
dividend, also when it is zero. -/
def remainder (a b : Binary) : Binary :=
  let exponent := min a.exponent b.exponent
  let x := a.mantissa * Nat.pow 2 (a.exponent - exponent).toNat
  let y := b.mantissa * Nat.pow 2 (b.exponent - exponent).toNat
  ⟨a.negative, x % y, exponent⟩

end Binary

/-- A double cut to an integer between two bounds: values beyond a bound, also infinite ones, give
the bound, and a NaN gives zero. -/
def clampInt (low high : Int) (x : Float) : Int :=
  match Binary.ofFloat? x with
  | some b => max low (min high b.truncate)
  | none => if x.isNaN then 0 else if 0 < x then high else low

/-- The remainder of two doubles. An infinite divisor leaves the dividend as it is; a NaN or an
infinite dividend has no remainder. -/
def remainder (x y : Float) : Float :=
  match Binary.ofFloat? x, Binary.ofFloat? y with
  | some a, some b => if b.mantissa = 0 then 0.0 / 0.0 else (a.remainder b).toFloat
  | some _, none => if y.isNaN then y else x
  | none, _ => 0.0 / 0.0

end ChannelRules.Decimal
