/-!
# Units of measure

Every unit belongs to a base unit, one for each dimension, and is converted to it by a factor or,
for temperatures, by a factor and an offset. The table lists the units in the order in which they
are shown; a symbol is looked up in that table.
-/

namespace ChannelRules

/-- The conversion of a unit to its base unit. -/
inductive Conversion where
  /-- The base amount is the amount times a factor. -/
  | linear (factor : Float)
  /-- The base amount is the amount times a factor, moved by an offset. -/
  | affine (factor offset : Float)

namespace Conversion

/-- An amount in the base unit. -/
def toBase : Conversion → Float → Float
  | linear factor, x => x * factor
  | affine factor offset, x => x * factor + offset

/-- An amount of the base unit in the unit itself. -/
def fromBase : Conversion → Float → Float
  | linear factor, x => x / factor
  | affine factor offset, x => (x - offset) / factor

end Conversion

/-- A unit: its symbol, its base unit and the conversion to it. -/
structure MeasureUnit where
  symbol : String
  base : String
  conversion : Conversion

namespace MeasureUnit

def dayMillis : Float := 86400000.0

/-- A unit that is a multiple of its base unit. -/
def multiple (symbol base : String) (factor : Float) : MeasureUnit := ⟨symbol, base, .linear factor⟩

/-- All units. A month has thirty days and a year has 365. -/
def table : List MeasureUnit :=
  [ multiple "ms" "ms" 1.0,
    multiple "s" "ms" 1000.0,
    multiple "min" "ms" 60000.0,
    multiple "h" "ms" 3600000.0,
    multiple "day" "ms" dayMillis,
    multiple "week" "ms" (7.0 * dayMillis),
    multiple "mon" "ms" (30.0 * dayMillis),
    multiple "year" "ms" (365.0 * dayMillis),
    multiple "m" "m" 1.0,
    multiple "km" "m" 1000.0,
    multiple "mm" "m" 0.001,
    multiple "cm" "m" 0.01,
    multiple "mi" "m" 1609.344,
    multiple "in" "m" 0.0254,
    multiple "ft" "m" 0.3048,
    multiple "mps" "mps" 1.0,
    multiple "kmph" "mps" 0.27777778,
    multiple "mph" "mps" 0.44704,
    multiple "kg" "kg" 1.0,
    multiple "g" "kg" 0.001,
    multiple "lb" "kg" 0.45359237,
    multiple "oz" "kg" 0.028349523,
    multiple "Pa" "Pa" 1.0,
    multiple "bar" "Pa" 100000.0,
    multiple "psi" "Pa" 6894.7573,
    multiple "mmHg" "Pa" 133.32239,
    multiple "inHg" "Pa" 3386.3886,
    multiple "atm" "Pa" 101325.0,
    multiple "C" "C" 1.0,
    ⟨"F", "C", .affine (1.0 / 1.8) (-32.0 / 1.8)⟩,
    ⟨"K", "C", .affine 1.0 (-273.15)⟩,
    multiple "kcal" "kcal" 1.0,
    multiple "kJ" "kcal" 0.239006,
    multiple "byte" "byte" 1.0,
    multiple "KB" "byte" 1000.0,
    multiple "KiB" "byte" 1024.0,
    multiple "MB" "byte" 1000000.0,
    multiple "MiB" "byte" 1048576.0,
    multiple "GB" "byte" 1000000000.0,
    multiple "GiB" "byte" 1073741824.0,
    multiple "TB" "byte" 1000000000000.0,
    multiple "TiB" "byte" 1099511627776.0 ]

def find? (symbol : String) : Option MeasureUnit := table.find? fun unit => unit.symbol == symbol

def base? (symbol : String) : Option String := (find? symbol).map MeasureUnit.base

/-- An amount of a unit, in its base unit. -/
def toBase? (x : Float) (symbol : String) : Option Float :=
  (find? symbol).map fun unit => unit.conversion.toBase x

/-- An amount of a base unit, in the given unit. -/
def fromBase? (x : Float) (symbol : String) : Option Float :=
  (find? symbol).map fun unit => unit.conversion.fromBase x

end MeasureUnit

end ChannelRules
