import ChannelRules.Builtin.Overload

namespace ChannelRules

namespace Builtin

/-- A signature with a fixed number of parameters. -/
def signature (params : List Ty) (result : Ty) (native : Native) : Overload :=
  ⟨params, none, result, native⟩

def calculation (params : List Ty) (result : Ty) (op : Calculation) : Overload :=
  signature params result (.calculation op)

def measure : Ty := .measure ""

/-- An amount of time. -/
def duration : Ty := .measure "ms"

/-- The type of the items of an array. -/
def item : Ty := .var "a"

/-- The type of the keys of a map. -/
def key : Ty := .var "k"

/-- The type of the entries of a map. -/
def entry : Ty := .var "v"

/-- A test of order, for all types that have one. -/
def comparison (name : String) (op : Calculation) : Builtin :=
  ⟨name, [.number, measure, .string, .date, .time].map fun ty =>
    calculation [ty, ty] .boolean op⟩

/-- An operator on two truth values. -/
def connective (name : String) (op : Calculation) : Builtin :=
  ⟨name, [calculation [.boolean, .boolean] .boolean op]⟩

/-- The operators that stand between two operands. -/
def binaryOperators : List Builtin :=
  [ ⟨"+",
      [ calculation [.number, .number] .number .add,
        calculation [measure, measure] measure .add,
        calculation [.string, .string] .string .joinTexts,
        calculation [.date, duration] .date .dateAdd ]⟩,
    ⟨"-",
      [ calculation [.number, .number] .number .subtract,
        calculation [measure, measure] measure .subtract,
        calculation [.date, .date] duration .dateDifference,
        calculation [.date, duration] .date .dateSubtract ]⟩,
    ⟨"*",
      [ calculation [.number, .number] .number .multiply,
        calculation [measure, .number] measure .multiply,
        calculation [.number, measure] measure .multiply ]⟩,
    ⟨"/",
      [ calculation [.number, .number] .number .divide,
        calculation [measure, .number] measure .divide,
        calculation [measure, measure] .number .divide ]⟩,
    ⟨"%", [calculation [.number, .number] .number .remainder]⟩,
    ⟨"**", [calculation [.number, .number] .number .power]⟩,
    comparison ">" .greater,
    comparison "<" .less,
    comparison ">=" .atLeast,
    comparison "<=" .atMost,
    ⟨"=", [calculation [item, item] .boolean .equal]⟩,
    ⟨"!=", [calculation [item, item] .boolean .unequal]⟩,
    ⟨"=~", [calculation [.string, .string] .boolean .like]⟩,
    connective "&&" .and,
    connective "||" .or ]

/-- The operators that stand before one operand. -/
def unaryOperators : List Builtin :=
  [ ⟨"!", [calculation [.boolean] .boolean .not]⟩,
    ⟨"-",
      [ calculation [.number] .number .negate,
        calculation [measure] measure .negate ]⟩ ]

/-- A function of a list of amounts. -/
def aggregate (name : String) (op : Calculation) : Builtin :=
  ⟨name,
    [ calculation [.array .number] .number op,
      calculation [.array measure] measure op ]⟩

/-- A function from numbers to numbers. -/
def rounding (name : String) (op : Calculation) : Builtin :=
  ⟨name, [calculation [.number] .number op]⟩

def functions : List Builtin :=
  [ ⟨"regex",
      [⟨[.string, .string, .string], some .string, .boolean, .calculation .matchesPattern⟩]⟩,
    ⟨"contains",
      [ calculation [.array item, item] .boolean .arrayContains,
        calculation [.map key entry, key] .boolean .mapContains ]⟩,
    ⟨"distance", [calculation [.location, .location] (.measure "m") .distance]⟩,
    ⟨"latitude", [calculation [.location] .number .latitude]⟩,
    ⟨"longitude", [calculation [.location] .number .longitude]⟩,
    ⟨"makeDate", [calculation [.number, .number, .number] .date .makeDate]⟩,
    ⟨"makeTime", [calculation [.number, .number] .time .makeTime]⟩,
    ⟨"makeLocation", [calculation [.number, .number] .location .makeLocation]⟩,
    ⟨"makeEmailAddress",
      [calculation [.string] (.entity "tt:email_address") .makeEmailAddress]⟩,
    ⟨"makePhoneNumber",
      [calculation [.string] (.entity "tt:phone_number") .makePhoneNumber]⟩,
    ⟨"emptyMap", [calculation [] (.map key entry) .emptyMap]⟩,
    ⟨"append", [calculation [.array item, item] (.array item) .append]⟩,
    ⟨"remove",
      [ calculation [.array item, item] (.array item) .arrayRemove,
        calculation [.map key entry, key] (.map key entry) .mapRemove ]⟩,
    ⟨"insert", [calculation [.map key entry, key, entry] (.map key entry) .mapInsert]⟩,
    ⟨"lookup", [calculation [.map key entry, key] entry .mapLookup]⟩,
    ⟨"count",
      [ calculation [.array item] .number .count,
        calculation [.map key entry] .number .count ]⟩,
    ⟨"concat",
      [ calculation [.array item, .array item] (.array item) .concatArrays,
        calculation [.string, .string] .string .concatTexts ]⟩,
    aggregate "sum" .sum,
    aggregate "avg" .average,
    aggregate "max" .maximum,
    aggregate "min" .minimum,
    ⟨"choice", [signature [.array item] item (.draw .choice)]⟩,
    rounding "floor" .floor,
    rounding "ceil" .ceiling,
    rounding "round" .round,
    ⟨"random", [signature [] .number (.draw .random)]⟩,
    ⟨"now", [signature [] .date (.draw .now)]⟩,
    ⟨"toString", [signature [.any] .string (.rendering .valueText)]⟩,
    ⟨"eventToString",
      [ signature [] .string (.rendering .eventText),
        signature [.string] .string (.rendering .eventText) ]⟩,
    ⟨"formatMeasure", [signature [measure, .string] .string (.rendering .measureText)]⟩ ]

def find? (table : List Builtin) (name : String) : Option Builtin :=
  table.find? fun builtin => builtin.name == name

def binary? : String → Option Builtin := find? binaryOperators

def unary? : String → Option Builtin := find? unaryOperators

def function? : String → Option Builtin := find? functions

end Builtin

end ChannelRules
