import ChannelRules.Codec.Fields
import ChannelRules.Json.Reader

namespace ChannelRules

/-- The settings of the compiler. -/
structure Settings where
  /-- Milliseconds during which schema requests are collected into one call. -/
  batchWindow : Nat
  locale : String
  /-- Minutes east of UTC. -/
  offsetMinutes : Int
  logLevel : String
  deriving DecidableEq

namespace Settings

def default : Settings := ⟨0, "en-US", 0, "info"⟩

/-- Seconds east of UTC. A day or more is no offset, and UTC is taken instead. -/
def offsetSeconds (settings : Settings) : Int :=
  let seconds := settings.offsetMinutes * 60
  if -86400 < seconds ∧ seconds < 86400 then seconds else 0

/-- Read stored settings. -/
def decode (json : Json) : Option Settings := do
  let _ ← json.members?
  let batchWindow ← json.fieldOr? "schema_batch_window" default.batchWindow
    (Json.natBelow? (Nat.pow 2 64))
  let locale ← json.fieldOr? "locale" default.locale Json.string?
  let offsetMinutes ← json.fieldOr? "timezone_offset_minutes" default.offsetMinutes
    (Json.intBetween? (-2147483648) 2147483647)
  let logLevel ← json.fieldOr? "log_level" default.logLevel Json.string?
  return ⟨batchWindow, locale, offsetMinutes, logLevel⟩

def ofText? (text : String) : Option Settings := (Json.ofText? text).bind decode

/-- The stored form of settings. -/
def encode (settings : Settings) : Json :=
  .record [("schema_batch_window", .int settings.batchWindow), ("locale", .string settings.locale),
    ("timezone_offset_minutes", .int settings.offsetMinutes),
    ("log_level", .string settings.logLevel)]

end Settings

end ChannelRules
