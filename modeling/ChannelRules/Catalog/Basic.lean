import ChannelRules.Source.Basic

/-!
# Channel schemas

A kind of device has channels in three sections; each channel has parameters with names and types.
The builtin device has a few channels of its own.
-/

namespace ChannelRules

/-- The parameters of a channel, and texts about it. -/
structure ChannelMeta where
  args : List String
  types : List Ty
  doc : String
  confirmation : String
  canonical : String
  deriving DecidableEq

/-- All channels of a kind. -/
structure KindSchemas where
  triggers : Named ChannelMeta
  queries : Named ChannelMeta
  actions : Named ChannelMeta
  deriving DecidableEq

/-- Why a schema is not available. -/
inductive SchemaError where
  | unknownKind (kind : String)
  | unknownChannel (kind : String) (sort : Section) (name : String)
  /-- The schema store failed. -/
  | client (reason : String)
  | cancelled
  deriving DecidableEq

def SchemaError.message : SchemaError → String
  | unknownKind kind => "Unknown kind: " ++ kind
  | unknownChannel kind sort name =>
    "Unknown channel " ++ kind ++ "." ++ name ++ " in " ++ sort.text
  | client reason => "Schema client error: " ++ reason
  | cancelled => "Schema request was cancelled"

namespace KindSchemas

def channels (schemas : KindSchemas) : Section → Named ChannelMeta
  | .triggers => schemas.triggers
  | .queries => schemas.queries
  | .actions => schemas.actions

def channel (schemas : KindSchemas) (kind : String) (sort : Section) (name : String) :
    Except SchemaError ChannelMeta :=
  match Named.get? (schemas.channels sort) name with
  | some channel => .ok channel
  | none => .error (.unknownChannel kind sort name)

end KindSchemas

/-- A channel of the builtin device. -/
structure BuiltinChannel where
  sort : Section
  name : String
  args : List String
  types : List Ty

namespace BuiltinChannel

def all : List BuiltinChannel :=
  [ ⟨.triggers, "timer", ["interval"], [.measure "ms"]⟩,
    ⟨.triggers, "at", ["time"], [.time]⟩,
    ⟨.actions, "notify", [], []⟩,
    ⟨.actions, "return", [], []⟩,
    ⟨.actions, "logger", ["message"], [.string]⟩ ]

/-- A channel of the builtin device, by section and name. -/
def find? (sort : Section) (name : String) : Option BuiltinChannel :=
  all.find? fun channel => channel.sort == sort && channel.name == name

end BuiltinChannel

/-- One channel of one device, as an invocation refers to it. -/
structure ChannelRef where
  selector : Selector
  kind : String
  channel : String
  sort : Section

/-- How messages name a channel. -/
def ChannelRef.text (ref : ChannelRef) : String := "@" ++ ref.kind ++ "." ++ ref.channel

end ChannelRules
