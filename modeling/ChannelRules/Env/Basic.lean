import ChannelRules.Catalog.Basic
import ChannelRules.Env.Eval
import ChannelRules.Settings

/-!
# Environments

The state of one activation: one firing of a trigger or one run of a command. Variables are local
to an environment and hide program parameters of the same name. The keyword cells outlive an
activation and belong to no environment; they can be written only with write access.

What a formatter does is not known here: it is a computation, given the event, the hint and what
can be seen of the environment. One that formats through others is a function of them.
-/

namespace ChannelRules

/-- The values of one firing of a trigger or of one query result. -/
structure Frame where
  channel : ChannelRef
  values : List Value

def Frame.get (frame : Frame) (index : Nat) : Except RuntimeError Value :=
  match frame.values[index]? with
  | some value => .ok value
  | none => .error (.missingEventProperty frame.channel.text index)

/-- A piece of a formatted event. -/
inductive Chunk where
  | text (text : String)
  | picture (url : String)
  | link (title callback : String)

/-- How a formatted event is going to be shown. -/
inductive FormatHint where
  /-- One text. -/
  | string
  /-- Separate messages. -/
  | messaging
  deriving DecidableEq

/-- The state of one activation, as formatters see it. -/
structure View where
  locale : String
  /-- Seconds east of UTC. -/
  offset : Int
  params : Named Value
  /-- Whether keyword cells may be written. -/
  writable : Bool
  locals : Named Value
  trigger : Option Frame
  query : Option Frame
  queryInput : Option (List Value)

/-- How the events of a kind are formatted. -/
abbrev Formatter := Frame → FormatHint → View → Eval (List Chunk)

/-- The state of one activation. -/
structure Env extends View where
  /-- The formatters by the kinds that they are for. -/
  formatters : Named Formatter

namespace View

/-- The value of a variable or a parameter. -/
def readVar (view : View) (name : String) : Except RuntimeError Value :=
  match Named.get? view.locals name with
  | some value => .ok value
  | none =>
    match Named.get? view.params name with
    | some value => .ok value
    | none => .error (.unknownVariable name)

/-- Set a keyword cell, with write access. -/
def writeKeyword (view : View) (cell : String) (value : Value) : Eval PUnit :=
  if view.writable then Eval.writeCell cell value
  else throw (.readOnlyKeyword cell)

/-- The latest event: the query result, or else the event of the trigger. -/
def currentEvent (view : View) : Except RuntimeError Frame :=
  match view.query, view.trigger with
  | some frame, _ => .ok frame
  | none, some frame => .ok frame
  | none, none => .error .noEvent

end View

namespace Env

/-- An environment without variables and events. -/
def ofSettings (settings : Settings) : Env :=
  { locale := settings.locale
    offset := settings.offsetSeconds
    params := []
    writable := false
    locals := []
    trigger := none
    query := none
    queryInput := none
    formatters := [] }

def setVar (env : Env) (name : String) (value : Value) : Env :=
  { env with locals := Named.insert env.locals name value }

/-- Forget all variables. -/
def resetLocals (env : Env) : Env := { env with locals := [] }

def setTrigger (env : Env) (frame : Frame) : Env := { env with trigger := some frame }

/-- Set a query result, with the inputs of the query. -/
def setQuery (env : Env) (input : List Value) (frame : Frame) : Env :=
  { env with query := some frame, queryInput := some input }

/-- Forget the query result. -/
def clearQuery (env : Env) : Env := { env with query := none, queryInput := none }

end Env

end ChannelRules
