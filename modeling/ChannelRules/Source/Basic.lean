import ChannelRules.Value.Text

/-!
# Programs

A program declares keywords, compute modules, rules and commands. A rule runs when its trigger
fires; a command runs at once. Both go on with queries and end in actions. Triggers, queries and
actions are sequences of parts that invoke channels, bind names and state conditions.
-/

namespace ChannelRules

/-- The three sorts of channels of a device. -/
inductive Section where
  | triggers
  | queries
  | actions
  deriving DecidableEq, Repr

def Section.text : Section → String
  | triggers => "triggers"
  | queries => "queries"
  | actions => "actions"

/-- A property that a device has to have. -/
structure Attribute where
  name : String
  value : Value

/-- How an invocation names the device it talks to. -/
inductive Selector where
  | globalName (name : String)
  | attributes (attrs : List Attribute)
  | builtin
  /-- The keywords of a compute module. -/
  | computeModule (name : String)
  | id (name : String)
  | any

namespace Selector

def builtinKind : String := "org.thingpedia.builtin"

/-- The kind of device whose schemas describe the channels. -/
def kind? : Selector → Option String
  | globalName name => some name
  | id name => some name
  | computeModule name => some name
  | attributes attrs =>
    (attrs.find? fun attr => attr.name == "type").bind fun attr => attr.value.asText
  | builtin => some builtinKind
  | any => none

/-- Whether the kind has to be fetched from the schema store. -/
def isRemote : Selector → Bool
  | builtin => false
  | computeModule _ => false
  | any => false
  | _ => true

def inspect : Selector → String
  | globalName name => "GlobalName(" ++ Text.quoted name ++ ")"
  | attributes attrs =>
    "Attributes([" ++ String.intercalate ", " (attrs.map fun attr =>
      "Attribute \x7b name: " ++ Text.quoted attr.name ++ ", value: " ++ attr.value.inspect ++
        " \x7d")
      ++ "])"
  | builtin => "Builtin"
  | computeModule name => "ComputeModule(" ++ Text.quoted name ++ ")"
  | id name => "Id(" ++ Text.quoted name ++ ")"
  | any => "Any"

end Selector

namespace Source

/-- Expressions, before their types are known. -/
inductive Expr where
  /-- A parameter that is left open. -/
  | null
  | constant (value : Value)
  | var (name : String)
  | member (object : Expr) (name : String)
  | call (function : String) (args : List Expr)
  | unary (op : String) (arg : Expr)
  | binary (op : String) (lhs rhs : Expr)
  | tuple (items : List Expr)
  | array (items : List Expr)
  deriving Inhabited

/-- The use of a channel. -/
structure Invocation where
  selector : Selector
  channel : String
  params : List Expr

/-- One part of a trigger, a query or a sequence of actions. -/
inductive Part where
  | invocation (invocation : Invocation)
  | binding (name : String) (expr : Expr)
  | predicate (expr : Expr)
  | condition (expr : Expr)

/-- One statement of a program. -/
inductive Statement where
  | computeModule (name : String) (statements : List Statement)
  /-- The declaration of a keyword. -/
  | keyword (name : String) (ty : Ty)
  | rule (trigger : List Part) (queries : List (List Part)) (actions : List Part)
  | command (queries : List (List Part)) (actions : List Part)
  deriving Inhabited

/-- A program with its parameters. -/
structure Program where
  name : String
  params : List (String × Ty)
  statements : List Statement

end Source

end ChannelRules
