import ChannelRules.Codec.Value
import ChannelRules.Catalog.Basic

/-!
# Stored programs and schemas

The stored forms of selectors, expressions, parts, statements, programs and channel schemas.
Parameters of a program and everything about a channel except its types may be missing.
-/

namespace ChannelRules

open Value (tagged)

namespace Section

def decode (json : Json) : Option Section :=
  match json.variant? with
  | some ("triggers", content) => if Json.isBare content then some triggers else none
  | some ("queries", content) => if Json.isBare content then some queries else none
  | some ("actions", content) => if Json.isBare content then some actions else none
  | _ => none

def encode (sort : Section) : Json := .string sort.text

end Section

namespace Selector

def decodeAttribute (json : Json) : Option Attribute := do
  let name ← json.field? "name" Json.string?
  let value ← json.field? "value" Value.decode
  return ⟨name, value⟩

def decode (json : Json) : Option Selector := do
  let (tag, content) ← json.variant?
  match tag with
  | "GlobalName" => (content.bind Json.string?).map globalName
  | "Attributes" => (content.bind (Json.listOf? decodeAttribute)).map attributes
  | "Builtin" => if Json.isBare content then some builtin else none
  | "ComputeModule" => (content.bind Json.string?).map computeModule
  | "Id" => (content.bind Json.string?).map id
  | "Any" => if Json.isBare content then some any else none
  | _ => none

def encode (amount : Float → Json) : Selector → Json
  | globalName name => tagged "GlobalName" (.string name)
  | attributes attrs =>
    tagged "Attributes" (.array (attrs.map fun attr =>
      .record [("name", .string attr.name), ("value", attr.value.encode amount)]))
  | builtin => .string "Builtin"
  | computeModule name => tagged "ComputeModule" (.string name)
  | id name => tagged "Id" (.string name)
  | any => .string "Any"

end Selector

namespace Source

namespace Expr

/-- Read an expression that is nested at most so deep. -/
def decodeWith : Nat → Json → Option Expr
  | 0, _ => none
  | fuel + 1, json => do
    let (tag, content) ← json.variant?
    if tag = "Null" then if Json.isBare content then some null else none
    else
      let body ← content
      match tag with
      | "Constant" => (Value.decode body).map constant
      | "VarRef" => (body.string?).map var
      | "MemberRef" => do
        let object ← body.field? "object" (decodeWith fuel)
        let name ← body.field? "name" Json.string?
        return member object name
      | "FunctionCall" => do
        let name ← body.field? "name" Json.string?
        let args ← body.field? "args" (Json.listOf? (decodeWith fuel))
        return call name args
      | "UnaryOp" => do
        let arg ← body.field? "arg" (decodeWith fuel)
        let op ← body.field? "opcode" Json.string?
        return unary op arg
      | "BinaryOp" => do
        let lhs ← body.field? "lhs" (decodeWith fuel)
        let rhs ← body.field? "rhs" (decodeWith fuel)
        let op ← body.field? "opcode" Json.string?
        return binary op lhs rhs
      | "Tuple" => (body.listOf? (decodeWith fuel)).map tuple
      | "Array" => (body.listOf? (decodeWith fuel)).map array
      | _ => none

/-- Read an expression. -/
def decode (json : Json) : Option Expr := decodeWith json.depth json

mutual

/-- The stored form of an expression. -/
def encode (amount : Float → Json) : Expr → Json
  | null => .string "Null"
  | constant value => tagged "Constant" (value.encode amount)
  | var name => tagged "VarRef" (.string name)
  | member object name =>
    tagged "MemberRef" (.record [("object", encode amount object), ("name", .string name)])
  | call name args =>
    tagged "FunctionCall"
      (.record [("name", .string name), ("args", .array (encodeAll amount args))])
  | unary op arg =>
    tagged "UnaryOp" (.record [("arg", encode amount arg), ("opcode", .string op)])
  | binary op lhs rhs =>
    tagged "BinaryOp"
      (.record [("lhs", encode amount lhs), ("rhs", encode amount rhs), ("opcode", .string op)])
  | tuple items => tagged "Tuple" (.array (encodeAll amount items))
  | array items => tagged "Array" (.array (encodeAll amount items))

def encodeAll (amount : Float → Json) : List Expr → List Json
  | [] => []
  | expr :: rest => encode amount expr :: encodeAll amount rest

end

end Expr

namespace Part

def decode (json : Json) : Option Part := do
  let (tag, content) ← json.variant?
  let body ← content
  match tag with
  | "Invocation" => do
    let selector ← body.field? "selector" Selector.decode
    let name ← body.field? "name" Json.string?
    let params ← body.field? "params" (Json.listOf? Expr.decode)
    return invocation ⟨selector, name, params⟩
  | "Binding" => do
    let name ← body.field? "name" Json.string?
    let expr ← body.field? "expr" Expr.decode
    return binding name expr
  | "BuiltinPredicate" => (Expr.decode body).map predicate
  | "Condition" => (Expr.decode body).map condition
  | _ => none

def encode (amount : Float → Json) : Part → Json
  | invocation i =>
    tagged "Invocation" (.record [
      ("selector", i.selector.encode amount), ("name", .string i.channel),
      ("params", .array (i.params.map (Expr.encode amount)))])
  | binding name expr =>
    tagged "Binding" (.record [("name", .string name), ("expr", expr.encode amount)])
  | predicate expr => tagged "BuiltinPredicate" (expr.encode amount)
  | condition expr => tagged "Condition" (expr.encode amount)

def decodeAll : Json → Option (List Part) := Json.listOf? decode

def encodeAll (amount : Float → Json) (parts : List Part) : Json :=
  .array (parts.map (encode amount))

end Part

/-- A name with its type. -/
def decodeParam (json : Json) : Option (String × Ty) := do
  let name ← json.field? "name" Json.string?
  let ty ← json.field? "ty" Json.type?
  return (name, ty)

def encodeParam (param : String × Ty) : Json :=
  .record [("name", .string param.1), ("ty", .string param.2.text)]

namespace Statement

/-- Read a statement that is nested at most so deep. -/
def decodeWith : Nat → Json → Option Statement
  | 0, _ => none
  | fuel + 1, json => do
    let (tag, content) ← json.variant?
    let body ← content
    match tag with
    | "ComputeModule" => do
      let name ← body.field? "name" Json.string?
      let statements ← body.field? "statements" (Json.listOf? (decodeWith fuel))
      return computeModule name statements
    | "VarDecl" => (decodeParam body).map fun (name, ty) => keyword name ty
    | "Rule" => do
      let trigger ← body.field? "trigger" Part.decodeAll
      let queries ← body.field? "queries" (Json.listOf? Part.decodeAll)
      let actions ← body.field? "actions" Part.decodeAll
      return rule trigger queries actions
    | "Command" => do
      let queries ← body.field? "queries" (Json.listOf? Part.decodeAll)
      let actions ← body.field? "actions" Part.decodeAll
      return command queries actions
    | _ => none

def decode (json : Json) : Option Statement := decodeWith json.depth json

mutual

/-- The stored form of a statement. -/
def encode (amount : Float → Json) : Statement → Json
  | computeModule name statements =>
    tagged "ComputeModule"
      (.record [("name", .string name), ("statements", .array (encodeAll amount statements))])
  | keyword name ty => tagged "VarDecl" (encodeParam (name, ty))
  | rule trigger queries actions =>
    tagged "Rule" (.record [("trigger", Part.encodeAll amount trigger),
      ("queries", .array (queries.map (Part.encodeAll amount))),
      ("actions", Part.encodeAll amount actions)])
  | command queries actions =>
    tagged "Command" (.record [("queries", .array (queries.map (Part.encodeAll amount))),
      ("actions", Part.encodeAll amount actions)])

def encodeAll (amount : Float → Json) : List Statement → List Json
  | [] => []
  | statement :: rest => encode amount statement :: encodeAll amount rest

end

end Statement

namespace Program

def decode (json : Json) : Option Program := do
  let name ← json.field? "name" Json.string?
  let params ← json.fieldOr? "params" [] (Json.listOf? decodeParam)
  let statements ← json.field? "statements" (Json.listOf? Statement.decode)
  return ⟨name, params, statements⟩

def encode (amount : Float → Json) (program : Program) : Json :=
  .record [("name", .string program.name), ("params", .array (program.params.map encodeParam)),
    ("statements", .array (Statement.encodeAll amount program.statements))]

end Program

end Source

namespace ChannelMeta

/-- The types of a channel are stored under one of two names, never both. -/
def decodeTypes (json : Json) : Option (List Ty) :=
  match json.get? "schema", json.get? "types" with
  | some types, none => types.listOf? Json.type?
  | none, some types => types.listOf? Json.type?
  | _, _ => none

def decode (json : Json) : Option ChannelMeta := do
  let args ← json.fieldOr? "args" [] (Json.listOf? Json.string?)
  let types ← decodeTypes json
  let doc ← json.fieldOr? "doc" "" Json.string?
  let confirmation ← json.fieldOr? "confirmation" "" Json.string?
  let canonical ← json.fieldOr? "canonical" "" Json.string?
  return ⟨args, types, doc, confirmation, canonical⟩

def encode (channel : ChannelMeta) : Json :=
  .record [("args", .strings channel.args), ("schema", .strings (channel.types.map Ty.text)),
    ("doc", .string channel.doc), ("confirmation", .string channel.confirmation),
    ("canonical", .string channel.canonical)]

end ChannelMeta

namespace KindSchemas

def decode (json : Json) : Option KindSchemas := do
  let _ ← json.members?
  let triggers ← json.fieldOr? "triggers" [] (Json.mapOf? ChannelMeta.decode)
  let queries ← json.fieldOr? "queries" [] (Json.mapOf? ChannelMeta.decode)
  let actions ← json.fieldOr? "actions" [] (Json.mapOf? ChannelMeta.decode)
  return ⟨triggers, queries, actions⟩

/-- The stored form of a section. -/
def encodeChannels (channels : Named ChannelMeta) : Json :=
  .object (channels.map fun (name, channel) => (name, channel.encode))

def encode (schemas : KindSchemas) : Json :=
  .record [("triggers", encodeChannels schemas.triggers),
    ("queries", encodeChannels schemas.queries), ("actions", encodeChannels schemas.actions)]

/-- A snapshot of the schema store. -/
def decodeAll : Json → Option (Named KindSchemas) := Json.mapOf? decode

def encodeAll (kinds : Named KindSchemas) : Json :=
  .object (kinds.map fun (kind, schemas) => (kind, schemas.encode))

end KindSchemas

end ChannelRules
