import ChannelRules.Typed.Basic

/-!
# Constant folding

An expression whose operator is a calculation and whose operands are constants is replaced by its
value, unless the calculation fails. A name that a rule binds to a constant is replaced by that
constant in the parts after the binding. Patterns and containment tests keep their form; only the
expressions inside them are folded.
-/

namespace ChannelRules

namespace Typed

variable [PatternEngine]

/-- The value of a use of a builtin with constant operands. -/
def foldCall (op : Op) (args : List Expr) (ty : Ty) : Option Expr :=
  match op.native with
  | .calculation calculation =>
    match args.mapM Expr.constant? with
    | some values =>
      match calculation.run (values.map Value.toRuntime) with
      | .ok value => some (.constant ty (value.fromRuntime ty))
      | .error _ => none
    | none => none
  | _ => none

def foldMember (object : Expr) (name : String) (ty : Ty) : Expr :=
  match object with
  | .constant _ (.object fields) =>
    match Named.get? fields name with
    | some field => .constant ty field
    | none => .member ty object name
  | _ => .member ty object name

/-- A constant in base units. -/
def foldConstant (ty : Ty) (value : Value) : Expr :=
  match value.normalize with
  | .ok value => .constant ty value
  | .error _ => .constant ty value

/-- An array of constants is a constant. -/
def foldArray (items : List Expr) (ty : Ty) : Expr :=
  match items.mapM Expr.constant? with
  | some values => .constant ty (.array values)
  | none => .array ty items

mutual

/-- Fold an expression, given the constants that names are bound to. -/
def Expr.fold (constants : Named Expr) : Expr → Expr
  | .constant ty value => foldConstant ty value
  | .var ty name => (Named.get? constants name).getD (.var ty name)
  | .keyword ty cell => .keyword ty cell
  | .member ty object name => foldMember (object.fold constants) name ty
  | .call ty op args =>
    let args := Expr.foldAll constants args
    (foldCall op args ty).getD (.call ty op args)
  | .unary ty op arg =>
    let arg := arg.fold constants
    (foldCall op [arg] ty).getD (.unary ty op arg)
  | .binary ty op lhs rhs =>
    let lhs := lhs.fold constants
    let rhs := rhs.fold constants
    (foldCall op [lhs, rhs] ty).getD (.binary ty op lhs rhs)
  | .tuple ty items => .tuple ty (Expr.foldAll constants items)
  | .array ty items => foldArray (Expr.foldAll constants items) ty

def Expr.foldAll (constants : Named Expr) : List Expr → List Expr
  | [] => []
  | expr :: rest => expr.fold constants :: Expr.foldAll constants rest

end

def Binder.fold (constants : Named Expr) : Binder → Binder
  | declare name ty => declare name ty
  | expect expr => expect (expr.fold constants)

def Predicate.fold (constants : Named Expr) : Predicate → Predicate
  | regex value pattern flags captures =>
    regex (value.fold constants) (pattern.fold constants) (flags.fold constants)
      (captures.map (Binder.fold constants))
  | contains container element => contains (container.fold constants) (element.fold constants)
  | test expr => test (expr.fold constants)

def Part.fold (constants : Named Expr) : Part → Part
  | invocation i =>
    invocation { i with params := i.params.map fun param => param.map (Binder.fold constants) }
  | binding name expr => binding name (expr.fold constants)
  | predicate p => predicate (p.fold constants)
  | condition expr => condition (expr.fold constants)

/-- The constants known after a folded part. -/
def Part.remember (constants : Named Expr) : Part → Named Expr
  | binding name (.constant ty value) => Named.insert constants name (.constant ty value)
  | _ => constants

/-- Fold parts one after the other, with the constants known after them. -/
def Part.foldAll (constants : Named Expr) : List Part → List Part × Named Expr
  | [] => ([], constants)
  | part :: rest =>
    let part := part.fold constants
    let (rest, constants) := foldAll (part.remember constants) rest
    (part :: rest, constants)

/-- Fold clauses one after the other, with the constants known after them. -/
def foldClauses (constants : Named Expr) : List (List Part) → List (List Part) × Named Expr
  | [] => ([], constants)
  | parts :: rest =>
    let (parts, constants) := Part.foldAll constants parts
    let (rest, constants) := foldClauses constants rest
    (parts :: rest, constants)

/-- Fold a trigger, with the constants known after it. -/
def foldTrigger : Option (List Part) → Option (List Part) × Named Expr
  | none => (none, [])
  | some parts =>
    let (parts, constants) := Part.foldAll [] parts
    (some parts, constants)

def Action.fold (constants : Named Expr) : Action → Action
  | invocation channel params =>
    invocation channel (params.map fun param => param.map (Expr.fold constants))
  | keyword cell expr => keyword cell (expr.fold constants)

/-- Fold a rule: the trigger, the queries and the actions, in this order. -/
def Rule.fold (rule : Rule) : Rule :=
  let (trigger, constants) := foldTrigger rule.trigger
  let (queries, constants) := foldClauses constants rule.queries
  { rule with
    trigger := trigger
    queries := queries
    actions := rule.actions.map (Action.fold constants) }

def Program.fold (program : Program) : Program :=
  { program with rules := program.rules.map Rule.fold }

end Typed

end ChannelRules
