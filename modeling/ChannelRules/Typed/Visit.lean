import ChannelRules.Typed.Basic

/-!
# What occurs in a checked program

`subexprs` lists an expression and all expressions inside it, each before the ones inside it and
from left to right. The names, operators and keyword cells that occur are read off that list.
-/

namespace ChannelRules

namespace Typed

namespace Expr

mutual

/-- An expression and all expressions inside it. -/
def subexprs : Expr → List Expr
  | constant ty value => [constant ty value]
  | var ty name => [var ty name]
  | keyword ty cell => [keyword ty cell]
  | member ty object name => member ty object name :: subexprs object
  | call ty op args => call ty op args :: subexprsAll args
  | unary ty op arg => unary ty op arg :: subexprs arg
  | binary ty op lhs rhs => binary ty op lhs rhs :: (subexprs lhs ++ subexprs rhs)
  | tuple ty items => tuple ty items :: subexprsAll items
  | array ty items => array ty items :: subexprsAll items

def subexprsAll : List Expr → List Expr
  | [] => []
  | expr :: rest => subexprs expr ++ subexprsAll rest

end

def varName? : Expr → Option String
  | var _ name => some name
  | _ => none

def cell? : Expr → Option String
  | keyword _ cell => some cell
  | _ => none

/-- The operation of a use of a builtin. -/
def op? : Expr → Option Op
  | call _ op _ => some op
  | unary _ op _ => some op
  | binary _ op _ _ => some op
  | _ => none

/-- The variables of an expression. -/
def vars (expr : Expr) : List String := expr.subexprs.filterMap varName?

/-- The operations of an expression. -/
def ops (expr : Expr) : List Op := expr.subexprs.filterMap op?

def reads (expr : Expr) : List String := expr.subexprs.filterMap cell?

end Expr

def Binder.exprs : Binder → List Expr
  | declare _ _ => []
  | expect expr => [expr]

def Predicate.exprs : Predicate → List Expr
  | regex value pattern flags captures =>
    value :: pattern :: flags :: captures.flatMap Binder.exprs
  | contains container element => container :: element.exprs
  | test expr => [expr]

def Part.exprs : Part → List Expr
  | invocation i => (i.params.filterMap id).flatMap Binder.exprs
  | binding _ expr => [expr]
  | predicate p => p.exprs
  | condition expr => [expr]

def Action.exprs : Action → List Expr
  | invocation _ params => params.filterMap id
  | keyword _ expr => [expr]

namespace Rule

/-- Whether a rule runs without a trigger. -/
def isCommand (rule : Rule) : Bool := rule.trigger.isNone

/-- The parts of the trigger and the queries. -/
def inputParts (rule : Rule) : List Part := rule.trigger.getD [] ++ rule.queries.flatten

/-- The cells that the trigger and the queries read. -/
def inputReads (rule : Rule) : List String :=
  (rule.inputParts.flatMap Part.exprs).flatMap Expr.reads

def reads (rule : Rule) : List String :=
  rule.inputReads ++ (rule.actions.flatMap Action.exprs).flatMap Expr.reads

end Rule

end Typed

end ChannelRules
