import ChannelRules.Builtin.Overload

/-!
# Checked programs

The form of a program after its names and types have been checked. Every expression carries its
type, every use of a builtin its signature, and every name is known to be a variable or a keyword.
-/

namespace ChannelRules

namespace Typed

/-- Expressions with their types. -/
inductive Expr where
  | constant (ty : Ty) (value : Value)
  /-- A parameter or a name that the rule introduces. -/
  | var (ty : Ty) (name : String)
  | keyword (ty : Ty) (cell : String)
  | member (ty : Ty) (object : Expr) (name : String)
  | call (ty : Ty) (op : Op) (args : List Expr)
  | unary (ty : Ty) (op : Op) (arg : Expr)
  | binary (ty : Ty) (op : Op) (lhs rhs : Expr)
  | tuple (ty : Ty) (items : List Expr)
  | array (ty : Ty) (items : List Expr)
  deriving Inhabited

namespace Expr

/-- The type of an expression. -/
def ty : Expr → Ty
  | constant ty _ => ty
  | var ty _ => ty
  | keyword ty _ => ty
  | member ty _ _ => ty
  | call ty _ _ => ty
  | unary ty _ _ => ty
  | binary ty _ _ _ => ty
  | tuple ty _ => ty
  | array ty _ => ty

def constant? : Expr → Option Value
  | constant _ value => some value
  | _ => none

end Expr

/-- A place that introduces a name or that states which value is expected. -/
inductive Binder where
  | declare (name : String) (ty : Ty)
  | expect (expr : Expr)

/-- The use of a trigger or query channel. -/
structure Invocation where
  channel : ChannelRef
  /-- One for each parameter of the channel; `none` leaves the parameter open. -/
  params : List (Option Binder)
  /-- The types of the parameters, made more specific by the values that are expected. -/
  types : List Ty

/-- A condition that can introduce names. -/
inductive Predicate where
  | regex (value pattern flags : Expr) (captures : List Binder)
  | contains (container : Expr) (element : Binder)
  | test (expr : Expr)

/-- One part of a trigger or query. -/
inductive Part where
  | invocation (invocation : Invocation)
  | binding (name : String) (expr : Expr)
  | predicate (predicate : Predicate)
  | condition (expr : Expr)

inductive Action where
  | invocation (channel : ChannelRef) (params : List (Option Expr))
  | keyword (cell : String) (expr : Expr)

/-- A rule, or a command if it has no trigger. -/
structure Rule where
  id : Nat
  /-- The compute module the rule stands in. -/
  module : Option String
  trigger : Option (List Part)
  queries : List (List Part)
  actions : List Action

/-- A checked program. -/
structure Program where
  name : String
  params : List (String × Ty)
  /-- The types of the keywords, by cell. -/
  keywords : Named Ty
  rules : List Rule

end Typed

end ChannelRules
