import ChannelRules.Ty.Unify

/-!
# Substitution

`resolve` replaces the variables of a type by what they are bound to, and unbound variables by
`Any`. Bound types are resolved in turn. The number of steps down, into a type or along a binding,
is limited; below the limit everything is `Any`, so no variable is left even when the bindings run
in a circle.
-/

namespace ChannelRules

namespace Ty

/-- The number of steps down after which a type is taken to be `Any`. -/
def resolveDepth : Nat := 33

/-- Substitution with the number of steps that are left. -/
def resolveWith (types : Named Ty) : Nat → Ty → Ty
  | 0, _ => any
  | fuel + 1, var name =>
    match Named.get? types name with
    | some (var other) => if other = name then any else resolveWith types fuel (var other)
    | some bound => resolveWith types fuel bound
    | none => any
  | fuel + 1, array elem => array (resolveWith types fuel elem)
  | fuel + 1, map key value => map (resolveWith types fuel key) (resolveWith types fuel value)
  | fuel + 1, tuple items => tuple (items.map fun item => resolveWith types fuel item)
  | fuel + 1, object fields =>
    object (fields.map fun field => (field.1, resolveWith types fuel field.2))
  | _ + 1, ty => ty

/-- Replace the variables of a type. -/
def resolve (types : Named Ty) (ty : Ty) : Ty := resolveWith types resolveDepth ty

end Ty

end ChannelRules
