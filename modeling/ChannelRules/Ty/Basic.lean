import ChannelRules.Named
import ChannelRules.Units

/-!
# Types

Every channel parameter, literal and expression has one of these types. Type variables occur only
in the signatures of builtins. A measure without a unit, an open tuple and an open object stand
for any measure, tuple or object.
-/

namespace ChannelRules

/-- The types of the language. -/
inductive Ty where
  | any
  | boolean
  | string
  | number
  | entity (tag : String)
  /-- The empty unit is a unit that is not known yet. -/
  | measure (unit : String)
  | enum (entries : List String)
  | array (elem : Ty)
  | map (key value : Ty)
  | time
  | date
  | location
  /-- A tuple whose shape is not known yet. -/
  | openTuple
  | tuple (items : List Ty)
  /-- An object whose fields are not known yet. -/
  | openObject
  /-- An object with its fields, in increasing order of name. -/
  | object (fields : List (String × Ty))
  | module
  /-- A variable of a builtin's signature. -/
  | var (name : String)
  deriving Inhabited

/-- Why a type cannot be read or two types cannot be brought together. -/
inductive TypeError where
  | cannotUnify (lhs rhs : Ty)
  | unknownUnit (unit : String)
  | invalidText (text : String)
  /-- The variables of two types are bound in a circle. -/
  | circular (lhs rhs : Ty)

namespace Ty

/-- A measure in the base unit of the given one; the empty unit stays. -/
def ofUnit (unit : String) : Except TypeError Ty :=
  if unit = "" then .ok (measure "")
  else match MeasureUnit.base? unit with
    | some base => .ok (measure base)
    | none => .error (.unknownUnit unit)

def isMeasure : Ty → Bool
  | measure _ => true
  | _ => false

/-- What a containment test ranges over: the items of an array or the keys of a map. -/
def element? : Ty → Option Ty
  | array elem => some elem
  | map key _ => some key
  | _ => none

mutual

/-- Whether a variable occurs in a type. -/
def hasVars : Ty → Bool
  | var _ => true
  | array elem => hasVars elem
  | map key value => hasVars key || hasVars value
  | tuple items => hasVarsItems items
  | object fields => hasVarsFields fields
  | _ => false

def hasVarsItems : List Ty → Bool
  | [] => false
  | item :: rest => hasVars item || hasVarsItems rest

def hasVarsFields : List (String × Ty) → Bool
  | [] => false
  | (_, field) :: rest => hasVars field || hasVarsFields rest

end

mutual

/-- The number of constructors of a type. -/
def size : Ty → Nat
  | array elem => size elem + 1
  | map key value => size key + size value + 1
  | tuple items => sizeItems items + 1
  | object fields => sizeFields fields + 1
  | _ => 1

def sizeItems : List Ty → Nat
  | [] => 0
  | item :: rest => size item + sizeItems rest + 1

def sizeFields : List (String × Ty) → Nat
  | [] => 0
  | (_, field) :: rest => size field + sizeFields rest + 1

end

mutual

/-- Whether two types are the same. -/
def beq : Ty → Ty → Bool
  | any, any => true
  | boolean, boolean => true
  | string, string => true
  | number, number => true
  | entity a, entity b => a == b
  | measure a, measure b => a == b
  | enum a, enum b => a == b
  | array a, array b => beq a b
  | map a b, map c d => beq a c && beq b d
  | time, time => true
  | date, date => true
  | location, location => true
  | openTuple, openTuple => true
  | tuple a, tuple b => beqItems a b
  | openObject, openObject => true
  | object a, object b => beqFields a b
  | module, module => true
  | var a, var b => a == b
  | _, _ => false

def beqItems : List Ty → List Ty → Bool
  | [], [] => true
  | a :: as, b :: bs => beq a b && beqItems as bs
  | _, _ => false

def beqFields : List (String × Ty) → List (String × Ty) → Bool
  | [], [] => true
  | (k, a) :: as, (l, b) :: bs => k == l && beq a b && beqFields as bs
  | _, _ => false

end

mutual

theorem beq_iff : (a b : Ty) → (beq a b = true ↔ a = b)
  | .array a, b => by cases b <;> simp [beq, beq_iff a]
  | .map k v, b => by cases b <;> simp [beq, beq_iff k, beq_iff v]
  | .tuple as, b => by cases b <;> simp [beq, beqItems_iff as]
  | .object as, b => by cases b <;> simp [beq, beqFields_iff as]
  | .any, b => by cases b <;> simp [beq]
  | .boolean, b => by cases b <;> simp [beq]
  | .string, b => by cases b <;> simp [beq]
  | .number, b => by cases b <;> simp [beq]
  | .entity _, b => by cases b <;> simp [beq]
  | .measure _, b => by cases b <;> simp [beq]
  | .enum _, b => by cases b <;> simp [beq]
  | .time, b => by cases b <;> simp [beq]
  | .date, b => by cases b <;> simp [beq]
  | .location, b => by cases b <;> simp [beq]
  | .openTuple, b => by cases b <;> simp [beq]
  | .openObject, b => by cases b <;> simp [beq]
  | .module, b => by cases b <;> simp [beq]
  | .var _, b => by cases b <;> simp [beq]

theorem beqItems_iff : (as bs : List Ty) → (beqItems as bs = true ↔ as = bs)
  | [], bs => by cases bs <;> simp [beqItems]
  | a :: as, bs => by cases bs <;> simp [beqItems, beq_iff a, beqItems_iff as]

theorem beqFields_iff : (as bs : List (String × Ty)) → (beqFields as bs = true ↔ as = bs)
  | [], bs => by cases bs <;> simp [beqFields]
  | (k, a) :: as, bs => by
    cases bs with
    | nil => simp [beqFields]
    | cons b bs =>
      obtain ⟨l, b⟩ := b
      simp [beqFields, beq_iff a, beqFields_iff as, Prod.ext_iff, and_assoc]

end

instance : DecidableEq Ty := fun a b => decidable_of_iff _ (beq_iff a b)

end Ty

deriving instance DecidableEq for TypeError

end ChannelRules
