import ChannelRules.Catalog.Basic

namespace ChannelRules

/-- Why a part cannot stand where it stands. -/
inductive PartFault where
  | moduleAsValue (module : String)
  | nestedModule (nested module : String)
  | invocationCount (sort : Section) (found : Nat)
  | predicateInActions

def PartFault.message : PartFault → String
  | moduleAsValue module => "compute module " ++ module ++ " cannot be used as a value"
  | nestedModule nested module =>
    "compute module " ++ nested ++ " cannot be nested in " ++ module
  | invocationCount sort found =>
    sort.text ++ " clause must contain exactly one invocation, found " ++ toString found
  | predicateInActions => "actions cannot contain predicates"

/-- Why a program is rejected. -/
inductive CheckError where
  | type (error : TypeError)
  | parameterMismatch (channel : String) (index : Nat) (expected found : Ty)
  | undefinedVariable (name : String)
  | undefinedFunction (name : String)
  | noMatchingOverload (function : String) (args : List Ty)
  | arityMismatch (name : String) (expected found : Nat)
  | duplicateDeclaration (name : String)
  | notKeyword (name : String)
  | unknownMember (object name : String)
  | unresolvableSelector (selector : Selector)
  | invalidPart (fault : PartFault)
  /-- An open parameter outside an invocation. -/
  | invalidNull
  | schema (error : SchemaError)

/-- How a selector that names no kind is shown. -/
def Selector.shown : Selector → String
  | any => "*"
  | other => other.inspect

/-- What a rejection says. -/
def CheckError.message : CheckError → String
  | type error => "Type error: " ++ error.message
  | parameterMismatch channel index expected found =>
    "Parameter " ++ toString index ++ " of " ++ channel ++ ": expected " ++ expected.text ++
      ", found " ++ found.text
  | undefinedVariable name => "Undefined variable: " ++ name
  | undefinedFunction name => "Undefined function: " ++ name
  | noMatchingOverload function args =>
    "No overload of " ++ function ++ " accepts (" ++
      String.intercalate ", " (args.map Ty.text) ++ ")"
  | arityMismatch name expected found =>
    "Wrong number of arguments to " ++ name ++ ": expected " ++ toString expected ++ ", found " ++
      toString found
  | duplicateDeclaration name => "Duplicate declaration: " ++ name
  | notKeyword name => name ++ " is not a keyword"
  | unknownMember object name => "Unknown member " ++ name ++ " of " ++ object
  | unresolvableSelector selector => "Cannot resolve selector: " ++ selector.shown
  | invalidPart fault => "Invalid rule part: " ++ fault.message
  | invalidNull => "Null is only allowed as an invocation parameter"
  | schema error => "Schema error: " ++ error.message

end ChannelRules
