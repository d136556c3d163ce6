import ChannelRules.Ty.Basic

namespace ChannelRules

namespace Ty

mutual

/-- The written form of a type. -/
def text : Ty → String
  | any => "Any"
  | boolean => "Boolean"
  | string => "String"
  | number => "Number"
  | entity tag => "Entity(" ++ tag ++ ")"
  | measure unit => "Measure(" ++ unit ++ ")"
  | enum entries => "Enum(" ++ String.intercalate "," entries ++ ")"
  | array elem => "Array(" ++ text elem ++ ")"
  | map key value => "Map(" ++ text key ++ "," ++ text value ++ ")"
  | time => "Time"
  | date => "Date"
  | location => "Location"
  | openTuple => "Tuple"
  | tuple items => "(" ++ String.intercalate "," (textItems items) ++ ")"
  | openObject => "Object"
  | object fields => "Object\x7b" ++ String.intercalate "," (textFields fields) ++ "\x7d"
  | module => "Module"
  | var name => name

def textItems : List Ty → List String
  | [] => []
  | item :: rest => text item :: textItems rest

def textFields : List (String × Ty) → List String
  | [] => []
  | (name, field) :: rest => (name ++ ":" ++ text field) :: textFields rest

end

end Ty

def TypeError.message : TypeError → String
  | cannotUnify lhs rhs => "Cannot unify " ++ lhs.text ++ " and " ++ rhs.text
  | unknownUnit unit => "Unknown unit: " ++ unit
  | invalidText text => "Invalid type string: " ++ text
  | circular lhs rhs => "Circular type variables in " ++ lhs.text ++ " and " ++ rhs.text

end ChannelRules
