import ChannelRules.Chain
import ChannelRules.Code.Expr

/-!
# Filters

What remains of a trigger or query is a chain of steps on environments. A step lets an environment
pass, perhaps with new variables, rejects it, fails, or branches: a containment test over a
container gives one environment for each element.
-/

namespace ChannelRules

/-- Where a step finds the event. -/
inductive EventSource where
  | trigger
  | query
  deriving DecidableEq

def EventSource.frame (source : EventSource) (env : Env) : Except RuntimeError Frame :=
  match source with
  | trigger => env.trigger.elim (.error .noEvent) .ok
  | query => env.query.elim (.error .noEvent) .ok

/-- What happens to the text of a group: it becomes a variable or is compared. -/
inductive Capture where
  | assign (name : String)
  | expect (code : Code)

/-- Where a pattern comes from. -/
inductive PatternSource where
  /-- Read once, before anything runs; what is not a pattern fails whenever it is used. -/
  | fixed (regex : Except RuntimeError Regex)
  /-- Read whenever it is used. -/
  | computed (pattern flags : Code)

/-- One step of a filter. -/
inductive Step where
  /-- Take variables from the event, then compare values of the event. -/
  | event (source : EventSource) (assigned : List (Nat × String)) (checks : List (Nat × Code))
  | assign (name : String) (code : Code)
  | test (code : Code)
  | regex (value : Code) (source : PatternSource) (captures : List Capture)
  /-- One environment for each element of a container. -/
  | each (container : Code) (name : String)
  /-- Whether a container has an element. -/
  | member (container element : Code)

variable [PatternEngine]

/-- The pattern of a source in an environment. -/
def PatternSource.read (source : PatternSource) (env : Env) : Eval Regex :=
  match source with
  | fixed regex => Eval.ofExcept regex
  | computed pattern flags => do
    let pattern ← pattern.run env
    let flags ← flags.run env
    let pattern ← Eval.ofExcept pattern.textual
    let flags ← Eval.ofExcept flags.textual
    Eval.ofExcept (buildRegex pattern flags)

/-- Whether an environment passes, and with which variables. -/
abbrev Verdict := Eval (Option Env)

namespace Step

/-- Take variables from an event. -/
def takeVars (frame : Frame) : List (Nat × String) → Env → Except RuntimeError Env
  | [], env => .ok env
  | (index, name) :: rest, env => do
    let value ← frame.get index
    takeVars frame rest (env.setVar name value)

/-- Whether values of an event are as expected. -/
def checkValues (frame : Frame) (env : Env) : List (Nat × Code) → Eval Bool
  | [] => return true
  | (index, code) :: rest => do
    let expected ← code.run env
    let value ← Eval.ofExcept (frame.get index)
    if expected.alike value then checkValues frame env rest else return false

def verdictOf (condition : Eval Bool) (env : Env) : Verdict :=
  (fun b => if b then some env else none) <$> condition

def bindEvent (source : EventSource) (assigned : List (Nat × String)) (checks : List (Nat × Code))
    (env : Env) : Verdict := do
  let frame ← Eval.ofExcept (source.frame env)
  let env ← Eval.ofExcept (takeVars frame assigned env)
  verdictOf (checkValues frame env checks) env

/-- The texts of the first groups. A group that took no part in the match has the empty text. -/
def groupTexts (groups : Nat → Option String) (count : Nat) : List String :=
  (List.range count).map fun i => (groups (i + 1)).getD ""

/-- Assign or compare the texts of groups, one after the other. -/
def bindCaptures : List (Capture × String) → Env → Verdict
  | [], env => return some env
  | (.assign name, text) :: rest, env => bindCaptures rest (env.setVar name (.string text))
  | (.expect code, text) :: rest, env => do
    let expected ← code.run env
    if expected.alike (.string text) then bindCaptures rest env else return none

def matchPattern (value : Code) (source : PatternSource) (captures : List Capture) (env : Env) :
    Verdict := do
  let value ← value.run env
  let regex ← source.read env
  let text ← Eval.ofExcept value.textual
  match regex.captures? text with
  | none => return none
  | some groups => bindCaptures (captures.zip (groupTexts groups captures.length)) env

/-- The elements of a container: the items of an array or the keys of a map. -/
def elements : Value → Except RuntimeError (List Value)
  | .array items => .ok items
  | .object entries => .ok ((Named.names entries).map Value.string)
  | other => .error (.typeMismatch "Array or Map" other)

def hasElement (container element : Code) (env : Env) : Eval Bool := do
  match (← container.run env) with
  | .array items => do
    let needle ← element.run env
    return items.any fun item => item.alike needle
  | .object entries => do
    let needle ← element.run env
    return Named.has entries needle.mapKey
  | other => throw (.typeMismatch "Array or Map" other)

/-- The environments that continue after a step. -/
def pass (step : Step) (env : Env) : Eval (List Env) :=
  match step with
  | event source assigned checks => Option.toList <$> bindEvent source assigned checks env
  | assign name code => do
    let value ← code.run env
    return [env.setVar name value]
  | test code => Option.toList <$> verdictOf (do Eval.ofExcept (← code.run env).truth) env
  | regex value source captures => Option.toList <$> matchPattern value source captures env
  | each container name => do
    let container ← container.run env
    let values ← Eval.ofExcept (elements container)
    return values.map fun value => env.setVar name value
  | member container element => Option.toList <$> verdictOf (hasElement container element env) env

/-- The ways on from a step: the environments that continue, or the failure. -/
def ways : Except RuntimeError (List Env) → List (Except RuntimeError Env)
  | .ok envs => envs.map .ok
  | .error e => [.error e]

/-- Run a step: the environments that continue, or why it fails. -/
def run (step : Step) (env : Env) : StateM World (List (Except RuntimeError Env)) :=
  ways <$> (step.pass env).attempt

end Step

/-- A chain of steps, all of which have to be passed. -/
abbrev Filter := List Step

namespace Filter

/-- A cursor over the environments that pass a filter. -/
def cursor (filter : Filter) (env : Env) : Chain.Cursor World RuntimeError Env :=
  Chain.start (filter.map Step.run) env

/-- All environments that pass a filter, and the failures on the way. -/
def matched (filter : Filter) (env : Env) : StateM World (List (Except RuntimeError Env)) :=
  (filter.cursor env).toList

/-- The first environment that passes a filter, or the failure before it. -/
def firstMatch (filter : Filter) (env : Env) : StateM World (Except RuntimeError (Option Env)) :=
  (filter.cursor env).first

end Filter

end ChannelRules
