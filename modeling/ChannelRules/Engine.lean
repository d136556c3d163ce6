import ChannelRules.Code.Rule

/-!
# Running rules

An activation runs one rule once: the event of the trigger passes the filter of the trigger, each
environment that comes out asks the first query, the results of the query pass its filter, and so
on up to the actions. All environments share the keyword cells. What passes a filter is found before
the first of it is handled, so a keyword that is written on the way is seen by later queries and
actions, but not by the filter that is under way.

The engine keeps a journal of what was asked, what failed and what was produced.
-/

namespace ChannelRules

/-- What happens in one activation. -/
inductive Record where
  | triggerInputs (values : Except RuntimeError (List (Option Value)))
  /-- A failure after so many queries. -/
  | failed (error : RuntimeError) (stage : Nat)
  | queryInputs (query : Nat) (values : Except RuntimeError (List (Option Value)))
  | vars (values : List (String × Outcome))
  /-- The values of an action and, for a keyword, whether they were written. -/
  | output (target : Target) (values : Except RuntimeError (List (Option Value)))
      (written : Option (Except RuntimeError PUnit))

/-- The world, and what has happened so far. -/
structure Journal where
  world : World
  records : List Record

abbrev Engine := StateM Journal

/-- What an activation starts from. -/
structure Activation where
  /-- The values of the event of the trigger. -/
  trigger : Option (List Value)
  /-- The results of each query. -/
  results : List (List (List Value))
  /-- Whether only the first environment that passes a filter is followed. -/
  firstOnly : Bool
  /-- The variables that are shown before the actions. -/
  watched : List String

namespace Engine

def note (record : Record) : Engine PUnit :=
  modify fun journal => { journal with records := journal.records ++ [record] }

/-- Let a computation read and write the world. -/
def inWorld {α : Type} (x : StateM World α) : Engine α := fun journal =>
  let (a, world) := x journal.world
  (a, { journal with world := world })

/-- Write the value of an action to the keyword that it is for. -/
def store (env : Env) (target : Target) (values : Except RuntimeError (List (Option Value))) :
    Engine (Option (Except RuntimeError PUnit)) :=
  match target, values with
  | .keyword cell, .ok (some value :: _) => do
    let written ← inWorld (env.writeKeyword cell value).attempt
    return some written
  | _, _ => return none

/-- The queries of a rule with their results; a query without results finds nothing. -/
def withResults : List CompiledClause → List (List (List Value)) →
    List (CompiledClause × List (List Value))
  | [], _ => []
  | query :: queries, [] => (query, []) :: withResults queries []
  | query :: queries, results :: rest => (query, results) :: withResults queries rest

/-- The environment in which the event of the trigger has arrived. -/
def arrived (rule : CompiledRule) (activation : Activation) (env : Env) : Env :=
  match rule.trigger, activation.trigger with
  | some trigger, some values => env.setTrigger ⟨trigger.invocation.channel, values⟩
  | _, _ => env

variable [PatternEngine]

/-- What passes a filter: everything, or the first. -/
def passing (firstOnly : Bool) (filter : Filter) (env : Env) :
    StateM World (List (Except RuntimeError Env)) :=
  if firstOnly then (Step.ways ∘ Except.map Option.toList) <$> filter.firstMatch env
  else filter.matched env

def act (env : Env) (output : CompiledOutput) : Engine PUnit := do
  let values ← inWorld (output.produce env).attempt
  let written ← store env output.target values
  note (.output output.target values written)

/-- Show the watched variables and run all actions. -/
def finish (rule : CompiledRule) (activation : Activation) (env : Env) : Engine PUnit := do
  if !activation.watched.isEmpty then
    note (.vars (activation.watched.map fun name => (name, env.readVar name)))
  rule.outputs.forM (act env)

/-- Follow one way through the queries that are left, after so many queries. -/
def follow (rule : CompiledRule) (activation : Activation) :
    Nat → List (CompiledClause × List (List Value)) → Except RuntimeError Env → Engine PUnit
  | stage, _, .error e => note (.failed e stage)
  | _, [], .ok env => finish rule activation env
  | stage, (query, results) :: rest, .ok env => do
    let inputs ← inWorld (query.invocation.evaluateInputs env).attempt
    note (.queryInputs stage inputs)
    match inputs with
    | .error _ => return ⟨⟩
    | .ok inputs =>
      results.forM fun values => do
        let env := env.setQuery (inputs.filterMap id) ⟨query.invocation.channel, values⟩
        let passed ← inWorld (passing activation.firstOnly query.filter env)
        passed.forM (follow rule activation (stage + 1) rest)

/-- Run a rule once. -/
def activate (rule : CompiledRule) (activation : Activation) (env : Env) : Engine PUnit := do
  rule.trigger.forM fun trigger => do
    let inputs ← inWorld (trigger.invocation.evaluateInputs env).attempt
    note (.triggerInputs inputs)
  let passed ← inWorld (passing activation.firstOnly rule.caller (arrived rule activation env))
  passed.forM (follow rule activation 0 (withResults rule.queries activation.results))

/-- Run a rule once, in the given world: what happens, and the world afterwards. -/
def run (rule : CompiledRule) (activation : Activation) (env : Env) (world : World) : Journal :=
  (activate rule activation env ⟨world, []⟩).2

end Engine

end ChannelRules
