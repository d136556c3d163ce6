import ChannelRules.Code.Filter

/-!
# Compiling triggers and queries

A parameter of an invocation that can be computed before the event arrives is an input. One that
reads a variable of the same invocation is compared after the event has arrived. The other
parameters are left open or become variables.
-/

namespace ChannelRules

/-- A compiled use of a trigger or query channel. -/
structure CompiledInvocation where
  channel : ChannelRef
  /-- One for each parameter: how to compute it before the event arrives. -/
  inputs : List (Option Code)
  /-- The parameters that become variables. -/
  assigned : List (Nat × String)
  /-- The parameters that are compared after the event has arrived. -/
  checks : List (Nat × Code)

namespace CompiledInvocation

/-- The places of the parameters that are compared after the event has arrived. -/
def checked (invocation : CompiledInvocation) : List Nat := invocation.checks.map Prod.fst

variable [PatternEngine]

/-- Compute parameters from left to right, up to the first failure. -/
def runInputs (env : Env) : List (Option Code) → Eval (List (Option Value))
  | [] => return []
  | input :: rest => do
    let value ← Code.runOptional env input
    let values ← runInputs env rest
    return value :: values

/-- The inputs of an invocation in an environment. -/
def evaluateInputs (invocation : CompiledInvocation) (env : Env) : Eval (List (Option Value)) :=
  runInputs env invocation.inputs

end CompiledInvocation

/-- A compiled trigger or query: its invocation, and the filter for its events. -/
structure CompiledClause where
  invocation : CompiledInvocation
  filter : Filter

/-- Compilation that brings variables into scope; those from before a failure are kept. -/
abbrev Compile := EStateM CompileError Locals

namespace Compile

variable {α : Type}

/-- Compilation that declares nothing. -/
def ofExcept (x : Except CompileError α) : Compile α := fun locals =>
  match x with
  | .ok a => .ok a locals
  | .error e => .error e locals

def declare (name : String) (ty : Ty) : Compile PUnit :=
  modify fun locals => Named.insert locals name ty

/-- Compile an expression that reads the variables in scope. -/
def expr (e : Typed.Expr) : Compile Code := do ofExcept (e.compile (← get))

end Compile

/-- What becomes of a parameter of an invocation. -/
inductive Slot where
  | unused
  | assigned (name : String)
  | input (code : Code)
  /-- Reads a variable that is not in scope before the event. -/
  | deferred (expr : Typed.Expr)

/-- What becomes of a parameter, given the variables in scope before the invocation. -/
def compileSlot (before : Locals) : Option Typed.Binder → Compile Slot
  | none => return .unused
  | some (.declare name ty) => do
    Compile.declare name ty
    return .assigned name
  | some (.expect expr) =>
    match expr.compile before with
    | .ok code => return .input code
    | .error (.unknownVariable _) => return .deferred expr
    | .error e => throw e

/-- What becomes of parameters, from left to right. -/
def compileSlots (before : Locals) : List (Option Typed.Binder) → Compile (List Slot)
  | [] => return []
  | param :: rest => do
    let slot ← compileSlot before param
    let slots ← compileSlots before rest
    return slot :: slots

/-- How to compute a parameter before the event arrives. -/
def Slot.input? : Slot → Option Code
  | input code => some code
  | _ => none

/-- The parameters that become variables, counted from the given place on. -/
def assignedSlots : Nat → List Slot → List (Nat × String)
  | _, [] => []
  | index, .assigned name :: rest => (index, name) :: assignedSlots (index + 1) rest
  | index, _ :: rest => assignedSlots (index + 1) rest

/-- The parameters that wait for the event, counted from the given place on. -/
def deferredSlots : Nat → List Slot → List (Nat × Typed.Expr)
  | _, [] => []
  | index, .deferred expr :: rest => (index, expr) :: deferredSlots (index + 1) rest
  | index, _ :: rest => deferredSlots (index + 1) rest

/-- Compile the parameters that wait for the event. -/
def compileChecks : List (Nat × Typed.Expr) → Compile (List (Nat × Code))
  | [] => return []
  | (index, expr) :: rest => do
    let code ← Compile.expr expr
    let checks ← compileChecks rest
    return (index, code) :: checks

def compileInvocation (invocation : Typed.Invocation) : Compile CompiledInvocation := do
  let slots ← compileSlots (← get) invocation.params
  let checks ← compileChecks (deferredSlots 0 slots)
  return ⟨invocation.channel, slots.map Slot.input?, assignedSlots 0 slots, checks⟩

def CompiledInvocation.step (invocation : CompiledInvocation) (source : EventSource) : Step :=
  .event source invocation.assigned invocation.checks

/-- Compile the places for groups; expected texts read the variables from before the pattern. -/
def compileCaptures (before : Locals) : List Typed.Binder → Compile (List Capture)
  | [] => return []
  | .declare name ty :: rest => do
    Compile.declare name ty
    let captures ← compileCaptures before rest
    return .assign name :: captures
  | .expect expr :: rest => do
    let code ← Compile.ofExcept (expr.compile before)
    let captures ← compileCaptures before rest
    return .expect code :: captures

def Typed.Expr.constantText? (expr : Typed.Expr) : Option String := expr.constant?.bind Value.asText

variable [PatternEngine]

/-- Compile a pattern with its flags; one that consists of constants is read here. -/
def compilePattern (pattern flags : Typed.Expr) : Compile PatternSource :=
  match pattern.constantText?, flags.constantText? with
  | some pattern, some flags => return .fixed (buildRegex pattern flags)
  | _, _ => do
    let pattern ← Compile.expr pattern
    let flags ← Compile.expr flags
    return .computed pattern flags

def compilePredicate : Typed.Predicate → Compile Step
  | .regex value pattern flags captures => do
    let value ← Compile.expr value
    let source ← compilePattern pattern flags
    let captures ← compileCaptures (← get) captures
    return .regex value source captures
  | .contains container (.declare name ty) => do
    let container ← Compile.expr container
    Compile.declare name ty
    return .each container name
  | .contains container (.expect element) => do
    let container ← Compile.expr container
    let element ← Compile.expr element
    return .member container element
  | .test expr => do
    let code ← Compile.expr expr
    return .test code

/-- Compile parts, given the invocation found so far. -/
def compileParts (source : EventSource) :
    Option CompiledInvocation → List Typed.Part → Compile (Option CompiledInvocation × Filter)
  | invocation, [] => return (invocation, [])
  | some _, .invocation _ :: _ => throw .manyInvocations
  | none, .invocation i :: rest => do
    let invocation ← compileInvocation i
    let (found, filter) ← compileParts source (some invocation) rest
    return (found, invocation.step source :: filter)
  | invocation, .binding name expr :: rest => do
    let code ← Compile.expr expr
    Compile.declare name expr.ty
    let (found, filter) ← compileParts source invocation rest
    return (found, .assign name code :: filter)
  | invocation, .condition expr :: rest => do
    let code ← Compile.expr expr
    let (found, filter) ← compileParts source invocation rest
    return (found, .test code :: filter)
  | invocation, .predicate p :: rest => do
    let step ← compilePredicate p
    let (found, filter) ← compileParts source invocation rest
    return (found, step :: filter)

/-- Compile a trigger or query. -/
def compileClause (source : EventSource) (parts : List Typed.Part) : Compile CompiledClause := do
  let (invocation, filter) ← compileParts source none parts
  match invocation with
  | some invocation => return ⟨invocation, filter⟩
  | none => throw .noInvocation

end ChannelRules
