import ChannelRules.Check.Expr

/-!
# Checking with names coming into scope

The parts of a rule are checked one after the other, and each can bring names into scope for the
ones after it. What was declared and noted before a failure is kept.
-/

namespace ChannelRules

/-- What does not change while a rule is checked. -/
structure Context where
  kinds : Named KindSchemas
  /-- The types of the keywords, by cell. -/
  keywords : Named Ty

/-- The names in scope and the notices given so far. -/
structure CheckState where
  scope : Scope
  notices : List Notice

/-- Checks that bring names into scope. -/
abbrev Check := EStateM CheckError CheckState

namespace Check

variable {α : Type}

/-- A check that declares nothing. -/
def ofNoted (x : Noted CheckError α) : Check α := fun s =>
  match x.result with
  | .ok a => .ok a { s with notices := s.notices ++ x.notices }
  | .error e => .error e { s with notices := s.notices ++ x.notices }

def declare (name : String) (entry : Entry) : Check PUnit := fun s =>
  match s.scope.declare? name entry with
  | some scope => .ok ⟨⟩ { s with scope := scope }
  | none => .error (.duplicateDeclaration name) s

def scope : Check Scope := do return (← get).scope

/-- Check an expression with the names in scope. -/
def expr (ctx : Context) (e : Source.Expr) : Check Typed.Expr := do
  ofNoted (checkExpr (← scope) ctx.keywords e)

/-- Bring two types together, or fail for the given reason. -/
def agree (a b : Ty) (reason : TypeError → CheckError) : Check Ty :=
  ofNoted ((Ty.agree a b).mapError reason)

/-- Check items one after the other, up to the first failure. -/
def forAll {β : Type} (f : α → Check β) : List α → Check (List β)
  | [] => return []
  | a :: rest => do
    let b ← f a
    let bs ← forAll f rest
    return b :: bs

/-- Run a check in a layer of its own, which is left afterwards. -/
def inLayer (x : Check α) : Check α := fun s =>
  match x { s with scope := s.scope.enter } with
  | .ok a s => .ok a { s with scope := s.scope.exit }
  | .error e s => .error e { s with scope := s.scope.exit }

/-- The outcome of a check that starts with the given names in scope. -/
def run (x : Check α) (scope : Scope) : Noted CheckError α :=
  match x ⟨scope, []⟩ with
  | .ok a s => ⟨s.notices, .ok a⟩
  | .error e s => ⟨s.notices, .error e⟩

end Check

end ChannelRules
