import ChannelRules.Check.Program

/-!
# The kinds a program refers to

The schemas of all kinds that a program refers to are fetched before it is checked. The builtin
device and compute modules have no schemas to fetch.
-/

namespace ChannelRules

namespace Source

/-- The kinds whose schemas an invocation needs. -/
def Part.remoteKinds : Part → List String
  | invocation i => if i.selector.isRemote then i.selector.kind?.toList else []
  | _ => []

mutual

/-- The kinds whose schemas a statement needs. -/
def Statement.remoteKinds : Statement → List String
  | computeModule _ statements => remoteKindsAll statements
  | keyword _ _ => []
  | rule trigger queries actions => (trigger ++ queries.flatten ++ actions).flatMap Part.remoteKinds
  | command queries actions => (queries.flatten ++ actions).flatMap Part.remoteKinds

def Statement.remoteKindsAll : List Statement → List String
  | [] => []
  | statement :: rest => remoteKinds statement ++ remoteKindsAll rest

end

/-- The kinds whose schemas a program needs. -/
def Program.remoteKinds (program : Program) : NameSet :=
  NameSet.ofNames (Statement.remoteKindsAll program.statements)

end Source

/-- Fetch the schemas of kinds from a store, up to the first kind that the store does not have. -/
def fetchKinds (store : Named KindSchemas) : List String → Except SchemaError (Named KindSchemas)
  | [] => .ok []
  | kind :: rest =>
    match Named.get? store kind with
    | none => .error (.unknownKind kind)
    | some schemas => do
      let others ← fetchKinds store rest
      return Named.insert others kind schemas

/-- Check a program against a store of schemas. -/
def verify (store : Named KindSchemas) (program : Source.Program) :
    Noted CheckError Typed.Program := do
  let kinds ← (Noted.ofExcept (fetchKinds store program.remoteKinds)).mapError CheckError.schema
  checkProgram kinds program

end ChannelRules
