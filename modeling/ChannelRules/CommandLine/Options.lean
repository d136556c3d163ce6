/-!
# Options of the command line

Three options name the files that the compiler reads and one asks for more log output, of which the
compiler has none. An option's value is the next argument or follows an equals sign; each option is
given at most once. Only the program has no default.
-/

namespace ChannelRules

namespace CommandLine

/-- An option of the command line. -/
inductive Flag where
  | config
  | schemas
  | program
  | verbose
  deriving DecidableEq

namespace Flag

/-- The long spelling of an option. -/
def long : Flag → String
  | config => "--config"
  | schemas => "--schemas"
  | program => "--program"
  | verbose => "--verbose"

/-- The short spelling of an option. -/
def short : Flag → String
  | config => "-c"
  | schemas => "-s"
  | program => "-p"
  | verbose => "-v"

def all : List Flag := [config, schemas, program, verbose]

/-- The option that an argument spells. -/
def ofText? (text : String) : Option Flag :=
  all.find? fun flag => text == flag.long || text == flag.short

end Flag

/-- Why the arguments are not understood. -/
inductive UsageError where
  | unexpected (argument : String)
  | repeated (flag : Flag)
  | valueMissing (flag : Flag)
  | valueUnexpected (flag : Flag)
  | programMissing

def UsageError.message : UsageError → String
  | unexpected argument => "unexpected argument '" ++ argument ++ "' found"
  | repeated flag => "the argument '" ++ flag.long ++ "' cannot be used multiple times"
  | valueMissing flag => "a value is required for '" ++ flag.long ++ "' but none was supplied"
  | valueUnexpected flag => "no value is expected for '" ++ flag.long ++ "'"
  | programMissing => "the following required arguments were not provided: --program <PROGRAM>"

/-- The options as they were given. -/
structure Given where
  config : Option String := none
  schemas : Option String := none
  program : Option String := none
  verbose : Bool := false

namespace Given

/-- Take the value of an option that has none yet. -/
def set (given : Given) (flag : Flag) (value : String) : Except UsageError Given :=
  match flag, given with
  | .config, { config := none, .. } => .ok { given with config := some value }
  | .schemas, { schemas := none, .. } => .ok { given with schemas := some value }
  | .program, { program := none, .. } => .ok { given with program := some value }
  | .verbose, _ => .error (.valueUnexpected .verbose)
  | flag, _ => .error (.repeated flag)

/-- Ask for more log output. -/
def setVerbose (given : Given) : Except UsageError Given :=
  if given.verbose then .error (.repeated .verbose) else .ok { given with verbose := true }

end Given

/-- An argument cut at its first equals sign. -/
def splitAtEquals (argument : String) : String × Option String :=
  match argument.toList.span (· != '=') with
  | (name, _ :: value) => (String.ofList name, some (String.ofList value))
  | (_, []) => (argument, none)

/-- Read the arguments from left to right. -/
def readArguments (given : Given) : List String → Except UsageError Given
  | [] => .ok given
  | argument :: rest =>
    let (name, value) := splitAtEquals argument
    match Flag.ofText? name, value with
    | none, _ => .error (.unexpected argument)
    | some flag, some value => do readArguments (← given.set flag value) rest
    | some .verbose, none => do readArguments (← given.setVerbose) rest
    | some flag, none =>
      match rest with
      | [] => .error (.valueMissing flag)
      | value :: rest => do readArguments (← given.set flag value) rest

/-- The files that the compiler reads, and whether more is logged. -/
structure Options where
  config : String
  schemas : String
  program : String
  verbose : Bool

/-- The options that the arguments ask for. -/
def Options.ofArguments (arguments : List String) : Except UsageError Options := do
  let given ← readArguments {} arguments
  match given.program with
  | none => .error .programMissing
  | some program =>
    return ⟨given.config.getD "config.json", given.schemas.getD "schemas.json", program,
      given.verbose⟩

end CommandLine

end ChannelRules
