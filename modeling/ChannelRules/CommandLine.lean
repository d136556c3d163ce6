import ChannelRules.Code.Rule
import ChannelRules.Codec.Source
import ChannelRules.Settings

namespace ChannelRules

namespace CommandLine

/-- What the compiler prints, and its exit code. -/
structure Report where
  exit : Nat
  output : String
  errors : String

/-- Why the compiler stops. -/
inductive Failure where
  | schema (error : SchemaError)
  | compile (error : CompileError)
  /-- A file cannot be read. -/
  | file (reason : String)

def Failure.message : Failure → String
  | schema error => "Schema error: " ++ error.message
  | compile error => "Compile error: " ++ error.message
  | file reason => "Internal error: " ++ reason

/-- Why a file that is not there cannot be read. -/
def missingFile : String := "No such file or directory (os error 2)"

/-- Why a file cannot be understood. -/
def malformed : String := "not a document of the expected form"

/-- The settings in a file, or those that are taken without one. -/
def readSettings : Option String → Except Failure Settings
  | none => .ok Settings.default
  | some text =>
    match Settings.ofText? text with
    | some settings => .ok settings
    | none => .error (.file ("Failed to parse config file: " ++ malformed))

/-- The snapshot of the schema store in a file. -/
def readStore : Option String → Except Failure (Named KindSchemas)
  | none => .error (.schema (.client ("Failed to read schema snapshot: " ++ missingFile)))
  | some text =>
    match (Json.ofText? text).bind KindSchemas.decodeAll with
    | some store => .ok store
    | none => .error (.schema (.client ("Failed to parse schema snapshot: " ++ malformed)))

def readProgram : Option String → Except Failure Source.Program
  | none => .error (.file ("Failed to open config file: " ++ missingFile))
  | some text =>
    match (Json.ofText? text).bind Source.Program.decode with
    | some program => .ok program
    | none => .error (.file ("Failed to parse config file: " ++ malformed))

variable [PatternEngine]

def compileFiles (settings store program : Option String) : Except Failure CompiledProgram := do
  let _ ← readSettings settings
  let store ← readStore store
  let program ← readProgram program
  (compile store program).mapError Failure.compile

def describe (program : CompiledProgram) : List String :=
  (program.name ++ ": " ++ toString program.rules.length ++ " rule(s)") ::
    program.rules.map fun rule => "  " ++ rule.summary

/-- The lines about a failure. -/
def explain (failure : Failure) : List String :=
  ("Error: " ++ failure.message) ::
    match failure with
    | .compile _ => ["The program was rejected; nothing was compiled."]
    | _ => []

def unlines (lines : List String) : String := String.join (lines.map (· ++ "\n"))

/-- Run the compiler on the contents of its files. -/
def run (settings store program : Option String) : Report :=
  match compileFiles settings store program with
  | .ok compiled => ⟨0, unlines (describe compiled), ""⟩
  | .error failure => ⟨1, "", unlines (explain failure)⟩

end CommandLine

end ChannelRules
