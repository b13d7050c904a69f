import FilingChecklist.Command.Arguments
import FilingChecklist.Command.Config
import FilingChecklist.File.Attributes
import FilingChecklist.Json.Writer
import FilingChecklist.Rule.Explanation
import FilingChecklist.Store.Loading

/-!
What a command line does. A command reads at most one file and answers with one outcome; the reading
of files is a parameter, so the rules of the program stand apart from the machine it runs on.
-/

namespace FilingChecklist

inductive Failure
  | load (path : String) (cause : Store.LoadError)
  | attributes (path : String) (cause : File.AttributesError)
  | project (cause : ValidationError)

def Failure.message : Failure → String
  | load path cause => "loading snapshot " ++ path ++ ": " ++ cause.message path "no usable text"
  | attributes path cause => cause.message path
  | project cause => "invalid --project: " ++ cause.message

inductive Outcome
  | printed (text : String)
  /-- a checklist that lacks parameters -/
  | refused (cause : ValidationError)
  | failed (cause : Failure)
  | misused
  | misconfigured (cause : ConfigError)

namespace Outcome

def exitCode : Outcome → Nat
  | printed _ => 0
  | refused _ => 1
  | failed _ => 1
  | misused => 2
  | misconfigured _ => 2

def output : Outcome → String
  | printed text => text
  | _ => ""

/-- The complaint that is shown to the user. Failures are only logged. -/
def complaint? : Outcome → Option String
  | refused cause => some ("error: " ++ cause.message)
  | misconfigured cause => some ("error: " ++ cause.message)
  | _ => none

def line (text : String) : Outcome :=
  printed (text ++ "\n")

def ofExcept : Except Failure Outcome → Outcome
  | .ok outcome => outcome
  | .error cause => failed cause

end Outcome

namespace Command

def versionText : String := "ppass 0.1.0"

def usage : String :=
  "Usage: ppass [OPTIONS] <checklist|eval|explain>\n\n" ++
    "  checklist  [--project ID] [--jurisdiction KEY] [--permit-type KEY] [--pretty]\n" ++
    "  eval       --rule RULE [--values FILE | --project ID]\n" ++
    "  explain    --rule RULE\n\n" ++
    "Options: [-v|--verbose] [--snapshot FILE] [--log-json] [-h|--help] [-V|--version]"

def checklistOutcome (store : Store) (project jurisdiction permitType : Option String)
    (isIndented : Bool) : Outcome :=
  match store.checklistFor project jurisdiction permitType with
  | .ok list =>
      .line (list.toJson.write (if isIndented then .indented else .compact) 0)
  | .error cause => .refused cause

def evaluationOutcome (rule : String) (attributes : Object) : Outcome :=
  .line (if Source.evaluateText rule attributes then "true" else "false")

section Reading

variable {m : Type → Type} [Monad m]

def loadStore (read : String → m File.Contents) (path : String) : m (Except Failure Store) := do
  return (Store.load path (← read path)).mapError (.load path)

def attributesOf (read : String → m File.Contents) (config : Config) :
    AttributesSource → m (Except Failure Object)
  | .nothing => return .ok []
  | .file path => do
      return (File.attributes path (← read path)).mapError (.attributes path)
  | .project id =>
      match Key.ofText id with
      | .error cause => return .error (.project cause)
      | .ok id => do
          return (← loadStore read config.storePath).map (·.attributesFor id)

/-- Run a command, where `read` tells what is found at a path. -/
def run (read : String → m File.Contents) (config : Config) : Command → m Outcome
  | .checklist project jurisdiction permitType isIndented => do
      let loaded ← loadStore read config.storePath
      return .ofExcept (loaded.map fun store =>
        checklistOutcome store project jurisdiction permitType isIndented)
  | .evaluate rule source => do
      let attributes ← attributesOf read config source
      return .ofExcept (attributes.map (evaluationOutcome rule))
  | .explain rule => return .line (Explanation.ofText rule).toJson.indentedText

/-- What comes of a command line, where `environment` looks up a variable of the environment. -/
def outcome (read : String → m File.Contents) (environment : String → Option String)
    (words : List String) : m Outcome :=
  match parse words with
  | .error .version => return .line versionText
  | .error .help => return .line usage
  | .error .misuse => return .misused
  | .ok invocation =>
      match Config.ofEnvironment environment with
      | .error cause => return .misconfigured cause
      | .ok config =>
          run read (config.override invocation.storePath invocation.logAsJson) invocation.command

end Reading

end Command

end FilingChecklist
