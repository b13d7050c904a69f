import FilingChecklist.Command.Word

namespace FilingChecklist

inductive AttributesSource
  | nothing
  | file (path : String)
  | project (id : String)
  deriving DecidableEq

inductive Command
  | checklist (project jurisdiction permitType : Option String) (isIndented : Bool)
  | evaluate (rule : String) (attributes : AttributesSource)
  | explain (rule : String)
  deriving DecidableEq

namespace Command

structure Invocation where
  command : Command
  storePath : Option String
  logAsJson : Bool
  deriving DecidableEq

def generalOptions : List (String × OptionKind) :=
  [("help", .stop .help), ("verbose", .flag true), ("snapshot", .value false),
    ("log-json", .flag false)]

/-- The options before the name of the command. Only there may the version be asked for. -/
def outerSchema : Schema where
  kinds := ("version", .stop .version) :: generalOptions
  letters := [('v', "verbose"), ('h', "help"), ('V', "version")]

def commandOptions : List (String × List (String × OptionKind)) :=
  [("checklist", [("project", .value true), ("jurisdiction", .value true),
      ("permit-type", .value true), ("pretty", .flag false)]),
    ("eval", [("rule", .value true), ("values", .value false), ("project", .value true)]),
    ("explain", [("rule", .value true)])]

def schema? (name : String) : Option Schema :=
  (commandOptions.lookup name).map fun options =>
    { kinds := options ++ generalOptions, letters := [('v', "verbose"), ('h', "help")] }

def ofGiven? (name : String) (given : Given) : Option Command :=
  match name, given.lookup "rule" with
  | "checklist", _ =>
      some (.checklist (given.lookup "project") (given.lookup "jurisdiction")
        (given.lookup "permit-type") (given.lookup "pretty").isSome)
  | "eval", some rule =>
      match given.lookup "values", given.lookup "project" with
      | none, none => some (.evaluate rule .nothing)
      | some path, none => some (.evaluate rule (.file path))
      | none, some id => some (.evaluate rule (.project id))
      | some _, some _ => none
  | "explain", some rule => some (.explain rule)
  | _, _ => none

/-- Read a command line. A general option that stands after the command's name counts before one
that stands before it. -/
def parse (words : List String) : Except Stop Invocation := do
  let (outer, rest) ← readOptions outerSchema [] words
  match rest with
  | [] => .error .misuse
  | name :: rest =>
      match schema? name with
      | none => .error (if name = "help" then .help else .misuse)
      | some schema =>
          let (inner, rest) ← readOptions schema [] rest
          match rest, ofGiven? name inner with
          | [], some command =>
              return {
                command
                storePath := (inner ++ outer).lookup "snapshot"
                logAsJson := ((inner ++ outer).lookup "log-json").isSome
              }
          | _, _ => .error .misuse

end Command

end FilingChecklist
