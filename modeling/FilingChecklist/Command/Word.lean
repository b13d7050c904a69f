namespace FilingChecklist.Command

inductive Word
  /-- two dashes, after which no option stands -/
  | terminator
  | long (name : String) (value : Option String)
  | short (letters : List Char)
  | plain (text : String)

/-- A dash alone is a plain word. -/
def Word.ofText (s : String) : Word :=
  match s.toList with
  | ['-', '-'] => .terminator
  | '-' :: '-' :: rest =>
      .long (String.ofList (rest.takeWhile (· != '=')))
        (match rest.dropWhile (· != '=') with
          | _ :: value => some (String.ofList value)
          | [] => none)
  | '-' :: c :: rest => .short (c :: rest)
  | _ => .plain s

inductive Stop
  | version
  | help
  | misuse
  deriving DecidableEq

inductive OptionKind
  /-- an option without value, which may be given more than once if `repeats` -/
  | flag (repeats : Bool)
  /-- an option with a value, which may be the empty text if `mayBeEmpty` -/
  | value (mayBeEmpty : Bool)
  /-- an option without value that ends the reading -/
  | stop (reason : Stop)

/-- The options of a command by name, and the letters that stand for some of the names. -/
structure Schema where
  kinds : List (String × OptionKind)
  letters : List (Char × String)

/-- The options that are given, the last one first, each with its value. Flags have empty values. -/
abbrev Given := List (String × String)

def giveValue (schema : Schema) (given : Given) (name value : String) : Except Stop Given :=
  match schema.kinds.lookup name with
  | some (.value mayBeEmpty) =>
      if (given.lookup name).isSome || (value.isEmpty && !mayBeEmpty) then .error .misuse
      else .ok ((name, value) :: given)
  | _ => .error .misuse

def giveFlag (schema : Schema) (given : Given) (name : String) : Except Stop Given :=
  match schema.kinds.lookup name with
  | some (.flag repeats) =>
      if (given.lookup name).isSome && !repeats then .error .misuse else .ok ((name, "") :: given)
  | some (.stop reason) => .error reason
  | _ => .error .misuse

def giveLetter (schema : Schema) (given : Given) (letter : Char) : Except Stop Given :=
  match schema.letters.lookup letter with
  | some name => giveFlag schema given name
  | none => .error .misuse

def takesValue (schema : Schema) (name : String) : Bool :=
  match schema.kinds.lookup name with
  | some (.value _) => true
  | _ => false

/-- Read options up to the first plain word, which is left with the words after it. -/
def readOptions (schema : Schema) (given : Given) : List String → Except Stop (Given × List String)
  | [] => .ok (given, [])
  | word :: rest =>
      match Word.ofText word, rest with
      | .terminator, [] => .ok (given, [])
      | .terminator, _ => .error .misuse
      | .plain _, rest => .ok (given, word :: rest)
      | .short letters, rest => do
          let given ← letters.foldlM (giveLetter schema) given
          readOptions schema given rest
      | .long name (some value), rest => do
          let given ← giveValue schema given name value
          readOptions schema given rest
      | .long name none, next :: others =>
          if takesValue schema name then
            match Word.ofText next with
            | .plain value => do
                let given ← giveValue schema given name value
                readOptions schema given others
            | _ => .error .misuse
          else do
            let given ← giveFlag schema given name
            readOptions schema given (next :: others)
      | .long name none, [] => do
          let given ← giveFlag schema given name
          return (given, [])

end FilingChecklist.Command
