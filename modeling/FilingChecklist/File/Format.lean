import FilingChecklist.Json.Reader
import FilingChecklist.Text.Blank
import FilingChecklist.Text.Parts
import FilingChecklist.Yaml.Reader

namespace FilingChecklist.File

inductive Format
  | json
  | yaml
  deriving DecidableEq

/-- The names on a path. Empty names and `.` do not count. -/
def names (path : String) : List (List Char) :=
  (Text.parts '/' path.toList).filter fun name => !name.isEmpty && name != ['.']

/-- What follows the last dot of a name. A dot at the beginning starts no extension, and the name
`..` has none. -/
def extension? (name : List Char) : Option (List Char) :=
  let reversed := name.reverse
  match reversed.dropWhile (· != '.') with
  | _ :: _ :: _ =>
      if name == ['.', '.'] then none else some (reversed.takeWhile (· != '.')).reverse
  | _ => none

namespace Format

def name : Format → String
  | json => "json"
  | yaml => "yaml"

def title : Format → String
  | json => "JSON"
  | yaml => "YAML"

def ofPath (path : String) : Format :=
  match (names path).getLast?.bind extension? with
  | some ext =>
      let ext := Text.asciiLower (String.ofList ext)
      if ext = "yaml" ∨ ext = "yml" then yaml else json
  | none => json

def read? : Format → String → Option Json
  | json => Json.ofText?
  | yaml => Yaml.ofText?

end Format

/-- What is found at a path. -/
inductive Contents
  | text (s : String)
  | missing
  /-- a directory, bytes that are no text, or a file that may not be read -/
  | unreadable

end FilingChecklist.File
