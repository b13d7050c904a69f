import FilingChecklist.File.Format

namespace FilingChecklist.File

inductive AttributesError
  | unreadable
  | unparseable (format : Format)
  | notAnObject
  deriving DecidableEq

def AttributesError.message (path : String) : AttributesError → String
  | unreadable => "reading attributes " ++ path
  | unparseable format => "parsing " ++ format.title ++ " attributes " ++ path
  | notAnObject => "attributes file " ++ path ++ " must contain an object"

/-- The attributes in a file at `path`: one object in JSON or YAML. -/
def attributes (path : String) : Contents → Except AttributesError Object
  | .text s =>
      match (Format.ofPath path).read? s with
      | some (.object fields) => .ok fields
      | some _ => .error .notAnObject
      | none => .error (.unparseable (.ofPath path))
  | _ => .error .unreadable

end FilingChecklist.File
