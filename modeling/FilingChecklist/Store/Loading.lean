import FilingChecklist.File.Format
import FilingChecklist.Store.Basic

namespace FilingChecklist.Store

inductive LoadError
  | unreadable
  | unparseable (format : File.Format)
  deriving DecidableEq

def LoadError.message (path cause : String) : LoadError → String
  | unreadable => "failed to read snapshot at " ++ path ++ ": " ++ cause
  | unparseable format =>
      "failed to parse " ++ format.title ++ " snapshot at " ++ path ++ ": " ++ cause

def ofText (format : File.Format) (s : String) : Except LoadError Store :=
  match format.read? s with
  | some data => .ok (ofJson data)
  | none => .error (.unparseable format)

/-- Load a store from the file at `path`. A file that does not exist is an empty store, as before
the first save; a file that is there must be readable and well formed. -/
def load (path : String) : File.Contents → Except LoadError Store
  | .text s => ofText (.ofPath path) s
  | .missing => .ok empty
  | .unreadable => .error .unreadable

end FilingChecklist.Store
