import FilingChecklist.Catalog.Row

namespace FilingChecklist

structure DocumentType where
  key : Key .documentType
  displayName : Option String
  deriving DecidableEq

structure DocumentStatus where
  text : String
  deriving DecidableEq

def DocumentStatus.isRejected (status : DocumentStatus) : Bool :=
  Text.asciiLower (Text.trimmed status.text) == "rejected"

structure Document where
  project : Key .project
  documentType : Key .documentType
  status : Option DocumentStatus
  deriving DecidableEq

structure Project where
  id : Key .project
  displayName : Option String
  jurisdiction : Key .jurisdiction
  permitType : Key .permitType
  createdAt : String
  deriving DecidableEq

def textOrNull (s : Option String) : Json :=
  .ofOption (s.map .string)

namespace DocumentType

def ofRow (row : Json) : Except RowError DocumentType := do
  let row ← Row.object row
  let key ← Row.key row .documentType
  return { key, displayName := Row.text? row "display_name" }

def toJson (t : DocumentType) : Json :=
  .object [
    ("doc_type_key", .string t.key.text),
    ("display_name", textOrNull t.displayName)
  ]

end DocumentType

namespace Document

def ofRow (row : Json) : Except RowError Document := do
  let row ← Row.object row
  let project ← Row.key row .project
  let documentType ← Row.key row .documentType
  return { project, documentType, status := (Row.text? row "status").map .mk }

def toJson (d : Document) : Json :=
  .object [
    ("project_id", .string d.project.text),
    ("doc_type_key", .string d.documentType.text),
    ("status", textOrNull (d.status.map DocumentStatus.text))
  ]

def isRejected (d : Document) : Bool :=
  d.status.any DocumentStatus.isRejected

/-- Whether the document is of a type, belongs to a project and has not been rejected. -/
def satisfies (d : Document) (documentType : Key .documentType) (project : Key .project) : Bool :=
  d.documentType == documentType && d.project == project && !d.isRejected

end Document

namespace Project

/-- Read a project row. Its keys must be text under the names under which they are written. -/
def ofRow (row : Json) : Except RowError Project := do
  let row ← Row.object row
  let id ← Row.textKey row .project
  let jurisdiction ← Row.textKey row .jurisdiction
  let permitType ← Row.textKey row .permitType
  let createdAt ← Row.text row "created_at"
  return { id, displayName := Row.text? row "display_name", jurisdiction, permitType, createdAt }

def toJson (p : Project) : Json :=
  .object [
    ("project_id", .string p.id.text),
    ("display_name", textOrNull p.displayName),
    ("municipality_key", .string p.jurisdiction.text),
    ("permit_type_key", .string p.permitType.text),
    ("created_at", .string p.createdAt)
  ]

end Project

end FilingChecklist
