import FilingChecklist.Catalog.Requirement
import FilingChecklist.Checklist.Query

namespace FilingChecklist

namespace Checklist

structure Entry where
  requirement : Requirement
  displayName : Option String
  satisfied : Bool

end Checklist

structure Checklist where
  supplements : List Checklist.Entry

namespace Checklist

/-- How many documents are required. -/
def required (c : Checklist) : Nat :=
  c.supplements.length

/-- How many of them have been handed in. -/
def satisfied (c : Checklist) : Nat :=
  (c.supplements.filter Entry.satisfied).length

/-- The name of a document type, as the first entry for it in the catalog gives it. -/
def displayName? (documentTypes : List DocumentType) (key : Key .documentType) : Option String :=
  (documentTypes.find? fun t => t.key == key).bind DocumentType.displayName

def entry (documentTypes : List DocumentType) (documents : List Document) (project : Key .project)
    (r : Requirement) : Entry where
  requirement := r
  displayName := displayName? documentTypes r.documentType
  satisfied := documents.any fun d => d.satisfies r.documentType project

/-- The requirements of a catalog that a query lists and that apply to a project with the given
attributes. -/
def applicable (catalog : List Requirement) (query : Query) (attributes : Object) :
    List Requirement :=
  catalog.filter fun r =>
    r.isListedFor query.jurisdiction query.permitType && r.appliesTo attributes

def compose (catalog : List Requirement) (documentTypes : List DocumentType)
    (documents : List Document) (query : Query) (attributes : Object) : Checklist where
  supplements :=
    (applicable catalog query attributes).map (entry documentTypes documents query.project)

def Entry.columns (e : Entry) : Object :=
  e.requirement.columns ++
    [("display_name", textOrNull e.displayName), ("satisfied", .bool e.satisfied)]

def toJson (c : Checklist) : Json :=
  .object [
    ("supplements", .array (c.supplements.map fun e => .object e.columns)),
    ("counts", .object [("required", .ofNat c.required), ("satisfied", .ofNat c.satisfied)])
  ]

end Checklist

end FilingChecklist
