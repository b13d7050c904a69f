import FilingChecklist.Checklist.Basic

/-!
Stores: the catalogs, documents, projects and attributes that checklists are made from. Reading a
store is tolerant: sections that are missing or no lists are empty, and rows that cannot be used are
left out.
-/

namespace FilingChecklist

structure Store where
  documentTypes : List DocumentType
  /-- The requirement catalog, in catalog order. -/
  requirements : List Requirement
  documents : List Document
  projects : List Project
  /-- The attributes of each project that has some, by the text of its key. -/
  projectValues : Fields Object

namespace Store

def empty : Store where
  documentTypes := []
  requirements := []
  documents := []
  projects := []
  projectValues := []

def readSection {α : Type} (read : Json → Except RowError α) : Option Json → List α
  | some (.array rows) => rows.filterMap fun row => (read row).toOption
  | _ => []

/-- Attributes by trimmed project key. Of two keys that trim alike the later one counts, and entries
that are not objects are left out. -/
def readProjectValues : Option Json → Fields Object
  | some (.object entries) =>
      Fields.ofList (entries.filterMap fun entry =>
        entry.2.object?.map fun attributes => (Text.trimmed entry.1, attributes))
  | _ => []

def ofJson : Json → Store
  | .object sections => {
      documentTypes := readSection DocumentType.ofRow (Fields.get? sections "documentTypes")
      requirements :=
        readSection Requirement.ofRow (Fields.get? sections "supplementalRequirements")
      documents := readSection Document.ofRow (Fields.get? sections "documents")
      projects := readSection Project.ofRow (Fields.get? sections "projects")
      projectValues := readProjectValues (Fields.get? sections "projectValues")
    }
  | _ => empty

def project? (store : Store) (id : Key .project) : Option Project :=
  store.projects.find? fun p => p.id == id

/-- The attributes of a project; a project without stored attributes has none. -/
def attributesFor (store : Store) (id : Key .project) : Object :=
  (Fields.get? store.projectValues id.text).getD []

/-- The checklist of a query with the given attributes in place of the stored ones. -/
def compose (store : Store) (query : Query) (attributes : Object) : Checklist :=
  .compose store.requirements store.documentTypes store.documents query attributes

def checklist (store : Store) (query : Query) : Checklist :=
  store.compose query (store.attributesFor query.project)

def projectQuery? (store : Store) (id : Key .project) : Option Query :=
  (store.project? id).map .ofProject

def orDefault (given stored : Option String) : Option String :=
  match given with
  | some s => if (Text.trimmed s).isEmpty then stored else some s
  | none => stored

/-- The checklist for a project, jurisdiction and permit type, where the latter two default to those
of the stored project. -/
def checklistFor (store : Store) (project jurisdiction permitType : Option String) :
    Except ValidationError Checklist := do
  let stored : Option Project := (project.bind Key.ofText?).bind store.project?
  let query ← Query.ofParameters
    (orDefault jurisdiction (stored.map fun p => p.jurisdiction.text))
    (orDefault permitType (stored.map fun p => p.permitType.text))
    project
  return store.checklist query

end Store

end FilingChecklist
