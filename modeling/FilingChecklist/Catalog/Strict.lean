import FilingChecklist.Catalog.Record

namespace FilingChecklist.Strict

/-- The value under any of the spellings of a field, if there is one; refused if there are two. -/
def value? (fields : Object) (spellings : List String) : Option (Option Json) :=
  match fields.filter fun entry => spellings.contains entry.1 with
  | [] => some none
  | [entry] => some (some entry.2)
  | _ => none

/-- The values of a record, which is an object or the list of its values, by the spellings of its
fields. A field may lack a value, and other fields are ignored. -/
def values? (schema : List (List String)) : Json → Option (List (Option Json))
  | .object fields => schema.mapM (value? fields)
  | .array items =>
      if items.length ≤ schema.length then
        some (items.map some ++ List.replicate (schema.length - items.length) none)
      else none
  | _ => none

def key? {kind : KeyKind} : Json → Option (Key kind)
  | .string s => Key.ofText? s
  | _ => none

def optionalText? : Option Json → Option (Option String)
  | none => some none
  | some .null => some none
  | some (.string s) => some (some s)
  | some _ => none

def documentTypeSchema : List (List String) :=
  [["doc_type_key", "document_type_key"], ["display_name"]]

def documentType? (v : Json) : Option DocumentType := do
  match ← values? documentTypeSchema v with
  | [key, displayName] =>
      return { key := ← key?  (← key), displayName := ← optionalText? displayName }
  | _ => none

def documentSchema : List (List String) :=
  [["project_id"], ["doc_type_key", "document_type_key"], ["status"]]

def document? (v : Json) : Option Document := do
  match ← values? documentSchema v with
  | [project, documentType, status] =>
      return {
        project := ← key? (← project)
        documentType := ← key? (← documentType)
        status := (← optionalText? status).map .mk
      }
  | _ => none

def projectSchema : List (List String) :=
  [["project_id"], ["display_name"], ["municipality_key", "jurisdiction_key"], ["permit_type_key"],
    ["created_at"]]

def project? (v : Json) : Option Project := do
  match ← values? projectSchema v with
  | [id, displayName, jurisdiction, permitType, createdAt] =>
      return {
        id := ← key? (← id)
        displayName := ← optionalText? displayName
        jurisdiction := ← key? (← jurisdiction)
        permitType := ← key? (← permitType)
        createdAt := ← (← createdAt).string?
      }
  | _ => none

end FilingChecklist.Strict
