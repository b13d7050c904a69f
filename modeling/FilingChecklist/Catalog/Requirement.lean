import FilingChecklist.Catalog.Row
import FilingChecklist.Rule.Evaluation

namespace FilingChecklist

structure Requirement where
  jurisdiction : Key .jurisdiction
  permitType : Key .permitType
  documentType : Key .documentType
  active : Bool
  /-- The rule as authored. -/
  source : Json
  rule : Rule
  /-- The other columns of the catalog, passed through. -/
  extra : Object

namespace Requirement

def ruleColumns : List String :=
  ["rule_definition", "ruleDefinition", "rule"]

/-- Columns that the checklist writes itself. -/
def reservedColumns : List String :=
  ["active", "display_name", "satisfied"]

/-- The columns that are not passed through. -/
def ownColumns : List String :=
  KeyKind.jurisdiction.columns ++ KeyKind.permitType.columns ++ KeyKind.documentType.columns ++
    ruleColumns ++ reservedColumns

def new (jurisdiction : Key .jurisdiction) (permitType : Key .permitType)
    (documentType : Key .documentType) (source : Json) : Requirement where
  jurisdiction
  permitType
  documentType
  active := true
  source
  rule := .ofSource source
  extra := []

def withActive (r : Requirement) (active : Bool) : Requirement :=
  { r with active }

/-- The rule of a row: what the first rule column that is not null holds. -/
def sourceOfRow (row : Object) : Json :=
  (Fields.first? row ruleColumns Json.nonNull?).getD .null

def ofRow (row : Json) : Except RowError Requirement := do
  let row ← Row.object row
  let jurisdiction ← Row.key row .jurisdiction
  let permitType ← Row.key row .permitType
  let documentType ← Row.key row .documentType
  let r := (new jurisdiction permitType documentType (sourceOfRow row)).withActive
    (Row.isActive (Fields.get? row "active"))
  return { r with extra := Fields.erase row ownColumns }

/-- The requirement as a catalog row, its extra columns last. -/
def columns (r : Requirement) : Object :=
  [(KeyKind.jurisdiction.column, .string r.jurisdiction.text),
    (KeyKind.permitType.column, .string r.permitType.text),
    (KeyKind.documentType.column, .string r.documentType.text),
    ("active", .bool r.active),
    ("rule_definition", r.source)] ++ r.extra

def isListedFor (r : Requirement) (jurisdiction : Key .jurisdiction)
    (permitType : Key .permitType) : Bool :=
  r.active && r.jurisdiction == jurisdiction && r.permitType == permitType

def appliesTo (r : Requirement) (attributes : Object) : Bool :=
  r.rule.evaluate attributes

end Requirement

end FilingChecklist
