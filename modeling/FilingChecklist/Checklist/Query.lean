import FilingChecklist.Catalog.Record

namespace FilingChecklist

inductive Parameter
  | jurisdiction
  | permitType
  | project
  deriving DecidableEq

def Parameter.name : Parameter → String
  | jurisdiction => "municipalityKey"
  | permitType => "permitTypeKey"
  | project => "projectId"

inductive ValidationError
  | emptyKey (kind : KeyKind)
  | missingParameters (parameters : List Parameter)
  deriving DecidableEq

def ValidationError.message : ValidationError → String
  | emptyKey kind => "invalid " ++ kind.description ++ ": must be non-empty"
  | missingParameters parameters =>
      "Missing required query parameter" ++ (if 1 < parameters.length then "s" else "") ++ ": " ++
        String.intercalate ", " (parameters.map Parameter.name)

def Key.ofText {kind : KeyKind} (s : String) : Except ValidationError (Key kind) :=
  match Key.ofText? s with
  | some key => .ok key
  | none => .error (.emptyKey kind)

structure Query where
  jurisdiction : Key .jurisdiction
  permitType : Key .permitType
  project : Key .project
  deriving DecidableEq

namespace Query

/-- A query from raw parameters, each of which may be absent or blank. -/
def ofParameters (jurisdiction permitType project : Option String) :
    Except ValidationError Query :=
  let jurisdiction : Option (Key .jurisdiction) := jurisdiction.bind Key.ofText?
  let permitType : Option (Key .permitType) := permitType.bind Key.ofText?
  let project : Option (Key .project) := project.bind Key.ofText?
  match jurisdiction, permitType, project with
  | some jurisdiction, some permitType, some project =>
      .ok { jurisdiction, permitType, project }
  | _, _, _ =>
      .error (.missingParameters
        ((if jurisdiction.isNone then [.jurisdiction] else []) ++
          (if permitType.isNone then [.permitType] else []) ++
          (if project.isNone then [.project] else [])))

def ofProject (p : Project) : Query where
  jurisdiction := p.jurisdiction
  permitType := p.permitType
  project := p.id

end Query

end FilingChecklist
