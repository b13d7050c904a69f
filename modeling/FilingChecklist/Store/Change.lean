import FilingChecklist.Store.Basic

namespace FilingChecklist

namespace Store

inductive Change
  /-- Take another store in place of this one. -/
  | replace (data : Json)
  | addRequirement (row : Json)
  | addDocumentType (row : Json)
  | addDocument (row : Json)
  | addProject (row : Json)
  /-- Add an active requirement by its keys, which are validated in this order. -/
  | defineRequirement (jurisdiction permitType documentType : String) (source : Json)
  /-- Set the active flag of the requirement at a position. -/
  | setActive (position : Nat) (active : Bool)
  /-- Set the attributes under a project key, taken as it is. -/
  | setValues (project : String) (attributes : Object)

inductive ChangeError
  | row (cause : RowError)
  | validation (cause : ValidationError)

def apply (store : Store) : Change → Except ChangeError Store
  | .replace data => .ok (ofJson data)
  | .addRequirement row => do
      let r ← (Requirement.ofRow row).mapError .row
      return { store with requirements := store.requirements ++ [r] }
  | .addDocumentType row => do
      let t ← (DocumentType.ofRow row).mapError .row
      return { store with documentTypes := store.documentTypes ++ [t] }
  | .addDocument row => do
      let d ← (Document.ofRow row).mapError .row
      return { store with documents := store.documents ++ [d] }
  | .addProject row => do
      let p ← (Project.ofRow row).mapError .row
      return { store with projects := store.projects ++ [p] }
  | .defineRequirement jurisdiction permitType documentType source => do
      let jurisdiction ← (Key.ofText jurisdiction).mapError .validation
      let permitType ← (Key.ofText permitType).mapError .validation
      let documentType ← (Key.ofText documentType).mapError .validation
      let r := Requirement.new jurisdiction permitType documentType source
      return { store with requirements := store.requirements ++ [r] }
  | .setActive position active =>
      .ok { store with
        requirements := store.requirements.modify position fun r => r.withActive active }
  | .setValues project attributes =>
      .ok { store with projectValues := store.projectValues.insert project attributes }

/-- Apply changes in order, passing over those that are refused. -/
def run (store : Store) (changes : List Change) : Store :=
  changes.foldl (fun store change => (store.apply change).toOption.getD store) store

end Store

end FilingChecklist
