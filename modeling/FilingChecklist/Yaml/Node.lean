import FilingChecklist.Yaml.Scalar

namespace FilingChecklist.Yaml

inductive Node
  | scalar (s : Scalar)
  | sequence (items : List Node)
  | mapping (fields : List (Scalar × Node))

namespace Node

def empty : Node :=
  .scalar { text := "", isPlain := true }

mutual

/-- The data of a node. A key is text as it is written, and of two fields with one key the later one
counts. -/
def toJson? : Node → Option Json
  | .scalar s => s.value?
  | .sequence items => do return .array (← toJsonEach? items)
  | .mapping fields => do return .object (Fields.ofList (← toFields? fields))

def toJsonEach? : List Node → Option (List Json)
  | [] => some []
  | item :: items => do return (← toJson? item) :: (← toJsonEach? items)

def toFields? : List (Scalar × Node) → Option (List (String × Json))
  | [] => some []
  | (key, value) :: fields => do return (key.text, ← toJson? value) :: (← toFields? fields)

end

end Node

end FilingChecklist.Yaml
