import FilingChecklist.Json.Token

/-!
Reading the exchange format. Tokens drive a pushdown machine whose stack holds the arrays and
objects that are still open, so the nesting of a text is the height of the stack.
-/

namespace FilingChecklist.Json

/-- An open array with its items so far, last one first, or an open object with its fields so far
and the name of the field being read. -/
inductive Frame
  | array (items : List Json)
  | object (fields : Object) (name : String)

/-- What the machine waits for. -/
inductive Reading
  /-- a value -/
  | value (stack : List Frame)
  /-- a value, or the end of an array without items -/
  | item (stack : List Frame)
  /-- the name of a field, or the end of the object if it has no fields -/
  | field (stack : List Frame) (fields : Object) (first : Bool)
  /-- the colon after a name -/
  | colon (stack : List Frame) (fields : Object) (name : String)
  /-- what follows a complete value -/
  | complete (stack : List Frame) (v : Json)

namespace Reading

/-- Begin a value with at most `limit` arrays and objects open. -/
def begin (limit : Nat) (stack : List Frame) : Token → Option Reading
  | .scalar v => some (.complete stack v)
  | .openArray => if stack.length < limit then some (.item stack) else none
  | .openObject => if stack.length < limit then some (.field stack [] true) else none
  | _ => none

/-- Continue after a value that stands in the innermost open array or object. -/
def resume (v : Json) : List Frame → Token → Option Reading
  | .array items :: stack, .comma => some (.value (.array (v :: items) :: stack))
  | .array items :: stack, .closeArray => some (.complete stack (.array (v :: items).reverse))
  | .object fields name :: stack, .comma => some (.field stack (fields.insert name v) false)
  | .object fields name :: stack, .closeObject =>
      some (.complete stack (.object (fields.insert name v)))
  | _, _ => none

def step (limit : Nat) : Reading → Token → Option Reading
  | .value stack, token => begin limit stack token
  | .item stack, .closeArray => some (.complete stack (.array []))
  | .item stack, token => begin limit (.array [] :: stack) token
  | .field stack _ true, .closeObject => some (.complete stack (.object []))
  | .field stack fields _, .scalar (.string name) => some (.colon stack fields name)
  | .field _ _ _, _ => none
  | .colon stack fields name, .colon => some (.value (.object fields name :: stack))
  | .colon _ _ _, _ => none
  | .complete stack v, token => resume v stack token

def result? : Reading → Option Json
  | .complete [] v => some v
  | _ => none

end Reading

/-- Read a text that is one value, with at most `limit` arrays and objects inside each other. -/
def readWithin? (limit : Nat) (cs : List Char) : Option Json := do
  let tokens ← Token.ofText? cs
  let last ← tokens.foldlM (Reading.step limit) (.value [])
  last.result?

def maxNesting : Nat := 127

def ofText? (s : String) : Option Json :=
  readWithin? maxNesting s.toList

end FilingChecklist.Json
