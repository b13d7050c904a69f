import FilingChecklist.Yaml.Node
import FilingChecklist.Yaml.Written

/-!
Reading a document. Blocks are laid out by columns: the items of a sequence and the keys of a
mapping stand in one column each, and what belongs to an item or to a key stands further to the
right. Between brackets columns do not count. A text is one document at most.

The readers take `steps`, which bounds how deep they call each other and is more than the text has
characters, and `levels`, which bounds how deep sequences and mappings stand inside each other.
-/

namespace FilingChecklist.Yaml

namespace Node

/-- What stands after an entry between brackets: a comma, which may be followed by the closing
bracket, or that bracket. The result tells whether the bracket stands there. -/
def entryEnd? (close : Char) (text : Rest) : Option (Bool × Rest) :=
  let text := Rest.skipInFlow text
  match Rest.after? close text, Rest.after? ',' text with
  | some rest, _ => some (true, rest)
  | _, some rest => some (false, rest)
  | _, _ => none

/-- Whether the value of a field between brackets is left out. -/
def lacksFlowValue (close : Char) (text : Rest) : Bool :=
  text.head?.any fun g => g.char == ',' || g.char == close

mutual

/-- Read the node that begins here between brackets, or a sequence or mapping in brackets. -/
def readFlow (steps levels least : Nat) (text : Rest) : Option (Node × Rest) :=
  match steps with
  | 0 => none
  | steps + 1 =>
      match Rest.after? '[' text, Rest.after? '\x7b' text with
      | some rest, _ =>
          if levels = 0 then none else readItems steps (levels - 1) least [] rest
      | _, some rest =>
          if levels = 0 then none else readFields steps (levels - 1) least [] rest
      | _, _ => (Scalar.read? true least text).map fun (s, rest) => (.scalar s, rest)

def readFlowValue (steps levels least : Nat) (close : Char) (text : Rest) :
    Option (Node × Rest) :=
  match steps with
  | 0 => none
  | steps + 1 =>
      let text := Rest.skipInFlow text
      if lacksFlowValue close text then some (empty, text) else readFlow steps levels least text

/-- Read an item of a sequence in brackets. A single field is a mapping of its own. -/
def readItem (steps levels least : Nat) (text : Rest) : Option (Node × Rest) :=
  match steps with
  | 0 => none
  | steps + 1 =>
      match text.head?, Scalar.read? true least text with
      | some start, some (s, rest) =>
          match Scalar.afterColon? true start rest with
          | some rest =>
              if levels = 0 then none
              else
                (readFlowValue steps (levels - 1) least ']' rest).map fun (value, rest) =>
                  (.mapping [(s, value)], rest)
          | none => some (.scalar s, rest)
      | _, _ => readFlow steps levels least text

/-- Read on in a sequence in brackets, before an item or the closing bracket. -/
def readItems (steps levels least : Nat) (items : List Node) (text : Rest) :
    Option (Node × Rest) :=
  match steps with
  | 0 => none
  | steps + 1 =>
      let text := Rest.skipInFlow text
      match Rest.after? ']' text with
      | some rest => some (.sequence items.reverse, rest)
      | none => do
          let (item, rest) ← readItem steps levels least text
          let (closed, rest) ← entryEnd? ']' rest
          if closed then some (.sequence (item :: items).reverse, rest)
          else readItems steps levels least (item :: items) rest

/-- Read a field of a mapping in brackets. A key may stand without value. -/
def readField (steps levels least : Nat) (text : Rest) : Option ((Scalar × Node) × Rest) :=
  match steps with
  | 0 => none
  | steps + 1 => do
      let start ← text.head?
      let (key, rest) ← Scalar.read? true least text
      match Scalar.afterColon? true start rest with
      | some rest =>
          (readFlowValue steps levels least '\x7d' rest).map fun (value, rest) =>
            ((key, value), rest)
      | none => some ((key, empty), rest)

/-- Read on in a mapping in brackets, before a field or the closing bracket. -/
def readFields (steps levels least : Nat) (fields : List (Scalar × Node)) (text : Rest) :
    Option (Node × Rest) :=
  match steps with
  | 0 => none
  | steps + 1 =>
      let text := Rest.skipInFlow text
      match Rest.after? '\x7d' text with
      | some rest => some (.mapping fields.reverse, rest)
      | none => do
          let (field, rest) ← readField steps levels least text
          let (closed, rest) ← entryEnd? '\x7d' rest
          if closed then some (.mapping (field :: fields).reverse, rest)
          else readFields steps levels least (field :: fields) rest

end

/-- Whether nothing belongs to what was read last: the text or the document ends here, or a row
begins left of the column `least`. -/
def endsBlock (least : Nat) (text : Rest) : Bool :=
  Rest.boundsDocument text || text.head?.all (·.column < least)

/-- What follows a dash that leads its row and stands in `column`. -/
def dashIn? (column : Nat) (text : Rest) : Option Rest :=
  if text.head?.any fun g => g.leads && g.column == column then Rest.afterWord? '-' text else none

mutual

/-- Read the block that begins here. It may be a sequence or a mapping by columns only if
`startsBlock` is set, that is, at the head of a row or after a dash. -/
def readBlock (steps levels least : Nat) (startsBlock : Bool) (text : Rest) :
    Option (Node × Rest) :=
  match steps with
  | 0 => none
  | steps + 1 => do
      let start ← text.head?
      match Rest.afterWord? '-' text, Scalar.read? false least text with
      | some rest, _ =>
          if !startsBlock || levels = 0 then none
          else readDashes steps (levels - 1) start.column [] rest
      | none, some (s, rest) =>
          match Scalar.afterColon? false start rest with
          | some rest =>
              if !startsBlock || levels = 0 then none
              else do
                let (value, rest) ← readValue steps (levels - 1) start.column rest
                readKeys steps (levels - 1) start.column [(s, value)] rest
          | none => some (.scalar s, rest)
      | none, none => readFlow steps levels least text

/-- Read the value of a key in `column`, after its colon. The dashes of a sequence may stand in the
column of the key. -/
def readValue (steps levels column : Nat) (text : Rest) : Option (Node × Rest) :=
  match steps with
  | 0 => none
  | steps + 1 => do
      let text := Rest.skipOnRow text
      match dashIn? column text with
      | some rest => if levels = 0 then none else readDashes steps (levels - 1) column [] rest
      | none =>
          if endsBlock (column + 1) text then some (empty, text)
          else readBlock steps levels (column + 1) (text.head?.any Glyph.leads) text

/-- Read on in a sequence whose dashes stand in `column`, after a dash. -/
def readDashes (steps levels column : Nat) (items : List Node) (text : Rest) :
    Option (Node × Rest) :=
  match steps with
  | 0 => none
  | steps + 1 => do
      let text := Rest.skipInBlock text
      let (item, rest) ←
        if endsBlock (column + 1) text then some (empty, text)
        else readBlock steps levels (column + 1) true text
      let rest := Rest.skipOnRow rest
      match dashIn? column rest with
      | some rest => readDashes steps levels column (item :: items) rest
      | none =>
          if endsBlock (column + 1) rest then some (.sequence (item :: items).reverse, rest)
          else none

/-- Read on in a mapping whose keys stand in `column`, after a value. -/
def readKeys (steps levels column : Nat) (fields : List (Scalar × Node)) (text : Rest) :
    Option (Node × Rest) :=
  match steps with
  | 0 => none
  | steps + 1 => do
      let text := Rest.skipOnRow text
      if endsBlock column text then some (.mapping fields.reverse, text)
      else
        let start ← text.head?
        if start.column = column ∧ start.leads then do
          let (key, rest) ← Scalar.read? false (column + 1) text
          let rest ← Scalar.afterColon? false start rest
          let (value, rest) ← readValue steps levels column rest
          readKeys steps levels column ((key, value) :: fields) rest
        else none

end

end Node

def maxNesting : Nat := 128

def isFinished (steps : Nat) (text : Rest) : Bool :=
  match steps with
  | 0 => false
  | steps + 1 =>
      let text := Rest.skipOnRow text
      match Rest.afterRule? '.' text with
      | some rest => isFinished steps rest
      | none => text.isEmpty

/-- Read the content of the document from here to the end of the text. -/
def readDocument (steps : Nat) (startsBlock : Bool) (text : Rest) : Option Node :=
  (Node.readBlock steps maxNesting 0 startsBlock text).bind fun (node, rest) =>
    if isFinished steps rest then some node else none

/-- Read a text that is one document, or none. A rule of dashes may stand before the document, which
then may be empty. -/
def node? (cs : List Char) : Option Node := do
  let text ← placed? cs
  let steps := 4 * text.length + 8
  let text := Rest.skipInBlock text
  match Rest.afterRule? '-' text with
  | some rest =>
      let rest := Rest.skipOnRow rest
      if rest.isEmpty || Rest.boundsDocument rest then
        if isFinished steps rest then some .empty else none
      else readDocument steps (rest.head?.any Glyph.leads) rest
  | none =>
      if text.isEmpty then some .empty
      else if Rest.boundsDocument text then none
      else readDocument steps true text

def ofText? (s : String) : Option Json :=
  (node? s.toList).bind Node.toJson?

end FilingChecklist.Yaml
