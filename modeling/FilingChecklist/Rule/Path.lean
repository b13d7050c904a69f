import FilingChecklist.Json.Basic
import FilingChecklist.Text.Blank

/-!
Attribute paths such as `electrical.service.amps`, `scopes[0]` and `meta["zoning.district"]`. A path
is scanned from left to right into segments; resolving it walks into the attributes. A path that is
itself the name of an attribute means that attribute.
-/

namespace FilingChecklist.Path

inductive Segment
  | key (name : String)
  | index (position : Nat)
  deriving DecidableEq

/-- The position that a text writes: ASCII digits after an optional plus sign, below 2 ^ 64. -/
def index? (cs : List Char) : Option Nat :=
  let digits := match cs with
    | '+' :: rest => rest
    | rest => rest
  if !digits.isEmpty && digits.all Char.isDigit then
    let position := Decimal.ofDigits digits
    if position < 0x10000000000000000 then some position else none
  else none

/-- The segment of a run of characters outside brackets: none if the run is blank. -/
def plainSegments (run : List Char) : List Segment :=
  let name := Text.trim run
  if name.isEmpty then [] else [.key (String.ofList name)]

/-- Where a scan stands, with the characters seen there so far, last one first: outside brackets,
after an opening bracket, inside quotes, after the closing quote, or inside brackets without quotes.
-/
inductive Scan
  | plain (run : List Char)
  | opened
  | quoted (quote : Char) (body : List Char)
  | closing (body : List Char)
  | bare (raw : List Char)

def bareSegment? (raw : List Char) : Option Segment :=
  (index? (Text.trim raw.reverse)).map .index

def scan : Scan → List Char → Option (List Segment)
  | .plain run, [] => some (plainSegments run.reverse)
  | .plain run, c :: rest =>
      if c == '.' then (scan (.plain []) rest).map (plainSegments run.reverse ++ ·)
      else if c == '[' then (scan .opened rest).map (plainSegments run.reverse ++ ·)
      else if c == ']' then none
      else scan (.plain (c :: run)) rest
  | .opened, c :: rest =>
      if Text.isBlank c then scan .opened rest
      else if Text.isQuote c then scan (.quoted c []) rest
      else if c == ']' then none
      else scan (.bare [c]) rest
  | .quoted quote body, c :: rest =>
      if c == quote then scan (.closing body) rest else scan (.quoted quote (c :: body)) rest
  | .closing body, c :: rest =>
      if Text.isBlank c then scan (.closing body) rest
      else if c == ']' then
        (scan (.plain []) rest).map (.key (String.ofList body.reverse) :: ·)
      else none
  | .bare raw, c :: rest =>
      if c == ']' then do
        let segment ← bareSegment? raw
        let segments ← scan (.plain []) rest
        return segment :: segments
      else scan (.bare (c :: raw)) rest
  | .opened, [] => none
  | .quoted _ _, [] => none
  | .closing _, [] => none
  | .bare _, [] => none

section

variable (c : Char) (rest : List Char)

theorem scan_plain_nil (run : List Char) :
    scan (.plain run) [] = some (plainSegments run.reverse) :=
  rfl

theorem scan_plain_cons (run : List Char) :
    scan (.plain run) (c :: rest) =
      if c == '.' then (scan (.plain []) rest).map (plainSegments run.reverse ++ ·)
      else if c == '[' then (scan .opened rest).map (plainSegments run.reverse ++ ·)
      else if c == ']' then none
      else scan (.plain (c :: run)) rest :=
  rfl

theorem scan_opened_cons :
    scan .opened (c :: rest) =
      if Text.isBlank c then scan .opened rest
      else if Text.isQuote c then scan (.quoted c []) rest
      else if c == ']' then none
      else scan (.bare [c]) rest :=
  rfl

theorem scan_quoted_cons (quote : Char) (body : List Char) :
    scan (.quoted quote body) (c :: rest) =
      if c == quote then scan (.closing body) rest else scan (.quoted quote (c :: body)) rest :=
  rfl

theorem scan_closing_cons (body : List Char) :
    scan (.closing body) (c :: rest) =
      if Text.isBlank c then scan (.closing body) rest
      else if c == ']' then
        (scan (.plain []) rest).map (.key (String.ofList body.reverse) :: ·)
      else none :=
  rfl

theorem scan_bare_cons (raw : List Char) :
    scan (.bare raw) (c :: rest) =
      if c == ']' then
        (bareSegment? raw).bind fun segment => (scan (.plain []) rest).map (segment :: ·)
      else scan (.bare (c :: raw)) rest := by
  simp only [Option.map_eq_bind]
  rfl

end

def segments? (path : String) : Option (List Segment) :=
  scan (.plain []) path.toList

/-- Walk one segment into a value. On a list a key must write a position. -/
def enter? (v : Json) (segment : Segment) : Option Json :=
  match v, segment with
  | .object fields, .key name => Fields.get? fields name
  | .array items, .key name => (index? name.toList).bind (items[·]?)
  | .array items, .index position => items[position]?
  | _, _ => none

def follow? (v : Json) (segments : List Segment) : Option Json :=
  segments.foldlM enter? v

/-- The attribute at a path, if there is one. An attribute that holds null is there. -/
def resolve? (attributes : Object) (path : String) : Option Json :=
  let path := Text.trimmed path
  if path.isEmpty then none
  else
    match Fields.get? attributes path with
    | some v => some v
    | none =>
        match segments? path with
        | some (.key name :: rest) => (Fields.get? attributes name).bind (follow? · rest)
        | _ => none

@[simp] theorem resolve?_trimmed (attributes : Object) (path : String) :
    resolve? attributes (Text.trimmed path) = resolve? attributes path := by
  simp only [resolve?, Text.trimmed_trimmed]

theorem resolve?_of_get? {attributes : Object} {path : String} {v : Json}
    (htrimmed : Text.trimmed path = path) (hne : path ≠ "")
    (hget : Fields.get? attributes path = some v) : resolve? attributes path = some v := by
  simp [resolve?, htrimmed, hne, hget]

theorem ne_empty_of_segments? {path : String} {first : Segment} {rest : List Segment}
    (h : segments? path = some (first :: rest)) : path ≠ "" := by
  rintro rfl
  cases h

/-- A path that is the name of no attribute is followed from the attribute with which it begins. -/
theorem resolve?_of_segments {attributes : Object} {path name : String} {rest : List Segment}
    (htrimmed : Text.trimmed path = path) (hget : Fields.get? attributes path = none)
    (hsegments : segments? path = some (.key name :: rest)) :
    resolve? attributes path = (Fields.get? attributes name).bind (follow? · rest) := by
  simp [resolve?, htrimmed, ne_empty_of_segments? hsegments, hget, hsegments]

end FilingChecklist.Path
