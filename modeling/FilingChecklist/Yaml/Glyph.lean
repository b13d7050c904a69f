namespace FilingChecklist.Yaml

/-- A character with the row and the column in which it stands. It leads its row if there are only
spaces before it. -/
structure Glyph where
  char : Char
  row : Nat
  column : Nat
  leads : Bool

abbrev Rest := List Glyph

def place (row column : Nat) (leads : Bool) : List Char → Rest
  | [] => []
  | c :: cs =>
      { char := c, row, column, leads } ::
        if c == '\n' then place (row + 1) 0 true cs
        else place row (column + 1) (leads && c == ' ') cs

def unifyBreaks : List Char → List Char
  | [] => []
  | '\r' :: '\n' :: cs => '\n' :: unifyBreaks cs
  | c :: cs => (if c == '\r' || c == '\x85' then '\n' else c) :: unifyBreaks cs

/-- The characters that may stand in a text: no control characters but the tab and line breaks. -/
def isPermitted (c : Char) : Bool :=
  c == '\t' || c == '\n' || c == '\r' || c == '\x85' ||
    (0x20 ≤ c.toNat && c.toNat ≤ 0x7e) ||
    (0xa0 ≤ c.toNat && c.toNat ≠ 0xfeff && c.toNat ≠ 0xfffe && c.toNat ≠ 0xffff)

/-- The placed characters of a text without its byte order mark, if all of them are permitted. -/
def placed? (cs : List Char) : Option Rest :=
  let cs := match cs with
    | '\ufeff' :: cs => cs
    | cs => cs
  if cs.all isPermitted then some (place 0 0 true (unifyBreaks cs)) else none

namespace Glyph

def isBlank (g : Glyph) : Bool :=
  g.char == ' ' || g.char == '\t'

def isBreak (g : Glyph) : Bool :=
  g.char == '\n'

end Glyph

namespace Rest

/-- The text ends here, or a blank or a line break stands here. -/
def endsWord (text : Rest) : Bool :=
  text.head?.all fun g => g.isBlank || g.isBreak

def after? (mark : Char) : Rest → Option Rest
  | g :: rest => if g.char == mark then some rest else none
  | [] => none

/-- What follows `mark`, if that stands here as a word of its own. -/
def afterWord? (mark : Char) (text : Rest) : Option Rest :=
  (after? mark text).filter endsWord

/-- What follows three times `mark` at the beginning of a row, if they are a word of their own. -/
def afterRule? (mark : Char) (text : Rest) : Option Rest :=
  if text.head?.any (·.column == 0) then
    ((after? mark text).bind (after? mark)).bind (afterWord? mark)
  else none

def boundsDocument (text : Rest) : Bool :=
  (afterRule? '-' text).isSome || (afterRule? '.' text).isSome

/-- What follows blanks, comments and line breaks. Tabs are blanks up to the end of the row if
`tabs` is set, and on the rows after it if `inFlow` is set. -/
def skip (inFlow tabs : Bool) (inComment : Bool) : Rest → Rest
  | [] => []
  | g :: rest =>
      if g.isBreak then skip inFlow inFlow false rest
      else if inComment || g.char == '#' then skip inFlow tabs true rest
      else if g.char == ' ' || (g.char == '\t' && tabs) then skip inFlow tabs false rest
      else g :: rest

/-- The next place where a block may begin, which may be right here. -/
def skipInBlock (text : Rest) : Rest :=
  skip false false false text

def skipOnRow (text : Rest) : Rest :=
  skip false true false text

def skipInFlow (text : Rest) : Rest :=
  skip true true false text

end Rest

end FilingChecklist.Yaml
