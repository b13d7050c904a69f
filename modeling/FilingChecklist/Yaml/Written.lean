import FilingChecklist.Yaml.Glyph
import FilingChecklist.Yaml.Scalar

namespace FilingChecklist.Yaml

/-- What stands between two words of a scalar: blanks, last one first, or line breaks. The text of a
single line break is `single`, and `further` breaks come after the first one. -/
inductive Gap
  | blanks (seen : List Char)
  | breaks (single : List Char) (further : Nat)

namespace Gap

def none : Gap := .blanks []

def fold : Gap → List Char
  | .blanks seen => seen
  | .breaks single 0 => single
  | .breaks _ further => List.replicate further '\n'

/-- Blanks around line breaks do not count. -/
def addBlank (gap : Gap) (c : Char) : Gap :=
  match gap with
  | .blanks seen => .blanks (c :: seen)
  | .breaks single further => .breaks single further

def addBreak : Gap → Gap
  | .blanks _ => .breaks [' '] 0
  | .breaks single further => .breaks single (further + 1)

def isNone : Gap → Bool
  | .blanks seen => seen.isEmpty
  | .breaks _ _ => false

def hasBreak : Gap → Bool
  | .blanks _ => false
  | .breaks _ _ => true

end Gap

namespace Scalar

def isFlowMark (c : Char) : Bool :=
  c == ',' || c == '[' || c == ']' || c == '\x7b' || c == '\x7d'

/-- A plain scalar ends before a colon that is a word's end, and between brackets before a mark. -/
def endsPlain (inFlow : Bool) (text : Rest) : Bool :=
  (Rest.afterWord? ':' text).isSome || (inFlow && text.head?.any fun g => isFlowMark g.char)

/-- Between brackets a colon may not stand right before a mark. -/
def isMisplacedColon (inFlow : Bool) (text : Rest) : Bool :=
  inFlow && (Rest.after? ':' text).any fun rest =>
    rest.head?.any fun g => isFlowMark g.char || g.char == '?'

/-- Whether the text after a gap is no longer part of the scalar: a comment, the end of the
document, or, outside brackets, a row that begins before the column `least`. -/
def endsAfterGap (inFlow : Bool) (least : Nat) (gap : Gap) (text : Rest) : Bool :=
  !gap.isNone && text.head?.any fun g =>
    g.char == '#' || Rest.boundsDocument text || (gap.hasBreak && !inFlow && g.column < least)

/-- Read on in a plain scalar. The blanks and line breaks after it are read as well. -/
def plain (inFlow : Bool) (least : Nat) (seen : List Char) (gap : Gap) :
    Rest → Option (List Char × Rest)
  | [] => some (seen.reverse, [])
  | g :: rest =>
      if g.isBreak then plain inFlow least seen gap.addBreak rest
      else if g.isBlank then
        if gap.hasBreak && g.char == '\t' && g.column < least then .none
        else plain inFlow least seen (gap.addBlank g.char) rest
      else if endsAfterGap inFlow least gap (g :: rest) || endsPlain inFlow (g :: rest) then
        some (seen.reverse, g :: rest)
      else if isMisplacedColon inFlow (g :: rest) then .none
      else plain inFlow least (g.char :: (gap.fold ++ seen)) .none rest

/-- Whether a plain scalar may begin here. -/
def startsPlain (inFlow : Bool) : Rest → Bool
  | [] => false
  | g :: rest =>
      if g.char == '-' then !Rest.endsWord rest
      else if g.char == '?' || g.char == ':' then !inFlow && !Rest.endsWord rest
      else !(g.isBlank || g.isBreak || isFlowMark g.char ||
        ['#', '&', '*', '!', '|', '>', '\x27', '\x22', '%', '@', '\x60'].contains g.char)

/-- Read on in single quotes. A quote is written twice. -/
def singleQuoted (seen : List Char) (gap : Gap) : Rest → Option (List Char × Rest)
  | [] => .none
  | g :: rest =>
      if g.isBreak then singleQuoted seen gap.addBreak rest
      else if g.isBlank then singleQuoted seen (gap.addBlank g.char) rest
      else if Rest.boundsDocument (g :: rest) then .none
      else if g.char == '\x27' then
        match rest with
        | h :: rest =>
            if h.char == '\x27' then singleQuoted ('\x27' :: (gap.fold ++ seen)) .none rest
            else some ((gap.fold ++ seen).reverse, h :: rest)
        | [] => some ((gap.fold ++ seen).reverse, [])
      else singleQuoted (g.char :: (gap.fold ++ seen)) .none rest

def escapes : List (Char × Char) :=
  [('0', '\x00'), ('a', '\x07'), ('b', '\x08'), ('t', '\t'), ('\t', '\t'), ('n', '\n'),
    ('v', '\x0b'), ('f', '\x0c'), ('r', '\r'), ('e', '\x1b'), (' ', ' '), ('\x22', '\x22'),
    ('/', '/'), ('\\', '\\'), ('N', '\x85'), ('_', '\xa0'), ('L', '\u2028'), ('P', '\u2029')]

/-- How many hexadecimal digits follow an escape letter. -/
def escapeDigits : List (Char × Nat) :=
  [('x', 2), ('u', 4), ('U', 8)]

def charOf? (code : Nat) : Option Char :=
  if h : code.isValidChar then some (Char.ofNatAux code h) else .none

/-- Where a reader stands in double quotes: in the text, after a backslash, or before the digits
that are left of a code point. -/
inductive Quoting
  | text (gap : Gap)
  | escape
  | code (digits value : Nat)

def doubleQuoted (seen : List Char) (state : Quoting) : Rest → Option (List Char × Rest)
  | [] => .none
  | g :: rest =>
      match state with
      | .text gap =>
          if g.isBreak then doubleQuoted seen (.text gap.addBreak) rest
          else if g.isBlank then doubleQuoted seen (.text (gap.addBlank g.char)) rest
          else if Rest.boundsDocument (g :: rest) then .none
          else if g.char == '\x22' then some ((gap.fold ++ seen).reverse, rest)
          else if g.char == '\\' then doubleQuoted (gap.fold ++ seen) .escape rest
          else doubleQuoted (g.char :: (gap.fold ++ seen)) (.text .none) rest
      | .escape =>
          if g.isBreak then doubleQuoted seen (.text (.breaks [] 0)) rest
          else
            match escapes.lookup g.char, escapeDigits.lookup g.char with
            | some c, _ => doubleQuoted (c :: seen) (.text .none) rest
            | _, some digits => doubleQuoted seen (.code digits 0) rest
            | _, _ => .none
      | .code digits value =>
          match Text.hexDigit? g.char with
          | .none => .none
          | some digit =>
              let value := 16 * value + digit
              if digits ≤ 1 then
                match charOf? value with
                | some c => doubleQuoted (c :: seen) (.text .none) rest
                | .none => .none
              else doubleQuoted seen (.code (digits - 1) value) rest

def read? (inFlow : Bool) (least : Nat) (text : Rest) : Option (Scalar × Rest) :=
  let written (isPlain : Bool) (found : List Char × Rest) : Scalar × Rest :=
    ({ text := String.ofList found.1, isPlain }, found.2)
  match Rest.after? '\x22' text, Rest.after? '\x27' text with
  | some rest, _ => (doubleQuoted [] (.text .none) rest).map (written false)
  | _, some rest => (singleQuoted [] .none rest).map (written false)
  | _, _ =>
      if startsPlain inFlow text then (plain inFlow least [] .none text).map (written true)
      else .none

/-- The longest key, counted up to its colon. -/
def maxKeyLength : Nat := 1024

/-- What follows the colon, if the scalar from `start` up to here is the key of a field. -/
def afterColon? (inFlow : Bool) (start : Glyph) (text : Rest) : Option Rest :=
  match text.dropWhile Glyph.isBlank with
  | g :: rest =>
      if g.char == ':' && (inFlow || Rest.endsWord rest) && g.row == start.row &&
          g.column ≤ start.column + maxKeyLength then
        some rest
      else .none
  | [] => .none

end Scalar

end FilingChecklist.Yaml
