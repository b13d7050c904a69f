import FilingChecklist.Rule.Tree

/-!
Comparisons written as text, such as `amps >= 50` and `project_value("Zoning District") = "R1"`. On
the left stands an attribute path or a call that quotes an attribute's name; on the right a quoted
text or a bare word.
-/

namespace FilingChecklist.Shorthand

/-- The comparison symbols. A symbol stands before those it begins with. -/
def symbols : List String :=
  ["===", "!==", ">=", "<=", "!=", "==", "<>", ">", "<", "="]

def isSymbolChar (c : Char) : Bool :=
  c == '<' || c == '>' || c == '=' || c == '!'

def after? (start : List Char) (text : List Char) : Option (List Char) :=
  if start.isPrefixOf text then some (text.drop start.length) else none

/-- A quoted text at the start, without its quotes, and what follows it. -/
def quoted? : List Char → Option (List Char × List Char)
  | [] => none
  | quote :: rest =>
      if Text.isQuote quote then
        match rest.dropWhile (· != quote) with
        | [] => none
        | _ :: following => some (rest.takeWhile (· != quote), following)
      else none

/-- What follows `project_value` and an opening parenthesis. -/
def callArgument? (text : List Char) : Option (List Char) :=
  (after? "project_value".toList text).bind fun rest => after? ['('] (Text.trimStart rest)

/-- The name that a call quotes, and what follows the call. -/
def callKey? (argument : List Char) : Option (List Char × List Char) := do
  let (name, rest) ← quoted? (Text.trimStart argument)
  let rest ← after? [')'] (Text.trimStart rest)
  let name := Text.trim name
  if name.isEmpty then none else some (name, rest)

/-- The path before the first symbol character, and what follows from that character on. -/
def pathKey? (text : List Char) : Option (List Char × List Char) :=
  match text.dropWhile (!isSymbolChar ·) with
  | [] => none
  | rest =>
      let key := Text.trim (text.takeWhile (!isSymbolChar ·))
      if key.isEmpty || key.any Text.isQuote then none else some (key, rest)

def leftSide? (text : List Char) : Option (List Char × List Char) :=
  match callArgument? text with
  | some argument => callKey? argument
  | none => pathKey? text

/-- The operator of the symbol at the start, and what follows the symbol. -/
def symbol? (text : List Char) : Option (Operator × List Char) := do
  let symbol ← symbols.find? fun symbol => symbol.toList.isPrefixOf text
  let operator ← Operator.ofName? symbol
  return (operator, text.drop symbol.length)

/-- The text on the right side, without its quotes if it has some. -/
def literal? (text : List Char) : Option (List Char) :=
  match text with
  | [] => none
  | first :: _ =>
      if Text.isQuote first then
        match quoted? text with
        | some (inner, rest) => if (Text.trim rest).isEmpty then some inner else none
        | none => none
      else if text.any fun c => isSymbolChar c || Text.isQuote c then none
      else some text

def comparison? (text : String) : Option Comparison := do
  let (key, rest) ← leftSide? (Text.trim text.toList)
  let (operator, rest) ← symbol? (Text.trimStart rest)
  let literal ← literal? (Text.trim rest)
  return {
    key := String.ofList key
    operator
    operands := [.ofText (String.ofList literal)]
  }

end FilingChecklist.Shorthand
