import FilingChecklist.Text.Blank
import FilingChecklist.Text.PrintTables

namespace FilingChecklist.Text

/-- A character that messages do not show as it is. Of the separators only U+0020 is shown. -/
def isHidden (c : Char) : Bool :=
  c != ' ' && (inRanges unprintableRanges c || inRanges joiningRanges c || inRanges fillerRanges c)

def codeEscape (c : Char) : List Char :=
  ['\\', 'u', '\x7b'] ++ Nat.toDigits 16 c.toNat ++ ['\x7d']

def quotedChar (c : Char) : List Char :=
  if c == '\x22' then ['\\', '\x22']
  else if c == '\\' then ['\\', '\\']
  else if c == '\n' then ['\\', 'n']
  else if c == '\r' then ['\\', 'r']
  else if c == '\t' then ['\\', 't']
  else if c == '\x00' then ['\\', '0']
  else if isHidden c then codeEscape c
  else [c]

def quoted (s : String) : String :=
  String.ofList ('\x22' :: s.toList.flatMap quotedChar ++ ['\x22'])

end FilingChecklist.Text
