namespace FilingChecklist.Text

/-- The parts of a text between separators. A text without separator is one part. -/
def parts (separator : Char) : List Char → List (List Char)
  | [] => [[]]
  | c :: rest =>
      if c == separator then [] :: parts separator rest
      else
        match parts separator rest with
        | [] => [[c]]
        | part :: following => (c :: part) :: following

end FilingChecklist.Text
