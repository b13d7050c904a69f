import FilingChecklist.Proofs.Text.Positions
import FilingChecklist.Rule.Shorthand

/-!
Comparisons read by byte positions. A reading that looks for positions and cuts the text there never
cuts beyond its end or inside a character.
-/

namespace FilingChecklist.Shorthand.ByPosition

open Text (cut? isQuote position? size trim trimStart)

def quoted? (text : List Char) : Option (Option (List Char × List Char)) :=
  match text with
  | [] => some none
  | quote :: _ =>
      if isQuote quote then do
        let (_, body) ← cut? text 1
        match position? (· == quote) body with
        | none => some none
        | some close =>
            let (inner, _) ← cut? body close
            let (_, following) ← cut? body (close + 1)
            some (some (inner, following))
      else some none

def callKey? (argument : List Char) : Option (Option (List Char × List Char)) := do
  let some (name, rest) ← quoted? (trimStart argument) | some none
  let some rest := after? [')'] (trimStart rest) | some none
  let name := trim name
  some (if name.isEmpty then none else some (name, rest))

def pathKey? (text : List Char) : Option (Option (List Char × List Char)) :=
  match position? isSymbolChar text with
  | none => some none
  | some stop => do
      let (path, rest) ← cut? text stop
      let key := trim path
      some (if key.isEmpty || key.any isQuote then none else some (key, rest))

def leftSide? (text : List Char) : Option (Option (List Char × List Char)) :=
  match callArgument? text with
  | some argument => callKey? argument
  | none => pathKey? text

def symbol? (text : List Char) : Option (Option (Operator × List Char)) := do
  let some symbol := symbols.find? fun symbol => symbol.toList.isPrefixOf text | some none
  let some operator := Operator.ofName? symbol | some none
  let (_, rest) ← cut? text symbol.utf8ByteSize
  some (some (operator, rest))

def literal? (text : List Char) : Option (Option (List Char)) :=
  match text with
  | [] => some none
  | first :: _ =>
      if isQuote first then do
        let some (inner, rest) ← quoted? text | some none
        some (if (trim rest).isEmpty then some inner else none)
      else some (if text.any fun c => isSymbolChar c || isQuote c then none else some text)

def comparison? (text : String) : Option (Option Comparison) := do
  let some (key, rest) ← leftSide? (trim text.toList) | some none
  let some (operator, rest) ← symbol? (trimStart rest) | some none
  let some literal ← literal? (trim rest) | some none
  some (some {
    key := String.ofList key
    operator
    operands := [.ofText (String.ofList literal)]
  })

theorem utf8Size_of_isQuote {c : Char} (h : isQuote c = true) : c.utf8Size = 1 := by
  simp only [isQuote, Bool.or_eq_true, beq_iff_eq] at h
  rcases h with rfl | rfl <;> rfl

theorem cut?_cons_of_isQuote {quote : Char} (h : isQuote quote = true) (rest : List Char) :
    cut? (quote :: rest) 1 = some ([quote], rest) := by
  have hcut := Text.cut?_append [quote] rest
  rwa [show size [quote] = 1 by rw [Text.size_cons, utf8Size_of_isQuote h]; rfl] at hcut

theorem quoted?_eq (text : List Char) : quoted? text = some (Shorthand.quoted? text) := by
  cases text with
  | nil => rfl
  | cons quote rest =>
      rw [quoted?, Shorthand.quoted?]
      by_cases hquote : isQuote quote = true
      · rw [if_pos hquote, if_pos hquote, cut?_cons_of_isQuote hquote]
        have hinner := Text.cut?_takeWhile (· != quote) rest
        cases hrest : rest.dropWhile (· != quote) with
        | nil =>
            have hnone : position? (· == quote) rest = none := Text.position?_of_dropWhile_nil hrest
            simp [hnone]
        | cons c following =>
            have hclose : position? (· == quote) rest = some (size (rest.takeWhile (· != quote))) :=
              Text.position?_of_dropWhile_cons hrest
            have hc : c = quote := by
              simpa [hrest] using List.head?_dropWhile_not (· != quote) rest
            have hfollowing := Text.cut?_behind hrest
            rw [hc, utf8Size_of_isQuote hquote] at hfollowing
            simp [hclose, hinner, hfollowing]
      · rw [if_neg hquote, if_neg hquote]

theorem callKey?_eq (argument : List Char) :
    callKey? argument = some (Shorthand.callKey? argument) := by
  rw [callKey?, Shorthand.callKey?, quoted?_eq]
  cases Shorthand.quoted? (trimStart argument) with
  | none => rfl
  | some parts =>
      cases hclose : after? [')'] (trimStart parts.2) with
      | none => simp [hclose]
      | some rest => simp [hclose]

theorem pathKey?_eq (text : List Char) : pathKey? text = some (Shorthand.pathKey? text) := by
  rw [pathKey?, Shorthand.pathKey?]
  cases hrest : text.dropWhile (!isSymbolChar ·) with
  | nil => rw [Text.position?_of_dropWhile_nil hrest]
  | cons c rest =>
      rw [Text.position?_of_dropWhile_cons hrest]
      have hcut := Text.cut?_takeWhile (!isSymbolChar ·) text
      rw [hrest] at hcut
      simp [hcut]

theorem leftSide?_eq (text : List Char) : leftSide? text = some (Shorthand.leftSide? text) := by
  rw [leftSide?, Shorthand.leftSide?]
  cases callArgument? text with
  | none => exact pathKey?_eq text
  | some argument => exact callKey?_eq argument

theorem symbol?_eq (text : List Char) : symbol? text = some (Shorthand.symbol? text) := by
  rw [symbol?, Shorthand.symbol?]
  cases hsymbol : symbols.find? fun symbol => symbol.toList.isPrefixOf text with
  | none => rfl
  | some symbol =>
      cases hoperator : Operator.ofName? symbol with
      | none => simp [hoperator]
      | some operator =>
          have hstarts : symbol.toList <+: text := by simpa using List.find?_some hsymbol
          obtain ⟨rest, rfl⟩ := hstarts
          have hcut :
              cut? (symbol.toList ++ rest) symbol.utf8ByteSize = some (symbol.toList, rest) := by
            rw [← Text.cut?_append symbol.toList rest, size, String.ofList_toList]
          simp [hoperator, hcut, ← String.length_toList]

theorem literal?_eq (text : List Char) : literal? text = some (Shorthand.literal? text) := by
  cases text with
  | nil => rfl
  | cons first rest =>
      rw [literal?, Shorthand.literal?]
      by_cases hquote : isQuote first = true
      · rw [if_pos hquote, if_pos hquote, quoted?_eq]
        cases Shorthand.quoted? (first :: rest) <;> rfl
      · rw [if_neg hquote, if_neg hquote]

/-- A reading by positions finds a cut at each of them, and reads the same. -/
theorem comparison?_eq (text : String) :
    comparison? text = some (Shorthand.comparison? text) := by
  rw [comparison?, Shorthand.comparison?, leftSide?_eq]
  cases Shorthand.leftSide? (trim text.toList) with
  | none => rfl
  | some left =>
      simp only [Option.bind_eq_bind, Option.bind_some, symbol?_eq]
      cases Shorthand.symbol? (trimStart left.2) with
      | none => rfl
      | some symbol =>
          simp only [Option.bind_some, literal?_eq]
          cases Shorthand.literal? (trim symbol.2) <;> rfl

end FilingChecklist.Shorthand.ByPosition
