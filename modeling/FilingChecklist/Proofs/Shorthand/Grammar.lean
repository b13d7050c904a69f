import FilingChecklist.Proofs.Shorthand.Slices
import FilingChecklist.Proofs.Text.Joining

/-!
The grammar of comparisons in text form. A comparison is a left side, a symbol and a right side. The
left side is a call that quotes a name, or else all that stands before the first symbol character;
the symbol is the longest that stands there; the right side is one quoted text or a bare word.
-/

namespace FilingChecklist.Shorthand

open Text (isBlank isBlank_of_isQuote isQuote trim trimStart)

/-- A text in quotes and the text between them, in which the quote itself does not stand. -/
inductive Quoted : List Char → List Char → Prop
  | intro {quote : Char} {inner : List Char} (hquote : isQuote quote = true)
      (hinner : quote ∉ inner) : Quoted (quote :: inner ++ [quote]) inner

/-- How a call starts: `project_value` and an opening parenthesis. -/
inductive CallStart : List Char → Prop
  | intro {blank : List Char} (hblank : ∀ c ∈ blank, isBlank c = true) :
      CallStart ("project_value".toList ++ blank ++ ['('])

def IsCall (text : List Char) : Prop :=
  ∃ start, CallStart start ∧ start <+: text

/-- Left sides and the keys that they name, in front of `rest`. A text that starts like a call has
no other left side than that call. -/
inductive LeftSide (rest : List Char) : List Char → List Char → Prop
  | call {start before quoted name after : List Char} (hstart : CallStart start)
      (hbefore : ∀ c ∈ before, isBlank c = true) (hquoted : Quoted quoted name)
      (hafter : ∀ c ∈ after, isBlank c = true) (hname : trim name ≠ []) :
      LeftSide rest (start ++ before ++ quoted ++ after ++ [')']) (trim name)
  | path {path : List Char} (hcall : ¬ IsCall (path ++ rest))
      (hpath : ∀ c ∈ path, isSymbolChar c = false) (hrest : ∃ c ∈ rest.head?, isSymbolChar c = true)
      (hkey : trim path ≠ []) (hquote : ∀ c ∈ trim path, isQuote c = false) :
      LeftSide rest path (trim path)

/-- A symbol with which a text begins, while it begins with no longer one. -/
structure Longest (symbol : String) (text : List Char) : Prop where
  mem : symbol ∈ symbols
  starts : symbol.toList <+: text
  longest : ∀ other ∈ symbols, other.toList <+: text → other.length ≤ symbol.length

/-- Right sides and the texts that they stand for. -/
inductive RightSide : List Char → List Char → Prop
  | quoted {written inner : List Char} (h : Quoted written inner) : RightSide written inner
  | bare {word : List Char} (hne : word ≠ [])
      (hword : ∀ c ∈ word, isSymbolChar c = false ∧ isQuote c = false) : RightSide word word

/-- Texts without white space at their ends and the comparisons that they write. -/
inductive Written : List Char → Comparison → Prop
  | intro {left key blank right literal : List Char} {symbol : String} {operator : Operator}
      (hleft : LeftSide (blank ++ symbol.toList ++ right) left key)
      (hblank : ∀ c ∈ blank, isBlank c = true)
      (hsymbol : Longest symbol (symbol.toList ++ right))
      (hoperator : Operator.ofName? symbol = some operator)
      (hright : RightSide (trim right) literal) :
      Written (left ++ (blank ++ symbol.toList ++ right))
        { key := String.ofList key, operator, operands := [.ofText (String.ofList literal)] }

variable {text rest : List Char}

theorem after?_eq_some_iff {start : List Char} :
    after? start text = some rest ↔ text = start ++ rest := by
  rw [after?]
  constructor
  · intro h
    obtain ⟨hstarts, hrest⟩ := Option.ite_none_right_eq_some.mp h
    obtain ⟨tail, rfl⟩ := List.isPrefixOf_iff_prefix.mp hstarts
    rw [List.drop_left] at hrest
    rw [Option.some.inj hrest]
  · rintro rfl
    rw [if_pos (List.isPrefixOf_iff_prefix.mpr (List.prefix_append start rest)), List.drop_left]

theorem quoted?_append {quote : Char} {inner : List Char} (hquote : isQuote quote = true)
    (hinner : quote ∉ inner) (rest : List Char) :
    quoted? (quote :: (inner ++ quote :: rest)) = some (inner, rest) := by
  have hne : ∀ c ∈ inner, (c != quote) = true := by
    intro c hc
    exact bne_iff_ne.mpr fun heq => hinner (heq ▸ hc)
  rw [quoted?, if_pos hquote, List.dropWhile_append_of_pos hne, List.takeWhile_append_of_pos hne]
  simp

theorem quoted?_eq_some_iff {inner : List Char} :
    quoted? text = some (inner, rest) ↔
      ∃ written, Quoted written inner ∧ text = written ++ rest := by
  constructor
  · intro h
    cases text with
    | nil => cases h
    | cons quote body =>
        obtain ⟨hquote, hbody⟩ := Option.ite_none_right_eq_some.mp h
        cases hrest : body.dropWhile (· != quote) with
        | nil =>
            rw [hrest] at hbody
            cases hbody
        | cons c following =>
            rw [hrest] at hbody
            cases hbody
            have hc : c = quote := by
              simpa [hrest] using List.head?_dropWhile_not (· != quote) body
            have hinner : quote ∉ body.takeWhile (· != quote) := by
              intro hmem
              have hne := List.all_eq_true.mp List.all_takeWhile quote hmem
              simp at hne
            have hbody := List.takeWhile_append_dropWhile (p := (· != quote)) (l := body)
            rw [hrest, hc] at hbody
            exact ⟨_, .intro hquote hinner, by simpa using hbody.symm⟩
  · rintro ⟨_, ⟨hquote, hinner⟩, rfl⟩
    simpa using quoted?_append hquote hinner rest

theorem trimStart_blank_append {blank : List Char} (hblank : ∀ c ∈ blank, isBlank c = true)
    {c : Char} (hc : isBlank c = false) (cs : List Char) :
    trimStart (blank ++ c :: cs) = c :: cs := by
  rw [Text.trimStart_append hblank, Text.trimStart_eq_self (by simpa using hc)]

theorem callArgument?_eq_some_iff {argument : List Char} :
    callArgument? text = some argument ↔ ∃ start, CallStart start ∧ text = start ++ argument := by
  rw [callArgument?, Option.bind_eq_some_iff]
  constructor
  · rintro ⟨behind, hname, hopen⟩
    rw [after?_eq_some_iff] at hname hopen
    obtain ⟨blank, hbehind, hblank⟩ := Text.exists_trimStart behind
    exact ⟨_, .intro hblank, by rw [hname, hbehind, hopen]; simp⟩
  · rintro ⟨_, @⟨blank, hblank⟩, rfl⟩
    refine ⟨blank ++ '(' :: argument, after?_eq_some_iff.mpr (by simp), ?_⟩
    rw [trimStart_blank_append hblank (by decide), after?_eq_some_iff]
    rfl

theorem callArgument?_eq_none_iff : callArgument? text = none ↔ ¬ IsCall text := by
  rw [Option.eq_none_iff_forall_ne_some]
  constructor
  · rintro hnone ⟨start, hstart, argument, rfl⟩
    exact hnone argument (callArgument?_eq_some_iff.mpr ⟨start, hstart, rfl⟩)
  · intro hcall argument hargument
    obtain ⟨start, hstart, rfl⟩ := callArgument?_eq_some_iff.mp hargument
    exact hcall ⟨start, hstart, List.prefix_append start argument⟩

instance (text : List Char) : Decidable (IsCall text) :=
  decidable_of_iff (¬ callArgument? text = none) (by
    rw [callArgument?_eq_none_iff, Classical.not_not])

theorem callKey?_eq_some_iff {argument key : List Char} :
    callKey? argument = some (key, rest) ↔
      ∃ before quoted name after, (∀ c ∈ before, isBlank c = true) ∧ Quoted quoted name ∧
        (∀ c ∈ after, isBlank c = true) ∧ trim name ≠ [] ∧ key = trim name ∧
        argument = before ++ quoted ++ after ++ ')' :: rest := by
  constructor
  · intro h
    obtain ⟨⟨name, behind⟩, hquoted, h⟩ := Option.bind_eq_some_iff.mp h
    obtain ⟨following, hclose, h⟩ := Option.bind_eq_some_iff.mp h
    obtain ⟨hname, hkey⟩ := Option.ite_none_left_eq_some.mp h
    cases hkey
    obtain ⟨quoted, hquoted, hargument⟩ := quoted?_eq_some_iff.mp hquoted
    rw [after?_eq_some_iff] at hclose
    obtain ⟨before, hbefore, hblank⟩ := Text.exists_trimStart argument
    obtain ⟨after, hafter, hblank'⟩ := Text.exists_trimStart behind
    refine ⟨before, quoted, name, after, hblank, hquoted, hblank', by simpa using hname, rfl, ?_⟩
    rw [hbefore, hargument, hafter, hclose]
    simp
  · rintro ⟨before, _, name, after, hbefore, @⟨quote, _, hquote, hinner⟩, hafter, hname, rfl, rfl⟩
    have hstart : trimStart (before ++ (quote :: name ++ [quote]) ++ after ++ ')' :: rest) =
        quote :: (name ++ quote :: (after ++ ')' :: rest)) := by
      have hstart := trimStart_blank_append hbefore (isBlank_of_isQuote hquote)
      simp [hstart]
    have hclose : trimStart (after ++ ')' :: rest) = ')' :: rest :=
      trimStart_blank_append hafter (by decide) rest
    rw [callKey?, hstart, quoted?_append hquote hinner]
    simp [hclose, after?, hname]

theorem pathKey?_eq_some_iff {key : List Char} :
    pathKey? text = some (key, rest) ↔
      ∃ path, (∀ c ∈ path, isSymbolChar c = false) ∧ (∃ c ∈ rest.head?, isSymbolChar c = true) ∧
        trim path ≠ [] ∧ (∀ c ∈ trim path, isQuote c = false) ∧ key = trim path ∧
        text = path ++ rest := by
  constructor
  · intro h
    cases hrest : text.dropWhile (!isSymbolChar ·) with
    | nil =>
        rw [pathKey?, hrest] at h
        cases h
    | cons c following =>
        rw [pathKey?, hrest] at h
        obtain ⟨hkey, hsome⟩ := Option.ite_none_left_eq_some.mp h
        cases hsome
        have hc : isSymbolChar c = true := by
          simpa [hrest] using List.head?_dropWhile_not (!isSymbolChar ·) text
        have hpath : ∀ d ∈ text.takeWhile (!isSymbolChar ·), isSymbolChar d = false := by
          intro d hd
          simpa using List.all_eq_true.mp List.all_takeWhile d hd
        simp only [Bool.or_eq_true, List.isEmpty_iff, List.any_eq_true, not_or, not_exists,
          not_and, Bool.not_eq_true] at hkey
        refine ⟨_, hpath, ⟨c, rfl, hc⟩, hkey.1, hkey.2, rfl, ?_⟩
        rw [← hrest, List.takeWhile_append_dropWhile]
  · rintro ⟨path, hpath, ⟨c, hc, hsymbol⟩, hkey, hquote, rfl, rfl⟩
    obtain ⟨following, rfl⟩ := List.head?_eq_some_iff.mp hc
    have hplain : ∀ d ∈ path, (!isSymbolChar d) = true := by simpa using hpath
    have hbare : (trim path).any isQuote = false := by simpa using hquote
    rw [pathKey?, List.dropWhile_append_of_pos hplain, List.takeWhile_append_of_pos hplain]
    simp [hsymbol, hkey, hbare]

theorem leftSide?_eq_some_iff {key : List Char} :
    leftSide? text = some (key, rest) ↔ ∃ left, LeftSide rest left key ∧ text = left ++ rest := by
  constructor
  · intro h
    rw [leftSide?] at h
    cases hargument : callArgument? text with
    | some argument =>
        rw [hargument] at h
        obtain ⟨start, hstart, rfl⟩ := callArgument?_eq_some_iff.mp hargument
        obtain ⟨before, quoted, name, after, hbefore, hquoted, hafter, hname, rfl, rfl⟩ :=
          callKey?_eq_some_iff.mp h
        exact ⟨_, .call hstart hbefore hquoted hafter hname, by simp⟩
    | none =>
        rw [hargument] at h
        obtain ⟨path, hpath, hrest, hkey, hquote, rfl, rfl⟩ := pathKey?_eq_some_iff.mp h
        exact ⟨path, .path (callArgument?_eq_none_iff.mp hargument) hpath hrest hkey hquote, rfl⟩
  · rintro ⟨_, hleft, rfl⟩
    cases hleft with
    | @call start before quoted name after hstart hbefore hquoted hafter hname =>
        have hargument : callArgument? (start ++ before ++ quoted ++ after ++ [')'] ++ rest) =
            some (before ++ quoted ++ after ++ ')' :: rest) :=
          callArgument?_eq_some_iff.mpr ⟨start, hstart, by simp⟩
        rw [leftSide?, hargument]
        exact callKey?_eq_some_iff.mpr
          ⟨before, quoted, name, after, hbefore, hquoted, hafter, hname, rfl, rfl⟩
    | path hcall hpath hrest hkey hquote =>
        rw [leftSide?, callArgument?_eq_none_iff.mpr hcall]
        exact pathKey?_eq_some_iff.mpr ⟨_, hpath, hrest, hkey, hquote, rfl, rfl⟩

theorem isBlank_of_isSymbolChar {c : Char} (h : isSymbolChar c = true) : isBlank c = false := by
  simp only [isSymbolChar, Bool.or_eq_true, beq_iff_eq] at h
  rcases h with ((rfl | rfl) | rfl) | rfl <;> decide

theorem isSymbolChar_of_mem_symbols {symbol : String} (h : symbol ∈ symbols) :
    ∀ c ∈ symbol.toList, isSymbolChar c = true := by
  have hall : symbols.all (fun symbol => symbol.toList.all isSymbolChar) = true := by decide
  exact List.all_eq_true.mp (List.all_eq_true.mp hall symbol h)

theorem exists_head_of_mem_symbols {symbol : String} (h : symbol ∈ symbols) :
    ∃ c cs, symbol.toList = c :: cs ∧ isSymbolChar c = true := by
  have hne : symbol.toList ≠ [] := by
    have hall : symbols.all (fun symbol => symbol.toList ≠ []) = true := by decide
    exact of_decide_eq_true (List.all_eq_true.mp hall symbol h)
  obtain ⟨c, cs, hcs⟩ := List.exists_cons_of_ne_nil hne
  exact ⟨c, cs, hcs, isSymbolChar_of_mem_symbols h c (by simp [hcs])⟩

theorem exists_operator_of_mem_symbols {symbol : String} (h : symbol ∈ symbols) :
    ∃ operator, Operator.ofName? symbol = some operator := by
  have hall : symbols.all (fun symbol => (Operator.ofName? symbol).isSome) = true := by
    decide +kernel
  exact Option.isSome_iff_exists.mp (List.all_eq_true.mp hall symbol h)

theorem longest_of_find? {symbol : String}
    (h : symbols.find? (fun symbol => symbol.toList.isPrefixOf text) = some symbol) :
    Longest symbol text := by
  obtain ⟨hstarts, before, after, hsymbols, hbefore⟩ := List.find?_eq_some_iff_append.mp h
  -- the symbols stand in order of their lengths, so those after a symbol are no longer than it
  have horder : symbols.Pairwise fun symbol other => other.length ≤ symbol.length := by decide
  rw [hsymbols, List.pairwise_append, List.pairwise_cons] at horder
  refine ⟨by simp [hsymbols], List.isPrefixOf_iff_prefix.mp hstarts, ?_⟩
  intro other hother hprefix
  rw [hsymbols, List.mem_append, List.mem_cons] at hother
  rcases hother with hother | rfl | hother
  · have hnone := hbefore other hother
    rw [List.isPrefixOf_iff_prefix.mpr hprefix] at hnone
    cases hnone
  · exact Nat.le_refl _
  · exact horder.2.1.1 other hother

theorem Longest.eq {symbol other : String} (h : Longest symbol text) (h' : Longest other text) :
    symbol = other := by
  have hlength : symbol.toList.length = other.toList.length := by
    rw [String.length_toList, String.length_toList]
    exact Nat.le_antisymm (h'.longest _ h.mem h.starts) (h.longest _ h'.mem h'.starts)
  exact String.toList_inj.mp ((List.prefix_of_prefix_length_le h.starts h'.starts
    (Nat.le_of_eq hlength)).eq_of_length hlength)

theorem find?_symbols_eq_some_iff {symbol : String} :
    symbols.find? (fun symbol => symbol.toList.isPrefixOf text) = some symbol ↔
      Longest symbol text := by
  refine ⟨longest_of_find?, fun h => ?_⟩
  have hsome : (symbols.find? fun symbol => symbol.toList.isPrefixOf text).isSome = true :=
    List.find?_isSome.mpr ⟨symbol, h.mem, List.isPrefixOf_iff_prefix.mpr h.starts⟩
  obtain ⟨first, hfirst⟩ := Option.isSome_iff_exists.mp hsome
  rw [hfirst, (longest_of_find? hfirst).eq h]

theorem symbol?_eq_some_iff {operator : Operator} :
    symbol? text = some (operator, rest) ↔
      ∃ symbol, Longest symbol text ∧ Operator.ofName? symbol = some operator ∧
        text = symbol.toList ++ rest := by
  have hdrop {symbol : String} (tail : List Char) :
      (symbol.toList ++ tail).drop symbol.length = tail := by
    rw [← String.length_toList, List.drop_left]
  constructor
  · intro h
    obtain ⟨symbol, hsymbol, h⟩ := Option.bind_eq_some_iff.mp h
    obtain ⟨operator, hoperator, h⟩ := Option.bind_eq_some_iff.mp h
    cases h
    have hlongest := find?_symbols_eq_some_iff.mp hsymbol
    obtain ⟨tail, rfl⟩ := hlongest.starts
    exact ⟨symbol, hlongest, hoperator, by rw [hdrop]⟩
  · rintro ⟨symbol, hlongest, hoperator, rfl⟩
    rw [symbol?, find?_symbols_eq_some_iff.mpr hlongest]
    simp [hoperator, hdrop]

theorem eq_nil_of_trim_append {front : List Char} (htrim : trim (front ++ rest) = front ++ rest)
    (hrest : ∀ c ∈ rest, isBlank c = true) : rest = [] := by
  by_cases hne : rest = []
  · exact hne
  · have hlast : rest.getLast hne ∈ (trim (front ++ rest)).getLast? := by
      simp [htrim, List.getLast?_eq_some_getLast hne]
    have hfilled := Text.isBlank_getLast_trim hlast
    rw [hrest _ (List.getLast_mem hne)] at hfilled
    cases hfilled

theorem literal?_eq_some_iff (htrim : trim text = text) {literal : List Char} :
    literal? text = some literal ↔ RightSide text literal := by
  constructor
  · intro h
    cases text with
    | nil => cases h
    | cons first rest =>
        rw [literal?] at h
        split at h
        · split at h
          · next inner following hquoted =>
              obtain ⟨hblank, hinner⟩ := Option.ite_none_right_eq_some.mp h
              cases hinner
              obtain ⟨written, hwritten, htext⟩ := quoted?_eq_some_iff.mp hquoted
              have hfollowing : following = [] :=
                eq_nil_of_trim_append (htext ▸ htrim)
                  (Text.trim_eq_nil_iff.mp (List.isEmpty_iff.mp hblank))
              rw [hfollowing, List.append_nil] at htext
              rw [htext]
              exact .quoted hwritten
          · cases h
        · obtain ⟨hword, hliteral⟩ := Option.ite_none_left_eq_some.mp h
          cases hliteral
          refine .bare (List.cons_ne_nil _ _) ?_
          intro c hc
          have hnone := List.any_eq_false.mp (Bool.eq_false_iff.mpr hword) c hc
          exact Bool.or_eq_false_iff.mp (Bool.eq_false_iff.mpr hnone)
  · intro h
    cases h with
    | quoted h =>
        obtain @⟨quote, _, hquote, hinner⟩ := h
        have hquoted := quoted?_append hquote hinner []
        rw [List.cons_append, literal?, if_pos hquote, hquoted]
        rfl
    | bare hne hword =>
        obtain ⟨first, rest, rfl⟩ := List.exists_cons_of_ne_nil hne
        have hnone : ((first :: rest).any fun c => isSymbolChar c || isQuote c) = false := by
          rw [List.any_eq_false]
          intro c hc
          simp [hword c hc]
        rw [literal?, (hword first List.mem_cons_self).2, hnone]
        rfl

theorem written_of_comparison? {s : String} {test : Comparison} (h : comparison? s = some test) :
    Written (trim s.toList) test := by
  obtain ⟨⟨key, behind⟩, hleft, h⟩ := Option.bind_eq_some_iff.mp h
  obtain ⟨⟨operator, right⟩, hsymbol, h⟩ := Option.bind_eq_some_iff.mp h
  obtain ⟨literal, hliteral, h⟩ := Option.bind_eq_some_iff.mp h
  cases h
  obtain ⟨left, hleft, htext⟩ := leftSide?_eq_some_iff.mp hleft
  obtain ⟨blank, hbehind, hblank⟩ := Text.exists_trimStart behind
  obtain ⟨symbol, hlongest, hoperator, hstart⟩ := symbol?_eq_some_iff.mp hsymbol
  have hright := (literal?_eq_some_iff (Text.trim_trim right)).mp hliteral
  rw [hstart] at hlongest hbehind
  rw [← List.append_assoc] at hbehind
  rw [hbehind] at hleft
  rw [htext, hbehind]
  exact .intro hleft hblank hlongest hoperator hright

theorem comparison?_of_written {s : String} {test : Comparison}
    (h : Written (trim s.toList) test) : comparison? s = some test := by
  rw [comparison?]
  generalize trim s.toList = text at h
  obtain @⟨left, key, blank, right, literal, symbol, operator, hleft, hblank, hsymbol, hoperator,
    hright⟩ := h
  have hleft := leftSide?_eq_some_iff.mpr ⟨left, hleft, rfl⟩
  have hstart : trimStart (blank ++ symbol.toList ++ right) = symbol.toList ++ right := by
    obtain ⟨c, cs, hcs, hc⟩ := exists_head_of_mem_symbols hsymbol.mem
    have hstart := trimStart_blank_append hblank (isBlank_of_isSymbolChar hc) (cs ++ right)
    simpa [hcs] using hstart
  have hsymbol := symbol?_eq_some_iff.mpr ⟨symbol, hsymbol, hoperator, rfl⟩
  have hliteral := (literal?_eq_some_iff (Text.trim_trim right)).mpr hright
  simp only [hleft, hstart, hsymbol, hliteral, Option.bind_eq_bind, Option.bind_some]
  rfl

/-- A text is read as a comparison exactly if the grammar writes the comparison as that text, white
space at its ends left out. A reading by positions never cuts the text at a place that is no cut. -/
theorem comparison?_eq_some_iff (s : String) :
    (∀ test, comparison? s = some test ↔ Written (trim s.toList) test) ∧
      ByPosition.comparison? s = some (comparison? s) :=
  ⟨fun _ => ⟨written_of_comparison?, comparison?_of_written⟩, ByPosition.comparison?_eq s⟩

end FilingChecklist.Shorthand
