import FilingChecklist.Proofs.Json.Foreign
import FilingChecklist.Proofs.Rule.Nesting
import FilingChecklist.Proofs.Shorthand.Grammar
import FilingChecklist.Rule.Evaluation

namespace FilingChecklist.Shorthand

open Text (IsTrimmed isBlank isBlank_of_isQuote isQuote trim trimStart trimmed)

theorem isForeign_of_isSymbolChar {c : Char} (h : isSymbolChar c = true) :
    Json.Token.IsForeign c ∧ Json.Token.endsBare c = false := by
  simp only [isSymbolChar, Bool.or_eq_true, beq_iff_eq] at h
  rcases h with ((rfl | rfl) | rfl) | rfl <;>
    exact ⟨Json.Token.isForeign_of_not_isNumeric (by decide) (by decide), by decide⟩

theorem LeftSide.ofText?_eq_none {left rest key : List Char} (h : LeftSide rest left key)
    {s : String} (hs : s.toList = left ++ rest) : Json.ofText? s = none := by
  cases h with
  | call hstart _ _ _ _ =>
      -- no data begin with the letter with which a call begins
      obtain ⟨-⟩ := hstart
      have hforeign : Json.Token.IsForeign 'p' :=
        Json.Token.isForeign_of_not_isNumeric (by decide) (by decide)
      have hs : s.toList = [] ++ 'p' :: _ := hs
      exact Json.ofText?_eq_none_of_foreign hs hforeign (by decide) (.inl List.not_mem_nil)
  | path _ _ hrest _ hquote =>
      obtain ⟨c, hc, hsymbol⟩ := hrest
      obtain ⟨back, rfl⟩ := List.head?_eq_some_iff.mp hc
      obtain ⟨hforeign, hends⟩ := isForeign_of_isSymbolChar hsymbol
      refine Json.ofText?_eq_none_of_foreign hs hforeign hends (.inl ?_)
      intro hmem
      have hplain := hquote _ (Text.mem_trim_of_mem (by decide) hmem)
      cases hplain

theorem ofText?_of_written {s : String} {test : Comparison} (h : Written s.toList test) :
    Json.ofText? s = none := by
  generalize hs : s.toList = text at h
  obtain ⟨hleft⟩ := h
  exact hleft.ofText?_eq_none hs

theorem exists_isSymbolChar_of_written {text : List Char} {test : Comparison}
    (h : Written text test) : ∃ c ∈ text, isSymbolChar c = true := by
  obtain @⟨_, _, _, _, _, symbol, _, _, _, hsymbol, _, _⟩ := h
  obtain ⟨c, cs, hcs, hc⟩ := exists_head_of_mem_symbols hsymbol.mem
  exact ⟨c, by simp [hcs], hc⟩

theorem toLower_of_isSymbolChar {c : Char} (h : isSymbolChar c = true) : c.toLower = c := by
  simp only [isSymbolChar, Bool.or_eq_true, beq_iff_eq] at h
  rcases h with ((rfl | rfl) | rfl) | rfl <;> decide

theorem asciiLower_trimmed_ne {s word : String}
    (hsymbol : ∃ c ∈ trim s.toList, isSymbolChar c = true)
    (hword : word.toList.any isSymbolChar = false) : Text.asciiLower (trimmed s) ≠ word := by
  rintro rfl
  obtain ⟨c, hc, hsymbol⟩ := hsymbol
  have hmem : c ∈ (Text.asciiLower (trimmed s)).toList := by
    rw [Text.toList_asciiLower, Text.toList_trimmed, ← toLower_of_isSymbolChar hsymbol]
    exact List.mem_map_of_mem hc
  exact absurd hsymbol (List.any_eq_false.mp hword c hmem)

/-- A text with a symbol character that is no data is a comparison or the path of an attribute. -/
theorem ofSource_of_isSymbolChar {s : String} (hsymbol : ∃ c ∈ trim s.toList, isSymbolChar c = true)
    (hdata : Json.ofText? (trimmed s) = none) :
    Rule.ofSource (.string s) =
      match comparison? (trimmed s) with
      | some test => .comparison test
      | none => .compare (trimmed s) .truthy [] := by
  have hblank : (trimmed s).isEmpty = false := by
    cases hs : (trimmed s).isEmpty with
    | false => rfl
    | true =>
        have hne : Text.asciiLower (trimmed s) ≠ "" := asciiLower_trimmed_ne hsymbol (by decide)
        rw [String.isEmpty_iff.mp hs] at hne
        exact absurd rfl hne
  have htrue : Text.asciiLower (trimmed s) ≠ "true" := asciiLower_trimmed_ne hsymbol (by decide)
  have hfalse : Text.asciiLower (trimmed s) ≠ "false" := asciiLower_trimmed_ne hsymbol (by decide)
  apply Source.ofSource_of_settled
  simp only [Source.form, Source.textForm, hblank, htrue, hfalse, hdata, Bool.false_eq_true,
    or_self, if_false]
  cases comparison? (trimmed s) <;> rfl

theorem comparison?_trimmed (s : String) : comparison? (trimmed s) = comparison? s := by
  simp only [comparison?, Text.toList_trimmed, Text.trim_trim]

theorem ofSource_of_comparison? {s : String} {test : Comparison} (h : comparison? s = some test) :
    Rule.ofSource (.string s) = .comparison test := by
  have hwritten := written_of_comparison? h
  have hdata : Json.ofText? (trimmed s) = none := by
    rw [← Text.toList_trimmed] at hwritten
    exact ofText?_of_written hwritten
  rw [ofSource_of_isSymbolChar (exists_isSymbolChar_of_written hwritten) hdata,
    comparison?_trimmed, h]

theorem evaluate_of_comparison? {s : String} {test : Comparison} (h : comparison? s = some test)
    (attributes : Object) : Source.evaluate (.string s) attributes = test.evaluate attributes := by
  rw [Source.evaluate, ofSource_of_comparison? h]
  rfl

/-- A right side without quotes. -/
structure BareWord (word : List Char) : Prop where
  trimmed : IsTrimmed word
  plain : ∀ c ∈ word, isSymbolChar c = false ∧ isQuote c = false

instance (word : List Char) : Decidable (BareWord word) :=
  decidable_of_iff (IsTrimmed word ∧ (word.all fun c => !isSymbolChar c && !isQuote c) = true)
    ⟨fun h => ⟨h.1, by simpa using h.2⟩, fun h => ⟨h.trimmed, by simpa using h.plain⟩⟩

theorem forall_eq_false_of_any {p : Char → Bool} {cs : List Char} (h : cs.any p = false) :
    ∀ c ∈ cs, p c = false := by
  simpa using h

theorem isSymbolChar_of_isBlank {c : Char} (h : isBlank c = true) : isSymbolChar c = false := by
  cases hc : isSymbolChar c with
  | false => rfl
  | true =>
      rw [isBlank_of_isSymbolChar hc] at h
      cases h

theorem longest_of_head {symbol : String} {rest : List Char} (hsymbol : symbol ∈ symbols)
    (hrest : ∀ c ∈ rest.head?, isSymbolChar c = false) :
    Longest symbol (symbol.toList ++ rest) := by
  refine ⟨hsymbol, List.prefix_append _ _, ?_⟩
  intro other hother hprefix
  rcases Nat.le_total other.length symbol.length with hle | hlonger
  · exact hle
  · rw [← String.length_toList, ← String.length_toList] at hlonger
    obtain ⟨more, hmore⟩ :=
      List.prefix_of_prefix_length_le (List.prefix_append symbol.toList rest) hprefix hlonger
    rw [← hmore, List.prefix_append_right_inj] at hprefix
    obtain ⟨tail, rfl⟩ := hprefix
    cases more with
    | nil =>
        have hsame := congrArg List.length hmore
        rw [List.append_nil, String.length_toList, String.length_toList] at hsame
        exact Nat.le_of_eq hsame.symm
    | cons c more =>
        have hplain := hrest c rfl
        rw [isSymbolChar_of_mem_symbols hother c (by simp [← hmore])] at hplain
        cases hplain

theorem prefix_or_of_prefix_append {start front back : List Char} (h : start <+: front ++ back) :
    start <+: front ∨ ∃ c more, start = front ++ c :: more ∧ c :: more <+: back := by
  rcases List.prefix_or_prefix_of_prefix h (List.prefix_append front back) with
    hstart | ⟨more, hmore⟩
  · exact .inl hstart
  · cases more with
    | nil => exact .inl ⟨[], by simpa using hmore.symm⟩
    | cons c more =>
        rw [← hmore, List.prefix_append_right_inj] at h
        exact .inr ⟨c, more, hmore.symm, h⟩

theorem CallStart.isSymbolChar_eq_false {start : List Char} (h : CallStart start) :
    ∀ c ∈ start, isSymbolChar c = false := by
  obtain ⟨hblank⟩ := h
  have hname : ∀ c ∈ "project_value".toList, isSymbolChar c = false :=
    forall_eq_false_of_any (by decide)
  have hopen : ∀ c ∈ ['('], isSymbolChar c = false := forall_eq_false_of_any (by decide)
  simp only [List.forall_mem_append]
  exact ⟨⟨hname, fun c hc => isSymbolChar_of_isBlank (hblank c hc)⟩, hopen⟩

theorem CallStart.getLast?_eq {start : List Char} (h : CallStart start) :
    start.getLast? = some '(' := by
  obtain ⟨-⟩ := h
  exact List.getLast?_concat

theorem isCall_of_append {path blank rest : List Char} (hblank : ∀ c ∈ blank, isBlank c = true)
    (hrest : ∃ c ∈ rest.head?, isSymbolChar c = true) (h : IsCall (path ++ (blank ++ rest))) :
    IsCall path := by
  obtain ⟨start, hstart, hprefix⟩ := h
  rcases prefix_or_of_prefix_append hprefix with hpath | ⟨c, more, hmore, hprefix⟩
  · exact ⟨start, hstart, hpath⟩
  exfalso
  rcases prefix_or_of_prefix_append hprefix with hwithin | ⟨d, beyond, hbeyond, hprefix⟩
  · -- the parenthesis at the end would be white space
    have hlast : (c :: more).getLast? = some '(' := by
      rw [← hstart.getLast?_eq, hmore, List.getLast?_append, List.getLast?_cons]
      rfl
    have hopen := hblank '(' (hwithin.subset (List.mem_of_getLast? hlast))
    cases hopen
  · -- the symbol would stand in the call
    obtain ⟨tail, rfl⟩ := hprefix
    obtain ⟨e, he, hsymbol⟩ := hrest
    cases he
    rw [hstart.isSymbolChar_eq_false d (by simp [hmore, hbeyond])] at hsymbol
    cases hsymbol

theorem leftSide?_path {path blank : List Char} {c : Char} (hpath : IsTrimmed path)
    (hplain : ∀ d ∈ path, isSymbolChar d = false) (hcall : ¬ IsCall path)
    (hblank : ∀ d ∈ blank, isBlank d = true) (hc : isSymbolChar c = true) (rest : List Char) :
    leftSide? (path ++ (blank ++ c :: rest)) =
      if path.any isQuote then none else some (path, c :: rest) := by
  have hargument : callArgument? (path ++ (blank ++ c :: rest)) = none :=
    callArgument?_eq_none_iff.mpr fun h => hcall (isCall_of_append hblank ⟨c, rfl, hc⟩ h)
  have hfront : ∀ d ∈ path ++ blank, (!isSymbolChar d) = true := by
    simp only [List.forall_mem_append, Bool.not_eq_true']
    exact ⟨hplain, fun d hd => isSymbolChar_of_isBlank (hblank d hd)⟩
  have htrim : trim (path ++ blank) = path := by
    have hpadded : Text.Padded path ([] ++ path ++ blank) := .intro nofun hblank
    exact hpadded.trim_eq.trans hpath.trim_eq
  rw [leftSide?, hargument, ← List.append_assoc]
  simp only [pathKey?]
  rw [List.dropWhile_append_of_pos hfront, List.takeWhile_append_of_pos hfront]
  simp [hc, htrim, hpath.ne_nil]

section

variable {path before symbol after word : String}

theorem trim_path_word (hpath : IsTrimmed path.toList) (hword : IsTrimmed word.toList) :
    trim (path ++ before ++ symbol ++ after ++ word).toList =
      path.toList ++ (before.toList ++ (symbol.toList ++ (after.toList ++ word.toList))) := by
  have htrim :=
    (hpath.append_append (before.toList ++ (symbol.toList ++ after.toList)) hword).trim_eq
  simpa only [String.toList_append, List.append_assoc] using htrim

/-- A path, a symbol and a bare word, with or without white space around the symbol, are a
comparison unless there is a quote in the path. -/
theorem comparison?_path (hpath : IsTrimmed path.toList)
    (hplain : ∀ c ∈ path.toList, isSymbolChar c = false) (hcall : ¬ IsCall path.toList)
    (hsymbol : symbol ∈ symbols) (hbefore : ∀ c ∈ before.toList, isBlank c = true)
    (hafter : ∀ c ∈ after.toList, isBlank c = true) (hword : BareWord word.toList)
    {operator : Operator} (hoperator : Operator.ofName? symbol = some operator) :
    comparison? (path ++ before ++ symbol ++ after ++ word) =
      if path.toList.any isQuote then none
      else some { key := path, operator, operands := [.ofText word] } := by
  obtain ⟨c, cs, hcs, hc⟩ := exists_head_of_mem_symbols hsymbol
  have hleft := leftSide?_path hpath hplain hcall hbefore hc (cs ++ (after.toList ++ word.toList))
  rw [← List.cons_append, ← hcs] at hleft
  have hstart : trimStart (symbol.toList ++ (after.toList ++ word.toList)) =
      symbol.toList ++ (after.toList ++ word.toList) :=
    Text.trimStart_eq_self (by simp [hcs, isBlank_of_isSymbolChar hc])
  have hhead : ∀ d ∈ (after.toList ++ word.toList).head?, isSymbolChar d = false := by
    intro d hd
    rcases List.mem_append.mp (List.mem_of_mem_head? hd) with hd | hd
    · exact isSymbolChar_of_isBlank (hafter d hd)
    · exact (hword.plain d hd).1
  have hread := symbol?_eq_some_iff.mpr ⟨symbol, longest_of_head hsymbol hhead, hoperator, rfl⟩
  have htrim : trim (after.toList ++ word.toList) = word.toList := hword.trimmed.trim_append hafter
  have hright := (literal?_eq_some_iff hword.trimmed.trim_eq).mpr
    (.bare hword.trimmed.ne_nil hword.plain)
  rw [comparison?, trim_path_word hpath hword.trimmed, hleft]
  cases path.toList.any isQuote with
  | true => rfl
  | false =>
      simp only [hstart, hread, htrim, hright, Bool.false_eq_true, if_false, Option.bind_eq_bind,
        Option.bind_some, String.ofList_toList]
      rfl

theorem ofText?_path_eq_none (hsymbol : symbol ∈ symbols)
    (hafter : ∀ c ∈ after.toList, isBlank c = true) (hword : BareWord word.toList) :
    Json.ofText? (path ++ before ++ symbol ++ after ++ word) = none := by
  -- anything may stand in quotes up to the symbol, so it is the symbol that no data can hold there
  obtain ⟨c, cs, hcs, hc⟩ := exists_head_of_mem_symbols hsymbol
  obtain ⟨hforeign, hends⟩ := isForeign_of_isSymbolChar hc
  have hback : '\x22' ∉ cs ++ (after.toList ++ word.toList) := by
    simp only [List.mem_append, not_or]
    refine ⟨fun hmem => ?_, fun hmem => ?_, fun hmem => ?_⟩
    · have hquote := isSymbolChar_of_mem_symbols hsymbol _ (hcs ▸ List.mem_cons_of_mem c hmem)
      cases hquote
    · have hquote := hafter _ hmem
      cases hquote
    · have hquote := (hword.plain _ hmem).2
      cases hquote
  have htext : (path ++ before ++ symbol ++ after ++ word).toList =
      (path.toList ++ before.toList) ++ c :: (cs ++ (after.toList ++ word.toList)) := by
    simp [hcs]
  exact Json.ofText?_eq_none_of_foreign htext hforeign hends (.inr hback)

/-- A path without quotes can stand on the left of a symbol and a bare word, and then the rule tests
what the path finds. A path with a quote in it cannot: the whole text is taken for a path. -/
theorem comparison?_of_segments {first : Path.Segment} {rest : List Path.Segment}
    (htrimmed : trimmed path = path) (hsegments : Path.segments? path = some (first :: rest))
    (hplain : ∀ c ∈ path.toList, isSymbolChar c = false) (hcall : ¬ IsCall path.toList)
    (hsymbol : symbol ∈ symbols) (hbefore : ∀ c ∈ before.toList, isBlank c = true)
    (hafter : ∀ c ∈ after.toList, isBlank c = true) (hword : BareWord word.toList) :
    let text := path ++ before ++ symbol ++ after ++ word
    ∃ operator, Operator.ofName? symbol = some operator ∧
      ((∀ c ∈ path.toList, isQuote c = false) →
        comparison? text = some { key := path, operator, operands := [.ofText word] } ∧
        ∀ attributes, Source.evaluate (.string text) attributes =
          Comparison.holds operator (Path.resolve? attributes path) [.ofText word]) ∧
      ((∃ c ∈ path.toList, isQuote c = true) →
        comparison? text = none ∧ Rule.ofSource (.string text) = .compare text .truthy []) := by
  intro text
  have hpath := Text.isTrimmed_of_trimmed htrimmed (Path.ne_empty_of_segments? hsegments)
  obtain ⟨operator, hoperator⟩ := exists_operator_of_mem_symbols hsymbol
  have hread := comparison?_path hpath hplain hcall hsymbol hbefore hafter hword hoperator
  refine ⟨operator, hoperator, fun hquote => ?_, fun hquote => ?_⟩
  · have hnone : path.toList.any isQuote = false := by simpa using hquote
    rw [hnone] at hread
    exact ⟨hread, fun attributes => evaluate_of_comparison? hread attributes⟩
  · rw [List.any_eq_true.mpr hquote] at hread
    have htext : trimmed text = text := by
      rw [trimmed, trim_path_word hpath hword.trimmed, ← String.toList_inj]
      simp [text]
    have hmember : ∃ c ∈ trim text.toList, isSymbolChar c = true := by
      obtain ⟨c, cs, hcs, hc⟩ := exists_head_of_mem_symbols hsymbol
      rw [trim_path_word hpath hword.trimmed, hcs]
      exact ⟨c, by simp, hc⟩
    have hdata : Json.ofText? (trimmed text) = none := by
      rw [htext]
      exact ofText?_path_eq_none hsymbol hafter hword
    refine ⟨hread, ?_⟩
    rw [ofSource_of_isSymbolChar hmember hdata, htext, hread]
    rfl

theorem comparison?_of_segments_white_space :
    let path := "site. panels [ 0 ].amps"
    let text := path ++ "" ++ ">=" ++ "  " ++ "50"
    trimmed path = path ∧
      Path.segments? path = some [.key "site", .key "panels", .index 0, .key "amps"] ∧
      (∀ c ∈ path.toList, isSymbolChar c = false) ∧ ¬ IsCall path.toList ∧ ">=" ∈ symbols ∧
      BareWord "50".toList ∧
      (∀ attributes, Source.evaluate (.string text) attributes =
        Comparison.holds .greaterOrEqual (Path.resolve? attributes path) [.ofText "50"]) := by
  intro path text
  have hpath : trimmed path = path := by decide +kernel
  have hsegments : Path.segments? path =
      some [.key "site", .key "panels", .index 0, .key "amps"] := by decide +kernel
  have hplain : ∀ c ∈ path.toList, isSymbolChar c = false := forall_eq_false_of_any (by decide)
  have hcall : ¬ IsCall path.toList := by decide +kernel
  have hword : BareWord "50".toList := by decide +kernel
  have hbefore : ∀ c ∈ "".toList, isBlank c = true := List.all_eq_true.mp (by decide)
  have hafter : ∀ c ∈ "  ".toList, isBlank c = true := List.all_eq_true.mp (by decide)
  obtain ⟨operator, hoperator, hread, -⟩ :=
    comparison?_of_segments hpath hsegments hplain hcall (by decide : ">=" ∈ symbols) hbefore hafter
      hword
  cases hoperator.symm.trans (by decide : Operator.ofName? ">=" = some .greaterOrEqual)
  have hquote : ∀ c ∈ path.toList, isQuote c = false := forall_eq_false_of_any (by decide)
  exact ⟨hpath, hsegments, hplain, hcall, by decide, hword, (hread hquote).2⟩

/-- Quoted keys are keys of paths, but no text with such a key on its left side is a comparison: the
rule fails although the path finds the very text on the right side. -/
theorem comparison?_of_segments_quoted_key :
    let path := "meta[\x22zone\x22]"
    let attributes : Object := [("meta", .object [("zone", .string "R1")])]
    trimmed path = path ∧ Path.segments? path = some [.key "meta", .key "zone"] ∧
      (∀ c ∈ path.toList, isSymbolChar c = false) ∧ ¬ IsCall path.toList ∧ "=" ∈ symbols ∧
      BareWord "R1".toList ∧ comparison? (path ++ " " ++ "=" ++ " " ++ "R1") = none ∧
      Path.resolve? attributes path = some (.string "R1") ∧
      Source.evaluate (.string (path ++ " " ++ "=" ++ " " ++ "R1")) attributes = false := by
  intro path attributes
  have htrimmed : trimmed path = path := by decide +kernel
  have hsegments : Path.segments? path = some [.key "meta", .key "zone"] := by decide +kernel
  have hvalue : Path.resolve? attributes path = some (.string "R1") :=
    Path.resolve?_of_segments htrimmed rfl hsegments
  exact ⟨htrimmed, hsegments, forall_eq_false_of_any (by decide), by decide +kernel, by decide,
    by decide +kernel, by decide +kernel, hvalue, by decide +kernel⟩

end

section

variable {name symbol literal : String}

theorem Quoted.isTrimmed {written inner : List Char} (h : Quoted written inner) :
    IsTrimmed written := by
  obtain @⟨quote, inner, hquote, -⟩ := h
  have hends : IsTrimmed [quote] :=
    ⟨nofun, by simp [trim, Text.trimEnd, trimStart, isBlank_of_isQuote hquote]⟩
  exact hends.append_append inner hends

/-- The comparison of a call, with the name and the text on the right side in double quotes. -/
def callText (name symbol literal : String) : String :=
  "project_value(\x22" ++ name ++ "\x22) " ++ symbol ++ " \x22" ++ literal ++ "\x22"

theorem isTrimmed_callText (name symbol literal : String) :
    IsTrimmed (callText name symbol literal).toList := by
  have hfront : IsTrimmed "project_value(\x22".toList := by decide +kernel
  have hback : IsTrimmed "\x22".toList := by decide
  have htext := hfront.append_append
    (name.toList ++ "\x22) ".toList ++ symbol.toList ++ " \x22".toList ++ literal.toList) hback
  unfold callText
  simpa only [String.toList_append, List.append_assoc] using htext

theorem written_callText (hname : IsTrimmed name.toList) (hquote : '\x22' ∉ name.toList)
    (hsymbol : symbol ∈ symbols) (hliteral : '\x22' ∉ literal.toList) {operator : Operator}
    (hoperator : Operator.ofName? symbol = some operator) :
    Written (callText name symbol literal).toList
      { key := name, operator, operands := [.ofText literal] } := by
  have hblank : ∀ c ∈ [' '], isBlank c = true := List.forall_mem_singleton.mpr rfl
  have hstart : CallStart ("project_value".toList ++ [] ++ ['(']) := .intro nofun
  have hleft (rest : List Char) : LeftSide rest ("project_value".toList ++ [] ++ ['('] ++ [] ++
      ('\x22' :: name.toList ++ ['\x22']) ++ [] ++ [')']) (trim name.toList) :=
    .call hstart nofun (.intro rfl hquote) nofun (by rw [hname.trim_eq]; exact hname.ne_nil)
  have hquoted : Quoted ('\x22' :: literal.toList ++ ['\x22']) literal.toList := .intro rfl hliteral
  have hright :
      RightSide (trim ([' '] ++ ('\x22' :: literal.toList ++ ['\x22']))) literal.toList := by
    rw [hquoted.isTrimmed.trim_append hblank]
    exact .quoted hquoted
  have hlongest : Longest symbol
      (symbol.toList ++ ([' '] ++ ('\x22' :: literal.toList ++ ['\x22']))) :=
    longest_of_head hsymbol (by rintro _ ⟨⟩; rfl)
  have hwritten := Written.intro (hleft _) hblank hlongest hoperator hright
  rw [hname.trim_eq, String.ofList_toList, String.ofList_toList] at hwritten
  unfold callText
  simpa using hwritten

/-- A call finds the attribute with the name between its quotes, also where dots, brackets or
symbols stand in the name, and no other attribute matters. -/
theorem evaluate_call (htrimmed : trimmed name = name) (hne : name ≠ "")
    (hquote : '\x22' ∉ name.toList) (hsymbol : symbol ∈ symbols)
    (hliteral : '\x22' ∉ literal.toList) {attributes : Object} {v : Json}
    (hget : Fields.get? attributes name = some v) :
    let source : Json := .string (callText name symbol literal)
    ∃ operator, Operator.ofName? symbol = some operator ∧
      Source.evaluate source attributes =
        Comparison.holds operator (some v) [.ofText literal] ∧
      ∀ other w, other ≠ name →
        Source.evaluate source (Fields.insert attributes other w) =
          Source.evaluate source attributes := by
  intro source
  have hname := Text.isTrimmed_of_trimmed htrimmed hne
  obtain ⟨operator, hoperator⟩ := exists_operator_of_mem_symbols hsymbol
  have hread : comparison? (callText name symbol literal) =
      some { key := name, operator, operands := [.ofText literal] } := by
    apply comparison?_of_written
    rw [(isTrimmed_callText name symbol literal).trim_eq]
    exact written_callText hname hquote hsymbol hliteral hoperator
  have hholds {others : Object} (hget : Fields.get? others name = some v) :
      Source.evaluate source others = Comparison.holds operator (some v) [.ofText literal] := by
    rw [evaluate_of_comparison? hread, Comparison.evaluate, Path.resolve?_of_get? htrimmed hne hget]
  refine ⟨operator, hoperator, hholds hget, fun other w hother => ?_⟩
  have hinsert : Fields.get? (Fields.insert attributes other w) name = some v := by
    rw [Fields.get?_insert, if_neg hother, hget]
  rw [hholds hget, hholds hinsert]

/-- A name with a symbol in it that is also a path through a list, where another value stands. -/
theorem evaluate_call_brackets :
    let name := "panels[0].amps >= 50"
    let literal := "a = 'b'"
    let panels : Json := .array [.object [("amps >= 50", .bool true)]]
    let attributes : Object := [("panels", panels), (name, .string literal)]
    let source : Json := .string (callText name "=" literal)
    trimmed name = name ∧ name ≠ "" ∧ '\x22' ∉ name.toList ∧ "=" ∈ symbols ∧
      '\x22' ∉ literal.toList ∧ Fields.get? attributes name = some (.string literal) ∧
      Source.evaluate source attributes = true ∧
      (∀ w, Source.evaluate source (Fields.insert attributes "panels" w) = true) := by
  intro name literal panels attributes source
  have htrimmed : trimmed name = name := by decide +kernel
  have hne : name ≠ "" := by decide
  have hquote : '\x22' ∉ name.toList := by decide
  have hliteral : '\x22' ∉ literal.toList := by decide
  have hsymbol : "=" ∈ symbols := by decide
  have hget : Fields.get? attributes name = some (.string literal) := rfl
  obtain ⟨operator, hoperator, hevaluate, hothers⟩ :=
    evaluate_call htrimmed hne hquote hsymbol hliteral hget
  cases hoperator.symm.trans (by decide +kernel : Operator.ofName? "=" = some .equals)
  have htrue : Source.evaluate source attributes = true := hevaluate.trans (by decide +kernel)
  exact ⟨htrimmed, hne, hquote, hsymbol, hliteral, hget, htrue,
    fun w => (hothers "panels" w (by decide)).trans htrue⟩

end

end FilingChecklist.Shorthand
