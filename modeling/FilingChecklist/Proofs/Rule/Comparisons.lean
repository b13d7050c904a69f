import FilingChecklist.Proofs.Decimal.Words
import FilingChecklist.Proofs.Rule.Depth
import FilingChecklist.Proofs.Rule.Families
import FilingChecklist.Proofs.Rule.Locality
import FilingChecklist.Proofs.Shorthand.Attributes

/-!
The comparisons in the tree of a source. They are made at three places: from a text that writes a
comparison, from a text that is a path, and from an object that is a condition.
-/

namespace FilingChecklist

/-- The numbers in an operand are finite and its texts trimmed, in its lists as well. -/
structure Operand.WellFormed (operand : Operand) : Prop where
  finite : ∀ x, .number x ∈ operand.leaves → x.word.IsFinite
  trimmed : ∀ s, .text s ∈ operand.leaves → Text.trimmed s = s

namespace TextMode

variable {mode : TextMode} {s : String}

theorem leaves_text (mode : TextMode) (t : String) : (mode.text t).leaves = [mode.text t] := by
  cases mode with
  | verbatim => rfl
  | coerce => exact (Operand.isLeaf_ofText t).leaves_eq

theorem trimmed_of_text_eq {t : String} (h : mode.text t = .text s) : Text.trimmed s = s := by
  cases mode with
  | verbatim =>
      cases h
      exact Text.trimmed_trimmed t
  | coerce =>
      rcases Operand.ofText_cases t with ⟨b, ht⟩ | ⟨x, ht⟩ | ht <;> cases ht.symm.trans h
      exact Text.trimmed_trimmed t

mutual

theorem trimmed_of_mem_leaves :
    (v : Json) → .text s ∈ (mode.operand v).leaves → Text.trimmed s = s
  | .string t, h => by
      rw [operand, leaves_text] at h
      exact trimmed_of_text_eq (List.mem_singleton.mp h).symm
  | .array items, h => trimmed_of_mem_leavesEach items h
  | .null, h => nomatch List.mem_singleton.mp h
  | .bool _, h => nomatch List.mem_singleton.mp h
  | .number _, h => nomatch List.mem_singleton.mp h
  | .object _, h => nomatch List.mem_singleton.mp h

theorem trimmed_of_mem_leavesEach :
    (items : List Json) → .text s ∈ Operand.leavesEach (mode.operands items) → Text.trimmed s = s
  | [], h => nomatch h
  | item :: items, h =>
      (List.mem_append.mp h).elim (trimmed_of_mem_leaves item) (trimmed_of_mem_leavesEach items)

end

theorem wellFormed_operand (mode : TextMode) (v : Json) : (mode.operand v).WellFormed :=
  ⟨fun x _ => x.isFinite_word, fun _ => trimmed_of_mem_leaves v⟩

end TextMode

namespace Expected

variable {decode : String → Option Json} {mode : TextMode} {operand : Operand}

theorem exists_of_mem_ofParts {text : List Char} (h : operand ∈ ofParts mode text) :
    ∃ v, operand = mode.operand v := by
  simp only [ofParts] at h
  split at h
  · obtain ⟨part, -, rfl⟩ := List.mem_map.mp h
    exact ⟨.string (String.ofList part), rfl⟩
  · cases List.mem_singleton.mp h
    exact ⟨.string (String.ofList text), rfl⟩

theorem exists_of_mem_ofDecoded {v : Json} (h : operand ∈ ofDecoded mode v) :
    ∃ v, operand = mode.operand v := by
  cases v with
  | array items =>
      obtain ⟨item, -, rfl⟩ := List.mem_map.mp h
      exact ⟨item, rfl⟩
  | _ => exact ⟨_, List.mem_singleton.mp h⟩

theorem exists_of_mem_ofText {s : String} (h : operand ∈ ofText decode mode s) :
    ∃ v, operand = mode.operand v := by
  simp only [ofText] at h
  split at h
  · cases h
  · split at h
    · split at h
      · exact exists_of_mem_ofDecoded h
      · exact exists_of_mem_ofParts h
    · exact exists_of_mem_ofParts h

theorem exists_of_mem_ofField {field : Option Json} (h : operand ∈ ofField decode mode field) :
    ∃ v, operand = mode.operand v := by
  cases field with
  | none => cases h
  | some v =>
      cases v with
      | null => cases h
      | string s => exact exists_of_mem_ofText h
      | _ =>
          simp only [ofField] at h
          exact exists_of_mem_ofDecoded h

theorem exists_of_mem_operands {rule : Object} (h : operand ∈ operands decode mode rule) :
    ∃ v, operand = mode.operand v := by
  obtain ⟨name, -, h⟩ := List.mem_flatMap.mp h
  exact exists_of_mem_ofField h

end Expected

/-- What the evaluation of a comparison relies on. -/
structure Comparison.WellFormed (test : Comparison) : Prop where
  key_ne_empty : test.key ≠ ""
  key_trimmed : Text.trimmed test.key = test.key
  operands : ∀ operand ∈ test.operands, operand.WellFormed
  coerced : test.operator ≠ .contains → test.operator ≠ .notContains →
    ∀ operand ∈ test.operands, operand.coerced = operand

namespace Source

/-- A source that makes a comparison by itself. -/
inductive Writes (decode : String → Option Json) : Json → Comparison → Prop
  | shorthand {s : String} {test : Comparison}
      (h : Shorthand.comparison? (Text.trimmed s) = some test) : Writes decode (.string s) test
  | path {s : String} (hne : Text.trimmed s ≠ "") :
      Writes decode (.string s) ⟨Text.trimmed s, .truthy, []⟩
  | condition {rule : Object} {key : String} {operator : Operator}
      (hkey : firstText? rule keyFields = some key)
      (hoperator : Operator.ofName?
        (Text.asciiLower ((firstText? rule operatorFields).getD "equals")) = some operator) :
      Writes decode (.object rule)
        ⟨key, operator, Expected.operands decode (textMode operator) rule⟩

variable {decode : String → Option Json} {depth : Nat} {source : Json} {test : Comparison}

theorem textMode_eq_coerce {operator : Operator} (h : operator ≠ .contains)
    (h' : operator ≠ .notContains) : textMode operator = .coerce := by
  cases operator with
  | contains => exact absurd rfl h
  | notContains => exact absurd rfl h'
  | _ => rfl

theorem textMode_of_mem_symbols : ∀ symbol ∈ Shorthand.symbols,
    ∀ operator ∈ Operator.ofName? symbol, textMode operator = .coerce := by
  decide

theorem wellFormed_of_operands {key : String} {operator : Operator} {operands : List Operand}
    (hne : key ≠ "") (htrimmed : Text.trimmed key = key)
    (h : ∀ operand ∈ operands, ∃ v, operand = (textMode operator).operand v) :
    Comparison.WellFormed ⟨key, operator, operands⟩ where
  key_ne_empty := hne
  key_trimmed := htrimmed
  operands := by
    intro operand hmem
    obtain ⟨v, rfl⟩ := h operand hmem
    exact TextMode.wellFormed_operand _ v
  coerced := by
    intro hcontains hnotContains operand hmem
    obtain ⟨v, rfl⟩ := h operand hmem
    rw [textMode_eq_coerce hcontains hnotContains]
    exact Operand.coerced_ofJson v

theorem key_of_firstText? {rule : Object} {names : List String} {key : String}
    (h : firstText? rule names = some key) : key ≠ "" ∧ Text.trimmed key = key := by
  obtain ⟨name, v, -, hread⟩ := Fields.first?_eq_some_iff.mp h
  obtain ⟨s, -, hs⟩ := Option.bind_eq_some_iff.mp hread
  obtain ⟨hfilled, hs⟩ := Option.ite_none_left_eq_some.mp hs
  cases hs
  exact ⟨by simpa using hfilled, Text.trimmed_trimmed s⟩

theorem key_of_leftSide {rest left key : List Char} (h : Shorthand.LeftSide rest left key) :
    String.ofList key ≠ "" ∧ Text.trimmed (String.ofList key) = String.ofList key := by
  obtain ⟨name, rfl, hname⟩ : ∃ name, key = Text.trim name ∧ Text.trim name ≠ [] := by
    cases h with
    | call _ _ _ _ hname => exact ⟨_, rfl, hname⟩
    | path _ _ _ hkey _ => exact ⟨_, rfl, hkey⟩
  refine ⟨by simpa using hname, ?_⟩
  simp [Text.trimmed]

theorem Writes.wellFormed (h : Writes decode source test) : test.WellFormed := by
  cases h with
  | shorthand h =>
      have hwritten := Shorthand.written_of_comparison? h
      generalize Text.trim _ = text at hwritten
      obtain @⟨_, _, _, _, literal, symbol, operator, hleft, -, hsymbol, hoperator, -⟩ := hwritten
      obtain ⟨hne, htrimmed⟩ := key_of_leftSide hleft
      refine wellFormed_of_operands hne htrimmed fun operand hmem => ?_
      rw [textMode_of_mem_symbols symbol hsymbol.mem operator hoperator]
      exact ⟨.string (String.ofList literal), List.mem_singleton.mp hmem⟩
  | path hne => exact wellFormed_of_operands hne (Text.trimmed_trimmed _) (List.forall_mem_nil _)
  | condition hkey =>
      obtain ⟨hne, htrimmed⟩ := key_of_firstText? hkey
      exact wellFormed_of_operands hne htrimmed fun _ => Expected.exists_of_mem_operands

theorem writes_of_textForm {s : String} {rule : Rule} (h : textForm decode s = .settled rule)
    (htest : test ∈ rule.comparisons) : Writes decode (.string s) test := by
  simp only [textForm] at h
  split at h
  · cases h
    cases htest
  · next hfilled =>
      split at h
      · cases h
        cases htest
      · split at h
        · cases h
        · split at h
          · next hshorthand =>
              cases h
              cases List.mem_singleton.mp htest
              exact .shorthand hshorthand
          · cases h
            cases List.mem_singleton.mp htest
            refine .path fun hblank => hfilled (.inl ?_)
            rw [hblank]
            rfl

theorem comparisons_constantCondition (rule : Object) (operatorName : String) :
    (constantCondition rule operatorName).comparisons = [] := by
  rw [constantCondition]
  split
  · rfl
  · split
    · rfl
    · split <;> rfl

theorem writes_of_condition {rule : Object} (htest : test ∈ (condition decode rule).comparisons) :
    Writes decode (.object rule) test := by
  simp only [condition] at htest
  split at htest
  · rw [comparisons_constantCondition] at htest
    cases htest
  · next hkey =>
      split at htest
      · next hoperator =>
          cases List.mem_singleton.mp htest
          exact .condition hkey hoperator
      · cases htest

/-- Of the steps of an object only the condition makes a comparison. -/
theorem writes_of_objectForm {fields : Object} {rule : Rule}
    (h : objectForm decode fields = .settled rule) (htest : test ∈ rule.comparisons) :
    Writes decode (.object fields) test := by
  obtain ⟨step, hstep, hform⟩ := ((objectForm_eq_iff _).mp h).exists_mem
  simp only [steps, List.mem_cons, List.not_mem_nil, or_false] at hstep
  rcases hstep with rfl | rfl | rfl | rfl | rfl | rfl
  · cases hform <;> cases htest
  · cases hform
  · cases hform
  · cases hform
  · cases hform
  · cases hform
    exact writes_of_condition htest

theorem writes_of_settled {rule : Rule} (h : form decode source = .settled rule)
    (htest : test ∈ rule.comparisons) : Writes decode source test := by
  cases source with
  | string s => exact writes_of_textForm h htest
  | object fields => exact writes_of_objectForm h htest
  | array items => cases h
  | _ => cases h; cases htest

theorem Form.mem_comparisons_build_iff {outer : Form} {tree : Json → Rule} :
    test ∈ (outer.build tree).comparisons ↔
      (∃ rule, outer = .settled rule ∧ test ∈ rule.comparisons) ∨
        ∃ child ∈ outer.inner, test ∈ (tree child).comparisons := by
  cases outer <;> simp [build, inner, Rule.comparisons]

/-- The comparisons in the tree are those of the settled sources that are reached within the
limit. -/
theorem mem_comparisons_readAt_iff :
    test ∈ (readAt decode depth source).comparisons ↔
      ∃ found, Relation.ReflTransGen (Calls decode) (depth, source) found ∧ found.1 ≤ maxDepth ∧
        ∃ rule, form decode found.2 = .settled rule ∧ test ∈ rule.comparisons := by
  -- by induction on the nesting that is left, since a source inside a text need not be smaller
  generalize hleft : maxDepth + 1 - depth = left
  induction left generalizing depth source with
  | zero =>
      rw [readAt_of_lt (by omega)]
      constructor
      · intro h
        cases h
      · rintro ⟨found, hcalls, hdepth, -⟩
        rcases hcalls.cases_head with rfl | ⟨next, hcall, -⟩
        · omega
        · have hstart := hcall.nesting.1
          omega
  | succ left ih =>
      have hdepth : depth ≤ maxDepth := by omega
      rw [readAt_eq_build decode hdepth, Form.mem_comparisons_build_iff]
      constructor
      · rintro (hsettled | ⟨child, hchild, htest⟩)
        · exact ⟨_, .refl, hdepth, hsettled⟩
        · obtain ⟨found, hcalls, hfound⟩ := (ih (by omega)).mp htest
          exact ⟨found, .head (.inner hdepth hchild) hcalls, hfound⟩
      · rintro ⟨found, hcalls, hfound⟩
        rcases hcalls.cases_head with rfl | ⟨_, ⟨-, hchild⟩, hcalls⟩
        · exact .inl hfound.2
        · exact .inr ⟨_, hchild, (ih (by omega)).mpr ⟨found, hcalls, hfound⟩⟩

end Source

theorem Shorthand.exists_operands_eq {s : String} {test : Comparison}
    (h : comparison? s = some test) : ∃ operand, test.operands = [operand] := by
  have hwritten := written_of_comparison? h
  generalize Text.trim _ = text at hwritten
  cases hwritten
  exact ⟨_, rfl⟩

theorem Comparison.orderOf?_eq_order? {actual : Option Json} {expected : List Operand} {v : Json}
    {x y : Binary64} (hv : actual = some v) (hx : (Operand.ofJson v).number? = some x)
    (hy : expected.head?.bind Operand.number? = some y) :
    orderOf? actual expected = x.word.order? y.word := by
  obtain ⟨operand, hhead, hy⟩ := Option.bind_eq_some_iff.mp hy
  simp [orderOf?, hv, hx, hhead, hy, Binary64.order?_word]

/-- Every comparison in the tree of a source is made by some source that is read for it, and is
well-formed; if it is written as text, it has one operand. -/
theorem Rule.wellFormed_of_mem_comparisons {source : Json} {test : Comparison}
    (htest : test ∈ (ofSource source).comparisons) :
    test.WellFormed ∧
      (∃ found, Relation.ReflTransGen (Source.Calls Json.ofText?) (0, source) found ∧
        Source.Writes Json.ofText? found.2 test) ∧
      (∀ s, Shorthand.comparison? s = some test → ∃ operand, test.operands = [operand]) ∧
      ∀ attributes v x y, Path.resolve? attributes test.key = some v →
        (Operand.ofJson v).number? = some x →
        test.operands.head?.bind Operand.number? = some y →
        ∃ order, x.word.order? y.word = some order ∧
          Comparison.orderOf? (Path.resolve? attributes test.key) test.operands = some order := by
  obtain ⟨found, hcalls, -, rule, hform, hrule⟩ := Source.mem_comparisons_readAt_iff.mp htest
  have hwrites := Source.writes_of_settled hform hrule
  refine ⟨hwrites.wellFormed, ⟨found, hcalls, hwrites⟩, fun s => Shorthand.exists_operands_eq, ?_⟩
  intro attributes v x y hv hx hy
  have horder := Binary64.order?_word x y
  exact ⟨_, horder, (Comparison.orderOf?_eq_order? hv hx hy).trans horder⟩

theorem Rule.wellFormed_of_mem_comparisons_amps :
    let path := "panel.amps"
    let text := path ++ " " ++ ">=" ++ " " ++ "6e1"
    let amps : Comparison := ⟨path, .greaterOrEqual, [.ofText "6e1"]⟩
    let nested : Json := .object [("not", .array [.object [("key", .string " zone\n"),
      ("op", .string "contains"), ("value", .array [.string " R1"])]])]
    let zone : Comparison := ⟨"zone", .contains, [.text "R1"]⟩
    let fifty : Json.Number := .integer 50 (by decide)
    let attributes : Object := [("panel", .object [("amps", .number fifty)])]
    amps ∈ (ofSource (.string text)).comparisons ∧ amps.WellFormed ∧
      (∃ operand, amps.operands = [operand]) ∧
      zone ∈ (ofSource nested).comparisons ∧ zone.WellFormed ∧
      ∃ order, fifty.toBinary64.word.order? (Binary64.ofInt 60).word = some order ∧
        Comparison.orderOf? (Path.resolve? attributes path) amps.operands = some order := by
  intro path text amps nested zone fifty attributes
  have hpath : Text.IsTrimmed path.toList := by decide +kernel
  have hplain : ∀ c ∈ path.toList, Shorthand.isSymbolChar c = false :=
    Shorthand.forall_eq_false_of_any (by decide)
  have hcall : ¬ Shorthand.IsCall path.toList := by decide +kernel
  have hword : Shorthand.BareWord "6e1".toList := by decide +kernel
  have hspace : ∀ c ∈ " ".toList, Text.isBlank c = true := List.all_eq_true.mp (by decide)
  have hread := Shorthand.comparison?_path hpath hplain hcall (by decide : ">=" ∈ Shorthand.symbols)
    hspace hspace hword (by decide : Operator.ofName? ">=" = some .greaterOrEqual)
  have hshorthand : Shorthand.comparison? text = some amps := hread.trans (if_neg (by decide))
  have hamps : amps ∈ (ofSource (.string text)).comparisons := by
    rw [Shorthand.ofSource_of_comparison? hshorthand]
    exact List.mem_singleton_self amps
  have hzone : zone ∈ (ofSource nested).comparisons := List.mem_singleton_self zone
  have hsegments : Path.segments? path = some [.key "panel", .key "amps"] := by decide +kernel
  have hnumber : Path.resolve? attributes path = some (.number fifty) :=
    Path.resolve?_of_segments (by decide +kernel) rfl hsegments
  have hsixty : (amps.operands.head?.bind Operand.number?) = some (.ofInt 60) := by decide +kernel
  obtain ⟨hwell, -, honly, horder⟩ := wellFormed_of_mem_comparisons hamps
  obtain ⟨hwellZone, -⟩ := wellFormed_of_mem_comparisons hzone
  exact ⟨hamps, hwell, honly text hshorthand, hzone, hwellZone,
    horder attributes _ _ _ hnumber rfl hsixty⟩

end FilingChecklist
