import FilingChecklist.Proofs.Decimal.Characters
import FilingChecklist.Proofs.Decimal.Order
import FilingChecklist.Proofs.Rule.Membership

namespace FilingChecklist

/-- The number that a value is, or that its text writes. -/
inductive Json.HasNumber : Json → Binary64 → Prop
  | number (n : Json.Number) : HasNumber (.number n) n.toBinary64
  | text {s : String} {x : Binary64}
      (h : Decimal.binary64OfText? (Text.trim s.toList) = some x) : HasNumber (.string s) x

namespace Operand

theorem boolOfText?_of_numeral {s : String} {x : Binary64}
    (h : Decimal.binary64OfText? s.toList = some x) : boolOfText? s = none := by
  obtain ⟨n, hsplit, -⟩ := Option.bind_eq_some_iff.mp h
  have hnumeric : ∀ c ∈ (Text.asciiLower s).toList, Decimal.isNumeric c = true := by
    rw [Text.toList_asciiLower, List.forall_mem_map]
    exact fun c hc => Decimal.isNumeric_toLower (Decimal.isNumeric_of_split? hsplit c hc)
  have hne {word : String} {letter : Char} (hletter : Decimal.isNumeric letter = false)
      (hmem : letter ∈ word.toList) : Text.asciiLower s ≠ word := by
    rintro rfl
    exact Bool.false_ne_true (hletter.symm.trans (hnumeric letter hmem))
  have htrue : Text.asciiLower s ≠ "true" := hne (show Decimal.isNumeric 't' = false by decide)
    (by decide)
  have hfalse : Text.asciiLower s ≠ "false" := hne (show Decimal.isNumeric 'f' = false by decide)
    (by decide)
  simp only [boolOfText?, if_neg htrue, if_neg hfalse]

theorem number?_ofText_eq_some_iff {s : String} {x : Binary64} :
    (ofText s).number? = some x ↔ Decimal.binary64OfText? (Text.trim s.toList) = some x := by
  rw [← Text.toList_trimmed, ofText]
  cases hnumber : Decimal.binary64OfText? (Text.trimmed s).toList with
  | none => cases boolOfText? (Text.trimmed s) <;> simp [number?]
  | some y => simp [boolOfText?_of_numeral hnumber, number?]

theorem number?_ofJson_eq_some_iff {v : Json} {x : Binary64} :
    (ofJson v).number? = some x ↔ v.HasNumber x := by
  constructor
  · intro h
    cases v with
    | number n =>
        obtain rfl : n.toBinary64 = x := Option.some.inj h
        exact .number n
    | string s =>
        rw [ofJson_string, number?_ofText_eq_some_iff] at h
        exact .text h
    | _ => cases h
  · rintro (n | h)
    · rfl
    · rw [ofJson_string, number?_ofText_eq_some_iff]
      exact h

theorem number?_eq_some_iff {operand : Operand} {x : Binary64} :
    operand.number? = some x ↔ operand = .number x := by
  cases operand <;> simp [number?]

theorem isLeaf_number (x : Binary64) : (number x).IsLeaf :=
  fun _ h => Operand.noConfusion h

theorem looselyEquals_number_iff {v : Json} {x y : Binary64} (h : v.HasNumber x) :
    (ofJson v).looselyEquals (.number y) = true ↔ x.value = y.value := by
  rw [number?_eq_some_iff.mp (number?_ofJson_eq_some_iff.mpr h),
    (isLeaf_number x).looselyEquals_eq, (isLeaf_number y).meets_eq, sameLeaf]
  exact Binary64.sameValue_iff_value

end Operand

namespace Comparison

def ExactlyOne (answers : List Bool) : Prop :=
  answers.count true = 1

theorem exactlyOne_not (answer : Bool) : ExactlyOne [answer, !answer] := by
  cases answer <;> rfl

theorem exactlyOne_compare (m n : Int) :
    ExactlyOne [decide (m < n), decide (n < m), decide (m = n)] := by
  rcases lt_trichotomy m n with h | h | h
  · simp [ExactlyOne, h, h.not_gt, h.ne]
  · simp [ExactlyOne, h]
  · simp [ExactlyOne, h, h.not_gt, h.ne']

variable {actual : Option Json} {expected : List Operand} {v w : Json} {x y z : Binary64}

theorem orderOf?_eq_some_iff {order : Ordering} :
    orderOf? actual expected = some order ↔ ∃ v x y, actual = some v ∧ v.HasNumber x ∧
      expected.head? = some (.number y) ∧ compare x.value y.value = order := by
  simp only [orderOf?, Option.bind_eq_bind, Option.bind_eq_some_iff, Option.pure_def,
    Option.some.injEq, Binary64.order_eq_compare_value, Operand.number?_ofJson_eq_some_iff]
  simp only [Operand.number?_eq_some_iff]
  constructor
  · rintro ⟨v, hv, x, hx, _, hhead, y, rfl, horder⟩
    exact ⟨v, x, y, hv, hx, hhead, horder⟩
  · rintro ⟨v, x, y, hv, hx, hhead, horder⟩
    exact ⟨v, hv, x, hx, _, hhead, y, rfl, horder⟩

/-- The operators that compare numbers compare their values. -/
theorem holds_numeric (hx : v.HasNumber x) (hy : expected.head? = some (.number y)) :
    holds .greaterThan (some v) expected = decide (y.value < x.value) ∧
    holds .greaterOrEqual (some v) expected = decide (y.value ≤ x.value) ∧
    holds .lessThan (some v) expected = decide (x.value < y.value) ∧
    holds .lessOrEqual (some v) expected = decide (x.value ≤ y.value) := by
  have horder : orderOf? (some v) expected = some (compare x.value y.value) :=
    orderOf?_eq_some_iff.mpr ⟨v, x, y, rfl, hx, hy, rfl⟩
  simp only [holds, horder, Option.any_some]
  rcases lt_trichotomy x.value y.value with h | h | h
  · rw [compare_lt_iff_lt.mpr h]
    simp [h, h.le]
  · rw [compare_eq_iff_eq.mpr h]
    simp [h]
  · rw [compare_gt_iff_gt.mpr h]
    simp [h, h.le]

theorem holds_of_value_le (hx : v.HasNumber x) (hz : w.HasNumber z)
    (hy : expected.head? = some (.number y)) (h : x.value ≤ z.value) :
    ∀ operator ∈ [Operator.greaterThan, .greaterOrEqual],
      holds operator (some v) expected = true → holds operator (some w) expected = true := by
  obtain ⟨hgt, hge, -⟩ := holds_numeric hx hy
  obtain ⟨hgt', hge', -⟩ := holds_numeric hz hy
  rw [List.forall_mem_cons, List.forall_mem_singleton]
  simp only [hgt, hge, hgt', hge', decide_eq_true_eq]
  exact ⟨fun hlt => hlt.trans_le h, fun hle => hle.trans h⟩

theorem holds_of_value_ge (hx : v.HasNumber x) (hz : w.HasNumber z)
    (hy : expected.head? = some (.number y)) (h : z.value ≤ x.value) :
    ∀ operator ∈ [Operator.lessThan, .lessOrEqual],
      holds operator (some v) expected = true → holds operator (some w) expected = true := by
  obtain ⟨-, -, hlt, hle⟩ := holds_numeric hx hy
  obtain ⟨-, -, hlt', hle'⟩ := holds_numeric hz hy
  rw [List.forall_mem_cons, List.forall_mem_singleton]
  simp only [hlt, hle, hlt', hle', decide_eq_true_eq]
  exact ⟨fun hlt => h.trans_lt hlt, fun hle => h.trans hle⟩

theorem holds_numeric_eq_false
    (h : ¬ ∃ v x y, actual = some v ∧ v.HasNumber x ∧ expected.head? = some (.number y)) :
    ∀ operator ∈ [Operator.greaterThan, .greaterOrEqual, .lessThan, .lessOrEqual],
      holds operator actual expected = false := by
  have horder : orderOf? actual expected = none := by
    rw [Option.eq_none_iff_forall_ne_some]
    intro order horder
    obtain ⟨v, x, y, hv, hx, hy, -⟩ := orderOf?_eq_some_iff.mp horder
    exact h ⟨v, x, y, hv, hx, hy⟩
  simp [holds, horder]

theorem holds_equals_number (hx : v.HasNumber x) (y : Binary64) :
    holds .equals (some v) [.number y] = decide (x.value = y.value) := by
  have hleaf : (Operand.ofJson v).IsLeaf := Operand.isLeaf_ofJson fun items h => by
    rw [h] at hx
    cases hx
  rw [(holds_of_ne_nil (List.cons_ne_nil _ _) _).1 _ (by decide), matchesAny, Option.any_some,
    matchesOperand_of_isLeaf hleaf, Bool.eq_iff_iff, decide_eq_true_iff,
    ← Operand.looselyEquals_number_iff hx]
  simp

/-- Of an operator and its opposite exactly one holds; for equality and membership that takes an
operand. The four operators that compare numbers follow the order of the attribute's number and the
first operand, and all fail if one of the two is no number. -/
theorem evaluate_families (key : String) (expected : List Operand) (attributes : Object) :
    let answer (operator : Operator) : Bool := evaluate ⟨key, operator, expected⟩ attributes
    (ExactlyOne [answer .contains, answer .notContains] ∧
      ExactlyOne [answer .present, answer .absent] ∧
      ExactlyOne [answer .truthy, answer .falsy]) ∧
    (expected ≠ [] → ExactlyOne [answer .equals, answer .notEquals] ∧
      ExactlyOne [answer .oneOf, answer .noneOf] ∧ answer .equals = answer .oneOf) ∧
    (expected = [] → answer .notEquals = true ∧ answer .oneOf = false ∧ answer .noneOf = false) ∧
    (∀ v x y, Path.resolve? attributes key = some v → v.HasNumber x →
      expected.head? = some (.number y) →
      (answer .greaterThan = decide (y.value < x.value) ∧
        answer .lessThan = decide (x.value < y.value)) ∧
      answer .greaterThan = !answer .lessOrEqual ∧ answer .lessThan = !answer .greaterOrEqual ∧
      ExactlyOne [answer .lessThan, answer .greaterThan,
        evaluate ⟨key, .equals, [.number y]⟩ attributes] ∧
      ∀ others w z, Path.resolve? others key = some w → w.HasNumber z →
        (x.value ≤ z.value → ∀ operator ∈ [Operator.greaterThan, .greaterOrEqual],
          answer operator = true → evaluate ⟨key, operator, expected⟩ others = true) ∧
        (z.value ≤ x.value → ∀ operator ∈ [Operator.lessThan, .lessOrEqual],
          answer operator = true → evaluate ⟨key, operator, expected⟩ others = true)) ∧
    ((¬ ∃ v x y, Path.resolve? attributes key = some v ∧ v.HasNumber x ∧
        expected.head? = some (.number y)) →
      ∀ operator ∈ [Operator.greaterThan, .greaterOrEqual, .lessThan, .lessOrEqual],
        answer operator = false) := by
  intro answer
  refine ⟨⟨exactlyOne_not _, ?_, exactlyOne_not _⟩, ?_, ?_, ?_, holds_numeric_eq_false⟩
  · simp only [answer, evaluate, holds]
    cases Attribute.isEmpty _ <;> rfl
  · intro hexpected
    obtain ⟨hequality, hdifference⟩ :=
      holds_of_ne_nil hexpected (Path.resolve? attributes key)
    simp only [answer, evaluate, hequality .equals (by decide), hequality .oneOf (by decide),
      hdifference .notEquals (by decide), hdifference .noneOf (by decide)]
    exact ⟨exactlyOne_not _, exactlyOne_not _, trivial⟩
  · rintro rfl
    exact ⟨rfl, rfl, rfl⟩
  · intro v x y hv hx hy
    obtain ⟨hgt, hge, hlt, hle⟩ := holds_numeric hx hy
    simp only [answer, evaluate, hv]
    refine ⟨⟨hgt, hlt⟩, ?_, ?_, ?_, ?_⟩
    · simp only [hgt, hle, ← not_le, decide_not]
    · simp only [hlt, hge, ← not_le, decide_not]
    · rw [hlt, hgt, holds_equals_number hx]
      exact exactlyOne_compare _ _
    · intro others w z hw hz
      rw [hw]
      exact ⟨holds_of_value_le hx hz hy, holds_of_value_ge hx hz hy⟩

theorem evaluate_families_amps :
    let sixty : Binary64 := .ofInt 60
    let expected : List Operand := [.number sixty, .text "amps"]
    let attributes : Object := [("panel", .object [("amps", .string " 6.0e1\n")])]
    let larger : Object := [("panel", .object [("amps", .number (.integer 61 (by decide)))])]
    let nested : Object := [("panel", .object [("amps", .array [.number (.binary sixty)])])]
    let answer (operator : Operator) (attributes : Object) : Bool :=
      evaluate ⟨"panel.amps", operator, expected⟩ attributes
    (answer .greaterOrEqual attributes = true ∧ answer .greaterOrEqual larger = true) ∧
      (answer .lessOrEqual attributes = true ∧ answer .greaterThan attributes = false) ∧
      (answer .greaterOrEqual nested = false ∧ answer .lessOrEqual nested = false) ∧
      (answer .equals nested = true ∧ answer .oneOf nested = true) := by
  intro sixty expected attributes larger nested answer
  obtain ⟨-, -, -, hnumbers, -⟩ := evaluate_families "panel.amps" expected attributes
  obtain ⟨-, hequality, -, -, hothers⟩ := evaluate_families "panel.amps" expected nested
  have hvalue : Path.resolve? attributes "panel.amps" = some (.string " 6.0e1\n") := rfl
  have hlarger : Path.resolve? larger "panel.amps" =
      some (.number (.integer 61 (by decide))) := rfl
  have hnested : Path.resolve? nested "panel.amps" =
      some (.array [.number (.binary sixty)]) := rfl
  have hsixty : (Json.string " 6.0e1\n").HasNumber sixty := .text (by decide +kernel)
  obtain ⟨-, hgreater, -, -, hreplaced⟩ := hnumbers _ _ _ hvalue hsixty rfl
  have hatLeast : answer .greaterOrEqual attributes = true := by decide +kernel
  have hatMost : answer .lessOrEqual attributes = true := by decide +kernel
  have hfail := hothers (by
    rintro ⟨v, x, y, hv, hx, -⟩
    obtain rfl := Option.some.inj (hnested.symm.trans hv)
    cases hx)
  refine ⟨⟨hatLeast, ?_⟩, ⟨hatMost, ?_⟩, ⟨hfail _ (by decide), hfail _ (by decide)⟩, ?_⟩
  · exact (hreplaced larger _ _ hlarger (.number _)).1 (by decide +kernel) _ (by decide) hatLeast
  · exact hgreater.trans (congrArg not hatMost)
  · have hequals : answer .equals nested = true := by decide +kernel
    exact ⟨hequals, (hequality (List.cons_ne_nil _ _)).2.2.symm.trans hequals⟩

end Comparison

end FilingChecklist
