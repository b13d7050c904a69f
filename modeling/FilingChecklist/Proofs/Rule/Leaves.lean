import FilingChecklist.Rule.Evaluation

/-!
Matching an attribute with expected operands. Lists on either side count only by the operands at
their leaves: how these are nested, ordered and repeated makes no difference.
-/

namespace FilingChecklist

namespace Operand

def IsLeaf (operand : Operand) : Prop :=
  ∀ items, operand ≠ .list items

mutual

/-- What holds of the leaves, and of a list whenever it holds of the items, holds of every
operand. -/
theorem induction_on_items {motive : Operand → Prop}
    (leaf : ∀ operand, operand.IsLeaf → motive operand)
    (list : ∀ items, (∀ item ∈ items, motive item) → motive (.list items)) :
    (operand : Operand) → motive operand
  | .null => leaf .null nofun
  | .bool b => leaf (.bool b) nofun
  | .number x => leaf (.number x) nofun
  | .text s => leaf (.text s) nofun
  | .list items => list items (forall_mem_of_items leaf list items)
  | .map fields => leaf (.map fields) nofun

theorem forall_mem_of_items {motive : Operand → Prop}
    (leaf : ∀ operand, operand.IsLeaf → motive operand)
    (list : ∀ items, (∀ item ∈ items, motive item) → motive (.list items)) :
    (operands : List Operand) → ∀ operand ∈ operands, motive operand
  | [] => nofun
  | operand :: operands => List.forall_mem_cons.mpr
      ⟨induction_on_items leaf list operand, forall_mem_of_items leaf list operands⟩

end

theorem IsLeaf.leaves_eq {operand : Operand} (h : operand.IsLeaf) : operand.leaves = [operand] := by
  cases operand with
  | list items => exact absurd rfl (h items)
  | _ => rfl

@[simp] theorem leaves_list (items : List Operand) :
    (list items).leaves = items.flatMap leaves := by
  rw [leaves, leavesEach_eq_flatMap]

theorem IsLeaf.meets_eq {operand : Operand} (h : operand.IsLeaf) (leaf : Operand) :
    leaf.meets operand = leaf.sameLeaf operand := by
  cases operand with
  | list items => exact absurd rfl (h items)
  | _ => simp only [meets]

theorem IsLeaf.looselyEquals_eq {leaf : Operand} (h : leaf.IsLeaf) (operand : Operand) :
    leaf.looselyEquals operand = leaf.meets operand := by
  cases leaf with
  | list items => exact absurd rfl (h items)
  | _ => simp only [looselyEquals]

theorem meets_iff {leaf operand : Operand} :
    leaf.meets operand = true ↔ ∃ other ∈ operand.leaves, leaf.sameLeaf other = true := by
  induction operand using induction_on_items with
  | leaf operand h =>
      rw [h.meets_eq, h.leaves_eq]
      simp
  | list items ih =>
      rw [meets, meetsAny_eq_any, List.any_eq_true, leaves_list]
      simp only [List.mem_flatMap]
      constructor
      · rintro ⟨item, hitem, hmeets⟩
        obtain ⟨other, hother, hsame⟩ := (ih item hitem).mp hmeets
        exact ⟨other, ⟨item, hitem, hother⟩, hsame⟩
      · rintro ⟨other, ⟨item, hitem, hother⟩, hsame⟩
        exact ⟨item, hitem, (ih item hitem).mpr ⟨other, hother, hsame⟩⟩

/-- Some leaf of the operand equals some leaf of one of the expected ones. -/
def SharesLeaf (operand : Operand) (expected : List Operand) : Prop :=
  ∃ leaf ∈ operand.leaves, ∃ e ∈ expected, ∃ other ∈ e.leaves, leaf.sameLeaf other = true

/-- The same operands stand at the leaves, however often and wherever. -/
def SameLeaves (operands others : List Operand) : Prop :=
  ∀ leaf, leaf ∈ operands.flatMap leaves ↔ leaf ∈ others.flatMap leaves

theorem sharesLeaf_list_iff {items expected : List Operand} :
    (list items).SharesLeaf expected ↔ ∃ item ∈ items, item.SharesLeaf expected := by
  simp only [SharesLeaf, leaves_list, List.mem_flatMap]
  constructor
  · rintro ⟨leaf, ⟨item, hitem, hleaf⟩, hshares⟩
    exact ⟨item, hitem, leaf, hleaf, hshares⟩
  · rintro ⟨item, hitem, leaf, hleaf, hshares⟩
    exact ⟨leaf, ⟨item, hitem, hleaf⟩, hshares⟩

theorem IsLeaf.sharesLeaf_iff {leaf : Operand} (h : leaf.IsLeaf) {expected : List Operand} :
    leaf.SharesLeaf expected ↔ ∃ e ∈ expected, leaf.looselyEquals e = true := by
  simp only [SharesLeaf, h.leaves_eq, h.looselyEquals_eq, meets_iff, List.mem_singleton,
    exists_eq_left]

theorem sharesLeaf_iff_flatMap {operand : Operand} {expected : List Operand} :
    operand.SharesLeaf expected ↔
      ∃ leaf ∈ operand.leaves, ∃ other ∈ expected.flatMap leaves, leaf.sameLeaf other = true := by
  simp only [SharesLeaf, List.mem_flatMap]
  constructor
  · rintro ⟨leaf, hleaf, e, he, other, hother, hsame⟩
    exact ⟨leaf, hleaf, other, ⟨e, he, hother⟩, hsame⟩
  · rintro ⟨leaf, hleaf, other, ⟨e, he, hother⟩, hsame⟩
    exact ⟨leaf, hleaf, e, he, other, hother, hsame⟩

theorem sharesLeaf_iff_of_sameLeaves {operand other : Operand} {expected others : List Operand}
    (hoperand : SameLeaves [operand] [other]) (hexpected : SameLeaves expected others) :
    operand.SharesLeaf expected ↔ other.SharesLeaf others := by
  have hleaf (leaf : Operand) : leaf ∈ operand.leaves ↔ leaf ∈ other.leaves := by
    simpa using hoperand leaf
  simp only [sharesLeaf_iff_flatMap, hleaf, hexpected _]

theorem not_sharesLeaf_of_leaves_eq_nil {operand : Operand} (h : operand.leaves = [])
    (expected : List Operand) : ¬ operand.SharesLeaf expected := by
  rintro ⟨leaf, hleaf, -⟩
  rw [h] at hleaf
  cases hleaf

end Operand

namespace Comparison

open Operand (SameLeaves)

variable {test : Comparison} {attributes : Object} {actual : Operand} {v : Json}
  {expected : List Operand}

theorem matchesAnyOf_eq_any (items : List Operand) :
    matchesAnyOf expected items = items.any (matchesOperand expected) := by
  induction items with
  | nil => rfl
  | cons item items ih => rw [matchesAnyOf, ih, List.any_cons]

theorem matchesOperand_list (items : List Operand) :
    matchesOperand expected (.list items) = items.any (matchesOperand expected) := by
  rw [matchesOperand, matchesAnyOf_eq_any]

theorem matchesOperand_of_isLeaf (h : actual.IsLeaf) :
    matchesOperand expected actual = expected.any actual.looselyEquals := by
  cases actual with
  | list items => exact absurd rfl (h items)
  | _ => simp only [matchesOperand]

/-- The descent into the attribute and the descent into the expected operands together compare every
leaf of the one with every leaf of the others. -/
theorem matchesOperand_iff :
    matchesOperand expected actual = true ↔ actual.SharesLeaf expected := by
  induction actual using Operand.induction_on_items with
  | leaf actual h => rw [matchesOperand_of_isLeaf h, h.sharesLeaf_iff, List.any_eq_true]
  | list items ih =>
      rw [matchesOperand_list, Operand.sharesLeaf_list_iff, List.any_eq_true]
      exact exists_congr fun item => and_congr_right (ih item)

theorem matchesAny_iff :
    matchesAny (some v) expected = true ↔ (Operand.ofJson v).SharesLeaf expected :=
  matchesOperand_iff

theorem holds_of_ne_nil (hexpected : expected ≠ []) (actual : Option Json) :
    (∀ operator ∈ [Operator.equals, .oneOf],
      holds operator actual expected = matchesAny actual expected) ∧
    ∀ operator ∈ [Operator.notEquals, .noneOf],
      holds operator actual expected = !matchesAny actual expected := by
  have hempty : expected.isEmpty = false := by simpa using hexpected
  simp [holds, hempty]

theorem evaluate_iff_of_equality (hvalue : Path.resolve? attributes test.key = some v)
    (hexpected : test.operands ≠ []) (hoperator : test.operator ∈ [Operator.equals, .oneOf]) :
    test.evaluate attributes = true ↔ (Operand.ofJson v).SharesLeaf test.operands := by
  rw [evaluate, hvalue, (holds_of_ne_nil hexpected _).1 _ hoperator, matchesAny_iff]

theorem evaluate_iff_of_difference (hvalue : Path.resolve? attributes test.key = some v)
    (hexpected : test.operands ≠ []) (hoperator : test.operator ∈ [Operator.notEquals, .noneOf]) :
    test.evaluate attributes = true ↔ ¬ (Operand.ofJson v).SharesLeaf test.operands := by
  rw [evaluate, hvalue, (holds_of_ne_nil hexpected _).2 _ hoperator, Bool.not_eq_true',
    ← Bool.not_eq_true, matchesAny_iff]

theorem evaluate_eq_of_sameLeaves {other : Comparison} {others : Object} {w : Json}
    (hvalue : Path.resolve? attributes test.key = some v) (hexpected : test.operands ≠ [])
    (hother : Path.resolve? others other.key = some w) (hothers : other.operands ≠ [])
    (hsame : other.operator = test.operator)
    (hoperator : test.operator ∈ [Operator.equals, .oneOf, .notEquals, .noneOf])
    (hleaves : SameLeaves [.ofJson v] [.ofJson w])
    (hoperands : SameLeaves test.operands other.operands) :
    test.evaluate attributes = other.evaluate others := by
  have hshares := Operand.sharesLeaf_iff_of_sameLeaves hleaves hoperands
  rw [Bool.eq_iff_iff]
  rcases List.mem_append.mp
    (show test.operator ∈ [Operator.equals, .oneOf] ++ [.notEquals, .noneOf] from hoperator)
    with hequality | hdifference
  · rw [evaluate_iff_of_equality hvalue hexpected hequality,
      evaluate_iff_of_equality hother hothers (hsame ▸ hequality), hshares]
  · rw [evaluate_iff_of_difference hvalue hexpected hdifference,
      evaluate_iff_of_difference hother hothers (hsame ▸ hdifference), hshares]

/-- An attribute equals something expected if they have a leaf in common. Nothing else about the
lists on either side matters, and a list without leaves equals nothing. -/
theorem evaluate_iff_sharesLeaf (hvalue : Path.resolve? attributes test.key = some v)
    (hexpected : test.operands ≠ []) :
    (test.operator ∈ [Operator.equals, .oneOf] →
      (test.evaluate attributes = true ↔ (Operand.ofJson v).SharesLeaf test.operands)) ∧
    (test.operator ∈ [Operator.notEquals, .noneOf] →
      (test.evaluate attributes = true ↔ ¬ (Operand.ofJson v).SharesLeaf test.operands)) ∧
    (test.operator ∈ [Operator.equals, .oneOf, .notEquals, .noneOf] →
      ∀ (other : Comparison) (others : Object) (w : Json), other.operator = test.operator →
        Path.resolve? others other.key = some w → other.operands ≠ [] →
        SameLeaves [.ofJson v] [.ofJson w] → SameLeaves test.operands other.operands →
        test.evaluate attributes = other.evaluate others) ∧
    ((Operand.ofJson v).leaves = [] →
      (test.operator ∈ [Operator.equals, .oneOf] → test.evaluate attributes = false) ∧
      (test.operator ∈ [Operator.notEquals, .noneOf] → test.evaluate attributes = true)) := by
  refine ⟨evaluate_iff_of_equality hvalue hexpected, evaluate_iff_of_difference hvalue hexpected,
    ?_, ?_⟩
  · intro hoperator other others w hsame hother hothers hleaves hoperands
    exact evaluate_eq_of_sameLeaves hvalue hexpected hother hothers hsame hoperator hleaves
      hoperands
  · intro hnil
    have hshares := Operand.not_sharesLeaf_of_leaves_eq_nil hnil test.operands
    constructor
    · intro hequality
      rw [← Bool.not_eq_true, evaluate_iff_of_equality hvalue hexpected hequality]
      exact hshares
    · intro hdifference
      exact (evaluate_iff_of_difference hvalue hexpected hdifference).mpr hshares

theorem evaluate_iff_sharesLeaf_nested :
    let nested : Object := [("scope", .array [.array [.string "TRUE ", .array []],
      .array [.array [.string "deck"]]])]
    let flat : Object := [("scope", .array [.string "deck", .bool true, .string "deck"])]
    let empty : Object := [("scope", .array [.array []])]
    let test : Comparison := ⟨"scope", .oneOf, [.list [.list [], .list [.bool true]]]⟩
    let other : Comparison := ⟨"scope", .oneOf, [.bool true, .bool true]⟩
    test.evaluate nested = true ∧ test.evaluate nested = other.evaluate flat ∧
      other.evaluate empty = false := by
  intro nested flat empty test other
  have hscope {v : Json} : Path.resolve? [("scope", v)] "scope" = some v :=
    Path.resolve?_of_get? (by decide) (by decide) rfl
  obtain ⟨hequality, -, hrearranged, -⟩ :=
    @evaluate_iff_sharesLeaf test nested _ hscope (List.cons_ne_nil _ _)
  have hempty : (Operand.ofJson (.array [.array []])).leaves = [] := rfl
  refine ⟨(hequality (by decide)).mpr ?_, ?_, ?_⟩
  · exact ⟨.bool true, .head _, _, .head _, .bool true, .head _, rfl⟩
  · refine hrearranged (by decide) other flat _ rfl hscope
      (List.cons_ne_nil _ _) ?_ ?_
    · intro leaf
      change leaf ∈ [Operand.bool true, .text "deck"] ↔
        leaf ∈ [Operand.text "deck", .bool true, .text "deck"]
      simp only [List.mem_cons, List.not_mem_nil]
      grind
    · intro leaf
      change leaf ∈ [Operand.bool true] ↔ leaf ∈ [Operand.bool true, .bool true]
      simp
  · exact ((@evaluate_iff_sharesLeaf other empty _ hscope
      (List.cons_ne_nil _ _)).2.2.2 hempty).1 (by decide)

end Comparison

end FilingChecklist
