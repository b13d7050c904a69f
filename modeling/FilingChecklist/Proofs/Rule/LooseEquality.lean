import FilingChecklist.Proofs.Rule.Reflexivity

namespace FilingChecklist

theorem Binary64.sameValue_comm (x y : Binary64) : x.sameValue y = y.sameValue x :=
  Bool.beq_comm

namespace Json

theorem Number.sameValue_comm (n m : Number) : n.sameValue m = m.sameValue n := by
  cases n with
  | integer i _ =>
      cases m with
      | integer j _ => exact Bool.beq_comm
      | binary y => rfl
  | binary x =>
      cases m with
      | integer j _ => rfl
      | binary y => exact x.sameValue_comm y

mutual

theorem sameValue_comm : (v w : Json) → sameValue v w = sameValue w v
  | .null, w => by cases w <;> simp only [sameValue]
  | .bool b, w => by cases w <;> simp only [sameValue, Bool.beq_comm]
  | .number n, w => by cases w <;> simp only [sameValue, n.sameValue_comm]
  | .string s, w => by
      cases w with
      | string t => simpa only [sameValue] using Bool.beq_comm
      | _ => simp only [sameValue]
  | .array items, w => by
      cases w with
      | array others => simpa only [sameValue] using sameItems_comm items others
      | _ => simp only [sameValue]
  | .object fields, w => by
      cases w with
      | object others => simpa only [sameValue] using sameFields_comm fields others
      | _ => simp only [sameValue]

theorem sameItems_comm :
    (items others : List Json) → sameItems items others = sameItems others items
  | [], [] => rfl
  | [], _ :: _ => by simp only [sameItems]
  | _ :: _, [] => by simp only [sameItems]
  | v :: items, w :: others => by
      rw [sameItems, sameItems, sameValue_comm v w, sameItems_comm items others]

theorem sameFields_comm :
    (fields others : List (String × Json)) → sameFields fields others = sameFields others fields
  | [], [] => rfl
  | [], _ :: _ => by simp only [sameFields]
  | _ :: _, [] => by simp only [sameFields]
  | (name, v) :: fields, (other, w) :: others => by
      rw [sameFields, sameFields, sameValue_comm v w, sameFields_comm fields others,
        Bool.beq_comm (a := name)]

end

end Json

namespace Operand

theorem sameLeaf_comm (leaf other : Operand) : leaf.sameLeaf other = other.sameLeaf leaf := by
  cases leaf <;> cases other
  case bool.bool a b => exact Bool.beq_comm
  case number.number x y => exact x.sameValue_comm y
  case text.text s t => exact Bool.beq_comm
  case map.map fields others => exact Json.sameFields_comm fields others
  all_goals rfl

theorem isLeaf_or_list (operand : Operand) : operand.IsLeaf ∨ ∃ items, operand = .list items := by
  cases operand with
  | list items => exact .inr ⟨items, rfl⟩
  | _ =>
      refine .inl ?_
      rintro items ⟨⟩

theorem looselyEquals_list_list (items others : List Operand) :
    (list items).looselyEquals (list others) = pairwiseEquals items others := by
  rw [looselyEquals]

theorem IsLeaf.list_looselyEquals {leaf : Operand} (h : leaf.IsLeaf) (items : List Operand) :
    (list items).looselyEquals leaf = items.any (looselyEquals · leaf) := by
  cases leaf with
  | list others => exact absurd rfl (h others)
  | _ => simp only [looselyEquals, anyEquals_eq_any]

theorem IsLeaf.looselyEquals_list {leaf : Operand} (h : leaf.IsLeaf) (items : List Operand) :
    leaf.looselyEquals (list items) = items.any leaf.looselyEquals := by
  have hmeets : leaf.looselyEquals = leaf.meets := funext h.looselyEquals_eq
  rw [hmeets, meets, meetsAny_eq_any]

/-- On either side of a leaf a list is searched for an item that equals it. -/
theorem IsLeaf.looselyEquals_comm {leaf : Operand} (h : leaf.IsLeaf) (operand : Operand) :
    leaf.looselyEquals operand = operand.looselyEquals leaf := by
  induction operand using induction_on_items with
  | leaf operand hleaf =>
      rw [h.looselyEquals_eq, hleaf.meets_eq, hleaf.looselyEquals_eq, h.meets_eq, sameLeaf_comm]
  | list items ih =>
      rw [h.looselyEquals_list, h.list_looselyEquals, Bool.eq_iff_iff, List.any_eq_true,
        List.any_eq_true]
      exact exists_congr fun item => and_congr_right fun hitem => by rw [ih item hitem]

theorem pairwiseEquals_comm {items : List Operand}
    (h : ∀ item ∈ items, ∀ other, item.looselyEquals other = other.looselyEquals item)
    (others : List Operand) : pairwiseEquals items others = pairwiseEquals others items := by
  induction items generalizing others with
  | nil => cases others <;> simp only [pairwiseEquals]
  | cons item items ih =>
      obtain ⟨hitem, hitems⟩ := List.forall_mem_cons.mp h
      cases others with
      | nil => simp only [pairwiseEquals]
      | cons other others => rw [pairwiseEquals, pairwiseEquals, hitem other, ih hitems others]

theorem pairwiseEquals_self {items : List Operand}
    (h : ∀ item ∈ items, item.looselyEquals item = true) : pairwiseEquals items items = true := by
  induction items with
  | nil => rfl
  | cons item items ih =>
      obtain ⟨hitem, hitems⟩ := List.forall_mem_cons.mp h
      rw [pairwiseEquals, hitem, ih hitems, Bool.true_and]

theorem looselyEquals_comm (operand other : Operand) :
    operand.looselyEquals other = other.looselyEquals operand := by
  induction operand using induction_on_items generalizing other with
  | leaf operand h => exact h.looselyEquals_comm other
  | list items ih =>
      rcases isLeaf_or_list other with h | ⟨others, rfl⟩
      · exact (h.looselyEquals_comm (list items)).symm
      · rw [looselyEquals_list_list, looselyEquals_list_list, pairwiseEquals_comm ih]

theorem looselyEquals_self (operand : Operand) : operand.looselyEquals operand = true := by
  induction operand using induction_on_items with
  | leaf operand h => rw [h.looselyEquals_eq, h.meets_eq, h.sameLeaf_self]
  | list items ih => rw [looselyEquals_list_list, pairwiseEquals_self ih]

/-- Loose equality is symmetric and reflexive, and a leaf equals an operand exactly if it equals one
of the leaves of the operand. -/
theorem looselyEquals_laws :
    (∀ operand other : Operand, operand.looselyEquals other = other.looselyEquals operand) ∧
      (∀ operand : Operand, operand.looselyEquals operand = true) ∧
      ∀ leaf operand : Operand, leaf.IsLeaf →
        (leaf.looselyEquals operand = true ↔
          ∃ other ∈ operand.leaves, other.IsLeaf ∧ leaf.sameLeaf other = true) := by
  refine ⟨looselyEquals_comm, looselyEquals_self, ?_⟩
  intro leaf operand h
  rw [h.looselyEquals_eq, meets_iff]
  refine exists_congr fun other => and_congr_right fun hother => ?_
  exact (and_iff_right (isLeaf_of_mem_leaves hother)).symm

theorem looselyEquals_laws_nested :
    let zero : Operand := .number (.zero false)
    let nested : Operand := .list [.list [], .list [.text "ev", .list [.number (.zero true)]]]
    zero.IsLeaf ∧ zero.looselyEquals nested = true ∧ nested.looselyEquals zero = true := by
  intro zero nested
  have hnumber (x : Binary64) : (number x).IsLeaf := by rintro items ⟨⟩
  have hleaf : zero.IsLeaf := hnumber _
  obtain ⟨hcomm, -, hequals⟩ := looselyEquals_laws
  have hmem : .number (.zero true) ∈ nested.leaves := .tail _ (.head _)
  have hzero := (hequals zero nested hleaf).mpr ⟨_, hmem, hnumber _, rfl⟩
  exact ⟨hleaf, hzero, (hcomm nested zero).trans hzero⟩

/-- Loose equality is not transitive: two lists may have an item in common with a third operand and
not with each other. -/
example :
    (list [.text "ev", .text "deck"]).looselyEquals (.text "deck") = true ∧
      (text "deck").looselyEquals (.list [.text "deck"]) = true ∧
      (list [.text "ev", .text "deck"]).looselyEquals (.list [.text "deck"]) = false := by
  decide +kernel

end Operand

end FilingChecklist
