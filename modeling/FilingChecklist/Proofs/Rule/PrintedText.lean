import FilingChecklist.Proofs.Json.Written
import FilingChecklist.Rule.Explanation

namespace FilingChecklist

theorem Operand.toJson_injective : Function.Injective Operand.toJson := by
  intro a b h
  rw [← ofExact_toJson a, h, ofExact_toJson]

theorem Rule.toJson_injective : Function.Injective Rule.toJson := by
  intro t u h
  have hread := ofPrinted?_toJson t
  rw [h, ofPrinted?_toJson] at hread
  exact (Option.some.inj hread).symm

theorem Explanation.rule_eq_of_toJson_eq {e f : Explanation} (h : e.toJson = f.toJson) :
    e.rule = f.rule := by
  have hrule : e.rule.toJson = f.rule.toJson := by
    injection h with hfields
    injection hfields with _ hfields
    injection hfields with hnormalized _
    exact congrArg Prod.snd hnormalized
  exact Rule.toJson_injective hrule

/-- Rule trees that are shown alike, on one line or indented and at any place of a text, are one
tree. So are the trees of explanations that are shown alike. -/
theorem Rule.printed_determines (layout : Json.Layout) (depth : Nat) :
    (∀ t u : Rule, t.toJson.write layout depth = u.toJson.write layout depth →
      t = u ∧ ∀ attributes, t.evaluate attributes = u.evaluate attributes) ∧
    (∀ e f : Explanation, e.toJson.write layout depth = f.toJson.write layout depth →
      e.rule = f.rule) ∧
    (∀ a b : Operand, a.toJson.write layout depth = b.toJson.write layout depth → a = b) ∧
    (∀ o p : Operator, o.name = p.name → o = p) ∧
    ∀ kind other : Combinator, kind.name = other.name → kind = other := by
  have hwrite := Json.write_injective layout depth
  refine ⟨?_, ?_, ?_, ?_, ?_⟩
  · intro t u h
    obtain rfl := toJson_injective (hwrite h)
    exact ⟨rfl, fun _ => rfl⟩
  · exact fun e f h => Explanation.rule_eq_of_toJson_eq (hwrite h)
  · exact fun a b h => Operand.toJson_injective (hwrite h)
  · exact fun o p h => Operator.name_injective h
  · exact fun kind other h => Combinator.name_injective h

theorem Rule.printed_determines_spellings :
    let listed := ofSource (.array [.object [("fact", .string "amps"), ("value", .ofNat 50)]])
    let named := ofSource (.object [("rules", .array [.object [("key", .string " amps"),
      ("op", .string "EQ"), ("value", .ofBinary64 (.ofInt 50))]]), ("type", .string "and")])
    listed.toJson.indentedText = named.toJson.indentedText ∧ listed = named ∧
      ∀ attributes, listed.evaluate attributes = named.evaluate attributes := by
  intro listed named
  have hshown : listed.toJson.indentedText = named.toJson.indentedText := rfl
  exact ⟨hshown, (printed_determines .indented 0).1 listed named hshown⟩

end FilingChecklist
