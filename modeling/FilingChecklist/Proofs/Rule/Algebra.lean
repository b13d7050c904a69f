import Mathlib.Logic.Relation
import FilingChecklist.Proofs.Rule.Pruning

/-!
Laws of negations and combinations. Three of them need a list that is not empty, because `any` of no
children holds; if it did not, they would not need it.
-/

namespace FilingChecklist

namespace Combinator

/-- What a combination says if `any` of no children says `emptyAny`. -/
def holdsWith (emptyAny : Bool) (kind : Combinator) (children : List Bool) : Bool :=
  if kind = .any ∧ children = [] then emptyAny else kind.holds children

variable {emptyAny : Bool} {xs ys : List Bool}

theorem holdsWith_true (kind : Combinator) (children : List Bool) :
    kind.holdsWith true children = kind.holds children := by
  rw [holdsWith]
  split
  · next h =>
      obtain ⟨rfl, rfl⟩ := h
      rfl
  · rfl

theorem holdsWith_all : all.holdsWith emptyAny xs = xs.all id := by
  simp [holdsWith, holds]

theorem holdsWith_noneOf : noneOf.holdsWith emptyAny xs = !xs.any id := by
  simp [holdsWith, holds]

theorem holdsWith_any (h : emptyAny = true → xs ≠ []) :
    any.holdsWith emptyAny xs = xs.any id := by
  cases xs with
  | nil => cases emptyAny with
    | false => rfl
    | true => exact absurd rfl (h rfl)
  | cons x xs => simp [holdsWith, holds]

theorem holdsWith_all_map_not : all.holdsWith emptyAny (xs.map not) = !xs.any id := by
  rw [holdsWith_all, List.all_map, List.not_any_eq_all_not]
  rfl

theorem holdsWith_any_map_not (h : emptyAny = true → xs ≠ []) :
    any.holdsWith emptyAny (xs.map not) = !xs.all id := by
  rw [holdsWith_any (by simpa using h), List.any_map, List.not_all_eq_any_not]
  rfl

theorem holdsWith_congr (kind : Combinator) (h : ∀ x, x ∈ xs ↔ x ∈ ys) :
    kind.holdsWith emptyAny xs = kind.holdsWith emptyAny ys := by
  have hall : xs.all id = ys.all id := by
    rw [Bool.eq_iff_iff, List.all_eq_true, List.all_eq_true]
    simp only [h]
  have hany : xs.any id = ys.any id := by
    rw [Bool.eq_iff_iff, List.any_eq_true, List.any_eq_true]
    simp only [h]
  have hempty : xs = [] ↔ ys = [] := by
    simp only [List.eq_nil_iff_forall_not_mem, h]
  have hisEmpty : xs.isEmpty = ys.isEmpty := by
    rw [Bool.eq_iff_iff, List.isEmpty_iff, List.isEmpty_iff, hempty]
  cases kind <;> simp only [holdsWith, holds, hempty, hisEmpty, hall, hany]

end Combinator

namespace Rule

mutual

def evaluateWith (emptyAny : Bool) (attributes : Object) : Rule → Bool
  | .combinator kind children =>
      kind.holdsWith emptyAny (evaluateEachWith emptyAny attributes children)
  | .negation child => !evaluateWith emptyAny attributes child
  | rule => rule.evaluate attributes

def evaluateEachWith (emptyAny : Bool) (attributes : Object) : List Rule → List Bool
  | [] => []
  | child :: children =>
      evaluateWith emptyAny attributes child :: evaluateEachWith emptyAny attributes children

end

section

variable (emptyAny : Bool) (attributes : Object)

theorem evaluateEachWith_eq_map (children : List Rule) :
    evaluateEachWith emptyAny attributes children =
      children.map (evaluateWith emptyAny attributes) := by
  induction children with
  | nil => rfl
  | cons child children ih => rw [evaluateEachWith, ih, List.map_cons]

@[simp] theorem evaluateWith_combinator (kind : Combinator) (children : List Rule) :
    (combinator kind children).evaluateWith emptyAny attributes =
      kind.holdsWith emptyAny (children.map (evaluateWith emptyAny attributes)) := by
  rw [evaluateWith, evaluateEachWith_eq_map]

@[simp] theorem evaluateWith_negation (child : Rule) :
    (negation child).evaluateWith emptyAny attributes =
      !child.evaluateWith emptyAny attributes := by
  rw [evaluateWith]

theorem map_evaluateWith_negation (children : List Rule) :
    (children.map negation).map (evaluateWith emptyAny attributes) =
      (children.map (evaluateWith emptyAny attributes)).map not := by
  simp [Function.comp_def]

end

theorem evaluateWith_true (attributes : Object) (rule : Rule) :
    rule.evaluateWith true attributes = rule.evaluate attributes := by
  induction rule using induction_on_children with
  | step rule ih =>
      cases rule with
      | combinator kind children =>
          rw [evaluateWith_combinator, Combinator.holdsWith_true, evaluate, evaluateEach_eq_map]
          exact congrArg kind.holds (List.map_congr_left ih)
      | negation child =>
          rw [evaluateWith_negation, evaluate, ih child (List.mem_singleton_self child)]
      | _ => rfl

/-- Two rules that say the same by one law. The laws about `any` are meant for `proper` lists. -/
inductive Law (proper : List Rule → Prop) : Rule → Rule → Prop
  | permuted (kind : Combinator) {children others : List Rule} (h : children.Perm others) :
      Law proper (.combinator kind children) (.combinator kind others)
  | repeated (kind : Combinator) {child : Rule} (before after : List Rule)
      (h : child ∈ before ++ after) :
      Law proper (.combinator kind (before ++ after)) (.combinator kind (before ++ child :: after))
  | noneOf (children : List Rule) :
      Law proper (.combinator .noneOf children) (.combinator .all (children.map .negation))
  | notAll {children : List Rule} (h : proper children) :
      Law proper (.negation (.combinator .all children))
        (.combinator .any (children.map .negation))
  | notAny {children : List Rule} (h : proper children) :
      Law proper (.negation (.combinator .any children))
        (.combinator .all (children.map .negation))
  | allInAll (before inner after : List Rule) :
      Law proper (.combinator .all (before ++ .combinator .all inner :: after))
        (.combinator .all (before ++ inner ++ after))
  | anyInAny (before : List Rule) {inner : List Rule} (after : List Rule) (h : proper inner) :
      Law proper (.combinator .any (before ++ .combinator .any inner :: after))
        (.combinator .any (before ++ inner ++ after))
  | notNot (child : Rule) : Law proper (.negation (.negation child)) child

/-- The second rule is the first, with a law applied in one place. -/
inductive Rewrites (proper : List Rule → Prop) : Rule → Rule → Prop
  | here {rule other : Rule} (h : Law proper rule other) : Rewrites proper rule other
  | child (kind : Combinator) {rule other : Rule} (before after : List Rule)
      (h : Rewrites proper rule other) :
      Rewrites proper (.combinator kind (before ++ rule :: after))
        (.combinator kind (before ++ other :: after))
  | denied {rule other : Rule} (h : Rewrites proper rule other) :
      Rewrites proper (.negation rule) (.negation other)

section

variable {emptyAny : Bool} {attributes : Object} {proper : List Rule → Prop} {rule other : Rule}

theorem evaluateWith_combinator_congr (kind : Combinator) {children others : List Rule}
    (h : ∀ child, child ∈ children ↔ child ∈ others) :
    (combinator kind children).evaluateWith emptyAny attributes =
      (combinator kind others).evaluateWith emptyAny attributes := by
  rw [evaluateWith_combinator, evaluateWith_combinator]
  apply Combinator.holdsWith_congr
  simp only [List.mem_map, h, implies_true]

theorem Law.evaluateWith_eq (h : Law proper rule other)
    (hproper : ∀ children, proper children → emptyAny = true → children ≠ []) :
    rule.evaluateWith emptyAny attributes = other.evaluateWith emptyAny attributes := by
  have hvalues {children : List Rule} (h : proper children) :
      emptyAny = true → children.map (evaluateWith emptyAny attributes) ≠ [] := by
    simpa using hproper children h
  cases h with
  | permuted kind h => exact evaluateWith_combinator_congr kind fun child => h.mem_iff
  | @repeated kind child before after h =>
      apply evaluateWith_combinator_congr
      intro other
      rw [List.mem_append] at h
      simp only [List.mem_append, List.mem_cons]
      grind
  | noneOf children =>
      rw [evaluateWith_combinator, evaluateWith_combinator, map_evaluateWith_negation,
        Combinator.holdsWith_noneOf, Combinator.holdsWith_all_map_not]
  | notAll h =>
      rw [evaluateWith_negation, evaluateWith_combinator, evaluateWith_combinator,
        map_evaluateWith_negation, Combinator.holdsWith_all,
        Combinator.holdsWith_any_map_not (hvalues h)]
  | notAny h =>
      rw [evaluateWith_negation, evaluateWith_combinator, evaluateWith_combinator,
        map_evaluateWith_negation, Combinator.holdsWith_any (hvalues h),
        Combinator.holdsWith_all_map_not]
  | allInAll before inner after => simp [Combinator.holdsWith_all]
  | anyInAny before after h =>
      have hspliced := hvalues h
      rw [evaluateWith_combinator, evaluateWith_combinator, Combinator.holdsWith_any (by simp),
        Combinator.holdsWith_any (by simp_all)]
      simp [Combinator.holdsWith_any hspliced]
  | notNot child => simp

theorem Rewrites.evaluateWith_eq (h : Rewrites proper rule other)
    (hproper : ∀ children, proper children → emptyAny = true → children ≠ []) :
    rule.evaluateWith emptyAny attributes = other.evaluateWith emptyAny attributes := by
  induction h with
  | here h => exact h.evaluateWith_eq hproper
  | child kind before after _ ih => simp [ih]
  | denied _ ih => simp [ih]

/-- Any number of laws, each applied somewhere in the rule and in either direction. -/
theorem evaluateWith_eq_of_eqvGen (h : Relation.EqvGen (Rewrites proper) rule other)
    (hproper : ∀ children, proper children → emptyAny = true → children ≠ []) :
    rule.evaluateWith emptyAny attributes = other.evaluateWith emptyAny attributes := by
  induction h with
  | rel _ _ h => exact h.evaluateWith_eq hproper
  | refl _ => rfl
  | symm _ _ _ ih => exact ih.symm
  | trans _ _ _ _ _ first second => exact first.trans second

end

theorem evaluate_any_eq_false_iff {attributes : Object} {children : List Rule} :
    (combinator .any children).evaluate attributes = false ↔
      children ≠ [] ∧ ∀ child ∈ children, child.evaluate attributes = false := by
  simp [evaluate, Combinator.holds]

theorem evaluate_any_with_empty (attributes : Object) (before after : List Rule) :
    (combinator .any (before ++ .combinator .any [] :: after)).evaluate attributes = true := by
  simp [evaluate, Combinator.holds]

/-- A rule says the same before and after laws are applied inside it. The laws about `any` fail for
the empty list, but only because `any` of no children holds. -/
theorem evaluate_eq_of_laws (attributes : Object) :
    (∀ rule other, Relation.EqvGen (Rewrites (· ≠ [])) rule other →
      rule.evaluate attributes = other.evaluate attributes) ∧
    ((negation (.combinator .all [])).evaluate attributes ≠
        (combinator .any []).evaluate attributes ∧
      (negation (.combinator .any [])).evaluate attributes ≠
        (combinator .all []).evaluate attributes ∧
      ∀ before after : List Rule,
        (combinator .any (before ++ .combinator .any [] :: after)).evaluate attributes ≠
            (combinator .any (before ++ after)).evaluate attributes ↔
          before ++ after ≠ [] ∧
            ∀ child ∈ before ++ after, child.evaluate attributes = false) ∧
    (∀ rule : Rule, rule.evaluateWith true attributes = rule.evaluate attributes) ∧
    ∀ rule other, Relation.EqvGen (Rewrites fun _ => True) rule other →
      rule.evaluateWith false attributes = other.evaluateWith false attributes := by
  have hempty (kind : Combinator) : (combinator kind []).evaluate attributes = true := by
    cases kind <;> rfl
  have hdenied (kind : Combinator) :
      (negation (.combinator kind [])).evaluate attributes = false := by
    rw [evaluate, hempty, Bool.not_true]
  refine ⟨?_, ⟨?_, ?_, ?_⟩, evaluateWith_true attributes, ?_⟩
  · intro rule other h
    rw [← evaluateWith_true, ← evaluateWith_true]
    exact evaluateWith_eq_of_eqvGen h fun _ hne _ => hne
  · rw [hdenied, hempty]
    exact Bool.false_ne_true
  · rw [hdenied, hempty]
    exact Bool.false_ne_true
  · intro before after
    rw [evaluate_any_with_empty, ne_comm, ne_eq, Bool.not_eq_true, evaluate_any_eq_false_iff]
  · intro rule other h
    exact evaluateWith_eq_of_eqvGen h fun _ _ hfalse => absurd hfalse Bool.false_ne_true

theorem evaluate_eq_of_laws_nested :
    let solar : Rule := .compare "solar" .truthy []
    let deck : Rule := .compare "deck" .truthy []
    let around (children : List Rule) : Rule :=
      .combinator .noneOf [.never, .combinator .any children]
    let rule : Rule := around [deck, .negation (.combinator .all [.negation solar, deck])]
    let other : Rule := around [deck, solar, .negation deck]
    let attributes : Object := [("deck", .bool false), ("solar", .bool true)]
    Relation.EqvGen (Rewrites (· ≠ [])) rule other ∧
      rule.evaluate attributes = other.evaluate attributes ∧
      other.evaluate attributes = false := by
  intro solar deck around rule other attributes
  have hnotAll : Rewrites (· ≠ []) rule
      (around [deck, .combinator .any [.negation (.negation solar), .negation deck]]) :=
    .child .noneOf [.never] [] (.child .any [deck] [] (.here (.notAll (List.cons_ne_nil _ _))))
  have hnotNot : Rewrites (· ≠ [])
      (around [deck, .combinator .any [.negation (.negation solar), .negation deck]])
      (around [deck, .combinator .any [solar, .negation deck]]) :=
    .child .noneOf [.never] [] (.child .any [deck] [] (.child .any [] [_] (.here (.notNot solar))))
  have hspliced : Rewrites (· ≠ [])
      (around [deck, .combinator .any [solar, .negation deck]]) other :=
    .child .noneOf [.never] [] (.here (.anyInAny [deck] [] (List.cons_ne_nil _ _)))
  have hlaws : Relation.EqvGen (Rewrites (· ≠ [])) rule other :=
    .trans _ _ _ (.rel _ _ hnotAll) (.trans _ _ _ (.rel _ _ hnotNot) (.rel _ _ hspliced))
  exact ⟨hlaws, (evaluate_eq_of_laws attributes).1 rule other hlaws, by decide +kernel⟩

end Rule

end FilingChecklist
