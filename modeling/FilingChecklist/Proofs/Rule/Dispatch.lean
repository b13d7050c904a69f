import FilingChecklist.Proofs.Fields
import FilingChecklist.Proofs.Rule.Nesting

namespace FilingChecklist.Source

open Text (asciiLower trimmed)

/-- A field holds a text that is this word, but for white space around it and the case of A to Z. -/
def Says (rule : Object) (field word : String) : Prop :=
  ∃ s, Fields.get? rule field = some (.string s) ∧ asciiLower (trimmed s) = word

/-- One way in which an object can say what it is. -/
abbrev Step := Object → Form → Prop

/-- `type` says that the rule is a constant. -/
inductive Constant : Step
  | always {rule : Object} (h : Says rule "type" "always" ∨ Says rule "type" "true") :
      Constant rule (.settled .always)
  | never {rule : Object} (h : Says rule "type" "never" ∨ Says rule "type" "false") :
      Constant rule (.settled .never)

def IsList (v : Json) : Prop :=
  ∃ items, v = .array items

/-- The first of `all`, `any` and `none` that holds a list. -/
inductive Keyed : Step
  | intro {rule : Object} {kind : Combinator} {before after : List Combinator} {items : List Json}
      (hkinds : [Combinator.all, .any, .noneOf] = before ++ kind :: after)
      (hitems : Fields.get? rule kind.name = some (.array items))
      (hearlier : ∀ other ∈ before, ∀ v, Fields.get? rule other.name = some v → ¬ IsList v) :
      Keyed rule (.group kind items)

/-- Anything under `not`. -/
inductive Denied : Step
  | intro {rule : Object} {child : Json} (h : Fields.get? rule "not" = some child) :
      Denied rule (.negated child)

/-- The words by which a field can name a combination. -/
abbrev Vocabulary := String → Combinator → List String

/-- The words that are documented, for each of the fields alike. -/
def documentedWords : Vocabulary
  | _, .all => ["and", "all"]
  | _, .any => ["or", "any"]
  | _, .noneOf => []

/-- The words that are understood: in `condition` a combination is not known by its own name. -/
def understoodWords : Vocabulary :=
  fun field kind =>
    if field = "condition" then (documentedWords field kind).erase kind.name
    else documentedWords field kind

def Names (words : Vocabulary) (rule : Object) (kind : Combinator) : Prop :=
  ∃ field ∈ ["type", "combinator", "condition"], ∃ word ∈ words field kind, Says rule field word

/-- One of three fields names the combination, where all comes before any. Its children are the
items of the first list among the fields for children, and none if there is no list. -/
inductive Named (words : Vocabulary) : Step
  | intro {rule : Object} {kind : Combinator} {items : List Json}
      (hkind : kind = .all ∧ Names words rule .all ∨
        kind = .any ∧ ¬ Names words rule .all ∧ Names words rule .any)
      (hitems : (∃ name, Fields.First rule childFields IsList name (.array items)) ∨
        items = [] ∧ ∀ name ∈ childFields, ∀ v, Fields.get? rule name = some v → ¬ IsList v) :
      Named words rule (.group kind items)

/-- `type: not` and the first of the fields for its child. -/
inductive NamedDenied : Step
  | intro {rule : Object} {name : String} {child : Json} (htype : Says rule "type" "not")
      (hchild : Fields.First rule negatedFields (fun _ => True) name child) :
      NamedDenied rule (.negated child)

/-- The object is a condition. -/
inductive IsCondition (decode : String → Option Json) : Step
  | intro {rule : Object} : IsCondition decode rule (.settled (condition decode rule))

/-- The steps in the order in which they are tried. -/
def steps (decode : String → Option Json) (words : Vocabulary) : List Step :=
  [Constant, Keyed, Denied, Named words, NamedDenied, IsCondition decode]

/-- The first step that applies gives this form. -/
inductive FirstOf : List Step → Step
  | here {step : Step} {later : List Step} {rule : Object} {outer : Form} (h : step rule outer) :
      FirstOf (step :: later) rule outer
  | later {step : Step} {later : List Step} {rule : Object} {outer : Form}
      (hskip : ∀ other, ¬ step rule other) (h : FirstOf later rule outer) :
      FirstOf (step :: later) rule outer

variable {rule : Object} {outer : Form}

theorem loweredField_eq_some_iff {field word : String} :
    loweredField rule field = some word ↔ Says rule field word := by
  simp only [loweredField, Option.map_eq_some_iff, Option.bind_eq_some_iff,
    Json.string?_eq_some_iff, Says]
  constructor
  · rintro ⟨s, ⟨_, hs, rfl⟩, hword⟩
    exact ⟨s, hs, hword⟩
  · rintro ⟨s, hs, hword⟩
    exact ⟨s, ⟨_, hs, rfl⟩, hword⟩

theorem array?_eq_none_iff {v : Json} : v.array? = none ↔ ¬ IsList v := by
  cases v <;> simp [Json.array?, IsList]

theorem constantForm?_eq_some_iff : constantForm? rule = some outer ↔ Constant rule outer := by
  simp only [constantForm?]
  constructor
  · intro h
    split at h
    · next kind hkind =>
        split at h
        · next halways =>
            cases h
            rcases halways with rfl | rfl
            · exact .always (.inl (loweredField_eq_some_iff.mp hkind))
            · exact .always (.inr (loweredField_eq_some_iff.mp hkind))
        · split at h
          · next hnever =>
              cases h
              rcases hnever with rfl | rfl
              · exact .never (.inl (loweredField_eq_some_iff.mp hkind))
              · exact .never (.inr (loweredField_eq_some_iff.mp hkind))
          · cases h
    · cases h
  · rintro (h | h)
    · rcases h with h | h <;> rw [loweredField_eq_some_iff.mpr h] <;> rfl
    · rcases h with h | h <;> rw [loweredField_eq_some_iff.mpr h] <;> rfl

theorem keyedForm?_eq_some_iff : keyedForm? rule = some outer ↔ Keyed rule outer := by
  simp only [keyedForm?, List.findSome?_eq_some_iff, Option.map_eq_some_iff, Option.map_eq_none_iff,
    Option.bind_eq_some_iff, Option.bind_eq_none_iff, Json.array?_eq_some_iff, array?_eq_none_iff]
  constructor
  · rintro ⟨before, kind, after, hkinds, ⟨items, ⟨_, hitems, rfl⟩, rfl⟩, hearlier⟩
    exact .intro hkinds hitems hearlier
  · rintro ⟨hkinds, hitems, hearlier⟩
    exact ⟨_, _, _, hkinds, ⟨_, ⟨_, hitems, rfl⟩, rfl⟩, hearlier⟩

theorem notForm?_eq_some_iff : notForm? rule = some outer ↔ Denied rule outer := by
  rw [notForm?, Option.map_eq_some_iff]
  constructor
  · rintro ⟨child, hchild, rfl⟩
    exact .intro hchild
  · rintro ⟨hchild⟩
    exact ⟨_, hchild, rfl⟩

theorem names_iff {words : Vocabulary} {kind : Combinator} :
    Names words rule kind ↔
      (∃ word ∈ words "type" kind, loweredField rule "type" = some word) ∨
        (∃ word ∈ words "combinator" kind, loweredField rule "combinator" = some word) ∨
        ∃ word ∈ words "condition" kind, loweredField rule "condition" = some word := by
  simp [Names, loweredField_eq_some_iff]

/-- `type` and `combinator` name a combination by two words, and `condition` by only one of these.
-/
theorem names_understoodWords_iff {kind : Combinator} {word : String}
    (hwords : ∀ field, documentedWords field kind = [word, kind.name]) (hne : word ≠ kind.name) :
    Names understoodWords rule kind ↔
      ((loweredField rule "type" = some kind.name ∨
          loweredField rule "combinator" = some kind.name) ∨
        loweredField rule "type" = some word ∨ loweredField rule "combinator" = some word) ∨
      loweredField rule "condition" = some word := by
  have htype : understoodWords "type" kind = [word, kind.name] := hwords "type"
  have hcombinator : understoodWords "combinator" kind = [word, kind.name] := hwords "combinator"
  have hcondition : understoodWords "condition" kind = [word] := by
    rw [understoodWords, if_pos rfl, hwords]
    simp [hne]
  rw [names_iff, htype, hcombinator, hcondition]
  grind

theorem namedKind?_eq_some_iff {kind : Combinator} :
    namedKind? rule = some kind ↔
      kind = .all ∧ Names understoodWords rule .all ∨
        kind = .any ∧ ¬ Names understoodWords rule .all ∧ Names understoodWords rule .any := by
  rw [@names_understoodWords_iff rule .all "and" (fun _ => rfl) (by decide),
    @names_understoodWords_iff rule .any "or" (fun _ => rfl) (by decide)]
  simp only [namedKind?, Bool.or_eq_true, beq_iff_eq, Combinator.name]
  split
  · next hall =>
      constructor
      · rintro ⟨⟩
        exact .inl ⟨rfl, hall⟩
      · rintro (⟨rfl, -⟩ | ⟨rfl, hnot, -⟩)
        · rfl
        · exact absurd hall hnot
  · next hnot =>
      split
      · next hany =>
          constructor
          · rintro ⟨⟩
            exact .inr ⟨rfl, hnot, hany⟩
          · rintro (⟨rfl, hall⟩ | ⟨rfl, -, -⟩)
            · exact absurd hall hnot
            · rfl
      · next hany => simp [hnot, hany]

theorem namedForm?_eq_some_iff :
    namedForm? rule = some outer ↔ Named understoodWords rule outer := by
  have hnone : Fields.first? rule childFields Json.array? = none ↔
      ∀ name ∈ childFields, ∀ v, Fields.get? rule name = some v → ¬ IsList v := by
    simp only [Fields.first?_eq_none_iff, array?_eq_none_iff]
  rw [namedForm?, Option.map_eq_some_iff]
  constructor
  · rintro ⟨kind, hkind, rfl⟩
    refine .intro (namedKind?_eq_some_iff.mp hkind) ?_
    cases hitems : Fields.first? rule childFields Json.array? with
    | none => exact .inr ⟨rfl, hnone.mp hitems⟩
    | some items => exact .inl (Fields.first?_array?_eq_some_iff.mp hitems)
  · rintro ⟨hkind, hitems⟩
    refine ⟨_, namedKind?_eq_some_iff.mpr hkind, ?_⟩
    rcases hitems with hitems | ⟨rfl, hitems⟩
    · rw [Fields.first?_array?_eq_some_iff.mpr hitems]
      rfl
    · rw [hnone.mpr hitems]
      rfl

theorem namedNegation?_eq_some_iff :
    namedNegation? rule = some outer ↔ NamedDenied rule outer := by
  rw [namedNegation?, Option.ite_none_right_eq_some, loweredField_eq_some_iff,
    Option.map_eq_some_iff]
  constructor
  · rintro ⟨htype, child, hchild, rfl⟩
    obtain ⟨name, hfirst⟩ := Fields.first?_some_eq_some_iff.mp hchild
    exact .intro htype hfirst
  · rintro ⟨htype, hchild⟩
    exact ⟨htype, _, Fields.first?_some_eq_some_iff.mpr ⟨_, hchild⟩, rfl⟩

variable {decode : String → Option Json}

theorem firstOf_cons_iff {step : Step} {later : List Step} :
    FirstOf (step :: later) rule outer ↔
      step rule outer ∨ (∀ other, ¬ step rule other) ∧ FirstOf later rule outer := by
  constructor
  · rintro (h | ⟨hskip, h⟩)
    · exact .inl h
    · exact .inr ⟨hskip, h⟩
  · rintro (h | ⟨hskip, h⟩)
    · exact .here h
    · exact .later hskip h

theorem firstOf_of_orElse {first? last? : Option Form} {last : Form} {step : Step}
    {later : List Step} (hfirst : ∀ outer, first? = some outer ↔ step rule outer)
    (hlast : ∀ outer, last?.getD last = outer ↔ FirstOf later rule outer) :
    ∀ outer, (first? <|> last?).getD last = outer ↔ FirstOf (step :: later) rule outer := by
  intro outer
  rw [firstOf_cons_iff]
  simp only [← hfirst, ← hlast]
  cases first? with
  | none => simp
  | some found => simp

theorem objectForm_eq_iff :
    ∀ outer, objectForm decode rule = outer ↔
      FirstOf (steps decode understoodWords) rule outer := by
  have hcondition : ∀ outer, (none : Option Form).getD (.settled (condition decode rule)) = outer ↔
      FirstOf [IsCondition decode] rule outer := by
    intro outer
    constructor
    · rintro rfl
      exact .here .intro
    · rintro (⟨⟨⟩⟩ | ⟨-, ⟨⟩⟩)
      rfl
  -- from the last step to the first, each put before those that are done
  have hdenied : ∀ outer, (namedNegation? rule).getD (.settled (condition decode rule)) = outer ↔
      FirstOf [NamedDenied, IsCondition decode] rule outer := by
    simpa using firstOf_of_orElse (fun _ => namedNegation?_eq_some_iff) hcondition
  have hnamed := firstOf_of_orElse (fun _ => namedForm?_eq_some_iff) hdenied
  have hnot := firstOf_of_orElse (fun _ => notForm?_eq_some_iff) hnamed
  have hkeyed := firstOf_of_orElse (fun _ => keyedForm?_eq_some_iff) hnot
  exact firstOf_of_orElse (fun _ => constantForm?_eq_some_iff) hkeyed

theorem names_documentedWords_iff (hall : ¬ Says rule "condition" "all")
    (hany : ¬ Says rule "condition" "any") {kind : Combinator} :
    Names documentedWords rule kind ↔ Names understoodWords rule kind := by
  cases kind <;> simp [Names, documentedWords, understoodWords, Combinator.name, hall, hany]

theorem named_documentedWords_iff (hall : ¬ Says rule "condition" "all")
    (hany : ¬ Says rule "condition" "any") :
    Named documentedWords rule outer ↔ Named understoodWords rule outer := by
  constructor
  · rintro ⟨hkind, hitems⟩
    simp only [names_documentedWords_iff hall hany] at hkind
    exact .intro hkind hitems
  · rintro ⟨hkind, hitems⟩
    simp only [← names_documentedWords_iff hall hany] at hkind
    exact .intro hkind hitems

theorem firstOf_documentedWords_iff (hall : ¬ Says rule "condition" "all")
    (hany : ¬ Says rule "condition" "any") :
    FirstOf (steps decode documentedWords) rule outer ↔
      FirstOf (steps decode understoodWords) rule outer := by
  simp only [steps, firstOf_cons_iff, named_documentedWords_iff hall hany]

/-- A rule object within the limit is what the first step that applies says, with the sources inside
it read one level deeper. The steps are as documented, except that the words all and any name
nothing in `condition`. -/
theorem readAt_object {depth : Nat} (hdepth : depth ≤ maxDepth) (rule : Object) :
    ∃ outer, readAt decode depth (.object rule) = outer.build (readAt decode (depth + 1)) ∧
      (∀ other, FirstOf (steps decode understoodWords) rule other ↔ other = outer) ∧
      (¬ Says rule "condition" "all" → ¬ Says rule "condition" "any" →
        ∀ other, FirstOf (steps decode documentedWords) rule other ↔ other = outer) := by
  have hunderstood (other : Form) : FirstOf (steps decode understoodWords) rule other ↔
      other = objectForm decode rule := by
    rw [← objectForm_eq_iff, eq_comm]
  refine ⟨objectForm decode rule, readAt_eq_build decode hdepth (.object rule), hunderstood, ?_⟩
  intro hall hany other
  rw [firstOf_documentedWords_iff hall hany, hunderstood]

theorem readAt_object_named :
    let rule : Object := [("any", .string "x"), ("children", .array [.bool false]),
      ("combinator", .string " Or "), ("rules", .null), ("type", .string "not"),
      ("value", .bool true)]
    ∃ outer, readAt Json.ofText? maxDepth (.object rule) =
        outer.build (readAt Json.ofText? (maxDepth + 1)) ∧
      FirstOf (steps Json.ofText? documentedWords) rule outer ∧
      outer = .group .any [.bool false] := by
  intro rule
  obtain ⟨outer, hread, hunderstood, hdocumented⟩ :=
    @readAt_object Json.ofText? maxDepth (Nat.le_refl _) rule
  have hword (word : String) : ¬ Says rule "condition" word := by
    rintro ⟨_, h, -⟩
    cases h
  refine ⟨outer, hread, (hdocumented (hword _) (hword _) outer).mpr rfl, ?_⟩
  exact ((hunderstood _).mp (objectForm_eq_iff _ |>.mp rfl)).symm

/-- As documented, this object would be all of its children, but `condition: all` is not
understood. -/
theorem readAt_object_condition_all :
    let rule : Object := [("condition", .string "all"), ("rules", .array [.bool true])]
    FirstOf (steps Json.ofText? documentedWords) rule (.group .all [.bool true]) ∧
      readAt Json.ofText? 0 (.object rule) = .never ∧
      readAt Json.ofText? 0 (.object rule) ≠
        (Form.group .all [.bool true]).build (readAt Json.ofText? 1) := by
  intro rule
  have hall : Names documentedWords rule .all :=
    ⟨"condition", by decide, "all", by decide, "all", rfl, by decide⟩
  have hrules : Fields.First rule childFields IsList "rules" (.array [.bool true]) :=
    ⟨[], ["conditions", "children", "expressions", "operands"], rfl, rfl, ⟨_, rfl⟩,
      fun _ h => absurd h List.not_mem_nil⟩
  have hnamed : Named documentedWords rule (.group .all [.bool true]) :=
    .intro (.inl ⟨rfl, hall⟩) (.inl ⟨"rules", hrules⟩)
  have hform : objectForm Json.ofText?
      [("condition", .string "all"), ("rules", .array [.bool true])] = .settled .never := rfl
  have hread : readAt Json.ofText? 0 (.object rule) = .never := by
    rw [readAt_eq_build Json.ofText? (Nat.zero_le maxDepth), form, hform]
    rfl
  -- no constant, no list under a keyword and no `not` comes before the name
  refine ⟨.later ?_ (.later ?_ (.later ?_ (.here hnamed))), hread, ?_⟩
  · rintro _ (h | h)
    · rcases h with ⟨_, h, -⟩ | ⟨_, h, -⟩ <;> cases h
    · rcases h with ⟨_, h, -⟩ | ⟨_, h, -⟩ <;> cases h
  · rintro _ @⟨_, kind, _, _, _, -, hitems, -⟩
    cases kind <;> cases hitems
  · rintro _ ⟨h⟩
    cases h
  · rw [hread]
    intro h
    cases h

end FilingChecklist.Source
