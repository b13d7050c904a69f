import FilingChecklist.Proofs.Path.Addresses
import FilingChecklist.Proofs.Rule.Pruning

/-!
Which attributes a rule can depend on. A path reads at most two of them: the one with the path
itself as its name, and the one with which the path begins.
-/

namespace FilingChecklist

namespace Path

/-- The name of the attribute with which a path begins. -/
def root? (path : String) : Option String :=
  match segments? (Text.trimmed path) with
  | some (.key name :: _) => some name
  | _ => none

/-- The path is looked up under that name. -/
def Reads (path name : String) : Prop :=
  name = Text.trimmed path ∨ root? path = some name

instance (path name : String) : Decidable (Reads path name) :=
  inferInstanceAs (Decidable (name = Text.trimmed path ∨ root? path = some name))

theorem root?_eq_some_iff {path name : String} :
    root? path = some name ↔ ∃ rest, segments? (Text.trimmed path) = some (.key name :: rest) := by
  rw [root?]
  constructor
  · intro h
    split at h
    · next first rest hsegments =>
        cases h
        exact ⟨rest, hsegments⟩
    · cases h
  · rintro ⟨rest, hsegments⟩
    rw [hsegments]

theorem resolve?_congr {attributes others : Object} {path : String}
    (h : ∀ name, Reads path name → Fields.get? attributes name = Fields.get? others name) :
    resolve? attributes path = resolve? others path := by
  have hwhole := h (Text.trimmed path) (.inl rfl)
  simp only [resolve?, hwhole]
  split
  · rfl
  · split
    · rfl
    · split
      · next name rest hsegments => rw [h name (.inr (root?_eq_some_iff.mpr ⟨rest, hsegments⟩))]
      · rfl

section

variable {path name : String} (attributes : Object)

theorem resolve?_insert (h : ¬ Reads path name) (v : Json) :
    resolve? (Fields.insert attributes name v) path = resolve? attributes path := by
  apply resolve?_congr
  intro other hreads
  rw [Fields.get?_insert, if_neg]
  rintro rfl
  exact h hreads

theorem resolve?_erase (h : ¬ Reads path name) :
    resolve? (Fields.erase attributes [name]) path = resolve? attributes path := by
  apply resolve?_congr
  intro other hreads
  rw [Fields.get?_erase, if_neg]
  intro hmem
  cases List.mem_singleton.mp (List.contains_iff_mem.mp hmem)
  exact h hreads

end

theorem exists_leads (steps : List Segment) : ∃ v, Leads v steps .null := by
  induction steps with
  | nil => exact ⟨.null, .here .null⟩
  | cons step steps ih =>
      obtain ⟨v, hleads⟩ := ih
      cases step with
      | key name => exact ⟨.object [(name, v)], .key (by simp [Fields.get?_cons]) hleads⟩
      | index position =>
          exact ⟨.array (List.replicate position .null ++ [v]), .index (by simp) hleads⟩

/-- The names that a path reads are the ones that matter to it, unless the path is blank. -/
theorem reads_iff {path name : String} (hblank : Text.trimmed path ≠ "") :
    Reads path name ↔
      ∃ attributes v,
        resolve? (Fields.insert attributes name v) path ≠ resolve? attributes path := by
  constructor
  · intro hreads
    have hnone : resolve? [] path = none := by
      simp only [resolve?, Fields.get?_nil]
      split
      · rfl
      · split <;> rfl
    suffices h : ∃ v, (resolve? [(name, v)] path).isSome by
      obtain ⟨v, hsome⟩ := h
      refine ⟨[], v, fun heq => ?_⟩
      have heq : resolve? [(name, v)] path = resolve? [] path := heq
      rw [heq, hnone] at hsome
      cases hsome
    by_cases hwhole : name = Text.trimmed path
    · refine ⟨.null, ?_⟩
      simp [resolve?, hblank, hwhole, Fields.get?_cons]
    · obtain ⟨rest, hsegments⟩ := root?_eq_some_iff.mp (hreads.resolve_left hwhole)
      obtain ⟨v, hleads⟩ := exists_leads rest
      refine ⟨v, ?_⟩
      simp [resolve?, hblank, hsegments, Fields.get?_cons, hwhole, hleads.follow?_eq]
  · rintro ⟨attributes, v, hne⟩
    exact Decidable.byContradiction fun hreads => hne (resolve?_insert attributes hreads v)

end Path

namespace Rule

mutual

def comparisons : Rule → List Comparison
  | .comparison test => [test]
  | .combinator _ children => comparisonsOfEach children
  | .negation child => comparisons child
  | _ => []

def comparisonsOfEach : List Rule → List Comparison
  | [] => []
  | child :: children => comparisons child ++ comparisonsOfEach children

end

@[simp] theorem comparisonsOfEach_eq_flatMap (children : List Rule) :
    comparisonsOfEach children = children.flatMap comparisons := by
  induction children with
  | nil => rfl
  | cons child children ih => rw [comparisonsOfEach, ih, List.flatMap_cons]

theorem mem_comparisons_of_mem_children {rule child : Rule} (hchild : child ∈ rule.children)
    {test : Comparison} (htest : test ∈ child.comparisons) : test ∈ rule.comparisons := by
  cases rule with
  | combinator kind children =>
      rw [comparisons, comparisonsOfEach_eq_flatMap]
      exact List.mem_flatMap.mpr ⟨child, hchild, htest⟩
  | negation inner =>
      cases List.mem_singleton.mp hchild
      exact htest
  | _ => cases hchild

theorem evaluate_congr {attributes others : Object} (rule : Rule)
    (h : ∀ test ∈ rule.comparisons,
      Path.resolve? attributes test.key = Path.resolve? others test.key) :
    rule.evaluate attributes = rule.evaluate others := by
  induction rule using induction_on_children with
  | step rule ih =>
      have hchild : ∀ child ∈ rule.children, child.evaluate attributes = child.evaluate others :=
        fun child hchild => ih child hchild fun test htest =>
          h test (mem_comparisons_of_mem_children hchild htest)
      cases rule with
      | comparison test =>
          rw [evaluate, evaluate, Comparison.evaluate, Comparison.evaluate,
            h test (List.mem_singleton_self test)]
      | combinator kind children =>
          rw [evaluate, evaluate, evaluateEach_eq_map, evaluateEach_eq_map]
          exact congrArg kind.holds (List.map_congr_left hchild)
      | negation child => rw [evaluate, evaluate, hchild child (List.mem_singleton_self child)]
      | _ => rfl

/-- A rule depends on the attributes only by what its paths find in them, and then on no attribute
other than those that bear one of its paths as name or stand at the beginning of one. -/
theorem evaluate_locality (rule : Rule) (attributes : Object) :
    (∀ others, (∀ test ∈ rule.comparisons,
        Path.resolve? attributes test.key = Path.resolve? others test.key) →
      rule.evaluate attributes = rule.evaluate others) ∧
    ∀ name, (∀ test ∈ rule.comparisons, ¬ Path.Reads test.key name) →
      (∀ v, rule.evaluate (Fields.insert attributes name v) = rule.evaluate attributes) ∧
        rule.evaluate (Fields.erase attributes [name]) = rule.evaluate attributes := by
  refine ⟨fun others h => evaluate_congr rule h, fun name h => ⟨fun v => ?_, ?_⟩⟩
  · exact evaluate_congr rule fun test htest => Path.resolve?_insert attributes (h test htest) v
  · exact evaluate_congr rule fun test htest => Path.resolve?_erase attributes (h test htest)

/-- One path finds the same in an attribute that bears it as name and inside another attribute. An
attribute that bears the last key of the path as name does not matter. -/
theorem evaluate_locality_nested :
    let path := "site.amps"
    let rule : Rule := .combinator .all
      [.negation (.compare path .absent []), .compare path .greaterOrEqual [.ofText "50"]]
    let named : Object := [(path, .string "60")]
    let nested : Object := [("site", .object [("amps", .string "60")])]
    (∀ test ∈ rule.comparisons,
        Path.resolve? named test.key = Path.resolve? nested test.key) ∧
      rule.evaluate named = rule.evaluate nested ∧
      (∀ test ∈ rule.comparisons, ¬ Path.Reads test.key "amps") ∧
      (∀ v, rule.evaluate (Fields.insert nested "amps" v) = rule.evaluate nested) ∧
      rule.evaluate (Fields.erase nested ["amps"]) = rule.evaluate nested ∧
      rule.evaluate nested = true := by
  intro path rule named nested
  have htrimmed : Text.trimmed path = path := by decide +kernel
  have hsegments : Path.segments? path = some [.key "site", .key "amps"] := by decide +kernel
  have hnamed : Path.resolve? named path = some (.string "60") :=
    Path.resolve?_of_get? htrimmed (by decide) rfl
  have hnested : Path.resolve? nested path = some (.string "60") :=
    Path.resolve?_of_segments htrimmed rfl hsegments
  have hfind : ∀ test ∈ rule.comparisons,
      Path.resolve? named test.key = Path.resolve? nested test.key := by
    have hkey : ∀ test ∈ rule.comparisons, test.key = path := by decide
    intro test htest
    rw [hkey test htest, hnamed, hnested]
  have hreads : ∀ test ∈ rule.comparisons, ¬ Path.Reads test.key "amps" := by decide +kernel
  have hagree := (evaluate_locality rule named).1 nested hfind
  obtain ⟨hinsert, herase⟩ := (evaluate_locality rule nested).2 "amps" hreads
  exact ⟨hfind, hagree, hreads, hinsert, herase, by decide +kernel⟩

end Rule

end FilingChecklist
