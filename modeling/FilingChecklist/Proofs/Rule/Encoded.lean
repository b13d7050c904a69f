import FilingChecklist.Proofs.Catalog.Rows
import FilingChecklist.Proofs.Json.Padding
import FilingChecklist.Proofs.Rule.Nesting
import FilingChecklist.Rule.Explanation

namespace FilingChecklist

namespace Source

open Rule (Truncates)
open Text (asciiLower trimmed)

variable {s : String} {v : Json}

/-- A text that reads as data is decoded, or it is a truth value and has the form of that. -/
theorem form_string (h : Json.ofText? s = some v) :
    form Json.ofText? (.string s) = .decoded v ∨
      form Json.ofText? (.string s) = form Json.ofText? v := by
  have htrimmed := Json.ofText?_trimmed h
  have hempty : (trimmed s).isEmpty = false := by
    cases hs : (trimmed s).isEmpty with
    | false => rfl
    | true =>
        rw [String.isEmpty_iff.mp hs] at htrimmed
        cases htrimmed
  by_cases htrue : asciiLower (trimmed s) = "true"
  · have hread := Json.ofText?_of_asciiLower htrue (by decide) (by decide) htrimmed
    have hv : v = .bool true := by simpa using hread
    right
    simp [form, textForm, htrue, hv]
  · by_cases hfalse : asciiLower (trimmed s) = "false"
    · have hread := Json.ofText?_of_asciiLower hfalse (by decide) (by decide) htrimmed
      have hv : v = .bool false := by simpa using hread
      right
      simp [form, textForm, hempty, hfalse, hv]
    · left
      simp [form, textForm, hempty, htrue, hfalse, htrimmed]

theorem read_string_truncates (h : Json.ofText? s = some v) {levels more : Nat}
    (hle : levels ≤ more) :
    Truncates (read Json.ofText? levels (.string s)) (read Json.ofText? more v) := by
  cases levels with
  | zero =>
      rw [read_zero]
      exact .never _
  | succ levels =>
      rcases form_string h with hdecoded | hform
      · rw [read_succ, hdecoded]
        exact read_truncates _ (by omega) v
      · rw [read_succ, hform, ← read_succ]
        exact read_truncates _ hle v

theorem read_string_of_fits (h : Json.ofText? s = some v) {levels : Nat}
    (hfits : fits Json.ofText? levels (.string s) = true) :
    fits Json.ofText? levels v = true ∧
      read Json.ofText? levels (.string s) = read Json.ofText? levels v := by
  cases levels with
  | zero => exact absurd hfits Bool.false_ne_true
  | succ levels =>
      rcases form_string h with hdecoded | hform
      · rw [fits_succ_iff, hdecoded] at hfits
        have hv := hfits v (List.mem_singleton_self v)
        refine ⟨fits_of_le _ (Nat.le_succ levels) hv, ?_⟩
        rw [read_succ, hdecoded]
        exact read_eq_of_fits _ (Nat.le_succ levels) hv
      · refine ⟨?_, by rw [read_succ, hform, ← read_succ]⟩
        rw [fits, hform] at hfits
        rw [fits]
        exact hfits

/-- A source that stands deeper, or is written as text, reads as the same tree with some of its
subtrees cut, and with none cut if all of it stands within the limit. -/
theorem readAt_deeper_truncates {depth deeper : Nat} (hle : depth ≤ deeper) (source : Json) :
    Truncates (readAt Json.ofText? deeper source) (readAt Json.ofText? depth source) ∧
      (deeper ≤ maxDepth → ReadsInFull Json.ofText? deeper source →
        readAt Json.ofText? deeper source = readAt Json.ofText? depth source) ∧
      ∀ s, Json.ofText? s = some source →
        Truncates (readAt Json.ofText? deeper (.string s)) (readAt Json.ofText? depth source) := by
  have hlevels : maxDepth + 1 - deeper ≤ maxDepth + 1 - depth := by omega
  refine ⟨read_truncates _ hlevels source, ?_, ?_⟩
  · intro hdeeper hfull
    exact read_eq_of_fits _ hlevels ((readsInFull_iff _ hdeeper).mp hfull)
  · intro s hs
    exact read_string_truncates hs hlevels

theorem readAt_deeper_truncates_list :
    let list : Json := .array [.string "[true]"]
    let text : Json := .string "[\"[true]\"]"
    Json.ofText? "[\"[true]\"]" = some list ∧
      ReadsInFull Json.ofText? 61 list ∧
      readAt Json.ofText? 61 list = readAt Json.ofText? 0 list ∧
      readAt Json.ofText? 62 text = .combinator .all [.never] ∧
      Truncates (readAt Json.ofText? 62 text) (readAt Json.ofText? 0 list) := by
  intro list text
  have hfull : ReadsInFull Json.ofText? 61 list := (readsInFull_iff _ (by decide)).mpr (by decide)
  have htext : Json.ofText? "[\"[true]\"]" = some list := rfl
  refine ⟨htext, hfull, ?_, rfl, ?_⟩
  · exact (readAt_deeper_truncates (by decide) list).2.1 (by decide) hfull
  · exact (readAt_deeper_truncates (by decide) list).2.2 _ htext

theorem ofSource_ofText {raw : String} (hfull : ReadsInFull Json.ofText? 0 (.string raw)) :
    Rule.ofSource (ofText raw) = Rule.ofSource (.string raw) := by
  have hfits := (readsInFull_iff Json.ofText? (Nat.zero_le maxDepth)).mp hfull
  rw [ofText]
  cases hread : Json.ofText? raw with
  | none => rfl
  | some v => exact (read_string_of_fits hread hfits).2.symm

end Source

theorem Requirement.rule_of_ofRow {row : Object} {r : Requirement} {source : Json}
    (hread : Requirement.ofRow (.object row) = .ok r)
    (hcell : Fields.get? row "rule_definition" = some source) (hsource : source ≠ .null) :
    r.rule = .ofSource source := by
  obtain ⟨_, hrow, _, _, _, _, hrowSource, hrule, _⟩ := Requirement.ofRow_eq_ok_iff.mp hread
  cases hrow
  have hfirst : RuleCell row source :=
    .inl ⟨"rule_definition", [], ["ruleDefinition", "rule"], rfl, hcell, hsource, by simp⟩
  rw [hrule, hrowSource, sourceOfRow_eq_iff.mpr hfirst]

/-- What a text rule is explained as and evaluated to on the command line is what it is in the
catalog, as long as all of it stands within the limit. -/
theorem Explanation.rule_ofText {raw : String}
    (hfull : Source.ReadsInFull Json.ofText? 0 (.string raw)) :
    (Explanation.ofText raw).rule = .ofSource (.string raw) ∧
      (∀ attributes,
        Source.evaluateText raw attributes = Source.evaluate (.string raw) attributes) ∧
      ∀ row r, Requirement.ofRow (.object row) = .ok r →
        Fields.get? row "rule_definition" = some (.string raw) →
        r.rule = (Explanation.ofText raw).rule ∧
          ∀ attributes, r.appliesTo attributes = Source.evaluateText raw attributes := by
  have hrule : (Explanation.ofText raw).rule = .ofSource (.string raw) :=
    Source.ofSource_ofText hfull
  have hevaluate : ∀ attributes,
      Source.evaluateText raw attributes = Source.evaluate (.string raw) attributes :=
    fun attributes => congrArg (Rule.evaluate attributes) hrule
  refine ⟨hrule, hevaluate, ?_⟩
  intro row r hread hcell
  have hcatalog := Requirement.rule_of_ofRow hread hcell nofun
  refine ⟨hcatalog.trans hrule.symm, ?_⟩
  intro attributes
  rw [Requirement.appliesTo, hcatalog, hevaluate]
  rfl

theorem Explanation.rule_ofText_padded_list :
    let raw : String := " [\"amps >= 50\", \"[true]\"]\n"
    let row : Object := [("doc_type_key", .string "plan"), ("jurisdiction", .string " marin"),
      ("permit_type_key", .string "solar"), ("rule_definition", .string raw)]
    Source.ReadsInFull Json.ofText? 0 (.string raw) ∧
      (∃ r, Requirement.ofRow (.object row) = .ok r ∧ r.rule = (Explanation.ofText raw).rule ∧
        ∀ attributes, r.appliesTo attributes = Source.evaluateText raw attributes) ∧
      ∀ attributes,
        Source.evaluateText raw attributes = Source.evaluate (.string raw) attributes := by
  intro raw row
  have hfull : Source.ReadsInFull Json.ofText? 0 (.string raw) :=
    (Source.readsInFull_iff _ (by decide)).mpr (by decide)
  obtain ⟨-, hevaluate, hrows⟩ := Explanation.rule_ofText hfull
  exact ⟨hfull, ⟨_, rfl, hrows row _ rfl rfl⟩, hevaluate⟩

end FilingChecklist
