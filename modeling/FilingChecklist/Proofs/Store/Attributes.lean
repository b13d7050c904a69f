import FilingChecklist.Proofs.Fields
import FilingChecklist.Proofs.Store.Sections
import FilingChecklist.Proofs.Text.Bytes

namespace FilingChecklist.Store

/-- An entry for a project: attributes under a text that trims to the key of the project. -/
def EntryFor (sections : Object) (id : Key .project) (name : String) (attributes : Object) : Prop :=
  Fields.get? (attributeEntries sections) name = some (.object attributes) ∧
    Text.trimmed name = id.text

/-- The entry for the project whose text is the last one in the order of bytes. -/
def LastEntryFor (sections : Object) (id : Key .project) (name : String) (attributes : Object) :
    Prop :=
  EntryFor sections id name attributes ∧
    ∀ other others, EntryFor sections id other others → Text.bytes other ≤ Text.bytes name

/-- The attributes in an entry, if it is one for the project with this key. -/
def attributesIn? (key : String) (entry : String × Json) : Option Object :=
  if Text.trimmed entry.1 = key then entry.2.object? else none

theorem attributesIn?_eq_some_iff {key name : String} {v : Json} {attributes : Object} :
    attributesIn? key (name, v) = some attributes ↔
      v = .object attributes ∧ Text.trimmed name = key := by
  rw [attributesIn?, Option.ite_none_right_eq_some, and_comm]
  exact and_congr_left fun _ => by cases v <;> simp [Json.object?]

/-- Of the entries for a project the last one counts. -/
theorem get?_projectValues_ofJson (sections : Object) (key : String) :
    Fields.get? (ofJson (.object sections)).projectValues key =
      (attributeEntries sections).reverse.findSome? (attributesIn? key) := by
  rw [projectValues_ofJson, Fields.get?_ofList_reverse, ← List.filterMap_reverse,
    Fields.get?_filterMap]
  refine congrArg (List.findSome? · _) (funext fun entry => ?_)
  rw [attributesOf?, attributesIn?]
  cases entry.2.object? <;> simp

section

variable {sections : Object} (hordered : (attributeEntries sections).Ordered) {id : Key .project}
  {attributes : Object}

include hordered

theorem entryFor_iff {name : String} :
    EntryFor sections id name attributes ↔
      (name, .object attributes) ∈ attributeEntries sections ∧ Text.trimmed name = id.text := by
  rw [EntryFor, Fields.get?_eq_some_iff hordered.nodup_keys]

theorem mem_and_attributesIn?_iff {name : String} {v : Json} :
    (name, v) ∈ attributeEntries sections ∧ attributesIn? id.text (name, v) = some attributes ↔
      v = .object attributes ∧ EntryFor sections id name attributes := by
  rw [attributesIn?_eq_some_iff, entryFor_iff hordered]
  constructor
  · rintro ⟨hmem, rfl, htrimmed⟩
    exact ⟨rfl, hmem, htrimmed⟩
  · rintro ⟨rfl, hmem, htrimmed⟩
    exact ⟨hmem, rfl, htrimmed⟩

theorem get?_projectValues_eq_some_iff :
    Fields.get? (ofJson (.object sections)).projectValues id.text = some attributes ↔
      ∃ name, LastEntryFor sections id name attributes := by
  rw [get?_projectValues_ofJson, hordered.findSome?_reverse_eq_some_iff]
  constructor
  · rintro ⟨⟨name, v⟩, hmem, hread, hlast⟩
    obtain ⟨-, hentry⟩ := (mem_and_attributesIn?_iff hordered).mp ⟨hmem, hread⟩
    refine ⟨name, hentry, fun other others hother => ?_⟩
    obtain ⟨hmem, hread⟩ := (mem_and_attributesIn?_iff hordered).mpr ⟨rfl, hother⟩
    exact Text.bytes_le_iff.mpr (hlast _ hmem (Option.isSome_iff_exists.mpr ⟨_, hread⟩))
  · rintro ⟨name, hentry, hlast⟩
    obtain ⟨hmem, hread⟩ := (mem_and_attributesIn?_iff hordered).mpr ⟨rfl, hentry⟩
    refine ⟨(name, .object attributes), hmem, hread, ?_⟩
    rintro ⟨other, v⟩ hmem hsome
    obtain ⟨others, hread⟩ := Option.isSome_iff_exists.mp hsome
    obtain ⟨-, hother⟩ := (mem_and_attributesIn?_iff hordered).mp ⟨hmem, hread⟩
    exact Text.bytes_le_iff.mp (hlast other others hother)

theorem get?_projectValues_eq_none_iff :
    Fields.get? (ofJson (.object sections)).projectValues id.text = none ↔
      ∀ name attributes, ¬ EntryFor sections id name attributes := by
  rw [get?_projectValues_ofJson, List.findSome?_eq_none_iff]
  constructor
  · intro hnone name attributes hentry
    obtain ⟨hmem, hread⟩ := (mem_and_attributesIn?_iff hordered).mpr ⟨rfl, hentry⟩
    rw [hnone _ (List.mem_reverse.mpr hmem)] at hread
    cases hread
  · rintro hnone ⟨name, v⟩ hmem
    rw [Option.eq_none_iff_forall_ne_some]
    intro attributes hread
    obtain ⟨-, hentry⟩ :=
      (mem_and_attributesIn?_iff hordered).mp ⟨List.mem_reverse.mp hmem, hread⟩
    exact hnone name attributes hentry

theorem attributesFor_eq_iff :
    (ofJson (.object sections)).attributesFor id = attributes ↔
      (∃ name, LastEntryFor sections id name attributes) ∨
        (attributes = [] ∧ ∀ name others, ¬ EntryFor sections id name others) := by
  rw [← get?_projectValues_eq_some_iff hordered, ← get?_projectValues_eq_none_iff hordered,
    attributesFor]
  cases Fields.get? (ofJson (.object sections)).projectValues id.text <;> simp [eq_comm]

end

/-- A project gets the attributes of the last entry for it in the order of bytes, and none if there
is no entry for it. So the attributes of the only entry for a project are never lost. -/
theorem attributesFor_ofJson_eq_iff {sections : Object}
    (hordered : (attributeEntries sections).Ordered) (id : Key .project) (attributes : Object) :
    ((ofJson (.object sections)).attributesFor id = attributes ↔
      (∃ name, LastEntryFor sections id name attributes) ∨
        (attributes = [] ∧ ∀ name others, ¬ EntryFor sections id name others)) ∧
    ∀ name, EntryFor sections id name attributes →
      (∀ other others, EntryFor sections id other others → other = name) →
      (ofJson (.object sections)).attributesFor id = attributes := by
  refine ⟨attributesFor_eq_iff hordered, fun name hentry honly => ?_⟩
  refine (attributesFor_eq_iff hordered).mpr (.inl ⟨name, hentry, fun other others hother => ?_⟩)
  rw [honly other others hother]
  exact List.le_refl _

theorem attributesFor_ofJson_eq_padded :
    let sections : Object := [("projectValues", .object [
      (" p-1", .object [("amps", .string "40")]), ("p-1\t", .object [("amps", .string "60")]),
      ("p-1\u00a0", .null), ("p-2 ", .object [("amps", .string "80")])])]
    let first : Key .project := ⟨"p-1", by decide, by decide⟩
    let second : Key .project := ⟨"p-2", by decide, by decide⟩
    (attributeEntries sections).Ordered ∧
      (∃ name, LastEntryFor sections first name [("amps", .string "60")]) ∧
      (ofJson (.object sections)).attributesFor second = [("amps", .string "80")] := by
  intro sections first second
  have hordered : (attributeEntries sections).Ordered := by decide
  have honly : ∀ entry ∈ attributeEntries sections, Text.trimmed entry.1 = second.text →
      entry.1 = "p-2 " := by decide
  have hfirst := attributesFor_ofJson_eq_iff hordered first [("amps", .string "60")]
  have hsecond := attributesFor_ofJson_eq_iff hordered second [("amps", .string "80")]
  refine ⟨hordered, ?_, hsecond.2 "p-2 " ⟨rfl, by decide⟩ ?_⟩
  · exact (hfirst.1.mp rfl).resolve_right (by simp)
  · intro other others hother
    obtain ⟨hmem, htrimmed⟩ := (entryFor_iff hordered).mp hother
    exact honly _ hmem htrimmed

end FilingChecklist.Store
