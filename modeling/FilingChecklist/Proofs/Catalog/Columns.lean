import FilingChecklist.Checklist.Basic
import FilingChecklist.Proofs.Catalog.Rows

namespace FilingChecklist

theorem Row.keyText_of_get? {row : Object} {kind : KeyKind} {key : Key kind}
    (h : Fields.get? row kind.column = some (.string key.text)) : KeyText row kind key.text := by
  obtain ⟨rest, hcolumns⟩ : ∃ rest, kind.columns = kind.column :: rest := by
    cases kind <;> exact ⟨_, rfl⟩
  have hcell : KeyCell (.string key.text) key.text := by
    have htrimmed := KeyCell.text key.text (key.isTrimmed.symm ▸ key.isNonempty)
    rwa [key.isTrimmed] at htrimmed
  exact ⟨kind.column, _, ⟨[], rest, hcolumns, h, ⟨_, hcell⟩, nofun⟩, hcell⟩

namespace Requirement

/-- The rule is that of the source, and the extra columns mean nothing to a reader. -/
structure Sound (r : Requirement) : Prop where
  rule : r.rule = .ofSource r.source
  extra : ∀ column ∈ ownColumns, column ∉ Fields.keys r.extra

theorem sound_of_ofRow {row : Json} {r : Requirement} (h : ofRow row = .ok r) : r.Sound := by
  obtain ⟨fields, -, -, -, -, -, -, hrule, hextra⟩ := ofRow_eq_ok_iff.mp h
  refine ⟨hrule, ?_⟩
  intro column hown
  rw [← Fields.get?_eq_none_iff, hextra, Fields.get?_erase,
    if_pos (List.contains_iff_mem.mpr hown)]

theorem sound_new (jurisdiction : Key .jurisdiction) (permitType : Key .permitType)
    (documentType : Key .documentType) (source : Json) :
    (new jurisdiction permitType documentType source).Sound :=
  ⟨rfl, fun _ _ => List.not_mem_nil⟩

theorem Sound.withActive {r : Requirement} (h : r.Sound) (active : Bool) :
    (r.withActive active).Sound :=
  ⟨h.rule, h.extra⟩

/-- The requirements that can be made. The cells of a row stand in the order of their columns. -/
inductive Built : Requirement → Prop
  | ofRow {row : Object} {r : Requirement} (hordered : row.Ordered)
      (hread : ofRow (.object row) = .ok r) : Built r
  | new (jurisdiction : Key .jurisdiction) (permitType : Key .permitType)
      (documentType : Key .documentType) (source : Json) :
      Built (new jurisdiction permitType documentType source)
  | withActive {r : Requirement} (h : Built r) (active : Bool) : Built (r.withActive active)

theorem Built.sound {r : Requirement} (h : r.Built) : r.Sound := by
  induction h with
  | ofRow _ hread => exact sound_of_ofRow hread
  | new jurisdiction permitType documentType source => exact sound_new _ _ _ _
  | withActive _ active ih => exact ih.withActive active

theorem Built.ordered_extra {r : Requirement} (h : r.Built) : Fields.Ordered r.extra := by
  induction h with
  | @ofRow row r hordered hread =>
      obtain ⟨fields, hrow, -, -, -, -, -, -, hextra⟩ := ofRow_eq_ok_iff.mp hread
      cases hrow
      rw [hextra]
      exact hordered.erase ownColumns
  | new => exact List.Pairwise.nil
  | withActive _ _ ih => exact ih

/-- The columns in which a requirement writes what is its own. -/
def writtenColumns : List String :=
  ["municipality_key", "permit_type_key", "doc_type_key", "active", "rule_definition"]

def addedColumns : List String :=
  ["display_name", "satisfied"]

theorem writtenColumns_subset : writtenColumns ⊆ ownColumns := by
  decide

theorem addedColumns_subset : addedColumns ⊆ ownColumns := by
  decide

theorem keys_columns (r : Requirement) :
    Fields.keys r.columns = writtenColumns ++ Fields.keys r.extra := rfl

theorem get?_columns_of_not_mem {r : Requirement} {column : String} (h : column ∉ writtenColumns) :
    Fields.get? r.columns column = Fields.get? r.extra column := by
  rw [columns, Fields.get?_append, Fields.get?_eq_none_iff.mpr h, Option.none_or]

theorem keys_entry_columns (r : Requirement) (displayName : Option String) (satisfied : Bool) :
    Fields.keys (Checklist.Entry.columns ⟨r, displayName, satisfied⟩) =
      Fields.keys r.columns ++ addedColumns :=
  Fields.keys_append _ _

theorem get?_entry_columns {r : Requirement} {displayName : Option String} {satisfied : Bool}
    {column : String} (h : column ∉ addedColumns) :
    Fields.get? (Checklist.Entry.columns ⟨r, displayName, satisfied⟩) column =
      Fields.get? r.columns column := by
  rw [Checklist.Entry.columns, Fields.get?_append]
  have hadded : Fields.get?
      [("display_name", textOrNull displayName), ("satisfied", .bool satisfied)] column = none :=
    Fields.get?_eq_none_iff.mpr h
  rw [hadded, Option.or_none]

theorem Sound.nodup_keys_columns {r : Requirement} (h : r.Sound) (hextra : r.extra.Ordered) :
    (Fields.keys r.columns).Nodup := by
  rw [keys_columns]
  refine List.Nodup.append (by decide) hextra.nodup_keys ?_
  intro column hcolumn
  exact h.extra column (writtenColumns_subset hcolumn)

theorem Sound.nodup_keys_entry_columns {r : Requirement} (h : r.Sound) (hextra : r.extra.Ordered)
    (displayName : Option String) (satisfied : Bool) :
    (Fields.keys (Checklist.Entry.columns ⟨r, displayName, satisfied⟩)).Nodup := by
  have hdisjoint : ∀ column ∈ writtenColumns, column ∉ addedColumns := by decide
  rw [keys_entry_columns]
  refine List.Nodup.append (h.nodup_keys_columns hextra) (by decide) ?_
  intro column hcolumn hadded
  rw [keys_columns] at hcolumn
  rcases List.mem_append.mp hcolumn with hwritten | hcolumn
  · exact hdisjoint column hwritten hadded
  · exact h.extra column (addedColumns_subset hadded) hcolumn

section

variable {r : Requirement} {row : Object}

theorem Sound.sourceOfRow_eq (h : r.Sound)
    (hget : ∀ column ∈ ruleColumns, Fields.get? row column = Fields.get? r.columns column) :
    sourceOfRow row = r.source := by
  have hfirst : Fields.get? row "rule_definition" = some r.source := hget _ (by decide)
  have halias : ∀ column ∈ ruleColumns, column ≠ "rule_definition" →
      column ∉ writtenColumns ∧ column ∈ ownColumns := by
    decide
  rw [sourceOfRow_eq_iff]
  by_cases hnull : r.source = .null
  · -- the source is written as null, and no other rule column can be among the extra ones
    refine .inr ⟨hnull, ?_⟩
    intro column hcolumn cell hcell
    by_cases hwritten : column = "rule_definition"
    · rw [hwritten, hfirst] at hcell
      exact (Option.some.inj hcell).symm.trans hnull
    · obtain ⟨hother, hown⟩ := halias column hcolumn hwritten
      rw [hget column hcolumn, get?_columns_of_not_mem hother,
        Fields.get?_eq_none_iff.mpr (h.extra column hown)] at hcell
      cases hcell
  · exact .inl ⟨"rule_definition", [], ["ruleDefinition", "rule"], rfl, hfirst, hnull, nofun⟩

theorem Sound.erase_eq_extra (h : r.Sound) (hextra : r.extra.Ordered) (hrow : row.Ordered)
    (hget : ∀ column, column ∉ ownColumns → Fields.get? row column = Fields.get? r.columns column) :
    Fields.erase row ownColumns = r.extra := by
  apply (hrow.erase ownColumns).ext hextra
  intro column
  rw [Fields.get?_erase]
  by_cases hown : column ∈ ownColumns
  · rw [if_pos (List.contains_iff_mem.mpr hown)]
    exact (Fields.get?_eq_none_iff.mpr (h.extra column hown)).symm
  · rw [if_neg (mt List.contains_iff_mem.mp hown)]
    have hwritten : column ∉ writtenColumns := fun hmem => hown (writtenColumns_subset hmem)
    rw [hget column hown, get?_columns_of_not_mem hwritten]

/-- A row with the columns of a requirement reads as the requirement, whatever stands in the columns
that a checklist adds. -/
theorem Sound.ofRow_eq (h : r.Sound) (hextra : r.extra.Ordered) (hrow : row.Ordered)
    (hget : ∀ column, column ∉ addedColumns →
      Fields.get? row column = Fields.get? r.columns column) :
    ofRow (.object row) = .ok r := by
  have hrule : ∀ column ∈ ruleColumns, Fields.get? row column = Fields.get? r.columns column := by
    have hdisjoint : ∀ column ∈ ruleColumns, column ∉ addedColumns := by decide
    exact fun column hmem => hget column (hdisjoint column hmem)
  refine ofRow_eq_ok_iff.mpr ⟨row, rfl, ?_, ?_, ?_, ?_, ?_, h.rule, ?_⟩
  · exact Row.keyText_of_get? (hget _ (by decide))
  · exact Row.keyText_of_get? (hget _ (by decide))
  · exact Row.keyText_of_get? (hget _ (by decide))
  · rw [hget _ (by decide)]
    rfl
  · exact (h.sourceOfRow_eq hrule).symm
  · refine (h.erase_eq_extra hextra hrow ?_).symm
    exact fun column hown => hget column fun hadded => hown (addedColumns_subset hadded)

end

/-- The line of a checklist for a requirement writes each column once, and both the row of the
requirement and the row of the line read as the requirement. -/
theorem ofRow_columns {r : Requirement} (hbuilt : r.Built) (displayName : Option String)
    (satisfied : Bool) :
    let entry : Checklist.Entry := ⟨r, displayName, satisfied⟩
    (Fields.keys entry.columns).Nodup ∧
      ofRow (.object (Fields.ofList r.columns)) = .ok r ∧
      ofRow (.object (Fields.ofList entry.columns)) = .ok r := by
  intro entry
  have hsound := hbuilt.sound
  have hextra := hbuilt.ordered_extra
  have hentry := hsound.nodup_keys_entry_columns hextra displayName satisfied
  refine ⟨hentry, ?_, ?_⟩
  · apply hsound.ofRow_eq hextra (Fields.ordered_ofList _)
    intro column _
    exact Fields.get?_ofList (hsound.nodup_keys_columns hextra) column
  · apply hsound.ofRow_eq hextra (Fields.ordered_ofList _)
    intro column hadded
    rw [Fields.get?_ofList hentry, get?_entry_columns hadded]

theorem ofRow_columns_aliased :
    let row : Object := [("active", .string " TRUE "), ("display_name", .string "Stale"),
      ("document_type", .string "site_plan"), ("jurisdiction", .string " cumberland "),
      ("notes", .null), ("permit_type_key", .number (.integer 7 (by decide))),
      ("rule", .string "amps >= 50"), ("rule_definition", .null)]
    let r : Requirement :=
      { jurisdiction := ⟨"cumberland", by decide, by decide⟩
        permitType := ⟨"7", by decide, by decide⟩
        documentType := ⟨"site_plan", by decide, by decide⟩
        active := true
        source := .string "amps >= 50"
        rule := .ofSource (.string "amps >= 50")
        extra := [("notes", .null)] }
    let retired := r.withActive false
    let entry : Checklist.Entry := ⟨retired, none, true⟩
    ofRow (.object row) = .ok r ∧ retired.Built ∧
      (Fields.keys entry.columns).Nodup ∧
      ofRow (.object (Fields.ofList retired.columns)) = .ok retired ∧
      ofRow (.object (Fields.ofList entry.columns)) = .ok retired := by
  intro row r retired entry
  have hread : ofRow (.object row) = .ok r := rfl
  have hbuilt : retired.Built := .withActive (.ofRow (by decide) hread) false
  exact ⟨hread, hbuilt, ofRow_columns hbuilt none true⟩

end Requirement

end FilingChecklist
