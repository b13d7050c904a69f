import FilingChecklist.Proofs.Checklist.Composition

/-!
What is left out of a store when it is read. A row that its reader refuses, wherever it stands, and
an entry of attributes that is no object leave no trace.
-/

namespace FilingChecklist

/-- The second list is the first one with such items put in at any places. -/
inductive Inserted {α : Type} (extra : α → Prop) : List α → List α → Prop
  | nil : Inserted extra [] []
  | kept {items more : List α} (a : α) (h : Inserted extra items more) :
      Inserted extra (a :: items) (a :: more)
  | inserted {items more : List α} {a : α} (ha : extra a) (h : Inserted extra items more) :
      Inserted extra items (a :: more)

/-- Two lists that differ only in such items. -/
def DifferBy {α : Type} (extra : α → Prop) (items others : List α) : Prop :=
  ∃ common, Inserted extra common items ∧ Inserted extra common others

section

variable {α β : Type} {extra : α → Prop} {items more : List α} {f : α → Option β}

theorem Inserted.refl (items : List α) : Inserted extra items items := by
  induction items with
  | nil => exact .nil
  | cons a items ih => exact .kept a ih

theorem Inserted.differBy (h : Inserted extra items more) : DifferBy extra items more :=
  ⟨items, .refl items, h⟩

theorem Inserted.filterMap_eq (h : Inserted extra items more)
    (hextra : ∀ a, extra a → f a = none) : more.filterMap f = items.filterMap f := by
  induction h with
  | nil => rfl
  | kept a _ ih => rw [List.filterMap_cons, List.filterMap_cons, ih]
  | inserted ha _ ih => rw [List.filterMap_cons_none (hextra _ ha), ih]

theorem DifferBy.filterMap_eq (h : DifferBy extra items more)
    (hextra : ∀ a, extra a → f a = none) : items.filterMap f = more.filterMap f := by
  obtain ⟨common, hitems, hmore⟩ := h
  rw [hitems.filterMap_eq hextra, hmore.filterMap_eq hextra]

end

namespace Store

/-- The sections of a store that are lists of rows. -/
inductive Section
  | documentTypes
  | requirements
  | documents
  | projects
  deriving DecidableEq

namespace Section

def name : Section → String
  | documentTypes => "documentTypes"
  | requirements => "supplementalRequirements"
  | documents => "documents"
  | projects => "projects"

abbrev Record : Section → Type
  | documentTypes => DocumentType
  | requirements => Requirement
  | documents => Document
  | projects => Project

def ofRow : (part : Section) → Json → Except RowError part.Record
  | documentTypes => DocumentType.ofRow
  | requirements => Requirement.ofRow
  | documents => Document.ofRow
  | projects => Project.ofRow

/-- The records of the section in a store. -/
def records : (part : Section) → Store → List part.Record
  | documentTypes => Store.documentTypes
  | requirements => Store.requirements
  | documents => Store.documents
  | projects => Store.projects

/-- A row that the reader of the section refuses. -/
def Refuses (part : Section) (row : Json) : Prop :=
  ∃ cause, part.ofRow row = .error cause

theorem records_ofJson (part : Section) (sections : Object) :
    part.records (ofJson (.object sections)) =
      (sectionRows sections part.name).filterMap fun row => (part.ofRow row).toOption := by
  cases part <;> exact readSection_get? _ sections _

theorem Refuses.toOption_eq_none {part : Section} {row : Json} (h : part.Refuses row) :
    (part.ofRow row).toOption = none := by
  obtain ⟨cause, hrow⟩ := h
  rw [hrow]
  rfl

theorem records_eq_of_rows {part : Section} {sections others : Object}
    (h : DifferBy part.Refuses (sectionRows sections part.name) (sectionRows others part.name)) :
    part.records (ofJson (.object sections)) = part.records (ofJson (.object others)) := by
  rw [records_ofJson, records_ofJson]
  exact h.filterMap_eq fun _ => Refuses.toOption_eq_none

end Section

theorem sectionRows_insert_rows (sections : Object) (name : String) (rows : List Json) :
    sectionRows (sections.insert name (.array rows)) name = rows := by
  rw [sectionRows, Fields.get?_insert, if_pos rfl]

theorem sectionRows_insert_of_ne (sections : Object) {name other : String} (h : other ≠ name)
    (v : Json) : sectionRows (sections.insert other v) name = sectionRows sections name := by
  rw [sectionRows, Fields.get?_insert, if_neg h, sectionRows]

def attributeEntries (sections : Object) : Object :=
  match Fields.get? sections "projectValues" with
  | some (.object entries) => entries
  | _ => []

def attributesOf? (entry : String × Json) : Option (String × Object) :=
  entry.2.object?.map fun attributes => (Text.trimmed entry.1, attributes)

theorem projectValues_ofJson (sections : Object) :
    (ofJson (.object sections)).projectValues =
      Fields.ofList ((attributeEntries sections).filterMap attributesOf?) := by
  rw [show (ofJson (.object sections)).projectValues =
    readProjectValues (Fields.get? sections "projectValues") from rfl, attributeEntries]
  cases Fields.get? sections "projectValues" with
  | none => rfl
  | some v => cases v <;> rfl

/-- An entry that holds no attributes. -/
def HoldsNoObject (entry : String × Json) : Prop :=
  ∀ attributes, entry.2 ≠ .object attributes

theorem HoldsNoObject.attributesOf?_eq_none {entry : String × Json} (h : HoldsNoObject entry) :
    attributesOf? entry = none := by
  obtain ⟨name, v⟩ := entry
  cases v with
  | object attributes => exact absurd rfl (h attributes)
  | _ => rfl

attribute [ext] Store

theorem ofJson_eq_of_differBy {sections others : Object}
    (hrows : ∀ part : Section,
      DifferBy part.Refuses (sectionRows sections part.name) (sectionRows others part.name))
    (hentries : DifferBy HoldsNoObject (attributeEntries sections) (attributeEntries others)) :
    ofJson (.object sections) = ofJson (.object others) := by
  have hrecords (part : Section) :
      part.records (ofJson (.object sections)) = part.records (ofJson (.object others)) :=
    Section.records_eq_of_rows (hrows part)
  have hvalues : (ofJson (.object sections)).projectValues =
      (ofJson (.object others)).projectValues := by
    rw [projectValues_ofJson, projectValues_ofJson,
      hentries.filterMap_eq fun _ => HoldsNoObject.attributesOf?_eq_none]
  exact Store.ext (hrecords .documentTypes) (hrecords .requirements) (hrecords .documents)
    (hrecords .projects) hvalues

theorem map_ok_filterMap_toOption {ε α β : Type} (f : α → Except ε β) (items : List α) :
    (items.filterMap fun a => (f a).toOption).map Except.ok =
      (items.map f).filter Except.isOk := by
  induction items with
  | nil => rfl
  | cons a items ih =>
      rw [List.map_cons, List.filterMap_cons]
      cases f a with
      | error e => exact ih
      | ok b => exact congrArg (Except.ok b :: ·) ih

/-- A section holds what its reader makes of the rows that it does not refuse, in their order, so
refused rows change nothing, nor does anything outside the section. -/
theorem ofJson_usable_rows (sections : Object) :
    (∀ part : Section,
      (part.records (ofJson (.object sections))).map Except.ok =
          ((sectionRows sections part.name).map part.ofRow).filter Except.isOk ∧
        (∀ more, Inserted part.Refuses (sectionRows sections part.name) more →
          part.records (ofJson (.object (sections.insert part.name (.array more)))) =
            part.records (ofJson (.object sections))) ∧
        ∀ other v, other ≠ part.name →
          part.records (ofJson (.object (sections.insert other v))) =
            part.records (ofJson (.object sections))) ∧
      (∀ v : Json, (∀ fields, v ≠ .object fields) → ofJson v = empty) ∧
      ∀ others : Object,
        (∀ part : Section, DifferBy part.Refuses (sectionRows sections part.name)
          (sectionRows others part.name)) →
        DifferBy HoldsNoObject (attributeEntries sections) (attributeEntries others) →
        ∀ query, (ofJson (.object sections)).checklist query =
          (ofJson (.object others)).checklist query := by
  refine ⟨fun part => ⟨?_, ?_, ?_⟩, ?_, ?_⟩
  · rw [part.records_ofJson]
    exact map_ok_filterMap_toOption _ _
  · intro more hmore
    rw [part.records_ofJson, part.records_ofJson, sectionRows_insert_rows]
    exact hmore.filterMap_eq fun _ => Section.Refuses.toOption_eq_none
  · intro other v hother
    rw [part.records_ofJson, part.records_ofJson, sectionRows_insert_of_ne sections hother]
  · intro v hv
    cases v with
    | object fields => exact absurd rfl (hv fields)
    | _ => rfl
  · intro others hrows hentries query
    rw [ofJson_eq_of_differBy hrows hentries]

theorem ofJson_usable_rows_mixed :
    let row : Json := .object [("active", .bool true), ("doc_type_key", .string "site_plan"),
      ("municipality_key", .string "yarmouth"), ("permit_type_key", .string "solar")]
    let attributes : Json := .object [("amps", .string "60")]
    let rows : List Json := [.object [], row, .null]
    let sections : Object := [("projectValues", .object [("p-1", attributes)]),
      ("supplementalRequirements", .array [row])]
    let others : Object := [("documentTypes", .string "none"),
      ("projectValues", .object [("p-1", attributes), ("p-2", .bool true)]),
      ("supplementalRequirements", .array rows)]
    let query : Query :=
      ⟨⟨"yarmouth", by decide, by decide⟩, ⟨"solar", by decide, by decide⟩,
        ⟨"p-1", by decide, by decide⟩⟩
    ((ofJson (.object others)).checklist query).supplements.length = 1 ∧
      (ofJson (.object (sections.insert "supplementalRequirements" (.array rows)))).requirements =
        (ofJson (.object sections)).requirements ∧
      (ofJson (.object (sections.insert "documents" row))).requirements =
        (ofJson (.object sections)).requirements ∧
      ofJson (.array [.object sections]) = empty ∧
      (ofJson (.object sections)).checklist query = (ofJson (.object others)).checklist query := by
  intro row attributes rows sections others query
  have hinserted : Inserted Section.requirements.Refuses [row] rows :=
    .inserted ⟨_, rfl⟩ (.kept row (.inserted ⟨_, rfl⟩ .nil))
  have hrows (part : Section) : DifferBy part.Refuses (sectionRows sections part.name)
      (sectionRows others part.name) := by
    cases part with
    | requirements => exact hinserted.differBy
    | _ => exact ⟨[], .nil, .nil⟩
  have hentries : DifferBy HoldsNoObject (attributeEntries sections) (attributeEntries others) :=
    Inserted.differBy (.kept _ (.inserted nofun .nil))
  obtain ⟨hsections, hempty, hchecklists⟩ := ofJson_usable_rows sections
  obtain ⟨-, hrefused, hother⟩ := hsections .requirements
  exact ⟨rfl, hrefused rows hinserted, hother "documents" row (by decide), hempty _ nofun,
    hchecklists others hrows hentries query⟩

end Store

end FilingChecklist
