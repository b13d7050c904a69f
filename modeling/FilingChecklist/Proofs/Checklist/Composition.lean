import Mathlib.Data.List.Forall2
import FilingChecklist.Proofs.Catalog.Rows
import FilingChecklist.Store.Basic

namespace FilingChecklist

/-- The elements of a section. A section that is missing or no list has none. -/
def Store.sectionRows (sections : Object) (name : String) : List Json :=
  match Fields.get? sections name with
  | some (.array rows) => rows
  | _ => []

namespace Requirement

/-- A row that a checklist lists. -/
structure Demanded (row : Object) (query : Query) (attributes : Object) : Prop where
  jurisdiction : Row.KeyText row .jurisdiction query.jurisdiction.text
  permitType : Row.KeyText row .permitType query.permitType.text
  documentType : ∃ text, Row.KeyText row .documentType text
  active : Row.isActive (Fields.get? row "active") = true
  applies : ∃ source, RuleCell row source ∧ Source.evaluate source attributes = true

end Requirement

/-- A row of a document that fulfils requirements for a document type. -/
structure Document.Delivered (row : Object) (project : Key .project)
    (documentType : Key .documentType) : Prop where
  project : Row.KeyText row .project project.text
  documentType : Row.KeyText row .documentType documentType.text
  notRejected : ∀ status, Fields.get? row "status" = some (.string status) →
    Text.asciiLower (Text.trimmed status) ≠ "rejected"

/-- The name that the first row for a document type gives it. -/
def DocumentType.Named (rows : List Json) (key : Key .documentType) (name : Option String) : Prop :=
  (∃ before row after, rows = before ++ .object row :: after ∧
    Row.KeyText row .documentType key.text ∧ name = Row.text? row "display_name" ∧
    ∀ earlier, .object earlier ∈ before → ¬ Row.KeyText earlier .documentType key.text) ∨
  (name = none ∧ ∀ row, .object row ∈ rows → ¬ Row.KeyText row .documentType key.text)

/-- A line of a checklist that shows a row of the store. -/
structure Checklist.Entry.Shows (entry : Checklist.Entry) (row : Object) (sections : Object)
    (query : Query) : Prop where
  jurisdiction : entry.requirement.jurisdiction = query.jurisdiction
  permitType : entry.requirement.permitType = query.permitType
  documentType : Row.KeyText row .documentType entry.requirement.documentType.text
  active : entry.requirement.active = true
  source : Requirement.RuleCell row entry.requirement.source
  rule : entry.requirement.rule = .ofSource entry.requirement.source
  extra : entry.requirement.extra = Fields.erase row Requirement.ownColumns
  displayName : DocumentType.Named (Store.sectionRows sections "documentTypes")
    entry.requirement.documentType entry.displayName
  satisfied : entry.satisfied = true ↔
    ∃ document, .object document ∈ Store.sectionRows sections "documents" ∧
      Document.Delivered document query.project entry.requirement.documentType

theorem Store.readSection_get? {α : Type} (read : Json → Except RowError α) (sections : Object)
    (name : String) :
    readSection read (Fields.get? sections name) =
      (sectionRows sections name).filterMap fun row => (read row).toOption := by
  rw [sectionRows]
  cases Fields.get? sections name with
  | none => rfl
  | some v => cases v <;> rfl

theorem toOption_eq_some_iff {ε α : Type} {x : Except ε α} {a : α} :
    x.toOption = some a ↔ x = .ok a := by
  cases x with
  | error e => simp [Except.toOption]
  | ok b => simp [Except.toOption]

theorem Document.satisfies_iff {d : Document} {documentType : Key .documentType}
    {project : Key .project} :
    d.satisfies documentType project = true ↔
      d.documentType = documentType ∧ d.project = project ∧ d.isRejected = false := by
  simp [satisfies, and_assoc]

theorem Document.isRejected_eq_false_iff {row : Object} {d : Document}
    (hstatus : d.status = (Row.text? row "status").map .mk) :
    d.isRejected = false ↔ ∀ status, Fields.get? row "status" = some (.string status) →
      Text.asciiLower (Text.trimmed status) ≠ "rejected" := by
  rw [isRejected, hstatus, Row.text?]
  cases Fields.get? row "status" with
  | none => simp
  | some v => cases v <;> simp [Json.string?, DocumentStatus.isRejected]

theorem Document.any_satisfies_iff {sections : Object} {documentType : Key .documentType}
    {project : Key .project} :
    ((Store.readSection Document.ofRow (Fields.get? sections "documents")).any fun d =>
        d.satisfies documentType project) = true ↔
      ∃ row, .object row ∈ Store.sectionRows sections "documents" ∧
        Delivered row project documentType := by
  rw [Store.readSection_get?, List.any_eq_true]
  constructor
  · rintro ⟨d, hd, hsatisfies⟩
    obtain ⟨v, hv, hread⟩ := List.mem_filterMap.mp hd
    obtain ⟨row, rfl, hproject, htype, hstatus⟩ :=
      Document.ofRow_eq_ok_iff.mp (toOption_eq_some_iff.mp hread)
    obtain ⟨rfl, rfl, hrejected⟩ := satisfies_iff.mp hsatisfies
    exact ⟨row, hv, hproject, htype, (isRejected_eq_false_iff hstatus).mp hrejected⟩
  · rintro ⟨row, hrow, hproject, htype, hrejected⟩
    let d : Document := ⟨project, documentType, (Row.text? row "status").map .mk⟩
    have hread : Document.ofRow (.object row) = .ok d :=
      Document.ofRow_eq_ok_iff.mpr ⟨row, rfl, hproject, htype, rfl⟩
    refine ⟨d, List.mem_filterMap.mpr ⟨_, hrow, toOption_eq_some_iff.mpr hread⟩, ?_⟩
    exact satisfies_iff.mpr ⟨rfl, rfl, (isRejected_eq_false_iff rfl).mpr hrejected⟩

theorem DocumentType.any_ofRow_iff {v : Json} {key : Key .documentType} :
    ((DocumentType.ofRow v).toOption.any fun t => t.key == key) = true ↔
      ∃ row, v = .object row ∧ Row.KeyText row .documentType key.text := by
  simp only [Option.any_eq_true, toOption_eq_some_iff, beq_iff_eq]
  constructor
  · rintro ⟨t, hread, rfl⟩
    obtain ⟨row, hv, hkey, -⟩ := DocumentType.ofRow_eq_ok_iff.mp hread
    exact ⟨row, hv, hkey⟩
  · rintro ⟨row, rfl, hkey⟩
    exact ⟨⟨key, Row.text? row "display_name"⟩,
      DocumentType.ofRow_eq_ok_iff.mpr ⟨row, rfl, hkey, rfl⟩, rfl⟩

theorem DocumentType.named_displayName? (rows : List Json) (key : Key .documentType) :
    Named rows key (Checklist.displayName?
      (rows.filterMap fun row => (DocumentType.ofRow row).toOption) key) := by
  rw [Checklist.displayName?, List.find?_filterMap]
  cases hfind : rows.find? fun v =>
      (DocumentType.ofRow v).toOption.any fun t => t.key == key with
  | none =>
      refine .inr ⟨rfl, ?_⟩
      intro row hrow hkey
      exact List.find?_eq_none.mp hfind _ hrow (any_ofRow_iff.mpr ⟨row, rfl, hkey⟩)
  | some v =>
      obtain ⟨hv, before, after, rfl, hbefore⟩ := List.find?_eq_some_iff_append.mp hfind
      obtain ⟨row, rfl, hkey⟩ := any_ofRow_iff.mp hv
      refine .inl ⟨before, row, after, rfl, hkey, ?_, ?_⟩
      · have hread : DocumentType.ofRow (.object row) =
            .ok ⟨key, Row.text? row "display_name"⟩ :=
          DocumentType.ofRow_eq_ok_iff.mpr ⟨row, rfl, hkey, rfl⟩
        rw [Option.bind_some, hread]
        rfl
      · intro earlier hearlier hother
        have hskipped := hbefore _ hearlier
        rw [any_ofRow_iff.mpr ⟨earlier, rfl, hother⟩] at hskipped
        cases hskipped

theorem Requirement.isListedFor_and_appliesTo_iff {r : Requirement} {query : Query}
    {attributes : Object} :
    (r.isListedFor query.jurisdiction query.permitType && r.appliesTo attributes) = true ↔
      r.active = true ∧ r.jurisdiction = query.jurisdiction ∧ r.permitType = query.permitType ∧
        r.rule.evaluate attributes = true := by
  simp [isListedFor, appliesTo, and_assoc]

theorem Requirement.demanded_iff {v : Json} {query : Query} {attributes : Object} :
    (∃ row, v = .object row ∧ Demanded row query attributes) ↔
      ∃ r, (Requirement.ofRow v).toOption = some r ∧
        (r.isListedFor query.jurisdiction query.permitType && r.appliesTo attributes) = true := by
  simp only [toOption_eq_some_iff, isListedFor_and_appliesTo_iff]
  constructor
  · rintro ⟨row, rfl, hjurisdiction, hpermit, ⟨text, column, cell, hfirst, hcell⟩, hactive,
      source, hsource, happlies⟩
    obtain ⟨key, rfl⟩ := hcell.exists_key .documentType
    let r : Requirement :=
      { jurisdiction := query.jurisdiction, permitType := query.permitType, documentType := key
        active := true, source, rule := .ofSource source, extra := Fields.erase row ownColumns }
    have hread : Requirement.ofRow (.object row) = .ok r :=
      Requirement.ofRow_eq_ok_iff.mpr ⟨row, rfl, hjurisdiction, hpermit,
        ⟨column, cell, hfirst, hcell⟩, hactive.symm, (sourceOfRow_eq_iff.mpr hsource).symm, rfl,
        rfl⟩
    exact ⟨r, hread, rfl, rfl, rfl, happlies⟩
  · rintro ⟨r, hread, hlisted, hjurisdiction, hpermit, happlies⟩
    obtain ⟨row, hv, hrowJurisdiction, hrowPermit, hrowType, hactive, hsource, hrule, -⟩ :=
      Requirement.ofRow_eq_ok_iff.mp hread
    refine ⟨row, hv, hjurisdiction ▸ hrowJurisdiction, hpermit ▸ hrowPermit, ⟨_, hrowType⟩,
      hactive ▸ hlisted, r.source, sourceOfRow_eq_iff.mp hsource.symm, ?_⟩
    rw [Source.evaluate, ← hrule]
    exact happlies

theorem Checklist.entry_shows {sections : Object} {query : Query} {attributes : Object} {v : Json}
    {r : Requirement} (hread : (Requirement.ofRow v).toOption = some r)
    (hlisted : (r.isListedFor query.jurisdiction query.permitType &&
      r.appliesTo attributes) = true) :
    ∃ row, v = .object row ∧
      (Checklist.entry (Store.readSection DocumentType.ofRow (Fields.get? sections "documentTypes"))
        (Store.readSection Document.ofRow (Fields.get? sections "documents"))
        query.project r).Shows row sections query := by
  obtain ⟨row, hv, -, -, hrowType, -, hsource, hrule, hextra⟩ :=
    Requirement.ofRow_eq_ok_iff.mp (toOption_eq_some_iff.mp hread)
  obtain ⟨hactive, hjurisdiction, hpermit, -⟩ :=
    Requirement.isListedFor_and_appliesTo_iff.mp hlisted
  refine ⟨row, hv, ?_⟩
  exact
    { jurisdiction := hjurisdiction
      permitType := hpermit
      documentType := hrowType
      active := hactive
      source := Requirement.sourceOfRow_eq_iff.mp hsource.symm
      rule := hrule
      extra := hextra
      displayName := by
        rw [Store.readSection_get?]
        exact DocumentType.named_displayName? _ _
      satisfied := Document.any_satisfies_iff }

/-- What is kept of a list after reading, filtering and showing its elements stands in the order of
the elements that it is kept of. -/
theorem forall₂_filter_filterMap {α β γ : Type} {R : α → γ → Prop} {P : α → Prop}
    [DecidablePred P] {f : α → Option β} {p : β → Bool} {g : β → γ}
    (hP : ∀ a, P a ↔ ∃ b, f a = some b ∧ p b = true)
    (hR : ∀ a b, f a = some b → p b = true → R a (g b)) (items : List α) :
    List.Forall₂ R (items.filter P) (((items.filterMap f).filter p).map g) := by
  induction items with
  | nil => exact .nil
  | cons a items ih =>
      by_cases ha : P a
      · obtain ⟨b, hb, hp⟩ := (hP a).mp ha
        rw [List.filter_cons_of_pos (p := fun a => decide (P a)) (decide_eq_true ha),
          List.filterMap_cons_some hb, List.filter_cons_of_pos hp, List.map_cons]
        exact .cons (hR a b hb hp) ih
      · rw [List.filter_cons_of_neg (by simpa using ha)]
        cases hb : f a with
        | none =>
            rw [List.filterMap_cons_none hb]
            exact ih
        | some b =>
            have hp : ¬ p b = true := fun hp => ha ((hP a).mpr ⟨b, hb, hp⟩)
            rw [List.filterMap_cons_some hb, List.filter_cons_of_neg hp]
            exact ih

open Classical in
/-- The lines of a checklist show, one for one and in their order, the rows of the catalog section
that the query demands. -/
theorem Store.checklist_supplements_of_rows (sections : Object) (query : Query) :
    List.Forall₂ (fun v entry => ∃ row, v = .object row ∧ entry.Shows row sections query)
      ((sectionRows sections "supplementalRequirements").filter fun v =>
        decide (∃ row, v = .object row ∧ Requirement.Demanded row query
          ((ofJson (.object sections)).attributesFor query.project)))
      ((ofJson (.object sections)).checklist query).supplements := by
  change List.Forall₂ _ _ ((List.filter _ (readSection Requirement.ofRow
    (Fields.get? sections "supplementalRequirements"))).map _)
  rw [readSection_get?]
  apply forall₂_filter_filterMap
  · intro v
    exact Requirement.demanded_iff
  · intro v r hread hlisted
    exact Checklist.entry_shows hread hlisted

end FilingChecklist
