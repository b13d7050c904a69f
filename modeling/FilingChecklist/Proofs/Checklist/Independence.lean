import FilingChecklist.Proofs.Checklist.Composition

namespace FilingChecklist

namespace Store

/-- The requirements for the jurisdiction and the permit type of a query, in catalog order. -/
def listed (store : Store) (query : Query) : List Requirement :=
  store.requirements.filter fun r => r.isListedFor query.jurisdiction query.permitType

/-- A document of the type has been handed in for the project and has not been rejected. -/
def Delivered (store : Store) (project : Key .project) (documentType : Key .documentType) : Prop :=
  ∃ d ∈ store.documents, d.documentType = documentType ∧ d.project = project ∧ d.isRejected = false

/-- Two stores agree in everything that a query looks at. -/
structure AgreeOn (query : Query) (store other : Store) : Prop where
  listed : store.listed query = other.listed query
  displayName : ∀ r ∈ store.listed query,
    Checklist.displayName? store.documentTypes r.documentType =
      Checklist.displayName? other.documentTypes r.documentType
  delivered : ∀ documentType,
    store.Delivered query.project documentType ↔ other.Delivered query.project documentType
  attributes : store.attributesFor query.project = other.attributesFor query.project

theorem any_satisfies_iff_delivered {store : Store} {project : Key .project}
    {documentType : Key .documentType} :
    (store.documents.any fun d => d.satisfies documentType project) = true ↔
      store.Delivered project documentType := by
  simp only [List.any_eq_true, Document.satisfies_iff, Delivered]

theorem checklist_supplements (store : Store) (query : Query) :
    (store.checklist query).supplements =
      ((store.listed query).filter fun r => r.appliesTo (store.attributesFor query.project)).map
        (Checklist.entry store.documentTypes store.documents query.project) := by
  rw [listed, List.filter_filter]
  simp only [checklist, compose, Checklist.compose, Checklist.applicable, Bool.and_comm]

theorem AgreeOn.entry_eq {query : Query} {store other : Store} (h : AgreeOn query store other)
    {r : Requirement} (hlisted : r ∈ store.listed query) :
    Checklist.entry store.documentTypes store.documents query.project r =
      Checklist.entry other.documentTypes other.documents query.project r := by
  have hsatisfied : (store.documents.any fun d => d.satisfies r.documentType query.project) =
      other.documents.any fun d => d.satisfies r.documentType query.project := by
    rw [Bool.eq_iff_iff, any_satisfies_iff_delivered, any_satisfies_iff_delivered]
    exact h.delivered r.documentType
  rw [Checklist.entry, Checklist.entry, h.displayName r hlisted, hsatisfied]

theorem AgreeOn.checklist_eq {query : Query} {store other : Store}
    (h : AgreeOn query store other) : store.checklist query = other.checklist query := by
  have hsupplements :
      (store.checklist query).supplements = (other.checklist query).supplements := by
    rw [checklist_supplements, checklist_supplements, ← h.listed, ← h.attributes]
    apply List.map_congr_left
    intro r hr
    exact h.entry_eq (List.mem_of_mem_filter hr)
  exact congrArg Checklist.mk hsupplements

theorem agreeOn_of_same_documents {query : Query} {store : Store} {documents : List Document}
    {projects : List Project} {projectValues : Fields Object}
    (hdocuments : ∀ d : Document, d.project = query.project → d.isRejected = false →
      (d ∈ documents ↔ d ∈ store.documents))
    (hvalues : Fields.get? projectValues query.project.text =
      Fields.get? store.projectValues query.project.text) :
    AgreeOn query { store with documents, projects, projectValues } store where
  listed := rfl
  displayName _ _ := rfl
  delivered documentType := by
    constructor
    · rintro ⟨d, hd, htype, hproject, hrejected⟩
      exact ⟨d, (hdocuments d hproject hrejected).mp hd, htype, hproject, hrejected⟩
    · rintro ⟨d, hd, htype, hproject, hrejected⟩
      exact ⟨d, (hdocuments d hproject hrejected).mpr hd, htype, hproject, hrejected⟩
  attributes := by rw [attributesFor, hvalues, attributesFor]

/-- A line of a later checklist shows the same as before, and it is satisfied if it was. -/
def Keeps (entry later : Checklist.Entry) : Prop :=
  later.requirement = entry.requirement ∧ later.displayName = entry.displayName ∧
    (entry.satisfied = true → later.satisfied = true)

theorem forall₂_keeps_addDocuments (store : Store) (query : Query) (added : List Document) :
    List.Forall₂ Keeps (store.checklist query).supplements
      ({ store with documents := store.documents ++ added }.checklist query).supplements := by
  rw [checklist_supplements, checklist_supplements, List.forall₂_map_left_iff,
    List.forall₂_map_right_iff]
  refine List.forall₂_same.mpr fun r _ => ⟨rfl, rfl, ?_⟩
  intro hsatisfied
  exact List.any_append.trans (Bool.or_eq_true_iff.mpr (.inl hsatisfied))

/-- Stores that agree in what a query looks at give it one checklist. With one more document the
same requirements are listed, and what was satisfied stays so. -/
theorem checklist_eq_of_agreeOn (query : Query) :
    (∀ store other : Store, AgreeOn query store other →
      store.checklist query = other.checklist query) ∧
    (∀ (store : Store) (documents : List Document) (projects : List Project)
      (projectValues : Fields Object),
      (∀ d : Document, d.project = query.project → d.isRejected = false →
        (d ∈ documents ↔ d ∈ store.documents)) →
      Fields.get? projectValues query.project.text =
        Fields.get? store.projectValues query.project.text →
      { store with documents, projects, projectValues }.checklist query = store.checklist query) ∧
    (∀ (store : Store) (d : Document),
      List.Forall₂ Keeps (store.checklist query).supplements
        ({ store with documents := store.documents ++ [d] }.checklist query).supplements) := by
  refine ⟨fun _ _ h => h.checklist_eq, ?_, ?_⟩
  · intro store documents projects projectValues hdocuments hvalues
    exact (agreeOn_of_same_documents hdocuments hvalues).checklist_eq
  · intro store d
    exact forall₂_keeps_addDocuments store query [d]

theorem checklist_eq_of_agreeOn_two_stores :
    let jurisdiction : Key .jurisdiction := ⟨"cumberland", by decide, by decide⟩
    let ev : Key .permitType := ⟨"ev", by decide, by decide⟩
    let solar : Key .permitType := ⟨"solar", by decide, by decide⟩
    let plan : Key .documentType := ⟨"site_plan", by decide, by decide⟩
    let first : Key .project := ⟨"p-1", by decide, by decide⟩
    let second : Key .project := ⟨"p-2", by decide, by decide⟩
    let query : Query := ⟨jurisdiction, ev, first⟩
    let requirement := Requirement.new jurisdiction ev plan (.string "amps >= 50")
    let approved : Document := ⟨first, plan, none⟩
    let rejected : Document := ⟨first, plan, some ⟨" Rejected "⟩⟩
    let foreign : Document := ⟨second, plan, none⟩
    let store : Store :=
      { empty with
        requirements := [requirement]
        documents := [approved]
        projectValues := [("p-1", [("amps", .string "60")])] }
    let other : Store :=
      { store with
        requirements := [Requirement.new jurisdiction solar plan .null, requirement]
        documents := [foreign, approved, rejected, approved] }
    AgreeOn query store other ∧ store.checklist query = other.checklist query ∧
      { store with
        documents := other.documents
        projectValues := [("p-1", [("amps", .string "60")]), ("p-2", [])] }.checklist query =
          store.checklist query := by
  intro jurisdiction ev solar plan first second query requirement approved rejected foreign store
    other
  have hcounted : ∀ d ∈ [foreign, approved, rejected, approved], d.project = first →
      d.isRejected = false → d = approved := by decide
  have hagree : AgreeOn query store other :=
    { listed := rfl
      displayName := fun _ _ => rfl
      attributes := rfl
      delivered := by
        intro documentType
        constructor
        · rintro ⟨d, hd, hd'⟩
          have hd : d = approved := List.mem_singleton.mp hd
          exact ⟨d, List.mem_cons_of_mem _ (List.mem_cons.mpr (.inl hd)), hd'⟩
        · rintro ⟨d, hd, htype, hproject, hcounts⟩
          have hd' : d = approved := hcounted d hd hproject hcounts
          exact ⟨d, List.mem_singleton.mpr hd', htype, hproject, hcounts⟩ }
  refine ⟨hagree, (checklist_eq_of_agreeOn query).1 store other hagree, ?_⟩
  refine (checklist_eq_of_agreeOn query).2.1 store other.documents store.projects _ ?_ rfl
  intro d hproject hcounts
  constructor
  · intro hd
    exact List.mem_singleton.mpr (hcounted d hd hproject hcounts)
  · intro hd
    exact List.mem_cons_of_mem _ (List.mem_cons.mpr (.inl (List.mem_singleton.mp hd)))

end Store

end FilingChecklist
