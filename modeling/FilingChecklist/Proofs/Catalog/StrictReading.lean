import Mathlib.Data.List.Forall2
import FilingChecklist.Catalog.Strict
import FilingChecklist.Proofs.Catalog.Rows

namespace FilingChecklist

namespace Strict

variable {fields : Object} {spellings : List String} {kind : KeyKind}

/-- The field has a value, of which this is the key. -/
def KeyField (fields : Object) (spellings : List String) (key : Key kind) : Prop :=
  ∃ v, value? fields spellings = some (some v) ∧ key? v = some key

/-- The field has this text, or it is null or missing for `none`. -/
def OptionalTextField (fields : Object) (spellings : List String) (text : Option String) : Prop :=
  ∃ v, value? fields spellings = some v ∧ optionalText? v = some text

def TextField (fields : Object) (spellings : List String) (text : String) : Prop :=
  value? fields spellings = some (some (.string text))

theorem key?_eq_some_iff {v : Json} {key : Key kind} :
    key? v = some key ↔ ∃ s, v = .string s ∧ key.text = Text.trimmed s := by
  cases v with
  | string s => simp [key?, Key.ofText?_eq_some_iff]
  | _ => simp [key?]

theorem get?_of_value?_some {v : Json} (h : value? fields spellings = some (some v)) :
    ∃ name ∈ spellings, ∀ other ∈ spellings,
      Fields.get? fields other = if name = other then some v else none := by
  rw [value?] at h
  split at h
  · cases h
  · next entry hentry =>
      cases h
      have hmem : entry ∈ fields.filter fun e => spellings.contains e.1 := by
        rw [hentry]
        exact List.mem_singleton_self entry
      refine ⟨entry.1, List.contains_iff_mem.mp (List.mem_filter.mp hmem).2, ?_⟩
      intro other hother
      rw [← Fields.get?_filter_of_mem hother, hentry]
      rfl
  · cases h

theorem get?_of_value?_none (h : value? fields spellings = some none) :
    ∀ name ∈ spellings, Fields.get? fields name = none := by
  intro name hname
  rw [value?] at h
  split at h
  · next hempty => rw [← Fields.get?_filter_of_mem hname, hempty, Fields.get?_nil]
  · cases h
  · cases h

theorem get?_of_value?_singleton {name : String} {v : Option Json}
    (h : value? fields [name] = some v) : Fields.get? fields name = v := by
  cases v with
  | none => exact get?_of_value?_none h name (List.mem_singleton_self name)
  | some v =>
      obtain ⟨other, hother, hget⟩ := get?_of_value?_some h
      obtain rfl := List.mem_singleton.mp hother
      rw [hget other hother, if_pos rfl]

/-- A key field gives the key of a row, if its spellings are the first ones of the columns. -/
theorem KeyField.keyText {key : Key kind} {rest : List String} (h : KeyField fields spellings key)
    (hcolumns : kind.columns = spellings ++ rest) : Row.KeyText fields kind key.text := by
  obtain ⟨v, hvalue, hkey⟩ := h
  obtain ⟨s, rfl, htext⟩ := key?_eq_some_iff.mp hkey
  obtain ⟨name, hname, hget⟩ := get?_of_value?_some hvalue
  obtain ⟨before, after, rfl, hbefore⟩ := List.eq_append_cons_of_mem hname
  have hcell : Row.KeyCell (.string s) key.text := by
    rw [htext]
    exact .text s (htext ▸ key.isNonempty)
  refine ⟨name, .string s, ⟨before, after ++ rest, ?_, ?_, ⟨_, hcell⟩, ?_⟩, hcell⟩
  · rw [hcolumns, List.append_assoc, List.cons_append]
  · rw [hget name hname, if_pos rfl]
  · -- nothing stands under an earlier spelling
    intro earlier hearlier other hother
    have hne : name ≠ earlier := fun heq => hbefore (heq ▸ hearlier)
    rw [hget earlier (List.mem_append_left _ hearlier), if_neg hne] at hother
    cases hother

theorem KeyField.textKey {key : Key kind} (h : KeyField fields [kind.column] key) :
    Row.TextKey fields kind key.text := by
  obtain ⟨v, hvalue, hkey⟩ := h
  obtain ⟨s, rfl, htext⟩ := key?_eq_some_iff.mp hkey
  exact ⟨s, get?_of_value?_singleton hvalue, htext⟩

theorem OptionalTextField.text? {name : String} {text : Option String}
    (h : OptionalTextField fields [name] text) : Row.text? fields name = text := by
  obtain ⟨v, hvalue, htext⟩ := h
  rw [Row.text?, get?_of_value?_singleton hvalue]
  cases v with
  | none => exact Option.some.inj htext
  | some v =>
      cases v with
      | null => exact Option.some.inj htext
      | string s => exact Option.some.inj htext
      | _ => cases htext

theorem values?_object_eq_some_iff {schema : List (List String)} {vs : List (Option Json)} :
    values? schema (.object fields) = some vs ↔
      List.Forall₂ (fun spellings v => value? fields spellings = some v) schema vs := by
  rw [values?]
  induction schema generalizing vs with
  | nil => simp [eq_comm]
  | cons spellings rest ih =>
      simp only [List.mapM_cons, Option.bind_eq_bind, Option.bind_eq_some_iff, ih,
        Option.pure_def, Option.some.injEq, List.forall₂_cons_left_iff]
      constructor
      · rintro ⟨v, hv, others, hothers, rfl⟩
        exact ⟨v, others, hv, hothers, rfl⟩
      · rintro ⟨v, others, hv, hothers, rfl⟩
        exact ⟨v, hv, others, hothers, rfl⟩

theorem documentType?_eq_some_iff {t : DocumentType} :
    documentType? (.object fields) = some t ↔
      KeyField fields ["doc_type_key", "document_type_key"] t.key ∧
      OptionalTextField fields ["display_name"] t.displayName := by
  simp only [documentType?, Option.bind_eq_bind, Option.bind_eq_some_iff,
    values?_object_eq_some_iff, documentTypeSchema]
  constructor
  · rintro ⟨_, _ | ⟨hkey, _ | ⟨hname, _ | _⟩⟩, hread⟩
    simp only [Option.bind_eq_some_iff] at hread
    obtain ⟨v, rfl, key, hv, name, htext, ⟨⟩⟩ := hread
    exact ⟨⟨v, hkey, hv⟩, _, hname, htext⟩
  · rintro ⟨⟨v, hkey, hv⟩, w, hname, htext⟩
    refine ⟨[some v, w], .cons hkey (.cons hname .nil), ?_⟩
    simp [hv, htext]

theorem document?_eq_some_iff {d : Document} :
    document? (.object fields) = some d ↔
      KeyField fields ["project_id"] d.project ∧
      KeyField fields ["doc_type_key", "document_type_key"] d.documentType ∧
      OptionalTextField fields ["status"] (d.status.map DocumentStatus.text) := by
  simp only [document?, Option.bind_eq_bind, Option.bind_eq_some_iff, values?_object_eq_some_iff,
    documentSchema]
  constructor
  · rintro ⟨_, _ | ⟨hproject, _ | ⟨hkey, _ | ⟨hstatus, _ | _⟩⟩⟩, hread⟩
    simp only [Option.bind_eq_some_iff] at hread
    obtain ⟨u, rfl, project, hu, v, rfl, key, hv, text, htext, ⟨⟩⟩ := hread
    -- the wrapped status has the text that was read
    refine ⟨⟨u, hproject, hu⟩, ⟨v, hkey, hv⟩, _, hstatus, ?_⟩
    rw [htext]
    cases text <;> rfl
  · rintro ⟨⟨u, hproject, hu⟩, ⟨v, hkey, hv⟩, w, hstatus, htext⟩
    refine ⟨[some u, some v, w], .cons hproject (.cons hkey (.cons hstatus .nil)), ?_⟩
    simp only [Option.bind_some, hu, hv, htext]
    obtain ⟨project, documentType, status⟩ := d
    cases status <;> rfl

theorem project?_eq_some_iff {p : Project} :
    project? (.object fields) = some p ↔
      KeyField fields ["project_id"] p.id ∧
      OptionalTextField fields ["display_name"] p.displayName ∧
      KeyField fields ["municipality_key", "jurisdiction_key"] p.jurisdiction ∧
      KeyField fields ["permit_type_key"] p.permitType ∧
      TextField fields ["created_at"] p.createdAt := by
  simp only [project?, Option.bind_eq_bind, Option.bind_eq_some_iff, values?_object_eq_some_iff,
    projectSchema]
  constructor
  · rintro ⟨_, _ | ⟨hid, _ | ⟨hname, _ | ⟨hjurisdiction, _ | ⟨hpermit, _ | ⟨hcreated, _ | _⟩⟩⟩⟩⟩,
      hread⟩
    simp only [Option.bind_eq_some_iff, Json.string?_eq_some_iff] at hread
    obtain ⟨v, rfl, id, hv, name, htext, j, rfl, jurisdiction, hj, t, rfl, permitType, ht, _, rfl,
      createdAt, rfl, ⟨⟩⟩ := hread
    exact ⟨⟨v, hid, hv⟩, ⟨_, hname, htext⟩, ⟨j, hjurisdiction, hj⟩, ⟨t, hpermit, ht⟩, hcreated⟩
  · rintro ⟨⟨v, hid, hv⟩, ⟨w, hname, htext⟩, ⟨j, hjurisdiction, hj⟩, ⟨t, hpermit, ht⟩, hcreated⟩
    refine ⟨[some v, w, some j, some t, some (.string p.createdAt)],
      .cons hid (.cons hname (.cons hjurisdiction (.cons hpermit (.cons hcreated .nil)))), ?_⟩
    simp [hv, htext, hj, ht, Json.string?]

theorem ofRow_of_documentType? {t : DocumentType} (h : documentType? (.object fields) = some t) :
    DocumentType.ofRow (.object fields) = .ok t := by
  obtain ⟨hkey, hname⟩ := documentType?_eq_some_iff.mp h
  exact DocumentType.ofRow_eq_ok_iff.mpr ⟨fields, rfl, hkey.keyText rfl, hname.text?.symm⟩

theorem ofRow_of_document? {d : Document} (h : document? (.object fields) = some d) :
    Document.ofRow (.object fields) = .ok d := by
  obtain ⟨hproject, hkey, hstatus⟩ := document?_eq_some_iff.mp h
  refine Document.ofRow_eq_ok_iff.mpr
    ⟨fields, rfl, hproject.keyText rfl, hkey.keyText rfl, ?_⟩
  rw [hstatus.text?]
  cases d.status <;> rfl

theorem KeyField.textKey_or_missing {key : Key .jurisdiction}
    (h : KeyField fields ["municipality_key", "jurisdiction_key"] key) :
    "jurisdiction_key" ∉ Fields.keys fields ∧ Row.TextKey fields .jurisdiction key.text ∨
      "jurisdiction_key" ∈ Fields.keys fields ∧ Fields.get? fields "municipality_key" = none := by
  obtain ⟨v, hvalue, hkey⟩ := h
  obtain ⟨s, rfl, htext⟩ := key?_eq_some_iff.mp hkey
  obtain ⟨name, hname, hget⟩ := get?_of_value?_some hvalue
  have hwritten := hget "municipality_key" (by decide)
  have hsecond : "jurisdiction_key" ∈ Fields.keys fields ↔ name = "jurisdiction_key" := by
    rw [← not_iff_not, ← Fields.get?_eq_none_iff, hget "jurisdiction_key" (by decide)]
    simp
  rw [hsecond]
  rcases List.mem_cons.mp hname with rfl | hname
  · exact .inl ⟨by decide, s, hwritten, htext⟩
  · obtain rfl := List.mem_singleton.mp hname
    exact .inr ⟨rfl, hwritten⟩

/-- The row reader knows the jurisdiction of a project only by its first spelling. -/
theorem ofRow_of_project? {p : Project} (h : project? (.object fields) = some p) :
    Project.ofRow (.object fields) =
      if "jurisdiction_key" ∈ Fields.keys fields then .error (.missingField "municipality_key")
      else .ok p := by
  obtain ⟨hid, hname, hjurisdiction, hpermit, hcreated⟩ := project?_eq_some_iff.mp h
  rcases hjurisdiction.textKey_or_missing with ⟨hsecond, hwritten⟩ | ⟨hsecond, hmissing⟩
  · rw [if_neg hsecond, Project.ofRow_eq_ok_iff]
    exact ⟨fields, rfl, hid.textKey, hwritten, hpermit.textKey,
      get?_of_value?_singleton hcreated, hname.text?.symm⟩
  · have hproject : Row.textKey fields .project = .ok p.id :=
      Row.textKey_eq_ok_iff.mpr hid.textKey
    have hfails : (Row.textKey fields .jurisdiction : Except RowError (Key .jurisdiction)) =
        .error (.missingField "municipality_key") := by
      rw [Row.textKey, Row.text?, KeyKind.column, hmissing]
      rfl
    rw [if_pos hsecond, Project.ofRow, Row.object]
    simp only [bind, Except.bind, hproject, hfails]

/-- What the strict readers accept, the row readers accept as the same records. A project whose
jurisdiction is in its second spelling is the exception: its row is refused for lack of the first.
-/
theorem ofRow_of_strict (fields : Object) :
    (∀ t, documentType? (.object fields) = some t → DocumentType.ofRow (.object fields) = .ok t) ∧
    (∀ d, document? (.object fields) = some d → Document.ofRow (.object fields) = .ok d) ∧
    ∀ p, project? (.object fields) = some p →
      Project.ofRow (.object fields) =
        if "jurisdiction_key" ∈ Fields.keys fields then .error (.missingField "municipality_key")
        else .ok p :=
  ⟨fun _ => ofRow_of_documentType?, fun _ => ofRow_of_document?, fun _ => ofRow_of_project?⟩

theorem ofRow_of_strict_padded :
    let plan : Object := [("display_name", .null), ("document_type_key", .string " plan ")]
    let upload : Object := [("document_type_key", .string "plan"), ("pages", .bool true),
      ("project_id", .string "p-1\n"), ("status", .string " received ")]
    let house : Object := [("created_at", .string ""), ("display_name", .string "House"),
      ("municipality_key", .string " marin"), ("permit_type_key", .string "solar"),
      ("project_id", .string "p-1")]
    (∃ t, documentType? (.object plan) = some t ∧ DocumentType.ofRow (.object plan) = .ok t) ∧
      (∃ d, document? (.object upload) = some d ∧ Document.ofRow (.object upload) = .ok d) ∧
      ∃ p, project? (.object house) = some p ∧ Project.ofRow (.object house) = .ok p := by
  intro plan upload house
  refine ⟨⟨_, rfl, (ofRow_of_strict plan).1 _ rfl⟩, ⟨_, rfl, (ofRow_of_strict upload).2.1 _ rfl⟩,
    _, rfl, ?_⟩
  exact ((ofRow_of_strict house).2.2 _ rfl).trans (if_neg (by decide))

/-- The strict reader accepts this project, and the row reader refuses it. -/
theorem ofRow_of_strict_second_spelling :
    let house : Object := [("created_at", .string "2026-01-05"),
      ("jurisdiction_key", .string "marin"), ("permit_type_key", .string "solar"),
      ("project_id", .string "p-1")]
    ∃ p, project? (.object house) = some p ∧ Project.ofRow (.object house) ≠ .ok p ∧
      Project.ofRow (.object house) = .error (.missingField "municipality_key") := by
  intro house
  have hrow : Project.ofRow (.object house) = .error (.missingField "municipality_key") := rfl
  refine ⟨_, rfl, ?_, hrow⟩
  rw [hrow]
  nofun

end Strict

end FilingChecklist
