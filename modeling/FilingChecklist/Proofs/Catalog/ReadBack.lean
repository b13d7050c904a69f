import FilingChecklist.Proofs.Catalog.Columns
import FilingChecklist.Proofs.Catalog.StrictReading

namespace FilingChecklist

/-- The same fields stand in an object, in any order. -/
inductive Json.Reordered : Json → Json → Prop
  | object {fields others : Object} (h : fields.Perm others) :
      Reordered (.object fields) (.object others)

theorem Json.reordered_of_ofList {fields others : Object} (hnodup : (Fields.keys fields).Nodup)
    (hothers : Fields.ofList fields = others) : Reordered (.object fields) (.object others) :=
  ⟨hothers ▸ Fields.perm_ofList hnodup⟩

namespace Strict

variable {fields others : Object}

theorem value?_of_perm (h : fields.Perm others) (spellings : List String) :
    value? others spellings = value? fields spellings := by
  have hfilter := h.filter fun entry => spellings.contains entry.1
  rw [value?, value?]
  generalize (fields.filter fun entry => spellings.contains entry.1) = found at hfilter
  generalize (others.filter fun entry => spellings.contains entry.1) = others at hfilter
  have hlength := hfilter.length_eq
  rcases found with _ | ⟨entry, _ | ⟨second, rest⟩⟩
  · rw [List.nil_perm.mp hfilter]
  · rw [List.singleton_perm.mp hfilter]
  · rcases others with _ | ⟨_, _ | _⟩
    · simp at hlength
    · simp at hlength
    · rfl

theorem values?_of_perm (h : fields.Perm others) (schema : List (List String)) :
    values? schema (.object others) = values? schema (.object fields) := by
  have hvalue : value? others = value? fields := funext (value?_of_perm h)
  rw [values?, values?, hvalue]

theorem optionalText?_textOrNull (s : Option String) :
    optionalText? (some (textOrNull s)) = some s := by
  cases s <;> rfl

theorem key?_text {kind : KeyKind} (key : Key kind) : key? (.string key.text) = some key :=
  Key.ofText?_text key

end Strict

theorem Row.text?_of_get? {row : Object} {column : String} {s : Option String}
    (h : Fields.get? row column = some (textOrNull s)) : Row.text? row column = s := by
  rw [Row.text?, h]
  cases s <;> rfl

theorem Row.textKey_of_get? {row : Object} {kind : KeyKind} {key : Key kind}
    (h : Fields.get? row kind.column = some (.string key.text)) : TextKey row kind key.text :=
  ⟨key.text, h, key.isTrimmed.symm⟩

theorem DocumentType.readers_of_reordered {t : DocumentType} {v : Json}
    (h : t.toJson.Reordered v) :
    DocumentType.ofRow v = .ok t ∧ Strict.documentType? v = some t := by
  obtain ⟨hperm⟩ := h
  have hnodup : ["doc_type_key", "display_name"].Nodup := by decide
  have hget := Fields.get?_of_perm (by exact hnodup) hperm
  constructor
  · refine DocumentType.ofRow_eq_ok_iff.mpr ⟨_, rfl, ?_, ?_⟩
    · exact Row.keyText_of_get? (hget "doc_type_key")
    · exact (Row.text?_of_get? (hget "display_name")).symm
  · rw [Strict.documentType?, Strict.values?_of_perm hperm, ← Strict.documentType?]
    exact Strict.documentType?_eq_some_iff.mpr
      ⟨⟨_, rfl, Strict.key?_text t.key⟩, _, rfl, Strict.optionalText?_textOrNull _⟩

theorem Document.readers_of_reordered {d : Document} {v : Json} (h : d.toJson.Reordered v) :
    Document.ofRow v = .ok d ∧ Strict.document? v = some d := by
  obtain ⟨hperm⟩ := h
  have hnodup : ["project_id", "doc_type_key", "status"].Nodup := by decide
  have hget := Fields.get?_of_perm (by exact hnodup) hperm
  constructor
  · refine Document.ofRow_eq_ok_iff.mpr ⟨_, rfl, ?_, ?_, ?_⟩
    · exact Row.keyText_of_get? (hget "project_id")
    · exact Row.keyText_of_get? (hget "doc_type_key")
    · rw [Row.text?_of_get? (hget "status")]
      cases d.status <;> rfl
  · rw [Strict.document?, Strict.values?_of_perm hperm, ← Strict.document?]
    exact Strict.document?_eq_some_iff.mpr
      ⟨⟨_, rfl, Strict.key?_text d.project⟩, ⟨_, rfl, Strict.key?_text d.documentType⟩,
        _, rfl, Strict.optionalText?_textOrNull _⟩

theorem Project.readers_of_reordered {p : Project} {v : Json} (h : p.toJson.Reordered v) :
    Project.ofRow v = .ok p ∧ Strict.project? v = some p := by
  obtain ⟨hperm⟩ := h
  have hnodup : ["project_id", "display_name", "municipality_key", "permit_type_key",
    "created_at"].Nodup := by decide
  have hget := Fields.get?_of_perm (by exact hnodup) hperm
  constructor
  · refine Project.ofRow_eq_ok_iff.mpr ⟨_, rfl, ?_, ?_, ?_, ?_, ?_⟩
    · exact Row.textKey_of_get? (hget "project_id")
    · exact Row.textKey_of_get? (hget "municipality_key")
    · exact Row.textKey_of_get? (hget "permit_type_key")
    · exact hget "created_at"
    · exact (Row.text?_of_get? (hget "display_name")).symm
  · rw [Strict.project?, Strict.values?_of_perm hperm, ← Strict.project?]
    exact Strict.project?_eq_some_iff.mpr
      ⟨⟨_, rfl, Strict.key?_text p.id⟩, ⟨_, rfl, Strict.optionalText?_textOrNull _⟩,
        ⟨_, rfl, Strict.key?_text p.jurisdiction⟩, ⟨_, rfl, Strict.key?_text p.permitType⟩, rfl⟩

/-- What a record is written as, with its fields in any order, both readers read as the record. -/
theorem readers_toJson :
    (∀ (t : DocumentType) (v : Json), t.toJson.Reordered v →
      DocumentType.ofRow v = .ok t ∧ Strict.documentType? v = some t) ∧
    (∀ (d : Document) (v : Json), d.toJson.Reordered v →
      Document.ofRow v = .ok d ∧ Strict.document? v = some d) ∧
    ∀ (p : Project) (v : Json), p.toJson.Reordered v →
      Project.ofRow v = .ok p ∧ Strict.project? v = some p :=
  ⟨fun _ _ => DocumentType.readers_of_reordered, fun _ _ => Document.readers_of_reordered,
    fun _ _ => Project.readers_of_reordered⟩

theorem readers_toJson_column_order :
    let house : Project :=
      { id := ⟨"p-1", by decide, by decide⟩
        displayName := some " "
        jurisdiction := ⟨"marin", by decide, by decide⟩
        permitType := ⟨"solar", by decide, by decide⟩
        createdAt := "" }
    let upload : Document :=
      { project := ⟨"p-1", by decide, by decide⟩
        documentType := ⟨"plan", by decide, by decide⟩
        status := some ⟨" Rejected\n"⟩ }
    let plan : DocumentType := ⟨⟨"plan", by decide, by decide⟩, none⟩
    let houseRow : Json := .object [("created_at", .string ""), ("display_name", .string " "),
      ("municipality_key", .string "marin"), ("permit_type_key", .string "solar"),
      ("project_id", .string "p-1")]
    let uploadRow : Json := .object [("doc_type_key", .string "plan"),
      ("project_id", .string "p-1"), ("status", .string " Rejected\n")]
    let planRow : Json := .object [("display_name", .null), ("doc_type_key", .string "plan")]
    (house.toJson.Reordered houseRow ∧
      Project.ofRow houseRow = .ok house ∧ Strict.project? houseRow = some house) ∧
    (upload.toJson.Reordered uploadRow ∧
      Document.ofRow uploadRow = .ok upload ∧ Strict.document? uploadRow = some upload) ∧
    (plan.toJson.Reordered planRow ∧
      DocumentType.ofRow planRow = .ok plan ∧ Strict.documentType? planRow = some plan) := by
  intro house upload plan houseRow uploadRow planRow
  have hhouse : house.toJson.Reordered houseRow :=
    Json.reordered_of_ofList (by decide) (by dsimp only [house]; rfl)
  have hupload : upload.toJson.Reordered uploadRow :=
    Json.reordered_of_ofList (by decide) (by dsimp only [upload]; rfl)
  have hplan : plan.toJson.Reordered planRow :=
    Json.reordered_of_ofList (by decide) (by dsimp only [plan]; rfl)
  exact ⟨⟨hhouse, readers_toJson.2.2 house houseRow hhouse⟩,
    ⟨hupload, readers_toJson.2.1 upload uploadRow hupload⟩,
    ⟨hplan, readers_toJson.1 plan planRow hplan⟩⟩

end FilingChecklist
