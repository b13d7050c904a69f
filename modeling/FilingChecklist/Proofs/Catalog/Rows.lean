import FilingChecklist.Catalog.Record
import FilingChecklist.Catalog.Requirement
import FilingChecklist.Proofs.Decimal.Characters
import FilingChecklist.Proofs.Fields

namespace FilingChecklist

theorem bind_eq_ok_iff {ε α β : Type} {x : Except ε α} {f : α → Except ε β} {b : β} :
    x >>= f = .ok b ↔ ∃ a, x = .ok a ∧ f a = .ok b := by
  cases x with
  | error e => simp [bind, Except.bind]
  | ok a => simp [bind, Except.bind]

theorem mapError_eq_ok_iff {ε δ α : Type} {x : Except ε α} {f : ε → δ} {a : α} :
    x.mapError f = .ok a ↔ x = .ok a := by
  cases x with
  | error e => simp [Except.mapError]
  | ok b => simp [Except.mapError]

namespace Row

/-- The text of a usable key cell: a text that is not blank gives its trimmed text, and a number
what it is written as. -/
inductive KeyCell : Json → String → Prop
  | text (s : String) (hblank : Text.trimmed s ≠ "") : KeyCell (.string s) (Text.trimmed s)
  | number (n : Json.Number) : KeyCell (.number n) n.text

theorem keyOfCell?_eq_some_iff {kind : KeyKind} {cell : Json} {key : Key kind} :
    keyOfCell? cell = some key ↔ KeyCell cell key.text := by
  constructor
  · intro h
    cases cell with
    | string s =>
        rw [keyOfCell?] at h
        have htext := Key.ofText?_eq_some_iff.mp h
        rw [htext]
        exact .text s (htext ▸ key.isNonempty)
    | number n =>
        rw [keyOfCell?] at h
        rw [Key.ofText?_eq_some_iff.mp h, n.trimmed_text]
        exact .number n
    | _ => cases h
  · intro h
    generalize htext : key.text = text at h
    cases h with
    | text s hblank =>
        rw [keyOfCell?]
        exact Key.ofText?_eq_some_iff.mpr htext
    | number n =>
        rw [keyOfCell?]
        exact Key.ofText?_eq_some_iff.mpr (htext.trans n.trimmed_text.symm)

theorem KeyCell.exists_key {cell : Json} {text : String} (h : KeyCell cell text)
    (kind : KeyKind) : ∃ key : Key kind, key.text = text := by
  cases h with
  | text s hblank => exact ⟨⟨_, Text.trimmed_trimmed s, hblank⟩, rfl⟩
  | number n => exact ⟨⟨_, n.trimmed_text, n.text_ne_empty⟩, rfl⟩

theorem isSome_keyOfCell?_iff {kind : KeyKind} {cell : Json} :
    (keyOfCell? cell : Option (Key kind)).isSome ↔ ∃ text, KeyCell cell text := by
  constructor
  · intro h
    obtain ⟨key, hkey⟩ := Option.isSome_iff_exists.mp h
    exact ⟨key.text, keyOfCell?_eq_some_iff.mp hkey⟩
  · rintro ⟨text, h⟩
    obtain ⟨key, rfl⟩ := h.exists_key kind
    exact Option.isSome_iff_exists.mpr ⟨key, keyOfCell?_eq_some_iff.mpr h⟩

/-- The first usable key cell under the columns of a kind gives this text. -/
def KeyText (row : Object) (kind : KeyKind) (text : String) : Prop :=
  ∃ column cell, Fields.First row kind.columns (fun v => ∃ t, KeyCell v t) column cell ∧
    KeyCell cell text

theorem key_eq_ok_iff {row : Object} {kind : KeyKind} {key : Key kind} :
    Row.key row kind = .ok key ↔ KeyText row kind key.text := by
  have hfirst : Row.key row kind = .ok key ↔
      Fields.first? row kind.columns keyOfCell? = some key := by
    rw [Row.key]
    cases (Fields.first? row kind.columns keyOfCell? : Option (Key kind)) with
    | none => simp
    | some found => simp
  rw [hfirst, Fields.first?_eq_some_iff]
  simp only [KeyText, isSome_keyOfCell?_iff, keyOfCell?_eq_some_iff]

theorem text?_eq_some_iff {row : Object} {column s : String} :
    Row.text? row column = some s ↔ Fields.get? row column = some (.string s) := by
  simp only [Row.text?, Option.bind_eq_some_iff, Json.string?_eq_some_iff, exists_eq_right]

theorem text_eq_ok_iff {row : Object} {column s : String} :
    Row.text row column = .ok s ↔ Fields.get? row column = some (.string s) := by
  rw [Row.text, ← text?_eq_some_iff]
  cases Row.text? row column with
  | none => simp
  | some found => simp

/-- The column in which a key of the kind is written holds a text that trims to this one. -/
def TextKey (row : Object) (kind : KeyKind) (text : String) : Prop :=
  ∃ s, Fields.get? row kind.column = some (.string s) ∧ text = Text.trimmed s

theorem textKey_eq_ok_iff {row : Object} {kind : KeyKind} {key : Key kind} :
    Row.textKey row kind = .ok key ↔ TextKey row kind key.text := by
  have hbind : Row.textKey row kind = .ok key ↔
      (Row.text? row kind.column).bind Key.ofText? = some key := by
    rw [Row.textKey]
    cases ((Row.text? row kind.column).bind Key.ofText? : Option (Key kind)) with
    | none => simp
    | some found => simp
  rw [hbind, Option.bind_eq_some_iff]
  simp only [text?_eq_some_iff, Key.ofText?_eq_some_iff, TextKey]

theorem object_eq_ok_iff {row : Json} {fields : Object} :
    Row.object row = .ok fields ↔ row = .object fields := by
  cases row with
  | object entries => simp [Row.object]
  | _ => simp [Row.object]

end Row

theorem Json.isSome_nonNull?_iff {v : Json} : v.nonNull?.isSome ↔ v ≠ .null := by
  cases v <;> simp [nonNull?, isNull]

theorem Json.eq_of_nonNull?_eq_some {v w : Json} (h : v.nonNull? = some w) : v = w := by
  rw [nonNull?] at h
  split at h
  · cases h
  · exact Option.some.inj h

namespace Requirement

/-- What the first rule column that is not null holds, or null if there is none. -/
def RuleCell (row : Object) (source : Json) : Prop :=
  (∃ column, Fields.First row ruleColumns (· ≠ .null) column source) ∨
    source = .null ∧
      ∀ column ∈ ruleColumns, ∀ cell, Fields.get? row column = some cell → cell = .null

theorem first?_nonNull?_iff {row : Object} {source : Json} :
    Fields.first? row ruleColumns Json.nonNull? = some source ↔
      ∃ column, Fields.First row ruleColumns (· ≠ .null) column source := by
  rw [Fields.first?_eq_some_iff]
  simp only [Json.isSome_nonNull?_iff]
  constructor
  · rintro ⟨column, cell, hfirst, hcell⟩
    exact ⟨column, Json.eq_of_nonNull?_eq_some hcell ▸ hfirst⟩
  · rintro ⟨column, hfirst⟩
    obtain ⟨w, hw⟩ := Option.isSome_iff_exists.mp (Json.isSome_nonNull?_iff.mpr hfirst.usable)
    exact ⟨column, source, hfirst, Json.eq_of_nonNull?_eq_some hw ▸ hw⟩

theorem first?_nonNull?_eq_none_iff {row : Object} :
    Fields.first? row ruleColumns Json.nonNull? = none ↔
      ∀ column ∈ ruleColumns, ∀ cell, Fields.get? row column = some cell → cell = .null := by
  have hcell (v : Json) : v.nonNull? = none ↔ v = .null := by
    cases v <;> simp [Json.nonNull?, Json.isNull]
  simp only [Fields.first?, List.findSome?_eq_none_iff, Option.bind_eq_none_iff, hcell]

theorem sourceOfRow_eq_iff {row : Object} {source : Json} :
    sourceOfRow row = source ↔ RuleCell row source := by
  rw [sourceOfRow, RuleCell, ← first?_nonNull?_iff, ← first?_nonNull?_eq_none_iff]
  cases Fields.first? row ruleColumns Json.nonNull? with
  | none => simp [eq_comm]
  | some found => simp

end Requirement

theorem Requirement.ofRow_eq_ok_iff {row : Json} {r : Requirement} :
    Requirement.ofRow row = .ok r ↔ ∃ fields, row = .object fields ∧
      Row.KeyText fields .jurisdiction r.jurisdiction.text ∧
      Row.KeyText fields .permitType r.permitType.text ∧
      Row.KeyText fields .documentType r.documentType.text ∧
      r.active = Row.isActive (Fields.get? fields "active") ∧
      r.source = sourceOfRow fields ∧ r.rule = .ofSource r.source ∧
      r.extra = Fields.erase fields ownColumns := by
  simp only [ofRow, bind_eq_ok_iff, Row.object_eq_ok_iff, ← Row.key_eq_ok_iff]
  constructor
  · rintro ⟨fields, hrow, jurisdiction, hjurisdiction, permitType, hpermit, documentType, htype, hr⟩
    cases hr
    exact ⟨fields, hrow, hjurisdiction, hpermit, htype, rfl, rfl, rfl, rfl⟩
  · rintro ⟨fields, hrow, hjurisdiction, hpermit, htype, hactive, hsource, hrule, hextra⟩
    refine ⟨fields, hrow, _, hjurisdiction, _, hpermit, _, htype, ?_⟩
    obtain ⟨jurisdiction, permitType, documentType, active, source, rule, extra⟩ := r
    simp only at hactive hsource hrule hextra
    subst hactive hsource hrule hextra
    rfl

theorem DocumentType.ofRow_eq_ok_iff {row : Json} {t : DocumentType} :
    DocumentType.ofRow row = .ok t ↔ ∃ fields, row = .object fields ∧
      Row.KeyText fields .documentType t.key.text ∧
      t.displayName = Row.text? fields "display_name" := by
  simp only [ofRow, bind_eq_ok_iff, Row.object_eq_ok_iff, ← Row.key_eq_ok_iff]
  constructor
  · rintro ⟨fields, hrow, key, hkey, ht⟩
    cases ht
    exact ⟨fields, hrow, hkey, rfl⟩
  · rintro ⟨fields, hrow, hkey, hname⟩
    obtain ⟨key, displayName⟩ := t
    simp only at hname
    subst hname
    exact ⟨fields, hrow, key, hkey, rfl⟩

theorem Document.ofRow_eq_ok_iff {row : Json} {d : Document} :
    Document.ofRow row = .ok d ↔ ∃ fields, row = .object fields ∧
      Row.KeyText fields .project d.project.text ∧
      Row.KeyText fields .documentType d.documentType.text ∧
      d.status = (Row.text? fields "status").map .mk := by
  simp only [ofRow, bind_eq_ok_iff, Row.object_eq_ok_iff, ← Row.key_eq_ok_iff]
  constructor
  · rintro ⟨fields, hrow, project, hproject, documentType, htype, hd⟩
    cases hd
    exact ⟨fields, hrow, hproject, htype, rfl⟩
  · rintro ⟨fields, hrow, hproject, htype, hstatus⟩
    obtain ⟨project, documentType, status⟩ := d
    simp only at hstatus
    subst hstatus
    exact ⟨fields, hrow, project, hproject, documentType, htype, rfl⟩

theorem Project.ofRow_eq_ok_iff {row : Json} {p : Project} :
    Project.ofRow row = .ok p ↔ ∃ fields, row = .object fields ∧
      Row.TextKey fields .project p.id.text ∧
      Row.TextKey fields .jurisdiction p.jurisdiction.text ∧
      Row.TextKey fields .permitType p.permitType.text ∧
      Fields.get? fields "created_at" = some (.string p.createdAt) ∧
      p.displayName = Row.text? fields "display_name" := by
  simp only [ofRow, bind_eq_ok_iff, Row.object_eq_ok_iff, Row.textKey_eq_ok_iff,
    Row.text_eq_ok_iff]
  constructor
  · rintro ⟨fields, hrow, id, hid, jurisdiction, hjurisdiction, permitType, hpermit, createdAt,
      hcreated, hp⟩
    cases hp
    exact ⟨fields, hrow, hid, hjurisdiction, hpermit, hcreated, rfl⟩
  · rintro ⟨fields, hrow, hid, hjurisdiction, hpermit, hcreated, hname⟩
    refine ⟨fields, hrow, _, hid, _, hjurisdiction, _, hpermit, _, hcreated, ?_⟩
    rw [← hname]
    rfl

end FilingChecklist
