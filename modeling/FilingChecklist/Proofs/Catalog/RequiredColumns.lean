import Mathlib.Data.List.Forall2
import FilingChecklist.Proofs.Catalog.Rows

namespace FilingChecklist

/-- The text of a key cell that must be text: it is not blank, and it is trimmed. -/
inductive Row.TextKeyCell : Json → String → Prop
  | text (s : String) (hblank : Text.trimmed s ≠ "") :
      TextKeyCell (.string s) (Text.trimmed s)

/-- A column that a row must fill: the name that a refusal gives, the names under which it may
stand, and the text that a usable cell supplies. -/
structure RequiredColumn where
  name : String
  aliases : List String
  Cell : Json → String → Prop

namespace RequiredColumn

def key (kind : KeyKind) : RequiredColumn :=
  ⟨kind.column, kind.columns, Row.KeyCell⟩

def textKey (kind : KeyKind) : RequiredColumn :=
  ⟨kind.column, [kind.column], Row.TextKeyCell⟩

def text (name : String) : RequiredColumn :=
  ⟨name, [name], fun cell s => cell = .string s⟩

variable {α β : Type} {row : Object} {column : RequiredColumn} {columns : List RequiredColumn}
  {name : String}

/-- A usable cell stands under one of the names. -/
def IsFilled (row : Object) (column : RequiredColumn) : Prop :=
  ∃ name ∈ column.aliases, ∃ cell, Fields.get? row name = some cell ∧ ∃ s, column.Cell cell s

/-- The first usable cell under the names supplies this text. -/
def Supplies (row : Object) (column : RequiredColumn) (s : String) : Prop :=
  ∃ name cell, Fields.First row column.aliases (fun v => ∃ t, column.Cell v t) name cell ∧
    column.Cell cell s

/-- This is the name of the first column that is not filled. -/
def FirstUnfilled (row : Object) (columns : List RequiredColumn) (name : String) : Prop :=
  ∃ before column after, columns = before ++ column :: after ∧ name = column.name ∧
    ¬ IsFilled row column ∧ ∀ earlier ∈ before, IsFilled row earlier

theorem not_firstUnfilled_nil : ¬ FirstUnfilled row [] name := by
  rintro ⟨before, column, after, hsplit, -⟩
  simp at hsplit

theorem firstUnfilled_cons_iff :
    FirstUnfilled row (column :: columns) name ↔
      (¬ IsFilled row column ∧ name = column.name) ∨
        IsFilled row column ∧ FirstUnfilled row columns name := by
  constructor
  · rintro ⟨before, first, after, hsplit, hname, hfirst, hbefore⟩
    cases before with
    | nil =>
        obtain ⟨rfl, rfl⟩ := List.cons.inj hsplit
        exact .inl ⟨hfirst, hname⟩
    | cons _ before =>
        obtain ⟨rfl, rfl⟩ := List.cons.inj hsplit
        obtain ⟨hfilled, hbefore⟩ := List.forall_mem_cons.mp hbefore
        exact .inr ⟨hfilled, before, first, after, rfl, hname, hfirst, hbefore⟩
  · rintro (⟨hunfilled, hname⟩ | ⟨hfilled, before, first, after, rfl, hname, hfirst, hbefore⟩)
    · exact ⟨[], column, columns, rfl, hname, hunfilled, nofun⟩
    · exact ⟨column :: before, first, after, rfl, hname, hfirst,
        List.forall_mem_cons.mpr ⟨hfilled, hbefore⟩⟩

theorem exists_firstUnfilled_iff :
    (∃ name, FirstUnfilled row columns name) ↔ ¬ ∀ column ∈ columns, IsFilled row column := by
  induction columns with
  | nil => simp [not_firstUnfilled_nil]
  | cons column columns ih =>
      simp only [firstUnfilled_cons_iff, exists_or, exists_and_left, exists_eq, and_true, ih,
        List.forall_mem_cons]
      tauto

/-- A reading is refused for the first of these columns that is not filled, and for nothing else. -/
def Asks (row : Object) (columns : List RequiredColumn) (x : Except RowError α) : Prop :=
  ∀ e, x = .error e ↔ ∃ name, e = .missingField name ∧ FirstUnfilled row columns name

theorem asks_pure (a : α) : Asks row [] (pure a) := by
  intro e
  simp [pure, Except.pure, not_firstUnfilled_nil]

theorem asks_singleton {x : Except RowError α} (hfilled : IsFilled row column → ∃ a, x = .ok a)
    (hunfilled : ¬ IsFilled row column → x = .error (.missingField column.name)) :
    Asks row [column] x := by
  intro e
  simp only [firstUnfilled_cons_iff, not_firstUnfilled_nil, and_false, or_false]
  by_cases h : IsFilled row column
  · obtain ⟨a, rfl⟩ := hfilled h
    simp [h]
  · rw [hunfilled h]
    simp [h, eq_comm]

theorem Asks.exists_ok_iff {x : Except RowError α} (h : Asks row columns x) :
    (∃ a, x = .ok a) ↔ ∀ column ∈ columns, IsFilled row column := by
  have herror : (∃ e, x = .error e) ↔ ∃ name, FirstUnfilled row columns name := by
    simp only [h _]
    exact ⟨fun ⟨_, name, _, hname⟩ => ⟨name, hname⟩, fun ⟨name, hname⟩ => ⟨_, name, rfl, hname⟩⟩
  rw [← not_iff_not, ← exists_firstUnfilled_iff, ← herror]
  cases x <;> simp

theorem Asks.bind {x : Except RowError α} {f : α → Except RowError β} (hx : Asks row [column] x)
    (hf : ∀ a, Asks row columns (f a)) : Asks row (column :: columns) (x >>= f) := by
  intro e
  have hfilled := hx.exists_ok_iff
  have herror := hx e
  simp only [List.forall_mem_singleton] at hfilled
  simp only [firstUnfilled_cons_iff, not_firstUnfilled_nil, and_false, or_false] at herror ⊢
  cases x with
  | ok a =>
      have hcolumn := hfilled.mp ⟨a, rfl⟩
      change f a = .error e ↔ _
      simpa [hcolumn] using hf a e
  | error e' =>
      have hcolumn : ¬ IsFilled row column := fun h => by simpa using hfilled.mpr h
      change Except.error e' = .error e ↔ _
      simpa [hcolumn] using herror

theorem exists_supplies_iff : (∃ s, Supplies row column s) ↔ IsFilled row column := by
  have hfirst := @Fields.exists_first_iff _ row column.aliases (fun v => ∃ t, column.Cell v t)
  rw [IsFilled, ← hfirst]
  constructor
  · rintro ⟨s, name, cell, hcell, -⟩
    exact ⟨name, cell, hcell⟩
  · rintro ⟨name, cell, hcell⟩
    obtain ⟨s, hs⟩ := hcell.usable
    exact ⟨s, name, cell, hcell, hs⟩

theorem supplies_singleton_iff {Cell : Json → String → Prop} {s : String} :
    Supplies row ⟨name, [name], Cell⟩ s ↔
      ∃ cell, Fields.get? row name = some cell ∧ Cell cell s := by
  simp only [Supplies, Fields.first_singleton_iff]
  constructor
  · rintro ⟨_, cell, ⟨rfl, hvalue, -⟩, hcell⟩
    exact ⟨cell, hvalue, hcell⟩
  · rintro ⟨cell, hvalue, hcell⟩
    exact ⟨name, cell, ⟨rfl, hvalue, s, hcell⟩, hcell⟩

theorem supplies_textKey_iff {kind : KeyKind} {s : String} :
    Supplies row (textKey kind) s ↔ s ≠ "" ∧ Row.TextKey row kind s := by
  rw [textKey, supplies_singleton_iff]
  constructor
  · rintro ⟨_, hvalue, ⟨t, hblank⟩⟩
    exact ⟨hblank, t, hvalue, rfl⟩
  · rintro ⟨hne, t, hvalue, rfl⟩
    exact ⟨_, hvalue, .text t hne⟩

theorem supplies_text_iff {s : String} :
    Supplies row (text name) s ↔ Fields.get? row name = some (.string s) := by
  simp [text, supplies_singleton_iff]

/-- A step that gives what its column supplies, and otherwise is refused for it, asks for the
column. -/
theorem asks_of_supplies {x : Except RowError α} {textOf : α → String}
    (hok : ∀ a, x = .ok a ↔ Supplies row column (textOf a))
    (hall : ∀ s, Supplies row column s → ∃ a, textOf a = s)
    (herror : ∀ e, x = .error e → e = .missingField column.name) : Asks row [column] x := by
  apply asks_singleton
  · intro hfilled
    obtain ⟨s, hs⟩ := exists_supplies_iff.mpr hfilled
    obtain ⟨a, rfl⟩ := hall s hs
    exact ⟨a, (hok a).mpr hs⟩
  · intro hunfilled
    cases x with
    | ok a => exact absurd (exists_supplies_iff.mp ⟨_, (hok a).mp rfl⟩) hunfilled
    | error e => rw [herror e rfl]

theorem exists_key_of_supplies {kind : KeyKind} {s : String} (h : Supplies row (key kind) s) :
    ∃ k : Key kind, Key.ofText? s = some k ∧ k.text = s := by
  obtain ⟨_, _, _, hcell⟩ := h
  obtain ⟨k, rfl⟩ := Row.KeyCell.exists_key hcell kind
  exact ⟨k, k.ofText?_text, rfl⟩

theorem asks_key (kind : KeyKind) : Asks row [key kind] (Row.key row kind) := by
  refine asks_of_supplies (fun _ => Row.key_eq_ok_iff) ?_ ?_
  · intro s hs
    obtain ⟨k, -, hk⟩ := exists_key_of_supplies hs
    exact ⟨k, hk⟩
  · intro e he
    rw [Row.key] at he
    split at he <;> cases he
    rfl

theorem asks_textKey (kind : KeyKind) : Asks row [textKey kind] (Row.textKey row kind) := by
  have hok (k : Key kind) :
      Row.textKey row kind = .ok k ↔ Supplies row (textKey kind) k.text := by
    rw [Row.textKey_eq_ok_iff, supplies_textKey_iff, and_iff_right k.isNonempty]
  refine asks_of_supplies hok ?_ ?_
  · intro s hs
    obtain ⟨hne, t, -, rfl⟩ := supplies_textKey_iff.mp hs
    exact ⟨⟨_, Text.trimmed_trimmed t, hne⟩, rfl⟩
  · intro e he
    rw [Row.textKey] at he
    split at he <;> cases he
    rfl

theorem asks_text (name : String) : Asks row [text name] (Row.text row name) := by
  have hok (s : String) : Row.text row name = .ok s ↔ Supplies row (text name) (id s) :=
    Row.text_eq_ok_iff.trans supplies_text_iff.symm
  refine asks_of_supplies hok (fun s _ => ⟨s, rfl⟩) ?_
  intro e he
  rw [Row.text] at he
  split at he <;> cases he
  rfl

end RequiredColumn

open RequiredColumn

/-- A reader of rows refuses what is no object, and an object for the first of its columns that is
not filled. Else it gives a record with the texts that the columns supply. -/
structure Requires {α : Type} (read : Json → Except RowError α) (columns : List RequiredColumn)
    (texts : α → List String) : Prop where
  notAnObject_iff (row : Json) : read row = .error .notAnObject ↔ ∀ fields, row ≠ .object fields
  missingField_iff (fields : Object) (name : String) :
    read (.object fields) = .error (.missingField name) ↔ FirstUnfilled fields columns name
  exists_ok_iff (fields : Object) :
    (∃ record, read (.object fields) = .ok record) ↔ ∀ column ∈ columns, IsFilled fields column
  supplies (fields : Object) (record : α) : read (.object fields) = .ok record →
    List.Forall₂ (Supplies fields) columns (texts record)

section

variable {α : Type} {read : Json → Except RowError α} {columns : List RequiredColumn}
  {texts : α → List String} {readFields : Object → Except RowError α}

theorem requires_of_asks (hread : ∀ row, read row = Row.object row >>= readFields)
    (hasks : ∀ fields, Asks fields columns (readFields fields))
    (hsupplies : ∀ fields record, read (.object fields) = .ok record →
      List.Forall₂ (Supplies fields) columns (texts record)) : Requires read columns texts := by
  have hobject (fields : Object) : read (.object fields) = readFields fields := hread _
  refine ⟨?_, ?_, ?_, hsupplies⟩
  · intro row
    cases row with
    | object fields => simp [hobject, hasks fields _]
    | _ => simp [hread, Row.object, bind, Except.bind]
  · intro fields name
    simp [hobject, hasks fields _]
  · intro fields
    rw [hobject]
    exact (hasks fields).exists_ok_iff

end

theorem Requirement.requires :
    Requires Requirement.ofRow [.key .jurisdiction, .key .permitType, .key .documentType]
      fun r => [r.jurisdiction.text, r.permitType.text, r.documentType.text] := by
  refine requires_of_asks (fun _ => rfl) ?_ ?_
  · intro fields
    exact (asks_key _).bind fun _ => (asks_key _).bind fun _ => (asks_key _).bind fun _ =>
      asks_pure _
  · intro fields r hread
    obtain ⟨_, hrow, hjurisdiction, hpermit, htype, -⟩ := Requirement.ofRow_eq_ok_iff.mp hread
    cases hrow
    exact .cons hjurisdiction (.cons hpermit (.cons htype .nil))

theorem DocumentType.requires :
    Requires DocumentType.ofRow [.key .documentType] fun t => [t.key.text] := by
  refine requires_of_asks (fun _ => rfl) ?_ ?_
  · intro fields
    exact (asks_key _).bind fun _ => asks_pure _
  · intro fields t hread
    obtain ⟨_, hrow, hkey, -⟩ := DocumentType.ofRow_eq_ok_iff.mp hread
    cases hrow
    exact .cons hkey .nil

theorem Document.requires :
    Requires Document.ofRow [.key .project, .key .documentType]
      fun d => [d.project.text, d.documentType.text] := by
  refine requires_of_asks (fun _ => rfl) ?_ ?_
  · intro fields
    exact (asks_key _).bind fun _ => (asks_key _).bind fun _ => asks_pure _
  · intro fields d hread
    obtain ⟨_, hrow, hproject, htype, -⟩ := Document.ofRow_eq_ok_iff.mp hread
    cases hrow
    exact .cons hproject (.cons htype .nil)

theorem Project.requires :
    Requires Project.ofRow
      [.textKey .project, .textKey .jurisdiction, .textKey .permitType, .text "created_at"]
      fun p => [p.id.text, p.jurisdiction.text, p.permitType.text, p.createdAt] := by
  refine requires_of_asks (fun _ => rfl) ?_ ?_
  · intro fields
    exact (asks_textKey _).bind fun _ => (asks_textKey _).bind fun _ =>
      (asks_textKey _).bind fun _ => (asks_text _).bind fun _ => asks_pure _
  · intro fields p hread
    obtain ⟨_, hrow, hid, hjurisdiction, hpermit, hcreated, -⟩ := Project.ofRow_eq_ok_iff.mp hread
    cases hrow
    exact .cons (supplies_textKey_iff.mpr ⟨p.id.isNonempty, hid⟩)
      (.cons (supplies_textKey_iff.mpr ⟨p.jurisdiction.isNonempty, hjurisdiction⟩)
        (.cons (supplies_textKey_iff.mpr ⟨p.permitType.isNonempty, hpermit⟩)
          (.cons (supplies_text_iff.mpr hcreated) .nil)))

/-- The columns that each reader requires. The text of a cell that is taken for a key is never
refused afterwards. -/
theorem readers_require_columns :
    Requires Requirement.ofRow [.key .jurisdiction, .key .permitType, .key .documentType]
      (fun r => [r.jurisdiction.text, r.permitType.text, r.documentType.text]) ∧
    Requires DocumentType.ofRow [.key .documentType] (fun t => [t.key.text]) ∧
    Requires Document.ofRow [.key .project, .key .documentType]
      (fun d => [d.project.text, d.documentType.text]) ∧
    Requires Project.ofRow
      [.textKey .project, .textKey .jurisdiction, .textKey .permitType, .text "created_at"]
      (fun p => [p.id.text, p.jurisdiction.text, p.permitType.text, p.createdAt]) ∧
    ∀ (row : Object) (kind : KeyKind) (s : String), Supplies row (.key kind) s →
      ∃ k : Key kind, Key.ofText? s = some k ∧ k.text = s :=
  ⟨Requirement.requires, DocumentType.requires, Document.requires, Project.requires,
    fun _ _ _ => exists_key_of_supplies⟩

theorem readers_require_columns_last_name :
    let upload : Object := [("doc_type_key", .bool true), ("document_type", .string " plan "),
      ("document_type_key", .string " "), ("project_id", .number (.integer 42 (by decide)))]
    let house : Object := [("created_at", .null), ("municipality_key", .string "marin"),
      ("permit_type_key", .string "solar"), ("project_id", .string "p-1")]
    let columns : List RequiredColumn :=
      [.textKey .project, .textKey .jurisdiction, .textKey .permitType, .text "created_at"]
    (Supplies upload (.key .project) "42" ∧ Supplies upload (.key .documentType) "plan") ∧
      (∃ k : Key .project, Key.ofText? "42" = some k ∧ k.text = "42") ∧
      FirstUnfilled house columns "created_at" := by
  intro upload house columns
  obtain ⟨-, -, hdocument, hproject, haccepted⟩ := readers_require_columns
  have hupload :
      List.Forall₂ (Supplies upload) [.key .project, .key .documentType] ["42", "plan"] :=
    hdocument.supplies upload _ rfl
  obtain _ | ⟨hid, _ | ⟨htype, -⟩⟩ := hupload
  have hhouse : Project.ofRow (.object house) = .error (.missingField "created_at") := rfl
  exact ⟨⟨hid, htype⟩, haccepted upload .project "42" hid,
    (hproject.missingField_iff house "created_at").mp hhouse⟩

end FilingChecklist
